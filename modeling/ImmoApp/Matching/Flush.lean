import ImmoApp.Matching.RebuildState
import ImmoApp.Foundation.Runs

/-!
# Scheduling the flush

A request for a demande commits its row and then adds the lock key to the cache and queues a flush task or, where the
key is there already, sets a marker.  A flush claims rows, starts batch tasks, deletes the lock key, reads the marker,
deletes it, and schedules another flush if there is more to do.  These steps interleave.

`flush_covers_waiting`: where every marker is set while a flush is queued or has yet to read it, and none is set between
a flush's read and its deletion, a quiet state with a row that waits has a flush queued.
-/

namespace ImmoApp.Matching

open Dict
open Bool hiding not_or

open Option

structure FlushSettings where
  pendingStaleSec : ℤ
  debounceSeconds : ℕ
  batchSize : ℕ
  maxBatches : ℕ
  dispatchClaimTtlSec : ℕ

inductive FlushPhase where
  /-- `schedule_demande_rebuild_flush`: about to add the lock key. -/
  | adding
  | enqueueing
  | marking
  /-- A flush with its advisory lock, and the number of batches it may still claim. -/
  | claiming (left : ℕ)
  /-- About to delete the lock key; `skipped` says that the advisory lock was taken. -/
  | clearing (skipped : Bool)
  | popping
  | deleting (requested : Bool)
  | counting (requested : Bool)
  deriving DecidableEq

def FlushPhase.isClaiming : FlushPhase → Bool
  | .claiming _ => true
  | _ => false

structure FlushDesk where
  now : ℕ
  table : RebuildTable
  lock : Bool
  marker : Bool
  queue : List ℕ
  actors : Dict ℕ FlushPhase

def FlushDesk.init : FlushDesk := ⟨0, [], false, false, [], []⟩

inductive FlushAction where
  | tick (seconds : ℕ)
  /-- `enqueue_rebuild_demande_pairs`: the request. -/
  | request (actor demandeId : ℕ)
  /-- `enqueue_rebuild_demande_pairs_batch`: the requests. -/
  | requestBatch (actor : ℕ) (demandeIds : List ℕ)
  | add (actor : ℕ)
  | enqueue (actor : ℕ)
  | mark (actor : ℕ)
  /-- A worker takes a queued flush that is due, and tries the advisory lock. -/
  | start (actor index : ℕ)
  /-- `dequeue_demande_rebuild_batch`, with the ids of rows that others have locked. -/
  | claim (actor : ℕ) (token : String) (locked : List ℕ)
  | clear (actor : ℕ)
  /-- The read of `pop_demande_rebuild_flush_requested`. -/
  | read (actor : ℕ)
  /-- The deletion of `pop_demande_rebuild_flush_requested`. -/
  | delete (actor : ℕ)
  /-- `count_pending_demande_rebuilds`. -/
  | count (actor : ℕ)

variable (settings : FlushSettings)

namespace FlushDesk

def goOn (s : FlushDesk) (actor : ℕ) (phase : FlushPhase) : FlushDesk :=
  { s with actors := s.actors.set actor phase }

def done (s : FlushDesk) (actor : ℕ) : FlushDesk := { s with actors := s.actors.erase actor }

def called (s : FlushDesk) (actor : ℕ) (shouldEnqueue : Bool) : FlushDesk :=
  if shouldEnqueue then s.goOn actor .adding else s

def clock (s : FlushDesk) : Clock := ⟨s.now, s.now⟩

def step (s : FlushDesk) : FlushAction → Option FlushDesk
  | .tick seconds => some { s with now := s.now + seconds }
  | .request actor demandeId =>
    if (s.actors.get? actor).isSome then none
    else
      let result := requestRebuild settings.pendingStaleSec .demande demandeId
        settings.debounceSeconds s.clock s.table
      some ({ s with table := result.1 }.called actor result.2)
  | .requestBatch actor demandeIds =>
    if (s.actors.get? actor).isSome then none
    else
      let result := requestRebuildBatch settings.pendingStaleSec .demande demandeIds
        settings.debounceSeconds s.clock s.table
      some ({ s with table := result.1 }.called actor (!result.2.isEmpty))
  | .add actor =>
    if s.actors.get? actor = some .adding then
      if s.lock then some (s.goOn actor .marking)
      else some ({ s with lock := true }.goOn actor .enqueueing)
    else none
  | .enqueue actor =>
    if s.actors.get? actor = some .enqueueing then
      some ({ s with queue := s.queue ++ [s.now + settings.debounceSeconds] }.done actor)
    else none
  | .mark actor =>
    if s.actors.get? actor = some .marking then some ({ s with marker := true }.done actor)
    else none
  | .start actor index =>
    match s.queue[index]? with
    | none => none
    | some eta =>
      if (s.actors.get? actor).isSome ∨ s.now < eta then none
      else if s.actors.any fun e => e.2.isClaiming then
        some ({ s with queue := s.queue.eraseIdx index }.goOn actor (.clearing true))
      else
        some ({ s with queue := s.queue.eraseIdx index }.goOn actor (.claiming settings.maxBatches))
  | .claim actor token locked =>
    match s.actors.get? actor with
    | some (.claiming 0) => some (s.goOn actor (.clearing false))
    | some (.claiming (left + 1)) =>
      let result := claimDispatchableScopeIds .demande (max 1 settings.batchSize) token
        (max 10 settings.dispatchClaimTtlSec) locked s.now s.table
      some ({ s with table := result.1 }.goOn actor (if result.2 = [] then .clearing false else .claiming left))
    | _ => none
  | .clear actor =>
    match s.actors.get? actor with
    | some (.clearing true) => some ({ s with lock := false }.done actor)
    | some (.clearing false) => some ({ s with lock := false }.goOn actor .popping)
    | _ => none
  | .read actor =>
    if s.actors.get? actor = some .popping then some (s.goOn actor (.deleting s.marker)) else none
  | .delete actor =>
    match s.actors.get? actor with
    | some (.deleting requested) => some ({ s with marker := false }.goOn actor (.counting requested))
    | _ => none
  | .count actor =>
    match s.actors.get? actor with
    | some (.counting requested) =>
      if 0 < countDispatchable s.table .demande s.now || requested then some (s.goOn actor .adding)
      else some (s.done actor)
    | _ => none

def Quiet (s : FlushDesk) : Prop := s.actors = []

end FlushDesk

def RebuildRow.waits (r : RebuildRow) : Bool := r.pending && r.dispatchClaimExpiresAt.isNone

def FlushPhase.reads : FlushPhase → Bool
  | .enqueueing | .claiming _ | .clearing false | .popping => true
  | _ => false

/-- The condition on a step: a marker is set while a flush is queued or has yet to read it, and no marker
is set between a flush's read and its deletion. -/
def MarkerRead (s : FlushDesk) : FlushAction → Prop
  | .mark _ => s.queue ≠ [] ∨ ∃ e ∈ s.actors, e.2.reads = true
  | .delete actor => s.actors.get? actor = some (.deleting false) → s.marker = false
  | _ => True

instance (s : FlushDesk) (a : FlushAction) : Decidable (MarkerRead s a) :=
  match a with
  | .mark _ => inferInstanceAs (Decidable (s.queue ≠ [] ∨ ∃ e ∈ s.actors, e.2.reads = true))
  | .delete actor => inferInstanceAs
      (Decidable (s.actors.get? actor = some (.deleting false) → s.marker = false))
  | .tick .. | .request .. | .requestBatch .. | .add .. | .enqueue .. | .start .. | .claim .. |
    .clear .. | .read .. | .count .. => .isTrue trivial

/-! ### Who is on the way -/

def Has (actors : Dict ℕ FlushPhase) (p : FlushPhase → Bool) : Prop := ∃ e ∈ actors, p e.2 = true

section Actors

variable {actors : Dict ℕ FlushPhase} {p : FlushPhase → Bool} {actor : ℕ} {f g : FlushPhase}

lemma has_set_self (hp : p g = true) : Has (actors.set actor g) p :=
  ⟨(actor, g), mem_set.mpr (.inl rfl), hp⟩

lemma Has.set (hkeys : (actors.map Prod.fst).Nodup) (h : Has actors p)
    (himp : ∀ f, actors.get? actor = some f → p f = true → p g = true) :
    Has (actors.set actor g) p := by
  obtain ⟨⟨actor', f⟩, he, hp⟩ := h
  by_cases hactor : actor' = actor
  · subst hactor
    exact has_set_self (himp f (get?_of_mem hkeys he) hp)
  · exact ⟨(actor', f), mem_set.mpr (.inr ⟨he, hactor⟩), hp⟩

lemma Has.erase (hkeys : (actors.map Prod.fst).Nodup) (h : Has actors p)
    (hget : actors.get? actor = some f) (hp : p f = false) : Has (actors.erase actor) p := by
  obtain ⟨⟨actor', f'⟩, he, hp'⟩ := h
  have hactor : actor' ≠ actor := by
    rintro rfl
    obtain rfl : f' = f := some.inj ((get?_of_mem hkeys he).symm.trans hget)
    exact absurd (hp'.symm.trans hp) (by simp)
  exact ⟨(actor', f'), mem_erase.mpr ⟨he, hactor⟩, hp'⟩

end Actors

def FlushPhase.holds : FlushPhase → Bool
  | .enqueueing | .claiming _ | .clearing _ => true
  | _ => false

def FlushPhase.schedules : FlushPhase → Bool
  | .adding | .enqueueing | .deleting true | .counting true => true
  | _ => false

def FlushPhase.marks : FlushPhase → Bool
  | .marking => true
  | _ => false

def FlushPhase.counts : FlushPhase → Bool
  | .claiming _ | .clearing false | .popping | .deleting _ | .counting _ => true
  | _ => false

inductive Cover (s : FlushDesk) (r : RebuildRow) : Prop
  | schedules (h : Has s.actors FlushPhase.schedules)
  | marks (h : Has s.actors FlushPhase.marks)
  | read (hmarker : s.marker = true) (h : s.queue ≠ [] ∨ Has s.actors FlushPhase.reads)
  | queued (eta : ℕ) (h : eta ∈ s.queue) (hdue : r.dispatchAfter ≤ eta)
  | counted (hdue : r.dispatchAfter ≤ s.now) (h : Has s.actors FlushPhase.counts)

variable {s s' : FlushDesk}

variable {r : RebuildRow} {token : String} {locked : List ℕ}

lemma Cover.goOn {actor : ℕ} {f g : FlushPhase}
    (h : Cover s r) (hkeys : (s.actors.map Prod.fst).Nodup) (hget : s.actors.get? actor = some f)
    (hactors : s'.actors = s.actors.set actor g) (hnow : s'.now = s.now) (hqueue : s'.queue = s.queue)
    (hmarker : s.marker = true → s'.marker = true ∨ g.schedules = true)
    (hschedules : f.schedules = true → g.schedules = true ∨ g.marks = true)
    (hmarks : f.marks = true → g.marks = true)
    (hreads : s.marker = true → f.reads = true → g.reads = true ∨ g.schedules = true)
    (hcounts : f.counts = true → g.counts = true ∨ g.schedules = true) : Cover s' r := by
  by_cases hgs : g.schedules = true
  · exact .schedules (hactors ▸ has_set_self hgs)
  · cases h with
    | schedules h =>
      by_cases hgm : g.marks = true
      · exact .marks (hactors ▸ has_set_self hgm)
      · refine .schedules (hactors ▸ h.set hkeys fun f' hf' hp => ?_)
        obtain rfl : f = f' := some.inj (hget.symm.trans hf')
        exact ((hschedules hp).resolve_right hgm)
    | marks h =>
      refine .marks (hactors ▸ h.set hkeys fun f' hf' hp => ?_)
      obtain rfl : f = f' := some.inj (hget.symm.trans hf')
      exact hmarks hp
    | read hset h =>
      refine .read ((hmarker hset).resolve_right hgs) ?_
      rcases h with h | h
      · exact .inl (hqueue ▸ h)
      · refine .inr (hactors ▸ h.set hkeys fun f' hf' hp => ?_)
        obtain rfl : f = f' := some.inj (hget.symm.trans hf')
        exact (hreads hset hp).resolve_right hgs
    | queued eta h hdue => exact .queued eta (hqueue ▸ h) hdue
    | counted hdue h =>
      refine .counted (hnow ▸ hdue) (hactors ▸ h.set hkeys fun f' hf' hp => ?_)
      obtain rfl : f = f' := some.inj (hget.symm.trans hf')
      exact (hcounts hp).resolve_right hgs

/-! ### The invariant -/

/-- The lock key is held for one flush at a time, and every waiting row is covered. -/
structure Orderly (s : FlushDesk) : Prop where
  keys : (s.actors.map Prod.fst).Nodup
  /-- Without the lock key there is no flush before its deletion. -/
  free : s.lock = false → s.queue = [] ∧ ∀ e ∈ s.actors, e.2.holds = false
  short : s.queue.length ≤ 1
  /-- While one is queued nobody else holds the lock key. -/
  queued : s.queue ≠ [] → ∀ e ∈ s.actors, e.2.holds = false
  single : ∀ e ∈ s.actors, ∀ e' ∈ s.actors, e.2.holds = true → e'.2.holds = true → e.1 = e'.1
  unskipped : ∀ e ∈ s.actors, e.2 ≠ .clearing true
  /-- No row is delayed longer than a flush that is queued now. -/
  delays : ∀ id r, s.table.get? (.demande, id) = some r → r.dispatchAfter ≤ s.now + settings.debounceSeconds
  covered : ∀ id r, s.table.get? (.demande, id) = some r → r.waits = true → Cover s r

variable {settings : FlushSettings}

lemma orderly_init : Orderly settings FlushDesk.init := by
  constructor <;> simp [FlushDesk.init]

/-- What an actor that goes on without touching the queue keeps, whatever it does to the lock key. -/
lemma Orderly.goOn (h : Orderly settings s) {actor : ℕ} {f g : FlushPhase}
    (hget : s.actors.get? actor = some f) (hactors : s'.actors = s.actors.set actor g)
    (hqueue : s'.queue = s.queue)
    (hlock : s'.lock = s.lock ∧ (g.holds = true → f.holds = true) ∨
      s.lock = false ∧ s'.lock = true ∨ f.holds = true ∧ g.holds = false ∧ s'.lock = false)
    (hskip : g ≠ .clearing true)
    (hrows : ∀ id r, s'.table.get? (.demande, id) = some r → r.dispatchAfter ≤ s'.now + settings.debounceSeconds)
    (hcover : ∀ id r, s'.table.get? (.demande, id) = some r → r.waits = true → Cover s' r) :
    Orderly settings s' := by
  have hmem : (actor, f) ∈ s.actors := mem_of_get? hget
  have hcases : ∀ e ∈ s'.actors, e = (actor, g) ∨ e ∈ s.actors ∧ e.1 ≠ actor := by
    intro e he
    rw [hactors] at he
    exact mem_set.mp he
  constructor
  · rw [hactors]
    exact nodup_keys_set h.keys actor g
  · intro hfree
    rcases hlock with ⟨heq, himp⟩ | ⟨-, htaken⟩ | ⟨hf, hg, -⟩
    · obtain ⟨hempty, hnone⟩ := h.free (heq ▸ hfree)
      refine ⟨hqueue ▸ hempty, fun e he => ?_⟩
      rcases hcases e he with rfl | ⟨he, -⟩
      · by_contra hholds
        have hf := himp (by simpa using hholds)
        exact absurd (hnone _ hmem) (by simp [hf])
      · exact hnone e he
    · exact absurd (htaken.symm.trans hfree) (by simp)
    · have hempty : s.queue = [] := by
        by_contra hne
        exact absurd (h.queued hne _ hmem) (by simp [hf])
      refine ⟨hqueue ▸ hempty, fun e he => ?_⟩
      rcases hcases e he with rfl | ⟨he, hne⟩
      · exact hg
      · by_contra hholds
        exact hne (h.single e he (actor, f) hmem (by simpa using hholds) hf)
  · rw [hqueue]
    exact h.short
  · intro hne e he
    rw [hqueue] at hne
    rcases hcases e he with rfl | ⟨he, -⟩
    · rcases hlock with ⟨-, himp⟩ | ⟨hfree, -⟩ | ⟨-, hg, -⟩
      · by_contra hholds
        have hf := himp (by simpa using hholds)
        exact absurd (h.queued hne _ hmem) (by simp [hf])
      · exact absurd (h.free hfree).1 hne
      · exact hg
    · exact h.queued hne e he
  · have hothers : g.holds = true → ∀ e ∈ s.actors, e.1 ≠ actor → e.2.holds = false := by
      intro hg e he hne
      rcases hlock with ⟨-, himp⟩ | ⟨hfree, -⟩ | ⟨-, hg', -⟩
      · by_contra hholds
        exact hne (h.single e he (actor, f) hmem (by simpa using hholds) (himp hg))
      · exact (h.free hfree).2 e he
      · exact absurd (hg.symm.trans hg') (by simp)
    intro e he e' he' hholds hholds'
    rcases hcases e he with rfl | ⟨he, hne⟩
    · rcases hcases e' he' with rfl | ⟨he', hne'⟩
      · rfl
      · exact absurd hholds' (by simp [hothers hholds e' he' hne'])
    · rcases hcases e' he' with rfl | ⟨he', _⟩
      · exact absurd hholds (by simp [hothers hholds' e he hne])
      · exact h.single e he e' he' hholds hholds'
  · intro e he
    rcases hcases e he with rfl | ⟨he, -⟩
    · exact hskip
    · exact h.unskipped e he
  · exact hrows
  · exact hcover

lemma Orderly.done (h : Orderly settings s) {actor : ℕ} {f : FlushPhase}
    (hget : s.actors.get? actor = some f) (hactors : s'.actors = s.actors.erase actor)
    (hnow : s'.now = s.now) (hlock : s'.lock = s.lock) (htable : s'.table = s.table)
    (hqueue : s'.queue = s.queue ∨ f.holds = true ∧ s'.queue.length = s.queue.length + 1)
    (hcover : ∀ id r, s'.table.get? (.demande, id) = some r → r.waits = true → Cover s' r) :
    Orderly settings s' := by
  have hmem : (actor, f) ∈ s.actors := mem_of_get? hget
  have hcases : ∀ e ∈ s'.actors, e ∈ s.actors ∧ e.1 ≠ actor := by
    intro e he
    rw [hactors] at he
    exact mem_erase.mp he
  have hempty : f.holds = true → s.queue = [] := by
    intro hf
    by_contra hne
    exact absurd (h.queued hne _ hmem) (by simp [hf])
  constructor
  · rw [hactors]
    exact nodup_keys_erase h.keys actor
  · intro hfree
    obtain ⟨hnil, hnone⟩ := h.free (hlock ▸ hfree)
    refine ⟨?_, fun e he => hnone e (hcases e he).1⟩
    rcases hqueue with hqueue | ⟨hf, -⟩
    · rw [hqueue, hnil]
    · exact absurd (hnone _ hmem) (by simp [hf])
  · rcases hqueue with hqueue | ⟨hf, hlength⟩
    · rw [hqueue]
      exact h.short
    · simp [hlength, hempty hf]
  · intro hne e he
    obtain ⟨he, hactor⟩ := hcases e he
    rcases hqueue with hqueue | ⟨hf, -⟩
    · exact h.queued (hqueue ▸ hne) e he
    · by_contra hholds
      exact hactor (h.single e he (actor, f) hmem (by simpa using hholds) hf)
  · intro e he e' he'
    exact h.single e (hcases e he).1 e' (hcases e' he').1
  · exact fun e he => h.unskipped e (hcases e he).1
  · rw [htable, hnow]
    exact h.delays
  · exact hcover

lemma Orderly.enter (h : Orderly settings s) {actor : ℕ} {g : FlushPhase}
    (hactors : s'.actors = s.actors.set actor g) (hlock : s'.lock = s.lock)
    (hqueue : s'.queue = s.queue ∧ g.holds = false ∨ s.queue ≠ [] ∧ s'.queue = [])
    (hskip : g ≠ .clearing true)
    (hrows : ∀ id r, s'.table.get? (.demande, id) = some r → r.dispatchAfter ≤ s'.now + settings.debounceSeconds)
    (hcover : ∀ id r, s'.table.get? (.demande, id) = some r → r.waits = true → Cover s' r) :
    Orderly settings s' := by
  have hcases : ∀ e ∈ s'.actors, e = (actor, g) ∨ e ∈ s.actors ∧ e.1 ≠ actor := by
    intro e he
    rw [hactors] at he
    exact mem_set.mp he
  constructor
  · rw [hactors]
    exact nodup_keys_set h.keys actor g
  · intro hfree
    obtain ⟨hempty, hnone⟩ := h.free (hlock ▸ hfree)
    rcases hqueue with ⟨hqueue, hg⟩ | ⟨hne, -⟩
    · refine ⟨hqueue ▸ hempty, fun e he => ?_⟩
      rcases hcases e he with rfl | ⟨he, -⟩
      · exact hg
      · exact hnone e he
    · exact absurd hempty hne
  · rcases hqueue with ⟨hqueue, -⟩ | ⟨-, hqueue⟩
    · rw [hqueue]
      exact h.short
    · simp [hqueue]
  · intro hne e he
    rcases hqueue with ⟨hqueue, hg⟩ | ⟨-, hqueue⟩
    · rcases hcases e he with rfl | ⟨he, -⟩
      · exact hg
      · exact h.queued (hqueue ▸ hne) e he
    · exact absurd hqueue hne
  · have hothers : g.holds = true → ∀ e ∈ s.actors, e.2.holds = false := by
      intro hg
      rcases hqueue with ⟨-, hg'⟩ | ⟨hne, -⟩
      · exact absurd (hg.symm.trans hg') (by simp)
      · exact h.queued hne
    intro e he e' he' hholds hholds'
    rcases hcases e he with rfl | ⟨he, -⟩
    · rcases hcases e' he' with rfl | ⟨he', -⟩
      · rfl
      · exact absurd hholds' (by simp [hothers hholds e' he'])
    · rcases hcases e' he' with rfl | ⟨he', -⟩
      · exact absurd hholds (by simp [hothers hholds' e he])
      · exact h.single e he e' he' hholds hholds'
  · intro e he
    rcases hcases e he with rfl | ⟨he, -⟩
    · exact hskip
    · exact h.unskipped e he
  · exact hrows
  · exact hcover

/-! ### Requests -/

lemma Orderly.called (h : Orderly settings s) {actor : ℕ}
    {table : RebuildTable} {shouldEnqueue : Bool}
    (hrow : ∀ id r, table.get? (.demande, id) = some r → s.table.get? (.demande, id) = some r ∨
      r.dispatchAfter ≤ s.now + settings.debounceSeconds ∧
        (shouldEnqueue = false → r.dispatchClaimExpiresAt ≠ none)) :
    Orderly settings ({ s with table := table }.called actor shouldEnqueue) := by
  have hdelays : ∀ id r, table.get? (.demande, id) = some r → r.dispatchAfter ≤ s.now + settings.debounceSeconds := by
    intro id r hr
    rcases hrow id r hr with hr | ⟨hdelay, -⟩
    · exact h.delays id r hr
    · exact hdelay
  cases shouldEnqueue with
  | true =>
    refine h.enter rfl rfl (.inl ⟨rfl, rfl⟩) (by simp) hdelays fun id r hr hwaits => ?_
    exact .schedules (has_set_self rfl)
  | false =>
    refine { h with delays := hdelays, covered := fun id r hr hwaits => ?_ }
    rcases hrow id r hr with hr | ⟨-, hclaimed⟩
    · cases h.covered id r hr hwaits with
      | schedules h => exact .schedules h
      | marks h => exact .marks h
      | read hmarker h => exact .read hmarker h
      | queued eta h hdue => exact .queued eta h hdue
      | counted hdue h => exact .counted hdue h
    · rw [RebuildRow.waits, and_eq_true, isNone_iff_eq_none] at hwaits
      exact absurd hwaits.2 (hclaimed rfl)

lemma request_row (h : Orderly settings s) (id : ℕ) :
    let row := (s.table.get? (.demande, id)).getD (RebuildRow.new s.clock.db)
    let result := row.request settings.pendingStaleSec .demande settings.debounceSeconds s.clock
    result.1.dispatchAfter ≤ s.now + settings.debounceSeconds ∧
      (result.2 = false → result.1.dispatchClaimExpiresAt ≠ none) := by
  intro row result
  have hrow : row.dispatchAfter ≤ s.now + settings.debounceSeconds := by
    cases hget : s.table.get? (.demande, id) with
    | none => simp [row, hget, RebuildRow.new, FlushDesk.clock]
    | some r => simpa [row, hget] using h.delays id r hget
  refine ⟨?_, fun hresult => RebuildRow.claimed_of_request hresult⟩
  have hafter := RebuildRow.request_dispatchAfter settings.pendingStaleSec .demande
    settings.debounceSeconds s.clock row
  exact hafter.trans (max_le hrow le_rfl)

variable {t : FlushDesk}

lemma Orderly.request {actor demandeId : ℕ} (h : Orderly settings s)
    (hstep : s.step settings (.request actor demandeId) = some t) : Orderly settings t := by
  simp only [FlushDesk.step] at hstep
  split at hstep
  · exact absurd hstep (by simp)
  · obtain ⟨⟩ := hstep
    refine h.called fun id r hr => ?_
    simp only [requestRebuild, get?_set] at hr
    split at hr
    · next hkey =>
      obtain ⟨⟩ := hr
      obtain rfl : id = demandeId := congrArg Prod.snd hkey
      exact .inr (request_row h id)
    · exact .inl hr

lemma Orderly.requestBatch {actor : ℕ} {demandeIds : List ℕ} (h : Orderly settings s)
    (hstep : s.step settings (.requestBatch actor demandeIds) = some t) : Orderly settings t := by
  simp only [FlushDesk.step] at hstep
  split at hstep
  · exact absurd hstep (by simp)
  · obtain ⟨⟩ := hstep
    refine h.called fun id r hr => ?_
    rw [get?_requestRebuildBatch] at hr
    split at hr
    · next hid =>
      obtain ⟨⟩ := hr
      obtain ⟨hdelay, hclaimed⟩ := request_row h id
      refine .inr ⟨hdelay, fun hempty => hclaimed ?_⟩
      -- nobody is to be enqueued, so neither is this demande
      rw [not_eq_false', List.isEmpty_iff] at hempty
      by_contra hresult
      have hmem : id ∈ (requestRebuildBatch settings.pendingStaleSec .demande demandeIds
          settings.debounceSeconds s.clock s.table).2 := by
        rw [requestRebuildBatch, List.mem_filter]
        refine ⟨hid.2, ?_⟩
        rw [get?_insertMissing, if_pos hid]
        cases hget : s.table.get? (.demande, id) <;> simpa [hget] using hresult
      rw [hempty] at hmem
      exact absurd hmem List.not_mem_nil
    · exact .inl hr

/-! ### Flushes -/

lemma waits_of_claim {limit ttl now : ℕ} {t : RebuildTable}
    {id : ℕ} (hr : (claimDispatchableScopeIds .demande limit token ttl locked now t).1.get?
      (.demande, id) = some r) (hwaits : r.waits = true) : t.get? (.demande, id) = some r := by
  obtain ⟨_, hr₀, -, rfl | hclaimed⟩ := get?_claim hr
  · exact hr₀
  · rw [RebuildRow.waits, and_eq_true, isNone_iff_eq_none] at hwaits
    exact absurd hwaits.2 hclaimed

section

variable (h : Orderly settings s)
include h

lemma Orderly.add {actor : ℕ} (hstep : s.step settings (.add actor) = some t) : Orderly settings t := by
  simp only [FlushDesk.step] at hstep
  split at hstep
  · next hget =>
    split at hstep
    · obtain ⟨⟩ := hstep
      refine h.goOn hget rfl rfl (.inl ⟨rfl, by simp [FlushPhase.holds]⟩) (by simp) h.delays
        fun id r hr hwaits => ?_
      exact (h.covered id r hr hwaits).goOn h.keys hget rfl rfl rfl .inl
        (fun _ => .inr rfl) (fun _ => rfl) (by simp [FlushPhase.reads])
        (by simp [FlushPhase.counts])
    · next hlock =>
      obtain ⟨⟩ := hstep
      refine h.goOn hget rfl rfl (.inr (.inl ⟨by simpa using hlock, rfl⟩)) (by simp) h.delays
        fun id r hr hwaits => ?_
      exact .schedules (has_set_self rfl)
  · exact absurd hstep (by simp)

lemma Orderly.enqueue {actor : ℕ} (hstep : s.step settings (.enqueue actor) = some t) : Orderly settings t := by
  simp only [FlushDesk.step] at hstep
  split at hstep
  · next hget =>
    obtain ⟨⟩ := hstep
    refine h.done hget rfl rfl rfl rfl (.inr ⟨rfl, by simp [FlushDesk.done]⟩)
      fun id r hr hwaits => ?_
    -- the new flush starts after the delay of every row is over
    exact .queued (s.now + settings.debounceSeconds)
      (List.mem_append_right _ (List.mem_singleton_self _)) (h.delays id r hr)
  · exact absurd hstep (by simp)

lemma Orderly.mark {actor : ℕ} (hread : MarkerRead s (.mark actor)) (hstep : s.step settings (.mark actor) = some t) :
    Orderly settings t := by
  simp only [FlushDesk.step] at hstep
  split at hstep
  · next hget =>
    obtain ⟨⟩ := hstep
    refine h.done hget rfl rfl rfl rfl (.inl rfl) fun id r hr hwaits => ?_
    refine .read rfl ?_
    rcases hread with hqueue | hreads
    · exact .inl hqueue
    · exact .inr (Has.erase h.keys hreads hget rfl)
  · exact absurd hstep (by simp)

lemma Orderly.start {actor index : ℕ}
    (hstep : s.step settings (.start actor index) = some t) : Orderly settings t := by
  simp only [FlushDesk.step] at hstep
  split at hstep
  · exact absurd hstep (by simp)
  · next eta heta =>
    have hone : s.queue = [eta] ∧ s.queue.eraseIdx index = [] := by
      have hshort := h.short
      obtain ⟨hindex, heq⟩ := List.getElem?_eq_some_iff.mp heta
      match hqueue : s.queue with
      | [] => simp [hqueue] at hindex
      | [x] =>
        obtain rfl : index = 0 := by simpa [hqueue] using hindex
        simpa [hqueue] using heq
      | x :: y :: rest => simp [hqueue] at hshort
    have hne : s.queue ≠ [] := by simp [hone.1]
    split at hstep
    · exact absurd hstep (by simp)
    · next hready =>
      rw [not_or, not_isSome_iff_eq_none, not_lt] at hready
      split at hstep
      · next hclaiming =>
        -- whoever had the advisory lock would hold the lock key as well
        obtain ⟨e, he, hphase⟩ := List.any_eq_true.mp hclaiming
        have hholds := h.queued hne e he
        cases hp : e.2 <;> simp [hp, FlushPhase.isClaiming, FlushPhase.holds] at hphase hholds
      · obtain ⟨⟩ := hstep
        have hfresh : ∀ {p : FlushPhase → Bool} {g : FlushPhase}, Has s.actors p → Has (s.actors.set actor g) p := by
          intro p g hp
          exact hp.set h.keys fun f hf => absurd (hready.1.symm.trans hf) (by simp)
        refine h.enter rfl rfl (.inr ⟨hne, hone.2⟩) (by simp) h.delays fun id r hr hwaits => ?_
        cases h.covered id r hr hwaits with
        | schedules h => exact .schedules (hfresh h)
        | marks h => exact .marks (hfresh h)
        | read hmarker => exact .read hmarker (.inr (has_set_self rfl))
        | queued _ heta' hdue =>
          rw [hone.1, List.mem_singleton] at heta'
          subst heta'
          exact .counted (hdue.trans hready.2) (has_set_self rfl)
        | counted hdue h => exact .counted hdue (hfresh h)

lemma Orderly.claim {actor : ℕ} (hstep : s.step settings (.claim actor token locked) = some t) :
    Orderly settings t := by
  have hcover : ∀ {s' : FlushDesk} {left : ℕ} {g : FlushPhase} {r : RebuildRow},
      s.actors.get? actor = some (.claiming left) → Cover s r → s'.actors = s.actors.set actor g →
        s'.now = s.now → s'.queue = s.queue → s'.marker = s.marker → g.reads = true →
        g.counts = true → Cover s' r := by
    intro s' left g r hget hr hactors hnow hqueue hmarker hreads hcounts
    exact hr.goOn h.keys hget hactors hnow hqueue (fun hset => .inl (hmarker ▸ hset))
      (by simp [FlushPhase.schedules]) (by simp [FlushPhase.marks]) (fun _ _ => .inl hreads)
      fun _ => .inl hcounts
  simp only [FlushDesk.step] at hstep
  split at hstep
  · next hget =>
    obtain ⟨⟩ := hstep
    refine h.goOn hget rfl rfl (.inl ⟨rfl, fun _ => rfl⟩) (by simp) h.delays
      fun id r hr hwaits => ?_
    exact hcover hget (h.covered id r hr hwaits) rfl rfl rfl rfl rfl rfl
  · next left hget =>
    obtain ⟨⟩ := hstep
    refine h.goOn hget rfl rfl (.inl ⟨rfl, fun _ => rfl⟩) (by split <;> simp)
      (fun id r hr => ?_) fun id r hr hwaits => ?_
    · obtain ⟨r₀, hr₀, hafter, -⟩ := get?_claim hr
      rw [hafter]
      exact h.delays id r₀ hr₀
    · refine hcover hget (h.covered id r (waits_of_claim hr hwaits) hwaits) rfl rfl rfl rfl ?_ ?_
      · split <;> rfl
      · split <;> rfl
  · exact absurd hstep (by simp)

lemma Orderly.clear {actor : ℕ} (hstep : s.step settings (.clear actor) = some t) : Orderly settings t := by
  simp only [FlushDesk.step] at hstep
  split at hstep
  · next hget => exact absurd rfl (h.unskipped _ (mem_of_get? hget))
  · next hget =>
    obtain ⟨⟩ := hstep
    refine h.goOn hget rfl rfl (.inr (.inr ⟨rfl, rfl, rfl⟩)) (by simp) h.delays
      fun id r hr hwaits => ?_
    exact (h.covered id r hr hwaits).goOn h.keys hget rfl rfl rfl .inl
      (by simp [FlushPhase.schedules]) (by simp [FlushPhase.marks]) (fun _ _ => .inl rfl)
      fun _ => .inl rfl
  · exact absurd hstep (by simp)

lemma Orderly.read {actor : ℕ} (hstep : s.step settings (.read actor) = some t) : Orderly settings t := by
  simp only [FlushDesk.step] at hstep
  split at hstep
  · next hget =>
    obtain ⟨⟩ := hstep
    refine h.goOn hget rfl rfl (.inl ⟨rfl, by simp [FlushPhase.holds]⟩) (by simp) h.delays
      fun id r hr hwaits => ?_
    refine (h.covered id r hr hwaits).goOn h.keys hget rfl rfl rfl .inl
      (by simp [FlushPhase.schedules]) (by simp [FlushPhase.marks]) (fun hset _ => .inr ?_)
      fun _ => .inl rfl
    rw [hset]
    rfl
  · exact absurd hstep (by simp)

lemma Orderly.delete {actor : ℕ}
    (hread : MarkerRead s (.delete actor)) (hstep : s.step settings (.delete actor) = some t) :
    Orderly settings t := by
  simp only [FlushDesk.step] at hstep
  split at hstep
  · next requested hget =>
    obtain ⟨⟩ := hstep
    refine h.goOn hget rfl rfl (.inl ⟨rfl, by simp [FlushPhase.holds]⟩) (by simp) h.delays
      fun id r hr hwaits => ?_
    refine (h.covered id r hr hwaits).goOn h.keys hget rfl rfl rfl (fun hset => .inr ?_)
      (fun hschedules => .inl ?_) (by simp [FlushPhase.marks]) (by simp [FlushPhase.reads])
      fun _ => .inl rfl
    · cases requested with
      | true => rfl
      | false => exact absurd ((hread hget).symm.trans hset) (by simp)
    · cases requested with
      | true => rfl
      | false => exact absurd hschedules (by simp [FlushPhase.schedules])
  · exact absurd hstep (by simp)

lemma Orderly.count {actor : ℕ} (hstep : s.step settings (.count actor) = some t) : Orderly settings t := by
  simp only [FlushDesk.step] at hstep
  split at hstep
  · next requested hget =>
    split at hstep
    · obtain ⟨⟩ := hstep
      refine h.goOn hget rfl rfl (.inl ⟨rfl, by simp [FlushPhase.holds]⟩) (by simp) h.delays
        fun id r hr hwaits => ?_
      exact .schedules (has_set_self rfl)
    · next hnone =>
      obtain ⟨⟩ := hstep
      simp only [Bool.or_eq_true, decide_eq_true_eq, not_or, Bool.not_eq_true] at hnone
      obtain ⟨hcount, rfl⟩ := hnone
      refine h.done hget rfl rfl rfl rfl (.inl rfl) fun id r hr hwaits => ?_
      cases h.covered id r hr hwaits with
      | schedules hs => exact .schedules (hs.erase h.keys hget rfl)
      | marks hs => exact .marks (hs.erase h.keys hget rfl)
      | read hmarker hs =>
        refine .read hmarker ?_
        rcases hs with hqueue | hs
        · exact .inl hqueue
        · exact .inr (hs.erase h.keys hget rfl)
      | queued eta heta hdue => exact .queued eta heta hdue
      | counted hdue =>
        -- the row can be claimed, so the count was not zero
        rw [RebuildRow.waits, Bool.and_eq_true, isNone_iff_eq_none] at hwaits
        have hdispatchable : r.dispatchable s.now = true := by
          simp [RebuildRow.dispatchable, hwaits.1, hwaits.2, hdue, claimExpired]
        exact absurd (countDispatchable_pos hr hdispatchable) hcount
  · exact absurd hstep (by simp)

lemma Orderly.tick (seconds : ℕ) : Orderly settings { s with now := s.now + seconds } := by
  refine { h with delays := fun id r hr => ?_, covered := fun id r hr hwaits => ?_ }
  · have hdelay := h.delays id r hr
    simp only
    omega
  · cases h.covered id r hr hwaits with
    | schedules h => exact .schedules h
    | marks h => exact .marks h
    | read hmarker h => exact .read hmarker h
    | queued eta h hdue => exact .queued eta h hdue
    | counted hdue h => exact .counted (hdue.trans (Nat.le_add_right _ _)) h

lemma Orderly.step {a : FlushAction}
    (hread : MarkerRead s a) (hstep : s.step settings a = some t) : Orderly settings t := by
  cases a with
  | tick seconds => exact some.inj hstep ▸ h.tick seconds
  | request => exact h.request hstep
  | requestBatch => exact h.requestBatch hstep
  | add => exact h.add hstep
  | enqueue => exact h.enqueue hstep
  | mark => exact h.mark hread hstep
  | start => exact h.start hstep
  | claim => exact h.claim hstep
  | clear => exact h.clear hstep
  | read => exact h.read hstep
  | delete => exact h.delete hread hstep
  | count => exact h.count hstep

end

/-- In every run whose steps meet the condition, a quiet state with a row that waits has a flush
queued. -/
theorem flush_covers_waiting {s : FlushDesk} {actions : List FlushAction}
    (hread : Guarded (FlushDesk.step settings) MarkerRead FlushDesk.init actions)
    (hrun : run (FlushDesk.step settings) FlushDesk.init actions = some s) (hquiet : s.Quiet)
    {demandeId : ℕ} {row : RebuildRow} (hrow : s.table.get? (.demande, demandeId) = some row)
    (hwaits : row.waits = true) : s.queue ≠ [] := by
  have horderly : Orderly settings s :=
    run_invariant (fun _ _ _ h hc hstep => h.step hc hstep) orderly_init hread hrun
  have hnobody : ∀ p, ¬ Has s.actors p := by
    rintro p ⟨e, he, -⟩
    rw [hquiet] at he
    exact absurd he List.not_mem_nil
  cases horderly.covered demandeId row hrow hwaits with
  | schedules h => exact absurd h (hnobody _)
  | marks h => exact absurd h (hnobody _)
  | read _ h => exact h.resolve_right (hnobody _)
  | queued _ h => exact List.ne_nil_of_mem h
  | counted _ h => exact absurd h (hnobody _)

def defaultFlushSettings : FlushSettings := ⟨900, 1, 200, 8, 120⟩

def markedInTime : List FlushAction :=
  [.request 1 1, .add 1, .enqueue 1, .tick 1, .start 2 0, .claim 2 "a" [], .claim 2 "b" [],
    .request 3 2, .add 3, .mark 3, .clear 2, .read 2, .delete 2, .count 2, .add 2, .enqueue 2]

theorem flush_covers_waiting_markedInTime :
    ∃ s row, run (FlushDesk.step defaultFlushSettings) FlushDesk.init markedInTime = some s ∧
      s.Quiet ∧ s.table.get? (.demande, 2) = some row ∧ row.waits = true ∧ s.queue ≠ [] := by
  obtain ⟨s, hrun⟩ : ∃ s, run (FlushDesk.step defaultFlushSettings) FlushDesk.init markedInTime = some s :=
    isSome_iff_exists.mp (by decide +kernel)
  have hfacts : ∀ s ∈ run (FlushDesk.step defaultFlushSettings) FlushDesk.init markedInTime,
      s.actors = [] ∧ (s.table.get? (.demande, 2)).map RebuildRow.waits = some true := by
    decide +kernel
  obtain ⟨hquiet, hrow⟩ := hfacts s hrun
  obtain ⟨row, hrow, hwaits⟩ := map_eq_some_iff.mp hrow
  exact ⟨s, row, hrun, hquiet, hrow, hwaits, flush_covers_waiting (by decide +kernel) hrun hquiet hrow hwaits⟩

def markedTooLate : List FlushAction :=
  [.request 1 1, .add 1, .enqueue 1, .tick 1, .start 2 0, .claim 2 "a" [], .claim 2 "b" [],
    .request 3 2, .add 3, .clear 2, .read 2, .delete 2, .count 2, .mark 3]

/-- The second demande waits, and no flush is queued. -/
theorem wakeup_lost : ¬ ∀ (settings : FlushSettings) (actions : List FlushAction) (s : FlushDesk),
      run (FlushDesk.step settings) FlushDesk.init actions = some s → s.Quiet →
        ∀ demandeId row, s.table.get? (.demande, demandeId) = some row → row.waits = true → s.queue ≠ [] := by
  intro h
  obtain ⟨s, hrun⟩ : ∃ s, run (FlushDesk.step defaultFlushSettings) FlushDesk.init markedTooLate = some s :=
    isSome_iff_exists.mp (by decide +kernel)
  have hfacts : ∀ s ∈ run (FlushDesk.step defaultFlushSettings) FlushDesk.init markedTooLate,
      s.actors = [] ∧ s.queue = [] ∧ (s.table.get? (.demande, 2)).map RebuildRow.waits = some true := by
    decide +kernel
  obtain ⟨hquiet, hqueue, hrow⟩ := hfacts s hrun
  obtain ⟨row, hrow, hwaits⟩ := map_eq_some_iff.mp hrow
  exact h defaultFlushSettings markedTooLate s hrun hquiet 2 row hrow hwaits hqueue

end ImmoApp.Matching
