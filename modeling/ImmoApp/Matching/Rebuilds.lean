import ImmoApp.Matching.RebuildState
import ImmoApp.Foundation.Runs

/-!
# No rebuild is missed

A task takes an advisory lock or is skipped, reads the generations of its demandes, computes, completes the rows and
releases the lock; it may also die at any point.  Requests, claims and reclaims come in between at any time.

`no_missed_rebuild`: whenever a row is not pending, every request for it was followed by a run that read a generation at
least as high and was completed.  The history is read by nobody; a moment is the number of steps before it.
-/

namespace ImmoApp.Matching

open List Option Dict

inductive RunLock where
  | demande (demandeId : ℕ)
  /-- The lock of a batch: its first id, its last id and its length. -/
  | batch (first last length : ℕ)
  deriving DecidableEq

inductive RunPhase where
  | locked
  | started
  | computed
  | completed
  deriving DecidableEq

structure RebuildRun where
  lock : RunLock
  demandeIds : List ℕ
  startGenerations : Dict ℕ ℕ
  phase : RunPhase
  began : ℕ

structure RebuildRequest where
  demandeId : ℕ
  generation : ℕ
  moment : ℕ
  deriving DecidableEq

/-- History: a run that completed a demande's row. -/
structure RebuildCompletion where
  demandeId : ℕ
  startGeneration : ℕ
  began : ℕ

structure RebuildDesk where
  table : RebuildTable
  runs : Dict ℕ RebuildRun
  moment : ℕ
  requested : List RebuildRequest
  completed : List RebuildCompletion

def RebuildDesk.init : RebuildDesk := ⟨[], [], 0, [], []⟩

inductive RebuildAction where
  | request (demandeId debounceSeconds : ℕ) (clock : Clock)
  | requestBatch (demandeIds : List ℕ) (debounceSeconds : ℕ) (clock : Clock)
  /-- `claim_dispatchable_scope_ids`. -/
  | claim (limit : ℕ) (token : String) (ttl : ℕ) (locked : List ℕ) (now : ℕ)
  /-- `reclaim_expired_dispatch_claims`. -/
  | reclaim (limit : ℕ) (locked : List ℕ) (now : ℕ)
  /-- `rebuild_match_pairs_for_demande` tries its lock. -/
  | lockDemande (task demandeId : ℕ)
  /-- `rebuild_match_pairs_for_demandes_batch` tries its lock. -/
  | lockBatch (task : ℕ) (demandeIds : List ℕ)
  | readGenerations (task : ℕ)
  | compute (task : ℕ)
  /-- `complete_rebuild` or `complete_rebuild_batch`. -/
  | complete (task now : ℕ)
  | release (task : ℕ)
  | crash (task : ℕ)

def RebuildDesk.advance (s : RebuildDesk) : RebuildDesk := { s with moment := s.moment + 1 }

def RebuildDesk.note (s : RebuildDesk) (demandeIds : List ℕ) : List RebuildRequest :=
  s.requested ++ demandeIds.map fun id => ⟨id, getGeneration s.table .demande id + 1, s.moment⟩

/-- `match_pairs_rebuild_lock`: a task whose lock is held is skipped. -/
def RebuildDesk.tryLock (s : RebuildDesk) (task : ℕ) (lock : RunLock) (demandeIds : List ℕ) :
    Option RebuildDesk :=
  if (s.runs.get? task).isSome then none
  else if s.runs.any fun e => e.2.lock == lock then some s
  else some { s with runs := s.runs.set task ⟨lock, demandeIds, [], .locked, 0⟩ }

/-- The generation that a task has read of a demande. -/
def RebuildRun.startOf (r : RebuildRun) (demandeId : ℕ) : ℕ :=
  (r.startGenerations.get? demandeId).getD 0

/-- The completion of a task's rows: a batch has its own function. -/
def RebuildRun.completeRows (r : RebuildRun) (now : ℕ) (t : RebuildTable) : RebuildTable :=
  match r.lock with
  | .demande demandeId => (completeRebuild .demande demandeId (r.startOf demandeId) now t).1
  | .batch .. => (completeRebuildBatch .demande r.startGenerations now t).1

def RebuildRun.completedIds (r : RebuildRun) : List ℕ :=
  match r.lock with
  | .demande demandeId => [demandeId]
  | .batch .. => normalizedIds (r.startGenerations.map Prod.fst)

def RebuildRun.completions (r : RebuildRun) : List RebuildCompletion :=
  r.completedIds.map fun id => ⟨id, r.startOf id, r.began⟩

/-- One step.  The first argument is `_PENDING_STALE_SEC`. -/
def RebuildDesk.step (pendingStaleSec : ℤ) (s : RebuildDesk) : RebuildAction → Option RebuildDesk
  | .request demandeId debounceSeconds clock =>
    some { s with
      table := (requestRebuild pendingStaleSec .demande demandeId debounceSeconds clock s.table).1
      requested := s.note [demandeId] }.advance
  | .requestBatch demandeIds debounceSeconds clock =>
    some { s with
      table := (requestRebuildBatch pendingStaleSec .demande demandeIds debounceSeconds clock s.table).1
      requested := s.note (normalizedIds demandeIds) }.advance
  | .claim limit token ttl locked now =>
    some { s with
      table := (claimDispatchableScopeIds .demande limit token ttl locked now s.table).1 }.advance
  | .reclaim limit locked now =>
    some { s with
      table := reclaimExpiredDispatchClaims .demande limit locked now s.table }.advance
  | .lockDemande task demandeId =>
    (s.tryLock task (.demande demandeId) [demandeId]).map advance
  | .lockBatch task demandeIds =>
    let ids := normalizedIds demandeIds
    match ids.head?, ids.getLast? with
    | some first, some last =>
      (s.tryLock task (.batch first last ids.length) ids).map advance
    | _, _ => some s.advance
  | .readGenerations task =>
    (s.runs.get? task).bind fun r =>
      if r.phase = .locked then
        some { s with
          runs := s.runs.set task { r with
            startGenerations := r.demandeIds.map fun id => (id, getGeneration s.table .demande id)
            phase := .started
            began := s.moment } }.advance
      else none
  | .compute task =>
    (s.runs.get? task).bind fun r =>
      if r.phase = .started then
        some { s with runs := s.runs.set task { r with phase := .computed } }.advance
      else none
  | .complete task now =>
    (s.runs.get? task).bind fun r =>
      if r.phase = .computed then
        some { s with
          table := r.completeRows now s.table
          runs := s.runs.set task { r with phase := .completed }
          completed := s.completed ++ r.completions }.advance
      else none
  | .release task =>
    (s.runs.get? task).bind fun r =>
      if r.phase = .completed then some { s with runs := s.runs.erase task }.advance else none
  | .crash task => some { s with runs := s.runs.erase task }.advance

/-! ### The invariant -/

/-- What the requests, the runs and the completions have to do with the rows. -/
structure Tracked (s : RebuildDesk) : Prop where
  positive : ∀ q ∈ s.requested, 0 < q.generation
  past : ∀ q ∈ s.requested, q.moment < s.moment
  generations : ∀ q ∈ s.requested, q.generation ≤ getGeneration s.table .demande q.demandeId
  /-- No run has read more than the row's generation. -/
  starts : ∀ e ∈ s.runs, ∀ id, e.2.startOf id ≤ getGeneration s.table .demande id
  /-- The requests up to what a run has read came before it. -/
  before : ∀ e ∈ s.runs, ∀ q ∈ s.requested, q.generation ≤ e.2.startOf q.demandeId → q.moment < e.2.began
  covered : ∀ id r, s.table.get? (.demande, id) = some r → r.pending = false →
    ∀ q ∈ s.requested, q.demandeId = id → ∃ c ∈ s.completed, c.demandeId = id ∧
      q.generation ≤ c.startGeneration ∧ q.moment < c.began

lemma tracked_init : Tracked RebuildDesk.init := by
  constructor <;> simp [RebuildDesk.init]

variable {s t : RebuildDesk} {task : ℕ}

/-- Steps that leave the pending flags and the generations alone, and change no run but by ending it or by
starting one that has read nothing, change nothing. -/
lemma Tracked.keep (h : Tracked s)
    (hrows : ∀ id, (t.table.get? (.demande, id)).map (fun r => (r.pending, r.generation)) =
      (s.table.get? (.demande, id)).map fun r => (r.pending, r.generation))
    (hruns : ∀ e ∈ t.runs, (∃ e' ∈ s.runs, e.2.startGenerations = e'.2.startGenerations ∧
      e.2.began = e'.2.began) ∨ e.2.startGenerations = [])
    (hmoment : s.moment ≤ t.moment) (hrequested : t.requested = s.requested)
    (hcompleted : t.completed = s.completed) : Tracked t := by
  have hgeneration : ∀ id, getGeneration t.table .demande id = getGeneration s.table .demande id := by
    intro id
    have hmap := congrArg (Option.map Prod.snd) (hrows id)
    simp only [Option.map_map, Function.comp_def] at hmap
    simp only [getGeneration]
    rw [hmap]
  constructor
  · rw [hrequested]
    exact h.positive
  · rw [hrequested]
    intro q hq
    exact lt_of_lt_of_le (h.past q hq) hmoment
  · rw [hrequested]
    intro q hq
    rw [hgeneration]
    exact h.generations q hq
  · intro e he id
    rw [hgeneration]
    rcases hruns e he with ⟨e', he', hstarts, -⟩ | hstarts
    · simpa only [RebuildRun.startOf, hstarts] using h.starts e' he' id
    · simp [RebuildRun.startOf, hstarts]
  · rw [hrequested]
    intro e he q hq hle
    rcases hruns e he with ⟨e', he', hstarts, hbegan⟩ | hstarts
    · rw [hbegan]
      exact h.before e' he' q hq (by simpa only [RebuildRun.startOf, hstarts] using hle)
    · have hpositive := h.positive q hq
      have hzero : e.2.startOf q.demandeId = 0 := by simp [RebuildRun.startOf, hstarts]
      omega
  · rw [hrequested, hcompleted]
    intro id r hr hpending
    have hrow := hrows id
    rw [hr, map_some] at hrow
    obtain ⟨r', hr', heq⟩ := map_eq_some_iff.mp hrow.symm
    refine h.covered id r' hr' ?_
    have hflag : r'.pending = r.pending := congrArg Prod.fst heq
    rw [hflag]
    exact hpending

lemma Tracked.request (h : Tracked s) {ids : List ℕ}
    (hrequest : ∀ id ∈ ids, ∃ r, t.table.get? (.demande, id) = some r ∧ r.pending = true ∧
      r.generation = getGeneration s.table .demande id + 1)
    (hother : ∀ id ∉ ids, t.table.get? (.demande, id) = s.table.get? (.demande, id))
    (hruns : t.runs = s.runs) (hmoment : t.moment = s.moment + 1)
    (hrequested : t.requested = s.note ids) (hcompleted : t.completed = s.completed) :
    Tracked t := by
  have hnew : ∀ id ∈ ids, getGeneration t.table .demande id = getGeneration s.table .demande id + 1 := by
    intro id hid
    obtain ⟨r, hr, -, hgeneration⟩ := hrequest id hid
    simp [getGeneration, hr, hgeneration]
  have hmono : ∀ id, getGeneration s.table .demande id ≤ getGeneration t.table .demande id := by
    intro id
    by_cases hid : id ∈ ids
    · rw [hnew id hid]
      omega
    · simp [getGeneration, hother id hid]
  have hcases : ∀ q ∈ t.requested, q ∈ s.requested ∨ q.demandeId ∈ ids ∧
      q.generation = getGeneration s.table .demande q.demandeId + 1 ∧ q.moment = s.moment := by
    intro q hq
    rw [hrequested, RebuildDesk.note, mem_append] at hq
    rcases hq with hq | hq
    · exact .inl hq
    · obtain ⟨id, hid, rfl⟩ := mem_map.mp hq
      exact .inr ⟨hid, rfl, rfl⟩
  constructor
  · intro q hq
    rcases hcases q hq with hq | ⟨-, hgeneration, -⟩
    · exact h.positive q hq
    · omega
  · intro q hq
    rcases hcases q hq with hq | ⟨-, -, hq⟩
    · have hpast := h.past q hq
      omega
    · omega
  · intro q hq
    rcases hcases q hq with hq | ⟨hid, hgeneration, -⟩
    · exact (h.generations q hq).trans (hmono q.demandeId)
    · rw [hnew _ hid, hgeneration]
  · rw [hruns]
    intro e he id
    exact (h.starts e he id).trans (hmono id)
  · rw [hruns]
    intro e he q hq hle
    rcases hcases q hq with hq | ⟨-, _, -⟩
    · exact h.before e he q hq hle
    · -- a new request is beyond everything that has been read
      have hstart := h.starts e he q.demandeId
      omega
  · rw [hcompleted]
    intro id r hr hpending q hq hqid
    have hid : id ∉ ids := by
      intro hid
      obtain ⟨r', hr', hpending', -⟩ := hrequest id hid
      obtain rfl : r' = r := some.inj (hr'.symm.trans hr)
      exact absurd (hpending'.symm.trans hpending) (by simp)
    rcases hcases q hq with hq | ⟨hq, -⟩
    · exact h.covered id r ((hother id hid) ▸ hr) hpending q hq hqid
    · exact absurd (hqid ▸ hq) hid

lemma Tracked.read (h : Tracked s) (task : ℕ) (r : RebuildRun) :
    Tracked { s with
      runs := s.runs.set task { r with
        startGenerations := r.demandeIds.map fun id => (id, getGeneration s.table .demande id)
        phase := .started
        began := s.moment } }.advance := by
  have hstart : ∀ id, RebuildRun.startOf { r with
      startGenerations := r.demandeIds.map fun id => (id, getGeneration s.table .demande id)
      phase := .started
      began := s.moment } id ≤ getGeneration s.table .demande id := by
    intro id
    rw [RebuildRun.startOf]
    cases hget : Dict.get? (r.demandeIds.map fun id =>
        (id, getGeneration s.table .demande id)) id with
    | none => simp
    | some =>
      obtain ⟨_, -, heq⟩ := mem_map.mp (mem_of_get? hget)
      obtain ⟨rfl, rfl⟩ := Prod.mk.inj heq
      exact le_rfl
  constructor
  · exact h.positive
  · intro q hq
    exact Nat.lt_succ_of_lt (h.past q hq)
  · exact h.generations
  · intro e he id
    rcases mem_set.mp he with rfl | ⟨he, -⟩
    · exact hstart id
    · exact h.starts e he id
  · intro e he q hq hle
    rcases mem_set.mp he with rfl | ⟨he, -⟩
    · exact h.past q hq
    · exact h.before e he q hq hle
  · exact h.covered

lemma RebuildRun.get?_completeRows (r : RebuildRun) (now : ℕ) (t : RebuildTable) (id : ℕ) :
    (r.completeRows now t).get? (.demande, id) = (t.get? (.demande, id)).map fun row =>
      if id ∈ r.completedIds then (row.complete (r.startOf id) now).1 else row := by
  unfold RebuildRun.completeRows RebuildRun.completedIds
  split
  · next demandeId _ =>
    rw [get?_completeRebuild]
    congr 1
    funext row
    by_cases hid : id = demandeId
    · simp [hid]
    · simp [hid]
  · rw [get?_completeRebuildBatch]
    simp only [true_and, RebuildRun.startOf]

lemma Tracked.complete (h : Tracked s) {r : RebuildRun} (hrun : s.runs.get? task = some r) (now : ℕ) :
    Tracked { s with
      table := r.completeRows now s.table
      runs := s.runs.set task { r with phase := .completed }
      completed := s.completed ++ r.completions }.advance := by
  have hmem : (task, r) ∈ s.runs := mem_of_get? hrun
  have hruns : ∀ e ∈ s.runs.set task { r with phase := .completed }, ∃ e' ∈ s.runs,
      e.2.startGenerations = e'.2.startGenerations ∧ e.2.began = e'.2.began := by
    intro e he
    rcases mem_set.mp he with rfl | ⟨he, -⟩
    · exact ⟨_, hmem, rfl, rfl⟩
    · exact ⟨e, he, rfl, rfl⟩
  have hgeneration : ∀ id, getGeneration (r.completeRows now s.table) .demande id =
      getGeneration s.table .demande id := by
    intro id
    simp only [getGeneration, RebuildRun.get?_completeRows, Option.map_map]
    congr 2
    funext row
    simp only [Function.comp_apply]
    split <;> rfl
  constructor
  · exact h.positive
  · intro q hq
    exact Nat.lt_succ_of_lt (h.past q hq)
  · intro q hq
    exact (h.generations q hq).trans (hgeneration q.demandeId).ge
  · intro e he id
    obtain ⟨e', he', hstarts, -⟩ := hruns e he
    have hle := h.starts e' he' id
    rw [RebuildRun.startOf, ← hstarts] at hle
    exact hle.trans (hgeneration id).ge
  · intro e he q hq hle
    obtain ⟨e', he', hstarts, hbegan⟩ := hruns e he
    rw [hbegan]
    refine h.before e' he' q hq ?_
    rw [RebuildRun.startOf, ← hstarts]
    exact hle
  · intro id row hrow hpending q hq hqid
    have hold := RebuildRun.get?_completeRows r now s.table id
    have hrow' : (r.completeRows now s.table).get? (.demande, id) = some row := hrow
    rw [hrow'] at hold
    obtain ⟨row', hget, heq⟩ := Option.map_eq_some_iff.mp hold.symm
    by_cases hid : id ∈ r.completedIds
    · -- the row was completed at a generation that the run has read
      rw [if_pos hid] at heq
      have hdone : (row'.complete (r.startOf id) now).1.pending = false := by
        rw [heq]
        exact hpending
      have hreached : row'.generation ≤ r.startOf id := by
        simpa [RebuildRow.complete] using hdone
      have hle : q.generation ≤ r.startOf id := by
        have hgen := h.generations q hq
        simp only [hqid, getGeneration, hget, Option.map_some, Option.getD_some] at hgen
        exact hgen.trans hreached
      refine ⟨⟨id, r.startOf id, r.began⟩, ?_, rfl, hle, ?_⟩
      · exact List.mem_append_right _ (List.mem_map.mpr ⟨id, hid, rfl⟩)
      · exact h.before (task, r) hmem q hq (hqid ▸ hle)
    · rw [if_neg hid] at heq
      obtain ⟨c, hc, hcover⟩ := h.covered id row' hget (heq ▸ hpending) q hq hqid
      exact ⟨c, List.mem_append_left _ hc, hcover⟩

lemma Tracked.tryLock (h : Tracked s) {lock : RunLock}
    {demandeIds : List ℕ} (ht : (s.tryLock task lock demandeIds).map RebuildDesk.advance = some t) :
    Tracked t := by
  obtain ⟨_, hs', rfl⟩ := map_eq_some_iff.mp ht
  unfold RebuildDesk.tryLock at hs'
  split at hs'
  · exact absurd hs' (by simp)
  · split at hs'
    · obtain ⟨⟩ := hs'
      exact h.keep (fun _ => rfl) (fun e he => .inl ⟨e, he, rfl, rfl⟩) (Nat.le_succ _) rfl rfl
    · obtain ⟨⟩ := hs'
      refine h.keep (fun _ => rfl) (fun e he => ?_) (Nat.le_succ _) rfl rfl
      rcases mem_set.mp he with rfl | ⟨he, -⟩
      · exact .inr rfl
      · exact .inl ⟨e, he, rfl, rfl⟩

lemma Tracked.step {pendingStaleSec : ℤ} {a : RebuildAction} (h : Tracked s)
    (hstep : s.step pendingStaleSec a = some t) : Tracked t := by
  have hsame : ∀ e ∈ s.runs, (∃ e' ∈ s.runs, e.2.startGenerations = e'.2.startGenerations ∧
      e.2.began = e'.2.began) ∨ e.2.startGenerations = [] :=
    fun e he => .inl ⟨e, he, rfl, rfl⟩
  have herase : ∀ task, ∀ e ∈ s.runs.erase task, (∃ e' ∈ s.runs, e.2.startGenerations = e'.2.startGenerations ∧
        e.2.began = e'.2.began) ∨ e.2.startGenerations = [] :=
    fun task e he => hsame e (mem_erase.mp he).1
  cases a with
  | request demandeId debounceSeconds clock =>
    obtain ⟨⟩ := hstep
    refine h.request (fun id hid => ?_) (fun id hid => ?_) rfl rfl rfl rfl
    · obtain rfl := mem_singleton.mp hid
      obtain ⟨hpending, hgeneration⟩ := RebuildRow.request_spec pendingStaleSec .demande
        debounceSeconds clock ((s.table.get? (.demande, id)).getD (RebuildRow.new clock.db))
      refine ⟨_, by simp [RebuildDesk.advance, requestRebuild], hpending, hgeneration.trans ?_⟩
      cases hget : s.table.get? (.demande, id) <;> simp [getGeneration, hget, RebuildRow.new]
    · have hne : id ≠ demandeId := fun heq => hid (mem_singleton.mpr heq)
      simp [RebuildDesk.advance, requestRebuild, hne]
  | requestBatch _ debounceSeconds clock =>
    obtain ⟨⟩ := hstep
    refine h.request (fun id hid => ?_) (fun id hid => ?_) rfl rfl rfl rfl
    · obtain ⟨hpending, hgeneration⟩ := RebuildRow.request_spec pendingStaleSec .demande
        debounceSeconds clock ((s.table.get? (.demande, id)).getD (RebuildRow.new clock.db))
      refine ⟨_, ?_, hpending, hgeneration.trans ?_⟩
      · simp only [RebuildDesk.advance, get?_requestRebuildBatch, true_and, if_pos hid]
      · cases hget : s.table.get? (.demande, id) <;> simp [getGeneration, hget, RebuildRow.new]
    · simp only [RebuildDesk.advance, get?_requestRebuildBatch, true_and, if_neg hid]
  | claim limit token ttl locked now =>
    obtain ⟨⟩ := hstep
    exact h.keep (fun id => claim_spec .demande limit token ttl locked now s.table (.demande, id))
      hsame (Nat.le_succ _) rfl rfl
  | reclaim limit locked now =>
    obtain ⟨⟩ := hstep
    exact h.keep (fun id => reclaim_spec .demande limit locked now s.table (.demande, id))
      hsame (Nat.le_succ _) rfl rfl
  | lockDemande => exact h.tryLock hstep
  | lockBatch =>
    simp only [RebuildDesk.step] at hstep
    split at hstep
    · exact h.tryLock hstep
    · obtain ⟨⟩ := hstep
      exact h.keep (fun _ => rfl) hsame (Nat.le_succ _) rfl rfl
  | readGenerations task =>
    obtain ⟨r, -, hread⟩ := bind_eq_some_iff.mp hstep
    split at hread
    · exact some.inj hread ▸ h.read task r
    · exact absurd hread (by simp)
  | compute =>
    obtain ⟨r, hr, hcompute⟩ := bind_eq_some_iff.mp hstep
    split at hcompute
    · obtain ⟨⟩ := hcompute
      refine h.keep (fun _ => rfl) (fun e he => ?_) (Nat.le_succ _) rfl rfl
      rcases mem_set.mp he with rfl | ⟨he, -⟩
      · exact .inl ⟨_, mem_of_get? hr, rfl, rfl⟩
      · exact hsame e he
    · exact absurd hcompute (by simp)
  | complete _ now =>
    obtain ⟨r, hr, hcomplete⟩ := bind_eq_some_iff.mp hstep
    split at hcomplete
    · exact some.inj hcomplete ▸ h.complete hr now
    · exact absurd hcomplete (by simp)
  | release task =>
    obtain ⟨r, -, hrelease⟩ := bind_eq_some_iff.mp hstep
    split at hrelease
    · obtain ⟨⟩ := hrelease
      exact h.keep (fun _ => rfl) (herase task) (Nat.le_succ _) rfl rfl
    · exact absurd hrelease (by simp)
  | crash task =>
    obtain ⟨⟩ := hstep
    exact h.keep (fun _ => rfl) (herase task) (Nat.le_succ _) rfl rfl

/-- Whenever a row is not pending, every request for it is at most what some completed run has read, and
that run read it after the request. -/
theorem no_missed_rebuild {pendingStaleSec : ℤ} {s : RebuildDesk} {actions : List RebuildAction}
    (hrun : run (RebuildDesk.step pendingStaleSec) RebuildDesk.init actions = some s)
    {demandeId : ℕ} {row : RebuildRow} (hrow : s.table.get? (.demande, demandeId) = some row)
    (hpending : row.pending = false) :
    ∀ q ∈ s.requested, q.demandeId = demandeId → ∃ c ∈ s.completed, c.demandeId = demandeId ∧
      q.generation ≤ c.startGeneration ∧ q.moment < c.began := by
  have htracked : Tracked s :=
    run_invariant_of_step (fun _ _ _ h hstep => h.step hstep) tracked_init hrun
  exact htracked.covered demandeId row hrow hpending

def overlappingRun : List RebuildAction :=
  [.request 1 1 ⟨0, 0⟩, .claim 200 "a" 120 [] 1, .lockDemande 1 1, .readGenerations 1,
    .requestBatch [1, 2] 0 ⟨2, 2⟩, .lockBatch 2 [1], .compute 1, .complete 1 3, .release 1,
    .readGenerations 2, .compute 2, .complete 2 9]

theorem no_missed_rebuild_overlappingRun :
    ∃ s row, run (RebuildDesk.step 900) RebuildDesk.init overlappingRun = some s ∧
      s.table.get? (.demande, 1) = some row ∧ row.pending = false ∧
      s.requested = [⟨1, 1, 0⟩, ⟨1, 2, 4⟩, ⟨2, 1, 4⟩] ∧
      ∀ q ∈ s.requested, q.demandeId = 1 → ∃ c ∈ s.completed, c.demandeId = 1 ∧
        q.generation ≤ c.startGeneration ∧ q.moment < c.began := by
  obtain ⟨s, hrun⟩ : ∃ s, run (RebuildDesk.step 900) RebuildDesk.init overlappingRun = some s :=
    isSome_iff_exists.mp (by decide +kernel)
  have hfacts : ∀ s ∈ run (RebuildDesk.step 900) RebuildDesk.init overlappingRun,
      (s.table.get? (.demande, 1)).map RebuildRow.pending = some false ∧
        s.requested = [⟨1, 1, 0⟩, ⟨1, 2, 4⟩, ⟨2, 1, 4⟩] := by
    decide +kernel
  obtain ⟨hrow, hrequested⟩ := hfacts s hrun
  obtain ⟨row, hrow, hpending⟩ := map_eq_some_iff.mp hrow
  exact ⟨s, row, hrun, hrow, hpending, hrequested, no_missed_rebuild hrun hrow hpending⟩

end ImmoApp.Matching
