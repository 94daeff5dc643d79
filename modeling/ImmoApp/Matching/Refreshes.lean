import ImmoApp.Matching.Mutations
import ImmoApp.Matching.OfferPairs

/-!
# Cached counts and the refresh of dirty rows

The cached count of a client is derived from `match_candidates`.  An operation marks the client's row;
`rebuild_match_cache_dirty` counts the clients of the marked rows and stores the numbers with a clean mark; a rebuild of
pairs replaces candidates and then asks for such a refresh.

`counts_right_of_undisturbed`: in every run in which candidates are replaced only while the row is not clean, or are
current already, and no operation comes between a count and its store, every clean row holds its number of matches.
-/

namespace ImmoApp.Matching

open Crm List Option Keyed

inductive PairTask where
  /-- `rebuild_match_pairs_for_demande`. -/
  | demande (demandeId : ℕ)
  /-- `rebuild_match_pairs_for_demandes_batch`. -/
  | batch (demandeIds : List ℕ)
  /-- `rebuild_match_pairs_for_client`. -/
  | client (clientId : ℕ) (includeDeleted : Bool)
  deriving DecidableEq

/-- The advisory lock of a task: a batch is known by its first id, its last id and its length. -/
def PairTask.lockKey : PairTask → Option Scope × List ℕ
  | .demande demandeId => (some .demande, [demandeId])
  | .batch demandeIds => (none, [demandeIds.head?.getD 0, demandeIds.getLast?.getD 0, demandeIds.length])
  | .client clientId _ => (some .client, [clientId])

inductive PairPhase where
  | locked
  | computing
  | computed
  | completed
  deriving DecidableEq

structure PairRun where
  task : PairTask
  phase : PairPhase := .locked
  startGenerations : Dict ℕ ℕ := []
  /-- The last demande of the last page, for a client. -/
  last : ℕ := 0
  batches : List (List ℕ) := []
  /-- The task to enqueue at the end, where another run is required. -/
  rerun : Option PairTask := none

/-! ### Refreshes -/

structure RefreshRun where
  /-- The marked rows are done, and clients without a row are looked for. -/
  missing : Bool := false
  last : ℕ := 0
  batches : List (List ℕ) := []
  counted : Option (Dict ℕ ℕ) := none

inductive CountTask where
  | pairs (task : PairTask)
  | refresh
  deriving DecidableEq

/-- The database, the queue and the tasks that run. -/
structure CountDesk where
  store : MatchStore
  rebuilds : RebuildTable
  /-- The requests of committed transactions that are still to be made. -/
  callbacks : List PairRequest
  tasks : List CountTask
  pairRuns : Dict ℕ PairRun
  /-- The refresh that runs: it has the advisory lock. -/
  refresh : Option RefreshRun

structure CountSettings where
  backend : Backend
  sql : SqlArithmetic
  access : Access
  pairs : PairSettings
  pendingStaleSec : ℤ
  debounceSeconds : ℕ
  demandeStreamPageSize : ℕ
  demandeTaskChunkSize : ℕ
  matchCacheDbBatchSize : ℕ

def computeMatchPairsForDemande (settings : CountSettings) (db : Db) (demandeId : ℕ) (limit : Option ℤ)
    (t : Artifacts) : Option Artifacts :=
  match liveDemande db demandeId with
  | none => some (t.withoutDemandes fun id => id == demandeId)
  | some d => do
    let (t, result) ← computeMatchArtifactsForDemandes settings.sql settings.access settings.pairs.mode db
      [(d.id : ℤ)] limit t
    let counts := (result.perDemande.get? d.id).getD ⟨0, 0, 0⟩
    if counts.candidateTotal = 0 then return t.withoutDemandes fun id => id == demandeId
    return t

def PairTask.compute (settings : CountSettings) (task : PairTask) (db : Db) (demandeIds : List ℕ)
    (t : Artifacts) : Option Artifacts :=
  match task with
  | .demande demandeId =>
    computeMatchPairsForDemande settings db demandeId (some defaultMatchPairsLimit) t
  | .batch _ | .client _ _ =>
    (computeMatchPairsForDemandes settings.sql settings.access settings.pairs db demandeIds
      (some defaultMatchPairsLimit) t).map Prod.fst

def PairTask.replaces (task : PairTask) (demandeIds : List ℕ) : List ℕ :=
  match task with
  | .demande demandeId => [demandeId]
  | .batch _ | .client _ _ => demandeIds.filter fun v => 0 < v

/-- The demandes of a client, for `iter_demande_ids_for_client`. -/
def demandeIdsForClient (db : Db) (clientId : ℕ) (includeDeleted : Bool) : List ℕ :=
  sortedIds ((db.demandes.rows.filter fun d => d.columns.clientId == clientId &&
    (includeDeleted || d.live)).map Row.id)

def PairRun.readGenerations (settings : CountSettings) (rebuilds : RebuildTable) (r : PairRun) : PairRun :=
  match r.task with
  | .demande demandeId =>
    { r with
      phase := .computing
      startGenerations := [(demandeId, getGeneration rebuilds .demande demandeId)]
      batches := [[demandeId]] }
  | .batch demandeIds =>
    let ids := normalizedIds demandeIds
    { r with
      phase := .computing
      startGenerations := ids.map fun id => (id, getGeneration rebuilds .demande id)
      batches := demandeChunks settings.pairs ids }
  | .client clientId _ =>
    { r with
      phase := .computing
      startGenerations := [(clientId, getGeneration rebuilds .client clientId)] }

/-- A rebuild without transactions to come reads the next page of demandes, or is through. -/
def PairRun.nextPage (settings : CountSettings) (db : Db) (r : PairRun) : PairRun :=
  match r.task with
  | .demande _ | .batch _ => { r with phase := .computed }
  | .client clientId includeDeleted =>
    let ids := page (demandeIdsForClient db clientId includeDeleted) settings.demandeStreamPageSize r.last
    if ids = [] then { r with phase := .computed }
    else { r with last := lastOf ids, batches := demandeChunks settings.pairs ids }

def PairRun.complete (now : ℕ) (rebuilds : RebuildTable) (r : PairRun) : RebuildTable × PairRun :=
  let start := fun id => (r.startGenerations.get? id).getD 0
  match r.task with
  | .demande demandeId =>
    let result := completeRebuild .demande demandeId (start demandeId) now rebuilds
    (result.1, { r with phase := .completed, rerun := if result.2 then some r.task else none })
  | .batch _ =>
    let result := completeRebuildBatch .demande r.startGenerations now rebuilds
    (result.1, { r with
      phase := .completed
      rerun := if result.2 = [] then none else some (.batch result.2) })
  | .client clientId _ =>
    let result := completeRebuild .client clientId (start clientId) now rebuilds
    (result.1, { r with phase := .completed, rerun := if result.2 then some r.task else none })

def dirtyIds (counts : Keyed ℕ CountRow) : List ℕ :=
  sortedIds ((counts.entries.filter fun e => e.2.isDirty).map Prod.fst)

def missingIds (db : Db) (counts : Keyed ℕ CountRow) : List ℕ :=
  sortedIds ((db.clients.rows.filter fun c => activeClient c && (counts.get? c.id).isNone).map Row.id)

/-- The refresh reads its next page: after the last page of marked rows it looks for missing ones, and
after the last page of these it is through. -/
def RefreshRun.nextPage (settings : CountSettings) (s : MatchStore) (r : RefreshRun) :
    Option RefreshRun :=
  let ids := page (if r.missing then missingIds s.db s.counts else dirtyIds s.counts)
    settings.matchCacheDbBatchSize r.last
  if ids ≠ [] then some { r with last := lastOf ids, batches := slices ids 100 }
  else if r.missing then none
  else some { r with missing := true, last := 0 }

def storeCountsBatch (db : Db) (counts : Dict ℕ ℕ) (cache : Keyed ℕ CountRow) : Keyed ℕ CountRow :=
  let ids := (normalizedIds (counts.map Prod.fst)).filter fun id =>
    db.clients.rows.any fun c => c.id == id && activeClient c
  ids.foldl (fun cache id => cache.set id ⟨(counts.get? id).getD 0, false⟩) cache

/-! ### Steps -/

inductive CountAction where
  /-- An operation on a demande or a client commits. -/
  | mutate (call : ClientCall) (now : ℕ)
  | callback (request : PairRequest) (clock : Clock)
  /-- `flush_rebuild_demande_pairs_queue` claims demandes and enqueues their batches. -/
  | flush (limit : ℕ) (token : String) (ttl : ℕ) (locked : List ℕ) (now : ℕ)
  /-- The owner, an import or the integrity check asks for a task. -/
  | enqueue (task : CountTask)
  | startPairs (number : ℕ) (task : PairTask)
  | readGenerations (number : ℕ)
  | pairsPage (number : ℕ)
  | replace (number : ℕ)
  | complete (number now : ℕ)
  | finish (number : ℕ)
  | crashPairs (number : ℕ)
  | startRefresh
  | refreshPage
  | count
  | store
  | crashRefresh

variable (settings : CountSettings)

/-- The request of a committed transaction.  A demande waits for the next flush. -/
def CountDesk.request (s : CountDesk) (request : PairRequest) (clock : Clock) : CountDesk :=
  match request with
  | .demande demandeId =>
    { s with
      callbacks := s.callbacks.erase request
      rebuilds := (requestRebuild settings.pendingStaleSec .demande demandeId settings.debounceSeconds
        clock s.rebuilds).1 }
  | .client clientId includeDeleted =>
    let result := requestRebuild settings.pendingStaleSec .client clientId 0 clock s.rebuilds
    { s with
      callbacks := s.callbacks.erase request
      rebuilds := result.1
      tasks := if result.2 then s.tasks ++ [.pairs (.client clientId includeDeleted)] else s.tasks }

def CountDesk.setPairs (s : CountDesk) (number : ℕ) (r : PairRun) : CountDesk :=
  { s with pairRuns := s.pairRuns.set number r }

def CountDesk.step (s : CountDesk) : CountAction → Option CountDesk
  | .mutate call now =>
    (call.change settings.backend now s.store).toOption.map fun c =>
      { s with store := c.commit, callbacks := s.callbacks ++ c.callback.toList }
  | .callback request clock =>
    if request ∈ s.callbacks then some (s.request settings request clock) else none
  | .flush limit token ttl locked now =>
    let result := claimDispatchableScopeIds .demande limit token ttl locked now s.rebuilds
    some { s with
      rebuilds := result.1
      tasks := s.tasks ++ (slices result.2 settings.demandeTaskChunkSize).map fun ids =>
        .pairs (.batch ids) }
  | .enqueue task => some { s with tasks := s.tasks ++ [task] }
  | .startPairs number task =>
    if .pairs task ∉ s.tasks ∨ (s.pairRuns.get? number).isSome then none
    else if s.pairRuns.any fun e => e.2.task.lockKey == task.lockKey then
      some { s with tasks := s.tasks.erase (.pairs task) }
    else some ({ s with tasks := s.tasks.erase (.pairs task) }.setPairs number { task })
  | .readGenerations number =>
    (s.pairRuns.get? number).bind fun r =>
      if r.phase = .locked then some (s.setPairs number (r.readGenerations settings s.rebuilds)) else none
  | .pairsPage number =>
    (s.pairRuns.get? number).bind fun r =>
      if r.phase = .computing ∧ r.batches = [] then
        some (s.setPairs number (r.nextPage settings s.store.db))
      else none
  | .replace number =>
    (s.pairRuns.get? number).bind fun r =>
      match r.batches with
      | [] => none
      | demandeIds :: rest =>
        (r.task.compute settings s.store.db demandeIds s.store.artifacts).map fun artifacts =>
          { s with store := { s.store with artifacts := artifacts } }.setPairs number
            { r with batches := rest }
  | .complete number now =>
    (s.pairRuns.get? number).bind fun r =>
      if r.phase = .computed then
        let result := r.complete now s.rebuilds
        some ({ s with rebuilds := result.1 }.setPairs number result.2)
      else none
  | .finish number =>
    (s.pairRuns.get? number).bind fun r =>
      if r.phase = .completed then
        some { s with
          pairRuns := s.pairRuns.erase number
          tasks := s.tasks ++ (r.rerun.toList.map CountTask.pairs ++ [.refresh]) }
      else none
  | .crashPairs number => some { s with pairRuns := s.pairRuns.erase number }
  | .startRefresh =>
    if .refresh ∉ s.tasks then none
    else some { s with
      tasks := s.tasks.erase .refresh
      refresh := if s.refresh.isSome then s.refresh else some {} }
  | .refreshPage =>
    s.refresh.bind fun r =>
      if r.batches = [] then some { s with refresh := r.nextPage settings s.store } else none
  | .count =>
    s.refresh.bind fun r =>
      match r.batches, r.counted with
      | clientIds :: _, none =>
        let counts := countClientsForIds s.store.db s.store.artifacts.candidates clientIds
        some { s with refresh := some { r with counted := some counts } }
      | _, _ => none
  | .store =>
    s.refresh.bind fun r =>
      r.counted.map fun counts =>
        { s with
          store := { s.store with counts := storeCountsBatch s.store.db counts s.store.counts }
          refresh := some { r with batches := r.batches.tail, counted := none } }
  | .crashRefresh => some { s with refresh := none }

/-! ### The property and the condition -/

/-- Every clean row of an active client holds its number of matches. -/
def CountsRight (s : MatchStore) : Prop :=
  ∀ clientId, ActiveClient s.db clientId → ∀ row, s.counts.get? clientId = some row →
    row.isDirty = false → row.count = matchCount s.db s.artifacts.candidates clientId

/-- No rebuild is pending, and no task is queued or runs. -/
structure CountDesk.Quiescent (s : CountDesk) : Prop where
  callbacks : s.callbacks = []
  pending : ∀ e ∈ s.rebuilds, e.2.pending = false
  tasks : s.tasks = []
  pairRuns : s.pairRuns = []
  refresh : s.refresh = none

/-- A refresh has counted the client and not stored the count yet. -/
def CountDesk.Counted (s : CountDesk) (clientId : ℕ) : Prop :=
  ∃ r ∈ s.refresh, ∃ counts ∈ r.counted, (counts.get? clientId).isSome = true

def candidateOfferIds (candidates : Candidates) (demandeId : ℕ) : List ℕ :=
  (candidates.entries.filter fun e => e.1.1 = demandeId).map fun e => e.1.2

def matchingOfferIds (db : Db) (demandeId : ℕ) : List ℕ :=
  matchedPairs (fun _ o => o.id) { demandeIds := [demandeId] } db

def CandidatesCurrent (s : MatchStore) (demandeId : ℕ) : Prop :=
  (∀ offerId ∈ candidateOfferIds s.artifacts.candidates demandeId, offerId ∈ matchingOfferIds s.db demandeId) ∧
  ∀ offerId ∈ matchingOfferIds s.db demandeId, offerId ∈ candidateOfferIds s.artifacts.candidates demandeId

/-- The client's row is clean, or about to become so. -/
def CountDesk.Exposed (s : CountDesk) (clientId : ℕ) : Prop :=
  (∃ row ∈ s.store.counts.get? clientId, row.isDirty = false) ∨ s.Counted clientId

/-- An operation marks no client between its count and its store, and the candidates of an active client's
live demande are replaced only while its row is not clean, and not between its count and its store, or are
current already. -/
def Undisturbed (s : CountDesk) : CountAction → Prop
  | .mutate call now => ∀ c ∈ (call.change settings.backend now s.store).toOption,
      ∀ clientId ∈ c.marked, ¬ s.Counted clientId
  | .replace number => ∀ r ∈ s.pairRuns.get? number, ∀ demandeIds ∈ r.batches.head?,
      ∀ d ∈ s.store.db.demandes.rows, d.live = true → d.id ∈ r.task.replaces demandeIds →
        ActiveClient s.store.db d.columns.clientId → s.Exposed d.columns.clientId → CandidatesCurrent s.store d.id
  | _ => True

/-! The condition can be checked on a concrete run. -/

instance (db : Db) (clientId : ℕ) : Decidable (ActiveClient db clientId) :=
  inferInstanceAs (Decidable (∃ c ∈ db.clients.rows, c.id = clientId ∧ activeClient c = true))

instance (s : CountDesk) (clientId : ℕ) : Decidable (s.Counted clientId) :=
  inferInstanceAs (Decidable (∃ r ∈ s.refresh, ∃ counts ∈ r.counted, (counts.get? clientId).isSome = true))

instance (s : CountDesk) (clientId : ℕ) : Decidable (s.Exposed clientId) :=
  inferInstanceAs (Decidable ((∃ row ∈ s.store.counts.get? clientId, row.isDirty = false) ∨ s.Counted clientId))

instance (s : MatchStore) (demandeId : ℕ) : Decidable (CandidatesCurrent s demandeId) :=
  inferInstanceAs (Decidable ((∀ offerId ∈ candidateOfferIds s.artifacts.candidates demandeId,
      offerId ∈ matchingOfferIds s.db demandeId) ∧
    ∀ offerId ∈ matchingOfferIds s.db demandeId, offerId ∈ candidateOfferIds s.artifacts.candidates demandeId))

instance (s : CountDesk) : DecidablePred (Undisturbed settings s)
  | .mutate call now => inferInstanceAs (Decidable (∀ c ∈ (call.change settings.backend now
      s.store).toOption, ∀ clientId ∈ c.marked, ¬ s.Counted clientId))
  | .replace number => inferInstanceAs (Decidable (∀ r ∈ s.pairRuns.get? number,
      ∀ demandeIds ∈ r.batches.head?, ∀ d ∈ s.store.db.demandes.rows, d.live = true →
        d.id ∈ r.task.replaces demandeIds → ActiveClient s.store.db d.columns.clientId →
          s.Exposed d.columns.clientId → CandidatesCurrent s.store d.id))
  | .callback .. | .flush .. | .enqueue .. | .startPairs .. | .readGenerations .. | .pairsPage ..
  | .complete .. | .finish .. | .crashPairs .. | .startRefresh | .refreshPage | .count | .store
  | .crashRefresh => .isTrue trivial

/-! ### What a rebuild replaces -/

section Replaced

variable {settings} {db : Db} {t t' : Artifacts}

def Replaced (db : Db) (ids : List ℕ) (t t' : Artifacts) : Prop :=
  ∀ demandeId offerId, (t'.candidates.get? (demandeId, offerId)).isSome ↔
    if demandeId ∈ ids then offerId ∈ matchingOfferIds db demandeId
    else (t.candidates.get? (demandeId, offerId)).isSome

variable {demandeId : ℕ} {ids : List ℕ} {limit : Option ℤ}

variable {offerId : ℕ} {sql : SqlArithmetic} {access : Access}

lemma mem_matchingOfferIds :
    offerId ∈ matchingOfferIds db demandeId ↔ ∃ d o, MatchOf db [demandeId] d o ∧ o.id = offerId :=
  mem_matched (by simp)

lemma mem_candidateOfferIds {candidates : Candidates} :
    offerId ∈ candidateOfferIds candidates demandeId ↔ (candidates.get? (demandeId, offerId)).isSome := by
  simp only [candidateOfferIds, List.mem_map, List.mem_filter, decide_eq_true_eq]
  constructor
  · rintro ⟨⟨⟨d, o⟩, columns⟩, ⟨he, rfl⟩, rfl⟩
    rw [mem_entries_iff.mp he]
    rfl
  · intro h
    obtain ⟨columns, hget⟩ := Option.isSome_iff_exists.mp h
    exact ⟨((demandeId, offerId), columns), ⟨mem_entries_iff.mpr hget, rfl⟩, rfl⟩

lemma replaced_of_rebuilt (hids : ids ≠ []) (h : Rebuilt sql access db ids limit t t') : Replaced db ids t t' := by
  intro demandeId offerId
  rw [h.candidates]
  by_cases hin : demandeId ∈ ids
  · simp only [if_pos hin]
    rw [isSome_iff_exists, mem_matchingOfferIds]
    constructor
    · rintro ⟨v, hv⟩
      obtain ⟨d, o, hmatch, hk, -⟩ := (get?_matched hids).mp hv
      obtain ⟨hd, ho⟩ := Prod.mk.inj hk
      exact ⟨d, o, ⟨hmatch.demande, hmatch.offer, hmatch.live, mem_singleton.mpr hd⟩, ho⟩
    · rintro ⟨d, o, hmatch, rfl⟩
      have hd : d.id = demandeId := mem_singleton.mp hmatch.asked
      exact ⟨_, (get?_matched hids).mpr ⟨d, o, ⟨hmatch.demande, hmatch.offer, hmatch.live, hd ▸ hin⟩,
        Prod.ext hd rfl, rfl⟩⟩
  · simp only [if_neg hin]

lemma replaced_of_computeMatchPairs {pairs : PairSettings}
    {r : Artifacts × ℕ × ℕ}
    (h : computeMatchPairsForDemandes sql access pairs db ids limit t = some r) :
    Replaced db (ids.filter fun v => 0 < v) t r.1 := by
  obtain ⟨_, hcompute, hcases⟩ := computeMatchPairs_rebuilt sql access pairs db ids limit t
  obtain rfl := some.inj (hcompute.symm.trans h)
  rcases hcases with ⟨hnil, hsame⟩ | ⟨hids, hrebuilt⟩
  · intro demandeId offerId
    rw [hnil, hsame]
    simp
  · exact replaced_of_rebuilt hids hrebuilt

lemma Replaced.clear (h : Replaced db [demandeId] t t') (hnone : matchingOfferIds db demandeId = []) :
    Replaced db [demandeId] t (t'.withoutDemandes fun id => id == demandeId) := by
  intro d offerId
  by_cases hd : d = demandeId
  · subst hd
    have hgone : (t'.withoutDemandes fun id => id == d).candidates.get? (d, offerId) = none := by
      change (t'.candidates.delete fun k _ => k.1 == d).get? (d, offerId) = none
      rw [get?_delete]
      cases t'.candidates.get? (d, offerId) <;> simp
    simp [hgone, hnone]
  · have hkept : (t'.withoutDemandes fun id => id == demandeId).candidates.get? (d, offerId)
        = t'.candidates.get? (d, offerId) :=
      get?_delete_of_false fun _ => beq_false_of_ne hd
    rw [hkept]
    exact h d offerId

lemma replaced_of_computeMatchPairsForDemande
    (h : computeMatchPairsForDemande settings db demandeId limit t = some t') :
    Replaced db [demandeId] t t' := by
  unfold computeMatchPairsForDemande at h
  cases hlive : liveDemande db demandeId with
  | none =>
    simp only [hlive] at h
    obtain ⟨⟩ := h
    have hnone : matchingOfferIds db demandeId = [] := by
      refine eq_nil_iff_forall_not_mem.mpr fun offerId hoffer => ?_
      obtain ⟨d, o, hmatch, -⟩ := mem_matchingOfferIds.mp hoffer
      have hsome := liveDemande_eq_some_iff.mpr ⟨⟨hmatch.demande, mem_singleton.mp hmatch.asked⟩, hmatch.demandeLive⟩
      rw [hlive] at hsome
      cases hsome
    intro d offerId
    by_cases hd : d = demandeId
    · subst hd
      have hgone : (t.withoutDemandes fun id => id == d).candidates.get? (d, offerId) = none := by
        change (t.candidates.delete fun k _ => k.1 == d).get? (d, offerId) = none
        rw [get?_delete]
        cases t.candidates.get? (d, offerId) <;> simp
      simp [hgone, hnone]
    · have hkept : (t.withoutDemandes fun id => id == demandeId).candidates.get? (d, offerId)
          = t.candidates.get? (d, offerId) :=
        get?_delete_of_false fun _ => beq_false_of_ne hd
      simp [hkept, hd]
  | some d =>
    obtain ⟨⟨hmem, rfl⟩, -⟩ := liveDemande_eq_some_iff.mp hlive
    have hids : positiveIds [(d.id : ℤ)] = [d.id] := by
      have hpos := db.demandes.positive d hmem
      simp [positiveIds, hpos]
    obtain ⟨_, r, hcompute, hrebuilt, hcounted⟩ := computeMatchArtifacts_spec settings.sql
      settings.access settings.pairs.mode db [(d.id : ℤ)] limit t (by simp [hids])
    rw [hids] at hrebuilt hcounted
    have hreplaced := replaced_of_rebuilt (by simp) hrebuilt
    simp only [hlive, hcompute, bind_eq_bind, bind_some] at h
    split at h
    · next hzero =>
      obtain ⟨⟩ := h
      refine hreplaced.clear (eq_nil_iff_forall_not_mem.mpr fun offerId hoffer => ?_)
      -- the number of candidates is that of the matches
      obtain ⟨d', o, hmatch, -⟩ := mem_matchingOfferIds.mp hoffer
      rw [hcounted.perDemande, if_pos (mem_singleton_self d.id)] at hzero
      have hscored : _ ∈ scoredMatches settings.sql _ [d.id] :=
        (mem_scoredMatches (by simp)).mpr ⟨d', o, hmatch, rfl⟩
      exact countP_eq_zero.mp hzero _ hscored (by simpa using hmatch.asked)
    · obtain ⟨⟩ := h
      exact hreplaced

lemma replaced_of_compute {task : PairTask}
    (h : task.compute settings db ids t = some t') : Replaced db (task.replaces ids) t t' := by
  cases task with
  | demande => exact replaced_of_computeMatchPairsForDemande h
  | batch =>
    obtain ⟨r, hcompute, rfl⟩ := map_eq_some_iff.mp h
    exact replaced_of_computeMatchPairs hcompute
  | client =>
    obtain ⟨r, hcompute, rfl⟩ := map_eq_some_iff.mp h
    exact replaced_of_computeMatchPairs hcompute

lemma Replaced.clientOffers (h : Replaced db ids t t') (counts : Keyed ℕ CountRow)
    {clientId : ℕ} (hcurrent : ∀ d ∈ db.demandes.rows, d.live = true → d.id ∈ ids →
      d.columns.clientId = clientId → CandidatesCurrent ⟨db, t, counts⟩ d.id) (offerId : ℕ) :
    (clientId, offerId) ∈ Matching.clientOffers db t'.candidates ↔
      (clientId, offerId) ∈ Matching.clientOffers db t.candidates := by
  have hsame : ∀ d ∈ db.demandes.rows, d.live = true → d.columns.clientId = clientId →
      ((t'.candidates.get? (d.id, offerId)).isSome ↔ (t.candidates.get? (d.id, offerId)).isSome) := by
    intro d hd hlive hclient
    rw [h]
    by_cases hin : d.id ∈ ids
    · obtain ⟨hstored, hmatching⟩ := hcurrent d hd hlive hin hclient
      rw [if_pos hin]
      exact ⟨fun ho => mem_candidateOfferIds.mp (hmatching offerId ho),
        fun ho => hstored offerId (mem_candidateOfferIds.mpr ho)⟩
    · rw [if_neg hin]
  rw [mem_clientOffers, mem_clientOffers]
  refine and_congr_right fun _ => exists_congr fun d => and_congr_left fun hclient => ?_
  constructor
  · intro hd
    exact ⟨hd.demande, hd.live, (hsame d hd.demande hd.live hclient).mp hd.candidate, hd.offer⟩
  · intro hd
    exact ⟨hd.demande, hd.live, (hsame d hd.demande hd.live hclient).mpr hd.candidate, hd.offer⟩

end Replaced

lemma get?_storeCountsBatch_eq (db : Db) (counts : Dict ℕ ℕ) (cache : Keyed ℕ CountRow) (clientId : ℕ) :
    (storeCountsBatch db counts cache).get? clientId =
      if clientId ∈ (normalizedIds (counts.map Prod.fst)).filter fun id =>
        db.clients.rows.any fun c => c.id == id && activeClient c
      then some ⟨(counts.get? clientId).getD 0, false⟩ else cache.get? clientId := by
  have hfold : ∀ (ids : List ℕ) (cache : Keyed ℕ CountRow),
      (ids.foldl (fun cache id => cache.set id ⟨(counts.get? id).getD 0, false⟩) cache).get? clientId
        = if clientId ∈ ids then some ⟨(counts.get? clientId).getD 0, false⟩
          else cache.get? clientId := by
    intro ids
    induction ids with
    | nil => simp
    | cons id _ ih =>
      intro cache
      rw [foldl_cons, ih, get?_set]
      by_cases hid : clientId = id
      · subst hid
        simp
      · simp [hid]
  exact hfold _ cache

variable {counts : Dict ℕ ℕ} {cache : Keyed ℕ CountRow} {clientId : ℕ}

lemma get?_storeCountsBatch_of_none {db : Db} (hnone : counts.get? clientId = none) :
    (storeCountsBatch db counts cache).get? clientId = cache.get? clientId := by
  rw [get?_storeCountsBatch_eq, if_neg]
  intro hmem
  obtain ⟨e, he, hkey⟩ := mem_map.mp (mem_normalizedIds.mp (mem_filter.mp hmem).1).1
  exact Dict.get?_eq_none_iff.mp hnone e he hkey

/-- A batch leaves a clean row for each client that is still active, and the other rows as they are. -/
lemma get?_storeCountsBatch {db : Db} (hactive : ActiveClient db clientId) :
    (storeCountsBatch db counts cache).get? clientId =
      ((counts.get? clientId).map fun n => ⟨n, false⟩).or (cache.get? clientId) := by
  obtain ⟨c, hc, hid, hc'⟩ := hactive
  have hpos : 0 < clientId := hid ▸ db.clients.positive c hc
  have hstored : (db.clients.rows.any fun c => c.id == clientId && activeClient c) = true :=
    any_eq_true.mpr ⟨c, hc, by simp [hid, hc']⟩
  cases hget : counts.get? clientId with
  | none => exact get?_storeCountsBatch_of_none hget
  | some =>
    rw [get?_storeCountsBatch_eq]
    simp only [mem_filter, mem_normalizedIds, hpos, hstored, and_true]
    rw [if_pos (mem_map.mpr ⟨_, Dict.mem_of_get? hget, rfl⟩), hget]
    rfl

/-! ### The invariant -/

section Invariant

variable {settings} {s t : CountDesk}

/-- Every clean row of an active client is right, and so is what a refresh has counted for one. -/
structure CountsKept (s : CountDesk) : Prop where
  right : CountsRight s.store
  counted : ∀ r ∈ s.refresh, ∀ counts ∈ r.counted, ∀ clientId n, counts.get? clientId = some n →
    ActiveClient s.store.db clientId → n = matchCount s.store.db s.store.artifacts.candidates clientId

/-- Steps that leave the store, and count nothing, keep the invariant. -/
lemma CountsKept.keep (h : CountsKept s) (hstore : t.store = s.store)
    (hrefresh : ∀ r ∈ t.refresh, ∀ counts ∈ r.counted, ∃ r' ∈ s.refresh, counts ∈ r'.counted) :
    CountsKept t := by
  refine ⟨hstore ▸ h.right, fun r hr counts hcounts => ?_⟩
  obtain ⟨r', hr', hcounts'⟩ := hrefresh r hr counts hcounts
  rw [hstore]
  exact h.counted r' hr' counts hcounts'

lemma CountsKept.mutate {call : ClientCall} {now : ℕ} {c : ClientChange} (h : CountsKept s)
    (hchange : call.change settings.backend now s.store = .ok c)
    (hguard : ∀ clientId ∈ c.marked, ¬ s.Counted clientId) :
    CountsKept { s with store := c.commit, callbacks := s.callbacks ++ c.callback.toList } := by
  have hframe := clientFrame_of_change hchange
  have hrow : ∀ clientId row, c.commit.counts.get? clientId = some row → row.isDirty = false →
      c.marked ≠ some clientId := by
    intro clientId row hget hclean hmarked
    rw [hframe.dirty clientId hmarked row hget] at hclean
    cases hclean
  have hother : ∀ clientId, ActiveClient c.commit.db clientId → c.marked ≠ some clientId →
      ActiveClient s.store.db clientId ∧ matchCount c.commit.db c.commit.artifacts.candidates clientId
        = matchCount s.store.db s.store.artifacts.candidates clientId := by
    rintro clientId ⟨r, hr, rfl, hactive⟩ hid
    exact ⟨⟨r, (hframe.clients r hid).mp hr, rfl, hactive⟩, matchCount_congr (hframe.clientOffers hid)⟩
  refine ⟨fun clientId hclient row hget hclean => ?_, fun r hr counts hcounts clientId n hn hclient => ?_⟩
  · have hid := hrow clientId row hget hclean
    obtain ⟨hactive, hsame⟩ := hother clientId hclient hid
    rw [hframe.counts clientId hid] at hget
    exact (h.right clientId hactive row hget hclean).trans hsame.symm
  · have hid : c.marked ≠ some clientId := by
      intro hmarked
      exact hguard clientId hmarked ⟨r, hr, counts, hcounts, by rw [hn]; rfl⟩
    obtain ⟨hactive, hsame⟩ := hother clientId hclient hid
    exact (h.counted r hr counts hcounts clientId n hn hactive).trans hsame.symm

lemma CountsKept.replace {ids : List ℕ} {artifacts : Artifacts} (h : CountsKept s)
    (hreplaced : Replaced s.store.db ids s.store.artifacts artifacts)
    (hguard : ∀ d ∈ s.store.db.demandes.rows, d.live = true → d.id ∈ ids →
      ActiveClient s.store.db d.columns.clientId → s.Exposed d.columns.clientId → CandidatesCurrent s.store d.id)
    (hstore : t.store = { s.store with artifacts := artifacts }) (hrefresh : t.refresh = s.refresh) :
    CountsKept t := by
  have hsame : ∀ clientId, ActiveClient s.store.db clientId → s.Exposed clientId →
      matchCount s.store.db artifacts.candidates clientId
        = matchCount s.store.db s.store.artifacts.candidates clientId := by
    intro clientId hactive hexposed
    refine matchCount_congr (hreplaced.clientOffers s.store.counts ?_)
    rintro d hd hlive hin rfl
    exact hguard d hd hlive hin hactive hexposed
  refine ⟨?_, ?_⟩
  · rw [hstore]
    intro clientId hactive row hget hclean
    exact (h.right clientId hactive row hget hclean).trans (hsame clientId hactive (.inl ⟨row, hget, hclean⟩)).symm
  · rw [hstore, hrefresh]
    intro r hr counts hcounts clientId n hn hactive
    exact (h.counted r hr counts hcounts clientId n hn hactive).trans
      (hsame clientId hactive (.inr ⟨r, hr, counts, hcounts, by rw [hn]; rfl⟩)).symm

variable {r : RefreshRun}

lemma CountsKept.count {clientIds : List ℕ} (h : CountsKept s) (hstore : t.store = s.store)
    (hrefresh : t.refresh = some { r with
      counted := some (countClientsForIds s.store.db s.store.artifacts.candidates clientIds) }) :
    CountsKept t := by
  refine ⟨hstore ▸ h.right, fun r' hr' counts hcounts clientId n hn _ => ?_⟩
  rw [hrefresh] at hr'
  obtain ⟨⟩ := hr'
  obtain ⟨⟩ := hcounts
  rw [get?_countClientsForIds] at hn
  split at hn
  · rw [hstore]
    exact (some.inj hn).symm
  · cases hn

lemma CountsKept.store {counts : Dict ℕ ℕ} {batches : List (List ℕ)} (h : CountsKept s)
    (hr : s.refresh = some r) (hcounts : r.counted = some counts)
    (hstore : t.store = { s.store with
      counts := storeCountsBatch s.store.db counts s.store.counts })
    (hrefresh : t.refresh = some { r with batches := batches, counted := none }) : CountsKept t := by
  refine ⟨?_, fun r' hr' counts' hcounts' => ?_⟩
  · rw [hstore]
    intro clientId hactive row hget hclean
    rw [get?_storeCountsBatch hactive] at hget
    cases hn : counts.get? clientId with
    | none =>
      rw [hn] at hget
      exact h.right clientId hactive row hget hclean
    | some n =>
      rw [hn] at hget
      obtain ⟨⟩ := hget
      exact h.counted r hr counts hcounts clientId n hn hactive
  · rw [hrefresh] at hr'
    obtain ⟨⟩ := hr'
    cases hcounts'

lemma counted_nextPage {r' : RefreshRun} {store : MatchStore}
    (h : r.nextPage settings store = some r') : r'.counted = r.counted := by
  unfold RefreshRun.nextPage at h
  generalize page (if r.missing = true then missingIds store.db store.counts
    else dirtyIds store.counts) settings.matchCacheDbBatchSize r.last = ids at h
  simp only at h
  split at h
  · obtain ⟨⟩ := h
    rfl
  · split at h
    · cases h
    · obtain ⟨⟩ := h
      rfl

lemma CountsKept.step {a : CountAction} (h : CountsKept s) (hguard : Undisturbed settings s a)
    (hstep : s.step settings a = some t) : CountsKept t := by
  have hkeep : t.store = s.store → t.refresh = s.refresh → CountsKept t := fun hstore hrefresh =>
    h.keep hstore fun r hr counts hcounts => ⟨r, hrefresh ▸ hr, hcounts⟩
  cases a with
  | mutate =>
    obtain ⟨c, hchange, rfl⟩ := map_eq_some_iff.mp hstep
    exact h.mutate (eq_ok_of_toOption hchange) (hguard c hchange)
  | callback request =>
    rw [CountDesk.step] at hstep
    split at hstep
    · obtain ⟨⟩ := hstep
      cases request <;> exact hkeep rfl rfl
    · cases hstep
  | flush =>
    obtain ⟨⟩ := hstep
    exact hkeep rfl rfl
  | enqueue =>
    obtain ⟨⟩ := hstep
    exact hkeep rfl rfl
  | startPairs =>
    rw [CountDesk.step] at hstep
    split at hstep
    · cases hstep
    · split at hstep
      · obtain ⟨⟩ := hstep
        exact hkeep rfl rfl
      · obtain ⟨⟩ := hstep
        exact hkeep rfl rfl
  | readGenerations =>
    obtain ⟨r, hr, hstep⟩ := bind_eq_some_iff.mp hstep
    split at hstep
    · obtain ⟨⟩ := hstep
      exact hkeep rfl rfl
    · cases hstep
  | pairsPage =>
    obtain ⟨r, hr, hstep⟩ := bind_eq_some_iff.mp hstep
    split at hstep
    · obtain ⟨⟩ := hstep
      exact hkeep rfl rfl
    · cases hstep
  | replace =>
    obtain ⟨r, hr, hstep⟩ := bind_eq_some_iff.mp hstep
    split at hstep
    · cases hstep
    · next demandeIds rest hbatches =>
      obtain ⟨_, hcompute, rfl⟩ := map_eq_some_iff.mp hstep
      refine h.replace (replaced_of_compute hcompute) ?_ rfl rfl
      exact hguard r hr demandeIds (by rw [hbatches]; rfl)
  | complete =>
    obtain ⟨r, hr, hstep⟩ := bind_eq_some_iff.mp hstep
    split at hstep
    · obtain ⟨⟩ := hstep
      exact hkeep rfl rfl
    · cases hstep
  | finish =>
    obtain ⟨r, hr, hstep⟩ := bind_eq_some_iff.mp hstep
    split at hstep
    · obtain ⟨⟩ := hstep
      exact hkeep rfl rfl
    · cases hstep
  | crashPairs =>
    obtain ⟨⟩ := hstep
    exact hkeep rfl rfl
  | startRefresh =>
    rw [CountDesk.step] at hstep
    split at hstep
    · cases hstep
    · obtain ⟨⟩ := hstep
      refine h.keep rfl fun r hr counts hcounts => ?_
      cases hrefresh : s.refresh with
      | none =>
        -- a refresh that starts has counted nothing
        simp only [hrefresh, isSome_none, Bool.false_eq_true, if_false] at hr
        obtain ⟨⟩ := hr
        cases hcounts
      | some =>
        simp only [hrefresh, isSome_some, if_true] at hr
        exact ⟨r, hr, hcounts⟩
  | refreshPage =>
    obtain ⟨r, hr, hstep⟩ := bind_eq_some_iff.mp hstep
    split at hstep
    · obtain ⟨⟩ := hstep
      refine h.keep rfl fun r' hr' counts hcounts => ⟨r, hr, ?_⟩
      rw [← counted_nextPage hr']
      exact hcounts
    · cases hstep
  | count =>
    obtain ⟨r, hr, hstep⟩ := bind_eq_some_iff.mp hstep
    split at hstep
    · next clientIds _ _ _ =>
      obtain ⟨⟩ := hstep
      exact h.count rfl rfl
    · cases hstep
  | store =>
    obtain ⟨r, hr, hstep⟩ := bind_eq_some_iff.mp hstep
    obtain ⟨_, hcounts, rfl⟩ := map_eq_some_iff.mp hstep
    exact h.store hr hcounts rfl rfl
  | crashRefresh =>
    obtain ⟨⟩ := hstep
    refine h.keep rfl fun r hr => ?_
    cases hr

/-- In every run from a right cache that nothing disturbs, every clean row of an active client holds its
number of matches, in each state reached. -/
theorem counts_right_of_undisturbed {as : List CountAction} (hs : CountsRight s.store) (hrefresh : s.refresh = none)
    (hguard : Guarded (CountDesk.step settings) (Undisturbed settings) s as)
    (hrun : run (CountDesk.step settings) s as = some t) : CountsRight t.store := by
  have hkept : CountsKept s := by
    refine ⟨hs, fun r hr => ?_⟩
    rw [hrefresh] at hr
    cases hr
  exact (run_invariant (fun _ _ _ hs hguard hstep => hs.step hguard hstep) hkept hguard hrun).right

end Invariant

/-! ### Two runs -/

def plainCountSettings : CountSettings where
  backend := sampleBackend
  sql := plainSql
  access := plainAccess
  pairs := plainSettings
  pendingStaleSec := 300
  debounceSeconds := 0
  demandeStreamPageSize := 200
  demandeTaskChunkSize := 50
  matchCacheDbBatchSize := 200

def deletedDesk : CountDesk where
  store :=
    { db := { hydraDb 16 with
        demandes := (Table.empty.insert plainDemande 0).update (fun _ => true) (Row.delete 1) }
      artifacts := ⟨Keyed.empty, Keyed.empty⟩
      counts := Keyed.empty.set 1 ⟨0, false⟩ }
  rebuilds := []
  callbacks := []
  tasks := []
  pairRuns := []
  refresh := none

def rebuildActions : List CountAction :=
  [.callback (.demande 1) ⟨2, 2⟩, .flush 10 "flush" 60 [] 5, .startPairs 1 (.batch [1]),
    .readGenerations 1, .replace 1, .pairsPage 1, .complete 1 6, .finish 1]

def refreshActions : List CountAction :=
  [.startRefresh, .refreshPage, .count, .store, .refreshPage, .refreshPage]

lemma deletedDesk_right : CountsRight deletedDesk.store := by
  intro clientId _ row hrow _
  have hget : (Keyed.empty.set 1 ⟨0, false⟩ : Keyed ℕ CountRow).get? clientId = some row := hrow
  rw [get?_set] at hget
  split at hget
  · next hid =>
    subst hid
    obtain ⟨⟩ := hget
    decide +kernel
  · cases hget

/-- The refresh after the rebuild counts the offer. -/
theorem counts_right_restored : ∃ t, run (CountDesk.step plainCountSettings) deletedDesk
        (.mutate (.restoreDemande 1) 2 :: rebuildActions ++ refreshActions) = some t ∧
      CountsRight t.store := by
  obtain ⟨t, ht⟩ := isSome_iff_exists.mp (show (run (CountDesk.step plainCountSettings) deletedDesk
      (.mutate (.restoreDemande 1) 2 :: rebuildActions ++ refreshActions)).isSome = true by
        decide +kernel)
  exact ⟨t, ht, counts_right_of_undisturbed deletedDesk_right rfl (by decide +kernel) ht⟩

/-- A refresh that runs between the restoration and the rebuild stores the old count as clean, and the
refresh after the rebuild finds nothing to do. -/
def earlyRefresh : List CountAction :=
  ([.mutate (.restoreDemande 1) 2, .enqueue .refresh] : List CountAction) ++ refreshActions ++ rebuildActions ++
    ([.startRefresh, .refreshPage, .refreshPage] : List CountAction)

/-- Nothing is left to be done, and the clean count of the client is wrong. -/
theorem stale_count_after_rebuild :
    ¬ ∀ (settings : CountSettings) (s t : CountDesk) (as : List CountAction), CountsRight s.store →
      s.Quiescent → run (CountDesk.step settings) s as = some t → t.Quiescent →
        CountsRight t.store := by
  intro h
  obtain ⟨t, ht⟩ := isSome_iff_exists.mp
    (show (run (CountDesk.step plainCountSettings) deletedDesk earlyRefresh).isSome = true by
      decide +kernel)
  have hend : ∀ t ∈ run (CountDesk.step plainCountSettings) deletedDesk earlyRefresh,
      (t.callbacks = [] ∧ (∀ e ∈ t.rebuilds, e.2.pending = false) ∧ t.tasks = [] ∧ t.pairRuns = [] ∧
        t.refresh = none) ∧ ActiveClient t.store.db 1 ∧
      t.store.counts.get? 1 = some ⟨0, false⟩ ∧
      matchCount t.store.db t.store.artifacts.candidates 1 = 1 := by
    decide +kernel
  obtain ⟨⟨hcallbacks, hpending, htasks, hruns, hrefresh⟩, hactive, hrow, hcount⟩ := hend t ht
  have hright := h plainCountSettings deletedDesk t earlyRefresh deletedDesk_right
    ⟨rfl, by simp [deletedDesk], rfl, rfl, rfl⟩ ht ⟨hcallbacks, hpending, htasks, hruns, hrefresh⟩
  have hzero := hright 1 hactive ⟨0, false⟩ hrow rfl
  rw [hcount] at hzero
  cases hzero

end ImmoApp.Matching
