import ImmoApp.Crm.Junctions
import ImmoApp.Foundation.Batches

/-!
# Requests and completions of several rebuilds

`match_rebuild_state.py` has each of its two writes twice: for one id, and for a list of ids with set operations in
SQL.  Here the statements of both are followed one by one, on the table with the rows of all agencies, of which the
row-level policy shows a session those of its own, and with every column that may be NULL.

`batches_apply_each` says that a batch does what the single writes do one after the other.
-/

namespace ImmoApp.Matching

open List Option

namespace RebuildState

open Crm (sortedSet mem_sortedSet)

/-- The primary key of `match_rebuild_state`. -/
structure StateKey where
  scope : String
  scopeId : ℤ
  agencyId : ℤ
  deriving DecidableEq

/-- The other columns.  Times are in microseconds. -/
structure StateRow where
  pending : Bool
  generation : ℤ
  updatedAt : Option ℤ
  dispatchAfter : Option ℤ
  dispatchClaimToken : Option String
  dispatchClaimExpiresAt : Option ℤ
  lastRequestedAt : Option ℤ

abbrev StateTable := Keyed StateKey StateRow

structure Session where
  /-- The agency that the row-level policy admits, and that an inserted row belongs to. -/
  agencyId : ℤ
  app : ℤ
  db : ℤ
  pendingStaleSec : ℤ

variable (s : Session) (scope : String)

/-- `INTERVAL '1 second'`. -/
def second : ℤ := 1000000

/-! ### Statements -/

def isStale : Option ℤ → Bool
  | none => false
  | some updatedAt => decide (0 < s.pendingStaleSec) && decide (s.pendingStaleSec * second < s.app - updatedAt)

def claimExpired : Option ℤ → Bool
  | none => true
  | some expiresAt => decide (expiresAt ≤ s.app)

/-- `dispatch_claim_expires_at IS NULL OR dispatch_claim_expires_at <= CURRENT_TIMESTAMP`. -/
def claimOver : Option ℤ → Bool
  | none => true
  | some expiresAt => decide (expiresAt ≤ s.db)

def stateKey (scopeId : ℤ) : StateKey := ⟨scope, scopeId, s.agencyId⟩

def newRow : StateRow where
  pending := false
  generation := 0
  updatedAt := some s.db
  dispatchAfter := some s.db
  dispatchClaimToken := none
  dispatchClaimExpiresAt := none
  lastRequestedAt := some s.db

/-- `ON CONFLICT (scope, scope_id, agency_id) DO NOTHING`, for one row. -/
def insertRow (t : StateTable) (scopeId : ℤ) : StateTable :=
  if (t.get? (stateKey s scope scopeId)).isSome then t else t.set (stateKey s scope scopeId) (newRow s)

/-- `INSERT … ON CONFLICT DO NOTHING`, of one row for each id. -/
def insertMissing (scopeIds : List ℤ) (t : StateTable) : StateTable := scopeIds.foldl (insertRow s scope) t

/-- `SELECT … WHERE scope = … AND scope_id = ANY(…) FOR UPDATE`. -/
def selectRows (scopeIds : List ℤ) (t : StateTable) : List (ℤ × StateRow) :=
  (t.entries.filter fun e => e.1.scope = scope ∧ e.1.agencyId = s.agencyId ∧ e.1.scopeId ∈ scopeIds).map
    fun e => (e.1.scopeId, e.2)

/-- `UPDATE … SET … WHERE scope = … AND scope_id = ANY(…)`; no row is updated for no ids. -/
def updateRows (scopeIds : List ℤ) (f : StateRow → StateRow) (t : StateTable) : StateTable :=
  t.update (fun k _ => k.scope = scope ∧ k.agencyId = s.agencyId ∧ k.scopeId ∈ scopeIds) fun _ r => f r

/-- The `SET` of a request with a delay. -/
def setDebounced (debounceSeconds : ℤ) (r : StateRow) : StateRow where
  pending := true
  generation := r.generation + 1
  updatedAt := some s.db
  dispatchAfter := some (s.db + max 0 debounceSeconds * second)
  dispatchClaimToken := if claimOver s r.dispatchClaimExpiresAt then none else r.dispatchClaimToken
  dispatchClaimExpiresAt := if claimOver s r.dispatchClaimExpiresAt then none else r.dispatchClaimExpiresAt
  lastRequestedAt := some s.db

/-- The `SET` of a request for a row that is claimed. -/
def setSuppressed (r : StateRow) : StateRow :=
  { r with generation := r.generation + 1, updatedAt := some s.db, lastRequestedAt := some s.db }

/-- The `SET` of any other request. -/
def setEnqueued (r : StateRow) : StateRow where
  pending := true
  generation := r.generation + 1
  updatedAt := some s.db
  dispatchAfter := some s.db
  dispatchClaimToken := none
  dispatchClaimExpiresAt := none
  lastRequestedAt := some s.db

/-- The `SET` of a completion. -/
def setCompleted (pending : Bool) (r : StateRow) : StateRow :=
  { r with
    pending
    dispatchAfter := some s.db
    dispatchClaimToken := none
    dispatchClaimExpiresAt := none
    updatedAt := some s.db }

/-! ### The functions -/

def requestRebuild (debounceSeconds scopeId : ℤ) (t : StateTable) : StateTable × Bool :=
  let t := insertMissing s scope [scopeId] t
  match (selectRows s scope [scopeId] t).head? with
  | none => (t, true)
  | some (_, row) =>
    let claimExpired := claimExpired s row.dispatchClaimExpiresAt
    let pending := if row.pending && isStale s row.updatedAt then false else row.pending
    if scope = "demande" ∧ 0 < debounceSeconds then
      (updateRows s scope [scopeId] (setDebounced s debounceSeconds) t, true)
    else if pending && !claimExpired then (updateRows s scope [scopeId] (setSuppressed s) t, false)
    else (updateRows s scope [scopeId] (setEnqueued s) t, true)

/-- `sorted({int(value) for value in scope_ids if int(value) > 0})`. -/
def normalizedIds (scopeIds : List ℤ) : List ℤ := sortedSet (· ≤ ·) (scopeIds.filter (0 < ·))

/-- The test in the loop of `request_rebuild_batch`. -/
def suppresses (row : StateRow) : Bool :=
  let claimExpired := claimExpired s row.dispatchClaimExpiresAt
  let pending := if row.pending && isStale s row.updatedAt then false else row.pending
  pending && !claimExpired

def requestRebuildBatch (debounceSeconds : ℤ) (scopeIds : List ℤ) (t : StateTable) : StateTable × List ℤ :=
  let normalizedIds := normalizedIds scopeIds
  if normalizedIds = [] then (t, [])
  else
    let t := insertMissing s scope normalizedIds t
    if scope = "demande" ∧ 0 < debounceSeconds then
      (updateRows s scope normalizedIds (setDebounced s debounceSeconds) t, normalizedIds)
    else
      let rows := (selectRows s scope normalizedIds t).filter fun row => 0 < row.1
      let enqueueIds := (rows.filter fun row => !suppresses s row.2).map Prod.fst
      let suppressIds := (rows.filter fun row => suppresses s row.2).map Prod.fst
      let t := updateRows s scope suppressIds (setSuppressed s) t
      (updateRows s scope enqueueIds (setEnqueued s) t, sortedSet (· ≤ ·) enqueueIds)

def completeRebuild (startGeneration scopeId : ℤ) (t : StateTable) : StateTable × Bool :=
  match (selectRows s scope [scopeId] t).head? with
  | none => (t, false)
  | some (_, row) =>
    if startGeneration < row.generation then (updateRows s scope [scopeId] (setCompleted s true) t, true)
    else (updateRows s scope [scopeId] (setCompleted s false) t, false)

/-- `start_generations.get(scope_id)`, zero by default. -/
def startGeneration (startGenerations : Dict ℤ ℤ) (scopeId : ℤ) : ℤ := (startGenerations.get? scopeId).getD 0

def completeRebuildBatch (startGenerations : Dict ℤ ℤ) (t : StateTable) : StateTable × List ℤ :=
  let scopeIds := normalizedIds (startGenerations.map Prod.fst)
  if scopeIds = [] then (t, [])
  else
    let rows := selectRows s scope scopeIds t
    if rows = [] then (t, [])
    else
      let rows := rows.filter fun row => 0 < row.1
      let rerun := fun row : ℤ × StateRow => decide (startGeneration startGenerations row.1 < row.2.generation)
      let rerunIds := (rows.filter rerun).map Prod.fst
      let doneIds := (rows.filter fun row => !rerun row).map Prod.fst
      let t := updateRows s scope rerunIds (setCompleted s true) t
      (updateRows s scope doneIds (setCompleted s false) t, sortedSet (· ≤ ·) rerunIds)

/-! ### What the statements read and write -/

section Statements

variable {s scope}

lemma stateKey_injective : Function.Injective (stateKey s scope) := by
  intro id id' h
  exact congrArg StateKey.scopeId h

variable {scopeIds ids : List ℤ} {k : StateKey} {id : ℤ}

lemma mem_map_stateKey : k ∈ scopeIds.map (stateKey s scope) ↔
    k.scope = scope ∧ k.agencyId = s.agencyId ∧ k.scopeId ∈ scopeIds := by
  rw [List.mem_map]
  constructor
  · rintro ⟨_, hid, rfl⟩
    exact ⟨rfl, rfl, hid⟩
  · rintro ⟨rfl, hagency, hid⟩
    exact ⟨k.scopeId, hid, by rw [stateKey, ← hagency]⟩

lemma get?_updateRows (scopeIds : List ℤ) (f : StateRow → StateRow) (t : StateTable) (k : StateKey) :
    (updateRows s scope scopeIds f t).get? k =
      (t.get? k).map fun r => if k ∈ scopeIds.map (stateKey s scope) then f r else r := by
  rw [updateRows, Keyed.get?_update]
  simp only [decide_eq_true_eq, mem_map_stateKey]

lemma get?_updateRows_of_mem (hid : id ∈ scopeIds) (f : StateRow → StateRow) (t : StateTable) :
    (updateRows s scope scopeIds f t).get? (stateKey s scope id) = (t.get? (stateKey s scope id)).map f := by
  simp only [get?_updateRows, if_pos (mem_map_of_mem hid)]

lemma get?_updateRows_of_not_mem (hk : k ∉ scopeIds.map (stateKey s scope))
    (f : StateRow → StateRow) (t : StateTable) : (updateRows s scope scopeIds f t).get? k = t.get? k := by
  simp only [get?_updateRows, if_neg hk, Option.map_id']

variable {t : StateTable}

/-- Two updates of different ids, one after the other: the first takes the ids with `p`, the second those without. -/
lemma get?_updateRows_divided {yes no : List ℤ} {p : ℤ → Bool}
    (hyes : ∀ id ∈ yes, id ∈ ids ∧ p id = true) (hno : ∀ id ∈ no, id ∈ ids ∧ p id = false)
    (hall : ∀ id ∈ ids, t.get? (stateKey s scope id) ≠ none → id ∈ yes ∨ id ∈ no) (f g : StateRow → StateRow) :
    (∀ id ∈ ids, (updateRows s scope no g (updateRows s scope yes f t)).get? (stateKey s scope id) =
      (t.get? (stateKey s scope id)).map (if p id then f else g)) ∧
    ∀ k, k ∉ ids.map (stateKey s scope) → (updateRows s scope no g (updateRows s scope yes f t)).get? k = t.get? k := by
  have hnot : ∀ {id : ℤ} {l : List ℤ}, id ∉ l → stateKey s scope id ∉ l.map (stateKey s scope) :=
    fun hid hmem => hid ((List.mem_map_of_injective stateKey_injective).mp hmem)
  constructor
  · intro id hid
    by_cases hrow : t.get? (stateKey s scope id) = none
    · simp only [get?_updateRows, hrow, map_none]
    by_cases hp : p id = true
    · have hout : id ∉ no := fun hmem => by
        have hfalse := (hno id hmem).2
        rw [hp] at hfalse
        cases hfalse
      have hin : id ∈ yes := (hall id hid hrow).resolve_right hout
      rw [if_pos hp, get?_updateRows_of_not_mem (hnot hout), get?_updateRows_of_mem hin]
    · have hout : id ∉ yes := fun hmem => hp (hyes id hmem).2
      have hin : id ∈ no := (hall id hid hrow).resolve_left hout
      rw [if_neg hp, get?_updateRows_of_mem hin, get?_updateRows_of_not_mem (hnot hout)]
  · intro k hk
    have hout : ∀ l : List ℤ, (∀ id ∈ l, id ∈ ids) → k ∉ l.map (stateKey s scope) := by
      intro l hl hmem
      obtain ⟨id, hid, rfl⟩ := mem_map.mp hmem
      exact hk (mem_map_of_mem (hl id hid))
    rw [get?_updateRows_of_not_mem (hout no fun id hid => (hno id hid).1),
      get?_updateRows_of_not_mem (hout yes fun id hid => (hyes id hid).1)]

lemma get?_insertRow (t : StateTable) (scopeId : ℤ) (k : StateKey) : (insertRow s scope t scopeId).get? k =
    (t.get? k).or (if k = stateKey s scope scopeId then some (newRow s) else none) := by
  unfold insertRow
  by_cases hk : k = stateKey s scope scopeId
  · rw [if_pos hk, hk]
    cases hrow : t.get? (stateKey s scope scopeId) with
    | none => simp
    | some => simp [hrow]
  · rw [if_neg hk, or_none]
    split
    · rfl
    · rw [Keyed.get?_set, if_neg hk]

lemma get?_insertMissing (scopeIds : List ℤ) (t : StateTable) (k : StateKey) :
    (insertMissing s scope scopeIds t).get? k =
      (t.get? k).or (if k ∈ scopeIds.map (stateKey s scope) then some (newRow s) else none) := by
  induction scopeIds generalizing t with
  | nil => exact (or_none).symm
  | cons id rest ih =>
    change (insertMissing s scope rest (insertRow s scope t id)).get? k = _
    rw [ih, get?_insertRow, Option.or_assoc]
    by_cases hk : k = stateKey s scope id
    · have hmem : k ∈ (id :: rest).map (stateKey s scope) := hk ▸ mem_cons_self
      rw [if_pos hk, if_pos hmem, some_or]
    · have hlater : k ∈ (id :: rest).map (stateKey s scope) ↔ k ∈ rest.map (stateKey s scope) := by
        rw [map_cons, mem_cons, or_iff_right hk]
      rw [if_neg hk, none_or]
      simp only [hlater]

lemma mem_selectRows {row : ℤ × StateRow} :
    row ∈ selectRows s scope scopeIds t ↔ row.1 ∈ scopeIds ∧ t.get? (stateKey s scope row.1) = some row.2 := by
  simp only [selectRows, List.mem_map, List.mem_filter, decide_eq_true_eq]
  constructor
  · rintro ⟨e, ⟨he, rfl, hagency, hid⟩, rfl⟩
    have hkey : stateKey s e.1.scope e.1.scopeId = e.1 := by rw [stateKey, ← hagency]
    refine ⟨hid, ?_⟩
    rw [hkey]
    exact Keyed.mem_entries_iff.mp he
  · rintro ⟨hid, hrow⟩
    exact ⟨(stateKey s scope row.1, row.2), ⟨Keyed.mem_entries_iff.mpr hrow, rfl, rfl, hid⟩, rfl⟩

lemma head?_selectRows (scopeId : ℤ) (t : StateTable) :
    (selectRows s scope [scopeId] t).head? = (t.get? (stateKey s scope scopeId)).map fun r => (scopeId, r) := by
  cases hrow : t.get? (stateKey s scope scopeId) with
  | none =>
    have hempty : selectRows s scope [scopeId] t = [] := by
      refine eq_nil_iff_forall_not_mem.mpr fun row hmem => ?_
      obtain ⟨hid, hget⟩ := mem_selectRows.mp hmem
      rw [mem_singleton.mp hid, hrow] at hget
      cases hget
    rw [hempty]
    rfl
  | some r =>
    have hmem : (scopeId, r) ∈ selectRows s scope [scopeId] t :=
      mem_selectRows.mpr ⟨mem_singleton_self _, hrow⟩
    obtain ⟨row, hhead⟩ := isSome_head?.mpr (ne_nil_of_mem hmem) |> isSome_iff_exists.mp
    obtain ⟨hid, hget⟩ := mem_selectRows.mp (mem_of_mem_head? hhead)
    have hid : row.1 = scopeId := mem_singleton.mp hid
    rw [hid, hrow] at hget
    rw [hhead, map_some]
    exact congrArg some (Prod.ext hid (some.inj hget).symm)

@[simp] lemma mem_normalizedIds : id ∈ normalizedIds ids ↔ id ∈ ids ∧ 0 < id := by
  simp [normalizedIds]

lemma sortedSet_eq {ids' : List ℤ} (h : ∀ id, id ∈ ids ↔ id ∈ ids') :
    sortedSet (· ≤ ·) ids = sortedSet (· ≤ ·) ids' := by
  have hperm : ids.dedup.Perm ids'.dedup := by
    refine (perm_ext_iff_of_nodup (nodup_dedup ids) (nodup_dedup ids')).mpr fun id => ?_
    rw [mem_dedup, mem_dedup, h]
  have hsorted : (sortedSet (· ≤ ·) ids).Perm (sortedSet (· ≤ ·) ids') :=
    ((perm_insertionSort _ _).trans hperm).trans (perm_insertionSort _ _).symm
  exact hsorted.eq_of_sortedLE sortedLE_insertionSort sortedLE_insertionSort

end Statements

/-! ### Requests -/

def requested (debounceSeconds : ℤ) (r : StateRow) : StateRow × Bool :=
  if scope = "demande" ∧ 0 < debounceSeconds then (setDebounced s debounceSeconds r, true)
  else if suppresses s r then (setSuppressed s r, false)
  else (setEnqueued s r, true)

/-- The row after a request; one that is not there is inserted first. -/
def requestedRow (debounceSeconds _scopeId : ℤ) (row : Option StateRow) : Option StateRow :=
  some (requested s scope debounceSeconds (row.getD (newRow s))).1

def requestedAnswer (debounceSeconds _scopeId : ℤ) (row : Option StateRow) : Bool :=
  (requested s scope debounceSeconds (row.getD (newRow s))).2

section Requests

variable {s scope}

variable {scopeIds : List ℤ}

lemma get?_insertMissing_of_mem {id : ℤ} (hid : id ∈ scopeIds) (t : StateTable) :
    (insertMissing s scope scopeIds t).get? (stateKey s scope id) =
      some ((t.get? (stateKey s scope id)).getD (newRow s)) := by
  rw [get?_insertMissing, if_pos (mem_map_of_mem hid)]
  cases t.get? (stateKey s scope id) <;> rfl

lemma get?_insertMissing_of_not_mem {k : StateKey} (hk : k ∉ scopeIds.map (stateKey s scope)) (t : StateTable) :
    (insertMissing s scope scopeIds t).get? k = t.get? k := by
  rw [get?_insertMissing, if_neg hk, or_none]

variable (s scope) in
lemma requestRebuild_eq (debounceSeconds id : ℤ) (t : StateTable) : ∃ f : StateRow → StateRow,
      requestRebuild s scope debounceSeconds id t = (updateRows s scope [id] f (insertMissing s scope [id] t),
        requestedAnswer s scope debounceSeconds id (t.get? (stateKey s scope id))) ∧
      some (f ((t.get? (stateKey s scope id)).getD (newRow s))) =
        requestedRow s scope debounceSeconds id (t.get? (stateKey s scope id)) := by
  unfold requestRebuild requestedAnswer requestedRow requested
  simp only [head?_selectRows, get?_insertMissing_of_mem (mem_singleton_self id), map_some]
  generalize (t.get? (stateKey s scope id)).getD (newRow s) = row
  by_cases hdebounced : scope = "demande" ∧ 0 < debounceSeconds
  · simp only [if_pos hdebounced]
    exact ⟨setDebounced s debounceSeconds, rfl, rfl⟩
  · simp only [if_neg hdebounced]
    by_cases hsuppressed : suppresses s row = true
    · rw [if_pos hsuppressed]
      exact ⟨setSuppressed s, if_pos hsuppressed, rfl⟩
    · rw [if_neg hsuppressed]
      exact ⟨setEnqueued s, if_neg hsuppressed, rfl⟩

variable (s scope) in
lemma rowStep_requestRebuild (debounceSeconds : ℤ) :
    Keyed.RowStep (stateKey s scope) (requestedRow s scope debounceSeconds)
      (requestedAnswer s scope debounceSeconds) (requestRebuild s scope debounceSeconds) := by
  constructor
  · intro id t k
    obtain ⟨f, heq, hf⟩ := requestRebuild_eq s scope debounceSeconds id t
    rw [heq]
    by_cases hk : k = stateKey s scope id
    · rw [if_pos hk, hk, ← hf, get?_updateRows_of_mem (mem_singleton_self id),
        get?_insertMissing_of_mem (mem_singleton_self id), map_some]
    · have hnot : k ∉ [id].map (stateKey s scope) := fun hmem => hk (mem_singleton.mp hmem)
      rw [if_neg hk, get?_updateRows_of_not_mem hnot, get?_insertMissing_of_not_mem hnot]
  · intro id t
    obtain ⟨f, heq, -⟩ := requestRebuild_eq s scope debounceSeconds id t
    rw [heq]

variable (s scope) in
lemma mem_picked (scopeIds : List ℤ) (t : StateTable) (p : ℤ × StateRow → Bool) (id : ℤ) :
    id ∈ (((selectRows s scope (normalizedIds scopeIds) t).filter fun row => 0 < row.1).filter p).map Prod.fst ↔
      id ∈ normalizedIds scopeIds ∧ ∃ r, t.get? (stateKey s scope id) = some r ∧ p (id, r) = true := by
  simp only [List.mem_map, List.mem_filter, decide_eq_true_eq]
  constructor
  · rintro ⟨row, ⟨⟨hrow, -⟩, hp⟩, rfl⟩
    obtain ⟨hid, hget⟩ := mem_selectRows.mp hrow
    exact ⟨hid, row.2, hget, hp⟩
  · rintro ⟨hid, r, hget, hp⟩
    exact ⟨(id, r), ⟨⟨mem_selectRows.mpr ⟨hid, hget⟩, (mem_normalizedIds.mp hid).2⟩, hp⟩, rfl⟩

variable (s scope) in
lemma treatsEach_requestRebuildBatch (debounceSeconds : ℤ) (scopeIds : List ℤ) (t : StateTable) :
    Keyed.TreatsEach (stateKey s scope) (requestedRow s scope debounceSeconds)
      (requestedAnswer s scope debounceSeconds) (normalizedIds scopeIds) t
      (requestRebuildBatch s scope debounceSeconds scopeIds t) := by
  unfold requestRebuildBatch
  by_cases hempty : normalizedIds scopeIds = []
  · simp only [hempty]
    refine ⟨fun i hi => (not_mem_nil hi).elim, fun _ _ => rfl, fun i => ?_⟩
    exact ⟨fun hi => (not_mem_nil hi).elim, fun hi => (not_mem_nil hi.1).elim⟩
  simp only [if_neg hempty]
  by_cases hdebounced : scope = "demande" ∧ 0 < debounceSeconds
  · simp only [if_pos hdebounced]
    refine ⟨fun id hid => ?_, fun k hk => ?_, fun id => ?_⟩
    · rw [get?_updateRows_of_mem hid, get?_insertMissing_of_mem hid, requestedRow, requested, if_pos hdebounced]
      rfl
    · rw [get?_updateRows_of_not_mem hk, get?_insertMissing_of_not_mem hk]
    · rw [requestedAnswer, requested, if_pos hdebounced]
      exact (and_iff_left rfl).symm
  · simp only [if_neg hdebounced]
    -- the two lists of the loop divide the ids
    have hsuppress : ∀ id, id ∈ (((selectRows s scope (normalizedIds scopeIds)
        (insertMissing s scope (normalizedIds scopeIds) t)).filter fun row => 0 < row.1).filter
          fun row => suppresses s row.2).map Prod.fst ↔ id ∈ normalizedIds scopeIds ∧
        suppresses s ((t.get? (stateKey s scope id)).getD (newRow s)) = true := by
      intro id
      rw [mem_picked]
      refine and_congr_right fun hid => ?_
      simp only [get?_insertMissing_of_mem hid, Option.some.injEq, exists_eq_left']
    have henqueue : ∀ id, id ∈ (((selectRows s scope (normalizedIds scopeIds)
        (insertMissing s scope (normalizedIds scopeIds) t)).filter fun row => 0 < row.1).filter
          fun row => !suppresses s row.2).map Prod.fst ↔ id ∈ normalizedIds scopeIds ∧
        suppresses s ((t.get? (stateKey s scope id)).getD (newRow s)) = false := by
      intro id
      rw [mem_picked]
      refine and_congr_right fun hid => ?_
      simp only [get?_insertMissing_of_mem hid, Option.some.injEq, exists_eq_left', Bool.not_eq_true']
    generalize (((selectRows s scope (normalizedIds scopeIds) _).filter _).filter
      fun row => suppresses s row.2).map Prod.fst = suppressIds at hsuppress ⊢
    generalize (((selectRows s scope (normalizedIds scopeIds) _).filter _).filter
      fun row => !suppresses s row.2).map Prod.fst = enqueueIds at henqueue ⊢
    have hall : ∀ id ∈ normalizedIds scopeIds, id ∈ suppressIds ∨ id ∈ enqueueIds := by
      intro id hid
      rw [hsuppress, henqueue, ← and_or_left]
      exact ⟨hid, Bool.eq_false_or_eq_true _⟩
    obtain ⟨hrow, hother⟩ := get?_updateRows_divided (t := insertMissing s scope (normalizedIds scopeIds) t)
      (fun id => (hsuppress id).mp) (fun id => (henqueue id).mp) (fun id hid _ => hall id hid)
      (setSuppressed s) (setEnqueued s)
    refine ⟨fun id hid => ?_, fun k hk => ?_, fun id => ?_⟩
    · rw [hrow id hid, get?_insertMissing_of_mem hid, map_some, requestedRow, requested, if_neg hdebounced]
      split <;> rfl
    · rw [hother k hk, get?_insertMissing_of_not_mem hk]
    · rw [mem_sortedSet, henqueue, requestedAnswer, requested, if_neg hdebounced]
      refine and_congr_right fun _ => ?_
      split
      · next hs => simp [hs]
      · next hs => simp [hs]

end Requests

/-! ### Completions -/

def completedRow (startGeneration : ℤ → ℤ) (id : ℤ) (row : Option StateRow) : Option StateRow :=
  row.map fun r => setCompleted s (decide (startGeneration id < r.generation)) r

/-- The answer of a completion: another run is required. -/
def completedAnswer (startGeneration : ℤ → ℤ) (id : ℤ) (row : Option StateRow) : Bool :=
  row.any fun r => decide (startGeneration id < r.generation)

section Completions

variable {s scope}

variable (s scope) in
lemma rowStep_completeRebuild (startGeneration : ℤ → ℤ) :
    Keyed.RowStep (stateKey s scope) (completedRow s startGeneration) (completedAnswer startGeneration)
      fun id => completeRebuild s scope (startGeneration id) id := by
  have hother : ∀ (id : ℤ) (f : StateRow → StateRow) (t : StateTable) (k : StateKey), k ≠ stateKey s scope id →
      (updateRows s scope [id] f t).get? k = t.get? k := fun id f t k hk =>
    get?_updateRows_of_not_mem (fun hmem => hk (mem_singleton.mp hmem)) f t
  constructor
  · intro id t k
    unfold completeRebuild
    rw [head?_selectRows]
    cases hrow : t.get? (stateKey s scope id) with
    | none =>
      by_cases hk : k = stateKey s scope id
      · rw [if_pos hk, hk]
        simp only [map_none, hrow, completedRow]
      · rw [if_neg hk]
        rfl
    | some r =>
      simp only [map_some]
      by_cases hk : k = stateKey s scope id
      · subst hk
        by_cases hlater : startGeneration id < r.generation
        · rw [if_pos hlater, if_pos rfl, get?_updateRows_of_mem (mem_singleton_self id), hrow, completedRow,
            map_some, map_some, decide_eq_true hlater]
        · rw [if_neg hlater, if_pos rfl, get?_updateRows_of_mem (mem_singleton_self id), hrow, completedRow,
            map_some, map_some, decide_eq_false hlater]
      · rw [if_neg hk]
        split
        · exact hother id _ t k hk
        · exact hother id _ t k hk
  · intro id t
    simp only [completeRebuild, head?_selectRows]
    cases t.get? (stateKey s scope id) with
    | none => rfl
    | some =>
      simp only [map_some, completedAnswer, any_some]
      split
      · next hlater => exact (decide_eq_true hlater).symm
      · next hlater => exact (decide_eq_false hlater).symm

variable (s scope) in
lemma treatsEach_completeRebuildBatch (startGenerations : Dict ℤ ℤ) (t : StateTable) :
    Keyed.TreatsEach (stateKey s scope) (completedRow s (startGeneration startGenerations))
      (completedAnswer (startGeneration startGenerations)) (normalizedIds (startGenerations.map Prod.fst)) t
      (completeRebuildBatch s scope startGenerations t) := by
  unfold completeRebuildBatch
  by_cases hempty : normalizedIds (startGenerations.map Prod.fst) = []
  · simp only [hempty]
    refine ⟨fun i hi => (not_mem_nil hi).elim, fun _ _ => rfl, fun i => ?_⟩
    exact ⟨fun hi => (not_mem_nil hi).elim, fun hi => (not_mem_nil hi.1).elim⟩
  simp only [if_neg hempty]
  by_cases hnone : selectRows s scope (normalizedIds (startGenerations.map Prod.fst)) t = []
  · -- none of the ids has a row
    have habsent : ∀ id ∈ normalizedIds (startGenerations.map Prod.fst), t.get? (stateKey s scope id) = none := by
      intro id hid
      rw [eq_none_iff_forall_not_mem]
      intro r hr
      have hmem := mem_selectRows.mpr (show (id, r).1 ∈ _ ∧ _ from ⟨hid, hr⟩)
      rw [hnone] at hmem
      cases hmem
    simp only [if_pos hnone]
    refine ⟨fun id hid => ?_, fun _ _ => rfl, fun id => ?_⟩
    · rw [habsent id hid]
      rfl
    · refine ⟨fun hi => (not_mem_nil hi).elim, fun hi => ?_⟩
      obtain ⟨hid, hanswer⟩ := hi
      rw [habsent id hid] at hanswer
      cases hanswer
  · simp only [if_neg hnone]
    have hrerun := mem_picked s scope (startGenerations.map Prod.fst) t
      fun row => decide (startGeneration startGenerations row.1 < row.2.generation)
    have hdone := mem_picked s scope (startGenerations.map Prod.fst) t
      fun row => !decide (startGeneration startGenerations row.1 < row.2.generation)
    generalize (((selectRows s scope _ t).filter _).filter
      fun row => decide (startGeneration startGenerations row.1 < row.2.generation)).map Prod.fst = rerunIds
      at hrerun ⊢
    generalize (((selectRows s scope _ t).filter _).filter
      fun row => !decide (startGeneration startGenerations row.1 < row.2.generation)).map Prod.fst = doneIds
      at hdone ⊢
    have hanswer : ∀ id, id ∈ rerunIds ↔ id ∈ normalizedIds (startGenerations.map Prod.fst) ∧
        completedAnswer (startGeneration startGenerations) id (t.get? (stateKey s scope id)) = true := by
      intro id
      rw [hrerun, completedAnswer, Option.any_eq_true]
    have hfinished : ∀ id ∈ doneIds, id ∈ normalizedIds (startGenerations.map Prod.fst) ∧
        completedAnswer (startGeneration startGenerations) id (t.get? (stateKey s scope id)) = false := by
      intro id hid
      obtain ⟨hmem, r, hr, hp⟩ := (hdone id).mp hid
      rw [hr, completedAnswer, any_some]
      exact ⟨hmem, by simpa using hp⟩
    have hall : ∀ id ∈ normalizedIds (startGenerations.map Prod.fst), t.get? (stateKey s scope id) ≠ none →
        id ∈ rerunIds ∨ id ∈ doneIds := by
      intro id hid hrow
      obtain ⟨r, hr⟩ := ne_none_iff_exists'.mp hrow
      rw [hrerun, hdone, hr]
      simp only [Option.some.injEq, exists_eq_left', hid, true_and, Bool.not_eq_true']
      exact Bool.eq_false_or_eq_true _
    obtain ⟨hrow, hother⟩ := get?_updateRows_divided (fun id => (hanswer id).mp) hfinished hall
      (setCompleted s true) (setCompleted s false)
    refine ⟨fun id hid => ?_, hother, fun id => ?_⟩
    · rw [hrow id hid]
      cases t.get? (stateKey s scope id) with
      | none => rfl
      | some r =>
        rw [completedRow, completedAnswer, any_some, map_some, map_some]
        by_cases hlater : startGeneration startGenerations id < r.generation
        · rw [decide_eq_true hlater, if_pos rfl]
        · rw [decide_eq_false hlater, if_neg (by simp)]
    · rw [mem_sortedSet, hanswer]

end Completions

/-! ### The batches -/

lemma requestRebuildBatch_sorted (debounceSeconds : ℤ) (scopeIds : List ℤ) (t : StateTable) :
    ∃ ids, (requestRebuildBatch s scope debounceSeconds scopeIds t).2 = sortedSet (· ≤ ·) ids := by
  unfold requestRebuildBatch
  dsimp only
  split
  · exact ⟨[], rfl⟩
  · split
    · exact ⟨scopeIds.filter (0 < ·), rfl⟩
    · exact ⟨_, rfl⟩

lemma completeRebuildBatch_sorted (startGenerations : Dict ℤ ℤ) (t : StateTable) :
    ∃ ids, (completeRebuildBatch s scope startGenerations t).2 = sortedSet (· ≤ ·) ids := by
  unfold completeRebuildBatch
  dsimp only
  split
  · exact ⟨[], rfl⟩
  · split
    · exact ⟨[], rfl⟩
    · exact ⟨_, rfl⟩

/-- A batch of requests leaves the table, and returns the ids, that the requests for its distinct positive ids do one
after the other, in any order; so does a batch of completions. -/
theorem batches_apply_each (t : StateTable) (debounceSeconds : ℤ) (scopeIds : List ℤ) (startGenerations : Dict ℤ ℤ)
    {requests completions : List ℤ} (hrequests : requests.Nodup)
    (hrequested : ∀ id, id ∈ requests ↔ id ∈ scopeIds ∧ 0 < id) (hcompletions : completions.Nodup)
    (hcompleted : ∀ id, id ∈ completions ↔ id ∈ startGenerations.map Prod.fst ∧ 0 < id) :
    ((requestRebuildBatch s scope debounceSeconds scopeIds t).1.Same
        (Keyed.applyEach (requestRebuild s scope debounceSeconds) requests t).1 ∧
      (requestRebuildBatch s scope debounceSeconds scopeIds t).2 = sortedSet (· ≤ ·)
        (Keyed.applyEach (requestRebuild s scope debounceSeconds) requests t).2) ∧
    (completeRebuildBatch s scope startGenerations t).1.Same
        (Keyed.applyEach (fun id => completeRebuild s scope (startGeneration startGenerations id) id)
          completions t).1 ∧
      (completeRebuildBatch s scope startGenerations t).2 = sortedSet (· ≤ ·)
        (Keyed.applyEach (fun id => completeRebuild s scope (startGeneration startGenerations id) id)
          completions t).2 := by
  obtain ⟨hsame, hids⟩ := (treatsEach_requestRebuildBatch s scope debounceSeconds scopeIds t).unique
    ((rowStep_requestRebuild s scope debounceSeconds).treatsEach stateKey_injective hrequests t)
    fun id => by rw [mem_normalizedIds, hrequested]
  obtain ⟨hsame', hids'⟩ := (treatsEach_completeRebuildBatch s scope startGenerations t).unique
    ((rowStep_completeRebuild s scope (startGeneration startGenerations)).treatsEach stateKey_injective
      hcompletions t)
    fun id => by rw [mem_normalizedIds, hcompleted]
  refine ⟨⟨hsame, ?_⟩, hsame', ?_⟩
  · obtain ⟨_, hsorted⟩ := requestRebuildBatch_sorted s scope debounceSeconds scopeIds t
    rw [hsorted]
    refine sortedSet_eq fun id => ?_
    rw [← hids, hsorted, mem_sortedSet]
  · obtain ⟨_, hsorted⟩ := completeRebuildBatch_sorted s scope startGenerations t
    rw [hsorted]
    refine sortedSet_eq fun id => ?_
    rw [← hids', hsorted, mem_sortedSet]

def sampleSession : Session := ⟨4, 9000000, 9000000, 1⟩

/-- Offer 3 of agency 4 has been claimed, offer 7 is pending for too long, and offer 3 of agency 9 is another row. -/
def sampleTable : StateTable :=
  ((Keyed.empty.set ⟨"offer", 3, 4⟩
    ⟨true, 2, some 8500000, some 8500000, some "claim", some 9500000, some 8500000⟩).set ⟨"offer", 7, 4⟩
    ⟨true, 5, some 7000000, some 7000000, some "claim", some 9500000, none⟩).set ⟨"offer", 3, 9⟩
    ⟨true, 1, none, none, none, none, none⟩

/-- The claimed offer is left to its task, the stale one and the new one are enqueued; offer 3 has to run again. -/
theorem batches_apply_each_offers :
    (requestRebuildBatch sampleSession "offer" 0 [3, -1, 7, 3, 0, 12] sampleTable).2 = [7, 12] ∧
    (completeRebuildBatch sampleSession "offer" [(3, 1), (7, 5), (-2, 0)] sampleTable).2 = [3] ∧
    ((requestRebuildBatch sampleSession "offer" 0 [3, -1, 7, 3, 0, 12] sampleTable).1.Same
        (Keyed.applyEach (requestRebuild sampleSession "offer" 0) [12, 3, 7] sampleTable).1 ∧
      (requestRebuildBatch sampleSession "offer" 0 [3, -1, 7, 3, 0, 12] sampleTable).2 = sortedSet (· ≤ ·)
        (Keyed.applyEach (requestRebuild sampleSession "offer" 0) [12, 3, 7] sampleTable).2) ∧
    (completeRebuildBatch sampleSession "offer" [(3, 1), (7, 5), (-2, 0)] sampleTable).1.Same
        (Keyed.applyEach (fun id => completeRebuild sampleSession "offer"
          (startGeneration [(3, 1), (7, 5), (-2, 0)] id) id) [7, 3] sampleTable).1 ∧
      (completeRebuildBatch sampleSession "offer" [(3, 1), (7, 5), (-2, 0)] sampleTable).2 = sortedSet (· ≤ ·)
        (Keyed.applyEach (fun id => completeRebuild sampleSession "offer"
          (startGeneration [(3, 1), (7, 5), (-2, 0)] id) id) [7, 3] sampleTable).2 := by
  refine ⟨by decide +kernel, by decide +kernel, batches_apply_each sampleSession "offer" sampleTable 0
    [3, -1, 7, 3, 0, 12] [(3, 1), (7, 5), (-2, 0)] (by decide) (fun id => ?_) (by decide) (fun id => ?_)⟩
  · simp only [mem_cons, not_mem_nil, or_false]
    omega
  · simp only [map_cons, map_nil, mem_cons, not_mem_nil, or_false]
    omega

end RebuildState

end ImmoApp.Matching
