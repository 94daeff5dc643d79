import ImmoApp.Foundation.Dict
import ImmoApp.Crm.Junctions

/-!
# The rebuild state

`match_rebuild_state` has one row for each record whose matches may have to be rebuilt.  A request raises the generation
of the row and marks it pending; a flush claims pending rows and starts tasks; a task reads the generation, rebuilds,
and completes the row, which stays pending if the generation has moved.

The rows are those of one agency; every function is one step on the table.  Times are in seconds.
-/

namespace ImmoApp.Matching

open Crm (sortedSet mem_sortedSet)

/-- `scope`: what a rebuild is for. -/
inductive Scope where
  | demande
  | client
  | offer
  | wilaya
  deriving DecidableEq

/-- A row of `match_rebuild_state` without its key. -/
structure RebuildRow where
  pending : Bool
  generation : ℕ
  updatedAt : ℕ
  dispatchAfter : ℕ
  dispatchClaimToken : Option String
  dispatchClaimExpiresAt : Option ℕ
  lastRequestedAt : ℕ

abbrev RebuildTable := Dict (Scope × ℕ) RebuildRow

structure Clock where
  app : ℕ
  db : ℕ

/-! ### Requests -/

/-- `_is_stale`; the first argument is `_PENDING_STALE_SEC`. -/
def isStale (pendingStaleSec : ℤ) (now updatedAt : ℕ) : Bool :=
  decide (0 < pendingStaleSec) && decide (pendingStaleSec < (now : ℤ) - updatedAt)

/-- `_claim_expired`, and the same condition in SQL. -/
def claimExpired (now : ℕ) : Option ℕ → Bool
  | none => true
  | some expiresAt => decide (expiresAt ≤ now)

namespace RebuildRow

def new (now : ℕ) : RebuildRow where
  pending := false
  generation := 0
  updatedAt := now
  dispatchAfter := now
  dispatchClaimToken := none
  dispatchClaimExpiresAt := none
  lastRequestedAt := now

def debounced (debounceSeconds now : ℕ) (r : RebuildRow) : RebuildRow where
  pending := true
  generation := r.generation + 1
  updatedAt := now
  dispatchAfter := now + debounceSeconds
  dispatchClaimToken :=
    if claimExpired now r.dispatchClaimExpiresAt then none else r.dispatchClaimToken
  dispatchClaimExpiresAt :=
    if claimExpired now r.dispatchClaimExpiresAt then none else r.dispatchClaimExpiresAt
  lastRequestedAt := now

def suppressed (now : ℕ) (r : RebuildRow) : RebuildRow :=
  { r with generation := r.generation + 1, updatedAt := now, lastRequestedAt := now }

def enqueued (now : ℕ) (r : RebuildRow) : RebuildRow where
  pending := true
  generation := r.generation + 1
  updatedAt := now
  dispatchAfter := now
  dispatchClaimToken := none
  dispatchClaimExpiresAt := none
  lastRequestedAt := now

/-- One row under `request_rebuild` or `request_rebuild_batch`, and whether a task should be
enqueued. -/
def request (pendingStaleSec : ℤ) (scope : Scope) (debounceSeconds : ℕ) (clock : Clock)
    (r : RebuildRow) : RebuildRow × Bool :=
  if scope = .demande ∧ 0 < debounceSeconds then (r.debounced debounceSeconds clock.db, true)
  else if r.pending && !isStale pendingStaleSec clock.app r.updatedAt &&
      !claimExpired clock.app r.dispatchClaimExpiresAt then (r.suppressed clock.db, false)
  else (r.enqueued clock.db, true)

def dispatchable (now : ℕ) (r : RebuildRow) : Bool :=
  r.pending && decide (r.dispatchAfter ≤ now) && claimExpired now r.dispatchClaimExpiresAt

def claim (token : String) (ttl now : ℕ) (r : RebuildRow) : RebuildRow :=
  { r with
    dispatchClaimToken := some token
    dispatchClaimExpiresAt := some (now + ttl)
    updatedAt := now }

def expired (now : ℕ) (r : RebuildRow) : Bool :=
  r.pending && r.dispatchClaimExpiresAt.any fun expiresAt => decide (expiresAt ≤ now)

def reclaim (now : ℕ) (r : RebuildRow) : RebuildRow :=
  { r with dispatchClaimToken := none, dispatchClaimExpiresAt := none, updatedAt := now }

/-- One row under `complete_rebuild` or `complete_rebuild_batch`, and whether another run is
required. -/
def complete (startGeneration now : ℕ) (r : RebuildRow) : RebuildRow × Bool :=
  let rerun := decide (startGeneration < r.generation)
  ({ r with
      pending := rerun
      dispatchAfter := now
      dispatchClaimToken := none
      dispatchClaimExpiresAt := none
      updatedAt := now }, rerun)

end RebuildRow

/-- `request_rebuild`.  The inserted row is always found again. -/
def requestRebuild (pendingStaleSec : ℤ) (scope : Scope) (scopeId debounceSeconds : ℕ)
    (clock : Clock) (t : RebuildTable) : RebuildTable × Bool :=
  let row := (t.get? (scope, scopeId)).getD (RebuildRow.new clock.db)
  let result := row.request pendingStaleSec scope debounceSeconds clock
  (t.set (scope, scopeId) result.1, result.2)

/-- `sorted({int(v) for v in ids if int(v) > 0})`. -/
def normalizedIds (ids : List ℕ) : List ℕ := sortedSet (· ≤ ·) (ids.filter (0 < ·))

/-- `INSERT … ON CONFLICT DO NOTHING` for some ids. -/
def insertMissing (scope : Scope) (scopeIds : List ℕ) (now : ℕ) (t : RebuildTable) :
    RebuildTable :=
  t ++ (scopeIds.filter fun id => (t.get? (scope, id)).isNone).map fun id =>
    ((scope, id), RebuildRow.new now)

/-- `UPDATE … WHERE scope = … AND scope_id = ANY(…)`. -/
def updateRows (scope : Scope) (scopeIds : List ℕ) (f : ℕ → RebuildRow → RebuildRow)
    (t : RebuildTable) : RebuildTable :=
  t.map fun e => (e.1, if e.1.1 = scope ∧ e.1.2 ∈ scopeIds then f e.1.2 e.2 else e.2)

/-- `request_rebuild_batch`: the ids whose tasks should be enqueued. -/
def requestRebuildBatch (pendingStaleSec : ℤ) (scope : Scope) (scopeIds : List ℕ)
    (debounceSeconds : ℕ) (clock : Clock) (t : RebuildTable) : RebuildTable × List ℕ :=
  let ids := normalizedIds scopeIds
  let inserted := insertMissing scope ids clock.db t
  (updateRows scope ids (fun _ r => (r.request pendingStaleSec scope debounceSeconds clock).1) inserted,
    ids.filter fun id => (inserted.get? (scope, id)).any fun r =>
      (r.request pendingStaleSec scope debounceSeconds clock).2)

def getGeneration (t : RebuildTable) (scope : Scope) (scopeId : ℕ) : ℕ :=
  ((t.get? (scope, scopeId)).map RebuildRow.generation).getD 0

def countDispatchable (t : RebuildTable) (scope : Scope) (now : ℕ) : ℕ :=
  t.countP fun e => decide (e.1.1 = scope) && e.2.dispatchable now

/-- `ORDER BY dispatch_after ASC, last_requested_at ASC, scope_id ASC`. -/
def dispatchBefore (e e' : (Scope × ℕ) × RebuildRow) : Prop :=
  e.2.dispatchAfter < e'.2.dispatchAfter ∨ e.2.dispatchAfter = e'.2.dispatchAfter ∧
    (e.2.lastRequestedAt < e'.2.lastRequestedAt ∨ e.2.lastRequestedAt = e'.2.lastRequestedAt ∧ e.1.2 ≤ e'.1.2)

instance : DecidableRel dispatchBefore := fun _ _ => inferInstanceAs (Decidable (_ ∨ _))

/-- `claim_dispatchable_scope_ids`: `locked` are the ids of the rows that another transaction has
locked, which `SKIP LOCKED` passes over. -/
def claimDispatchableScopeIds (scope : Scope) (limit : ℕ) (token : String) (ttl : ℕ)
    (locked : List ℕ) (now : ℕ) (t : RebuildTable) : RebuildTable × List ℕ :=
  let candidates := (((t.filter fun e => decide (e.1.1 = scope) && e.2.dispatchable now).insertionSort
    dispatchBefore).filter fun e => e.1.2 ∉ locked).take limit
  let ids := candidates.map fun e => e.1.2
  (updateRows scope ids (fun _ r => r.claim token ttl now) t, normalizedIds ids)

def reclaimExpiredDispatchClaims (scope : Scope) (limit : ℕ) (locked : List ℕ) (now : ℕ)
    (t : RebuildTable) : RebuildTable :=
  let expired := (((t.filter fun e => decide (e.1.1 = scope) && e.2.expired now).insertionSort
    fun e e' => e.2.dispatchClaimExpiresAt.getD 0 ≤ e'.2.dispatchClaimExpiresAt.getD 0).filter
      fun e => e.1.2 ∉ locked).take limit
  updateRows scope (expired.map fun e => e.1.2) (fun _ r => r.reclaim now) t

/-- `complete_rebuild`: whether another run is required. -/
def completeRebuild (scope : Scope) (scopeId startGeneration now : ℕ) (t : RebuildTable) : RebuildTable × Bool :=
  match t.get? (scope, scopeId) with
  | none => (t, false)
  | some r =>
    let result := r.complete startGeneration now
    (t.set (scope, scopeId) result.1, result.2)

/-- `complete_rebuild_batch`: the ids that need another run. -/
def completeRebuildBatch (scope : Scope) (startGenerations : Dict ℕ ℕ) (now : ℕ)
    (t : RebuildTable) : RebuildTable × List ℕ :=
  let ids := normalizedIds (startGenerations.map Prod.fst)
  let start := fun id => (startGenerations.get? id).getD 0
  (updateRows scope ids (fun id r => (r.complete (start id) now).1) t,
    ids.filter fun id => (t.get? (scope, id)).any fun r => (r.complete (start id) now).2)

/-! ### What the functions do to a row -/

lemma RebuildRow.request_spec (pendingStaleSec : ℤ) (scope : Scope) (debounceSeconds : ℕ)
    (clock : Clock) (r : RebuildRow) :
    (r.request pendingStaleSec scope debounceSeconds clock).1.pending = true ∧
      (r.request pendingStaleSec scope debounceSeconds clock).1.generation = r.generation + 1 := by
  unfold RebuildRow.request
  split
  · exact ⟨rfl, rfl⟩
  · split
    · next h =>
      simp only [Bool.and_eq_true] at h
      exact ⟨h.1.1, rfl⟩
    · exact ⟨rfl, rfl⟩

variable {id now : ℕ}

@[simp] lemma mem_normalizedIds {ids : List ℕ} : id ∈ normalizedIds ids ↔ id ∈ ids ∧ 0 < id := by
  simp [normalizedIds]

lemma get?_updateRows (scope : Scope) (scopeIds : List ℕ) (f : ℕ → RebuildRow → RebuildRow)
    (t : RebuildTable) (key : Scope × ℕ) :
    (updateRows scope scopeIds f t).get? key =
      (t.get? key).map fun r => if key.1 = scope ∧ key.2 ∈ scopeIds then f key.2 r else r :=
  Dict.get?_map (fun (key : Scope × ℕ) r => if key.1 = scope ∧ key.2 ∈ scopeIds then f key.2 r else r) t key

lemma get?_insertMissing (scope : Scope) (scopeIds : List ℕ) (now : ℕ) (t : RebuildTable) (key : Scope × ℕ) :
    (insertMissing scope scopeIds now t).get? key =
      (t.get? key).or (if key.1 = scope ∧ key.2 ∈ scopeIds then some (RebuildRow.new now)
        else none) := by
  have hnew : ∀ ids : List ℕ, Dict.get? (ids.map fun id => ((scope, id), RebuildRow.new now)) key =
      if key.1 = scope ∧ key.2 ∈ ids then some (RebuildRow.new now) else none := by
    intro ids
    induction ids with
    | nil => simp
    | cons id _ ih =>
      rw [List.map_cons, Dict.get?_cons, ih]
      by_cases hkey : key = (scope, id)
      · simp [hkey]
      · have hne : key.1 = scope → key.2 ≠ id := fun hscope hid => hkey (Prod.ext hscope hid)
        rw [if_neg hkey]
        by_cases hscope : key.1 = scope
        · simp [hscope, hne hscope]
        · simp [hscope]
  rw [insertMissing, Dict.get?_append, hnew]
  cases hget : t.get? key with
  | some => simp
  | none =>
    by_cases hscope : key.1 = scope
    · subst hscope
      simp [hget]
    · simp [hscope]

lemma get?_requestRebuildBatch (pendingStaleSec : ℤ) (scope : Scope) (scopeIds : List ℕ)
    (debounceSeconds : ℕ) (clock : Clock) (t : RebuildTable) (key : Scope × ℕ) :
    (requestRebuildBatch pendingStaleSec scope scopeIds debounceSeconds clock t).1.get? key =
      if key.1 = scope ∧ key.2 ∈ normalizedIds scopeIds then
        some (((t.get? key).getD (RebuildRow.new clock.db)).request pendingStaleSec scope debounceSeconds clock).1
      else t.get? key := by
  simp only [requestRebuildBatch, get?_updateRows, get?_insertMissing]
  by_cases hkey : key.1 = scope ∧ key.2 ∈ normalizedIds scopeIds
  · rw [if_pos hkey, if_pos hkey]
    cases t.get? key <;> simp [hkey]
  · simp only [if_neg hkey, Option.or_none, Option.map_id']

variable {scope : Scope} {r : RebuildRow}

lemma RebuildRow.claimed_of_request {pendingStaleSec : ℤ} {debounceSeconds : ℕ}
    {clock : Clock} (h : (r.request pendingStaleSec scope debounceSeconds clock).2 = false) :
    (r.request pendingStaleSec scope debounceSeconds clock).1.dispatchClaimExpiresAt ≠ none := by
  unfold RebuildRow.request at h ⊢
  split at h
  · exact absurd h (by simp)
  · next hscope =>
    rw [if_neg hscope]
    split at h
    · next hclaimed =>
      rw [if_pos hclaimed]
      intro hnone
      have hkept : r.dispatchClaimExpiresAt = none := hnone
      rw [hkept] at hclaimed
      simp [claimExpired] at hclaimed
    · exact absurd h (by simp)

lemma RebuildRow.request_dispatchAfter (pendingStaleSec : ℤ) (scope : Scope) (debounceSeconds : ℕ)
    (clock : Clock) (r : RebuildRow) :
    (r.request pendingStaleSec scope debounceSeconds clock).1.dispatchAfter ≤
      max r.dispatchAfter (clock.db + debounceSeconds) := by
  unfold RebuildRow.request
  split
  · exact le_max_right _ _
  · split
    · exact le_max_left _ _
    · exact (Nat.le_add_right _ _).trans (le_max_right _ _)

lemma claim_spec (scope : Scope) (limit : ℕ) (token : String) (ttl : ℕ) (locked : List ℕ)
    (now : ℕ) (t : RebuildTable) (key : Scope × ℕ) :
    (((claimDispatchableScopeIds scope limit token ttl locked now t).1.get? key).map fun r =>
        (r.pending, r.generation)) = (t.get? key).map fun r => (r.pending, r.generation) := by
  simp only [claimDispatchableScopeIds, get?_updateRows, Option.map_map]
  congr 1
  funext r
  simp only [Function.comp_apply]
  split <;> rfl

variable {t : RebuildTable}

lemma get?_claim {limit : ℕ} {token : String} {ttl : ℕ} {locked : List ℕ}
    {key : Scope × ℕ} (h : (claimDispatchableScopeIds scope limit token ttl locked now t).1.get? key = some r) :
    ∃ r₀, t.get? key = some r₀ ∧ r.dispatchAfter = r₀.dispatchAfter ∧ (r = r₀ ∨ r.dispatchClaimExpiresAt ≠ none) := by
  simp only [claimDispatchableScopeIds, get?_updateRows] at h
  obtain ⟨r₀, hr₀, rfl⟩ := Option.map_eq_some_iff.mp h
  refine ⟨r₀, hr₀, ?_⟩
  split
  · exact ⟨rfl, .inr (by simp [RebuildRow.claim])⟩
  · exact ⟨rfl, .inl rfl⟩

lemma countDispatchable_pos (hr : t.get? (scope, id) = some r) (h : r.dispatchable now = true) :
    0 < countDispatchable t scope now := by
  rw [countDispatchable, List.countP_pos_iff]
  exact ⟨_, Dict.mem_of_get? hr, by simp [h]⟩

lemma reclaim_spec (scope : Scope) (limit : ℕ) (locked : List ℕ) (now : ℕ) (t : RebuildTable) (key : Scope × ℕ) :
    ((reclaimExpiredDispatchClaims scope limit locked now t).get? key).map (fun r =>
        (r.pending, r.generation)) = (t.get? key).map fun r => (r.pending, r.generation) := by
  simp only [reclaimExpiredDispatchClaims, get?_updateRows, Option.map_map]
  congr 1
  funext r
  simp only [Function.comp_apply]
  split <;> rfl

lemma get?_completeRebuild (scope : Scope) (scopeId startGeneration now : ℕ) (t : RebuildTable) (key : Scope × ℕ) :
    (completeRebuild scope scopeId startGeneration now t).1.get? key = (t.get? key).map fun r =>
        if key = (scope, scopeId) then (r.complete startGeneration now).1 else r := by
  unfold completeRebuild
  split
  · next hnone =>
    by_cases hkey : key = (scope, scopeId)
    · simp [hkey, hnone]
    · simp [hkey]
  · next r hsome =>
    rw [Dict.get?_set]
    by_cases hkey : key = (scope, scopeId)
    · simp [hkey, hsome]
    · simp [hkey]

lemma get?_completeRebuildBatch (scope : Scope) (startGenerations : Dict ℕ ℕ) (now : ℕ)
    (t : RebuildTable) (key : Scope × ℕ) :
    (completeRebuildBatch scope startGenerations now t).1.get? key = (t.get? key).map fun r =>
        if key.1 = scope ∧ key.2 ∈ normalizedIds (startGenerations.map Prod.fst) then
          (r.complete ((startGenerations.get? key.2).getD 0) now).1
        else r := by
  rw [completeRebuildBatch, get?_updateRows]

end ImmoApp.Matching
