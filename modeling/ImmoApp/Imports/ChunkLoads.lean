import ImmoApp.Foundation.Slices
import ImmoApp.Imports.ChunkPlans
import Mathlib.Data.List.ReduceOption

/-!
# Loading a chunk of a bundle

The LOAD phase of a chunk inserts its planned entries in batches.  A batch of parents that meets a conflict is cut into
halves until the rows that cause it are found; a child without a parent becomes an error.  If a parent could not be
inserted, or too many children have no parent, the phase raises, and nothing is committed.

`rowsAccounted` says of planning and loading that whenever a phase returns, its counts add up and no entry is lost.
-/

namespace ImmoApp.Imports

open List Option

/-! ### The phase -/

structure CreatedRowRef where
  sourceOrdinal : ℤ
  createdId : ℤ

inductive InsertAttempt (σ : Type) where
  | created (session : σ) (rows : List CreatedRowRef)
  | conflict (session : σ)
  | failed

structure LoadError where
  row : ℤ
  errors : List String
  data : Fields

structure LoadChunk (σ : Type) where
  role : BundleRole
  entityType : ReviewEntity
  /-- The planned entries, none where their manifest is missing. -/
  entries : Option (List Fields)
  ceiling : ℕ
  /-- The anchors of the loaded parents, none where these are not loaded yet. -/
  rootLoadAnchorMap : Option (Dict String ℤ)
  session : σ
  insertBatch : σ → List Fields → Option (σ × List ℤ)
  /-- `insert_batch_refs`, for the positions of the rows. -/
  insertBatchRefs : σ → List Fields → List ℤ → InsertAttempt σ
  cancelledAtStart : Bool
  /-- The job is cancelled before the batch of this number. -/
  cancelRequested : ℕ → Bool
  /-- The lease is held before and during the batch of this number. -/
  leaseHeld : ℕ → Bool
  commits : Bool
  attemptCurrent : Bool

structure LoadRun (σ : Type) where
  session : σ
  createdCount : ℕ := 0
  skippedCount : ℕ := 0
  errorCount : ℕ := 0
  createdAnchorMap : Dict String ℤ := []
  loadErrors : List LoadError := []
  /-- The entity type is one of `committed_entities`. -/
  committed : Bool := false

def entrySourceOrdinal (entry : Fields) (fallback : ℤ) : ℤ :=
  match fieldOr entry "_source_ordinal" (.int fallback) with
  | .scalar (.float _) => fallback
  | v => v.toInt?.getD fallback

def batchEntrySourceOrdinals (batch : List Fields) : List ℤ :=
  batch.zipIdx.map fun e => entrySourceOrdinal e.1 e.2

/-- `_require_created_row_refs`, none where it raises. -/
def requireCreatedRowRefs (rows : List CreatedRowRef) (expected : List ℤ) : Option (List CreatedRowRef) :=
  let ordinals := rows.map CreatedRowRef.sourceOrdinal
  if rows.length = expected.length ∧ (∀ row ∈ rows, 0 < row.createdId) ∧ (∀ n ∈ ordinals, 0 ≤ n) ∧ ordinals.Nodup ∧
      expected.Nodup ∧ (∀ n ∈ ordinals, n ∈ expected) ∧ (∀ n ∈ expected, n ∈ ordinals) then
    some (rows.insertionSort fun row row' => row.sourceOrdinal ≤ row'.sourceOrdinal)
  else none

/-- `remember_created_anchor_keys`, for rows that have passed the check. -/
def rememberCreatedAnchorKeys (T : MatchTexts) (createdAnchorMap : Dict String ℤ) (batch : List Fields)
    (rows : List CreatedRowRef) : Dict String ℤ :=
  rows.foldl (fun anchors row =>
    match batch.find? fun entry => entrySourceOrdinal entry 0 = row.sourceOrdinal with
    | some entry => KeyIndex.setAll anchors (entryStrList T entry "anchor_keys") row.createdId
    | none => anchors) createdAnchorMap

def buildRootConflictError (entry : Fields) : LoadError :=
  ⟨entryRowNum entry, ["Unique conflict during root load"], entryDict entry "data"⟩

section Phase

variable {σ : Type} (T : MatchTexts) (L : LoadChunk σ)

def insertRoots (session : σ) (batch : List Fields) : InsertAttempt σ :=
  L.insertBatchRefs session (batch.map fun entry => entryDict entry "data") (batchEntrySourceOrdinals batch)

/-- `flush_root_entries_with_conflict_isolation`: the batches that wait, the next one first. -/
def flushWorklist (worklist : List (List Fields)) (s : LoadRun σ) : Option (LoadRun σ) :=
  match worklist with
  | [] => some s
  | batch :: rest =>
    match insertRoots L s.session batch with
    | .failed => none
    | .created session rows =>
      match requireCreatedRowRefs rows (batchEntrySourceOrdinals batch) with
      | none => none
      | some created =>
        flushWorklist rest { s with
          session := session
          createdCount := s.createdCount + created.length
          createdAnchorMap := rememberCreatedAnchorKeys T s.createdAnchorMap batch created
          committed := s.committed || !created.isEmpty }
    | .conflict session =>
      match batch with
      | [] => none
      | [entry] =>
        flushWorklist rest { s with
          session := session
          errorCount := s.errorCount + 1
          loadErrors := s.loadErrors ++ [buildRootConflictError entry] }
      | entry :: entry' :: entries =>
        let half := (entry :: entry' :: entries).length / 2
        flushWorklist ((entry :: entry' :: entries).take half :: (entry :: entry' :: entries).drop half :: rest)
          { s with session := session }
termination_by (worklist.map fun batch => max 1 (2 * batch.length - 1)).sum
decreasing_by
  · simp only [List.map_cons, List.sum_cons]
    omega
  · simp only [List.map_cons, List.sum_cons]
    omega
  · simp only [List.map_cons, List.sum_cons, List.length_take, List.length_drop, List.length_cons]
    omega

def indexedEntries (batch : List Fields) : List Fields :=
  batch.zipIdx.map fun e => e.1.set "_source_ordinal" (.int e.2)

def loadRootBatch (s : LoadRun σ) (item : List Fields × ℕ) : Option (LoadRun σ) :=
  if L.leaseHeld item.2 = false ∨ L.cancelRequested item.2 then none
  else flushWorklist T L [indexedEntries item.1] s

/-- The parent of a child; positive where there is one. -/
def resolvedAnchor (anchors : Dict String ℤ) (entry : Fields) : ℤ :=
  if entryInt entry "anchor_id" ≤ 0 then (anchors.get? (entryStr T entry "anchor_key")).getD 0
  else entryInt entry "anchor_id"

def LoadChunk.childParentField : String := if L.entityType = .demande then "client_id" else "listing_id"

def childRow (anchors : Dict String ℤ) (entry : Fields) : Option Fields :=
  if 0 < resolvedAnchor T anchors entry then
    some ((entryDict entry "data").set L.childParentField (.int (resolvedAnchor T anchors entry)))
  else none

/-- The error of a child that has none: `classify_child_anchor`, `build_child_anchor_failure_rows`. -/
def childError (anchors : Dict String ℤ) (entry : Fields) : Option LoadError :=
  if 0 < resolvedAnchor T anchors entry then none
  else some ⟨entryRowNum entry,
    [if entryInt entry "anchor_id" < 0 then "Planned child row had an ambiguous parent and was not anchored."
      else "Planned child row lost its parent anchor during load."], entryDict entry "data"⟩

/-- `timed_insert_batch_rows`, none where it raises. -/
def timedInsertBatchRows (session : σ) (rows : List Fields) : Option (σ × List ℤ) :=
  if rows = [] then some (session, [])
  else (L.insertBatch session rows).filter fun inserted => inserted.2.length = rows.length

def loadChildBatch (anchors : Dict String ℤ) (s : LoadRun σ) (item : List Fields × ℕ) : Option (LoadRun σ) :=
  if L.leaseHeld item.2 = false ∨ L.cancelRequested item.2 then none
  else
    let errors := item.1.filterMap (childError T anchors)
    (timedInsertBatchRows L s.session (item.1.filterMap (childRow T L anchors))).map fun inserted =>
      { s with
        session := inserted.1
        createdCount := s.createdCount + inserted.2.length
        errorCount := s.errorCount + errors.length
        loadErrors := s.loadErrors ++ errors
        committed := s.committed || !inserted.2.isEmpty }

/-- The size of a batch: `_adaptive_inner_batch_size`. -/
def LoadChunk.innerBatchSize (n : ℕ) : ℕ := max 25 (min (max 1 n) L.ceiling)

def loadBatches (entries : List Fields) : Option (LoadRun σ) :=
  let batches := (slicesOf entries (L.innerBatchSize entries.length)).zipIdx
  match L.role with
  | .root => batches.foldlM (loadRootBatch T L) { session := L.session }
  | .child => L.rootLoadAnchorMap.bind fun anchors => batches.foldlM (loadChildBatch T L anchors) { session := L.session }

/-- The phase raises for a parent that is not loaded, and where more than a tenth of the children have no parent. -/
def LoadChunk.raises (n : ℕ) (errors : List LoadError) : Bool :=
  match L.role with
  | .root => !errors.isEmpty
  | .child => decide (max 1 n < 10 * errors.length)

structure LoadResult where
  processedCount : ℕ
  createdCount : ℕ
  skippedCount : ℕ
  errorCount : ℕ
  createdAnchorMap : Dict String ℤ
  loadErrorCount : ℕ
  /-- The entity type is one of `committed_entities`. -/
  committed : Bool

structure LoadOutput (σ : Type) where
  result : LoadResult
  session : σ
  loadErrors : List LoadError
  /-- The artifact of these rows, which only the current attempt writes. -/
  persisted : Option (List LoadError)

/-- `run_load_chunk_phase`, for a chunk of a bundle. -/
def runLoadChunkPhase : Option (LoadOutput σ) :=
  match L.entries with
  | none => some ⟨⟨0, 0, 0, 0, [], 0, false⟩, L.session, [], none⟩
  | some entries =>
    if L.cancelledAtStart then none
    else (loadBatches T L entries).bind fun s =>
      if L.raises entries.length s.loadErrors ∨ L.commits = false then none
      else some
        { result :=
            { processedCount := entries.length
              createdCount := s.createdCount
              skippedCount := s.skippedCount
              errorCount := s.errorCount
              createdAnchorMap := s.createdAnchorMap
              loadErrorCount := s.loadErrors.length
              committed := s.committed }
          session := s.session
          loadErrors := s.loadErrors
          persisted := if s.loadErrors = [] ∨ L.attemptCurrent = false then none else some s.loadErrors }

end Phase

/-! ### Where the entries go -/

section Accounts

variable {σ : Type} {T : MatchTexts} {L : LoadChunk σ} {s t : LoadRun σ}

lemma length_of_requireCreatedRowRefs {rows created : List CreatedRowRef} {expected : List ℤ}
    (h : requireCreatedRowRefs rows expected = some created) : created.length = expected.length := by
  unfold requireCreatedRowRefs at h
  dsimp only at h
  split at h
  · next hchecked =>
    rw [← some.inj h, length_insertionSort]
    exact hchecked.1
  · cases h

lemma flushWorklist_accounts {worklist : List (List Fields)} (h : flushWorklist T L worklist s = some t) :
    t.createdCount + t.loadErrors.length = s.createdCount + s.loadErrors.length + (worklist.map List.length).sum ∧
      t.errorCount + s.loadErrors.length = s.errorCount + t.loadErrors.length ∧ t.skippedCount = s.skippedCount := by
  fun_induction flushWorklist T L worklist s with
  | case1 =>
    obtain ⟨⟩ := h
    exact ⟨rfl, rfl, rfl⟩
  | case2 => cases h
  | case3 => cases h
  | case4 _ batch _ _ _ _ created hcreated ih =>
    have hlength : created.length = batch.length := by
      rw [length_of_requireCreatedRowRefs hcreated, batchEntrySourceOrdinals, length_map, length_zipIdx]
    obtain ⟨hrows, herrors, hskipped⟩ := ih h
    dsimp only at hrows herrors hskipped
    rw [map_cons, sum_cons]
    exact ⟨by omega, herrors, hskipped⟩
  | case5 => cases h
  | case6 _ _ _ _ _ ih =>
    obtain ⟨hrows, herrors, hskipped⟩ := ih h
    simp only [length_append, length_singleton] at hrows herrors
    rw [map_cons, sum_cons, length_singleton]
    exact ⟨by omega, by omega, hskipped⟩
  | case7 _ _ _ _ _ _ _ _ ih =>
    -- the halves are the batch
    obtain ⟨hrows, herrors, hskipped⟩ := ih h
    simp only [map_cons, sum_cons, length_take, length_drop] at hrows ⊢
    exact ⟨by omega, herrors, hskipped⟩

/-- The counts of the phase after some entries: each is created or an error. -/
def LoadRun.Accounts (s : LoadRun σ) (n : ℕ) : Prop :=
  s.createdCount + s.loadErrors.length = n ∧ s.errorCount = s.loadErrors.length ∧ s.skippedCount = 0

variable {n i : ℕ} {batch : List Fields} {anchors : Dict String ℤ} {batches : List (List Fields × ℕ)}

lemma loadRootBatch_accounts (hs : s.Accounts n)
    (h : loadRootBatch T L s (batch, i) = some t) : t.Accounts (n + batch.length) := by
  unfold loadRootBatch at h
  split at h
  · cases h
  · obtain ⟨hrows, _, _⟩ := flushWorklist_accounts h
    rw [map_singleton, sum_singleton, indexedEntries, length_map, length_zipIdx] at hrows
    obtain ⟨_, _, _⟩ := hs
    dsimp only at hrows
    exact ⟨by omega, by omega, by omega⟩

lemma length_filterMap_childRow (anchors : Dict String ℤ) (batch : List Fields) :
    (batch.filterMap (childRow T L anchors)).length + (batch.filterMap (childError T anchors)).length =
      batch.length := by
  induction batch with
  | nil => rfl
  | cons entry _ ih =>
    unfold childRow childError at ih ⊢
    by_cases hanchor : 0 < resolvedAnchor T anchors entry <;>
      simp only [filterMap_cons, hanchor, if_true, if_false, length_cons] <;> omega

lemma length_of_timedInsertBatchRows {session : σ} {rows : List Fields} {inserted : σ × List ℤ}
    (h : timedInsertBatchRows L session rows = some inserted) : inserted.2.length = rows.length := by
  unfold timedInsertBatchRows at h
  split at h
  · next hnil =>
    rw [← some.inj h, hnil]
    rfl
  · exact of_decide_eq_true (filter_eq_some_iff.mp h).2

lemma loadChildBatch_accounts (hs : s.Accounts n)
    (h : loadChildBatch T L anchors s (batch, i) = some t) : t.Accounts (n + batch.length) ∧
      t.loadErrors = s.loadErrors ++ batch.filterMap (childError T anchors) := by
  unfold loadChildBatch at h
  split at h
  · cases h
  · obtain ⟨_, hinserted, rfl⟩ := map_eq_some_iff.mp h
    have hrows := length_of_timedInsertBatchRows hinserted
    have hsplit := length_filterMap_childRow (T := T) (L := L) anchors batch
    obtain ⟨_, _, hnone⟩ := hs
    dsimp only at hrows
    refine ⟨⟨?_, ?_, hnone⟩, rfl⟩
    · dsimp only
      rw [length_append]
      omega
    · dsimp only
      rw [length_append]
      omega

lemma loadRootBatches_accounts (hs : s.Accounts n)
    (h : batches.foldlM (loadRootBatch T L) s = some t) : t.Accounts (n + (batches.flatMap Prod.fst).length) := by
  induction batches generalizing s n with
  | nil =>
    obtain ⟨⟩ := h
    exact hs
  | cons _ _ ih =>
    rw [foldlM_cons] at h
    obtain ⟨u, hu, hrest⟩ := bind_eq_some_iff.mp h
    rw [flatMap_cons, length_append, ← Nat.add_assoc]
    exact ih (loadRootBatch_accounts hs hu) hrest

lemma loadChildBatches_accounts (hs : s.Accounts n) (h : batches.foldlM (loadChildBatch T L anchors) s = some t) :
    t.Accounts (n + (batches.flatMap Prod.fst).length) ∧
      t.loadErrors = s.loadErrors ++ (batches.flatMap Prod.fst).filterMap (childError T anchors) := by
  induction batches generalizing s n with
  | nil =>
    obtain ⟨⟩ := h
    exact ⟨hs, (append_nil _).symm⟩
  | cons _ _ ih =>
    rw [foldlM_cons] at h
    obtain ⟨u, hu, hrest⟩ := bind_eq_some_iff.mp h
    obtain ⟨hcounts, herrors⟩ := loadChildBatch_accounts hs hu
    obtain ⟨hcounts', herrors'⟩ := ih hcounts hrest
    rw [flatMap_cons, length_append, ← Nat.add_assoc, filterMap_append, ← append_assoc, ← herrors]
    exact ⟨hcounts', herrors'⟩

lemma flatMap_batches (entries : List Fields) :
    (slicesOf entries (L.innerBatchSize entries.length)).zipIdx.flatMap Prod.fst = entries := by
  rw [flatMap_def, zipIdx_map_fst, flatten_slicesOf]
  unfold LoadChunk.innerBatchSize
  omega

end Accounts

/-! ### The whole phase -/

/-- The counts of the phase add up, there is a row of errors for each counted error, and every entry is created or has
such a row. -/
structure LoadAccounted (entries : List Fields) (r : LoadResult) (errors : List LoadError) : Prop where
  processed : r.processedCount = entries.length
  balance : r.processedCount = r.createdCount + r.skippedCount + r.errorCount
  rows : errors.length = r.errorCount ∧ r.loadErrorCount = r.errorCount
  /-- Every entry is created or has a row of errors. -/
  once : ∃ outcomes : List (Option LoadError),
    List.Forall₂ (fun entry o => ∀ e ∈ o, e.row = entryRowNum entry ∧ e.data = entryDict entry "data") entries
      outcomes ∧
    r.createdCount = (outcomes.filter Option.isNone).length ∧ errors = outcomes.reduceOption

section Whole

variable {σ : Type} {T : MatchTexts} {L : LoadChunk σ} {out : LoadOutput σ}

lemma exists_loadOutcomes {entries : List Fields} {s : LoadRun σ} (h : loadBatches T L entries = some s)
    (hraises : L.raises entries.length s.loadErrors = false) : s.Accounts entries.length ∧
      ∃ outcomes : List (Option LoadError),
        List.Forall₂ (fun entry o => ∀ e ∈ o, e.row = entryRowNum entry ∧ e.data = entryDict entry "data") entries
          outcomes ∧ s.loadErrors = outcomes.reduceOption := by
  have hstart : ({ session := L.session } : LoadRun σ).Accounts 0 := ⟨rfl, rfl, rfl⟩
  unfold loadBatches at h
  unfold LoadChunk.raises at hraises
  dsimp only at h
  split at h
  · next hrole =>
    have haccounts := loadRootBatches_accounts hstart h
    rw [flatMap_batches, Nat.zero_add] at haccounts
    rw [hrole] at hraises
    have hnone : s.loadErrors = [] := by simpa using hraises
    refine ⟨haccounts, entries.map fun _ => none, ?_, ?_⟩
    · exact forall₂_map_right_iff.mpr (forall₂_same.mpr fun _ _ e he => absurd he (by simp))
    · rw [hnone, List.reduceOption, filterMap_map]
      simp
  · obtain ⟨anchors, -, hloop⟩ := bind_eq_some_iff.mp h
    obtain ⟨haccounts, herrors⟩ := loadChildBatches_accounts hstart hloop
    rw [flatMap_batches, Nat.zero_add] at haccounts
    rw [flatMap_batches] at herrors
    refine ⟨haccounts, entries.map (childError T anchors), ?_, ?_⟩
    · refine forall₂_map_right_iff.mpr (forall₂_same.mpr fun entry _ e he => ?_)
      unfold childError at he
      split at he
      · cases he
      · obtain ⟨⟩ := he
        exact ⟨rfl, rfl⟩
    · rw [List.reduceOption, filterMap_map]
      exact herrors

/-- Whenever the phase returns, its counts add up and every entry is created or has a row of errors. -/
lemma loadAccounted (h : runLoadChunkPhase T L = some out) :
    LoadAccounted (L.entries.getD []) out.result out.loadErrors := by
  unfold runLoadChunkPhase at h
  split at h
  · next hentries =>
    obtain ⟨⟩ := h
    rw [hentries]
    exact ⟨rfl, rfl, ⟨rfl, rfl⟩, [], List.Forall₂.nil, rfl, rfl⟩
  · next entries hentries =>
    rw [hentries, getD_some]
    split at h
    · cases h
    · obtain ⟨s, hs, hend⟩ := bind_eq_some_iff.mp h
      split at hend
      · cases hend
      · next hgood =>
        obtain ⟨⟩ := hend
        obtain ⟨⟨_, hcounted, _⟩, outcomes, hof, herrors⟩ :=
          exists_loadOutcomes hs (Bool.eq_false_of_not_eq_true fun hraises => hgood (.inl hraises))
        have hlength : outcomes.length = outcomes.reduceOption.length + (outcomes.filter Option.isNone).length :=
          length_eq_reduceOption_length_add_filter_none
        have hof' := hof.length_eq
        rw [← herrors] at hlength
        refine ⟨rfl, ?_, ⟨hcounted.symm, hcounted.symm⟩, outcomes, hof, ?_, herrors⟩
        · dsimp only
          omega
        · dsimp only
          omega

end Whole

/-- Of planning and loading: whenever the phase of a chunk returns, the entries that it processed are those that it
planned or created, skipped and counted as errors; review rows are skipped rows; and every entry goes one way, with its
own row in the artifacts. -/
theorem rowsAccounted {σ : Type} (T : MatchTexts) (db : IdentityTables) (C : PlanChunk) (L : LoadChunk σ) :
    (∀ r a, runPlanChunkPhase T db C = some (r, a) → ∃ entries, C.entries = some entries ∧ PlanAccounted C entries r a) ∧
      ∀ out, runLoadChunkPhase T L = some out → LoadAccounted (L.entries.getD []) out.result out.loadErrors ∧
        (L.attemptCurrent = true → out.persisted.getD [] = out.loadErrors) := by
  refine ⟨fun r a h => planAccounted h, fun out h => ⟨loadAccounted h, fun hcurrent => ?_⟩⟩
  unfold runLoadChunkPhase at h
  split at h
  · rw [← some.inj h]
    rfl
  · split at h
    · cases h
    · obtain ⟨s, -, hend⟩ := bind_eq_some_iff.mp h
      split at hend
      · cases hend
      · rw [← some.inj hend]
        simp only [hcurrent, Bool.true_eq_false, or_false]
        exact getD_ite_nil

def twoParents : PlanChunk where
  role := .root
  entityType := .client
  topologySide := "client_side"
  agencyId := 1
  userId := 1
  duplicateStrategy := "allow_all"
  skipReviewRows := false
  maxReviewItems := 100
  entries := some [[("row", .int 1), ("data", .obj [("name", .str "ali")])], [("row", .int 2)]]
  rootPlanIndex := ⟨[], []⟩
  validateRow := fun row _ => (row, if row = [] then ["name is required"] else [])
  casefold := id
  leaseHeld := fun _ => true
  cancelRequested := false
  mayPersist := fun _ => true

def oneChild : LoadChunk Unit where
  role := .child
  entityType := .demande
  entries := some [[("row", .int 1), ("anchor_id", .int 0), ("anchor_key", .str "name:ali")]]
  ceiling := 100
  rootLoadAnchorMap := some [("name:ali", 7)]
  session := ()
  insertBatch := fun _ rows => some ((), rows.map fun _ => 1)
  insertBatchRefs := fun _ _ _ => .failed
  cancelledAtStart := false
  cancelRequested := fun _ => false
  leaseHeld := fun _ => true
  commits := true
  attemptCurrent := true

/-- `rowsAccounted` for these chunks, whose phases return. -/
theorem rowsAccounted_returned : ∃ r a out entries,
    runPlanChunkPhase plainTexts aliOnly twoParents = some (r, a) ∧ runLoadChunkPhase plainTexts oneChild = some out ∧
      PlanAccounted twoParents entries r a ∧ LoadAccounted (oneChild.entries.getD []) out.result out.loadErrors := by
  obtain ⟨⟨r, a⟩, hplan⟩ := isSome_iff_exists.mp
    (show (runPlanChunkPhase plainTexts aliOnly twoParents).isSome = true by decide)
  obtain ⟨out, hload⟩ := isSome_iff_exists.mp (show (runLoadChunkPhase plainTexts oneChild).isSome = true by decide)
  obtain ⟨entries, -, haccounted⟩ := (rowsAccounted plainTexts aliOnly twoParents oneChild).1 r a hplan
  exact ⟨r, a, out, entries, hplan, hload, haccounted, ((rowsAccounted plainTexts aliOnly twoParents oneChild).2 out
    hload).1⟩

end ImmoApp.Imports
