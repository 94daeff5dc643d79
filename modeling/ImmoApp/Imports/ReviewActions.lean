import ImmoApp.Foundation.Runs
import ImmoApp.Imports.ReviewDecisions

/-!
# Actions of a review submission

`collect_review_actions` looks up the decision of every pending row and sorts the rows: to be created, to be updated, to
be left out, to stay in review.  The decision is to be the most specific one that a user gave.

It is not always: the template of a group is filled in with a suggestion and is then read as a decision, and a stored
skip is asked before the decisions of the request.  `decisions_followed` says when the decision of the user prevails.
-/

namespace ImmoApp.Imports

open List

/-- `ReviewResolutionInputs`. -/
structure ResolutionInputs where
  corrections : Dict RowKey (Dict String Json)
  decisions : Dict RowKey ResolutionPayload
  skipRows : List RowKey

def normalizeResolutionInputs (T : KeyTexts) (p : PreparedReviewSubmitPayload) : ResolutionInputs :=
  { corrections := Dict.rekey (normalizeReviewKeyToken T) p.corrections
    decisions := Dict.rekey (normalizeReviewKeyToken T) p.decisions
    skipRows := (p.skipRows.filterMap (normalizeReviewKeyToken T)).dedup }

def lookupRow {β : Type*} (d : Dict RowKey β) (r : ReviewRow) : Option β :=
  (reviewRowLookupKeys r.row r.entityType).findSome? d.get?

def ResolutionInputs.skips (inputs : ResolutionInputs) (r : ReviewRow) : Bool :=
  (reviewRowLookupKeys r.row r.entityType).any fun key => inputs.skipRows.contains key

inductive RowAction where
  | create (entityType : ReviewEntity)
  | update (entityType : ReviewEntity) (existingId rowVersion : ℤ)
  | review
  | skip
  deriving DecidableEq

/-- The action of a decision about a row.  A row is created where no action is given and no record is
known that it may be about. -/
def ResolutionPayload.rowAction (d : ResolutionPayload) (r : ReviewRow) : RowAction :=
  let entityType := d.entityType.getD r.entityType
  match d.action with
  | some .skip => .skip
  | some .reviewAmbiguous => .review
  | some .updateExisting => .update entityType (d.existingId.getD 0) (d.rowVersion.getD 0)
  | some .createNew => .create entityType
  | none => if r.candidateMatches.isEmpty then .create entityType else .review

def actionTaken (inputs : ResolutionInputs) (r : ReviewRow) : RowAction :=
  if inputs.skips r then .skip else ((lookupRow inputs.decisions r).getD .empty).rowAction r

/-! ### Collecting -/

structure NormalizedRow where
  needsReview : Bool
  data : Dict String Json
  remarks : List String

structure RowPipeline where
  /-- `normalize_row` of the pipeline for an entity type. -/
  normalizeRow : ReviewEntity → Dict String Json → NormalizedRow
  /-- `validate_row_fn`: the checked row and its errors. -/
  validateRow : Dict String Json → ReviewEntity → Dict String Json × List String

structure PendingCreateRow where
  rowNum : ℕ
  entityType : ReviewEntity
  validatedRow : Dict String Json
  correctionPayload : Dict String Json
  reviewEntry : ReviewRow

structure PendingUpdateRow where
  rowNum : ℕ
  entityType : ReviewEntity
  validatedRow : Dict String Json
  existingId : ℤ
  rowVersion : ℤ
  reviewEntry : ReviewRow
  correctionPayload : Dict String Json

structure StillReviewRow where
  entityType : ReviewEntity
  data : Dict String Json
  remarks : List String
  immutableConflict : Bool
  reviewEntry : ReviewRow

inductive Disposition where
  | blockingDiscarded
  | humanSkipped

structure DeadLetterRow where
  disposition : Disposition
  entityType : ReviewEntity
  normalizedData : Dict String Json
  reviewEntry : ReviewRow

structure ReviewResolutionState where
  createPending : Dict ReviewEntity (List PendingCreateRow)
  pendingUpdates : List PendingUpdateRow
  stillReview : List StillReviewRow
  errors : List (ℕ × ReviewEntity × List String)
  deadLetters : List DeadLetterRow
  reviewCount : ℕ
  skipCount : ℕ

def ReviewResolutionState.empty : ReviewResolutionState := ⟨[], [], [], [], [], 0, 0⟩

def dispositionOf (r : ReviewRow) : Disposition :=
  if r.blockingReasons.isEmpty then .humanSkipped else .blockingDiscarded

def ReviewResolutionState.keep (st : ReviewResolutionState) (x : StillReviewRow) :
    ReviewResolutionState := { st with stillReview := st.stillReview ++ [x] }

def ReviewResolutionState.discard (st : ReviewResolutionState) (r : ReviewRow)
    (entityType : ReviewEntity) (data : Dict String Json) : ReviewResolutionState :=
  { st with deadLetters := st.deadLetters ++ [⟨dispositionOf r, entityType, data, r⟩]
            skipCount := st.skipCount + 1 }

def ReviewResolutionState.addCreate (st : ReviewResolutionState) (p : PendingCreateRow) :
    ReviewResolutionState :=
  let pending := (st.createPending.get? p.entityType).getD []
  { st with createPending := st.createPending.set p.entityType (pending ++ [p]) }

/-- The record that an update is about: the given one, else the only candidate. -/
def selectedRecord (r : ReviewRow) (d : ResolutionPayload) : ℤ :=
  let given := d.existingId.getD 0
  if given ≤ 0 ∧ r.candidateMatches.length = 1 then
    ((r.candidateMatches.head?).map CandidateMatch.id).getD 0
  else given

/-- The row version that an update expects: the given one, else that of the candidate. -/
def selectedVersion (r : ReviewRow) (d : ResolutionPayload) : ℤ :=
  let given := d.rowVersion.getD 0
  let candidates := r.candidateMatches.filter fun c => c.id = selectedRecord r d
  if given ≤ 0 then (candidates.getLast?.map CandidateMatch.rowVersion).getD 0 else given

/-- The selected candidate changes a field that never changes. -/
def selectedConflict (r : ReviewRow) (d : ResolutionPayload) : Bool :=
  let candidates := r.candidateMatches.filter fun c => c.id = selectedRecord r d
  (candidates.head?.map CandidateMatch.immutableConflict).getD false

/-- The update of a record by a row, where the record, its version and its fields allow it. -/
def collectUpdate (st : ReviewResolutionState) (r : ReviewRow) (entityType : ReviewEntity)
    (validated correction : Dict String Json) (d : ResolutionPayload) : ReviewResolutionState :=
  let ids := r.candidateMatches.map CandidateMatch.id
  let stays := fun (remark : String) (immutable : Bool) =>
    st.keep ⟨entityType, validated, [remark], immutable, r⟩
  if selectedRecord r d ≤ 0 ∨ (ids ≠ [] ∧ selectedRecord r d ∉ ids) then
    stays "Select the existing row to update." false
  else if selectedVersion r d ≤ 0 then
    stays "Selected existing row is missing row version information." false
  else if selectedConflict r d then
    stays "Immutable field conflicts must be resolved manually." true
  else { st with pendingUpdates := st.pendingUpdates ++
    [⟨r.row, entityType, validated, selectedRecord r d, selectedVersion r d, r, correction⟩] }

/-- One round of `collect_review_actions`. -/
def collectRow (P : RowPipeline) (userId : ℕ) (inputs : ResolutionInputs)
    (st : ReviewResolutionState) (r : ReviewRow) : ReviewResolutionState :=
  if inputs.skips r then st.discard r r.entityType r.data
  else
    let correction := (lookupRow inputs.corrections r).getD []
    let d := (lookupRow inputs.decisions r).getD .empty
    let entityType := d.entityType.getD r.entityType
    let normalized := P.normalizeRow entityType (r.data.update correction)
    let checked := P.validateRow normalized.data entityType
    if normalized.needsReview then
      st.keep ⟨entityType, normalized.data, normalized.remarks, false, r⟩
    else if checked.2 ≠ [] then
      { st.keep ⟨entityType, normalized.data, checked.2, false, r⟩ with
        errors := st.errors ++ [(r.row, entityType, checked.2)] }
    else match d.action with
      | some .skip => st.discard r entityType checked.1
      | some .reviewAmbiguous =>
        { st.keep ⟨entityType, checked.1, r.remarks, false, r⟩ with reviewCount := st.reviewCount + 1 }
      | some .updateExisting => collectUpdate st r entityType checked.1 correction d
      | some .createNew | none =>
        if d.action = none ∧ r.candidateMatches ≠ [] then
          st.keep ⟨entityType, checked.1, r.remarks ++
            ["Choose create, update, review later, or skip for this duplicate row."], false, r⟩
        else
          st.addCreate ⟨r.row, entityType, checked.1.set "created_by_id" (.int userId), correction, r⟩

def collectReviewActions (P : RowPipeline) (userId : ℕ) (inputs : ResolutionInputs)
    (rows : List ReviewRow) : ReviewResolutionState :=
  rows.foldl (collectRow P userId inputs) .empty

/-! ### What is collected -/

def ReviewResolutionState.creates (st : ReviewResolutionState) (p : PendingCreateRow) : Prop :=
  ∃ e ∈ st.createPending, p ∈ e.2

/-- The rows are sorted by the actions taken for them. -/
structure SortedBy (inputs : ResolutionInputs) (rows : List ReviewRow) (st : ReviewResolutionState) :
    Prop where
  creates : ∀ p, st.creates p → p.reviewEntry ∈ rows ∧ actionTaken inputs p.reviewEntry = .create p.entityType
  updates : ∀ u ∈ st.pendingUpdates, u.reviewEntry ∈ rows ∧
    ∃ existingId rowVersion, actionTaken inputs u.reviewEntry = .update u.entityType existingId rowVersion
  skips : ∀ x ∈ st.deadLetters, x.reviewEntry ∈ rows ∧ actionTaken inputs x.reviewEntry = .skip

section Collect

variable {P : RowPipeline} {userId : ℕ} {inputs : ResolutionInputs} {rows : List ReviewRow}
variable {st : ReviewResolutionState} {r : ReviewRow}

section

variable (h : SortedBy inputs rows st)
include h

lemma SortedBy.of_same {st' : ReviewResolutionState}
    (hcreate : st'.createPending = st.createPending) (hupdate : st'.pendingUpdates = st.pendingUpdates)
    (hskip : st'.deadLetters = st.deadLetters) : SortedBy inputs rows st' := by
  refine ⟨fun p hp => h.creates p ?_, fun u hu => h.updates u (hupdate ▸ hu), fun x hx =>
    h.skips x (hskip ▸ hx)⟩
  obtain ⟨e, he, hp⟩ := hp
  exact ⟨e, hcreate ▸ he, hp⟩

lemma SortedBy.discard {entityType : ReviewEntity} {data : Dict String Json} (hr : r ∈ rows)
    (hskip : actionTaken inputs r = .skip) :
    SortedBy inputs rows (st.discard r entityType data) := by
  refine ⟨h.creates, h.updates, fun x hx => ?_⟩
  rcases mem_append.mp hx with hx | hx
  · exact h.skips x hx
  · obtain rfl := mem_singleton.mp hx
    exact ⟨hr, hskip⟩

lemma SortedBy.update {entityType : ReviewEntity} {validated correction : Dict String Json}
    {d : ResolutionPayload} (hr : r ∈ rows)
    (hupdate : ∃ existingId rowVersion, actionTaken inputs r = .update entityType existingId rowVersion) :
    SortedBy inputs rows (collectUpdate st r entityType validated correction d) := by
  unfold collectUpdate
  dsimp only
  split
  · exact h.of_same rfl rfl rfl
  · split
    · exact h.of_same rfl rfl rfl
    · split
      · exact h.of_same rfl rfl rfl
      · refine ⟨h.creates, fun u hu => ?_, h.skips⟩
        rcases mem_append.mp hu with hu | hu
        · exact h.updates u hu
        · obtain rfl := mem_singleton.mp hu
          exact ⟨hr, hupdate⟩

lemma SortedBy.create {p : PendingCreateRow} (hr : p.reviewEntry ∈ rows)
    (hcreate : actionTaken inputs p.reviewEntry = .create p.entityType) :
    SortedBy inputs rows (st.addCreate p) := by
  refine ⟨?_, h.updates, h.skips⟩
  rintro q ⟨e, he, hq⟩
  rcases Dict.mem_set.mp he with rfl | ⟨he, -⟩
  · rcases mem_append.mp hq with hq | hq
    · cases hget : st.createPending.get? p.entityType with
      | none =>
        rw [hget] at hq
        exact absurd hq not_mem_nil
      | some =>
        rw [hget] at hq
        exact h.creates q ⟨_, Dict.mem_of_get? hget, hq⟩
    · obtain rfl := mem_singleton.mp hq
      exact ⟨hr, hcreate⟩
  · exact h.creates q ⟨e, he, hq⟩

lemma SortedBy.collectRow (hr : r ∈ rows) : SortedBy inputs rows (collectRow P userId inputs st r) := by
  unfold Imports.collectRow
  dsimp only
  split
  · next hskip => exact h.discard hr (by rw [actionTaken, if_pos hskip])
  · next hskip =>
    have htaken : actionTaken inputs r = ((lookupRow inputs.decisions r).getD .empty).rowAction r := by
      rw [actionTaken, if_neg hskip]
    split
    · exact h.of_same rfl rfl rfl
    · split
      · exact h.of_same rfl rfl rfl
      · split
        · next haction => exact h.discard hr (by rw [htaken, ResolutionPayload.rowAction, haction])
        · exact h.of_same rfl rfl rfl
        · next haction =>
          exact h.update hr ⟨_, _, by rw [htaken, ResolutionPayload.rowAction, haction]⟩
        · next haction =>
          rw [haction, if_neg (by simp)]
          exact SortedBy.create h hr (by rw [htaken, ResolutionPayload.rowAction, haction])
        · next haction =>
          split
          · exact h.of_same rfl rfl rfl
          · next hcandidates =>
            have hempty : r.candidateMatches.isEmpty = true := by
              simpa [haction] using hcandidates
            exact SortedBy.create h hr (by rw [htaken, ResolutionPayload.rowAction, haction, hempty]; rfl)

end

/-- The rows of a submission are sorted by the actions taken for them. -/
theorem sortedBy_collectReviewActions (P : RowPipeline) (userId : ℕ) (inputs : ResolutionInputs)
    (rows : List ReviewRow) : SortedBy inputs rows (collectReviewActions P userId inputs rows) := by
  have hfold : ∀ (l : List ReviewRow) (st : ReviewResolutionState), (∀ r ∈ l, r ∈ rows) →
      SortedBy inputs rows st → SortedBy inputs rows (l.foldl (collectRow P userId inputs) st) := by
    intro l
    induction l with
    | nil => exact fun st _ h => h
    | cons r l ih =>
      intro st hl h
      exact ih _ (fun r' hr' => hl r' (mem_cons_of_mem r hr')) (h.collectRow (hl r mem_cons_self))
  refine hfold rows .empty (fun r hr => hr) ⟨?_, ?_, ?_⟩
  · rintro p ⟨e, he, -⟩
    exact absurd he not_mem_nil
  · exact fun u hu => absurd hu not_mem_nil
  · exact fun x hx => absurd hx not_mem_nil

end Collect

end ImmoApp.Imports
