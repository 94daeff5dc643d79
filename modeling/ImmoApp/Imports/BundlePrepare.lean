import ImmoApp.Imports.Anchors

/-!
# Preparing a bundle

A row of a bundle may hold a parent and a child.  The preparation classifies each row, writes an entry for its
root part and one for its child part, or hands a part to the review or reports it as an error.  Where the root part
does not become an entry, the loop goes on to the next row before the child part is reached.
-/

namespace ImmoApp.BundlePrepare

open Imports Crm List

/-- What normalization and recovery make of a row. -/
structure NormalizedPart where
  needsReview : Bool
  data : Fields
  remarks : List String
  recovery : Fields
  reviewFields : List Fields

structure RowInference where
  entityType : String
  confidence : Json
  reasons : List String
  reasonCodes : List String

inductive Fate where
  /-- A line of the root or child entries; a child has the keys of its parent. -/
  | entry (rootAnchorKeys : List String)
  /-- `append_review_row_limited`, which keeps the row or counts it among the overflow. -/
  | review (reviewFields : List Fields) (recovery : Fields)
  | error (recovery : Fields) (reasonCodes : List String)
  /-- A row grouped under an earlier one. -/
  | grouped (recovery : Fields)

structure Prepared where
  row : ℕ
  entityType : ReviewEntity
  data : Fields
  original : Fields
  messages : List String
  fate : Fate

structure BundleJob where
  T : MatchTexts
  casefold : String → String
  listingSide : Bool
  columnMapping : Dict String String
  duplicateStrategy : String
  skipReviewRows : Bool
  mergeRowCorrections : ℕ → Fields → Fields
  inferRowEntity : Fields → RowInference
  rootPart : Fields → NormalizedPart
  childPart : Fields → NormalizedPart

variable (J : BundleJob)

def BundleJob.rootEntity : ReviewEntity := if J.listingSide then .listing else .client

def BundleJob.childEntity : ReviewEntity := if J.listingSide then .offer else .demande

/-- `_normalize_root_compare_value`. -/
def compareValue : Option Json → String
  | none | some .null => ""
  | some (.scalar (.bool b)) => if b then "1" else "0"
  | some v => J.casefold (strip (J.T.str v))

def bundleRowHasRootIdentity (row : Fields) : Bool :=
  ["family_name", "name", "email", "phone"].any fun field => compareValue J (row.get? field) != ""

def duplicateRootConflictFields (existing incoming : Fields) : List String :=
  ["family_name", "name", "email"].filter fun field =>
    let existingValue := compareValue J (existing.get? field)
    let incomingValue := compareValue J (incoming.get? field)
    incomingValue != "" && (existingValue == "" || existingValue != incomingValue)

def bundleRootPayload (row : Fields) : Fields :=
  row.filter fun e => e.1 ∈ ["family_name", "name", "email", "phone", "remarks", "tags", "status", "is_vip"]

/-- `_CLIENT_CHILD_FIELDS` and `_LISTING_CHILD_FIELDS`. -/
def BundleJob.childFields : List String :=
  if J.listingSide then
    ["listing_id", "action", "type", "type_id", "action_id", "wilaya", "wilaya_id", "location", "budget", "surface",
      "beds", "floor", "furnished", "elevator", "accessibility_supported", "price_negotiable", "price_flex_pct", "link",
      "latitude", "longitude", "remarks"]
  else
    ["client_id", "action", "type", "type_id", "action_id", "wilaya", "wilaya_id", "locations", "budget_min",
      "budget_max", "surface_min", "surface_max", "beds_min", "floor_min", "floor_max", "furnished", "elevator",
      "accessibility_required", "remarks"]

def bundleChildPayload (row : Fields) : Fields := row.filter fun e => e.1 ∈ J.childFields

def rootPhoneKey (row : Fields) : String :=
  if rowPhone J.T row = "" ∨ (rowPhone J.T row).length < 9 then "" else "phone:" ++ rowPhone J.T row

/-- `seen_root_keys` and `seen_root_contexts`. -/
structure SeenRoots where
  keys : Dict String ℕ := []
  contexts : Dict String Fields := []

structure RootKeyDecision where
  key : String
  winnerRow : ℕ
  isDuplicate : Bool

/-- `remember_root_key`; the keys that were seen have the rows of their winners, which count from 1. -/
def rememberRootKey (seen : SeenRoots) (row : Fields) (rowNum : ℕ) : SeenRoots × RootKeyDecision :=
  let key := rootPhoneKey J row
  if key = "" then (seen, ⟨"", 0, false⟩)
  else
    let winnerRow := (seen.keys.get? key).getD 0
    if 0 < winnerRow then (seen, ⟨key, winnerRow, true⟩)
    else ({ seen with keys := seen.keys.set key rowNum }, ⟨key, rowNum, false⟩)

def conflictFields (seen : SeenRoots) (decision : RootKeyDecision) (data : Fields) : List String :=
  duplicateRootConflictFields J ((seen.contexts.get? decision.key).getD []) data

/-- A part that is not written: it is an error, or the user reviews it. -/
def rejectPart (reasonCode : String) (rowNum : ℕ) (entityType : ReviewEntity) (original : Fields) (part : NormalizedPart)
    (messages : List String) (review : Fate) : Prepared :=
  if J.skipReviewRows then ⟨rowNum, entityType, part.data, original, messages, .error part.recovery [reasonCode]⟩
  else
    ⟨rowNum, entityType, part.data, original, if messages = [] then ["Review required"] else messages, review⟩

def blockPart (rowNum : ℕ) (entityType : ReviewEntity) (original : Fields) (part : NormalizedPart) : Prepared :=
  rejectPart J "prepare_review_blocked" rowNum entityType original part part.remarks (.review part.reviewFields part.recovery)

/-- The root part of a row: what is seen and written, and whether the loop goes on to the child part, with the keys for
it. -/
def prepareRoot (seen : SeenRoots) (rowNum : ℕ) (original mapped : Fields) :
    SeenRoots × List Prepared × Option (List String) :=
  let part := J.rootPart (bundleRootPayload mapped)
  let keys := anchorMapKeys J.T part.data
  let entry : Prepared := ⟨rowNum, J.rootEntity, part.data, original, [], .entry []⟩
  if part.needsReview then
    (seen, [blockPart J rowNum J.rootEntity original part], none)
  else if J.duplicateStrategy = "allow_all" then (seen, [entry], some keys)
  else
    let remembered := rememberRootKey J seen part.data rowNum
    let decision := remembered.2
    if decision.isDuplicate then
      let conflicts := conflictFields J seen decision part.data
      let named := ", ".intercalate conflicts
      let remark :=
        if conflicts = [] then s!"Repeated root identity grouped under first matching row {decision.winnerRow}."
        else s!"Duplicate root key in this file; first matching row is {decision.winnerRow}." ++
          s!" Conflicting root fields: {named}."
      if conflicts ≠ [] ∧ J.duplicateStrategy = "review" then
        let field : Fields := [("field", .str "phone"), ("original", .str (J.T.textOf (fieldOr part.data "phone" (.str "")))),
          ("normalized", .str decision.key), ("confidence", .int 1), ("remark", .str remark)]
        (remembered.1, [rejectPart J "prepare_duplicate_root_conflict" rowNum J.rootEntity original part [remark]
          (.review [field] [])], none)
      else
        (remembered.1, [⟨rowNum, J.rootEntity, part.data, original, [remark], .grouped part.recovery⟩], some keys)
    else
      let contexts := if decision.key = "" then remembered.1.contexts
        else remembered.1.contexts.set decision.key part.data
      ({ remembered.1 with contexts := contexts }, [entry], some keys)

def prepareChild (rowNum : ℕ) (original mapped : Fields) (rootAnchorKeys : List String) : Prepared :=
  let part := J.childPart (bundleChildPayload J mapped)
  if part.needsReview then blockPart J rowNum J.childEntity original part
  else ⟨rowNum, J.childEntity, part.data, original, [], .entry rootAnchorKeys⟩

def mappedRow (rowNum : ℕ) (raw : Fields) : Fields :=
  J.columnMapping.filterMap fun e => ((J.mergeRowCorrections rowNum raw).get? e.2).map fun v => (e.1, v)

/-- `str(row_inference.entity_type or "").strip().lower()`. -/
def rowEntityType (mapped : Fields) : String :=
  J.T.backend.unicode.lower (strip (J.inferRowEntity mapped).entityType)

/-- One round of the loop of `prepare_same_side_bundle_import`. -/
def prepareRow (seen : SeenRoots) (rowNum : ℕ) (raw : Fields) : SeenRoots × List Prepared :=
  let original := J.mergeRowCorrections rowNum raw
  let mapped := mappedRow J rowNum raw
  let entityType := rowEntityType J mapped
  if entityType ≠ J.rootEntity.name ∧ entityType ≠ J.childEntity.name then
    let inference := J.inferRowEntity mapped
    let reasons := if inference.reasons ≠ [] then inference.reasons
      else if J.skipReviewRows then ["Unable to infer row entity type during prepare."]
      else ["Unable to infer row entity type"]
    let field : Fields := [("field", .str "entity_type"), ("original", .str ""),
      ("normalized", .str inference.entityType), ("confidence", inference.confidence),
      ("remark", .str "Row could not be classified into the allowed same-side bundle.")]
    (seen, [⟨rowNum, J.rootEntity, mapped, original, reasons,
      if J.skipReviewRows then .error [] ("prepare_unclassified_row" :: inference.reasonCodes)
      else .review [field] []⟩])
  else
    let root := if entityType = J.rootEntity.name ∨ bundleRowHasRootIdentity J mapped = true then
        prepareRoot J seen rowNum original mapped
      else (seen, [], some (anchorMapKeys J.T (bundleRootPayload mapped)))
    match root.2.2 with
    | none => (root.1, root.2.1)
    | some keys =>
      (root.1, root.2.1 ++
        if entityType = J.childEntity.name then [prepareChild J rowNum original mapped keys] else [])

/-- The loop from a row on: everything it writes. -/
def prepareFrom (seen : SeenRoots) (rowNum : ℕ) : List Fields → List Prepared
  | [] => []
  | raw :: rest =>
    (prepareRow J seen rowNum raw).2 ++ prepareFrom (prepareRow J seen rowNum raw).1 (rowNum + 1) rest

def prepareSameSideBundleImport (rows : List Fields) : List Prepared := prepareFrom J {} 1 rows

/-- Every row that is classified as a child is represented once as a child. -/
def ChildrenKept (rows : List Fields) : Prop :=
  ∀ i raw, rows[i]? = some raw → rowEntityType J (mappedRow J (i + 1) raw) = J.childEntity.name →
    ((prepareSameSideBundleImport J rows).countP fun p => p.row = i + 1 && p.entityType = J.childEntity) = 1

def seenBefore (seen : SeenRoots) (rowNum : ℕ) : List Fields → SeenRoots
  | [] => seen
  | raw :: rest => seenBefore (prepareRow J seen rowNum raw).1 (rowNum + 1) rest

/-- The root part of a child row needs a review, or it repeats an earlier root with other fields and such rows are
reviewed. -/
def RootStops (seen : SeenRoots) (rowNum : ℕ) (mapped : Fields) : Prop :=
  bundleRowHasRootIdentity J mapped = true ∧ ((J.rootPart (bundleRootPayload mapped)).needsReview = true ∨
      J.duplicateStrategy = "review" ∧
        (rememberRootKey J seen (J.rootPart (bundleRootPayload mapped)).data rowNum).2.isDuplicate = true ∧
          conflictFields J seen (rememberRootKey J seen (J.rootPart (bundleRootPayload mapped)).data rowNum).2
            (J.rootPart (bundleRootPayload mapped)).data ≠ [])

variable {J}

lemma rootEntity_ne_childEntity (J : BundleJob) : J.rootEntity ≠ J.childEntity := by
  unfold BundleJob.rootEntity BundleJob.childEntity
  cases J.listingSide <;> decide

lemma rootName_ne_childName (J : BundleJob) : J.rootEntity.name ≠ J.childEntity.name := by
  unfold BundleJob.rootEntity BundleJob.childEntity
  cases J.listingSide <;> decide

lemma rejectPart_spec (code : String) (rowNum : ℕ) (entityType : ReviewEntity) (original : Fields) (part : NormalizedPart)
    (messages : List String) (review : Fate) :
    (rejectPart J code rowNum entityType original part messages review).row = rowNum ∧
      (rejectPart J code rowNum entityType original part messages review).entityType = entityType := by
  unfold rejectPart
  split <;> exact ⟨rfl, rfl⟩

/-- What is written for a root part is about the root, and the loop stops exactly where the part needs a review or
repeats an earlier one. -/
lemma prepareRoot_spec (J : BundleJob) (seen : SeenRoots) (rowNum : ℕ) (original mapped : Fields) :
    (∀ p ∈ (prepareRoot J seen rowNum original mapped).2.1, p.row = rowNum ∧ p.entityType = J.rootEntity) ∧
      (bundleRowHasRootIdentity J mapped = true →
        ((prepareRoot J seen rowNum original mapped).2.2 = none ↔ RootStops J seen rowNum mapped)) := by
  unfold prepareRoot RootStops
  generalize J.rootPart (bundleRootPayload mapped) = part
  simp only
  cases hreview : part.needsReview with
  | true => simp [blockPart, rejectPart_spec]
  | false =>
    by_cases hall : J.duplicateStrategy = "allow_all"
    · simp [hall]
    · cases hduplicate : (rememberRootKey J seen part.data rowNum).2.isDuplicate with
      | false => simp [hall]
      | true =>
        by_cases hstop : conflictFields J seen (rememberRootKey J seen part.data rowNum).2 part.data ≠ [] ∧
            J.duplicateStrategy = "review"
        · rw [if_neg (by decide), if_neg hall, if_pos rfl, if_pos hstop]
          simp [rejectPart_spec, hstop]
        · rw [if_neg (by decide), if_neg hall, if_pos rfl, if_neg hstop]
          refine ⟨by simp, fun _ => iff_of_false (Option.some_ne_none _) ?_⟩
          rintro ⟨-, hblocked | ⟨hstrategy, -, hconflicts⟩⟩
          · cases hblocked
          · exact hstop ⟨hconflicts, hstrategy⟩

lemma prepareChild_spec (rowNum : ℕ) (original mapped : Fields) (keys : List String) :
    (prepareChild J rowNum original mapped keys).row = rowNum ∧
      (prepareChild J rowNum original mapped keys).entityType = J.childEntity := by
  simp only [prepareChild, blockPart]
  split
  · exact rejectPart_spec ..
  · exact ⟨rfl, rfl⟩

/-- What one round writes: parts of its row, one of them for the child exactly where the row is a child's and its root
part does not stop the round. -/
lemma prepareRow_spec (seen : SeenRoots) (rowNum : ℕ) (raw : Fields) :
    (∀ p ∈ (prepareRow J seen rowNum raw).2, p.row = rowNum) ∧
      (rowEntityType J (mappedRow J rowNum raw) = J.childEntity.name →
        (((prepareRow J seen rowNum raw).2.countP fun p => p.row = rowNum && p.entityType = J.childEntity) = 1 ↔
          ¬RootStops J seen rowNum (mappedRow J rowNum raw))) := by
  have hroot := rootEntity_ne_childEntity J
  obtain ⟨hrows, hstops⟩ := prepareRoot_spec J seen rowNum (J.mergeRowCorrections rowNum raw) (mappedRow J rowNum raw)
  unfold prepareRow
  generalize mappedRow J rowNum raw = mapped at *
  by_cases hneither : rowEntityType J mapped ≠ J.rootEntity.name ∧ rowEntityType J mapped ≠ J.childEntity.name
  · rw [if_pos hneither]
    exact ⟨by simp, fun hchild => absurd hchild hneither.2⟩
  · rw [if_neg hneither]
    have hnone : (prepareRoot J seen rowNum (J.mergeRowCorrections rowNum raw) mapped).2.1.countP
        (fun p => p.row = rowNum && p.entityType = J.childEntity) = 0 := by
      refine countP_eq_zero.mpr fun p hp => ?_
      simp [(hrows p hp).2, hroot]
    by_cases hemit : rowEntityType J mapped = J.rootEntity.name ∨ bundleRowHasRootIdentity J mapped = true
    · simp only [if_pos hemit]
      cases hkeys : (prepareRoot J seen rowNum (J.mergeRowCorrections rowNum raw) mapped).2.2 with
      | none =>
        refine ⟨fun p hp => (hrows p hp).1, fun hchild => ?_⟩
        have hidentity := hemit.resolve_left fun h => rootName_ne_childName J (h.symm.trans hchild)
        simp [hnone, (hstops hidentity).mp hkeys]
      | some =>
        constructor
        · intro p hp
          rcases mem_append.mp hp with hp | hp
          · exact (hrows p hp).1
          · split at hp
            · rw [mem_singleton.mp hp]
              exact (prepareChild_spec ..).1
            · cases hp
        · intro hchild
          have hidentity := hemit.resolve_left fun h => rootName_ne_childName J (h.symm.trans hchild)
          have hgoes : ¬RootStops J seen rowNum mapped := by
            rw [← hstops hidentity, hkeys]
            exact Option.some_ne_none _
          simp [countP_append, hnone, hchild, prepareChild_spec, hgoes]
    · simp only [if_neg hemit]
      have hno : ¬RootStops J seen rowNum mapped := fun h => hemit (.inr h.1)
      constructor
      · intro p hp
        simp only [nil_append] at hp
        split at hp
        · rw [mem_singleton.mp hp]
          exact (prepareChild_spec ..).1
        · cases hp
      · intro hchild
        simp [hchild, prepareChild_spec, hno]

lemma le_row_of_mem_prepareFrom {seen : SeenRoots} {n : ℕ} {rows : List Fields} {p : Prepared}
    (h : p ∈ prepareFrom J seen n rows) : n ≤ p.row := by
  induction rows generalizing seen n with
  | nil => cases h
  | cons raw _ ih =>
    rcases mem_append.mp h with hfirst | hrest
    · exact ((prepareRow_spec seen n raw).1 p hfirst).ge
    · exact (Nat.le_succ n).trans (ih hrest)

/-- The whole loop writes about a row what its own round writes. -/
lemma countP_prepareFrom (seen : SeenRoots) (n : ℕ) (rows : List Fields) {i : ℕ} {raw : Fields}
    (hraw : rows[i]? = some raw) :
    ((prepareFrom J seen n rows).countP fun p => p.row = n + i && p.entityType = J.childEntity) =
      (prepareRow J (seenBefore J seen n (rows.take i)) (n + i) raw).2.countP
        fun p => p.row = n + i && p.entityType = J.childEntity := by
  induction rows generalizing seen n i with
  | nil => simp at hraw
  | cons first rest ih =>
    rw [prepareFrom, countP_append]
    cases i with
    | zero =>
      obtain rfl : first = raw := by simpa using hraw
      have hlater : (prepareFrom J (prepareRow J seen n first).1 (n + 1) rest).countP
          (fun p => p.row = n + 0 && p.entityType = J.childEntity) = 0 := by
        refine countP_eq_zero.mpr fun p hp => ?_
        have hle := le_row_of_mem_prepareFrom hp
        simp; omega
      rw [hlater]
      rfl
    | succ i =>
      have hearlier : (prepareRow J seen n first).2.countP
          (fun p => p.row = n + (i + 1) && p.entityType = J.childEntity) = 0 := by
        refine countP_eq_zero.mpr fun p hp => ?_
        simp [(prepareRow_spec seen n first).1 p hp]
      have hrest := ih (prepareRow J seen n first).1 (n + 1) (by simpa using hraw)
      rw [hearlier, Nat.zero_add, take_succ_cons, seenBefore]
      rwa [Nat.add_assoc, Nat.add_comm 1 i] at hrest

/-- Exactly which files lose no child. -/
theorem childrenKept_iff (J : BundleJob) (rows : List Fields) : ChildrenKept J rows ↔
    ∀ i raw, rows[i]? = some raw → rowEntityType J (mappedRow J (i + 1) raw) = J.childEntity.name →
      ¬RootStops J (seenBefore J {} 1 (rows.take i)) (i + 1) (mappedRow J (i + 1) raw) := by
  unfold ChildrenKept prepareSameSideBundleImport
  refine forall₂_congr fun i raw => forall₂_congr fun hraw hchild => ?_
  rw [Nat.add_comm i 1] at hchild ⊢
  rw [countP_prepareFrom {} 1 rows hraw]
  exact (prepareRow_spec _ _ raw).2 hchild

def reviewedRoots : BundleJob where
  T := plainTexts
  casefold := id
  listingSide := false
  columnMapping := [("phone", "Téléphone"), ("type", "Type")]
  duplicateStrategy := "review"
  skipReviewRows := false
  mergeRowCorrections _ row := row
  inferRowEntity _ := ⟨"demande", .int 1, [], []⟩
  rootPart row := ⟨true, row, ["Missing name"], [], []⟩
  childPart row := ⟨false, row, [], [], []⟩

/-- The demande of the row is written nowhere. -/
theorem demande_lost : ¬ ∀ (J : BundleJob) (rows : List Fields), ChildrenKept J rows := by
  intro h
  have hone := h reviewedRoots [[("Téléphone", .str "0555001001"), ("Type", .str "villa")]] 0 _ rfl (by decide)
  exact absurd hone (by decide)

end ImmoApp.BundlePrepare
