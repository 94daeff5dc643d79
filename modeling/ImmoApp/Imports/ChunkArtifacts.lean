import ImmoApp.Imports.IdentityResolution

/-!
# Artifacts of a chunk

What a phase of a chunk reads and writes: entries, which are JSON objects of a line each; review rows, of which
an import keeps so many and counts the others; and rows of errors.
-/

namespace ImmoApp.Imports

open List

/-- `entry_int`: numbers with a fraction count as none. -/
def entryInt (entry : Fields) (key : String) : ℤ :=
  match fieldOr entry key (.int 0) with
  | .scalar (.float _) => 0
  | v => v.toInt?.getD 0

def entryRowNum (entry : Fields) : ℤ := entryInt entry "row"

def entryDict (entry : Fields) (key : String) : Fields := ((entry.get? key).bind Json.fields?).getD []

def entryStr (T : MatchTexts) (entry : Fields) (key : String) : String :=
  match fieldOr entry key (.str "") with
  | .null => ""
  | v => T.str v

def entryStrList (T : MatchTexts) (entry : Fields) (key : String) : List String :=
  match entry.get? key with
  | some (.arr items) => items.map T.str
  | _ => []

/-! ### Review rows -/

structure ReviewField where
  field : String
  original : String
  normalized : String
  confidence : ℕ
  remark : String

structure RowRecovery where
  recoverabilityClass : String := "review_recoverable"
  recoveredFields : List Fields := []
  recoveryCandidates : List Fields := []
  blockingReasons : List String := []

structure ReviewRowPayload where
  row : ℤ
  data : Fields
  original : Fields
  entityType : ReviewEntity
  topologySide : String
  suggestedAction : ReviewAction
  suggestedExistingId : ℤ
  suggestedConfidence : ℕ
  suggestedReasons : List String
  candidateMatches : List MatchedRow
  fieldDiff : FieldDiff
  reviewFields : List ReviewField
  remarks : List String
  immutableConflict : Bool
  recovery : RowRecovery

def manualReviewRow (rowNum : ℤ) (rowData original : Fields) (entityType : ReviewEntity) (topologySide : String)
    (reviewFields : List ReviewField) (remarks : List String) (suggestedReasons : List String)
    (recovery : RowRecovery) : ReviewRowPayload where
  row := rowNum
  data := rowData
  original := original
  entityType := entityType
  topologySide := topologySide
  suggestedAction := .reviewAmbiguous
  suggestedExistingId := 0
  suggestedConfidence := 0
  suggestedReasons := suggestedReasons
  candidateMatches := []
  fieldDiff := ⟨[], [], []⟩
  reviewFields := reviewFields
  remarks := remarks
  immutableConflict := false
  recovery := recovery

/-- `review_row_from_resolution`, for a row without remarks of its own. -/
def reviewRowFromResolution (rowNum : ℤ) (rowData original : Fields) (entityType : ReviewEntity)
    (topologySide : String) (resolution : ResolutionResult) : ReviewRowPayload :=
  let diff := ((resolution.candidateMatches.find? fun c => c.id = resolution.suggestedExistingId).map
    MatchedRow.fieldDiff).getD ⟨[], [], []⟩
  { row := rowNum
    data := rowData
    original := original
    entityType := entityType
    topologySide := topologySide
    suggestedAction := resolution.suggestedAction
    suggestedExistingId := resolution.suggestedExistingId
    suggestedConfidence := resolution.suggestedConfidence
    suggestedReasons := resolution.suggestedReasons
    candidateMatches := resolution.candidateMatches
    fieldDiff := diff
    reviewFields := [⟨"identity_resolution", "", "", resolution.suggestedConfidence,
      if resolution.suggestedReasons.isEmpty then "Review required"
      else String.intercalate "; " resolution.suggestedReasons⟩]
    remarks := resolution.suggestedReasons
    immutableConflict := !diff.changedImmutable.isEmpty
    recovery := {} }

/-- `ReviewRowBuffer`: the rows that are kept, and the number of the others. -/
structure ReviewRowBuffer where
  maxItems : ℕ
  rows : List ReviewRowPayload := []
  overflowCount : ℕ := 0

/-- `append_review_row_limited`. -/
def ReviewRowBuffer.append (b : ReviewRowBuffer) (r : ReviewRowPayload) : ReviewRowBuffer :=
  if b.maxItems ≤ b.rows.length then { b with overflowCount := b.overflowCount + 1 }
  else { b with rows := b.rows ++ [r] }

structure RowError where
  row : ℤ
  errors : List String

namespace ReviewRowBuffer

/-- All rows that came to the buffer are kept or counted; the first ones are kept. -/
structure Collects (b : ReviewRowBuffer) (rows : List ReviewRowPayload) : Prop where
  kept : b.rows = rows.take b.maxItems
  counted : b.rows.length + b.overflowCount = rows.length

lemma collects_empty (maxItems : ℕ) : Collects { maxItems := maxItems } [] := ⟨take_nil.symm, rfl⟩

@[simp] lemma maxItems_append (b : ReviewRowBuffer) (r : ReviewRowPayload) : (b.append r).maxItems = b.maxItems := by
  unfold append
  split <;> rfl

lemma Collects.append {b : ReviewRowBuffer} {rows : List ReviewRowPayload} (h : b.Collects rows)
    (r : ReviewRowPayload) : (b.append r).Collects (rows ++ [r]) := by
  have hlength : b.rows.length = min b.maxItems rows.length := by rw [h.kept, length_take]
  have hcounted := h.counted
  constructor
  · rw [maxItems_append]
    unfold ReviewRowBuffer.append
    split
    · next hfull => rw [take_append_of_le_length (by omega), h.kept]
    · next hroom =>
      rw [take_of_length_le (by rw [length_append, length_singleton]; omega)]
      dsimp only
      rw [h.kept, take_of_length_le (by omega)]
  · unfold ReviewRowBuffer.append
    split
    · rw [length_append, length_singleton]
      dsimp only
      omega
    · dsimp only
      rw [length_append, length_append, length_singleton]
      omega

end ReviewRowBuffer

end ImmoApp.Imports
