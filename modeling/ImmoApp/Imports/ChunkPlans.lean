import ImmoApp.Foundation.Outcomes
import ImmoApp.Imports.Anchors
import ImmoApp.Imports.ChunkArtifacts

/-!
# Planning a chunk of a bundle

The PLAN phase goes through the prepared entries of a chunk.  An entry is planned, goes to the review or to the errors,
or is skipped as a duplicate; a child needs a parent first.  The phase may raise, and returns nothing then.

`PlanAccounted` says that the counts add up and that no entry is lost; `planAccounted` proves it for every chunk.
-/

namespace ImmoApp.Imports

open Crm List Option

/-! ### The phase -/

inductive BundleRole where
  | root
  | child

inductive PlanArtifact where
  | planned
  | reviewRows
  | errors

structure PlanChunk where
  role : BundleRole
  entityType : ReviewEntity
  topologySide : String
  agencyId : ℕ
  userId : ℕ
  duplicateStrategy : String
  skipReviewRows : Bool
  maxReviewItems : ℕ
  /-- The prepared entries, none where their manifest is missing. -/
  entries : Option (List Fields)
  rootPlanIndex : RootPlanIndex
  /-- `validate_row`: the checked row and its errors. -/
  validateRow : Fields → ReviewEntity → Fields × List String
  casefold : String → String
  /-- The lease is held before the entry of this number. -/
  leaseHeld : ℕ → Bool
  cancelRequested : Bool
  mayPersist : PlanArtifact → Bool

structure PlanTally where
  planned : List Fields := []
  plannedCount : ℕ := 0
  reviewRows : ReviewRowBuffer
  errors : List RowError := []
  skippedCount : ℕ := 0
  errorCount : ℕ := 0

structure PlanRun where
  tally : PlanTally
  existingAnchorMap : Dict String ℤ := []
  plannedRootAnchorKeys : List String := []
  cache : IdentityResolutionCache

namespace PlanTally

variable (s : PlanTally)

def plan (row : Fields) : PlanTally := { s with planned := s.planned ++ [row], plannedCount := s.plannedCount + 1 }

def review (row : ReviewRowPayload) : PlanTally :=
  { s with reviewRows := s.reviewRows.append row, skippedCount := s.skippedCount + 1 }

def fail (e : RowError) : PlanTally := { s with errors := s.errors ++ [e], errorCount := s.errorCount + 1 }

def skip : PlanTally := { s with skippedCount := s.skippedCount + 1 }

/-- A row that cannot be planned goes to the review, or to the errors if there is none. -/
def reject (C : PlanChunk) (row : ReviewRowPayload) (errors : List String) : PlanTally :=
  if C.skipReviewRows then s.fail ⟨row.row, errors⟩ else s.review row

end PlanTally

/-- The remark about a row that did not pass its check. -/
def validationField (errors : List String) : ReviewField := ⟨"validation", "", "", 0, String.intercalate "; " errors⟩

namespace PlanChunk

variable (C : PlanChunk)

def blockedDuplicateResolutionMessage (resolution : ResolutionResult) : String :=
  let reasons := (resolution.suggestedReasons.map strip).filter fun reason => reason ≠ ""
  let primary := reasons.headD ""
  if primary ≠ "" ∧ C.casefold primary ∉ ["same phone", "same name", "very similar name", "similar name",
      "active record"] then primary
  else "This line matches existing records in your agency and needs review."

/-- A row that matches existing records goes to the review, to the errors if there is none, or is skipped. -/
def duplicate (s : PlanTally) (rowNum : ℤ) (row original : Fields) (resolution : ResolutionResult) : PlanTally :=
  if C.duplicateStrategy = "review" ∧ C.skipReviewRows = false then
    s.review (reviewRowFromResolution rowNum row original C.entityType C.topologySide resolution)
  else if C.duplicateStrategy = "review" then s.fail ⟨rowNum, [C.blockedDuplicateResolutionMessage resolution]⟩
  else s.skip

def childParentField : String := if C.entityType = .demande then "client_id" else "listing_id"

def parentEntity : ReviewEntity := if C.topologySide = "client_side" then .client else .listing

variable (T : MatchTexts) (db : IdentityTables)

def planRoot (s : PlanRun) (entry row : Fields) : PlanRun :=
  let row := row.set "created_by_id" (.int C.userId)
  let keys := anchorMapKeys T row
  { s with
    plannedRootAnchorKeys := s.plannedRootAnchorKeys ++ keys
    tally := s.tally.plan [("row", .int (entryRowNum entry)), ("data", .obj row),
      ("original", .obj (entryDict entry "original")), ("anchor_keys", .arr (keys.map .str))] }

def planRootEntry (s : PlanRun) (item : Fields × ℕ) : Option PlanRun :=
  let entry := item.1
  if C.leaseHeld item.2 = false then none
  else
    let rowNum := entryRowNum entry
    let rowData := entryDict entry "data"
    let original := entryDict entry "original"
    let checked := C.validateRow rowData C.entityType
    if checked.2 ≠ [] then
      some { s with tally := s.tally.reject C (manualReviewRow rowNum rowData original C.entityType C.topologySide
        [validationField checked.2] checked.2 [] {}) checked.2 }
    else if C.duplicateStrategy = "allow_all" then some (C.planRoot T s entry checked.1)
    else
      let resolved := resolveExistingMatches T db C.entityType C.agencyId 0 checked.1 (some s.cache)
      let s := { s with
        cache := resolved.2.getD s.cache
        existingAnchorMap :=
          if resolved.1.suggestedAction = .updateExisting ∧ 0 < resolved.1.suggestedExistingId then
            rememberAnchor T s.existingAnchorMap checked.1 resolved.1.suggestedExistingId
          else s.existingAnchorMap }
      if resolved.1.candidateMatches.isEmpty then some (C.planRoot T s entry checked.1)
      else some { s with tally := C.duplicate s.tally rowNum checked.1 original resolved.1 }

structure PlannedChild where
  entry : Fields
  rowData : Fields
  anchorId : ℤ
  anchorKey : String

/-- A round of the loop that looks for the parents. -/
def anchorEntry (s : List PlannedChild × IdentityResolutionCache) (entry : Fields) :
    Option (List PlannedChild × IdentityResolutionCache) :=
  let rowData := entryDict entry "data"
  (resolveChildAnchor T db ⟨C.topologySide, C.agencyId, rowData, C.rootPlanIndex.existingAnchorMap⟩ (some s.2)).map
    fun resolved =>
      let found := if 0 < resolved.1 then (resolved.1, "")
        else scanRootKeys C.rootPlanIndex resolved.1 (entryStrList T entry "root_anchor_keys")
      let anchor := if found.1 ≤ 0 ∧ found.2 = "" then
        (found.1, matchingAnchorKey T rowData C.rootPlanIndex.plannedRootAnchorKeys) else found
      (s.1 ++ [⟨entry, rowData, anchor.1, anchor.2⟩], resolved.2.getD s.2)

def anchorRemark (anchorId : ℤ) : String :=
  if anchorId < 0 then "A same-agency parent was found but confidence was too low to anchor automatically. " ++
    "Review the parent record."
  else "Unable to resolve a same-agency parent anchor."

def planChild (s : PlanRun) (child : PlannedChild) (row : Fields) : PlanRun :=
  let row := row.set "created_by_id" (.int C.userId)
  let row := if 0 < child.anchorId then row.set C.childParentField (.int child.anchorId)
    else row.erase C.childParentField
  { s with tally := s.tally.plan [("row", .int (entryRowNum child.entry)), ("data", .obj row),
      ("original", .obj (entryDict child.entry "original")), ("anchor_id", .int child.anchorId),
      ("anchor_key", .str child.anchorKey)] }

def planChildEntry (s : PlanRun) (item : PlannedChild × ℕ) : Option PlanRun :=
  let child := item.1
  if C.leaseHeld item.2 = false then none
  else
    let rowNum := entryRowNum child.entry
    let original := entryDict child.entry "original"
    if child.anchorId ≤ 0 ∧ child.anchorKey = "" then
      let remark := anchorRemark child.anchorId
      some { s with tally := s.tally.reject C (manualReviewRow rowNum child.rowData original C.entityType C.topologySide
        [⟨C.childParentField, "", "", 0, remark⟩] [remark] [] {}) [remark] }
    else
      let input := if 0 < child.anchorId then child.rowData.set C.childParentField (.int child.anchorId)
        else child.rowData
      let checked := C.validateRow input C.entityType
      if checked.2 ≠ [] then
        some { s with tally := s.tally.reject C (manualReviewRow rowNum input original C.entityType C.topologySide
          [validationField checked.2] checked.2 [] {}) checked.2 }
      else if child.anchorId ≤ 0 ∨ C.duplicateStrategy = "allow_all" then some (C.planChild s child checked.1)
      else
        let resolved := resolveExistingMatches T db C.entityType C.agencyId child.anchorId checked.1 (some s.cache)
        let s := { s with cache := resolved.2.getD s.cache }
        if resolved.1.candidateMatches.isEmpty then some (C.planChild s child checked.1)
        else some { s with tally := C.duplicate s.tally rowNum checked.1 original resolved.1 }

def planStart (cache : IdentityResolutionCache) : PlanRun :=
  ⟨{ reviewRows := { maxItems := max 1 C.maxReviewItems } }, [], [], cache⟩

def planRoots (entries : List Fields) : Option PlanRun :=
  (prefetchRootMatchCache T db (.empty 4096) C.entityType C.agencyId (entries.map fun e => entryDict e "data")).bind
    fun cache => entries.zipIdx.foldlM (C.planRootEntry T db) (C.planStart cache)

def planChildren (entries : List Fields) : Option PlanRun :=
  (prefetchRootMatchCache T db (.empty 4096) C.parentEntity C.agencyId (entries.map fun e => entryDict e "data")).bind
    fun cache => (entries.foldlM (C.anchorEntry T db) ([], cache)).bind fun anchored =>
      let cache := prefetchChildMatchCache db anchored.2 C.entityType C.agencyId
        ((anchored.1.map PlannedChild.anchorId).filter (0 < ·))
      anchored.1.zipIdx.foldlM (C.planChildEntry T db) (C.planStart cache)

end PlanChunk

structure PlanResult where
  processedCount : ℕ
  plannedCount : ℕ
  reviewCount : ℕ
  skippedCount : ℕ
  errorCount : ℕ
  reviewOverflowCount : ℕ
  existingAnchorMap : Dict String ℤ
  plannedRootAnchorKeys : List String

/-- What the phase writes; there is no artifact of no review rows or no errors. -/
structure PlanArtifacts where
  planned : List Fields
  reviewRows : Option (List ReviewRowPayload)
  errors : Option (List RowError)

def PlanTally.artifacts (s : PlanTally) : PlanArtifacts where
  planned := s.planned
  reviewRows := if s.reviewRows.rows = [] then none else some s.reviewRows.rows
  errors := if s.errors = [] then none else some s.errors

def PlanRun.result (s : PlanRun) (entries : List Fields) : PlanResult where
  processedCount := entries.length
  plannedCount := s.tally.plannedCount
  reviewCount := s.tally.reviewRows.rows.length
  skippedCount := s.tally.skippedCount
  errorCount := s.tally.errorCount
  reviewOverflowCount := s.tally.reviewRows.overflowCount
  existingAnchorMap := s.existingAnchorMap
  plannedRootAnchorKeys := sortedSet (fun a b => a ≤ b) s.plannedRootAnchorKeys

/-- The job is not cancelled, and the lease is held for every artifact that is written. -/
def PlanChunk.persists (C : PlanChunk) (a : PlanArtifacts) : Bool :=
  !C.cancelRequested && C.mayPersist .planned && (a.reviewRows.isNone || C.mayPersist .reviewRows) &&
    (a.errors.isNone || C.mayPersist .errors)

/-- `run_plan_chunk_phase`, for a chunk of a bundle. -/
def runPlanChunkPhase (T : MatchTexts) (db : IdentityTables) (C : PlanChunk) : Option (PlanResult × PlanArtifacts) :=
  C.entries.bind fun entries =>
    (match C.role with
      | .root => C.planRoots T db entries
      | .child => C.planChildren T db entries).bind fun s =>
        if C.persists s.tally.artifacts then some (s.result entries, s.tally.artifacts) else none

/-! ### Where the rows go -/

inductive PlanOutcome where
  | planned (row : Fields)
  | review (row : ReviewRowPayload)
  | error (e : RowError)
  | duplicate

namespace PlanOutcome

def planned? : PlanOutcome → Option Fields
  | planned row => some row
  | review _ | error _ | duplicate => none

def review? : PlanOutcome → Option ReviewRowPayload
  | review row => some row
  | planned _ | error _ | duplicate => none

def error? : PlanOutcome → Option RowError
  | error e => some e
  | planned _ | review _ | duplicate => none

def duplicate? : PlanOutcome → Option Unit
  | duplicate => some ()
  | planned _ | review _ | error _ => none

/-- The outcome is that of the entry: it has its number and what was read of it, and only duplicates are skipped. -/
def Of (C : PlanChunk) (entry : Fields) : PlanOutcome → Prop
  | planned row => row.get? "row" = some (.int (entryRowNum entry)) ∧
      row.get? "original" = some (.obj (entryDict entry "original"))
  | review row => row.row = entryRowNum entry ∧ row.original = entryDict entry "original"
  | error e => e.row = entryRowNum entry
  | duplicate => C.duplicateStrategy ≠ "review" ∧ C.duplicateStrategy ≠ "allow_all"

lemma length_eq (outcomes : List PlanOutcome) : outcomes.length = (outcomes.filterMap planned?).length +
    ((outcomes.filterMap review?).length + (outcomes.filterMap duplicate?).length) +
      (outcomes.filterMap error?).length := by
  induction outcomes with
  | nil => rfl
  | cons o _ ih =>
    cases o <;> simp only [filterMap_cons, planned?, review?, duplicate?, error?, length_cons] <;> omega

end PlanOutcome

namespace PlanTally

def post (s : PlanTally) : PlanOutcome → PlanTally
  | .planned row => s.plan row
  | .review row => s.review row
  | .error e => s.fail e
  | .duplicate => s.skip

structure Accounts (s : PlanTally) (limit : ℕ) (outcomes : List PlanOutcome) : Prop where
  planned : s.planned = outcomes.filterMap PlanOutcome.planned?
  plannedCount : s.plannedCount = (outcomes.filterMap PlanOutcome.planned?).length
  limit : s.reviewRows.maxItems = limit
  reviewRows : s.reviewRows.Collects (outcomes.filterMap PlanOutcome.review?)
  errors : s.errors = outcomes.filterMap PlanOutcome.error?
  errorCount : s.errorCount = (outcomes.filterMap PlanOutcome.error?).length
  /-- The rows for the review and the duplicates are skipped. -/
  skippedCount : s.skippedCount =
    (outcomes.filterMap PlanOutcome.review?).length + (outcomes.filterMap PlanOutcome.duplicate?).length

variable {s : PlanTally} {limit : ℕ} {outcomes : List PlanOutcome}

lemma accounts_empty (limit : ℕ) : Accounts { reviewRows := { maxItems := limit } } limit [] :=
  ⟨rfl, rfl, rfl, ReviewRowBuffer.collects_empty limit, rfl, rfl, rfl⟩

lemma Accounts.post (h : s.Accounts limit outcomes) (o : PlanOutcome) : (s.post o).Accounts limit (outcomes ++ [o]) := by
  cases o with
  | planned =>
    constructor <;> simp [PlanTally.post, plan, filterMap_cons, PlanOutcome.planned?, PlanOutcome.review?,
      PlanOutcome.error?, PlanOutcome.duplicate?, h.planned, h.plannedCount, h.limit, h.reviewRows, h.errors,
        h.errorCount, h.skippedCount]
  | review row =>
    have hrows := h.reviewRows.append row
    constructor <;> simp [PlanTally.post, review, filterMap_cons, PlanOutcome.planned?, PlanOutcome.review?,
      PlanOutcome.error?, PlanOutcome.duplicate?, h.planned, h.plannedCount, h.limit, hrows, h.errors, h.errorCount,
        h.skippedCount]
    omega
  | error =>
    constructor <;> simp [PlanTally.post, fail, filterMap_cons, PlanOutcome.planned?, PlanOutcome.review?,
      PlanOutcome.error?, PlanOutcome.duplicate?, h.planned, h.plannedCount, h.limit, h.reviewRows, h.errors,
        h.errorCount, h.skippedCount]
  | duplicate =>
    constructor <;> simp [PlanTally.post, skip, filterMap_cons, PlanOutcome.planned?, PlanOutcome.review?,
      PlanOutcome.error?, PlanOutcome.duplicate?, h.planned, h.plannedCount, h.limit, h.reviewRows, h.errors,
        h.errorCount, h.skippedCount]
    omega

lemma Accounts.foldl_post (h : s.Accounts limit outcomes) (rest : List PlanOutcome) :
    (rest.foldl PlanTally.post s).Accounts limit (outcomes ++ rest) := by
  induction rest generalizing s outcomes with
  | nil => rwa [append_nil]
  | cons o _ ih => simpa using ih (h.post o)

end PlanTally

/-! ### One round -/

namespace PlanChunk

variable {T : MatchTexts} {db : IdentityTables} {C : PlanChunk} {s t : PlanRun} {entry : Fields}

lemma exists_reject (s : PlanTally) {row : ReviewRowPayload} (errors : List String)
    (hrow : row.row = entryRowNum entry) (horiginal : row.original = entryDict entry "original") :
    ∃ o : PlanOutcome, o.Of C entry ∧ s.reject C row errors = s.post o := by
  unfold PlanTally.reject
  split
  · exact ⟨.error ⟨row.row, errors⟩, hrow, rfl⟩
  · exact ⟨.review row, ⟨hrow, horiginal⟩, rfl⟩

lemma exists_duplicate (s : PlanTally) (row : Fields) (resolution : ResolutionResult)
    (hstrategy : C.duplicateStrategy ≠ "allow_all") :
    ∃ o : PlanOutcome, o.Of C entry ∧
      C.duplicate s (entryRowNum entry) row (entryDict entry "original") resolution = s.post o := by
  unfold duplicate
  split
  · exact ⟨.review (reviewRowFromResolution (entryRowNum entry) row (entryDict entry "original") C.entityType
      C.topologySide resolution), ⟨rfl, rfl⟩, rfl⟩
  · split
    · exact ⟨.error ⟨entryRowNum entry, _⟩, rfl, rfl⟩
    · next hreview => exact ⟨.duplicate, ⟨hreview, hstrategy⟩, rfl⟩

lemma exists_planRoot (s : PlanRun) (row : Fields) :
    ∃ o : PlanOutcome, o.Of C entry ∧ (C.planRoot T s entry row).tally = s.tally.post o :=
  ⟨.planned _, ⟨rfl, rfl⟩, rfl⟩

lemma exists_planChild (s : PlanRun) (child : PlannedChild) (row : Fields) :
    ∃ o : PlanOutcome, o.Of C child.entry ∧ (C.planChild s child row).tally = s.tally.post o :=
  ⟨.planned _, ⟨rfl, rfl⟩, rfl⟩

variable {i : ℕ} {entries : List Fields}

lemma exists_planRootEntry (h : C.planRootEntry T db s (entry, i) = some t) :
    ∃ o : PlanOutcome, o.Of C entry ∧ t.tally = s.tally.post o := by
  unfold planRootEntry at h
  dsimp only at h
  generalize resolveExistingMatches T db C.entityType C.agencyId 0 _ (some s.cache) = resolved at h
  split at h
  · cases h
  · split at h
    · -- the check found errors
      rw [← some.inj h]
      exact exists_reject _ _ rfl rfl
    · split at h
      · rw [← some.inj h]
        exact exists_planRoot _ _
      · next hstrategy =>
        split at h
        · rw [← some.inj h]
          exact exists_planRoot _ _
        · rw [← some.inj h]
          exact exists_duplicate _ _ _ hstrategy

lemma exists_planChildEntry {child : PlannedChild} (h : C.planChildEntry T db s (child, i) = some t) :
    ∃ o : PlanOutcome, o.Of C child.entry ∧ t.tally = s.tally.post o := by
  unfold planChildEntry at h
  dsimp only at h
  generalize (if 0 < child.anchorId then _ else child.rowData) = input at h
  generalize resolveExistingMatches T db C.entityType C.agencyId child.anchorId _ (some s.cache) = resolved at h
  split at h
  · cases h
  · split at h
    · -- there is no parent
      rw [← some.inj h]
      exact exists_reject _ _ rfl rfl
    · split at h
      · rw [← some.inj h]
        exact exists_reject _ _ rfl rfl
      · split at h
        · rw [← some.inj h]
          exact exists_planChild _ _ _
        · next hstrategy =>
          split at h
          · rw [← some.inj h]
            exact exists_planChild _ _ _
          · rw [← some.inj h]
            exact exists_duplicate _ _ _ fun hall => hstrategy (.inr hall)

lemma map_entry_anchored {cache : IdentityResolutionCache}
    {anchored : List PlannedChild × IdentityResolutionCache}
    (h : entries.foldlM (C.anchorEntry T db) ([], cache) = some anchored) :
    anchored.1.map PlannedChild.entry = entries := by
  obtain ⟨children, hchildren, hview⟩ := Outcomes.exists_outcomes Prod.fst (fun l c => l ++ [c])
    (fun entry child => child.entry = entry) (fun s entry t hstep => by
      obtain ⟨_, -, ht⟩ := map_eq_some_iff.mp hstep
      exact ⟨_, rfl, (congrArg Prod.fst ht).symm⟩) h
  have hfold : ∀ l : List PlannedChild, children.foldl (fun l c => l ++ [c]) l = l ++ children := by
    clear hchildren hview
    induction children with
    | nil => exact fun l => (append_nil l).symm
    | cons _ _ ih =>
      intro l
      rw [foldl_cons, ih, append_assoc, singleton_append]
  rw [hview, hfold, nil_append]
  clear h hview hfold
  induction hchildren with
  | nil => rfl
  | cons hentry _ ih => rw [map_cons, ih, hentry]

lemma forall₂_zipIdx {α : Type*} {R : α → PlanOutcome → Prop} {items : List α} {outcomes : List PlanOutcome}
    (h : List.Forall₂ (fun item o => R item.1 o) items.zipIdx outcomes) : List.Forall₂ R items outcomes := by
  have hmap := forall₂_map_left_iff.mpr h
  rwa [zipIdx_map_fst] at hmap

lemma planRoots_accounts (h : C.planRoots T db entries = some s) :
    ∃ outcomes, List.Forall₂ (fun entry (o : PlanOutcome) => o.Of C entry) entries outcomes ∧
      s.tally.Accounts (max 1 C.maxReviewItems) outcomes := by
  obtain ⟨_, -, hloop⟩ := bind_eq_some_iff.mp h
  obtain ⟨outcomes, hitems, hview⟩ := Outcomes.exists_outcomes PlanRun.tally PlanTally.post
    (fun item (o : PlanOutcome) => o.Of C item.1) (fun s item t => exists_planRootEntry) hloop
  refine ⟨outcomes, forall₂_zipIdx hitems, ?_⟩
  rw [hview]
  exact (PlanTally.accounts_empty _).foldl_post outcomes

lemma planChildren_accounts (h : C.planChildren T db entries = some s) :
    ∃ outcomes, List.Forall₂ (fun entry (o : PlanOutcome) => o.Of C entry) entries outcomes ∧
      s.tally.Accounts (max 1 C.maxReviewItems) outcomes := by
  obtain ⟨_, -, hbind⟩ := bind_eq_some_iff.mp h
  obtain ⟨_, hanchored, hloop⟩ := bind_eq_some_iff.mp hbind
  obtain ⟨outcomes, hitems, hview⟩ := Outcomes.exists_outcomes PlanRun.tally PlanTally.post
    (fun item (o : PlanOutcome) => o.Of C item.1.entry) (fun s item t => exists_planChildEntry) hloop
  refine ⟨outcomes, ?_, ?_⟩
  · rw [← map_entry_anchored hanchored]
    exact forall₂_map_left_iff.mpr (forall₂_zipIdx hitems)
  · rw [hview]
    exact (PlanTally.accounts_empty _).foldl_post outcomes

end PlanChunk

/-! ### The whole phase -/

/-- The counts of the phase add up, and every entry went one way. -/
structure PlanAccounted (C : PlanChunk) (entries : List Fields) (r : PlanResult) (a : PlanArtifacts) : Prop where
  processed : r.processedCount = entries.length
  balance : r.processedCount = r.plannedCount + r.skippedCount + r.errorCount
  review : r.reviewCount + r.reviewOverflowCount ≤ r.skippedCount
  /-- Every entry has one outcome, and the artifacts hold the outcomes. -/
  once : ∃ outcomes : List PlanOutcome, List.Forall₂ (fun entry o => o.Of C entry) entries outcomes ∧
    a.planned = outcomes.filterMap PlanOutcome.planned? ∧ r.plannedCount = a.planned.length ∧
    a.reviewRows.getD [] = (outcomes.filterMap PlanOutcome.review?).take (max 1 C.maxReviewItems) ∧
    r.reviewCount = (a.reviewRows.getD []).length ∧
    r.reviewCount + r.reviewOverflowCount = (outcomes.filterMap PlanOutcome.review?).length ∧
    a.errors.getD [] = outcomes.filterMap PlanOutcome.error? ∧ r.errorCount = (a.errors.getD []).length ∧
    r.skippedCount = r.reviewCount + r.reviewOverflowCount + (outcomes.filterMap PlanOutcome.duplicate?).length

lemma getD_ite_nil {α : Type*} {l : List α} [Decidable (l = [])] : (if l = [] then none else some l).getD [] = l := by
  split
  · next hnil => exact hnil.symm
  · rfl

lemma planAccounted {T : MatchTexts} {db : IdentityTables} {C : PlanChunk} {r : PlanResult} {a : PlanArtifacts}
    (h : runPlanChunkPhase T db C = some (r, a)) :
    ∃ entries, C.entries = some entries ∧ PlanAccounted C entries r a := by
  obtain ⟨entries, hentries, hbind⟩ := bind_eq_some_iff.mp h
  obtain ⟨s, hs, hend⟩ := bind_eq_some_iff.mp hbind
  have haccounts : ∃ outcomes, List.Forall₂ (fun entry (o : PlanOutcome) => o.Of C entry) entries outcomes ∧
      s.tally.Accounts (max 1 C.maxReviewItems) outcomes := by
    split at hs
    · exact PlanChunk.planRoots_accounts hs
    · exact PlanChunk.planChildren_accounts hs
  obtain ⟨outcomes, hof, htally⟩ := haccounts
  split at hend
  · obtain ⟨rfl, rfl⟩ := Prod.mk.inj (some.inj hend)
    have hlength := hof.length_eq
    have htotal := PlanOutcome.length_eq outcomes
    have hplanned := htally.plannedCount
    have herrors := htally.errorCount
    have hskipped := htally.skippedCount
    have hcounted := htally.reviewRows.counted
    have hkept := htally.reviewRows.kept
    rw [htally.limit] at hkept
    refine ⟨entries, hentries, rfl, ?_, ?_, outcomes, hof, htally.planned, ?_, ?_, ?_, hcounted, ?_, ?_, ?_⟩
    · unfold PlanRun.result
      dsimp only
      omega
    · unfold PlanRun.result
      dsimp only
      omega
    · exact hplanned.trans (congrArg List.length htally.planned.symm)
    · exact getD_ite_nil.trans hkept
    · exact congrArg List.length getD_ite_nil.symm
    · exact getD_ite_nil.trans htally.errors
    · exact herrors.trans (congrArg List.length (getD_ite_nil.trans htally.errors).symm)
    · exact hskipped.trans (congrArg (· + _) hcounted.symm)
  · cases hend

end ImmoApp.Imports
