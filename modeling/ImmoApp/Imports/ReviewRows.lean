import ImmoApp.Foundation.Json
import ImmoApp.Foundation.Text
import Mathlib.Data.List.Sort
import Mathlib.Data.List.Dedup
import Mathlib.Data.Prod.Lex

/-!
# Review rows and their groups

`persist_review_rows` groups the rows to review by the person or the property they are about and stores one item for a
row.  A group carries a resolution template, which the grouping fills in with the suggestion of its rows where these
agree; an item says whether it can follow a resolution of its group.

A row is addressed by a key, the number of its line alone or with the type of the entity, in any spelling;
`normalizeReviewKeyToken` is the normal form.
-/

namespace ImmoApp.Imports

open List

/-! ### Keys -/

inductive ReviewEntity where
  | client
  | listing
  | demande
  | offer
  deriving DecidableEq

def ReviewEntity.name : ReviewEntity → String
  | .client => "client"
  | .listing => "listing"
  | .demande => "demande"
  | .offer => "offer"

def reviewEntityNamed (s : String) : Option ReviewEntity :=
  [ReviewEntity.client, .listing, .demande, .offer].find? fun e => e.name = s

/-- A key of a review row as a text: the number of a row, that number with an entity type behind a
colon, or any other text. -/
inductive RowKey where
  | plain (row : ℕ)
  | composite (row : ℕ) (entityType : ReviewEntity)
  | text (s : String)
  deriving DecidableEq

structure KeyTexts where
  lower : String → String
  /-- The number of a text of digits (`str.isdigit`, `int`). -/
  number : String → Option ℕ
  lower_strip : ∀ s, lower (strip (lower (strip s))) = lower (strip s)

def KeyTexts.spelled (T : KeyTexts) (t : String) : RowKey :=
  match T.number t with
  | some n => .plain n
  | none =>
    match splitOnAny (· == ':') t with
    | [row, entityType] =>
      match T.number row, reviewEntityNamed entityType with
      | some n, some e => if toString n = row then .composite n e else .text t
      | _, _ => .text t
    | _ => .text t

/-- The normal form of a key, none for a blank text. -/
def normalizeReviewKeyToken (T : KeyTexts) : RowKey → Option RowKey
  | .text s =>
    let t := T.lower (strip s)
    if t = "" then none else some (T.spelled t)
  | k => some k

lemma normalizeReviewKeyToken_idem {T : KeyTexts} {k k' : RowKey}
    (h : normalizeReviewKeyToken T k = some k') : normalizeReviewKeyToken T k' = some k' := by
  cases k with
  | plain =>
    obtain ⟨⟩ := h
    rfl
  | composite =>
    obtain ⟨⟩ := h
    rfl
  | text s =>
    simp only [normalizeReviewKeyToken] at h
    split at h
    · exact absurd h (by simp)
    · next hne =>
      have hspelled : T.spelled (T.lower (strip s)) = k' := Option.some.inj h
      cases k' with
      | plain => rfl
      | composite => rfl
      | text t =>
        -- the text of a normal form is the text it was read from
        have ht : t = T.lower (strip s) := by
          unfold KeyTexts.spelled at hspelled
          split at hspelled
          · cases hspelled
          · split at hspelled
            · split at hspelled
              · split at hspelled
                · cases hspelled
                · exact (RowKey.text.inj hspelled).symm
              · exact (RowKey.text.inj hspelled).symm
            · exact (RowKey.text.inj hspelled).symm
        simp only [normalizeReviewKeyToken]
        rw [ht, T.lower_strip, if_neg hne, hspelled, ht]

def reviewRowKey (row : ℕ) (entityType : ReviewEntity) : RowKey := .composite row entityType

def reviewRowLookupKeys (row : ℕ) (entityType : ReviewEntity) : List RowKey :=
  [reviewRowKey row entityType, .plain row]

/-! ### Rows, groups and items -/

inductive ReviewAction where
  | createNew
  | updateExisting
  | reviewAmbiguous
  | skip
  deriving DecidableEq

/-- A decision: `ReviewResolutionPayload`. -/
structure ResolutionPayload where
  action : Option ReviewAction
  entityType : Option ReviewEntity
  existingId : Option ℤ
  rowVersion : Option ℤ
  deriving DecidableEq

def ResolutionPayload.empty : ResolutionPayload := ⟨none, none, none, none⟩

structure CandidateMatch where
  id : ℤ
  rowVersion : ℤ
  /-- The row changes a field that never changes (`field_diff["changed_immutable"]`). -/
  immutableConflict : Bool

structure RootIdentity where
  phone : Option String
  familyName : Option String
  email : Option String

inductive ItemStatus where
  | pending
  | resolved
  | skipped
  | blocked
  deriving DecidableEq

/-- The statuses of `_ACTIVE_ITEM_STATUSES`. -/
def ItemStatus.active : ItemStatus → Bool
  | .pending | .blocked => true
  | .resolved | .skipped => false

/-- A row under review, with the defaults of `build_review_group_payloads`. -/
structure ReviewRow where
  row : ℕ
  entityType : ReviewEntity
  topologySide : String
  identity : RootIdentity
  data : Dict String Json
  original : Dict String Json
  candidateMatches : List CandidateMatch
  blockingReasons : List String
  immutableConflict : Bool
  suggestedAction : Option ReviewAction
  /-- The record that it suggests to update, 0 for none. -/
  suggestedExistingId : ℤ
  issueGroup : String
  status : Option ItemStatus
  remarks : List String

/-- `ReviewGroupingContext`. -/
structure GroupingContext where
  jobId : String
  /-- The file holds parents and children of one side (`same_side_bundle`). -/
  sameSideBundle : Bool
  topologySide : String

inductive GroupKind where
  | bundleRoot
  | singleRow
  | duplicateConflict
  | fieldConflict
  deriving DecidableEq

structure ReviewGroup where
  kind : GroupKind
  entityType : ReviewEntity
  rootRowOrdinal : ℕ
  applyToAllAllowed : Bool
  consistentExistingId : ℤ
  resolutionTemplate : ResolutionPayload
  resolutionScope : Option String

structure ReviewItem where
  id : ℕ
  groupKey : String
  entry : ReviewRow
  status : ItemStatus
  groupResolvable : Bool
  resolution : ResolutionPayload
  resolutionSource : String

def ReviewItem.rowKey (i : ReviewItem) : RowKey := reviewRowKey i.entry.row i.entry.entityType

structure ReviewDesk where
  groups : Dict String ReviewGroup
  items : List ReviewItem
  nextId : ℕ

/-! ### Grouping -/

def groupPrefix (entityType : ReviewEntity) (topologySide : String) : String :=
  if topologySide = "listing_side" ∨ entityType = .listing ∨ entityType = .offer then "listing"
  else "client"

def rootGroupKey (ctx : GroupingContext) (r : ReviewRow) : String :=
  let side := if r.topologySide = "" then ctx.topologySide else r.topologySide
  let kind := groupPrefix r.entityType side
  let singleton := s!"singleton:{ctx.jobId}:{r.row}:{r.entityType.name}"
  if ctx.sameSideBundle then
    match r.identity.phone, r.identity.email, r.identity.familyName with
    | some phone, _, _ => s!"{kind}:phone:{phone}"
    | none, some email, _ => s!"{kind}:email:{email}"
    | none, none, some familyName => s!"{kind}:name:{familyName}"
    | none, none, none => singleton
  else singleton

def disagree {α : Type*} [DecidableEq α] (values : List α) : Bool := 1 < values.dedup.length

def suggestedIds (rows : List ReviewRow) : List ℤ :=
  (rows.map ReviewRow.suggestedExistingId).filter (0 < ·)

def groupKind (ctx : GroupingContext) (groupKey : String) (rows : List ReviewRow) : GroupKind :=
  if rows.length ≤ 1 then
    if rows.any ReviewRow.immutableConflict then .fieldConflict else .singleRow
  else if disagree (rows.filterMap fun r => r.identity.familyName) then .duplicateConflict
  else if disagree (rows.filterMap fun r => r.identity.email) then .duplicateConflict
  else if disagree (suggestedIds rows) then .duplicateConflict
  else if rows.any ReviewRow.immutableConflict then .duplicateConflict
  else if ctx.sameSideBundle ∧ ¬ "singleton:".toList <+: groupKey.toList then .bundleRoot
  else .singleRow

def rootEntityType (ctx : GroupingContext) (rows : List ReviewRow) : ReviewEntity :=
  match (rows.map ReviewRow.entityType).find? fun e => e = .client ∨ e = .listing with
  | some e => e
  | none =>
    if ctx.sameSideBundle then if ctx.topologySide = "listing_side" then .listing else .client
    else ((rows.map ReviewRow.entityType).head?).getD .client

def rootRows (ctx : GroupingContext) (all rows : List ReviewRow) : List ReviewRow :=
  match rows.filter fun r => r.entityType = rootEntityType ctx all with
  | [] => rows
  | roots => roots

/-- `_group_resolution_details`: whether a decision can be applied to all rows, the record that they
suggest, and the template. -/
def groupResolutionDetails (ctx : GroupingContext) (kind : GroupKind) (rows : List ReviewRow) :
    Bool × ℤ × ResolutionPayload :=
  let compatible := rows.filter fun r => r.blockingReasons.isEmpty && !r.immutableConflict
  let decisive := rootRows ctx rows compatible
  let existingIds := (suggestedIds decisive).dedup
  let actions := (decisive.filterMap ReviewRow.suggestedAction).dedup
  let existingId := existingIds.head?.getD 0
  if compatible.isEmpty ∨ kind = .duplicateConflict ∨ kind = .fieldConflict then (false, 0, .empty)
  else if disagree ((compatible.map ReviewRow.topologySide).filter (· ≠ "")) then (false, 0, .empty)
  else if disagree (decisive.map ReviewRow.entityType) ∨ 1 < actions.length
      ∨ 1 < existingIds.length then (false, 0, .empty)
  else match actions.head? with
    | none => (false, existingId, .empty)
    | some action =>
      (true, existingId, ⟨action, rootEntityType ctx rows, if 0 < existingId then some existingId else none, none⟩)

def leastRow (rows : List ReviewRow) : ℕ := ((rows.map ReviewRow.row).min?).getD 0

/-- The group that `build_review_group_payloads` makes of rows with one key. -/
def buildReviewGroup (ctx : GroupingContext) (groupKey : String) (rows : List ReviewRow) :
    ReviewGroup :=
  let rows := rows.insertionSort fun r r' => r.row ≤ r'.row
  let kind := groupKind ctx groupKey rows
  let details := groupResolutionDetails ctx kind rows
  { kind := kind, entityType := rootEntityType ctx rows
    rootRowOrdinal := leastRow (rootRows ctx rows rows)
    applyToAllAllowed := details.1, consistentExistingId := details.2.1
    resolutionTemplate := details.2.2, resolutionScope := none }

def buildReviewGroups (ctx : GroupingContext) (rows : List ReviewRow) : Dict String ReviewGroup :=
  (rows.map (rootGroupKey ctx)).dedup.map fun key =>
    (key, buildReviewGroup ctx key (rows.filter fun r => rootGroupKey ctx r = key))

/-! ### Storing -/

def itemCanFollowGroupResolution (r : ReviewRow) (g : ReviewGroup) : Bool :=
  if !g.applyToAllAllowed then false
  else if !r.blockingReasons.isEmpty || r.immutableConflict then false
  else if r.entityType = g.entityType then true
  else if r.entityType ≠ .demande ∧ r.entityType ≠ .offer then false
  else if !r.candidateMatches.isEmpty then false
  else r.issueGroup = "parent_match_needed"

def itemStatusFromRow (r : ReviewRow) : ItemStatus :=
  match r.status with
  | some status => status
  | none => if r.immutableConflict || !r.blockingReasons.isEmpty then .blocked else .pending

abbrev ItemKey := String × ℕ × ReviewEntity

def ReviewItem.itemKey (i : ReviewItem) : ItemKey := (i.groupKey, i.entry.row, i.entry.entityType)

/-- The item of a row, as `_item_record_fields` fills it in. -/
def itemOfRow (groups : Dict String ReviewGroup) (id : ℕ) (groupKey : String) (r : ReviewRow) :
    ReviewItem :=
  { id := id, groupKey := groupKey, entry := r, status := itemStatusFromRow r
    groupResolvable := ((groups.get? groupKey).map (itemCanFollowGroupResolution r)).getD false
    resolution := .empty, resolutionSource := "" }

/-- The items of the rows: a key that is stored keeps its identifier, a new one gets the next. -/
def itemsOfRows (groups : Dict String ReviewGroup) (stored : List ReviewItem) :
    ℕ → Dict ItemKey ReviewRow → List ReviewItem
  | _, [] => []
  | nextId, (key, r) :: rows =>
    match stored.find? fun i => i.itemKey = key with
    | some i => itemOfRow groups i.id key.1 r :: itemsOfRows groups stored nextId rows
    | none => itemOfRow groups nextId key.1 r :: itemsOfRows groups stored (nextId + 1) rows

/-- `persist_review_rows`.  The groups and items of other keys are deleted; two new items with one key
violate the unique index. -/
def persistReviewRows (ctx : GroupingContext) (rows : List ReviewRow) (s : ReviewDesk) :
    Option ReviewDesk :=
  let keyOf := fun r => ((rootGroupKey ctx r, r.row, r.entityType) : ItemKey)
  let groups := buildReviewGroups ctx rows
  let grouped := groups.flatMap fun g =>
    (rows.filter fun r => rootGroupKey ctx r = g.1).insertionSort fun r r' => r.row ≤ r'.row
  let rowsByKey : Dict ItemKey ReviewRow := grouped.foldl (fun acc r => Dict.set acc (keyOf r) r) []
  let newKeys := (rows.map keyOf).filter fun key => !s.items.any fun i => i.itemKey = key
  if newKeys.Nodup then
    some { groups := groups, items := itemsOfRows groups s.items s.nextId rowsByKey
           nextId := s.nextId + newKeys.length }
  else none

/-- The items of a submission: the active ones and those with a resolution of their own, in the order of
their groups. -/
def activeReviewItems (s : ReviewDesk) : List ReviewItem :=
  let rootRow := fun i : ReviewItem => ((s.groups.get? i.groupKey).map ReviewGroup.rootRowOrdinal).getD 0
  (s.items.filter fun i => i.status.active || i.resolutionSource == "item").insertionSort fun i j =>
    toLex (rootRow i, toLex (i.entry.row, i.id)) ≤ toLex (rootRow j, toLex (j.entry.row, j.id))

lemma mem_itemsOfRows {groups : Dict String ReviewGroup} {stored : List ReviewItem} {nextId : ℕ}
    {rows : Dict ItemKey ReviewRow} {i : ReviewItem} (h : i ∈ itemsOfRows groups stored nextId rows) :
    ∃ key r, (key, r) ∈ rows ∧ i = itemOfRow groups i.id key.1 r := by
  induction rows generalizing nextId with
  | nil => exact absurd h not_mem_nil
  | cons e _ ih =>
    obtain ⟨key, r⟩ := e
    rw [itemsOfRows] at h
    split at h
    · rcases mem_cons.mp h with rfl | h
      · exact ⟨key, r, mem_cons_self, rfl⟩
      · obtain ⟨key', r', hmem, hi⟩ := ih h
        exact ⟨key', r', mem_cons_of_mem _ hmem, hi⟩
    · rcases mem_cons.mp h with rfl | h
      · exact ⟨key, r, mem_cons_self, rfl⟩
      · obtain ⟨key', r', hmem, hi⟩ := ih h
        exact ⟨key', r', mem_cons_of_mem _ hmem, hi⟩

lemma mem_activeReviewItems {s : ReviewDesk} {i : ReviewItem} : i ∈ activeReviewItems s ↔
      i ∈ s.items ∧ (i.status.active || i.resolutionSource == "item") = true := by
  rw [activeReviewItems, (perm_insertionSort _ _).mem_iff, mem_filter]

end ImmoApp.Imports
