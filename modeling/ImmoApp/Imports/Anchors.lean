import ImmoApp.Foundation.KeyIndex
import ImmoApp.Imports.IdentityCache

/-!
# Parents of a bundle

The chunks of the parents of a bundle remember every parent under its phone and its name.  The maps of the chunks are
merged, and the children look their parents up in them: by the phone of their row and, if that leads nowhere, by its
name.

A name is no phone.  `childAnchor_iff`: the children that get the right parent are those that are found by their phone,
and those without one whose name is the name of a single parent.
-/

namespace ImmoApp.Imports

open Crm List Option

/-! ### Parents -/

inductive RootFate where
  | existing (id : ℤ)
  | created (id : ℤ)
  /-- It went to the review or to the errors, or was skipped. -/
  | dropped

structure RootRow where
  row : Fields
  fate : RootFate

namespace RootRow

variable (r : RootRow)

def existingId : Option ℤ :=
  match r.fate with
  | .existing id => some id
  | .created _ | .dropped => none

def createdId : Option ℤ :=
  match r.fate with
  | .created id => some id
  | .existing _ | .dropped => none

def recordId : Option ℤ := r.existingId.or r.createdId

end RootRow

section Maps

variable (T : MatchTexts)

def rememberedName (row : Fields) : String :=
  let familyName := fieldOr row "family_name" (.str "")
  T.backend.unicode.lower (strip (T.textOf (if familyName.truthy then familyName else fieldOr row "name" (.str ""))))

def anchorMapKeys (row : Fields) : List String :=
  (if rowPhone T row = "" then [] else ["phone:" ++ rowPhone T row]) ++
    if rememberedName T row = "" then [] else ["name:" ++ rememberedName T row]

def rememberAnchor (anchorMap : Dict String ℤ) (row : Fields) (entityId : ℤ) : Dict String ℤ :=
  if entityId ≤ 0 then anchorMap else KeyIndex.setAll anchorMap (anchorMapKeys T row) entityId

def existingAnchorMap (rows : List RootRow) : Dict String ℤ :=
  rows.foldl (fun anchorMap r => r.existingId.elim anchorMap (rememberAnchor T anchorMap r.row)) []

def plannedRootAnchorKeys (rows : List RootRow) : List String :=
  sortedSet (fun a b => a ≤ b) ((rows.filter fun r => r.createdId.isSome).flatMap fun r => anchorMapKeys T r.row)

/-- The records that a chunk creates, by the keys that were planned. -/
def createdAnchorMap (rows : List RootRow) : Dict String ℤ :=
  rows.foldl (fun anchorMap r => r.createdId.elim anchorMap (KeyIndex.setAll anchorMap (anchorMapKeys T r.row))) []

/-- What `_aggregate_root_plan_index` returns. -/
structure RootPlanIndex where
  existingAnchorMap : Dict String ℤ
  plannedRootAnchorKeys : List String

def aggregateRootPlanIndex (chunks : List (List RootRow)) : RootPlanIndex where
  existingAnchorMap := (chunks.map (existingAnchorMap T)).foldl Dict.update []
  plannedRootAnchorKeys := sortedSet (fun a b => a ≤ b)
    (((chunks.flatMap (plannedRootAnchorKeys T)).map strip).filter fun key => key ≠ "")

/-- `_aggregate_root_load_anchor_map`, as `_root_load_anchor_map` reads it. -/
def rootLoadAnchorMap (chunks : List (List RootRow)) : Dict String ℤ :=
  ((chunks.map (createdAnchorMap T)).foldl Dict.update []).filter fun e => strip e.1 ≠ ""

def matchingAnchorKey (row : Fields) (known : List String) : String :=
  ((anchorMapKeys T row).find? fun key => known.contains key).getD ""

end Maps

def identityFields : List String := ["phone", "family_name", "name"]

structure ChildEntry where
  root : Fields
  data : Fields
  /-- `bundle_child_payload` keeps the fields of the child, or the whole row where it does not know the side. -/
  carried : (∀ field ∈ identityFields, data.get? field = none) ∨
    ∀ field ∈ identityFields, data.get? field = root.get? field

section Children

variable (T : MatchTexts) (db : IdentityTables)

/-- The keys of the row, in turn: a known anchor, or the key of a planned one. -/
def scanRootKeys (index : RootPlanIndex) (anchorId : ℤ) : List String → ℤ × String
  | [] => (anchorId, "")
  | key :: keys =>
    match index.existingAnchorMap.get? key with
    | some id => (id, "")
    | none => if index.plannedRootAnchorKeys.contains key then (anchorId, key) else scanRootKeys index anchorId keys

/-- The anchor of a child in the plan, or the key of a planned parent. -/
def planAnchor (index : RootPlanIndex) (side : String) (agencyId : ℕ) (cache : Option IdentityResolutionCache)
    (e : ChildEntry) : Option (ℤ × String) :=
  (resolveChildAnchor T db ⟨side, agencyId, e.data, index.existingAnchorMap⟩ cache).map fun resolved =>
    let found := if 0 < resolved.1 then (resolved.1, "") else scanRootKeys index resolved.1 (anchorMapKeys T e.root)
    if found.1 ≤ 0 ∧ found.2 = "" then (found.1, matchingAnchorKey T e.data index.plannedRootAnchorKeys) else found

/-- The anchor with which a planned child is loaded, not positive where there is none. -/
def loadAnchor (loaded : Dict String ℤ) (planned : ℤ × String) : ℤ :=
  if 0 < planned.1 then planned.1 else (loaded.get? planned.2).getD 0

/-- The anchor that a child gets, none where the identifier in its row is no number. -/
def childAnchor (chunks : List (List RootRow)) (side : String) (agencyId : ℕ) (cache : Option IdentityResolutionCache)
    (e : ChildEntry) : Option ℤ :=
  (planAnchor T db (aggregateRootPlanIndex T chunks) side agencyId cache e).map
    (loadAnchor (rootLoadAnchorMap T chunks))

end Children

/-! ### The right parent -/

section Right

variable (T : MatchTexts) (db : IdentityTables)

def Named (roots : List RootRow) (name : String) (id : ℤ) : Prop :=
  ∃ r ∈ roots, r.recordId = some id ∧ rememberedName T r.row = name

/-- The anchor of a child with a phone is a parent with this phone; a child that has a name only gets the parent with
this name if there is one, and none if there are several. -/
structure AttachedRightly (roots : List RootRow) (e : ChildEntry) (anchor : ℤ) : Prop where
  phone : rowPhone T e.root ≠ "" → 0 < anchor →
    ∃ r ∈ roots, r.recordId = some anchor ∧ rowPhone T r.row = rowPhone T e.root
  one : rowPhone T e.root = "" → rememberedName T e.root ≠ "" →
    ∀ id, (∀ id', Named T roots (rememberedName T e.root) id' ↔ id' = id) → anchor = id
  several : rowPhone T e.root = "" → rememberedName T e.root ≠ "" →
    ∀ id id', id ≠ id' → Named T roots (rememberedName T e.root) id → Named T roots (rememberedName T e.root) id' →
      anchor ≤ 0

def lookedUpName (e : ChildEntry) : String :=
  normalizeNameForMatch T (fieldOr e.data "family_name" (fieldOr e.data "name" (.str "")))

/-- An existing parent is remembered under the name that is looked up. -/
def NameExists (roots : List RootRow) (e : ChildEntry) : Prop :=
  lookedUpName T e ≠ "" ∧ ∃ r ∈ roots, r.existingId ≠ none ∧ rememberedName T r.row = lookedUpName T e

/-- The name of a child is not taken for its phone, and belongs to one parent. -/
structure ParentClear (chunks : List (List RootRow)) (e : ChildEntry) : Prop where
  /-- An existing parent has the phone; or else no existing parent has the name that is looked up, and a created parent
  has the phone or no parent has the name. -/
  phone : rowPhone T e.root ≠ "" →
    (∃ r ∈ chunks.flatten, r.existingId ≠ none ∧ rowPhone T r.row = rowPhone T e.root) ∨
      (¬NameExists T chunks.flatten e ∧
        ((∃ r ∈ chunks.flatten, r.createdId ≠ none ∧ rowPhone T r.row = rowPhone T e.root) ∨
          rememberedName T e.root = "" ∨ ∀ id, ¬Named T chunks.flatten (rememberedName T e.root) id))
  unique : rowPhone T e.root = "" → rememberedName T e.root ≠ "" → ∀ id id',
    Named T chunks.flatten (rememberedName T e.root) id → Named T chunks.flatten (rememberedName T e.root) id' →
      id = id'
  /-- If there is one, the name without punctuation does not lead to another. -/
  spelled : rowPhone T e.root = "" → rememberedName T e.root ≠ "" → ∀ id,
    Named T chunks.flatten (rememberedName T e.root) id → lookedUpName T e ≠ "" →
      ∀ id', (aggregateRootPlanIndex T chunks).existingAnchorMap.get? ("name:" ++ lookedUpName T e) = some id' →
        id' = id

/-- What is known of characters and of lower case. -/
structure PlainMarks : Prop where
  digit_colon : T.backend.isDigit ':' = false
  alnum_colon : T.isAlnum ':' = false
  digit_space : ∀ c, T.backend.isDigit c = true → isSpace c = false
  /-- Lower case brings no spaces to the ends of a text. -/
  lower_strip : ∀ s, strip (T.backend.unicode.lower (strip s)) = T.backend.unicode.lower (strip s)

/-- Records are numbered from one, and a created record is new. -/
structure Numbered (roots : List RootRow) : Prop where
  pos : ∀ r ∈ roots, ∀ id, r.recordId = some id → 0 < id
  fresh : ∀ r ∈ roots, ∀ r' ∈ roots, ∀ id, r.existingId = some id → r'.createdId ≠ some id

/-- The anchor of a child comes from the parents: neither its row names it, nor, where no existing parent is found by
the keys of the row, do the tables. -/
structure ThroughRoots (chunks : List (List RootRow)) (side : String) (agencyId : ℕ)
    (cache : Option IdentityResolutionCache) (e : ChildEntry) : Prop where
  explicit : ∃ id ≤ 0, AnchorRequest.explicitId
    ⟨side, agencyId, e.data, (aggregateRootPlanIndex T chunks).existingAnchorMap⟩ = some id
  tables : AnchorRequest.localId T ⟨side, agencyId, e.data, (aggregateRootPlanIndex T chunks).existingAnchorMap⟩ =
    none → ∀ answer, resolveChildAnchor T db ⟨side, agencyId, e.data,
      (aggregateRootPlanIndex T chunks).existingAnchorMap⟩ cache = some answer → answer.1 ≤ 0

end Right

/-! ### Keys -/

section Keys

variable {T : MatchTexts} {row : Fields} {k p n : String}

lemma mem_anchorMapKeys : k ∈ anchorMapKeys T row ↔ (rowPhone T row ≠ "" ∧ k = "phone:" ++ rowPhone T row) ∨
      (rememberedName T row ≠ "" ∧ k = "name:" ++ rememberedName T row) := by
  unfold anchorMapKeys
  rw [mem_append]
  by_cases hphone : rowPhone T row = "" <;> by_cases hname : rememberedName T row = "" <;> simp [hphone, hname]

lemma phone_ne_name : "phone:" ++ p ≠ "name:" ++ n := by
  intro heq
  have hlist := congrArg String.toList heq
  rw [String.toList_append, String.toList_append] at hlist
  exact absurd (head_eq_of_cons_eq hlist) (by decide)

lemma phone_mem_anchorMapKeys : "phone:" ++ p ∈ anchorMapKeys T row ↔ p ≠ "" ∧ rowPhone T row = p := by
  rw [mem_anchorMapKeys]
  constructor
  · rintro (⟨hne, heq⟩ | ⟨-, heq⟩)
    · have hphone : p = rowPhone T row := (String.append_right_inj _).mp heq
      rw [hphone]
      exact ⟨hne, Eq.refl _⟩
    · exact absurd heq phone_ne_name
  · intro ⟨hne, hphone⟩
    rw [← hphone] at hne ⊢
    exact .inl ⟨hne, Eq.refl _⟩

lemma name_mem_anchorMapKeys : "name:" ++ n ∈ anchorMapKeys T row ↔ n ≠ "" ∧ rememberedName T row = n := by
  rw [mem_anchorMapKeys]
  constructor
  · rintro (⟨-, heq⟩ | ⟨hne, heq⟩)
    · exact absurd heq.symm phone_ne_name
    · have hname : n = rememberedName T row := (String.append_right_inj _).mp heq
      rw [hname]
      exact ⟨hne, Eq.refl _⟩
  · intro ⟨hne, hname⟩
    rw [← hname] at hne ⊢
    exact .inr ⟨hne, Eq.refl _⟩

lemma colon_mem_of_mem_anchorMapKeys (h : k ∈ anchorMapKeys T row) : ':' ∈ k.toList := by
  rcases mem_anchorMapKeys.mp h with ⟨-, rfl⟩ | ⟨-, rfl⟩ <;> rw [String.toList_append, mem_append]
  · exact .inl (by decide)
  · exact .inl (by decide)

variable (hmarks : PlainMarks T)

include hmarks

variable (row) in
lemma colon_notMem_rowPhone : ':' ∉ (rowPhone T row).toList := by
  intro hmem
  rcases isDigit_of_mem_normalizePhoneForDedup hmem with hzero | hdigit
  · exact absurd hzero (by decide)
  · rw [hmarks.digit_colon] at hdigit
    cases hdigit

lemma colon_notMem_normalizeNameForMatch (v : Json) : ':' ∉ (normalizeNameForMatch T v).toList := by
  intro hmem
  unfold normalizeNameForMatch at hmem
  extract_lets text at hmem
  by_cases htext : text = ""
  · rw [if_pos htext] at hmem
    exact absurd hmem not_mem_nil
  · rw [if_neg htext] at hmem
    rcases mem_intercalate hmem with hspace | ⟨_, hword, hcolon⟩
    · exact absurd hspace (by decide)
    · have hsplit := (mem_filter.mp hword).1
      rw [splitOnAny, List.mem_map] at hsplit
      obtain ⟨_, hpart, rfl⟩ := hsplit
      rw [String.toList_ofList] at hcolon hpart
      obtain ⟨c, -, hc⟩ := mem_map.mp (mem_of_mem_splitOnP hpart hcolon)
      split at hc
      · next halnum =>
        rw [hc, hmarks.alnum_colon] at halnum
        cases halnum
      · exact absurd hc (by decide)

lemma strip_of_mem_anchorMapKeys (h : k ∈ anchorMapKeys T row) : strip k = k ∧ k ≠ "" := by
  have hne : k ≠ "" := by
    rintro rfl
    exact absurd (colon_mem_of_mem_anchorMapKeys h) not_mem_nil
  refine ⟨?_, hne⟩
  rcases mem_anchorMapKeys.mp h with ⟨hphone, rfl⟩ | ⟨hname, rfl⟩
  · have hdigits : strip (rowPhone T row) = rowPhone T row := by
      refine strip_of_no_space fun c hc => ?_
      rcases isDigit_of_mem_normalizePhoneForDedup hc with rfl | hdigit
      · decide
      · exact hmarks.digit_space c hdigit
    exact strip_append (c := 'p') rfl (by decide) hdigits hphone
  · exact strip_append (c := 'n') rfl (by decide) (hmarks.lower_strip _) hname

end Keys

/-! ### The merged maps -/

section Merged

variable {T : MatchTexts} {chunks : List (List RootRow)} {k : String} {id : ℤ}

lemma existingAnchorMap_eq {rows : List RootRow} (hpos : ∀ r ∈ rows, ∀ id, r.recordId = some id → 0 < id) :
    existingAnchorMap T rows = KeyIndex.index (fun r => anchorMapKeys T r.row) RootRow.existingId rows := by
  unfold existingAnchorMap KeyIndex.index
  refine foldl_ext _ _ _ fun anchorMap r hr => ?_
  unfold KeyIndex.enter
  cases hexisting : r.existingId with
  | none => rw [elim_none, elim_none]
  | some id =>
    have hid := hpos r hr id (by rw [RootRow.recordId, hexisting, some_or])
    rw [elim_some, elim_some, rememberAnchor, if_neg (not_le.mpr hid)]

lemma get?_existingAnchorMap (hroots : Numbered chunks.flatten) (k : String) :
    (aggregateRootPlanIndex T chunks).existingAnchorMap.get? k =
      (KeyIndex.indexChunks (fun r => anchorMapKeys T r.row) RootRow.existingId chunks).get? k := by
  have hmap : chunks.map (existingAnchorMap T) =
      chunks.map (KeyIndex.index (fun r => anchorMapKeys T r.row) RootRow.existingId) := by
    refine map_congr_left fun rows hrows => existingAnchorMap_eq fun r hr => ?_
    exact hroots.pos r (mem_flatten.mpr ⟨rows, hrows, hr⟩)
  unfold aggregateRootPlanIndex KeyIndex.indexChunks
  dsimp only
  rw [hmap]

variable (hmarks : PlainMarks T)

include hmarks

lemma mem_plannedRootAnchorKeys : k ∈ (aggregateRootPlanIndex T chunks).plannedRootAnchorKeys ↔
    ∃ r ∈ chunks.flatten, r.createdId ≠ none ∧ k ∈ anchorMapKeys T r.row := by
  unfold aggregateRootPlanIndex plannedRootAnchorKeys
  dsimp only
  rw [mem_sortedSet, List.mem_filter, List.mem_map]
  constructor
  · rintro ⟨⟨_, hkey, rfl⟩, -⟩
    obtain ⟨rows, hrows, hkey⟩ := List.mem_flatMap.mp hkey
    obtain ⟨r, hr, hkey⟩ := List.mem_flatMap.mp (mem_sortedSet.mp hkey)
    obtain ⟨hr, hcreated⟩ := List.mem_filter.mp hr
    rw [(strip_of_mem_anchorMapKeys hmarks hkey).1]
    exact ⟨r, List.mem_flatten.mpr ⟨rows, hrows, hr⟩, Option.isSome_iff_ne_none.mp hcreated, hkey⟩
  · rintro ⟨r, hr, hcreated, hkey⟩
    obtain ⟨rows, hrows, hr⟩ := List.mem_flatten.mp hr
    obtain ⟨hstrip, hne⟩ := strip_of_mem_anchorMapKeys hmarks hkey
    refine ⟨⟨k, List.mem_flatMap.mpr ⟨rows, hrows, mem_sortedSet.mpr ?_⟩, hstrip⟩, decide_eq_true hne⟩
    exact List.mem_flatMap.mpr ⟨r, List.mem_filter.mpr ⟨hr, Option.isSome_iff_ne_none.mpr hcreated⟩, hkey⟩

lemma get?_rootLoadAnchorMap {row : Fields} (hk : k ∈ anchorMapKeys T row) : (rootLoadAnchorMap T chunks).get? k =
    (KeyIndex.indexChunks (fun r => anchorMapKeys T r.row) RootRow.createdId chunks).get? k := by
  obtain ⟨hstrip, hne⟩ := strip_of_mem_anchorMapKeys hmarks hk
  exact Dict.get?_filter (fun key => decide (strip key ≠ "")) _ (by rw [hstrip]; exact decide_eq_true hne)

end Merged

/-- What a key leads to: an existing record, or else a created one. -/
def recordUnder (T : MatchTexts) (chunks : List (List RootRow)) (k : String) : Option ℤ :=
  ((aggregateRootPlanIndex T chunks).existingAnchorMap.get? k).or ((rootLoadAnchorMap T chunks).get? k)

section Records

variable {T : MatchTexts} {chunks : List (List RootRow)} {k : String} {id : ℤ} {r : RootRow}

lemma RootRow.recordId_of_existingId (h : r.existingId = some id) : r.recordId = some id := by
  rw [RootRow.recordId, h, some_or]

lemma RootRow.recordId_of_createdId (h : r.createdId = some id) : r.recordId = some id := by
  unfold RootRow.recordId RootRow.existingId
  unfold RootRow.createdId at h ⊢
  cases hfate : r.fate with
  | existing =>
    rw [hfate] at h
    cases h
  | created =>
    rw [hfate] at h
    exact h
  | dropped =>
    rw [hfate] at h
    cases h

lemma RootRow.recordId_eq_some (h : r.recordId = some id) : r.existingId = some id ∨ r.createdId = some id :=
  (or_eq_some_iff.mp h).imp_right And.right

variable (hroots : Numbered chunks.flatten)

include hroots

lemma exists_of_existingAnchorMap (h : (aggregateRootPlanIndex T chunks).existingAnchorMap.get? k = some id) :
    ∃ r ∈ chunks.flatten, r.existingId = some id ∧ k ∈ anchorMapKeys T r.row := by
  rw [get?_existingAnchorMap hroots] at h
  exact KeyIndex.exists_of_get?_indexChunks h

lemma existingAnchorMap_eq_none_iff : (aggregateRootPlanIndex T chunks).existingAnchorMap.get? k = none ↔
    ∀ r ∈ chunks.flatten, r.existingId ≠ none → k ∉ anchorMapKeys T r.row := by
  rw [get?_existingAnchorMap hroots, KeyIndex.get?_indexChunks_eq_none_iff]
  constructor
  · intro h r hr hexisting
    obtain ⟨id, hid⟩ := ne_none_iff_exists'.mp hexisting
    exact h r hr id hid
  · exact fun h r hr id hid => h r hr (by rw [hid]; exact some_ne_none id)

lemma existing_key_iff : (∃ id, (aggregateRootPlanIndex T chunks).existingAnchorMap.get? k = some id) ↔
    ∃ r ∈ chunks.flatten, r.existingId ≠ none ∧ k ∈ anchorMapKeys T r.row := by
  constructor
  · rintro ⟨id, hid⟩
    obtain ⟨r, hr, hexisting, hkey⟩ := exists_of_existingAnchorMap hroots hid
    exact ⟨r, hr, by rw [hexisting]; exact some_ne_none id, hkey⟩
  · rintro ⟨r, hr, hexisting, hkey⟩
    exact ne_none_iff_exists'.mp fun hnone =>
      (existingAnchorMap_eq_none_iff hroots).mp hnone r hr hexisting hkey

lemma existing_pos (h : (aggregateRootPlanIndex T chunks).existingAnchorMap.get? k = some id) : 0 < id := by
  obtain ⟨r, hr, hexisting, -⟩ := exists_of_existingAnchorMap hroots h
  exact hroots.pos r hr id (RootRow.recordId_of_existingId hexisting)

variable (hmarks : PlainMarks T) {row : Fields}

include hmarks

section

variable (hk : k ∈ anchorMapKeys T row)
include hk

lemma exists_of_recordUnder (h : recordUnder T chunks k = some id) :
    ∃ r ∈ chunks.flatten, r.recordId = some id ∧ k ∈ anchorMapKeys T r.row := by
  rcases or_eq_some_iff.mp h with hexisting | ⟨-, hcreated⟩
  · obtain ⟨r, hr, hid, hkey⟩ := exists_of_existingAnchorMap hroots hexisting
    exact ⟨r, hr, RootRow.recordId_of_existingId hid, hkey⟩
  · rw [get?_rootLoadAnchorMap hmarks hk] at hcreated
    obtain ⟨r, hr, hid, hkey⟩ := KeyIndex.exists_of_get?_indexChunks hcreated
    exact ⟨r, hr, RootRow.recordId_of_createdId hid, hkey⟩

lemma recordUnder_eq_none_iff : recordUnder T chunks k = none ↔
    ∀ r ∈ chunks.flatten, r.recordId ≠ none → k ∉ anchorMapKeys T r.row := by
  constructor
  · intro hnone r hr hrecord hkey
    obtain ⟨hexisting, hcreated⟩ := or_eq_none_iff.mp hnone
    rw [get?_rootLoadAnchorMap hmarks hk, KeyIndex.get?_indexChunks_eq_none_iff] at hcreated
    obtain ⟨id, hid⟩ := ne_none_iff_exists'.mp hrecord
    rcases RootRow.recordId_eq_some hid with hid | hid
    · exact (existingAnchorMap_eq_none_iff hroots).mp hexisting r hr (by rw [hid]; exact some_ne_none id) hkey
    · exact hcreated r hr id hid hkey
  · intro hnone
    cases hget : recordUnder T chunks k with
    | none => rfl
    | some id =>
      obtain ⟨r, hr, hid, hkey⟩ := exists_of_recordUnder hroots hmarks hk hget
      exact absurd hkey (hnone r hr (by rw [hid]; exact some_ne_none id))

lemma recordUnder_pos (h : recordUnder T chunks k = some id) : 0 < id := by
  obtain ⟨r, hr, hid, -⟩ := exists_of_recordUnder hroots hmarks hk h
  exact hroots.pos r hr id hid

end

variable (row) in
lemma loadAnchor_scanRootKeys {keys : List String} (hkeys : ∀ k ∈ keys, k ∈ anchorMapKeys T row) {anchorId : ℤ}
    (hanchor : anchorId ≤ 0) :
    loadAnchor (rootLoadAnchorMap T chunks) (scanRootKeys (aggregateRootPlanIndex T chunks) anchorId keys) =
        (keys.findSome? (recordUnder T chunks)).getD 0 ∧
      ((scanRootKeys (aggregateRootPlanIndex T chunks) anchorId keys).1 ≤ 0 ∧
        (scanRootKeys (aggregateRootPlanIndex T chunks) anchorId keys).2 = "" →
          ∀ k ∈ keys, k ∉ (aggregateRootPlanIndex T chunks).plannedRootAnchorKeys) := by
  induction keys with
  | nil =>
    have hempty : (rootLoadAnchorMap T chunks).get? "" = none := by
      refine Dict.get?_eq_none_iff.mpr fun e he hkey => ?_
      have hne := of_decide_eq_true (mem_filter.mp he).2
      rw [hkey] at hne
      exact hne (by decide)
    refine ⟨?_, fun _ k hk => absurd hk not_mem_nil⟩
    rw [scanRootKeys, loadAnchor, if_neg (not_lt.mpr hanchor), hempty]
    rfl
  | cons key _ ih =>
    have hkey := hkeys key mem_cons_self
    rw [scanRootKeys]
    cases hexisting : (aggregateRootPlanIndex T chunks).existingAnchorMap.get? key with
    | some id =>
      have hpos := existing_pos hroots hexisting
      have hfound : recordUnder T chunks key = some id := by
        rw [recordUnder, hexisting, some_or]
      refine ⟨?_, fun hnone => absurd hnone.1 (not_le.mpr hpos)⟩
      rw [findSome?_cons, hfound]
      exact if_pos hpos
    | none =>
      have hfound : recordUnder T chunks key = (rootLoadAnchorMap T chunks).get? key := by
        rw [recordUnder, hexisting, none_or]
      by_cases hplanned : key ∈ (aggregateRootPlanIndex T chunks).plannedRootAnchorKeys
      · obtain ⟨r, hr, hcreated, hmem⟩ := (mem_plannedRootAnchorKeys hmarks).mp hplanned
        obtain ⟨created, hcreated⟩ := ne_none_iff_exists'.mp hcreated
        have hsome : recordUnder T chunks key ≠ none := fun hnone =>
          (recordUnder_eq_none_iff hroots hmarks hkey).mp hnone r hr
            (by rw [RootRow.recordId_of_createdId hcreated]; exact some_ne_none created) hmem
        obtain ⟨id, hid⟩ := ne_none_iff_exists'.mp hsome
        dsimp only
        rw [if_pos (by simpa using hplanned), findSome?_cons, hid]
        refine ⟨?_, fun hnone => absurd hnone.2 (strip_of_mem_anchorMapKeys hmarks hkey).2⟩
        rw [loadAnchor, if_neg (not_lt.mpr hanchor), ← hfound, hid]
      · have hnone : recordUnder T chunks key = none := by
          rw [hfound, get?_rootLoadAnchorMap hmarks hkey, KeyIndex.get?_indexChunks_eq_none_iff]
          intro r hr id hid hmem
          exact hplanned ((mem_plannedRootAnchorKeys hmarks).mpr ⟨r, hr, by rw [hid]; exact some_ne_none id, hmem⟩)
        obtain ⟨hload, hrest⟩ := ih fun k hk => hkeys k (mem_cons_of_mem key hk)
        dsimp only
        rw [if_neg (by simpa using hplanned), findSome?_cons, hnone]
        refine ⟨hload, fun hscan k hk => ?_⟩
        rcases mem_cons.mp hk with heq | hk
        · rw [heq]
          exact hplanned
        · exact hrest hscan k hk

end Records

/-! ### The anchor of a child -/

section Anchor

variable {T : MatchTexts} {db : IdentityTables} {chunks : List (List RootRow)} {e : ChildEntry} {side : String}
  {agencyId : ℕ} {cache : Option IdentityResolutionCache}

lemma no_identity {data : Fields} (h : ∀ field ∈ identityFields, data.get? field = none) :
    rowPhone T data = "" ∧ rememberedName T data = "" ∧
      normalizeNameForMatch T (fieldOr data "family_name" (fieldOr data "name" (.str ""))) = "" := by
  have hphone : fieldOr data "phone" (.str "") = .str "" := by
    rw [fieldOr, h "phone" (by decide), getD_none]
  have hfamily : ∀ default, fieldOr data "family_name" default = default := fun default => by
    rw [fieldOr, h "family_name" (by decide), getD_none]
  have hname : fieldOr data "name" (.str "") = .str "" := by
    rw [fieldOr, h "name" (by decide), getD_none]
  have hblank : T.textOf (.str "") = "" := rfl
  have hstrip : strip "" = "" := by decide
  refine ⟨?_, ?_, ?_⟩
  · rw [rowPhone, hphone, hblank, normalizePhoneForDedup_empty]
  · rw [rememberedName, hfamily, hname]
    rw [if_neg (by decide), hblank, hstrip, T.backend.lower_empty]
  · rw [hfamily, hname, normalizeNameForMatch, hblank, hstrip, T.backend.lower_empty]
    exact if_pos (Eq.refl _)

lemma ChildEntry.rowPhone_data (e : ChildEntry) : rowPhone T e.data = "" ∨ rowPhone T e.data = rowPhone T e.root := by
  rcases e.carried with habsent | hsame
  · exact .inl (no_identity habsent).1
  · right
    rw [rowPhone, rowPhone, fieldOr, fieldOr, hsame "phone" (by decide)]

lemma ChildEntry.mem_keys_data {k : String} (h : k ∈ anchorMapKeys T e.data) : k ∈ anchorMapKeys T e.root := by
  rcases e.carried with habsent | hsame
  · obtain ⟨hphone, hname, -⟩ := no_identity (T := T) habsent
    rcases mem_anchorMapKeys.mp h with ⟨hne, -⟩ | ⟨hne, -⟩
    · exact absurd hphone hne
    · exact absurd hname hne
  · have hphone : rowPhone T e.data = rowPhone T e.root := by
      rw [rowPhone, rowPhone, fieldOr, fieldOr, hsame "phone" (by decide)]
    have hname : rememberedName T e.data = rememberedName T e.root := by
      rw [rememberedName, rememberedName, fieldOr, fieldOr, fieldOr, fieldOr, hsame "family_name" (by decide),
        hsame "name" (by decide)]
    rwa [mem_anchorMapKeys, hphone, hname, ← mem_anchorMapKeys] at h

lemma findSome?_candidateKeys {f : String → Option ℤ} {p n : String} (hp : f p = none) (hn : f n = none) :
    ((if p = "" then [] else ["phone:" ++ p, p]) ++ if n = "" then [] else ["name:" ++ n, n]).findSome? f =
      (if p = "" then none else f ("phone:" ++ p)).or (if n = "" then none else f ("name:" ++ n)) := by
  have hpair : ∀ k k' : String, f k' = none → [k, k'].findSome? f = f k := fun k k' hk' => by
    rw [findSome?_cons, findSome?_cons, hk']
    cases f k <;> rfl
  rw [findSome?_append]
  by_cases hphone : p = "" <;> by_cases hname : n = ""
  · rw [if_pos hphone, if_pos hname, if_pos hphone, if_pos hname]
    rfl
  · rw [if_pos hphone, if_neg hname, if_pos hphone, if_neg hname, hpair _ _ hn]
    rfl
  · rw [if_neg hphone, if_pos hname, if_neg hphone, if_pos hname, hpair _ _ hp]
    rfl
  · rw [if_neg hphone, if_neg hname, if_neg hphone, if_neg hname, hpair _ _ hp, hpair _ _ hn]

lemma localId_eq (hmarks : PlainMarks T) (hroots : Numbered chunks.flatten) :
    AnchorRequest.localId T ⟨side, agencyId, e.data, (aggregateRootPlanIndex T chunks).existingAnchorMap⟩ =
      (if rowPhone T e.data = "" then none else
        (aggregateRootPlanIndex T chunks).existingAnchorMap.get? ("phone:" ++ rowPhone T e.data)).or
      (if lookedUpName T e = "" then none else
        (aggregateRootPlanIndex T chunks).existingAnchorMap.get? ("name:" ++ lookedUpName T e)) := by
  have hbare : ∀ k : String, ':' ∉ k.toList → (aggregateRootPlanIndex T chunks).existingAnchorMap.get? k = none :=
    fun k hk => (existingAnchorMap_eq_none_iff hroots).mpr fun r _ _ hmem => hk (colon_mem_of_mem_anchorMapKeys hmem)
  have hphone := hbare _ (colon_notMem_rowPhone e.data hmarks)
  have hname := hbare _ (colon_notMem_normalizeNameForMatch hmarks
    (fieldOr e.data "family_name" (fieldOr e.data "name" (.str ""))))
  exact findSome?_candidateKeys hphone hname

/-- The anchor of a child is what its row leads to, or else what the keys of its parent lead to. -/
lemma childAnchor_eq (hmarks : PlainMarks T) (hroots : Numbered chunks.flatten)
    (hthrough : ThroughRoots T db chunks side agencyId cache e) :
    childAnchor T db chunks side agencyId cache e = some (((AnchorRequest.localId T
      ⟨side, agencyId, e.data, (aggregateRootPlanIndex T chunks).existingAnchorMap⟩).or
        ((anchorMapKeys T e.root).findSome? (recordUnder T chunks))).getD 0) := by
  obtain ⟨_, hnonpos, hexplicit⟩ := hthrough.explicit
  have htables := hthrough.tables
  unfold childAnchor planAnchor
  cases hlocal : AnchorRequest.localId T
      ⟨side, agencyId, e.data, (aggregateRootPlanIndex T chunks).existingAnchorMap⟩ with
  | some id =>
    obtain ⟨k, -, hk⟩ := exists_of_findSome?_eq_some hlocal
    have hpos := existing_pos hroots hk
    have hresolved : resolveChildAnchor T db ⟨side, agencyId, e.data,
        (aggregateRootPlanIndex T chunks).existingAnchorMap⟩ cache = some (id, cache) := by
      unfold resolveChildAnchor
      rw [hexplicit, map_some, if_neg (not_lt.mpr hnonpos), hlocal]
    rw [hresolved, map_some, map_some]
    dsimp only
    rw [if_pos hpos, if_neg fun hle => absurd hle.1 (not_le.mpr hpos), some_or, loadAnchor, if_pos hpos]
    rfl
  | none =>
    cases hresolved : resolveChildAnchor T db ⟨side, agencyId, e.data,
        (aggregateRootPlanIndex T chunks).existingAnchorMap⟩ cache with
    | none =>
      unfold resolveChildAnchor at hresolved
      rw [hexplicit, map_some] at hresolved
      cases hresolved
    | some answer =>
      have hle := htables hlocal answer hresolved
      obtain ⟨hload, hscan⟩ := loadAnchor_scanRootKeys hroots hmarks e.root (fun k hk => hk) hle
      rw [map_some, map_some, none_or]
      dsimp only
      rw [if_neg (not_lt.mpr hle)]
      generalize scanRootKeys (aggregateRootPlanIndex T chunks) answer.1 (anchorMapKeys T e.root) = found
        at hload hscan ⊢
      split
      · next hnone =>
        -- what the row of the child has is what the keys of its parent have, so that nothing is planned under it
        have hmatching : matchingAnchorKey T e.data (aggregateRootPlanIndex T chunks).plannedRootAnchorKeys = "" := by
          have hfind : (anchorMapKeys T e.data).find? (fun key =>
              (aggregateRootPlanIndex T chunks).plannedRootAnchorKeys.contains key) = none := by
            refine find?_eq_none.mpr fun k hk hplanned => ?_
            exact hscan hnone k (ChildEntry.mem_keys_data hk) (contains_iff_mem.mp hplanned)
          rw [matchingAnchorKey, hfind, getD_none]
        have hkept : (found.1, "") = found := by
          rw [← hnone.2]
        rw [hmatching, hkept, hload]
      · rw [hload]

end Anchor

/-! ### Who is attached rightly -/

section Main

variable {T : MatchTexts} {chunks : List (List RootRow)} {e : ChildEntry} {side : String} {agencyId : ℕ}

/-- The anchor of a child, from the plan index and the load anchor map. -/
def rootsAnchor (T : MatchTexts) (chunks : List (List RootRow)) (side : String) (agencyId : ℕ) (e : ChildEntry) : ℤ :=
  ((AnchorRequest.localId T ⟨side, agencyId, e.data, (aggregateRootPlanIndex T chunks).existingAnchorMap⟩).or
    ((anchorMapKeys T e.root).findSome? (recordUnder T chunks))).getD 0

lemma rootsAnchor_of_localId {id : ℤ} (h : AnchorRequest.localId T
    ⟨side, agencyId, e.data, (aggregateRootPlanIndex T chunks).existingAnchorMap⟩ = some id) :
    rootsAnchor T chunks side agencyId e = id := by
  rw [rootsAnchor, h, some_or, getD_some]

lemma rootsAnchor_of_localId_none (h : AnchorRequest.localId T
    ⟨side, agencyId, e.data, (aggregateRootPlanIndex T chunks).existingAnchorMap⟩ = none) :
    rootsAnchor T chunks side agencyId e = ((anchorMapKeys T e.root).findSome? (recordUnder T chunks)).getD 0 := by
  rw [rootsAnchor, h, none_or]

variable (hroots : Numbered chunks.flatten) (hmarks : PlainMarks T)

include hroots hmarks

variable (e side agencyId) in
lemma localId_of_name (h : rowPhone T e.data = "" ∨
      (aggregateRootPlanIndex T chunks).existingAnchorMap.get? ("phone:" ++ rowPhone T e.data) = none) :
    AnchorRequest.localId T ⟨side, agencyId, e.data, (aggregateRootPlanIndex T chunks).existingAnchorMap⟩ =
      if lookedUpName T e = "" then none
      else (aggregateRootPlanIndex T chunks).existingAnchorMap.get? ("name:" ++ lookedUpName T e) := by
  rw [localId_eq hmarks hroots]
  split
  · rw [none_or]
  · next hne => rw [h.resolve_left hne, none_or]

lemma rootsAnchor_of_existing_phone {id : ℤ} (hphone : rowPhone T e.root ≠ "")
    (h : (aggregateRootPlanIndex T chunks).existingAnchorMap.get? ("phone:" ++ rowPhone T e.root) = some id) :
    rootsAnchor T chunks side agencyId e = id := by
  rcases e.carried with habsent | hsame
  · obtain ⟨hnophone, -, hnoname⟩ := no_identity (T := T) habsent
    have hlocal := localId_of_name e side agencyId hroots hmarks (.inl hnophone)
    rw [lookedUpName, if_pos hnoname] at hlocal
    rw [rootsAnchor_of_localId_none hlocal, anchorMapKeys, if_neg hphone, singleton_append, findSome?_cons,
      recordUnder, h, some_or]
    rfl
  · have hdata : rowPhone T e.data = rowPhone T e.root := by
      rw [rowPhone, rowPhone, fieldOr, fieldOr, hsame "phone" (by decide)]
    refine rootsAnchor_of_localId ?_
    rw [localId_eq hmarks hroots, hdata, if_neg hphone, h, some_or]

lemma phone_iff (hphone : rowPhone T e.root ≠ "") : (0 < rootsAnchor T chunks side agencyId e →
      ∃ r ∈ chunks.flatten, r.recordId = some (rootsAnchor T chunks side agencyId e) ∧
        rowPhone T r.row = rowPhone T e.root) ↔
      ((∃ r ∈ chunks.flatten, r.existingId ≠ none ∧ rowPhone T r.row = rowPhone T e.root) ∨
        (¬NameExists T chunks.flatten e ∧
          ((∃ r ∈ chunks.flatten, r.createdId ≠ none ∧ rowPhone T r.row = rowPhone T e.root) ∨
            rememberedName T e.root = "" ∨ ∀ id, ¬Named T chunks.flatten (rememberedName T e.root) id))) := by
  have hkey : "phone:" ++ rowPhone T e.root ∈ anchorMapKeys T e.root :=
    phone_mem_anchorMapKeys.mpr ⟨hphone, Eq.refl _⟩
  by_cases hexisting : ∃ r ∈ chunks.flatten, r.existingId ≠ none ∧ rowPhone T r.row = rowPhone T e.root
  · -- found by the phone, in the row or in the keys of the parent
    obtain ⟨r, hr, hrecord, hrow⟩ := hexisting
    obtain ⟨id, hid⟩ := (existing_key_iff (T := T) hroots).mpr
      ⟨r, hr, hrecord, phone_mem_anchorMapKeys.mpr ⟨hphone, hrow⟩⟩
    obtain ⟨r', hr', hexisting', hkey'⟩ := exists_of_existingAnchorMap hroots hid
    rw [rootsAnchor_of_existing_phone hroots hmarks hphone hid]
    exact iff_of_true (fun _ => ⟨r', hr', RootRow.recordId_of_existingId hexisting',
      (phone_mem_anchorMapKeys.mp hkey').2⟩) (.inl ⟨r, hr, hrecord, hrow⟩)
  · have hnophone :
        (aggregateRootPlanIndex T chunks).existingAnchorMap.get? ("phone:" ++ rowPhone T e.root) = none := by
      refine (existingAnchorMap_eq_none_iff hroots).mpr fun r hr hrecord hmem => ?_
      exact hexisting ⟨r, hr, hrecord, (phone_mem_anchorMapKeys.mp hmem).2⟩
    have hlocal := localId_of_name e side agencyId hroots hmarks
      ((e.rowPhone_data (T := T)).imp_right fun heq => by rw [heq]; exact hnophone)
    rw [or_iff_right hexisting]
    by_cases hname : NameExists T chunks.flatten e
    · -- an existing parent of that name is taken
      obtain ⟨hne, r, hr, hrecord, hrow⟩ := hname
      obtain ⟨id, hid⟩ := (existing_key_iff (T := T) hroots).mpr
        ⟨r, hr, hrecord, name_mem_anchorMapKeys.mpr ⟨hne, hrow⟩⟩
      rw [if_neg hne, hid] at hlocal
      rw [rootsAnchor_of_localId hlocal]
      refine iff_of_false (fun hclaim => ?_) fun hclear => hclear.1 ⟨hne, r, hr, hrecord, hrow⟩
      obtain ⟨r', hr', hrecord', hphone'⟩ := hclaim (existing_pos hroots hid)
      rcases RootRow.recordId_eq_some hrecord' with hexisting' | hcreated
      · exact hexisting ⟨r', hr', by rw [hexisting']; exact some_ne_none id, hphone'⟩
      · obtain ⟨r'', hr'', hexisting'', -⟩ := exists_of_existingAnchorMap hroots hid
        exact hroots.fresh r'' hr'' r' hr' id hexisting'' hcreated
    · have hnone : AnchorRequest.localId T
          ⟨side, agencyId, e.data, (aggregateRootPlanIndex T chunks).existingAnchorMap⟩ = none := by
        rw [hlocal]
        split
        · rfl
        · next hne =>
          refine (existingAnchorMap_eq_none_iff hroots).mpr fun r hr hrecord hmem => ?_
          exact hname ⟨hne, r, hr, hrecord, (name_mem_anchorMapKeys.mp hmem).2⟩
      rw [rootsAnchor_of_localId_none hnone, and_iff_right hname, anchorMapKeys, if_neg hphone, singleton_append,
        findSome?_cons]
      cases hfound : recordUnder T chunks ("phone:" ++ rowPhone T e.root) with
      | some id =>
        -- a created parent has the phone
        obtain ⟨r, hr, hrecord, hmem⟩ := exists_of_recordUnder hroots hmarks hkey hfound
        have hrow := (phone_mem_anchorMapKeys.mp hmem).2
        have hcreated : r.createdId = some id := (RootRow.recordId_eq_some hrecord).resolve_left fun h =>
          hexisting ⟨r, hr, by rw [h]; exact some_ne_none id, hrow⟩
        exact iff_of_true (fun _ => ⟨r, hr, hrecord, hrow⟩)
          (.inl ⟨r, hr, by rw [hcreated]; exact some_ne_none id, hrow⟩)
      | none =>
        have hnobody : ∀ r ∈ chunks.flatten, r.recordId ≠ none → rowPhone T r.row ≠ rowPhone T e.root :=
          fun r hr hrecord hrow => (recordUnder_eq_none_iff hroots hmarks hkey).mp hfound r hr hrecord
            (phone_mem_anchorMapKeys.mpr ⟨hphone, hrow⟩)
        have hnocreated : ¬∃ r ∈ chunks.flatten, r.createdId ≠ none ∧ rowPhone T r.row = rowPhone T e.root := by
          rintro ⟨r, hr, hcreated, hrow⟩
          obtain ⟨id, hid⟩ := ne_none_iff_exists'.mp hcreated
          exact hnobody r hr (by rw [RootRow.recordId_of_createdId hid]; exact some_ne_none id) hrow
        rw [or_iff_right hnocreated]
        dsimp only
        by_cases hblank : rememberedName T e.root = ""
        · rw [if_pos hblank]
          exact iff_of_true (fun hpos => absurd hpos (lt_irrefl 0)) (.inl hblank)
        · rw [if_neg hblank, or_iff_right hblank, findSome?_cons]
          have hnamekey : "name:" ++ rememberedName T e.root ∈ anchorMapKeys T e.root :=
            name_mem_anchorMapKeys.mpr ⟨hblank, Eq.refl _⟩
          cases hnamed : recordUnder T chunks ("name:" ++ rememberedName T e.root) with
          | some id =>
            -- a parent with the name and another phone is taken
            obtain ⟨r, hr, hrecord, hmem⟩ := exists_of_recordUnder hroots hmarks hnamekey hnamed
            refine iff_of_false (fun hclaim => ?_) fun hnone =>
              hnone id ⟨r, hr, hrecord, (name_mem_anchorMapKeys.mp hmem).2⟩
            obtain ⟨r', hr', hrecord', hrow'⟩ := hclaim (recordUnder_pos hroots hmarks hnamekey hnamed)
            exact hnobody r' hr' (by rw [hrecord']; exact some_ne_none _) hrow'
          | none =>
            refine iff_of_true (fun hpos => absurd hpos (lt_irrefl 0)) fun id => ?_
            rintro ⟨r, hr, hrecord, hrow⟩
            exact (recordUnder_eq_none_iff hroots hmarks hnamekey).mp hnamed r hr
              (by rw [hrecord]; exact some_ne_none id) (name_mem_anchorMapKeys.mpr ⟨hblank, hrow⟩)

/-- A child with a name only gets what its name leads to, without punctuation or as it is spelled. -/
lemma rootsAnchor_of_no_phone (hphone : rowPhone T e.root = "") (hname : rememberedName T e.root ≠ "") :
    rootsAnchor T chunks side agencyId e = ((if lookedUpName T e = "" then none
      else (aggregateRootPlanIndex T chunks).existingAnchorMap.get? ("name:" ++ lookedUpName T e)).or
        (recordUnder T chunks ("name:" ++ rememberedName T e.root))).getD 0 := by
  have hdata : rowPhone T e.data = "" := (e.rowPhone_data (T := T)).elim id fun heq => heq.trans hphone
  rw [rootsAnchor, localId_of_name _ _ _ hroots hmarks (.inl hdata), anchorMapKeys, if_pos hphone, if_neg hname,
    nil_append, findSome?_cons]
  cases recordUnder T chunks ("name:" ++ rememberedName T e.root) <;> rfl

/-- A child with a name only: it gets the one parent of this name, and none of several, exactly if there are no several
and the name without punctuation does not lead elsewhere. -/
lemma name_iff (hphone : rowPhone T e.root = "") (hname : rememberedName T e.root ≠ "") :
    ((∀ id, (∀ id', Named T chunks.flatten (rememberedName T e.root) id' ↔ id' = id) →
        rootsAnchor T chunks side agencyId e = id) ∧
      ∀ id id', id ≠ id' → Named T chunks.flatten (rememberedName T e.root) id →
        Named T chunks.flatten (rememberedName T e.root) id' → rootsAnchor T chunks side agencyId e ≤ 0) ↔
      ((∀ id id', Named T chunks.flatten (rememberedName T e.root) id →
          Named T chunks.flatten (rememberedName T e.root) id' → id = id') ∧
        ∀ id, Named T chunks.flatten (rememberedName T e.root) id → lookedUpName T e ≠ "" →
          ∀ id', (aggregateRootPlanIndex T chunks).existingAnchorMap.get? ("name:" ++ lookedUpName T e) = some id' →
            id' = id) := by
  have hkey : "name:" ++ rememberedName T e.root ∈ anchorMapKeys T e.root :=
    name_mem_anchorMapKeys.mpr ⟨hname, Eq.refl _⟩
  rw [rootsAnchor_of_no_phone hroots hmarks hphone hname]
  -- a child whose name is that of a parent gets an anchor
  have hfound : ∀ id, Named T chunks.flatten (rememberedName T e.root) id →
      ∃ id', recordUnder T chunks ("name:" ++ rememberedName T e.root) = some id' ∧
        Named T chunks.flatten (rememberedName T e.root) id' := by
    rintro id ⟨r, hr, hrecord, hrow⟩
    obtain ⟨id', hid'⟩ := ne_none_iff_exists'.mp fun hnone =>
      (recordUnder_eq_none_iff hroots hmarks hkey).mp hnone r hr (by rw [hrecord]; exact some_ne_none id)
        (name_mem_anchorMapKeys.mpr ⟨hname, hrow⟩)
    obtain ⟨r', hr', hrecord', hmem⟩ := exists_of_recordUnder hroots hmarks hkey hid'
    exact ⟨id', hid', r', hr', hrecord', (name_mem_anchorMapKeys.mp hmem).2⟩
  constructor
  · rintro ⟨hone, hseveral⟩
    have hunique : ∀ id id', Named T chunks.flatten (rememberedName T e.root) id →
        Named T chunks.flatten (rememberedName T e.root) id' → id = id' := by
      intro id id' hid hid'
      by_contra hne
      have hle := hseveral id id' hne hid hid'
      obtain ⟨found, hrecord, -⟩ := hfound id hid
      have hpos := recordUnder_pos hroots hmarks hkey hrecord
      rw [hrecord] at hle
      by_cases hlooked : lookedUpName T e = ""
      · rw [if_pos hlooked, none_or, getD_some] at hle
        omega
      · rw [if_neg hlooked] at hle
        cases hget : (aggregateRootPlanIndex T chunks).existingAnchorMap.get? ("name:" ++ lookedUpName T e) with
        | none =>
          rw [hget, none_or, getD_some] at hle
          omega
        | some =>
          have hother := existing_pos hroots hget
          rw [hget, some_or, getD_some] at hle
          omega
    refine ⟨hunique, fun id hid hlooked other hget => ?_⟩
    have hanchor := hone id fun id' => ⟨fun hid' => hunique id' id hid' hid, fun heq => by rw [heq]; exact hid⟩
    rw [if_neg hlooked, hget, some_or, getD_some] at hanchor
    exact hanchor
  · rintro ⟨hunique, hspelled⟩
    refine ⟨fun id hid => ?_, fun id id' hne hid hid' => absurd (hunique id id' hid hid') hne⟩
    have hnamed : Named T chunks.flatten (rememberedName T e.root) id := (hid id).mpr rfl
    obtain ⟨found, hrecord, hfound⟩ := hfound id hnamed
    rw [hrecord, (hid found).mp hfound]
    by_cases hlooked : lookedUpName T e = ""
    · rw [if_pos hlooked, none_or, getD_some]
    · rw [if_neg hlooked]
      cases hget : (aggregateRootPlanIndex T chunks).existingAnchorMap.get? ("name:" ++ lookedUpName T e) with
      | none => rw [none_or, getD_some]
      | some other =>
        rw [some_or, getD_some]
        exact hspelled id hnamed hlooked other hget

end Main

/-- For every list of parents over any chunks and every child whose anchor comes from them: the child is attached
rightly if and only if its name is not taken for its phone, and belongs to one parent. -/
theorem childAnchor_iff (T : MatchTexts) (db : IdentityTables) (hmarks : PlainMarks T) (chunks : List (List RootRow))
    (hroots : Numbered chunks.flatten) (side : String) (agencyId : ℕ) (cache : Option IdentityResolutionCache)
    (e : ChildEntry) (hthrough : ThroughRoots T db chunks side agencyId cache e) :
    ∃ anchor, childAnchor T db chunks side agencyId cache e = some anchor ∧
      (AttachedRightly T chunks.flatten e anchor ↔ ParentClear T chunks e) := by
  refine ⟨rootsAnchor T chunks side agencyId e, childAnchor_eq hmarks hroots hthrough, ?_⟩
  constructor
  · intro hright
    refine ⟨fun hphone => (phone_iff hroots hmarks hphone).mp (hright.phone hphone), fun hphone hname => ?_,
      fun hphone hname => ?_⟩
    · exact ((name_iff hroots hmarks hphone hname).mp ⟨hright.one hphone hname, hright.several hphone hname⟩).1
    · exact ((name_iff hroots hmarks hphone hname).mp ⟨hright.one hphone hname, hright.several hphone hname⟩).2
  · intro hclear
    refine ⟨fun hphone => (phone_iff hroots hmarks hphone).mpr (hclear.phone hphone), fun hphone hname => ?_,
      fun hphone hname => ?_⟩
    · exact ((name_iff hroots hmarks hphone hname).mpr ⟨hclear.unique hphone hname, hclear.spelled hphone hname⟩).1
    · exact ((name_iff hroots hmarks hphone hname).mpr ⟨hclear.unique hphone hname, hclear.spelled hphone hname⟩).2

/-! ### Two parents of one name -/

lemma plainMarks_plainTexts : PlainMarks plainTexts :=
  ⟨rfl, rfl, fun _ hc => isSpace_of_isDigit hc, fun s => strip_strip s⟩

def familyRow (phone name : String) : Fields := [("phone", .str phone), ("family_name", .str name)]

def childOf (root : Fields) : ChildEntry := ⟨root, [("action", .str "buy")], Or.inl (by decide)⟩

def oneDropped : List (List RootRow) :=
  [[⟨familyRow "021234567" "ali", .dropped⟩, ⟨familyRow "021234568" "ali", .created 2⟩]]

def twoCreated : List (List RootRow) :=
  [[⟨familyRow "021234567" "ali", .created 2⟩], [⟨familyRow "021234568" "ali", .created 3⟩]]

lemma throughRoots_childOf (chunks : List (List RootRow)) (root : Fields) :
    ThroughRoots plainTexts aliOnly chunks "client_side" 1 none (childOf root) where
  explicit := by
    generalize (aggregateRootPlanIndex plainTexts chunks).existingAnchorMap = known
    exact ⟨0, le_refl 0, Eq.refl (some 0)⟩
  tables := by
    generalize (aggregateRootPlanIndex plainTexts chunks).existingAnchorMap = known
    intro hlocal answer hanswer
    have hexplicit : AnchorRequest.explicitId ⟨"client_side", 1, (childOf root).data, known⟩ = some 0 := rfl
    have hphone : rowPhone plainTexts [("action", .str "buy")] = "" := by decide
    unfold resolveChildAnchor at hanswer
    rw [hlocal, hexplicit, map_some, if_neg (lt_irrefl 0), resolveRootMatches, childOf, hphone] at hanswer
    rw [← some.inj hanswer]
    dsimp only
    rw [if_pos (Eq.refl "")]
    decide

/-- `childAnchor_iff` for the child of the created parent. -/
theorem childAnchor_iff_created : ∃ anchor, childAnchor plainTexts aliOnly oneDropped "client_side" 1 none
      (childOf (familyRow "021234568" "ali")) = some anchor ∧
    (AttachedRightly plainTexts oneDropped.flatten (childOf (familyRow "021234568" "ali")) anchor ↔
      ParentClear plainTexts oneDropped (childOf (familyRow "021234568" "ali"))) :=
  childAnchor_iff plainTexts aliOnly plainMarks_plainTexts oneDropped ⟨by decide, by decide⟩ "client_side" 1 none _
    (throughRoots_childOf _ _)

/-- The child of the parent that went to the review gets the other one, with another phone; and a child without a
phone gets the second of the two parents that have its name. -/
theorem name_taken :
    childAnchor plainTexts aliOnly oneDropped "client_side" 1 none (childOf (familyRow "021234567" "ali")) = some 2 ∧
      ¬AttachedRightly plainTexts oneDropped.flatten (childOf (familyRow "021234567" "ali")) 2 ∧
      childAnchor plainTexts aliOnly twoCreated "client_side" 1 none (childOf [("family_name", .str "ali")]) = some 3 ∧
      ¬AttachedRightly plainTexts twoCreated.flatten (childOf [("family_name", .str "ali")]) 3 := by
  refine ⟨?_, fun hright => ?_, ?_, fun hright => ?_⟩
  · decide
  · obtain ⟨r, hr, hrecord, hphone⟩ := hright.phone (by decide) (by decide)
    have hnobody : ∀ r ∈ oneDropped.flatten, r.recordId = some 2 →
        rowPhone plainTexts r.row ≠ rowPhone plainTexts (familyRow "021234567" "ali") := by decide
    exact hnobody r hr hrecord hphone
  · decide
  · have hle := hright.several (by decide) (by decide) 2 3 (by decide)
      ⟨⟨familyRow "021234567" "ali", .created 2⟩, by simp [twoCreated], rfl, rfl⟩
      ⟨⟨familyRow "021234568" "ali", .created 3⟩, by simp [twoCreated], rfl, rfl⟩
    exact absurd hle (by decide)

end ImmoApp.Imports
