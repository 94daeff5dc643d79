import ImmoApp.Foundation.Dict
import ImmoApp.Normalizers.Phone
import Mathlib.Algebra.Order.Ring.Unbundled.Rat
import Mathlib.Data.List.Perm.Basic

/-!
# Normalizing a row

`normalize_row` goes through the columns of a row and routes each value to a normalizer.  Some of what a normalizer
finds besides its value goes into the row as well, unless two columns disagree about it.  None of this depends on the
order of the columns, since what is known of an extra key does not depend on the order of the values offered for it.
-/

namespace ImmoApp.Normalizers

open List
open Option hiding or_assoc

/-- `RowContext`; the row is a mapping from its columns. -/
structure RowContext (V : Type) where
  wilayaHint : Option (List Char)
  actionHint : Option (List Char)
  typeHint : Option (List Char)
  rowData : String → Option (List Char)
  metadata : Dict String V

structure ReviewField (V : Type) where
  fieldName : String
  originalValue : List Char
  normalizedValue : Option V
  confidence : ℚ
  remark : List Char

structure ExtraConflict (V : Type) where
  key : String
  firstField : String
  firstValue : V
  secondField : String
  secondValue : V

/-- `NormalizedRow`, with the sources of the extras and the conflicted keys. -/
structure NormalizedRow (V : Type) where
  data : Dict String (Option V) := []
  confidence : ℚ := 1
  needsReview : Bool := false
  reviewFields : List (ReviewField V) := []
  remarks : List (List Char) := []
  extras : Dict String V := []
  extraConflicts : List (ExtraConflict V) := []
  fieldResults : Dict String (NormalizeResult V (Dict String V)) := []
  extraSources : Dict String (String × V) := []
  conflicted : List String := []

/-- The configuration, the normalizers by the type of a column, and how values are written. -/
structure NormalizationPipeline (ρ V : Type) where
  table : CharTable
  columnTypes : Dict String String
  fieldMetadata : Dict String (Dict String V)
  normalizeField : String → List Char → String → RowContext V → NormalizeResult V (Dict String V)
  str : ρ → List Char
  truthy : ρ → Bool
  ofText : String → V
  repr : V → List Char
  strValue : Option V → List Char
  percent : ℚ → List Char

def mergeableExtraKeys : List String := ["beds", "surface_min", "surface_max", "floor_min", "floor_max"]

def reviewThreshold : ℚ := 85 / 100

section Digits

variable (t : CharTable)

def moreDigits : ℕ → List Char → Option ℕ
  | n, [] => some n
  | n, '_' :: c :: s => (t.digit? c).bind fun d => moreDigits (10 * n + d) s
  | n, c :: s => (t.digit? c).bind fun d => moreDigits (10 * n + d) s

/-- `int(·)` of a text without white space around it. -/
def intOf? (s : List Char) : Option ℤ :=
  let digits (s : List Char) : Option ℕ := s.head?.bind fun c => (t.digit? c).bind fun d => moreDigits t d s.tail
  match s with
  | '-' :: s => (digits s).map fun n => -(n : ℤ)
  | '+' :: s => (digits s).map fun n => (n : ℤ)
  | s => (digits s).map fun n => (n : ℤ)

end Digits

section Row

variable {ρ V : Type} [DecidableEq V] (P : NormalizationPipeline ρ V)

namespace NormalizationPipeline

def columnType (field : String) : String := (P.columnTypes.get? field).getD "unknown"

/-- The last column of a type with a value that can be read. -/
def hint (row : Dict String (Option ρ)) (columnType : String) (read : List Char → Option (List Char)) :
    Option (List Char) :=
  (row.filterMap fun f => if P.columnType f.1 = columnType then
    (f.2.filter P.truthy).bind fun v => read (trimBy isSpace (P.str v)) else none).getLast?

def buildContext (row : Dict String (Option ρ)) : RowContext V where
  wilayaHint := P.hint row "wilaya" fun s => (intOf? P.table s).bind fun code =>
    if 1 ≤ code ∧ code ≤ 58 then some ((if code < 10 then ['0'] else []) ++ (toString code).toList) else none
  actionHint := P.hint row "action" fun s => some (P.table.lowerText [] s)
  typeHint := P.hint row "type" fun s => some (P.table.lowerText [] s)
  rowData key := (row.get? key).join.map P.str
  metadata := []

def contextOf (context : Option (RowContext V)) (row : Dict String (Option ρ)) : RowContext V :=
  context.getD (P.buildContext row)

def contextForField (context : RowContext V) (field : String) : RowContext V :=
  { context with
    metadata := ((context.metadata.update ((P.fieldMetadata.get? field).getD [])).set "field_name" (P.ofText field)).set
      "column_type" (P.ofText (P.columnType field)) }

/-- The text of a value, without white space around it. -/
def rawText (v : Option ρ) : List Char := (v.map fun v => trimBy isSpace (P.str v)).getD []

/-- The result for a column, if its value is not blank. -/
def resultOf (context : RowContext V) (f : String × Option ρ) : Option (NormalizeResult V (Dict String V)) :=
  if P.rawText f.2 = [] then none
  else some (P.normalizeField f.1 (P.rawText f.2) (P.columnType f.1) (P.contextForField context f.1))

def conflictRemark (key firstField : String) (firstValue : V) (field : String) (value : V) : List Char :=
  "Conflicting extracted value for ".toList ++ key.toList ++ ": ".toList ++
    (if firstField = "" then "unknown" else firstField).toList ++ '=' :: P.repr firstValue ++ " vs ".toList ++
    field.toList ++ '=' :: P.repr value

def addExtra (field : String) (raw : List Char) (result : NormalizeResult V (Dict String V)) (s : NormalizedRow V)
    (extra : String × V) : NormalizedRow V :=
  if extra.1 ∉ mergeableExtraKeys ∨ extra.1 ∈ s.conflicted then s
  else
    match s.extras.get? extra.1 with
    | none => { s with
        extras := s.extras.set extra.1 extra.2
        extraSources := s.extraSources.set extra.1 (field, extra.2) }
    | some first =>
      if first = extra.2 then s
      else
        let source := (s.extraSources.get? extra.1).getD ("", first)
        let remark := P.conflictRemark extra.1 source.1 source.2 field extra.2
        { s with
          extras := s.extras.erase extra.1
          extraSources := s.extraSources.erase extra.1
          conflicted := s.conflicted ++ [extra.1]
          needsReview := true
          extraConflicts := s.extraConflicts ++ [⟨extra.1, source.1, source.2, field, extra.2⟩]
          remarks := s.remarks ++ [remark]
          reviewFields := s.reviewFields ++ [⟨field, raw, result.value, min result.confidence (1 / 2), remark⟩] }

def remarkOf (result : NormalizeResult V (Dict String V)) : Option (List Char) := result.toRemarks.filter (· ≠ [])

/-- A result that is to be looked at. -/
def doubtful (result : NormalizeResult V (Dict String V)) : Bool :=
  result.needsReview || decide (result.confidence < reviewThreshold)

def addField (context : RowContext V) (s : NormalizedRow V) (f : String × Option ρ) : NormalizedRow V :=
  match P.resultOf context f with
  | none => { s with data := s.data.set f.1 none }
  | some result =>
    let s := (result.extractedExtras.getD []).foldl (P.addExtra f.1 (P.rawText f.2) result)
      { s with
        fieldResults := s.fieldResults.set f.1 result
        data := s.data.set f.1 result.value
        confidence := min s.confidence result.confidence }
    { s with
      remarks := s.remarks ++ (remarkOf result).toList
      needsReview := s.needsReview || doubtful result
      reviewFields := s.reviewFields ++ if doubtful result then
        [⟨f.1, P.rawText f.2, result.value, result.confidence,
          (remarkOf result).getD ("Low confidence: ".toList ++ P.percent result.confidence)⟩] else [] }

def mergeExtra (s : NormalizedRow V) (extra : String × V) : NormalizedRow V :=
  match s.data.get? extra.1 with
  | none => { s with data := s.data.set extra.1 (some extra.2) }
  | some v =>
    if v = some extra.2 then s
    else { s with remarks := s.remarks ++ ["Extracted ".toList ++ extra.1.toList ++ '=' :: P.strValue (some extra.2) ++
      " from normalizer but explicit column has ".toList ++ extra.1.toList ++ '=' :: P.strValue v] }

def normalizeRow (context : Option (RowContext V)) (row : Dict String (Option ρ)) : NormalizedRow V :=
  let s := row.foldl (P.addField (P.contextOf context row)) {}
  s.extras.foldl P.mergeExtra s

end NormalizationPipeline

/-- The same row, but for the order of remarks, conflicts and fields to review. -/
structure NormalizedRow.Same (r r' : NormalizedRow V) : Prop where
  data : ∀ key, r.data.get? key = r'.data.get? key
  confidence : r.confidence = r'.confidence
  needsReview : r.needsReview = r'.needsReview
  fieldResults : ∀ field, r.fieldResults.get? field = r'.fieldResults.get? field
  extras : ∀ key, r.extras.get? key = r'.extras.get? key
  conflicted : ∀ key, key ∈ r.conflicted ↔ key ∈ r'.conflicted

/-! ### Extra keys -/

/-- What is known of an extra key: nothing, its value, or that two values were offered. -/
def NormalizedRow.slot (s : NormalizedRow V) (key : String) : Option (Option V) :=
  if key ∈ s.conflicted then some none else (s.extras.get? key).map some

/-- One more value is offered. -/
def offer : Option (Option V) → V → Option (Option V)
  | none, v => some (some v)
  | some (some w), v => if w = v then some (some w) else some none
  | some none, _ => some none

instance : RightCommutative (offer (V := V)) where
  right_comm known v w := by
    rcases known with _ | _ | u <;> simp only [offer] <;> split_ifs <;> simp_all

/-- The values that a result offers for a key. -/
def offersOf (key : String) (result : NormalizeResult V (Dict String V)) : List V :=
  ((result.extractedExtras.getD []).filter fun e => e.1 = key ∧ key ∈ mergeableExtraKeys).map Prod.snd

variable {P : NormalizationPipeline ρ V} {s : NormalizedRow V}

variable (field : String) (raw : List Char) (result : NormalizeResult V (Dict String V)) (extra : String × V)
    (extras : Dict String V)

lemma slot_addExtra (key : String) : (P.addExtra field raw result s extra).slot key =
      if extra.1 = key ∧ key ∈ mergeableExtraKeys then offer (s.slot key) extra.2 else s.slot key := by
  obtain ⟨key', v⟩ := extra
  unfold NormalizationPipeline.addExtra
  dsimp only
  by_cases hskip : key' ∉ mergeableExtraKeys ∨ key' ∈ s.conflicted
  · rw [if_pos hskip]
    split_ifs with hkey
    · obtain ⟨rfl, hmergeable⟩ := hkey
      rw [NormalizedRow.slot, if_pos (hskip.resolve_left (not_not_intro hmergeable)), offer]
    · rfl
  · rw [if_neg hskip]
    obtain ⟨hmergeable, hconflicted⟩ := not_or.mp hskip
    rw [not_not] at hmergeable
    by_cases hkey : key' = key
    · subst hkey
      rw [if_pos (And.intro rfl hmergeable)]
      cases hget : s.extras.get? key' with
      | none => simp [NormalizedRow.slot, hconflicted, hget, offer]
      | some first => by_cases hsame : first = v <;> simp [NormalizedRow.slot, hconflicted, hget, offer, hsame]
    · rw [if_neg (mt And.left hkey)]
      cases hget : s.extras.get? key' with
      | none => simp [NormalizedRow.slot, Ne.symm hkey]
      | some first => by_cases hsame : first = v <;> simp [NormalizedRow.slot, hsame, Dict.get?_erase, Ne.symm hkey]

/-- A review is asked for where a result is doubtful, or by a conflict. -/
def NormalizedRow.Asks (s : NormalizedRow V) (doubts : Prop) : Prop :=
  s.needsReview = true ↔ doubts ∨ s.conflicted ≠ []

/-- A conflicted key has no value. -/
def NormalizedRow.Apart (s : NormalizedRow V) : Prop := ∀ key ∈ s.conflicted, s.extras.get? key = none

/-- What an extra leaves as it is. -/
structure Kept (s s' : NormalizedRow V) : Prop where
  data : s'.data = s.data
  confidence : s'.confidence = s.confidence
  fieldResults : s'.fieldResults = s.fieldResults
  asks : ∀ doubts, s.Asks doubts → s'.Asks doubts
  apart : s.Apart → s'.Apart

lemma kept_addExtra : Kept s (P.addExtra field raw result s extra) := by
  unfold NormalizationPipeline.addExtra
  split_ifs with hskip
  · exact ⟨rfl, rfl, rfl, fun _ hs => hs, id⟩
  · split
    · refine ⟨rfl, rfl, rfl, fun _ hs => hs, fun hs key hkey => ?_⟩
      have hother : key ≠ extra.1 := fun heq => hskip (.inr (heq ▸ hkey))
      simpa [hother] using hs key hkey
    · split_ifs
      · exact ⟨rfl, rfl, rfl, fun _ hs => hs, id⟩
      · refine ⟨rfl, rfl, rfl, fun _ _ => iff_of_true rfl (.inr (by simp)), fun hs key hkey => ?_⟩
        rw [Dict.get?_erase]
        split_ifs with heq
        · rfl
        · exact hs key ((mem_append.mp hkey).resolve_right (by simpa using heq))

lemma addExtras_spec (s : NormalizedRow V) : Kept s (extras.foldl (P.addExtra field raw result) s) ∧
      ∀ key, (extras.foldl (P.addExtra field raw result) s).slot key =
        ((extras.filter fun e => e.1 = key ∧ key ∈ mergeableExtraKeys).map Prod.snd).foldl offer (s.slot key) := by
  induction extras generalizing s with
  | nil => exact ⟨⟨rfl, rfl, rfl, fun _ hs => hs, id⟩, fun _ => rfl⟩
  | cons extra _ ih =>
    have hfirst := kept_addExtra (P := P) (s := s) field raw result extra
    obtain ⟨hrest, hslot⟩ := ih (P.addExtra field raw result s extra)
    refine ⟨⟨hrest.data.trans hfirst.data, hrest.confidence.trans hfirst.confidence,
      hrest.fieldResults.trans hfirst.fieldResults, fun doubts hs => hrest.asks doubts (hfirst.asks doubts hs),
      hrest.apart ∘ hfirst.apart⟩, fun key => ?_⟩
    rw [foldl_cons, hslot, slot_addExtra, filter_cons]
    by_cases hkey : extra.1 = key ∧ key ∈ mergeableExtraKeys
    · rw [if_pos hkey, if_pos (decide_eq_true hkey)]
      rfl
    · rw [if_neg hkey, if_neg (by simpa using hkey)]

/-! ### Columns -/

/-- What a run over columns has done. -/
structure Went (P : NormalizationPipeline ρ V) (context : RowContext V) (row : Dict String (Option ρ))
    (s s' : NormalizedRow V) : Prop where
  data : s'.data = (row.map fun f => (f.1, (P.resultOf context f).bind NormalizeResult.value)).foldl
    (fun d e => d.set e.1 e.2) s.data
  fieldResults : s'.fieldResults = (row.filterMap fun f => (P.resultOf context f).map (f.1, ·)).foldl
    (fun d e => d.set e.1 e.2) s.fieldResults
  confidence : s'.confidence = ((row.filterMap (P.resultOf context)).map NormalizeResult.confidence).foldl min s.confidence
  slot : ∀ key, s'.slot key = ((row.filterMap (P.resultOf context)).flatMap (offersOf key)).foldl offer (s.slot key)
  asks : ∀ doubts, s.Asks doubts → s'.Asks (doubts ∨ ∃ result ∈ row.filterMap (P.resultOf context),
    NormalizationPipeline.doubtful result = true)
  apart : s.Apart → s'.Apart

variable (context : RowContext V)

lemma went_addField (s : NormalizedRow V) (f : String × Option ρ) :
    Went P context [f] s (P.addField context s f) := by
  unfold NormalizationPipeline.addField
  cases hresult : P.resultOf context f with
  | none => constructor <;> simp [hresult, NormalizedRow.slot, NormalizedRow.Asks, NormalizedRow.Apart]
  | some result =>
    obtain ⟨⟨hdata, hconfidence, hresults, hasks, hapart⟩, hslot⟩ := addExtras_spec (P := P) f.1 (P.rawText f.2) result
      (result.extractedExtras.getD [])
      { s with
        fieldResults := s.fieldResults.set f.1 result
        data := s.data.set f.1 result.value
        confidence := min s.confidence result.confidence }
    refine ⟨by simp [hresult, hdata], by simp [hresult, hresults], by simp [hresult, hconfidence], fun key => ?_,
      fun doubts hs => ?_, hapart⟩
    · simp only [filterMap_cons, hresult, filterMap_nil, flatMap_cons, flatMap_nil, append_nil]
      exact hslot key
    · have hreview := hasks doubts hs
      simp only [NormalizedRow.Asks, filterMap_cons, hresult, filterMap_nil, List.mem_singleton, exists_eq_left,
        Bool.or_eq_true] at hreview ⊢
      rw [hreview, or_right_comm]

lemma went (row : Dict String (Option ρ)) (s : NormalizedRow V) :
    Went P context row s (row.foldl (P.addField context) s) := by
  induction row generalizing s with
  | nil => exact ⟨rfl, rfl, rfl, fun _ => rfl, fun doubts hs => by simpa using hs, id⟩
  | cons f row ih =>
    have hfirst := went_addField (P := P) context s f
    have hrest := ih (P.addField context s f)
    have hresults : (f :: row).filterMap (P.resultOf context) =
        [f].filterMap (P.resultOf context) ++ row.filterMap (P.resultOf context) := filterMap_append (l := [f])
    refine ⟨?_, ?_, ?_, fun key => ?_, fun doubts hs => ?_, hrest.apart ∘ hfirst.apart⟩
    · rw [foldl_cons, hrest.data, hfirst.data]
      rfl
    · rw [foldl_cons, hrest.fieldResults, hfirst.fieldResults, ← foldl_append, ← filterMap_append]
      rfl
    · rw [foldl_cons, hrest.confidence, hfirst.confidence, ← foldl_append, ← map_append, hresults]
    · rw [foldl_cons, hrest.slot, hfirst.slot, ← foldl_append, ← flatMap_append, hresults]
    · have hasks := hrest.asks _ (hfirst.asks doubts hs)
      simp only [hresults, mem_append, or_and_right, exists_or, or_assoc] at hasks ⊢
      exact hasks

/-! ### Any order of the columns -/

omit [DecidableEq V] in
lemma slot_eq_conflicted_iff {key : String} : s.slot key = some none ↔ key ∈ s.conflicted := by
  unfold NormalizedRow.slot
  split_ifs with h <;> simp [h]

omit [DecidableEq V] in
lemma NormalizedRow.Apart.extras_eq (h : s.Apart) (key : String) : s.extras.get? key = (s.slot key).join := by
  unfold NormalizedRow.slot
  split_ifs with hkey
  · exact h key hkey
  · cases s.extras.get? key <;> rfl

lemma run_same {row row' : Dict String (Option ρ)} (hperm : row.Perm row') (hnames : (row.map Prod.fst).Nodup) :
    (row.foldl (P.addField context) {}).Same (row'.foldl (P.addField context) {}) := by
  have hrun := went (P := P) context row {}
  have hrun' := went (P := P) context row' {}
  have hresults := hperm.filterMap (P.resultOf context)
  have hslot : ∀ key, (row.foldl (P.addField context) {}).slot key = (row'.foldl (P.addField context) {}).slot key := by
    intro key
    rw [hrun.slot, hrun'.slot]
    exact (hresults.flatMap_right (offersOf key)).foldl_eq _
  have hconflicted : ∀ key, key ∈ (row.foldl (P.addField context) {}).conflicted ↔
      key ∈ (row'.foldl (P.addField context) {}).conflicted := fun key => by
    rw [← slot_eq_conflicted_iff, hslot, slot_eq_conflicted_iff]
  have hempty : ({} : NormalizedRow V).Apart := fun _ h => absurd h not_mem_nil
  have hstart : ({} : NormalizedRow V).Asks False := by simp [NormalizedRow.Asks]
  constructor
  · intro key
    have hnodup : ((row.map fun f => (f.1, (P.resultOf context f).bind NormalizeResult.value)).map Prod.fst).Nodup := by
      rwa [List.map_map]
    rw [hrun.data, hrun'.data, Dict.get?_foldl_set hnodup, Dict.get?_foldl_set (((hperm.map _).map _).nodup hnodup),
      Dict.get?_eq_of_perm hnodup (hperm.map _)]
  · rw [hrun.confidence, hrun'.confidence]
    exact (hresults.map _).foldl_eq _
  · have hnone : ∀ {s : NormalizedRow V}, s.conflicted ≠ [] ↔ ∃ key, key ∈ s.conflicted :=
      ⟨exists_mem_of_ne_nil _, fun ⟨_, h⟩ => ne_nil_of_mem h⟩
    have hasks := hrun.asks False hstart
    have hasks' := hrun'.asks False hstart
    unfold NormalizedRow.Asks at hasks hasks'
    rw [Bool.eq_iff_iff, hasks, hasks', hnone, hnone]
    simp only [hresults.mem_iff, hconflicted]
  · intro field
    have hnodup : ((row.filterMap fun f => (P.resultOf context f).map (f.1, ·)).map Prod.fst).Nodup := by
      refine pairwise_map.mpr (pairwise_filterMap.mpr ((pairwise_map.mp hnames).imp fun hne e he e' he' => ?_))
      obtain ⟨r, -, rfl⟩ := map_eq_some_iff.mp he
      obtain ⟨_, -, rfl⟩ := map_eq_some_iff.mp he'
      exact hne
    rw [hrun.fieldResults, hrun'.fieldResults, Dict.get?_foldl_set hnodup,
      Dict.get?_foldl_set (((hperm.filterMap _).map _).nodup hnodup), Dict.get?_eq_of_perm hnodup (hperm.filterMap _)]
  · intro key
    rw [(hrun.apart hempty).extras_eq, (hrun'.apart hempty).extras_eq, hslot]
  · exact hconflicted

lemma mergeExtras_spec (s : NormalizedRow V) :
    (∃ data remarks, extras.foldl P.mergeExtra s = { s with data := data, remarks := remarks }) ∧
      ∀ key, (extras.foldl P.mergeExtra s).data.get? key = (s.data.get? key).or ((extras.get? key).map some) := by
  induction extras generalizing s with
  | nil => exact ⟨⟨_, _, rfl⟩, fun key => by simp⟩
  | cons extra _ ih =>
    obtain ⟨⟨data, remarks, hfirst⟩, hdata⟩ : (∃ data remarks, P.mergeExtra s extra =
        { s with data := data, remarks := remarks }) ∧ ∀ key, (P.mergeExtra s extra).data.get? key =
          (s.data.get? key).or (if key = extra.1 then some (some extra.2) else none) := by
      unfold NormalizationPipeline.mergeExtra
      split
      · next hnone =>
        refine ⟨⟨_, _, rfl⟩, fun key => ?_⟩
        by_cases hkey : key = extra.1 <;> simp [hkey, hnone]
      · next v hsome =>
        have hkept : ∀ key, s.data.get? key = (s.data.get? key).or (if key = extra.1 then some (some extra.2) else none) :=
          fun key => by by_cases hkey : key = extra.1 <;> simp [hkey, hsome]
        split_ifs
        · exact ⟨⟨_, _, rfl⟩, hkept⟩
        · exact ⟨⟨_, _, rfl⟩, hkept⟩
    obtain ⟨⟨data', remarks', hrest⟩, hdata'⟩ := ih (P.mergeExtra s extra)
    refine ⟨⟨data', remarks', by rw [foldl_cons, hrest, hfirst]⟩, fun key => ?_⟩
    rw [foldl_cons, hdata', hdata, Option.or_assoc, Dict.get?_cons]
    by_cases hkey : key = extra.1 <;> simp [hkey]

end Row

/-- Each column is taken as it is, and offers a number of beds. -/
def bedsPipeline : NormalizationPipeline ℕ ℕ where
  table := asciiTable
  columnTypes := []
  fieldMetadata := []
  normalizeField _ raw _ _ := ⟨some raw.length, 1, raw, false, some [("beds", raw.length)], none⟩
  str n := (toString n).toList
  truthy n := n != 0
  ofText s := s.length
  repr n := (toString n).toList
  strValue _ := []
  percent _ := []

def noHints : RowContext ℕ := ⟨none, none, none, fun _ => none, []⟩

end ImmoApp.Normalizers
