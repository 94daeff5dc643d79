import Mathlib.Data.String.Basic
import ImmoApp.Foundation.DecimalText
import ImmoApp.Foundation.JsonReading
import ImmoApp.Foundation.Keyed

/-!
# Canonical JSON

The hash of a request body is taken of its canonical text: keys are sorted, nothing stands between the parts,
and floats and decimals are written as strings of 15 and 28 digits.  Those strings are what a payload may
hold itself, so payloads of different values can have one text.  `canonical_dumps_iff` says which payloads
share their text with no other one.
-/

namespace ImmoApp.Idempotency

open List

/-! ### Payloads -/

inductive PayloadScalar where
  | null
  | bool (b : Bool)
  | int (n : ℤ)
  | float (negative : Bool) (magnitude : ℚ)
  /-- A `Decimal`: its sign, its digits and its exponent. -/
  | decimal (negative : Bool) (coefficient : ℕ) (exponent : ℤ)
  | str (s : String)

inductive Payload where
  | scalar (v : PayloadScalar)
  | arr (items : List Payload)
  | obj (fields : List (String × Payload))

def signed (negative : Bool) (q : ℚ) : ℚ := if negative then -q else q

def decimalSize (coefficient : ℕ) (exponent : ℤ) : ℚ := coefficient * 10 ^ exponent

def IsDouble (q : ℚ) : Prop :=
  ∃ m : ℕ, ∃ e : ℤ, m < 2 ^ 53 ∧ -1074 ≤ e ∧ e ≤ 971 ∧ q = m * 2 ^ e

def PayloadScalar.WellFormed : PayloadScalar → Prop
  | .float _ magnitude => IsDouble magnitude
  | .decimal _ coefficient exponent =>
    -999999 ≤ exponent ∧ exponent + (toString coefficient).length < 999999
  | _ => True

/-- Two scalars are one JSON value: a number is compared with numbers of its type only. -/
def PayloadScalar.Same : PayloadScalar → PayloadScalar → Prop
  | .float b q, .float b' q' => signed b q = signed b' q'
  | .decimal b c e, .decimal b' c' e' => signed b (decimalSize c e) = signed b' (decimalSize c' e')
  | v, w => v = w

namespace Payload

mutual

/-- The scalars can occur, and the keys of every dictionary differ. -/
def WellFormed : Payload → Prop
  | .scalar v => v.WellFormed
  | .arr items => WellFormedItems items
  | .obj fields => (fields.map Prod.fst).Nodup ∧ WellFormedFields fields

def WellFormedItems : List Payload → Prop
  | [] => True
  | item :: items => WellFormed item ∧ WellFormedItems items

def WellFormedFields : List (String × Payload) → Prop
  | [] => True
  | (_, value) :: fields => WellFormed value ∧ WellFormedFields fields

end

mutual

/-- Two payloads are one JSON value: `==` of Python, with numbers compared in their types. -/
def Same : Payload → Payload → Prop
  | .scalar v, b => ∃ w, b = .scalar w ∧ v.Same w
  | .arr items, b => ∃ items', b = .arr items' ∧ SameItems items items'
  | .obj fields, b => ∃ fields', b = .obj fields' ∧ fields.length = fields'.length ∧ SameFields fields fields'

def SameItems : List Payload → List Payload → Prop
  | [], items' => items' = []
  | item :: items, items' => ∃ item' rest, items' = item' :: rest ∧ Same item item' ∧ SameItems items rest

/-- Every member has a counterpart under its key. -/
def SameFields : List (String × Payload) → List (String × Payload) → Prop
  | [], _ => True
  | (key, value) :: fields, fields' =>
    (∃ value', Dict.get? fields' key = some value' ∧ Same value value') ∧ SameFields fields fields'

end

mutual

def scalars : Payload → List PayloadScalar
  | .scalar v => [v]
  | .arr items => scalarsItems items
  | .obj fields => scalarsFields fields

def scalarsItems : List Payload → List PayloadScalar
  | [] => []
  | item :: items => scalars item ++ scalarsItems items

def scalarsFields : List (String × Payload) → List PayloadScalar
  | [] => []
  | (_, value) :: fields => scalars value ++ scalarsFields fields

end

end Payload

def signText (negative : Bool) : String := if negative then "-" else ""

/-- `_normalize_number`, and the scalars of `_normalize_value`. -/
def normalizeNumber : PayloadScalar → JsonScalar
  | .null => .null
  | .bool b => .bool b
  | .int n => .int n
  | .float negative magnitude => .str (signText negative ++ formatG 15 magnitude)
  | .decimal negative coefficient exponent =>
    .str (signText negative ++ scientificText 28 (decimalSize coefficient exponent))
  | .str s => .str s

/-- `sorted(·, key=…)` of members, by their keys. -/
def sortMembers (fields : List (String × Json)) : List (String × Json) :=
  fields.insertionSort fun a b => a.1 ≤ b.1

mutual

def normalizeValue : Payload → Json
  | .scalar v => .scalar (normalizeNumber v)
  | .arr items => .arr (normalizeItems items)
  | .obj fields => .obj (sortMembers (normalizeFields fields))

def normalizeItems : List Payload → List Json
  | [] => []
  | item :: items => normalizeValue item :: normalizeItems items

def normalizeFields : List (String × Payload) → List (String × Json)
  | [] => []
  | (key, value) :: fields => (key, normalizeValue value) :: normalizeFields fields

end

/-- `canonical_json_dumps`; no float is left to be written. -/
def canonicalJsonDumps (payload : Payload) : String :=
  Json.dumps (fun _ => "") .compact (normalizeValue payload).sortKeys

def JsonPayload : Type := {payload : Payload // payload.WellFormed}

def PayloadScalar.Plain : PayloadScalar → Prop
  | .float _ _ | .decimal _ _ _ => False
  | .str s => ∀ v : PayloadScalar, v.WellFormed → normalizeNumber v = .str s → v = .str s
  | _ => True

lemma normalizeFields_eq_map : ∀ fields : List (String × Payload),
    normalizeFields fields = fields.map fun field => (field.1, normalizeValue field.2)
  | [] => rfl
  | (_, _) :: fields => by rw [normalizeFields, normalizeFields_eq_map fields, map_cons]

lemma map_fst_normalizeFields (fields : List (String × Payload)) :
    (normalizeFields fields).map Prod.fst = fields.map Prod.fst := by
  rw [normalizeFields_eq_map, map_map]
  rfl

lemma mem_sortMembers {fields : List (String × Json)} {field : String × Json} :
    field ∈ sortMembers fields ↔ field ∈ fields :=
  mem_insertionSort _

lemma sorted_sortMembers (fields : List (String × Json)) : (sortMembers fields).Pairwise fun a b => a.1 ≤ b.1 :=
  have : Std.Total fun a b : String × Json => a.1 ≤ b.1 := ⟨fun a b => le_total a.1 b.1⟩
  have : IsTrans (String × Json) fun a b => a.1 ≤ b.1 := ⟨fun _ _ _ => le_trans⟩
  pairwise_insertionSort _ fields

lemma sortMembers_sortMembers (fields : List (String × Json)) :
    sortMembers (sortMembers fields) = sortMembers fields :=
  (sorted_sortMembers fields).insertionSort_eq

lemma sortMembers_eq_iff {d e : List (String × Json)} (hd : (d.map Prod.fst).Nodup) (he : (e.map Prod.fst).Nodup) :
    sortMembers d = sortMembers e ↔ d.length = e.length ∧ ∀ field ∈ d, field ∈ e := by
  constructor
  · intro h
    have hperm : d.Perm e := by
      have hsorted : d.Perm (sortMembers e) := h ▸ (perm_insertionSort _ d).symm
      exact hsorted.trans (perm_insertionSort _ e)
    exact ⟨hperm.length_eq, fun field hfield => hperm.subset hfield⟩
  · rintro ⟨hlength, hsub⟩
    have hperm : d.Perm e := (subperm_of_subset (Nodup.of_map _ hd) hsub).perm_of_length_le hlength.ge
    have hsorted : (sortMembers d).Perm (sortMembers e) :=
      ((perm_insertionSort _ d).trans hperm).trans (perm_insertionSort _ e).symm
    refine hsorted.eq_of_pairwise (fun a b ha hb hab hba => ?_) (sorted_sortMembers d) (sorted_sortMembers e)
    exact inj_on_of_nodup_map he (hsub a (mem_sortMembers.mp ha)) (mem_sortMembers.mp hb) (le_antisymm hab hba)

/-! ### Normal forms are sorted and have no floats -/

lemma sortKeysFields_eq_self : ∀ {fields : List (String × Json)},
    (∀ field ∈ fields, field.2.sortKeys = field.2) → Json.sortKeysFields fields = fields
  | [], _ => rfl
  | (key, value) :: fields, h => by
    rw [Json.sortKeysFields, h (key, value) mem_cons_self,
      sortKeysFields_eq_self fun field hfield => h field (mem_cons_of_mem _ hfield)]

mutual

lemma sortKeys_normalizeValue : ∀ payload : Payload, (normalizeValue payload).sortKeys = normalizeValue payload
  | .scalar v => rfl
  | .arr items => by rw [normalizeValue, Json.sortKeys, sortKeysItems_normalizeItems items]
  | .obj fields => by
    have hvalues : ∀ field ∈ sortMembers (normalizeFields fields), field.2.sortKeys = field.2 :=
      fun field hfield => sortKeys_of_mem_normalizeFields fields field (mem_sortMembers.mp hfield)
    rw [normalizeValue, Json.sortKeys, sortKeysFields_eq_self hvalues]
    exact congrArg Json.obj (sortMembers_sortMembers _)

lemma sortKeysItems_normalizeItems : ∀ items : List Payload,
    Json.sortKeysItems (normalizeItems items) = normalizeItems items
  | [] => rfl
  | item :: items => by
    rw [normalizeItems, Json.sortKeysItems, sortKeys_normalizeValue item, sortKeysItems_normalizeItems items]

lemma sortKeys_of_mem_normalizeFields : ∀ (fields : List (String × Payload)),
    ∀ field ∈ normalizeFields fields, field.2.sortKeys = field.2
  | [], _, hfield => absurd hfield not_mem_nil
  | (key, value) :: fields, field, hfield => by
    rcases mem_cons.mp hfield with rfl | hfield
    · exact sortKeys_normalizeValue value
    · exact sortKeys_of_mem_normalizeFields fields field hfield

end

lemma floatFreeFields_of_forall : ∀ {fields : List (String × Json)},
    (∀ field ∈ fields, field.2.FloatFree) → Json.FloatFreeFields fields
  | [], _ => trivial
  | (key, value) :: _, h =>
    ⟨h (key, value) mem_cons_self, floatFreeFields_of_forall fun field hfield => h field (mem_cons_of_mem _ hfield)⟩

lemma floatFree_normalizeNumber (v : PayloadScalar) : (Json.scalar (normalizeNumber v)).FloatFree := by
  cases v <;> trivial

mutual

lemma floatFree_normalizeValue : ∀ payload : Payload, (normalizeValue payload).FloatFree
  | .scalar v => floatFree_normalizeNumber v
  | .arr items => floatFreeItems_normalizeItems items
  | .obj fields => floatFreeFields_of_forall fun field hfield =>
    floatFree_of_mem_normalizeFields fields field (mem_sortMembers.mp hfield)

lemma floatFreeItems_normalizeItems : ∀ items : List Payload, Json.FloatFreeItems (normalizeItems items)
  | [] => trivial
  | item :: items => ⟨floatFree_normalizeValue item, floatFreeItems_normalizeItems items⟩

lemma floatFree_of_mem_normalizeFields : ∀ (fields : List (String × Payload)),
    ∀ field ∈ normalizeFields fields, field.2.FloatFree
  | [], _, hfield => absurd hfield not_mem_nil
  | (key, value) :: fields, field, hfield => by
    rcases mem_cons.mp hfield with rfl | hfield
    · exact floatFree_normalizeValue value
    · exact floatFree_of_mem_normalizeFields fields field hfield

end

lemma canonicalJsonDumps_eq_iff {a b : Payload} :
    canonicalJsonDumps a = canonicalJsonDumps b ↔ normalizeValue a = normalizeValue b := by
  rw [canonicalJsonDumps, canonicalJsonDumps, sortKeys_normalizeValue, sortKeys_normalizeValue]
  exact ⟨Json.dumps_injective (floatFree_normalizeValue a) (floatFree_normalizeValue b), congrArg _⟩

/-! ### Payloads that share their text with no other one -/

namespace Payload

def Plain (payload : Payload) : Prop := ∀ v ∈ payload.scalars, v.Plain

lemma sameFields_iff {fields' : List (String × Payload)} : ∀ {fields : List (String × Payload)},
    SameFields fields fields' ↔ ∀ field ∈ fields, ∃ value', Dict.get? fields' field.1 = some value' ∧
      Same field.2 value'
  | [] => by simp [SameFields]
  | (key, value) :: fields => by
    rw [SameFields, sameFields_iff, forall_mem_cons]

lemma wellFormedFields_iff : ∀ {fields : List (String × Payload)},
    WellFormedFields fields ↔ ∀ field ∈ fields, WellFormed field.2
  | [] => by simp [WellFormedFields]
  | (key, value) :: fields => by
    rw [WellFormedFields, wellFormedFields_iff, forall_mem_cons]

end Payload

lemma PayloadScalar.same_iff_of_plain {v w : PayloadScalar} (hv : v.Plain) : v.Same w ↔ v = w := by
  cases v with
  | float => exact hv.elim
  | decimal => exact hv.elim
  | _ => cases w <;> rfl

lemma normalizeNumber_eq_iff {v w : PayloadScalar} (hv : v.Plain) (hw : w.WellFormed) :
    normalizeNumber v = normalizeNumber w ↔ v = w := by
  refine ⟨fun h => ?_, congrArg normalizeNumber⟩
  cases v with
  | float => exact hv.elim
  | decimal => exact hv.elim
  | str => exact (hv w hw h.symm).symm
  | null => cases w <;> first | rfl | cases h
  | bool => cases w <;> first | (cases h; rfl) | cases h
  | int => cases w <;> first | (cases h; rfl) | cases h

open Payload

mutual

lemma normalizeValue_eq_iff : ∀ {a b : Payload}, a.WellFormed → b.WellFormed → a.Plain →
    (normalizeValue a = normalizeValue b ↔ a.Same b)
  | .scalar v, b, ha, hb, hplain => by
    have hv : v.Plain := hplain v (by simp [scalars])
    cases b with
    | scalar =>
      rw [normalizeValue, normalizeValue, Json.scalar.injEq, normalizeNumber_eq_iff hv hb, Same]
      simp [PayloadScalar.same_iff_of_plain hv]
    | arr => simp [normalizeValue, Same]
    | obj => simp [normalizeValue, Same]
  | .arr items, b, ha, hb, hplain => by
    cases b with
    | scalar => simp [normalizeValue, Same]
    | arr =>
      rw [normalizeValue, normalizeValue, Json.arr.injEq, normalizeItems_eq_iff ha hb hplain, Same]
      simp
    | obj => simp [normalizeValue, Same]
  | .obj fields, b, ha, hb, hplain => by
    cases b with
    | scalar => simp [normalizeValue, Same]
    | arr => simp [normalizeValue, Same]
    | obj fields' =>
      have hfields := mem_normalizeFields_iff ha.2 hb.1 hb.2 hplain
      have hsort := sortMembers_eq_iff (d := normalizeFields fields) (e := normalizeFields fields')
        (by rw [map_fst_normalizeFields]; exact ha.1) (by rw [map_fst_normalizeFields]; exact hb.1)
      rw [normalizeValue, normalizeValue, Json.obj.injEq, hsort, hfields, Same]
      simp [normalizeFields_eq_map]

lemma normalizeItems_eq_iff : ∀ {items items' : List Payload}, WellFormedItems items →
    WellFormedItems items' → (∀ v ∈ scalarsItems items, v.Plain) →
    (normalizeItems items = normalizeItems items' ↔ SameItems items items')
  | [], items', ha, hb, hplain => by
    cases items' <;> simp [normalizeItems, SameItems]
  | item :: items, items', ha, hb, hplain => by
    cases items' with
    | nil => simp [normalizeItems, SameItems]
    | cons =>
      rw [normalizeItems, normalizeItems, List.cons.injEq,
        normalizeValue_eq_iff ha.1 hb.1 fun v hv => hplain v (mem_append_left _ hv),
        normalizeItems_eq_iff ha.2 hb.2 fun v hv => hplain v (mem_append_right _ hv), SameItems]
      simp

lemma mem_normalizeFields_iff : ∀ {fields fields' : List (String × Payload)}, WellFormedFields fields →
    (fields'.map Prod.fst).Nodup → WellFormedFields fields' → (∀ v ∈ scalarsFields fields, v.Plain) →
    ((∀ field ∈ normalizeFields fields, field ∈ normalizeFields fields') ↔ SameFields fields fields')
  | [], fields', ha, hnodup, hb, hplain => by simp [normalizeFields, SameFields]
  | (key, value) :: fields, fields', ha, hnodup, hb, hplain => by
    have hvalue : ∀ value', Dict.get? fields' key = some value' →
        (normalizeValue value = normalizeValue value' ↔ value.Same value') := fun value' hget =>
      normalizeValue_eq_iff ha.1 (wellFormedFields_iff.mp hb _ (Dict.mem_of_get? hget))
        fun v hv => hplain v (mem_append_left _ hv)
    rw [normalizeFields, forall_mem_cons, SameFields,
      mem_normalizeFields_iff ha.2 hnodup hb fun v hv => hplain v (mem_append_right _ hv)]
    refine and_congr_left fun _ => ?_
    rw [normalizeFields_eq_map fields', mem_map]
    constructor
    · rintro ⟨⟨_, value'⟩, hmem, heq⟩
      obtain ⟨rfl, hsame⟩ := Prod.mk.inj heq
      have hget := Dict.get?_of_mem hnodup hmem
      exact ⟨value', hget, (hvalue value' hget).mp hsame.symm⟩
    · rintro ⟨value', hget, hsame⟩
      exact ⟨(key, value'), Dict.mem_of_get? hget, by rw [(hvalue value' hget).mpr hsame]⟩

end

/-! ### Disguises -/

lemma exists_disguise (v : PayloadScalar) :
    ∃ w : PayloadScalar, w.WellFormed ∧ normalizeNumber w = normalizeNumber v ∧ (v.Same w → v.Plain) := by
  cases v with
  | null => exact ⟨.null, trivial, rfl, fun _ => trivial⟩
  | bool b => exact ⟨.bool b, trivial, rfl, fun _ => trivial⟩
  | int n => exact ⟨.int n, trivial, rfl, fun _ => trivial⟩
  | float b q => exact ⟨.str (signText b ++ formatG 15 q), trivial, rfl, fun h => by cases h⟩
  | decimal b c e =>
    exact ⟨.str (signText b ++ scientificText 28 (decimalSize c e)), trivial, rfl, fun h => by cases h⟩
  | str s =>
    by_cases hplain : (PayloadScalar.str s).Plain
    · exact ⟨.str s, trivial, rfl, fun _ => hplain⟩
    · simp only [PayloadScalar.Plain, not_forall] at hplain
      obtain ⟨w, hw, hnormal, hne⟩ := hplain
      refine ⟨w, hw, hnormal, fun hsame => absurd ?_ hne⟩
      cases w <;> exact hsame.symm

namespace Payload

variable (f : PayloadScalar → PayloadScalar)

mutual

def mapScalars : Payload → Payload
  | .scalar v => .scalar (f v)
  | .arr items => .arr (mapScalarsItems items)
  | .obj fields => .obj (mapScalarsFields fields)

def mapScalarsItems : List Payload → List Payload
  | [] => []
  | item :: items => mapScalars item :: mapScalarsItems items

def mapScalarsFields : List (String × Payload) → List (String × Payload)
  | [] => []
  | (key, value) :: fields => (key, mapScalars value) :: mapScalarsFields fields

end

lemma map_fst_mapScalarsFields : ∀ fields : List (String × Payload),
    (mapScalarsFields f fields).map Prod.fst = fields.map Prod.fst
  | [] => rfl
  | (_, _) :: fields => by
    rw [mapScalarsFields, map_cons, map_cons, map_fst_mapScalarsFields fields]

lemma mem_mapScalarsFields {key : String} {value : Payload} : ∀ {fields : List (String × Payload)},
    (key, value) ∈ fields → (key, mapScalars f value) ∈ mapScalarsFields f fields
  | (key', value') :: fields, h => by
    rw [mapScalarsFields]
    rcases mem_cons.mp h with heq | h
    · cases heq
      exact mem_cons_self
    · exact mem_cons_of_mem _ (mem_mapScalarsFields h)

variable {f}

mutual

lemma normalizeValue_mapScalars (hf : ∀ v, normalizeNumber (f v) = normalizeNumber v) :
    ∀ payload : Payload, normalizeValue (mapScalars f payload) = normalizeValue payload
  | .scalar v => by rw [mapScalars, normalizeValue, normalizeValue, hf]
  | .arr items => by
    rw [mapScalars, normalizeValue, normalizeValue, normalizeItems_mapScalarsItems hf items]
  | .obj fields => by
    rw [mapScalars, normalizeValue, normalizeValue, normalizeFields_mapScalarsFields hf fields]

lemma normalizeItems_mapScalarsItems (hf : ∀ v, normalizeNumber (f v) = normalizeNumber v) :
    ∀ items : List Payload, normalizeItems (mapScalarsItems f items) = normalizeItems items
  | [] => rfl
  | item :: items => by
    rw [mapScalarsItems, normalizeItems, normalizeItems, normalizeValue_mapScalars hf item,
      normalizeItems_mapScalarsItems hf items]

lemma normalizeFields_mapScalarsFields (hf : ∀ v, normalizeNumber (f v) = normalizeNumber v) :
    ∀ fields : List (String × Payload), normalizeFields (mapScalarsFields f fields) = normalizeFields fields
  | [] => rfl
  | (_, value) :: fields => by
    rw [mapScalarsFields, normalizeFields, normalizeFields, normalizeValue_mapScalars hf value,
      normalizeFields_mapScalarsFields hf fields]

end

mutual

lemma wellFormed_mapScalars (hf : ∀ v, (f v).WellFormed) : ∀ {payload : Payload}, payload.WellFormed →
    (mapScalars f payload).WellFormed
  | .scalar v, _ => hf v
  | .arr _, h => wellFormedItems_mapScalarsItems hf h
  | .obj fields, h => by
    refine ⟨?_, wellFormedFields_mapScalarsFields hf h.2⟩
    rw [map_fst_mapScalarsFields]
    exact h.1

lemma wellFormedItems_mapScalarsItems (hf : ∀ v, (f v).WellFormed) : ∀ {items : List Payload},
    WellFormedItems items → WellFormedItems (mapScalarsItems f items)
  | [], _ => trivial
  | _ :: _, h => ⟨wellFormed_mapScalars hf h.1, wellFormedItems_mapScalarsItems hf h.2⟩

lemma wellFormedFields_mapScalarsFields (hf : ∀ v, (f v).WellFormed) :
    ∀ {fields : List (String × Payload)}, WellFormedFields fields → WellFormedFields (mapScalarsFields f fields)
  | [], _ => trivial
  | (_, _) :: _, h => ⟨wellFormed_mapScalars hf h.1, wellFormedFields_mapScalarsFields hf h.2⟩

end

mutual

lemma same_of_same_mapScalars : ∀ {payload : Payload}, payload.WellFormed →
    payload.Same (mapScalars f payload) → ∀ v ∈ payload.scalars, v.Same (f v)
  | .scalar v, _, h => by
    obtain ⟨w, hw, hsame⟩ := h
    cases hw
    intro v' hv'
    rw [scalars, mem_singleton] at hv'
    rwa [hv']
  | .arr items, hwf, h => by
    obtain ⟨_, hitems, hsame⟩ := h
    cases hitems
    exact same_of_sameItems_mapScalarsItems hwf hsame
  | .obj fields, hwf, h => by
    obtain ⟨_, hfields, -, hsame⟩ := h
    cases hfields
    refine same_of_sameFields_mapScalarsFields hwf.2 fun field hfield => ?_
    obtain ⟨_, hget, hvalue⟩ := sameFields_iff.mp hsame field hfield
    have hnodup : ((mapScalarsFields f fields).map Prod.fst).Nodup := by
      rw [map_fst_mapScalarsFields]
      exact hwf.1
    rw [Dict.get?_of_mem hnodup (mem_mapScalarsFields f hfield)] at hget
    exact Option.some.inj hget ▸ hvalue

lemma same_of_sameItems_mapScalarsItems : ∀ {items : List Payload}, WellFormedItems items →
    SameItems items (mapScalarsItems f items) → ∀ v ∈ scalarsItems items, v.Same (f v)
  | [], _, _ => fun v hv => absurd hv not_mem_nil
  | item :: items, hwf, h => by
    obtain ⟨_, _, heq, hitem, hrest⟩ := h
    obtain ⟨rfl, rfl⟩ := List.cons.inj heq
    intro v hv
    rcases mem_append.mp hv with hv | hv
    · exact same_of_same_mapScalars hwf.1 hitem v hv
    · exact same_of_sameItems_mapScalarsItems hwf.2 hrest v hv

lemma same_of_sameFields_mapScalarsFields : ∀ {fields : List (String × Payload)}, WellFormedFields fields →
    (∀ field ∈ fields, Same field.2 (mapScalars f field.2)) → ∀ v ∈ scalarsFields fields, v.Same (f v)
  | [], _, _ => fun v hv => absurd hv not_mem_nil
  | (key, value) :: fields, hwf, h => by
    intro v hv
    rcases mem_append.mp hv with hv | hv
    · exact same_of_same_mapScalars hwf.1 (h (key, value) mem_cons_self) v hv
    · exact same_of_sameFields_mapScalarsFields hwf.2
        (fun field hfield => h field (mem_cons_of_mem _ hfield)) v hv

end

end Payload

/-- The canonical text of a payload is that of the same values only when the payload holds no float, no
decimal and no text that is written for one. -/
theorem canonical_dumps_iff (a : JsonPayload) :
    (∀ b : JsonPayload, canonicalJsonDumps a.1 = canonicalJsonDumps b.1 ↔ a.1.Same b.1) ↔ a.1.Plain := by
  constructor
  · intro h
    choose f hwf hnormal hplain using exists_disguise
    have hsame := (h ⟨mapScalars f a.1, wellFormed_mapScalars hwf a.2⟩).mp
      (canonicalJsonDumps_eq_iff.mpr (normalizeValue_mapScalars hnormal a.1).symm)
    exact fun v hv => hplain v (same_of_same_mapScalars a.2 hsame v hv)
  · intro hplain b
    rw [canonicalJsonDumps_eq_iff]
    exact normalizeValue_eq_iff a.2 b.2 hplain

/-- `1.0`. -/
def floatOne : JsonPayload := ⟨.obj [("price", .scalar (.float false 1))],
  by simp, ⟨1, 0, by norm_num⟩, trivial⟩

/-- `"1"`. -/
def textOne : JsonPayload := ⟨.obj [("price", .scalar (.str "1"))], by simp, trivial, trivial⟩

theorem float_written_as_text :
    canonicalJsonDumps floatOne.1 = canonicalJsonDumps textOne.1 ∧ ¬ floatOne.1.Same textOne.1 := by
  refine ⟨canonicalJsonDumps_eq_iff.mpr ?_, ?_⟩
  · have hone : formatG 15 1 = "1" := by decide +kernel
    simp [floatOne, textOne, normalizeValue, normalizeFields, normalizeNumber, hone, signText]
  · rintro ⟨_, hfields, -, hsame⟩
    cases hfields
    obtain ⟨_, hget, w, hw, hsame⟩ := hsame.1
    cases hget
    cases hw
    cases hsame

end ImmoApp.Idempotency
