import ImmoApp.Foundation.JsonText

/-!
# Compact JSON texts can be read back

The compact text of a value tells where it ends, unless it is a number, which ends where no digit follows.
So two values without floats that have the same compact text are the same (`dumps_injective`).
-/

namespace ImmoApp.Json

open List

/-! ### Strings -/

def hexValue (c : Char) : ℕ := if c.isDigit then c.toNat - 48 else c.toNat - 87

/-- The first character of what is left of a string, and what follows it; `none` at its end. -/
def readChar : List Char → Option (Char × List Char)
  | '\x5c' :: 'b' :: rest => some ('\x08', rest)
  | '\x5c' :: 't' :: rest => some ('\t', rest)
  | '\x5c' :: 'n' :: rest => some ('\n', rest)
  | '\x5c' :: 'f' :: rest => some ('\x0c', rest)
  | '\x5c' :: 'r' :: rest => some ('\r', rest)
  | '\x5c' :: 'u' :: _ :: _ :: c :: d :: rest => some (Char.ofNat (16 * hexValue c + hexValue d), rest)
  | '\x5c' :: c :: rest => some (c, rest)
  | '\x22' :: _ => none
  | c :: rest => some (c, rest)
  | [] => none

lemma hexValue_digitChar : ∀ n < 16, hexValue (Nat.digitChar n) = n := by decide

lemma readChar_escapeChar (c : Char) (rest : List Char) :
    readChar ((escapeChar c).toList ++ rest) = some (c, rest) := by
  have hchar : ∀ n, c.toNat = n → c = Char.ofNat n := fun n h => by rw [← h, Char.ofNat_toNat]
  unfold escapeChar
  split
  · next h => rw [hchar _ h]; rfl
  · next h => rw [hchar _ h]; rfl
  · next h => rw [hchar _ h]; rfl
  · next h => rw [hchar _ h]; rfl
  · next h => rw [hchar _ h]; rfl
  · next h => rw [hchar _ h]; rfl
  · next h => rw [hchar _ h]; rfl
  · next hquote hback _ _ _ _ _ =>
    split
    · next hlt =>
      have hvalue : Char.ofNat (16 * hexValue (Nat.digitChar (c.toNat / 16))
          + hexValue (Nat.digitChar (c.toNat % 16))) = c := by
        rw [hexValue_digitChar _ (by omega), hexValue_digitChar _ (by omega), Nat.div_add_mod, Char.ofNat_toNat]
      rw [String.toList_append, String.toList_ofList, String.toList_ofList]
      show some (Char.ofNat _, rest) = _
      rw [hvalue]
    · have hback' : c ≠ '\x5c' := fun h => hback (by rw [h]; rfl)
      have hquote' : c ≠ '\x22' := fun h => hquote (by rw [h]; rfl)
      rw [String.toList_singleton, singleton_append, readChar.eq_def]
      split <;> simp_all

def escaped (l : List Char) : List Char := l.flatMap fun c => (escapeChar c).toList

lemma toList_quoted (s : String) : (quoted s).toList = '\x22' :: (escaped s.toList ++ ['\x22']) := by
  rw [quoted, String.toList_append, String.toList_append, String.toList_join, flatMap_map]
  rfl

lemma escaped_append_inj : ∀ {l l' r r' : List Char},
    escaped l ++ '\x22' :: r = escaped l' ++ '\x22' :: r' → l = l' ∧ r = r' := by
  intro l
  induction l with
  | nil =>
    intro l' r r' h
    cases l' with
    | nil => exact ⟨rfl, (List.cons.inj h).2⟩
    | cons =>
      have hread := congrArg readChar h
      rw [escaped, escaped, flatMap_cons, append_assoc, readChar_escapeChar] at hread
      cases hread
  | cons c l ih =>
    intro l' r r' h
    cases l' with
    | nil =>
      have hread := congrArg readChar h
      rw [escaped, escaped, flatMap_cons, append_assoc, readChar_escapeChar] at hread
      cases hread
    | cons =>
      have hread := congrArg readChar h
      rw [escaped, escaped, flatMap_cons, flatMap_cons, append_assoc, append_assoc,
        readChar_escapeChar, readChar_escapeChar, Option.some.injEq, Prod.mk.injEq] at hread
      obtain ⟨rfl, hrest⟩ := hread
      obtain ⟨rfl, rfl⟩ := ih hrest
      exact ⟨rfl, rfl⟩

variable {r r' : List Char} {c : Char} {n : ℤ}

lemma quoted_append_inj {s t : String} (h : (quoted s).toList ++ r = (quoted t).toList ++ r') : s = t ∧ r = r' := by
  rw [toList_quoted, toList_quoted, cons_append, cons_append, List.cons.injEq, append_assoc, append_assoc] at h
  obtain ⟨hchars, hrest⟩ := escaped_append_inj h.2
  exact ⟨String.toList_injective hchars, hrest⟩

/-! ### Numbers -/

def Ends (r : List Char) : Prop := ∀ c ∈ r.head?, c = ',' ∨ c = ']' ∨ c = '\x7d'

lemma ends_nil : Ends [] := by simp [Ends]

lemma ends_comma (r : List Char) : Ends (',' :: r) := by simp [Ends]

lemma ends_bracket (r : List Char) : Ends (']' :: r) := by simp [Ends]

lemma ends_brace (r : List Char) : Ends ('\x7d' :: r) := by simp [Ends]

def isIntChar (c : Char) : Bool := c.isDigit || c == '-'

lemma toList_toString_nat (n : ℕ) : (toString n).toList = Nat.toDigits 10 n := by
  rw [Nat.toString_eq_ofList_toDigits, String.toList_ofList]

lemma isDigit_of_mem_toString {n : ℕ} (h : c ∈ (toString n).toList) : c.isDigit = true := by
  rw [toList_toString_nat] at h
  exact Nat.isDigit_of_mem_toDigits (by decide) (by decide) h

lemma toString_nat_injective : Function.Injective (toString : ℕ → String) := by
  intro m n h
  have hdigits := congrArg String.toList h
  rw [toList_toString_nat, toList_toString_nat] at hdigits
  rw [← Nat.ofDigitChars_toDigits (b := 10) (n := m) (by decide) (by decide), hdigits,
    Nat.ofDigitChars_toDigits (by decide) (by decide)]

lemma toList_toString_int (n : ℤ) : (toString n).toList =
    if 0 ≤ n then (toString n.toNat).toList else '-' :: (toString (-n).toNat).toList := by
  rw [Int.toString_eq_repr, Int.repr_eq_if]
  split
  · rfl
  · rw [String.toList_append]
    rfl

lemma isIntChar_of_mem_toString (h : c ∈ (toString n).toList) : isIntChar c = true := by
  rw [toList_toString_int] at h
  rw [isIntChar, Bool.or_eq_true, beq_iff_eq]
  split at h
  · exact .inl (isDigit_of_mem_toString h)
  · rcases mem_cons.mp h with rfl | h
    · exact .inr rfl
    · exact .inl (isDigit_of_mem_toString h)

lemma toString_nat_ne_minus (m : ℕ) (l : List Char) : (toString m).toList ≠ '-' :: l := by
  intro h
  have hminus : ('-').isDigit = true := isDigit_of_mem_toString (by rw [h]; exact mem_cons_self)
  exact absurd hminus (by decide)

lemma toString_int_injective : Function.Injective (toString : ℤ → String) := by
  intro m n h
  have hchars := congrArg String.toList h
  rw [toList_toString_int, toList_toString_int] at hchars
  split at hchars
  · next hm =>
    split at hchars
    · next hn =>
      have hnat := toString_nat_injective (String.toList_injective hchars)
      omega
    · exact absurd hchars (toString_nat_ne_minus _ _)
  · next hm =>
    split at hchars
    · exact absurd hchars.symm (toString_nat_ne_minus _ _)
    · next hn =>
      have hnat := toString_nat_injective (String.toList_injective (List.cons.inj hchars).2)
      omega

lemma toString_int_append_inj {m : ℤ} (hr : Ends r) (hr' : Ends r')
    (h : (toString m).toList ++ r = (toString n).toList ++ r') : m = n ∧ r = r' := by
  have htake : ∀ (k : ℤ) {q : List Char}, Ends q →
      ((toString k).toList ++ q).takeWhile isIntChar = (toString k).toList := by
    intro k q hq
    rw [takeWhile_append_of_pos fun c hc => isIntChar_of_mem_toString hc]
    have hnil : q.takeWhile isIntChar = [] := by
      cases q with
      | nil => rfl
      | cons c =>
        rcases hq c rfl with rfl | rfl | rfl
        all_goals rfl
    rw [hnil, append_nil]
  have hsame := htake m hr
  rw [h, htake n hr'] at hsame
  obtain rfl := toString_int_injective (String.toList_injective hsame)
  exact ⟨rfl, append_cancel_left h⟩

/-! ### Values -/

mutual

def FloatFree : Json → Prop
  | .scalar (.float _) => False
  | .scalar _ => True
  | .arr items => FloatFreeItems items
  | .obj fields => FloatFreeFields fields

def FloatFreeItems : List Json → Prop
  | [] => True
  | item :: items => FloatFree item ∧ FloatFreeItems items

def FloatFreeFields : List (String × Json) → Prop
  | [] => True
  | (_, value) :: fields => FloatFree value ∧ FloatFreeFields fields

end

inductive Kind where
  | null
  | yes
  | no
  | number
  | string
  | array
  | object

def kind : Json → Kind
  | .scalar .null => .null
  | .scalar (.bool b) => if b then .yes else .no
  | .scalar (.int _) => .number
  | .scalar (.float _) => .number
  | .scalar (.str _) => .string
  | .arr _ => .array
  | .obj _ => .object

def charKind : Char → Option Kind
  | 'n' => some .null
  | 't' => some .yes
  | 'f' => some .no
  | '\x22' => some .string
  | '[' => some .array
  | '\x7b' => some .object
  | c => if isIntChar c then some .number else none

section Reading

variable {floatText : ℚ → String}

variable {c : Char} {v w item value : Json} {depth : ℕ} {r r' : List Char} {items : List Json} {key : String}
  {fields : List (String × Json)}

lemma charKind_of_isIntChar (h : isIntChar c = true) : charKind c = some .number := by
  unfold charKind
  split <;> first | exact absurd h (by decide) | exact if_pos h

lemma toList_dumpsAt_arr_nil (depth : ℕ) : (dumpsAt floatText .compact depth (.arr [])).toList = ['[', ']'] := by
  rw [dumpsAt]
  rfl

lemma toList_dumpsAt_obj_nil (depth : ℕ) :
    (dumpsAt floatText .compact depth (.obj [])).toList = ['\x7b', '\x7d'] := by
  rw [dumpsAt]
  rfl

lemma toList_dumpsItems_nil (depth : ℕ) : (dumpsItems floatText .compact depth []).toList = [] := by
  rw [dumpsItems]
  rfl

lemma toList_dumpsFields_nil (depth : ℕ) : (dumpsFields floatText .compact depth []).toList = [] := by
  rw [dumpsFields]
  rfl

lemma toList_dumpsAt_cons (depth : ℕ) (item : Json) (items : List Json) :
    (dumpsAt floatText .compact depth (.arr (item :: items))).toList =
      '[' :: ((dumpsAt floatText .compact (depth + 1) item).toList ++
        ((dumpsItems floatText .compact depth items).toList ++ [']'])) := by
  simp [dumpsAt, Layout.compact]

lemma toList_dumpsItems_cons (depth : ℕ) (item : Json) (items : List Json) :
    (dumpsItems floatText .compact depth (item :: items)).toList =
      ',' :: ((dumpsAt floatText .compact (depth + 1) item).toList ++
        (dumpsItems floatText .compact depth items).toList) := by
  simp [dumpsItems, Layout.compact]

lemma toList_dumpsAt_member (depth : ℕ) (key : String) (value : Json) (fields : List (String × Json)) :
    (dumpsAt floatText .compact depth (.obj ((key, value) :: fields))).toList =
      '\x7b' :: ((quoted key).toList ++ ':' :: ((dumpsAt floatText .compact (depth + 1) value).toList ++
        ((dumpsFields floatText .compact depth fields).toList ++ ['\x7d']))) := by
  simp [dumpsAt, Layout.compact]

lemma toList_dumpsFields_cons (depth : ℕ) (key : String) (value : Json) (fields : List (String × Json)) :
    (dumpsFields floatText .compact depth ((key, value) :: fields)).toList =
      ',' :: ((quoted key).toList ++ ':' :: ((dumpsAt floatText .compact (depth + 1) value).toList ++
        (dumpsFields floatText .compact depth fields).toList)) := by
  simp [dumpsFields, Layout.compact]

variable (floatText) in
lemma exists_first (hv : v.FloatFree) (depth : ℕ) :
    ∃ c rest, (dumpsAt floatText .compact depth v).toList = c :: rest ∧ charKind c = some v.kind := by
  cases v with
  | scalar v =>
    cases v with
    | null => exact ⟨'n', ['u', 'l', 'l'], by rw [dumpsAt, scalarText]; rfl, rfl⟩
    | bool b =>
      cases b with
      | false => exact ⟨'f', ['a', 'l', 's', 'e'], by rw [dumpsAt, scalarText]; rfl, rfl⟩
      | true => exact ⟨'t', ['r', 'u', 'e'], by rw [dumpsAt, scalarText]; rfl, rfl⟩
    | int n =>
      obtain ⟨c, rest, h⟩ : ∃ c rest, (toString n).toList = c :: rest := by
        rw [toList_toString_int]
        split
        · rw [toList_toString_nat]
          exact exists_cons_of_ne_nil Nat.toDigits_ne_nil
        · exact ⟨'-', _, rfl⟩
      exact ⟨c, rest, by rw [dumpsAt, scalarText, h], charKind_of_isIntChar (isIntChar_of_mem_toString (h ▸ mem_cons_self))⟩
    | float => exact hv.elim
    | str s => exact ⟨'\x22', _, toList_quoted s, rfl⟩
  | arr items =>
    cases items with
    | nil => exact ⟨'[', _, toList_dumpsAt_arr_nil depth, rfl⟩
    | cons item items => exact ⟨'[', _, toList_dumpsAt_cons depth item items, rfl⟩
  | obj fields =>
    cases fields with
    | nil => exact ⟨'\x7b', _, toList_dumpsAt_obj_nil depth, rfl⟩
    | cons field fields => exact ⟨'\x7b', _, toList_dumpsAt_member depth field.1 field.2 fields, rfl⟩

lemma kind_eq (hv : v.FloatFree) (hw : w.FloatFree) (h : (dumpsAt floatText .compact depth v).toList ++ r
      = (dumpsAt floatText .compact depth w).toList ++ r') : v.kind = w.kind := by
  obtain ⟨c, _, hc, hkind⟩ := exists_first floatText hv depth
  obtain ⟨_, _, hc', hkind'⟩ := exists_first floatText hw depth
  rw [hc, hc', cons_append, cons_append, List.cons.injEq] at h
  rw [h.1, hkind'] at hkind
  exact (Option.some.inj hkind).symm

lemma first_ne (hv : v.FloatFree) (hc : charKind c = none)
    : c :: r ≠ (dumpsAt floatText .compact depth v).toList ++ r' := by
  intro h
  obtain ⟨_, _, hc', hkind⟩ := exists_first floatText hv depth
  rw [hc', cons_append, List.cons.injEq] at h
  rw [← h.1, hc] at hkind
  cases hkind

lemma ends_items (depth : ℕ) (items : List Json) (r : List Char) :
    Ends ((dumpsItems floatText .compact depth items).toList ++ ']' :: r) := by
  cases items with
  | nil =>
    rw [toList_dumpsItems_nil]
    exact ends_bracket r
  | cons =>
    rw [toList_dumpsItems_cons]
    exact ends_comma _

lemma ends_fields (depth : ℕ) (fields : List (String × Json)) (r : List Char) :
    Ends ((dumpsFields floatText .compact depth fields).toList ++ '\x7d' :: r) := by
  cases fields with
  | nil =>
    rw [toList_dumpsFields_nil]
    exact ends_brace r
  | cons field =>
    rw [toList_dumpsFields_cons depth field.1 field.2]
    exact ends_comma _

lemma eq_of_kind_array (h : w.kind = .array) : ∃ items, w = .arr items := by
  cases w with
  | scalar v =>
    cases v with
    | bool b => cases b <;> cases h
    | _ => cases h
  | arr items => exact ⟨items, rfl⟩
  | obj => cases h

lemma eq_of_kind_object (h : w.kind = .object) : ∃ fields, w = .obj fields := by
  cases w with
  | scalar v =>
    cases v with
    | bool b => cases b <;> cases h
    | _ => cases h
  | arr => cases h
  | obj fields => exact ⟨fields, rfl⟩

lemma eq_of_kind_scalar {v : JsonScalar} (h : w.kind = (Json.scalar v).kind) : ∃ v', w = .scalar v' := by
  cases w with
  | scalar v' => exact ⟨v', rfl⟩
  | arr =>
    obtain ⟨_, hitems⟩ := eq_of_kind_array (w := .scalar v) h.symm
    cases hitems
  | obj =>
    obtain ⟨_, hfields⟩ := eq_of_kind_object (w := .scalar v) h.symm
    cases hfields

def SelfDelimiting (floatText : ℚ → String) (v : Json) : Prop :=
  ∀ (w : Json) (depth : ℕ) (r r' : List Char), v.FloatFree → w.FloatFree → Ends r → Ends r' →
    (dumpsAt floatText .compact depth v).toList ++ r
      = (dumpsAt floatText .compact depth w).toList ++ r' → v = w ∧ r = r'

/-- The further items of an array end at its bracket. -/
def SelfDelimitingItems (floatText : ℚ → String) (items : List Json) : Prop :=
  ∀ (items' : List Json) (depth : ℕ) (r r' : List Char), FloatFreeItems items → FloatFreeItems items' →
    (dumpsItems floatText .compact depth items).toList ++ ']' :: r
      = (dumpsItems floatText .compact depth items').toList ++ ']' :: r' → items = items' ∧ r = r'

def SelfDelimitingFields (floatText : ℚ → String) (fields : List (String × Json)) : Prop :=
  ∀ (fields' : List (String × Json)) (depth : ℕ) (r r' : List Char), FloatFreeFields fields →
    FloatFreeFields fields' →
    (dumpsFields floatText .compact depth fields).toList ++ '\x7d' :: r
      = (dumpsFields floatText .compact depth fields').toList ++ '\x7d' :: r' →
      fields = fields' ∧ r = r'

lemma selfDelimiting_scalar (v : JsonScalar) : SelfDelimiting floatText (.scalar v) := by
  intro w depth r r' hv hw hr hr' h
  have hkind := kind_eq hv hw h
  obtain ⟨w, rfl⟩ := eq_of_kind_scalar hkind.symm
  rw [dumpsAt, dumpsAt] at h
  cases v with
  | null =>
    cases w with
    | null => exact ⟨rfl, append_cancel_left h⟩
    | bool b => cases b <;> cases hkind
    | _ => cases hkind
  | bool b =>
    cases w with
    | bool b' =>
      obtain rfl : b = b' := by
        cases b <;> cases b' <;> first | rfl | cases hkind
      exact ⟨rfl, append_cancel_left h⟩
    | _ => cases b <;> cases hkind
  | int =>
    cases w with
    | int =>
      obtain ⟨rfl, rfl⟩ := toString_int_append_inj hr hr' h
      exact ⟨rfl, rfl⟩
    | float => exact hw.elim
    | bool b => cases b <;> cases hkind
    | _ => cases hkind
  | float => exact hv.elim
  | str =>
    cases w with
    | str =>
      obtain ⟨rfl, rfl⟩ := quoted_append_inj h
      exact ⟨rfl, rfl⟩
    | bool b => cases b <;> cases hkind
    | _ => cases hkind

lemma selfDelimiting_arr_nil : SelfDelimiting floatText (.arr []) := by
  intro w depth r r' hv hw hr hr' h
  obtain ⟨items, rfl⟩ := eq_of_kind_array (kind_eq hv hw h).symm
  cases items with
  | nil => exact ⟨rfl, append_cancel_left h⟩
  | cons =>
    rw [toList_dumpsAt_cons, toList_dumpsAt_arr_nil] at h
    simp only [cons_append, nil_append, append_assoc, List.cons.injEq, true_and] at h
    exact absurd h (first_ne hw.1 rfl)

lemma selfDelimiting_arr_cons (hitem : SelfDelimiting floatText item)
    (hitems : SelfDelimitingItems floatText items) : SelfDelimiting floatText (.arr (item :: items)) := by
  intro w depth r r' hv hw hr hr' h
  obtain ⟨items', rfl⟩ := eq_of_kind_array (kind_eq hv hw h).symm
  cases items' with
  | nil =>
    rw [toList_dumpsAt_cons, toList_dumpsAt_arr_nil] at h
    simp only [cons_append, nil_append, append_assoc, List.cons.injEq, true_and] at h
    exact absurd h.symm (first_ne hv.1 rfl)
  | cons item' items' =>
    rw [toList_dumpsAt_cons, toList_dumpsAt_cons, cons_append, cons_append, List.cons.injEq,
      append_assoc, append_assoc, append_assoc, append_assoc] at h
    obtain ⟨rfl, hrest⟩ := hitem item' (depth + 1) _ _ hv.1 hw.1 (ends_items depth items r)
      (ends_items depth items' r') h.2
    obtain ⟨rfl, rfl⟩ := hitems items' depth r r' hv.2 hw.2 hrest
    exact ⟨rfl, rfl⟩

lemma selfDelimiting_obj_nil : SelfDelimiting floatText (.obj []) := by
  intro w depth r r' hv hw hr hr' h
  obtain ⟨fields, rfl⟩ := eq_of_kind_object (kind_eq hv hw h).symm
  cases fields with
  | nil => exact ⟨rfl, append_cancel_left h⟩
  | cons field =>
    rw [toList_dumpsAt_member depth field.1 field.2, toList_dumpsAt_obj_nil, toList_quoted] at h
    simp only [cons_append, List.cons.injEq] at h
    exact absurd h.2.1 (by decide)

lemma selfDelimiting_obj_cons
    (hvalue : SelfDelimiting floatText value) (hfields : SelfDelimitingFields floatText fields) :
    SelfDelimiting floatText (.obj ((key, value) :: fields)) := by
  intro w depth r r' hv hw hr hr' h
  obtain ⟨fields', rfl⟩ := eq_of_kind_object (kind_eq hv hw h).symm
  cases fields' with
  | nil =>
    rw [toList_dumpsAt_member, toList_dumpsAt_obj_nil, toList_quoted] at h
    simp only [cons_append, List.cons.injEq] at h
    exact absurd h.2.1 (by decide)
  | cons field' fields' =>
    obtain ⟨_, value'⟩ := field'
    rw [toList_dumpsAt_member, toList_dumpsAt_member, cons_append, cons_append,
      List.cons.injEq, append_assoc, append_assoc] at h
    obtain ⟨rfl, hafter⟩ := quoted_append_inj h.2
    rw [cons_append, cons_append, List.cons.injEq, append_assoc, append_assoc, append_assoc, append_assoc] at hafter
    obtain ⟨rfl, hrest⟩ := hvalue value' (depth + 1) _ _ hv.1 hw.1 (ends_fields depth fields r)
      (ends_fields depth fields' r') hafter.2
    obtain ⟨rfl, rfl⟩ := hfields fields' depth r r' hv.2 hw.2 hrest
    exact ⟨rfl, rfl⟩

lemma selfDelimitingItems_nil : SelfDelimitingItems floatText [] := by
  intro items' depth r r' hv hw h
  cases items' with
  | nil => exact ⟨rfl, (List.cons.inj (append_cancel_left h)).2⟩
  | cons =>
    rw [toList_dumpsItems_cons, toList_dumpsItems_nil] at h
    exact absurd (List.cons.inj h).1 (by decide)

lemma selfDelimitingItems_cons (hitem : SelfDelimiting floatText item)
    (hitems : SelfDelimitingItems floatText items) : SelfDelimitingItems floatText (item :: items) := by
  intro items' depth r r' hv hw h
  cases items' with
  | nil =>
    rw [toList_dumpsItems_cons, toList_dumpsItems_nil] at h
    exact absurd (List.cons.inj h).1 (by decide)
  | cons item' items' =>
    rw [toList_dumpsItems_cons, toList_dumpsItems_cons, cons_append, cons_append, List.cons.injEq,
      append_assoc, append_assoc] at h
    obtain ⟨rfl, hrest⟩ := hitem item' (depth + 1) _ _ hv.1 hw.1 (ends_items depth items r)
      (ends_items depth items' r') h.2
    obtain ⟨rfl, rfl⟩ := hitems items' depth r r' hv.2 hw.2 hrest
    exact ⟨rfl, rfl⟩

lemma selfDelimitingFields_nil : SelfDelimitingFields floatText [] := by
  intro fields' depth r r' hv hw h
  cases fields' with
  | nil => exact ⟨rfl, (List.cons.inj (append_cancel_left h)).2⟩
  | cons field' =>
    rw [toList_dumpsFields_cons depth field'.1 field'.2, toList_dumpsFields_nil] at h
    exact absurd (List.cons.inj h).1 (by decide)

lemma selfDelimitingFields_cons
    (hvalue : SelfDelimiting floatText value) (hfields : SelfDelimitingFields floatText fields) :
    SelfDelimitingFields floatText ((key, value) :: fields) := by
  intro fields' depth r r' hv hw h
  cases fields' with
  | nil =>
    rw [toList_dumpsFields_cons, toList_dumpsFields_nil] at h
    exact absurd (List.cons.inj h).1 (by decide)
  | cons field' fields' =>
    obtain ⟨_, value'⟩ := field'
    rw [toList_dumpsFields_cons, toList_dumpsFields_cons, cons_append, cons_append,
      List.cons.injEq, append_assoc, append_assoc] at h
    obtain ⟨rfl, hafter⟩ := quoted_append_inj h.2
    rw [cons_append, cons_append, List.cons.injEq, append_assoc, append_assoc] at hafter
    obtain ⟨rfl, hrest⟩ := hvalue value' (depth + 1) _ _ hv.1 hw.1 (ends_fields depth fields r)
      (ends_fields depth fields' r') hafter.2
    obtain ⟨rfl, rfl⟩ := hfields fields' depth r r' hv.2 hw.2 hrest
    exact ⟨rfl, rfl⟩

mutual

lemma selfDelimiting : ∀ v : Json, SelfDelimiting floatText v
  | .scalar v => selfDelimiting_scalar v
  | .arr [] => selfDelimiting_arr_nil
  | .arr (item :: items) => selfDelimiting_arr_cons (selfDelimiting item) (selfDelimitingItems items)
  | .obj [] => selfDelimiting_obj_nil
  | .obj ((_, value) :: fields) =>
    selfDelimiting_obj_cons (selfDelimiting value) (selfDelimitingFields fields)

lemma selfDelimitingItems : ∀ items : List Json, SelfDelimitingItems floatText items
  | [] => selfDelimitingItems_nil
  | item :: items => selfDelimitingItems_cons (selfDelimiting item) (selfDelimitingItems items)

lemma selfDelimitingFields : ∀ fields : List (String × Json), SelfDelimitingFields floatText fields
  | [] => selfDelimitingFields_nil
  | (_, value) :: fields => selfDelimitingFields_cons (selfDelimiting value) (selfDelimitingFields fields)

end

/-- Values without floats that have the same compact text are the same. -/
theorem dumps_injective (hv : v.FloatFree) (hw : w.FloatFree)
    (h : dumps floatText .compact v = dumps floatText .compact w) : v = w := by
  have hself : SelfDelimiting floatText v := selfDelimiting v
  refine (hself w 0 [] [] hv hw ends_nil ends_nil ?_).1
  rw [append_nil, append_nil]
  exact congrArg String.toList h

end Reading

end ImmoApp.Json
