import ImmoApp.Foundation.Json
import Mathlib.Data.List.Sort

/-!
# JSON texts

`Json.dumps` writes a value as a text.  A layout says what stands between the parts: nothing but the separators
in the compact layout, a new line and blanks for each item in an indented one.  Keys may be sorted before.

`size_dumps_le` compares the sizes of the texts of one value in two layouts.
-/

namespace ImmoApp.Json

def escapeChar (c : Char) : String :=
  match c.toNat with
  | 0x22 => "\x5c\x22"
  | 0x5c => "\x5c\x5c"
  | 0x08 => "\x5cb"
  | 0x09 => "\x5ct"
  | 0x0a => "\x5cn"
  | 0x0c => "\x5cf"
  | 0x0d => "\x5cr"
  | n =>
    if n < 0x20 then "\x5cu00" ++ String.ofList [Nat.digitChar (n / 16), Nat.digitChar (n % 16)]
    else String.singleton c

def quoted (s : String) : String := "\x22" ++ String.join (s.toList.map escapeChar) ++ "\x22"

/-- A scalar; how a float is written is a parameter. -/
def scalarText (floatText : ℚ → String) : JsonScalar → String
  | .null => "null"
  | .bool b => if b then "true" else "false"
  | .int n => toString n
  | .float q => floatText q
  | .str s => quoted s

/-! ### Layouts -/

/-- What stands between the parts of an array or object, by its depth. -/
structure Layout where
  opening : ℕ → String
  separator : ℕ → String
  closing : ℕ → String
  colon : String

/-- `separators=(",", ":")`. -/
def Layout.compact : Layout where
  opening _ := ""
  separator _ := ","
  closing _ := ""
  colon := ":"

def newline (indent depth : ℕ) : String := "\n" ++ String.ofList (List.replicate (indent * depth) ' ')

/-- `indent=…`. -/
def Layout.indented (indent : ℕ) : Layout where
  opening depth := newline indent (depth + 1)
  separator depth := "," ++ newline indent (depth + 1)
  closing depth := newline indent depth
  colon := ": "

section Dumps

variable (floatText : ℚ → String) (L : Layout)

mutual

/-- `json.dumps` at a depth. -/
def dumpsAt (depth : ℕ) : Json → String
  | .scalar v => scalarText floatText v
  | .arr [] => "[]"
  | .arr (item :: items) =>
    "[" ++ L.opening depth ++ dumpsAt (depth + 1) item ++ dumpsItems depth items ++ L.closing depth ++ "]"
  | .obj [] => "\x7b\x7d"
  | .obj ((key, value) :: fields) =>
    "\x7b" ++ L.opening depth ++ quoted key ++ L.colon ++ dumpsAt (depth + 1) value ++ dumpsFields depth fields ++
      L.closing depth ++ "\x7d"

def dumpsItems (depth : ℕ) : List Json → String
  | [] => ""
  | item :: items => L.separator depth ++ dumpsAt (depth + 1) item ++ dumpsItems depth items

def dumpsFields (depth : ℕ) : List (String × Json) → String
  | [] => ""
  | (key, value) :: fields =>
    L.separator depth ++ quoted key ++ L.colon ++ dumpsAt (depth + 1) value ++ dumpsFields depth fields

end

def dumps (v : Json) : String := dumpsAt floatText L 0 v

end Dumps

mutual

/-- `sort_keys=True`, at every depth. -/
def sortKeys : Json → Json
  | .scalar v => .scalar v
  | .arr items => .arr (sortKeysItems items)
  | .obj fields => .obj ((sortKeysFields fields).insertionSort fun a b => a.1 ≤ b.1)

def sortKeysItems : List Json → List Json
  | [] => []
  | item :: items => sortKeys item :: sortKeysItems items

def sortKeysFields : List (String × Json) → List (String × Json)
  | [] => []
  | (key, value) :: fields => (key, sortKeys value) :: sortKeysFields fields

end

/-! ### Sizes -/

/-- A layout takes at most the room of another one. -/
structure Layout.Le (L L' : Layout) : Prop where
  opening : ∀ depth, (L.opening depth).utf8ByteSize ≤ (L'.opening depth).utf8ByteSize
  separator : ∀ depth, (L.separator depth).utf8ByteSize ≤ (L'.separator depth).utf8ByteSize
  closing : ∀ depth, (L.closing depth).utf8ByteSize ≤ (L'.closing depth).utf8ByteSize
  colon : L.colon.utf8ByteSize ≤ L'.colon.utf8ByteSize

section Sizes

variable {floatText : ℚ → String} {L L' : Layout}

mutual

lemma size_dumpsAt_le (h : L.Le L') (depth : ℕ) : ∀ v : Json,
    (dumpsAt floatText L depth v).utf8ByteSize ≤ (dumpsAt floatText L' depth v).utf8ByteSize
  | .scalar v => le_refl _
  | .arr [] => le_refl _
  | .arr (item :: items) => by
    have hitem := size_dumpsAt_le h (depth + 1) item
    have hitems := size_dumpsItems_le h depth items
    have hopening := h.opening depth
    have hclosing := h.closing depth
    simp only [dumpsAt, String.utf8ByteSize_append]
    omega
  | .obj [] => le_refl _
  | .obj ((key, value) :: fields) => by
    have hvalue := size_dumpsAt_le h (depth + 1) value
    have hfields := size_dumpsFields_le h depth fields
    have hopening := h.opening depth
    have hclosing := h.closing depth
    have hcolon := h.colon
    simp only [dumpsAt, String.utf8ByteSize_append]
    omega

lemma size_dumpsItems_le (h : L.Le L') (depth : ℕ) : ∀ items : List Json,
    (dumpsItems floatText L depth items).utf8ByteSize ≤ (dumpsItems floatText L' depth items).utf8ByteSize
  | [] => le_refl _
  | item :: items => by
    have hitem := size_dumpsAt_le h (depth + 1) item
    have hitems := size_dumpsItems_le h depth items
    have hseparator := h.separator depth
    simp only [dumpsItems, String.utf8ByteSize_append]
    omega

lemma size_dumpsFields_le (h : L.Le L') (depth : ℕ) : ∀ fields : List (String × Json),
    (dumpsFields floatText L depth fields).utf8ByteSize ≤ (dumpsFields floatText L' depth fields).utf8ByteSize
  | [] => le_refl _
  | (key, value) :: fields => by
    have hvalue := size_dumpsAt_le h (depth + 1) value
    have hfields := size_dumpsFields_le h depth fields
    have hseparator := h.separator depth
    have hcolon := h.colon
    simp only [dumpsFields, String.utf8ByteSize_append]
    omega

end

lemma size_dumps_obj_lt (h : L.Le L') (hcolon : L.colon.utf8ByteSize < L'.colon.utf8ByteSize)
    {fields : List (String × Json)} (hne : fields ≠ []) :
    (dumps floatText L (.obj fields)).utf8ByteSize < (dumps floatText L' (.obj fields)).utf8ByteSize := by
  obtain ⟨⟨_, value⟩, fields, rfl⟩ := List.exists_cons_of_ne_nil hne
  have hvalue : (dumpsAt floatText L (0 + 1) value).utf8ByteSize ≤ _ := size_dumpsAt_le h (0 + 1) value
  have hfields : (dumpsFields floatText L 0 fields).utf8ByteSize ≤ _ := size_dumpsFields_le h 0 fields
  have hopening := h.opening 0
  have hclosing := h.closing 0
  simp only [dumps, dumpsAt, String.utf8ByteSize_append]
  omega

lemma Layout.size_colon : (":" : String).utf8ByteSize < (": " : String).utf8ByteSize := by decide

lemma Layout.compact_le_indented (indent : ℕ) : Layout.compact.Le (Layout.indented indent) where
  opening depth := Nat.zero_le _
  separator depth := by
    simp only [Layout.compact, Layout.indented, String.utf8ByteSize_append]
    omega
  closing depth := Nat.zero_le _
  colon := Layout.size_colon.le

end Sizes

/-- An object with members is written in fewer bytes without blanks and new lines than with them. -/
theorem size_compact_lt_indented (floatText : ℚ → String) (indent : ℕ) {fields : List (String × Json)}
    (hne : fields ≠ []) :
    (dumps floatText .compact (sortKeys (.obj fields))).utf8ByteSize <
      (dumps floatText (.indented indent) (sortKeys (.obj fields))).utf8ByteSize := by
  rw [sortKeys]
  refine size_dumps_obj_lt (Layout.compact_le_indented indent) Layout.size_colon fun hnil => ?_
  obtain ⟨_, _, rfl⟩ := List.exists_cons_of_ne_nil hne
  have hlength := congrArg List.length hnil
  rw [List.length_insertionSort] at hlength
  exact absurd hlength (by simp [sortKeysFields])

end ImmoApp.Json
