import Mathlib.Data.Rat.Defs
import ImmoApp.Foundation.Dict

/-!
# JSON values

A JSON value is a scalar, an array or an object; an object keeps its members in insertion order.
Equality is decidable, so that concrete values can be compared by evaluation.
-/

namespace ImmoApp

/-- A JSON scalar.  A float carries its exact value. -/
inductive JsonScalar where
  | null
  | bool (b : Bool)
  | int (n : ℤ)
  | float (q : ℚ)
  | str (s : String)
  deriving DecidableEq

inductive Json where
  | scalar (v : JsonScalar)
  | arr (items : List Json)
  | obj (fields : List (String × Json))

namespace Json

/-- The JSON `null`. -/
@[match_pattern] abbrev null : Json := .scalar .null

@[match_pattern] abbrev int (n : ℤ) : Json := .scalar (.int n)

@[match_pattern] abbrev str (s : String) : Json := .scalar (.str s)

mutual

def decEq : (a b : Json) → Decidable (a = b)
  | .scalar a, .scalar b => decidable_of_iff (a = b) (by simp)
  | .arr a, .arr b => @decidable_of_iff _ (a = b) (by simp) (decEqItems a b)
  | .obj a, .obj b => @decidable_of_iff _ (a = b) (by simp) (decEqFields a b)
  | .scalar _, .arr _ | .scalar _, .obj _ | .arr _, .scalar _ | .arr _, .obj _
  | .obj _, .scalar _ | .obj _, .arr _ => isFalse (by simp)

def decEqItems : (a b : List Json) → Decidable (a = b)
  | [], [] => isTrue rfl
  | [], _ :: _ | _ :: _, [] => isFalse (by simp)
  | a :: as, b :: bs =>
    @decidable_of_iff _ (a = b ∧ as = bs) (by simp) (@instDecidableAnd _ _ (decEq a b) (decEqItems as bs))

def decEqFields : (a b : List (String × Json)) → Decidable (a = b)
  | [], [] => isTrue rfl
  | [], _ :: _ | _ :: _, [] => isFalse (by simp)
  | (k, a) :: as, (l, b) :: bs =>
    @decidable_of_iff _ (k = l ∧ a = b ∧ as = bs) (by simp [and_assoc])
      (@instDecidableAnd _ _ _ (@instDecidableAnd _ _ (decEq a b) (decEqFields as bs)))

end

instance : DecidableEq Json := decEq

/-- The members of an object, none for any other value. -/
def fields? : Json → Option (Dict String Json)
  | .obj d => some d
  | _ => none

def text : Json → String
  | .str s => s
  | _ => ""

/-- A value is true unless it is `null`, `false`, zero or empty. -/
def truthy : Json → Bool
  | .scalar .null => false
  | .scalar (.bool b) => b
  | .scalar (.int n) => n ≠ 0
  | .scalar (.float q) => q ≠ 0
  | .scalar (.str s) => s ≠ ""
  | .arr items => !items.isEmpty
  | .obj fields => !fields.isEmpty

/-- The integer a number or a numeral denotes, truncated towards zero; `none` for a value that is
not one. -/
def toInt? : Json → Option ℤ
  | .scalar (.bool b) => some (if b then 1 else 0)
  | .scalar (.int n) => some n
  | .scalar (.float q) => some (q.num.tdiv q.den)
  | .scalar (.str s) => s.trimAscii.toInt?
  | _ => none

end Json

end ImmoApp
