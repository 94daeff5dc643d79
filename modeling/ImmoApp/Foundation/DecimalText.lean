import Mathlib.Data.Int.Log
import Mathlib.Data.Rat.Floor
import ImmoApp.Foundation.Text

/-!
# Numbers as decimal texts

A non-negative number is rounded to a number of decimal digits, a tie going to the even digit, and the zeros
at the end are dropped.  `formatG` is the text of the presentation type `g`, and `scientificText` the text of
a decimal in scientific notation; they differ in where they use an exponent and how they write it.
-/

namespace ImmoApp

/-- The nearest integer to a non-negative number, the even one of two. -/
def roundHalfEven (q : ℚ) : ℕ :=
  let n := ⌊q⌋.toNat
  let rest := q - n
  if rest < 1 / 2 then n else if 1 / 2 < rest then n + 1 else if n % 2 = 0 then n else n + 1

/-- A coefficient and exponent without zeros at the end of the coefficient; the first argument bounds how
many there are. -/
def dropZeros : ℕ → ℕ × ℤ → ℕ × ℤ
  | 0, d => d
  | n + 1, d => if d.1 % 10 = 0 then dropZeros n (d.1 / 10, d.2 + 1) else d

/-- The coefficient and the exponent of a number rounded to `p` digits. -/
def roundDigits (p : ℕ) (q : ℚ) : ℕ × ℤ :=
  if q = 0 then (0, 0)
  else
    let exponent := Int.log 10 q - p + 1
    dropZeros (p + 1) (roundHalfEven (q / 10 ^ exponent), exponent)

/-- `n` zeros. -/
def zeros (n : ℤ) : String := String.ofList (List.replicate n.toNat '0')

/-- Digits with a decimal point after the first `point` of them. -/
def pointed (digits : String) (point : ℤ) : String :=
  if point ≤ 0 then "0." ++ zeros (-point) ++ digits
  else if digits.length ≤ point then digits ++ zeros (point - digits.length)
  else firstChars point.toNat digits ++ "." ++ String.ofList (digits.toList.drop point.toNat)

/-- An exponent with its sign and at least `width` digits. -/
def exponentText (width : ℕ) (n : ℤ) : String :=
  let digits := toString n.natAbs
  (if n < 0 then "-" else "+") ++ zeros (width - digits.length) ++ digits

/-- `format(·, ".{p}g")` of a non-negative number. -/
def formatG (p : ℕ) (q : ℚ) : String :=
  let (coefficient, exponent) := roundDigits p q
  let digits := toString coefficient
  let leading := exponent + digits.length - 1
  if -4 ≤ leading ∧ leading < p then pointed digits (leading + 1)
  else pointed digits 1 ++ "e" ++ exponentText 2 leading

/-- `str(·.normalize())` of a non-negative decimal in a context of `p` digits. -/
def scientificText (p : ℕ) (q : ℚ) : String :=
  let (coefficient, exponent) := roundDigits p q
  let digits := toString coefficient
  let leftDigits := exponent + digits.length
  if exponent ≤ 0 ∧ -6 < leftDigits then pointed digits leftDigits
  else pointed digits 1 ++ (if leftDigits = 1 then "" else "E" ++ exponentText 1 (leftDigits - 1))

end ImmoApp
