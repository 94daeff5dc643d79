import Mathlib.Order.Basic

/-!
# Loops

`whileFor cond body n s` is `while cond: body` with at most `n` rounds.  Where every round makes a measure
smaller, as many rounds as the measure says are enough: the loop has ended by its own condition.
-/

namespace ImmoApp

variable {σ : Type*}

/-- `while cond: body`, for at most `n` rounds. -/
def whileFor (cond : σ → Bool) (body : σ → σ) : ℕ → σ → σ
  | 0, s => s
  | n + 1, s => if cond s then whileFor cond body n (body s) else s

variable {cond : σ → Bool} {body : σ → σ}

lemma whileFor_of_false {s : σ} (hs : cond s = false) (n : ℕ) : whileFor cond body n s = s := by
  cases n with
  | zero => rfl
  | succ => rw [whileFor, hs, if_neg Bool.false_ne_true]

/-- The loop ends: its condition fails once the rounds reach the measure. -/
theorem whileFor_ends (measure : σ → ℕ) (hdecreases : ∀ s, cond s = true → measure (body s) < measure s)
    {n : ℕ} {s : σ} (hn : measure s ≤ n) : cond (whileFor cond body n s) = false := by
  induction n generalizing s with
  | zero =>
    rw [whileFor, Bool.eq_false_iff]
    intro hcond
    have hless := hdecreases s hcond
    omega
  | succ n ih =>
    rw [whileFor]
    split
    · next hcond =>
      have hless := hdecreases s hcond
      exact ih (by omega)
    · next hcond => exact Bool.eq_false_iff.mpr hcond

/-- What every round keeps holds in the end. -/
theorem whileFor_invariant {P : σ → Prop} (hbody : ∀ s, cond s = true → P s → P (body s))
    (n : ℕ) {s : σ} (hs : P s) : P (whileFor cond body n s) := by
  induction n generalizing s with
  | zero => exact hs
  | succ n ih =>
    rw [whileFor]
    split
    · next hcond => exact ih (hbody s hcond hs)
    · exact hs

end ImmoApp
