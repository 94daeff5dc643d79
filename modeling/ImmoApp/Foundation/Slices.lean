import Mathlib.Data.List.Basic
import Mathlib.Data.Nat.Basic

/-!
# Slices of a list

`slicesOf xs size` is `[xs[i : i + size] for i in range(0, len(xs), size)]`.  One after the other the slices are the
list, so that a loop over them that treats each slice element by element is the loop over the list.
-/

namespace ImmoApp

open List

variable {α σ : Type*}

/-- `[xs[i : i + size] for i in range(0, len(xs), size)]`. -/
def slicesOf (xs : List α) (size : ℕ) : List (List α) :=
  (List.range ((xs.length + size - 1) / size)).map fun i => (xs.drop (i * size)).take size

variable {size : ℕ}

lemma flatten_slicesOf (xs : List α) (hsize : 0 < size) : (slicesOf xs size).flatten = xs := by
  have hfirst : ∀ n, ((List.range n).map fun i => (xs.drop (i * size)).take size).flatten = xs.take (n * size) := by
    intro n
    induction n with
    | zero => simp
    | succ n ih =>
      rw [range_succ, map_append, flatten_append, ih, Nat.succ_mul, take_add]
      simp
  have hcover : xs.length ≤ (xs.length + size - 1) / size * size := by
    have hdiv := Nat.div_add_mod (xs.length + size - 1) size
    have hmod := Nat.mod_lt (xs.length + size - 1) hsize
    rw [Nat.mul_comm] at hdiv
    omega
  rw [slicesOf, hfirst, take_of_length_le hcover]

lemma foldlM_slicesOf (f : σ → α → Option σ) (xs : List α) (hsize : 0 < size) (s : σ) :
    (slicesOf xs size).foldlM (fun s slice => slice.foldlM f s) s = xs.foldlM f s := by
  have hloop : ∀ (slices : List (List α)) (s : σ),
      slices.foldlM (fun s slice => slice.foldlM f s) s = slices.flatten.foldlM f s := by
    intro slices
    induction slices with
    | nil => exact fun s => rfl
    | cons _ _ ih =>
      intro s
      rw [foldlM_cons, flatten_cons, foldlM_append]
      simp only [ih]
  rw [hloop, flatten_slicesOf xs hsize]

end ImmoApp
