import Mathlib.Data.List.Basic
import Mathlib.Data.Nat.Basic
import Mathlib.Order.Basic
import Mathlib.Tactic.Common

/-!
# Pages of a keyset scan

A keyset scan reads the ids of a table page by page: the next page holds the first ids after the last id
of the page before.  `pages ids size last` lists the pages of a scan that starts after `last`, over ids in
ascending order.  Each page takes the next `size` ids of those that remain, so a scan can be followed on
the list of remaining ids alone.
-/

namespace ImmoApp

open List

/-- The ids after `last`. -/
def remaining (ids : List ℕ) (last : ℕ) : List ℕ := ids.filter fun id => last < id

/-- `SELECT id … WHERE id > last ORDER BY id LIMIT size`, for ids in ascending order. -/
def page (ids : List ℕ) (size last : ℕ) : List ℕ := (remaining ids last).take size

def lastOf (batch : List ℕ) : ℕ := batch.getLast?.getD 0

/-- The pages of a scan, at most `fuel` of them. -/
def pagesFrom (ids : List ℕ) (size : ℕ) : ℕ → ℕ → List (List ℕ)
  | 0, _ => []
  | fuel + 1, last =>
    if page ids size last = [] then []
    else page ids size last :: pagesFrom ids size fuel (lastOf (page ids size last))

def pages (ids : List ℕ) (size last : ℕ) : List (List ℕ) := pagesFrom ids size ids.length last

/-- `[xs[i : i + size] for i in range(0, len(xs), size)]`. -/
def slices (xs : List ℕ) (size : ℕ) : List (List ℕ) :=
  (List.range ((xs.length + size - 1) / size)).map fun i => (xs.drop (i * size)).take size

variable {ids : List ℕ} {size last : ℕ}

lemma mem_slices (hsize : 0 < size) {id : ℕ} : id ∈ (slices ids size).flatten ↔ id ∈ ids := by
  simp only [slices, mem_flatten, mem_map, mem_range]
  constructor
  · rintro ⟨_, ⟨i, -, rfl⟩, hid⟩
    exact mem_of_mem_drop (mem_of_mem_take hid)
  · intro hid
    obtain ⟨j, hj, rfl⟩ := mem_iff_getElem.mp hid
    refine ⟨_, ⟨j / size, ?_, rfl⟩, ?_⟩
    · rw [Nat.lt_div_iff_mul_lt hsize]
      have hdiv := Nat.div_mul_le_self j size
      omega
    · refine mem_iff_getElem?.mpr ⟨j % size, ?_⟩
      have hmod := Nat.mod_lt j hsize
      have hplace : j / size * size + j % size = j := by
        rw [Nat.mul_comm]
        exact Nat.div_add_mod j size
      rw [getElem?_take, if_pos hmod, getElem?_drop, hplace]
      exact getElem?_eq_getElem hj

lemma mem_remaining {id : ℕ} : id ∈ remaining ids last ↔ id ∈ ids ∧ last < id := by
  simp [remaining]

lemma page_eq_nil_iff (hsize : 0 < size) : page ids size last = [] ↔ remaining ids last = [] := by
  rw [page, take_eq_nil_iff]
  constructor
  · rintro (_ | hnil)
    · omega
    · exact hnil
  · exact .inr

lemma mem_of_mem_page {id : ℕ} (h : id ∈ page ids size last) : id ∈ ids ∧ last < id :=
  mem_remaining.mp (mem_of_mem_take h)

lemma lastOf_mem {batch : List ℕ} (h : batch ≠ []) : lastOf batch ∈ batch := by
  rw [lastOf, getLast?_eq_some_getLast h]
  exact getLast_mem h

lemma remaining_lastOf (hids : ids.Pairwise (· < ·)) (hpage : page ids size last ≠ []) :
    remaining ids (lastOf (page ids size last)) = (remaining ids last).drop size := by
  have hlast : last < lastOf (page ids size last) := (mem_of_mem_page (lastOf_mem hpage)).2
  have hsub : remaining ids (lastOf (page ids size last))
      = (remaining ids last).filter fun id => lastOf (page ids size last) < id := by
    rw [remaining, remaining, filter_filter]
    refine filter_congr fun id _ => ?_
    simp only [Bool.and_eq_decide, decide_eq_true_eq, decide_eq_decide]
    omega
  -- the page ends in its last id, which separates it from the ids that remain
  have hsplit : (remaining ids last)
      = (page ids size last).dropLast ++ lastOf (page ids size last) :: (remaining ids last).drop size := by
    conv_lhs => rw [← take_append_drop size (remaining ids last)]
    rw [lastOf, getLast?_eq_some_getLast hpage, Option.getD_some, ← singleton_append,
      ← append_assoc, dropLast_append_getLast hpage]
    rfl
  have hsorted : (remaining ids last).Pairwise (· < ·) := hids.filter _
  rw [hsplit, pairwise_append, pairwise_cons] at hsorted
  obtain ⟨-, ⟨hafter, -⟩, hbefore⟩ := hsorted
  rw [hsub]
  conv_lhs => rw [hsplit]
  have hdropLast : (page ids size last).dropLast.filter (fun id => lastOf (page ids size last) < id) = [] := by
    rw [filter_eq_nil_iff]
    intro id hid
    have hlt := hbefore id hid _ mem_cons_self
    simpa using hlt.le
  have hdrop : ((remaining ids last).drop size).filter
      (fun id => lastOf (page ids size last) < id) = (remaining ids last).drop size := by
    rw [filter_eq_self]
    intro id hid
    simpa using hafter id hid
  rw [filter_append, hdropLast, nil_append, filter_cons_of_neg (by simp), hdrop]

lemma le_lastOf (hids : ids.Pairwise (· < ·)) {id : ℕ} (h : id ∈ page ids size last) :
    id ≤ lastOf (page ids size last) := by
  by_contra hlt
  have hne : page ids size last ≠ [] := ne_nil_of_mem h
  have hmem : id ∈ remaining ids (lastOf (page ids size last)) :=
    mem_remaining.mpr ⟨(mem_of_mem_page h).1, not_le.mp hlt⟩
  rw [remaining_lastOf hids hne] at hmem
  have hnodup : (remaining ids last).Nodup := (hids.filter _).imp ne_of_lt
  exact disjoint_take_drop hnodup le_rfl h hmem

end ImmoApp
