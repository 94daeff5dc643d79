import Mathlib.Data.List.Count
import ImmoApp.Foundation.Keyed

/-!
# Ranks

The rank of a row of a list is the number of rows that come before it, itself included.  In a list without
repetitions and in a linear order the ranks are the numbers `1, …, n`, and `rowNumber` numbers the rows of
a partition by their ranks.  The rows up to a rank `k` are the best `k`; `top_erase_iff` says when they
stay the best, with the same ranks, after one row is taken away.
-/

namespace ImmoApp

open List

section Ranks

variable {α κ : Type*} (le : α → α → Prop) [DecidableRel le]

/-- The number of rows that do not come after a row. -/
def rank (rows : List α) (a : α) : ℕ := rows.countP fun b => le b a

/-- A row is one of the best `k`, with its rank. -/
def IsTop (k : ℕ) (rows : List α) (a : α) (n : ℕ) : Prop := a ∈ rows ∧ rank le rows a = n ∧ n ≤ k

/-- Rows that come before each other are the same. -/
def Antisymm (rows : List α) : Prop := ∀ a ∈ rows, ∀ b ∈ rows, le a b → le b a → a = b

variable {le} {rows rows' : List α} {a b : α}

lemma rank_perm (h : rows.Perm rows') : rank le rows a = rank le rows' a := h.countP_eq _

lemma isTop_perm {k n : ℕ} (h : rows.Perm rows') : IsTop le k rows a n ↔ IsTop le k rows' a n := by
  rw [IsTop, IsTop, rank_perm h, h.mem_iff]

lemma rank_le_length : rank le rows a ≤ rows.length := countP_le_length

lemma getElem?_sorted_iff [Std.Refl le] (hsorted : rows.Pairwise le) (hnodup : rows.Nodup)
    (hanti : Antisymm le rows) {i : ℕ} :
    rows[i]? = some a ↔ a ∈ rows ∧ rank le rows a = i + 1 := by
  induction rows generalizing i with
  | nil => simp
  | cons b rest ih =>
    obtain ⟨hb, hsorted⟩ := pairwise_cons.mp hsorted
    obtain ⟨hmem, hnodup⟩ := nodup_cons.mp hnodup
    have hrest : Antisymm le rest := fun x hx y hy =>
      hanti x (mem_cons_of_mem b hx) y (mem_cons_of_mem b hy)
    -- nothing in the rest comes before the head, and the head comes before all of it
    have hhead : rank le (b :: rest) b = 1 := by
      have hnone : rest.countP (fun x => le x b) = 0 := by
        rw [countP_eq_zero]
        intro x hx hle
        have heq := hanti x (mem_cons_of_mem b hx) b mem_cons_self (by simpa using hle) (hb x hx)
        exact hmem (heq ▸ hx)
      rw [rank, countP_cons_of_pos (by simpa using Std.Refl.refl b), hnone]
    have htail : ∀ x ∈ rest, rank le (b :: rest) x = rank le rest x + 1 := by
      intro x hx
      rw [rank, countP_cons_of_pos (by simpa using hb x hx), rank]
    have hpos : ∀ x ∈ rest, 0 < rank le rest x := by
      intro x hx
      exact countP_pos_iff.mpr ⟨x, hx, by simpa using Std.Refl.refl x⟩
    cases i with
    | zero =>
      rw [getElem?_cons_zero, Option.some.injEq]
      constructor
      · rintro rfl
        exact ⟨mem_cons_self, hhead⟩
      · rintro ⟨ha, hrank⟩
        rcases mem_cons.mp ha with rfl | ha
        · rfl
        · have h₁ := htail a ha
          have h₂ := hpos a ha
          omega
    | succ =>
      rw [getElem?_cons_succ, ih hsorted hnodup hrest]
      constructor
      · rintro ⟨ha, hrank⟩
        refine ⟨mem_cons_of_mem b ha, ?_⟩
        rw [htail a ha, hrank]
      · rintro ⟨ha, _⟩
        rcases mem_cons.mp ha with rfl | ha
        · omega
        · refine ⟨ha, ?_⟩
          have h₁ := htail a ha
          omega

lemma rank_erase [DecidableEq α] (ha : a ∈ rows) :
    rank le (rows.erase a) b = rank le rows b - if le a b then 1 else 0 := by
  rw [rank, countP_erase]
  simp [ha, rank]

variable [Std.Total le] [IsTrans α le]

lemma rank_lt (hanti : Antisymm le rows) (ha : a ∈ rows) (hb : b ∈ rows) (hle : le a b)
    (hne : a ≠ b) : rank le rows a < rank le rows b := by
  have hstrict : ¬ le b a := fun hba => hne (hanti a ha b hb hle hba)
  have hsplit : rows.countP (fun x => le x b)
      = rows.countP (fun x => le x a) + rows.countP fun x => decide (le x b) && !decide (le x a) := by
    rw [countP_eq_countP_filter_add rows (fun x => le x b) (fun x => le x a), countP_filter, countP_filter]
    congr 1
    · refine countP_congr fun x _ => ?_
      simp only [Bool.and_eq_true, decide_eq_true_eq, and_iff_right_iff_imp]
      exact fun hxa => IsTrans.trans x a b hxa hle
  have hpos : 0 < rows.countP fun x => decide (le x b) && !decide (le x a) := by
    refine countP_pos_iff.mpr ⟨b, hb, ?_⟩
    have hrefl : le b b := (Std.Total.total (r := le) b b).elim id id
    simp [hrefl, hstrict]
  rw [rank, rank, hsplit]
  omega

lemma exists_rank (hanti : Antisymm le rows) (hnodup : rows.Nodup) {n : ℕ} (hn : n < rows.length) :
    ∃ b ∈ rows, rank le rows b = n + 1 := by
  have hperm := perm_insertionSort le rows
  have hsorted : (rows.insertionSort le).Pairwise le := pairwise_insertionSort le rows
  have hanti' : Antisymm le (rows.insertionSort le) := fun x hx y hy =>
    hanti x (hperm.mem_iff.mp hx) y (hperm.mem_iff.mp hy)
  have hlt : n < (rows.insertionSort le).length := by rwa [hperm.length_eq]
  obtain ⟨hmem, hrank⟩ := (getElem?_sorted_iff hsorted (hperm.nodup_iff.mpr hnodup) hanti').mp
    (getElem?_eq_getElem hlt)
  exact ⟨_, hperm.mem_iff.mp hmem, (rank_perm hperm).symm.trans hrank⟩

/-- Without one of its rows a list has the same best `k` rows, that row apart, if and only if the row was
not among them or was the last of the list. -/
theorem top_erase_iff [DecidableEq α] (hanti : Antisymm le rows) (hnodup : rows.Nodup) (ha : a ∈ rows)
    {k : ℕ} :
    (∀ b n, b ≠ a ∧ IsTop le k rows b n ↔ IsTop le k (rows.erase a) b n) ↔
      (rank le rows a ≤ k → ∀ b ∈ rows, le b a) := by
  constructor
  · intro hsame hrank b hb
    by_contra hafter
    have hle : le a b := (Std.Total.total a b).resolve_right hafter
    have hne : a ≠ b := by
      rintro rfl
      exact hafter hle
    -- the row next to `a` moves up into its place
    have hlt := rank_lt hanti ha hb hle hne
    obtain ⟨c, hc, hcrank⟩ := exists_rank hanti hnodup (hlt.trans_le rank_le_length)
    have hca : c ≠ a := by
      rintro rfl
      omega
    have hac : le a c := by
      rcases Std.Total.total (r := le) a c with h | h
      · exact h
      · have hlt' := rank_lt hanti hc ha h hca
        omega
    have hmoved : IsTop le k (rows.erase a) c (rank le rows a) := by
      refine ⟨(mem_erase_of_ne hca).mpr hc, ?_, hrank⟩
      rw [rank_erase ha, if_pos hac, hcrank]
      omega
    have hold := ((hsame c _).mpr hmoved).2.2.1
    omega
  · intro hlast b n
    by_cases hba : b = a
    · subst hba
      simp [IsTop, hnodup.mem_erase_iff]
    · simp only [ne_eq, hba, not_false_eq_true, true_and, IsTop, mem_erase_of_ne hba,
        and_congr_right_iff]
      intro hb
      rw [rank_erase ha]
      by_cases hab : le a b
      · -- the row was not among the best, so neither are those after it
        rw [if_pos hab]
        have hout : k < rank le rows a := by
          by_contra hin
          have hle := hlast (not_lt.mp hin) b hb
          exact hba (hanti b hb a ha hle hab)
        have hlt := rank_lt hanti ha hb hab (Ne.symm hba)
        omega
      · rw [if_neg hab, Nat.sub_zero]

/-- `ROW_NUMBER()` gives the rows of a partition their ranks in it. -/
theorem mem_rowNumber_iff_rank {part : α → κ} [DecidableEq κ] (hnodup : rows.Nodup)
    (hanti : ∀ a ∈ rows, ∀ b ∈ rows, part a = part b → le a b → le b a → a = b) {n : ℕ} :
    (a, n) ∈ rowNumber part le rows ↔ a ∈ rows ∧ rank le (rows.filter fun b => part b = part a) a = n := by
  set group := rows.filter fun b => part b = part a with hgroup
  have hperm : (partitionSorted part le rows (part a)).Perm group := perm_insertionSort le _
  have hsorted : (partitionSorted part le rows (part a)).Pairwise le :=
    pairwise_insertionSort le _
  have hmem : ∀ b, b ∈ partitionSorted part le rows (part a) ↔ b ∈ rows ∧ part b = part a :=
    fun b => mem_partitionSorted
  have hanti' : Antisymm le (partitionSorted part le rows (part a)) := by
    intro x hx y hy
    obtain ⟨hx, hpx⟩ := (hmem x).mp hx
    obtain ⟨hy, hpy⟩ := (hmem y).mp hy
    exact hanti x hx y hy (hpx.trans hpy.symm)
  have hnodup' := hperm.nodup_iff.mpr (hnodup.filter _)
  rw [mem_rowNumber, getElem?_sorted_iff hsorted hnodup' hanti', rank_perm hperm, hmem]
  constructor
  · rintro ⟨_, ⟨ha, -⟩, _⟩
    exact ⟨ha, by omega⟩
  · rintro ⟨ha, _⟩
    have hpos : 0 < rank le group a := countP_pos_iff.mpr ⟨a, mem_filter.mpr ⟨ha, by simp⟩, by
        simpa using (Std.Total.total (r := le) a a).elim id id⟩
    exact ⟨by omega, ⟨ha, rfl⟩, by omega⟩

end Ranks

end ImmoApp
