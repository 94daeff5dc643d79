import Mathlib.Data.List.Sort
import Mathlib.Order.Lattice
import Mathlib.Tactic.Common

/-!
# Pages by the key of their last row

A list whose keys do not descend is read in pages: a page is taken from the start, and the next from the rows whose key is
greater than that of its last row, until a page is empty.  No row is read twice, and `flatten_keysetPages_iff` says when
none is left out: rows of one key must not stand on two pages.
-/

namespace ImmoApp

open List Option

section Keysets

variable {α κ : Type*} [LinearOrder κ] (key : α → κ) (size : ℕ)

def behindPage (page rows : List α) : List α :=
  match page.getLast? with
  | none => rows
  | some last => rows.filter fun a => key last < key a

/-- The pages up to the first empty one, if so many requests reach it. -/
def keysetPages : ℕ → List α → Option (List (List α))
  | 0, _ => none
  | n + 1, rows =>
    if rows.take size = [] then some []
    else (keysetPages n (behindPage key (rows.take size) rows)).map (rows.take size :: ·)

/-- After any number of full pages the keys are greater. -/
def NoneCut (rows : List α) : Prop :=
  ∀ n, ∀ a ∈ rows.take (n * size), ∀ b ∈ rows.drop (n * size), key a < key b

variable {key size} {rows : List α}

lemma noneCut_iff : NoneCut key size rows ↔
    (∀ a ∈ rows.take size, ∀ b ∈ rows.drop size, key a < key b) ∧ NoneCut key size (rows.drop size) := by
  have hadd : ∀ n, (n + 1) * size = size + n * size := fun n => by rw [Nat.succ_mul, Nat.add_comm]
  constructor
  · refine fun h => ⟨fun a ha b hb => h 1 a (by rwa [Nat.one_mul]) b (by rwa [Nat.one_mul]), fun n a ha b hb => ?_⟩
    refine h (n + 1) a ?_ b ?_
    · rw [hadd, take_add]
      exact mem_append_right _ ha
    · rwa [hadd, ← drop_drop]
  · rintro ⟨hfirst, hrest⟩ n a ha b hb
    cases n with
    | zero => simp at ha
    | succ n =>
      rw [hadd, take_add] at ha
      rw [hadd, ← drop_drop] at hb
      rcases mem_append.mp ha with ha | ha
      · exact hfirst a ha b (mem_of_mem_drop hb)
      · exact hrest n a ha b hb

section

variable (hsorted : rows.Pairwise fun a b => key a ≤ key b)
include hsorted

/-- What is behind a page is among the rows after it, and is all of them exactly when their keys are greater. -/
lemma behindPage_take (hne : rows.take size ≠ []) : (behindPage key (rows.take size) rows).Sublist (rows.drop size) ∧
      (behindPage key (rows.take size) rows = rows.drop size ↔
        ∀ a ∈ rows.take size, ∀ b ∈ rows.drop size, key a < key b) := by
  obtain ⟨last, hlast⟩ := isSome_iff_exists.mp (getLast?_isSome.mpr hne)
  have hmax : ∀ a ∈ rows.take size, key a ≤ key last := by
    intro a ha
    obtain ⟨_, hinit⟩ := getLast?_eq_some_iff.mp hlast
    have hfirst := hsorted.sublist (take_sublist size rows)
    rw [hinit, pairwise_append] at hfirst
    rw [hinit] at ha
    rcases mem_append.mp ha with ha | ha
    · exact hfirst.2.2 a ha _ (mem_singleton.mpr rfl)
    · exact le_of_eq (congrArg key (mem_singleton.mp ha))
  have hnone : (rows.take size).filter (fun a => decide (key last < key a)) = [] :=
    filter_eq_nil_iff.mpr fun a ha => by simpa using hmax a ha
  have hbehind : behindPage key (rows.take size) rows = (rows.drop size).filter fun a => key last < key a := by
    calc behindPage key (rows.take size) rows
        = (rows.take size ++ rows.drop size).filter fun a => key last < key a := by
          rw [behindPage, hlast, take_append_drop]
      _ = (rows.drop size).filter fun a => key last < key a := by rw [filter_append, hnone, nil_append]
  rw [hbehind]
  refine ⟨filter_sublist, ?_⟩
  rw [filter_eq_self]
  simp only [decide_eq_true_eq]
  exact ⟨fun h a ha b hb => (hmax a ha).trans_lt (h b hb), fun h b hb => h _ (mem_of_getLast? hlast) b hb⟩

lemma sublist_keysetPages {n : ℕ} {pages : List (List α)}
    (hpages : keysetPages key size n rows = some pages) : pages.flatten.Sublist rows := by
  induction n generalizing rows pages with
  | zero => cases hpages
  | succ n ih =>
    rw [keysetPages] at hpages
    split at hpages
    · rw [← some.inj hpages]
      exact nil_sublist _
    · next hne =>
      obtain ⟨_, hrest, rfl⟩ := map_eq_some_iff.mp hpages
      have hbehind := (behindPage_take hsorted hne).1
      have hsub := (ih (hsorted.sublist (hbehind.trans (drop_sublist _ _))) hrest).trans hbehind
      rw [flatten_cons]
      conv_rhs => rw [← take_append_drop size rows]
      exact (List.Sublist.refl _).append hsub

/-- The requests reach an empty page. -/
lemma exists_keysetPages (hsize : 0 < size) {n : ℕ}
    (hn : rows.length < n) : ∃ pages, keysetPages key size n rows = some pages := by
  induction n generalizing rows with
  | zero => omega
  | succ n ih =>
    rw [keysetPages]
    split
    · exact ⟨[], rfl⟩
    · next hne =>
      have hbehind := (behindPage_take hsorted hne).1
      have hlength := hbehind.length_le
      rw [length_drop] at hlength
      have hpos : 0 < rows.length := by
        rw [length_pos_iff]
        rintro rfl
        exact hne take_nil
      obtain ⟨_, hpages⟩ := ih (hsorted.sublist (hbehind.trans (drop_sublist _ _))) (by omega)
      exact ⟨_, congrArg _ hpages⟩

/-- No row is left out exactly when rows of one key stand on one page. -/
theorem flatten_keysetPages_iff {n : ℕ} {pages : List (List α)}
    (hpages : keysetPages key size n rows = some pages) (hsize : 0 < size) :
    pages.flatten = rows ↔ NoneCut key size rows := by
  induction n generalizing rows pages with
  | zero => cases hpages
  | succ n ih =>
    rw [keysetPages] at hpages
    split at hpages
    · next hnil =>
      have hrows : rows = [] := (take_eq_nil_iff.mp hnil).resolve_left hsize.ne'
      rw [← some.inj hpages, hrows]
      simp [NoneCut]
    · next hne =>
      obtain ⟨rest, hrest, rfl⟩ := map_eq_some_iff.mp hpages
      obtain ⟨hbehind, hall⟩ := behindPage_take hsorted hne
      have hsorted' := hsorted.sublist (hbehind.trans (drop_sublist _ _))
      have hiff := ih hsorted' hrest
      have hsub := sublist_keysetPages hsorted' hrest
      rw [noneCut_iff, ← hall, flatten_cons]
      have happend : rows.take size ++ rest.flatten = rows ↔ rest.flatten = rows.drop size := by
        conv_lhs => rhs; rw [← take_append_drop size rows]
        exact append_cancel_left_eq _ _ _ |>.to_iff
      rw [happend]
      constructor
      · intro heq
        have hbehindEq : behindPage key (rows.take size) rows = rows.drop size :=
          hbehind.eq_of_length_le (heq ▸ hsub.length_le)
        exact ⟨hbehindEq, hbehindEq ▸ hiff.mp (heq.trans hbehindEq.symm)⟩
      · rintro ⟨hbehindEq, hnone⟩
        rw [← hbehindEq] at hnone
        rw [hiff.mpr hnone, hbehindEq]

end

end Keysets

section Sorting

variable {α : Type*} {r : α → α → Prop} [DecidableRel r] [Std.Total r] [IsTrans α r] (p : α → Bool)

omit [Std.Total r] in
lemma filter_orderedInsert {l : List α} (hsorted : l.Pairwise r) (a : α) :
    (l.orderedInsert r a).filter p = if p a then (l.filter p).orderedInsert r a else l.filter p := by
  have hfront : ∀ l' : List α, (∀ c ∈ l', r a c) → l'.orderedInsert r a = a :: l' := by
    intro l' h
    cases l' with
    | nil => rfl
    | cons c => simp [h c (mem_cons_self ..)]
  induction l with
  | nil => by_cases ha : p a = true <;> simp [ha]
  | cons b l ih =>
    obtain ⟨hfirst, hrest⟩ := pairwise_cons.mp hsorted
    by_cases hab : r a b
    · have hall : ∀ c ∈ b :: l, r a c := forall_mem_cons.mpr ⟨hab, fun c hc => IsTrans.trans _ _ _ hab (hfirst c hc)⟩
      rw [hfront _ hall, hfront _ fun c hc => hall c (mem_of_mem_filter hc)]
      by_cases ha : p a = true <;> simp [ha]
    · have hskip := ih hrest
      by_cases ha : p a = true <;> by_cases hb : p b = true <;> simp_all

lemma filter_insertionSort (l : List α) : (l.insertionSort r).filter p = (l.filter p).insertionSort r := by
  induction l with
  | nil => rfl
  | cons a l ih =>
    rw [insertionSort_cons, filter_orderedInsert p (pairwise_insertionSort r l), ih]
    by_cases ha : p a = true <;> simp [ha]

end Sorting

end ImmoApp
