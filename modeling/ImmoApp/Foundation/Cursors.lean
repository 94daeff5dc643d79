import Mathlib.Data.List.Basic
import Mathlib.Order.Lattice
import Mathlib.Tactic.Common

/-!
# Pages behind a cursor

The rows of a list come newest first: their keys descend.  A page is read behind a cursor, the key of a row that
was read before, or from the start.  `cursorAt key rows n` is the cursor behind which all but the first `n` rows
are, so that a walk that goes from page to page by the last key of each stays in step with the places in the list.
-/

namespace ImmoApp

open List

section Cursors

variable {α κ : Type*} (key : α → κ)

def lastKey (page : List α) : Option κ := page.getLast?.map key

/-- The cursor after the first `n` rows. -/
def cursorAt (rows : List α) (n : ℕ) : Option κ := lastKey key (rows.take n)

variable {key} {rows : List α} {n m : ℕ}

lemma lastKey_page (hm : 0 < m) (hfull : n + m ≤ rows.length) :
    lastKey key ((rows.drop n).take m) = cursorAt key rows (n + m) := by
  have hne : (rows.drop n).take m ≠ [] := by
    rw [Ne, take_eq_nil_iff, not_or, ← length_eq_zero_iff, length_drop]
    omega
  rw [cursorAt, take_add, lastKey, lastKey, getLast?_append_of_ne_nil _ hne]

lemma exists_cursorAt (hpos : 0 < n) (hn : n ≤ rows.length) : ∃ a ∈ rows, cursorAt key rows n = some (key a) := by
  have hne : rows.take n ≠ [] := by
    rw [Ne, take_eq_nil_iff, not_or, ← length_eq_zero_iff]
    omega
  refine ⟨(rows.take n).getLast hne, mem_of_mem_take (getLast_mem hne), ?_⟩
  rw [cursorAt, lastKey, getLast?_eq_some_getLast hne, Option.map_some]

variable [LinearOrder κ]

variable (key) in
/-- `WHERE key < cursor`. -/
def behind (cursor : Option κ) (rows : List α) : List α :=
  match cursor with
  | none => rows
  | some c => rows.filter fun a => key a < c

variable (key) in
/-- `WHERE key < cursor ORDER BY key DESC LIMIT n`, for rows whose keys descend. -/
def pageBehind (n : ℕ) (cursor : Option κ) (rows : List α) : List α := (behind key cursor rows).take n

lemma behind_cursorAt (hsorted : rows.Pairwise fun a b => key b < key a) (hn : n ≤ rows.length) :
    behind key (cursorAt key rows n) rows = rows.drop n := by
  rcases Nat.eq_zero_or_pos n with rfl | _
  · rfl
  · have hne : rows.take n ≠ [] := by
      rw [Ne, take_eq_nil_iff, not_or, ← length_eq_zero_iff]
      omega
    have hcursor : cursorAt key rows n = some (key ((rows.take n).getLast hne)) := by
      rw [cursorAt, lastKey, getLast?_eq_some_getLast hne, Option.map_some]
    rw [hcursor]
    -- the first rows end in the row of the cursor, the others come after it
    have hsplit := hsorted
    rw [← take_append_drop n rows, pairwise_append] at hsplit
    obtain ⟨hfirst, -, hafter⟩ := hsplit
    have hdrop : (rows.drop n).filter (fun a => key a < key ((rows.take n).getLast hne)) = rows.drop n := by
      rw [filter_eq_self]
      intro a ha
      simpa using hafter _ (getLast_mem hne) a ha
    have htake : (rows.take n).filter (fun a => key a < key ((rows.take n).getLast hne)) = [] := by
      rw [filter_eq_nil_iff]
      intro a ha
      rw [decide_eq_true_eq, not_lt]
      rw [← dropLast_append_getLast hne, pairwise_append] at hfirst
      rw [← dropLast_append_getLast hne] at ha
      rcases mem_append.mp ha with ha | ha
      · exact (hfirst.2.2 a ha _ (mem_singleton.mpr rfl)).le
      · exact le_of_eq (congrArg key (mem_singleton.mp ha)).symm
    calc rows.filter (fun a => key a < key ((rows.take n).getLast hne))
        = (rows.take n ++ rows.drop n).filter fun a => key a < key ((rows.take n).getLast hne) := by
          rw [take_append_drop]
      _ = rows.drop n := by rw [filter_append, htake, hdrop, nil_append]

lemma pageBehind_cursorAt (hsorted : rows.Pairwise fun a b => key b < key a) (hn : n ≤ rows.length) :
    pageBehind key m (cursorAt key rows n) rows = (rows.drop n).take m := by
  rw [pageBehind, behind_cursorAt hsorted hn]

end Cursors

section Images

variable {α β κ : Type*} (f : α → β) (key : β → κ) (rows : List α) (n : ℕ)

lemma lastKey_map : lastKey key (rows.map f) = lastKey (fun a => key (f a)) rows := by
  rw [lastKey, getLast?_map, Option.map_map]
  rfl

lemma cursorAt_map : cursorAt key (rows.map f) n = cursorAt (fun a => key (f a)) rows n := by
  rw [cursorAt, ← map_take, lastKey_map]
  rfl

lemma pageBehind_map [LinearOrder κ] (cursor : Option κ) :
    pageBehind key n cursor (rows.map f) = (pageBehind (fun a => key (f a)) n cursor rows).map f := by
  cases cursor with
  | none => rw [pageBehind, pageBehind, behind, behind, map_take]
  | some =>
    rw [pageBehind, pageBehind, map_take]
    simp only [behind, filter_map, Function.comp_def]

end Images

end ImmoApp
