import Mathlib.Data.List.Basic

/-!
# Programs that may raise

A program of `Except ε` raises or returns.  The rules take a program that returned apart: a sequence of two
programs returned when both did, and `raiseFirst`, which raises the first of a list of checks that fails,
returned when none fails.
-/

namespace ImmoApp

lemma bind_eq_ok_iff {ε α β : Type} {x : Except ε α} {f : α → Except ε β} {b : β} :
    (x >>= f) = .ok b ↔ ∃ a, x = .ok a ∧ f a = .ok b := by
  cases x with
  | error => simp [bind, Except.bind]
  | ok => simp [bind, Except.bind]

lemma map_eq_ok_iff {ε α β : Type} {x : Except ε α} {f : α → β} {b : β} :
    x.map f = .ok b ↔ ∃ a, x = .ok a ∧ f a = b := by
  cases x with
  | error => simp [Except.map]
  | ok => simp [Except.map]

lemma eq_ok_of_toOption {ε α : Type} {x : Except ε α} {v : α} (h : x.toOption = some v) : x = .ok v := by
  cases x with
  | error => cases h
  | ok => rw [Option.some.inj h]

def raiseFirst {ε : Type} (checks : List (Bool × ε)) : Except ε Unit :=
  match checks.find? Prod.fst with
  | some check => .error check.2
  | none => .ok ()

section Checks

variable {ε : Type} {checks : List (Bool × ε)}

lemma raiseFirst_ok_iff : raiseFirst checks = .ok () ↔ ∀ check ∈ checks, check.1 = false := by
  unfold raiseFirst
  split
  · next check hfind =>
    refine iff_of_false (by simp) fun h => ?_
    have hfails := List.find?_some hfind
    rw [h check (List.mem_of_find?_eq_some hfind)] at hfails
    exact absurd hfails (by simp)
  · next hfind =>
    refine iff_of_true rfl fun check hcheck => ?_
    simpa using List.find?_eq_none.mp hfind check hcheck

lemma raiseFirst_bind_eq_ok_iff {β : Type} {f : Unit → Except ε β} {b : β} :
    (raiseFirst checks >>= f) = .ok b ↔ (∀ check ∈ checks, check.1 = false) ∧ f () = .ok b := by
  rw [bind_eq_ok_iff, ← raiseFirst_ok_iff]
  constructor
  · rintro ⟨⟨⟩, hchecks, hb⟩
    exact ⟨hchecks, hb⟩
  · rintro ⟨hchecks, hb⟩
    exact ⟨(), hchecks, hb⟩

end Checks

end ImmoApp
