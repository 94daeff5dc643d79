import ImmoApp.Foundation.Totals
import ImmoApp.Imports.Execution

/-!
# Stream slots

The slots are rows of `tenant_work_lease`: a slot is reserved for a provisional owner, assigned to a task, released by
its owner or cleared.  A table that these functions wrote has two kinds of rows (`Kept`): idle ones, and ones taken by
an owner for one task until some time, which `reserve_stream_slot` does not look at.

The tasks in flight of an agency are a sum over the rows whose lease runs (`activeInFlight_eq_total`).
-/

namespace ImmoApp

open Imports List Option

namespace Leases

structure SlotOwner where
  name : String
  stripped : strip name = name
  ne_empty : name ≠ ""

end Leases

open Leases

namespace Imports

deriving instance DecidableEq for WorkLease

namespace WorkLease

def Idle (row : WorkLease) : Prop := row.inFlight = 0 ∧ row.leaseOwner = none ∧ row.leaseUntil = none

def Taken (row : WorkLease) : Prop :=
  row.inFlight = 1 ∧ (∃ owner : SlotOwner, row.leaseOwner = some owner.name) ∧ row.leaseUntil ≠ none

variable {row : WorkLease} {owner : SlotOwner}

lemma owner?_of_leaseOwner (h : row.leaseOwner = some owner.name) : row.owner? = some owner.name := by
  rw [owner?, h, getD_some, owner.stripped, if_neg owner.ne_empty]

lemma Taken.held (h : row.Taken) : row.held = true := by
  obtain ⟨hflight, ⟨owner, howner⟩, huntil⟩ := h
  rw [WorkLease.held, owner?_of_leaseOwner howner, hflight]
  simpa using isSome_iff_ne_none.mpr huntil

lemma Idle.not_held (h : row.Idle) : row.held = false := by simp [WorkLease.held, h.1]

lemma idle_cleared (row : WorkLease) : row.cleared.Idle := ⟨rfl, rfl, rfl⟩

lemma Idle.taken_reserved (h : row.Idle) (owner : SlotOwner) (leaseSeconds now : ℕ) :
    (row.reserved owner.name leaseSeconds now).Taken := by
  refine ⟨?_, ⟨owner, rfl⟩, by simp [reserved]⟩
  rw [reserved, h.1]

end WorkLease

/-! ### Tables -/

namespace WorkLeases

def assignStreamOwner (k : LeaseKey) (fromOwner toOwner : String) (leaseSeconds now : ℕ) (t : WorkLeases) :
    WorkLeases :=
  t.update (fun k' row => k' == k && row.leaseOwner == some fromOwner) fun _ row =>
    { row with leaseOwner := some toOwner, leaseUntil := some (now + max 1 leaseSeconds) }

/-- The tables that the functions write, one call after the other. -/
inductive Reachable : WorkLeases → Prop
  | empty : Reachable Keyed.empty
  | reserve {t : WorkLeases} (k : LeaseKey) (owner : SlotOwner) (leaseSeconds maxInFlight now : ℕ) :
    Reachable t → Reachable (t.reserveStreamSlot k owner.name leaseSeconds maxInFlight now).2
  | assign {t : WorkLeases} (k : LeaseKey) (fromOwner : String) (toOwner : SlotOwner) (leaseSeconds now : ℕ) :
    Reachable t → Reachable (t.assignStreamOwner k fromOwner toOwner.name leaseSeconds now)
  | release {t : WorkLeases} (k : LeaseKey) (owner : String) : Reachable t → Reachable (t.releaseStreamSlot k owner)
  | clear {t : WorkLeases} (k : LeaseKey) : Reachable t → Reachable (t.clearStreamSlot k)

def Kept (t : WorkLeases) : Prop := ∀ k row, t.get? k = some row → row.Idle ∨ row.Taken

variable {t : WorkLeases} {k : LeaseKey} {row : WorkLease}

lemma Kept.idle_of_not_held (h : t.Kept) (hrow : t.get? k = some row) (hheld : row.held = false) : row.Idle := by
  refine (h k row hrow).resolve_right fun htaken => ?_
  rw [htaken.held] at hheld
  exact absurd hheld (by decide)

lemma Kept.set (h : t.Kept) (hrow : row.Idle ∨ row.Taken) : Kept (t.set k row) := by
  intro k' row' hget
  rw [Keyed.get?_set] at hget
  split at hget
  · cases hget
    exact hrow
  · exact h k' row' hget

lemma Kept.ensureRow (h : t.Kept) (k : LeaseKey) : Kept (t.ensureRow k) := by
  rw [WorkLeases.ensureRow]
  split
  · exact h
  · exact h.set (.inl ⟨rfl, rfl, rfl⟩)

lemma Kept.update (h : t.Kept) {p : LeaseKey → WorkLease → Bool} {f : LeaseKey → WorkLease → WorkLease}
    (hf : ∀ k row, t.get? k = some row → p k row = true → (f k row).Idle ∨ (f k row).Taken) :
    Kept (t.update p f) := by
  intro k row hget
  rw [Keyed.get?_update, map_eq_some_iff] at hget
  obtain ⟨old, hold, rfl⟩ := hget
  split
  · next hp => exact hf k old hold hp
  · exact h k old hold

lemma Reachable.kept (h : t.Reachable) : t.Kept := by
  induction h with
  | empty =>
    intro k row hrow
    cases hrow
  | @reserve _ k owner leaseSeconds _ now _ ih =>
    have hensure := ih.ensureRow k
    rw [reserveStreamSlot]
    split
    · exact hensure
    · next row hrow =>
      split
      · exact hensure
      · next hheld =>
        split
        · exact hensure
        · refine hensure.update fun k' row' hrow' hk => ?_
          obtain rfl : k' = k := by simpa using hk
          obtain rfl := some.inj (hrow.symm.trans hrow')
          have hidle := hensure.idle_of_not_held hrow (by simpa using hheld)
          exact .inr (hidle.taken_reserved owner leaseSeconds now)
  | @assign _ _ fromOwner toOwner _ _ _ ih =>
    refine ih.update fun k' row hrow howner => .inr ?_
    -- a row with an owner is taken, and it stays taken
    have howned : row.leaseOwner = some fromOwner := by
      simp only [Bool.and_eq_true, beq_iff_eq] at howner
      exact howner.2
    have htaken := (ih k' row hrow).resolve_left fun hidle => by simp [hidle.2.1] at howned
    exact ⟨htaken.1, ⟨toOwner, rfl⟩, by simp⟩
  | release _ _ _ ih => exact ih.update fun _ row _ _ => .inl row.idle_cleared
  | clear k _ ih => exact ih.update fun _ row _ _ => .inl row.idle_cleared

def liveUse (taskName : String) (agencyId now : ℕ) (k : LeaseKey) (row : WorkLease) : ℕ :=
  if k.taskName = taskName ∧ k.agencyId = agencyId ∧ row.active now = true then row.inFlight else 0

variable {taskName : String} {agencyId now now' : ℕ}

lemma activeInFlight_eq_total (taskName : String) (agencyId now : ℕ) (t : WorkLeases) :
    t.activeInFlight taskName agencyId now = t.total (liveUse taskName agencyId now) := by
  rw [activeInFlight, Keyed.total]
  induction t.entries with
  | nil => rfl
  | cons e _ ih =>
    rw [filter_cons, map_cons, sum_cons, ← ih, liveUse]
    by_cases hactive : e.1.taskName = taskName ∧ e.1.agencyId = agencyId ∧ e.2.active now = true
    · rw [if_pos (by simpa [and_assoc] using hactive), if_pos hactive, map_cons, sum_cons]
    · rw [if_neg (by simpa [and_assoc] using hactive), if_neg hactive, Nat.zero_add]

lemma liveUse_le_of_le (h : now ≤ now') (k : LeaseKey) (row : WorkLease) :
    liveUse taskName agencyId now' k row ≤ liveUse taskName agencyId now k row := by
  unfold liveUse
  split
  · next hlater =>
    obtain ⟨htask, hagency, hactive⟩ := hlater
    have hbefore : row.active now = true := by
      unfold WorkLease.active at hactive ⊢
      cases hlimit : row.leaseUntil with
      | none => simp [hlimit] at hactive
      | some =>
        simp only [hlimit, any_some, Bool.and_eq_true, decide_eq_true_eq] at hactive ⊢
        exact ⟨hactive.1, h.trans_lt hactive.2⟩
    rw [if_pos ⟨htask, hagency, hbefore⟩]
  · exact Nat.zero_le _

lemma liveUse_le_inFlight (k : LeaseKey) (row : WorkLease) : liveUse taskName agencyId now k row ≤ row.inFlight := by
  unfold liveUse
  split
  · exact le_rfl
  · exact Nat.zero_le _

end WorkLeases

end Imports

end ImmoApp
