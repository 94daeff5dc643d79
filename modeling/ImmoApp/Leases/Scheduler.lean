import ImmoApp.Leases.Slots

/-!
# The scheduler of tenant tasks

`schedule_tenant_fair_task` reserves a slot, launches a task and assigns the slot to it.  When the slot has an owner
already, it asks the broker for the state of that task and coalesces onto an active one.  A broker says of a task that
it does not know that it is pending, and nobody looks at the time until which the owner has the slot.

`expired_slot_reserved_iff`: a slot whose lease has ended, in an agency with room, is reserved exactly when nobody is
left in its row.
-/

namespace ImmoApp

open Imports

namespace Leases

/-- `AsyncResult.status`. -/
inductive TaskState where
  | pending
  | received
  | started
  | retry
  | success
  | failure
  | revoked
  | custom (name : String)

/-- `ACTIVE_STATES`. -/
def TaskState.active : TaskState → Bool
  | .pending | .received | .started | .retry => true
  | .success | .failure | .revoked | .custom _ => false

/-- What the broker and its results say of tasks. -/
structure Broker where
  known : String → Prop
  status : String → TaskState
  status_of_not_known : ∀ id, ¬ known id → status id = .pending

/-! ### A call -/

inductive ScheduleStatus where
  | scheduled
  | coalesced
  | backpressure
  | failed

structure ScheduleResult where
  status : ScheduleStatus
  taskId : Option String
  state : Option TaskState

/-- What `launch_task` does. -/
inductive LaunchOutcome where
  | raised
  | returned (id : String)

structure ScheduleMoments where
  first : ℕ
  second : ℕ
  assigned : ℕ
  broker : Broker
  laterStatus : String → TaskState
  /-- What others commit before it releases the slot of a task that has ended. -/
  beforeRelease : WorkLeases → WorkLeases
  beforeSecond : WorkLeases → WorkLeases
  duringLaunch : WorkLeases → WorkLeases
  launch : LaunchOutcome

section Schedule

variable (k : LeaseKey) (provisionalOwner : SlotOwner) (leaseSeconds maxInFlight : ℕ) (m : ScheduleMoments)

/-- The end of a call that has reserved the slot, or has not; there is no result where `launch_task` raises. -/
def launchReserved (reserved : Bool) (t : WorkLeases) : Option ScheduleResult × WorkLeases :=
  if reserved then
    match m.launch with
    | .raised => (none, m.duringLaunch t)
    | .returned id =>
      if strip id = "" then
        (some ⟨.failed, none, none⟩, (m.duringLaunch t).releaseStreamSlot k provisionalOwner.name)
      else
        (some ⟨.scheduled, some (strip id), none⟩,
          (m.duringLaunch t).assignStreamOwner k provisionalOwner.name (strip id) leaseSeconds m.assigned)
  else (some ⟨.backpressure, none, none⟩, t)

def scheduleTenantFairTask (t : WorkLeases) : Option ScheduleResult × WorkLeases :=
  let r := t.reserveStreamSlot k provisionalOwner.name leaseSeconds maxInFlight m.first
  match r.1.1 with
  | none => launchReserved k provisionalOwner leaseSeconds m r.1.2 r.2
  | some active =>
    if (m.broker.status active).active then
      (some ⟨.coalesced, some active, some (m.broker.status active)⟩, r.2)
    else
      let released := (m.beforeRelease r.2).releaseStreamSlot k active
      let r' := (m.beforeSecond released).reserveStreamSlot k provisionalOwner.name leaseSeconds maxInFlight m.second
      match r'.1.1 with
      | none => launchReserved k provisionalOwner leaseSeconds m r'.1.2 r'.2
      | some other => (some ⟨.coalesced, some other, some (m.laterStatus other)⟩, r'.2)

end Schedule

/-- The call coalesced onto a task that does not exist. -/
def ScheduleMoments.CoalescesOnMissing (m : ScheduleMoments) (result : Option ScheduleResult) : Prop :=
  ∃ id state, result = some ⟨.coalesced, some id, state⟩ ∧ ¬ m.broker.known id

section Results

variable {k : LeaseKey} {provisionalOwner : SlotOwner} {leaseSeconds maxInFlight : ℕ} {m : ScheduleMoments}
  {t : WorkLeases} {row : WorkLease}

/-! ### A slot whose lease has ended -/

/-- `lease_until` is not after now. -/
def Expired (now : ℕ) (row : WorkLease) : Prop := ∀ limit ∈ row.leaseUntil, limit ≤ now

lemma reserveStreamSlot_of_not_held {now : ℕ} (hrow : t.get? k = some row) (hheld : row.held = false)
    (hroom : t.activeInFlight k.taskName k.agencyId now < max 1 maxInFlight) :
    (t.reserveStreamSlot k provisionalOwner.name leaseSeconds maxInFlight now).1 = (none, true) := by
  have hensure : t.ensureRow k = t := by rw [WorkLeases.ensureRow, if_pos (by rw [hrow]; rfl)]
  rw [WorkLeases.reserveStreamSlot, hensure, hrow]
  dsimp only
  rw [if_neg (by simp [hheld]), if_neg (Nat.not_le_of_lt hroom)]

lemma not_coalesced_of_reserved
    (h : (t.reserveStreamSlot k provisionalOwner.name leaseSeconds maxInFlight m.first).1 = (none, true)) :
    ¬ m.CoalescesOnMissing (scheduleTenantFairTask k provisionalOwner leaseSeconds maxInFlight m t).1 := by
  rintro ⟨_, _, hresult, -⟩
  unfold scheduleTenantFairTask at hresult
  simp only [h, launchReserved, if_true] at hresult
  split at hresult
  · cases hresult
  · split at hresult
    · cases hresult
    · cases hresult

/-- A slot whose owner the broker does not know: every call coalesces onto it, at any time, and leaves the row as
it is. -/
theorem schedule_of_missing {owner : String} (hrow : t.get? k = some row) (hheld : row.held = true)
    (howner : row.owner? = some owner) (hmissing : ¬ m.broker.known owner) :
    scheduleTenantFairTask k provisionalOwner leaseSeconds maxInFlight m t
      = (some ⟨.coalesced, some owner, some .pending⟩, t) := by
  have hensure : t.ensureRow k = t := by rw [WorkLeases.ensureRow, if_pos (by rw [hrow]; rfl)]
  have hactive : (m.broker.status owner).active = true := by
    rw [m.broker.status_of_not_known owner hmissing]
    rfl
  unfold scheduleTenantFairTask
  rw [WorkLeases.reserveStreamSlot_of_held hrow hheld, howner, hensure]
  dsimp only
  rw [if_pos hactive, m.broker.status_of_not_known owner hmissing]

lemma held_eq_false_iff (hkept : t.Kept) (hrow : t.get? k = some row) : row.held = false ↔ row.leaseUntil = none := by
  constructor
  · exact fun hheld => (hkept.idle_of_not_held hrow hheld).2.2
  · intro huntil
    refine (hkept k row hrow).elim WorkLease.Idle.not_held fun htaken => ?_
    exact absurd huntil htaken.2.2

/-- A slot whose lease does not run, in an agency with room: it is reserved, and the scheduler does not coalesce
onto a task that does not exist, exactly when the row has no `lease_until`.  A lease that has ended blocks its
slot. -/
theorem expired_slot_reserved_iff (hreach : t.Reachable) (hrow : t.get? k = some row)
    (_hexpired : Expired m.first row)
    (hroom : t.activeInFlight k.taskName k.agencyId m.first < max 1 maxInFlight) :
    ((t.reserveStreamSlot k provisionalOwner.name leaseSeconds maxInFlight m.first).1 = (none, true) ∧
      ¬ m.CoalescesOnMissing (scheduleTenantFairTask k provisionalOwner leaseSeconds maxInFlight m t).1) ↔
      row.leaseUntil = none := by
  rw [← held_eq_false_iff hreach.kept hrow]
  constructor
  · rintro ⟨hreserved, -⟩
    by_contra hheld
    rw [Bool.not_eq_false] at hheld
    rw [WorkLeases.reserveStreamSlot_of_held hrow hheld] at hreserved
    exact absurd (congrArg Prod.snd hreserved) Bool.false_ne_true
  · intro hheld
    have hreserved : (t.reserveStreamSlot k provisionalOwner.name leaseSeconds maxInFlight m.first).1 = (none, true) :=
      reserveStreamSlot_of_not_held hrow hheld hroom
    exact ⟨hreserved, not_coalesced_of_reserved hreserved⟩

end Results

def emptyBroker : Broker := ⟨fun _ => False, fun _ => .pending, fun _ _ => rfl⟩

/-- A call at a given time that meets nobody, with a broker that knows no task. -/
def lonelyCall (now : ℕ) : ScheduleMoments :=
  ⟨now, now, now, emptyBroker, fun _ => .pending, id, id, id, .returned "task-2"⟩

def clientsStream : LeaseKey := ⟨"matches_all", 7, "clients:all"⟩

def pendingOwner : SlotOwner := ⟨"pending-7", by decide +kernel, by decide⟩

def taskOwner : SlotOwner := ⟨"task-1", by decide +kernel, by decide⟩

def releasedSlots : WorkLeases :=
  (WorkLeases.reserveStreamSlot clientsStream pendingOwner.name 60 1 1000 Keyed.empty).2.releaseStreamSlot
    clientsStream pendingOwner.name

def assignedSlots : WorkLeases :=
  (WorkLeases.reserveStreamSlot clientsStream pendingOwner.name 60 1 1000 Keyed.empty).2.assignStreamOwner
    clientsStream pendingOwner.name taskOwner.name 60 1001

lemma reachable_assignedSlots : assignedSlots.Reachable :=
  (WorkLeases.Reachable.empty.reserve clientsStream pendingOwner 60 1 1000).assign clientsStream pendingOwner.name
    taskOwner 60 1001

theorem expired_slot_reserved_released :
    releasedSlots.Reachable ∧ releasedSlots.get? clientsStream = some ⟨0, none, none, 1⟩ ∧
      (releasedSlots.reserveStreamSlot clientsStream pendingOwner.name 60 1 5000).1 = (none, true) := by
  have hreach : releasedSlots.Reachable :=
    (WorkLeases.Reachable.empty.reserve clientsStream pendingOwner 60 1 1000).release clientsStream pendingOwner.name
  have hrow : releasedSlots.get? clientsStream = some ⟨0, none, none, 1⟩ := by decide +kernel
  refine ⟨hreach, hrow, ?_⟩
  have hroom : releasedSlots.activeInFlight "matches_all" 7 5000 < max 1 1 := by decide +kernel
  have hexpired : Expired (lonelyCall 5000).first ⟨0, none, none, 1⟩ := by simp [Expired]
  exact ((expired_slot_reserved_iff (m := lonelyCall 5000) hreach hrow hexpired hroom).mpr rfl).1

/-- The worker died an hour ago: the slot is not reserved, and the scheduler coalesces onto a task that does not
exist. -/
theorem expired_slot_blocks :
    ¬ ∀ (t : WorkLeases) (k : LeaseKey) (row : WorkLease) (owner : SlotOwner) (leaseSeconds maxInFlight : ℕ)
      (m : ScheduleMoments), t.Reachable → t.get? k = some row → Expired m.first row →
      t.activeInFlight k.taskName k.agencyId m.first < max 1 maxInFlight →
      (t.reserveStreamSlot k owner.name leaseSeconds maxInFlight m.first).1 = (none, true) ∧
        ¬ m.CoalescesOnMissing (scheduleTenantFairTask k owner leaseSeconds maxInFlight m t).1 := by
  intro h
  have hrow : assignedSlots.get? clientsStream = some ⟨1, some "task-1", some 1061, 1⟩ := by decide +kernel
  have hexpired : Expired (lonelyCall 5000).first ⟨1, some "task-1", some 1061, 1⟩ := by simp [Expired, lonelyCall]
  have hroom : assignedSlots.activeInFlight "matches_all" 7 5000 < max 1 1 := by decide +kernel
  obtain ⟨-, hcoalesced⟩ := h assignedSlots clientsStream _ pendingOwner 60 1 (lonelyCall 5000) reachable_assignedSlots
    hrow hexpired hroom
  have howner : WorkLease.owner? ⟨1, some "task-1", some 1061, 1⟩ = some "task-1" := by decide +kernel
  refine hcoalesced ⟨"task-1", some .pending, ?_, not_false⟩
  rw [schedule_of_missing hrow (by decide +kernel) howner not_false]

end Leases

end ImmoApp
