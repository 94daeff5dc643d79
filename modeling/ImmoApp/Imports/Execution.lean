import ImmoApp.Foundation.Text
import ImmoApp.Imports.Phases

/-!
# The execution slot of an agency

An agency executes one import at a time.  A caller reserves the slot, a row of `tenant_work_lease`, and marks its job
RUNNING in a later transaction.  Where the slot is taken, a caller that sees no RUNNING job clears it and reserves it
again.  A job that ends leaves RUNNING first and releases the slot later.

`one_running_import`: in every run in which nobody clears the slot while another import holds it, and no job releases
the slot of its own later run, an agency has at most one RUNNING job.
-/

namespace ImmoApp.Imports

open Option Keyed

/-! ### The work leases -/

structure LeaseKey where
  taskName : String
  agencyId : ℕ
  streamKey : String
  deriving DecidableEq

/-- A row of `tenant_work_lease`. -/
structure WorkLease where
  inFlight : ℕ
  leaseOwner : Option String
  leaseUntil : Option ℕ
  attempt : ℕ

namespace WorkLease

/-- `str(lease_owner or "").strip() or None`. -/
def owner? (row : WorkLease) : Option String :=
  if strip (row.leaseOwner.getD "") = "" then none else some (strip (row.leaseOwner.getD ""))

/-- The slot has an owner, an expiry and a task in flight. -/
def held (row : WorkLease) : Bool := row.owner?.isSome && row.leaseUntil.isSome && decide (0 < row.inFlight)

def active (now : ℕ) (row : WorkLease) : Bool :=
  decide (0 < row.inFlight) && row.leaseUntil.any fun limit => decide (now < limit)

def reserved (provisionalOwner : String) (leaseSeconds now : ℕ) (row : WorkLease) : WorkLease where
  inFlight := row.inFlight + 1
  leaseOwner := some provisionalOwner
  leaseUntil := some (now + max 1 leaseSeconds)
  attempt := row.attempt + 1

def cleared (row : WorkLease) : WorkLease := { row with inFlight := 0, leaseOwner := none, leaseUntil := none }

end WorkLease

abbrev WorkLeases := Keyed LeaseKey WorkLease

namespace WorkLeases

def ensureRow (k : LeaseKey) (t : WorkLeases) : WorkLeases :=
  if (t.get? k).isSome then t else t.set k ⟨0, none, none, 0⟩

def activeInFlight (taskName : String) (agencyId now : ℕ) (t : WorkLeases) : ℕ :=
  ((t.entries.filter fun e => e.1.taskName == taskName && e.1.agencyId == agencyId &&
    e.2.active now).map fun e => e.2.inFlight).sum

/-- `reserve_stream_slot`: the owner that is there, and whether the slot was reserved. -/
def reserveStreamSlot (k : LeaseKey) (provisionalOwner : String) (leaseSeconds maxInFlight now : ℕ)
    (t : WorkLeases) : (Option String × Bool) × WorkLeases :=
  match (t.ensureRow k).get? k with
  | none => ((none, false), t.ensureRow k)
  | some row =>
    if row.held then ((row.owner?, false), t.ensureRow k)
    else if max 1 maxInFlight ≤ (t.ensureRow k).activeInFlight k.taskName k.agencyId now then
      ((none, false), t.ensureRow k)
    else ((none, true), (t.ensureRow k).update (fun k' _ => k' == k)
      fun _ row => row.reserved provisionalOwner leaseSeconds now)

def clearStreamSlot (k : LeaseKey) (t : WorkLeases) : WorkLeases :=
  t.update (fun k' _ => k' == k) fun _ row => row.cleared

def releaseStreamSlot (k : LeaseKey) (leaseOwner : String) (t : WorkLeases) : WorkLeases :=
  t.update (fun k' row => k' == k && row.leaseOwner == some leaseOwner) fun _ row => row.cleared

variable {k k' : LeaseKey} {owner : String} {leaseSeconds maxInFlight now : ℕ} {t : WorkLeases}

lemma get?_ensureRow_of_ne (h : k' ≠ k) : (t.ensureRow k).get? k' = t.get? k' := by
  rw [ensureRow]
  split
  · rfl
  · rw [get?_set, if_neg h]

variable {row : WorkLease}

lemma get?_ensureRow_of_some (h : t.get? k = some row) : (t.ensureRow k).get? k = some row := by
  rw [ensureRow, if_pos (by rw [h]; rfl), h]

lemma reserveStreamSlot_of_held (h : t.get? k = some row) (hheld : row.held = true) :
    reserveStreamSlot k owner leaseSeconds maxInFlight now t = ((row.owner?, false), t.ensureRow k) := by
  rw [reserveStreamSlot, get?_ensureRow_of_some h]
  exact if_pos hheld

lemma get?_reserveStreamSlot (h : (reserveStreamSlot k owner leaseSeconds maxInFlight now t).1.2 = true) :
    ∃ row : WorkLease, (reserveStreamSlot k owner leaseSeconds maxInFlight now t).2.get? k
      = some (row.reserved owner leaseSeconds now) := by
  rw [reserveStreamSlot] at h ⊢
  split at h
  · exact absurd h (by simp)
  · next row hrow =>
    by_cases hheld : row.held = true
    · rw [if_pos hheld] at h
      exact absurd h (by simp)
    · rw [if_neg hheld] at h ⊢
      split at h
      · exact absurd h (by simp)
      · next hfull =>
        rw [if_neg hfull]
        exact ⟨row, by simp [hrow]⟩

lemma get?_reserveStreamSlot_of_refused (hrow : t.get? k = some row)
    (h : (reserveStreamSlot k owner leaseSeconds maxInFlight now t).1.2 = false) :
    (reserveStreamSlot k owner leaseSeconds maxInFlight now t).2.get? k = some row := by
  have hensure := get?_ensureRow_of_some hrow
  rw [reserveStreamSlot, hensure] at h ⊢
  dsimp only at h ⊢
  by_cases hheld : row.held = true
  · rw [if_pos hheld]
    exact hensure
  · rw [if_neg hheld] at h ⊢
    split at h
    · next hfull =>
      rw [if_pos hfull]
      exact hensure
    · exact absurd h (by simp)

lemma exists_get?_ensureRow (k : LeaseKey) (t : WorkLeases) :
    ∃ row, (t.ensureRow k).get? k = some row ∧ (t.get? k = some row ∨ row.inFlight = 0) := by
  cases hrow : t.get? k with
  | some row => exact ⟨row, get?_ensureRow_of_some hrow, .inl rfl⟩
  | none => exact ⟨⟨0, none, none, 0⟩, by simp [ensureRow, hrow], .inr rfl⟩

lemma reserveStreamSlot_of_empty (hempty : ∀ row, t.get? k = some row → row.inFlight = 0)
    (hstream : ∀ k' row, t.get? k' = some row → k'.taskName = k.taskName → k'.agencyId = k.agencyId → k' = k) :
    (reserveStreamSlot k owner leaseSeconds maxInFlight now t).1.2 = true := by
  obtain ⟨row, hrow, hrow'⟩ := exists_get?_ensureRow k t
  have hzero : row.inFlight = 0 := hrow'.elim (hempty row) id
  have hnone : (t.ensureRow k).activeInFlight k.taskName k.agencyId now = 0 := by
    have hfilter : ((t.ensureRow k).entries.filter fun e => e.1.taskName == k.taskName &&
        e.1.agencyId == k.agencyId && e.2.active now) = [] := by
      rw [List.filter_eq_nil_iff]
      rintro ⟨k', row'⟩ he hactive
      simp only [Bool.and_eq_true, beq_iff_eq] at hactive
      obtain ⟨⟨htask, hagency⟩, hactive⟩ := hactive
      have hget : (t.ensureRow k).get? k' = some row' := mem_entries_iff.mp he
      have hk : k' = k := by
        by_contra hne
        rw [get?_ensureRow_of_ne hne] at hget
        exact hne (hstream k' row' hget htask hagency)
      subst hk
      obtain rfl : row = row' := some.inj (hrow.symm.trans hget)
      simp [WorkLease.active, hzero] at hactive
    rw [activeInFlight, hfilter]
    rfl
  rw [reserveStreamSlot, hrow]
  dsimp only
  rw [if_neg (by simp [WorkLease.held, hzero]), hnone, if_neg (by omega)]

lemma get?_reserveStreamSlot_of_ne (h : k' ≠ k) :
    (reserveStreamSlot k owner leaseSeconds maxInFlight now t).2.get? k' = t.get? k' := by
  rw [reserveStreamSlot]
  split
  · exact get?_ensureRow_of_ne h
  · split
    · exact get?_ensureRow_of_ne h
    · split
      · exact get?_ensureRow_of_ne h
      · rw [get?_update, get?_ensureRow_of_ne h]
        simp [h]

lemma get?_clearStreamSlot_of_ne (h : k' ≠ k) : (t.clearStreamSlot k).get? k' = t.get? k' := by
  simp [clearStreamSlot, h]

lemma get?_releaseStreamSlot_of_ne (hrow : t.get? k' = some row)
    (h : k' = k → row.leaseOwner ≠ some owner) : (t.releaseStreamSlot k owner).get? k' = some row := by
  rw [releaseStreamSlot, get?_update, hrow, map_some]
  by_cases hk : k' = k
  · simp [h hk]
  · simp [hk]

end WorkLeases

/-! ### The callers -/

/-- What the queue reads of a row of `ImportJob`. -/
structure QueueJob where
  agency : ℕ
  status : JobStatus
  createdAt : ℕ
  deriving DecidableEq

/-- `QueueClaimResult.status`. -/
inductive ClaimStatus where
  | running
  | queued
  | full

structure QueueClaimResult where
  status : ClaimStatus
  queuePosition : ℕ
  agencyQueueDepth : ℕ

/-- How far `dispatch_next_agency_import` is with the job that it locked. -/
inductive DispatchStage where
  | locked
  | refused
  | recovering
  | reserved
  /-- The job is marked, and the transaction is not committed. -/
  | marked

/-- How far `claim_execution_or_queue` is. -/
inductive ClaimStage where
  | start
  | refused
  | recovering
  | reserved
  | running
  | full
  | queueing
  | queued
  | counted (depth : ℕ)

inductive Caller where
  /-- A dispatcher that goes through the QUEUED jobs that it found. -/
  | selecting (agency : ℕ) (ids : List String)
  | dispatching (agency : ℕ) (job : String) (stage : DispatchStage)
  /-- A claim for a job, with the status that the job had when it was read. -/
  | claiming (agency : ℕ) (job : String) (seen : JobStatus) (stage : ClaimStage)

namespace Caller

def holds : Caller → Option (ℕ × String)
  | .dispatching agency job .reserved | .dispatching agency job .marked => some (agency, job)
  | .claiming agency job _ .reserved => some (agency, job)
  | _ => none

def locks : Caller → Option String
  | .dispatching _ job _ => some job
  | _ => none

def target : Caller → Option (ℕ × String)
  | .selecting _ _ => none
  | .dispatching agency job _ => some (agency, job)
  | .claiming agency job _ _ => some (agency, job)

end Caller

inductive CallResult where
  | claim (result : QueueClaimResult)
  | dispatched (started : Bool)

/-- The leases, the jobs and the calls under way. -/
structure ExecutionDesk where
  now : ℕ
  leases : WorkLeases
  jobs : Keyed String QueueJob
  callers : Keyed ℕ Caller
  ended : List String
  results : List (ℕ × CallResult)

/-- The slot of an agency: `_LEASE_TASK_NAME` and `_STREAM_KEY`. -/
def slotKey (agency : ℕ) : LeaseKey := ⟨"imports_execute", agency, "default"⟩

/-- `execution_owner_for_job`: the id is the text of its UUID. -/
def executionOwnerForJob (id : String) : String := "import-job:" ++ id

namespace ExecutionDesk

def agencyQueueDepth (agency : ℕ) (s : ExecutionDesk) : ℕ :=
  s.jobs.entries.countP fun e => e.2.agency == agency && e.2.status == .queued

/-- `queue_position_for_job` for a QUEUED job. -/
def queuePositionForJob (agency createdAt : ℕ) (s : ExecutionDesk) : ℕ :=
  s.jobs.entries.countP (fun e => e.2.agency == agency && e.2.status == .queued &&
    decide (e.2.createdAt < createdAt)) + 1

/-- `.order_by("created_at", "id")`. -/
def dispatchOrder (e e' : String × QueueJob) : Prop :=
  e.2.createdAt < e'.2.createdAt ∨ e.2.createdAt = e'.2.createdAt ∧ e.1 ≤ e'.1

instance : DecidableRel dispatchOrder := fun e e' =>
  inferInstanceAs (Decidable (e.2.createdAt < e'.2.createdAt ∨ e.2.createdAt = e'.2.createdAt ∧ e.1 ≤ e'.1))

def queuedIds (agency : ℕ) (s : ExecutionDesk) : List String :=
  ((s.jobs.entries.filter fun e => e.2.agency == agency && e.2.status == .queued).insertionSort
    dispatchOrder).map Prod.fst

def isQueued (agency : ℕ) (id : String) (s : ExecutionDesk) : Bool :=
  (s.jobs.get? id).any fun job => job.agency == agency && job.status == .queued

/-- The agency has a RUNNING job, one job left aside. -/
def hasRunning (agency : ℕ) (without : Option String) (s : ExecutionDesk) : Bool :=
  s.jobs.entries.any fun e => e.2.agency == agency && e.2.status == .running && some e.1 != without

def locked (id : String) (s : ExecutionDesk) : Bool := s.callers.entries.any fun e => e.2.locks == some id

def move (s : ExecutionDesk) (c : ℕ) (x : Caller) : ExecutionDesk := { s with callers := s.callers.set c x }

def leave (s : ExecutionDesk) (c : ℕ) : ExecutionDesk :=
  { s with callers := s.callers.delete fun i _ => i == c }

def answer (s : ExecutionDesk) (c : ℕ) (result : CallResult) : ExecutionDesk :=
  { s.leave c with results := s.results ++ [(c, result)] }

def setStatus (s : ExecutionDesk) (id : String) (status : JobStatus) : ExecutionDesk :=
  { s with jobs := s.jobs.update (fun i _ => i == id) fun _ job => { job with status := status } }

/-- `_reserve_execution_slot`, for half an hour and one job. -/
def reserveExecutionSlot (agency : ℕ) (id : String) (s : ExecutionDesk) : Bool × ExecutionDesk :=
  let r := s.leases.reserveStreamSlot (slotKey agency) (executionOwnerForJob id) (30 * 60) 1 s.now
  (r.1.2, { s with leases := r.2 })

def recoverAndReserveExecutionSlot (agency : ℕ) (id : String) (s : ExecutionDesk) : Bool × ExecutionDesk :=
  reserveExecutionSlot agency id { s with leases := s.leases.clearStreamSlot (slotKey agency) }

def releaseExecutionSlot (agency : ℕ) (id : String) (s : ExecutionDesk) : ExecutionDesk :=
  { s with leases := s.leases.releaseStreamSlot (slotKey agency) (executionOwnerForJob id) }

end ExecutionDesk

/-! ### Steps -/

inductive CallerStep where
  /-- A dispatcher locks the first job of its list that is still QUEUED. -/
  | select
  | reserve
  | look
  | recover
  | mark
  | commit
  | depth
  | queue
  | count
  | answer
  | crash

namespace ExecutionDesk

/-- A step of a call.  Who saves a row that is locked waits, and so does who wants to lock it. -/
def callerStep (s : ExecutionDesk) (c : ℕ) : Caller → CallerStep → Option ExecutionDesk
  | .selecting _ [], .select => some (s.answer c (.dispatched false))
  | .selecting agency (id :: ids), .select =>
    if s.locked id then none
    else if s.isQueued agency id then some (s.move c (.dispatching agency id .locked))
    else some (s.move c (.selecting agency ids))
  | .dispatching agency id .locked, .reserve =>
    let r := s.reserveExecutionSlot agency id
    some (r.2.move c (.dispatching agency id (if r.1 then .reserved else .refused)))
  | .dispatching agency id .refused, .look =>
    if s.hasRunning agency (some id) then some (s.answer c (.dispatched false))
    else some (s.move c (.dispatching agency id .recovering))
  | .dispatching agency id .recovering, .recover =>
    let r := s.recoverAndReserveExecutionSlot agency id
    if r.1 then some (r.2.move c (.dispatching agency id .reserved))
    else some (r.2.answer c (.dispatched false))
  | .dispatching agency id .reserved, .mark => some (s.move c (.dispatching agency id .marked))
  | .dispatching _ id .marked, .commit => some ((s.setStatus id .running).answer c (.dispatched true))
  | .claiming agency id seen .start, .reserve =>
    let r := s.reserveExecutionSlot agency id
    some (r.2.move c (.claiming agency id seen (if r.1 then .reserved else .refused)))
  | .claiming agency id seen .refused, .look =>
    some (s.move c (.claiming agency id seen (if s.hasRunning agency none then .full else .recovering)))
  | .claiming agency id seen .recovering, .recover =>
    let r := s.recoverAndReserveExecutionSlot agency id
    some (r.2.move c (.claiming agency id seen (if r.1 then .reserved else .full)))
  | .claiming agency id seen .reserved, .mark =>
    if s.locked id then none
    else some ((s.setStatus id .running).move c (.claiming agency id seen .running))
  | .claiming agency _ _ .running, .answer =>
    some (s.answer c (.claim ⟨.running, 0, s.agencyQueueDepth agency⟩))
  | .claiming agency id seen .full, .depth =>
    if 1 ≤ s.agencyQueueDepth agency ∧ seen ≠ .queued then some (s.answer c (.claim ⟨.full, 0, 1⟩))
    else some (s.move c (.claiming agency id seen .queueing))
  | .claiming agency id seen .queueing, .queue =>
    if s.locked id then none
    else some ((s.setStatus id .queued).move c (.claiming agency id seen .queued))
  | .claiming agency id seen .queued, .count =>
    some (s.move c (.claiming agency id seen (.counted (s.agencyQueueDepth agency))))
  | .claiming agency id _ (.counted depth), .answer =>
    (s.jobs.get? id).map fun job =>
      s.answer c (.claim ⟨.queued, s.queuePositionForJob agency job.createdAt, depth⟩)
  | _, .crash => some (s.leave c)
  | _, _ => none

end ExecutionDesk

inductive ExecutionStep where
  | upload (id : String) (agency : ℕ)
  | tick (seconds : ℕ)
  /-- `claim_execution_or_queue` is called, with or without `force_queue`. -/
  | claim (c : ℕ) (id : String) (forceQueue : Bool)
  /-- `dispatch_next_agency_import` is called. -/
  | dispatch (c : ℕ) (agency : ℕ)
  | call (c : ℕ) (a : CallerStep)
  /-- A job gets a status other than RUNNING. -/
  | save (id : String) (status : JobStatus)
  | release (id : String)

namespace ExecutionDesk

def step (s : ExecutionDesk) : ExecutionStep → Option ExecutionDesk
  | .upload id agency =>
    (s.jobs.insert? (id, ⟨agency, .pending, s.now⟩)).map fun jobs => { s with jobs := jobs }
  | .tick seconds => some { s with now := s.now + seconds }
  | .claim c id forceQueue =>
    if (s.callers.get? c).isSome then none
    else (s.jobs.get? id).map fun job =>
      s.move c (.claiming job.agency id job.status (if forceQueue then .full else .start))
  | .dispatch c agency =>
    if (s.callers.get? c).isSome then none else some (s.move c (.selecting agency (s.queuedIds agency)))
  | .call c a => (s.callers.get? c).bind fun x => s.callerStep c x a
  | .save id status =>
    if status = .running ∨ s.locked id then none
    else (s.jobs.get? id).map fun job =>
      { s.setStatus id status with
        ended := if job.status = .running then id :: s.ended else s.ended }
  | .release id =>
    if id ∈ s.ended then (s.jobs.get? id).map fun job => s.releaseExecutionSlot job.agency id else none

end ExecutionDesk

/-! ### Who holds the slot -/

namespace ExecutionDesk

/-- The imports that hold the slot of their agency: the RUNNING jobs, and the jobs for which a call has
reserved it. -/
def holders (s : ExecutionDesk) : List (ℕ × String) :=
  (s.jobs.entries.filterMap fun e => if e.2.status = .running then some (e.2.agency, e.1) else none) ++
    s.callers.entries.filterMap fun e => e.2.holds

def Placed (s : ExecutionDesk) : Prop :=
  ∀ c x agency id, s.callers.get? c = some x → x.target = some (agency, id) →
    ∃ job, s.jobs.get? id = some job ∧ job.agency = agency

def SlotOwned (s : ExecutionDesk) (agency : ℕ) (id : String) : Prop :=
  ∃ row, s.leases.get? (slotKey agency) = some row ∧ row.leaseOwner = some (executionOwnerForJob id) ∧ row.held = true

def OneStream (s : ExecutionDesk) : Prop :=
  ∀ k row, s.leases.get? k = some row → k.taskName = "imports_execute" → k.streamKey = "default"

/-- Every import that holds the slot owns its row. -/
structure Owned (s : ExecutionDesk) : Prop where
  stream : s.OneStream
  placed : s.Placed
  owned : ∀ agency id, (agency, id) ∈ s.holders → s.SlotOwned agency id

end ExecutionDesk

/-- Nobody clears the slot while another import of the agency holds it, and no job that has ended releases
the slot while it holds it again. -/
def SlotKept (s : ExecutionDesk) : ExecutionStep → Prop
  | .call c .recover => ∀ x ∈ s.callers.get? c, ∀ p ∈ x.target, ∀ h ∈ s.holders, h.1 = p.1 → h.2 = p.2
  | .release id => ∀ job ∈ s.jobs.get? id, (job.agency, id) ∉ s.holders
  | _ => True

instance (s : ExecutionDesk) : ∀ a, Decidable (SlotKept s a)
  | .call c .recover => inferInstanceAs (Decidable (∀ x ∈ s.callers.get? c, ∀ p ∈ x.target,
      ∀ h ∈ s.holders, h.1 = p.1 → h.2 = p.2))
  | .release id => inferInstanceAs (Decidable (∀ job ∈ s.jobs.get? id, (job.agency, id) ∉ s.holders))
  | .upload _ _ | .tick _ | .claim _ _ _ | .dispatch _ _ | .save _ _ => .isTrue trivial
  | .call _ .select | .call _ .reserve | .call _ .look | .call _ .mark | .call _ .commit
  | .call _ .depth | .call _ .queue | .call _ .count | .call _ .answer | .call _ .crash => .isTrue trivial

namespace ExecutionDesk

variable {s t : ExecutionDesk} {c agency : ℕ} {id : String} {x : Caller}

lemma mem_holders_iff : (agency, id) ∈ s.holders ↔
    (∃ job, s.jobs.get? id = some job ∧ job.status = .running ∧ job.agency = agency) ∨
      ∃ c x, s.callers.get? c = some x ∧ x.holds = some (agency, id) := by
  simp only [ExecutionDesk.holders, List.mem_append, List.mem_filterMap]
  refine or_congr ⟨?_, ?_⟩ ⟨?_, ?_⟩
  · rintro ⟨⟨i, job⟩, he, hjob⟩
    split at hjob
    · next hrunning =>
      obtain ⟨rfl, rfl⟩ := Prod.mk.inj (some.inj hjob)
      exact ⟨job, mem_entries_iff.mp he, hrunning, rfl⟩
    · exact absurd hjob (by simp)
  · rintro ⟨job, hget, hrunning, rfl⟩
    exact ⟨(id, job), mem_entries_iff.mpr hget, if_pos hrunning⟩
  · rintro ⟨⟨c, x⟩, he, hx⟩
    exact ⟨c, x, mem_entries_iff.mp he, hx⟩
  · rintro ⟨c, x, hget, hx⟩
    exact ⟨(c, x), mem_entries_iff.mpr hget, hx⟩

lemma executionOwnerForJob_injective : Function.Injective executionOwnerForJob := by
  intro id id' h
  exact (String.append_right_inj "import-job:").mp h

lemma strip_executionOwnerForJob_ne (id : String) : strip (executionOwnerForJob id) ≠ "" := by
  intro h
  have hspace := strip_eq_empty_iff.mp h 'i' (by simp [executionOwnerForJob])
  exact absurd hspace (by decide)

variable {id' : String} {agency' : ℕ} {h : ℕ × String}

lemma SlotOwned.unique (h : s.SlotOwned agency id) (h' : s.SlotOwned agency id') : id = id' := by
  obtain ⟨row, hrow, howner, -⟩ := h
  obtain ⟨row', hrow', howner', -⟩ := h'
  obtain rfl : row = row' := some.inj (hrow.symm.trans hrow')
  exact executionOwnerForJob_injective (some.inj (howner.symm.trans howner'))

lemma Owned.unique (hs : s.Owned) (h : (agency, id) ∈ s.holders) (h' : (agency, id') ∈ s.holders) : id = id' :=
  (hs.owned agency id h).unique (hs.owned agency id' h')

/-! ### Reserving and releasing -/

lemma SlotOwned.refused (h : s.SlotOwned agency id) (id' : String) :
    (s.reserveExecutionSlot agency id').1 = false := by
  obtain ⟨_, hrow, -, hheld⟩ := h
  rw [ExecutionDesk.reserveExecutionSlot, WorkLeases.reserveStreamSlot_of_held hrow hheld]

lemma slotOwned_of_reserved (h : (s.reserveExecutionSlot agency id).1 = true) :
    (s.reserveExecutionSlot agency id).2.SlotOwned agency id := by
  obtain ⟨_, hrow⟩ := WorkLeases.get?_reserveStreamSlot h
  refine ⟨_, hrow, rfl, ?_⟩
  simp [WorkLease.held, WorkLease.owner?, WorkLease.reserved, strip_executionOwnerForJob_ne]

lemma SlotOwned.reserve (h : s.SlotOwned agency' id') :
    (s.reserveExecutionSlot agency id).2.SlotOwned agency' id' := by
  by_cases hagency : agency' = agency
  · subst hagency
    have hrefused := h.refused id
    obtain ⟨row, hrow, howner⟩ := h
    exact ⟨row, WorkLeases.get?_reserveStreamSlot_of_refused hrow hrefused, howner⟩
  · have hkey : slotKey agency' ≠ slotKey agency := fun h => hagency (congrArg LeaseKey.agencyId h)
    obtain ⟨row, hrow, howner⟩ := h
    exact ⟨row, (WorkLeases.get?_reserveStreamSlot_of_ne hkey).trans hrow, howner⟩

lemma SlotOwned.recover (h : s.SlotOwned agency' id')
    (hother : agency' ≠ agency) : (s.recoverAndReserveExecutionSlot agency id).2.SlotOwned agency' id' := by
  have hkey : slotKey agency' ≠ slotKey agency := fun h => hother (congrArg LeaseKey.agencyId h)
  obtain ⟨row, hrow, howner⟩ := h
  refine SlotOwned.reserve ⟨row, ?_, howner⟩
  exact (WorkLeases.get?_clearStreamSlot_of_ne hkey).trans hrow

lemma SlotOwned.release (h : s.SlotOwned agency' id') (hother : (agency', id') ≠ (agency, id)) :
    (s.releaseExecutionSlot agency id).SlotOwned agency' id' := by
  obtain ⟨row, hrow, howner, hheld⟩ := h
  refine ⟨row, WorkLeases.get?_releaseStreamSlot_of_ne hrow fun hkey heq => ?_, howner, hheld⟩
  have hid := executionOwnerForJob_injective (some.inj (howner.symm.trans heq))
  exact hother (Prod.ext (congrArg LeaseKey.agencyId hkey) hid)

lemma recoverAndReserve_eq_true (hs : s.OneStream) : (s.recoverAndReserveExecutionSlot agency id).1 = true := by
  refine WorkLeases.reserveStreamSlot_of_empty (fun row hrow => ?_) fun k row hrow htask hagency => ?_
  · rw [WorkLeases.clearStreamSlot, get?_update] at hrow
    obtain ⟨row', -, rfl⟩ := map_eq_some_iff.mp hrow
    simp [WorkLease.cleared]
  · rw [WorkLeases.clearStreamSlot, get?_update] at hrow
    obtain ⟨row', hrow', -⟩ := map_eq_some_iff.mp hrow
    have hstream := hs k row' hrow' htask
    cases k
    simp_all [slotKey]

lemma OneStream.reserve (hs : s.OneStream) : (s.reserveExecutionSlot agency id).2.OneStream := by
  intro k row hrow htask
  by_cases hk : k = slotKey agency
  · rw [hk]
    rfl
  · exact hs k row ((WorkLeases.get?_reserveStreamSlot_of_ne hk).symm.trans hrow) htask

lemma OneStream.update {p : LeaseKey → WorkLease → Bool} {f : LeaseKey → WorkLease → WorkLease}
    (hs : s.OneStream) : OneStream { s with leases := s.leases.update p f } := by
  intro k row hrow htask
  obtain ⟨row', hrow', -⟩ := map_eq_some_iff.mp ((get?_update p f _ k).symm.trans hrow)
  exact hs k row' hrow' htask

/-! ### What the parts of a step keep -/

lemma mem_holders_move (hh : h ∈ (s.move c x).holders) : h ∈ s.holders ∨ x.holds = some h := by
  rcases mem_holders_iff.mp hh with hjob | ⟨d, y, hget, hy⟩
  · exact .inl (mem_holders_iff.mpr (.inl hjob))
  · rw [ExecutionDesk.move, get?_set] at hget
    split at hget
    · cases hget
      exact .inr hy
    · exact .inl (mem_holders_iff.mpr (.inr ⟨d, y, hget, hy⟩))

lemma get?_leave_eq_some {d : ℕ} {y : Caller} (h : (s.leave c).callers.get? d = some y) :
    s.callers.get? d = some y := by
  rw [ExecutionDesk.leave, get?_delete] at h
  exact (filter_eq_some_iff.mp h).1

lemma mem_holders_leave (hh : h ∈ (s.leave c).holders) : h ∈ s.holders := by
  rcases mem_holders_iff.mp hh with hjob | ⟨d, y, hget, hy⟩
  · exact mem_holders_iff.mpr (.inl hjob)
  · exact mem_holders_iff.mpr (.inr ⟨d, y, get?_leave_eq_some hget, hy⟩)

lemma get?_setStatus {status : JobStatus} : (s.setStatus id status).jobs.get? id'
      = (s.jobs.get? id').map fun job => if id' = id then { job with status := status } else job := by
  simp [setStatus]

lemma mem_holders_setStatus {status : JobStatus} (hh : h ∈ (s.setStatus id status).holders) :
    h ∈ s.holders ∨ status = .running ∧ h.2 = id ∧ ∃ job, s.jobs.get? id = some job ∧ job.agency = h.1 := by
  obtain ⟨_, id'⟩ := h
  rcases mem_holders_iff.mp hh with ⟨_, hget, hrunning, hagency⟩ | hcaller
  · rw [get?_setStatus] at hget
    obtain ⟨job', hjob', rfl⟩ := map_eq_some_iff.mp hget
    by_cases hid : id' = id
    · subst hid
      rw [if_pos rfl] at hrunning hagency
      exact .inr ⟨hrunning, rfl, job', hjob', hagency⟩
    · rw [if_neg hid] at hrunning hagency
      exact .inl (mem_holders_iff.mpr (.inl ⟨job', hjob', hrunning, hagency⟩))
  · exact .inl (mem_holders_iff.mpr (.inr hcaller))

variable {x' : Caller}

lemma Owned.enter (hs : s.Owned) (htarget : ∀ agency id, x'.target = some (agency, id) →
      ∃ job, s.jobs.get? id = some job ∧ job.agency = agency)
    (hholds : ∀ agency id, x'.holds = some (agency, id) → s.SlotOwned agency id) : (s.move c x').Owned where
  stream := hs.stream
  placed := by
    intro d y agency id hget hy
    rw [ExecutionDesk.move, get?_set] at hget
    split at hget
    · obtain ⟨⟩ := hget
      exact htarget agency id hy
    · exact hs.placed d y agency id hget hy
  owned := by
    intro agency id hh
    rcases mem_holders_move hh with hh | hh
    · exact hs.owned agency id hh
    · exact hholds agency id hh

lemma Owned.move (hs : s.Owned) (hx : s.callers.get? c = some x) (htarget : x'.target = x.target)
    (hholds : ∀ agency id, x'.holds = some (agency, id) → s.SlotOwned agency id) : (s.move c x').Owned :=
  hs.enter (fun agency id h => hs.placed c x agency id hx (htarget.symm.trans h)) hholds

lemma Owned.leave (hs : s.Owned) : (s.leave c).Owned where
  stream := hs.stream
  placed := fun d y agency id hget hy => hs.placed d y agency id (get?_leave_eq_some hget) hy
  owned := fun agency id hh => hs.owned agency id (mem_holders_leave hh)

lemma Owned.answer {result : CallResult} (hs : s.Owned) : (s.answer c result).Owned :=
  have hleave := hs.leave (c := c)
  ⟨hleave.stream, hleave.placed, hleave.owned⟩

lemma Owned.setStatus (hs : s.Owned) (id : String) (status : JobStatus)
    (hrunning : status = .running → ∀ job, s.jobs.get? id = some job → s.SlotOwned job.agency id) :
    (s.setStatus id status).Owned where
  stream := hs.stream
  placed := by
    intro d y agency id' hget hy
    obtain ⟨job, hjob, hagency⟩ := hs.placed d y agency id' hget hy
    refine ⟨_, get?_setStatus.trans (congrArg _ hjob), ?_⟩
    dsimp only
    split
    · exact hagency
    · exact hagency
  owned := by
    intro agency id' hh
    rcases mem_holders_setStatus hh with hh | ⟨hst, hid, job, hjob, hagency⟩
    · exact hs.owned agency id' hh
    · obtain rfl : id' = id := hid
      obtain rfl : job.agency = agency := hagency
      exact hrunning hst job hjob

lemma Owned.reserve (hs : s.Owned) (agency : ℕ) (id : String) : (s.reserveExecutionSlot agency id).2.Owned where
  stream := hs.stream.reserve
  placed := hs.placed
  owned := fun agency' id' hh => (hs.owned agency' id' hh).reserve

lemma Owned.recover (hs : s.Owned) (hother : ∀ h ∈ s.holders, h.1 = agency → h.2 = id) :
    (s.recoverAndReserveExecutionSlot agency id).2.Owned where
  stream := OneStream.reserve hs.stream.update
  placed := hs.placed
  owned := by
    intro agency' id' hh
    by_cases hagency : agency' = agency
    · obtain rfl : id' = id := hother (agency', id') hh hagency
      subst hagency
      exact slotOwned_of_reserved (recoverAndReserve_eq_true hs.stream)
    · exact (hs.owned agency' id' hh).recover hagency

lemma Owned.release (hs : s.Owned) (hfree : (agency, id) ∉ s.holders) : (s.releaseExecutionSlot agency id).Owned where
  stream := hs.stream.update
  placed := hs.placed
  owned := fun agency' id' hh =>
    (hs.owned agency' id' hh).release fun heq => hfree (heq ▸ hh)

lemma Owned.setStatus_running (hs : s.Owned) (hx : s.callers.get? c = some x)
    (htarget : x.target = some (agency, id)) (hholds : x.holds = some (agency, id)) :
    (s.setStatus id .running).Owned := by
  refine hs.setStatus _ _ fun _ job hjob => ?_
  obtain ⟨job', hjob', hagency⟩ := hs.placed c x agency id hx htarget
  obtain rfl : job = job' := some.inj (hjob.symm.trans hjob')
  rw [hagency]
  exact hs.owned agency id (mem_holders_iff.mpr (.inr ⟨c, x, hx, hholds⟩))

lemma Owned.reserve_move (hs : s.Owned) (hx : s.callers.get? c = some x) (htarget : x'.target = x.target)
    (hholds : ∀ h, x'.holds = some h → h = (agency, id) ∧ (s.reserveExecutionSlot agency id).1 = true) :
    ((s.reserveExecutionSlot agency id).2.move c x').Owned := by
  refine (hs.reserve agency id).move hx htarget fun agency' id' h => ?_
  obtain ⟨heq, hres⟩ := hholds _ h
  obtain ⟨rfl, rfl⟩ := Prod.mk.inj heq
  exact slotOwned_of_reserved hres

lemma Owned.recover_move (hs : s.Owned) (hx : s.callers.get? c = some x)
    (hother : ∀ h ∈ s.holders, h.1 = agency → h.2 = id) (htarget : x'.target = x.target)
    (hholds : ∀ h, x'.holds = some h → h = (agency, id)) :
    ((s.recoverAndReserveExecutionSlot agency id).2.move c x').Owned := by
  refine (hs.recover hother).move hx htarget fun agency' id' h => ?_
  obtain ⟨rfl, rfl⟩ := Prod.mk.inj (hholds _ h)
  exact slotOwned_of_reserved (recoverAndReserve_eq_true hs.stream)

lemma Owned.callerStep {a : CallerStep} (hs : s.Owned) (hx : s.callers.get? c = some x)
    (hkept : SlotKept s (.call c a)) (hstep : s.callerStep c x a = some t) : t.Owned := by
  rw [ExecutionDesk.callerStep.eq_def] at hstep
  split at hstep
  -- a dispatcher
  · cases hstep
    exact hs.answer
  · next agency id ids =>
    split at hstep
    · cases hstep
    split at hstep
    · next hqueued =>
      cases hstep
      refine hs.enter (fun agency' id' h => ?_) fun _ _ h => by cases h
      cases h
      obtain ⟨job, hjob, hagency⟩ := (any_eq_true _ _).mp hqueued
      simp only [Bool.and_eq_true, beq_iff_eq] at hagency
      exact ⟨job, hjob, hagency.1⟩
    · cases hstep
      exact hs.move hx rfl fun _ _ h => by cases h
  · next agency id =>
    cases hstep
    refine hs.reserve_move hx rfl fun h hh => ?_
    cases hres : (s.reserveExecutionSlot agency id).1 with
    | true =>
      rw [hres, if_pos rfl] at hh
      exact ⟨(some.inj hh).symm, rfl⟩
    | false =>
      rw [hres, if_neg (by simp)] at hh
      cases hh
  · split at hstep
    · cases hstep
      exact hs.answer
    · cases hstep
      exact hs.move hx rfl fun _ _ h => by cases h
  · next agency id =>
    have hother := hkept _ hx _ rfl
    dsimp only at hstep
    split at hstep
    · cases hstep
      exact hs.recover_move hx hother rfl fun h hh => (some.inj hh).symm
    · cases hstep
      exact (hs.recover hother).answer
  · next agency id =>
    cases hstep
    refine hs.move hx rfl fun agency' id' h => ?_
    exact hs.owned agency' id' (mem_holders_iff.mpr (.inr ⟨c, _, hx, h⟩))
  · cases hstep
    exact (hs.setStatus_running hx rfl rfl).answer
  -- a claim
  · next agency id seen =>
    cases hstep
    refine hs.reserve_move hx rfl fun h hh => ?_
    cases hres : (s.reserveExecutionSlot agency id).1 with
    | true =>
      rw [hres, if_pos rfl] at hh
      exact ⟨(some.inj hh).symm, rfl⟩
    | false =>
      rw [hres, if_neg (by simp)] at hh
      cases hh
  · next agency id seen =>
    cases hstep
    refine hs.move hx rfl fun _ _ h => ?_
    cases hrunning : s.hasRunning agency none with
    | true => rw [hrunning] at h; cases h
    | false => rw [hrunning] at h; cases h
  · next agency id seen =>
    cases hstep
    refine hs.recover_move hx (hkept _ hx _ rfl) rfl fun h hh => ?_
    rw [recoverAndReserve_eq_true hs.stream, if_pos rfl] at hh
    exact (some.inj hh).symm
  · split at hstep
    · cases hstep
    · cases hstep
      exact (hs.setStatus_running hx rfl rfl).move hx rfl fun _ _ h => by cases h
  · cases hstep
    exact hs.answer
  · split at hstep
    · cases hstep
      exact hs.answer
    · cases hstep
      exact hs.move hx rfl fun _ _ h => by cases h
  · split at hstep
    · cases hstep
    · cases hstep
      exact (hs.setStatus _ _ fun h => by cases h).move hx rfl fun _ _ h => by cases h
  · cases hstep
    exact hs.move hx rfl fun _ _ h => by cases h
  · obtain ⟨_, -, rfl⟩ := map_eq_some_iff.mp hstep
    exact hs.answer
  · cases hstep
    exact hs.leave
  · cases hstep

end ExecutionDesk

structure ExecutionDesk.Idle (s : ExecutionDesk) : Prop where
  stream : s.OneStream
  jobs : ∀ id job, s.jobs.get? id = some job → job.status ≠ .running
  callers : ∀ c, s.callers.get? c = none

def ExecutionDesk.OneRunning (s : ExecutionDesk) : Prop :=
  ∀ id id' job job', s.jobs.get? id = some job → s.jobs.get? id' = some job' →
    job.status = .running → job'.status = .running → job.agency = job'.agency → id = id'

section Runs

variable {s t : ExecutionDesk}

lemma ExecutionDesk.Idle.owned (hs : s.Idle) : s.Owned where
  stream := hs.stream
  placed := by
    intro c x agency id hget
    rw [hs.callers c] at hget
    cases hget
  owned := by
    intro agency id hh
    rcases ExecutionDesk.mem_holders_iff.mp hh with ⟨job, hget, hrunning, -⟩ | ⟨c, x, hget, -⟩
    · exact absurd hrunning (hs.jobs id job hget)
    · rw [hs.callers c] at hget
      cases hget

lemma ExecutionDesk.Owned.upload {id : String} {agency : ℕ} (hs : s.Owned)
    (hstep : s.step (.upload id agency) = some t) : t.Owned := by
  obtain ⟨_, hinsert, rfl⟩ := map_eq_some_iff.mp hstep
  rw [Keyed.insert?] at hinsert
  split at hinsert
  · cases hinsert
  next hnew =>
  cases hinsert
  have hnone : s.jobs.get? id = none := by simpa using hnew
  have hget : ∀ id' job, s.jobs.get? id' = some job →
      (s.jobs.set id ⟨agency, .pending, s.now⟩).get? id' = some job := by
    intro id' job hjob
    rw [get?_set, if_neg, hjob]
    rintro rfl
    rw [hnone] at hjob
    cases hjob
  refine ⟨hs.stream, fun c x agency' id' hx htarget => ?_, fun agency' id' hh => ?_⟩
  · obtain ⟨job, hjob, hagency⟩ := hs.placed c x agency' id' hx htarget
    exact ⟨job, hget id' job hjob, hagency⟩
  · refine hs.owned agency' id' (ExecutionDesk.mem_holders_iff.mpr ?_)
    rcases ExecutionDesk.mem_holders_iff.mp hh with ⟨job, hjob, hrunning, hagency⟩ | hcaller
    · rw [get?_set] at hjob
      split at hjob
      · cases hjob
        cases hrunning
      · exact .inl ⟨job, hjob, hrunning, hagency⟩
    · exact .inr hcaller

lemma ExecutionDesk.Owned.step {a : ExecutionStep} (hs : s.Owned) (hkept : SlotKept s a)
    (hstep : s.step a = some t) : t.Owned := by
  cases a with
  | upload => exact hs.upload hstep
  | tick =>
    cases hstep
    exact ⟨hs.stream, hs.placed, hs.owned⟩
  | claim _ _ forceQueue =>
    rw [ExecutionDesk.step] at hstep
    split at hstep
    · cases hstep
    · obtain ⟨job, hjob, rfl⟩ := map_eq_some_iff.mp hstep
      refine hs.enter (fun agency id' h => ?_) fun _ _ h => ?_
      · cases h
        exact ⟨job, hjob, rfl⟩
      · cases forceQueue with
        | true => cases h
        | false => cases h
  | dispatch =>
    rw [ExecutionDesk.step] at hstep
    split at hstep
    · cases hstep
    · cases hstep
      exact hs.enter (fun _ _ h => by cases h) fun _ _ h => by cases h
  | call =>
    obtain ⟨x, hx, hcall⟩ := bind_eq_some_iff.mp hstep
    exact hs.callerStep hx hkept hcall
  | save id status =>
    rw [ExecutionDesk.step] at hstep
    split at hstep
    · cases hstep
    next hsave =>
    obtain ⟨job, -, rfl⟩ := map_eq_some_iff.mp hstep
    have hset := hs.setStatus id status fun h => absurd (.inl h) hsave
    exact ⟨hset.stream, hset.placed, hset.owned⟩
  | release =>
    rw [ExecutionDesk.step] at hstep
    split at hstep
    · obtain ⟨job, hjob, rfl⟩ := map_eq_some_iff.mp hstep
      exact hs.release (hkept job hjob)
    · cases hstep

lemma ExecutionDesk.Owned.oneRunning (hs : s.Owned) : s.OneRunning := by
  intro id id' job job' hjob hjob' hrunning hrunning' hagency
  have hholder : (job.agency, id) ∈ s.holders :=
    ExecutionDesk.mem_holders_iff.mpr (.inl ⟨job, hjob, hrunning, rfl⟩)
  have hholder' : (job.agency, id') ∈ s.holders :=
    ExecutionDesk.mem_holders_iff.mpr (.inl ⟨job', hjob', hrunning', hagency.symm⟩)
  exact hs.unique hholder hholder'

end Runs

/-- In every run in which nobody clears the slot while another import holds it, and no job that has ended
releases the slot of its own later run, an agency has at most one RUNNING job. -/
theorem one_running_import {s t : ExecutionDesk} {as : List ExecutionStep} (hs : s.Idle)
    (hg : Guarded ExecutionDesk.step SlotKept s as) (hrun : run ExecutionDesk.step s as = some t) :
    t.OneRunning := by
  have howned : t.Owned :=
    run_invariant (P := ExecutionDesk.Owned) (fun _ _ _ hu hc hstep => hu.step hc hstep) hs.owned hg hrun
  exact howned.oneRunning

def emptyDesk : ExecutionDesk where
  now := 0
  leases := .empty
  jobs := .empty
  callers := .empty
  ended := []
  results := []

lemma emptyDesk_idle : emptyDesk.Idle where
  stream := by
    intro k row hget
    cases hget
  jobs := by
    intro id job hget
    cases hget
  callers := fun c => rfl

/-- One import runs while another one waits; it ends, and the other one is dispatched. -/
def oneAfterTheOther : List ExecutionStep :=
  [.upload "a" 1, .upload "b" 1, .claim 1 "a" false, .call 1 .reserve, .claim 2 "b" false,
    .call 1 .mark, .call 2 .reserve, .call 2 .look, .call 2 .depth, .call 2 .queue, .call 2 .count,
    .call 1 .answer, .call 2 .answer, .save "a" .completed, .release "a", .dispatch 3 1, .call 3 .select,
    .call 3 .reserve, .call 3 .mark, .call 3 .commit]

theorem one_running_import_dispatched : ∃ t, run ExecutionDesk.step emptyDesk oneAfterTheOther = some t ∧
    (t.jobs.get? "b").map QueueJob.status = some .running ∧ t.OneRunning := by
  have hrunning : (run ExecutionDesk.step emptyDesk oneAfterTheOther).map
      (fun t => (t.jobs.get? "b").map QueueJob.status) = some (some .running) := by
    decide +kernel
  obtain ⟨t, ht, hstatus⟩ := map_eq_some_iff.mp hrunning
  exact ⟨t, ht, hstatus, one_running_import emptyDesk_idle (by decide +kernel) ht⟩

/-- Two claims: the second one comes between the reservation of the first and its mark, sees no RUNNING job
and recovers the slot. -/
def recoveredTooEarly : List ExecutionStep :=
  [.upload "a" 1, .upload "b" 1, .claim 1 "a" false, .call 1 .reserve, .claim 2 "b" false,
    .call 2 .reserve, .call 2 .look, .call 1 .mark, .call 2 .recover, .call 2 .mark]

/-- Both imports are RUNNING, and no time has passed. -/
theorem two_imports_running :
    ¬ ∀ (s t : ExecutionDesk) (as : List ExecutionStep), s.Idle → (∀ seconds, .tick seconds ∉ as) →
      run ExecutionDesk.step s as = some t → t.OneRunning := by
  intro h
  have hrunning : (run ExecutionDesk.step emptyDesk recoveredTooEarly).map
      (fun t => (t.jobs.get? "a", t.jobs.get? "b")) = some (some ⟨1, .running, 0⟩, some ⟨1, .running, 0⟩) := by
    decide +kernel
  obtain ⟨t, ht, hjobs⟩ := map_eq_some_iff.mp hrunning
  obtain ⟨ha, hb⟩ := Prod.mk.inj hjobs
  have htick : ∀ seconds, ExecutionStep.tick seconds ∉ recoveredTooEarly := by
    simp [recoveredTooEarly]
  have hsame := h emptyDesk t recoveredTooEarly emptyDesk_idle htick ht "a" "b" _ _ ha hb rfl rfl rfl
  exact absurd hsame (by decide)

end ImmoApp.Imports
