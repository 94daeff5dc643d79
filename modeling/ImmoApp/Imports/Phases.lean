import ImmoApp.Foundation.Json
import ImmoApp.Foundation.Keyed
import ImmoApp.Foundation.Runs

/-!
# Phases of an import and their leases

A worker acquires a phase of a chunk with a new lease token, renews its lease by heartbeats, and completes, fails or
cancels the phase.  `requeue_expired_import_phases` reads the list of running phases whose lease has expired and then
sets each of them to queued (or cancelled) by its id alone.

A step is one statement or one transaction.  Each requeue underway has a history, which nothing reads.
-/

namespace ImmoApp.Imports

open List Option

/-- `ImportChunkPhase.Status`. -/
inductive PhaseStatus where
  | blocked
  | pending
  | queued
  | running
  | cancelled
  | completed
  | failed
  deriving DecidableEq

/-- `ImportJob.Status`. -/
inductive JobStatus where
  | pending
  | parsing
  | ready
  | queued
  | running
  | completed
  | failed
  deriving DecidableEq

structure JobRow where
  status : JobStatus
  cancelRequested : Bool

/-- The job is under way and nobody asked to cancel it. -/
def JobRow.active (job : JobRow) : Bool := job.status == .running && !job.cancelRequested

/-- A row of `ImportChunkPhase`. -/
structure PhaseRow where
  jobId : ℕ
  status : PhaseStatus
  attemptCount : ℕ
  taskId : String
  leaseToken : String
  heartbeatAt : Option ℕ
  leaseExpiresAt : Option ℕ
  startedAt : Option ℕ
  finishedAt : Option ℕ
  errorPayload : Dict String Json
  metricsPayload : Dict String Json

namespace PhaseRow

/-- `status = RUNNING AND lease_expires_at IS NOT NULL AND lease_expires_at < now`. -/
def expired (now : ℕ) (p : PhaseRow) : Bool :=
  p.status == .running && p.leaseExpiresAt.any fun t => decide (t < now)

/-- `status = RUNNING AND lease_token = token`. -/
def heldBy (token : String) (p : PhaseRow) : Bool := p.status == .running && p.leaseToken == token

def cancellable (p : PhaseRow) : Bool :=
  p.status == .blocked || p.status == .pending || p.status == .queued

def unleased (p : PhaseRow) : PhaseRow :=
  { p with leaseToken := "", heartbeatAt := none, leaseExpiresAt := none }

def leased (ttl now : ℕ) (taskId token : String) (p : PhaseRow) : PhaseRow :=
  { p with
    status := .running
    attemptCount := p.attemptCount + 1
    taskId := taskId
    leaseToken := token
    heartbeatAt := some now
    leaseExpiresAt := some (now + ttl)
    startedAt := some now
    errorPayload := [] }

def acquirable (taskId : String) (p : PhaseRow) : Bool :=
  !(p.status == .completed || p.status == .blocked || p.status == .cancelled) &&
    !(p.status == .running && p.taskId != taskId)

end PhaseRow

/-- `_phase_lease_ttl_seconds`: the configured number, where there is one, within its limits. -/
def phaseLeaseTtlSeconds (configured : Option ℤ) : ℕ := (max 30 (min (configured.getD 180) 3600)).toNat

/-- A phase as the list of expired phases holds it: its job's status is read with the list. -/
structure ExpiredPhase where
  id : ℕ
  jobId : ℕ
  jobStatus : JobStatus
  metricsPayload : Dict String Json

/-- A call of `requeue_expired_import_phases` that is under way. -/
structure Requeue where
  now : ℕ
  phases : List ExpiredPhase
  /-- History: the phases completed, cancelled or leased anew since the list was read. -/
  touched : List ℕ

/-- The phases, their jobs and the requeues under way. -/
structure LeaseState where
  jobs : Keyed ℕ JobRow
  phases : Keyed ℕ PhaseRow
  clock : ℕ
  tokens : List String
  requeues : List Requeue

namespace LeaseState

def jobOf (s : LeaseState) (p : PhaseRow) : JobRow := (s.jobs.get? p.jobId).getD ⟨.pending, false⟩

/-- `UPDATE … SET f WHERE id = id AND p`. -/
def assign (s : LeaseState) (id : ℕ) (p : PhaseRow → Bool) (f : PhaseRow → PhaseRow) : LeaseState :=
  { s with phases := s.phases.update (fun i row => i == id && p row) fun _ => f }

def touch (s : LeaseState) (ids : List ℕ) : LeaseState :=
  { s with requeues := s.requeues.map fun r => { r with touched := ids ++ r.touched } }

def assignTouching (s : LeaseState) (id : ℕ) (p : PhaseRow → Bool) (f : PhaseRow → PhaseRow) : LeaseState :=
  (s.assign id p f).touch (if (s.phases.get? id).any p then [id] else [])

/-- `acquire_phase`: the phase is leased to a task, or cancelled with its job. -/
def acquirePhase (ttl id : ℕ) (taskId token : String) (s : LeaseState) : LeaseState :=
  match s.phases.get? id with
  | none => s
  | some p =>
    if !(s.jobOf p).active then
      s.assignTouching id PhaseRow.cancellable fun p =>
        { p with status := .cancelled, finishedAt := some s.clock }
    else
      { s with tokens := token :: s.tokens }.assignTouching id (PhaseRow.acquirable taskId)
        (PhaseRow.leased ttl s.clock taskId token)

/-- Whether `acquire_phase` returns the phase. -/
def acquires (id : ℕ) (taskId : String) (s : LeaseState) : Bool :=
  (s.phases.get? id).any fun p => (s.jobOf p).active && p.acquirable taskId

def heartbeatPhaseLease (ttl id : ℕ) (token : String) (s : LeaseState) : LeaseState :=
  s.assignTouching id (fun p => token != "" && p.heldBy token) fun p =>
    { p with heartbeatAt := some s.clock, leaseExpiresAt := some (s.clock + ttl) }

def phaseLeaseActive (id : ℕ) (token : String) (s : LeaseState) : Bool :=
  token != "" && (s.phases.get? id).any (PhaseRow.heldBy token)

def completePhase (id : ℕ) (token : String) (metrics : Dict String Json) (s : LeaseState) : LeaseState :=
  s.assignTouching id (PhaseRow.heldBy token) fun p =>
    { p.unleased with
      status := .completed
      metricsPayload := metrics
      errorPayload := []
      finishedAt := some s.clock }

def failPhase (id : ℕ) (token : String) (error : Dict String Json) (s : LeaseState) : LeaseState :=
  s.assign id (PhaseRow.heldBy token) fun p =>
    { p.unleased with status := .failed, errorPayload := error, finishedAt := some s.clock }

def cancelPhaseAttempt (id : ℕ) (token : String) (error : Dict String Json) (s : LeaseState) :
    LeaseState :=
  s.assignTouching id (PhaseRow.heldBy token) fun p =>
    { p.unleased with status := .cancelled, errorPayload := error, finishedAt := some s.clock }

/-- `handle_phase_exception` where the task will be retried: the phase is queued again, whoever holds
it. -/
def retryPhase (id : ℕ) (error : Dict String Json) (s : LeaseState) : LeaseState :=
  s.assign id (fun _ => true) fun p =>
    { p.unleased with status := .queued, errorPayload := error, finishedAt := none }

/-- `_queue_pending` for one phase. -/
def queuePending (id : ℕ) (allowBlocked : Bool) (s : LeaseState) : LeaseState :=
  s.assign id (fun p => p.status == .pending || allowBlocked && p.status == .blocked) fun p =>
    { p with status := .queued }

def cancelPendingPhases (jobId : ℕ) (s : LeaseState) : LeaseState :=
  { s with phases := s.phases.update (fun _ p => p.jobId == jobId && p.cancellable) fun _ p =>
      { p.unleased with status := .cancelled, finishedAt := some s.clock } }.touch
    ((s.phases.entries.filter fun (e : ℕ × PhaseRow) =>
      e.2.jobId == jobId && e.2.cancellable).map Prod.fst)

def requestWorkflowCancellation (jobId : ℕ) (s : LeaseState) : LeaseState :=
  { s with jobs := s.jobs.update (fun id _ => id == jobId) fun _ job =>
      { job with cancelRequested := true } }.cancelPendingPhases jobId

def setJobStatus (jobId : ℕ) (status : JobStatus) (s : LeaseState) : LeaseState :=
  { s with jobs := s.jobs.update (fun id _ => id == jobId) fun _ job => { job with status := status } }

/-- The list that `requeue_expired_import_phases` reads. -/
def expiredPhases (s : LeaseState) : List ExpiredPhase :=
  ((s.phases.entries.filter fun (e : ℕ × PhaseRow) => e.2.expired s.clock).insertionSort
    fun e e' => e.1 ≤ e'.1).map fun e => ⟨e.1, e.2.jobId, (s.jobOf e.2).status, e.2.metricsPayload⟩

def readExpired (s : LeaseState) : LeaseState :=
  { s with requeues := s.requeues ++ [⟨s.clock, s.expiredPhases, []⟩] }

/-- The update of one phase of the list.  Whether the job is cancelled is read now. -/
def requeuePhase (e : ExpiredPhase) (s : LeaseState) : LeaseState :=
  if e.jobStatus = .running ∧ ((s.jobs.get? e.jobId).any JobRow.cancelRequested) = false then
    s.assign e.id (fun _ => true) fun p =>
      { p.unleased with
        status := .queued
        metricsPayload := e.metricsPayload.set "requeued_after_lease_expiry" (.scalar (.bool true)) }
  else
    s.assignTouching e.id (fun _ => true) fun p =>
      { p.unleased with status := .cancelled, finishedAt := some s.clock }

def nextOf (s : LeaseState) (k : ℕ) : Option (Requeue × ExpiredPhase) :=
  match s.requeues[k]? with
  | some r => r.phases.head?.map fun e => (r, e)
  | none => none

def requeueNext (k : ℕ) (s : LeaseState) : Option LeaseState :=
  (s.nextOf k).map fun (r, e) =>
    { s with requeues := s.requeues.set k { r with phases := r.phases.tail } }.requeuePhase e

end LeaseState

inductive LeaseStep where
  | acquire (id : ℕ) (taskId token : String)
  | heartbeat (id : ℕ) (token : String)
  | complete (id : ℕ) (token : String) (metrics : Dict String Json)
  | fail (id : ℕ) (token : String) (error : Dict String Json)
  | cancelAttempt (id : ℕ) (token : String) (error : Dict String Json)
  /-- A worker with this token hits an exception for which its task is retried. -/
  | retry (id : ℕ) (token : String) (error : Dict String Json)
  | queue (id : ℕ) (allowBlocked : Bool)
  | requestCancellation (jobId : ℕ)
  | setJobStatus (jobId : ℕ) (status : JobStatus)
  | tick (elapsed : ℕ)
  | readExpired
  | requeueNext (k : ℕ)

def leaseStep (ttl : ℕ) (s : LeaseState) : LeaseStep → Option LeaseState
  | .acquire id taskId token =>
    if token = "" ∨ token ∈ s.tokens then none else some (s.acquirePhase ttl id taskId token)
  | .heartbeat id token => some (s.heartbeatPhaseLease ttl id token)
  | .complete id token metrics => some (s.completePhase id token metrics)
  | .fail id token error => some (s.failPhase id token error)
  | .cancelAttempt id token error => some (s.cancelPhaseAttempt id token error)
  | .retry id _ error => some (s.retryPhase id error)
  | .queue id allowBlocked => some (s.queuePending id allowBlocked)
  | .requestCancellation jobId => some (s.requestWorkflowCancellation jobId)
  | .setJobStatus jobId status => some (s.setJobStatus jobId status)
  | .tick elapsed => some { s with clock := s.clock + elapsed }
  | .readExpired => some s.readExpired
  | .requeueNext k => s.requeueNext k

namespace LeaseState

variable {s : LeaseState} {id : ℕ} {sel : PhaseRow → Bool} {f : PhaseRow → PhaseRow}

lemma get?_assign (s : LeaseState) (id i : ℕ) (sel : PhaseRow → Bool) (f : PhaseRow → PhaseRow) :
    (s.assign id sel f).phases.get? i = (s.phases.get? i).map fun p => if (i == id && sel p) = true then f p else p :=
  Keyed.get?_update _ _ _ _

lemma get?_assign_eq_some {i : ℕ} {q : PhaseRow} (h : (s.assign id sel f).phases.get? i = some q) :
    s.phases.get? i = some q ∨ i = id ∧ ∃ p, s.phases.get? id = some p ∧ sel p = true ∧ q = f p := by
  rw [get?_assign] at h
  obtain ⟨p, hp, heq⟩ := map_eq_some_iff.mp h
  by_cases hsel : (i == id && sel p) = true
  · rw [if_pos hsel] at heq
    obtain ⟨hid, hsel⟩ := (Bool.and_eq_true _ _).mp hsel
    have hi : i = id := by simpa using hid
    exact .inr ⟨hi, p, hi ▸ hp, hsel, heq.symm⟩
  · rw [if_neg hsel] at heq
    exact .inl (heq ▸ hp)

@[simp] lemma assignTouching_phases (s : LeaseState) (id : ℕ) (sel : PhaseRow → Bool)
    (f : PhaseRow → PhaseRow) : (s.assignTouching id sel f).phases = (s.assign id sel f).phases := rfl

end LeaseState

/-! ### Requeues -/

/-- Whatever the time up to now, the phase is not found expired. -/
def PhaseRow.Fresh (clock : ℕ) (p : PhaseRow) : Prop := ∀ now ≤ clock, p.expired now = false

variable {clock : ℕ} {p : PhaseRow}

lemma PhaseRow.fresh_of_not_running (h : p.status ≠ .running) :
    p.Fresh clock := by
  intro now _
  simp [PhaseRow.expired, h]

lemma PhaseRow.fresh_of_renewed {ttl : ℕ} (h : p.leaseExpiresAt = some (clock + ttl)) : p.Fresh clock := by
  intro now hnow
  have hle : ¬ clock + ttl < now := by omega
  simp [PhaseRow.expired, h, hle]

/-- The phases touched since a list was read do not have the lease that had expired then. -/
structure Settled (s : LeaseState) : Prop where
  past : ∀ r ∈ s.requeues, r.now ≤ s.clock
  touched : ∀ r ∈ s.requeues, ∀ id ∈ r.touched, ∀ p, s.phases.get? id = some p → p.expired r.now = false

section Settled

variable {s : LeaseState} {id : ℕ} {sel : PhaseRow → Bool} {f : PhaseRow → PhaseRow}

section

variable (h : Settled s)
include h

lemma Settled.assign (hf : ∀ p, s.phases.get? id = some p → sel p = true → (f p).Fresh s.clock) :
    Settled (s.assign id sel f) where
  past := h.past
  touched := by
    intro r hr i hi q hq
    rcases LeaseState.get?_assign_eq_some hq with hold | ⟨-, p, hp, hsel, rfl⟩
    · exact h.touched r hr i hi q hold
    · exact hf p hp hsel r.now (h.past r hr)

lemma Settled.touch {ids : List ℕ}
    (hids : ∀ i ∈ ids, ∀ q, s.phases.get? i = some q → q.Fresh s.clock) : Settled (s.touch ids) where
  past := by
    intro r hr
    obtain ⟨r₀, hr₀, rfl⟩ := mem_map.mp hr
    exact h.past r₀ hr₀
  touched := by
    intro r hr i hi q hq
    obtain ⟨r₀, hr₀, rfl⟩ := mem_map.mp hr
    rcases mem_append.mp hi with hi | hi
    · exact hids i hi q hq r₀.now (h.past r₀ hr₀)
    · exact h.touched r₀ hr₀ i hi q hq

lemma Settled.assignTouching (hf : ∀ p, s.phases.get? id = some p → sel p = true → (f p).Fresh s.clock) :
    Settled (s.assignTouching id sel f) := by
  refine (h.assign hf).touch fun i hi q hq => ?_
  split at hi
  · next hany =>
    obtain rfl := mem_singleton.mp hi
    rw [LeaseState.get?_assign] at hq
    obtain ⟨p, hp, heq⟩ := map_eq_some_iff.mp hq
    have hsel : sel p = true := by simpa [hp] using hany
    rw [if_pos (by simp [hsel])] at heq
    exact heq ▸ hf p hp hsel
  · simp at hi

lemma Settled.acquirePhase (ttl : ℕ) (taskId token : String) : Settled (s.acquirePhase ttl id taskId token) := by
  unfold LeaseState.acquirePhase
  split
  · exact h
  · split
    · exact h.assignTouching fun p _ _ => PhaseRow.fresh_of_not_running (by simp)
    · have htokens : Settled { s with tokens := token :: s.tokens } := ⟨h.past, h.touched⟩
      exact htokens.assignTouching fun p _ _ => PhaseRow.fresh_of_renewed rfl

lemma Settled.cancelPendingPhases (jobId : ℕ) : Settled (s.cancelPendingPhases jobId) := by
  have hrow : ∀ i q, (s.phases.update (fun _ p => p.jobId == jobId && p.cancellable) fun _ p =>
      { p.unleased with status := .cancelled, finishedAt := some s.clock }).get? i = some q →
        ∃ p, s.phases.get? i = some p ∧
          if (p.jobId == jobId && p.cancellable) = true then q.Fresh s.clock else q = p := by
    intro i q hq
    rw [Keyed.get?_update] at hq
    obtain ⟨p, hp, rfl⟩ := map_eq_some_iff.mp hq
    refine ⟨p, hp, ?_⟩
    split
    · exact PhaseRow.fresh_of_not_running (by simp)
    · rfl
  have hupdated : Settled { s with
      phases := s.phases.update (fun _ p => p.jobId == jobId && p.cancellable) fun _ p =>
        { p.unleased with status := .cancelled, finishedAt := some s.clock } } := by
    refine ⟨h.past, fun r hr i hi q hq => ?_⟩
    obtain ⟨p, hp, hcase⟩ := hrow i q hq
    split at hcase
    · exact hcase r.now (h.past r hr)
    · exact hcase ▸ h.touched r hr i hi p hp
  refine hupdated.touch fun i hi q hq => ?_
  obtain ⟨p, hp, hcase⟩ := hrow i q hq
  obtain ⟨e, he, rfl⟩ := mem_map.mp hi
  obtain ⟨hmem, hcancel⟩ := mem_filter.mp he
  have heq : p = e.2 := some.inj (hp.symm.trans (Keyed.mem_entries_iff.mp hmem))
  rw [heq, if_pos hcancel] at hcase
  exact hcase

lemma Settled.requeuePhase (e : ExpiredPhase) : Settled (s.requeuePhase e) := by
  unfold LeaseState.requeuePhase
  split
  · exact h.assign fun p _ _ => PhaseRow.fresh_of_not_running (by simp)
  · exact h.assignTouching fun p _ _ => PhaseRow.fresh_of_not_running (by simp)

end

variable {k : ℕ}

lemma nextOf_eq_some {r : Requeue} {e : ExpiredPhase} (h : s.nextOf k = some (r, e)) :
    r ∈ s.requeues ∧ s.requeues[k]? = some r ∧ r.phases.head? = some e := by
  unfold LeaseState.nextOf at h
  split at h
  · next r' hr' =>
    obtain ⟨_, he', heq⟩ := map_eq_some_iff.mp h
    obtain ⟨rfl, rfl⟩ := Prod.mk.inj heq
    exact ⟨mem_of_getElem? hr', hr', he'⟩
  · simp at h

lemma Settled.requeueNext (h : Settled s) {t : LeaseState} (hstep : s.requeueNext k = some t) :
    Settled t := by
  obtain ⟨⟨r, e⟩, hnext, rfl⟩ := map_eq_some_iff.mp hstep
  have hr := (nextOf_eq_some hnext).1
  refine Settled.requeuePhase ⟨fun r' hr' => ?_, fun r' hr' => ?_⟩ e
  · rcases mem_or_eq_of_mem_set hr' with hold | rfl
    · exact h.past r' hold
    · exact h.past r hr
  · rcases mem_or_eq_of_mem_set hr' with hold | rfl
    · exact h.touched r' hold
    · exact h.touched r hr

lemma Settled.step {ttl : ℕ} (h : Settled s) {a : LeaseStep} {t : LeaseState}
    (hstep : leaseStep ttl s a = some t) : Settled t := by
  cases a with
  | acquire _ taskId token =>
    rw [leaseStep] at hstep
    split at hstep
    · simp at hstep
    · rw [← some.inj hstep]
      exact h.acquirePhase ttl taskId token
  | heartbeat =>
    rw [← some.inj hstep]
    exact h.assignTouching fun p _ _ => PhaseRow.fresh_of_renewed rfl
  | complete =>
    rw [← some.inj hstep]
    exact h.assignTouching fun p _ _ => PhaseRow.fresh_of_not_running (by simp)
  | fail =>
    rw [← some.inj hstep]
    exact h.assign fun p _ _ => PhaseRow.fresh_of_not_running (by simp)
  | cancelAttempt =>
    rw [← some.inj hstep]
    exact h.assignTouching fun p _ _ => PhaseRow.fresh_of_not_running (by simp)
  | retry =>
    rw [← some.inj hstep]
    exact h.assign fun p _ _ => PhaseRow.fresh_of_not_running (by simp)
  | queue =>
    rw [← some.inj hstep]
    exact h.assign fun p _ _ => PhaseRow.fresh_of_not_running (by simp)
  | requestCancellation jobId =>
    rw [← some.inj hstep]
    have hjobs : Settled { s with jobs := s.jobs.update (fun id _ => id == jobId) fun _ job =>
        { job with cancelRequested := true } } := ⟨h.past, h.touched⟩
    exact hjobs.cancelPendingPhases jobId
  | setJobStatus =>
    rw [← some.inj hstep]
    exact ⟨h.past, h.touched⟩
  | tick =>
    rw [← some.inj hstep]
    exact ⟨fun r hr => (h.past r hr).trans (Nat.le_add_right _ _), h.touched⟩
  | readExpired =>
    rw [← some.inj hstep]
    refine ⟨fun r hr => ?_, fun r hr => ?_⟩
    · rcases mem_append.mp hr with hold | hnew
      · exact h.past r hold
      · rw [mem_singleton.mp hnew]
        exact le_rfl
    · rcases mem_append.mp hr with hold | hnew
      · exact h.touched r hold
      · rw [mem_singleton.mp hnew]
        simp
  | requeueNext => exact h.requeueNext hstep

end Settled

/-! ### Safe steps -/

/-- A requeue leaves alone what was completed, cancelled or leased anew since its list was read, and no
phase goes from completed back to queued. -/
structure RequeueSafe (s : LeaseState) (a : LeaseStep) (t : LeaseState) : Prop where
  /-- A requeue changes no phase that was touched after its list was read. -/
  untouched : ∀ k r e, a = .requeueNext k → s.nextOf k = some (r, e) → e.id ∉ r.touched
  completed : ∀ id p q, s.phases.get? id = some p → p.status = .completed →
    t.phases.get? id = some q → q.status ≠ .queued

/-- The phase a requeue updates is still one that its list would have, and a worker whose task is retried
still holds its phase. -/
def StillExpired (s : LeaseState) : LeaseStep → Bool
  | .requeueNext k =>
    (s.nextOf k).all fun (r, e) => (s.phases.get? e.id).any (PhaseRow.expired r.now)
  | .retry id token _ => (s.phases.get? id).all (PhaseRow.heldBy token)
  | _ => true

section Safe

variable {s t : LeaseState} {ttl : ℕ}

variable {i : ℕ} {p q : PhaseRow}

/-- An update that selects no completed row, or queues none, keeps completed phases from being queued. -/
lemma assign_completed {id : ℕ} {sel : PhaseRow → Bool} {f : PhaseRow → PhaseRow}
    (h : ∀ p, s.phases.get? id = some p → sel p = true → p.status = .completed →
      (f p).status ≠ .queued) (hp : s.phases.get? i = some p)
    (hstatus : p.status = .completed) (hq : (s.assign id sel f).phases.get? i = some q) :
    q.status ≠ .queued := by
  rcases LeaseState.get?_assign_eq_some hq with hold | ⟨rfl, p', hp', hsel, rfl⟩
  · have heq : p = q := some.inj (hp.symm.trans hold)
    rw [← heq, hstatus]
    simp
  · have heq : p = p' := some.inj (hp.symm.trans hp')
    subst heq
    exact h p hp hsel hstatus

variable {e : ExpiredPhase}

lemma requeuePhase_completed (h : ∀ p, s.phases.get? e.id = some p → p.status ≠ .completed)
    (hp : s.phases.get? i = some p) (hstatus : p.status = .completed)
    (hq : (s.requeuePhase e).phases.get? i = some q) : q.status ≠ .queued := by
  unfold LeaseState.requeuePhase at hq
  split at hq
  · exact assign_completed (fun p' hp' _ hc => absurd hc (h p' hp')) hp hstatus hq
  · exact assign_completed (fun _ _ _ _ => by simp) hp hstatus hq

/-- Where requeues update expired phases and retries come from holders, completed phases stay so. -/
lemma completed_not_queued {a : LeaseStep} (hguard : StillExpired s a = true)
    (hstep : leaseStep ttl s a = some t) (hp : s.phases.get? i = some p)
    (hstatus : p.status = .completed) (hq : t.phases.get? i = some q) : q.status ≠ .queued := by
  cases a with
  | acquire _ _ token =>
    rw [leaseStep] at hstep
    split at hstep
    · simp at hstep
    · obtain ⟨⟩ := hstep
      unfold LeaseState.acquirePhase at hq
      split at hq
      · have heq : p = q := some.inj (hp.symm.trans hq)
        rw [← heq, hstatus]
        simp
      · split at hq
        · exact assign_completed (fun _ _ _ _ => by simp) hp hstatus hq
        · exact assign_completed (s := { s with tokens := token :: s.tokens })
            (fun _ _ _ _ => by simp [PhaseRow.leased]) hp hstatus hq
  | heartbeat =>
    obtain ⟨⟩ := hstep
    exact assign_completed (fun _ _ _ hc => by simp [hc]) hp hstatus hq
  | complete =>
    obtain ⟨⟩ := hstep
    exact assign_completed (fun _ _ _ _ => by simp) hp hstatus hq
  | fail =>
    obtain ⟨⟩ := hstep
    exact assign_completed (fun _ _ _ _ => by simp) hp hstatus hq
  | cancelAttempt =>
    obtain ⟨⟩ := hstep
    exact assign_completed (fun _ _ _ _ => by simp) hp hstatus hq
  | retry _ token =>
    obtain ⟨⟩ := hstep
    refine assign_completed (fun p' hp' _ hc => ?_) hp hstatus hq
    have hheld : p'.heldBy token = true := by simpa [StillExpired, hp'] using hguard
    simp [PhaseRow.heldBy, hc] at hheld
  | queue =>
    obtain ⟨⟩ := hstep
    exact assign_completed (fun _ _ hsel hc => by simp [hc] at hsel) hp hstatus hq
  | requestCancellation jobId =>
    obtain ⟨⟩ := hstep
    have hget : (s.phases.update (fun _ p => p.jobId == jobId && p.cancellable) fun _ p =>
        { p.unleased with status := .cancelled, finishedAt := some s.clock }).get? i = some q := hq
    rw [Keyed.get?_update, hp] at hget
    have hcancel : p.cancellable = false := by simp [PhaseRow.cancellable, hstatus]
    have heq : p = q := by simpa [hcancel] using hget
    rw [← heq, hstatus]
    simp
  | setJobStatus =>
    obtain ⟨⟩ := hstep
    have heq : p = q := some.inj (hp.symm.trans hq)
    rw [← heq, hstatus]
    simp
  | tick =>
    obtain ⟨⟩ := hstep
    have heq : p = q := some.inj (hp.symm.trans hq)
    rw [← heq, hstatus]
    simp
  | readExpired =>
    obtain ⟨⟩ := hstep
    have heq : p = q := some.inj (hp.symm.trans hq)
    rw [← heq, hstatus]
    simp
  | requeueNext k =>
    obtain ⟨⟨r, e⟩, hnext, rfl⟩ := map_eq_some_iff.mp hstep
    have hexpired : ∀ p', s.phases.get? e.id = some p' → p'.status ≠ .completed := by
      intro p' hp' hc
      have hall : p'.expired r.now = true := by simpa [StillExpired, hnext, hp'] using hguard
      simp [PhaseRow.expired, hc] at hall
    exact requeuePhase_completed (s := { s with
      requeues := s.requeues.set k { r with phases := r.phases.tail } }) hexpired hp hstatus hq

lemma Settled.untouched (h : Settled s) {k : ℕ} {r : Requeue}
    (hguard : StillExpired s (.requeueNext k) = true) (hnext : s.nextOf k = some (r, e)) :
    e.id ∉ r.touched := by
  intro htouched
  have hany : (s.phases.get? e.id).any (PhaseRow.expired r.now) = true := by
    simpa [StillExpired, hnext] using hguard
  obtain ⟨p, hp, hexpired⟩ := (any_eq_true _ _).mp hany
  have hnot := h.touched r (nextOf_eq_some hnext).1 e.id htouched p hp
  rw [hexpired] at hnot
  simp at hnot

/-- In every run in which a requeue finds each phase it updates still expired, and a worker whose task is
retried still holds its phase, every step of requeues and workers is safe, in any order. -/
theorem requeue_safe {s₀ : LeaseState} (hinit : s₀.requeues = []) {steps : List LeaseStep}
    (hguard : Guarded (leaseStep ttl) (fun s a => StillExpired s a = true) s₀ steps)
    {before after : List LeaseStep} {a : LeaseStep} (hsteps : steps = before ++ a :: after)
    (hrun : run (leaseStep ttl) s₀ before = some s) (hstep : leaseStep ttl s a = some t) :
    RequeueSafe s a t := by
  subst hsteps
  obtain ⟨-, hrest⟩ := guarded_append.mp hguard
  have hnow : StillExpired s a = true := (hrest s hrun).1
  have hsettled : Settled s :=
    run_invariant_of_step (fun _ _ _ h hstep => Settled.step h hstep) ⟨by simp [hinit], by simp [hinit]⟩ hrun
  refine ⟨?_, fun id p q => completed_not_queued hnow hstep⟩
  rintro k r e rfl hnext
  exact hsettled.untouched hnow hnext

end Safe

def queuedPhase : LeaseState where
  jobs := ⟨[(1, ⟨.running, false⟩)], by simp⟩
  phases := ⟨[(1, ⟨1, .queued, 0, "", "", none, none, none, none, [], []⟩)], by simp⟩
  clock := 0
  tokens := []
  requeues := []

def expiredSteps : List LeaseStep := [.acquire 1 "task" "token", .tick 200, .readExpired]

theorem requeue_safe_stopped : ∃ s t, run (leaseStep 180) queuedPhase expiredSteps = some s ∧
    leaseStep 180 s (.requeueNext 0) = some t ∧ RequeueSafe s (.requeueNext 0) t := by
  obtain ⟨s, hrun⟩ : ∃ s, run (leaseStep 180) queuedPhase expiredSteps = some s :=
    isSome_iff_exists.mp (by decide +kernel)
  obtain ⟨t, hstep⟩ : ∃ t, leaseStep 180 s (.requeueNext 0) = some t := by
    have hsome : ∀ s ∈ run (leaseStep 180) queuedPhase expiredSteps,
        (leaseStep 180 s (.requeueNext 0)).isSome = true := by decide +kernel
    exact isSome_iff_exists.mp (hsome s hrun)
  have hguard : Guarded (leaseStep 180) (fun s a => StillExpired s a = true) queuedPhase
      (expiredSteps ++ [.requeueNext 0]) := by decide +kernel
  exact ⟨s, t, hrun, hstep, requeue_safe rfl hguard rfl hrun hstep⟩

/-- When the worker completes the phase after all, the requeue queues the completed phase. -/
theorem completed_phase_requeued :
    ¬ ∀ (ttl : ℕ) (s₀ s t : LeaseState) (before : List LeaseStep) (a : LeaseStep), s₀.requeues = [] →
      run (leaseStep ttl) s₀ before = some s → leaseStep ttl s a = some t → RequeueSafe s a t := by
  intro h
  obtain ⟨s, hrun⟩ : ∃ s, run (leaseStep 180) queuedPhase (expiredSteps ++ [.complete 1 "token" []]) = some s :=
    isSome_iff_exists.mp (by decide +kernel)
  have hbad : ∀ s ∈ run (leaseStep 180) queuedPhase (expiredSteps ++ [.complete 1 "token" []]),
      (s.phases.get? 1).map PhaseRow.status = some .completed ∧
        (leaseStep 180 s (.requeueNext 0)).map (fun t => (t.phases.get? 1).map PhaseRow.status)
          = some (some .queued) := by
    decide +kernel
  obtain ⟨hcompleted, hqueued⟩ := hbad s hrun
  obtain ⟨p, hp, hstatus⟩ := map_eq_some_iff.mp hcompleted
  obtain ⟨t, hstep, hrow⟩ := map_eq_some_iff.mp hqueued
  obtain ⟨q, hq, hagain⟩ := map_eq_some_iff.mp hrow
  have hsafe := h 180 queuedPhase s t _ (.requeueNext 0) rfl hrun hstep
  exact hsafe.completed 1 p q hp hstatus hq hagain

end ImmoApp.Imports
