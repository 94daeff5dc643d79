import ImmoApp.Imports.Dispatch

/-!
# Phases and their messages

A dispatched phase is QUEUED in the database, and a message for it is put into the broker afterwards, which delivers it
again where the worker is lost.  `requeue_expired_import_phases` sets phases with an expired lease back to QUEUED and
sends no message.

`queued_phases_reached`: in every run in which no process drops the rest of its plan, no message of a queued phase is
acknowledged as the last one, and a requeue queues only phases with a message, every QUEUED phase is reached.
-/

namespace ImmoApp.Imports

open List Option Keyed Bool

/-! ### The broker and the workers -/

structure Message where
  taskId : String
  phaseId : ℕ
  deriving DecidableEq

inductive WorkerStage where
  | received
  | attempt
  | completed
  | dispatching (ids : List ℕ)
  | retrying
  | done
  deriving DecidableEq

structure Worker where
  message : Option Message
  token : String
  stage : WorkerStage

def Worker.ids (x : Worker) : List ℕ :=
  match x.stage with
  | .dispatching ids => ids
  | _ => []

structure MessageDesk where
  lease : LeaseState
  flags : WorkflowFlags
  broker : List Message
  workers : Keyed ℕ Worker

namespace MessageDesk

def move (s : MessageDesk) (w : ℕ) (x : Worker) : MessageDesk := { s with workers := s.workers.set w x }

def send (s : MessageDesk) (m : Message) : MessageDesk := { s with broker := s.broker ++ [m] }

def leave (s : MessageDesk) (w : ℕ) : MessageDesk :=
  { s with workers := s.workers.delete fun i _ => i == w }

/-- `mark_distributed_job_failed`, as far as phases and job are concerned. -/
def jobFailed (jobId : ℕ) (s : LeaseState) : LeaseState :=
  (s.requestWorkflowCancellation jobId).setJobStatus jobId .failed

/-- `handle_phase_exception`: the phase is queued for a retry, or fails with its job where the worker still
holds it.  A task without a phase fails with its job. -/
def fault (jobId w : ℕ) (x : Worker) (retryable : Bool) (error : Dict String Json) (s : MessageDesk) :
    MessageDesk :=
  match x.message with
  | none => { s with lease := jobFailed jobId s.lease }.move w { x with stage := .done }
  | some m =>
    if retryable then
      { s with lease := s.lease.retryPhase m.phaseId error }.move w { x with stage := .retrying }
    else if s.lease.phaseLeaseActive m.phaseId x.token then
      { s with lease := jobFailed jobId (s.lease.failPhase m.phaseId x.token error) }.move w
        { x with stage := .done }
    else s.move w { x with stage := .done }

end MessageDesk

/-! ### Steps -/

inductive MessageStep where
  | deliver (w : ℕ) (m : Message)
  | enter (w : ℕ)
  | claim (w : ℕ) (token : String)
  /-- Its task returns or raises before that, and may be retried. -/
  | abandon (w : ℕ) (retried : Bool)
  | heartbeat (w : ℕ)
  | complete (w : ℕ) (metrics : Dict String Json)
  | stale (w : ℕ)
  | cancelled (w : ℕ) (error : Dict String Json)
  | fault (w : ℕ) (retryable : Bool) (error : Dict String Json)
  | retry (w : ℕ)
  | advance (w : ℕ) (planManifest loadManifest : Option IndexManifest)
  | enqueue (w : ℕ) (taskId : String)
  | ack (w : ℕ)
  | stop (w : ℕ)
  | other (a : LeaseStep)

def LeaseStep.isOther : LeaseStep → Bool
  | .requestCancellation .. | .setJobStatus .. | .tick .. | .readExpired | .requeueNext .. => true
  | .acquire .. | .heartbeat .. | .complete .. | .fail .. | .cancelAttempt .. | .retry .. | .queue .. =>
    false

def workerStep (job : ChunkedJob) (ttl : ℕ) (s : MessageDesk) (w : ℕ) (x : Worker) : MessageStep → Option MessageDesk
  | .claim _ token =>
    if x.stage = .received ∧ token ≠ "" ∧ token ∉ s.lease.tokens then
      x.message.map fun m =>
        { s with lease := s.lease.acquirePhase ttl m.phaseId m.taskId token }.move w
          (if s.lease.acquires m.phaseId m.taskId then { x with token := token, stage := .attempt }
          else { x with stage := .done })
    else none
  | .abandon _ retried =>
    if x.stage = .received then
      some (s.move w { x with stage := if retried then .retrying else .done })
    else none
  | .heartbeat _ =>
    if x.stage = .attempt then
      x.message.map fun m => { s with lease := s.lease.heartbeatPhaseLease ttl m.phaseId x.token }
    else none
  | .complete _ metrics =>
    if x.stage = .attempt then
      x.message.map fun m =>
        { s with lease := s.lease.completePhase m.phaseId x.token metrics }.move w
          { x with stage :=
              if s.lease.phaseLeaseActive m.phaseId x.token then .completed else .done }
    else none
  | .stale _ =>
    if x.stage = .attempt ∧ x.message.any (fun m => s.lease.phaseLeaseActive m.phaseId x.token) = false then
      some (s.move w { x with stage := .done })
    else none
  | .cancelled _ error =>
    if x.stage = .attempt then
      x.message.map fun m =>
        { s with lease := s.lease.cancelPhaseAttempt m.phaseId x.token error }.move w
          { x with stage := .done }
    else none
  | .fault _ retryable error =>
    if x.stage = .received ∨ x.stage = .retrying ∨ x.stage = .done then none
    else some (s.fault job.id w x retryable error)
  | .retry _ =>
    if x.stage = .retrying then
      x.message.map fun m => (s.send m).move w { x with stage := .done }
    else none
  | .advance _ planManifest loadManifest =>
    if x.stage = .completed then
      (advanceWorkflow job planManifest loadManifest s.lease s.flags).map fun d =>
        { s with lease := d.lease, flags := d.flags }.move w
          { x with stage := .dispatching d.plan.phaseIds }
    else none
  | .enqueue _ taskId =>
    match x.stage with
    | .dispatching (id :: ids) =>
      some ((s.send ⟨taskId, id⟩).move w { x with stage := .dispatching ids })
    | _ => none
  | .ack _ => if x.stage = .done ∨ x.stage = .dispatching [] then some (s.leave w) else none
  | .stop _ => some ({ s with broker := s.broker ++ x.message.toList }.leave w)
  | .deliver _ _ | .enter _ | .other _ => none

def MessageStep.worker? : MessageStep → Option ℕ
  | .claim w _ | .abandon w _ | .heartbeat w | .complete w _ | .stale w | .cancelled w _
  | .fault w _ _ | .retry w | .advance w _ _ | .enqueue w _ | .ack w | .stop w => some w
  | .deliver _ _ | .enter _ | .other _ => none

def MessageDesk.step (job : ChunkedJob) (ttl : ℕ) (s : MessageDesk) : MessageStep → Option MessageDesk
  | .deliver w m =>
    if m ∈ s.broker ∧ (s.workers.get? w).isNone then
      some ({ s with broker := s.broker.erase m }.move w ⟨some m, "", .received⟩)
    else none
  | .enter w =>
    if (s.workers.get? w).isNone then some (s.move w ⟨none, "", .completed⟩) else none
  | .other a =>
    if a.isOther then (leaseStep ttl s.lease a).map fun lease => { s with lease := lease } else none
  | a => a.worker?.bind fun w => (s.workers.get? w).bind fun x => workerStep job ttl s w x a

/-! ### Who reaches a phase -/

def LeaseState.queued (s : LeaseState) (id : ℕ) : Bool :=
  (s.phases.get? id).any fun p => p.status == .queued

/-- The worker has a message for the phase, or will send one. -/
def Worker.reaches (x : Worker) (id : ℕ) : Bool :=
  x.message.any (fun m => m.phaseId == id) || decide (id ∈ x.ids)

namespace MessageDesk

/-- A message for the phase is in flight: it waits, or a worker has not acknowledged it. -/
def InFlight (s : MessageDesk) (id : ℕ) : Prop :=
  (∃ m ∈ s.broker, m.phaseId = id) ∨ ∃ w x, s.workers.get? w = some x ∧ ∃ m ∈ x.message, m.phaseId = id

/-- The phase is in a plan that `advance_workflow` returned and that is being enqueued. -/
def Listed (s : MessageDesk) (id : ℕ) : Prop := ∃ w x, s.workers.get? w = some x ∧ id ∈ x.ids

/-- Someone else than this worker reaches the phase. -/
def reachedWithout (s : MessageDesk) (w id : ℕ) : Bool :=
  s.broker.any (fun m => m.phaseId == id) || s.workers.entries.any fun e => e.1 != w && e.2.reaches id

def reached (s : MessageDesk) (id : ℕ) : Bool :=
  s.broker.any (fun m => m.phaseId == id) || s.workers.entries.any fun e => e.2.reaches id

/-- Every QUEUED phase has a message in flight or is in a plan. -/
def QueuedReached (s : MessageDesk) : Prop :=
  ∀ id, s.lease.queued id = true → s.InFlight id ∨ s.Listed id

end MessageDesk

/-- No process drops a phase of its plan that is queued and that nobody else reaches; no worker
acknowledges the last message of a queued phase; and a requeue queues only phases that someone reaches. -/
def Undropped (s : MessageDesk) : MessageStep → Prop
  | .fault w _ _ | .stop w => ∀ x ∈ s.workers.get? w, ∀ id ∈ x.ids, s.lease.queued id = true →
      x.message.any (fun m => m.phaseId == id) = true ∨ s.reachedWithout w id = true
  | .ack w => ∀ x ∈ s.workers.get? w, ∀ m ∈ x.message, s.lease.queued m.phaseId = true →
      s.reachedWithout w m.phaseId = true
  | .other (.requeueNext k) => ∀ x ∈ s.lease.nextOf k, x.2.jobStatus = .running →
      ((s.lease.jobs.get? x.2.jobId).any JobRow.cancelRequested) = false → s.reached x.2.id = true
  | _ => True

section Reached

variable {s t : MessageDesk} {w id : ℕ} {x x' : Worker}

lemma reaches_iff : x.reaches id = true ↔ (∃ m ∈ x.message, m.phaseId = id) ∨ id ∈ x.ids := by
  simp [Worker.reaches, Option.any_eq_true]

lemma reached_iff : s.reached id = true ↔
    (∃ m ∈ s.broker, m.phaseId = id) ∨ ∃ w x, s.workers.get? w = some x ∧ x.reaches id = true := by
  simp only [MessageDesk.reached, or_eq_true, List.any_eq_true, beq_iff_eq]
  refine or_congr_right ⟨?_, ?_⟩
  · rintro ⟨⟨w, x⟩, he, hx⟩
    exact ⟨w, x, mem_entries_iff.mp he, hx⟩
  · rintro ⟨w, x, hget, hx⟩
    exact ⟨(w, x), mem_entries_iff.mpr hget, hx⟩

lemma reachedWithout_iff : s.reachedWithout w id = true ↔ (∃ m ∈ s.broker, m.phaseId = id) ∨
      ∃ v x, v ≠ w ∧ s.workers.get? v = some x ∧ x.reaches id = true := by
  simp only [MessageDesk.reachedWithout, or_eq_true, List.any_eq_true, and_eq_true, bne_iff_ne, beq_iff_eq]
  refine or_congr_right ⟨?_, ?_⟩
  · rintro ⟨⟨v, x⟩, he, hv, hx⟩
    exact ⟨v, x, hv, mem_entries_iff.mp he, hx⟩
  · rintro ⟨v, x, hv, hget, hx⟩
    exact ⟨(v, x), mem_entries_iff.mpr hget, hv, hx⟩

lemma reached_iff_inFlight_or_listed : s.reached id = true ↔ s.InFlight id ∨ s.Listed id := by
  rw [reached_iff]
  constructor
  · rintro (hm | ⟨w, x, hget, hx⟩)
    · exact .inl (.inl hm)
    · rcases reaches_iff.mp hx with hm | hid
      · exact .inl (.inr ⟨w, x, hget, hm⟩)
      · exact .inr ⟨w, x, hget, hid⟩
  · rintro ((hm | ⟨w, x, hget, hm⟩) | ⟨w, x, hget, hid⟩)
    · exact .inl hm
    · exact .inr ⟨w, x, hget, reaches_iff.mpr (.inl hm)⟩
    · exact .inr ⟨w, x, hget, reaches_iff.mpr (.inr hid)⟩

lemma reached_move_of_without (h : s.reachedWithout w id = true) (hbroker : ∀ m ∈ s.broker, m ∈ t.broker)
    (hworkers : ∀ v, v ≠ w → t.workers.get? v = s.workers.get? v) : t.reached id = true := by
  rw [reached_iff]
  rcases reachedWithout_iff.mp h with ⟨m, hm, hid⟩ | ⟨v, x, hv, hget, hx⟩
  · exact .inl ⟨m, hbroker m hm, hid⟩
  · exact .inr ⟨v, x, (hworkers v hv).trans hget, hx⟩

lemma reachedWithout_or (h : s.reached id = true) (hx : s.workers.get? w = some x) :
    s.reachedWithout w id = true ∨ x.reaches id = true := by
  rcases reached_iff.mp h with hm | ⟨v, y, hget, hy⟩
  · exact .inl (reachedWithout_iff.mpr (.inl hm))
  · by_cases hv : v = w
    · subst hv
      obtain rfl : x = y := some.inj (hx.symm.trans hget)
      exact .inr hy
    · exact .inl (reachedWithout_iff.mpr (.inr ⟨v, y, hv, hget, hy⟩))

lemma reached_of_worker (hx : s.workers.get? w = some x) (h : x.reaches id = true) :
    s.reached id = true := reached_iff.mpr (.inr ⟨w, x, hx, h⟩)

end Reached

/-! ### Which phases a step queues -/

section Queued

variable {s : LeaseState} {id i : ℕ} {sel : PhaseRow → Bool} {f : PhaseRow → PhaseRow}

lemma queued_iff : s.queued id = true ↔ ∃ p, s.phases.get? id = some p ∧ p.status = .queued := by
  simp [LeaseState.queued, Option.any_eq_true]

lemma queued_assign (h : (s.assign id sel f).queued i = true) :
    s.queued i = true ∨ i = id ∧ ∃ p, sel p = true ∧ (f p).status = .queued := by
  obtain ⟨q, hq, hstatus⟩ := queued_iff.mp h
  rcases LeaseState.get?_assign_eq_some hq with hold | ⟨rfl, p, -, hsel, rfl⟩
  · exact .inl (queued_iff.mpr ⟨q, hold, hstatus⟩)
  · exact .inr ⟨rfl, p, hsel, hstatus⟩

lemma queued_of_assign (hf : ∀ p, sel p = true → (f p).status ≠ .queued)
    (h : (s.assign id sel f).queued i = true) : s.queued i = true := by
  rcases queued_assign h with hold | ⟨-, p, hsel, hstatus⟩
  · exact hold
  · exact absurd hstatus (hf p hsel)

lemma queued_of_assignTouching (hf : ∀ p, sel p = true → (f p).status ≠ .queued)
    (h : (s.assignTouching id sel f).queued i = true) : s.queued i = true := queued_of_assign hf h

lemma queued_of_acquirePhase {ttl : ℕ} {taskId token : String}
    (h : (s.acquirePhase ttl id taskId token).queued i = true) : s.queued i = true := by
  unfold LeaseState.acquirePhase at h
  split at h
  · exact h
  · split at h
    · exact queued_of_assignTouching (by simp) h
    · exact @queued_of_assignTouching { s with tokens := token :: s.tokens } id i
        (PhaseRow.acquirable taskId) (PhaseRow.leased ttl s.clock taskId token)
        (by simp [PhaseRow.leased]) h

lemma queued_of_requestWorkflowCancellation (jobId : ℕ)
    (h : (s.requestWorkflowCancellation jobId).queued i = true) : s.queued i = true := by
  obtain ⟨q, hq, hstatus⟩ := queued_iff.mp h
  have hrow : (s.phases.update (fun _ p => p.jobId == jobId && p.cancellable) fun _ p =>
      { p.unleased with status := .cancelled, finishedAt := some s.clock }).get? i = some q := hq
  rw [get?_update] at hrow
  obtain ⟨p, hp, rfl⟩ := map_eq_some_iff.mp hrow
  split at hstatus
  · cases hstatus
  · exact queued_iff.mpr ⟨p, hp, hstatus⟩

lemma queued_of_heartbeat {ttl : ℕ} {token : String}
    (h : (s.heartbeatPhaseLease ttl id token).queued i = true) : s.queued i = true := by
  refine queued_of_assignTouching (fun p hsel hstatus => ?_) h
  simp only [and_eq_true, PhaseRow.heldBy, beq_iff_eq] at hsel
  rw [hsel.2.1] at hstatus
  cases hstatus

lemma queued_requeueNext {k : ℕ} {t : LeaseState} (hstep : s.requeueNext k = some t)
    (h : t.queued i = true) : s.queued i = true ∨ ∃ r e, s.nextOf k = some (r, e) ∧ i = e.id ∧
      e.jobStatus = .running ∧ ((s.jobs.get? e.jobId).any JobRow.cancelRequested) = false := by
  obtain ⟨⟨r, e⟩, hnext, rfl⟩ := map_eq_some_iff.mp hstep
  simp only [LeaseState.requeuePhase] at h
  split at h
  · next hcond =>
    rcases queued_assign h with hold | ⟨rfl, -⟩
    · exact .inl hold
    · exact .inr ⟨r, e, hnext, rfl, hcond⟩
  · exact .inl (queued_of_assignTouching (by simp) h)

lemma queued_advanceWorkflow {job : ChunkedJob} {planManifest loadManifest : Option IndexManifest}
    {flags : WorkflowFlags} {d : Dispatch}
    (hd : advanceWorkflow job planManifest loadManifest s flags = some d)
    (h : d.lease.queued i = true) : s.queued i = true ∨ i ∈ d.plan.phaseIds := by
  -- nothing is needed of the flags here
  have hprogress : Progress job (fun _ => True) s flags d :=
    progress_advanceWorkflow (fun _ _ => trivial) (fun _ _ _ => trivial) (fun _ _ _ => trivial)
      (fun _ _ _ _ => trivial) hd
  obtain ⟨q, hq, hstatus⟩ := queued_iff.mp h
  rw [hprogress.rows] at hq
  obtain ⟨p, hp, rfl⟩ := map_eq_some_iff.mp hq
  by_cases hi : i ∈ d.plan.phaseIds
  · exact .inr hi
  · simp only [hi, if_false] at hstatus
    exact .inl (queued_iff.mpr ⟨p, hp, hstatus⟩)

end Queued

/-! ### Every queued phase is reached -/

def AllReached (s : MessageDesk) : Prop := ∀ id, s.lease.queued id = true → s.reached id = true

section Steps

variable {job : ChunkedJob} {ttl w : ℕ} {s t : MessageDesk} {x x' : Worker}

variable (x') in
/-- A worker goes on and keeps its message: what the step queues is its phase or in its plan, and what it
drops of its plan is reached otherwise. -/
lemma AllReached.goOn (h : AllReached s) (hx : s.workers.get? w = some x)
    (hmessage : x'.message = x.message) (hbroker : ∀ m ∈ s.broker, m ∈ t.broker)
    (hworkers : t.workers = s.workers.set w x')
    (hqueued : ∀ id, t.lease.queued id = true →
      s.lease.queued id = true ∨ (∃ m ∈ x.message, m.phaseId = id) ∨ id ∈ x'.ids)
    (hids : ∀ id ∈ x.ids, s.lease.queued id = true → id ∈ x'.ids ∨ (∃ m ∈ t.broker, m.phaseId = id) ∨
      (∃ m ∈ x.message, m.phaseId = id) ∨ s.reachedWithout w id = true) : AllReached t := by
  intro id hid
  have hself : t.workers.get? w = some x' := by rw [hworkers, get?_set, if_pos rfl]
  have hown : (∃ m ∈ x.message, m.phaseId = id) → t.reached id = true := fun hm =>
    reached_of_worker hself (reaches_iff.mpr (.inl (hmessage ▸ hm)))
  have hplan : id ∈ x'.ids → t.reached id = true := fun hin =>
    reached_of_worker hself (reaches_iff.mpr (.inr hin))
  have hothers : s.reachedWithout w id = true → t.reached id = true := fun hother =>
    reached_move_of_without hother hbroker fun v hv => by rw [hworkers, get?_set, if_neg hv]
  rcases hqueued id hid with hold | hm | hin
  · rcases reachedWithout_or (h id hold) hx with hother | hreaches
    · exact hothers hother
    · rcases reaches_iff.mp hreaches with hm | hin
      · exact hown hm
      · rcases hids id hin hold with hin' | hm | hm | hother
        · exact hplan hin'
        · exact reached_iff.mpr (.inl hm)
        · exact hown hm
        · exact hothers hother
  · exact hown hm
  · exact hplan hin

lemma AllReached.lease (h : AllReached s) {lease : LeaseState}
    (hqueued : ∀ id, lease.queued id = true → s.lease.queued id = true) :
    AllReached { s with lease := lease } := fun id hid => h id (hqueued id hid)

lemma ids_of_stage (h : ∀ ids, x.stage ≠ .dispatching ids) : x.ids = [] := by
  unfold Worker.ids
  split
  · next ids hstage => exact absurd hstage (h ids)
  · rfl

lemma ids_of_stage_eq {stage : WorkerStage} (hstage : x.stage = stage)
    (h : ∀ ids, stage ≠ .dispatching ids) : x.ids = [] :=
  ids_of_stage fun ids heq => h ids (hstage.symm.trans heq)

lemma queued_of_jobFailed {jobId id : ℕ} {lease : LeaseState}
    (h : (MessageDesk.jobFailed jobId lease).queued id = true) : lease.queued id = true :=
  queued_of_requestWorkflowCancellation jobId h

section

variable (h : AllReached s)
include h

lemma AllReached.fault (hx : s.workers.get? w = some x) (retryable : Bool) (error : Dict String Json)
    (hguard : ∀ id ∈ x.ids, s.lease.queued id = true →
      x.message.any (fun m => m.phaseId == id) = true ∨ s.reachedWithout w id = true) :
    AllReached (s.fault job.id w x retryable error) := by
  have hids : ∀ x' : Worker, ∀ id ∈ x.ids, s.lease.queued id = true → id ∈ x'.ids ∨
      (∃ m ∈ s.broker, m.phaseId = id) ∨ (∃ m ∈ x.message, m.phaseId = id) ∨ s.reachedWithout w id = true := by
    intro x' id hin hold
    rcases hguard id hin hold with hm | hother
    · exact .inr (.inr (.inl (by simpa [Option.any_eq_true] using hm)))
    · exact .inr (.inr (.inr hother))
  unfold MessageDesk.fault
  split
  · exact h.goOn { x with stage := .done } hx rfl (fun _ hm => hm) rfl
      (fun id hid => .inl (queued_of_jobFailed hid)) (hids _)
  · next m hm =>
    split
    · refine h.goOn { x with stage := .retrying } hx rfl (fun _ hm => hm) rfl
        (fun id hid => ?_) (hids _)
      rcases queued_assign hid with hold | ⟨rfl, -⟩
      · exact .inl hold
      · exact .inr (.inl ⟨m, hm, rfl⟩)
    · split
      · exact h.goOn { x with stage := .done } hx rfl (fun _ hm => hm) rfl
          (fun id hid => .inl (queued_of_assign (by simp) (queued_of_jobFailed hid))) (hids _)
      · exact h.goOn { x with stage := .done } hx rfl (fun _ hm => hm) rfl
          (fun id hid => .inl hid) (hids _)

lemma AllReached.leave (hx : s.workers.get? w = some x) {broker : List Message} (hbroker : ∀ m ∈ s.broker, m ∈ broker)
    (hguard : ∀ id, s.lease.queued id = true → x.reaches id = true →
      (∃ m ∈ broker, m.phaseId = id) ∨ s.reachedWithout w id = true) :
    AllReached ({ s with broker := broker }.leave w) := by
  intro id hid
  have hothers : s.reachedWithout w id = true → ({ s with broker := broker }.leave w).reached id = true := by
    intro hother
    refine reached_move_of_without hother hbroker fun v hv => ?_
    change (s.workers.delete fun i _ => i == w).get? v = _
    exact get?_delete_of_false fun _ => beq_false_of_ne hv
  rcases reachedWithout_or (h id hid) hx with hother | hreaches
  · exact hothers hother
  · rcases hguard id hid hreaches with hm | hother
    · exact reached_iff.mpr (.inl hm)
    · exact hothers hother

lemma AllReached.workerStep {a : MessageStep} (ha : a.worker? = some w)
    (hx : s.workers.get? w = some x) (hguard : Undropped s a)
    (hstep : workerStep job ttl s w x a = some t) : AllReached t := by
  cases a with
  | claim =>
    simp only [Imports.workerStep] at hstep
    split at hstep
    · next hcond =>
      obtain ⟨m, hm, rfl⟩ := map_eq_some_iff.mp hstep
      refine h.goOn _ hx ?_ (fun _ hm => hm) rfl (fun id hid => .inl (queued_of_acquirePhase hid)) ?_
      · split <;> rfl
      · rw [ids_of_stage_eq hcond.1 (by simp)]
        simp
    · cases hstep
  | abandon _ retried =>
    simp only [Imports.workerStep] at hstep
    split at hstep
    · next hstage =>
      obtain ⟨⟩ := hstep
      refine h.goOn { x with stage := if retried then .retrying else .done } hx rfl
        (fun _ hm => hm) rfl (fun id hid => .inl hid) ?_
      rw [ids_of_stage_eq hstage (by simp)]
      simp
    · cases hstep
  | heartbeat =>
    simp only [Imports.workerStep] at hstep
    split at hstep
    · obtain ⟨m, hm, rfl⟩ := map_eq_some_iff.mp hstep
      exact h.lease fun id hid => queued_of_heartbeat hid
    · cases hstep
  | complete =>
    simp only [Imports.workerStep] at hstep
    split at hstep
    · next hstage =>
      obtain ⟨m, hm, rfl⟩ := map_eq_some_iff.mp hstep
      refine h.goOn _ hx ?_ (fun _ hm => hm) rfl (fun id hid => .inl (queued_of_assignTouching (by simp) hid)) ?_
      · rfl
      · rw [ids_of_stage_eq hstage (by simp)]
        simp
    · cases hstep
  | stale =>
    simp only [Imports.workerStep] at hstep
    split at hstep
    · next hcond =>
      obtain ⟨⟩ := hstep
      refine h.goOn { x with stage := .done } hx rfl (fun _ hm => hm) rfl (fun id hid => .inl hid) ?_
      rw [ids_of_stage_eq hcond.1 (by simp)]
      simp
    · cases hstep
  | cancelled =>
    simp only [Imports.workerStep] at hstep
    split at hstep
    · next hstage =>
      obtain ⟨m, hm, rfl⟩ := map_eq_some_iff.mp hstep
      refine h.goOn { x with stage := .done } hx rfl (fun _ hm => hm) rfl
        (fun id hid => .inl (queued_of_assignTouching (by simp) hid)) ?_
      rw [ids_of_stage_eq hstage (by simp)]
      simp
    · cases hstep
  | fault _ retryable error =>
    obtain ⟨⟩ := ha
    simp only [Imports.workerStep] at hstep
    split at hstep
    · cases hstep
    · obtain ⟨⟩ := hstep
      exact h.fault hx retryable error (hguard x hx)
  | retry =>
    simp only [Imports.workerStep] at hstep
    split at hstep
    · next hstage =>
      obtain ⟨m, hm, rfl⟩ := map_eq_some_iff.mp hstep
      refine h.goOn { x with stage := .done } hx rfl
        (fun _ hm => mem_append_left _ hm) rfl (fun id hid => .inl hid) ?_
      rw [ids_of_stage_eq hstage (by simp)]
      simp
    · cases hstep
  | advance =>
    simp only [Imports.workerStep] at hstep
    split at hstep
    · next hstage =>
      obtain ⟨d, hd, rfl⟩ := map_eq_some_iff.mp hstep
      refine h.goOn { x with stage := .dispatching d.plan.phaseIds } hx rfl (fun _ hm => hm) rfl (fun id hid => ?_) ?_
      · rcases queued_advanceWorkflow hd hid with hold | hplan
        · exact .inl hold
        · exact .inr (.inr hplan)
      · rw [ids_of_stage_eq hstage (by simp)]
        simp
    · cases hstep
  | enqueue _ taskId =>
    simp only [Imports.workerStep] at hstep
    split at hstep
    · next id ids hstage =>
      obtain ⟨⟩ := hstep
      refine h.goOn { x with stage := .dispatching ids } hx rfl
        (fun _ hm => mem_append_left _ hm) rfl (fun id hid => .inl hid) fun i hi _ => ?_
      have hxids : x.ids = id :: ids := by
        unfold Worker.ids
        rw [hstage]
      rw [hxids] at hi
      rcases mem_cons.mp hi with rfl | hi
      · exact .inr (.inl ⟨⟨taskId, i⟩, mem_append_right _ (mem_singleton_self _), rfl⟩)
      · exact .inl hi
    · cases hstep
  | ack =>
    obtain ⟨⟩ := ha
    simp only [Imports.workerStep] at hstep
    split at hstep
    · next hstage =>
      obtain ⟨⟩ := hstep
      refine h.leave hx (fun _ hm => hm) fun id hid hreaches => ?_
      have hids : x.ids = [] := by
        unfold Worker.ids
        rcases hstage with hstage | hstage <;> rw [hstage]
      rcases reaches_iff.mp hreaches with ⟨m, hm, rfl⟩ | hin
      · exact .inr (hguard x hx m hm hid)
      · simp [hids] at hin
    · cases hstep
  | stop =>
    obtain ⟨⟩ := ha
    obtain ⟨⟩ := hstep
    refine h.leave hx (fun _ hm => mem_append_left _ hm) fun id hid hreaches => ?_
    have hown : (∃ m ∈ x.message, m.phaseId = id) → ∃ m ∈ s.broker ++ x.message.toList, m.phaseId = id := by
      rintro ⟨m, hm, rfl⟩
      exact ⟨m, mem_append_right _ (mem_toList.mpr hm), rfl⟩
    rcases reaches_iff.mp hreaches with hm | hin
    · exact .inl (hown hm)
    · rcases hguard x hx id hin hid with hm | hother
      · exact .inl (hown (by simpa [Option.any_eq_true] using hm))
      · exact .inr hother
  | deliver | enter | other => cases ha

lemma AllReached.other {a : LeaseStep} {lease : LeaseState} (ha : a.isOther = true)
    (hguard : Undropped s (.other a)) (hstep : leaseStep ttl s.lease a = some lease) :
    AllReached { s with lease := lease } := by
  cases a with
  | requestCancellation =>
    obtain ⟨⟩ := hstep
    exact h.lease fun id hid => queued_of_requestWorkflowCancellation _ hid
  | setJobStatus =>
    obtain ⟨⟩ := hstep
    exact h.lease fun id hid => hid
  | tick =>
    obtain ⟨⟩ := hstep
    exact h.lease fun id hid => hid
  | readExpired =>
    obtain ⟨⟩ := hstep
    exact h.lease fun id hid => hid
  | requeueNext =>
    intro id hid
    rcases queued_requeueNext hstep hid with hold | ⟨r, e, hnext, rfl, hrunning, hcancel⟩
    · exact h id hold
    · exact hguard (r, e) hnext hrunning hcancel
  | acquire | heartbeat | complete | fail | cancelAttempt | retry | queue => cases ha

lemma AllReached.step {a : MessageStep} (hguard : Undropped s a)
    (hstep : s.step job ttl a = some t) : AllReached t := by
  have hworker : ∀ w, a.worker? = some w →
      (s.workers.get? w).bind (fun x => Imports.workerStep job ttl s w x a) = some t →
        AllReached t := by
    intro w ha hstep
    obtain ⟨x, hx, hstep⟩ := bind_eq_some_iff.mp hstep
    exact h.workerStep ha hx hguard hstep
  cases a with
  | deliver w m =>
    rw [MessageDesk.step] at hstep
    split at hstep
    · next hcond =>
      obtain ⟨⟩ := hstep
      have hself : (s.workers.set w ⟨some m, "", .received⟩).get? w = some ⟨some m, "", .received⟩ := by
        rw [get?_set, if_pos rfl]
      intro id hid
      rcases reached_iff.mp (h id hid) with ⟨m', hm', rfl⟩ | ⟨v, y, hget, hy⟩
      · -- the message that is delivered is held by the worker now
        by_cases hmm : m' = m
        · subst hmm
          exact reached_of_worker hself (reaches_iff.mpr (.inl ⟨m', rfl, rfl⟩))
        · exact reached_iff.mpr (.inl ⟨m', (mem_erase_of_ne hmm).mpr hm', rfl⟩)
      · have hv : v ≠ w := by
          rintro rfl
          rw [hget] at hcond
          cases hcond.2
        refine reached_iff.mpr (.inr ⟨v, y, ?_, hy⟩)
        change (s.workers.set w ⟨some m, "", .received⟩).get? v = some y
        rw [get?_set, if_neg hv]
        exact hget
    · cases hstep
  | enter w =>
    rw [MessageDesk.step] at hstep
    split at hstep
    · next hnew =>
      obtain ⟨⟩ := hstep
      intro id hid
      rcases reached_iff.mp (h id hid) with hm | ⟨v, y, hget, hy⟩
      · exact reached_iff.mpr (.inl hm)
      · have hv : v ≠ w := by
          rintro rfl
          rw [hget] at hnew
          cases hnew
        refine reached_iff.mpr (.inr ⟨v, y, ?_, hy⟩)
        change (s.workers.set w ⟨none, "", .completed⟩).get? v = some y
        rw [get?_set, if_neg hv]
        exact hget
    · cases hstep
  | other =>
    rw [MessageDesk.step] at hstep
    split at hstep
    · next ha =>
      obtain ⟨_, hlease, rfl⟩ := map_eq_some_iff.mp hstep
      exact h.other ha hguard hlease
    · cases hstep
  | claim w => exact hworker w rfl hstep
  | abandon w => exact hworker w rfl hstep
  | heartbeat w => exact hworker w rfl hstep
  | complete w => exact hworker w rfl hstep
  | stale w => exact hworker w rfl hstep
  | cancelled w => exact hworker w rfl hstep
  | fault w => exact hworker w rfl hstep
  | retry w => exact hworker w rfl hstep
  | advance w => exact hworker w rfl hstep
  | enqueue w => exact hworker w rfl hstep
  | ack w => exact hworker w rfl hstep
  | stop w => exact hworker w rfl hstep

end

/-- In every run that drops nothing, every QUEUED phase has a message in flight or is in a plan, in each
state reached. -/
theorem queued_phases_reached {as : List MessageStep} (hs : s.QueuedReached)
    (hguard : Guarded (MessageDesk.step job ttl) Undropped s as)
    (hrun : run (MessageDesk.step job ttl) s as = some t) : t.QueuedReached := by
  have hstart : AllReached s := fun id hid => reached_iff_inFlight_or_listed.mpr (hs id hid)
  have hend := run_invariant (fun _ _ _ h hguard hstep => h.step hguard hstep) hstart hguard hrun
  exact fun id hid => reached_iff_inFlight_or_listed.mp (hend id hid)

end Steps

/-! The condition can be checked on a concrete run. -/

instance (s : MessageDesk) : DecidablePred (Undropped s)
  | .fault w _ _ | .stop w => inferInstanceAs (Decidable (∀ x ∈ s.workers.get? w, ∀ id ∈ x.ids,
      s.lease.queued id = true → x.message.any (fun m => m.phaseId == id) = true ∨ s.reachedWithout w id = true))
  | .ack w => inferInstanceAs (Decidable (∀ x ∈ s.workers.get? w, ∀ m ∈ x.message,
      s.lease.queued m.phaseId = true → s.reachedWithout w m.phaseId = true))
  | .other (.requeueNext k) => inferInstanceAs (Decidable (∀ x ∈ s.lease.nextOf k,
      x.2.jobStatus = .running → ((s.lease.jobs.get? x.2.jobId).any JobRow.cancelRequested) = false →
          s.reached x.2.id = true))
  | .deliver .. | .enter .. | .claim .. | .abandon .. | .heartbeat .. | .complete .. | .stale ..
  | .cancelled .. | .retry .. | .advance .. | .enqueue .. | .other (.acquire ..)
  | .other (.heartbeat ..) | .other (.complete ..) | .other (.fail ..) | .other (.cancelAttempt ..)
  | .other (.retry ..) | .other (.queue ..) | .other (.requestCancellation ..)
  | .other (.setJobStatus ..) | .other (.tick ..) | .other .readExpired => .isTrue trivial

/-! ### A worker that is lost, and a plan that is -/

/-- The staged bundle, before anything is dispatched. -/
def stagedDesk : MessageDesk := ⟨smallBundle.staged, stagedFlags, [], Keyed.empty⟩

lemma stagedDesk_reached : stagedDesk.QueuedReached := by
  intro id hid
  obtain ⟨p, hp, hstatus⟩ := queued_iff.mp hid
  have hmem := mem_entries_iff.mpr hp
  have hstaged : ∀ e ∈ stagedDesk.lease.phases.entries, e.2.status ≠ .queued := by decide +kernel
  exact absurd hstatus (hstaged _ hmem)

/-- The worker of the first phase is lost after its claim; the phase is requeued and claimed again with the
same message. -/
theorem queued_phases_reached_lost_worker : ∃ t, run (MessageDesk.step smallBundle 180) stagedDesk
      [.enter 1, .advance 1 none none, .enqueue 1 "task", .ack 1, .deliver 2 ⟨"task", 1⟩,
        .claim 2 "token", .stop 2, .other (.tick 200), .other .readExpired, .other (.requeueNext 0)] =
      some t ∧ t.lease.queued 1 = true ∧ t.QueuedReached := by
  have hqueued : (run (MessageDesk.step smallBundle 180) stagedDesk
      [.enter 1, .advance 1 none none, .enqueue 1 "task", .ack 1, .deliver 2 ⟨"task", 1⟩,
        .claim 2 "token", .stop 2, .other (.tick 200), .other .readExpired,
        .other (.requeueNext 0)]).map (fun t => t.lease.queued 1) = some true := by
    decide +kernel
  obtain ⟨t, ht, hstatus⟩ := map_eq_some_iff.mp hqueued
  exact ⟨t, ht, hstatus, queued_phases_reached stagedDesk_reached (by decide +kernel) ht⟩

/-- `requeue_expired_import_phases` has run: no phase has an expired lease, and no list is being worked
off. -/
structure Requeued (s : LeaseState) : Prop where
  started : s.requeues ≠ []
  finished : ∀ r ∈ s.requeues, r.phases = []
  expired : s.expiredPhases = []

/-- The worker that planned the root chunk advances the workflow and stops before it enqueues the phases of
its plan; its message is delivered again, and finds the phase completed. -/
def lostPlan : List MessageStep :=
  [.enter 1, .advance 1 none none, .enqueue 1 "task", .ack 1, .deliver 2 ⟨"task", 1⟩,
    .claim 2 "token", .complete 2 [], .advance 2 (some ⟨1, "sum", 0⟩) none, .stop 2,
    .deliver 3 ⟨"task", 1⟩, .claim 3 "second", .ack 3, .other .readExpired, .enter 4]

/-- After a requeue and a further call of `advance_workflow` the phases of the lost plan are QUEUED, without
a message and in no plan. -/
theorem queued_phase_stranded : ¬ ∀ (job : ChunkedJob) (ttl : ℕ) (s t u : MessageDesk) (as : List MessageStep) (w : ℕ)
      (planManifest loadManifest : Option IndexManifest),
      s.QueuedReached → run (MessageDesk.step job ttl) s as = some t → Requeued t.lease →
        (t.lease.jobs.get? job.id).any JobRow.active = true →
          t.step job ttl (.advance w planManifest loadManifest) = some u → u.QueuedReached := by
  intro h
  have hsome : (run (MessageDesk.step smallBundle 180) stagedDesk lostPlan).isSome = true := by
    decide +kernel
  obtain ⟨t, ht⟩ := isSome_iff_exists.mp hsome
  have hend : ∀ t ∈ run (MessageDesk.step smallBundle 180) stagedDesk lostPlan,
      (t.lease.requeues ≠ [] ∧ (∀ r ∈ t.lease.requeues, r.phases = []) ∧ t.lease.expiredPhases = []) ∧
      (t.lease.jobs.get? smallBundle.id).any JobRow.active = true ∧
      (t.step smallBundle 180 (.advance 4 none none)).any (fun u =>
        u.lease.queued 3 && !u.reached 3) = true := by
    decide +kernel
  obtain ⟨⟨hstarted, hfinished, hexpired⟩, hactive, hadvance⟩ := hend t ht
  obtain ⟨u, hu, hstranded⟩ := (any_eq_true _ _).mp hadvance
  obtain ⟨hqueued, hreached⟩ := (and_eq_true _ _).mp hstranded
  have hcovered := h smallBundle 180 stagedDesk t u lostPlan 4 none none stagedDesk_reached ht
    ⟨hstarted, hfinished, hexpired⟩ hactive hu 3 hqueued
  rw [reached_iff_inFlight_or_listed.mpr hcovered] at hreached
  cases hreached

end ImmoApp.Imports
