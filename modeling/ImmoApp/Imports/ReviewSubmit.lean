import ImmoApp.Foundation.Keyed
import ImmoApp.Foundation.Runs
import ImmoApp.Foundation.Text

/-!
# Attempts of a review submission

The submission of a review is done under an attempt, a record in the workflow payload.  Every operation reads the record
again under the row lock of the job, except one: `_note_repair` writes back the whole payload that the watchdog has read
earlier.

`work_done_once`: in every run in which no such note brings back an attempt that has ended, the terminal section of an
attempt runs to completion at most once and never after the attempt has ended, and a task with an id that is not the
owner's writes nothing through the fence.
-/

namespace ImmoApp.Imports

open List Option Bool

/-! ### The lifecycle of an attempt -/

/-- The statuses of `task_attempt_lifecycle`. -/
inductive AttemptStatus where
  | none
  | pending
  | published
  | publishFailed
  | started
  | cancelRequested
  | completed
  | conflict
  | failed
  | cancelled
  | staleIgnored
  deriving DecidableEq

/-- `ATTEMPT_TERMINAL_STATUSES`. -/
def AttemptStatus.terminal : AttemptStatus → Bool
  | completed | conflict | failed | cancelled | staleIgnored => true
  | _ => false

/-- `REVIEW_SUBMIT_STARTABLE_STATUSES`, which are also those of a dispatch that can be published again. -/
def AttemptStatus.startable : AttemptStatus → Bool
  | pending | published | publishFailed => true
  | _ => false

lemma AttemptStatus.not_terminal {status : AttemptStatus} (h : status.startable = true) :
    status.terminal = false := by
  cases status <;> first | rfl | cases h

/-- The statuses that an attempt is finished with. -/
inductive Outcome where
  | completed
  | conflict
  | failed

def Outcome.status : Outcome → AttemptStatus
  | completed => .completed
  | conflict => .conflict
  | failed => .failed

/-- The record of an attempt.  Missing keys are empty. -/
structure SubmitAttempt where
  attemptId : ℕ
  taskId : String
  status : AttemptStatus
  requestedAt : Option ℕ
  publishedAt : Option ℕ
  startedAt : Option ℕ
  heartbeatAt : Option ℕ
  finishedAt : Option ℕ
  cancelRequestedAt : Option ℕ
  cancelReason : String
  publishAttemptCount : ℕ
  lastErrorCode : String
  lastAttemptedAt : Option ℕ

def SubmitAttempt.missing : SubmitAttempt := ⟨0, "", .none, none, none, none, none, none, none, "", 0, "", none⟩

structure AttemptDecision where
  payload : SubmitAttempt
  status : AttemptStatus
  changed : Bool

/-- `_task_id_matches`: a caller without a task id matches every record. -/
def SubmitAttempt.taskIdMatches (payload : SubmitAttempt) (taskId : String) : Bool :=
  strip taskId == "" || strip taskId == strip payload.taskId

/-- `new_attempt_payload` with the initial payload of `begin_review_submit_dispatch`. -/
def newAttemptPayload (taskId : String) (fresh now : ℕ) : SubmitAttempt :=
  { SubmitAttempt.missing with attemptId := fresh, taskId := taskId, status := .pending, requestedAt := some now }

/-- `is_attempt_current`, for a started attempt. -/
def isAttemptCurrent (payload : SubmitAttempt) (taskId : String) : AttemptDecision :=
  if !payload.taskIdMatches taskId then ⟨payload, .staleIgnored, false⟩
  else if payload.status.terminal || payload.status == .cancelRequested then ⟨payload, payload.status, false⟩
  else if payload.status ≠ .started then
    ⟨payload, if payload.status = .none then .staleIgnored else payload.status, false⟩
  else ⟨payload, payload.status, true⟩

def claimStartedPayload (payload : SubmitAttempt) (taskId : String) (fresh now : ℕ) : AttemptDecision :=
  if strip payload.taskId = "" then ⟨payload, .staleIgnored, false⟩
  else if strip taskId ≠ "" ∧ strip taskId ≠ strip payload.taskId then ⟨payload, .staleIgnored, false⟩
  else if !payload.status.startable then ⟨payload, .staleIgnored, false⟩
  else
    ⟨{ payload with
        taskId := strip payload.taskId
        attemptId := if payload.attemptId = 0 then fresh else payload.attemptId
        status := .started
        startedAt := payload.startedAt.or (some now)
        heartbeatAt := some now }, .started, true⟩

def heartbeatPayload (payload : SubmitAttempt) (taskId : String) (now : ℕ) : AttemptDecision :=
  let current := isAttemptCurrent payload taskId
  if !current.changed then current
  else ⟨{ payload with heartbeatAt := some now }, .started, true⟩

/-- `cancel_payload` of a started attempt. -/
def cancelPayload (payload : SubmitAttempt) (taskId reason : String) (now : ℕ) : AttemptDecision :=
  if !payload.taskIdMatches taskId then ⟨payload, .staleIgnored, false⟩
  else if payload.status.terminal then ⟨payload, payload.status, false⟩
  else if payload.status ≠ .started then
    ⟨payload, if payload.status = .none then .staleIgnored else payload.status, false⟩
  else
    ⟨{ payload with
        status := .cancelled, cancelRequestedAt := some now, cancelReason := reason, finishedAt := some now },
      .cancelled, true⟩

def finishPayload (payload : SubmitAttempt) (taskId : String) (outcome : Outcome) (fresh now : ℕ) :
    AttemptDecision :=
  if !payload.taskIdMatches taskId then ⟨payload, .staleIgnored, false⟩
  else if payload.status.terminal then ⟨payload, payload.status, false⟩
  else
    ⟨{ payload with
        attemptId := if payload.attemptId = 0 then fresh else payload.attemptId
        status := outcome.status, finishedAt := some now }, outcome.status, true⟩

/-- `_mark_review_submit_dispatch_published`. -/
def markPublished (payload : SubmitAttempt) (taskId : String) (now : ℕ) : SubmitAttempt :=
  if payload.taskId ≠ taskId ∨ payload.status.terminal = true then payload
  else { payload with
    status := if payload.status = .started then .started else .published
    publishedAt := payload.publishedAt.or (some now)
    publishAttemptCount := payload.publishAttemptCount + 1
    lastAttemptedAt := some now
    lastErrorCode := "" }

/-- `_mark_review_submit_dispatch_publish_failed`. -/
def markPublishFailed (payload : SubmitAttempt) (taskId errorCode : String) (now : ℕ) : SubmitAttempt :=
  if payload.taskId ≠ taskId ∨ payload.status.terminal = true ∨ payload.status = .started then payload
  else { payload with
    status := .publishFailed
    publishAttemptCount := payload.publishAttemptCount + 1
    lastErrorCode := errorCode
    lastAttemptedAt := some now }

section Decisions

variable {a : SubmitAttempt} {taskId : String} {outcome : Outcome}

lemma isAttemptCurrent_changed (h : (isAttemptCurrent a taskId).changed = true) :
    a.status = .started ∧ a.taskIdMatches taskId = true := by
  rw [isAttemptCurrent] at h
  split at h
  · cases h
  · next hmatches =>
    split at h
    · cases h
    · split at h
      · cases h
      · next hstarted => exact ⟨not_not.mp hstarted, by simpa using hmatches⟩

lemma heartbeatPayload_eq (a : SubmitAttempt) (taskId : String) (now : ℕ) : heartbeatPayload a taskId now
    = if (isAttemptCurrent a taskId).changed then ⟨{ a with heartbeatAt := some now }, .started, true⟩
      else isAttemptCurrent a taskId := by
  rw [heartbeatPayload]
  cases hchanged : (isAttemptCurrent a taskId).changed
  · simp
  · simp

variable {now fresh : ℕ}

lemma heartbeatPayload_changed (h : (heartbeatPayload a taskId now).changed = true) :
    (isAttemptCurrent a taskId).changed = true ∧
      (heartbeatPayload a taskId now).payload = { a with heartbeatAt := some now } := by
  rw [heartbeatPayload_eq] at h ⊢
  cases hchanged : (isAttemptCurrent a taskId).changed with
  | true => exact ⟨rfl, rfl⟩
  | false =>
    rw [hchanged, if_neg Bool.false_ne_true, hchanged] at h
    cases h

lemma claimStartedPayload_changed (h : (claimStartedPayload a taskId fresh now).changed = true) :
    a.status.startable = true ∧
      (claimStartedPayload a taskId fresh now).payload.attemptId = if a.attemptId = 0 then fresh else a.attemptId := by
  unfold claimStartedPayload at h ⊢
  split at h
  · cases h
  · split at h
    · cases h
    · split at h
      · cases h
      · next hblank hother hstartable =>
        rw [if_neg hblank, if_neg hother, if_neg hstartable]
        exact ⟨by simpa using hstartable, rfl⟩

lemma cancelPayload_changed {reason : String} (h : (cancelPayload a taskId reason now).changed = true) :
    a.status = .started ∧ (cancelPayload a taskId reason now).payload.status = .cancelled ∧
      (cancelPayload a taskId reason now).payload.attemptId = a.attemptId := by
  unfold cancelPayload at h ⊢
  split at h
  · cases h
  · split at h
    · cases h
    · split at h
      · cases h
      · next hmatches hterminal hstarted =>
        rw [if_neg hmatches, if_neg hterminal, if_neg hstarted]
        exact ⟨not_not.mp hstarted, rfl, rfl⟩

lemma Outcome.terminal (outcome : Outcome) : outcome.status.terminal = true := by
  cases outcome <;> rfl

lemma finishPayload_changed (hmatches : a.taskIdMatches taskId = true) (hopen : a.status.terminal = false) :
    finishPayload a taskId outcome fresh now = ⟨{ a with
      attemptId := if a.attemptId = 0 then fresh else a.attemptId
      status := outcome.status, finishedAt := some now }, outcome.status, true⟩ := by
  rw [finishPayload, if_neg (by simp [hmatches]), if_neg (by simp [hopen])]

lemma finishPayload_of_changed (h : (finishPayload a taskId outcome fresh now).changed = true) :
    a.taskIdMatches taskId = true ∧ a.status.terminal = false := by
  unfold finishPayload at h
  split at h
  · cases h
  · split at h
    · cases h
    · next hmatches hterminal => exact ⟨by simpa using hmatches, by simpa using hterminal⟩

lemma markPublished_spec (a : SubmitAttempt) (taskId : String) (now : ℕ) :
    (markPublished a taskId now).attemptId = a.attemptId ∧
      (a.status.terminal = true → (markPublished a taskId now).status.terminal = true) := by
  rw [markPublished]
  split
  · exact ⟨rfl, id⟩
  · next hopen => exact ⟨rfl, fun hterminal => absurd (.inr hterminal) hopen⟩

lemma markPublishFailed_spec (a : SubmitAttempt) (taskId errorCode : String) (now : ℕ) :
    (markPublishFailed a taskId errorCode now).attemptId = a.attemptId ∧
      (a.status.terminal = true → (markPublishFailed a taskId errorCode now).status.terminal = true) := by
  rw [markPublishFailed]
  split
  · exact ⟨rfl, id⟩
  · next hopen => exact ⟨rfl, fun hterminal => absurd (.inr (.inl hterminal)) hopen⟩

end Decisions

/-! ### The job -/

inductive SubmitEvent where
  /-- The terminal section of an attempt ran to completion for a task. -/
  | completed (attemptId : ℕ) (taskId : String)
  | ended (attemptId : ℕ)
  | wrote (taskId owner : String)
  deriving DecidableEq

def SubmitEvent.ends : SubmitEvent → Option ℕ
  | completed attemptId _ | ended attemptId => some attemptId
  | wrote _ _ => none

/-- The event is the completion of an attempt's terminal section. -/
def SubmitEvent.completes (attemptId : ℕ) : SubmitEvent → Bool
  | completed attemptId' _ => attemptId' == attemptId
  | _ => false

structure SubmitDesk where
  attempt : SubmitAttempt
  jobTaskId : String
  nextId : ℕ
  clock : ℕ
  copies : Keyed ℕ SubmitAttempt
  log : List SubmitEvent

inductive FencedWork where
  | raises
  | writes
  | finishes (outcome : Outcome)

/-- A step of the publisher, a worker or the watchdog. -/
inductive SubmitAction where
  | tick
  /-- `begin_review_submit_attempt`, with the task id of the job. -/
  | begin (taskId : String)
  /-- `mark_review_submit_dispatch_published_fresh`. -/
  | markPublished (taskId : String)
  /-- `mark_review_submit_dispatch_publish_failed_fresh`. -/
  | markPublishFailed (taskId errorCode : String)
  | read (watchdog : ℕ)
  /-- `_note_repair`: it writes the payload back. -/
  | noteRepair (watchdog : ℕ)
  /-- `publish_review_submit_dispatch` with the payload that was read; the task may not be sent. -/
  | repair (watchdog : ℕ) (sent : Bool)
  /-- `claim_review_submit_attempt_started`. -/
  | claim (taskId : String)
  /-- `heartbeat_review_submit_attempt`. -/
  | heartbeat (taskId : String)
  /-- `run_with_review_submit_attempt_fence`. -/
  | fenced (taskId : String) (work : FencedWork)
  /-- `run_review_submit_terminal_section`: the work and its finish, or the handler's. -/
  | terminal (taskId : String) (outcome : Outcome)
  /-- `finish_review_submit_attempt_fresh`. -/
  | finish (taskId : String) (outcome : Outcome)
  /-- `request_review_submit_attempt_cancel`. -/
  | cancel (taskId reason : String)

namespace SubmitDesk

/-- The record with the task id of the job where it has none. -/
def withTaskId (s : SubmitDesk) : SubmitAttempt :=
  if strip s.attempt.taskId = "" then { s.attempt with taskId := s.jobTaskId } else s.attempt

/-- `_finish_locked_attempt`. -/
def finishLocked (s : SubmitDesk) (taskId : String) (outcome : Outcome) : SubmitDesk :=
  let decision := finishPayload s.attempt taskId outcome s.nextId s.clock
  if decision.changed then { s with
    attempt := decision.payload, nextId := s.nextId + 1
    log := .ended decision.payload.attemptId :: s.log }
  else s

/-- `run_with_review_submit_attempt_fence`. -/
def fencedWrite (s : SubmitDesk) (taskId : String) (work : FencedWork) : SubmitDesk :=
  let decision := heartbeatPayload s.attempt taskId s.clock
  if !decision.changed then s
  else match work with
    | .raises => s
    | .writes => { s with attempt := decision.payload, log := .wrote taskId s.attempt.taskId :: s.log }
    | .finishes outcome => finishLocked { s with
        attempt := decision.payload, log := .wrote taskId s.attempt.taskId :: s.log } taskId outcome

def step (s : SubmitDesk) : SubmitAction → Option SubmitDesk
  | .tick => some { s with clock := s.clock + 1 }
  | .begin taskId => some { s with
      attempt := newAttemptPayload taskId s.nextId s.clock, jobTaskId := taskId, nextId := s.nextId + 1 }
  | .markPublished taskId => some { s with attempt := Imports.markPublished s.attempt taskId s.clock }
  | .markPublishFailed taskId errorCode => some { s with
      attempt := Imports.markPublishFailed s.attempt taskId errorCode s.clock }
  | .read watchdog => some { s with copies := s.copies.set watchdog s.attempt }
  | .noteRepair watchdog => (s.copies.get? watchdog).map fun copy => { s with attempt := copy }
  | .repair watchdog sent => (s.copies.get? watchdog).map fun copy =>
      if copy.status.startable && strip copy.taskId != "" then { s with
        attempt := if sent then Imports.markPublished s.attempt (strip copy.taskId) s.clock
          else Imports.markPublishFailed s.attempt (strip copy.taskId) "review_submit_publish_failed" s.clock }
      else s
  | .claim taskId =>
    let decision := claimStartedPayload s.withTaskId taskId s.nextId s.clock
    if decision.changed then some { s with attempt := decision.payload, nextId := s.nextId + 1 }
    else some s
  | .heartbeat taskId =>
    let decision := heartbeatPayload s.attempt taskId s.clock
    if decision.changed then some { s with attempt := decision.payload } else some s
  | .fenced taskId work => some (s.fencedWrite taskId work)
  | .terminal taskId outcome =>
    if !(isAttemptCurrent s.attempt taskId).changed then some s
    else
      let heartbeat := (heartbeatPayload s.attempt taskId s.clock).payload
      let decision := finishPayload heartbeat taskId outcome s.nextId s.clock
      some { s with
        attempt := decision.payload, nextId := s.nextId + 1
        log := .completed decision.payload.attemptId taskId :: s.log }
  | .finish taskId outcome => some (s.finishLocked taskId outcome)
  | .cancel taskId reason =>
    let decision := cancelPayload s.withTaskId taskId reason s.clock
    if decision.changed then some { s with
      attempt := decision.payload, log := .ended decision.payload.attemptId :: s.log }
    else some s

end SubmitDesk

/-! ### What the attempts promise -/

structure WorkOnce (log : List SubmitEvent) : Prop where
  /-- At most one terminal section of an attempt runs to completion. -/
  once : ∀ attemptId, log.countP (SubmitEvent.completes attemptId) ≤ 1
  /-- None does after the attempt was cancelled or finished. -/
  after : log.Pairwise fun later earlier => ∀ attemptId, later.completes attemptId = true →
    earlier.ends ≠ some attemptId
  /-- A task that writes through the fence owns the attempt. -/
  owned : ∀ taskId owner, .wrote taskId owner ∈ log → strip taskId ≠ "" → strip taskId = strip owner

/-- The watchdog does not bring back an attempt that has ended. -/
def NoteHarmless (s : SubmitDesk) : SubmitAction → Prop
  | .noteRepair watchdog => ∀ copy ∈ s.copies.get? watchdog,
      (∃ e ∈ s.log, e.ends = some copy.attemptId) → copy.status.terminal = true
  | _ => True

instance (s : SubmitDesk) : DecidablePred (NoteHarmless s) := fun action => by
  cases action <;> unfold NoteHarmless <;> infer_instance

structure SubmitDesk.Fresh (s : SubmitDesk) : Prop where
  attempt : s.attempt.attemptId < s.nextId
  copies : ∀ watchdog, s.copies.get? watchdog = none
  log : s.log = []

namespace SubmitDesk

structure Ordered (s : SubmitDesk) : Prop where
  current : s.attempt.attemptId < s.nextId
  copied : ∀ watchdog copy, s.copies.get? watchdog = some copy → copy.attemptId < s.nextId
  below : ∀ e ∈ s.log, ∀ attemptId, e.ends = some attemptId → attemptId < s.nextId
  ended : (∃ e ∈ s.log, e.ends = some s.attempt.attemptId) → s.attempt.status.terminal = true
  /-- A terminal section runs before the attempt ends. -/
  after : s.log.Pairwise fun later earlier => ∀ attemptId, later.completes attemptId = true →
    earlier.ends ≠ some attemptId
  /-- A task that writes through the fence owns the attempt. -/
  owned : ∀ taskId owner, .wrote taskId owner ∈ s.log → strip taskId ≠ "" → strip taskId = strip owner

variable {s t : SubmitDesk} {a : SubmitAttempt} {e : SubmitEvent} {taskId : String} {outcome : Outcome}

/-- The attempt of a record: the current one, or a new one. -/
def Names (s : SubmitDesk) (attemptId : ℕ) : Prop := attemptId = s.attempt.attemptId ∨ attemptId = s.nextId

variable {attemptId : ℕ}

section

variable (hs : s.Ordered)
include hs

lemma Ordered.open (hopen : s.attempt.status.terminal = false)
    (hid : s.Names attemptId) : ∀ e ∈ s.log, e.ends ≠ some attemptId := by
  intro e he hends
  rcases hid with rfl | rfl
  · rw [hs.ended ⟨e, he, hends⟩] at hopen
    exact absurd hopen (by decide)
  · exact absurd (hs.below e he _ hends) (lt_irrefl _)

lemma Names.lt (hid : s.Names attemptId) : attemptId < s.nextId + 1 := by
  rcases hid with rfl | rfl
  · exact Nat.lt_succ_of_lt hs.current
  · exact Nat.lt_succ_self _

lemma Ordered.rewrite (hid : a.attemptId = s.attempt.attemptId)
    (hterminal : s.attempt.status.terminal = true → a.status.terminal = true) :
    Ordered { s with attempt := a } where
  current := by
    change a.attemptId < s.nextId
    rw [hid]
    exact hs.current
  copied := hs.copied
  below := hs.below
  ended := by
    rintro ⟨e, he, hends⟩
    exact hterminal (hs.ended ⟨e, he, hid ▸ hends⟩)
  after := hs.after
  owned := hs.owned

lemma Ordered.opens (hid : a.attemptId = s.nextId ∨ s.attempt.status.terminal = false ∧ s.Names a.attemptId) :
    Ordered { s with attempt := a, nextId := s.nextId + 1 } where
  current := by
    rcases hid with hid | ⟨-, hid⟩
    · exact hid ▸ Nat.lt_succ_self _
    · exact hid.lt hs
  copied := fun watchdog copy hcopy => Nat.lt_succ_of_lt (hs.copied watchdog copy hcopy)
  below := fun e he attemptId hends => Nat.lt_succ_of_lt (hs.below e he attemptId hends)
  ended := by
    rintro ⟨e, he, hends⟩
    rcases hid with hid | ⟨hopen, hid⟩
    · exact absurd (hs.below e he _ hends) (hid ▸ lt_irrefl _)
    · exact absurd hends (hs.open hopen hid e he)
  after := hs.after
  owned := hs.owned

lemma Ordered.ends (hopen : s.attempt.status.terminal = false)
    (hterminal : a.status.terminal = true) (hid : s.Names a.attemptId) (hends : e.ends = some a.attemptId) {n : ℕ}
    (hn : s.nextId ≤ n) (hlt : a.attemptId < n) :
    Ordered { s with attempt := a, nextId := n, log := e :: s.log } where
  current := hlt
  copied := fun watchdog copy hcopy => (hs.copied watchdog copy hcopy).trans_le hn
  below := by
    intro e' he' attemptId hends'
    rcases mem_cons.mp he' with rfl | he'
    · obtain rfl := some.inj (hends.symm.trans hends')
      exact hlt
    · exact (hs.below e' he' attemptId hends').trans_le hn
  ended := fun _ => hterminal
  after := by
    refine pairwise_cons.mpr ⟨fun e' he' attemptId hcompletes => ?_, hs.after⟩
    have hattempt : a.attemptId = attemptId := by
      cases e with
      | completed =>
        obtain ⟨⟩ := hends
        simpa [SubmitEvent.completes] using hcompletes
      | ended attemptId' => exact absurd hcompletes false_ne_true
      | wrote taskId' owner => exact absurd hcompletes false_ne_true
    exact hs.open hopen (hattempt ▸ hid) e' he'
  owned := by
    intro taskId' owner hwrote
    rcases mem_cons.mp hwrote with rfl | hwrote
    · cases hends
    · exact hs.owned taskId' owner hwrote

lemma Ordered.wrote {owner : String} (howner : strip taskId ≠ "" → strip taskId = strip owner) :
    Ordered { s with log := .wrote taskId owner :: s.log } where
  current := hs.current
  copied := hs.copied
  below := by
    intro e he attemptId hends
    rcases mem_cons.mp he with rfl | he
    · cases hends
    · exact hs.below e he attemptId hends
  ended := by
    rintro ⟨e, he, hends⟩
    rcases mem_cons.mp he with rfl | he
    · cases hends
    · exact hs.ended ⟨e, he, hends⟩
  after := by
    refine pairwise_cons.mpr ⟨fun e' _ attemptId hcompletes => ?_, hs.after⟩
    exact absurd hcompletes false_ne_true
  owned := by
    intro taskId' owner' hwrote
    rcases mem_cons.mp hwrote with heq | hwrote
    · cases heq
      exact howner
    · exact hs.owned taskId' owner' hwrote

end

lemma names_ite (s : SubmitDesk) : s.Names (if s.attempt.attemptId = 0 then s.nextId else s.attempt.attemptId) := by
  split
  · exact .inr rfl
  · exact .inl rfl

lemma Ordered.finishLocked (hs : s.Ordered) : (s.finishLocked taskId outcome).Ordered := by
  rw [SubmitDesk.finishLocked]
  split
  · next hchanged =>
    obtain ⟨hmatches, hopen⟩ := finishPayload_of_changed hchanged
    rw [finishPayload_changed hmatches hopen]
    exact hs.ends hopen outcome.terminal (names_ite s) rfl (Nat.le_succ _) ((names_ite s).lt hs)
  · exact hs

lemma Ordered.fencedWrite (hs : s.Ordered) {work : FencedWork} : (s.fencedWrite taskId work).Ordered := by
  unfold SubmitDesk.fencedWrite
  dsimp only
  split
  · exact hs
  · next hchanged =>
    rw [not_eq_true', not_eq_false] at hchanged
    obtain ⟨hcurrent, hpayload⟩ := heartbeatPayload_changed hchanged
    obtain ⟨-, hmatches⟩ := isAttemptCurrent_changed hcurrent
    have howner : strip taskId ≠ "" → strip taskId = strip s.attempt.taskId := by
      intro hblank
      rw [SubmitAttempt.taskIdMatches, or_eq_true, beq_iff_eq, beq_iff_eq] at hmatches
      exact hmatches.resolve_left hblank
    have hbeat : Ordered { s with attempt := { s.attempt with heartbeatAt := some s.clock } } :=
      hs.rewrite rfl id
    rw [hpayload]
    cases work with
    | raises => exact hs
    | writes => exact hbeat.wrote howner
    | finishes => exact (hbeat.wrote howner).finishLocked

lemma withTaskId_attemptId (s : SubmitDesk) : s.withTaskId.attemptId = s.attempt.attemptId := by
  rw [withTaskId]
  split <;> rfl

lemma withTaskId_status (s : SubmitDesk) : s.withTaskId.status = s.attempt.status := by
  rw [withTaskId]
  split <;> rfl

lemma Ordered.step (hs : s.Ordered) {action : SubmitAction} (hnote : NoteHarmless s action)
    (hstep : s.step action = some t) : t.Ordered := by
  cases action with
  | tick =>
    cases hstep
    exact ⟨hs.current, hs.copied, hs.below, hs.ended, hs.after, hs.owned⟩
  | «begin» taskId =>
    cases hstep
    have hid : (newAttemptPayload taskId s.nextId s.clock).attemptId = s.nextId := rfl
    have hopened := hs.opens (.inl hid)
    exact ⟨hopened.current, hopened.copied, hopened.below, hopened.ended, hopened.after, hopened.owned⟩
  | markPublished taskId =>
    cases hstep
    obtain ⟨hid, hterminal⟩ := markPublished_spec s.attempt taskId s.clock
    exact hs.rewrite hid hterminal
  | markPublishFailed taskId errorCode =>
    cases hstep
    obtain ⟨hid, hterminal⟩ := markPublishFailed_spec s.attempt taskId errorCode s.clock
    exact hs.rewrite hid hterminal
  | read =>
    cases hstep
    refine ⟨hs.current, fun watchdog' copy hcopy => ?_, hs.below, hs.ended, hs.after, hs.owned⟩
    rw [Keyed.get?_set] at hcopy
    split at hcopy
    · cases hcopy
      exact hs.current
    · exact hs.copied watchdog' copy hcopy
  | noteRepair watchdog =>
    obtain ⟨copy, hcopy, rfl⟩ := map_eq_some_iff.mp hstep
    exact ⟨hs.copied watchdog copy hcopy, hs.copied, hs.below, hnote copy hcopy, hs.after, hs.owned⟩
  | repair _ sent =>
    obtain ⟨copy, _, rfl⟩ := map_eq_some_iff.mp hstep
    split
    · cases sent with
      | true =>
        rw [if_pos rfl]
        obtain ⟨hid, hterminal⟩ := markPublished_spec s.attempt (strip copy.taskId) s.clock
        exact hs.rewrite hid hterminal
      | false =>
        obtain ⟨hid, hterminal⟩ :=
          markPublishFailed_spec s.attempt (strip copy.taskId) "review_submit_publish_failed" s.clock
        rw [if_neg Bool.false_ne_true]
        exact hs.rewrite hid hterminal
    · exact hs
  | claim =>
    rw [SubmitDesk.step] at hstep
    split at hstep
    · next hchanged =>
      obtain rfl := some.inj hstep
      obtain ⟨hstartable, hid⟩ := claimStartedPayload_changed hchanged
      rw [withTaskId_status] at hstartable
      rw [withTaskId_attemptId] at hid
      exact hs.opens (.inr ⟨AttemptStatus.not_terminal hstartable, hid ▸ names_ite s⟩)
    · obtain rfl := some.inj hstep
      exact hs
  | heartbeat =>
    rw [SubmitDesk.step] at hstep
    split at hstep
    · next hchanged =>
      obtain rfl := some.inj hstep
      rw [(heartbeatPayload_changed hchanged).2]
      exact hs.rewrite rfl id
    · obtain rfl := some.inj hstep
      exact hs
  | fenced taskId work =>
    cases hstep
    exact hs.fencedWrite
  | terminal taskId outcome =>
    rw [SubmitDesk.step] at hstep
    split at hstep
    · obtain rfl := some.inj hstep
      exact hs
    · next hchanged =>
      have hcurrent : (isAttemptCurrent s.attempt taskId).changed = true := by simpa using hchanged
      obtain ⟨hstarted, hmatches⟩ := isAttemptCurrent_changed hcurrent
      have hopen : s.attempt.status.terminal = false := by
        rw [hstarted]
        rfl
      have hbeat : (heartbeatPayload s.attempt taskId s.clock).payload
          = { s.attempt with heartbeatAt := some s.clock } := by
        rw [heartbeatPayload_eq, if_pos hcurrent]
      have hmatches' : SubmitAttempt.taskIdMatches { s.attempt with heartbeatAt := some s.clock } taskId = true := hmatches
      obtain rfl := some.inj hstep
      rw [hbeat, finishPayload_changed hmatches' hopen]
      exact hs.ends hopen outcome.terminal (names_ite s) rfl (Nat.le_succ _) ((names_ite s).lt hs)
  | finish taskId outcome =>
    obtain rfl := some.inj hstep
    exact hs.finishLocked
  | cancel taskId reason =>
    rw [SubmitDesk.step] at hstep
    split at hstep
    · next hchanged =>
      obtain rfl := some.inj hstep
      obtain ⟨hstarted, hstatus, hid⟩ := cancelPayload_changed hchanged
      rw [withTaskId_status] at hstarted
      rw [withTaskId_attemptId] at hid
      have hopen : s.attempt.status.terminal = false := by
        rw [hstarted]
        rfl
      generalize (cancelPayload s.withTaskId taskId reason s.clock).payload = cancelled at hstatus hid ⊢
      have hterminal : cancelled.status.terminal = true := by
        rw [hstatus]
        rfl
      have hlt : cancelled.attemptId < s.nextId := by
        rw [hid]
        exact hs.current
      exact hs.ends hopen hterminal (.inl hid) rfl le_rfl hlt
    · obtain rfl := some.inj hstep
      exact hs

lemma Fresh.ordered (hs : s.Fresh) : s.Ordered where
  current := hs.attempt
  copied := by
    intro watchdog copy hcopy
    rw [hs.copies watchdog] at hcopy
    cases hcopy
  below := by simp [hs.log]
  ended := by simp [hs.log]
  after := by simp [hs.log]
  owned := by simp [hs.log]

lemma ends_of_completes (h : e.completes attemptId = true) : e.ends = some attemptId := by
  cases e with
  | completed => simpa [SubmitEvent.completes, SubmitEvent.ends] using h
  | ended attemptId' => exact absurd h false_ne_true
  | wrote taskId owner => exact absurd h false_ne_true

lemma countP_completes_le_one {log : List SubmitEvent}
    (hafter : log.Pairwise fun later earlier => ∀ attemptId, later.completes attemptId = true →
      earlier.ends ≠ some attemptId) (attemptId : ℕ) : log.countP (SubmitEvent.completes attemptId) ≤ 1 := by
  induction log with
  | nil => exact Nat.zero_le _
  | cons e log ih =>
    obtain ⟨hlater, hrest⟩ := pairwise_cons.mp hafter
    rw [countP_cons]
    cases hcompletes : e.completes attemptId with
    | false => simpa using ih hrest
    | true =>
      have hnone : log.countP (SubmitEvent.completes attemptId) = 0 := by
        refine countP_eq_zero.mpr fun e' he' hcompletes' => ?_
        exact hlater e' he' attemptId hcompletes (ends_of_completes hcompletes')
      rw [hnone]
      rfl

lemma Ordered.workOnce (hs : s.Ordered) : WorkOnce s.log where
  once := countP_completes_le_one hs.after
  after := hs.after
  owned := hs.owned

end SubmitDesk

def unsubmitted : SubmitDesk := ⟨.missing, "", 1, 0, Keyed.empty, []⟩

lemma unsubmitted_fresh : unsubmitted.Fresh := ⟨Nat.one_pos, fun _ => rfl, rfl⟩

/-- The task is delivered twice, another task writes, and the watchdog notes a repair meanwhile. -/
def deliveredTwice : List SubmitAction :=
  [.begin "red", .markPublished "red", .claim "red", .claim "red", .read 1, .fenced "blue" .writes,
    .noteRepair 1, .repair 1 true, .fenced "red" .writes, .terminal "red" .completed,
    .terminal "red" .completed, .finish "red" .failed]

/-- The watchdog reads a dispatch that no worker has claimed, a worker does all the work, and the watchdog
notes its repair and publishes the dispatch again. -/
def repairedLate : List SubmitAction :=
  [.begin "red", .markPublished "red", .read 1, .claim "red", .terminal "red" .completed, .noteRepair 1,
    .repair 1 true, .claim "red", .terminal "red" .completed]

end ImmoApp.Imports
