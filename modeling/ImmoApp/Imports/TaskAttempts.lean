import ImmoApp.Foundation.Dict
import ImmoApp.Foundation.Text

/-!
# The lifecycle of a task attempt

The durable record of a task attempt is a payload of texts.  `task_attempt_lifecycle` decides for a
claim, a heartbeat, a cancellation and a finish whether it is accepted, and what the payload is
afterwards; a caller writes the payload back when the decision says that it has changed.

`attempt_lifecycle`: a terminal status stays whatever calls follow, an accepted call has the task id of
the attempt or none at all, and at most one claim is accepted as long as no finish asks for a status
that a claim can start from.
-/

namespace ImmoApp.TaskAttempts

open List

abbrev AttemptPayload := Dict String String

/-- `str(payload.get(key, "") or "")`. -/
def text (payload : AttemptPayload) (key : String) : String := (payload.get? key).getD ""

/-- The left operand of Python's `or`, unless it is empty. -/
def orText (s default : String) : String := if s = "" then default else s

def fill (payload : AttemptPayload) (key default : String) : AttemptPayload :=
  payload.set key (orText (text payload key) default)

def setDefault (payload : AttemptPayload) (key default : String) : AttemptPayload :=
  if (payload.get? key).isSome then payload else payload.set key default

lemma text_set (payload : AttemptPayload) (key value key' : String) :
    text (payload.set key value) key' = if key' = key then value else text payload key' := by
  rw [text, Dict.get?_set, text]
  split <;> rfl

def attemptPending : String := "pending"

def attemptStarted : String := "started"

def attemptCancelRequested : String := "cancel_requested"

def attemptFailed : String := "failed"

def attemptCancelled : String := "cancelled"

def attemptStaleIgnored : String := "stale_ignored"

/-- `ATTEMPT_TERMINAL_STATUSES`. -/
def terminalStatuses : List String :=
  ["completed", "conflict", attemptFailed, attemptCancelled, attemptStaleIgnored]

/-! ### Decisions -/

structure AttemptDecision where
  payload : AttemptPayload
  status : String
  changed : Bool
  reason : String

def refused (payload : AttemptPayload) (status reason : String) : AttemptDecision :=
  ⟨payload, status, false, reason⟩

def accepted (payload : AttemptPayload) (status : String) : AttemptDecision := ⟨payload, status, true, ""⟩

/-- `str(task_id or "").strip()`. -/
def requestedTaskId (taskId : Option String) : String := strip (taskId.getD "")

def storedTaskId (payload : AttemptPayload) : String := strip (text payload "task_id")

/-- `_task_id_matches`: a caller without a task id matches every attempt. -/
def taskIdMatches (payload : AttemptPayload) (taskId : Option String) : Bool :=
  requestedTaskId taskId == "" || requestedTaskId taskId == storedTaskId payload

def newAttemptPayload (attemptType taskId nowIso : String) (initialPayload : AttemptPayload)
    (status fresh : String) : AttemptPayload :=
  let payload := fill initialPayload "attempt_id" fresh
  let payload := payload.set "attempt_type" attemptType
  let payload := payload.set "task_id" taskId
  let payload := payload.set "status" (orText status attemptPending)
  let payload := setDefault payload "requested_at" nowIso
  ["started_at", "heartbeat_at", "finished_at", "cancel_requested_at", "cancel_reason"].foldl
    (fun payload key => setDefault payload key "") payload

def isAttemptCurrent (payload : AttemptPayload) (taskId : Option String) (requireStarted : Bool) :
    AttemptDecision :=
  let status := text payload "status"
  if !taskIdMatches payload taskId then refused payload attemptStaleIgnored "task_id_mismatch"
  else if status ∈ terminalStatuses ++ [attemptCancelRequested] then
    refused payload (orText status attemptStaleIgnored) (orText status attemptStaleIgnored)
  else if requireStarted ∧ status ≠ attemptStarted then
    refused payload (orText status attemptStaleIgnored) (orText status attemptStaleIgnored)
  else accepted payload status

/-- `claim_started_payload`; `fresh` is the id that `uuid4` gives. -/
def claimStartedPayload (payload : AttemptPayload) (taskId : Option String) (attemptType nowIso : String)
    (startableStatuses : List String) (fresh : String) : AttemptDecision :=
  let status := text payload "status"
  if storedTaskId payload = "" then refused payload attemptStaleIgnored "missing_task_id"
  else if requestedTaskId taskId ≠ "" ∧ requestedTaskId taskId ≠ storedTaskId payload then
    refused payload attemptStaleIgnored "task_id_mismatch"
  else if status ∈ terminalStatuses ++ [attemptStarted, attemptCancelRequested] then
    refused payload attemptStaleIgnored status
  else if status ∉ startableStatuses then refused payload attemptStaleIgnored status
  else
    let claimed := payload.set "task_id" (storedTaskId payload)
    let claimed := fill claimed "attempt_type" attemptType
    let claimed := fill claimed "attempt_id" fresh
    let claimed := claimed.set "status" attemptStarted
    let claimed := fill claimed "started_at" nowIso
    accepted (claimed.set "heartbeat_at" nowIso) attemptStarted

def heartbeatPayload (payload : AttemptPayload) (taskId : Option String) (nowIso : String) : AttemptDecision :=
  let current := isAttemptCurrent payload taskId true
  if !current.changed then current
  else accepted (current.payload.set "heartbeat_at" nowIso) attemptStarted

def cancelPayload (payload : AttemptPayload) (taskId : Option String) (nowIso reason : String)
    (cancellableStatuses : List String) : AttemptDecision :=
  let status := text payload "status"
  if !taskIdMatches payload taskId then refused payload attemptStaleIgnored "task_id_mismatch"
  else if status ∈ terminalStatuses then refused payload status "terminal"
  else if status ∉ cancellableStatuses then
    refused payload (orText status attemptStaleIgnored) "not_cancellable"
  else
    let cancelled := payload.set "status" attemptCancelled
    let cancelled := cancelled.set "cancel_requested_at" nowIso
    let cancelled := cancelled.set "cancel_reason" reason
    accepted (cancelled.set "finished_at" nowIso) attemptCancelled

/-- `finish_payload`; `fresh` is the id that `uuid4` gives. -/
def finishPayload (payload : AttemptPayload) (taskId : Option String)
    (attemptType requestedStatus nowIso fresh : String) : AttemptDecision :=
  let status := orText requestedStatus attemptFailed
  let current := text payload "status"
  if !taskIdMatches payload taskId then refused payload attemptStaleIgnored "task_id_mismatch"
  else if current ∈ terminalStatuses then
    refused payload current (if status ≠ current then "terminal_conflict" else "terminal")
  else
    let finished := fill payload "attempt_type" attemptType
    let finished := fill finished "attempt_id" fresh
    let finished := finished.set "status" status
    accepted (finished.set "finished_at" nowIso) status

/-! ### Calls -/

inductive AttemptCall where
  | claim (taskId : Option String) (attemptType nowIso : String) (startableStatuses : List String)
    (fresh : String)
  | heartbeat (taskId : Option String) (nowIso : String)
  | cancel (taskId : Option String) (nowIso reason : String) (cancellableStatuses : List String)
  | finish (taskId : Option String) (attemptType requestedStatus nowIso fresh : String)

namespace AttemptCall

def taskId : AttemptCall → Option String
  | claim taskId .. | heartbeat taskId .. | cancel taskId .. | finish taskId .. => taskId

def decision (payload : AttemptPayload) : AttemptCall → AttemptDecision
  | claim taskId attemptType nowIso startable fresh =>
    claimStartedPayload payload taskId attemptType nowIso startable fresh
  | heartbeat taskId nowIso => heartbeatPayload payload taskId nowIso
  | cancel taskId nowIso reason cancellable => cancelPayload payload taskId nowIso reason cancellable
  | finish taskId attemptType requested nowIso fresh =>
    finishPayload payload taskId attemptType requested nowIso fresh

def isClaim : AttemptCall → Bool
  | claim .. => true
  | _ => false

def canStart (status : String) : AttemptCall → Prop
  | claim _ _ _ startable _ =>
    status ∉ terminalStatuses ++ [attemptStarted, attemptCancelRequested] ∧ status ∈ startable
  | _ => False

def finishes : AttemptCall → Option String
  | finish _ _ requested _ _ => some (orText requested attemptFailed)
  | _ => none

def target : AttemptCall → String
  | claim .. | heartbeat .. => attemptStarted
  | cancel .. => attemptCancelled
  | finish _ _ requested _ _ => orText requested attemptFailed

end AttemptCall

def after (payload : AttemptPayload) (calls : List AttemptCall) : AttemptPayload :=
  calls.foldl (fun payload call => (call.decision payload).payload) payload

def history : AttemptPayload → List AttemptCall → List (AttemptPayload × AttemptCall)
  | _, [] => []
  | payload, call :: calls => (payload, call) :: history (call.decision payload).payload calls

def acceptedClaims (payload : AttemptPayload) (calls : List AttemptCall) : ℕ :=
  (history payload calls).countP fun e => e.2.isClaim && (e.2.decision e.1).changed

section Calls

variable {payload : AttemptPayload} {call : AttemptCall} {calls : List AttemptCall}

structure Accepted (payload : AttemptPayload) (call : AttemptCall) : Prop where
  carries : taskIdMatches payload call.taskId = true
  running : text payload "status" ∉ terminalStatuses
  starts : call.isClaim = true → call.canStart (text payload "status")
  owner : storedTaskId (call.decision payload).payload = storedTaskId payload
  status : text (call.decision payload).payload "status" = call.target

/-- A call is refused and leaves the payload, or it is accepted. -/
def Decided (payload : AttemptPayload) (call : AttemptCall) : Prop :=
  ((call.decision payload).changed = false ∧ (call.decision payload).payload = payload) ∨
    ((call.decision payload).changed = true ∧ Accepted payload call)

variable {status : String}

lemma decided_refused {reason : String} (h : call.decision payload = refused payload status reason) :
    Decided payload call := by
  refine .inl ?_
  rw [h]
  exact ⟨rfl, rfl⟩

lemma decided_accepted {payload' : AttemptPayload} (h : call.decision payload = accepted payload' call.target)
    (hcarries : taskIdMatches payload call.taskId = true)
    (hrunning : text payload "status" ∉ terminalStatuses)
    (hstarts : call.isClaim = true → call.canStart (text payload "status"))
    (howner : storedTaskId payload' = storedTaskId payload) (hstatus : text payload' "status" = call.target) :
    Decided payload call := by
  have hpayload : (call.decision payload).payload = payload' := by rw [h]; rfl
  refine .inr ⟨by rw [h]; rfl, hcarries, hrunning, hstarts, ?_, ?_⟩
  · rw [hpayload, howner]
  · rw [hpayload, hstatus]

lemma isAttemptCurrent_cases (payload : AttemptPayload) (taskId : Option String) (requireStarted : Bool) :
    (∃ status reason, isAttemptCurrent payload taskId requireStarted = refused payload status reason) ∨
      (isAttemptCurrent payload taskId requireStarted = accepted payload (text payload "status") ∧
        taskIdMatches payload taskId = true ∧ text payload "status" ∉ terminalStatuses ∧
        (requireStarted = true → text payload "status" = attemptStarted)) := by
  simp only [isAttemptCurrent]
  split
  · exact .inl ⟨_, _, rfl⟩
  · next hmatches =>
    split
    · exact .inl ⟨_, _, rfl⟩
    · next hrunning =>
      split
      · exact .inl ⟨_, _, rfl⟩
      · next hstarted =>
        have hopen := fun hterminal => hrunning (mem_append_left _ hterminal)
        exact .inr ⟨rfl, by simpa using hmatches, hopen, by simpa using hstarted⟩

lemma decided_heartbeat (payload : AttemptPayload) (taskId : Option String) (nowIso : String) :
    Decided payload (.heartbeat taskId nowIso) := by
  rcases isAttemptCurrent_cases payload taskId true with
    ⟨status, reason, hrefused⟩ | ⟨hcurrent, hmatches, hopen, hstarted⟩
  · have hdecision : heartbeatPayload payload taskId nowIso = refused payload status reason := by
      rw [heartbeatPayload, hrefused]
      rfl
    exact decided_refused hdecision
  · have hdecision : heartbeatPayload payload taskId nowIso
        = accepted (payload.set "heartbeat_at" nowIso) attemptStarted := by
      rw [heartbeatPayload, hcurrent]
      rfl
    refine decided_accepted hdecision hmatches hopen nofun ?_ ?_
    · simp [storedTaskId, text_set]
    · rw [text_set, if_neg (by decide), hstarted rfl, AttemptCall.target]

lemma decided_claim (payload : AttemptPayload) (taskId : Option String) (attemptType nowIso : String)
    (startable : List String) (fresh : String) :
    Decided payload (.claim taskId attemptType nowIso startable fresh) := by
  by_cases hblank : storedTaskId payload = ""
  · exact decided_refused (by rw [AttemptCall.decision, claimStartedPayload, if_pos hblank])
  by_cases hother : requestedTaskId taskId ≠ "" ∧ requestedTaskId taskId ≠ storedTaskId payload
  · exact decided_refused (by rw [AttemptCall.decision, claimStartedPayload, if_neg hblank, if_pos hother])
  by_cases hclosed : text payload "status" ∈ terminalStatuses ++ [attemptStarted, attemptCancelRequested]
  · exact decided_refused (by
      rw [AttemptCall.decision, claimStartedPayload, if_neg hblank, if_neg hother, if_pos hclosed])
  by_cases hstart : text payload "status" ∈ startable
  · have hmatches : taskIdMatches payload taskId = true := by
      rw [taskIdMatches, Bool.or_eq_true, beq_iff_eq, beq_iff_eq]
      exact or_iff_not_imp_left.mpr fun hgiven => not_not.mp fun hdiffers => hother ⟨hgiven, hdiffers⟩
    refine decided_accepted (by rw [AttemptCall.decision, claimStartedPayload, if_neg hblank, if_neg hother,
      if_neg hclosed, if_neg (not_not.mpr hstart), AttemptCall.target]) hmatches
      (fun hterminal => hclosed (mem_append_left _ hterminal)) (fun _ => ⟨hclosed, hstart⟩) ?_ ?_
    · simp [storedTaskId, text_set, fill, strip_strip]
    · simp [text_set, fill, AttemptCall.target]
  · exact decided_refused (by
      rw [AttemptCall.decision, claimStartedPayload, if_neg hblank, if_neg hother, if_neg hclosed, if_pos hstart])

lemma decided_cancel (payload : AttemptPayload) (taskId : Option String) (nowIso reason : String)
    (cancellable : List String) : Decided payload (.cancel taskId nowIso reason cancellable) := by
  by_cases hmatches : taskIdMatches payload taskId = true
  swap
  · exact decided_refused (by rw [AttemptCall.decision, cancelPayload, if_pos (by simp [hmatches])])
  by_cases hterminal : text payload "status" ∈ terminalStatuses
  · exact decided_refused (by
      rw [AttemptCall.decision, cancelPayload, if_neg (by simp [hmatches]), if_pos hterminal])
  by_cases hcancel : text payload "status" ∈ cancellable
  · refine decided_accepted (by rw [AttemptCall.decision, cancelPayload, if_neg (by simp [hmatches]),
      if_neg hterminal, if_neg (not_not.mpr hcancel), AttemptCall.target]) hmatches hterminal nofun ?_ ?_
    · simp [storedTaskId, text_set]
    · simp [text_set, AttemptCall.target]
  · exact decided_refused (by
      rw [AttemptCall.decision, cancelPayload, if_neg (by simp [hmatches]), if_neg hterminal, if_pos hcancel])

lemma decided_finish (payload : AttemptPayload) (taskId : Option String)
    (attemptType requested nowIso fresh : String) :
    Decided payload (.finish taskId attemptType requested nowIso fresh) := by
  by_cases hmatches : taskIdMatches payload taskId = true
  swap
  · exact decided_refused (by rw [AttemptCall.decision, finishPayload, if_pos (by simp [hmatches])])
  by_cases hterminal : text payload "status" ∈ terminalStatuses
  · exact decided_refused (by
      rw [AttemptCall.decision, finishPayload, if_neg (by simp [hmatches]), if_pos hterminal])
  · refine decided_accepted (by rw [AttemptCall.decision, finishPayload, if_neg (by simp [hmatches]),
      if_neg hterminal, AttemptCall.target]) hmatches hterminal nofun ?_ ?_
    · simp [storedTaskId, text_set, fill]
    · simp [text_set, fill, AttemptCall.target]

lemma decided (payload : AttemptPayload) (call : AttemptCall) : Decided payload call := by
  cases call with
  | claim taskId attemptType nowIso startable fresh =>
    exact decided_claim payload taskId attemptType nowIso startable fresh
  | heartbeat taskId nowIso => exact decided_heartbeat payload taskId nowIso
  | cancel taskId nowIso reason cancellable => exact decided_cancel payload taskId nowIso reason cancellable
  | finish taskId attemptType requested nowIso fresh =>
    exact decided_finish payload taskId attemptType requested nowIso fresh

lemma owner_decision (payload : AttemptPayload) (call : AttemptCall) :
    storedTaskId (call.decision payload).payload = storedTaskId payload := by
  rcases decided payload call with ⟨-, hsame⟩ | ⟨-, haccepted⟩
  · rw [hsame]
  · exact haccepted.owner

lemma decision_of_terminal (h : text payload "status" ∈ terminalStatuses) (call : AttemptCall) :
    (call.decision payload).changed = false ∧ (call.decision payload).payload = payload := by
  rcases decided payload call with hrefused | ⟨-, haccepted⟩
  · exact hrefused
  · exact absurd h haccepted.running

lemma after_of_terminal (h : text payload "status" ∈ terminalStatuses) (calls : List AttemptCall) :
    after payload calls = payload := by
  induction calls with
  | nil => rfl
  | cons call _ ih =>
    rw [after, foldl_cons, (decision_of_terminal h call).2]
    exact ih

variable {e : AttemptPayload × AttemptCall}

lemma eq_of_mem_history (h : text payload "status" ∈ terminalStatuses)
    (he : e ∈ history payload calls) : e.1 = payload := by
  induction calls with
  | nil => cases he
  | cons call _ ih =>
    rw [history, (decision_of_terminal h call).2] at he
    rcases mem_cons.mp he with rfl | hmem
    · rfl
    · exact ih hmem

lemma owner_of_mem_history (h : e ∈ history payload calls) : storedTaskId e.1 = storedTaskId payload := by
  induction calls generalizing payload with
  | nil => cases h
  | cons _ _ ih =>
    rcases mem_cons.mp h with rfl | hmem
    · rfl
    · rw [ih hmem, owner_decision]

/-! ### Claims -/

def Unclaimable (calls : List AttemptCall) (status : String) : Prop :=
  ∀ call ∈ calls, ¬call.canStart status

lemma not_canStart_started (call : AttemptCall) : ¬call.canStart attemptStarted := by
  cases call with
  | claim taskId attemptType nowIso startable fresh =>
    intro h
    exact h.1 (by decide)
  | _ => exact id

lemma cancelled_terminal : attemptCancelled ∈ terminalStatuses := by decide

lemma not_canStart_of_terminal (h : status ∈ terminalStatuses) (call : AttemptCall) : ¬call.canStart status := by
  cases call with
  | claim taskId attemptType nowIso startable fresh =>
    intro hstart
    exact hstart.1 (mem_append_left _ h)
  | _ => exact id

/-- No claim may start from the status that a call leaves, unless it is a finish that asks for one. -/
lemma unclaimable_target (hfinish : ∀ status, call.finishes = some status → Unclaimable calls status) :
    Unclaimable calls call.target := by
  cases call with
  | claim | heartbeat => exact fun call _ => not_canStart_started call
  | cancel => exact fun call _ => not_canStart_of_terminal cancelled_terminal call
  | finish taskId attemptType requested nowIso fresh => exact hfinish _ rfl

/-- No claim of the calls may start from a status that one of their finishes asks for. -/
def FinishesForGood (calls : List AttemptCall) : Prop :=
  ∀ call ∈ calls, ∀ status, call.finishes = some status → Unclaimable calls status

lemma Unclaimable.tail (h : Unclaimable (call :: calls) status) : Unclaimable calls status :=
  fun other hmem => h other (mem_cons_of_mem _ hmem)

lemma FinishesForGood.tail (h : FinishesForGood (call :: calls)) : FinishesForGood calls :=
  fun other hmem status hstatus => (h other (mem_cons_of_mem _ hmem) status hstatus).tail

lemma FinishesForGood.target (h : FinishesForGood (call :: calls)) : Unclaimable (call :: calls) call.target :=
  unclaimable_target (h call mem_cons_self)

lemma acceptedClaims_cons (payload : AttemptPayload) (call : AttemptCall) (calls : List AttemptCall) :
    acceptedClaims payload (call :: calls) = acceptedClaims (call.decision payload).payload calls +
      if call.isClaim && (call.decision payload).changed then 1 else 0 := by
  rw [acceptedClaims, history, countP_cons, acceptedClaims]

lemma acceptedClaims_of_unclaimable (hgood : FinishesForGood calls)
    (h : Unclaimable calls (text payload "status")) : acceptedClaims payload calls = 0 := by
  induction calls generalizing payload with
  | nil => rfl
  | cons call calls ih =>
    rw [acceptedClaims_cons]
    rcases decided payload call with ⟨hrefused, hsame⟩ | ⟨-, haccepted⟩
    · rw [hsame, ih hgood.tail h.tail, hrefused]
      simp
    · have hclaim : call.isClaim = false := by
        by_contra hclaim
        exact h call mem_cons_self (haccepted.starts (by simpa using hclaim))
      have hnext : Unclaimable calls (text (call.decision payload).payload "status") := by
        rw [haccepted.status]
        exact hgood.target.tail
      rw [ih hgood.tail hnext, hclaim]
      simp

lemma acceptedClaims_le_one (hgood : FinishesForGood calls) : acceptedClaims payload calls ≤ 1 := by
  induction calls generalizing payload with
  | nil => exact Nat.zero_le 1
  | cons call calls ih =>
    rw [acceptedClaims_cons]
    rcases decided payload call with ⟨hrefused, -⟩ | ⟨-, haccepted⟩
    · have hrest := @ih (call.decision payload).payload hgood.tail
      rw [hrefused]
      simpa using hrest
    · cases hclaim : call.isClaim with
      | false => simpa using ih hgood.tail
      | true =>
        have hnext : Unclaimable calls (text (call.decision payload).payload "status") := by
          rw [haccepted.status]
          exact hgood.target.tail
        rw [acceptedClaims_of_unclaimable hgood.tail hnext]
        split <;> omega

end Calls

/-- Whatever calls are made on an attempt, with whatever task ids: when it has ended, nothing changes any
more; a call that is accepted or changes something carries the task id of the attempt, or none; and at
most one claim is accepted, if no claim may start from a status that a finish asks for. -/
theorem attempt_lifecycle (payload : AttemptPayload) (calls : List AttemptCall) :
    (text payload "status" ∈ terminalStatuses → after payload calls = payload ∧
      ∀ e ∈ history payload calls, (e.2.decision e.1).changed = false) ∧
    (∀ e ∈ history payload calls, (e.2.decision e.1).changed = true ∨ (e.2.decision e.1).payload ≠ e.1 →
      requestedTaskId e.2.taskId = "" ∨ requestedTaskId e.2.taskId = storedTaskId payload) ∧
    (FinishesForGood calls → acceptedClaims payload calls ≤ 1) := by
  refine ⟨fun hterminal => ⟨after_of_terminal hterminal calls, ?_⟩, ?_, acceptedClaims_le_one⟩
  · intro e he
    have hsame := eq_of_mem_history hterminal he
    exact (decision_of_terminal (hsame ▸ hterminal) e.2).1
  · intro e he hchanged
    rcases decided e.1 e.2 with ⟨hrefused, hsame⟩ | ⟨-, haccepted⟩
    · rcases hchanged with hchanged | hchanged
      · rw [hrefused] at hchanged
        cases hchanged
      · exact absurd hsame hchanged
    · have hcarries := haccepted.carries
      rw [taskIdMatches, Bool.or_eq_true, beq_iff_eq, beq_iff_eq, owner_of_mem_history he] at hcarries
      exact hcarries

def sampleAttempt : AttemptPayload :=
  newAttemptPayload "review_submit" "task-1" "10:00" [] "published" "a1"

def sampleCalls : List AttemptCall :=
  [.claim (some "task-2") "review_submit" "10:01" ["published"] "a2",
    .claim (some "task-1") "review_submit" "10:02" ["published"] "a3",
    .claim (some "task-1") "review_submit" "10:03" ["published"] "a4",
    .finish (some "task-1") "review_submit" "completed" "10:04" "a5",
    .cancel (some "task-1") "10:05" "watchdog" ["started"]]

/-- The worker claims once, and its work is not cancelled after it is done. -/
theorem attempt_lifecycle_lateWorkers : acceptedClaims sampleAttempt sampleCalls ≤ 1 ∧
      after (after sampleAttempt sampleCalls) sampleCalls = after sampleAttempt sampleCalls := by
  have hgood : FinishesForGood sampleCalls := by
    intro call hcall status hstatus other hother
    simp only [sampleCalls, mem_cons, not_mem_nil, or_false] at hcall
    rcases hcall with rfl | rfl | rfl | rfl | rfl
    all_goals cases hstatus
    exact not_canStart_of_terminal (by decide) other
  exact ⟨(attempt_lifecycle sampleAttempt sampleCalls).2.2 hgood,
    ((attempt_lifecycle (after sampleAttempt sampleCalls) sampleCalls).1 (by decide +kernel)).1⟩

/-- A heartbeat without a task id changes the attempt of a task, and after a finish that asks for a status
to start from the attempt is claimed a second time. -/
theorem heartbeat_without_task_id : ((AttemptCall.heartbeat none "10:06").decision
        [("task_id", "task-1"), ("status", attemptStarted)]).changed = true ∧
      requestedTaskId none ≠ storedTaskId [("task_id", "task-1"), ("status", attemptStarted)] ∧
      acceptedClaims sampleAttempt [.claim (some "task-1") "review_submit" "10:01" ["published"] "a2",
          .finish (some "task-1") "review_submit" "published" "10:02" "a3",
          .claim (some "task-1") "review_submit" "10:03" ["published"] "a4"] = 2 := by
  decide

end ImmoApp.TaskAttempts
