import ImmoApp.Foundation.Json
import ImmoApp.Foundation.Runs
import ImmoApp.Foundation.Text
import ImmoApp.Foundation.Totals

/-!
# The circuit breaker of the API client

The breaker of `api_client_circuit.py`, and the loop of `_send_request` that reports to it.  Requests of several
threads interleave at every call of the breaker, which takes a lock, and at every answer of the server; a request is
known by a number of its own.  Instants of the monotonic clock are rational numbers.

`probeHolder` is not in the source: it is the request whose `circuit_check` took the probe slot, as long as no report
of any request has released the slot.
-/

namespace ImmoApp.Api

/-! ### The breaker -/

/-- `_cb_state`. -/
inductive CircuitState where
  | closed
  | «open»
  | halfOpen
  deriving DecidableEq

structure Breaker where
  failures : ℕ
  openUntil : ℚ
  state : CircuitState
  probeInflight : Bool

def Breaker.init : Breaker := ⟨0, 0, .closed, false⟩

/-- `_CB_FAILURE_THRESHOLD`. -/
def failureThreshold : ℕ := 3

def retryAttempts : ℕ := 3

/-- `circuit_check`: the breaker, and whether the request may be sent. -/
def circuitCheck (now : ℚ) (b : Breaker) : Breaker × Bool :=
  if b.state = .open ∧ now < b.openUntil then (b, false)
  else
    let b := if b.state = .open then { b with state := .halfOpen } else b
    if b.state = .halfOpen then
      if b.probeInflight then (b, false) else ({ b with probeInflight := true }, true)
    else (b, true)

/-- `record_api_success`, which is also `reset_api_circuit`. -/
def recordApiSuccess (_b : Breaker) : Breaker where
  failures := 0
  openUntil := 0
  state := .closed
  probeInflight := false

/-- `record_api_failure`; `resetSeconds` is `_CB_RESET_SECONDS`. -/
def recordApiFailure (resetSeconds now : ℚ) (b : Breaker) : Breaker :=
  if b.state = .halfOpen then
    { failures := failureThreshold, openUntil := now + resetSeconds, state := .open, probeInflight := false }
  else
    let b := { b with failures := b.failures + 1 }
    if failureThreshold ≤ b.failures then { b with openUntil := now + resetSeconds, state := .open } else b

def shouldRetryStatus (statusCode : ℕ) : Bool := statusCode ∈ [429, 502, 503, 504]

/-- The codes of a `503` that says nothing about the server as a whole. -/
def untrippedCodes : List String := ["REGISTRATION_UNAVAILABLE", "EMAIL_QUEUE_UNAVAILABLE"]

/-- `should_trip_circuit`; `upper` is `str.upper`. -/
def shouldTripCircuit (upper : String → String) (statusCode : ℕ) (payload : Option Json) : Bool :=
  if shouldRetryStatus statusCode = false then false
  else
    match statusCode, payload with
    | 503, some (.obj fields) =>
      let code := upper (strip (((Dict.get? fields "code").filter Json.truthy).elim "" Json.text))
      !(untrippedCodes.contains code)
    | _, _ => true

/-! ### Requests -/

structure Response where
  statusCode : ℕ
  payload : Option Json

/-- How `session.request` ends. -/
inductive SendOutcome where
  | response (response : Response)
  | requestException
  | otherException

/-- How `_get_token` ends. -/
inductive TokenOutcome where
  | token
  | noToken
  | raised

/-- Where a request is in `_send_request`. -/
inductive Phase where
  | sending (attempt : ℕ)
  | authenticating (attempt : ℕ)
  | resending (attempt : ℕ)
  deriving DecidableEq

/-- How `_send_request` ends. -/
inductive SendResult where
  | unavailable
  | returned
  | apiError (statusCode : ℕ)
  | requestFailed
  | raised

structure ApiClient where
  breaker : Breaker
  /-- The requests that have passed `circuit_check` and not ended. -/
  running : Keyed ℕ Phase
  finished : List (ℕ × SendResult)
  probeHolder : Option ℕ

namespace ApiClient

def init : ApiClient := ⟨.init, .empty, [], none⟩

/-- A report to the breaker; the slot has no holder once it is released. -/
def report (breaker : Breaker) (s : ApiClient) : ApiClient :=
  { s with breaker, probeHolder := if breaker.probeInflight then s.probeHolder else none }

def finish (request : ℕ) (result : SendResult) (s : ApiClient) : ApiClient :=
  { s with running := s.running.deleteKey request, finished := (request, result) :: s.finished }

def advance (request : ℕ) (phase : Phase) (s : ApiClient) : ApiClient :=
  { s with running := s.running.set request phase }

def known (request : ℕ) (s : ApiClient) : Bool :=
  (s.running.get? request).isSome || s.finished.any fun f => f.1 == request

structure Config where
  resetSeconds : ℚ
  upper : String → String

variable (cfg : Config)

/-- The part of the loop of `_send_request` after the response has been parsed. -/
def handleResponse (request attempt : ℕ) (response : Response) (now : ℚ) (s : ApiClient) : ApiClient :=
  if 400 ≤ response.statusCode ∧ shouldRetryStatus response.statusCode = true then
    let s :=
      if shouldTripCircuit cfg.upper response.statusCode response.payload then
        s.report (recordApiFailure cfg.resetSeconds now s.breaker)
      else s
    if retryAttempts ≤ attempt then s.finish request (.apiError response.statusCode)
    else s.advance request (.sending (attempt + 1))
  else if 400 ≤ response.statusCode then s.finish request (.apiError response.statusCode)
  else (s.report (recordApiSuccess s.breaker)).finish request .returned

/-- What can happen.  `answered` is the end of the first `session.request` of an attempt; `hasUsername` says whether
`get_api_config().username` is set then.  `reset` is a login or a refreshed token, of this or any other thread. -/
inductive Event where
  | start (request : ℕ) (now : ℚ)
  | answered (request : ℕ) (outcome : SendOutcome) (hasUsername : Bool) (now : ℚ)
  | authenticated (request : ℕ) (outcome : TokenOutcome)
  | resent (request : ℕ) (outcome : SendOutcome) (now : ℚ)
  | reset

def step (s : ApiClient) : Event → Option ApiClient
  | .start request now =>
    if s.known request then none
    else
      let checked := circuitCheck now s.breaker
      if checked.2 then
        let holder := if checked.1.probeInflight then some request else s.probeHolder
        some (({ s with breaker := checked.1, probeHolder := holder } : ApiClient).advance request (.sending 1))
      else some { s with breaker := checked.1, finished := (request, .unavailable) :: s.finished }
  | .answered request outcome hasUsername now =>
    match s.running.get? request with
    | some (.sending attempt) =>
      match outcome with
      | .requestException =>
        let s := s.report (recordApiFailure cfg.resetSeconds now s.breaker)
        if retryAttempts ≤ attempt then some (s.finish request .requestFailed)
        else some (s.advance request (.sending (attempt + 1)))
      | .otherException => some (s.finish request .raised)
      | .response response =>
        if response.statusCode = 401 ∧ hasUsername = true then
          some (s.advance request (.authenticating attempt))
        else some (s.handleResponse cfg request attempt response now)
    | _ => none
  | .authenticated request outcome =>
    match s.running.get? request with
    | some (.authenticating attempt) =>
      match outcome with
      | .token => some (s.advance request (.resending attempt))
      | .noToken => some (s.finish request (.apiError 401))
      | .raised => some (s.finish request .raised)
    | _ => none
  | .resent request outcome now =>
    match s.running.get? request with
    | some (.resending attempt) =>
      match outcome with
      | .response response => some (s.handleResponse cfg request attempt response now)
      | .requestException | .otherException => some (s.finish request .raised)
    | _ => none
  | .reset => some (s.report (recordApiSuccess s.breaker))

end ApiClient

end ImmoApp.Api
