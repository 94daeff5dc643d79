import Mathlib.Data.List.Sort
import Mathlib.Data.List.Infix
import ImmoApp.Foundation.Json
import ImmoApp.Foundation.Runs
import ImmoApp.Foundation.Text

/-!
# The idempotency engine

The statements of `idempotency_engine.py` on the table `api_idempotency_records`, and the requests that run them.
A request that carries an idempotency key inserts a record for its scope; where one exists it is locked and
compared, and is replayed, waited for or taken over.  A step is one statement, or the statements between which a
row lock is held.

Canonical JSON, SHA-256 and HMAC are parameters, and so is the keyring a call finds loaded; a call that raises for
want of one changes nothing and takes no step.
-/

namespace ImmoApp.Idempotency

/-! ### The replayed payload -/

inductive ReplayMode where
  | none
  | fullSafe
  | referenceOnly
  deriving DecidableEq

/-- The parts of a route's policy the engine reads. -/
structure RoutePolicy where
  policyId : String
  /-- The policy asks for an idempotency key (`retry_class` is `IDEMPOTENCY_KEY_WRITE`). -/
  keyWrite : Bool
  replayMode : ReplayMode
  deriving DecidableEq

/-- The words that keep a field from being replayed. -/
def replayDenylistKeys : List String :=
  ["password", "token", "refresh", "access", "authorization", "phone", "email", "family_name",
    "first_name", "last_name", "address", "national_id", "ssn", "secret"]

def fullSafeFieldAllowlist : List String :=
  ["id", "ids", "status", "code", "detail", "message", "errors", "error", "items", "total", "count",
    "counts", "count_meta", "task_id", "created", "updated", "deleted", "valid", "action",
    "resource_url", "current_row_version", "current_record", "policy_version",
    "semantic_header_registry_hash", "retry_after_seconds", "retryable"]

/-- The policies whose responses are replayed by reference. -/
def referenceOnlyPolicies : List String :=
  ["route.clients", "route.clients_int_client_id", "route.listings",
    "route.listings_int_listing_id", "route.offers_int_offer_id", "route.demandes_int_demande_id",
    "route.users", "route.users_int_user_id", "route.crm_visits", "route.crm_contracts"]

/-- `str.lower()` on the characters that it takes to letters of the words: the ASCII capitals and the
Kelvin sign. -/
def lowered (c : Char) : Char :=
  if c.toNat = 0x212a then 'k' else c.toLower

def isBlockedKey (key : String) : Bool :=
  replayDenylistKeys.any fun term => term.toList <:+: (strip key).toList.map lowered

def referenceOnlyPayload (payload : Json) : Json :=
  let ref := ["id", "ids", "resource_id", "resource_url", "task_id", "code", "detail"].filterMap
    fun key => ((payload.fields?.getD []).get? key).map fun v => (key, v)
  if ref = [] then .obj [("detail", .str "reference_only_replay")] else .obj ref

mutual

/-- A payload without the fields that must not be replayed. -/
def sanitizeFullSafe : Json → Json
  | .obj fields => .obj (sanitizeMapping fields)
  | .arr items => .arr (sanitizeItems items)
  | .scalar v => .scalar v

/-- The fields of an object that may be replayed. -/
def sanitizeMapping : List (String × Json) → List (String × Json)
  | [] => []
  | (key, value) :: rest =>
    if isBlockedKey key ∨ key ∉ fullSafeFieldAllowlist then sanitizeMapping rest
    else (key, sanitizeFullSafe value) :: sanitizeMapping rest

def sanitizeItems : List Json → List Json
  | [] => []
  | item :: rest => sanitizeFullSafe item :: sanitizeItems rest

end

def sanitizeReplayPayload (policyId : String) (replayMode : ReplayMode) (payload : Json) : Json :=
  if replayMode = .referenceOnly ∨ policyId ∈ referenceOnlyPolicies then referenceOnlyPayload payload
  else if replayMode ≠ .fullSafe then .obj [("detail", .str "replay_disabled_for_policy")]
  else sanitizeFullSafe payload

/-! ### Records, requests and responses -/

structure IdempotencyScope where
  agencyId : ℤ
  normalizedRoute : String
  method : String
  idempotencyKey : String
  deriving DecidableEq

structure RequestHashes where
  canonicalBodyHash : String
  normalizedQueryHash : String
  semanticHeadersHash : String
  deriving DecidableEq

inductive RecordState where
  | inProgress
  | completed
  | failedTransient
  deriving DecidableEq

structure ResponseColumns where
  statusCode : ℕ
  responseContentType : String
  responseHeaders : Dict String String
  responseBody : Json
  responseBodyHash : String
  responseSizeBytes : ℕ
  recordHmac : Option String
  signatureKeyId : Option String
  hmacPayloadVersion : Option String
  deriving DecidableEq

/-- A row of the table.  The last field belongs to the model: the request that last got hold of the
record. -/
structure IdempotencyRecord where
  id : ℕ
  scope : IdempotencyScope
  hashes : RequestHashes
  state : RecordState
  attempt : ℕ
  leaseOwner : String
  leaseUntil : Option ℕ
  response : Option ResponseColumns
  createdAt : ℕ
  expiresAt : ℕ
  updatedAt : ℕ
  holder : ℕ
  deriving DecidableEq

structure MutationRequest where
  method : String
  normalizedRoute : String
  agencyId : ℤ
  /-- The stripped `Idempotency-Key` header, empty without one. -/
  idempotencyKey : String
  /-- The stripped `X-Idempotency-Key` header, empty without one. -/
  legacyIdempotencyKey : String
  requestId : String
  hashes : RequestHashes
  policy : Option RoutePolicy

structure Response where
  statusCode : ℕ
  data : Json
  headers : Dict String String
  deriving DecidableEq

/-- What a request carries from the check to the store. -/
structure IdempotencyContext where
  scope : IdempotencyScope
  hashes : RequestHashes
  policy : Option RoutePolicy
  legacyHeader : Bool
  leaseOwner : String
  recordId : ℕ := 0
  createdAt : Option ℕ := none
  expiresAt : Option ℕ := none
  deriving DecidableEq

def idempotencyHeader : String := "Idempotency-Key"
def legacyIdempotencyHeader : String := "X-Idempotency-Key"
def responseHeadersAllowlist : List String :=
  ["Content-Type", "ETag", "X-Request-Id", "X-Request-Policy", "Idempotency-Status", "Retry-After"]
def inProgressWaitSeconds : ℕ := 3
def retryAfterSeconds : ℕ := 2
def maxResponseBytes : ℕ := 256 * 1024
def hmacPayloadVersion : String := "v1"

def mismatchResponse : Response :=
  { statusCode := 409
    data := .obj [("code", .str "IDEMPOTENCY_KEY_REUSE_MISMATCH"), ("detail", .str "Idempotency key conflict")]
    headers := [] }

/-- The answer while another request holds the record. -/
def inProgressResponse (rawKey : String) : Response :=
  { statusCode := 202
    data := .obj [("code", .str "IDEMPOTENCY_IN_PROGRESS"), ("detail", .str "Idempotent request is in progress"),
      ("retry_after_seconds", .int retryAfterSeconds)]
    headers := [("Retry-After", toString retryAfterSeconds), (idempotencyHeader, rawKey),
      (legacyIdempotencyHeader, rawKey), ("Idempotency-Status", "in_progress")] }

def tamperedResponse (code : String) : Response :=
  { statusCode := 409
    data := .obj [("code", .str code), ("detail", .str "Idempotency record integrity check failed"),
      ("action", .str "CONTACT_SUPPORT"), ("retryable", .scalar (.bool false))]
    headers := [] }

/-! ### Signatures -/

/-- The functions of the libraries the engine calls. -/
structure Codec where
  canonicalJsonDumps : Json → String
  floatText : ℚ → String
  sha256 : String → String
  /-- HMAC with SHA-256 of a key and a message, in hexadecimal. -/
  hmacSha256 : String → String → String

structure Keyring where
  keys : Dict String String
  activeKeyId : Option String

def Keyring.firstKeyId (k : Keyring) : Option String :=
  ((k.keys.map Prod.fst).insertionSort (· ≤ ·)).head?

/-- The key with an id, or the one to sign with (`_resolve_hmac_key`). -/
def resolveHmacKey (k : Keyring) (signatureKeyId : Option String) : Option String × Option String :=
  if k.keys = [] then (none, none)
  else
    match signatureKeyId with
    | some keyId => ((k.keys.get? keyId).filter (· ≠ ""), some keyId)
    | none =>
      match k.activeKeyId.bind fun keyId => (k.keys.get? keyId).map fun key => (keyId, key) with
      | some (keyId, key) => (some key, some keyId)
      | none => (k.firstKeyId.bind k.keys.get?, k.firstKeyId)

structure HmacRow where
  scope : IdempotencyScope
  hashes : RequestHashes
  statusCode : ℕ
  responseBodyHash : String
  responseContentType : String
  responseHeaders : Dict String String
  createdAt : Option ℕ
  expiresAt : Option ℕ

/-- A text, or `null`. -/
def optionalInstant : Option ℕ → Json
  | some n => .int n
  | none => .null

/-- The signature of a row, without a key none (`_compute_record_hmac`). -/
def computeRecordHmac (codec : Codec) (row : HmacRow) (key : Option String) : Option String :=
  (key.filter (· ≠ "")).map fun key => codec.hmacSha256 key (codec.canonicalJsonDumps (.obj
    [("agency_id", .int row.scope.agencyId), ("normalized_route", .str row.scope.normalizedRoute),
      ("method", .str row.scope.method), ("idempotency_key", .str row.scope.idempotencyKey),
      ("canonical_body_hash", .str row.hashes.canonicalBodyHash),
      ("normalized_query_hash", .str row.hashes.normalizedQueryHash),
      ("semantic_headers_hash", .str row.hashes.semanticHeadersHash),
      ("status_code", .int row.statusCode), ("response_body_hash", .str row.responseBodyHash),
      ("response_content_type", .str row.responseContentType),
      ("response_headers_json", .obj (row.responseHeaders.map fun h => (h.1, .str h.2))),
      ("created_at", optionalInstant row.createdAt), ("expires_at", optionalInstant row.expiresAt),
      ("payload_version", .str hmacPayloadVersion)]))

def IdempotencyRecord.hmacRow (r : IdempotencyRecord) (c : ResponseColumns) : HmacRow :=
  { scope := r.scope, hashes := r.hashes, statusCode := c.statusCode,
    responseBodyHash := c.responseBodyHash, responseContentType := c.responseContentType,
    responseHeaders := c.responseHeaders, createdAt := some r.createdAt,
    expiresAt := some r.expiresAt }

/-! ### Checking a request -/

def buildReplayResponse (c : ResponseColumns) (rawKey : String) : Response :=
  { statusCode := c.statusCode
    data := c.responseBody
    headers := Dict.set (Dict.set (Dict.set (c.responseHeaders.filter fun h => h.1 ∈ responseHeadersAllowlist)
      idempotencyHeader rawKey) legacyIdempotencyHeader rawKey) "Idempotency-Status" "replayed" }

def ResponseColumns.absent : ResponseColumns :=
  { statusCode := 200, responseContentType := "", responseHeaders := [], responseBody := .null,
    responseBodyHash := "", responseSizeBytes := 0, recordHmac := none, signatureKeyId := none,
    hmacPayloadVersion := none }

inductive Answer where
  | replayed (response : Response)
  | refused (response : Response)

/-- The key to verify a record with, after a forced reload if it is not loaded. -/
def verificationKey (cached reloaded : Keyring) (keyId : Option String) : Option String :=
  let key := (resolveHmacKey cached keyId).1
  if keyId.isSome ∧ key = none then (resolveHmacKey reloaded keyId).1 else key

/-- The replay of a completed record, unless its signature does not fit
(`_completed_replay_or_integrity_error`).  The second keyring is the one a forced reload finds. -/
def completedReplayOrIntegrityError (codec : Codec) (cached reloaded : Keyring)
    (r : IdempotencyRecord) (c : ResponseColumns) (rawKey : String) : Answer :=
  let version := c.hmacPayloadVersion.getD ""
  if version ≠ "" ∧ version ≠ hmacPayloadVersion then
    .refused (tamperedResponse "IDEMPOTENCY_RECORD_UNVERIFIABLE")
  else
    let key := verificationKey cached reloaded ((c.signatureKeyId.map strip).filter (· ≠ ""))
    let expected := computeRecordHmac codec (r.hmacRow c) key
    let stored := c.recordHmac.getD ""
    if stored ≠ "" ∧ expected = none then
      .refused (tamperedResponse "IDEMPOTENCY_RECORD_UNVERIFIABLE")
    else if stored ≠ "" ∧ expected ≠ none ∧ expected ≠ some stored then
      .refused (tamperedResponse "IDEMPOTENCY_RECORD_TAMPERED")
    else .replayed (buildReplayResponse c rawKey)

def completedAnswer (codec : Codec) (cached reloaded : Keyring) (r : IdempotencyRecord) (rawKey : String) : Answer :=
  completedReplayOrIntegrityError codec cached reloaded r (r.response.getD .absent) rawKey

def fetchRecord (records : List IdempotencyRecord) (scope : IdempotencyScope) :
    Option IdempotencyRecord :=
  records.find? fun r => r.scope = scope

/-- The answer to a request that finds the record held (`_wait_for_completion`). -/
def waitForCompletion (codec : Codec) (cached reloaded : Keyring)
    (records : List IdempotencyRecord) (scope : IdempotencyScope) (rawKey : String) : Answer :=
  match fetchRecord records scope with
  | none => .refused (inProgressResponse rawKey)
  | some r =>
    if r.state = .completed then completedAnswer codec cached reloaded r rawKey
    else .refused (inProgressResponse rawKey)

structure Check where
  context : IdempotencyContext
  now : ℕ
  leaseUntil : ℕ
  expiresAt : ℕ
  deriving DecidableEq

/-- The seconds after which a record expires, from the environment's setting. -/
def recordTtl (setting : ℤ) : ℕ := (max 60 (min setting (7 * 24 * 60 * 60))).toNat

/-- The start of the check (`check_idempotency` up to its transaction): the response that refuses the
request, nothing for a request without a key, or the check. -/
def beginCheck (enforceWriteKey : Bool) (ttlSetting : ℤ) (r : MutationRequest) (uuid : String)
    (now : ℕ) : Except Response (Option Check) :=
  let rawKey := if r.idempotencyKey ≠ "" then r.idempotencyKey else r.legacyIdempotencyKey
  if rawKey = "" then
    if enforceWriteKey ∧ (r.policy.map RoutePolicy.keyWrite).getD false ∧
        r.method ∈ ["POST", "PUT", "PATCH", "DELETE"] then
      .error
        { statusCode := 400
          data := .obj [("code", .str "IDEMPOTENCY_KEY_REQUIRED"),
            ("detail", .str "Idempotency-Key is required for this write endpoint")]
          headers := [] }
    else .ok none
  else if 255 < rawKey.length then
    .error
      { statusCode := 400
        data := .obj [("detail", .str "Idempotency-Key is too long")], headers := [] }
  else
    .ok (some
      { context :=
          { scope := ⟨r.agencyId, r.normalizedRoute, r.method, rawKey⟩, hashes := r.hashes,
            policy := r.policy, legacyHeader := r.idempotencyKey = "",
            leaseOwner := if r.requestId ≠ "" then r.requestId else "req-" ++ uuid }
        now
        leaseUntil := now + inProgressWaitSeconds
        expiresAt := now + recordTtl ttlSetting })

def newRecord (id : ℕ) (c : Check) (holder : ℕ) : IdempotencyRecord :=
  { id, scope := c.context.scope, hashes := c.context.hashes, state := .inProgress, attempt := 1,
    leaseOwner := c.context.leaseOwner, leaseUntil := some c.leaseUntil, response := none,
    createdAt := c.now, expiresAt := c.expiresAt, updatedAt := c.now, holder }

def IdempotencyContext.holding (context : IdempotencyContext) (r : IdempotencyRecord) :
    IdempotencyContext :=
  { context with recordId := r.id, createdAt := some r.createdAt, expiresAt := some r.expiresAt }

inductive Verdict where
  | absent
  | answer (a : Answer)
  | takeOver (r : IdempotencyRecord)

/-- The part of `check_idempotency` after the locking select. -/
def judge (codec : Codec) (cached reloaded : Keyring) (records : List IdempotencyRecord) (c : Check) : Verdict :=
  match fetchRecord records c.context.scope with
  | none => .absent
  | some r =>
    if r.hashes ≠ c.context.hashes then .answer (.refused mismatchResponse)
    else if r.state = .completed then
      .answer (completedAnswer codec cached reloaded r c.context.scope.idempotencyKey)
    else
      match r.leaseUntil with
      | some active =>
        if c.now < active then
          .answer (waitForCompletion codec cached reloaded records c.context.scope c.context.scope.idempotencyKey)
        else .takeOver r
      | none => .takeOver r

def takenOver (c : Check) (holder : ℕ) (r : IdempotencyRecord) : IdempotencyRecord :=
  { r with
    state := .inProgress
    attempt := r.attempt + 1
    leaseOwner := c.context.leaseOwner
    leaseUntil := some c.leaseUntil
    updatedAt := c.now
    holder }

/-! ### Storing a response -/

/-- A payload as it is stored: a scalar that is neither a text nor `null` is wrapped. -/
def coerceStoragePayload (codec : Codec) : Json → Json
  | .scalar (.bool v) => .obj [("value", .str (if v then "True" else "False"))]
  | .scalar (.int n) => .obj [("value", .str (toString n))]
  | .scalar (.float q) => .obj [("value", .str (codec.floatText q))]
  | payload => payload

/-- The payload to be stored with its canonical text; a large one is left out. -/
def responsePayloadForStorage (codec : Codec) (payload : Json) : Json × String :=
  let normalized := coerceStoragePayload codec payload
  let dumped := codec.canonicalJsonDumps normalized
  if maxResponseBytes < dumped.utf8ByteSize then
    let omitted := Json.obj [("detail", .str "response_omitted_due_to_size_cap")]
    (omitted, codec.canonicalJsonDumps omitted)
  else (normalized, dumped)

def extractReplayHeaders (response : Response) : Dict String String :=
  responseHeadersAllowlist.filterMap fun h => (response.headers.get? h).map fun v => (h, v)

def storeColumns (codec : Codec) (keyring : Keyring) (context : IdempotencyContext)
    (response : Response) : ResponseColumns :=
  let replayMode := (context.policy.map RoutePolicy.replayMode).getD .none
  let policyId := (context.policy.map RoutePolicy.policyId).getD ""
  let payload := responsePayloadForStorage codec (sanitizeReplayPayload policyId replayMode response.data)
  let headers := extractReplayHeaders response
  let contentType := ((response.headers.get? "Content-Type").filter (· ≠ "")).getD "application/json"
  let bodyHash := codec.sha256 payload.2
  let key := resolveHmacKey keyring none
  let recordHmac := computeRecordHmac codec
    { scope := context.scope, hashes := context.hashes, statusCode := response.statusCode,
      responseBodyHash := bodyHash, responseContentType := contentType, responseHeaders := headers,
      createdAt := context.createdAt, expiresAt := context.expiresAt } key.1
  { statusCode := response.statusCode, responseContentType := contentType,
    responseHeaders := headers, responseBody := payload.1, responseBodyHash := bodyHash,
    responseSizeBytes := payload.2.utf8ByteSize, recordHmac,
    signatureKeyId := if recordHmac.isSome then key.2 else none,
    hmacPayloadVersion := if recordHmac.isSome then some hmacPayloadVersion else none }

def Response.isAuthFailure (r : Response) : Bool := r.statusCode = 401 ∨ r.statusCode = 403

def IdempotencyContext.hits (context : IdempotencyContext) (r : IdempotencyRecord) : Bool :=
  r.id = context.recordId ∧ r.scope = context.scope

def withResponse (columns : ResponseColumns) (now : ℕ) (r : IdempotencyRecord) :
    IdempotencyRecord :=
  { r with
    state := if 500 ≤ columns.statusCode then .failedTransient else .completed
    response := some columns
    leaseUntil := none
    updatedAt := now }

/-- The statement of a store: a refused user's record is deleted by its scope, any other updated. -/
def storeIdempotency (codec : Codec) (keyring : Keyring) (context : IdempotencyContext)
    (response : Response) (now : ℕ) (records : List IdempotencyRecord) : List IdempotencyRecord :=
  if response.isAuthFailure then records.filter fun r => r.scope ≠ context.scope
  else records.map fun r =>
    if context.hits r then withResponse (storeColumns codec keyring context response) now r else r

/-- The ids a purge deletes: the expired records that are not in progress, the oldest first. -/
def doomedIds (now limit : ℕ) (records : List IdempotencyRecord) : List ℕ :=
  (((records.filter fun r => r.expiresAt < now ∧ r.state ≠ .inProgress).insertionSort
    fun r r' => r.expiresAt ≤ r'.expiresAt).take limit).map IdempotencyRecord.id

/-- The statement of `purge_expired_idempotency_records`. -/
def purgeExpired (now limit : ℕ) (records : List IdempotencyRecord) : List IdempotencyRecord :=
  records.filter fun r => r.id ∉ doomedIds now limit records

/-! ### Requests side by side -/

inductive Attempt where
  | inserting (c : Check)
  /-- The insert found a record; about to lock it. -/
  | selecting (c : Check)
  /-- The select found none; about to insert again. -/
  | insertingAgain (c : Check)
  | running (context : IdempotencyContext)
  | over
  deriving DecidableEq

structure StoreEvent where
  request : ℕ
  context : IdempotencyContext
  columns : ResponseColumns
  deriving DecidableEq

structure ReplayEvent where
  request : ℕ
  context : IdempotencyContext
  response : Response
  deriving DecidableEq

structure Engine where
  records : List IdempotencyRecord
  nextId : ℕ
  attempts : Dict ℕ Attempt
  supplanted : List ℕ
  stores : List StoreEvent
  replays : List ReplayEvent
  deriving DecidableEq

def Engine.init : Engine := ⟨[], 1, [], [], [], []⟩

inductive Action where
  | arrive (request : ℕ) (enforceWriteKey : Bool) (ttlSetting : ℤ) (r : MutationRequest)
      (uuid : String) (now : ℕ)
  | insert (request : ℕ)
  | select (request : ℕ) (cached reloaded : Keyring)
  | insertAgain (request : ℕ)
  | store (request : ℕ) (response : Response) (keyring : Keyring) (now : ℕ)
  | purge (now limit : ℕ)

def Engine.set (s : Engine) (request : ℕ) (a : Attempt) : Engine :=
  { s with attempts := s.attempts.set request a }

/-- Insert a record, unless its scope has one already (`_try_insert_in_progress_record`). -/
def Engine.tryInsert (s : Engine) (request : ℕ) (c : Check) : Option Engine :=
  if s.records.any fun r => r.scope = c.context.scope then none
  else
    let r := newRecord s.nextId c request
    some
      { s with
        records := s.records ++ [r]
        nextId := s.nextId + 1
        attempts := s.attempts.set request (.running (c.context.holding r)) }

def Engine.answer (s : Engine) (request : ℕ) (c : Check) : Answer → Engine
  | .replayed response =>
    { s.set request .over with replays := s.replays ++ [⟨request, c.context, response⟩] }
  | .refused _ => s.set request .over

def Engine.takeOver (s : Engine) (request : ℕ) (c : Check) (r : IdempotencyRecord) : Engine :=
  { s with
    records := s.records.map fun r' => if r'.id = r.id then takenOver c request r' else r'
    attempts := s.attempts.set request (.running (c.context.holding r))
    supplanted := s.supplanted ++ [r.holder] }

/-- A handler's run ends and its response is stored. -/
def Engine.store (codec : Codec) (s : Engine) (request : ℕ) (context : IdempotencyContext)
    (response : Response) (keyring : Keyring) (now : ℕ) : Engine :=
  { s with
    records := storeIdempotency codec keyring context response now s.records
    attempts := s.attempts.set request .over
    stores :=
      if response.isAuthFailure then s.stores
      else s.stores ++ [⟨request, context, storeColumns codec keyring context response⟩] }

def Engine.step (codec : Codec) (s : Engine) : Action → Option Engine
  | .arrive request enforceWriteKey ttlSetting r uuid now =>
    match s.attempts.get? request, beginCheck enforceWriteKey ttlSetting r uuid now with
    | none, .ok (some c) => some (s.set request (.inserting c))
    | none, _ => some (s.set request .over)
    | some _, _ => none
  | .insert request =>
    match s.attempts.get? request with
    | some (.inserting c) => some ((s.tryInsert request c).getD (s.set request (.selecting c)))
    | _ => none
  | .select request cached reloaded =>
    match s.attempts.get? request with
    | some (.selecting c) =>
      match judge codec cached reloaded s.records c with
      | .absent => some (s.set request (.insertingAgain c))
      | .answer a => some (s.answer request c a)
      | .takeOver r => some (s.takeOver request c r)
    | _ => none
  | .insertAgain request =>
    match s.attempts.get? request with
    | some (.insertingAgain c) => some ((s.tryInsert request c).getD (s.set request .over))
    | _ => none
  | .store request response keyring now =>
    match s.attempts.get? request with
    | some (.running context) => some (s.store codec request context response keyring now)
    | _ => none
  | .purge now limit => some { s with records := purgeExpired now limit s.records }

/-- The libraries' functions, as they are on the response `{"id": 7}`. -/
def sampleCodec : Codec :=
  { canonicalJsonDumps := fun _ => "\x7b\"id\":7\x7d"
    floatText := fun _ => ""
    sha256 := fun _ => "a3c90e3b7448d23d9eacebd0ebf15cae100e21f9b2c688f3f9d238edcd26d67f"
    hmacSha256 := fun _ _ => "" }

def noKeys : Keyring := ⟨[], none⟩

def sampleRequest (bodyHash : String) : MutationRequest :=
  { method := "POST", normalizedRoute := "/visits", agencyId := 1, idempotencyKey := "k-1",
    legacyIdempotencyKey := "", requestId := "", hashes := ⟨bodyHash, "q", "h"⟩,
    policy := some ⟨"route.visits", true, .fullSafe⟩ }

/-- Request `n` arrives at an instant. -/
def sampleArrival (n : ℕ) (bodyHash : String) (now : ℕ) : Action :=
  .arrive n false 86400 (sampleRequest bodyHash) "u" now

def sampleCreated : Response :=
  { statusCode := 201, data := .obj [("id", .int 7)], headers := [] }

end ImmoApp.Idempotency
