import ImmoApp.Offline.Queue

/-!
# Requests and their outcomes

The parts of `offline_reconciler.py` and `offline_entity_mutations.py` that turn an operation into a
request and a response into a change of the journal: resolution of references in path and body, the
handlers of the response classes, and the payload a creation is queued with.

Functions that raise return `none`; in `_replay_operation` the resolution is outside the `try`, so
that a reference that does not resolve ends the replay.
-/

namespace ImmoApp.Offline

structure ApiRequest where
  method : String
  path : String
  body : Dict String Json
  params : Dict String Json
  headers : Dict String String
  deriving DecidableEq

def idempotencyHeader : String := "Idempotency-Key"

def ApiRequest.key (r : ApiRequest) : Option String := r.headers.get? idempotencyHeader

/-- How a request ends: with a payload, an error of the API, an error of the transport, some other
error, or without having left the client (offline mode, open circuit). -/
inductive ApiResponse where
  | ok (payload : Json)
  | apiError (statusCode : ℕ) (message : String)
  | runtimeError (message : String)
  | otherError (message : String)
  | notSent (message : String)
  deriving DecidableEq

def retryableStatusCodes : List ℕ := [408, 425, 429, 500, 502, 503, 504]

/-- The response is worth another attempt (`_is_retryable_error`). -/
def ApiResponse.isRetryable : ApiResponse → Bool
  | .apiError code _ => code ∈ retryableStatusCodes
  | .runtimeError _ | .notSent _ => true
  | .ok _ | .otherError _ => false

/-! ### Resolving references -/

def resolvePathTemplate (d : Disk) (template : String) (refs : Dict String Json) : Option String :=
  refs.foldlM (fun path e => do
      let ref ← OfflineEntityRef.fromDict e.2
      let resolved ← d.resolveReconciledId ref
      return path.replace ("\x7b" ++ e.1 ++ "\x7d") (toString resolved))
    template

/-- Replace the references of a body by server ids. -/
def resolveBodyRefs (d : Disk) (body refs : Dict String Json) : Option (Dict String Json) :=
  refs.foldlM (fun resolved e => do
      let ref ← OfflineEntityRef.fromDict e.2
      let id ← d.resolveReconciledId ref
      return Dict.set resolved e.1 (.int id))
    body

/-- A list entry that a query parameter may hold. -/
def isParamEntry : Json → Bool
  | .scalar .null => false
  | .scalar _ => true
  | _ => false

def requestParamsDict (v : Option Json) : Dict String Json :=
  (mappingDict v).filter fun e =>
    match e.2 with
    | .scalar _ => true
    | .arr items => items.all isParamEntry
    | .obj _ => false

namespace OfflineOperation

def body (op : OfflineOperation) : Dict String Json := mappingDict (op.payload.get? "body")

def bodyRefs (op : OfflineOperation) : Dict String Json := mappingDict (op.payload.get? "body_refs")

/-- The references under a key of the payload; a value that is no mapping raises. -/
def refsAt (op : OfflineOperation) (key : String) : Option (Dict String Json) :=
  match (op.payload.get? key).filter Json.truthy with
  | none => some []
  | some refs => refs.fields?

lemma refsAt_of_obj {op : OfflineOperation} {key : String} {refs : Dict String Json}
    (h : op.payload.get? key = some (.obj refs)) : op.refsAt key = some refs := by
  rw [refsAt, h, Option.filter_some]
  cases refs with
  | nil => rfl
  | cons => rfl

lemma refsAt_eq_some {op : OfflineOperation} {key : String} {refs : Dict String Json}
    (h : op.refsAt key = some refs) : refs = mappingDict (op.payload.get? key) := by
  rw [refsAt] at h
  rw [mappingDict]
  cases hvalue : op.payload.get? key with
  | none =>
    rw [hvalue] at h
    cases h
    rfl
  | some value =>
    rw [hvalue, Option.filter_some] at h
    rw [Option.bind_some]
    split at h
    · next hfalsy =>
      cases h
      cases value with
      | obj d =>
        cases d with
        | nil => rfl
        | cons => simp [Json.truthy] at hfalsy
      | _ => rfl
    · next hsome =>
      split at hsome
      · cases hsome
        rw [h, Option.getD_some]
      · cases hsome

def headers (op : OfflineOperation) : Dict String String :=
  (mappingDict (op.payload.get? "headers")).map fun e => (e.1, e.2.text)

def key (op : OfflineOperation) : Option String := op.headers.get? idempotencyHeader

end OfflineOperation

/-- The path of the request of an operation: its template with the references replaced, or its path. -/
def resolveRequestPath (d : Disk) (op : OfflineOperation) : Option String :=
  match (op.payload.get? "path_template").filter Json.truthy with
  | some template => do
    let refs ← op.refsAt "path_refs"
    resolvePathTemplate d template.text refs
  | none => some (((op.payload.get? "path").filter Json.truthy).elim "" Json.text)

/-- The request of an operation, once its references resolve (`_resolve_request_payload`). -/
def resolveRequestPayload (d : Disk) (op : OfflineOperation) : Option ApiRequest := do
  let method := ((op.payload.get? "method").filter Json.truthy).elim "POST" Json.text
  let path ← resolveRequestPath d op
  let bodyRefs ← op.refsAt "body_refs"
  let body ← resolveBodyRefs d op.body bodyRefs
  return { method := method.toUpper, path, body, params := requestParamsDict (op.payload.get? "params"),
           headers := op.headers }

/-! ### Handling a response -/

/-- The outcomes `replay_offline_operations` counts. -/
inductive ReplayOutcome where
  | flushed
  | discarded
  | blocked
  | needsReview
  | retryable
  deriving DecidableEq

/-- The id a response carries, `0` without one, or the text of the error. -/
def responseId (payload : Dict String Json) : Except String ℤ :=
  match payload.get? "id" with
  | some (.str s) =>
    match (Json.str s).toInt? with
    | some n => .ok n
    | none => .error ("invalid literal for int() with base 10: '" ++ s ++ "'")
  | some v => .ok (v.toInt?.getD 0)
  | none => .ok 0

/-- The id of the created record, or the text of the error (`_apply_create_success`). -/
def createdId (payload : Dict String Json) : Except String ℤ :=
  match responseId payload with
  | .error message => .error message
  | .ok id => if id ≤ 0 then .error "Create response missing canonical id." else .ok id

lemma createdId_pos {payload : Dict String Json} {id : ℤ} (h : createdId payload = .ok id) : 0 < id := by
  unfold createdId at h
  split at h
  · cases h
  · split at h
    · cases h
    · cases h
      omega

/-- A creation arrived: record its id, drop it from the journal and release what waited for it. -/
def applyCreateSuccess (op : OfflineOperation) (serverId : ℤ) (now : ℕ) : JournalProg Unit := do
  recordReconciledId op.entity serverId
  let _ ← updateOperationStatus op.opId .applied "" now
  removeConflict op.opId
  let _ ← refreshBlockedOperations
  pure ()

def handleRetryableFailure (op : OfflineOperation) (message : String) (now : ℕ) :
    JournalProg Unit := do
  noteOperationAttempt op.opId message now
  let _ ← updateOperationStatus op.opId .pending message now
  pure ()

def handleAuthBlock (op : OfflineOperation) (now : ℕ) : JournalProg Unit := do
  let _ ← updateOperationStatus op.opId .blocked "auth_required" now
  pure ()

def handleReviewFailure (op : OfflineOperation) (message : String) (now : ℕ) :
    JournalProg Unit := do
  let _ ← updateOperationStatus op.opId .needsReview message now
  addConflict
    { opId := op.opId, entityType := op.entityType, localId := op.localId,
      reasonCode := "sync_review_required", message, serverPayload := [], createdAt := now }

/-- A generic mutation is given up; the file of failed mutations is left out. -/
def handleGenericPermanentFailure (op : OfflineOperation) (message : String) (now : ℕ) :
    JournalProg Unit := do
  let _ ← updateOperationStatus op.opId .cancelled message now
  pure ()

def handlePermanentFailure (op : OfflineOperation) (message : String) (now : ℕ) :
    JournalProg ReplayOutcome := do
  if op.entityType = .generic then do
    handleGenericPermanentFailure op message now
    pure .discarded
  else do
    handleReviewFailure op message now
    pure .needsReview

/-- What `_replay_operation` does with the response. -/
def finishReplay (op : OfflineOperation) (response : ApiResponse) (now : ℕ) :
    JournalProg ReplayOutcome :=
  match response with
  | .apiError code message =>
    if code = 401 ∨ code = 403 then do
      handleAuthBlock op now
      pure .blocked
    else if code ∈ retryableStatusCodes then do
      handleRetryableFailure op message now
      pure .retryable
    else handlePermanentFailure op message now
  | .runtimeError message | .notSent message => do
    handleRetryableFailure op message now
    pure .retryable
  | .otherError message => handlePermanentFailure op message now
  | .ok payload =>
    if op.opType = .create ∧ op.entityType ≠ .generic then
      match createdId (mappingDict (some payload)) with
      | .error message => do
        handleReviewFailure op message now
        pure .needsReview
      | .ok serverId => do
        applyCreateSuccess op serverId now
        pure .flushed
    else do
      let _ ← updateOperationStatus op.opId .applied "" now
      removeConflict op.opId
      pure .flushed

/-! ### Creating a record -/

structure OfflineCreateRequest where
  entityType : EntityType
  requestBody : Dict String Json
  path : String := ""
  pathTemplate : String := ""
  pathRefs : Dict String OfflineEntityRef := []
  bodyRefs : Dict String OfflineEntityRef := []
  label : String := ""

def idempotencyKey (accountKey : String) (entityType : EntityType) (opId : String) : String :=
  "offline:" ++ accountKey ++ ":" ++ entityType.name ++ ":" ++ opId

def collectParentRefs (r : OfflineCreateRequest) : List OfflineEntityRef :=
  (r.pathRefs.map Prod.snd ++ r.bodyRefs.map Prod.snd).eraseDups

def refsJson (refs : Dict String OfflineEntityRef) : Dict String Json :=
  refs.map fun e => (e.1, e.2.toDict)

def createPayload (accountKey : String) (r : OfflineCreateRequest) (opId : String) :
    Dict String Json :=
  [("method", .str "POST"), ("path", .str r.path), ("path_template", .str r.pathTemplate),
    ("path_refs", .obj (refsJson r.pathRefs)), ("body", .obj r.requestBody),
    ("body_refs", .obj (refsJson r.bodyRefs)),
    ("headers", .obj [(idempotencyHeader, .str (idempotencyKey accountKey r.entityType opId))]),
    ("label", .str r.label)]

/-- Replace the parents of a path template by server ids (`_resolve_path`). -/
def resolvePath (d : Disk) (template : String) (refs : Dict String OfflineEntityRef) :
    Option String :=
  refs.foldlM (fun path e => do
      let resolved ← d.resolveReconciledId e.2
      return path.replace ("\x7b" ++ e.1 ++ "\x7d") (toString resolved))
    template

/-- Replace the parents of a body by server ids (`_resolve_body`). -/
def resolveBody (d : Disk) (body : Dict String Json) (refs : Dict String OfflineEntityRef) :
    Option (Dict String Json) :=
  refs.foldlM (fun resolved e => do
      let id ← d.resolveReconciledId e.2
      return Dict.set resolved e.1 (.int id))
    body

def firstAttemptPath (d : Disk) (r : OfflineCreateRequest) : Option String :=
  if r.pathTemplate = "" then some r.path else resolvePath d r.pathTemplate r.pathRefs

/-- The request of the first attempt, before anything is queued (`create_entity`). -/
def firstAttempt (d : Disk) (accountKey : String) (r : OfflineCreateRequest) (opId : String) :
    Option ApiRequest := do
  let path ← firstAttemptPath d r
  let body ← resolveBody d r.requestBody r.bodyRefs
  return { method := "POST", path, body, params := [],
           headers := [(idempotencyHeader, idempotencyKey accountKey r.entityType opId)] }

/-- Queue a creation under a fresh temporary id (`_queue_create`). -/
def queueCreate (accountKey : String) (r : OfflineCreateRequest) (opId : String) (now : ℕ) :
    JournalProg OfflineEntityRef := do
  let tempId ← allocateTempId r.entityType
  let _ ← queueCreateOperation accountKey ⟨r.entityType, tempId⟩ (createPayload accountKey r opId)
    (collectParentRefs r) (idempotencyKey accountKey r.entityType opId) opId now
  pure ⟨r.entityType, tempId⟩

end ImmoApp.Offline
