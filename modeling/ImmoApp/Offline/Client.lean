import ImmoApp.Foundation.Runs
import ImmoApp.Offline.Journal
import ImmoApp.Offline.Reconciler

/-!
# The client as a transition system

One account's client: its files, and where its replay stands.  The user's calls interleave with the steps of
`replay_offline_operations`: refresh, take the list of ready operations, and for each of them resolve the request,
mark it as syncing, send, receive and apply the response.  Replay works on the copies it took (`Phase.copies`).

At most one replay runs at a time, and an `opId` drawn from `uuid4` was never drawn before.  The fields `emitted`,
`edits` and `usedIds` record the history and influence nothing.
-/

namespace ImmoApp.Offline

/-- The counters `replay_offline_operations` returns. -/
structure ReplayResults where
  flushed : ℕ := 0
  discarded : ℕ := 0
  blocked : ℕ := 0
  needsReview : ℕ := 0
  retryable : ℕ := 0
  pending : ℕ := 0

def ReplayResults.count (r : ReplayResults) : ReplayOutcome → ReplayResults
  | .flushed => { r with flushed := r.flushed + 1 }
  | .discarded => { r with discarded := r.discarded + 1 }
  | .blocked => { r with blocked := r.blocked + 1 }
  | .needsReview => { r with needsReview := r.needsReview + 1 }
  | .retryable => { r with retryable := r.retryable + 1 }

/-- Where the replay stands.  Every phase after `refreshed` holds copies of operations, taken when the
list of ready operations was read. -/
inductive Phase where
  | idle
  | refreshed (limit : ℤ)
  | looping (ready : List OfflineOperation)
  | resolved (op : OfflineOperation) (request : ApiRequest) (ready : List OfflineOperation)
  | syncing (op : OfflineOperation) (request : ApiRequest) (ready : List OfflineOperation)
  | awaiting (op : OfflineOperation) (request : ApiRequest) (ready : List OfflineOperation)
  | received (op : OfflineOperation) (request : ApiRequest) (response : ApiResponse)
      (ready : List OfflineOperation)
  deriving DecidableEq

def Phase.copies : Phase → List OfflineOperation
  | .idle | .refreshed _ => []
  | .looping ready => ready
  | .resolved op _ ready | .syncing op _ ready | .awaiting op _ ready | .received op _ _ ready =>
    op :: ready

def Phase.attempt : Phase → Option (OfflineOperation × ApiRequest)
  | .idle | .refreshed _ | .looping _ => none
  | .resolved op request _ | .syncing op request _ | .awaiting op request _
  | .received op request _ _ => some (op, request)

def Phase.inFlight : Phase → Option String
  | .idle | .refreshed _ | .looping _ | .resolved _ _ _ => none
  | .syncing op _ _ | .awaiting op _ _ | .received op _ _ _ => some op.opId

structure Client where
  disk : Disk
  phase : Phase
  results : ReplayResults
  emitted : List ApiRequest
  /-- For every record, the latest value of each field that updates put on it since its creation. -/
  edits : Dict OfflineEntityRef (Dict String Json)
  usedIds : List String

def Client.init : Client := ⟨Disk.empty, .idle, {}, [], [], []⟩

def Client.editsOf (s : Client) (ref : OfflineEntityRef) : Dict String Json :=
  (s.edits.get? ref).getD []

inductive Action where
  | createEntity (request : OfflineCreateRequest) (opId : String) (response : ApiResponse) (now : ℕ)
  | updateEntity (ref : OfflineEntityRef) (path : String) (body : Dict String Json)
      (dedupeKey label opId : String) (response : ApiResponse) (now : ℕ)
  | deleteEntity (ref : OfflineEntityRef) (path : String) (params : Dict String Json)
      (dedupeKey label opId : String) (response : ApiResponse) (now : ℕ)
  | genericMutation (method path : String) (body params : Dict String Json)
      (dedupeKey label opId : String) (response : ApiResponse) (now : ℕ)
  | retryIssue (opId : String) (now : ℕ)
  | discardIssue (opId : String)
  | beginReplay (limit : ℤ)
  | takeReady
  | resolve
  | markSyncing (now : ℕ)
  | send
  | receive (response : ApiResponse)
  | finish (now : ℕ)
  | endReplay

def plainRequest (method path : String) (body params : Dict String Json) : ApiRequest :=
  { method, path, body, params, headers := [] }

/-- Remember a request, unless it did not leave the client. -/
def Client.emit (s : Client) (request : ApiRequest) : ApiResponse → Client
  | .notSent _ => s
  | _ => { s with emitted := s.emitted ++ [request] }

def Client.use (s : Client) (opId : String) : Client := { s with usedIds := s.usedIds ++ [opId] }

/-- Remember the fields an update puts on a record. -/
def Client.edit (s : Client) (ref : OfflineEntityRef) (fields : Dict String Json) : Client :=
  { s with edits := s.edits.set ref ((s.editsOf ref).update fields) }

def updatePayload (path : String) (body : Dict String Json) (label : String) : Dict String Json :=
  [("method", .str "PUT"), ("path", .str path), ("body", .obj body), ("label", .str label)]

def deletePayload (path : String) (params : Dict String Json) (label : String) :
    Dict String Json :=
  [("method", .str "DELETE"), ("path", .str path), ("params", .obj params), ("label", .str label)]

/-- Create a record: sent at once when its parents are known, queued when they are not or when the
attempt fails in a way worth another one. -/
def createEntity (accountKey : String) (request : OfflineCreateRequest) (opId : String)
    (response : ApiResponse) (now : ℕ) : JournalProg (Client → Client) := do
  let attempt ← Prog.read fun d =>
    if (collectParentRefs request).all fun ref => (d.resolveReconciledId ref).isSome then
      firstAttempt d accountKey request opId
    else none
  match attempt with
  | none => do
    let ref ← queueCreate accountKey request opId now
    pure fun s => { s.use opId with edits := s.edits.set ref [] }
  | some req =>
    if response.isRetryable then do
      let ref ← queueCreate accountKey request opId now
      pure fun s => { (s.use opId).emit req response with edits := s.edits.set ref [] }
    else pure fun s => (s.use opId).emit req response

/-- Update a record: queued when it was created offline, sent at once otherwise and queued when the
attempt fails in a way worth another one. -/
def updateEntity (accountKey : String) (ref : OfflineEntityRef) (path : String)
    (body : Dict String Json) (dedupeKey label opId : String) (response : ApiResponse) (now : ℕ) :
    JournalProg (Client → Client) :=
  let payload := updatePayload path body label
  if ref.localId < 0 then do
    let _ ← queueUpdateOperation accountKey ref payload dedupeKey opId now
    pure fun s => (s.use opId).edit ref (updateFields payload)
  else if response.isRetryable then do
    let _ ← queueUpdateOperation accountKey ref payload dedupeKey opId now
    pure fun s =>
      ((s.use opId).emit (plainRequest "PUT" path body []) response).edit ref (updateFields payload)
  else pure fun s => (s.use opId).emit (plainRequest "PUT" path body []) response

def deleteEntity (accountKey : String) (ref : OfflineEntityRef) (path : String)
    (params : Dict String Json) (dedupeKey label opId : String) (response : ApiResponse)
    (now : ℕ) : JournalProg (Client → Client) :=
  let payload := deletePayload path params label
  if ref.localId < 0 then do
    let _ ← queueDeleteOperation accountKey ref payload dedupeKey opId now
    pure fun s => s.use opId
  else if response.isRetryable then do
    let _ ← queueDeleteOperation accountKey ref payload dedupeKey opId now
    pure fun s => (s.use opId).emit (plainRequest "DELETE" path [] params) response
  else pure fun s => (s.use opId).emit (plainRequest "DELETE" path [] params) response

/-- Send a request and queue it when the attempt fails in a way worth another one
(`_resilient_mutation`, whose callers pass no headers). -/
def genericMutation (accountKey method path : String) (body params : Dict String Json)
    (dedupeKey label opId : String) (response : ApiResponse) (now : ℕ) :
    JournalProg (Client → Client) :=
  if response.isRetryable then do
    let _ ← queueGenericApiMutation accountKey method path body params [] dedupeKey label opId now
    pure fun s => (s.use opId).emit (plainRequest method path body params) response
  else pure fun s => (s.use opId).emit (plainRequest method path body params) response

/-- Retry an operation from the dialog of sync issues. -/
def retryIssue (opId : String) (now : ℕ) : JournalProg (Client → Client) := do
  let op ← getOperation opId
  removeConflict opId
  match op with
  | none => pure ()
  | some _ => do
    let _ ← updateOperationStatus opId .pending "" now
    pure ()
  pure id

/-- Discard an operation from the dialog of sync issues. -/
def discardIssue (opId : String) : JournalProg (Client → Client) := do
  removeConflict opId
  discardOperation opId
  pure id

/-- The program of an action, if it is possible, with what its result changes in memory. -/
def Client.effect (accountKey : String) (s : Client) : Action → Option (JournalProg (Client → Client))
  | .createEntity request opId response now =>
    if opId ∈ s.usedIds then none
    else some (Offline.createEntity accountKey request opId response now)
  | .updateEntity ref path body dedupeKey label opId response now =>
    if opId ∈ s.usedIds then none
    else some (Offline.updateEntity accountKey ref path body dedupeKey label opId response now)
  | .deleteEntity ref path params dedupeKey label opId response now =>
    if opId ∈ s.usedIds then none
    else some (Offline.deleteEntity accountKey ref path params dedupeKey label opId response now)
  | .genericMutation method path body params dedupeKey label opId response now =>
    if opId ∈ s.usedIds then none
    else some (Offline.genericMutation accountKey method path body params dedupeKey label opId response now)
  | .retryIssue opId now => some (Offline.retryIssue opId now)
  | .discardIssue opId => some (Offline.discardIssue opId)
  | .beginReplay limit =>
    match s.phase with
    | .idle => some do
      let _ ← refreshBlockedOperations
      pure fun s => { s with phase := .refreshed limit, results := {} }
    | _ => none
  | .takeReady =>
    match s.phase with
    | .refreshed limit => some do
      let ready ← listReadyOperations
      pure fun s => { s with phase := .looping (ready.take (max 1 limit).toNat) }
    | _ => none
  | .resolve =>
    match s.phase with
    | .looping (op :: ready) => some do
      match ← Prog.read fun d => resolveRequestPayload d op with
      | some request => pure fun s => { s with phase := .resolved op request ready }
      | none => pure fun s => { s with phase := .idle }
    | _ => none
  | .markSyncing now =>
    match s.phase with
    | .resolved op request ready => some do
      let _ ← updateOperationStatus op.opId .syncing "" now
      pure fun s => { s with phase := .syncing op request ready }
    | _ => none
  | .send =>
    match s.phase with
    | .syncing op request ready => some do
      pure fun s =>
        { s with phase := .awaiting op request ready, emitted := s.emitted ++ [request] }
    | _ => none
  | .receive response =>
    match s.phase, response with
    | .syncing op request ready, .notSent message => some do
      pure fun s => { s with phase := .received op request (.notSent message) ready }
    | .awaiting _ _ _, .notSent _ => none
    | .awaiting op request ready, response => some do
      pure fun s => { s with phase := .received op request response ready }
    | _, _ => none
  | .finish now =>
    match s.phase with
    | .received op _ response ready => some do
      let outcome ← finishReplay op response now
      pure fun s =>
        { s with
          phase := .looping (if outcome = .retryable then [] else ready)
          results := s.results.count outcome }
    | _ => none
  | .endReplay =>
    match s.phase with
    | .looping [] => some do
      let _ ← refreshBlockedOperations
      let n ← pendingOperationCount
      pure fun s => { s with phase := .idle, results := { s.results with pending := n } }
    | _ => none

def Client.step (accountKey : String) (s : Client) (a : Action) : Option Client :=
  (s.effect accountKey a).map fun p => p.result s.disk { s with disk := p.exec s.disk }

lemma effect_fresh {s : Client} {opId : String} {p q : JournalProg (Client → Client)}
    (h : (if opId ∈ s.usedIds then none else some q) = some p) : opId ∉ s.usedIds ∧ q = p := by
  split at h
  · cases h
  · next hfresh => exact ⟨hfresh, Option.some.inj h⟩

def sampleRequest : OfflineCreateRequest :=
  { entityType := .client, requestBody := [("name", .str "A"), ("phone", .str "1")],
    path := "/clients" }

/-- The first attempt to create the client times out, so that its creation is queued. -/
def sampleCreate : Action := .createEntity sampleRequest "op-1" (.runtimeError "timeout") 1

/-- The telephone number of the client is changed offline. -/
def samplePhoneEdit : Action :=
  .updateEntity ⟨.client, -1⟩ "/clients/-1" [("phone", .str "2")] "" "" "op-2" (.notSent "offline") 2

/-- The replay of the creation, from the list of ready operations to the response. -/
def sampleAttempt : List Action :=
  [.resolve, .markSyncing 3, .send, .receive (.ok (.obj [("id", .int 7)]))]

end ImmoApp.Offline
