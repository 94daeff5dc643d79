import ImmoApp.Offline.Store

/-!
# The operation journal

The functions of `offline_op_log.py`, each a program on the account's files.  The pending snapshot is
what every function reads; every change of it is written first and then recorded as one or more
events of the log, from which the snapshot is rebuilt when it is missing.

A call receives the instant `now` it reads from the clock and the id `opId` it was given or drew from
`uuid4`.  The events' own time stamps are left out, since nothing reads them.
-/

namespace ImmoApp.Offline

open OfflineOperation

def storeOps (items : List OfflineOperation) : JournalProg Unit := Prog.write (.pending items)

def appendEvent (e : JournalEvent) : JournalProg Unit := Prog.write (.appendEvent e)

abbrev replayLog (events : List JournalEvent) : List OfflineOperation :=
  EventLog.replay opId isQueued le events

def rebuildPendingFromLog : JournalProg (List OfflineOperation) := do
  let entries ← loadLogJsonl
  let items := replayLog entries
  storeOps items
  pure items

def readPendingOperations : JournalProg (List OfflineOperation) := do
  if (← Prog.read Disk.pendingFile) = .absent then
    rebuildPendingFromLog
  else
    match ← loadPendingJson with
    | .list entries => pure ((entries.filterMap id).filter isQueued)
    | .other => rebuildPendingFromLog

def loadOps : JournalProg (List OfflineOperation) := readPendingOperations

def upsertOp (op : OfflineOperation) : JournalProg OfflineOperation := do
  let items := (← loadOps).filter fun item => item.opId ≠ op.opId
  storeOps ((items ++ [op]).insertionSort le)
  appendEvent (.upsert op)
  pure op

def removeOp (opId : String) : JournalProg Unit := do
  let items := (← loadOps).filter fun item => item.opId ≠ opId
  storeOps items
  appendEvent (.remove opId)

def isCreateOf (ref : OfflineEntityRef) (op : OfflineOperation) : Bool :=
  op.entityType = ref.entityType ∧ op.localId = ref.localId ∧ op.opType = .create

def findCreateForEntity (ref : OfflineEntityRef) : JournalProg (Option OfflineOperation) := do
  pure ((← loadOps).find? (isCreateOf ref))

/-- The server knows the record a reference names. -/
def parentIsResolved (d : Disk) (ref : OfflineEntityRef) : Bool :=
  0 < ref.localId ∨ (d.resolveReconciledId ref).isSome

def computeInitialStatus (d : Disk) (parentRefs : List OfflineEntityRef) : OpStatus :=
  if parentRefs.all (parentIsResolved d) then .pending else .blocked

/-- A blocked operation without an error whose parents are all resolved becomes pending. -/
def normalizeOperation (d : Disk) (op : OfflineOperation) : OfflineOperation :=
  if op.status = .blocked ∧ op.lastError = "" ∧ op.parentRefs ≠ [] ∧
      op.parentRefs.all (parentIsResolved d) = true then
    { op with status := .pending }
  else op

def listOperations : JournalProg (List OfflineOperation) := do
  let ops ← loadOps
  Prog.read fun d => ops.map (normalizeOperation d)

/-- The order in which operations are sent: creates, updates, deletes, actions. -/
def readyPriority : OpType → ℕ
  | .create => 0
  | .update => 1
  | .delete => 2
  | .action => 3

/-- The order of the ready list: by `(priority, created_at, op_id)`. -/
def readyLe (a b : OfflineOperation) : Prop :=
  readyPriority a.opType < readyPriority b.opType ∨ (readyPriority a.opType = readyPriority b.opType ∧ le a b)

instance : DecidableRel readyLe := fun _ _ => inferInstanceAs (Decidable (_ ∨ _))

def listReadyOperations : JournalProg (List OfflineOperation) := do
  let ops ← listOperations
  pure ((ops.filter fun op => op.status = .pending).insertionSort readyLe)

def pendingOperationCount : JournalProg ℕ := do
  pure (← listOperations).length

/-! ### Queueing -/

/-- The operation a record's creation is queued as. -/
def createOperation (accountKey : String) (ref : OfflineEntityRef) (payload : Dict String Json)
    (parentRefs : List OfflineEntityRef) (dedupeKey opId : String) (now : ℕ) (status : OpStatus) :
    OfflineOperation :=
  { opId, accountKey, entityType := ref.entityType, opType := .create, localId := ref.localId,
    payload, parentRefs, dedupeKey, status, createdAt := now, updatedAt := now }

def changeOperation (accountKey : String) (ref : OfflineEntityRef) (opType : OpType)
    (payload : Dict String Json) (dedupeKey opId : String) (now : ℕ) : OfflineOperation :=
  { opId, accountKey, entityType := ref.entityType, opType, localId := ref.localId, payload,
    dedupeKey, createdAt := now, updatedAt := now }

def queueCreateOperation (accountKey : String) (ref : OfflineEntityRef) (payload : Dict String Json)
    (parentRefs : List OfflineEntityRef) (dedupeKey opId : String) (now : ℕ) :
    JournalProg OfflineOperation := do
  let status ← Prog.read fun d => computeInitialStatus d parentRefs
  upsertOp (createOperation accountKey ref payload parentRefs dedupeKey opId now status)

/-- The fields an update carries: its body, or the whole payload when the body is missing or
empty. -/
def updateFields (payload : Dict String Json) : Dict String Json :=
  let body := mappingDict (payload.get? "body")
  if body = [] then payload else body

def mergeFields (fields : Dict String Json) (now : ℕ) (op : OfflineOperation) : OfflineOperation :=
  { op with
    payload := op.payload.set "body" (.obj ((mappingDict (op.payload.get? "body")).update fields))
    updatedAt := now }

/-- The operation updates or deletes the given record. -/
def isChangeOf (ref : OfflineEntityRef) (op : OfflineOperation) : Bool :=
  op.entityType = ref.entityType ∧ op.localId = ref.localId ∧ (op.opType = .update ∨ op.opType = .delete)

/-- Queue an update of a record whose creation is not queued: merged into a queued update of it,
refused after a queued deletion. -/
def queueUpdateOfKnown (accountKey : String) (ref : OfflineEntityRef) (payload : Dict String Json)
    (dedupeKey opId : String) (now : ℕ) : JournalProg (Option OfflineOperation) := do
  match (← loadOps).find? (isChangeOf ref) with
  | some item =>
    if item.opType = .update then do
      let op ← upsertOp (mergeFields (updateFields payload) now item)
      pure (some op)
    else do
      addConflict
        { opId := item.opId, entityType := ref.entityType, localId := ref.localId,
          reasonCode := "delete_then_update",
          message := "Cannot queue an update after a pending delete.",
          serverPayload := payload, createdAt := now }
      pure none
  | none => do
    let op ← upsertOp (changeOperation accountKey ref .update payload dedupeKey opId now)
    pure (some op)

/-- Queue an update: merged into the queued creation of the record, if there is one. -/
def queueUpdateOperation (accountKey : String) (ref : OfflineEntityRef) (payload : Dict String Json)
    (dedupeKey opId : String) (now : ℕ) : JournalProg (Option OfflineOperation) := do
  match ← findCreateForEntity ref with
  | some createOp => do
    let op ← upsertOp (mergeFields (updateFields payload) now createOp)
    pure (some op)
  | none => queueUpdateOfKnown accountKey ref payload dedupeKey opId now

/-- Drop the queued creations that depend on a record, and in turn those that depend on them.  The
first argument bounds the depth of the recursion; each level starts from a queue that has lost an
operation of the level above, so that the length of the queue is bound enough. -/
def cancelDependentsUpTo : ℕ → OfflineEntityRef → JournalProg Unit
  | 0, _ => pure ()
  | depth + 1, target => do
    let items ← loadOps
    Prog.forEach (fun item =>
        if item.opType = .create ∧ target ∈ item.parentRefs then do
          removeOp item.opId
          cancelDependentsUpTo depth item.entity
        else pure ())
      items

/-- Drop the queued creations that depend on a record that will not be created. -/
def cancelDependentTempCreates (target : OfflineEntityRef) : JournalProg Unit :=
  fun d => cancelDependentsUpTo ((loadOps.result d).length + 1) target d

/-- Drop the operations that satisfy `p`, one event for each. -/
def dropOps (p : OfflineOperation → Bool) : JournalProg Unit := do
  let ops ← loadOps
  storeOps (ops.filter fun item => !p item)
  Prog.writes ((ops.filter p).map fun item => .appendEvent (.remove item.opId))

def isUpdateOf (ref : OfflineEntityRef) (op : OfflineOperation) : Bool :=
  op.entityType = ref.entityType ∧ op.localId = ref.localId ∧ op.opType = .update

/-- Queue the deletion of a record whose creation is not queued; the queued updates of it give way. -/
def queueDeleteOfKnown (accountKey : String) (ref : OfflineEntityRef) (payload : Dict String Json)
    (dedupeKey opId : String) (now : ℕ) : JournalProg (Option OfflineOperation) := do
  dropOps (isUpdateOf ref)
  let op ← upsertOp (changeOperation accountKey ref .delete payload dedupeKey opId now)
  pure (some op)

/-- Queue a deletion: the queued creation of the record, if there is one, is dropped with everything
that depends on it. -/
def queueDeleteOperation (accountKey : String) (ref : OfflineEntityRef) (payload : Dict String Json)
    (dedupeKey opId : String) (now : ℕ) : JournalProg (Option OfflineOperation) := do
  match ← findCreateForEntity ref with
  | some createOp => do
    removeOp createOp.opId
    cancelDependentTempCreates ref
    pure none
  | none => queueDeleteOfKnown accountKey ref payload dedupeKey opId now

def queueActionOperation (accountKey : String) (ref : OfflineEntityRef) (payload : Dict String Json)
    (dedupeKey opId : String) (now : ℕ) : JournalProg OfflineOperation :=
  upsertOp (changeOperation accountKey ref .action payload dedupeKey opId now)

def opTypeOfMethod (method : String) : OpType :=
  if method = "PUT" then .update else if method = "DELETE" then .delete else .action

def genericOperation (accountKey method path : String) (jsonBody params : Dict String Json)
    (headers : Dict String String) (dedupeKey label opId : String) (now : ℕ) : OfflineOperation :=
  let normalizedMethod := (if method = "" then "POST" else method).toUpper
  { opId, accountKey, entityType := .generic, opType := opTypeOfMethod normalizedMethod,
    localId := 0,
    payload :=
      [("method", .str normalizedMethod), ("path", .str path), ("body", .obj jsonBody),
        ("params", .obj params), ("headers", .obj (headers.map fun h => (h.1, .str h.2))),
        ("label", .str label)],
    dedupeKey, createdAt := now, updatedAt := now }

/-- Queue a request as it is, in place of those queued under its deduplication key. -/
def queueGenericApiMutation (accountKey method path : String) (jsonBody params : Dict String Json)
    (headers : Dict String String) (dedupeKey label opId : String) (now : ℕ) :
    JournalProg OfflineOperation := do
  if dedupeKey ≠ "" then dropOps fun item => item.dedupeKey = dedupeKey else pure ()
  upsertOp (genericOperation accountKey method path jsonBody params headers dedupeKey label opId now)

def normalizeChanges (d : Disk) (op : OfflineOperation) : Bool :=
  (normalizeOperation d op).status ≠ op.status

def refreshBlockedOperations : JournalProg ℕ := do
  let items ← loadOps
  let d ← Prog.read id
  let changedOps := items.filter (normalizeChanges d)
  if changedOps ≠ [] then do
    storeOps (items.map (normalizeOperation d))
    Prog.writes (changedOps.map fun item => .appendEvent (.upsert (normalizeOperation d item)))
  else pure ()
  pure changedOps.length

/-- Apply `f` to the operation with an identity. -/
def modifyOp (opId : String) (f : OfflineOperation → OfflineOperation) (item : OfflineOperation) :
    OfflineOperation :=
  if item.opId = opId then f item else item

def lastWithId (opId : String) (items : List OfflineOperation) : Option OfflineOperation :=
  (items.filter fun item => item.opId = opId).getLast?

def withAttempt (errorMessage : String) (now : ℕ) (op : OfflineOperation) : OfflineOperation :=
  { op with attempts := op.attempts + 1, lastError := errorMessage, updatedAt := now }

def noteOperationAttempt (opId errorMessage : String) (now : ℕ) : JournalProg Unit := do
  let items ← loadOps
  storeOps (items.map (modifyOp opId (withAttempt errorMessage now)))
  match lastWithId opId items with
  | none => pure ()
  | some op => appendEvent (.upsert (withAttempt errorMessage now op))

def withStatus (status : OpStatus) (lastError : String) (now : ℕ) (op : OfflineOperation) :
    OfflineOperation :=
  { op with status, lastError, updatedAt := now }

/-- Set the status of an operation; with a final status the operation leaves the queue. -/
def updateOperationStatus (opId : String) (status : OpStatus) (lastError : String) (now : ℕ) :
    JournalProg (Option OfflineOperation) := do
  let items ← loadOps
  if status.isFinal then storeOps (items.filter fun item => item.opId ≠ opId)
  else storeOps (items.map (modifyOp opId (withStatus status lastError now)))
  match lastWithId opId items with
  | none => pure none
  | some op => do
    appendEvent (.upsert (withStatus status lastError now op))
    if status.isFinal then appendEvent (.remove opId) else pure ()
    pure (some (withStatus status lastError now op))

def removeOperation (opId : String) : JournalProg Unit := removeOp opId

def getOperation (opId : String) : JournalProg (Option OfflineOperation) := do
  pure ((← loadOps).find? fun item => item.opId = opId)

def discardOperation (opId : String) : JournalProg Unit := do
  match ← getOperation opId with
  | none => pure ()
  | some op => do
    removeOp opId
    if op.opType = .create ∧ op.localId < 0 ∧ op.entityType ≠ .generic then
      cancelDependentTempCreates op.entity
    else pure ()
    let _ ← refreshBlockedOperations
    pure ()

def clearOperationStore : JournalProg Unit := do
  storeOps []
  Prog.write .truncateLog

/-! ### The interface of the journal -/

/-- A call of the journal's interface, with the instant and the identity it uses.  The last one is
`record_reconciled_id`, which decides what is resolved when the others run. -/
inductive ApiCall where
  | listOperations
  | getOperation (opId : String)
  | queueCreate (ref : OfflineEntityRef) (payload : Dict String Json)
      (parentRefs : List OfflineEntityRef) (dedupeKey opId : String) (now : ℕ)
  | queueUpdate (ref : OfflineEntityRef) (payload : Dict String Json) (dedupeKey opId : String)
      (now : ℕ)
  | queueDelete (ref : OfflineEntityRef) (payload : Dict String Json) (dedupeKey opId : String)
      (now : ℕ)
  | queueAction (ref : OfflineEntityRef) (payload : Dict String Json) (dedupeKey opId : String)
      (now : ℕ)
  | queueGeneric (method path : String) (jsonBody params : Dict String Json)
      (headers : Dict String String) (dedupeKey label opId : String) (now : ℕ)
  | refreshBlocked
  | noteAttempt (opId errorMessage : String) (now : ℕ)
  | updateStatus (opId : String) (status : OpStatus) (lastError : String) (now : ℕ)
  | remove (opId : String)
  | discard (opId : String)
  | clear
  | recordReconciled (ref : OfflineEntityRef) (serverId : ℤ)

inductive ApiResult where
  | done
  | count (n : ℕ)
  | operation (op : Option OfflineOperation)
  | operations (ops : List OfflineOperation)
  deriving DecidableEq

/-- The program of a call, for the account `accountKey`. -/
def ApiCall.prog (accountKey : String) : ApiCall → JournalProg ApiResult
  | .listOperations => do
    let ops ← Offline.listOperations
    pure (.operations ops)
  | .getOperation opId => do
    let op ← Offline.getOperation opId
    pure (.operation op)
  | .queueCreate ref payload parentRefs dedupeKey opId now => do
    let op ← queueCreateOperation accountKey ref payload parentRefs dedupeKey opId now
    pure (.operation (some op))
  | .queueUpdate ref payload dedupeKey opId now => do
    let op ← queueUpdateOperation accountKey ref payload dedupeKey opId now
    pure (.operation op)
  | .queueDelete ref payload dedupeKey opId now => do
    let op ← queueDeleteOperation accountKey ref payload dedupeKey opId now
    pure (.operation op)
  | .queueAction ref payload dedupeKey opId now => do
    let op ← queueActionOperation accountKey ref payload dedupeKey opId now
    pure (.operation (some op))
  | .queueGeneric method path jsonBody params headers dedupeKey label opId now => do
    let op ← queueGenericApiMutation accountKey method path jsonBody params headers dedupeKey label opId now
    pure (.operation (some op))
  | .refreshBlocked => do
    let n ← refreshBlockedOperations
    pure (.count n)
  | .noteAttempt opId errorMessage now => do
    noteOperationAttempt opId errorMessage now
    pure .done
  | .updateStatus opId status lastError now => do
    let op ← updateOperationStatus opId status lastError now
    pure (.operation op)
  | .remove opId => do
    removeOperation opId
    pure .done
  | .discard opId => do
    discardOperation opId
    pure .done
  | .clear => do
    clearOperationStore
    pure .done
  | .recordReconciled ref serverId => do
    recordReconciledId ref serverId
    pure .done

def runCalls (accountKey : String) (calls : List ApiCall) (d : Disk) : Disk :=
  calls.foldl (fun d call => (call.prog accountKey).exec d) d

end ImmoApp.Offline
