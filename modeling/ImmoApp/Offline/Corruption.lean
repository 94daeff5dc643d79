import ImmoApp.Offline.Journal

/-!
# A corrupt pending snapshot

When the pending snapshot does not parse, `load_json_with_quarantine` moves it away and returns the
default `[]`, which `_read_pending_operations` takes for an empty queue; only the next load finds the
file missing and rebuilds it from the log.  A call that loads once therefore acts on an empty queue,
and one that loads twice acts on the empty queue first and on the rebuilt one afterwards.  This module
says for each call exactly when that makes no difference.
-/

namespace ImmoApp.Offline

open OfflineOperation List Prog

inductive NextCall where
  | list
  | queueCreate (ref : OfflineEntityRef) (payload : Dict String Json)
      (parentRefs : List OfflineEntityRef) (dedupeKey opId : String) (now : ℕ)
  | queueUpdate (ref : OfflineEntityRef) (payload : Dict String Json) (dedupeKey opId : String)
      (now : ℕ)
  | queueDelete (ref : OfflineEntityRef) (payload : Dict String Json) (dedupeKey opId : String)
      (now : ℕ)
  | updateStatus (opId : String) (status : OpStatus) (lastError : String) (now : ℕ)

def NextCall.call : NextCall → ApiCall
  | .list => .listOperations
  | .queueCreate ref payload parentRefs dedupeKey opId now =>
    .queueCreate ref payload parentRefs dedupeKey opId now
  | .queueUpdate ref payload dedupeKey opId now => .queueUpdate ref payload dedupeKey opId now
  | .queueDelete ref payload dedupeKey opId now => .queueDelete ref payload dedupeKey opId now
  | .updateStatus opId status lastError now => .updateStatus opId status lastError now

/-- What a call shows: its result, and the queue, the log and the conflicts it leaves. -/
structure Behaviour where
  result : ApiResult
  queue : List OfflineOperation
  logFile : JsonFile (List JournalEvent)
  conflicts : List OfflineConflict
  deriving DecidableEq

def ApiCall.behaviour (accountKey : String) (call : ApiCall) (d : Disk) : Behaviour :=
  let d' := (call.prog accountKey).exec d
  ⟨(call.prog accountKey).result d, loadOps.result d', d'.logFile, d'.conflicts⟩

def Disk.corruptSnapshot (d : Disk) : Disk := { d with pendingFile := .unparseable }

/-- The files with the pending snapshot that `_rebuild_pending_from_log` computes. -/
def Disk.restoreSnapshot (d : Disk) : Disk :=
  { d with pendingFile := .value (.list ((rebuildPendingFromLog.result d).map some)) }

/-- The condition on the rebuilt queue under which a call does not notice the corruption. -/
def NextCall.RecoversFrom (ops : List OfflineOperation) : NextCall → Prop
  | .list => ops = []
  | .queueCreate _ _ _ _ opId _ => ∀ op ∈ ops, op.opId = opId
  | .queueUpdate ref _ _ _ _ => ∀ op ∈ ops, isCreateOf ref op = false
  | .queueDelete ref _ _ _ _ => ∀ op ∈ ops, isCreateOf ref op = false
  | .updateStatus _ _ _ _ => ops = []

section

variable (d : Disk)
include d

lemma loadOps_corruptSnapshot : loadOps d.corruptSnapshot = ([], [.quarantinePending]) :=
  loadOps_of_unparseable rfl

lemma loadOps_result_corruptSnapshot : loadOps.result d.corruptSnapshot = [] := by
  unfold Prog.result
  rw [loadOps_corruptSnapshot]

lemma loadOps_exec_corruptSnapshot : loadOps.exec d.corruptSnapshot = { d with pendingFile := .absent } := by
  unfold Prog.exec Prog.trail
  rw [loadOps_corruptSnapshot]
  rfl

lemma restoreSnapshot_present : d.restoreSnapshot.Present := ⟨_, rfl⟩

lemma restoreSnapshot_queue : d.restoreSnapshot.queue = rebuildPendingFromLog.result d := by
  rw [queue_of_pendingFile rfl, rebuildPendingFromLog_result]
  exact filter_eq_self.mpr fun _ hop => EventLog.live_of_mem_replay hop

lemma loadOps_result_restoreSnapshot : loadOps.result d.restoreSnapshot = rebuildPendingFromLog.result d := by
  rw [loadOps_result (restoreSnapshot_present d).intact, restoreSnapshot_queue]

lemma loadOps_exec_restoreSnapshot : loadOps.exec d.restoreSnapshot = d.restoreSnapshot := by
  unfold Prog.exec Prog.trail
  rw [loadOps_of_value rfl]
  rfl

end

variable {d d' : Disk} {ref : OfflineEntityRef} {ops : List OfflineOperation} {f : JsonFile (List JournalEvent)}

lemma loadOps_exec_absent (hlog : d.logFile ≠ .unparseable) :
    loadOps.exec { d with pendingFile := .absent } = d.restoreSnapshot := by
  obtain ⟨f, hf, _, hsame⟩ := rebuildPendingFromLog_exec { d with pendingFile := .absent }
  have hexec : loadOps.exec { d with pendingFile := .absent }
      = rebuildPendingFromLog.exec { d with pendingFile := .absent } := by
    unfold Prog.exec Prog.trail
    rw [loadOps_of_absent rfl]
  rw [hexec, hf, hsame hlog]
  unfold Disk.restoreSnapshot
  rw [rebuildPendingFromLog_result]

lemma loadOps_result_absent (d : Disk) :
    loadOps.result { d with pendingFile := .absent } = rebuildPendingFromLog.result d := by
  unfold Prog.result
  rw [loadOps_of_absent rfl]
  exact (rebuildPendingFromLog_result _).trans (rebuildPendingFromLog_result d).symm

variable (accountKey : String)

lemma list_behaviour_iff (d : Disk) : ApiCall.listOperations.behaviour accountKey d.corruptSnapshot
        = ApiCall.listOperations.behaviour accountKey d.restoreSnapshot
      ↔ rebuildPendingFromLog.result d = [] := by
  unfold ApiCall.behaviour ApiCall.prog listOperations
  simp only [exec_bind, result_bind, exec_read, result_read, exec_pure,
    result_pure, loadOps_result_corruptSnapshot, loadOps_exec_corruptSnapshot,
    loadOps_result_restoreSnapshot, loadOps_exec_restoreSnapshot, loadOps_result_absent]
  constructor
  · intro h
    simpa using (congrArg Behaviour.result h).symm
  · intro h
    simp [h, Disk.restoreSnapshot]

/-! ### Queueing a creation -/

lemma upsertOp_exec_corruptSnapshot (d : Disk) (op : OfflineOperation) : (upsertOp op).exec d.corruptSnapshot
      = { d with
          pendingFile := .value (.list [some op])
          logFile := d.logFile.append (.upsert op) } := by
  unfold upsertOp storeOps appendEvent
  simp only [exec_bind, exec_write, exec_pure, loadOps_result_corruptSnapshot, loadOps_exec_corruptSnapshot]
  rfl

lemma upsertOp_exec_restoreSnapshot (d : Disk) (op : OfflineOperation) : (upsertOp op).exec d.restoreSnapshot
      = { d with
          pendingFile := .value (.list ((insertOp op (rebuildPendingFromLog.result d)).map some))
          logFile := d.logFile.append (.upsert op) } := by
  unfold upsertOp storeOps appendEvent
  simp only [exec_bind, exec_write, exec_pure, loadOps_result_restoreSnapshot, loadOps_exec_restoreSnapshot]
  rfl

lemma computeInitialStatus_congr (h : SameIds d d') (parentRefs : List OfflineEntityRef) :
    computeInitialStatus d' parentRefs = computeInitialStatus d parentRefs := by
  unfold computeInitialStatus
  rw [h.parentIsResolved]

lemma queueCreate_behaviour_iff (d : Disk) (ref : OfflineEntityRef)
    (payload : Dict String Json) (parentRefs : List OfflineEntityRef) (dedupeKey opId : String)
    (now : ℕ) :
    (ApiCall.queueCreate ref payload parentRefs dedupeKey opId now).behaviour accountKey d.corruptSnapshot
      = (ApiCall.queueCreate ref payload parentRefs dedupeKey opId now).behaviour accountKey d.restoreSnapshot
      ↔ ∀ op ∈ rebuildPendingFromLog.result d, op.opId = opId := by
  have hcorrupt : computeInitialStatus d.corruptSnapshot parentRefs
      = computeInitialStatus d parentRefs := computeInitialStatus_congr ⟨rfl, rfl⟩ parentRefs
  have hrestore : computeInitialStatus d.restoreSnapshot parentRefs
      = computeInitialStatus d parentRefs := computeInitialStatus_congr ⟨rfl, rfl⟩ parentRefs
  have hq := isQueued_createOperation d accountKey ref payload parentRefs dedupeKey opId now
  set c := createOperation accountKey ref payload parentRefs dedupeKey opId now
    (computeInitialStatus d parentRefs) with hc
  have hcid : c.opId = opId := rfl
  have hresult : ∀ d' : Disk, computeInitialStatus d' parentRefs = computeInitialStatus d parentRefs →
      (queueCreateOperation accountKey ref payload parentRefs dedupeKey opId now).result d' = c := by
    intro d' hd'
    simp [queueCreateOperation, hc, createOperation, hd']
  have hqueue : ∀ (items : List OfflineOperation) (f : JsonFile (List JournalEvent)),
      (∀ op ∈ items, op.isQueued = true) →
      loadOps.result { d with pendingFile := .value (.list (items.map some)), logFile := f } = items := by
    intro items f hitems
    rw [loadOps_result (Disk.Present.intact ⟨_, rfl⟩), queue_of_pendingFile rfl, filter_eq_self.mpr hitems]
  have hinsert : ∀ op ∈ insertOp c (rebuildPendingFromLog.result d), op.isQueued = true := by
    rw [← restoreSnapshot_queue]
    exact isQueued_of_mem_insertOp hq
  have hsingle : ∀ op ∈ [c], op.isQueued = true := by simpa using hq
  unfold ApiCall.behaviour ApiCall.prog
  simp only [exec_bind, result_bind, exec_pure, result_pure,
    queueCreateOperation_exec, hcorrupt, hrestore, ← hc, hresult _ hcorrupt, hresult _ hrestore,
    upsertOp_exec_corruptSnapshot, upsertOp_exec_restoreSnapshot, hqueue _ _ hinsert,
    show [some c] = [c].map some from rfl, hqueue _ _ hsingle, Behaviour.mk.injEq, true_and,
    and_true]
  constructor
  · intro h op hop
    by_contra hne
    have hmem : op ∈ insertOp c (rebuildPendingFromLog.result d) :=
      mem_insertOp.mpr (.inr ⟨hop, by rwa [hcid]⟩)
    rw [← h, mem_singleton] at hmem
    exact hne (by rw [hmem, hcid])
  · intro h
    have hfilter : (rebuildPendingFromLog.result d).filter (fun item => decide (item.opId ≠ c.opId)) = [] := by
      rw [filter_eq_nil_iff]
      intro op hop
      simp [h op hop, hcid]
    rw [insertOp, hfilter]
    rfl

/-! ### Queueing an update or a deletion -/

/-- A program that starts by loading does not distinguish the missing from the restored snapshot. -/
lemma load_absent_eq_load_restore {α : Type} (hlog : d.logFile ≠ .unparseable)
    (f : List OfflineOperation → JournalProg α) :
    (loadOps >>= f).result { d with pendingFile := .absent } = (loadOps >>= f).result d.restoreSnapshot ∧
      (loadOps >>= f).exec { d with pendingFile := .absent } = (loadOps >>= f).exec d.restoreSnapshot := by
  simp only [result_bind, exec_bind, loadOps_result_absent, loadOps_exec_absent hlog,
    loadOps_result_restoreSnapshot, loadOps_exec_restoreSnapshot, and_self]

lemma find?_isCreateOf_eq_none_iff : ops.find? (isCreateOf ref) = none ↔ ∀ op ∈ ops, isCreateOf ref op = false := by
  simp

lemma JsonFile.append_ne (h : f ≠ .unparseable) (e : JournalEvent) : f.append e ≠ f := by
  cases f with
  | absent => simp [JsonFile.append]
  | unparseable => exact absurd rfl h
  | value => simp [JsonFile.append]

lemma JsonFile.append_inj (h : f ≠ .unparseable)
    {e e' : JournalEvent} (heq : f.append e = f.append e') : e = e' := by
  cases f with
  | absent => simpa [JsonFile.append] using heq
  | unparseable => exact absurd rfl h
  | value => simpa [JsonFile.append] using heq

lemma findCreateForEntity_corruptSnapshot (d : Disk) (ref : OfflineEntityRef) :
    (findCreateForEntity ref).result d.corruptSnapshot = none ∧
      (findCreateForEntity ref).exec d.corruptSnapshot = { d with pendingFile := .absent } := by
  refine ⟨?_, ?_⟩
  · simp [findCreateForEntity, loadOps_result_corruptSnapshot]
  · rw [findCreateForEntity_exec, loadOps_exec_corruptSnapshot]

lemma findCreateForEntity_restoreSnapshot (d : Disk) (ref : OfflineEntityRef) :
    (findCreateForEntity ref).result d.restoreSnapshot = (rebuildPendingFromLog.result d).find? (isCreateOf ref) ∧
      (findCreateForEntity ref).exec d.restoreSnapshot = d.restoreSnapshot := by
  refine ⟨?_, ?_⟩
  · simp [findCreateForEntity, loadOps_result_restoreSnapshot]
  · rw [findCreateForEntity_exec, loadOps_exec_restoreSnapshot]

lemma not_forall_isCreateOf_eq_false {c : OfflineOperation} (h : ops.find? (isCreateOf ref) = some c) :
    ¬ ∀ op ∈ ops, isCreateOf ref op = false := by
  intro hall
  rw [find?_isCreateOf_eq_none_iff.mpr hall] at h
  cases h

lemma isCreateOf_opType {op : OfflineOperation} (h : isCreateOf ref op = true) : op.opType = .create := by
  unfold isCreateOf at h
  simp only [decide_eq_true_eq] at h
  exact h.2.2

/-- Queueing an update after the corruption misses the queued creation of the record, and only that. -/
lemma queueUpdate_behaviour_iff (hlog : d.logFile ≠ .unparseable)
    (ref : OfflineEntityRef) (payload : Dict String Json) (dedupeKey opId : String) (now : ℕ) :
    (ApiCall.queueUpdate ref payload dedupeKey opId now).behaviour accountKey d.corruptSnapshot
      = (ApiCall.queueUpdate ref payload dedupeKey opId now).behaviour accountKey d.restoreSnapshot
      ↔ ∀ op ∈ rebuildPendingFromLog.result d, isCreateOf ref op = false := by
  set known := queueUpdateOfKnown accountKey ref payload dedupeKey opId now with hknown
  obtain ⟨hsameResult, hsameExec⟩ : known.result { d with pendingFile := .absent } = known.result d.restoreSnapshot ∧
      known.exec { d with pendingFile := .absent } = known.exec d.restoreSnapshot :=
    load_absent_eq_load_restore hlog _
  obtain ⟨hcorruptFind, hcorruptExec⟩ := findCreateForEntity_corruptSnapshot d ref
  obtain ⟨hrestoreFind, hrestoreExec⟩ := findCreateForEntity_restoreSnapshot d ref
  unfold ApiCall.behaviour ApiCall.prog queueUpdateOperation
  simp only [exec_bind, result_bind, exec_pure, result_pure, hcorruptFind,
    hcorruptExec, hrestoreFind, hrestoreExec, ← hknown, hsameResult, hsameExec]
  cases hfind : (rebuildPendingFromLog.result d).find? (isCreateOf ref) with
  | none => exact iff_of_true rfl (find?_isCreateOf_eq_none_iff.mp hfind)
  | some c =>
    refine iff_of_false (fun heq => ?_) (not_forall_isCreateOf_eq_false hfind)
    have hcreate : c.opType = .create := isCreateOf_opType (find?_some hfind)
    have hlogs := congrArg Behaviour.logFile heq
    simp only [exec_bind, exec_pure, upsertOp_exec_restoreSnapshot] at hlogs
    -- the creation is recorded in the restored log, an update or nothing in the corrupt one
    rcases queueUpdateOfKnown_cases (restoreSnapshot_present d).intact accountKey ref payload
        dedupeKey opId now with ⟨item, _, hop, hexec⟩ | ⟨item, conflict, _, _, hexec⟩ | ⟨_, hexec⟩
    · rw [hknown, hexec, loadOps_exec_restoreSnapshot, upsertOp_exec_restoreSnapshot] at hlogs
      have hops := JsonFile.append_inj hlog hlogs
      simp only [LogEvent.upsert.injEq] at hops
      have htype : (mergeFields (updateFields payload) now item).opType
          = (mergeFields (updateFields payload) now c).opType := by rw [hops]
      simp only [mergeFields] at htype
      rw [hop, hcreate] at htype
      cases htype
    · rw [hknown, hexec, loadOps_exec_restoreSnapshot] at hlogs
      exact JsonFile.append_ne hlog _ hlogs.symm
    · rw [hknown, hexec, loadOps_exec_restoreSnapshot, upsertOp_exec_restoreSnapshot] at hlogs
      have hops := JsonFile.append_inj hlog hlogs
      simp only [LogEvent.upsert.injEq] at hops
      have htype : OpType.update = c.opType := congrArg OfflineOperation.opType hops
      rw [hcreate] at htype
      cases htype

/-- Queueing a deletion after the corruption misses the queued creation of the record, and only
that. -/
lemma queueDelete_behaviour_iff (hlog : d.logFile ≠ .unparseable)
    (ref : OfflineEntityRef) (payload : Dict String Json) (dedupeKey opId : String) (now : ℕ) :
    (ApiCall.queueDelete ref payload dedupeKey opId now).behaviour accountKey d.corruptSnapshot
      = (ApiCall.queueDelete ref payload dedupeKey opId now).behaviour accountKey d.restoreSnapshot
      ↔ ∀ op ∈ rebuildPendingFromLog.result d, isCreateOf ref op = false := by
  set known := queueDeleteOfKnown accountKey ref payload dedupeKey opId now with hknown
  have hdrop := (load_absent_eq_load_restore (d := d) hlog fun ops => do
    storeOps (ops.filter fun item => !isUpdateOf ref item)
    Prog.writes ((ops.filter (isUpdateOf ref)).map fun item =>
      .appendEvent (.remove item.opId))).2
  have hsame : known.result { d with pendingFile := .absent } = known.result d.restoreSnapshot ∧
      known.exec { d with pendingFile := .absent } = known.exec d.restoreSnapshot := by
    unfold known queueDeleteOfKnown dropOps
    simp only [exec_bind (loadOps >>= _), result_bind (loadOps >>= _), hdrop, and_self]
  obtain ⟨hcorruptFind, hcorruptExec⟩ := findCreateForEntity_corruptSnapshot d ref
  obtain ⟨hrestoreFind, hrestoreExec⟩ := findCreateForEntity_restoreSnapshot d ref
  unfold ApiCall.behaviour ApiCall.prog queueDeleteOperation
  simp only [exec_bind, result_bind, exec_pure, result_pure, hcorruptFind,
    hcorruptExec, hrestoreFind, hrestoreExec, ← hknown, hsame.1, hsame.2]
  cases hfind : (rebuildPendingFromLog.result d).find? (isCreateOf ref) with
  | none => exact iff_of_true rfl (find?_isCreateOf_eq_none_iff.mp hfind)
  | some =>
    refine iff_of_false (fun heq => ?_) (not_forall_isCreateOf_eq_false hfind)
    -- a deletion is returned after the corruption, nothing when the creation is found
    have hresults := congrArg Behaviour.result heq
    simp [hknown, queueDeleteOfKnown] at hresults

lemma updateOperationStatus_of_load_nil (hresult : loadOps.result d = [])
    (hexec : loadOps.exec d = d') (opId : String) (status : OpStatus) (lastError : String) (now : ℕ) :
    (updateOperationStatus opId status lastError now).result d = none ∧
      (updateOperationStatus opId status lastError now).exec d = { d' with pendingFile := .value (.list []) } := by
  unfold updateOperationStatus storeOps
  simp only [exec_bind, result_bind, hresult, hexec, lastWithId, filter_nil, getLast?_nil, map_nil, ite_self]
  exact ⟨rfl, rfl⟩

lemma updateStatus_behaviour_iff (d : Disk) (opId : String) (status : OpStatus) (lastError : String) (now : ℕ) :
    (ApiCall.updateStatus opId status lastError now).behaviour accountKey d.corruptSnapshot
      = (ApiCall.updateStatus opId status lastError now).behaviour accountKey d.restoreSnapshot
      ↔ rebuildPendingFromLog.result d = [] := by
  obtain ⟨hcorruptResult, hcorruptExec⟩ := updateOperationStatus_of_load_nil
    (loadOps_result_corruptSnapshot d) (loadOps_exec_corruptSnapshot d) opId status lastError now
  have hempty : ∀ d' : Disk, loadOps.result { d' with pendingFile := .value (.list []) } = [] := by
    intro d'
    unfold Prog.result
    rw [loadOps_of_value rfl]
    rfl
  unfold ApiCall.behaviour ApiCall.prog
  simp only [exec_bind, result_bind, exec_pure, result_pure, hcorruptResult, hcorruptExec, hempty]
  constructor
  · intro h
    have hintact := (restoreSnapshot_present d).intact
    have hstep := updateOperationStatus_step hintact opId status lastError now
    have hqueue : setStatus opId status lastError now (rebuildPendingFromLog.result d) = [] := by
      have hq := congrArg Behaviour.queue h
      simp only [loadOps_result hstep.intact, hstep.queue, restoreSnapshot_queue] at hq
      exact hq.symm
    have hlast : lastWithId opId (rebuildPendingFromLog.result d) = none := by
      have hr := congrArg Behaviour.result h
      simp only [updateOperationStatus_result hintact, restoreSnapshot_queue, ApiResult.operation.injEq] at hr
      simpa using hr.symm
    have hnone : ∀ op ∈ rebuildPendingFromLog.result d, op.opId ≠ opId := by
      intro op hop hid
      have hnil := getLast?_eq_none_iff.mp hlast
      simpa [hid] using filter_eq_nil_iff.mp hnil op hop
    unfold setStatus at hqueue
    split at hqueue
    · rwa [filter_eq_self.mpr (by simpa using hnone)] at hqueue
    · simpa using hqueue
  · intro h
    obtain ⟨hresult, hexec⟩ := updateOperationStatus_of_load_nil
      ((loadOps_result_restoreSnapshot d).trans h) (loadOps_exec_restoreSnapshot d) opId status
      lastError now
    simp only [hresult, hexec, hempty]
    rfl

def queuedClientHistory : List ApiCall :=
  [.queueCreate ⟨.client, -1⟩ [("body", .obj [("name", .str "Amel")])] [] "" "op-1" 10]

end ImmoApp.Offline
