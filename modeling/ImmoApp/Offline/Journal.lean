import ImmoApp.Offline.Queue

/-!
# The journal and the snapshot agree

Every function of the journal changes the pending snapshot and records matching events, so that
without file faults the snapshot always is the queue the log describes.  `Agrees` is that invariant;
it is preserved by each primitive change of the queue, hence by every call, hence by every sequence of
calls.
-/

namespace ImmoApp.Offline

open OfflineOperation List Prog

/-- The log parses, and the snapshot holds the queue the log describes, or has never been written. -/
structure Agrees (d : Disk) : Prop where
  log : d.logFile ≠ .unparseable
  snapshot : (d.pendingFile = .absent ∧ d.logFile.events = []) ∨
    d.pendingFile = .value (.list ((replayLog d.logFile.events).map some))

variable {d : Disk}

lemma Agrees.intact (h : Agrees d) : d.Intact := by
  unfold Disk.Intact
  rcases h.snapshot with ⟨hp, _⟩ | hp <;> simp [hp]

lemma Agrees.queue (h : Agrees d) : d.queue = replayLog d.logFile.events := by
  rcases h.snapshot with ⟨hp, _⟩ | hp
  · exact queue_eq_replayLog (by simp [Disk.Present, hp])
  · rw [queue_of_pendingFile hp]
    exact filter_eq_self.mpr fun _ hop => EventLog.live_of_mem_replay hop

lemma agrees_empty : Agrees Disk.empty := ⟨by simp [Disk.empty], Or.inl ⟨rfl, rfl⟩⟩

variable {d' : Disk} {items : List OfflineOperation}

lemma Agrees.of_change {es : List JournalEvent} (h : Agrees d) (hc : Change d items es d')
    (heq : replayLog (d.logFile.events ++ es) = items) : Agrees d' := by
  obtain ⟨hne, hev⟩ := hc.log h.log
  refine ⟨hne, .inr ?_⟩
  rw [hc.pendingFile, hev, heq]

/-! ### The primitive changes -/

section

variable (h : Agrees d)
include h

lemma Agrees.loadOps : Agrees (loadOps.exec d) := by
  rcases h.snapshot with ⟨hp, _⟩ | hp
  · obtain ⟨f, hf, _, hsame⟩ := rebuildPendingFromLog_exec d
    have hexec : Offline.loadOps.exec d = rebuildPendingFromLog.exec d := by
      unfold Prog.exec Prog.trail
      rw [loadOps_of_absent hp]
    rw [hexec, hf]
    refine ⟨?_, .inr ?_⟩
    · rw [hsame h.log]
      exact h.log
    · rw [hsame h.log]
  · have hexec : Offline.loadOps.exec d = d := by
      unfold Prog.exec Prog.trail
      rw [loadOps_of_value hp]
      rfl
    rw [hexec]
    exact h

lemma Agrees.upsertOp {op : OfflineOperation} (hop : op.isQueued = true) : Agrees ((upsertOp op).exec d) := by
  refine h.of_change (upsertOp_change h.intact hop) ?_
  rw [h.queue]
  exact EventLog.replay_append_upsert opId_eq_of_le_of_le _ hop

lemma Agrees.removeOp (opId : String) : Agrees ((removeOp opId).exec d) := by
  refine h.of_change (removeOp_change h.intact opId) ?_
  rw [h.queue]
  exact EventLog.replay_append_remove opId_eq_of_le_of_le _ opId

lemma Agrees.dropOps (p : OfflineOperation → Bool) : Agrees ((dropOps p).exec d) := by
  refine h.of_change (dropOps_change h.intact p) ?_
  rw [h.queue]
  exact EventLog.replay_append_removes opId_eq_of_le_of_le _ p

lemma Agrees.nodup_opId : (d.queue.map opId).Nodup := by
  rw [h.queue]
  exact (EventLog.canonical_replay opId isQueued le _).distinct

end

lemma filter_opId_eq_toList_lastWithId (h : (items.map opId).Nodup) (i : String) :
    items.filter (fun item => item.opId = i) = (lastWithId i items).toList := by
  have hdist : ((items.filter fun item => decide (item.opId = i)).map opId).Nodup :=
    h.sublist (filter_sublist.map _)
  have hid : ∀ x ∈ items.filter (fun item => decide (item.opId = i)), x.opId = i := by
    intro x hx
    simpa using (mem_filter.mp hx).2
  unfold lastWithId
  generalize items.filter (fun item => decide (item.opId = i)) = l at hdist hid ⊢
  rcases l with _ | ⟨x, _ | ⟨y, _⟩⟩
  · rfl
  · rfl
  · have hxy : x.opId = y.opId := (hid x (by simp)).trans (hid y (by simp)).symm
    simp [hxy] at hdist

/-- Rewriting one operation in place, without touching its identity and its place in the queue. -/
lemma Agrees.modifyOp (h : Agrees d) {i : String}
    {f : OfflineOperation → OfflineOperation}
    (hc : Change d (d.queue.map (modifyOp i f)) (modifyEvents i f d.queue) d')
    (hid : ∀ op, (f op).opId = op.opId) (hcreated : ∀ op, (f op).createdAt = op.createdAt) :
    Agrees d' := by
  have hmodId : ∀ op, (Offline.modifyOp i f op).opId = op.opId := by
    intro op
    by_cases hop : op.opId = i
    · rw [modifyOp_self hop, hid]
    · rw [modifyOp_other hop]
  have hmodCreated : ∀ op, (Offline.modifyOp i f op).createdAt = op.createdAt := by
    intro op
    by_cases hop : op.opId = i
    · rw [modifyOp_self hop, hcreated]
    · rw [modifyOp_other hop]
  have hevents : modifyEvents i f d.queue = (d.queue.filter fun item => item.opId = i).map
          fun op => .upsert (Offline.modifyOp i f op) := by
    unfold modifyEvents
    rw [filter_opId_eq_toList_lastWithId h.nodup_opId]
    refine map_congr_left fun op hop => ?_
    have hop' : op ∈ d.queue.filter fun item => item.opId = i := by
      rw [filter_opId_eq_toList_lastWithId h.nodup_opId]
      exact hop
    rw [modifyOp_self (by simpa using (mem_filter.mp hop').2)]
  refine h.of_change hc ?_
  have hqueued := hc.queued
  rw [hevents]
  rw [h.queue] at hqueued ⊢
  refine EventLog.replay_append_rewrites opId_eq_of_le_of_le _ hmodId ?_ ?_ ?_
  · exact fun a b hab => le_congr (hmodCreated a) (hmodId a) (hmodCreated b) (hmodId b) hab
  · intro op _ hop
    exact modifyOp_other (by simpa using hop)
  · intro op hop
    exact hqueued _ (mem_map_of_mem hop)

lemma Agrees.noteOperationAttempt (h : Agrees d) (opId errorMessage : String) (now : ℕ) :
    Agrees ((noteOperationAttempt opId errorMessage now).exec d) :=
  h.modifyOp (noteOperationAttempt_change h.intact opId errorMessage now) (fun _ => rfl)
    fun _ => rfl

lemma Agrees.updateOperationStatus (h : Agrees d) (opId : String) (status : OpStatus) (lastError : String) (now : ℕ) :
    Agrees ((updateOperationStatus opId status lastError now).exec d) := by
  cases hs : status.isFinal with
  | false =>
    exact h.modifyOp (updateOperationStatus_change_of_queued h.intact opId hs lastError now)
      (fun _ => rfl) fun _ => rfl
  | true =>
    refine h.of_change (updateOperationStatus_change_of_final h.intact opId hs lastError now) ?_
    cases hlast : lastWithId opId d.queue with
    | none =>
      have hnone : ∀ op ∈ d.queue, op.opId ≠ opId := by
        have hfilter := filter_opId_eq_toList_lastWithId h.nodup_opId opId
        rw [hlast] at hfilter
        intro op hop hid
        simpa [hid] using filter_eq_nil_iff.mp hfilter op hop
      rw [filter_eq_self.mpr (by simpa using hnone)]
      simpa using h.queue.symm
    | some op =>
      have hid : op.opId = opId := by
        have hmem := mem_of_getLast? hlast
        simpa using (mem_filter.mp hmem).2
      have hdead : (withStatus status lastError now op).isQueued = false := by
        simp [isQueued, withStatus, hs]
      rw [h.queue]
      have hsplit : d.logFile.events ++ (some op).toList.flatMap (fun op =>
            [LogEvent.upsert (withStatus status lastError now op), .remove opId])
          = (d.logFile.events ++ [.upsert (withStatus status lastError now op)]) ++ [.remove opId] := by simp
      rw [hsplit]
      refine (EventLog.replay_append_remove opId_eq_of_le_of_le _ opId).trans ?_
      rw [EventLog.replay_append_upsert_dead _ hdead, EventLog.replay_append_remove
        opId_eq_of_le_of_le, filter_filter]
      simp [withStatus, hid]

lemma Agrees.refreshBlockedOperations (h : Agrees d) : Agrees (refreshBlockedOperations.exec d) := by
  rcases refreshBlockedOperations_change h.intact with ⟨_, hexec⟩ | hc
  · rw [hexec]
    exact h.loadOps
  · refine h.of_change hc ?_
    have hqueued := hc.queued
    rw [h.queue] at hqueued ⊢
    have hid : ∀ op, (normalizeOperation d op).opId = op.opId := fun op => by
      rcases normalizeOperation_eq d op with heq | ⟨_, heq⟩ <;> rw [heq]
    have hcreated : ∀ op, (normalizeOperation d op).createdAt = op.createdAt := fun op => by
      rcases normalizeOperation_eq d op with heq | ⟨_, heq⟩ <;> rw [heq]
    refine EventLog.replay_append_rewrites opId_eq_of_le_of_le _ hid ?_ ?_ ?_
    · exact fun a b hab => le_congr (hcreated a) (hid a) (hcreated b) (hid b) hab
    · intro op _ hop
      exact normalizeOperation_eq_self (by simpa [normalizeChanges] using hop)
    · intro op hop
      exact hqueued _ (mem_map_of_mem hop)

/-! ### The functions built from them -/

section

variable (h : Agrees d)
include h

variable (accountKey : String) (ref : OfflineEntityRef) (payload : Dict String Json) (dedupeKey opId : String)
    (now : ℕ)

lemma Agrees.findCreateForEntity : Agrees ((findCreateForEntity ref).exec d) := by
  rw [findCreateForEntity_exec]
  exact h.loadOps

lemma Agrees.cancelDependentsUpTo (depth : ℕ)
    (target : OfflineEntityRef) : Agrees ((cancelDependentsUpTo depth target).exec d) := by
  induction depth generalizing d target with
  | zero => exact h
  | succ _ ih =>
    rw [Offline.cancelDependentsUpTo, exec_bind]
    refine exec_forEach_induction _ _ (fun item _ d' hd' => ?_) h.loadOps
    split
    · rw [exec_bind]
      exact ih (hd'.removeOp item.opId) item.entity
    · exact hd'

lemma Agrees.cancelDependentTempCreates (target : OfflineEntityRef) :
    Agrees ((cancelDependentTempCreates target).exec d) :=
  h.cancelDependentsUpTo _ target

lemma Agrees.addConflict (c : OfflineConflict) : Agrees ((addConflict c).exec d) :=
  ⟨h.log, h.snapshot⟩

lemma Agrees.queueUpdateOfKnown : Agrees ((queueUpdateOfKnown accountKey ref payload dedupeKey opId now).exec d) := by
  rcases queueUpdateOfKnown_cases h.intact accountKey ref payload dedupeKey opId now with
    ⟨item, hitem, _, hexec⟩ | ⟨_, _, _, _, hexec⟩ | ⟨_, hexec⟩
  · rw [hexec]
    have hq := isQueued_of_mem_queue (mem_of_find?_eq_some hitem)
    exact h.loadOps.upsertOp (isQueued_mergeFields hq _ _)
  · rw [hexec]
    exact h.loadOps.addConflict _
  · rw [hexec]
    exact h.loadOps.upsertOp rfl

lemma Agrees.queueUpdateOperation :
    Agrees ((queueUpdateOperation accountKey ref payload dedupeKey opId now).exec d) := by
  rcases queueUpdateOperation_cases h.intact accountKey ref payload dedupeKey opId now with
    ⟨c, hc, hexec⟩ | ⟨_, hexec⟩
  · rw [hexec]
    have hq := isQueued_of_mem_queue (mem_of_find?_eq_some hc)
    exact h.loadOps.upsertOp (isQueued_mergeFields hq _ _)
  · rw [hexec]
    exact h.loadOps.queueUpdateOfKnown accountKey ref payload dedupeKey opId now

lemma Agrees.queueDeleteOperation :
    Agrees ((queueDeleteOperation accountKey ref payload dedupeKey opId now).exec d) := by
  have hfind := h.findCreateForEntity ref
  unfold Offline.queueDeleteOperation
  rw [exec_bind]
  split
  · next c _ =>
    simp only [exec_bind, exec_pure]
    exact (hfind.removeOp c.opId).cancelDependentTempCreates ref
  · simp only [queueDeleteOfKnown, exec_bind, exec_pure]
    refine (hfind.dropOps _).upsertOp ?_
    rfl

lemma Agrees.queueGenericApiMutation (method path : String) (jsonBody params : Dict String Json)
    (headers : Dict String String) (dedupeKey label opId : String) (now : ℕ) :
    Agrees ((queueGenericApiMutation accountKey method path jsonBody params headers dedupeKey label
      opId now).exec d) := by
  unfold Offline.queueGenericApiMutation
  by_cases hkey : dedupeKey = ""
  · rw [if_neg (by simpa using hkey)]
    refine h.upsertOp ?_
    rfl
  · rw [if_pos hkey, exec_bind]
    refine (h.dropOps _).upsertOp ?_
    rfl

lemma Agrees.discardOperation : Agrees ((discardOperation opId).exec d) := by
  unfold Offline.discardOperation
  rw [exec_bind, getOperation_exec]
  have hload := h.loadOps
  split
  · exact hload
  · have hremoved := hload.removeOp opId
    rw [exec_bind]
    split
    · simp only [exec_bind, exec_pure]
      exact (hremoved.cancelDependentTempCreates _).refreshBlockedOperations
    · simp only [exec_bind, exec_pure]
      exact hremoved.refreshBlockedOperations

end

lemma agrees_clearOperationStore (d : Disk) : Agrees (clearOperationStore.exec d) :=
  ⟨by simp [clearOperationStore, storeOps], .inr rfl⟩

theorem Agrees.call (h : Agrees d) (accountKey : String) (call : ApiCall) :
    Agrees ((call.prog accountKey).exec d) := by
  cases call <;> simp only [ApiCall.prog, exec_bind, exec_pure]
  case listOperations =>
    rw [listOperations_exec]
    exact h.loadOps
  case getOperation opId =>
    rw [getOperation_exec]
    exact h.loadOps
  case queueCreate ref payload parentRefs dedupeKey opId now =>
    rw [queueCreateOperation_exec]
    exact h.upsertOp (isQueued_createOperation d accountKey ref payload parentRefs dedupeKey opId now)
  case queueUpdate ref payload dedupeKey opId now =>
    exact h.queueUpdateOperation accountKey ref payload dedupeKey opId now
  case queueDelete ref payload dedupeKey opId now =>
    exact h.queueDeleteOperation accountKey ref payload dedupeKey opId now
  case queueAction ref payload dedupeKey opId now =>
    refine h.upsertOp ?_
    rfl
  case queueGeneric method path jsonBody params headers dedupeKey label opId now =>
    exact h.queueGenericApiMutation accountKey method path jsonBody params headers dedupeKey label opId now
  case refreshBlocked => exact h.refreshBlockedOperations
  case noteAttempt opId errorMessage now => exact h.noteOperationAttempt opId errorMessage now
  case updateStatus opId status lastError now =>
    exact h.updateOperationStatus opId status lastError now
  case remove opId => exact h.removeOp opId
  case discard opId => exact h.discardOperation opId
  case clear => exact agrees_clearOperationStore d
  case recordReconciled ref serverId => exact ⟨h.log, h.snapshot⟩

/-- Every sequence of calls keeps the agreement. -/
theorem Agrees.runCalls (h : Agrees d) (accountKey : String) (calls : List ApiCall) :
    Agrees (runCalls accountKey calls d) := by
  induction calls generalizing d with
  | nil => exact h
  | cons call _ ih => exact ih (h.call accountKey call)

/-- The operations the pending snapshot file holds. -/
def Disk.snapshotOperations (d : Disk) : List OfflineOperation :=
  match d.pendingFile with
  | .value (.list entries) => entries.filterMap id
  | _ => []

/-- After any calls on an empty store, the pending snapshot holds, with their fields and in their
order, the operations that replaying the log gives. -/
theorem snapshotOperations_eq_rebuild (accountKey : String) (calls : List ApiCall) :
    (runCalls accountKey calls Disk.empty).snapshotOperations
      = rebuildPendingFromLog.result (runCalls accountKey calls Disk.empty) := by
  have hagrees := agrees_empty.runCalls accountKey calls
  rw [rebuildPendingFromLog_result]
  rcases hagrees.snapshot with ⟨hp, hev⟩ | hp
  · simp only [Disk.snapshotOperations, hp, hev]
    rfl
  · simp only [Disk.snapshotOperations, hp, filterMap_map_some]

end ImmoApp.Offline
