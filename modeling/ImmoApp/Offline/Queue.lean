import ImmoApp.Offline.OpLog

/-!
# What the journal functions do to the queue

`Disk.queue` is the queue the next call will read, whatever the files hold.  As long as the pending
snapshot is not corrupt, `loadOps` returns it and leaves the snapshot written out; every later
function is then described by what it does to the queue, with the temporary ids and the allocator
left alone.
-/

namespace ImmoApp.Offline

open OfflineOperation List Prog

def Disk.queue (d : Disk) : List OfflineOperation :=
  match d.pendingFile with
  | .value (.list entries) => (entries.filterMap id).filter isQueued
  | _ => replayLog d.logFile.events

def Disk.Intact (d : Disk) : Prop := d.pendingFile ≠ .unparseable

def Disk.Present (d : Disk) : Prop := ∃ entries, d.pendingFile = .value (.list entries)

variable {d d' d'' : Disk} {op : OfflineOperation} {items : List OfflineOperation} {opId : String}
  {f : OfflineOperation → OfflineOperation}

lemma Disk.Present.intact (h : d.Present) : d.Intact := by
  obtain ⟨_, hes⟩ := h
  simp [Disk.Intact, hes]

lemma filterMap_map_some (items : List OfflineOperation) : (items.map some).filterMap id = items := by
  simp

/-! ### Loading -/

lemma loadLogJsonl_result (d : Disk) : loadLogJsonl.result d = d.logFile.events := by
  obtain ⟨_, lf, c, t, a⟩ := d
  cases lf <;> rfl

lemma loadLogJsonl_exec (d : Disk) :
    ∃ f, loadLogJsonl.exec d = { d with logFile := f } ∧ f.events = d.logFile.events ∧
      (d.logFile ≠ .unparseable → f = d.logFile) := by
  obtain ⟨_, lf, c, t, a⟩ := d
  cases lf with
  | absent => exact ⟨.absent, rfl, rfl, fun _ => rfl⟩
  | unparseable => exact ⟨.absent, rfl, rfl, fun hne => absurd rfl hne⟩
  | value es => exact ⟨.value es, rfl, rfl, fun _ => rfl⟩

lemma rebuildPendingFromLog_result (d : Disk) : rebuildPendingFromLog.result d = replayLog d.logFile.events := by
  unfold rebuildPendingFromLog
  simp [loadLogJsonl_result]

lemma rebuildPendingFromLog_exec (d : Disk) : ∃ f, rebuildPendingFromLog.exec d
        = { d with
            logFile := f
            pendingFile := .value (.list ((replayLog d.logFile.events).map some)) } ∧
      f.events = d.logFile.events ∧ (d.logFile ≠ .unparseable → f = d.logFile) := by
  obtain ⟨f, hf, hev, hsame⟩ := loadLogJsonl_exec d
  refine ⟨f, ?_, hev, hsame⟩
  unfold rebuildPendingFromLog storeOps
  simp [loadLogJsonl_result, hf]

lemma loadOps_of_value {entries : List (Option OfflineOperation)} (h : d.pendingFile = .value (.list entries)) :
    loadOps d = ((entries.filterMap id).filter isQueued, []) := by
  obtain ⟨_, _, c, t, a⟩ := d
  cases h
  rfl

lemma loadOps_of_absent (h : d.pendingFile = .absent) : loadOps d = rebuildPendingFromLog d := by
  obtain ⟨_, _, c, t, a⟩ := d
  cases h
  rfl

lemma loadOps_of_other (h : d.pendingFile = .value .other) : loadOps d = rebuildPendingFromLog d := by
  obtain ⟨_, _, c, t, a⟩ := d
  cases h
  rfl

lemma loadOps_of_unparseable (h : d.pendingFile = .unparseable) : loadOps d = ([], [.quarantinePending]) := by
  obtain ⟨_, _, c, t, a⟩ := d
  cases h
  rfl

/-- Everything the journal functions leave alone: the temporary ids and the allocator. -/
structure SameIds (d d' : Disk) : Prop where
  /-- The map from temporary to server ids is unchanged. -/
  tempIds : d'.tempIds = d.tempIds
  allocator : d'.allocator = d.allocator

@[refl] lemma SameIds.refl (d : Disk) : SameIds d d := ⟨rfl, rfl⟩

lemma SameIds.trans (h : SameIds d d') (h' : SameIds d' d'') : SameIds d d'' :=
  ⟨h'.tempIds.trans h.tempIds, h'.allocator.trans h.allocator⟩

lemma SameIds.resolveReconciledId (h : SameIds d d') (ref : OfflineEntityRef) :
    d'.resolveReconciledId ref = d.resolveReconciledId ref := by
  unfold Disk.resolveReconciledId
  rw [h.tempIds]

lemma SameIds.parentIsResolved (h : SameIds d d') : Offline.parentIsResolved d' = Offline.parentIsResolved d := by
  funext ref
  unfold Offline.parentIsResolved
  rw [h.resolveReconciledId]

lemma SameIds.normalizeOperation (h : SameIds d d') :
    Offline.normalizeOperation d' = Offline.normalizeOperation d := by
  funext op
  unfold Offline.normalizeOperation
  rw [h.parentIsResolved]

structure Loaded (d d' : Disk) : Prop where
  present : d'.Present
  queue : d'.queue = d.queue
  events : d'.logFile.events = d.logFile.events
  logFile : d.logFile ≠ .unparseable → d'.logFile = d.logFile
  conflicts : d'.conflicts = d.conflicts
  ids : SameIds d d'

lemma queue_eq_replayLog (h : ¬ d.Present) : d.queue = replayLog d.logFile.events := by
  unfold Disk.queue
  split
  · next entries hes => exact absurd ⟨entries, hes⟩ h
  · rfl

lemma isQueued_of_mem_queue (h : op ∈ d.queue) : op.isQueued = true := by
  unfold Disk.queue at h
  split at h
  · exact (mem_filter.mp h).2
  · exact EventLog.live_of_mem_replay h

lemma filter_isQueued_queue (d : Disk) : d.queue.filter isQueued = d.queue :=
  filter_eq_self.mpr fun _ h => isQueued_of_mem_queue h

lemma queue_of_pendingFile
    (h : d.pendingFile = .value (.list (items.map some))) : d.queue = items.filter isQueued := by
  simp only [Disk.queue, h, filterMap_map_some]

private lemma rebuild_loaded (h : ¬ d.Present) :
    rebuildPendingFromLog.result d = d.queue ∧ Loaded d (rebuildPendingFromLog.exec d) := by
  obtain ⟨f, hf, hev, hsame⟩ := rebuildPendingFromLog_exec d
  rw [rebuildPendingFromLog_result, queue_eq_replayLog h, hf]
  refine ⟨rfl, ⟨⟨_, rfl⟩, ?_, hev, hsame, rfl, rfl, rfl⟩⟩
  rw [queue_of_pendingFile rfl, ← queue_eq_replayLog h, filter_isQueued_queue]

/-- Loading an intact snapshot returns the queue and leaves it written out. -/
theorem loadOps_spec (h : d.Intact) : loadOps.result d = d.queue ∧ Loaded d (loadOps.exec d) := by
  cases hp : d.pendingFile with
  | absent =>
    have hnot : ¬ d.Present := by simp [Disk.Present, hp]
    have hload := loadOps_of_absent hp
    unfold Prog.result Prog.exec Prog.trail
    rw [hload]
    exact rebuild_loaded hnot
  | unparseable => exact absurd hp h
  | value v =>
    cases v with
    | list =>
      have hload := loadOps_of_value hp
      have hexec : loadOps.exec d = d := by
        unfold Prog.exec Prog.trail
        rw [hload]
        rfl
      refine ⟨?_, ?_⟩
      · unfold Prog.result Disk.queue
        rw [hload, hp]
      · rw [hexec]
        exact ⟨⟨_, hp⟩, rfl, rfl, fun _ => rfl, rfl, SameIds.refl d⟩
    | other =>
      have hnot : ¬ d.Present := by simp [Disk.Present, hp]
      have hload := loadOps_of_other hp
      unfold Prog.result Prog.exec Prog.trail
      rw [hload]
      exact rebuild_loaded hnot

lemma loadOps_result (h : d.Intact) : loadOps.result d = d.queue := (loadOps_spec h).1

lemma loadOps_exec (h : d.Intact) : Loaded d (loadOps.exec d) := (loadOps_spec h).2

/-! ### Changes of the queue

A function that changes the queue loads it, writes the new snapshot and then appends events.
`Change d items es d'` says what holds after it; `Step d items d'` forgets the log. -/

/-- The files after the queue became `items`. -/
structure Step (d : Disk) (items : List OfflineOperation) (d' : Disk) : Prop where
  present : d'.Present
  queue : d'.queue = items
  ids : SameIds d d'

lemma Step.intact (h : Step d items d') : d'.Intact :=
  h.present.intact

lemma Step.trans {items' : List OfflineOperation} (h : Step d items d')
    (h' : Step d' items' d'') : Step d items' d'' :=
  ⟨h'.present, h'.queue, h.ids.trans h'.ids⟩

lemma Loaded.step (h : Loaded d d') : Step d d.queue d' := ⟨h.present, h.queue, h.ids⟩

/-- The files after the queue became `items` and the events `es` were recorded. -/
structure Change (d : Disk) (items : List OfflineOperation) (es : List JournalEvent) (d' : Disk) :
    Prop where
  pendingFile : d'.pendingFile = .value (.list (items.map some))
  queued : ∀ op ∈ items, op.isQueued = true
  log : d.logFile ≠ .unparseable → d'.logFile ≠ .unparseable ∧ d'.logFile.events = d.logFile.events ++ es
  ids : SameIds d d'

variable {es : List JournalEvent} {item : OfflineOperation} {status : OpStatus} {m n : ℕ}

lemma Change.step (h : Change d items es d') : Step d items d' where
  present := ⟨_, h.pendingFile⟩
  queue := by rw [queue_of_pendingFile h.pendingFile, filter_eq_self.mpr h.queued]
  ids := h.ids

private lemma applyWrites_appendEvents_file (es : List JournalEvent) (d : Disk) :
    ∃ f, applyWrites (es.map FileWrite.appendEvent) d = { d with logFile := f } := by
  induction es generalizing d with
  | nil => exact ⟨d.logFile, rfl⟩
  | cons e _ ih =>
    obtain ⟨f, hf⟩ := ih { d with logFile := d.logFile.append e }
    exact ⟨f, hf⟩

lemma change_of_exec (h : d.Intact) (hq : ∀ op ∈ items, op.isQueued = true)
    (hexec : d' = applyWrites (.pending items :: es.map FileWrite.appendEvent) (loadOps.exec d)) :
    Change d items es d' := by
  have hload := loadOps_exec h
  subst hexec
  rw [applyWrites_cons, apply_pending]
  obtain ⟨f, hf⟩ := applyWrites_appendEvents_file es
    { loadOps.exec d with pendingFile := .value (.list (items.map some)) }
  refine ⟨by rw [hf], hq, fun hlog => ?_, by rw [hf]; exact ⟨hload.ids.1, hload.ids.2⟩⟩
  have hsame := hload.logFile hlog
  obtain ⟨g, hg, hne, hev⟩ := applyWrites_appendEvents
    (d := { loadOps.exec d with pendingFile := .value (.list (items.map some)) })
    (by simpa [hsame] using hlog) es
  rw [hg]
  refine ⟨hne, ?_⟩
  simpa [hsame] using hev

def insertOp (op : OfflineOperation) (items : List OfflineOperation) : List OfflineOperation :=
  (items.filter (fun item => item.opId ≠ op.opId) ++ [op]).insertionSort le

@[simp] lemma mem_insertOp {x : OfflineOperation} :
    x ∈ insertOp op items ↔ x = op ∨ (x ∈ items ∧ x.opId ≠ op.opId) := by
  unfold insertOp
  rw [mem_insertionSort]
  simp only [mem_append, mem_filter, decide_eq_true_eq, mem_singleton]
  exact or_comm

lemma isQueued_of_mem_insertOp (hop : op.isQueued = true)
    (x : OfflineOperation) (hx : x ∈ insertOp op d.queue) : x.isQueued = true := by
  rcases mem_insertOp.mp hx with rfl | ⟨hx, _⟩
  · exact hop
  · exact isQueued_of_mem_queue hx

lemma isQueued_of_mem_filter_queue {p : OfflineOperation → Bool} (x : OfflineOperation)
    (hx : x ∈ d.queue.filter p) : x.isQueued = true :=
  isQueued_of_mem_queue (mem_filter.mp hx).1

/-- `upsertOp` inserts the operation. -/
theorem upsertOp_change (h : d.Intact) (hop : op.isQueued = true) :
    Change d (insertOp op d.queue) [.upsert op] ((upsertOp op).exec d) := by
  refine change_of_exec h (isQueued_of_mem_insertOp hop) ?_
  unfold upsertOp storeOps appendEvent
  simp [loadOps_result h, insertOp]

@[simp] lemma upsertOp_result (d : Disk) (op : OfflineOperation) : (upsertOp op).result d = op := by
  unfold upsertOp storeOps appendEvent
  simp

/-- `removeOp` drops the operation. -/
theorem removeOp_change (h : d.Intact) (opId : String) :
    Change d (d.queue.filter fun item => item.opId ≠ opId) [.remove opId] ((removeOp opId).exec d) := by
  refine change_of_exec h isQueued_of_mem_filter_queue ?_
  unfold removeOp storeOps appendEvent
  simp [loadOps_result h]

/-- `dropOps` drops the operations that satisfy the predicate. -/
theorem dropOps_change (h : d.Intact) (p : OfflineOperation → Bool) : Change d (d.queue.filter fun item => !p item)
      ((d.queue.filter p).map fun item => .remove item.opId) ((dropOps p).exec d) := by
  refine change_of_exec h isQueued_of_mem_filter_queue ?_
  unfold dropOps storeOps
  simp [loadOps_result h, Function.comp_def]

/-! ### Statuses -/

lemma normalizeOperation_eq (d : Disk) (op : OfflineOperation) : normalizeOperation d op = op ∨
      (op.status = .blocked ∧ normalizeOperation d op = { op with status := .pending }) := by
  unfold normalizeOperation
  split
  · next h => exact .inr ⟨h.1, rfl⟩
  · exact .inl rfl

lemma normalizeOperation_eq_self
    (h : (normalizeOperation d op).status = op.status) : normalizeOperation d op = op := by
  rcases normalizeOperation_eq d op with heq | ⟨hb, heq⟩
  · exact heq
  · rw [heq, hb] at h
    cases h

lemma isQueued_normalizeOperation (h : op.isQueued = true) : (normalizeOperation d op).isQueued = true := by
  rcases normalizeOperation_eq d op with heq | ⟨_, heq⟩
  · rw [heq]
    exact h
  · rw [heq]
    rfl

/-- `refreshBlockedOperations` normalizes the queue, or leaves it when nothing changes. -/
theorem refreshBlockedOperations_change (h : d.Intact) : (d.queue.map (normalizeOperation d) = d.queue ∧
      refreshBlockedOperations.exec d = loadOps.exec d) ∨
    Change d (d.queue.map (normalizeOperation d))
      ((d.queue.filter (normalizeChanges d)).map fun item => .upsert (normalizeOperation d item))
      (refreshBlockedOperations.exec d) := by
  have hnorm := (loadOps_exec h).ids.normalizeOperation
  have hchanges : normalizeChanges (loadOps.exec d) = normalizeChanges d := by
    funext op
    unfold normalizeChanges
    rw [hnorm]
  by_cases hchanged : d.queue.filter (normalizeChanges d) = []
  · left
    refine ⟨?_, ?_⟩
    · rw [filter_eq_nil_iff] at hchanged
      refine (map_congr_left fun op hop => ?_).trans (map_id _)
      exact normalizeOperation_eq_self (by simpa [normalizeChanges] using hchanged op hop)
    · unfold refreshBlockedOperations
      simp only [exec_bind, loadOps_result h, result_read, id, hchanges, exec_read, hchanged]
      rfl
  · right
    refine change_of_exec h ?_ ?_
    · intro x hx
      obtain ⟨_, hop, rfl⟩ := mem_map.mp hx
      exact isQueued_normalizeOperation (isQueued_of_mem_queue hop)
    · unfold refreshBlockedOperations storeOps
      simp only [exec_bind, loadOps_result h, result_read, id, hnorm, hchanges, exec_read, if_pos hchanged, ne_eq]
      simp [Function.comp_def]

/-- `refreshBlockedOperations` normalizes the queue. -/
theorem refreshBlockedOperations_step (h : d.Intact) :
    Step d (d.queue.map (normalizeOperation d)) (refreshBlockedOperations.exec d) := by
  rcases refreshBlockedOperations_change h with ⟨hqueue, hexec⟩ | hchange
  · rw [hqueue, hexec]
    exact (loadOps_exec h).step
  · exact hchange.step

@[simp] lemma modifyOp_self (h : item.opId = opId) : modifyOp opId f item = f item := by
  unfold modifyOp
  rw [if_pos h]

@[simp] lemma modifyOp_other (h : item.opId ≠ opId) : modifyOp opId f item = item := by
  unfold modifyOp
  rw [if_neg h]

lemma isQueued_of_mem_map_modifyOp (hf : ∀ op, op.isQueued = true → (f op).isQueued = true) (x : OfflineOperation)
    (hx : x ∈ d.queue.map (modifyOp opId f)) : x.isQueued = true := by
  obtain ⟨op, hop, rfl⟩ := mem_map.mp hx
  have hq := isQueued_of_mem_queue hop
  by_cases hid : op.opId = opId
  · rw [modifyOp_self hid]
    exact hf op hq
  · rw [modifyOp_other hid]
    exact hq

def modifyEvents (opId : String) (f : OfflineOperation → OfflineOperation)
    (items : List OfflineOperation) : List JournalEvent :=
  (lastWithId opId items).toList.map fun op => .upsert (f op)

/-- `noteOperationAttempt` counts the attempt. -/
theorem noteOperationAttempt_change (h : d.Intact) (opId errorMessage : String) (now : ℕ) :
    Change d (d.queue.map (modifyOp opId (withAttempt errorMessage now)))
      (modifyEvents opId (withAttempt errorMessage now) d.queue)
      ((noteOperationAttempt opId errorMessage now).exec d) := by
  refine change_of_exec h (isQueued_of_mem_map_modifyOp fun _ hop => hop) ?_
  unfold noteOperationAttempt storeOps appendEvent modifyEvents
  cases hlast : lastWithId opId d.queue with
  | none => simp [loadOps_result h, hlast]
  | some => simp [loadOps_result h, hlast]

/-- `updateOperationStatus` with a status that stays in the queue sets it. -/
theorem updateOperationStatus_change_of_queued (h : d.Intact) (opId : String)
    (hs : status.isFinal = false) (lastError : String) (now : ℕ) :
    Change d (d.queue.map (modifyOp opId (withStatus status lastError now)))
      (modifyEvents opId (withStatus status lastError now) d.queue)
      ((updateOperationStatus opId status lastError now).exec d) := by
  refine change_of_exec h (isQueued_of_mem_map_modifyOp fun _ _ => ?_) ?_
  · simp [isQueued, withStatus, hs]
  · unfold updateOperationStatus storeOps appendEvent modifyEvents
    cases hlast : lastWithId opId d.queue with
    | none => simp [loadOps_result h, hlast, hs]
    | some => simp [loadOps_result h, hlast, hs]

/-- `updateOperationStatus` with a final status drops the operation. -/
theorem updateOperationStatus_change_of_final (h : d.Intact) (opId : String)
    (hs : status.isFinal = true) (lastError : String) (now : ℕ) :
    Change d (d.queue.filter fun item => item.opId ≠ opId) ((lastWithId opId d.queue).toList.flatMap fun op =>
        [.upsert (withStatus status lastError now op), .remove opId])
      ((updateOperationStatus opId status lastError now).exec d) := by
  refine change_of_exec h isQueued_of_mem_filter_queue ?_
  unfold updateOperationStatus storeOps appendEvent
  cases hlast : lastWithId opId d.queue with
  | none => simp [loadOps_result h, hlast, hs]
  | some => simp [loadOps_result h, hlast, hs]

lemma updateOperationStatus_result (h : d.Intact) (opId : String) (status : OpStatus) (lastError : String) (now : ℕ) :
    (updateOperationStatus opId status lastError now).result d
      = (lastWithId opId d.queue).map (withStatus status lastError now) := by
  unfold updateOperationStatus
  cases hs : status.isFinal <;> cases hlast : lastWithId opId d.queue <;>
    simp [loadOps_result h, hlast]

def setStatus (opId : String) (status : OpStatus) (lastError : String) (now : ℕ)
    (items : List OfflineOperation) : List OfflineOperation :=
  if status.isFinal then items.filter fun item => item.opId ≠ opId
  else items.map (modifyOp opId (withStatus status lastError now))

lemma setStatus_applied (opId lastError : String) (now : ℕ) (items : List OfflineOperation) :
    setStatus opId .applied lastError now items = items.filter fun item => item.opId ≠ opId := rfl

/-- `updateOperationStatus` sets the status. -/
theorem updateOperationStatus_step (h : d.Intact) (opId : String) (status : OpStatus) (lastError : String) (now : ℕ) :
    Step d (setStatus opId status lastError now d.queue)
      ((updateOperationStatus opId status lastError now).exec d) := by
  unfold setStatus
  cases hs : status.isFinal with
  | true => simpa using (updateOperationStatus_change_of_final h opId hs lastError now).step
  | false => simpa using (updateOperationStatus_change_of_queued h opId hs lastError now).step

/-! ### Queueing -/

lemma listOperations_exec (d : Disk) : listOperations.exec d = loadOps.exec d := by
  unfold listOperations
  simp

lemma getOperation_exec (d : Disk) (opId : String) : (getOperation opId).exec d = loadOps.exec d := by
  unfold getOperation
  simp

lemma findCreateForEntity_result (h : d.Intact) (ref : OfflineEntityRef) :
    (findCreateForEntity ref).result d = d.queue.find? (isCreateOf ref) := by
  unfold findCreateForEntity
  simp [loadOps_result h]

lemma findCreateForEntity_exec (d : Disk) (ref : OfflineEntityRef) :
    (findCreateForEntity ref).exec d = loadOps.exec d := by
  unfold findCreateForEntity
  simp

lemma isFinal_computeInitialStatus (d : Disk) (refs : List OfflineEntityRef) :
    (computeInitialStatus d refs).isFinal = false := by
  unfold computeInitialStatus
  split <;> rfl

lemma isQueued_createOperation (d : Disk) (accountKey : String) (ref : OfflineEntityRef)
    (payload : Dict String Json) (parentRefs : List OfflineEntityRef) (dedupeKey opId : String)
    (now : ℕ) :
    (createOperation accountKey ref payload parentRefs dedupeKey opId now
      (computeInitialStatus d parentRefs)).isQueued = true := by
  simp [isQueued, createOperation, isFinal_computeInitialStatus]

lemma queueCreateOperation_exec (d : Disk) (accountKey : String) (ref : OfflineEntityRef)
    (payload : Dict String Json) (parentRefs : List OfflineEntityRef) (dedupeKey opId : String)
    (now : ℕ) :
    (queueCreateOperation accountKey ref payload parentRefs dedupeKey opId now).exec d
      = (upsertOp (createOperation accountKey ref payload parentRefs dedupeKey opId now
          (computeInitialStatus d parentRefs))).exec d := by
  simp [queueCreateOperation]

lemma isQueued_mergeFields (h : op.isQueued = true)
    (fields : Dict String Json) (now : ℕ) : (mergeFields fields now op).isQueued = true := h

/-- What `queueUpdateOfKnown` does, by what is queued for the record. -/
theorem queueUpdateOfKnown_cases (h : d.Intact) (accountKey : String)
    (ref : OfflineEntityRef) (payload : Dict String Json) (dedupeKey opId : String) (now : ℕ) :
    let p := queueUpdateOfKnown accountKey ref payload dedupeKey opId now
    (∃ item, d.queue.find? (isChangeOf ref) = some item ∧ item.opType = .update ∧
      p.exec d = (upsertOp (mergeFields (updateFields payload) now item)).exec (loadOps.exec d)) ∨
    (∃ item conflict, d.queue.find? (isChangeOf ref) = some item ∧ item.opType ≠ .update ∧
      p.exec d = (addConflict conflict).exec (loadOps.exec d)) ∨
    (d.queue.find? (isChangeOf ref) = none ∧
      p.exec d = (upsertOp (changeOperation accountKey ref .update payload dedupeKey opId now)).exec
        (loadOps.exec d)) := by
  intro p
  simp only [p, queueUpdateOfKnown, exec_bind, loadOps_result h]
  cases hchange : d.queue.find? (isChangeOf ref) with
  | none => exact .inr (.inr ⟨rfl, by simp⟩)
  | some item =>
    by_cases hop : item.opType = .update
    · exact .inl ⟨item, rfl, hop, by simp [hop]⟩
    · exact .inr (.inl ⟨item, _, rfl, hop, by simp only [if_neg hop, exec_bind]; rfl⟩)

/-- `queueUpdateOperation` merges into the queued creation, or leaves the update to
`queueUpdateOfKnown`. -/
theorem queueUpdateOperation_cases (h : d.Intact) (accountKey : String)
    (ref : OfflineEntityRef) (payload : Dict String Json) (dedupeKey opId : String) (now : ℕ) :
    let p := queueUpdateOperation accountKey ref payload dedupeKey opId now
    (∃ c, d.queue.find? (isCreateOf ref) = some c ∧
      p.exec d = (upsertOp (mergeFields (updateFields payload) now c)).exec (loadOps.exec d)) ∨
    (d.queue.find? (isCreateOf ref) = none ∧
      p.exec d = (queueUpdateOfKnown accountKey ref payload dedupeKey opId now).exec (loadOps.exec d)) := by
  intro p
  simp only [p, queueUpdateOperation, exec_bind, findCreateForEntity_result h, findCreateForEntity_exec]
  cases hcreate : d.queue.find? (isCreateOf ref) with
  | some c => exact .inl ⟨c, rfl, by simp⟩
  | none => exact .inr ⟨rfl, rfl⟩

/-! ### Dropping creations with what depends on them -/

/-- Nothing but operations leaving the queue happened. -/
structure Shrinks (d d' : Disk) : Prop where
  intact : d'.Intact
  queue : d'.queue.Sublist d.queue
  ids : SameIds d d'

lemma Shrinks.refl (h : d.Intact) : Shrinks d d :=
  ⟨h, List.Sublist.refl _, SameIds.refl d⟩

lemma Shrinks.trans (h : Shrinks d d') (h' : Shrinks d' d'') : Shrinks d d'' :=
  ⟨h'.intact, h'.queue.trans h.queue, h.ids.trans h'.ids⟩

lemma loadOps_shrinks (h : d.Intact) : Shrinks d (loadOps.exec d) := by
  have hload := loadOps_exec h
  refine ⟨hload.present.intact, ?_, hload.ids⟩
  rw [hload.queue]

lemma removeOp_shrinks (h : d.Intact) (opId : String) : Shrinks d ((removeOp opId).exec d) := by
  have hstep := (removeOp_change h opId).step
  refine ⟨hstep.intact, ?_, hstep.ids⟩
  rw [hstep.queue]
  exact filter_sublist

lemma cancelDependentsUpTo_shrinks (h : d.Intact) (depth : ℕ)
    (target : OfflineEntityRef) : Shrinks d ((cancelDependentsUpTo depth target).exec d) := by
  induction depth generalizing d target with
  | zero => exact Shrinks.refl h
  | succ _ ih =>
    rw [cancelDependentsUpTo, exec_bind]
    refine exec_forEach_induction _ _ (fun item _ d' hd' => ?_) (loadOps_shrinks h)
    split
    · have hremove := removeOp_shrinks hd'.intact item.opId
      rw [exec_bind]
      exact hd'.trans (hremove.trans (ih hremove.intact item.entity))
    · exact hd'

/-- The loop of one level, from a queue that lies within the one it loaded, does not depend on the
bound when it is long enough. -/
private lemma cancel_loop_depth (d₀ : Disk) {target : OfflineEntityRef}
    (hlevel : ∀ d : Disk, d.Intact → d.queue.length < d₀.queue.length → ∀ ref,
      cancelDependentsUpTo m ref d = cancelDependentsUpTo n ref d)
    (xs : List OfflineOperation) (hxs : ∀ x ∈ xs, x ∈ d₀.queue) (h : Shrinks d₀ d) :
    let body := fun (depth : ℕ) (item : OfflineOperation) =>
      if item.opType = .create ∧ target ∈ item.parentRefs then do
        removeOp item.opId
        cancelDependentsUpTo depth item.entity
      else (pure () : JournalProg Unit)
    Prog.forEach (body m) xs d = Prog.forEach (body n) xs d := by
  intro body
  induction xs generalizing d with
  | nil => rfl
  | cons x _ ih =>
    have hx : x ∈ d₀.queue := hxs x mem_cons_self
    rw [Prog.forEach, Prog.forEach]
    by_cases hdep : x.opType = .create ∧ target ∈ x.parentRefs
    · have hremove := removeOp_shrinks h.intact x.opId
      have hlen : ((removeOp x.opId).exec d).queue.length < d₀.queue.length := by
        rw [(removeOp_change h.intact x.opId).step.queue]
        have hle : (d.queue.filter fun item => decide (item.opId ≠ x.opId)).length
            ≤ (d₀.queue.filter fun item => decide (item.opId ≠ x.opId)).length :=
          (h.queue.filter _).length_le
        refine lt_of_le_of_lt hle (length_filter_lt_length_iff_exists.mpr ⟨x, hx, by simp⟩)
      have hbody : body m x d = body n x d := by
        simp only [body, if_pos hdep]
        exact bind_congr_at rfl (hlevel _ hremove.intact hlen x.entity)
      have hexec : (body m x).exec d = (cancelDependentsUpTo m x.entity).exec ((removeOp x.opId).exec d) := by
        simp only [body, if_pos hdep, exec_bind]
      refine bind_congr_at hbody (ih (fun y hy => hxs y (mem_cons_of_mem _ hy)) ?_)
      rw [hexec]
      exact h.trans (hremove.trans (cancelDependentsUpTo_shrinks hremove.intact m x.entity))
    · have hbody : ∀ depth, body depth x = pure () := fun depth => by
        simp only [body, if_neg hdep]
      rw [hbody, hbody]
      exact bind_congr_at rfl (ih (fun y hy => hxs y (mem_cons_of_mem _ hy)) h)

/-- A bound above the length of the queue does not cut the recursion short. -/
theorem cancelDependentsUpTo_depth (h : d.Intact)
    (hm : d.queue.length < m) (hn : d.queue.length < n) (target : OfflineEntityRef) :
    cancelDependentsUpTo m target d = cancelDependentsUpTo n target d := by
  induction m generalizing n d target with
  | zero => omega
  | succ m ih =>
    obtain ⟨n, rfl⟩ : ∃ k, n = k + 1 := ⟨n - 1, by omega⟩
    have hload := loadOps_shrinks h
    rw [cancelDependentsUpTo, cancelDependentsUpTo]
    refine bind_congr_at rfl ?_
    rw [loadOps_result h]
    refine cancel_loop_depth d ?_ d.queue (fun _ hx => hx) hload
    intro d' hd' hlen ref
    exact ih hd' (by omega) (by omega) ref

lemma cancelDependentTempCreates_shrinks (h : d.Intact) (target : OfflineEntityRef) :
    Shrinks d ((cancelDependentTempCreates target).exec d) :=
  cancelDependentsUpTo_shrinks h _ target

end ImmoApp.Offline
