import ImmoApp.Offline.Client

/-!
# What a step of the client can do

The steps of the client, as they look from the requests' side: which operations are in the queue
afterwards and where they come from, which copies the replay holds, which requests left.  `Move` lists
the kinds of step; `step_move` shows that every step is one of them, so that an invariant of the client
is proved by one short case for each kind and never looks at files or programs.
-/

namespace ImmoApp.Offline

open OfflineOperation List Prog

/-- `y` is `x` with at most its bookkeeping (status, error, attempts, times) changed. -/
structure Touched (x y : OfflineOperation) : Prop where
  opId : y.opId = x.opId
  entityType : y.entityType = x.entityType
  localId : y.localId = x.localId
  opType : y.opType = x.opType
  payload : y.payload = x.payload

lemma Touched.refl (x : OfflineOperation) : Touched x x := ⟨rfl, rfl, rfl, rfl, rfl⟩

variable {x y op : OfflineOperation} {opId accountKey path dedupeKey label : String} {d d' : Disk}
  {response : ApiResponse} {s t : Client} {a : Action} {now : ℕ} {ref : OfflineEntityRef}
  {p : JournalProg (Client → Client)}

section

variable (h : Touched x y)
include h

lemma Touched.trans {z : OfflineOperation} (h' : Touched y z) :
    Touched x z :=
  ⟨h'.opId.trans h.opId, h'.entityType.trans h.entityType, h'.localId.trans h.localId,
    h'.opType.trans h.opType, h'.payload.trans h.payload⟩

lemma Touched.entity : y.entity = x.entity := by
  unfold OfflineOperation.entity
  rw [h.entityType, h.localId]

lemma Touched.body : y.body = x.body := by
  unfold OfflineOperation.body
  rw [h.payload]

lemma Touched.bodyRefs : y.bodyRefs = x.bodyRefs := by
  unfold OfflineOperation.bodyRefs
  rw [h.payload]

lemma Touched.key : y.key = x.key := by
  unfold OfflineOperation.key OfflineOperation.headers
  rw [h.payload]

end

lemma touched_normalizeOperation (d : Disk) (op : OfflineOperation) : Touched op (normalizeOperation d op) := by
  rcases normalizeOperation_eq d op with heq | ⟨_, heq⟩
  · rw [heq]
    exact Touched.refl op
  · rw [heq]
    exact ⟨rfl, rfl, rfl, rfl, rfl⟩

variable {f : OfflineOperation → OfflineOperation} {d'' : Disk} {serverId : ℤ} {body params : Dict String Json}

lemma touched_modifyOp (hf : ∀ op, Touched op (f op)) (op : OfflineOperation) : Touched op (modifyOp opId f op) := by
  by_cases hid : op.opId = opId
  · rw [modifyOp_self hid]
    exact hf op
  · rw [modifyOp_other hid]
    exact Touched.refl op

/-! ### Programs that change nothing but the bookkeeping -/

/-- The queue holds the same operations, up to their bookkeeping; the ids are unchanged. -/
structure Rewritten (d d' : Disk) : Prop where
  intact : d'.Intact
  queue : ∃ f, (∀ op, Touched op (f op)) ∧ d'.queue = d.queue.map f
  ids : SameIds d d'

lemma Rewritten.trans (h : Rewritten d d') (h' : Rewritten d' d'') : Rewritten d d'' := by
  obtain ⟨f, hf, hqueue⟩ := h.queue
  obtain ⟨g, hg, hqueue'⟩ := h'.queue
  refine ⟨h'.intact, ⟨g ∘ f, fun op => (hf op).trans (hg (f op)), ?_⟩, h.ids.trans h'.ids⟩
  rw [hqueue', hqueue, map_map]

lemma Rewritten.of_queue (hintact : d'.Intact) (hqueue : d'.queue = d.queue) (hids : SameIds d d') :
    Rewritten d d' :=
  ⟨hintact, ⟨id, Touched.refl, by rw [hqueue, map_id]⟩, hids⟩

lemma Rewritten.of_map (h : Step d (d.queue.map f) d') (hf : ∀ op, Touched op (f op)) : Rewritten d d' :=
  ⟨h.intact, ⟨f, hf, h.queue⟩, h.ids⟩

section

variable (h : d.Intact)
include h

lemma rewritten_loadOps : Rewritten d (loadOps.exec d) :=
  .of_queue (loadOps_exec h).present.intact (loadOps_exec h).queue (loadOps_exec h).ids

lemma rewritten_refreshBlockedOperations : Rewritten d (refreshBlockedOperations.exec d) :=
  .of_map (refreshBlockedOperations_step h) (touched_normalizeOperation d)

lemma rewritten_noteOperationAttempt (opId errorMessage : String) (now : ℕ) :
    Rewritten d ((noteOperationAttempt opId errorMessage now).exec d) :=
  .of_map (noteOperationAttempt_change h opId errorMessage now).step
    (touched_modifyOp fun _ => ⟨rfl, rfl, rfl, rfl, rfl⟩)

lemma rewritten_updateOperationStatus (opId : String) {status : OpStatus}
    (hstatus : status.isFinal = false) (lastError : String) (now : ℕ) :
    Rewritten d ((updateOperationStatus opId status lastError now).exec d) :=
  .of_map (updateOperationStatus_change_of_queued h opId hstatus lastError now).step
    (touched_modifyOp fun _ => ⟨rfl, rfl, rfl, rfl, rfl⟩)

lemma rewritten_addConflict (c : OfflineConflict) : Rewritten d ((addConflict c).exec d) := .of_queue h rfl ⟨rfl, rfl⟩

lemma rewritten_removeConflict (opId : String) :
    Rewritten d ((removeConflict opId).exec d) := .of_queue h rfl ⟨rfl, rfl⟩

lemma rewritten_retryIssue (opId : String) (now : ℕ) : Rewritten d ((retryIssue opId now).exec d) := by
  have hload := rewritten_loadOps h
  have hremove := rewritten_removeConflict hload.intact opId
  unfold retryIssue
  simp only [Prog.exec_bind, getOperation_exec]
  split
  · exact hload.trans hremove
  · simp only [Prog.exec_bind, Prog.exec_pure]
    exact (hload.trans hremove).trans (rewritten_updateOperationStatus hremove.intact opId rfl "" now)

lemma rewritten_handleReviewFailure (op : OfflineOperation) (message : String)
    (now : ℕ) : Rewritten d ((handleReviewFailure op message now).exec d) := by
  have hreview : OpStatus.isFinal .needsReview = false := rfl
  have hstatus := rewritten_updateOperationStatus h op.opId hreview message now
  unfold handleReviewFailure
  rw [Prog.exec_bind]
  exact hstatus.trans (rewritten_addConflict hstatus.intact _)

lemma rewritten_handleRetryableFailure (op : OfflineOperation)
    (message : String) (now : ℕ) : Rewritten d ((handleRetryableFailure op message now).exec d) := by
  have hnote := rewritten_noteOperationAttempt h op.opId message now
  unfold handleRetryableFailure
  simp only [Prog.exec_bind, Prog.exec_pure]
  exact hnote.trans (rewritten_updateOperationStatus hnote.intact op.opId rfl message now)

end

/-! ### Programs that bring in nothing new -/

/-- Every operation of the queue was there before, up to its bookkeeping; the ids are unchanged. -/
structure Quiet (d d' : Disk) : Prop where
  intact : d'.Intact
  /-- Every operation comes from one of the queue before. -/
  origin : ∀ y ∈ d'.queue, ∃ x ∈ d.queue, Touched x y
  ids : SameIds d d'

lemma Quiet.trans (h : Quiet d d') (h' : Quiet d' d'') : Quiet d d'' where
  intact := h'.intact
  origin := by
    intro z hz
    obtain ⟨y, hy, hyz⟩ := h'.origin z hz
    obtain ⟨x, hx, hxy⟩ := h.origin y hy
    exact ⟨x, hx, hxy.trans hyz⟩
  ids := h.ids.trans h'.ids

lemma Rewritten.quiet (h : Rewritten d d') : Quiet d d' := by
  obtain ⟨f, hf, hqueue⟩ := h.queue
  refine ⟨h.intact, fun y hy => ?_, h.ids⟩
  rw [hqueue] at hy
  obtain ⟨x, hx, rfl⟩ := mem_map.mp hy
  exact ⟨x, hx, hf x⟩

lemma Shrinks.quiet (h : Shrinks d d') : Quiet d d' :=
  ⟨h.intact, fun y hy => ⟨y, h.queue.subset hy, Touched.refl y⟩, h.ids⟩

lemma Quiet.refl (h : d.Intact) : Quiet d d := (Shrinks.refl h).quiet

lemma Quiet.of_filter {p : OfflineOperation → Bool} (h : Step d (d.queue.filter p) d') : Quiet d d' := by
  refine ⟨h.intact, fun y hy => ?_, h.ids⟩
  rw [h.queue] at hy
  exact ⟨y, (mem_filter.mp hy).1, Touched.refl y⟩

lemma quiet_dropOps (h : d.Intact) (p : OfflineOperation → Bool) : Quiet d ((dropOps p).exec d) :=
  Quiet.of_filter (dropOps_change h p).step

lemma quiet_updateOperationStatus (h : d.Intact) (opId : String) (status : OpStatus) (lastError : String) (now : ℕ) :
    Quiet d ((updateOperationStatus opId status lastError now).exec d) := by
  cases hstatus : status.isFinal with
  | true => exact .of_filter (updateOperationStatus_change_of_final h opId hstatus lastError now).step
  | false => exact (rewritten_updateOperationStatus h opId hstatus lastError now).quiet

lemma quiet_discardOperation (h : d.Intact) (opId : String) : Quiet d ((discardOperation opId).exec d) := by
  have hload := loadOps_shrinks h
  unfold discardOperation
  rw [Prog.exec_bind, getOperation_exec]
  split
  · exact hload.quiet
  · have hremove := removeOp_shrinks hload.intact opId
    rw [Prog.exec_bind]
    split
    · next op _ _ =>
      have hcancel := cancelDependentTempCreates_shrinks hremove.intact op.entity
      simp only [Prog.exec_bind, Prog.exec_pure]
      exact (hload.trans (hremove.trans hcancel)).quiet.trans
        (rewritten_refreshBlockedOperations hcancel.intact).quiet
    · simp only [Prog.exec_bind, Prog.exec_pure]
      exact (hload.trans hremove).quiet.trans (rewritten_refreshBlockedOperations hremove.intact).quiet

lemma quiet_handlePermanentFailure (h : d.Intact) (op : OfflineOperation)
    (message : String) (now : ℕ) : Quiet d ((handlePermanentFailure op message now).exec d) := by
  unfold handlePermanentFailure
  split
  · simp only [handleGenericPermanentFailure, Prog.exec_bind, Prog.exec_pure]
    exact quiet_updateOperationStatus h op.opId .cancelled message now
  · simp only [Prog.exec_bind, Prog.exec_pure]
    exact (rewritten_handleReviewFailure h op message now).quiet

/-- The map of temporary ids after a creation arrived. -/
def reconciledIds (d : Disk) (ref : OfflineEntityRef) (serverId : ℤ) : Dict (EntityType × ℤ) ℤ :=
  Dict.set (d.tempIds.filter fun e => 0 < e.2) (ref.entityType, ref.localId) serverId

structure Arrived (op : OfflineOperation) (serverId : ℤ) (d d' : Disk) : Prop where
  intact : d'.Intact
  /-- The operation left the queue, and nothing came in. -/
  origin : ∀ y ∈ d'.queue, y.opId ≠ op.opId ∧ ∃ x ∈ d.queue, Touched x y
  tempIds : d'.tempIds = reconciledIds d op.entity serverId
  allocator : d'.allocator = d.allocator

lemma applyCreateSuccess_arrived (h : d.Intact) (op : OfflineOperation) (serverId : ℤ)
    (now : ℕ) : Arrived op serverId d ((applyCreateSuccess op serverId now).exec d) := by
  set d₁ : Disk := { d with tempIds := reconciledIds d op.entity serverId } with hd₁
  have hrecord : (recordReconciledId op.entity serverId).exec d = d₁ := rfl
  have hintact : d₁.Intact := h
  have hdrop := updateOperationStatus_step hintact op.opId .applied "" now
  have hconflict := rewritten_removeConflict hdrop.intact op.opId
  have hrefresh := rewritten_refreshBlockedOperations hconflict.intact
  have hexec : (applyCreateSuccess op serverId now).exec d = refreshBlockedOperations.exec
      ((removeConflict op.opId).exec ((updateOperationStatus op.opId .applied "" now).exec d₁)) := by
    unfold applyCreateSuccess
    simp only [Prog.exec_bind, Prog.exec_pure, hrecord]
  have hafter := (hconflict.trans hrefresh).quiet
  rw [hexec]
  refine ⟨hafter.intact, ?_, ?_, ?_⟩
  · intro y hy
    obtain ⟨x, hx, hxy⟩ := hafter.origin y hy
    rw [hdrop.queue, setStatus_applied] at hx
    obtain ⟨hmem, hne⟩ := mem_filter.mp hx
    exact ⟨by rw [hxy.opId]; simpa using hne, x, hmem, hxy⟩
  · rw [hafter.ids.tempIds, hdrop.ids.tempIds]
  · rw [hafter.ids.allocator, hdrop.ids.allocator]

def arrivedId (op : OfflineOperation) : ApiResponse → Option ℤ
  | .ok payload =>
    if op.opType = .create ∧ op.entityType ≠ .generic then
      (createdId (mappingDict (some payload))).toOption
    else none
  | _ => none

lemma arrivedId_pos (h : arrivedId op response = some serverId) : 0 < serverId ∧ op.opType = .create := by
  cases response with
  | ok payload =>
    simp only [arrivedId] at h
    split at h
    · next hop =>
      cases hid : createdId (mappingDict (some payload)) with
      | error => simp [hid, Except.toOption] at h
      | ok =>
        simp only [hid, Except.toOption, Option.some.injEq] at h
        exact ⟨h ▸ createdId_pos hid, hop.1⟩
    · cases h
  | _ => cases h

/-- Handling a response records an arrival, or is quiet. -/
theorem finishReplay_cases (h : d.Intact) (op : OfflineOperation) (response : ApiResponse) (now : ℕ) :
    (∃ serverId, arrivedId op response = some serverId ∧
      Arrived op serverId d ((finishReplay op response now).exec d)) ∨
    (arrivedId op response = none ∧ Quiet d ((finishReplay op response now).exec d)) := by
  cases response with
  | apiError _ message =>
    refine .inr ⟨rfl, ?_⟩
    simp only [finishReplay]
    split
    · simp only [handleAuthBlock, Prog.exec_bind, Prog.exec_pure]
      exact quiet_updateOperationStatus h op.opId .blocked _ now
    · split
      · simp only [Prog.exec_bind, Prog.exec_pure]
        exact (rewritten_handleRetryableFailure h op message now).quiet
      · exact quiet_handlePermanentFailure h op message now
  | runtimeError message =>
    refine .inr ⟨rfl, ?_⟩
    simp only [finishReplay, Prog.exec_bind, Prog.exec_pure]
    exact (rewritten_handleRetryableFailure h op message now).quiet
  | notSent message =>
    refine .inr ⟨rfl, ?_⟩
    simp only [finishReplay, Prog.exec_bind, Prog.exec_pure]
    exact (rewritten_handleRetryableFailure h op message now).quiet
  | otherError message => exact .inr ⟨rfl, quiet_handlePermanentFailure h op message now⟩
  | ok payload =>
    by_cases hcreate : op.opType = .create ∧ op.entityType ≠ .generic
    · simp only [finishReplay, arrivedId, if_pos hcreate]
      cases hid : createdId (mappingDict (some payload)) with
      | error message =>
        refine .inr ⟨rfl, ?_⟩
        simp only [Prog.exec_bind, Prog.exec_pure]
        exact (rewritten_handleReviewFailure h op message now).quiet
      | ok serverId =>
        refine .inl ⟨serverId, rfl, ?_⟩
        simp only [Prog.exec_bind, Prog.exec_pure]
        exact applyCreateSuccess_arrived h op serverId now
    · refine .inr ⟨by simp only [arrivedId, if_neg hcreate], ?_⟩
      have hstatus := quiet_updateOperationStatus h op.opId .applied "" now
      simp only [finishReplay, if_neg hcreate, Prog.exec_bind, Prog.exec_pure]
      exact hstatus.trans (rewritten_removeConflict hstatus.intact op.opId).quiet

/-! ### Agreement of the journal along the steps -/

section

variable (h : Agrees d)
include h

lemma Agrees.removeConflict (opId : String) : Agrees ((removeConflict opId).exec d) :=
  ⟨h.log, h.snapshot⟩

lemma Agrees.queueCreate (accountKey : String) (r : OfflineCreateRequest)
    (opId : String) (now : ℕ) : Agrees ((queueCreate accountKey r opId now).exec d) := by
  have hallocated : Agrees ((allocateTempId r.entityType).exec d) := ⟨h.log, h.snapshot⟩
  unfold Offline.queueCreate
  simp only [Prog.exec_bind, Prog.exec_pure, queueCreateOperation_exec]
  exact hallocated.upsertOp (isQueued_createOperation _ _ _ _ _ _ _ _)

lemma Agrees.handleReviewFailure (op : OfflineOperation)
    (message : String) (now : ℕ) : Agrees ((handleReviewFailure op message now).exec d) := by
  unfold Offline.handleReviewFailure
  rw [Prog.exec_bind]
  exact (h.updateOperationStatus op.opId .needsReview message now).addConflict _

lemma Agrees.handlePermanentFailure (op : OfflineOperation)
    (message : String) (now : ℕ) : Agrees ((handlePermanentFailure op message now).exec d) := by
  unfold Offline.handlePermanentFailure
  split
  · simp only [handleGenericPermanentFailure, Prog.exec_bind, Prog.exec_pure]
    exact h.updateOperationStatus op.opId .cancelled message now
  · simp only [Prog.exec_bind, Prog.exec_pure]
    exact h.handleReviewFailure op message now

lemma Agrees.handleRetryableFailure (op : OfflineOperation)
    (message : String) (now : ℕ) : Agrees ((handleRetryableFailure op message now).exec d) := by
  unfold Offline.handleRetryableFailure
  simp only [Prog.exec_bind, Prog.exec_pure]
  exact (h.noteOperationAttempt op.opId message now).updateOperationStatus op.opId .pending message now

lemma Agrees.applyCreateSuccess (op : OfflineOperation) (serverId : ℤ)
    (now : ℕ) : Agrees ((applyCreateSuccess op serverId now).exec d) := by
  have hrecord : Agrees ((recordReconciledId op.entity serverId).exec d) := ⟨h.log, h.snapshot⟩
  unfold Offline.applyCreateSuccess
  simp only [Prog.exec_bind, Prog.exec_pure]
  exact ((hrecord.updateOperationStatus op.opId .applied "" now).removeConflict op.opId).refreshBlockedOperations

lemma Agrees.finishReplay (op : OfflineOperation) (response : ApiResponse)
    (now : ℕ) : Agrees ((finishReplay op response now).exec d) := by
  cases response with
  | apiError _ message =>
    simp only [Offline.finishReplay]
    split
    · simp only [handleAuthBlock, Prog.exec_bind, Prog.exec_pure]
      exact h.updateOperationStatus op.opId .blocked _ now
    · split
      · simp only [Prog.exec_bind, Prog.exec_pure]
        exact h.handleRetryableFailure op message now
      · exact h.handlePermanentFailure op message now
  | runtimeError message =>
    simp only [Offline.finishReplay, Prog.exec_bind, Prog.exec_pure]
    exact h.handleRetryableFailure op message now
  | notSent message =>
    simp only [Offline.finishReplay, Prog.exec_bind, Prog.exec_pure]
    exact h.handleRetryableFailure op message now
  | otherError message => exact h.handlePermanentFailure op message now
  | ok =>
    simp only [Offline.finishReplay]
    split
    · split
      · simp only [Prog.exec_bind, Prog.exec_pure]
        exact h.handleReviewFailure op _ now
      · simp only [Prog.exec_bind, Prog.exec_pure]
        exact h.applyCreateSuccess op _ now
    · simp only [Prog.exec_bind, Prog.exec_pure]
      exact (h.updateOperationStatus op.opId .applied "" now).removeConflict op.opId

lemma Agrees.createEntity (accountKey : String)
    (r : OfflineCreateRequest) (opId : String) (response : ApiResponse) (now : ℕ) :
    Agrees ((createEntity accountKey r opId response now).exec d) := by
  unfold Offline.createEntity
  rw [Prog.exec_bind, Prog.exec_read]
  split
  · simp only [Prog.exec_bind, Prog.exec_pure]
    exact h.queueCreate accountKey r opId now
  · split
    · simp only [Prog.exec_bind, Prog.exec_pure]
      exact h.queueCreate accountKey r opId now
    · exact h

lemma Agrees.updateEntity (accountKey : String) (ref : OfflineEntityRef)
    (path : String) (body : Dict String Json) (dedupeKey label opId : String)
    (response : ApiResponse) (now : ℕ) :
    Agrees ((updateEntity accountKey ref path body dedupeKey label opId response now).exec d) := by
  simp only [Offline.updateEntity]
  split
  · simp only [Prog.exec_bind, Prog.exec_pure]
    exact h.queueUpdateOperation accountKey ref _ dedupeKey opId now
  · split
    · simp only [Prog.exec_bind, Prog.exec_pure]
      exact h.queueUpdateOperation accountKey ref _ dedupeKey opId now
    · exact h

lemma Agrees.deleteEntity (accountKey : String) (ref : OfflineEntityRef)
    (path : String) (params : Dict String Json) (dedupeKey label opId : String)
    (response : ApiResponse) (now : ℕ) :
    Agrees ((deleteEntity accountKey ref path params dedupeKey label opId response now).exec d) := by
  simp only [Offline.deleteEntity]
  split
  · simp only [Prog.exec_bind, Prog.exec_pure]
    exact h.queueDeleteOperation accountKey ref _ dedupeKey opId now
  · split
    · simp only [Prog.exec_bind, Prog.exec_pure]
      exact h.queueDeleteOperation accountKey ref _ dedupeKey opId now
    · exact h

lemma Agrees.genericMutation (accountKey method path : String)
    (body params : Dict String Json) (dedupeKey label opId : String) (response : ApiResponse)
    (now : ℕ) :
    Agrees ((genericMutation accountKey method path body params dedupeKey label opId response now).exec d) := by
  simp only [Offline.genericMutation]
  split
  · simp only [Prog.exec_bind, Prog.exec_pure]
    exact h.queueGenericApiMutation accountKey method path body params [] dedupeKey label opId now
  · exact h

lemma Agrees.retryIssue (opId : String) (now : ℕ) : Agrees ((retryIssue opId now).exec d) := by
  unfold Offline.retryIssue
  simp only [Prog.exec_bind, getOperation_exec]
  split
  · exact h.loadOps.removeConflict opId
  · simp only [Prog.exec_bind, Prog.exec_pure]
    exact (h.loadOps.removeConflict opId).updateOperationStatus opId .pending "" now

lemma Agrees.discardIssue (opId : String) : Agrees ((discardIssue opId).exec d) := by
  unfold Offline.discardIssue
  simp only [Prog.exec_bind, Prog.exec_pure]
  exact (h.removeConflict opId).discardOperation opId

end

/-! ### The kinds of step -/

/-- `y` is `x` up to its body and its bookkeeping. -/
structure Rebodied (x y : OfflineOperation) : Prop where
  opId : y.opId = x.opId
  entity : y.entity = x.entity
  opType : y.opType = x.opType
  payload : ∀ k, k ≠ "body" → y.payload.get? k = x.payload.get? k

lemma rebodied_mergeFields (fields : Dict String Json) (now : ℕ) (op : OfflineOperation) :
    Rebodied op (mergeFields fields now op) := by
  refine ⟨rfl, rfl, rfl, fun k hk => ?_⟩
  simp [mergeFields, hk]

lemma Rebodied.key (h : Rebodied x y) : y.key = x.key := by
  unfold OfflineOperation.key OfflineOperation.headers
  rw [h.payload "headers" (by decide)]

lemma Rebodied.bodyRefs (h : Rebodied x y) : y.bodyRefs = x.bodyRefs := by
  unfold OfflineOperation.bodyRefs
  rw [h.payload "body_refs" (by decide)]

lemma body_mergeFields (fields : Dict String Json) (now : ℕ) (op : OfflineOperation) :
    (mergeFields fields now op).body = op.body.update fields := by
  simp [OfflineOperation.body, mergeFields, mappingDict, Json.fields?]

/-- The creation an action merges fields into, with the fields. -/
def Action.merge? (s : Client) : Action → Option (OfflineOperation × Dict String Json)
  | .updateEntity ref path body _ label _ response _ =>
    if ref.localId < 0 ∨ response.isRetryable = true then
      (s.disk.queue.find? (isCreateOf ref)).map
        fun c => (c, updateFields (updatePayload path body label))
    else none
  | _ => none

/-- The requests that left: nothing new, or one request without a key. -/
def PlainEmitted (s t : Client) : Prop :=
  t.emitted = s.emitted ∨ ∃ r, r.key = none ∧ t.emitted = s.emitted ++ [r]

def Disk.lastTempId (d : Disk) (entityType : EntityType) : ℤ := (d.allocator.get? entityType).getD 0

inductive Move (accountKey : String) (s : Client) (a : Action) (t : Client) : Prop where
  /-- Nothing new is queued, taken or sent. -/
  | quiet (disk : Quiet s.disk t.disk) (copies : t.phase.copies.Sublist s.phase.copies)
      (attempt : t.phase.attempt = none ∨ (t.phase.attempt = s.phase.attempt ∧ t.phase.copies = s.phase.copies))
      (emitted : PlainEmitted s t) (edits : t.edits = s.edits) (usedIds : s.usedIds ⊆ t.usedIds)
  /-- An update, a deletion or a generic mutation is queued, or merged into a queued one that is not
  a creation. -/
  | changed (intact : t.disk.Intact) (ids : SameIds s.disk t.disk)
      (origin : ∀ y ∈ t.disk.queue, (∃ x ∈ s.disk.queue, Touched x y) ∨ (y.opType ≠ .create ∧
          ((y.opId ∉ s.usedIds ∧ y.opId ∈ t.usedIds ∧ y.key = none) ∨ ∃ x ∈ s.disk.queue, Rebodied x y)))
      (phase : t.phase = s.phase) (emitted : PlainEmitted s t)
      (edits : t.edits = s.edits ∨ ∃ ref fields, (∀ x ∈ s.disk.queue, isCreateOf ref x = false) ∧
          t.edits = s.edits.set ref ((s.editsOf ref).update fields))
      (usedIds : s.usedIds ⊆ t.usedIds)
  | attempted (r : OfflineCreateRequest) (opId : String) (fresh : opId ∉ s.usedIds)
      (disk : t.disk = s.disk) (phase : t.phase = s.phase)
      (emitted : t.emitted = s.emitted ∨ ∃ req, firstAttempt s.disk accountKey r opId = some req ∧
        t.emitted = s.emitted ++ [req])
      (edits : t.edits = s.edits) (usedIds : t.usedIds = s.usedIds ++ [opId])
  /-- The creation of a record is queued, perhaps after a first attempt. -/
  | created (r : OfflineCreateRequest) (opId : String) (c : OfflineOperation)
      (fresh : opId ∉ s.usedIds) (intact : t.disk.Intact)
      (origin : ∀ y ∈ t.disk.queue, y ∈ s.disk.queue ∨ y = c)
      (opIdEq : c.opId = opId) (opType : c.opType = .create)
      (entityType : c.entityType = r.entityType)
      (payload : c.payload = createPayload accountKey r opId)
      (localIdNeg : c.localId < 0) (localIdLt : c.localId < s.disk.lastTempId r.entityType)
      (allocator : t.disk.allocator = s.disk.allocator.set r.entityType c.localId)
      (tempIds : t.disk.tempIds = s.disk.tempIds) (phase : t.phase = s.phase)
      (emitted : t.emitted = s.emitted ∨ ∃ req, firstAttempt s.disk accountKey r opId = some req ∧
        t.emitted = s.emitted ++ [req])
      (edits : t.edits = s.edits.set c.entity []) (usedIds : t.usedIds = s.usedIds ++ [opId])
  | merged (c : OfflineOperation) (fields : Dict String Json) (now : ℕ)
      (merge : a.merge? s = some (c, fields)) (mem : c ∈ s.disk.queue)
      (opType : c.opType = .create) (intact : t.disk.Intact) (ids : SameIds s.disk t.disk)
      (origin : ∀ y ∈ t.disk.queue, y = mergeFields fields now c ∨ (y ∈ s.disk.queue ∧ y.opId ≠ c.opId))
      (phase : t.phase = s.phase) (emitted : PlainEmitted s t)
      (edits : t.edits = s.edits.set c.entity ((s.editsOf c.entity).update fields))
      (usedIds : s.usedIds ⊆ t.usedIds)
  /-- The replay takes copies of the ready operations. -/
  | taken (disk : Quiet s.disk t.disk) (held : s.phase.copies = [])
      (copies : ∀ y ∈ t.phase.copies, ∃ x ∈ s.disk.queue, Touched x y)
      (nodup : (t.phase.copies.map OfflineOperation.opId).Nodup) (attempt : t.phase.attempt = none)
      (emitted : t.emitted = s.emitted) (edits : t.edits = s.edits) (usedIds : t.usedIds = s.usedIds)
  | resolved (op : OfflineOperation) (req : ApiRequest) (disk : t.disk = s.disk)
      (copies : t.phase.copies = s.phase.copies) (mem : op ∈ s.phase.copies)
      (attempt : t.phase.attempt = some (op, req))
      (request : resolveRequestPayload s.disk op = some req)
      (emitted : t.emitted = s.emitted) (edits : t.edits = s.edits) (usedIds : t.usedIds = s.usedIds)
  | sent (op : OfflineOperation) (req : ApiRequest) (disk : t.disk = s.disk)
      (copies : t.phase.copies = s.phase.copies) (attempt : s.phase.attempt = some (op, req))
      (attempt' : t.phase.attempt = some (op, req)) (emitted : t.emitted = s.emitted ++ [req])
      (edits : t.edits = s.edits) (usedIds : t.usedIds = s.usedIds)
  | arrived (op : OfflineOperation) (serverId : ℤ) (pos : 0 < serverId) (opType : op.opType = .create)
      (disk : Arrived op serverId s.disk t.disk)
      (copies : s.phase.copies = op :: t.phase.copies) (attempt : t.phase.attempt = none)
      (emitted : t.emitted = s.emitted) (edits : t.edits = s.edits) (usedIds : t.usedIds = s.usedIds)

/-! ### Every step is one of them -/

@[simp] lemma emit_disk (s : Client) (r : ApiRequest) (resp : ApiResponse) :
    (s.emit r resp).disk = s.disk := by cases resp <;> rfl
@[simp] lemma emit_phase (s : Client) (r : ApiRequest) (resp : ApiResponse) :
    (s.emit r resp).phase = s.phase := by cases resp <;> rfl
@[simp] lemma emit_edits (s : Client) (r : ApiRequest) (resp : ApiResponse) :
    (s.emit r resp).edits = s.edits := by cases resp <;> rfl
@[simp] lemma emit_usedIds (s : Client) (r : ApiRequest) (resp : ApiResponse) :
    (s.emit r resp).usedIds = s.usedIds := by cases resp <;> rfl

lemma emit_emitted (s : Client) (r : ApiRequest) (resp : ApiResponse) :
    (s.emit r resp).emitted = s.emitted ∨ (s.emit r resp).emitted = s.emitted ++ [r] := by
  cases resp <;> simp [Client.emit]

lemma plainRequest_key (method path : String) (body params : Dict String Json) :
    (plainRequest method path body params).key = none := rfl

def Disk.nextTempId (d : Disk) (entityType : EntityType) : ℤ :=
  if d.lastTempId entityType ≤ -1 then d.lastTempId entityType - 1 else -1

lemma Disk.nextTempId_neg (d : Disk) (entityType : EntityType) : d.nextTempId entityType < 0 := by
  unfold Disk.nextTempId
  split <;> omega

lemma Disk.nextTempId_lt (d : Disk) (entityType : EntityType) :
    d.nextTempId entityType < d.lastTempId entityType := by
  unfold Disk.nextTempId
  split <;> omega

def queuedCreate (accountKey : String) (d : Disk) (r : OfflineCreateRequest) (opId : String)
    (now : ℕ) : OfflineOperation :=
  createOperation accountKey ⟨r.entityType, d.nextTempId r.entityType⟩
    (createPayload accountKey r opId) (collectParentRefs r)
    (idempotencyKey accountKey r.entityType opId) opId now
    (computeInitialStatus d (collectParentRefs r))

lemma queueCreate_result (accountKey : String) (d : Disk) (r : OfflineCreateRequest) (opId : String) (now : ℕ) :
    (queueCreate accountKey r opId now).result d = (queuedCreate accountKey d r opId now).entity := rfl

lemma queueCreate_step (h : d.Intact) (accountKey : String) (r : OfflineCreateRequest) (opId : String) (now : ℕ) :
    Step { d with allocator := d.allocator.set r.entityType (d.nextTempId r.entityType) }
      (insertOp (queuedCreate accountKey d r opId now) d.queue)
      ((queueCreate accountKey r opId now).exec d) := by
  set d₁ : Disk := { d with allocator := d.allocator.set r.entityType (d.nextTempId r.entityType) } with hd₁
  have hexec : (queueCreate accountKey r opId now).exec d
      = (upsertOp (queuedCreate accountKey d r opId now)).exec d₁ := by
    unfold queueCreate
    rw [Prog.exec_bind, Prog.exec_bind, Prog.exec_pure, queueCreateOperation_exec]
    rfl
  rw [hexec]
  exact (upsertOp_change (d := d₁) h (isQueued_createOperation d _ _ _ _ _ _ _)).step

lemma Move.of_queueCreate (h : s.disk.Intact) (r : OfflineCreateRequest) (opId : String) (now : ℕ)
    (fresh : opId ∉ s.usedIds) (disk : t.disk = (queueCreate accountKey r opId now).exec s.disk)
    (phase : t.phase = s.phase)
    (emitted : t.emitted = s.emitted ∨ ∃ req, firstAttempt s.disk accountKey r opId = some req ∧
      t.emitted = s.emitted ++ [req])
    (edits : t.edits = s.edits.set (queuedCreate accountKey s.disk r opId now).entity [])
    (usedIds : t.usedIds = s.usedIds ++ [opId]) : Move accountKey s a t := by
  have hstep := queueCreate_step h accountKey r opId now
  rw [← disk] at hstep
  refine Move.created r opId (queuedCreate accountKey s.disk r opId now) fresh hstep.intact ?_ rfl
    rfl rfl rfl (s.disk.nextTempId_neg r.entityType) (s.disk.nextTempId_lt r.entityType)
    hstep.ids.allocator hstep.ids.tempIds phase emitted edits usedIds
  intro y hy
  rw [hstep.queue] at hy
  rcases mem_insertOp.mp hy with rfl | ⟨hy, _⟩
  · exact .inr rfl
  · exact .inl hy

lemma move_createEntity (h : s.disk.Intact)
    {r : OfflineCreateRequest} (fresh : opId ∉ s.usedIds)
    (ht : (createEntity accountKey r opId response now).result s.disk
      { s with disk := (createEntity accountKey r opId response now).exec s.disk } = t) :
    Move accountKey s a t := by
  unfold createEntity at ht
  simp only [Prog.result_bind, Prog.exec_bind, Prog.result_read, Prog.exec_read] at ht
  generalize hatt : (if (collectParentRefs r).all fun ref =>
      (s.disk.resolveReconciledId ref).isSome then firstAttempt s.disk accountKey r opId
    else none) = attempt at ht
  cases attempt with
  | none =>
    simp only [Prog.result_bind, Prog.exec_bind, Prog.result_pure, Prog.exec_pure, queueCreate_result] at ht
    subst ht
    exact Move.of_queueCreate h r opId now fresh rfl rfl (.inl rfl) rfl rfl
  | some req =>
    have hreq : firstAttempt s.disk accountKey r opId = some req := by
      split at hatt
      · exact hatt
      · cases hatt
    by_cases hretry : response.isRetryable = true
    · simp only [if_pos hretry, Prog.result_bind, Prog.exec_bind, Prog.result_pure,
        Prog.exec_pure, queueCreate_result] at ht
      subst ht
      refine Move.of_queueCreate h r opId now fresh (by simp [Client.use]) (by simp [Client.use]) ?_
        rfl (by simp [Client.use])
      rcases emit_emitted (Client.use { s with
        disk := (queueCreate accountKey r opId now).exec s.disk } opId) req response with he | he
      · exact .inl he
      · exact .inr ⟨req, hreq, he⟩
    · simp only [if_neg hretry, Prog.result_pure, Prog.exec_pure] at ht
      subst ht
      refine Move.attempted r opId fresh (by simp [Client.use]) (by simp [Client.use]) ?_
        (by simp [Client.use]) (by simp [Client.use])
      rcases emit_emitted (Client.use s opId) req response with he | he
      · exact .inl he
      · exact .inr ⟨req, hreq, he⟩

lemma isCreateOf_iff : isCreateOf ref op = true ↔ op.entity = ref ∧ op.opType = .create := by
  unfold isCreateOf OfflineOperation.entity
  obtain ⟨_, _⟩ := ref
  simp [and_assoc]

lemma upsertOp_loadOps_step (h : d.Intact) (hop : op.isQueued = true) :
    Step d (insertOp op d.queue) ((upsertOp op).exec (loadOps.exec d)) := by
  have hload := loadOps_exec h
  have hstep := (upsertOp_change hload.present.intact hop).step
  rw [hload.queue] at hstep
  exact hload.step.trans hstep

lemma Move.of_queueUpdate (h : s.disk.Intact) (ref : OfflineEntityRef) (path : String) (body : Dict String Json)
    (dedupeKey label opId : String) (now : ℕ) (fresh : opId ∉ s.usedIds) (hmerge : a.merge? s =
      (s.disk.queue.find? (isCreateOf ref)).map
      fun c => (c, updateFields (updatePayload path body label)))
    (disk : t.disk = (queueUpdateOperation accountKey ref (updatePayload path body label) dedupeKey
      opId now).exec s.disk)
    (phase : t.phase = s.phase) (emitted : PlainEmitted s t)
    (edits : t.edits = s.edits.set ref ((s.editsOf ref).update (updateFields (updatePayload path body label))))
    (usedIds : t.usedIds = s.usedIds ++ [opId]) : Move accountKey s a t := by
  have hused : s.usedIds ⊆ t.usedIds := by simp [usedIds]
  have hload := loadOps_exec h
  rcases queueUpdateOperation_cases h accountKey ref (updatePayload path body label) dedupeKey opId
      now with ⟨c, hc, hexec⟩ | ⟨hnone, hexec⟩
  · obtain ⟨hentity, hcreate⟩ := isCreateOf_iff.mp (find?_some hc)
    have hmem := mem_of_find?_eq_some hc
    have hstep := upsertOp_loadOps_step h
      (isQueued_mergeFields (isQueued_of_mem_queue hmem) (updateFields (updatePayload path body label)) now)
    rw [← hexec, ← disk] at hstep
    refine Move.merged c (updateFields (updatePayload path body label)) now ?_ hmem hcreate
      hstep.intact hstep.ids ?_ phase emitted ?_ hused
    · rw [hmerge, hc]
      rfl
    · intro y hy
      rw [hstep.queue] at hy
      exact mem_insertOp.mp hy
    · rw [hentity]
      exact edits
  · have hfree : ∀ x ∈ s.disk.queue, isCreateOf ref x = false := by simpa using hnone
    have hedits : t.edits = s.edits ∨ ∃ ref fields, (∀ x ∈ s.disk.queue, isCreateOf ref x = false) ∧
          t.edits = s.edits.set ref ((s.editsOf ref).update fields) :=
      .inr ⟨ref, updateFields (updatePayload path body label), hfree, edits⟩
    rcases queueUpdateOfKnown_cases hload.present.intact accountKey ref (updatePayload path body label)
        dedupeKey opId now with ⟨item, hitem, hop, hknown⟩ | ⟨_, conflict, _, _, hknown⟩ | ⟨_, hknown⟩
    · have hmem := mem_of_find?_eq_some hitem
      have hstep := hload.step.trans (upsertOp_loadOps_step hload.present.intact
        (isQueued_mergeFields (isQueued_of_mem_queue hmem) (updateFields (updatePayload path body label)) now))
      rw [hload.queue] at hstep hmem
      rw [← hknown, ← hexec, ← disk] at hstep
      refine Move.changed hstep.intact hstep.ids (fun y hy => ?_) phase emitted hedits hused
      rw [hstep.queue] at hy
      rcases mem_insertOp.mp hy with rfl | ⟨hy, _⟩
      · exact .inr ⟨by simp [mergeFields, hop], .inr ⟨item, hmem, rebodied_mergeFields _ _ _⟩⟩
      · exact .inl ⟨y, hy, Touched.refl y⟩
    · have hload' := loadOps_shrinks hload.present.intact
      have hquiet := ((loadOps_shrinks h).trans hload').quiet.trans
        (rewritten_addConflict hload'.intact conflict).quiet
      rw [← hknown, ← hexec, ← disk] at hquiet
      exact Move.changed hquiet.intact hquiet.ids (fun y hy => .inl (hquiet.origin y hy)) phase emitted hedits hused
    · have hnew : (changeOperation accountKey ref .update (updatePayload path body label) dedupeKey
          opId now).isQueued = true := rfl
      have hstep := hload.step.trans (upsertOp_loadOps_step hload.present.intact hnew)
      rw [hload.queue, ← hknown, ← hexec, ← disk] at hstep
      refine Move.changed hstep.intact hstep.ids (fun y hy => ?_) phase emitted hedits hused
      rw [hstep.queue] at hy
      rcases mem_insertOp.mp hy with rfl | ⟨hy, _⟩
      · refine .inr ⟨by simp [changeOperation], .inl ⟨fresh, ?_, rfl⟩⟩
        simp [usedIds, changeOperation]
      · exact .inl ⟨y, hy, Touched.refl y⟩

lemma PlainEmitted.of_emit {u : Client} (h : u.emitted = s.emitted) (method path : String)
    (body params : Dict String Json) (response : ApiResponse) :
    PlainEmitted s (u.emit (plainRequest method path body params) response) := by
  rcases emit_emitted u (plainRequest method path body params) response with he | he
  · exact .inl (he.trans h)
  · exact .inr ⟨_, plainRequest_key method path body params, by rw [he, h]⟩

lemma origin_upsertOp (h : Quiet d d') (hop : op.isQueued = true) :
    let e := (upsertOp op).exec d'
    e.Intact ∧ SameIds d e ∧ ∀ y ∈ e.queue, (∃ x ∈ d.queue, Touched x y) ∨ y = op := by
  have hstep := (upsertOp_change h.intact hop).step
  refine ⟨hstep.intact, h.ids.trans hstep.ids, fun y hy => ?_⟩
  rw [hstep.queue] at hy
  rcases mem_insertOp.mp hy with rfl | ⟨hy, _⟩
  · exact .inr rfl
  · exact .inl (h.origin y hy)

lemma queueDeleteOperation_origin (h : d.Intact) (accountKey : String)
    (ref : OfflineEntityRef) (payload : Dict String Json) (dedupeKey opId : String) (now : ℕ) :
    let e := (queueDeleteOperation accountKey ref payload dedupeKey opId now).exec d
    e.Intact ∧ SameIds d e ∧ ∀ y ∈ e.queue, (∃ x ∈ d.queue, Touched x y) ∨
      y = changeOperation accountKey ref .delete payload dedupeKey opId now := by
  intro e
  have hload := loadOps_shrinks h
  simp only [e, queueDeleteOperation, Prog.exec_bind, findCreateForEntity_exec]
  cases hfind : (findCreateForEntity ref).result d with
  | some c =>
    have hremove := removeOp_shrinks hload.intact c.opId
    have hcancel := cancelDependentTempCreates_shrinks hremove.intact ref
    have hquiet := (hload.trans (hremove.trans hcancel)).quiet
    simp only [Prog.exec_bind, Prog.exec_pure]
    exact ⟨hquiet.intact, hquiet.ids, fun y hy => .inl (hquiet.origin y hy)⟩
  | none =>
    simp only [queueDeleteOfKnown, Prog.exec_bind, Prog.exec_pure]
    refine origin_upsertOp (hload.quiet.trans (quiet_dropOps hload.intact _)) ?_
    rfl

lemma opTypeOfMethod_ne_create (method : String) : opTypeOfMethod method ≠ .create := by
  unfold opTypeOfMethod
  split
  · simp
  · split <;> simp

lemma queueGenericApiMutation_origin (h : d.Intact) (accountKey method path : String)
    (body params : Dict String Json) (dedupeKey label opId : String) (now : ℕ) :
    let e := (queueGenericApiMutation accountKey method path body params [] dedupeKey label opId now).exec d
    e.Intact ∧ SameIds d e ∧ ∀ y ∈ e.queue, (∃ x ∈ d.queue, Touched x y) ∨
      (y.opType ≠ .create ∧ y.opId = opId ∧ y.key = none) := by
  intro e
  have hq : (genericOperation accountKey method path body params [] dedupeKey label opId now).isQueued = true := rfl
  have hnew : ∀ {d' : Disk}, Quiet d d' →
      let e := (upsertOp (genericOperation accountKey method path body params [] dedupeKey label opId now)).exec d'
      e.Intact ∧ SameIds d e ∧ ∀ y ∈ e.queue, (∃ x ∈ d.queue, Touched x y) ∨
        (y.opType ≠ .create ∧ y.opId = opId ∧ y.key = none) := by
    intro d' hd'
    obtain ⟨hintact, hids, horigin⟩ := origin_upsertOp hd' hq
    refine ⟨hintact, hids, fun y hy => (horigin y hy).imp_right ?_⟩
    rintro rfl
    exact ⟨opTypeOfMethod_ne_create _, rfl, rfl⟩
  simp only [e, queueGenericApiMutation]
  by_cases hkey : dedupeKey = ""
  · rw [if_neg (by simpa using hkey)]
    exact hnew (Quiet.refl h)
  · rw [if_pos hkey, Prog.exec_bind]
    exact hnew (quiet_dropOps h _)

lemma move_updateEntity (h : s.disk.Intact) (fresh : opId ∉ s.usedIds)
    (ht : (updateEntity accountKey ref path body dedupeKey label opId response now).result s.disk
      { s with disk := (updateEntity accountKey ref path body dedupeKey label opId response
          now).exec s.disk } = t) :
    Move accountKey s (.updateEntity ref path body dedupeKey label opId response now) t := by
  simp only [updateEntity] at ht
  by_cases hneg : ref.localId < 0
  · simp only [if_pos hneg, Prog.result_bind, Prog.exec_bind, Prog.result_pure,
      Prog.exec_pure] at ht
    subst ht
    refine Move.of_queueUpdate h ref path body dedupeKey label opId now fresh ?_ rfl rfl (.inl rfl) rfl rfl
    simp [Action.merge?, hneg]
  · by_cases hretry : response.isRetryable = true
    · simp only [if_neg hneg, if_pos hretry, Prog.result_bind, Prog.exec_bind, Prog.result_pure,
        Prog.exec_pure] at ht
      subst ht
      refine Move.of_queueUpdate h ref path body dedupeKey label opId now fresh ?_
        (by simp [Client.edit, Client.use]) (by simp [Client.edit, Client.use])
        (PlainEmitted.of_emit rfl "PUT" path body [] response)
        (by simp [Client.edit, Client.use, Client.editsOf]) (by simp [Client.edit, Client.use])
      simp [Action.merge?, hretry]
    · simp only [if_neg hneg, if_neg hretry, Prog.result_pure, Prog.exec_pure] at ht
      subst ht
      refine Move.quiet ?_ (by simp [Client.use]) (by simp [Client.use])
        (PlainEmitted.of_emit rfl "PUT" path body [] response) (by simp [Client.use])
        (by simp [Client.use])
      simpa [Client.use] using Quiet.refl h

lemma Move.of_origin (fresh : opId ∉ s.usedIds) (intact : t.disk.Intact) (ids : SameIds s.disk t.disk)
    (origin : ∀ y ∈ t.disk.queue, (∃ x ∈ s.disk.queue, Touched x y) ∨
      (y.opType ≠ .create ∧ y.opId = opId ∧ y.key = none))
    (phase : t.phase = s.phase) (emitted : PlainEmitted s t) (edits : t.edits = s.edits)
    (usedIds : t.usedIds = s.usedIds ++ [opId]) : Move accountKey s a t := by
  refine Move.changed intact ids (fun y hy => ?_) phase emitted (.inl edits) (by simp [usedIds])
  rcases origin y hy with hold | ⟨hop, hid, hkey⟩
  · exact .inl hold
  · exact .inr ⟨hop, .inl ⟨hid ▸ fresh, by simp [usedIds, hid], hkey⟩⟩

lemma move_deleteEntity (h : s.disk.Intact) (fresh : opId ∉ s.usedIds)
    (ht : (deleteEntity accountKey ref path params dedupeKey label opId response now).result s.disk
      { s with disk := (deleteEntity accountKey ref path params dedupeKey label opId response
          now).exec s.disk } = t) : Move accountKey s a t := by
  have hdelete := queueDeleteOperation_origin h accountKey ref (deletePayload path params label) dedupeKey opId now
  have hnew : ∀ y, y = changeOperation accountKey ref .delete (deletePayload path params label)
      dedupeKey opId now → y.opType ≠ .create ∧ y.opId = opId ∧ y.key = none := by
    rintro y rfl
    exact ⟨by simp [changeOperation], rfl, rfl⟩
  obtain ⟨hintact, hids, horigin⟩ := hdelete
  have horigin' := fun y hy => (horigin y hy).imp_right (hnew y)
  simp only [deleteEntity] at ht
  by_cases hneg : ref.localId < 0
  · simp only [if_pos hneg, Prog.result_bind, Prog.exec_bind, Prog.result_pure,
      Prog.exec_pure] at ht
    subst ht
    exact Move.of_origin fresh hintact hids horigin' rfl (.inl rfl) rfl rfl
  · by_cases hretry : response.isRetryable = true
    · simp only [if_neg hneg, if_pos hretry, Prog.result_bind, Prog.exec_bind, Prog.result_pure,
        Prog.exec_pure] at ht
      subst ht
      exact Move.of_origin fresh (by simpa [Client.use] using hintact) (by simpa [Client.use] using hids)
        (by simpa [Client.use] using horigin') (by simp [Client.use])
        (PlainEmitted.of_emit rfl "DELETE" path [] params response) (by simp [Client.use])
        (by simp [Client.use])
    · simp only [if_neg hneg, if_neg hretry, Prog.result_pure, Prog.exec_pure] at ht
      subst ht
      refine Move.quiet ?_ (by simp [Client.use]) (by simp [Client.use])
        (PlainEmitted.of_emit rfl "DELETE" path [] params response) (by simp [Client.use])
        (by simp [Client.use])
      simpa [Client.use] using Quiet.refl h

lemma move_genericMutation (h : s.disk.Intact)
    {method : String} (fresh : opId ∉ s.usedIds)
    (ht : (genericMutation accountKey method path body params dedupeKey label opId response now).result s.disk
      { s with disk := (genericMutation accountKey method path body params dedupeKey label opId
          response now).exec s.disk } = t) : Move accountKey s a t := by
  obtain ⟨hintact, hids, horigin⟩ := queueGenericApiMutation_origin h accountKey method path body
    params dedupeKey label opId now
  simp only [genericMutation] at ht
  by_cases hretry : response.isRetryable = true
  · simp only [if_pos hretry, Prog.result_bind, Prog.exec_bind, Prog.result_pure,
      Prog.exec_pure] at ht
    subst ht
    exact Move.of_origin fresh (by simpa [Client.use] using hintact) (by simpa [Client.use] using hids)
      (by simpa [Client.use] using horigin) (by simp [Client.use])
      (PlainEmitted.of_emit rfl method path body params response) (by simp [Client.use])
      (by simp [Client.use])
  · simp only [if_neg hretry, Prog.result_pure, Prog.exec_pure] at ht
    subst ht
    refine Move.quiet ?_ (by simp [Client.use]) (by simp [Client.use])
      (PlainEmitted.of_emit rfl method path body params response) (by simp [Client.use])
      (by simp [Client.use])
    simpa [Client.use] using Quiet.refl h

/-! ### The steps of the replay -/

lemma listReadyOperations_exec (d : Disk) : listReadyOperations.exec d = loadOps.exec d := by
  unfold listReadyOperations
  rw [Prog.exec_bind, listOperations_exec, Prog.exec_pure]

lemma listReadyOperations_result (h : Agrees d) : (∀ y ∈ listReadyOperations.result d, ∃ x ∈ d.queue, Touched x y) ∧
      ((listReadyOperations.result d).map OfflineOperation.opId).Nodup := by
  have hnorm := (loadOps_exec h.intact).ids.normalizeOperation
  have hresult : listReadyOperations.result d
      = ((d.queue.map (normalizeOperation d)).filter fun op => op.status = .pending).insertionSort
          readyLe := by
    unfold listReadyOperations listOperations
    simp only [Prog.result_bind, Prog.result_pure, Prog.result_read, loadOps_result h.intact, hnorm]
  rw [hresult]
  refine ⟨fun y hy => ?_, ?_⟩
  · obtain ⟨x, hx, rfl⟩ := mem_map.mp (mem_filter.mp ((mem_insertionSort _).mp hy)).1
    exact ⟨x, hx, touched_normalizeOperation d x⟩
  · have hids : (d.queue.map (normalizeOperation d)).map OfflineOperation.opId
        = d.queue.map OfflineOperation.opId := by
      rw [map_map]
      exact map_congr_left fun x _ => (touched_normalizeOperation d x).opId
    have hnodup := h.nodup_opId
    rw [← hids] at hnodup
    have hfilter := hnodup.sublist ((filter_sublist
      (p := fun op : OfflineOperation => decide (op.status = .pending))).map _)
    exact (((perm_insertionSort readyLe _).map OfflineOperation.opId).nodup_iff).mpr hfilter

lemma pendingOperationCount_exec (d : Disk) : pendingOperationCount.exec d = loadOps.exec d := by
  unfold pendingOperationCount
  rw [Prog.exec_bind, listOperations_exec, Prog.exec_pure]

lemma finishReplay_result_of_arrived (h : arrivedId op response = some serverId) :
    (finishReplay op response now).result d = .flushed := by
  cases response with
  | ok payload =>
    simp only [arrivedId] at h
    split at h
    · next hop =>
      cases hid : createdId (mappingDict (some payload)) with
      | error => simp [hid, Except.toOption] at h
      | ok =>
        simp only [finishReplay, if_pos hop, hid, Prog.result_bind, Prog.result_pure]
    · cases h
  | _ => cases h

theorem step_move (h : Agrees s.disk) (hstep : s.step accountKey a = some t) : Move accountKey s a t := by
  obtain ⟨p, hp, ht⟩ := Option.map_eq_some_iff.mp hstep
  cases a with
  | createEntity =>
    obtain ⟨hfresh, rfl⟩ := effect_fresh hp
    exact move_createEntity h.intact hfresh ht
  | updateEntity =>
    obtain ⟨hfresh, rfl⟩ := effect_fresh hp
    exact move_updateEntity h.intact hfresh ht
  | deleteEntity =>
    obtain ⟨hfresh, rfl⟩ := effect_fresh hp
    exact move_deleteEntity h.intact hfresh ht
  | genericMutation =>
    obtain ⟨hfresh, rfl⟩ := effect_fresh hp
    exact move_genericMutation h.intact hfresh ht
  | retryIssue opId now =>
    cases hp
    have hresult : (retryIssue opId now).result s.disk = id := by
      unfold retryIssue
      simp only [result_bind]
      split <;> rfl
    rw [hresult] at ht
    subst ht
    exact Move.quiet (rewritten_retryIssue h.intact opId now).quiet (List.Sublist.refl _)
      (.inr ⟨rfl, rfl⟩) (.inl rfl) rfl (List.Subset.refl _)
  | discardIssue opId =>
    cases hp
    have hremove := (rewritten_removeConflict h.intact opId).quiet
    have hexec : (discardIssue opId).exec s.disk
        = (discardOperation opId).exec ((removeConflict opId).exec s.disk) := by
      unfold discardIssue
      simp only [exec_bind, exec_pure]
    have hresult : (discardIssue opId).result s.disk = id := rfl
    rw [hresult, hexec] at ht
    subst ht
    exact Move.quiet (hremove.trans (quiet_discardOperation hremove.intact opId))
      (List.Sublist.refl _) (.inr ⟨rfl, rfl⟩) (.inl rfl) rfl (List.Subset.refl _)
  | beginReplay =>
    simp only [Client.effect] at hp
    split at hp
    · next hphase =>
      cases hp
      rw [result_bind, exec_bind, result_pure, exec_pure] at ht
      subst ht
      exact Move.quiet (rewritten_refreshBlockedOperations h.intact).quiet (nil_sublist _) (.inl rfl)
        (.inl rfl) rfl (List.Subset.refl _)
    · cases hp
  | takeReady =>
    simp only [Client.effect] at hp
    split at hp
    · next limit hphase =>
      cases hp
      rw [result_bind, exec_bind, result_pure, exec_pure, listReadyOperations_exec] at ht
      subst ht
      obtain ⟨horigin, hnodup⟩ := listReadyOperations_result h
      refine Move.taken (rewritten_loadOps h.intact).quiet (by rw [hphase]; rfl) ?_ ?_ rfl rfl rfl rfl
      · intro y hy
        exact horigin y (mem_of_mem_take hy)
      · exact hnodup.sublist ((take_sublist _ _).map _)
    · cases hp
  | resolve =>
    simp only [Client.effect] at hp
    split at hp
    · next op ready hphase =>
      cases hp
      rw [result_bind, exec_bind, result_read, exec_read] at ht
      cases hreq : resolveRequestPayload s.disk op with
      | some req =>
        rw [hreq] at ht
        subst ht
        refine Move.resolved op req rfl ?_ ?_ rfl hreq rfl rfl rfl
        · rw [hphase]
          rfl
        · rw [hphase]
          exact mem_cons_self
      | none =>
        rw [hreq] at ht
        subst ht
        exact Move.quiet (Quiet.refl h.intact) (nil_sublist _) (.inl rfl) (.inl rfl) rfl (List.Subset.refl _)
    · cases hp
  | markSyncing now =>
    simp only [Client.effect] at hp
    split at hp
    · next op request ready hphase =>
      cases hp
      rw [result_bind, exec_bind, result_pure, exec_pure] at ht
      subst ht
      refine Move.quiet (quiet_updateOperationStatus h.intact op.opId .syncing "" now) ?_ ?_
        (.inl rfl) rfl (List.Subset.refl _)
      · rw [hphase]
        exact List.Sublist.refl _
      · rw [hphase]
        exact .inr ⟨rfl, rfl⟩
    · cases hp
  | send =>
    simp only [Client.effect] at hp
    split at hp
    · next op request ready hphase =>
      cases hp
      subst ht
      exact Move.sent op request rfl (by rw [hphase]; rfl) (by rw [hphase]; rfl) rfl rfl rfl rfl
    · cases hp
  | receive =>
    simp only [Client.effect] at hp
    split at hp
    · next hphase =>
      cases hp
      subst ht
      refine Move.quiet (Quiet.refl h.intact) ?_ ?_ (.inl rfl) rfl (List.Subset.refl _)
      · rw [hphase]
        exact List.Sublist.refl _
      · rw [hphase]
        exact .inr ⟨rfl, rfl⟩
    · cases hp
    · next hphase _ =>
      cases hp
      subst ht
      refine Move.quiet (Quiet.refl h.intact) ?_ ?_ (.inl rfl) rfl (List.Subset.refl _)
      · rw [hphase]
        exact List.Sublist.refl _
      · rw [hphase]
        exact .inr ⟨rfl, rfl⟩
    · cases hp
  | finish now =>
    simp only [Client.effect] at hp
    split at hp
    · next op request response ready hphase =>
      cases hp
      rw [result_bind, exec_bind, result_pure, exec_pure] at ht
      subst ht
      rcases finishReplay_cases h.intact op response now with ⟨serverId, hid, harrived⟩ | ⟨_, hquiet⟩
      · obtain ⟨hpos, hcreate⟩ := arrivedId_pos hid
        refine Move.arrived op serverId hpos hcreate harrived ?_ rfl rfl rfl rfl
        rw [finishReplay_result_of_arrived hid, hphase]
        rfl
      · refine Move.quiet hquiet ?_ (.inl rfl) (.inl rfl) rfl (List.Subset.refl _)
        rw [hphase]
        show List.Sublist (if _ then [] else ready) (op :: ready)
        split
        · exact nil_sublist _
        · exact sublist_cons_self op ready
    · cases hp
  | endReplay =>
    simp only [Client.effect] at hp
    split at hp
    · cases hp
      rw [result_bind, exec_bind, result_bind, exec_bind, result_pure, exec_pure, pendingOperationCount_exec] at ht
      subst ht
      have hrefresh := rewritten_refreshBlockedOperations h.intact
      exact Move.quiet (hrefresh.trans (rewritten_loadOps hrefresh.intact)).quiet (nil_sublist _)
        (.inl rfl) (.inl rfl) rfl (List.Subset.refl _)
    · cases hp

def Action.isCall : Action → Bool
  | .createEntity _ _ _ _ | .updateEntity _ _ _ _ _ _ _ _ | .deleteEntity _ _ _ _ _ _ _ _
  | .genericMutation _ _ _ _ _ _ _ _ _ | .retryIssue _ _ | .discardIssue _ => true
  | _ => false

lemma effect_of_isCall (hp : s.effect accountKey a = some p) (hcall : a.isCall = true) (u : Client) :
    (p.result s.disk u).disk = u.disk ∧ (p.result s.disk u).phase = u.phase := by
  cases a with
  | createEntity =>
    obtain ⟨-, rfl⟩ := effect_fresh hp
    unfold createEntity
    rw [result_bind, exec_read, result_read]
    split
    · exact ⟨rfl, rfl⟩
    · split <;> simp [Client.use]
  | updateEntity =>
    obtain ⟨-, rfl⟩ := effect_fresh hp
    simp only [updateEntity]
    split
    · exact ⟨rfl, rfl⟩
    · split <;> simp [Client.use, Client.edit]
  | deleteEntity =>
    obtain ⟨-, rfl⟩ := effect_fresh hp
    simp only [deleteEntity]
    split
    · exact ⟨rfl, rfl⟩
    · split <;> simp [Client.use]
  | genericMutation =>
    obtain ⟨-, rfl⟩ := effect_fresh hp
    simp only [genericMutation]
    split <;> simp [Client.use]
  | retryIssue =>
    cases hp
    unfold retryIssue
    simp only [result_bind]
    split <;> exact ⟨rfl, rfl⟩
  | discardIssue =>
    cases hp
    exact ⟨rfl, rfl⟩
  | _ => cases hcall

lemma effect_disk (hp : s.effect accountKey a = some p) (u : Client) : (p.result s.disk u).disk = u.disk := by
  by_cases hcall : a.isCall = true
  · exact (effect_of_isCall hp hcall u).1
  · cases a with
    | resolve =>
      simp only [Client.effect] at hp
      split at hp
      · next op ready hphase =>
        cases hp
        rw [result_bind, result_read, exec_read]
        cases resolveRequestPayload s.disk op <;> rfl
      · cases hp
    | beginReplay _ | takeReady | markSyncing _ | send | receive _ | finish _ | endReplay =>
      simp only [Client.effect] at hp
      split at hp <;> cases hp <;> rfl
    | _ => exact absurd rfl hcall

lemma effect_agrees (h : Agrees s.disk) (hp : s.effect accountKey a = some p) : Agrees (p.exec s.disk) := by
  cases a with
  | createEntity request opId response now =>
    obtain ⟨-, rfl⟩ := effect_fresh hp
    exact h.createEntity accountKey request opId response now
  | updateEntity ref path body dedupeKey label opId response now =>
    obtain ⟨-, rfl⟩ := effect_fresh hp
    exact h.updateEntity accountKey ref path body dedupeKey label opId response now
  | deleteEntity ref path params dedupeKey label opId response now =>
    obtain ⟨-, rfl⟩ := effect_fresh hp
    exact h.deleteEntity accountKey ref path params dedupeKey label opId response now
  | genericMutation method path body params dedupeKey label opId response now =>
    obtain ⟨-, rfl⟩ := effect_fresh hp
    exact h.genericMutation accountKey method path body params dedupeKey label opId response now
  | retryIssue opId now =>
    cases hp
    exact h.retryIssue opId now
  | discardIssue opId =>
    cases hp
    exact h.discardIssue opId
  | beginReplay =>
    simp only [Client.effect] at hp
    split at hp
    · cases hp
      rw [exec_bind, exec_pure]
      exact h.refreshBlockedOperations
    · cases hp
  | takeReady =>
    simp only [Client.effect] at hp
    split at hp
    · cases hp
      rw [exec_bind, exec_pure, listReadyOperations_exec]
      exact h.loadOps
    · cases hp
  | resolve =>
    simp only [Client.effect] at hp
    split at hp
    · next op ready hphase =>
      cases hp
      rw [exec_bind, exec_read, result_read]
      cases resolveRequestPayload s.disk op <;> exact h
    · cases hp
  | markSyncing now =>
    simp only [Client.effect] at hp
    split at hp
    · next op request ready hphase =>
      cases hp
      rw [exec_bind, exec_pure]
      exact h.updateOperationStatus op.opId .syncing "" now
    · cases hp
  | send | receive _ =>
    simp only [Client.effect] at hp
    split at hp <;> cases hp <;> exact h
  | finish now =>
    simp only [Client.effect] at hp
    split at hp
    · next op request response ready hphase =>
      cases hp
      rw [exec_bind, exec_pure]
      exact h.finishReplay op response now
    · cases hp
  | endReplay =>
    simp only [Client.effect] at hp
    split at hp
    · cases hp
      rw [exec_bind, exec_bind, exec_pure, pendingOperationCount_exec]
      exact h.refreshBlockedOperations.loadOps
    · cases hp

/-- Every step keeps the journal and the snapshot in agreement. -/
theorem step_agrees (h : Agrees s.disk) (hstep : s.step accountKey a = some t) : Agrees t.disk := by
  obtain ⟨p, hp, rfl⟩ := Option.map_eq_some_iff.mp hstep
  rw [effect_disk hp]
  exact effect_agrees h hp

end ImmoApp.Offline
