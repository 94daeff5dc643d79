import ImmoApp.Offline.Client

/-!
# The journal at a process stop

A process stop leaves the files as they are between two writes.  Every journal function writes the new
snapshot before it appends events, and the snapshot is what the next call reads; so a property of the
queued operations that the new queue has holds at every stop.  The rules below prove it function by
function, for an arbitrary property `G` of operations.
-/

namespace ImmoApp.Offline

open OfflineOperation List Prog

/-- The snapshot is not corrupt, is written out if `b`, and every queued operation satisfies `G`. -/
structure Safe (b : Prop) (G : OfflineOperation → Prop) (d : Disk) : Prop where
  intact : d.Intact
  present : b → d.Present
  /-- Every queued operation satisfies the property. -/
  all : ∀ x ∈ d.queue, G x

variable {b : Prop} {G : OfflineOperation → Prop} {d : Disk}

lemma Safe.of_true (h : Safe True G d) : Safe b G d := ⟨h.intact, fun _ => h.present trivial, h.all⟩

variable {items : List OfflineOperation} {opId accountKey dedupeKey : String} {now : ℕ} {ref : OfflineEntityRef}
  {payload : Dict String Json}

variable {d' : Disk} {status : OpStatus} {lastError : String}

lemma Step.safe (h : Step d items d') (hitems : ∀ x ∈ items, G x) : Safe b G d' :=
  ⟨h.intact, fun _ => h.present, fun x hx => hitems x (h.queue ▸ hx)⟩

lemma Loaded.safe (h : Loaded d d') (hd : Safe b G d) : Safe True G d' :=
  ⟨h.present.intact, fun _ => h.present, fun x hx => hd.all x (h.queue ▸ hx)⟩

lemma safe_storeOps (d : Disk) (hitems : ∀ x ∈ items, G x) : Safe True G ((storeOps items).exec d) := by
  refine ⟨by simp [storeOps, Disk.Intact], fun _ => ⟨_, rfl⟩, fun x hx => ?_⟩
  rw [queue_of_pendingFile rfl] at hx
  exact hitems x (mem_filter.mp hx).1

section

variable (h : Safe True G d)
include h

lemma always_storeOps (items : List OfflineOperation)
    (hitems : ∀ x ∈ items, G x) : Prog.Always (Safe True G) (storeOps items) d :=
  always_write h (safe_storeOps d hitems)

lemma Safe.append (e : JournalEvent) : Safe True G (Persistent.apply (FileWrite.appendEvent e) d) := by
  obtain ⟨entries, hentries⟩ := h.present trivial
  have hqueue : (Persistent.apply (FileWrite.appendEvent e) d).queue = d.queue := by
    simp [Disk.queue, hentries]
  exact ⟨h.intact, fun _ => ⟨entries, hentries⟩, fun x hx => h.all x (hqueue ▸ hx)⟩

lemma always_appendEvent (e : JournalEvent) : Prog.Always (Safe True G) (appendEvent e) d :=
  always_write h (h.append e)

lemma always_appendEvents (es : List JournalEvent) :
    Prog.Always (Safe True G) (Prog.writes (es.map FileWrite.appendEvent)) d := by
  refine always_writes h fun w hw t ht => ?_
  obtain ⟨e, _, rfl⟩ := mem_map.mp hw
  exact ht.append e

end

lemma always_conflicts (h : Safe b G d) (items : List OfflineConflict) :
    Prog.Always (Safe b G) (Prog.write (FileWrite.conflicts items)) d :=
  always_write h ⟨h.intact, h.present, h.all⟩

lemma always_tempIds (h : Safe b G d) (m : Dict (EntityType × ℤ) ℤ) :
    Prog.Always (Safe b G) (Prog.write (FileWrite.tempIds m)) d :=
  always_write h ⟨h.intact, h.present, h.all⟩

lemma always_allocator (h : Safe b G d) (m : Dict EntityType ℤ) :
    Prog.Always (Safe b G) (Prog.write (FileWrite.allocator m)) d :=
  always_write h ⟨h.intact, h.present, h.all⟩

/-! ### Loading -/

private lemma always_rebuild (h : Safe b G d) (hnot : ¬ d.Present) :
    Prog.Always (Safe b G) rebuildPendingFromLog d := by
  have hb : ¬ b := fun hb => hnot (h.present hb)
  have hlog : Prog.Always (Safe b G) loadLogJsonl d := by
    unfold loadLogJsonl
    refine always_bind (always_read h) ?_
    rw [result_read, exec_read]
    cases hfile : d.logFile with
    | absent => exact always_pure h
    | value => exact always_pure h
    | unparseable =>
      have hnot' : ¬ (Persistent.apply FileWrite.quarantineLog d).Present := hnot
      have hqueue : (Persistent.apply FileWrite.quarantineLog d).queue = d.queue := by
        rw [queue_eq_replayLog hnot, queue_eq_replayLog hnot']
        simp [hfile, JsonFile.events]
      have hsafe : Safe b G (Persistent.apply FileWrite.quarantineLog d) :=
        ⟨h.intact, fun hb' => absurd hb' hb, fun x hx => h.all x (hqueue ▸ hx)⟩
      exact always_bind (always_write h hsafe) (always_pure hsafe)
  unfold rebuildPendingFromLog
  refine always_bind hlog ?_
  have hstored : Safe b G ((storeOps (replayLog (loadLogJsonl.result d))).exec (loadLogJsonl.exec d)) := by
    refine ⟨by simp [storeOps, Disk.Intact], fun hb' => absurd hb' hb, fun x hx => h.all x ?_⟩
    rw [queue_of_pendingFile rfl] at hx
    rw [queue_eq_replayLog hnot, ← loadLogJsonl_result]
    exact (mem_filter.mp hx).1
  exact always_bind (always_write hlog.exec hstored) (always_pure hstored)

lemma always_loadOps (h : Safe b G d) : Prog.Always (Safe b G) loadOps d := by
  have hsame : ∀ {p : JournalProg (List OfflineOperation)}, loadOps d = p d →
      Prog.Always (Safe b G) p d → Prog.Always (Safe b G) loadOps d := by
    intro p heq hp k
    have htrail : loadOps.trail d = p.trail d := congrArg Prod.snd heq
    rw [htrail]
    exact hp k
  cases hp : d.pendingFile with
  | absent => exact hsame (loadOps_of_absent hp) (always_rebuild h (by simp [Disk.Present, hp]))
  | unparseable => exact absurd hp h.intact
  | value v =>
    cases v with
    | list entries =>
      exact hsame (p := pure ((entries.filterMap id).filter isQueued)) (loadOps_of_value hp) (always_pure h)
    | other => exact hsame (loadOps_of_other hp) (always_rebuild h (by simp [Disk.Present, hp]))

lemma always_of_load {α : Type} {f : List OfflineOperation → JournalProg α} (h : Safe b G d)
    (hf : ∀ d', Safe True G d' → SameIds d d' → Prog.Always (Safe True G) (f d.queue) d') :
    Prog.Always (Safe b G) (loadOps >>= f) d := by
  have hload := loadOps_exec h.intact
  refine always_bind (always_loadOps h) ?_
  rw [loadOps_result h.intact]
  exact (hf _ (hload.safe h) hload.ids).mono fun _ ht => ht.of_true

/-! ### The journal functions -/

lemma always_upsertOp {op : OfflineOperation} (h : Safe b G d) (hop : G op) :
    Prog.Always (Safe b G) (upsertOp op) d := by
  unfold upsertOp
  refine always_of_load h fun d' hd' _ => ?_
  have hstore := always_storeOps hd' ((d.queue.filter (fun item => item.opId ≠ op.opId) ++ [op]).insertionSort le) ?_
  · have hevent := always_appendEvent hstore.exec (.upsert op)
    exact always_bind hstore (always_bind hevent (always_pure hevent.exec))
  · intro x hx
    rcases mem_insertOp.mp hx with rfl | ⟨hx, _⟩
    · exact hop
    · exact h.all x hx

lemma always_removeOp (h : Safe b G d) (opId : String) : Prog.Always (Safe b G) (removeOp opId) d := by
  unfold removeOp
  refine always_of_load h fun d' hd' _ => ?_
  have hstore := always_storeOps hd' (d.queue.filter fun item => item.opId ≠ opId)
    fun x hx => h.all x (mem_filter.mp hx).1
  exact always_bind hstore (always_appendEvent hstore.exec _)

lemma always_dropOps (h : Safe b G d) (p : OfflineOperation → Bool) : Prog.Always (Safe b G) (dropOps p) d := by
  unfold dropOps
  refine always_of_load h fun d' hd' _ => ?_
  have hstore := always_storeOps hd' (d.queue.filter fun item => !p item)
    fun x hx => h.all x (mem_filter.mp hx).1
  have hevents := always_appendEvents hstore.exec ((d.queue.filter p).map fun item => .remove item.opId)
  rw [map_map] at hevents
  exact always_bind hstore hevents

lemma always_refreshBlockedOperations (h : Safe b G d) (hnorm : ∀ x ∈ d.queue, G x → G (normalizeOperation d x)) :
    Prog.Always (Safe b G) refreshBlockedOperations d := by
  unfold refreshBlockedOperations
  refine always_of_load h fun d' hd' hids => ?_
  refine always_bind (always_read hd') ?_
  rw [result_read, exec_read, id, hids.normalizeOperation]
  dsimp only
  split
  · have hstore := always_storeOps hd' (d.queue.map (normalizeOperation d)) (by
      intro x hx
      obtain ⟨y, hy, rfl⟩ := mem_map.mp hx
      exact hnorm y hy (h.all y hy))
    have hevents := always_appendEvents hstore.exec
      ((d.queue.filter (normalizeChanges d')).map fun item => .upsert (normalizeOperation d item))
    rw [map_map] at hevents
    exact always_bind hstore (always_bind hevents (always_pure hevents.exec))
  · exact always_pure hd'

private lemma all_modifyOp {f : OfflineOperation → OfflineOperation} (hitems : ∀ x ∈ items, G x)
    (hf : ∀ x ∈ items, x.opId = opId → G (f x)) : ∀ x ∈ items.map (modifyOp opId f), G x := by
  intro x hx
  obtain ⟨y, hy, rfl⟩ := mem_map.mp hx
  by_cases hid : y.opId = opId
  · rw [modifyOp_self hid]
    exact hf y hy hid
  · rw [modifyOp_other hid]
    exact hitems y hy

lemma always_noteOperationAttempt (h : Safe b G d) (opId errorMessage : String) (now : ℕ)
    (hf : ∀ x ∈ d.queue, x.opId = opId → G (withAttempt errorMessage now x)) :
    Prog.Always (Safe b G) (noteOperationAttempt opId errorMessage now) d := by
  unfold noteOperationAttempt
  refine always_of_load h fun d' hd' _ => ?_
  have hstore := always_storeOps hd' _ (all_modifyOp h.all hf)
  refine always_bind hstore ?_
  split
  · exact always_pure hstore.exec
  · exact always_appendEvent hstore.exec _

lemma all_setStatus (hitems : ∀ x ∈ items, x.opId ≠ opId → G x)
    (hf : ∀ x ∈ items, x.opId = opId → status.isFinal = false → G (withStatus status lastError now x)) :
    ∀ x ∈ setStatus opId status lastError now items, G x := by
  intro x hx
  unfold setStatus at hx
  split at hx
  · obtain ⟨hx, hne⟩ := mem_filter.mp hx
    exact hitems x hx (by simpa using hne)
  · next hfinal =>
    obtain ⟨y, hy, rfl⟩ := mem_map.mp hx
    by_cases hid : y.opId = opId
    · rw [modifyOp_self hid]
      exact hf y hy hid (by simpa using hfinal)
    · rw [modifyOp_other hid]
      exact hitems y hy hid

private lemma always_statusEvents (h : Safe True G d) (opId : String) (status : OpStatus)
    (lastError : String) (now : ℕ) (items : List OfflineOperation) :
    Prog.Always (Safe True G) (do
      match lastWithId opId items with
      | none => pure none
      | some op => do
        appendEvent (.upsert (withStatus status lastError now op))
        if status.isFinal then appendEvent (.remove opId) else pure ()
        pure (some (withStatus status lastError now op))) d := by
  split
  · exact always_pure h
  · next op _ =>
    have hupsert := always_appendEvent h (.upsert (withStatus status lastError now op))
    refine always_bind hupsert ?_
    split
    · have hremove := always_appendEvent hupsert.exec (.remove opId)
      exact always_bind hremove (always_pure hremove.exec)
    · exact always_bind (always_pure hupsert.exec) (always_pure hupsert.exec)

lemma always_updateOperationStatus (h : Safe b G d) (opId : String) (status : OpStatus) (lastError : String) (now : ℕ)
    (hf : ∀ x ∈ d.queue, x.opId = opId → status.isFinal = false → G (withStatus status lastError now x)) :
    Prog.Always (Safe b G) (updateOperationStatus opId status lastError now) d := by
  have hitems := all_setStatus (fun x hx _ => h.all x hx) hf
  unfold setStatus at hitems
  unfold updateOperationStatus
  refine always_of_load h fun d' hd' _ => ?_
  dsimp only
  by_cases hfinal : status.isFinal = true
  · rw [if_pos hfinal] at hitems ⊢
    have hstore := always_storeOps hd' _ hitems
    exact always_bind hstore (always_statusEvents hstore.exec opId status lastError now d.queue)
  · rw [if_neg hfinal] at hitems ⊢
    have hstore := always_storeOps hd' _ hitems
    exact always_bind hstore (always_statusEvents hstore.exec opId status lastError now d.queue)

lemma loadOps_of_present (h : d.Present) : loadOps.trail d = [] ∧ loadOps.exec d = d := by
  obtain ⟨_, hentries⟩ := h
  have htrail : loadOps.trail d = [] := by
    unfold Prog.trail
    rw [loadOps_of_value hentries]
  refine ⟨htrail, ?_⟩
  unfold Prog.exec
  rw [htrail, applyWrites_nil]

lemma alwaysFrom_updateOperationStatus (h : d.Present)
    (hitems : ∀ x ∈ setStatus opId status lastError now d.queue, G x) :
    Prog.AlwaysFrom 1 (Safe True G) (updateOperationStatus opId status lastError now) d := by
  obtain ⟨htrail, hexec⟩ := loadOps_of_present h
  unfold setStatus at hitems
  unfold updateOperationStatus
  have hrest := alwaysFrom_bind (P := Safe True G) (n := 1) (p := loadOps) (s := d) (f := fun items => do
      if status.isFinal then storeOps (items.filter fun item => item.opId ≠ opId)
      else storeOps (items.map (modifyOp opId (withStatus status lastError now)))
      match lastWithId opId items with
      | none => pure none
      | some op => do
        appendEvent (.upsert (withStatus status lastError now op))
        if status.isFinal then appendEvent (.remove opId) else pure ()
        pure (some (withStatus status lastError now op)))
  rw [htrail, hexec, loadOps_result h.intact] at hrest
  refine hrest ?_
  dsimp only
  by_cases hfinal : status.isFinal = true
  · rw [if_pos hfinal] at hitems ⊢
    have hstored := safe_storeOps d hitems
    exact (alwaysFrom_write hstored).bind (always_statusEvents hstored opId status lastError now d.queue)
  · rw [if_neg hfinal] at hitems ⊢
    have hstored := safe_storeOps d hitems
    exact (alwaysFrom_write hstored).bind (always_statusEvents hstored opId status lastError now d.queue)

section

variable (h : Safe b G d)
include h

lemma always_addConflict (c : OfflineConflict) : Prog.Always (Safe b G) (addConflict c) d :=
  always_bind (always_read h) (always_conflicts h _)

lemma always_removeConflict (opId : String) : Prog.Always (Safe b G) (removeConflict opId) d :=
  always_bind (always_read h) (always_conflicts h _)

lemma always_recordReconciledId (ref : OfflineEntityRef) (serverId : ℤ) :
    Prog.Always (Safe b G) (recordReconciledId ref serverId) d :=
  always_bind (always_read h) (always_tempIds h _)

lemma always_allocateTempId (entityType : EntityType) : Prog.Always (Safe b G) (allocateTempId entityType) d := by
  unfold allocateTempId
  refine always_bind (always_read h) ?_
  have hwrite := always_allocator (b := b) h (Dict.set d.allocator entityType
      (if (d.allocator.get? entityType).getD 0 ≤ -1 then (d.allocator.get? entityType).getD 0 - 1
        else -1))
  exact always_bind hwrite (always_pure hwrite.exec)

lemma always_getOperation (opId : String) : Prog.Always (Safe b G) (getOperation opId) d :=
  always_bind (always_loadOps h) (always_pure (always_loadOps h).exec)

lemma always_findCreateForEntity (ref : OfflineEntityRef) : Prog.Always (Safe b G) (findCreateForEntity ref) d :=
  always_bind (always_loadOps h) (always_pure (always_loadOps h).exec)

lemma always_listOperations : Prog.Always (Safe b G) listOperations d :=
  always_bind (always_loadOps h) (always_read (always_loadOps h).exec)

lemma always_listReadyOperations : Prog.Always (Safe b G) listReadyOperations d :=
  always_bind (always_listOperations h) (always_pure (always_listOperations h).exec)

lemma always_pendingOperationCount : Prog.Always (Safe b G) pendingOperationCount d :=
  always_bind (always_listOperations h) (always_pure (always_listOperations h).exec)

end

lemma always_cancelDependentsUpTo (depth : ℕ) : ∀ {d : Disk} (target : OfflineEntityRef), Safe b G d →
      Prog.Always (Safe b G) (cancelDependentsUpTo depth target) d := by
  induction depth with
  | zero => exact fun _ h => always_pure h
  | succ _ ih =>
    intro d target h
    have hload := always_loadOps h
    refine always_bind hload (always_forEach ?_ hload.exec)
    intro item _ d' hd'
    split
    · have hremove := always_removeOp hd' item.opId
      exact always_bind hremove (ih item.entity hremove.exec)
    · exact always_pure hd'

lemma always_cancelDependentTempCreates (h : Safe b G d) (target : OfflineEntityRef) :
    Prog.Always (Safe b G) (cancelDependentTempCreates target) d :=
  always_cancelDependentsUpTo ((loadOps.result d).length + 1) target h

/-! ### The calls of the user -/

def MergeStable (G : OfflineOperation → Prop) : Prop :=
  ∀ fields now x, G x → G (mergeFields fields now x)

section

variable (h : Safe b G d)
include h

lemma always_queueUpdateOfKnown (hmerge : MergeStable G)
    (hnew : G (changeOperation accountKey ref .update payload dedupeKey opId now)) :
    Prog.Always (Safe b G) (queueUpdateOfKnown accountKey ref payload dedupeKey opId now) d := by
  unfold queueUpdateOfKnown
  refine always_of_load h fun d' hd' _ => ?_
  split
  · next item hitem =>
    have hgood := h.all item (mem_of_find?_eq_some hitem)
    split
    · have hupsert := always_upsertOp hd' (hmerge (updateFields payload) now item hgood)
      exact always_bind hupsert (always_pure hupsert.exec)
    · have hconflict := always_addConflict hd'
        { opId := item.opId, entityType := ref.entityType, localId := ref.localId,
          reasonCode := "delete_then_update",
          message := "Cannot queue an update after a pending delete.",
          serverPayload := payload, createdAt := now }
      exact always_bind hconflict (always_pure hconflict.exec)
  · have hupsert := always_upsertOp hd' hnew
    exact always_bind hupsert (always_pure hupsert.exec)

lemma always_queueUpdateOperation (hmerge : MergeStable G)
    (hnew : G (changeOperation accountKey ref .update payload dedupeKey opId now)) :
    Prog.Always (Safe b G) (queueUpdateOperation accountKey ref payload dedupeKey opId now) d := by
  unfold queueUpdateOperation
  have hfind := always_findCreateForEntity h ref
  refine always_bind hfind ?_
  rw [findCreateForEntity_result h.intact]
  split
  · next c hc =>
    have hgood := h.all c (mem_of_find?_eq_some hc)
    have hupsert := always_upsertOp hfind.exec (hmerge (updateFields payload) now c hgood)
    exact always_bind hupsert (always_pure hupsert.exec)
  · exact always_queueUpdateOfKnown hfind.exec hmerge hnew

lemma always_queueDeleteOperation (hnew : G (changeOperation accountKey ref .delete payload dedupeKey opId now)) :
    Prog.Always (Safe b G) (queueDeleteOperation accountKey ref payload dedupeKey opId now) d := by
  unfold queueDeleteOperation
  have hfind := always_findCreateForEntity h ref
  refine always_bind hfind ?_
  split
  · next c _ =>
    have hremove := always_removeOp hfind.exec c.opId
    have hcancel := always_cancelDependentTempCreates hremove.exec ref
    exact always_bind hremove (always_bind hcancel (always_pure hcancel.exec))
  · have hdrop := always_dropOps hfind.exec (isUpdateOf ref)
    have hupsert := always_upsertOp hdrop.exec hnew
    exact always_bind hdrop (always_bind hupsert (always_pure hupsert.exec))

lemma always_queueGenericApiMutation {method path : String}
    {jsonBody params : Dict String Json} {headers : Dict String String}
    {label : String}
    (hnew : G (genericOperation accountKey method path jsonBody params headers dedupeKey label opId now)) :
    Prog.Always (Safe b G)
      (queueGenericApiMutation accountKey method path jsonBody params headers dedupeKey label opId now) d := by
  unfold queueGenericApiMutation
  dsimp only
  split
  · have hdrop := always_dropOps h fun item => item.dedupeKey = dedupeKey
    exact always_bind hdrop (always_upsertOp hdrop.exec hnew)
  · exact always_upsertOp h hnew

lemma always_queueCreate {r : OfflineCreateRequest}
    (hnew : ∀ ref d', G (createOperation accountKey ref (createPayload accountKey r opId)
      (collectParentRefs r) (idempotencyKey accountKey r.entityType opId) opId now
      (computeInitialStatus d' (collectParentRefs r)))) :
    Prog.Always (Safe b G) (queueCreate accountKey r opId now) d := by
  unfold queueCreate
  have hallocate := always_allocateTempId h r.entityType
  refine always_bind hallocate ?_
  have hqueue : Prog.Always (Safe b G) (queueCreateOperation accountKey
      ⟨r.entityType, (allocateTempId r.entityType).result d⟩ (createPayload accountKey r opId)
      (collectParentRefs r) (idempotencyKey accountKey r.entityType opId) opId now)
      ((allocateTempId r.entityType).exec d) :=
    always_bind (always_read hallocate.exec) (always_upsertOp hallocate.exec (hnew _ _))
  exact always_bind hqueue (always_pure hqueue.exec)

lemma always_discardOperation (opId : String) (hnorm : ∀ d x, G x → G (normalizeOperation d x)) :
    Prog.Always (Safe b G) (discardOperation opId) d := by
  unfold discardOperation
  have hget := always_getOperation h opId
  refine always_bind hget ?_
  split
  · exact always_pure hget.exec
  · next op _ =>
    have hremove := always_removeOp hget.exec opId
    refine always_bind hremove ?_
    dsimp only
    split
    · have hcancel := always_cancelDependentTempCreates hremove.exec op.entity
      have hrefresh := always_refreshBlockedOperations hcancel.exec fun x _ => hnorm _ x
      exact always_bind hcancel (always_bind hrefresh (always_pure hrefresh.exec))
    · have hrefresh := always_refreshBlockedOperations hremove.exec fun x _ => hnorm _ x
      exact always_bind hrefresh (always_pure hrefresh.exec)

end

end ImmoApp.Offline
