import ImmoApp.Offline.Creations
import ImmoApp.Offline.Requests

/-!
# Coalescing

An update is merged into the queued creation or the queued update of its record and refused after a queued deletion; a
deletion takes the place of the queued updates.  So a queued update has its record for itself (`Coalesced`).

The body of a queued creation or update is the body it was queued with, overridden by the later updates of its record
(`MergedFrom`), as long as no update without fields is merged: `_mapping_dict(payload.get("body")) or dict(payload)`
takes an empty body for a missing one.
-/

namespace ImmoApp.Offline

open OfflineOperation List Option Prog

/-- The operation creates or updates a record of its own. -/
def OfflineOperation.Carries (op : OfflineOperation) : Prop :=
  op.entityType ≠ .generic ∧ (op.opType = .create ∨ op.opType = .update)

/-- For every record at most one update is queued, and none beside its creation or its deletion. -/
def Coalesced (queue : List OfflineOperation) : Prop :=
  ∀ ref : OfflineEntityRef, ref.entityType ≠ .generic → (queue.filter (isUpdateOf ref)).length ≤ 1 ∧
      ∀ u ∈ queue, isUpdateOf ref u = true → ∀ x ∈ queue, x.entity = ref → x.opType ≠ .create ∧ x.opType ≠ .delete

/-- The fields with which an action updates a record in the journal. -/
def Action.updateOf (ref : OfflineEntityRef) : Action → Option (Dict String Json)
  | .updateEntity updated _ body _ _ _ response _ =>
    if updated = ref ∧ (updated.localId < 0 ∨ response.isRetryable = true) then some body else none
  | _ => none

/-- The body with which an action queues an operation, when it is the one that queues it. -/
def Action.queues (op : OfflineOperation) : Action → Option (Dict String Json)
  | .createEntity request opId _ _ =>
    if op.opType = .create ∧ op.opId = opId ∧ op.entityType = request.entityType then some request.requestBody
    else none
  | .updateEntity ref _ body _ _ opId _ _ =>
    if op.opType = .update ∧ op.opId = opId ∧ op.entity = ref then some body else none
  | _ => none

/-- The body of every queued creation and update is the one it was queued with, overridden by the updates of its
record since then. -/
def MergedFrom (acts : List Action) (queue : List OfflineOperation) : Prop :=
  ∀ op ∈ queue, op.Carries → ∃ before a after body, acts = before ++ a :: after ∧ a.queues op = some body ∧
    op.body = (after.filterMap (Action.updateOf op.entity)).foldl Dict.update body

/-- An update that is merged has fields, and a creation is not given the temporary id of a record that has a
queued update. -/
def MergesFields (s : Client) : Action → Prop
  | .createEntity request _ _ _ => request.entityType ≠ .generic →
    ∀ u ∈ s.disk.queue, isUpdateOf ⟨request.entityType, s.disk.nextTempId request.entityType⟩ u = false
  | .updateEntity ref _ body _ _ _ response _ =>
    ref.localId < 0 ∨ response.isRetryable = true → (∃ x ∈ s.disk.queue, x.entity = ref ∧ x.Carries) → body ≠ []
  | _ => True

instance (op : OfflineOperation) : Decidable op.Carries := inferInstanceAs (Decidable (_ ∧ _))

instance (s : Client) : ∀ a, Decidable (MergesFields s a)
  | .createEntity _ _ _ _ => inferInstanceAs (Decidable (_ → _))
  | .updateEntity _ _ _ _ _ _ _ _ => inferInstanceAs (Decidable (_ → _))
  | .deleteEntity _ _ _ _ _ _ _ _ | .genericMutation _ _ _ _ _ _ _ _ _ | .retryIssue _ _ | .discardIssue _
  | .beginReplay _ | .takeReady | .resolve | .markSyncing _ | .send | .receive _ | .finish _ | .endReplay =>
    inferInstanceAs (Decidable True)

/-! ### An update has its record for itself -/

/-- Two operations on a record of which one is an update and the other no action. -/
def Clash (x y : OfflineOperation) : Prop :=
  x.entityType ≠ .generic ∧ x.entity = y.entity ∧
    ((x.opType = .update ∧ y.opType ≠ .action) ∨ (y.opType = .update ∧ x.opType ≠ .action))

def Alone (queue : List OfflineOperation) : Prop := ∀ x ∈ queue, ∀ y ∈ queue, Clash x y → x.opId = y.opId

section Clashes

variable {x y : OfflineOperation} {queue : List OfflineOperation} {ref : OfflineEntityRef}

lemma Clash.symm (h : Clash x y) : Clash y x := by
  obtain ⟨_, hentity, htypes⟩ := h
  refine ⟨?_, hentity.symm, htypes.symm⟩
  have htype : x.entityType = y.entityType := congrArg OfflineEntityRef.entityType hentity
  rwa [← htype]

lemma Clash.of_kin {x' y' : OfflineOperation} (hx : Kin x x') (hy : Kin y y') (h : Clash x' y') : Clash x y := by
  obtain ⟨_, hentity, _⟩ := h
  have htype : x'.entityType = x.entityType := congrArg OfflineEntityRef.entityType hx.entity
  refine ⟨?_, ?_, ?_⟩
  · rwa [← htype]
  · rw [← hx.entity, ← hy.entity, hentity]
  · rwa [← hx.opType, ← hy.opType]

lemma isUpdateOf_iff : isUpdateOf ref x = true ↔ x.entity = ref ∧ x.opType = .update := by
  unfold isUpdateOf OfflineOperation.entity
  obtain ⟨_, _⟩ := ref
  simp [and_assoc]

lemma isChangeOf_iff : isChangeOf ref x = true ↔ x.entity = ref ∧ (x.opType = .update ∨ x.opType = .delete) := by
  unfold isChangeOf OfflineOperation.entity
  obtain ⟨_, _⟩ := ref
  simp [and_assoc]

lemma length_le_one_of_forall_eq {α : Type*} {l : List α} (hnodup : l.Nodup) (h : ∀ a ∈ l, ∀ b ∈ l, a = b) :
    l.length ≤ 1 := by
  rcases l with _ | ⟨a, _ | ⟨b, l⟩⟩
  · exact Nat.zero_le 1
  · exact le_refl 1
  · have hab : a = b := h a (by simp) b (by simp)
    rw [hab] at hnodup
    simp at hnodup

lemma Alone.coalesced (h : Alone queue) (hnodup : (queue.map opId).Nodup) : Coalesced queue := by
  intro ref hgeneric
  have heq : ∀ u ∈ queue, isUpdateOf ref u = true → ∀ x ∈ queue, x.entity = ref → x.opType ≠ .action → x = u := by
    intro u hu hupdate x hx hentity haction
    obtain ⟨hrecord, htype⟩ := isUpdateOf_iff.mp hupdate
    have hclash : Clash u x := by
      refine ⟨?_, hrecord.trans hentity.symm, .inl ⟨htype, haction⟩⟩
      intro heq
      exact hgeneric ((congrArg OfflineEntityRef.entityType hrecord).symm.trans heq)
    exact inj_on_of_nodup_map hnodup hx hu (h u hu x hx hclash).symm
  refine ⟨?_, ?_⟩
  · have hnodup' : (queue.filter (isUpdateOf ref)).Nodup := (Nodup.of_map opId hnodup).filter _
    refine length_le_one_of_forall_eq hnodup' fun u hu v hv => ?_
    obtain ⟨hu, hupdate⟩ := mem_filter.mp hu
    obtain ⟨hv, hupdate'⟩ := mem_filter.mp hv
    obtain ⟨hentity, htype⟩ := isUpdateOf_iff.mp hupdate'
    exact (heq u hu hupdate v hv hentity (by simp [htype])).symm
  · intro u hu hupdate x hx hentity
    have htype := (isUpdateOf_iff.mp hupdate).2
    refine ⟨fun hcreate => ?_, fun hdelete => ?_⟩
    · rw [← heq u hu hupdate x hx hentity (by simp [hcreate]), hcreate] at htype
      cases htype
    · rw [← heq u hu hupdate x hx hentity (by simp [hdelete]), hdelete] at htype
      cases htype

end Clashes

/-! ### Where the operations of the queue come from -/

section Origins

variable {accountKey : String} {s t : Client} {a : Action} {y : OfflineOperation}

inductive Origin (s : Client) (a : Action) (queue : List OfflineOperation) (y : OfflineOperation) : Prop where
  /-- It was there before, and the action does not update its record. -/
  | kept (x : OfflineOperation) (mem : x ∈ s.disk.queue) (touched : Touched x y)
      (apart : y.Carries → a.updateOf y.entity = none)
  | merged (x : OfflineOperation) (body fields : Dict String Json) (now : ℕ) (mem : x ∈ s.disk.queue)
      (update : a.updateOf x.entity = some body) (carried : body ≠ [] → fields = body)
      (merge : y = mergeFields fields now x)
  | queued (start : y.Carries → a.queues y = some y.body) (alone : ∀ z ∈ queue, Clash y z → y.opId = z.opId)

lemma Origin.kin {queue : List OfflineOperation} (h : Origin s a queue y) :
    (∃ x ∈ s.disk.queue, Kin x y) ∨ ∀ z ∈ queue, Clash y z → y.opId = z.opId := by
  cases h with
  | kept x mem touched => exact .inl ⟨x, mem, touched.kin⟩
  | merged x _ fields now mem _ _ merge =>
    subst merge
    exact .inl ⟨x, mem, (rebodied_mergeFields fields now x).kin⟩
  | queued _ alone => exact .inr alone

lemma Alone.of_origin {queue : List OfflineOperation} (h : Alone s.disk.queue)
    (horigin : ∀ y ∈ queue, Origin s a queue y) : Alone queue := by
  intro y hy z hz hclash
  rcases (horigin y hy).kin with ⟨x, hx, hxy⟩ | halone
  · rcases (horigin z hz).kin with ⟨w, hw, hwz⟩ | halone
    · rw [hxy.opId, hwz.opId]
      exact h x hx w hw (hclash.of_kin hxy hwz)
    · exact (halone y hy hclash.symm).symm
  · exact halone z hz hclash

lemma Kin.carries {x y : OfflineOperation} (h : Kin x y) (hcarries : y.Carries) : x.Carries := by
  have hkind : y.entityType = x.entityType := congrArg OfflineEntityRef.entityType h.entity
  unfold OfflineOperation.Carries at hcarries ⊢
  rwa [← hkind, ← h.opType]

lemma Kin.queues {x y : OfflineOperation} (h : Kin x y) (b : Action) : b.queues y = b.queues x := by
  have hkind : y.entityType = x.entityType := congrArg OfflineEntityRef.entityType h.entity
  cases b with
  | createEntity => rw [Action.queues, Action.queues, h.opType, h.opId, hkind]
  | updateEntity =>
    rw [Action.queues, Action.queues, h.opType, h.opId, h.entity]
  | _ => rfl

lemma MergedFrom.of_origin {acts : List Action} {queue : List OfflineOperation} (h : MergedFrom acts s.disk.queue)
    (hfields : ∀ x ∈ s.disk.queue, x.Carries → ∀ body, a.updateOf x.entity = some body → body ≠ [])
    (horigin : ∀ y ∈ queue, Origin s a queue y) : MergedFrom (acts ++ [a]) queue := by
  intro y hy hcarries
  cases horigin y hy with
  | kept x mem touched apart =>
    obtain ⟨before, b, after, body, hacts, hqueues, hbody⟩ := h x mem (touched.kin.carries hcarries)
    refine ⟨before, b, after ++ [a], body, by simp [hacts], ?_, ?_⟩
    · rw [touched.kin.queues, hqueues]
    · rw [filterMap_append, filterMap_cons_none (apart hcarries), filterMap_nil, append_nil,
        touched.body, hbody, touched.entity]
  | merged x body fields now mem update carried merge =>
    subst merge
    have hkin := (rebodied_mergeFields fields now x).kin
    have hx := hkin.carries hcarries
    obtain rfl := carried (hfields x mem hx body update)
    obtain ⟨before, b, after, start, hacts, hqueues, hbody⟩ := h x mem hx
    refine ⟨before, b, after ++ [a], start, by simp [hacts], ?_, ?_⟩
    · rw [hkin.queues, hqueues]
    · rw [body_mergeFields, hbody, hkin.entity, filterMap_append,
        filterMap_cons_some update, filterMap_nil, foldl_append, foldl_cons, foldl_nil]
  | queued start =>
    exact ⟨acts, a, [], y.body, rfl, start hcarries, rfl⟩

/-! ### The calls of the user -/

lemma updateFields_updatePayload (path label : String) {body : Dict String Json} (h : body ≠ []) :
    updateFields (updatePayload path body label) = body := by
  simp [updateFields, updatePayload, Dict.get?_cons, mappingDict, Json.fields?, h]

lemma updateOf_of_ne {ref ref' : OfflineEntityRef} (h : ref' ≠ ref) (path : String) (body : Dict String Json)
    (dedupeKey label opId : String) (response : ApiResponse) (now : ℕ) :
    (Action.updateEntity ref path body dedupeKey label opId response now).updateOf ref' = none := by
  rw [Action.updateOf, if_neg]
  exact fun hupdate => h hupdate.1.symm

/-- The action merges its fields into one operation of the queue and updates the record of no other. -/
lemma origin_of_merged {queue : List OfflineOperation} {target : OfflineOperation} {body fields : Dict String Json}
    {now : ℕ} (hqueue : queue = insertOp (mergeFields fields now target) s.disk.queue)
    (hmem : target ∈ s.disk.queue) (hupdate : a.updateOf target.entity = some body)
    (hfields : body ≠ [] → fields = body)
    (hother : ∀ x ∈ s.disk.queue, x.Carries → x.opId ≠ target.opId → a.updateOf x.entity = none) :
    ∀ y ∈ queue, Origin s a queue y := by
  intro y hy
  rw [hqueue] at hy
  rcases mem_insertOp.mp hy with rfl | ⟨hy, hne⟩
  · exact .merged target body fields now hmem hupdate hfields rfl
  · exact .kept y hy (Touched.refl y) fun hcarries => hother y hy hcarries hne

/-- The action queues one operation, which clashes with no other, and updates the record of none. -/
lemma origin_of_queued {queue rest : List OfflineOperation} {op : OfflineOperation}
    (hqueue : queue = insertOp op rest) (hrest : ∀ z ∈ rest, z ∈ s.disk.queue ∧ ¬ Clash op z)
    (hstart : op.Carries → a.queues op = some op.body)
    (hother : ∀ x ∈ s.disk.queue, x.Carries → a.updateOf x.entity = none) :
    ∀ y ∈ queue, Origin s a queue y := by
  have hmem : ∀ z ∈ queue, z = op ∨ z ∈ rest := by
    intro z hz
    rw [hqueue] at hz
    exact (mem_insertOp.mp hz).imp_right And.left
  intro y hy
  rcases hmem y hy with rfl | hy
  · refine .queued hstart fun z hz hclash => ?_
    rcases hmem z hz with rfl | hz
    · rfl
    · exact absurd hclash (hrest z hz).2
  · have hold := (hrest y hy).1
    exact .kept y hold (Touched.refl y) (hother y hold)

lemma origin_queueUpdateOperation (h : WellFormed s) (halone : Alone s.disk.queue) (ref : OfflineEntityRef)
    (path : String) (body : Dict String Json) (dedupeKey label opId : String) (response : ApiResponse) (now : ℕ)
    (hqueued : ref.localId < 0 ∨ response.isRetryable = true) :
    let queue := ((queueUpdateOperation accountKey ref (updatePayload path body label) dedupeKey opId now).exec
      s.disk).queue
    ∀ y ∈ queue, Origin s (.updateEntity ref path body dedupeKey label opId response now) queue y := by
  intro queue
  have hintact := h.agrees.intact
  have hload := loadOps_exec hintact
  set act : Action := .updateEntity ref path body dedupeKey label opId response now with hact
  have hupdates : ∀ {z : OfflineOperation}, z.entity = ref → act.updateOf z.entity = some body := by
    intro z hz
    rw [hz]
    exact if_pos ⟨rfl, hqueued⟩
  have hapart : ∀ z : OfflineOperation, z.entity ≠ ref → act.updateOf z.entity = none := fun z hz =>
    updateOf_of_ne hz path body dedupeKey label opId response now
  have hfields : body ≠ [] → updateFields (updatePayload path body label) = body :=
    updateFields_updatePayload path label
  rcases queueUpdateOperation_cases hintact accountKey ref (updatePayload path body label) dedupeKey opId now with
    ⟨c, hc, hexec⟩ | ⟨hnone, hexec⟩
  · -- merged into the creation of the record
    obtain ⟨hentity, hcreate⟩ := isCreateOf_iff.mp (find?_some hc)
    have hmem := mem_of_find?_eq_some hc
    have hstep := upsertOp_loadOps_step hintact
      (isQueued_mergeFields (isQueued_of_mem_queue hmem) (updateFields (updatePayload path body label)) now)
    rw [← hexec] at hstep
    refine origin_of_merged hstep.queue hmem (hupdates hentity) hfields fun y hy hcarries hne =>
      hapart y fun hsame => hne ?_
    rcases hcarries.2 with hcreate' | hupdate
    · have heq : y = c := h.eq_of_entity hy hmem hcreate' hcreate (hsame.trans hentity.symm)
      rw [heq]
    · exact halone y hy c hmem ⟨hcarries.1, hsame.trans hentity.symm, .inl ⟨hupdate, by simp [hcreate]⟩⟩
  · have hfree : ∀ x ∈ s.disk.queue, x.entity = ref → x.opType ≠ .create := by
      intro x hx hentity hcreate
      have hfalse : isCreateOf ref x ≠ true := by simpa using find?_eq_none.mp hnone x hx
      exact hfalse (isCreateOf_iff.mpr ⟨hentity, hcreate⟩)
    have hitems : ∀ {item}, s.disk.queue.find? (isChangeOf ref) = some item →
        item ∈ s.disk.queue ∧ item.entity = ref ∧ (item.opType = .update ∨ item.opType = .delete) := fun hitem =>
      ⟨mem_of_find?_eq_some hitem, isChangeOf_iff.mp (find?_some hitem)⟩
    -- a queued update of the record would be the operation that was found
    have hupdate : ∀ y ∈ s.disk.queue, y.Carries → y.entity = ref → y.opType = .update := by
      intro y hy hcarries hsame
      exact hcarries.2.resolve_left (hfree y hy hsame)
    have hsameId : ∀ {item}, item ∈ s.disk.queue → item.entity = ref → item.opType ≠ .action →
        ∀ y ∈ s.disk.queue, y.Carries → y.entity = ref → y.opId = item.opId := by
      intro item hmem hentity haction y hy hcarries hsame
      exact halone y hy item hmem ⟨hcarries.1, hsame.trans hentity.symm, .inl ⟨hupdate y hy hcarries hsame, haction⟩⟩
    have hknown := queueUpdateOfKnown_cases hload.present.intact accountKey ref (updatePayload path body label)
      dedupeKey opId now
    rw [hload.queue] at hknown
    rcases hknown with ⟨item, hitem, htype, hknown⟩ | ⟨item, _, hitem, htype, hknown⟩ | ⟨hnew, hknown⟩
    · -- merged into the queued update
      obtain ⟨hmem, hentity, -⟩ := hitems hitem
      have hstep := hload.step.trans (upsertOp_loadOps_step hload.present.intact
        (isQueued_mergeFields (isQueued_of_mem_queue hmem) (updateFields (updatePayload path body label)) now))
      rw [hload.queue, ← hknown, ← hexec] at hstep
      exact origin_of_merged hstep.queue hmem (hupdates hentity) hfields fun y hy hcarries hne =>
        hapart y fun hsame => hne (hsameId hmem hentity (by simp [htype]) y hy hcarries hsame)
    · -- refused after a queued deletion
      obtain ⟨hmem, hentity, hchange⟩ := hitems hitem
      have hload' := loadOps_exec hload.present.intact
      have hqueue : queue = s.disk.queue := by
        simp only [queue]
        rw [hexec, hknown]
        exact hload'.queue.trans hload.queue
      rw [hqueue]
      refine fun y hy => .kept y hy (Touched.refl y) fun hcarries => hapart y fun hsame => htype ?_
      have hdelete : item.opType = .delete := hchange.resolve_left htype
      have hid := hsameId hmem hentity (by simp [hdelete]) y hy hcarries hsame
      rw [← inj_on_of_nodup_map h.agrees.nodup_opId hy hmem hid]
      exact hupdate y hy hcarries hsame
    · -- queued as a new operation
      have hnone' : ∀ x ∈ s.disk.queue, x.entity = ref → x.opType ≠ .action → False := by
        intro x hx hentity haction
        have hfalse : isChangeOf ref x ≠ true := by simpa using find?_eq_none.mp hnew x hx
        have hcreate := hfree x hx hentity
        refine hfalse (isChangeOf_iff.mpr ⟨hentity, ?_⟩)
        cases hop : x.opType <;> simp_all
      have hisQueued : (changeOperation accountKey ref .update (updatePayload path body label) dedupeKey opId
          now).isQueued = true := rfl
      have hstep := hload.step.trans (upsertOp_loadOps_step hload.present.intact hisQueued)
      rw [hload.queue, ← hknown, ← hexec] at hstep
      refine origin_of_queued hstep.queue (fun z hz => ⟨hz, ?_⟩) (fun _ => ?_) fun y hy hcarries =>
        hapart y fun hsame => ?_
      · rintro ⟨-, hentity, htypes⟩
        have haction : z.opType ≠ .action := by
          rcases htypes with ⟨-, haction⟩ | ⟨hupdate, -⟩
          · exact haction
          · simp [hupdate]
        exact hnone' z hz hentity.symm haction
      · rw [hact, Action.queues, if_pos ⟨rfl, rfl, rfl⟩]
        simp [OfflineOperation.body, changeOperation, updatePayload, Dict.get?_cons, mappingDict, Json.fields?]
      · exact hnone' y hy hsame (by simp [hupdate y hy hcarries hsame])

/-- The queue after a deletion: nothing new, or the deletion in the place of the updates of its record. -/
lemma queue_queueDeleteOperation {d : Disk} (h : d.Intact) (accountKey : String) (ref : OfflineEntityRef)
    (payload : Dict String Json) (dedupeKey opId : String) (now : ℕ) :
    let queue := ((queueDeleteOperation accountKey ref payload dedupeKey opId now).exec d).queue
    (∀ y ∈ queue, y ∈ d.queue) ∨ queue = insertOp (changeOperation accountKey ref .delete payload dedupeKey opId now)
        (d.queue.filter fun item => !isUpdateOf ref item) := by
  intro queue
  have hload := loadOps_exec h
  simp only [queue, queueDeleteOperation, exec_bind, findCreateForEntity_exec]
  cases hfind : (findCreateForEntity ref).result d with
  | some c =>
    have hremove := removeOp_shrinks hload.present.intact c.opId
    have hcancel := cancelDependentTempCreates_shrinks hremove.intact ref
    simp only [exec_bind, exec_pure]
    exact .inl fun y hy => ((loadOps_shrinks h).trans (hremove.trans hcancel)).queue.subset hy
  | none =>
    have hdrop := (dropOps_change hload.present.intact (isUpdateOf ref)).step
    have hisQueued : (changeOperation accountKey ref .delete payload dedupeKey opId now).isQueued = true := rfl
    have hstep := (upsertOp_change hdrop.intact hisQueued).step
    simp only [queueDeleteOfKnown, exec_bind, exec_pure]
    rw [hstep.queue, hdrop.queue, hload.queue]
    exact .inr rfl

lemma origin_queueDeleteOperation (h : WellFormed s) (ref : OfflineEntityRef) (payload : Dict String Json)
    (dedupeKey opId : String) (now : ℕ) (hupdate : ∀ ref, a.updateOf ref = none) :
    let queue := ((queueDeleteOperation accountKey ref payload dedupeKey opId now).exec s.disk).queue
    ∀ y ∈ queue, Origin s a queue y := by
  intro queue
  rcases queue_queueDeleteOperation h.agrees.intact accountKey ref payload dedupeKey opId now with
    hold | hnew
  · exact fun y hy => .kept y (hold y hy) (Touched.refl y) fun _ => hupdate _
  · refine origin_of_queued hnew (fun z hz => ?_) (fun hcarries => ?_) fun _ _ _ => hupdate _
    · obtain ⟨hmem, hother⟩ := mem_filter.mp hz
      refine ⟨hmem, ?_⟩
      rintro ⟨-, hentity, htypes⟩
      rcases htypes with ⟨htype, -⟩ | ⟨htype, -⟩
      · cases htype
      · have hupdate : isUpdateOf ref z = true := isUpdateOf_iff.mpr ⟨hentity.symm, htype⟩
        exact absurd hupdate (by simpa using hother)
    · rcases hcarries.2 with htype | htype <;> cases htype

lemma origin_queueGenericApiMutation (h : WellFormed s) (method path : String) (body params : Dict String Json)
    (dedupeKey label opId : String) (now : ℕ) (hupdate : ∀ ref, a.updateOf ref = none) :
    let queue := ((queueGenericApiMutation accountKey method path body params [] dedupeKey label opId now).exec
      s.disk).queue
    ∀ y ∈ queue, Origin s a queue y := by
  intro queue y hy
  set op := genericOperation accountKey method path body params [] dedupeKey label opId now
  have hisQueued : op.isQueued = true := rfl
  have hnew : ∀ {d : Disk}, Quiet s.disk d → ∀ z ∈ ((upsertOp op).exec d).queue, Origin s a queue z := by
    intro d hquiet z hz
    rcases (origin_upsertOp hquiet hisQueued).2.2 z hz with ⟨x, hx, hxz⟩ | rfl
    · exact .kept x hx hxz fun _ => hupdate _
    · exact .queued (fun hcarries => absurd rfl hcarries.1) fun w hw hclash => absurd rfl hclash.1
  simp only [queue, queueGenericApiMutation] at hy
  by_cases hkey : dedupeKey = ""
  · rw [if_neg (by simpa using hkey)] at hy
    exact hnew (Quiet.refl h.agrees.intact) y hy
  · rw [if_pos hkey, exec_bind] at hy
    exact hnew (quiet_dropOps h.agrees.intact _) y hy

lemma origin_queueCreate (h : WellFormed s) (r : OfflineCreateRequest) (opId : String) (response : ApiResponse)
    (now : ℕ) (hfree : MergesFields s (.createEntity r opId response now)) :
    let queue := ((queueCreate accountKey r opId now).exec s.disk).queue
    ∀ y ∈ queue, Origin s (.createEntity r opId response now) queue y := by
  intro queue
  have hstep := queueCreate_step h.agrees.intact accountKey r opId now
  refine origin_of_queued hstep.queue (fun z hz => ⟨hz, ?_⟩) (fun _ => ?_) fun _ _ _ => rfl
  · rintro ⟨hgeneric, hentity, htypes⟩
    rcases htypes with ⟨htype, -⟩ | ⟨htype, -⟩
    · cases htype
    · have hupdate : isUpdateOf ⟨r.entityType, s.disk.nextTempId r.entityType⟩ z = true :=
        isUpdateOf_iff.mpr ⟨hentity.symm, htype⟩
      exact absurd hupdate (by simp [hfree hgeneric z hz])
  · rw [Action.queues, if_pos ⟨rfl, rfl, rfl⟩]
    simp [OfflineOperation.body, queuedCreate, createOperation, createPayload, Dict.get?_cons, mappingDict,
      Json.fields?]

/-! ### Every step -/

/-- The action queues nothing: a retry or a discard, or a step of the replay. -/
def Action.queuesNothing : Action → Bool
  | .createEntity _ _ _ _ | .updateEntity _ _ _ _ _ _ _ _ | .deleteEntity _ _ _ _ _ _ _ _
  | .genericMutation _ _ _ _ _ _ _ _ _ => false
  | _ => true

lemma touched_of_queuesNothing (h : s.disk.Intact) (hstep : s.step accountKey a = some t)
    (hnothing : a.queuesNothing = true) : ∀ y ∈ t.disk.queue, ∃ x ∈ s.disk.queue, Touched x y := by
  obtain ⟨p, hp, rfl⟩ := map_eq_some_iff.mp hstep
  rw [effect_disk hp]
  dsimp only
  cases a with
  | createEntity _ _ _ _ | updateEntity _ _ _ _ _ _ _ _ | deleteEntity _ _ _ _ _ _ _ _
  | genericMutation => cases hnothing
  | retryIssue opId now =>
    cases hp
    exact (rewritten_retryIssue h opId now).quiet.origin
  | discardIssue opId =>
    cases hp
    have hremove := (rewritten_removeConflict h opId).quiet
    unfold discardIssue
    simp only [exec_bind, exec_pure]
    exact (hremove.trans (quiet_discardOperation hremove.intact opId)).origin
  | beginReplay =>
    simp only [Client.effect] at hp
    split at hp <;> cases hp
    rw [exec_bind, exec_pure]
    exact (rewritten_refreshBlockedOperations h).quiet.origin
  | takeReady =>
    simp only [Client.effect] at hp
    split at hp <;> cases hp
    rw [exec_bind, exec_pure, listReadyOperations_exec]
    exact (rewritten_loadOps h).quiet.origin
  | resolve =>
    simp only [Client.effect] at hp
    split at hp <;> cases hp
    rw [exec_bind, exec_read]
    split <;> exact (Quiet.refl h).origin
  | markSyncing now =>
    simp only [Client.effect] at hp
    split at hp <;> cases hp
    have hfinal : OpStatus.isFinal .syncing = false := rfl
    rw [exec_bind, exec_pure]
    exact (rewritten_updateOperationStatus h _ hfinal "" now).quiet.origin
  | send =>
    simp only [Client.effect] at hp
    split at hp <;> cases hp
    exact (Quiet.refl h).origin
  | receive =>
    simp only [Client.effect] at hp
    split at hp <;> cases hp <;> exact (Quiet.refl h).origin
  | finish now =>
    simp only [Client.effect] at hp
    split at hp <;> cases hp
    next op request response ready hphase =>
    rw [exec_bind, exec_pure]
    rcases finishReplay_cases h op response now with ⟨_, -, harrived⟩ | ⟨-, hquiet⟩
    · exact fun y hy => (harrived.origin y hy).2
    · exact hquiet.origin
  | endReplay =>
    simp only [Client.effect] at hp
    split at hp <;> cases hp
    have hrefresh := rewritten_refreshBlockedOperations h
    rw [exec_bind, exec_bind, exec_pure, pendingOperationCount_exec]
    exact (hrefresh.trans (rewritten_loadOps hrefresh.intact)).quiet.origin

/-- Every operation of the queue after a step has an origin. -/
theorem origin_of_step (h : WellFormed s) (halone : Alone s.disk.queue) (hmerges : MergesFields s a)
    (hstep : s.step accountKey a = some t) : ∀ y ∈ t.disk.queue, Origin s a t.disk.queue y := by
  have hnew : ∀ y ∈ s.disk.queue, (∀ ref, a.updateOf ref = none) → Origin s a s.disk.queue y := by
    intro y hy hupdate
    exact .kept y hy (Touched.refl y) fun _ => hupdate _
  by_cases hnothing : a.queuesNothing = true
  · intro y hy
    obtain ⟨x, hx, hxy⟩ := touched_of_queuesNothing h.agrees.intact hstep hnothing y hy
    refine .kept x hx hxy fun _ => ?_
    cases a <;> first | rfl | cases hnothing
  · obtain ⟨p, hp, rfl⟩ := map_eq_some_iff.mp hstep
    rw [effect_disk hp]
    cases a with
    | createEntity request opId response now =>
      obtain ⟨-, rfl⟩ := effect_fresh hp
      unfold createEntity
      rw [exec_bind, exec_read]
      split
      · simp only [exec_bind, exec_pure]
        exact origin_queueCreate h request opId response now hmerges
      · split
        · simp only [exec_bind, exec_pure]
          exact origin_queueCreate h request opId response now hmerges
        · exact fun y hy => hnew y hy fun _ => rfl
    | updateEntity ref path body dedupeKey label opId response now =>
      obtain ⟨-, rfl⟩ := effect_fresh hp
      simp only [updateEntity]
      split
      · next hneg =>
        simp only [exec_bind, exec_pure]
        exact origin_queueUpdateOperation h halone ref path body dedupeKey label opId response now (.inl hneg)
      · split
        · next hretry =>
          simp only [exec_bind, exec_pure]
          exact origin_queueUpdateOperation h halone ref path body dedupeKey label opId response now (.inr hretry)
        · next hneg hretry => exact fun y hy => hnew y hy fun _ => if_neg fun hupdate => by tauto
    | deleteEntity ref _ _ dedupeKey _ opId _ now =>
      obtain ⟨-, rfl⟩ := effect_fresh hp
      simp only [deleteEntity]
      split
      · simp only [exec_bind, exec_pure]
        exact origin_queueDeleteOperation h ref _ dedupeKey opId now fun _ => rfl
      · split
        · simp only [exec_bind, exec_pure]
          exact origin_queueDeleteOperation h ref _ dedupeKey opId now fun _ => rfl
        · exact fun y hy => hnew y hy fun _ => rfl
    | genericMutation method path body params dedupeKey label opId _ now =>
      obtain ⟨-, rfl⟩ := effect_fresh hp
      simp only [genericMutation]
      split
      · simp only [exec_bind, exec_pure]
        exact origin_queueGenericApiMutation h method path body params dedupeKey label opId now fun _ => rfl
      · exact fun y hy => hnew y hy fun _ => rfl
    | _ => exact absurd rfl hnothing

end Origins

section Runs

variable {accountKey : String} {acts : List Action} {s : Client}

lemma MergesFields.fields {a : Action} (h : MergesFields s a) {x : OfflineOperation} (hx : x ∈ s.disk.queue)
    (hcarries : x.Carries) {body : Dict String Json} (hupdate : a.updateOf x.entity = some body) : body ≠ [] := by
  cases a with
  | updateEntity =>
    rw [Action.updateOf] at hupdate
    split at hupdate
    · next hqueued =>
      cases hupdate
      exact h hqueued.2 ⟨x, hx, hqueued.1.symm, hcarries⟩
    · cases hupdate
  | _ => cases hupdate

lemma queue_init : Client.init.disk.queue = [] := rfl

/-- In every run in which no update without fields is merged, and no creation is given the temporary id of a
record that has a queued update, the queue is coalesced and the bodies are those of the updates. -/
theorem coalesced_along (hmerges : Guarded (Client.step accountKey) MergesFields Client.init acts)
    (hrun : run (Client.step accountKey) Client.init acts = some s) :
    Coalesced s.disk.queue ∧ MergedFrom acts s.disk.queue := by
  have hmain : WellFormed s ∧ Alone s.disk.queue ∧ MergedFrom acts s.disk.queue := by
    induction acts using List.reverseRecOn generalizing s with
    | nil =>
      cases hrun
      rw [queue_init]
      exact ⟨wellFormed_init, by simp [Alone], by simp [MergedFrom]⟩
    | append_singleton _ a ih =>
      obtain ⟨r, hbefore, hlast⟩ := run_append_eq_some.mp hrun
      obtain ⟨t, hstep, hrest⟩ := run_cons_eq_some.mp hlast
      cases hrest
      obtain ⟨hguarded, hguard⟩ := guarded_append.mp hmerges
      have hcond : MergesFields r a := (hguard r hbefore).1
      obtain ⟨hwell, halone, hbodies⟩ := ih hguarded hbefore
      have horigin := origin_of_step hwell halone hcond hstep
      refine ⟨hwell.step hstep, halone.of_origin horigin, hbodies.of_origin ?_ horigin⟩
      exact fun x hx hcarries body hupdate => hcond.fields hx hcarries hupdate
  obtain ⟨hwell, halone, hbodies⟩ := hmain
  exact ⟨halone.coalesced hwell.agrees.nodup_opId, hbodies⟩

end Runs

/-! ### A visit that is edited offline -/

def sampleVisit : OfflineCreateRequest :=
  { entityType := .visit, requestBody := [("client_id", .int 5), ("notes", .str "Bring the keys")],
    path := "/crm/visits" }

/-- The visit is created while the server does not answer. -/
def queuedVisit : Action := .createEntity sampleVisit "op-1" (.runtimeError "timeout") 1

/-- An edit of the visit.  `update_visit` leaves the fields that are `None` out of the body. -/
def visitEdit (opId : String) (body : Dict String Json) : Action :=
  .updateEntity ⟨.visit, -1⟩ "/crm/visits/-1" body "PUT:/crm/visits/-1" "visit.update" opId (.notSent "offline") 2

/-- An edit of a client of the server, made offline. -/
def clientEdit (opId : String) (body : Dict String Json) : Action :=
  .updateEntity ⟨.client, 7⟩ "/clients/7" body "PUT:/clients/7" "client.update" opId (.notSent "offline") 3

def editedTwice : List Action :=
  [queuedVisit, visitEdit "op-2" [("notes", .str "Ring twice")],
    clientEdit "op-3" [("phone", .str "1"), ("city", .str "Oran")],
    visitEdit "op-4" [("status", .str "done")], clientEdit "op-5" [("phone", .str "2")]]

/-- Each record has one operation, with the latest value of every field. -/
theorem coalesced_along_editedTwice : ∃ s, run (Client.step "acc") Client.init editedTwice = some s ∧
    s.disk.queue.map (fun op => (op.opId, op.body)) =
      [("op-1", [("client_id", .int 5), ("notes", .str "Ring twice"), ("status", .str "done")]),
        ("op-3", [("phone", .str "2"), ("city", .str "Oran")])] ∧
    Coalesced s.disk.queue ∧ MergedFrom editedTwice s.disk.queue := by
  have hfacts : (run (Client.step "acc") Client.init editedTwice).map (fun s =>
      s.disk.queue.map fun op => (op.opId, op.body))
      = some [("op-1", [("client_id", .int 5), ("notes", .str "Ring twice"), ("status", .str "done")]),
          ("op-3", [("phone", .str "2"), ("city", .str "Oran")])] := by decide +kernel
  obtain ⟨s, hrun, hqueue⟩ := map_eq_some_iff.mp hfacts
  exact ⟨s, hrun, hqueue, coalesced_along (by decide +kernel) hrun⟩

/-- The only field of an edit is `None`: the creation will carry the method, the path and the label of the edit. -/
theorem edit_without_fields_merges_envelope : ¬ ∀ acts s, run (Client.step "acc") Client.init acts = some s →
    Coalesced s.disk.queue ∧ MergedFrom acts s.disk.queue := by
  intro h
  have hfacts : (run (Client.step "acc") Client.init [queuedVisit, visitEdit "op-2" []]).map (fun s =>
      s.disk.queue.map fun op => (op.opType, op.entityType, op.body))
      = some [(.create, .visit, [("client_id", .int 5), ("notes", .str "Bring the keys"), ("method", .str "PUT"),
          ("path", .str "/crm/visits/-1"), ("body", .obj []), ("label", .str "visit.update")])] := by decide +kernel
  obtain ⟨s, hrun, hqueue⟩ := map_eq_some_iff.mp hfacts
  obtain ⟨op, hop, htriple⟩ : ∃ op ∈ s.disk.queue, (op.opType, op.entityType, op.body) = (.create, .visit,
      [("client_id", .int 5), ("notes", .str "Bring the keys"), ("method", .str "PUT"),
        ("path", .str "/crm/visits/-1"), ("body", .obj []), ("label", .str "visit.update")]) :=
    mem_map.mp (by rw [hqueue]; exact mem_singleton_self _)
  simp only [Prod.mk.injEq] at htriple
  obtain ⟨htype, hkind, hbody⟩ := htriple
  obtain ⟨before, a, _, body, hacts, hqueues, hmerged⟩ :=
    (h _ s hrun).2 op hop ⟨by simp [hkind], .inl htype⟩
  rcases before with _ | ⟨b, _ | ⟨c, _⟩⟩
  · -- the creation queued the operation, and the edit has no fields
    simp only [nil_append, List.cons.injEq] at hacts
    obtain ⟨rfl, rfl⟩ := hacts
    have hstart : body = sampleVisit.requestBody := by
      rw [queuedVisit, Action.queues] at hqueues
      split at hqueues
      · exact (some.inj hqueues).symm
      · cases hqueues
    have hedit : (visitEdit "op-2" []).updateOf op.entity = none ∨
        (visitEdit "op-2" []).updateOf op.entity = some [] := by
      rw [visitEdit, Action.updateOf]
      split
      · exact .inr rfl
      · exact .inl rfl
    have hkept : op.body = sampleVisit.requestBody := by
      rcases hedit with hedit | hedit
      · rw [hmerged, filterMap_cons_none hedit, hstart]
        rfl
      · rw [hmerged, filterMap_cons_some hedit, hstart]
        rfl
    rw [hbody] at hkept
    exact absurd hkept (by decide)
  · simp only [cons_append, nil_append, List.cons.injEq] at hacts
    obtain ⟨rfl, rfl, rfl⟩ := hacts
    simp [visitEdit, Action.queues, htype] at hqueues
  · simp at hacts

end ImmoApp.Offline
