import ImmoApp.Offline.Orphans
import ImmoApp.Offline.Projections

/-!
# The arrival of a created record

When a creation succeeds, `_apply_create_success` puts the server's id in the place of the temporary one: in the id map,
in the projections, in the queued uploads, and in the journal.

`create_reconciled_iff`: nothing refers to the temporary id any more; but the stored record has the server's id exactly
when the item of the response, or the body of the request in its place, carries no other one.
-/

namespace ImmoApp.Offline

open OfflineOperation List Option

def OpStatus.name : OpStatus → String
  | .pending => "pending"
  | .syncing => "syncing"
  | .blocked => "blocked"
  | .needsReview => "needs_review"
  | .applied => "applied"
  | .cancelled => "cancelled"

namespace Account

/-- The fields of a record that has arrived: the item of the answer, or what was sent. -/
def arrivedFields (responsePayload requestBody : Dict String Json) : Dict String Json :=
  match responsePayload.get? "item" with
  | some (.obj item) => item
  | _ => requestBody

def serverPayload (responsePayload requestBody : Dict String Json) (createdId : ℤ) : Dict String Json :=
  let fields := arrivedFields responsePayload requestBody
  if (fields.get? "id").isSome then fields else fields.set "id" (.int createdId)

/-- One round of the loop of `_sync_create_projection_statuses`. -/
def syncCreateStatus (op : OfflineOperation) (store : ProjectionStore) : ProjectionStore :=
  match store.get? op.entity with
  | none => store
  | some r =>
    if r.syncStatus ≠ op.status.name ∨ r.syncError ≠ op.lastError then
      store.markStatus op.entity op.status.name op.lastError none none
    else store

def syncCreateProjectionStatuses : AccountProg Unit := do
  let ops ← onJournal listOperations
  Prog.forEach (fun op =>
      if op.opType ≠ .create ∨ op.entityType = .generic ∨ 0 ≤ op.localId then pure ()
      else onProjections (syncCreateStatus op))
    ops

/-- `_apply_create_success`; the text is that of the exception of a response without an id. -/
def applyCreateSuccess (op : OfflineOperation) (responsePayload requestBody : Dict String Json) (now : ℕ) :
    AccountProg (Except String Unit) :=
  match createdId responsePayload with
  | .error message => pure (.error message)
  | .ok serverId => do
    onJournal (recordReconciledId op.entity serverId)
    onProjections (ProjectionStore.reconcile op.entityType op.localId serverId
      (serverPayload responsePayload requestBody serverId))
    onProjections (ProjectionStore.rewriteParentRefs op.entityType op.localId serverId)
    onUploads fun items => (rewriteMediaParentRefs op.entityType op.localId serverId now items).2
    let _ ← onJournal (updateOperationStatus op.opId .applied "" now)
    onJournal (removeConflict op.opId)
    let _ ← onJournal refreshBlockedOperations
    syncCreateProjectionStatuses
    pure (.ok ())

structure Reconciled (op : OfflineOperation) (serverId : ℤ) (s : AccountFiles) : Prop where
  temp : s.projections.get? op.entity = none
  /-- The record is under the server's id, and carries it. -/
  stored : ∃ r, s.projections.get? ⟨op.entityType, serverId⟩ = some r ∧ r.data.get? "id" = some (.int serverId)
  /-- No projection of a dependent names the temporary id. -/
  dependents : ∀ e ∈ dependentReferenceFields op.entityType, ∀ r ∈ s.projections.list e.1,
    r.refersTo e.2 op.localId = false
  uploads : ∀ item ∈ listMediaUploads s.uploads, item.hasParent op.entityType op.localId = false

section Fields

variable {store store' store'' : ProjectionStore} {ref : OfflineEntityRef}

/-- The records are the same but for their statuses. -/
def SameFields (store store' : ProjectionStore) : Prop :=
  ∀ ref, (store'.get? ref).map ProjectionRecord.data = (store.get? ref).map ProjectionRecord.data

lemma SameFields.refl (store : ProjectionStore) : SameFields store store := fun _ => rfl

lemma SameFields.trans (h : SameFields store store') (h' : SameFields store' store'') : SameFields store store'' :=
  fun ref => (h' ref).trans (h ref)

lemma sameFields_markStatus (store : ProjectionStore) (ref : OfflineEntityRef) (syncStatus syncError : String)
    (isLocalOnly : Option Bool) (serverId : Option ℤ) :
    SameFields store (store.markStatus ref syncStatus syncError isLocalOnly serverId) := by
  intro ref'
  unfold ProjectionStore.markStatus
  cases hget : store.get? ref with
  | none => rfl
  | some r =>
    have hentity : r.entity = ref := ProjectionStore.entity_of_get? hget
    rw [ProjectionStore.get?_upsert]
    split
    · next heq =>
      have hsame : ref' = ref := heq.trans hentity
      rw [hsame, hget]
      rfl
    · rfl

lemma sameFields_syncCreateStatus (op : OfflineOperation) (store : ProjectionStore) :
    SameFields store (syncCreateStatus op store) := by
  unfold syncCreateStatus
  split
  · exact SameFields.refl store
  · split
    · exact sameFields_markStatus store op.entity op.status.name op.lastError none none
    · exact SameFields.refl store

lemma sameFields_syncCreateProjectionStatuses (s : AccountFiles) :
    SameFields s.projections (syncCreateProjectionStatuses.exec s).projections ∧
      (syncCreateProjectionStatuses.exec s).uploads = s.uploads := by
  rw [syncCreateProjectionStatuses, Prog.exec_bind]
  refine Prog.exec_forEach_induction
    (P := fun t : AccountFiles => SameFields s.projections t.projections ∧ t.uploads = s.uploads) _ _
    (fun op _ t ht => ?_) ?_
  · split
    · exact ht
    · exact ⟨ht.1.trans (sameFields_syncCreateStatus op t.projections), ht.2⟩
  · rw [exec_onJournal]
    exact ⟨SameFields.refl _, rfl⟩

end Fields

/-! ### Rewriting the references -/

section Rewriting

variable {store store' : ProjectionStore} {ref : OfflineEntityRef} {r : ProjectionRecord} {field : String}
  {oldLocalId newServerId : ℤ}

def Cleared (field : String) (id : ℤ) (store : ProjectionStore) (ref : OfflineEntityRef) : Prop :=
  ∃ r, store.get? ref = some r ∧ r.refersTo field id = false

/-- One step of the loop over the records of a kind. -/
def rewriteRecord (field : String) (oldLocalId newServerId : ℤ) (store : ProjectionStore) (r : ProjectionRecord) :
    ProjectionStore :=
  if r.refersTo field oldLocalId then store.upsert (r.redirect field newServerId) else store

@[simp] lemma entity_redirect (field : String) (id : ℤ) (r : ProjectionRecord) :
    (r.redirect field id).entity = r.entity := rfl

lemma refersTo_redirect (hne : newServerId ≠ oldLocalId) (r : ProjectionRecord) :
    (r.redirect field newServerId).refersTo field oldLocalId = false := by
  have hvalue : (r.redirect field newServerId).data.get? field = some (.int newServerId) := by
    rw [ProjectionRecord.redirect, Dict.get?_set, if_pos rfl]
  rw [ProjectionRecord.refersTo, hvalue]
  simpa [referenceValue, Json.toInt?] using hne

lemma get?_rewriteRecord_of_ne (h : r.entity ≠ ref) :
    (rewriteRecord field oldLocalId newServerId store r).get? ref = store.get? ref := by
  unfold rewriteRecord
  split
  · rw [ProjectionStore.get?_upsert, if_neg fun heq => h heq.symm]
  · rfl

lemma Cleared.step (hne : newServerId ≠ oldLocalId) (h : Cleared field oldLocalId store ref)
    (r : ProjectionRecord) : Cleared field oldLocalId (rewriteRecord field oldLocalId newServerId store r) ref := by
  by_cases heq : r.entity = ref
  · unfold rewriteRecord
    split
    · refine ⟨_, ?_, refersTo_redirect hne r⟩
      rw [ProjectionStore.get?_upsert, entity_redirect, if_pos heq.symm]
    · exact h
  · obtain ⟨r', hget, hclear⟩ := h
    exact ⟨r', (get?_rewriteRecord_of_ne heq).trans hget, hclear⟩

lemma Cleared.foldl (hne : newServerId ≠ oldLocalId) (xs : List ProjectionRecord)
    (h : Cleared field oldLocalId store ref) :
    Cleared field oldLocalId (xs.foldl (rewriteRecord field oldLocalId newServerId) store) ref := by
  induction xs generalizing store with
  | nil => exact h
  | cons x _ ih => exact ih (h.step hne x)

variable {xs : List ProjectionRecord}

lemma cleared_of_mem (hne : newServerId ≠ oldLocalId) (hr : r ∈ xs) (hrefers : r.refersTo field oldLocalId = true) :
    Cleared field oldLocalId (xs.foldl (rewriteRecord field oldLocalId newServerId) store) r.entity := by
  induction xs generalizing store with
  | nil => cases hr
  | cons x xs ih =>
    rcases mem_cons.mp hr with rfl | hmem
    · refine Cleared.foldl hne xs ⟨_, ?_, refersTo_redirect hne r⟩
      rw [rewriteRecord, if_pos hrefers, ProjectionStore.get?_upsert, entity_redirect, if_pos rfl]
    · exact ih hmem

lemma get?_foldl_rewriteRecord (h : ∀ r ∈ xs, r.entity ≠ ref) :
    (xs.foldl (rewriteRecord field oldLocalId newServerId) store).get? ref = store.get? ref := by
  induction xs generalizing store with
  | nil => rfl
  | cons x _ ih =>
    rw [foldl_cons, ih fun r hr => h r (mem_cons_of_mem _ hr), get?_rewriteRecord_of_ne (h x mem_cons_self)]

lemma rewriteField_eq (store : ProjectionStore) (e : EntityType × String) :
    store.rewriteField oldLocalId newServerId e
      = (store.list e.1).foldl (rewriteRecord e.2 oldLocalId newServerId) store := rfl

lemma get?_rewriteField_of_ne {e : EntityType × String} (h : ref.entityType ≠ e.1) :
    (store.rewriteField oldLocalId newServerId e).get? ref = store.get? ref := by
  rw [rewriteField_eq]
  refine get?_foldl_rewriteRecord fun r hr heq => h ?_
  rw [← heq]
  exact (ProjectionStore.mem_list.mp hr).2

lemma refersTo_of_mem_rewriteField (hne : newServerId ≠ oldLocalId) {e : EntityType × String}
    (hr : r ∈ (store.rewriteField oldLocalId newServerId e).list e.1) : r.refersTo e.2 oldLocalId = false := by
  obtain ⟨hget, htype⟩ := ProjectionStore.mem_list.mp hr
  have hclear : Cleared e.2 oldLocalId (store.rewriteField oldLocalId newServerId e) r.entity := by
    rw [rewriteField_eq] at hget ⊢
    cases hold : store.get? r.entity with
    | none =>
      have hother : ∀ x ∈ store.list e.1, x.entity ≠ r.entity := by
        intro x hx heq
        have hx' := (ProjectionStore.mem_list.mp hx).1
        rw [heq, hold] at hx'
        cases hx'
      rw [get?_foldl_rewriteRecord hother, hold] at hget
      cases hget
    | some x =>
      have hentity : x.entity = r.entity := ProjectionStore.entity_of_get? hold
      have hmem : x ∈ store.list e.1 := by
        refine ProjectionStore.mem_list.mpr ⟨by rw [hentity, hold], ?_⟩
        exact (congrArg OfflineEntityRef.entityType hentity).trans htype
      cases hrefers : x.refersTo e.2 oldLocalId with
      | true =>
        rw [← hentity]
        exact cleared_of_mem hne hmem hrefers
      | false => exact Cleared.foldl hne _ ⟨x, hold, hrefers⟩
  obtain ⟨_, hget', hclear⟩ := hclear
  rw [hget] at hget'
  cases hget'
  exact hclear

lemma get?_foldl_rewriteField {es : List (EntityType × String)} (h : ∀ e ∈ es, ref.entityType ≠ e.1) :
    (es.foldl (ProjectionStore.rewriteField oldLocalId newServerId) store).get? ref = store.get? ref := by
  induction es generalizing store with
  | nil => rfl
  | cons e _ ih =>
    rw [foldl_cons, ih fun e' he' => h e' (mem_cons_of_mem _ he'), get?_rewriteField_of_ne (h e mem_cons_self)]

lemma refersTo_of_mem_foldl (hne : newServerId ≠ oldLocalId) {es : List (EntityType × String)}
    (hdistinct : (es.map Prod.fst).Nodup) {e : EntityType × String} (he : e ∈ es)
    (hr : r ∈ (es.foldl (ProjectionStore.rewriteField oldLocalId newServerId) store).list e.1) :
    r.refersTo e.2 oldLocalId = false := by
  induction es generalizing store with
  | nil => cases he
  | cons e' es ih =>
    obtain ⟨hnew, hdistinct⟩ := nodup_cons.mp hdistinct
    rcases mem_cons.mp he with rfl | hmem
    · obtain ⟨hget, htype⟩ := ProjectionStore.mem_list.mp hr
      have hother : ∀ e' ∈ es, r.entity.entityType ≠ e'.1 := by
        intro e' he' heq
        have hsame : e'.1 = e.1 := heq.symm.trans htype
        exact hnew (hsame ▸ mem_map_of_mem he')
      rw [foldl_cons, get?_foldl_rewriteField hother] at hget
      exact refersTo_of_mem_rewriteField hne (ProjectionStore.mem_list.mpr ⟨hget, htype⟩)
    · exact ih hdistinct hmem hr

lemma nodup_dependentReferenceFields (entityType : EntityType) :
    ((dependentReferenceFields entityType).map Prod.fst).Nodup := by
  cases entityType <;> decide

lemma ne_of_mem_dependentReferenceFields {entityType : EntityType} :
    ∀ e ∈ dependentReferenceFields entityType, entityType ≠ e.1 := by
  cases entityType <;> decide

end Rewriting

/-! ### What the arrival leaves -/

section Arrival

variable {s : AccountFiles} {op : OfflineOperation} {responsePayload requestBody : Dict String Json} {serverId : ℤ}
  {now : ℕ}

/-- The projections before their statuses are set. -/
def arrivedProjections (op : OfflineOperation) (fields : Dict String Json) (serverId : ℤ) (store : ProjectionStore) :
    ProjectionStore :=
  (store.reconcile op.entityType op.localId serverId fields).rewriteParentRefs op.entityType op.localId serverId

lemma applyCreateSuccess_ok (op : OfflineOperation) (requestBody : Dict String Json) (s : AccountFiles) (now : ℕ)
    (h : createdId responsePayload = .ok serverId) :
    let t := (applyCreateSuccess op responsePayload requestBody now).exec s
    SameFields (arrivedProjections op (serverPayload responsePayload requestBody serverId) serverId s.projections)
        t.projections ∧
      t.uploads = (rewriteMediaParentRefs op.entityType op.localId serverId now s.uploads).2 := by
  simp only [applyCreateSuccess, h, Prog.exec_bind, exec_onJournal, exec_onProjections, exec_onUploads,
    Prog.exec_pure]
  exact sameFields_syncCreateProjectionStatuses _

lemma get?_arrivedProjections {ref : OfflineEntityRef} (fields : Dict String Json) (store : ProjectionStore)
    (h : ref.entityType = op.entityType) :
    (arrivedProjections op fields serverId store).get? ref
      = (store.reconcile op.entityType op.localId serverId fields).get? ref := by
  refine get?_foldl_rewriteField fun e he => ?_
  rw [h]
  exact ne_of_mem_dependentReferenceFields e he

lemma id_serverPayload_iff : (serverPayload responsePayload requestBody serverId).get? "id" = some (.int serverId) ↔
    (arrivedFields responsePayload requestBody).get? "id" = none ∨
      (arrivedFields responsePayload requestBody).get? "id" = some (.int serverId) := by
  unfold serverPayload
  cases hid : (arrivedFields responsePayload requestBody).get? "id" with
  | none => simp [hid, Dict.get?_set]
  | some => simp [hid]

lemma not_hasParent_rewriteMediaParentRefs (htemp : op.localId < 0) (hpos : 0 < serverId) {items : List MediaUpload}
    {item : MediaUpload}
    (hitem : item ∈ listMediaUploads (rewriteMediaParentRefs op.entityType op.localId serverId now items).2) :
    item.hasParent op.entityType op.localId = false := by
  obtain ⟨v, hv, rfl⟩ := mem_map.mp hitem
  obtain ⟨u, -, htype, hparent⟩ := mem_rewriteMediaParentRefs hv
  rw [Bool.eq_false_iff]
  intro hhas
  obtain ⟨hkind, hid⟩ : (normalizeItem v).parentEntityType = some op.entityType ∧
      (normalizeItem v).parentLocalId.getD 0 = op.localId := by simpa [MediaUpload.hasParent] using hhas
  cases hparentId : (normalizeItem v).parentLocalId with
  | none =>
    rw [hparentId, getD_none] at hid
    omega
  | some p =>
    rw [hparentId, getD_some] at hid
    rcases hparent p (mem_parentLocalId_normalizeItem.mp hparentId).1 with _ | ⟨-, hother⟩
    · omega
    · exact hother ⟨htype.symm.trans hkind, hid⟩

variable {fields : Dict String Json}

lemma temp_of_sameFields {store store' : ProjectionStore} (hne : serverId ≠ op.localId)
    (h : SameFields (arrivedProjections op fields serverId store) store') : store'.get? op.entity = none := by
  have hother : op.entity ≠ ⟨op.entityType, serverId⟩ := fun heq =>
    hne (congrArg OfflineEntityRef.localId heq).symm
  have hnone : (arrivedProjections op fields serverId store).get? op.entity = none := by
    rw [get?_arrivedProjections fields store rfl, ProjectionStore.get?_reconcile, if_neg hother]
    exact if_pos rfl
  have hmap := h op.entity
  rw [hnone, map_none, map_eq_none_iff] at hmap
  exact hmap

lemma dependents_of_sameFields {store store' : ProjectionStore}
    (hne : serverId ≠ op.localId) (h : SameFields (arrivedProjections op fields serverId store) store') :
    ∀ e ∈ dependentReferenceFields op.entityType, ∀ r ∈ store'.list e.1, r.refersTo e.2 op.localId = false := by
  intro e he r hr
  obtain ⟨hget, htype⟩ := ProjectionStore.mem_list.mp hr
  have hmap := h r.entity
  rw [hget, map_some] at hmap
  obtain ⟨r', hget', hdata⟩ := map_eq_some_iff.mp hmap.symm
  have hentity : r'.entity = r.entity := ProjectionStore.entity_of_get? hget'
  have hmem : r' ∈ (arrivedProjections op fields serverId store).list e.1 := by
    refine ProjectionStore.mem_list.mpr ⟨by rw [hentity, hget'], ?_⟩
    exact (congrArg OfflineEntityRef.entityType hentity).trans htype
  have hclear := refersTo_of_mem_foldl hne (nodup_dependentReferenceFields op.entityType) he hmem
  rw [ProjectionRecord.refersTo, ← hdata]
  exact hclear

/-- When the creation of a temporary record has succeeded, nothing refers to the temporary id any more; the record
that is stored under the server's id carries it exactly when the item of the answer, or the body of the request when
there is no item, has no id or the server's. -/
theorem create_reconciled_iff (s : AccountFiles) (op : OfflineOperation)
    (responsePayload requestBody : Dict String Json) (now : ℕ) (serverId : ℤ) (htemp : op.localId < 0)
    (hcreated : createdId responsePayload = .ok serverId) :
    Reconciled op serverId ((applyCreateSuccess op responsePayload requestBody now).exec s) ↔
      (arrivedFields responsePayload requestBody).get? "id" = none ∨
        (arrivedFields responsePayload requestBody).get? "id" = some (.int serverId) := by
  have hpos : 0 < serverId := createdId_pos hcreated
  have hne : serverId ≠ op.localId := by omega
  obtain ⟨hfields, huploads⟩ := applyCreateSuccess_ok op requestBody s now hcreated
  generalize (applyCreateSuccess op responsePayload requestBody now).exec s = t at hfields huploads ⊢
  have hserver := hfields ⟨op.entityType, serverId⟩
  rw [get?_arrivedProjections _ _ rfl, ProjectionStore.get?_reconcile, if_pos rfl, map_some] at hserver
  obtain ⟨r, hget, hdata⟩ := map_eq_some_iff.mp hserver
  rw [← id_serverPayload_iff]
  constructor
  · intro h
    obtain ⟨_, hget', hid⟩ := h.stored
    rw [hget] at hget'
    cases hget'
    rwa [hdata] at hid
  · intro hid
    refine ⟨?_, ⟨r, hget, by rw [hdata, hid]⟩, ?_, ?_⟩
    · exact temp_of_sameFields hne hfields
    · intro e he r hr
      exact dependents_of_sameFields hne hfields e he r hr
    · rw [huploads]
      exact fun item hitem => not_hasParent_rewriteMediaParentRefs htemp hpos hitem

end Arrival

/-- A client that was created offline, and then edited: the edit has put the temporary id into the body. -/
def sampleCreate : OfflineOperation :=
  { opId := "op-a", accountKey := "account", entityType := .client, opType := .create, localId := -1,
    payload := [("method", .str "POST"), ("path", .str "/clients"),
      ("body", .obj [("family_name", .str "Benali"), ("id", .int (-1))])],
    createdAt := 1, updatedAt := 2 }

/-- The client's creation is being sent; a visit names it, and a photo waits for another record. -/
def sampleSending : AccountFiles where
  disk := { Disk.empty with pendingFile := .value (.list [some { sampleCreate with status := .syncing }]) }
  projections :=
    (ProjectionStore.empty.upsert
      ⟨.client, -1, none, [("family_name", .str "Benali"), ("id", .int (-1))], "syncing", "", true⟩).upsert
      ⟨.visit, -1, none, [("client_id", .int (-1)), ("listing_id", .int 5), ("id", .int (-1))], "blocked", "", true⟩
  uploads := []

/-- A fresh answer carries the item, which has the server's id. -/
theorem create_reconciled_iff_fresh : Reconciled sampleCreate 41 ((applyCreateSuccess sampleCreate
      [("id", .int 41), ("item", .obj [("id", .int 41), ("family_name", .str "Benali")])] sampleCreate.body 3).exec
      sampleSending) :=
  (create_reconciled_iff sampleSending sampleCreate
    [("id", .int 41), ("item", .obj [("id", .int 41), ("family_name", .str "Benali")])] sampleCreate.body 3 41
    (by decide) (by decide)).mpr (.inr (by decide))

/-- The replay of the answer carries the id alone, and the client is stored with its temporary id. -/
theorem replayed_create_keeps_temp_id : createdId [("id", .int 41)] = .ok 41 ∧ sampleCreate.localId < 0 ∧
      ¬Reconciled sampleCreate 41
        ((applyCreateSuccess sampleCreate [("id", .int 41)] sampleCreate.body 3).exec sampleSending) := by
  refine ⟨by decide, by decide, fun h => ?_⟩
  obtain ⟨r, hget, hid⟩ := h.stored
  have hstored : (((applyCreateSuccess sampleCreate [("id", .int 41)] sampleCreate.body 3).exec
      sampleSending).projections.get? ⟨.client, 41⟩).map (fun r => r.data.get? "id") = some (some (.int (-1))) := by
    decide +kernel
  have htype : sampleCreate.entityType = .client := rfl
  rw [htype] at hget
  rw [hget, map_some, hid] at hstored
  exact absurd hstored (by decide)

end Account

end ImmoApp.Offline
