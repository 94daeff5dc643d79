import ImmoApp.Foundation.Totals
import ImmoApp.Offline.Uploads

/-!
# The projections

The functions of `offline_projection.py` on `projection_snapshot.json`.  A projection is the client's own copy of a
record that was created, changed or deleted offline, or has just arrived.  Nothing but `upsert_projection_record` writes
a record, under its own id, so that a store carries the two facts about its rows as fields.

`AccountProg` is a program on the projections, the journal and the uploads.
-/

namespace ImmoApp.Offline

/-! ### Records -/

/-- `OfflineProjectionRecord`. -/
structure ProjectionRecord where
  entityType : EntityType
  localId : ℤ
  serverId : Option ℤ
  data : Dict String Json
  syncStatus : String
  syncError : String := ""
  isLocalOnly : Bool := false

def ProjectionRecord.entity (r : ProjectionRecord) : OfflineEntityRef := ⟨r.entityType, r.localId⟩

/-- `projection_snapshot.json`. -/
structure ProjectionStore where
  /-- The records, in the order in which they were first written. -/
  rows : ImmoApp.Keyed OfflineEntityRef ProjectionRecord
  own : ∀ ref r, rows.get? ref = some r → r.entity = ref

namespace ProjectionStore

def empty : ProjectionStore where
  rows := ImmoApp.Keyed.empty
  own := by
    intro ref r h
    rw [ImmoApp.Keyed.get?_empty] at h
    cases h

/-- `list_projection_records`. -/
def list (store : ProjectionStore) (entityType : EntityType) : List ProjectionRecord :=
  (store.rows.entries.filter fun e => e.1.entityType = entityType).map Prod.snd

/-- `get_projection_record`. -/
def get? (store : ProjectionStore) (ref : OfflineEntityRef) : Option ProjectionRecord := store.rows.get? ref

/-- `upsert_projection_record`. -/
def upsert (r : ProjectionRecord) (store : ProjectionStore) : ProjectionStore where
  rows := store.rows.set r.entity r
  own := by
    intro ref r' h
    rw [ImmoApp.Keyed.get?_set] at h
    split at h
    · next heq =>
      cases h
      exact heq.symm
    · exact store.own ref r' h

/-- `remove_projection_record`. -/
def remove (ref : OfflineEntityRef) (store : ProjectionStore) : ProjectionStore where
  rows := store.rows.deleteKey ref
  own := by
    intro ref' r h
    rw [ImmoApp.Keyed.get?_deleteKey] at h
    split at h
    · cases h
    · exact store.own ref' r h

/-- `mark_projection_status`; what is not given stays. -/
def markStatus (ref : OfflineEntityRef) (syncStatus syncError : String) (isLocalOnly : Option Bool)
    (serverId : Option ℤ) (store : ProjectionStore) : ProjectionStore :=
  match store.get? ref with
  | none => store
  | some r =>
    store.upsert
      { r with
        serverId := serverId.or r.serverId
        syncStatus, syncError
        isLocalOnly := isLocalOnly.getD r.isLocalOnly }

/-- `reconcile_projection_record`. -/
def reconcile (entityType : EntityType) (tempId serverId : ℤ) (serverPayload : Dict String Json)
    (store : ProjectionStore) : ProjectionStore :=
  (store.remove ⟨entityType, tempId⟩).upsert
    { entityType, localId := serverId, serverId := some serverId, data := serverPayload, syncStatus := "synced" }

end ProjectionStore

/-- `_DEPENDENT_REFERENCE_FIELDS`: the kinds of record that name a record of a kind, with the field that does. -/
def dependentReferenceFields : EntityType → List (EntityType × String)
  | .client => [(.demande, "client_id"), (.visit, "client_id"), (.contract, "client_id")]
  | .listing => [(.offer, "listing_id"), (.visit, "listing_id"), (.contract, "listing_id")]
  | .contract => [(.contractArticle, "contract_id")]
  | _ => []

/-- The value that `int` gives for a number or a text; what is neither, or is no numeral, names nothing. -/
def referenceValue : Json → Option ℤ
  | .scalar .null | .arr _ | .obj _ => none
  | v => v.toInt?

def ProjectionRecord.refersTo (field : String) (id : ℤ) (r : ProjectionRecord) : Bool :=
  (r.data.get? field).bind referenceValue = some id

def ProjectionRecord.redirect (field : String) (id : ℤ) (r : ProjectionRecord) : ProjectionRecord :=
  { r with data := r.data.set field (.int id) }

namespace ProjectionStore

def rewriteField (oldLocalId newServerId : ℤ) (store : ProjectionStore) (e : EntityType × String) :
    ProjectionStore :=
  (store.list e.1).foldl
    (fun store r => if r.refersTo e.2 oldLocalId then store.upsert (r.redirect e.2 newServerId) else store) store

/-- `rewrite_projection_parent_refs`; the number of changed records is left out. -/
def rewriteParentRefs (parentEntityType : EntityType) (oldLocalId newServerId : ℤ) (store : ProjectionStore) :
    ProjectionStore :=
  (dependentReferenceFields parentEntityType).foldl (rewriteField oldLocalId newServerId) store

section Lookups

variable {store : ProjectionStore} {r : ProjectionRecord} {ref : OfflineEntityRef}

@[simp] lemma get?_upsert (store : ProjectionStore) (r : ProjectionRecord) (ref : OfflineEntityRef) :
    (store.upsert r).get? ref = if ref = r.entity then some r else store.get? ref :=
  ImmoApp.Keyed.get?_set store.rows r.entity ref r

@[simp] lemma get?_remove (store : ProjectionStore) (ref ref' : OfflineEntityRef) :
    (store.remove ref).get? ref' = if ref' = ref then none else store.get? ref' :=
  ImmoApp.Keyed.get?_deleteKey

lemma get?_reconcile (entityType : EntityType) (tempId serverId : ℤ) (fields : Dict String Json)
    (store : ProjectionStore) (ref : OfflineEntityRef) :
    (store.reconcile entityType tempId serverId fields).get? ref = if ref = ⟨entityType, serverId⟩ then
          some { entityType, localId := serverId, serverId := some serverId, data := fields, syncStatus := "synced" }
        else if ref = ⟨entityType, tempId⟩ then none else store.get? ref := by
  rw [reconcile, get?_upsert, get?_remove]
  rfl

lemma eq_of_entries_eq {store' : ProjectionStore} (h : store.rows.entries = store'.rows.entries) :
    store = store' := by
  cases store
  cases store'
  cases ImmoApp.Keyed.eq_of_entries_eq h
  rfl

lemma entity_of_get? (h : store.get? ref = some r) : r.entity = ref := store.own ref r h

lemma mem_list {entityType : EntityType} :
    r ∈ store.list entityType ↔ store.get? r.entity = some r ∧ r.entityType = entityType := by
  unfold list
  rw [List.mem_map]
  constructor
  · rintro ⟨⟨ref, r'⟩, hmem, rfl⟩
    obtain ⟨hrow, htype⟩ := List.mem_filter.mp hmem
    have hget : store.get? ref = some r' := ImmoApp.Keyed.mem_entries_iff.mp hrow
    have hentity := entity_of_get? hget
    rw [hentity]
    refine ⟨hget, ?_⟩
    rw [← (decide_eq_true_eq.mp htype), ← hentity]
    rfl
  · rintro ⟨hget, htype⟩
    exact ⟨(r.entity, r), List.mem_filter.mpr ⟨ImmoApp.Keyed.mem_entries_iff.mpr hget, decide_eq_true htype⟩, rfl⟩

end Lookups

end ProjectionStore

/-- The journal, the projections and the uploads. -/
@[ext]
structure AccountFiles where
  disk : Disk
  projections : ProjectionStore
  uploads : List MediaUpload

inductive AccountWrite where
  | journal (w : FileWrite)
  | projections (store : ProjectionStore)
  | uploads (items : List MediaUpload)

def AccountWrite.apply : AccountWrite → AccountFiles → AccountFiles
  | .journal w, s => { s with disk := Persistent.apply w s.disk }
  | .projections store, s => { s with projections := store }
  | .uploads items, s => { s with uploads := items }

instance : Persistent AccountFiles AccountWrite where
  apply := AccountWrite.apply

abbrev AccountProg := Prog AccountFiles AccountWrite

def onJournal {α : Type} (p : JournalProg α) : AccountProg α :=
  fun s => ((p s.disk).1, (p s.disk).2.map .journal)

def onProjections (f : ProjectionStore → ProjectionStore) : AccountProg Unit := do
  let store ← Prog.read AccountFiles.projections
  Prog.write (.projections (f store))

def onUploads (f : List MediaUpload → List MediaUpload) : AccountProg Unit := do
  let items ← Prog.read AccountFiles.uploads
  Prog.write (.uploads (f items))

section Programs

variable {α : Type}

lemma applyWrites_journal (ws : List FileWrite) (s : AccountFiles) :
    applyWrites (ws.map AccountWrite.journal) s = { s with disk := applyWrites ws s.disk } := by
  induction ws generalizing s with
  | nil => rfl
  | cons _ _ ih =>
    rw [List.map_cons, applyWrites_cons, applyWrites_cons, ih]
    rfl

@[simp] lemma exec_onJournal (p : JournalProg α) (s : AccountFiles) :
    (onJournal p).exec s = { s with disk := p.exec s.disk } := applyWrites_journal (p s.disk).2 s

@[simp] lemma result_onJournal (p : JournalProg α) (s : AccountFiles) :
    (onJournal p).result s = p.result s.disk := rfl

@[simp] lemma exec_onProjections (f : ProjectionStore → ProjectionStore) (s : AccountFiles) :
    (onProjections f).exec s = { s with projections := f s.projections } := rfl

@[simp] lemma exec_onUploads (f : List MediaUpload → List MediaUpload) (s : AccountFiles) :
    (onUploads f).exec s = { s with uploads := f s.uploads } := rfl

end Programs

end ImmoApp.Offline
