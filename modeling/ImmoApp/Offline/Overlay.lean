import ImmoApp.Offline.Models
import ImmoApp.Offline.Projections

/-!
# The overlay of a page

`overlay_model_list` lays the projections of an account over a page of the server: first the records created offline,
then those that have arrived and are not in the page, then the page, without the records to be deleted and with the
fields of the changed ones.

The id of a model is read from the fields of its record; `setdefault` only helps when they have no id at all.
`overlay_faithful_iff` says for which stores and pages that is enough.
-/

namespace ImmoApp.Offline

open List Option

/-! ### The functions -/

/-- The kinds of record in `_MODEL_BY_ENTITY`. -/
inductive ModelKind where
  | client
  | demande
  | listing
  | offer
  | visit
  | contract

def ModelKind.entityType : ModelKind → EntityType
  | .client => .client
  | .demande => .demande
  | .listing => .listing
  | .offer => .offer
  | .visit => .visit
  | .contract => .contract

def modelByEntity : ModelKind → ModelClass
  | .client => clientModel
  | .demande => demandeModel
  | .listing => listingModel
  | .offer => offerModel
  | .visit => visitModel
  | .contract => contractModel

def applySyncMetadata (r : ProjectionRecord) (m : Model) : Model :=
  { m with
    syncStatus := if r.syncStatus = "" then none else some r.syncStatus
    syncError := r.syncError
    isLocalOnly := r.isLocalOnly }

/-- `setdefault("id", int(record.server_id or record.local_id))`. -/
def withDefaultId (r : ProjectionRecord) (payload : Dict String Json) : Dict String Json :=
  if (payload.get? "id").isSome then payload
  else payload.set "id" (.int ((r.serverId.filter fun id => id ≠ 0).getD r.localId))

/-- `_model_from_record`, for a kind of record with a class of models. -/
def modelFromRecord (rt : ModelRuntime) (cls : ModelClass) (r : ProjectionRecord) : Option Model :=
  (cls.fromRow rt (withDefaultId r r.data)).map (applySyncMetadata r)

def mergeModelWithRecord (rt : ModelRuntime) (cls : ModelClass) (item : Model) (r : ProjectionRecord) :
    Option Model :=
  (cls.fromRow rt (withDefaultId r ((cls.toDict item).update r.data))).map (applySyncMetadata r)

def recordsByPositive (records : List ProjectionRecord) : Dict ℤ ProjectionRecord :=
  (records.filter fun r => 0 < r.localId ∧ r.syncStatus ≠ "pending_delete").foldl
    (fun d r => Dict.set d r.localId r) []

def keptItems (records : List ProjectionRecord) (items : List Model) : List Model :=
  items.filter fun item =>
    !records.any fun r => 0 < r.localId ∧ r.syncStatus = "pending_delete" ∧ r.localId = item.id

def localRecords (records : List ProjectionRecord) : List ProjectionRecord :=
  records.filter fun r => r.localId < 0 ∧ r.syncStatus ≠ "pending_delete"

def arrivedRecords (records : List ProjectionRecord) (items : List Model) : List ProjectionRecord :=
  records.filter fun r => 0 < r.localId ∧ (∀ item ∈ items, item.id ≠ r.localId) ∧ r.syncStatus = "synced"

def addedRecords (records : List ProjectionRecord) (items : List Model) : List ProjectionRecord :=
  localRecords records ++ arrivedRecords records items

/-- `overlay_model_list` on the records of a kind; there is no list where `from_row` raises. -/
def overlayRecords (rt : ModelRuntime) (cls : ModelClass) (records : List ProjectionRecord) (items : List Model) :
    Option (List Model) := do
  let merged ← (keptItems records items).mapM fun item =>
    match (recordsByPositive records).get? item.id with
    | some r => mergeModelWithRecord rt cls item r
    | none => some item
  let localOnly ← (localRecords records).mapM (modelFromRecord rt cls)
  let syncedPositive ← (arrivedRecords records items).mapM (modelFromRecord rt cls)
  pure (localOnly ++ syncedPositive ++ merged)

/-- `overlay_model_list`, for the kinds of record that have a class of models. -/
def overlayModelList (rt : ModelRuntime) (store : ProjectionStore) (kind : ModelKind) (items : List Model) :
    Option (List Model) :=
  overlayRecords rt (modelByEntity kind) (store.list kind.entityType) items

/-- `_create_projection`: the projection of a record that is queued for creation. -/
def createProjection (entityType : EntityType) (localId : ℤ) (data : Dict String Json) (syncStatus : String)
    (store : ProjectionStore) : ProjectionStore :=
  store.upsert
    { entityType, localId, serverId := none
      data := if (data.get? "id").isSome then data else data.set "id" (.int localId)
      syncStatus, isLocalOnly := true }

structure Shows (rt : ModelRuntime) (cls : ModelClass) (r : ProjectionRecord) (m : Model) : Prop where
  status : m.syncStatus = if r.syncStatus = "" then none else some r.syncStatus
  error : m.syncError = r.syncError
  /-- The model is marked when the server does not know the record. -/
  marked : m.isLocalOnly = r.isLocalOnly
  fields : ∀ f ∈ cls.fields, ∀ v, r.data.get? f.name = some v → m.fields.get? f.name = some (f.cast.read rt (some v))

structure Overlaid (rt : ModelRuntime) (cls : ModelClass) (records : List ProjectionRecord) (items : List Model)
    (result : List Model) : Prop where
  /-- The records created offline come first, then those that have arrived and are not in the page, then the page in
  its order, without the records that are to be deleted. -/
  ids : result.map Model.id =
    (addedRecords records items).map ProjectionRecord.localId ++ (keptItems records items).map Model.id
  nodup : (result.map Model.id).Nodup
  added : ∀ r ∈ addedRecords records items, ∃ m ∈ result, m.id = r.localId ∧ Shows rt cls r m
  /-- A record of the page that was changed is shown with the fields that were. -/
  merged : ∀ item ∈ keptItems records items, ∀ r, (recordsByPositive records).get? item.id = some r →
    ∃ m ∈ result, m.id = item.id ∧ Shows rt cls r m
  untouched : ∀ item ∈ keptItems records items, (recordsByPositive records).get? item.id = none → item ∈ result

/-- The id that the fields of a record give its model; a default stands in for an id that is not there. -/
def ProjectionRecord.shownId (r : ProjectionRecord) (default : ℤ) : ℤ :=
  asInt 0 (some ((r.data.get? "id").getD (.int default)))

/-- `int(record.server_id or record.local_id)`. -/
def ProjectionRecord.defaultId (r : ProjectionRecord) : ℤ := (r.serverId.filter fun id => id ≠ 0).getD r.localId

/-- No field of the record is hidden behind a ciphertext of the row that says something else. -/
def Uncovered (rt : ModelRuntime) (cls : ModelClass) (r : ProjectionRecord) (row : Dict String Json) : Prop :=
  ∀ f ∈ cls.fields, ∀ v, r.data.get? f.name = some v → ∀ secret, f.secret rt row = some secret →
    secret = f.cast.read rt (some v)

structure Identified (rt : ModelRuntime) (cls : ModelClass) (records : List ProjectionRecord) (items : List Model) :
    Prop where
  /-- A record that is not in the page has the members that a row needs. -/
  readable : ∀ r ∈ addedRecords records items, cls.Readable (withDefaultId r r.data)
  /-- Its fields have no id but the one it is stored under. -/
  named : ∀ r ∈ addedRecords records items, r.shownId r.defaultId = r.localId
  uncovered : ∀ r ∈ addedRecords records items, Uncovered rt cls r (withDefaultId r r.data)
  /-- The fields of a record of the page have no id but the one it is stored under. -/
  namedMerged : ∀ item ∈ keptItems records items, ∀ r, (recordsByPositive records).get? item.id = some r →
    r.shownId item.id = item.id
  uncoveredMerged : ∀ item ∈ keptItems records items, ∀ r, (recordsByPositive records).get? item.id = some r →
    Uncovered rt cls r ((cls.toDict item).update r.data)
  /-- No item of the page has the id of a record that was created offline. -/
  apart : ∀ item ∈ keptItems records items, ∀ r ∈ localRecords records, item.id ≠ r.localId

/-! ### What is shown -/

section Shown

variable {rt : ModelRuntime} {cls : ModelClass} {r : ProjectionRecord} {row : Dict String Json}

lemma name_ne_id {f : ModelField} (hf : f ∈ cls.fields) : f.name ≠ "id" := by
  have hid : "id" ∉ cls.fields.map ModelField.name := (nodup_cons.mp cls.names).1
  exact fun heq => hid (heq ▸ mem_map_of_mem hf)

lemma get?_withDefaultId {k : String} (hk : k ≠ "id") : (withDefaultId r row).get? k = row.get? k := by
  unfold withDefaultId
  split
  · rfl
  · rw [Dict.get?_set, if_neg hk]

lemma get?_id_withDefaultId : (withDefaultId r row).get? "id" = some ((row.get? "id").getD (.int r.defaultId)) := by
  unfold withDefaultId
  cases hid : row.get? "id" with
  | none =>
    rw [if_neg (by simp), Dict.get?_set, if_pos rfl]
    rfl
  | some =>
    rw [if_pos (by simp), hid]
    rfl

/-- A model with the metadata of a record shows it, when the row has its fields and no ciphertext covers them. -/
lemma shows_build (hrow : ∀ f ∈ cls.fields, ∀ v, r.data.get? f.name = some v → row.get? f.name = some v) :
    Shows rt cls r (applySyncMetadata r (cls.build rt row)) ↔ Uncovered rt cls r row := by
  have hread : ∀ f ∈ cls.fields, (applySyncMetadata r (cls.build rt row)).fields.get? f.name
      = some (f.read rt row) := fun f hf => get?_fields_build hf row
  constructor
  · intro h f hf v hv secret hsecret
    have hshown := h.fields f hf v hv
    rw [hread f hf, ModelField.read, hsecret, getD_some] at hshown
    exact some.inj hshown
  · intro h
    refine ⟨rfl, rfl, rfl, fun f hf v hv => ?_⟩
    rw [hread f hf, ModelField.read, hrow f hf v hv]
    cases hsecret : f.secret rt row with
    | none => rfl
    | some secret => rw [getD_some, h f hf v hv secret hsecret]

def shownRecord (rt : ModelRuntime) (cls : ModelClass) (r : ProjectionRecord) : Model :=
  applySyncMetadata r (cls.build rt (withDefaultId r r.data))

def shownItem (rt : ModelRuntime) (cls : ModelClass) (records : List ProjectionRecord) (item : Model) : Model :=
  match (recordsByPositive records).get? item.id with
  | some r => applySyncMetadata r (cls.build rt ((cls.toDict item).update r.data))
  | none => item

lemma modelFromRecord_eq (rt : ModelRuntime) (cls : ModelClass) : modelFromRecord rt cls = fun r =>
      if cls.Readable (withDefaultId r r.data) then some (shownRecord rt cls r) else none := by
  funext r
  unfold modelFromRecord ModelClass.fromRow
  split <;> rfl

lemma mergeModelWithRecord_eq (rt : ModelRuntime) (cls : ModelClass) (item : Model) (r : ProjectionRecord) :
    mergeModelWithRecord rt cls item r
      = some (applySyncMetadata r (cls.build rt ((cls.toDict item).update r.data))) := by
  have hreadable : cls.Readable ((cls.toDict item).update r.data) := by
    intro k hk
    have hwritten := readable_toDict cls item k hk
    rw [Dict.get?_update]
    cases r.data.get? k with
    | none => simpa using hwritten
    | some => rfl
  have hid : (((cls.toDict item).update r.data).get? "id").isSome := hreadable "id" mem_cons_self
  rw [mergeModelWithRecord, withDefaultId, if_pos hid, ModelClass.fromRow, if_pos hreadable, map_some]

lemma id_shownRecord (rt : ModelRuntime) (cls : ModelClass) (r : ProjectionRecord) :
    (shownRecord rt cls r).id = r.shownId r.defaultId := by
  have hid : (shownRecord rt cls r).id = asInt 0 ((withDefaultId r r.data).get? "id") := rfl
  rw [hid, get?_id_withDefaultId]
  rfl

lemma id_shownItem {records : List ProjectionRecord} {item : Model}
    (hr : (recordsByPositive records).get? item.id = some r) :
    (shownItem rt cls records item).id = r.shownId item.id := by
  have hid : (shownItem rt cls records item).id = asInt 0 (((cls.toDict item).update r.data).get? "id") := by
    rw [shownItem, hr]
    rfl
  rw [hid, Dict.get?_update, get?_id_toDict, ProjectionRecord.shownId]
  cases r.data.get? "id" <;> rfl

lemma mapM_ite {α β : Type*} (p : α → Prop) [DecidablePred p] (f : α → β) (l : List α) :
    (l.mapM fun a => if p a then some (f a) else none) = if ∀ a ∈ l, p a then some (l.map f) else none := by
  induction l with
  | nil => simp
  | cons a l ih =>
    have hall : (∀ b ∈ a :: l, p b) ↔ p a ∧ ∀ b ∈ l, p b := forall_mem_cons
    rw [mapM_cons, ih, if_congr hall rfl rfl]
    by_cases ha : p a
    · by_cases hl : ∀ b ∈ l, p b
      · rw [if_pos ha, if_pos hl, if_pos ⟨ha, hl⟩]
        rfl
      · have hnot : ¬(p a ∧ ∀ b ∈ l, p b) := fun h => hl h.2
        rw [if_pos ha, if_neg hl, if_neg hnot]
        rfl
    · have hnot : ¬(p a ∧ ∀ b ∈ l, p b) := fun h => ha h.1
      rw [if_neg ha, if_neg hnot]
      rfl

lemma overlayRecords_eq (rt : ModelRuntime) (cls : ModelClass) (records : List ProjectionRecord)
    (items : List Model) :
    overlayRecords rt cls records items
      = if ∀ r ∈ addedRecords records items, cls.Readable (withDefaultId r r.data) then
          some ((addedRecords records items).map (shownRecord rt cls)
            ++ (keptItems records items).map (shownItem rt cls records))
        else none := by
  have hmerged : ((keptItems records items).mapM fun item =>
      match (recordsByPositive records).get? item.id with
      | some r => mergeModelWithRecord rt cls item r
      | none => some item) = some ((keptItems records items).map (shownItem rt cls records)) := by
    have hitem : (fun item : Model =>
        match (recordsByPositive records).get? item.id with
        | some r => mergeModelWithRecord rt cls item r
        | none => some item) = fun item => if True then some (shownItem rt cls records item) else none := by
      funext item
      rw [shownItem, if_pos trivial]
      cases (recordsByPositive records).get? item.id with
      | none => rfl
      | some r => exact mergeModelWithRecord_eq rt cls item r
    rw [hitem, mapM_ite, if_pos fun _ _ => trivial]
  have hall : (∀ r ∈ addedRecords records items, cls.Readable (withDefaultId r r.data)) ↔
      (∀ r ∈ localRecords records, cls.Readable (withDefaultId r r.data)) ∧
        ∀ r ∈ arrivedRecords records items, cls.Readable (withDefaultId r r.data) := forall_mem_append
  rw [overlayRecords, hmerged, modelFromRecord_eq, mapM_ite, mapM_ite, if_congr hall rfl rfl, addedRecords,
    map_append]
  by_cases hlocal : ∀ r ∈ localRecords records, cls.Readable (withDefaultId r r.data)
  · by_cases harrived : ∀ r ∈ arrivedRecords records items, cls.Readable (withDefaultId r r.data)
    · rw [if_pos hlocal, if_pos harrived, if_pos ⟨hlocal, harrived⟩]
      rfl
    · rw [if_pos hlocal, if_neg harrived, if_neg (fun h => harrived (And.right h))]
      rfl
  · rw [if_neg hlocal, if_neg (fun h => hlocal (And.left h))]
    rfl

end Shown

/-! ### When the overlay is faithful -/

lemma nodup_localId_list (store : ProjectionStore) (entityType : EntityType) :
    ((store.list entityType).map ProjectionRecord.localId).Nodup := by
  have hrow : ∀ e ∈ store.rows.entries, e.2.entity = e.1 := fun e he =>
    ProjectionStore.entity_of_get? (ImmoApp.Keyed.mem_entries_iff.mp he)
  have hkeys := store.rows.nodup
  have hentries : store.rows.entries.Nodup := hkeys.of_map _
  unfold ProjectionStore.list
  rw [List.map_map]
  refine List.Nodup.map_on ?_ (hentries.filter _)
  intro e he e' he' heq
  obtain ⟨he, htype⟩ := List.mem_filter.mp he
  obtain ⟨he', htype'⟩ := List.mem_filter.mp he'
  have hid : e.1.localId = e'.1.localId := by
    rw [← hrow e he, ← hrow e' he']
    exact heq
  have hkey : e.1 = e'.1 := by
    have htypes : e.1.entityType = e'.1.entityType :=
       (of_decide_eq_true htype).trans (of_decide_eq_true htype').symm
    cases hk : e.1
    cases hk' : e'.1
    simp_all
  exact List.inj_on_of_nodup_map hkeys he he' hkey

section Faithful

variable {rt : ModelRuntime} {cls : ModelClass} {records : List ProjectionRecord} {items : List Model}

lemma mem_localRecords {r : ProjectionRecord} :
    r ∈ localRecords records ↔ r ∈ records ∧ r.localId < 0 ∧ r.syncStatus ≠ "pending_delete" := by
  simp [localRecords]

lemma mem_arrivedRecords {r : ProjectionRecord} : r ∈ arrivedRecords records items ↔
      r ∈ records ∧ 0 < r.localId ∧ (∀ item ∈ items, item.id ≠ r.localId) ∧ r.syncStatus = "synced" := by
  simp [arrivedRecords]

/-- The ids of the records that are added and of the page, with those of the page apart, are distinct. -/
lemma nodup_ids (hrecords : (records.map ProjectionRecord.localId).Nodup) (hitems : (items.map Model.id).Nodup)
    (hapart : ∀ item ∈ keptItems records items, ∀ r ∈ localRecords records, item.id ≠ r.localId) :
    ((addedRecords records items).map ProjectionRecord.localId ++ (keptItems records items).map Model.id).Nodup := by
  have hlocal : ((localRecords records).map ProjectionRecord.localId).Nodup :=
    hrecords.sublist (filter_sublist.map _)
  have harrived : ((arrivedRecords records items).map ProjectionRecord.localId).Nodup :=
    hrecords.sublist (filter_sublist.map _)
  have hkept : ((keptItems records items).map Model.id).Nodup := hitems.sublist (filter_sublist.map _)
  rw [addedRecords, map_append]
  refine (hlocal.append harrived ?_).append hkept ?_
  · intro id hid hid'
    obtain ⟨r, hr, rfl⟩ := mem_map.mp hid
    obtain ⟨_, hr', heq⟩ := mem_map.mp hid'
    have hneg := (mem_localRecords.mp hr).2.1
    have hpos := (mem_arrivedRecords.mp hr').2.1
    omega
  · intro id hid hid'
    obtain ⟨item, hitem, rfl⟩ := mem_map.mp hid'
    rcases mem_append.mp hid with hid | hid
    · obtain ⟨r, hr, heq⟩ := mem_map.mp hid
      exact hapart item hitem r hr heq.symm
    · obtain ⟨r, hr, heq⟩ := mem_map.mp hid
      exact (mem_arrivedRecords.mp hr).2.2.1 item (mem_filter.mp hitem).1 heq.symm

/-- The ids that are shown are those of the records and of the page exactly when each record is named. -/
lemma ids_iff (rt : ModelRuntime) (cls : ModelClass) : ((addedRecords records items).map (shownRecord rt cls)
        ++ (keptItems records items).map (shownItem rt cls records)).map Model.id
      = (addedRecords records items).map ProjectionRecord.localId ++ (keptItems records items).map Model.id ↔
    (∀ r ∈ addedRecords records items, r.shownId r.defaultId = r.localId) ∧
      ∀ item ∈ keptItems records items, ∀ r, (recordsByPositive records).get? item.id = some r →
        r.shownId item.id = item.id := by
  have hitem : ∀ item, (shownItem rt cls records item).id = item.id ↔
      ∀ r, (recordsByPositive records).get? item.id = some r → r.shownId item.id = item.id := by
    intro item
    cases hr : (recordsByPositive records).get? item.id with
    | none => simp [shownItem, hr]
    | some => simp [id_shownItem hr]
  rw [List.map_append, List.map_map, List.map_map]
  constructor
  · intro heq
    obtain ⟨hadded, hkept⟩ := List.append_inj heq (by simp)
    refine ⟨fun r hr => ?_, fun item hmem => (hitem item).mp ?_⟩
    · rw [← id_shownRecord rt cls]
      exact List.map_inj_left.mp hadded r hr
    · exact List.map_inj_left.mp hkept item hmem
  · rintro ⟨hadded, hkept⟩
    congr 1
    · refine List.map_congr_left fun r hr => ?_
      exact (id_shownRecord rt cls r).trans (hadded r hr)
    · exact List.map_congr_left fun item hmem => (hitem item).mpr (hkept item hmem)

lemma shows_shownRecord {r : ProjectionRecord} :
    Shows rt cls r (shownRecord rt cls r) ↔ Uncovered rt cls r (withDefaultId r r.data) := by
  refine shows_build fun f hf v hv => ?_
  rw [get?_withDefaultId (name_ne_id hf), hv]

lemma shows_shownItem {r : ProjectionRecord} {item : Model} (hr : (recordsByPositive records).get? item.id = some r) :
    Shows rt cls r (shownItem rt cls records item) ↔ Uncovered rt cls r ((cls.toDict item).update r.data) := by
  rw [shownItem, hr]
  refine shows_build fun f hf v hv => ?_
  rw [Dict.get?_update, hv, some_or]

end Faithful

lemma overlayRecords_faithful_iff (rt : ModelRuntime) (cls : ModelClass) {records : List ProjectionRecord}
    (hrecords : (records.map ProjectionRecord.localId).Nodup) {items : List Model}
    (hitems : (items.map Model.id).Nodup) :
    (∃ result, overlayRecords rt cls records items = some result ∧ Overlaid rt cls records items result) ↔
      Identified rt cls records items := by
  rw [overlayRecords_eq]
  constructor
  · rintro ⟨result, hresult, hoverlaid⟩
    obtain ⟨hreadable, heq⟩ := ite_none_right_eq_some.mp hresult
    have hlist := some.inj heq
    have hadded : ∀ r ∈ addedRecords records items, shownRecord rt cls r ∈ result := by
      intro r hr
      rw [← hlist]
      exact mem_append_left _ (mem_map_of_mem hr)
    have hkept : ∀ item ∈ keptItems records items, shownItem rt cls records item ∈ result := by
      intro item hitem
      rw [← hlist]
      exact mem_append_right _ (mem_map_of_mem hitem)
    have hids := hoverlaid.ids
    obtain ⟨hnamed, hnamedMerged⟩ := (ids_iff rt cls).mp (by rw [hlist]; exact hids)
    have hsame : ∀ m ∈ result, ∀ m' ∈ result, m.id = m'.id → m = m' := fun m hm m' hm' =>
      inj_on_of_nodup_map hoverlaid.nodup hm hm'
    refine ⟨hreadable, hnamed, fun r hr => ?_, hnamedMerged, fun item hitem r hr => ?_, fun item hitem r hr => ?_⟩
    · obtain ⟨m, hm, hid, hshows⟩ := hoverlaid.added r hr
      have hown : m = shownRecord rt cls r := by
        refine hsame m hm _ (hadded r hr) ?_
        rw [hid, id_shownRecord, hnamed r hr]
      rw [hown] at hshows
      exact shows_shownRecord.mp hshows
    · obtain ⟨m, hm, hid, hshows⟩ := hoverlaid.merged item hitem r hr
      have hown : m = shownItem rt cls records item := by
        refine hsame m hm _ (hkept item hitem) ?_
        rw [hid, id_shownItem hr, hnamedMerged item hitem r hr]
      rw [hown] at hshows
      exact (shows_shownItem hr).mp hshows
    · have hnodup := hoverlaid.nodup
      rw [hids] at hnodup
      have hlocal : r.localId ∈ (addedRecords records items).map ProjectionRecord.localId :=
        mem_map_of_mem (mem_append_left _ hr)
      have hpage : item.id ∈ (keptItems records items).map Model.id := mem_map_of_mem hitem
      exact fun heq => (nodup_append.mp hnodup).2.2 _ hlocal _ hpage heq.symm
  · intro h
    rw [if_pos h.readable]
    have hids := (ids_iff rt cls).mpr ⟨h.named, h.namedMerged⟩
    refine ⟨_, rfl, ?_, ?_, fun r hr => ?_, fun item hitem r hr => ?_, fun item hitem hr => ?_⟩
    · exact hids
    · rw [hids]
      exact nodup_ids hrecords hitems h.apart
    · refine ⟨_, mem_append_left _ (mem_map_of_mem hr), ?_, shows_shownRecord.mpr (h.uncovered r hr)⟩
      rw [id_shownRecord, h.named r hr]
    · refine ⟨_, mem_append_right _ (mem_map_of_mem hitem), ?_,
        (shows_shownItem hr).mpr (h.uncoveredMerged item hitem r hr)⟩
      rw [id_shownItem hr, h.namedMerged item hitem r hr]
    · refine mem_append_right _ (mem_map.mpr ⟨item, hitem, ?_⟩)
      rw [shownItem, hr]

def sampleRuntime : ModelRuntime where
  str v := v.text
  float
    | .scalar (.float q) => some (.scalar (.float q))
    | .scalar (.int n) => some (.scalar (.float n))
    | _ => none
  cipher := none
  sanitize := id

def pageVisit (id : ℤ) (notes : String) : Model :=
  visitModel.build sampleRuntime
    [("id", .int id), ("client_id", .int 5), ("listing_id", .int 6), ("notes", .str notes)]

def visitStore : ProjectionStore :=
  (((createProjection .visit (-1) [("client_id", .int 5), ("listing_id", .int 6)] "pending"
    ProjectionStore.empty).upsert
    ⟨.visit, 7, some 7, [("notes", .str "Bring the keys"), ("id", .int 7)], "pending", "", false⟩).upsert
    ⟨.visit, 8, some 8, [("id", .int 8)], "pending_delete", "", false⟩).upsert
    ⟨.visit, 12, some 12, [("client_id", .int 5), ("listing_id", .int 9), ("id", .int 12)], "synced", "", false⟩

def visitPage : List Model := [pageVisit 9 "", pageVisit 8 "", pageVisit 7 "Ring twice"]

/-- Two listings created offline, with the `None` that the window puts into the id of a new one. -/
def listingStore : ProjectionStore :=
  createProjection .listing (-2) [("id", .null), ("family_name", .str "Haddad")] "pending"
    (createProjection .listing (-1) [("id", .null), ("family_name", .str "Benali")] "pending" ProjectionStore.empty)

end ImmoApp.Offline
