import ImmoApp.Foundation.Runs
import ImmoApp.Storage.Photos

/-!
# Uploads, completions and maintenance

The calls of the storage services as processes that take turns: a call reads a row in one transaction and writes it in
another, and the bucket is outside of the database.  Within its turn a call makes one transaction, or one request.

`Stage` is where a call stands, `outcome` what it does next, and `step` lets a call take its turn, a client write its
object, an operation on photos commit, or time pass.  A call may stop at any stage.  The advisory lock on the agency is
held from the check of the limits to the insertion of the row.
-/

namespace ImmoApp.Storage

open Option Keyed

/-- `StorageConfig`, as far as the limits and the checks read it. -/
structure StorageConfig where
  maxFileBytes : ℕ
  maxImportBytes : ℕ
  maxOfferPhotoBytes : ℕ
  maxAgencyMediaBytes : ℕ
  agencyQuotaBytes : Option ℕ
  userDailyMaxFiles : Option ℕ
  virusScan : Bool

def maxBytesForPurpose (cfg : StorageConfig) (purpose : String) (defaultMax : ℕ) : ℕ :=
  if purpose = "import" ∨ purpose = "import_artifact" then min cfg.maxImportBytes defaultMax
  else if purpose = offerPhotoPurpose then min cfg.maxOfferPhotoBytes defaultMax
  else if purpose = "agency_logo" ∨ purpose = "agency_signature" then min cfg.maxAgencyMediaBytes defaultMax
  else defaultMax

/-- `enforce_limits`, with the text of the error. -/
def enforceLimits (cfg : StorageConfig) (sizeBytes agencyId userId : ℕ) (purpose : String) (db : Objects) :
    Except String Unit :=
  if sizeBytes = 0 then .error "File is empty."
  else if maxBytesForPurpose cfg purpose cfg.maxFileBytes < sizeBytes then
    .error "File exceeds the maximum allowed size."
  else if cfg.agencyQuotaBytes.any fun quota => quota < db.getReservedUsageForAgency agencyId + sizeBytes then
    .error "Storage quota exceeded for agency."
  else if cfg.userDailyMaxFiles.any fun limit => limit ≤ db.countRecentUploads userId 24 then
    .error "Daily upload limit reached for user."
  else .ok ()

lemma quota_of_enforceLimits {cfg : StorageConfig} {sizeBytes agencyId userId quota : ℕ} {purpose : String}
    {db : Objects} (hquota : cfg.agencyQuotaBytes = some quota)
    (h : enforceLimits cfg sizeBytes agencyId userId purpose db = .ok ()) :
    db.getReservedUsageForAgency agencyId + sizeBytes ≤ quota := by
  rw [enforceLimits] at h
  split at h
  · cases h
  split at h
  · cases h
  split at h
  · cases h
  · next hfits => simpa [hquota] using hfits

/-! ### The transactions -/

structure Upload where
  agencyId : ℕ
  userId : ℕ
  purpose : String
  sizeBytes : ℕ
  /-- The bytes come through the server (`store_bytes`, `store_fileobj`), not from the client
  (`generate_presigned_upload`). -/
  server : Bool
  deriving DecidableEq

inductive StorageWrite where
  /-- `create_storage_record` after its checks. -/
  | create (id : ℕ) (u : Upload)
  | markReady (id sizeBytes agencyId : ℕ) (purpose : String)
  | markFailed (id : ℕ) (purpose : String)
  /-- The write of `purge_pending_objects`. -/
  | expire (id : ℕ)
  /-- The write of `mark_storage_deleted`. -/
  | markDeleted (id agencyId : ℕ)
  /-- The write of `restore_deleted_storage`. -/
  | restore (id agencyId : ℕ)
  /-- The write of `purge_deleted_objects`. -/
  | markPurged (id : ℕ)
  /-- The write of `purge_storage_object_now`, for the record that was read. -/
  | purgeNow (id : ℕ) (record : StorageObject)
  | photo (op : PhotoOp)

/-- The event of a write; imports' artifacts have none. -/
def insertEventUnlessArtifact (id : ℕ) (purpose : String) (objects : Objects) : Option Objects :=
  if purpose = "import_artifact" then some objects else objects.insertStorageEvent id

def StorageWrite.apply (db : Media) : StorageWrite → Option Media
  | create id u => some { db with
      objects := db.objects.createStorageObject id u.agencyId u.userId u.purpose u.sizeBytes }
  | markReady id sizeBytes agencyId purpose =>
    (insertEventUnlessArtifact id purpose
      ((db.objects.markStorageReady id sizeBytes).bumpStorageUsage agencyId sizeBytes)).map
      fun objects => { db with objects := objects }
  | markFailed id purpose =>
    (insertEventUnlessArtifact id purpose (db.objects.markStorageFailed id)).map
      fun objects => { db with objects := objects }
  | expire id =>
    ((db.objects.markStorageFailed id).insertStorageEvent id).map fun objects => { db with objects := objects }
  | markDeleted id agencyId =>
    ((deleteStorageInTransaction id agencyId db.objects).insertStorageEvent id).map
      fun objects => { db with objects := objects }
  | restore id agencyId =>
    ((restoreStorageInTransaction id agencyId db.objects).insertStorageEvent id).map
      fun objects => { db with objects := objects }
  | markPurged id =>
    ((db.objects.markStoragePurged id).insertStorageEvent id).map fun objects => { db with objects := objects }
  | purgeNow id record =>
    if db.photos.entries.any fun e => e.2.storageId == id then none
    else
      let x := db.objects.deleteStorageObject id
      some { db with objects :=
        if record.status = .ready ∧ x.1 ≠ 0 then x.2.bumpStorageUsage record.agencyId (-(x.1 : ℤ)) else x.2 }
  | photo op => op.exec db

/-! ### The calls -/

inductive Rejection where
  | sizeLimit
  /-- It has not passed the validation or the scan. -/
  | invalid
  deriving DecidableEq

inductive PurgeKind where
  | deleted
  | pending
  deriving DecidableEq

inductive Stage where
  /-- `create_storage_record`: take the lock and check the limits. -/
  | reserving (u : Upload)
  /-- Insert the row; the lock is held. -/
  | inserting (u : Upload)
  | storing (id : ℕ) (u : Upload)
  | markingReady (id sizeBytes agencyId : ℕ) (purpose : String)
  | markingFailed (id : ℕ) (purpose : String)
  /-- `complete_presigned_upload`: read the record. -/
  | completing (id : ℕ)
  | confirming (id : ℕ) (record : StorageObject)
  | validating (id : ℕ) (record : StorageObject) (sizeBytes : ℕ)
  /-- `delete_object` of a rejected upload. -/
  | rejecting (id : ℕ) (record : StorageObject) (reason : Rejection)
  /-- `mark_storage_deleted`: read the record. -/
  | deleting (id : ℕ)
  | deletingRow (id agencyId : ℕ)
  /-- `restore_deleted_storage`: read the record. -/
  | restoring (id : ℕ)
  | restoringRow (id agencyId : ℕ)
  /-- `purge_storage_object_now`: read the record. -/
  | purgingNow (id : ℕ)
  | purgingNowKey (id : ℕ) (record : StorageObject)
  | purgingNowRow (id : ℕ) (record : StorageObject)
  /-- `purge_deleted_objects` and `purge_pending_objects`: list the rows. -/
  | listing (kind : PurgeKind) (agencyId olderThan limit : ℕ)
  | purging (kind : PurgeKind) (rows : List ℕ)
  | purgingRow (kind : PurgeKind) (id : ℕ) (rows : List ℕ)
  deriving DecidableEq

inductive Call where
  /-- `store_bytes`, `store_fileobj` or `generate_presigned_upload`. -/
  | upload (u : Upload)
  | complete (id : ℕ)
  | markDeleted (id : ℕ)
  | restore (id : ℕ)
  | purgeNow (id : ℕ)
  | purgeDeleted (agencyId olderThanDays limit : ℕ)
  | purgePending (agencyId olderThanHours limit : ℕ)

def Call.first : Call → Stage
  | upload u => .reserving u
  | complete id => .completing id
  | markDeleted id => .deleting id
  | restore id => .restoring id
  | purgeNow id => .purgingNow id
  | purgeDeleted agencyId olderThanDays limit => .listing .deleted agencyId olderThanDays limit
  | purgePending agencyId olderThanHours limit => .listing .pending agencyId olderThanHours limit

/-- The database, the bucket and the calls under way. -/
structure StorageDesk where
  media : Media
  /-- The keys of the bucket and the lengths of their objects; a key has the number of its row. -/
  bucket : Keyed ℕ ℕ
  calls : Keyed ℕ Stage
  nextId : ℕ

inductive BucketRequest where
  | put (key length : ℕ)
  | delete (key : ℕ)

structure Outcome where
  next : Option Stage
  write : Option StorageWrite
  request : Option BucketRequest

namespace Outcome

def goto (stage : Stage) : Outcome := ⟨some stage, none, none⟩

def finish : Outcome := ⟨none, none, none⟩

def writes (w : StorageWrite) (next : Option Stage) : Outcome := ⟨next, some w, none⟩

def requests (q : BucketRequest) (next : Stage) : Outcome := ⟨some next, none, some q⟩

end Outcome

namespace StorageDesk

def quotaLockFree (agencyId : ℕ) (s : StorageDesk) : Bool :=
  s.calls.entries.all fun e => match e.2 with
    | .inserting u => u.agencyId != agencyId
    | _ => true

def listed (kind : PurgeKind) (agencyId olderThan limit : ℕ) (s : StorageDesk) : List ℕ :=
  match kind with
  | .deleted => s.media.objects.listDeletedStorageObjects agencyId olderThan limit
  | .pending => s.media.objects.listPendingStorageObjects agencyId olderThan limit

/-- What a call does at a stage: `ok` is the answer of the bucket, or of the validation.  It waits while
the lock is held. -/
def outcome (cfg : StorageConfig) (s : StorageDesk) (ok : Bool) : Stage → Option Outcome
  | .reserving u =>
    if s.quotaLockFree u.agencyId then
      match enforceLimits cfg u.sizeBytes u.agencyId u.userId u.purpose s.media.objects with
      | .ok _ => some (.goto (.inserting u))
      | .error _ => some .finish
    else none
  | .inserting u => some (.writes (.create s.nextId u) (if u.server then some (.storing s.nextId u) else none))
  | .storing id u =>
    if ok then some (.requests (.put id u.sizeBytes) (.markingReady id u.sizeBytes u.agencyId u.purpose))
    else some (.goto (.markingFailed id u.purpose))
  | .markingReady id sizeBytes agencyId purpose => some (.writes (.markReady id sizeBytes agencyId purpose) none)
  | .markingFailed id purpose => some (.writes (.markFailed id purpose) none)
  | .completing id =>
    match s.media.objects.getStorageObject id with
    | none => some .finish
    | some record => some (.goto (.confirming id record))
  | .confirming id record =>
    match (s.bucket.get? id).filter fun _ => ok with
    | none => some .finish
    | some sizeBytes =>
      if sizeBytes = 0 then some .finish
      else if cfg.maxFileBytes < sizeBytes ∨ (record.sizeBytes ≠ 0 ∧ record.sizeBytes < sizeBytes) then
        some (.goto (.rejecting id record .sizeLimit))
      else some (.goto (.validating id record sizeBytes))
  | .validating id record sizeBytes =>
    if (cfg.virusScan ∨ record.purpose = "import" ∨ record.purpose = offerPhotoPurpose) ∧
        ¬(ok = true ∧ (s.bucket.get? id).isSome) then
      some (.goto (.rejecting id record .invalid))
    else some (.goto (.markingReady id sizeBytes record.agencyId record.purpose))
  | .rejecting id record reason =>
    if ok then some (.requests (.delete id) (.markingFailed id record.purpose))
    else match reason with
      | .sizeLimit => some .finish
      | .invalid => some (.goto (.markingFailed id record.purpose))
  | .deleting id =>
    match s.media.objects.getStorageObject id with
    | none => some .finish
    | some record =>
      if record.status = .deleted then some .finish else some (.goto (.deletingRow id record.agencyId))
  | .deletingRow id agencyId => some (.writes (.markDeleted id agencyId) none)
  | .restoring id =>
    match s.media.objects.getStorageObject id with
    | none => some .finish
    | some record =>
      if record.status = .deleted then some (.goto (.restoringRow id record.agencyId)) else some .finish
  | .restoringRow id agencyId => some (.writes (.restore id agencyId) none)
  | .purgingNow id =>
    match s.media.objects.getStorageObject id with
    | none => some .finish
    | some record => some (.goto (.purgingNowKey id record))
  | .purgingNowKey id record =>
    if ok then some (.requests (.delete id) (.purgingNowRow id record))
    else some (.goto (.purgingNowRow id record))
  | .purgingNowRow id record => some (.writes (.purgeNow id record) none)
  | .listing kind agencyId olderThan limit =>
    some (.goto (.purging kind (s.listed kind agencyId olderThan limit)))
  | .purging _ [] => some .finish
  | .purging kind (id :: rows) =>
    if ok then some (.requests (.delete id) (.purgingRow kind id rows))
    else match kind with
      | .deleted => some (.goto (.purging kind rows))
      | .pending => some (.goto (.purgingRow kind id rows))
  | .purgingRow .deleted id rows => some (.writes (.markPurged id) (some (.purging .deleted rows)))
  | .purgingRow .pending id rows => some (.writes (.expire id) (some (.purging .pending rows)))

def bucketAfter (s : StorageDesk) : Option BucketRequest → Keyed ℕ ℕ
  | none => s.bucket
  | some (.put key length) => s.bucket.set key length
  | some (.delete key) => s.bucket.deleteKey key

def callsAfter (s : StorageDesk) (pid : ℕ) : Option Stage → Keyed ℕ Stage
  | none => s.calls.deleteKey pid
  | some stage => s.calls.set pid stage

def nextIdAfter (s : StorageDesk) : Option StorageWrite → ℕ
  | some (.create _ _) => s.nextId + 1
  | _ => s.nextId

/-- A turn; a transaction that raises ends the call. -/
def perform (s : StorageDesk) (pid : ℕ) (o : Outcome) : StorageDesk :=
  match o.write with
  | none => { s with bucket := s.bucketAfter o.request, calls := s.callsAfter pid o.next }
  | some w =>
    match w.apply s.media with
    | none => { s with calls := s.calls.deleteKey pid }
    | some media => { s with
        media := media, calls := s.callsAfter pid o.next, nextId := s.nextIdAfter o.write }

end StorageDesk

inductive StorageAction where
  | start (pid : ℕ) (call : Call)
  | advance (pid : ℕ) (ok : Bool)
  | stop (pid : ℕ)
  | clientPut (key length : ℕ)
  | photo (op : PhotoOp)
  | tick (seconds : ℕ)

namespace StorageDesk

def step (cfg : StorageConfig) (s : StorageDesk) : StorageAction → Option StorageDesk
  | .start pid call =>
    if (s.calls.get? pid).isSome then none else some { s with calls := s.calls.set pid call.first }
  | .advance pid ok => (s.calls.get? pid).bind fun stage => (s.outcome cfg ok stage).map (s.perform pid)
  | .stop pid => some { s with calls := s.calls.deleteKey pid }
  | .clientPut key length =>
    if 0 < length ∧ length ≤ cfg.maxFileBytes then some { s with bucket := s.bucket.set key length } else none
  | .photo op => some { s with media := (op.exec s.media).getD s.media }
  | .tick seconds => some { s with
      media := { s.media with objects := { s.media.objects with now := s.media.objects.now + seconds } } }

def writeOf (cfg : StorageConfig) (s : StorageDesk) : StorageAction → Option StorageWrite
  | .advance pid ok => (s.calls.get? pid).bind fun stage => (s.outcome cfg ok stage).bind Outcome.write
  | .photo op => some (.photo op)
  | _ => none

end StorageDesk

/-! ### What a step changes -/

section Changes

variable {cfg : StorageConfig} {s t : StorageDesk} {a : StorageAction} {db db' : Media} {w : StorageWrite}
  {id : ℕ} {r r' : StorageObject} {objects objects' : Objects} {purpose : String}

lemma insertStorageEvent_eq_some (h : objects.insertStorageEvent id = some objects') :
    objects' = objects ∧ (objects.rows.get? id).isSome := by
  rw [Objects.insertStorageEvent] at h
  split at h
  · next hrow => exact ⟨(some.inj h).symm, hrow⟩
  · cases h

lemma insertEventUnlessArtifact_eq_some (h : insertEventUnlessArtifact id purpose objects = some objects') :
    objects' = objects ∧ (purpose ≠ "import_artifact" → (objects.rows.get? id).isSome) := by
  rw [insertEventUnlessArtifact] at h
  split at h
  · next hpurpose => exact ⟨(some.inj h).symm, fun hne => absurd hpurpose hne⟩
  · obtain ⟨heq, hrow⟩ := insertStorageEvent_eq_some h
    exact ⟨heq, fun _ => hrow⟩

/-- A write may take a row from `r` to `r'`. -/
def StorageWrite.Changes (db : Media) (id : ℕ) (r r' : StorageObject) : StorageWrite → Prop
  | create _ _ => False
  | markReady id' sizeBytes _ _ => id = id' ∧ r'.status = .ready ∧ r'.sizeBytes = sizeBytes
  | markFailed id' _ => id = id' ∧ r'.status = .failed ∧ r'.sizeBytes = r.sizeBytes
  | expire id' => id = id' ∧ r'.status = .failed ∧ r'.sizeBytes = r.sizeBytes
  | markDeleted id' _ => id = id' ∧ r'.status = .deleted ∧ r'.sizeBytes = r.sizeBytes
  | restore id' _ => id = id' ∧ (r.status = .deleted ∧ r'.status = .ready) ∧ r'.sizeBytes = r.sizeBytes
  | markPurged id' => id = id' ∧ r'.status = .purged ∧ r'.sizeBytes = r.sizeBytes
  | purgeNow _ _ => False
  | photo op =>
    ((r.status = .ready ∧ r'.status = .deleted) ∨
      (id ∈ op.reattached db ∧ r.status = .deleted ∧ r'.status = .ready)) ∧ r'.sizeBytes = r.sizeBytes

variable (objects) in
lemma get?_updateRow {f : StorageObject → StorageObject} {id' : ℕ}
    (h : (objects.updateRow id' f).rows.get? id = some r') :
    ∃ r, objects.rows.get? id = some r ∧ (r' = r ∨ (id = id' ∧ r' = f r)) := by
  rw [Objects.rows_updateRow, get?_updateKey] at h
  split at h
  · next heq =>
    obtain ⟨r, hr, rfl⟩ := map_eq_some_iff.mp h
    exact ⟨r, hr, .inr ⟨heq, rfl⟩⟩
  · exact ⟨r', h, .inl rfl⟩

lemma get?_deleteStorageInTransaction {id' agencyId : ℕ}
    (h : (deleteStorageInTransaction id' agencyId objects).rows.get? id = some r') :
    ∃ r, objects.rows.get? id = some r ∧
      (r' = r ∨ (id = id' ∧ r' = { r with status := .deleted, deletedAt := some objects.now })) := by
  rw [rows_deleteStorageInTransaction] at h
  exact get?_updateRow objects h

lemma get?_restoreStorageInTransaction {id' agencyId : ℕ}
    (h : (restoreStorageInTransaction id' agencyId objects).rows.get? id = some r') :
    ∃ r, objects.rows.get? id = some r ∧
      (r' = r ∨ (id = id' ∧ r.status = .deleted ∧ r' = { r with status := .ready, deletedAt := none })) := by
  by_cases hid : id = id'
  · subst hid
    cases hget : objects.rows.get? id with
    | none =>
      rw [restoreStorageInTransaction, Objects.restoreDeletedStorage_of_none hget] at h
      exact absurd (hget.symm.trans h) (by simp)
    | some r =>
      rw [rows_restoreStorageInTransaction hget] at h
      split at h
      · next hdeleted =>
        rw [get?_updateKey_self, hget] at h
        exact ⟨r, rfl, .inr ⟨rfl, hdeleted.1, (some.inj h).symm⟩⟩
      · exact ⟨r, rfl, .inl (some.inj (h.symm.trans hget))⟩
  · rw [get?_restoreStorageInTransaction_of_ne hid] at h
    exact ⟨r', h, .inl rfl⟩

lemma PhotoOp.rows_exec {op : PhotoOp} (h : op.exec db = some db') (hr' : db'.objects.rows.get? id = some r') :
    ∃ r, db.objects.rows.get? id = some r ∧ r'.agencyId = r.agencyId ∧
      ((r'.status = r.status ∧ r'.sizeBytes = r.sizeBytes) ∨ (StorageWrite.photo op).Changes db id r r') := by
  -- along the loops a row is as it was, or deleted from ready, or restored from deleted
  have hrows : ∀ r', db'.objects.rows.get? id = some r' →
      ∃ r, db.objects.rows.get? id = some r ∧ r'.agencyId = r.agencyId ∧ r'.sizeBytes = r.sizeBytes ∧
        (r'.status = r.status ∨ (r.status = .ready ∧ r'.status = .deleted) ∨
          (id ∈ op.reattached db ∧ r.status = .deleted ∧ r'.status = .ready)) := by
    refine PhotoOp.exec_induction (P := fun o => ∀ r', o.rows.get? id = some r' →
      ∃ r, db.objects.rows.get? id = some r ∧ r'.agencyId = r.agencyId ∧ r'.sizeBytes = r.sizeBytes ∧
        (r'.status = r.status ∨ (r.status = .ready ∧ r'.status = .deleted) ∨
          (id ∈ op.reattached db ∧ r.status = .deleted ∧ r'.status = .ready))) ?_ ?_ ?_ h
    · intro o id' row hP hrow hready r' hr'
      obtain ⟨r₁, hr₁, rfl | ⟨rfl, rfl⟩⟩ := get?_deleteStorageInTransaction hr'
      · exact hP r' hr₁
      · obtain rfl := some.inj (hrow.symm.trans hr₁)
        obtain ⟨r, hr, hagency, hsize, hsame | ⟨_, hdeleted⟩ | ⟨_, hdeleted, _⟩⟩ := hP row hr₁
        · exact ⟨r, hr, hagency, hsize, .inr (.inl ⟨hsame ▸ hready, rfl⟩)⟩
        · exact absurd (hready.symm.trans hdeleted) (by decide)
        · exact ⟨r, hr, hagency, hsize, .inl hdeleted.symm⟩
    · intro o id' row hmem hP hrow hdeleted r' hr'
      obtain ⟨r₁, hr₁, rfl | ⟨rfl, hdeleted', rfl⟩⟩ := get?_restoreStorageInTransaction hr'
      · exact hP r' hr₁
      · obtain ⟨r, hr, hagency, hsize, hsame | ⟨hready, _⟩ | ⟨_, _, hready⟩⟩ := hP r₁ hr₁
        · exact ⟨r, hr, hagency, hsize, .inr (.inr ⟨hmem, hsame ▸ hdeleted', rfl⟩)⟩
        · exact ⟨r, hr, hagency, hsize, .inl hready.symm⟩
        · exact absurd (hready.symm.trans hdeleted') (by decide)
    · exact fun r' hr' => ⟨r', hr', rfl, rfl, .inl rfl⟩
  obtain ⟨r, hr, hagency, hsize, hsame | hchange⟩ := hrows r' hr'
  · exact ⟨r, hr, hagency, .inl ⟨hsame, hsize⟩⟩
  · exact ⟨r, hr, hagency, .inr ⟨hchange, hsize⟩⟩

/-- Every row after a write is a row before it, as it was or as the write says, or the one it creates. -/
lemma StorageWrite.rows_apply (h : w.apply db = some db') (hr' : db'.objects.rows.get? id = some r') :
    (∃ r, db.objects.rows.get? id = some r ∧ r'.agencyId = r.agencyId ∧
      ((r'.status = r.status ∧ r'.sizeBytes = r.sizeBytes) ∨ w.Changes db id r r')) ∨
      ∃ u, w = create id u ∧ r'.agencyId = u.agencyId ∧ r'.status = .pending ∧ r'.sizeBytes = u.sizeBytes := by
  have hkeep : ∀ r, db.objects.rows.get? id = some r → r' = r →
      ∃ r, db.objects.rows.get? id = some r ∧ r'.agencyId = r.agencyId ∧
        ((r'.status = r.status ∧ r'.sizeBytes = r.sizeBytes) ∨ w.Changes db id r r') :=
    fun r hr heq => ⟨r, hr, heq ▸ rfl, .inl ⟨heq ▸ rfl, heq ▸ rfl⟩⟩
  cases w with
  | create _ u =>
    cases h
    rw [Objects.createStorageObject, get?_set] at hr'
    split at hr'
    · next heq =>
      subst heq
      cases hr'
      exact .inr ⟨u, rfl, rfl, rfl, rfl⟩
    · exact .inl (hkeep r' hr' rfl)
  | markReady =>
    obtain ⟨o, ho, rfl⟩ := map_eq_some_iff.mp h
    obtain ⟨rfl, _⟩ := insertEventUnlessArtifact_eq_some ho
    obtain ⟨r, hr, heq | ⟨hid, rfl⟩⟩ := get?_updateRow db.objects hr'
    · exact .inl (hkeep r hr heq)
    · exact .inl ⟨r, hr, rfl, .inr ⟨hid, rfl, rfl⟩⟩
  | markFailed =>
    obtain ⟨o, ho, rfl⟩ := map_eq_some_iff.mp h
    obtain ⟨rfl, _⟩ := insertEventUnlessArtifact_eq_some ho
    obtain ⟨r, hr, heq | ⟨hid, rfl⟩⟩ := get?_updateRow db.objects hr'
    · exact .inl (hkeep r hr heq)
    · exact .inl ⟨r, hr, rfl, .inr ⟨hid, rfl, rfl⟩⟩
  | expire =>
    obtain ⟨o, ho, rfl⟩ := map_eq_some_iff.mp h
    obtain ⟨rfl, _⟩ := insertStorageEvent_eq_some ho
    obtain ⟨r, hr, heq | ⟨hid, rfl⟩⟩ := get?_updateRow db.objects hr'
    · exact .inl (hkeep r hr heq)
    · exact .inl ⟨r, hr, rfl, .inr ⟨hid, rfl, rfl⟩⟩
  | markDeleted =>
    obtain ⟨o, ho, rfl⟩ := map_eq_some_iff.mp h
    obtain ⟨rfl, _⟩ := insertStorageEvent_eq_some ho
    obtain ⟨r, hr, heq | ⟨hid, rfl⟩⟩ := get?_deleteStorageInTransaction hr'
    · exact .inl (hkeep r hr heq)
    · exact .inl ⟨r, hr, rfl, .inr ⟨hid, rfl, rfl⟩⟩
  | restore =>
    obtain ⟨o, ho, rfl⟩ := map_eq_some_iff.mp h
    obtain ⟨rfl, _⟩ := insertStorageEvent_eq_some ho
    obtain ⟨r, hr, heq | ⟨hid, hdeleted, rfl⟩⟩ := get?_restoreStorageInTransaction hr'
    · exact .inl (hkeep r hr heq)
    · exact .inl ⟨r, hr, rfl, .inr ⟨hid, ⟨hdeleted, rfl⟩, rfl⟩⟩
  | markPurged =>
    obtain ⟨o, ho, rfl⟩ := map_eq_some_iff.mp h
    obtain ⟨rfl, _⟩ := insertStorageEvent_eq_some ho
    obtain ⟨r, hr, heq | ⟨hid, rfl⟩⟩ := get?_updateRow db.objects hr'
    · exact .inl (hkeep r hr heq)
    · exact .inl ⟨r, hr, rfl, .inr ⟨hid, rfl, rfl⟩⟩
  | purgeNow id' =>
    rw [apply] at h
    split at h
    · cases h
    · cases h
      have hrows : (db.objects.rows.deleteKey id').get? id = some r' := by
        dsimp only at hr'
        split at hr' <;> exact hr'
      rw [get?_deleteKey] at hrows
      split at hrows
      · cases hrows
      · exact .inl (hkeep r' hrows rfl)
  | photo => exact .inl (PhotoOp.rows_exec h hr')

namespace StorageDesk

lemma step_advance {pid : ℕ} {ok : Bool} (h : step cfg s (.advance pid ok) = some t) :
    ∃ stage o, s.calls.get? pid = some stage ∧ s.outcome cfg ok stage = some o ∧ t = s.perform pid o := by
  obtain ⟨stage, hstage, h⟩ := bind_eq_some_iff.mp h
  obtain ⟨o, ho, rfl⟩ := map_eq_some_iff.mp h
  exact ⟨stage, o, hstage, ho, rfl⟩

lemma writeOf_advance {pid : ℕ} {ok : Bool} {stage : Stage} {o : Outcome} (hstage : s.calls.get? pid = some stage)
    (ho : s.outcome cfg ok stage = some o) : s.writeOf cfg (.advance pid ok) = o.write := by
  rw [writeOf, hstage, bind_some, ho, bind_some]

/-- The database after a step: as it was, the time apart, or after the transaction of the step. -/
lemma media_step (h : step cfg s a = some t) :
    (t.media.objects.rows = s.media.objects.rows ∧ t.media.objects.usage = s.media.objects.usage) ∨
      ∃ w, s.writeOf cfg a = some w ∧ w.apply s.media = some t.media := by
  cases a with
  | start =>
    rw [step] at h
    split at h
    · cases h
    · cases h
      exact .inl ⟨rfl, rfl⟩
  | advance =>
    obtain ⟨_, o, hstage, ho, rfl⟩ := step_advance h
    rw [writeOf_advance hstage ho, perform]
    split
    · exact .inl ⟨rfl, rfl⟩
    · next w hw =>
      split
      · exact .inl ⟨rfl, rfl⟩
      · next media hmedia => exact .inr ⟨w, hw, hmedia⟩
  | stop =>
    cases h
    exact .inl ⟨rfl, rfl⟩
  | clientPut =>
    rw [step] at h
    split at h
    · cases h
      exact .inl ⟨rfl, rfl⟩
    · cases h
  | photo op =>
    cases h
    cases hexec : op.exec s.media with
    | none => exact .inl ⟨rfl, rfl⟩
    | some => exact .inr ⟨.photo op, rfl, hexec⟩
  | tick =>
    cases h
    exact .inl ⟨rfl, rfl⟩

end StorageDesk

end Changes

/-! ### What the calls know -/

/-- The row a call works on, with the agency that it has read. -/
def Stage.known : Stage → Option (ℕ × ℕ)
  | storing id u => some (id, u.agencyId)
  | markingReady id _ agencyId _ => some (id, agencyId)
  | confirming id record => some (id, record.agencyId)
  | validating id record _ => some (id, record.agencyId)
  | rejecting id record _ => some (id, record.agencyId)
  | deletingRow id agencyId => some (id, agencyId)
  | restoringRow id agencyId => some (id, agencyId)
  | purgingNowKey id record => some (id, record.agencyId)
  | purgingNowRow id record => some (id, record.agencyId)
  | _ => none

/-- Rows have numbers that were drawn, and what the calls know of them is right. -/
structure StorageDesk.Sound (s : StorageDesk) : Prop where
  fresh : ∀ id r, s.media.objects.rows.get? id = some r → id < s.nextId
  /-- The calls: a row that is still there has the agency that was read. -/
  known : ∀ pid stage id agencyId, s.calls.get? pid = some stage → stage.known = some (id, agencyId) →
    id < s.nextId ∧ ∀ r, s.media.objects.rows.get? id = some r → r.agencyId = agencyId

namespace StorageDesk

section Sound

variable {cfg : StorageConfig} {s t : StorageDesk} {a : StorageAction} {pid : ℕ} {stage : Stage}

lemma calls_step (h : step cfg s a = some t) (hstage : t.calls.get? pid = some stage) :
    s.calls.get? pid = some stage ∨ (∃ call, a = .start pid call ∧ stage = call.first) ∨
      ∃ ok stage' o, a = .advance pid ok ∧ s.calls.get? pid = some stage' ∧
        s.outcome cfg ok stage' = some o ∧ o.next = some stage := by
  have hdelete : ∀ pid', (s.calls.deleteKey pid').get? pid = some stage → s.calls.get? pid = some stage := by
    intro pid' hget
    rw [get?_deleteKey] at hget
    split at hget
    · cases hget
    · exact hget
  cases a with
  | start _ call =>
    rw [step] at h
    split at h
    · cases h
    · cases h
      rw [get?_set] at hstage
      split at hstage
      · next heq => exact .inr (.inl ⟨call, heq ▸ rfl, (some.inj hstage).symm⟩)
      · exact .inl hstage
  | advance pid' ok =>
    obtain ⟨stage', o, hstage', ho, rfl⟩ := step_advance h
    have hafter : (s.callsAfter pid' o.next).get? pid = some stage →
        s.calls.get? pid = some stage ∨ (∃ call, StorageAction.advance pid' ok = .start pid call ∧
          stage = call.first) ∨ ∃ ok' stage' o, StorageAction.advance pid' ok = .advance pid ok' ∧
            s.calls.get? pid = some stage' ∧ s.outcome cfg ok' stage' = some o ∧ o.next = some stage := by
      intro hget
      rw [callsAfter.eq_def] at hget
      split at hget
      · exact .inl (hdelete pid' hget)
      · next next hnext =>
        rw [get?_set] at hget
        split at hget
        · next heq =>
          subst heq
          exact .inr (.inr ⟨ok, stage', o, rfl, hstage', ho, hnext.trans hget⟩)
        · exact .inl hget
    rw [perform] at hstage
    split at hstage
    · exact hafter hstage
    · split at hstage
      · exact .inl (hdelete pid' hstage)
      · exact hafter hstage
  | stop pid' =>
    cases h
    exact .inl (hdelete pid' hstage)
  | clientPut key length =>
    rw [step] at h
    split at h
    · cases h
      exact .inl hstage
    · cases h
  | photo op =>
    cases h
    exact .inl hstage
  | tick seconds =>
    cases h
    exact .inl hstage

lemma writeOf_create {id : ℕ} {u : Upload} (h : s.writeOf cfg a = some (.create id u)) :
    id = s.nextId ∧ ∃ pid ok, a = .advance pid ok ∧ s.calls.get? pid = some (.inserting u) := by
  cases a with
  | advance pid ok =>
    obtain ⟨_, hstage, h⟩ := bind_eq_some_iff.mp h
    obtain ⟨o, ho, hw⟩ := bind_eq_some_iff.mp h
    rw [outcome.eq_def] at ho
    split at ho
    case h_2 u' =>
      cases ho
      cases hw
      exact ⟨rfl, pid, ok, rfl, hstage⟩
    all_goals
      repeat' split at ho
      all_goals
        cases ho
        try cases hw
  | start | stop | clientPut | photo | tick => cases h

lemma nextId_step (h : step cfg s a = some t) :
    s.nextId ≤ t.nextId ∧ ∀ id u, s.writeOf cfg a = some (.create id u) → t.nextId = s.nextId + 1 := by
  have hother : (∀ pid ok, a ≠ .advance pid ok) → t.nextId = s.nextId := by
    intro hadvance
    cases a with
    | advance pid ok => exact absurd rfl (hadvance pid ok)
    | start pid call | clientPut key length =>
      rw [step] at h
      split at h
      all_goals
        cases h
        try rfl
    | stop pid | photo op | tick seconds =>
      cases h
      rfl
  by_cases hadvance : ∃ pid ok, a = .advance pid ok
  · obtain ⟨pid, ok, rfl⟩ := hadvance
    obtain ⟨_, o, hstage, ho, rfl⟩ := step_advance h
    rw [writeOf_advance hstage ho, perform]
    split
    · next hw => exact ⟨le_rfl, fun id u hcreate => absurd (hw.symm.trans hcreate) (by simp)⟩
    · next w hw =>
      split
      · next hraise =>
        refine ⟨le_rfl, fun id u hcreate => ?_⟩
        obtain rfl := some.inj (hw.symm.trans hcreate)
        cases hraise
      · rw [hw]
        refine ⟨?_, fun id u hcreate => ?_⟩
        · rw [nextIdAfter.eq_def]
          split
          · exact Nat.le_succ _
          · exact le_rfl
        · obtain ⟨⟩ := hcreate
          rfl
  · have heq := hother fun pid ok heq => hadvance ⟨pid, ok, heq⟩
    refine ⟨heq.ge, fun id u hcreate => ?_⟩
    obtain ⟨_, pid, ok, hact, _⟩ := writeOf_create hcreate
    exact absurd ⟨pid, ok, hact⟩ hadvance

lemma known_outcome {ok : Bool} {o : Outcome} {stage' : Stage} {id agencyId : ℕ}
    (ho : s.outcome cfg ok stage = some o) (hnext : o.next = some stage')
    (hknown : stage'.known = some (id, agencyId)) :
    stage.known = some (id, agencyId) ∨ (∃ r, s.media.objects.rows.get? id = some r ∧ r.agencyId = agencyId) ∨
      ∃ u, o.write = some (.create id u) ∧ u.agencyId = agencyId := by
  rw [outcome.eq_def] at ho
  split at ho
  all_goals
    repeat' split at ho
    all_goals
      cases ho
      try cases hnext
      try cases hknown
      first
        | exact .inl rfl
        | exact .inr (.inl ⟨_, by assumption, rfl⟩)
        | skip
  next u _ => exact .inr (.inr ⟨u, rfl, rfl⟩)

lemma rows_step (h : step cfg s a = some t) {id : ℕ} {r' : StorageObject}
    (hr' : t.media.objects.rows.get? id = some r') :
    (∃ r, s.media.objects.rows.get? id = some r ∧ r'.agencyId = r.agencyId) ∨
      ∃ u, s.writeOf cfg a = some (.create id u) ∧ r'.agencyId = u.agencyId := by
  rcases media_step h with ⟨hrows, _⟩ | ⟨w, hw, happly⟩
  · exact .inl ⟨r', hrows ▸ hr', rfl⟩
  · rcases w.rows_apply happly hr' with ⟨r, hr, hagency, _⟩ | ⟨u, rfl, hagency, _⟩
    · exact .inl ⟨r, hr, hagency⟩
    · exact .inr ⟨u, hw, hagency⟩

lemma Sound.step (h : s.Sound) (hstep : step cfg s a = some t) : t.Sound where
  fresh := by
    intro id r' hr'
    obtain ⟨hle, hcreate⟩ := nextId_step hstep
    rcases rows_step hstep hr' with ⟨r, hr, _⟩ | ⟨u, hw, _⟩
    · exact (h.fresh id r hr).trans_le hle
    · rw [hcreate id u hw, (writeOf_create hw).1]
      exact Nat.lt_succ_self _
  known := by
    intro pid stage id agencyId hstage hknown
    obtain ⟨hle, hcreate⟩ := nextId_step hstep
    -- what holds of the rows before the step holds after it: a new row has a new number
    have hlift : (id < s.nextId ∧ ∀ r, s.media.objects.rows.get? id = some r → r.agencyId = agencyId) →
        id < t.nextId ∧ ∀ r, t.media.objects.rows.get? id = some r → r.agencyId = agencyId := by
      rintro ⟨hid, hagency⟩
      refine ⟨hid.trans_le hle, fun r' hr' => ?_⟩
      rcases rows_step hstep hr' with ⟨r, hr, heq⟩ | ⟨u, hw, _⟩
      · exact heq.trans (hagency r hr)
      · exact absurd (writeOf_create hw).1 hid.ne
    rcases calls_step hstep hstage with hold | ⟨call, _, rfl⟩ | ⟨_, stage', o, rfl, hstage', ho, hnext⟩
    · exact hlift (h.known pid stage id agencyId hold hknown)
    · cases call <;> cases hknown
    · rcases known_outcome ho hnext hknown with hsame | ⟨r, hr, rfl⟩ | ⟨u, hw, rfl⟩
      · exact hlift (h.known pid stage' id agencyId hstage' hsame)
      · exact hlift ⟨h.fresh id r hr, fun r' hr' => by rw [some.inj (hr'.symm.trans hr)]⟩
      · have hwrite := (writeOf_advance hstage' ho).trans hw
        refine ⟨?_, fun r' hr' => ?_⟩
        · rw [hcreate id u hwrite, (writeOf_create hwrite).1]
          exact Nat.lt_succ_self _
        · rcases rows_step hstep hr' with ⟨r, hr, _⟩ | ⟨_, hw', heq⟩
          · exact absurd (writeOf_create hwrite).1 (h.fresh id r hr).ne
          · rw [hwrite] at hw'
            cases hw'
            exact heq

end Sound

end StorageDesk

end ImmoApp.Storage
