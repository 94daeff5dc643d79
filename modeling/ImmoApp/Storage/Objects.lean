import ImmoApp.Foundation.Totals

/-!
# Storage objects and the usage counter

The rows of `storage_objects` with their lifecycle states, the counter `storage_usage` of an agency, and the
statements of the repository on both.  A status and the counter are written separately; that the counter
is the sum is proved where the statements are put together.

An `object_key` holds what `uuid4` drew and is unique in its bucket, so a row and its key name each other:
the model names the keys by the rows.  Of `storage_events` only the foreign key matters: an event of a row
that is gone raises.
-/

namespace ImmoApp.Storage

open List

inductive Status where
  | pending
  | ready
  | failed
  | deleted
  | purged
  deriving DecidableEq

/-- A row of `storage_objects`. -/
structure StorageObject where
  agencyId : ℕ
  userId : ℕ
  purpose : String
  sizeBytes : ℕ
  status : Status
  createdAt : ℕ
  /-- When the row was last deleted, unless it has been restored since. -/
  deletedAt : Option ℕ
  deriving DecidableEq

/-- `storage_objects` and `storage_usage`; the moment is in seconds. -/
structure Objects where
  rows : Keyed ℕ StorageObject
  usage : Keyed ℕ ℤ
  now : ℕ

namespace Objects

/-! ### The statements -/

/-- `get_storage_object`, `lock_storage_object`. -/
def getStorageObject (id : ℕ) (db : Objects) : Option StorageObject := db.rows.get? id

/-- `UPDATE storage_objects … WHERE id = …`. -/
def updateRow (id : ℕ) (f : StorageObject → StorageObject) (db : Objects) : Objects :=
  { db with rows := db.rows.updateKey id f }

/-- `RETURNING size_bytes`, zero without a row. -/
def sizeOf (id : ℕ) (db : Objects) : ℕ := ((db.rows.get? id).map StorageObject.sizeBytes).getD 0

def createStorageObject (id agencyId userId : ℕ) (purpose : String) (sizeBytes : ℕ) (db : Objects) : Objects :=
  { db with rows := db.rows.set id ⟨agencyId, userId, purpose, sizeBytes, .pending, db.now, none⟩ }

def markStorageReady (id sizeBytes : ℕ) (db : Objects) : Objects :=
  db.updateRow id fun r => { r with status := .ready, sizeBytes := sizeBytes }

def markStorageFailed (id : ℕ) (db : Objects) : Objects :=
  db.updateRow id fun r => { r with status := .failed }

/-- `mark_storage_deleted`, with the size. -/
def markStorageDeleted (id : ℕ) (db : Objects) : ℕ × Objects :=
  (db.sizeOf id, db.updateRow id fun r => { r with status := .deleted, deletedAt := some db.now })

/-- `restore_deleted_storage`, with the size: only a row that is deleted. -/
def restoreDeletedStorage (id : ℕ) (db : Objects) : ℕ × Objects :=
  match db.rows.get? id with
  | none => (0, db)
  | some r =>
    if r.status = .deleted ∧ r.deletedAt.isSome then
      (r.sizeBytes, db.updateRow id fun r => { r with status := .ready, deletedAt := none })
    else (0, db)

def markStoragePurged (id : ℕ) (db : Objects) : Objects :=
  db.updateRow id fun r => { r with status := .purged }

/-- `delete_storage_object`, with the size. -/
def deleteStorageObject (id : ℕ) (db : Objects) : ℕ × Objects :=
  (db.sizeOf id, { db with rows := db.rows.deleteKey id })

/-- `insert_storage_event`: the foreign key. -/
def insertStorageEvent (id : ℕ) (db : Objects) : Option Objects :=
  if (db.rows.get? id).isSome then some db else none

/-- `bump_storage_usage`: the total does not fall below zero, and a row without bytes is removed. -/
def bumpStorageUsage (agencyId : ℕ) (deltaBytes : ℤ) (db : Objects) : Objects :=
  let total := max ((db.usage.get? agencyId).getD 0 + deltaBytes) 0
  { db with usage := if total ≤ 0 then db.usage.deleteKey agencyId else db.usage.set agencyId total }

def getUsageForAgency (agencyId : ℕ) (db : Objects) : ℤ := (db.usage.get? agencyId).getD 0

/-- `get_total_usage_bytes` of an agency: the rows that are ready. -/
def getTotalUsageBytes (agencyId : ℕ) (db : Objects) : ℕ :=
  db.rows.total fun _ r => if r.agencyId = agencyId ∧ r.status = .ready then r.sizeBytes else 0

/-- `get_reserved_usage_for_agency`: the rows that are ready or pending. -/
def getReservedUsageForAgency (agencyId : ℕ) (db : Objects) : ℕ :=
  db.rows.total fun _ r =>
    if r.agencyId = agencyId ∧ (r.status = .ready ∨ r.status = .pending) then r.sizeBytes else 0

def countRecentUploads (userId sinceHours : ℕ) (db : Objects) : ℕ :=
  db.rows.entries.countP fun e => e.2.userId = userId ∧ db.now ≤ e.2.createdAt + sinceHours * 3600

/-- `list_deleted_storage_objects` in the tenant's context. -/
def listDeletedStorageObjects (agencyId olderThanDays limit : ℕ) (db : Objects) : List ℕ :=
  (((db.rows.entries.filter fun e =>
      decide (e.2.agencyId = agencyId ∧ e.2.status = .deleted) &&
        e.2.deletedAt.any fun t => decide (t + olderThanDays * 86400 < db.now)).insertionSort
    fun a b => a.2.deletedAt.getD 0 ≤ b.2.deletedAt.getD 0).take limit).map Prod.fst

/-- `list_pending_storage_objects` in the tenant's context. -/
def listPendingStorageObjects (agencyId olderThanHours limit : ℕ) (db : Objects) : List ℕ :=
  (((db.rows.entries.filter fun e =>
      decide (e.2.agencyId = agencyId ∧ e.2.status = .pending ∧
        e.2.createdAt + olderThanHours * 3600 < db.now)).insertionSort
    fun a b => a.2.createdAt ≤ b.2.createdAt).take limit).map Prod.fst

/-! ### What they write -/

variable {db : Objects} {id id' agencyId agencyId' : ℕ} {r : StorageObject}

@[simp] lemma rows_bumpStorageUsage (deltaBytes : ℤ) : (db.bumpStorageUsage agencyId deltaBytes).rows = db.rows := rfl

@[simp] lemma rows_updateRow (f : StorageObject → StorageObject) :
    (db.updateRow id f).rows = db.rows.updateKey id f := rfl

@[simp] lemma usage_updateRow (f : StorageObject → StorageObject) : (db.updateRow id f).usage = db.usage := rfl

section

variable (h : db.rows.get? id = some r)
include h

lemma sizeOf_of_get? : db.sizeOf id = r.sizeBytes := by
  rw [sizeOf, h]
  rfl

lemma restoreDeletedStorage_of_deleted (hdeleted : r.status = .deleted ∧ r.deletedAt.isSome) :
    db.restoreDeletedStorage id
      = (r.sizeBytes, db.updateRow id fun r => { r with status := .ready, deletedAt := none }) := by
  simp only [restoreDeletedStorage, h, if_pos hdeleted]

lemma restoreDeletedStorage_of_not_deleted
    (hdeleted : ¬(r.status = .deleted ∧ r.deletedAt.isSome)) : db.restoreDeletedStorage id = (0, db) := by
  simp only [restoreDeletedStorage, h, if_neg hdeleted]

end

lemma restoreDeletedStorage_of_none (h : db.rows.get? id = none) : db.restoreDeletedStorage id = (0, db) := by
  simp only [restoreDeletedStorage, h]

lemma getUsageForAgency_bump (deltaBytes : ℤ) : (db.bumpStorageUsage agencyId deltaBytes).getUsageForAgency agencyId'
      = if agencyId' = agencyId then max (db.getUsageForAgency agencyId + deltaBytes) 0
        else db.getUsageForAgency agencyId' := by
  rw [getUsageForAgency, bumpStorageUsage]
  dsimp only
  by_cases heq : agencyId' = agencyId
  · rw [if_pos heq]
    subst heq
    by_cases hle : max ((db.usage.get? agencyId').getD 0 + deltaBytes) 0 ≤ 0
    · rw [if_pos hle, Keyed.get?_deleteKey, if_pos rfl]
      exact (le_antisymm hle (le_max_right _ _)).symm
    · rw [if_neg hle, Keyed.get?_set, if_pos rfl]
      rfl
  · rw [if_neg heq]
    by_cases hle : max ((db.usage.get? agencyId).getD 0 + deltaBytes) 0 ≤ 0
    · rw [if_pos hle, Keyed.get?_deleteKey, if_neg heq]
      rfl
    · rw [if_neg hle, Keyed.get?_set, if_neg heq]
      rfl

lemma mem_listDeletedStorageObjects {olderThanDays limit : ℕ}
    (h : id ∈ db.listDeletedStorageObjects agencyId olderThanDays limit) :
    ∃ r, db.rows.get? id = some r ∧ r.status = .deleted := by
  obtain ⟨e, he, rfl⟩ := mem_map.mp h
  have hmem := mem_filter.mp ((mem_insertionSort _).mp (mem_of_mem_take he))
  have hcond := (Bool.and_eq_true _ _).mp hmem.2
  exact ⟨e.2, Keyed.mem_entries_iff.mp hmem.1, (of_decide_eq_true hcond.1).2⟩

lemma mem_listPendingStorageObjects {olderThanHours limit : ℕ}
    (h : id ∈ db.listPendingStorageObjects agencyId olderThanHours limit) :
    ∃ r, db.rows.get? id = some r ∧ r.status = .pending := by
  obtain ⟨e, he, rfl⟩ := mem_map.mp h
  have hmem := mem_filter.mp ((mem_insertionSort _).mp (mem_of_mem_take he))
  exact ⟨e.2, Keyed.mem_entries_iff.mp hmem.1, (of_decide_eq_true hmem.2).2.1⟩

end Objects

end ImmoApp.Storage
