import ImmoApp.Offline.Creations

/-!
# The queue of media uploads

The functions of `upload_queue.py` and the loop of `flush_pending_media_uploads`.  A file that cannot be uploaded now is
entered in the index `upload_queue.json`; the photo of an offer names it by its local id, negative as long as the
offer's creation is queued.  When that arrives, the upload gets the server id (`rewriteMediaParentRefs`).

Left out are the files themselves and the requests of one upload, of which only the end is given (`UploadEnd`).
-/

namespace ImmoApp.Offline

open OfflineOperation

inductive MediaKind where
  | logo
  | signature
  | offerPhoto
  deriving DecidableEq

def MediaKind.name : MediaKind → String
  | .logo => "logo"
  | .signature => "signature"
  | .offerPhoto => "offer_photo"

structure MediaUpload where
  /-- The identity of the upload, a fresh `uuid4` text. -/
  id : String
  kind : MediaKind
  filename : String
  path : String
  createdAt : ℕ
  updatedAt : ℕ
  status : OpStatus
  attempts : ℕ
  lastError : String
  entityType : String
  parentEntityType : Option EntityType
  parentLocalId : Option ℤ
  position : ℤ
  purpose : String
  storageId : String
  fileSha256 : String
  dedupeKey : String

def uploadDedupeKey (kind : MediaKind) (fileSha256 : String) (parentEntityType : Option EntityType)
    (parentLocalId position : ℤ) : String :=
  match kind with
  | .offerPhoto =>
    "offer_photo:" ++ parentEntityType.elim "" EntityType.name ++ ":" ++ toString parentLocalId ++ ":" ++
      toString position ++ ":" ++ fileSha256
  | kind => kind.name ++ ":" ++ fileSha256

/-- What `_normalize_item` changes of an entry with all its fields: the parent id `0` stands for none. -/
def normalizeItem (item : MediaUpload) : MediaUpload :=
  { item with parentLocalId := item.parentLocalId.filter (· ≠ 0) }

def loadIndex (uploads : List MediaUpload) : List MediaUpload := uploads.map normalizeItem

def writeIndex (items : List MediaUpload) : List MediaUpload :=
  (items.map normalizeItem).filter fun item => !item.status.isFinal

def mediaItem (kind : MediaKind) (filename fileSha : String) (parentEntityType : Option EntityType)
    (parentLocalId : Option ℤ) (position : ℤ) (purpose : Option String) (queueId : String) (now : ℕ) : MediaUpload :=
  { id := queueId, kind, filename, path := queueId ++ "_" ++ filename, createdAt := now, updatedAt := now,
    status := if parentEntityType.isSome ∧ parentLocalId.getD 0 < 0 then .blocked else .pending,
    attempts := 0, lastError := "",
    entityType := if kind = .offerPhoto then "offer_photo" else "agency_media",
    parentEntityType, parentLocalId, position, purpose := purpose.getD kind.name, storageId := "",
    fileSha256 := fileSha,
    dedupeKey := uploadDedupeKey kind fileSha parentEntityType (parentLocalId.getD 0) position }

def MediaUpload.isSamePhoto (item current : MediaUpload) : Bool :=
  item.kind = .offerPhoto ∧ current.dedupeKey = item.dedupeKey ∧ current.status.isFinal = false

/-- Queue a file; the same photo of a record is queued once.  The hash is missing when there is no source file, in
which case the call raises. -/
def enqueueMedia (kind : MediaKind) (filename : String) (fileSha256 : Option String)
    (parentEntityType : Option EntityType) (parentLocalId : Option ℤ) (position : ℤ) (purpose : Option String)
    (queueId : String) (now : ℕ) (uploads : List MediaUpload) : Option (String × List MediaUpload) := do
  let fileSha ← fileSha256
  let item := mediaItem kind filename fileSha parentEntityType parentLocalId position purpose queueId now
  let items := loadIndex uploads
  match items.find? item.isSamePhoto with
  | some existing => some (existing.id, uploads)
  | none => some (queueId, writeIndex (items ++ [item]))

def enqueueOfferPhotoUpload (offerId : ℤ) (filename : String) (fileSha256 : Option String) (position : ℤ)
    (queueId : String) (now : ℕ) (uploads : List MediaUpload) : Option (String × List MediaUpload) :=
  enqueueMedia .offerPhoto filename fileSha256 (some .offer) (some offerId) position (some "offer_photo") queueId now
    uploads

def listMediaUploads (uploads : List MediaUpload) : List MediaUpload := loadIndex uploads

def getMediaUpload (queueId : String) (uploads : List MediaUpload) : Option MediaUpload :=
  (loadIndex uploads).find? fun item => item.id = queueId

def modifyUpload (queueId : String) (f : MediaUpload → MediaUpload) (uploads : List MediaUpload) : List MediaUpload :=
  writeIndex ((loadIndex uploads).map fun item => if item.id = queueId then f item else item)

def markMediaUpload (queueId : String) (status : Option OpStatus) (error storageId : Option String)
    (parentLocalId : Option ℤ) (now : ℕ) : List MediaUpload → List MediaUpload :=
  modifyUpload queueId fun item =>
    { item with
      status := status.getD item.status
      lastError := error.getD item.lastError
      storageId := storageId.getD item.storageId
      parentLocalId := parentLocalId.or item.parentLocalId
      updatedAt := now }

def noteMediaUploadAttempt (queueId error : String) (now : ℕ) : List MediaUpload → List MediaUpload :=
  modifyUpload queueId fun item =>
    { item with attempts := item.attempts + 1, lastError := error, updatedAt := now }

/-- Make an upload pending again, or blocked when its parent has no server id. -/
def retryMediaUpload (queueId : String) (now : ℕ) (uploads : List MediaUpload) : List MediaUpload :=
  match getMediaUpload queueId uploads with
  | none => uploads
  | some item =>
    let status : OpStatus :=
      if item.parentEntityType.isSome ∧ item.parentLocalId.getD 0 < 0 then .blocked else .pending
    markMediaUpload queueId (some status) (some "") none none now uploads

def MediaUpload.hasParent (parentEntityType : EntityType) (localId : ℤ) (item : MediaUpload) : Bool :=
  item.parentEntityType = some parentEntityType ∧ item.parentLocalId.getD 0 = localId

def MediaUpload.reparent (newServerId : ℤ) (now : ℕ) (item : MediaUpload) : MediaUpload :=
  { item with
    parentLocalId := some newServerId
    status := if item.status = .blocked then .pending else item.status
    lastError := if item.status = .blocked then "" else item.lastError
    updatedAt := now }

def rewriteMediaParentRefs (parentEntityType : EntityType) (oldLocalId newServerId : ℤ) (now : ℕ)
    (uploads : List MediaUpload) : ℕ × List MediaUpload :=
  let items := loadIndex uploads
  ((items.filter (MediaUpload.hasParent parentEntityType oldLocalId)).length, writeIndex (items.map fun item =>
      if item.hasParent parentEntityType oldLocalId then item.reparent newServerId now else item))

def removeMediaUpload (queueId : String) (uploads : List MediaUpload) : List MediaUpload :=
  writeIndex ((loadIndex uploads).filter fun item => item.id ≠ queueId)

def discardMediaUpload (queueId : String) (uploads : List MediaUpload) : List MediaUpload :=
  removeMediaUpload queueId uploads

/-! ### The client with its uploads -/

structure MediaClient where
  client : Client
  uploads : List MediaUpload

def MediaClient.init : MediaClient := ⟨Client.init, []⟩

def MediaClient.perform (p : JournalProg Unit) (s : MediaClient) : MediaClient :=
  { s with client := { s.client with disk := p.exec s.client.disk } }

/-- How the upload of a file ends: there is no file, the file was stored and attached, or one of the exceptions. -/
inductive UploadEnd where
  | missing
  | done
  | notFound (message : String)
  | invalid (message : String)
  | apiError (statusCode : ℕ) (message : String)
  | runtimeError (message : String)
  | otherError

structure UploadAttempt where
  storageId : Option String := none
  ends : UploadEnd

inductive FlushStep where
  | next
  | success
  | raises

def MediaClient.reviewUpload (queueId : String) (entityType : EntityType) (localId : ℤ) (reasonCode message : String)
    (now : ℕ) (s : MediaClient) : MediaClient :=
  { s with
    uploads := markMediaUpload queueId (some .needsReview) (some message) none none now s.uploads }.perform <|
    addConflict
      { opId := "media:" ++ queueId, entityType, localId, reasonCode, message, serverPayload := [], createdAt := now }

def MediaClient.uploadDone (queueId : String) (s : MediaClient) : MediaClient :=
  { s with uploads := removeMediaUpload queueId s.uploads }.perform (removeConflict ("media:" ++ queueId))

def MediaClient.noteUpload (queueId message : String) (now : ℕ) (s : MediaClient) : MediaClient :=
  { s with uploads := noteMediaUploadAttempt queueId message now s.uploads }

def flushOfferPhoto (current : MediaUpload) (parentLocalId : ℤ) (attempt : UploadAttempt) (now : ℕ)
    (s : MediaClient) : MediaClient × FlushStep :=
  let stored : MediaClient :=
    if current.storageId = "" ∧ attempt.storageId.isSome then
      { s with uploads := markMediaUpload current.id none none attempt.storageId none now s.uploads }
    else s
  match attempt.ends with
  | .missing =>
    (s.reviewUpload current.id .offerPhoto parentLocalId "media_file_missing" "Offer photo file is missing." now, .next)
  | .done => (stored.uploadDone current.id, .success)
  | .notFound message =>
    (stored.reviewUpload current.id .offerPhoto parentLocalId "media_file_missing" message now, .next)
  | .invalid message =>
    (stored.reviewUpload current.id .offerPhoto parentLocalId "media_review_required" message now, .next)
  | .apiError code message =>
    if code ∈ retryableStatusCodes then (stored.noteUpload current.id message now, .next)
    else (stored.reviewUpload current.id .offerPhoto parentLocalId "media_review_required" message now, .next)
  | .runtimeError message => (stored.noteUpload current.id message now, .next)
  | .otherError => (stored, .raises)

def flushAgencyMedia (item : MediaUpload) (attempt : UploadAttempt) (now : ℕ) (s : MediaClient) :
    MediaClient × FlushStep :=
  match attempt.ends with
  | .missing =>
    (s.reviewUpload item.id .generic 0 "media_file_missing" (item.kind.name ++ " file is missing.") now, .next)
  | .done => (s.uploadDone item.id, .success)
  | .apiError code message =>
    if code ∈ retryableStatusCodes then (s.noteUpload item.id message now, .next)
    else (s.reviewUpload item.id .generic 0 "media_review_required" message now, .next)
  | .notFound _ | .invalid _ | .runtimeError _ | .otherError => (s, .raises)

/-- What the loop does with one upload; the photo of an offer without a server id is passed over. -/
def flushUpload (item : MediaUpload) (attempt : UploadAttempt) (now : ℕ) (s : MediaClient) :
    MediaClient × FlushStep :=
  if item.id = "" then (s, .next)
  else if item.kind = .offerPhoto then
    let current := (getMediaUpload item.id s.uploads).getD item
    let parentLocalId := current.parentLocalId.getD 0
    if parentLocalId ≤ 0 then (s, .next) else flushOfferPhoto current parentLocalId attempt now s
  else flushAgencyMedia item attempt now s

/-- The loop over the uploads, with the number of successes; an exception that it does not handle ends it. -/
def flushUploads (attempts : String → UploadAttempt) (now : ℕ) : List MediaUpload → MediaClient → ℕ → MediaClient × ℕ
  | [], s, success => (s, success)
  | item :: rest, s, success =>
    match flushUpload item (attempts item.id) now s with
    | (t, .next) => flushUploads attempts now rest t success
    | (t, .success) => flushUploads attempts now rest t (success + 1)
    | (t, .raises) => (t, success)

def flushPendingMediaUploads (limit : ℤ) (attempts : String → UploadAttempt) (now : ℕ) (s : MediaClient) :
    MediaClient × ℕ :=
  flushUploads attempts now ((listMediaUploads s.uploads).take (max 1 limit).toNat) s 0

end ImmoApp.Offline
