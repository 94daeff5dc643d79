import ImmoApp.Storage.Objects

/-!
# Offer photos

Attaching and deleting one photo, and the delete, restore and purge of an offer or of a listing, with what they do to
the storage objects.  Every operation is one transaction under the locks of its storage objects.

The check constraint on `delete_origin`, `delete_parent_scope` and `delete_parent_id` leaves the combinations of
`Provenance`; a unique index keeps two photos of one offer and one object from being active together.

`PhotoOp.exec_induction`: what the two ways of writing a storage object preserve, an operation preserves.
-/

namespace ImmoApp.Storage

open List Option

inductive Provenance where
  | manual
  | offerDeleted (offerId : ℕ)
  | listingDeleted (listingId : ℕ)
  | offerPurged (offerId : ℕ)
  | listingPurged (listingId : ℕ)
  deriving DecidableEq

/-- A row of `offers`. -/
structure Offer where
  agencyId : ℕ
  listingId : ℕ
  deletedAt : Option ℕ

/-- A row of `offer_photos`. -/
structure OfferPhoto where
  agencyId : ℕ
  offerId : ℕ
  storageId : ℕ
  position : ℤ
  deletedAt : Option ℕ
  provenance : Option Provenance

/-- `deleted_at IS NULL`. -/
def OfferPhoto.active (p : OfferPhoto) : Bool := p.deletedAt.isNone

def offerPhotoPurpose : String := "offer_photo"

abbrev Photos := Keyed ℕ OfferPhoto

namespace Photos

def countActiveStorageRefs (storageId : ℕ) (photos : Photos) : ℕ :=
  photos.entries.countP fun e => decide (e.2.storageId = storageId) && e.2.active

def Unique (photos : Photos) : Prop :=
  ((photos.entries.filter fun e => e.2.active).map fun e => (e.2.offerId, e.2.storageId)).Nodup

instance (photos : Photos) : Decidable photos.Unique := by
  unfold Unique
  infer_instance

def idsOf (offerId storageId : ℕ) (active : Bool) (photos : Photos) : List ℕ :=
  (photos.entries.filter fun e =>
    decide (e.2.offerId = offerId ∧ e.2.storageId = storageId) && e.2.active == active).map Prod.fst

def listStorageIdsForOfferIds (offerIds : List ℕ) (includeDeleted : Bool) (provenance : Option Provenance)
    (photos : Photos) : List ℕ :=
  (photos.entries.filter fun e =>
    decide (e.2.offerId ∈ offerIds) && (includeDeleted || e.2.active) &&
      provenance.all fun p => decide (e.2.provenance = some p)).map fun e => e.2.storageId

/-- `mark_offer_photo_deleted`: an active photo. -/
def markOfferPhotoDeleted (photoId : ℕ) (provenance : Provenance) (now : ℕ) (photos : Photos) : Photos :=
  photos.updateKey photoId fun p =>
    if p.active then { p with deletedAt := some now, provenance := some provenance } else p

/-- `mark_offer_photos_deleted_for_offers`, with the storage objects of the photos that are written. -/
def markOfferPhotosDeletedForOffers (offerIds : List ℕ) (provenance : Provenance) (includeDeleted : Bool)
    (now : ℕ) (photos : Photos) : List ℕ × Photos :=
  (photos.listStorageIdsForOfferIds offerIds includeDeleted none,
    photos.update (fun _ p => decide (p.offerId ∈ offerIds) && (includeDeleted || p.active)) fun _ p =>
      { p with deletedAt := some (p.deletedAt.getD now), provenance := some provenance })

/-- `restore_offer_photos_for_offers`: the photos that this provenance deleted and whose object is ready. -/
def restoreOfferPhotosForOffers (offerIds : List ℕ) (provenance : Provenance) (objects : Objects)
    (photos : Photos) : Photos :=
  photos.update (fun _ p =>
    decide (p.offerId ∈ offerIds ∧ p.provenance = some provenance) && !p.active &&
      (objects.rows.get? p.storageId).any fun so =>
        decide (so.status = .ready ∧ so.purpose = offerPhotoPurpose ∧ so.agencyId = p.agencyId)) fun _ p =>
    { p with deletedAt := none, provenance := none }

end Photos

/-- The database: storage objects, offers and photos. -/
structure Media where
  objects : Objects
  offers : Keyed ℕ Offer
  photos : Photos
  photoSeq : ℕ

namespace Media

def indexed (db : Media) : Option Media := if db.photos.Unique then some db else none

def lockActiveOffer (offerId : ℕ) (db : Media) : Option Offer :=
  (db.offers.get? offerId).filter fun o => o.deletedAt.isNone

def getOfferIdsForListing (listingId : ℕ) (includeDeleted : Bool) (db : Media) : List ℕ :=
  (db.offers.entries.filter fun e =>
    decide (e.2.listingId = listingId) && (includeDeleted || e.2.deletedAt.isNone)).map Prod.fst

def lockDeletedOfferPhotoForStorage (offerId storageId : ℕ) (db : Media) : Option ℕ :=
  ((db.photos.idsOf offerId storageId false).filter fun id =>
    (db.photos.get? id).any fun p => (db.objects.getStorageObject storageId).any fun so =>
      decide (so.status = .deleted ∧ so.purpose = offerPhotoPurpose ∧ so.agencyId = p.agencyId)).max?

/-- `restore_deleted_offer_photo_for_storage`: the last deleted photo, with its id. -/
def restoreDeletedOfferPhotoForStorage (offerId storageId : ℕ) (position : ℤ) (db : Media) : Option (ℕ × Media) :=
  (((db.photos.idsOf offerId storageId false).filter fun id =>
    (db.lockActiveOffer offerId).isSome && (db.photos.get? id).any fun p =>
      (db.objects.getStorageObject storageId).any fun so =>
        decide (so.status = .ready ∧ so.purpose = offerPhotoPurpose ∧ so.agencyId = p.agencyId)).max?).bind
  fun id => ({ db with photos := db.photos.updateKey id fun p =>
    { p with deletedAt := none, provenance := none, position := position } } : Media).indexed.map fun db =>
      (id, db)

/-- `create_offer_photo`: the id, and whether it is new. -/
def createOfferPhoto (offerId storageId : ℕ) (position : ℤ) (db : Media) : Option (ℕ × Bool × Media) :=
  (db.lockActiveOffer offerId).map fun offer =>
    match (db.photos.idsOf offerId storageId true).min? with
    | some id => (id, false, db)
    | none => (db.photoSeq, true,
      { db with
        photos := db.photos.set db.photoSeq ⟨offer.agencyId, offerId, storageId, position, none, none⟩
        photoSeq := db.photoSeq + 1 })

end Media

structure OfferPhotoAttachResult where
  photoId : ℕ
  created : Bool
  restored : Bool

/-! ### The lifecycle -/

/-- `sorted(set(ids))`. -/
def sortedIds (ids : List ℕ) : List ℕ := ids.dedup.insertionSort (· ≤ ·)

def restoreStorageInTransaction (id agencyId : ℕ) (objects : Objects) : Objects :=
  let x := objects.restoreDeletedStorage id
  if x.1 = 0 then x.2 else x.2.bumpStorageUsage agencyId x.1

/-- `mark_storage_deleted` of the repository with the counter. -/
def deleteStorageInTransaction (id agencyId : ℕ) (objects : Objects) : Objects :=
  let x := objects.markStorageDeleted id
  if x.1 = 0 then x.2 else x.2.bumpStorageUsage agencyId (-(x.1 : ℤ))

/-- `_delete_storage_if_unreferenced_in_transaction`. -/
def deleteStorageIfUnreferenced (photos : Photos) (storageRow : Option StorageObject) (objects : Objects)
    (id : ℕ) : Objects :=
  match storageRow with
  | none => objects
  | some row =>
    if row.status ≠ .ready ∨ 0 < photos.countActiveStorageRefs id then objects
    else deleteStorageInTransaction id row.agencyId objects

/-- The loop body of `restore_offer_photos_for_offers`. -/
def restoreStorageIfDeleted (storageRow : Option StorageObject) (objects : Objects) (id : ℕ) : Objects :=
  match storageRow with
  | none => objects
  | some row =>
    if row.status = .deleted ∧ row.purpose = offerPhotoPurpose then
      restoreStorageInTransaction id row.agencyId objects
    else objects

namespace Media

/-- `add_offer_photo`: the result and the database, or an exception. -/
def addOfferPhoto (agencyId offerId storageId : ℕ) (position : ℤ) (db : Media) :
    Option (OfferPhotoAttachResult × Media) :=
  match db.objects.getStorageObject storageId, db.lockActiveOffer offerId with
  | some row, some offer =>
    if row.purpose ≠ offerPhotoPurpose ∨ row.agencyId ≠ agencyId ∨ offer.agencyId ≠ agencyId then none
    else match (db.photos.idsOf offerId storageId true).min? with
      | some id => some (⟨id, false, false⟩, db)
      | none =>
        if row.status = .deleted then
          (db.lockDeletedOfferPhotoForStorage offerId storageId).bind fun _ =>
            (restoreDeletedOfferPhotoForStorage offerId storageId position
              { db with objects := restoreStorageInTransaction storageId row.agencyId db.objects }).map
            fun x => (⟨x.1, false, true⟩, x.2)
        else if row.status ≠ .ready then none
        else (db.createOfferPhoto offerId storageId position).map fun x => (⟨x.1, x.2.1, false⟩, x.2.2)
  | _, _ => none

def deleteOfferPhoto (photoId : ℕ) (db : Media) : Bool × Media :=
  match db.photos.get? photoId with
  | none => (false, db)
  | some photo =>
    if photo.active then
      let photos := db.photos.markOfferPhotoDeleted photoId .manual db.objects.now
      (true, { db with
        photos := photos
        objects := deleteStorageIfUnreferenced photos (db.objects.getStorageObject photo.storageId) db.objects
          photo.storageId })
    else (false, db)

/-- `mark_offer_photos_deleted_for_offers` of the lifecycle. -/
def markPhotosDeletedForOffers (offerIds : List ℕ) (provenance : Provenance) (includeDeleted : Bool)
    (db : Media) : Media :=
  let candidates := db.photos.listStorageIdsForOfferIds offerIds includeDeleted none
  let x := db.photos.markOfferPhotosDeletedForOffers offerIds provenance includeDeleted db.objects.now
  let ids := if includeDeleted then x.1 ++ candidates else x.1
  { db with
    photos := x.2
    objects := (sortedIds ids).foldl (fun objects id =>
      deleteStorageIfUnreferenced x.2 (db.objects.getStorageObject id) objects id) db.objects }

/-- `restore_offer_photos_for_offers` of the lifecycle. -/
def restorePhotosForOffers (offerIds : List ℕ) (provenance : Provenance) (db : Media) : Option Media :=
  let ids := sortedIds (db.photos.listStorageIdsForOfferIds offerIds true (some provenance))
  let objects := ids.foldl (fun objects id =>
    restoreStorageIfDeleted (db.objects.getStorageObject id) objects id) db.objects
  ({ db with
    objects := objects
    photos := db.photos.restoreOfferPhotosForOffers offerIds provenance objects } : Media).indexed

/-- `UPDATE offers SET deleted_at = …`. -/
def setOffersDeleted (p : ℕ → Offer → Bool) (deletedAt : Option ℕ) (db : Media) : Media :=
  { db with offers := db.offers.update p fun _ o => { o with deletedAt := deletedAt } }

/-- `DELETE FROM offers`, the photos with them. -/
def purgeOffers (p : ℕ → Offer → Bool) (db : Media) : Media :=
  { db with
    offers := db.offers.delete p
    photos := db.photos.delete fun _ photo => (db.offers.get? photo.offerId).any (p photo.offerId) }

def deleteOffer (offerId : ℕ) (db : Media) : Media :=
  (db.setOffersDeleted (fun k _ => k == offerId) (some db.objects.now)).markPhotosDeletedForOffers [offerId]
    (.offerDeleted offerId) false

def restoreOffer (offerId : ℕ) (db : Media) : Option Media :=
  (db.setOffersDeleted (fun k _ => k == offerId) none).restorePhotosForOffers [offerId] (.offerDeleted offerId)

def purgeOffer (offerId : ℕ) (db : Media) : Media :=
  (db.markPhotosDeletedForOffers [offerId] (.offerPurged offerId) true).purgeOffers fun k _ => k == offerId

/-- `delete_listing`: the photos of the offers that were live. -/
def deleteListing (listingId : ℕ) (db : Media) : Media :=
  (db.setOffersDeleted (fun _ o => o.listingId == listingId) (some db.objects.now)).markPhotosDeletedForOffers
    (db.getOfferIdsForListing listingId false) (.listingDeleted listingId) false

/-- `restore_listing`: all offers of the listing. -/
def restoreListing (listingId : ℕ) (db : Media) : Option Media :=
  let db' := db.setOffersDeleted (fun _ o => o.listingId == listingId) none
  db'.restorePhotosForOffers (db'.getOfferIdsForListing listingId false) (.listingDeleted listingId)

def purgeListing (listingId : ℕ) (db : Media) : Media :=
  (db.markPhotosDeletedForOffers (db.getOfferIdsForListing listingId true) (.listingPurged listingId)
    true).purgeOffers fun _ o => o.listingId == listingId

end Media

inductive PhotoOp where
  | add (agencyId offerId storageId : ℕ) (position : ℤ)
  | delete (photoId : ℕ)
  | deleteOffer (offerId : ℕ)
  | restoreOffer (offerId : ℕ)
  | purgeOffer (offerId : ℕ)
  | deleteListing (listingId : ℕ)
  | restoreListing (listingId : ℕ)
  | purgeListing (listingId : ℕ)
  deriving DecidableEq

namespace PhotoOp

def exec (db : Media) : PhotoOp → Option Media
  | add agencyId offerId storageId position =>
    (db.addOfferPhoto agencyId offerId storageId position).map Prod.snd
  | delete photoId => some (db.deleteOfferPhoto photoId).2
  | deleteOffer offerId => some (db.deleteOffer offerId)
  | restoreOffer offerId => db.restoreOffer offerId
  | purgeOffer offerId => some (db.purgeOffer offerId)
  | deleteListing listingId => some (db.deleteListing listingId)
  | restoreListing listingId => db.restoreListing listingId
  | purgeListing listingId => some (db.purgeListing listingId)

/-- The storage objects that an operation restores if they are deleted. -/
def reattached (db : Media) : PhotoOp → List ℕ
  | add _ _ storageId _ => [storageId]
  | restoreOffer offerId => db.photos.listStorageIdsForOfferIds [offerId] true (some (.offerDeleted offerId))
  | restoreListing listingId =>
    db.photos.listStorageIdsForOfferIds (db.getOfferIdsForListing listingId true) true
      (some (.listingDeleted listingId))
  | _ => []

end PhotoOp

/-! ### What the operations do to the storage objects -/

section Effects

variable {objects objects' : Objects} {photos : Photos} {id id' agencyId : ℕ} {r : StorageObject} {db db' : Media}
  {op : PhotoOp}

variable {ids : List ℕ} {P : Objects → Prop}

lemma mem_sortedIds : id ∈ sortedIds ids ↔ id ∈ ids := by
  rw [sortedIds, mem_insertionSort, mem_dedup]

lemma nodup_sortedIds (ids : List ℕ) : (sortedIds ids).Nodup :=
  (perm_insertionSort _ _).nodup_iff.mpr (nodup_dedup ids)

lemma rows_deleteStorageInTransaction : (deleteStorageInTransaction id agencyId objects).rows
      = objects.rows.updateKey id fun r => { r with status := .deleted, deletedAt := some objects.now } := by
  unfold deleteStorageInTransaction
  dsimp only
  split <;> rfl

lemma rows_restoreStorageInTransaction (h : objects.rows.get? id = some r) :
    (restoreStorageInTransaction id agencyId objects).rows = if r.status = .deleted ∧ r.deletedAt.isSome then
          objects.rows.updateKey id fun r => { r with status := .ready, deletedAt := none }
        else objects.rows := by
  by_cases hdeleted : r.status = .deleted ∧ r.deletedAt.isSome
  · rw [restoreStorageInTransaction, Objects.restoreDeletedStorage_of_deleted h hdeleted, if_pos hdeleted]
    dsimp only
    split <;> rfl
  · rw [restoreStorageInTransaction, Objects.restoreDeletedStorage_of_not_deleted h hdeleted, if_neg hdeleted]
    rfl

lemma get?_restoreStorageInTransaction_of_ne (hne : id' ≠ id) :
    (restoreStorageInTransaction id agencyId objects).rows.get? id' = objects.rows.get? id' := by
  cases hget : objects.rows.get? id with
  | none =>
    rw [restoreStorageInTransaction, Objects.restoreDeletedStorage, hget]
    rfl
  | some =>
    rw [rows_restoreStorageInTransaction hget]
    split
    · exact Keyed.get?_updateKey_of_ne hne _
    · rfl

lemma get?_deleteStorageInTransaction_of_ne (hne : id' ≠ id) :
    (deleteStorageInTransaction id agencyId objects).rows.get? id' = objects.rows.get? id' := by
  rw [rows_deleteStorageInTransaction]
  exact Keyed.get?_updateKey_of_ne hne _

lemma foldl_rows {f : Objects → ℕ → Objects} (hids : ids.Nodup)
    (hother : ∀ o id id', id' ≠ id → (f o id).rows.get? id' = o.rows.get? id')
    (hstep : ∀ o id, id ∈ ids → o.rows.get? id = objects.rows.get? id → P o → P (f o id))
    (hsame : ∀ id ∈ ids, objects'.rows.get? id = objects.rows.get? id) (h : P objects') :
    P (ids.foldl f objects') := by
  induction ids generalizing objects' with
  | nil => exact h
  | cons id _ ih =>
    obtain ⟨hnew, hids⟩ := nodup_cons.mp hids
    refine ih hids (fun o id' hid' => hstep o id' (mem_cons_of_mem id hid')) (fun id' hid' => ?_) ?_
    · rw [hother _ _ _ (ne_of_mem_of_not_mem hid' hnew)]
      exact hsame id' (mem_cons_of_mem id hid')
    · exact hstep objects' id mem_cons_self (hsame id mem_cons_self) h

lemma deleteLoop_induction (ids : List ℕ) (hdelete : ∀ o id r, P o → o.rows.get? id = some r → r.status = .ready →
      P (deleteStorageInTransaction id r.agencyId o)) (h : P objects) :
    P ((sortedIds ids).foldl (fun o id =>
      deleteStorageIfUnreferenced photos (objects.getStorageObject id) o id) objects) := by
  refine foldl_rows (nodup_sortedIds ids) (fun o id id' hne => ?_) (fun o id _ hsame hP => ?_) (fun _ _ => rfl) h
  · unfold deleteStorageIfUnreferenced
    split
    · rfl
    · split
      · rfl
      · exact get?_deleteStorageInTransaction_of_ne hne
  · unfold deleteStorageIfUnreferenced Objects.getStorageObject
    rw [← hsame]
    split
    · exact hP
    · next r hr =>
      split
      · exact hP
      · next hready => exact hdelete o id r hP hr (not_not.mp (not_or.mp hready).1)

lemma restoreLoop_induction (ids : List ℕ)
    (hrestore : ∀ o id r, id ∈ ids → P o → o.rows.get? id = some r → r.status = .deleted →
      P (restoreStorageInTransaction id r.agencyId o)) (h : P objects) :
    P ((sortedIds ids).foldl (fun o id =>
      restoreStorageIfDeleted (objects.getStorageObject id) o id) objects) := by
  refine foldl_rows (nodup_sortedIds ids) (fun o id id' hne => ?_) (fun o id hid hsame hP => ?_) (fun _ _ => rfl) h
  · unfold restoreStorageIfDeleted
    split
    · rfl
    · split
      · exact get?_restoreStorageInTransaction_of_ne hne
      · rfl
  · unfold restoreStorageIfDeleted Objects.getStorageObject
    rw [← hsame]
    split
    · exact hP
    · next r hr =>
      split
      · next hdeleted => exact hrestore o id r (mem_sortedIds.mp hid) hP hr hdeleted.1
      · exact hP

lemma objects_indexed (h : db.indexed = some db') : db' = db ∧ db.photos.Unique := by
  rw [Media.indexed] at h
  split at h
  · next hunique => exact ⟨(some.inj h).symm, hunique⟩
  · cases h

lemma getOfferIdsForListing_restored (listingId : ℕ) (includeDeleted : Bool) :
    (db.setOffersDeleted (fun _ o => o.listingId == listingId) none).getOfferIdsForListing listingId
      includeDeleted = db.getOfferIdsForListing listingId true := by
  rw [Media.getOfferIdsForListing, Media.getOfferIdsForListing, Media.setOffersDeleted]
  simp only [Keyed.update, List.filter_map, List.map_map]
  refine congrArg₂ List.map ?_ (List.filter_congr fun e _ => ?_)
  · rfl
  · simp only [Function.comp_apply]
    by_cases hlisting : e.2.listingId = listingId
    · simp [hlisting]
    · simp [hlisting]

/-- What deleting a ready object and restoring a deleted one preserve, every operation preserves. -/
theorem PhotoOp.exec_induction (hdelete : ∀ o id r, P o → o.rows.get? id = some r → r.status = .ready →
      P (deleteStorageInTransaction id r.agencyId o))
    (hrestore : ∀ o id r, id ∈ op.reattached db → P o → o.rows.get? id = some r → r.status = .deleted →
      P (restoreStorageInTransaction id r.agencyId o))
    (h : P db.objects) (hexec : op.exec db = some db') : P db'.objects := by
  cases op with
  | add agencyId offerId storageId position =>
    obtain ⟨⟨_, _⟩, hadd, rfl⟩ := map_eq_some_iff.mp hexec
    rw [Media.addOfferPhoto] at hadd
    split at hadd
    · next row offer hrow hoffer =>
      split at hadd
      · cases hadd
      split at hadd
      · cases hadd
        exact h
      split at hadd
      · next hdeleted =>
        obtain ⟨_, _, hadd⟩ := bind_eq_some_iff.mp hadd
        obtain ⟨x, hx, heq⟩ := map_eq_some_iff.mp hadd
        obtain ⟨_, _, hx⟩ := bind_eq_some_iff.mp hx
        obtain ⟨_, hindexed, rfl⟩ := map_eq_some_iff.mp hx
        obtain ⟨rfl, _⟩ := objects_indexed hindexed
        cases heq
        exact hrestore db.objects storageId row mem_cons_self h hrow hdeleted
      split at hadd
      · cases hadd
      · obtain ⟨x, hx, heq⟩ := map_eq_some_iff.mp hadd
        obtain ⟨_, _, hx⟩ := map_eq_some_iff.mp hx
        cases heq
        split at hx
        all_goals
          subst hx
          exact h
    · cases hadd
  | delete =>
    cases hexec
    rw [Media.deleteOfferPhoto]
    split
    · exact h
    · next photo hphoto =>
      split
      · unfold deleteStorageIfUnreferenced
        dsimp only
        split
        · exact h
        · next r hr =>
          split
          · exact h
          · next hready => exact hdelete _ _ r h hr (not_not.mp (not_or.mp hready).1)
      · exact h
  | deleteOffer =>
    cases hexec
    exact deleteLoop_induction _ hdelete h
  | restoreOffer offerId =>
    obtain ⟨rfl, _⟩ := objects_indexed hexec
    exact restoreLoop_induction _ hrestore h
  | purgeOffer =>
    cases hexec
    exact deleteLoop_induction _ hdelete h
  | deleteListing =>
    cases hexec
    exact deleteLoop_induction _ hdelete h
  | restoreListing listingId =>
    obtain ⟨rfl, _⟩ := objects_indexed hexec
    refine restoreLoop_induction _ (fun o id r hid => hrestore o id r ?_) h
    rw [getOfferIdsForListing_restored] at hid
    exact hid
  | purgeListing =>
    cases hexec
    exact deleteLoop_induction _ hdelete h

end Effects

end ImmoApp.Storage
