import ImmoApp.Foundation.Runs
import ImmoApp.Storage.Photos

/-!
# The lifecycle of offer photos

Runs of the operations on photos, with the purge of deleted objects between them.  `PhotoOp.Effect` says once what an
operation may do to the rows.  From it two invariants: `Refs` (an object that has had photos is ready exactly while an
active photo refers to it) and `Explained` (an inactive photo says which operation has made it so).

`LifecycleDesk.photo_lifecycle`: a restore makes active exactly the photos that the matching delete has made inactive,
unless two photos of one offer and one storage object would be active then.
-/

namespace ImmoApp.Storage

open Keyed
open Bool hiding and_assoc not_not not_or

open List Option

/-! ### What refers to an object -/

namespace Photos

def Refers (photos : Photos) (storageId : ℕ) : Prop :=
  ∃ id p, photos.get? id = some p ∧ p.active = true ∧ p.storageId = storageId

def activeAt (photos : Photos) (id : ℕ) : Bool := (photos.get? id).any OfferPhoto.active

section Refers

variable {photos photos' : Photos} {id storageId : ℕ} {p : OfferPhoto}

lemma activeAt_iff : photos.activeAt id = true ↔ ∃ p, photos.get? id = some p ∧ p.active = true := by
  rw [activeAt, Option.any_eq_true]

lemma countActiveStorageRefs_eq_zero_iff : photos.countActiveStorageRefs storageId = 0 ↔ ¬ photos.Refers storageId := by
  rw [countActiveStorageRefs, countP_eq_zero]
  constructor
  · rintro h ⟨id, p, hp, hactive, hstorage⟩
    exact h (id, p) (mem_entries_iff.mpr hp) (by simp [hactive, hstorage])
  · rintro h ⟨id, p⟩ hmem hcond
    simp only [and_eq_true, decide_eq_true_eq] at hcond
    exact h ⟨id, p, mem_entries_iff.mp hmem, hcond.2, hcond.1⟩

lemma unique_iff : photos.Unique ↔ ∀ id id' p p', photos.get? id = some p → photos.get? id' = some p' →
    p.active = true → p'.active = true → p.offerId = p'.offerId → p.storageId = p'.storageId → id = id' := by
  have hnodup : (photos.entries.filter fun e => e.2.active).Nodup :=
    (Nodup.of_map Prod.fst photos.nodup).filter _
  rw [Unique, nodup_map_iff_inj_on hnodup]
  constructor
  · intro h id id' p p' hp hp' hactive hactive' hoffer hstorage
    have hpair := h (id, p) (mem_filter.mpr ⟨mem_entries_iff.mpr hp, hactive⟩) (id', p')
      (mem_filter.mpr ⟨mem_entries_iff.mpr hp', hactive'⟩) (Prod.ext hoffer hstorage)
    exact congrArg Prod.fst hpair
  · rintro h ⟨id, p⟩ hp ⟨id', p'⟩ hp' heq
    obtain ⟨hmem, hactive⟩ := mem_filter.mp hp
    obtain ⟨hmem', hactive'⟩ := mem_filter.mp hp'
    obtain ⟨hoffer, hstorage⟩ := Prod.mk.inj heq
    have hget := mem_entries_iff.mp hmem
    have hid : id = id' := h id id' p p' hget (mem_entries_iff.mp hmem') hactive hactive' hoffer hstorage
    subst hid
    rw [mem_entries_iff.mp hmem'] at hget
    exact Prod.ext rfl (some.inj hget).symm

lemma mem_listStorageIds {offerIds : List ℕ} {includeDeleted : Bool} {provenance : Option Provenance} :
    storageId ∈ photos.listStorageIdsForOfferIds offerIds includeDeleted provenance ↔
      ∃ id p, photos.get? id = some p ∧ p.offerId ∈ offerIds ∧ (includeDeleted = true ∨ p.active = true) ∧
        (∀ q ∈ provenance, p.provenance = some q) ∧ p.storageId = storageId := by
  rw [listStorageIdsForOfferIds, List.mem_map]
  constructor
  · rintro ⟨⟨id, p⟩, hmem, rfl⟩
    obtain ⟨hmem, hcond⟩ := List.mem_filter.mp hmem
    simp only [and_eq_true, decide_eq_true_eq, or_eq_true, Option.all_eq_true] at hcond
    exact ⟨id, p, mem_entries_iff.mp hmem, hcond.1.1, hcond.1.2, hcond.2, rfl⟩
  · rintro ⟨id, p, hp, hoffer, hdeleted, hprovenance, rfl⟩
    refine ⟨(id, p), List.mem_filter.mpr ⟨mem_entries_iff.mpr hp, ?_⟩, rfl⟩
    simp only [and_eq_true, decide_eq_true_eq, or_eq_true, Option.all_eq_true]
    exact ⟨⟨hoffer, hdeleted⟩, hprovenance⟩

end Refers

end Photos

/-- An object that has had photos: ready while an active photo refers to it, otherwise deleted or purged. -/
def StorageObject.Settled (photos : Photos) (storageId : ℕ) (r : StorageObject) : Prop :=
  r.purpose = offerPhotoPurpose ∧ ((photos.Refers storageId ∧ r.status = .ready) ∨
      (¬ photos.Refers storageId ∧ (r.status = .deleted ∧ r.deletedAt.isSome = true ∨ r.status = .purged)))

/-! ### The loops, row by row -/

section Loops

variable {objects objects' : Objects} {photos photos' : Photos} {id : ℕ} {r : StorageObject}

lemma foldl_rows_eq {f : Objects → ℕ → Objects} {g : ℕ → StorageObject → StorageObject} {ids : List ℕ}
    (hids : ids.Nodup) (hother : ∀ o id id', id' ≠ id → (f o id).rows.get? id' = o.rows.get? id')
    (hself : ∀ o id, o.now = objects.now → o.rows.get? id = objects.rows.get? id →
      (f o id).now = objects.now ∧ (f o id).rows.get? id = (objects.rows.get? id).map (g id))
    (hnow : objects'.now = objects.now) (hsame : ∀ id ∈ ids, objects'.rows.get? id = objects.rows.get? id) :
    (ids.foldl f objects').rows.get? id
      = if id ∈ ids then (objects.rows.get? id).map (g id) else objects'.rows.get? id := by
  induction ids generalizing objects' with
  | nil => rfl
  | cons k ids ih =>
    obtain ⟨hnew, hids⟩ := nodup_cons.mp hids
    obtain ⟨hnow', hk⟩ := hself objects' k hnow (hsame k mem_cons_self)
    rw [foldl_cons, ih hids hnow' fun id' hid' => ?_]
    · by_cases hid : id ∈ ids
      · rw [if_pos hid, if_pos (mem_cons_of_mem k hid)]
      · rw [if_neg hid]
        by_cases heq : id = k
        · subst heq
          rw [if_pos mem_cons_self, hk]
        · rw [if_neg (by simp [heq, hid]), hother _ _ _ heq]
    · rw [hother _ _ _ (ne_of_mem_of_not_mem hid' hnew)]
      exact hsame id' (mem_cons_of_mem k hid')

/-- What becomes of a row whose photos were deleted. -/
def dropped (photos : Photos) (now id : ℕ) (r : StorageObject) : StorageObject :=
  if r.status ≠ .ready ∨ 0 < photos.countActiveStorageRefs id then r
  else { r with status := .deleted, deletedAt := some now }

/-- What becomes of a row whose photos are restored. -/
def revived (r : StorageObject) : StorageObject :=
  if r.status = .deleted ∧ r.purpose = offerPhotoPurpose ∧ r.deletedAt.isSome then
    { r with status := .ready, deletedAt := none }
  else r

lemma now_deleteStorageInTransaction (agencyId : ℕ) :
    (deleteStorageInTransaction id agencyId objects).now = objects.now := by
  unfold deleteStorageInTransaction
  dsimp only
  split <;> rfl

lemma now_restoreStorageInTransaction (agencyId : ℕ) (h : objects.rows.get? id = some r) :
    (restoreStorageInTransaction id agencyId objects).now = objects.now := by
  unfold restoreStorageInTransaction
  by_cases hdeleted : r.status = .deleted ∧ r.deletedAt.isSome
  · rw [Objects.restoreDeletedStorage_of_deleted h hdeleted]
    dsimp only
    split <;> rfl
  · rw [Objects.restoreDeletedStorage_of_not_deleted h hdeleted]
    rfl

lemma get?_deleteLoop (ids : List ℕ) : ((sortedIds ids).foldl (fun o id =>
      deleteStorageIfUnreferenced photos (objects.getStorageObject id) o id) objects).rows.get? id
      = if id ∈ ids then (objects.rows.get? id).map (dropped photos objects.now id)
        else objects.rows.get? id := by
  rw [foldl_rows_eq (g := dropped photos objects.now) (nodup_sortedIds ids) (fun o id id' hne => ?_)
    (fun o id hnow hsame => ?_) rfl fun _ _ => rfl]
  · simp only [mem_sortedIds]
  · unfold deleteStorageIfUnreferenced
    split
    · rfl
    · split
      · rfl
      · exact get?_deleteStorageInTransaction_of_ne hne
  · unfold deleteStorageIfUnreferenced dropped Objects.getStorageObject
    cases hrow : objects.rows.get? id with
    | none => exact ⟨hnow, hsame.trans hrow⟩
    | some =>
      dsimp only [map_some]
      split
      · exact ⟨hnow, hsame.trans hrow⟩
      · refine ⟨(now_deleteStorageInTransaction _).trans hnow, ?_⟩
        rw [rows_deleteStorageInTransaction, get?_updateKey_self, hsame, hrow, hnow]
        rfl

lemma get?_restoreLoop (ids : List ℕ) : ((sortedIds ids).foldl (fun o id =>
      restoreStorageIfDeleted (objects.getStorageObject id) o id) objects).rows.get? id
      = if id ∈ ids then (objects.rows.get? id).map revived else objects.rows.get? id := by
  rw [foldl_rows_eq (g := fun _ => revived) (nodup_sortedIds ids) (fun o id id' hne => ?_)
    (fun o id hnow hsame => ?_) rfl fun _ _ => rfl]
  · simp only [mem_sortedIds]
  · unfold restoreStorageIfDeleted
    split
    · rfl
    · split
      · exact get?_restoreStorageInTransaction_of_ne hne
      · rfl
  · unfold restoreStorageIfDeleted Objects.getStorageObject
    cases hrow : objects.rows.get? id with
    | none => exact ⟨hnow, hsame.trans hrow⟩
    | some r =>
      rw [hrow] at hsame
      dsimp only [map_some]
      split
      · next hpurpose =>
        refine ⟨(now_restoreStorageInTransaction _ hsame).trans hnow, ?_⟩
        rw [rows_restoreStorageInTransaction hsame]
        by_cases hdeleted : r.status = .deleted ∧ r.deletedAt.isSome
        · rw [if_pos hdeleted, get?_updateKey_self, hsame, revived,
            if_pos ⟨hdeleted.1, hpurpose.2, hdeleted.2⟩]
          rfl
        · rw [if_neg hdeleted, hsame, revived, if_neg fun h => hdeleted ⟨h.1, h.2.2⟩]
      · next hpurpose => exact ⟨hnow, by rw [hsame, revived, if_neg fun h => hpurpose ⟨h.1, h.2.1⟩]⟩

end Loops

section Settled

variable {photos photos' : Photos} {now id : ℕ} {r : StorageObject}

section

variable (h : r.Settled photos id)
include h

lemma StorageObject.Settled.ready_iff : r.status = .ready ↔ photos.Refers id := by
  rcases h.2 with ⟨hrefers, hready⟩ | ⟨hrefers, hdeleted | hpurged⟩
  · exact iff_of_true hready hrefers
  · exact iff_of_false (by rw [hdeleted.1]; decide) hrefers
  · exact iff_of_false (by rw [hpurged]; decide) hrefers

lemma StorageObject.Settled.congr (hrefers : photos'.Refers id ↔ photos.Refers id) :
    r.Settled photos' id := by
  rw [StorageObject.Settled, hrefers]
  exact h

lemma StorageObject.Settled.dropped (hsub : photos'.Refers id → photos.Refers id) :
    (dropped photos' now id r).Settled photos' id := by
  obtain ⟨hpurpose, hstate⟩ := h
  unfold Storage.dropped
  by_cases hrefers : photos'.Refers id
  · have hcount : 0 < photos'.countActiveStorageRefs id :=
      Nat.pos_of_ne_zero fun hzero => Photos.countActiveStorageRefs_eq_zero_iff.mp hzero hrefers
    rw [if_pos (.inr hcount)]
    rcases hstate with ⟨_, hready⟩ | ⟨hnot, _⟩
    · exact ⟨hpurpose, .inl ⟨hrefers, hready⟩⟩
    · exact absurd (hsub hrefers) hnot
  · have hcount := Photos.countActiveStorageRefs_eq_zero_iff.mpr hrefers
    rw [hcount]
    rcases hstate with ⟨_, hready⟩ | ⟨_, hgone⟩
    · rw [if_neg (by simp [hready])]
      exact ⟨hpurpose, .inr ⟨hrefers, .inl ⟨rfl, rfl⟩⟩⟩
    · rw [if_pos (.inl (by rcases hgone with hgone | hgone <;> simp [hgone]))]
      exact ⟨hpurpose, .inr ⟨hrefers, hgone⟩⟩

lemma StorageObject.Settled.revived :
    (revived r).status = .ready ∨ (revived r = r ∧ ¬ photos.Refers id ∧ r.status = .purged) := by
  obtain ⟨hpurpose, ⟨_, hready⟩ | ⟨hrefers, hdeleted | hpurged⟩⟩ := h
  · refine .inl ?_
    rw [Storage.revived, if_neg (by simp [hready])]
    exact hready
  · rw [Storage.revived, if_pos ⟨hdeleted.1, hpurpose, hdeleted.2⟩]
    exact .inl rfl
  · refine .inr ⟨?_, hrefers, hpurged⟩
    rw [Storage.revived, if_neg (by simp [hpurged])]

end

end Settled

/-! ### What made a photo inactive -/

def Provenance.cause (photoId : ℕ) : Provenance → PhotoOp
  | manual => .delete photoId
  | offerDeleted offerId => .deleteOffer offerId
  | listingDeleted listingId => .deleteListing listingId
  | offerPurged offerId => .purgeOffer offerId
  | listingPurged listingId => .purgeListing listingId

def Provenance.Names (offers : Keyed ℕ Offer) (offerId : ℕ) : Provenance → Prop
  | offerDeleted offerId' => offerId = offerId'
  | listingDeleted listingId => (offers.get? offerId).map Offer.listingId = some listingId
  | _ => True

/-- Who made a photo inactive last, after an operation. -/
def removals (op : PhotoOp) (photos photos' : Photos) (removedBy : ℕ → Option PhotoOp) : ℕ → Option PhotoOp :=
  fun id => if photos.activeAt id = true ∧ photos'.activeAt id = false then some op else removedBy id

/-- The invariant on photos and storage objects; `attached` has the objects that have had photos. -/
structure Media.Refs (attached : List ℕ) (db : Media) : Prop where
  /-- A photo has an offer, and a storage object of its agency. -/
  photo : ∀ id p, db.photos.get? id = some p → p.storageId ∈ attached ∧ id < db.photoSeq ∧
    (∃ o, db.offers.get? p.offerId = some o) ∧
    ∃ r, db.objects.rows.get? p.storageId = some r ∧ r.agencyId = p.agencyId
  row : ∀ id ∈ attached, ∃ r, db.objects.rows.get? id = some r ∧ r.Settled db.photos id
  unique : db.photos.Unique

/-- The invariant on the inactive photos; `removedBy` has the operation that made a photo inactive. -/
def Media.Explained (removedBy : ℕ → Option PhotoOp) (db : Media) : Prop :=
  ∀ id p, db.photos.get? id = some p → p.active = false →
    ∃ q, p.provenance = some q ∧ removedBy id = some (q.cause id) ∧ q.Names db.offers p.offerId

structure PhotoOp.Effect (op : PhotoOp) (db db' : Media) : Prop where
  /-- A photo is as it was, made active, made inactive by this operation, or new. -/
  photo : ∀ id p', db'.photos.get? id = some p' → (∃ p, db.photos.get? id = some p ∧
      (p'.agencyId = p.agencyId ∧ p'.offerId = p.offerId ∧ p'.storageId = p.storageId) ∧
      (p' = p ∨ p'.active = true ∨
        p.active = true ∧ ∃ q, p'.provenance = some q ∧ q.cause id = op ∧ q.Names db.offers p.offerId)) ∨
    (id < db'.photoSeq ∧ p'.active = true ∧ (∃ o, db.offers.get? p'.offerId = some o) ∧
      ∃ r, db'.objects.rows.get? p'.storageId = some r ∧ r.agencyId = p'.agencyId ∧ r.Settled db'.photos p'.storageId)
  offer : ∀ id p', db'.photos.get? id = some p' →
    (db'.offers.get? p'.offerId).map Offer.listingId = (db.offers.get? p'.offerId).map Offer.listingId
  seq : db.photoSeq ≤ db'.photoSeq
  row : ∀ id r, db.objects.rows.get? id = some r → ∃ r', db'.objects.rows.get? id = some r' ∧
    r'.agencyId = r.agencyId ∧ (r.Settled db.photos id → r'.Settled db'.photos id)
  unique : db'.photos.Unique

section Preserved

variable {db db' : Media} {op : PhotoOp} {attached : List ℕ} {removedBy : ℕ → Option PhotoOp}

def Photos.storageIds (photos : Photos) : List ℕ := photos.entries.map fun e => e.2.storageId

/-- An operation keeps the objects settled. -/
theorem PhotoOp.Effect.refs (h : op.Effect db db') (hrefs : db.Refs attached) :
    db'.Refs (attached ++ db'.photos.storageIds) where
  photo id p' hp' := by
    refine ⟨mem_append_right _ (mem_map.mpr ⟨(id, p'), mem_entries_iff.mpr hp', rfl⟩), ?_⟩
    have hoffer := h.offer id p' hp'
    rcases h.photo id p' hp' with ⟨p, hp, ⟨hagency, hofferId, hstorage⟩, _⟩ | ⟨hid, _, ⟨o, ho⟩, r, hr, hagency, _⟩
    · obtain ⟨_, hid, ⟨o, ho⟩, r, hr, hsame⟩ := hrefs.photo id p hp
      obtain ⟨r', hr', hagency', _⟩ := h.row p.storageId r hr
      rw [hofferId, ho, map_some] at hoffer
      obtain ⟨o', ho', _⟩ := map_eq_some_iff.mp hoffer
      refine ⟨hid.trans_le h.seq, ⟨o', by rw [hofferId, ho']⟩, r', by rw [hstorage, hr'], ?_⟩
      rw [hagency', hsame, hagency]
    · rw [ho, map_some] at hoffer
      obtain ⟨o', ho', _⟩ := map_eq_some_iff.mp hoffer
      exact ⟨hid, ⟨o', ho'⟩, r, hr, hagency⟩
  row id hid := by
    have hold : ∀ id ∈ attached, ∃ r, db'.objects.rows.get? id = some r ∧ r.Settled db'.photos id := by
      intro id hid
      obtain ⟨r, hr, hsettled⟩ := hrefs.row id hid
      obtain ⟨r', hr', _, hkeep⟩ := h.row id r hr
      exact ⟨r', hr', hkeep hsettled⟩
    rcases mem_append.mp hid with hid | hid
    · exact hold id hid
    · obtain ⟨⟨photoId, p'⟩, hmem, rfl⟩ := mem_map.mp hid
      rcases h.photo photoId p' (mem_entries_iff.mp hmem) with
        ⟨p, hp, ⟨_, _, hstorage⟩, _⟩ | ⟨_, _, _, r, hr, _, hsettled⟩
      · exact hold _ (hstorage ▸ (hrefs.photo photoId p hp).1)
      · exact ⟨r, hr, hsettled⟩
  unique := h.unique

/-- An operation keeps the inactive photos explained. -/
theorem PhotoOp.Effect.explained (h : op.Effect db db') (hexplained : db.Explained removedBy) :
    db'.Explained (removals op db.photos db'.photos removedBy) := by
  intro id p' hp' hinactive
  have hafter : db'.photos.activeAt id = false := by
    rw [Photos.activeAt, hp']
    exact hinactive
  have hnames : ∀ q : Provenance, q.Names db.offers p'.offerId → q.Names db'.offers p'.offerId := by
    intro q hq
    cases q with
    | listingDeleted => exact (h.offer id p' hp').trans hq
    | offerDeleted => exact hq
    | manual => trivial
    | offerPurged => trivial
    | listingPurged => trivial
  rcases h.photo id p' hp' with ⟨p, hp, ⟨_, hoffer, _⟩, hcases⟩ | ⟨_, hactive, _⟩
  · have hbefore : db.photos.activeAt id = p.active := by
      rw [Photos.activeAt, hp]
      rfl
    rcases hcases with rfl | hactive | ⟨hactive, q, hq, hcause, hname⟩
    · obtain ⟨q, hq, hremoved, hname⟩ := hexplained id p' hp hinactive
      refine ⟨q, hq, ?_, hnames q hname⟩
      rw [removals, if_neg (by simp [hbefore, hinactive]), hremoved]
    · rw [hactive] at hinactive
      cases hinactive
    · refine ⟨q, hq, ?_, hnames q (hoffer ▸ hname)⟩
      rw [removals, if_pos ⟨hbefore.trans hactive, hafter⟩, hcause]
  · rw [hactive] at hinactive
    cases hinactive

end Preserved

/-! ### The operations that make photos inactive -/

section Dropping

variable {db db' : Media} {op : PhotoOp} {attached : List ℕ} {removedBy : ℕ → Option PhotoOp}
  {photos : Photos}

lemma dropped_congr {now id : ℕ} (h : photos.Refers id ↔ db.photos.Refers id) :
    dropped photos now id = dropped db.photos now id := by
  have hcount : 0 < photos.countActiveStorageRefs id ↔ 0 < db.photos.countActiveStorageRefs id := by
    rw [Nat.pos_iff_ne_zero, Nat.pos_iff_ne_zero, Ne, Ne, Photos.countActiveStorageRefs_eq_zero_iff,
      Photos.countActiveStorageRefs_eq_zero_iff, h]
  funext r
  simp only [dropped, hcount]

/-- The photos after some of them were made inactive by the operation. -/
def Photos.Dropped (op : PhotoOp) (offers : Keyed ℕ Offer) (photos photos' : Photos) : Prop :=
  ∀ id p', photos'.get? id = some p' → ∃ p, photos.get? id = some p ∧
    (p' = p ∨ p.active = true ∧ ∃ t q, p' = { p with deletedAt := some t, provenance := some q } ∧
      q.cause id = op ∧ q.Names offers p.offerId)

lemma Photos.Dropped.get? {photos' : Photos} {offers : Keyed ℕ Offer} {id : ℕ} {p' : OfferPhoto}
    (h : Photos.Dropped op offers photos photos') (hp' : photos'.get? id = some p') (hactive : p'.active = true) :
    photos.get? id = some p' := by
  obtain ⟨p, hp, rfl | ⟨_, t, q, rfl, _⟩⟩ := h id p' hp'
  · exact hp
  · cases hactive

lemma effect_of_dropped (ids : List ℕ) (now : ℕ) (hunique : db.photos.Unique)
    (hrows : ∀ id, db'.objects.rows.get? id = if id ∈ ids then (db.objects.rows.get? id).map
      (dropped db'.photos now id) else db.objects.rows.get? id)
    (hphoto : Photos.Dropped op db.offers db.photos db'.photos)
    (hswept : ∀ id p, db.photos.get? id = some p → p.active = true → p.storageId ∉ ids → db'.photos.get? id = some p)
    (hoffer : ∀ id p', db'.photos.get? id = some p' →
      (db'.offers.get? p'.offerId).map Offer.listingId = (db.offers.get? p'.offerId).map Offer.listingId)
    (hseq : db'.photoSeq = db.photoSeq) : op.Effect db db' where
  photo id p' hp' := by
    obtain ⟨p, hp, rfl | ⟨hactive, t, q, rfl, hcause, hname⟩⟩ := hphoto id p' hp'
    · exact .inl ⟨p', hp, ⟨rfl, rfl, rfl⟩, .inl rfl⟩
    · exact .inl ⟨p, hp, ⟨rfl, rfl, rfl⟩, .inr (.inr ⟨hactive, q, rfl, hcause, hname⟩)⟩
  offer := hoffer
  seq := hseq.ge
  row id r hr := by
    have hsub : db'.photos.Refers id → db.photos.Refers id := by
      rintro ⟨k, p', hp', hk, hstorage⟩
      exact ⟨k, p', hphoto.get? hp' hk, hk, hstorage⟩
    rw [hrows, hr]
    by_cases hid : id ∈ ids
    · refine ⟨dropped db'.photos now id r, by rw [if_pos hid]; rfl, ?_, fun h => h.dropped hsub⟩
      rw [dropped]
      split <;> rfl
    · refine ⟨r, by rw [if_neg hid], rfl, fun h => h.congr ⟨hsub, ?_⟩⟩
      rintro ⟨k, p, hp, hk, rfl⟩
      exact ⟨k, p, hswept k p hp hk hid, hk, rfl⟩
  unique := by
    rw [Photos.unique_iff] at hunique ⊢
    intro k k' p p' hp hp' hk hk'
    exact hunique k k' p p' (hphoto.get? hp hk) (hphoto.get? hp' hk') hk hk'

lemma effect_self (hunique : db.photos.Unique) : op.Effect db db :=
  effect_of_dropped [] 0 hunique (fun id => by simp) (fun _ p' hp' => ⟨p', hp', .inl rfl⟩)
    (fun _ _ hp _ _ => hp) (fun _ _ _ => rfl) rfl

lemma effect_deleteOfferPhoto (hunique : db.photos.Unique) (photoId : ℕ) :
    (PhotoOp.delete photoId).Effect db (db.deleteOfferPhoto photoId).2 := by
  have hsame : (PhotoOp.delete photoId).Effect db db := effect_self hunique
  rw [Media.deleteOfferPhoto]
  split
  · exact hsame
  · next photo hphoto =>
    split
    · next hactive =>
      refine effect_of_dropped [photo.storageId] db.objects.now hunique (fun id => ?_)
        (fun id p' hp' => ?_) (fun id p hp hk hid => ?_) (fun _ _ _ => rfl) rfl
      · exact get?_deleteLoop [photo.storageId]
      · rw [Photos.markOfferPhotoDeleted, get?_updateKey] at hp'
        by_cases heq : id = photoId
        · subst heq
          rw [if_pos rfl, hphoto, map_some, if_pos hactive] at hp'
          exact ⟨photo, hphoto, .inr ⟨hactive, _, .manual, (some.inj hp').symm, rfl, trivial⟩⟩
        · rw [if_neg heq] at hp'
          exact ⟨p', hp', .inl rfl⟩
      · have hne : id ≠ photoId := by
          rintro rfl
          rw [hphoto] at hp
          cases hp
          exact hid mem_cons_self
        exact (get?_updateKey_of_ne hne _).trans hp
    · exact hsame

variable (db) in
lemma listingId_setOffersDeleted (p : ℕ → Offer → Bool) (t : Option ℕ) (offerId : ℕ) :
    ((db.setOffersDeleted p t).offers.get? offerId).map Offer.listingId
      = (db.offers.get? offerId).map Offer.listingId := by
  rw [Media.setOffersDeleted, get?_update, Option.map_map]
  refine congrArg (fun f => (db.offers.get? offerId).map f) (funext fun o => ?_)
  simp only [Function.comp_apply]
  split <;> rfl

variable {offerIds : List ℕ} {q : Provenance}

lemma effect_markPhotosDeleted (hunique : db.photos.Unique)
    (hcause : ∀ id, q.cause id = op) (hname : ∀ offerId ∈ offerIds, q.Names db.offers offerId)
    (p : ℕ → Offer → Bool) (t : Option ℕ) :
    op.Effect db ((db.setOffersDeleted p t).markPhotosDeletedForOffers offerIds q false) := by
  refine effect_of_dropped (db.photos.listStorageIdsForOfferIds offerIds false none) db.objects.now
    hunique (fun id => ?_) (fun id p' hp' => ?_) (fun id p hp hk hid => ?_)
    (fun id p' _ => ?_) rfl
  · exact get?_deleteLoop _
  · obtain ⟨p, hp, rfl⟩ := map_eq_some_iff.mp ((get?_update _ _ db.photos id).symm.trans hp')
    refine ⟨p, hp, ?_⟩
    split
    · next hcond =>
      simp only [and_eq_true, decide_eq_true_eq, Bool.false_or] at hcond
      exact .inr ⟨hcond.2, _, q, rfl, hcause id, hname _ hcond.1⟩
    · exact .inl rfl
  · have hkeep : ¬ (decide (p.offerId ∈ offerIds) && (false || p.active)) = true := by
      intro hcond
      simp only [and_eq_true, decide_eq_true_eq, Bool.false_or] at hcond
      exact hid (Photos.mem_listStorageIds.mpr ⟨id, p, hp, hcond.1, .inr hk, fun _ h => (not_mem_none _ h).elim, rfl⟩)
    refine (get?_update _ _ db.photos id).trans ?_
    rw [hp, map_some, if_neg hkeep]
  · exact listingId_setOffersDeleted db p t p'.offerId

lemma effect_purge {p : ℕ → Offer → Bool} (hunique : db.photos.Unique)
    (hids : ∀ id photo, db.photos.get? id = some photo →
      (photo.offerId ∈ offerIds ↔ (db.offers.get? photo.offerId).any (p photo.offerId) = true)) :
    op.Effect db ((db.markPhotosDeletedForOffers offerIds q true).purgeOffers p) := by
  set marked := (db.photos.markOfferPhotosDeletedForOffers offerIds q true db.objects.now).2 with hmarked
  have hmarkedGet : ∀ id, marked.get? id = (db.photos.get? id).map fun photo =>
      if photo.offerId ∈ offerIds then
        { photo with deletedAt := some (photo.deletedAt.getD db.objects.now), provenance := some q }
      else photo := by
    intro id
    rw [hmarked, Photos.markOfferPhotosDeletedForOffers, get?_update]
    simp only [Bool.true_or, Bool.and_true, decide_eq_true_eq]
  have hfinal : ∀ id p', ((db.markPhotosDeletedForOffers offerIds q true).purgeOffers p).photos.get? id = some p'
      ↔ db.photos.get? id = some p' ∧ p'.offerId ∉ offerIds := by
    intro id p'
    change (marked.delete fun _ photo => (db.offers.get? photo.offerId).any (p photo.offerId)).get? id = some p' ↔ _
    rw [get?_delete, hmarkedGet, filter_eq_some_iff, map_eq_some_iff]
    constructor
    · rintro ⟨⟨photo, hphoto, rfl⟩, hkeep⟩
      have hnot : photo.offerId ∉ offerIds := by
        intro hmem
        rw [if_pos hmem, not_eq_true', (hids id photo hphoto).mp hmem] at hkeep
        cases hkeep
      rw [if_neg hnot]
      exact ⟨hphoto, hnot⟩
    · rintro ⟨hphoto, hnot⟩
      refine ⟨⟨p', hphoto, if_neg hnot⟩, ?_⟩
      rw [not_eq_true', ← not_eq_true, ← hids id p' hphoto]
      exact hnot
  have hrefers : ∀ id, marked.Refers id
      ↔ ((db.markPhotosDeletedForOffers offerIds q true).purgeOffers p).photos.Refers id := by
    intro id
    constructor
    · rintro ⟨k, _, hk, hactive, hstorage⟩
      obtain ⟨photo, hphoto, rfl⟩ := map_eq_some_iff.mp ((hmarkedGet k).symm.trans hk)
      by_cases hmem : photo.offerId ∈ offerIds
      · rw [if_pos hmem] at hactive
        cases hactive
      · rw [if_neg hmem] at hactive hstorage
        exact ⟨k, photo, (hfinal k photo).mpr ⟨hphoto, hmem⟩, hactive, hstorage⟩
    · rintro ⟨k, photo, hk, hactive, hstorage⟩
      obtain ⟨hphoto, hmem⟩ := (hfinal k photo).mp hk
      exact ⟨k, photo, by rw [hmarkedGet, hphoto, map_some, if_neg hmem], hactive, hstorage⟩
  refine effect_of_dropped (db.photos.listStorageIdsForOfferIds offerIds true none ++
      db.photos.listStorageIdsForOfferIds offerIds true none) db.objects.now hunique (fun id => ?_)
    (fun id p' hp' => ?_) (fun id photo hphoto hk hid => ?_) (fun id p' hp' => ?_) rfl
  · rw [← dropped_congr (hrefers id)]
    exact get?_deleteLoop _
  · exact ⟨p', ((hfinal id p').mp hp').1, .inl rfl⟩
  · refine (hfinal id photo).mpr ⟨hphoto, fun hmem => hid (mem_append_left _ ?_)⟩
    exact Photos.mem_listStorageIds.mpr ⟨id, photo, hphoto, hmem, .inl rfl, fun _ h => (not_mem_none _ h).elim, rfl⟩
  · obtain ⟨hphoto, hmem⟩ := (hfinal id p').mp hp'
    rw [hids id p' hphoto] at hmem
    change ((db.offers.delete p).get? p'.offerId).map Offer.listingId = _
    rw [get?_delete]
    cases hoffer : db.offers.get? p'.offerId with
    | none => rfl
    | some =>
      rw [hoffer, any_some] at hmem
      rw [filter_some, if_pos (by simpa using hmem)]

end Dropping

/-! ### The operations that make photos active -/

section Restoring

variable {db db' : Media} {op : PhotoOp} {attached : List ℕ} {removedBy : ℕ → Option PhotoOp} {ids : List ℕ}

lemma effect_of_revived (ids : List ℕ) (hrows : ∀ id, db'.objects.rows.get? id
      = if id ∈ ids then (db.objects.rows.get? id).map revived else db.objects.rows.get? id)
    (hphoto : ∀ id p', db'.photos.get? id = some p' → ∃ p, db.photos.get? id = some p ∧
      (p'.agencyId = p.agencyId ∧ p'.offerId = p.offerId ∧ p'.storageId = p.storageId) ∧
      (p' = p ∨ p'.active = true ∧ ∃ r, db'.objects.rows.get? p.storageId = some r ∧ r.status = .ready))
    (hkept : ∀ id p, db.photos.get? id = some p → p.active = true → db'.photos.get? id = some p)
    (hcovered : ∀ id ∈ ids, ∀ r, db'.objects.rows.get? id = some r → r.status = .ready →
      r.purpose = offerPhotoPurpose → db'.photos.Refers id)
    (hoffer : ∀ id p', db'.photos.get? id = some p' →
      (db'.offers.get? p'.offerId).map Offer.listingId = (db.offers.get? p'.offerId).map Offer.listingId)
    (hseq : db'.photoSeq = db.photoSeq) (hunique : db'.photos.Unique) : op.Effect db db' where
  photo id p' hp' := by
    obtain ⟨p, hp, hsame, hcases⟩ := hphoto id p' hp'
    refine .inl ⟨p, hp, hsame, ?_⟩
    rcases hcases with heq | ⟨hactive, _⟩
    · exact .inl heq
    · exact .inr (.inl hactive)
  offer := hoffer
  seq := hseq.ge
  row id r hr := by
    have hold : db.photos.Refers id → db'.photos.Refers id := by
      rintro ⟨k, p, hp, hactive, hstorage⟩
      exact ⟨k, p, hkept k p hp hactive, hactive, hstorage⟩
    have hnew : ∀ r', db'.objects.rows.get? id = some r' → db'.photos.Refers id →
        db.photos.Refers id ∨ r'.status = .ready := by
      rintro _ hr' ⟨k, p', hp', hactive, rfl⟩
      obtain ⟨p, hp, ⟨_, _, hstorage⟩, rfl | ⟨_, _, hr₁, hready⟩⟩ := hphoto k p' hp'
      · exact .inl ⟨k, p', hp, hactive, rfl⟩
      · rw [hstorage, hr₁] at hr'
        exact .inr (some.inj hr' ▸ hready)
    by_cases hid : id ∈ ids
    · have hr' : db'.objects.rows.get? id = some (revived r) := by rw [hrows, if_pos hid, hr, map_some]
      have hkeeps : (revived r).agencyId = r.agencyId ∧ (revived r).purpose = r.purpose := by
        rw [revived]
        split <;> exact ⟨rfl, rfl⟩
      refine ⟨revived r, hr', hkeeps.1, fun hsettled => ?_⟩
      have hpurpose : (revived r).purpose = offerPhotoPurpose := hkeeps.2.trans hsettled.1
      rcases hsettled.revived with hready | ⟨heq, hnot, hpurged⟩
      · exact ⟨hpurpose, .inl ⟨hcovered id hid _ hr' hready hpurpose, hready⟩⟩
      · refine ⟨hpurpose, .inr ⟨fun hrefers => ?_, .inr (by rw [heq, hpurged])⟩⟩
        rcases hnew _ hr' hrefers with hrefers | hready
        · exact hnot hrefers
        · rw [heq, hpurged] at hready
          cases hready
    · have hr' : db'.objects.rows.get? id = some r := by rw [hrows, if_neg hid, hr]
      refine ⟨r, hr', rfl, fun hsettled => hsettled.congr ⟨fun hrefers => ?_, hold⟩⟩
      rcases hnew r hr' hrefers with hrefers | hready
      · exact hrefers
      · exact hsettled.ready_iff.mp hready
  unique := hunique

/-- The photos that a restore of offers makes active. -/
def Media.Resumed (offerIds : List ℕ) (q : Provenance) (objects : Objects) (p : OfferPhoto) : Prop :=
  p.offerId ∈ offerIds ∧ p.provenance = some q ∧ p.active = false ∧
    ∃ r, objects.rows.get? p.storageId = some r ∧ r.status = .ready ∧ r.purpose = offerPhotoPurpose ∧
      r.agencyId = p.agencyId

variable {offerIds : List ℕ} {q : Provenance}

lemma get?_restoreOfferPhotosForOffers {objects : Objects} {photos : Photos}
    {id : ℕ} {p' : OfferPhoto} :
    (photos.restoreOfferPhotosForOffers offerIds q objects).get? id = some p' ↔ ∃ p, photos.get? id = some p ∧
        ((Media.Resumed offerIds q objects p ∧ p' = { p with deletedAt := none, provenance := none }) ∨
          (¬ Media.Resumed offerIds q objects p ∧ p' = p)) := by
  have hcond : ∀ p : OfferPhoto, ((decide (p.offerId ∈ offerIds ∧ p.provenance = some q) && !p.active &&
      (objects.rows.get? p.storageId).any fun so =>
        decide (so.status = .ready ∧ so.purpose = offerPhotoPurpose ∧ so.agencyId = p.agencyId)) = true)
      ↔ Media.Resumed offerIds q objects p := by
    intro p
    simp only [Bool.and_eq_true, decide_eq_true_eq, Bool.not_eq_true', Option.any_eq_true, Media.Resumed, and_assoc]
  rw [Photos.restoreOfferPhotosForOffers, Keyed.get?_update, Option.map_eq_some_iff]
  refine exists_congr fun p => and_congr_right fun _ => ?_
  by_cases hresumed : Media.Resumed offerIds q objects p
  · rw [if_pos ((hcond p).mpr hresumed)]
    simp [hresumed, eq_comm]
  · rw [if_neg fun h => hresumed ((hcond p).mp h)]
    simp [hresumed, eq_comm]

/-- The database that a restore of photos hands to the unique index. -/
def Media.restoredPhotos (offerIds : List ℕ) (q : Provenance) (db : Media) : Media :=
  let objects := (sortedIds (db.photos.listStorageIdsForOfferIds offerIds true (some q))).foldl
    (fun objects id => restoreStorageIfDeleted (db.objects.getStorageObject id) objects id) db.objects
  { db with
    objects := objects
    photos := db.photos.restoreOfferPhotosForOffers offerIds q objects }

lemma restorePhotosForOffers_eq (offerIds : List ℕ) (q : Provenance) :
    db.restorePhotosForOffers offerIds q = (db.restoredPhotos offerIds q).indexed := rfl

variable (db) in
lemma rows_restoredPhotos (offerIds : List ℕ) (q : Provenance) (id : ℕ) :
    (db.restoredPhotos offerIds q).objects.rows.get? id
      = if id ∈ db.photos.listStorageIdsForOfferIds offerIds true (some q) then
          (db.objects.rows.get? id).map revived
        else db.objects.rows.get? id :=
  get?_restoreLoop _

lemma resumed_iff (offerIds : List ℕ) (q : Provenance) {id : ℕ} {p : OfferPhoto} (hrefs : db.Refs attached)
    (hp : db.photos.get? id = some p) :
    Media.Resumed offerIds q (db.restoredPhotos offerIds q).objects p ↔
      (p.offerId ∈ offerIds ∧ p.provenance = some q) ∧ p.active = false ∧
        ∃ r, db.objects.rows.get? p.storageId = some r ∧ r.status ≠ .purged := by
  rw [Media.Resumed, and_assoc]
  refine and_congr_right fun hoffer => and_congr_right fun hprovenance => and_congr_right fun _ => ?_
  have hid : p.storageId ∈ db.photos.listStorageIdsForOfferIds offerIds true (some q) := by
    refine Photos.mem_listStorageIds.mpr ⟨id, p, hp, hoffer, .inl rfl, fun q' hq' => ?_, rfl⟩
    rw [hprovenance, mem_some.mp hq']
  obtain ⟨hattached, _, _, r, hr, hagency⟩ := hrefs.photo id p hp
  obtain ⟨_, hr', hsettled⟩ := hrefs.row p.storageId hattached
  rw [hr] at hr'
  cases hr'
  have hkeeps : (revived r).agencyId = r.agencyId ∧ (revived r).purpose = r.purpose := by
    rw [revived]
    split <;> exact ⟨rfl, rfl⟩
  rw [rows_restoredPhotos db, if_pos hid, hr]
  simp only [map_some, Option.some.injEq, exists_eq_left']
  constructor
  · rintro ⟨hready, _, _⟩ hpurged
    rw [revived, if_neg (by simp [hpurged]), hpurged] at hready
    cases hready
  · intro hpurged
    rcases hsettled.revived with hready | ⟨_, _, hstatus⟩
    · exact ⟨hready, hkeeps.2.trans hsettled.1, hkeeps.1.trans hagency⟩
    · exact absurd hstatus hpurged

lemma effect_restorePhotos (hrefs : db.Refs attached) (p : ℕ → Offer → Bool) (t : Option ℕ)
    (h : (db.setOffersDeleted p t).restorePhotosForOffers offerIds q = some db') : op.Effect db db' := by
  rw [restorePhotosForOffers_eq] at h
  obtain ⟨rfl, hunique⟩ := objects_indexed h
  refine effect_of_revived _ (rows_restoredPhotos (db.setOffersDeleted p t) offerIds q) (fun id p' hp' => ?_)
    (fun id photo hphoto hactive => ?_)
    (fun id hid r hr hready hpurpose => ?_) (fun id p' _ => ?_) rfl hunique
  · obtain ⟨photo, hphoto, ⟨hresumed, rfl⟩ | ⟨_, rfl⟩⟩ := get?_restoreOfferPhotosForOffers.mp hp'
    · obtain ⟨_, _, _, r, hr, hready, _⟩ := hresumed
      exact ⟨photo, hphoto, ⟨rfl, rfl, rfl⟩, .inr ⟨rfl, r, hr, hready⟩⟩
    · exact ⟨p', hphoto, ⟨rfl, rfl, rfl⟩, .inl rfl⟩
  · refine get?_restoreOfferPhotosForOffers.mpr ⟨photo, hphoto, .inr ⟨fun hresumed => ?_, rfl⟩⟩
    rw [hresumed.2.2.1] at hactive
    cases hactive
  · obtain ⟨k, photo, hphoto, hoffer, _, hprovenance, rfl⟩ := Photos.mem_listStorageIds.mp hid
    by_cases hactive : photo.active = true
    · refine ⟨k, photo, get?_restoreOfferPhotosForOffers.mpr ⟨photo, hphoto, .inr ⟨fun hresumed => ?_, rfl⟩⟩,
        hactive, rfl⟩
      rw [hresumed.2.2.1] at hactive
      cases hactive
    · obtain ⟨_, _, _, r₀, hr₀, hagency⟩ := hrefs.photo k photo hphoto
      have hkeeps : r.agencyId = r₀.agencyId := by
        have hrows := rows_restoredPhotos (db.setOffersDeleted p t) offerIds q photo.storageId
        rw [if_pos hid, show (db.setOffersDeleted p t).objects.rows.get? photo.storageId = some r₀ from hr₀,
          map_some, hr] at hrows
        rw [some.inj hrows, revived]
        split <;> rfl
      refine ⟨k, _, get?_restoreOfferPhotosForOffers.mpr ⟨photo, hphoto, .inl ⟨?_, rfl⟩⟩, rfl, rfl⟩
      exact ⟨hoffer, hprovenance q rfl, by simpa using hactive, r, hr, hready, hpurpose, hkeeps.trans hagency⟩
  · exact listingId_setOffersDeleted db p t p'.offerId

end Restoring

/-! ### The operation that attaches a photo -/

section Attaching

variable {db db' : Media} {op : PhotoOp} {attached : List ℕ} {agencyId offerId storageId : ℕ} {position : ℤ}

lemma Photos.mem_idsOf {photos : Photos} {active : Bool} {id : ℕ} : id ∈ photos.idsOf offerId storageId active ↔
      ∃ p, photos.get? id = some p ∧ p.offerId = offerId ∧ p.storageId = storageId ∧ p.active = active := by
  rw [Photos.idsOf, List.mem_map]
  constructor
  · rintro ⟨⟨k, p⟩, hmem, rfl⟩
    obtain ⟨hmem, hcond⟩ := List.mem_filter.mp hmem
    simp only [and_eq_true, decide_eq_true_eq, beq_iff_eq] at hcond
    exact ⟨p, mem_entries_iff.mp hmem, hcond.1.1, hcond.1.2, hcond.2⟩
  · rintro ⟨p, hp, hoffer, hstorage, hactive⟩
    refine ⟨(id, p), List.mem_filter.mpr ⟨mem_entries_iff.mpr hp, ?_⟩, rfl⟩
    simp [hoffer, hstorage, hactive]

variable {row : StorageObject}

lemma effect_restoreDeletedOfferPhoto {id : ℕ} (hrow : db.objects.getStorageObject storageId = some row)
    (hdeleted : row.status = .deleted ∧ row.purpose = offerPhotoPurpose)
    (h : Media.restoreDeletedOfferPhotoForStorage offerId storageId position
      { db with objects := restoreStorageInTransaction storageId row.agencyId db.objects } = some (id, db')) :
    op.Effect db db' := by
  obtain ⟨k, hk, h⟩ := bind_eq_some_iff.mp h
  obtain ⟨_, hindexed, heq⟩ := map_eq_some_iff.mp h
  obtain ⟨rfl, hunique⟩ := objects_indexed hindexed
  cases heq
  obtain ⟨hmem, hcond⟩ := mem_filter.mp (max?_mem hk)
  obtain ⟨p, hp, _, hstorage, hinactive⟩ := Photos.mem_idsOf.mp hmem
  have hready : ∃ so, (restoreStorageInTransaction storageId row.agencyId db.objects).rows.get? storageId = some so
      ∧ so.status = .ready := by
    rw [and_eq_true, Option.any_eq_true] at hcond
    obtain ⟨p', _, hany⟩ := hcond.2
    obtain ⟨so, hso, hfits⟩ := (any_eq_true _ _).mp hany
    exact ⟨so, hso, (of_decide_eq_true hfits).1⟩
  have hnew : ∀ k', ((db.photos.updateKey id fun p =>
      { p with deletedAt := none, provenance := none, position := position }) : Photos).get? k'
      = if k' = id then some { p with deletedAt := none, provenance := none, position := position }
        else db.photos.get? k' := by
    intro k'
    rw [get?_updateKey]
    by_cases heq : k' = id
    · subst heq
      rw [if_pos rfl, if_pos rfl, show db.photos.get? k' = some p from hp, map_some]
    · rw [if_neg heq, if_neg heq]
  have hloop : restoreStorageInTransaction storageId row.agencyId db.objects
      = (sortedIds [storageId]).foldl (fun o id =>
        restoreStorageIfDeleted (db.objects.getStorageObject id) o id) db.objects := by
    change _ = restoreStorageIfDeleted (db.objects.getStorageObject storageId) db.objects storageId
    rw [hrow, restoreStorageIfDeleted, if_pos hdeleted]
  refine effect_of_revived [storageId] (fun k' => ?_) (fun k' p' hp' => ?_) (fun k' p' hp' hactive => ?_)
    (fun k' hk' r _ _ _ => ?_) (fun _ _ _ => rfl) rfl hunique
  · change (restoreStorageInTransaction storageId row.agencyId db.objects).rows.get? k' = _
    rw [hloop]
    exact get?_restoreLoop _
  · rw [hnew] at hp'
    by_cases heq : k' = id
    · subst heq
      rw [if_pos rfl] at hp'
      cases hp'
      exact ⟨p, hp, ⟨rfl, rfl, rfl⟩, .inr ⟨rfl, hstorage ▸ hready⟩⟩
    · rw [if_neg heq] at hp'
      exact ⟨p', hp', ⟨rfl, rfl, rfl⟩, .inl rfl⟩
  · have hne : k' ≠ id := by
      rintro rfl
      rw [show db.photos.get? k' = some p from hp] at hp'
      cases hp'
      rw [hinactive] at hactive
      cases hactive
    rw [hnew, if_neg hne]
    exact hp'
  · rw [mem_singleton.mp hk']
    exact ⟨id, _, (hnew id).trans (if_pos rfl), rfl, hstorage⟩

lemma effect_createOfferPhoto {id : ℕ} {created : Bool} (hrefs : db.Refs attached)
    (hrow : db.objects.getStorageObject storageId = some row) (hready : row.status = .ready)
    (hpurpose : row.purpose = offerPhotoPurpose)
    (hagency : ∀ o, db.lockActiveOffer offerId = some o → row.agencyId = o.agencyId)
    (h : db.createOfferPhoto offerId storageId position = some (id, created, db')) : op.Effect db db' := by
  obtain ⟨offer, hoffer, h⟩ := map_eq_some_iff.mp h
  split at h
  · cases h
    exact effect_self hrefs.unique
  · next hnone =>
    cases h
    have hfresh : db.photos.get? db.photoSeq = none := by
      cases hget : db.photos.get? db.photoSeq with
      | none => rfl
      | some p => exact absurd (hrefs.photo _ p hget).2.1 (lt_irrefl _)
    have hget : ∀ k, k ≠ db.photoSeq → (db.photos.set db.photoSeq
        ⟨offer.agencyId, offerId, storageId, position, none, none⟩).get? k = db.photos.get? k := by
      intro k hne
      rw [get?_set, if_neg hne]
    have hself : (db.photos.set db.photoSeq
        ⟨offer.agencyId, offerId, storageId, position, none, none⟩).get? db.photoSeq
        = some ⟨offer.agencyId, offerId, storageId, position, none, none⟩ := by
      rw [get?_set, if_pos rfl]
    have hne : ∀ k p, db.photos.get? k = some p → k ≠ db.photoSeq := by
      rintro k p hp rfl
      rw [hfresh] at hp
      cases hp
    have hrefers : Photos.Refers (db.photos.set db.photoSeq
        ⟨offer.agencyId, offerId, storageId, position, none, none⟩) storageId :=
      ⟨db.photoSeq, _, hself, rfl, rfl⟩
    refine ⟨fun k p' hp' => ?_, fun _ _ _ => rfl, Nat.le_succ _, fun k r hr => ⟨r, hr, rfl, fun hsettled => ?_⟩, ?_⟩
    · by_cases heq : k = db.photoSeq
      · subst heq
        rw [hself] at hp'
        cases hp'
        refine .inr ⟨Nat.lt_succ_self _, rfl, ⟨offer, (filter_eq_some_iff.mp hoffer).1⟩, row, hrow,
          hagency offer hoffer, hpurpose, .inl ⟨hrefers, hready⟩⟩
      · rw [hget k heq] at hp'
        exact .inl ⟨p', hp', ⟨rfl, rfl, rfl⟩, .inl rfl⟩
    · by_cases heq : k = storageId
      · subst heq
        rw [Objects.getStorageObject, hr] at hrow
        cases hrow
        exact ⟨hpurpose, .inl ⟨hrefers, hready⟩⟩
      · refine hsettled.congr ⟨?_, ?_⟩
        · rintro ⟨k', p', hp', hactive, hstorage⟩
          have hk' : k' ≠ db.photoSeq := by
            rintro rfl
            rw [hself] at hp'
            cases hp'
            exact heq hstorage.symm
          exact ⟨k', p', (hget k' hk').symm.trans hp', hactive, hstorage⟩
        · rintro ⟨k', p, hp, hactive, hstorage⟩
          exact ⟨k', p, (hget k' (hne k' p hp)).trans hp, hactive, hstorage⟩
    · have hnew : ∀ k p, db.photos.get? k = some p → p.active = true → p.offerId = offerId →
          p.storageId ≠ storageId := by
        intro k p hp hactive hsame hstorage
        have hmem : k ∈ db.photos.idsOf offerId storageId true :=
          Photos.mem_idsOf.mpr ⟨p, hp, hsame, hstorage, hactive⟩
        rw [min?_eq_none_iff.mp hnone] at hmem
        cases hmem
      have hunique := Photos.unique_iff.mp hrefs.unique
      refine Photos.unique_iff.mpr fun k k' p p' hp hp' hactive hactive' hsame hstorage => ?_
      by_cases heq : k = db.photoSeq
      · by_cases heq' : k' = db.photoSeq
        · rw [heq, heq']
        · subst heq
          rw [hself] at hp
          cases hp
          rw [hget k' heq'] at hp'
          exact absurd hstorage.symm (hnew k' p' hp' hactive' hsame.symm)
      · rw [hget k heq] at hp
        by_cases heq' : k' = db.photoSeq
        · subst heq'
          rw [hself] at hp'
          cases hp'
          exact absurd hstorage (hnew k p hp hactive hsame)
        · rw [hget k' heq'] at hp'
          exact hunique k k' p p' hp hp' hactive hactive' hsame hstorage

lemma effect_addOfferPhoto {result : OfferPhotoAttachResult} (hrefs : db.Refs attached)
    (h : db.addOfferPhoto agencyId offerId storageId position = some (result, db')) : op.Effect db db' := by
  rw [Media.addOfferPhoto] at h
  split at h
  · next row offer hrow hoffer =>
    split at h
    · cases h
    next hfits =>
    obtain ⟨hpurpose, hagency, hagency'⟩ : row.purpose = offerPhotoPurpose ∧ row.agencyId = agencyId ∧
        offer.agencyId = agencyId := by
      simpa only [ne_eq, not_or, not_not] using hfits
    split at h
    · cases h
      exact effect_self hrefs.unique
    split at h
    · next hdeleted =>
      obtain ⟨_, _, h⟩ := bind_eq_some_iff.mp h
      obtain ⟨⟨_, _⟩, hrestored, heq⟩ := map_eq_some_iff.mp h
      cases heq
      exact effect_restoreDeletedOfferPhoto hrow ⟨hdeleted, hpurpose⟩ hrestored
    split at h
    · cases h
    · next hready =>
      obtain ⟨⟨_, _, _⟩, hcreated, heq⟩ := map_eq_some_iff.mp h
      cases heq
      refine effect_createOfferPhoto hrefs hrow (not_not.mp hready) hpurpose (fun o ho => ?_) hcreated
      rw [hoffer] at ho
      cases ho
      rw [hagency, hagency']
  · cases h

end Attaching

/-! ### Every operation -/

section Exec

variable {db db' : Media} {op : PhotoOp} {attached : List ℕ}

lemma mem_getOfferIdsForListing {listingId offerId : ℕ} {includeDeleted : Bool} :
    offerId ∈ db.getOfferIdsForListing listingId includeDeleted ↔
      ∃ o, db.offers.get? offerId = some o ∧ o.listingId = listingId ∧
        (includeDeleted = true ∨ o.deletedAt = none) := by
  rw [Media.getOfferIdsForListing, List.mem_map]
  constructor
  · rintro ⟨⟨k, o⟩, hmem, rfl⟩
    obtain ⟨hmem, hcond⟩ := List.mem_filter.mp hmem
    simp only [and_eq_true, decide_eq_true_eq, or_eq_true, Option.isNone_iff_eq_none] at hcond
    exact ⟨o, mem_entries_iff.mp hmem, hcond⟩
  · rintro ⟨o, ho, hlisting, hdeleted⟩
    refine ⟨(offerId, o), List.mem_filter.mpr ⟨mem_entries_iff.mpr ho, ?_⟩, rfl⟩
    simpa [hlisting] using hdeleted

/-- What every operation does to the rows. -/
theorem PhotoOp.exec_effect (hrefs : db.Refs attached) (hexec : op.exec db = some db') : op.Effect db db' := by
  cases op with
  | add =>
    obtain ⟨⟨_, _⟩, hadd, rfl⟩ := map_eq_some_iff.mp hexec
    exact effect_addOfferPhoto hrefs hadd
  | delete photoId =>
    cases hexec
    exact effect_deleteOfferPhoto hrefs.unique photoId
  | deleteOffer =>
    cases hexec
    refine effect_markPhotosDeleted hrefs.unique (fun _ => rfl) (fun k hk => ?_) _ _
    exact mem_singleton.mp hk
  | restoreOffer => exact effect_restorePhotos hrefs _ _ hexec
  | purgeOffer =>
    cases hexec
    refine effect_purge hrefs.unique fun id p hp => ?_
    obtain ⟨_, _, ⟨o, ho⟩, _⟩ := hrefs.photo id p hp
    rw [ho, mem_singleton, any_some, beq_iff_eq]
  | deleteListing =>
    cases hexec
    refine effect_markPhotosDeleted hrefs.unique (fun _ => rfl) (fun k hk => ?_) _ _
    obtain ⟨o, ho, hlisting, _⟩ := mem_getOfferIdsForListing.mp hk
    rw [Provenance.Names, ho, map_some, hlisting]
  | restoreListing => exact effect_restorePhotos hrefs _ _ hexec
  | purgeListing =>
    cases hexec
    refine effect_purge hrefs.unique fun id p hp => ?_
    obtain ⟨_, _, ⟨o, ho⟩, _⟩ := hrefs.photo id p hp
    rw [mem_getOfferIdsForListing, ho]
    simp

end Exec

/-! ### Runs -/

/-- The photos with what is remembered of their history. -/
structure LifecycleDesk where
  media : Media
  attached : List ℕ
  /-- The operation that made a photo inactive last. -/
  removedBy : ℕ → Option PhotoOp

inductive LifecycleAction where
  | photo (op : PhotoOp)
  | purgeStorage (id : ℕ)
  | advance (seconds : ℕ)

def PhotoOp.matching : PhotoOp → Option PhotoOp
  | restoreOffer offerId => some (.deleteOffer offerId)
  | restoreListing listingId => some (.deleteListing listingId)
  | _ => none

namespace LifecycleDesk

def start (objects : Objects) (offers : Keyed ℕ Offer) (photoSeq : ℕ) : LifecycleDesk :=
  ⟨⟨objects, offers, Keyed.empty, photoSeq⟩, [], fun _ => none⟩

def perform (op : PhotoOp) (d : LifecycleDesk) : LifecycleDesk :=
  match op.exec d.media with
  | none => d
  | some media =>
    ⟨media, d.attached ++ media.photos.storageIds, removals op d.media.photos media.photos d.removedBy⟩

def step (d : LifecycleDesk) : LifecycleAction → Option LifecycleDesk
  | .photo op => some (d.perform op)
  | .purgeStorage id =>
    if (d.media.objects.getStorageObject id).any fun r => r.status == .deleted then
      some { d with media := { d.media with objects := d.media.objects.markStoragePurged id } }
    else none
  | .advance seconds =>
    some { d with media := { d.media with
      objects := { d.media.objects with now := d.media.objects.now + seconds } } }

/-- The photo was made inactive by the operation, and its storage object has not been purged. -/
def due (del : PhotoOp) (d : LifecycleDesk) (id : ℕ) : Bool :=
  (d.media.photos.get? id).any fun p => !p.active && decide (d.removedBy id = some del) &&
    (d.media.objects.rows.get? p.storageId).any fun r => decide (r.status ≠ .purged)

/-- The restore makes active the photos that are due, and no others. -/
def RestoresExactly (op del : PhotoOp) (d : LifecycleDesk) : Prop :=
  ∀ id, (d.perform op).media.photos.activeAt id = true ↔ d.media.photos.activeAt id = true ∨ d.due del id = true

/-- No two photos of one offer and one storage object are active or due. -/
def Apart (del : PhotoOp) (d : LifecycleDesk) : Prop :=
  ∀ e ∈ d.media.photos.entries, ∀ e' ∈ d.media.photos.entries,
    (e.2.active || d.due del e.1) = true → (e'.2.active || d.due del e'.1) = true →
      e.2.offerId = e'.2.offerId → e.2.storageId = e'.2.storageId → e.1 = e'.1

instance (del : PhotoOp) (d : LifecycleDesk) : Decidable (d.Apart del) := by
  unfold Apart
  infer_instance

def Sound (d : LifecycleDesk) : Prop := d.media.Refs d.attached ∧ d.media.Explained d.removedBy

variable {d d' : LifecycleDesk} {op del : PhotoOp} {action : LifecycleAction}

lemma Sound.perform (h : d.Sound) (op : PhotoOp) : (d.perform op).Sound := by
  unfold LifecycleDesk.perform
  split
  · exact h
  · next media hexec =>
    have heffect := PhotoOp.exec_effect h.1 hexec
    exact ⟨heffect.refs h.1, heffect.explained h.2⟩

lemma Sound.step (h : d.Sound) (hstep : LifecycleDesk.step d action = some d') : d'.Sound := by
  cases action with
  | photo op =>
    cases hstep
    exact h.perform op
  | purgeStorage id =>
    rw [LifecycleDesk.step] at hstep
    split at hstep
    · next hdeleted =>
      cases hstep
      obtain ⟨r, hr, hstatus⟩ := (any_eq_true _ _).mp hdeleted
      have hstatus : r.status = .deleted := by simpa using hstatus
      have hget : ∀ k r', d.media.objects.rows.get? k = some r' → ∃ r'',
          (d.media.objects.markStoragePurged id).rows.get? k = some r'' ∧ r''.agencyId = r'.agencyId ∧
            (r'.Settled d.media.photos k → r''.Settled d.media.photos k) := by
        intro k r' hr'
        by_cases heq : k = id
        · subst heq
          rw [Objects.getStorageObject, hr'] at hr
          cases hr
          refine ⟨{ r with status := .purged }, ?_, rfl, fun hsettled => ?_⟩
          · exact (get?_updateKey_self _).trans (by rw [hr', map_some])
          · have hnot : ¬ d.media.photos.Refers k := by
              rw [← hsettled.ready_iff, hstatus]
              decide
            exact ⟨hsettled.1, .inr ⟨hnot, .inr rfl⟩⟩
        · exact ⟨r', (get?_updateKey_of_ne heq _).trans hr', rfl, fun hsettled => hsettled⟩
      refine ⟨⟨fun k p hp => ?_, fun k hk => ?_, h.1.unique⟩, h.2⟩
      · obtain ⟨hattached, hseq, hoffer, r', hr', hagency⟩ := h.1.photo k p hp
        obtain ⟨r'', hr'', hsame, _⟩ := hget p.storageId r' hr'
        exact ⟨hattached, hseq, hoffer, r'', hr'', hsame.trans hagency⟩
      · obtain ⟨r', hr', hsettled⟩ := h.1.row k hk
        obtain ⟨r'', hr'', _, hkeep⟩ := hget k r' hr'
        exact ⟨r'', hr'', hkeep hsettled⟩
    · cases hstep
  | advance =>
    cases hstep
    exact ⟨⟨h.1.photo, h.1.row, h.1.unique⟩, h.2⟩

lemma sound_start (objects : Objects) (offers : Keyed ℕ Offer) (photoSeq : ℕ) :
    (start objects offers photoSeq).Sound := by
  refine ⟨⟨fun id p hp => ?_, fun id hid => ?_, nodup_nil⟩, fun id p hp => ?_⟩
  · cases hp
  · cases hid
  · cases hp

/-! ### What a restore makes active -/

variable {q : Provenance} {offerIds : List ℕ}

lemma cause_injective {id : ℕ} {q' : Provenance} (h : q.cause id = q'.cause id) : q = q' := by
  cases q <;> cases q' <;> simp_all [Provenance.cause]

lemma refs_setOffersDeleted {attached : List ℕ} {db : Media} (h : db.Refs attached) (p : ℕ → Offer → Bool)
    (t : Option ℕ) : (db.setOffersDeleted p t).Refs attached where
  photo id photo hphoto := by
    obtain ⟨hattached, hseq, ⟨o, ho⟩, hrow⟩ := h.photo id photo hphoto
    have hlisting := listingId_setOffersDeleted db p t photo.offerId
    rw [ho, map_some] at hlisting
    obtain ⟨o', ho', _⟩ := map_eq_some_iff.mp hlisting
    exact ⟨hattached, hseq, ⟨o', ho'⟩, hrow⟩
  row := h.row
  unique := h.unique

lemma activeAt_restoredPhotos (h : d.Sound) (p : ℕ → Offer → Bool) (t : Option ℕ) (hcause : ∀ id, q.cause id = del)
    (hids : ∀ offerId o, d.media.offers.get? offerId = some o → q.Names d.media.offers offerId →
      offerId ∈ offerIds) (id : ℕ) :
    ((d.media.setOffersDeleted p t).restoredPhotos offerIds q).photos.activeAt id = true ↔
      d.media.photos.activeAt id = true ∨ d.due del id = true := by
  have hrefs := refs_setOffersDeleted h.1 p t
  cases hget : d.media.photos.get? id with
  | none =>
    have hnone : ((d.media.setOffersDeleted p t).restoredPhotos offerIds q).photos.get? id = none := by
      refine Option.eq_none_iff_forall_ne_some.mpr fun p' hp' => ?_
      obtain ⟨photo, hphoto, _⟩ := get?_restoreOfferPhotosForOffers.mp hp'
      rw [show d.media.photos.get? id = some photo from hphoto] at hget
      cases hget
    simp [Photos.activeAt, due, hget, hnone]
  | some photo =>
    -- what the restore asks of the photo is that the matching delete made it inactive
    have hremoved : photo.active = false →
        ((photo.offerId ∈ offerIds ∧ photo.provenance = some q) ↔ d.removedBy id = some del) := by
      intro hinactive
      obtain ⟨_, hq', hremoved, hname⟩ := h.2 id photo hget hinactive
      obtain ⟨_, _, ⟨o, ho⟩, _⟩ := h.1.photo id photo hget
      rw [hq', hremoved, Option.some.injEq, Option.some.injEq]
      constructor
      · rintro ⟨_, rfl⟩
        exact hcause id
      · intro heq
        obtain rfl := cause_injective (heq.trans (hcause id).symm)
        exact ⟨hids photo.offerId o ho hname, rfl⟩
    have hresumed := resumed_iff offerIds q hrefs hget
    have hafter : ((d.media.setOffersDeleted p t).restoredPhotos offerIds q).photos.activeAt id = true ↔
        photo.active = true ∨ Media.Resumed offerIds q
          ((d.media.setOffersDeleted p t).restoredPhotos offerIds q).objects photo := by
      rw [Photos.activeAt_iff]
      constructor
      · rintro ⟨_, hp', hactive⟩
        obtain ⟨photo', hphoto', hcases⟩ := get?_restoreOfferPhotosForOffers.mp hp'
        rw [show d.media.photos.get? id = some photo' from hphoto'] at hget
        cases hget
        rcases hcases with ⟨hresumed, _⟩ | ⟨_, rfl⟩
        · exact .inr hresumed
        · exact .inl hactive
      · intro hcases
        by_cases hresumed : Media.Resumed offerIds q
            ((d.media.setOffersDeleted p t).restoredPhotos offerIds q).objects photo
        · exact ⟨_, get?_restoreOfferPhotosForOffers.mpr ⟨photo, hget, .inl ⟨hresumed, rfl⟩⟩, rfl⟩
        · exact ⟨photo, get?_restoreOfferPhotosForOffers.mpr ⟨photo, hget, .inr ⟨hresumed, rfl⟩⟩,
            hcases.resolve_right hresumed⟩
    rw [hafter, hresumed]
    have hbefore : d.media.photos.activeAt id = photo.active := by
      rw [Photos.activeAt, hget]
      rfl
    have hdue : d.due del id = true ↔ photo.active = false ∧ d.removedBy id = some del ∧
        ∃ r, d.media.objects.rows.get? photo.storageId = some r ∧ r.status ≠ .purged := by
      rw [due, hget, Option.any_some]
      simp only [Bool.and_eq_true, Bool.not_eq_true', decide_eq_true_eq, Option.any_eq_true, and_assoc]
    rw [hbefore, hdue]
    refine or_congr_right ?_
    constructor
    · rintro ⟨hoffer, hinactive, hrow⟩
      exact ⟨hinactive, (hremoved hinactive).mp hoffer, hrow⟩
    · rintro ⟨hinactive, hby, hrow⟩
      exact ⟨(hremoved hinactive).mpr hby, hinactive, hrow⟩

lemma unique_iff_apart {photos : Photos}
    (hsame : ∀ id p', photos.get? id = some p' → ∃ p, d.media.photos.get? id = some p ∧
      p'.offerId = p.offerId ∧ p'.storageId = p.storageId)
    (hactive : ∀ id, photos.activeAt id = true ↔ d.media.photos.activeAt id = true ∨ d.due del id = true) :
    photos.Unique ↔ d.Apart del := by
  have hentry : ∀ e ∈ d.media.photos.entries, (e.2.active || d.due del e.1) = true ↔
      ∃ p', photos.get? e.1 = some p' ∧ p'.active = true ∧ p'.offerId = e.2.offerId ∧
        p'.storageId = e.2.storageId := by
    intro e he
    have hget := mem_entries_iff.mp he
    have hbefore : d.media.photos.activeAt e.1 = e.2.active := by
      rw [Photos.activeAt, hget]
      rfl
    rw [or_eq_true, ← hbefore, ← hactive, Photos.activeAt_iff]
    refine exists_congr fun p' => ⟨?_, fun hp' => ⟨hp'.1, hp'.2.1⟩⟩
    rintro ⟨hp', hk⟩
    obtain ⟨p, hp, hoffer, hstorage⟩ := hsame e.1 p' hp'
    rw [hget] at hp
    cases hp
    exact ⟨hp', hk, hoffer, hstorage⟩
  rw [Photos.unique_iff]
  constructor
  · intro hunique e he e' he' hk hk' hoffer hstorage
    obtain ⟨p, hp, hpActive, hpOffer, hpStorage⟩ := (hentry e he).mp hk
    obtain ⟨p', hp', hpActive', hpOffer', hpStorage'⟩ := (hentry e' he').mp hk'
    exact hunique e.1 e'.1 p p' hp hp' hpActive hpActive' (by rw [hpOffer, hpOffer', hoffer])
      (by rw [hpStorage, hpStorage', hstorage])
  · intro hapart id id' p p' hp hp' hk hk' hoffer hstorage
    obtain ⟨p₀, hp₀, hoffer₀, hstorage₀⟩ := hsame id p hp
    obtain ⟨p₁, hp₁, hoffer₁, hstorage₁⟩ := hsame id' p' hp'
    have hmem := mem_entries_iff.mpr hp₀
    have hmem' := mem_entries_iff.mpr hp₁
    exact hapart (id, p₀) hmem (id', p₁) hmem' ((hentry _ hmem).mpr ⟨p, hp, hk, hoffer₀, hstorage₀⟩)
      ((hentry _ hmem').mpr ⟨p', hp', hk', hoffer₁, hstorage₁⟩) (by rw [← hoffer₀, ← hoffer₁, hoffer])
      (by rw [← hstorage₀, ← hstorage₁, hstorage])

lemma restoresExactly_iff (h : d.Sound) (p : ℕ → Offer → Bool) (t : Option ℕ) (hcause : ∀ id, q.cause id = del)
    (hids : ∀ offerId o, d.media.offers.get? offerId = some o → q.Names d.media.offers offerId → offerId ∈ offerIds)
    (hexec : op.exec d.media = (d.media.setOffersDeleted p t).restorePhotosForOffers offerIds q) :
    d.RestoresExactly op del ↔ d.Apart del := by
  set restored := (d.media.setOffersDeleted p t).restoredPhotos offerIds q with hrestored
  have hactive : ∀ id, restored.photos.activeAt id = true ↔
      d.media.photos.activeAt id = true ∨ d.due del id = true := activeAt_restoredPhotos h p t hcause hids
  have hsame : ∀ id p', restored.photos.get? id = some p' → ∃ p, d.media.photos.get? id = some p ∧
      p'.offerId = p.offerId ∧ p'.storageId = p.storageId := by
    intro id p' hp'
    obtain ⟨photo, hphoto, ⟨_, rfl⟩ | ⟨_, rfl⟩⟩ := get?_restoreOfferPhotosForOffers.mp hp'
    · exact ⟨photo, hphoto, rfl, rfl⟩
    · exact ⟨p', hphoto, rfl, rfl⟩
  have hapart := unique_iff_apart hsame hactive
  rw [restorePhotosForOffers_eq, ← hrestored, Media.indexed] at hexec
  by_cases hunique : restored.photos.Unique
  · rw [if_pos hunique] at hexec
    refine iff_of_true (fun id => ?_) (hapart.mp hunique)
    rw [perform, hexec]
    exact hactive id
  · rw [if_neg hunique] at hexec
    refine iff_of_false (fun hexact => hunique ?_) fun hapart' => hunique (hapart.mpr hapart')
    -- nothing was restored, so nothing was due and the index was not violated
    have hnothing : ∀ id, d.media.photos.activeAt id = true ↔
        d.media.photos.activeAt id = true ∨ d.due del id = true := by
      intro id
      have hid := hexact id
      rwa [perform, hexec] at hid
    exact hapart.mpr ((unique_iff_apart (fun id p' hp' => ⟨p', hp', rfl, rfl⟩) hnothing).mp h.1.unique)

lemma restoresExactly_iff_apart (h : d.Sound) (hop : op.matching = some del) :
    d.RestoresExactly op del ↔ d.Apart del := by
  cases op with
  | restoreOffer offerId =>
    cases hop
    exact restoresExactly_iff (q := .offerDeleted offerId) h _ _ (fun _ => rfl)
      (fun _ _ _ hname => mem_singleton.mpr hname) rfl
  | restoreListing listingId =>
    cases hop
    refine restoresExactly_iff (q := .listingDeleted listingId) h _ _ (fun _ => rfl) (fun offerId o ho hname => ?_)
      rfl
    rw [getOfferIdsForListing_restored]
    rw [Provenance.Names, ho, map_some, Option.some.injEq] at hname
    exact mem_getOfferIdsForListing.mpr ⟨o, ho, hname, .inl rfl⟩
  | add => cases hop
  | delete => cases hop
  | deleteOffer => cases hop
  | purgeOffer => cases hop
  | deleteListing => cases hop
  | purgeListing => cases hop

/-- After every run: an active photo refers to a ready object, an object that had photos and has no active one
left is not ready, no two active photos of an offer share their object, and a restore makes active exactly the
photos that the matching delete made inactive and whose object was not purged if and only if no two photos
of one offer and one object would be active then. -/
theorem photo_lifecycle {objects : Objects} {offers : Keyed ℕ Offer} {photoSeq : ℕ}
    {actions : List LifecycleAction} (hrun : run step (start objects offers photoSeq) actions = some d) :
    (∀ id p, d.media.photos.get? id = some p → p.active = true →
      ∃ r, d.media.objects.rows.get? p.storageId = some r ∧ r.status = .ready) ∧
    (∀ id ∈ d.attached, ∀ r, d.media.objects.rows.get? id = some r → r.purpose = offerPhotoPurpose →
      d.media.photos.countActiveStorageRefs id = 0 → r.status ≠ .ready) ∧
    (∀ id id' p p', d.media.photos.get? id = some p → d.media.photos.get? id' = some p' → p.active = true →
      p'.active = true → p.offerId = p'.offerId → p.storageId = p'.storageId → id = id') ∧
    ∀ op del, op.matching = some del → (d.RestoresExactly op del ↔ d.Apart del) := by
  have hsound : d.Sound :=
    run_invariant_of_step (fun _ _ _ h hstep => h.step hstep) (sound_start objects offers photoSeq) hrun
  refine ⟨fun id p hp hactive => ?_, fun id hid r hr _ hcount hready => ?_, Photos.unique_iff.mp hsound.1.unique,
    fun op del hop => restoresExactly_iff_apart hsound hop⟩
  · obtain ⟨r, hr, hsettled⟩ := hsound.1.row p.storageId (hsound.1.photo id p hp).1
    exact ⟨r, hr, hsettled.ready_iff.mpr ⟨id, p, hp, hactive, rfl⟩⟩
  · obtain ⟨_, hr', hsettled⟩ := hsound.1.row id hid
    rw [hr] at hr'
    cases hr'
    exact Photos.countActiveStorageRefs_eq_zero_iff.mp hcount (hsettled.ready_iff.mp hready)

/-- One ready photo and two offers of two listings. -/
def sampleDesk : LifecycleDesk :=
  start ⟨Keyed.empty.set 0 ⟨1, 1, offerPhotoPurpose, 5, .ready, 0, none⟩, Keyed.empty, 0⟩
    ((Keyed.empty.set 1 ⟨1, 1, none⟩).set 2 ⟨1, 2, none⟩) 0

/-- The listing is deleted and restored again. -/
theorem photo_lifecycle_restored : ∃ d, run step sampleDesk
      [.photo (.add 1 1 0 0), .photo (.deleteListing 1), .advance 60] = some d ∧
    d.due (.deleteListing 1) 0 = true ∧ d.RestoresExactly (.restoreListing 1) (.deleteListing 1) := by
  obtain ⟨d, hrun, hd⟩ := map_eq_some_iff.mp (by decide +kernel :
    (run step sampleDesk [.photo (.add 1 1 0 0), .photo (.deleteListing 1), .advance 60]).map
      (fun d => (d.due (.deleteListing 1) 0, decide (d.Apart (.deleteListing 1)))) = some (true, true))
  obtain ⟨hdue, hapart⟩ := Prod.mk.inj hd
  exact ⟨d, hrun, hdue, ((photo_lifecycle hrun).2.2.2 _ _ rfl).mpr (of_decide_eq_true hapart)⟩

/-- A photo of a listing that was deleted is attached anew while its object is used by another offer: the
listing cannot be restored any more. -/
theorem listing_not_restored : ∃ d, run step sampleDesk
      [.photo (.add 1 1 0 0), .photo (.add 1 2 0 0), .photo (.deleteListing 1), .photo (.restoreOffer 1),
        .photo (.add 1 1 0 0)] = some d ∧
    (PhotoOp.restoreListing 1).exec d.media = none ∧
    ¬ d.RestoresExactly (.restoreListing 1) (.deleteListing 1) := by
  obtain ⟨d, hrun, hd⟩ := map_eq_some_iff.mp (by decide +kernel :
    (run step sampleDesk [.photo (.add 1 1 0 0), .photo (.add 1 2 0 0), .photo (.deleteListing 1),
        .photo (.restoreOffer 1), .photo (.add 1 1 0 0)]).map
      (fun d => (((PhotoOp.restoreListing 1).exec d.media).isNone, d.media.photos.activeAt 0,
        d.due (.deleteListing 1) 0)) = some (true, false, true))
  obtain ⟨hnone, hd⟩ := Prod.mk.inj hd
  obtain ⟨hinactive, hdue⟩ := Prod.mk.inj hd
  have hexec : (PhotoOp.restoreListing 1).exec d.media = none := isNone_iff_eq_none.mp hnone
  refine ⟨d, hrun, hexec, fun hexact => ?_⟩
  have hactive := (hexact 0).mpr (.inr hdue)
  rw [perform, hexec, hinactive] at hactive
  cases hactive

end LifecycleDesk

end ImmoApp.Storage
