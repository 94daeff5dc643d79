import ImmoApp.Offline.Uploads

/-!
# Uploads whose record will never exist

The upload of a photo waits for the offer's creation when the offer has no server id.  It is orphaned when the creation
is not queued any more: the loop over the uploads passes it over each time.

`no_orphans_along_iff`: in a run there is no orphan exactly when no call drops a creation that an upload waits for and
every photo of an offer without a server id finds the offer's creation queued.
-/

namespace ImmoApp.Offline

open OfflineOperation List Option

/-! ### The system -/

/-- What can happen to the client and its uploads. -/
inductive MediaAction where
  | client (a : Action)
  | enqueueMedia (kind : MediaKind) (filename : String) (fileSha256 : Option String) (queueId : String) (now : ℕ)
  | enqueueOfferPhotoUpload (offerId : ℤ) (filename : String) (fileSha256 : Option String) (position : ℤ)
      (queueId : String) (now : ℕ)
  | retryMediaUpload (queueId : String) (now : ℕ)
  | discardMediaUpload (queueId : String)
  | flushPendingMediaUploads (limit : ℤ) (attempts : String → UploadAttempt) (now : ℕ)

def MediaClient.uploadsAfter (s : MediaClient) : Action → List MediaUpload
  | .finish now =>
    match s.client.phase with
    | .received op _ response _ =>
      match arrivedId op response with
      | some serverId => (rewriteMediaParentRefs op.entityType op.localId serverId now s.uploads).2
      | none => s.uploads
    | _ => s.uploads
  | _ => s.uploads

def MediaClient.step (accountKey : String) (s : MediaClient) : MediaAction → Option MediaClient
  | .client a => (s.client.step accountKey a).map fun t => ⟨t, s.uploadsAfter a⟩
  | .enqueueMedia kind filename fileSha256 queueId now =>
    (Offline.enqueueMedia kind filename fileSha256 none none 0 none queueId now s.uploads).map
      fun r => { s with uploads := r.2 }
  | .enqueueOfferPhotoUpload offerId filename fileSha256 position queueId now =>
    (Offline.enqueueOfferPhotoUpload offerId filename fileSha256 position queueId now s.uploads).map
      fun r => { s with uploads := r.2 }
  | .retryMediaUpload queueId now =>
    some ({ s with uploads := Offline.retryMediaUpload queueId now s.uploads }.perform
      (removeConflict ("media:" ++ queueId)))
  | .discardMediaUpload queueId =>
    some ({ s with uploads := Offline.discardMediaUpload queueId s.uploads }.perform
      (removeConflict ("media:" ++ queueId)))
  | .flushPendingMediaUploads limit attempts now => some (Offline.flushPendingMediaUploads limit attempts now s).1

/-- Every queued upload whose parent has a negative id has the parent's creation still queued. -/
def NoOrphans (s : MediaClient) : Prop :=
  ∀ u ∈ s.uploads, ∀ p ∈ u.parentLocalId, p < 0 → ∃ e ∈ u.parentEntityType, s.client.disk.Creates ⟨e, p⟩

instance (d : Disk) (ref : OfflineEntityRef) : Decidable (d.Creates ref) := by
  unfold Disk.Creates
  infer_instance

instance (s : MediaClient) : Decidable (NoOrphans s) := by
  unfold NoOrphans
  infer_instance

def MediaUpload.WaitsFor (u : MediaUpload) (x : OfflineOperation) : Prop :=
  u.parentEntityType = some x.entityType ∧ u.parentLocalId = some x.localId

abbrev offerPhotoItem (offerId : ℤ) (filename fileSha : String) (position : ℤ) (queueId : String) (now : ℕ) :
    MediaUpload :=
  mediaItem .offerPhoto filename fileSha (some .offer) (some offerId) position (some "offer_photo") queueId now

/-- The action drops no creation that an upload waits for, and a photo of an offer without a server id finds the
creation of the offer queued, or the same photo. -/
def Careful (s : MediaClient) : MediaAction → Prop
  | .client a =>
    ∀ u ∈ s.uploads, ∀ x ∈ s.client.disk.queue, x.opType = .create → u.WaitsFor x → ¬ a.drops s.client x
  | .enqueueOfferPhotoUpload offerId filename fileSha256 position queueId now =>
    offerId < 0 → s.client.disk.Creates ⟨.offer, offerId⟩ ∨ ∀ fileSha ∈ fileSha256, ∃ current ∈ loadIndex s.uploads,
        (offerPhotoItem offerId filename fileSha position queueId now).isSamePhoto current = true
  | _ => True

/-! ### What the functions of the queue do to the parents -/

/-- Every upload was there before, with the same parent. -/
def Stems (before after : List MediaUpload) : Prop :=
  ∀ v ∈ after, ∃ u ∈ before, v.parentEntityType = u.parentEntityType ∧ ∀ p ∈ v.parentLocalId, p ∈ u.parentLocalId

section Parents

variable {us vs ws : List MediaUpload}

@[refl] lemma Stems.refl (us : List MediaUpload) : Stems us us := fun v hv => ⟨v, hv, rfl, fun _ hp => hp⟩

lemma Stems.trans (h : Stems us vs) (h' : Stems vs ws) : Stems us ws := by
  intro w hw
  obtain ⟨v, hv, htype, hid⟩ := h' w hw
  obtain ⟨u, hu, htype', hid'⟩ := h v hv
  exact ⟨u, hu, htype.trans htype', fun p hp => hid' p (hid p hp)⟩

lemma Stems.of_subset (h : vs ⊆ us) : Stems us vs := fun v hv => ⟨v, h hv, rfl, fun _ hp => hp⟩

variable {f : MediaUpload → MediaUpload}

lemma stems_map (htype : ∀ item, (f item).parentEntityType = item.parentEntityType)
    (hid : ∀ item, ∀ p ∈ (f item).parentLocalId, p ∈ item.parentLocalId) : Stems us (us.map f) := by
  intro v hv
  obtain ⟨u, hu, rfl⟩ := mem_map.mp hv
  exact ⟨u, hu, htype u, hid u⟩

lemma mem_parentLocalId_normalizeItem {item : MediaUpload} {p : ℤ} :
    p ∈ (normalizeItem item).parentLocalId ↔ p ∈ item.parentLocalId ∧ p ≠ 0 := by
  simp [normalizeItem]

lemma stems_loadIndex (us : List MediaUpload) : Stems us (loadIndex us) :=
  stems_map (fun _ => rfl) fun _ _ hp => (mem_parentLocalId_normalizeItem.mp hp).1

lemma stems_writeIndex (us : List MediaUpload) : Stems us (writeIndex us) :=
  (stems_loadIndex us).trans (Stems.of_subset filter_sublist.subset)

lemma stems_modifyUpload (queueId : String) (htype : ∀ item, (f item).parentEntityType = item.parentEntityType)
    (hid : ∀ item, (f item).parentLocalId = item.parentLocalId) (us : List MediaUpload) :
    Stems us (modifyUpload queueId f us) := by
  refine ((stems_loadIndex us).trans (stems_map (fun item => ?_) fun item p hp => ?_)).trans (stems_writeIndex _)
  · split
    · exact htype item
    · rfl
  · split at hp
    · rw [hid] at hp
      exact hp
    · exact hp

lemma stems_markMediaUpload (queueId : String) (status : Option OpStatus) (error storageId : Option String) (now : ℕ)
    (us : List MediaUpload) : Stems us (markMediaUpload queueId status error storageId none now us) := by
  refine stems_modifyUpload queueId ?_ ?_ us
  · exact fun item => rfl
  · exact fun item => rfl

lemma stems_noteMediaUploadAttempt (queueId error : String) (now : ℕ) (us : List MediaUpload) :
    Stems us (noteMediaUploadAttempt queueId error now us) := by
  refine stems_modifyUpload queueId ?_ ?_ us
  · exact fun item => rfl
  · exact fun item => rfl

lemma stems_retryMediaUpload (queueId : String) (now : ℕ) (us : List MediaUpload) :
    Stems us (retryMediaUpload queueId now us) := by
  unfold retryMediaUpload
  split
  · exact Stems.refl us
  · exact stems_markMediaUpload queueId _ _ none now us

lemma stems_removeMediaUpload (queueId : String) (us : List MediaUpload) : Stems us (removeMediaUpload queueId us) :=
  ((stems_loadIndex us).trans (Stems.of_subset filter_sublist.subset)).trans (stems_writeIndex _)

end Parents

/-- The journal and the parents of the uploads are left alone. -/
structure LeavesParents (s t : MediaClient) : Prop where
  client : ∃ conflicts, t.client = { s.client with disk := { s.client.disk with conflicts } }
  stems : Stems s.uploads t.uploads

variable {accountKey : String} {s t u : MediaClient} {a : MediaAction}

lemma LeavesParents.trans (h : LeavesParents s t) (h' : LeavesParents t u) : LeavesParents s u := by
  obtain ⟨_, hclient⟩ := h.client
  obtain ⟨cs', hclient'⟩ := h'.client
  refine ⟨⟨cs', ?_⟩, h.stems.trans h'.stems⟩
  rw [hclient', hclient]

lemma LeavesParents.of_uploads {uploads : List MediaUpload} (h : Stems s.uploads uploads) :
    LeavesParents s { s with uploads } := ⟨⟨s.client.disk.conflicts, rfl⟩, h⟩

@[refl] lemma LeavesParents.refl (s : MediaClient) : LeavesParents s s := .of_uploads (Stems.refl s.uploads)

lemma leavesParents_addConflict (c : OfflineConflict) (s : MediaClient) :
    LeavesParents s (s.perform (addConflict c)) := ⟨⟨_, rfl⟩, Stems.refl s.uploads⟩

lemma leavesParents_removeConflict (opId : String) (s : MediaClient) :
    LeavesParents s (s.perform (removeConflict opId)) := ⟨⟨_, rfl⟩, Stems.refl s.uploads⟩

lemma leavesParents_reviewUpload (queueId : String) (entityType : EntityType) (localId : ℤ)
    (reasonCode message : String) (now : ℕ) (s : MediaClient) :
    LeavesParents s (s.reviewUpload queueId entityType localId reasonCode message now) :=
  (LeavesParents.of_uploads (stems_markMediaUpload queueId _ _ none now s.uploads)).trans
    (leavesParents_addConflict _ _)

lemma leavesParents_uploadDone (queueId : String) (s : MediaClient) : LeavesParents s (s.uploadDone queueId) :=
  (LeavesParents.of_uploads (stems_removeMediaUpload queueId s.uploads)).trans (leavesParents_removeConflict _ _)

lemma leavesParents_noteUpload (queueId message : String) (now : ℕ) (s : MediaClient) :
    LeavesParents s (s.noteUpload queueId message now) :=
  .of_uploads (stems_noteMediaUploadAttempt queueId message now s.uploads)

lemma leavesParents_retryMediaUpload (queueId : String) (now : ℕ) (s : MediaClient) :
    LeavesParents s ({ s with uploads := retryMediaUpload queueId now s.uploads }.perform
      (removeConflict ("media:" ++ queueId))) :=
  (LeavesParents.of_uploads (stems_retryMediaUpload queueId now s.uploads)).trans (leavesParents_removeConflict _ _)

lemma leavesParents_discardMediaUpload (queueId : String) (s : MediaClient) :
    LeavesParents s ({ s with uploads := discardMediaUpload queueId s.uploads }.perform
      (removeConflict ("media:" ++ queueId))) :=
  (LeavesParents.of_uploads (stems_removeMediaUpload queueId s.uploads)).trans (leavesParents_removeConflict _ _)

lemma leavesParents_flushOfferPhoto (current : MediaUpload) (parentLocalId : ℤ) (attempt : UploadAttempt) (now : ℕ)
    (s : MediaClient) : LeavesParents s (flushOfferPhoto current parentLocalId attempt now s).1 := by
  have hstored : LeavesParents s (if current.storageId = "" ∧ attempt.storageId.isSome then
        { s with uploads := markMediaUpload current.id none none attempt.storageId none now s.uploads }
      else s) := by
    split
    · exact .of_uploads (stems_markMediaUpload current.id none none _ now s.uploads)
    · exact .refl s
  unfold flushOfferPhoto
  cases attempt.ends with
  | missing => exact leavesParents_reviewUpload _ _ _ _ _ _ s
  | done => exact hstored.trans (leavesParents_uploadDone _ _)
  | notFound => exact hstored.trans (leavesParents_reviewUpload _ _ _ _ _ _ _)
  | invalid => exact hstored.trans (leavesParents_reviewUpload _ _ _ _ _ _ _)
  | apiError =>
    dsimp only
    split
    · exact hstored.trans (leavesParents_noteUpload _ _ _ _)
    · exact hstored.trans (leavesParents_reviewUpload _ _ _ _ _ _ _)
  | runtimeError => exact hstored.trans (leavesParents_noteUpload _ _ _ _)
  | otherError => exact hstored

lemma leavesParents_flushAgencyMedia (item : MediaUpload) (attempt : UploadAttempt) (now : ℕ) (s : MediaClient) :
    LeavesParents s (flushAgencyMedia item attempt now s).1 := by
  unfold flushAgencyMedia
  cases attempt.ends with
  | missing => exact leavesParents_reviewUpload _ _ _ _ _ _ s
  | done => exact leavesParents_uploadDone _ s
  | apiError =>
    dsimp only
    split
    · exact leavesParents_noteUpload _ _ _ s
    · exact leavesParents_reviewUpload _ _ _ _ _ _ s
  | notFound _ | invalid _ | runtimeError _ | otherError => exact .refl s

lemma leavesParents_flushUpload (item : MediaUpload) (attempt : UploadAttempt) (now : ℕ) (s : MediaClient) :
    LeavesParents s (flushUpload item attempt now s).1 := by
  unfold flushUpload
  split
  · exact .refl s
  · split
    · dsimp only
      split
      · exact .refl s
      · exact leavesParents_flushOfferPhoto _ _ attempt now s
    · exact leavesParents_flushAgencyMedia item attempt now s

lemma leavesParents_flushUploads (attempts : String → UploadAttempt) (now : ℕ) (items : List MediaUpload)
    (s : MediaClient) (success : ℕ) : LeavesParents s (flushUploads attempts now items s success).1 := by
  induction items generalizing s success with
  | nil => exact .refl s
  | cons item _ ih =>
    have hfirst := leavesParents_flushUpload item (attempts item.id) now s
    unfold flushUploads
    split
    · next t hflush =>
      rw [hflush] at hfirst
      exact hfirst.trans (ih t success)
    · next t hflush =>
      rw [hflush] at hfirst
      exact hfirst.trans (ih t (success + 1))
    · next t hflush =>
      rw [hflush] at hfirst
      exact hfirst

/-! ### The invariant -/

structure Sound (s : MediaClient) : Prop where
  client : WellFormed s.client
  offers : ∀ u ∈ s.uploads, ∀ e ∈ u.parentEntityType, e = .offer

lemma sound_init : Sound MediaClient.init := ⟨wellFormed_init, by simp [MediaClient.init]⟩

lemma WellFormed.withConflicts {c : Client} (h : WellFormed c) (conflicts : List OfflineConflict) :
    WellFormed { c with disk := { c.disk with conflicts } } :=
  ⟨⟨h.agrees.log, h.agrees.snapshot⟩, h.used, h.nodup, h.allocated, h.unique, h.tied, h.attempt⟩

lemma Sound.of_leaves (h : Sound s) (hleaves : LeavesParents s t) : Sound t := by
  obtain ⟨conflicts, hclient⟩ := hleaves.client
  refine ⟨?_, fun v hv e he => ?_⟩
  · rw [hclient]
    exact h.client.withConflicts conflicts
  · obtain ⟨u, hu, htype, -⟩ := hleaves.stems v hv
    exact h.offers u hu e (htype ▸ he)

lemma NoOrphans.of_leaves (h : NoOrphans s) (hleaves : LeavesParents s t) : NoOrphans t := by
  obtain ⟨_, hclient⟩ := hleaves.client
  intro v hv p hp hneg
  obtain ⟨u, hu, htype, hid⟩ := hleaves.stems v hv
  obtain ⟨e, he, hcreates⟩ := h u hu p (hid p hp) hneg
  refine ⟨e, htype ▸ he, ?_⟩
  rw [hclient]
  exact hcreates

variable {kind : MediaKind} {filename queueId : String} {fileSha256 : Option String} {position : ℤ} {now : ℕ}
  {r : String × List MediaUpload} {v : MediaUpload}

variable {parentLocalId : Option ℤ} {purpose : Option String} {item : MediaUpload}

lemma enqueueMedia_cases
    {parentEntityType : Option EntityType} {us : List MediaUpload}
    (h : enqueueMedia kind filename fileSha256 parentEntityType parentLocalId position purpose queueId now us = some r) :
    ∃ fileSha, fileSha256 = some fileSha ∧
      let item := mediaItem kind filename fileSha parentEntityType parentLocalId position purpose queueId now
      ((∃ current ∈ loadIndex us, item.isSamePhoto current = true) ∧ r.2 = us) ∨
        (¬ (∃ current ∈ loadIndex us, item.isSamePhoto current = true) ∧ r.2 = writeIndex (loadIndex us ++ [item])) := by
  obtain ⟨fileSha, hsha, hqueue⟩ := bind_eq_some_iff.mp h
  refine ⟨fileSha, hsha, ?_⟩
  intro item
  dsimp only at hqueue
  split at hqueue
  · next existing hfind =>
    cases hqueue
    exact .inl ⟨⟨existing, mem_of_find?_eq_some hfind, find?_some hfind⟩, rfl⟩
  · next hfind =>
    cases hqueue
    refine .inr ⟨?_, rfl⟩
    rintro ⟨current, hcurrent, hsame⟩
    exact find?_eq_none.mp hfind current hcurrent hsame

lemma mem_writeIndex_append {us : List MediaUpload} (hv : v ∈ writeIndex (loadIndex us ++ [item])) :
    (∃ u ∈ us, v.parentEntityType = u.parentEntityType ∧ ∀ p ∈ v.parentLocalId, p ∈ u.parentLocalId) ∨
      v = normalizeItem item := by
  obtain ⟨w, hw, rfl⟩ := mem_map.mp (mem_filter.mp hv).1
  rcases mem_append.mp hw with hw | hw
  · have hstems : Stems us ((loadIndex us).map normalizeItem) := (stems_loadIndex us).trans (stems_loadIndex _)
    exact .inl (hstems _ (mem_map_of_mem hw))
  · rw [mem_singleton.mp hw]
    exact .inr rfl

lemma normalizeItem_mem_writeIndex {items : List MediaUpload} (h : item.status.isFinal = false) :
    normalizeItem item ∈ writeIndex (items ++ [item]) := by
  refine mem_filter.mpr ⟨mem_map_of_mem (by simp), ?_⟩
  simp [normalizeItem, h]

lemma noOrphans_enqueueMedia (hP : NoOrphans s)
    (h : enqueueMedia kind filename fileSha256 none none 0 none queueId now s.uploads = some r) :
    NoOrphans { s with uploads := r.2 } := by
  obtain ⟨_, -, ⟨-, hsame⟩ | ⟨-, hadd⟩⟩ := enqueueMedia_cases h
  · rw [hsame]
    exact hP
  · intro v hv p hp hneg
    dsimp only at hv
    rw [hadd] at hv
    rcases mem_writeIndex_append hv with ⟨u, hu, htype, hid⟩ | rfl
    · obtain ⟨e, he, hcreates⟩ := hP u hu p (hid p hp) hneg
      exact ⟨e, htype ▸ he, hcreates⟩
    · cases (mem_parentLocalId_normalizeItem.mp hp).1

/-- A photo of an offer is no orphan exactly when it finds the offer's creation queued, or the same photo. -/
lemma noOrphans_enqueueOfferPhotoUpload_iff {offerId : ℤ} (hP : NoOrphans s)
    (h : enqueueOfferPhotoUpload offerId filename fileSha256 position queueId now s.uploads = some r) :
    NoOrphans { s with uploads := r.2 } ↔
      Careful s (.enqueueOfferPhotoUpload offerId filename fileSha256 position queueId now) := by
  obtain ⟨fileSha, rfl, hcases⟩ := enqueueMedia_cases h
  have hcareful : Careful s (.enqueueOfferPhotoUpload offerId filename (some fileSha) position queueId now) ↔
      (offerId < 0 → s.client.disk.Creates ⟨.offer, offerId⟩ ∨ ∃ current ∈ loadIndex s.uploads,
        (offerPhotoItem offerId filename fileSha position queueId now).isSamePhoto current = true) := by
    simp [Careful]
  rw [hcareful]
  rcases hcases with ⟨hqueued, hsame⟩ | ⟨hnew, hadd⟩
  · rw [hsame]
    exact iff_of_true hP fun _ => .inr hqueued
  · rw [hadd]
    constructor
    · intro hall hneg
      have hmem : normalizeItem (offerPhotoItem offerId filename fileSha position queueId now)
          ∈ writeIndex (loadIndex s.uploads ++ [offerPhotoItem offerId filename fileSha position queueId now]) := by
        refine normalizeItem_mem_writeIndex ?_
        simp only [mediaItem]
        split <;> rfl
      obtain ⟨e, he, hcreates⟩ := hall _ hmem offerId (mem_parentLocalId_normalizeItem.mpr ⟨rfl, hneg.ne⟩) hneg
      cases he
      exact .inl hcreates
    · intro hcreates v hv p hp hneg
      rcases mem_writeIndex_append hv with ⟨u, hu, htype, hid⟩ | rfl
      · obtain ⟨e, he, hcreates⟩ := hP u hu p (hid p hp) hneg
        exact ⟨e, htype ▸ he, hcreates⟩
      · obtain rfl : offerId = p := some.inj (mem_parentLocalId_normalizeItem.mp hp).1
        exact ⟨.offer, rfl, (hcreates hneg).resolve_right hnew⟩

/-! ### Every step -/

/-- An upload of the index after the ids of a record were rewritten: its parent is the record's new id, or the one it
had, which is not the record's. -/
lemma mem_rewriteMediaParentRefs {us : List MediaUpload} {entityType : EntityType}
    {oldLocalId newServerId : ℤ} (hv : v ∈ (rewriteMediaParentRefs entityType oldLocalId newServerId now us).2) :
    ∃ u ∈ us, v.parentEntityType = u.parentEntityType ∧ ∀ p ∈ v.parentLocalId,
      p = newServerId ∨ (p ∈ u.parentLocalId ∧ ¬ (u.parentEntityType = some entityType ∧ p = oldLocalId)) := by
  obtain ⟨w, hw, rfl⟩ := mem_map.mp (mem_filter.mp hv).1
  obtain ⟨u', hu', rfl⟩ := mem_map.mp hw
  obtain ⟨u, hu, htype, hid⟩ := stems_loadIndex us u' hu'
  refine ⟨u, hu, ?_, fun p hp => ?_⟩
  · rw [← htype]
    simp only [normalizeItem]
    split <;> rfl
  · have hp' := (mem_parentLocalId_normalizeItem.mp hp).1
    split at hp'
    · exact .inl (some.inj hp').symm
    · next hother =>
      refine .inr ⟨hid p hp', ?_⟩
      rintro ⟨hentity, rfl⟩
      refine hother ?_
      simp only [MediaUpload.hasParent, decide_eq_true_eq]
      exact ⟨htype.trans hentity, by rw [mem_def.mp hp', getD_some]⟩

lemma noOrphans_finish {t : Client} (h : Sound s) (hP : NoOrphans s)
    (hstep : s.client.step accountKey (.finish now) = some t) : NoOrphans ⟨t, s.uploadsAfter (.finish now)⟩ := by
  obtain ⟨op, request, response, ready, hphase⟩ : ∃ op request response ready,
      s.client.phase = .received op request response ready := by
    obtain ⟨p, hp, -⟩ := map_eq_some_iff.mp hstep
    simp only [Client.effect] at hp
    split at hp
    · next op request response ready hphase => exact ⟨op, request, response, ready, hphase⟩
    · cases hp
  have hstays : ∀ u ∈ s.uploads, ∀ p ∈ u.parentLocalId, p < 0 → ∃ e ∈ u.parentEntityType,
      t.disk.Creates ⟨e, p⟩ ∨ ((⟨e, p⟩ : OfflineEntityRef) = op.entity ∧ arrivedId op response ≠ none) := by
    intro u hu p hp hneg
    obtain ⟨e, he, x, hx, hcreate⟩ := hP u hu p hp hneg
    obtain ⟨hentity, htype⟩ := isCreateOf_iff.mp hcreate
    refine ⟨e, he, ?_⟩
    rcases creates_finish h.client hphase hstep hx htype with hqueued | harrived | hgeneric
    · exact .inl (hentity ▸ hqueued)
    · exact .inr (hentity ▸ harrived)
    · have hoffer := h.offers u hu e he
      have htypes : x.entityType = e := congrArg OfflineEntityRef.entityType hentity
      rw [hgeneric, hoffer] at htypes
      cases htypes
  intro v hv p hp hneg
  simp only [MediaClient.uploadsAfter, hphase] at hv
  cases hid : arrivedId op response with
  | none =>
    rw [hid] at hv
    obtain ⟨e, he, hqueued | ⟨-, harrived⟩⟩ := hstays v hv p hp hneg
    · exact ⟨e, he, hqueued⟩
    · exact absurd hid harrived
  | some =>
    rw [hid] at hv
    obtain ⟨u, hu, htype, hparent⟩ := mem_rewriteMediaParentRefs hv
    rcases hparent p hp with rfl | ⟨hp', hother⟩
    · have hpos := (arrivedId_pos hid).1
      omega
    · obtain ⟨e, he, hqueued | ⟨hentity, -⟩⟩ := hstays u hu p hp' hneg
      · exact ⟨e, htype ▸ he, hqueued⟩
      · have htypes : e = op.entityType := congrArg OfflineEntityRef.entityType hentity
        have hids : p = op.localId := congrArg OfflineEntityRef.localId hentity
        exact absurd ⟨htypes ▸ he, hids⟩ hother

/-- An action of the client makes no orphan exactly when it drops no creation that an upload waits for. -/
lemma noOrphans_client_iff {t : Client} {a : Action} (h : Sound s) (hP : NoOrphans s)
    (hstep : s.client.step accountKey a = some t) :
    NoOrphans ⟨t, s.uploadsAfter a⟩ ↔ Careful s (.client a) := by
  by_cases hfinish : ∃ now, a = .finish now
  · obtain ⟨now, rfl⟩ := hfinish
    exact iff_of_true (noOrphans_finish h hP hstep) fun _ _ _ _ _ _ => not_false
  · have hfinish' : ∀ now, a ≠ .finish now := fun now heq => hfinish ⟨now, heq⟩
    have huploads : s.uploadsAfter a = s.uploads := by
      unfold MediaClient.uploadsAfter
      split
      · exact absurd rfl (hfinish' _)
      · rfl
    have hcreates : ∀ x ∈ s.client.disk.queue, x.opType = .create → (t.disk.Creates x.entity ↔ ¬ a.drops s.client x) :=
      fun x hx => step_creates_iff h.client hstep hfinish' hx
    rw [huploads]
    constructor
    · rintro hall u hu x hx hcreate ⟨htype, hid⟩
      have hneg := (h.client.allocated x (mem_held_of_queue hx) hcreate).2
      obtain ⟨e, he, hqueued⟩ := hall u hu x.localId hid hneg
      obtain rfl : x.entityType = e := some.inj (htype.symm.trans he)
      exact (hcreates x hx hcreate).mp hqueued
    · intro hcareful u hu p hp hneg
      obtain ⟨e, he, x, hx, hcreate⟩ := hP u hu p hp hneg
      obtain ⟨hentity, htype⟩ := isCreateOf_iff.mp hcreate
      cases hentity
      exact ⟨x.entityType, he, (hcreates x hx htype).mpr (hcareful u hu x hx htype ⟨he, hp⟩)⟩

lemma mem_uploadsAfter {a : Action} (hv : v ∈ s.uploadsAfter a) :
    ∃ u ∈ s.uploads, v.parentEntityType = u.parentEntityType := by
  unfold MediaClient.uploadsAfter at hv
  split at hv
  · split at hv
    · split at hv
      · obtain ⟨u, hu, htype, -⟩ := mem_rewriteMediaParentRefs hv
        exact ⟨u, hu, htype⟩
      · exact ⟨v, hv, rfl⟩
    · exact ⟨v, hv, rfl⟩
  · exact ⟨v, hv, rfl⟩

lemma Sound.enqueueMedia
    {parentEntityType : Option EntityType} (h : Sound s) (hoffer : ∀ e ∈ parentEntityType, e = .offer)
    (hqueue : enqueueMedia kind filename fileSha256 parentEntityType parentLocalId position purpose queueId now s.uploads
      = some r) : Sound { s with uploads := r.2 } := by
  refine ⟨h.client, fun v hv e he => ?_⟩
  obtain ⟨_, -, ⟨-, hsame⟩ | ⟨-, hadd⟩⟩ := enqueueMedia_cases hqueue
  · rw [hsame] at hv
    exact h.offers v hv e he
  · rw [hadd] at hv
    rcases mem_writeIndex_append hv with ⟨u, hu, htype, -⟩ | rfl
    · exact h.offers u hu e (htype ▸ he)
    · exact hoffer e he

lemma Sound.step (h : Sound s) (hstep : s.step accountKey a = some t) : Sound t := by
  cases a with
  | client =>
    obtain ⟨c, hc, rfl⟩ := map_eq_some_iff.mp hstep
    refine ⟨h.client.step hc, fun v hv e he => ?_⟩
    obtain ⟨u, hu, htype⟩ := mem_uploadsAfter hv
    exact h.offers u hu e (htype ▸ he)
  | enqueueMedia =>
    obtain ⟨r, hr, rfl⟩ := map_eq_some_iff.mp hstep
    exact h.enqueueMedia (by simp) hr
  | enqueueOfferPhotoUpload =>
    obtain ⟨r, hr, rfl⟩ := map_eq_some_iff.mp hstep
    exact h.enqueueMedia (by simp) hr
  | retryMediaUpload queueId now =>
    cases hstep
    exact h.of_leaves (leavesParents_retryMediaUpload queueId now s)
  | discardMediaUpload queueId =>
    cases hstep
    exact h.of_leaves (leavesParents_discardMediaUpload queueId s)
  | flushPendingMediaUploads _ attempts now =>
    cases hstep
    exact h.of_leaves (leavesParents_flushUploads attempts now _ s 0)

/-- Exactly the careful steps keep every upload from being orphaned. -/
theorem noOrphans_step_iff (h : Sound s) (hP : NoOrphans s) (hstep : s.step accountKey a = some t) :
    NoOrphans t ↔ Careful s a := by
  cases a with
  | client =>
    obtain ⟨c, hc, rfl⟩ := map_eq_some_iff.mp hstep
    exact noOrphans_client_iff h hP hc
  | enqueueMedia =>
    obtain ⟨r, hr, rfl⟩ := map_eq_some_iff.mp hstep
    exact iff_of_true (noOrphans_enqueueMedia hP hr) trivial
  | enqueueOfferPhotoUpload =>
    obtain ⟨r, hr, rfl⟩ := map_eq_some_iff.mp hstep
    exact noOrphans_enqueueOfferPhotoUpload_iff hP hr
  | retryMediaUpload queueId now =>
    cases hstep
    exact iff_of_true (hP.of_leaves (leavesParents_retryMediaUpload queueId now s)) trivial
  | discardMediaUpload queueId =>
    cases hstep
    exact iff_of_true (hP.of_leaves (leavesParents_discardMediaUpload queueId s)) trivial
  | flushPendingMediaUploads _ attempts now =>
    cases hstep
    exact iff_of_true (hP.of_leaves (leavesParents_flushUploads attempts now _ s 0)) trivial

lemma noOrphans_init : NoOrphans MediaClient.init := by simp [NoOrphans, MediaClient.init]

/-- Whatever the user and the replay do in whatever order, no upload is orphaned in any state of a run exactly when
every step of the run is careful. -/
theorem no_orphans_along_iff {actions : List MediaAction}
    (hrun : run (MediaClient.step accountKey) MediaClient.init actions = some u) :
    (∀ before t, before <+: actions → run (MediaClient.step accountKey) MediaClient.init before = some t →
      NoOrphans t) ↔ Guarded (MediaClient.step accountKey) Careful MediaClient.init actions :=
  holds_along_run_iff (fun _ _ _ hs hstep => Sound.step hs hstep) (fun _ _ _ hs hP hstep => noOrphans_step_iff hs hP hstep)
    sound_init noOrphans_init hrun

/-- A listing and an offer of it are created offline, and a photo of the offer is queued. -/
def offlinePhoto : List MediaAction :=
  [.client (.createEntity { entityType := .listing, requestBody := [("title", .str "A")], path := "/listings" }
      "op-1" (.notSent "offline") 1),
    .client (.createEntity
      { entityType := .offer, requestBody := [("remarks", .str "B")],
        pathTemplate := "/listings/\x7blisting_id\x7d/offers", pathRefs := [("listing_id", ⟨.listing, -1⟩)] }
      "op-2" (.notSent "offline") 2),
    .enqueueOfferPhotoUpload (-1) "photo.jpg" (some "5f8a") 0 "upload-1" 3]

theorem offlinePhoto_no_orphans : ∃ u, run (MediaClient.step "a") MediaClient.init offlinePhoto = some u ∧
      ((∀ before t, before <+: offlinePhoto → run (MediaClient.step "a") MediaClient.init before = some t →
        NoOrphans t) ↔ Guarded (MediaClient.step "a") Careful MediaClient.init offlinePhoto) := by
  have hsome : (run (MediaClient.step "a") MediaClient.init offlinePhoto).isSome = true := by decide +kernel
  obtain ⟨u, hrun⟩ := isSome_iff_exists.mp hsome
  exact ⟨u, hrun, no_orphans_along_iff hrun⟩

def deleteListing : MediaAction :=
  .client (.deleteEntity ⟨.listing, -1⟩ "/listings/-1" [] "DELETE:/listings/-1" "listing.delete" "op-3"
    (.notSent "offline") 4)

/-- The creation of the offer goes with the one of the listing, and the photo stays. -/
theorem photo_orphaned :
    ¬ ∀ accountKey actions t, run (MediaClient.step accountKey) MediaClient.init actions = some t → NoOrphans t := by
  intro hall
  have horphan : (run (MediaClient.step "a") MediaClient.init (offlinePhoto ++ [deleteListing])).map
      (fun t => decide (NoOrphans t)) = some false := by decide +kernel
  obtain ⟨t, hrun, ht⟩ := map_eq_some_iff.mp horphan
  exact of_decide_eq_false ht (hall "a" _ t hrun)

end ImmoApp.Offline
