import ImmoApp.Storage.Calls

/-!
# The usage counter

`storage_usage.total_bytes` of an agency is meant to be the sum of the sizes of its rows that are ready.
Status and counter are written together in one transaction, but most writes do not look at the status that
the row has by then.  `Counted` says when a write leaves the counter right, by the status of its row before
it; restores, creations and the operations on photos always do.

`usage_exact`: in every run whose writes are counted the counter is exact in every state.
-/

namespace ImmoApp.Storage

open Option Keyed

def Objects.Exact (objects : Objects) : Prop :=
  ∀ agencyId, objects.getUsageForAgency agencyId = objects.getTotalUsageBytes agencyId

section Writes

variable {objects objects' : Objects} {id agencyId : ℕ} {r : StorageObject} {db db' : Media} {w : StorageWrite}
  {f : StorageObject → StorageObject}

def readyBytes (agencyId : ℕ) (_ : ℕ) (r : StorageObject) : ℕ :=
  if r.agencyId = agencyId ∧ r.status = .ready then r.sizeBytes else 0

variable (id agencyId) in
lemma readyBytes_of_ready (h : r.status = .ready) :
    readyBytes agencyId id r = if r.agencyId = agencyId then r.sizeBytes else 0 := by
  simp [readyBytes, h]

lemma readyBytes_of_not_ready (h : r.status ≠ .ready) : readyBytes agencyId id r = 0 := by
  simp [readyBytes, h]

lemma getTotalUsageBytes_updateRow (h : objects.rows.get? id = some r) (agencyId : ℕ) :
    (objects.updateRow id f).getTotalUsageBytes agencyId + readyBytes agencyId id r
      = objects.getTotalUsageBytes agencyId + readyBytes agencyId id (f r) :=
  total_updateKey (f := readyBytes agencyId) h f

section

variable (hexact : objects.Exact)
include hexact

lemma Objects.Exact.updateRow (hsame : ∀ r, objects.rows.get? id = some r → ∀ agencyId,
      readyBytes agencyId id (f r) = readyBytes agencyId id r) : (objects.updateRow id f).Exact := by
  intro agencyId
  cases hr : objects.rows.get? id with
  | none =>
    have hrows : objects.updateRow id f = objects := by
      rw [Objects.updateRow, updateKey_of_get?_eq_none hr]
    rw [hrows]
    exact hexact agencyId
  | some r =>
    have htotal := getTotalUsageBytes_updateRow (f := f) hr agencyId
    rw [hsame r hr agencyId] at htotal
    change objects.getUsageForAgency agencyId = _
    rw [hexact agencyId]
    omega

lemma Objects.Exact.bump (hrow : objects.rows.get? id = some r) {delta : ℤ}
    (hown : (readyBytes r.agencyId id (f r) : ℤ) = readyBytes r.agencyId id r + delta)
    (hother : ∀ agencyId, agencyId ≠ r.agencyId → readyBytes agencyId id (f r) = readyBytes agencyId id r) :
    ((objects.updateRow id f).bumpStorageUsage r.agencyId delta).Exact := by
  intro agencyId
  have htotal := getTotalUsageBytes_updateRow (f := f) hrow agencyId
  have hbump : (((objects.updateRow id f).bumpStorageUsage r.agencyId delta).getUsageForAgency agencyId) = _ :=
    Objects.getUsageForAgency_bump delta
  have hsame : ∀ a, (objects.updateRow id f).getUsageForAgency a = objects.getTotalUsageBytes a := hexact
  have hrows : ((objects.updateRow id f).bumpStorageUsage r.agencyId delta).getTotalUsageBytes agencyId
      = (objects.updateRow id f).getTotalUsageBytes agencyId := rfl
  rw [hbump, hrows]
  by_cases heq : agencyId = r.agencyId
  · subst heq
    rw [if_pos rfl, hsame]
    omega
  · rw [if_neg heq, hsame]
    have := hother agencyId heq
    omega

lemma Objects.Exact.bump_of_zero (hzero : objects.getUsageForAgency agencyId = 0)
    {delta : ℤ} (hdelta : delta ≤ 0) : (objects.bumpStorageUsage agencyId delta).Exact := by
  intro agencyId'
  rw [Objects.getUsageForAgency_bump]
  change _ = (objects.getTotalUsageBytes agencyId' : ℤ)
  rw [← hexact agencyId']
  split
  · next heq =>
    rw [heq, hzero]
    omega
  · rfl

lemma Objects.Exact.delete (hrow : objects.rows.get? id = some r)
    (hready : r.status = .ready ∨ objects.getUsageForAgency r.agencyId = 0) :
    (deleteStorageInTransaction id r.agencyId objects).Exact := by
  have hsize := Objects.sizeOf_of_get? hrow
  by_cases hstatus : r.status = .ready
  · have hbytes := readyBytes_of_ready id r.agencyId hstatus
    rw [if_pos rfl] at hbytes
    rw [deleteStorageInTransaction, Objects.markStorageDeleted, hsize]
    dsimp only
    split
    · next hzero =>
      refine hexact.updateRow fun r' hr' agencyId => ?_
      obtain rfl := some.inj (hrow.symm.trans hr')
      rw [readyBytes_of_not_ready (by decide : Status.deleted ≠ Status.ready), readyBytes, hzero, ite_self]
    · refine hexact.bump hrow ?_ fun agencyId hne => ?_
      · rw [readyBytes_of_not_ready (by decide : Status.deleted ≠ Status.ready), hbytes]
        omega
      · rw [readyBytes_of_not_ready (by decide : Status.deleted ≠ Status.ready), readyBytes_of_ready _ _ hstatus,
          if_neg (Ne.symm hne)]
  · -- nothing was counted, and the counter is at zero
    have hkept : (objects.updateRow id fun r => { r with
        status := .deleted, deletedAt := some objects.now }).Exact := by
      refine hexact.updateRow fun r' hr' agencyId => ?_
      obtain rfl := some.inj (hrow.symm.trans hr')
      rw [readyBytes_of_not_ready (by decide : Status.deleted ≠ Status.ready), readyBytes_of_not_ready hstatus]
    rw [deleteStorageInTransaction, Objects.markStorageDeleted, hsize]
    dsimp only
    split
    · exact hkept
    · exact hkept.bump_of_zero (hready.resolve_left hstatus) (by omega)

lemma Objects.Exact.restore (hrow : objects.rows.get? id = some r) :
    (restoreStorageInTransaction id r.agencyId objects).Exact := by
  by_cases hdeleted : r.status = .deleted ∧ r.deletedAt.isSome
  · have hnot : r.status ≠ .ready := by
      rw [hdeleted.1]
      decide
    rw [restoreStorageInTransaction, Objects.restoreDeletedStorage_of_deleted hrow hdeleted]
    dsimp only
    split
    · next hzero =>
      refine hexact.updateRow fun r' hr' agencyId => ?_
      obtain rfl := some.inj (hrow.symm.trans hr')
      rw [readyBytes_of_not_ready hnot, readyBytes, hzero, ite_self]
    · refine hexact.bump hrow ?_ fun agencyId hne => ?_
      · rw [readyBytes_of_not_ready hnot, readyBytes_of_ready _ _ rfl, if_pos rfl]
        exact (zero_add _).symm
      · rw [readyBytes_of_not_ready hnot, readyBytes_of_ready _ _ rfl]
        exact if_neg (Ne.symm hne)
  · rw [restoreStorageInTransaction, Objects.restoreDeletedStorage_of_not_deleted hrow hdeleted]
    exact hexact

end

lemma Objects.Exact.photo {op : PhotoOp} (hexact : db.objects.Exact) (h : op.exec db = some db') :
    db'.objects.Exact :=
  PhotoOp.exec_induction (P := Objects.Exact) (fun _ _ _ hP hr hready => hP.delete hr (.inl hready))
    (fun _ _ _ _ hP hr _ => hP.restore hr) hexact h

/-! ### The writes that keep the counter -/

/-- A write leaves the counter right: it sees a row of the right status. -/
def StorageWrite.Counted (db : Media) : StorageWrite → Prop
  | markReady id _ _ purpose =>
    (∀ r ∈ db.objects.rows.get? id, r.status ≠ .ready) ∧
      ((db.objects.rows.get? id).isSome ∨ purpose ≠ "import_artifact")
  | markFailed id _ => ∀ r ∈ db.objects.rows.get? id, r.status ≠ .ready
  | expire id => ∀ r ∈ db.objects.rows.get? id, r.status ≠ .ready
  | markPurged id => ∀ r ∈ db.objects.rows.get? id, r.status ≠ .ready
  | markDeleted id _ =>
    ∀ r ∈ db.objects.rows.get? id, r.status = .ready ∨ db.objects.getUsageForAgency r.agencyId = 0
  | purgeNow id record =>
    ∀ r ∈ db.objects.rows.get? id, (r.status = .ready → record.status = .ready) ∧
      (record.status = .ready → r.status = .ready ∨ db.objects.getUsageForAgency r.agencyId = 0)
  | create _ _ => True
  | restore _ _ => True
  | photo _ => True

instance (db : Media) (w : StorageWrite) : Decidable (w.Counted db) := by
  cases w <;> unfold StorageWrite.Counted <;> infer_instance

def StorageWrite.Fits (db : Media) : StorageWrite → Prop
  | create id _ => db.objects.rows.get? id = none
  | markReady id _ agencyId _ => ∀ r, db.objects.rows.get? id = some r → r.agencyId = agencyId
  | markDeleted id agencyId => ∀ r, db.objects.rows.get? id = some r → r.agencyId = agencyId
  | restore id agencyId => ∀ r, db.objects.rows.get? id = some r → r.agencyId = agencyId
  | purgeNow id record => ∀ r, db.objects.rows.get? id = some r → r.agencyId = record.agencyId
  | _ => True

lemma Objects.Exact.setStatus (hexact : objects.Exact) {status : Status} (hstatus : status ≠ .ready)
    (hnot : ∀ r ∈ objects.rows.get? id, r.status ≠ .ready) :
    (objects.updateRow id fun r => { r with status := status }).Exact := by
  refine hexact.updateRow fun r hr agencyId => ?_
  rw [readyBytes_of_not_ready (hnot r hr)]
  exact readyBytes_of_not_ready hstatus

lemma Objects.Exact.remove (hexact : objects.Exact) {record : StorageObject}
    (hagency : ∀ r, objects.rows.get? id = some r → r.agencyId = record.agencyId)
    (hcounted : ∀ r ∈ objects.rows.get? id, (r.status = .ready → record.status = .ready) ∧
      (record.status = .ready → r.status = .ready ∨ objects.getUsageForAgency r.agencyId = 0)) :
    (if record.status = .ready ∧ (objects.deleteStorageObject id).1 ≠ 0 then
      (objects.deleteStorageObject id).2.bumpStorageUsage record.agencyId (-((objects.deleteStorageObject id).1 : ℤ))
      else (objects.deleteStorageObject id).2).Exact := by
  cases hr : objects.rows.get? id with
  | none =>
    have hsize : objects.sizeOf id = 0 := by
      rw [Objects.sizeOf, hr]
      rfl
    rw [Objects.deleteStorageObject, hsize, if_neg (fun hne => hne.2 rfl), deleteKey_of_get?_eq_none hr]
    exact hexact
  | some r =>
    obtain ⟨hready, hrecord⟩ := hcounted r hr
    have htotal : ∀ a, (objects.deleteStorageObject id).2.getTotalUsageBytes a + readyBytes a id r
        = objects.getTotalUsageBytes a := fun a => total_deleteKey (f := readyBytes a) hr
    -- where the row did not count, the sum stays
    have hkept : (∀ a, readyBytes a id r = 0) → (objects.deleteStorageObject id).2.Exact := by
      intro hzero a
      have := htotal a
      have hz := hzero a
      exact (hexact a).trans (congrArg Nat.cast (by omega))
    have hsize : (objects.deleteStorageObject id).1 = r.sizeBytes := Objects.sizeOf_of_get? hr
    rw [hsize]
    split
    · next hbump =>
      by_cases hstatus : r.status = .ready
      · intro a
        rw [← hagency r hr, Objects.getUsageForAgency_bump]
        change (if a = r.agencyId then max (objects.getUsageForAgency r.agencyId + -(r.sizeBytes : ℤ)) 0
          else objects.getUsageForAgency a) = ((objects.deleteStorageObject id).2.getTotalUsageBytes a : ℤ)
        have ha := htotal a
        rw [readyBytes_of_ready _ _ hstatus] at ha
        split
        · next heq =>
          subst heq
          rw [if_pos rfl] at ha
          rw [hexact]
          omega
        · next hne =>
          rw [if_neg (Ne.symm hne)] at ha
          rw [hexact]
          omega
      · rw [← hagency r hr]
        refine Objects.Exact.bump_of_zero (hkept fun a => readyBytes_of_not_ready hstatus) ?_ (by omega)
        exact (hrecord hbump.1).resolve_left hstatus
    · next hbump =>
      refine hkept fun a => ?_
      by_cases hstatus : r.status = .ready
      · have hzero : r.sizeBytes = 0 := not_not.mp fun hne => hbump ⟨hready hstatus, hne⟩
        rw [readyBytes_of_ready _ _ hstatus, hzero, ite_self]
      · exact readyBytes_of_not_ready hstatus

lemma Objects.Exact.apply (hexact : db.objects.Exact) (hfits : w.Fits db) (hcounted : w.Counted db)
    (h : w.apply db = some db') : db'.objects.Exact := by
  cases w with
  | create id u =>
    cases h
    intro agencyId
    have htotal := total_set (f := readyBytes agencyId) hfits
      ⟨u.agencyId, u.userId, u.purpose, u.sizeBytes, .pending, db.objects.now, none⟩
    rw [readyBytes_of_not_ready (by decide : Status.pending ≠ Status.ready)] at htotal
    exact (hexact agencyId).trans (congrArg Nat.cast htotal.symm)
  | markReady id sizeBytes agencyId purpose =>
    obtain ⟨o, ho, rfl⟩ := map_eq_some_iff.mp h
    obtain ⟨rfl, hevent⟩ := insertEventUnlessArtifact_eq_some ho
    obtain ⟨hnot, hrow⟩ := hcounted
    cases hr : db.objects.rows.get? id with
    | none =>
      -- the row is gone, and its event raises
      rw [hr] at hrow
      have hsome := hevent (hrow.resolve_left (by simp))
      rw [Objects.rows_bumpStorageUsage, Objects.markStorageReady, Objects.rows_updateRow,
        get?_updateKey_self, hr] at hsome
      cases hsome
    | some r =>
      rw [← hfits r hr]
      refine hexact.bump hr ?_ fun agencyId hne => ?_
      · rw [readyBytes_of_not_ready (hnot r hr), readyBytes_of_ready _ _ rfl, if_pos rfl]
        exact (zero_add _).symm
      · rw [readyBytes_of_not_ready (hnot r hr), readyBytes_of_ready _ _ rfl]
        exact if_neg (Ne.symm hne)
  | markFailed id purpose =>
    obtain ⟨o, ho, rfl⟩ := map_eq_some_iff.mp h
    obtain ⟨rfl, _⟩ := insertEventUnlessArtifact_eq_some ho
    exact hexact.setStatus (by decide) hcounted
  | expire id =>
    obtain ⟨o, ho, rfl⟩ := map_eq_some_iff.mp h
    obtain ⟨rfl, _⟩ := insertStorageEvent_eq_some ho
    exact hexact.setStatus (by decide) hcounted
  | markPurged id =>
    obtain ⟨o, ho, rfl⟩ := map_eq_some_iff.mp h
    obtain ⟨rfl, _⟩ := insertStorageEvent_eq_some ho
    exact hexact.setStatus (by decide) hcounted
  | markDeleted id agencyId =>
    obtain ⟨o, ho, rfl⟩ := map_eq_some_iff.mp h
    obtain ⟨rfl, hrow⟩ := insertStorageEvent_eq_some ho
    cases hr : db.objects.rows.get? id with
    | none =>
      rw [rows_deleteStorageInTransaction, get?_updateKey_self, hr] at hrow
      cases hrow
    | some r =>
      rw [← hfits r hr]
      exact hexact.delete hr (hcounted r hr)
  | restore id agencyId =>
    obtain ⟨o, ho, rfl⟩ := map_eq_some_iff.mp h
    obtain ⟨rfl, _⟩ := insertStorageEvent_eq_some ho
    cases hr : db.objects.rows.get? id with
    | none =>
      rw [restoreStorageInTransaction, Objects.restoreDeletedStorage_of_none hr]
      exact hexact
    | some r =>
      rw [← hfits r hr]
      exact hexact.restore hr
  | purgeNow id record =>
    rw [StorageWrite.apply] at h
    split at h
    · cases h
    · cases h
      exact hexact.remove hfits hcounted
  | photo op => exact hexact.photo h

end Writes

/-! ### Runs -/

namespace StorageDesk

variable {cfg : StorageConfig} {s t : StorageDesk} {a : StorageAction} {w : StorageWrite} {as : List StorageAction}

lemma Sound.fits (h : s.Sound) (hw : s.writeOf cfg a = some w) : w.Fits s.media := by
  cases a with
  | start | stop | clientPut | tick => cases hw
  | photo op =>
    cases hw
    trivial
  | advance pid ok =>
    obtain ⟨stage, hstage, hw⟩ := bind_eq_some_iff.mp hw
    obtain ⟨o, ho, hw⟩ := bind_eq_some_iff.mp hw
    have hknown := h.known pid stage
    have hnew : s.media.objects.rows.get? s.nextId = none :=
      eq_none_iff_forall_ne_some.mpr fun r hr => lt_irrefl _ (h.fresh s.nextId r hr)
    rw [outcome.eq_def] at ho
    split at ho
    all_goals
      repeat' split at ho
      all_goals
        cases ho
        try cases hw
      try trivial
    all_goals
      first
        | exact (hknown _ _ hstage rfl).2
        | exact hnew

structure Idle (s : StorageDesk) : Prop where
  calls : s.calls = Keyed.empty
  fresh : ∀ id r, s.media.objects.rows.get? id = some r → id < s.nextId

lemma Idle.sound (h : s.Idle) : s.Sound where
  fresh := h.fresh
  known := by
    intro pid stage id agencyId hstage
    rw [h.calls] at hstage
    cases hstage

def WritesCounted (cfg : StorageConfig) (s : StorageDesk) (a : StorageAction) : Prop :=
  ∀ w ∈ s.writeOf cfg a, w.Counted s.media

instance (cfg : StorageConfig) (s : StorageDesk) (a : StorageAction) : Decidable (s.WritesCounted cfg a) := by
  unfold WritesCounted
  infer_instance

lemma exact_step (hsound : s.Sound) (hexact : s.media.objects.Exact) (hcounted : s.WritesCounted cfg a)
    (hstep : step cfg s a = some t) : t.media.objects.Exact := by
  rcases media_step hstep with ⟨hrows, husage⟩ | ⟨w, hw, happly⟩
  · intro agencyId
    rw [Objects.getUsageForAgency, husage, Objects.getTotalUsageBytes, hrows]
    exact hexact agencyId
  · exact hexact.apply (hsound.fits hw) (hcounted w hw) happly

/-- In every run whose writes are counted the counter of every agency is the sum of its ready rows. -/
theorem usage_exact (hidle : s.Idle) (hexact : s.media.objects.Exact)
    (hguard : Guarded (step cfg) (WritesCounted cfg) s as) (hrun : run (step cfg) s as = some t)
    (agencyId : ℕ) :
    t.media.objects.getUsageForAgency agencyId = t.media.objects.getTotalUsageBytes agencyId := by
  have hboth : t.Sound ∧ t.media.objects.Exact :=
    run_invariant (P := fun s => s.Sound ∧ s.media.objects.Exact)
      (fun _ _ _ hs hc hstep => ⟨hs.1.step hstep, exact_step hs.1 hs.2 hc hstep⟩) ⟨hidle.sound, hexact⟩
      hguard hrun
  exact hboth.2 agencyId

/-- Files of up to a hundred bytes, a quota of ten. -/
def sampleConfig : StorageConfig := ⟨100, 100, 100, 100, some 10, none, false⟩

def emptyDesk : StorageDesk :=
  ⟨⟨⟨Keyed.empty, Keyed.empty, 0⟩, Keyed.empty, Keyed.empty, 0⟩, Keyed.empty, Keyed.empty, 0⟩

lemma emptyDesk_idle : emptyDesk.Idle where
  calls := rfl
  fresh := by
    intro id r hr
    cases hr

lemma emptyDesk_exact : emptyDesk.media.objects.Exact := fun _ => rfl

def presigned : List StorageAction :=
  [.start 0 (.upload ⟨1, 1, "agency_logo", 5, false⟩), .advance 0 true, .advance 0 true, .clientPut 0 5]

def completion (pid : ℕ) : List StorageAction :=
  [.start pid (.complete 0), .advance pid true, .advance pid true, .advance pid true, .advance pid true]

def deletedAndRestored : List StorageAction :=
  presigned ++ completion 0 ++ ([.start 0 (.markDeleted 0), .advance 0 true, .advance 0 true] : List StorageAction) ++
    ([.start 0 (.restore 0), .advance 0 true, .advance 0 true] : List StorageAction)

/-- The counter has the five bytes. -/
theorem usage_exact_restored : ∃ t, run (step sampleConfig) emptyDesk deletedAndRestored = some t ∧
    t.media.objects.getTotalUsageBytes 1 = 5 ∧
    t.media.objects.getUsageForAgency 1 = t.media.objects.getTotalUsageBytes 1 := by
  obtain ⟨t, hrun, htotal⟩ := map_eq_some_iff.mp
    (by decide +kernel : (run (step sampleConfig) emptyDesk deletedAndRestored).map
      (fun t => t.media.objects.getTotalUsageBytes 1) = some 5)
  exact ⟨t, hrun, htotal, usage_exact emptyDesk_idle emptyDesk_exact (by decide +kernel) hrun 1⟩

/-- A second completion counts the bytes again. -/
theorem completed_twice_counted_twice :
    ∃ t, run (step sampleConfig) emptyDesk (presigned ++ completion 0 ++ completion 1) = some t ∧
      t.media.objects.getTotalUsageBytes 1 = 5 ∧ t.media.objects.getUsageForAgency 1 = 10 := by
  obtain ⟨t, hrun, hboth⟩ := map_eq_some_iff.mp
    (by decide +kernel : (run (step sampleConfig) emptyDesk (presigned ++ completion 0 ++ completion 1)).map
      (fun t => (t.media.objects.getTotalUsageBytes 1, t.media.objects.getUsageForAgency 1)) = some (5, 10))
  obtain ⟨htotal, husage⟩ := Prod.mk.inj hboth
  exact ⟨t, hrun, htotal, husage⟩

end StorageDesk

end ImmoApp.Storage
