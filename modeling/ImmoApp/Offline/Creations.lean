import ImmoApp.Foundation.Dependents
import ImmoApp.Offline.WellFormed

/-!
# The creations that are queued

A record that was created offline exists nowhere but in its queued creation.  A creation leaves the queue when it
arrives at the server, and when a call of the user drops it: a deletion of the record, a discard, or a generic
mutation under its deduplication key.  Deletion and discard take along the creations that depend on the dropped one
(`mem_queue_cancel`).

`step_creates_iff` says for every step which creations stay, `creates_finish` what the end of an attempt does to
them.
-/

namespace ImmoApp.Offline

open OfflineOperation List Prog

def Disk.Creates (d : Disk) (ref : OfflineEntityRef) : Prop := ∃ x ∈ d.queue, isCreateOf ref x = true

def DependsOn (op : OfflineOperation) (ref : OfflineEntityRef) : Prop := op.opType = .create ∧ ref ∈ op.parentRefs

instance (op : OfflineOperation) (ref : OfflineEntityRef) : Decidable (DependsOn op ref) := by
  unfold DependsOn
  infer_instance

abbrev DependentCreation (items : List OfflineOperation) (ref : OfflineEntityRef) : OfflineOperation → Prop :=
  Dependent DependsOn entity items ref

def Action.drops (s : Client) (x : OfflineOperation) : Action → Prop
  | .deleteEntity ref _ _ _ _ _ response _ =>
    (ref.localId < 0 ∨ response.isRetryable = true) ∧
      ∃ c ∈ s.disk.queue, isCreateOf ref c = true ∧ (x = c ∨ DependentCreation s.disk.queue ref x)
  | .genericMutation _ _ _ _ dedupeKey _ _ response _ =>
    response.isRetryable = true ∧ dedupeKey ≠ "" ∧ x.dedupeKey = dedupeKey
  | .discardIssue opId =>
    ∃ c ∈ s.disk.queue, c.opId = opId ∧ (x = c ∨ ((c.opType = .create ∧ c.localId < 0 ∧ c.entityType ≠ .generic) ∧
        DependentCreation s.disk.queue c.entity x))
  | _ => False

variable {d d' d'' : Disk} {x c op : OfflineOperation} {ref : OfflineEntityRef}

lemma creates_entity (hx : x ∈ d.queue) (hcreate : x.opType = .create) : d.Creates x.entity :=
  ⟨x, hx, isCreateOf_iff.mpr ⟨rfl, hcreate⟩⟩

/-! ### Programs that keep every creation -/

structure Keeps (d d' : Disk) : Prop where
  intact : d'.Intact
  creates : ∀ ref, d.Creates ref → d'.Creates ref

lemma Keeps.trans (h : Keeps d d') (h' : Keeps d' d'') : Keeps d d'' :=
  ⟨h'.intact, fun ref hd => h'.creates ref (h.creates ref hd)⟩

lemma Keeps.refl (h : d.Intact) : Keeps d d := ⟨h, fun _ hd => hd⟩

lemma Rewritten.creates_iff (h : Rewritten d d') : d'.Creates ref ↔ d.Creates ref := by
  obtain ⟨f, hf, hqueue⟩ := h.queue
  unfold Disk.Creates
  rw [hqueue]
  constructor
  · rintro ⟨y, hy, hcreate⟩
    obtain ⟨x, hx, rfl⟩ := mem_map.mp hy
    obtain ⟨hentity, htype⟩ := isCreateOf_iff.mp hcreate
    exact ⟨x, hx, isCreateOf_iff.mpr ⟨(hf x).entity.symm.trans hentity, (hf x).opType.symm.trans htype⟩⟩
  · rintro ⟨x, hx, hcreate⟩
    obtain ⟨hentity, htype⟩ := isCreateOf_iff.mp hcreate
    exact ⟨f x, mem_map_of_mem hx, isCreateOf_iff.mpr ⟨(hf x).entity.trans hentity, (hf x).opType.trans htype⟩⟩

lemma Rewritten.keeps (h : Rewritten d d') : Keeps d d' := ⟨h.intact, fun _ => h.creates_iff.mpr⟩

lemma Keeps.of_filter {p : OfflineOperation → Bool} (h : Step d (d.queue.filter p) d')
    (hp : ∀ x ∈ d.queue, x.opType = .create → p x = true) : Keeps d d' := by
  refine ⟨h.intact, fun ref hd => ?_⟩
  obtain ⟨x, hx, hcreate⟩ := hd
  refine ⟨x, ?_, hcreate⟩
  rw [h.queue]
  exact mem_filter.mpr ⟨hx, hp x hx (isCreateOf_iff.mp hcreate).2⟩

lemma Keeps.of_insert (h : Step d (insertOp op d.queue) d') (hop : ∀ x ∈ d.queue, x.opId ≠ op.opId) :
    Keeps d d' := by
  refine ⟨h.intact, fun ref hd => ?_⟩
  obtain ⟨x, hx, hcreate⟩ := hd
  refine ⟨x, ?_, hcreate⟩
  rw [h.queue]
  exact mem_insertOp.mpr (.inr ⟨hx, hop x hx⟩)

lemma Keeps.of_replace (hnodup : (d.queue.map opId).Nodup) (hc : c ∈ d.queue) (hkin : Kin c op)
    (h : Step d (insertOp op d.queue) d') : Keeps d d' := by
  refine ⟨h.intact, fun ref hd => ?_⟩
  obtain ⟨x, hx, hcreate⟩ := hd
  unfold Disk.Creates
  rw [h.queue]
  by_cases hid : x.opId = op.opId
  · have hxc : x = c := inj_on_of_nodup_map hnodup hx hc (hid.trans hkin.opId)
    obtain ⟨hentity, htype⟩ := isCreateOf_iff.mp hcreate
    rw [hxc] at hentity htype
    exact ⟨op, mem_insertOp.mpr (.inl rfl), isCreateOf_iff.mpr ⟨hkin.entity.trans hentity, hkin.opType.trans htype⟩⟩
  · exact ⟨x, mem_insertOp.mpr (.inr ⟨hx, hid⟩), hcreate⟩

lemma keeps_queueCreate (h : d.Intact) (accountKey : String) (r : OfflineCreateRequest) (opId : String) (now : ℕ)
    (hfresh : ∀ x ∈ d.queue, x.opId ≠ opId) : Keeps d ((queueCreate accountKey r opId now).exec d) := by
  have hstep := queueCreate_step h accountKey r opId now
  refine ⟨hstep.intact, fun ref hd => ?_⟩
  obtain ⟨x, hx, hcreate⟩ := hd
  refine ⟨x, ?_, hcreate⟩
  rw [hstep.queue]
  exact mem_insertOp.mpr (.inr ⟨hx, hfresh x hx⟩)

lemma keeps_queueUpdateOperation (h : Agrees d) (accountKey : String) (ref : OfflineEntityRef)
    (payload : Dict String Json) (dedupeKey opId : String) (now : ℕ) (hfresh : ∀ x ∈ d.queue, x.opId ≠ opId) :
    Keeps d ((queueUpdateOperation accountKey ref payload dedupeKey opId now).exec d) := by
  have hload := loadOps_exec h.intact
  have hagrees := h.loadOps
  have hkeep := (rewritten_loadOps h.intact).keeps
  have hmerge : ∀ {d₁ : Disk} {c : OfflineOperation}, Agrees d₁ → c ∈ d₁.queue →
      Keeps d₁ ((upsertOp (mergeFields (updateFields payload) now c)).exec (loadOps.exec d₁)) := by
    intro d₁ c h₁ hc
    have hstep := upsertOp_loadOps_step h₁.intact
      (isQueued_mergeFields (isQueued_of_mem_queue hc) (updateFields payload) now)
    exact Keeps.of_replace h₁.nodup_opId hc (rebodied_mergeFields _ _ _).kin hstep
  rcases queueUpdateOperation_cases h.intact accountKey ref payload dedupeKey opId now with
    ⟨c, hc, hexec⟩ | ⟨-, hexec⟩
  · rw [hexec]
    exact hmerge h (mem_of_find?_eq_some hc)
  · rw [hexec]
    refine hkeep.trans ?_
    rcases queueUpdateOfKnown_cases hagrees.intact accountKey ref payload dedupeKey opId now with
      ⟨item, hitem, -, hknown⟩ | ⟨item, conflict, -, -, hknown⟩ | ⟨-, hknown⟩
    · rw [hknown]
      exact hmerge hagrees (mem_of_find?_eq_some hitem)
    · rw [hknown]
      have hload' := rewritten_loadOps hagrees.intact
      exact (hload'.trans (rewritten_addConflict hload'.intact conflict)).keeps
    · rw [hknown]
      have hnew : (changeOperation accountKey ref .update payload dedupeKey opId now).isQueued = true := rfl
      refine Keeps.of_insert (upsertOp_loadOps_step hagrees.intact hnew) fun x hx => ?_
      rw [hload.queue] at hx
      exact hfresh x hx

/-! ### Programs that drop creations -/

/-- When exactly the operations with `p` stay, a creation is still queued exactly when it is one of them. -/
lemma creates_iff_of_mem_queue {p : OfflineOperation → Prop}
    (hunique : ∀ y ∈ d.queue, ∀ z ∈ d.queue, y.opType = .create → z.opType = .create → y.entity = z.entity → y = z)
    (hqueue : ∀ y, y ∈ d'.queue ↔ y ∈ d.queue ∧ p y) (hx : x ∈ d.queue) (hcreate : x.opType = .create) :
    d'.Creates x.entity ↔ p x := by
  constructor
  · rintro ⟨y, hy, hcreates⟩
    obtain ⟨hmem, hp⟩ := (hqueue y).mp hy
    obtain ⟨hentity, htype⟩ := isCreateOf_iff.mp hcreates
    rw [hunique x hx y hmem hcreate htype hentity.symm]
    exact hp
  · intro hp
    exact creates_entity ((hqueue x).mpr ⟨hx, hp⟩) hcreate

lemma cancelDependentsUpTo_queue (h : d.Intact) (depth : ℕ) (target : OfflineEntityRef) :
    ((cancelDependentsUpTo depth target).exec d).queue = cascade opId entity DependsOn depth target d.queue := by
  induction depth generalizing d target with
  | zero => rfl
  | succ depth ih =>
    have hload := loadOps_exec h
    have hloop : ∀ (xs : List OfflineOperation) {d : Disk}, d.Intact → ((Prog.forEach (fun item =>
            if item.opType = .create ∧ target ∈ item.parentRefs then do
              removeOp item.opId
              cancelDependentsUpTo depth item.entity
            else (pure () : JournalProg Unit)) xs).exec d).queue
          = xs.foldl (fun kept x => if DependsOn x target then
              cascade opId entity DependsOn depth x.entity (dropIdent opId x.opId kept) else kept) d.queue := by
      intro xs
      induction xs with
      | nil => exact fun _ => rfl
      | cons x _ hxs =>
        intro d hd
        rw [Prog.forEach, exec_bind, foldl_cons]
        by_cases hdep : x.opType = .create ∧ target ∈ x.parentRefs
        · have hremove := (removeOp_change hd x.opId).step
          have hcancel := cancelDependentsUpTo_shrinks hremove.intact depth x.entity
          rw [if_pos hdep, if_pos (show DependsOn x target from hdep), exec_bind, hxs hcancel.intact, ih
            hremove.intact, hremove.queue]
          rfl
        · rw [if_neg hdep, if_neg (show ¬ DependsOn x target from hdep), exec_pure, hxs hd]
    rw [cancelDependentsUpTo, exec_bind, loadOps_result h, hloop _ hload.present.intact, hload.queue]
    rfl

/-- A creation that is dropped takes exactly the creations along that depend on it. -/
theorem mem_queue_cancel (hnodup : (d.queue.map opId).Nodup) (hc : c ∈ d.queue) (hload : Shrinks d d')
    (hqueue : d'.queue = d.queue) :
    x ∈ ((cancelDependentTempCreates c.entity).exec ((removeOp c.opId).exec d')).queue ↔
      x ∈ d.queue ∧ x ≠ c ∧ ¬ DependentCreation d.queue c.entity x := by
  have hremove := (removeOp_change hload.intact c.opId).step
  have hexec : (cancelDependentTempCreates c.entity).exec ((removeOp c.opId).exec d')
      = (cancelDependentsUpTo (((removeOp c.opId).exec d').queue.length + 1) c.entity).exec
        ((removeOp c.opId).exec d') := by
    rw [← loadOps_result hremove.intact]
    rfl
  have hdropped : ((removeOp c.opId).exec d').queue = dropIdent opId c.opId d.queue := by
    rw [hremove.queue, hqueue]
    rfl
  rw [hexec, cancelDependentsUpTo_queue hremove.intact, hdropped]
  exact mem_cascade_dropIdent hc (Nat.lt_succ_self _) hnodup

/-- An operation under a new identity that creates nothing changes nothing about the creations. -/
lemma creates_of_insert (h : Step d (insertOp op d.queue) d') (hother : op.opType ≠ .create)
    (hop : ∀ x ∈ d.queue, x.opId ≠ op.opId) : d'.Creates ref ↔ d.Creates ref := by
  constructor
  · rintro ⟨y, hy, hcreate⟩
    rw [h.queue] at hy
    rcases mem_insertOp.mp hy with rfl | ⟨hy, -⟩
    · exact absurd (isCreateOf_iff.mp hcreate).2 hother
    · exact ⟨y, hy, hcreate⟩
  · exact (Keeps.of_insert h hop).creates ref

section Drops

variable (hunique : ∀ y ∈ d.queue, ∀ z ∈ d.queue, y.opType = .create → z.opType = .create →
  y.entity = z.entity → y = z)

include hunique

lemma creates_queueDeleteOperation (h : Agrees d) (accountKey : String) (ref : OfflineEntityRef)
    (payload : Dict String Json) (dedupeKey opId : String) (now : ℕ) (hfresh : ∀ x ∈ d.queue, x.opId ≠ opId)
    (hx : x ∈ d.queue) (hcreate : x.opType = .create) :
    ((queueDeleteOperation accountKey ref payload dedupeKey opId now).exec d).Creates x.entity ↔
      ¬ ∃ c ∈ d.queue, isCreateOf ref c = true ∧ (x = c ∨ DependentCreation d.queue ref x) := by
  have hload := loadOps_exec h.intact
  rw [queueDeleteOperation, exec_bind, findCreateForEntity_exec, findCreateForEntity_result h.intact]
  cases hfind : d.queue.find? (isCreateOf ref) with
  | some c =>
    have hc := mem_of_find?_eq_some hfind
    obtain ⟨rfl, htype⟩ := isCreateOf_iff.mp (find?_some hfind)
    simp only [exec_bind, exec_pure]
    rw [creates_iff_of_mem_queue hunique (fun y => mem_queue_cancel h.nodup_opId hc (loadOps_shrinks h.intact) hload.queue) hx
      hcreate, ← not_or, not_iff_not]
    constructor
    · exact fun hdrop => ⟨c, hc, isCreateOf_iff.mpr ⟨rfl, htype⟩, hdrop⟩
    · rintro ⟨c', hc', hcreate', hdrop⟩
      obtain ⟨hentity, htype'⟩ := isCreateOf_iff.mp hcreate'
      rw [hunique c' hc' c hc htype' htype hentity] at hdrop
      exact hdrop
  | none =>
    have hnone : ¬ ∃ c ∈ d.queue, isCreateOf ref c = true ∧ (x = c ∨ DependentCreation d.queue ref x) := by
      rintro ⟨c, hc, hcreate', -⟩
      exact find?_eq_none.mp hfind c hc hcreate'
    have hdrop := (dropOps_change hload.present.intact (isUpdateOf ref)).step
    have hkeep : Keeps (loadOps.exec d) ((dropOps (isUpdateOf ref)).exec (loadOps.exec d)) := by
      refine Keeps.of_filter hdrop fun y _ hy => ?_
      simp [isUpdateOf, hy]
    have hnew : (changeOperation accountKey ref .delete payload dedupeKey opId now).isQueued = true := rfl
    have hinsert := Keeps.of_insert (upsertOp_change hdrop.intact hnew).step fun y hy => by
      rw [hdrop.queue, hload.queue] at hy
      exact hfresh y (mem_filter.mp hy).1
    have hall := ((rewritten_loadOps h.intact).keeps.trans hkeep).trans hinsert
    simp only [queueDeleteOfKnown, exec_bind, exec_pure]
    exact iff_of_true (hall.creates _ (creates_entity hx hcreate)) hnone

lemma creates_queueGenericApiMutation (h : d.Intact) (accountKey method path : String)
    (body params : Dict String Json) (dedupeKey label opId : String) (now : ℕ)
    (hfresh : ∀ x ∈ d.queue, x.opId ≠ opId) (hx : x ∈ d.queue) (hcreate : x.opType = .create) :
    ((queueGenericApiMutation accountKey method path body params [] dedupeKey label opId now).exec d).Creates
        x.entity ↔ ¬ (dedupeKey ≠ "" ∧ x.dedupeKey = dedupeKey) := by
  have hother : (genericOperation accountKey method path body params [] dedupeKey label opId now).opType
      ≠ .create := opTypeOfMethod_ne_create _
  have hnew : (genericOperation accountKey method path body params [] dedupeKey label opId now).isQueued = true :=
    rfl
  rw [queueGenericApiMutation]
  by_cases hkey : dedupeKey = ""
  · rw [if_neg (by simpa using hkey),
      creates_of_insert (upsertOp_change h hnew).step hother hfresh]
    exact iff_of_true (creates_entity hx hcreate) fun hdrop => hdrop.1 hkey
  · rw [if_pos hkey, exec_bind]
    have hdrop := (dropOps_change h fun item => item.dedupeKey = dedupeKey).step
    have hfresh' : ∀ y ∈ ((dropOps fun item => item.dedupeKey = dedupeKey).exec d).queue, y.opId ≠ opId := by
      intro y hy
      rw [hdrop.queue] at hy
      exact hfresh y (mem_filter.mp hy).1
    have hmem : ∀ y, y ∈ ((dropOps fun item => item.dedupeKey = dedupeKey).exec d).queue ↔
        y ∈ d.queue ∧ ¬ y.dedupeKey = dedupeKey := by
      intro y
      rw [hdrop.queue, mem_filter]
      simp
    rw [creates_of_insert (upsertOp_change hdrop.intact hnew).step hother hfresh',
      creates_iff_of_mem_queue hunique hmem hx hcreate]
    exact not_congr ⟨fun hdedupe => ⟨hkey, hdedupe⟩, fun hdedupe => hdedupe.2⟩

lemma creates_discardOperation (h : Agrees d) (opId : String) (hx : x ∈ d.queue) (hcreate : x.opType = .create) :
    ((discardOperation opId).exec d).Creates x.entity ↔
      ¬ ∃ c ∈ d.queue, c.opId = opId ∧ (x = c ∨ ((c.opType = .create ∧ c.localId < 0 ∧ c.entityType ≠ .generic) ∧
        DependentCreation d.queue c.entity x)) := by
  have hload := loadOps_exec h.intact
  have hone : ∀ c ∈ d.queue, ∀ c' ∈ d.queue, c.opId = opId → c'.opId = opId → c' = c := by
    intro c hc c' hc' hid hid'
    exact inj_on_of_nodup_map h.nodup_opId hc' hc (hid'.trans hid.symm)
  have hresult : (getOperation opId).result d = d.queue.find? fun item => item.opId = opId := by
    unfold getOperation
    simp [loadOps_result h.intact]
  rw [discardOperation, exec_bind, getOperation_exec, hresult]
  cases hfind : d.queue.find? fun item => item.opId = opId with
  | none =>
    refine iff_of_true ((rewritten_loadOps h.intact).creates_iff.mpr (creates_entity hx hcreate)) ?_
    rintro ⟨c, hc, hid, -⟩
    exact absurd hid (by simpa using find?_eq_none.mp hfind c hc)
  | some c =>
    have hc := mem_of_find?_eq_some hfind
    obtain rfl : c.opId = opId := by simpa using find?_some hfind
    have hexists : ∀ p : OfflineOperation → Prop, (∃ c' ∈ d.queue, c'.opId = c.opId ∧ p c') ↔ p c := by
      intro p
      constructor
      · rintro ⟨c', hc', hid, hp⟩
        rwa [← hone c hc c' hc' rfl hid]
      · exact fun hp => ⟨c, hc, rfl, hp⟩
    rw [hexists]
    dsimp only
    rw [exec_bind]
    by_cases htemp : c.opType = .create ∧ c.localId < 0 ∧ c.entityType ≠ .generic
    · have hremove := removeOp_shrinks hload.present.intact c.opId
      have hcancel := cancelDependentTempCreates_shrinks hremove.intact c.entity
      rw [if_pos htemp]
      simp only [exec_bind, exec_pure]
      rw [(rewritten_refreshBlockedOperations hcancel.intact).creates_iff, creates_iff_of_mem_queue hunique
          (fun y => mem_queue_cancel h.nodup_opId hc (loadOps_shrinks h.intact) hload.queue) hx hcreate, ← not_or]
      exact not_congr (or_congr_right ⟨fun hdep => ⟨htemp, hdep⟩, fun hdep => hdep.2⟩)
    · have hremove := (removeOp_change hload.present.intact c.opId).step
      have hmem : ∀ y, y ∈ ((removeOp c.opId).exec (loadOps.exec d)).queue ↔ y ∈ d.queue ∧ ¬ y = c := by
        intro y
        rw [hremove.queue, hload.queue]
        exact mem_dropIdent (fun z hz w hw => inj_on_of_nodup_map h.nodup_opId hz hw) (List.Subset.refl _) hc
      rw [if_neg htemp]
      simp only [exec_bind, exec_pure]
      rw [(rewritten_refreshBlockedOperations hremove.intact).creates_iff,
        creates_iff_of_mem_queue hunique hmem hx hcreate]
      exact not_congr ⟨.inl, fun hdrop => hdrop.resolve_right fun hdep => htemp hdep.1⟩

end Drops

/-! ### Every step -/

variable {accountKey : String} {s t : Client} {a : Action}

section

variable (h : WellFormed s)
include h

lemma WellFormed.eq_of_entity {y z : OfflineOperation} (hy : y ∈ s.disk.queue)
    (hz : z ∈ s.disk.queue) (hcy : y.opType = .create) (hcz : z.opType = .create) (heq : y.entity = z.entity) :
    y = z := by
  have hid := h.unique y (mem_held_of_queue hy) z (mem_held_of_queue hz) hcy hcz heq
  exact inj_on_of_nodup_map h.agrees.nodup_opId hy hz hid

lemma WellFormed.opId_ne {opId : String} (hfresh : opId ∉ s.usedIds) : ∀ y ∈ s.disk.queue, y.opId ≠ opId := by
  rintro y hy rfl
  exact hfresh (h.used y (mem_held_of_queue hy))

lemma keeps_createEntity (r : OfflineCreateRequest) {opId : String} (response : ApiResponse)
    (now : ℕ) (hfresh : opId ∉ s.usedIds) :
    Keeps s.disk ((createEntity accountKey r opId response now).exec s.disk) := by
  have hqueue := keeps_queueCreate h.agrees.intact accountKey r opId now (h.opId_ne hfresh)
  unfold createEntity
  rw [exec_bind, exec_read]
  split
  · simp only [exec_bind, exec_pure]
    exact hqueue
  · split
    · simp only [exec_bind, exec_pure]
      exact hqueue
    · exact Keeps.refl h.agrees.intact

lemma keeps_updateEntity (ref : OfflineEntityRef) (path : String) (body : Dict String Json)
    (dedupeKey label : String) {opId : String} (response : ApiResponse) (now : ℕ) (hfresh : opId ∉ s.usedIds) :
    Keeps s.disk ((updateEntity accountKey ref path body dedupeKey label opId response now).exec s.disk) := by
  have hqueue := keeps_queueUpdateOperation h.agrees accountKey ref (updatePayload path body label) dedupeKey opId
    now (h.opId_ne hfresh)
  simp only [updateEntity]
  split
  · simp only [exec_bind, exec_pure]
    exact hqueue
  · split
    · simp only [exec_bind, exec_pure]
      exact hqueue
    · exact Keeps.refl h.agrees.intact

/-- Short of the end of an attempt, a creation stays queued exactly when the action does not drop it. -/
theorem step_creates_iff (hstep : s.step accountKey a = some t) (hfinish : ∀ now, a ≠ .finish now)
    (hx : x ∈ s.disk.queue) (hcreate : x.opType = .create) : t.disk.Creates x.entity ↔ ¬ a.drops s x := by
  have hintact := h.agrees.intact
  have hunique : ∀ y ∈ s.disk.queue, ∀ z ∈ s.disk.queue, y.opType = .create → z.opType = .create →
      y.entity = z.entity → y = z := fun y hy z hz => h.eq_of_entity hy hz
  have hqueued : s.disk.Creates x.entity := creates_entity hx hcreate
  have hkeeps : ∀ {d : Disk}, Keeps s.disk d → (d.Creates x.entity ↔ ¬ False) := fun hd =>
    iff_of_true (hd.creates _ hqueued) not_false
  obtain ⟨p, hp, rfl⟩ := Option.map_eq_some_iff.mp hstep
  rw [effect_disk hp]
  cases a with
  | createEntity request _ response now =>
    obtain ⟨hfresh, rfl⟩ := effect_fresh hp
    exact hkeeps (keeps_createEntity h request response now hfresh)
  | updateEntity ref path body dedupeKey label _ response now =>
    obtain ⟨hfresh, rfl⟩ := effect_fresh hp
    exact hkeeps (keeps_updateEntity h ref path body dedupeKey label response now hfresh)
  | deleteEntity ref path params dedupeKey label opId response now =>
    obtain ⟨hfresh, rfl⟩ := effect_fresh hp
    have hdelete := creates_queueDeleteOperation hunique h.agrees accountKey ref (deletePayload path params label)
      dedupeKey opId now (h.opId_ne hfresh) hx hcreate
    simp only [deleteEntity, Action.drops]
    by_cases hneg : ref.localId < 0
    · simp only [if_pos hneg, exec_bind, exec_pure]
      rw [hdelete]
      exact not_congr ⟨fun hdrop => ⟨.inl hneg, hdrop⟩, fun hdrop => hdrop.2⟩
    · by_cases hretry : response.isRetryable = true
      · simp only [if_neg hneg, if_pos hretry, exec_bind, exec_pure]
        rw [hdelete]
        exact not_congr ⟨fun hdrop => ⟨.inr hretry, hdrop⟩, fun hdrop => hdrop.2⟩
      · simp only [if_neg hneg, if_neg hretry, exec_pure]
        exact iff_of_true hqueued fun hdrop => hdrop.1.elim hneg hretry
  | genericMutation method path body params dedupeKey label opId response now =>
    obtain ⟨hfresh, rfl⟩ := effect_fresh hp
    simp only [genericMutation, Action.drops]
    by_cases hretry : response.isRetryable = true
    · simp only [if_pos hretry, exec_bind, exec_pure]
      rw [creates_queueGenericApiMutation hunique hintact accountKey method path body params dedupeKey label opId
        now (h.opId_ne hfresh) hx hcreate]
      exact not_congr ⟨fun hdrop => ⟨hretry, hdrop⟩, fun hdrop => hdrop.2⟩
    · simp only [if_neg hretry, exec_pure]
      exact iff_of_true hqueued fun hdrop => hretry hdrop.1
  | retryIssue opId now =>
    cases hp
    exact hkeeps (rewritten_retryIssue hintact opId now).keeps
  | discardIssue opId =>
    cases hp
    have hagrees := h.agrees.removeConflict opId
    unfold discardIssue
    simp only [exec_bind, exec_pure]
    exact creates_discardOperation (d := (removeConflict opId).exec s.disk) hunique hagrees opId hx hcreate
  | beginReplay =>
    simp only [Client.effect] at hp
    split at hp
    · cases hp
      rw [exec_bind, exec_pure]
      exact hkeeps (rewritten_refreshBlockedOperations hintact).keeps
    · cases hp
  | takeReady =>
    simp only [Client.effect] at hp
    split at hp
    · cases hp
      rw [exec_bind, exec_pure, listReadyOperations_exec]
      exact hkeeps (rewritten_loadOps hintact).keeps
    · cases hp
  | resolve =>
    simp only [Client.effect] at hp
    split at hp
    · next op ready hphase =>
      cases hp
      rw [exec_bind, exec_read, result_read]
      cases resolveRequestPayload s.disk op <;> exact hkeeps (Keeps.refl hintact)
    · cases hp
  | markSyncing now =>
    simp only [Client.effect] at hp
    split at hp
    · next op request ready hphase =>
      cases hp
      rw [exec_bind, exec_pure]
      exact hkeeps (rewritten_updateOperationStatus hintact op.opId rfl "" now).keeps
    · cases hp
  | send | receive _ =>
    simp only [Client.effect] at hp
    split at hp <;> cases hp <;> exact hkeeps (Keeps.refl hintact)
  | finish now => exact absurd rfl (hfinish now)
  | endReplay =>
    simp only [Client.effect] at hp
    split at hp
    · cases hp
      rw [exec_bind, exec_bind, exec_pure, pendingOperationCount_exec]
      have hrefresh := rewritten_refreshBlockedOperations hintact
      exact hkeeps (hrefresh.trans (rewritten_loadOps hrefresh.intact)).keeps
    · cases hp

end

/-! ### The end of an attempt -/

lemma creates_updateOperationStatus (h : d.Intact) (opId : String) (status : OpStatus) (lastError : String)
    (now : ℕ) (hx : x ∈ d.queue) (hcreate : x.opType = .create) (hid : x.opId ≠ opId) :
    ((updateOperationStatus opId status lastError now).exec d).Creates x.entity := by
  cases hstatus : status.isFinal with
  | false => exact (rewritten_updateOperationStatus h opId hstatus lastError now).creates_iff.mpr (creates_entity hx hcreate)
  | true =>
    have hstep := (updateOperationStatus_change_of_final h opId hstatus lastError now).step
    refine creates_entity ?_ hcreate
    rw [hstep.queue]
    exact mem_filter.mpr ⟨hx, by simpa using hid⟩

lemma creates_handlePermanentFailure (h : d.Intact) (op : OfflineOperation) (message : String) (now : ℕ)
    (hx : x ∈ d.queue) (hcreate : x.opType = .create) (hkin : x.opId = op.opId → Kin x op) :
    ((handlePermanentFailure op message now).exec d).Creates x.entity ∨
      (x.opId = op.opId ∧ x.entityType = .generic) := by
  unfold handlePermanentFailure
  by_cases hgeneric : op.entityType = .generic
  · simp only [if_pos hgeneric, handleGenericPermanentFailure, exec_bind, exec_pure]
    by_cases hid : x.opId = op.opId
    · have hentity : op.entityType = x.entityType := congrArg OfflineEntityRef.entityType (hkin hid).entity
      exact .inr ⟨hid, hentity ▸ hgeneric⟩
    · exact .inl (creates_updateOperationStatus h op.opId .cancelled message now hx hcreate hid)
  · simp only [if_neg hgeneric, exec_bind, exec_pure]
    exact .inl ((rewritten_handleReviewFailure h op message now).creates_iff.mpr (creates_entity hx hcreate))

/-- After an attempt a creation is still queued, unless it is the one that was attempted, and either arrived or is of
a generic record. -/
lemma creates_finishReplay (h : d.Intact) (op : OfflineOperation) (response : ApiResponse) (now : ℕ)
    (hx : x ∈ d.queue) (hcreate : x.opType = .create) (hkin : x.opId = op.opId → Kin x op) :
    ((finishReplay op response now).exec d).Creates x.entity ∨
      (x.opId = op.opId ∧ (x.entityType = .generic ∨ arrivedId op response ≠ none)) := by
  have hqueued : d.Creates x.entity := creates_entity hx hcreate
  have hpermanent : ∀ message, ((handlePermanentFailure op message now).exec d).Creates x.entity ∨
      (x.opId = op.opId ∧ (x.entityType = .generic ∨ arrivedId op response ≠ none)) := by
    intro message
    have hcases := creates_handlePermanentFailure h op message now hx hcreate hkin
    exact hcases.imp_right fun hdrop => ⟨hdrop.1, .inl hdrop.2⟩
  have hretryable : ∀ message, ((handleRetryableFailure op message now).exec d).Creates x.entity := fun message =>
    (rewritten_handleRetryableFailure h op message now).creates_iff.mpr hqueued
  cases response with
  | apiError _ message =>
    simp only [finishReplay]
    split
    · simp only [handleAuthBlock, exec_bind, exec_pure]
      exact .inl ((rewritten_updateOperationStatus h op.opId rfl "auth_required" now).creates_iff.mpr hqueued)
    · split
      · simp only [exec_bind, exec_pure]
        exact .inl (hretryable message)
      · exact hpermanent message
  | runtimeError message =>
    simp only [finishReplay, exec_bind, exec_pure]
    exact .inl (hretryable message)
  | notSent message =>
    simp only [finishReplay, exec_bind, exec_pure]
    exact .inl (hretryable message)
  | otherError message => exact hpermanent message
  | ok payload =>
    by_cases hid : x.opId = op.opId
    · obtain ⟨-, hentity, htype⟩ := hkin hid
      have hentityType : op.entityType = x.entityType := congrArg OfflineEntityRef.entityType hentity
      by_cases hgeneric : x.entityType = .generic
      · exact .inr ⟨hid, .inl hgeneric⟩
      · have hop : op.opType = .create ∧ op.entityType ≠ .generic :=
          ⟨htype.trans hcreate, fun h => hgeneric (hentityType ▸ h)⟩
        simp only [finishReplay, arrivedId, if_pos hop]
        cases hcreated : createdId (mappingDict (some payload)) with
        | error message =>
          simp only [exec_bind, exec_pure]
          exact .inl ((rewritten_handleReviewFailure h op message now).creates_iff.mpr hqueued)
        | ok => exact .inr ⟨hid, .inr (by simp [Except.toOption])⟩
    · -- whatever the response does, it is done to another operation
      have hstatus := fun d (h : Disk.Intact d) (hx : x ∈ d.queue) =>
        creates_updateOperationStatus h op.opId .applied "" now hx hcreate hid
      refine .inl ?_
      simp only [finishReplay]
      split
      · split
        · simp only [exec_bind, exec_pure]
          exact (rewritten_handleReviewFailure h op _ now).creates_iff.mpr hqueued
        · next serverId _ =>
          have hrecord : ((recordReconciledId op.entity serverId).exec d).Intact := h
          have hdrop := updateOperationStatus_step hrecord op.opId .applied "" now
          have hafter := rewritten_refreshBlockedOperations (rewritten_removeConflict hdrop.intact op.opId).intact
          simp only [exec_bind, exec_pure, applyCreateSuccess]
          exact hafter.creates_iff.mpr (hstatus _ hrecord hx)
      · simp only [exec_bind, exec_pure]
        exact hstatus d h hx

/-- The end of an attempt takes no creation from the queue but one that arrived, or one of a generic record. -/
theorem creates_finish (h : WellFormed s) {op : OfflineOperation} {request : ApiRequest} {response : ApiResponse}
    {ready : List OfflineOperation} {now : ℕ} (hphase : s.phase = .received op request response ready)
    (hstep : s.step accountKey (.finish now) = some t) (hx : x ∈ s.disk.queue) (hcreate : x.opType = .create) :
    t.disk.Creates x.entity ∨ (x.entity = op.entity ∧ arrivedId op response ≠ none) ∨ x.entityType = .generic := by
  have hop : op ∈ s.phase.copies := by
    rw [hphase]
    exact mem_cons_self
  have hkin : x.opId = op.opId → Kin x op := fun hid => (h.tied op hop x hx hid.symm).symm.kin
  obtain ⟨p, hp, rfl⟩ := Option.map_eq_some_iff.mp hstep
  rw [effect_disk hp]
  simp only [Client.effect, hphase, Option.some.injEq] at hp
  subst hp
  rw [exec_bind, exec_pure]
  rcases creates_finishReplay h.agrees.intact op response now hx hcreate hkin with hstays | ⟨hid, hgeneric | harrived⟩
  · exact .inl hstays
  · exact .inr (.inr hgeneric)
  · exact .inr (.inl ⟨(hkin hid).entity.symm, harrived⟩)

end ImmoApp.Offline
