import ImmoApp.Offline.Projections

/-!
# Deletions with their projections

`queue_delete_operation` of a record whose creation is queued, and `discard_operation` of a queued creation, drop the
creation, the creations that depend on it, and the projections of all of them.  The recursion reads the journal anew at
every level.

`delete_cascade`: exactly the creation and its dependents go, and exactly their projections; the other operations stay
in their order.  A discard also releases those that were blocked although their parents are resolved.
-/

namespace ImmoApp.Offline

open Prog
open Bool hiding not_or

open OfflineOperation List

namespace Account

/-- `_cancel_dependent_temp_creates`, with a bound on the depth of the recursion. -/
def cancelDependentsUpTo : ℕ → OfflineEntityRef → AccountProg Unit
  | 0, _ => pure ()
  | depth + 1, target => do
    let items ← onJournal loadOps
    Prog.forEach (fun item =>
        if item.opType = .create ∧ target ∈ item.parentRefs then do
          onJournal (removeOp item.opId)
          onProjections (ProjectionStore.remove item.entity)
          cancelDependentsUpTo depth item.entity
        else pure ())
      items

/-- `_cancel_dependent_temp_creates`: each level starts from a queue that has lost an operation of the level above. -/
def cancelDependentTempCreates (target : OfflineEntityRef) : AccountProg Unit :=
  fun s => cancelDependentsUpTo ((loadOps.result s.disk).length + 1) target s

def queueDeleteOperation (accountKey : String) (ref : OfflineEntityRef) (payload : Dict String Json)
    (dedupeKey opId : String) (now : ℕ) : AccountProg (Option OfflineOperation) := do
  match ← onJournal (findCreateForEntity ref) with
  | some createOp => do
    onJournal (removeOp createOp.opId)
    onProjections (ProjectionStore.remove ref)
    cancelDependentTempCreates ref
    pure none
  | none => onJournal (queueDeleteOfKnown accountKey ref payload dedupeKey opId now)

def discardOperation (opId : String) : AccountProg Unit := do
  match ← onJournal (getOperation opId) with
  | none => pure ()
  | some op => do
    onJournal (removeOp opId)
    if op.entityType ≠ .generic then onProjections (ProjectionStore.remove op.entity) else pure ()
    if op.opType = .create ∧ op.localId < 0 ∧ op.entityType ≠ .generic then cancelDependentTempCreates op.entity
    else pure ()
    let _ ← onJournal refreshBlockedOperations
    pure ()

/-! ### The journal -/

section Journal

variable {s : AccountFiles}

lemma disk_cancelDependentsUpTo (depth : ℕ) (target : OfflineEntityRef) (s : AccountFiles) :
    ((cancelDependentsUpTo depth target).exec s).disk = (Offline.cancelDependentsUpTo depth target).exec s.disk := by
  induction depth generalizing target s with
  | zero => rfl
  | succ depth ih =>
    have hloop : ∀ (xs : List OfflineOperation) (s : AccountFiles), ((Prog.forEach (fun item =>
            if item.opType = .create ∧ target ∈ item.parentRefs then do
              onJournal (removeOp item.opId)
              onProjections (ProjectionStore.remove item.entity)
              cancelDependentsUpTo depth item.entity
            else (pure () : AccountProg Unit)) xs).exec s).disk
          = (Prog.forEach (fun item =>
            if item.opType = .create ∧ target ∈ item.parentRefs then do
              removeOp item.opId
              Offline.cancelDependentsUpTo depth item.entity
            else (pure () : JournalProg Unit)) xs).exec s.disk := by
      intro xs
      induction xs with
      | nil => exact fun _ => rfl
      | cons x _ hxs =>
        intro s
        rw [Prog.forEach, Prog.forEach, exec_bind, exec_bind, hxs]
        by_cases hdep : x.opType = .create ∧ target ∈ x.parentRefs
        · rw [if_pos hdep, if_pos hdep]
          simp only [exec_bind, exec_onJournal, exec_onProjections, ih]
        · rw [if_neg hdep, if_neg hdep]
          rfl
    rw [cancelDependentsUpTo, Offline.cancelDependentsUpTo, exec_bind, exec_bind, exec_onJournal,
      result_onJournal, hloop]

lemma disk_cancelDependentTempCreates (target : OfflineEntityRef) (s : AccountFiles) :
    ((cancelDependentTempCreates target).exec s).disk = (Offline.cancelDependentTempCreates target).exec s.disk :=
  disk_cancelDependentsUpTo _ target s

/-- A deletion does to the journal what it does without the projections. -/
theorem disk_queueDeleteOperation (accountKey : String) (ref : OfflineEntityRef) (payload : Dict String Json)
    (dedupeKey opId : String) (now : ℕ) (s : AccountFiles) :
    ((queueDeleteOperation accountKey ref payload dedupeKey opId now).exec s).disk
      = (Offline.queueDeleteOperation accountKey ref payload dedupeKey opId now).exec s.disk := by
  rw [queueDeleteOperation, Offline.queueDeleteOperation, exec_bind, exec_bind, result_onJournal, exec_onJournal]
  cases (findCreateForEntity ref).result s.disk with
  | none => rw [exec_onJournal]
  | some =>
    simp only [exec_bind, exec_onJournal, exec_onProjections, exec_pure, disk_cancelDependentTempCreates]

theorem disk_discardOperation (opId : String) (s : AccountFiles) :
    ((discardOperation opId).exec s).disk = (Offline.discardOperation opId).exec s.disk := by
  rw [discardOperation, Offline.discardOperation, exec_bind, exec_bind, result_onJournal, exec_onJournal]
  cases (getOperation opId).result s.disk with
  | none => rfl
  | some op =>
    by_cases hgeneric : op.entityType = .generic
    · simp [hgeneric]
    · by_cases htemp : op.opType = .create ∧ op.localId < 0
      · simp [hgeneric, htemp, disk_cancelDependentTempCreates]
      · simp [hgeneric, if_neg htemp]

lemma uploads_cancelDependentsUpTo (depth : ℕ) (target : OfflineEntityRef) (s : AccountFiles) :
    ((cancelDependentsUpTo depth target).exec s).uploads = s.uploads := by
  induction depth generalizing target s with
  | zero => rfl
  | succ _ ih =>
    rw [cancelDependentsUpTo, exec_bind]
    refine exec_forEach_induction (P := fun t : AccountFiles => t.uploads = s.uploads) _ _
      (fun item _ t ht => ?_) (by rw [exec_onJournal])
    split
    · simp only [exec_bind, exec_onJournal, exec_onProjections, ih]
      exact ht
    · exact ht

end Journal

/-! ### The projections -/

/-- An operation on the record has left the queue. -/
def gone (items kept : List OfflineOperation) (ref : OfflineEntityRef) : Bool :=
  items.any fun x => x.entity = ref ∧ x ∉ kept

section Projections

variable {s : AccountFiles} {items kept kept' : List OfflineOperation} {x c : OfflineOperation}
  {ref : OfflineEntityRef}

lemma gone_iff : gone items kept ref = true ↔ ∃ x ∈ items, x.entity = ref ∧ x ∉ kept := by
  simp [gone]

/-- When `x` leaves the queue, and after it others, the records without an operation are those that were without one
before, that of `x`, and those of the others. -/
lemma gone_step (hnodup : (items.map opId).Nodup) (hsub : kept ⊆ items) (hx : x ∈ items)
    (hless : kept' ⊆ dropIdent opId x.opId kept) :
    gone items kept' ref = (gone items kept ref || decide (ref = x.entity) ||
      gone (dropIdent opId x.opId kept) kept' ref) := by
  have hdrop : ∀ y, y ∈ dropIdent opId x.opId kept ↔ y ∈ kept ∧ y ≠ x := fun y =>
    mem_dropIdent (fun z hz w hw => inj_on_of_nodup_map hnodup hz hw) hsub hx
  have hkept : kept' ⊆ kept := fun y hy => ((hdrop y).mp (hless hy)).1
  rw [Bool.eq_iff_iff, Bool.or_eq_true, Bool.or_eq_true, decide_eq_true_eq, gone_iff, gone_iff, gone_iff]
  constructor
  · rintro ⟨y, hy, hentity, hgone⟩
    by_cases hyk : y ∈ kept
    · by_cases hyx : y = x
      · exact .inl (.inr (by rw [← hentity, hyx]))
      · exact .inr ⟨y, (hdrop y).mpr ⟨hyk, hyx⟩, hentity, hgone⟩
    · exact .inl (.inl ⟨y, hy, hentity, hyk⟩)
  · rintro ((⟨y, hy, hentity, hgone⟩ | hentity) | ⟨y, hy, hentity, hgone⟩)
    · exact ⟨y, hy, hentity, fun h => hgone (hkept h)⟩
    · exact ⟨x, hx, hentity.symm, fun h => ((hdrop x).mp (hless h)).2 rfl⟩
    · exact ⟨y, hsub ((hdrop y).mp hy).1, hentity, hgone⟩

lemma entries_remove (ref : OfflineEntityRef) (store : ProjectionStore) :
    (store.remove ref).rows.entries = store.rows.entries.filter fun e => !decide (e.1 = ref) := by
  refine filter_congr fun e _ => ?_
  rfl

/-- Operations only left the queue, and exactly their projections are gone. -/
structure Dropped (s t : AccountFiles) : Prop where
  shrinks : Shrinks s.disk t.disk
  entries : t.projections.rows.entries
    = s.projections.rows.entries.filter fun e => !gone s.disk.queue t.disk.queue e.1

lemma gone_self (items : List OfflineOperation) (ref : OfflineEntityRef) : gone items items ref = false := by
  rw [eq_false_iff, ne_eq, gone_iff]
  exact fun ⟨x, hx, _, hgone⟩ => hgone hx

lemma dropped_of_queue_eq {t : AccountFiles} (h : Shrinks s.disk t.disk) (hqueue : t.disk.queue = s.disk.queue)
    (hprojections : t.projections = s.projections) : Dropped s t := by
  refine ⟨h, ?_⟩
  rw [hqueue, hprojections]
  exact (filter_eq_self.mpr fun e _ => by rw [gone_self, Bool.not_false]).symm

lemma Dropped.step {t t' u : AccountFiles} (hnodup : (s.disk.queue.map opId).Nodup) (h : Dropped s t)
    (hx : x ∈ s.disk.queue) (hqueue : t'.disk.queue = dropIdent opId x.opId t.disk.queue)
    (hshrinks : Shrinks t.disk t'.disk) (hprojections : t'.projections = t.projections.remove x.entity)
    (hrest : Dropped t' u) : Dropped s u := by
  refine ⟨h.shrinks.trans (hshrinks.trans hrest.shrinks), ?_⟩
  have hless : u.disk.queue ⊆ dropIdent opId x.opId t.disk.queue := by
    rw [← hqueue]
    exact hrest.shrinks.queue.subset
  rw [hrest.entries, hprojections, entries_remove, h.entries, filter_filter, filter_filter, hqueue]
  refine filter_congr fun e _ => ?_
  rw [gone_step hnodup h.shrinks.queue.subset hx hless]
  simp only [Bool.not_or]
  cases gone s.disk.queue t.disk.queue e.1 <;> cases decide (e.1 = x.entity) <;> simp

/-- The recursion drops the projections of the records whose operations it drops, and no others. -/
lemma dropped_cancelDependentsUpTo (h : s.disk.Intact) (hnodup : (s.disk.queue.map opId).Nodup) (depth : ℕ)
    (target : OfflineEntityRef) : Dropped s ((cancelDependentsUpTo depth target).exec s) := by
  induction depth generalizing s target with
  | zero => exact dropped_of_queue_eq (Shrinks.refl h) rfl rfl
  | succ _ ih =>
    have hload := loadOps_exec h
    rw [cancelDependentsUpTo, exec_bind, exec_onJournal, result_onJournal, loadOps_result h]
    refine exec_forEach_induction (P := Dropped s) _ _ (fun x hx t ht => ?_)
      (dropped_of_queue_eq (loadOps_shrinks h) hload.queue rfl)
    split
    · have hstep := (removeOp_change ht.shrinks.intact x.opId).step
      have hremove := removeOp_shrinks ht.shrinks.intact x.opId
      simp only [exec_bind, exec_onJournal, exec_onProjections]
      refine ht.step hnodup hx hstep.queue hremove rfl (ih hremove.intact ?_ x.entity)
      exact hnodup.sublist ((hremove.queue.trans ht.shrinks.queue).map _)
    · exact ht

lemma get?_of_entries_filter {store store' : ProjectionStore} {p : OfflineEntityRef → Bool}
    (h : store'.rows.entries = store.rows.entries.filter fun e => p e.1) (ref : OfflineEntityRef) :
    store'.get? ref = if p ref = true then store.get? ref else none := by
  have hrow : store'.get? ref = Dict.get? (store.rows.entries.filter fun e => p e.1) ref := by
    rw [← h]
    rfl
  rw [hrow]
  split
  · next hp => exact Dict.get?_filter p store.rows.entries hp
  · next hp =>
    refine Dict.get?_eq_none_iff.mpr fun e he heq => hp ?_
    rw [← heq]
    exact (mem_filter.mp he).2

end Projections

/-! ### The cascade -/

/-- The operation goes when a creation is dropped. -/
def GoesWith (items : List OfflineOperation) (c x : OfflineOperation) : Prop :=
  x = c ∨ DependentCreation items c.entity x

/-- The creation and its dependents are gone with their projections, and nothing else is. -/
structure RemovesExactly (s t : AccountFiles) (kept : List OfflineOperation) (c : OfflineOperation) : Prop where
  order : kept.Sublist s.disk.queue
  queue : ∀ x, x ∈ kept ↔ x ∈ s.disk.queue ∧ ¬GoesWith s.disk.queue c x
  rows : t.projections.rows.entries.Sublist s.projections.rows.entries
  /-- The projections of the operations that go are gone. -/
  removed : ∀ x ∈ s.disk.queue, GoesWith s.disk.queue c x → t.projections.get? x.entity = none
  others : ∀ ref, (∀ x ∈ s.disk.queue, GoesWith s.disk.queue c x → x.entity ≠ ref) →
    t.projections.get? ref = s.projections.get? ref

section Cascade

variable {s : AccountFiles} {c : OfflineOperation}

def dropCreation (c : OfflineOperation) (s : AccountFiles) : AccountFiles :=
  { s with
    disk := (removeOp c.opId).exec (loadOps.exec s.disk)
    projections := s.projections.remove c.entity }

lemma exec_cancelDependentTempCreates (target : OfflineEntityRef) (s : AccountFiles) :
    (cancelDependentTempCreates target).exec s =
      (cancelDependentsUpTo ((loadOps.result s.disk).length + 1) target).exec s := rfl

lemma removesExactly_cancel (h : s.disk.Intact) (hnodup : (s.disk.queue.map opId).Nodup) (hc : c ∈ s.disk.queue) :
    let u := (cancelDependentTempCreates c.entity).exec (dropCreation c s)
    Shrinks s.disk u.disk ∧ RemovesExactly s u u.disk.queue c := by
  intro u
  have hu : u = (cancelDependentTempCreates c.entity).exec (dropCreation c s) := rfl
  have hload := loadOps_exec h
  have hloaded := loadOps_shrinks h
  have hremove := removeOp_shrinks hload.present.intact c.opId
  have hqueue : ∀ x, x ∈ u.disk.queue ↔ x ∈ s.disk.queue ∧ ¬GoesWith s.disk.queue c x := by
    intro x
    have hmem := mem_queue_cancel (x := x) hnodup hc hloaded hload.queue
    rw [GoesWith, not_or, ← hmem]
    exact iff_of_eq (congrArg (fun d : Disk => x ∈ d.queue) (disk_cancelDependentTempCreates c.entity (dropCreation c s)))
  have hdropped : Dropped s u := by
    have hstart : Dropped s { s with disk := loadOps.exec s.disk } := dropped_of_queue_eq hloaded hload.queue rfl
    have hnodup' : ((dropCreation c s).disk.queue.map opId).Nodup :=
      hnodup.sublist ((hremove.queue.trans hloaded.queue).map _)
    have hrest : Dropped (dropCreation c s) u := by
      rw [hu, exec_cancelDependentTempCreates]
      exact dropped_cancelDependentsUpTo hremove.intact hnodup' _ c.entity
    exact hstart.step hnodup hc (removeOp_change hload.present.intact c.opId).step.queue hremove rfl hrest
  have hgone : ∀ ref, gone s.disk.queue u.disk.queue ref = true ↔
      ∃ x ∈ s.disk.queue, x.entity = ref ∧ GoesWith s.disk.queue c x := by
    intro ref
    rw [gone_iff]
    refine exists_congr fun x => and_congr_right fun hx => and_congr_right fun _ => ?_
    rw [hqueue, not_and_not_right]
    exact ⟨fun himp => himp hx, fun hgoes _ => hgoes⟩
  have hget := get?_of_entries_filter (p := fun ref => !gone s.disk.queue u.disk.queue ref) hdropped.entries
  refine ⟨hdropped.shrinks, hdropped.shrinks.queue, hqueue, ?_, fun x hx hgoes => ?_, fun ref hother => ?_⟩
  · rw [hdropped.entries]
    exact filter_sublist
  · rw [hget, (hgone x.entity).mpr ⟨x, hx, rfl, hgoes⟩]
    rfl
  · have hkept : gone s.disk.queue u.disk.queue ref = false := by
      rw [eq_false_iff, ne_eq, hgone]
      exact fun ⟨x, hx, hentity, hgoes⟩ => hother x hx hgoes hentity
    rw [hget, hkept]
    rfl

lemma intact_of_result_ne_nil {d : Disk} (h : loadOps.result d ≠ []) : d.Intact := by
  intro hcorrupt
  refine h ?_
  rw [Prog.result, loadOps_of_unparseable hcorrupt]

lemma cancelDependentsUpTo_depth (hnodup : ((loadOps.result s.disk).map opId).Nodup) (target : OfflineEntityRef)
    {depth : ℕ} (hdepth : (loadOps.result s.disk).length < depth) :
    (cancelDependentsUpTo depth target).exec s = (cancelDependentTempCreates target).exec s := by
  rw [exec_cancelDependentTempCreates]
  by_cases h : s.disk.Intact
  · have hlength : (loadOps.result s.disk).length = s.disk.queue.length := by rw [loadOps_result h]
    rw [loadOps_result h] at hnodup
    have hdisk : ((cancelDependentsUpTo depth target).exec s).disk
        = ((cancelDependentsUpTo ((loadOps.result s.disk).length + 1) target).exec s).disk := by
      have hsame := Offline.cancelDependentsUpTo_depth h (m := depth) (n := (loadOps.result s.disk).length + 1)
        (by omega) (by omega) target
      rw [disk_cancelDependentsUpTo, disk_cancelDependentsUpTo, Prog.exec, Prog.exec, Prog.trail, Prog.trail, hsame]
    refine AccountFiles.ext hdisk (ProjectionStore.eq_of_entries_eq ?_) ?_
    · rw [(dropped_cancelDependentsUpTo h hnodup depth target).entries,
        (dropped_cancelDependentsUpTo h hnodup _ target).entries, hdisk]
    · rw [uploads_cancelDependentsUpTo, uploads_cancelDependentsUpTo]
  · have hempty : loadOps.result s.disk = [] := by
      by_contra hne
      exact h (intact_of_result_ne_nil hne)
    obtain ⟨depth, rfl⟩ : ∃ k, depth = k + 1 := ⟨depth - 1, by omega⟩
    rw [cancelDependentsUpTo, cancelDependentsUpTo, exec_bind, exec_bind, result_onJournal, hempty]
    rfl

lemma removesExactly_of_kept {t t' : AccountFiles} {kept : List OfflineOperation} (h : RemovesExactly s t kept c)
    (hprojections : t'.projections = t.projections) : RemovesExactly s t' kept c where
  order := h.order
  queue := h.queue
  rows := hprojections ▸ h.rows
  removed := hprojections ▸ h.removed
  others := hprojections ▸ h.others

end Cascade

/-- A deletion of a record whose creation is queued, and a discard of the creation of a temporary record: exactly the
creation and what depends on it are gone, with their projections.  What stays keeps its order; a discard releases the
blocked operations among it whose parents are resolved.  The recursion comes to its end. -/
theorem delete_cascade (s : AccountFiles) (hnodup : ((loadOps.result s.disk).map opId).Nodup) :
    (∀ accountKey ref payload dedupeKey opId now c t, (findCreateForEntity ref).result s.disk = some c →
      t = (queueDeleteOperation accountKey ref payload dedupeKey opId now).exec s →
      RemovesExactly s t t.disk.queue c) ∧
    (∀ opId c t, (getOperation opId).result s.disk = some c →
      c.opType = .create → c.localId < 0 → c.entityType ≠ .generic → t = (discardOperation opId).exec s →
      ∃ kept, RemovesExactly s t kept c ∧ t.disk.queue = kept.map (normalizeOperation s.disk)) ∧
    ∀ target depth, (loadOps.result s.disk).length < depth →
      (cancelDependentsUpTo depth target).exec s = (cancelDependentTempCreates target).exec s := by
  refine ⟨?_, ?_, fun target depth hdepth => cancelDependentsUpTo_depth hnodup target hdepth⟩
  · intro accountKey ref payload dedupeKey opId now c t hfind ht
    have hmem : c ∈ loadOps.result s.disk ∧ isCreateOf ref c = true := by
      unfold findCreateForEntity at hfind
      exact ⟨mem_of_find?_eq_some hfind, find?_some hfind⟩
    have h := intact_of_result_ne_nil (ne_nil_of_mem hmem.1)
    rw [loadOps_result h] at hnodup hmem
    have hentity : c.entity = ref := (isCreateOf_iff.mp hmem.2).1
    have hexec : t = (cancelDependentTempCreates c.entity).exec (dropCreation c s) := by
      simp only [ht, queueDeleteOperation, exec_bind, result_onJournal, hfind, exec_onJournal,
        exec_onProjections, findCreateForEntity_exec, exec_pure, hentity, dropCreation]
    rw [hexec]
    exact (removesExactly_cancel h hnodup hmem.1).2
  · intro opId c t hfind htype hneg hgeneric ht
    have hmem : c ∈ loadOps.result s.disk ∧ c.opId = opId := by
      unfold getOperation at hfind
      exact ⟨mem_of_find?_eq_some hfind, by simpa using find?_some hfind⟩
    have h := intact_of_result_ne_nil (ne_nil_of_mem hmem.1)
    rw [loadOps_result h] at hnodup hmem
    obtain ⟨hshrinks, hremoves⟩ := removesExactly_cancel h hnodup hmem.1
    have hexec : t = (onJournal refreshBlockedOperations).exec
        ((cancelDependentTempCreates c.entity).exec (dropCreation c s)) := by
      simp only [ht, discardOperation, exec_bind, result_onJournal, hfind, exec_onJournal,
        exec_onProjections, getOperation_exec, if_pos hgeneric, exec_pure, hmem.2, dropCreation,
        if_pos (And.intro htype (And.intro hneg hgeneric))]
    rw [hexec]
    refine ⟨_, removesExactly_of_kept hremoves ?_, ?_⟩
    · rw [exec_onJournal]
    · rw [exec_onJournal, (refreshBlockedOperations_step hshrinks.intact).queue, hshrinks.ids.normalizeOperation]

def sampleCalls : List ApiCall :=
  [.queueCreate ⟨.listing, -1⟩ [] [] "" "op-a" 1, .queueCreate ⟨.offer, -1⟩ [] [⟨.listing, -1⟩] "" "op-b" 2,
    .queueCreate ⟨.visit, -1⟩ [] [⟨.client, 7⟩, ⟨.listing, -1⟩] "" "op-c" 3,
    .queueCreate ⟨.contract, -1⟩ [] [⟨.offer, -1⟩, ⟨.visit, -1⟩] "" "op-d" 4,
    .queueCreate ⟨.demande, -1⟩ [] [⟨.client, -2⟩] "" "op-e" 5,
    .recordReconciled ⟨.client, -2⟩ 99]

def sampleFiles : AccountFiles where
  disk := runCalls "account" sampleCalls Disk.empty
  projections :=
    (ProjectionStore.empty.upsert ⟨.listing, -1, none, [("id", .int (-1))], "pending", "", true⟩).upsert
      ⟨.demande, -1, none, [("id", .int (-1))], "blocked", "", true⟩
  uploads := []

/-- The listing takes the offer, the visit and the contract along, whichever way it goes. -/
theorem delete_cascade_diamond : ∃ c,
    RemovesExactly sampleFiles ((queueDeleteOperation "account" ⟨.listing, -1⟩ [] "" "op-f" 6).exec sampleFiles)
        ((queueDeleteOperation "account" ⟨.listing, -1⟩ [] "" "op-f" 6).exec sampleFiles).disk.queue c ∧
      ∃ kept, RemovesExactly sampleFiles ((discardOperation "op-a").exec sampleFiles) kept c ∧
        ((discardOperation "op-a").exec sampleFiles).disk.queue = kept.map (normalizeOperation sampleFiles.disk) := by
  have hnodup : ((loadOps.result sampleFiles.disk).map opId).Nodup := by decide +kernel
  have hcascade := delete_cascade sampleFiles hnodup
  refine ⟨createOperation "account" ⟨.listing, -1⟩ [] [] "" "op-a" 1 .pending, ?_, ?_⟩
  · exact hcascade.1 "account" ⟨.listing, -1⟩ [] "" "op-f" 6 _ _ (by decide +kernel) rfl
  · exact hcascade.2.1 "op-a" _ _ (by decide +kernel) rfl (by decide) (by decide) rfl

/-- A discard of the listing also changes the demande, which it has nothing to do with. -/
theorem discard_releases_blocked : ∃ c x, (getOperation "op-a").result sampleFiles.disk = some c ∧
    c.opType = .create ∧ c.localId < 0 ∧ c.entityType ≠ .generic ∧
    x ∈ sampleFiles.disk.queue ∧ ¬GoesWith sampleFiles.disk.queue c x ∧
    x ∉ ((discardOperation "op-a").exec sampleFiles).disk.queue := by
  refine ⟨createOperation "account" ⟨.listing, -1⟩ [] [] "" "op-a" 1 .pending,
    createOperation "account" ⟨.demande, -1⟩ [] [⟨.client, -2⟩] "" "op-e" 5 .blocked, by decide +kernel, rfl,
    by decide, by decide, by decide +kernel, ?_, by decide +kernel⟩
  rintro (heq | hdep)
  · exact absurd (congrArg OfflineOperation.entityType heq) (by decide)
  · have hnoclient : ∀ y ∈ sampleFiles.disk.queue, y.entity ≠ ⟨.client, -2⟩ := by decide +kernel
    cases hdep with
    | direct _ hneeds => exact absurd hneeds.2 (by decide)
    | through hy _ hneeds => exact hnoclient _ hy.mem (mem_singleton.mp hneeds.2)

end Account

end ImmoApp.Offline
