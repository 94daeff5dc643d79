import ImmoApp.Offline.Moves

/-!
# The client's operations and copies

The structural invariant of the client, which holds in every reachable state.  The journal agrees with the log;
identities are those that were drawn; every queued creation stands for a record of its own, whose temporary id was
handed out; and a copy the replay holds differs from its queued operation at most in the body and the bookkeeping.

Copies of creations are up to date only as long as no update is merged into one (`CopiesCurrent.step`).
-/

namespace ImmoApp.Offline

open OfflineOperation List

def Client.held (s : Client) : List OfflineOperation := s.disk.queue ++ s.phase.copies

structure Kin (x y : OfflineOperation) : Prop where
  opId : y.opId = x.opId
  entity : y.entity = x.entity
  opType : y.opType = x.opType

lemma Kin.refl (x : OfflineOperation) : Kin x x := ⟨rfl, rfl, rfl⟩

variable {x y : OfflineOperation} {s t : Client} {accountKey : String} {a : Action}

lemma Touched.kin (h : Touched x y) : Kin x y :=
  ⟨h.opId, h.entity, h.opType⟩

lemma Rebodied.kin (h : Rebodied x y) : Kin x y :=
  ⟨h.opId, h.entity, h.opType⟩

lemma Rebodied.refl (x : OfflineOperation) : Rebodied x x := ⟨rfl, rfl, rfl, fun _ _ => rfl⟩

lemma Touched.rebodied (h : Touched x y) : Rebodied x y :=
  ⟨h.opId, h.entity, h.opType, fun k _ => by rw [h.payload]⟩

lemma Rebodied.trans {z : OfflineOperation} (h : Rebodied x y) (h' : Rebodied y z) :
    Rebodied x z :=
  ⟨h'.opId.trans h.opId, h'.entity.trans h.entity, h'.opType.trans h.opType,
    fun k hk => (h'.payload k hk).trans (h.payload k hk)⟩

lemma Rebodied.symm (h : Rebodied x y) : Rebodied y x :=
  ⟨h.opId.symm, h.entity.symm, h.opType.symm, fun k hk => (h.payload k hk).symm⟩

structure WellFormed (s : Client) : Prop where
  agrees : Agrees s.disk
  used : ∀ x ∈ s.held, x.opId ∈ s.usedIds
  nodup : (s.phase.copies.map OfflineOperation.opId).Nodup
  /-- The record of a creation has a temporary id that was handed out. -/
  allocated : ∀ x ∈ s.held, x.opType = .create → s.disk.lastTempId x.entityType ≤ x.localId ∧ x.localId < 0
  unique : ∀ x ∈ s.held, ∀ y ∈ s.held, x.opType = .create → y.opType = .create → x.entity = y.entity → x.opId = y.opId
  /-- A copy is the queued operation up to its body. -/
  tied : ∀ x ∈ s.phase.copies, ∀ y ∈ s.disk.queue, x.opId = y.opId → Rebodied x y
  attempt : ∀ op req, s.phase.attempt = some (op, req) → op ∈ s.phase.copies

lemma wellFormed_init : WellFormed Client.init where
  agrees := agrees_empty
  used := by simp [Client.held, Client.init, Phase.copies, Disk.queue, Disk.empty, JsonFile.events,
    replayLog, EventLog.replay, EventLog.activeAfter]
  nodup := by simp [Client.init, Phase.copies]
  allocated := by simp [Client.held, Client.init, Phase.copies, Disk.queue, Disk.empty,
    JsonFile.events, replayLog, EventLog.replay, EventLog.activeAfter]
  unique := by simp [Client.held, Client.init, Phase.copies, Disk.queue, Disk.empty,
    JsonFile.events, replayLog, EventLog.replay, EventLog.activeAfter]
  tied := by simp [Client.init, Phase.copies]
  attempt := by simp [Client.init, Phase.attempt]

/-- The parts about the operations, when every operation is kin to an earlier one or no creation. -/
lemma WellFormed.of_kin (h : WellFormed s) (agrees : Agrees t.disk)
    (kin : ∀ y ∈ t.held, (∃ x ∈ s.held, Kin x y) ∨ (y.opType ≠ .create ∧ y.opId ∈ t.usedIds))
    (allocator : t.disk.allocator = s.disk.allocator) (usedIds : s.usedIds ⊆ t.usedIds)
    (nodup : (t.phase.copies.map OfflineOperation.opId).Nodup)
    (tied : ∀ x ∈ t.phase.copies, ∀ y ∈ t.disk.queue, x.opId = y.opId → Rebodied x y)
    (attempt : ∀ op req, t.phase.attempt = some (op, req) → op ∈ t.phase.copies) :
    WellFormed t where
  agrees := agrees
  used := by
    intro y hy
    rcases kin y hy with ⟨x, hx, hxy⟩ | ⟨_, hused⟩
    · rw [hxy.opId]
      exact usedIds (h.used x hx)
    · exact hused
  nodup := nodup
  allocated := by
    intro y hy hcreate
    rcases kin y hy with ⟨x, hx, hxy⟩ | ⟨hne, _⟩
    · have hentity := hxy.entity
      simp only [OfflineOperation.entity, OfflineEntityRef.mk.injEq] at hentity
      have hx' := h.allocated x hx (hxy.opType.symm.trans hcreate)
      unfold Disk.lastTempId at hx' ⊢
      rw [allocator, hentity.1, hentity.2]
      exact hx'
    · exact absurd hcreate hne
  unique := by
    intro y hy z hz hcy hcz hyz
    rcases kin y hy with ⟨x, hx, hxy⟩ | ⟨hne, _⟩
    · rcases kin z hz with ⟨w, hw, hwz⟩ | ⟨hne, _⟩
      · rw [hxy.opId, hwz.opId]
        exact h.unique x hx w hw (hxy.opType.symm.trans hcy) (hwz.opType.symm.trans hcz)
          (hxy.entity.symm.trans (hyz.trans hwz.entity))
      · exact absurd hcz hne
    · exact absurd hcy hne
  tied := tied
  attempt := attempt

lemma mem_held_of_queue (h : x ∈ s.disk.queue) : x ∈ s.held :=
  mem_append_left _ h

lemma mem_held_of_copies (h : x ∈ s.phase.copies) : x ∈ s.held :=
  mem_append_right _ h

lemma mem_held : x ∈ s.held ↔ x ∈ s.disk.queue ∨ x ∈ s.phase.copies := mem_append

private lemma WellFormed.created (h : WellFormed s) (agrees : Agrees t.disk)
    {r : OfflineCreateRequest} {c : OfflineOperation}
    (fresh : c.opId ∉ s.usedIds)
    (origin : ∀ y ∈ t.disk.queue, y ∈ s.disk.queue ∨ y = c)
    (entityType : c.entityType = r.entityType) (localIdNeg : c.localId < 0)
    (localIdLt : c.localId < s.disk.lastTempId r.entityType)
    (allocator : t.disk.allocator = s.disk.allocator.set r.entityType c.localId)
    (phase : t.phase = s.phase) (usedIds : t.usedIds = s.usedIds ++ [c.opId]) : WellFormed t := by
  have hheld : ∀ y ∈ t.held, y ∈ s.held ∨ y = c := by
    intro y hy
    rcases mem_held.mp hy with hy | hy
    · exact (origin y hy).imp_left mem_held_of_queue
    · rw [phase] at hy
      exact .inl (mem_held_of_copies hy)
  have hlast : ∀ e, t.disk.lastTempId e ≤ s.disk.lastTempId e := by
    intro e
    unfold Disk.lastTempId at localIdLt ⊢
    rw [allocator, Dict.get?_set]
    split
    · next he =>
      subst he
      exact localIdLt.le
    · exact le_refl _
  have hapart : ∀ x ∈ s.held, x.opType = .create → x.entity ≠ c.entity := by
    intro x hx hcreate heq
    simp only [OfflineOperation.entity, OfflineEntityRef.mk.injEq] at heq
    have hx' := (h.allocated x hx hcreate).1
    rw [heq.1, entityType, heq.2] at hx'
    omega
  refine ⟨agrees, ?_, ?_, ?_, ?_, ?_, ?_⟩
  · intro y hy
    rw [usedIds]
    rcases hheld y hy with hy | rfl
    · exact mem_append_left _ (h.used y hy)
    · simp
  · rw [phase]
    exact h.nodup
  · intro y hy hcreate
    rcases hheld y hy with hy | rfl
    · obtain ⟨hle, hneg⟩ := h.allocated y hy hcreate
      exact ⟨(hlast _).trans hle, hneg⟩
    · refine ⟨?_, localIdNeg⟩
      unfold Disk.lastTempId
      rw [allocator, entityType, Dict.get?_set, if_pos rfl]
      exact le_refl _
  · intro y hy z hz hcy hcz hyz
    rcases hheld y hy with hy | rfl
    · rcases hheld z hz with hz | rfl
      · exact h.unique y hy z hz hcy hcz hyz
      · exact absurd hyz (hapart y hy hcy)
    · rcases hheld z hz with hz | rfl
      · exact absurd hyz.symm (hapart z hz hcz)
      · rfl
  · intro x hx y hy hid
    rw [phase] at hx
    rcases origin y hy with hy | rfl
    · exact h.tied x hx y hy hid
    · exact absurd (hid ▸ h.used x (mem_held_of_copies hx)) fresh
  · intro op req hatt
    rw [phase] at hatt ⊢
    exact h.attempt op req hatt

private lemma WellFormed.tied_of_rebodied (h : WellFormed s) (copies : ∀ x ∈ t.phase.copies, x ∈ s.phase.copies)
    (origin : ∀ y ∈ t.disk.queue, (∃ x ∈ s.disk.queue, Rebodied x y) ∨ y.opId ∉ s.usedIds) :
    ∀ x ∈ t.phase.copies, ∀ y ∈ t.disk.queue, x.opId = y.opId → Rebodied x y := by
  intro x hx y hy hid
  rcases origin y hy with ⟨z, hz, hzy⟩ | hfresh
  · exact (h.tied x (copies x hx) z hz (hid.trans hzy.opId)).trans hzy
  · exact absurd (hid ▸ h.used x (mem_held_of_copies (copies x hx))) hfresh

/-- Every step keeps the invariant. -/
theorem WellFormed.step (h : WellFormed s) (hstep : s.step accountKey a = some t) : WellFormed t := by
  have hagrees := step_agrees h.agrees hstep
  cases step_move h.agrees hstep with
  | quiet disk copies attempt _ _ usedIds =>
    refine h.of_kin hagrees ?_ disk.ids.allocator usedIds (h.nodup.sublist (copies.map _)) ?_ ?_
    · intro y hy
      rcases mem_held.mp hy with hy | hy
      · obtain ⟨x, hx, hxy⟩ := disk.origin y hy
        exact .inl ⟨x, mem_held_of_queue hx, hxy.kin⟩
      · exact .inl ⟨y, mem_held_of_copies (copies.subset hy), Kin.refl y⟩
    · refine h.tied_of_rebodied (fun x hx => copies.subset hx) fun y hy => ?_
      obtain ⟨x, hx, hxy⟩ := disk.origin y hy
      exact .inl ⟨x, hx, hxy.rebodied⟩
    · intro op req hatt
      rcases attempt with hnone | ⟨hsame, hcopies⟩
      · rw [hnone] at hatt
        cases hatt
      · rw [hcopies]
        exact h.attempt op req (hsame ▸ hatt)
  | changed _ ids origin phase _ _ usedIds =>
    refine h.of_kin hagrees ?_ ids.allocator usedIds (phase ▸ h.nodup) ?_ ?_
    · intro y hy
      rcases mem_held.mp hy with hy | hy
      · rcases origin y hy with ⟨x, hx, hxy⟩ | ⟨hne, ⟨_, hused, _⟩ | ⟨x, hx, hxy⟩⟩
        · exact .inl ⟨x, mem_held_of_queue hx, hxy.kin⟩
        · exact .inr ⟨hne, hused⟩
        · exact .inl ⟨x, mem_held_of_queue hx, hxy.kin⟩
      · rw [phase] at hy
        exact .inl ⟨y, mem_held_of_copies hy, Kin.refl y⟩
    · refine h.tied_of_rebodied (fun x hx => phase ▸ hx) fun y hy => ?_
      rcases origin y hy with ⟨x, hx, hxy⟩ | ⟨_, ⟨hfresh, _, _⟩ | ⟨x, hx, hxy⟩⟩
      · exact .inl ⟨x, hx, hxy.rebodied⟩
      · exact .inr hfresh
      · exact .inl ⟨x, hx, hxy⟩
    · rw [phase]
      exact h.attempt
  | attempted _ _ _ disk phase _ _ usedIds =>
    refine h.of_kin hagrees ?_ (by rw [disk]) (by simp [usedIds]) (phase ▸ h.nodup) ?_ ?_
    · intro y hy
      refine .inl ⟨y, ?_, Kin.refl y⟩
      rw [Client.held, disk, phase] at hy
      exact hy
    · rw [disk, phase]
      exact h.tied
    · rw [phase]
      exact h.attempt
  | created _ _ _ fresh _ origin opIdEq _ entityType _ localIdNeg localIdLt allocator _ phase _ _ usedIds =>
    subst opIdEq
    exact h.created hagrees fresh origin entityType localIdNeg localIdLt allocator phase usedIds
  | merged c fields now _ mem _ _ ids origin phase _ _ usedIds =>
    have hrebodied : ∀ y ∈ t.disk.queue, ∃ x ∈ s.disk.queue, Rebodied x y := by
      intro y hy
      rcases origin y hy with rfl | ⟨hy, _⟩
      · exact ⟨c, mem, rebodied_mergeFields fields now c⟩
      · exact ⟨y, hy, Rebodied.refl y⟩
    refine h.of_kin hagrees ?_ ids.allocator usedIds (phase ▸ h.nodup) ?_ ?_
    · intro y hy
      rcases mem_held.mp hy with hy | hy
      · obtain ⟨x, hx, hxy⟩ := hrebodied y hy
        exact .inl ⟨x, mem_held_of_queue hx, hxy.kin⟩
      · rw [phase] at hy
        exact .inl ⟨y, mem_held_of_copies hy, Kin.refl y⟩
    · exact h.tied_of_rebodied (fun x hx => phase ▸ hx) fun y hy => .inl (hrebodied y hy)
    · rw [phase]
      exact h.attempt
  | taken disk _ copies nodup attempt _ _ usedIds =>
    refine h.of_kin hagrees ?_ disk.ids.allocator (by simp [usedIds]) nodup ?_ ?_
    · intro y hy
      have horigin : ∃ x ∈ s.disk.queue, Touched x y := by
        rcases mem_held.mp hy with hy | hy
        · exact disk.origin y hy
        · exact copies y hy
      obtain ⟨x, hx, hxy⟩ := horigin
      exact .inl ⟨x, mem_held_of_queue hx, hxy.kin⟩
    · -- identities are unique in the queue, so copy and operation stem from the same one
      intro x hx y hy hid
      obtain ⟨u, hu, hux⟩ := copies x hx
      obtain ⟨v, hv, hvy⟩ := disk.origin y hy
      have huv : u = v := inj_on_of_nodup_map h.agrees.nodup_opId hu hv (hux.opId.symm.trans (hid.trans hvy.opId))
      subst huv
      exact hux.rebodied.symm.trans hvy.rebodied
    · intro op req hatt
      rw [attempt] at hatt
      cases hatt
  | resolved _ _ disk copies mem attempt _ _ _ usedIds =>
    refine h.of_kin hagrees ?_ (by rw [disk]) (by simp [usedIds]) (copies ▸ h.nodup) ?_ ?_
    · intro y hy
      rw [Client.held, disk, copies] at hy
      exact .inl ⟨y, hy, Kin.refl y⟩
    · rw [disk, copies]
      exact h.tied
    · intro op' req' hatt
      rw [attempt] at hatt
      cases hatt
      rw [copies]
      exact mem
  | sent _ _ disk copies attempt attempt' _ _ usedIds =>
    refine h.of_kin hagrees ?_ (by rw [disk]) (by simp [usedIds]) (copies ▸ h.nodup) ?_ ?_
    · intro y hy
      rw [Client.held, disk, copies] at hy
      exact .inl ⟨y, hy, Kin.refl y⟩
    · rw [disk, copies]
      exact h.tied
    · intro op' req' hatt
      rw [attempt'] at hatt
      rw [copies]
      exact h.attempt op' req' (attempt.trans hatt)
  | arrived _ _ _ _ disk copies attempt _ _ usedIds =>
    have hcopies : ∀ x ∈ t.phase.copies, x ∈ s.phase.copies := by
      intro x hx
      rw [copies]
      exact mem_cons_of_mem _ hx
    have hnodup := h.nodup
    rw [copies, map_cons, nodup_cons] at hnodup
    refine h.of_kin hagrees ?_ disk.allocator (by simp [usedIds]) hnodup.2 ?_ ?_
    · intro y hy
      rcases mem_held.mp hy with hy | hy
      · obtain ⟨_, x, hx, hxy⟩ := disk.origin y hy
        exact .inl ⟨x, mem_held_of_queue hx, hxy.kin⟩
      · exact .inl ⟨y, mem_held_of_copies (hcopies y hy), Kin.refl y⟩
    · refine h.tied_of_rebodied hcopies fun y hy => ?_
      obtain ⟨_, x, hx, hxy⟩ := disk.origin y hy
      exact .inl ⟨x, hx, hxy.rebodied⟩
    · intro op' req' hatt
      rw [attempt] at hatt
      cases hatt

/-- The copy in hand after a step, with its request: it was there before, or was just resolved. -/
lemma step_attempt (h : Agrees s.disk)
    (hstep : s.step accountKey a = some t) {op : OfflineOperation} {req : ApiRequest}
    (hatt : t.phase.attempt = some (op, req)) :
    s.phase.attempt = some (op, req) ∨ (t.disk = s.disk ∧ resolveRequestPayload s.disk op = some req) := by
  cases step_move h hstep with
  | quiet _ _ attempt =>
    rcases attempt with hnone | ⟨hsame, _⟩
    · rw [hnone] at hatt
      cases hatt
    · exact .inl (hsame ▸ hatt)
  | changed _ _ _ phase => exact .inl (phase ▸ hatt)
  | attempted _ _ _ _ phase => exact .inl (phase ▸ hatt)
  | created _ _ _ _ _ _ _ _ _ _ _ _ _ _ phase => exact .inl (phase ▸ hatt)
  | merged _ _ _ _ _ _ _ _ _ phase =>
    exact .inl (phase ▸ hatt)
  | taken _ _ _ _ attempt =>
    rw [attempt] at hatt
    cases hatt
  | resolved _ _ disk _ _ attempt request =>
    rw [attempt] at hatt
    cases hatt
    exact .inr ⟨disk, request⟩
  | sent _ _ _ _ attempt attempt' =>
    exact .inl (attempt.trans (attempt'.symm.trans hatt))
  | arrived _ _ _ _ _ _ attempt =>
    rw [attempt] at hatt
    cases hatt

/-! ### Copies that are up to date -/

/-- A copy of a queued creation carries the same request. -/
def CopiesCurrent (s : Client) : Prop :=
  ∀ x ∈ s.phase.copies, ∀ y ∈ s.disk.queue, x.opId = y.opId → x.opType = .create → y.payload = x.payload

def MergesUncopied (s : Client) (a : Action) : Prop :=
  ∀ m ∈ a.merge? s, ∀ x ∈ s.phase.copies, x.opId ≠ m.1.opId

lemma copiesCurrent_init : CopiesCurrent Client.init := by
  intro x hx
  cases hx

private lemma CopiesCurrent.of_touched (h : CopiesCurrent s) (hwf : WellFormed t)
    (copies : ∀ x ∈ t.phase.copies, x ∈ s.phase.copies)
    (origin : ∀ y ∈ t.disk.queue, y.opType = .create → ∃ x ∈ s.disk.queue, Touched x y) :
    CopiesCurrent t := by
  intro x hx y hy hid hcreate
  have htied := hwf.tied x hx y hy hid
  obtain ⟨z, hz, hzy⟩ := origin y hy (htied.opType.trans hcreate)
  rw [hzy.payload]
  exact h x (copies x hx) z hz (hid.trans hzy.opId) hcreate

lemma CopiesCurrent.step (h : CopiesCurrent s)
    (hwf : WellFormed s) (hmerges : MergesUncopied s a) (hstep : s.step accountKey a = some t) :
    CopiesCurrent t := by
  have hwf' := hwf.step hstep
  cases step_move hwf.agrees hstep with
  | quiet disk copies =>
    exact h.of_touched hwf' (fun x hx => copies.subset hx) fun y hy _ => disk.origin y hy
  | changed _ _ origin phase =>
    refine h.of_touched hwf' (fun x hx => phase ▸ hx) fun y hy hcreate => ?_
    rcases origin y hy with hold | ⟨hne, _⟩
    · exact hold
    · exact absurd hcreate hne
  | attempted _ _ _ disk phase =>
    unfold CopiesCurrent
    rw [disk, phase]
    exact h
  | created _ _ _ fresh _ origin opIdEq _ _ _ _ _ _ _ phase =>
    intro x hx y hy hid hcreate
    rw [phase] at hx
    rcases origin y hy with hy | rfl
    · exact h x hx y hy hid hcreate
    · have hused := hwf.used x (mem_held_of_copies hx)
      rw [hid, opIdEq] at hused
      exact absurd hused fresh
  | merged c fields _ merge _ _ _ _ origin phase =>
    intro x hx y hy hid hcreate
    rw [phase] at hx
    rcases origin y hy with rfl | ⟨hy, _⟩
    · exact absurd hid (hmerges (c, fields) merge x hx)
    · exact h x hx y hy hid hcreate
  | taken disk _ copies =>
    intro x hx y hy hid _
    obtain ⟨u, hu, hux⟩ := copies x hx
    obtain ⟨v, hv, hvy⟩ := disk.origin y hy
    have huv : u = v := inj_on_of_nodup_map hwf.agrees.nodup_opId hu hv (hux.opId.symm.trans (hid.trans hvy.opId))
    rw [hvy.payload, hux.payload, huv]
  | resolved _ _ disk copies =>
    unfold CopiesCurrent
    rw [disk, copies]
    exact h
  | sent _ _ disk copies =>
    unfold CopiesCurrent
    rw [disk, copies]
    exact h
  | arrived _ _ _ _ disk copies =>
    refine h.of_touched hwf' ?_ fun y hy _ => (disk.origin y hy).2
    intro x hx
    rw [copies]
    exact mem_cons_of_mem _ hx

end ImmoApp.Offline
