import ImmoApp.Offline.WellFormed

/-!
# Edits of records created offline

An update of a record that was created offline is merged into its queued creation.  When the server
acknowledges the creation, the operation leaves the journal, and an edit survives only if the request
the server saw contained it or another operation still carries it.

Replay sends the copy it took earlier.  So an update that is merged while replay holds a copy of the
creation is lost, and so is one of a field that the creation fills with the id of a parent.  Without
such updates no edit is lost (`edits_kept`).
-/

namespace ImmoApp.Offline

open OfflineOperation Option

variable {d : Disk} {k accountKey : String} {s t : Client} {a : Action} {fields : Dict String Json}

lemma get?_resolveBodyRefs {refs body resolved : Dict String Json}
    (h : resolveBodyRefs d body refs = some resolved) (hk : refs.get? k = none) :
    resolved.get? k = body.get? k := by
  unfold resolveBodyRefs at h
  induction refs generalizing body with
  | nil =>
    cases h
    rfl
  | cons _ _ ih =>
    rw [List.foldlM_cons] at h
    obtain ⟨_, hstep, hrest⟩ := bind_eq_some_iff.mp h
    obtain ⟨_, _, hbind⟩ := bind_eq_some_iff.mp hstep
    obtain ⟨_, _, hset⟩ := bind_eq_some_iff.mp hbind
    cases hset
    rw [Dict.get?_cons] at hk
    split at hk
    · cases hk
    · next hne => rw [ih hrest hk, Dict.get?_set, if_neg hne]

lemma get?_body_of_resolveRequestPayload {op : OfflineOperation} {req : ApiRequest}
    (h : resolveRequestPayload d op = some req) (hk : op.bodyRefs.get? k = none) :
    req.body.get? k = op.body.get? k := by
  unfold resolveRequestPayload at h
  obtain ⟨_, _, h⟩ := bind_eq_some_iff.mp h
  obtain ⟨_, hrefs, h⟩ := bind_eq_some_iff.mp h
  obtain ⟨_, hbody, h⟩ := bind_eq_some_iff.mp h
  cases h
  rw [OfflineOperation.bodyRefs, ← refsAt_eq_some hrefs] at hk
  exact get?_resolveBodyRefs hbody hk

/-- If the replay is about to remove a creation as applied, each edit of its record was in the
acknowledged request or is carried by an operation that is still queued afterwards. -/
def EditsKept (accountKey : String) (s : Client) : Prop :=
  ∀ op req payload ready now t, s.phase = .received op req (.ok payload) ready →
    s.step accountKey (.finish now) = some t → op.opType = .create →
    (∃ x ∈ s.disk.queue, x.opId = op.opId) → (∀ y ∈ t.disk.queue, y.opId ≠ op.opId) →
    ∀ k v, (s.editsOf op.entity).get? k = some v → req.body.get? k = some v ∨
        ∃ y ∈ t.disk.queue, y.entity = op.entity ∧ y.body.get? k = some v

/-- An update is not merged into a creation of which replay holds a copy, nor into a field that the
creation fills with the id of a parent. -/
def KeepsEdits (s : Client) (a : Action) : Prop :=
  ∀ m ∈ a.merge? s, (∀ x ∈ s.phase.copies, x.opId ≠ m.1.opId) ∧ ∀ e ∈ m.2, m.1.bodyRefs.get? e.1 = none

instance (s : Client) (a : Action) : Decidable (KeepsEdits s a) :=
  inferInstanceAs (Decidable (∀ m ∈ a.merge? s, _))

lemma KeepsEdits.mergesUncopied (h : KeepsEdits s a) :
    MergesUncopied s a :=
  fun m hm => (h m hm).1

/-! ### Edits are carried -/

/-- What holds as long as updates are merged with care. -/
structure EditsCarried (s : Client) : Prop where
  wellFormed : WellFormed s
  current : CopiesCurrent s
  /-- A queued creation has the edits of its record in its body. -/
  carried : ∀ c ∈ s.disk.queue, c.opType = .create → ∀ k v,
    (s.editsOf c.entity).get? k = some v → c.body.get? k = some v ∧ c.bodyRefs.get? k = none
  /-- The request at hand was made from the copy at hand. -/
  requested : ∀ op req, s.phase.attempt = some (op, req) → ∀ k, op.bodyRefs.get? k = none →
    req.body.get? k = op.body.get? k

lemma editsCarried_init : EditsCarried Client.init where
  wellFormed := wellFormed_init
  current := copiesCurrent_init
  carried := by
    intro c hc
    have hempty : Client.init.disk.queue = [] := rfl
    rw [hempty] at hc
    cases hc
  requested := by
    intro op req h
    cases h

lemma editsOf_congr (h : t.edits = s.edits) (ref : OfflineEntityRef) : t.editsOf ref = s.editsOf ref := by
  unfold Client.editsOf
  rw [h]

lemma editsOf_set {ref : OfflineEntityRef} (h : t.edits = s.edits.set ref fields) (ref' : OfflineEntityRef) :
    t.editsOf ref' = if ref' = ref then fields else s.editsOf ref' := by
  unfold Client.editsOf
  rw [h, Dict.get?_set]
  split <;> rfl

section

variable (h : EditsCarried s)
include h

private lemma EditsCarried.carried_of_touched
    (origin : ∀ y ∈ t.disk.queue, y.opType = .create → ∃ x ∈ s.disk.queue, Touched x y)
    (edits : ∀ x ∈ s.disk.queue, x.opType = .create → t.editsOf x.entity = s.editsOf x.entity) :
    ∀ c ∈ t.disk.queue, c.opType = .create → ∀ k v,
      (t.editsOf c.entity).get? k = some v → c.body.get? k = some v ∧ c.bodyRefs.get? k = none := by
  intro y hy hcreate k v hv
  obtain ⟨x, hx, hxy⟩ := origin y hy hcreate
  have hcreate' : x.opType = .create := hxy.opType.symm.trans hcreate
  rw [hxy.entity, edits x hx hcreate'] at hv
  rw [hxy.body, hxy.bodyRefs]
  exact h.carried x hx hcreate' k v hv

private lemma EditsCarried.carried_of_merged {c : OfflineOperation} {now : ℕ} (mem : c ∈ s.disk.queue)
    (opType : c.opType = .create)
    (origin : ∀ y ∈ t.disk.queue, y = mergeFields fields now c ∨ (y ∈ s.disk.queue ∧ y.opId ≠ c.opId))
    (edits : t.edits = s.edits.set c.entity ((s.editsOf c.entity).update fields))
    (unfilled : ∀ e ∈ fields, c.bodyRefs.get? e.1 = none) :
    ∀ c ∈ t.disk.queue, c.opType = .create → ∀ k v,
      (t.editsOf c.entity).get? k = some v → c.body.get? k = some v ∧ c.bodyRefs.get? k = none := by
  intro y hy hcreate k v hv
  have hmerged := rebodied_mergeFields fields now c
  rcases origin y hy with rfl | ⟨hy, hne⟩
  · rw [editsOf_set edits, if_pos hmerged.entity, Dict.get?_update] at hv
    rw [body_mergeFields, hmerged.bodyRefs, Dict.get?_update]
    cases hfield : fields.get? k with
    | some w =>
      rw [hfield] at hv
      exact ⟨hv, unfilled (k, w) (Dict.mem_of_get? hfield)⟩
    | none =>
      rw [hfield] at hv
      exact h.carried c mem opType k v hv
  · have hapart : y.entity ≠ c.entity := fun heq => hne
      (h.wellFormed.unique y (mem_held_of_queue hy) c (mem_held_of_queue mem) hcreate opType heq)
    rw [editsOf_set edits, if_neg hapart] at hv
    exact h.carried y hy hcreate k v hv

private lemma EditsCarried.carried_step (hkeeps : KeepsEdits s a) (hstep : s.step accountKey a = some t) :
    ∀ c ∈ t.disk.queue, c.opType = .create → ∀ k v,
      (t.editsOf c.entity).get? k = some v → c.body.get? k = some v ∧ c.bodyRefs.get? k = none := by
  cases step_move h.wellFormed.agrees hstep with
  | quiet disk _ _ _ edits =>
    exact h.carried_of_touched (fun y hy _ => disk.origin y hy) fun x _ _ => editsOf_congr edits _
  | changed _ _ origin _ _ edits =>
    refine h.carried_of_touched ?_ ?_
    · intro y hy hcreate
      rcases origin y hy with hold | ⟨hne, _⟩
      · exact hold
      · exact absurd hcreate hne
    · intro x hx hcreate
      rcases edits with heq | ⟨ref, fields, hfree, heq⟩
      · exact editsOf_congr heq _
      · have hne : x.entity ≠ ref := by
          intro heq'
          have hfalse := hfree x hx
          rw [isCreateOf_iff.mpr ⟨heq', hcreate⟩] at hfalse
          cases hfalse
        rw [editsOf_set heq, if_neg hne]
  | attempted _ _ _ disk _ _ edits =>
    exact h.carried_of_touched (fun y hy _ => ⟨y, disk ▸ hy, Touched.refl y⟩)
      fun x _ _ => editsOf_congr edits _
  | created _ _ _ _ _ origin _ _ _ _ _ _ _ _ _ _ edits =>
    -- a creation that was just queued has no edits
    intro y hy hcreate k v hv
    rw [editsOf_set edits] at hv
    split at hv
    · cases hv
    · next hne =>
      rcases origin y hy with hy | rfl
      · exact h.carried y hy hcreate k v hv
      · exact absurd rfl hne
  | merged c fields _ merge mem opType _ _ origin _ _ edits =>
    exact h.carried_of_merged mem opType origin edits (hkeeps (c, fields) merge).2
  | taken disk _ _ _ _ _ edits =>
    exact h.carried_of_touched (fun y hy _ => disk.origin y hy) fun x _ _ => editsOf_congr edits _
  | resolved _ _ disk _ _ _ _ _ edits =>
    exact h.carried_of_touched (fun y hy _ => ⟨y, disk ▸ hy, Touched.refl y⟩)
      fun x _ _ => editsOf_congr edits _
  | sent _ _ disk _ _ _ _ edits =>
    exact h.carried_of_touched (fun y hy _ => ⟨y, disk ▸ hy, Touched.refl y⟩)
      fun x _ _ => editsOf_congr edits _
  | arrived _ _ _ _ disk _ _ _ edits =>
    exact h.carried_of_touched (fun y hy _ => (disk.origin y hy).2)
      fun x _ _ => editsOf_congr edits _

lemma EditsCarried.step (hkeeps : KeepsEdits s a) (hstep : s.step accountKey a = some t) : EditsCarried t where
  wellFormed := h.wellFormed.step hstep
  current := h.current.step h.wellFormed hkeeps.mergesUncopied hstep
  carried := h.carried_step hkeeps hstep
  requested := by
    intro op req hatt k hk
    rcases step_attempt h.wellFormed.agrees hstep hatt with hsame | ⟨_, hresolved⟩
    · exact h.requested op req hsame k hk
    · exact get?_body_of_resolveRequestPayload hresolved hk

lemma EditsCarried.editsKept (accountKey : String) :
    EditsKept accountKey s := by
  rintro op req _ _ _ t hphase _ hcreate ⟨x, hx, hid⟩ _ k v hv
  have hmem : op ∈ s.phase.copies := by
    rw [hphase]
    exact List.mem_cons_self
  have hkin := h.wellFormed.tied op hmem x hx hid.symm
  have hpayload := h.current op hmem x hx hid.symm hcreate
  rw [← hkin.entity] at hv
  obtain ⟨hbody, hrefs⟩ := h.carried x hx (hkin.opType.trans hcreate) k v hv
  have hrequest := h.requested op req (by rw [hphase]; rfl) k
  unfold OfflineOperation.body OfflineOperation.bodyRefs at *
  rw [hpayload] at hbody hrefs
  exact .inl ((hrequest hrefs).trans hbody)

end

/-- In a run in which no update is merged into a creation that replay holds a copy of, or into a field
that holds the id of a parent, no edit of a record created offline is lost. -/
theorem edits_kept {accountKey : String} {acts : List Action} {s : Client}
    (hkeeps : Guarded (Client.step accountKey) KeepsEdits Client.init acts)
    (hrun : run (Client.step accountKey) Client.init acts = some s) : EditsKept accountKey s := by
  have hcarried : EditsCarried s :=
    run_invariant (fun _ _ _ h hk hs => h.step hk hs) editsCarried_init hkeeps hrun
  exact hcarried.editsKept accountKey

/-! ### An edit before, and an edit during the replay -/

def earlyEdit : List Action :=
  [sampleCreate, samplePhoneEdit, .beginReplay 50, .takeReady] ++ sampleAttempt

/-- The number changes after replay took the creation. -/
def lateEdit : List Action :=
  [sampleCreate, .beginReplay 50, .takeReady, samplePhoneEdit] ++ sampleAttempt

def Phase.accepted : Phase → Bool
  | .received _ _ (.ok _) _ => true
  | _ => false

theorem edits_kept_earlyEdit : ∃ s op req payload, run (Client.step "acc") Client.init earlyEdit = some s ∧
      s.phase = .received op req (.ok payload) [] ∧ req.body.get? "phone" = some (.str "2") ∧
      EditsKept "acc" s := by
  have hfacts : (run (Client.step "acc") Client.init earlyEdit).map (fun s =>
      (s.phase.attempt.map fun p => p.2.body.get? "phone", s.phase.copies.length, s.phase.accepted))
      = some (some (some (.str "2")), 1, true) := by decide +kernel
  obtain ⟨s, hrun, hs⟩ := map_eq_some_iff.mp hfacts
  have hkept : EditsKept "acc" s := edits_kept (by decide +kernel) hrun
  obtain ⟨hbody, hlength, hphase⟩ : _ ∧ _ ∧ _ := by simpa only [Prod.mk.injEq] using hs
  unfold Phase.accepted at hphase
  split at hphase
  · next op req payload ready heq =>
    rw [heq] at hbody hlength
    refine ⟨s, op, req, payload, hrun, ?_, ?_, hkept⟩
    · simpa [Phase.copies, heq] using hlength
    · simpa [Phase.attempt] using hbody
  · cases hphase

/-- The late edit is lost: the server saw the old number, and nothing carries the new one. -/
theorem late_edit_lost : ¬ ∀ acts s, run (Client.step "acc") Client.init acts = some s → EditsKept "acc" s := by
  intro h
  have hfacts : (run (Client.step "acc") Client.init lateEdit).map (fun s =>
      (s.phase, s.disk.queue.map opId, (s.editsOf ⟨.client, -1⟩).get? "phone",
        (s.step "acc" (.finish 4)).map fun t => t.disk.queue))
      = some (.received (queuedCreate "acc" Disk.empty sampleRequest "op-1" 1)
          { method := "POST", path := "/clients",
            body := [("name", .str "A"), ("phone", .str "1")], params := [],
            headers := [("Idempotency-Key", "offline:acc:client:op-1")] }
          (.ok (.obj [("id", .int 7)])) [],
        ["op-1"], some (.str "2"), some []) := by decide +kernel
  obtain ⟨s, hrun, hs⟩ := map_eq_some_iff.mp hfacts
  simp only [Prod.mk.injEq] at hs
  obtain ⟨hphase, hqueue, hedit, hstep⟩ := hs
  obtain ⟨t, hstep, hempty⟩ := map_eq_some_iff.mp hstep
  have hqueued : ∃ x ∈ s.disk.queue, x.opId = "op-1" := by
    rw [← List.mem_map, hqueue]
    exact List.mem_singleton_self _
  rcases h lateEdit s hrun _ _ _ _ 4 t hphase hstep rfl hqueued (by simp [hempty]) "phone" (.str "2")
      hedit with hsent | ⟨y, hy, _⟩
  · exact absurd hsent (by decide)
  · rw [hempty] at hy
    cases hy

end ImmoApp.Offline
