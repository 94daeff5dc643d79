import ImmoApp.Storage.Usage

/-!
# The bytes of ready objects

A purge lists rows, deletes the key of each and then writes the row, and never looks at the row again; a completion asks
for the object before it writes the row.  So a row that becomes ready while a purge has it listed loses its bytes.

`ready_has_bytes`: in every run in which rows become ready only with their key in the bucket and while no purge has them
listed, and nobody else discards the object of a ready row, every ready row has its key, and no purge writes one.
-/

namespace ImmoApp.Storage

open List Option

/-- The rows that a purge has listed and not yet written. -/
def Stage.listedRows : Stage → List ℕ
  | purging _ rows => rows
  | purgingRow _ id rows => id :: rows
  | _ => []

/-- The object that a call other than a listing purge deletes next. -/
def Stage.discards : Stage → Option ℕ
  | rejecting id _ _ => some id
  | purgingNowKey id _ => some id
  | _ => none

/-- The rows that a write makes ready, if they are not. -/
def StorageWrite.revives (db : Media) : StorageWrite → List ℕ
  | markReady id _ _ _ => [id]
  | restore id _ => [id]
  | photo op => op.reattached db
  | _ => []

namespace StorageDesk

def Listed (id : ℕ) (s : StorageDesk) : Prop := ∃ e ∈ s.calls.entries, id ∈ e.2.listedRows

instance (id : ℕ) (s : StorageDesk) : Decidable (s.Listed id) := by
  unfold Listed
  infer_instance

/-- A row becomes ready with its key in the bucket and while no purge has it listed, and a call that
discards an object does not find its row ready. -/
def KeysKept (cfg : StorageConfig) (s : StorageDesk) (a : StorageAction) : Prop :=
  (∀ w ∈ s.writeOf cfg a, (w.apply s.media).isSome → ∀ id ∈ w.revives s.media,
    (∃ r ∈ s.media.objects.rows.get? id, r.status ≠ .ready) → (s.bucket.get? id).isSome ∧ ¬s.Listed id) ∧
  match a with
  | .advance pid ok => ∀ stage ∈ s.calls.get? pid, ∀ id ∈ stage.discards, ok = true →
      ∀ r ∈ s.media.objects.rows.get? id, r.status ≠ .ready
  | _ => True

instance (cfg : StorageConfig) (s : StorageDesk) (a : StorageAction) : Decidable (s.KeysKept cfg a) := by
  unfold KeysKept
  cases a <;> infer_instance

/-- Ready rows have their keys, and the rows that a purge has listed are not ready. -/
structure Stored (s : StorageDesk) : Prop where
  ready : ∀ id r, s.media.objects.rows.get? id = some r → r.status = .ready → (s.bucket.get? id).isSome
  listed : ∀ id, s.Listed id → ∀ r, s.media.objects.rows.get? id = some r → r.status ≠ .ready

section Stored

variable {cfg : StorageConfig} {s t : StorageDesk} {a : StorageAction} {w : StorageWrite} {db' : Media}
  {pid id : ℕ} {stage stage' : Stage} {o : Outcome} {ok : Bool} {as : List StorageAction} {r' : StorageObject}

lemma isListed_iff : s.Listed id ↔ ∃ pid stage, s.calls.get? pid = some stage ∧ id ∈ stage.listedRows := by
  constructor
  · rintro ⟨e, he, hid⟩
    exact ⟨e.1, e.2, Keyed.mem_entries_iff.mp he, hid⟩
  · rintro ⟨pid, stage, hstage, hid⟩
    exact ⟨(pid, stage), Keyed.mem_entries_iff.mpr hstage, hid⟩

lemma ready_of_apply (h : w.apply s.media = some db') (hr' : db'.objects.rows.get? id = some r')
    (hready : r'.status = .ready) :
    (∃ r, s.media.objects.rows.get? id = some r ∧ r.status = .ready) ∨
      (id ∈ w.revives s.media ∧ ∃ r ∈ s.media.objects.rows.get? id, r.status ≠ .ready) := by
  rcases w.rows_apply h hr' with ⟨r, hr, _, ⟨hsame, _⟩ | hchange⟩ | ⟨u, _, _, hpending, _⟩
  · exact .inl ⟨r, hr, hsame ▸ hready⟩
  · by_cases hstatus : r.status = .ready
    · exact .inl ⟨r, hr, hstatus⟩
    · refine .inr ⟨?_, r, hr, hstatus⟩
      cases w with
      | create | purgeNow => exact hchange.elim
      | markReady id' sizeBytes agencyId purpose => exact mem_singleton.mpr hchange.1
      | restore id' agencyId => exact mem_singleton.mpr hchange.1
      | markFailed | expire | markDeleted | markPurged =>
        exact absurd (hchange.2.1.symm.trans hready) (by decide)
      | photo op =>
        rcases hchange.1 with ⟨_, hdeleted⟩ | ⟨hmem, _⟩
        · exact absurd (hdeleted.symm.trans hready) (by decide)
        · exact hmem
  · exact absurd (hpending.symm.trans hready) (by decide)

/-- A row that is ready after a guarded step was ready before it, or has its key and is not listed. -/
lemma ready_of_step (hkept : s.KeysKept cfg a) (hstep : step cfg s a = some t)
    (hr' : t.media.objects.rows.get? id = some r') (hready : r'.status = .ready) :
    (∃ r, s.media.objects.rows.get? id = some r ∧ r.status = .ready) ∨
      (∃ w, s.writeOf cfg a = some w) ∧ (s.bucket.get? id).isSome ∧ ¬s.Listed id := by
  rcases media_step hstep with ⟨hrows, _⟩ | ⟨w, hw, happly⟩
  · exact .inl ⟨r', hrows ▸ hr', hready⟩
  · rcases ready_of_apply happly hr' hready with hbefore | ⟨hmem, hrow⟩
    · exact .inl hbefore
    · exact .inr ⟨⟨w, hw⟩, hkept.1 w hw (happly ▸ rfl) id hmem hrow⟩

/-- What a turn lists next: what was listed, or rows that it has just read and that are not ready. -/
lemma listedRows_outcome (ho : s.outcome cfg ok stage = some o) (hnext : o.next = some stage')
    (hid : id ∈ stage'.listedRows) :
    id ∈ stage.listedRows ∨ (o.write = none ∧ ∃ r, s.media.objects.rows.get? id = some r ∧ r.status ≠ .ready) := by
  rw [outcome.eq_def] at ho
  split at ho
  case h_17 kind agencyId olderThan limit =>
    cases ho
    cases hnext
    refine .inr ⟨rfl, ?_⟩
    cases kind with
    | deleted =>
      obtain ⟨r, hr, hstatus⟩ := Objects.mem_listDeletedStorageObjects hid
      exact ⟨r, hr, by rw [hstatus]; decide⟩
    | pending =>
      obtain ⟨r, hr, hstatus⟩ := Objects.mem_listPendingStorageObjects hid
      exact ⟨r, hr, by rw [hstatus]; decide⟩
  all_goals
    repeat' split at ho
    all_goals
      cases ho
      try cases hnext
      try exact absurd hid not_mem_nil
      try exact .inl hid
      try exact .inl (mem_cons_of_mem _ hid)

lemma outcome_request {key : ℕ} (ho : s.outcome cfg ok stage = some o) (hrequest : o.request = some (.delete key)) :
    o.write = none ∧ (key ∈ stage.listedRows ∨ (stage.discards = some key ∧ ok = true)) := by
  rw [outcome.eq_def] at ho
  split at ho
  all_goals
    repeat' split at ho
    all_goals
      cases ho
      try cases hrequest
      try exact ⟨rfl, .inl mem_cons_self⟩
      try exact ⟨rfl, .inr ⟨rfl, by assumption⟩⟩

lemma Stored.bucket_perform (h : s.Stored) (hkept : s.KeysKept cfg (.advance pid ok))
    (hstage : s.calls.get? pid = some stage) (ho : s.outcome cfg ok stage = some o)
    (hkey : (s.bucket.get? id).isSome) :
    ((s.perform pid o).bucket.get? id).isSome ∨
      (o.write = none ∧ ∀ r, s.media.objects.rows.get? id = some r → r.status ≠ .ready) := by
  rw [perform]
  split
  · next hwrite =>
    cases hrequest : o.request with
    | none => exact .inl hkey
    | some q =>
      cases q with
      | put key length =>
        left
        change ((s.bucket.set key length).get? id).isSome
        rw [Keyed.get?_set]
        split
        · rfl
        · exact hkey
      | delete key =>
        by_cases heq : id = key
        · subst heq
          refine .inr ⟨hwrite, ?_⟩
          obtain ⟨_, hlisted | ⟨hdiscards, hok⟩⟩ := outcome_request ho hrequest
          · exact h.listed id (isListed_iff.mpr ⟨pid, stage, hstage, hlisted⟩)
          · exact fun r hr => hkept.2 stage hstage id hdiscards hok r hr
        · left
          change ((s.bucket.deleteKey key).get? id).isSome
          rw [Keyed.get?_deleteKey, if_neg heq]
          exact hkey
  · split <;> exact .inl hkey

lemma Stored.ready_step (h : s.Stored) (hkept : s.KeysKept cfg a) (hstep : step cfg s a = some t) (id : ℕ)
    (r' : StorageObject) (hr' : t.media.objects.rows.get? id = some r') (hready : r'.status = .ready) :
    (t.bucket.get? id).isSome := by
  have hkey : (s.bucket.get? id).isSome := by
    rcases ready_of_step hkept hstep hr' hready with ⟨r, hr, hstatus⟩ | ⟨_, hkey, _⟩
    · exact h.ready id r hr hstatus
    · exact hkey
  cases a with
  | start =>
    rw [step] at hstep
    split at hstep
    · cases hstep
    · cases hstep
      exact hkey
  | advance pid ok =>
    have hbefore := ready_of_step hkept hstep hr' hready
    obtain ⟨_, o, hstage, ho, rfl⟩ := step_advance hstep
    rcases h.bucket_perform hkept hstage ho hkey with hafter | ⟨hwrite, hnot⟩
    · exact hafter
    · rcases hbefore with ⟨r, hr, hstatus⟩ | ⟨⟨w, hw⟩, _⟩
      · exact absurd hstatus (hnot r hr)
      · rw [writeOf_advance hstage ho, hwrite] at hw
        cases hw
  | stop pid | photo op | tick seconds =>
    cases hstep
    exact hkey
  | clientPut key length =>
    rw [step] at hstep
    split at hstep
    · cases hstep
      change ((s.bucket.set key length).get? id).isSome
      rw [Keyed.get?_set]
      split
      · rfl
      · exact hkey
    · cases hstep

lemma Stored.step (h : s.Stored) (hkept : s.KeysKept cfg a) (hstep : step cfg s a = some t) : t.Stored where
  ready := h.ready_step hkept hstep
  listed := by
    intro id hlisted r' hr' hready
    -- the row was ready before, or is made ready while it is not listed
    have hbefore := ready_of_step hkept hstep hr' hready
    have hnot : ¬s.Listed id := by
      rcases hbefore with ⟨r, hr, hstatus⟩ | ⟨_, _, hnot⟩
      · exact fun hlisted => h.listed id hlisted r hr hstatus
      · exact hnot
    obtain ⟨pid, stage, hstage, hid⟩ := isListed_iff.mp hlisted
    rcases calls_step hstep hstage with hold | ⟨call, _, rfl⟩ | ⟨_, stage', o, rfl, hstage', ho, hnext⟩
    · exact hnot (isListed_iff.mpr ⟨pid, stage, hold, hid⟩)
    · cases call <;> exact absurd hid not_mem_nil
    · rcases listedRows_outcome ho hnext hid with hold | ⟨hwrite, r, hr, hstatus⟩
      · exact hnot (isListed_iff.mpr ⟨pid, stage', hstage', hold⟩)
      · rcases hbefore with ⟨_, hr₁, hready₁⟩ | ⟨⟨w, hw⟩, _⟩
        · exact hstatus (some.inj (hr.symm.trans hr₁) ▸ hready₁)
        · rw [writeOf_advance hstage' ho, hwrite] at hw
          cases hw

def PurgeWrites (s : StorageDesk) : StorageAction → Prop
  | .advance pid _ => ∃ kind id rows, s.calls.get? pid = some (.purgingRow kind id rows)
  | _ => False

lemma Stored.purge_step (h : s.Stored) (hpurge : s.PurgeWrites a) (hstep : StorageDesk.step cfg s a = some t)
    (id : ℕ) (r r' : StorageObject) (hr : s.media.objects.rows.get? id = some r) (hready : r.status = .ready)
    (hr' : t.media.objects.rows.get? id = some r') : r'.status = .ready := by
  cases a with
  | advance pid ok =>
    obtain ⟨kind, id', _, hstage⟩ := hpurge
    have hnot := h.listed id' (isListed_iff.mpr ⟨pid, _, hstage, mem_cons_self⟩)
    rcases media_step hstep with ⟨hrows, _⟩ | ⟨w, hw, happly⟩
    · rw [hrows, hr] at hr'
      exact some.inj hr' ▸ hready
    · have hwrite : w = .markPurged id' ∨ w = .expire id' := by
        rw [writeOf, hstage, bind_some] at hw
        cases kind with
        | deleted => exact .inl (some.inj hw).symm
        | pending => exact .inr (some.inj hw).symm
      rcases w.rows_apply happly hr' with ⟨_, hr₁, _, ⟨hsame, _⟩ | hchange⟩ | ⟨u, heq, _⟩
      · obtain rfl := some.inj (hr.symm.trans hr₁)
        exact hsame.trans hready
      · obtain rfl := some.inj (hr.symm.trans hr₁)
        have hid : id = id' := by
          rcases hwrite with rfl | rfl
          · exact hchange.1
          · exact hchange.1
        exact absurd hready (hnot r (hid ▸ hr))
      · rcases hwrite with rfl | rfl <;> cases heq
  | start | stop | clientPut | photo | tick => exact hpurge.elim

/-- In every run that meets the condition every ready row has its key in the bucket, and no purge turns a
ready row into a purged or failed one. -/
theorem ready_has_bytes (hidle : s.Idle)
    (hbytes : ∀ id r, s.media.objects.rows.get? id = some r → r.status = .ready → (s.bucket.get? id).isSome)
    (hguard : Guarded (step cfg) (KeysKept cfg) s as) (hrun : run (step cfg) s as = some t) :
    (∀ id r, t.media.objects.rows.get? id = some r → r.status = .ready → (t.bucket.get? id).isSome) ∧
      ∀ a u, t.PurgeWrites a → step cfg t a = some u → ∀ id r r', t.media.objects.rows.get? id = some r →
        r.status = .ready → u.media.objects.rows.get? id = some r' → r'.status = .ready := by
  have hstart : s.Stored := by
    refine ⟨hbytes, fun id hlisted => ?_⟩
    obtain ⟨_, _, hstage, _⟩ := isListed_iff.mp hlisted
    rw [hidle.calls] at hstage
    cases hstage
  have hend : t.Stored := run_invariant (fun _ _ _ hs hc hstep => hs.step hc hstep) hstart hguard hrun
  exact ⟨hend.ready, fun a u hpurge hstep => hend.purge_step hpurge hstep⟩

end Stored

def expiredBesideCompleted : List StorageAction :=
  presigned ++ ([.tick 90000, .start 1 (.purgePending 1 24 10), .advance 1 true,
    .start 0 (.upload ⟨1, 1, "agency_logo", 4, true⟩), .advance 0 true, .advance 0 true, .advance 0 true,
    .advance 1 true, .advance 0 true] : List StorageAction)

/-- The completed one is ready and has its bytes; the purge is about to write the other one. -/
theorem ready_has_bytes_expired : ∃ t, run (step sampleConfig) emptyDesk expiredBesideCompleted = some t ∧
    (t.media.objects.rows.get? 1).map StorageObject.status = some .ready ∧
    t.calls.get? 1 = some (.purgingRow .pending 0 []) ∧
    (∀ id r, t.media.objects.rows.get? id = some r → r.status = .ready → (t.bucket.get? id).isSome) := by
  obtain ⟨t, hrun, hboth⟩ := map_eq_some_iff.mp
    (by decide +kernel : (run (step sampleConfig) emptyDesk expiredBesideCompleted).map
      (fun t => ((t.media.objects.rows.get? 1).map StorageObject.status, t.calls.get? 1))
        = some (some .ready, some (.purgingRow .pending 0 [])))
  obtain ⟨hready, hpurge⟩ := Prod.mk.inj hboth
  have hbytes := ready_has_bytes emptyDesk_idle (by rintro id r ⟨⟩) (by decide +kernel) hrun
  exact ⟨t, hrun, hready, hpurge, hbytes.1⟩

def completedWhileListed : List StorageAction :=
  presigned ++ ([.tick 90000, .start 1 (.purgePending 1 24 10), .advance 1 true] : List StorageAction) ++ completion 0 ++
    ([.advance 1 true] : List StorageAction)

/-- The row is ready without its bytes, and the purge writes it as failed. -/
theorem ready_without_bytes : ∃ t u, run (step sampleConfig) emptyDesk completedWhileListed = some t ∧
    ((t.media.objects.rows.get? 0).map StorageObject.status = some .ready ∧ t.bucket.get? 0 = none) ∧
    step sampleConfig t (.advance 1 true) = some u ∧
    (u.media.objects.rows.get? 0).map StorageObject.status = some .failed := by
  obtain ⟨t, hrun, hboth⟩ := map_eq_some_iff.mp
    (by decide +kernel : (run (step sampleConfig) emptyDesk completedWhileListed).map
      (fun t => (((t.media.objects.rows.get? 0).map StorageObject.status, t.bucket.get? 0),
        (step sampleConfig t (.advance 1 true)).map fun u =>
          (u.media.objects.rows.get? 0).map StorageObject.status))
        = some ((some .ready, none), some (some .failed)))
  obtain ⟨hbefore, hafter⟩ := Prod.mk.inj hboth
  obtain ⟨u, hu, hfailed⟩ := map_eq_some_iff.mp hafter
  exact ⟨t, u, hrun, Prod.mk.inj hbefore, hu, hfailed⟩

end StorageDesk

end ImmoApp.Storage
