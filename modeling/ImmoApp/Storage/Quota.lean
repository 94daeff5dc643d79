import ImmoApp.Storage.Usage

/-!
# The storage quota

The quota of an agency is checked when an upload reserves its bytes.  Completions, restores and the operations on photos
make rows ready without a check.  `added` counts the bytes of a row that were not counted before.

`quota_holds`: in every run in which the added bytes find room the ready and the pending rows of an agency stay within
the quota.  What an upload has checked and not yet inserted is part of what takes room.
-/

namespace ImmoApp.Storage

open List Option Keyed

def reservedBytes (agencyId : ℕ) (_ : ℕ) (r : StorageObject) : ℕ :=
  if r.agencyId = agencyId ∧ (r.status = .ready ∨ r.status = .pending) then r.sizeBytes else 0

def StorageWrite.addedTo (db : Media) (agencyId : ℕ) (w : StorageWrite) (id : ℕ) (r : StorageObject) : ℕ :=
  if r.agencyId = agencyId then
    match w with
    | markReady id' sizeBytes _ _ => if id = id' then sizeBytes - reservedBytes agencyId id r else 0
    | restore id' _ => if id = id' ∧ r.status = .deleted then r.sizeBytes else 0
    | photo op => if id ∈ op.reattached db ∧ r.status = .deleted then r.sizeBytes else 0
    | _ => 0
  else 0

def StorageWrite.added (db : Media) (agencyId : ℕ) (w : StorageWrite) : ℕ :=
  db.objects.rows.total (w.addedTo db agencyId)

/-- The bytes of an upload that has passed the check and inserts its row next. -/
def Stage.claimedBytes (agencyId : ℕ) (_ : ℕ) : Stage → ℕ
  | inserting u => if u.agencyId = agencyId then u.sizeBytes else 0
  | _ => 0

namespace StorageDesk

def claimed (agencyId : ℕ) (s : StorageDesk) : ℕ := s.calls.total (Stage.claimedBytes agencyId)

/-- The ready, the pending and the claimed bytes are within the quota. -/
def Within (quota : ℕ) (s : StorageDesk) : Prop :=
  ∀ agencyId, s.media.objects.getReservedUsageForAgency agencyId + s.claimed agencyId ≤ quota

/-- What a committed step adds without a check finds room, in every agency that has rows. -/
def RoomLeft (cfg : StorageConfig) (quota : ℕ) (s : StorageDesk) (a : StorageAction) : Prop :=
  ∀ w ∈ s.writeOf cfg a, (w.apply s.media).isSome → ∀ e ∈ s.media.objects.rows.entries,
    w.added s.media e.2.agencyId = 0 ∨ s.media.objects.getReservedUsageForAgency e.2.agencyId + s.claimed e.2.agencyId
        + w.added s.media e.2.agencyId ≤ quota

instance (cfg : StorageConfig) (quota : ℕ) (s : StorageDesk) (a : StorageAction) :
    Decidable (s.RoomLeft cfg quota a) := by
  unfold RoomLeft
  infer_instance

section Quota

variable {cfg : StorageConfig} {s t : StorageDesk} {a : StorageAction} {w : StorageWrite} {db db' : Media}
  {agencyId quota pid : ℕ} {stage stage' : Stage} {o : Outcome} {ok : Bool} {as : List StorageAction}

/-! ### One write -/

lemma reservedBytes_le {id : ℕ} {r r' : StorageObject} (hagency : r'.agencyId = r.agencyId)
    (hchange : (r'.status = r.status ∧ r'.sizeBytes = r.sizeBytes) ∨ w.Changes db id r r') :
    reservedBytes agencyId id r' ≤ reservedBytes agencyId id r + w.addedTo db agencyId id r := by
  by_cases hown : r.agencyId = agencyId
  · have hown' : r'.agencyId = agencyId := hagency.trans hown
    rcases hchange with ⟨hstatus, hsize⟩ | hchange
    · have hsame : reservedBytes agencyId id r' = reservedBytes agencyId id r := by
        rw [reservedBytes, reservedBytes, hstatus, hsize, hown, hown']
      omega
    · -- a row that is not counted afterwards is no matter
      have hnone : r'.status ≠ .ready → r'.status ≠ .pending → reservedBytes agencyId id r' = 0 := by
        intro hready hpending
        simp [reservedBytes, hready, hpending]
      have hready : r'.status = .ready → reservedBytes agencyId id r' = r'.sizeBytes := by
        intro hready
        simp [reservedBytes, hready, hown']
      cases w with
      | create => exact hchange.elim
      | purgeNow => exact hchange.elim
      | markFailed _ _ | expire _ | markDeleted _ _ | markPurged _ =>
        rw [hnone (by rw [hchange.2.1]; decide) (by rw [hchange.2.1]; decide)]
        exact Nat.zero_le _
      | markReady id' sizeBytes _ _ =>
        obtain ⟨rfl, hstatus, hsize⟩ := hchange
        rw [hready hstatus, hsize, StorageWrite.addedTo, if_pos hown]
        rw [if_pos rfl]
        omega
      | restore id' _ =>
        obtain ⟨rfl, ⟨hdeleted, hstatus⟩, hsize⟩ := hchange
        rw [hready hstatus, hsize, StorageWrite.addedTo, if_pos hown]
        rw [if_pos ⟨rfl, hdeleted⟩]
        omega
      | photo op =>
        obtain ⟨⟨_, hdeleted⟩ | ⟨hmem, hdeleted, hstatus⟩, hsize⟩ := hchange
        · rw [hnone (by rw [hdeleted]; decide) (by rw [hdeleted]; decide)]
          exact Nat.zero_le _
        · rw [hready hstatus, hsize, StorageWrite.addedTo, if_pos hown]
          rw [if_pos ⟨hmem, hdeleted⟩]
          omega
  · have hzero : reservedBytes agencyId id r' = 0 := by simp [reservedBytes, hagency, hown]
    omega

variable (agencyId) in
lemma reserved_apply (hcreate : ∀ id u, w ≠ .create id u) (h : w.apply db = some db') :
    db'.objects.getReservedUsageForAgency agencyId
      ≤ db.objects.getReservedUsageForAgency agencyId + w.added db agencyId := by
  have hle : db'.objects.rows.total (reservedBytes agencyId)
      ≤ db.objects.rows.total fun id r => reservedBytes agencyId id r + w.addedTo db agencyId id r := by
    refine total_le_of_get? fun id r' hr' => ?_
    rcases w.rows_apply h hr' with ⟨r, hr, hagency, hchange⟩ | ⟨u, hw, _⟩
    · exact ⟨r, hr, reservedBytes_le hagency hchange⟩
    · exact absurd hw (hcreate id u)
  rw [total_add] at hle
  exact hle

lemma added_eq_zero (h : ∀ e ∈ db.objects.rows.entries, e.2.agencyId ≠ agencyId) : w.added db agencyId = 0 := by
  rw [StorageWrite.added, Keyed.total]
  refine sum_eq_zero fun n hn => ?_
  obtain ⟨e, he, rfl⟩ := mem_map.mp hn
  exact if_neg (h e he)

lemma Within.added_le (hwithin : s.Within quota) (hroom : s.RoomLeft cfg quota a)
    (hw : s.writeOf cfg a = some w) (happly : w.apply s.media = some db') (agencyId : ℕ) :
    s.media.objects.getReservedUsageForAgency agencyId + s.claimed agencyId + w.added s.media agencyId ≤ quota := by
  have hzero : w.added s.media agencyId = 0 →
      s.media.objects.getReservedUsageForAgency agencyId + s.claimed agencyId + w.added s.media agencyId ≤ quota := by
    intro hzero
    have := hwithin agencyId
    omega
  by_cases hrows : ∀ e ∈ s.media.objects.rows.entries, e.2.agencyId ≠ agencyId
  · exact hzero (added_eq_zero hrows)
  · push Not at hrows
    obtain ⟨e, he, rfl⟩ := hrows
    rcases hroom w hw (happly ▸ rfl) e he with hnone | hfits
    · exact hzero hnone
    · exact hfits

/-! ### The claims of uploads -/

lemma outcome_inserting {u : Upload} (ho : s.outcome cfg ok stage = some o) (hnext : o.next = some (.inserting u)) :
    stage = .reserving u ∧ o.write = none ∧ s.quotaLockFree u.agencyId = true ∧
      enforceLimits cfg u.sizeBytes u.agencyId u.userId u.purpose s.media.objects = .ok () := by
  rw [outcome.eq_def] at ho
  split at ho
  case h_1 u' =>
    split at ho
    · next hfree =>
      split at ho
      · next hlimits =>
        cases ho
        cases hnext
        exact ⟨rfl, rfl, hfree, hlimits⟩
      · cases ho
        cases hnext
    · cases ho
  all_goals
    repeat' split at ho
    all_goals
      cases ho
      try cases hnext

lemma claimed_of_lockFree (h : s.quotaLockFree agencyId = true) : s.claimed agencyId = 0 := by
  rw [claimed, Keyed.total]
  refine sum_eq_zero fun n hn => ?_
  obtain ⟨e, he, rfl⟩ := mem_map.mp hn
  have hfree := all_eq_true.mp h e he
  rw [Stage.claimedBytes.eq_def]
  split
  · next u hstage =>
    rw [hstage] at hfree
    exact if_neg (by simpa using hfree)
  · rfl

variable (agencyId) in
lemma total_callsAfter (hstage : s.calls.get? pid = some stage) (next : Option Stage) :
    (s.callsAfter pid next).total (Stage.claimedBytes agencyId) + stage.claimedBytes agencyId pid
      = s.claimed agencyId + (next.map (Stage.claimedBytes agencyId pid)).getD 0 := by
  cases next with
  | none => exact total_deleteKey (f := Stage.claimedBytes agencyId) hstage
  | some stage' => exact total_set_of_some (f := Stage.claimedBytes agencyId) hstage stage'

variable (agencyId) in
lemma claimed_deleteKey_le (pid : ℕ) :
    (s.calls.deleteKey pid).total (Stage.claimedBytes agencyId) ≤ s.claimed agencyId := by
  cases hstage : s.calls.get? pid with
  | none => rw [deleteKey_of_get?_eq_none hstage, claimed]
  | some =>
    have htotal := total_deleteKey (f := Stage.claimedBytes agencyId) hstage
    rw [claimed]
    omega

lemma claimedBytes_eq_zero (h : ∀ u, stage ≠ .inserting u) : stage.claimedBytes agencyId pid = 0 := by
  rw [Stage.claimedBytes.eq_def]
  split
  · next u => exact absurd rfl (h u)
  · rfl

variable (agencyId) in
lemma claimed_callsAfter_le (hstage : s.calls.get? pid = some stage) {next : Option Stage}
    (hnext : ∀ u, next ≠ some (.inserting u)) :
    (s.callsAfter pid next).total (Stage.claimedBytes agencyId) + stage.claimedBytes agencyId pid
      = s.claimed agencyId := by
  rw [total_callsAfter agencyId hstage]
  cases next with
  | none => rfl
  | some =>
    rw [map_some, getD_some, claimedBytes_eq_zero fun u heq => hnext u (heq ▸ rfl)]
    rfl

/-! ### Runs -/

lemma Within.perform (hwithin : s.Within quota) (hquota : cfg.agencyQuotaBytes = some quota) (hsound : s.Sound)
    (hroom : s.RoomLeft cfg quota (.advance pid ok)) (hstage : s.calls.get? pid = some stage)
    (ho : s.outcome cfg ok stage = some o) : (s.perform pid o).Within quota := by
  intro agencyId
  have hbefore := hwithin agencyId
  rw [StorageDesk.perform]
  split
  · next hwrite =>
    change s.media.objects.getReservedUsageForAgency agencyId
      + (s.callsAfter pid o.next).total (Stage.claimedBytes agencyId) ≤ quota
    by_cases hclaims : ∃ u, o.next = some (.inserting u)
    · -- the limits were checked while nobody of the agency held the lock
      obtain ⟨u, hnext⟩ := hclaims
      obtain ⟨rfl, _, hfree, hlimits⟩ := outcome_inserting ho hnext
      have hfits := quota_of_enforceLimits hquota hlimits
      have htotal := total_callsAfter agencyId hstage o.next
      rw [hnext, map_some, getD_some] at htotal
      rw [hnext]
      change _ + 0 = _ + (if u.agencyId = agencyId then u.sizeBytes else 0) at htotal
      split at htotal
      · next heq =>
        subst heq
        have hfree := claimed_of_lockFree hfree
        omega
      · omega
    · have htotal := claimed_callsAfter_le agencyId hstage (not_exists.mp hclaims)
      omega
  · next w hwrite =>
    have hw := (writeOf_advance hstage ho).trans hwrite
    split
    · have hle := claimed_deleteKey_le (s := s) agencyId pid
      change s.media.objects.getReservedUsageForAgency agencyId
        + (s.calls.deleteKey pid).total (Stage.claimedBytes agencyId) ≤ quota
      omega
    · next media happly =>
      change media.objects.getReservedUsageForAgency agencyId
        + (s.callsAfter pid o.next).total (Stage.claimedBytes agencyId) ≤ quota
      have hnext : ∀ u, o.next ≠ some (.inserting u) := by
        intro u hnext
        obtain ⟨_, hnone, _⟩ := outcome_inserting ho hnext
        exact absurd (hnone.symm.trans hwrite) (by simp)
      have htotal := claimed_callsAfter_le agencyId hstage hnext
      by_cases hcreate : ∃ id u, w = .create id u
      · -- the claim becomes a row
        obtain ⟨id, u, rfl⟩ := hcreate
        have hnew := hsound.fits hw
        obtain ⟨_, _, _, hact, hinserting⟩ := writeOf_create hw
        cases hact
        obtain rfl := some.inj (hstage.symm.trans hinserting)
        cases happly
        have hrow := total_set (f := reservedBytes agencyId) hnew
          ⟨u.agencyId, u.userId, u.purpose, u.sizeBytes, .pending, s.media.objects.now, none⟩
        have hbytes : reservedBytes agencyId id
            ⟨u.agencyId, u.userId, u.purpose, u.sizeBytes, .pending, s.media.objects.now, none⟩
              = (Stage.inserting u).claimedBytes agencyId pid := by
          simp [reservedBytes, Stage.claimedBytes]
        rw [hbytes] at hrow
        change (s.media.objects.rows.set id _).total (reservedBytes agencyId) + _ ≤ quota
        change s.media.objects.rows.total (reservedBytes agencyId) + _ ≤ quota at hbefore
        omega
      · have hle := reserved_apply agencyId (fun id u heq => hcreate ⟨id, u, heq⟩) happly
        have hadded := hwithin.added_le hroom hw happly agencyId
        omega

lemma Within.step (hwithin : s.Within quota) (hquota : cfg.agencyQuotaBytes = some quota) (hsound : s.Sound)
    (hroom : s.RoomLeft cfg quota a) (hstep : step cfg s a = some t) : t.Within quota := by
  cases a with
  | start pid call =>
    rw [StorageDesk.step] at hstep
    split at hstep
    · cases hstep
    · next hnone =>
      cases hstep
      intro agencyId
      have htotal := total_set (f := Stage.claimedBytes agencyId) (not_isSome_iff_eq_none.mp hnone) call.first
      have hzero : call.first.claimedBytes agencyId pid = 0 := by cases call <;> rfl
      rw [hzero] at htotal
      have hbefore := hwithin agencyId
      change s.media.objects.getReservedUsageForAgency agencyId
        + (s.calls.set pid call.first).total (Stage.claimedBytes agencyId) ≤ quota
      rw [htotal]
      exact hbefore
  | advance =>
    obtain ⟨_, o, hstage, ho, rfl⟩ := step_advance hstep
    exact hwithin.perform hquota hsound hroom hstage ho
  | stop pid =>
    cases hstep
    exact fun agencyId => (Nat.add_le_add_left (claimed_deleteKey_le _ pid) _).trans (hwithin agencyId)
  | clientPut key length =>
    rw [StorageDesk.step] at hstep
    split at hstep
    · cases hstep
      exact hwithin
    · cases hstep
  | photo op =>
    cases hstep
    cases hexec : op.exec s.media with
    | none => exact hwithin
    | some media =>
      intro agencyId
      have hle := reserved_apply (w := .photo op) agencyId (fun id u heq => by cases heq) hexec
      have hadded := hwithin.added_le hroom (w := .photo op) rfl hexec agencyId
      change media.objects.getReservedUsageForAgency agencyId + s.claimed agencyId ≤ quota
      omega
  | tick seconds =>
    cases hstep
    exact hwithin

/-- In every run in which the bytes added without a check find room the quota of every agency holds. -/
theorem quota_holds (hquota : cfg.agencyQuotaBytes = some quota) (hidle : s.Idle)
    (hwithin : ∀ agencyId, s.media.objects.getReservedUsageForAgency agencyId ≤ quota)
    (hguard : Guarded (step cfg) (RoomLeft cfg quota) s as) (hrun : run (step cfg) s as = some t)
    (agencyId : ℕ) : t.media.objects.getReservedUsageForAgency agencyId ≤ quota := by
  have hstart : s.Within quota := by
    intro agencyId
    have hzero : s.claimed agencyId = 0 := by
      rw [claimed, hidle.calls]
      rfl
    rw [hzero]
    exact hwithin agencyId
  have hboth : t.Sound ∧ t.Within quota :=
    run_invariant (P := fun s => s.Sound ∧ s.Within quota)
      (fun _ _ _ hs hc hstep => ⟨hs.1.step hstep, hs.2.step hquota hs.1 hc hstep⟩) ⟨hidle.sound, hstart⟩
      hguard hrun
  exact le_of_add_le_left (hboth.2 agencyId)

end Quota

/-- The restored bytes find room. -/
theorem quota_holds_restored : ∃ t, run (step sampleConfig) emptyDesk deletedAndRestored = some t ∧
    t.media.objects.getReservedUsageForAgency 1 ≤ 10 := by
  obtain ⟨t, hrun, _⟩ := map_eq_some_iff.mp
    (by decide +kernel : (run (step sampleConfig) emptyDesk deletedAndRestored).map (fun _ => ()) = some ())
  exact ⟨t, hrun, quota_holds (rfl : sampleConfig.agencyQuotaBytes = some 10) emptyDesk_idle
    (fun _ => Nat.zero_le _) (by decide +kernel) hrun 1⟩

/-- A file of six bytes is deleted, another one of six is reserved, and the first one is restored: ten is the
quota. -/
def restoredOverQuota : List StorageAction :=
  [.start 0 (.upload ⟨1, 1, "agency_logo", 6, true⟩), .advance 0 true, .advance 0 true, .advance 0 true,
    .advance 0 true, .start 0 (.markDeleted 0), .advance 0 true, .advance 0 true,
    .start 0 (.upload ⟨1, 1, "agency_logo", 6, false⟩), .advance 0 true, .advance 0 true,
    .start 0 (.restore 0), .advance 0 true, .advance 0 true]

theorem quota_exceeded_by_restore : sampleConfig.agencyQuotaBytes = some 10 ∧
    ∃ t, run (step sampleConfig) emptyDesk restoredOverQuota = some t ∧
      t.media.objects.getReservedUsageForAgency 1 = 12 :=
  ⟨rfl, map_eq_some_iff.mp (by decide +kernel)⟩

end StorageDesk

end ImmoApp.Storage
