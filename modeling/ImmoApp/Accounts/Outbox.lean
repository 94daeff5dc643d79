import ImmoApp.Foundation.Runs
import ImmoApp.Foundation.Text
import ImmoApp.Foundation.Totals

/-!
# The email outbox

A run of `flush_outbox` expires old rows, makes rows pending again whose claim is too old, claims up to fifty pending
rows, and then reads each row again, sends it and saves the outcome from the copy it has read.  The steps of several
runs interleave, and a run may stop anywhere.

A claim does not say whose it is.  `outbox_forward`: rows go forward when no run claims a row that another run still has
before it, and none expires a row that another run is sending.
-/

namespace ImmoApp.Accounts

open List Option Keyed

/-! ### Rows -/

/-- The status of a row: `EmailOutbox.STATUS_…` and `_STATUS_SENDING`. -/
inductive EmailStatus where
  | pending
  | sending
  | sent
  | failedPermanent
  deriving DecidableEq

structure EmailMessage where
  toEmail : String
  subject : String
  bodyText : String
  bodyHtml : String

/-- A row of `EmailOutbox`. -/
structure OutboxRow where
  message : EmailMessage
  status : EmailStatus
  attempts : ℕ
  createdAt : ℕ
  lastAttemptAt : Option ℕ
  sentAt : Option ℕ
  errorMessage : String

inductive MailAnswer where
  | accepted
  | refused (reason : String)
  | failed (reason : String)

namespace OutboxRow

def final (r : OutboxRow) : Bool := r.status == .sent || r.status == .failedPermanent

/-- The new row of `queue_email`. -/
def queued (message : EmailMessage) (now : ℕ) : OutboxRow where
  message := { message with toEmail := strip message.toEmail }
  status := .pending
  attempts := 0
  createdAt := now
  lastAttemptAt := none
  sentAt := none
  errorMessage := ""

/-- The columns that the end of `_send_one`, or of the loop, writes; the number of attempts is that of the
copy the run has read. -/
def outcome (copy : OutboxRow) (answer : MailAnswer) (now : ℕ) (r : OutboxRow) : OutboxRow :=
  match answer with
  | .accepted => { r with
      status := .sent, sentAt := some now, lastAttemptAt := some now, attempts := copy.attempts + 1 }
  | .refused reason => { r with
      status := .failedPermanent, errorMessage := firstChars 1000 reason, lastAttemptAt := some now,
      attempts := copy.attempts + 1 }
  | .failed reason => { r with
      status := .pending, errorMessage := firstChars 1000 reason, lastAttemptAt := some now,
      attempts := copy.attempts + 1 }

end OutboxRow

/-! ### Runs of `flush_outbox` -/

/-- The arguments of `flush_outbox`. -/
structure FlushArgs where
  maxAgeHours : ℤ
  cleanupDays : ℤ
  claimTtlSeconds : ℤ

inductive FlushStage where
  | expiring
  | reclaiming
  | claiming
  /-- It reads the next of its rows, or cleans up when none is left. -/
  | fetching (ids : List ℕ)
  | sending (id : ℕ) (copy : OutboxRow) (ids : List ℕ)
  | saving (id : ℕ) (copy : OutboxRow) (answer : MailAnswer) (ids : List ℕ)

namespace FlushStage

/-- The row that the run has read and not yet saved. -/
def current? : FlushStage → Option ℕ
  | .sending id _ _ => some id
  | .saving id _ _ _ => some id
  | _ => none

def ahead : FlushStage → List ℕ
  | .fetching ids => ids
  | .sending id _ ids => id :: ids
  | .saving id _ _ ids => id :: ids
  | _ => []

end FlushStage

/-- A run of `flush_outbox`. -/
structure FlushRun where
  now : ℕ
  args : FlushArgs
  stage : FlushStage

namespace FlushRun

def cutoff (r : FlushRun) : ℕ := r.now - (max 1 r.args.maxAgeHours).toNat * 3600

def staleClaimCutoff (r : FlushRun) : ℕ := r.now - (max 60 r.args.claimTtlSeconds).toNat

def cleanupCutoff (r : FlushRun) : ℕ := r.now - (max 1 r.args.cleanupDays).toNat * 86400

end FlushRun

structure OutboxDesk where
  rows : Keyed ℕ OutboxRow
  runs : Keyed ℕ FlushRun
  clock : ℕ
  /-- History: the runs that have claimed a row, the last one first. -/
  takers : Dict ℕ ℕ

/-- `status = PENDING AND created_at < cutoff`. -/
def FlushRun.expires (r : FlushRun) (row : OutboxRow) : Bool :=
  row.status == .pending && decide (row.createdAt < r.cutoff)

/-- `status = SENDING AND last_attempt_at < stale_claim_cutoff`. -/
def FlushRun.stale (r : FlushRun) (row : OutboxRow) : Bool :=
  row.status == .sending && row.lastAttemptAt.any fun t => decide (t < r.staleClaimCutoff)

/-- `status = PENDING AND created_at >= cutoff`. -/
def FlushRun.due (r : FlushRun) (row : OutboxRow) : Bool :=
  row.status == .pending && decide (r.cutoff ≤ row.createdAt)

/-- `id IN ids AND status = PENDING`. -/
def OutboxRow.takenBy (ids : List ℕ) (id : ℕ) (row : OutboxRow) : Bool :=
  ids.contains id && row.status == .pending

namespace OutboxDesk

def withStage (s : OutboxDesk) (k : ℕ) (r : FlushRun) (stage : FlushStage) : OutboxDesk :=
  { s with runs := s.runs.set k { r with stage := stage } }

def endRun (s : OutboxDesk) (k : ℕ) : OutboxDesk := { s with runs := s.runs.deleteKey k }

def expireOld (s : OutboxDesk) (r : FlushRun) : OutboxDesk :=
  { s with rows := s.rows.update (fun _ row => r.expires row) fun _ row =>
      { row with status := .failedPermanent, errorMessage := "Expired after max retry window" } }

def reclaim (s : OutboxDesk) (r : FlushRun) : OutboxDesk :=
  { s with rows := s.rows.update (fun _ row => r.stale row) fun _ row =>
      { row with status := .pending, errorMessage := "Delivery claim expired; retrying." } }

def claimable (s : OutboxDesk) (r : FlushRun) (locked : List ℕ) : List ℕ :=
  (((s.rows.entries.filter fun e => r.due e.2 && !locked.contains e.1).insertionSort
    fun e e' => e.2.createdAt ≤ e'.2.createdAt).take 50).map Prod.fst

def claim (s : OutboxDesk) (k : ℕ) (r : FlushRun) (locked : List ℕ) : OutboxDesk :=
  let ids := s.claimable r locked
  { s with
    rows := s.rows.update (OutboxRow.takenBy ids) fun _ row =>
      { row with status := .sending, lastAttemptAt := some r.now }
    takers := ids.map (·, k) ++ s.takers }.withStage k r (.fetching ids)

def cleanUp (s : OutboxDesk) (r : FlushRun) : OutboxDesk :=
  { s with rows := s.rows.delete fun _ row => row.final && decide (row.createdAt < r.cleanupCutoff) }

/-- `flush_outbox`, one statement at a time.  `locked` are the rows that other transactions have locked, and
`answer` is what the mail server says, where the step asks. -/
def flushOutbox (s : OutboxDesk) (k : ℕ) (r : FlushRun) (locked : List ℕ) (answer : MailAnswer) :
    OutboxDesk :=
  match r.stage with
  | .expiring => (s.expireOld r).withStage k r .reclaiming
  | .reclaiming => (s.reclaim r).withStage k r .claiming
  | .claiming => s.claim k r locked
  | .fetching [] => (s.cleanUp r).endRun k
  | .fetching (id :: ids) =>
    match (s.rows.get? id).filter fun row => row.status == .sending with
    | some row => s.withStage k r (.sending id row ids)
    | none => s.withStage k r (.fetching ids)
  | .sending id copy ids => s.withStage k r (.saving id copy answer ids)
  | .saving id copy answer ids =>
    -- saving a row that is gone raises
    if (s.rows.get? id).isSome then
      { s with rows := s.rows.updateKey id (copy.outcome answer s.clock) }.withStage k r (.fetching ids)
    else s.endRun k

/-- `send_platform_email`: the row is queued under a new id. -/
def sendPlatformEmail (s : OutboxDesk) (id : ℕ) (message : EmailMessage) : OutboxDesk :=
  if strip message.toEmail = "" then s
  else { s with rows := s.rows.set id (.queued message s.clock) }

end OutboxDesk

inductive OutboxStep where
  | queue (id : ℕ) (message : EmailMessage)
  | start (run : ℕ) (args : FlushArgs)
  | advance (run : ℕ) (locked : List ℕ) (answer : MailAnswer)
  | stop (run : ℕ)
  | tick (elapsed : ℕ)

def OutboxDesk.newRun (s : OutboxDesk) (k : ℕ) : Bool :=
  (s.runs.get? k).isNone && (s.takers.map Prod.snd).all fun taker => taker != k

def OutboxDesk.step (s : OutboxDesk) : OutboxStep → Option OutboxDesk
  | .queue id message =>
    if (s.rows.get? id).isSome then none else some (s.sendPlatformEmail id message)
  | .start run args =>
    if s.newRun run then some { s with runs := s.runs.set run ⟨s.clock, args, .expiring⟩ } else none
  | .advance run locked answer => (s.runs.get? run).map fun r => s.flushOutbox run r locked answer
  | .stop run => some (s.endRun run)
  | .tick elapsed => some { s with clock := s.clock + elapsed }

/-! ### Forward steps -/

structure OutboxForward (s : OutboxDesk) (a : OutboxStep) (t : OutboxDesk) : Prop where
  final : ∀ id p q, s.rows.get? id = some p → p.final = true → t.rows.get? id = some q → q.final = true
  /-- A run sends or saves a row only while no other run has claimed it since. -/
  owned : ∀ run locked answer r id, a = .advance run locked answer → s.runs.get? run = some r →
    r.stage.current? = some id → s.takers.get? id = some run

/-- A run claims no row that another run still has before it, and expires no row that another run has read
and not yet saved. -/
def FlushRun.Unheld (s : OutboxDesk) (locked : List ℕ) : FlushRun → Prop
  | r@⟨_, _, .expiring⟩ => ∀ e ∈ s.runs.entries, ∀ id ∈ e.2.stage.current?, ∀ row ∈ s.rows.get? id,
      r.expires row = false
  | r@⟨_, _, .claiming⟩ => ∀ e ∈ s.runs.entries, ∀ id ∈ e.2.stage.ahead, id ∉ s.claimable r locked
  | _ => True

instance (s : OutboxDesk) (locked : List ℕ) : ∀ r : FlushRun, Decidable (r.Unheld s locked)
  | ⟨_, _, .expiring⟩ => inferInstanceAs (Decidable (∀ e ∈ _, ∀ id ∈ _, ∀ row ∈ _, _ = false))
  | ⟨_, _, .claiming⟩ => inferInstanceAs (Decidable (∀ e ∈ _, ∀ id ∈ _, _ ∉ _))
  | ⟨_, _, .reclaiming⟩ | ⟨_, _, .fetching _⟩ | ⟨_, _, .sending _ _ _⟩ | ⟨_, _, .saving _ _ _ _⟩ =>
    .isTrue trivial

def Unheld (s : OutboxDesk) : OutboxStep → Prop
  | .advance run locked _ => ∀ r ∈ s.runs.get? run, r.Unheld s locked
  | _ => True

instance (s : OutboxDesk) : ∀ a : OutboxStep, Decidable (Unheld s a)
  | .advance _ _ _ => inferInstanceAs (Decidable (∀ r ∈ _, _))
  | .queue _ _ | .start _ _ | .stop _ | .tick _ => .isTrue trivial

/-- What holds while no run gets in the way of another: each has claimed what it has before it, and what it
has read is not final. -/
structure OutboxDesk.Apart (s : OutboxDesk) : Prop where
  own : ∀ k r, s.runs.get? k = some r → ∀ id ∈ r.stage.ahead, s.takers.get? id = some k
  unfinished : ∀ k r, s.runs.get? k = some r → ∀ id, r.stage.current? = some id →
    ∀ row, s.rows.get? id = some row → row.final = false

namespace OutboxDesk

variable {s t : OutboxDesk} {k : ℕ} {r : FlushRun} {stage : FlushStage} {locked : List ℕ}
  {answer : MailAnswer}

lemma current?_mem_ahead {id : ℕ} (h : stage.current? = some id) : id ∈ stage.ahead := by
  cases stage with
  | sending | saving =>
    obtain ⟨⟩ := h
    exact mem_cons_self
  | expiring | reclaiming | claiming | fetching => simp [FlushStage.current?] at h

lemma get?_withStage (s : OutboxDesk) (k j : ℕ) (r : FlushRun) (stage : FlushStage) :
    (s.withStage k r stage).runs.get? j = if j = k then some { r with stage := stage } else s.runs.get? j :=
  get?_set s.runs k j _

/-- A row before and after a statement: final rows stay final, and what is not final becomes final only where
`touches` says so. -/
def Rewrites (s t : OutboxDesk) (touches : ℕ → OutboxRow → Prop) : Prop :=
  ∀ id q, t.rows.get? id = some q → ∃ p, s.rows.get? id = some p ∧ (p.final = true → q.final = true) ∧
    (q.final = true → p.final = true ∨ touches id p)

lemma rewrites_expireOld (s : OutboxDesk) (r : FlushRun) :
    s.Rewrites (s.expireOld r) fun _ p => r.expires p = true := by
  intro id q hq
  rw [expireOld, get?_update] at hq
  obtain ⟨p, hp, rfl⟩ := map_eq_some_iff.mp hq
  refine ⟨p, hp, ?_, ?_⟩
  · split <;> simp [OutboxRow.final]
  · split <;> simp_all

lemma rewrites_reclaim (s : OutboxDesk) (r : FlushRun) : s.Rewrites (s.reclaim r) fun _ _ => False := by
  intro id q hq
  rw [reclaim, get?_update] at hq
  obtain ⟨p, hp, rfl⟩ := map_eq_some_iff.mp hq
  refine ⟨p, hp, ?_, ?_⟩
  · split
    · next hstale =>
      have hstatus : p.status = .sending := by simpa using ((Bool.and_eq_true _ _).mp hstale).1
      simp [OutboxRow.final, hstatus]
    · exact fun h => h
  · split
    · simp [OutboxRow.final]
    · exact .inl

lemma rewrites_claim (s : OutboxDesk) (k : ℕ) (r : FlushRun) (locked : List ℕ) :
    s.Rewrites (s.claim k r locked) fun _ _ => False := by
  intro id q hq
  rw [claim, withStage, get?_update] at hq
  obtain ⟨p, hp, rfl⟩ := map_eq_some_iff.mp hq
  refine ⟨p, hp, ?_, ?_⟩
  · split
    · next hsel =>
      have hstatus : p.status = .pending := by simpa using ((Bool.and_eq_true _ _).mp hsel).2
      simp [OutboxRow.final, hstatus]
    · exact fun h => h
  · split
    · simp [OutboxRow.final]
    · exact .inl

lemma rewrites_cleanUp (s : OutboxDesk) (r : FlushRun) : s.Rewrites (s.cleanUp r) fun _ _ => False := by
  intro id q hq
  rw [cleanUp, get?_delete] at hq
  exact ⟨q, (filter_eq_some_iff.mp hq).1, fun h => h, .inl⟩

lemma rewrites_save (s : OutboxDesk) (id : ℕ) (f : OutboxRow → OutboxRow)
    (hopen : ∀ p, s.rows.get? id = some p → p.final = false) :
    s.Rewrites { s with rows := s.rows.updateKey id f } fun i _ => i = id := by
  intro i q hq
  rw [get?_updateKey] at hq
  split at hq
  · next hi =>
    subst hi
    obtain ⟨p, hp, rfl⟩ := map_eq_some_iff.mp hq
    exact ⟨p, hp, fun hfinal => absurd hfinal (by simp [hopen p hp]), fun _ => .inr rfl⟩
  · exact ⟨q, hq, fun h => h, .inl⟩

lemma Apart.rewrite (h : s.Apart) {touches : ℕ → OutboxRow → Prop} (hrows : s.Rewrites t touches)
    (hruns : t.runs = s.runs) (htakers : t.takers = s.takers)
    (htouches : ∀ j r id p, s.runs.get? j = some r → r.stage.current? = some id →
      s.rows.get? id = some p → ¬ touches id p) : t.Apart where
  own := by
    rw [hruns, htakers]
    exact h.own
  unfinished := by
    intro j r hr id hid q hq
    rw [hruns] at hr
    obtain ⟨p, hp, -, hfinal⟩ := hrows id q hq
    by_contra hnot
    rcases hfinal (by simpa using hnot) with hold | htouched
    · exact absurd hold (by simp [h.unfinished j r hr id hid p hp])
    · exact htouches j r id p hr hid hp htouched

lemma Apart.withStage (h : s.Apart) (hahead : ∀ id ∈ stage.ahead, s.takers.get? id = some k)
    (hcurrent : ∀ id, stage.current? = some id → ∀ row, s.rows.get? id = some row → row.final = false) :
    (s.withStage k r stage).Apart where
  own := by
    intro j r' hr' id hid
    rw [get?_withStage] at hr'
    split at hr'
    · next hj =>
      obtain ⟨⟩ := hr'
      exact hj ▸ hahead id hid
    · exact h.own j r' hr' id hid
  unfinished := by
    intro j r' hr' id hid
    rw [get?_withStage] at hr'
    split at hr'
    · obtain ⟨⟩ := hr'
      exact hcurrent id hid
    · exact h.unfinished j r' hr' id hid

lemma Apart.endRun (h : s.Apart) : (s.endRun k).Apart where
  own := by
    intro j r' hr' id hid
    rw [OutboxDesk.endRun, get?_deleteKey] at hr'
    split at hr'
    · simp at hr'
    · exact h.own j r' hr' id hid
  unfinished := by
    intro j r' hr' id hid
    rw [OutboxDesk.endRun, get?_deleteKey] at hr'
    split at hr'
    · simp at hr'
    · exact h.unfinished j r' hr' id hid

lemma get?_takers (ids : List ℕ) (k : ℕ) (takers : Dict ℕ ℕ) (id : ℕ) :
    Dict.get? (ids.map (·, k) ++ takers) id = if id ∈ ids then some k else takers.get? id := by
  induction ids with
  | nil => simp
  | cons i _ ih =>
    rw [map_cons, cons_append, Dict.get?_cons, ih]
    by_cases hi : id = i
    · simp [hi]
    · simp [hi]

lemma Apart.claim (h : s.Apart) (hunheld : ∀ e ∈ s.runs.entries, ∀ id ∈ e.2.stage.ahead,
    id ∉ s.claimable r locked) : (s.claim k r locked).Apart := by
  have htaken : OutboxDesk.Apart { s with
      takers := (s.claimable r locked).map (·, k) ++ s.takers } := by
    refine ⟨fun j r' hr' id hid => ?_, h.unfinished⟩
    have hother := hunheld (j, r') (mem_entries_iff.mpr hr') id hid
    rw [get?_takers, if_neg hother]
    exact h.own j r' hr' id hid
  have hstage : (OutboxDesk.withStage { s with
      takers := (s.claimable r locked).map (·, k) ++ s.takers } k r (.fetching (s.claimable r locked))).Apart :=
    htaken.withStage (fun id hid => (get?_takers _ k _ id).trans (if_pos hid))
      fun id hid => by simp [FlushStage.current?] at hid
  exact hstage.rewrite (t := s.claim k r locked) (rewrites_claim s k r locked) rfl rfl
    fun _ _ _ _ _ _ _ hfalse => hfalse

lemma Apart.flushOutbox (h : s.Apart) (hr : s.runs.get? k = some r)
    (hunheld : Unheld s (.advance k locked answer)) : (s.flushOutbox k r locked answer).Apart := by
  have hown := h.own k r hr
  have hopen := h.unfinished k r hr
  have hguard := hunheld r hr
  obtain ⟨now, args, stage⟩ := r
  cases stage with
  | expiring =>
    refine (h.rewrite (rewrites_expireOld s _) rfl rfl fun j r' id p hr' hid hp hexpires => ?_).withStage
      (fun id hid => by simp [FlushStage.ahead] at hid) fun id hid => by simp [FlushStage.current?] at hid
    have hkept := hguard (j, r') (mem_entries_iff.mpr hr') id hid p hp
    exact absurd hexpires (by simp [hkept])
  | reclaiming =>
    exact (h.rewrite (rewrites_reclaim s _) rfl rfl fun _ _ _ _ _ _ _ hfalse => hfalse).withStage
      (fun id hid => by simp [FlushStage.ahead] at hid) fun id hid => by simp [FlushStage.current?] at hid
  | claiming => exact h.claim hguard
  | fetching ids =>
    cases ids with
    | nil => exact (h.rewrite (rewrites_cleanUp s _) rfl rfl fun _ _ _ _ _ _ _ hfalse => hfalse).endRun
    | cons id =>
      simp only [OutboxDesk.flushOutbox]
      split
      · next row hrow =>
        obtain ⟨hget, hsending⟩ := filter_eq_some_iff.mp hrow
        refine h.withStage hown fun id' hid' row' hrow' => ?_
        obtain ⟨⟩ := hid'
        obtain rfl := some.inj (hget.symm.trans hrow')
        simp [OutboxRow.final, eq_of_beq hsending]
      · exact h.withStage (fun id' hid' => hown id' (mem_cons_of_mem id hid'))
          fun id' hid' => by simp [FlushStage.current?] at hid'
  | sending => exact h.withStage hown hopen
  | saving id copy answer' ids =>
    simp only [OutboxDesk.flushOutbox]
    split
    · have hstage : (s.withStage k ⟨now, args, .saving id copy answer' ids⟩ (.fetching ids)).Apart :=
        h.withStage (fun id' hid' => hown id' (mem_cons_of_mem id hid'))
          fun id' hid' => by simp [FlushStage.current?] at hid'
      refine hstage.rewrite (rewrites_save _ id _ (hopen id rfl)) rfl rfl fun j r' id' p hr' hid' hp => ?_
      rintro rfl
      rw [get?_withStage] at hr'
      split at hr'
      · obtain ⟨⟩ := hr'
        simp [FlushStage.current?] at hid'
      · next hj =>
        -- two runs that have read the row would both be its last taker
        have htaker := h.own j r' hr' id' (current?_mem_ahead hid')
        exact hj (some.inj (htaker.symm.trans (hown id' mem_cons_self)))
    · exact h.endRun

lemma Rewrites.mono {touches touches' : ℕ → OutboxRow → Prop} (h : s.Rewrites t touches)
    (hmore : ∀ id p, touches id p → touches' id p) : s.Rewrites t touches' := by
  intro id q hq
  obtain ⟨p, hp, hstays, hbecomes⟩ := h id q hq
  exact ⟨p, hp, hstays, fun hfinal => (hbecomes hfinal).imp_right (hmore id p)⟩

lemma Apart.rewrites_flushOutbox (h : s.Apart) (hr : s.runs.get? k = some r) :
    s.Rewrites (s.flushOutbox k r locked answer) fun _ _ => True := by
  have hopen := h.unfinished k r hr
  have hrefl : s.Rewrites s fun _ _ => True := fun id q hq => ⟨q, hq, fun h => h, .inl⟩
  obtain ⟨_, _, stage⟩ := r
  cases stage with
  | expiring => exact (rewrites_expireOld s _).mono fun _ _ _ => trivial
  | reclaiming => exact (rewrites_reclaim s _).mono fun _ _ _ => trivial
  | claiming => exact (rewrites_claim s k _ locked).mono fun _ _ _ => trivial
  | fetching ids =>
    cases ids with
    | nil => exact (rewrites_cleanUp s _).mono fun _ _ _ => trivial
    | cons =>
      simp only [OutboxDesk.flushOutbox]
      split <;> exact hrefl
  | sending => exact hrefl
  | saving id =>
    simp only [OutboxDesk.flushOutbox]
    split
    · exact (rewrites_save s id _ (hopen id rfl)).mono fun _ _ _ => trivial
    · exact hrefl

lemma get?_sendPlatformEmail {id i : ℕ} {message : EmailMessage} {row : OutboxRow}
    (h : (s.sendPlatformEmail id message).rows.get? i = some row) :
    s.rows.get? i = some row ∨ i = id ∧ row.final = false := by
  unfold sendPlatformEmail at h
  split at h
  · exact .inl h
  · rw [get?_set] at h
    split at h
    · next hi =>
      obtain ⟨⟩ := h
      exact .inr ⟨hi, rfl⟩
    · exact .inl h

lemma Apart.step (h : s.Apart) {a : OutboxStep} (hunheld : Unheld s a) (hstep : s.step a = some t) :
    t.Apart := by
  cases a with
  | queue id message =>
    rw [OutboxDesk.step] at hstep
    split at hstep
    · simp at hstep
    · obtain ⟨⟩ := hstep
      have hsame : (s.sendPlatformEmail id message).runs = s.runs ∧
          (s.sendPlatformEmail id message).takers = s.takers := by
        unfold sendPlatformEmail
        split <;> exact ⟨rfl, rfl⟩
      refine ⟨by rw [hsame.1, hsame.2]; exact h.own, fun k r hr i hi row hrow => ?_⟩
      rcases get?_sendPlatformEmail hrow with hold | ⟨-, hnew⟩
      · exact h.unfinished k r (hsame.1 ▸ hr) i hi row hold
      · exact hnew
  | start run args =>
    rw [OutboxDesk.step] at hstep
    split at hstep
    · obtain ⟨⟩ := hstep
      have hstart : (s.withStage run ⟨s.clock, args, .expiring⟩ .expiring).Apart :=
        h.withStage (fun id hid => by simp [FlushStage.ahead] at hid)
          fun id hid => by simp [FlushStage.current?] at hid
      exact hstart
    · simp at hstep
  | advance =>
    obtain ⟨r, hr, rfl⟩ := map_eq_some_iff.mp hstep
    exact h.flushOutbox hr hunheld
  | stop =>
    obtain ⟨⟩ := hstep
    exact h.endRun
  | tick =>
    obtain ⟨⟩ := hstep
    exact ⟨h.own, h.unfinished⟩

lemma Apart.forward (h : s.Apart) {a : OutboxStep} (hstep : s.step a = some t) : OutboxForward s a t where
  owned := by
    rintro run locked answer r id - hr hid
    exact h.own run r hr id (current?_mem_ahead hid)
  final := by
    intro id p q hp hfinal hq
    cases a with
    | queue =>
      rw [OutboxDesk.step] at hstep
      split at hstep
      · simp at hstep
      · next hnew =>
        obtain ⟨⟩ := hstep
        rcases get?_sendPlatformEmail hq with hold | ⟨rfl, -⟩
        · obtain rfl := some.inj (hp.symm.trans hold)
          exact hfinal
        · exact absurd (by rw [hp]; rfl) hnew
    | advance run locked answer =>
      obtain ⟨r, hr, rfl⟩ := map_eq_some_iff.mp hstep
      have hrewrites : s.Rewrites (s.flushOutbox run r locked answer) fun _ _ => True :=
        h.rewrites_flushOutbox hr
      obtain ⟨_, hp', hstays, -⟩ := hrewrites id q hq
      obtain rfl := some.inj (hp.symm.trans hp')
      exact hstays hfinal
    | start =>
      rw [OutboxDesk.step] at hstep
      split at hstep
      · obtain ⟨⟩ := hstep
        obtain rfl := some.inj (hp.symm.trans hq)
        exact hfinal
      · simp at hstep
    | stop | tick =>
      obtain ⟨⟩ := hstep
      obtain rfl := some.inj (hp.symm.trans hq)
      exact hfinal

end OutboxDesk

def welcomeQueued : OutboxDesk where
  rows := ⟨[(1, .queued ⟨"olive@example.com", "Welcome", "Hello", ""⟩ 0)], by simp⟩
  runs := Keyed.empty
  clock := 0
  takers := []

/-- The arguments that `flush_outbox` has when none are given. -/
def defaultFlush : FlushArgs := ⟨48, 30, 600⟩

def upToRead (run : ℕ) : List OutboxStep :=
  .start run defaultFlush :: List.replicate 4 (.advance run [] .accepted)

/-- A run has read the row; its claim expires, a second run claims the row and sends it; the first run is
told that its connection broke. -/
def slowRun : List OutboxStep :=
  upToRead 1 ++ ([.tick 700] : List OutboxStep) ++ upToRead 2 ++
    ([.advance 2 [] .accepted, .advance 2 [] .accepted, .advance 1 [] (.failed "timed out")] : List OutboxStep)

end ImmoApp.Accounts
