import ImmoApp.Offline.Moves
import ImmoApp.Offline.Stops

/-!
# Operations that are never sent

Replay releases the blocked operations whose parents have arrived and sends the pending ones.  An operation is stranded
when it is marked as syncing although nothing is under way, or blocked although no parent is missing.

A stop of the process while an operation is marked as syncing strands it, and a response that refuses the credentials.
Without them nothing is stranded (`nothing_stranded`).
-/

namespace ImmoApp.Offline

open OfflineOperation Option Prog

/-- An action runs to its end, or the process stops after some of its writes. -/
inductive Event where
  | act (a : Action)
  | stop (a : Action) (k : ℕ)

/-- The client that starts on the files a stop after `k` writes left. -/
def Client.stopped (s : Client) (p : JournalProg (Client → Client)) (k : ℕ) : Client :=
  { p.result s.disk s with
    disk := applyWrites ((p.trail s.disk).take k) s.disk
    phase := .idle
    results := {} }

def Client.stepOrStop (accountKey : String) (s : Client) : Event → Option Client
  | .act a => s.step accountKey a
  | .stop a k => (s.effect accountKey a).map fun p => s.stopped p k

/-- After the refresh that starts a replay, no operation is marked as syncing, and a blocked one has a
parent without a server id. -/
def NothingStranded (accountKey : String) (s : Client) : Prop :=
  ∀ limit t, s.step accountKey (.beginReplay limit) = some t → ∀ x ∈ t.disk.queue, x.status ≠ .syncing ∧
      (x.status = .blocked → ∃ ref ∈ x.parentRefs, t.disk.resolveReconciledId ref = none)

def ApiResponse.isAuthFailure : ApiResponse → Bool
  | .apiError code _ => code = 401 ∨ code = 403
  | _ => false

/-- The writes with which the outcome of an attempt is handled, up to the one that takes the mark
off. -/
def outcomeWrites (d : Disk) (op : OfflineOperation) (now : ℕ) : ApiResponse → ℕ
  | .apiError code message =>
    if code ∈ retryableStatusCodes then
      ((noteOperationAttempt op.opId message now).trail d).length + 1
    else 1
  | .runtimeError message | .notSent message =>
    ((noteOperationAttempt op.opId message now).trail d).length + 1
  | .otherError _ => 1
  | .ok payload => if (arrivedId op (.ok payload)).isSome then 2 else 1

/-- The credentials are not refused, and the process does not stop while an operation is marked. -/
def KeepsMoving (s : Client) : Event → Prop
  | .act a =>
    match s.phase, a with
    | .received _ _ response _, .finish _ => response.isAuthFailure = false
    | _, _ => True
  | .stop a k =>
    match s.phase, a with
    | .received op _ response _, .finish now =>
      response.isAuthFailure = false ∧ outcomeWrites s.disk op now response ≤ k
    | .resolved _ _ _, .markSyncing _ => k = 0
    | _, _ => ∀ x ∈ s.disk.queue, x.status ≠ .syncing

instance (s : Client) (e : Event) : Decidable (KeepsMoving s e) := by
  unfold KeepsMoving
  split <;> split <;> infer_instance

/-- The operation is marked only if it is `inFlight`, and is blocked only for its parents. -/
structure Good (inFlight : Option String) (x : OfflineOperation) : Prop where
  syncing : x.status = .syncing → inFlight = some x.opId
  /-- A blocked operation waits for parents, without an error. -/
  blocked : x.status = .blocked → x.lastError = "" ∧ x.parentRefs ≠ []

variable {o : Option String} {x : OfflineOperation}

lemma Good.of_none (h : Good none x) : Good o x :=
  ⟨fun hs => absurd (h.syncing hs) (by simp), h.blocked⟩

lemma good_of_pending (h : x.status = .pending) : Good o x :=
  ⟨fun hs => by simp [h] at hs, fun hb => by simp [h] at hb⟩

lemma good_mergeStable : MergeStable (Good o) := fun _ _ _ h => ⟨h.syncing, h.blocked⟩

lemma good_normalizeOperation (d : Disk) (h : Good o x) : Good o (normalizeOperation d x) := by
  rcases normalizeOperation_eq d x with heq | ⟨_, heq⟩
  · rw [heq]
    exact h
  · rw [heq]
    exact good_of_pending rfl

lemma good_changeOperation (accountKey : String) (ref : OfflineEntityRef) (opType : OpType)
    (payload : Dict String Json) (dedupeKey opId : String) (now : ℕ) :
    Good o (changeOperation accountKey ref opType payload dedupeKey opId now) :=
  good_of_pending rfl

lemma good_createOperation (d : Disk) (accountKey : String) (ref : OfflineEntityRef)
    (payload : Dict String Json) (parentRefs : List OfflineEntityRef) (dedupeKey opId : String)
    (now : ℕ) :
    Good o (createOperation accountKey ref payload parentRefs dedupeKey opId now
      (computeInitialStatus d parentRefs)) := by
  unfold createOperation computeInitialStatus
  split
  · exact good_of_pending rfl
  · next hall =>
    refine ⟨fun hs => absurd hs (by simp), fun _ => ⟨rfl, ?_⟩⟩
    rintro rfl
    exact hall rfl

lemma good_withStatus {status : OpStatus} (hs : status ≠ .syncing) (hb : status ≠ .blocked)
    (lastError : String) (now : ℕ) : Good o (withStatus status lastError now x) :=
  ⟨fun h => absurd h hs, fun h => absurd h hb⟩

/-! ### Every stop outside an attempt is safe -/

variable {b : Prop} {d : Disk}

section

variable (h : Safe b (Good o) d)
include h

lemma always_createEntity (accountKey : String) (r : OfflineCreateRequest)
    (opId : String) (response : ApiResponse) (now : ℕ) :
    Prog.Always (Safe b (Good o)) (createEntity accountKey r opId response now) d := by
  have hqueue : Prog.Always (Safe b (Good o)) (queueCreate accountKey r opId now) d :=
    always_queueCreate h fun ref d' => good_createOperation d' accountKey ref _ _ _ opId now
  unfold createEntity
  refine always_bind (always_read h) ?_
  rw [exec_read]
  split
  · exact always_bind hqueue (always_pure hqueue.exec)
  · split
    · exact always_bind hqueue (always_pure hqueue.exec)
    · exact always_pure h

lemma always_updateEntity (accountKey : String) (ref : OfflineEntityRef)
    (path : String) (body : Dict String Json) (dedupeKey label opId : String)
    (response : ApiResponse) (now : ℕ) :
    Prog.Always (Safe b (Good o)) (updateEntity accountKey ref path body dedupeKey label opId response now) d := by
  have hqueue : Prog.Always (Safe b (Good o)) (queueUpdateOperation accountKey ref
      (updatePayload path body label) dedupeKey opId now) d :=
    always_queueUpdateOperation h good_mergeStable (good_changeOperation _ _ _ _ _ _ _)
  simp only [updateEntity]
  split
  · exact always_bind hqueue (always_pure hqueue.exec)
  · split
    · exact always_bind hqueue (always_pure hqueue.exec)
    · exact always_pure h

lemma always_deleteEntity (accountKey : String) (ref : OfflineEntityRef)
    (path : String) (params : Dict String Json) (dedupeKey label opId : String)
    (response : ApiResponse) (now : ℕ) :
    Prog.Always (Safe b (Good o)) (deleteEntity accountKey ref path params dedupeKey label opId response now) d := by
  have hqueue : Prog.Always (Safe b (Good o)) (queueDeleteOperation accountKey ref
      (deletePayload path params label) dedupeKey opId now) d :=
    always_queueDeleteOperation h (good_changeOperation _ _ _ _ _ _ _)
  simp only [deleteEntity]
  split
  · exact always_bind hqueue (always_pure hqueue.exec)
  · split
    · exact always_bind hqueue (always_pure hqueue.exec)
    · exact always_pure h

lemma always_genericMutation (accountKey method path : String)
    (body params : Dict String Json) (dedupeKey label opId : String) (response : ApiResponse)
    (now : ℕ) :
    Prog.Always (Safe b (Good o))
      (genericMutation accountKey method path body params dedupeKey label opId response now) d := by
  have hqueue : Prog.Always (Safe b (Good o)) (queueGenericApiMutation accountKey method path body
      params [] dedupeKey label opId now) d :=
    always_queueGenericApiMutation h (good_of_pending rfl)
  simp only [genericMutation]
  split
  · exact always_bind hqueue (always_pure hqueue.exec)
  · exact always_pure h

lemma always_retryIssue (opId : String) (now : ℕ) : Prog.Always (Safe b (Good o)) (retryIssue opId now) d := by
  unfold retryIssue
  have hget := always_getOperation h opId
  have hremove := always_removeConflict hget.exec opId
  refine always_bind hget (always_bind hremove ?_)
  dsimp only
  split
  · exact always_pure hremove.exec
  · have hstatus := always_updateOperationStatus hremove.exec opId .pending "" now
      fun _ _ _ _ => good_of_pending rfl
    exact always_bind hstatus (always_pure hstatus.exec)

lemma always_discardIssue (opId : String) : Prog.Always (Safe b (Good o)) (discardIssue opId) d := by
  unfold discardIssue
  have hremove := always_removeConflict h opId
  have hdiscard := always_discardOperation hremove.exec opId fun d _ => good_normalizeOperation d
  exact always_bind hremove (always_bind hdiscard (always_pure hdiscard.exec))

end

/-- The action neither marks an operation nor takes a mark off. -/
def Action.outsideAttempt : Action → Bool
  | .markSyncing _ | .finish _ => false
  | _ => true

variable {accountKey : String} {s : Client} {a : Action} {p : JournalProg (Client → Client)} {op : OfflineOperation}

lemma effect_always (hp : s.effect accountKey a = some p)
    (ha : a.outsideAttempt = true) (h : Safe b (Good o) s.disk) :
    Prog.Always (Safe b (Good o)) p s.disk := by
  have hrefresh := always_refreshBlockedOperations h fun _ _ => good_normalizeOperation s.disk
  cases a with
  | createEntity request opId response now =>
    obtain ⟨-, rfl⟩ := effect_fresh hp
    exact always_createEntity h accountKey request opId response now
  | updateEntity ref path body dedupeKey label opId response now =>
    obtain ⟨-, rfl⟩ := effect_fresh hp
    exact always_updateEntity h accountKey ref path body dedupeKey label opId response now
  | deleteEntity ref path params dedupeKey label opId response now =>
    obtain ⟨-, rfl⟩ := effect_fresh hp
    exact always_deleteEntity h accountKey ref path params dedupeKey label opId response now
  | genericMutation method path body params dedupeKey label opId response now =>
    obtain ⟨-, rfl⟩ := effect_fresh hp
    exact always_genericMutation h accountKey method path body params dedupeKey label opId response now
  | retryIssue opId now =>
    cases hp
    exact always_retryIssue h opId now
  | discardIssue opId =>
    cases hp
    exact always_discardIssue h opId
  | beginReplay =>
    simp only [Client.effect] at hp
    split at hp
    · cases hp
      exact always_bind hrefresh (always_pure hrefresh.exec)
    · cases hp
  | takeReady =>
    simp only [Client.effect] at hp
    split at hp
    · cases hp
      have hready := always_listReadyOperations h
      exact always_bind hready (always_pure hready.exec)
    · cases hp
  | resolve =>
    simp only [Client.effect] at hp
    split at hp
    · cases hp
      refine always_bind (always_read h) ?_
      rw [exec_read]
      split <;> exact always_pure h
    · cases hp
  | send | receive _ =>
    simp only [Client.effect] at hp
    split at hp <;> cases hp <;> exact always_pure h
  | endReplay =>
    simp only [Client.effect] at hp
    split at hp
    · cases hp
      have hcount := always_pendingOperationCount hrefresh.exec
      exact always_bind hrefresh (always_bind hcount (always_pure hcount.exec))
    · cases hp
  | markSyncing => cases ha
  | finish => cases ha

lemma effect_inFlight (hp : s.effect accountKey a = some p) (ha : a.outsideAttempt = true) (d : Disk) :
    (p.result s.disk { s with disk := d }).phase.inFlight = s.phase.inFlight := by
  by_cases hcall : a.isCall = true
  · rw [(effect_of_isCall hp hcall _).2]
  cases a with
  | resolve =>
    simp only [Client.effect] at hp
    split at hp
    · next op ready hphase =>
      cases hp
      rw [result_bind, result_read, exec_read, hphase]
      cases resolveRequestPayload s.disk op <;> rfl
    · cases hp
  | beginReplay _ | takeReady | send | endReplay =>
    simp only [Client.effect] at hp
    split at hp
    · next hphase =>
      cases hp
      rw [hphase]
      rfl
    · cases hp
  | receive =>
    simp only [Client.effect] at hp
    split at hp
    · next hphase =>
      cases hp
      rw [hphase]
      rfl
    · cases hp
    · next hphase _ =>
      cases hp
      rw [hphase]
      rfl
    · cases hp
  | markSyncing => cases ha
  | finish => cases ha
  | _ => exact absurd rfl hcall

/-! ### Handling the outcome of an attempt -/

/-- Every operation but the one with the given identity is good. -/
def Spared (opId : String) (x : OfflineOperation) : Prop := x.opId ≠ opId → Good none x

variable {opId : String} {response : ApiResponse} {t : Client} {k : ℕ}

lemma Safe.spared (h : Safe True (Good (some opId)) d) : Safe True (Spared opId) d := by
  refine ⟨h.intact, h.present, fun x hx hne => ⟨fun hs => ?_, (h.all x hx).blocked⟩⟩
  exact absurd (some.inj ((h.all x hx).syncing hs)) (Ne.symm hne)

lemma alwaysFrom_outcome (h : Safe True (Spared opId) d) (status : OpStatus)
    (hs : status ≠ .syncing) (hb : status ≠ .blocked) (lastError : String) (now : ℕ) :
    Prog.AlwaysFrom 1 (Safe True (Good none)) (updateOperationStatus opId status lastError now) d :=
  alwaysFrom_updateOperationStatus (h.present trivial)
    (all_setStatus h.all fun _ _ _ _ => good_withStatus hs hb lastError now)

section

variable (h : Safe True (Spared op.opId) d)
include h

variable (message : String) (now : ℕ)

lemma alwaysFrom_handleRetryableFailure :
    Prog.AlwaysFrom (((noteOperationAttempt op.opId message now).trail d).length + 1)
      (Safe True (Good none)) (handleRetryableFailure op message now) d := by
  unfold handleRetryableFailure
  have hnote := always_noteOperationAttempt h op.opId message now
    fun x _ hid hne => absurd hid hne
  refine alwaysFrom_bind ?_
  have hstatus := alwaysFrom_outcome hnote.exec .pending (by decide) (by decide) message now
  exact hstatus.bind (always_pure hstatus.exec)

lemma alwaysFrom_handleReviewFailure :
    Prog.AlwaysFrom 1 (Safe True (Good none)) (handleReviewFailure op message now) d := by
  unfold handleReviewFailure
  have hstatus := alwaysFrom_outcome h .needsReview (by decide) (by decide) message now
  exact hstatus.bind (always_addConflict hstatus.exec _)

lemma alwaysFrom_handlePermanentFailure :
    Prog.AlwaysFrom 1 (Safe True (Good none)) (handlePermanentFailure op message now) d := by
  unfold handlePermanentFailure
  split
  · have hstatus := alwaysFrom_outcome h .cancelled (by decide) (by decide) message now
    have hgeneric : Prog.AlwaysFrom 1 (Safe True (Good none)) (handleGenericPermanentFailure op message now) d :=
      hstatus.bind (always_pure hstatus.exec)
    exact hgeneric.bind (always_pure hgeneric.exec)
  · have hreview := alwaysFrom_handleReviewFailure h message now
    exact hreview.bind (always_pure hreview.exec)

lemma alwaysFrom_applyCreateSuccess (serverId : ℤ) (now : ℕ) :
    Prog.AlwaysFrom 2 (Safe True (Good none)) (applyCreateSuccess op serverId now) d := by
  unfold applyCreateSuccess
  have hrecord := always_recordReconciledId h op.entity serverId
  have hstatus := alwaysFrom_outcome hrecord.exec .applied (by decide) (by decide) "" now
  have hconflict := always_removeConflict hstatus.exec op.opId
  have hrefresh := always_refreshBlockedOperations hconflict.exec
    fun _ _ => good_normalizeOperation _
  show Prog.AlwaysFrom (((recordReconciledId op.entity serverId).trail d).length + 1) _ _ _
  refine alwaysFrom_bind (hstatus.bind ?_)
  exact always_bind hconflict (always_bind hrefresh (always_pure hrefresh.exec))

end

/-- Handling any response that does not refuse the credentials leaves good operations, from the write
that takes the mark off. -/
lemma alwaysFrom_finishReplay (h : Safe True (Good (some op.opId)) d)
    (hauth : response.isAuthFailure = false) (now : ℕ) :
    Prog.AlwaysFrom (outcomeWrites d op now response) (Safe True (Good none)) (finishReplay op response now) d := by
  have hspared := h.spared
  cases response with
  | apiError code message =>
    have hcode : ¬ (code = 401 ∨ code = 403) := by simpa [ApiResponse.isAuthFailure] using hauth
    simp only [finishReplay, if_neg hcode, outcomeWrites]
    by_cases hretry : code ∈ retryableStatusCodes
    · rw [if_pos hretry, if_pos hretry]
      have hfailure := alwaysFrom_handleRetryableFailure hspared message now
      exact hfailure.bind (always_pure hfailure.exec)
    · rw [if_neg hretry, if_neg hretry]
      exact alwaysFrom_handlePermanentFailure hspared message now
  | runtimeError message | notSent message =>
    have hfailure := alwaysFrom_handleRetryableFailure hspared message now
    exact hfailure.bind (always_pure hfailure.exec)
  | otherError message => exact alwaysFrom_handlePermanentFailure hspared message now
  | ok payload =>
    simp only [finishReplay, outcomeWrites, arrivedId]
    by_cases hcreate : op.opType = .create ∧ op.entityType ≠ .generic
    · simp only [if_pos hcreate]
      cases hid : createdId (mappingDict (some payload)) with
      | error message =>
        have hreview := alwaysFrom_handleReviewFailure hspared message now
        exact hreview.bind (always_pure hreview.exec)
      | ok serverId =>
        have happly := alwaysFrom_applyCreateSuccess hspared serverId now
        exact happly.bind (always_pure happly.exec)
    · simp only [if_neg hcreate]
      have hstatus := alwaysFrom_outcome hspared .applied (by decide) (by decide) "" now
      have hconflict := always_removeConflict hstatus.exec op.opId
      exact hstatus.bind (always_bind hconflict (always_pure hconflict.exec))

/-! ### Runs -/

/-- Only the operation in flight is marked, and operations are blocked only for their parents; while
an operation is in flight the snapshot is written out. -/
def Moving (s : Client) : Prop :=
  Safe (s.phase.inFlight.isSome = true) (Good s.phase.inFlight) s.disk

lemma moving_init : Moving Client.init := by
  refine ⟨by simp [Client.init, Disk.empty, Disk.Intact], by simp [Client.init, Phase.inFlight], ?_⟩
  intro x hx
  have hempty : Client.init.disk.queue = [] := rfl
  rw [hempty] at hx
  cases hx

lemma Moving.received (h : Moving s) {req : ApiRequest}
    {ready : List OfflineOperation}
    (hphase : s.phase = .received op req response ready) :
    Safe True (Good (some op.opId)) s.disk := by
  unfold Moving at h
  rw [hphase] at h
  exact ⟨h.intact, fun _ => h.present rfl, h.all⟩

lemma Moving.step (h : Moving s)
    (hkeeps : KeepsMoving s (.act a)) (hstep : s.step accountKey a = some t) : Moving t := by
  obtain ⟨p, hp, rfl⟩ := map_eq_some_iff.mp hstep
  unfold Moving
  rw [effect_disk hp]
  by_cases ha : a.outsideAttempt = true
  · rw [effect_inFlight hp ha]
    exact (effect_always hp ha h).exec
  · cases a with
    | markSyncing now =>
      simp only [Client.effect] at hp
      split at hp
      · next op request ready hphase =>
        cases hp
        have hgood : ∀ x ∈ s.disk.queue, Good none x := by
          intro x hx
          have hx' := h.all x hx
          rwa [hphase] at hx'
        rw [exec_bind, exec_pure]
        exact (updateOperationStatus_step h.intact op.opId .syncing "" now).safe
          (all_setStatus (fun x hx _ => (hgood x hx).of_none) fun x _ hid _ =>
            ⟨fun _ => congrArg some hid.symm, fun hb => absurd hb (by simp [withStatus])⟩)
      · cases hp
    | finish now =>
      simp only [Client.effect] at hp
      split at hp
      · next op request response ready hphase =>
        cases hp
        have hauth : response.isAuthFailure = false := by
          unfold KeepsMoving at hkeeps
          rwa [hphase] at hkeeps
        have hfinish := (alwaysFrom_finishReplay (h.received hphase) hauth now).exec
        rw [exec_bind, exec_pure]
        exact hfinish.of_true
      · cases hp
    | _ => exact absurd rfl ha

lemma KeepsMoving.unmarked (h : KeepsMoving s (.stop a k))
    (ha : a.outsideAttempt = true) : ∀ x ∈ s.disk.queue, x.status ≠ .syncing := by
  unfold KeepsMoving at h
  cases a with
  | markSyncing => cases ha
  | finish => cases ha
  | _ => cases hphase : s.phase <;> rw [hphase] at h <;> exact h

lemma Moving.stop (h : Moving s) (hkeeps : KeepsMoving s (.stop a k))
    (hp : s.effect accountKey a = some p) : Moving (s.stopped p k) := by
  suffices hsafe : Safe True (Good none) (applyWrites ((p.trail s.disk).take k) s.disk) ∨
      Safe False (Good none) (applyWrites ((p.trail s.disk).take k) s.disk) by
    rcases hsafe with hsafe | hsafe <;>
      exact ⟨hsafe.intact, fun hb => absurd hb (by simp [Client.stopped, Phase.inFlight]), hsafe.all⟩
  by_cases ha : a.outsideAttempt = true
  · have hunmarked := hkeeps.unmarked ha
    have hgood : Safe False (Good none) s.disk :=
      ⟨h.intact, False.elim, fun x hx =>
        ⟨fun hs => absurd hs (hunmarked x hx), (h.all x hx).blocked⟩⟩
    exact .inr (effect_always hp ha hgood k)
  · cases a with
    | markSyncing =>
      simp only [Client.effect] at hp
      split at hp
      · next op request ready hphase =>
        cases hp
        have hk : k = 0 := by
          unfold KeepsMoving at hkeeps
          rwa [hphase] at hkeeps
        subst hk
        unfold Moving at h
        rw [hphase] at h
        exact .inr ⟨h.intact, False.elim, h.all⟩
      · cases hp
    | finish now =>
      simp only [Client.effect] at hp
      split at hp
      · next op request response ready hphase =>
        cases hp
        obtain ⟨hauth, hk⟩ : response.isAuthFailure = false ∧ outcomeWrites s.disk op now response ≤ k := by
          unfold KeepsMoving at hkeeps
          rwa [hphase] at hkeeps
        have hfinish := alwaysFrom_finishReplay (h.received hphase) hauth now
        exact .inl (hfinish.bind (always_pure hfinish.exec) k hk)
      · cases hp
    | _ => exact absurd rfl ha

lemma Moving.stepOrStop {e : Event} (h : Moving s)
    (hkeeps : KeepsMoving s e) (hstep : s.stepOrStop accountKey e = some t) : Moving t := by
  cases e with
  | act => exact h.step hkeeps hstep
  | stop =>
    obtain ⟨p, hp, rfl⟩ := map_eq_some_iff.mp hstep
    exact h.stop hkeeps hp

lemma unresolved_of_blocked {d : Disk} {x : OfflineOperation} (h : Good none x)
    (hb : (normalizeOperation d x).status = .blocked) :
    ∃ ref ∈ (normalizeOperation d x).parentRefs, d.resolveReconciledId ref = none := by
  unfold normalizeOperation at hb ⊢
  split at hb
  · cases hb
  · next hstays =>
    obtain ⟨herror, hrefs⟩ := h.blocked hb
    have hsome : ¬ x.parentRefs.all (parentIsResolved d) = true :=
      fun hall => hstays ⟨hb, herror, hrefs, hall⟩
    rw [if_neg hstays]
    simp only [List.all_eq_true, not_forall] at hsome
    obtain ⟨ref, hmem, href⟩ := hsome
    refine ⟨ref, hmem, ?_⟩
    simp only [parentIsResolved, decide_eq_true_eq, not_or] at href
    exact not_isSome_iff_eq_none.mp href.2

/-- In a run without refused credentials in which the process never stops while an operation is marked
as syncing, nothing is ever stranded. -/
theorem nothing_stranded {accountKey : String} {events : List Event} {s : Client}
    (hkeeps : Guarded (Client.stepOrStop accountKey) KeepsMoving Client.init events)
    (hrun : run (Client.stepOrStop accountKey) Client.init events = some s) :
    NothingStranded accountKey s := by
  have hmoving : Moving s :=
    run_invariant (fun _ _ _ h hk hs => h.stepOrStop hk hs) moving_init hkeeps hrun
  intro limit t hstep y hy
  obtain ⟨p, hp, rfl⟩ := map_eq_some_iff.mp hstep
  rw [effect_disk hp] at hy ⊢
  simp only [Client.effect] at hp
  split at hp
  · next hphase =>
    cases hp
    simp only [exec_bind, exec_pure] at hy ⊢
    have hrefresh := refreshBlockedOperations_step hmoving.intact
    rw [hrefresh.queue] at hy
    obtain ⟨x, hx, rfl⟩ := List.mem_map.mp hy
    have hgood : Good none x := by
      have hx' := hmoving.all x hx
      rwa [hphase] at hx'
    refine ⟨fun hs => ?_, fun hb => ?_⟩
    · exact absurd ((good_normalizeOperation s.disk hgood).syncing hs) (by simp)
    · obtain ⟨ref, hmem, hnone⟩ := unresolved_of_blocked hgood hb
      exact ⟨ref, hmem, (hrefresh.ids.resolveReconciledId ref).trans hnone⟩
  · cases hp

def markedCreate : List Event :=
  [.act sampleCreate, .act (.beginReplay 50), .act .takeReady, .act .resolve, .act (.markSyncing 3)]

/-- An edit of the client is cut short between the snapshot and the log; then the creation is sent and
the process stops right after the outcome was recorded. -/
def stoppedEarlyAndLate : List Event :=
  [.act sampleCreate, .stop samplePhoneEdit 1, .act (.beginReplay 50), .act .takeReady, .act .resolve,
    .act (.markSyncing 3), .act .send, .act (.receive (.apiError 503 "unavailable")),
    .stop (.finish 4) 3]

def stoppedWhileMarked : List Event := markedCreate ++ ([.stop .send 0] : List Event)

def refusedCredentials : List Event :=
  markedCreate ++
    ([.act .send, .act (.receive (.apiError 401 "login required")), .act (.finish 4), .act .endReplay] : List Event)

/-- Stops before and after an attempt strand nothing. -/
theorem nothing_stranded_stoppedEarlyAndLate : ∃ s,
    run (Client.stepOrStop "acc") Client.init stoppedEarlyAndLate = some s ∧
      s.disk.queue.map (fun x => (x.opId, x.status)) = [("op-1", .pending)] ∧
      NothingStranded "acc" s := by
  have hfacts : (run (Client.stepOrStop "acc") Client.init stoppedEarlyAndLate).map
      (fun s => s.disk.queue.map fun x => (x.opId, x.status)) = some [("op-1", .pending)] := by
    decide +kernel
  obtain ⟨s, hrun, hs⟩ := map_eq_some_iff.mp hfacts
  exact ⟨s, hrun, hs, nothing_stranded (by decide +kernel) hrun⟩

/-- A run after which the next replay starts with an operation that is marked or blocked for nothing
strands it. -/
private lemma not_nothingStranded {events : List Event} {x : OfflineOperation}
    (hx : x.status = .syncing ∨ (x.status = .blocked ∧ x.parentRefs = []))
    (hfacts : (run (Client.stepOrStop "acc") Client.init
      (events ++ [.act (.beginReplay 50)])).map (fun s => s.disk.queue) = some [x]) :
    ∃ s, run (Client.stepOrStop "acc") Client.init events = some s ∧ ¬ NothingStranded "acc" s := by
  obtain ⟨t, hrun, ht⟩ := map_eq_some_iff.mp hfacts
  obtain ⟨s, hs, hstep⟩ := run_append_eq_some.mp hrun
  obtain ⟨_, hstep, hrest⟩ := run_cons_eq_some.mp hstep
  cases hrest
  refine ⟨s, hs, fun hnone => ?_⟩
  obtain ⟨hsyncing, hblocked⟩ := hnone 50 t hstep x (by simp [ht])
  rcases hx with hmarked | ⟨hb, hrefs⟩
  · exact hsyncing hmarked
  · obtain ⟨_, hmem, _⟩ := hblocked hb
    rw [hrefs] at hmem
    cases hmem

/-- A stop while the creation is marked strands it, and so do refused credentials. -/
theorem marked_and_refused_creates_stranded :
    (∃ s, run (Client.stepOrStop "acc") Client.init stoppedWhileMarked = some s ∧ ¬ NothingStranded "acc" s) ∧
    (∃ s, run (Client.stepOrStop "acc") Client.init refusedCredentials = some s ∧ ¬ NothingStranded "acc" s) := by
  constructor
  · exact not_nothingStranded (x := withStatus .syncing "" 3
      (queuedCreate "acc" Disk.empty sampleRequest "op-1" 1)) (.inl rfl) (by decide +kernel)
  · exact not_nothingStranded (x := withStatus .blocked "auth_required" 4
      (queuedCreate "acc" Disk.empty sampleRequest "op-1" 1)) (.inr ⟨rfl, rfl⟩) (by decide +kernel)

end ImmoApp.Offline
