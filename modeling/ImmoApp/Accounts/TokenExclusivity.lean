import ImmoApp.Accounts.Hierarchy
import ImmoApp.Accounts.TokenCalls

/-!
# One token at a time

A token is used at most once, in any interleaving.  That a user has at most one open token for a purpose, and
that a resend, a revoke or a use ends the earlier ones, holds as long as whoever resends or revokes an invite names
the open one, if there is one, and no request for a reset commits after another one for the same user that its
`UPDATE` did not see (`tokens_exclusive`).
-/

namespace ImmoApp.Accounts

open List Option

namespace TokenDesk

def UsedOnce (s : TokenDesk) : Prop := ∀ id, s.history.count (.used id) ≤ 1

/-- A user has at most one open token for a purpose. -/
def OneOpen (s : TokenDesk) : Prop :=
  ∀ id t id' t', s.tokens.get? id = some t → s.tokens.get? id' = some t' → t.consumedAt = none →
    t'.consumedAt = none → t.user = t'.user → t.purpose = t'.purpose → id = id'

def NoEarlierUsed (s : TokenDesk) : Prop :=
  s.history.Pairwise fun e e' => ∀ user purpose before id t, e = .closed user purpose before → e' = .used id →
    s.tokens.get? id = some t → t.user = user → t.purpose = purpose → before ≤ id

end TokenDesk

/-- The transaction may commit: a request when no reset token of the user has been committed since its `UPDATE`
began, a resend and a revoke when no other invite of the user is open. -/
def TokenCall.Timely (tokens : Keyed ℕ UserActionToken) : TokenCall → Prop
  | .requested userId seen _ _ _ => ∀ e ∈ tokens.entries, e.2.user = userId → e.2.purpose = .passwordReset →
      e.1 ∈ seen
  | .worked task id userId _ _ => task.uses = false → ∀ e ∈ tokens.entries, e.2.user = userId →
      e.2.purpose = .inviteActivation → e.2.consumedAt = none → e.1 = id
  | .requesting .. | .superseding .. | .selecting .. | .lockingToken .. | .lockingUser .. | .locked .. => True

instance (tokens : Keyed ℕ UserActionToken) (c : TokenCall) : Decidable (c.Timely tokens) := by
  cases c <;> unfold TokenCall.Timely <;> infer_instance

def TokenDesk.Timely (s : TokenDesk) : TokenAction → Prop
  | .commit tx => ∀ c ∈ s.calls.get? tx, c.Timely s.tokens
  | _ => True

instance (s : TokenDesk) (a : TokenAction) : Decidable (s.Timely a) := by
  cases a <;> unfold TokenDesk.Timely <;> infer_instance

/-! ### What is kept -/

/-- A request for a reset has missed a reset token of the user. -/
def TokenCall.Missed (tokens : Keyed ℕ UserActionToken) : TokenCall → Prop
  | .requested userId seen _ _ _ => ∃ id t, tokens.get? id = some t ∧ t.user = userId ∧
      t.purpose = .passwordReset ∧ id ∉ seen
  | .requesting .. | .superseding .. | .selecting .. | .lockingToken .. | .lockingUser .. | .locked ..
  | .worked .. => False

variable {tokens : Keyed ℕ UserActionToken}

lemma TokenCall.Missed.later {tokens' : Keyed ℕ UserActionToken} {c : TokenCall} (h : c.Missed tokens)
    (hlater : Later tokens tokens') : c.Missed tokens' := by
  cases c with
  | requested _ _ _ id =>
    obtain ⟨id, t, ht, huser, hpurpose, hunseen⟩ := h
    obtain ⟨t', ht', hu, hp, -⟩ := hlater id t ht
    exact ⟨id, t', ht', hu.trans huser, hp.trans hpurpose, hunseen⟩
  | requesting | superseding | selecting | lockingToken | lockingUser | locked | worked => exact h

lemma TokenCall.Timely.not_missed {c : TokenCall} (h : c.Timely tokens) : ¬ c.Missed tokens := by
  intro hmissed
  cases c with
  | requested _ _ _ id =>
    obtain ⟨id, t, ht, huser, hpurpose, hunseen⟩ := hmissed
    exact hunseen (h (id, t) (Keyed.mem_entries_iff.mpr ht) huser hpurpose)
  | requesting | superseding | selecting | lockingToken | lockingUser | locked | worked => exact hmissed

namespace TokenDesk

variable {s s' : TokenDesk} {a : TokenAction} {tx : ℕ} {c : TokenCall}

/-- What is kept by the steps whose commits may commit. -/
structure Orderly (s : TokenDesk) : Prop where
  oneOpen : s.OneOpen
  drawn : ∀ user purpose before, .closed user purpose before ∈ s.history → before ≤ s.nextToken
  ended : ∀ user purpose before, .closed user purpose before ∈ s.history → ∀ id t, s.tokens.get? id = some t →
    t.user = user → t.purpose = purpose → t.consumedAt = none → before ≤ id
  /-- It is not about to be, unless by a request that may not commit. -/
  coming : ∀ e ∈ s.calls, ∀ new ∈ e.2.inserted, ∀ before,
    .closed new.2.user new.2.purpose before ∈ s.history → before ≤ new.1 ∨ e.2.Missed s.tokens
  noEarlier : s.NoEarlierUsed

lemma orderly_start (db : UserDb) : (start db).Orderly where
  oneOpen id t id' t' ht := by cases ht
  drawn user purpose before h := by cases h
  ended user purpose before h := by cases h
  coming e he := by cases he
  noEarlier := List.Pairwise.nil

lemma Orderly.enter (h : s.Orderly) (hinserted : c.inserted = none) : (s.enter tx c).Orderly where
  oneOpen := h.oneOpen
  drawn := h.drawn
  ended := h.ended
  coming e he new hnew := by
    rcases Dict.mem_set.mp he with rfl | ⟨hmem, -⟩
    · rw [hinserted] at hnew
      cases hnew
    · exact h.coming e hmem new hnew
  noEarlier := h.noEarlier

variable {t t' : UserActionToken} {db : UserDb} {new : ℕ × UserActionToken} {id id' userId : ℕ} {task : TokenTask}
  {consumed : Dict ℕ ℕ} {issued : Option (ℕ × UserActionToken)}

lemma Orderly.insert (h : s.Orderly) (hinserted : c.inserted = some (s.nextToken, t)) :
    Orderly { s.enter tx c with nextToken := s.nextToken + 1 } where
  oneOpen := h.oneOpen
  drawn user purpose before hmem := (h.drawn user purpose before hmem).trans (Nat.le_succ _)
  ended := h.ended
  coming e he new hnew before hclosed := by
    rcases Dict.mem_set.mp he with rfl | ⟨hmem, -⟩
    · obtain rfl := some.inj (hinserted.symm.trans hnew)
      exact .inl (h.drawn _ _ before hclosed)
    · exact h.coming e hmem new hnew before hclosed
  noEarlier := h.noEarlier

lemma Orderly.leave (h : s.Orderly) (tx : ℕ) (answers : List (Except AccountError TokenAnswer)) :
    Orderly { s with calls := s.calls.erase tx, answers := answers } where
  oneOpen := h.oneOpen
  drawn := h.drawn
  ended := h.ended
  coming e he := h.coming e (Dict.mem_erase.mp he).1
  noEarlier := h.noEarlier

lemma noEarlierUsed_later (h : s.Sound) (hpast : s.NoEarlierUsed) {tokens' : Keyed ℕ UserActionToken}
    (hlater : Later s.tokens tokens') :
    s.history.Pairwise fun e e' => ∀ user purpose before id t, e = .closed user purpose before → e' = .used id →
      tokens'.get? id = some t → t.user = user → t.purpose = purpose → before ≤ id := by
  refine Pairwise.imp_of_mem ?_ hpast
  intro e e' he he' hbefore user purpose before id t' hclosed hused ht' huser hpurpose
  obtain ⟨t, ht, -⟩ := h.used id (hused ▸ he')
  obtain ⟨_, ht'', hu, hp, -⟩ := hlater id t ht
  obtain rfl := some.inj (ht'.symm.trans ht'')
  exact hbefore user purpose before id t hclosed hused ht (hu.symm.trans huser) (hp.symm.trans hpurpose)

lemma Orderly.invite (h : s.Orderly) (hsound : s.Sound)
    (answers : List (Except AccountError TokenAnswer)) (huser : t.user = s.db.nextId) :
    Orderly { s with
      db := db, tokens := s.tokens.set s.nextToken t, nextToken := s.nextToken + 1, answers := answers } := by
  have hfresh : s.tokens.get? s.nextToken = none :=
    eq_none_iff_forall_ne_some.mpr fun t ht => absurd (hsound.known _ t ht).1 (lt_irrefl _)
  have hlater := later_set hfresh t
  have hrow : ∀ id t', (s.tokens.set s.nextToken t).get? id = some t' →
      (id = s.nextToken ∧ t' = t) ∨ s.tokens.get? id = some t' := by
    intro id t' ht'
    rw [Keyed.get?_set] at ht'
    split at ht'
    · next heq => exact .inl ⟨heq, (some.inj ht').symm⟩
    · exact .inr ht'
  refine ⟨?_, fun user purpose before hmem => ?_, fun user purpose before hmem id t' ht' hu hp ho => ?_,
    fun e he new hnew before hclosed => ?_, noEarlierUsed_later hsound h.noEarlier hlater⟩
  · intro id t₁ id' t₂ ht₁ ht₂ ho₁ ho₂ hu hp
    rcases hrow id t₁ ht₁ with ⟨rfl, rfl⟩ | hold₁
    · rcases hrow id' t₂ ht₂ with ⟨rfl, -⟩ | hold₂
      · rfl
      · exact absurd (hsound.known id' t₂ hold₂).2 (hu ▸ huser ▸ lt_irrefl _)
    · rcases hrow id' t₂ ht₂ with ⟨rfl, rfl⟩ | hold₂
      · exact absurd (hsound.known id t₁ hold₁).2 (hu.symm ▸ huser ▸ lt_irrefl _)
      · exact h.oneOpen id t₁ id' t₂ hold₁ hold₂ ho₁ ho₂ hu hp
  · exact (h.drawn user purpose before hmem).trans (Nat.le_succ _)
  · rcases hrow id t' ht' with ⟨rfl, -⟩ | ht'
    · exact h.drawn user purpose before hmem
    · exact h.ended user purpose before hmem id t' ht' hu hp ho
  · exact (h.coming e he new hnew before hclosed).imp_right fun hmissed => hmissed.later hlater

/-! ### Commits -/

lemma not_open_of_inserted (h : s.Sound) (hcall : (tx, c) ∈ s.calls) (htimely : c.Timely s.tokens)
    (hnew : new ∈ c.inserted)
    (ht : s.tokens.get? id = some t) (huser : t.user = new.2.user) (hpurpose : t.purpose = new.2.purpose)
    (ht' : (s.written c.consumes c.inserted).get? id = some t') : t'.consumedAt ≠ none := by
  intro hopen
  obtain ⟨_, ht'', -, -, hkept⟩ := (of_get?_written ht').resolve_left fun hissued => by
    have hnone := (h.inserting _ hcall _ hissued).2
    rw [ht] at hnone
    cases hnone
  obtain rfl := some.inj (ht.symm.trans ht'')
  obtain ⟨hopen₀, hunconsumed⟩ := hkept hopen
  have hfits := h.fits _ hcall
  cases c with
  | requested =>
    obtain ⟨-, hcovers, hu, hp, -⟩ := hfits
    obtain ⟨⟩ := hnew
    have hseen := htimely (id, t) (Keyed.mem_entries_iff.mpr ht) (huser.trans hu) (hpurpose.trans hp)
    rcases hcovers.covered id hseen t ht (huser.trans hu) (hpurpose.trans hp) hopen₀ with hbefore | hbehind
    · cases hbefore
    · exact hbehind hunconsumed
  | worked task id' =>
    obtain ⟨-, -, -, -, -, hissued⟩ := hfits
    obtain ⟨huses, hu, hp, -⟩ := hissued new hnew
    have hinvite : task.purpose = .inviteActivation := by
      cases task with
      | resetPassword | activateAccount => cases huses
      | resendInvite | revokeInvite => rfl
    obtain rfl : id = id' := htimely huses (id, t) (Keyed.mem_entries_iff.mpr ht) (huser.trans hu)
      ((hpurpose.trans hp).trans hinvite) hopen₀
    exact h.consumed_of_worked hcall ht' hopen
  | requesting | superseding | selecting | lockingToken | lockingUser | locked => cases hnew

lemma Orderly.oneOpen_commit (h : s.Orderly) (hsound : s.Sound) (hcall : (tx, c) ∈ s.calls)
    (htimely : c.Timely s.tokens) (ht : (s.written c.consumes c.inserted).get? id = some t)
    (ht' : (s.written c.consumes c.inserted).get? id' = some t') (hopen : t.consumedAt = none)
    (hopen' : t'.consumedAt = none) (huser : t.user = t'.user) (hpurpose : t.purpose = t'.purpose) :
    id = id' := by
  rcases of_get?_written ht with hnew | ⟨t₀, ht₀, hu, hp, ho⟩
  · rcases of_get?_written ht' with hnew' | ⟨t₀', ht₀', hu', hp', -⟩
    · exact (Prod.mk.inj (some.inj (hnew.symm.trans hnew'))).1
    · exact absurd hopen' (not_open_of_inserted hsound hcall htimely hnew ht₀' (hu'.symm.trans huser.symm)
        (hp'.symm.trans hpurpose.symm) ht')
  · rcases of_get?_written ht' with hnew' | ⟨t₀', ht₀', hu', hp', ho'⟩
    · exact absurd hopen (not_open_of_inserted hsound hcall htimely hnew' ht₀ (hu.symm.trans huser)
        (hp.symm.trans hpurpose) ht)
    · exact h.oneOpen id t₀ id' t₀' ht₀ ht₀' (ho hopen).1 (ho' hopen').1
        (hu.symm.trans (huser.trans hu')) (hp.symm.trans (hpurpose.trans hp'))

lemma closed_mem_eventsAt {user before : ℕ} {purpose : TokenPurpose}
    (hmem : .closed user purpose before ∈ s.eventsAt c) : ∃ task id consumed issued,
      c = .worked task id user consumed issued ∧ purpose = task.purpose ∧
        before = (issued.map Prod.fst).getD s.nextToken := by
  cases c with
  | worked task id _ consumed issued =>
    rcases mem_append.mp hmem with hused | hclosed
    · by_cases huses : task.uses = true <;> simp [huses] at hused
    · obtain ⟨rfl, rfl, rfl⟩ := TokenEvent.closed.inj (mem_singleton.mp hclosed)
      exact ⟨task, id, consumed, issued, rfl, rfl, rfl⟩
  | requesting | superseding | requested | selecting | lockingToken | lockingUser | locked => cases hmem

lemma Orderly.ended_of_worked (h : s.Orderly) (hsound : s.Sound) (hcall : (tx, .worked task id userId consumed issued)
    ∈ s.calls)
    (htimely : (TokenCall.worked task id userId consumed issued).Timely s.tokens)
    (ht' : (s.written consumed issued).get? id' = some t') (huser : t'.user = userId)
    (hpurpose : t'.purpose = task.purpose) (hopen : t'.consumedAt = none) :
    (issued.map Prod.fst).getD s.nextToken ≤ id' := by
  rcases of_get?_written ht' with hissued | ⟨t₀, ht₀, hu, hp, hkept⟩
  · rw [hissued]
    exact le_rfl
  · refine absurd hopen ?_
    obtain ⟨t, ⟨ht, htu, htp⟩, huses, -⟩ := hsound.fits _ hcall
    have hopen₀ := (hkept hopen).1
    have hid : id' = id := by
      cases htask : task.uses with
      | true =>
        exact h.oneOpen id' t₀ id t ht₀ ht hopen₀ (huses htask) (hu.symm.trans (huser.trans htu.symm))
          (hp.symm.trans (hpurpose.trans htp.symm))
      | false =>
        have hinvite : task.purpose = .inviteActivation := by
          cases task with
          | resetPassword | activateAccount => cases htask
          | resendInvite | revokeInvite => rfl
        exact htimely htask (id', t₀) (Keyed.mem_entries_iff.mpr ht₀) (hu.symm.trans huser)
          (hp.symm.trans (hpurpose.trans hinvite)) hopen₀
    subst hid
    exact hsound.consumed_of_worked hcall ht'

/-- A token that is about to come for a user whose tokens have just ended comes from a request that may not
commit: other calls would have locked the user. -/
lemma coming_of_worked (h : s.Sound) (hcall : (tx, .worked task id userId consumed issued) ∈ s.calls)
    {e : ℕ × TokenCall} (he : e ∈ s.calls) (hne : e.1 ≠ tx)
    (hnew : new ∈ e.2.inserted) (huser : new.2.user = userId) (hpurpose : new.2.purpose = task.purpose) :
    e.2.Missed s.tokens := by
  obtain ⟨t, ⟨ht, htu, htp⟩, huses, -⟩ := h.fits _ hcall
  have hfits := h.fits e he
  obtain ⟨_, c'⟩ := e
  cases c' with
  | requested _ _ _ _ token =>
    obtain ⟨-, hcovers, hu, hp, -⟩ := hfits
    obtain ⟨⟩ := hnew
    have hreset : task.purpose = .passwordReset := hpurpose.symm.trans hp
    have hopen : t.consumedAt = none := by
      cases task with
      | resetPassword => exact huses rfl
      | activateAccount | resendInvite | revokeInvite => cases hreset
    refine ⟨id, t, ht, htu.trans (huser.symm.trans hu), htp.trans hreset, fun hseen => hne ?_⟩
    -- an open token that it saw it has consumed, and so locked
    rcases hcovers.covered id hseen t ht (htu.trans (huser.symm.trans hu)) (htp.trans hreset) hopen
      with hbefore | hbehind
    · cases hbefore
    · exact h.locked.eq hcall he mem_cons_self (token_mem_locks_iff.mpr hbehind)
  | worked _ id' userId' =>
    obtain ⟨-, -, -, -, -, hissued⟩ := hfits
    obtain ⟨-, hu, -⟩ := hissued new hnew
    obtain rfl : userId' = userId := hu.symm.trans huser
    have hrow : TokenRow.user userId' ∈ [.token id, .user userId'] := mem_cons_of_mem _ mem_cons_self
    have hrow' : TokenRow.user userId' ∈ [.token id', .user userId'] := mem_cons_of_mem _ mem_cons_self
    exact hne (h.locked.eq hcall he hrow hrow')
  | requesting | superseding | selecting | lockingToken | lockingUser | locked => cases hnew

lemma pairwise_eventsAt (s : TokenDesk) (c : TokenCall) (tokens' : Keyed ℕ UserActionToken) :
    (s.eventsAt c).Pairwise fun e e' => ∀ user purpose before id t, e = .closed user purpose before →
      e' = .used id → tokens'.get? id = some t → t.user = user → t.purpose = purpose → before ≤ id := by
  cases c with
  | worked task =>
    by_cases huses : task.uses = true <;> simp [eventsAt, eventsOf, huses]
  | requesting | superseding | requested | selecting | lockingToken | lockingUser | locked =>
    exact List.Pairwise.nil

lemma Orderly.commit (h : s.Orderly) (hsound : s.Sound)
    (answers : List (Except AccountError TokenAnswer)) (hget : s.calls.get? tx = some c)
    (htimely : c.Timely s.tokens) :
    Orderly { s with
      db := db, calls := s.calls.erase tx, answers := answers, tokens := s.written c.consumes c.inserted
      history := s.history ++ s.eventsAt c } := by
  have hcall : (tx, c) ∈ s.calls := Dict.mem_of_get? hget
  have hlater := hsound.later_written hcall
  refine ⟨fun id t id' t' ht ht' ho ho' hu hp => h.oneOpen_commit hsound hcall htimely ht ht' ho ho' hu hp,
    fun user purpose before hmem => ?_, fun user purpose before hmem id t ht hu hp ho => ?_,
    fun e he new hnew before hmem => ?_, ?_⟩
  · rcases mem_append.mp hmem with hmem | hmem
    · exact h.drawn user purpose before hmem
    · obtain ⟨task, id, consumed, issued, rfl, -, rfl⟩ := closed_mem_eventsAt hmem
      cases issued with
      | none => exact le_rfl
      | some new => exact (hsound.inserting _ hcall new rfl).1.le
  · rcases mem_append.mp hmem with hmem | hmem
    · rcases of_get?_written ht with hnew | ⟨t₀, ht₀, hu₀, hp₀, hkept⟩
      · exact (h.coming _ hcall _ hnew before (hu.symm ▸ hp.symm ▸ hmem)).resolve_right htimely.not_missed
      · exact h.ended user purpose before hmem id t₀ ht₀ (hu₀.symm.trans hu) (hp₀.symm.trans hp) (hkept ho).1
    · obtain ⟨_, _, _, _, rfl, rfl, rfl⟩ := closed_mem_eventsAt hmem
      exact h.ended_of_worked hsound hcall htimely ht hu hp ho
  · obtain ⟨hold, hne⟩ := Dict.mem_erase.mp he
    rcases mem_append.mp hmem with hmem | hmem
    · exact (h.coming e hold new hnew before hmem).imp_right fun hmissed => hmissed.later hlater
    · obtain ⟨_, _, _, _, rfl, hpurpose, -⟩ := closed_mem_eventsAt hmem
      exact .inr ((coming_of_worked hsound hcall hold hne hnew rfl hpurpose).later hlater)
  · refine pairwise_append.mpr ⟨noEarlierUsed_later hsound h.noEarlier hlater, pairwise_eventsAt s c _, ?_⟩
    rintro e he _ he' user purpose before id _ rfl rfl ht' hu hp
    obtain ⟨t, ht, hopen⟩ := hsound.open_of_used hcall he'
    obtain ⟨_, ht'', hu'', hp'', -⟩ := hlater id t ht
    obtain rfl := some.inj (ht'.symm.trans ht'')
    exact h.ended user purpose before he id t ht (hu''.symm.trans hu) (hp''.symm.trans hp) hopen

lemma Orderly.moves (h : s.Orderly) (hsound : s.Sound) (htimely : s.Timely a) (hmoves : s.Moves a s') :
    s'.Orderly := by
  cases hmoves with
  | answers => exact ⟨h.oneOpen, h.drawn, h.ended, h.coming, h.noEarlier⟩
  | enters hinserted => exact h.enter hinserted
  | inserts hinserted => exact h.insert hinserted
  | leaves answers => exact h.leave _ answers
  | commits answers hcall => exact h.commit hsound answers hcall (htimely _ hcall)
  | invites answers _ huser => exact h.invite hsound answers huser

/-- The tokens of a platform that starts with any users, in every interleaving of the services: a token is used at
most once; and where no request commits after one that its `UPDATE` did not see, and resends and revokes leave
no other open invite of the user behind, a user has at most one open token for a purpose, and none is used that a
resend, a revoke or a use shall have ended. -/
theorem tokens_exclusive (env : TokenEnv) (db : UserDb) {acts : List TokenAction}
    (hrun : run (step env) (start db) acts = some s) :
    s.UsedOnce ∧ (Guarded (step env) Timely (start db) acts → s.OneOpen ∧ s.NoEarlierUsed) := by
  refine ⟨(sound_of_run hrun).once, fun hguard => ?_⟩
  have hboth : s.Sound ∧ s.Orderly :=
    run_invariant (P := fun s => s.Sound ∧ s.Orderly) (fun _ _ _ h htimely hstep =>
      have hmoves := moves_of_step h.1 hstep
      ⟨h.1.moves hmoves, h.2.moves h.1 htimely hmoves⟩) ⟨sound_start db, orderly_start db⟩ hguard hrun
  exact ⟨hboth.2.oneOpen, hboth.2.noEarlier⟩

end TokenDesk

/-! ### An invited owner -/

def tokenEnv : TokenEnv := { plainEnv with passwordResetTtl := 1800, inviteTtl := 259200 }

def TokenTask.steps (task : TokenTask) (tx : ℕ) (rawToken : String) (now : ℕ) : List TokenAction :=
  [.call tx task now, .select tx, .lockToken tx, .lockUser tx, .work tx rawToken now, .commit tx]

def resentOnce : List TokenAction :=
  .createUserInvite 1 olive none "a" 0 :: (TokenTask.resendInvite 1 root 0 none).steps 1 "b" 10

def resentTwice : List TokenAction := resentOnce ++ (TokenTask.resendInvite 1 root 0 none).steps 2 "c" 20

def activatedAndReset : List TokenAction :=
  (TokenTask.activateAccount "b" "pw").steps 3 "" 30 ++
    ([.requestPasswordReset 4 "olive", .startSupersede 4, .insertReset 4 "d" 40, .commit 4,
      .requestPasswordReset 5 "olive", .call 6 (.resetPassword "d" "pw2") 50, .startSupersede 5, .select 6,
      .lockToken 6, .lockUser 6, .work 6 "" 50, .commit 6, .supersede 5 51, .insertReset 5 "e" 52, .commit 5] : List TokenAction)

namespace TokenDesk

/-- Tokens that are resent, used and superseded in time. -/
theorem tokens_exclusive_in_time : ∃ s,
    run (step tokenEnv) (start platformDb) (resentOnce ++ activatedAndReset) = some s ∧
      s.history.length = 5 ∧ s.UsedOnce ∧ s.OneOpen ∧ s.NoEarlierUsed := by
  obtain ⟨s, hrun⟩ := isSome_iff_exists.mp (show (run (step tokenEnv) (start platformDb)
    (resentOnce ++ activatedAndReset)).isSome = true by decide +kernel)
  have hlength : ∀ s ∈ run (step tokenEnv) (start platformDb) (resentOnce ++ activatedAndReset),
      s.history.length = 5 := by decide +kernel
  have hguard : Guarded (step tokenEnv) Timely (start platformDb) (resentOnce ++ activatedAndReset) := by
    decide +kernel
  obtain ⟨honce, hrest⟩ := tokens_exclusive tokenEnv platformDb hrun
  exact ⟨s, hrun, hlength s hrun, honce, hrest hguard⟩

def activatedTwice : List TokenAction :=
  (TokenTask.activateAccount "c" "pw").steps 3 "" 30 ++ (TokenTask.activateAccount "b" "pw2").steps 4 "" 40

/-- An invite that is resent twice leaves two open ones, and either is accepted after the other. -/
theorem resent_twice_two_open : ∃ s s', run (step tokenEnv) (start platformDb) resentTwice = some s ∧ ¬ s.OneOpen ∧
      run (step tokenEnv) s activatedTwice = some s' ∧ ¬ s'.NoEarlierUsed := by
  obtain ⟨s', hrun⟩ := isSome_iff_exists.mp (show (run (step tokenEnv) (start platformDb)
    (resentTwice ++ activatedTwice)).isSome = true by decide +kernel)
  obtain ⟨s, hresent, hactivated⟩ := run_append_eq_some.mp hrun
  have hopen : ∀ s ∈ run (step tokenEnv) (start platformDb) resentTwice,
      ∃ t ∈ s.tokens.get? 1, ∃ t' ∈ s.tokens.get? 2, t.consumedAt = none ∧ t'.consumedAt = none ∧
        t.user = t'.user ∧ t.purpose = t'.purpose := by decide +kernel
  have hused : ∀ s' ∈ run (step tokenEnv) (start platformDb) (resentTwice ++ activatedTwice),
      s'.history.drop 3 = [.closed 2 .inviteActivation 3, .used 1, .closed 2 .inviteActivation 3] ∧
        ∃ t ∈ s'.tokens.get? 1, t.user = 2 ∧ t.purpose = .inviteActivation := by decide +kernel
  refine ⟨s, s', hresent, fun hone => ?_, hactivated, fun hearlier => ?_⟩
  · obtain ⟨t, ht, t', ht', ho, ho', hu, hp⟩ := hopen s hresent
    exact absurd (hone 1 t 2 t' ht ht' ho ho' hu hp) (by decide)
  · obtain ⟨hlast, t, ht, hu, hp⟩ := hused s' hrun
    have hpairs := List.Pairwise.drop (i := 3) hearlier
    rw [hlast] at hpairs
    have hbefore := (pairwise_cons.mp hpairs).1 (.used 1) mem_cons_self 2 .inviteActivation 3 1 t
      rfl rfl ht hu hp
    exact absurd hbefore (by decide)

end TokenDesk

end ImmoApp.Accounts
