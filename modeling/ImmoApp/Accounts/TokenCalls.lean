import ImmoApp.Accounts.ActionTokens

/-!
# Calls that use and issue tokens

What holds in any interleaving: no row is locked twice, every call finds the tokens it relies on as it read them,
and a token that was used is consumed, and was used once.  `TokenDesk.Moves` says once what an action can do; what
a step preserves is proved of it.
-/

namespace ImmoApp.Accounts

open List Option Dict

/-! ### What a call knows -/

/-- A later state of the table: tokens stay, with their user and purpose, and a consumed one is not opened. -/
def Later (tokens tokens' : Keyed ℕ UserActionToken) : Prop :=
  ∀ id t, tokens.get? id = some t → ∃ t', tokens'.get? id = some t' ∧ t'.user = t.user ∧
    t'.purpose = t.purpose ∧ (t'.consumedAt = none → t.consumedAt = none)

/-- An `UPDATE` has the open reset tokens of a user among the tokens it saw before it or behind it. -/
structure Covers (tokens : Keyed ℕ UserActionToken) (userId : ℕ) (seen pending : List ℕ)
    (consumed : Dict ℕ ℕ) : Prop where
  seenThere : ∀ id ∈ seen, tokens.get? id ≠ none
  pendingThere : ∀ id ∈ pending, tokens.get? id ≠ none
  consumedThere : ∀ id, consumed.get? id ≠ none → tokens.get? id ≠ none
  /-- An open token that it saw is before it or behind it. -/
  covered : ∀ id ∈ seen, ∀ t, tokens.get? id = some t → t.user = userId → t.purpose = .passwordReset →
    t.consumedAt = none → id ∈ pending ∨ consumed.get? id ≠ none

def Reads (tokens : Keyed ℕ UserActionToken) (task : TokenTask) (id userId : ℕ) (t : UserActionToken) : Prop :=
  tokens.get? id = some t ∧ t.user = userId ∧ t.purpose = task.purpose

/-- What a call relies on; `n` is the next key of a user. -/
def TokenCall.Fits (n : ℕ) (tokens : Keyed ℕ UserActionToken) : TokenCall → Prop
  | .requesting userId _ => userId < n
  | .superseding userId _ seen pending consumed => userId < n ∧ Covers tokens userId seen pending consumed
  | .requested userId seen consumed _ token => userId < n ∧ Covers tokens userId seen [] consumed ∧
      token.user = userId ∧ token.purpose = .passwordReset ∧ token.consumedAt = none
  | .selecting .. => True
  | .lockingToken task _ id => ∃ t, tokens.get? id = some t ∧ t.purpose = task.purpose
  | .lockingUser task _ id userId => ∃ t, Reads tokens task id userId t
  | .locked task id userId => ∃ t, Reads tokens task id userId t ∧ (task.uses = true → t.consumedAt = none)
  | .worked task id userId consumed issued => ∃ t, Reads tokens task id userId t ∧
      (task.uses = true → t.consumedAt = none) ∧ (consumed.get? id = none → t.consumedAt ≠ none) ∧
      (∀ id', consumed.get? id' ≠ none → id' = id) ∧ ∀ new ∈ issued, task.uses = false ∧
        new.2.user = userId ∧ new.2.purpose = task.purpose ∧ new.2.consumedAt = none

def TokenCall.consumes : TokenCall → Dict ℕ ℕ
  | .requested _ _ consumed _ _ | .worked _ _ _ consumed _ => consumed
  | .requesting .. | .superseding .. | .selecting .. | .lockingToken .. | .lockingUser .. | .locked .. => []

variable {n n' : ℕ} {tokens tokens' : Keyed ℕ UserActionToken} {c : TokenCall}

variable {id : ℕ}

lemma Later.ne_none (h : Later tokens tokens') (hid : tokens.get? id ≠ none) : tokens'.get? id ≠ none := by
  obtain ⟨t, ht⟩ := ne_none_iff_exists'.mp hid
  obtain ⟨_, ht', -⟩ := h id t ht
  simp [ht']

lemma Covers.later {userId : ℕ} {seen pending : List ℕ} {consumed : Dict ℕ ℕ}
    (h : Covers tokens userId seen pending consumed) (hlater : Later tokens tokens') :
    Covers tokens' userId seen pending consumed where
  seenThere id hid := hlater.ne_none (h.seenThere id hid)
  pendingThere id hid := hlater.ne_none (h.pendingThere id hid)
  consumedThere id hid := hlater.ne_none (h.consumedThere id hid)
  covered := by
    intro id hid t' ht' huser hpurpose hopen
    obtain ⟨t, ht⟩ := ne_none_iff_exists'.mp (h.seenThere id hid)
    obtain ⟨_, ht'', hu, hp, ho⟩ := hlater id t ht
    obtain rfl := some.inj (ht'.symm.trans ht'')
    exact h.covered id hid t ht (hu ▸ huser) (hp ▸ hpurpose) (ho hopen)

lemma token_mem_locks_iff {consumed : Dict ℕ ℕ} :
    TokenRow.token id ∈ (consumed.map fun e => TokenRow.token e.1) ↔ consumed.get? id ≠ none := by
  rw [Ne, get?_eq_none_iff]
  simp

lemma TokenCall.Fits.locked (h : c.Fits n tokens) (hid : .token id ∈ c.locks) : tokens.get? id ≠ none := by
  cases c with
  | requesting | selecting | lockingToken => cases hid
  | superseding => exact h.2.consumedThere id (token_mem_locks_iff.mp hid)
  | requested => exact h.2.1.consumedThere id (token_mem_locks_iff.mp hid)
  | lockingUser _ _ id' =>
    obtain ⟨t, ⟨ht, -⟩⟩ := h
    obtain rfl : id = id' := by simpa [TokenCall.locks] using hid
    simp [ht]
  | locked _ id' =>
    obtain ⟨t, ⟨ht, -⟩, -⟩ := h
    obtain rfl : id = id' := by simpa [TokenCall.locks] using hid
    simp [ht]
  | worked _ id' =>
    obtain ⟨t, ⟨ht, -⟩, -⟩ := h
    obtain rfl : id = id' := by simpa [TokenCall.locks] using hid
    simp [ht]

lemma TokenCall.Fits.mem_locks (h : c.Fits n tokens) (hid : c.consumes.get? id ≠ none) : .token id ∈ c.locks := by
  cases c with
  | requested => exact token_mem_locks_iff.mpr hid
  | worked =>
    obtain ⟨t, -, -, -, honly, -⟩ := h
    rw [honly id hid]
    exact mem_cons_self
  | requesting | superseding | selecting | lockingToken | lockingUser | locked => exact absurd rfl hid

lemma Reads.later {task : TokenTask} {userId : ℕ} {t : UserActionToken} (h : Reads tokens task id userId t)
    (hlater : Later tokens tokens') : ∃ t', Reads tokens' task id userId t' ∧
      (t'.consumedAt = none → t.consumedAt = none) := by
  obtain ⟨ht, huser, hpurpose⟩ := h
  obtain ⟨t', ht', hu, hp, ho⟩ := hlater id t ht
  exact ⟨t', ⟨ht', hu.trans huser, hp.trans hpurpose⟩, ho⟩

lemma TokenCall.Fits.later (h : c.Fits n tokens) (hn : n ≤ n') (hlater : Later tokens tokens')
    (hlocks : ∀ id, .token id ∈ c.locks → tokens'.get? id = tokens.get? id) : c.Fits n' tokens' := by
  cases c with
  | requesting => exact lt_of_lt_of_le h hn
  | superseding => exact ⟨h.1.trans_le hn, h.2.later hlater⟩
  | requested => exact ⟨h.1.trans_le hn, h.2.1.later hlater, h.2.2⟩
  | selecting => trivial
  | lockingToken _ _ id =>
    obtain ⟨t, ht, hpurpose⟩ := h
    obtain ⟨t', ht', -, hp, -⟩ := hlater id t ht
    exact ⟨t', ht', hp.trans hpurpose⟩
  | lockingUser =>
    obtain ⟨t, ht⟩ := h
    obtain ⟨t', ht', -⟩ := ht.later hlater
    exact ⟨t', ht'⟩
  | locked _ id =>
    obtain ⟨t, ⟨ht, hreads⟩, huses⟩ := h
    exact ⟨t, ⟨(hlocks id mem_cons_self).trans ht, hreads⟩, huses⟩
  | worked _ id =>
    obtain ⟨t, ⟨ht, hreads⟩, hrest⟩ := h
    exact ⟨t, ⟨(hlocks id mem_cons_self).trans ht, hreads⟩, hrest⟩

def TokenDesk.eventsAt (s : TokenDesk) : TokenCall → List TokenEvent
  | .worked task id userId _ issued => s.eventsOf task id userId issued
  | .requesting .. | .superseding .. | .requested .. | .selecting .. | .lockingToken .. | .lockingUser ..
  | .locked .. => []

inductive TokenDesk.Moves (s : TokenDesk) : TokenAction → TokenDesk → Prop
  | answers {a : TokenAction} (answers : List (Except AccountError TokenAnswer)) :
    Moves s a { s with answers := answers }
  | enters {a : TokenAction} {tx : ℕ} {c : TokenCall} (hinserted : c.inserted = none)
      (hfits : c.Fits s.db.nextId s.tokens) (hfree : ∀ row ∈ c.locks, Unlocked TokenCall.locks s.calls tx row) :
    Moves s a (s.enter tx c)
  | inserts {a : TokenAction} {tx : ℕ} {c : TokenCall} {t : UserActionToken}
      (hinserted : c.inserted = some (s.nextToken, t)) (hfits : c.Fits s.db.nextId s.tokens)
      (hfree : ∀ row ∈ c.locks, Unlocked TokenCall.locks s.calls tx row) :
    Moves s a { s.enter tx c with nextToken := s.nextToken + 1 }
  | leaves {a : TokenAction} {tx : ℕ} (answers : List (Except AccountError TokenAnswer)) :
    Moves s a { s with calls := s.calls.erase tx, answers := answers }
  | commits {tx : ℕ} {c : TokenCall} {db : UserDb} (answers : List (Except AccountError TokenAnswer))
      (hcall : s.calls.get? tx = some c) (hdb : s.db.nextId ≤ db.nextId) :
    Moves s (.commit tx) { s with
      db := db, calls := s.calls.erase tx, answers := answers, tokens := s.written c.consumes c.inserted
      history := s.history ++ s.eventsAt c }
  | invites {a : TokenAction} {db : UserDb} {t : UserActionToken} (answers : List (Except AccountError TokenAnswer))
      (hdb : s.db.nextId < db.nextId) (huser : t.user = s.db.nextId) :
    Moves s a { s with
      db := db, tokens := s.tokens.set s.nextToken t, nextToken := s.nextToken + 1, answers := answers }

/-! ### The table after a commit -/

section Written

variable {s : TokenDesk} {consumed : Dict ℕ ℕ} {issued : Option (ℕ × UserActionToken)}

variable {id : ℕ}

lemma get?_written_of_ne (h : ∀ new ∈ issued, id ≠ new.1) :
    (s.written consumed issued).get? id = (s.tokens.get? id).map fun t =>
      if (consumed.get? id).isSome then { t with consumedAt := consumed.get? id } else t := by
  unfold TokenDesk.written
  cases issued with
  | none => simp
  | some new => simp [h new rfl]

lemma get?_written_new {new : ℕ × UserActionToken} (h : issued = some new) :
    (s.written consumed issued).get? new.1 = some new.2 := by
  simp [TokenDesk.written, h]

lemma get?_written_of_untouched (hconsumed : consumed.get? id = none) (h : ∀ new ∈ issued, id ≠ new.1) :
    (s.written consumed issued).get? id = s.tokens.get? id := by
  rw [get?_written_of_ne h, hconsumed]
  simp

lemma of_get?_written {t' : UserActionToken} (h : (s.written consumed issued).get? id = some t') :
    issued = some (id, t') ∨ ∃ t, s.tokens.get? id = some t ∧ t'.user = t.user ∧ t'.purpose = t.purpose ∧
      (t'.consumedAt = none → t.consumedAt = none ∧ consumed.get? id = none) := by
  by_cases hnew : ∃ new ∈ issued, id = new.1
  · obtain ⟨new, hmem, rfl⟩ := hnew
    rw [get?_written_new hmem] at h
    obtain ⟨⟩ := h
    exact .inl hmem
  · right
    rw [get?_written_of_ne fun new hmem hid => hnew ⟨new, hmem, hid⟩] at h
    obtain ⟨t, ht, rfl⟩ := map_eq_some_iff.mp h
    refine ⟨t, ht, ?_⟩
    split
    · next hsome =>
      obtain ⟨_, hat⟩ := isSome_iff_exists.mp hsome
      simp [hat]
    · next hnone => exact ⟨rfl, rfl, fun hopen => ⟨hopen, by simpa using hnone⟩⟩

lemma later_written (hfresh : ∀ new ∈ issued, s.tokens.get? new.1 = none) :
    Later s.tokens (s.written consumed issued) := by
  intro id t ht
  have hne : ∀ new ∈ issued, id ≠ new.1 := by
    rintro new hnew rfl
    rw [hfresh new hnew] at ht
    cases ht
  rw [get?_written_of_ne hne, ht]
  refine ⟨_, rfl, ?_⟩
  split
  · next hsome =>
    obtain ⟨_, hat⟩ := isSome_iff_exists.mp hsome
    simp [hat]
  · exact ⟨rfl, rfl, fun h => h⟩

end Written

lemma later_set (hfresh : tokens.get? id = none) (t : UserActionToken) : Later tokens (tokens.set id t) := by
  intro id' t' ht'
  refine ⟨t', ?_, rfl, rfl, fun h => h⟩
  rw [Keyed.get?_set, if_neg]
  · exact ht'
  · rintro rfl
    rw [hfresh] at ht'
    cases ht'

/-! ### Any interleaving -/

structure TokenDesk.Sound (s : TokenDesk) : Prop where
  locked : LockedOnce TokenCall.locks s.calls
  fits : ∀ e ∈ s.calls, e.2.Fits s.db.nextId s.tokens
  known : ∀ id t, s.tokens.get? id = some t → id < s.nextToken ∧ t.user < s.db.nextId
  /-- A key that is being inserted has been drawn, and is not in the table. -/
  inserting : ∀ e ∈ s.calls, ∀ new ∈ e.2.inserted, new.1 < s.nextToken ∧ s.tokens.get? new.1 = none
  apart : ∀ e ∈ s.calls, ∀ e' ∈ s.calls, ∀ new ∈ e.2.inserted, ∀ new' ∈ e'.2.inserted, new.1 = new'.1 → e'.1 = e.1
  used : ∀ id, .used id ∈ s.history → ∃ t, s.tokens.get? id = some t ∧ t.consumedAt ≠ none
  once : ∀ id, s.history.count (.used id) ≤ 1

namespace TokenDesk

variable {s s' : TokenDesk} {a : TokenAction} {tx : ℕ}

lemma sound_start (db : UserDb) : (start db).Sound where
  locked := lockedOnce_nil
  fits e he := by cases he
  known id t ht := by cases ht
  inserting e he := by cases he
  apart e he := by cases he
  used id h := by cases h
  once id := by simp [start]

lemma Sound.enter (h : s.Sound) (hinserted : c.inserted = none) (hfits : c.Fits s.db.nextId s.tokens)
    (hfree : ∀ row ∈ c.locks, Unlocked TokenCall.locks s.calls tx row) : (s.enter tx c).Sound where
  locked := h.locked.set hfree
  fits e he := by
    rcases mem_set.mp he with rfl | ⟨hmem, -⟩
    · exact hfits
    · exact h.fits e hmem
  known := h.known
  inserting e he new hnew := by
    rcases mem_set.mp he with rfl | ⟨hmem, -⟩
    · rw [hinserted] at hnew
      cases hnew
    · exact h.inserting e hmem new hnew
  apart e he e' he' new hnew new' hnew' := by
    rcases mem_set.mp he with rfl | ⟨hmem, -⟩
    · rw [hinserted] at hnew
      cases hnew
    rcases mem_set.mp he' with rfl | ⟨hmem', -⟩
    · rw [hinserted] at hnew'
      cases hnew'
    exact h.apart e hmem e' hmem' new hnew new' hnew'
  used := h.used
  once := h.once

variable {t : UserActionToken} {db : UserDb} {id userId now : ℕ} {task : TokenTask} {agency : Option ℕ}
  {rawToken : String}

lemma Sound.insert (h : s.Sound) (hinserted : c.inserted = some (s.nextToken, t))
    (hfits : c.Fits s.db.nextId s.tokens)
    (hfree : ∀ row ∈ c.locks, Unlocked TokenCall.locks s.calls tx row) :
    Sound { s.enter tx c with nextToken := s.nextToken + 1 } where
  locked := h.locked.set hfree
  fits e he := by
    rcases mem_set.mp he with rfl | ⟨hmem, -⟩
    · exact hfits
    · exact h.fits e hmem
  known id t ht := ⟨(h.known id t ht).1.trans (Nat.lt_succ_self _), (h.known id t ht).2⟩
  inserting e he new hnew := by
    rcases mem_set.mp he with rfl | ⟨hmem, -⟩
    · obtain rfl := some.inj (hinserted.symm.trans hnew)
      refine ⟨Nat.lt_succ_self _, eq_none_iff_forall_ne_some.mpr fun t ht => ?_⟩
      exact absurd (h.known _ t ht).1 (lt_irrefl _)
    · exact ⟨(h.inserting e hmem new hnew).1.trans (Nat.lt_succ_self _), (h.inserting e hmem new hnew).2⟩
  apart e he e' he' new hnew new' hnew' heq := by
    rcases mem_set.mp he with rfl | ⟨hmem, -⟩
    · rcases mem_set.mp he' with rfl | ⟨hmem', -⟩
      · rfl
      · obtain rfl := some.inj (hinserted.symm.trans hnew)
        exact absurd heq.symm (h.inserting e' hmem' new' hnew').1.ne
    · rcases mem_set.mp he' with rfl | ⟨hmem', -⟩
      · obtain rfl := some.inj (hinserted.symm.trans hnew')
        exact absurd heq (h.inserting e hmem new hnew).1.ne
      · exact h.apart e hmem e' hmem' new hnew new' hnew' heq
  used := h.used
  once := h.once

lemma Sound.leave (h : s.Sound) (tx : ℕ) (answers : List (Except AccountError TokenAnswer)) :
    Sound { s with calls := s.calls.erase tx, answers := answers } where
  locked := h.locked.erase tx
  fits e he := h.fits e (mem_erase.mp he).1
  known := h.known
  inserting e he := h.inserting e (mem_erase.mp he).1
  apart e he e' he' := h.apart e (mem_erase.mp he).1 e' (mem_erase.mp he').1
  used := h.used
  once := h.once

lemma Sound.invite (h : s.Sound) (answers : List (Except AccountError TokenAnswer)) (hdb : s.db.nextId < db.nextId)
    (huser : t.user = s.db.nextId) :
    Sound { s with
      db := db, tokens := s.tokens.set s.nextToken t, nextToken := s.nextToken + 1, answers := answers } := by
  have hfresh : s.tokens.get? s.nextToken = none :=
    eq_none_iff_forall_ne_some.mpr fun t ht => absurd (h.known _ t ht).1 (lt_irrefl _)
  have hother : ∀ id, s.tokens.get? id ≠ none → (s.tokens.set s.nextToken t).get? id = s.tokens.get? id := by
    intro id hid
    rw [Keyed.get?_set, if_neg]
    rintro rfl
    exact hid hfresh
  refine ⟨h.locked, fun e he => ?_, fun id t' ht' => ?_, fun e he new hnew => ?_, h.apart, fun id hid => ?_, h.once⟩
  · exact (h.fits e he).later hdb.le (later_set hfresh t) fun id hid => hother id ((h.fits e he).locked hid)
  · rw [Keyed.get?_set] at ht'
    split at ht'
    · next heq =>
      obtain ⟨⟩ := ht'
      exact ⟨heq ▸ Nat.lt_succ_self _, huser ▸ hdb⟩
    · exact ⟨(h.known id t' ht').1.trans (Nat.lt_succ_self _), (h.known id t' ht').2.trans hdb⟩
  · obtain ⟨hlt, hnone⟩ := h.inserting e he new hnew
    refine ⟨hlt.trans (Nat.lt_succ_self _), ?_⟩
    rw [Keyed.get?_set, if_neg hlt.ne]
    exact hnone
  · obtain ⟨t', ht', hconsumed⟩ := h.used id hid
    exact ⟨t', (hother id (by simp [ht'])).trans ht', hconsumed⟩

lemma used_mem_eventsAt (hmem : .used id ∈ s.eventsAt c) :
    ∃ task userId consumed issued, c = .worked task id userId consumed issued ∧ task.uses = true := by
  cases c with
  | worked task id' userId consumed issued =>
    rcases mem_append.mp hmem with hused | hclosed
    · by_cases huses : task.uses = true
      · obtain rfl : id = id' := by simpa [huses] using hused
        exact ⟨task, userId, consumed, issued, rfl, huses⟩
      · simp [huses] at hused
    · simp at hclosed
  | requesting | superseding | requested | selecting | lockingToken | lockingUser | locked => cases hmem

lemma count_used_eventsAt_le (s : TokenDesk) (c : TokenCall) (id : ℕ) : (s.eventsAt c).count (.used id) ≤ 1 := by
  cases c with
  | worked task id' =>
    simp only [eventsAt, eventsOf, count_append]
    by_cases huses : task.uses = true <;> by_cases hid : id' = id <;> simp [huses, hid]
  | requesting | superseding | requested | selecting | lockingToken | lockingUser | locked => simp [eventsAt]

section

variable (h : s.Sound)
include h

section

variable (hcall : (tx, c) ∈ s.calls)
include hcall

lemma Sound.open_of_used (hmem : .used id ∈ s.eventsAt c) : ∃ t, s.tokens.get? id = some t ∧ t.consumedAt = none := by
  obtain ⟨_, _, _, _, rfl, huses⟩ := used_mem_eventsAt hmem
  obtain ⟨t, ⟨ht, -⟩, hopen, -⟩ := h.fits _ hcall
  exact ⟨t, ht, hopen huses⟩

lemma Sound.user_lt {new : ℕ × UserActionToken} (hnew : new ∈ c.inserted) : new.2.user < s.db.nextId := by
  have hfits := h.fits _ hcall
  cases c with
  | requested =>
    obtain ⟨hlt, -, huser, -⟩ := hfits
    obtain ⟨⟩ := hnew
    exact huser ▸ hlt
  | worked _ id =>
    obtain ⟨t, ⟨ht, huser, -⟩, -, -, -, hissued⟩ := hfits
    obtain ⟨-, hsame, -⟩ := hissued new hnew
    exact hsame.trans huser.symm ▸ (h.known id t ht).2
  | requesting | superseding | selecting | lockingToken | lockingUser | locked => cases hnew

lemma Sound.get?_written {e : ℕ × TokenCall} (he : e ∈ s.calls) (hne : e.1 ≠ tx) (hid : .token id ∈ e.2.locks) :
    (s.written c.consumes c.inserted).get? id = s.tokens.get? id := by
  refine get?_written_of_untouched ?_ fun new hnew heq => ?_
  · by_contra hconsumed
    exact hne (h.locked.eq hcall he ((h.fits _ hcall).mem_locks hconsumed) hid)
  · exact (h.fits e he).locked hid (heq ▸ (h.inserting _ hcall new hnew).2)

lemma Sound.later_written : Later s.tokens (s.written c.consumes c.inserted) :=
  Accounts.later_written fun new hnew => (h.inserting _ hcall new hnew).2

end

lemma Sound.consumed_of_worked {consumed : Dict ℕ ℕ}
    {issued : Option (ℕ × UserActionToken)} (hcall : (tx, .worked task id userId consumed issued) ∈ s.calls)
    {t' : UserActionToken} (ht' : (s.written consumed issued).get? id = some t') : t'.consumedAt ≠ none := by
  intro hopen
  obtain ⟨t, ⟨ht, -⟩, -, hconsumed, -⟩ := h.fits _ hcall
  rcases of_get?_written ht' with hnew | ⟨_, ht'', -, -, hkept⟩
  · have hnone := (h.inserting _ hcall _ hnew).2
    rw [ht] at hnone
    cases hnone
  · obtain rfl := some.inj (ht.symm.trans ht'')
    exact hconsumed (hkept hopen).2 (hkept hopen).1

lemma Sound.commit (answers : List (Except AccountError TokenAnswer))
    (hcall : s.calls.get? tx = some c) (hdb : s.db.nextId ≤ db.nextId) :
    Sound { s with
      db := db, calls := s.calls.erase tx, answers := answers, tokens := s.written c.consumes c.inserted
      history := s.history ++ s.eventsAt c } := by
  have hmem : (tx, c) ∈ s.calls := mem_of_get? hcall
  have hlater := h.later_written hmem
  refine ⟨h.locked.erase tx, fun e he => ?_, fun id t ht => ?_, fun e he new hnew => ?_, fun e he e' he' =>
    h.apart e (mem_erase.mp he).1 e' (mem_erase.mp he').1, fun id hid => ?_, fun id => ?_⟩
  · obtain ⟨he, hne⟩ := mem_erase.mp he
    exact (h.fits e he).later hdb hlater fun id hid => h.get?_written hmem he hne hid
  · rcases of_get?_written ht with hnew | ⟨t', ht', huser, -⟩
    · exact ⟨(h.inserting _ hmem _ hnew).1, (h.user_lt hmem hnew).trans_le hdb⟩
    · exact ⟨(h.known id t' ht').1, huser ▸ (h.known id t' ht').2.trans_le hdb⟩
  · obtain ⟨he, hne⟩ := mem_erase.mp he
    obtain ⟨hlt, hnone⟩ := h.inserting e he new hnew
    refine ⟨hlt, eq_none_iff_forall_ne_some.mpr fun t ht => ?_⟩
    rcases of_get?_written ht with hissued | ⟨t', ht', -⟩
    · exact hne (h.apart _ hmem e he _ hissued new hnew rfl)
    · rw [hnone] at ht'
      cases ht'
  · rcases mem_append.mp hid with hid | hid
    · obtain ⟨t, ht, hconsumed⟩ := h.used id hid
      obtain ⟨t', ht', -, -, hopen⟩ := hlater id t ht
      exact ⟨t', ht', fun h' => hconsumed (hopen h')⟩
    · obtain ⟨_, _, _, _, rfl, -⟩ := used_mem_eventsAt hid
      obtain ⟨t, ⟨ht, -⟩, -⟩ := h.fits _ hmem
      obtain ⟨t', ht', -⟩ := hlater id t ht
      exact ⟨t', ht', h.consumed_of_worked hmem ht'⟩
  · rw [count_append]
    by_cases hid : .used id ∈ s.eventsAt c
    · obtain ⟨t, ht, hopen⟩ := h.open_of_used hmem hid
      have hnew : .used id ∉ s.history := by
        intro hold
        obtain ⟨_, ht', hconsumed⟩ := h.used id hold
        obtain rfl := some.inj (ht.symm.trans ht')
        exact hconsumed hopen
      rw [count_eq_zero_of_not_mem hnew, zero_add]
      exact count_used_eventsAt_le s c id
    · rw [count_eq_zero_of_not_mem hid, add_zero]
      exact h.once id

lemma Sound.moves (hmoves : s.Moves a s') : s'.Sound := by
  cases hmoves with
  | answers => exact ⟨h.locked, h.fits, h.known, h.inserting, h.apart, h.used, h.once⟩
  | enters hinserted hfits hfree => exact h.enter hinserted hfits hfree
  | inserts hinserted hfits hfree => exact h.insert hinserted hfits hfree
  | leaves answers => exact h.leave _ answers
  | commits answers hcall hdb => exact h.commit answers hcall hdb
  | invites answers hdb huser => exact h.invite answers hdb huser

end

/-! ### One step -/

variable {env : TokenEnv}

lemma get?_of_resolveIdentifierUser {identifier : String} {e : ℕ × User}
    (h : resolveIdentifierUser env db identifier = some e) : db.users.get? e.1 = some e.2 := by
  have hentries : ∀ p : ℕ × User → Bool,
      (db.users.entries.insertionSort fun e e' => e.1 ≤ e'.1).find? p = some e → e ∈ db.users.entries :=
    fun p hp => (mem_insertionSort _).mp (mem_of_find?_eq_some hp)
  refine Keyed.mem_entries_iff.mp ?_
  unfold resolveIdentifierUser at h
  dsimp only at h
  split at h
  · cases h
  · split at h
    · next e' hfound =>
      obtain ⟨⟩ := h
      exact hentries _ hfound
    · split at h
      · exact hentries _ h
      · cases h

lemma moves_requestPasswordReset (tx : ℕ) (identifier : String) :
    s.Moves a (s.requestPasswordReset env tx identifier) := by
  unfold requestPasswordReset
  split
  · next userId u hfound =>
    split
    · refine .enters rfl ?_ fun row hrow => by cases hrow
      exact s.db.fresh userId u (get?_of_resolveIdentifierUser hfound)
    · exact .leaves _
  · exact .leaves _

lemma moves_startSupersede (hlt : userId < s.db.nextId) : s.Moves a (s.startSupersede tx userId agency) := by
  have hthere : ∀ e ∈ s.tokens.entries, s.tokens.get? e.1 ≠ none := by
    intro e he
    rw [Keyed.mem_entries_iff.mp he]
    exact some_ne_none _
  unfold startSupersede
  refine .enters rfl ⟨hlt, fun id hid => ?_, fun id hid => ?_, fun id hid => absurd rfl hid,
    fun id _ t ht huser hpurpose hopen => ?_⟩ fun row hrow => by cases hrow
  · obtain ⟨e, he, rfl⟩ := mem_map.mp hid
    exact hthere e he
  · obtain ⟨e, he, rfl⟩ := mem_map.mp hid
    exact hthere e (mem_of_mem_filter he)
  · refine .inl (mem_map.mpr ⟨(id, t), mem_filter.mpr ⟨Keyed.mem_entries_iff.mpr ht, ?_⟩, rfl⟩)
    simp [huser, hpurpose, hopen]

lemma moves_supersede (h : s.Sound) {seen pending : List ℕ}
    {consumed : Dict ℕ ℕ} (hcall : (tx, .superseding userId agency seen (id :: pending) consumed) ∈ s.calls)
    (hfree : Unlocked TokenCall.locks s.calls tx (.token id)) :
    s.Moves a (s.supersede tx userId agency seen id pending consumed now) := by
  obtain ⟨hlt, hcovers⟩ := h.fits _ hcall
  have hpending : ∀ id' ∈ pending, s.tokens.get? id' ≠ none :=
    fun id' hid' => hcovers.pendingThere id' (mem_cons_of_mem id hid')
  unfold supersede
  split
  · refine .enters rfl ⟨hlt, hcovers.seenThere, hpending, fun id' hid' => ?_, ?_⟩ fun row hrow => ?_
    · rw [get?_set] at hid'
      split at hid'
      · next heq => exact heq ▸ hcovers.pendingThere id mem_cons_self
      · exact hcovers.consumedThere id' hid'
    · intro id' hid' t ht huser hpurpose hopen
      rw [get?_set]
      rcases hcovers.covered id' hid' t ht huser hpurpose hopen with hbefore | hbehind
      · rcases mem_cons.mp hbefore with rfl | hbefore
        · exact .inr (by simp)
        · exact .inl hbefore
      · refine .inr ?_
        split
        · exact some_ne_none _
        · exact hbehind
    · obtain ⟨e, he, rfl⟩ := mem_map.mp hrow
      rcases mem_set.mp he with rfl | ⟨hmem, -⟩
      · exact hfree
      · exact h.locked _ hcall _ (mem_map_of_mem hmem)
  · next hconsumed =>
    refine .enters rfl ⟨hlt, hcovers.seenThere, hpending, hcovers.consumedThere, ?_⟩ fun row hrow => ?_
    · intro id' hid' t ht huser hpurpose hopen
      refine (hcovers.covered id' hid' t ht huser hpurpose hopen).imp_left fun hbefore => ?_
      refine (mem_cons.mp hbefore).resolve_left ?_
      rintro rfl
      exact hconsumed (by simp [ht, hopen])
    · exact h.locked _ hcall row hrow

lemma moves_insertReset (h : s.Sound) {seen : List ℕ}
    {consumed : Dict ℕ ℕ} (hcall : (tx, .superseding userId agency seen [] consumed) ∈ s.calls)
    (hstep : s.insertReset env tx userId agency seen consumed rawToken now = some s') : s.Moves a s' := by
  obtain ⟨hlt, hcovers⟩ := h.fits _ hcall
  unfold insertReset issueTokenRecord at hstep
  cases agency with
  | none =>
    obtain ⟨⟩ := hstep
    exact .leaves _
  | some =>
    dsimp only at hstep
    split at hstep
    · obtain ⟨⟩ := hstep
      exact .inserts rfl ⟨hlt, hcovers, rfl, rfl, rfl⟩ fun row hrow => h.locked _ hcall row hrow
    · cases hstep

lemma moves_call (tx : ℕ) (task : TokenTask) (now : ℕ) : s.Moves a (s.call tx task now) := by
  unfold call
  split
  · exact .leaves _
  · exact .enters rfl trivial fun row hrow => by cases hrow

lemma moves_select (tx : ℕ) (task : TokenTask) (now : ℕ) : s.Moves a (s.select env tx task now) := by
  unfold select
  split
  · exact .leaves _
  · next e hfound =>
    refine .enters rfl ⟨e.2, Keyed.mem_entries_iff.mp (mem_of_find?_eq_some hfound), ?_⟩
      fun row hrow => by cases hrow
    have hselected := find?_some hfound
    simp only [TokenTask.selects, Bool.and_eq_true, beq_iff_eq] at hselected
    exact hselected.1

lemma moves_lockUser (h : s.Sound) (hcall : (tx, .lockingUser task now id userId) ∈ s.calls)
    (hfree : Unlocked TokenCall.locks s.calls tx (.user userId))
    (hstep : s.lockUser tx task now id userId = some s') : s.Moves a s' := by
  obtain ⟨t, hreads⟩ := h.fits _ hcall
  unfold lockUser at hstep
  rw [hreads.1] at hstep
  cases hu : s.db.users.get? userId with
  | none =>
    rw [hu] at hstep
    cases hstep
  | some =>
    rw [hu] at hstep
    dsimp only at hstep
    split at hstep
    · obtain ⟨⟩ := hstep
      exact .leaves _
    · next hchecks =>
      obtain ⟨⟩ := hstep
      refine .enters rfl ⟨t, hreads, fun huses => ?_⟩ fun row hrow => ?_
      · have hopen := raiseFirst_ok_iff.mp hchecks
        cases task with
        | resetPassword | activateAccount =>
          have := hopen _ mem_cons_self
          simpa using this
        | resendInvite | revokeInvite => cases huses
      · simp only [TokenCall.locks, mem_cons, not_mem_nil, or_false] at hrow
        rcases hrow with rfl | rfl
        · exact h.locked _ hcall _ mem_cons_self
        · exact hfree

lemma work_eq_some {u : User}
    {new : UserActionToken} (h : task.work env db userId u rawToken now = .ok (some new)) :
    task.uses = false ∧ new.user = userId ∧ new.purpose = task.purpose ∧ new.consumedAt = none := by
  cases task with
  | resetPassword =>
    obtain ⟨-, -, h⟩ := bind_eq_ok_iff.mp h
    obtain ⟨-, -, h⟩ := bind_eq_ok_iff.mp h
    cases h
  | activateAccount =>
    obtain ⟨-, -, h⟩ := bind_eq_ok_iff.mp h
    obtain ⟨-, -, h⟩ := bind_eq_ok_iff.mp h
    cases h
  | resendInvite =>
    obtain ⟨t, hissued, h⟩ := bind_eq_ok_iff.mp h
    cases h
    unfold issueTokenRecord at hissued
    cases hagency : u.agency with
    | none =>
      rw [hagency] at hissued
      cases hissued
    | some =>
      rw [hagency] at hissued
      cases hissued
      exact ⟨rfl, rfl, rfl, rfl⟩
  | revokeInvite => cases h

lemma fits_worked (hreads : Reads tokens task id userId t) (huses : task.uses = true → t.consumedAt = none)
    {issued : Option (ℕ × UserActionToken)} (hissued : ∀ new ∈ issued, task.uses = false ∧
      new.2.user = userId ∧ new.2.purpose = task.purpose ∧ new.2.consumedAt = none) :
    (TokenCall.worked task id userId (consumption task id now t) issued).Fits n tokens := by
  refine ⟨t, hreads, huses, fun hnone => ?_, fun id' hid' => ?_, hissued⟩
  · unfold consumption at hnone
    split at hnone
    · simp [get?_cons] at hnone
    · next hkept =>
      intro hopen
      exact hkept (by simp [hopen])
  · unfold consumption at hid'
    split at hid'
    · by_contra hne
      exact hid' (by simp [get?_cons, hne])
    · exact absurd rfl hid'

lemma moves_work (h : s.Sound) (hcall : (tx, .locked task id userId) ∈ s.calls)
    (hstep : s.work env tx task id userId rawToken now = some s') : s.Moves a s' := by
  obtain ⟨t, hreads, huses⟩ := h.fits _ hcall
  unfold work at hstep
  rw [hreads.1] at hstep
  cases hu : s.db.users.get? userId with
  | none =>
    rw [hu] at hstep
    cases hstep
  | some =>
    rw [hu] at hstep
    dsimp only at hstep
    split at hstep
    · obtain ⟨⟩ := hstep
      exact .leaves _
    · obtain ⟨⟩ := hstep
      exact .enters rfl (fits_worked hreads huses fun new hnew => by cases hnew) fun row hrow =>
        h.locked _ hcall row hrow
    · next new hwork =>
      split at hstep
      · obtain ⟨⟩ := hstep
        refine .inserts rfl (fits_worked hreads huses fun new' hnew' => ?_) fun row hrow =>
          h.locked _ hcall row hrow
        obtain ⟨⟩ := hnew'
        exact work_eq_some hwork
      · cases hstep

lemma moves_commit (hcall : s.calls.get? tx = some c) (hstep : s.commit tx c = some s') :
    s.Moves (.commit tx) s' := by
  cases c with
  | requested userId seen consumed id token =>
    obtain ⟨⟩ := hstep
    have hcommits := Moves.commits (s.answers ++ [.ok .accepted]) hcall le_rfl
    rw [show s.eventsAt (.requested userId seen consumed id token) = [] from rfl, append_nil] at hcommits
    exact hcommits
  | worked =>
    obtain ⟨⟩ := hstep
    refine Moves.commits _ hcall ?_
    unfold committedUsers
    split
    · exact le_max_left _ _
    · exact le_rfl
  | requesting | superseding | selecting | lockingToken | lockingUser | locked => cases hstep

lemma moves_createUserInvite {actorId : ℕ} {actor : User} {data : UserCreateInput}
    {expiresSeconds : Option ℤ}
    (hstep : s.createUserInvite env actorId actor data expiresSeconds rawToken now = some s') :
    s.Moves a s' := by
  unfold createUserInvite at hstep
  dsimp only at hstep
  split at hstep
  · obtain ⟨⟩ := hstep
    exact .answers _
  · next db t hcreated =>
    split at hstep
    · obtain ⟨⟩ := hstep
      obtain ⟨_, hdb, hcreated⟩ := bind_eq_ok_iff.mp hcreated
      obtain ⟨_, hissued, hcreated⟩ := bind_eq_ok_iff.mp hcreated
      cases hcreated
      refine .invites _ ?_ ?_
      · rw [(inviteUser_ok hdb).2.2]
        exact lt_of_lt_of_le (Nat.lt_succ_self _) (le_max_right _ _)
      · unfold issueTokenRecord at hissued
        split at hissued
        · cases hissued
        · cases hissued
          rfl
    · cases hstep

lemma moves_of_step (h : s.Sound) (hstep : s.step env a = some s') : s.Moves a s' := by
  unfold step at hstep
  cases a with
  | requestPasswordReset tx identifier =>
    dsimp only at hstep
    split at hstep
    · cases hstep
    · obtain ⟨⟩ := hstep
      exact moves_requestPasswordReset tx identifier
  | startSupersede =>
    dsimp only at hstep
    split at hstep
    · next userId agency hcall =>
      obtain ⟨⟩ := hstep
      exact moves_startSupersede (h.fits _ (mem_of_get? hcall))
    · cases hstep
  | supersede =>
    dsimp only at hstep
    split at hstep
    · next userId agency seen id pending consumed hcall =>
      split at hstep
      · next hfree =>
        obtain ⟨⟩ := hstep
        exact moves_supersede h (mem_of_get? hcall) hfree
      · cases hstep
    · cases hstep
  | insertReset =>
    dsimp only at hstep
    split at hstep
    · next userId agency seen consumed hcall => exact moves_insertReset h (mem_of_get? hcall) hstep
    · cases hstep
  | call tx task now =>
    dsimp only at hstep
    split at hstep
    · obtain ⟨⟩ := hstep
      exact moves_call tx task now
    · cases hstep
  | select =>
    dsimp only at hstep
    split at hstep
    · obtain ⟨⟩ := hstep
      exact moves_select _ _ _
    · cases hstep
  | lockToken =>
    dsimp only at hstep
    split at hstep
    · next task now id hcall =>
      split at hstep
      · next hfree =>
        obtain ⟨t, ht, rfl⟩ := map_eq_some_iff.mp hstep
        obtain ⟨_, ht', hpurpose⟩ := h.fits _ (mem_of_get? hcall)
        obtain rfl := some.inj (ht.symm.trans ht')
        refine .enters rfl ⟨t, ht, rfl, hpurpose⟩ fun row hrow => ?_
        obtain rfl := mem_singleton.mp hrow
        exact hfree
      · cases hstep
    · cases hstep
  | lockUser =>
    dsimp only at hstep
    split at hstep
    · next task now id userId hcall =>
      split at hstep
      · next hfree => exact moves_lockUser h (mem_of_get? hcall) hfree hstep
      · cases hstep
    · cases hstep
  | work =>
    dsimp only at hstep
    split at hstep
    · next task id userId hcall => exact moves_work h (mem_of_get? hcall) hstep
    · cases hstep
  | commit =>
    obtain ⟨c, hcall, hcommit⟩ := bind_eq_some_iff.mp hstep
    exact moves_commit hcall hcommit
  | abort =>
    dsimp only at hstep
    split at hstep
    · obtain ⟨⟩ := hstep
      exact .leaves _
    · cases hstep
  | createUserInvite =>
    obtain ⟨_, -, hcreate⟩ := bind_eq_some_iff.mp hstep
    exact moves_createUserInvite hcreate

lemma sound_of_run {acts : List TokenAction} (hrun : run (step env) (start db) acts = some s) :
    s.Sound :=
  run_invariant_of_step (fun _ _ _ h hstep => h.moves (moves_of_step h hstep)) (sound_start db) hrun

end TokenDesk

end ImmoApp.Accounts
