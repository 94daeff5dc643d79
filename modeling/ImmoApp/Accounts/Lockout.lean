import ImmoApp.Foundation.Keyed
import ImmoApp.Foundation.Runs
import ImmoApp.Foundation.Text

/-!
# Lockout after failed logins

Every failed login of an identity (a user name at an address) is counted in the cache, and the call that reaches the
threshold sets the lock.  `record_failure` reads the counter and writes it back in another command; the commands of
several calls interleave, and entries may expire.  Two calls that read the same number count as one.

`lockout_reached`: where every write below the threshold finds the counter as its call has read it, the identity is
locked as soon as the threshold of calls have completed.
-/

namespace ImmoApp.Accounts

/-- `_int_env`: the number configured, where there is one, within its limits. -/
def intEnv (configured : Option ℤ) (default low high : ℕ) : ℕ :=
  (configured.elim (default : ℤ) fun value => max low (min high value)).toNat

structure LockoutSettings where
  failureThreshold : Option ℤ
  lockSeconds : Option ℤ

namespace LockoutSettings

/-- `_FAILURE_THRESHOLD`. -/
def threshold (settings : LockoutSettings) : ℕ := intEnv settings.failureThreshold 6 3 100

/-- `_LOCK_SECONDS`. -/
def lockFor (settings : LockoutSettings) : ℕ := intEnv settings.lockSeconds 900 60 (24 * 3600)

lemma one_lt_threshold (settings : LockoutSettings) : 1 < settings.threshold := by
  unfold threshold intEnv
  cases settings.failureThreshold with
  | none => decide
  | some =>
    simp only [Option.elim_some]
    omega

end LockoutSettings

inductive CacheValue where
  | count (n : ℕ)
  | time (t : ℕ)
  | other

/-- `int(value)` and `float(value)`, where they do not raise. -/
def CacheValue.number? : CacheValue → Option ℕ
  | .count n => some n
  | .time t => some t
  | .other => none

/-- `_normalize`. -/
def normalizeLogin (unicode : Unicode) (value : Option String) : String :=
  unicode.lower (strip (value.getD ""))

/-- `_identity`. -/
def loginIdentity (unicode : Unicode) (identifier sourceIp : Option String) : String :=
  normalizeLogin unicode identifier ++ ":" ++ normalizeLogin unicode sourceIp

def countKey (identity : String) : String := "immoapp:auth-failure:" ++ identity

def lockKey (identity : String) : String := "immoapp:auth-lock:" ++ identity

def lockedUntil (unicode : Unicode) (cache : Keyed String CacheValue)
    (identifier sourceIp : Option String) : Option ℕ :=
  (cache.get? (lockKey (loginIdentity unicode identifier sourceIp))).bind CacheValue.number?

def clearFailures (unicode : Unicode) (identifier sourceIp : Option String)
    (cache : Keyed String CacheValue) : Keyed String CacheValue :=
  let identity := loginIdentity unicode identifier sourceIp
  cache.delete fun key _ => key == countKey identity || key == lockKey identity

/-! ### Calls -/

/-- The next command of a call of `record_failure`. -/
inductive FailureStage where
  | reading
  | writing (count : ℕ)
  | locking

/-- A call of `record_failure` that is under way. -/
structure FailureCall where
  identity : String
  stage : FailureStage

structure LockoutDesk where
  cache : Keyed String CacheValue
  calls : Keyed ℕ FailureCall
  clock : ℕ
  /-- History: the identities of the calls that have completed. -/
  completed : List String

namespace LockoutDesk

def failures (s : LockoutDesk) (identity : String) : ℕ :=
  ((s.cache.get? (countKey identity)).bind CacheValue.number?).getD 0

def locked (s : LockoutDesk) (identity : String) : Bool :=
  ((s.cache.get? (lockKey identity)).bind CacheValue.number?).isSome

def withCall (s : LockoutDesk) (call : ℕ) (c : FailureCall) : LockoutDesk :=
  { s with calls := s.calls.set call c }

def put (s : LockoutDesk) (key : String) (value : CacheValue) : LockoutDesk :=
  { s with cache := s.cache.set key value }

def complete (s : LockoutDesk) (call : ℕ) (identity : String) : LockoutDesk :=
  { s with calls := s.calls.delete fun k _ => k == call, completed := identity :: s.completed }

/-- `record_failure`, one command of the cache at a time. -/
def recordFailure (settings : LockoutSettings) (s : LockoutDesk) (call : ℕ) (c : FailureCall) :
    LockoutDesk :=
  match c.stage with
  | .reading => s.withCall call { c with stage := .writing (s.failures c.identity + 1) }
  | .writing count =>
    let written := s.put (countKey c.identity) (.count count)
    if count < settings.threshold then written.complete call c.identity
    else written.withCall call { c with stage := .locking }
  | .locking =>
    (s.put (lockKey c.identity) (.time (s.clock + settings.lockFor))).complete call c.identity

end LockoutDesk

inductive LockoutStep where
  | fail (call : ℕ) (identifier sourceIp : Option String)
  | advance (call : ℕ)
  | clear (identifier sourceIp : Option String)
  | expire (key : String)
  | tick (elapsed : ℕ)

def LockoutDesk.step (unicode : Unicode) (settings : LockoutSettings) (s : LockoutDesk) :
    LockoutStep → Option LockoutDesk
  | .fail call identifier sourceIp =>
    if (s.calls.get? call).isSome then none
    else some (s.withCall call ⟨loginIdentity unicode identifier sourceIp, .reading⟩)
  | .advance call => (s.calls.get? call).map (s.recordFailure settings call)
  | .clear identifier sourceIp =>
    some { s with cache := clearFailures unicode identifier sourceIp s.cache }
  | .expire key => some { s with cache := s.cache.delete fun k _ => k == key }
  | .tick elapsed => some { s with clock := s.clock + elapsed }

/-- The failures of an identity are neither cleared nor forgotten. -/
def LockoutStep.Remembers (unicode : Unicode) (identity : String) : LockoutStep → Prop
  | .clear identifier sourceIp => loginIdentity unicode identifier sourceIp ≠ identity
  | .expire key => key ≠ countKey identity ∧ key ≠ lockKey identity
  | _ => True

instance (unicode : Unicode) (identity : String) :
    ∀ a : LockoutStep, Decidable (a.Remembers unicode identity)
  | .clear _ _ => inferInstanceAs (Decidable (_ ≠ _))
  | .expire _ => inferInstanceAs (Decidable (_ ∧ _))
  | .fail _ _ _ | .advance _ | .tick _ => .isTrue trivial

/-- A call for the identity writes a number below the threshold only where the counter is as it has read
it, or the identity is locked. -/
def FailureCall.Current (settings : LockoutSettings) (s : LockoutDesk) (identity : String) : FailureCall → Prop
  | ⟨own, .writing count⟩ => own = identity → count < settings.threshold →
      s.locked identity = true ∨ s.failures identity + 1 = count
  | _ => True

instance (settings : LockoutSettings) (s : LockoutDesk) (identity : String) :
    ∀ c : FailureCall, Decidable (c.Current settings s identity)
  | ⟨_, .writing _⟩ => inferInstanceAs (Decidable (_ → _ → _))
  | ⟨_, .reading⟩ | ⟨_, .locking⟩ => .isTrue trivial

def Counted (settings : LockoutSettings) (identity : String) (s : LockoutDesk) : LockoutStep → Prop
  | .advance call => ∀ c ∈ s.calls.get? call, c.Current settings s identity
  | _ => True

instance (settings : LockoutSettings) (identity : String) (s : LockoutDesk) :
    ∀ a : LockoutStep, Decidable (Counted settings identity s a)
  | .advance _ => inferInstanceAs (Decidable (∀ c ∈ _, _))
  | .fail _ _ _ | .clear _ _ | .expire _ | .tick _ => .isTrue trivial

lemma countKey_ne_lockKey (i j : String) : countKey i ≠ lockKey j := by
  unfold countKey lockKey
  intro h
  have hchars := congrArg String.toList h
  simp at hchars

lemma countKey_injective {i j : String} (h : countKey i = countKey j) : i = j :=
  (String.append_right_inj "immoapp:auth-failure:").mp h

lemma lockKey_injective {i j : String} (h : lockKey i = lockKey j) : i = j :=
  (String.append_right_inj "immoapp:auth-lock:").mp h

/-! ### What a step leaves -/

namespace LockoutDesk

variable {s t : LockoutDesk} {identity : String}

lemma failures_congr (h : t.cache.get? (countKey identity) = s.cache.get? (countKey identity)) :
    t.failures identity = s.failures identity := by
  rw [failures, h, failures]

lemma locked_congr (h : t.cache.get? (lockKey identity) = s.cache.get? (lockKey identity)) :
    t.locked identity = s.locked identity := by
  rw [locked, h, locked]

/-- The failures of the identity that have completed are counted and below the threshold, or the identity
is locked. -/
def Reckoned (settings : LockoutSettings) (identity : String) (s : LockoutDesk) : Prop :=
  s.locked identity = true ∨ s.completed.count identity ≤ s.failures identity ∧
      s.completed.count identity < settings.threshold

variable {settings : LockoutSettings}

section

variable (h : s.Reckoned settings identity)
include h

lemma Reckoned.congr (hcount : t.cache.get? (countKey identity) = s.cache.get? (countKey identity))
    (hlock : t.cache.get? (lockKey identity) = s.cache.get? (lockKey identity))
    (hcompleted : t.completed.count identity = s.completed.count identity) :
    t.Reckoned settings identity := by
  unfold Reckoned
  rw [failures_congr hcount, locked_congr hlock, hcompleted]
  exact h

lemma Reckoned.recordFailure_of_ne (call : ℕ) {c : FailureCall}
    (hne : c.identity ≠ identity) : (s.recordFailure settings call c).Reckoned settings identity := by
  have hcount : countKey identity ≠ countKey c.identity := fun heq => hne (countKey_injective heq).symm
  have hlock : lockKey identity ≠ lockKey c.identity := fun heq => hne (lockKey_injective heq).symm
  unfold recordFailure
  split
  · exact h.congr rfl rfl rfl
  · dsimp only
    split
    · refine h.congr ?_ ?_ (List.count_cons_of_ne hne)
      · simp [complete, put, hcount]
      · simp [complete, put, (countKey_ne_lockKey c.identity identity).symm]
    · refine h.congr ?_ ?_ rfl
      · simp [withCall, put, hcount]
      · simp [withCall, put, (countKey_ne_lockKey c.identity identity).symm]
  · refine h.congr ?_ ?_ (List.count_cons_of_ne hne)
    · simp [complete, put, countKey_ne_lockKey]
    · simp [complete, put, hlock]

lemma Reckoned.recordFailure (call : ℕ) {c : FailureCall}
    (hown : c.identity = identity) (hcurrent : c.Current settings s identity) :
    (s.recordFailure settings call c).Reckoned settings identity := by
  subst hown
  obtain ⟨own, stage⟩ := c
  cases stage with
  | reading => exact h.congr rfl rfl rfl
  | locking =>
    left
    simp [LockoutDesk.recordFailure, locked, complete, put, CacheValue.number?]
  | writing count =>
    have hlock : ∀ t : LockoutDesk, t.cache = (s.put (countKey own) (.count count)).cache →
        t.locked own = s.locked own ∧ t.failures own = count := by
      intro t ht
      refine ⟨locked_congr ?_, ?_⟩
      · rw [ht]
        simp [put, (countKey_ne_lockKey own own).symm]
      · simp [failures, ht, put, CacheValue.number?]
    simp only [LockoutDesk.recordFailure]
    split
    · next hbelow =>
      obtain ⟨hlocked, hfailures⟩ :=
        hlock ((s.put (countKey own) (.count count)).complete call own) rfl
      have hcompleted : ((s.put (countKey own) (.count count)).complete call own).completed.count own
          = s.completed.count own + 1 := List.count_cons_self
      unfold Reckoned
      rw [hlocked, hfailures, hcompleted]
      rcases h with hset | ⟨hle, -⟩
      · exact .inl hset
      · rcases hcurrent rfl hbelow with hset | hread
        · exact .inl hset
        · right
          dsimp only at hle hread
          omega
    · next hreached =>
      obtain ⟨hlocked, hfailures⟩ :=
        hlock ((s.put (countKey own) (.count count)).withCall call ⟨own, .locking⟩) rfl
      unfold Reckoned
      rw [hlocked, hfailures]
      rcases h with hset | ⟨-, hlt⟩
      · exact .inl hset
      · right
        exact ⟨by simp only [withCall, put] at *; omega, hlt⟩

end

variable {unicode : Unicode}

lemma Reckoned.step (h : s.Reckoned settings identity) {a : LockoutStep}
    (hcounted : Counted settings identity s a) (hremembers : a.Remembers unicode identity)
    (hstep : s.step unicode settings a = some t) : t.Reckoned settings identity := by
  cases a with
  | fail =>
    rw [LockoutDesk.step] at hstep
    split at hstep
    · simp at hstep
    · obtain ⟨⟩ := hstep
      exact h.congr rfl rfl rfl
  | advance call =>
    obtain ⟨c, hc, rfl⟩ := Option.map_eq_some_iff.mp hstep
    by_cases hown : c.identity = identity
    · exact h.recordFailure call hown (hcounted c hc)
    · exact h.recordFailure_of_ne call hown
  | clear identifier sourceIp =>
    obtain ⟨⟩ := hstep
    have hcount : countKey identity ≠ countKey (loginIdentity unicode identifier sourceIp) :=
      fun heq => hremembers (countKey_injective heq).symm
    have hlock : lockKey identity ≠ lockKey (loginIdentity unicode identifier sourceIp) :=
      fun heq => hremembers (lockKey_injective heq).symm
    refine h.congr (Keyed.get?_delete_of_false fun _ => ?_) (Keyed.get?_delete_of_false fun _ => ?_) rfl
    · simp [hcount, countKey_ne_lockKey]
    · simp [hlock, (countKey_ne_lockKey _ identity).symm]
  | expire =>
    obtain ⟨⟩ := hstep
    refine h.congr (Keyed.get?_delete_of_false fun _ => ?_) (Keyed.get?_delete_of_false fun _ => ?_) rfl
    · simp [hremembers.1.symm]
    · simp [hremembers.2.symm]
  | tick =>
    obtain ⟨⟩ := hstep
    exact h.congr rfl rfl rfl

end LockoutDesk

/-- While the failures of an identity are neither cleared nor forgotten, and every call for it that writes
a number below the threshold finds the counter as it has read it: as soon as the threshold of calls have
completed, the identity is locked, however many were in flight. -/
theorem lockout_reached {unicode : Unicode} {settings : LockoutSettings} {s₀ s : LockoutDesk}
    {identifier sourceIp : Option String} (hstart : s₀.completed = []) {steps : List LockoutStep}
    (hremembers : ∀ a ∈ steps, a.Remembers unicode (loginIdentity unicode identifier sourceIp))
    (hcounted : Guarded (LockoutDesk.step unicode settings)
      (fun s a => Counted settings (loginIdentity unicode identifier sourceIp) s a) s₀ steps)
    (hrun : run (LockoutDesk.step unicode settings) s₀ steps = some s)
    (hthreshold : settings.threshold ≤ s.completed.count (loginIdentity unicode identifier sourceIp)) :
    (lockedUntil unicode s.cache identifier sourceIp).isSome = true := by
  have hinit : s₀.Reckoned settings (loginIdentity unicode identifier sourceIp) := by
    have hlt := settings.one_lt_threshold
    right
    rw [hstart, List.count_nil]
    omega
  have hreckoned : s.Reckoned settings (loginIdentity unicode identifier sourceIp) :=
    run_invariant (fun _ _ _ h hguard hstep => h.step hguard.1 hguard.2 hstep) hinit
      (hcounted.and_forall hremembers) hrun
  rcases hreckoned with hlocked | ⟨-, _⟩
  · exact hlocked
  · omega

def plainUnicode : Unicode := { lower := id, nfkd := id, combining := fun _ => false }

def defaultSettings : LockoutSettings := ⟨none, none⟩

def noFailures : LockoutDesk := ⟨Keyed.empty, Keyed.empty, 0, []⟩

def guess (call : ℕ) : LockoutStep := .fail call (some "olive") (some "10.0.0.1")

/-- Six failed logins one after the other; the last of them has a third command. -/
def guessesInTurn : List LockoutStep :=
  ((List.range 6).flatMap fun call => [guess call, .advance call, .advance call]) ++ ([.advance 5] : List LockoutStep)

/-- The sixth failed login sets the lock. -/
theorem lockout_reached_inTurn : ∃ s,
    run (LockoutDesk.step plainUnicode defaultSettings) noFailures guessesInTurn = some s ∧
      (lockedUntil plainUnicode s.cache (some "olive") (some "10.0.0.1")).isSome = true := by
  obtain ⟨s, hrun⟩ : ∃ s, run (LockoutDesk.step plainUnicode defaultSettings) noFailures guessesInTurn = some s :=
    Option.isSome_iff_exists.mp (by decide +kernel)
  have hcompleted : ∀ s ∈ run (LockoutDesk.step plainUnicode defaultSettings) noFailures guessesInTurn,
      defaultSettings.threshold
        ≤ s.completed.count (loginIdentity plainUnicode (some "olive") (some "10.0.0.1")) := by
    decide +kernel
  exact ⟨s, hrun, lockout_reached rfl (by decide +kernel) (by decide +kernel) hrun (hcompleted s hrun)⟩

/-- Six failed logins at once: every call reads the counter before any writes it. -/
def guessesAtOnce : List LockoutStep :=
  (List.range 6).map guess ++ (List.range 6).map .advance ++ (List.range 6).map .advance

/-- They all write one, and the identity is not locked. -/
theorem attempts_at_once_not_locked : ¬ ∀ (unicode : Unicode) (settings : LockoutSettings)
    (s₀ s : LockoutDesk) (identifier sourceIp : Option String) (steps : List LockoutStep),
    s₀.completed = [] → (∀ a ∈ steps, a.Remembers unicode (loginIdentity unicode identifier sourceIp)) →
      run (LockoutDesk.step unicode settings) s₀ steps = some s →
      settings.threshold ≤ s.completed.count (loginIdentity unicode identifier sourceIp) →
      (lockedUntil unicode s.cache identifier sourceIp).isSome = true := by
  intro h
  obtain ⟨s, hrun⟩ : ∃ s, run (LockoutDesk.step plainUnicode defaultSettings) noFailures guessesAtOnce = some s :=
    Option.isSome_iff_exists.mp (by decide +kernel)
  have hend : ∀ s ∈ run (LockoutDesk.step plainUnicode defaultSettings) noFailures guessesAtOnce,
      defaultSettings.threshold ≤ s.completed.count (loginIdentity plainUnicode (some "olive") (some "10.0.0.1")) ∧
        lockedUntil plainUnicode s.cache (some "olive") (some "10.0.0.1") = none := by
    decide +kernel
  obtain ⟨hcompleted, hnone⟩ := hend s hrun
  have hlocked := h plainUnicode defaultSettings noFailures s (some "olive") (some "10.0.0.1")
    guessesAtOnce rfl (by decide +kernel) hrun hcompleted
  rw [hnone] at hlocked
  simp at hlocked

end ImmoApp.Accounts
