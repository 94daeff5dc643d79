import ImmoApp.Foundation.Text
import ImmoApp.Throttling.SlidingWindow

/-!
# The throttle classes

The user, the agency and the scoped throttle are built on `_SlidingWindowMixin`.  A request is checked by the throttles
of its view; for an authenticated user the windows of the user and of the agency are evaluated by one script.  The
scoped throttle gets its rate in the framework's `allow_request`, which the mixin replaces.

`rate_bound_iff`: a throttle bounds the requests of an identity by its configured rate, over all sequences of requests,
exactly when it is not the scoped one and its rate is positive.
-/

namespace ImmoApp.Throttling

open List WindowStore
open Option hiding max_eq_right

/-! ### Rates and identities -/

def digits? (chars : List Char) : Option ℕ :=
  let groups := chars.splitOnP (· == '_')
  if groups.all fun group => !group.isEmpty && group.all Char.isDigit then
    some (groups.flatten.foldl (fun n c => n * 10 + (c.toNat - '0'.toNat)) 0)
  else none

/-- `int(value)` of a text: digits with an optional sign. -/
def intOf? (value : String) : Option ℤ :=
  match (strip value).toList with
  | '-' :: chars => (digits? chars).map fun n => -(n : ℤ)
  | '+' :: chars => (digits? chars).map Nat.cast
  | chars => (digits? chars).map Nat.cast

/-- The seconds of a period: the table of the first letters, and the words that override it. -/
def periodSeconds (token : String) : ℕ :=
  if token.startsWith "sec" then 1
  else if token.startsWith "min" then 60
  else if token.startsWith "hour" then 60 * 60
  else if token.startsWith "day" then 60 * 60 * 24
  else match token.toList.head? with
    | some 's' => 1
    | some 'm' => 60
    | some 'h' => 60 * 60
    | some 'd' => 60 * 60 * 24
    | _ => 60

/-- `parse_rate_limit_window`: the requests and the seconds.  Without a slash, or without a number before
it, it raises. -/
def parseRateLimitWindow (rate : String) : Option (ℤ × ℕ) :=
  if '/' ∈ rate.toList then
    (intOf? (String.ofList (rate.toList.takeWhile (· ≠ '/')))).map fun value =>
      (max 1 value, periodSeconds (strip (String.ofList (rate.toList.dropWhile (· ≠ '/')).tail)).toLower)
  else none

/-- The settings, and the framework's constructor. -/
structure RateConfig where
  rates : String → Option String
  parseRate : String → ℤ × ℕ

/-- The framework reads the configured rates as `parse_rate_limit_window` does, which takes at least one
request. -/
def RateConfig.Agrees (cfg : RateConfig) : Prop :=
  ∀ scope rate, cfg.rates scope = some rate →
    parseRateLimitWindow (strip rate) = some (max 1 (cfg.parseRate rate).1, (cfg.parseRate rate).2)

structure User where
  id : Option ℕ
  agencyId : Option ℕ

/-- A throttle of a view; the scoped one reads `throttle_scope` of its view. -/
inductive Throttle where
  | user
  | agency
  | perView (throttleScope : String)
  deriving DecidableEq

/-- A request with the throttles that check it, each with what `uuid4` draws for it. -/
structure Request where
  user : Option User
  remoteAddr : String
  nowMs : ℕ
  throttles : List (Throttle × ℕ)

abbrev Member := ℕ × ℕ

def Request.members (r : Request) : List Member := r.throttles.map fun x => (r.nowMs, x.2)

def resolveUserIdent (r : Request) : Option String :=
  match r.user.bind User.id with
  | some id => some ("user:" ++ toString id)
  | none => if strip r.remoteAddr = "" then none else some ("ip:" ++ strip r.remoteAddr)

def resolveAgencyIdent (r : Request) : Option String :=
  match r.user.bind User.agencyId with
  | some id => some ("agency:" ++ toString id)
  | none => resolveUserIdent r

def buildThrottleStorageKey (scope ident : String) : String :=
  "throttle:" ++ (if scope = "" then "default" else scope) ++ ":" ++ (if ident = "" then "unknown" else ident)

/-- `_scope_limits`: nothing is limited without a rate. -/
def scopeLimits (cfg : RateConfig) (scope : String) : Option (ℤ × ℕ) :=
  if strip ((cfg.rates scope).getD "") = "" then some (0, 0)
  else parseRateLimitWindow (strip ((cfg.rates scope).getD ""))

namespace Throttle

/-- `get_cache_key`. -/
def storageKey (r : Request) : Throttle → Option String
  | .user => (resolveUserIdent r).map (buildThrottleStorageKey "user")
  | .agency => (resolveAgencyIdent r).map (buildThrottleStorageKey "agency")
  | .perView throttleScope =>
    if throttleScope = "" then none
    else (resolveUserIdent r).map fun ident => "throttle_" ++ throttleScope ++ "_" ++ ident

/-- `num_requests` and `duration` after the constructor: the scoped throttle has none. -/
def constructed (cfg : RateConfig) : Throttle → ℤ × ℕ
  | .user => ((cfg.rates "user").map cfg.parseRate).getD (0, 0)
  | .agency => ((cfg.rates "agency").map cfg.parseRate).getD (0, 0)
  | .perView _ => (0, 0)

def configuredRate (cfg : RateConfig) : Throttle → Option (ℤ × ℕ)
  | .user => (cfg.rates "user").map cfg.parseRate
  | .agency => (cfg.rates "agency").map cfg.parseRate
  | .perView throttleScope =>
    if throttleScope = "" then none else (cfg.rates throttleScope).map cfg.parseRate

end Throttle

/-! ### The check -/

/-- What `_sliding_allow_request` returns, its time in milliseconds. -/
structure SlidingResult where
  allowed : Bool
  countAfter : ℕ
  resetAfter : ℕ

/-- The result of an evaluation; a missing score counts as `missing`. -/
def slidingResult (x : WindowResult) (missing windowMs nowMs : ℕ) : SlidingResult :=
  ⟨x.allowed, x.count, (x.oldest.getD missing + windowMs) - nowMs⟩

/-- `_paired_sliding_window`: what a request keeps. -/
structure PairResult where
  agency : SlidingResult
  user : SlidingResult

def PairResult.of? (pair : PairResult) : Throttle → Option SlidingResult
  | .user => some pair.user
  | .agency => some pair.agency
  | .perView _ => none

structure PairWindows where
  agencyIdent : String
  userIdent : String
  agencyLimit : ℤ
  agencyDuration : ℕ
  userLimit : ℤ
  userDuration : ℕ

def pairWindows (cfg : RateConfig) (r : Request) : Option (Option PairWindows) :=
  match resolveAgencyIdent r, resolveUserIdent r with
  | some agencyIdent, some userIdent =>
    (scopeLimits cfg "agency").bind fun agency => (scopeLimits cfg "user").map fun user =>
      if agency.1 ≤ 0 ∨ agency.2 = 0 ∨ user.1 ≤ 0 ∨ user.2 = 0 then none
      else some ⟨agencyIdent, userIdent, agency.1, agency.2, user.1, user.2⟩
  | _, _ => some none

/-- `_SLIDING_WINDOW_PAIR_SCRIPT` and the reading of its result. -/
def evalPair (x : PairWindows) (r : Request) (uuid : ℕ) (store : WindowStore Member) :
    PairResult × WindowStore Member :=
  let agency := WindowStore.evalWindow (buildThrottleStorageKey "agency" x.agencyIdent) r.nowMs
    (max 1000 (x.agencyDuration * 1000)) x.agencyLimit.toNat (r.nowMs, uuid) store
  let user := WindowStore.evalWindow (buildThrottleStorageKey "user" x.userIdent) r.nowMs
    (max 1000 (x.userDuration * 1000)) x.userLimit.toNat (r.nowMs, uuid) agency.2
  (⟨slidingResult agency.1 r.nowMs (x.agencyDuration * 1000) r.nowMs,
    slidingResult user.1 r.nowMs (x.userDuration * 1000) r.nowMs⟩, user.2)

/-- `_paired_allow_request`: it raises, has no result, or has one. -/
def pairedAllowRequest (cfg : RateConfig) (c : Throttle) (r : Request) (uuid : ℕ)
    (cached : Option PairResult) (store : WindowStore Member) :
    Option (Option (SlidingResult × Option PairResult × WindowStore Member)) :=
  if r.user.isNone then some none
  else match cached.bind fun pair => pair.of? c with
    | some result => some (some (result, cached, store))
    | none => (pairWindows cfg r).map fun windows => windows.bind fun x =>
        ((evalPair x r uuid store).1.of? c).map fun result =>
          (result, some (evalPair x r uuid store).1, (evalPair x r uuid store).2)

/-- `_SlidingWindowMixin.allow_request`: whether the request is allowed, what it keeps, and the store.  An
exception lets it through. -/
def allowRequest (cfg : RateConfig) (c : Throttle) (r : Request) (uuid : ℕ)
    (cached : Option PairResult) (store : WindowStore Member) : Bool × Option PairResult × WindowStore Member :=
  match c.storageKey r with
  | none => (true, cached, store)
  | some key =>
    if (c.constructed cfg).1 ≤ 0 ∨ (c.constructed cfg).2 = 0 then (true, cached, store)
    else match pairedAllowRequest cfg c r uuid cached store with
      | none => (true, cached, store)
      | some (some (result, kept, store')) => (result.allowed, kept, store')
      | some none =>
        let x := WindowStore.evalWindow key r.nowMs (max 1000 ((c.constructed cfg).2 * 1000))
          (max 1 (c.constructed cfg).1).toNat (r.nowMs, uuid) store
        (x.1.allowed, cached, x.2)

/-- The throttles of a view check a request one after the other, also after one has refused it. -/
def checkThrottles (cfg : RateConfig) (r : Request) : List (Throttle × ℕ) → Option PairResult → WindowStore Member →
      List (Throttle × Bool) × WindowStore Member
  | [], _, store => ([], store)
  | (c, uuid) :: cs, cached, store =>
    let x := allowRequest cfg c r uuid cached store
    let rest := checkThrottles cfg r cs x.2.1 x.2.2
    ((c, x.1) :: rest.1, rest.2)

def serve (cfg : RateConfig) : List Request → WindowStore Member → List (Request × List (Throttle × Bool))
  | [], _ => []
  | r :: rs, store =>
    let x := checkThrottles cfg r r.throttles none store
    (r, x.1) :: serve cfg rs x.2

def allowedTimes (cfg : RateConfig) (c : Throttle) (key : String) (rs : List Request)
    (store : WindowStore Member) : List ℕ :=
  (serve cfg rs store).filterMap fun x =>
    if c.storageKey x.1 = some key ∧ (c, true) ∈ x.2 then some x.1.nowMs else none

/-! ### One key -/

/-- A key keeps track of the accepted evaluations, and they are within the bound. -/
structure Bounded (store : WindowStore Member) (key : String) (window limit : ℕ) (accepted : List ℕ)
    (now : ℕ) (used : List Member) : Prop where
  tracks : store.Tracks key window accepted now used
  bound : RateBound limit window accepted

/-- Evaluations at the time `now` came on top of the accepted ones; on a hit, at least one. -/
def Grows (store : WindowStore Member) (key : String) (window limit : ℕ) (accepted : List ℕ) (now : ℕ)
    (used : List Member) (hit : Prop) : Prop :=
  ∃ m, Bounded store key window limit (List.replicate m now ++ accepted) now used ∧ (hit → 0 < m)

section Keys

variable {store store' : WindowStore Member} {key key' : String} {window limit window' limit' now now' : ℕ}
  {accepted : List ℕ} {used used' : List Member} {member : Member} {hit hit' : Prop}

section

variable (h : Bounded store key window limit accepted now used)
include h

lemma Bounded.mono (hnow : now ≤ now') (hused : used ⊆ used') : Bounded store key window limit accepted now' used' :=
  ⟨h.tracks.mono hnow hused, h.bound⟩

lemma Bounded.of_get? (hget : store'.get? key = store.get? key) : Bounded store' key window limit accepted now used :=
  ⟨h.tracks.of_get? hget, h.bound⟩

lemma Bounded.grows (hhit : ¬hit) :
    Grows store key window limit accepted now used hit :=
  ⟨0, h, fun hyes => absurd hyes hhit⟩

end

lemma Grows.mono (h : Grows store key window limit accepted now used hit) (hused : used ⊆ used')
    (hhit : hit' → hit) : Grows store key window limit accepted now used' hit' := by
  obtain ⟨m, hbounded, hpos⟩ := h
  exact ⟨m, hbounded.mono le_rfl hused, fun hyes => hpos (hhit hyes)⟩

lemma Grows.trans (h : Grows store key window limit accepted now used hit)
    (hrest : ∀ accepted', Bounded store key window limit accepted' now used →
      Grows store' key window limit accepted' now used' hit') :
    Grows store' key window limit accepted now used' (hit ∨ hit') := by
  obtain ⟨m, hbounded, hpos⟩ := h
  obtain ⟨m', hbounded', hpos'⟩ := hrest _ hbounded
  refine ⟨m' + m, ?_, ?_⟩
  · rw [replicate_add, append_assoc]
    exact hbounded'
  · rintro (hyes | hyes)
    · exact Nat.add_pos_right m' (hpos hyes)
    · exact Nat.add_pos_left (hpos' hyes) m

lemma Bounded.eval (h : Bounded store key window limit accepted now used) (hmember : member ∉ used) :
    Grows (WindowStore.evalWindow key now window limit member store).2 key window limit accepted now
      (member :: used) ((WindowStore.evalWindow key now window limit member store).1.allowed = true) := by
  cases hallowed : (WindowStore.evalWindow key now window limit member store).1.allowed with
  | true =>
    have hroom := h.tracks.allowed_iff.mp hallowed
    exact ⟨1, ⟨h.tracks.evalWindow_allowed hmember hallowed, h.bound.cons hroom⟩, fun _ => Nat.one_pos⟩
  | false =>
    refine Bounded.grows ⟨(h.tracks.evalWindow_refused hallowed).mono le_rfl ?_, h.bound⟩ Bool.false_ne_true
    exact subset_cons_self _ _

variable (key' window' limit') in
lemma Bounded.evalAt (h : Bounded store key window limit accepted now used) (hmember : member ∉ used)
    (hsame : key' = key → window' = window ∧ limit' = limit) :
    Grows (WindowStore.evalWindow key' now window' limit' member store).2 key window limit accepted now
      (member :: used)
      (key' = key ∧ (WindowStore.evalWindow key' now window' limit' member store).1.allowed = true) := by
  by_cases hkey : key' = key
  · obtain ⟨rfl, rfl⟩ := hsame hkey
    subst hkey
    exact (h.eval hmember).mono (List.Subset.refl _) And.right
  · have hget : (WindowStore.evalWindow key' now window' limit' member store).2.get? key = store.get? key :=
      get?_evalWindow_of_ne (Ne.symm hkey)
    exact ((h.of_get? hget).mono le_rfl (subset_cons_self _ _)).grows fun hyes => hkey hyes.1

end Keys

/-! ### The classes -/

section Classes

variable {cfg : RateConfig} {store : WindowStore Member} {key : String} {c : Throttle} {r : Request}
  {cs : List (Throttle × ℕ)} {cached : Option PairResult} {pair : PairResult} {uuid : ℕ} {n : ℤ} {d : ℕ}

def Throttle.scopeName : Throttle → String
  | .user => "user"
  | .agency => "agency"
  | .perView throttleScope => throttleScope

/-- A class has a rate: the constructor and `_scope_limits` read the same. -/
structure Throttle.Rated (cfg : RateConfig) (c : Throttle) (n : ℤ) (d : ℕ) : Prop where
  constructed : c.constructed cfg = (n, d)
  limits : scopeLimits cfg c.scopeName = some (n, d)
  pos : 0 < n
  seconds : 0 < d

lemma buildThrottleStorageKey_ne (ident ident' : String) :
    buildThrottleStorageKey "user" ident ≠ buildThrottleStorageKey "agency" ident' := by
  intro h
  have hchars := congrArg String.toList h
  simp [buildThrottleStorageKey] at hchars

/-- The class evaluates a window: it has a key and a positive rate. -/
def Throttle.Limited (cfg : RateConfig) (c : Throttle) (r : Request) (key : String) : Prop :=
  c.storageKey r = some key ∧ ¬((c.constructed cfg).1 ≤ 0 ∨ (c.constructed cfg).2 = 0)

def Throttle.windowMs (cfg : RateConfig) (c : Throttle) : ℕ := max 1000 ((c.constructed cfg).2 * 1000)

def Throttle.limit (cfg : RateConfig) (c : Throttle) : ℕ := (max 1 (c.constructed cfg).1).toNat

lemma allowRequest_of_not_limited (h : ∀ key, ¬c.Limited cfg r key) :
    allowRequest cfg c r uuid cached store = (true, cached, store) := by
  rw [allowRequest]
  split
  · rfl
  · next key hkey =>
    by_cases hrate : (c.constructed cfg).1 ≤ 0 ∨ (c.constructed cfg).2 = 0
    · exact if_pos hrate
    · exact absurd ⟨hkey, hrate⟩ (h key)

lemma Throttle.Limited.of?_eq (h : c.Limited cfg r key) (pair : PairResult) : ∃ result, pair.of? c = some result := by
  cases c with
  | user => exact ⟨pair.user, rfl⟩
  | agency => exact ⟨pair.agency, rfl⟩
  | perView => exact absurd (.inl le_rfl) h.2

lemma allowRequest_unpaired (h : c.Limited cfg r key) (hpair : r.user.isNone = true ∨ pairWindows cfg r = some none) :
    allowRequest cfg c r uuid none store =
      ((WindowStore.evalWindow key r.nowMs (c.windowMs cfg) (c.limit cfg) (r.nowMs, uuid) store).1.allowed, none,
        (WindowStore.evalWindow key r.nowMs (c.windowMs cfg) (c.limit cfg) (r.nowMs, uuid) store).2) := by
  have hnone : pairedAllowRequest cfg c r uuid none store = some none := by
    rw [pairedAllowRequest]
    split
    · rfl
    · next hu =>
      rw [hpair.resolve_left hu]
      rfl
  rw [allowRequest, h.1]
  dsimp only
  rw [if_neg h.2, hnone]
  rfl

variable (store uuid) in
lemma allowRequest_paired (h : c.Limited cfg r key) (hu : r.user.isNone = false) {x : PairWindows}
    (hpair : pairWindows cfg r = some (some x)) :
    ∃ result, (evalPair x r uuid store).1.of? c = some result ∧ allowRequest cfg c r uuid none store
        = (result.allowed, some (evalPair x r uuid store).1, (evalPair x r uuid store).2) := by
  obtain ⟨result, hresult⟩ := h.of?_eq (evalPair x r uuid store).1
  refine ⟨result, hresult, ?_⟩
  have hpaired : pairedAllowRequest cfg c r uuid none store
      = some (some (result, some (evalPair x r uuid store).1, (evalPair x r uuid store).2)) := by
    rw [pairedAllowRequest, hu, hpair]
    simp [hresult]
  rw [allowRequest, h.1]
  dsimp only
  rw [if_neg h.2, hpaired]

variable (store pair uuid) in
lemma allowRequest_cached (h : c.Limited cfg r key) (hu : r.user.isNone = false) :
    ∃ result, pair.of? c = some result ∧
      allowRequest cfg c r uuid (some pair) store = (result.allowed, some pair, store) := by
  obtain ⟨result, hresult⟩ := h.of?_eq pair
  refine ⟨result, hresult, ?_⟩
  have hpaired : pairedAllowRequest cfg c r uuid (some pair) store = some (some (result, some pair, store)) := by
    rw [pairedAllowRequest, hu]
    simp [hresult]
  rw [allowRequest, h.1]
  dsimp only
  rw [if_neg h.2, hpaired]

variable (cfg store key c cs pair) in
lemma checkThrottles_cached (hu : r.user.isNone = false) : (checkThrottles cfg r cs (some pair) store).2 = store ∧
      ∀ b, (c, b) ∈ (checkThrottles cfg r cs (some pair) store).1 → c.Limited cfg r key →
        ∃ result, pair.of? c = some result ∧ b = result.allowed := by
  induction cs with
  | nil => exact ⟨rfl, fun b hb => absurd hb not_mem_nil⟩
  | cons head _ ih =>
    obtain ⟨c', uuid⟩ := head
    have hstays : (allowRequest cfg c' r uuid (some pair) store).2 = (some pair, store) := by
      by_cases hlimited : ∃ key, c'.Limited cfg r key
      · obtain ⟨_, hkey'⟩ := hlimited
        obtain ⟨result, _, heq⟩ := allowRequest_cached store pair uuid hkey' hu
        rw [heq]
      · rw [allowRequest_of_not_limited (not_exists.mp hlimited)]
    rw [checkThrottles, hstays]
    dsimp only
    refine ⟨ih.1, fun b hb hc => ?_⟩
    rcases mem_cons.mp hb with heq | hb
    · obtain ⟨rfl, rfl⟩ := Prod.mk.inj heq
      obtain ⟨result, hresult, heq⟩ :=
        allowRequest_cached store pair uuid hc hu
      exact ⟨result, hresult, by rw [heq]⟩
    · exact ih.2 b hb hc

end Classes

/-! ### One request -/

section Requests

variable {cfg : RateConfig} {store : WindowStore Member} {key : String} {c : Throttle} {r : Request}
  {cs : List (Throttle × ℕ)} {x : PairWindows} {uuid : ℕ} {n : ℤ} {d : ℕ} {accepted : List ℕ}
  {used : List Member}

lemma RateConfig.Agrees.exists_scopeLimits (h : cfg.Agrees) (scope : String) :
    ∃ limits, scopeLimits cfg scope = some limits := by
  rw [scopeLimits]
  split
  · exact ⟨_, rfl⟩
  · next hsome =>
    cases hrate : cfg.rates scope with
    | none =>
      rw [hrate] at hsome
      exact absurd (by decide) hsome
    | some rate => exact ⟨_, h scope rate hrate⟩

lemma RateConfig.Agrees.exists_pairWindows (h : cfg.Agrees) (r : Request) :
    ∃ windows, pairWindows cfg r = some windows := by
  obtain ⟨agency, hagency⟩ := h.exists_scopeLimits "agency"
  obtain ⟨user, huser⟩ := h.exists_scopeLimits "user"
  rw [pairWindows]
  split
  · rw [hagency, huser]
    exact ⟨_, rfl⟩
  · exact ⟨_, rfl⟩

lemma pairWindows_eq_some (h : pairWindows cfg r = some (some x)) :
    (resolveAgencyIdent r = some x.agencyIdent ∧ resolveUserIdent r = some x.userIdent) ∧
      scopeLimits cfg "agency" = some (x.agencyLimit, x.agencyDuration) ∧
      scopeLimits cfg "user" = some (x.userLimit, x.userDuration) := by
  rw [pairWindows] at h
  split at h
  · next agencyIdent userIdent hagencyIdent huserIdent =>
    obtain ⟨_, hagency, h⟩ := bind_eq_some_iff.mp h
    obtain ⟨_, huser, h⟩ := map_eq_some_iff.mp h
    split at h
    · cases h
    · cases h
      exact ⟨⟨hagencyIdent, huserIdent⟩, hagency, huser⟩
  · cases h

lemma Throttle.Rated.limit_eq (h : c.Rated cfg n d) : c.limit cfg = n.toNat := by
  have hpos := h.pos
  rw [Throttle.limit, h.constructed, max_eq_right (by omega)]

lemma Throttle.Rated.windowMs_eq (h : c.Rated cfg n d) : c.windowMs cfg = d * 1000 := by
  have hseconds := h.seconds
  rw [Throttle.windowMs, h.constructed]
  dsimp only
  omega

lemma Throttle.Rated.limited (h : c.Rated cfg n d) (hkey : c.storageKey r = some key) :
    c.Limited cfg r key := by
  refine ⟨hkey, ?_⟩
  have hpos := h.pos
  have hseconds := h.seconds
  rw [h.constructed]
  dsimp only
  omega

lemma evalPair_grows (hrated : c.Rated cfg n d) (hpair : pairWindows cfg r = some (some x))
    (hkey : ∃ ident, key = buildThrottleStorageKey c.scopeName ident)
    (h : Bounded store key (c.windowMs cfg) (c.limit cfg) accepted r.nowMs used)
    (hmember : (r.nowMs, uuid) ∉ used) :
    Grows (evalPair x r uuid store).2 key (c.windowMs cfg) (c.limit cfg) accepted r.nowMs ((r.nowMs, uuid) :: used)
      (c.storageKey r = some key ∧
        ∃ result, (evalPair x r uuid store).1.of? c = some result ∧ result.allowed = true) := by
  obtain ⟨ident, hident⟩ := hkey
  obtain ⟨⟨hagencyIdent, huserIdent⟩, hagency, huser⟩ := pairWindows_eq_some hpair
  have hlimits := hrated.limits
  cases c with
  | user =>
    obtain ⟨rfl, rfl⟩ := Prod.mk.inj (some.inj (huser.symm.trans hlimits))
    have hne : key ≠ buildThrottleStorageKey "agency" x.agencyIdent :=
      hident ▸ buildThrottleStorageKey_ne ident x.agencyIdent
    have hget : (WindowStore.evalWindow (buildThrottleStorageKey "agency" x.agencyIdent) r.nowMs
        (max 1000 (x.agencyDuration * 1000)) x.agencyLimit.toNat (r.nowMs, uuid) store).2.get? key = store.get? key :=
      get?_evalWindow_of_ne hne
    have hstays := h.of_get? hget
    have hwindow : max 1000 (x.userDuration * 1000) = Throttle.windowMs cfg .user := by
      rw [Throttle.windowMs, hrated.constructed]
    have hgrows := hstays.evalAt (buildThrottleStorageKey "user" x.userIdent) _ _ hmember
      fun _ => ⟨hwindow, hrated.limit_eq.symm⟩
    refine hgrows.mono (List.Subset.refl _) ?_
    rintro ⟨hstorage, _, hresult, hallowed⟩
    rw [Throttle.storageKey, huserIdent] at hstorage
    cases hresult
    exact ⟨some.inj hstorage, hallowed⟩
  | agency =>
    obtain ⟨rfl, rfl⟩ := Prod.mk.inj (some.inj (hagency.symm.trans hlimits))
    have hne : key ≠ buildThrottleStorageKey "user" x.userIdent :=
      hident ▸ (buildThrottleStorageKey_ne x.userIdent ident).symm
    have hwindow : max 1000 (x.agencyDuration * 1000) = Throttle.windowMs cfg .agency := by
      rw [Throttle.windowMs, hrated.constructed]
    have hgrows := h.evalAt (buildThrottleStorageKey "agency" x.agencyIdent) _ _ hmember
      fun _ => ⟨hwindow, hrated.limit_eq.symm⟩
    obtain ⟨m, hbounded, hpos⟩ := hgrows
    refine ⟨m, hbounded.of_get? (get?_evalWindow_of_ne hne), ?_⟩
    rintro ⟨hstorage, _, hresult, hallowed⟩
    rw [Throttle.storageKey, hagencyIdent] at hstorage
    cases hresult
    exact hpos ⟨some.inj hstorage, hallowed⟩
  | perView => exact absurd (congrArg Prod.fst hrated.constructed) hrated.pos.ne

lemma Throttle.Limited.eq_of_key {c' : Throttle} {key' : String} (h : c'.Limited cfg r key')
    (hkey : ∃ ident, key' = buildThrottleStorageKey c.scopeName ident)
    (hclass : ∀ throttleScope, c ≠ .perView throttleScope) : c' = c := by
  obtain ⟨ident, rfl⟩ := hkey
  cases c' with
  | perView => exact absurd (.inl le_rfl) h.2
  | user =>
    obtain ⟨ident', _, heq⟩ := map_eq_some_iff.mp h.1
    cases c with
    | user => rfl
    | agency => exact absurd heq (buildThrottleStorageKey_ne ident' ident)
    | perView throttleScope => exact absurd rfl (hclass throttleScope)
  | agency =>
    obtain ⟨ident', _, heq⟩ := map_eq_some_iff.mp h.1
    cases c with
    | user => exact absurd heq.symm (buildThrottleStorageKey_ne ident ident')
    | agency => rfl
    | perView throttleScope => exact absurd rfl (hclass throttleScope)

/-- The throttles of a request evaluate the key of a rated class within its bound, and at least once when
the class lets the request through. -/
lemma checkThrottles_grows (hagrees : cfg.Agrees) (hrated : c.Rated cfg n d)
    (hkey : ∃ ident, key = buildThrottleStorageKey c.scopeName ident)
    (h : Bounded store key (c.windowMs cfg) (c.limit cfg) accepted r.nowMs used)
    (hfresh : ∀ y ∈ cs, (r.nowMs, y.2) ∉ used) (hnodup : (cs.map Prod.snd).Nodup) :
    Grows (checkThrottles cfg r cs none store).2 key (c.windowMs cfg) (c.limit cfg) accepted r.nowMs
      ((cs.map fun y => (r.nowMs, y.2)) ++ used)
      (c.storageKey r = some key ∧ (c, true) ∈ (checkThrottles cfg r cs none store).1) := by
  induction cs generalizing store accepted used with
  | nil => exact h.grows fun hyes => absurd hyes.2 not_mem_nil
  | cons head cs ih =>
    obtain ⟨c', uuid⟩ := head
    have hmember := hfresh (c', uuid) mem_cons_self
    have hnodup' := nodup_cons.mp hnodup
    -- the rest, after a member has been used
    have hfresh' : ∀ y ∈ cs, (r.nowMs, y.2) ∉ (r.nowMs, uuid) :: used := by
      intro y hy hmem
      rcases mem_cons.mp hmem with heq | hmem
      · exact hnodup'.1 (mem_map.mpr ⟨y, hy, (Prod.mk.inj heq).2⟩)
      · exact hfresh y (mem_cons_of_mem _ hy) hmem
    have hused : (cs.map fun y => (r.nowMs, y.2)) ++ (r.nowMs, uuid) :: used
        ⊆ (((c', uuid) :: cs).map fun y => (r.nowMs, y.2)) ++ used := by
      intro y hy
      simp only [map_cons, cons_append, mem_append, mem_cons] at hy ⊢
      tauto
    rw [checkThrottles]
    by_cases hlimited : ∃ key', c'.Limited cfg r key'
    · obtain ⟨key', hkey'⟩ := hlimited
      obtain ⟨windows, hwindows⟩ := hagrees.exists_pairWindows r
      by_cases hpair : r.user.isNone = true ∨ pairWindows cfg r = some none
      · -- each class evaluates its own key
        rw [allowRequest_unpaired hkey' hpair]
        dsimp only
        have hclass : ∀ throttleScope, c ≠ .perView throttleScope := by
          rintro _ rfl
          exact absurd (congrArg Prod.fst hrated.constructed) hrated.pos.ne
        have hgrows := h.evalAt key' (c'.windowMs cfg) (c'.limit cfg) hmember fun heq => by
            rw [hkey'.eq_of_key (heq ▸ hkey) hclass]
            exact ⟨rfl, rfl⟩
        refine (hgrows.trans fun accepted' hbounded => ih hbounded hfresh' hnodup'.2).mono hused ?_
        rintro ⟨hstorage, hmem⟩
        rcases mem_cons.mp hmem with heq | hmem
        · obtain ⟨rfl, hallowed⟩ := Prod.mk.inj heq
          exact .inl ⟨some.inj (hkey'.1.symm.trans hstorage), hallowed.symm⟩
        · exact .inr ⟨hstorage, hmem⟩
      · -- the first one evaluates both windows, and nobody evaluates again
        obtain ⟨hu, hsome⟩ := not_or.mp hpair
        have hu : r.user.isNone = false := Bool.eq_false_iff.mpr hu
        obtain ⟨x, rfl⟩ : ∃ x, windows = some x := by
          cases windows with
          | none => exact absurd hwindows hsome
          | some x => exact ⟨x, rfl⟩
        obtain ⟨result, hresult, hallow⟩ :=
          allowRequest_paired store uuid hkey' hu hwindows
        rw [hallow]
        dsimp only
        obtain ⟨hstays, hanswers⟩ :=
          checkThrottles_cached cfg (evalPair x r uuid store).2 key c cs (evalPair x r uuid store).1 hu
        rw [hstays]
        refine (evalPair_grows hrated hwindows hkey h hmember).mono (fun y hy => ?_) ?_
        · exact hused (mem_append_right _ hy)
        · rintro ⟨hstorage, hmem⟩
          refine ⟨hstorage, ?_⟩
          rcases mem_cons.mp hmem with heq | hmem
          · obtain ⟨rfl, hallowed⟩ := Prod.mk.inj heq
            exact ⟨result, hresult, hallowed.symm⟩
          · obtain ⟨result', hresult', hallowed⟩ := hanswers true hmem (hrated.limited hstorage)
            exact ⟨result', hresult', hallowed.symm⟩
    · -- this class evaluates nothing
      rw [allowRequest_of_not_limited (not_exists.mp hlimited)]
      dsimp only
      have hbounded := h.mono le_rfl (subset_cons_self (r.nowMs, uuid) used)
      refine (ih hbounded hfresh' hnodup'.2).mono hused ?_
      rintro ⟨hstorage, hmem⟩
      rcases mem_cons.mp hmem with heq | hmem
      · obtain ⟨rfl, _⟩ := Prod.mk.inj heq
        exact absurd ⟨key, hrated.limited hstorage⟩ hlimited
      · exact ⟨hstorage, hmem⟩

end Requests

/-! ### Runs -/

/-- The requests come at non-decreasing times, and no two draws are equal. -/
structure Arrives (rs : List Request) : Prop where
  times : (rs.map Request.nowMs).Pairwise (· ≤ ·)
  draws : (rs.flatMap fun r => r.throttles.map Prod.snd).Nodup

section Runs

variable {cfg : RateConfig} {store : WindowStore Member} {key : String} {c : Throttle} {r : Request}
  {rs : List Request} {n : ℤ} {d now : ℕ} {accepted : List ℕ} {used : List Member}

lemma countP_allowedTimes_cons (p : ℕ → Bool) : (allowedTimes cfg c key (r :: rs) store).countP p
      = (if c.storageKey r = some key ∧ (c, true) ∈ (checkThrottles cfg r r.throttles none store).1
          then if p r.nowMs then 1 else 0 else 0)
        + (allowedTimes cfg c key rs (checkThrottles cfg r r.throttles none store).2).countP p := by
  rw [allowedTimes, serve, filterMap_cons]
  by_cases hhit : c.storageKey r = some key ∧ (c, true) ∈ (checkThrottles cfg r r.throttles none store).1
  · simp only [if_pos hhit, countP_cons]
    exact Nat.add_comm _ _
  · simp only [if_neg hhit, Nat.zero_add]
    rfl

lemma allowedTimes_accepted (hagrees : cfg.Agrees) (hrated : c.Rated cfg n d)
    (hkey : ∃ ident, key = buildThrottleStorageKey c.scopeName ident) (harrives : Arrives rs)
    (h : Bounded store key (c.windowMs cfg) (c.limit cfg) accepted now used)
    (hnow : ∀ r ∈ rs, now ≤ r.nowMs)
    (hused : ∀ e ∈ used, e.2 ∉ rs.flatMap fun r => r.throttles.map Prod.snd) :
    ∃ accepted', RateBound (c.limit cfg) (c.windowMs cfg) accepted' ∧
      ∀ p : ℕ → Bool, (allowedTimes cfg c key rs store).countP p + accepted.countP p ≤ accepted'.countP p := by
  induction rs generalizing store accepted now used with
  | nil => exact ⟨accepted, h.bound, fun p => (Nat.zero_add _).le⟩
  | cons r rs ih =>
    have htimes := pairwise_cons.mp harrives.times
    have hdraws := harrives.draws
    rw [flatMap_cons] at hdraws
    obtain ⟨hnodup, hdraws, hdisjoint⟩ := nodup_append.mp hdraws
    have hfresh : ∀ y ∈ r.throttles, (r.nowMs, y.2) ∉ used := by
      intro y hy hmem
      refine hused _ hmem (mem_flatMap.mpr ⟨r, mem_cons_self, ?_⟩)
      exact mem_map_of_mem hy
    have hstart := h.mono (hnow r mem_cons_self) (List.Subset.refl used)
    obtain ⟨m, hbounded, hpos⟩ := checkThrottles_grows hagrees hrated hkey hstart hfresh hnodup
    have hlater : ∀ r' ∈ rs, r.nowMs ≤ r'.nowMs := fun r' hr' => htimes.1 _ (mem_map_of_mem hr')
    obtain ⟨accepted', hbound, hcount⟩ := ih ⟨htimes.2, hdraws⟩ hbounded hlater (by
      intro e he hmem
      rcases mem_append.mp he with he | he
      · obtain ⟨y, hy, rfl⟩ := mem_map.mp he
        exact hdisjoint _ (mem_map_of_mem hy) _ hmem rfl
      · refine hused e he ?_
        rw [flatMap_cons]
        exact mem_append_right _ hmem)
    refine ⟨accepted', hbound, fun p => ?_⟩
    have hcount := hcount p
    rw [countP_append, countP_replicate] at hcount
    rw [countP_allowedTimes_cons]
    split
    · next hhit =>
      have hm := hpos hhit
      cases hp : p r.nowMs with
      | true =>
        simp only [hp, if_true] at hcount ⊢
        omega
      | false =>
        simp only [Bool.false_eq_true, if_false]
        omega
    · omega

lemma Throttle.Rated.rateBound (hrated : c.Rated cfg n d) (hagrees : cfg.Agrees) (harrives : Arrives rs) :
    RateBound n.toNat (d * 1000) (allowedTimes cfg c key rs Keyed.empty) := by
  rw [← hrated.limit_eq, ← hrated.windowMs_eq]
  by_cases hkey : ∃ ident, key = buildThrottleStorageKey c.scopeName ident
  · have hempty : Bounded Keyed.empty key (c.windowMs cfg) (c.limit cfg) [] 0 [] :=
      ⟨tracks_empty key _ 0 [], rateBound_nil _ _⟩
    obtain ⟨_, hbound, hcount⟩ := allowedTimes_accepted hagrees hrated hkey harrives hempty
      (fun r _ => Nat.zero_le r.nowMs) (fun e he => absurd he not_mem_nil)
    exact fun a => (hcount _).trans (hbound a)
  · -- no request has such a key
    have hnone : ∀ r, c.storageKey r ≠ some key := by
      intro r hr
      cases c with
      | perView => exact absurd (congrArg Prod.fst hrated.constructed) hrated.pos.ne
      | user | agency =>
        obtain ⟨ident, _, heq⟩ := map_eq_some_iff.mp hr
        exact hkey ⟨ident, heq.symm⟩
    have hnil : allowedTimes cfg c key rs Keyed.empty = [] :=
      filterMap_eq_nil_iff.mpr fun x _ => if_neg fun hhit => hnone x.1 hhit.1
    rw [hnil]
    exact rateBound_nil _ _

/-! ### The classes without a bound -/

lemma periodSeconds_pos (token : String) : 0 < periodSeconds token := by
  rw [periodSeconds]
  repeat' split
  all_goals decide

lemma seconds_pos {value : String} (h : parseRateLimitWindow value = some (n, d)) : 0 < d := by
  rw [parseRateLimitWindow] at h
  split at h
  · obtain ⟨_, _, heq⟩ := map_eq_some_iff.mp h
    rw [← (Prod.mk.inj heq).2]
    exact periodSeconds_pos _
  · cases h

lemma Throttle.rates_of_configuredRate (h : c.configuredRate cfg = some (n, d)) :
    ∃ rate, cfg.rates c.scopeName = some rate ∧ cfg.parseRate rate = (n, d) := by
  cases c with
  | user | agency => exact map_eq_some_iff.mp h
  | perView =>
    rw [configuredRate] at h
    split at h
    · cases h
    · exact map_eq_some_iff.mp h

lemma Throttle.rated (hagrees : cfg.Agrees) (h : c.configuredRate cfg = some (n, d))
    (hclass : ∀ throttleScope, c ≠ .perView throttleScope) (hn : 0 < n) : c.Rated cfg n d := by
  obtain ⟨rate, hrates, hparse⟩ := Throttle.rates_of_configuredRate h
  have hread := hagrees _ rate hrates
  rw [hparse, max_eq_right (by omega)] at hread
  refine ⟨?_, ?_, hn, seconds_pos hread⟩
  · cases c with
    | user | agency =>
      change ((cfg.rates _).map cfg.parseRate).getD (0, 0) = _
      rw [Throttle.configuredRate] at h
      rw [h]
      rfl
    | perView throttleScope => exact absurd rfl (hclass throttleScope)
  · rw [scopeLimits, hrates, Option.getD_some]
    split
    · next hempty =>
      rw [hempty] at hread
      cases hread
    · exact hread

lemma Throttle.not_limited (h : c.configuredRate cfg = some (n, d))
    (hclass : (∃ throttleScope, c = .perView throttleScope) ∨ n ≤ 0) : ¬c.Limited cfg r key := by
  rintro ⟨_, hrate⟩
  rcases hclass with ⟨throttleScope, rfl⟩ | hn
  · exact hrate (.inl le_rfl)
  · refine hrate (.inl ?_)
    cases c with
    | perView throttleScope => exact le_rfl
    | user | agency =>
      rw [Throttle.configuredRate] at h
      rw [Throttle.constructed, h]
      exact hn

/-- `count` requests of one address at one moment. -/
def burst (c : Throttle) (count : ℕ) : List Request :=
  (List.range count).map fun i => ⟨none, "10.0.0.1", 0, [(c, i)]⟩

lemma resolveUserIdent_address (now : ℕ) (throttles : List (Throttle × ℕ)) :
    resolveUserIdent ⟨none, "10.0.0.1", now, throttles⟩ = some "ip:10.0.0.1" := by
  change (if strip "10.0.0.1" = "" then none else some ("ip:" ++ strip "10.0.0.1")) = _
  decide +kernel

lemma resolveAgencyIdent_address (now : ℕ) (throttles : List (Throttle × ℕ)) :
    resolveAgencyIdent ⟨none, "10.0.0.1", now, throttles⟩ = some "ip:10.0.0.1" :=
  resolveUserIdent_address now throttles

lemma exists_storageKey_burst (h : c.configuredRate cfg = some (n, d)) :
    ∃ key, ∀ i, c.storageKey ⟨none, "10.0.0.1", 0, [(c, i)]⟩ = some key := by
  cases c with
  | user =>
    refine ⟨buildThrottleStorageKey "user" "ip:10.0.0.1", fun i => ?_⟩
    rw [Throttle.storageKey, resolveUserIdent_address, map_some]
  | agency =>
    refine ⟨buildThrottleStorageKey "agency" "ip:10.0.0.1", fun i => ?_⟩
    rw [Throttle.storageKey, resolveAgencyIdent_address, map_some]
  | perView throttleScope =>
    rw [Throttle.configuredRate] at h
    split at h
    · cases h
    · next hscope =>
      refine ⟨"throttle_" ++ throttleScope ++ "_" ++ "ip:10.0.0.1", fun i => ?_⟩
      rw [Throttle.storageKey, if_neg hscope, resolveUserIdent_address, map_some]

lemma burst_arrives (c : Throttle) (count : ℕ) : Arrives (burst c count) := by
  refine ⟨?_, ?_⟩
  · rw [burst, List.map_map]
    exact pairwise_map.mpr (pairwise_of_forall fun _ _ => le_rfl)
  · rw [burst, flatMap_map]
    simp only [map_cons, map_nil]
    rw [flatMap_singleton']
    exact nodup_range

end Runs

section Bound

variable {cfg : RateConfig} {store : WindowStore Member} {key : String} {c : Throttle} {n : ℤ} {d : ℕ}

lemma allowedTimes_of_not_limited (hlimited : ∀ r key, ¬c.Limited cfg r key) {rs : List Request}
    (hkey : ∀ r ∈ rs, c.storageKey r = some key)
    (hrs : ∀ r ∈ rs, r.nowMs = 0 ∧ ∃ uuid, r.throttles = [(c, uuid)]) :
    allowedTimes cfg c key rs store = List.replicate rs.length 0 := by
  induction rs generalizing store with
  | nil => rfl
  | cons r rs ih =>
    obtain ⟨hnow, _, hthrottles⟩ := hrs r mem_cons_self
    have hrest : allowedTimes cfg c key rs store = List.replicate rs.length 0 :=
      ih (fun r' hr' => hkey r' (mem_cons_of_mem r hr'))
        fun r' hr' => hrs r' (mem_cons_of_mem r hr')
    have hanswer : checkThrottles cfg r r.throttles none store = ([(c, true)], store) := by
      rw [hthrottles, checkThrottles, allowRequest_of_not_limited (hlimited r)]
      rfl
    have hhit : c.storageKey r = some key ∧ (c, true) ∈ [(c, true)] :=
      ⟨hkey r mem_cons_self, mem_cons_self⟩
    rw [allowedTimes, serve, hanswer, filterMap_cons]
    simp only [if_pos hhit]
    rw [hnow, length_cons, replicate_succ]
    exact congrArg (List.cons 0) hrest

/-- A class bounds the requests of an identity by its configured rate, over all sequences of requests,
exactly when it is not the scoped one and its rate is positive. -/
theorem rate_bound_iff (hagrees : cfg.Agrees) (hrate : c.configuredRate cfg = some (n, d)) :
    (∀ rs key, Arrives rs → RateBound n.toNat (d * 1000) (allowedTimes cfg c key rs Keyed.empty)) ↔
      (∀ throttleScope, c ≠ .perView throttleScope) ∧ 0 < n := by
  constructor
  · intro hbound
    by_contra hclass
    have hclass : (∃ throttleScope, c = .perView throttleScope) ∨ n ≤ 0 := by
      rcases not_and_or.mp hclass with hview | hn
      · exact .inl (by simpa using hview)
      · exact .inr (not_lt.mp hn)
    obtain ⟨rate, hrates, hparse⟩ := Throttle.rates_of_configuredRate hrate
    have hread := hagrees _ rate hrates
    rw [hparse] at hread
    have hseconds := seconds_pos hread
    obtain ⟨key, hkey⟩ := exists_storageKey_burst hrate
    have htimes : allowedTimes cfg c key (burst c (n.toNat + 1)) Keyed.empty = List.replicate (n.toNat + 1) 0 := by
      have heq : allowedTimes cfg c key (burst c (n.toNat + 1)) Keyed.empty
          = List.replicate (burst c (n.toNat + 1)).length 0 := by
        refine allowedTimes_of_not_limited (fun r key => Throttle.not_limited hrate hclass) ?_ ?_
        · intro r hr
          obtain ⟨i, _, rfl⟩ := mem_map.mp hr
          exact hkey i
        · intro r hr
          obtain ⟨i, _, rfl⟩ := mem_map.mp hr
          exact ⟨rfl, i, rfl⟩
      rwa [burst, length_map, length_range] at heq
    have hcount := hbound _ key (burst_arrives c (n.toNat + 1)) 0
    rw [htimes, countP_replicate, if_pos (by simpa using hseconds)] at hcount
    omega
  · rintro ⟨hclass, hn⟩ _ _ harrives
    exact (Throttle.rated hagrees hrate hclass hn).rateBound hagrees harrives

end Bound

def sampleRates : RateConfig where
  rates := fun scope =>
    if scope = "user" then some "2/min" else if scope = "agency" then some "10/min"
    else if scope = "search" then some "1/min" else none
  parseRate := fun rate =>
    if rate = "2/min" then (2, 60) else if rate = "10/min" then (10, 60) else (1, 60)

lemma sampleRates_agrees : sampleRates.Agrees := by
  intro scope rate hrate
  simp only [sampleRates] at hrate
  split_ifs at hrate <;> cases hrate <;> decide +kernel

/-- The user throttle allows two of three requests at once. -/
theorem rate_bound_iff_user :
    RateBound 2 60000 (allowedTimes sampleRates .user "throttle:user:ip:10.0.0.1" (burst .user 3) Keyed.empty) ∧
      allowedTimes sampleRates .user "throttle:user:ip:10.0.0.1" (burst .user 3) Keyed.empty = [0, 0] :=
  ⟨(rate_bound_iff (c := .user) (n := 2) (d := 60) sampleRates_agrees rfl).mpr ⟨by simp, by decide⟩ _ _
    (burst_arrives .user 3), by decide +kernel⟩

/-- Two searches at once are allowed where the rate is one a minute. -/
theorem scoped_rate_exceeded : Throttle.configuredRate sampleRates (.perView "search") = some (1, 60) ∧
      ¬RateBound 1 60000 (allowedTimes sampleRates (.perView "search") "throttle_search_ip:10.0.0.1"
        (burst (.perView "search") 2) Keyed.empty) := by
  refine ⟨by decide +kernel, fun hbound => ?_⟩
  have htimes : allowedTimes sampleRates (.perView "search") "throttle_search_ip:10.0.0.1"
      (burst (.perView "search") 2) Keyed.empty = [0, 0] := by decide +kernel
  have hcount := hbound 0
  rw [htimes] at hcount
  exact absurd hcount (by decide)

end ImmoApp.Throttling
