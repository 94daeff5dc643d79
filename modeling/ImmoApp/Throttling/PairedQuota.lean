import ImmoApp.Throttling.Throttles

/-!
# The quota of the paired windows

One script evaluates the window of the agency and then that of the user, and each of them takes the request in while
it has room.  The request passes if both do, so a request that only one of them refuses still uses up the other.
-/

namespace ImmoApp.Throttling

open List WindowStore

variable {store : WindowStore Member} {key : String} {now window limit : ℕ} {member : Member}

/-- The entries of a window, with none that is not in the first store. -/
def NoGain (before after : WindowStore Member) : Prop :=
  ∀ key, ∀ e ∈ after.entriesOf key, e ∈ before.entriesOf key

namespace PairWindows

variable (x : PairWindows) (r : Request) (store : WindowStore Member)

def agencyKey : String := buildThrottleStorageKey "agency" x.agencyIdent

def userKey : String := buildThrottleStorageKey "user" x.userIdent

def agencyFull : Prop :=
  x.agencyLimit.toNat ≤ (store.kept x.agencyKey r.nowMs (max 1000 (x.agencyDuration * 1000))).length

def userFull : Prop := x.userLimit.toNat ≤ (store.kept x.userKey r.nowMs (max 1000 (x.userDuration * 1000))).length

def evalAgency (uuid : ℕ) : WindowResult × WindowStore Member :=
  WindowStore.evalWindow x.agencyKey r.nowMs (max 1000 (x.agencyDuration * 1000)) x.agencyLimit.toNat
    (r.nowMs, uuid) store

def evalUser (uuid : ℕ) : WindowResult × WindowStore Member :=
  WindowStore.evalWindow x.userKey r.nowMs (max 1000 (x.userDuration * 1000)) x.userLimit.toNat (r.nowMs, uuid)
    (x.evalAgency r store uuid).2

/-- Both windows have room, or none of them. -/
def Balanced : Prop := x.agencyFull r store ↔ x.userFull r store

end PairWindows

def PairResult.passes (pair : PairResult) : Bool := pair.agency.allowed && pair.user.allowed

def pairStep (cfg : RateConfig) (s : List (Request × ℕ) × WindowStore Member) (call : Request × ℕ) :
    List (Request × ℕ) × WindowStore Member :=
  match pairWindows cfg call.1 with
  | some (some x) =>
    let e := evalPair x call.1 call.2 s.2
    (if e.1.passes then call :: s.1 else s.1, e.2)
  | _ => s

def pairRun (cfg : RateConfig) (calls : List (Request × ℕ)) : List (Request × ℕ) × WindowStore Member :=
  calls.foldl (pairStep cfg) ([], Keyed.empty)

/-- Each request of the run finds room in both windows or in none. -/
def BalancedRun (cfg : RateConfig) (calls : List (Request × ℕ)) : Prop :=
  ∀ before call after, calls = before ++ call :: after → ∀ x, pairWindows cfg call.1 = some (some x) →
    x.Balanced call.1 (pairRun cfg before).2

def memberOf (call : Request × ℕ) : Member := (call.1.nowMs, call.2)

/-- Requests in the order of time, each with a number of its own. -/
structure DrawnInOrder (calls : List (Request × ℕ)) : Prop where
  sorted : calls.Pairwise fun call call' => call.1.nowMs ≤ call'.1.nowMs
  nodup : (calls.map memberOf).Nodup

def pairWindowMs (cfg : RateConfig) (scope : String) : ℕ := max 1000 (((scopeLimits cfg scope).getD (0, 0)).2 * 1000)

/-- The entries of the window are those of the calls: no other members, and at any later time as many young ones. -/
def Exact (store : WindowStore Member) (key : String) (window : ℕ) (calls : List (Request × ℕ)) (now : ℕ) : Prop :=
  store.Tracks key window (calls.map fun call => call.1.nowMs) now (calls.map memberOf)

/-! ### One evaluation -/

lemma allowed_evalWindow_iff : (WindowStore.evalWindow key now window limit member store).1.allowed = true ↔
    ¬limit ≤ (store.kept key now window).length := by
  rw [WindowStore.evalWindow]
  split
  · next hroom => simp [hroom]
  · next hfull => simpa using hfull

lemma mem_evalWindow (h : (WindowStore.evalWindow key now window limit member store).1.allowed = true) :
    (member, now) ∈ (WindowStore.evalWindow key now window limit member store).2.entriesOf key := by
  rw [WindowStore.evalWindow, if_pos (not_le.mp (allowed_evalWindow_iff.mp h)), WindowStore.entriesOf]
  simp [Dict.mem_set]

lemma noGain_evalWindow (h : (WindowStore.evalWindow key now window limit member store).1.allowed = false) :
    NoGain store (WindowStore.evalWindow key now window limit member store).2 := by
  intro key' e he
  by_cases hkey : key' = key
  · subst hkey
    have hfull : limit ≤ (store.kept key' now window).length := by
      by_contra hroom
      rw [allowed_evalWindow_iff.mpr hroom] at h
      cases h
    rw [WindowStore.evalWindow, if_neg (not_lt.mpr hfull), WindowStore.entriesOf, get?_trim] at he
    split_ifs at he
    · exact absurd he not_mem_nil
    · rw [WindowStore.entriesOf]
      cases hz : store.get? key' with
      | none => simp [hz] at he
      | some =>
        have hkept : e ∈ store.kept key' now window := by simpa [hz] using he
        rw [WindowStore.kept, WindowStore.current, hz] at hkept
        have hmem := mem_of_mem_filter hkept
        dsimp only at hmem
        split_ifs at hmem
        · exact absurd hmem not_mem_nil
        · exact hmem
  · rwa [WindowStore.entriesOf, get?_evalWindow_of_ne hkey] at he

section Pair

variable (x : PairWindows) (r : Request) (uuid : ℕ) (store : WindowStore Member)

lemma evalPair_eq : (evalPair x r uuid store).2 = (x.evalUser r store uuid).2 ∧ (evalPair x r uuid store).1.passes =
      ((x.evalAgency r store uuid).1.allowed && (x.evalUser r store uuid).1.allowed) := ⟨rfl, rfl⟩

lemma userKey_ne_agencyKey : x.userKey ≠ x.agencyKey := buildThrottleStorageKey_ne x.userIdent x.agencyIdent

lemma evalAgency_allowed_iff : (x.evalAgency r store uuid).1.allowed = true ↔ ¬x.agencyFull r store := by
  rw [PairWindows.evalAgency, allowed_evalWindow_iff, PairWindows.agencyFull]

lemma evalUser_allowed_iff : (x.evalUser r store uuid).1.allowed = true ↔ ¬x.userFull r store := by
  rw [PairWindows.evalUser, allowed_evalWindow_iff, PairWindows.userFull, WindowStore.kept, WindowStore.kept,
    WindowStore.current, WindowStore.current, PairWindows.evalAgency,
    get?_evalWindow_of_ne (userKey_ne_agencyKey x)]

lemma entriesOf_evalUser : (x.evalUser r store uuid).2.entriesOf x.agencyKey =
    (x.evalAgency r store uuid).2.entriesOf x.agencyKey := by
  rw [WindowStore.entriesOf, PairWindows.evalUser,
    get?_evalWindow_of_ne (userKey_ne_agencyKey x).symm, ← WindowStore.entriesOf]

variable {x r uuid store}

lemma noGain_iff (hfresh : ∀ key, (r.nowMs, uuid) ∉ (store.entriesOf key).map Prod.fst) :
    ((evalPair x r uuid store).1.passes = false → NoGain store (evalPair x r uuid store).2) ↔
      x.Balanced r store := by
  obtain ⟨hafter, hpasses⟩ := evalPair_eq x r uuid store
  have hagency := evalAgency_allowed_iff x r uuid store
  have huser := evalUser_allowed_iff x r uuid store
  have hgain : ∀ key, ((r.nowMs, uuid), r.nowMs) ∈ (x.evalUser r store uuid).2.entriesOf key →
      ¬NoGain store (x.evalUser r store uuid).2 := fun key hmem hno =>
    hfresh key (mem_map_of_mem (hno key _ hmem))
  rw [hafter, hpasses, PairWindows.Balanced]
  cases hallowed : (x.evalAgency r store uuid).1.allowed with
  | true =>
    cases hallowed' : (x.evalUser r store uuid).1.allowed with
    | true => exact iff_of_true (by simp) (by simp_all)
    | false =>
      refine iff_of_false (fun h => hgain x.agencyKey ?_ (h rfl)) (by simp_all)
      rw [entriesOf_evalUser]
      exact mem_evalWindow hallowed
  | false =>
    cases hallowed' : (x.evalUser r store uuid).1.allowed with
    | true => exact iff_of_false (fun h => hgain x.userKey (mem_evalWindow hallowed') (h rfl)) (by simp_all)
    | false =>
      exact iff_of_true (fun _ key e he => noGain_evalWindow hallowed key e (noGain_evalWindow hallowed' key e he))
        (by simp_all)

end Pair

/-! ### Runs -/

/-- The calls of one key. -/
def passed (c : Throttle) (key : String) (calls : List (Request × ℕ)) : List (Request × ℕ) :=
  calls.filter fun call => c.storageKey call.1 = some key

variable {calls : List (Request × ℕ)} {call : Request × ℕ} {cfg : RateConfig}

lemma Exact.eval {key₀ : String}
    (h : Exact store key window calls call.1.nowMs) (hfresh : memberOf call ∉ calls.map memberOf) (limit : ℕ) :
    Exact (WindowStore.evalWindow key₀ call.1.nowMs window limit (memberOf call) store).2 key window
      (if key = key₀ ∧ (WindowStore.evalWindow key₀ call.1.nowMs window limit (memberOf call) store).1.allowed then
        call :: calls else calls) call.1.nowMs := by
  by_cases hkey : key = key₀
  · subst hkey
    split_ifs with hallowed
    · exact Tracks.evalWindow_allowed h hfresh hallowed.2
    · exact Tracks.evalWindow_refused h (by simpa using hallowed)
  · rw [if_neg fun hand => hkey hand.1]
    exact Tracks.of_get? h (get?_evalWindow_of_ne hkey)

/-- The windows of the agencies and of the users have the entries of what passed. -/
def QuotaKept (cfg : RateConfig) (s : List (Request × ℕ) × WindowStore Member) (now : ℕ) : Prop :=
  ∀ c key, c = .agency ∨ c = .user → (∃ ident, key = buildThrottleStorageKey c.scopeName ident) →
    Exact s.2 key (pairWindowMs cfg c.scopeName) (passed c key s.1) now

lemma QuotaKept.step {s : List (Request × ℕ) × WindowStore Member}
    (h : QuotaKept cfg s call.1.nowMs) (hfresh : memberOf call ∉ s.1.map memberOf)
    (hbalanced : ∀ x, pairWindows cfg call.1 = some (some x) → x.Balanced call.1 s.2) :
    QuotaKept cfg (pairStep cfg s call) call.1.nowMs := by
  rw [pairStep]
  split
  · next x hx =>
    obtain ⟨⟨hagencyIdent, huserIdent⟩, hagency, huser⟩ := pairWindows_eq_some hx
    have hbalanced := hbalanced x hx
    have hagencyAllowed := evalAgency_allowed_iff x call.1 call.2 s.2
    have huserAllowed := evalUser_allowed_iff x call.1 call.2 s.2
    have hboth : (x.evalUser call.1 s.2 call.2).1.allowed = (x.evalAgency call.1 s.2 call.2).1.allowed := by
      rw [Bool.eq_iff_iff, hagencyAllowed, huserAllowed]
      exact not_congr hbalanced.symm
    have hagencyWindow : pairWindowMs cfg "agency" = max 1000 (x.agencyDuration * 1000) := by
      rw [pairWindowMs, hagency]
      rfl
    have huserWindow : pairWindowMs cfg "user" = max 1000 (x.userDuration * 1000) := by
      rw [pairWindowMs, huser]
      rfl
    have hpassed : ∀ c key₀, c.storageKey call.1 = some key₀ → ∀ key,
        (if key = key₀ ∧ (x.evalAgency call.1 s.2 call.2).1.allowed = true then call :: passed c key s.1
          else passed c key s.1) =
        passed c key (if (evalPair x call.1 call.2 s.2).1.passes then call :: s.1 else s.1) := by
      intro c key₀ hkey₀ key
      rw [(evalPair_eq x call.1 call.2 s.2).2, hboth, Bool.and_self]
      by_cases hkey : key = key₀
      · subst hkey
        split_ifs <;> simp_all [passed]
      · rw [if_neg fun hand => hkey hand.1]
        split_ifs
        · rw [passed, passed, filter_cons_of_neg (by simpa [hkey₀, eq_comm] using hkey)]
        · rfl
    intro c key hc hident
    have hbefore := h c key hc hident
    have hnew : memberOf call ∉ (passed c key s.1).map memberOf := fun hmem =>
      hfresh ((filter_sublist.map memberOf).mem hmem)
    obtain ⟨ident, rfl⟩ := hident
    rcases hc with rfl | rfl
    · have hstorage : Throttle.storageKey call.1 .agency = some x.agencyKey := by
        rw [Throttle.storageKey, hagencyIdent]
        rfl
      have hne : buildThrottleStorageKey "agency" ident ≠ x.userKey :=
        (buildThrottleStorageKey_ne x.userIdent ident).symm
      rw [Throttle.scopeName, hagencyWindow] at hbefore
      rw [Throttle.scopeName, hagencyWindow, ← hpassed .agency x.agencyKey hstorage]
      have heval : Exact (x.evalAgency call.1 s.2 call.2).2 _ _ _ call.1.nowMs :=
        hbefore.eval hnew x.agencyLimit.toNat
      exact heval.of_get? (get?_evalWindow_of_ne hne)
    · have hstorage : Throttle.storageKey call.1 .user = some x.userKey := by
        rw [Throttle.storageKey, huserIdent]
        rfl
      have hne : buildThrottleStorageKey "user" ident ≠ x.agencyKey := buildThrottleStorageKey_ne ident x.agencyIdent
      rw [Throttle.scopeName, huserWindow] at hbefore
      rw [Throttle.scopeName, huserWindow, ← hpassed .user x.userKey hstorage, ← hboth]
      have hstays : Exact (x.evalAgency call.1 s.2 call.2).2 _ _ _ call.1.nowMs :=
        hbefore.of_get? (get?_evalWindow_of_ne hne)
      exact hstays.eval hnew x.userLimit.toNat
  · exact h

lemma mem_pairRun (h : call ∈ (pairRun cfg calls).1) : call ∈ calls := by
  induction calls using List.reverseRecOn with
  | nil => exact h
  | append_singleton calls last ih =>
    rw [pairRun, foldl_append] at h
    have hstep : call = last ∨ call ∈ (pairRun cfg calls).1 := by
      change call ∈ (pairStep cfg (pairRun cfg calls) last).1 at h
      rw [pairStep] at h
      split at h
      · dsimp only at h
        split_ifs at h
        · exact mem_cons.mp h
        · exact .inr h
      · exact .inr h
    rcases hstep with rfl | hmem
    · exact mem_append_right calls (mem_singleton_self call)
    · exact mem_append_left [last] (ih hmem)

/-- The first part is about every state: a refused request gains no entry exactly in a balanced one.  The second is
about runs: where each request finds the windows balanced, their entries are the requests that passed. -/
theorem quota_kept_iff (cfg : RateConfig) :
    (∀ (x : PairWindows) (r : Request) (uuid : ℕ) (store : WindowStore Member),
      (∀ key, (r.nowMs, uuid) ∉ (store.entriesOf key).map Prod.fst) →
        (((evalPair x r uuid store).1.passes = false → NoGain store (evalPair x r uuid store).2) ↔
          x.Balanced r store)) ∧
      ∀ calls now, DrawnInOrder calls → (∀ call ∈ calls, call.1.nowMs ≤ now) → BalancedRun cfg calls →
        QuotaKept cfg (pairRun cfg calls) now := by
  refine ⟨fun x r uuid store hfresh => noGain_iff hfresh, fun calls => ?_⟩
  induction calls using List.reverseRecOn with
  | nil => exact fun now _ _ _ c key _ _ => tracks_empty key _ now _
  | append_singleton calls last ih =>
    intro now hdrawn hnow hbalanced
    have hsorted := pairwise_append.mp hdrawn.sorted
    have hnodup := hdrawn.nodup
    rw [map_append, nodup_append] at hnodup
    have hbefore := ih last.1.nowMs ⟨hsorted.1, hnodup.1⟩
      (fun call hcall => hsorted.2.2 call hcall last (mem_singleton_self last))
      fun before call after hsplit => hbalanced before call (after ++ [last]) (by rw [hsplit]; simp)
    have hfresh : memberOf last ∉ (pairRun cfg calls).1.map memberOf := by
      intro hmem
      obtain ⟨_, hcall, heq⟩ := mem_map.mp hmem
      exact hnodup.2.2 _ (mem_map_of_mem (mem_pairRun hcall)) _ (mem_singleton_self _) heq
    have hafter := hbefore.step hfresh (hbalanced calls last [] rfl)
    rw [pairRun, foldl_append]
    intro c key hc hident
    exact (hafter c key hc hident).mono (hnow last (mem_append_right calls (mem_singleton_self last)))
      (List.Subset.refl _)

/-- Ten requests for the agency and one for the user: the second request at once is refused, and still counts for
the agency. -/
theorem refused_request_uses_quota : ¬∀ (x : PairWindows) (r : Request) (uuid : ℕ) (store : WindowStore Member),
    (evalPair x r uuid store).1.passes = false → NoGain store (evalPair x r uuid store).2 := by
  intro h
  let x : PairWindows := ⟨"agency:1", "user:7", 10, 60, 1, 60⟩
  let r : Request := ⟨some ⟨some 7, some 1⟩, "10.0.0.1", 0, []⟩
  have hgain := h x r 1 (evalPair x r 0 Keyed.empty).2 (by decide +kernel) x.agencyKey ((0, 1), 0) (by decide +kernel)
  exact absurd hgain (by decide +kernel)

end ImmoApp.Throttling
