import ImmoApp.Caching.LocalCache

/-!
# The byte counts of the local cache

`Accounted` says that the byte counts of the cache are those of its live entries: in all, and for each tenant.
Every part of `get`, `set` and `clear` keeps it, so that it holds after any sequence of calls (`bytes_accounted`).
The loop of `_evict_under_pressure` evicts an entry in each round and therefore ends.
-/

namespace ImmoApp.Caching

open AdaptiveLocalCache List Option Keyed

/-! ### Keys and tenants -/

inductive CacheNamespace where
  | clientsList
  | clientsCount
  | listingsList
  | listingsCount
  | usersList
  | invitesList
  | notificationsList
  | notificationsCount

def CacheNamespace.value : CacheNamespace → String
  | .clientsList => "clients_list"
  | .clientsCount => "clients_count"
  | .listingsList => "listings_list"
  | .listingsCount => "listings_count"
  | .usersList => "users_list"
  | .invitesList => "invites_list"
  | .notificationsList => "notifications_list"
  | .notificationsCount => "notifications_count"

def namespaceKey (cacheNamespace : CacheNamespace) (agencyId actorId : Option ℤ) : String :=
  let tenantKey :=
    match agencyId, actorId with
    | some agencyId, _ => "agency:" ++ toString agencyId
    | none, some actorId => "actor:" ++ toString actorId
    | none, none => "global"
  "immoapp:response_cache:" ++ cacheNamespace.value ++ ":" ++ tenantKey

/-- `_full_key`: the key, and the tenant it is counted for. -/
def fullKey (cacheNamespace : CacheNamespace) (agencyId actorId : Option ℤ) (payloadKey : String) : String × String :=
  let tenantScope := namespaceKey cacheNamespace agencyId actorId
  (tenantScope ++ ":q:" ++ payloadKey, tenantScope)

/-- The number of digits of `_stable_hash`. -/
def hashDigits : ℕ := 64

def tenantOfKey (key : String) : String := String.ofList (key.toList.take (key.length - (hashDigits + 3)))

variable (preferredTenantKey : String) (cacheNamespace : CacheNamespace) (agencyId actorId : Option ℤ)
    (repr : FloatRepr) (payload : Json)

lemma tenantOfKey_fullKey {payloadKey : String} (hdigits : payloadKey.length = hashDigits) :
    tenantOfKey (fullKey cacheNamespace agencyId actorId payloadKey).1 =
      (fullKey cacheNamespace agencyId actorId payloadKey).2 := by
  have hscope : (fullKey cacheNamespace agencyId actorId payloadKey).1.length - (hashDigits + 3) =
      (namespaceKey cacheNamespace agencyId actorId).toList.length := by
    have hcolons : (":q:" : String).length = 3 := by decide
    simp only [fullKey, String.length_append, hdigits, hcolons, String.length_toList]
    omega
  rw [tenantOfKey, hscope]
  simp [fullKey, String.toList_append]

lemma append_ne_empty {s : String} (t : String) (hs : s ≠ "") : s ++ t ≠ "" := by
  intro h
  exact hs (String.append_eq_empty_iff.mp h).1

lemma fullKey_ne_empty (payloadKey : String) : (fullKey cacheNamespace agencyId actorId payloadKey).2 ≠ "" := by
  have hfront : ("immoapp:response_cache:" : String) ≠ "" := by decide
  exact append_ne_empty _ (append_ne_empty _ (append_ne_empty _ hfront))

lemma toString_int_ne_empty (n : ℤ) : toString n ≠ "" := by
  rw [Int.toString_eq_repr, Int.repr_eq_if]
  split
  · exact Nat.repr_ne_empty
  · exact append_ne_empty _ (by decide)

lemma dumps_ne_empty : Json.dumps repr.text .compact payload ≠ "" := by
  rw [Json.dumps]
  rcases payload with v | items | fields
  · cases v with
    | null => simp [Json.dumpsAt, Json.scalarText]
    | bool b => cases b <;> simp [Json.dumpsAt, Json.scalarText]
    | int n =>
      simp only [Json.dumpsAt, Json.scalarText]
      exact toString_int_ne_empty n
    | float q =>
      simp only [Json.dumpsAt, Json.scalarText]
      exact repr.text_ne_empty q
    | str =>
      simp only [Json.dumpsAt, Json.scalarText, Json.quoted]
      exact append_ne_empty _ (append_ne_empty _ (by decide))
  · cases items <;> simp [Json.dumpsAt]
  · cases fields <;> simp [Json.dumpsAt]

lemma payloadBytes_pos : 0 < payloadBytes repr payload := by
  rw [payloadBytes]
  have hne := dumps_ne_empty repr payload.sortKeys
  rcases hlist : (Json.dumps repr.text .compact payload.sortKeys).toList with _ | ⟨c, _⟩
  · exact absurd (String.toList_eq_nil_iff.mp hlist) hne
  · have hchar : 0 < asciiBytes c := by
      unfold asciiBytes
      split_ifs <;> omega
    simp only [map_cons, sum_cons]
    omega

/-! ### The invariant -/

def tenantShare (tenant : String) (_key : String) (e : CacheEntryEnvelope) : ℕ :=
  if e.tenantKey = tenant then e.payloadBytes else 0

def AdaptiveLocalCache.liveBytes (c : AdaptiveLocalCache) : ℕ := c.entries.total fun _ e => e.payloadBytes

def AdaptiveLocalCache.liveBytesOf (c : AdaptiveLocalCache) (tenant : String) : ℕ :=
  c.entries.total (tenantShare tenant)

def keptCount (n : ℕ) : Option ℕ := if n = 0 then none else some n

@[simp] lemma getD_keptCount (n : ℕ) : (keptCount n).getD 0 = n := by
  unfold keptCount
  split
  · next h => simp [h]
  · rfl

variable {tenantOf : String → String} {c : AdaptiveLocalCache}

/-- The live entries are of positive size and counted for the tenant of their key. -/
structure Entered (tenantOf : String → String) (c : AdaptiveLocalCache) : Prop where
  positive : ∀ key e, c.entries.get? key = some e → 0 < e.payloadBytes
  tenant : ∀ key e, c.entries.get? key = some e → e.tenantKey = tenantOf key
  named : ∀ key e, c.entries.get? key = some e → e.tenantKey ≠ ""

/-- The byte counts are those of the live entries. -/
structure Accounted (tenantOf : String → String) (c : AdaptiveLocalCache) : Prop
    extends Entered tenantOf c where
  total : c.totalBytes = c.liveBytes
  tenants : ∀ tenant, c.tenantBytes.get? tenant = keptCount (c.liveBytesOf tenant)

lemma accounted_init (tenantOf : String → String) (maxBytes : ℕ) : Accounted tenantOf (init maxBytes) where
  positive := by rintro key e ⟨⟩
  tenant := by rintro _ e ⟨⟩
  named := by rintro _ e ⟨⟩
  total := rfl
  tenants _ := rfl

variable {c' : AdaptiveLocalCache} {t : Keyed String CacheEntryEnvelope}

lemma Accounted.congr (h : Accounted tenantOf c) (hentries : c'.entries = c.entries)
    (htotal : c'.totalBytes = c.totalBytes) (htenants : c'.tenantBytes = c.tenantBytes) :
    Accounted tenantOf c' where
  positive := by rw [hentries]; exact h.positive
  tenant := by rw [hentries]; exact h.tenant
  named := by rw [hentries]; exact h.named
  total := by rw [htotal, h.total, liveBytes, liveBytes, hentries]
  tenants := by
    intro tenant
    rw [htenants, h.tenants, liveBytesOf, liveBytesOf, hentries]

variable {key : String} {e : CacheEntryEnvelope} {call : SetCall}

lemma Entered.tenant_eq (h : Entered tenantOf c) (hget : c.entries.get? key = some e) : e.tenant = e.tenantKey := by
  rw [CacheEntryEnvelope.tenant, if_neg (h.named key e hget)]

lemma Entered.of_subset (h : Entered tenantOf c)
    (hsubset : ∀ key e, c'.entries.get? key = some e → c.entries.get? key = some e) : Entered tenantOf c' where
  positive key e hget := h.positive key e (hsubset key e hget)
  tenant key e hget := h.tenant key e (hsubset key e hget)
  named key e hget := h.named key e (hsubset key e hget)

lemma get?_of_get?_deleteKey {key' : String}
    (hget : (t.deleteKey key).get? key' = some e) : t.get? key' = some e := by
  rw [get?_deleteKey] at hget
  split at hget
  · cases hget
  · exact hget

/-! ### Taking an entry out -/

lemma total_deleteKey_tenantShare (hget : t.get? key = some e) (tenant : String) :
    (t.deleteKey key).total (tenantShare tenant) =
      if tenant = e.tenantKey then t.total (tenantShare tenant) - e.payloadBytes
      else t.total (tenantShare tenant) := by
  have htotal := total_deleteKey (f := tenantShare tenant) hget
  split
  · next heq =>
    rw [tenantShare, if_pos heq.symm] at htotal
    omega
  · next hne =>
    rw [tenantShare, if_neg (Ne.symm hne)] at htotal
    omega

lemma Accounted.bytesOf (h : Accounted tenantOf c) (tenant : String) : c.bytesOf tenant = c.liveBytesOf tenant := by
  rw [AdaptiveLocalCache.bytesOf, h.tenants, getD_keptCount]

lemma Accounted.totalBytes_sub (h : Accounted tenantOf c) (hget : c.entries.get? key = some e) :
    c.totalBytes - e.payloadBytes = (c.entries.deleteKey key).total fun _ e => e.payloadBytes := by
  have htotal := total_deleteKey (f := fun _ e => e.payloadBytes) hget
  have hbytes : c.totalBytes = c.entries.total fun _ e => e.payloadBytes := h.total
  omega

lemma get?_set_or_deleteKey (counts : Keyed String ℕ) (tenant : String) (left : ℕ) (tenant' : String) :
    (if left ≤ 0 then (counts.set tenant left).deleteKey tenant else counts.set tenant left).get? tenant' =
      if tenant' = tenant then keptCount left else counts.get? tenant' := by
  rw [keptCount]
  split_ifs <;> simp_all [get?_deleteKey]

section

variable (h : Accounted tenantOf c)
include h

lemma Accounted.evictKey (key : String) : Accounted tenantOf (c.evictKey key) := by
  unfold AdaptiveLocalCache.evictKey
  split
  · exact h
  · next e hget =>
    refine ⟨h.toEntered.of_subset fun _ _ => get?_of_get?_deleteKey, h.totalBytes_sub hget, fun tenant => ?_⟩
    refine (get?_set_or_deleteKey _ _ _ _).trans ?_
    change _ = keptCount ((c.entries.deleteKey key).total (tenantShare tenant))
    rw [total_deleteKey_tenantShare hget, h.toEntered.tenant_eq hget, h.bytesOf, h.tenants]
    split
    · next heq => rw [heq, liveBytesOf]
    · rfl

lemma Accounted.expireTriple (t : ExpiryTriple) : Accounted tenantOf (expireTriple t c) := by
  unfold AdaptiveLocalCache.expireTriple
  split
  · exact h
  · split_ifs
    · exact h
    · exact h
    · exact h.evictKey t.key

lemma Accounted.compactExpiryHeapIfNeeded :
    Accounted tenantOf c.compactExpiryHeapIfNeeded := by
  unfold AdaptiveLocalCache.compactExpiryHeapIfNeeded
  split
  · exact h
  · exact h.congr rfl rfl rfl

lemma Accounted.expire (nowMs : ℤ) : Accounted tenantOf (c.expire nowMs) := by
  have hpopped := Heap.popWhile_invariant (p := fun t => decide (t.expiresAt ≤ nowMs)) (h := c.expiryHeap)
    (P := fun _ c => Accounted tenantOf c) (fun t _ c _ hc => hc.expireTriple t) h
  exact Accounted.compactExpiryHeapIfNeeded (hpopped.congr rfl rfl rfl)

end

lemma get?_of_firstKey {p : CacheEntryEnvelope → Bool} (h : c.firstKey p = some key) :
    ∃ e, c.entries.get? key = some e := by
  obtain ⟨e, hfind, rfl⟩ := map_eq_some_iff.mp h
  exact ⟨e.2, mem_entries_iff.mp (mem_of_find?_eq_some hfind)⟩

lemma exists_candidateKey (hlive : c.entries.entries ≠ []) :
    ∃ key e, c.candidateKey preferredTenantKey = some key ∧ c.entries.get? key = some e := by
  have holdest : (c.firstKey fun _ => true).isSome := by
    obtain ⟨e, _, hentries⟩ := exists_cons_of_ne_nil hlive
    simp [firstKey, hentries]
  obtain ⟨key, hkey⟩ := isSome_iff_exists.mp
    (show (c.candidateKey preferredTenantKey).isSome by simp [candidateKey, holdest])
  suffices hget : ∃ e, c.entries.get? key = some e from ⟨key, hget.choose, hkey, hget.choose_spec⟩
  rw [candidateKey, or_eq_some_iff, or_eq_some_iff] at hkey
  rcases hkey with (hpreferred | ⟨_, hshare⟩) | ⟨_, holdest⟩
  · split at hpreferred
    · exact get?_of_firstKey hpreferred
    · cases hpreferred
  · exact get?_of_firstKey hshare
  · exact get?_of_firstKey holdest

lemma live_evictCandidate_lt {highBytes : ℕ}
    (hpressure : c.underPressure highBytes = true) : (c.evictCandidate preferredTenantKey).live < c.live := by
  have hlive : c.entries.entries ≠ [] := by
    rw [underPressure, Bool.and_eq_true] at hpressure
    simpa using hpressure.2
  obtain ⟨key, e, hkey, hget⟩ := exists_candidateKey preferredTenantKey hlive
  have hentries : (c.evictKey key).entries = c.entries.deleteKey key := by
    rw [AdaptiveLocalCache.evictKey, hget]
  have hlength := length_deleteKey hget
  rw [evictCandidate, hkey, live, live, hentries]
  omega

/-- The loop of `_evict_under_pressure` ends. -/
theorem evictUnderPressure_ends (c : AdaptiveLocalCache) (highBytes : ℕ) (preferredTenantKey : String) :
    (c.evictUnderPressure highBytes preferredTenantKey).underPressure highBytes = false :=
  whileFor_ends live (fun _ hpressure => live_evictCandidate_lt preferredTenantKey hpressure) le_rfl

lemma Accounted.evictUnderPressure (h : Accounted tenantOf c) (highBytes : ℕ) (preferredTenantKey : String) :
    Accounted tenantOf (c.evictUnderPressure highBytes preferredTenantKey) := by
  refine whileFor_invariant (P := Accounted tenantOf) (fun c _ hc => ?_) c.live h
  unfold evictCandidate
  split
  · exact hc
  · next key _ => exact hc.evictKey key

/-! ### Writing an entry -/

/-- The cache in the middle of `set`: the entry that stood under the key is gone, and the count of its tenant may
be zero. -/
structure Opened (tenantOf : String → String) (key : String) (c : AdaptiveLocalCache) : Prop
    extends Entered tenantOf c where
  absent : c.entries.get? key = none
  total : c.totalBytes = c.liveBytes
  own : c.bytesOf (tenantOf key) = c.liveBytesOf (tenantOf key)
  others : ∀ tenant, tenant ≠ tenantOf key → c.tenantBytes.get? tenant = keptCount (c.liveBytesOf tenant)

lemma Accounted.dropExisting (h : Accounted tenantOf c) (key : String) :
    Opened tenantOf key (c.dropExisting key) := by
  unfold AdaptiveLocalCache.dropExisting
  split
  · next hnone => exact ⟨h.toEntered, hnone, h.total, h.bytesOf _, fun tenant _ => h.tenants tenant⟩
  · next e hget =>
    have hown := h.tenant key e hget
    rw [h.toEntered.tenant_eq hget, hown, h.bytesOf]
    refine ⟨h.toEntered.of_subset fun _ _ => get?_of_get?_deleteKey, ?_, h.totalBytes_sub hget, ?_,
      fun tenant hne => ?_⟩
    · exact (get?_deleteKey).trans (if_pos rfl)
    · change ((c.tenantBytes.set (tenantOf key) _).get? (tenantOf key)).getD 0 =
        (c.entries.deleteKey key).total (tenantShare (tenantOf key))
      rw [total_deleteKey_tenantShare hget, if_pos hown.symm, get?_set, if_pos rfl]
      rfl
    · change (c.tenantBytes.set (tenantOf key) _).get? tenant =
        keptCount ((c.entries.deleteKey key).total (tenantShare tenant))
      rw [total_deleteKey_tenantShare hget, if_neg (hown ▸ hne), get?_set, if_neg hne, h.tenants]
      rfl

lemma Opened.insertEntry (h : Opened tenantOf key c)
    (hpositive : 0 < e.payloadBytes) (htenant : e.tenantKey = tenantOf key) (hnamed : e.tenantKey ≠ "") :
    Accounted tenantOf (c.insertEntry key e) := by
  have hentry : ∀ key' e', (c.entries.set key e).get? key' = some e' →
      (key' = key ∧ e' = e) ∨ c.entries.get? key' = some e' := by
    intro key' e' hget
    rw [get?_set] at hget
    split at hget
    · next heq => exact .inl ⟨heq, (some.inj hget).symm⟩
    · exact .inr hget
  have hshare := fun tenant => total_set (f := tenantShare tenant) h.absent e
  refine ⟨⟨fun key' e' hget => ?_, fun key' e' hget => ?_, fun key' e' hget => ?_⟩, ?_, fun tenant => ?_⟩
  · rcases hentry key' e' hget with ⟨-, rfl⟩ | hget
    · exact hpositive
    · exact h.positive key' e' hget
  · rcases hentry key' e' hget with ⟨rfl, rfl⟩ | hget
    · exact htenant
    · exact h.tenant key' e' hget
  · rcases hentry key' e' hget with ⟨-, rfl⟩ | hget
    · exact hnamed
    · exact h.named key' e' hget
  · have htotal := total_set (f := fun _ e => e.payloadBytes) h.absent e
    exact (congrArg (· + e.payloadBytes) h.total).trans htotal.symm
  · change (c.tenantBytes.set e.tenantKey _).get? tenant = keptCount ((c.entries.set key e).total _)
    rw [hshare, get?_set, htenant]
    split
    · next heq =>
      have hsum : tenantShare tenant key e = e.payloadBytes := if_pos (htenant.trans heq.symm)
      have hpos : c.entries.total (tenantShare tenant) + e.payloadBytes ≠ 0 := by omega
      rw [hsum, keptCount, if_neg hpos, h.own, heq, liveBytesOf]
    · next hne =>
      have hnone : tenantShare tenant key e = 0 := if_neg fun heq => hne (heq.symm.trans htenant)
      rw [hnone, Nat.add_zero, h.others tenant hne, liveBytesOf]

/-- The tenant of a `set` is the one its key determines. -/
def AdaptiveLocalCache.SetCall.KeyDeterminesTenant (tenantOf : String → String) (call : SetCall) : Prop :=
  call.tenantKey = tenantOf call.key ∧ call.tenantKey ≠ ""

lemma Accounted.store (hcall : call.KeyDeterminesTenant tenantOf)
    (h : Accounted tenantOf c) : Accounted tenantOf (c.store repr call) := by
  have hversioned : Accounted tenantOf { c with entryVersion := c.entryVersion + 1 } := h.congr rfl rfl rfl
  have hinserted := (hversioned.dropExisting call.key).insertEntry
    (e := call.entry repr (c.entryVersion + 1)) (payloadBytes_pos repr call.payload) hcall.1 hcall.2
  exact (hinserted.evictUnderPressure call.highBytes call.tenantKey).compactExpiryHeapIfNeeded

/-! ### Whole calls -/

lemma Accounted.trackAdmission (h : Accounted tenantOf c) (now : ℚ) (key : String) :
    Accounted tenantOf (c.trackAdmission now key).1 := by
  have hswept : Accounted tenantOf (c.sweepAdmissionCounts now) := by
    unfold sweepAdmissionCounts
    split
    · exact h
    · exact h.congr rfl rfl rfl
  exact hswept.congr rfl rfl rfl

lemma Accounted.admitted {d : AdaptiveLocalCache} (h : Accounted tenantOf c)
    (hd : Admitted call c d) : Accounted tenantOf d := by
  rcases hd with rfl | rfl
  · exact h.expire call.nowMs
  · exact (h.expire call.nowMs).trackAdmission call.monotonic call.key

lemma Accounted.set (hcall : call.KeyDeterminesTenant tenantOf)
    (h : Accounted tenantOf c) : Accounted tenantOf (c.set repr call).1 := by
  rcases set_cases repr call c with hset | ⟨d, hd, hset | hset⟩
  · rw [hset]
    exact h
  · rw [hset]
    exact h.admitted hd
  · rw [hset]
    exact (h.admitted hd).store repr hcall

lemma Accounted.moveToEnd (h : Accounted tenantOf c) (hget : c.entries.get? key = some e) :
    Accounted tenantOf { c with entries := (c.entries.deleteKey key).set key e } := by
  have habsent : (c.entries.deleteKey key).get? key = none := (get?_deleteKey).trans (if_pos rfl)
  have hsame : ∀ key' e', ((c.entries.deleteKey key).set key e).get? key' = some e' →
      c.entries.get? key' = some e' := by
    intro key' e' h'
    rw [get?_set] at h'
    split at h'
    · next heq => rw [heq, hget, h']
    · exact get?_of_get?_deleteKey h'
  have htotal : ∀ f : String → CacheEntryEnvelope → ℕ,
      ((c.entries.deleteKey key).set key e).total f = c.entries.total f := by
    intro f
    rw [total_set habsent, total_deleteKey hget]
  refine ⟨h.toEntered.of_subset hsame, ?_, fun tenant => ?_⟩
  · rw [liveBytes, htotal]
    exact h.total
  · rw [liveBytesOf, htotal]
    exact h.tenants tenant

lemma Accounted.get (h : Accounted tenantOf c) (key : String) (nowMs : ℤ) :
    Accounted tenantOf (c.get key nowMs).1 := by
  unfold AdaptiveLocalCache.get
  dsimp only
  split
  · exact h.expire nowMs
  · next e hget => exact (h.expire nowMs).moveToEnd hget

/-- A call of a method, or the removal of one entry: the class has no method for it, but `_evict_key` is what removes
one. -/
inductive CacheOperation where
  | method (call : CacheCall)
  | delete (key : String)

def CacheOperation.apply (repr : FloatRepr) : CacheOperation → AdaptiveLocalCache → AdaptiveLocalCache
  | .method call, c => call.apply repr c
  | .delete key, c => c.evictKey key

def cacheAfter (repr : FloatRepr) (maxBytes : ℕ) (operations : List CacheOperation) : AdaptiveLocalCache :=
  operations.foldl (fun c operation => operation.apply repr c) (init maxBytes)

/-- Every `set` is for the tenant its key determines. -/
def CacheOperation.KeyDeterminesTenant (tenantOf : String → String) : CacheOperation → Prop
  | .method (.set call) => call.KeyDeterminesTenant tenantOf
  | _ => True

lemma Accounted.apply {operation : CacheOperation}
    (hkey : operation.KeyDeterminesTenant tenantOf) (h : Accounted tenantOf c) :
    Accounted tenantOf (operation.apply repr c) := by
  match operation with
  | .method (.get key nowMs) => exact h.get key nowMs
  | .method (.set call) => exact h.set repr hkey
  | .method .clear => exact accounted_init tenantOf c.maxBytes
  | .delete key => exact h.evictKey key

lemma accounted_cacheAfter (maxBytes : ℕ) {operations : List CacheOperation}
    (hkeys : ∀ operation ∈ operations, operation.KeyDeterminesTenant tenantOf) :
    Accounted tenantOf (cacheAfter repr maxBytes operations) :=
  List.foldlRecOn operations (motive := Accounted tenantOf) _ (accounted_init tenantOf maxBytes)
    fun _ hc operation hmem => hc.apply repr (hkeys operation hmem)

lemma Accounted.tenants_iff (h : Accounted tenantOf c) {tenant : String} {n : ℕ} :
    c.tenantBytes.get? tenant = some n ↔
      (∃ key e, c.entries.get? key = some e ∧ e.tenantKey = tenant) ∧ n = c.liveBytesOf tenant := by
  have hlive : 0 < c.liveBytesOf tenant ↔ ∃ key e, c.entries.get? key = some e ∧ e.tenantKey = tenant := by
    rw [liveBytesOf, total_pos_iff]
    constructor
    · rintro ⟨key, e, hget, hshare⟩
      refine ⟨key, e, hget, ?_⟩
      by_contra hne
      rw [tenantShare, if_neg hne] at hshare
      omega
    · rintro ⟨key, e, hget, heq⟩
      exact ⟨key, e, hget, by rw [tenantShare, if_pos heq]; exact h.positive key e hget⟩
  rw [h.tenants, ← hlive, keptCount]
  split
  · next hzero => simp [hzero]
  · next hne =>
    rw [Option.some.injEq, eq_comm]
    exact ⟨fun heq => ⟨by omega, heq⟩, And.right⟩

lemma totalBytes_le_of_set {repr : FloatRepr} (haccepted : (c.set repr call).2 = true) :
    (c.set repr call).1.totalBytes ≤ call.highBytes ∨ (c.set repr call).1.entries.entries = [] := by
  obtain ⟨d, hd⟩ : ∃ d : AdaptiveLocalCache, (c.set repr call).1 = d.store repr call := by
    rcases set_cases repr call c with hset | ⟨d, _, hset | hset⟩
    · rw [hset] at haccepted
      cases haccepted
    · rw [hset] at haccepted
      cases haccepted
    · exact ⟨d, by rw [hset]⟩
  have hcompact : ∀ d : AdaptiveLocalCache, d.compactExpiryHeapIfNeeded.totalBytes = d.totalBytes ∧
      d.compactExpiryHeapIfNeeded.entries = d.entries := by
    intro d
    unfold AdaptiveLocalCache.compactExpiryHeapIfNeeded
    split <;> exact ⟨rfl, rfl⟩
  rw [hd, AdaptiveLocalCache.store]
  rw [(hcompact _).1, (hcompact _).2]
  have hends := evictUnderPressure_ends
    ((({ d with entryVersion := d.entryVersion + 1 } : AdaptiveLocalCache).dropExisting call.key).insertEntry
      call.key (call.entry repr (d.entryVersion + 1))) call.highBytes call.tenantKey
  rw [underPressure, Bool.and_eq_false_iff, decide_eq_false_iff_not, not_lt] at hends
  exact hends.imp id fun hempty => by simpa using hempty

/-- After any sequence of operations the byte counts are those of the live entries, a tenant is counted exactly
while it has one, a `set` that is accepted leaves the cache below the high watermark or empty, and the loop that
evicts entries ends. -/
theorem bytes_accounted (repr : FloatRepr) (maxBytes : ℕ) (tenantOf : String → String)
    (operations : List CacheOperation)
    (hkeys : ∀ operation ∈ operations, operation.KeyDeterminesTenant tenantOf) :
    (cacheAfter repr maxBytes operations).totalBytes = (cacheAfter repr maxBytes operations).liveBytes ∧
    (∀ tenant n, (cacheAfter repr maxBytes operations).tenantBytes.get? tenant = some n ↔
      (∃ key e, (cacheAfter repr maxBytes operations).entries.get? key = some e ∧ e.tenantKey = tenant) ∧
        n = (cacheAfter repr maxBytes operations).liveBytesOf tenant) ∧
    (∀ call, ((cacheAfter repr maxBytes operations).set repr call).2 = true →
      ((cacheAfter repr maxBytes operations).set repr call).1.totalBytes ≤ call.highBytes ∨
        ((cacheAfter repr maxBytes operations).set repr call).1.entries.entries = []) ∧
    ∀ (c : AdaptiveLocalCache) (highBytes : ℕ) (preferredTenantKey : String),
      (c.evictRounds highBytes preferredTenantKey c.live).underPressure highBytes = false := by
  have haccounted := accounted_cacheAfter repr maxBytes hkeys
  refine ⟨haccounted.total, fun _ _ => haccounted.tenants_iff, fun _ => totalBytes_le_of_set, ?_⟩
  exact fun c highBytes preferredTenantKey => evictUnderPressure_ends c highBytes preferredTenantKey

def wholeFloats : FloatRepr where
  text q := toString q.num ++ ".0"
  text_ne_empty _ := append_ne_empty _ (toString_int_ne_empty _)

def sampleHash : String := String.ofList (List.replicate hashDigits 'a')

/-- The list of clients of an agency, as `SharedResponseCache.set` puts it into the local cache. -/
def sampleSet (agencyId : ℤ) (payload : Json) (nowMs : ℤ) : AdaptiveLocalCache.SetCall :=
  let key := fullKey .clientsList (some agencyId) none sampleHash
  { key := key.1, payload, tenantKey := key.2, ttlSeconds := 30, admitAfterHits := 2, maxEntryBytes := 4096,
    nowMs, monotonic := 0, lowBytes := 40000000, highBytes := 50000000 }

/-- Two agencies read their clients, one of them twice, an entry is deleted and another one read late. -/
def sampleOperations : List CacheOperation :=
  [.method (.set (sampleSet 1 (.arr []) 0)), .method (.set (sampleSet 2 (.arr []) 0)),
    .method (.set (sampleSet 1 (.arr [.scalar (.int 7)]) 1000)), .delete (sampleSet 2 (.arr []) 0).key,
    .method (.get (sampleSet 1 (.arr []) 0).key 2000)]

theorem bytes_accounted_sample : (cacheAfter wholeFloats 67108864 sampleOperations).totalBytes =
    (cacheAfter wholeFloats 67108864 sampleOperations).liveBytes := by
  have hset : ∀ agencyId payload nowMs, (sampleSet agencyId payload nowMs).KeyDeterminesTenant tenantOfKey :=
    fun agencyId _ _ => ⟨(tenantOfKey_fullKey .clientsList (some agencyId) none (by simp [sampleHash])).symm,
      fullKey_ne_empty .clientsList (some agencyId) none sampleHash⟩
  refine (bytes_accounted wholeFloats 67108864 tenantOfKey sampleOperations fun operation hmem => ?_).1
  simp only [sampleOperations, mem_cons, not_mem_nil, or_false] at hmem
  rcases hmem with rfl | rfl | rfl | rfl | rfl
  · exact hset _ _ _
  · exact hset _ _ _
  · exact hset _ _ _
  · trivial
  · trivial

end ImmoApp.Caching
