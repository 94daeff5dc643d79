import ImmoApp.Foundation.Heaps
import ImmoApp.Foundation.JsonText
import ImmoApp.Foundation.Loops
import ImmoApp.Foundation.Totals
import Mathlib.Data.Prod.Lex
import Mathlib.Data.String.Basic

/-!
# The local response cache

`AdaptiveLocalCache` of `cache_layers.py`, which each server process keeps in front of the shared cache.  Entries stand
in the order of their last use, their expiry times in a heap that may hold triples of entries that are gone, and byte
counts are kept for the whole cache and for each tenant.

The clocks and the watermarks `int(max_bytes * ratio)` are arguments; the monotonic clock, a float of seconds, is a
rational number.  Metrics are left out.
-/

namespace ImmoApp.Caching

/-- How a float is written: `float.__repr__` never gives an empty text. -/
structure FloatRepr where
  text : ℚ → String
  text_ne_empty : ∀ q, text q ≠ ""

/-- The bytes of a character in a text written with `ensure_ascii`: one, or those of an escape `\uXXXX` or of two. -/
def asciiBytes (c : Char) : ℕ := if c.toNat < 0x80 then 1 else if c.toNat < 0x10000 then 6 else 12

/-- `_payload_bytes`: the size of the compact text with sorted keys. -/
def payloadBytes (repr : FloatRepr) (payload : Json) : ℕ :=
  ((Json.dumps repr.text .compact payload.sortKeys).toList.map asciiBytes).sum

/-! ### The state -/

structure CacheEntryEnvelope where
  version : ℕ
  expiresAtEpochMs : ℤ
  payload : Json
  payloadBytes : ℕ
  tenantKey : String

/-- `entry.get("tenant_key") or "global"`. -/
def CacheEntryEnvelope.tenant (e : CacheEntryEnvelope) : String :=
  if e.tenantKey = "" then "global" else e.tenantKey

abbrev ExpiryTriple : Type := ℤ ×ₗ ℕ ×ₗ String

/-- `(expires_at, version, key)`. -/
def expiryTriple (expiresAt : ℤ) (version : ℕ) (key : String) : ExpiryTriple :=
  toLex (expiresAt, toLex (version, key))

namespace ExpiryTriple

def expiresAt (t : ExpiryTriple) : ℤ := (ofLex t).1

def version (t : ExpiryTriple) : ℕ := (ofLex (ofLex t).2).1

def key (t : ExpiryTriple) : String := (ofLex (ofLex t).2).2

lemma expiresAt_mono {t t' : ExpiryTriple} (h : t ≤ t') : t.expiresAt ≤ t'.expiresAt := by
  rcases Prod.Lex.le_iff.mp h with hlt | ⟨heq, _⟩
  · exact hlt.le
  · exact heq.le

end ExpiryTriple

def CacheEntryEnvelope.triple (key : String) (e : CacheEntryEnvelope) : ExpiryTriple :=
  expiryTriple e.expiresAtEpochMs e.version key

@[simp] lemma expiresAt_triple (key : String) (e : CacheEntryEnvelope) :
    (e.triple key).expiresAt = e.expiresAtEpochMs := rfl
@[simp] lemma version_triple (key : String) (e : CacheEntryEnvelope) : (e.triple key).version = e.version := rfl
@[simp] lemma key_triple (key : String) (e : CacheEntryEnvelope) : (e.triple key).key = key := rfl

structure AdaptiveLocalCache where
  entries : Keyed String CacheEntryEnvelope
  expiryHeap : Heap ExpiryTriple
  tenantBytes : Keyed String ℕ
  /-- `_admission_counts`: until when a key is remembered, and how often it was seen. -/
  admissionCounts : Keyed String (ℚ × ℕ)
  maxBytes : ℕ
  totalBytes : ℕ
  entryVersion : ℕ
  lastAdmissionSweep : ℚ

namespace AdaptiveLocalCache

/-- `__init__`, with the memory budget. -/
def init (maxBytes : ℕ) : AdaptiveLocalCache where
  entries := .empty
  expiryHeap := .empty
  tenantBytes := .empty
  admissionCounts := .empty
  maxBytes
  totalBytes := 0
  entryVersion := 0
  lastAdmissionSweep := 0

def live (c : AdaptiveLocalCache) : ℕ := c.entries.entries.length

def softShare (c : AdaptiveLocalCache) : ℕ :=
  let activeTenants := max 1 c.tenantBytes.entries.length
  max (1 * 1024 * 1024) (c.maxBytes / max 8 activeTenants)

/-- The bytes counted for a tenant, `0` without a count. -/
def bytesOf (c : AdaptiveLocalCache) (tenant : String) : ℕ := (c.tenantBytes.get? tenant).getD 0

def evictKey (key : String) (c : AdaptiveLocalCache) : AdaptiveLocalCache :=
  match c.entries.get? key with
  | none => c
  | some entry =>
    let left := c.bytesOf entry.tenant - entry.payloadBytes
    let tenantBytes := c.tenantBytes.set entry.tenant left
    { c with
      entries := c.entries.deleteKey key
      tenantBytes := if left ≤ 0 then tenantBytes.deleteKey entry.tenant else tenantBytes
      totalBytes := c.totalBytes - entry.payloadBytes }

/-- What `_expire` does with a triple taken from the heap: evict the entry it belongs to, if that is the current
one. -/
def expireTriple (t : ExpiryTriple) (c : AdaptiveLocalCache) : AdaptiveLocalCache :=
  match c.entries.get? t.key with
  | none => c
  | some entry =>
    if entry.version ≠ t.version then c
    else if entry.expiresAtEpochMs ≠ t.expiresAt then c
    else c.evictKey t.key

def liveTriples (c : AdaptiveLocalCache) : List ExpiryTriple := c.entries.entries.map fun e => e.2.triple e.1

def compactExpiryHeapIfNeeded (c : AdaptiveLocalCache) : AdaptiveLocalCache :=
  if c.expiryHeap.size ≤ max (c.live * 2) (c.live + 1024) then c
  else { c with expiryHeap := .ofList c.liveTriples }

def expire (nowMs : ℤ) (c : AdaptiveLocalCache) : AdaptiveLocalCache :=
  let popped := c.expiryHeap.popWhile (fun t => t.expiresAt ≤ nowMs) expireTriple c
  compactExpiryHeapIfNeeded { popped.2 with expiryHeap := popped.1 }

def sweepAdmissionCounts (now : ℚ) (c : AdaptiveLocalCache) : AdaptiveLocalCache :=
  if now - c.lastAdmissionSweep < 5 ∧ c.admissionCounts.entries.length < 1024 then c
  else
    { c with
      lastAdmissionSweep := now
      admissionCounts := c.admissionCounts.delete fun _ seen => seen.1 ≤ now }

/-- `_track_admission`: the cache, and how often the key was seen. -/
def trackAdmission (now : ℚ) (key : String) (c : AdaptiveLocalCache) : AdaptiveLocalCache × ℕ :=
  let c := c.sweepAdmissionCounts now
  let seen := (c.admissionCounts.get? key).getD (0, 0)
  let count := (if seen.1 ≤ now then 0 else seen.2) + 1
  ({ c with admissionCounts := c.admissionCounts.set key (now + 60, count) }, count)

def firstKey (p : CacheEntryEnvelope → Bool) (c : AdaptiveLocalCache) : Option String :=
  (c.entries.entries.find? fun e => p e.2).map Prod.fst

/-- The entry that `_evict_under_pressure` gives up next: the oldest one of the preferred tenant where that uses
more than its share, else the oldest one of any tenant that does, else the oldest one. -/
def candidateKey (preferredTenantKey : String) (c : AdaptiveLocalCache) : Option String :=
  let preferred :=
    if preferredTenantKey ≠ "" ∧ c.softShare < c.bytesOf preferredTenantKey then
      c.firstKey fun e => e.tenantKey == preferredTenantKey
    else none
  (preferred.or (c.firstKey fun e => c.softShare < c.bytesOf e.tenant)).or (c.firstKey fun _ => true)

/-- The condition of the loop of `_evict_under_pressure`. -/
def underPressure (highBytes : ℕ) (c : AdaptiveLocalCache) : Bool :=
  highBytes < c.totalBytes && !c.entries.entries.isEmpty

def evictCandidate (preferredTenantKey : String) (c : AdaptiveLocalCache) : AdaptiveLocalCache :=
  match c.candidateKey preferredTenantKey with
  | none => c
  | some key => c.evictKey key

/-- The loop of `_evict_under_pressure`, for at most so many rounds. -/
def evictRounds (highBytes : ℕ) (preferredTenantKey : String) (rounds : ℕ) (c : AdaptiveLocalCache) :
    AdaptiveLocalCache :=
  whileFor (underPressure highBytes) (evictCandidate preferredTenantKey) rounds c

/-- `_evict_under_pressure`; the loop ends within one round for each entry. -/
def evictUnderPressure (highBytes : ℕ) (preferredTenantKey : String) (c : AdaptiveLocalCache) :
    AdaptiveLocalCache :=
  c.evictRounds highBytes preferredTenantKey c.live

/-! ### The operations -/

/-- `get`: the cache, and the payload that was found. -/
def get (key : String) (nowMs : ℤ) (c : AdaptiveLocalCache) : AdaptiveLocalCache × Option Json :=
  let c := c.expire nowMs
  match c.entries.get? key with
  | none => (c, none)
  | some entry =>
    ({ c with entries := (c.entries.deleteKey key).set key entry },
      if entry.payload = .scalar .null then none else some entry.payload)

/-- The arguments of `set`, and what it reads from the clocks and the environment. -/
structure SetCall where
  key : String
  payload : Json
  tenantKey : String
  ttlSeconds : ℤ
  /-- How often the key must have been asked for before it is kept in a full cache. -/
  admitAfterHits : ℤ
  maxEntryBytes : ℤ
  nowMs : ℤ
  monotonic : ℚ
  /-- From where on new keys have to be asked for repeatedly. -/
  lowBytes : ℕ
  highBytes : ℕ

/-- The entry a `set` writes. -/
def SetCall.entry (repr : FloatRepr) (call : SetCall) (version : ℕ) : CacheEntryEnvelope where
  version
  expiresAtEpochMs := call.nowMs + max 1 call.ttlSeconds * 1000
  payload := call.payload
  payloadBytes := Caching.payloadBytes repr call.payload
  tenantKey := call.tenantKey

/-- The part of `set` that takes the entry written before under the same key out of the cache. -/
def dropExisting (key : String) (c : AdaptiveLocalCache) : AdaptiveLocalCache :=
  match c.entries.get? key with
  | none => c
  | some existing =>
    { c with
      entries := c.entries.deleteKey key
      tenantBytes := c.tenantBytes.set existing.tenant (c.bytesOf existing.tenant - existing.payloadBytes)
      totalBytes := c.totalBytes - existing.payloadBytes }

/-- The part of `set` that puts the new entry into the cache. -/
def insertEntry (key : String) (entry : CacheEntryEnvelope) (c : AdaptiveLocalCache) : AdaptiveLocalCache :=
  { c with
    entries := c.entries.set key entry
    tenantBytes := c.tenantBytes.set entry.tenantKey (c.bytesOf entry.tenantKey + entry.payloadBytes)
    totalBytes := c.totalBytes + entry.payloadBytes
    expiryHeap := c.expiryHeap.push (entry.triple key) }

/-- The part of `set` after the admission. -/
def store (repr : FloatRepr) (call : SetCall) (c : AdaptiveLocalCache) : AdaptiveLocalCache :=
  let version := c.entryVersion + 1
  let c := { c with entryVersion := version }
  let c := (c.dropExisting call.key).insertEntry call.key (call.entry repr version)
  (c.evictUnderPressure call.highBytes call.tenantKey).compactExpiryHeapIfNeeded

/-- `set`: the cache, and whether the payload was accepted. -/
def set (repr : FloatRepr) (call : SetCall) (c : AdaptiveLocalCache) : AdaptiveLocalCache × Bool :=
  if call.maxEntryBytes < payloadBytes repr call.payload then (c, false)
  else
    let c := c.expire call.nowMs
    if call.lowBytes ≤ c.totalBytes then
      let tracked := c.trackAdmission call.monotonic call.key
      if (tracked.2 : ℤ) < max 1 call.admitAfterHits then (tracked.1, false)
      else (tracked.1.store repr call, true)
    else (c.store repr call, true)

/-- The cache as `set` finds it after the admission. -/
def Admitted (call : SetCall) (c d : AdaptiveLocalCache) : Prop :=
  d = c.expire call.nowMs ∨ d = ((c.expire call.nowMs).trackAdmission call.monotonic call.key).1

lemma set_cases (repr : FloatRepr) (call : SetCall) (c : AdaptiveLocalCache) :
    c.set repr call = (c, false) ∨ ∃ d, Admitted call c d ∧
      (c.set repr call = (d, false) ∨ c.set repr call = (d.store repr call, true)) := by
  by_cases hlarge : call.maxEntryBytes < payloadBytes repr call.payload
  · exact .inl (if_pos hlarge)
  · refine .inr ?_
    rw [AdaptiveLocalCache.set, if_neg hlarge]
    by_cases hlow : call.lowBytes ≤ (c.expire call.nowMs).totalBytes
    · refine ⟨_, .inr rfl, ?_⟩
      rw [if_pos hlow]
      by_cases hseen : (((c.expire call.nowMs).trackAdmission call.monotonic call.key).2 : ℤ) <
          max 1 call.admitAfterHits
      · exact .inl (if_pos hseen)
      · exact .inr (if_neg hseen)
    · exact ⟨_, .inl rfl, .inr (if_neg hlow)⟩

def clear (c : AdaptiveLocalCache) : AdaptiveLocalCache := init c.maxBytes

end AdaptiveLocalCache

inductive CacheCall where
  | get (key : String) (nowMs : ℤ)
  | set (call : AdaptiveLocalCache.SetCall)
  | clear

def CacheCall.apply (repr : FloatRepr) : CacheCall → AdaptiveLocalCache → AdaptiveLocalCache
  | .get key nowMs, c => (c.get key nowMs).1
  | .set call, c => (c.set repr call).1
  | .clear, c => c.clear

def afterCalls (repr : FloatRepr) (maxBytes : ℕ) (calls : List CacheCall) : AdaptiveLocalCache :=
  calls.foldl (fun c call => call.apply repr c) (AdaptiveLocalCache.init maxBytes)

end ImmoApp.Caching
