import ImmoApp.Caching.LocalCache

/-!
# Expiry in the local cache

The expiry heap keeps the triples of entries that were overwritten or evicted, and `_expire` tells them from those of
the live entries by their version.  `Timed` says that every live entry has its own triple in the heap, so that none
is missed, and `Bounded` that the triples of dead entries do not pile up.  Every method keeps both.
-/

namespace ImmoApp.Caching

open AdaptiveLocalCache Keyed

variable {c d : AdaptiveLocalCache}

/-- Every live entry has its own triple in the heap. -/
def Timed (c : AdaptiveLocalCache) : Prop :=
  ∀ key e, c.entries.get? key = some e → c.expiryHeap.Mem (e.triple key)

/-- The heap holds at most twice as many triples as there are live entries, or 1024 more. -/
def Bounded (c : AdaptiveLocalCache) : Prop := c.expiryHeap.size ≤ max (2 * c.live) (c.live + 1024)

def Within (d c : AdaptiveLocalCache) : Prop :=
  ∀ key e, d.entries.get? key = some e → c.entries.get? key = some e

lemma Within.refl (c : AdaptiveLocalCache) : Within c c := fun _ _ hget => hget

lemma Within.trans {b : AdaptiveLocalCache} (h : Within b d) (h' : Within d c) : Within b c :=
  fun key e hget => h' key e (h key e hget)

variable (repr : FloatRepr) (maxBytes : ℕ)

lemma timed_init : Timed (init maxBytes) := by rintro _ e ⟨⟩

lemma bounded_init : Bounded (init maxBytes) := Nat.zero_le _

lemma Timed.of_within (h : Timed c) (hwithin : Within d c) (hheap : d.expiryHeap = c.expiryHeap) : Timed d := by
  intro key e hget
  rw [hheap]
  exact h key e (hwithin key e hget)

/-! ### The parts of the methods -/

lemma get?_evictKey (key key' : String) (c : AdaptiveLocalCache) :
    (c.evictKey key).entries.get? key' = if key' = key then none else c.entries.get? key' := by
  unfold evictKey
  split
  · next hnone =>
    split
    · next heq => rw [heq, hnone]
    · rfl
  · exact get?_deleteKey

lemma within_evictKey (key : String) (c : AdaptiveLocalCache) : Within (c.evictKey key) c := by
  intro key' e hget
  rw [get?_evictKey] at hget
  split at hget
  · cases hget
  · exact hget

@[simp] lemma expiryHeap_evictKey (key : String) (c : AdaptiveLocalCache) :
    (c.evictKey key).expiryHeap = c.expiryHeap := by
  unfold evictKey
  split <;> rfl

lemma within_expireTriple (t : ExpiryTriple) (c : AdaptiveLocalCache) : Within (expireTriple t c) c := by
  unfold expireTriple
  split
  · exact Within.refl c
  · split_ifs
    · exact Within.refl c
    · exact Within.refl c
    · exact within_evictKey t.key c

variable {key : String} {e : CacheEntryEnvelope} {t : ExpiryTriple} {nowMs : ℤ} {call : SetCall}

lemma not_live_of_expireTriple : (expireTriple (e.triple key) c).entries.get? key ≠ some e := by
  intro hget
  have hlive := within_expireTriple _ c key e hget
  rw [expireTriple, key_triple, hlive] at hget
  simp [get?_evictKey] at hget

lemma timed_of_expireTriple {rest : List ExpiryTriple}
    (h : ∀ key e, c.entries.get? key = some e → e.triple key ∈ t :: rest) :
    ∀ key e, (expireTriple t c).entries.get? key = some e → e.triple key ∈ rest := by
  intro key e hget
  rcases List.mem_cons.mp (h key e (within_expireTriple t c key e hget)) with rfl | hrest
  · exact absurd hget not_live_of_expireTriple
  · exact hrest

lemma within_compactExpiryHeapIfNeeded (c : AdaptiveLocalCache) : Within c.compactExpiryHeapIfNeeded c := by
  unfold compactExpiryHeapIfNeeded
  split <;> exact Within.refl c

lemma Timed.compactExpiryHeapIfNeeded (h : Timed c) : Timed c.compactExpiryHeapIfNeeded := by
  unfold AdaptiveLocalCache.compactExpiryHeapIfNeeded
  split
  · exact h
  · intro key e hget
    exact Heap.mem_ofList.mpr (List.mem_map.mpr ⟨(key, e), mem_entries_iff.mpr hget, rfl⟩)

lemma bounded_compactExpiryHeapIfNeeded (c : AdaptiveLocalCache) : Bounded c.compactExpiryHeapIfNeeded := by
  unfold Bounded AdaptiveLocalCache.compactExpiryHeapIfNeeded
  split
  · next hsize => rwa [Nat.mul_comm]
  · have hlength : (Heap.ofList c.liveTriples).size = c.live := by
      rw [Heap.size_ofList, liveTriples, List.length_map, live]
    change (Heap.ofList c.liveTriples).size ≤ max (2 * c.live) (c.live + 1024)
    omega

/-- The cache after the loop of `_expire`. -/
def afterLoop (nowMs : ℤ) (c : AdaptiveLocalCache) : AdaptiveLocalCache :=
  let popped := c.expiryHeap.popWhile (fun t => t.expiresAt ≤ nowMs) expireTriple c
  { popped.2 with expiryHeap := popped.1 }

lemma within_afterLoop (nowMs : ℤ) (c : AdaptiveLocalCache) : Within (afterLoop nowMs c) c :=
  Heap.popWhile_invariant (h := c.expiryHeap) (P := fun _ d => Within d c)
    (fun t _ d _ hd => (within_expireTriple t d).trans hd) (Within.refl c)

lemma Timed.afterLoop (h : Timed c) (nowMs : ℤ) : Timed (afterLoop nowMs c) :=
  Heap.popWhile_invariant (h := c.expiryHeap)
    (P := fun items (d : AdaptiveLocalCache) => ∀ (key : String) (e : CacheEntryEnvelope),
      d.entries.get? key = some e → e.triple key ∈ items)
    (fun _ _ _ _ hd => timed_of_expireTriple hd) h

lemma lt_expiresAt_of_mem_afterLoop (ht : (afterLoop nowMs c).expiryHeap.Mem t) : nowMs < t.expiresAt := by
  have hleft := Heap.popWhile_left (p := fun t : ExpiryTriple => decide (t.expiresAt ≤ nowMs)) (fun a b hle hb => by
      have hmono := ExpiryTriple.expiresAt_mono hle
      exact decide_eq_true (hmono.trans (of_decide_eq_true hb))) ht
  exact not_le.mp (of_decide_eq_false hleft)

lemma within_expire (nowMs : ℤ) (c : AdaptiveLocalCache) : Within (c.expire nowMs) c :=
  (within_compactExpiryHeapIfNeeded _).trans (within_afterLoop nowMs c)

lemma Timed.expire (h : Timed c) (nowMs : ℤ) : Timed (c.expire nowMs) :=
  (h.afterLoop nowMs).compactExpiryHeapIfNeeded

lemma bounded_expire (nowMs : ℤ) (c : AdaptiveLocalCache) : Bounded (c.expire nowMs) :=
  bounded_compactExpiryHeapIfNeeded (afterLoop nowMs c)

lemma Timed.lt_expiresAt (h : Timed c)
    (hget : (c.expire nowMs).entries.get? key = some e) : nowMs < e.expiresAtEpochMs := by
  have hlive := within_compactExpiryHeapIfNeeded _ key e hget
  exact lt_expiresAt_of_mem_afterLoop (h.afterLoop nowMs key e hlive)

/-! ### The methods -/

lemma Timed.get_result (h : Timed c) {payload : Json} (hget : (c.get key nowMs).2 = some payload) :
    ∃ e, c.entries.get? key = some e ∧ e.payload = payload ∧ nowMs < e.expiresAtEpochMs := by
  unfold AdaptiveLocalCache.get at hget
  dsimp only at hget
  split at hget
  · cases hget
  · next e hlive =>
    refine ⟨e, within_expire nowMs c key e hlive, ?_, h.lt_expiresAt hlive⟩
    dsimp only at hget
    split at hget
    · cases hget
    · exact Option.some.inj hget

lemma get?_moveToEnd {t : Keyed String CacheEntryEnvelope}
    (hget : t.get? key = some e) (key' : String) : ((t.deleteKey key).set key e).get? key' = t.get? key' := by
  rw [get?_set, get?_deleteKey]
  split
  · next heq => rw [heq, hget]
  · rfl

lemma Timed.get (h : Timed c) (key : String) (nowMs : ℤ) : Timed (c.get key nowMs).1 := by
  unfold AdaptiveLocalCache.get
  dsimp only
  split
  · exact h.expire nowMs
  · next e hget =>
    refine (h.expire nowMs).of_within (fun key' e' hget' => ?_) rfl
    rwa [← get?_moveToEnd hget]

lemma bounded_get (key : String) (nowMs : ℤ) (c : AdaptiveLocalCache) : Bounded (c.get key nowMs).1 := by
  unfold AdaptiveLocalCache.get
  dsimp only
  split
  · exact bounded_expire nowMs c
  · next e hget =>
    have hlive : ((c.expire nowMs).entries.deleteKey key |>.set key e).entries.length = (c.expire nowMs).live := by
      have habsent : ((c.expire nowMs).entries.deleteKey key).get? key = none :=
        (get?_deleteKey).trans (if_pos rfl)
      rw [length_set habsent, length_deleteKey hget, live]
    have hbounded := bounded_expire nowMs c
    unfold Bounded at hbounded ⊢
    rw [← hlive] at hbounded
    exact hbounded

lemma Timed.admitted (h : Timed c) (hd : Admitted call c d) : Timed d := by
  rcases hd with rfl | rfl
  · exact h.expire call.nowMs
  · refine (h.expire call.nowMs).of_within ?_ ?_
    · unfold trackAdmission sweepAdmissionCounts
      split <;> exact Within.refl _
    · unfold trackAdmission sweepAdmissionCounts
      split <;> rfl

lemma bounded_admitted (hd : Admitted call c d) : Bounded d := by
  rcases hd with rfl | rfl
  · exact bounded_expire call.nowMs c
  · have hbounded := bounded_expire call.nowMs c
    unfold trackAdmission sweepAdmissionCounts
    split <;> exact hbounded

lemma within_dropExisting (key : String) (c : AdaptiveLocalCache) : Within (c.dropExisting key) c := by
  unfold dropExisting
  split
  · exact Within.refl c
  · intro key' e hget
    have hdelete := hget
    rw [get?_deleteKey] at hdelete
    split at hdelete
    · cases hdelete
    · exact hdelete

lemma Timed.dropExisting (h : Timed c) (key : String) : Timed (c.dropExisting key) := by
  refine h.of_within (within_dropExisting key c) ?_
  unfold AdaptiveLocalCache.dropExisting
  split <;> rfl

lemma Timed.insertEntry (h : Timed c) (key : String) (e : CacheEntryEnvelope) : Timed (c.insertEntry key e) := by
  intro key' e' hget
  change (c.entries.set key e).get? key' = some e' at hget
  rw [get?_set] at hget
  split at hget
  · next heq =>
    obtain ⟨⟩ := hget
    exact Heap.mem_push.mpr (.inl (by rw [heq]))
  · exact Heap.mem_push.mpr (.inr (h key' e' hget))

lemma Timed.evictUnderPressure (h : Timed c) (highBytes : ℕ) (preferredTenantKey : String) :
    Timed (c.evictUnderPressure highBytes preferredTenantKey) := by
  refine whileFor_invariant (P := Timed) (fun c _ hc => ?_) c.live h
  unfold evictCandidate
  split
  · exact hc
  · next key _ => exact hc.of_within (within_evictKey key c) (expiryHeap_evictKey key c)

lemma Timed.store (call : SetCall) (h : Timed c) : Timed (c.store repr call) := by
  have hversioned : Timed { c with entryVersion := c.entryVersion + 1 } := h
  have hinserted := (hversioned.dropExisting call.key).insertEntry call.key (call.entry repr (c.entryVersion + 1))
  exact (hinserted.evictUnderPressure call.highBytes call.tenantKey).compactExpiryHeapIfNeeded

lemma bounded_store (call : SetCall) (c : AdaptiveLocalCache) : Bounded (c.store repr call) :=
  bounded_compactExpiryHeapIfNeeded _

lemma timed_and_bounded_apply (call : CacheCall) (h : Timed c ∧ Bounded c) :
    Timed (call.apply repr c) ∧ Bounded (call.apply repr c) := by
  cases call with
  | get key nowMs => exact ⟨h.1.get key nowMs, bounded_get key nowMs c⟩
  | clear => exact ⟨timed_init c.maxBytes, bounded_init c.maxBytes⟩
  | set call =>
    change Timed (c.set repr call).1 ∧ Bounded (c.set repr call).1
    rcases set_cases repr call c with hset | ⟨d, hd, hset | hset⟩
    · rw [hset]
      exact h
    · rw [hset]
      exact ⟨h.1.admitted hd, bounded_admitted hd⟩
    · rw [hset]
      exact ⟨(h.1.admitted hd).store repr call, bounded_store repr call d⟩

lemma timed_and_bounded_afterCalls (calls : List CacheCall) :
    Timed (afterCalls repr maxBytes calls) ∧ Bounded (afterCalls repr maxBytes calls) :=
  List.foldlRecOn calls (motive := fun c => Timed c ∧ Bounded c) _
    ⟨timed_init maxBytes, bounded_init maxBytes⟩ fun _ hc call _ => timed_and_bounded_apply repr call hc

/-- After any sequence of calls `get` returns no entry that has expired, every live entry has its own triple in the
expiry heap, and the heap holds at most twice as many triples as there are live entries, or 1024 more. -/
theorem expiry_sound (repr : FloatRepr) (maxBytes : ℕ) (calls : List CacheCall) :
    (∀ key nowMs payload, ((afterCalls repr maxBytes calls).get key nowMs).2 = some payload →
      ∃ e, (afterCalls repr maxBytes calls).entries.get? key = some e ∧ e.payload = payload ∧
        nowMs < e.expiresAtEpochMs) ∧
    (∀ key e, (afterCalls repr maxBytes calls).entries.get? key = some e →
      (afterCalls repr maxBytes calls).expiryHeap.Mem (expiryTriple e.expiresAtEpochMs e.version key)) ∧
    (afterCalls repr maxBytes calls).expiryHeap.size ≤
      max (2 * (afterCalls repr maxBytes calls).live) ((afterCalls repr maxBytes calls).live + 1024) := by
  obtain ⟨htimed, hbounded⟩ := timed_and_bounded_afterCalls repr maxBytes calls
  exact ⟨fun _ _ _ hget => htimed.get_result hget, htimed, hbounded⟩

end ImmoApp.Caching
