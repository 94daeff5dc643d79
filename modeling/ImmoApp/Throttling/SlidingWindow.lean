import ImmoApp.Foundation.Keyed

/-!
# Sliding windows

A window counts what it has let through in the last `window` units of time: the entries of a sorted set, scored with
their time.  An evaluation removes what is too old, and lets the next one through while there is room.

`WindowStore.Tracks`: at any later time the set holds as many young entries as there were accepted evaluations.  From
it, `RateBound.cons`: no half-open interval of the window's length has more accepted evaluations than the limit.
-/

namespace ImmoApp.Throttling

open List

structure SortedSet (μ : Type) where
  entries : Dict μ ℕ
  expireAt : ℕ

abbrev WindowStore (μ : Type) := Keyed String (SortedSet μ)

structure WindowResult where
  allowed : Bool
  count : ℕ
  oldest : Option ℕ

namespace WindowStore

variable {μ : Type}

/-- The entries of a key, none after it has expired. -/
def current (store : WindowStore μ) (key : String) (now : ℕ) : Dict μ ℕ :=
  match store.get? key with
  | none => []
  | some z => if z.expireAt ≤ now then [] else z.entries

/-- `ZREMRANGEBYSCORE key 0 (now - window)`: what is left. -/
def kept (store : WindowStore μ) (key : String) (now window : ℕ) : Dict μ ℕ :=
  (store.current key now).filter fun e => decide (now < e.2 + window)

def trim (store : WindowStore μ) (key : String) (now window : ℕ) : WindowStore μ :=
  if store.kept key now window = [] then store.delete fun k _ => k == key
  else store.update (fun k _ => k == key) fun _ z => { z with entries := store.kept key now window }

/-- One evaluation: `ZADD` and `PEXPIRE` while there is room. -/
def evalWindow [DecidableEq μ] (key : String) (now window limit : ℕ) (member : μ)
    (store : WindowStore μ) : WindowResult × WindowStore μ :=
  let entries := store.kept key now window
  if entries.length < limit then
    let added := Dict.set entries member now
    (⟨true, entries.length + 1, (added.map Prod.snd).min?⟩, store.set key ⟨added, now + window⟩)
  else (⟨false, entries.length, (entries.map Prod.snd).min?⟩, store.trim key now window)

/-! ### The accepted evaluations -/

def entriesOf (store : WindowStore μ) (key : String) : Dict μ ℕ :=
  ((store.get? key).map SortedSet.entries).getD []

/-- The store of a key keeps track of the times `accepted`, as far as they matter from `now` on. -/
structure Tracks (store : WindowStore μ) (key : String) (window : ℕ) (accepted : List ℕ) (now : ℕ)
    (used : List μ) : Prop where
  expiry : ∀ z, store.get? key = some z → ∀ e ∈ z.entries, e.2 + window ≤ z.expireAt
  members : ∀ e ∈ store.entriesOf key, e.1 ∈ used
  past : ∀ e ∈ store.entriesOf key, e.2 ≤ now
  /-- There are as many young entries as young accepted evaluations. -/
  count : ∀ t, now ≤ t → (store.entriesOf key).countP (fun e => decide (t < e.2 + window))
    = accepted.countP fun h => decide (t < h + window)

variable {store : WindowStore μ} {key key' : String} {now now' window limit : ℕ} {accepted : List ℕ}
  {used used' : List μ} {member : μ}

lemma tracks_empty (key : String) (window now : ℕ) (used : List μ) :
    Tracks (Keyed.empty : WindowStore μ) key window [] now used where
  expiry := by
    intro z hz
    cases hz
  members := by
    intro e he
    cases he
  past := by
    intro e he
    cases he
  count := fun _ _ => rfl

section

variable (h : store.Tracks key window accepted now used)
include h

lemma Tracks.mono (hnow : now ≤ now') (hused : used ⊆ used') : store.Tracks key window accepted now' used' where
  expiry := h.expiry
  members := fun e he => hused (h.members e he)
  past := fun e he => (h.past e he).trans hnow
  count := fun t ht => h.count t (hnow.trans ht)

lemma Tracks.of_get? {store' : WindowStore μ}
    (hget : store'.get? key = store.get? key) : store'.Tracks key window accepted now used := by
  have hentries : store'.entriesOf key = store.entriesOf key := by rw [entriesOf, entriesOf, hget]
  refine ⟨fun z hz => h.expiry z (hget ▸ hz), fun e he => ?_, fun e he => ?_, fun t ht => ?_⟩
  · exact h.members e (hentries ▸ he)
  · exact h.past e (hentries ▸ he)
  · rw [hentries]
    exact h.count t ht

lemma Tracks.kept_eq :
    store.kept key now window = (store.entriesOf key).filter fun e => decide (now < e.2 + window) := by
  rw [kept, current, entriesOf]
  cases hz : store.get? key with
  | none => rfl
  | some z =>
    dsimp only
    by_cases hexpired : z.expireAt ≤ now
    · rw [if_pos hexpired, filter_nil]
      refine (filter_eq_nil_iff.mpr fun e he => ?_).symm
      have hold := h.expiry z hz e he
      simp only [decide_eq_true_eq]
      omega
    · rw [if_neg hexpired]
      rfl

lemma Tracks.length_kept :
    (store.kept key now window).length = accepted.countP fun h => decide (now < h + window) := by
  rw [h.kept_eq, ← countP_eq_length_filter]
  exact h.count now le_rfl

lemma Tracks.countP_kept {t : ℕ} (ht : now ≤ t) :
    (store.kept key now window).countP (fun e => decide (t < e.2 + window))
      = accepted.countP fun h => decide (t < h + window) := by
  rw [h.kept_eq, countP_filter, ← h.count t ht]
  refine countP_congr fun e _ => ?_
  simp only [Bool.and_eq_true, decide_eq_true_eq]
  omega

end

lemma get?_trim : (store.trim key now window).get? key = if store.kept key now window = [] then none
      else (store.get? key).map fun z => { z with entries := store.kept key now window } := by
  rw [trim]
  split
  · rw [Keyed.get?_delete]
    cases store.get? key <;> simp
  · simp

variable [DecidableEq μ]

lemma set_of_unused {entries : Dict μ ℕ} (hmember : member ∉ entries.map Prod.fst) (score : ℕ) :
    Dict.set entries member score = entries ++ [(member, score)] := by
  have hnone : entries.get? member = none :=
    Dict.get?_eq_none_iff.mpr fun e he heq => hmember (heq ▸ mem_map_of_mem he)
  rw [Dict.set, hnone]
  rfl

lemma get?_evalWindow_of_ne (hkey : key' ≠ key) :
    (evalWindow key now window limit member store).2.get? key' = store.get? key' := by
  rw [evalWindow]
  split
  · rw [Keyed.get?_set, if_neg hkey]
  · rw [trim]
    split
    · rw [Keyed.get?_delete_of_false (fun v => by simpa using hkey)]
    · rw [Keyed.get?_update]
      cases store.get? key' <;> simp [hkey]

section

variable (h : store.Tracks key window accepted now used)
include h

lemma Tracks.allowed_iff : (evalWindow key now window limit member store).1.allowed = true ↔
      (accepted.countP fun h => decide (now < h + window)) < limit := by
  rw [← h.length_kept, evalWindow]
  split
  · next hroom => exact iff_of_true rfl hroom
  · next hfull => exact iff_of_false (by simp) hfull

lemma Tracks.evalWindow_allowed (hmember : member ∉ used)
    (hallowed : (evalWindow key now window limit member store).1.allowed = true) :
    (evalWindow key now window limit member store).2.Tracks key window (now :: accepted) now (member :: used) := by
  have hroom : (store.kept key now window).length < limit :=
    h.length_kept ▸ h.allowed_iff.mp hallowed
  have hsub : ∀ e ∈ store.kept key now window, e ∈ store.entriesOf key := by
    intro e he
    rw [h.kept_eq] at he
    exact mem_of_mem_filter he
  have hnew : member ∉ (store.kept key now window).map Prod.fst := by
    intro hmem
    obtain ⟨e, he, rfl⟩ := mem_map.mp hmem
    exact hmember (h.members e (hsub e he))
  have hget : (evalWindow key now window limit member store).2.get? key
      = some ⟨store.kept key now window ++ [(member, now)], now + window⟩ := by
    rw [evalWindow, if_pos hroom, set_of_unused hnew, Keyed.get?_set, if_pos rfl]
  have hentries : (evalWindow key now window limit member store).2.entriesOf key
      = store.kept key now window ++ [(member, now)] := by
    rw [entriesOf, hget]
    rfl
  have hpast : ∀ e ∈ store.kept key now window ++ [(member, now)], e.2 ≤ now := by
    intro e he
    rcases mem_append.mp he with he | he
    · exact h.past e (hsub e he)
    · rw [mem_singleton.mp he]
  refine ⟨fun z hz e he => ?_, fun e he => ?_, fun e he => hpast e (hentries ▸ he), fun t ht => ?_⟩
  · obtain rfl := Option.some.inj (hget.symm.trans hz)
    exact Nat.add_le_add_right (hpast e he) window
  · rw [hentries] at he
    rcases mem_append.mp he with he | he
    · exact mem_cons_of_mem member (h.members e (hsub e he))
    · rw [mem_singleton.mp he]
      exact mem_cons_self
  · rw [hentries, countP_append, h.countP_kept ht, countP_cons, countP_cons,
      countP_nil, zero_add]

lemma Tracks.evalWindow_refused (hrefused : (evalWindow key now window limit member store).1.allowed = false) :
    (evalWindow key now window limit member store).2.Tracks key window accepted now used := by
  have hfull : ¬(store.kept key now window).length < limit := by
    rw [h.length_kept]
    intro hroom
    rw [h.allowed_iff.mpr hroom] at hrefused
    cases hrefused
  have hsub : ∀ e ∈ store.kept key now window, e ∈ store.entriesOf key := by
    intro e he
    rw [h.kept_eq] at he
    exact mem_of_mem_filter he
  have hget : (evalWindow key now window limit member store).2.get? key = if store.kept key now window = [] then none
        else (store.get? key).map fun z => { z with entries := store.kept key now window } := by
    rw [evalWindow, if_neg hfull]
    exact get?_trim
  have hentries : (evalWindow key now window limit member store).2.entriesOf key = store.kept key now window := by
    rw [entriesOf, hget]
    split
    · next hempty =>
      rw [hempty]
      rfl
    · next hsome =>
      cases hz : store.get? key with
      | none =>
        rw [kept, current, hz] at hsome
        exact absurd rfl hsome
      | some => rfl
  refine ⟨fun z hz e he => ?_, fun e he => ?_, fun e he => ?_, fun t ht => ?_⟩
  · rw [hget] at hz
    split at hz
    · cases hz
    · obtain ⟨z₀, hz₀, rfl⟩ := Option.map_eq_some_iff.mp hz
      have hold : e ∈ z₀.entries := by
        have hmem := hsub e he
        rwa [entriesOf, hz₀] at hmem
      exact h.expiry z₀ hz₀ e hold
  · exact h.members e (hsub e (hentries ▸ he))
  · exact h.past e (hsub e (hentries ▸ he))
  · rw [hentries]
    exact h.countP_kept ht

end

end WindowStore

/-- No half-open interval of the length `window` has more than `limit` of the times. -/
def RateBound (limit window : ℕ) (times : List ℕ) : Prop :=
  ∀ a, times.countP (fun t => decide (a ≤ t ∧ t < a + window)) ≤ limit

variable {limit window now : ℕ} {times times' : List ℕ}

lemma rateBound_nil (limit window : ℕ) : RateBound limit window [] := fun _ => Nat.zero_le limit

lemma RateBound.cons (h : RateBound limit window times)
    (hroom : (times.countP fun h => decide (now < h + window)) < limit) :
    RateBound limit window (now :: times) := by
  intro a
  rw [countP_cons]
  by_cases hin : a ≤ now ∧ now < a + window
  · -- whoever is in an interval with the new time is young
    have hyoung : times.countP (fun t => decide (a ≤ t ∧ t < a + window))
        ≤ times.countP fun h => decide (now < h + window) := by
      refine countP_mono_left fun t _ ht => ?_
      simp only [decide_eq_true_eq] at ht ⊢
      omega
    rw [if_pos (by simpa using hin)]
    omega
  · rw [if_neg (by simpa using hin)]
    exact h a

end ImmoApp.Throttling
