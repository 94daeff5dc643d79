import Mathlib.Data.List.Induction
import Mathlib.Data.List.Sort
import ImmoApp.Foundation.Dict

/-!
# Event-sourced sorted queues

A queue of items with distinct identities is kept twice: as a list sorted by `le`, and as a log of `upsert` and `remove`
events.  `replay` folds the events into a dictionary keyed by identity, an item that is not `live` erasing its entry,
and sorts the values.

A canonical list (sorted, distinct identities) is determined by its members.  The rules at the end say which events
match the three ways a queue is changed: inserting one item, dropping items, rewriting items in place.
-/

namespace ImmoApp

open List Dict

inductive LogEvent (α ι : Type*) where
  /-- The item is stored, or forgotten when it is not live. -/
  | upsert (a : α)
  | remove (i : ι)
  /-- An entry that does not decode; it is skipped. -/
  | unreadable
  deriving DecidableEq

namespace EventLog

section Canonical

variable {α ι : Type*} {ident : α → ι} {le : α → α → Prop}

/-- A sorted list of items with distinct identities. -/
structure Canonical (ident : α → ι) (le : α → α → Prop) (l : List α) : Prop where
  sorted : l.Pairwise le
  distinct : (l.map ident).Nodup

lemma Canonical.eq_of_ident {l : List α} (h : Canonical ident le l) {a b : α} (ha : a ∈ l)
    (hb : b ∈ l) (hab : ident a = ident b) : a = b :=
  inj_on_of_nodup_map h.distinct ha hb hab

theorem Canonical.ext (hanti : ∀ a b, le a b → le b a → ident a = ident b) {l l' : List α}
    (h : Canonical ident le l) (h' : Canonical ident le l') (hmem : ∀ a, a ∈ l ↔ a ∈ l') :
    l = l' := by
  have hperm : l.Perm l' :=
    (perm_ext_iff_of_nodup (Nodup.of_map _ h.distinct) (Nodup.of_map _ h'.distinct)).mpr hmem
  refine hperm.eq_of_pairwise ?_ h.sorted h'.sorted
  intro a b ha hb hab hba
  exact h.eq_of_ident ha ((hmem b).mpr hb) (hanti a b hab hba)

lemma Canonical.filter {l : List α} (h : Canonical ident le l) (p : α → Bool) : Canonical ident le (l.filter p) where
  sorted := h.sorted.sublist filter_sublist
  distinct := h.distinct.sublist (filter_sublist.map ident)

lemma Canonical.map {l : List α} (h : Canonical ident le l) {f : α → α}
    (hid : ∀ a, ident (f a) = ident a) (hle : ∀ a b, le a b → le (f a) (f b)) :
    Canonical ident le (l.map f) where
  sorted := pairwise_map.mpr (h.sorted.imp fun {a b} hab => hle a b hab)
  distinct := by
    have hids : (l.map f).map ident = l.map ident := by
      rw [map_map]
      exact map_congr_left fun a _ => hid a
    rw [hids]
    exact h.distinct

lemma canonical_insertionSort [DecidableRel le] [Std.Total le] [IsTrans α le] {l : List α}
    (h : (l.map ident).Nodup) : Canonical ident le (l.insertionSort le) where
  sorted := pairwise_insertionSort le l
  distinct := (((perm_insertionSort le l).map ident).nodup_iff).mpr h

end Canonical

variable {α ι : Type*}

section Definitions

variable (ident : α → ι) (live : α → Bool) (le : α → α → Prop) [DecidableEq ι] [DecidableRel le]

/-- The effect of one event on the items that are active so far. -/
def replayEvent (active : Dict ι α) : LogEvent α ι → Dict ι α
  | .upsert a => if live a then active.set (ident a) a else active.erase (ident a)
  | .remove i => active.erase i
  | .unreadable => active

def activeAfter (events : List (LogEvent α ι)) : Dict ι α :=
  events.foldl (replayEvent ident live) []

def replay (events : List (LogEvent α ι)) : List α :=
  ((activeAfter ident live events).map Prod.snd).insertionSort le

end Definitions

variable {ident : α → ι} {live : α → Bool} {le : α → α → Prop} [DecidableEq ι]

/-! ### The active items -/

/-- Every active item is stored under its own identity, and each identity once. -/
structure Keyed (ident : α → ι) (active : Dict ι α) : Prop where
  key_eq : ∀ e ∈ active, e.1 = ident e.2
  distinct : (active.map Prod.fst).Nodup

lemma Keyed.replayEvent {active : Dict ι α} (h : Keyed ident active) (e : LogEvent α ι) :
    Keyed ident (replayEvent ident live active e) := by
  have herase : ∀ i, Keyed ident (active.erase i) := fun i =>
    ⟨fun x hx => h.key_eq x (mem_erase.mp hx).1, nodup_keys_erase h.distinct i⟩
  cases e with
  | upsert =>
    rw [EventLog.replayEvent]
    split
    · refine ⟨fun x hx => ?_, nodup_keys_set h.distinct _ _⟩
      rcases mem_set.mp hx with rfl | ⟨hx, _⟩
      · rfl
      · exact h.key_eq x hx
    · exact herase _
  | remove i => exact herase i
  | unreadable => exact h

variable (events : List (LogEvent α ι))

variable (ident live) in
lemma keyed_activeAfter : Keyed ident (activeAfter ident live events) := by
  unfold activeAfter
  induction events using List.reverseRecOn with
  | nil => exact ⟨by simp, by simp⟩
  | append_singleton _ e ih =>
    rw [foldl_append]
    exact ih.replayEvent e

lemma activeAfter_append_singleton (e : LogEvent α ι) :
    activeAfter ident live (events ++ [e]) = replayEvent ident live (activeAfter ident live events) e := by
  unfold activeAfter
  rw [foldl_append]
  rfl

variable [DecidableRel le]

private lemma mem_replay_iff (a : α) :
    a ∈ replay ident live le events ↔ ∃ i, (i, a) ∈ activeAfter ident live events := by
  unfold replay
  rw [mem_insertionSort, mem_map]
  constructor
  · rintro ⟨⟨i, b⟩, hb, rfl⟩
    exact ⟨i, hb⟩
  · rintro ⟨i, hi⟩
    exact ⟨(i, a), hi, rfl⟩

variable (ident live le) in
theorem canonical_replay [Std.Total le] [IsTrans α le] : Canonical ident le (replay ident live le events) := by
  have hkeyed := keyed_activeAfter ident live events
  refine canonical_insertionSort ?_
  rw [map_map]
  have hkeys : (activeAfter ident live events).map (ident ∘ Prod.snd)
      = (activeAfter ident live events).map Prod.fst :=
    map_congr_left fun x hx => (hkeyed.key_eq x hx).symm
  rw [hkeys]
  exact hkeyed.distinct

/-- Every item of the queue a log describes is live. -/
theorem live_of_mem_replay {events : List (LogEvent α ι)} {a : α}
    (h : a ∈ replay ident live le events) : live a = true := by
  rw [mem_replay_iff] at h
  obtain ⟨i, hi⟩ := h
  induction events using List.reverseRecOn with
  | nil => cases hi
  | append_singleton _ e ih =>
    rw [activeAfter_append_singleton] at hi
    cases e with
    | upsert =>
      rw [replayEvent] at hi
      split at hi
      · next hb =>
        rcases mem_set.mp hi with heq | ⟨hmem, _⟩
        · cases heq
          exact hb
        · exact ih hmem
      · exact ih (mem_erase.mp hi).1
    | remove => exact ih (mem_erase.mp hi).1
    | unreadable => exact ih hi

/-! ### One more event -/

lemma mem_replay_append_remove (i : ι) (a : α) :
    a ∈ replay ident live le (events ++ [.remove i]) ↔ a ∈ replay ident live le events ∧ ident a ≠ i := by
  have hkeyed := keyed_activeAfter ident live events
  rw [mem_replay_iff, mem_replay_iff, activeAfter_append_singleton]
  constructor
  · rintro ⟨j, hj⟩
    obtain ⟨hmem, hne⟩ := mem_erase.mp hj
    exact ⟨⟨j, hmem⟩, fun h => hne ((hkeyed.key_eq _ hmem).trans h)⟩
  · rintro ⟨⟨j, hj⟩, hne⟩
    exact ⟨j, mem_erase.mpr ⟨hj, fun h => hne ((hkeyed.key_eq _ hj).symm.trans h)⟩⟩

lemma mem_replay_append_upsert {b : α} (hb : live b = true) (a : α) : a ∈ replay ident live le (events ++ [.upsert b])
      ↔ a = b ∨ (a ∈ replay ident live le events ∧ ident a ≠ ident b) := by
  have hkeyed := keyed_activeAfter ident live events
  rw [mem_replay_iff, mem_replay_iff, activeAfter_append_singleton, replayEvent, if_pos hb]
  constructor
  · rintro ⟨j, hj⟩
    rcases mem_set.mp hj with heq | ⟨hmem, hne⟩
    · cases heq
      exact .inl rfl
    · exact .inr ⟨⟨j, hmem⟩, fun h => hne ((hkeyed.key_eq _ hmem).trans h)⟩
  · rintro (rfl | ⟨⟨j, hj⟩, hne⟩)
    · exact ⟨ident a, mem_set.mpr (.inl rfl)⟩
    · exact ⟨j, mem_set.mpr (.inr ⟨hj, fun h => hne ((hkeyed.key_eq _ hj).symm.trans h)⟩)⟩

lemma replay_append_upsert_dead {b : α} (hb : live b = false) :
    replay ident live le (events ++ [.upsert b]) = replay ident live le (events ++ [.remove (ident b)]) := by
  unfold replay
  rw [activeAfter_append_singleton, activeAfter_append_singleton]
  simp [replayEvent, hb]

lemma mem_replay_append_upserts {bs : List α}
    (hlive : ∀ b ∈ bs, live b = true) (hdist : (bs.map ident).Nodup) (a : α) :
    a ∈ replay ident live le (events ++ bs.map .upsert)
      ↔ a ∈ bs ∨ (a ∈ replay ident live le events ∧ ∀ b ∈ bs, ident a ≠ ident b) := by
  induction bs generalizing events with
  | nil => simp
  | cons b bs ih =>
    obtain ⟨hb, hdist⟩ := nodup_cons.mp hdist
    have hlist : events ++ (b :: bs).map LogEvent.upsert
        = (events ++ [.upsert b]) ++ bs.map LogEvent.upsert := by simp
    rw [hlist, ih _ (fun c hc => hlive c (mem_cons_of_mem _ hc)) hdist,
      mem_replay_append_upsert events (hlive b mem_cons_self)]
    constructor
    · rintro (ha | ⟨rfl | ⟨ha, hne⟩, hall⟩)
      · exact .inl (mem_cons_of_mem _ ha)
      · exact .inl mem_cons_self
      · exact .inr ⟨ha, forall_mem_cons.mpr ⟨hne, hall⟩⟩
    · rintro (ha | ⟨ha, hall⟩)
      · rcases mem_cons.mp ha with rfl | ha
        · refine .inr ⟨.inl rfl, fun c hc h => hb ?_⟩
          exact mem_map.mpr ⟨c, hc, h.symm⟩
        · exact .inl ha
      · obtain ⟨hne, hall⟩ := forall_mem_cons.mp hall
        exact .inr ⟨.inr ⟨ha, hne⟩, hall⟩

/-! ### The events that match a change of the queue -/

section Rules

variable [Std.Total le] [IsTrans α le] (hanti : ∀ a b, le a b → le b a → ident a = ident b)
include hanti

variable (events : List (LogEvent α ι))

/-- Inserting a live item: drop the item it replaces, append it and sort. -/
theorem replay_append_upsert {b : α} (hb : live b = true) : replay ident live le (events ++ [.upsert b])
      = ((replay ident live le events).filter (fun a => ident a ≠ ident b) ++ [b]).insertionSort
          le := by
  refine Canonical.ext hanti (canonical_replay _ _ _ _) (canonical_insertionSort ?_) fun a => ?_
  · have hfilter := ((canonical_replay ident live le events).filter
      (fun a => decide (ident a ≠ ident b))).distinct
    rw [map_append, nodup_append]
    refine ⟨hfilter, by simp, ?_⟩
    rintro i hi j hj rfl
    obtain ⟨a, ha, rfl⟩ := mem_map.mp hi
    simp only [map_cons, map_nil, mem_singleton] at hj
    simp [hj] at ha
  · rw [mem_replay_append_upsert events hb, mem_insertionSort]
    simp only [mem_append, mem_filter, decide_eq_true_eq, mem_singleton]
    exact or_comm

theorem replay_append_remove (i : ι) : replay ident live le (events ++ [.remove i])
      = (replay ident live le events).filter fun a => ident a ≠ i := by
  refine Canonical.ext hanti (canonical_replay _ _ _ _) ((canonical_replay _ _ _ _).filter _) fun a => ?_
  rw [mem_replay_append_remove]
  simp

/-- Dropping every item that satisfies `p`, one event for each. -/
theorem replay_append_removes (p : α → Bool) : replay ident live le
        (events ++ ((replay ident live le events).filter p).map fun a => .remove (ident a))
      = (replay ident live le events).filter fun a => !p a := by
  have hmem : ∀ (ids : List ι) (es : List (LogEvent α ι)) (a : α), a ∈ replay ident live le (es ++ ids.map .remove)
        ↔ a ∈ replay ident live le es ∧ ident a ∉ ids := by
    intro ids
    induction ids with
    | nil => simp
    | cons i ids ih =>
      intro es a
      have hlist : es ++ (i :: ids).map LogEvent.remove
          = (es ++ [.remove i]) ++ ids.map (LogEvent.remove (α := α)) := by simp
      rw [hlist, ih, mem_replay_append_remove]
      simp [and_assoc]
  have hids : ((replay ident live le events).filter p).map (fun a => LogEvent.remove (ident a))
      = (((replay ident live le events).filter p).map ident).map (LogEvent.remove (α := α)) := by
    rw [map_map]
    rfl
  have hcanon := canonical_replay ident live le events
  refine Canonical.ext hanti (canonical_replay _ _ _ _) (hcanon.filter _) fun a => ?_
  rw [hids, hmem]
  simp only [mem_map, mem_filter, not_exists, not_and, and_imp, Bool.not_eq_true']
  constructor
  · rintro ⟨ha, hnot⟩
    refine ⟨ha, ?_⟩
    by_contra hp
    exact hnot a ha (by simpa using hp) rfl
  · rintro ⟨ha, hp⟩
    refine ⟨ha, fun b hb hpb hid => ?_⟩
    rw [hcanon.eq_of_ident hb ha hid, hp] at hpb
    cases hpb

/-- Rewriting items in place: one `upsert` for every item that changed. -/
theorem replay_append_rewrites {f : α → α} {changed : α → Bool}
    (hid : ∀ a, ident (f a) = ident a) (hle : ∀ a b, le a b → le (f a) (f b))
    (hsame : ∀ a ∈ replay ident live le events, changed a = false → f a = a)
    (hlive : ∀ a ∈ replay ident live le events, live (f a) = true) :
    replay ident live le (events ++ ((replay ident live le events).filter changed).map fun a => .upsert (f a))
      = (replay ident live le events).map f := by
  have hcanon := canonical_replay ident live le events
  have hups : ((replay ident live le events).filter changed).map (fun a => LogEvent.upsert (f a))
      = (((replay ident live le events).filter changed).map f).map (LogEvent.upsert (ι := ι)) := by
    rw [map_map]
    rfl
  refine Canonical.ext hanti (canonical_replay _ _ _ _) (hcanon.map hid hle) fun a => ?_
  rw [hups, mem_replay_append_upserts]
  · constructor
    · rintro (ha | ⟨ha, hnot⟩)
      · obtain ⟨b, hb, rfl⟩ := mem_map.mp ha
        exact mem_map_of_mem (mem_filter.mp hb).1
      · have hch : changed a = false := by
          by_contra hch
          refine hnot (f a) (mem_map_of_mem (mem_filter.mpr ⟨ha, ?_⟩)) (hid a).symm
          simpa using hch
        exact mem_map.mpr ⟨a, ha, hsame a ha hch⟩
    · intro ha
      obtain ⟨b, hb, rfl⟩ := mem_map.mp ha
      by_cases hch : changed b = true
      · exact .inl (mem_map_of_mem (mem_filter.mpr ⟨hb, hch⟩))
      · have hfb : f b = b := hsame b hb (by simpa using hch)
        refine .inr ⟨by rwa [hfb], ?_⟩
        intro c hc hcid
        obtain ⟨d, hd, rfl⟩ := mem_map.mp hc
        obtain ⟨hdmem, hdch⟩ := mem_filter.mp hd
        rw [hid, hid] at hcid
        exact hch (hcanon.eq_of_ident hb hdmem hcid ▸ hdch)
  · intro b hb
    obtain ⟨c, hc, rfl⟩ := mem_map.mp hb
    exact hlive c (mem_filter.mp hc).1
  · exact ((hcanon.filter changed).map hid hle).distinct

end Rules

end EventLog

end ImmoApp
