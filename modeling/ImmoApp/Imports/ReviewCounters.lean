import ImmoApp.Imports.ApplyToAll
import ImmoApp.Imports.ReviewDecisions

/-!
# Counters of the groups under review

A group stores how many of its items are pending, blocking and resolved.  `groupRecordFields` counts the rows that
are to be stored, `recomputedCounts` the stored items; the one follows the blocking reasons of a row, the other the
status that the item has got.
-/

namespace ImmoApp.ReviewCounters

open Imports List

inductive GroupStatus where
  | pending
  | partiallyResolved
  | resolved
  | blocked
  deriving DecidableEq

structure GroupCounts where
  itemCount : ℕ
  pendingItemCount : ℕ
  blockingItemCount : ℕ
  resolvedItemCount : ℕ
  status : GroupStatus

def groupStatus (itemCount pendingItemCount blockingItemCount resolvedItemCount : ℕ) : GroupStatus :=
  if itemCount = 0 ∨ pendingItemCount = 0 then .resolved
  else if 0 < resolvedItemCount then .partiallyResolved
  else if pendingItemCount ≤ blockingItemCount then .blocked
  else .pending

def countsOf (l : List (String × Bool)) : GroupCounts :=
  let pending := l.countP fun e => e.1 = "pending" || e.1 = "blocked"
  let blocking := l.countP Prod.snd
  let resolved := l.countP fun e => e.1 = "resolved" || e.1 = "skipped"
  ⟨l.length, pending, blocking, resolved, groupStatus l.length pending blocking resolved⟩

def statusName : ItemStatus → String
  | .pending => "pending"
  | .resolved => "resolved"
  | .skipped => "skipped"
  | .blocked => "blocked"

/-- A row as `persist_review_rows` gets it: the text of its status, where it has one, is not read yet. -/
structure GivenRow where
  entry : ReviewRow
  statusText : Option String

variable (T : KeyTexts) (ctx : GroupingContext)

def GivenRow.read (r : GivenRow) : ReviewRow :=
  { r.entry with status := r.statusText.bind fun t =>
      [ItemStatus.pending, .resolved, .skipped, .blocked].find? fun s => statusName s = T.lower (strip t) }

def GivenRow.groupKey (r : GivenRow) : String := rootGroupKey ctx (r.read T)

def GivenRow.itemKey (r : GivenRow) : ItemKey := (r.groupKey T ctx, (r.read T).row, (r.read T).entityType)

/-- The text that is counted: `setdefault` fills it in where the row has none. -/
def GivenRow.status (r : GivenRow) : String := r.statusText.getD (statusName (itemStatusFromRow (r.read T)))

def groupRecordFields (rows : List GivenRow) : GroupCounts :=
  countsOf (rows.map fun r => (r.status T,
    r.status T = "blocked" || r.entry.immutableConflict || !r.entry.blockingReasons.isEmpty))

/-- `_recompute_group_state`; the flag `blocking` of an item is written with its status. -/
def recomputedCounts (items : List ReviewItem) : GroupCounts :=
  countsOf (items.map fun i => (statusName i.status,
    statusName i.status = "blocked" || i.entry.immutableConflict || i.status = .blocked))

/-- `ReviewCountSnapshot`; an issue group that is not listed counts 0. -/
structure ReviewCountSnapshot where
  visibleReviewCount : ℕ
  pendingGroupCount : ℕ
  conflictCount : ℕ
  issueCounts : String → ℕ

structure ReviewStore where
  desk : ReviewDesk
  counts : Dict String GroupCounts

def ReviewStore.empty : ReviewStore := ⟨⟨[], [], 1⟩, []⟩

def itemsOf (desk : ReviewDesk) (groupKey : String) : List ReviewItem :=
  desk.items.filter fun i => i.groupKey = groupKey

def issueGroup (r : ReviewRow) : String := if r.issueGroup = "" then "other" else r.issueGroup

def snapshotOf (l : List (Bool × ReviewRow)) (pendingGroups : ℕ) : ReviewCountSnapshot :=
  ⟨l.countP Prod.fst, pendingGroups, l.countP fun e => e.1 && e.2.immutableConflict,
    fun g => l.countP fun e => e.1 && issueGroup e.2 = g⟩

/-- A blank status counts as pending here. -/
def GivenRow.visible (r : GivenRow) : Bool :=
  let status := if r.status T = "" then "pending" else r.status T
  status = "pending" || status = "blocked"

/-- `persist_review_rows`, with the snapshot that it returns. -/
def persist (rows : List GivenRow) (s : ReviewStore) : Option (ReviewStore × ReviewCountSnapshot) :=
  (persistReviewRows ctx (rows.map (GivenRow.read T)) s.desk).map fun desk =>
    (⟨desk, desk.groups.map fun g =>
        (g.1, groupRecordFields T (rows.filter fun r => r.groupKey T ctx = g.1))⟩,
      snapshotOf (rows.map fun r => (r.visible T, r.read T)) desk.groups.length)

def reviewCountSnapshot (s : ReviewStore) : ReviewCountSnapshot :=
  snapshotOf (s.desk.items.map fun i => (i.status.active, i.entry)) (s.counts.countP fun g => g.2.status ≠ .resolved)

/-- An item is written where its resolution changes something; `timeDiffers` says whether its time does. -/
def written (req : ReviewSubmitRequest) (timeDiffers : ℕ → Bool) (i : ReviewItem) : Bool :=
  match itemResolution req i with
  | none => false
  | some r => i.resolution ≠ r || i.resolutionSource ≠ "item" || i.status ≠ statusAfter i.entry r.action ||
      timeDiffers i.id

/-- `apply_item_resolutions`: the groups of the items that are written are counted again. -/
def apply (req : ReviewSubmitRequest) (timeDiffers : ℕ → Bool) (s : ReviewStore) : ReviewStore :=
  let desk := applyItemResolutions req s.desk
  ⟨desk, s.counts.map fun g =>
    if s.desk.items.any fun i => i.groupKey = g.1 && written req timeDiffers i
    then (g.1, recomputedCounts (itemsOf desk g.1)) else g⟩

inductive ReviewCall where
  | persist (rows : List GivenRow)
  | apply (req : ReviewSubmitRequest) (timeDiffers : ℕ → Bool)

/-- One call; the transaction of a `persist_review_rows` that fails is rolled back. -/
def step (s : ReviewStore) : ReviewCall → ReviewStore
  | .persist rows => ((persist T ctx rows s).map Prod.fst).getD s
  | .apply req timeDiffers => apply req timeDiffers s

def run (calls : List ReviewCall) : ReviewStore := calls.foldl (step T ctx) .empty

def lastRows (calls : List ReviewCall) : List GivenRow :=
  ((calls.filterMap fun | .persist rows => some rows | .apply _ _ => none).getLast?).getD []

/-- What the counters of a store and its items say, after `rows` were stored. -/
structure Agrees (s : ReviewStore) (rows : List GivenRow) : Prop where
  groups : s.counts.map Prod.fst = s.desk.groups.map Prod.fst
  counters : ∀ g ∈ s.counts, g.2 = recomputedCounts (itemsOf s.desk g.1)
  items : (s.desk.items.map ReviewItem.itemKey).Perm (rows.map (GivenRow.itemKey T ctx))

/-- The counters agree after every call, and with them the snapshot that the call returns. -/
def CountersAgree (calls : List ReviewCall) : Prop :=
  ∀ before after, calls = before ++ after → Agrees T ctx (run T ctx before) (lastRows before) ∧
    ∀ rows rest, after = .persist rows :: rest →
      ∃ s snapshot, persist T ctx rows (run T ctx before) = some (s, snapshot) ∧ snapshot = reviewCountSnapshot s

/-- Rows whose counts are those of their items. -/
structure WellGiven (rows : List GivenRow) : Prop where
  keys : (rows.map (GivenRow.itemKey T ctx)).Nodup
  spelled : ∀ r ∈ rows, ∀ t ∈ r.statusText, t = statusName (itemStatusFromRow (r.read T))
  blocked : ∀ r ∈ rows, r.entry.blockingReasons ≠ [] →
    r.entry.immutableConflict = true ∨ itemStatusFromRow (r.read T) = .blocked
  pending : ∀ r ∈ rows, ∃ r' ∈ rows, r'.groupKey T ctx = r.groupKey T ctx ∧
    (itemStatusFromRow (r'.read T)).active = true

variable {T ctx}

lemma foldl_set_of_nodup {key : ReviewRow → ItemKey} {l : List ReviewRow} (hl : (l.map key).Nodup) :
    l.foldl (fun acc r => Dict.set acc (key r) r) ([] : Dict ItemKey ReviewRow) = l.map fun r => (key r, r) := by
  induction l using List.reverseRecOn with
  | nil => rfl
  | append_singleton l r ih =>
    rw [map_append, nodup_append] at hl
    obtain ⟨hl, -, hnew⟩ := hl
    have hnone : Dict.get? (l.map fun r => (key r, r)) (key r) = none := by
      rw [Dict.get?_eq_none_iff]
      intro e he
      obtain ⟨_, hr', rfl⟩ := mem_map.mp he
      exact hnew _ (mem_map_of_mem hr') _ mem_cons_self
    rw [foldl_append, ih hl, foldl_cons, foldl_nil, Dict.set, hnone, map_append]
    rfl

lemma map_itemsOfRows {α : Type*} (f : String → ReviewRow → α) (groups : Dict String ReviewGroup)
    (stored : List ReviewItem) (nextId : ℕ) (rows : Dict ItemKey ReviewRow) :
    ((itemsOfRows groups stored nextId rows).map fun i => (f i.groupKey i.entry, i.status)) =
      rows.map fun e => (f e.1.1 e.2, itemStatusFromRow e.2) := by
  induction rows generalizing nextId with
  | nil => rfl
  | cons e _ ih =>
    obtain ⟨_, r⟩ := e
    rw [itemsOfRows]
    split <;> rw [map_cons, ih, map_cons] <;> rfl

/-- Rows with keys of their own are all stored, each as one item with the status read from it. -/
lemma persistReviewRows_spec (ctx : GroupingContext) (rows : List ReviewRow) (s : ReviewDesk)
    (hkeys : (rows.map fun r => ((rootGroupKey ctx r, r.row, r.entityType) : ItemKey)).Nodup) :
    ∃ t, persistReviewRows ctx rows s = some t ∧ t.groups = buildReviewGroups ctx rows ∧
      (t.items.map fun i => ((i.groupKey, i.entry), i.status)).Perm
        (rows.map fun r => ((rootGroupKey ctx r, r), itemStatusFromRow r)) := by
  have hgrouped : ((buildReviewGroups ctx rows).flatMap fun g => groupItems ctx rows g.1).Perm rows := by
    rw [buildReviewGroups, flatMap_map]
    exact perm_flatMap_groups (nodup_dedup _) fun r hr => mem_dedup.mpr (mem_map_of_mem hr)
  simp only [groupItems] at hgrouped
  unfold persistReviewRows
  dsimp only
  rw [if_pos (hkeys.filter _)]
  refine ⟨_, rfl, rfl, ?_⟩
  rw [map_itemsOfRows fun k r => (k, r)]
  refine List.Perm.trans (Perm.of_eq ?_) (hgrouped.map fun r => ((rootGroupKey ctx r, r), itemStatusFromRow r))
  rw [foldl_set_of_nodup ((hgrouped.map _).nodup_iff.mpr hkeys), map_map]
  rfl

/-! ### The two ways to count -/

lemma active_iff (s : ItemStatus) : s.active = (statusName s = "pending" || statusName s = "blocked") := by
  cases s <;> rfl

section WellGivenRow

variable {rows : List GivenRow} (h : WellGiven T ctx rows) {r : GivenRow} (hr : r ∈ rows)

include h hr

lemma WellGiven.status_eq : r.status T = statusName (itemStatusFromRow (r.read T)) := by
  unfold GivenRow.status
  cases ht : r.statusText with
  | none => rfl
  | some t => exact h.spelled r hr t ht

lemma WellGiven.visible_eq : r.visible T = (itemStatusFromRow (r.read T)).active := by
  have hne : statusName (itemStatusFromRow (r.read T)) ≠ "" := by
    cases itemStatusFromRow (r.read T) <;> decide
  simp only [GivenRow.visible, h.status_eq hr, if_neg hne, active_iff]

lemma WellGiven.blocks_eq :
    (r.status T = "blocked" || r.entry.immutableConflict || !r.entry.blockingReasons.isEmpty : Bool) =
      (statusName (itemStatusFromRow (r.read T)) = "blocked" || (r.read T).immutableConflict ||
        itemStatusFromRow (r.read T) = .blocked : Bool) := by
  have hblocked := h.blocked r hr
  have himm : (r.read T).immutableConflict = r.entry.immutableConflict := rfl
  rw [h.status_eq hr, himm]
  generalize itemStatusFromRow (r.read T) = s at hblocked ⊢
  generalize r.entry.immutableConflict = c at hblocked ⊢
  cases hreasons : r.entry.blockingReasons with
  | nil => cases s <;> cases c <;> rfl
  | cons =>
    rcases hblocked (by simp [hreasons]) with hc | hs
    · simp [hc]
    · simp [hs, statusName]

end WellGivenRow

lemma pending_countsOf_pos {l : List (String × Bool)} (h : ∃ e ∈ l, e.1 = "pending" ∨ e.1 = "blocked") :
    (countsOf l).status ≠ .resolved := by
  obtain ⟨e, he, hstatus⟩ := h
  have hpos : 0 < l.countP fun e => e.1 = "pending" || e.1 = "blocked" :=
    countP_pos_iff.mpr ⟨e, he, by simpa using hstatus⟩
  have hlength := length_pos_of_mem he
  simp only [countsOf, groupStatus]
  rw [if_neg (by omega)]
  split <;> [skip; split] <;> simp

lemma countsOf_perm {l l' : List (String × Bool)} (h : l.Perm l') : countsOf l = countsOf l' := by
  simp only [countsOf, h.countP_eq, h.length_eq]

lemma snapshotOf_perm {l l' : List (Bool × ReviewRow)} (h : l.Perm l') (n : ℕ) : snapshotOf l n = snapshotOf l' n := by
  simp only [snapshotOf, h.countP_eq]

/-- The counters of a group of well given rows are those of items with their entries and statuses. -/
lemma groupRecordFields_eq {rows : List GivenRow} (h : WellGiven T ctx rows) {items : List ReviewItem} (key : String)
    (hitems : (items.map fun i => ((i.groupKey, i.entry), i.status)).Perm
      (rows.map fun r => ((r.groupKey T ctx, r.read T), itemStatusFromRow (r.read T)))) :
    groupRecordFields T (rows.filter fun r => r.groupKey T ctx = key) =
      recomputedCounts (items.filter fun i => i.groupKey = key) := by
  have hgroup := (hitems.filter fun e => e.1.1 = key).map fun e =>
    (statusName e.2, (statusName e.2 = "blocked" || e.1.2.immutableConflict || e.2 = .blocked : Bool))
  rw [filter_map, filter_map, map_map, map_map] at hgroup
  refine Eq.trans (congrArg countsOf ?_) (countsOf_perm hgroup.symm)
  refine map_congr_left fun r hr => ?_
  have hr := mem_of_mem_filter hr
  exact Prod.ext (h.status_eq hr) (h.blocks_eq hr)

lemma groupRecordFields_pending {rows : List GivenRow} (h : WellGiven T ctx rows) {r : GivenRow} (hr : r ∈ rows) :
    (groupRecordFields T (rows.filter fun x => x.groupKey T ctx = r.groupKey T ctx)).status ≠ .resolved := by
  obtain ⟨_, hr', hkey, hactive⟩ := h.pending r hr
  refine pending_countsOf_pos ⟨_, mem_map_of_mem (mem_filter.mpr ⟨hr', by simpa using hkey⟩), ?_⟩
  rw [active_iff, ← h.status_eq hr'] at hactive
  simpa using hactive

lemma persist_spec {rows : List GivenRow} (h : WellGiven T ctx rows) (s : ReviewStore) :
    ∃ t snapshot, persist T ctx rows s = some (t, snapshot) ∧ Agrees T ctx t rows ∧
      snapshot = reviewCountSnapshot t := by
  obtain ⟨desk, hdesk, hgroups, hitems⟩ := persistReviewRows_spec ctx (rows.map (GivenRow.read T)) s.desk
    (by rw [map_map]; exact h.keys)
  rw [map_map] at hitems
  refine ⟨_, _, by rw [persist, hdesk]; rfl, ⟨?_, ?_, ?_⟩, ?_⟩
  · rw [map_map]
    rfl
  · intro g hg
    obtain ⟨g, -, rfl⟩ := mem_map.mp hg
    exact groupRecordFields_eq h g.1 hitems
  · have hkeys := hitems.map fun e => ((e.1.1, e.1.2.row, e.1.2.entityType) : ItemKey)
    rw [map_map, map_map] at hkeys
    exact hkeys
  · have hshown : (rows.map fun r => (r.visible T, r.read T)) =
        rows.map fun r => ((itemStatusFromRow (r.read T)).active, r.read T) :=
      map_congr_left fun r hr => Prod.ext (h.visible_eq hr) rfl
    have hactive := (hitems.map fun e => (e.2.active, e.1.2)).symm
    rw [map_map, map_map] at hactive
    have hcount : (desk.groups.map fun g => (g.1, groupRecordFields T
        (rows.filter fun r => r.groupKey T ctx = g.1))).countP (fun g => g.2.status ≠ .resolved) =
          desk.groups.length := by
      rw [countP_map, countP_eq_length]
      intro g hg
      rw [hgroups] at hg
      obtain ⟨_, hkey, rfl⟩ := mem_map.mp hg
      obtain ⟨_, hr', rfl⟩ := mem_map.mp (mem_dedup.mp hkey)
      obtain ⟨r, hr, rfl⟩ := mem_map.mp hr'
      exact decide_eq_true (groupRecordFields_pending h hr)
    rw [reviewCountSnapshot, hcount, hshown]
    exact snapshotOf_perm hactive _

/-- What `apply_item_resolutions` does to the items. -/
lemma applyItemResolutions_spec (req : ReviewSubmitRequest) (timeDiffers : ℕ → Bool) (s : ReviewDesk) :
    ∃ f : ReviewItem → ReviewItem, (applyItemResolutions req s).items = s.items.map f ∧
      (∀ i, (f i).groupKey = i.groupKey ∧ (f i).itemKey = i.itemKey) ∧
      ∀ i, written req timeDiffers i = false → f i = i := by
  refine ⟨_, rfl, fun i => ?_, fun i h => ?_⟩
  · cases itemResolution req i <;> exact ⟨rfl, rfl⟩
  · unfold written at h
    cases hres : itemResolution req i with
    | none => rfl
    | some =>
      rw [hres] at h
      simp only [Bool.or_eq_false_iff, decide_eq_false_iff_not, not_not] at h
      obtain ⟨⟨⟨hr, hsource⟩, hstatus⟩, -⟩ := h
      subst hr
      dsimp only
      rw [← hsource, ← hstatus]

/-- A group without a written item keeps its items. -/
lemma agrees_apply {s : ReviewStore} {rows : List GivenRow} (h : Agrees T ctx s rows) (req : ReviewSubmitRequest)
    (timeDiffers : ℕ → Bool) : Agrees T ctx (apply req timeDiffers s) rows := by
  obtain ⟨f, hf, hkeys, hsame⟩ := applyItemResolutions_spec req timeDiffers s.desk
  refine ⟨?_, fun g hg => ?_, ?_⟩
  · rw [apply, map_map]
    refine Eq.trans (map_congr_left fun g _ => ?_) h.groups
    rw [Function.comp_apply]
    split <;> rfl
  · obtain ⟨g, hmem, rfl⟩ := mem_map.mp hg
    split
    · rfl
    · next hnone =>
      simp only [any_eq_true, Bool.and_eq_true, decide_eq_true_eq, not_exists, not_and] at hnone
      have hitems : itemsOf (applyItemResolutions req s.desk) g.1 = itemsOf s.desk g.1 := by
        have hgroup : ((fun i : ReviewItem => decide (i.groupKey = g.1)) ∘ f) = fun i => decide (i.groupKey = g.1) :=
          funext fun i => by rw [Function.comp_apply, (hkeys i).1]
        rw [itemsOf, hf, filter_map, hgroup, itemsOf]
        refine (map_congr_left fun i hi => ?_).trans (map_id _)
        obtain ⟨hi, hkey⟩ := mem_filter.mp hi
        exact hsame i (Bool.eq_false_iff.mpr (hnone i hi (of_decide_eq_true hkey)))
      rw [apply]
      exact (h.counters g hmem).trans (congrArg recomputedCounts hitems.symm)
  · rw [apply, hf, map_map]
    exact (Perm.of_eq (map_congr_left fun i _ => (hkeys i).2)).trans h.items

/-! ### Runs -/

lemma lastRows_concat (calls : List ReviewCall) (c : ReviewCall) : lastRows (calls ++ [c]) = match c with
      | .persist rows => rows
      | .apply _ _ => lastRows calls := by
  rw [lastRows, filterMap_append]
  cases c <;> simp [lastRows]

lemma agrees_run {calls : List ReviewCall} (h : ∀ rows, .persist rows ∈ calls → WellGiven T ctx rows) :
    Agrees T ctx (run T ctx calls) (lastRows calls) := by
  induction calls using List.reverseRecOn with
  | nil => exact ⟨rfl, fun g hg => absurd hg not_mem_nil, List.Perm.refl _⟩
  | append_singleton calls c ih =>
    have ih := ih fun rows hrows => h rows (mem_append_left _ hrows)
    rw [run, foldl_append, ← run, lastRows_concat]
    cases c with
    | persist rows =>
      obtain ⟨t, _, ht, hagrees, -⟩ := persist_spec (h rows (mem_append_right _ mem_cons_self)) (run T ctx calls)
      rw [foldl_cons, foldl_nil, step, ht]
      exact hagrees
    | apply req timeDiffers => exact agrees_apply ih req timeDiffers

/-- In a run whose rows are all well given, the counters and snapshots agree with the items throughout. -/
theorem countersAgree_of_wellGiven (calls : List ReviewCall)
    (h : ∀ rows, .persist rows ∈ calls → WellGiven T ctx rows) : CountersAgree T ctx calls := by
  rintro before _ rfl
  refine ⟨agrees_run fun rows hrows => h rows (mem_append_left _ hrows), ?_⟩
  rintro rows _ rfl
  obtain ⟨t, snapshot, ht, -, hsnapshot⟩ := persist_spec
    (h rows (mem_append_right _ mem_cons_self)) (run T ctx before)
  exact ⟨t, snapshot, ht, hsnapshot⟩

def plainTexts : KeyTexts := ⟨id, fun _ => none, fun s => by simp [strip_strip]⟩

def rowWithout (phone : String) : ReviewRow :=
  { row := 2, entityType := .client, topologySide := "", identity := ⟨none, none, none⟩, data := [], original := []
    candidateMatches := [], blockingReasons := [phone], immutableConflict := false, suggestedAction := none
    suggestedExistingId := 0, issueGroup := "", status := none, remarks := [] }

theorem counters_agree_skipped : CountersAgree plainTexts ⟨"1", false, ""⟩ [.persist [⟨rowWithout "phone", none⟩],
    .apply ⟨[], [], [], [], [], [1], []⟩ fun _ => true, .persist [⟨rowWithout "phone", some "blocked"⟩]] := by
  refine countersAgree_of_wellGiven _ fun rows hrows => ?_
  have hrow : rows = [⟨rowWithout "phone", none⟩] ∨ rows = [⟨rowWithout "phone", some "blocked"⟩] := by
    simpa using hrows
  rcases hrow with rfl | rfl <;>
    exact ⟨by simp, by simp only [forall_mem_singleton]; decide +kernel,
      fun r hr _ => .inr (by rw [mem_singleton.mp hr]; decide +kernel),
      fun r hr => ⟨r, hr, rfl, by rw [mem_singleton.mp hr]; decide +kernel⟩⟩

theorem resolved_row_blocks_group : ¬ ∀ (T : KeyTexts) (ctx : GroupingContext) (calls : List ReviewCall),
    CountersAgree T ctx calls := by
  intro h
  let calls : List ReviewCall := [.persist [⟨rowWithout "phone", some "resolved"⟩]]
  let s := run plainTexts ⟨"1", false, ""⟩ calls
  have hcounts : (s.counts.map fun g => (g.2.blockingItemCount,
      (recomputedCounts (itemsOf s.desk g.1)).blockingItemCount)) = [(1, 0)] := by
    decide +kernel
  obtain ⟨g, hg, heq⟩ := mem_map.mp (hcounts ▸ mem_cons_self : (1, 0) ∈ _)
  have hagree := (h plainTexts ⟨"1", false, ""⟩ calls calls [] (append_nil _).symm).1.counters g hg
  obtain ⟨_, hitems⟩ := Prod.mk.inj heq
  rw [← hagree] at hitems
  omega

end ImmoApp.ReviewCounters
