import ImmoApp.Imports.ReviewRows
import Mathlib.Data.List.Perm.Basic

/-!
# Decisions for all rows of a group

A group under review shows for how many rows one decision will do.  `applyToAllCount` is that number, as
`_group_resolution_details` computes it; `itemCanFollowGroupResolution` decides it row by row when the decision
comes.
-/

namespace ImmoApp.Imports

open List Bool

def compatibleRow (r : ReviewRow) : Bool := r.blockingReasons.isEmpty && !r.immutableConflict

/-- `_item_has_local_child_review`. -/
def itemHasLocalChildReview (r : ReviewRow) : Bool :=
  if !r.candidateMatches.isEmpty then true
  else if !r.blockingReasons.isEmpty then true
  else if r.immutableConflict then true
  else r.issueGroup != "" && r.issueGroup != "parent_match_needed"

variable (ctx : GroupingContext)

def compatibleRoots (rows : List ReviewRow) : List ReviewRow :=
  (rows.filter compatibleRow).filter fun r => r.entityType = rootEntityType ctx rows

/-- `apply_to_all_count` of `_group_resolution_details`. -/
def applyToAllCount (kind : GroupKind) (rows : List ReviewRow) : ℕ :=
  let compatible := rows.filter compatibleRow
  let roots := compatibleRoots ctx rows
  if compatible.isEmpty ∨ kind = .duplicateConflict ∨ kind = .fieldConflict then 0
  else if disagree ((compatible.map ReviewRow.topologySide).filter (· ≠ "")) then 0
  else if (groupResolutionDetails ctx kind rows).1 = false then compatible.length
  else
    (if roots.isEmpty then compatible else roots).length +
      if ctx.sameSideBundle && !roots.isEmpty then
        compatible.countP fun r => r.entityType ≠ rootEntityType ctx rows && !itemHasLocalChildReview r
      else 0

def groupItems (rows : List ReviewRow) (key : String) : List ReviewRow :=
  (rows.filter fun r => rootGroupKey ctx r = key).insertionSort fun r r' => r.row ≤ r'.row

structure GroupsRight (rows : List ReviewRow) : Prop where
  counts : ∀ e ∈ buildReviewGroups ctx rows, e.2.applyToAllAllowed = true →
    applyToAllCount ctx e.2.kind (groupItems ctx rows e.1) =
      (groupItems ctx rows e.1).countP fun r => itemCanFollowGroupResolution r e.2
  keys : ((buildReviewGroups ctx rows).map Prod.fst).Nodup
  once : ((buildReviewGroups ctx rows).flatMap fun e => groupItems ctx rows e.1).Perm rows
  sorted : ∀ e ∈ buildReviewGroups ctx rows, (groupItems ctx rows e.1).Pairwise fun r r' => r.row ≤ r'.row

/-- A row of another type than its group that a decision for the root settles. -/
def waitsForParent (r : ReviewRow) : Bool :=
  (r.entityType = .demande || r.entityType = .offer) && r.candidateMatches.isEmpty &&
    r.issueGroup == "parent_match_needed"

variable {ctx}

variable {rows items : List ReviewRow} {r : ReviewRow}

lemma perm_flatMap_groups {keys : List String} (hkeys : keys.Nodup) (h : ∀ r ∈ rows, rootGroupKey ctx r ∈ keys) :
    (keys.flatMap fun key => groupItems ctx rows key).Perm rows := by
  induction keys generalizing rows with
  | nil =>
    have hnone : rows = [] := eq_nil_iff_forall_not_mem.mpr fun r hr => absurd (h r hr) not_mem_nil
    rw [hnone]
    exact List.Perm.refl _
  | cons key keys ih =>
    -- the other groups are those of the rows outside the group of `key`
    obtain ⟨hkey, hkeys⟩ := nodup_cons.mp hkeys
    have hrest : ∀ r ∈ rows.filter (fun r => !decide (rootGroupKey ctx r = key)), rootGroupKey ctx r ∈ keys := by
      intro r hr
      obtain ⟨hr, hne⟩ := mem_filter.mp hr
      exact (mem_cons.mp (h r hr)).resolve_left (by simpa using hne)
    have hsame : (keys.flatMap fun k => groupItems ctx (rows.filter fun r => !decide (rootGroupKey ctx r = key)) k) =
        keys.flatMap fun k => groupItems ctx rows k := by
      refine flatMap_congr fun k hk => ?_
      rw [groupItems, filter_filter, groupItems]
      congr 1
      refine filter_congr fun r _ => ?_
      by_cases heq : rootGroupKey ctx r = k
      · have hne : k ≠ key := fun hk' => hkey (hk' ▸ hk)
        simp [heq, hne]
      · simp [heq]
    rw [flatMap_cons, ← hsame]
    refine ((perm_insertionSort _ _).append (ih hkeys hrest)).trans ?_
    exact filter_append_perm _ rows

lemma entityType_of_rootGroupKey (hctx : ctx.sameSideBundle = false) {r' : ReviewRow}
    (h : rootGroupKey ctx r = rootGroupKey ctx r') : r.entityType = r'.entityType := by
  have hlast : ∀ x : ReviewRow, (rootGroupKey ctx x).toList.getLast? = x.entityType.name.toList.getLast? := by
    intro x
    obtain ⟨c, hc⟩ : ∃ c, (toString x.entityType.name).toList.getLast? = some c := by
      cases x.entityType <;> exact ⟨_, rfl⟩
    have hname : x.entityType.name.toList.getLast? = some c := hc
    simp [rootGroupKey, hctx, hc, hname]
  have hchar := hlast r
  rw [h, hlast r'] at hchar
  generalize r.entityType = e at hchar ⊢
  generalize r'.entityType = e' at hchar ⊢
  cases e <;> cases e' <;> first | rfl | exact absurd hchar (by decide)

lemma mem_buildReviewGroups {e : String × ReviewGroup} (h : e ∈ buildReviewGroups ctx rows) :
    e.2 = buildReviewGroup ctx e.1 (rows.filter fun r => rootGroupKey ctx r = e.1) := by
  obtain ⟨_, -, rfl⟩ := mem_map.mp h
  rfl

/-- The rows that follow a decision: those of the root and those that wait for it. -/
lemma countP_canFollow {g : ReviewGroup} (hallowed : g.applyToAllAllowed = true)
    (htype : g.entityType = rootEntityType ctx items) :
    (items.countP fun r => itemCanFollowGroupResolution r g) = (compatibleRoots ctx items).length +
      ((items.filter compatibleRow).filter fun r => !decide (r.entityType = g.entityType)).countP waitsForParent := by
  have hcompatible : (items.countP fun r => itemCanFollowGroupResolution r g) =
      (items.filter compatibleRow).countP fun r => decide (r.entityType = g.entityType) || waitsForParent r := by
    rw [countP_filter]
    refine countP_congr fun r _ => ?_
    rw [itemCanFollowGroupResolution, hallowed, compatibleRow, waitsForParent]
    cases r.blockingReasons.isEmpty <;> cases r.immutableConflict <;> cases r.candidateMatches.isEmpty <;>
      by_cases htype : r.entityType = g.entityType <;> simp [htype]
  have hroots : ((items.filter compatibleRow).filter fun r => decide (r.entityType = g.entityType)).countP
      (fun r => decide (r.entityType = g.entityType) || waitsForParent r) = (compatibleRoots ctx items).length := by
    rw [compatibleRoots, ← htype, countP_eq_length]
    intro r hr
    rw [(mem_filter.mp hr).2, Bool.true_or]
  rw [hcompatible, countP_eq_countP_filter_add _ _ fun r => decide (r.entityType = g.entityType), hroots]
  refine congrArg _ (countP_congr fun r hr => ?_)
  have hother := (mem_filter.mp hr).2
  rw [Bool.not_eq_true'] at hother
  rw [hother, Bool.false_or]

/-- The number that is shown: the rows of the root, and of the other rows those without a review of their own, or all
where there is no row of the root. -/
lemma applyToAllCount_of_allowed {kind : GroupKind} (hallowed : (groupResolutionDetails ctx kind items).1 = true)
    (hsame : ctx.sameSideBundle = false → ∀ r ∈ items, ∀ r' ∈ items, r.entityType = r'.entityType) :
    applyToAllCount ctx kind items = (compatibleRoots ctx items).length +
      ((items.filter compatibleRow).filter fun r => !decide (r.entityType = rootEntityType ctx items)).countP
        fun r => (compatibleRoots ctx items).isEmpty || !itemHasLocalChildReview r := by
  have hkept : ¬((items.filter compatibleRow).isEmpty = true ∨ kind = .duplicateConflict ∨ kind = .fieldConflict) := by
    intro h
    have hnot : (groupResolutionDetails ctx kind items).1 = false := congrArg Prod.fst (if_pos h)
    rw [hallowed] at hnot
    cases hnot
  have hside : ¬disagree (((items.filter compatibleRow).map ReviewRow.topologySide).filter (· ≠ "")) = true := by
    intro h
    have hnot : (groupResolutionDetails ctx kind items).1 = false :=
      congrArg Prod.fst ((if_neg hkept).trans (if_pos h))
    rw [hallowed] at hnot
    cases hnot
  rw [applyToAllCount, if_neg hkept, if_neg hside, if_neg (by simp [hallowed])]
  have hsplit := filter_append_perm (fun r => decide (r.entityType = rootEntityType ctx items))
    (items.filter compatibleRow)
  cases hroots : (compatibleRoots ctx items).isEmpty with
  | true =>
    have hnil := isEmpty_iff.mp hroots
    have hlength := hsplit.length_eq
    rw [compatibleRoots] at hnil
    rw [length_append, hnil] at hlength
    simp [compatibleRoots, hnil, ← hlength]
  | false =>
    cases hbundle : ctx.sameSideBundle with
    | true => simp [countP_filter, Bool.and_comm, Bool.and_left_comm]
    | false =>
      obtain ⟨root, hroot⟩ := exists_mem_of_ne_nil _ (isEmpty_eq_false_iff.mp hroots)
      obtain ⟨hmem, htype⟩ := mem_filter.mp hroot
      have hnone : ((items.filter compatibleRow).filter
          fun r => !decide (r.entityType = rootEntityType ctx items)) = [] := by
        refine filter_eq_nil_iff.mpr fun r hr => ?_
        rw [hsame hbundle r (mem_of_mem_filter hr) root (mem_of_mem_filter hmem), htype]
        exact false_ne_true
      simp [hnone]

lemma not_localReview_of_waitsForParent (hcompatible : compatibleRow r = true)
    (h : waitsForParent r = true) : itemHasLocalChildReview r = false := by
  simp only [waitsForParent, and_eq_true, beq_iff_eq] at h
  simp only [compatibleRow, and_eq_true, not_eq_true'] at hcompatible
  simp [itemHasLocalChildReview, h, hcompatible]

lemma countP_eq_countP_iff {α : Type*} {l : List α} {p q : α → Bool} (h : ∀ a ∈ l, p a = true → q a = true) :
    l.countP q = l.countP p ↔ ∀ a ∈ l, q a = true → p a = true := by
  have hp : l.countP p = (l.filter q).countP p := by
    rw [countP_filter]
    refine countP_congr fun a ha => ?_
    rw [and_eq_true]
    exact ⟨fun hpa => ⟨hpa, h a ha hpa⟩, And.left⟩
  rw [hp, countP_eq_length_filter, eq_comm, countP_eq_length]
  simp [mem_filter]

theorem groupsRight_iff (ctx : GroupingContext) (rows : List ReviewRow) : GroupsRight ctx rows ↔
    ∀ e ∈ buildReviewGroups ctx rows, e.2.applyToAllAllowed = true → ∀ r ∈ groupItems ctx rows e.1,
      compatibleRow r = true → r.entityType ≠ e.2.entityType →
        (compatibleRoots ctx (groupItems ctx rows e.1) = [] ∨ itemHasLocalChildReview r = false) →
        waitsForParent r = true := by
  have hcounts : ∀ e ∈ buildReviewGroups ctx rows, e.2.applyToAllAllowed = true →
      (applyToAllCount ctx e.2.kind (groupItems ctx rows e.1) =
        (groupItems ctx rows e.1).countP (fun r => itemCanFollowGroupResolution r e.2) ↔
      ∀ r ∈ groupItems ctx rows e.1, compatibleRow r = true → r.entityType ≠ e.2.entityType →
        (compatibleRoots ctx (groupItems ctx rows e.1) = [] ∨ itemHasLocalChildReview r = false) →
        waitsForParent r = true) := by
    intro e he hallowed
    have hgroup := mem_buildReviewGroups he
    have hsame : ctx.sameSideBundle = false →
        ∀ r ∈ groupItems ctx rows e.1, ∀ r' ∈ groupItems ctx rows e.1, r.entityType = r'.entityType := by
      intro hbundle r hr r' hr'
      have hkey := (List.mem_filter.mp ((List.perm_insertionSort _ _).mem_iff.mp hr)).2
      have hkey' := (List.mem_filter.mp ((List.perm_insertionSort _ _).mem_iff.mp hr')).2
      exact entityType_of_rootGroupKey hbundle ((of_decide_eq_true hkey).trans (of_decide_eq_true hkey').symm)
    have htype : e.2.entityType = rootEntityType ctx (groupItems ctx rows e.1) := by rw [hgroup]; rfl
    have hdetails : (groupResolutionDetails ctx e.2.kind (groupItems ctx rows e.1)).1 = true := by
      rw [← hallowed, hgroup]
      rfl
    rw [applyToAllCount_of_allowed hdetails hsame, countP_canFollow hallowed htype, ← htype, Nat.add_left_cancel_iff]
    generalize groupItems ctx rows e.1 = items
    have hless : ∀ r ∈ (items.filter compatibleRow).filter fun r => !decide (r.entityType = e.2.entityType),
        waitsForParent r = true → ((compatibleRoots ctx items).isEmpty || !itemHasLocalChildReview r) = true := by
      intro r hr h
      rw [not_localReview_of_waitsForParent (List.mem_filter.mp (List.mem_filter.mp hr).1).2 h]
      simp
    rw [countP_eq_countP_iff hless]
    simp only [List.mem_filter, and_imp, not_eq_true', decide_eq_false_iff_not, or_eq_true, List.isEmpty_iff]
  constructor
  · intro h e he hallowed
    exact (hcounts e he hallowed).mp (h.counts e he hallowed)
  · intro h
    have hkeys : (buildReviewGroups ctx rows).map Prod.fst = (rows.map (rootGroupKey ctx)).dedup := by
      simp [buildReviewGroups, Function.comp_def]
    refine ⟨fun e he hallowed => (hcounts e he hallowed).mpr (h e he hallowed), hkeys ▸ List.nodup_dedup _, ?_,
      fun e _ => List.pairwise_insertionSort _ _⟩
    rw [← List.flatMap_map, hkeys]
    exact perm_flatMap_groups (List.nodup_dedup _) fun r hr => List.mem_dedup.mpr (List.mem_map_of_mem hr)

/-- A demande without a location, alone in its group. -/
def incompleteDemande : ReviewRow :=
  ⟨2, .demande, "client_side", ⟨some "0555001001", none, none⟩, [], [], [], [], false, some .createNew, 0,
    "unclear_location", none, []⟩

/-- Its group says that one decision settles it, and it does not follow one. -/
theorem demande_counted : ¬ ∀ (ctx : GroupingContext) (rows : List ReviewRow), GroupsRight ctx rows := by
  intro h
  have hcount := (h ⟨"7", true, "client_side"⟩ [incompleteDemande]).counts _ (mem_cons_self ..) (by decide)
  exact absurd hcount (by decide)

end ImmoApp.Imports
