import Mathlib.Data.List.Nodup
import Mathlib.Data.List.Sublists

/-!
# Dropping an entry with what depends on it

Entries have an identity and a key, and an entry may need keys of others.  `Dependent needs key items target` holds of
the entries that need the key `target`, of those that need the key of one of these, and so on.

`cascade` drops them as a store does that reads its entries anew at every level, while the levels above go through what
they have read.  Exactly the dependents go, whatever the order and also for entries in a circle (`mem_cascade`).
-/

namespace ImmoApp

open List

variable {α κ ι : Type*}

/-- The entry needs the target, or an entry that does, and so on. -/
inductive Dependent (needs : α → κ → Prop) (key : α → κ) (items : List α) (target : κ) : α → Prop where
  | direct {x : α} : x ∈ items → needs x target → Dependent needs key items target x
  | through {x y : α} : Dependent needs key items target y → x ∈ items → needs x (key y) →
      Dependent needs key items target x

section Dependents

variable {needs : α → κ → Prop} {key : α → κ} {items items' kept : List α} {target : κ} {x y : α}

lemma Dependent.mem (h : Dependent needs key items target x) : x ∈ items := by
  cases h with
  | direct hx => exact hx
  | through _ hx => exact hx

lemma Dependent.mono (hsub : items ⊆ items') (h : Dependent needs key items target x) :
    Dependent needs key items' target x := by
  induction h with
  | direct hx hneeds => exact .direct (hsub hx) hneeds
  | through _ hx hneeds ih => exact .through ih (hsub hx) hneeds

lemma Dependent.trans (hy : Dependent needs key items target y) (hx : Dependent needs key items (key y) x) :
    Dependent needs key items target x := by
  induction hx with
  | direct hx hneeds => exact .through hy hx hneeds
  | through _ hx hneeds ih => exact .through ih hx hneeds

lemma Dependent.without {c : α} (hkey : key c = target) (hdrop : ∀ y, y ∈ items' ↔ y ∈ items ∧ y ≠ c)
    (h : Dependent needs key items target x) (hx : x ≠ c) : Dependent needs key items' target x := by
  induction h with
  | direct hmem hneeds => exact .direct ((hdrop _).mpr ⟨hmem, hx⟩) hneeds
  | @through x y _ hmem hneeds ih =>
    by_cases hy : y = c
    · rw [hy, hkey] at hneeds
      exact .direct ((hdrop x).mpr ⟨hmem, hx⟩) hneeds
    · exact .through (ih hy) ((hdrop x).mpr ⟨hmem, hx⟩) hneeds

/-- What was dropped of the entries, down to those that are kept: nothing but dependents, and nothing that is kept
needs what was dropped. -/
structure Closed (needs : α → κ → Prop) (key : α → κ) (items : List α) (target : κ) (kept : List α) : Prop where
  sub : kept ⊆ items
  sound : ∀ r ∈ items, r ∉ kept → Dependent needs key items target r
  closed : ∀ r ∈ items, r ∉ kept → ∀ y ∈ kept, ¬ needs y (key r)

lemma Closed.mem_iff (h : Closed needs key items target kept) (htarget : ∀ y ∈ kept, ¬ needs y target) :
    x ∈ kept ↔ x ∈ items ∧ ¬ Dependent needs key items target x := by
  constructor
  · intro hx
    refine ⟨h.sub hx, fun hdep => ?_⟩
    induction hdep with
    | direct _ hneeds => exact htarget _ hx hneeds
    | @through x y hy _ hneeds ih =>
      by_cases hmem : y ∈ kept
      · exact ih hmem
      · exact h.closed y hy.mem hmem x hx hneeds
  · rintro ⟨hx, hnot⟩
    by_contra hmem
    exact hnot (h.sound x hx hmem)

end Dependents

/-! ### The cascade -/

section Cascade

variable [DecidableEq ι] (ident : α → ι) (key : α → κ) (needs : α → κ → Prop)

def dropIdent (i : ι) (items : List α) : List α := items.filter fun y => ident y ≠ i

/-- Drop the dependents of a target, with a bound on the depth of the recursion. -/
def cascade [∀ x k, Decidable (needs x k)] : ℕ → κ → List α → List α
  | 0, _, items => items
  | depth + 1, target, items =>
    items.foldl
      (fun kept x => if needs x target then cascade depth (key x) (dropIdent ident (ident x) kept) else kept) items

variable {ident key needs} {items kept kept' : List α} {x y : α} {target : κ}

lemma dropIdent_sublist (i : ι) (items : List α) : (dropIdent ident i items).Sublist items := filter_sublist

lemma mem_dropIdent (hident : ∀ z ∈ items, ∀ w ∈ items, ident z = ident w → z = w) (hsub : kept ⊆ items)
    (hx : x ∈ items) : y ∈ dropIdent ident (ident x) kept ↔ y ∈ kept ∧ y ≠ x := by
  unfold dropIdent
  rw [mem_filter, decide_eq_true_eq]
  refine and_congr_right fun hy => not_congr ?_
  exact ⟨fun h => hident y (hsub hy) x hx h, fun h => by rw [h]⟩

private lemma Closed.drop (hident : ∀ z ∈ items, ∀ w ∈ items, ident z = ident w → z = w)
    (h : Closed needs key items target kept) (hx : x ∈ items) (hneeds : needs x target)
    (hmem : ∀ y, y ∈ kept' ↔ y ∈ dropIdent ident (ident x) kept ∧
      ¬ Dependent needs key (dropIdent ident (ident x) kept) (key x) y) :
    Closed needs key items target kept' := by
  have hdrop : ∀ y, y ∈ dropIdent ident (ident x) kept ↔ y ∈ kept ∧ y ≠ x := fun y =>
    mem_dropIdent hident h.sub hx
  have hsub : kept' ⊆ kept := fun y hy => ((hdrop y).mp ((hmem y).mp hy).1).1
  -- an entry that is gone was gone before, is `x`, or went with the dependents of `x`
  have hgone : ∀ r, r ∉ kept' → r ∉ kept ∨ r = x ∨
      Dependent needs key (dropIdent ident (ident x) kept) (key x) r := by
    intro r hr
    by_cases hrx : r = x
    · exact .inr (.inl hrx)
    · by_cases hrk : r ∈ kept
      · refine .inr (.inr ?_)
        by_contra hnot
        exact hr ((hmem r).mpr ⟨(hdrop r).mpr ⟨hrk, hrx⟩, hnot⟩)
      · exact .inl hrk
  refine ⟨fun y hy => h.sub (hsub hy), fun r hr hnot => ?_, fun r hr hnot y hy hneedsy => ?_⟩
  · rcases hgone r hnot with hold | rfl | hbelow
    · exact h.sound r hr hold
    · exact .direct hx hneeds
    · have hdep : Dependent needs key items target x := .direct hx hneeds
      exact hdep.trans (hbelow.mono fun z hz => h.sub ((hdrop z).mp hz).1)
  · rcases hgone r hnot with hold | rfl | hbelow
    · exact h.closed r hr hold y (hsub hy) hneedsy
    · exact ((hmem y).mp hy).2 (.direct ((hmem y).mp hy).1 hneedsy)
    · exact ((hmem y).mp hy).2 (.through hbelow ((hmem y).mp hy).1 hneedsy)

/-- A loop that only drops entries, keeps them closed, and drops every entry that needs the target when it comes to
it. -/
private lemma Closed.foldl {f : List α → α → List α} {xs : List α}
    (hf : ∀ kept x, x ∈ xs → kept.Sublist items → Closed needs key items target kept →
      (f kept x).Sublist kept ∧ Closed needs key items target (f kept x) ∧ (needs x target → x ∉ f kept x))
    (hsub : kept.Sublist items) (h : Closed needs key items target kept) :
    (xs.foldl f kept).Sublist kept ∧ Closed needs key items target (xs.foldl f kept) ∧
      ∀ x ∈ xs, needs x target → x ∉ xs.foldl f kept := by
  induction xs generalizing kept with
  | nil => exact ⟨List.Sublist.refl _, h, by simp⟩
  | cons x _ ih =>
    obtain ⟨hless, hclosed, hgone⟩ := hf kept x mem_cons_self hsub h
    obtain ⟨hless', hclosed', hgone'⟩ :=
      ih (fun kept z hz => hf kept z (mem_cons_of_mem _ hz)) (hless.trans hsub) hclosed
    refine ⟨hless'.trans hless, hclosed', fun z hz hneeds hmem => ?_⟩
    rcases mem_cons.mp hz with rfl | hz
    · exact hgone hneeds (hless'.subset hmem)
    · exact hgone' z hz hneeds hmem

private lemma foldl_sublist {f : List α → α → List α} (hf : ∀ kept x, (f kept x).Sublist kept) (xs kept : List α) :
    (xs.foldl f kept).Sublist kept := by
  induction xs generalizing kept with
  | nil => exact List.Sublist.refl _
  | cons x _ ih => exact (ih (f kept x)).trans (hf kept x)

variable [∀ x k, Decidable (needs x k)]

lemma cascade_sublist (depth : ℕ) (target : κ) (items : List α) :
    (cascade ident key needs depth target items).Sublist items := by
  induction depth generalizing target items with
  | zero => exact List.Sublist.refl _
  | succ _ ih =>
    refine foldl_sublist (fun kept x => ?_) items items
    split
    · exact (ih (key x) (dropIdent ident (ident x) kept)).trans (dropIdent_sublist _ _)
    · exact List.Sublist.refl _

/-- Exactly the dependents of the target go, once the bound exceeds the number of the entries. -/
theorem mem_cascade {depth : ℕ} (hdepth : items.length < depth) (hnodup : (items.map ident).Nodup) :
    x ∈ cascade ident key needs depth target items ↔ x ∈ items ∧ ¬ Dependent needs key items target x := by
  induction depth generalizing items target x with
  | zero => omega
  | succ depth ih =>
    have hident : ∀ z ∈ items, ∀ w ∈ items, ident z = ident w → z = w := fun z hz w hw =>
      inj_on_of_nodup_map hnodup hz hw
    have hstart : Closed needs key items target items :=
      ⟨fun _ h => h, fun _ h hn => absurd h hn, fun _ h hn => absurd h hn⟩
    have hpass : ∀ kept z, z ∈ items → kept.Sublist items → Closed needs key items target kept →
        let next := if needs z target then cascade ident key needs depth (key z) (dropIdent ident (ident z) kept)
          else kept
        next.Sublist kept ∧ Closed needs key items target next ∧ (needs z target → z ∉ next) := by
      intro kept z hz hsub h next
      by_cases hneeds : needs z target
      · -- the list that the inner cascade starts from has lost `z`
        have hlt : (dropIdent ident (ident z) kept).length < depth := by
          have hle : (dropIdent ident (ident z) kept).length ≤ (dropIdent ident (ident z) items).length :=
            (hsub.filter _).length_le
          have hone : (dropIdent ident (ident z) items).length < items.length :=
            length_filter_lt_length_iff_exists.mpr ⟨z, hz, by simp⟩
          omega
        have hnodup' : ((dropIdent ident (ident z) kept).map ident).Nodup :=
          hnodup.sublist (((dropIdent_sublist _ _).trans hsub).map _)
        have hmem : ∀ y, y ∈ next ↔ y ∈ dropIdent ident (ident z) kept ∧
            ¬ Dependent needs key (dropIdent ident (ident z) kept) (key z) y := by
          intro y
          simp only [next, if_pos hneeds]
          exact ih hlt hnodup'
        have hless : next.Sublist kept := by
          simp only [next, if_pos hneeds]
          exact (cascade_sublist _ _ _).trans (dropIdent_sublist _ _)
        refine ⟨hless, h.drop hident hz hneeds hmem, fun _ hz' => ?_⟩
        exact ((mem_dropIdent hident h.sub hz).mp ((hmem z).mp hz').1).2 rfl
      · simp only [next, if_neg hneeds]
        exact ⟨List.Sublist.refl _, h, fun hyes => absurd hyes hneeds⟩
    obtain ⟨-, hclosed, hgone⟩ := Closed.foldl hpass (List.Sublist.refl _) hstart
    refine hclosed.mem_iff fun y hy hneeds => ?_
    exact hgone y (hclosed.sub hy) hneeds hy

/-- An entry that is dropped with a cascade on its key takes its dependents with it, and nothing else. -/
theorem mem_cascade_dropIdent {depth : ℕ} {c : α} (hc : c ∈ items)
    (hdepth : (dropIdent ident (ident c) items).length < depth) (hnodup : (items.map ident).Nodup) :
    x ∈ cascade ident key needs depth (key c) (dropIdent ident (ident c) items) ↔
      x ∈ items ∧ x ≠ c ∧ ¬ Dependent needs key items (key c) x := by
  have hdrop : ∀ y, y ∈ dropIdent ident (ident c) items ↔ y ∈ items ∧ y ≠ c := fun y =>
    mem_dropIdent (fun z hz w hw => inj_on_of_nodup_map hnodup hz hw) (List.Subset.refl _) hc
  rw [mem_cascade hdepth (hnodup.sublist ((dropIdent_sublist _ _).map _)), hdrop, and_assoc]
  refine and_congr_right fun _ => and_congr_right fun hne => not_congr ?_
  exact ⟨fun h => h.mono fun z hz => ((hdrop z).mp hz).1, fun h => h.without rfl hdrop hne⟩

end Cascade

end ImmoApp
