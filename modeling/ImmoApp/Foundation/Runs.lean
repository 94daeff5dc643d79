import Mathlib.Data.List.Basic

/-!
# Runs of a partial step function

A system is a partial step function `step : σ → ℓ → Option σ`: in a state, an action either leads to
one next state or is not possible.  `run step s as` performs a list of actions.  A condition on the
state before a step and its action restricts the runs: `Guarded step C s as` says that every step of
the run meets `C`.  The rules below turn what one step preserves into what every run preserves.
-/

namespace ImmoApp

open List Option

variable {σ ℓ : Type*}

/-- The state after a list of actions, if every one of them was possible. -/
def run (step : σ → ℓ → Option σ) : σ → List ℓ → Option σ
  | s, [] => some s
  | s, a :: as => (step s a).bind fun t => run step t as

/-- Every step of the run from `s` meets `C` in the state before it. -/
def Guarded (step : σ → ℓ → Option σ) (C : σ → ℓ → Prop) : σ → List ℓ → Prop
  | _, [] => True
  | s, a :: as => C s a ∧ ∀ t, step s a = some t → Guarded step C t as

variable {step : σ → ℓ → Option σ} {C : σ → ℓ → Prop}

/-- On a concrete run the condition can be checked. -/
instance Guarded.instDecidable [∀ s a, Decidable (C s a)] :
    ∀ (s : σ) (as : List ℓ), Decidable (Guarded step C s as)
  | _, [] => .isTrue trivial
  | s, a :: as =>
    match h : step s a with
    | none => decidable_of_iff (C s a) (by simp [Guarded, h])
    | some t =>
      haveI := Guarded.instDecidable t as
      decidable_of_iff (C s a ∧ Guarded step C t as) (by simp [Guarded, h])

@[simp] lemma run_nil (s : σ) : run step s [] = some s := rfl

lemma run_cons (s : σ) (a : ℓ) (as : List ℓ) : run step s (a :: as) = (step s a).bind fun t => run step t as := rfl

variable {as bs : List ℓ}

lemma run_cons_eq_some {s u : σ} {a : ℓ} :
    run step s (a :: as) = some u ↔ ∃ t, step s a = some t ∧ run step t as = some u := by
  rw [run_cons, bind_eq_some_iff]

lemma run_append_eq_some {s u : σ} :
    run step s (as ++ bs) = some u ↔ ∃ t, run step s as = some t ∧ run step t bs = some u := by
  induction as generalizing s with
  | nil => simp
  | cons _ _ ih =>
    rw [cons_append, run_cons_eq_some]
    constructor
    · rintro ⟨t, ht, hu⟩
      obtain ⟨v, hv, hvu⟩ := ih.mp hu
      exact ⟨v, run_cons_eq_some.mpr ⟨t, ht, hv⟩, hvu⟩
    · rintro ⟨v, hv, hvu⟩
      obtain ⟨t, ht, htv⟩ := run_cons_eq_some.mp hv
      exact ⟨t, ht, ih.mpr ⟨v, htv, hvu⟩⟩

/-- The invariant rule: what every step meeting the condition preserves holds along the run. -/
theorem run_invariant {P : σ → Prop} (hstep : ∀ s a t, P s → C s a → step s a = some t → P t)
    {s u : σ} (hs : P s) (hg : Guarded step C s as) (hrun : run step s as = some u) :
    P u := by
  induction as generalizing s with
  | nil =>
    cases hrun
    exact hs
  | cons a _ ih =>
    obtain ⟨t, ht, hu⟩ := run_cons_eq_some.mp hrun
    exact ih (hstep s a t hs hg.1 ht) (hg.2 t ht) hu

lemma guarded_append {s : σ} : Guarded step C s (as ++ bs) ↔
      Guarded step C s as ∧ ∀ t, run step s as = some t → Guarded step C t bs := by
  induction as generalizing s with
  | nil => simp [Guarded]
  | cons _ _ ih =>
    constructor
    · rintro ⟨hc, hrest⟩
      refine ⟨⟨hc, fun t ht => (ih.mp (hrest t ht)).1⟩, fun u hu => ?_⟩
      obtain ⟨t, ht, htu⟩ := run_cons_eq_some.mp hu
      exact (ih.mp (hrest t ht)).2 u htu
    · rintro ⟨⟨hc, has⟩, hbs⟩
      refine ⟨hc, fun t ht => ih.mpr ⟨has t ht, fun u hu => ?_⟩⟩
      exact hbs u (run_cons_eq_some.mpr ⟨t, ht, hu⟩)

lemma Guarded.and_forall {D : ℓ → Prop} {s : σ} (hg : Guarded step C s as)
    (hD : ∀ a ∈ as, D a) : Guarded step (fun s a => C s a ∧ D a) s as := by
  induction as generalizing s with
  | nil => trivial
  | cons a _ ih =>
    refine ⟨⟨hg.1, hD a mem_cons_self⟩, fun t ht => ?_⟩
    exact ih (hg.2 t ht) fun a' ha' => hD a' (mem_cons_of_mem a ha')

lemma guarded_true (s : σ) (as : List ℓ) : Guarded step (fun _ _ => True) s as := by
  induction as generalizing s with
  | nil => trivial
  | cons _ _ ih => exact ⟨trivial, fun t _ => ih t⟩

/-- The invariant rule for runs without a condition. -/
theorem run_invariant_of_step {P : σ → Prop} (hstep : ∀ s a t, P s → step s a = some t → P t)
    {s u : σ} (hs : P s) (hrun : run step s as = some u) : P u :=
  run_invariant (fun s a t hs _ => hstep s a t hs) hs (guarded_true s as) hrun

/-- What an invariant and the condition of a step imply holds at every step of a guarded run. -/
theorem Guarded.of_invariant {P : σ → Prop} {D : σ → ℓ → Prop}
    (hstep : ∀ s a t, P s → C s a → step s a = some t → P t) (hD : ∀ s a, P s → C s a → D s a)
    {s : σ} (hs : P s) (hg : Guarded step C s as) : Guarded step D s as := by
  induction as generalizing s with
  | nil => trivial
  | cons a _ ih =>
    exact ⟨hD s a hs hg.1, fun t ht => ih (hstep s a t hs hg.1 ht) (hg.2 t ht)⟩

/-- Where the condition says exactly which steps keep a property, the property holds in every state of a run
exactly when every step meets the condition. -/
theorem holds_along_iff {I P : σ → Prop} (hinv : ∀ s a t, I s → step s a = some t → I t)
    (hiff : ∀ s a t, I s → P s → step s a = some t → (P t ↔ C s a)) (hnone : ∀ s a, step s a = none → C s a)
    {s : σ} (hs : I s) (hP : P s) :
    (∀ before t, before <+: as → run step s before = some t → P t) ↔ Guarded step C s as := by
  induction as generalizing s with
  | nil =>
    refine ⟨fun _ => trivial, fun _ before t hbefore hrun => ?_⟩
    obtain rfl := prefix_nil.mp hbefore
    cases hrun
    exact hP
  | cons a _ ih =>
    constructor
    · intro halong
      have hnext : ∀ t, step s a = some t → P t := fun t ht =>
        halong [a] t (by simp) (run_cons_eq_some.mpr ⟨t, ht, rfl⟩)
      refine ⟨?_, fun t ht => (ih (hinv s a t hs ht) (hnext t ht)).mp fun before u hbefore hrun => ?_⟩
      · rcases hstep : step s a with _ | t
        · exact hnone s a hstep
        · exact (hiff s a t hs hP hstep).mp (hnext t hstep)
      · exact halong (a :: before) u (cons_prefix_cons.mpr ⟨rfl, hbefore⟩)
          (run_cons_eq_some.mpr ⟨t, ht, hrun⟩)
    · rintro ⟨hc, hrest⟩ before u hbefore hrun
      rcases before with _ | ⟨b, before⟩
      · cases hrun
        exact hP
      · obtain ⟨rfl, htail⟩ := cons_prefix_cons.mp hbefore
        obtain ⟨t, ht, hrun⟩ := run_cons_eq_some.mp hrun
        exact (ih (hinv s b t hs ht) ((hiff s b t hs hP ht).mpr hc)).mpr (hrest t ht) before u htail hrun

/-- Along a run that comes to its end, the condition matters for the steps that are possible only. -/
lemma guarded_possible_iff {s u : σ} (hrun : run step s as = some u) :
    Guarded step (fun s a => (step s a).isSome → C s a) s as ↔ Guarded step C s as := by
  induction as generalizing s with
  | nil => exact Iff.rfl
  | cons a _ ih =>
    obtain ⟨t, ht, hrest⟩ := run_cons_eq_some.mp hrun
    have hpossible : (step s a).isSome = true := by rw [ht, isSome_some]
    refine and_congr ⟨fun h => h hpossible, fun h _ => h⟩ (forall_congr' fun v => ?_)
    constructor
    · intro hv hstep
      obtain rfl : t = v := some.inj (ht.symm.trans hstep)
      exact (ih hrest).mp (hv hstep)
    · intro hv hstep
      obtain rfl : t = v := some.inj (ht.symm.trans hstep)
      exact (ih hrest).mpr (hv hstep)

/-- The same along a run that comes to its end, whatever the condition says of steps that are not possible. -/
theorem holds_along_run_iff {I P : σ → Prop} (hinv : ∀ s a t, I s → step s a = some t → I t)
    (hiff : ∀ s a t, I s → P s → step s a = some t → (P t ↔ C s a)) {s u : σ} (hs : I s) (hP : P s)
    (hrun : run step s as = some u) :
    (∀ before t, before <+: as → run step s before = some t → P t) ↔ Guarded step C s as := by
  rw [← guarded_possible_iff hrun]
  refine holds_along_iff hinv (fun s a t hs hP ht => ?_) (fun s a hnone hsome => ?_) hs hP
  · rw [hiff s a t hs hP ht, ht]
    exact ⟨fun h _ => h, fun h => h rfl⟩
  · rw [hnone] at hsome
    cases hsome

end ImmoApp
