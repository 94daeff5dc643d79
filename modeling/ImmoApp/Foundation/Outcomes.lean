import Mathlib.Data.List.Forall2

/-!
# Loops with an outcome for each item

A loop that comes to one outcome for every item, and posts it to a record that it keeps, has posted a list of outcomes
when it is through, one for each item and in their order.
-/

namespace ImmoApp.Outcomes

variable {σ τ α ο : Type*}

/-- If every step posts the outcome of its item to what `view` shows of the state, then so does the loop. -/
theorem exists_outcomes {step : σ → α → Option σ} (view : σ → τ) (post : τ → ο → τ) (R : α → ο → Prop)
    (hstep : ∀ s a t, step s a = some t → ∃ o, R a o ∧ view t = post (view s) o) {items : List α} {s t : σ}
    (h : items.foldlM step s = some t) :
    ∃ outcomes, List.Forall₂ R items outcomes ∧ view t = outcomes.foldl post (view s) := by
  induction items generalizing s with
  | nil =>
    obtain ⟨⟩ := h
    exact ⟨[], List.Forall₂.nil, rfl⟩
  | cons a _ ih =>
    rw [List.foldlM_cons] at h
    obtain ⟨u, hu, hrest⟩ := Option.bind_eq_some_iff.mp h
    obtain ⟨o, ho, hview⟩ := hstep s a u hu
    obtain ⟨outcomes, houtcomes, hfold⟩ := ih hrest
    exact ⟨o :: outcomes, List.Forall₂.cons ho houtcomes, by rw [hfold, hview, List.foldl_cons]⟩

end ImmoApp.Outcomes
