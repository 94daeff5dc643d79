import ImmoApp.Foundation.Tables
import Mathlib.Algebra.Order.BigOperators.Group.List
import Mathlib.Algebra.Order.Group.Nat
import Mathlib.Algebra.Ring.Nat

/-!
# Transactions that commit one by one

A program performs transactions that commit by themselves, and stops at the first one that raises: what it leaves behind
is what the transactions before that one wrote.

A measure that every successful transaction raises, such as `Table.writes`, stays as it was exactly when the very first
transaction is the one that raises.
-/

namespace ImmoApp

open List

variable {σ ε α : Type*}

def commitEach : List (σ → Except ε σ) → σ → σ × Option ε
  | [], s => (s, none)
  | t :: ts, s =>
    match t s with
    | .ok s' => commitEach ts s'
    | .error e => (s, some e)

/-- The transactions succeed one after the other. -/
def AcceptedEach : List (σ → Except ε σ) → σ → Prop
  | [], _ => True
  | t :: ts, s => ∃ s', t s = .ok s' ∧ AcceptedEach ts s'

section Commits

variable {t : σ → Except ε σ} {ts : List (σ → Except ε σ)} {s s' : σ} {e : ε} {μ : σ → ℕ}

@[simp] lemma commitEach_nil (s : σ) : commitEach ([] : List (σ → Except ε σ)) s = (s, none) := rfl

lemma commitEach_cons_ok (h : t s = .ok s') : commitEach (t :: ts) s = commitEach ts s' := by
  rw [commitEach, h]

lemma commitEach_cons_error (h : t s = .error e) : commitEach (t :: ts) s = (s, some e) := by
  rw [commitEach, h]

lemma commitEach_snd_eq_none_iff : (commitEach ts s).2 = none ↔ AcceptedEach ts s := by
  induction ts generalizing s with
  | nil => simp [AcceptedEach]
  | cons t _ ih =>
    cases h : t s with
    | ok => simp [commitEach_cons_ok h, AcceptedEach, h, ih]
    | error => simp [commitEach_cons_error h, AcceptedEach, h]

lemma le_commitEach (hμ : ∀ t ∈ ts, ∀ s s', t s = .ok s' → μ s < μ s') : μ s ≤ μ (commitEach ts s).1 := by
  induction ts generalizing s with
  | nil => exact le_rfl
  | cons t _ ih =>
    cases h : t s with
    | ok s' =>
      rw [commitEach_cons_ok h]
      exact (hμ t mem_cons_self s s' h).le.trans (ih fun t ht => hμ t (mem_cons_of_mem _ ht))
    | error => rw [commitEach_cons_error h]

lemma lt_commitEach (hμ : ∀ t ∈ ts, ∀ s s', t s = .ok s' → μ s < μ s') (hts : ts ≠ [])
    (hfirst : ∀ t ∈ ts.head?, ∀ e, t s ≠ .error e) : μ s < μ (commitEach ts s).1 := by
  cases ts with
  | nil => exact absurd rfl hts
  | cons t =>
    cases h : t s with
    | ok s' =>
      rw [commitEach_cons_ok h]
      exact (hμ t mem_cons_self s s' h).trans_le (le_commitEach fun t ht => hμ t (mem_cons_of_mem _ ht))
    | error e => exact absurd h (hfirst t rfl e)

lemma commitEach_of_head_error (hfirst : ∃ t ∈ ts.head?, ∃ e, t s = .error e) : (commitEach ts s).1 = s := by
  obtain ⟨t, ht, e, he⟩ := hfirst
  cases ts with
  | nil => simp at ht
  | cons =>
    obtain ⟨⟩ := ht
    rw [commitEach_cons_error he]

lemma lt_of_foldlM_ok {f : σ → α → Except ε σ} {l : List α} (hl : l ≠ [])
    (hμ : ∀ a ∈ l, ∀ s s', f s a = .ok s' → μ s < μ s') (h : l.foldlM f s = .ok s') : μ s < μ s' := by
  induction l generalizing s with
  | nil => exact absurd rfl hl
  | cons a l ih =>
    rw [foldlM_cons] at h
    cases hstep : f s a with
    | error =>
      rw [hstep] at h
      cases h
    | ok s₁ =>
      rw [hstep] at h
      have hlt := hμ a mem_cons_self s s₁ hstep
      by_cases hnil : l = []
      · subst hnil
        obtain rfl : s₁ = s' := Except.ok.inj h
        exact hlt
      · exact hlt.trans (ih hnil (fun a ha => hμ a (mem_cons_of_mem _ ha)) h)

lemma ne_nil_of_mapM_ok {β : Type*} {f : α → Except ε β} {l : List α} {r : List β} (hl : l ≠ [])
    (h : l.mapM f = .ok r) : r ≠ [] := by
  cases l with
  | nil => exact absurd rfl hl
  | cons a l =>
    rw [mapM_cons] at h
    cases hstep : f a with
    | error =>
      rw [hstep] at h
      cases h
    | ok b =>
      rw [hstep] at h
      cases hrest : l.mapM f with
      | error =>
        rw [hrest] at h
        cases h
      | ok bs =>
        rw [hrest] at h
        obtain rfl : b :: bs = r := Except.ok.inj h
        exact cons_ne_nil b bs

end Commits

namespace Table

variable {κ : Type*} {t : Table κ}

def writes (t : Table κ) : ℕ := (t.rows.map fun r => r.rowVersion + 1).sum

@[simp] lemma writes_insert (columns : κ) (now : ℕ) : (t.insert columns now).writes = t.writes + 2 := by
  simp [writes, insert]

lemma writes_lt_update {p : Row κ → Bool} {f : Row κ → Row κ} (h : ∀ r, (f r).rowVersion = r.rowVersion)
    (hsel : ∃ r ∈ t.rows, p r = true) : t.writes < (t.update p fun r => (f r).bump).writes := by
  rw [writes, writes, update, map_map]
  refine sum_lt_sum _ _ (fun r _ => ?_) ?_
  · by_cases hp : p r = true <;> simp [assign, hp, Row.bump, h]
  · obtain ⟨r, hr, hp⟩ := hsel
    exact ⟨r, hr, by simp [assign, hp, Row.bump, h]⟩

end Table

end ImmoApp
