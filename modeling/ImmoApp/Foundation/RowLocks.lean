import ImmoApp.Foundation.Dict

/-!
# Row locks

Transactions that run side by side lock the rows they read for update or write, until they end.  A transaction
stands at a phase, and `locks` names the rows it has locked there.  A row is locked when no other transaction has
it; then no row is ever locked twice (`LockedOnce`).
-/

namespace ImmoApp

section RowLocks

variable {π ρ : Type*} (locks : π → List ρ)

def Unlocked (txs : Dict ℕ π) (tx : ℕ) (row : ρ) : Prop := ∀ e ∈ txs, e.1 ≠ tx → row ∉ locks e.2

instance [DecidableEq ρ] (txs : Dict ℕ π) (tx : ℕ) (row : ρ) : Decidable (Unlocked locks txs tx row) := by
  unfold Unlocked
  infer_instance

def LockedOnce (txs : Dict ℕ π) : Prop := ∀ e ∈ txs, ∀ row ∈ locks e.2, Unlocked locks txs e.1 row

variable {locks} {txs : Dict ℕ π} {tx : ℕ} {phase : π}

lemma lockedOnce_nil : LockedOnce locks [] := by
  intro e he
  cases he

lemma LockedOnce.eq (h : LockedOnce locks txs) {e e' : ℕ × π} (he : e ∈ txs) (he' : e' ∈ txs) {row : ρ}
    (hrow : row ∈ locks e.2) (hrow' : row ∈ locks e'.2) : e'.1 = e.1 := by
  by_contra hne
  exact h e he row hrow e' he' hne hrow'

lemma LockedOnce.set (h : LockedOnce locks txs) (hfree : ∀ row ∈ locks phase, Unlocked locks txs tx row) :
    LockedOnce locks (txs.set tx phase) := by
  intro e he row hrow e' he' hne hrow'
  rcases Dict.mem_set.mp he with rfl | ⟨hmem, htx⟩
  · rcases Dict.mem_set.mp he' with rfl | ⟨hmem', htx'⟩
    · exact hne rfl
    · exact hfree row hrow e' hmem' htx' hrow'
  · rcases Dict.mem_set.mp he' with rfl | ⟨hmem', -⟩
    · exact hfree row hrow' e hmem htx hrow
    · exact h e hmem row hrow e' hmem' hne hrow'

lemma LockedOnce.erase (h : LockedOnce locks txs) (tx : ℕ) : LockedOnce locks (txs.erase tx) :=
  fun e he row hrow e' he' =>
    h e (Dict.mem_erase.mp he).1 row hrow e' (Dict.mem_erase.mp he').1

end RowLocks

end ImmoApp
