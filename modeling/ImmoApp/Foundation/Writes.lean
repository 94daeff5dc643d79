import Mathlib.Data.List.Basic

/-!
# Programs that persist their effects write by write

A program reads a persistent state and performs a list of atomic writes on it, one after the other.
`Prog.exec` is the state after all of them; a process stop leaves the state after an arbitrary
prefix of the list.  `Prog.Always P p s` says that `P` holds after every such prefix, and the rules
below prove it for a composed program from its parts.
-/

namespace ImmoApp

open List

/-- A persistent state `σ` with the atomic writes `ω` that change it. -/
class Persistent (σ : Type) (ω : outParam Type) where
  apply : ω → σ → σ

/-- The state after a list of writes, performed in order. -/
def applyWrites {σ ω : Type} [Persistent σ ω] (ws : List ω) (s : σ) : σ :=
  ws.foldl (fun t w => Persistent.apply w t) s

/-- A program: what it returns and the writes it performs when started in a given state. -/
def Prog (σ ω α : Type) := σ → α × List ω

section Basic

variable {σ ω α β : Type} [Persistent σ ω]

@[simp] lemma applyWrites_nil (s : σ) : applyWrites ([] : List ω) s = s := rfl

@[simp] lemma applyWrites_cons (w : ω) (ws : List ω) (s : σ) :
    applyWrites (w :: ws) s = applyWrites ws (Persistent.apply w s) := rfl

@[simp] lemma applyWrites_append (ws vs : List ω) (s : σ) :
    applyWrites (ws ++ vs) s = applyWrites vs (applyWrites ws s) := by
  unfold applyWrites
  rw [foldl_append]

namespace Prog

def result (p : Prog σ ω α) (s : σ) : α := (p s).1

def trail (p : Prog σ ω α) (s : σ) : List ω := (p s).2

/-- The state once the program has run to its end. -/
def exec (p : Prog σ ω α) (s : σ) : σ := applyWrites (p.trail s) s

/-- Return a value without writing. -/
protected def pure (a : α) : Prog σ ω α := fun _ => (a, [])

/-- Run `p`, then the program chosen by its result in the state `p` leaves. -/
protected def bind (p : Prog σ ω α) (f : α → Prog σ ω β) : Prog σ ω β :=
  fun s =>
    let r := p s
    let q := f r.1 (applyWrites r.2 s)
    (q.1, r.2 ++ q.2)

instance : Monad (Prog σ ω) where
  pure := Prog.pure
  bind := Prog.bind

def write (w : ω) : Prog σ ω Unit := fun _ => ((), [w])

def writes (ws : List ω) : Prog σ ω Unit := fun _ => ((), ws)

def read (f : σ → α) : Prog σ ω α := fun s => (f s, [])

/-- Run a program for every entry of a list, in order. -/
def forEach (f : β → Prog σ ω Unit) : List β → Prog σ ω Unit
  | [] => pure ()
  | x :: xs => f x >>= fun _ => forEach f xs

@[simp] lemma result_pure (a : α) (s : σ) : (pure a : Prog σ ω α).result s = a := rfl
@[simp] lemma exec_pure (a : α) (s : σ) : (pure a : Prog σ ω α).exec s = s := rfl
@[simp] lemma trail_pure (a : α) (s : σ) : (pure a : Prog σ ω α).trail s = [] := rfl

@[simp] lemma result_bind (p : Prog σ ω α) (f : α → Prog σ ω β) (s : σ) :
    (p >>= f).result s = (f (p.result s)).result (p.exec s) := rfl

@[simp] lemma trail_bind (p : Prog σ ω α) (f : α → Prog σ ω β) (s : σ) :
    (p >>= f).trail s = p.trail s ++ (f (p.result s)).trail (p.exec s) := rfl

@[simp] lemma exec_bind (p : Prog σ ω α) (f : α → Prog σ ω β) (s : σ) :
    (p >>= f).exec s = (f (p.result s)).exec (p.exec s) := by
  unfold exec
  rw [trail_bind, applyWrites_append]
  rfl

@[simp] lemma exec_write (w : ω) (s : σ) : (write w : Prog σ ω Unit).exec s = Persistent.apply w s := rfl

@[simp] lemma exec_writes (ws : List ω) (s : σ) : (writes ws : Prog σ ω Unit).exec s = applyWrites ws s := rfl

@[simp] lemma exec_read (f : σ → α) (s : σ) : (read f : Prog σ ω α).exec s = s := rfl

section Trails

omit [Persistent σ ω]

@[simp] lemma trail_write (w : ω) (s : σ) : (write w : Prog σ ω Unit).trail s = [w] := rfl
@[simp] lemma trail_writes (ws : List ω) (s : σ) : (writes ws : Prog σ ω Unit).trail s = ws := rfl
@[simp] lemma trail_read (f : σ → α) (s : σ) : (read f : Prog σ ω α).trail s = [] := rfl
@[simp] lemma result_read (f : σ → α) (s : σ) : (read f : Prog σ ω α).result s = f s := rfl

end Trails

lemma bind_congr_at {p q : Prog σ ω α} {f g : α → Prog σ ω β} {s : σ} (hp : p s = q s)
    (hf : f (p.result s) (p.exec s) = g (p.result s) (p.exec s)) : (p >>= f) s = (q >>= g) s := by
  have hleft : (p >>= f) s = ((f (p.result s) (p.exec s)).1, p.trail s ++ (f (p.result s) (p.exec s)).2) :=
    rfl
  have hright : (q >>= g) s = ((g (q.result s) (q.exec s)).1, q.trail s ++ (g (q.result s) (q.exec s)).2) :=
    rfl
  have hresult : p.result s = q.result s := congrArg Prod.fst hp
  have htrail : p.trail s = q.trail s := congrArg Prod.snd hp
  have hexec : p.exec s = q.exec s := by
    unfold exec
    rw [htrail]
  rw [hleft, hright, ← hresult, ← htrail, ← hexec, hf]

/-- A loop preserves what every pass of it preserves. -/
theorem exec_forEach_induction {P : σ → Prop} (f : β → Prog σ ω Unit) (xs : List β)
    (hstep : ∀ x ∈ xs, ∀ s, P s → P ((f x).exec s)) {s : σ} (hs : P s) :
    P ((forEach f xs).exec s) := by
  induction xs generalizing s with
  | nil => exact hs
  | cons x _ ih =>
    rw [forEach, exec_bind]
    refine ih (fun y hy => hstep y (mem_cons_of_mem _ hy)) ?_
    exact hstep x mem_cons_self s hs

/-! ### Stops between two writes -/

/-- `P` holds after every prefix of the writes of `p`, started in `s`. -/
def Always (P : σ → Prop) (p : Prog σ ω α) (s : σ) : Prop :=
  ∀ k, P (applyWrites ((p.trail s).take k) s)

variable {P : σ → Prop}

lemma Always.exec {p : Prog σ ω α} {s : σ} (h : Always P p s) : P (p.exec s) := by
  simpa [Prog.exec] using h (p.trail s).length

lemma always_pure {a : α} {s : σ} (hs : P s) : Always P (pure a : Prog σ ω α) s := by
  intro k
  simpa using hs

lemma always_read {f : σ → α} {s : σ} (hs : P s) : Always P (read f : Prog σ ω α) s := by
  intro k
  simpa using hs

lemma always_write {w : ω} {s : σ} (hs : P s) (hw : P (Persistent.apply w s)) :
    Always P (write w : Prog σ ω Unit) s := by
  intro k
  cases k with
  | zero => simpa using hs
  | succ => simpa using hw

lemma always_writes {ws : List ω} {s : σ} (hs : P s) (hw : ∀ w ∈ ws, ∀ t, P t → P (Persistent.apply w t)) :
    Always P (writes ws : Prog σ ω Unit) s := by
  intro k
  rw [trail_writes]
  induction ws generalizing s k with
  | nil => simpa using hs
  | cons w _ ih =>
    cases k with
    | zero => simpa using hs
    | succ k =>
      exact ih (hw w mem_cons_self s hs) (fun v hv => hw v (mem_cons_of_mem _ hv)) k

lemma always_bind {p : Prog σ ω α} {f : α → Prog σ ω β} {s : σ} (hp : Always P p s)
    (hf : Always P (f (p.result s)) (p.exec s)) : Always P (p >>= f) s := by
  intro k
  rw [trail_bind, take_append, applyWrites_append]
  by_cases hk : k ≤ (p.trail s).length
  · rw [Nat.sub_eq_zero_of_le hk]
    simpa using hp k
  · rw [take_of_length_le (l := p.trail s) (by omega)]
    exact hf _

lemma Always.mono {Q : σ → Prop} {p : Prog σ ω α} {s : σ} (h : Always P p s) (himp : ∀ t, P t → Q t) : Always Q p s :=
  fun k => himp _ (h k)

lemma always_forEach {f : β → Prog σ ω Unit} {xs : List β}
    (hstep : ∀ x ∈ xs, ∀ s, P s → Always P (f x) s) {s : σ} (hs : P s) :
    Always P (forEach f xs) s := by
  induction xs generalizing s with
  | nil => exact always_pure hs
  | cons x _ ih =>
    have hx := hstep x mem_cons_self s hs
    exact always_bind hx (ih (fun y hy => hstep y (mem_cons_of_mem _ hy)) hx.exec)

/-- `P` holds after every prefix of at least `n` of the writes of `p`, started in `s`. -/
def AlwaysFrom (n : ℕ) (P : σ → Prop) (p : Prog σ ω α) (s : σ) : Prop :=
  ∀ k, n ≤ k → P (applyWrites ((p.trail s).take k) s)

lemma AlwaysFrom.exec {n : ℕ} {p : Prog σ ω α} {s : σ} (h : AlwaysFrom n P p s) : P (p.exec s) := by
  have hend := h (max n (p.trail s).length) (Nat.le_max_left _ _)
  rwa [take_of_length_le (Nat.le_max_right _ _)] at hend

lemma alwaysFrom_bind {n : ℕ} {p : Prog σ ω α} {f : α → Prog σ ω β} {s : σ}
    (hf : AlwaysFrom n P (f (p.result s)) (p.exec s)) :
    AlwaysFrom ((p.trail s).length + n) P (p >>= f) s := by
  intro k hk
  rw [trail_bind, take_append, applyWrites_append, take_of_length_le (l := p.trail s) (by omega)]
  exact hf _ (by omega)

lemma AlwaysFrom.bind {n : ℕ} {p : Prog σ ω α} {f : α → Prog σ ω β} {s : σ}
    (hp : AlwaysFrom n P p s) (hf : Always P (f (p.result s)) (p.exec s)) :
    AlwaysFrom n P (p >>= f) s := by
  intro k hk
  rw [trail_bind, take_append, applyWrites_append]
  by_cases hle : k ≤ (p.trail s).length
  · rw [Nat.sub_eq_zero_of_le hle]
    simpa using hp k hk
  · rw [take_of_length_le (l := p.trail s) (by omega)]
    exact hf _

lemma alwaysFrom_write {w : ω} {s : σ} (hw : P (Persistent.apply w s)) :
    AlwaysFrom 1 P (write w : Prog σ ω Unit) s := by
  intro k hk
  obtain ⟨k, rfl⟩ : ∃ j, k = j + 1 := ⟨k - 1, by omega⟩
  simpa using hw

end Prog

end Basic

end ImmoApp
