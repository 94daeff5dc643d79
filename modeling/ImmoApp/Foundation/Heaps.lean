import Mathlib.Data.List.Sort

/-!
# Priority queues

`Heap α` is a queue from which the smallest item is taken first, as `heapq` documents it: the items are kept
in order, so that the first is the smallest one.  `popWhile` is the loop `while heap and p(heap[0])` around
`heappop`: it takes items as long as they satisfy a condition and hands each to a function.
-/

namespace ImmoApp

open List

structure Heap (α : Type*) [LinearOrder α] where
  items : List α
  sorted : items.Pairwise (· ≤ ·)

namespace Heap

variable {α : Type*} [LinearOrder α] {σ : Type*}

def empty : Heap α := ⟨[], List.Pairwise.nil⟩

/-- `heapify`. -/
def ofList (l : List α) : Heap α := ⟨l.insertionSort (· ≤ ·), List.pairwise_insertionSort _ l⟩

/-- `heappush`. -/
def push (a : α) (h : Heap α) : Heap α := ⟨h.items.orderedInsert (· ≤ ·) a, h.sorted.orderedInsert a _⟩

def size (h : Heap α) : ℕ := h.items.length

def Mem (a : α) (h : Heap α) : Prop := a ∈ h.items

@[simp] lemma mem_ofList {a : α} {l : List α} : (ofList l).Mem a ↔ a ∈ l := mem_insertionSort _

@[simp] lemma mem_push {a b : α} {h : Heap α} : (h.push b).Mem a ↔ a = b ∨ h.Mem a :=
  mem_orderedInsert _

@[simp] lemma size_ofList (l : List α) : (ofList l).size = l.length := length_insertionSort _ l

/-- Take items from the front of a list as long as `p` holds, and hand each to `f`. -/
def popItems (p : α → Bool) (f : α → σ → σ) : List α → σ → List α × σ
  | [], s => ([], s)
  | a :: rest, s => if p a then popItems p f rest (f a s) else (a :: rest, s)

omit [LinearOrder α] in
lemma popItems_suffix (p : α → Bool) (f : α → σ → σ) (l : List α) (s : σ) : (popItems p f l s).1 <:+ l := by
  induction l generalizing s with
  | nil => exact suffix_refl []
  | cons a rest ih =>
    rw [popItems]
    split
    · exact (ih (f a s)).trans (suffix_cons a rest)
    · exact suffix_refl _

/-- `while heap and p(heap[0]): f(heappop(heap))`. -/
def popWhile (p : α → Bool) (f : α → σ → σ) (h : Heap α) (s : σ) : Heap α × σ :=
  let left := popItems p f h.items s
  (⟨left.1, h.sorted.sublist (popItems_suffix p f h.items s).sublist⟩, left.2)

/-- The invariant rule of the loop: what holds of the items and the state, and still holds when the first item
is handed over, holds in the end. -/
theorem popWhile_invariant {p : α → Bool} {f : α → σ → σ} {P : List α → σ → Prop}
    (hstep : ∀ a rest s, p a = true → P (a :: rest) s → P rest (f a s)) {h : Heap α} {s : σ}
    (hP : P h.items s) : P (h.popWhile p f s).1.items (h.popWhile p f s).2 := by
  change P (popItems p f h.items s).1 (popItems p f h.items s).2
  generalize h.items = l at hP
  induction l generalizing s with
  | nil => exact hP
  | cons a rest ih =>
    rw [popItems]
    split
    · next hp => exact ih (hstep a rest s hp hP)
    · exact hP

/-- Nothing that is left satisfies a condition that goes down to smaller items. -/
theorem popWhile_left {p : α → Bool} (hdown : ∀ a b, a ≤ b → p b = true → p a = true) {f : α → σ → σ}
    {h : Heap α} {s : σ} {a : α} (ha : (h.popWhile p f s).1.Mem a) : p a = false := by
  obtain ⟨items, hsorted⟩ := h
  change a ∈ (popItems p f items s).1 at ha
  induction items generalizing s with
  | nil => exact absurd ha not_mem_nil
  | cons b _ ih =>
    rw [popItems] at ha
    split at ha
    · exact ih hsorted.of_cons ha
    · next hp =>
      rw [Bool.eq_false_iff]
      intro hpa
      rcases mem_cons.mp ha with rfl | ha
      · exact hp hpa
      · exact hp (hdown b a (rel_of_pairwise_cons hsorted ha) hpa)

end Heap

end ImmoApp
