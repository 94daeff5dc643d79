import ImmoApp.Foundation.Dict

/-!
# Caches that forget

A cache is an ordered dictionary whose first entries have been used least recently.  A value that is remembered goes
to the end, and so does one that is recalled; where there are too many, the first ones are forgotten.

Forgetting and reordering invent nothing: what holds of every value that is remembered holds of every value that is
recalled (`Holds`).
-/

namespace ImmoApp.Recency

open List

variable {κ β : Type*}

/-- Every value of the cache is one that its key may have. -/
def Holds (allowed : κ → β → Prop) (c : Dict κ β) : Prop := ∀ e ∈ c, allowed e.1 e.2

variable {allowed allowed' : κ → β → Prop} {c : Dict κ β} {k : κ} {v : β}

lemma holds_nil : Holds allowed ([] : Dict κ β) := fun _ he => absurd he not_mem_nil

lemma Holds.mono (h : Holds allowed c) (hsub : ∀ k v, allowed k v → allowed' k v) : Holds allowed' c :=
  fun e he => hsub e.1 e.2 (h e he)

variable [DecidableEq κ]

def touch (k : κ) (v : β) (c : Dict κ β) : Dict κ β := (c.filter fun e => e.1 ≠ k) ++ [(k, v)]

/-- Remember a value, and forget the first ones while there are more than `capacity`. -/
def remember (capacity : ℕ) (k : κ) (v : β) (c : Dict κ β) : Dict κ β :=
  (touch k v c).drop ((touch k v c).length - capacity)

def retrieve (k : κ) (c : Dict κ β) : Option β × Dict κ β :=
  match c.get? k with
  | none => (none, c)
  | some v => (some v, touch k v c)

lemma Holds.touch (h : Holds allowed c) (hv : allowed k v) : Holds allowed (Recency.touch k v c) := by
  intro e he
  rcases mem_append.mp he with he | he
  · exact h e (mem_filter.mp he).1
  · rw [mem_singleton.mp he]
    exact hv

lemma Holds.remember (h : Holds allowed c) (capacity : ℕ) (hv : allowed k v) :
    Holds allowed (Recency.remember capacity k v c) :=
  fun e he => h.touch hv e (mem_of_mem_drop he)

lemma get?_remember_self {capacity : ℕ} (hcapacity : 0 < capacity) (k : κ) (v : β) (c : Dict κ β) :
    (remember capacity k v c).get? k = some v := by
  unfold Recency.remember Recency.touch
  generalize hkept : (c.filter fun e => e.1 ≠ k) = kept
  have hshort : (kept ++ [(k, v)]).length - capacity ≤ kept.length := by
    rw [length_append, length_singleton]
    omega
  have hfresh : Dict.get? (kept.drop ((kept ++ [(k, v)]).length - capacity)) k = none := by
    refine Dict.get?_eq_none_iff.mpr fun e he => ?_
    rw [← hkept] at he
    exact of_decide_eq_true (mem_filter.mp (mem_of_mem_drop he)).2
  rw [drop_append_of_le_length hshort, Dict.get?_append, hfresh]
  exact lookup_cons_self

lemma Holds.recalled (h : Holds allowed c) (hv : (retrieve k c).1 = some v) : allowed k v := by
  unfold Recency.retrieve at hv
  cases hget : c.get? k with
  | none =>
    rw [hget] at hv
    cases hv
  | some w =>
    rw [hget] at hv
    obtain rfl := Option.some.inj hv
    exact h (k, w) (Dict.mem_of_get? hget)

lemma Holds.retrieve (h : Holds allowed c) (k : κ) : Holds allowed (Recency.retrieve k c).2 := by
  unfold Recency.retrieve
  cases hget : c.get? k with
  | none => exact h
  | some w => exact h.touch (h (k, w) (Dict.mem_of_get? hget))

end ImmoApp.Recency
