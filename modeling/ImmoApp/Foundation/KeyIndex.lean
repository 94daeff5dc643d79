import ImmoApp.Foundation.Dict

/-!
# Indexes over several keys

Items come in chunks.  An item may have a value, and is entered in an index under each of its keys; the indexes of the
chunks are merged.  Later entries overwrite earlier ones, within a chunk and over chunks, so that a key leads to the
last item of all chunks that has it (`get?_indexChunks`).
-/

namespace ImmoApp.KeyIndex

open List Option

variable {ι κ β : Type*} [DecidableEq κ]

def setAll (d : Dict κ β) (ks : List κ) (v : β) : Dict κ β := ks.foldl (fun d k => d.set k v) d

variable (keys : ι → List κ) (value : ι → Option β)

def enter (d : Dict κ β) (i : ι) : Dict κ β := (value i).elim d fun v => setAll d (keys i) v

def index (items : List ι) : Dict κ β := items.foldl (enter keys value) []

def indexChunks (chunks : List (List ι)) : Dict κ β := (chunks.map (index keys value)).foldl Dict.update []

def has (k : κ) (i : ι) : Bool := (value i).isSome && decide (k ∈ keys i)

variable {keys value}

lemma get?_setAll (d : Dict κ β) (ks : List κ) (v : β) (k : κ) :
    (setAll d ks v).get? k = if k ∈ ks then some v else d.get? k := by
  induction ks generalizing d with
  | nil => rfl
  | cons k' ks ih =>
    rw [setAll, foldl_cons]
    change (setAll (d.set k' v) ks v).get? k = _
    rw [ih, Dict.get?_set]
    by_cases hmem : k ∈ ks
    · rw [if_pos hmem, if_pos (mem_cons_of_mem k' hmem)]
    · rw [if_neg hmem]
      by_cases heq : k = k'
      · rw [if_pos heq, if_pos (by rw [heq]; exact mem_cons_self)]
      · rw [if_neg heq, if_neg fun hcons => (mem_cons.mp hcons).elim heq hmem]

lemma get?_enter (d : Dict κ β) (i : ι) (k : κ) :
    (enter keys value d i).get? k = if has keys value k i then value i else d.get? k := by
  unfold enter has
  cases hvalue : value i with
  | none => rfl
  | some v =>
    change (setAll d (keys i) v).get? k = _
    rw [get?_setAll]
    by_cases hmem : k ∈ keys i <;> simp [hmem]

def lastWith (keys : ι → List κ) (value : ι → Option β) (items : List ι) (k : κ) : Option ι :=
  (items.filter (has keys value k)).getLast?

lemma exists_value_of_lastWith {items : List ι} {k : κ} {i : ι} (h : lastWith keys value items k = some i) :
    i ∈ items ∧ k ∈ keys i ∧ ∃ v, value i = some v := by
  obtain ⟨hmem, hhas⟩ := mem_filter.mp (mem_of_getLast? h)
  obtain ⟨hvalue, hkey⟩ := Bool.and_eq_true_iff.mp hhas
  exact ⟨hmem, of_decide_eq_true hkey, isSome_iff_exists.mp hvalue⟩

lemma lastWith_append (items items' : List ι) (k : κ) :
    lastWith keys value (items ++ items') k = (lastWith keys value items' k).or (lastWith keys value items k) := by
  rw [lastWith, filter_append, getLast?_append]
  rfl

lemma get?_foldl_enter (items : List ι) (d : Dict κ β) (k : κ) :
    (items.foldl (enter keys value) d).get? k = ((lastWith keys value items k).bind value).or (d.get? k) := by
  induction items generalizing d with
  | nil => rfl
  | cons i items ih =>
    rw [foldl_cons, ih, get?_enter, ← singleton_append, lastWith_append]
    cases hlast : lastWith keys value items k with
    | some =>
      obtain ⟨-, -, v, hv⟩ := exists_value_of_lastWith hlast
      simp [hv]
    | none =>
      cases hhas : has keys value k i with
      | false => simp [lastWith, hhas]
      | true =>
        obtain ⟨v, hv⟩ := isSome_iff_exists.mp (Bool.and_eq_true_iff.mp hhas).1
        simp [lastWith, hhas, hv]

/-- A key leads to the last item of all chunks that has it. -/
theorem get?_indexChunks (chunks : List (List ι)) (k : κ) :
    (indexChunks keys value chunks).get? k = (lastWith keys value chunks.flatten k).bind value := by
  suffices hfold : ∀ d : Dict κ β, ((chunks.map (index keys value)).foldl Dict.update d).get? k =
      ((lastWith keys value chunks.flatten k).bind value).or (d.get? k) by
    rw [indexChunks, hfold, Dict.get?_nil, or_none]
  induction chunks with
  | nil => exact fun d => rfl
  | cons _ chunks ih =>
    intro d
    rw [map_cons, foldl_cons, ih, Dict.get?_update, index, get?_foldl_enter, Dict.get?_nil, or_none,
      flatten_cons, lastWith_append]
    cases hlast : lastWith keys value chunks.flatten k with
    | none => rfl
    | some =>
      obtain ⟨-, -, v, hv⟩ := exists_value_of_lastWith hlast
      simp [hv]

lemma exists_of_get?_indexChunks {chunks : List (List ι)} {k : κ} {v : β}
    (h : (indexChunks keys value chunks).get? k = some v) : ∃ i ∈ chunks.flatten, value i = some v ∧ k ∈ keys i := by
  rw [get?_indexChunks, bind_eq_some_iff] at h
  obtain ⟨i, hlast, hv⟩ := h
  obtain ⟨hmem, hkey, -⟩ := exists_value_of_lastWith hlast
  exact ⟨i, hmem, hv, hkey⟩

lemma get?_indexChunks_eq_none_iff {chunks : List (List ι)} {k : κ} :
    (indexChunks keys value chunks).get? k = none ↔ ∀ i ∈ chunks.flatten, ∀ v, value i = some v → k ∉ keys i := by
  constructor
  · intro hnone i hi v hv hk
    rw [get?_indexChunks] at hnone
    have hmem : i ∈ chunks.flatten.filter (has keys value k) :=
      mem_filter.mpr ⟨hi, by simp [has, hv, hk]⟩
    cases hlast : lastWith keys value chunks.flatten k with
    | none =>
      rw [getLast?_eq_none_iff.mp hlast] at hmem
      cases hmem
    | some =>
      obtain ⟨-, -, w, hw⟩ := exists_value_of_lastWith hlast
      rw [hlast, bind_some, hw] at hnone
      cases hnone
  · intro hnone
    cases hget : (indexChunks keys value chunks).get? k with
    | none => rfl
    | some v =>
      obtain ⟨i, hi, hv, hk⟩ := exists_of_get?_indexChunks hget
      exact absurd hk (hnone i hi v hv)

end ImmoApp.KeyIndex
