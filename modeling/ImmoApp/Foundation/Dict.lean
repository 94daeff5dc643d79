import Mathlib.Data.List.Basic

/-!
# Insertion-ordered dictionaries

A dictionary is the list of its entries in insertion order, read by first match.  `Dict.set` keeps
the position of a key that is already present and appends a new one; `Dict.update` merges a second
dictionary into the first, the entries of the second winning.  The lemmas say what a lookup returns
after each operation, so that callers never look at the list.
-/

namespace ImmoApp

open List Option

/-- A dictionary: its entries in insertion order. -/
abbrev Dict (κ : Type*) (β : Type*) := List (κ × β)

namespace Dict

variable {κ β : Type*} [DecidableEq κ]

/-- The value stored under `k`, if any. -/
def get? (d : Dict κ β) (k : κ) : Option β := List.lookup k d

/-- Store `v` under `k`, in place when `k` is present and at the end otherwise. -/
def set (d : Dict κ β) (k : κ) (v : β) : Dict κ β :=
  if (d.get? k).isSome then d.map fun e => if e.1 = k then (e.1, v) else e else d ++ [(k, v)]

/-- Merge `e` into `d`: keys of `d` keep their position, new keys follow in the order of `e`. -/
def update (d e : Dict κ β) : Dict κ β :=
  d.map (fun x => (x.1, (e.get? x.1).getD x.2)) ++ e.filter fun x => (d.get? x.1).isNone

/-- Forget the entries under `k`. -/
def erase (d : Dict κ β) (k : κ) : Dict κ β := d.filter fun e => e.1 ≠ k

@[simp] lemma get?_nil (k : κ) : get? ([] : Dict κ β) k = none := rfl

lemma get?_cons (k k' : κ) (v : β) (d : Dict κ β) : get? ((k', v) :: d) k = if k = k' then some v else get? d k := by
  unfold get?
  rw [lookup_cons]
  by_cases h : k = k'
  · simp [h]
  · simp [h, beq_eq_false_iff_ne.mpr h]

lemma get?_append (d e : Dict κ β) (k : κ) : get? (d ++ e) k = (get? d k).or (get? e k) := by
  induction d with
  | nil => simp
  | cons x d ih =>
    obtain ⟨_, v⟩ := x
    rw [cons_append, get?_cons, get?_cons, ih]
    split <;> simp

lemma get?_map (f : κ → β → β) (d : Dict κ β) (k : κ) :
    get? (d.map fun x => (x.1, f x.1 x.2)) k = (get? d k).map (f k) := by
  induction d with
  | nil => rfl
  | cons x d ih =>
    obtain ⟨k', v⟩ := x
    rw [map_cons, get?_cons, get?_cons, ih]
    by_cases h : k = k'
    · simp [h]
    · simp [h]

lemma get?_filter (p : κ → Bool) (d : Dict κ β) {k : κ} (hp : p k = true) :
    get? (d.filter fun x => p x.1) k = get? d k := by
  induction d with
  | nil => rfl
  | cons x d ih =>
    obtain ⟨k', v⟩ := x
    rw [filter_cons]
    by_cases h : k = k'
    · subst h
      simp [hp, get?_cons]
    · split
      · rw [get?_cons, get?_cons, ih]
      · rw [get?_cons, if_neg h, ih]

lemma get?_filterMap_keys (f : κ → Option β) (k : κ) : ∀ l : List κ,
    get? (l.filterMap fun k' => (f k').map fun v => (k', v)) k = if k ∈ l then f k else none
  | [] => rfl
  | k' :: l => by
    have ih := get?_filterMap_keys f k l
    rw [filterMap_cons]
    by_cases hk : k = k'
    · subst hk
      rw [if_pos mem_cons_self]
      cases hf : f k with
      | none =>
        rw [map_none]
        dsimp only
        rw [ih, hf, ite_self]
      | some =>
        rw [map_some]
        dsimp only
        rw [get?_cons, if_pos rfl]
    · have hmem : k ∈ k' :: l ↔ k ∈ l := by simp [hk]
      simp only [hmem]
      cases hf : f k' with
      | none =>
        rw [map_none]
        exact ih
      | some =>
        rw [map_some]
        dsimp only
        rw [get?_cons, if_neg hk]
        exact ih

@[simp] lemma get?_update (d e : Dict κ β) (k : κ) : (d.update e).get? k = (e.get? k).or (d.get? k) := by
  unfold update
  rw [get?_append, get?_map (fun k v => (e.get? k).getD v)]
  cases hd : d.get? k with
  | none =>
    rw [get?_filter (fun k => (d.get? k).isNone) e (by simp [hd])]
    simp
  | some => cases e.get? k <;> simp

@[simp] lemma get?_set (d : Dict κ β) (k k' : κ) (v : β) :
    (d.set k v).get? k' = if k' = k then some v else d.get? k' := by
  unfold set
  split
  · next h =>
    have hmap : (d.map fun e => if e.1 = k then (e.1, v) else e)
        = d.map fun x => (x.1, (fun a b => if a = k then v else b) x.1 x.2) := by
      refine map_congr_left fun x _ => ?_
      by_cases hx : x.1 = k <;> simp [hx]
    rw [hmap, get?_map (fun a b => if a = k then v else b)]
    by_cases hk : k' = k
    · subst hk
      obtain ⟨w, hw⟩ := isSome_iff_exists.mp h
      simp [hw]
    · cases d.get? k' <;> simp [hk]
  · next h =>
    have hnone : d.get? k = none := by simpa using h
    rw [get?_append, get?_cons]
    by_cases hk : k' = k
    · subst hk
      simp [hnone]
    · simp [hk]

/-! ### Entries -/

lemma mem_of_get? {d : Dict κ β} {k : κ} {v : β} (h : d.get? k = some v) : (k, v) ∈ d := by
  induction d with
  | nil => cases h
  | cons x d ih =>
    obtain ⟨_, w⟩ := x
    rw [get?_cons] at h
    split at h
    · next hk =>
      cases h
      simp [hk]
    · exact mem_cons_of_mem _ (ih h)

lemma get?_of_mem {d : Dict κ β} (hd : (d.map Prod.fst).Nodup) {k : κ} {v : β} (h : (k, v) ∈ d) :
    d.get? k = some v := by
  induction d with
  | nil => exact absurd h not_mem_nil
  | cons x d ih =>
    obtain ⟨k', w⟩ := x
    rw [map_cons, nodup_cons] at hd
    rw [get?_cons]
    rcases mem_cons.mp h with heq | hmem
    · obtain ⟨rfl, rfl⟩ := Prod.mk.inj heq
      rw [if_pos rfl]
    · have hne : k ≠ k' := by
        rintro rfl
        exact hd.1 (mem_map.mpr ⟨(k, v), hmem, rfl⟩)
      rw [if_neg hne]
      exact ih hd.2 hmem

lemma get?_eq_of_perm {d e : Dict κ β} (hd : (d.map Prod.fst).Nodup) (h : d.Perm e) (k : κ) :
    d.get? k = e.get? k := by
  have he : (e.map Prod.fst).Nodup := (h.map Prod.fst).nodup_iff.mp hd
  refine Option.ext fun v => ?_
  constructor
  · intro hget
    exact get?_of_mem he (h.mem_iff.mp (mem_of_get? hget))
  · intro hget
    exact get?_of_mem hd (h.mem_iff.mpr (mem_of_get? hget))

lemma get?_eq_none_iff {d : Dict κ β} {k : κ} : d.get? k = none ↔ ∀ e ∈ d, e.1 ≠ k := by
  induction d with
  | nil => simp
  | cons x d ih =>
    obtain ⟨k', w⟩ := x
    rw [get?_cons]
    by_cases hk : k = k'
    · simp [hk]
    · simp [hk, ih, Ne.symm hk]

@[simp] lemma mem_erase {d : Dict κ β} {k : κ} {e : κ × β} : e ∈ d.erase k ↔ e ∈ d ∧ e.1 ≠ k := by
  simp [erase]

lemma get?_erase (d : Dict κ β) (k k' : κ) : (d.erase k).get? k' = if k' = k then none else d.get? k' := by
  split
  · next heq =>
    rw [get?_eq_none_iff]
    intro e he
    rw [heq]
    exact (mem_erase.mp he).2
  · next hne => exact get?_filter (fun k' => decide (k' ≠ k)) d (by simpa using hne)

lemma mem_set {d : Dict κ β} {k : κ} {v : β} {e : κ × β} : e ∈ d.set k v ↔ e = (k, v) ∨ (e ∈ d ∧ e.1 ≠ k) := by
  unfold set
  split
  · next h =>
    obtain ⟨w, hw⟩ := isSome_iff_exists.mp h
    have hmem : (k, w) ∈ d := mem_of_get? hw
    rw [List.mem_map]
    constructor
    · rintro ⟨x, hx, rfl⟩
      by_cases hk : x.1 = k
      · left
        simp [hk]
      · right
        simp [hk, hx]
    · rintro (rfl | ⟨he, hk⟩)
      · exact ⟨(k, w), hmem, by simp⟩
      · exact ⟨e, he, by simp [hk]⟩
  · next h =>
    have hnone : ∀ x ∈ d, x.1 ≠ k := get?_eq_none_iff.mp (by simpa using h)
    rw [mem_append, mem_singleton]
    constructor
    · rintro (he | rfl)
      · exact Or.inr ⟨he, hnone e he⟩
      · exact Or.inl rfl
    · rintro (rfl | ⟨he, _⟩)
      · exact Or.inr rfl
      · exact Or.inl he

lemma map_fst_set_of_mem {d : Dict κ β} {k : κ} (h : k ∈ d.map Prod.fst) (v : β) :
    (d.set k v).map Prod.fst = d.map Prod.fst := by
  obtain ⟨e, he, rfl⟩ := List.mem_map.mp h
  have hsome : (d.get? e.1).isSome := by
    rw [Option.isSome_iff_ne_none]
    exact fun hnone => get?_eq_none_iff.mp hnone e he rfl
  rw [set, if_pos hsome, List.map_map]
  refine List.map_congr_left fun x _ => ?_
  by_cases hx : x.1 = e.1 <;> simp [hx]

lemma map_fst_update_of_new {d e : Dict κ β} (h : ∀ k ∈ e.map Prod.fst, k ∉ d.map Prod.fst) :
    (d.update e).map Prod.fst = d.map Prod.fst ++ e.map Prod.fst := by
  have hnone : ∀ x ∈ e, (d.get? x.1).isNone = true := by
    intro x hx
    rw [Option.isNone_iff_eq_none, get?_eq_none_iff]
    exact fun y hy heq => h x.1 (List.mem_map_of_mem hx) (heq ▸ List.mem_map_of_mem hy)
  rw [update, List.filter_eq_self.mpr hnone, List.map_append, List.map_map]
  rfl

lemma nodup_keys_set {d : Dict κ β} (h : (d.map Prod.fst).Nodup) (k : κ) (v : β) :
    ((d.set k v).map Prod.fst).Nodup := by
  unfold set
  split
  · have hkeys : (d.map fun e => if e.1 = k then (e.1, v) else e).map Prod.fst
        = d.map Prod.fst := by
      rw [List.map_map]
      refine map_congr_left fun x _ => ?_
      by_cases hx : x.1 = k <;> simp [hx]
    rw [hkeys]
    exact h
  · next hk =>
    have hnone : ∀ x ∈ d, x.1 ≠ k := get?_eq_none_iff.mp (by simpa using hk)
    rw [map_append, nodup_append]
    refine ⟨h, by simp, ?_⟩
    rintro a ha b hb rfl
    obtain ⟨x, hx, rfl⟩ := mem_map.mp ha
    exact hnone x hx (by simpa using hb)

lemma nodup_keys_erase {d : Dict κ β} (h : (d.map Prod.fst).Nodup) (k : κ) : ((d.erase k).map Prod.fst).Nodup :=
  h.sublist (filter_sublist.map Prod.fst)

/-! ### Other keys -/

section Rekey

variable {κ' : Type*} [DecidableEq κ']

/-- The entries under the keys that `f` gives them: a later entry replaces an earlier one, an entry
without a new key is left out. -/
def rekey (f : κ → Option κ') (d : Dict κ β) : Dict κ' β :=
  d.foldl (fun acc e => match f e.1 with | some k => acc.set k e.2 | none => acc) []

omit [DecidableEq κ] in
lemma get?_rekey (f : κ → Option κ') (d : Dict κ β) (k : κ') :
    (d.rekey f).get? k = (d.filter fun e => f e.1 = some k).getLast?.map Prod.snd := by
  have hfold : ∀ acc : Dict κ' β,
      (d.foldl (fun acc e => match f e.1 with | some k => acc.set k e.2 | none => acc) acc).get? k
        = ((d.filter fun e => f e.1 = some k).getLast?.map Prod.snd).or (acc.get? k) := by
    induction d with
    | nil => intro acc; simp
    | cons e d ih =>
      intro acc
      rw [foldl_cons, ih, filter_cons]
      cases hf : f e.1 with
      | none => simp
      | some k' =>
        by_cases hk : k' = k
        · subst hk
          simp only [decide_true, ↓reduceIte, get?_set, getLast?_cons]
          cases (d.filter fun e => f e.1 = some k').getLast? <;> simp
        · simp [hk, Ne.symm hk]
  simpa [rekey] using hfold []

omit [DecidableEq κ] in
lemma nodup_keys_rekey (f : κ → Option κ') (d : Dict κ β) : ((d.rekey f).map Prod.fst).Nodup := by
  have hfold : ∀ acc : Dict κ' β, (acc.map Prod.fst).Nodup →
      ((d.foldl (fun acc e => match f e.1 with | some k => acc.set k e.2 | none => acc) acc).map Prod.fst).Nodup := by
    induction d with
    | nil => exact fun acc hacc => hacc
    | cons e d ih =>
      intro acc hacc
      rw [foldl_cons]
      refine ih _ ?_
      split
      · exact nodup_keys_set hacc _ _
      · exact hacc
  exact hfold [] nodup_nil

omit [DecidableEq κ] in
lemma exists_of_mem_rekey {f : κ → Option κ'} {d : Dict κ β} {e : κ' × β} (h : e ∈ d.rekey f) :
    ∃ x ∈ d, f x.1 = some e.1 := by
  have hget : (d.rekey f).get? e.1 = some e.2 := get?_of_mem (nodup_keys_rekey f d) h
  rw [get?_rekey, map_eq_some_iff] at hget
  obtain ⟨x, hx, -⟩ := hget
  obtain ⟨hmem, hf⟩ := mem_filter.mp (mem_of_getLast? hx)
  exact ⟨x, hmem, by simpa using hf⟩

lemma get?_rekey_of_self {f : κ → Option κ} {d : Dict κ β} (hd : (d.map Prod.fst).Nodup)
    (hf : ∀ e ∈ d, f e.1 = some e.1) (k : κ) : (d.rekey f).get? k = d.get? k := by
  have hfilter : (d.filter fun e => f e.1 = some k) = d.filter fun e => e.1 = k := by
    refine filter_congr fun e he => ?_
    simp [hf e he]
  rw [get?_rekey, hfilter]
  cases hlast : (d.filter fun e => e.1 = k).getLast? with
  | none =>
    have hnone : ∀ e ∈ d, e.1 ≠ k := by
      simpa [getLast?_eq_none_iff] using hlast
    rw [get?_eq_none_iff.mpr hnone]
    rfl
  | some e =>
    obtain ⟨hmem, hk⟩ := mem_filter.mp (mem_of_getLast? hlast)
    have hk : e.1 = k := by simpa using hk
    exact (get?_of_mem hd (hk ▸ hmem : (k, e.2) ∈ d)).symm

end Rekey

lemma get?_foldl_set_of_agree {α : Type*} (key : α → κ) (val : α → β) {l : List α} {k : κ} {v : β}
    (hval : ∀ a ∈ l, key a = k → val a = v) (acc : Dict κ β) :
    (l.foldl (fun acc a => acc.set (key a) (val a)) acc).get? k =
      if k ∈ l.map key then some v else acc.get? k := by
  induction l generalizing acc with
  | nil => rfl
  | cons a l ih =>
    rw [foldl_cons, ih (fun b hb => hval b (mem_cons_of_mem a hb)), get?_set, map_cons]
    simp only [mem_cons]
    by_cases hl : k ∈ l.map key
    · rw [if_pos hl, if_pos (Or.inr hl)]
    · rw [if_neg hl]
      by_cases hk : k = key a
      · rw [if_pos hk, if_pos (Or.inl hk), hval a mem_cons_self hk.symm]
      · rw [if_neg hk, if_neg (not_or.mpr ⟨hk, hl⟩)]

lemma get?_foldl_set_of_alone {α : Type*} (key : α → κ) (val : α → β) {l : List α} {a : α}
    (ha : a ∈ l) (halone : ∀ b ∈ l, key b = key a → b = a) (acc : Dict κ β) :
    (l.foldl (fun acc b => acc.set (key b) (val b)) acc).get? (key a) = some (val a) := by
  have hval : ∀ b ∈ l, key b = key a → val b = val a := fun b hb hkey => congrArg val (halone b hb hkey)
  rw [get?_foldl_set_of_agree key val hval, if_pos (mem_map_of_mem ha)]

lemma exists_of_get?_foldl_set {α : Type*} (key : α → κ) (val : α → β) {l : List α} {k : κ} {v : β}
    (h : (l.foldl (fun acc b => Dict.set acc (key b) (val b)) ([] : Dict κ β)).get? k = some v) :
    ∃ a ∈ l, key a = k := by
  have hfold : ∀ (l : List α) (acc : Dict κ β), (l.foldl (fun acc b => acc.set (key b) (val b)) acc).get? k = some v →
      acc.get? k = some v ∨ ∃ a ∈ l, key a = k := by
    intro l
    induction l with
    | nil => exact fun acc h => Or.inl h
    | cons b l ih =>
      intro acc h
      rw [foldl_cons] at h
      rcases ih _ h with hget | ⟨a, ha, hk⟩
      · rw [get?_set] at hget
        split at hget
        · next hk => exact Or.inr ⟨b, mem_cons_self, hk.symm⟩
        · exact Or.inl hget
      · exact Or.inr ⟨a, mem_cons_of_mem b ha, hk⟩
  exact (hfold l [] h).resolve_left (by simp)

lemma nodup_keys_foldl_set {α : Type*} (key : α → κ) (val : α → β) (l : List α) :
    ((l.foldl (fun acc b => Dict.set acc (key b) (val b)) ([] : Dict κ β)).map Prod.fst).Nodup := by
  have hfold : ∀ (l : List α) (acc : Dict κ β), (acc.map Prod.fst).Nodup →
      ((l.foldl (fun acc b => acc.set (key b) (val b)) acc).map Prod.fst).Nodup := by
    intro l
    induction l with
    | nil => exact fun acc h => h
    | cons b l ih => exact fun acc h => ih _ (nodup_keys_set h _ _)
  exact hfold l [] nodup_nil

lemma get?_foldl_set {rows : List (κ × β)} (hrows : (rows.map Prod.fst).Nodup) (base : Dict κ β) (k : κ) :
    (rows.foldl (fun acc row => acc.set row.1 row.2) base).get? k = (get? rows k).or (base.get? k) := by
  induction rows generalizing base with
  | nil => simp
  | cons row rows ih =>
    obtain ⟨hnew, hrows⟩ := nodup_cons.mp hrows
    rw [foldl_cons, ih hrows, get?_set, get?_cons]
    by_cases hk : k = row.1
    · have hnone : get? rows k = none :=
        get?_eq_none_iff.mpr fun e he heq => hnew (hk ▸ heq ▸ mem_map_of_mem he)
      simp [hk, hk ▸ hnone]
    · simp [hk]

lemma get?_tabulate (keys : List κ) (f : κ → β) (k : κ) :
    get? (keys.map fun k => (k, f k)) k = if k ∈ keys then some (f k) else none := by
  induction keys with
  | nil => simp
  | cons k' _ ih =>
    rw [map_cons, get?_cons, ih]
    by_cases hk : k = k'
    · simp [hk]
    · simp [hk]

end Dict

end ImmoApp
