import ImmoApp.Foundation.Keyed
import Mathlib.Algebra.Order.BigOperators.Group.List
import Mathlib.Algebra.Order.Ring.Nat
import Mathlib.Data.List.Perm.Subperm

/-!
# Sums and counts over a keyed table

`Keyed.total f t` is `SELECT SUM(f) FROM t`.  The lemmas say what one statement does to the sum: an update
of one row changes it by the new value minus the old one, an insertion adds, a deletion takes away.
`total_le_of_get?` compares the sums of two tables row by row.  `Keyed.count p t` is `SELECT COUNT(*)`.
-/

namespace ImmoApp.Keyed

open List

variable {κ β : Type*} [DecidableEq κ]

/-- `SELECT SUM(f)`. -/
def total (f : κ → β → ℕ) (t : Keyed κ β) : ℕ := (t.entries.map fun e => f e.1 e.2).sum

/-- `UPDATE … WHERE id = k`. -/
def updateKey (k : κ) (g : β → β) (t : Keyed κ β) : Keyed κ β := t.update (fun k' _ => k' == k) fun _ => g

/-- `DELETE … WHERE id = k`. -/
def deleteKey (k : κ) (t : Keyed κ β) : Keyed κ β := t.delete fun k' _ => k' == k

variable {t t' : Keyed κ β} {k k' : κ} {v : β} {f g : κ → β → ℕ}

lemma get?_updateKey (u : β → β) : (t.updateKey k u).get? k' = if k' = k then (t.get? k').map u else t.get? k' := by
  rw [updateKey, get?_update]
  by_cases heq : k' = k
  · rw [if_pos heq]
    simp [heq]
  · rw [if_neg heq]
    simp [heq]

@[simp] lemma get?_updateKey_self (u : β → β) : (t.updateKey k u).get? k = (t.get? k).map u := by
  rw [get?_updateKey, if_pos rfl]

lemma get?_updateKey_of_ne (hne : k' ≠ k) (u : β → β) : (t.updateKey k u).get? k' = t.get? k' := by
  rw [get?_updateKey, if_neg hne]

lemma get?_deleteKey : (t.deleteKey k).get? k' = if k' = k then none else t.get? k' := by
  rw [deleteKey, get?_delete]
  by_cases heq : k' = k
  · rw [if_pos heq]
    cases t.get? k' <;> simp [heq]
  · rw [if_neg heq]
    cases t.get? k' <;> simp [heq]

private lemma sum_updateKey_of_not_mem {entries : Dict κ β} (hk : k ∉ entries.map Prod.fst) (u : β → β) :
    ((entries.map fun e => (e.1, if e.1 == k then u e.2 else e.2)).map fun e => f e.1 e.2).sum
      = (entries.map fun e => f e.1 e.2).sum := by
  rw [map_map]
  refine congrArg List.sum (map_congr_left fun e he => ?_)
  have hne : e.1 ≠ k := fun heq => hk (heq ▸ mem_map_of_mem he)
  simp [hne]

lemma total_updateKey (h : t.get? k = some v) (u : β → β) :
    (t.updateKey k u).total f + f k v = t.total f + f k (u v) := by
  obtain ⟨entries, hnodup⟩ := t
  have hmem : (k, v) ∈ entries := Dict.mem_of_get? h
  clear h
  simp only [total, updateKey, update]
  induction entries with
  | nil => exact absurd hmem not_mem_nil
  | cons e _ ih =>
    obtain ⟨hnew, hnodup⟩ := nodup_cons.mp hnodup
    simp only [map_cons, sum_cons]
    rcases mem_cons.mp hmem with rfl | hmem
    · have hrest := sum_updateKey_of_not_mem (f := f) hnew u
      simp only [beq_self_eq_true, if_true]
      rw [hrest]
      omega
    · have hne : e.1 ≠ k := fun heq => hnew (heq ▸ mem_map_of_mem hmem)
      have hrest := ih hnodup hmem
      simp only [beq_iff_eq, hne, if_false] at hrest ⊢
      omega

lemma updateKey_of_get?_eq_none (h : t.get? k = none) (u : β → β) : t.updateKey k u = t := by
  obtain ⟨entries, _⟩ := t
  rw [updateKey, update]
  congr 1
  refine (map_congr_left fun e he => ?_).trans (map_id entries)
  have hne : e.1 ≠ k := Dict.get?_eq_none_iff.mp h e he
  simp [hne]

lemma deleteKey_of_get?_eq_none (h : t.get? k = none) : t.deleteKey k = t := by
  obtain ⟨_, _⟩ := t
  rw [deleteKey, delete]
  congr 1
  refine filter_eq_self.mpr fun e he => ?_
  have hne : e.1 ≠ k := Dict.get?_eq_none_iff.mp h e he
  simp [hne]

lemma total_set (h : t.get? k = none) (v : β) : (t.set k v).total f = t.total f + f k v := by
  have hnone : Dict.get? t.entries k = none := h
  have hset : (t.set k v).entries = t.entries ++ [(k, v)] := by
    change Dict.set t.entries k v = _
    rw [Dict.set, hnone]
    rfl
  rw [total, hset, map_append, sum_append]
  simp [total]

lemma total_set_of_some (h : t.get? k = some v) (v' : β) : (t.set k v').total f + f k v = t.total f + f k v' := by
  have hsame : (t.set k v').entries = (t.updateKey k fun _ => v').entries := by
    have hget : Dict.get? t.entries k = some v := h
    change Dict.set t.entries k v' = _
    rw [Dict.set, hget, Option.isSome_some, if_pos rfl]
    refine map_congr_left fun e _ => ?_
    by_cases heq : e.1 = k
    · simp [heq]
    · simp [heq]
  have htotal := total_updateKey (f := f) h fun _ => v'
  rw [total, hsame]
  exact htotal

lemma total_set_le (k : κ) (v : β) : (t.set k v).total f ≤ t.total f + f k v := by
  cases hget : t.get? k with
  | none => exact le_of_eq (total_set hget v)
  | some =>
    have hset := total_set_of_some (f := f) hget v
    omega

lemma total_add (f g : κ → β → ℕ) (t : Keyed κ β) : (t.total fun k v => f k v + g k v) = t.total f + t.total g := by
  rw [total, total, total, ← sum_map_add]

lemma total_deleteKey (h : t.get? k = some v) : (t.deleteKey k).total f + f k v = t.total f := by
  obtain ⟨entries, hnodup⟩ := t
  have hmem : (k, v) ∈ entries := Dict.mem_of_get? h
  clear h
  simp only [total, deleteKey, delete]
  induction entries with
  | nil => exact absurd hmem not_mem_nil
  | cons e es ih =>
    obtain ⟨hnew, hnodup⟩ := nodup_cons.mp hnodup
    rcases mem_cons.mp hmem with rfl | hmem
    · have hrest : es.filter (fun e => !(e.1 == k)) = es := by
        refine filter_eq_self.mpr fun e he => ?_
        have hne : e.1 ≠ k := fun heq => hnew (mem_map.mpr ⟨e, he, heq⟩)
        simp [hne]
      rw [filter_cons_of_neg (by simp), hrest, map_cons, sum_cons, Nat.add_comm]
    · have hne : e.1 ≠ k := fun heq => hnew (heq ▸ mem_map_of_mem hmem)
      have hrest := ih hnodup hmem
      rw [filter_cons_of_pos (by simp [hne]), map_cons, map_cons, sum_cons, sum_cons]
      omega

lemma total_deleteKey_le (k : κ) : (t.deleteKey k).total f ≤ t.total f := by
  cases hget : t.get? k with
  | none => rw [deleteKey_of_get?_eq_none hget]
  | some =>
    have hdelete := total_deleteKey (f := f) hget
    omega

private lemma sum_keys (t : Keyed κ β) (f : κ → β → ℕ) :
    ((t.entries.map Prod.fst).map fun k => ((t.get? k).map (f k)).getD 0).sum = t.total f := by
  rw [map_map, total]
  refine congrArg List.sum (map_congr_left fun e he => ?_)
  have hget : t.get? e.1 = some e.2 := mem_entries_iff.mp he
  simp [hget]

/-- A table whose rows are rows of another one, each with at most its value there, has at most its sum. -/
lemma total_le_of_get? (h : ∀ k v', t'.get? k = some v' → ∃ v, t.get? k = some v ∧ f k v' ≤ g k v) :
    t'.total f ≤ t.total g := by
  have hsub : (t'.entries.map Prod.fst).Subperm (t.entries.map Prod.fst) := by
    refine t'.nodup.subperm fun k hk => ?_
    obtain ⟨e, he, rfl⟩ := mem_map.mp hk
    obtain ⟨v, hv, _⟩ := h e.1 e.2 (mem_entries_iff.mp he)
    exact mem_map.mpr ⟨(e.1, v), mem_entries_iff.mpr hv, rfl⟩
  calc t'.total f
      ≤ ((t'.entries.map Prod.fst).map fun k => ((t.get? k).map (g k)).getD 0).sum := by
        rw [map_map, total]
        refine sum_le_sum fun e he => ?_
        obtain ⟨v, hv, hle⟩ := h e.1 e.2 (mem_entries_iff.mp he)
        simpa [hv] using hle
    _ ≤ ((t.entries.map Prod.fst).map fun k => ((t.get? k).map (g k)).getD 0).sum := by
        obtain ⟨l, hperm, hsublist⟩ := hsub
        rw [← (hperm.map fun k => ((t.get? k).map (g k)).getD 0).sum_eq]
        exact (hsublist.map _).sum_le_sum fun _ _ => Nat.zero_le _
    _ = t.total g := sum_keys t g

lemma le_total (h : t.get? k = some v) : f k v ≤ t.total f := by
  have hdelete := total_deleteKey (f := f) h
  omega

lemma length_deleteKey (h : t.get? k = some v) : (t.deleteKey k).entries.length + 1 = t.entries.length := by
  have htotal := total_deleteKey (f := fun _ _ => 1) h
  simpa [total] using htotal

lemma length_set (h : t.get? k = none) (v : β) : (t.set k v).entries.length = t.entries.length + 1 := by
  have htotal := total_set (f := fun _ _ => 1) h v
  simpa [total] using htotal

lemma total_pos_iff : 0 < t.total f ↔ ∃ k v, t.get? k = some v ∧ 0 < f k v := by
  constructor
  · intro hpos
    by_contra hnone
    have hzero : t.total f = 0 := by
      refine sum_eq_zero fun x hx => ?_
      obtain ⟨e, he, rfl⟩ := mem_map.mp hx
      by_contra hne
      exact hnone ⟨e.1, e.2, mem_entries_iff.mp he, Nat.pos_of_ne_zero hne⟩
    omega
  · rintro ⟨k, v, hget, hpos⟩
    exact lt_of_lt_of_le hpos (le_total hget)

lemma total_le_sum {l : List (κ × ℕ)}
    (h : ∀ k v, t.get? k = some v → f k v ≠ 0 → ∃ n, (k, n) ∈ l ∧ f k v ≤ n) : t.total f ≤ (l.map Prod.snd).sum := by
  induction l generalizing t with
  | nil =>
    by_contra hpos
    obtain ⟨k, v, hget, hne⟩ := total_pos_iff.mp (Nat.pos_of_ne_zero fun hzero => hpos (hzero ▸ Nat.zero_le _))
    obtain ⟨n, hn, -⟩ := h k v hget hne.ne'
    cases hn
  | cons e l ih =>
    obtain ⟨k, n⟩ := e
    rw [map_cons, sum_cons]
    -- without the row of `k` the rest of the list is enough
    have hrest : (t.deleteKey k).total f ≤ (l.map Prod.snd).sum := by
      refine ih fun k' v hget hne => ?_
      rw [get?_deleteKey] at hget
      split at hget
      · cases hget
      · next hk =>
        obtain ⟨m, hm, hle⟩ := h k' v hget hne
        refine ⟨m, (mem_cons.mp hm).resolve_left fun heq => hk (congrArg Prod.fst heq), hle⟩
    cases hget : t.get? k with
    | none =>
      rw [deleteKey_of_get?_eq_none hget] at hrest
      omega
    | some v =>
      have hdelete := total_deleteKey (f := f) hget
      by_cases hle : f k v ≤ n
      · omega
      · -- the row of `k` is found later in the list
        have hall : t.total f ≤ (l.map Prod.snd).sum := by
          refine ih fun k' v' hget' hne => ?_
          obtain ⟨m, hm, hle'⟩ := h k' v' hget' hne
          refine ⟨m, (mem_cons.mp hm).resolve_left fun heq => hle ?_, hle'⟩
          obtain ⟨rfl, rfl⟩ := Prod.mk.inj heq
          obtain rfl := Option.some.inj (hget.symm.trans hget')
          exact hle'
        omega

/-! ### Counts -/

/-- `SELECT COUNT(*) WHERE p`. -/
def count (p : κ → β → Bool) (t : Keyed κ β) : ℕ := t.entries.countP fun e => p e.1 e.2

section Counts

variable {p q : κ → β → Bool}

lemma count_set (k : κ) (v : β) : (t.set k v).count p =
    (t.count fun k' v' => decide (k' ≠ k) && p k' v') + if p k v then 1 else 0 := by
  have hnodup : ((k, v) :: t.entries.filter fun e => decide (e.1 ≠ k)).Nodup := by
    refine nodup_cons.mpr ⟨fun hmem => ?_, (t.nodup.of_map).filter _⟩
    simpa using (mem_filter.mp hmem).2
  have hperm : (t.set k v).entries.Perm ((k, v) :: t.entries.filter fun e => decide (e.1 ≠ k)) := by
    refine (perm_ext_iff_of_nodup (t.set k v).nodup.of_map hnodup).mpr fun e => ?_
    rw [mem_cons, mem_filter, decide_eq_true_eq]
    exact Dict.mem_set
  rw [count, hperm.countP_eq, countP_cons, countP_filter, count]
  congr 1
  exact countP_congr fun e _ => by simp [and_comm]

lemma count_le_count (h : ∀ k v, t.get? k = some v → p k v = true → q k v = true) : t.count p ≤ t.count q :=
  countP_mono_left fun e he hp => h e.1 e.2 (mem_entries_iff.mp he) hp

lemma count_eq_zero_iff : t.count p = 0 ↔ ∀ k v, t.get? k = some v → p k v = false := by
  rw [count, countP_eq_zero]
  constructor
  · exact fun h k v hget => Bool.eq_false_iff.mpr (h (k, v) (mem_entries_iff.mpr hget))
  · exact fun h e he => by simp [h e.1 e.2 (mem_entries_iff.mp he)]

lemma count_set_le {n : ℕ} (hle : t.count p ≤ n)
    (hroom : p k v = true → (t.count fun k' v' => decide (k' ≠ k) && p k' v') < n) :
    (t.set k v).count p ≤ n := by
  rw [count_set]
  split
  · next hp => exact hroom hp
  · rw [add_zero]
    refine le_trans (count_le_count fun k' v' _ hp => ?_) hle
    exact (Bool.and_eq_true _ _ ▸ hp).2

lemma count_delete_of_false {q : κ → β → Bool} (h : ∀ k v, q k v = true → p k v = false) :
    (t.delete q).count p = t.count p := by
  rw [count, delete, countP_filter, count]
  refine countP_congr fun e _ => ?_
  cases hq : q e.1 e.2 with
  | false => simp
  | true => simp [h e.1 e.2 hq]

lemma count_eq_total : t.count p = t.total fun k v => if p k v = true then 1 else 0 := by
  rw [count, total]
  induction t.entries with
  | nil => rfl
  | cons _ _ ih => rw [countP_cons, map_cons, sum_cons, ih, Nat.add_comm]

lemma count_updateKey {k : κ} {v : β} (h : t.get? k = some v) (u : β → β) :
    (t.updateKey k u).count p + (if p k v = true then 1 else 0) = t.count p + if p k (u v) = true then 1 else 0 := by
  rw [count_eq_total, count_eq_total]
  exact total_updateKey (f := fun k v => if p k v = true then 1 else 0) h u

end Counts

end ImmoApp.Keyed
