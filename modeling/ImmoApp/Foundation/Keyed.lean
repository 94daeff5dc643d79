import ImmoApp.Foundation.Dict
import Mathlib.Algebra.Ring.Nat
import Mathlib.Data.List.Sort
import Mathlib.Data.List.Perm.Basic
import Mathlib.Data.List.Dedup

/-!
# Tables with a unique key, and row numbers

A keyed table is a dictionary with distinct keys.  The statements are those of SQL: `delete` and `update` act on the
rows a condition selects; `insertAll?` fails where a key is already there, and `upsertAll?` (`ON CONFLICT DO UPDATE`)
where one command proposes the same key twice.  Two tables are the same when every lookup is.

`rowNumber` is `ROW_NUMBER() OVER (PARTITION BY … ORDER BY …)`, whatever the order in which the rows come.
-/

namespace ImmoApp

open List Option Dict

structure Keyed (κ β : Type*) [DecidableEq κ] where
  entries : Dict κ β
  nodup : (entries.map Prod.fst).Nodup

namespace Keyed

variable {κ β : Type*} [DecidableEq κ]

def empty : Keyed κ β := ⟨[], List.nodup_nil⟩

def get? (t : Keyed κ β) (k : κ) : Option β := Dict.get? t.entries k

def Same (t t' : Keyed κ β) : Prop := ∀ k, t.get? k = t'.get? k

/-- `DELETE … WHERE p`. -/
def delete (p : κ → β → Bool) (t : Keyed κ β) : Keyed κ β where
  entries := t.entries.filter fun e => !p e.1 e.2
  nodup := t.nodup.sublist (List.filter_sublist.map Prod.fst)

/-- `UPDATE … SET f WHERE p`. -/
def update (p : κ → β → Bool) (f : κ → β → β) (t : Keyed κ β) : Keyed κ β where
  entries := t.entries.map fun e => (e.1, if p e.1 e.2 then f e.1 e.2 else e.2)
  nodup := by
    rw [List.map_map]
    exact t.nodup

def set (k : κ) (v : β) (t : Keyed κ β) : Keyed κ β where
  entries := Dict.set t.entries k v
  nodup := Dict.nodup_keys_set t.nodup k v

/-- `INSERT` of one row. -/
def insert? (t : Keyed κ β) (e : κ × β) : Option (Keyed κ β) :=
  if (t.get? e.1).isSome then none else some (t.set e.1 e.2)

/-- `INSERT` of the rows of a query. -/
def insertAll? (t : Keyed κ β) : List (κ × β) → Option (Keyed κ β)
  | [] => some t
  | e :: es => (t.insert? e).bind fun t' => t'.insertAll? es

/-- `INSERT … ON CONFLICT DO UPDATE` of one row: `merge old new` is what a row that is there becomes. -/
def upsert (merge : β → β → β) (t : Keyed κ β) (e : κ × β) : Keyed κ β :=
  t.set e.1 (((t.get? e.1).map fun old => merge old e.2).getD e.2)

/-- `INSERT … ON CONFLICT DO UPDATE` of the rows of a query: one command does not write a row twice. -/
def upsertAll? (merge : β → β → β) (t : Keyed κ β) (es : List (κ × β)) : Option (Keyed κ β) :=
  if (es.map Prod.fst).Nodup then some (es.foldl (upsert merge) t) else none

@[simp] lemma get?_empty (k : κ) : (empty : Keyed κ β).get? k = none := rfl

lemma mem_entries_iff {t : Keyed κ β} {k : κ} {v : β} : (k, v) ∈ t.entries ↔ t.get? k = some v :=
  ⟨get?_of_mem t.nodup, mem_of_get?⟩

lemma mem_keys_iff {t : Keyed κ β} {k : κ} : k ∈ t.entries.map Prod.fst ↔ t.get? k ≠ none := by
  rw [List.mem_map, Option.ne_none_iff_exists']
  constructor
  · rintro ⟨⟨_, v⟩, hmem, rfl⟩
    exact ⟨v, mem_entries_iff.mp hmem⟩
  · rintro ⟨v, hget⟩
    exact ⟨(k, v), mem_entries_iff.mpr hget, rfl⟩

@[simp] lemma get?_set (t : Keyed κ β) (k k' : κ) (v : β) :
    (t.set k v).get? k' = if k' = k then some v else t.get? k' :=
  Dict.get?_set t.entries k k' v

@[simp] lemma get?_update (p : κ → β → Bool) (f : κ → β → β) (t : Keyed κ β) (k : κ) :
    (t.update p f).get? k = (t.get? k).map fun v => if p k v then f k v else v :=
  get?_map (fun k v => if p k v then f k v else v) t.entries k

lemma eq_of_entries_eq {t t' : Keyed κ β} (h : t.entries = t'.entries) : t = t' := by
  cases t
  cases t'
  cases h
  rfl

lemma update_eq_self {p : κ → β → Bool} {f : κ → β → β} {t : Keyed κ β}
    (h : ∀ k v, t.get? k = some v → p k v = false) : t.update p f = t := by
  refine eq_of_entries_eq ((map_congr_left fun e he => ?_).trans (map_id t.entries))
  rw [if_neg (by simp [h e.1 e.2 (mem_entries_iff.mp he)])]
  rfl

@[simp] lemma get?_delete (p : κ → β → Bool) (t : Keyed κ β) (k : κ) :
    (t.delete p).get? k = (t.get? k).filter fun v => !p k v := by
  cases hget : t.get? k with
  | none =>
    rw [filter_none]
    refine get?_eq_none_iff.mpr fun e he => ?_
    exact get?_eq_none_iff.mp hget e (mem_of_mem_filter he)
  | some v =>
    have hmem : (k, v) ∈ t.entries := mem_entries_iff.mpr hget
    by_cases hp : p k v = true
    · rw [filter_some, if_neg (by simp [hp])]
      refine get?_eq_none_iff.mpr ?_
      rintro ⟨_, w⟩ he rfl
      obtain ⟨hw, hkeep⟩ := mem_filter.mp he
      have heq : v = w := some.inj (hget.symm.trans (mem_entries_iff.mp hw))
      rw [← heq] at hkeep
      simp [hp] at hkeep
    · rw [filter_some, if_pos (by simpa using hp)]
      refine mem_entries_iff.mp (mem_filter.mpr ⟨hmem, ?_⟩)
      simpa using hp

lemma get?_delete_of_false {p : κ → β → Bool} {t : Keyed κ β} {k : κ} (h : ∀ v, p k v = false) :
    (t.delete p).get? k = t.get? k := by
  rw [get?_delete]
  cases t.get? k with
  | none => rfl
  | some v => simp [h v]

lemma insert?_of_get?_eq_none {t : Keyed κ β} {e : κ × β} (h : t.get? e.1 = none) :
    t.insert? e = some (t.set e.1 e.2) := by
  rw [insert?, h]
  rfl

/-- Rows with new and distinct keys can be inserted, and a lookup finds them beside the old ones. -/
lemma insertAll?_of_fresh {es : List (κ × β)} (hnodup : (es.map Prod.fst).Nodup) :
    ∀ {t : Keyed κ β}, (∀ e ∈ es, t.get? e.1 = none) →
      ∃ t', t.insertAll? es = some t' ∧ ∀ k, t'.get? k = (t.get? k).or (Dict.get? es k) := by
  induction es with
  | nil =>
    intro t _
    exact ⟨t, rfl, fun k => by simp⟩
  | cons e es ih =>
    intro t hfresh
    obtain ⟨hnew, hnodup⟩ := nodup_cons.mp hnodup
    have hfresh' : ∀ e' ∈ es, (t.set e.1 e.2).get? e'.1 = none := by
      intro e' he'
      have hne : e'.1 ≠ e.1 := fun heq => hnew (heq ▸ mem_map_of_mem he')
      rw [get?_set, if_neg hne]
      exact hfresh e' (mem_cons_of_mem e he')
    obtain ⟨t', hins, hget⟩ := ih hnodup hfresh'
    refine ⟨t', ?_, fun k => ?_⟩
    · rw [insertAll?, insert?_of_get?_eq_none (hfresh e mem_cons_self)]
      exact hins
    · rw [hget, get?_set, get?_cons]
      by_cases hk : k = e.1
      · simp [hk, hfresh e mem_cons_self]
      · simp [hk]

lemma upsertAll?_of_fresh (merge : β → β → β) {es : List (κ × β)}
    (hnodup : (es.map Prod.fst).Nodup) {t : Keyed κ β} (hfresh : ∀ e ∈ es, t.get? e.1 = none) :
    ∃ t', t.upsertAll? merge es = some t' ∧ ∀ k, t'.get? k = (t.get? k).or (Dict.get? es k) := by
  refine ⟨es.foldl (upsert merge) t, if_pos hnodup, ?_⟩
  induction es generalizing t with
  | nil => intro k; simp
  | cons e es ih =>
    intro k
    obtain ⟨hnew, hnodup⟩ := nodup_cons.mp hnodup
    have hset : upsert merge t e = t.set e.1 e.2 := by
      rw [upsert, hfresh e mem_cons_self]
      rfl
    have hfresh' : ∀ e' ∈ es, (upsert merge t e).get? e'.1 = none := by
      intro e' he'
      have hne : e'.1 ≠ e.1 := fun heq => hnew (heq ▸ mem_map_of_mem he')
      rw [hset, get?_set, if_neg hne]
      exact hfresh e' (mem_cons_of_mem e he')
    rw [foldl_cons, ih hnodup hfresh', hset, get?_set, get?_cons]
    by_cases hk : k = e.1
    · simp [hk, hfresh e mem_cons_self]
    · simp [hk]

end Keyed

/-! ### Row numbers -/

section RowNumber

variable {α β κ : Type*} [DecidableEq κ]

def partitionSorted (part : α → κ) (le : α → α → Prop) [DecidableRel le] (rows : List α) (k : κ) :
    List α := (rows.filter fun a => part a = k).insertionSort le

/-- `ROW_NUMBER() OVER (PARTITION BY part ORDER BY le)`: every row with its number. -/
def rowNumber (part : α → κ) (le : α → α → Prop) [DecidableRel le] (rows : List α) : List (α × ℕ) :=
  (rows.map part).dedup.flatMap fun k => (partitionSorted part le rows k).zipIdx 1

variable {part : α → κ} {le : α → α → Prop} [DecidableRel le]

lemma mem_partitionSorted {rows : List α} {k : κ} {a : α} :
    a ∈ partitionSorted part le rows k ↔ a ∈ rows ∧ part a = k := by
  simp [partitionSorted]

lemma mem_rowNumber {rows : List α} {a : α} {n : ℕ} : (a, n) ∈ rowNumber part le rows ↔
      1 ≤ n ∧ (partitionSorted part le rows (part a))[n - 1]? = some a := by
  rw [rowNumber, mem_flatMap]
  constructor
  · rintro ⟨k, -, hmem⟩
    obtain ⟨hn, hget⟩ := mk_mem_zipIdx_iff_le_and_getElem?_sub.mp hmem
    have hk : part a = k := (mem_partitionSorted.mp (mem_of_getElem? hget)).2
    rw [hk]
    exact ⟨hn, hget⟩
  · rintro ⟨hn, hget⟩
    have hrow := mem_partitionSorted.mp (mem_of_getElem? hget)
    refine ⟨part a, mem_dedup.mpr (mem_map_of_mem hrow.1), ?_⟩
    exact mk_mem_zipIdx_iff_le_and_getElem?_sub.mpr ⟨hn, hget⟩

lemma rowNumber_map {part' : β → κ} {le' : β → β → Prop} [DecidableRel le'] (f : α → β)
    (hpart : ∀ a, part' (f a) = part a) (hle : ∀ a b, le' (f a) (f b) ↔ le a b) (rows : List α) :
    rowNumber part' le' (rows.map f) = (rowNumber part le rows).map fun x => (f x.1, x.2) := by
  have hsorted : ∀ k, partitionSorted part' le' (rows.map f) k = (partitionSorted part le rows k).map f := by
    intro k
    have hfilter : (rows.map f).filter (fun b => part' b = k) = (rows.filter fun a => part a = k).map f := by
      rw [List.filter_map]
      simp [Function.comp_def, hpart]
    rw [partitionSorted, hfilter, partitionSorted, map_insertionSort le le' f _ fun a _ b _ => (hle a b).symm]
  have hkeys : (rows.map f).map part' = rows.map part := by
    simp [Function.comp_def, hpart]
  rw [rowNumber, hkeys, rowNumber, map_flatMap]
  refine flatMap_congr fun k _ => ?_
  rw [hsorted, zipIdx_map]
  rfl

/-- The order in which the rows come does not matter where the rows of a partition are ordered
linearly. -/
lemma partitionSorted_perm [Std.Total le] [IsTrans α le] {rows rows' : List α} (h : rows.Perm rows')
    (hanti : ∀ a ∈ rows, ∀ b ∈ rows, part a = part b → le a b → le b a → a = b) (k : κ) :
    partitionSorted part le rows k = partitionSorted part le rows' k := by
  refine Perm.eq_of_pairwise (fun a b ha hb hab hba => ?_)
    (pairwise_insertionSort le _) (pairwise_insertionSort le _) ?_
  · obtain ⟨ha, hka⟩ := mem_partitionSorted.mp ha
    obtain ⟨hb, hkb⟩ := mem_partitionSorted.mp hb
    exact hanti a ha b (h.mem_iff.mpr hb) (hka.trans hkb.symm) hab hba
  · exact (perm_insertionSort le _).trans
      ((h.filter _).trans (perm_insertionSort le _).symm)

lemma rowNumber_perm [Std.Total le] [IsTrans α le] {rows rows' : List α} (h : rows.Perm rows')
    (hanti : ∀ a ∈ rows, ∀ b ∈ rows, part a = part b → le a b → le b a → a = b) :
    (rowNumber part le rows).Perm (rowNumber part le rows') := by
  refine List.Perm.flatMap (h.map part).dedup fun k _ => ?_
  rw [partitionSorted_perm h hanti]

lemma nodup_rowNumber_map_fst {rows : List α} (h : rows.Nodup) : ((rowNumber part le rows).map Prod.fst).Nodup := by
  have hfst : (rowNumber part le rows).map Prod.fst
      = (rows.map part).dedup.flatMap fun k => partitionSorted part le rows k := by
    simp [rowNumber, map_flatMap]
  rw [hfst, nodup_flatMap]
  constructor
  · intro k _
    exact (perm_insertionSort le _).nodup_iff.mpr (h.filter _)
  · refine (nodup_dedup _).imp fun {k k'} hne a ha ha' => ?_
    exact hne ((mem_partitionSorted.mp ha).2.symm.trans (mem_partitionSorted.mp ha').2)

lemma mem_rowNumber_map_fst {rows : List α} {a : α} : a ∈ (rowNumber part le rows).map Prod.fst ↔ a ∈ rows := by
  have hfst : (rowNumber part le rows).map Prod.fst
      = (rows.map part).dedup.flatMap fun k => partitionSorted part le rows k := by
    simp [rowNumber, map_flatMap]
  rw [hfst, mem_flatMap]
  constructor
  · rintro ⟨k, -, ha⟩
    exact (mem_partitionSorted.mp ha).1
  · intro ha
    exact ⟨part a, mem_dedup.mpr (mem_map_of_mem ha), mem_partitionSorted.mpr ⟨ha, rfl⟩⟩

lemma sum_countP_eq_length {keys : List κ} (hkeys : keys.Nodup) {rows : List α} (h : ∀ a ∈ rows, part a ∈ keys) :
    (keys.map fun k => rows.countP fun a => part a = k).sum = rows.length := by
  induction keys generalizing rows with
  | nil =>
    have hnone : rows = [] :=
      eq_nil_iff_forall_not_mem.mpr fun a ha => absurd (h a ha) not_mem_nil
    simp [hnone]
  | cons k keys ih =>
    -- the other groups are those of the rows outside the group of `k`
    obtain ⟨hk, hkeys⟩ := nodup_cons.mp hkeys
    have hrest : ∀ a ∈ rows.filter (fun a => part a ≠ k), part a ∈ keys := by
      intro a ha
      obtain ⟨ha, hne⟩ := mem_filter.mp ha
      exact (mem_cons.mp (h a ha)).resolve_left (by simpa using hne)
    have hsame : ∀ k' ∈ keys, (rows.filter fun a => part a ≠ k).countP (fun a => part a = k')
        = rows.countP fun a => part a = k' := by
      intro k' hk'
      have hne : k' ≠ k := fun heq => hk (heq ▸ hk')
      rw [countP_filter]
      refine countP_congr fun a _ => ?_
      simp only [ne_eq, decide_not, Bool.and_eq_true, decide_eq_true_eq, Bool.not_eq_true',
        decide_eq_false_iff_not, and_iff_left_iff_imp]
      rintro rfl
      exact hne
    have hlength : rows.length = rows.countP (fun a => part a = k) + (rows.filter fun a => part a ≠ k).length := by
      rw [length_eq_countP_add_countP fun a => part a = k, ← countP_eq_length_filter]
      simp
    rw [map_cons, sum_cons, ← map_congr_left hsame, ih hkeys hrest, hlength]

end RowNumber

end ImmoApp
