import Mathlib.Data.List.Nodup
import Mathlib.Data.Nat.Basic

/-!
# Tables of soft-deleted, versioned rows

A table is a list of rows with distinct keys; new keys come from a sequence.  A row carries its columns, the time of its
soft deletion and a version.  The statements are those of SQL: `update` never assigns a key, `insert` takes the next
key, and `rowcount` is the number of rows a condition selects.

`Row.Follows r r'` says that `r'` is a later state of `r` in which every change is visible in the version, and
`Table.Follows` lifts it to tables.  It composes, so what every statement of a run keeps, the run keeps.
-/

namespace ImmoApp

open List

/-- A row of a table with the columns `κ`. -/
structure Row (κ : Type*) where
  id : ℕ
  columns : κ
  deletedAt : Option ℕ
  updatedAt : ℕ
  rowVersion : ℕ
  deriving DecidableEq

variable {κ : Type*}

namespace Row

/-- `deleted_at IS NULL`. -/
def live (r : Row κ) : Bool := r.deletedAt.isNone

/-- `SET deleted_at = now, updated_at = now`. -/
def delete (now : ℕ) (r : Row κ) : Row κ := { r with deletedAt := some now, updatedAt := now }

/-- `SET deleted_at = NULL, updated_at = now`. -/
def restore (now : ℕ) (r : Row κ) : Row κ := { r with deletedAt := none, updatedAt := now }

/-- `SET …` for other columns than the deletion. -/
def set (f : κ → κ) (r : Row κ) : Row κ := { r with columns := f r.columns }

/-- `SET …, updated_at = now` for other columns than the deletion. -/
def write (f : κ → κ) (now : ℕ) (r : Row κ) : Row κ :=
  { r with columns := f r.columns, updatedAt := now }

/-- `SET row_version = row_version + 1`. -/
def bump (r : Row κ) : Row κ := { r with rowVersion := r.rowVersion + 1 }

/-- A later state of a row: the version never falls, and where it stands still so do the columns and
the deletion. -/
structure Follows (r r' : Row κ) : Prop where
  le : r.rowVersion ≤ r'.rowVersion
  /-- At the same version the row is the same, its time of writing apart. -/
  same : r.rowVersion = r'.rowVersion → r.columns = r'.columns ∧ r.deletedAt = r'.deletedAt

lemma Follows.refl (r : Row κ) : r.Follows r := ⟨le_rfl, fun _ => ⟨rfl, rfl⟩⟩

lemma Follows.trans {r r' r'' : Row κ} (h : r.Follows r') (h' : r'.Follows r'') :
    r.Follows r'' := by
  have hle := h.le
  have hle' := h'.le
  refine ⟨by omega, fun heq => ?_⟩
  have hr : r.rowVersion = r'.rowVersion := by omega
  have hr' : r'.rowVersion = r''.rowVersion := hr.symm.trans heq
  exact ⟨(h.same hr).1.trans (h'.same hr').1, (h.same hr).2.trans (h'.same hr').2⟩

lemma follows_bump {r r' : Row κ} (h : r'.rowVersion = r.rowVersion) : r.Follows r'.bump :=
  ⟨by simp [bump, h], fun heq => absurd heq (by simp [bump, h])⟩

lemma follows_restore {r : Row κ} (h : r.live = true) (now : ℕ) : r.Follows (r.restore now) :=
  ⟨le_rfl, fun _ => ⟨rfl, Option.isNone_iff_eq_none.mp h⟩⟩

lemma follows_delete {r : Row κ} {now : ℕ} (h : r.deletedAt = some now) : r.Follows (r.delete now) :=
  ⟨le_rfl, fun _ => ⟨rfl, h⟩⟩

end Row

/-- A table: its rows, with distinct keys, and the next key of its sequence. -/
structure Table (κ : Type*) where
  rows : List (Row κ)
  nextId : ℕ
  keyed : (rows.map Row.id).Nodup
  /-- No key is used before the sequence reaches it. -/
  fresh : ∀ r ∈ rows, r.id < nextId
  started : 0 < nextId
  positive : ∀ r ∈ rows, 0 < r.id

namespace Table

def empty : Table κ := ⟨[], 1, List.nodup_nil, by simp, Nat.one_pos, by simp⟩

def find? (t : Table κ) (id : ℕ) : Option (Row κ) := t.rows.find? fun r => r.id == id

def rowcount (p : Row κ → Bool) (t : Table κ) : ℕ := t.rows.countP p

/-- One row under `UPDATE … SET f WHERE p`: no statement assigns a key. -/
def assign (p : Row κ → Bool) (f : Row κ → Row κ) (r : Row κ) : Row κ :=
  if p r then { f r with id := r.id } else r

@[simp] lemma assign_id (p : Row κ → Bool) (f : Row κ → Row κ) (r : Row κ) : (assign p f r).id = r.id := by
  unfold assign
  split <;> rfl

/-- `UPDATE … SET f WHERE p`. -/
def update (p : Row κ → Bool) (f : Row κ → Row κ) (t : Table κ) : Table κ where
  rows := t.rows.map (assign p f)
  nextId := t.nextId
  keyed := by
    have hids : (t.rows.map (assign p f)).map Row.id = t.rows.map Row.id := by
      simp [Function.comp_def]
    rw [hids]
    exact t.keyed
  fresh := by
    intro r hr
    obtain ⟨r₀, hr₀, rfl⟩ := List.mem_map.mp hr
    simpa using t.fresh r₀ hr₀
  started := t.started
  positive := by
    intro r hr
    obtain ⟨r₀, hr₀, rfl⟩ := List.mem_map.mp hr
    simpa using t.positive r₀ hr₀

/-- `INSERT`: the row takes the next key and the first version. -/
def insert (columns : κ) (now : ℕ) (t : Table κ) : Table κ where
  rows := t.rows ++ [⟨t.nextId, columns, none, now, 1⟩]
  nextId := t.nextId + 1
  keyed := by
    rw [List.map_append, List.nodup_append]
    refine ⟨t.keyed, by simp, ?_⟩
    intro id hid id' hid' heq
    obtain ⟨r, hr, rfl⟩ := List.mem_map.mp hid
    have hnext : id' = t.nextId := by simpa using hid'
    have hlt := t.fresh r hr
    omega
  fresh := by
    intro r hr
    rcases List.mem_append.mp hr with hr | hr
    · exact Nat.lt_succ_of_lt (t.fresh r hr)
    · rw [List.mem_singleton.mp hr]
      exact Nat.lt_succ_self _
  started := Nat.succ_pos _
  positive := by
    intro r hr
    rcases List.mem_append.mp hr with hr | hr
    · exact t.positive r hr
    · rw [List.mem_singleton.mp hr]
      exact t.started

/-- `DELETE … WHERE p`. -/
def delete (p : Row κ → Bool) (t : Table κ) : Table κ where
  rows := t.rows.filter fun r => !p r
  nextId := t.nextId
  keyed := t.keyed.sublist (List.filter_sublist.map Row.id)
  fresh := fun r hr => t.fresh r (List.mem_of_mem_filter hr)
  started := t.started
  positive := fun r hr => t.positive r (List.mem_of_mem_filter hr)

lemma mem_update {p : Row κ → Bool} {f : Row κ → Row κ} {t : Table κ} {r' : Row κ} :
    r' ∈ (t.update p f).rows ↔ ∃ r ∈ t.rows, assign p f r = r' := mem_map

variable {id : ℕ} {bound bound' : ℕ → Prop}

lemma mem_update_of_ne {p : Row κ → Bool} {f : Row κ → Row κ} {t : Table κ}
    (hp : ∀ r ∈ t.rows, p r = true → r.id = id) (r : Row κ) (hr : r.id ≠ id) :
    r ∈ (t.update p f).rows ↔ r ∈ t.rows := by
  rw [mem_update]
  constructor
  · rintro ⟨r, hmem, rfl⟩
    have hid : r.id ≠ id := by rwa [assign_id] at hr
    have hnot : p r = false := Bool.eq_false_iff.mpr fun hpr => hid (hp r hmem hpr)
    simpa [assign, hnot] using hmem
  · intro hmem
    have hnot : p r = false := Bool.eq_false_iff.mpr fun hpr => hr (hp r hmem hpr)
    exact ⟨r, hmem, by simp [assign, hnot]⟩

lemma mem_insert {columns : κ} {now : ℕ} {t : Table κ} {r : Row κ} :
    r ∈ (t.insert columns now).rows ↔ r ∈ t.rows ∨ r = ⟨t.nextId, columns, none, now, 1⟩ := by
  simp [insert]

lemma mem_delete {p : Row κ → Bool} {t : Table κ} {r : Row κ} : r ∈ (t.delete p).rows ↔ r ∈ t.rows ∧ p r = false := by
  simp [delete]

lemma eq_of_id {t : Table κ} {r r' : Row κ} (hr : r ∈ t.rows) (hr' : r' ∈ t.rows) (h : r.id = r'.id) : r = r' :=
  inj_on_of_nodup_map t.keyed hr hr' h

lemma mem_of_find? {t : Table κ} {r : Row κ} (h : t.find? id = some r) : r ∈ t.rows ∧ r.id = id := by
  refine ⟨mem_of_find?_eq_some h, ?_⟩
  simpa using find?_some h

lemma find?_eq_some_iff {t : Table κ} {r : Row κ} : t.find? id = some r ↔ r ∈ t.rows ∧ r.id = id := by
  refine ⟨mem_of_find?, ?_⟩
  rintro ⟨hr, rfl⟩
  obtain ⟨r', hr'⟩ : ∃ r', t.find? r.id = some r' := by
    rw [← Option.isSome_iff_exists, find?, find?_isSome]
    exact ⟨r, hr, by simp⟩
  have hmem := mem_of_find? hr'
  rw [hr', eq_of_id hmem.1 hr hmem.2]

lemma filter_id_eq {t : Table κ} {r : Row κ} (hr : r ∈ t.rows) {p : Row κ → Bool}
    (hp : ∀ r' ∈ t.rows, p r' = true ↔ r'.id = r.id) : t.rows.filter p = [r] := by
  have hnodup : (t.rows.filter p).Nodup := (t.keyed.of_map).filter p
  refine perm_singleton.mp ((perm_ext_iff_of_nodup hnodup (by simp)).mpr fun r' => ?_)
  rw [mem_filter, mem_singleton]
  constructor
  · rintro ⟨hr', hsel⟩
    exact eq_of_id hr' hr ((hp r' hr').mp hsel)
  · rintro rfl
    exact ⟨hr, (hp r' hr).mpr rfl⟩

lemma update_of_rowcount_eq_zero {p : Row κ → Bool} {t : Table κ} (h : t.rowcount p = 0)
    (f : Row κ → Row κ) : t.update p f = t := by
  have hrows : t.rows.map (assign p f) = t.rows := by
    conv_rhs => rw [← map_id t.rows]
    refine map_congr_left fun r hr => ?_
    rw [assign, if_neg (countP_eq_zero.mp h r hr)]
    rfl
  cases t
  simp only [update] at hrows ⊢
  congr

section Selections

variable {t : Table κ} {p s : Row κ → Bool} {f : Row κ → Row κ}

lemma filter_update (h : ∀ r ∈ t.rows, p r = true → s r = false ∧ s (assign p f r) = false) :
    (t.update p f).rows.filter s = t.rows.filter s := by
  have hmap : ∀ l : List (Row κ), (∀ r ∈ l, p r = true → s r = false ∧ s (assign p f r) = false) →
      (l.map (assign p f)).filter s = l.filter s := by
    intro l
    induction l with
    | nil => exact fun _ => rfl
    | cons r l ih =>
      intro hl
      have hrest := ih fun x hx => hl x (mem_cons_of_mem r hx)
      by_cases hp : p r = true
      · obtain ⟨hbefore, hafter⟩ := hl r mem_cons_self hp
        rw [map_cons, filter_cons_of_neg (by simp [hafter]), filter_cons_of_neg (by simp [hbefore]), hrest]
      · rw [map_cons, assign, if_neg hp, filter_cons, filter_cons, hrest]
  exact hmap t.rows h

lemma filter_insert {columns : κ} {now : ℕ} (h : s ⟨t.nextId, columns, none, now, 1⟩ = false) :
    (t.insert columns now).rows.filter s = t.rows.filter s := by
  rw [insert, filter_append, filter_cons_of_neg (by simp [h]), filter_nil, append_nil]

lemma filter_delete (h : ∀ r ∈ t.rows, p r = true → s r = false) : (t.delete p).rows.filter s = t.rows.filter s := by
  rw [delete, filter_filter]
  refine filter_congr fun r hr => ?_
  cases hp : p r with
  | true => simp [h r hr hp]
  | false => simp

end Selections

/-- A later state of a table: its sequence does not fall, it got no old key back, and each row that is
still there is a later state of itself. -/
structure Follows (t t' : Table κ) : Prop where
  nextId_le : t.nextId ≤ t'.nextId
  old : ∀ r' ∈ t'.rows, r'.id < t.nextId → ∃ r ∈ t.rows, r.id = r'.id
  /-- A row that was there is a later state of itself. -/
  rows : ∀ r ∈ t.rows, ∀ r' ∈ t'.rows, r.id = r'.id → r.Follows r'

lemma Follows.refl (t : Table κ) : t.Follows t := by
  refine ⟨le_rfl, fun r hr _ => ⟨r, hr, rfl⟩, fun r hr r' hr' h => ?_⟩
  rw [eq_of_id hr hr' h]
  exact Row.Follows.refl r'

lemma Follows.trans {t t' t'' : Table κ} (h : t.Follows t') (h' : t'.Follows t'') :
    t.Follows t'' := by
  have hle := h.nextId_le
  have hle' := h'.nextId_le
  refine ⟨by omega, fun r'' hr'' hlt => ?_, fun r hr r'' hr'' heq => ?_⟩
  · obtain ⟨r', hr', heq'⟩ := h'.old r'' hr'' (by omega)
    obtain ⟨r, hr, heq⟩ := h.old r' hr' (by omega)
    exact ⟨r, hr, heq.trans heq'⟩
  · have hlt : r''.id < t'.nextId := by
      have hfresh := t.fresh r hr
      omega
    obtain ⟨r', hr', heq'⟩ := h'.old r'' hr'' hlt
    exact (h.rows r hr r' hr' (heq.trans heq'.symm)).trans (h'.rows r' hr' r'' hr'' heq')

lemma follows_update {p : Row κ → Bool} {f : Row κ → Row κ} {t : Table κ}
    (h : ∀ r ∈ t.rows, p r = true → r.Follows (f r)) : t.Follows (t.update p f) := by
  refine ⟨le_rfl, fun r' hr' _ => ?_, fun r hr r' hr' heq => ?_⟩
  · obtain ⟨r, hr, rfl⟩ := mem_update.mp hr'
    exact ⟨r, hr, by simp⟩
  · obtain ⟨r₀, hr₀, rfl⟩ := mem_update.mp hr'
    have heq₀ : r = r₀ := eq_of_id hr hr₀ (by simpa using heq)
    subst heq₀
    by_cases hp : p r = true
    · have hf := h r hr hp
      exact ⟨by simpa [assign, hp] using hf.le, by simpa [assign, hp] using hf.same⟩
    · rw [assign, if_neg hp]
      exact Row.Follows.refl r

lemma follows_update_bump {p : Row κ → Bool} {f : Row κ → Row κ} (t : Table κ)
    (h : ∀ r, (f r).rowVersion = r.rowVersion) :
    t.Follows (t.update p fun r => (f r).bump) :=
  follows_update fun r _ _ => Row.follows_bump (h r)

/-- The live rows that carry a mark are those a relation binds. -/
def Marks (t : Table κ) (m : κ → Bool) (bound : ℕ → Prop) : Prop :=
  ∀ r ∈ t.rows, r.live = true → (m r.columns = true ↔ bound r.id)

lemma Marks.congr {t : Table κ} {m : κ → Bool} (h : t.Marks m bound)
    (heq : ∀ id, bound' id ↔ bound id) : t.Marks m bound' :=
  fun r hr hlive => (h r hr hlive).trans (heq r.id).symm

lemma Marks.set {t : Table κ} {m : κ → Bool} (h : t.Marks m bound)
    (id : ℕ) {f : κ → κ} {b : Bool} (hf : ∀ c, m (f c) = b) (hid : bound' id ↔ b = true)
    (hother : ∀ id', id' ≠ id → (bound' id' ↔ bound id')) :
    (t.update (fun r => r.id == id && r.live) fun r => (r.set f).bump).Marks m bound' := by
  intro r' hr' hlive
  obtain ⟨r, hr, rfl⟩ := mem_update.mp hr'
  by_cases hp : (r.id == id && r.live) = true
  · have heq : r.id = id := by
      rw [Bool.and_eq_true, beq_iff_eq] at hp
      exact hp.1
    rw [assign_id, heq, hid]
    simp [assign, hp, Row.set, Row.bump, hf]
  · rw [assign, if_neg hp] at hlive ⊢
    have hne : r.id ≠ id := fun heq => hp (by simp [heq, hlive])
    exact (h r hr hlive).trans (hother r.id hne).symm

end Table

end ImmoApp
