import ImmoApp.Foundation.Tables
import Mathlib.Data.List.Sort
import Mathlib.Data.Prod.Lex

/-!
# Change feeds

A reader asks for the rows whose key, the time of the last write and then the identifier, is greater than that of the
last row it has seen.  `Table.fetchChanges` is one such request, for the rows that the reader may see.

`mem_or_lt_of_fetchChanges`: a row with a key greater than the cursor is in the next page or still ahead of the cursor
behind it.  `Table.Stamped` is what the writers have to keep: the rows they touch carry a time since the last write.
-/

namespace ImmoApp

open List

variable {κ : Type*}

/-- The place of a row in a feed: when it was last written, and its identifier. -/
def Row.feedKey (r : Row κ) : ℕ ×ₗ ℕ := toLex (r.updatedAt, r.id)

/-- `ORDER BY changed_at, id`. -/
def Row.Before (r r' : Row κ) : Prop := r.feedKey ≤ r'.feedKey

instance : DecidableRel (Row.Before (κ := κ)) := fun _ _ => inferInstanceAs (Decidable (_ ≤ _))

instance : Std.Total (Row.Before (κ := κ)) := ⟨fun r r' => le_total r.feedKey r'.feedKey⟩

instance : IsTrans (Row κ) Row.Before := ⟨fun _ _ _ h h' => le_trans h h'⟩

/-- `WHERE changed_at > since`, or with an identifier the rows behind it at that time too. -/
def Row.behind (since : ℕ) (afterId : Option ℕ) (r : Row κ) : Bool :=
  since < r.updatedAt || afterId.any fun id => r.updatedAt = since && id < r.id

lemma Row.behind_some_iff {r : Row κ} {since id : ℕ} :
    r.behind since (some id) = true ↔ toLex (since, id) < r.feedKey := by
  have hcomm : r.updatedAt = since ↔ since = r.updatedAt := eq_comm
  rw [Row.behind, Row.feedKey, Prod.Lex.toLex_lt_toLex]
  simp [hcomm]

namespace Table

/-- The rows that a reader has not seen, in the order of the feed. -/
def unseen (t : Table κ) (sees : ℕ → Bool) (since : ℕ) (afterId : Option ℕ) : List (Row κ) :=
  (t.rows.filter fun r => sees r.id && r.behind since afterId).insertionSort Row.Before

def fetchChanges (t : Table κ) (sees : ℕ → Bool) (since limit : ℕ) (afterId : Option ℕ) :
    List (Row κ) × Option (ℕ ×ₗ ℕ) :=
  let items := (t.unseen sees since afterId).take limit
  (items, items.getLast?.map Row.feedKey)

section Feed

variable {t : Table κ} {sees : ℕ → Bool} {since limit : ℕ} {afterId : Option ℕ} {r : Row κ}
  {cursor : ℕ ×ₗ ℕ}

lemma mem_unseen : r ∈ t.unseen sees since afterId ↔
    r ∈ t.rows ∧ sees r.id = true ∧ r.behind since afterId = true := by
  rw [unseen, mem_insertionSort, mem_filter, Bool.and_eq_true]

lemma exists_of_fetchChanges (h : (t.fetchChanges sees since limit afterId).2 = some cursor) :
    ∃ r ∈ t.rows, r.feedKey = cursor := by
  obtain ⟨r, hr, hkey⟩ := Option.map_eq_some_iff.mp h
  exact ⟨r, (mem_unseen.mp (mem_of_mem_take (mem_of_getLast? hr))).1, hkey⟩

/-- A row that a reader may see and has not seen is in the next page, or ahead of the cursor behind it. -/
lemma mem_or_lt_of_fetchChanges (hr : r ∈ t.unseen sees since afterId) (hlimit : 0 < limit) :
    r ∈ (t.fetchChanges sees since limit afterId).1 ∨
      ∃ cursor, (t.fetchChanges sees since limit afterId).2 = some cursor ∧ cursor < r.feedKey := by
  have hnodup : (t.unseen sees since afterId).Nodup :=
    (perm_insertionSort _ _).nodup_iff.mpr ((t.keyed.of_map).filter _)
  have hsorted : (t.unseen sees since afterId).Pairwise Row.Before := pairwise_insertionSort _ _
  rw [← take_append_drop limit (t.unseen sees since afterId)] at hr hsorted
  rcases mem_append.mp hr with hmem | hmem
  · exact .inl hmem
  · right
    have hne : (t.unseen sees since afterId).take limit ≠ [] := by
      intro hnil
      rcases take_eq_nil_iff.mp hnil with h | h
      · omega
      · rw [h] at hmem
        simp at hmem
    obtain ⟨last, hlast⟩ : ∃ last, ((t.unseen sees since afterId).take limit).getLast? = some last :=
      Option.isSome_iff_exists.mp (by simpa using hne)
    have hlastmem := mem_of_getLast? hlast
    refine ⟨last.feedKey, by rw [fetchChanges, hlast]; rfl, lt_of_le_of_ne ?_ fun hkey => ?_⟩
    · exact (pairwise_append.mp hsorted).2.2 last hlastmem r hmem
    · -- two rows with one key are one row, which a page does not repeat
      have hid : last.id = r.id := congrArg (fun key => (ofLex key).2) hkey
      have hrows := (mem_unseen.mp (mem_of_mem_take hlastmem)).1
      obtain rfl := eq_of_id hrows (mem_unseen.mp (mem_of_mem_drop hmem)).1 hid
      exact disjoint_take_drop hnodup le_rfl hlastmem hmem

end Feed

def Stamped (low high : ℕ) (t t' : Table κ) : Prop :=
  ∀ r ∈ t'.rows, r ∈ t.rows ∨ low < r.updatedAt ∧ r.updatedAt ≤ high

def Until (high : ℕ) (t : Table κ) : Prop := ∀ r ∈ t.rows, r.updatedAt ≤ high

section Stamps

variable {t t' t'' : Table κ} {low high : ℕ} {p : Row κ → Bool} {f : Row κ → Row κ}

lemma Stamped.refl (t : Table κ) : Stamped low high t t := fun _ hr => Or.inl hr

lemma stamped_update (h : ∀ r ∈ t.rows, p r = true → low < (f r).updatedAt ∧ (f r).updatedAt ≤ high) :
    Stamped low high t (t.update p f) := by
  intro r hr
  obtain ⟨r₀, hr₀, rfl⟩ := mem_update.mp hr
  by_cases hp : p r₀ = true
  · right
    simpa [assign, hp] using h r₀ hr₀ hp
  · left
    rwa [assign, if_neg hp]

lemma stamped_insert {columns : κ} {now : ℕ} (hlow : low < now) (hhigh : now ≤ high) :
    Stamped low high t (t.insert columns now) := by
  intro r hr
  rcases mem_insert.mp hr with hr | rfl
  · exact .inl hr
  · exact .inr ⟨hlow, hhigh⟩

lemma Until.stamped (h : t.Until low) (hle : low ≤ high) (hstamped : Stamped low high t t') :
    t'.Until high := by
  intro r hr
  rcases hstamped r hr with hr | hstamp
  · exact (h r hr).trans hle
  · exact hstamp.2

lemma lt_feedKey_of_stamped {r : Row κ} {cursor : ℕ ×ₗ ℕ} (hstamp : low < r.updatedAt)
    (hcursor : (ofLex cursor).1 ≤ low) : cursor < r.feedKey :=
  Prod.Lex.lt_iff.mpr (.inl (lt_of_le_of_lt hcursor hstamp))

end Stamps

end Table

end ImmoApp
