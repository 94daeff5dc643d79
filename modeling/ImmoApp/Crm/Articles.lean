import Mathlib.Data.Int.Order.Basic
import Mathlib.Data.List.Nodup
import Mathlib.Data.List.Perm.Basic
import Mathlib.Data.List.Sort
import Mathlib.Tactic.Common

/-!
# Contract articles

The articles of a contract and their numbers.  Articles are deleted softly: `get_articles_for_contract` leaves deleted
ones out, `renumber_articles` counts them and writes only the others.  So it numbers the live articles without gaps
exactly when they come before the deleted ones (`renumbered_iff`).
-/

namespace ImmoApp.Articles

open List

structure Article where
  id : ℕ
  agencyId : Option ℕ
  contractId : ℕ
  articleNumber : ℤ
  title : String
  content : String
  isStandard : Bool
  isRequired : Bool
  createdAt : String
  updatedAt : String
  deletedAt : Option String
  rowVersion : ℕ
  deriving DecidableEq

/-- `deleted_at IS NULL`. -/
def Article.live (a : Article) : Bool := a.deletedAt.isNone

structure ArticleDb where
  articles : List Article
  nextId : ℕ

inductive ArticleError where
  | notFound (message : String)
  | conflict (message : String) (currentVersion : ℕ) (currentRecord : Article)

/-- `UPDATE … WHERE`: the table, and the number of rows. -/
def ArticleDb.update (db : ArticleDb) (p : Article → Bool) (f : Article → Article) : ArticleDb × ℕ :=
  ({ db with articles := db.articles.map fun a => if p a then f a else a }, db.articles.countP p)

section Repository

variable (db : ArticleDb)

/-- `create_article`; `contracts` gives the agency of a contract that is not deleted. -/
def createArticle (contracts : ℕ → Option (Option ℕ)) (contractId : ℕ) (articleNumber : ℤ) (title content : String)
    (isStandard isRequired : Bool) (now : String) : Except ArticleError (ArticleDb × ℕ) :=
  match contracts contractId with
  | none => .error (.notFound "Contract not found")
  | some agencyId =>
    .ok (⟨db.articles ++ [⟨db.nextId, agencyId, contractId, articleNumber, title, content, isStandard, isRequired,
      now, now, none, 1⟩], db.nextId + 1⟩, db.nextId)

/-- The rows of `get_articles_for_contract`, which it returns by number. -/
def liveArticles (contractId : ℕ) : List Article := db.articles.filter fun a => a.contractId == contractId && a.live

def updateArticle (articleId : ℕ) (title content : String) (rowVersion : Option ℕ) (now : String) :
    Except ArticleError (ArticleDb × Bool) :=
  let write (a : Article) : Article :=
    { a with title := title, content := content, updatedAt := now, rowVersion := a.rowVersion + 1 }
  match rowVersion with
  | none =>
    let updated := db.update (fun a => a.id == articleId && a.live) write
    .ok (updated.1, 0 < updated.2)
  | some version =>
    let updated := db.update (fun a => a.id == articleId && a.live && a.rowVersion == version) write
    match updated.2, db.articles.find? fun a => a.id == articleId with
    | 0, some current =>
      .error (.conflict "Article was updated by another user. Please refresh and try again." current.rowVersion current)
    | count, _ => .ok (updated.1, 0 < count)

def deleteArticle (articleId : ℕ) (now : String) : ArticleDb × Bool :=
  match db.articles.find? fun a => a.id == articleId && a.live with
  | none => (db, false)
  | some row =>
    if row.isRequired then (db, false)
    else
      let deleted := db.update (fun a => a.id == articleId && a.live)
        fun a => { a with deletedAt := some now, updatedAt := now, rowVersion := a.rowVersion + 1 }
      (deleted.1, 0 < deleted.2)

/-- What the query of `renumber_articles` may return: the rows of the contract by number, in any order where numbers
agree. -/
def Returned (contractId : ℕ) (rows : List Article) : Prop :=
  rows.Perm (db.articles.filter fun a => a.contractId == contractId) ∧
    rows.Pairwise fun a b => a.articleNumber ≤ b.articleNumber

/-- The body of the loop of `renumber_articles`; `clock` gives the time of each statement. -/
def renumberRow (clock : ℕ → String) (row : Article × ℕ) : ArticleDb :=
  (db.update (fun a => a.id == row.1.id && a.live) fun a =>
    { a with articleNumber := row.2, updatedAt := clock row.2, rowVersion := a.rowVersion + 1 }).1

/-- `renumber_articles`, with the rows that its query returned. -/
def renumberArticles (rows : List Article) (clock : ℕ → String) : ArticleDb :=
  (rows.zipIdx 1).foldl (fun db => renumberRow db clock) db

end Repository

inductive Reachable (contracts : ℕ → Option (Option ℕ)) : ArticleDb → Prop
  | empty : Reachable contracts ⟨[], 1⟩
  | create {db : ArticleDb} {r : ArticleDb × ℕ} {contractId : ℕ} {number : ℤ} {title content : String}
      {isStandard isRequired : Bool} {now : String} (h : Reachable contracts db)
      (hr : createArticle db contracts contractId number title content isStandard isRequired now = .ok r) :
      Reachable contracts r.1
  | update {db : ArticleDb} {r : ArticleDb × Bool} {articleId : ℕ} {title content : String} {rowVersion : Option ℕ}
      {now : String} (h : Reachable contracts db)
      (hr : updateArticle db articleId title content rowVersion now = .ok r) : Reachable contracts r.1
  | delete {db : ArticleDb} (articleId : ℕ) (now : String) (h : Reachable contracts db) :
      Reachable contracts (deleteArticle db articleId now).1
  | renumber {db : ArticleDb} {contractId : ℕ} {rows : List Article} (clock : ℕ → String) (h : Reachable contracts db)
      (hrows : Returned db contractId rows) : Reachable contracts (renumberArticles db rows clock)

/-- The live articles of the contract are numbered from one without gaps, in the order of their numbers before, and the
articles of other contracts are as before. -/
structure Renumbered (contractId : ℕ) (db after : ArticleDb) : Prop where
  numbers : ((liveArticles after contractId).map Article.articleNumber).Perm
    ((List.range' 1 (liveArticles after contractId).length).map Nat.cast)
  ordered : ∀ a ∈ liveArticles db contractId, ∀ b ∈ liveArticles db contractId, a.articleNumber < b.articleNumber →
    ∃ a' ∈ liveArticles after contractId, ∃ b' ∈ liveArticles after contractId,
      a'.id = a.id ∧ b'.id = b.id ∧ a'.articleNumber < b'.articleNumber
  others : (after.articles.filter fun a => a.contractId != contractId) =
    db.articles.filter fun a => a.contractId != contractId

/-- The live articles of a contract have smaller numbers than its deleted ones. -/
def DeletedLast (contractId : ℕ) (db : ArticleDb) : Prop :=
  ∀ a ∈ liveArticles db contractId, ∀ d ∈ db.articles, d.contractId = contractId → d.live = false →
    a.articleNumber < d.articleNumber

/-! ### Ids -/

/-- The ids of the table are given out once, below the next one. -/
structure DistinctIds (db : ArticleDb) : Prop where
  nodup : (db.articles.map Article.id).Nodup
  below : ∀ a ∈ db.articles, a.id < db.nextId

lemma DistinctIds.map {db : ArticleDb} (h : DistinctIds db) {f : Article → Article} (hid : ∀ a, (f a).id = a.id) :
    DistinctIds { db with articles := db.articles.map f } := by
  have hids : (db.articles.map f).map Article.id = db.articles.map Article.id := by
    rw [map_map]
    exact map_congr_left fun a _ => hid a
  refine ⟨hids ▸ h.nodup, fun a ha => ?_⟩
  obtain ⟨b, hb, rfl⟩ := mem_map.mp ha
  exact (hid b).symm ▸ h.below b hb

lemma DistinctIds.update {db : ArticleDb} (h : DistinctIds db) {p : Article → Bool} {f : Article → Article}
    (hid : ∀ a, (f a).id = a.id) : DistinctIds (db.update p f).1 := by
  refine h.map fun a => ?_
  split
  · exact hid a
  · rfl

lemma Reachable.distinctIds {contracts : ℕ → Option (Option ℕ)} {db : ArticleDb} (h : Reachable contracts db) :
    DistinctIds db := by
  induction h with
  | empty => exact ⟨nodup_nil, by simp⟩
  | create _ hr ih =>
    unfold createArticle at hr
    split at hr
    · cases hr
    · obtain ⟨⟩ := hr
      constructor
      · rw [map_append]
        refine nodup_append.mpr ⟨ih.nodup, nodup_singleton _, fun x hx y hy => ?_⟩
        obtain ⟨a, ha, rfl⟩ := mem_map.mp hx
        rw [mem_singleton.mp hy]
        exact Nat.ne_of_lt (ih.below a ha)
      · intro a ha
        rcases mem_append.mp ha with ha | ha
        · exact Nat.lt_succ_of_lt (ih.below a ha)
        · rw [mem_singleton.mp ha]
          exact Nat.lt_succ_self _
  | update _ hr ih =>
    unfold updateArticle at hr
    dsimp only at hr
    split at hr
    · obtain ⟨⟩ := hr
      exact ih.update fun _ => rfl
    · split at hr
      · cases hr
      · obtain ⟨⟩ := hr
        exact ih.update fun _ => rfl
  | delete _ _ _ ih =>
    unfold deleteArticle
    split
    · exact ih
    · split
      · exact ih
      · exact ih.update fun _ => rfl
  | renumber _ _ _ ih =>
    exact List.foldlRecOn _ (motive := DistinctIds) _ ih fun _ hdb _ _ => hdb.update fun _ => rfl

/-! ### The loop -/

/-- An article as the loop leaves it: the place of its id among those of the rows, counted from `k`. -/
def numbered (ids : List ℕ) (clock : ℕ → String) (k : ℕ) (a : Article) : Article :=
  if a.live ∧ a.id ∈ ids then
    { a with
      articleNumber := (ids.idxOf a.id + k : ℕ)
      updatedAt := clock (ids.idxOf a.id + k)
      rowVersion := a.rowVersion + 1 }
  else a

@[simp] lemma id_numbered (ids : List ℕ) (clock : ℕ → String) (k : ℕ) (a : Article) :
    (numbered ids clock k a).id = a.id := by
  unfold numbered
  split <;> rfl

@[simp] lemma contractId_numbered (ids : List ℕ) (clock : ℕ → String) (k : ℕ) (a : Article) :
    (numbered ids clock k a).contractId = a.contractId := by
  unfold numbered
  split <;> rfl

@[simp] lemma live_numbered (ids : List ℕ) (clock : ℕ → String) (k : ℕ) (a : Article) :
    (numbered ids clock k a).live = a.live := by
  unfold numbered
  split <;> rfl

lemma foldl_renumberRow {rows : List Article} (hnodup : (rows.map Article.id).Nodup) (db : ArticleDb)
    (clock : ℕ → String) (k : ℕ) : (rows.zipIdx k).foldl (fun db => renumberRow db clock) db =
      { db with articles := db.articles.map (numbered (rows.map Article.id) clock k) } := by
  induction rows generalizing db k with
  | nil =>
    have hsame : numbered [] clock k = id := funext fun a => if_neg fun h => not_mem_nil h.2
    simp [hsame]
  | cons row rest ih =>
    obtain ⟨hfresh, hrest⟩ := nodup_cons.mp hnodup
    rw [zipIdx_cons, foldl_cons, ih hrest]
    simp only [renumberRow, ArticleDb.update, map_map, ArticleDb.mk.injEq, and_true]
    refine map_congr_left fun a _ => ?_
    have hfresh' : row.id ∉ rest.map Article.id := hfresh
    by_cases hrow : a.id = row.id
    · cases hlive : a.live with
      | false => simp [numbered, hlive]
      | true =>
        have hagain : ∀ a' : Article, a'.id = row.id → numbered (rest.map Article.id) clock (k + 1) a' = a' :=
          fun a' ha' => if_neg fun h => hfresh' (ha' ▸ h.2)
        rw [Function.comp, if_pos (by simp [hrow, hlive])]
        refine (hagain _ ?_).trans ?_
        · exact hrow
        · simp [numbered, hrow, hlive]
    · have hplace : (row.id :: rest.map Article.id).idxOf a.id + k = (rest.map Article.id).idxOf a.id + (k + 1) := by
        rw [idxOf_cons_ne _ (Ne.symm hrow)]
        omega
      simp [hrow, numbered, hplace]

section Order

variable {rows : List Article} {R : Article → Article → Prop}

lemma idxOf_lt_idxOf (hnodup : (rows.map Article.id).Nodup) (hrows : rows.Pairwise R) {a b : Article}
    (ha : a ∈ rows) (hb : b ∈ rows) (hne : a.id ≠ b.id) (hnot : ¬ R b a) :
    (rows.map Article.id).idxOf a.id < (rows.map Article.id).idxOf b.id := by
  induction rows with
  | nil => cases ha
  | cons row rest ih =>
    obtain ⟨hfresh, hnodup'⟩ := nodup_cons.mp hnodup
    obtain ⟨hfirst, hrest⟩ := pairwise_cons.mp hrows
    rw [map_cons]
    rcases mem_cons.mp ha with rfl | ha'
    · rw [idxOf_cons_self, idxOf_cons_ne _ hne]
      exact Nat.succ_pos _
    · rcases mem_cons.mp hb with rfl | hb'
      · exact absurd (hfirst a ha') hnot
      · have hrow : ∀ x ∈ rest, row.id ≠ x.id := fun x hx h => hfresh (h ▸ mem_map_of_mem hx)
        rw [idxOf_cons_ne _ (hrow a ha'), idxOf_cons_ne _ (hrow b hb')]
        exact Nat.succ_lt_succ (ih hnodup' hrest ha' hb')

/-- Rows that satisfy a condition only where all before do are those that do and then the others. -/
lemma filter_append_filter (p : Article → Bool) (h : rows.Pairwise fun x y => p y = true → p x = true) :
    rows.filter p ++ (rows.filter fun a => !p a) = rows := by
  induction rows with
  | nil => rfl
  | cons row rest ih =>
    obtain ⟨hfirst, hrest⟩ := pairwise_cons.mp h
    cases hrow : p row with
    | true => simp [hrow, ih hrest]
    | false =>
      have hnone : ∀ y ∈ rest, p y = false := fun y hy => by
        cases hy' : p y with
        | false => rfl
        | true => exact absurd (hfirst y hy hy') (by simp [hrow])
      have hnil : rest.filter p = [] := filter_eq_nil_iff.mpr fun y hy => by simp [hnone y hy]
      have hall : rest.filter (fun a => !p a) = rest := filter_eq_self.mpr fun y hy => by simp [hnone y hy]
      simp [hrow, hnil, hall]

end Order

/-! ### Renumbering -/

section Renumbering

variable {db : ArticleDb} {contractId : ℕ} {rows : List Article} {clock : ℕ → String}

lemma mem_liveArticles {a : Article} :
    a ∈ liveArticles db contractId ↔ a ∈ db.articles ∧ a.contractId = contractId ∧ a.live = true := by
  simp [liveArticles]

section

variable (h : Returned db contractId rows)
include h

lemma Returned.mem_iff {a : Article} : a ∈ rows ↔ a ∈ db.articles ∧ a.contractId = contractId := by
  rw [h.1.mem_iff]
  simp

lemma Returned.nodup (hdb : DistinctIds db) : (rows.map Article.id).Nodup :=
  (h.1.map Article.id).nodup_iff.mpr (hdb.nodup.sublist (filter_sublist.map Article.id))

lemma liveArticles_renumberArticles (hdb : DistinctIds db) :
    liveArticles (renumberArticles db rows clock) contractId =
      (liveArticles db contractId).map (numbered (rows.map Article.id) clock 1) := by
  rw [renumberArticles, foldl_renumberRow (h.nodup hdb), liveArticles, liveArticles, filter_map]
  congr 1
  exact filter_congr fun a _ => by simp

lemma articleNumber_numbered {a : Article} (ha : a ∈ liveArticles db contractId) :
    (numbered (rows.map Article.id) clock 1 a).articleNumber = ((rows.map Article.id).idxOf a.id + 1 : ℕ) := by
  obtain ⟨hmem, hcontract, hlive⟩ := mem_liveArticles.mp ha
  rw [numbered, if_pos ⟨hlive, mem_map_of_mem (h.mem_iff.mpr ⟨hmem, hcontract⟩)⟩]

lemma renumbered_of_numbers (hdb : DistinctIds db)
    (hnumbers : ((liveArticles db contractId).map fun a => (rows.map Article.id).idxOf a.id + 1).Perm
      (List.range' 1 (liveArticles db contractId).length)) :
    Renumbered contractId db (renumberArticles db rows clock) := by
  have hlive := @liveArticles_renumberArticles db contractId rows clock h hdb
  refine ⟨?_, fun a ha b hb hlt => ?_, ?_⟩
  · rw [hlive, length_map, map_map]
    refine List.Perm.trans (Perm.of_eq ?_) (hnumbers.map Nat.cast)
    rw [map_map]
    exact map_congr_left fun a ha => articleNumber_numbered h ha
  · refine ⟨_, hlive ▸ mem_map_of_mem ha, _, hlive ▸ mem_map_of_mem hb, id_numbered _ _ _ _,
      id_numbered _ _ _ _, ?_⟩
    rw [articleNumber_numbered h ha, articleNumber_numbered h hb]
    obtain ⟨hamem, hacontract, -⟩ := mem_liveArticles.mp ha
    obtain ⟨hbmem, hbcontract, -⟩ := mem_liveArticles.mp hb
    have hne : a.id ≠ b.id := fun hid => by
      rw [inj_on_of_nodup_map hdb.nodup hamem hbmem hid] at hlt
      omega
    have hidx := idxOf_lt_idxOf (h.nodup hdb) h.2 (h.mem_iff.mpr ⟨hamem, hacontract⟩)
      (h.mem_iff.mpr ⟨hbmem, hbcontract⟩) hne (not_le.mpr hlt)
    omega
  · rw [renumberArticles, foldl_renumberRow (h.nodup hdb), filter_map]
    have hfilter : (fun a : Article => a.contractId != contractId) ∘ numbered (rows.map Article.id) clock 1 =
        fun a => a.contractId != contractId := funext fun a => by simp
    rw [hfilter]
    conv_rhs => rw [← map_id (db.articles.filter _)]
    refine map_congr_left fun a ha => if_neg fun hin => ?_
    obtain ⟨hmem, hother⟩ := mem_filter.mp ha
    obtain ⟨_, hrow, hid⟩ := mem_map.mp hin.2
    obtain ⟨hrowMem, hrowContract⟩ := h.mem_iff.mp hrow
    rw [← inj_on_of_nodup_map hdb.nodup hrowMem hmem hid] at hother
    simp [hrowContract] at hother

end

lemma map_idxOf_prefix {first rest : List Article} (hnodup : ((first ++ rest).map Article.id).Nodup) :
    (first.map fun a => ((first ++ rest).map Article.id).idxOf a.id + 1) = List.range' 1 first.length := by
  refine ext_getElem (by simp) fun i hi _ => ?_
  have hlength : i < first.length := by simpa using hi
  have hi' : i < ((first ++ rest).map Article.id).length := by simp; omega
  have hplace := hnodup.idxOf_getElem i hi'
  have hget : ((first ++ rest).map Article.id)[i] = (first[i]).id := by
    rw [getElem_map, getElem_append_left hlength]
  rw [hget] at hplace
  rw [getElem_map, getElem_range', hplace, Nat.one_mul, Nat.add_comm]

/-- In every sequence of calls: whatever order the rows come in, a contract is renumbered rightly exactly when its live
articles come before its deleted ones. -/
theorem renumbered_iff {contracts : ℕ → Option (Option ℕ)} {db : ArticleDb} (hdb : Reachable contracts db)
    (contractId : ℕ) : (∀ rows clock, Returned db contractId rows →
      Renumbered contractId db (renumberArticles db rows clock)) ↔ DeletedLast contractId db := by
  have hids := hdb.distinctIds
  constructor
  · intro h a ha d hd hcontract hdead
    by_contra hnot
    obtain ⟨hamem, hacontract, halive⟩ := mem_liveArticles.mp ha
    -- The rows by number, deleted ones first where numbers agree.
    let key (a : Article) : ℤ := 2 * a.articleNumber + if a.live then 1 else 0
    have htotal : Std.Total fun x y : Article => key x ≤ key y := ⟨fun x y => le_total _ _⟩
    have htrans : IsTrans Article fun x y => key x ≤ key y := ⟨fun x y z => le_trans⟩
    let rows := (db.articles.filter fun a => a.contractId == contractId).insertionSort fun x y => key x ≤ key y
    have hsorted : rows.Pairwise fun x y => key x ≤ key y := pairwise_insertionSort _ _
    have hreturned : Returned db contractId rows := by
      refine ⟨perm_insertionSort _ _, hsorted.imp fun hle => ?_⟩
      dsimp only [key] at hle
      split at hle <;> split at hle <;> omega
    have hkey : ¬ key a ≤ key d := by
      simp only [key, halive, hdead, if_true, Bool.false_eq_true, if_false]
      omega
    have hmemRows : d ∈ rows := hreturned.mem_iff.mpr ⟨hd, hcontract⟩
    have hplaces : (rows.map Article.id).idxOf d.id < (rows.map Article.id).idxOf a.id := by
      refine idxOf_lt_idxOf (hreturned.nodup hids) hsorted hmemRows (hreturned.mem_iff.mpr ⟨hamem, hacontract⟩)
        (fun hid => ?_) hkey
      rw [inj_on_of_nodup_map hids.nodup hd hamem hid, halive] at hdead
      cases hdead
    -- So the place of the deleted article is a number that a live one must have.
    have hnumbers := (h rows (fun _ => "") hreturned).numbers
    rw [liveArticles_renumberArticles hreturned hids, map_map, length_map] at hnumbers
    have hnumber := fun b => @articleNumber_numbered db contractId rows (fun _ => "") hreturned b
    obtain ⟨n, hn, hna⟩ := mem_map.mp (hnumbers.mem_iff.mp (mem_map_of_mem ha))
    rw [Function.comp, hnumber a ha] at hna
    rw [mem_range'_1] at hn
    have hplace : (rows.map Article.id).idxOf d.id + 1 ∈ List.range' 1 (liveArticles db contractId).length := by
      rw [mem_range'_1]
      omega
    obtain ⟨b, hb, hbd⟩ := mem_map.mp (hnumbers.mem_iff.mpr (mem_map_of_mem hplace))
    rw [Function.comp, hnumber b hb] at hbd
    have hid : d.id = b.id := (idxOf_inj (mem_map_of_mem hmemRows)).mp (by omega)
    obtain ⟨hbmem, -, hblive⟩ := mem_liveArticles.mp hb
    rw [inj_on_of_nodup_map hids.nodup hd hbmem hid, hblive] at hdead
    cases hdead
  · intro hlast rows clock hreturned
    refine renumbered_of_numbers hreturned hids ?_
    have hlater : rows.Pairwise fun x y => y.live = true → x.live = true := by
      refine hreturned.2.imp_of_mem fun {x y} hx hy hle hy' => ?_
      obtain ⟨hxmem, hxcontract⟩ := hreturned.mem_iff.mp hx
      obtain ⟨hymem, hycontract⟩ := hreturned.mem_iff.mp hy
      cases hx' : x.live with
      | true => rfl
      | false =>
        have hlt := hlast y (mem_liveArticles.mpr ⟨hymem, hycontract, hy'⟩) x hxmem hxcontract hx'
        exact absurd hle (not_le.mpr hlt)
    have hsplit := filter_append_filter Article.live hlater
    have hperm : (liveArticles db contractId).Perm (rows.filter Article.live) := by
      refine List.Perm.trans (Perm.of_eq ?_) (hreturned.1.filter Article.live).symm
      rw [filter_filter, liveArticles]
      exact filter_congr fun a _ => Bool.and_comm _ _
    have hfront := map_idxOf_prefix (hsplit.symm ▸ hreturned.nodup hids)
    rw [hsplit] at hfront
    rw [hperm.length_eq, ← hfront]
    exact hperm.map _

def firstDeleted : ArticleDb where
  articles := [⟨1, some 3, 7, 1, "Objet", "Visite", false, false, "t0", "t2", some "t2", 2⟩,
    ⟨2, some 3, 7, 2, "Prix", "Loyer", false, false, "t1", "t1", none, 1⟩]
  nextId := 3

lemma reachable_firstDeleted : Reachable (fun _ => some (some 3)) firstDeleted := by
  have hfirst : Reachable (fun _ => some (some 3)) _ := .create .empty
    (rfl : createArticle _ _ 7 1 "Objet" "Visite" false false "t0" = _)
  have hsecond : Reachable (fun _ => some (some 3)) _ := .create hfirst
    (rfl : createArticle _ _ 7 2 "Prix" "Loyer" false false "t1" = _)
  exact hsecond.delete 1 "t2"

theorem renumbered_iff_firstDeleted : ¬ ∀ rows clock, Returned firstDeleted 7 rows →
    Renumbered 7 firstDeleted (renumberArticles firstDeleted rows clock) := by
  rw [renumbered_iff reachable_firstDeleted 7]
  unfold DeletedLast
  decide

theorem deleted_article_counted : ¬ ∀ (contracts : ℕ → Option (Option ℕ)) (db : ArticleDb), Reachable contracts db →
    ∀ contractId rows clock, Returned db contractId rows →
      Renumbered contractId db (renumberArticles db rows clock) := by
  intro h
  have hrenumbered := h _ _ reachable_firstDeleted 7 firstDeleted.articles (fun _ => "t3") ⟨by decide, by decide⟩
  exact absurd hrenumbered.numbers (by decide)

end Renumbering

end ImmoApp.Articles
