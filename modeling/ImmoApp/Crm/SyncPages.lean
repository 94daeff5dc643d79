import ImmoApp.Foundation.Keysets
import Mathlib.Data.Int.Order.Basic
import Mathlib.Data.List.Nodup
import Mathlib.Data.Prod.Lex
import Mathlib.Data.String.Basic

/-!
# Pages of the change feeds

`fetch_changes` reads a table from a time on, page by page: the cursor of the next page is the time of the last row, and
for ten of the eleven tables its id too.  `agency_settings` has no id, so its cursor is the time alone, and the rows of
this time that are not on the page are lost.  `syncComplete_iff` says when none are.
-/

namespace ImmoApp.Sync

open List Option

structure SyncRow where
  id : ℤ
  key : String
  updatedAt : Option ℤ
  createdAt : Option ℤ
  deletedAt : Option ℤ
  content : String
  deriving DecidableEq

inductive ChangedExpr where
  /-- `COALESCE(updated_at, created_at, deleted_at)`. -/
  | coalesce
  | updatedAt
  deriving DecidableEq

inductive OrderBy where
  | changedAtId
  | updatedAtKey
  deriving DecidableEq

structure SyncTable where
  name : String
  changedExpr : ChangedExpr := .coalesce
  orderBy : OrderBy := .changedAtId
  pk : Option String := some "id"
  deriving DecidableEq

def syncTables : List SyncTable :=
  (["clients", "listings", "demandes", "offers", "offer_photos", "visits", "contracts", "contract_articles",
    "custom_locations", "wa_templates"].map fun name => { name := name }) ++
    [{ name := "agency_settings", changedExpr := .updatedAt, orderBy := .updatedAtKey, pk := none }]

namespace SyncTable

variable (t : SyncTable)

def changedAt (r : SyncRow) : Option ℤ :=
  match t.changedExpr with
  | .coalesce => (r.updatedAt.or r.createdAt).or r.deletedAt
  | .updatedAt => r.updatedAt

/-- The condition of the query; that of a `NULL` time is not true. -/
def isNewer (since : ℤ) (afterId : Option ℤ) (r : SyncRow) : Bool :=
  (t.changedAt r).any fun changed =>
    since < changed || (t.pk.isSome && afterId.any fun id => changed == since && id < r.id)

def orderKey (r : SyncRow) : ℤ ×ₗ ℤ ×ₗ String :=
  toLex ((t.changedAt r).getD 0, match t.orderBy with
    | .changedAtId => toLex (r.id, "")
    | .updatedAtKey => toLex (0, r.key))

def newer (rows : List SyncRow) (since : ℤ) (afterId : Option ℤ) : List SyncRow :=
  (rows.filter (t.isNewer since afterId)).insertionSort fun r r' => t.orderKey r ≤ t.orderKey r'

end SyncTable

/-- `fetch_changes`: the page, and the cursor of the next. -/
def fetchChanges (t : SyncTable) (rows : List SyncRow) (since : ℤ) (limit : ℕ) (afterId : Option ℤ) :
    List SyncRow × Option ℤ × Option ℤ :=
  let items := (t.newer rows since afterId).take limit
  (items, items.getLast?.bind t.changedAt, if t.pk.isSome then items.getLast?.map SyncRow.id else none)

def syncPages (t : SyncTable) (rows : List SyncRow) (limit : ℕ) : ℕ → ℤ → Option ℤ → Option (List (List SyncRow))
  | 0, _, _ => none
  | n + 1, since, afterId =>
    let page := fetchChanges t rows since limit afterId
    if page.1 = [] then some []
    else (syncPages t rows limit n (page.2.1.getD since) page.2.2).map (page.1 :: ·)

/-- The calls end and have delivered every row that changed after a time once, by the time of its change. -/
def SyncComplete (t : SyncTable) (rows : List SyncRow) (limit : ℕ) (since : ℤ) : Prop :=
  ∃ n pages, syncPages t rows limit n since none = some pages ∧
    pages.flatten.Perm (rows.filter fun r => (t.changedAt r).any fun changed => since < changed) ∧
    pages.flatten.Pairwise fun r r' => (t.changedAt r).getD 0 ≤ (t.changedAt r').getD 0

def cursorKey (t : SyncTable) (r : SyncRow) : ℤ ×ₗ ℤ :=
  toLex ((t.changedAt r).getD 0, if t.pk.isSome then r.id else 0)

/-! ### The query -/

section Query

variable {t : SyncTable} {rows : List SyncRow} {since : ℤ} {afterId : Option ℤ} {limit : ℕ}

lemma newer_perm : (t.newer rows since afterId).Perm (rows.filter (t.isNewer since afterId)) :=
  perm_insertionSort _ _

/-- A table with ids is ordered by them, the other one has none. -/
lemma orderBy_of_mem (ht : t ∈ syncTables) : t.pk.isSome = true → t.orderBy = .changedAtId := by
  revert t
  decide

lemma pairwise_newer (ht : t ∈ syncTables) :
    (t.newer rows since afterId).Pairwise fun r r' => cursorKey t r ≤ cursorKey t r' := by
  have htotal : Std.Total fun r r' : SyncRow => t.orderKey r ≤ t.orderKey r' := ⟨fun _ _ => le_total _ _⟩
  have htrans : IsTrans SyncRow fun r r' => t.orderKey r ≤ t.orderKey r' := ⟨fun _ _ _ => le_trans⟩
  refine (pairwise_insertionSort _ _).imp fun {r r'} hle => ?_
  rw [SyncTable.orderKey, SyncTable.orderKey, Prod.Lex.toLex_le_toLex] at hle
  rw [cursorKey, cursorKey, Prod.Lex.toLex_le_toLex]
  refine hle.imp_right fun h => ⟨h.1, ?_⟩
  split
  · next hpk =>
    have hids := h.2
    rw [orderBy_of_mem ht hpk, Prod.Lex.toLex_le_toLex] at hids
    rcases hids with hlt | heq
    · exact hlt.le
    · exact heq.1.le
  · exact le_rfl

lemma newer_behind {last : SyncRow} (hlast : last ∈ t.newer rows since afterId) :
    t.newer rows ((t.changedAt last).getD since) (if t.pk.isSome then some last.id else none) =
      (t.newer rows since afterId).filter fun r => cursorKey t last < cursorKey t r := by
  have htotal : Std.Total fun r r' : SyncRow => t.orderKey r ≤ t.orderKey r' := ⟨fun _ _ => le_total _ _⟩
  have htrans : IsTrans SyncRow fun r r' => t.orderKey r ≤ t.orderKey r' := ⟨fun _ _ _ => le_trans⟩
  have hnew : t.isNewer since afterId last = true := (List.mem_filter.mp (newer_perm.mem_iff.mp hlast)).2
  rw [SyncTable.newer, SyncTable.newer, filter_insertionSort, List.filter_filter]
  congr 1
  refine List.filter_congr fun r _ => ?_
  cases hc : t.changedAt last with
  | none => simp [SyncTable.isNewer, hc] at hnew
  | some =>
    cases hd : t.changedAt r with
    | none => simp [SyncTable.isNewer, hd]
    | some =>
      rw [Bool.eq_iff_iff, Bool.and_eq_true, decide_eq_true_eq, cursorKey, cursorKey, Prod.Lex.toLex_lt_toLex]
      simp only [SyncTable.isNewer, hc, hd, Option.any_some, Option.getD_some, Bool.or_eq_true, Bool.and_eq_true,
        decide_eq_true_eq] at hnew ⊢
      cases hpk : t.pk.isSome with
      | false =>
        simp only [hpk, Bool.false_eq_true, false_and, or_false, if_false, lt_irrefl, and_false] at hnew ⊢
        omega
      | true =>
        cases afterId with
        | none =>
          simp [hpk] at hnew ⊢
          omega
        | some =>
          simp [hpk] at hnew ⊢
          omega

/-- The calls read the pages behind the keys of their last rows. -/
lemma syncPages_eq {n : ℕ} : syncPages t rows limit n since afterId =
    keysetPages (cursorKey t) limit n (t.newer rows since afterId) := by
  induction n generalizing since afterId with
  | zero => rfl
  | succ n ih =>
    unfold syncPages keysetPages
    dsimp only
    have hpage : (fetchChanges t rows since limit afterId).1 = (t.newer rows since afterId).take limit := rfl
    by_cases hne : (t.newer rows since afterId).take limit = []
    · rw [if_pos (hpage.trans hne), if_pos hne]
    · obtain ⟨_, hlast⟩ := isSome_iff_exists.mp (getLast?_isSome.mpr hne)
      have hmem := mem_of_mem_take (mem_of_getLast? hlast)
      rw [if_neg fun h => hne (hpage ▸ h), if_neg hne, ih, behindPage, hlast, fetchChanges]
      simp only [hlast, bind_some, map_some]
      rw [newer_behind hmem]

end Query

lemma syncComplete_iff_noneCut {t : SyncTable} (ht : t ∈ syncTables) (rows : List SyncRow) (since : ℤ) {limit : ℕ}
    (hlimit : 0 < limit) :
    SyncComplete t rows limit since ↔ NoneCut (cursorKey t) limit (t.newer rows since none) := by
  have hsorted := @pairwise_newer t rows since none ht
  have hfilter : t.isNewer since none = fun r => (t.changedAt r).any fun changed => since < changed := by
    funext r
    simp [SyncTable.isNewer]
  have hperm := @newer_perm t rows since none
  rw [hfilter] at hperm
  constructor
  · rintro ⟨n, pages, hpages, hall, -⟩
    rw [syncPages_eq] at hpages
    refine (flatten_keysetPages_iff hsorted hpages hlimit).mp ?_
    exact (sublist_keysetPages hsorted hpages).eq_of_length (hall.trans hperm.symm).length_eq
  · intro hnone
    obtain ⟨pages, hpages⟩ := exists_keysetPages hsorted hlimit (Nat.lt_succ_self _)
    have hflat := (flatten_keysetPages_iff hsorted hpages hlimit).mpr hnone
    refine ⟨_, pages, syncPages_eq.trans hpages, hflat ▸ hperm, ?_⟩
    rw [hflat]
    refine hsorted.imp fun hle => ?_
    rw [cursorKey, cursorKey, Prod.Lex.toLex_le_toLex] at hle
    exact hle.elim le_of_lt fun h => h.1.le

/-- The calls deliver everything exactly when the table has ids, or rows with one time of change stand on one page. -/
theorem syncComplete_iff {t : SyncTable} (ht : t ∈ syncTables) {rows : List SyncRow}
    (hids : t.pk.isSome = true → (rows.map SyncRow.id).Nodup) (since : ℤ) {limit : ℕ} (hlimit : 0 < limit) :
    SyncComplete t rows limit since ↔
      (t.pk = none → NoneCut (fun r => (t.changedAt r).getD 0) limit (t.newer rows since none)) := by
  have hsorted := @pairwise_newer t rows since none ht
  rw [syncComplete_iff_noneCut ht rows since hlimit]
  cases hpk : t.pk with
  | none =>
    have hkey : ∀ r r' : SyncRow, cursorKey t r < cursorKey t r' ↔
        (t.changedAt r).getD 0 < (t.changedAt r').getD 0 := by
      intro r r'
      rw [cursorKey, cursorKey, Prod.Lex.toLex_lt_toLex]
      simp [hpk]
    simp only [NoneCut, hkey, true_imp_iff]
  | some =>
    have hnodup := hids (by rw [hpk]; rfl)
    refine ⟨fun _ h => absurd h (some_ne_none _), fun _ n a ha b hb => ?_⟩
    have hle := hsorted
    rw [← take_append_drop (n * limit) (t.newer rows since none), pairwise_append] at hle
    refine lt_of_le_of_ne (hle.2.2 a ha b hb) fun heq => ?_
    have hid : a.id = b.id := by
      have hsnd := congrArg (fun key => (ofLex key).2) heq
      simpa [cursorKey, hpk] using hsnd
    have hmem : ∀ r ∈ t.newer rows since none, r ∈ rows := fun r hr =>
      mem_of_mem_filter (newer_perm.mem_iff.mp hr)
    have hab := inj_on_of_nodup_map hnodup (hmem a (mem_of_mem_take ha)) (hmem b (mem_of_mem_drop hb)) hid
    have hdistinct : (t.newer rows since none).Nodup := newer_perm.nodup_iff.mpr (hnodup.of_map.filter _)
    exact disjoint_take_drop hdistinct le_rfl ha (hab ▸ hb)

/-- Three settings, two of which were written at once. -/
def settingsRows : List SyncRow :=
  [⟨0, "city", some 10, none, none, "Oran"⟩, ⟨0, "name", some 20, none, none, "Agence"⟩,
    ⟨0, "phone", some 20, none, none, "0550"⟩]

def agencySettings : SyncTable :=
  { name := "agency_settings", changedExpr := .updatedAt, orderBy := .updatedAtKey, pk := none }

/-- With two settings a page the last one is cut off, with one more it is not. -/
theorem syncComplete_iff_settings :
    ¬ SyncComplete agencySettings settingsRows 2 0 ∧ SyncComplete agencySettings settingsRows 3 0 := by
  rw [syncComplete_iff (by decide) (by simp [agencySettings]) 0 (by decide),
    syncComplete_iff (by decide) (by simp [agencySettings]) 0 (by decide)]
  have hnewer : agencySettings.newer settingsRows 0 none = settingsRows := by decide
  rw [hnewer]
  constructor
  · intro h
    exact absurd (h rfl 1 ⟨0, "name", some 20, none, none, "Agence"⟩ (by decide)
      ⟨0, "phone", some 20, none, none, "0550"⟩ (by decide)) (by decide)
  · intro _ n a ha b hb
    cases n with
    | zero => simp at ha
    | succ n =>
      have hlong : settingsRows.length ≤ (n + 1) * 3 := by
        change 3 ≤ _
        omega
      rw [drop_of_length_le hlong] at hb
      cases hb

/-- The setting that was written with the last one of a page is never delivered. -/
theorem cut_setting_lost : ¬ ∀ t ∈ syncTables, ∀ rows : List SyncRow,
    (t.pk.isSome = true → (rows.map SyncRow.id).Nodup) → ∀ since limit, 0 < limit → SyncComplete t rows limit since := by
  intro h
  have hcomplete := h agencySettings (by decide) settingsRows (by simp [agencySettings]) 0 2 (by decide)
  rw [syncComplete_iff_noneCut (by decide) settingsRows 0 (by decide)] at hcomplete
  exact absurd (hcomplete 1 ⟨0, "name", some 20, none, none, "Agence"⟩ (by decide)
    ⟨0, "phone", some 20, none, none, "0550"⟩ (by decide)) (by decide)

end ImmoApp.Sync
