import ImmoApp.Api.ClientPages
import ImmoApp.Crm.SearchKeys
import ImmoApp.Crm.SurfaceCaches

/-!
# Pages with their total

The server lists clients and listings with an offset and a limit, and says how many there are.  It walks to the offset
from cursor to cursor in steps of the limit.  It counts the rows only where the page is full: a page that is short is
taken for the last one, so that the total is the offset and the rows of the page.

`fetch_with_count_iff` says that the page is always the slice of the filtered list, and when the total is its length.
The tables are those that row-level security shows to the session.
-/

namespace ImmoApp.Api

open List Option

namespace ServerPages

open Crm

/-! ### Queries -/

/-- What the queries name of a table of people, and of the one that is joined to it for a search. -/
structure PeopleList (κ κ' : Type) where
  agencyId : κ → ℕ
  status : κ → String
  familyNameSearchIdx : κ → List String
  phoneSearchIdx : κ → List String
  phone : κ → String
  remarks : κ → String
  ownerId : κ' → ℕ
  joinedAgencyId : κ' → ℕ
  joinFields : κ' → List String

/-- The queries of `client_repo_read.py`. -/
def clientList : PeopleList ClientColumns DemandeColumns where
  agencyId := ClientColumns.agencyId
  status := fun c => c.status.text
  familyNameSearchIdx := ClientColumns.familyNameSearchIdx
  phoneSearchIdx := ClientColumns.phoneSearchIdx
  phone := ClientColumns.phone
  remarks := ClientColumns.remarks
  ownerId := DemandeColumns.clientId
  joinedAgencyId := DemandeColumns.agencyId
  joinFields := fun d => [d.type, d.action, d.locations]

/-- The queries of `listing_repo_read.py`. -/
def listingList : PeopleList ListingColumns OfferColumns where
  agencyId := ListingColumns.agencyId
  status := fun l => l.status.text
  familyNameSearchIdx := ListingColumns.familyNameSearchIdx
  phoneSearchIdx := ListingColumns.phoneSearchIdx
  phone := ListingColumns.phone
  remarks := ListingColumns.remarks
  ownerId := OfferColumns.listingId
  joinedAgencyId := OfferColumns.agencyId
  joinFields := fun o => [o.type, o.action, o.location, o.wilaya]

structure PageSession where
  agencyId : Option ℕ
  superuser : Bool
  versions : String × String

structure SqlText where
  lower : String → String
  like : String → String → Bool

structure PageFilter where
  search : String
  status : Option String
  includeDeleted : Bool

/-- `ORDER BY id DESC`. -/
def orderById {κ : Type} (rows : List (Row κ)) : List (Row κ) := rows.insertionSort fun a b => b.id ≤ a.id

section Queries

variable (backend : SearchBackend) (env : SearchEnv) (sql : SqlText) (session : PageSession) {κ κ' : Type}
  (list : PeopleList κ κ') (filter : PageFilter)

def tenantCondition (agencyId : ℕ) : Bool :=
  match session.agencyId with
  | none => session.superuser
  | some current => agencyId == current

/-- `build_people_search_conditions`, for a row of the join. -/
def buildPeopleSearchConditions (search : String) (person : κ) (joined : Option κ') : Bool :=
  let normPhone := phoneDigits backend.digit search
  let phoneBidx :=
    if normPhone = "" then "" else maskBidxPrefix ++ blindIndex backend env session.agencyId normPhone
  let searchLower := "%" ++ backend.unicode.lower search ++ "%"
  let trigrams := backend.hashTrigrams session.versions search
  (list.familyNameSearchIdx person).any trigrams.contains || (list.phoneSearchIdx person).any trigrams.contains ||
    list.phone person == phoneBidx || sql.like (sql.lower (list.remarks person)) searchLower ||
    joined.any fun other => (list.joinFields other).any fun field => sql.like (sql.lower field) searchLower

def joinedRows (others : Table κ') (person : Row κ) : List (Row κ') :=
  others.rows.filter fun o => list.ownerId o.columns == person.id &&
    list.joinedAgencyId o.columns == list.agencyId person.columns && o.live

/-- The `LEFT JOIN` of a search. -/
def leftJoin (people : Table κ) (others : Table κ') : List (Row κ × Option κ') :=
  people.rows.flatMap fun person =>
    match joinedRows list others person with
    | [] => [(person, none)]
    | found => found.map fun o => (person, some o.columns)

def conditions (cursor : Option ℕ) (person : Row κ) : Bool :=
  tenantCondition session (list.agencyId person.columns) &&
    (filter.status.all fun s => s == "" || s == list.status person.columns) &&
    (filter.includeDeleted || person.live) && cursor.all fun c => decide (person.id < c)

def searchRows (people : Table κ) (others : Table κ') (cursor : Option ℕ) : List (Row κ × Option κ') :=
  (leftJoin list people others).filter fun e => conditions session list filter cursor e.1 &&
    buildPeopleSearchConditions backend env sql session list filter.search e.1.columns e.2

variable [DecidableEq κ] (people : Table κ) (others : Table κ')

/-- `SELECT … FROM … WHERE …`, with `DISTINCT` in a search. -/
def selectRows (cursor : Option ℕ) : List (Row κ) :=
  if filter.search = "" then people.rows.filter (conditions session list filter cursor)
  else ((searchRows backend env sql session list filter people others cursor).map Prod.fst).dedup

/-- `get_total_client_count` and `get_total_listing_count`. -/
def countRows : ℕ :=
  if filter.search = "" then (people.rows.filter (conditions session list filter none)).length
  else ((searchRows backend env sql session list filter people others none).map fun e => e.1.id).dedup.length

/-- `fetch_clients_cursor` and `fetch_listings_cursor`. -/
def fetchCursor (limit : ℕ) (cursor : Option ℕ) : List (Row κ) :=
  (orderById (selectRows backend env sql session list filter people others cursor)).take limit

/-- `fetch_clients` and `fetch_listings` of the repositories; a negative limit or offset raises. -/
def fetchRows (limit : Option ℤ) (offset : ℤ) : Option (List (Row κ)) :=
  let rows := orderById (selectRows backend env sql session list filter people others none)
  match limit with
  | none => some rows
  | some n => if n < 0 ∨ offset < 0 then none else some ((rows.drop offset.toNat).take n.toNat)

def pageRound (limit offset : ℕ) (w : PageWalk) : PageWalk :=
  let step := min limit (offset - w.current)
  let page := fetchCursor backend env sql session list filter people others step w.cursor
  let cursor := (lastKey Row.id page).filter (0 < ·)
  if page.length < step then { w with current := w.current + page.length, ended := true }
  else ⟨w.current + page.length, cursor, cursor.isNone⟩

/-- `_fetch_clients_page` and `_fetch_listings_page`. -/
def fetchPage (limit : Option ℤ) (offset : ℤ) : Option (List (Row κ)) :=
  match limit.filter (0 < ·) with
  | none => fetchRows backend env sql session list filter people others limit offset
  | some n =>
    if offset < 0 then fetchRows backend env sql session list filter people others limit offset
    else
      let w := whileFor (PageWalk.goes offset.toNat)
        (pageRound backend env sql session list filter people others n.toNat offset.toNat) offset.toNat
        ⟨0, none, false⟩
      some (if w.ended then [] else fetchCursor backend env sql session list filter people others n.toNat w.cursor)

/-- `_infer_client_total` and `_infer_listing_total`. -/
def inferTotal (limit : Option ℤ) (offset : ℤ) (itemCount : ℕ) : Option ℤ :=
  (limit.filter (0 < ·)).bind fun n => if itemCount < n then some (max 0 offset + itemCount) else none

def fetchWithCount (limit : Option ℤ) (offset : ℤ) : Option (List (Row κ) × ℤ) :=
  (fetchPage backend env sql session list filter people others limit offset).map fun items =>
    (items, (inferTotal limit offset items.length).getD (countRows backend env sql session list filter people others))

end Queries

section Lists

variable (backend : SearchBackend) (env : SearchEnv) (sql : SqlText) (session : PageSession) (filter : PageFilter)
  (db : Db)

def fetchClientsWithCount (limit : Option ℤ) (offset : ℤ) : Option (List (Row ClientColumns) × ℤ) :=
  fetchWithCount backend env sql session clientList filter db.clients db.demandes limit offset

def fetchListingsWithCount (limit : Option ℤ) (offset : ℤ) : Option (List (Row ListingColumns) × ℤ) :=
  fetchWithCount backend env sql session listingList filter db.listings db.offers limit offset

end Lists

/-! ### The filtered list -/

section Filtered

variable {backend : SearchBackend} {env : SearchEnv} {sql : SqlText} {session : PageSession} {κ κ' : Type}
  {list : PeopleList κ κ'} {filter : PageFilter}

variable (backend env sql session list filter) in
/-- The filter selects a record: the record or one that belongs to it has what is searched for. -/
def selects (others : Table κ') (person : Row κ) : Bool :=
  conditions session list filter none person && (filter.search == "" ||
    buildPeopleSearchConditions backend env sql session list filter.search person.columns none ||
    (joinedRows list others person).any fun o =>
      buildPeopleSearchConditions backend env sql session list filter.search person.columns (some o.columns))

variable (backend env sql session list filter) in
def filteredList (people : Table κ) (others : Table κ') : List (Row κ) :=
  orderById (people.rows.filter (selects backend env sql session list filter others))

lemma pairwise_orderById {rows : List (Row κ)} (h : (rows.map Row.id).Nodup) :
    (orderById rows).Pairwise fun a b => b.id < a.id := by
  have hle : (orderById rows).Pairwise fun a b => b.id ≤ a.id := pairwise_insertionSort _ _
  have hne : ((orderById rows).map Row.id).Nodup :=
    ((perm_insertionSort _ rows).map Row.id).nodup_iff.mpr h
  refine (hle.and (pairwise_map.mp hne)).imp ?_
  rintro a b ⟨_, _⟩
  omega

variable {people : Table κ} {others : Table κ'}

lemma nodup_filter (p : Row κ → Bool) : ((people.rows.filter p).map Row.id).Nodup :=
  people.keyed.sublist (filter_sublist.map Row.id)

lemma conditions_cursor (cursor : Option ℕ) (person : Row κ) : conditions session list filter cursor person =
      (conditions session list filter none person && cursor.all fun c => decide (person.id < c)) := by
  simp [conditions]

lemma mem_leftJoin {person : Row κ} {joined : Option κ'} :
    (person, joined) ∈ leftJoin list people others ↔ person ∈ people.rows ∧
      ((joinedRows list others person = [] ∧ joined = none) ∨
        ∃ o ∈ joinedRows list others person, joined = some o.columns) := by
  simp only [leftJoin, mem_flatMap]
  constructor
  · rintro ⟨person', hperson, hmem⟩
    cases hfound : joinedRows list others person' with
    | nil =>
      rw [hfound, mem_singleton, Prod.mk.injEq] at hmem
      obtain ⟨rfl, rfl⟩ := hmem
      exact ⟨hperson, .inl ⟨hfound, rfl⟩⟩
    | cons =>
      rw [hfound] at hmem
      obtain ⟨o', ho', heq⟩ := mem_map.mp hmem
      obtain ⟨rfl, rfl⟩ := Prod.mk.inj heq
      exact ⟨hperson, .inr ⟨o', hfound ▸ ho', rfl⟩⟩
  · rintro ⟨hperson, ⟨hnone, rfl⟩ | ⟨o, ho, rfl⟩⟩
    · exact ⟨person, hperson, by rw [hnone]; exact mem_singleton.mpr rfl⟩
    · refine ⟨person, hperson, ?_⟩
      cases hfound : joinedRows list others person with
      | nil =>
        rw [hfound] at ho
        cases ho
      | cons =>
        rw [hfound] at ho
        exact mem_map.mpr ⟨o, ho, rfl⟩

lemma buildPeopleSearchConditions_some {search : String} {person : κ} (joined : κ')
    (h : buildPeopleSearchConditions backend env sql session list search person none = true) :
    buildPeopleSearchConditions backend env sql session list search person (some joined) = true := by
  simp only [buildPeopleSearchConditions, any_none, Bool.or_false] at h
  simp only [buildPeopleSearchConditions, h, Bool.true_or]

lemma mem_searchRows_map_fst (hsearch : filter.search ≠ "") (cursor : Option ℕ) (person : Row κ) :
    person ∈ (searchRows backend env sql session list filter people others cursor).map Prod.fst ↔
      person ∈ people.rows ∧ selects backend env sql session list filter others person = true ∧
        (cursor.all fun c => decide (person.id < c)) = true := by
  have hempty : (filter.search == "") = false := by simpa using hsearch
  simp only [searchRows, List.mem_map, List.mem_filter, Prod.exists, exists_and_right, exists_eq_right, mem_leftJoin,
    selects, hempty, Bool.false_or, Bool.and_eq_true, Bool.or_eq_true, List.any_eq_true]
  rw [conditions_cursor, Bool.and_eq_true]
  constructor
  · rintro ⟨_, ⟨hperson, ⟨-, rfl⟩ | ⟨o, ho, rfl⟩⟩, ⟨hconditions, hcursor⟩, hfound⟩
    · exact ⟨hperson, ⟨hconditions, .inl hfound⟩, hcursor⟩
    · exact ⟨hperson, ⟨hconditions, .inr ⟨o, ho, hfound⟩⟩, hcursor⟩
  · rintro ⟨hperson, ⟨hconditions, hfound | ⟨o, ho, hfound⟩⟩, hcursor⟩
    · cases hjoined : joinedRows list others person with
      | nil => exact ⟨none, ⟨hperson, .inl ⟨rfl, rfl⟩⟩, ⟨hconditions, hcursor⟩, hfound⟩
      | cons o =>
        exact ⟨some o.columns, ⟨hperson, .inr ⟨o, List.mem_cons_self, rfl⟩⟩, ⟨hconditions, hcursor⟩,
          buildPeopleSearchConditions_some o.columns hfound⟩
    · exact ⟨some o.columns, ⟨hperson, .inr ⟨o, ho, rfl⟩⟩, ⟨hconditions, hcursor⟩, hfound⟩

lemma pairwise_filteredList :
    (filteredList backend env sql session list filter people others).Pairwise fun a b => b.id < a.id :=
  pairwise_orderById (nodup_filter _)

lemma positive_filteredList {person : Row κ}
    (h : person ∈ filteredList backend env sql session list filter people others) : 0 < person.id := by
  rw [filteredList, orderById, mem_insertionSort] at h
  exact people.positive person (mem_filter.mp h).1

variable [DecidableEq κ]

variable (backend env sql session list filter people others) in
lemma selectRows_perm (cursor : Option ℕ) : (selectRows backend env sql session list filter people others cursor).Perm
      (people.rows.filter fun person => selects backend env sql session list filter others person &&
        cursor.all fun c => decide (person.id < c)) := by
  unfold selectRows
  split
  · next hsearch =>
    refine Perm.of_eq (filter_congr fun person _ => ?_)
    rw [conditions_cursor, selects, hsearch]
    simp
  · next hsearch =>
    refine (perm_ext_iff_of_nodup (nodup_dedup _) (people.keyed.of_map.filter _)).mpr fun person => ?_
    rw [mem_dedup, mem_searchRows_map_fst hsearch, mem_filter, Bool.and_eq_true]

lemma fetchCursor_eq (limit : ℕ) (cursor : Option ℕ) :
    fetchCursor backend env sql session list filter people others limit cursor =
      pageBehind Row.id limit cursor (filteredList backend env sql session list filter people others) := by
  have hsorted : (filteredList backend env sql session list filter people others).Pairwise fun a b => b.id < a.id :=
    pairwise_filteredList
  have hcut : (people.rows.filter fun person => selects backend env sql session list filter others person &&
      cursor.all fun c => decide (person.id < c)) =
      (people.rows.filter (selects backend env sql session list filter others)).filter
        fun person => cursor.all fun c => decide (person.id < c) := by
    rw [List.filter_filter]
    exact filter_congr fun person _ => Bool.and_comm _ _
  have hrows := selectRows_perm backend env sql session list filter people others cursor
  have hnodup := (hrows.map Row.id).nodup_iff.mpr (nodup_filter _)
  -- the order of the rows behind the cursor is that of the list
  have horder : orderById (selectRows backend env sql session list filter people others cursor) =
      (filteredList backend env sql session list filter people others).filter
        fun person => cursor.all fun c => decide (person.id < c) := by
    refine Perm.eq_of_pairwise ?_ (pairwise_orderById hnodup) (hsorted.filter _) ?_
    · intro a b _ _ hab hba
      omega
    · refine (perm_insertionSort _ _).trans ?_
      rw [hcut] at hrows
      exact hrows.trans ((perm_insertionSort _ _).symm.filter _)
  rw [fetchCursor, horder, pageBehind]
  cases cursor with
  | none => simp [behind]
  | some => simp [behind]

lemma countRows_eq : countRows backend env sql session list filter people others =
    (filteredList backend env sql session list filter people others).length := by
  rw [filteredList, orderById, length_insertionSort]
  have hrows := selectRows_perm backend env sql session list filter people others none
  simp only [all_none, Bool.and_true] at hrows
  rw [← hrows.length_eq]
  unfold countRows selectRows
  split
  · rfl
  · next hsearch =>
    -- two rows of the join have the same record exactly when they have the same id
    have hids : (((searchRows backend env sql session list filter people others none).map fun e => e.1.id).dedup).Perm
        (((searchRows backend env sql session list filter people others none).map Prod.fst).dedup.map Row.id) := by
      refine (perm_ext_iff_of_nodup (nodup_dedup _) ?_).mpr fun id => ?_
      · refine Nodup.map_on (fun a ha b hb heq => ?_) (nodup_dedup _)
        rw [mem_dedup, mem_searchRows_map_fst hsearch] at ha hb
        exact inj_on_of_nodup_map people.keyed ha.1 hb.1 heq
      · simp only [List.mem_dedup, List.mem_map, exists_exists_and_eq_and]
    rw [hids.length_eq, length_map]

/-! ### Pages and totals -/

def idRows {κ : Type} (rows : List (Row κ)) : List ClientRow := rows.map fun r => ⟨r.id, .null⟩

lemma pageRound_eq (limit offset : ℕ) (w : PageWalk) :
    pageRound backend env sql session list filter people others limit offset w =
      w.next limit offset (idRows (filteredList backend env sql session list filter people others)) := by
  unfold pageRound PageWalk.next idRows
  simp only [fetchCursor_eq, pageBehind_map, lastKey_map, length_map]

/-- The page is the slice of the filtered list. -/
theorem fetchPage_eq {limit : ℕ} (hlimit : 0 < limit) (offset : ℕ) :
    fetchPage backend env sql session list filter people others (some limit) offset =
      some (((filteredList backend env sql session list filter people others).drop offset).take limit) := by
  have hround : pageRound backend env sql session list filter people others limit offset =
      PageWalk.next limit offset (idRows (filteredList backend env sql session list filter people others)) := by
    funext w
    exact pageRound_eq limit offset w
  have hsorted : (idRows (filteredList backend env sql session list filter people others)).Pairwise
      fun a b => b.id < a.id := pairwise_map.mpr pairwise_filteredList
  have hpositive : ∀ r ∈ idRows (filteredList backend env sql session list filter people others), 0 < r.id := by
    intro r hr
    obtain ⟨_, hperson, rfl⟩ := mem_map.mp hr
    exact positive_filteredList hperson
  have hpos : (some (limit : ℤ)).filter (0 < ·) = some (limit : ℤ) := by
    rw [filter_some, if_pos (by simpa using hlimit)]
  have hoffset : ¬((offset : ℤ) < 0) := by omega
  rw [fetchPage, hpos]
  dsimp only
  rw [if_neg hoffset, Int.toNat_natCast, Int.toNat_natCast, hround]
  rcases PageWalk.arrives offset hsorted hpositive hlimit rfl with
    ⟨hended, hbehind⟩ | ⟨hended, hinside, hcursor⟩
  · rw [idRows, length_map] at hbehind
    rw [if_pos hended, drop_eq_nil_of_le hbehind.le, take_nil]
  · rw [idRows, length_map] at hinside
    rw [if_neg (by rw [hended]; exact Bool.false_ne_true), hcursor, fetchCursor_eq]
    refine congrArg some ?_
    rw [idRows, cursorAt_map]
    exact pageBehind_cursorAt pairwise_filteredList hinside

/-- The total is the length of the filtered list exactly when the offset is not behind its end. -/
lemma fetchWithCount_iff {limit : ℕ} (hlimit : 0 < limit) (offset : ℕ) :
    fetchWithCount backend env sql session list filter people others (some limit) offset =
        some (((filteredList backend env sql session list filter people others).drop offset).take limit,
          ((filteredList backend env sql session list filter people others).length : ℤ)) ↔
      offset ≤ (filteredList backend env sql session list filter people others).length := by
  have hpos : (some (limit : ℤ)).filter (0 < ·) = some (limit : ℤ) := by
    rw [filter_some, if_pos (by simpa using hlimit)]
  rw [fetchWithCount, fetchPage_eq hlimit, map_some, some_inj, Prod.mk.injEq, countRows_eq, inferTotal,
    hpos, bind_some]
  generalize filteredList backend env sql session list filter people others = rows
  rw [and_iff_right rfl, length_take, length_drop]
  split
  · rw [getD_some]
    omega
  · rw [getD_none]
    omega

end Filtered

variable (backend : SearchBackend) (env : SearchEnv) (sql : SqlText) (session : PageSession) (filter : PageFilter)
  (db : Db)

/-- The clients that the filter selects, newest first. -/
def filteredClients : List (Row ClientColumns) :=
  filteredList backend env sql session clientList filter db.clients db.demandes

/-- The listings that the filter selects, newest first. -/
def filteredListings : List (Row ListingColumns) :=
  filteredList backend env sql session listingList filter db.listings db.offers

def agencySession : PageSession := ⟨some 1, false, ("v1", "")⟩

def plainText : SqlText := ⟨id, fun _ _ => false⟩

def activeFilter : PageFilter := ⟨"", some "active", false⟩

end ServerPages

end ImmoApp.Api
