import ImmoApp.Crm.DeltaFeed
import ImmoApp.Foundation.Generations

/-!
# The caches of the lists

The lists of clients and of listings, and their counts, are cached under the generation of their surface and agency.
The functions that write clients and listings raise it; the status changes that go with a contract and the change of a
record's visibility do not.

A query's answer is a `Fill`: a page is reached by reading the pages before it, and the total is counted when the page
does not tell it.  `no_stale_list`: in every run without such changes, the answers are fresh.
-/

namespace ImmoApp.Crm

open List Option Table

inductive Surface where
  | clients
  | listings
  deriving DecidableEq

def Surface.kind : Surface → Kind
  | .clients => .client
  | .listings => .listing

structure Access where
  visibility : Visibility
  users : List ℕ

structure SurfaceDb where
  db : Db
  /-- `visibility` and `record_acl` of the records it was set for. -/
  access : Dict (Surface × ℕ) Access
  /-- `surface_cache_generation`, by surface and agency. -/
  generations : Dict (Surface × ℕ) ℕ

def SurfaceDb.readGeneration (d : SurfaceDb) (scope : Surface × ℕ) : ℕ := (d.generations.get? scope).getD 1

/-- `bump_generation` of an agency, where there is one. -/
def bumpGeneration (generations : Dict (Surface × ℕ) ℕ) (scope : Surface × ℕ) : Dict (Surface × ℕ) ℕ :=
  if scope.2 = 0 then generations else generations.set scope ((generations.get? scope).getD 1 + 1)

def bumpGenerations (scopes : List (Surface × ℕ)) (generations : Dict (Surface × ℕ) ℕ) : Dict (Surface × ℕ) ℕ :=
  scopes.foldl bumpGeneration generations

structure Shown (κ κ' : Type) where
  row : Row κ
  parts : List (Row κ')
  access : Access

def shownRows {κ κ' : Type} (agencyOf : κ → ℕ) (parent : κ' → ℕ × ℕ) (t : Table κ) (parts : Table κ')
    (access : ℕ → Access) (agency : Option ℕ) : List (Shown κ κ') :=
  (t.rows.filter fun r => agency.all (· == agencyOf r.columns)).map fun r =>
    ⟨r, parts.rows.filter fun x => parent x.columns == (r.id, agencyOf r.columns), access r.id⟩

def SurfaceDb.accessOf (d : SurfaceDb) (s : Surface) (id : ℕ) : Access :=
  (d.access.get? (s, id)).getD ⟨.agency, []⟩

def SurfaceDb.clients (d : SurfaceDb) (agency : Option ℕ) : List (Shown ClientColumns DemandeColumns) :=
  shownRows ClientColumns.agencyId (fun c => (c.clientId, c.agencyId)) d.db.clients d.db.demandes
    (d.accessOf .clients) agency

def SurfaceDb.listings (d : SurfaceDb) (agency : Option ℕ) : List (Shown ListingColumns OfferColumns) :=
  shownRows ListingColumns.agencyId (fun c => (c.listingId, c.agencyId)) d.db.listings d.db.offers
    (d.accessOf .listings) agency

/-! ### Queries -/

structure SurfaceEnv extends Services where
  /-- Whether a search finds a client with its live demandes: `build_people_search_conditions`. -/
  findsClient : String → Row ClientColumns → List (Row DemandeColumns) → Bool
  findsListing : String → Row ListingColumns → List (Row OfferColumns) → Bool
  ownerUserId : Surface → ℕ → Option ℕ

structure Viewer where
  id : Option ℕ
  /-- Whether the user is a manager or an owner of the agency. -/
  managerOrOwner : Bool
  superuser : Bool

inductive ReadForm where
  | page (limit offset : ℕ)
  | after (limit cursor : ℕ)
  | count

structure SurfaceQuery where
  surface : Surface
  agency : Option ℕ
  viewer : Viewer
  form : ReadForm
  search : String := ""
  status : Option String
  includeDeleted : Bool := false
  /-- `agency_scope_key` refuses an agency that is not positive. -/
  agency_pos : ∀ a ∈ agency, 0 < a

inductive ListItem where
  | client (row : Row ClientColumns)
  | listing (row : Row ListingColumns)

def ListItem.id : ListItem → ℕ
  | .client r => r.id
  | .listing r => r.id

inductive SurfacePayload where
  | page (items : List ListItem) (total : ℕ)
  | after (items : List ListItem) (total : ℕ) (nextCursor : Option ℕ)
  | count (total : ℕ)

def ClientStatus.text : ClientStatus → String
  | .active => "active"
  | .archivedRented => "archived_rented"
  | .archivedSold => "archived_sold"

def ListingStatus.text : ListingStatus → String
  | .available => "available"
  | .rented => "rented"
  | .sold => "sold"

namespace SurfaceQuery

def sees (k : SurfaceQuery) (access : Access) : Bool :=
  k.viewer.superuser || k.viewer.managerOrOwner || access.visibility = .agency || k.viewer.id.any (· ∈ access.users)

/-- The conditions of a query on a row of its agency. -/
def selects {κ κ' : Type} (k : SurfaceQuery) (status : κ → String)
    (finds : String → Row κ → List (Row κ') → Bool) (e : Shown κ κ') : Bool :=
  k.sees e.access && (k.status.all fun s => s = "" || s = status e.row.columns) && (k.includeDeleted || e.row.live) &&
    (k.search = "" || finds k.search e.row (e.parts.filter Row.live))

def clientItems (k : SurfaceQuery) (env : SurfaceEnv) (d : SurfaceDb) : List ListItem :=
  let rows : List (Shown ClientColumns DemandeColumns) := d.clients k.agency
  (rows.filter (k.selects (fun c => c.status.text) env.findsClient)).map fun e => .client e.row

def listingItems (k : SurfaceQuery) (env : SurfaceEnv) (d : SurfaceDb) : List ListItem :=
  let rows : List (Shown ListingColumns OfferColumns) := d.listings k.agency
  (rows.filter (k.selects (fun c => c.status.text) env.findsListing)).map fun e => .listing e.row

/-- The rows that a query is about, newest first: `_build_client_query` and `_build_listing_query`, under the
tenant condition. -/
def items (k : SurfaceQuery) (env : SurfaceEnv) (d : SurfaceDb) : List ListItem :=
  if k.agency.isNone && !k.viewer.superuser then []
  else
    let rows := match k.surface with
      | .clients => k.clientItems env d
      | .listings => k.listingItems env d
    rows.insertionSort fun x y => y.id ≤ x.id

/-- `fetch_clients_cursor` and `fetch_listings_cursor`. -/
def fetchCursor (k : SurfaceQuery) (env : SurfaceEnv) (limit : ℕ) (cursor : Option ℕ) (d : SurfaceDb) :
    List ListItem :=
  ((k.items env d).filter fun x => cursor.all (x.id < ·)).take limit

/-- The pages before the one that is asked for are read one after the other; `skipped` bounds their number. -/
def skipPages (k : SurfaceQuery) (env : SurfaceEnv) (limit : ℕ)
    (found : List ListItem → Fill SurfaceDb SurfacePayload) :
    (skipped left : ℕ) → (cursor : Option ℕ) → Fill SurfaceDb SurfacePayload
  | 0, _, cursor => .query fun d => found (k.fetchCursor env limit cursor d)
  | skipped + 1, left, cursor =>
    if left = 0 then .query fun d => found (k.fetchCursor env limit cursor d)
    else .query fun d =>
      let page := k.fetchCursor env (min limit left) cursor d
      if page.length < min limit left then found []
      else match page.getLast? with
        | none => found []
        | some last => if last.id = 0 then found []
          else skipPages k env limit found skipped (left - min limit left) (some last.id)

/-- `_fetch_clients_page` and `_fetch_listings_page`. -/
def fetchPage (k : SurfaceQuery) (env : SurfaceEnv) (limit offset : ℕ)
    (found : List ListItem → Fill SurfaceDb SurfacePayload) : Fill SurfaceDb SurfacePayload :=
  if limit = 0 then .query fun d => found (((k.items env d).drop offset).take limit)
  else skipPages k env limit found offset offset none

/-- The total of a page: one that is not full tells it. -/
def countPage (k : SurfaceQuery) (env : SurfaceEnv) (limit offset : ℕ) (items : List ListItem) :
    Fill SurfaceDb SurfacePayload :=
  if items.length < limit then .done (.page items (offset + items.length))
  else .query fun d => .done (.page items (k.items env d).length)

/-- The answer: `fetch_clients_with_count` and `fetch_listings_with_count` for a page. -/
def fill (env : SurfaceEnv) (k : SurfaceQuery) : Fill SurfaceDb SurfacePayload :=
  match k.form with
  | .page limit offset => k.fetchPage env limit offset (k.countPage env limit offset)
  | .after limit cursor => .query fun d =>
      let items := k.fetchCursor env limit (some cursor) d
      .query fun d => .done (.after items (k.items env d).length
        (if items.length = limit then items.getLast?.map ListItem.id else none))
  | .count => .query fun d => .done (.count (k.items env d).length)

end SurfaceQuery

/-- `cache_key`, with what `get_or_fill` adds to it. -/
structure SurfaceKey where
  surface : Surface
  /-- The limit and the offset of a page, `none` for a count. -/
  page : Option (ℕ × ℕ)
  agencyId : ℕ
  userId : Option ℕ
  search : String
  status : Option String
  includeDeleted : Bool
  deriving DecidableEq

/-- The key of a query.  Pages behind a cursor and deep pages are not cached, nor is anything without an agency;
searches are, by the policies of both surfaces. -/
def SurfaceQuery.key (k : SurfaceQuery) : Option SurfaceKey :=
  k.agency.bind fun agencyId =>
    match k.form with
    | .page limit offset => if offset + limit ≤ 500 then
        some ⟨k.surface, some (limit, offset), agencyId, k.viewer.id, k.search, k.status, k.includeDeleted⟩
        else none
    | .after _ _ => none
    | .count => some ⟨k.surface, none, agencyId, k.viewer.id, k.search, k.status, k.includeDeleted⟩

/-! ### Writes -/

/-- `insert_clients_batch`: each row with its agency. -/
def insertClientsBatch (platform : Platform) (rows : List (ℕ × ClientInput)) (now : ℕ) (db : Db) :
    Except WriteError Db :=
  rows.foldlM (fun db row =>
    if row.1 = 0 then .error (.valueError "agency_id is required for client writes")
    else insertClient platform row.1 row.2 now db) db

/-- `insert_listings_batch`: each row with its agency. -/
def insertListingsBatch (platform : Platform) (rows : List (ℕ × ListingInput)) (now : ℕ) (db : Db) :
    Except WriteError Db :=
  rows.foldlM (fun db row =>
    if row.1 = 0 then .error (.valueError "agency_id is required for listing writes")
    else insertListing platform row.1 row.2 now db) db

inductive SurfaceCall where
  | upsertClient (payload : ClientPayload) (readable : Bool)
  | upsertListing (payload : ListingPayload) (readable : Bool)
  | deleteClient (id : ℕ)
  | restoreClient (id : ℕ)
  | purgeClient (id : ℕ)
  | deleteListing (id : ℕ)
  | restoreListing (id : ℕ)
  | purgeListing (id : ℕ)
  | insertClients (rows : List (ℕ × ClientInput))
  | insertListings (rows : List (ℕ × ListingInput))
  /-- `activate_contract`, of the contract as it was read. -/
  | activateContract (id : ℕ) (contractType : ContractType) (clientId listingId : ℕ)
  /-- `cancel_contract`, of the contract as it was read. -/
  | cancelContract (id clientId listingId : ℕ) (wasSigned restoreStatus : Bool)
  /-- `set_record_visibility` of a client or a listing. -/
  | setVisibility (surface : Surface) (id : ℕ) (visibility : Visibility) (users : List ℕ) (rowVersion : ℤ)

structure SurfaceWrite where
  call : SurfaceCall
  agencyId : ℕ
  now : ℕ

def SurfaceWrite.write (env : SurfaceEnv) (w : SurfaceWrite) (db : Db) : Except WriteError Db :=
  match w.call with
  | .upsertClient payload readable => upsertClient env.clients w.agencyId payload readable w.now db
  | .upsertListing payload readable => upsertListing env.clients w.agencyId payload readable w.now db
  | .deleteClient id => .ok (deleteClient id w.now db)
  | .restoreClient id => restoreClient id w.now db
  | .purgeClient id => .ok (purgeClient id db)
  | .deleteListing id => .ok (deleteListing id w.now db)
  | .restoreListing id => restoreListing id w.now db
  | .purgeListing id => .ok (purgeListing id db)
  | .insertClients rows => insertClientsBatch env.platform rows w.now db
  | .insertListings rows => insertListingsBatch env.platform rows w.now db
  | .activateContract id contractType clientId listingId =>
    Contracts.activateContract id contractType clientId listingId w.now db
  | .cancelContract id clientId listingId wasSigned restoreStatus =>
    Contracts.cancelContract id clientId listingId wasSigned restoreStatus w.now db
  | .setVisibility s id _ _ rowVersion => setRecordVisibility s.kind id rowVersion w.now db

/-- `replace_record_acl`: a restricted record without users is shared with its owner. -/
def SurfaceWrite.share (env : SurfaceEnv) (w : SurfaceWrite) (access : Dict (Surface × ℕ) Access) :
    Dict (Surface × ℕ) Access :=
  match w.call with
  | .setVisibility s id .agency _ _ => access.set (s, id) ⟨.agency, []⟩
  | .setVisibility s id .restricted users _ =>
    access.set (s, id) ⟨.restricted,
      if users = [] then ((env.ownerUserId s id).filter (0 < ·)).toList else users⟩
  | _ => access

/-- `RETURNING agency_id` of a client. -/
def clientScope (id : ℕ) (db : Db) : List (Surface × ℕ) :=
  ((db.clients.find? id).map fun r => (Surface.clients, r.columns.agencyId)).toList

/-- `RETURNING agency_id` of a listing. -/
def listingScope (id : ℕ) (db : Db) : List (Surface × ℕ) :=
  ((db.listings.find? id).map fun r => (Surface.listings, r.columns.agencyId)).toList

def SurfaceWrite.bumps (w : SurfaceWrite) (db : Db) : List (Surface × ℕ) :=
  match w.call with
  | .upsertClient payload _ =>
    if payload.id = 0 then [(.clients, w.agencyId)] else clientScope payload.id db
  | .upsertListing payload _ =>
    if payload.id = 0 then [(.listings, w.agencyId)] else listingScope payload.id db
  | .deleteClient id | .restoreClient id | .purgeClient id => clientScope id db
  | .deleteListing id | .restoreListing id | .purgeListing id => listingScope id db
  | .insertClients rows => (rows.map fun row => (Surface.clients, row.1)).dedup
  | .insertListings rows => (rows.map fun row => (Surface.listings, row.1)).dedup
  | .activateContract _ _ _ _ | .cancelContract _ _ _ _ _ | .setVisibility _ _ _ _ _ => []

def SurfaceWrite.perform (env : SurfaceEnv) (w : SurfaceWrite) (d : SurfaceDb) : Option SurfaceDb :=
  match w.write env d.db with
  | .ok db => some ⟨db, w.share env d.access, bumpGenerations (w.bumps d.db) d.generations⟩
  | .error _ => none

def surfaceReads (env : SurfaceEnv) : CachedReads SurfaceDb SurfaceQuery SurfaceKey SurfacePayload SurfaceWrite where
  perform := SurfaceWrite.perform env
  key := SurfaceQuery.key
  generation := fun d key => d.readGeneration (key.surface, key.agencyId)
  inProcess := fun key => key.page.isNone
  fill := SurfaceQuery.fill env

abbrev SurfaceDesk := ReadDesk SurfaceDb SurfaceQuery SurfaceKey SurfacePayload

abbrev SurfaceAction := ReadAction SurfaceQuery SurfaceKey SurfaceWrite

def ChangedFor (d d' : SurfaceDb) (k : SurfaceQuery) : Prop :=
  match k.surface with
  | .clients => d.clients k.agency ≠ d'.clients k.agency
  | .listings => d.listings k.agency ≠ d'.listings k.agency

section Bumps

variable {generations : Dict (Surface × ℕ) ℕ} {scope scope' : Surface × ℕ} {scopes : List (Surface × ℕ)}

lemma getD_bumpGeneration : ((bumpGeneration generations scope').get? scope).getD 1 =
      (generations.get? scope).getD 1 + if 0 < scope.2 ∧ scope = scope' then 1 else 0 := by
  unfold bumpGeneration
  split
  · next hzero =>
    have hne : ¬(0 < scope.2 ∧ scope = scope') := by
      rintro ⟨hpos, rfl⟩
      omega
    rw [if_neg hne, add_zero]
  · next hpos =>
    rw [Dict.get?_set]
    by_cases heq : scope = scope'
    · subst heq
      simp [Nat.pos_of_ne_zero hpos]
    · simp [heq]

lemma getD_bumpGenerations : ((bumpGenerations scopes generations).get? scope).getD 1 =
      (generations.get? scope).getD 1 + if 0 < scope.2 then scopes.count scope else 0 := by
  unfold bumpGenerations
  induction scopes generalizing generations with
  | nil => simp
  | cons scope' _ ih =>
    rw [foldl_cons, ih, getD_bumpGeneration, count_cons]
    by_cases hpos : 0 < scope.2
    · by_cases heq : scope = scope'
      · subst heq
        simp only [hpos, and_self, if_true, beq_self_eq_true]
        omega
      · simp [hpos, heq, Ne.symm heq]
    · simp [hpos]

end Bumps

/-! ### What a write leaves of a surface -/

section Rows

variable {κ κ' : Type} {agencyOf : κ → ℕ} {parent : κ' → ℕ × ℕ} {t t' : Table κ} {parts parts' : Table κ'}
  {access : ℕ → Access} {a id : ℕ}

lemma shownRows_congr
    (ht : (t'.rows.filter fun r => a == agencyOf r.columns) = t.rows.filter fun r => a == agencyOf r.columns)
    (hparts : ∀ r ∈ t.rows, agencyOf r.columns = a → (parts'.rows.filter fun x => parent x.columns == (r.id, a)) =
        parts.rows.filter fun x => parent x.columns == (r.id, a)) :
    shownRows agencyOf parent t' parts' access (some a) = shownRows agencyOf parent t parts access (some a) := by
  unfold shownRows
  simp only [all_some, ht]
  refine map_congr_left fun r hr => ?_
  obtain ⟨hmem, hagency⟩ := mem_filter.mp hr
  have heq : agencyOf r.columns = a := (beq_iff_eq.mp hagency).symm
  rw [heq, hparts r hmem heq]

lemma shownRows_insert {columns : κ} {now : ℕ} (h : agencyOf columns ≠ a) :
    shownRows agencyOf parent (t.insert columns now) parts access (some a) =
      shownRows agencyOf parent t parts access (some a) :=
  shownRows_congr (filter_insert (by simpa using Ne.symm h)) fun _ _ _ => rfl

variable (hid : ∀ r ∈ t.rows, r.id = id → agencyOf r.columns ≠ a)
include hid

lemma shownRows_update {p : Row κ → Bool} {f : Row κ → Row κ} (hp : ∀ r, p r = true → r.id = id)
    (hf : ∀ r, agencyOf (f r).columns = agencyOf r.columns) :
    shownRows agencyOf parent (t.update p f) parts access (some a) =
      shownRows agencyOf parent t parts access (some a) := by
  refine shownRows_congr (filter_update fun r hr hsel => ?_) fun _ _ _ => rfl
  have hne := hid r hr (hp r hsel)
  have hafter : agencyOf (Table.assign p f r).columns = agencyOf r.columns := by
    rw [Table.assign, if_pos hsel]
    exact hf r
  simp [hafter, Ne.symm hne]

lemma shownRows_update_cascade {p : Row κ → Bool} {f : Row κ → Row κ} {q : Row κ' → Bool}
    {g : Row κ' → Row κ'} (hp : ∀ r, p r = true → r.id = id)
    (hf : ∀ r, agencyOf (f r).columns = agencyOf r.columns)
    (hq : ∀ x, q x = true → (parent x.columns).1 = id) (hg : ∀ x, (g x).columns = x.columns) :
    shownRows agencyOf parent (t.update p f) (parts.update q g) access (some a) =
      shownRows agencyOf parent t parts access (some a) := by
  rw [shownRows_update hid hp hf]
  refine shownRows_congr rfl fun r hr hagency => filter_update fun x _ hsel => ?_
  have hne : parent x.columns ≠ (r.id, a) := fun heq =>
    hid r hr ((congrArg Prod.fst heq).symm.trans (hq x hsel)) hagency
  have hafter : (Table.assign q g x).columns = x.columns := by
    rw [Table.assign, if_pos hsel]
    exact hg x
  simp [hafter, hne]

lemma shownRows_delete_cascade {p : Row κ → Bool} {q : Row κ' → Bool} (hp : ∀ r, p r = true → r.id = id)
    (hq : ∀ x, q x = true → (parent x.columns).1 = id) :
    shownRows agencyOf parent (t.delete p) (parts.delete q) access (some a) =
      shownRows agencyOf parent t parts access (some a) := by
  refine shownRows_congr (filter_delete fun r hr hsel => ?_) fun r hr hagency =>
    filter_delete fun x _ hsel => ?_
  · simpa using Ne.symm (hid r hr (hp r hsel))
  · have hne : parent x.columns ≠ (r.id, a) := fun heq =>
      hid r hr ((congrArg Prod.fst heq).symm.trans (hq x hsel)) hagency
    simpa using hne

end Rows

/-- What can be shown of a surface to an agency is the same, to whomever it may be shown. -/
def SameContent (scope : Surface × ℕ) (db db' : Db) : Prop :=
  match scope.1 with
  | .clients => ∀ access,
      shownRows ClientColumns.agencyId (fun c => (c.clientId, c.agencyId)) db'.clients db'.demandes access
          (some scope.2) =
        shownRows ClientColumns.agencyId (fun c => (c.clientId, c.agencyId)) db.clients db.demandes access
          (some scope.2)
  | .listings => ∀ access,
      shownRows ListingColumns.agencyId (fun c => (c.listingId, c.agencyId)) db'.listings db'.offers access
          (some scope.2) =
        shownRows ListingColumns.agencyId (fun c => (c.listingId, c.agencyId)) db.listings db.offers access
          (some scope.2)

section Content

variable {env : SurfaceEnv} {platform : Platform} {db db' db'' : Db} {scope : Surface × ℕ}
  {agencyId id now : ℕ}

lemma SameContent.of_eq (hclients : db'.clients = db.clients) (hdemandes : db'.demandes = db.demandes)
    (hlistings : db'.listings = db.listings) (hoffers : db'.offers = db.offers) : SameContent scope db db' := by
  unfold SameContent
  split <;> intro access
  · rw [hclients, hdemandes]
  · rw [hlistings, hoffers]

lemma SameContent.trans (h : SameContent scope db db') (h' : SameContent scope db' db'') :
    SameContent scope db db'' := by
  unfold SameContent at h h' ⊢
  split at h <;> split at h' <;> first
    | exact fun access => (h' access).trans (h access)
    | simp_all

lemma agencyId_ne_of_clientScope (h : scope ∉ clientScope id db) (hscope : scope.1 = .clients) :
    ∀ r ∈ db.clients.rows, r.id = id → r.columns.agencyId ≠ scope.2 := by
  rintro r hr hid heq
  refine h (mem_toList.mpr ?_)
  rw [find?_eq_some_iff.mpr ⟨hr, hid⟩]
  exact congrArg some (Prod.ext hscope.symm heq)

lemma agencyId_ne_of_listingScope (h : scope ∉ listingScope id db) (hscope : scope.1 = .listings) :
    ∀ r ∈ db.listings.rows, r.id = id → r.columns.agencyId ≠ scope.2 := by
  rintro r hr hid heq
  refine h (mem_toList.mpr ?_)
  rw [find?_eq_some_iff.mpr ⟨hr, hid⟩]
  exact congrArg some (Prod.ext hscope.symm heq)

lemma SameContent.of_clients (hlistings : db'.listings = db.listings) (hoffers : db'.offers = db.offers)
    (h : scope.1 = .clients → ∀ access,
      shownRows ClientColumns.agencyId (fun c => (c.clientId, c.agencyId)) db'.clients db'.demandes access
          (some scope.2) =
        shownRows ClientColumns.agencyId (fun c => (c.clientId, c.agencyId)) db.clients db.demandes access
          (some scope.2)) : SameContent scope db db' := by
  unfold SameContent
  split
  · next hsurface => exact h hsurface
  · rw [hlistings, hoffers]
    exact fun _ => rfl

lemma SameContent.of_listings (hclients : db'.clients = db.clients) (hdemandes : db'.demandes = db.demandes)
    (h : scope.1 = .listings → ∀ access,
      shownRows ListingColumns.agencyId (fun c => (c.listingId, c.agencyId)) db'.listings db'.offers access
          (some scope.2) =
        shownRows ListingColumns.agencyId (fun c => (c.listingId, c.agencyId)) db.listings db.offers access
          (some scope.2)) : SameContent scope db db' := by
  unfold SameContent
  split
  · rw [hclients, hdemandes]
    exact fun _ => rfl
  · next hsurface => exact h hsurface

lemma sameContent_insertClient {data : ClientInput}
    (h : insertClient platform agencyId data now db = .ok db') (hscope : scope ≠ (.clients, agencyId)) :
    SameContent scope db db' := by
  rw [insertClient_ok h]
  refine SameContent.of_clients rfl rfl fun hsurface access => shownRows_insert ?_
  exact fun heq => hscope (Prod.ext hsurface heq.symm)

lemma sameContent_insertListing {data : ListingInput}
    (h : insertListing platform agencyId data now db = .ok db') (hscope : scope ≠ (.listings, agencyId)) :
    SameContent scope db db' := by
  rw [insertListing_ok h]
  refine SameContent.of_listings rfl rfl fun hsurface access => shownRows_insert ?_
  exact fun heq => hscope (Prod.ext hsurface heq.symm)

lemma sameContent_updateClient {backend : ClientBackend} {data : ClientInput}
    (h : updateClient backend.platform id data now db = .ok db') (hscope : scope ∉ clientScope id db) :
    SameContent scope db db' := by
  obtain ⟨-, rfl⟩ := updateClient_ok h
  refine SameContent.of_clients rfl rfl fun hsurface access =>
    shownRows_update (agencyId_ne_of_clientScope hscope hsurface) (fun r hsel => ?_) fun r => rfl
  rw [Bool.and_eq_true, beq_iff_eq] at hsel
  exact hsel.1

lemma sameContent_updateListing {data : ListingInput}
    (h : updateListing platform id data now db = .ok db') (hscope : scope ∉ listingScope id db) :
    SameContent scope db db' := by
  obtain ⟨_, hlocked, rfl⟩ := updateListing_ok h
  obtain ⟨rfl, -⟩ := lockedUpdate_some hlocked
  refine SameContent.of_listings rfl rfl fun hsurface access =>
    shownRows_update (agencyId_ne_of_listingScope hscope hsurface) (fun r hsel => ?_) fun r => rfl
  rw [Bool.and_eq_true, beq_iff_eq] at hsel
  exact hsel.1

lemma sameContent_deleteClient (hscope : scope ∉ clientScope id db) : SameContent scope db (deleteClient id now db) :=
  SameContent.of_clients rfl rfl fun hsurface _ =>
    shownRows_update_cascade (agencyId_ne_of_clientScope hscope hsurface) (fun _ => beq_iff_eq.mp)
      (fun _ => rfl) (fun _ => beq_iff_eq.mp) fun _ => rfl

lemma sameContent_restoreClient (h : restoreClient id now db = .ok db')
    (hscope : scope ∉ clientScope id db) : SameContent scope db db' := by
  unfold restoreClient at h
  split at h
  · cases h
  · obtain ⟨⟩ := h
    exact SameContent.of_clients rfl rfl fun hsurface _ =>
      shownRows_update_cascade (agencyId_ne_of_clientScope hscope hsurface) (fun _ => beq_iff_eq.mp)
        (fun _ => rfl) (fun _ => beq_iff_eq.mp) fun _ => rfl

lemma sameContent_purgeClient (hscope : scope ∉ clientScope id db) : SameContent scope db (purgeClient id db) :=
  SameContent.of_clients rfl rfl fun hsurface _ =>
    shownRows_delete_cascade (agencyId_ne_of_clientScope hscope hsurface) (fun _ => beq_iff_eq.mp)
      fun _ => beq_iff_eq.mp

lemma sameContent_deleteListing (hscope : scope ∉ listingScope id db) :
    SameContent scope db (deleteListing id now db) :=
  SameContent.of_listings rfl rfl fun hsurface _ =>
    shownRows_update_cascade (agencyId_ne_of_listingScope hscope hsurface) (fun _ => beq_iff_eq.mp)
      (fun _ => rfl) (fun _ => beq_iff_eq.mp) fun _ => rfl

lemma sameContent_restoreListing (h : restoreListing id now db = .ok db')
    (hscope : scope ∉ listingScope id db) : SameContent scope db db' := by
  unfold restoreListing at h
  split at h
  · cases h
  · obtain ⟨⟩ := h
    exact SameContent.of_listings rfl rfl fun hsurface _ =>
      shownRows_update_cascade (agencyId_ne_of_listingScope hscope hsurface) (fun _ => beq_iff_eq.mp)
        (fun _ => rfl) (fun _ => beq_iff_eq.mp) fun _ => rfl

lemma sameContent_purgeListing (hscope : scope ∉ listingScope id db) : SameContent scope db (purgeListing id db) :=
  SameContent.of_listings rfl rfl fun hsurface _ =>
    shownRows_delete_cascade (agencyId_ne_of_listingScope hscope hsurface) (fun _ => beq_iff_eq.mp)
      fun _ => beq_iff_eq.mp

lemma sameContent_foldlM {α : Type} {insertRow : Db → α → Except WriteError Db} {rows : List α}
    (hrow : ∀ row ∈ rows, ∀ db db', insertRow db row = .ok db' → SameContent scope db db')
    (h : rows.foldlM insertRow db = .ok db') : SameContent scope db db' := by
  induction rows generalizing db with
  | nil =>
    obtain rfl : db = db' := Except.ok.inj h
    exact SameContent.of_eq rfl rfl rfl rfl
  | cons row _ ih =>
    rw [foldlM_cons] at h
    obtain ⟨db₁, hfirst, hrest⟩ := bind_eq_ok_iff.mp h
    exact (hrow row mem_cons_self db db₁ hfirst).trans
      (ih (fun row' hmem => hrow row' (mem_cons_of_mem row hmem)) hrest)

lemma sameContent_insertClientsBatch {rows : List (ℕ × ClientInput)}
    (h : insertClientsBatch platform rows now db = .ok db')
    (hscope : scope ∉ rows.map fun row => (Surface.clients, row.1)) : SameContent scope db db' := by
  refine sameContent_foldlM (fun row hmem db db' hrow => ?_) h
  split at hrow
  · cases hrow
  · refine sameContent_insertClient hrow fun heq => hscope ?_
    exact mem_map.mpr ⟨row, hmem, heq.symm⟩

lemma sameContent_insertListingsBatch {rows : List (ℕ × ListingInput)}
    (h : insertListingsBatch platform rows now db = .ok db')
    (hscope : scope ∉ rows.map fun row => (Surface.listings, row.1)) : SameContent scope db db' := by
  refine sameContent_foldlM (fun row hmem db db' hrow => ?_) h
  split at hrow
  · cases hrow
  · refine sameContent_insertListing hrow fun heq => hscope ?_
    exact mem_map.mpr ⟨row, hmem, heq.symm⟩

lemma sameContent_transition {contractId : ℕ} {allowed : ContractStatus → Bool} {message : String}
    {f : Row ContractColumns → Row ContractColumns}
    (h : Contracts.transition contractId allowed f message db = .ok db') :
    SameContent scope db db' ∧ db'.clients = db.clients ∧ db'.listings = db.listings ∧
      ∃ r ∈ db.contracts.rows, Contracts.starts contractId allowed r = true := by
  unfold Contracts.transition at h
  split at h
  · cases h
  · next hcount =>
    obtain ⟨⟩ := h
    rw [Table.rowcount, ← ne_eq, ← Nat.pos_iff_ne_zero, countP_pos_iff] at hcount
    exact ⟨SameContent.of_eq rfl rfl rfl rfl, rfl, rfl, hcount⟩

lemma exists_of_setRecordVisibility {k : Kind} {rowVersion : ℤ}
    (h : setRecordVisibility k id rowVersion now db = .ok db') :
    ∃ r ∈ (db.table k).rows, r.id = id ∧ (r.rowVersion : ℤ) = rowVersion := by
  unfold setRecordVisibility at h
  split at h
  · next t hlocked =>
    obtain ⟨-, r, hr, hid, hversion⟩ := lockedUpdate_some hlocked
    exact ⟨r, hr, beq_iff_eq.mp hid, hversion⟩
  · split at h <;> cases h

end Content

/-! ### The condition -/

/-- The parties of a contract are deleted, so their statuses stay. -/
def PartiesDeleted (db : Db) (clientId listingId : ℕ) : Prop :=
  (∀ r ∈ db.clients.rows, r.id = clientId → r.live = false) ∧
    ∀ r ∈ db.listings.rows, r.id = listingId → r.live = false

/-- A write is not one of those that change clients or listings without a bump: no contract in the right status
is signed, no signed contract is cancelled, unless its parties are deleted, and no client or listing at the
version that was seen gets a visibility. -/
def SurfaceCall.Quiet (db : Db) : SurfaceCall → Prop
  | .activateContract id _ clientId listingId =>
    (∀ r ∈ db.contracts.rows, Contracts.starts id (fun s => s == .pendingSignature) r = false) ∨
      PartiesDeleted db clientId listingId
  | .cancelContract id clientId listingId wasSigned restoreStatus =>
    (∀ r ∈ db.contracts.rows,
      Contracts.starts id (fun s => s == .draft || s == .pendingSignature || s == .signed) r = false) ∨
      (wasSigned && restoreStatus) = false ∨ PartiesDeleted db clientId listingId
  | .setVisibility s id _ _ rowVersion =>
    ∀ r ∈ (db.table s.kind).rows, r.id = id → (r.rowVersion : ℤ) ≠ rowVersion
  | _ => True

instance (db : Db) (clientId listingId : ℕ) : Decidable (PartiesDeleted db clientId listingId) := by
  unfold PartiesDeleted
  infer_instance

instance (db : Db) : DecidablePred (SurfaceCall.Quiet db) := fun call => by
  cases call <;> unfold SurfaceCall.Quiet <;> infer_instance

/-- The writes of a run are quiet where they come. -/
def QuietWrites (s : SurfaceDesk) : SurfaceAction → Prop
  | .commit w => w.call.Quiet s.db.db
  | _ => True

instance (s : SurfaceDesk) : DecidablePred (QuietWrites s) := fun action => by
  cases action <;> unfold QuietWrites <;> infer_instance

section Quiet

variable {env : SurfaceEnv} {w : SurfaceWrite} {db db' : Db} {scope : Surface × ℕ} {d d' : SurfaceDb}

lemma sameContent_write (h : w.write env db = .ok db') (hquiet : w.call.Quiet db)
    (hscope : scope ∉ w.bumps db) : SameContent scope db db' := by
  rcases w with ⟨call, _, now⟩
  cases call with
  | upsertClient =>
    simp only [SurfaceWrite.write, upsertClient] at h
    simp only [SurfaceWrite.bumps] at hscope
    split at h
    · next hnew =>
      rw [if_pos hnew, mem_singleton] at hscope
      exact sameContent_insertClient h hscope
    · next hold =>
      rw [if_neg hold] at hscope
      exact sameContent_updateClient h hscope
  | upsertListing =>
    simp only [SurfaceWrite.write, upsertListing] at h
    simp only [SurfaceWrite.bumps] at hscope
    split at h
    · next hnew =>
      rw [if_pos hnew, mem_singleton] at hscope
      exact sameContent_insertListing h hscope
    · next hold =>
      rw [if_neg hold] at hscope
      exact sameContent_updateListing h hscope
  | deleteClient =>
    obtain ⟨⟩ := h
    exact sameContent_deleteClient hscope
  | restoreClient => exact sameContent_restoreClient h hscope
  | purgeClient =>
    obtain ⟨⟩ := h
    exact sameContent_purgeClient hscope
  | deleteListing =>
    obtain ⟨⟩ := h
    exact sameContent_deleteListing hscope
  | restoreListing => exact sameContent_restoreListing h hscope
  | purgeListing =>
    obtain ⟨⟩ := h
    exact sameContent_purgeListing hscope
  | insertClients => exact sameContent_insertClientsBatch h fun hmem => hscope (mem_dedup.mpr hmem)
  | insertListings => exact sameContent_insertListingsBatch h fun hmem => hscope (mem_dedup.mpr hmem)
  | activateContract id =>
    simp only [SurfaceWrite.write, Contracts.activateContract] at h
    cases htransition : Contracts.transition id (fun s => s == .pendingSignature)
        (Contracts.setStatus .signed now) "Only pending-signature contracts can be signed" db with
    | error =>
      rw [htransition] at h
      cases h
    | ok db₁ =>
      obtain ⟨hsame, hclients, hlistings, r, hr, hstarts⟩ : SameContent scope db db₁ ∧ _ :=
        sameContent_transition htransition
      rw [htransition] at h
      obtain ⟨⟩ := h
      rcases hquiet with hnone | hdeleted
      · exact absurd hstarts (by simp [hnone r hr])
      · dsimp only
        rw [updateClientStatus_of_deleted (hclients ▸ hdeleted.1),
          updateListingStatus_of_deleted (hlistings ▸ hdeleted.2)]
        exact hsame
  | cancelContract id =>
    simp only [SurfaceWrite.write, Contracts.cancelContract] at h
    cases htransition : Contracts.transition id
        (fun s => s == .draft || s == .pendingSignature || s == .signed)
        (Contracts.setStatus .cancelled now) "Only active contracts can be cancelled" db with
    | error =>
      rw [htransition] at h
      cases h
    | ok db₁ =>
      obtain ⟨hsame, hclients, hlistings, r, hr, hstarts⟩ : SameContent scope db db₁ ∧ _ :=
        sameContent_transition htransition
      rw [htransition] at h
      obtain ⟨⟩ := h
      dsimp only
      rcases hquiet with hnone | hunsigned | hdeleted
      · exact absurd hstarts (by simp [hnone r hr])
      · rw [if_neg (by simp [hunsigned])]
        exact hsame
      · rw [updateClientStatus_of_deleted (hclients ▸ hdeleted.1),
          updateListingStatus_of_deleted (hlistings ▸ hdeleted.2), ite_self]
        exact hsame
  | setVisibility =>
    obtain ⟨r, hr, hid, hversion⟩ := exists_of_setRecordVisibility h
    exact absurd hversion (hquiet r hr hid)

lemma share_of_quiet (h : w.write env db = .ok db') (hquiet : w.call.Quiet db)
    (access : Dict (Surface × ℕ) Access) : w.share env access = access := by
  rcases w with ⟨call, _, _⟩
  cases call with
  | setVisibility =>
    obtain ⟨r, hr, hid, hversion⟩ := exists_of_setRecordVisibility h
    exact absurd hversion (hquiet r hr hid)
  | _ => rfl

lemma agency_of_key {k : SurfaceQuery} {key : SurfaceKey} (h : k.key = some key) :
    k.agency = some key.agencyId ∧ k.surface = key.surface ∧ 0 < key.agencyId := by
  unfold SurfaceQuery.key at h
  obtain ⟨a, ha, h⟩ := bind_eq_some_iff.mp h
  split at h
  · split at h
    · obtain ⟨⟩ := h
      exact ⟨ha, rfl, k.agency_pos a ha⟩
    · cases h
  · cases h
  · obtain ⟨⟩ := h
    exact ⟨ha, rfl, k.agency_pos a ha⟩

lemma bumps_of_quiet (h : w.perform env d = some d') (hquiet : w.call.Quiet d.db) :
    (surfaceReads env).Bumps ChangedFor d d' := by
  unfold SurfaceWrite.perform at h
  split at h
  · next db hdb =>
    obtain ⟨⟩ := h
    refine ⟨fun key => ?_, fun k key hkey hchanged => ?_⟩
    · simp only [surfaceReads, SurfaceDb.readGeneration, getD_bumpGenerations]
      omega
    · obtain ⟨hagency, hsurface, hpos⟩ := agency_of_key hkey
      simp only [surfaceReads, SurfaceDb.readGeneration, getD_bumpGenerations, hpos, if_true]
      have hmem : (key.surface, key.agencyId) ∈ w.bumps d.db := by
        by_contra hmem
        have hsame := sameContent_write hdb hquiet hmem
        refine absurd hchanged ?_
        unfold SameContent at hsame
        unfold ChangedFor
        rw [hsurface, hagency, share_of_quiet hdb hquiet]
        cases hkind : key.surface with
        | clients =>
          rw [hkind] at hsame
          exact not_not.mpr (hsame _).symm
        | listings =>
          rw [hkind] at hsame
          exact not_not.mpr (hsame _).symm
      have hcount := count_pos_iff.mpr hmem
      omega
  · cases h

end Quiet

/-- In every run whose contracts and visibilities change no client or listing, no answer is stale. -/
theorem no_stale_list {env : SurfaceEnv} {d : SurfaceDb} {actions : List SurfaceAction} {t : SurfaceDesk}
    (hquiet : Guarded (ReadDesk.step (surfaceReads env)) QuietWrites (ReadDesk.initial d) actions)
    (hrun : run (ReadDesk.step (surfaceReads env)) (ReadDesk.initial d) actions = some t) :
    ∀ a ∈ t.answers, a.Fresh ChangedFor t.log := by
  refine answers_fresh ?_ hrun
  refine Guarded.of_invariant (P := fun _ => True) (fun _ _ _ _ _ _ => trivial) ?_ trivial hquiet
  rintro s _ - hquiet w _ rfl hperform
  exact bumps_of_quiet hperform hquiet

/-! ### One client -/

def plainSurfaces : SurfaceEnv :=
  { plainServices with
    findsClient := fun _ _ _ => false
    findsListing := fun _ _ _ => false
    ownerUserId := fun _ _ => none }

def emptySurfaces : SurfaceDb := ⟨Db.empty, [], []⟩

def listClients : SurfaceQuery :=
  { surface := .clients, agency := some 1, viewer := ⟨some 7, false, false⟩, form := .page 50 0
    status := some "active", agency_pos := by simp }

/-- A client is created, an agent lists it and the list is kept. -/
def listedClient : List SurfaceAction :=
  [.commit ⟨.upsertClient { familyName := .plain "Ali" } true, 1, 1⟩, .start 0 0 listClients,
    .readGeneration 0, .fill 0, .query 0, .finish 0 true false]

def listAgain : List SurfaceAction := [.start 1 0 listClients, .readGeneration 1, .lookup 1 false false]

def listedVersions (t : SurfaceDesk) : List (ℕ × ℕ) × List (List ℕ × List ℕ) :=
  ((t.answers.filter fun a => a.query.surface = .clients && a.query.agency = some 1).map
      fun a => (a.begun, a.computed),
    t.log.map fun c => ((c.1.clients (some 1)).map fun e => e.row.rowVersion,
      (c.2.clients (some 1)).map fun e => e.row.rowVersion))

/-- The client is tagged before: the second list is computed again. -/
theorem no_stale_list_tagged : ∃ t, run (ReadDesk.step (surfaceReads plainSurfaces)) (ReadDesk.initial emptySurfaces)
    (listedClient ++ (.commit ⟨.upsertClient { id := 1, tags := some "urgent" } true, 1, 2⟩ ::
      [.start 1 0 listClients, .readGeneration 1, .fill 1, .query 1, .finish 1 true false])) = some t ∧
    t.answers.length = 2 ∧ ∀ a ∈ t.answers, a.Fresh ChangedFor t.log := by
  obtain ⟨t, ht, hlength⟩ := map_eq_some_iff.mp (by decide +kernel :
    (run (ReadDesk.step (surfaceReads plainSurfaces)) (ReadDesk.initial emptySurfaces)
      (listedClient ++ (.commit ⟨.upsertClient { id := 1, tags := some "urgent" } true, 1, 2⟩ ::
        [.start 1 0 listClients, .readGeneration 1, .fill 1, .query 1, .finish 1 true false]))).map
      (fun t => t.answers.length) = some 2)
  exact ⟨t, ht, hlength, no_stale_list (by decide +kernel) ht⟩

/-- It is restricted to somebody else before: the second list is the first. -/
theorem stale_list_after_restriction : ¬ ∀ (env : SurfaceEnv) (d : SurfaceDb) (actions : List SurfaceAction)
    (t : SurfaceDesk), run (ReadDesk.step (surfaceReads env)) (ReadDesk.initial d) actions = some t →
    ∀ a ∈ t.answers, a.Fresh ChangedFor t.log := by
  intro h
  obtain ⟨t, ht, hvalues⟩ := map_eq_some_iff.mp (by decide +kernel :
    (run (ReadDesk.step (surfaceReads plainSurfaces)) (ReadDesk.initial emptySurfaces)
      (listedClient ++ (.commit ⟨.setVisibility .clients 1 .restricted [9] 1, 1, 2⟩ :: listAgain))).map
      listedVersions = some ([(1, 1), (2, 1)], [([], [1]), ([1], [2])]))
  obtain ⟨hanswers, hlog⟩ := Prod.mk.inj hvalues
  obtain ⟨a, ha, htimes⟩ := mem_map.mp (hanswers ▸ by simp : ((2, 1) : ℕ × ℕ) ∈ (t.answers.filter fun a =>
      a.query.surface = .clients && a.query.agency = some 1).map fun a => (a.begun, a.computed))
  obtain ⟨c, hc, hversions⟩ : ∃ c, t.log[1]? = some c ∧ ((c.1.clients (some 1)).map (fun e => e.row.rowVersion),
        (c.2.clients (some 1)).map fun e => e.row.rowVersion) = ([1], [2]) :=
    map_eq_some_iff.mp (by rw [← getElem?_map, hlog]; rfl)
  obtain ⟨hbefore, hafter⟩ := Prod.mk.inj hversions
  obtain ⟨_, _⟩ := Prod.mk.inj htimes
  obtain ⟨hmem, hquery⟩ := mem_filter.mp ha
  obtain ⟨hsurface, hagency⟩ : a.query.surface = .clients ∧ a.query.agency = some 1 := by
    simpa using hquery
  have hchanged : ChangedFor c.1 c.2 a.query := by
    rw [ChangedFor, hsurface, hagency]
    intro hsame
    rw [← hsame, hbefore] at hafter
    exact absurd hafter (by decide)
  have hearlier := h plainSurfaces emptySurfaces _ t ht a hmem 1 (by omega) c hc hchanged
  omega

end ImmoApp.Crm
