import ImmoApp.Crm.Services
import ImmoApp.Matching.Counts

/-!
# Offers, listings and what their writes invalidate

The service functions for offers and listings write the records, mark the clients whose number of matches in
`match_counts_cache` has to be recomputed, and ask for a rebuild afterwards.  Clients are marked by the province of the
offers; `update_offer` also marks those of the demandes that are stored or compatible with the offer.

Photos, generations of caches and the callbacks of the listing functions are left out.
-/

namespace ImmoApp.Matching

open Crm

/-- A row of `match_counts_cache`: the columns that are read here. -/
structure CountRow where
  count : ℕ
  isDirty : Bool
  deriving DecidableEq

structure MatchStore where
  db : Db
  artifacts : Artifacts
  counts : Keyed ℕ CountRow

def ActiveClient (db : Db) (clientId : ℕ) : Prop :=
  ∃ c ∈ db.clients.rows, c.id = clientId ∧ activeClient c = true

def clientsOf (db : Db) (sel : Row DemandeColumns → Bool) : List ℕ :=
  (db.demandes.rows.filter fun d => sel d && d.live).flatMap fun d =>
    (db.clients.rows.filter fun c => c.id == d.columns.clientId && activeClient c).map fun _ =>
      d.columns.clientId

def markRowsDirty (clientIds : List ℕ) (counts : Keyed ℕ CountRow) : Keyed ℕ CountRow :=
  counts.update (fun id _ => decide (id ∈ clientIds)) fun _ row => { row with isDirty := true }

def markClientsInWilayaDirty (db : Db) (wilayaId : ℤ) (counts : Keyed ℕ CountRow) : Keyed ℕ CountRow :=
  markRowsDirty (clientsOf db fun d => d.columns.wilayaId == wilayaId) counts

def markClientsForDemandeIdsDirty (db : Db) (demandeIds : List ℕ) (counts : Keyed ℕ CountRow) :
    Keyed ℕ CountRow :=
  markRowsDirty (clientsOf db fun d => decide (d.id ∈ demandeIds)) counts

/-- `get_demande_ids_for_offer`: the demandes that are compatible with an offer, numbers apart. -/
def getDemandeIdsForOffer (db : Db) (offerId : ℕ) : List ℕ :=
  matchedPairs (fun d _ => d.id) { offerIds := [offerId], includeNumeric := false } db

def getDemandeIdsFromPrecomputedForOffer (artifacts : Artifacts) (offerId : ℕ) : List ℕ :=
  sortedSet (fun a b => a ≤ b)
    (((artifacts.pairs.entries.map Prod.fst ++ artifacts.candidates.entries.map Prod.fst).filter
      fun k => k.2 == offerId).map Prod.fst)

/-- `get_offer_by_id` without deleted offers. -/
def liveOffer (db : Db) (offerId : ℕ) : Option (Row OfferColumns) :=
  (db.offers.find? offerId).filter Row.live

def getOfferWilayaIdsForListing (db : Db) (listingId : ℕ) (includeDeleted : Bool) : List ℤ :=
  ((db.offers.rows.filter fun o => o.columns.listingId == listingId && (includeDeleted || o.live)).map
    fun o => o.columns.wilayaId).dedup.filter fun w => 0 < w

/-! ### Operations -/

/-- What an operation writes, whose clients it marks, and for which demandes its rebuild is asked beside
those that are compatible. -/
structure Change where
  db : Db
  artifacts : Artifacts
  wilayaIds : List ℤ
  demandeIds : List ℕ
  demandeIdsHint : List ℕ

def Change.commit (c : Change) (s : MatchStore) : MatchStore where
  db := c.db
  artifacts := c.artifacts
  counts := markClientsForDemandeIdsDirty c.db c.demandeIds
    (c.wilayaIds.foldl (fun counts w => markClientsInWilayaDirty c.db w counts) s.counts)

def Artifacts.withoutOffers (gone : ℕ → Bool) (t : Artifacts) : Artifacts where
  candidates := t.candidates.delete fun k _ => gone k.2
  pairs := t.pairs.delete fun k _ => gone k.2

def wilayaOf (o : Option (Row OfferColumns)) : List ℤ :=
  (o.toList.map fun o => o.columns.wilayaId).filter fun w => w ≠ 0

variable (backend : Backend)

def createOffer (listingId : ℕ) (payload : OfferPayload) (now : ℕ) (s : MatchStore) :
    Except WriteError Change :=
  match (s.db.listings.find? listingId).filter Row.live with
  | none => .error (.valueError s!"Listing {listingId} not found")
  | some _ => do
    let data ← prepareOffer backend payload none now
    let db ← Offers.createOffer backend.platform listingId data now s.db
    return ⟨db, s.artifacts, if data.wilayaId ≠ 0 then [data.wilayaId] else [], [], []⟩

def updateOffer (offerId : ℕ) (payload : OfferPayload) (now : ℕ) (s : MatchStore) :
    Except WriteError Change := do
  let existing := liveOffer s.db offerId
  let oldWilayaId := (existing.map fun o => o.columns.wilayaId).getD 0
  let oldDemandeIds := getDemandeIdsFromPrecomputedForOffer s.artifacts offerId
  let data ← prepareOffer backend payload existing now
  let db ← Offers.updateOffer backend.platform offerId data now s.db
  let newWilayaId := ((liveOffer db offerId).map fun o => o.columns.wilayaId).getD data.wilayaId
  let newDemandeIds := getDemandeIdsForOffer db offerId
  let affected := sortedSet (fun a b => a ≤ b) ((oldDemandeIds ++ newDemandeIds).filter fun v => 0 < v)
  return ⟨db, s.artifacts,
    sortedSet (fun a b => a ≤ b) ([oldWilayaId, newWilayaId].filter fun w => 0 < w), affected, affected⟩

def deleteOffer (offerId now : ℕ) (s : MatchStore) : Change :=
  ⟨Offers.deleteOffer offerId now s.db, s.artifacts, wilayaOf (liveOffer s.db offerId), [], []⟩

def restoreOffer (offerId now : ℕ) (s : MatchStore) : Change :=
  let db := Offers.restoreOffer offerId now s.db
  ⟨db, s.artifacts, wilayaOf (liveOffer db offerId), [], []⟩

def purgeOffer (offerId : ℕ) (s : MatchStore) : Change :=
  ⟨Offers.purgeOffer offerId s.db, s.artifacts.withoutOffers fun id => id == offerId,
    wilayaOf (s.db.offers.find? offerId), [], []⟩

/-- `upsert_listing` of a listing that has an id.  Clients are marked where the status changes. -/
def upsertListing (listingId : ℕ) (data : ListingInput) (now : ℕ) (s : MatchStore) :
    Except WriteError Change := do
  let existing := (s.db.listings.find? listingId).filter Row.live
  let shouldRebuildOffers := existing.any fun l => data.status != some l.columns.status
  let db ← updateListing backend.platform listingId data now s.db
  return ⟨db, s.artifacts,
    if shouldRebuildOffers then getOfferWilayaIdsForListing s.db listingId false else [], [], []⟩

def deleteListing (listingId now : ℕ) (s : MatchStore) : Change :=
  ⟨Crm.deleteListing listingId now s.db, s.artifacts, getOfferWilayaIdsForListing s.db listingId false, [], []⟩

def restoreListing (listingId now : ℕ) (s : MatchStore) : Except WriteError Change := do
  let db ← Crm.restoreListing listingId now s.db
  return ⟨db, s.artifacts, getOfferWilayaIdsForListing db listingId false, [], []⟩

def purgeListing (listingId : ℕ) (s : MatchStore) : Change :=
  ⟨Crm.purgeListing listingId s.db, s.artifacts.withoutOffers fun id => s.db.offers.rows.any fun o => o.id == id &&
      o.columns.listingId == listingId,
    getOfferWilayaIdsForListing s.db listingId true, [], []⟩

inductive OfferCall where
  | create (listingId : ℕ) (payload : OfferPayload)
  | update (offerId : ℕ) (payload : OfferPayload)
  | delete (offerId : ℕ)
  | restore (offerId : ℕ)
  | purge (offerId : ℕ)

inductive ListingCall where
  /-- `upsert_listing` of a listing that has an id. -/
  | upsert (listingId : ℕ) (data : ListingInput)
  | delete (listingId : ℕ)
  | restore (listingId : ℕ)
  | purge (listingId : ℕ)

def OfferCall.change (call : OfferCall) (now : ℕ) (s : MatchStore) : Except WriteError Change :=
  match call with
  | .create listingId payload => createOffer backend listingId payload now s
  | .update offerId payload => updateOffer backend offerId payload now s
  | .delete offerId => .ok (deleteOffer offerId now s)
  | .restore offerId => .ok (restoreOffer offerId now s)
  | .purge offerId => .ok (purgeOffer offerId s)

/-- The offer whose pairs are rebuilt after the operation. -/
def OfferCall.offerId (call : OfferCall) (db : Db) : ℕ :=
  match call with
  | .create _ _ => db.offers.nextId
  | .update offerId _ | .delete offerId | .restore offerId | .purge offerId => offerId

def ListingCall.change (call : ListingCall) (now : ℕ) (s : MatchStore) : Except WriteError Change :=
  match call with
  | .upsert listingId data => upsertListing backend listingId data now s
  | .delete listingId => .ok (deleteListing listingId now s)
  | .restore listingId => restoreListing listingId now s
  | .purge listingId => .ok (purgeListing listingId s)

/-! ### Who is marked -/

lemma mem_clientsOf {db : Db} {sel : Row DemandeColumns → Bool} {clientId : ℕ} : clientId ∈ clientsOf db sel ↔
      (∃ c ∈ db.clients.rows, c.id = clientId ∧ activeClient c = true) ∧
        ∃ d ∈ db.demandes.rows, d.live = true ∧ sel d = true ∧ d.columns.clientId = clientId := by
  simp only [clientsOf, List.mem_flatMap, List.mem_filter, List.mem_map, Bool.and_eq_true, beq_iff_eq]
  constructor
  · rintro ⟨d, ⟨hd, hsel, hlive⟩, c, ⟨hc, hid, hactive⟩, rfl⟩
    exact ⟨⟨c, hc, hid, hactive⟩, d, hd, hlive, hsel, rfl⟩
  · rintro ⟨⟨c, hc, hid, hactive⟩, d, hd, hlive, hsel, rfl⟩
    exact ⟨d, ⟨hd, hsel, hlive⟩, c, ⟨hc, hid, hactive⟩, rfl⟩

def CountRow.marked (mark : Bool) (row : CountRow) : CountRow :=
  { row with isDirty := mark || row.isDirty }

@[simp] lemma CountRow.marked_false : CountRow.marked false = id := by
  funext row
  simp [CountRow.marked]

lemma get?_markRowsDirty (clientIds : List ℕ) (counts : Keyed ℕ CountRow) (id : ℕ) :
    (markRowsDirty clientIds counts).get? id = (counts.get? id).map (CountRow.marked (decide (id ∈ clientIds))) := by
  rw [markRowsDirty, Keyed.get?_update]
  by_cases hid : id ∈ clientIds
  · simp only [hid, decide_true, if_true]
    rfl
  · simp [hid]

lemma mem_clientsOf_or {db : Db} {sel sel' : Row DemandeColumns → Bool} {clientId : ℕ} :
    clientId ∈ clientsOf db (fun d => sel d || sel' d) ↔
      clientId ∈ clientsOf db sel ∨ clientId ∈ clientsOf db sel' := by
  simp only [mem_clientsOf, Bool.or_eq_true]
  constructor
  · rintro ⟨hactive, d, hd, hlive, hsel | hsel, hclient⟩
    · exact .inl ⟨hactive, d, hd, hlive, hsel, hclient⟩
    · exact .inr ⟨hactive, d, hd, hlive, hsel, hclient⟩
  · rintro (⟨hactive, d, hd, hlive, hsel, hclient⟩ | ⟨hactive, d, hd, hlive, hsel, hclient⟩)
    · exact ⟨hactive, d, hd, hlive, .inl hsel, hclient⟩
    · exact ⟨hactive, d, hd, hlive, .inr hsel, hclient⟩

lemma CountRow.marked_marked (a b : Bool) (row : CountRow) : (row.marked a).marked b = row.marked (b || a) := by
  simp [CountRow.marked, Bool.or_assoc]

lemma get?_foldl_mark (db : Db) (wilayaIds : List ℤ) (counts : Keyed ℕ CountRow) (id : ℕ) :
    (wilayaIds.foldl (fun counts w => markClientsInWilayaDirty db w counts) counts).get? id
      = (counts.get? id).map (CountRow.marked
          (decide (id ∈ clientsOf db fun d => decide (d.columns.wilayaId ∈ wilayaIds)))) := by
  induction wilayaIds generalizing counts with
  | nil =>
    have hnone : id ∉ clientsOf db fun d => decide (d.columns.wilayaId ∈ ([] : List ℤ)) := by
      simp [mem_clientsOf]
    rw [List.foldl_nil, decide_eq_false hnone, CountRow.marked_false, Option.map_id_fun, id_eq]
  | cons w rest ih =>
    have hcons : (fun d : Row DemandeColumns => decide (d.columns.wilayaId ∈ w :: rest))
        = fun d => decide (d.columns.wilayaId ∈ rest) || d.columns.wilayaId == w := by
      funext d
      rw [decide_eq_decide.mpr List.mem_cons, Bool.decide_or, Bool.or_comm, beq_eq_decide]
    rw [List.foldl_cons, ih, markClientsInWilayaDirty, get?_markRowsDirty, Option.map_map, hcons,
      decide_eq_decide.mpr mem_clientsOf_or, Bool.decide_or]
    congr 1
    funext row
    exact row.marked_marked _ _

lemma get?_commit (c : Change) (s : MatchStore) (id : ℕ) :
    (c.commit s).counts.get? id = (s.counts.get? id).map (CountRow.marked (decide (id ∈ clientsOf c.db fun d =>
        decide (d.id ∈ c.demandeIds) || decide (d.columns.wilayaId ∈ c.wilayaIds)))) := by
  change (markClientsForDemandeIdsDirty c.db c.demandeIds _).get? id = _
  rw [markClientsForDemandeIdsDirty, get?_markRowsDirty, get?_foldl_mark, Option.map_map,
    decide_eq_decide.mpr mem_clientsOf_or, Bool.decide_or]
  congr 1
  funext row
  exact row.marked_marked _ _

end ImmoApp.Matching
