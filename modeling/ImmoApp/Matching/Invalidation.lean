import ImmoApp.Crm.LocationLinks
import ImmoApp.Matching.Store

/-!
# Which counts a write of an offer or a listing invalidates

Matching goes by shared locations, and by the province only for demandes without locations; the clients
to recompute are found by the province of the offers.  A client is missed when its matches change and
none of its live demandes is in a province of the offers concerned (and, for `update_offer`, none is
stored or compatible with the offer): its count keeps a clean row.  `invalidates_iff_reached` says that
nobody else is missed.
-/

namespace ImmoApp.Matching

open Crm List Option

inductive Mutation where
  | offer (call : OfferCall)
  | listing (call : ListingCall)

variable (backend : Backend)

def Mutation.change (m : Mutation) (now : ℕ) (s : MatchStore) : Except WriteError Change :=
  match m with
  | .offer call => call.change backend now s
  | .listing call => call.change backend now s

/-- The matching offers of a client, by `build_match_cte`. -/
def matchingOffers (db : Db) (clientId : ℕ) : List ℕ :=
  matchedPairs (fun _ o => o.id) { clientIds := [clientId] } db

def MatchesChange (db db' : Db) (clientId : ℕ) : Prop :=
  ∃ offerId, ¬ (offerId ∈ matchingOffers db clientId ↔ offerId ∈ matchingOffers db' clientId)

/-- No active client whose matches change keeps a clean row. -/
def Invalidates (s s' : MatchStore) : Prop :=
  ∀ clientId, ActiveClient s'.db clientId → MatchesChange s.db s'.db clientId →
    ∀ row, s'.counts.get? clientId = some row → row.isDirty = true

/-! ### Who is reached -/

def Mutation.write (m : Mutation) (now : ℕ) (db : Db) : Except WriteError Db :=
  match m with
  | .offer (.create listingId payload) => Crm.createOffer backend listingId payload now db
  | .offer (.update offerId payload) => Crm.updateOffer backend offerId payload now db
  | .offer (.delete offerId) => .ok (Offers.deleteOffer offerId now db)
  | .offer (.restore offerId) => .ok (Offers.restoreOffer offerId now db)
  | .offer (.purge offerId) => .ok (Offers.purgeOffer offerId db)
  | .listing (.upsert listingId data) => updateListing backend.platform listingId data now db
  | .listing (.delete listingId) => .ok (Crm.deleteListing listingId now db)
  | .listing (.restore listingId) => Crm.restoreListing listingId now db
  | .listing (.purge listingId) => .ok (Crm.purgeListing listingId db)

def ListingIn (db : Db) (listingId : ℕ) (includeDeleted : Bool) (wilayaId : ℤ) : Prop :=
  0 < wilayaId ∧ ∃ o ∈ db.offers.rows, o.columns.listingId = listingId ∧
    (includeDeleted = true ∨ o.live = true) ∧ o.columns.wilayaId = wilayaId

/-- An offer concerned by the operation is in the province: the new offer, the offer before or after an
update, before a deletion, after it is restored, or the offers of the listing, where its status
changes. -/
def Mutation.Concerns (m : Mutation) (db db' : Db) (wilayaId : ℤ) : Prop :=
  match m with
  | .offer (.create _ _) =>
    ∃ o ∈ db'.offers.rows, o.id = db.offers.nextId ∧ o.columns.wilayaId = wilayaId
  | .offer (.update offerId _) => 0 < wilayaId ∧
    ∃ o, (liveOffer db offerId = some o ∨ liveOffer db' offerId = some o) ∧ o.columns.wilayaId = wilayaId
  | .offer (.delete offerId) => wilayaId ≠ 0 ∧
    ∃ o, liveOffer db offerId = some o ∧ o.columns.wilayaId = wilayaId
  | .offer (.restore offerId) => wilayaId ≠ 0 ∧
    ∃ o, liveOffer db' offerId = some o ∧ o.columns.wilayaId = wilayaId
  | .offer (.purge offerId) => wilayaId ≠ 0 ∧
    ∃ o, db.offers.find? offerId = some o ∧ o.columns.wilayaId = wilayaId
  | .listing (.upsert listingId data) => ListingIn db listingId false wilayaId ∧
    ∃ l, (db.listings.find? listingId).filter Row.live = some l ∧ data.status ≠ some l.columns.status
  | .listing (.delete listingId) => ListingIn db listingId false wilayaId
  | .listing (.restore listingId) => ListingIn db' listingId false wilayaId
  | .listing (.purge listingId) => ListingIn db listingId true wilayaId

/-- An update finds the demande: it is stored with the offer, or compatible with its new version. -/
def Mutation.Finds (m : Mutation) (artifacts : Artifacts) (db' : Db) (d : Row DemandeColumns) : Prop :=
  match m with
  | .offer (.update offerId _) => (artifacts.pairs.get? (d.id, offerId)).isSome ∨
    (artifacts.candidates.get? (d.id, offerId)).isSome ∨
    ∃ o ∈ db'.offers.rows, o.id = offerId ∧ compatible db' d o = true
  | _ => False

/-- Every active client with a clean row whose matches change has a live demande in a province of the
offers concerned, or one that an update finds. -/
def Mutation.Reached (m : Mutation) (now : ℕ) (s : MatchStore) : Prop :=
  ∀ db', m.write backend now s.db = .ok db' → ∀ clientId, ActiveClient s.db clientId →
    MatchesChange s.db db' clientId → ∀ row, s.counts.get? clientId = some row → row.isDirty = false →
      ∃ d ∈ s.db.demandes.rows, d.live = true ∧ d.columns.clientId = clientId ∧
        (m.Concerns s.db db' d.columns.wilayaId ∨ m.Finds s.artifacts db' d)

/-! ### What the operations mark -/

/-- An operation marks by the provinces of the offers concerned and by the demandes it finds, and writes
neither clients nor demandes. -/
structure Mutation.Spec (m : Mutation) (now : ℕ) (s : MatchStore) (c : Change) : Prop where
  write : m.write backend now s.db = .ok c.db
  clients : c.db.clients = s.db.clients
  demandes : c.db.demandes = s.db.demandes
  wilayaIds : ∀ w, w ∈ c.wilayaIds ↔ m.Concerns s.db c.db w
  demandeIds : ∀ d ∈ s.db.demandes.rows, d.id ∈ c.demandeIds ↔ m.Finds s.artifacts c.db d

section Specs

variable {backend} {now : ℕ} {s : MatchStore} {c : Change}

variable {w : ℤ} {db : Db} {listingId offerId demandeId : ℕ} {data : OfferInput} {payload : OfferPayload}

lemma mem_wilayaOf {o : Option (Row OfferColumns)} :
    w ∈ wilayaOf o ↔ w ≠ 0 ∧ ∃ r, o = some r ∧ r.columns.wilayaId = w := by
  cases o with
  | none => simp [wilayaOf]
  | some =>
    simp only [wilayaOf, toList_some, map_cons, map_nil, mem_filter,
      mem_singleton, decide_eq_true_eq, Option.some.injEq, exists_eq_left', ne_eq]
    constructor
    · rintro ⟨rfl, hne⟩
      exact ⟨hne, rfl⟩
    · rintro ⟨hne, rfl⟩
      exact ⟨rfl, hne⟩

lemma mem_getOfferWilayaIdsForListing {includeDeleted : Bool} :
    w ∈ getOfferWilayaIdsForListing db listingId includeDeleted ↔
      ListingIn db listingId includeDeleted w := by
  simp only [getOfferWilayaIdsForListing, ListingIn, List.mem_filter, List.mem_dedup, List.mem_map,
    Bool.and_eq_true, Bool.or_eq_true, beq_iff_eq, decide_eq_true_eq]
  constructor
  · rintro ⟨⟨o, ⟨ho, hlisting, hlive⟩, rfl⟩, hpos⟩
    exact ⟨hpos, o, ho, hlisting, hlive, rfl⟩
  · rintro ⟨hpos, o, ho, hlisting, hlive, rfl⟩
    exact ⟨⟨o, ⟨ho, hlisting, hlive⟩, rfl⟩, hpos⟩

lemma mem_getDemandeIdsForOffer : demandeId ∈ getDemandeIdsForOffer db offerId ↔
      ∃ d ∈ db.demandes.rows, ∃ o ∈ db.offers.rows, compatible db d o = true ∧ o.id = offerId ∧ d.id = demandeId := by
  simp [getDemandeIdsForOffer, mem_matchedPairs, MatchFilter.idFilter, MatchFilter.offerFilter]

lemma mem_getDemandeIdsFromPrecomputedForOffer {t : Artifacts} :
    demandeId ∈ getDemandeIdsFromPrecomputedForOffer t offerId ↔
      (t.pairs.get? (demandeId, offerId)).isSome ∨ (t.candidates.get? (demandeId, offerId)).isSome := by
  have hkey : ∀ {β : Type} (t : Keyed (ℕ × ℕ) β),
      (demandeId, offerId) ∈ t.entries.map Prod.fst ↔ (t.get? (demandeId, offerId)).isSome := by
    intro β t
    rw [Keyed.mem_keys_iff, Option.isSome_iff_ne_none]
  rw [getDemandeIdsFromPrecomputedForOffer, mem_sortedSet, List.mem_map, ← hkey, ← hkey]
  constructor
  · rintro ⟨k, hk, rfl⟩
    obtain ⟨hk, hoffer⟩ := List.mem_filter.mp hk
    have hkeys : k = (k.1, offerId) := Prod.ext rfl (by simpa using hoffer)
    rw [← hkeys]
    exact List.mem_append.mp hk
  · intro h
    exact ⟨(demandeId, offerId), List.mem_filter.mpr ⟨List.mem_append.mpr h, by simp⟩, rfl⟩

lemma wilayaId_of_check {checked : OfferChecked} (h : data.check = .ok checked) : data.wilayaId ≠ 0 := by
  obtain ⟨_, _, h⟩ := bind_eq_ok_iff.mp h
  obtain ⟨_, _, h⟩ := bind_eq_ok_iff.mp h
  obtain ⟨_, hwilaya, _⟩ := bind_eq_ok_iff.mp h
  unfold require at hwilaya
  split at hwilaya
  · next hne => simpa using hne
  · simp at hwilaya

lemma createOffer_spec (h : createOffer backend listingId payload now s = .ok c) :
    (Mutation.offer (.create listingId payload)).Spec backend now s c := by
  unfold createOffer at h
  split at h
  · simp at h
  · next listing hlisting =>
    obtain ⟨data, hdata, h⟩ := bind_eq_ok_iff.mp h
    obtain ⟨db, hcreate, h⟩ := bind_eq_ok_iff.mp h
    obtain ⟨⟩ := h
    have hwrite : Crm.createOffer backend listingId payload now s.db = .ok db := by
      rw [Crm.createOffer, hlisting]
      exact bind_eq_ok_iff.mpr ⟨data, hdata, hcreate⟩
    obtain ⟨_, hchecked, hcreate⟩ := bind_eq_ok_iff.mp hcreate
    rw [hlisting] at hcreate
    obtain ⟨⟩ := hcreate
    refine ⟨hwrite, rfl, rfl, fun w => ?_, fun d _ => by simp [Mutation.Finds]⟩
    rw [if_pos (wilayaId_of_check hchecked), mem_singleton]
    constructor
    · rintro rfl
      exact ⟨_, Table.mem_insert.mpr (.inr rfl), rfl, rfl⟩
    · rintro ⟨o, ho, _, rfl⟩
      rcases Table.mem_insert.mp ho with hold | rfl
      · have hfresh := s.db.offers.fresh o hold
        omega
      · rfl

lemma liveOffer_of_update {db' : Db} (h : Offers.updateOffer backend.platform offerId data now db = .ok db') :
    ∃ o, liveOffer db' offerId = some o ∧ db'.clients = db.clients ∧ db'.demandes = db.demandes := by
  unfold Offers.updateOffer at h
  split at h
  · simp at h
  · obtain ⟨checked, -, h⟩ := bind_eq_ok_iff.mp h
    cases hlocked : lockedUpdate (fun r => r.id == offerId && r.live) data.rowVersion
        (Row.write (fun c => data.columns checked c.agencyId c.listingId) (data.updatedAt.getD now))
        db.offers with
    | none => simp [hlocked] at h
    | some =>
      simp only [hlocked] at h
      obtain ⟨⟩ := h
      obtain ⟨p, r, hselects, -, rfl⟩ := selects_of_lockedUpdate hlocked
      set f := fun r : Row OfferColumns => (Row.write
        (fun c => data.columns checked c.agencyId c.listingId) (data.updatedAt.getD now) r).bump
      have hmem : Table.assign p f r ∈ (db.offers.update p f).rows :=
        Table.mem_update.mpr ⟨r, hselects.mem, rfl⟩
      have hfind := Table.find?_eq_some_iff.mpr ⟨hmem, (Table.assign_id _ _ _).trans hselects.key⟩
      refine ⟨Table.assign p f r, ?_, rfl, rfl⟩
      change Option.filter Row.live ((db.offers.update p f).find? offerId) = _
      rw [hfind, filter_some, if_pos]
      have hlive := hselects.live
      simpa [Table.assign, hselects.selected, Row.write, Row.bump, Row.live, f] using hlive

lemma updateOffer_spec (h : updateOffer backend offerId payload now s = .ok c) :
    (Mutation.offer (.update offerId payload)).Spec backend now s c := by
  obtain ⟨data, hdata, h⟩ := bind_eq_ok_iff.mp h
  obtain ⟨_, hupdate, h⟩ := bind_eq_ok_iff.mp h
  obtain ⟨⟩ := h
  obtain ⟨o, ho, hclients, hdemandes⟩ := liveOffer_of_update hupdate
  refine ⟨bind_eq_ok_iff.mpr ⟨data, hdata, hupdate⟩, hclients, hdemandes, fun w => ?_, fun d hd => ?_⟩
  · simp only [mem_sortedSet, mem_filter, mem_cons, not_mem_nil, or_false,
      decide_eq_true_eq, ho, map_some, getD_some, Mutation.Concerns]
    constructor
    · rintro ⟨hw | hw, hpos⟩
      · cases hold : liveOffer s.db offerId with
        | none =>
          rw [hold] at hw
          have hzero : w = 0 := hw
          omega
        | some r =>
          rw [hold] at hw
          exact ⟨hpos, r, .inl rfl, hw.symm⟩
      · exact ⟨hpos, o, .inr rfl, hw.symm⟩
    · rintro ⟨hpos, r, hr | hr, hw⟩
      · refine ⟨.inl ?_, hpos⟩
        rw [hr]
        exact hw.symm
      · refine ⟨.inr ?_, hpos⟩
        rw [some.inj hr]
        exact hw.symm
  · have hpos := s.db.demandes.positive d hd
    simp only [mem_sortedSet, mem_filter, mem_append, decide_eq_true_eq,
      mem_getDemandeIdsFromPrecomputedForOffer, mem_getDemandeIdsForOffer, Mutation.Finds]
    constructor
    · rintro ⟨(hpair | hcandidate) | ⟨d', hd', o', ho', hcompatible, hoffer, hid⟩, -⟩
      · exact .inl hpair
      · exact .inr (.inl hcandidate)
      · have heq : d' = d := Table.eq_of_id (hdemandes ▸ hd') hd hid
        exact .inr (.inr ⟨o', ho', hoffer, heq ▸ hcompatible⟩)
    · rintro (hpair | hcandidate | ⟨o', ho', hoffer, hcompatible⟩)
      · exact ⟨.inl (.inl hpair), hpos⟩
      · exact ⟨.inl (.inr hcandidate), hpos⟩
      · exact ⟨.inr ⟨d, hdemandes.symm ▸ hd, o', ho', hcompatible, hoffer, rfl⟩, hpos⟩

lemma upsertListing_spec {data : ListingInput} (h : upsertListing backend listingId data now s = .ok c) :
    (Mutation.listing (.upsert listingId data)).Spec backend now s c := by
  obtain ⟨db, hwrite, h⟩ := bind_eq_ok_iff.mp h
  obtain ⟨⟩ := h
  have hframe : db.clients = s.db.clients ∧ db.demandes = s.db.demandes := by
    unfold updateListing at hwrite
    split at hwrite
    · simp at hwrite
    · cases hlocked : lockedUpdate (fun r => r.id == listingId) data.rowVersion
          (Row.write (ListingInput.write backend.platform data) (data.updatedAt.getD now))
          s.db.listings with
      | none =>
        simp only [hlocked] at hwrite
        split at hwrite <;> simp at hwrite
      | some =>
        simp only [hlocked] at hwrite
        split at hwrite
        · simp at hwrite
        · obtain ⟨⟩ := hwrite
          exact ⟨rfl, rfl⟩
  refine ⟨hwrite, hframe.1, hframe.2, fun w => ?_, fun d _ => by simp [Mutation.Finds]⟩
  simp only [Mutation.Concerns]
  cases hlisting : (s.db.listings.find? listingId).filter Row.live with
  | none => simp
  | some l =>
    by_cases hstatus : data.status = some l.columns.status
    · simp [hstatus]
    · simp [hstatus, mem_getOfferWilayaIdsForListing]

lemma restoreListing_spec (h : restoreListing listingId now s = .ok c) :
    (Mutation.listing (.restore listingId)).Spec backend now s c := by
  obtain ⟨db, hwrite, h⟩ := bind_eq_ok_iff.mp h
  obtain ⟨⟩ := h
  have hframe : db.clients = s.db.clients ∧ db.demandes = s.db.demandes := by
    unfold Crm.restoreListing at hwrite
    split at hwrite
    · simp at hwrite
    · obtain ⟨⟩ := hwrite
      exact ⟨rfl, rfl⟩
  exact ⟨hwrite, hframe.1, hframe.2, fun w => mem_getOfferWilayaIdsForListing,
    fun d _ => by simp [Mutation.Finds]⟩

variable {m : Mutation}

lemma change_spec (h : m.change backend now s = .ok c) : m.Spec backend now s c := by
  match m with
  | .offer (.create listingId payload) => exact createOffer_spec h
  | .offer (.update offerId payload) => exact updateOffer_spec h
  | .offer (.delete offerId) =>
    obtain ⟨⟩ := h
    exact ⟨rfl, rfl, rfl, fun w => mem_wilayaOf, fun d _ => by simp [Mutation.Finds, deleteOffer]⟩
  | .offer (.restore offerId) =>
    obtain ⟨⟩ := h
    exact ⟨rfl, rfl, rfl, fun w => mem_wilayaOf, fun d _ => by simp [Mutation.Finds, restoreOffer]⟩
  | .offer (.purge offerId) =>
    obtain ⟨⟩ := h
    exact ⟨rfl, rfl, rfl, fun w => mem_wilayaOf, fun d _ => by simp [Mutation.Finds, purgeOffer]⟩
  | .listing (.upsert listingId data) => exact upsertListing_spec h
  | .listing (.delete listingId) =>
    obtain ⟨⟩ := h
    exact ⟨rfl, rfl, rfl, fun w => mem_getOfferWilayaIdsForListing,
      fun d _ => by simp [Mutation.Finds, deleteListing]⟩
  | .listing (.restore listingId) => exact restoreListing_spec h
  | .listing (.purge listingId) =>
    obtain ⟨⟩ := h
    exact ⟨rfl, rfl, rfl, fun w => mem_getOfferWilayaIdsForListing,
      fun d _ => by simp [Mutation.Finds, purgeListing]⟩

lemma Mutation.Spec.mem_marked (hspec : m.Spec backend now s c) {clientId : ℕ} : clientId ∈ clientsOf c.db (fun d =>
        decide (d.id ∈ c.demandeIds) || decide (d.columns.wilayaId ∈ c.wilayaIds)) ↔
      ActiveClient s.db clientId ∧ ∃ d ∈ s.db.demandes.rows, d.live = true ∧ d.columns.clientId = clientId ∧
        (m.Concerns s.db c.db d.columns.wilayaId ∨ m.Finds s.artifacts c.db d) := by
  rw [mem_clientsOf, hspec.clients, hspec.demandes]
  simp only [Bool.or_eq_true, decide_eq_true_eq]
  constructor
  · rintro ⟨hactive, d, hd, hlive, hid | hwilaya, hclient⟩
    · exact ⟨hactive, d, hd, hlive, hclient, .inr ((hspec.demandeIds d hd).mp hid)⟩
    · exact ⟨hactive, d, hd, hlive, hclient, .inl ((hspec.wilayaIds _).mp hwilaya)⟩
  · rintro ⟨hactive, d, hd, hlive, hclient, hconcerns | hfinds⟩
    · exact ⟨hactive, d, hd, hlive, .inr ((hspec.wilayaIds _).mpr hconcerns), hclient⟩
    · exact ⟨hactive, d, hd, hlive, .inl ((hspec.demandeIds d hd).mpr hfinds), hclient⟩

/-- A write invalidates the counts of all active clients whose matches change if and only if each of
them has a live demande in a province of the offers concerned, or one that an update finds. -/
theorem invalidates_iff_reached {m : Mutation} (h : m.change backend now s = .ok c) :
    Invalidates s (c.commit s) ↔ m.Reached backend now s := by
  have hspec := change_spec h
  have hactiveIff : ∀ clientId, ActiveClient c.db clientId ↔ ActiveClient s.db clientId := by
    intro clientId
    unfold ActiveClient
    rw [hspec.clients]
  constructor
  · intro hinvalidates db' hwrite clientId hactive hchange row hrow hclean
    obtain rfl : db' = c.db := Except.ok.inj (hwrite.symm.trans hspec.write)
    by_contra hmissed
    have hnot : clientId ∉ clientsOf c.db (fun d =>
        decide (d.id ∈ c.demandeIds) || decide (d.columns.wilayaId ∈ c.wilayaIds)) :=
      fun hmem => hmissed (hspec.mem_marked.mp hmem).2
    have hstays : (c.commit s).counts.get? clientId = some row := by
      rw [get?_commit, hrow, decide_eq_false hnot, CountRow.marked_false]
      rfl
    have hdirty := hinvalidates clientId ((hactiveIff clientId).mpr hactive) hchange row hstays
    rw [hclean] at hdirty
    cases hdirty
  · intro hreached clientId hactive hchange row' hrow'
    have hactive := (hactiveIff clientId).mp hactive
    rw [get?_commit] at hrow'
    obtain ⟨row, hrow, rfl⟩ := map_eq_some_iff.mp hrow'
    cases hdirty : row.isDirty with
    | true => simp [CountRow.marked, hdirty]
    | false =>
      have hmem := hspec.mem_marked.mpr ⟨hactive, hreached c.db hspec.write clientId hactive hchange row hrow hdirty⟩
      simp [CountRow.marked, hmem]

end Specs

/-- A demande of the province 16 for apartments to buy. -/
def plainDemande : DemandeColumns where
  agencyId := 1
  clientId := 1
  type := "apartment"
  typeId := 1
  action := "buy"
  actionId := actionIdBuy
  wilaya := "alger"
  wilayaId := 16
  locations := "hydra"
  locationsEnc := ""
  bedsMin := 0
  surfaceMin := 50
  surfaceMax := 100
  budgetMin := 10
  budgetMax := 20
  budgetRange := (10, 20)
  surfaceRange := (50, 100)
  bedsRange := 0
  furnished := ""
  floorMin := 0
  floorMax := 10
  elevator := false
  accessibilityRequired := false
  tags := ""
  remarks := ""
  remarksEnc := ""

def plainOffer (wilayaId : ℤ) : OfferColumns where
  agencyId := 1
  listingId := 1
  type := "apartment"
  typeId := 1
  action := "sell"
  actionId := actionIdSell
  status := "available"
  wilaya := ""
  wilayaId := wilayaId
  location := "hydra"
  locationEnc := ""
  beds := 2
  surface := 75
  budget := 15
  priceNegotiable := false
  priceFlexPct := 0
  priceRange := (15, 15)
  furnished := ""
  floor := 1
  elevator := false
  accessibilitySupported := false
  link := ""
  latitude := none
  longitude := none
  remarks := ""
  remarksEnc := ""

def hydraDb (wilayaId : ℤ) : Db :=
  { partiesDb with
    demandes := Table.empty.insert plainDemande 0
    offers := Table.empty.insert (plainOffer wilayaId) 0
    locations := Locations.empty.insert "hydra"
    demandeLocations := [(1, 1)]
    offerLocations := [(1, 1)] }

def hydraStore (wilayaId : ℤ) : MatchStore where
  db := hydraDb wilayaId
  artifacts := ⟨Keyed.empty, Keyed.empty⟩
  counts := Keyed.empty.set 1 ⟨1, false⟩

/-- An offer of the demande's own province is deleted. -/
theorem invalidates_hydra :
    Invalidates (hydraStore 16) ((deleteOffer 1 1 (hydraStore 16)).commit (hydraStore 16)) := by
  refine (@invalidates_iff_reached sampleBackend 1 (hydraStore 16) _ (.offer (.delete 1)) rfl).mpr ?_
  rintro _ - _ ⟨c, hc, rfl, -⟩ - _ - -
  refine ⟨⟨1, plainDemande, none, 0, 1⟩, mem_singleton.mpr rfl, rfl, ?_, .inl ?_⟩
  · obtain rfl := mem_singleton.mp hc
    rfl
  · exact ⟨by decide, _, rfl, rfl⟩

/-- An offer of another province, in the location of the demande, is deleted: the client keeps a clean
row. -/
theorem other_wilaya_not_invalidated : ¬ ∀ (backend : Backend) (m : Mutation) (now : ℕ) (s : MatchStore) (c : Change),
      m.change backend now s = .ok c → Invalidates s (c.commit s) := by
  intro h
  have hinvalidates := h sampleBackend (.offer (.delete 1)) 1 (hydraStore 9) _ rfl
  have hactive : ActiveClient (deleteOffer 1 1 (hydraStore 9)).db 1 :=
    ⟨_, mem_singleton.mpr rfl, rfl, rfl⟩
  have hchange : MatchesChange (hydraStore 9).db (deleteOffer 1 1 (hydraStore 9)).db 1 :=
    ⟨1, by decide +kernel⟩
  have hclean : ((deleteOffer 1 1 (hydraStore 9)).commit (hydraStore 9)).counts.get? 1 = some ⟨1, false⟩ := by
    decide +kernel
  exact absurd (hinvalidates 1 hactive hchange _ hclean) (by decide)

end ImmoApp.Matching
