import ImmoApp.Crm.Contracts
import ImmoApp.Crm.Junctions
import Mathlib.Algebra.Order.Field.Rat

/-!
# Writes to the six record types

The update, delete and restore functions of the repositories, and the creation of demandes and offers.
An update carries the version its author has seen, and its statement selects the row only at that
version; most of the functions then look at the number of rows.  Deleting and restoring a client or a
listing cascades to the records that belong to it.  The counters of the list caches are left out.
-/

namespace ImmoApp.Crm

/-- What the functions use of the platform: the Unicode database and the SQL function
`immoapp_hash_trigrams`. -/
structure Platform where
  unicode : Unicode
  hashTrigrams : String → List String

variable (platform : Platform) {κ : Type}

/-- `UPDATE … SET f, row_version = row_version + 1 WHERE p AND row_version = v`, and `none` where no row
is selected. -/
def lockedUpdate (p : Row κ → Bool) (rowVersion : ℤ) (f : Row κ → Row κ) (t : Table κ) : Option (Table κ) :=
  if t.rowcount (fun r => p r && (r.rowVersion : ℤ) == rowVersion) = 0 then none
  else some (t.update (fun r => p r && (r.rowVersion : ℤ) == rowVersion) fun r => (f r).bump)

lemma lockedUpdate_some {p : Row κ → Bool} {v : ℤ} {t t' : Table κ} {f : Row κ → Row κ}
    (h : lockedUpdate p v f t = some t') :
    t' = t.update (fun r => p r && (r.rowVersion : ℤ) == v) (fun r => (f r).bump) ∧
      ∃ r ∈ t.rows, p r = true ∧ (r.rowVersion : ℤ) = v := by
  unfold lockedUpdate at h
  split at h
  · exact absurd h (by simp)
  · next hcount =>
    refine ⟨(Option.some.inj h).symm, ?_⟩
    rw [Table.rowcount, ← ne_eq, ← Nat.pos_iff_ne_zero, List.countP_pos_iff] at hcount
    obtain ⟨r, hr, hsel⟩ := hcount
    rw [Bool.and_eq_true, beq_iff_eq] at hsel
    exact ⟨r, hr, hsel⟩

/-- `btrim(phone) <> ''`: the partial unique index covers the row. -/
def phoneIndexed (phone : String) : Bool := (phone.toList.any fun c => c ≠ ' ')

def phoneClash (agencyId : κ → ℕ) (phone : κ → String) (t : Table κ) (r : Row κ) : Bool :=
  r.live && phoneIndexed (phone r.columns) && t.rows.any fun r' =>
    r'.id != r.id && r'.live && agencyId r'.columns == agencyId r.columns && phone r'.columns == phone r.columns

def anyPhoneClash (agencyId : κ → ℕ) (phone : κ → String) (p : Row κ → Bool)
    (f : Row κ → Row κ) (t : Table κ) : Bool :=
  t.rows.any fun r => p r && phoneClash agencyId phone t (f r)

/-! ### Clients and listings -/

structure ClientInput where
  /-- The version the author has seen, `0` where none is given. -/
  rowVersion : ℤ
  familyName : String
  familyNameEnc : String
  /-- The text the trigrams of the name are computed from; `none` keeps the index. -/
  familyNameSearchSrc : Option String
  phone : String
  phoneEnc : String
  /-- The text the trigrams of the phone are computed from; `none` keeps the index. -/
  phoneSearchSrc : Option String
  remarks : String
  remarksEnc : String
  tags : String
  isVip : Bool
  status : Option ClientStatus
  /-- The time of the write, where the caller gives one. -/
  updatedAt : Option ℕ

def ClientInput.write (data : ClientInput) (c : ClientColumns) : ClientColumns :=
  { c with
    familyName := data.familyName
    phone := data.phone
    remarks := data.remarks
    tags := data.tags
    isVip := data.isVip
    status := data.status.getD c.status
    familyNameEnc := data.familyNameEnc
    familyNameSearchIdx := (data.familyNameSearchSrc.map platform.hashTrigrams).getD c.familyNameSearchIdx
    phoneEnc := data.phoneEnc
    remarksEnc := data.remarksEnc
    phoneSearchIdx := (data.phoneSearchSrc.map platform.hashTrigrams).getD c.phoneSearchIdx }

/-- `upsert_client` of a client that has an id.  The statement does not ask for a live row. -/
def updateClient (clientId : ℕ) (data : ClientInput) (now : ℕ) (db : Db) : Except WriteError Db :=
  if data.rowVersion ≤ 0 then .error (.valueError "row_version is required for client updates")
  else
    let write := Row.write (data.write platform) (data.updatedAt.getD now)
    match lockedUpdate (fun r => r.id == clientId) data.rowVersion write db.clients with
    | some clients =>
      if anyPhoneClash ClientColumns.agencyId ClientColumns.phone
          (fun r => r.id == clientId && (r.rowVersion : ℤ) == data.rowVersion) write db.clients then
        .error (.conflict "A client with this phone already exists." none)
      else .ok { db with clients := clients }
    | none =>
      match db.clients.find? clientId with
      | some r => .error (.conflict
          "Client was updated by another user. Please refresh and try again." (some r.rowVersion))
      | none => .error (.notFound "Client not found")

def ClientInput.columns (data : ClientInput) (agencyId : ℕ) : ClientColumns where
  agencyId := agencyId
  familyName := data.familyName
  familyNameEnc := data.familyNameEnc
  familyNameSearchIdx := platform.hashTrigrams (data.familyNameSearchSrc.getD "")
  phone := data.phone
  phoneEnc := data.phoneEnc
  phoneSearchIdx := platform.hashTrigrams (data.phoneSearchSrc.getD "")
  remarks := data.remarks
  remarksEnc := data.remarksEnc
  tags := data.tags
  isVip := data.isVip
  status := data.status.getD .active

/-- `upsert_client` of a client that has no id. -/
def insertClient (agencyId : ℕ) (data : ClientInput) (now : ℕ) (db : Db) : Except WriteError Db :=
  let columns := data.columns platform agencyId
  if phoneClash ClientColumns.agencyId ClientColumns.phone db.clients ⟨db.clients.nextId, columns, none, now, 1⟩ then
    .error (.conflict "A client with this phone already exists." none)
  else .ok { db with clients := db.clients.insert columns (data.updatedAt.getD now) }

/-- `delete_client`, with its demandes, visits and contracts. -/
def deleteClient (clientId now : ℕ) (db : Db) : Db :=
  { db with
    clients := db.clients.update (fun r => r.id == clientId) fun r => (r.delete now).bump
    demandes := db.demandes.update (fun r => r.columns.clientId == clientId)
      fun r => (r.delete now).bump
    visits := db.visits.update (fun r => r.columns.clientId == clientId)
      fun r => (r.delete now).bump
    contracts := db.contracts.update (fun r => r.columns.clientId == clientId)
      fun r => (r.delete now).bump }

/-- `restore_client`, with its demandes, visits and contracts; the phone must still be free. -/
def restoreClient (clientId now : ℕ) (db : Db) : Except WriteError Db :=
  if anyPhoneClash ClientColumns.agencyId ClientColumns.phone (fun r => r.id == clientId)
      (Row.restore now) db.clients then .error (.uniqueViolation "uq_clients_agency_phone_active")
  else .ok { db with
    clients := db.clients.update (fun r => r.id == clientId) fun r => (r.restore now).bump
    demandes := db.demandes.update (fun r => r.columns.clientId == clientId)
      fun r => (r.restore now).bump
    visits := db.visits.update (fun r => r.columns.clientId == clientId)
      fun r => (r.restore now).bump
    contracts := db.contracts.update (fun r => r.columns.clientId == clientId)
      fun r => (r.restore now).bump }

structure ListingInput where
  /-- The version the author has seen, `0` where none is given. -/
  rowVersion : ℤ
  familyName : String
  familyNameEnc : String
  /-- The text the trigrams of the name are computed from; `none` keeps the index. -/
  familyNameSearchSrc : Option String
  phone : String
  phoneEnc : String
  /-- The text the trigrams of the phone are computed from; `none` keeps the index. -/
  phoneSearchSrc : Option String
  remarks : String
  remarksEnc : String
  isVip : Bool
  status : Option ListingStatus
  /-- The time of the write, where the caller gives one. -/
  updatedAt : Option ℕ

def ListingInput.write (data : ListingInput) (c : ListingColumns) : ListingColumns :=
  { c with
    familyName := data.familyName
    phone := data.phone
    remarks := data.remarks
    isVip := data.isVip
    status := data.status.getD c.status
    familyNameEnc := data.familyNameEnc
    familyNameSearchIdx := (data.familyNameSearchSrc.map platform.hashTrigrams).getD c.familyNameSearchIdx
    phoneEnc := data.phoneEnc
    remarksEnc := data.remarksEnc
    phoneSearchIdx := (data.phoneSearchSrc.map platform.hashTrigrams).getD c.phoneSearchIdx }

/-- `upsert_listing` of a listing that has an id.  The statement does not ask for a live row. -/
def updateListing (listingId : ℕ) (data : ListingInput) (now : ℕ) (db : Db) :
    Except WriteError Db :=
  if data.rowVersion ≤ 0 then .error (.valueError "row_version is required for listing updates")
  else
    let write := Row.write (data.write platform) (data.updatedAt.getD now)
    match lockedUpdate (fun r => r.id == listingId) data.rowVersion write db.listings with
    | some listings =>
      if anyPhoneClash ListingColumns.agencyId ListingColumns.phone
          (fun r => r.id == listingId && (r.rowVersion : ℤ) == data.rowVersion) write
          db.listings then
        .error (.conflict "A property with this phone already exists." none)
      else .ok { db with listings := listings }
    | none =>
      match db.listings.find? listingId with
      | some r => .error (.conflict
          "Listing was updated by another user. Please refresh and try again." (some r.rowVersion))
      | none => .error (.notFound "Listing not found")

/-- `delete_listing`, with its offers, visits and contracts.  The versions of the visits and of the
contracts stay, and the visits are cancelled. -/
def deleteListing (listingId now : ℕ) (db : Db) : Db :=
  { db with
    listings := db.listings.update (fun r => r.id == listingId) fun r => (r.delete now).bump
    offers := db.offers.update (fun r => r.columns.listingId == listingId)
      fun r => (r.delete now).bump
    visits := db.visits.update (fun r => r.columns.listingId == listingId)
      fun r => (r.delete now).set fun c => { c with status := "cancelled" }
    contracts := db.contracts.update (fun r => r.columns.listingId == listingId) (Row.delete now) }

/-- `restore_listing`, with its offers, visits and contracts; the phone must still be free.  The
versions of the visits and of the contracts stay. -/
def restoreListing (listingId now : ℕ) (db : Db) : Except WriteError Db :=
  if anyPhoneClash ListingColumns.agencyId ListingColumns.phone (fun r => r.id == listingId)
      (Row.restore now) db.listings then
    .error (.uniqueViolation "uq_listings_agency_phone_active")
  else .ok { db with
    listings := db.listings.update (fun r => r.id == listingId) fun r => (r.restore now).bump
    offers := db.offers.update (fun r => r.columns.listingId == listingId)
      fun r => (r.restore now).bump
    visits := db.visits.update (fun r => r.columns.listingId == listingId) (Row.restore now)
    contracts := db.contracts.update (fun r => r.columns.listingId == listingId) (Row.restore now) }

/-! ### Demandes -/

structure DemandeInput where
  /-- The version the author has seen, `0` where none is given. -/
  rowVersion : ℤ
  type : String
  typeId : Option ℤ
  action : String
  actionId : Option ℤ
  wilaya : String
  wilayaId : Option ℤ
  locations : String
  locationsEnc : String
  bedsMin : Option ℤ
  surfaceMin : Option ℚ
  surfaceMax : Option ℚ
  budgetMin : Option ℚ
  budgetMax : Option ℚ
  furnished : String
  floorMin : ℤ
  floorMax : ℤ
  elevator : Bool
  accessibilityRequired : Bool
  tags : String
  remarks : String
  remarksEnc : String
  /-- The time of the write, where the caller gives one. -/
  updatedAt : Option ℕ

structure DemandeRanges where
  budgetMin : ℚ
  budgetMax : ℚ
  surfaceMin : ℚ
  surfaceMax : ℚ
  bedsMin : ℤ

def materializeDemandeRangeValues (budgetMin budgetMax surfaceMin surfaceMax : Option ℚ)
    (bedsMin : Option ℤ) : Except WriteError DemandeRanges :=
  if budgetMin.isNone && budgetMax.isNone then
    .error (.valueError "At least one budget bound is required for demandes")
  else match surfaceMin.or surfaceMax with
  | none => .error (.valueError "At least one surface bound is required for demandes")
  | some smin =>
    let bmin := budgetMin.getD 0
    let bmax := budgetMax.getD bmin
    let smax := surfaceMax.getD smin
    let beds := bedsMin.getD 0
    if beds < 0 then .error (.valueError "beds_min cannot be negative")
    else if bmin > bmax then .error (.valueError "budget_min cannot exceed budget_max")
    else if smin > smax then .error (.valueError "surface_min cannot exceed surface_max")
    else .ok ⟨bmin, bmax, smin, smax, beds⟩

/-- The ids of a demande's lookups and its ranges. -/
structure DemandeChecked where
  typeId : ℤ
  actionId : ℤ
  wilayaId : ℤ
  ranges : DemandeRanges

def requireId (message : String) : Option ℤ → Except WriteError ℤ
  | some id => if id ≤ 0 then .error (.valueError message) else .ok id
  | none => .error (.valueError message)

/-- The checks that `_prepare_demande_values` and `update_demande` share. -/
def DemandeInput.check (data : DemandeInput) : Except WriteError DemandeChecked := do
  let actionId ← requireId "action_id is required for demandes" data.actionId
  let typeId ← requireId "type_id is required for demandes" data.typeId
  let wilayaId ← requireId "wilaya_id is required for demandes" data.wilayaId
  let ranges ← materializeDemandeRangeValues data.budgetMin data.budgetMax data.surfaceMin
    data.surfaceMax data.bedsMin
  return ⟨typeId, actionId, wilayaId, ranges⟩

def DemandeInput.columns (data : DemandeInput) (checked : DemandeChecked)
    (agencyId clientId : ℕ) : DemandeColumns where
  agencyId := agencyId
  clientId := clientId
  type := data.type
  typeId := checked.typeId
  action := data.action
  actionId := checked.actionId
  wilaya := data.wilaya
  wilayaId := checked.wilayaId
  locations := data.locations
  locationsEnc := data.locationsEnc
  bedsMin := checked.ranges.bedsMin
  surfaceMin := checked.ranges.surfaceMin
  surfaceMax := checked.ranges.surfaceMax
  budgetMin := checked.ranges.budgetMin
  budgetMax := checked.ranges.budgetMax
  budgetRange := (checked.ranges.budgetMin, checked.ranges.budgetMax)
  surfaceRange := (checked.ranges.surfaceMin, checked.ranges.surfaceMax)
  bedsRange := checked.ranges.bedsMin
  furnished := data.furnished
  floorMin := data.floorMin
  floorMax := data.floorMax
  elevator := data.elevator
  accessibilityRequired := data.accessibilityRequired
  tags := data.tags
  remarks := data.remarks
  remarksEnc := data.remarksEnc

def Demandes.createDemande (clientId : ℕ) (data : DemandeInput) (now : ℕ) (db : Db) :
    Except WriteError Db := do
  let checked ← data.check
  if clientId = 0 then .error (.valueError "client_id is required for demandes")
  else match (db.clients.find? clientId).filter Row.live with
  | none => .error (.notFound "Client not found")
  | some client =>
    let demandeId := db.demandes.nextId
    .ok (populateDemandeLinks platform.unicode demandeId data.locations { db with
      demandes := db.demandes.insert (data.columns checked client.columns.agencyId client.id) now })

def Demandes.updateDemande (demandeId : ℕ) (data : DemandeInput) (now : ℕ) (db : Db) :
    Except WriteError Db :=
  if data.rowVersion ≤ 0 then .error (.valueError "row_version is required for demande updates")
  else do
    let checked ← data.check
    let write := Row.write (fun c => data.columns checked c.agencyId c.clientId) (data.updatedAt.getD now)
    match lockedUpdate (fun r => r.id == demandeId && r.live) data.rowVersion write db.demandes with
    | some demandes => .ok (populateDemandeLinks platform.unicode demandeId data.locations { db with
        demandes := demandes })
    | none =>
      match (db.demandes.find? demandeId).filter Row.live with
      | some _ => .error (.conflict "Demande was updated by another user." none)
      | none => .error (.notFound "Demande not found")

def Demandes.deleteDemande (demandeId now : ℕ) (db : Db) : Db :=
  { db with
    demandes := db.demandes.update (fun r => r.id == demandeId) fun r => (r.delete now).bump }

def Demandes.restoreDemande (demandeId now : ℕ) (db : Db) : Db :=
  { db with
    demandes := db.demandes.update (fun r => r.id == demandeId) fun r => (r.restore now).bump }

/-- The demandes a condition selects are deleted for good, and their links with them. -/
def Demandes.purgeWhere (p : Row DemandeColumns → Bool) (db : Db) : Db :=
  { db with
    demandes := db.demandes.delete p
    demandeLocations := db.demandeLocations.filter fun link =>
      !db.demandes.rows.any fun r => r.id == link.1 && p r }

def Demandes.purgeDemande (demandeId : ℕ) (db : Db) : Db :=
  Demandes.purgeWhere (fun r => r.id == demandeId) db

/-- `purge_client`, with its demandes, visits and contracts. -/
def purgeClient (clientId : ℕ) (db : Db) : Db :=
  { Demandes.purgeWhere (fun r => r.columns.clientId == clientId) db with
    visits := db.visits.delete fun r => r.columns.clientId == clientId
    contracts := db.contracts.delete fun r => r.columns.clientId == clientId
    clients := db.clients.delete fun r => r.id == clientId }

/-! ### Offers -/

structure OfferInput where
  /-- The version the author has seen, `0` where none is given. -/
  rowVersion : ℤ
  type : String
  /-- The id of the property type, `0` where none is given. -/
  typeId : ℤ
  action : String
  /-- The id of the action, `0` where none is given. -/
  actionId : ℤ
  status : String
  wilaya : String
  /-- The id of the province, `0` where none is given. -/
  wilayaId : ℤ
  location : String
  locationEnc : String
  beds : Option ℤ
  surface : Option ℚ
  budget : Option ℚ
  priceNegotiable : Bool
  priceFlexPct : ℚ
  furnished : String
  floor : Option ℤ
  elevator : Bool
  accessibilitySupported : Bool
  link : String
  latitude : Option ℚ
  longitude : Option ℚ
  remarks : String
  remarksEnc : String
  /-- The time of the write, where the caller gives one. -/
  updatedAt : Option ℕ

/-- `int(·)` of a number: towards zero. -/
def truncate (q : ℚ) : ℤ := q.num.tdiv q.den

def flexRatio (priceFlexPct : ℚ) : ℚ := max 0 priceFlexPct / 100

structure OfferChecked where
  beds : ℤ
  surface : ℚ
  budget : ℤ
  floor : ℤ

def require (message : String) (condition : Bool) : Except WriteError Unit :=
  if condition then .ok () else .error (.valueError message)

def requireSome {α : Type} (message : String) : Option α → Except WriteError α
  | some a => .ok a
  | none => .error (.valueError message)

/-- The checks of `_prepare_offer_values` and of `update_offer`. -/
def OfferInput.check (data : OfferInput) : Except WriteError OfferChecked := do
  let budget := (data.budget.map truncate).getD 0
  require "type_id is required for offers" (data.typeId != 0)
  require "action_id is required for offers" (data.actionId != 0)
  require "wilaya_id is required for offers" (data.wilayaId != 0)
  require "location is required for offers" (data.location != "")
  let beds ← requireSome "beds is required for offers" data.beds
  let surface ← requireSome "surface is required for offers" data.surface
  require "budget is required for offers" (0 < budget)
  let floor ← requireSome "floor is required for offers" data.floor
  return ⟨beds, surface, budget, floor⟩

def OfferInput.columns (data : OfferInput) (checked : OfferChecked) (agencyId listingId : ℕ) : OfferColumns where
  agencyId := agencyId
  listingId := listingId
  type := data.type
  typeId := data.typeId
  action := data.action
  actionId := data.actionId
  status := data.status
  wilaya := data.wilaya
  wilayaId := data.wilayaId
  location := data.location
  locationEnc := data.locationEnc
  beds := checked.beds
  surface := checked.surface
  budget := checked.budget
  priceNegotiable := data.priceNegotiable || 0 < data.priceFlexPct
  priceFlexPct := data.priceFlexPct
  priceRange := (checked.budget * (1 - flexRatio data.priceFlexPct),
    checked.budget * (1 + flexRatio data.priceFlexPct))
  furnished := data.furnished
  floor := checked.floor
  elevator := data.elevator
  accessibilitySupported := data.accessibilitySupported
  link := data.link
  latitude := data.latitude
  longitude := data.longitude
  remarks := data.remarks
  remarksEnc := data.remarksEnc

def Offers.createOffer (listingId : ℕ) (data : OfferInput) (now : ℕ) (db : Db) :
    Except WriteError Db := do
  let checked ← data.check
  match (db.listings.find? listingId).filter Row.live with
  | none => .error (.notFound "Listing not found")
  | some listing =>
    let offerId := db.offers.nextId
    .ok (populateOfferLinks platform.unicode offerId data.location { db with
      offers := db.offers.insert (data.columns checked listing.columns.agencyId listing.id) now })

def Offers.updateOffer (offerId : ℕ) (data : OfferInput) (now : ℕ) (db : Db) :
    Except WriteError Db :=
  if data.rowVersion ≤ 0 then .error (.valueError "row_version is required for offer updates")
  else do
    let checked ← data.check
    let write := Row.write (fun c => data.columns checked c.agencyId c.listingId) (data.updatedAt.getD now)
    match lockedUpdate (fun r => r.id == offerId && r.live) data.rowVersion write db.offers with
    | some offers => .ok (populateOfferLinks platform.unicode offerId data.location { db with
        offers := offers })
    | none => .error (.notFound "Offer not found or conflict")

/-- `delete_offer`: the version stays. -/
def Offers.deleteOffer (offerId now : ℕ) (db : Db) : Db :=
  { db with offers := db.offers.update (fun r => r.id == offerId) (Row.delete now) }

/-- `restore_offer`: the version stays. -/
def Offers.restoreOffer (offerId now : ℕ) (db : Db) : Db :=
  { db with offers := db.offers.update (fun r => r.id == offerId) (Row.restore now) }

/-- The offers a condition selects are deleted for good, and their links with them. -/
def Offers.purgeWhere (p : Row OfferColumns → Bool) (db : Db) : Db :=
  { db with
    offers := db.offers.delete p
    offerLocations := db.offerLocations.filter fun link =>
      !db.offers.rows.any fun r => r.id == link.1 && p r }

def Offers.purgeOffer (offerId : ℕ) (db : Db) : Db := Offers.purgeWhere (fun r => r.id == offerId) db

/-- `purge_listing`, with its offers, visits and contracts. -/
def purgeListing (listingId : ℕ) (db : Db) : Db :=
  { Offers.purgeWhere (fun r => r.columns.listingId == listingId) db with
    visits := db.visits.delete fun r => r.columns.listingId == listingId
    contracts := db.contracts.delete fun r => r.columns.listingId == listingId
    listings := db.listings.delete fun r => r.id == listingId }

structure VisitInput where
  /-- The version the author has seen, `0` where none is given. -/
  rowVersion : ℤ
  status : String
  notes : String
  notesEnc : String

def VisitInput.write (data : VisitInput) (c : VisitColumns) : VisitColumns :=
  { c with status := data.status, notes := data.notes, notesEnc := data.notesEnc }

/-- `update_visit`: nobody looks at the number of rows. -/
def Visits.updateVisit (visitId : ℕ) (data : VisitInput) (now : ℕ) (db : Db) :
    Except WriteError Db :=
  if data.rowVersion ≤ 0 then .error (.valueError "row_version required")
  else .ok { db with
    visits := (lockedUpdate (fun r => r.id == visitId && r.live) data.rowVersion
      (Row.write data.write now) db.visits).getD db.visits }

def Visits.deleteVisit (visitId now : ℕ) (db : Db) : Db :=
  { db with visits := db.visits.update (fun r => r.id == visitId) fun r => (r.delete now).bump }

/-- `restore_visit`: the version stays. -/
def Visits.restoreVisit (visitId now : ℕ) (db : Db) : Db :=
  { db with visits := db.visits.update (fun r => r.id == visitId) (Row.restore now) }

structure ContractUpdate where
  /-- The version the author has seen, `0` where none is given. -/
  rowVersion : ℤ
  /-- The status; the service refuses another one than the stored. -/
  status : ContractStatus
  details : ContractDetails

def ContractUpdate.write (data : ContractUpdate) (c : ContractColumns) : ContractColumns :=
  { c with status := data.status, details := data.details }

def Contracts.updateContract (contractId : ℕ) (data : ContractUpdate) (now : ℕ) (db : Db) :
    Except WriteError Db :=
  if data.rowVersion ≤ 0 then .error (.valueError "row_version is required for contract updates")
  else
    match lockedUpdate (fun r => r.id == contractId && r.live) data.rowVersion
        (Row.write data.write now) db.contracts with
    | some contracts => .ok { db with contracts := contracts }
    | none =>
      match (db.contracts.find? contractId).filter Row.live with
      | some _ => .error (.conflict "Contract was updated by another user." none)
      | none => .error (.notFound "Contract not found")

end ImmoApp.Crm
