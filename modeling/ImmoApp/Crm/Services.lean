import ImmoApp.Crm.Repository
import ImmoApp.Crm.Ale

/-!
# Creating and updating demandes and offers

The service functions: the payload, with any subset of the fields, is laid over the stored record, its
numbers and labels are normalized, its sensitive texts are masked and encrypted, its lookups are
resolved, and only then does the repository write the row and its location links.  Numbers and flags
reach the services parsed.
-/

namespace ImmoApp.Crm

/-- A row of `property_types`, `actions` or `wilayas`. -/
structure LookupRow where
  id : ℤ
  name : String
  nameAr : Option String
  code : Option String

structure Lookups where
  propertyTypes : List LookupRow
  actions : List LookupRow
  wilayas : List LookupRow

variable (unicode : Unicode)

/-- `resolve_property_type`, `resolve_action` and `resolve_wilaya`: by id, then by name. -/
def resolveLookup (unknownId mismatch unknown : String) (rows : List LookupRow) (id : Option ℤ)
    (name : String) : Except WriteError (Option ℤ × String) :=
  let normalized := strip name
  match id.filter (· ≠ 0) with
  | some id =>
    match (rows.find? fun r => r.id == id).filter fun r => r.name ≠ "" with
    | none => .error (.valueError unknownId)
    | some r =>
      if normalized ≠ "" && unicode.lower normalized ≠ unicode.lower r.name then
        .error (.valueError mismatch)
      else .ok (some id, r.name)
  | none =>
    if normalized = "" then .ok (none, "")
    else match rows.find? fun r => unicode.lower r.name == unicode.lower normalized ||
        r.nameAr.any (fun ar => unicode.lower ar == unicode.lower normalized) ||
        r.code == some normalized with
      | none => .error (.valueError (unknown ++ normalized))
      | some r => .ok (some r.id, if r.name = "" then normalized else r.name)

structure Labels where
  type : String
  typeId : Option ℤ
  action : String
  actionId : Option ℤ
  wilaya : String
  wilayaId : Option ℤ

def resolveLookupFields (lookups : Lookups) (labels : Labels) : Except WriteError Labels := do
  let (typeId, type) ← resolveLookup unicode "Unknown property type id" "Property type mismatch"
    "Unknown property type: " lookups.propertyTypes labels.typeId labels.type
  let (actionId, action) ← resolveLookup unicode "Unknown action id" "Action mismatch"
    "Unknown action: " lookups.actions labels.actionId labels.action
  let (wilayaId, wilaya) ← resolveLookup unicode "Unknown wilaya id" "Wilaya mismatch"
    "Unknown wilaya: " lookups.wilayas labels.wilayaId labels.wilaya
  return ⟨type, typeId, action, actionId, wilaya, wilayaId⟩

/-! ### Demandes -/

structure DemandePayload where
  rowVersion : Option ℤ := none
  type : Option String := none
  typeId : Option (Option ℤ) := none
  action : Option String := none
  actionId : Option (Option ℤ) := none
  wilaya : Option String := none
  wilayaId : Option (Option ℤ) := none
  locations : Option String := none
  bedsMin : Option (Option ℤ) := none
  surfaceMin : Option (Option ℚ) := none
  surfaceMax : Option (Option ℚ) := none
  budgetMin : Option (Option ℚ) := none
  budgetMax : Option (Option ℚ) := none
  furnished : Option String := none
  floorMin : Option (Option ℤ) := none
  floorMax : Option (Option ℤ) := none
  elevator : Option Bool := none
  accessibilityRequired : Option Bool := none
  tags : Option String := none
  remarks : Option String := none
  updatedAt : Option ℕ := none

structure Backend where
  platform : Platform
  cipher : Cipher
  lookups : Lookups

variable (backend : Backend)

/-- The text of a demande's locations as `Demande.from_row` reads it. -/
def readLocations (r : Row DemandeColumns) : String :=
  readColumn backend.cipher r.columns.locations r.columns.locationsEnc

def requireNonneg {α : Type} [LT α] [Zero α] [DecidableRel (α := α) (· < ·)] (message : String)
    (value : Option α) : Except WriteError Unit :=
  require message (value.all fun v => !decide (v < 0))

def ensureMinLeMax {α : Type} [LT α] [DecidableRel (α := α) (· < ·)] (message : String)
    (low high : Option α) : Except WriteError Unit :=
  require message (low.all fun l => high.all fun h => !decide (h < l))

/-- `_normalize_demande_data`: the input of the repository before its lookups are resolved. -/
def normalizeDemandeData (payload : DemandePayload) (existing : Option (Row DemandeColumns))
    (seed : ℕ) : Except WriteError DemandeInput := do
  let old := existing.map Row.columns
  let bedsMin := payload.bedsMin.getD (old.map DemandeColumns.bedsMin)
  let surfaceMin := payload.surfaceMin.getD (old.map DemandeColumns.surfaceMin)
  let surfaceMax := payload.surfaceMax.getD (old.map DemandeColumns.surfaceMax)
  let budgetMin := payload.budgetMin.getD (old.map DemandeColumns.budgetMin)
  let budgetMax := payload.budgetMax.getD (old.map DemandeColumns.budgetMax)
  requireNonneg "beds_min cannot be negative" bedsMin
  requireNonneg "surface_min cannot be negative" surfaceMin
  requireNonneg "surface_max cannot be negative" surfaceMax
  requireNonneg "budget_min cannot be negative" budgetMin
  requireNonneg "budget_max cannot be negative" budgetMax
  ensureMinLeMax "surface_min cannot be greater than surface_max." surfaceMin surfaceMax
  ensureMinLeMax "budget_min cannot be greater than budget_max." budgetMin budgetMax
  let floorMin := (payload.floorMin.getD (old.map DemandeColumns.floorMin)).getD 0
  let floorMax := (payload.floorMax.getD (old.map DemandeColumns.floorMax)).getD 100
  requireNonneg "floor_min cannot be negative" (some floorMin)
  requireNonneg "floor_max cannot be negative" (some floorMax)
  ensureMinLeMax "floor_min cannot be greater than floor_max." (some floorMin) (some floorMax)
  let norm := normText backend.platform.unicode
  let remarks := normalizeAleField backend.cipher (.masked false) payload.remarks.isSome seed
    ⟨payload.remarks.or (old.map fun c => readColumn backend.cipher c.remarks c.remarksEnc),
      (old.map DemandeColumns.remarksEnc).getD ""⟩
  let locations := normalizeAleField backend.cipher (.masked false) payload.locations.isSome seed
    ⟨payload.locations.or (existing.map (readLocations backend)), (old.map DemandeColumns.locationsEnc).getD ""⟩
  return {
    rowVersion := payload.rowVersion.getD ((existing.map fun r => (r.rowVersion : ℤ)).getD 0)
    type := norm ((payload.type.or (old.map DemandeColumns.type)).getD "")
    typeId := if payload.type.isSome then none
      else payload.typeId.getD (old.map DemandeColumns.typeId)
    action := norm ((payload.action.or (old.map DemandeColumns.action)).getD "")
    actionId := payload.actionId.getD (old.map DemandeColumns.actionId)
    wilaya := norm ((payload.wilaya.or (old.map DemandeColumns.wilaya)).getD "")
    wilayaId := payload.wilayaId.getD (old.map DemandeColumns.wilayaId)
    locations := locations.value.toText
    locationsEnc := locations.enc
    bedsMin := bedsMin
    surfaceMin := surfaceMin
    surfaceMax := surfaceMax
    budgetMin := budgetMin
    budgetMax := budgetMax
    furnished := norm ((payload.furnished.or (old.map DemandeColumns.furnished)).getD "")
    floorMin := floorMin
    floorMax := floorMax
    elevator := (payload.elevator.or (old.map DemandeColumns.elevator)).getD false
    accessibilityRequired :=
      (payload.accessibilityRequired.or (old.map DemandeColumns.accessibilityRequired)).getD false
    tags := (payload.tags.or (old.map DemandeColumns.tags)).getD ""
    remarks := remarks.value.toText
    remarksEnc := remarks.enc
    updatedAt := payload.updatedAt.or (existing.map Row.updatedAt) }

def DemandeInput.labels (data : DemandeInput) : Labels :=
  ⟨data.type, data.typeId, data.action, data.actionId, data.wilaya, data.wilayaId⟩

def DemandeInput.withLabels (data : DemandeInput) (labels : Labels) : DemandeInput :=
  { data with
    type := labels.type, typeId := labels.typeId, action := labels.action
    actionId := labels.actionId, wilaya := labels.wilaya, wilayaId := labels.wilayaId }

def enforceStrictDemandeFields (clientId : ℕ) (data : DemandeInput) : Except WriteError Unit := do
  require "client_id is required for demandes" (clientId != 0)
  require "type_id is required for demandes" (data.typeId.any fun id => 0 < id)
  require "action_id is required for demandes" (data.actionId.any fun id => 0 < id)
  require "wilaya_id is required for demandes" (data.wilayaId.any fun id => 0 < id)
  ensureMinLeMax "surface_min cannot be greater than surface_max." data.surfaceMin data.surfaceMax
  ensureMinLeMax "budget_min cannot be greater than budget_max." data.budgetMin data.budgetMax

def prepareDemande (clientId : ℕ) (payload : DemandePayload)
    (existing : Option (Row DemandeColumns)) (seed : ℕ) : Except WriteError DemandeInput := do
  let data ← normalizeDemandeData backend payload existing seed
  let labels ← resolveLookupFields backend.platform.unicode backend.lookups data.labels
  let resolved := data.withLabels labels
  enforceStrictDemandeFields clientId resolved
  return resolved

def createDemande (clientId : ℕ) (payload : DemandePayload) (now : ℕ) (db : Db) :
    Except WriteError Db :=
  match (db.clients.find? clientId).filter Row.live with
  | none => .error (.valueError s!"Client {clientId} not found")
  | some _ => do
    let data ← prepareDemande backend clientId payload none now
    Demandes.createDemande backend.platform clientId data now db

def updateDemande (demandeId : ℕ) (payload : DemandePayload) (now : ℕ) (db : Db) :
    Except WriteError Db := do
  let existing := (db.demandes.find? demandeId).filter Row.live
  let data ← prepareDemande backend ((existing.map fun r => r.columns.clientId).getD 0) payload existing now
  Demandes.updateDemande backend.platform demandeId data now db

/-! ### Offers -/

structure OfferPayload where
  rowVersion : Option ℤ := none
  type : Option String := none
  typeId : Option (Option ℤ) := none
  action : Option String := none
  actionId : Option (Option ℤ) := none
  status : Option String := none
  wilaya : Option String := none
  wilayaId : Option (Option ℤ) := none
  location : Option String := none
  beds : Option (Option ℤ) := none
  surface : Option (Option ℚ) := none
  budget : Option (Option ℚ) := none
  priceNegotiable : Option Bool := none
  priceFlexPct : Option (Option ℚ) := none
  furnished : Option String := none
  floor : Option (Option ℤ) := none
  elevator : Option Bool := none
  accessibilitySupported : Option Bool := none
  link : Option String := none
  latitude : Option (Option ℚ) := none
  longitude : Option (Option ℚ) := none
  remarks : Option String := none
  updatedAt : Option ℕ := none

/-- The text of an offer's location as `Offer.from_row` reads it. -/
def readLocation (r : Row OfferColumns) : String :=
  readColumn backend.cipher r.columns.location r.columns.locationEnc

/-- `_normalize_offer_data`: the input of the repository before its lookups are resolved. -/
def normalizeOfferData (payload : OfferPayload) (existing : Option (Row OfferColumns)) (seed : ℕ) : OfferInput :=
  let old := existing.map Row.columns
  let norm := normText backend.platform.unicode
  let status := (payload.status.or (old.map OfferColumns.status)).getD ""
  let normStatus := norm (if status = "" then "available" else status)
  let remarks := normalizeAleField backend.cipher (.masked false) payload.remarks.isSome seed
    ⟨payload.remarks.or (old.map fun c => readColumn backend.cipher c.remarks c.remarksEnc),
      (old.map OfferColumns.remarksEnc).getD ""⟩
  let location := normalizeAleField backend.cipher (.masked false) payload.location.isSome seed
    ⟨payload.location.or (existing.map (readLocation backend)), (old.map OfferColumns.locationEnc).getD ""⟩
  { rowVersion := payload.rowVersion.getD ((existing.map fun r => (r.rowVersion : ℤ)).getD 0)
    type := norm ((payload.type.or (old.map OfferColumns.type)).getD "")
    typeId := if payload.type.isSome then 0
      else (payload.typeId.getD (old.map OfferColumns.typeId)).getD 0
    action := norm ((payload.action.or (old.map OfferColumns.action)).getD "")
    actionId := (payload.actionId.getD (old.map OfferColumns.actionId)).getD 0
    status := if normStatus = "" then "available" else normStatus
    wilaya := norm ((payload.wilaya.or (old.map OfferColumns.wilaya)).getD "")
    wilayaId := (payload.wilayaId.getD (old.map OfferColumns.wilayaId)).getD 0
    location := location.value.toText
    locationEnc := location.enc
    beds := some ((payload.beds.getD (old.map OfferColumns.beds)).getD 0)
    surface := payload.surface.getD (old.map OfferColumns.surface)
    budget := payload.budget.getD (old.map fun c => (c.budget : ℚ))
    priceNegotiable := (payload.priceNegotiable.or (old.map OfferColumns.priceNegotiable)).getD false
    priceFlexPct := (payload.priceFlexPct.getD (old.map OfferColumns.priceFlexPct)).getD 0
    furnished := norm ((payload.furnished.or (old.map OfferColumns.furnished)).getD "")
    floor := some ((payload.floor.getD (old.map OfferColumns.floor)).getD 0)
    elevator := (payload.elevator.or (old.map OfferColumns.elevator)).getD false
    accessibilitySupported :=
      (payload.accessibilitySupported.or (old.map OfferColumns.accessibilitySupported)).getD false
    link := (payload.link.or (old.map OfferColumns.link)).getD ""
    latitude := payload.latitude.getD (old.bind OfferColumns.latitude)
    longitude := payload.longitude.getD (old.bind OfferColumns.longitude)
    remarks := remarks.value.toText
    remarksEnc := remarks.enc
    updatedAt := payload.updatedAt.or (existing.map Row.updatedAt) }

def OfferInput.labels (data : OfferInput) : Labels :=
  ⟨data.type, some data.typeId, data.action, some data.actionId, data.wilaya, some data.wilayaId⟩

def OfferInput.withLabels (data : OfferInput) (labels : Labels) : OfferInput :=
  { data with
    type := labels.type, typeId := labels.typeId.getD 0, action := labels.action
    actionId := labels.actionId.getD 0, wilaya := labels.wilaya
    wilayaId := labels.wilayaId.getD 0 }

def enforceRequiredOfferFields (data : OfferInput) : Except WriteError Unit := do
  require "type_id is required for offers" (0 < data.typeId)
  require "action_id is required for offers" (0 < data.actionId)
  require "wilaya_id is required for offers" (0 < data.wilayaId)
  require "location is required for offers" (strip data.location != "")
  require "beds is required for offers" (data.beds.any fun v => 0 ≤ v)
  require "surface is required for offers" (data.surface.any fun v => 0 ≤ v)
  require "budget is required for offers" (data.budget.any fun v => 0 ≤ v)
  require "floor is required for offers" (data.floor.any fun v => 0 ≤ v)

def prepareOffer (payload : OfferPayload) (existing : Option (Row OfferColumns)) (seed : ℕ) :
    Except WriteError OfferInput := do
  let data := normalizeOfferData backend payload existing seed
  let labels ← resolveLookupFields backend.platform.unicode backend.lookups data.labels
  let resolved := data.withLabels labels
  enforceRequiredOfferFields resolved
  return resolved

def createOffer (listingId : ℕ) (payload : OfferPayload) (now : ℕ) (db : Db) :
    Except WriteError Db :=
  match (db.listings.find? listingId).filter Row.live with
  | none => .error (.valueError s!"Listing {listingId} not found")
  | some _ => do
    let data ← prepareOffer backend payload none now
    Offers.createOffer backend.platform listingId data now db

def updateOffer (offerId : ℕ) (payload : OfferPayload) (now : ℕ) (db : Db) :
    Except WriteError Db := do
  let existing := (db.offers.find? offerId).filter Row.live
  let data ← prepareOffer backend payload existing now
  Offers.updateOffer backend.platform offerId data now db

end ImmoApp.Crm
