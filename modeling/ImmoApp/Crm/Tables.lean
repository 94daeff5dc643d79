import ImmoApp.Foundation.Fallible
import ImmoApp.Foundation.Tables
import Mathlib.Data.Rat.Defs

/-!
# The tables of the CRM

The six record types of the server and the junction tables of their locations.  A record is a row with
the columns of its type; the key, the soft deletion, the time of the last write and the version are
those of every row.  Columns that no modelled statement reads or writes (owners, visibility, times and
places of creation) are left out.  Amounts, surfaces and coordinates are rational numbers.
-/

namespace ImmoApp.Crm

inductive ClientStatus where
  | active
  | archivedRented
  | archivedSold
  deriving DecidableEq

/-- `status` is one of the archived ones. -/
def ClientStatus.archived : ClientStatus → Bool
  | .active => false
  | .archivedRented | .archivedSold => true

inductive ListingStatus where
  | available
  | rented
  | sold
  deriving DecidableEq

/-- `status` is sold or rented. -/
def ListingStatus.taken : ListingStatus → Bool
  | .available => false
  | .rented | .sold => true

/-- `CONTRACT_STATUSES`. -/
inductive ContractStatus where
  | draft
  | pendingSignature
  | signed
  | completed
  | cancelled
  deriving DecidableEq

/-- `CONTRACT_TYPES`. -/
inductive ContractType where
  | buy
  | rent
  deriving DecidableEq

/-- The columns of `clients`. -/
structure ClientColumns where
  agencyId : ℕ
  familyName : String
  familyNameEnc : String
  familyNameSearchIdx : List String
  phone : String
  phoneEnc : String
  phoneSearchIdx : List String
  remarks : String
  remarksEnc : String
  tags : String
  isVip : Bool
  status : ClientStatus
  deriving DecidableEq

/-- The columns of `listings`. -/
structure ListingColumns where
  agencyId : ℕ
  familyName : String
  familyNameEnc : String
  familyNameSearchIdx : List String
  phone : String
  phoneEnc : String
  phoneSearchIdx : List String
  remarks : String
  remarksEnc : String
  isVip : Bool
  status : ListingStatus
  deriving DecidableEq

/-- The columns of `demandes`. -/
structure DemandeColumns where
  agencyId : ℕ
  clientId : ℕ
  type : String
  typeId : ℤ
  action : String
  actionId : ℤ
  wilaya : String
  wilayaId : ℤ
  locations : String
  locationsEnc : String
  bedsMin : ℤ
  surfaceMin : ℚ
  surfaceMax : ℚ
  budgetMin : ℚ
  budgetMax : ℚ
  budgetRange : ℚ × ℚ
  surfaceRange : ℚ × ℚ
  /-- The lower end of `int4range(beds_min, NULL, '[]')`. -/
  bedsRange : ℤ
  furnished : String
  floorMin : ℤ
  floorMax : ℤ
  elevator : Bool
  accessibilityRequired : Bool
  tags : String
  remarks : String
  remarksEnc : String

/-- The columns of `offers`. -/
structure OfferColumns where
  agencyId : ℕ
  listingId : ℕ
  type : String
  typeId : ℤ
  action : String
  actionId : ℤ
  status : String
  wilaya : String
  wilayaId : ℤ
  location : String
  locationEnc : String
  beds : ℤ
  surface : ℚ
  budget : ℤ
  priceNegotiable : Bool
  priceFlexPct : ℚ
  /-- `numrange(budget * (1 - ratio), budget * (1 + ratio), '[]')`. -/
  priceRange : ℚ × ℚ
  furnished : String
  floor : ℤ
  elevator : Bool
  accessibilitySupported : Bool
  link : String
  latitude : Option ℚ
  longitude : Option ℚ
  remarks : String
  remarksEnc : String
  deriving DecidableEq

/-- The columns of `visits`. -/
structure VisitColumns where
  agencyId : ℕ
  clientId : ℕ
  listingId : ℕ
  scheduledDate : String
  scheduledTime : String
  status : String
  notes : String
  notesEnc : String

structure ContractDetails where
  startDate : Option String
  endDate : Option String
  amount : Option ℚ
  deposit : Option ℚ
  terms : String
  notes : String
  amountEnc : String
  depositEnc : String
  termsEnc : String
  notesEnc : String

/-- The columns of `contracts`. -/
structure ContractColumns where
  agencyId : ℕ
  clientId : ℕ
  listingId : ℕ
  contractType : ContractType
  status : ContractStatus
  details : ContractDetails

/-- The table `locations`: each normalized location has one id, taken from a sequence. -/
structure Locations where
  rows : List (ℕ × String)
  nextId : ℕ
  keyed : (rows.map Prod.fst).Nodup
  unique : (rows.map Prod.snd).Nodup
  fresh : ∀ e ∈ rows, e.1 < nextId

def Locations.empty : Locations := ⟨[], 1, List.nodup_nil, List.nodup_nil, by simp⟩

structure Db where
  clients : Table ClientColumns
  listings : Table ListingColumns
  demandes : Table DemandeColumns
  offers : Table OfferColumns
  visits : Table VisitColumns
  contracts : Table ContractColumns
  locations : Locations
  demandeLocations : List (ℕ × ℕ)
  offerLocations : List (ℕ × ℕ)

def Db.empty : Db where
  clients := Table.empty
  listings := Table.empty
  demandes := Table.empty
  offers := Table.empty
  visits := Table.empty
  contracts := Table.empty
  locations := Locations.empty
  demandeLocations := []
  offerLocations := []

inductive WriteError where
  /-- `ValueError`: the input is refused before the database sees it. -/
  | valueError (message : String)
  | notFound (message : String)
  /-- `ConflictError`, with the current version where the function reports it. -/
  | conflict (message : String) (currentVersion : Option ℕ)
  /-- An exception of the database itself: the named unique index refuses the row. -/
  | uniqueViolation (index : String)

def committed (db : Db) : Except WriteError Db → Db
  | .ok db' => db'
  | .error _ => db

@[simp] lemma committed_ok (db db' : Db) : committed db (.ok db') = db' := rfl

@[simp] lemma committed_error (db : Db) (e : WriteError) : committed db (.error e) = db := rfl

end ImmoApp.Crm
