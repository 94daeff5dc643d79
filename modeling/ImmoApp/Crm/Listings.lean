import ImmoApp.Crm.ClientFields
import ImmoApp.Foundation.Commits

/-!
# Creating and updating listings

The service of the listings is that of the clients for another table: the same three protected fields under
the same policies, laid over the record that was read.  With it, all four services that an import or a user
writes through are there; `Services` is what they are run with.

`Db.writes` counts the rows of the four tables and their versions: every write of the services that succeeds
raises it, so a database with the same four tables has seen no write.
-/

namespace ImmoApp.Crm

/-- What the four services need besides the database. -/
structure Services extends Backend where
  digit : Char → Bool

def Services.clients (services : Services) : ClientBackend :=
  ⟨services.platform, services.cipher, services.digit⟩

structure ListingPayload where
  id : ℕ := 0
  rowVersion : Option ℤ := none
  familyName : Supplied := .omitted
  phone : Supplied := .omitted
  remarks : Supplied := .omitted
  isVip : Option Bool := none
  status : Option ListingStatus := none
  updatedAt : Option ℕ := none

variable (backend : ClientBackend)

def normalizeListingData (payload : ListingPayload) (existing : Option (Row ListingColumns))
    (readable : Bool) (seed : ℕ) : ListingInput :=
  let old := existing.map Row.columns
  let familyName := normalizeClientField backend (.masked true) readable seed
    (old.map fun c => (c.familyName, c.familyNameEnc)) payload.familyName
  let phone := normalizeClientField backend (phonePolicy backend) readable seed
    (old.map fun c => (c.phone, c.phoneEnc)) payload.phone
  let remarks := normalizeClientField backend (.masked false) readable seed
    (old.map fun c => (c.remarks, c.remarksEnc)) payload.remarks
  { rowVersion := payload.rowVersion.getD ((existing.map fun r => (r.rowVersion : ℤ)).getD 0)
    familyName := familyName.value.str
    familyNameEnc := familyName.enc
    familyNameSearchSrc := familyName.searchSrc
    phone := phone.value.str
    phoneEnc := phone.enc
    phoneSearchSrc := phone.searchSrc
    remarks := remarks.value.str
    remarksEnc := remarks.enc
    isVip := (payload.isVip.or (old.map ListingColumns.isVip)).getD false
    status := some ((payload.status.or (old.map ListingColumns.status)).getD .available)
    updatedAt := payload.updatedAt.or (existing.map Row.updatedAt) }

def ListingInput.columns (platform : Platform) (data : ListingInput) (agencyId : ℕ) : ListingColumns where
  agencyId := agencyId
  familyName := data.familyName
  familyNameEnc := data.familyNameEnc
  familyNameSearchIdx := platform.hashTrigrams (data.familyNameSearchSrc.getD "")
  phone := data.phone
  phoneEnc := data.phoneEnc
  phoneSearchIdx := platform.hashTrigrams (data.phoneSearchSrc.getD "")
  remarks := data.remarks
  remarksEnc := data.remarksEnc
  isVip := data.isVip
  status := data.status.getD .available

/-- `upsert_listing` of the repository for a listing that has no id. -/
def insertListing (platform : Platform) (agencyId : ℕ) (data : ListingInput) (now : ℕ) (db : Db) :
    Except WriteError Db :=
  let columns := data.columns platform agencyId
  if phoneClash ListingColumns.agencyId ListingColumns.phone db.listings
      ⟨db.listings.nextId, columns, none, now, 1⟩ then
    .error (.conflict "A property with this phone already exists." none)
  else .ok { db with listings := db.listings.insert columns (data.updatedAt.getD now) }

/-- `get_listing_by_id_for_update` of the listing a payload names. -/
def readListing (id : ℕ) (db : Db) : Option (Row ListingColumns) :=
  if id = 0 then none else (db.listings.find? id).filter Row.live

/-- `upsert_listing` of the service. -/
def upsertListing (agencyId : ℕ) (payload : ListingPayload) (readable : Bool) (now : ℕ) (db : Db) :
    Except WriteError Db :=
  let data := normalizeListingData backend payload (readListing payload.id db) readable now
  if payload.id = 0 then insertListing backend.platform agencyId data now db
  else updateListing backend.platform payload.id data now db

section Written

variable {platform : Platform} {db db' : Db} {agencyId id now : ℕ}

lemma insertClient_ok {data : ClientInput} (h : insertClient platform agencyId data now db = .ok db') :
    db' = { db with
      clients := db.clients.insert (data.columns platform agencyId) (data.updatedAt.getD now) } := by
  unfold insertClient at h
  dsimp only at h
  split at h
  · cases h
  · exact (Except.ok.inj h).symm

variable {data : ListingInput}

lemma insertListing_ok (h : insertListing platform agencyId data now db = .ok db') :
    db' = { db with
      listings := db.listings.insert (data.columns platform agencyId) (data.updatedAt.getD now) } := by
  unfold insertListing at h
  dsimp only at h
  split at h
  · cases h
  · exact (Except.ok.inj h).symm

lemma updateListing_ok (h : updateListing platform id data now db = .ok db') :
    ∃ listings, lockedUpdate (fun r => r.id == id) data.rowVersion
        (Row.write (data.write platform) (data.updatedAt.getD now)) db.listings = some listings ∧
      db' = { db with listings := listings } := by
  unfold updateListing at h
  split at h
  · cases h
  · dsimp only at h
    split at h
    · next listings hlocked =>
      split at h
      · cases h
      · exact ⟨listings, hlocked, (Except.ok.inj h).symm⟩
    · split at h <;> cases h

lemma lockedUpdate_writes {κ : Type} {p : Row κ → Bool} {v : ℤ} {g : κ → κ} {t t' : Table κ}
    (h : lockedUpdate p v (Row.write g now) t = some t') : t.writes < t'.writes := by
  obtain ⟨rfl, r, hr, hp, hversion⟩ := lockedUpdate_some h
  exact Table.writes_lt_update (fun _ => rfl) ⟨r, hr, by simp [hp, hversion]⟩

end Written

/-! ### Writes are counted -/

def Db.writes (db : Db) : ℕ :=
  db.clients.writes + db.listings.writes + db.demandes.writes + db.offers.writes

structure Db.SameTables (db db' : Db) : Prop where
  clients : db'.clients = db.clients
  listings : db'.listings = db.listings
  demandes : db'.demandes = db.demandes
  offers : db'.offers = db.offers

lemma Db.SameTables.refl (db : Db) : db.SameTables db := ⟨rfl, rfl, rfl, rfl⟩

lemma Db.SameTables.writes_eq {db db' : Db} (h : db.SameTables db') : db'.writes = db.writes := by
  rw [Db.writes, Db.writes, h.clients, h.listings, h.demandes, h.offers]

section Counted

variable {platform : Platform} {db db' : Db} {agencyId id now : ℕ}

@[simp] lemma writes_populateDemandeLinks (unicode : Unicode) (text : String) :
    (populateDemandeLinks unicode id text db).writes = db.writes := rfl

@[simp] lemma writes_populateOfferLinks (unicode : Unicode) (text : String) :
    (populateOfferLinks unicode id text db).writes = db.writes := rfl

variable {data : ClientInput} {readable : Bool}

lemma writes_lt_insertClient (h : insertClient platform agencyId data now db = .ok db') : db.writes < db'.writes := by
  obtain rfl := insertClient_ok h
  simp only [Db.writes, Table.writes_insert]
  omega

lemma writes_lt_insertListing {data : ListingInput}
    (h : insertListing platform agencyId data now db = .ok db') : db.writes < db'.writes := by
  obtain rfl := insertListing_ok h
  simp only [Db.writes, Table.writes_insert]
  omega

lemma writes_lt_updateClient (h : updateClient platform id data now db = .ok db') : db.writes < db'.writes := by
  unfold updateClient at h
  split at h
  · cases h
  · dsimp only at h
    split at h
    · next clients hlocked =>
      split at h
      · cases h
      · obtain ⟨⟩ := h
        have hlt := lockedUpdate_writes hlocked
        simp only [Db.writes]
        omega
    · split at h <;> cases h

lemma writes_lt_updateListing {data : ListingInput}
    (h : updateListing platform id data now db = .ok db') : db.writes < db'.writes := by
  obtain ⟨_, hlocked, rfl⟩ := updateListing_ok h
  have hlt := lockedUpdate_writes hlocked
  simp only [Db.writes]
  omega

lemma Demandes.writes_lt_createDemande {clientId : ℕ} {data : DemandeInput}
    (h : Demandes.createDemande platform clientId data now db = .ok db') : db.writes < db'.writes := by
  obtain ⟨_, -, h⟩ := bind_eq_ok_iff.mp h
  split at h
  · cases h
  · split at h
    · cases h
    · obtain ⟨⟩ := h
      rw [writes_populateDemandeLinks]
      simp only [Db.writes, Table.writes_insert]
      omega

lemma Offers.writes_lt_createOffer {listingId : ℕ} {data : OfferInput}
    (h : Offers.createOffer platform listingId data now db = .ok db') : db.writes < db'.writes := by
  obtain ⟨_, -, h⟩ := bind_eq_ok_iff.mp h
  split at h
  · cases h
  · obtain ⟨⟩ := h
    rw [writes_populateOfferLinks]
    simp only [Db.writes, Table.writes_insert]
    omega

lemma Demandes.writes_lt_updateDemande {data : DemandeInput}
    (h : Demandes.updateDemande platform id data now db = .ok db') : db.writes < db'.writes := by
  unfold Demandes.updateDemande at h
  split at h
  · cases h
  · obtain ⟨_, -, h⟩ := bind_eq_ok_iff.mp h
    dsimp only at h
    split at h
    · next demandes hlocked =>
      obtain ⟨⟩ := h
      have hlt := lockedUpdate_writes hlocked
      rw [writes_populateDemandeLinks]
      simp only [Db.writes]
      omega
    · split at h <;> cases h

lemma Offers.writes_lt_updateOffer {data : OfferInput}
    (h : Offers.updateOffer platform id data now db = .ok db') : db.writes < db'.writes := by
  unfold Offers.updateOffer at h
  split at h
  · cases h
  · obtain ⟨_, -, h⟩ := bind_eq_ok_iff.mp h
    dsimp only at h
    split at h
    · next offers hlocked =>
      obtain ⟨⟩ := h
      have hlt := lockedUpdate_writes hlocked
      rw [writes_populateOfferLinks]
      simp only [Db.writes]
      omega
    · cases h

variable {services : Services}

lemma writes_lt_upsertClient {payload : ClientPayload}
    (h : upsertClient services.clients agencyId payload readable now db = .ok db') :
    db.writes < db'.writes := by
  unfold upsertClient at h
  dsimp only at h
  split at h
  · exact writes_lt_insertClient h
  · exact writes_lt_updateClient h

lemma writes_lt_upsertListing {payload : ListingPayload}
    (h : upsertListing services.clients agencyId payload readable now db = .ok db') :
    db.writes < db'.writes := by
  unfold upsertListing at h
  dsimp only at h
  split at h
  · exact writes_lt_insertListing h
  · exact writes_lt_updateListing h

lemma writes_lt_updateDemande {payload : DemandePayload}
    (h : updateDemande services.toBackend id payload now db = .ok db') : db.writes < db'.writes := by
  obtain ⟨_, -, h⟩ := bind_eq_ok_iff.mp h
  exact Demandes.writes_lt_updateDemande h

lemma writes_lt_updateOffer {payload : OfferPayload}
    (h : updateOffer services.toBackend id payload now db = .ok db') : db.writes < db'.writes := by
  obtain ⟨_, -, h⟩ := bind_eq_ok_iff.mp h
  exact Offers.writes_lt_updateOffer h

end Counted

end ImmoApp.Crm
