import ImmoApp.Crm.Listings
import ImmoApp.Crm.RowVersions
import ImmoApp.Foundation.Feeds

/-!
# The delta feed

A synchronised client polls `fetch_changes` for the rows written since its cursor, a time of writing and an identifier.
The services write the old time of a record back where the payload gives none, and the status changes that go with a
contract do not touch it at all.

`changes_delivered`: in every run whose writes stamp what they change with a time between the last write and their own,
a changed row is ahead of every cursor handed out before, and a reader that may see it finds it in a later page.
-/

namespace ImmoApp.Crm

open List Option Table

/-! ### Writes -/

inductive Visibility where
  | agency
  | restricted
  deriving DecidableEq

def Db.setTable (db : Db) : (k : Kind) → Table k.Columns → Db
  | .client, t => { db with clients := t }
  | .listing, t => { db with listings := t }
  | .demande, t => { db with demandes := t }
  | .offer, t => { db with offers := t }
  | .visit, t => { db with visits := t }
  | .contract, t => { db with contracts := t }

/-- `update_visibility` and the failure when it finds no row; the visibility itself is beside the tables. -/
def setRecordVisibility (k : Kind) (id : ℕ) (rowVersion : ℤ) (now : ℕ) (db : Db) : Except WriteError Db :=
  match lockedUpdate (fun r => r.id == id) rowVersion (Row.write (fun c => c) now) (db.table k) with
  | some t => .ok (db.setTable k t)
  | none =>
    match (db.table k).find? id with
    | none => .error (.notFound "Record not found")
    | some r => .error (.conflict "Record was updated by someone else" (some r.rowVersion))

inductive FeedWrite where
  | upsertClient (payload : ClientPayload) (readable : Bool)
  | upsertListing (payload : ListingPayload) (readable : Bool)
  | updateDemande (id : ℕ) (payload : DemandePayload)
  | updateOffer (id : ℕ) (payload : OfferPayload)
  | deleteClient (id : ℕ)
  | restoreClient (id : ℕ)
  | deleteListing (id : ℕ)
  | restoreListing (id : ℕ)
  | deleteDemande (id : ℕ)
  | restoreDemande (id : ℕ)
  | deleteOffer (id : ℕ)
  | restoreOffer (id : ℕ)
  /-- `activate_contract`, of the contract as it was read. -/
  | activateContract (id : ℕ) (contractType : ContractType) (clientId listingId : ℕ)
  /-- `cancel_contract`, of the contract as it was read. -/
  | cancelContract (id clientId listingId : ℕ) (wasSigned restoreStatus : Bool)
  | setVisibility (kind : Kind) (id : ℕ) (visibility : Visibility) (rowVersion : ℤ)

variable (services : Services) (agencyId : ℕ)

def FeedWrite.perform (w : FeedWrite) (now : ℕ) (db : Db) : Except WriteError Db :=
  match w with
  | .upsertClient payload readable => Crm.upsertClient services.clients agencyId payload readable now db
  | .upsertListing payload readable => Crm.upsertListing services.clients agencyId payload readable now db
  | .updateDemande id payload => Crm.updateDemande services.toBackend id payload now db
  | .updateOffer id payload => Crm.updateOffer services.toBackend id payload now db
  | .deleteClient id => .ok (Crm.deleteClient id now db)
  | .restoreClient id => Crm.restoreClient id now db
  | .deleteListing id => .ok (Crm.deleteListing id now db)
  | .restoreListing id => Crm.restoreListing id now db
  | .deleteDemande id => .ok (Demandes.deleteDemande id now db)
  | .restoreDemande id => .ok (Demandes.restoreDemande id now db)
  | .deleteOffer id => .ok (Offers.deleteOffer id now db)
  | .restoreOffer id => .ok (Offers.restoreOffer id now db)
  | .activateContract id contractType clientId listingId =>
    Contracts.activateContract id contractType clientId listingId now db
  | .cancelContract id clientId listingId wasSigned restoreStatus =>
    Contracts.cancelContract id clientId listingId wasSigned restoreStatus now db
  | .setVisibility k id _ rowVersion => setRecordVisibility k id rowVersion now db

structure FeedDesk where
  db : Db
  visibility : Dict (Kind × ℕ) Visibility
  clock : ℕ
  cursors : List (Kind × (ℕ ×ₗ ℕ))

/-- A write, or a poll of one table by a reader that may see the given records. -/
inductive FeedAction where
  | write (w : FeedWrite) (now : ℕ)
  | poll (kind : Kind) (sees : ℕ → Bool) (since limit : ℕ) (afterId : Option ℕ)

def FeedWrite.show (visibility : Dict (Kind × ℕ) Visibility) : FeedWrite → Dict (Kind × ℕ) Visibility
  | .setVisibility k id v _ => visibility.set (k, id) v
  | _ => visibility

def FeedDesk.step (s : FeedDesk) : FeedAction → Option FeedDesk
  | .write w now =>
    if now ≤ s.clock then none
    else match w.perform services agencyId now s.db with
      | .ok db => some ⟨db, w.show s.visibility, now, s.cursors⟩
      | .error _ => some { s with clock := now }
  | .poll k sees since limit afterId =>
    let cursor := ((s.db.table k).fetchChanges sees since limit afterId).2
    some { s with cursors := s.cursors ++ (cursor.map fun c => (k, c)).toList }

/-- What the feed promises at a write: a row it changed is ahead of every cursor handed out before, so a
reader who may see it and polls from a cursor finds it in that page or still has it ahead. -/
def Delivered (s t : FeedDesk) : Prop :=
  ∀ k, ∀ r ∈ (t.db.table k).rows, r ∉ (s.db.table k).rows → ∀ cursor, (k, cursor) ∈ s.cursors →
    cursor < r.feedKey ∧ ∀ sees limit, sees r.id = true → 0 < limit →
      let page := (t.db.table k).fetchChanges sees (ofLex cursor).1 limit (some (ofLex cursor).2)
      r ∈ page.1 ∨ ∃ next, page.2 = some next ∧ next < r.feedKey

def AllDelivered : FeedDesk → List FeedAction → Prop :=
  Guarded (FeedDesk.step services agencyId) fun s action =>
    ∀ w now t, action = .write w now → FeedDesk.step services agencyId s action = some t → Delivered s t

structure FeedDesk.Fresh (s : FeedDesk) : Prop where
  rows : ∀ k, (s.db.table k).Until s.clock
  cursors : ∀ c ∈ s.cursors, (ofLex c.2).1 ≤ s.clock

/-- The time that the services write to a record: the payload's, else that of the record they read. -/
def FeedWrite.stamp (now : ℕ) (db : Db) : FeedWrite → ℕ
  | .upsertClient payload _ => (payload.updatedAt.or ((readClient payload.id db).map Row.updatedAt)).getD now
  | .upsertListing payload _ =>
    (payload.updatedAt.or ((readListing payload.id db).map Row.updatedAt)).getD now
  | .updateDemande id payload =>
    (payload.updatedAt.or (((db.demandes.find? id).filter Row.live).map Row.updatedAt)).getD now
  | .updateOffer id payload =>
    (payload.updatedAt.or (((db.offers.find? id).filter Row.live).map Row.updatedAt)).getD now
  | _ => now

/-- No status of a client or a listing changes with a contract: they are deleted already, or the contract that
is cancelled was not signed. -/
def FeedWrite.KeepsStatus (db : Db) : FeedWrite → Prop
  | .activateContract _ _ clientId listingId =>
    (∀ r ∈ db.clients.rows, r.id = clientId → r.live = false) ∧
      ∀ r ∈ db.listings.rows, r.id = listingId → r.live = false
  | .cancelContract _ clientId listingId wasSigned restoreStatus =>
    (wasSigned && restoreStatus) = true → (∀ r ∈ db.clients.rows, r.id = clientId → r.live = false) ∧
        ∀ r ∈ db.listings.rows, r.id = listingId → r.live = false
  | _ => True

instance (db : Db) : DecidablePred (FeedWrite.KeepsStatus db) := fun w => by
  cases w <;> unfold FeedWrite.KeepsStatus <;> infer_instance

/-- A write stamps what it changes with a time after the last write and not after its own, or it raises. -/
def OwnStamp (s : FeedDesk) : FeedAction → Prop
  | .write w now =>
    (w.perform services agencyId now s.db).isOk = true →
      (s.clock < w.stamp now s.db ∧ w.stamp now s.db ≤ now) ∧ w.KeepsStatus s.db
  | .poll _ _ _ _ _ => True

instance (s : FeedDesk) : DecidablePred (OwnStamp services agencyId s) := fun action => by
  cases action <;> unfold OwnStamp <;> infer_instance

/-! ### Writes stamp what they change -/

/-- The rows that are new or changed in any table carry a time of this window. -/
def Db.Stamped (low high : ℕ) (db db' : Db) : Prop := ∀ k, Table.Stamped low high (db.table k) (db'.table k)

section Stamps

variable {services : Services} {agencyId : ℕ} {platform : Platform} {db db' : Db} {low now id : ℕ}

lemma Db.stamped_of_eq (k : Kind) (h : Table.Stamped low now (db.table k) (db'.table k))
    (hother : ∀ k', k' ≠ k → db'.table k' = db.table k') : db.Stamped low now db' := by
  intro k'
  by_cases heq : k' = k
  · subst heq
    exact h
  · rw [hother k' heq]
    exact Table.Stamped.refl _

lemma Db.table_setTable (k : Kind) (t : Table k.Columns) : (db.setTable k t).table k = t := by
  cases k <;> rfl

lemma Db.table_setTable_of_ne {k k' : Kind} (t : Table k.Columns) (h : k' ≠ k) :
    (db.setTable k t).table k' = db.table k' := by
  cases k <;> cases k' <;> first | rfl | exact absurd rfl h

lemma stamped_lockedUpdate {κ : Type} {p : Row κ → Bool} {v : ℤ} {g : κ → κ} {t t' : Table κ} {stamp : ℕ}
    (h : lockedUpdate p v (Row.write g stamp) t = some t') (hstamp : low < stamp ∧ stamp ≤ now) :
    Table.Stamped low now t t' := by
  rw [(lockedUpdate_some h).1]
  exact stamped_update fun _ _ _ => hstamp

lemma stamped_delete {κ : Type} {t : Table κ} (p : Row κ → Bool) (hlow : low < now) :
    Table.Stamped low now t (t.update p fun r => (r.delete now).bump) :=
  stamped_update fun _ _ _ => ⟨hlow, le_rfl⟩

lemma stamped_restore {κ : Type} {t : Table κ} (p : Row κ → Bool) (hlow : low < now) :
    Table.Stamped low now t (t.update p fun r => (r.restore now).bump) :=
  stamped_update fun _ _ _ => ⟨hlow, le_rfl⟩

lemma stamped_insertClient {data : ClientInput} (h : insertClient platform agencyId data now db = .ok db')
    (hstamp : low < data.updatedAt.getD now ∧ data.updatedAt.getD now ≤ now) : db.Stamped low now db' := by
  obtain rfl := insertClient_ok h
  refine Db.stamped_of_eq .client (stamped_insert hstamp.1 hstamp.2) fun k hk => ?_
  cases k <;> first | rfl | exact absurd rfl hk

lemma stamped_insertListing {data : ListingInput} (h : insertListing platform agencyId data now db = .ok db')
    (hstamp : low < data.updatedAt.getD now ∧ data.updatedAt.getD now ≤ now) : db.Stamped low now db' := by
  obtain rfl := insertListing_ok h
  refine Db.stamped_of_eq .listing (stamped_insert hstamp.1 hstamp.2) fun k hk => ?_
  cases k <;> first | rfl | exact absurd rfl hk

lemma stamped_updateClient {data : ClientInput} (h : updateClient services.clients.platform id data now db = .ok db')
    (hstamp : low < data.updatedAt.getD now ∧ data.updatedAt.getD now ≤ now) : db.Stamped low now db' := by
  obtain ⟨-, rfl⟩ := updateClient_ok h
  refine Db.stamped_of_eq .client (stamped_update fun _ _ _ => hstamp) fun k hk => ?_
  cases k <;> first | rfl | exact absurd rfl hk

lemma stamped_updateListing {data : ListingInput} (h : updateListing platform id data now db = .ok db')
    (hstamp : low < data.updatedAt.getD now ∧ data.updatedAt.getD now ≤ now) : db.Stamped low now db' := by
  obtain ⟨_, hlocked, rfl⟩ := updateListing_ok h
  refine Db.stamped_of_eq .listing (stamped_lockedUpdate hlocked hstamp) fun k hk => ?_
  cases k <;> first | rfl | exact absurd rfl hk

lemma stamped_updateDemande {data : DemandeInput} (h : Demandes.updateDemande platform id data now db = .ok db')
    (hstamp : low < data.updatedAt.getD now ∧ data.updatedAt.getD now ≤ now) : db.Stamped low now db' := by
  unfold Demandes.updateDemande at h
  split at h
  · cases h
  · obtain ⟨_, -, h⟩ := bind_eq_ok_iff.mp h
    dsimp only at h
    split at h
    · next demandes hlocked =>
      obtain ⟨⟩ := h
      refine Db.stamped_of_eq .demande (stamped_lockedUpdate hlocked hstamp) fun k hk => ?_
      cases k <;> first | rfl | exact absurd rfl hk
    · split at h <;> cases h

lemma stamped_updateOffer {data : OfferInput} (h : Offers.updateOffer platform id data now db = .ok db')
    (hstamp : low < data.updatedAt.getD now ∧ data.updatedAt.getD now ≤ now) : db.Stamped low now db' := by
  unfold Offers.updateOffer at h
  split at h
  · cases h
  · obtain ⟨_, -, h⟩ := bind_eq_ok_iff.mp h
    dsimp only at h
    split at h
    · next offers hlocked =>
      obtain ⟨⟩ := h
      refine Db.stamped_of_eq .offer (stamped_lockedUpdate hlocked hstamp) fun k hk => ?_
      cases k <;> first | rfl | exact absurd rfl hk
    · cases h

lemma updatedAt_of_prepareDemande {clientId seed : ℕ} {payload : DemandePayload}
    {existing : Option (Row DemandeColumns)} {data : DemandeInput}
    (h : prepareDemande services.toBackend clientId payload existing seed = .ok data) :
    data.updatedAt = payload.updatedAt.or (existing.map Row.updatedAt) := by
  obtain ⟨normalized, hnormalized, hrest⟩ := bind_eq_ok_iff.mp h
  obtain ⟨labels, -, hrest⟩ := bind_eq_ok_iff.mp hrest
  obtain ⟨-, -, hdata⟩ := bind_eq_ok_iff.mp hrest
  obtain rfl : normalized.withLabels labels = data := Except.ok.inj hdata
  simp only [normalizeDemandeData, bind_eq_ok_iff] at hnormalized
  obtain ⟨-, -, -, -, -, -, -, -, -, -, -, -, -, -, -, -, -, -, -, -, hpure⟩ := hnormalized
  obtain ⟨⟩ := hpure
  rfl

lemma updatedAt_of_prepareOffer {seed : ℕ} {payload : OfferPayload} {existing : Option (Row OfferColumns)}
    {data : OfferInput} (h : prepareOffer services.toBackend payload existing seed = .ok data) :
    data.updatedAt = payload.updatedAt.or (existing.map Row.updatedAt) := by
  obtain ⟨_, -, hrest⟩ := bind_eq_ok_iff.mp h
  obtain ⟨-, -, hdata⟩ := bind_eq_ok_iff.mp hrest
  obtain ⟨⟩ := hdata
  rfl

lemma stamped_transition {contractId : ℕ} {allowed : ContractStatus → Bool} {message : String}
    {f : Row ContractColumns → Row ContractColumns} (hf : ∀ r, (f r).updatedAt = now) (hlow : low < now)
    (h : Contracts.transition contractId allowed f message db = .ok db') :
    db.Stamped low now db' ∧ db'.clients = db.clients ∧ db'.listings = db.listings := by
  unfold Contracts.transition at h
  split at h
  · cases h
  · obtain ⟨⟩ := h
    refine ⟨Db.stamped_of_eq .contract (stamped_update fun r _ _ => ?_) fun k hk => ?_, rfl, rfl⟩
    · exact ⟨by simpa [Row.bump, hf] using hlow, by simp [Row.bump, hf]⟩
    · cases k <;> first | rfl | exact absurd rfl hk

lemma updateClientStatus_of_deleted {status : ClientStatus} (h : ∀ r ∈ db.clients.rows, r.id = id → r.live = false) :
    Contracts.updateClientStatus id status db = db := by
  have hcount : db.clients.rowcount (fun r => r.id == id && r.live) = 0 := by
    refine countP_eq_zero.mpr fun r hr hsel => ?_
    rw [Bool.and_eq_true, beq_iff_eq] at hsel
    exact absurd hsel.2 (by simp [h r hr hsel.1])
  rw [Contracts.updateClientStatus, update_of_rowcount_eq_zero hcount]

lemma updateListingStatus_of_deleted {status : ListingStatus}
    (h : ∀ r ∈ db.listings.rows, r.id = id → r.live = false) :
    Contracts.updateListingStatus id status db = db := by
  have hcount : db.listings.rowcount (fun r => r.id == id && r.live) = 0 := by
    refine countP_eq_zero.mpr fun r hr hsel => ?_
    rw [Bool.and_eq_true, beq_iff_eq] at hsel
    exact absurd hsel.2 (by simp [h r hr hsel.1])
  rw [Contracts.updateListingStatus, update_of_rowcount_eq_zero hcount]

lemma stamped_perform {w : FeedWrite} (h : w.perform services agencyId now db = .ok db') (hlow : low < now)
    (hstamp : low < w.stamp now db ∧ w.stamp now db ≤ now) (hstatus : w.KeepsStatus db) :
    db.Stamped low now db' := by
  cases w with
  | upsertClient =>
    simp only [FeedWrite.perform, upsertClient] at h
    split at h
    · exact stamped_insertClient h hstamp
    · exact stamped_updateClient h hstamp
  | upsertListing =>
    simp only [FeedWrite.perform, upsertListing] at h
    split at h
    · exact stamped_insertListing h hstamp
    · exact stamped_updateListing h hstamp
  | updateDemande =>
    obtain ⟨_, hdata, h⟩ := bind_eq_ok_iff.mp h
    exact stamped_updateDemande h (by rw [updatedAt_of_prepareDemande hdata]; exact hstamp)
  | updateOffer =>
    obtain ⟨_, hdata, h⟩ := bind_eq_ok_iff.mp h
    exact stamped_updateOffer h (by rw [updatedAt_of_prepareOffer hdata]; exact hstamp)
  | deleteClient =>
    obtain ⟨⟩ := h
    intro k
    cases k <;> first | exact stamped_delete _ hlow | exact Table.Stamped.refl _
  | restoreClient =>
    simp only [FeedWrite.perform, restoreClient] at h
    split at h
    · cases h
    · obtain ⟨⟩ := h
      intro k
      cases k <;> first | exact stamped_restore _ hlow | exact Table.Stamped.refl _
  | deleteListing =>
    obtain ⟨⟩ := h
    intro k
    cases k <;> first
      | exact Table.Stamped.refl _
      | exact stamped_update fun _ _ _ => ⟨hlow, le_rfl⟩
  | restoreListing =>
    simp only [FeedWrite.perform, restoreListing] at h
    split at h
    · cases h
    · obtain ⟨⟩ := h
      intro k
      cases k <;> first
        | exact Table.Stamped.refl _
        | exact stamped_update fun _ _ _ => ⟨hlow, le_rfl⟩
  | deleteDemande =>
    obtain ⟨⟩ := h
    refine Db.stamped_of_eq .demande (stamped_delete _ hlow) fun k hk => ?_
    cases k <;> first | rfl | exact absurd rfl hk
  | restoreDemande =>
    obtain ⟨⟩ := h
    refine Db.stamped_of_eq .demande (stamped_restore _ hlow) fun k hk => ?_
    cases k <;> first | rfl | exact absurd rfl hk
  | deleteOffer =>
    obtain ⟨⟩ := h
    refine Db.stamped_of_eq .offer (stamped_update fun _ _ _ => ⟨hlow, le_rfl⟩) fun k hk => ?_
    cases k <;> first | rfl | exact absurd rfl hk
  | restoreOffer =>
    obtain ⟨⟩ := h
    refine Db.stamped_of_eq .offer (stamped_update fun _ _ _ => ⟨hlow, le_rfl⟩) fun k hk => ?_
    cases k <;> first | rfl | exact absurd rfl hk
  | activateContract id =>
    simp only [FeedWrite.perform, Contracts.activateContract] at h
    cases htransition : Contracts.transition id (fun s => s == .pendingSignature)
        (Contracts.setStatus .signed now) "Only pending-signature contracts can be signed" db with
    | error =>
      rw [htransition] at h
      cases h
    | ok =>
      obtain ⟨hstamped, hclients, hlistings⟩ :=
        stamped_transition (f := Contracts.setStatus .signed now) (fun _ => rfl) hlow htransition
      rw [htransition] at h
      obtain ⟨⟩ := h
      dsimp only
      rw [updateClientStatus_of_deleted (hclients ▸ hstatus.1),
        updateListingStatus_of_deleted (hlistings ▸ hstatus.2)]
      exact hstamped
  | cancelContract id =>
    simp only [FeedWrite.perform, Contracts.cancelContract] at h
    cases htransition : Contracts.transition id
        (fun s => s == .draft || s == .pendingSignature || s == .signed)
        (Contracts.setStatus .cancelled now) "Only active contracts can be cancelled" db with
    | error =>
      rw [htransition] at h
      cases h
    | ok =>
      obtain ⟨hstamped, hclients, hlistings⟩ :=
        stamped_transition (f := Contracts.setStatus .cancelled now) (fun _ => rfl) hlow htransition
      rw [htransition] at h
      obtain ⟨⟩ := h
      dsimp only
      split
      · next hcancelled =>
        rw [updateClientStatus_of_deleted (hclients ▸ (hstatus hcancelled).1),
          updateListingStatus_of_deleted (hlistings ▸ (hstatus hcancelled).2)]
        exact hstamped
      · exact hstamped
  | setVisibility k =>
    simp only [FeedWrite.perform, setRecordVisibility] at h
    split at h
    · next t hlocked =>
      obtain ⟨⟩ := h
      refine Db.stamped_of_eq k ?_ fun k' hk => Db.table_setTable_of_ne t hk
      rw [Db.table_setTable]
      exact stamped_lockedUpdate hlocked ⟨hlow, le_rfl⟩
    · split at h <;> cases h

end Stamps

/-! ### Every change is delivered -/

section Delivered

variable {services : Services} {agencyId : ℕ} {s t : FeedDesk} {action : FeedAction}

lemma FeedDesk.Fresh.step (hs : s.Fresh) (hstamp : OwnStamp services agencyId s action)
    (hstep : FeedDesk.step services agencyId s action = some t) : t.Fresh := by
  cases action with
  | write w now =>
    simp only [FeedDesk.step] at hstep
    split at hstep
    · cases hstep
    · next hclock =>
      have hlt : s.clock < now := not_le.mp hclock
      split at hstep
      · next db hdb =>
        obtain ⟨⟩ := hstep
        obtain ⟨hown, hstatus⟩ := hstamp (by rw [hdb]; rfl)
        have hstamped := stamped_perform hdb hlt hown hstatus
        exact ⟨fun k => (hs.rows k).stamped hlt.le (hstamped k), fun c hc => (hs.cursors c hc).trans hlt.le⟩
      · obtain ⟨⟩ := hstep
        exact ⟨fun k r hr => (hs.rows k r hr).trans hlt.le, fun c hc => (hs.cursors c hc).trans hlt.le⟩
  | poll k =>
    obtain ⟨⟩ := hstep
    refine ⟨hs.rows, fun c hc => ?_⟩
    rcases mem_append.mp hc with hc | hc
    · exact hs.cursors c hc
    · obtain ⟨_, hcursor, rfl⟩ := map_eq_some_iff.mp (mem_toList.mp hc)
      obtain ⟨r, hr, rfl⟩ := exists_of_fetchChanges hcursor
      exact hs.rows k r hr

lemma FeedDesk.Fresh.delivered (hs : s.Fresh) (hstamp : OwnStamp services agencyId s action) {w : FeedWrite}
    {now : ℕ} (haction : action = .write w now)
    (hstep : FeedDesk.step services agencyId s action = some t) : Delivered s t := by
  subst haction
  simp only [FeedDesk.step] at hstep
  split at hstep
  · cases hstep
  · next hclock =>
    split at hstep
    · next db hdb =>
      obtain ⟨⟩ := hstep
      obtain ⟨hown, hstatus⟩ := hstamp (by rw [hdb]; rfl)
      intro k r hr hnew cursor hcursor
      obtain ⟨hlow, -⟩ := ((stamped_perform hdb (not_le.mp hclock) hown hstatus) k r hr).resolve_left hnew
      have hlt : cursor < r.feedKey := lt_feedKey_of_stamped hlow (hs.cursors _ hcursor)
      refine ⟨hlt, fun sees limit hsees hlimit => mem_or_lt_of_fetchChanges ?_ hlimit⟩
      exact mem_unseen.mpr ⟨hr, hsees, Row.behind_some_iff.mpr hlt⟩
    · obtain ⟨⟩ := hstep
      exact fun k r hr hnew => absurd hr hnew

end Delivered

/-- In every run whose writes stamp what they change with their own time, every change is delivered. -/
theorem changes_delivered {services : Services} {agencyId : ℕ} {s : FeedDesk} {actions : List FeedAction}
    (hs : s.Fresh)
    (hstamps : Guarded (FeedDesk.step services agencyId) (OwnStamp services agencyId) s actions) :
    AllDelivered services agencyId s actions := by
  refine Guarded.of_invariant (P := FeedDesk.Fresh) ?_ ?_ hs hstamps
  · exact fun s action t hs hstamp hstep => hs.step hstamp hstep
  · exact fun s action hs hstamp w now t haction hstep => hs.delivered hstamp haction hstep

def plainServices : Services :=
  { platform := plainClients.platform, cipher := plainClients.cipher, lookups := ⟨[], [], []⟩
    digit := plainClients.digit }

def emptyFeed : FeedDesk := ⟨Db.empty, [], 0, []⟩

lemma emptyFeed_fresh : emptyFeed.Fresh where
  rows := fun k r hr => by cases k <;> exact absurd hr not_mem_nil
  cursors := fun _ hc => absurd hc not_mem_nil

def polledClient : List FeedAction :=
  [.write (.upsertClient { familyName := .plain "Ali" } true) 1, .poll .client (fun _ => true) 0 100 none]

/-- The client is tagged, and the payload says when. -/
theorem changes_delivered_stamped : AllDelivered plainServices 1 emptyFeed (polledClient ++
      [.write (.upsertClient { id := 1, tags := some "urgent", updatedAt := some 2 } true) 2]) :=
  changes_delivered emptyFeed_fresh (by decide +kernel)

def tagClient : FeedAction := .write (.upsertClient { id := 1, tags := some "urgent" } true) 2

/-- It keeps the time of the record, and the reader has that already. -/
theorem change_behind_cursor : ¬ ∀ (services : Services) (agencyId : ℕ) (s : FeedDesk)
    (actions : List FeedAction), s.Fresh → AllDelivered services agencyId s actions := by
  intro h
  obtain ⟨t, ht, hnext⟩ := bind_eq_some_iff.mp (by decide +kernel :
    ((run (FeedDesk.step plainServices 1) emptyFeed polledClient).bind fun t =>
      (FeedDesk.step plainServices 1 t tagClient).map fun u =>
        ((t.cursors.map fun c => (c.1, ofLex c.2)), t.db.clients.rows.map Row.rowVersion,
          u.db.clients.rows.map fun r => (ofLex r.feedKey, r.rowVersion)))
      = some ([(.client, (1, 1))], [1], [((1, 1), 2)]))
  obtain ⟨u, hu, hvalues⟩ := map_eq_some_iff.mp hnext
  obtain ⟨hcursors, hvalues⟩ := Prod.mk.inj hvalues
  obtain ⟨hversions, hrows⟩ := Prod.mk.inj hvalues
  have hall := h plainServices 1 emptyFeed (polledClient ++ [tagClient]) emptyFeed_fresh
  have hdelivered : Delivered t u := ((guarded_append.mp hall).2 t ht).1 _ _ u rfl hu
  obtain ⟨r, hr, hkey⟩ : ∃ r ∈ u.db.clients.rows, (ofLex r.feedKey, r.rowVersion) = ((1, 1), 2) :=
    mem_map.mp (hrows ▸ mem_singleton_self _)
  obtain ⟨hfeed, hversion⟩ := Prod.mk.inj hkey
  obtain ⟨c, hc, hcursor⟩ : ∃ c ∈ t.cursors, (c.1, ofLex c.2) = (Kind.client, (1, 1)) :=
    mem_map.mp (hcursors ▸ mem_singleton_self _)
  have hnew : r ∉ t.db.clients.rows := by
    intro hmem
    have hold : r.rowVersion ∈ [1] := hversions ▸ mem_map_of_mem hmem
    rw [hversion] at hold
    exact absurd hold (by decide)
  obtain ⟨hkind, hplace⟩ := Prod.mk.inj hcursor
  have hlt := (hdelivered .client r hr hnew c.2 (by rw [← hkind]; exact hc)).1
  have hsame : c.2 = r.feedKey := hplace.trans hfeed.symm
  exact absurd hsame hlt.ne

end ImmoApp.Crm
