import ImmoApp.Crm.Repository

/-!
# Optimistic locking

A call is one transaction whose statements take effect together.  An update should be applied to the row at the version
its author has seen or raise, and every change of a row should raise its version.  `update_visit` does not look at the
number of rows, and some restores and cascades do not raise the version.

`optimistic_locking` says what holds in every run in which these statements change nothing they hide.
-/

namespace ImmoApp.Crm

open Table
open Row hiding id

inductive Kind where
  | client
  | listing
  | demande
  | offer
  | visit
  | contract
  deriving DecidableEq

abbrev Kind.Columns : Kind → Type
  | .client => ClientColumns
  | .listing => ListingColumns
  | .demande => DemandeColumns
  | .offer => OfferColumns
  | .visit => VisitColumns
  | .contract => ContractColumns

def Db.table (db : Db) : (k : Kind) → Table k.Columns
  | .client => db.clients
  | .listing => db.listings
  | .demande => db.demandes
  | .offer => db.offers
  | .visit => db.visits
  | .contract => db.contracts

def Db.Follows (db db' : Db) : Prop := ∀ k, (db.table k).Follows (db'.table k)

lemma Db.Follows.refl (db : Db) : db.Follows db := fun k => Table.Follows.refl (db.table k)

lemma Db.Follows.trans {db db' db'' : Db} (h : db.Follows db') (h' : db'.Follows db'') :
    db.Follows db'' := fun k => (h k).trans (h' k)

inductive Call where
  | updateClient (id : ℕ) (data : ClientInput) (now : ℕ)
  | deleteClient (id now : ℕ)
  | restoreClient (id now : ℕ)
  | updateListing (id : ℕ) (data : ListingInput) (now : ℕ)
  | deleteListing (id now : ℕ)
  | restoreListing (id now : ℕ)
  | updateDemande (id : ℕ) (data : DemandeInput) (now : ℕ)
  | deleteDemande (id now : ℕ)
  | restoreDemande (id now : ℕ)
  | updateOffer (id : ℕ) (data : OfferInput) (now : ℕ)
  | deleteOffer (id now : ℕ)
  | restoreOffer (id now : ℕ)
  | updateVisit (id : ℕ) (data : VisitInput) (now : ℕ)
  | deleteVisit (id now : ℕ)
  | restoreVisit (id now : ℕ)
  | updateContract (id : ℕ) (data : ContractUpdate) (now : ℕ)
  | deleteContract (id now : ℕ)
  | restoreContract (id now : ℕ)
  | printContract (id now : ℕ)
  | activateContract (id : ℕ) (contractType : ContractType) (clientId listingId now : ℕ)
  | cancelContract (id clientId listingId : ℕ) (wasSigned restoreStatus : Bool) (now : ℕ)

variable (platform : Platform)

def Call.perform : Call → Db → Except WriteError Db
  | .updateClient id data now, db => Crm.updateClient platform id data now db
  | .deleteClient id now, db => .ok (Crm.deleteClient id now db)
  | .restoreClient id now, db => Crm.restoreClient id now db
  | .updateListing id data now, db => Crm.updateListing platform id data now db
  | .deleteListing id now, db => .ok (Crm.deleteListing id now db)
  | .restoreListing id now, db => Crm.restoreListing id now db
  | .updateDemande id data now, db => Demandes.updateDemande platform id data now db
  | .deleteDemande id now, db => .ok (Demandes.deleteDemande id now db)
  | .restoreDemande id now, db => .ok (Demandes.restoreDemande id now db)
  | .updateOffer id data now, db => Offers.updateOffer platform id data now db
  | .deleteOffer id now, db => .ok (Offers.deleteOffer id now db)
  | .restoreOffer id now, db => .ok (Offers.restoreOffer id now db)
  | .updateVisit id data now, db => Visits.updateVisit id data now db
  | .deleteVisit id now, db => .ok (Visits.deleteVisit id now db)
  | .restoreVisit id now, db => .ok (Visits.restoreVisit id now db)
  | .updateContract id data now, db => Contracts.updateContract id data now db
  | .deleteContract id now, db => Contracts.deleteContract id now db
  | .restoreContract id now, db => .ok (Contracts.restoreContract id now db)
  | .printContract id now, db => Contracts.printContract id now db
  | .activateContract id contractType clientId listingId now, db =>
    Contracts.activateContract id contractType clientId listingId now db
  | .cancelContract id clientId listingId wasSigned restoreStatus now, db =>
    Contracts.cancelContract id clientId listingId wasSigned restoreStatus now db

def callStep (db : Db) (call : Call) : Option Db := some (committed db (call.perform platform db))

structure Update where
  kind : Kind
  id : ℕ
  rowVersion : ℤ
  write : kind.Columns → kind.Columns

def Call.update? : Call → Option Update
  | .updateClient id data _ => some ⟨.client, id, data.rowVersion, data.write platform⟩
  | .updateListing id data _ => some ⟨.listing, id, data.rowVersion, data.write platform⟩
  | .updateDemande id data _ => some ⟨.demande, id, data.rowVersion, fun c =>
      match data.check with
      | .ok checked => data.columns checked c.agencyId c.clientId
      | .error _ => c⟩
  | .updateOffer id data _ => some ⟨.offer, id, data.rowVersion, fun c =>
      match data.check with
      | .ok checked => data.columns checked c.agencyId c.listingId
      | .error _ => c⟩
  | .updateVisit id data _ => some ⟨.visit, id, data.rowVersion, data.write⟩
  | .updateContract id data _ => some ⟨.contract, id, data.rowVersion, data.write⟩
  | _ => none

def Update.Applied (upd : Update) (db db' : Db) : Prop :=
  ∃ r ∈ (db.table upd.kind).rows, r.id = upd.id ∧ (r.rowVersion : ℤ) = upd.rowVersion ∧
    ∃ r' ∈ (db'.table upd.kind).rows, r'.id = upd.id ∧ r'.columns = upd.write r.columns ∧
      r'.deletedAt = r.deletedAt ∧ r'.rowVersion = r.rowVersion + 1

/-- The error an update may raise: a conflict or a missing row, or a payload that is refused whatever
the database holds. -/
def Call.Refused (call : Call) (e : WriteError) : Prop :=
  (∃ message version, e = .conflict message version) ∨ (∃ message, e = .notFound message) ∨
    ((∃ message, e = .valueError message) ∧ ∀ db, call.perform platform db = .error e)

/-- A call keeps the lock: an update is applied at its version or raises and changes nothing, and the
database it leaves is a later state. -/
structure Honest (call : Call) (db : Db) : Prop where
  update : ∀ upd, call.update? platform = some upd →
    (∃ db', call.perform platform db = .ok db' ∧ upd.Applied db db') ∨
      ∃ e, call.perform platform db = .error e ∧ call.Refused platform e ∧ callStep platform db call = some db
  follows : ∀ db', callStep platform db call = some db' → db.Follows db'

/-- The condition on a call: the statements that look at no row count or raise no version have nothing
to hide.  A deletion hides nothing where it repeats one made at the same instant. -/
def Covered (db : Db) : Call → Prop
  | .updateVisit id data _ => 0 < data.rowVersion →
    ∃ r ∈ db.visits.rows, r.id = id ∧ r.live = true ∧ (r.rowVersion : ℤ) = data.rowVersion
  | .restoreVisit id _ => ∀ r ∈ db.visits.rows, r.id = id → r.live = true
  | .deleteOffer id now => ∀ r ∈ db.offers.rows, r.id = id → r.deletedAt = some now
  | .restoreOffer id _ => ∀ r ∈ db.offers.rows, r.id = id → r.live = true
  | .deleteListing id now =>
    (∀ r ∈ db.visits.rows, r.columns.listingId = id → r.deletedAt = some now ∧ r.columns.status = "cancelled") ∧
      ∀ r ∈ db.contracts.rows, r.columns.listingId = id → r.deletedAt = some now
  | .restoreListing id now =>
    anyPhoneClash ListingColumns.agencyId ListingColumns.phone (fun r => r.id == id)
      (Row.restore now) db.listings = true ∨
      (∀ r ∈ db.visits.rows, r.columns.listingId = id → r.live = true) ∧
        ∀ r ∈ db.contracts.rows, r.columns.listingId = id → r.live = true
  | _ => True

/-! ### One statement -/

section Statements

variable {platform : Platform} {κ : Type} {p : Row κ → Bool} {v : ℤ} {t t' : Table κ}

lemma lockedUpdate_follows {f : Row κ → Row κ} (h : lockedUpdate p v f t = some t')
    (hf : ∀ r, (f r).rowVersion = r.rowVersion) : t.Follows t' := by
  rw [(lockedUpdate_some h).1]
  exact follows_update_bump t hf

variable {now : ℕ} {db' : Db}

lemma lockedUpdate_applied {g : κ → κ} (h : lockedUpdate p v (Row.write g now) t = some t') :
    ∃ r ∈ t.rows, p r = true ∧ (r.rowVersion : ℤ) = v ∧ ∃ r' ∈ t'.rows, r'.id = r.id ∧
      r'.columns = g r.columns ∧ r'.deletedAt = r.deletedAt ∧ r'.rowVersion = r.rowVersion + 1 := by
  obtain ⟨rfl, r, hr, hp, hv⟩ := lockedUpdate_some h
  refine ⟨r, hr, hp, hv, _, mem_update.mpr ⟨r, hr, rfl⟩, ?_⟩
  rw [Table.assign, if_pos (by simp [hp, hv])]
  exact ⟨rfl, rfl, rfl, rfl⟩

lemma Db.follows_mk {db : Db} (hclients : db.clients.Follows db'.clients)
    (hlistings : db.listings.Follows db'.listings) (hdemandes : db.demandes.Follows db'.demandes)
    (hoffers : db.offers.Follows db'.offers) (hvisits : db.visits.Follows db'.visits)
    (hcontracts : db.contracts.Follows db'.contracts) : db.Follows db'
  | .client => hclients
  | .listing => hlistings
  | .demande => hdemandes
  | .offer => hoffers
  | .visit => hvisits
  | .contract => hcontracts

lemma Db.follows_of_eq {db : Db} (k : Kind) (h : (db.table k).Follows (db'.table k))
    (hother : ∀ k', k' ≠ k → db'.table k' = db.table k') : db.Follows db' := by
  intro k'
  by_cases heq : k' = k
  · subst heq
    exact h
  · rw [hother k' heq]
    exact Table.Follows.refl _

variable {call : Call}

lemma honest_of_follows {db : Db} (hnone : call.update? platform = none)
    (h : db.Follows (committed db (call.perform platform db))) : Honest platform call db where
  update := fun upd hupd => absurd (hnone.symm.trans hupd) (by simp)
  follows := fun db' hstep => Option.some.inj hstep ▸ h

lemma honest_of_error {db : Db} {e : WriteError}
    (h : call.perform platform db = .error e) (hrefused : call.Refused platform e) :
    Honest platform call db := by
  have hstep : callStep platform db call = some db := by rw [callStep, h, committed_error]
  exact ⟨fun upd _ => .inr ⟨e, h, hrefused, hstep⟩,
    fun db' hdb' => Option.some.inj (hstep.symm.trans hdb') ▸ Db.Follows.refl db⟩

lemma honest_of_locked {db : Db} {upd : Update}
    {p : Row upd.kind.Columns → Bool} (hupd : call.update? platform = some upd)
    (h : call.perform platform db = .ok db')
    (hlock : lockedUpdate p upd.rowVersion (Row.write upd.write now) (db.table upd.kind) = some (db'.table upd.kind))
    (hkey : ∀ r, p r = true → r.id = upd.id)
    (hother : ∀ k, k ≠ upd.kind → db'.table k = db.table k) : Honest platform call db := by
  have hstep : callStep platform db call = some db' := by rw [callStep, h, committed_ok]
  refine ⟨fun upd' hupd' => ?_, fun db₀ hdb₀ => ?_⟩
  · rw [Option.some.inj (hupd'.symm.trans hupd)]
    obtain ⟨r, hr, hp, hversion, r', hr', hid, hrest⟩ := lockedUpdate_applied hlock
    exact .inl ⟨db', h, r, hr, hkey r hp, hversion, r', hr', hid.trans (hkey r hp), hrest⟩
  · rw [← Option.some.inj (hstep.symm.trans hdb₀)]
    exact Db.follows_of_eq upd.kind (lockedUpdate_follows hlock fun _ => rfl) hother

end Statements

/-! ### The updates -/

section Updates

variable {platform : Platform} {db : Db}

lemma refused_valueError {call : Call} {message : String}
    (h : ∀ db, call.perform platform db = .error (.valueError message)) :
    call.Refused platform (.valueError message) := .inr (.inr ⟨⟨message, rfl⟩, h⟩)

lemma updateClient_honest (id : ℕ) (data : ClientInput) (now : ℕ) :
    Honest platform (.updateClient id data now) db := by
  by_cases hv : data.rowVersion ≤ 0
  · have herror : ∀ db, Call.perform platform (.updateClient id data now) db =
        .error (.valueError "row_version is required for client updates") := fun db => by
      simp [Call.perform, updateClient, hv]
    exact honest_of_error (herror db) (refused_valueError herror)
  cases hlock : lockedUpdate (fun r => r.id == id) data.rowVersion
      (Row.write (data.write platform) (data.updatedAt.getD now)) db.clients with
  | none =>
    cases hfind : db.clients.find? id with
    | none =>
      exact honest_of_error (e := .notFound "Client not found")
        (by simp [Call.perform, updateClient, hv, hlock, hfind]) (.inr (.inl ⟨_, rfl⟩))
    | some r =>
      exact honest_of_error (e := .conflict
        "Client was updated by another user. Please refresh and try again." (some r.rowVersion))
        (by simp [Call.perform, updateClient, hv, hlock, hfind]) (.inl ⟨_, _, rfl⟩)
  | some =>
    by_cases hclash : anyPhoneClash ClientColumns.agencyId ClientColumns.phone
        (fun r => r.id == id && (r.rowVersion : ℤ) == data.rowVersion)
        (Row.write (data.write platform) (data.updatedAt.getD now)) db.clients = true
    · exact honest_of_error (e := .conflict "A client with this phone already exists." none)
        (by simp [Call.perform, updateClient, hv, hlock, hclash]) (.inl ⟨_, _, rfl⟩)
    · refine honest_of_locked rfl (by simp [Call.perform, updateClient, hv, hlock, hclash]; rfl)
        hlock (by simp) fun k hk => ?_
      cases k <;> first | rfl | exact absurd rfl hk

lemma updateListing_honest (id : ℕ) (data : ListingInput) (now : ℕ) :
    Honest platform (.updateListing id data now) db := by
  by_cases hv : data.rowVersion ≤ 0
  · have herror : ∀ db, Call.perform platform (.updateListing id data now) db =
        .error (.valueError "row_version is required for listing updates") := fun db => by
      simp [Call.perform, updateListing, hv]
    exact honest_of_error (herror db) (refused_valueError herror)
  cases hlock : lockedUpdate (fun r => r.id == id) data.rowVersion
      (Row.write (data.write platform) (data.updatedAt.getD now)) db.listings with
  | none =>
    cases hfind : db.listings.find? id with
    | none =>
      exact honest_of_error (e := .notFound "Listing not found")
        (by simp [Call.perform, updateListing, hv, hlock, hfind]) (.inr (.inl ⟨_, rfl⟩))
    | some r =>
      exact honest_of_error (e := .conflict
        "Listing was updated by another user. Please refresh and try again." (some r.rowVersion))
        (by simp [Call.perform, updateListing, hv, hlock, hfind]) (.inl ⟨_, _, rfl⟩)
  | some =>
    by_cases hclash : anyPhoneClash ListingColumns.agencyId ListingColumns.phone
        (fun r => r.id == id && (r.rowVersion : ℤ) == data.rowVersion)
        (Row.write (data.write platform) (data.updatedAt.getD now)) db.listings = true
    · exact honest_of_error (e := .conflict "A property with this phone already exists." none)
        (by simp [Call.perform, updateListing, hv, hlock, hclash]) (.inl ⟨_, _, rfl⟩)
    · refine honest_of_locked rfl (by simp [Call.perform, updateListing, hv, hlock, hclash]; rfl)
        hlock (by simp) fun k hk => ?_
      cases k <;> first | rfl | exact absurd rfl hk

def OnlyValueErrors {α : Type} (x : Except WriteError α) : Prop :=
  ∀ e, x = .error e → ∃ message, e = .valueError message

lemma OnlyValueErrors.bind {α β : Type} {x : Except WriteError α} {f : α → Except WriteError β}
    (hx : OnlyValueErrors x) (hf : ∀ a, OnlyValueErrors (f a)) : OnlyValueErrors (x >>= f) := by
  intro e he
  cases x with
  | error e' =>
    have heq : (Except.error e' : Except WriteError β) = .error e := he
    cases heq
    exact hx e rfl
  | ok a => exact hf a e he

lemma onlyValueErrors_pure {α : Type} (a : α) :
    OnlyValueErrors (pure a : Except WriteError α) := fun _ he => nomatch he

lemma onlyValueErrors_requireId (message : String) (id : Option ℤ) : OnlyValueErrors (requireId message id) := by
  intro e he
  unfold requireId at he
  split at he
  · split at he
    · exact ⟨message, (Except.error.inj he).symm⟩
    · cases he
  · exact ⟨message, (Except.error.inj he).symm⟩

lemma onlyValueErrors_materialize (bmin bmax smin smax : Option ℚ) (beds : Option ℤ) :
    OnlyValueErrors (materializeDemandeRangeValues bmin bmax smin smax beds) := by
  intro e he
  unfold materializeDemandeRangeValues at he
  dsimp only at he
  repeat' split at he
  all_goals first | exact ⟨_, (Except.error.inj he).symm⟩ | cases he

lemma DemandeInput.onlyValueErrors_check (data : DemandeInput) : OnlyValueErrors data.check :=
  (onlyValueErrors_requireId _ _).bind fun _ => (onlyValueErrors_requireId _ _).bind fun _ =>
    (onlyValueErrors_requireId _ _).bind fun _ => (onlyValueErrors_materialize _ _ _ _ _).bind
      fun _ => onlyValueErrors_pure _

lemma onlyValueErrors_require (message : String) (condition : Bool) :
    OnlyValueErrors (require message condition) := by
  intro e he
  unfold require at he
  split at he
  · cases he
  · exact ⟨message, (Except.error.inj he).symm⟩

lemma onlyValueErrors_requireSome {α : Type} (message : String) (o : Option α) :
    OnlyValueErrors (requireSome message o) := by
  intro e he
  unfold requireSome at he
  split at he
  · cases he
  · exact ⟨message, (Except.error.inj he).symm⟩

lemma OfferInput.onlyValueErrors_check (data : OfferInput) : OnlyValueErrors data.check :=
  (onlyValueErrors_require _ _).bind fun _ => (onlyValueErrors_require _ _).bind fun _ =>
    (onlyValueErrors_require _ _).bind fun _ => (onlyValueErrors_require _ _).bind fun _ =>
      (onlyValueErrors_requireSome _ _).bind fun _ => (onlyValueErrors_requireSome _ _).bind
        fun _ => (onlyValueErrors_require _ _).bind fun _ =>
          (onlyValueErrors_requireSome _ _).bind fun _ => onlyValueErrors_pure _

lemma updateDemande_honest (id : ℕ) (data : DemandeInput) (now : ℕ) :
    Honest platform (.updateDemande id data now) db := by
  by_cases hv : data.rowVersion ≤ 0
  · have herror : ∀ db, Call.perform platform (.updateDemande id data now) db =
        .error (.valueError "row_version is required for demande updates") := fun db => by
      simp [Call.perform, Demandes.updateDemande, hv]
    exact honest_of_error (herror db) (refused_valueError herror)
  cases hcheck : data.check with
  | error e =>
    obtain ⟨message, rfl⟩ := data.onlyValueErrors_check e hcheck
    have herror : ∀ db, Call.perform platform (.updateDemande id data now) db =
        .error (.valueError message) := fun db => by
      simp [Call.perform, Demandes.updateDemande, hv, hcheck, bind, Except.bind]
    exact honest_of_error (herror db) (refused_valueError herror)
  | ok checked =>
    have hwrite : (fun c : DemandeColumns => match data.check with
        | .ok checked => data.columns checked c.agencyId c.clientId
        | .error _ => c) = fun c => data.columns checked c.agencyId c.clientId := by
      rw [hcheck]
    cases hlock : lockedUpdate (fun r => r.id == id && r.live) data.rowVersion
        (Row.write (fun c => data.columns checked c.agencyId c.clientId) (data.updatedAt.getD now)) db.demandes with
    | none =>
      cases hfind : (db.demandes.find? id).filter Row.live with
      | none =>
        exact honest_of_error (e := .notFound "Demande not found")
          (by simp [Call.perform, Demandes.updateDemande, hv, hcheck, bind, Except.bind, hlock,
            hfind]) (.inr (.inl ⟨_, rfl⟩))
      | some =>
        exact honest_of_error (e := .conflict "Demande was updated by another user." none)
          (by simp [Call.perform, Demandes.updateDemande, hv, hcheck, bind, Except.bind, hlock,
            hfind]) (.inl ⟨_, _, rfl⟩)
    | some =>
      have hlock' := hlock
      rw [← hwrite] at hlock'
      refine honest_of_locked rfl (by
        simp [Call.perform, Demandes.updateDemande, hv, hcheck, bind, Except.bind, hlock]; rfl)
        hlock' (by simp; tauto) fun k hk => ?_
      cases k <;> first | rfl | exact absurd rfl hk

lemma updateOffer_honest (id : ℕ) (data : OfferInput) (now : ℕ) : Honest platform (.updateOffer id data now) db := by
  by_cases hv : data.rowVersion ≤ 0
  · have herror : ∀ db, Call.perform platform (.updateOffer id data now) db =
        .error (.valueError "row_version is required for offer updates") := fun db => by
      simp [Call.perform, Offers.updateOffer, hv]
    exact honest_of_error (herror db) (refused_valueError herror)
  cases hcheck : data.check with
  | error e =>
    obtain ⟨message, rfl⟩ := data.onlyValueErrors_check e hcheck
    have herror : ∀ db, Call.perform platform (.updateOffer id data now) db =
        .error (.valueError message) := fun db => by
      simp [Call.perform, Offers.updateOffer, hv, hcheck, bind, Except.bind]
    exact honest_of_error (herror db) (refused_valueError herror)
  | ok checked =>
    have hwrite : (fun c : OfferColumns => match data.check with
        | .ok checked => data.columns checked c.agencyId c.listingId
        | .error _ => c) = fun c => data.columns checked c.agencyId c.listingId := by
      rw [hcheck]
    cases hlock : lockedUpdate (fun r => r.id == id && r.live) data.rowVersion
        (Row.write (fun c => data.columns checked c.agencyId c.listingId) (data.updatedAt.getD now)) db.offers with
    | none =>
      exact honest_of_error (e := .notFound "Offer not found or conflict")
        (by simp [Call.perform, Offers.updateOffer, hv, hcheck, bind, Except.bind, hlock])
        (.inr (.inl ⟨_, rfl⟩))
    | some =>
      have hlock' := hlock
      rw [← hwrite] at hlock'
      refine honest_of_locked rfl (by
        simp [Call.perform, Offers.updateOffer, hv, hcheck, bind, Except.bind, hlock]; rfl)
        hlock' (by simp; tauto) fun k hk => ?_
      cases k <;> first | rfl | exact absurd rfl hk

lemma updateContract_honest (id : ℕ) (data : ContractUpdate) (now : ℕ) :
    Honest platform (.updateContract id data now) db := by
  by_cases hv : data.rowVersion ≤ 0
  · have herror : ∀ db, Call.perform platform (.updateContract id data now) db =
        .error (.valueError "row_version is required for contract updates") := fun db => by
      simp [Call.perform, Contracts.updateContract, hv]
    exact honest_of_error (herror db) (refused_valueError herror)
  cases hlock : lockedUpdate (fun r => r.id == id && r.live) data.rowVersion
      (Row.write data.write now) db.contracts with
  | none =>
    cases hfind : (db.contracts.find? id).filter Row.live with
    | none =>
      exact honest_of_error (e := .notFound "Contract not found")
        (by simp [Call.perform, Contracts.updateContract, hv, hlock, hfind]) (.inr (.inl ⟨_, rfl⟩))
    | some =>
      exact honest_of_error (e := .conflict "Contract was updated by another user." none)
        (by simp [Call.perform, Contracts.updateContract, hv, hlock, hfind]) (.inl ⟨_, _, rfl⟩)
  | some =>
    refine honest_of_locked rfl (by
      simp [Call.perform, Contracts.updateContract, hv, hlock]; rfl) hlock (by simp; tauto)
      fun k hk => ?_
    cases k <;> first | rfl | exact absurd rfl hk

lemma updateVisit_honest {id : ℕ} {data : VisitInput} {now : ℕ} (h : Covered db (.updateVisit id data now)) :
    Honest platform (.updateVisit id data now) db := by
  by_cases hv : data.rowVersion ≤ 0
  · have herror : ∀ db, Call.perform platform (.updateVisit id data now) db =
        .error (.valueError "row_version required") := fun db => by
      simp [Call.perform, Visits.updateVisit, hv]
    exact honest_of_error (herror db) (refused_valueError herror)
  obtain ⟨r, hr, hid, hlive, hversion⟩ := h (by omega)
  cases hlock : lockedUpdate (fun r => r.id == id && r.live) data.rowVersion
      (Row.write data.write now) db.visits with
  | none =>
    unfold lockedUpdate at hlock
    rw [if_neg] at hlock
    · cases hlock
    · rw [Table.rowcount, List.countP_eq_zero]
      exact fun hnone => hnone r hr (by simp [hid, hlive, hversion])
  | some =>
    refine honest_of_locked rfl (by
      simp [Call.perform, Visits.updateVisit, hv, hlock]; rfl) hlock (by simp; tauto)
      fun k hk => ?_
    cases k <;> first | rfl | exact absurd rfl hk

end Updates

/-! ### Deletions, restorations and the life cycle of contracts -/

section Others

variable {db : Db}

lemma follows_deleteClient (id now : ℕ) : db.Follows (deleteClient id now db) :=
  Db.follows_mk (follows_update_bump _ fun _ => rfl) (Table.Follows.refl _)
    (follows_update_bump _ fun _ => rfl) (Table.Follows.refl _)
    (follows_update_bump _ fun _ => rfl) (follows_update_bump _ fun _ => rfl)

lemma follows_restoreClient (id now : ℕ) : db.Follows (committed db (restoreClient id now db)) := by
  unfold restoreClient
  split
  · exact Db.Follows.refl db
  · exact Db.follows_mk (follows_update_bump _ fun _ => rfl) (Table.Follows.refl _)
      (follows_update_bump _ fun _ => rfl) (Table.Follows.refl _)
      (follows_update_bump _ fun _ => rfl) (follows_update_bump _ fun _ => rfl)

variable {id now : ℕ} {f : Row ContractColumns → Row ContractColumns}

lemma follows_deleteListing (h : Covered db (.deleteListing id now)) : db.Follows (deleteListing id now db) := by
  refine Db.follows_mk (Table.Follows.refl _) (Table.follows_update_bump _ fun _ => rfl)
    (Table.Follows.refl _) (Table.follows_update_bump _ fun _ => rfl) ?_ ?_
  · refine Table.follows_update fun r hr hp => ⟨le_rfl, fun _ => ?_⟩
    obtain ⟨hdeleted, hstatus⟩ := h.1 r hr (by simpa using hp)
    refine ⟨?_, hdeleted⟩
    simp [Row.set, Row.delete, ← hstatus]
  · exact Table.follows_update fun r hr hp => Row.follows_delete (h.2 r hr (by simpa using hp))

lemma follows_restoreListing (h : Covered db (.restoreListing id now)) :
    db.Follows (committed db (restoreListing id now db)) := by
  unfold restoreListing
  split
  · exact Db.Follows.refl db
  · next hclash =>
    obtain ⟨hvisits, hcontracts⟩ := h.resolve_left hclash
    refine Db.follows_mk (Table.Follows.refl _) (follows_update_bump _ fun _ => rfl)
      (Table.Follows.refl _) (follows_update_bump _ fun _ => rfl) ?_ ?_
    · exact follows_update fun r hr hp =>
        follows_restore (hvisits r hr (by simpa using hp)) now
    · exact follows_update fun r hr hp =>
        follows_restore (hcontracts r hr (by simpa using hp)) now

lemma follows_demandes {p : Row DemandeColumns → Bool} {f : Row DemandeColumns → Row DemandeColumns}
    (hf : ∀ r, (f r).rowVersion = r.rowVersion) :
    db.Follows { db with demandes := db.demandes.update p fun r => (f r).bump } :=
  Db.follows_mk (Table.Follows.refl _) (Table.Follows.refl _) (follows_update_bump _ hf)
    (Table.Follows.refl _) (Table.Follows.refl _) (Table.Follows.refl _)

lemma follows_offers {offers : Table OfferColumns} (h : db.offers.Follows offers) :
    db.Follows { db with offers := offers } :=
  Db.follows_mk (Table.Follows.refl _) (Table.Follows.refl _) (Table.Follows.refl _) h
    (Table.Follows.refl _) (Table.Follows.refl _)

lemma follows_visits {visits : Table VisitColumns} (h : db.visits.Follows visits) :
    db.Follows { db with visits := visits } :=
  Db.follows_mk (Table.Follows.refl _) (Table.Follows.refl _) (Table.Follows.refl _)
    (Table.Follows.refl _) h (Table.Follows.refl _)

lemma follows_contracts {p : Row ContractColumns → Bool} (hf : ∀ r, (f r).rowVersion = r.rowVersion) :
    db.Follows { db with contracts := db.contracts.update p fun r => (f r).bump } :=
  Db.follows_mk (Table.Follows.refl _) (Table.Follows.refl _) (Table.Follows.refl _)
    (Table.Follows.refl _) (Table.Follows.refl _) (follows_update_bump _ hf)

lemma follows_updateClientStatus (id : ℕ) (status : ClientStatus) :
    db.Follows (Contracts.updateClientStatus id status db) :=
  Db.follows_mk (follows_update_bump _ fun _ => rfl) (Table.Follows.refl _)
    (Table.Follows.refl _) (Table.Follows.refl _) (Table.Follows.refl _) (Table.Follows.refl _)

lemma follows_updateListingStatus (id : ℕ) (status : ListingStatus) :
    db.Follows (Contracts.updateListingStatus id status db) :=
  Db.follows_mk (Table.Follows.refl _) (follows_update_bump _ fun _ => rfl)
    (Table.Follows.refl _) (Table.Follows.refl _) (Table.Follows.refl _) (Table.Follows.refl _)

lemma follows_transition (k : ℕ) (allowed : ContractStatus → Bool) (message : String)
    (hf : ∀ r, (f r).rowVersion = r.rowVersion) :
    db.Follows (committed db (Contracts.transition k allowed f message db)) := by
  unfold Contracts.transition
  split
  · exact Db.Follows.refl db
  · exact follows_contracts hf

lemma follows_map {x : Except WriteError Db} (h : db.Follows (committed db x)) {g : Db → Db}
    (hg : ∀ db' : Db, db'.Follows (g db')) : db.Follows (committed db (x.map g)) := by
  cases x with
  | error => exact h
  | ok db' => exact h.trans (hg db')

end Others

lemma honest_of_covered {platform : Platform} {db : Db} {call : Call} (h : Covered db call) :
    Honest platform call db := by
  cases call with
  | updateClient id data now => exact updateClient_honest id data now
  | deleteClient id now => exact honest_of_follows rfl (follows_deleteClient id now)
  | restoreClient id now => exact honest_of_follows rfl (follows_restoreClient id now)
  | updateListing id data now => exact updateListing_honest id data now
  | deleteListing => exact honest_of_follows rfl (follows_deleteListing h)
  | restoreListing => exact honest_of_follows rfl (follows_restoreListing h)
  | updateDemande id data now => exact updateDemande_honest id data now
  | deleteDemande => exact honest_of_follows rfl (follows_demandes fun _ => rfl)
  | restoreDemande => exact honest_of_follows rfl (follows_demandes fun _ => rfl)
  | updateOffer id data now => exact updateOffer_honest id data now
  | deleteOffer =>
    refine honest_of_follows rfl (follows_offers (follows_update fun r hr hp => ?_))
    exact follows_delete (h r hr (by simpa using hp))
  | restoreOffer _ now =>
    refine honest_of_follows rfl (follows_offers (follows_update fun r hr hp => ?_))
    exact follows_restore (h r hr (by simpa using hp)) now
  | updateVisit => exact updateVisit_honest h
  | deleteVisit =>
    exact honest_of_follows rfl (follows_visits (follows_update_bump _ fun _ => rfl))
  | restoreVisit _ now =>
    refine honest_of_follows rfl (follows_visits (follows_update fun r hr hp => ?_))
    exact follows_restore (h r hr (by simpa using hp)) now
  | updateContract id data now => exact updateContract_honest id data now
  | deleteContract id =>
    exact honest_of_follows rfl (follows_transition id _ _ fun _ => rfl)
  | restoreContract => exact honest_of_follows rfl (follows_contracts fun _ => rfl)
  | printContract id => exact honest_of_follows rfl (follows_transition id _ _ fun _ => rfl)
  | activateContract id _ _ _ now =>
    have htransition := @follows_transition db id (fun s => s == .pendingSignature)
      (f := Contracts.setStatus .signed now) "Only pending-signature contracts can be signed"
      fun _ => rfl
    refine honest_of_follows rfl (follows_map htransition fun db' => ?_)
    exact (follows_updateClientStatus _ _).trans (follows_updateListingStatus _ _)
  | cancelContract id _ _ _ _ now =>
    have htransition := @follows_transition db id (fun s => s == .draft || s == .pendingSignature || s == .signed)
      (f := Contracts.setStatus .cancelled now) "Only active contracts can be cancelled"
      fun _ => rfl
    refine honest_of_follows rfl (follows_map htransition fun db' => ?_)
    split
    · exact (follows_updateClientStatus _ _).trans (follows_updateListingStatus _ _)
    · exact Db.Follows.refl db'

lemma run_follows {platform : Platform} {s u : Db} {as : List Call}
    (hg : Guarded (callStep platform) Covered s as) (hrun : run (callStep platform) s as = some u) :
    s.Follows u := by
  induction as generalizing s with
  | nil =>
    cases hrun
    exact Db.Follows.refl _
  | cons _ _ ih =>
    obtain ⟨t, ht, hu⟩ := run_cons_eq_some.mp hrun
    have hfirst := (honest_of_covered hg.1).follows t ht
    exact hfirst.trans (ih (hg.2 t ht) hu)

/-- In every run of covered calls every covered call keeps the lock: an update is applied to the row at
the version it carries, or raises and changes nothing, and every change of a row raises its version.  So
an update that succeeds finds the row as its author saw it, at whatever moment of the run that was. -/
theorem optimistic_locking {platform : Platform} {s t u : Db} {as bs : List Call} {call : Call}
    (has : run (callStep platform) s as = some t) (hbs : run (callStep platform) t bs = some u)
    (hg : Guarded (callStep platform) Covered s (as ++ bs ++ [call])) :
    Honest platform call u ∧ ∀ upd, call.update? platform = some upd →
      ∀ seen ∈ (t.table upd.kind).rows, seen.id = upd.id → (seen.rowVersion : ℤ) = upd.rowVersion →
        ∀ db', call.perform platform u = .ok db' → ∀ r ∈ (u.table upd.kind).rows,
          r.id = upd.id → r.columns = seen.columns ∧ r.deletedAt = seen.deletedAt := by
  obtain ⟨hab, hcall⟩ := guarded_append.mp hg
  obtain ⟨-, hb⟩ := guarded_append.mp hab
  have hu := run_append_eq_some.mpr ⟨t, has, hbs⟩
  have hcovered : Covered u call := (hcall u hu).1
  have hhonest : Honest platform call u := honest_of_covered hcovered
  refine ⟨hhonest, fun upd hupd seen hseen hid hversion db' hdb' r hr hrid => ?_⟩
  have hfollows := run_follows (hb t has) hbs
  rcases hhonest.update upd hupd with ⟨_, -, r₁, hr₁, hid₁, hversion₁, -⟩ | ⟨e, he, -⟩
  · have heq : r = r₁ := eq_of_id hr hr₁ (hrid.trans hid₁.symm)
    subst heq
    have hsame := (hfollows upd.kind).rows seen hseen r hr (hid.trans hrid.symm)
    have hver : seen.rowVersion = r.rowVersion := by
      have hcast := hversion.trans hversion₁.symm
      exact_mod_cast hcast
    exact ⟨(hsame.same hver).1.symm, (hsame.same hver).2.symm⟩
  · rw [he] at hdb'
    cases hdb'

/-! ### A visit with two authors -/

instance (db : Db) (call : Call) : Decidable (Covered db call) :=
  match call with
  | .updateVisit id data _ => inferInstanceAs (Decidable (0 < data.rowVersion →
      ∃ r ∈ db.visits.rows, r.id = id ∧ r.live = true ∧ (r.rowVersion : ℤ) = data.rowVersion))
  | .restoreVisit id _ =>
    inferInstanceAs (Decidable (∀ r ∈ db.visits.rows, r.id = id → r.live = true))
  | .deleteOffer id now =>
    inferInstanceAs (Decidable (∀ r ∈ db.offers.rows, r.id = id → r.deletedAt = some now))
  | .restoreOffer id _ =>
    inferInstanceAs (Decidable (∀ r ∈ db.offers.rows, r.id = id → r.live = true))
  | .deleteListing id now => inferInstanceAs (Decidable ((∀ r ∈ db.visits.rows,
      r.columns.listingId = id → r.deletedAt = some now ∧ r.columns.status = "cancelled") ∧
        ∀ r ∈ db.contracts.rows, r.columns.listingId = id → r.deletedAt = some now))
  | .restoreListing id now => inferInstanceAs (Decidable (anyPhoneClash ListingColumns.agencyId
      ListingColumns.phone (fun r => r.id == id) (Row.restore now) db.listings = true ∨
        (∀ r ∈ db.visits.rows, r.columns.listingId = id → r.live = true) ∧
          ∀ r ∈ db.contracts.rows, r.columns.listingId = id → r.live = true))
  | .updateClient .. | .deleteClient .. | .restoreClient .. | .updateListing .. |
    .updateDemande .. | .deleteDemande .. | .restoreDemande .. | .updateOffer .. |
    .deleteVisit .. | .updateContract .. | .deleteContract .. | .restoreContract .. |
    .printContract .. | .activateContract .. | .cancelContract .. => .isTrue trivial

def samplePlatform : Platform where
  unicode := { lower := String.toLower, nfkd := id, combining := fun _ => false }
  hashTrigrams := fun s => [s]

def visitDb : Db :=
  { Db.empty with
    visits := Table.empty.insert
      { agencyId := 1, clientId := 1, listingId := 1, scheduledDate := "2026-06-01"
        scheduledTime := "10:00", status := "scheduled", notes := "", notesEnc := "" } 0 }

def sampleVisitInput (rowVersion : ℤ) (status : String) : VisitInput where
  rowVersion := rowVersion
  status := status
  notes := ""
  notesEnc := ""

/-- Two updates of the visit, the second by an author who has seen the first. -/
theorem optimistic_locking_secondVersion : ∃ t u, run (callStep samplePlatform) visitDb
        [.updateVisit 1 (sampleVisitInput 1 "done") 1] = some t ∧
      run (callStep samplePlatform) t [.deleteVisit 2 2] = some u ∧
      Honest samplePlatform (.updateVisit 1 (sampleVisitInput 2 "missed") 3) u := by
  refine ⟨_, _, rfl, rfl, ?_⟩
  exact (@optimistic_locking samplePlatform visitDb _ _
    [.updateVisit 1 (sampleVisitInput 1 "done") 1] [.deleteVisit 2 2]
    (.updateVisit 1 (sampleVisitInput 2 "missed") 3) rfl rfl (by decide +kernel)).1

/-- Two authors have seen version 1; the second update succeeds and is not applied. -/
theorem outdated_visit_update_succeeds : ¬ ∀ (platform : Platform) (s t u : Db) (as bs : List Call) (call : Call),
      run (callStep platform) s as = some t → run (callStep platform) t bs = some u →
        Honest platform call u ∧ ∀ upd, call.update? platform = some upd →
          ∀ seen ∈ (t.table upd.kind).rows, seen.id = upd.id →
            (seen.rowVersion : ℤ) = upd.rowVersion → ∀ db', call.perform platform u = .ok db' →
              ∀ r ∈ (u.table upd.kind).rows, r.id = upd.id →
                r.columns = seen.columns ∧ r.deletedAt = seen.deletedAt := by
  intro h
  have hhonest := (h samplePlatform visitDb visitDb _ []
    [.updateVisit 1 (sampleVisitInput 1 "done") 1] (.updateVisit 1 (sampleVisitInput 1 "missed") 2)
    rfl rfl).1
  rcases hhonest.update _ rfl with ⟨_, -, r, hr, hid, hversion, -⟩ | ⟨e, he, -⟩
  · have hnone : ∀ r ∈ (committed visitDb (Visits.updateVisit 1 (sampleVisitInput 1 "done") 1
        visitDb)).visits.rows, r.id = 1 → (r.rowVersion : ℤ) ≠ 1 := by decide +kernel
    exact hnone r hr hid hversion
  · exact absurd he (by simp [Call.perform, Visits.updateVisit, sampleVisitInput])

end ImmoApp.Crm
