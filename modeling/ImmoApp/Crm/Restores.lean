import ImmoApp.Crm.Repository
import ImmoApp.Crm.Signing

/-!
# Deleting and restoring a parent

`delete_client` and `delete_listing` soft-delete a parent with all its records, and `restore_client` and
`restore_listing` make all of them live again: neither looks at what was deleted before, and a visit that
was cancelled with its listing stays cancelled.

`restores_deleted_iff` says exactly when a restore after a delete gives the records back: when the parent and
all its records were live, its phone is still free, and, for a listing, its visits were cancelled already.
-/

namespace ImmoApp

open List Function

def Row.record {κ : Type*} (r : Row κ) : ℕ × κ × Bool := (r.id, r.columns, r.live)

namespace Table

variable {κ : Type*} {t t' : Table κ} {p : Row κ → Bool} {f g : Row κ → Row κ}

/-- The two tables show the same records: times and versions aside, they are the same. -/
def SameRecords (t t' : Table κ) : Prop := t'.rows.map Row.record = t.rows.map Row.record

lemma record_assign {r : Row κ} (hp : p r = true) : (assign p f r).record = (r.id, (f r).columns, (f r).live) := by
  rw [assign, if_pos hp]
  rfl

lemma sameRecords_update_update (hf : ∀ r, p r = true → p (assign p f r) = true) :
    t.SameRecords ((t.update p f).update p g) ↔ ∀ r ∈ t.rows, p r = true → (g (assign p f r)).columns = r.columns ∧
        (g (assign p f r)).live = r.live := by
  rw [SameRecords, update, update, map_map, map_map, map_inj_left]
  refine forall₂_congr fun r _ => ?_
  by_cases hp : p r = true
  · rw [comp_apply, comp_apply, record_assign (hf r hp), assign_id, Row.record]
    simp [hp]
  · have hassign : assign p f r = r := by rw [assign, if_neg hp]
    rw [comp_apply, comp_apply, hassign, assign, if_neg hp]
    simp [hp]

end Table

namespace Crm

structure Db.SameRecords (db db' : Db) : Prop where
  clients : db.clients.SameRecords db'.clients
  listings : db.listings.SameRecords db'.listings
  demandes : db.demandes.SameRecords db'.demandes
  offers : db.offers.SameRecords db'.offers
  visits : db.visits.SameRecords db'.visits
  contracts : db.contracts.SameRecords db'.contracts

def GivesBack (db : Db) (restored : Except WriteError Db) : Prop :=
  ∃ db', restored = .ok db' ∧ db.SameRecords db'

/-- Nothing of the client was deleted before, and its phone is free. -/
structure ClientWhole (clientId : ℕ) (db : Db) : Prop where
  phone : anyPhoneClash ClientColumns.agencyId ClientColumns.phone (fun r => r.id == clientId) id db.clients = false
  client : ∀ r ∈ db.clients.rows, r.id = clientId → r.live = true
  demandes : ∀ r ∈ db.demandes.rows, r.columns.clientId = clientId → r.live = true
  visits : ∀ r ∈ db.visits.rows, r.columns.clientId = clientId → r.live = true
  contracts : ∀ r ∈ db.contracts.rows, r.columns.clientId = clientId → r.live = true

/-- Nothing of the listing was deleted before, its phone is free, and its visits were cancelled. -/
structure ListingWhole (listingId : ℕ) (db : Db) : Prop where
  phone : anyPhoneClash ListingColumns.agencyId ListingColumns.phone (fun r => r.id == listingId) id
    db.listings = false
  listing : ∀ r ∈ db.listings.rows, r.id = listingId → r.live = true
  offers : ∀ r ∈ db.offers.rows, r.columns.listingId = listingId → r.live = true
  visits : ∀ r ∈ db.visits.rows, r.columns.listingId = listingId → r.live = true ∧ r.columns.status = "cancelled"
  contracts : ∀ r ∈ db.contracts.rows, r.columns.listingId = listingId → r.live = true

section Tables

variable {κ : Type} {t : Table κ} {agencyId : κ → ℕ} {phone : κ → String} {parentId : ℕ}

lemma phoneClash_update {f : Row κ → Row κ} {r r' : Row κ} (hid : r'.id = parentId) (hid' : r.id = r'.id)
    (hcolumns : r.columns = r'.columns) (hlive : r.live = r'.live) :
    phoneClash agencyId phone (t.update (fun r => r.id == parentId) f) r = phoneClash agencyId phone t r' := by
  rw [phoneClash, phoneClash, hcolumns, hlive, hid', Table.update, any_map]
  congr 2
  funext r₀
  by_cases hr₀ : r₀.id = parentId
  · simp [comp_apply, hr₀, hid]
  · have hassign : Table.assign (fun r => r.id == parentId) f r₀ = r₀ := by
      rw [Table.assign, if_neg (by simpa using hr₀)]
    rw [comp_apply, hassign]

variable (agencyId phone) in
lemma anyPhoneClash_delete_restore (now now' : ℕ) (hlive : ∀ r ∈ t.rows, r.id = parentId → r.live = true) :
    anyPhoneClash agencyId phone (fun r => r.id == parentId) (Row.restore now')
        (t.update (fun r => r.id == parentId) fun r => (r.delete now).bump)
      = anyPhoneClash agencyId phone (fun r => r.id == parentId) id t := by
  rw [anyPhoneClash, anyPhoneClash, Table.update, any_map]
  rw [Bool.eq_iff_iff, any_eq_true, any_eq_true]
  refine exists_congr fun r => and_congr_right fun hr => ?_
  rw [comp_apply, Table.assign_id]
  by_cases hid : r.id = parentId
  · have hassign : Table.assign (fun r => r.id == parentId) (fun r : Row κ => (r.delete now).bump) r
        = (r.delete now).bump := by
      rw [Table.assign, if_pos (by simpa using hid)]
      rfl
    have hclash : phoneClash agencyId phone (t.update (fun r => r.id == parentId)
        fun r => (r.delete now).bump) (Row.restore now' (r.delete now).bump)
        = phoneClash agencyId phone t r :=
      phoneClash_update hid rfl rfl (hlive r hr hid).symm
    rw [hassign]
    exact Iff.of_eq (congrArg (fun b => (r.id == parentId && b) = true) hclash)
  · simp [hid]

end Tables

lemma sameRecords_delete_restore_bump {κ : Type} {t : Table κ} {p : Row κ → Bool} (now now' : ℕ)
    (hp : ∀ r, p r = true → p (Table.assign p (fun r => (r.delete now).bump) r) = true) :
    t.SameRecords ((t.update p fun r => (r.delete now).bump).update p fun r => (r.restore now').bump) ↔
      ∀ r ∈ t.rows, p r = true → r.live = true := by
  rw [Table.sameRecords_update_update hp]
  refine forall₃_congr fun r _ hr => ?_
  rw [Table.assign, if_pos hr]
  exact ⟨fun h => h.2.symm, fun h => ⟨rfl, h.symm⟩⟩

lemma sameRecords_delete_restore {κ : Type} {t : Table κ} {p : Row κ → Bool} (f : κ → κ) (now now' : ℕ)
    (hp : ∀ r, p r = true → p (Table.assign p (fun r => (r.delete now).set f) r) = true) :
    t.SameRecords ((t.update p fun r => (r.delete now).set f).update p (Row.restore now')) ↔
      ∀ r ∈ t.rows, p r = true → f r.columns = r.columns ∧ r.live = true := by
  rw [Table.sameRecords_update_update hp]
  refine forall₃_congr fun r _ hr => ?_
  rw [Table.assign, if_pos hr]
  exact ⟨fun h => ⟨h.1, h.2.symm⟩, fun h => ⟨h.1, h.2.symm⟩⟩

lemma givesBack_restoreClient_iff (db : Db) (clientId now now' : ℕ) :
    GivesBack db (restoreClient clientId now' (deleteClient clientId now db)) ↔ ClientWhole clientId db := by
  have hclients := sameRecords_delete_restore_bump (t := db.clients) (p := fun r => r.id == clientId)
    now now' fun r hr => by simpa using hr
  have hdemandes := sameRecords_delete_restore_bump (t := db.demandes)
    (p := fun r => r.columns.clientId == clientId) now now' fun r hr => by
      rw [Table.assign, if_pos hr]
      exact hr
  have hvisits := sameRecords_delete_restore_bump (t := db.visits)
    (p := fun r => r.columns.clientId == clientId) now now' fun r hr => by
      rw [Table.assign, if_pos hr]
      exact hr
  have hcontracts := sameRecords_delete_restore_bump (t := db.contracts)
    (p := fun r => r.columns.clientId == clientId) now now' fun r hr => by
      rw [Table.assign, if_pos hr]
      exact hr
  constructor
  · rintro ⟨_, hrestored, hsame⟩
    rw [restoreClient] at hrestored
    split at hrestored
    · cases hrestored
    next hphone =>
    cases hrestored
    have hlive := hclients.mp hsame.clients
    refine ⟨?_, ?_, ?_, ?_, ?_⟩
    · rw [← anyPhoneClash_delete_restore _ _ now now' fun r hr hid => hlive r hr (by simpa using hid)]
      exact Bool.eq_false_iff.mpr hphone
    · exact fun r hr hid => hlive r hr (by simpa using hid)
    · exact fun r hr hid => hdemandes.mp hsame.demandes r hr (by simpa using hid)
    · exact fun r hr hid => hvisits.mp hsame.visits r hr (by simpa using hid)
    · exact fun r hr hid => hcontracts.mp hsame.contracts r hr (by simpa using hid)
  · intro hwhole
    have hphone := anyPhoneClash_delete_restore ClientColumns.agencyId ClientColumns.phone now now' hwhole.client
    refine ⟨_, if_neg (by rw [deleteClient, hphone, hwhole.phone]; simp), ?_⟩
    refine ⟨?_, rfl, ?_, rfl, ?_, ?_⟩
    · exact hclients.mpr fun r hr hid => hwhole.client r hr (by simpa using hid)
    · exact hdemandes.mpr fun r hr hid => hwhole.demandes r hr (by simpa using hid)
    · exact hvisits.mpr fun r hr hid => hwhole.visits r hr (by simpa using hid)
    · exact hcontracts.mpr fun r hr hid => hwhole.contracts r hr (by simpa using hid)

lemma givesBack_restoreListing_iff (db : Db) (listingId now now' : ℕ) :
    GivesBack db (restoreListing listingId now' (deleteListing listingId now db)) ↔
      ListingWhole listingId db := by
  have hlistings := sameRecords_delete_restore_bump (t := db.listings) (p := fun r => r.id == listingId)
    now now' fun r hr => by simpa using hr
  have hoffers := sameRecords_delete_restore_bump (t := db.offers)
    (p := fun r => r.columns.listingId == listingId) now now' fun r hr => by
      rw [Table.assign, if_pos hr]
      exact hr
  have hvisits := sameRecords_delete_restore (t := db.visits)
    (p := fun r => r.columns.listingId == listingId) (fun c => { c with status := "cancelled" })
    now now' fun r hr => by
      rw [Table.assign, if_pos hr]
      exact hr
  have hcontracts := sameRecords_delete_restore (t := db.contracts)
    (p := fun r => r.columns.listingId == listingId) id now now' fun r hr => by
      rw [Table.assign, if_pos hr]
      exact hr
  have hcancelled : ∀ c : VisitColumns, { c with status := "cancelled" } = c ↔ c.status = "cancelled" := by
    intro c
    cases c
    simp [eq_comm]
  constructor
  · rintro ⟨_, hrestored, hsame⟩
    rw [restoreListing] at hrestored
    split at hrestored
    · cases hrestored
    next hphone =>
    cases hrestored
    have hlive := hlistings.mp hsame.listings
    refine ⟨?_, ?_, ?_, ?_, ?_⟩
    · rw [← anyPhoneClash_delete_restore _ _ now now' fun r hr hid => hlive r hr (by simpa using hid)]
      exact Bool.eq_false_iff.mpr hphone
    · exact fun r hr hid => hlive r hr (by simpa using hid)
    · exact fun r hr hid => hoffers.mp hsame.offers r hr (by simpa using hid)
    · intro r hr hid
      obtain ⟨hcolumns, hvisit⟩ := hvisits.mp hsame.visits r hr (by simpa using hid)
      exact ⟨hvisit, (hcancelled r.columns).mp hcolumns⟩
    · exact fun r hr hid => (hcontracts.mp hsame.contracts r hr (by simpa using hid)).2
  · intro hwhole
    have hphone := anyPhoneClash_delete_restore ListingColumns.agencyId ListingColumns.phone now now' hwhole.listing
    refine ⟨_, if_neg (by rw [deleteListing, hphone, hwhole.phone]; simp), ?_⟩
    refine ⟨rfl, ?_, rfl, ?_, ?_, ?_⟩
    · exact hlistings.mpr fun r hr hid => hwhole.listing r hr (by simpa using hid)
    · exact hoffers.mpr fun r hr hid => hwhole.offers r hr (by simpa using hid)
    · refine hvisits.mpr fun r hr hid => ?_
      obtain ⟨hvisit, hstatus⟩ := hwhole.visits r hr (by simpa using hid)
      exact ⟨(hcancelled r.columns).mpr hstatus, hvisit⟩
    · exact hcontracts.mpr fun r hr hid => ⟨rfl, hwhole.contracts r hr (by simpa using hid)⟩

/-- A restore after a delete gives the records back exactly when nothing of the parent was deleted before,
its phone is free, and, for a listing, its visits were cancelled already. -/
theorem restores_deleted_iff (db : Db) (parentId now now' : ℕ) :
    (GivesBack db (restoreClient parentId now' (deleteClient parentId now db)) ↔ ClientWhole parentId db) ∧
      (GivesBack db (restoreListing parentId now' (deleteListing parentId now db)) ↔ ListingWhole parentId db) :=
  ⟨givesBack_restoreClient_iff db parentId now now', givesBack_restoreListing_iff db parentId now now'⟩

def deletedVisit : Db :=
  { Db.empty with
    clients := Table.empty.insert sampleClient 0
    listings := Table.empty.insert sampleListing 0
    visits := (Table.empty.insert
      { agencyId := 1, clientId := 1, listingId := 1, scheduledDate := "2026-01-05"
        scheduledTime := "10:00", status := "planned", notes := "", notesEnc := "" } 0).update
      (fun r => r.id == 1) fun r => (r.delete 1).bump }

/-- The visit comes back with the client. -/
theorem deleted_visit_restored : ¬ ∀ (db : Db) (parentId now now' : ℕ),
      GivesBack db (restoreClient parentId now' (deleteClient parentId now db)) ∧
        GivesBack db (restoreListing parentId now' (deleteListing parentId now db)) := by
  intro h
  obtain ⟨_, hrestored, hsame⟩ := (h deletedVisit 1 2 3).1
  have hlive : (committed deletedVisit (restoreClient 1 3 (deleteClient 1 2 deletedVisit))).visits.rows.map
      Row.live = [true] := by
    decide +kernel
  have hdeleted : deletedVisit.visits.rows.map Row.live = [false] := by decide +kernel
  rw [hrestored, committed_ok] at hlive
  have hrecords := congrArg (List.map fun x => x.2.2) hsame.visits
  rw [map_map, map_map] at hrecords
  exact absurd (hlive.symm.trans (hrecords.trans hdeleted)) (by decide)

end Crm

end ImmoApp
