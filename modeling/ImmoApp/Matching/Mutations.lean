import ImmoApp.Crm.LocationLinks
import ImmoApp.Matching.Pipelines
import ImmoApp.Matching.Store

/-!
# Demandes, clients and the counts of their matches

The service functions for demandes and clients write the records, mark the cached count of one client in
the same transaction, and ask for a rebuild once it is committed.  The matches of a client are the distinct
active offers that its live demandes have as candidates; an operation changes them for no client but the
one it marks (`ClientFrame`).
-/

namespace ImmoApp.Matching

open Crm List Option Table

/-! ### Counts -/

def matchCount (db : Db) (candidates : Candidates) (clientId : ℕ) : ℕ :=
  (((clientOffers db candidates).filter fun row => row.1 = clientId).map Prod.snd).dedup.length

variable {db : Db} {candidates : Candidates} {clientId : ℕ}

lemma matchCount_congr {db' : Db} {candidates' : Candidates}
    (h : ∀ offerId, (clientId, offerId) ∈ clientOffers db' candidates' ↔
      (clientId, offerId) ∈ clientOffers db candidates) :
    matchCount db' candidates' clientId = matchCount db candidates clientId := by
  have hmem : ∀ {db : Db} {candidates : Candidates} {offerId : ℕ},
      offerId ∈ (((clientOffers db candidates).filter fun row => row.1 = clientId).map Prod.snd).dedup ↔
        (clientId, offerId) ∈ clientOffers db candidates := by
    intro db candidates offerId
    simp [mem_dedup, List.mem_map, mem_filter]
  refine Perm.length_eq ((perm_ext_iff_of_nodup (nodup_dedup _) (nodup_dedup _)).mpr fun offerId => ?_)
  rw [hmem, hmem, h]

lemma get?_countClientsForIds {ids : List ℕ} : (countClientsForIds db candidates ids).get? clientId =
      if clientId ∈ ids then some (matchCount db candidates clientId) else none := by
  set rows := (clientOffers db candidates).filter fun row => row.1 ∈ ids with hrows
  have hnodup : ((distinctCounts rows).map Prod.fst).Nodup := by
    rw [distinctCounts_map_fst]
    exact nodup_dedup _
  rw [countClientsForIds, countForIds, ← hrows, get?_dictOf hnodup, distinctCounts, Dict.get?_tabulate]
  simp only [mem_dedup]
  by_cases hid : clientId ∈ ids
  · have hfilter : rows.filter (fun row => row.1 = clientId)
        = (clientOffers db candidates).filter fun row => row.1 = clientId := by
      rw [hrows, List.filter_filter]
      refine filter_congr fun row _ => ?_
      simp only [Bool.and_eq_decide, decide_eq_true_eq, decide_eq_decide, and_iff_left_iff_imp]
      rintro rfl
      exact hid
    rw [hfilter]
    by_cases hgroup : clientId ∈ rows.map Prod.fst
    · rw [if_pos hgroup, if_pos hid, if_pos hid]
      rfl
    · -- a client without matches keeps the zero it starts from
      have hnone : (clientOffers db candidates).filter (fun row => row.1 = clientId) = [] := by
        rw [← hfilter, filter_eq_nil_iff]
        intro row hrow heq
        exact hgroup (mem_map.mpr ⟨row, hrow, by simpa using heq⟩)
      rw [if_neg hgroup, if_pos hid, if_pos hid, matchCount, hnone]
      rfl
  · have hgroup : clientId ∉ rows.map Prod.fst := by
      intro hmem
      obtain ⟨_, hrow, rfl⟩ := mem_map.mp hmem
      exact hid (by simpa using (mem_filter.mp hrow).2)
    rw [if_neg hgroup, if_neg hid, if_neg hid]
    rfl

/-! ### Operations -/

/-- The rebuild that is asked for once an operation is committed. -/
inductive PairRequest where
  /-- `enqueue_rebuild_demande_pairs`. -/
  | demande (demandeId : ℕ)
  /-- `enqueue_rebuild_client_pairs`. -/
  | client (clientId : ℕ) (includeDeleted : Bool)
  deriving DecidableEq

structure ClientChange where
  db : Db
  artifacts : Artifacts
  /-- The cache after the write and before the mark. -/
  counts : Keyed ℕ CountRow
  marked : Option ℕ
  callback : Option PairRequest

def markClientDirty (clientId : ℕ) (counts : Keyed ℕ CountRow) : Keyed ℕ CountRow :=
  markRowsDirty [clientId] counts

def ClientChange.commit (c : ClientChange) : MatchStore where
  db := c.db
  artifacts := c.artifacts
  counts := (c.marked.map fun clientId => markClientDirty clientId c.counts).getD c.counts

def Artifacts.withoutDemandes (gone : ℕ → Bool) (t : Artifacts) : Artifacts where
  candidates := t.candidates.delete fun k _ => gone k.1
  pairs := t.pairs.delete fun k _ => gone k.1

def ownerOf (d : Option (Row DemandeColumns)) : Option ℕ := d.map fun d => d.columns.clientId

/-- `get_demande_by_id` without deleted demandes. -/
def liveDemande (db : Db) (demandeId : ℕ) : Option (Row DemandeColumns) :=
  (db.demandes.find? demandeId).filter Row.live

inductive ClientCall where
  | createDemande (clientId : ℕ) (payload : DemandePayload)
  | updateDemande (demandeId : ℕ) (payload : DemandePayload)
  | deleteDemande (demandeId : ℕ)
  | restoreDemande (demandeId : ℕ)
  | purgeDemande (demandeId : ℕ)
  /-- `upsert_client` of a new client. -/
  | insertClient (agencyId : ℕ) (data : ClientInput)
  /-- `upsert_client` of a client that has an id. -/
  | updateClient (clientId : ℕ) (data : ClientInput)
  | deleteClient (clientId : ℕ)
  | restoreClient (clientId : ℕ)
  | purgeClient (clientId : ℕ)

variable (backend : Backend)

def ClientCall.change (call : ClientCall) (now : ℕ) (s : MatchStore) : Except WriteError ClientChange :=
  match call with
  | .createDemande clientId payload => do
    let db ← Crm.createDemande backend clientId payload now s.db
    return ⟨db, s.artifacts, s.counts, some clientId, some (.demande s.db.demandes.nextId)⟩
  | .updateDemande demandeId payload => do
    let db ← Crm.updateDemande backend demandeId payload now s.db
    return ⟨db, s.artifacts, s.counts, ownerOf (liveDemande db demandeId), some (.demande demandeId)⟩
  | .deleteDemande demandeId =>
    .ok ⟨Demandes.deleteDemande demandeId now s.db, s.artifacts, s.counts,
      ownerOf (liveDemande s.db demandeId), some (.demande demandeId)⟩
  | .restoreDemande demandeId =>
    let db := Demandes.restoreDemande demandeId now s.db
    .ok ⟨db, s.artifacts, s.counts, ownerOf (liveDemande db demandeId), some (.demande demandeId)⟩
  | .purgeDemande demandeId =>
    .ok ⟨Demandes.purgeDemande demandeId s.db, s.artifacts.withoutDemandes fun id => id == demandeId,
      s.counts, ownerOf (s.db.demandes.find? demandeId), some (.demande demandeId)⟩
  | .insertClient agencyId data => do
    let db ← Crm.insertClient backend.platform agencyId data now s.db
    return ⟨db, s.artifacts, s.counts, some s.db.clients.nextId, none⟩
  | .updateClient clientId data => do
    let existing := (s.db.clients.find? clientId).filter Row.live
    let shouldRebuildPairs := existing.any fun c => data.status != some c.columns.status
    let db ← Crm.updateClient backend.platform clientId data now s.db
    return ⟨db, s.artifacts, s.counts, some clientId,
      if shouldRebuildPairs then some (.client clientId false) else none⟩
  | .deleteClient clientId =>
    .ok ⟨Crm.deleteClient clientId now s.db, s.artifacts, s.counts, some clientId, some (.client clientId false)⟩
  | .restoreClient clientId => do
    let db ← Crm.restoreClient clientId now s.db
    return ⟨db, s.artifacts, s.counts, some clientId, some (.client clientId false)⟩
  | .purgeClient clientId =>
    .ok ⟨Crm.purgeClient clientId s.db,
      s.artifacts.withoutDemandes fun id => s.db.demandes.rows.any fun d => d.id == id &&
        d.columns.clientId == clientId,
      s.counts.delete fun id _ => id == clientId, some clientId, some (.client clientId true)⟩

/-! ### What an operation leaves -/

/-- Only the records of the marked client differ, and demandes that are not live. -/
structure ClientFrame (marked : Option ℕ) (s s' : MatchStore) : Prop where
  offers : s'.db.offers = s.db.offers
  listings : s'.db.listings = s.db.listings
  clients : ∀ c, marked ≠ some c.id → (c ∈ s'.db.clients.rows ↔ c ∈ s.db.clients.rows)
  demandes : ∀ d, d.live = true → marked ≠ some d.columns.clientId →
    (d ∈ s'.db.demandes.rows ↔ d ∈ s.db.demandes.rows)
  candidates : ∀ d ∈ s.db.demandes.rows, d.live = true → marked ≠ some d.columns.clientId →
    ∀ offerId, s'.artifacts.candidates.get? (d.id, offerId) = s.artifacts.candidates.get? (d.id, offerId)
  counts : ∀ clientId, marked ≠ some clientId → s'.counts.get? clientId = s.counts.get? clientId
  dirty : ∀ clientId, marked = some clientId → ∀ row, s'.counts.get? clientId = some row → row.isDirty = true

lemma ClientFrame.clientOffers {marked : Option ℕ} {s s' : MatchStore} (h : ClientFrame marked s s')
    (hid : marked ≠ some clientId) (offerId : ℕ) :
    (clientId, offerId) ∈ Matching.clientOffers s'.db s'.artifacts.candidates ↔
      (clientId, offerId) ∈ Matching.clientOffers s.db s.artifacts.candidates := by
  have hjoin : activeOfferJoin s'.db offerId = activeOfferJoin s.db offerId := by
    rw [activeOfferJoin, h.offers, h.listings, activeOfferJoin]
  rw [mem_clientOffers, mem_clientOffers]
  constructor
  · rintro ⟨⟨c, hc, rfl, hactive⟩, d, hd, hclient⟩
    have hother : marked ≠ some d.columns.clientId := hclient ▸ hid
    have hmem := (h.demandes d hd.live hother).mp hd.demande
    refine ⟨⟨c, (h.clients c hid).mp hc, rfl, hactive⟩, d, ⟨hmem, hd.live, ?_, ?_⟩, hclient⟩
    · rw [← h.candidates d hmem hd.live hother]
      exact hd.candidate
    · rw [← hjoin]
      exact hd.offer
  · rintro ⟨⟨c, hc, rfl, hactive⟩, d, hd, hclient⟩
    have hother : marked ≠ some d.columns.clientId := hclient ▸ hid
    refine ⟨⟨c, (h.clients c hid).mpr hc, rfl, hactive⟩, d,
      ⟨(h.demandes d hd.live hother).mpr hd.demande, hd.live, ?_, ?_⟩, hclient⟩
    · rw [h.candidates d hd.demande hd.live hother]
      exact hd.candidate
    · rw [hjoin]
      exact hd.offer

section Frames

variable {backend} {now : ℕ} {s : MatchStore} {marked : Option ℕ}

lemma get?_commit_counts (c : ClientChange) (clientId : ℕ) :
    c.commit.counts.get? clientId = (c.counts.get? clientId).map
      (CountRow.marked (decide (c.marked = some clientId))) := by
  cases hmarked : c.marked with
  | none => simp [ClientChange.commit, hmarked]
  | some =>
    simp only [ClientChange.commit, hmarked, map_some, getD_some, markClientDirty, get?_markRowsDirty]
    congr 2
    simp [eq_comm]

variable {c : ClientChange} {payload : DemandePayload} {db db' : Db} {demandeId : ℕ} {d : Row DemandeColumns}

lemma clientFrame_commit (hoffers : c.db.offers = s.db.offers) (hlistings : c.db.listings = s.db.listings)
    (hclients : ∀ r, c.marked ≠ some r.id → (r ∈ c.db.clients.rows ↔ r ∈ s.db.clients.rows))
    (hdemandes : ∀ d, d.live = true → c.marked ≠ some d.columns.clientId →
      (d ∈ c.db.demandes.rows ↔ d ∈ s.db.demandes.rows))
    (hcandidates : ∀ d ∈ s.db.demandes.rows, d.live = true → c.marked ≠ some d.columns.clientId →
      ∀ offerId, c.artifacts.candidates.get? (d.id, offerId) = s.artifacts.candidates.get? (d.id, offerId))
    (hcounts : ∀ clientId, c.marked ≠ some clientId → c.counts.get? clientId = s.counts.get? clientId) :
    ClientFrame c.marked s c.commit := by
  refine ⟨hoffers, hlistings, hclients, hdemandes, hcandidates, fun clientId hid => ?_,
    fun clientId hid row hrow => ?_⟩
  · rw [get?_commit_counts, decide_eq_false hid, CountRow.marked_false, Option.map_id_fun, id_eq,
      hcounts clientId hid]
  · rw [get?_commit_counts, hid, decide_eq_true rfl] at hrow
    obtain ⟨r, -, rfl⟩ := map_eq_some_iff.mp hrow
    rfl

lemma mem_update_owned {t : Table DemandeColumns} {p : Row DemandeColumns → Bool}
    {f : Row DemandeColumns → Row DemandeColumns}
    (hold : ∀ r ∈ t.rows, p r = true → r.live = true → marked = some r.columns.clientId)
    (hnew : ∀ r ∈ t.rows, p r = true → (f r).live = true → marked = some (f r).columns.clientId)
    (d : Row DemandeColumns) (hlive : d.live = true) (hother : marked ≠ some d.columns.clientId) :
    d ∈ (t.update p f).rows ↔ d ∈ t.rows := by
  rw [mem_update]
  constructor
  · rintro ⟨r, hr, rfl⟩
    cases hp : p r with
    | false => simpa [Table.assign, hp] using hr
    | true =>
      have hassign : Table.assign p f r = { f r with id := r.id } := by simp [Table.assign, hp]
      rw [hassign] at hlive hother
      exact absurd (hnew r hr hp hlive) hother
  · intro hd
    have hp : p d = false := Bool.eq_false_iff.mpr fun hp => hother (hold d hd hp hlive)
    exact ⟨d, hd, by simp [Table.assign, hp]⟩

lemma createDemande_owner {clientId : ℕ} (h : Crm.createDemande backend clientId payload now db = .ok db') :
    ∃ columns, columns.clientId = clientId ∧
      db' = populateDemandeLinks backend.platform.unicode db.demandes.nextId columns.locations
        { db with demandes := db.demandes.insert columns now } := by
  unfold Crm.createDemande at h
  split at h
  · exact absurd h (by simp)
  · next client hclient =>
    obtain ⟨data, -, hcreate⟩ := bind_eq_ok_iff.mp h
    obtain ⟨checked, -, hcreate⟩ := bind_eq_ok_iff.mp hcreate
    have hid : client.id = clientId :=
      (find?_eq_some_iff.mp (filter_eq_some_iff.mp hclient).1).2
    split at hcreate
    · exact absurd hcreate (by simp)
    · rw [hclient] at hcreate
      exact ⟨data.columns checked client.columns.agencyId client.id, hid, (Except.ok.inj hcreate).symm⟩

lemma updateDemande_owner (h : Crm.updateDemande backend demandeId payload now db = .ok db') :
    ∃ text p r f, Selects db.demandes demandeId p r ∧
      (f r).columns.clientId = r.columns.clientId ∧ (f r).live = true ∧
      db' = populateDemandeLinks backend.platform.unicode demandeId text
        { db with demandes := db.demandes.update p f } := by
  obtain ⟨data, -, hupdate⟩ := bind_eq_ok_iff.mp h
  unfold Demandes.updateDemande at hupdate
  split at hupdate
  · exact absurd hupdate (by simp)
  · obtain ⟨checked, -, hupdate⟩ := bind_eq_ok_iff.mp hupdate
    cases hlocked : lockedUpdate (fun r => r.id == demandeId && r.live) data.rowVersion
        (Row.write (fun c => data.columns checked c.agencyId c.clientId) (data.updatedAt.getD now)) db.demandes with
    | some =>
      simp only [hlocked] at hupdate
      obtain ⟨p, r, hselects, -, rfl⟩ := selects_of_lockedUpdate hlocked
      exact ⟨data.locations, p, r, _, hselects, rfl, hselects.live, (Except.ok.inj hupdate).symm⟩
    | none =>
      simp only [hlocked] at hupdate
      split at hupdate <;> exact absurd hupdate (by simp)

lemma liveDemande_eq_some_iff :
    liveDemande db demandeId = some d ↔ (d ∈ db.demandes.rows ∧ d.id = demandeId) ∧ d.live = true := by
  rw [liveDemande, filter_eq_some_iff, find?_eq_some_iff]

lemma ownerOf_liveDemande (hd : d ∈ db.demandes.rows)
    (hlive : d.live = true) : ownerOf (liveDemande db d.id) = some d.columns.clientId := by
  rw [liveDemande_eq_some_iff.mpr ⟨⟨hd, rfl⟩, hlive⟩]
  rfl

lemma clientFrame_of_change {call : ClientCall}
    (h : call.change backend now s = .ok c) : ClientFrame c.marked s c.commit := by
  match call with
  | .createDemande clientId payload =>
    obtain ⟨db, hwrite, h⟩ := bind_eq_ok_iff.mp h
    obtain ⟨⟩ := h
    obtain ⟨columns, howner, rfl⟩ := createDemande_owner hwrite
    refine clientFrame_commit rfl rfl (fun _ _ => Iff.rfl) (fun d _ hother => ?_)
      (fun _ _ _ _ _ => rfl) fun _ _ => rfl
    change d ∈ (s.db.demandes.insert columns now).rows ↔ _
    rw [mem_insert]
    refine or_iff_left ?_
    rintro rfl
    exact hother (congrArg some howner.symm)
  | .updateDemande demandeId payload =>
    obtain ⟨db, hwrite, h⟩ := bind_eq_ok_iff.mp h
    obtain ⟨⟩ := h
    obtain ⟨text, p, r, f, hselects, howner, hlive, rfl⟩ := updateDemande_owner hwrite
    have hp : ∀ r' ∈ s.db.demandes.rows, p r' = true → r' = r := fun r' hr' hpr' =>
      eq_of_id hr' hselects.mem (hselects.only r' hr' hpr')
    -- the updated row is the one that is read for its client
    have hassign : Table.assign p f r = { f r with id := r.id } := by
      simp [Table.assign, hselects.selected]
    have hupdated : { f r with id := r.id } ∈ (s.db.demandes.update p f).rows :=
      mem_update.mpr ⟨r, hselects.mem, hassign⟩
    have hmarked : ownerOf (liveDemande (populateDemandeLinks backend.platform.unicode demandeId text
        { s.db with demandes := s.db.demandes.update p f }) demandeId) = some r.columns.clientId := by
      rw [← hselects.key, ← howner]
      exact @ownerOf_liveDemande (populateDemandeLinks backend.platform.unicode r.id text
        { s.db with demandes := s.db.demandes.update p f }) { f r with id := r.id } hupdated hlive
    refine clientFrame_commit rfl rfl (fun _ _ => Iff.rfl) ?_ (fun _ _ _ _ _ => rfl) fun _ _ => rfl
    refine mem_update_owned (fun r' hr' hpr' _ => ?_) fun r' hr' hpr' _ => ?_
    · rw [hp r' hr' hpr']
      exact hmarked
    · rw [hp r' hr' hpr', howner]
      exact hmarked
  | .deleteDemande demandeId =>
    obtain ⟨⟩ := h
    refine clientFrame_commit rfl rfl (fun _ _ => Iff.rfl) ?_ (fun _ _ _ _ _ => rfl) fun _ _ => rfl
    refine mem_update_owned (fun r hr hp hlive => ?_) fun r _ _ hlive => absurd hlive (by
      simp [Row.delete, Row.bump, Row.live])
    have hid : r.id = demandeId := beq_iff_eq.mp hp
    rw [← hid]
    exact ownerOf_liveDemande hr hlive
  | .restoreDemande demandeId =>
    obtain ⟨⟩ := h
    have hmarked : ∀ r ∈ s.db.demandes.rows, (r.id == demandeId) = true →
        ownerOf (liveDemande (Demandes.restoreDemande demandeId now s.db) demandeId) = some r.columns.clientId := by
      intro r hr hp
      have hassign : Table.assign (fun r => r.id == demandeId) (fun r => (r.restore now).bump) r
          = (r.restore now).bump := by
        rw [Table.assign, if_pos hp]
        rfl
      have hrestored : (r.restore now).bump ∈ (Demandes.restoreDemande demandeId now s.db).demandes.rows :=
        mem_update.mpr ⟨r, hr, hassign⟩
      obtain rfl : r.id = demandeId := beq_iff_eq.mp hp
      exact @ownerOf_liveDemande _ (r.restore now).bump hrestored rfl
    refine clientFrame_commit rfl rfl (fun _ _ => Iff.rfl) ?_ (fun _ _ _ _ _ => rfl) fun _ _ => rfl
    exact mem_update_owned (fun r hr hp _ => hmarked r hr hp) fun r hr hp _ => hmarked r hr hp
  | .purgeDemande demandeId =>
    obtain ⟨⟩ := h
    have hkept : ∀ d ∈ s.db.demandes.rows,
        ownerOf (s.db.demandes.find? demandeId) ≠ some d.columns.clientId → d.id ≠ demandeId := by
      rintro d hd hother rfl
      rw [find?_eq_some_iff.mpr ⟨hd, rfl⟩] at hother
      exact hother rfl
    refine clientFrame_commit rfl rfl (fun _ _ => Iff.rfl) (fun d _ hother => ?_)
      (fun d hd _ hother offerId => ?_) fun _ _ => rfl
    · change d ∈ (s.db.demandes.delete fun r => r.id == demandeId).rows ↔ _
      rw [mem_delete]
      exact and_iff_left_of_imp fun hd => beq_false_of_ne (hkept d hd hother)
    · have hgone : (d.id == demandeId) = false := beq_false_of_ne (hkept d hd hother)
      exact Keyed.get?_delete_of_false fun _ => hgone
  | .insertClient agencyId data =>
    obtain ⟨db, hwrite, h⟩ := bind_eq_ok_iff.mp h
    obtain ⟨⟩ := h
    unfold Crm.insertClient at hwrite
    simp only at hwrite
    split at hwrite
    · exact absurd hwrite (by simp)
    · obtain ⟨⟩ := hwrite
      refine clientFrame_commit rfl rfl (fun r hother => ?_) (fun _ _ _ => Iff.rfl)
        (fun _ _ _ _ _ => rfl) fun _ _ => rfl
      rw [mem_insert]
      refine or_iff_left ?_
      rintro rfl
      exact hother rfl
  | .updateClient clientId data =>
    obtain ⟨_, hwrite, h⟩ := bind_eq_ok_iff.mp h
    obtain ⟨⟩ := h
    unfold Crm.updateClient at hwrite
    split at hwrite
    · exact absurd hwrite (by simp)
    · cases hlocked : lockedUpdate (fun r => r.id == clientId) data.rowVersion
          (Row.write (ClientInput.write backend.platform data) (data.updatedAt.getD now))
          s.db.clients with
      | none =>
        simp only [hlocked] at hwrite
        split at hwrite <;> exact absurd hwrite (by simp)
      | some =>
        simp only [hlocked] at hwrite
        split at hwrite
        · exact absurd hwrite (by simp)
        · obtain ⟨⟩ := hwrite
          obtain ⟨rfl, -⟩ := lockedUpdate_some hlocked
          refine clientFrame_commit rfl rfl (fun r hother => ?_) (fun _ _ _ => Iff.rfl)
            (fun _ _ _ _ _ => rfl) fun _ _ => rfl
          refine mem_update_of_ne (fun r' _ hp => ?_) r fun hid => hother (congrArg some hid.symm)
          exact beq_iff_eq.mp (Bool.and_eq_true _ _ ▸ hp).1
  | .deleteClient clientId =>
    obtain ⟨⟩ := h
    refine clientFrame_commit rfl rfl (fun r hother => ?_) ?_ (fun _ _ _ _ _ => rfl) fun _ _ => rfl
    · exact mem_update_of_ne (fun r' _ hp => beq_iff_eq.mp hp) r
        fun hid => hother (congrArg some hid.symm)
    · exact mem_update_owned (fun r _ hp _ => congrArg some (beq_iff_eq.mp hp).symm)
        fun r _ hp _ => congrArg some (beq_iff_eq.mp hp).symm
  | .restoreClient clientId =>
    obtain ⟨_, hwrite, h⟩ := bind_eq_ok_iff.mp h
    obtain ⟨⟩ := h
    unfold Crm.restoreClient at hwrite
    split at hwrite
    · exact absurd hwrite (by simp)
    · obtain ⟨⟩ := hwrite
      refine clientFrame_commit rfl rfl (fun r hother => ?_) ?_ (fun _ _ _ _ _ => rfl) fun _ _ => rfl
      · exact mem_update_of_ne (fun r' _ hp => beq_iff_eq.mp hp) r
          fun hid => hother (congrArg some hid.symm)
      · exact mem_update_owned (fun r _ hp _ => congrArg some (beq_iff_eq.mp hp).symm)
          fun r _ hp _ => congrArg some (beq_iff_eq.mp hp).symm
  | .purgeClient clientId =>
    obtain ⟨⟩ := h
    refine clientFrame_commit rfl rfl (fun r hother => ?_) (fun d _ hother => ?_)
      (fun d hd _ hother offerId => ?_) fun id hother => ?_
    · change r ∈ (s.db.clients.delete fun r => r.id == clientId).rows ↔ _
      rw [mem_delete]
      refine and_iff_left_of_imp fun _ => beq_false_of_ne ?_
      rintro rfl
      exact hother rfl
    · change d ∈ (s.db.demandes.delete fun r => r.columns.clientId == clientId).rows ↔ _
      rw [mem_delete]
      refine and_iff_left_of_imp fun _ => beq_false_of_ne ?_
      rintro rfl
      exact hother rfl
    · have hgone : (s.db.demandes.rows.any fun d' => d'.id == d.id &&
          d'.columns.clientId == clientId) = false := by
        simp only [List.any_eq_false, Bool.and_eq_true, beq_iff_eq, not_and]
        rintro _ hd' hid rfl
        exact hother (congrArg (fun x => some x.columns.clientId) (eq_of_id hd' hd hid))
      exact Keyed.get?_delete_of_false fun _ => hgone
    · have hgone : (id == clientId) = false := by
        refine beq_false_of_ne ?_
        rintro rfl
        exact hother rfl
      exact Keyed.get?_delete_of_false fun _ => hgone

end Frames

end ImmoApp.Matching
