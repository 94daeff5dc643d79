import ImmoApp.Matching.Artifacts

/-!
# Counting matches

The counting queries read `match_candidates`: the matches of a client are the distinct active offers that
its live demandes have as candidates, and likewise for a demande, a listing or an offer.  Counts for a
given list of ids start from zero for each id; the queries over everything return the groups they find.
The source splits long lists of ids into chunks, which changes nothing, and this is left out.
-/

namespace ImmoApp.Matching

open Crm List

/-- `match_candidates`. -/
abbrev Candidates := Keyed (ℕ × ℕ) CandidateColumns

/-- `SELECT key, COUNT(DISTINCT value) … GROUP BY key`. -/
def distinctCounts (rows : List (ℕ × ℕ)) : List (ℕ × ℕ) :=
  (rows.map Prod.fst).dedup.map fun k =>
    (k, ((rows.filter fun row => row.1 = k).map Prod.snd).dedup.length)

/-- `JOIN offers o ON o.id = mc.offer_id AND ACTIVE_OFFER JOIN listings l ON l.id = o.listing_id AND
ACTIVE_LISTING`: the offer of a candidate with its listing. -/
def activeOfferJoin (db : Db) (offerId : ℕ) : List (Row OfferColumns) :=
  (db.offers.rows.filter fun o => o.id == offerId && activeOffer o).flatMap fun o =>
    (db.listings.rows.filter fun l => l.id == o.columns.listingId && activeListing l).map fun _ => o

def clientOffers (db : Db) (candidates : Candidates) : List (ℕ × ℕ) :=
  candidates.entries.flatMap fun mc => (activeOfferJoin db mc.1.2).flatMap fun _ =>
    (db.demandes.rows.filter fun d => d.id == mc.1.1 && activeDemande d).flatMap fun d =>
      (db.clients.rows.filter fun c => c.id == d.columns.clientId && activeClient c).map fun _ =>
        (d.columns.clientId, mc.1.2)

def demandeOffers (db : Db) (candidates : Candidates) : List (ℕ × ℕ) :=
  candidates.entries.flatMap fun mc => (activeOfferJoin db mc.1.2).flatMap fun _ =>
    (db.demandes.rows.filter fun d => d.id == mc.1.1 && activeDemande d).map fun _ => mc.1

def listingDemandes (db : Db) (candidates : Candidates) : List (ℕ × ℕ) :=
  candidates.entries.flatMap fun mc => (activeOfferJoin db mc.1.2).map fun o =>
    (o.columns.listingId, mc.1.1)

def offerDemandes (db : Db) (candidates : Candidates) : List (ℕ × ℕ) :=
  candidates.entries.flatMap fun mc => (activeOfferJoin db mc.1.2).map fun _ => (mc.1.2, mc.1.1)

def countForIds (rows : List (ℕ × ℕ)) (ids : List ℕ) : Dict ℕ ℕ :=
  dictOf ids 0 (distinctCounts (rows.filter fun row => row.1 ∈ ids))

def countClientsForIds (db : Db) (candidates : Candidates) (clientIds : List ℕ) : Dict ℕ ℕ :=
  countForIds (clientOffers db candidates) clientIds

def countDemandesForIds (db : Db) (candidates : Candidates) (demandeIds : List ℕ) : Dict ℕ ℕ :=
  countForIds (demandeOffers db candidates) demandeIds

def countListingsForIds (db : Db) (candidates : Candidates) (listingIds : List ℕ) : Dict ℕ ℕ :=
  countForIds (listingDemandes db candidates) listingIds

def countOffersForIds (db : Db) (candidates : Candidates) (offerIds : List ℕ) : Dict ℕ ℕ :=
  countForIds (offerDemandes db candidates) offerIds

def batchCountAllClientsCte (db : Db) (candidates : Candidates) : Dict ℕ ℕ :=
  distinctCounts (clientOffers db candidates)

def batchCountAllDemandesCte (db : Db) (candidates : Candidates) : Dict ℕ ℕ :=
  distinctCounts (demandeOffers db candidates)

/-- `ORDER BY id`. -/
def sortedIds (ids : List ℕ) : List ℕ := ids.insertionSort (· ≤ ·)

/-- `batch_count_all_listings_cte`: the outer joins keep every active listing. -/
def batchCountAllListingsCte (db : Db) (candidates : Candidates) : Dict ℕ ℕ :=
  (sortedIds ((db.listings.rows.filter activeListing).map Row.id)).map fun id =>
    (id, ((db.offers.rows.filter fun o => o.columns.listingId == id && activeOffer o).flatMap fun o =>
      (candidates.entries.filter fun mc => mc.1.2 == o.id).map fun mc => mc.1.1).dedup.length)

/-- `batch_count_all_offers_cte`: the outer joins keep every active offer. -/
def batchCountAllOffersCte (db : Db) (candidates : Candidates) : Dict ℕ ℕ :=
  (sortedIds ((db.offers.rows.filter activeOffer).map Row.id)).map fun id =>
    (id, ((activeOfferJoin db id).flatMap fun _ =>
      (candidates.entries.filter fun mc => mc.1.2 == id).map fun mc => mc.1.1).dedup.length)

lemma distinctCounts_map_fst (rows : List (ℕ × ℕ)) :
    (distinctCounts rows).map Prod.fst = (rows.map Prod.fst).dedup := by
  simp [distinctCounts, Function.comp_def]

lemma sortedIds_perm (ids : List ℕ) : (sortedIds ids).Perm ids := perm_insertionSort _ _

lemma sortedIds_pairwise {ids : List ℕ} (h : ids.Nodup) : (sortedIds ids).Pairwise (· < ·) := by
  have hsorted : (sortedIds ids).Pairwise (· ≤ ·) := pairwise_insertionSort _ _
  have hnodup : (sortedIds ids).Nodup := (sortedIds_perm ids).nodup_iff.mpr h
  exact (hsorted.and hnodup).imp fun ⟨hle, hne⟩ => lt_of_le_of_ne hle hne

/-- A live demande has the offer as a candidate, and the offer and its listing are active. -/
structure CountedFor (db : Db) (candidates : Candidates) (d : Row DemandeColumns) (offerId : ℕ) :
    Prop where
  demande : d ∈ db.demandes.rows
  live : activeDemande d = true
  candidate : (candidates.get? (d.id, offerId)).isSome
  offer : ∃ o, o ∈ activeOfferJoin db offerId

lemma mem_demandeOffers {db : Db} {candidates : Candidates} {demandeId offerId : ℕ} :
    (demandeId, offerId) ∈ demandeOffers db candidates ↔
      ∃ d, CountedFor db candidates d offerId ∧ d.id = demandeId := by
  simp only [demandeOffers, mem_flatMap, mem_map, mem_filter, Bool.and_eq_true, beq_iff_eq, Prod.exists]
  constructor
  · rintro ⟨_, _, columns, hmc, o, ho, d, ⟨hd, rfl, hlive⟩, heq⟩
    obtain ⟨rfl, rfl⟩ := Prod.mk.inj heq
    refine ⟨d, ⟨hd, hlive, ?_, o, ho⟩, rfl⟩
    rw [Keyed.mem_entries_iff.mp hmc]
    rfl
  · rintro ⟨d, ⟨hd, hlive, hcandidate, o, ho⟩, rfl⟩
    obtain ⟨columns, hget⟩ := Option.isSome_iff_exists.mp hcandidate
    exact ⟨d.id, offerId, columns, Keyed.mem_entries_iff.mpr hget, o, ho, d, ⟨hd, rfl, hlive⟩, rfl⟩

lemma mem_clientOffers {db : Db} {candidates : Candidates} {clientId offerId : ℕ} :
    (clientId, offerId) ∈ clientOffers db candidates ↔
      (∃ c ∈ db.clients.rows, c.id = clientId ∧ activeClient c = true) ∧
        ∃ d, CountedFor db candidates d offerId ∧ d.columns.clientId = clientId := by
  simp only [clientOffers, mem_flatMap, mem_map, mem_filter, Bool.and_eq_true, beq_iff_eq, Prod.exists]
  constructor
  · rintro ⟨_, _, columns, hmc, o, ho, d, ⟨hd, rfl, hlive⟩, c, ⟨hc, hcid, hactive⟩, heq⟩
    obtain ⟨rfl, rfl⟩ := Prod.mk.inj heq
    refine ⟨⟨c, hc, hcid, hactive⟩, d, ⟨hd, hlive, ?_, o, ho⟩, rfl⟩
    rw [Keyed.mem_entries_iff.mp hmc]
    rfl
  · rintro ⟨⟨c, hc, hcid, hactive⟩, d, ⟨hd, hlive, hcandidate, o, ho⟩, rfl⟩
    obtain ⟨columns, hget⟩ := Option.isSome_iff_exists.mp hcandidate
    exact ⟨d.id, offerId, columns, Keyed.mem_entries_iff.mpr hget, o, ho, d, ⟨hd, rfl, hlive⟩, c,
      ⟨hc, hcid, hactive⟩, rfl⟩

end ImmoApp.Matching
