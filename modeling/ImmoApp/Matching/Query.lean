import ImmoApp.Crm.Junctions

/-!
# The match query

`build_match_cte` joins demandes and offers in two branches: over the locations both name, and over the province for
demandes that name none.  The branches are translated join by join as lists of rows; `mem_rawPairs` says which pairs of
rows they produce.

Ranges are closed intervals; a demande that asks for no elevator or no accessibility has `NULL` there.
-/

namespace ImmoApp.Matching

open Crm List

def actionIdBuy : ℤ := 1

def actionIdRent : ℤ := 2

def actionIdSell : ℤ := 3

/-- `TYPE_MATCH_STRICT`. -/
def typeMatch (d : Row DemandeColumns) (o : Row OfferColumns) : Bool :=
  d.columns.typeId == o.columns.typeId

/-- `ACTION_MATCH`: who buys is matched with who sells, and who rents with who rents out. -/
def actionMatch (d : Row DemandeColumns) (o : Row OfferColumns) : Bool :=
  if d.columns.actionId = actionIdBuy then o.columns.actionId == actionIdSell
  else if d.columns.actionId = actionIdRent then o.columns.actionId == actionIdRent
  else false

def activeClient (c : Row ClientColumns) : Bool := c.columns.status == .active && c.live

def activeListing (l : Row ListingColumns) : Bool := l.columns.status == .available && l.live

def activeDemande (d : Row DemandeColumns) : Bool := d.live

def activeOffer (o : Row OfferColumns) : Bool := o.columns.status == "available" && o.live

/-- `&&` on two closed ranges. -/
def rangesOverlap (r s : ℚ × ℚ) : Bool := decide (r.1 ≤ s.2) && decide (s.1 ≤ r.2)

/-- `<@` for a number and a closed range. -/
def inRange (q : ℚ) (r : ℚ × ℚ) : Bool := decide (r.1 ≤ q) && decide (q ≤ r.2)

def numericMatch (d : Row DemandeColumns) (o : Row OfferColumns) : Bool :=
  rangesOverlap o.columns.priceRange d.columns.budgetRange &&
  inRange o.columns.surface d.columns.surfaceRange &&
  decide (d.columns.bedsRange ≤ o.columns.beds) &&
  (decide (d.columns.floorMin ≤ o.columns.floor) && decide (o.columns.floor ≤ d.columns.floorMax)) &&
  (!d.columns.elevator || o.columns.elevator) &&
  (!d.columns.accessibilityRequired || o.columns.accessibilitySupported)

/-! ### The query -/

/-- The arguments of `build_match_cte`; an empty list of ids is no filter. -/
structure MatchFilter where
  clientIds : List ℕ := []
  demandeIds : List ℕ := []
  offerIds : List ℕ := []
  /-- Only offers of these listings, where no offers are given. -/
  listingIds : List ℕ := []
  includeNumeric : Bool := true

/-- `_build_id_filter`. -/
def MatchFilter.idFilter (f : MatchFilter) (d : Row DemandeColumns) : Bool :=
  if f.clientIds ≠ [] then decide (d.columns.clientId ∈ f.clientIds)
  else if f.demandeIds ≠ [] then decide (d.id ∈ f.demandeIds)
  else true

def MatchFilter.offerFilter (f : MatchFilter) (o : Row OfferColumns) : Bool :=
  if f.offerIds ≠ [] then decide (o.id ∈ f.offerIds)
  else if f.listingIds ≠ [] then decide (o.columns.listingId ∈ f.listingIds)
  else true

/-- The part of `WHERE` that the branches share. -/
def MatchFilter.common (f : MatchFilter) (d : Row DemandeColumns) (o : Row OfferColumns) : Bool :=
  f.idFilter d && activeDemande d && actionMatch d o && (!f.includeNumeric || numericMatch d o) &&
    f.offerFilter o && typeMatch d o

/-- `JOIN clients c`. -/
def clientJoin (db : Db) (d : Row DemandeColumns) : List (Row ClientColumns) :=
  db.clients.rows.filter fun c => c.id == d.columns.clientId &&
    c.columns.agencyId == d.columns.agencyId && activeClient c

/-- `JOIN listings l`. -/
def listingJoin (db : Db) (o : Row OfferColumns) : List (Row ListingColumns) :=
  db.listings.rows.filter fun l => l.id == o.columns.listingId &&
    l.columns.agencyId == o.columns.agencyId && activeListing l

/-- `EXISTS (SELECT 1 FROM demande_locations WHERE demande_id = d.id)`. -/
def hasLocations (db : Db) (d : Row DemandeColumns) : Bool :=
  db.demandeLocations.any fun dl => dl.1 == d.id

def junctionBranch (f : MatchFilter) (db : Db) : List (Row DemandeColumns × Row OfferColumns) :=
  db.demandes.rows.flatMap fun d => (clientJoin db d).flatMap fun _ =>
    (db.demandeLocations.filter fun dl => dl.1 == d.id).flatMap fun dl =>
      (db.offerLocations.filter fun ol => dl.2 == ol.2).flatMap fun ol =>
        (db.offers.rows.filter fun o => ol.1 == o.id && o.columns.agencyId == d.columns.agencyId &&
            activeOffer o).flatMap fun o =>
          (listingJoin db o).flatMap fun _ => if f.common d o then [(d, o)] else []

def wilayaBranch (f : MatchFilter) (db : Db) : List (Row DemandeColumns × Row OfferColumns) :=
  db.demandes.rows.flatMap fun d => (clientJoin db d).flatMap fun _ =>
    (db.offers.rows.filter fun o => d.columns.wilayaId == o.columns.wilayaId &&
        o.columns.agencyId == d.columns.agencyId && activeOffer o).flatMap fun o =>
      (listingJoin db o).flatMap fun _ =>
        if !hasLocations db d && d.columns.wilayaId != 0 && f.common d o then [(d, o)] else []

/-- `raw_pairs`, before the columns are selected. -/
def rawPairs (f : MatchFilter) (db : Db) : List (Row DemandeColumns × Row OfferColumns) :=
  junctionBranch f db ++ wilayaBranch f db

/-- `matched_pairs`: `SELECT DISTINCT` of the selected columns. -/
def matchedPairs {α : Type} [DecidableEq α]
    (select : Row DemandeColumns → Row OfferColumns → α) (f : MatchFilter) (db : Db) : List α :=
  ((rawPairs f db).map fun p => select p.1 p.2).dedup

/-! ### Which pairs match -/

/-- The demande's client is active, in its agency. -/
def clientOk (db : Db) (d : Row DemandeColumns) : Bool := !(clientJoin db d).isEmpty

def offerOk (db : Db) (d : Row DemandeColumns) (o : Row OfferColumns) : Bool :=
  o.columns.agencyId == d.columns.agencyId && activeOffer o && !(listingJoin db o).isEmpty

/-- A shared location, or the same province where the demande names no location. -/
def placeMatch (db : Db) (d : Row DemandeColumns) (o : Row OfferColumns) : Bool :=
  locationJoin db d.id o.id ||
    (!hasLocations db d && d.columns.wilayaId != 0 && d.columns.wilayaId == o.columns.wilayaId)

/-- The pair satisfies every condition of the query but its filters and the numeric ones. -/
def compatible (db : Db) (d : Row DemandeColumns) (o : Row OfferColumns) : Bool :=
  activeDemande d && clientOk db d && offerOk db d o && placeMatch db d o && actionMatch d o && typeMatch d o

/-- The pair matches: it is compatible and its numbers fit. -/
def liveMatch (db : Db) (d : Row DemandeColumns) (o : Row OfferColumns) : Bool :=
  compatible db d o && numericMatch d o

variable {db : Db} {d : Row DemandeColumns} {o : Row OfferColumns}

lemma clientOk_iff : clientOk db d = true ↔ ∃ c, c ∈ clientJoin db d := by
  rw [clientOk, Bool.not_eq_true', isEmpty_eq_false_iff_exists_mem]

lemma offerOk_iff : offerOk db d o = true ↔ (o.columns.agencyId = d.columns.agencyId ∧ activeOffer o = true) ∧
      ∃ l, l ∈ listingJoin db o := by
  rw [offerOk, Bool.and_eq_true, Bool.and_eq_true, beq_iff_eq, Bool.not_eq_true', isEmpty_eq_false_iff_exists_mem]

variable {f : MatchFilter}

lemma mem_junctionBranch : (d, o) ∈ junctionBranch f db ↔ d ∈ db.demandes.rows ∧ o ∈ db.offers.rows ∧
      clientOk db d = true ∧ offerOk db d o = true ∧ locationJoin db d.id o.id = true ∧
      f.common d o = true := by
  simp only [junctionBranch, mem_flatMap, mem_filter, Bool.and_eq_true, beq_iff_eq,
    clientOk_iff, offerOk_iff, locationJoin_iff, Prod.exists]
  constructor
  · rintro ⟨_, hd, c, hc, _, loc, ⟨hdl, rfl⟩, _, _, ⟨hol, rfl⟩, _, ⟨ho, ⟨rfl, hagency⟩, hactive⟩,
      l, hl, hmem⟩
    split at hmem
    · next hcommon =>
      obtain ⟨rfl, rfl⟩ := Prod.mk.inj (mem_singleton.mp hmem)
      exact ⟨hd, ho, ⟨c, hc⟩, ⟨⟨hagency, hactive⟩, l, hl⟩, ⟨loc, hdl, hol⟩, hcommon⟩
    · exact absurd hmem not_mem_nil
  · rintro ⟨hd, ho, ⟨c, hc⟩, ⟨⟨hagency, hactive⟩, l, hl⟩, ⟨loc, hdl, hol⟩, hcommon⟩
    refine ⟨d, hd, c, hc, d.id, loc, ⟨hdl, rfl⟩, o.id, loc, ⟨hol, rfl⟩, o, ⟨ho, ⟨rfl, hagency⟩, hactive⟩, l, hl, ?_⟩
    rw [if_pos hcommon]
    exact mem_singleton.mpr rfl

lemma mem_wilayaBranch : (d, o) ∈ wilayaBranch f db ↔ d ∈ db.demandes.rows ∧ o ∈ db.offers.rows ∧
      clientOk db d = true ∧ offerOk db d o = true ∧
      (!hasLocations db d && d.columns.wilayaId != 0 &&
        d.columns.wilayaId == o.columns.wilayaId) = true ∧ f.common d o = true := by
  simp only [wilayaBranch, mem_flatMap, mem_filter, Bool.and_eq_true, beq_iff_eq, clientOk_iff, offerOk_iff]
  constructor
  · rintro ⟨_, hd, c, hc, _, ⟨ho, ⟨hwilaya, hagency⟩, hactive⟩, l, hl, hmem⟩
    split at hmem
    · next hwhere =>
      obtain ⟨rfl, rfl⟩ := Prod.mk.inj (mem_singleton.mp hmem)
      exact ⟨hd, ho, ⟨c, hc⟩, ⟨⟨hagency, hactive⟩, l, hl⟩, ⟨hwhere.1, hwilaya⟩, hwhere.2⟩
    · exact absurd hmem not_mem_nil
  · rintro ⟨hd, ho, ⟨c, hc⟩, ⟨⟨hagency, hactive⟩, l, hl⟩, ⟨hplace, hwilaya⟩, hcommon⟩
    refine ⟨d, hd, c, hc, o, ⟨ho, ⟨hwilaya, hagency⟩, hactive⟩, l, hl, ?_⟩
    rw [if_pos ⟨hplace, hcommon⟩]
    exact mem_singleton.mpr rfl

/-- The pairs of the query: compatible ones that pass the filters and, where asked, the numeric
conditions. -/
lemma mem_rawPairs : (d, o) ∈ rawPairs f db ↔ d ∈ db.demandes.rows ∧ o ∈ db.offers.rows ∧
      compatible db d o = true ∧ f.idFilter d = true ∧ f.offerFilter o = true ∧
      (f.includeNumeric = true → numericMatch d o = true) := by
  have hnumeric : (!f.includeNumeric || numericMatch d o) = true ↔
      (f.includeNumeric = true → numericMatch d o = true) := by
    cases f.includeNumeric <;> simp
  have hcommon : f.common d o = true ↔ f.idFilter d = true ∧ activeDemande d = true ∧
      actionMatch d o = true ∧ (f.includeNumeric = true → numericMatch d o = true) ∧
      f.offerFilter o = true ∧ typeMatch d o = true := by
    simp only [MatchFilter.common, Bool.and_eq_true, hnumeric, and_assoc]
  have hcompatible : compatible db d o = true ↔ activeDemande d = true ∧ clientOk db d = true ∧
      offerOk db d o = true ∧ placeMatch db d o = true ∧ actionMatch d o = true ∧
      typeMatch d o = true := by
    simp only [compatible, Bool.and_eq_true, and_assoc]
  rw [rawPairs, mem_append, mem_junctionBranch, mem_wilayaBranch, hcommon, hcompatible]
  constructor
  · rintro (⟨hd, ho, hclient, hoffer, hplace, hid, hdemande, haction, hnum, hfilter, htype⟩ |
      ⟨hd, ho, hclient, hoffer, hplace, hid, hdemande, haction, hnum, hfilter, htype⟩)
    · refine ⟨hd, ho, ⟨hdemande, hclient, hoffer, ?_, haction, htype⟩, hid, hfilter, hnum⟩
      rw [placeMatch, hplace, Bool.true_or]
    · refine ⟨hd, ho, ⟨hdemande, hclient, hoffer, ?_, haction, htype⟩, hid, hfilter, hnum⟩
      rw [placeMatch, hplace, Bool.or_true]
  · rintro ⟨hd, ho, ⟨hdemande, hclient, hoffer, hplace, haction, htype⟩, hid, hfilter, hnum⟩
    rw [placeMatch, Bool.or_eq_true] at hplace
    rcases hplace with hplace | hplace
    · exact .inl ⟨hd, ho, hclient, hoffer, hplace, hid, hdemande, haction, hnum, hfilter, htype⟩
    · exact .inr ⟨hd, ho, hclient, hoffer, hplace, hid, hdemande, haction, hnum, hfilter, htype⟩

lemma mem_matchedPairs {α : Type} [DecidableEq α]
    {select : Row DemandeColumns → Row OfferColumns → α} {x : α} :
    x ∈ matchedPairs select f db ↔ ∃ d ∈ db.demandes.rows, ∃ o ∈ db.offers.rows,
      compatible db d o = true ∧ f.idFilter d = true ∧ f.offerFilter o = true ∧
      (f.includeNumeric = true → numericMatch d o = true) ∧ select d o = x := by
  rw [matchedPairs, mem_dedup, mem_map]
  constructor
  · rintro ⟨⟨d, o⟩, hmem, hx⟩
    obtain ⟨hd, ho, hcompatible, hid, hoffer, hnumeric⟩ := mem_rawPairs.mp hmem
    exact ⟨d, hd, o, ho, hcompatible, hid, hoffer, hnumeric, hx⟩
  · rintro ⟨d, hd, o, ho, hcompatible, hid, hoffer, hnumeric, hx⟩
    exact ⟨(d, o), mem_rawPairs.mpr ⟨hd, ho, hcompatible, hid, hoffer, hnumeric⟩, hx⟩

end ImmoApp.Matching
