import ImmoApp.Foundation.Keyed
import ImmoApp.Matching.Query
import Mathlib.Algebra.Order.Ring.Rat
import Mathlib.Algebra.Order.BigOperators.Group.List

/-!
# Candidates and ranked pairs

`match_candidates` holds every matching offer of a demande and `match_pairs` the best of them with score and rank.
`compute_match_artifacts_for_demandes` replaces both: the direct pipeline with one statement; the legacy pipeline
upserts candidates, reads them back to rank them, upserts the pairs and fills in the visibility afterwards.

The rounding to a double and its decimal digits are parameters.  A statement that a constraint refuses gives `none`.
-/

namespace ImmoApp.Matching

open Crm

/-! ### Scores -/

structure SqlArithmetic where
  lower : String → String
  toDouble : ℚ → ℚ
  /-- `::numeric` of a double: the number its significant digits spell. -/
  toNumeric : ℚ → ℚ

def btrim (s : String) : String := String.ofList (trimBy (fun c => c == ' ') s.toList)

/-- `ROUND(·, 2)` of a numeric: to the nearest hundredth, ties away from zero. -/
def roundHundredths (q : ℚ) : ℚ :=
  if 0 ≤ q then ((q * 100 + 1 / 2).floor : ℚ) / 100 else -((-q * 100 + 1 / 2).floor : ℚ) / 100

section Score

variable (sql : SqlArithmetic) (db : Db) (d : Row DemandeColumns) (o : Row OfferColumns)

def typeScore : ℚ :=
  let asked := btrim (sql.lower d.columns.type)
  let offered := btrim (sql.lower o.columns.type)
  if asked = "" ∨ offered = "" ∨ asked = offered then 2 else 0

def placeScore : ℚ :=
  if hasLocations db d then (if locationJoin db d.id o.id then 2 else 0) else 1

def budgetScore : ℚ :=
  let budgetMax := sql.toDouble d.columns.budgetMax
  if 0 < d.columns.budgetMax ∧ (o.columns.budget : ℚ) ≤ d.columns.budgetMax then
    -- `LEAST` ignores the `NULL` that `NULLIF` puts in the place of a zero divisor
    if budgetMax = 0 then 2
    else
      let share := sql.toDouble (sql.toDouble o.columns.budget / budgetMax)
      min 2 (sql.toDouble (sql.toDouble (1 - share) * 4))
  else 0

def surfaceScore : ℚ :=
  let surfaceMin := sql.toDouble d.columns.surfaceMin
  if 0 < d.columns.surfaceMin ∧ d.columns.surfaceMin ≤ o.columns.surface then
    let excess := sql.toDouble (sql.toDouble o.columns.surface - surfaceMin)
    min 2 (sql.toDouble (sql.toDouble (excess / max 1 surfaceMin) * 2))
  else 0

def bedsScore : ℚ :=
  if 0 < d.columns.bedsMin ∧ d.columns.bedsMin ≤ o.columns.beds then
    min 1 (sql.toDouble (((o.columns.beds - d.columns.bedsMin : ℤ) : ℚ) * sql.toDouble (3 / 10)))
  else 0

def furnishedScore : ℚ :=
  let asked := btrim (sql.lower d.columns.furnished)
  let offered := btrim (sql.lower o.columns.furnished)
  if asked ≠ "" ∧ asked ≠ "any" ∧ asked = offered then 1 else 0

/-- `SCORE_RAW_SQL`. -/
def scoreRaw : ℚ :=
  let sum := sql.toDouble (typeScore sql d o + placeScore db d o)
  let sum := sql.toDouble (sum + budgetScore sql d o)
  let sum := sql.toDouble (sum + surfaceScore sql d o)
  let sum := sql.toDouble (sum + bedsScore sql d o)
  sql.toDouble (sum + furnishedScore sql d o)

/-- `SCORE_SQL`. -/
def score : ℚ := sql.toDouble (roundHundredths (sql.toNumeric (min (scoreRaw sql db d o) 10)))

end Score

/-! ### The tables -/

structure Shadow where
  demandeVisibility : Option String
  offerVisibility : Option String
  demandeOwnerUserId : Option ℕ
  offerOwnerUserId : Option ℕ
  deriving DecidableEq

def Shadow.null : Shadow := ⟨none, none, none, none⟩

structure Access where
  demandeVisibility : ℕ → Option String
  offerVisibility : ℕ → Option String
  demandeOwnerUserId : ℕ → Option ℕ
  offerOwnerUserId : ℕ → Option ℕ

def Access.shadow (access : Access) (demandeId offerId : ℕ) : Shadow where
  demandeVisibility := access.demandeVisibility demandeId
  offerVisibility := access.offerVisibility offerId
  demandeOwnerUserId := access.demandeOwnerUserId demandeId
  offerOwnerUserId := access.offerOwnerUserId offerId

/-- The columns of `match_candidates` but its key, the demande and the offer. -/
structure CandidateColumns where
  agencyId : ℕ
  shadow : Shadow
  deriving DecidableEq

/-- The columns of `match_pairs` but its key, the demande and the offer. -/
structure PairColumns where
  agencyId : ℕ
  shadow : Shadow
  score : ℚ
  rank : ℕ

/-- The stored matches: rows of a demande and an offer. -/
structure Artifacts where
  candidates : Keyed (ℕ × ℕ) CandidateColumns
  pairs : Keyed (ℕ × ℕ) PairColumns

def Artifacts.Same (t t' : Artifacts) : Prop :=
  t.candidates.Same t'.candidates ∧ t.pairs.Same t'.pairs

structure MatchArtifactCounts where
  candidateTotal : ℕ
  rankedTotal : ℕ
  pairTotal : ℕ

structure MatchArtifactBatchResult where
  candidateTotal : ℕ
  rankedTotal : ℕ
  pairTotal : ℕ
  perDemande : Dict ℕ MatchArtifactCounts

def MatchArtifactBatchResult.Same (r r' : MatchArtifactBatchResult) : Prop :=
  r.candidateTotal = r'.candidateTotal ∧ r.rankedTotal = r'.rankedTotal ∧
    r.pairTotal = r'.pairTotal ∧ ∀ demandeId, r.perDemande.get? demandeId = r'.perDemande.get? demandeId

def MatchArtifactBatchResult.none : MatchArtifactBatchResult := ⟨0, 0, 0, []⟩

/-- A row of `scored`. -/
structure Scored where
  demandeId : ℕ
  offerId : ℕ
  score : ℚ
  deriving DecidableEq

/-- `ORDER BY score DESC, offer_id ASC`. -/
def Scored.before (a b : Scored) : Prop :=
  b.score < a.score ∨ b.score = a.score ∧ a.offerId ≤ b.offerId

instance : DecidableRel Scored.before := fun a b =>
  inferInstanceAs (Decidable (b.score < a.score ∨ b.score = a.score ∧ a.offerId ≤ b.offerId))

/-- `WHERE rn <= limit`, where there is a limit. -/
def withinLimit (limit : Option ℤ) (rn : ℕ) : Bool := limit.all fun n => decide ((rn : ℤ) ≤ n)

/-- `dict` built from zeros for the given keys and the rows of a query. -/
def dictOf {β : Type} (keys : List ℕ) (zero : β) (rows : List (ℕ × β)) : Dict ℕ β :=
  rows.foldl (fun acc row => acc.set row.1 row.2) (keys.dedup.map fun k => (k, zero))

def positiveIds (ids : List ℤ) : List ℕ := (ids.filter fun v => 0 < v).map Int.toNat

variable (sql : SqlArithmetic) (access : Access)

/-- `matched_pairs` of the direct pipeline. -/
def directMatched (db : Db) (ids : List ℕ) : List ((ℕ × ℕ) × CandidateColumns) :=
  matchedPairs (fun d o => ((d.id, o.id), ⟨d.columns.agencyId, access.shadow d.id o.id⟩)) { demandeIds := ids } db

/-- `scored` of the direct pipeline. -/
def directScored (db : Db) (matched : List ((ℕ × ℕ) × CandidateColumns)) : List (Scored × CandidateColumns) :=
  matched.flatMap fun mp => (db.demandes.rows.filter fun d => d.id == mp.1.1).flatMap fun d =>
    (db.offers.rows.filter fun o => o.id == mp.1.2).flatMap fun o =>
      (db.listings.rows.filter fun l => l.id == o.columns.listingId).map fun _ =>
        (⟨mp.1.1, mp.1.2, score sql db d o⟩, mp.2)

/-- `ranked` of the direct pipeline. -/
def directRanked (scored : List (Scored × CandidateColumns)) : List ((Scored × CandidateColumns) × ℕ) :=
  rowNumber (fun x => x.1.demandeId) (fun x y => x.1.before y.1) scored

/-- The row of `match_pairs` made from a ranked row. -/
def directPair (x : (Scored × CandidateColumns) × ℕ) : (ℕ × ℕ) × PairColumns :=
  ((x.1.1.demandeId, x.1.1.offerId), ⟨x.1.2.agencyId, x.1.2.shadow, x.1.1.score, x.2⟩)

def directResult (ids : List ℕ) (matched : List ((ℕ × ℕ) × CandidateColumns))
    (ranked stored : List ((Scored × CandidateColumns) × ℕ)) : MatchArtifactBatchResult :=
  let rows := ids.map fun id => (id, (⟨matched.countP fun mp => mp.1.1 = id,
    ranked.countP fun x => x.1.1.demandeId = id,
    stored.countP fun x => x.1.1.demandeId = id⟩ : MatchArtifactCounts))
  { candidateTotal := (rows.map fun row => row.2.candidateTotal).sum
    rankedTotal := (rows.map fun row => row.2.rankedTotal).sum
    pairTotal := (rows.map fun row => row.2.pairTotal).sum
    perDemande := dictOf ids ⟨0, 0, 0⟩ rows }

def rebuildMatchArtifactsForDemandes (db : Db) (demandeIds : List ℕ) (limit : Option ℤ)
    (t : Artifacts) : Option (Artifacts × MatchArtifactBatchResult) := do
  let ids := sortedSet (fun a b => a ≤ b) (demandeIds.filter fun v => 0 < v)
  if ids = [] then return (t, .none)
  let candidates := t.candidates.delete fun k _ => decide (k.1 ∈ ids)
  let pairs := t.pairs.delete fun k _ => decide (k.1 ∈ ids)
  let matched := directMatched access db ids
  let ranked := directRanked (directScored sql db matched)
  let stored := ranked.filter fun x => withinLimit limit x.2
  let candidates ← candidates.insertAll? matched
  let pairs ← pairs.insertAll? (stored.map directPair)
  return (⟨candidates, pairs⟩, directResult ids matched ranked stored)

/-- `update_visibility_cache` for one table and a list of demandes. -/
def updateVisibilityCache {β : Type} (setShadow : Shadow → β → β) (db : Db) (ids : List ℕ)
    (t : Keyed (ℕ × ℕ) β) : Keyed (ℕ × ℕ) β :=
  t.update (fun k _ => (db.demandes.rows.any fun d => d.id == k.1) &&
      (db.offers.rows.any fun o => o.id == k.2) && decide (k.1 ∈ ids))
    (fun k columns => setShadow (access.shadow k.1 k.2) columns)

def groupCounts (keys : List (ℕ × ℕ)) : List (ℕ × ℕ) :=
  (keys.map Prod.fst).dedup.map fun id => (id, keys.countP fun k => k.1 = id)

def replaceCandidatesForDemandesFromMatchQuery (db : Db) (ids : List ℕ)
    (candidates : Keyed (ℕ × ℕ) CandidateColumns) :
    Option (Keyed (ℕ × ℕ) CandidateColumns × Dict ℕ ℕ) := do
  let candidates := candidates.delete fun k _ => decide (k.1 ∈ ids)
  let matched := matchedPairs (fun d o => ((d.id, o.id), d.columns.agencyId)) { demandeIds := ids } db
  let candidates ← candidates.upsertAll? (fun old new => { old with agencyId := new.agencyId })
    (matched.map fun mp => (mp.1, ⟨mp.2, Shadow.null⟩))
  let counts := dictOf ids 0 (groupCounts (matched.map Prod.fst))
  let visibleIds := (counts.filter fun e => 0 < e.2).map Prod.fst
  let candidates := if visibleIds = [] then candidates
    else updateVisibilityCache access (fun s columns => { columns with shadow := s }) db visibleIds candidates
  return (candidates, counts)

/-- `scored` of the legacy pipeline. -/
def legacyScored (db : Db) (candidates : Keyed (ℕ × ℕ) CandidateColumns) (ids : List ℕ) :
    List Scored :=
  (candidates.entries.filter fun mc => mc.1.1 ∈ ids).flatMap fun mc =>
    (db.demandes.rows.filter fun d => d.id == mc.1.1).flatMap fun d =>
      (db.offers.rows.filter fun o => o.id == mc.1.2 && activeOffer o).flatMap fun o =>
        (db.listings.rows.filter fun l => l.id == o.columns.listingId && activeListing l).map fun _ =>
          ⟨mc.1.1, mc.1.2, score sql db d o⟩

/-- The rows the statement returns: for each ranked demande the numbers of stored and of ranked rows. -/
def legacyRows (ranked : List (Scored × ℕ)) (stored : List ((ℕ × ℕ) × PairColumns)) : List (ℕ × ℕ × ℕ) :=
  (ranked.map fun x => x.1.demandeId).dedup.map fun id =>
    (id, stored.countP fun e => e.1.1 = id, ranked.countP fun x => x.1.demandeId = id)

def rebuildPairsForDemandesFromCandidatesSql (db : Db) (ids : List ℕ) (limit : Option ℤ)
    (candidates : Keyed (ℕ × ℕ) CandidateColumns) (pairs : Keyed (ℕ × ℕ) PairColumns) :
    Option (Keyed (ℕ × ℕ) PairColumns × ℕ × ℕ × Dict ℕ (ℕ × ℕ)) := do
  let pairs := pairs.delete fun k _ => decide (k.1 ∈ ids)
  let ranked := rowNumber Scored.demandeId Scored.before (legacyScored sql db candidates ids)
  let stored := ranked.flatMap fun x => (db.demandes.rows.filter fun d => d.id == x.1.demandeId).flatMap
    fun d => if withinLimit limit x.2 then
      [((x.1.demandeId, x.1.offerId), (⟨d.columns.agencyId, Shadow.null, x.1.score, x.2⟩ : PairColumns))] else []
  let pairs ← pairs.upsertAll?
    (fun old new => { old with agencyId := new.agencyId, score := new.score, rank := new.rank }) stored
  let rows := legacyRows ranked stored
  let visibleIds := (rows.filter fun row => 0 < row.2.1).map Prod.fst
  let pairs := if visibleIds = [] then pairs
    else updateVisibilityCache access (fun s columns => { columns with shadow := s }) db visibleIds pairs
  return (pairs, (rows.map fun row => row.2.1).sum, (rows.map fun row => row.2.2).sum, dictOf ids (0, 0) rows)

/-- `_match_build_pipeline_mode`. -/
inductive PipelineMode where
  | direct
  | legacy

def legacyResult (ids : List ℕ) (candidateCounts : Dict ℕ ℕ) (storedTotal rankedTotal : ℕ)
    (perDemandePairs : Dict ℕ (ℕ × ℕ)) : MatchArtifactBatchResult :=
  let perDemande := ids.dedup.map fun id => (id, (⟨(candidateCounts.get? id).getD 0,
    ((perDemandePairs.get? id).getD (0, 0)).2,
    ((perDemandePairs.get? id).getD (0, 0)).1⟩ : MatchArtifactCounts))
  { candidateTotal := (perDemande.map fun e => e.2.candidateTotal).sum
    rankedTotal := rankedTotal
    pairTotal := storedTotal
    perDemande := perDemande }

def computeMatchArtifactsForDemandes (mode : PipelineMode) (db : Db) (demandeIds : List ℤ)
    (limit : Option ℤ) (t : Artifacts) : Option (Artifacts × MatchArtifactBatchResult) := do
  let ids := positiveIds demandeIds
  if ids = [] then return (t, .none)
  match mode with
  | .direct => rebuildMatchArtifactsForDemandes sql access db ids limit t
  | .legacy =>
    let (candidates, candidateCounts) ←
      replaceCandidatesForDemandesFromMatchQuery access db ids t.candidates
    let (pairs, storedTotal, rankedTotal, perDemandePairs) ←
      rebuildPairsForDemandesFromCandidatesSql sql access db ids limit candidates t.pairs
    return (⟨candidates, pairs⟩, legacyResult ids candidateCounts storedTotal rankedTotal perDemandePairs)

lemma dictOf_map_fst {β : Type} {keys : List ℕ} {zero : β} {rows : List (ℕ × β)}
    (h : ∀ row ∈ rows, row.1 ∈ keys) : (dictOf keys zero rows).map Prod.fst = keys.dedup := by
  have hfold : ∀ base : Dict ℕ β, base.map Prod.fst = keys.dedup →
      (rows.foldl (fun acc row => acc.set row.1 row.2) base).map Prod.fst = keys.dedup := by
    induction rows with
    | nil => exact fun _ hbase => hbase
    | cons row _ ih =>
      intro base hbase
      refine ih (fun r hr => h r (List.mem_cons_of_mem row hr)) _ ?_
      rw [Dict.map_fst_set_of_mem, hbase]
      rw [hbase]
      exact List.mem_dedup.mpr (h row List.mem_cons_self)
  exact hfold _ (by simp [Function.comp_def])

end ImmoApp.Matching
