import ImmoApp.Foundation.ReadThrough
import ImmoApp.Matching.Details

/-!
# Reading matches

The match service reads the matches of a demande or of all demandes of a client.  A read that finds none, while the
demande has candidates, rebuilds its pairs in the same transaction, as many as the request's limit, and reads again.

What the reads return depends on the tables only through `shown`, the active pairs of each demande.  `run_spec` says
what a call does to this view (it is `ReadThrough.fetchAll`) and that the answer is read off the view which the
call leaves.
-/

namespace ImmoApp.Matching

open Crm List Option

/-! ### The service -/

/-- `MatchResult`, without the text that describes the demande. -/
structure MatchResult where
  demandeId : ℕ
  matchList : List OfferMatch
  totalCount : ℕ

structure ClientMatchResult where
  clientId : ℕ
  totalUniqueOffers : ℕ
  demandeResults : List MatchResult

namespace MatchService

section Functions

variable (sql : SqlArithmetic) (access : Access) (cacheOnly : Bool) (db : Db) (candidates : Candidates)

def rebuildPairsForDemandeFromCandidatesSql (demandeId : ℕ) (limit : Option ℤ) (pairs : Pairs) :
    Option (Pairs × ℕ × ℕ) :=
  -- only positive ids are kept
  if demandeId = 0 then some (pairs, 0, 0)
  else do
    let (pairs, _, _, perDemande) ←
      rebuildPairsForDemandesFromCandidatesSql sql access db [demandeId] limit candidates pairs
    return (pairs, (perDemande.get? demandeId).getD (0, 0))

def needsPairRebuild (demandeId : ℕ) (pairs : Pairs) : Bool :=
  (candidates.entries.any fun e => e.1.1 == demandeId) &&
    (joinedOffers db demandeId (fun columns _ => columns.score) pairs).isEmpty

/-- `_hydrate_pairs_inline_on_cache_miss`: an error takes the tables back to `start`, where the transaction
began. -/
def hydratePairsInlineOnCacheMiss (demandeId : ℕ) (limit : ℤ) (start pairs : Pairs) : Pairs × Bool :=
  if cacheOnly = false then (pairs, false)
  else if needsPairRebuild db candidates demandeId pairs = false then (pairs, false)
  else
    match rebuildPairsForDemandeFromCandidatesSql sql access db candidates demandeId (some limit) pairs with
    | some (pairs, stored, _) => (pairs, decide (0 < stored))
    | none => (start, false)

/-- What `get_matches_for_demande` and `get_matches_for_client` do with a demande. -/
def readDemande (demandeId : ℕ) (limit offset : ℤ) (threshold : ℚ) (start pairs : Pairs) :
    Option (MatchDetails × Pairs) := do
  let found ← MatchDetails.getMatchesForDemande db pairs demandeId limit offset threshold
  if offset = 0 ∧ found.totalCount = 0 then
    let (pairs, rebuiltInline) :=
      hydratePairsInlineOnCacheMiss sql access cacheOnly db candidates demandeId limit start pairs
    if rebuiltInline then
      let found ← MatchDetails.getMatchesForDemande db pairs demandeId limit offset threshold
      return (found, pairs)
    else return (found, pairs)
  else return (found, pairs)

def getDemandeById (demandeId : ℕ) : Option (Row DemandeColumns) :=
  db.demandes.rows.find? fun d => d.id == demandeId && d.live

def getDemandesForClient (clientId : ℕ) : List (Row DemandeColumns) :=
  (db.demandes.rows.filter fun d => d.columns.clientId == clientId && d.live).insertionSort fun d d' => d.id ≤ d'.id

def matchResult (demandeId : ℕ) (found : MatchDetails) : MatchResult :=
  ⟨demandeId, found.matchList, found.totalCount⟩

def getMatchesForDemande (demandeId : ℕ) (limit offset : ℤ) (threshold : ℚ) (pairs : Pairs) :
    Option (Option MatchResult × Pairs) :=
  match getDemandeById db demandeId with
  | none => some (none, pairs)
  | some d => do
    let (found, pairs) ← readDemande sql access cacheOnly db candidates d.id limit offset threshold pairs pairs
    return (some (matchResult d.id found), pairs)

/-- The loop of `get_matches_for_client` over the demandes. -/
def readDemandes (limitPerDemande : ℤ) (threshold : ℚ) (start : Pairs) :
    List (Row DemandeColumns) → Pairs → Option (List (ℕ × MatchDetails) × Pairs)
  | [], pairs => some ([], pairs)
  | d :: ds, pairs => do
    let (found, pairs) ← readDemande sql access cacheOnly db candidates d.id limitPerDemande 0 threshold start pairs
    let (rest, pairs) ← readDemandes limitPerDemande threshold start ds pairs
    return ((d.id, found) :: rest, pairs)

def clientActive (clientId : ℕ) : Bool :=
  match db.clients.rows.find? fun c => c.id == clientId && c.live with
  | none => false
  | some c => c.columns.status == .active

/-- What `get_matches_for_client` makes of the demandes it has read. -/
def clientResult (clientId : ℕ) (threshold : ℚ) (read : List (ℕ × MatchDetails)) : ClientMatchResult where
  clientId := clientId
  totalUniqueOffers :=
    if 0 < threshold then (read.flatMap fun r => r.2.offerIds).dedup.length
    else ((countClientsForIds db candidates [clientId]).get? clientId).getD 0
  demandeResults := (read.map fun r => matchResult r.1 r.2).insertionSort fun r r' => r'.totalCount ≤ r.totalCount

def getMatchesForClient (clientId : ℕ) (limitPerDemande : ℤ) (threshold : ℚ) (pairs : Pairs) :
    Option (ClientMatchResult × Pairs) :=
  if clientActive db clientId = false then some (⟨clientId, 0, []⟩, pairs)
  else do
    let (read, pairs) ← readDemandes sql access cacheOnly db candidates limitPerDemande threshold pairs
      (getDemandesForClient db clientId) pairs
    return (clientResult db candidates clientId threshold read, pairs)

end Functions

inductive ReadRequest where
  | demande (demandeId : ℕ) (offset : ℤ) (threshold : ℚ)
  | client (clientId : ℕ) (threshold : ℚ)

structure ReadCall where
  request : ReadRequest
  limit : ℤ

inductive ReadAnswer where
  | demande (result : Option MatchResult)
  | client (result : ClientMatchResult)

section Calls

variable (sql : SqlArithmetic) (access : Access) (cacheOnly : Bool) (db : Db) (candidates : Candidates)

def ReadCall.run (call : ReadCall) (pairs : Pairs) : Option ReadAnswer × Pairs :=
  match call.request with
  | .demande demandeId offset threshold =>
    match getMatchesForDemande sql access cacheOnly db candidates demandeId call.limit offset threshold pairs with
    | some (result, pairs) => (some (.demande result), pairs)
    | none => (none, pairs)
  | .client clientId threshold =>
    match getMatchesForClient sql access cacheOnly db candidates clientId call.limit threshold pairs with
    | some (result, pairs) => (some (.client result), pairs)
    | none => (none, pairs)

/-- The demandes that a request reads from their first match on. -/
def ReadRequest.keys : ReadRequest → List ℕ
  | .demande demandeId offset _ =>
    if offset = 0 then ((getDemandeById db demandeId).map Row.id).toList else []
  | .client clientId _ =>
    if clientActive db clientId = false then [] else (getDemandesForClient db clientId).map Row.id

end Calls

section View

variable (sql : SqlArithmetic) (cacheOnly : Bool) (db : Db) (candidates : Candidates)

/-- The active candidates of a demande, best first. -/
def candidateRanking (demandeId : ℕ) : List OfferMatch :=
  match db.demandes.find? demandeId with
  | none => []
  | some d => sortedOffers db demandeId (fun _ o => score sql db d o) candidates

def stores (limit : ℤ) (demandeId : ℕ) : List OfferMatch :=
  (candidateRanking sql db candidates demandeId).take limit.toNat

/-- A read finds nothing, and the service rebuilds on a miss. -/
def Missing (found : List OfferMatch) : Prop := cacheOnly = true ∧ found = []

instance : DecidablePred (Missing cacheOnly) := fun found =>
  inferInstanceAs (Decidable (cacheOnly = true ∧ found = []))

def pageOf (limit offset : ℤ) (threshold : ℚ) (found : List OfferMatch) : MatchDetails :=
  if 0 < threshold then ⟨[], 0, []⟩ else ⟨(found.drop offset.toNat).take limit.toNat, found.length, []⟩

def Refused (limit offset : ℤ) (threshold : ℚ) : Prop := threshold ≤ 0 ∧ (limit < 0 ∨ offset < 0)

instance (limit offset : ℤ) (threshold : ℚ) : Decidable (Refused limit offset threshold) :=
  inferInstanceAs (Decidable (threshold ≤ 0 ∧ (limit < 0 ∨ offset < 0)))

/-- What a call returns, read off the view it leaves. -/
def ReadCall.answer (call : ReadCall) (view : ℕ → List OfferMatch) : Option ReadAnswer :=
  match call.request with
  | .demande demandeId offset threshold =>
    match getDemandeById db demandeId with
    | none => some (.demande none)
    | some d =>
      if Refused call.limit offset threshold then none
      else some (.demande (some (matchResult d.id (pageOf call.limit offset threshold (view d.id)))))
  | .client clientId threshold =>
    if clientActive db clientId = false then some (.client ⟨clientId, 0, []⟩)
    else if Refused call.limit 0 threshold ∧ getDemandesForClient db clientId ≠ [] then none
    else some (.client (clientResult db candidates clientId threshold
      ((getDemandesForClient db clientId).map fun d => (d.id, pageOf call.limit 0 threshold (view d.id)))))

end View

/-! ### Rebuilding one demande -/

section Rebuild

variable {sql : SqlArithmetic} {access : Access} {db : Db} {candidates : Candidates}

variable {d : Row DemandeColumns}

lemma candidateRanking_eq (hd : d ∈ db.demandes.rows) :
    candidateRanking sql db candidates d.id = sortedOffers db d.id (fun _ o => score sql db d o) candidates := by
  rw [candidateRanking, Table.find?_eq_some_iff.mpr ⟨hd, rfl⟩]

lemma legacyScored_eq (hd : d ∈ db.demandes.rows) : legacyScored sql db candidates [d.id] =
      (joinedOffers db d.id (fun _ o => score sql db d o) candidates).map (OfferMatch.scored d.id) := by
  have hdemande : db.demandes.rows.filter (fun d' => d'.id == d.id) = [d] :=
    Table.filter_id_eq hd fun r _ => by simp
  have hasked : (candidates.entries.filter fun mc => decide (mc.1.1 ∈ [d.id])) =
      candidates.entries.filter fun mc => mc.1.1 == d.id := by
    refine List.filter_congr fun mc _ => ?_
    rw [Bool.beq_eq_decide_eq, decide_eq_decide, List.mem_singleton]
  rw [legacyScored, hasked, joinedOffers, List.map_flatMap]
  refine List.flatMap_congr fun mc hmc => ?_
  have hid : mc.1.1 = d.id := by simpa using (List.mem_filter.mp hmc).2
  rw [hid, hdemande, List.flatMap_singleton, List.map_map, activeOfferJoin, List.map_flatMap]
  refine List.flatMap_congr fun o ho => ?_
  have hoffer : o.id = mc.1.2 := by
    have hsel := (List.mem_filter.mp ho).2
    rw [Bool.and_eq_true, beq_iff_eq] at hsel
    exact hsel.1
  rw [List.map_map]
  refine List.map_congr_left fun l _ => ?_
  simp [OfferMatch.scored, hoffer]

lemma rowNumber_joinedOffers {demandeId : ℕ} (rows : List OfferMatch) :
    rowNumber Scored.demandeId Scored.before (rows.map (OfferMatch.scored demandeId)) =
      ((rows.insertionSort OfferMatch.before).zipIdx 1).map fun x => (x.1.scored demandeId, x.2) := by
  have hmap : rowNumber Scored.demandeId Scored.before (rows.map (OfferMatch.scored demandeId)) =
      (rowNumber (fun _ => demandeId) OfferMatch.before rows).map fun x => (x.1.scored demandeId, x.2) :=
    rowNumber_map (OfferMatch.scored demandeId) (fun _ => rfl) (fun _ _ => Iff.rfl) rows
  rw [hmap]
  cases rows with
  | nil => rfl
  | cons m rows =>
    have hkeys : ((m :: rows).map fun _ => demandeId).dedup = [demandeId] := by
      rw [map_const', length_cons, replicate_dedup (Nat.succ_ne_zero _)]
    rw [rowNumber, hkeys, flatMap_singleton, partitionSorted]
    simp

lemma filter_zipIdx {α : Type} (l : List α) (limit : ℤ) {first : ℕ} (hfirst : 1 ≤ first) :
    (l.zipIdx first).filter (fun x => withinLimit (some limit) x.2) =
      (l.take (limit.toNat + 1 - first)).zipIdx first := by
  induction l generalizing first with
  | nil => simp
  | cons a l ih =>
    rw [zipIdx_cons, filter_cons, ih (by omega)]
    by_cases hwithin : (first : ℤ) ≤ limit
    · have htake : limit.toNat + 1 - first = limit.toNat + 1 - (first + 1) + 1 := by omega
      rw [if_pos (by simpa [withinLimit] using hwithin), htake, take_succ_cons, zipIdx_cons]
    · have htake : limit.toNat + 1 - first = 0 := by omega
      have htake' : limit.toNat + 1 - (first + 1) = 0 := by omega
      rw [if_neg (by simpa [withinLimit] using hwithin), htake, htake']
      rfl

def insertedRow (d : Row DemandeColumns) (x : OfferMatch × ℕ) : (ℕ × ℕ) × PairColumns :=
  ((d.id, x.1.offer.id), ⟨d.columns.agencyId, Shadow.null, x.1.score, x.2⟩)

lemma inserted_eq (hd : d ∈ db.demandes.rows) (ranking : List OfferMatch) (limit : ℤ) :
    (((ranking.zipIdx 1).map fun x => (x.1.scored d.id, x.2)).flatMap fun x =>
      (db.demandes.rows.filter fun d' => d'.id == x.1.demandeId).flatMap fun d' =>
        if withinLimit (some limit) x.2 then
          [((x.1.demandeId, x.1.offerId), (⟨d'.columns.agencyId, Shadow.null, x.1.score, x.2⟩ : PairColumns))]
        else []) = ((ranking.take limit.toNat).zipIdx 1).map (insertedRow d) := by
  have hdemande : db.demandes.rows.filter (fun d' => d'.id == d.id) = [d] :=
    Table.filter_id_eq hd fun r _ => by simp
  have hfilter := filter_zipIdx ranking limit le_rfl
  rw [Nat.add_sub_cancel] at hfilter
  rw [← hfilter, ← flatMap_if_singleton, flatMap_map]
  refine flatMap_congr fun x _ => ?_
  have hid : (x.1.scored d.id).demandeId = d.id := rfl
  simp only [hid, hdemande, flatMap_singleton]
  rfl

lemma nodup_insertedKeys {ranking : List OfferMatch} (hids : (ranking.map fun m => m.offer.id).Nodup) :
    (((ranking.zipIdx 1).map (insertedRow d)).map Prod.fst).Nodup := by
  have hmap : ((ranking.zipIdx 1).map (insertedRow d)).map Prod.fst =
      (ranking.map fun m => m.offer.id).map fun id => (d.id, id) := by
    conv_rhs => rw [← zipIdx_map_fst 1 ranking, List.map_map, List.map_map]
    rw [List.map_map]
    rfl
  rw [hmap]
  exact hids.map fun _ _ heq => congrArg Prod.snd heq

lemma shown_of_inserted {ranking : List OfferMatch} {pairs : Pairs}
    (hranking : ranking.Nodup) (hsorted : ranking.Pairwise OfferMatch.before)
    (hactive : ∀ m ∈ ranking, m.offer ∈ activeOfferJoin db m.offer.id)
    (hids : (ranking.map fun m => m.offer.id).Nodup)
    (hget : ∀ offerId, (pairs.get? (d.id, offerId)).map PairColumns.score =
      (Dict.get? ((ranking.zipIdx 1).map (insertedRow d)) (d.id, offerId)).map PairColumns.score) :
    shown db pairs d.id = ranking := by
  have hkeys := nodup_insertedKeys (d := d) hids
  refine sortedOffers_eq hranking hsorted fun m => ?_
  rw [mem_joined_pairs, hget]
  constructor
  · intro hm
    have hnumbered : m ∈ (ranking.zipIdx 1).map Prod.fst := by
      rw [zipIdx_map_fst]
      exact hm
    obtain ⟨x, hx, rfl⟩ := mem_map.mp hnumbered
    have hrow : Dict.get? ((ranking.zipIdx 1).map (insertedRow d)) (d.id, x.1.offer.id) = some (insertedRow d x).2 :=
      Dict.get?_of_mem hkeys (mem_map_of_mem hx)
    rw [hrow]
    exact ⟨hactive x.1 hm, rfl⟩
  · rintro ⟨ho, hscore⟩
    obtain ⟨v, hv, hscore⟩ := map_eq_some_iff.mp hscore
    obtain ⟨x, hx, hrow⟩ := mem_map.mp (Dict.mem_of_get? hv)
    have hmem : x.1 ∈ ranking := fst_mem_of_mem_zipIdx hx
    have hid : x.1.offer.id = m.offer.id := congrArg (fun row => row.1.2) hrow
    have hrowScore : x.1.score = v.score := congrArg (fun row => row.2.score) hrow
    rw [activeOfferJoin_eq (hid ▸ hactive x.1 hmem), mem_singleton] at ho
    have hm : m = x.1 := by
      cases m
      simp only at ho hscore
      rw [ho, ← hscore, ← hrowScore]
    exact hm ▸ hmem

lemma score_backfilled (visible : List ℕ) (pairs : Pairs) (k : ℕ × ℕ) : ((if visible = [] then pairs
      else updateVisibilityCache access (fun s columns => { columns with shadow := s }) db visible pairs).get?
        k).map PairColumns.score = (pairs.get? k).map PairColumns.score := by
  rw [get?_updateVisibilityCache, Option.map_map]
  congr 1
  funext columns
  exact (apply_ite PairColumns.score _ _ _).trans (ite_self _)

variable (sql access candidates) in
/-- The rebuild of one demande succeeds: the demande shows the best of its candidates, the others what they
did. -/
lemma rebuildPairs_shown (hd : d ∈ db.demandes.rows) (limit : ℤ) (pairs : Pairs) :
    ∃ pairs' ranked, rebuildPairsForDemandeFromCandidatesSql sql access db candidates d.id (some limit) pairs =
        some (pairs', (stores sql db candidates limit d.id).length, ranked) ∧
      ∀ id, shown db pairs' id = if id = d.id then stores sql db candidates limit d.id else shown db pairs id := by
  set best := stores sql db candidates limit d.id with hbest
  have hstores : best = (sortedOffers db d.id (fun _ o => score sql db d o) candidates).take limit.toNat := by
    rw [hbest, stores, candidateRanking_eq hd]
  have hsub : best.Sublist (sortedOffers db d.id (fun _ o => score sql db d o) candidates) :=
    hstores ▸ List.take_sublist _ _
  have hmatch : ∀ m ∈ best, m ∈ joinedOffers db d.id (fun _ o => score sql db d o) candidates :=
    fun m hm => mem_sortedOffers.mp (hsub.subset hm)
  have hids : (best.map fun m => m.offer.id).Nodup :=
    (nodup_sortedOffers.sublist hsub).map_on fun m hm m' hm' heq =>
      eq_of_mem_joinedOffers (hmatch m hm) (hmatch m' hm') heq
  -- the statement ranks the active candidates and stores the first of them
  have hranked : rowNumber Scored.demandeId Scored.before (legacyScored sql db candidates [d.id]) =
      ((sortedOffers db d.id (fun _ o => score sql db d o) candidates).zipIdx 1).map
        fun x => (x.1.scored d.id, x.2) := by
    rw [legacyScored_eq hd]
    exact rowNumber_joinedOffers _
  have hin : ∀ e ∈ (best.zipIdx 1).map (insertedRow d), e.1.1 = d.id := by
    intro e he
    obtain ⟨x, -, rfl⟩ := List.mem_map.mp he
    rfl
  have hfrom : ∀ e ∈ (best.zipIdx 1).map (insertedRow d),
      ∃ x ∈ ((sortedOffers db d.id (fun _ o => score sql db d o) candidates).zipIdx 1).map
        fun x => (x.1.scored d.id, x.2), x.1.demandeId = e.1.1 := by
    intro e he
    obtain ⟨x, hx, rfl⟩ := List.mem_map.mp he
    have hx' : x.1 ∈ ((sortedOffers db d.id (fun _ o => score sql db d o) candidates).zipIdx 1).map Prod.fst := by
      rw [List.zipIdx_map_fst]
      exact hsub.subset (List.fst_mem_of_mem_zipIdx hx)
    obtain ⟨y, hy, -⟩ := List.mem_map.mp hx'
    exact ⟨_, List.mem_map_of_mem hy, rfl⟩
  obtain ⟨t, ht, hget⟩ := Keyed.upsertAll?_of_fresh
    (fun old new => { old with agencyId := new.agencyId, score := new.score, rank := new.rank })
    (nodup_insertedKeys (d := d) hids) fun e he => get?_cleared pairs (List.mem_singleton.mpr (hin e he))
  have hstored : ((best.zipIdx 1).map (insertedRow d)).countP (fun e => e.1.1 = d.id) = best.length := by
    rw [List.countP_eq_length.mpr fun e he => by simpa using hin e he, List.length_map, List.length_zipIdx]
  have hcount : (Dict.get? (dictOf [d.id] (0, 0) (legacyRows _ _)) d.id).getD (0, 0) = (_, _) :=
    get?_legacyRows hfrom d.id
  rw [hstored] at hcount
  rw [rebuildPairsForDemandeFromCandidatesSql, if_neg (db.demandes.positive d hd).ne',
    rebuildPairsForDemandesFromCandidatesSql, hranked]
  simp only [inserted_eq hd, ← hstores, ht, Option.bind_eq_bind, Option.bind_some, Option.pure_def, hcount]
  refine ⟨_, _, rfl, fun id => ?_⟩
  have hreplaced := get?_replaced (fun e he => List.mem_singleton.mpr (hin e he)) hget
  by_cases hid : id = d.id
  · rw [if_pos hid, hid]
    refine shown_of_inserted (nodup_sortedOffers.sublist hsub) (pairwise_sortedOffers.sublist hsub)
      (fun m hm => (mem_joinedOffers.mp (hmatch m hm)).1) hids fun offerId => ?_
    rw [score_backfilled, hreplaced, if_pos (List.mem_singleton.mpr rfl)]
  · rw [if_neg hid]
    refine shown_congr fun offerId => ?_
    rw [score_backfilled, hreplaced, if_neg fun h => hid (List.mem_singleton.mp h)]

end Rebuild

/-! ### What a call does to the view -/

section Effect

variable {sql : SqlArithmetic} {access : Access} {cacheOnly : Bool} {db : Db} {candidates : Candidates}

variable {pairs : Pairs} {demandeId : ℕ} {limit offset : ℤ} {threshold : ℚ} {d : Row DemandeColumns}

lemma getMatches_eq : MatchDetails.getMatchesForDemande db pairs demandeId limit offset threshold =
      if Refused limit offset threshold then none
      else some (pageOf limit offset threshold (shown db pairs demandeId)) := by
  by_cases ht : 0 < threshold
  · have hread : ¬Refused limit offset threshold := fun h => absurd ht (not_lt.mpr h.1)
    rw [if_neg hread, pageOf, if_pos ht, getMatches_of_threshold ht]
  · by_cases hrefused : limit < 0 ∨ offset < 0
    · rw [if_pos ⟨not_lt.mp ht, hrefused⟩, getMatches_refused (not_lt.mp ht) hrefused]
    · rw [if_neg fun h => hrefused h.2, pageOf, if_neg ht,
        getMatches_unfiltered (not_lt.mp ht) (by omega) (by omega)]

lemma candidateRanking_of_none (h : ∀ e ∈ candidates.entries, e.1.1 ≠ demandeId) :
    candidateRanking sql db candidates demandeId = [] := by
  unfold candidateRanking
  split
  · rfl
  · have hnone : candidates.entries.filter (fun e => e.1.1 == demandeId) = [] :=
      filter_eq_nil_iff.mpr fun e he => by simpa using h e he
    rw [sortedOffers, joinedOffers, hnone]
    rfl

lemma shown_eq_nil_iff :
    shown db pairs demandeId = [] ↔ joinedOffers db demandeId (fun columns _ => columns.score) pairs = [] := by
  rw [← length_eq_zero_iff, ← length_eq_zero_iff, ← countPairsForDemande_eq]
  rfl

lemma fetch_of_not_needed (h : needsPairRebuild db candidates demandeId pairs = false) :
    ReadThrough.fetch (Missing cacheOnly) (stores sql db candidates) limit (shown db pairs) demandeId =
      shown db pairs := by
  refine ReadThrough.fetch_eq_self fun hmissing => ?_
  rw [needsPairRebuild, shown_eq_nil_iff.mp hmissing.2, List.isEmpty_nil, Bool.and_true, List.any_eq_false] at h
  rw [stores, candidateRanking_of_none fun e he => by simpa using h e he, List.take_nil, hmissing.2]

variable (sql access cacheOnly candidates) in
/-- A read that misses is filled in with the best candidates; where it reports that nothing was rebuilt, the
view is as before. -/
lemma hydrate_spec (hd : d ∈ db.demandes.rows) (limit : ℤ) (start pairs : Pairs) : ∃ pairs' rebuilt,
      hydratePairsInlineOnCacheMiss sql access cacheOnly db candidates d.id limit start pairs = (pairs', rebuilt) ∧
      shown db pairs' = ReadThrough.fetch (Missing cacheOnly) (stores sql db candidates) limit (shown db pairs) d.id ∧
      (rebuilt = false → shown db pairs' = shown db pairs) := by
  unfold hydratePairsInlineOnCacheMiss
  by_cases hoff : cacheOnly = false
  · refine ⟨pairs, false, if_pos hoff, ?_, fun _ => rfl⟩
    rw [ReadThrough.fetch_of_present fun h => absurd h.1 (by simp [hoff])]
  rw [if_neg hoff]
  cases hneeded : needsPairRebuild db candidates d.id pairs with
  | false => exact ⟨pairs, false, rfl, (fetch_of_not_needed hneeded).symm, fun _ => rfl⟩
  | true =>
    obtain ⟨pairs', _, hrebuild, hshown⟩ :=
      rebuildPairs_shown sql access candidates hd limit pairs
    have hempty : shown db pairs d.id = [] := by
      rw [needsPairRebuild, Bool.and_eq_true, List.isEmpty_iff] at hneeded
      exact shown_eq_nil_iff.mpr hneeded.2
    have hmissing : Missing cacheOnly (shown db pairs d.id) := ⟨by simpa using hoff, hempty⟩
    have hview : shown db pairs' = Function.update (shown db pairs) d.id (stores sql db candidates limit d.id) := by
      funext id
      rw [hshown, Function.update_apply]
    rw [if_neg (by simp), hrebuild]
    refine ⟨pairs', _, rfl, ?_, fun hnothing => ?_⟩
    · rw [ReadThrough.fetch_of_missing hmissing, hview]
    · have hstores : stores sql db candidates limit d.id = [] := by
        rw [← length_eq_zero_iff]
        simpa using hnothing
      rw [hview, hstores, ← hempty, Function.update_eq_self]

variable (sql access cacheOnly candidates) in
lemma readDemande_spec (hd : d ∈ db.demandes.rows) (hread : ¬Refused limit offset threshold) (start pairs : Pairs) :
    ∃ pairs', readDemande sql access cacheOnly db candidates d.id limit offset threshold start pairs =
        some (pageOf limit offset threshold (shown db pairs' d.id), pairs') ∧
      shown db pairs' = if offset = 0 then
        ReadThrough.fetch (Missing cacheOnly) (stores sql db candidates) limit (shown db pairs) d.id
      else shown db pairs := by
  obtain ⟨pairs', rebuilt, hhydrate, hview, hsame⟩ :=
    hydrate_spec sql access cacheOnly candidates hd limit start pairs
  rw [readDemande, getMatches_eq, if_neg hread]
  simp only [bind_eq_bind, bind_some, Option.pure_def]
  by_cases hmiss : offset = 0 ∧ (pageOf limit offset threshold (shown db pairs d.id)).totalCount = 0
  · rw [if_pos hmiss, hhydrate]
    cases rebuilt with
    | false =>
      refine ⟨pairs', ?_, by rw [if_pos hmiss.1, hview]⟩
      rw [hsame rfl]
      rfl
    | true =>
      refine ⟨pairs', ?_, by rw [if_pos hmiss.1, hview]⟩
      rw [getMatches_eq, if_neg hread]
      rfl
  · rw [if_neg hmiss]
    refine ⟨pairs, rfl, ?_⟩
    by_cases hfirst : offset = 0
    · -- something is shown, so that nothing is filled in
      rw [if_pos hfirst, ReadThrough.fetch_of_present]
      rintro ⟨-, hempty⟩
      refine hmiss ⟨hfirst, ?_⟩
      rw [hempty, pageOf]
      split <;> rfl
    · rw [if_neg hfirst]

lemma readDemande_refused (h : Refused limit offset threshold) (start pairs : Pairs) :
    readDemande sql access cacheOnly db candidates demandeId limit offset threshold start pairs = none := by
  rw [readDemande, getMatches_eq, if_pos h]
  rfl

variable (sql access cacheOnly candidates) in
/-- The demandes of a client, one after the other: each page is read off the view that all of them leave. -/
lemma readDemandes_spec (hread : ¬Refused limit 0 threshold) (start : Pairs)
    {ds : List (Row DemandeColumns)} (hds : ∀ d ∈ ds, d ∈ db.demandes.rows) (hnodup : (ds.map Row.id).Nodup)
    (pairs : Pairs) :
    ∃ pairs', readDemandes sql access cacheOnly db candidates limit threshold start ds pairs =
        some (ds.map fun d => (d.id, pageOf limit 0 threshold (shown db pairs' d.id)), pairs') ∧
      shown db pairs' = ReadThrough.fetchAll (Missing cacheOnly) (stores sql db candidates) limit (ds.map Row.id)
          (shown db pairs) := by
  induction ds generalizing pairs with
  | nil => exact ⟨pairs, rfl, rfl⟩
  | cons d _ ih =>
    obtain ⟨hnew, hnodup⟩ := List.nodup_cons.mp hnodup
    obtain ⟨pairs₁, hfirst, hview₁⟩ :=
      readDemande_spec sql access cacheOnly candidates (hds d List.mem_cons_self) hread start pairs
    obtain ⟨pairs₂, hrest, hview₂⟩ := ih (fun d' hd' => hds d' (List.mem_cons_of_mem d hd')) hnodup pairs₁
    have hkept : shown db pairs₂ d.id = shown db pairs₁ d.id := by
      rw [hview₂, ReadThrough.fetchAll_of_not_mem hnew]
    refine ⟨pairs₂, ?_, ?_⟩
    · rw [readDemandes, hfirst]
      simp only [Option.bind_eq_bind, Option.bind_some, hrest, Option.pure_def, List.map_cons, hkept]
    · rw [hview₂, hview₁]
      rfl

lemma getDemandeById_spec (h : getDemandeById db demandeId = some d) :
    d ∈ db.demandes.rows ∧ d.id = demandeId ∧ d.live = true := by
  have hsel := find?_some h
  rw [Bool.and_eq_true, beq_iff_eq] at hsel
  exact ⟨mem_of_find?_eq_some h, hsel⟩

lemma getDemandeById_of_live (hd : d ∈ db.demandes.rows) (hlive : d.live = true) :
    getDemandeById db d.id = some d := by
  cases hfind : getDemandeById db d.id with
  | none =>
    have hnot := find?_eq_none.mp hfind d hd
    simp [hlive] at hnot
  | some =>
    obtain ⟨hd', hid, -⟩ := getDemandeById_spec hfind
    rw [Table.eq_of_id hd' hd hid]

lemma mem_getDemandesForClient {clientId : ℕ} : d ∈ getDemandesForClient db clientId ↔
      d ∈ db.demandes.rows ∧ d.columns.clientId = clientId ∧ d.live = true := by
  rw [getDemandesForClient, mem_insertionSort, mem_filter, Bool.and_eq_true, beq_iff_eq]

lemma nodup_getDemandesForClient (clientId : ℕ) : ((getDemandesForClient db clientId).map Row.id).Nodup :=
  ((perm_insertionSort _ _).map Row.id).nodup_iff.mpr (db.demandes.keyed.sublist (filter_sublist.map Row.id))

lemma live_of_mem_keys {request : ReadRequest} {id : ℕ} (h : id ∈ request.keys db) :
    ∃ d ∈ db.demandes.rows, d.id = id ∧ d.live = true := by
  cases request with
  | demande =>
    rw [ReadRequest.keys] at h
    split at h
    · rw [mem_toList, map_eq_some_iff] at h
      obtain ⟨d, hfind, rfl⟩ := h
      obtain ⟨hd, -, hlive⟩ := getDemandeById_spec hfind
      exact ⟨d, hd, rfl, hlive⟩
    · exact absurd h not_mem_nil
  | client =>
    rw [ReadRequest.keys] at h
    split at h
    · exact absurd h not_mem_nil
    · obtain ⟨d, hd, rfl⟩ := mem_map.mp h
      obtain ⟨hd, -, hlive⟩ := mem_getDemandesForClient.mp hd
      exact ⟨d, hd, rfl, hlive⟩

lemma fetchAll_of_neg (hlimit : limit < 0) (keys : List ℕ) (view : ℕ → List OfferMatch) :
    ReadThrough.fetchAll (Missing cacheOnly) (stores sql db candidates) limit keys view = view := by
  refine ReadThrough.fetchAll_eq_self fun id hmissing => ?_
  rw [stores, Int.toNat_of_nonpos hlimit.le, take_zero, hmissing.2]

variable (sql access cacheOnly db candidates) in
/-- A call fills in the demandes it reads, and its answer is read off the view that it leaves. -/
theorem run_spec (call : ReadCall) (pairs : Pairs) : (call.run sql access cacheOnly db candidates pairs).1 =
        call.answer db candidates (shown db (call.run sql access cacheOnly db candidates pairs).2) ∧
      shown db (call.run sql access cacheOnly db candidates pairs).2 =
        ReadThrough.fetchAll (Missing cacheOnly) (stores sql db candidates) call.limit (call.request.keys db)
          (shown db pairs) := by
  obtain ⟨request, limit⟩ := call
  cases request with
  | demande demandeId offset threshold =>
    simp only [ReadCall.run, ReadCall.answer, ReadRequest.keys, getMatchesForDemande]
    cases hfind : getDemandeById db demandeId with
    | none =>
      simp only [Option.map_none, Option.toList_none, ite_self]
      exact ⟨trivial, rfl⟩
    | some =>
      obtain ⟨hd, -, -⟩ := getDemandeById_spec hfind
      simp only [Option.map_some, Option.toList_some]
      by_cases hrefused : Refused limit offset threshold
      · simp only [readDemande_refused hrefused, if_pos hrefused]
        refine ⟨rfl, ?_⟩
        by_cases hfirst : offset = 0
        · have hlimit : limit < 0 := hrefused.2.resolve_right (by omega)
          rw [fetchAll_of_neg hlimit]
          rfl
        · rw [if_neg hfirst]
          rfl
      · obtain ⟨_, hread, hview⟩ := readDemande_spec sql access cacheOnly candidates hd hrefused pairs pairs
        simp only [hread, if_neg hrefused, Option.bind_eq_bind, Option.bind_some, Option.pure_def]
        refine ⟨trivial, ?_⟩
        rw [hview]
        split <;> rfl
  | client clientId threshold =>
    simp only [ReadCall.run, ReadCall.answer, ReadRequest.keys, getMatchesForClient]
    by_cases hclient : clientActive db clientId = false
    · simp only [if_pos hclient]
      exact ⟨trivial, rfl⟩
    · simp only [if_neg hclient]
      by_cases hrefused : Refused limit 0 threshold
      · have hlimit : limit < 0 := hrefused.2.resolve_right (by omega)
        rw [fetchAll_of_neg hlimit]
        cases hds : getDemandesForClient db clientId with
        | nil => simp [readDemandes]
        | cons =>
          simp only [readDemandes, readDemande_refused hrefused, hrefused]
          simp
      · have hds : ∀ d ∈ getDemandesForClient db clientId, d ∈ db.demandes.rows :=
          fun d hd => (mem_getDemandesForClient.mp hd).1
        have hsome : ¬(Refused limit 0 threshold ∧ getDemandesForClient db clientId ≠ []) := fun h => hrefused h.1
        obtain ⟨_, hread, hview⟩ := readDemandes_spec sql access cacheOnly candidates hrefused pairs hds
          (nodup_getDemandesForClient clientId) pairs
        simp only [hread, if_neg hsome, Option.bind_eq_bind, Option.bind_some, Option.pure_def]
        exact ⟨trivial, hview⟩

end Effect

end MatchService

end ImmoApp.Matching
