import ImmoApp.Matching.OfferPairs
import ImmoApp.Matching.Reads

/-!
# What reads of matches return

With a threshold no pairs are read, so the matches that reach it are kept exactly when there are none.

A read of a demande that shows nothing stores as many pairs as its limit asks for, and later reads find these pairs
only.  `independent_iff_blind` says that the reads are independent of earlier limits exactly when the view is blind to
the limits.
-/

namespace ImmoApp.Matching

open Crm List Option

namespace MatchService

/-! ### Thresholds -/

def reaching (threshold : ℚ) (found : List OfferMatch) : List OfferMatch :=
  found.filter fun m => threshold ≤ m.score

def Filters (limit offset : ℤ) (threshold : ℚ) (found page : List OfferMatch) (total : ℕ) : Prop :=
  page = ((reaching threshold found).drop offset.toNat).take limit.toNat ∧ total = (reaching threshold found).length

lemma filters_empty_iff {limit offset : ℤ} {threshold : ℚ} {found : List OfferMatch} :
    Filters limit offset threshold found [] 0 ↔ ∀ m ∈ found, m.score < threshold := by
  have hnone : reaching threshold found = [] ↔ ∀ m ∈ found, m.score < threshold := by
    simp only [reaching, filter_eq_nil_iff, decide_eq_true_eq, not_le]
  rw [← hnone]
  constructor
  · rintro ⟨-, htotal⟩
    exact length_eq_zero_iff.mp htotal.symm
  · intro hempty
    rw [Filters, hempty]
    simp

section Calls

variable (sql : SqlArithmetic) (access : Access) (cacheOnly : Bool) (db : Db) (candidates : Candidates)

/-- What a read of a demande can return: where the service rebuilds on a miss, the pairs after the rebuild. -/
def readable (demandeId : ℕ) (limit offset : ℤ) (pairs : Pairs) : List OfferMatch :=
  if offset = 0 then
    ReadThrough.fetch (Missing cacheOnly) (stores sql db candidates) limit (shown db pairs) demandeId demandeId
  else shown db pairs demandeId

/-- With a threshold both functions return nothing: this is the page of the matches that reach it, and their
number, exactly where no match reaches it. -/
theorem threshold_filters_iff {demandeId : ℕ} {limit offset : ℤ} {threshold : ℚ} (ht : 0 < threshold)
    (pairs : Pairs) :
    (∃ details, MatchDetails.getMatchesForDemande db pairs demandeId limit offset threshold = some details ∧
      (Filters limit offset threshold (shown db pairs demandeId) details.matchList details.totalCount ↔
        ∀ m ∈ shown db pairs demandeId, m.score < threshold)) ∧
    (∀ d, getDemandeById db demandeId = some d → ∃ result pairs',
      getMatchesForDemande sql access cacheOnly db candidates demandeId limit offset threshold pairs =
        some (some result, pairs') ∧
      (Filters limit offset threshold (readable sql cacheOnly db candidates demandeId limit offset pairs)
          result.matchList result.totalCount ↔
        ∀ m ∈ readable sql cacheOnly db candidates demandeId limit offset pairs, m.score < threshold)) := by
  have hread : ¬Refused limit offset threshold := fun h => absurd ht (not_lt.mpr h.1)
  refine ⟨⟨⟨[], 0, []⟩, getMatches_of_threshold ht, filters_empty_iff⟩, fun d hfind => ?_⟩
  obtain ⟨hd, _, -⟩ := getDemandeById_spec hfind
  obtain ⟨pairs', hdemande, -⟩ := readDemande_spec sql access cacheOnly candidates hd hread pairs pairs
  refine ⟨matchResult d.id ⟨[], 0, []⟩, pairs', ?_, filters_empty_iff⟩
  rw [getMatchesForDemande, hfind]
  simp only [hdemande, Option.bind_eq_bind, Option.bind_some, Option.pure_def, pageOf, if_pos ht]

end Calls

/-- The stored pair of the demande and its match. -/
def hydraPairs : Pairs := Keyed.empty.set (1, 1) ⟨1, Shadow.null, 8, 1⟩

lemma shown_hydraPairs : shown (hydraDb 16) hydraPairs 1 = [⟨⟨1, plainOffer 16, none, 0, 1⟩, 8⟩] := by
  decide +kernel

theorem threshold_drops_match :
    ¬∀ (db : Db) (pairs : Pairs) (demandeId : ℕ) (limit : ℤ) (threshold : ℚ), 0 < threshold →
      ∃ details, MatchDetails.getMatchesForDemande db pairs demandeId limit 0 threshold = some details ∧
        Filters limit 0 threshold (shown db pairs demandeId) details.matchList details.totalCount := by
  intro h
  obtain ⟨_, hdetails, hfilters⟩ := h (hydraDb 16) hydraPairs 1 50 1 one_pos
  rw [getMatches_of_threshold one_pos, some_inj] at hdetails
  rw [← hdetails, filters_empty_iff, shown_hydraPairs] at hfilters
  have hlow := hfilters _ (mem_singleton.mpr rfl)
  exact absurd hlow (by decide)

theorem threshold_above_match :
    (∃ details, MatchDetails.getMatchesForDemande (hydraDb 16) hydraPairs 1 50 0 9 = some details ∧
      Filters 50 0 9 (shown (hydraDb 16) hydraPairs 1) details.matchList details.totalCount) ∧
    ∃ result pairs', getMatchesForDemande plainSql plainAccess true (hydraDb 16) Keyed.empty 1 50 0 9 hydraPairs =
        some (some result, pairs') ∧
      Filters 50 0 9 (readable plainSql true (hydraDb 16) Keyed.empty 1 50 0 hydraPairs) result.matchList
        result.totalCount := by
  have hlow : ∀ m ∈ shown (hydraDb 16) hydraPairs 1, m.score < 9 := by
    rw [shown_hydraPairs]
    decide +kernel
  have hreadable : readable plainSql true (hydraDb 16) Keyed.empty 1 50 0 hydraPairs =
      shown (hydraDb 16) hydraPairs 1 := by
    rw [readable, if_pos rfl, ReadThrough.fetch_of_present]
    rw [shown_hydraPairs]
    rintro ⟨-, hempty⟩
    cases hempty
  obtain ⟨⟨details, hdetails, hcore⟩, hservice⟩ := @threshold_filters_iff plainSql plainAccess true (hydraDb 16)
    Keyed.empty 1 50 0 9 (by decide) hydraPairs
  obtain ⟨result, pairs', hread, hresult⟩ := hservice ⟨1, plainDemande, none, 0, 1⟩ rfl
  rw [hreadable] at hresult ⊢
  exact ⟨⟨details, hdetails, hcore.mpr hlow⟩, result, pairs', hread, hresult.mpr hlow⟩

/-! ### Earlier reads -/

section Runs

variable (sql : SqlArithmetic) (access : Access) (cacheOnly : Bool) (db : Db) (candidates : Candidates)

def runCalls (calls : List ReadCall) (pairs : Pairs) : Pairs :=
  calls.foldl (fun pairs call => (call.run sql access cacheOnly db candidates pairs).2) pairs

structure SameButLimit (allowed : Set ℤ) (call call' : ReadCall) : Prop where
  request : call.request = call'.request
  limit : call.limit ∈ allowed
  limit' : call'.limit ∈ allowed

/-- What a call returns does not depend on the limits of the calls before it. -/
def Independent (allowed : Set ℤ) (pairs : Pairs) : Prop :=
  ∀ calls calls' : List ReadCall, List.Forall₂ (SameButLimit allowed) calls calls' → ∀ later : ReadCall,
    (later.run sql access cacheOnly db candidates (runCalls sql access cacheOnly db candidates calls pairs)).1 =
      (later.run sql access cacheOnly db candidates (runCalls sql access cacheOnly db candidates calls' pairs)).1

def liveDemandes : Set ℕ := {id | ∃ d ∈ db.demandes.rows, d.id = id ∧ d.live = true}

def positiveLimits : Set ℤ := {limit | 0 < limit}

lemma mem_positiveLimits {limit : ℤ} : limit ∈ positiveLimits ↔ 0 < limit := Iff.rfl

lemma shown_runCalls (calls : List ReadCall) (pairs : Pairs) :
    shown db (runCalls sql access cacheOnly db candidates calls pairs) =
      ReadThrough.run (Missing cacheOnly) (stores sql db candidates)
        (calls.map fun call => (call.request.keys db, call.limit)) (shown db pairs) := by
  induction calls generalizing pairs with
  | nil => rfl
  | cons call _ ih =>
    have hrest := ih (call.run sql access cacheOnly db candidates pairs).2
    rw [(run_spec sql access cacheOnly db candidates call pairs).2] at hrest
    exact hrest

lemma run_congr (call : ReadCall) {pairs pairs' : Pairs} (h : shown db pairs = shown db pairs') :
    (call.run sql access cacheOnly db candidates pairs).1 =
      (call.run sql access cacheOnly db candidates pairs').1 := by
  obtain ⟨hanswer, hview⟩ := run_spec sql access cacheOnly db candidates call pairs
  obtain ⟨hanswer', hview'⟩ := run_spec sql access cacheOnly db candidates call pairs'
  rw [hanswer, hanswer', hview, hview', h]

variable {sql access cacheOnly db candidates}

lemma independent_of_blind {allowed : Set ℤ} {pairs : Pairs}
    (h : ReadThrough.Blind (Missing cacheOnly) (stores sql db candidates) (liveDemandes db) allowed
      (shown db pairs)) :
    Independent sql access cacheOnly db candidates allowed pairs := by
  intro calls calls' hsame later
  have halike : List.Forall₂ (ReadThrough.Alike (liveDemandes db) allowed)
      (calls.map fun call => (call.request.keys db, call.limit))
      (calls'.map fun call => (call.request.keys db, call.limit)) := by
    rw [forall₂_map_left_iff, forall₂_map_right_iff]
    refine hsame.imp fun call call' hcall => ⟨?_, fun id hid => live_of_mem_keys hid, hcall.limit, hcall.limit'⟩
    rw [hcall.request]
  refine run_congr sql access cacheOnly db candidates later ?_
  rw [shown_runCalls, shown_runCalls, h.run_eq halike]

def firstPage (demandeId : ℕ) (limit : ℤ) : ReadCall := ⟨.demande demandeId 0 0, limit⟩

def secondPage (demandeId : ℕ) : ReadCall := ⟨.demande demandeId 1 0, 1⟩

lemma answer_secondPage {d : Row DemandeColumns} (hd : d ∈ db.demandes.rows) (hlive : d.live = true) {pairs : Pairs}
    (hmissing : Missing cacheOnly (shown db pairs d.id)) (limit : ℤ) :
    ((secondPage d.id).run sql access cacheOnly db candidates
      (runCalls sql access cacheOnly db candidates [firstPage d.id limit] pairs)).1 =
        some (.demande (some ⟨d.id, ((stores sql db candidates limit d.id).drop 1).take 1,
          (stores sql db candidates limit d.id).length⟩)) := by
  have hfind := getDemandeById_of_live hd hlive
  have hread : ¬Refused 1 1 0 := by
    rintro ⟨-, _⟩
    omega
  have hfirst : shown db (runCalls sql access cacheOnly db candidates [firstPage d.id limit] pairs) d.id =
      stores sql db candidates limit d.id := by
    have hkeys : (firstPage d.id limit).request.keys db = [d.id] := by
      simp only [firstPage, ReadRequest.keys, if_pos, hfind, map_some, toList_some]
    have hview := shown_runCalls sql access cacheOnly db candidates [firstPage d.id limit] pairs
    rw [map_singleton, hkeys] at hview
    change _ = ReadThrough.fetch (Missing cacheOnly) (stores sql db candidates) limit (shown db pairs) d.id at hview
    rw [hview, ReadThrough.fetch_of_missing hmissing, Function.update_self]
  -- the second page leaves the view alone
  obtain ⟨hanswer, hview⟩ := run_spec sql access cacheOnly db candidates (secondPage d.id)
    (runCalls sql access cacheOnly db candidates [firstPage d.id limit] pairs)
  have hkept : shown db ((secondPage d.id).run sql access cacheOnly db candidates
      (runCalls sql access cacheOnly db candidates [firstPage d.id limit] pairs)).2 d.id =
        stores sql db candidates limit d.id := by
    rw [hview, ← hfirst]
    rfl
  rw [hanswer, ReadCall.answer, secondPage]
  simp only [hfind]
  rw [if_neg hread, pageOf, if_neg (lt_irrefl 0)]
  rw [secondPage] at hkept
  rw [hkept]
  rfl

theorem independent_iff_blind (allowed : Set ℤ) (pairs : Pairs) :
    Independent sql access cacheOnly db candidates allowed pairs ↔
      ReadThrough.Blind (Missing cacheOnly) (stores sql db candidates) (liveDemandes db) allowed
        (shown db pairs) := by
  refine ⟨?_, independent_of_blind⟩
  rintro h _ ⟨d, hd, rfl, hlive⟩ hmissing limit hlimit limit' hlimit'
  have hsame : SameButLimit allowed (firstPage d.id limit) (firstPage d.id limit') := ⟨rfl, hlimit, hlimit'⟩
  have hlater := h _ _ (.cons hsame .nil) (secondPage d.id)
  rw [answer_secondPage hd hlive hmissing, answer_secondPage hd hlive hmissing] at hlater
  have hlength : (stores sql db candidates limit d.id).length = (stores sql db candidates limit' d.id).length := by
    simp only [some_inj, ReadAnswer.demande.injEq, MatchResult.mk.injEq] at hlater
    exact hlater.2.2
  rw [stores, stores, length_take, length_take] at hlength
  exact take_eq_take_iff.mpr hlength

/-- What a call returns is independent of earlier limits exactly where every live demande without active
pairs has no active candidate, or misses are not rebuilt; and of earlier limits that are positive, where it
has one at most. -/
theorem reads_independent_iff (sql : SqlArithmetic) (access : Access) (cacheOnly : Bool) (db : Db)
    (candidates : Candidates) (pairs : Pairs) :
    (Independent sql access cacheOnly db candidates Set.univ pairs ↔
      (cacheOnly = true → ∀ d ∈ db.demandes.rows, d.live = true → shown db pairs d.id = [] →
        candidateRanking sql db candidates d.id = [])) ∧
    (Independent sql access cacheOnly db candidates positiveLimits pairs ↔
      (cacheOnly = true → ∀ d ∈ db.demandes.rows, d.live = true → shown db pairs d.id = [] →
        (candidateRanking sql db candidates d.id).length ≤ 1)) := by
  rw [independent_iff_blind, independent_iff_blind]
  constructor
  · constructor
    · intro h hon d hd hlive hempty
      have heq := h d.id ⟨d, hd, rfl, hlive⟩ ⟨hon, hempty⟩ 0 trivial
        (candidateRanking sql db candidates d.id).length trivial
      rw [stores, stores, Int.toNat_natCast, take_length] at heq
      exact heq.symm
    · rintro h _ ⟨d, hd, rfl, hlive⟩ ⟨hon, hempty⟩ _ - _ -
      rw [stores, stores, h hon d hd hlive hempty, take_nil, take_nil]
  · constructor
    · intro h hon d hd hlive hempty
      have heq := h d.id ⟨d, hd, rfl, hlive⟩ ⟨hon, hempty⟩ 1 (mem_positiveLimits.mpr (by omega))
        ((candidateRanking sql db candidates d.id).length + 1) (mem_positiveLimits.mpr (by omega))
      have hlength := congrArg List.length heq
      rw [stores, stores, length_take, length_take] at hlength
      omega
    · rintro h _ ⟨d, hd, rfl, hlive⟩ ⟨hon, hempty⟩ _ hlimit _ hlimit'
      have hone := h hon d hd hlive hempty
      rw [mem_positiveLimits] at hlimit hlimit'
      rw [stores, stores, take_of_length_le (by omega), take_of_length_le (by omega)]

end Runs

def twoCandidates : Candidates :=
  (Keyed.empty.set (1, 1) ⟨1, Shadow.null⟩).set (1, 2) ⟨1, Shadow.null⟩

/-- A first read with limit 1 stores one of two matches, one with limit 50 stores both; the next page shows
it. -/
theorem later_page_depends_on_limit :
    ¬∀ (sql : SqlArithmetic) (access : Access) (cacheOnly : Bool) (db : Db) (candidates : Candidates)
      (pairs : Pairs), Independent sql access cacheOnly db candidates Set.univ pairs := by
  intro h
  have hblind := (independent_iff_blind Set.univ Keyed.empty).mp
    (h plainSql plainAccess true twoOffersDb twoCandidates Keyed.empty)
  have hlive : 1 ∈ liveDemandes twoOffersDb := ⟨⟨1, plainDemande, none, 0, 1⟩, mem_singleton.mpr rfl, rfl, rfl⟩
  have hmissing : Missing true (shown twoOffersDb Keyed.empty 1) := ⟨rfl, rfl⟩
  have hsame := congrArg List.length (hblind 1 hlive hmissing 1 trivial 50 trivial)
  have hdifferent : (stores plainSql twoOffersDb twoCandidates 1 1).length ≠
      (stores plainSql twoOffersDb twoCandidates 50 1).length := by
    decide +kernel
  exact hdifferent hsame

end MatchService

end ImmoApp.Matching
