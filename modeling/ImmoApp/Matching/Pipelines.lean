import ImmoApp.Matching.Artifacts

/-!
# The two pipelines agree

Both pipelines are measured against one description of what a rebuild leaves: `scoredMatches` lists the
live matches of the demandes with their scores, `ranking` numbers them per demande, and `Rebuilt` says
which rows the two tables hold afterwards.  `direct_spec` and `legacy_spec` prove that either pipeline
succeeds, leaves these rows and returns their numbers, whatever the tables held before.
-/

namespace ImmoApp.Matching

open Crm List Option Table Bool Function

variable {sql : SqlArithmetic} {access : Access} {db : Db} {ids : List ℕ}

/-! ### The matches of the demandes -/

structure MatchOf (db : Db) (ids : List ℕ) (d : Row DemandeColumns) (o : Row OfferColumns) : Prop where
  demande : d ∈ db.demandes.rows
  offer : o ∈ db.offers.rows
  live : liveMatch db d o = true
  asked : d.id ∈ ids

variable {d : Row DemandeColumns} {o : Row OfferColumns} {limit : Option ℤ} {ids' : List ℕ}
  {ranked : List (Scored × ℕ)} {stored : List ((ℕ × ℕ) × PairColumns)}

section

variable (h : MatchOf db ids d o)
include h

lemma MatchOf.eq_of_keys {d' : Row DemandeColumns} {o' : Row OfferColumns} (h' : MatchOf db ids d' o') (hd : d.id =
    d'.id) (ho : o.id = o'.id) :
    d = d' ∧ o = o' :=
  ⟨eq_of_id h.demande h'.demande hd, eq_of_id h.offer h'.offer ho⟩

lemma MatchOf.compatible : Matching.compatible db d o = true := by
  have hlive := h.live
  rw [liveMatch, and_eq_true] at hlive
  exact hlive.1

lemma MatchOf.demandeLive : d.live = true := by
  have hcompatible := h.compatible
  simp only [Matching.compatible, and_eq_true] at hcompatible
  exact hcompatible.1.1.1.1.1

lemma MatchOf.activeOffer : Matching.activeOffer o = true := by
  have hcompatible := h.compatible
  simp only [Matching.compatible, and_eq_true] at hcompatible
  exact (offerOk_iff.mp hcompatible.1.1.1.2).1.2

lemma MatchOf.listing : ∃ l ∈ db.listings.rows, l.id = o.columns.listingId ∧ activeListing l = true := by
  have hcompatible := h.compatible
  simp only [Matching.compatible, and_eq_true] at hcompatible
  obtain ⟨-, l, hl⟩ := offerOk_iff.mp hcompatible.1.1.1.2
  obtain ⟨hl, hcond⟩ := mem_filter.mp hl
  simp only [and_eq_true, beq_iff_eq] at hcond
  exact ⟨l, hl, hcond.1.1, hcond.2⟩

end

lemma mem_matched {α : Type} [DecidableEq α] {select : Row DemandeColumns → Row OfferColumns → α}
    (hids : ids ≠ []) {x : α} :
    x ∈ matchedPairs select { demandeIds := ids } db ↔ ∃ d o, MatchOf db ids d o ∧ select d o = x := by
  have hfilter : ∀ d : Row DemandeColumns, MatchFilter.idFilter { demandeIds := ids } d = true ↔ d.id ∈ ids := by
    intro d
    simp [MatchFilter.idFilter, hids]
  rw [mem_matchedPairs]
  constructor
  · rintro ⟨d, hd, o, ho, hcompatible, hid, -, hnumeric, hx⟩
    have hlive : liveMatch db d o = true := by
      rw [liveMatch, hcompatible, hnumeric rfl]
      rfl
    exact ⟨d, o, ⟨hd, ho, hlive, (hfilter d).mp hid⟩, hx⟩
  · rintro ⟨d, o, ⟨hd, ho, hlive, hid⟩, hx⟩
    rw [liveMatch, and_eq_true] at hlive
    exact ⟨d, hd, o, ho, hlive.1, (hfilter d).mpr hid, rfl, fun _ => hlive.2, hx⟩

lemma nodup_matched {α : Type} [DecidableEq α] {select : Row DemandeColumns → Row OfferColumns → α}
    {key : α → ℕ × ℕ} (hkey : ∀ d o, key (select d o) = (d.id, o.id)) (hids : ids ≠ []) :
    ((matchedPairs select { demandeIds := ids } db).map key).Nodup := by
  refine (nodup_dedup _).map_on fun x hx y hy heq => ?_
  obtain ⟨d, o, hmatch, rfl⟩ := (mem_matched hids).mp hx
  obtain ⟨_, _, hmatch', rfl⟩ := (mem_matched hids).mp hy
  rw [hkey, hkey] at heq
  obtain ⟨hd, ho⟩ := Prod.mk.inj heq
  obtain ⟨rfl, rfl⟩ := hmatch.eq_of_keys hmatch' hd ho
  rfl

variable {k : ℕ × ℕ} {s : Scored} {t : Artifacts} {x : Scored × ℕ} {id : ℕ}
  {candidates : Keyed (ℕ × ℕ) CandidateColumns}

lemma get?_matched {β : Type} [DecidableEq β] {value : Row DemandeColumns → Row OfferColumns → β}
    (hids : ids ≠ []) {v : β} :
    Dict.get? (matchedPairs (fun d o => ((d.id, o.id), value d o)) { demandeIds := ids } db) k = some v ↔
      ∃ d o, MatchOf db ids d o ∧ (d.id, o.id) = k ∧ value d o = v := by
  have hnodup : ((matchedPairs (fun d o => ((d.id, o.id), value d o)) { demandeIds := ids } db).map
      Prod.fst).Nodup := nodup_matched (fun _ _ => rfl) hids
  constructor
  · intro hget
    obtain ⟨d, o, hmatch, heq⟩ := (mem_matched hids).mp (Dict.mem_of_get? hget)
    obtain ⟨hk, hv⟩ := Prod.mk.inj heq
    exact ⟨d, o, hmatch, hk, hv⟩
  · rintro ⟨d, o, hmatch, rfl, rfl⟩
    exact Dict.get?_of_mem hnodup ((mem_matched hids).mpr ⟨d, o, hmatch, rfl⟩)

/-! ### Scores and ranks -/

def Scored.key (s : Scored) : ℕ × ℕ := (s.demandeId, s.offerId)

def scoredMatches (sql : SqlArithmetic) (db : Db) (ids : List ℕ) : List Scored :=
  matchedPairs (fun d o => ⟨d.id, o.id, score sql db d o⟩) { demandeIds := ids } db

/-- They are numbered per demande, the best first. -/
def ranking (sql : SqlArithmetic) (db : Db) (ids : List ℕ) : List (Scored × ℕ) :=
  rowNumber Scored.demandeId Scored.before (scoredMatches sql db ids)

def ScoreOf (sql : SqlArithmetic) (db : Db) (ids : List ℕ) (s : Scored) : Prop :=
  ∃ d o, MatchOf db ids d o ∧ s = ⟨d.id, o.id, score sql db d o⟩

lemma mem_scoredMatches (hids : ids ≠ []) : s ∈ scoredMatches sql db ids ↔ ScoreOf sql db ids s := by
  rw [scoredMatches, mem_matched hids]
  exact exists_congr fun d => exists_congr fun o => and_congr_right fun _ => eq_comm

lemma ScoreOf.eq_of_key {s' : Scored} (h : ScoreOf sql db ids s) (h' : ScoreOf sql db ids s')
    (hkey : s.key = s'.key) : s = s' := by
  obtain ⟨d, o, hmatch, rfl⟩ := h
  obtain ⟨_, _, hmatch', rfl⟩ := h'
  obtain ⟨hd, ho⟩ := Prod.mk.inj hkey
  obtain ⟨rfl, rfl⟩ := hmatch.eq_of_keys hmatch' hd ho
  rfl

instance : Std.Total Scored.before where
  total a b := by
    rcases lt_trichotomy a.score b.score with h | h | h
    · exact Or.inr (Or.inl h)
    · rcases le_total a.offerId b.offerId with ho | ho
      · exact Or.inl (Or.inr ⟨h.symm, ho⟩)
      · exact Or.inr (Or.inr ⟨h, ho⟩)
    · exact Or.inl (Or.inl h)

instance : IsTrans Scored Scored.before where
  trans a b c := by
    rintro (hab | ⟨hab, hoab⟩) (hbc | ⟨hbc, hobc⟩)
    · exact Or.inl (hbc.trans hab)
    · exact Or.inl (hbc ▸ hab)
    · exact Or.inl (hab ▸ hbc)
    · exact Or.inr ⟨hbc.trans hab, hoab.trans hobc⟩

lemma Scored.eq_of_before {a b : Scored} (hd : a.demandeId = b.demandeId) (hab : a.before b)
    (hba : b.before a) : a = b := by
  have hscore : a.score = b.score := by
    rcases hab with h | ⟨h, -⟩
    · rcases hba with h' | ⟨h', -⟩
      · exact absurd (h.trans h') (lt_irrefl _)
      · exact h'
    · exact h.symm
  have hoffer : a.offerId = b.offerId := by
    rcases hab with h | ⟨-, h⟩
    · exact absurd (hscore ▸ h) (lt_irrefl _)
    · rcases hba with h' | ⟨-, h'⟩
      · exact absurd (hscore ▸ h') (lt_irrefl _)
      · exact le_antisymm h h'
  cases a
  cases b
  simp_all

lemma rowNumber_perm_ranking (hids : ids ≠ []) {rows : List Scored}
    (hnodup : (rows.map Scored.key).Nodup) (hmem : ∀ s, s ∈ rows ↔ ScoreOf sql db ids s) :
    (rowNumber Scored.demandeId Scored.before rows).Perm (ranking sql db ids) := by
  have hscored : rows.Perm (scoredMatches sql db ids) := by
    refine (perm_ext_iff_of_nodup hnodup.of_map (nodup_dedup _)).mpr fun s => ?_
    rw [hmem, ← mem_scoredMatches hids]
    rfl
  exact rowNumber_perm hscored fun a _ b _ => Scored.eq_of_before

/-! ### What a rebuild leaves -/

/-- `demandes.agency_id`. -/
def agencyOf (db : Db) (demandeId : ℕ) : ℕ :=
  ((db.demandes.find? demandeId).map fun d => d.columns.agencyId).getD 0

lemma agencyOf_eq (h : d ∈ db.demandes.rows) : agencyOf db d.id = d.columns.agencyId := by
  rw [agencyOf, find?_eq_some_iff.mpr ⟨h, rfl⟩]
  rfl

/-- The row of `match_pairs` for a numbered match. -/
def pairRow (access : Access) (db : Db) (x : Scored × ℕ) : (ℕ × ℕ) × PairColumns :=
  (x.1.key, ⟨agencyOf db x.1.demandeId, access.shadow x.1.demandeId x.1.offerId, x.1.score, x.2⟩)

/-- The best matches of each demande, as rows of `match_pairs`. -/
def bestPairs (sql : SqlArithmetic) (access : Access) (db : Db) (ids : List ℕ) (limit : Option ℤ) :
    List ((ℕ × ℕ) × PairColumns) :=
  ((ranking sql db ids).filter fun x => withinLimit limit x.2).map (pairRow access db)

/-- The tables after a rebuild: the rows of the demandes are their matches and the best of these, and the
other rows are as before. -/
structure Rebuilt (sql : SqlArithmetic) (access : Access) (db : Db) (ids : List ℕ) (limit : Option ℤ)
    (t t' : Artifacts) : Prop where
  candidates : ∀ k, t'.candidates.get? k =
    if k.1 ∈ ids then Dict.get? (directMatched access db ids) k else t.candidates.get? k
  pairs : ∀ k, t'.pairs.get? k =
    if k.1 ∈ ids then Dict.get? (bestPairs sql access db ids limit) k else t.pairs.get? k

structure Counted (sql : SqlArithmetic) (db : Db) (ids : List ℕ) (limit : Option ℤ)
    (r : MatchArtifactBatchResult) : Prop where
  candidates : r.candidateTotal = (scoredMatches sql db ids).length
  ranked : r.rankedTotal = (ranking sql db ids).length
  pairs : r.pairTotal = ((ranking sql db ids).filter fun x => withinLimit limit x.2).length
  perDemande : ∀ id, r.perDemande.get? id = if id ∈ ids then
      some ⟨(scoredMatches sql db ids).countP fun s => s.demandeId = id,
        (ranking sql db ids).countP fun x => x.1.demandeId = id,
        ((ranking sql db ids).filter fun x => withinLimit limit x.2).countP
          fun x => x.1.demandeId = id⟩
    else none

lemma Rebuilt.same {t₁ t₂ : Artifacts}
    (h₁ : Rebuilt sql access db ids limit t t₁) (h₂ : Rebuilt sql access db ids limit t t₂) :
    t₁.Same t₂ :=
  ⟨fun k => (h₁.candidates k).trans (h₂.candidates k).symm,
    fun k => (h₁.pairs k).trans (h₂.pairs k).symm⟩

lemma Counted.same {r₁ r₂ : MatchArtifactBatchResult}
    (h₁ : Counted sql db ids limit r₁) (h₂ : Counted sql db ids limit r₂) : r₁.Same r₂ :=
  ⟨h₁.candidates.trans h₂.candidates.symm, h₁.ranked.trans h₂.ranked.symm,
    h₁.pairs.trans h₂.pairs.symm, fun id => (h₁.perDemande id).trans (h₂.perDemande id).symm⟩

lemma matchedPairs_congr {α : Type} [DecidableEq α]
    (select : Row DemandeColumns → Row OfferColumns → α) {ids : List ℕ}
    (h : ∀ id, id ∈ ids ↔ id ∈ ids') :
    matchedPairs select { demandeIds := ids } db = matchedPairs select { demandeIds := ids' } db := by
  have hnil : ids = [] ↔ ids' = [] := by
    simp only [eq_nil_iff_forall_not_mem, h]
  have hfilter : MatchFilter.idFilter { demandeIds := ids } = MatchFilter.idFilter { demandeIds := ids' } := by
    funext d
    simp [MatchFilter.idFilter, h, hnil]
  have hcommon : MatchFilter.common { demandeIds := ids } = MatchFilter.common { demandeIds := ids' } := by
    funext d o
    rw [MatchFilter.common, MatchFilter.common, hfilter]
    rfl
  rw [matchedPairs, matchedPairs, rawPairs, rawPairs, junctionBranch, junctionBranch, wilayaBranch,
    wilayaBranch, hcommon]

lemma matched_keys_perm {α : Type} [DecidableEq α]
    {select : Row DemandeColumns → Row OfferColumns → α} {key : α → ℕ × ℕ}
    (hkey : ∀ d o, key (select d o) = (d.id, o.id)) (hids : ids ≠ []) :
    ((matchedPairs select { demandeIds := ids } db).map key).Perm ((scoredMatches sql db ids).map Scored.key) := by
  have hnodup : ((scoredMatches sql db ids).map Scored.key).Nodup :=
    nodup_matched (fun _ _ => rfl) hids
  refine (perm_ext_iff_of_nodup (nodup_matched hkey hids) hnodup).mpr fun k => ?_
  simp only [List.mem_map, mem_matched hids, mem_scoredMatches hids]
  constructor
  · rintro ⟨_, ⟨d, o, hmatch, rfl⟩, rfl⟩
    exact ⟨_, ⟨d, o, hmatch, rfl⟩, (hkey d o).symm⟩
  · rintro ⟨_, ⟨d, o, hmatch, rfl⟩, rfl⟩
    exact ⟨_, ⟨d, o, hmatch, rfl⟩, hkey d o⟩

lemma get?_replaced {β : Type} {t t' : Keyed (ℕ × ℕ) β} {es : List ((ℕ × ℕ) × β)} (hes : ∀ e ∈ es, e.1.1 ∈ ids)
    (h : ∀ k, t'.get? k = ((t.delete fun k _ => decide (k.1 ∈ ids)).get? k).or (Dict.get? es k)) (k : ℕ × ℕ) :
    t'.get? k = if k.1 ∈ ids then Dict.get? es k else t.get? k := by
  rw [h, Keyed.get?_delete]
  by_cases hk : k.1 ∈ ids
  · cases t.get? k <;> simp [hk]
  · have hnone : Dict.get? es k = none :=
      Dict.get?_eq_none_iff.mpr fun e he heq => hk (heq ▸ hes e he)
    cases t.get? k <;> simp [hk, hnone]

lemma get?_cleared {β : Type} (t : Keyed (ℕ × ℕ) β) (hk : k.1 ∈ ids) :
    (t.delete fun k _ => decide (k.1 ∈ ids)).get? k = none := by
  rw [Keyed.get?_delete]
  cases t.get? k <;> simp [hk]

lemma get?_dictOf {β : Type} {keys : List ℕ} {zero : β} {rows : List (ℕ × β)}
    (hrows : (rows.map Prod.fst).Nodup) (k : ℕ) :
    Dict.get? (dictOf keys zero rows) k = (Dict.get? rows k).or (if k ∈ keys then some zero else none) := by
  rw [dictOf, Dict.get?_foldl_set hrows, Dict.get?_tabulate]
  simp only [mem_dedup]

section

variable (hids : ids ≠ [])
include hids

lemma nodup_ranking_keys : ((ranking sql db ids).map fun x => x.1.key).Nodup := by
  have hrows : ((ranking sql db ids).map Prod.fst).Nodup :=
    nodup_rowNumber_map_fst (nodup_dedup _)
  have hkeys := hrows.map_on (f := Scored.key) fun s hs s' hs' heq => ?_
  · simpa [comp_def] using hkeys
  · have hscore : ∀ s ∈ (ranking sql db ids).map Prod.fst, ScoreOf sql db ids s := fun s hs =>
      (mem_scoredMatches hids).mp (mem_rowNumber_map_fst.mp hs)
    exact (hscore s hs).eq_of_key (hscore s' hs') heq

lemma nodup_bestPairs_keys (limit : Option ℤ) : ((bestPairs sql access db ids limit).map Prod.fst).Nodup := by
  have hkeys : (bestPairs sql access db ids limit).map Prod.fst
      = ((ranking sql db ids).filter fun x => withinLimit limit x.2).map fun x => x.1.key := by
    simp [bestPairs, pairRow, comp_def]
  rw [hkeys]
  exact (nodup_ranking_keys hids).sublist (filter_sublist.map _)

lemma scoreOf_of_mem_ranking (hx : x ∈ ranking sql db ids) :
    ScoreOf sql db ids x.1 :=
  (mem_scoredMatches hids).mp (mem_rowNumber_map_fst.mp (mem_map_of_mem hx))

lemma asked_of_mem_bestPairs {e : (ℕ × ℕ) × PairColumns}
    (he : e ∈ bestPairs sql access db ids limit) : e.1.1 ∈ ids := by
  obtain ⟨x, hx, rfl⟩ := mem_map.mp he
  obtain ⟨d, o, hmatch, heq⟩ := scoreOf_of_mem_ranking hids (mem_of_mem_filter hx)
  rw [pairRow, heq]
  exact hmatch.asked

end

/-! ### The direct pipeline -/

lemma mem_directMatched (hids : ids ≠ []) {mp : (ℕ × ℕ) × CandidateColumns} :
    mp ∈ directMatched access db ids ↔ ∃ d o, MatchOf db ids d o ∧
      ((d.id, o.id), ⟨d.columns.agencyId, access.shadow d.id o.id⟩) = mp :=
  mem_matched hids

lemma nodup_directMatched (hids : ids ≠ []) : ((directMatched access db ids).map Prod.fst).Nodup :=
  nodup_matched (fun _ _ => rfl) hids

lemma MatchOf.directJoin (h : MatchOf db ids d o) (columns : CandidateColumns) :
    directScored sql db [((d.id, o.id), columns)] = [(⟨d.id, o.id, score sql db d o⟩, columns)] := by
  obtain ⟨l, hl, hlid, -⟩ := h.listing
  have hdemande : db.demandes.rows.filter (fun d' => d'.id == d.id) = [d] :=
    filter_id_eq h.demande fun r _ => by simp
  have hoffer : db.offers.rows.filter (fun o' => o'.id == o.id) = [o] :=
    filter_id_eq h.offer fun r _ => by simp
  have hlisting : db.listings.rows.filter (fun l' => l'.id == o.columns.listingId) = [l] :=
    filter_id_eq hl fun r _ => by simp [hlid]
  simp [directScored, hdemande, hoffer, hlisting]

lemma mem_directScored (hids : ids ≠ []) {x : Scored × CandidateColumns} :
    x ∈ directScored sql db (directMatched access db ids) ↔ ∃ d o, MatchOf db ids d o ∧
      x = (⟨d.id, o.id, score sql db d o⟩, ⟨d.columns.agencyId, access.shadow d.id o.id⟩) := by
  have hjoin : x ∈ directScored sql db (directMatched access db ids) ↔
      ∃ mp ∈ directMatched access db ids, x ∈ directScored sql db [mp] := by
    simp [directScored]
  rw [hjoin]
  constructor
  · rintro ⟨_, hmp, hx⟩
    obtain ⟨d, o, hmatch, rfl⟩ := (mem_directMatched hids).mp hmp
    rw [hmatch.directJoin, mem_singleton] at hx
    exact ⟨d, o, hmatch, hx⟩
  · rintro ⟨d, o, hmatch, rfl⟩
    refine ⟨_, (mem_directMatched hids).mpr ⟨d, o, hmatch, rfl⟩, ?_⟩
    rw [hmatch.directJoin]
    exact mem_singleton.mpr rfl

lemma directScored_keys (hids : ids ≠ []) : (directScored sql db (directMatched access db ids)).map (fun x => x.1.key)
      = (directMatched access db ids).map Prod.fst := by
  have hjoin : directScored sql db (directMatched access db ids)
      = (directMatched access db ids).flatMap fun mp => directScored sql db [mp] := by
    simp [directScored]
  rw [hjoin, map_flatMap, map_eq_flatMap]
  refine flatMap_congr fun mp hmp => ?_
  obtain ⟨d, o, hmatch, rfl⟩ := (mem_directMatched hids).mp hmp
  rw [hmatch.directJoin]
  rfl

lemma directRanked_perm (sql : SqlArithmetic) (access : Access) (db : Db) (hids : ids ≠ []) :
    ((directRanked (directScored sql db (directMatched access db ids))).map
      fun x => (x.1.1, x.2)).Perm (ranking sql db ids) := by
  have hranked : rowNumber Scored.demandeId Scored.before
      ((directScored sql db (directMatched access db ids)).map Prod.fst)
      = (directRanked (directScored sql db (directMatched access db ids))).map
        fun x => (x.1.1, x.2) :=
    rowNumber_map Prod.fst (fun _ => rfl) (fun _ _ => Iff.rfl) _
  rw [← hranked]
  refine rowNumber_perm_ranking hids ?_ fun s => ?_
  · rw [List.map_map]
    exact (directScored_keys hids).symm ▸ nodup_directMatched hids
  · rw [List.mem_map]
    constructor
    · rintro ⟨x, hx, rfl⟩
      obtain ⟨d, o, hmatch, rfl⟩ := (mem_directScored hids).mp hx
      exact ⟨d, o, hmatch, rfl⟩
    · rintro ⟨d, o, hmatch, rfl⟩
      exact ⟨_, (mem_directScored hids).mpr ⟨d, o, hmatch, rfl⟩, rfl⟩

lemma directPairs_perm (sql : SqlArithmetic) (access : Access) (db : Db) (hids : ids ≠ []) (limit : Option ℤ) :
    (((directRanked (directScored sql db (directMatched access db ids))).filter
      fun x => withinLimit limit x.2).map directPair).Perm
      (bestPairs sql access db ids limit) := by
  have hrows : ((directRanked (directScored sql db (directMatched access db ids))).filter
      fun x => withinLimit limit x.2).map directPair
      = (((directRanked (directScored sql db (directMatched access db ids))).map
        fun x => (x.1.1, x.2)).filter fun x => withinLimit limit x.2).map (pairRow access db) := by
    rw [List.filter_map, List.map_map]
    refine map_congr_left fun x hx => ?_
    have hscored := mem_rowNumber_map_fst.mp (mem_map_of_mem (mem_of_mem_filter hx))
    obtain ⟨d, o, hmatch, heq⟩ := (mem_directScored hids).mp hscored
    simp only [directPair, comp_apply, pairRow, heq, agencyOf_eq hmatch.demande]
    rfl
  rw [hrows]
  exact ((directRanked_perm sql access db hids).filter _).map _

lemma mem_sortedIds (hpos : ∀ id ∈ ids, 0 < id) (id : ℕ) :
    id ∈ sortedSet (fun a b => a ≤ b) (ids.filter fun v => 0 < v) ↔ id ∈ ids := by
  rw [mem_sortedSet, mem_filter]
  constructor
  · rintro ⟨hid, -⟩
    exact hid
  · intro hid
    exact ⟨hid, by simpa using hpos id hid⟩

lemma Rebuilt.congr (h : ∀ id, id ∈ ids' ↔ id ∈ ids)
    {t' : Artifacts} (ht : Rebuilt sql access db ids' limit t t') :
    Rebuilt sql access db ids limit t t' := by
  have hmatched : directMatched access db ids' = directMatched access db ids :=
    matchedPairs_congr _ h
  have hscored : scoredMatches sql db ids' = scoredMatches sql db ids := matchedPairs_congr _ h
  refine ⟨fun k => ?_, fun k => ?_⟩
  · rw [ht.candidates, hmatched]
    simp only [h]
  · rw [ht.pairs, bestPairs, ranking, hscored]
    simp only [h]
    rfl

lemma Counted.congr (h : ∀ id, id ∈ ids' ↔ id ∈ ids)
    {r : MatchArtifactBatchResult} (hr : Counted sql db ids' limit r) : Counted sql db ids limit r := by
  have hscored : scoredMatches sql db ids' = scoredMatches sql db ids := matchedPairs_congr _ h
  have hranking : ranking sql db ids' = ranking sql db ids := by
    rw [ranking, ranking, hscored]
  refine ⟨?_, ?_, ?_, fun id => ?_⟩
  · rw [hr.candidates, hscored]
  · rw [hr.ranked, hranking]
  · rw [hr.pairs, hranking]
  · rw [hr.perDemande, hscored, hranking]
    simp only [h]

lemma asked_of_mem_ranking (hids : ids ≠ []) (hx : x ∈ ranking sql db ids) : x.1.demandeId ∈ ids := by
  obtain ⟨d, o, hmatch, heq⟩ := scoreOf_of_mem_ranking hids hx
  rw [heq]
  exact hmatch.asked

lemma countP_eq_of_keys_perm {α β : Type} {key : α → ℕ × ℕ} {key' : β → ℕ × ℕ} {rows : List α}
    {rows' : List β} (h : (rows.map key).Perm (rows'.map key')) (id : ℕ) :
    (rows.countP fun a => (key a).1 = id) = rows'.countP fun b => (key' b).1 = id := by
  have hcount := h.countP_eq fun k => decide (k.1 = id)
  rw [countP_map, countP_map] at hcount
  exact hcount

lemma direct_counted (sql : SqlArithmetic) (access : Access) (db : Db) (hids : ids ≠ [])
    (hnodup : ids.Nodup) (limit : Option ℤ) :
    Counted sql db ids limit (directResult ids (directMatched access db ids)
      (directRanked (directScored sql db (directMatched access db ids)))
      ((directRanked (directScored sql db (directMatched access db ids))).filter
        fun x => withinLimit limit x.2)) := by
  have hmatched : ((directMatched access db ids).map Prod.fst).Perm
      ((scoredMatches sql db ids).map Scored.key) := matched_keys_perm (fun _ _ => rfl) hids
  have hmatchedIn : ∀ mp ∈ directMatched access db ids, mp.1.1 ∈ ids := by
    intro e he
    obtain ⟨d, o, hmatch, rfl⟩ := (mem_directMatched hids).mp he
    exact hmatch.asked
  have hranked := directRanked_perm sql access db hids
  generalize directMatched access db ids = matched at hmatched hmatchedIn hranked ⊢
  generalize directRanked (directScored sql db matched) = ranked at hranked ⊢
  have hrankedIn : ∀ x ∈ ranked, x.1.1.demandeId ∈ ids := fun x hx =>
    asked_of_mem_ranking hids (hranked.mem_iff.mp (List.mem_map_of_mem hx))
  have hstored : ((ranked.filter fun x => withinLimit limit x.2).map fun x => (x.1.1, x.2)).Perm
      ((ranking sql db ids).filter fun x => withinLimit limit x.2) := by
    have h := hranked.filter fun x => withinLimit limit x.2
    rw [List.filter_map] at h
    exact h
  generalize hfilter : ranked.filter (fun x => withinLimit limit x.2) = stored at hstored ⊢
  have hstoredIn : ∀ x ∈ stored, x.1.1.demandeId ∈ ids := by
    rw [← hfilter]
    exact fun x hx => hrankedIn x (List.mem_of_mem_filter hx)
  have hsum : ∀ {β : Type} {rows : List β} {part : β → ℕ}, (∀ b ∈ rows, part b ∈ ids) →
      (ids.map fun id => rows.countP fun b => part b = id).sum = rows.length :=
    fun h => sum_countP_eq_length hnodup h
  refine ⟨?_, ?_, ?_, fun id => ?_⟩
  · simp only [directResult, List.map_map, comp_def]
    rw [hsum hmatchedIn]
    simpa using hmatched.length_eq
  · simp only [directResult, List.map_map, comp_def]
    rw [hsum hrankedIn]
    simpa using hranked.length_eq
  · simp only [directResult, List.map_map, comp_def]
    rw [hsum hstoredIn]
    simpa using hstored.length_eq
  · have hrows : ((ids.map fun id => (id, (⟨matched.countP fun mp => mp.1.1 = id,
        ranked.countP fun x => x.1.1.demandeId = id,
        stored.countP fun x => x.1.1.demandeId = id⟩ : MatchArtifactCounts))).map
        Prod.fst).Nodup := by
      simpa [comp_def] using hnodup
    have hcandidates := countP_eq_of_keys_perm hmatched id
    have hrankedCount := hranked.countP_eq fun x => decide (x.1.demandeId = id)
    have hstoredCount := hstored.countP_eq fun x => decide (x.1.demandeId = id)
    rw [List.countP_map] at hrankedCount hstoredCount
    rw [directResult, get?_dictOf hrows, Dict.get?_tabulate ids fun id => (⟨matched.countP fun mp => mp.1.1 = id,
        ranked.countP fun x => x.1.1.demandeId = id,
        stored.countP fun x => x.1.1.demandeId = id⟩ : MatchArtifactCounts)]
    by_cases hid : id ∈ ids
    · simp only [if_pos hid, Option.some_or]
      rw [hcandidates, ← hrankedCount, ← hstoredCount]
      rfl
    · simp only [if_neg hid, Option.none_or]

lemma direct_spec (hids : ids ≠ []) (hpos : ∀ id ∈ ids, 0 < id) (limit : Option ℤ) (t : Artifacts) :
    ∃ t' r, rebuildMatchArtifactsForDemandes sql access db ids limit t = some (t', r) ∧
      Rebuilt sql access db ids limit t t' ∧ Counted sql db ids limit r := by
  have hmem := mem_sortedIds hpos
  rw [rebuildMatchArtifactsForDemandes]
  generalize hsorted : sortedSet (fun a b => a ≤ b) (ids.filter fun v => 0 < v) = sorted at hmem ⊢
  have hne : sorted ≠ [] := by
    rintro rfl
    refine hids (eq_nil_iff_forall_not_mem.mpr fun id hid => ?_)
    exact absurd ((hmem id).mpr hid) not_mem_nil
  have hnodup : sorted.Nodup := by
    rw [← hsorted]
    exact (perm_insertionSort _ _).nodup_iff.mpr (nodup_dedup _)
  have hmatchedIn : ∀ e ∈ directMatched access db sorted, e.1.1 ∈ sorted := by
    intro e he
    obtain ⟨d, o, hmatch, rfl⟩ := (mem_directMatched hne).mp he
    exact hmatch.asked
  have hpairs := directPairs_perm sql access db hne limit
  have hpairsIn : ∀ e ∈ ((directRanked (directScored sql db (directMatched access db sorted))).filter
      fun x => withinLimit limit x.2).map directPair, e.1.1 ∈ sorted := fun e he =>
    asked_of_mem_bestPairs hne (hpairs.mem_iff.mp he)
  obtain ⟨candidates, hcandidates, hcandidatesGet⟩ := Keyed.insertAll?_of_fresh
    (nodup_directMatched hne) fun e he => get?_cleared t.candidates (hmatchedIn e he)
  obtain ⟨pairs, hstored, hpairsGet⟩ := Keyed.insertAll?_of_fresh
    ((hpairs.map Prod.fst).nodup_iff.mpr (nodup_bestPairs_keys hne limit))
    fun e he => get?_cleared t.pairs (hpairsIn e he)
  refine ⟨⟨candidates, pairs⟩, _, ?_, Rebuilt.congr hmem ⟨?_, ?_⟩,
    Counted.congr hmem (direct_counted sql access db hne hnodup limit)⟩
  · rw [if_neg hne]
    simp only [hcandidates, hstored, bind_eq_bind, bind_some]
    rfl
  · exact get?_replaced hmatchedIn hcandidatesGet
  · intro k
    rw [get?_replaced hpairsIn hpairsGet k,
      Dict.get?_eq_of_perm ((hpairs.map Prod.fst).nodup_iff.mpr (nodup_bestPairs_keys hne limit)) hpairs]

/-! ### The legacy pipeline -/

lemma get?_updateVisibilityCache {β : Type} (setShadow : Shadow → β → β) (visible : List ℕ)
    (t : Keyed (ℕ × ℕ) β) (k : ℕ × ℕ) :
    (if visible = [] then t else updateVisibilityCache access setShadow db visible t).get? k =
      (t.get? k).map fun v => if (db.demandes.rows.any fun d => d.id == k.1) &&
        (db.offers.rows.any fun o => o.id == k.2) && decide (k.1 ∈ visible) then
          setShadow (access.shadow k.1 k.2) v else v := by
  split
  · next hnil => cases t.get? k <;> simp [hnil]
  · rw [updateVisibilityCache, Keyed.get?_update]

lemma get?_backfilled {β : Type} {setShadow : Shadow → β → β} {visible : List ℕ}
    {t t' : Keyed (ℕ × ℕ) β} {es es' : List ((ℕ × ℕ) × β)}
    (ht' : ∀ k, t'.get? k = if k.1 ∈ ids then Dict.get? es k else t.get? k)
    (hes : ∀ k, Dict.get? es' k = (Dict.get? es k).map (setShadow (access.shadow k.1 k.2)))
    (hmatch : ∀ e ∈ es, e.1.1 ∈ visible ∧ ∃ d o, MatchOf db ids d o ∧ (d.id, o.id) = e.1)
    (hvisible : ∀ id ∈ visible, id ∈ ids) (k : ℕ × ℕ) :
    (if visible = [] then t' else updateVisibilityCache access setShadow db visible t').get? k =
      if k.1 ∈ ids then Dict.get? es' k else t.get? k := by
  rw [get?_updateVisibilityCache, ht', hes]
  by_cases hk : k.1 ∈ ids
  · simp only [if_pos hk]
    cases hget : Dict.get? es k with
    | none => rfl
    | some =>
      obtain ⟨hvis, d, o, hmatch, rfl⟩ := hmatch _ (Dict.mem_of_get? hget)
      have hdemande : (db.demandes.rows.any fun d' => d'.id == d.id) = true :=
        any_eq_true.mpr ⟨d, hmatch.demande, by simp⟩
      have hoffer : (db.offers.rows.any fun o' => o'.id == o.id) = true :=
        any_eq_true.mpr ⟨o, hmatch.offer, by simp⟩
      simp [hdemande, hoffer, hvis]
  · have hnot : k.1 ∉ visible := fun h => hk (hvisible k.1 h)
    simp [hk, hnot]

lemma nodup_dictOf {β : Type} (keys : List ℕ) (zero : β) (rows : List (ℕ × β)) :
    ((dictOf keys zero rows).map Prod.fst).Nodup := by
  have hzeros : ((keys.dedup.map fun k => (k, zero)).map Prod.fst).Nodup := by
    simpa [comp_def] using nodup_dedup keys
  rw [dictOf]
  generalize (keys.dedup.map fun k => (k, zero)) = base at hzeros ⊢
  induction rows generalizing base with
  | nil => exact hzeros
  | cons row _ ih => exact ih _ (Dict.nodup_keys_set hzeros row.1 row.2)

lemma get?_groupCounts (keys : List (ℕ × ℕ)) (id : ℕ) : Dict.get? (groupCounts keys) id =
      if id ∈ keys.map Prod.fst then some (keys.countP fun k => k.1 = id) else none := by
  rw [groupCounts, Dict.get?_tabulate]
  simp only [mem_dedup]

lemma nodup_groupCounts (keys : List (ℕ × ℕ)) : ((groupCounts keys).map Prod.fst).Nodup := by
  simpa [groupCounts, comp_def] using nodup_dedup (keys.map Prod.fst)

lemma countP_eq_zero_of_not_mem {α : Type} {part : α → ℕ} {rows : List α}
    (h : id ∉ rows.map part) : (rows.countP fun a => part a = id) = 0 := by
  refine countP_eq_zero.mpr fun a ha => ?_
  have hne : part a ≠ id := fun heq => h (mem_map.mpr ⟨a, ha, heq⟩)
  simpa using hne

lemma mem_positiveKeys {counts : Dict ℕ ℕ} {keys : List (ℕ × ℕ)} (hnodup : (counts.map Prod.fst).Nodup)
    (hcounts : ∀ id, (Dict.get? counts id).getD 0 = keys.countP fun k => k.1 = id) (id : ℕ) :
    id ∈ (counts.filter fun e => 0 < e.2).map Prod.fst ↔ id ∈ keys.map Prod.fst := by
  have hpos : 0 < (Dict.get? counts id).getD 0 ↔ id ∈ keys.map Prod.fst := by
    rw [hcounts, countP_pos_iff]
    simp
  rw [← hpos]
  constructor
  · intro hmem
    obtain ⟨e, he, rfl⟩ := mem_map.mp hmem
    obtain ⟨he, hcount⟩ := mem_filter.mp he
    rw [Dict.get?_of_mem hnodup he]
    simpa using hcount
  · intro hcount
    cases hget : Dict.get? counts id with
    | none =>
      rw [hget] at hcount
      exact absurd hcount (lt_irrefl 0)
    | some n =>
      rw [hget] at hcount
      exact mem_map.mpr ⟨(id, n), mem_filter.mpr ⟨Dict.mem_of_get? hget, by simpa using hcount⟩, rfl⟩

lemma replaceCandidates_spec (sql : SqlArithmetic) (access : Access) (db : Db) (hids : ids ≠ [])
    (t : Keyed (ℕ × ℕ) CandidateColumns) :
    ∃ t' counts, replaceCandidatesForDemandesFromMatchQuery access db ids t = some (t', counts) ∧ (∀ k, t'.get? k =
        if k.1 ∈ ids then Dict.get? (directMatched access db ids) k else t.get? k) ∧
      ∀ id, (Dict.get? counts id).getD 0 = (scoredMatches sql db ids).countP fun s => s.demandeId = id := by
  have hkeys : ((matchedPairs (fun d o => ((d.id, o.id), d.columns.agencyId))
      { demandeIds := ids } db).map Prod.fst).Perm ((scoredMatches sql db ids).map Scored.key) :=
    matched_keys_perm (fun _ _ => rfl) hids
  have hnodup : ((matchedPairs (fun d o => ((d.id, o.id), d.columns.agencyId))
      { demandeIds := ids } db).map Prod.fst).Nodup := nodup_matched (fun _ _ => rfl) hids
  have hmem : ∀ {mp : (ℕ × ℕ) × ℕ}, mp ∈ matchedPairs
      (fun d o => ((d.id, o.id), d.columns.agencyId)) { demandeIds := ids } db ↔
      ∃ d o, MatchOf db ids d o ∧ ((d.id, o.id), d.columns.agencyId) = mp := mem_matched hids
  rw [replaceCandidatesForDemandesFromMatchQuery]
  generalize matchedPairs (fun d o => ((d.id, o.id), d.columns.agencyId)) { demandeIds := ids } db
    = matched at hkeys hnodup hmem ⊢
  have hesKeys : (matched.map fun mp => (mp.1, (⟨mp.2, Shadow.null⟩ : CandidateColumns))).map Prod.fst
      = matched.map Prod.fst := by simp [Function.comp_def]
  have hesIn : ∀ e ∈ matched.map fun mp => (mp.1, (⟨mp.2, Shadow.null⟩ : CandidateColumns)), e.1.1 ∈ ids := by
    intro e he
    obtain ⟨mp, hmp, rfl⟩ := mem_map.mp he
    obtain ⟨d, o, hmatch, rfl⟩ := hmem.mp hmp
    exact hmatch.asked
  obtain ⟨_, ht₁, hget₁⟩ := Keyed.upsertAll?_of_fresh
    (fun old new => { old with agencyId := new.agencyId }) (hesKeys ▸ hnodup)
    fun e he => get?_cleared t (hesIn e he)
  -- the counts, and the demandes that have some
  have hcounts : ∀ id, (Dict.get? (dictOf ids 0 (groupCounts (matched.map Prod.fst))) id).getD 0 =
      (matched.map Prod.fst).countP fun k => k.1 = id := by
    intro id
    rw [get?_dictOf (nodup_groupCounts _), get?_groupCounts]
    by_cases hid : id ∈ (matched.map Prod.fst).map Prod.fst
    · rw [if_pos hid]
      rfl
    · rw [if_neg hid, countP_eq_zero_of_not_mem hid]
      split <;> rfl
  have hvisible := mem_positiveKeys (nodup_dictOf ids 0 (groupCounts (matched.map Prod.fst))) hcounts
  generalize dictOf ids 0 (groupCounts (matched.map Prod.fst)) = counts at hcounts hvisible ⊢
  rw [ht₁]
  refine ⟨_, counts, rfl, ?_, fun id => ?_⟩
  · refine get?_backfilled (get?_replaced hesIn hget₁) (fun k => Option.ext fun v => ?_)
      (fun e he => ?_) (fun id hid => ?_)
    · rw [directMatched, get?_matched hids, map_eq_some_iff]
      constructor
      · rintro ⟨d, o, hmatch, rfl, rfl⟩
        refine ⟨⟨d.columns.agencyId, Shadow.null⟩, Dict.get?_of_mem (hesKeys ▸ hnodup) ?_, rfl⟩
        exact mem_map.mpr ⟨_, hmem.mpr ⟨d, o, hmatch, rfl⟩, rfl⟩
      · rintro ⟨w, hw, rfl⟩
        obtain ⟨mp, hmp, heq⟩ := mem_map.mp (Dict.mem_of_get? hw)
        obtain ⟨d, o, hmatch, rfl⟩ := hmem.mp hmp
        obtain ⟨rfl, rfl⟩ := Prod.mk.inj heq
        exact ⟨d, o, hmatch, rfl, rfl⟩
    · obtain ⟨_, hmp, rfl⟩ := mem_map.mp he
      obtain ⟨d, o, hmatch, heq⟩ := hmem.mp hmp
      refine ⟨(hvisible _).mpr ?_, d, o, hmatch, congrArg Prod.fst heq⟩
      exact mem_map_of_mem (mem_map_of_mem hmp)
    · obtain ⟨k, hk, rfl⟩ := mem_map.mp ((hvisible id).mp hid)
      obtain ⟨_, hmp, rfl⟩ := mem_map.mp hk
      obtain ⟨d, o, hmatch, rfl⟩ := hmem.mp hmp
      exact hmatch.asked
  · rw [hcounts, countP_map]
    exact countP_eq_of_keys_perm hkeys id

lemma MatchOf.legacyJoin (h : MatchOf db ids d o) :
    ((db.demandes.rows.filter fun d' => d'.id == d.id).flatMap fun d' =>
      (db.offers.rows.filter fun o' => o'.id == o.id && Matching.activeOffer o').flatMap fun o' =>
        (db.listings.rows.filter fun l => l.id == o'.columns.listingId && activeListing l).map fun _ =>
          (⟨d.id, o.id, score sql db d' o'⟩ : Scored)) = [⟨d.id, o.id, score sql db d o⟩] := by
  obtain ⟨l, hl, hlid, hactive⟩ := h.listing
  have hdemande : db.demandes.rows.filter (fun d' => d'.id == d.id) = [d] :=
    filter_id_eq h.demande fun r _ => by simp
  have hoffer : db.offers.rows.filter (fun o' => o'.id == o.id && Matching.activeOffer o') = [o] := by
    refine filter_id_eq h.offer fun r hr => ?_
    simp only [and_eq_true, beq_iff_eq, and_iff_left_iff_imp]
    intro heq
    rw [eq_of_id hr h.offer heq]
    exact h.activeOffer
  have hlisting : db.listings.rows.filter (fun l' => l'.id == o.columns.listingId && activeListing l') = [l] := by
    refine filter_id_eq hl fun r hr => ?_
    simp only [and_eq_true, beq_iff_eq, hlid, and_iff_left_iff_imp]
    intro heq
    rw [eq_of_id hr hl (heq.trans hlid.symm)]
    exact hactive
  simp [hdemande, hoffer, hlisting]

/-- The legacy pipeline ranks the matches, where the candidates of the demandes are their matches. -/
lemma legacyRanked_perm (sql : SqlArithmetic) (hids : ids ≠ []) (hcandidates : ∀ k, k.1 ∈ ids → candidates.get? k =
    Dict.get? (directMatched access db ids) k) :
    (rowNumber Scored.demandeId Scored.before (legacyScored sql db candidates ids)).Perm (ranking sql db ids) := by
  have hentries : ∀ mc ∈ candidates.entries.filter (fun mc => mc.1.1 ∈ ids),
      ∃ d o, MatchOf db ids d o ∧ (d.id, o.id) = mc.1 := by
    intro mc hmc
    obtain ⟨hmc, hid⟩ := mem_filter.mp hmc
    have hget := hcandidates mc.1 (by simpa using hid)
    rw [Keyed.mem_entries_iff.mp hmc] at hget
    obtain ⟨d, o, hmatch, hk, -⟩ := (get?_matched hids).mp hget.symm
    exact ⟨d, o, hmatch, hk⟩
  refine rowNumber_perm_ranking hids ?_ fun s => ?_
  · have hkeys : (legacyScored sql db candidates ids).map Scored.key
        = (candidates.entries.filter fun mc => mc.1.1 ∈ ids).map Prod.fst := by
      rw [legacyScored, map_flatMap, map_eq_flatMap]
      refine flatMap_congr fun mc hmc => ?_
      obtain ⟨d, o, hmatch, hk⟩ := hentries mc hmc
      rw [← hk, hmatch.legacyJoin]
      rfl
    rw [hkeys]
    exact candidates.nodup.sublist (filter_sublist.map Prod.fst)
  · rw [legacyScored, mem_flatMap]
    constructor
    · rintro ⟨mc, hmc, hs⟩
      obtain ⟨d, o, hmatch, hk⟩ := hentries mc hmc
      rw [← hk, hmatch.legacyJoin, mem_singleton] at hs
      exact ⟨d, o, hmatch, hs⟩
    · rintro ⟨d, o, hmatch, rfl⟩
      have hget := hcandidates (d.id, o.id) hmatch.asked
      rw [directMatched, (get?_matched hids).mpr ⟨d, o, hmatch, rfl, rfl⟩] at hget
      refine ⟨_, mem_filter.mpr ⟨Keyed.mem_entries_iff.mpr hget, ?_⟩, ?_⟩
      · simpa using hmatch.asked
      · rw [hmatch.legacyJoin]
        exact mem_singleton.mpr rfl

def legacyPair (db : Db) (x : Scored × ℕ) : (ℕ × ℕ) × PairColumns :=
  (x.1.key, ⟨agencyOf db x.1.demandeId, Shadow.null, x.1.score, x.2⟩)

lemma flatMap_if_singleton {α β : Type} (p : α → Bool) (f : α → β) (l : List α) :
    (l.flatMap fun a => if p a then [f a] else []) = (l.filter p).map f := by
  induction l with
  | nil => rfl
  | cons a l ih =>
    rw [flatMap_cons, ih]
    by_cases hp : p a = true
    · simp [hp]
    · simp [hp]

lemma legacyStored_eq (hids : ids ≠ []) (limit : Option ℤ) (hranked : ranked.Perm (ranking sql db ids)) :
    (ranked.flatMap fun x => (db.demandes.rows.filter fun d => d.id == x.1.demandeId).flatMap
      fun d => if withinLimit limit x.2 then
        [((x.1.demandeId, x.1.offerId), (⟨d.columns.agencyId, Shadow.null, x.1.score, x.2⟩ : PairColumns))] else [])
      = (ranked.filter fun x => withinLimit limit x.2).map (legacyPair db) := by
  rw [← flatMap_if_singleton]
  refine flatMap_congr fun x hx => ?_
  obtain ⟨d, o, hmatch, heq⟩ := scoreOf_of_mem_ranking hids (hranked.mem_iff.mp hx)
  have hdemande : db.demandes.rows.filter (fun d' => d'.id == x.1.demandeId) = [d] :=
    filter_id_eq hmatch.demande fun r _ => by simp [heq]
  have hagency : agencyOf db x.1.demandeId = d.columns.agencyId := by
    rw [heq]
    exact agencyOf_eq hmatch.demande
  rw [hdemande]
  simp only [flatMap_cons, flatMap_nil, append_nil, legacyPair, hagency]
  rfl

section

variable (hstored : ∀ e ∈ stored, ∃ x ∈ ranked, x.1.demandeId = e.1.1)
include hstored

lemma legacyRows_sums : ((legacyRows ranked stored).map fun row => row.2.1).sum = stored.length ∧
      ((legacyRows ranked stored).map fun row => row.2.2).sum = ranked.length := by
  have hnodup : (ranked.map fun x => x.1.demandeId).dedup.Nodup := List.nodup_dedup _
  simp only [legacyRows, List.map_map, comp_def]
  refine ⟨sum_countP_eq_length hnodup fun e he => ?_, sum_countP_eq_length hnodup fun x hx => ?_⟩
  · obtain ⟨x, hx, heq⟩ := hstored e he
    exact List.mem_dedup.mpr (List.mem_map.mpr ⟨x, hx, heq⟩)
  · exact List.mem_dedup.mpr (List.mem_map.mpr ⟨x, hx, rfl⟩)

lemma get?_legacyRows (id : ℕ) : (Dict.get? (dictOf ids (0, 0) (legacyRows ranked stored)) id).getD (0, 0) =
      (stored.countP fun e => e.1.1 = id, ranked.countP fun x => x.1.demandeId = id) := by
  have hrows : ((legacyRows ranked stored).map Prod.fst).Nodup := by
    simpa [legacyRows, Function.comp_def] using nodup_dedup (ranked.map fun x => x.1.demandeId)
  rw [get?_dictOf hrows, legacyRows, Dict.get?_tabulate]
  simp only [mem_dedup]
  by_cases hid : id ∈ ranked.map fun x => x.1.demandeId
  · rw [if_pos hid]
    rfl
  · have hnone : id ∉ stored.map fun e => e.1.1 := by
      intro hmem
      obtain ⟨e, he, rfl⟩ := mem_map.mp hmem
      obtain ⟨x, hx, heq⟩ := hstored e he
      exact hid (mem_map.mpr ⟨x, hx, heq⟩)
    rw [if_neg hid, countP_eq_zero_of_not_mem hid, countP_eq_zero_of_not_mem hnone]
    split <;> rfl

lemma mem_legacyRows_visible (id : ℕ) :
    id ∈ ((legacyRows ranked stored).filter fun row => 0 < row.2.1).map Prod.fst ↔ ∃ e ∈ stored, e.1.1 = id := by
  simp only [legacyRows, List.mem_map, List.mem_filter, List.mem_dedup, decide_eq_true_eq]
  constructor
  · rintro ⟨_, ⟨⟨_, -, rfl⟩, hcount⟩, rfl⟩
    obtain ⟨e, he, heq⟩ := List.countP_pos_iff.mp hcount
    exact ⟨e, he, by simpa using heq⟩
  · rintro ⟨e, he, rfl⟩
    obtain ⟨x, hx, heq⟩ := hstored e he
    refine ⟨_, ⟨⟨e.1.1, ⟨x, hx, heq⟩, rfl⟩, ?_⟩, rfl⟩
    exact List.countP_pos_iff.mpr ⟨e, he, by simp⟩

end

lemma rebuildPairs_spec (sql : SqlArithmetic) (access : Access) (db : Db) (hids : ids ≠ []) (limit : Option ℤ)
    (hcandidates : ∀ k, k.1 ∈ ids → candidates.get? k = Dict.get? (directMatched access db ids) k)
    (t : Keyed (ℕ × ℕ) PairColumns) :
    ∃ t' perDemande, rebuildPairsForDemandesFromCandidatesSql sql access db ids limit candidates t
        = some (t', ((ranking sql db ids).filter fun x => withinLimit limit x.2).length,
            (ranking sql db ids).length, perDemande) ∧
      (∀ k, t'.get? k =
        if k.1 ∈ ids then Dict.get? (bestPairs sql access db ids limit) k else t.get? k) ∧
      ∀ id, (Dict.get? perDemande id).getD (0, 0) =
        (((ranking sql db ids).filter fun x => withinLimit limit x.2).countP
          fun x => x.1.demandeId = id, (ranking sql db ids).countP fun x => x.1.demandeId = id) := by
  have hranked := legacyRanked_perm sql hids hcandidates
  rw [rebuildPairsForDemandesFromCandidatesSql]
  generalize rowNumber Scored.demandeId Scored.before (legacyScored sql db candidates ids) = ranked at hranked ⊢
  simp only [legacyStored_eq hids limit hranked]
  have hfilter := hranked.filter fun x => withinLimit limit x.2
  have hstoredKeys : ((ranked.filter fun x => withinLimit limit x.2).map (legacyPair db)).map Prod.fst
      = (ranked.filter fun x => withinLimit limit x.2).map fun x => x.1.key := by
    simp [legacyPair, Function.comp_def]
  have hnodup : (((ranked.filter fun x => withinLimit limit x.2).map (legacyPair db)).map Prod.fst).Nodup := by
    rw [hstoredKeys]
    exact (hfilter.map _).nodup_iff.mpr ((nodup_ranking_keys hids).sublist (filter_sublist.map _))
  have hrankedIn : ∀ x ∈ ranked, x.1.demandeId ∈ ids := fun x hx =>
    asked_of_mem_ranking hids (hranked.mem_iff.mp hx)
  have hstoredIn : ∀ e ∈ (ranked.filter fun x => withinLimit limit x.2).map (legacyPair db), e.1.1 ∈ ids := by
    intro e he
    obtain ⟨x, hx, rfl⟩ := mem_map.mp he
    exact hrankedIn x (mem_of_mem_filter hx)
  obtain ⟨_, ht₁, hget₁⟩ := Keyed.upsertAll?_of_fresh
    (fun old new => { old with agencyId := new.agencyId, score := new.score, rank := new.rank })
    hnodup fun e he => get?_cleared t (hstoredIn e he)
  have hfrom : ∀ e ∈ (ranked.filter fun x => withinLimit limit x.2).map (legacyPair db),
      ∃ x ∈ ranked, x.1.demandeId = e.1.1 := by
    intro e he
    obtain ⟨x, hx, rfl⟩ := mem_map.mp he
    exact ⟨x, mem_of_mem_filter hx, rfl⟩
  obtain ⟨hsumStored, hsumRanked⟩ := legacyRows_sums hfrom
  have hvisible := mem_legacyRows_visible hfrom
  rw [length_map, hfilter.length_eq] at hsumStored
  rw [hranked.length_eq] at hsumRanked
  simp only [ht₁, bind_eq_bind, bind_some, hsumStored, hsumRanked]
  refine ⟨_, _, rfl, ?_, fun id => ?_⟩
  · refine get?_backfilled (get?_replaced hstoredIn hget₁) (fun k => ?_) (fun e he => ?_)
      (fun id hid => ?_)
    · have hperm : (((ranked.filter fun x => withinLimit limit x.2).map (legacyPair db)).map
          fun e => (e.1, { e.2 with shadow := access.shadow e.1.1 e.1.2 })).Perm
          (bestPairs sql access db ids limit) := by
        rw [List.map_map]
        exact hfilter.map (pairRow access db)
      rw [← Dict.get?_eq_of_perm ?_ hperm]
      · exact Dict.get?_map
          (fun k (v : PairColumns) => { v with shadow := access.shadow k.1 k.2 }) _ k
      · rw [List.map_map]
        exact hnodup
    · obtain ⟨x, hx, rfl⟩ := mem_map.mp he
      obtain ⟨d, o, hmatch, heq⟩ :=
        scoreOf_of_mem_ranking hids (hranked.mem_iff.mp (mem_of_mem_filter hx))
      refine ⟨(hvisible _).mpr ⟨_, he, rfl⟩, d, o, hmatch, ?_⟩
      rw [legacyPair, heq]
      rfl
    · obtain ⟨e, he, rfl⟩ := (hvisible id).mp hid
      exact hstoredIn e he
  · rw [get?_legacyRows hfrom, countP_map, ← hranked.countP_eq, ← hfilter.countP_eq]
    rfl

lemma legacy_spec (sql : SqlArithmetic) (access : Access) (db : Db) (hids : ids ≠ [])
    (limit : Option ℤ) (t : Artifacts) :
    ∃ candidates counts pairs stored ranked perPairs,
      replaceCandidatesForDemandesFromMatchQuery access db ids t.candidates = some (candidates, counts) ∧
      rebuildPairsForDemandesFromCandidatesSql sql access db ids limit candidates t.pairs
        = some (pairs, stored, ranked, perPairs) ∧
      Rebuilt sql access db ids limit t ⟨candidates, pairs⟩ ∧
      Counted sql db ids limit (legacyResult ids counts stored ranked perPairs) := by
  obtain ⟨candidates, counts, hreplace, hcandidates, hcounts⟩ :=
    replaceCandidates_spec sql access db hids t.candidates
  obtain ⟨pairs, perPairs, hrebuild, hpairs, hper⟩ := rebuildPairs_spec sql access db hids limit
    (fun k hk => (hcandidates k).trans (if_pos hk)) t.pairs
  refine ⟨candidates, counts, pairs, _, _, perPairs, hreplace, hrebuild, ⟨hcandidates, hpairs⟩,
    ⟨?_, rfl, rfl, fun id => ?_⟩⟩
  · have hmatchedIn : ∀ s ∈ scoredMatches sql db ids, s.demandeId ∈ ids.dedup := by
      intro s hs
      obtain ⟨d, o, hmatch, rfl⟩ := (mem_scoredMatches hids).mp hs
      exact mem_dedup.mpr hmatch.asked
    simp only [legacyResult, List.map_map, comp_def, hcounts]
    exact sum_countP_eq_length (List.nodup_dedup _) hmatchedIn
  · rw [legacyResult, Dict.get?_tabulate ids.dedup fun id => (⟨(Dict.get? counts id).getD 0,
      ((Dict.get? perPairs id).getD (0, 0)).2,
      ((Dict.get? perPairs id).getD (0, 0)).1⟩ : MatchArtifactCounts)]
    simp only [mem_dedup, hcounts, hper]

lemma pos_of_mem_positiveIds {demandeIds : List ℤ} (h : id ∈ positiveIds demandeIds) : 0 < id := by
  obtain ⟨v, hv, rfl⟩ := mem_map.mp h
  have hpos : 0 < v := by simpa using (mem_filter.mp hv).2
  omega

/-- What either pipeline does to the demandes it is given. -/
theorem computeMatchArtifacts_spec (sql : SqlArithmetic) (access : Access) (mode : PipelineMode)
    (db : Db) (demandeIds : List ℤ) (limit : Option ℤ) (t : Artifacts)
    (hids : positiveIds demandeIds ≠ []) :
    ∃ t' r, computeMatchArtifactsForDemandes sql access mode db demandeIds limit t = some (t', r) ∧
      Rebuilt sql access db (positiveIds demandeIds) limit t t' ∧
      Counted sql db (positiveIds demandeIds) limit r := by
  cases mode with
  | direct =>
    rw [computeMatchArtifactsForDemandes, if_neg hids]
    exact direct_spec hids (fun id => pos_of_mem_positiveIds) limit t
  | legacy =>
    rw [computeMatchArtifactsForDemandes, if_neg hids]
    obtain ⟨candidates, _, pairs, _, _, _, hreplace, hrebuild, ht, hr⟩ :=
      legacy_spec sql access db hids limit t
    refine ⟨⟨candidates, pairs⟩, _, ?_, ht, hr⟩
    simp only [hreplace, hrebuild, bind_eq_bind, bind_some]
    rfl

/-- For every database, every list of demandes and every limit, both pipelines succeed, leave the same
rows and return the same numbers. -/
theorem pipelines_agree (sql : SqlArithmetic) (access : Access) (db : Db) (demandeIds : List ℤ)
    (limit : Option ℤ) (t : Artifacts) :
    ∃ t₁ r₁ t₂ r₂, computeMatchArtifactsForDemandes sql access .direct db demandeIds limit t = some (t₁, r₁) ∧
      computeMatchArtifactsForDemandes sql access .legacy db demandeIds limit t = some (t₂, r₂) ∧
      t₁.Same t₂ ∧ r₁.Same r₂ := by
  by_cases hids : positiveIds demandeIds = []
  · refine ⟨t, .none, t, .none, ?_, ?_, ⟨fun _ => rfl, fun _ => rfl⟩, ⟨rfl, rfl, rfl, fun _ => rfl⟩⟩
    · rw [computeMatchArtifactsForDemandes, if_pos hids]
      rfl
    · rw [computeMatchArtifactsForDemandes, if_pos hids]
      rfl
  · obtain ⟨t₁, r₁, hdirect, ht₁, hr₁⟩ :=
      computeMatchArtifacts_spec sql access .direct db demandeIds limit t hids
    obtain ⟨t₂, r₂, hlegacy, ht₂, hr₂⟩ :=
      computeMatchArtifacts_spec sql access .legacy db demandeIds limit t hids
    exact ⟨t₁, r₁, t₂, r₂, hdirect, hlegacy, ht₁.same ht₂, hr₁.same hr₂⟩

end ImmoApp.Matching
