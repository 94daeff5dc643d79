import ImmoApp.Foundation.Pages
import ImmoApp.Foundation.Ranks
import ImmoApp.Matching.Invalidation
import ImmoApp.Matching.Pipelines
import ImmoApp.Matching.RebuildState

/-!
# The stored pairs after an operation on an offer

`match_pairs` keeps the best `DEFAULT_MATCH_PAIRS_LIMIT` matches of each demande with their ranks.  After an operation
on an offer its task recomputes the demandes that are compatible with the offer and those that `update_offer` gives as
hints.  The task after `delete_offer` and `purge_offer` only clears the pairs of the offer: the ranks keep a gap.

`pairs_top_iff_keeps` says that this is the only way in which the pairs of a demande go wrong.
-/

namespace ImmoApp.Matching

open Crm List Table

/-! ### The task -/

def defaultMatchPairsLimit : ℕ := 100

structure PairSettings where
  mode : PipelineMode
  fullSqlThreshold : ℕ
  demandeBatchSize : ℕ
  /-- The profile gives at least one demande to a batch. -/
  demandeBatchSize_pos : 0 < demandeBatchSize

def demandeBatches (demandeIds : List ℕ) (batchSize : ℕ) : List (List ℕ) :=
  slices demandeIds batchSize

variable (sql : SqlArithmetic) (access : Access) (settings : PairSettings)

/-- `compute_match_pairs_for_demandes`: the tables, the number of stored pairs and that of candidates. -/
def computeMatchPairsForDemandes (db : Db) (demandeIds : List ℕ) (limit : Option ℤ) (t : Artifacts) :
    Option (Artifacts × ℕ × ℕ) := do
  let normalizedIds := demandeIds.filter fun v => 0 < v
  if normalizedIds = [] then return (t, 0, 0)
  let (t, result) ← computeMatchArtifactsForDemandes sql access settings.mode db
    (normalizedIds.map fun v : ℕ => (v : ℤ)) limit t
  return (t, result.pairTotal, result.candidateTotal)

def computeDemandeChunks (db : Db) (demandeIds : List ℕ) (limit : Option ℤ) (t : Artifacts) :
    Option (Artifacts × ℕ × ℕ) :=
  let normalizedIds := sortedSet (fun a b => a ≤ b) (demandeIds.filter fun v => 0 < v)
  if normalizedIds = [] then some (t, 0, 0)
  else if normalizedIds.length ≤ settings.fullSqlThreshold then
    computeMatchPairsForDemandes sql access settings db normalizedIds limit t
  else
    (demandeBatches normalizedIds settings.demandeBatchSize).foldlM (fun acc batch => do
      let (t, stored, candidates) ← computeMatchPairsForDemandes sql access settings db batch limit acc.1
      return (t, acc.2.1 + stored, acc.2.2 + candidates)) (t, 0, 0)

/-- The transactions of `_compute_demande_chunks`. -/
def demandeChunks (settings : PairSettings) (demandeIds : List ℕ) : List (List ℕ) :=
  let ids := normalizedIds demandeIds
  if ids = [] then []
  else if ids.length ≤ settings.fullSqlThreshold then [ids]
  else demandeBatches ids settings.demandeBatchSize

def offerWorkList (db : Db) (offerId : ℕ) (demandeIdsHint : List ℕ) : List ℕ :=
  let demandeIds := getDemandeIdsForOffer db offerId
  let hintedIds := demandeIdsHint.filter fun v => 0 < v
  if hintedIds = [] then demandeIds else sortedSet (fun a b => a ≤ b) (demandeIds ++ hintedIds)

/-- `clear_candidates_for_offer` and `clear_pairs_for_offer`. -/
def Artifacts.clearForOffer (offerId : ℕ) (t : Artifacts) : Artifacts :=
  t.withoutOffers fun id => id == offerId

/-- `rebuild_match_pairs_for_offer`: the tables, the number of demandes and that of stored pairs. -/
def rebuildMatchPairsForOffer (db : Db) (offerId : ℕ) (demandeIdsHint : List ℕ) (t : Artifacts) :
    Option (Artifacts × ℕ × ℕ) := do
  let demandeIds := offerWorkList db offerId demandeIdsHint
  let (t, stored, _) ← computeDemandeChunks sql access settings db demandeIds
    (some defaultMatchPairsLimit) (t.clearForOffer offerId)
  return (t, demandeIds.length, stored)

/-! ### What is stored -/

def Stored (t : Artifacts) (s : Scored) (n : ℕ) : Prop :=
  ∃ p, t.pairs.get? s.key = some p ∧ p.score = s.score ∧ p.rank = n

def Best (db : Db) (s : Scored) (n : ℕ) : Prop :=
  IsTop Scored.before defaultMatchPairsLimit (scoredMatches sql db [s.demandeId]) s n

/-- The pairs of every demande are its best live matches, the best score and then the smallest id first,
with the ranks `1, …, k`. -/
def PairsTop (db : Db) (t : Artifacts) : Prop := ∀ s n, Stored t s n ↔ Best sql db s n

/-- The pairs of some demandes are computed anew, and those of the others stay. -/
def Recomputed (db : Db) (ids : List ℕ) (t t' : Artifacts) : Prop :=
  ∀ s n, Stored t' s n ↔ if s.demandeId ∈ ids then Best sql db s n else Stored t s n

variable {sql access settings} {db db' : Db} {t t' : Artifacts}

lemma Recomputed.nil : Recomputed sql db [] t t := by
  intro s n
  simp

lemma Recomputed.append {t'' : Artifacts} {ids ids' : List ℕ} (h : Recomputed sql db ids t t')
    (h' : Recomputed sql db ids' t' t'') : Recomputed sql db (ids ++ ids') t t'' := by
  intro s n
  rw [h' s n]
  by_cases hin' : s.demandeId ∈ ids'
  · simp [hin']
  · simp only [hin', if_false, mem_append, or_false]
    exact h s n

lemma Recomputed.congr {ids ids' : List ℕ} (h : Recomputed sql db ids t t')
    (hids : ∀ id, id ∈ ids ↔ id ∈ ids') : Recomputed sql db ids' t t' := by
  intro s n
  simp only [h s n, hids]

variable (sql db) in
lemma antisymm_scoredMatches (demandeId : ℕ) : Antisymm Scored.before (scoredMatches sql db [demandeId]) := by
  intro a ha b hb hab hba
  obtain ⟨d, o, hmatch, rfl⟩ := (mem_scoredMatches (by simp)).mp ha
  obtain ⟨_, _, hmatch', rfl⟩ := (mem_scoredMatches (by simp)).mp hb
  have hasked := mem_singleton.mp hmatch.asked
  have hasked' := mem_singleton.mp hmatch'.asked
  exact Scored.eq_of_before (hasked.trans hasked'.symm) hab hba

lemma mem_ranking_iff {ids : List ℕ} {s : Scored} {n : ℕ} (hin : s.demandeId ∈ ids) :
    (s, n) ∈ ranking sql db ids ↔ s ∈ scoredMatches sql db [s.demandeId] ∧
      rank Scored.before (scoredMatches sql db [s.demandeId]) s = n := by
  have hids : ids ≠ [] := ne_nil_of_mem hin
  have hmem : ∀ x : Scored, x ∈ scoredMatches sql db [s.demandeId] ↔
      x ∈ scoredMatches sql db ids ∧ x.demandeId = s.demandeId := by
    intro x
    rw [mem_scoredMatches hids, mem_scoredMatches (by simp)]
    constructor
    · rintro ⟨d, o, hmatch, rfl⟩
      have hasked := mem_singleton.mp hmatch.asked
      exact ⟨⟨d, o, ⟨hmatch.demande, hmatch.offer, hmatch.live, hasked ▸ hin⟩, rfl⟩, hasked⟩
    · rintro ⟨⟨d, o, hmatch, rfl⟩, hdemande⟩
      exact ⟨d, o, ⟨hmatch.demande, hmatch.offer, hmatch.live, mem_singleton.mpr hdemande⟩, rfl⟩
  have hperm : ((scoredMatches sql db ids).filter fun x => x.demandeId = s.demandeId).Perm
      (scoredMatches sql db [s.demandeId]) := by
    refine (perm_ext_iff_of_nodup ((nodup_dedup _).filter _) (nodup_dedup _)).mpr ?_
    intro x
    rw [mem_filter, decide_eq_true_eq]
    exact (hmem x).symm
  have hanti : ∀ a ∈ scoredMatches sql db ids, ∀ b ∈ scoredMatches sql db ids,
      a.demandeId = b.demandeId → a.before b → b.before a → a = b :=
    fun a _ b _ => Scored.eq_of_before
  have hnodup : (scoredMatches sql db ids).Nodup := nodup_dedup _
  rw [ranking, mem_rowNumber_iff_rank hnodup hanti, rank_perm hperm, hmem]
  simp

lemma recomputed_of_rebuilt {ids : List ℕ} (hids : ids ≠ [])
    (h : Rebuilt sql access db ids (some defaultMatchPairsLimit) t t') :
    Recomputed sql db ids t t' := by
  intro s n
  rw [Stored, h.pairs s.key]
  by_cases hin : s.demandeId ∈ ids
  · rw [if_pos hin]
    have hkey : s.key.1 ∈ ids := hin
    simp only [if_pos hkey]
    constructor
    · rintro ⟨p, hget, hscore, hrank⟩
      obtain ⟨x, hx, hrow⟩ := mem_map.mp (Dict.mem_of_get? hget)
      obtain ⟨hx, hlimit⟩ := mem_filter.mp hx
      obtain ⟨hxkey, hp⟩ := Prod.mk.inj hrow
      have hxs : x = (s, n) := by
        obtain ⟨_, _⟩ := Prod.mk.inj hxkey
        rw [← hp] at hscore hrank
        obtain ⟨⟨d, o, q⟩, m⟩ := x
        cases s
        simp_all
      rw [hxs] at hx hlimit
      obtain ⟨hmem, hrank⟩ := (mem_ranking_iff hin).mp hx
      refine ⟨hmem, hrank, ?_⟩
      simpa [withinLimit] using hlimit
    · rintro ⟨hmem, hrank, hlimit⟩
      have hranked : (s, n) ∈ ranking sql db ids := (mem_ranking_iff hin).mpr ⟨hmem, hrank⟩
      have hbest : pairRow access db (s, n) ∈ bestPairs sql access db ids (some (defaultMatchPairsLimit : ℤ)) := by
        refine mem_map_of_mem (mem_filter.mpr ⟨hranked, ?_⟩)
        simpa [withinLimit] using hlimit
      exact ⟨_, Dict.get?_of_mem (nodup_bestPairs_keys hids _) hbest, rfl, rfl⟩
  · have hkey : s.key.1 ∉ ids := hin
    simp only [if_neg hin, if_neg hkey]
    rfl

lemma positiveIds_natCast (ids : List ℕ) :
    positiveIds ((ids.filter fun v => 0 < v).map fun v : ℕ => (v : ℤ)) = ids.filter fun v => 0 < v := by
  have hall : (ids.filter fun v => 0 < v).map (fun v : ℕ => (v : ℤ))
      = ((ids.filter fun v => 0 < v).map fun v : ℕ => (v : ℤ)).filter fun v => 0 < v := by
    refine (filter_eq_self.mpr fun v hv => ?_).symm
    obtain ⟨u, hu, rfl⟩ := mem_map.mp hv
    simpa using (mem_filter.mp hu).2
  rw [positiveIds, ← hall, map_map]
  exact map_id'' (fun v => Int.toNat_natCast v) _

variable (sql access settings) in
/-- `compute_match_pairs_for_demandes` runs a pipeline for the positive ids, where there are some. -/
lemma computeMatchPairs_rebuilt (db : Db) (ids : List ℕ) (limit : Option ℤ) (t : Artifacts) :
    ∃ r, computeMatchPairsForDemandes sql access settings db ids limit t = some r ∧
      ((ids.filter fun v => 0 < v) = [] ∧ r.1 = t ∨ (ids.filter fun v => 0 < v) ≠ [] ∧
        Rebuilt sql access db (ids.filter fun v => 0 < v) limit t r.1) := by
  unfold computeMatchPairsForDemandes
  by_cases hnil : ids.filter (fun v => 0 < v) = []
  · rw [hnil]
    exact ⟨(t, 0, 0), rfl, .inl ⟨rfl, rfl⟩⟩
  · obtain ⟨t', r, hcompute, hrebuilt, -⟩ := computeMatchArtifacts_spec sql access settings.mode db
      ((ids.filter fun v => 0 < v).map fun v : ℕ => (v : ℤ)) limit t (by rwa [positiveIds_natCast])
    rw [positiveIds_natCast] at hrebuilt
    refine ⟨(t', r.pairTotal, r.candidateTotal), ?_, .inr ⟨hnil, hrebuilt⟩⟩
    simp only [if_neg hnil, hcompute]
    rfl

variable (sql access settings) in
lemma computeMatchPairs_spec (db : Db) (ids : List ℕ) (t : Artifacts) :
    ∃ r, computeMatchPairsForDemandes sql access settings db ids (some defaultMatchPairsLimit) t
        = some r ∧ Recomputed sql db (ids.filter fun v => 0 < v) t r.1 := by
  obtain ⟨r, hcompute, ⟨hnil, hsame⟩ | ⟨hids, hrebuilt⟩⟩ := computeMatchPairs_rebuilt sql access
    settings db ids (some defaultMatchPairsLimit) t
  · refine ⟨r, hcompute, ?_⟩
    rw [hnil, hsame]
    exact Recomputed.nil
  · exact ⟨r, hcompute, recomputed_of_rebuilt hids hrebuilt⟩

variable (sql access settings) in
lemma foldlM_batches (db : Db) (batches : List (List ℕ)) (acc : Artifacts × ℕ × ℕ) :
    ∃ r, batches.foldlM (fun acc batch => do
        let (t, stored, candidates) ← computeMatchPairsForDemandes sql access settings db batch
          (some defaultMatchPairsLimit) acc.1
        return (t, acc.2.1 + stored, acc.2.2 + candidates)) acc = some r ∧
      Recomputed sql db (batches.flatten.filter fun v => 0 < v) acc.1 r.1 := by
  induction batches generalizing acc with
  | nil => exact ⟨acc, rfl, Recomputed.nil⟩
  | cons batch _ ih =>
    obtain ⟨r, hcompute, hfirst⟩ := computeMatchPairs_spec sql access settings db batch acc.1
    obtain ⟨r', hrest, hrecomputed⟩ := ih (r.1, acc.2.1 + r.2.1, acc.2.2 + r.2.2)
    refine ⟨r', ?_, ?_⟩
    · rw [foldlM_cons, hcompute]
      exact hrest
    · rw [flatten_cons, filter_append]
      exact hfirst.append hrecomputed

lemma computeDemandeChunks_eq_foldlM (db : Db) (demandeIds : List ℕ) (limit : Option ℤ) (t : Artifacts) :
    computeDemandeChunks sql access settings db demandeIds limit t
      = (demandeChunks settings demandeIds).foldlM (fun acc batch => do
          let (t, stored, candidates) ← computeMatchPairsForDemandes sql access settings db batch limit acc.1
          return (t, acc.2.1 + stored, acc.2.2 + candidates)) (t, 0, 0) := by
  unfold computeDemandeChunks demandeChunks normalizedIds
  dsimp only
  split
  · rfl
  · split
    · rw [foldlM_cons]
      cases computeMatchPairsForDemandes sql access settings db _ limit t with
      | none => rfl
      | some => simp
    · rfl

lemma mem_demandeChunks {demandeIds : List ℕ} {id : ℕ} :
    id ∈ (demandeChunks settings demandeIds).flatten ↔ id ∈ demandeIds ∧ 0 < id := by
  rw [← mem_normalizedIds]
  unfold demandeChunks
  dsimp only
  split
  · next hnil => rw [hnil, flatten_nil]
  · split
    · rw [flatten_singleton]
    · exact mem_slices settings.demandeBatchSize_pos

variable (sql access settings) in
lemma computeDemandeChunks_spec (db : Db) (ids : List ℕ) (t : Artifacts) :
    ∃ r, computeDemandeChunks sql access settings db ids (some defaultMatchPairsLimit) t = some r ∧
      Recomputed sql db (ids.filter fun v => 0 < v) t r.1 := by
  obtain ⟨r, hcompute, hrecomputed⟩ := foldlM_batches sql access settings db (demandeChunks settings ids) (t, 0, 0)
  refine ⟨r, ?_, hrecomputed.congr fun id => ?_⟩
  · rw [computeDemandeChunks_eq_foldlM]
    exact hcompute
  · rw [mem_filter, mem_filter, mem_demandeChunks, decide_eq_true_eq, and_assoc, and_self]

/-! ### What an operation leaves -/

structure OfferFrame (offerId : ℕ) (db db' : Db) : Prop where
  clients : db'.clients = db.clients
  listings : db'.listings = db.listings
  demandes : db'.demandes = db.demandes
  demandeLocations : db'.demandeLocations = db.demandeLocations
  offers : ∀ o, o.id ≠ offerId → (o ∈ db'.offers.rows ↔ o ∈ db.offers.rows)
  offerLocations : ∀ id loc, id ≠ offerId → ((id, loc) ∈ db'.offerLocations ↔ (id, loc) ∈ db.offerLocations)

variable (sql) in
/-- An offer among the pairs of a demande is the last of its matches. -/
def OfferLast (db : Db) (offerId demandeId : ℕ) : Prop :=
  ∀ a ∈ scoredMatches sql db [demandeId], a.offerId = offerId →
    rank Scored.before (scoredMatches sql db [demandeId]) a ≤ defaultMatchPairsLimit →
      ∀ b ∈ scoredMatches sql db [demandeId], b.before a

section Frame

variable {offerId : ℕ} (hframe : OfferFrame offerId db db')

include hframe

lemma OfferFrame.locationJoin {demandeId id : ℕ} (hid : id ≠ offerId) :
    Crm.locationJoin db' demandeId id = Crm.locationJoin db demandeId id := by
  rw [Bool.eq_iff_iff, locationJoin_iff, locationJoin_iff, hframe.demandeLocations]
  exact exists_congr fun loc => and_congr_right fun _ => hframe.offerLocations id loc hid

lemma OfferFrame.hasLocations (d : Row DemandeColumns) :
    Matching.hasLocations db' d = Matching.hasLocations db d := by
  rw [Matching.hasLocations, hframe.demandeLocations, Matching.hasLocations]

lemma OfferFrame.liveMatch {d : Row DemandeColumns} {o : Row OfferColumns} (ho : o.id ≠ offerId) :
    Matching.liveMatch db' d o = Matching.liveMatch db d o := by
  simp only [Matching.liveMatch, compatible, clientOk, clientJoin, offerOk, listingJoin, placeMatch,
    hframe.clients, hframe.listings, hframe.locationJoin ho, hframe.hasLocations]

lemma OfferFrame.score {d : Row DemandeColumns} {o : Row OfferColumns} (ho : o.id ≠ offerId) :
    Matching.score sql db' d o = Matching.score sql db d o := by
  simp only [Matching.score, scoreRaw, placeScore, hframe.locationJoin ho, hframe.hasLocations]

lemma OfferFrame.scoredMatches {s : Scored} (hs : s.offerId ≠ offerId) (demandeId : ℕ) :
    s ∈ Matching.scoredMatches sql db' [demandeId] ↔ s ∈ Matching.scoredMatches sql db [demandeId] := by
  rw [mem_scoredMatches (by simp), mem_scoredMatches (by simp)]
  constructor
  · rintro ⟨d, o, hmatch, rfl⟩
    refine ⟨d, o, ⟨?_, (hframe.offers o hs).mp hmatch.offer, ?_, hmatch.asked⟩, ?_⟩
    · exact hframe.demandes ▸ hmatch.demande
    · exact (hframe.liveMatch hs).symm.trans hmatch.live
    · rw [hframe.score hs]
  · rintro ⟨d, o, hmatch, rfl⟩
    refine ⟨d, o, ⟨?_, (hframe.offers o hs).mpr hmatch.offer, ?_, hmatch.asked⟩, ?_⟩
    · exact hframe.demandes.symm ▸ hmatch.demande
    · exact (hframe.liveMatch hs).trans hmatch.live
    · rw [hframe.score hs]

/-- Where a demande loses the offer and is not recomputed, its pairs stay the best ones if and only if the
offer was not among them, or the last of all its matches. -/
lemma OfferFrame.best_iff {demandeId : ℕ}
    (hgone : ∀ s ∈ Matching.scoredMatches sql db' [demandeId], s.offerId ≠ offerId) :
    (∀ s n, s.demandeId = demandeId → (s.offerId ≠ offerId ∧ Best sql db s n ↔ Best sql db' s n)) ↔
      OfferLast sql db offerId demandeId := by
  unfold OfferLast
  have hdemande : ∀ {s : Scored}, s ∈ Matching.scoredMatches sql db [demandeId] → s.demandeId = demandeId := by
    intro s hs
    obtain ⟨d, o, hmatch, rfl⟩ := (mem_scoredMatches (by simp)).mp hs
    exact mem_singleton.mp hmatch.asked
  have hone : ∀ a ∈ Matching.scoredMatches sql db [demandeId],
      ∀ b ∈ Matching.scoredMatches sql db [demandeId], a.offerId = b.offerId → a = b := by
    intro a ha b hb hoffer
    have hkey : a.key = b.key := Prod.ext ((hdemande ha).trans (hdemande hb).symm) hoffer
    exact ((mem_scoredMatches (by simp)).mp ha).eq_of_key ((mem_scoredMatches (by simp)).mp hb) hkey
  have hafter : ∀ s, s ∈ Matching.scoredMatches sql db' [demandeId] ↔
      s ∈ Matching.scoredMatches sql db [demandeId] ∧ s.offerId ≠ offerId := by
    intro s
    by_cases hs : s.offerId = offerId
    · constructor
      · exact fun hmem => absurd hs (hgone s hmem)
      · exact fun hmem => absurd hs hmem.2
    · rw [hframe.scoredMatches hs]
      exact (and_iff_left hs).symm
  set before := Matching.scoredMatches sql db [demandeId] with hbefore
  have hnodup : before.Nodup := nodup_dedup _
  have hnodup' : (Matching.scoredMatches sql db' [demandeId]).Nodup := nodup_dedup _
  by_cases hlost : ∃ a ∈ before, a.offerId = offerId
  · obtain ⟨a, ha, hoffer⟩ := hlost
    have hne : ∀ s ∈ before, s ≠ a ↔ s.offerId ≠ offerId := by
      intro s hs
      constructor
      · exact fun hsa heq => hsa (hone s hs a ha (heq.trans hoffer.symm))
      · rintro hso rfl
        exact hso hoffer
    have hperm : (Matching.scoredMatches sql db' [demandeId]).Perm (before.erase a) := by
      refine (perm_ext_iff_of_nodup hnodup' (hnodup.erase a)).mpr fun s => ?_
      rw [hafter, hnodup.mem_erase_iff, and_comm]
      exact and_congr_left fun hs => (hne s hs).symm
    have hsame : (∀ s n, s.demandeId = demandeId → (s.offerId ≠ offerId ∧ Best sql db s n ↔ Best sql db' s n)) ↔
        ∀ s n, s ≠ a ∧ IsTop Scored.before defaultMatchPairsLimit before s n ↔
          IsTop Scored.before defaultMatchPairsLimit (before.erase a) s n := by
      refine forall_congr' fun s => forall_congr' fun n => ?_
      by_cases hs : s.demandeId = demandeId
      · subst hs
        simp only [Best, ← hbefore, isTop_perm hperm, forall_const]
        rw [and_congr_left fun htop : IsTop _ _ before s n => (hne s htop.1).symm]
      · have hout : s ∉ before := fun hmem => hs (hdemande hmem)
        have hout' : s ∉ before.erase a := fun hmem => hout (mem_of_mem_erase hmem)
        simp [hs, IsTop, hout, hout']
    rw [hsame, top_erase_iff (antisymm_scoredMatches sql db demandeId) hnodup ha]
    constructor
    · intro hlast a' ha' hoffer'
      rw [hone a' ha' a ha (hoffer'.trans hoffer.symm)]
      exact hlast
    · exact fun hlast => hlast a ha hoffer
  · have hkept : ∀ s ∈ before, s.offerId ≠ offerId := fun s hs hoffer => hlost ⟨s, hs, hoffer⟩
    have hperm : (Matching.scoredMatches sql db' [demandeId]).Perm before := by
      refine (perm_ext_iff_of_nodup hnodup' hnodup).mpr fun s => ?_
      rw [hafter]
      exact and_iff_left_of_imp (hkept s)
    refine iff_of_true (fun s n hs => ?_) fun a ha hoffer => absurd hoffer (hkept a ha)
    subst hs
    simp only [Best, ← hbefore, isTop_perm hperm]
    exact and_iff_right_of_imp fun htop => hkept s htop.1

end Frame

variable {backend : Backend} {now : ℕ} {s : MatchStore} {c : Change}

lemma mem_populateOfferLinks_other {unicode : Unicode} {offerId : ℕ} {text : String}
    (hid : offerId ≠ 0) (hoffer : offerId ∈ db.offers.rows.map Row.id) (id loc : ℕ)
    (hne : id ≠ offerId) :
    (id, loc) ∈ (populateOfferLinks unicode offerId text db).offerLocations ↔ (id, loc) ∈ db.offerLocations :=
  (populate_spec unicode hid hoffer text db.locations db.offerLocations).2.2 id loc hne

lemma offerFrame_of_change {call : OfferCall} (h : call.change backend now s = .ok c) :
    OfferFrame (call.offerId s.db) s.db c.db := by
  have hwrite := (change_spec (m := .offer call) h).write
  match call with
  | .create listingId payload =>
    obtain ⟨_, columns, -, -, -, hdb⟩ := createOffer_ok hwrite
    rw [hdb]
    refine ⟨rfl, rfl, rfl, rfl, fun o ho => ?_, fun id loc hid => ?_⟩
    · change o ∈ (s.db.offers.insert columns now).rows ↔ _
      rw [mem_insert]
      refine or_iff_left ?_
      rintro rfl
      exact ho rfl
    · refine mem_populateOfferLinks_other s.db.offers.started.ne' ?_ id loc hid
      exact mem_map_of_mem (mem_insert.mpr (.inr rfl))
  | .update offerId payload =>
    obtain ⟨_, p, r, f, hselects, -, -, -, hdb⟩ := updateOffer_ok hwrite
    rw [hdb]
    refine ⟨rfl, rfl, rfl, rfl, fun o ho => ?_, fun id loc hid => ?_⟩
    · exact mem_update_of_ne (fun r' hr' hp => (hselects.only r' hr' hp).trans hselects.key) o ho
    · have hpos := s.db.offers.positive r hselects.mem
      refine mem_populateOfferLinks_other ?_ ?_ id loc hid
      · rw [← hselects.key]
        exact hpos.ne'
      · refine mem_map.mpr ⟨_, mem_update.mpr ⟨r, hselects.mem, rfl⟩, ?_⟩
        exact (assign_id _ _ _).trans hselects.key
  | .delete offerId =>
    obtain ⟨⟩ := h
    exact ⟨rfl, rfl, rfl, rfl, mem_update_of_ne fun r _ hp => beq_iff_eq.mp hp,
      fun _ _ _ => Iff.rfl⟩
  | .restore offerId =>
    obtain ⟨⟩ := h
    exact ⟨rfl, rfl, rfl, rfl, mem_update_of_ne fun r _ hp => beq_iff_eq.mp hp,
      fun _ _ _ => Iff.rfl⟩
  | .purge offerId =>
    obtain ⟨⟩ := h
    refine ⟨rfl, rfl, rfl, rfl, fun o ho => ?_, fun id loc hid => ?_⟩
    · change o ∈ (s.db.offers.delete fun r => r.id == offerId).rows ↔ _
      rw [mem_delete]
      have hother : o.id ≠ offerId := ho
      simp [hother]
    · change (id, loc) ∈ s.db.offerLocations.filter _ ↔ _
      rw [mem_filter]
      refine and_iff_left ?_
      simp only [Bool.not_eq_true', any_eq_false, Bool.and_eq_true, beq_iff_eq, not_and]
      rintro r - rfl
      exact hid

lemma stored_withoutOffers {gone : ℕ → Bool} {x : Scored} {n : ℕ} :
    Stored (t.withoutOffers gone) x n ↔ gone x.offerId = false ∧ Stored t x n := by
  have hget : (t.withoutOffers gone).pairs.get? x.key
      = (t.pairs.get? x.key).filter fun _ => !gone x.offerId := Keyed.get?_delete _ _ _
  simp only [Stored, hget, Option.filter_eq_some_iff, Bool.not_eq_true']
  constructor
  · rintro ⟨p, ⟨hp, hgone⟩, hrow⟩
    exact ⟨hgone, p, hp, hrow⟩
  · rintro ⟨hgone, p, hp, hrow⟩
    exact ⟨p, ⟨hp, hgone⟩, hrow⟩

lemma stored_of_change {call : OfferCall} (h : call.change backend now s = .ok c) {x : Scored} {n : ℕ}
    (hx : x.offerId ≠ call.offerId s.db) : Stored c.artifacts x n ↔ Stored s.artifacts x n := by
  match call with
  | .create listingId payload =>
    change createOffer backend listingId payload now s = .ok c at h
    unfold createOffer at h
    split at h
    · simp at h
    · obtain ⟨_, -, h⟩ := bind_eq_ok_iff.mp h
      obtain ⟨_, -, h⟩ := bind_eq_ok_iff.mp h
      obtain ⟨⟩ := h
      rfl
  | .update offerId payload =>
    obtain ⟨_, -, h⟩ := bind_eq_ok_iff.mp h
    obtain ⟨_, -, h⟩ := bind_eq_ok_iff.mp h
    obtain ⟨⟩ := h
    rfl
  | .delete offerId =>
    obtain ⟨⟩ := h
    rfl
  | .restore offerId =>
    obtain ⟨⟩ := h
    rfl
  | .purge offerId =>
    obtain ⟨⟩ := h
    exact stored_withoutOffers.trans (and_iff_right (beq_false_of_ne hx))

lemma mem_offerWorkList {offerId id : ℕ} {hints : List ℕ} : id ∈ offerWorkList db offerId hints ↔
      id ∈ getDemandeIdsForOffer db offerId ∨ id ∈ hints ∧ 0 < id := by
  have hhinted : id ∈ hints.filter (fun v => 0 < v) ↔ id ∈ hints ∧ 0 < id := by simp
  rw [offerWorkList, ← hhinted]
  split
  · next hnil => simp [hnil]
  · rw [mem_sortedSet, mem_append]

lemma pos_of_mem_offerWorkList {offerId id : ℕ} {hints : List ℕ}
    (h : id ∈ offerWorkList db offerId hints) : 0 < id := by
  rcases mem_offerWorkList.mp h with hid | hid
  · obtain ⟨d, hd, o, -, -, -, rfl⟩ := mem_getDemandeIdsForOffer.mp hid
    exact db.demandes.positive d hd
  · exact hid.2

variable (sql access settings) in
/-- `rebuild_match_pairs_for_offer`: the demandes of its list are computed anew, and the others lose the
offer. -/
lemma rebuildMatchPairsForOffer_spec (db : Db) (offerId : ℕ) (hints : List ℕ) (t : Artifacts) :
    ∃ r, rebuildMatchPairsForOffer sql access settings db offerId hints t = some r ∧
      ∀ x n, Stored r.1 x n ↔ if x.demandeId ∈ offerWorkList db offerId hints then Best sql db x n
        else x.offerId ≠ offerId ∧ Stored t x n := by
  obtain ⟨r, hcompute, hrecomputed⟩ := computeDemandeChunks_spec sql access settings db
    (offerWorkList db offerId hints) (t.clearForOffer offerId)
  refine ⟨(r.1, (offerWorkList db offerId hints).length, r.2.1), ?_, fun x n => ?_⟩
  · rw [rebuildMatchPairsForOffer, hcompute]
    rfl
  · rw [hrecomputed x n]
    have hpos : x.demandeId ∈ (offerWorkList db offerId hints).filter (fun v => 0 < v) ↔
        x.demandeId ∈ offerWorkList db offerId hints := by
      rw [mem_filter]
      exact and_iff_left_of_imp fun hmem => by simpa using pos_of_mem_offerWorkList hmem
    simp only [hpos, Artifacts.clearForOffer, stored_withoutOffers, beq_eq_false_iff_ne]

lemma offer_ne_of_not_mem {offerId demandeId : ℕ} {hints : List ℕ}
    (hnot : demandeId ∉ offerWorkList db offerId hints) :
    ∀ x ∈ scoredMatches sql db [demandeId], x.offerId ≠ offerId := by
  rintro x hx rfl
  obtain ⟨d, o, hmatch, rfl⟩ := (mem_scoredMatches (by simp)).mp hx
  refine hnot (mem_offerWorkList.mpr (.inl (mem_getDemandeIdsForOffer.mpr
    ⟨d, hmatch.demande, o, hmatch.offer, ?_, rfl, mem_singleton.mp hmatch.asked⟩)))
  exact hmatch.compatible

/-! ### All operations -/

variable (sql) in
/-- An offer is deleted only where it is the last match of the demandes whose pairs it is among. -/
def OfferCall.Keeps (call : OfferCall) (db : Db) : Prop :=
  match call with
  | .delete offerId | .purge offerId => ∀ demandeId, OfferLast sql db offerId demandeId
  | .create _ _ | .update _ _ | .restore _ => True

lemma getDemandeIdsForOffer_dead {offerId id : ℕ} (hdead : ∀ o ∈ db.offers.rows, o.id = offerId → o.live = false) :
    id ∉ getDemandeIdsForOffer db offerId := by
  intro hid
  obtain ⟨d, -, o, ho, hcompatible, hoffer, -⟩ := mem_getDemandeIdsForOffer.mp hid
  simp only [compatible, Bool.and_eq_true] at hcompatible
  have hactive := (offerOk_iff.mp hcompatible.1.1.1.2).1.2
  rw [activeOffer, hdead o ho hoffer, Bool.and_false] at hactive
  cases hactive

/-- The demandes that are not recomputed keep their pairs where the condition holds, and only there. -/
lemma offerLast_iff_keeps {call : OfferCall} (hbefore : PairsTop sql s.db s.artifacts)
    (h : call.change backend now s = .ok c) :
    (∀ demandeId, demandeId ∉ offerWorkList c.db (call.offerId s.db) c.demandeIdsHint →
      OfferLast sql s.db (call.offerId s.db) demandeId) ↔ call.Keeps sql s.db := by
  match call with
  | .create listingId payload =>
    refine iff_of_true (fun demandeId _ a ha hoffer => ?_) trivial
    -- the id of the new offer is that of no match
    obtain ⟨d, o, hmatch, rfl⟩ := (mem_scoredMatches (by simp)).mp ha
    have hfresh := s.db.offers.fresh o hmatch.offer
    have hnew : o.id = s.db.offers.nextId := hoffer
    omega
  | .update offerId payload =>
    refine iff_of_true (fun demandeId hnot a ha hoffer hrank => ?_) trivial
    -- the demandes that store the offer are among the hints
    have hdemande : a.demandeId = demandeId := by
      obtain ⟨d, o, hmatch, rfl⟩ := (mem_scoredMatches (by simp)).mp ha
      exact mem_singleton.mp hmatch.asked
    subst hdemande
    obtain ⟨p, hp, -⟩ := (hbefore a _).mpr ⟨ha, rfl, hrank⟩
    have hpos : 0 < a.demandeId := by
      obtain ⟨d, o, hmatch, rfl⟩ := (mem_scoredMatches (by simp)).mp ha
      exact s.db.demandes.positive d hmatch.demande
    have hhint : a.demandeId ∈ c.demandeIdsHint := by
      obtain ⟨_, -, h⟩ := bind_eq_ok_iff.mp h
      obtain ⟨_, -, h⟩ := bind_eq_ok_iff.mp h
      obtain ⟨⟩ := h
      refine mem_sortedSet.mpr (mem_filter.mpr ⟨mem_append_left _ ?_, by simpa using hpos⟩)
      refine mem_getDemandeIdsFromPrecomputedForOffer.mpr (.inl ?_)
      have hkey : (a.demandeId, offerId) = a.key := Prod.ext rfl hoffer.symm
      rw [hkey, hp]
      rfl
    exact absurd (mem_offerWorkList.mpr (.inr ⟨hhint, hpos⟩)) hnot
  | .restore offerId =>
    refine iff_of_true (fun demandeId hnot a ha hoffer => ?_) trivial
    -- an offer that is live stays compatible
    obtain ⟨⟩ := h
    obtain ⟨d, o, hmatch, rfl⟩ := (mem_scoredMatches (by simp)).mp ha
    refine absurd (mem_offerWorkList.mpr (.inl ?_)) hnot
    refine mem_getDemandeIdsForOffer.mpr ⟨d, hmatch.demande, o.restore now, ?_, ?_, hoffer,
      mem_singleton.mp hmatch.asked⟩
    · refine mem_update.mpr ⟨o, hmatch.offer, ?_⟩
      have hid : (o.id == offerId) = true := beq_iff_eq.mpr hoffer
      rw [Table.assign, if_pos hid]
      rfl
    · have hactive := hmatch.activeOffer
      rw [activeOffer, Bool.and_eq_true] at hactive
      have hlive : (o.restore now).live = o.live := hactive.2.symm
      refine Eq.trans ?_ hmatch.compatible
      simp only [compatible, offerOk, activeOffer, hlive]
      rfl
  | .delete offerId =>
    obtain ⟨⟩ := h
    refine forall_congr' fun demandeId => ⟨fun hlast => hlast fun hmem => ?_, fun hlast _ => hlast⟩
    rcases mem_offerWorkList.mp hmem with hid | hid
    · refine getDemandeIdsForOffer_dead (fun o ho hoffer => ?_) hid
      obtain ⟨r, _, rfl⟩ := mem_update.mp ho
      have hrid : r.id = offerId := (assign_id _ _ r).symm.trans hoffer
      simp [Table.assign, hrid, Row.delete, Row.live]
    · exact absurd hid.1 not_mem_nil
  | .purge offerId =>
    obtain ⟨⟩ := h
    refine forall_congr' fun demandeId => ⟨fun hlast => hlast fun hmem => ?_, fun hlast _ => hlast⟩
    rcases mem_offerWorkList.mp hmem with hid | hid
    · refine getDemandeIdsForOffer_dead (fun o ho hoffer => ?_) hid
      have hkept := (mem_delete.mp ho).2
      have hoid : o.id = offerId := hoffer
      simp [hoid] at hkept
    · exact absurd hid.1 not_mem_nil

/-- After an operation and its task the pairs of every demande are its best matches if and only if those
of the demandes that are not recomputed were so without the offer. -/
lemma pairsTop_iff_offerLast {call : OfferCall} (hbefore : PairsTop sql s.db s.artifacts)
    (h : call.change backend now s = .ok c) {t : Artifacts}
    (hstored : ∀ x n, Stored t x n ↔
      if x.demandeId ∈ offerWorkList c.db (call.offerId s.db) c.demandeIdsHint then Best sql c.db x n
      else x.offerId ≠ call.offerId s.db ∧ Stored c.artifacts x n) :
    PairsTop sql c.db t ↔ ∀ demandeId, demandeId ∉ offerWorkList c.db (call.offerId s.db) c.demandeIdsHint →
        OfferLast sql s.db (call.offerId s.db) demandeId := by
  have hframe := offerFrame_of_change h
  -- a demande that is not recomputed keeps what it stored, without the offer
  have hkept : ∀ x n, x.offerId ≠ call.offerId s.db ∧ Stored c.artifacts x n ↔
      x.offerId ≠ call.offerId s.db ∧ Best sql s.db x n := by
    intro x n
    exact and_congr_right fun hx => (stored_of_change h hx).trans (hbefore x n)
  constructor
  · intro htop demandeId hnot
    refine (hframe.best_iff (offer_ne_of_not_mem hnot)).mp ?_
    rintro x n rfl
    rw [← hkept, ← htop x n, hstored x n, if_neg hnot]
  · intro hlast x n
    rw [hstored x n]
    split
    · rfl
    · next hnot =>
      rw [hkept]
      exact (hframe.best_iff (offer_ne_of_not_mem hnot)).mpr (hlast _ hnot) x n rfl

/-- Where the pairs of every demande are its best matches before an operation on an offer, they are so
after the operation and its task if and only if the offer is not deleted, or is the last match of each
demande whose pairs it is among. -/
theorem pairs_top_iff_keeps {call : OfferCall} (hbefore : PairsTop sql s.db s.artifacts)
    (h : call.change backend now s = .ok c) :
    ∃ r, rebuildMatchPairsForOffer sql access settings c.db (call.offerId s.db) c.demandeIdsHint
        (c.commit s).artifacts = some r ∧
      (PairsTop sql c.db r.1 ↔ call.Keeps sql s.db) := by
  obtain ⟨r, hrun, hstored⟩ := rebuildMatchPairsForOffer_spec sql access settings c.db
    (call.offerId s.db) c.demandeIdsHint c.artifacts
  exact ⟨r, hrun, (pairsTop_iff_offerLast hbefore h hstored).trans (offerLast_iff_keeps hbefore h)⟩

variable (sql) in
lemma exists_pairsTop (access : Access) (settings : PairSettings) (db : Db) : ∃ t, PairsTop sql db t := by
  obtain ⟨r, -, hrecomputed⟩ := computeDemandeChunks_spec sql access settings db
    (db.demandes.rows.map Row.id) ⟨Keyed.empty, Keyed.empty⟩
  refine ⟨r.1, fun x n => ?_⟩
  rw [hrecomputed x n]
  split
  · rfl
  · next hout =>
    refine iff_of_false ?_ ?_
    · rintro ⟨p, hp, -⟩
      cases hp
    · rintro ⟨hmem, -⟩
      obtain ⟨d, o, hmatch, rfl⟩ := (mem_scoredMatches (by simp)).mp hmem
      exact hout (mem_filter.mpr ⟨mem_map_of_mem hmatch.demande, by
        simpa using db.demandes.positive d hmatch.demande⟩)

def plainSql : SqlArithmetic := ⟨id, id, id⟩

def plainAccess : Access := ⟨fun _ => none, fun _ => none, fun _ => none, fun _ => none⟩

def plainSettings : PairSettings := ⟨.direct, 200, 200, by omega⟩

def twoOffersDb : Db :=
  { hydraDb 16 with
    offers := (Table.empty.insert (plainOffer 16) 0).insert (plainOffer 16) 0
    offerLocations := [(1, 1), (2, 1)] }

theorem pairs_top_last_deleted : ∃ t r, PairsTop plainSql twoOffersDb t ∧
    rebuildMatchPairsForOffer plainSql plainAccess plainSettings (Offers.deleteOffer 2 1 twoOffersDb) 2
      [] t = some r ∧ PairsTop plainSql (Offers.deleteOffer 2 1 twoOffersDb) r.1 := by
  obtain ⟨t, ht⟩ := exists_pairsTop plainSql plainAccess plainSettings twoOffersDb
  obtain ⟨r, hrun, htop⟩ := @pairs_top_iff_keeps plainSql plainAccess plainSettings sampleBackend 1
    ⟨twoOffersDb, t, Keyed.empty⟩ _ (.delete 2) ht rfl
  refine ⟨t, r, ht, hrun, htop.mpr fun demandeId a ha hoffer _ b hb => ?_⟩
  have hone : demandeId = 1 := by
    obtain ⟨d, o, hmatch, -⟩ := (mem_scoredMatches (by simp)).mp ha
    have hd : d = ⟨1, plainDemande, none, 0, 1⟩ := mem_singleton.mp hmatch.demande
    exact (hd ▸ mem_singleton.mp hmatch.asked).symm
  subst hone
  have hall : ∀ a ∈ scoredMatches plainSql twoOffersDb [1], a.offerId = 2 →
      ∀ b ∈ scoredMatches plainSql twoOffersDb [1], b.before a := by
    decide +kernel
  exact hall a ha hoffer b hb

/-- The first of two matches is deleted: the second one keeps the rank 2. -/
theorem rank_gap_after_delete :
    ¬ ∀ (sql : SqlArithmetic) (access : Access) (settings : PairSettings) (backend : Backend)
      (call : OfferCall) (now : ℕ) (s : MatchStore) (c : Change) (r : Artifacts × ℕ × ℕ),
      PairsTop sql s.db s.artifacts → call.change backend now s = .ok c →
        rebuildMatchPairsForOffer sql access settings c.db (call.offerId s.db) c.demandeIdsHint
          (c.commit s).artifacts = some r → PairsTop sql c.db r.1 := by
  intro h
  obtain ⟨t, ht⟩ := exists_pairsTop plainSql plainAccess plainSettings twoOffersDb
  set s : MatchStore := ⟨twoOffersDb, t, Keyed.empty⟩ with hs
  have hchange : (OfferCall.delete 1).change sampleBackend 1 s = .ok (deleteOffer 1 1 s) := rfl
  obtain ⟨r, hrun, hstored⟩ := rebuildMatchPairsForOffer_spec plainSql plainAccess plainSettings
    (deleteOffer 1 1 s).db 1 [] t
  have htop := h plainSql plainAccess plainSettings sampleBackend (.delete 1) 1 s _ r ht hchange hrun
  have hnot : 1 ∉ offerWorkList (Offers.deleteOffer 1 1 twoOffersDb) 1 [] := by
    decide +kernel
  have hlast := (pairsTop_iff_offerLast (s := s) ht hchange hstored).mp htop 1 hnot
  have hgap : ∃ a ∈ scoredMatches plainSql twoOffersDb [1], a.offerId = 1 ∧
      rank Scored.before (scoredMatches plainSql twoOffersDb [1]) a ≤ defaultMatchPairsLimit ∧
        ∃ b ∈ scoredMatches plainSql twoOffersDb [1], ¬ b.before a := by
    decide +kernel
  obtain ⟨a, ha, hoffer, hrank, b, hb, hafter⟩ := hgap
  exact hafter (hlast a ha hoffer hrank b hb)

end ImmoApp.Matching
