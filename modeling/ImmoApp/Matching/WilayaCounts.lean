import ImmoApp.Matching.Refreshes

/-!
# Rebuilding the counts of a province

`rebuild_match_cache_wilaya` counts, for each client with a demande in a province, the offers that are
candidates of its demandes in that province, and stores the groups of the query as the counts of these
clients.  A client without such an offer is in no group and keeps the count it has; a client whose other
demandes have other offers gets too small a number.  `wilaya_counts_iff` says for which clients the cache
holds afterwards what `count_clients_for_ids` counts.
-/

namespace ImmoApp.Matching

open Crm List Option

/-- The argument `wilaya_id` of the task. -/
inductive WilayaArg where
  | id (n : ℤ)
  | text (s : String)
  | absent

structure WilayaNames where
  digits : String → Option ℕ
  getWilayaId : String → Option ℤ

def resolveWilayaId (names : WilayaNames) (wilayaId : WilayaArg) (wilaya : Option String) : Option ℤ :=
  match wilayaId with
  | .id n => if n = 0 then none else some n
  | .text s =>
    match names.digits (strip s) with
    | some value => if value = 0 then none else some value
    | none => names.getWilayaId (strip s)
  | .absent => (wilaya.filter fun name => name != "").bind names.getWilayaId

/-- `target_demandes`: the active demandes of a province with active clients. -/
def targetDemandes (db : Db) (wilayaId : ℤ) : List (Row DemandeColumns) :=
  (db.demandes.rows.filter fun d => activeDemande d && d.columns.wilayaId == wilayaId).flatMap fun d =>
    (db.clients.rows.filter fun c => c.id == d.columns.clientId && activeClient c).map fun _ => d

def wilayaOffers (db : Db) (candidates : Candidates) (wilayaId : ℤ) : List (ℕ × ℕ) :=
  (targetDemandes db wilayaId).flatMap fun td =>
    (candidates.entries.filter fun mc => mc.1.1 == td.id).flatMap fun mc =>
      (activeOfferJoin db mc.1.2).map fun _ => (td.columns.clientId, mc.1.2)

def countClientsInWilayaCte (db : Db) (candidates : Candidates) (wilayaId : ℤ) : Dict ℕ ℕ :=
  if wilayaId = 0 then [] else distinctCounts (wilayaOffers db candidates wilayaId)

/-- `store_counts`: the cache, and how many counts there were. -/
def storeCounts (db : Db) (counts : Dict ℕ ℕ) (cache : Keyed ℕ CountRow) : Keyed ℕ CountRow × ℕ :=
  if counts = [] then (cache, 0) else (storeCountsBatch db counts cache, counts.length)

structure WilayaReport where
  clients : ℕ
  skipped : Bool

/-- `rebuild_match_cache_wilaya`; `locked` says whether the task got its lock. -/
def rebuildMatchCacheWilaya (names : WilayaNames) (locked : Bool) (wilayaId : WilayaArg)
    (wilaya : Option String) (s : MatchStore) : MatchStore × WilayaReport :=
  match (resolveWilayaId names wilayaId wilaya).filter fun id => locked && id != 0 with
  | some resolvedId =>
    let counts := countClientsInWilayaCte s.db s.artifacts.candidates resolvedId
    let stored := storeCounts s.db counts s.counts
    ({ s with counts := stored.1 }, ⟨stored.2, false⟩)
  | none => (s, ⟨0, true⟩)

/-- The cached count of every client with an active demande in the province is the one that
`count_clients_for_ids` computes. -/
def WilayaCountsRight (s : MatchStore) (wilayaId : ℤ) : Prop :=
  ∀ d ∈ s.db.demandes.rows, activeDemande d = true → d.columns.wilayaId = wilayaId →
    (s.counts.get? d.columns.clientId).map CountRow.count
      = (countClientsForIds s.db s.artifacts.candidates [d.columns.clientId]).get? d.columns.clientId

/-- Every offer that is counted for the client is counted for one of its demandes in the province; where
there is none in the province, the cached count is right already. -/
def CountedInWilaya (s : MatchStore) (wilayaId : ℤ) (clientId : ℕ) : Prop :=
  if wilayaId ≠ 0 ∧ clientId ∈ (wilayaOffers s.db s.artifacts.candidates wilayaId).map Prod.fst then
    ∀ row ∈ clientOffers s.db s.artifacts.candidates, row.1 = clientId →
      row ∈ wilayaOffers s.db s.artifacts.candidates wilayaId
  else (s.counts.get? clientId).map CountRow.count = some (matchCount s.db s.artifacts.candidates clientId)

/-! ### Groups -/

lemma mem_wilayaOffers {db : Db} {candidates : Candidates} {wilayaId : ℤ} {clientId offerId : ℕ} :
    (clientId, offerId) ∈ wilayaOffers db candidates wilayaId ↔
      ActiveClient db clientId ∧ ∃ d, CountedFor db candidates d offerId ∧
        d.columns.clientId = clientId ∧ d.columns.wilayaId = wilayaId := by
  simp only [wilayaOffers, targetDemandes, List.mem_flatMap, List.mem_map, List.mem_filter,
    Bool.and_eq_true, beq_iff_eq, Prod.exists]
  constructor
  · rintro ⟨_, ⟨d, ⟨hd, hlive, hwilaya⟩, c, ⟨hc, hcid, hactive⟩, rfl⟩, _, _, columns, ⟨hmc, rfl⟩, o, ho, heq⟩
    obtain ⟨rfl, rfl⟩ := Prod.mk.inj heq
    refine ⟨⟨c, hc, hcid, hactive⟩, d, ⟨hd, hlive, ?_, o, ho⟩, rfl, hwilaya⟩
    rw [Keyed.mem_entries_iff.mp hmc]
    rfl
  · rintro ⟨⟨c, hc, hcid, hactive⟩, d, ⟨hd, hlive, hcandidate, o, ho⟩, rfl, hwilaya⟩
    obtain ⟨columns, hget⟩ := Option.isSome_iff_exists.mp hcandidate
    exact ⟨d, ⟨d, ⟨hd, hlive, hwilaya⟩, c, ⟨hc, hcid, hactive⟩, rfl⟩, d.id, offerId, columns,
      ⟨Keyed.mem_entries_iff.mpr hget, rfl⟩, o, ho, rfl⟩

variable (db : Db) (candidates : Candidates)

lemma wilayaOffers_subset (wilayaId : ℤ) : wilayaOffers db candidates wilayaId ⊆ clientOffers db candidates := by
  rintro ⟨_, _⟩ hmem
  obtain ⟨hactive, d, hcounted, hclient, -⟩ := mem_wilayaOffers.mp hmem
  exact mem_clientOffers.mpr ⟨hactive, d, hcounted, hclient⟩

/-- Of two lists, one part of the other, the smaller one has as many values only if it has them all. -/
lemma length_dedup_eq_iff {l l' : List ℕ} (hsub : l ⊆ l') : l.dedup.length = l'.dedup.length ↔ l' ⊆ l := by
  have hsubperm : l.dedup.Subperm l'.dedup :=
    subperm_of_subset (nodup_dedup l) fun v hv => mem_dedup.mpr (hsub (mem_dedup.mp hv))
  constructor
  · intro hlength v hv
    have hperm := hsubperm.perm_of_length_le hlength.ge
    exact mem_dedup.mp (hperm.mem_iff.mpr (mem_dedup.mpr hv))
  · intro hsub'
    have hback : l'.dedup.Subperm l.dedup :=
      subperm_of_subset (nodup_dedup l') fun v hv =>
        mem_dedup.mpr (hsub' (mem_dedup.mp hv))
    exact (hsubperm.antisymm hback).length_eq

lemma mem_group {rows : List (ℕ × ℕ)} {k v : ℕ} :
    v ∈ (rows.filter fun row => row.1 = k).map Prod.snd ↔ (k, v) ∈ rows := by
  simp [List.mem_map, mem_filter]

lemma get?_countClientsInWilayaCte (wilayaId : ℤ) (clientId : ℕ) :
    (countClientsInWilayaCte db candidates wilayaId).get? clientId =
      if wilayaId ≠ 0 ∧ clientId ∈ (wilayaOffers db candidates wilayaId).map Prod.fst then
        some (((wilayaOffers db candidates wilayaId).filter fun row => row.1 = clientId).map Prod.snd).dedup.length
      else none := by
  unfold countClientsInWilayaCte
  by_cases hzero : wilayaId = 0
  · simp [hzero]
  · rw [if_neg hzero, distinctCounts, Dict.get?_tabulate]
    simp only [mem_dedup, ne_eq, hzero, not_false_eq_true, true_and]

lemma get?_storeCounts (counts : Dict ℕ ℕ) (cache : Keyed ℕ CountRow) (clientId : ℕ) :
    (storeCounts db counts cache).1.get? clientId = (storeCountsBatch db counts cache).get? clientId := by
  unfold storeCounts
  split
  · next hnil => exact (get?_storeCountsBatch_of_none (by simp [hnil])).symm
  · rfl

variable (names : WilayaNames) (wilayaId : ℤ) (wilaya : Option String) (s : MatchStore) (clientId : ℕ)

lemma get?_rebuildMatchCacheWilaya :
    (rebuildMatchCacheWilaya names true (.id wilayaId) wilaya s).1.counts.get? clientId =
      (storeCountsBatch s.db (countClientsInWilayaCte s.db s.artifacts.candidates wilayaId)
        s.counts).get? clientId := by
  unfold rebuildMatchCacheWilaya
  by_cases hzero : wilayaId = 0
  · subst hzero
    exact (get?_storeCountsBatch_of_none (by simp [countClientsInWilayaCte])).symm
  · simp only [resolveWilayaId, hzero, if_false, filter_some, Bool.true_and, bne_iff_ne, ne_eq,
      not_false_eq_true, if_true]
    exact get?_storeCounts _ _ _ _

lemma count_rebuildMatchCacheWilaya :
    ((rebuildMatchCacheWilaya names true (.id wilayaId) wilaya s).1.counts.get? clientId).map
        CountRow.count = some (matchCount s.db s.artifacts.candidates clientId) ↔
      CountedInWilaya s wilayaId clientId := by
  rw [get?_rebuildMatchCacheWilaya, CountedInWilaya]
  have hget := get?_countClientsInWilayaCte s.db s.artifacts.candidates wilayaId clientId
  by_cases hgroup : wilayaId ≠ 0 ∧ clientId ∈ (wilayaOffers s.db s.artifacts.candidates wilayaId).map Prod.fst
  · rw [if_pos hgroup] at hget ⊢
    obtain ⟨⟨k, _⟩, hrow, rfl⟩ := mem_map.mp hgroup.2
    rw [get?_storeCountsBatch (mem_wilayaOffers.mp hrow).1, hget]
    have hsub : ((wilayaOffers s.db s.artifacts.candidates wilayaId).filter fun row => row.1 = k).map
        Prod.snd ⊆ ((clientOffers s.db s.artifacts.candidates).filter fun row => row.1 = k).map Prod.snd :=
      fun v hv => mem_group.mpr (wilayaOffers_subset _ _ _ (mem_group.mp hv))
    simp only [map_some, some_or, Option.some.injEq]
    rw [matchCount, length_dedup_eq_iff hsub]
    constructor
    · rintro hall ⟨_, v⟩ hrow' rfl
      exact mem_group.mp (hall (mem_group.mpr hrow'))
    · intro hall v hv
      exact mem_group.mpr (hall (k, v) (mem_group.mp hv) rfl)
  · rw [if_neg hgroup] at hget ⊢
    rw [get?_storeCountsBatch_of_none hget]

/-- After the rebuild of a province, the cached count of every client with an active demande in it is the
one that `count_clients_for_ids` computes, exactly when for each of these clients all counted offers are
counted for its demandes in the province, or none is and the cached count was right before. -/
theorem wilaya_counts_iff (names : WilayaNames) (wilayaId : ℤ) (wilaya : Option String) (s : MatchStore) :
    WilayaCountsRight (rebuildMatchCacheWilaya names true (.id wilayaId) wilaya s).1 wilayaId ↔
      ∀ d ∈ s.db.demandes.rows, activeDemande d = true → d.columns.wilayaId = wilayaId →
        CountedInWilaya s wilayaId d.columns.clientId := by
  have hstore : (rebuildMatchCacheWilaya names true (.id wilayaId) wilaya s).1.db = s.db ∧
      (rebuildMatchCacheWilaya names true (.id wilayaId) wilaya s).1.artifacts = s.artifacts := by
    unfold rebuildMatchCacheWilaya
    split <;> exact ⟨rfl, rfl⟩
  unfold WilayaCountsRight
  rw [hstore.1, hstore.2]
  refine forall₂_congr fun d _ => forall₂_congr fun _ _ => ?_
  rw [get?_countClientsForIds, if_pos (mem_singleton_self _)]
  exact count_rebuildMatchCacheWilaya names wilayaId wilaya s d.columns.clientId

/-- The cached count of the client is one, and none of its demandes has a candidate any more: the rebuild
leaves the one. -/
theorem stale_count_after_wilaya_rebuild :
    ¬ ∀ (names : WilayaNames) (wilayaId : ℤ) (wilaya : Option String) (s : MatchStore),
      WilayaCountsRight (rebuildMatchCacheWilaya names true (.id wilayaId) wilaya s).1 wilayaId := by
  intro h
  have hright := h ⟨fun _ => none, fun _ => none⟩ 16 none (hydraStore 16)
  have hdemande : ∃ d ∈ (hydraStore 16).db.demandes.rows, activeDemande d = true ∧
      d.columns.wilayaId = 16 ∧ d.columns.clientId = 1 := by decide +kernel
  obtain ⟨d, hd, hactive, hwilaya, hclient⟩ := hdemande
  have hcounts : ((rebuildMatchCacheWilaya ⟨fun _ => none, fun _ => none⟩ true (.id 16) none
        (hydraStore 16)).1.counts.get? 1).map CountRow.count = some 1 ∧
      (countClientsForIds (hydraStore 16).db (hydraStore 16).artifacts.candidates [1]).get? 1
        = some 0 := by decide +kernel
  have heq := hright d hd hactive hwilaya
  rw [hclient] at heq
  have hsame := heq.symm.trans hcounts.1
  exact absurd (hsame.symm.trans hcounts.2) (by decide)

end ImmoApp.Matching
