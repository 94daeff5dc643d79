import ImmoApp.Foundation.Slices
import ImmoApp.Matching.Pipelines
import ImmoApp.Matching.Counts

/-!
# Counting in chunks

`match_counter_helpers.py` counts the matches of the ids in a list chunk by chunk: every id starts from zero, and the
groups that the query of a chunk finds are written over the zeros.  `match_counter_batch.py` counts everything with
one query.  `counts_agree` says that the two give the same number for every id in the list, whether or not the
database knows it, and that the split into chunks does not matter.
-/

namespace ImmoApp.Matching

open List Dict

namespace CounterHelpers

open Crm

def maxDirectIds : ℕ := 999

/-- `range(0, stop, step)`. -/
def rangeStep (stop step : ℕ) : List ℕ := (List.range ((stop + step - 1) / step)).map fun i => i * step

def iterIdChunks (ids : List ℤ) (chunkSize : ℕ) : List (List ℤ) :=
  (rangeStep ids.length chunkSize).map fun start => (ids.drop start).take chunkSize

def chunkQuery (rows : List (ℕ × ℕ)) (chunk : List ℤ) : List (ℕ × ℕ) :=
  distinctCounts (rows.filter fun row => (row.1 : ℤ) ∈ chunk)

/-- `{id_: 0 for id_ in ids}`. -/
def zeroCounts (ids : List ℤ) : Dict ℤ ℕ := ids.foldl (fun counts id => counts.set id 0) []

/-- The loop over the rows that a chunk's query finds. -/
def writeCounts (counts : Dict ℤ ℕ) (found : List (ℕ × ℕ)) : Dict ℤ ℕ :=
  found.foldl (fun counts row => counts.set (row.1 : ℤ) row.2) counts

def countInChunks (rows : List (ℕ × ℕ)) (ids : List ℤ) (chunks : List (List ℤ)) : Dict ℤ ℕ :=
  chunks.foldl (fun counts chunk => writeCounts counts (chunkQuery rows chunk)) (zeroCounts ids)

def countClientsForIds (db : Db) (candidates : Candidates) (clientIds : List ℤ) : Dict ℤ ℕ :=
  countInChunks (clientOffers db candidates) clientIds (iterIdChunks clientIds maxDirectIds)

def countDemandesForIds (db : Db) (candidates : Candidates) (demandeIds : List ℤ) : Dict ℤ ℕ :=
  countInChunks (demandeOffers db candidates) demandeIds (iterIdChunks demandeIds maxDirectIds)

def countListingsForIds (db : Db) (candidates : Candidates) (listingIds : List ℤ) : Dict ℤ ℕ :=
  countInChunks (listingDemandes db candidates) listingIds (iterIdChunks listingIds maxDirectIds)

def countOffersForIds (db : Db) (candidates : Candidates) (offerIds : List ℤ) : Dict ℤ ℕ :=
  countInChunks (offerDemandes db candidates) offerIds (iterIdChunks offerIds maxDirectIds)

/-- `counts.get(id, 0)`, of a dictionary whose keys come from the database. -/
def countOf (counts : Dict ℕ ℕ) (id : ℤ) : ℕ :=
  (Dict.get? (counts.map fun e => ((e.1 : ℤ), e.2)) id).getD 0

lemma flatten_iterIdChunks (ids : List ℤ) {chunkSize : ℕ} (hsize : 0 < chunkSize) :
    (iterIdChunks ids chunkSize).flatten = ids := by
  rw [iterIdChunks, rangeStep, map_map]
  exact flatten_slicesOf ids hsize

/-! ### Counts -/

def groupCount (rows : List (ℕ × ℕ)) (id : ℤ) : ℕ :=
  ((rows.filter fun row => (row.1 : ℤ) = id).map Prod.snd).dedup.length

variable {rows : List (ℕ × ℕ)} {id : ℤ} {ids : List ℤ} {chunks : List (List ℤ)}

lemma groupCount_eq {id : ℕ} {values : List ℕ}
    (h : ∀ value, (id, value) ∈ rows ↔ value ∈ values) : groupCount rows id = values.dedup.length := by
  refine Perm.length_eq ((perm_ext_iff_of_nodup (nodup_dedup _) (nodup_dedup _)).mpr fun value => ?_)
  rw [mem_dedup, mem_dedup, ← h]
  simp only [mem_map, mem_filter, decide_eq_true_eq, Int.natCast_inj]
  constructor
  · rintro ⟨⟨_, _⟩, ⟨hrow, rfl⟩, rfl⟩
    exact hrow
  · intro hrow
    exact ⟨(id, value), ⟨hrow, rfl⟩, rfl⟩

lemma groupCount_of_not_mem (h : id ∉ rows.map fun row => (row.1 : ℤ)) : groupCount rows id = 0 := by
  have hnone : rows.filter (fun row => (row.1 : ℤ) = id) = [] := by
    rw [filter_eq_nil_iff]
    intro row hrow heq
    exact h (mem_map.mpr ⟨row, hrow, by simpa using heq⟩)
  rw [groupCount, hnone]
  rfl

variable {row : ℕ × ℕ} {chunk : List ℤ}

lemma snd_of_mem_distinctCounts (h : row ∈ distinctCounts rows) : row.2 = groupCount rows row.1 := by
  obtain ⟨_, -, rfl⟩ := mem_map.mp h
  simp only [groupCount, Int.natCast_inj]

lemma snd_of_mem_chunkQuery (h : row ∈ chunkQuery rows chunk) : row.2 = groupCount rows row.1 := by
  have hkey : row.1 ∈ (rows.filter fun row => (row.1 : ℤ) ∈ chunk).map Prod.fst := by
    rw [← mem_dedup, ← distinctCounts_map_fst]
    exact mem_map_of_mem h
  obtain ⟨x, hx, heq⟩ := mem_map.mp hkey
  have hchunk : (row.1 : ℤ) ∈ chunk := by
    rw [← heq]
    simpa using (mem_filter.mp hx).2
  rw [snd_of_mem_distinctCounts h, groupCount, groupCount, filter_filter]
  congr 3
  refine filter_congr fun x _ => ?_
  rw [Bool.and_eq_decide, decide_eq_decide, decide_eq_true_eq, decide_eq_true_eq, and_iff_left_iff_imp]
  intro hid
  rw [hid]
  exact hchunk

lemma mem_chunkQuery_map_fst : id ∈ (chunkQuery rows chunk).map (fun row => (row.1 : ℤ)) ↔
      id ∈ chunk ∧ id ∈ rows.map fun row => (row.1 : ℤ) := by
  have hkeys : (chunkQuery rows chunk).map (fun row => (row.1 : ℤ)) =
      ((rows.filter fun row => (row.1 : ℤ) ∈ chunk).map Prod.fst).dedup.map fun id : ℕ => (id : ℤ) := by
    rw [← distinctCounts_map_fst, map_map]
    rfl
  rw [hkeys]
  simp only [mem_map, mem_dedup, mem_filter, decide_eq_true_eq]
  constructor
  · rintro ⟨_, ⟨row, ⟨hrow, hchunk⟩, rfl⟩, rfl⟩
    exact ⟨hchunk, row, hrow, rfl⟩
  · rintro ⟨hchunk, row, hrow, rfl⟩
    exact ⟨row.1, ⟨row, ⟨hrow, hchunk⟩, rfl⟩, rfl⟩

lemma get?_writeCounts (rows : List (ℕ × ℕ)) (chunk : List ℤ) (counts : Dict ℤ ℕ) (id : ℤ) :
    (writeCounts counts (chunkQuery rows chunk)).get? id =
      if id ∈ chunk ∧ id ∈ rows.map (fun row => (row.1 : ℤ)) then some (groupCount rows id)
      else counts.get? id := by
  have hagree : ∀ row ∈ chunkQuery rows chunk, (row.1 : ℤ) = id → row.2 = groupCount rows id := by
    rintro row hrow rfl
    exact snd_of_mem_chunkQuery hrow
  rw [writeCounts, get?_foldl_set_of_agree (fun row : ℕ × ℕ => (row.1 : ℤ)) Prod.snd hagree]
  simp only [mem_chunkQuery_map_fst]

lemma get?_zeroCounts (ids : List ℤ) (id : ℤ) : (zeroCounts ids).get? id = if id ∈ ids then some 0 else none := by
  have hzero : ∀ a ∈ ids, a = id → (fun _ : ℤ => 0) a = 0 := fun _ _ _ => rfl
  rw [zeroCounts, get?_foldl_set_of_agree (fun id : ℤ => id) (fun _ => 0) hzero, map_id', get?_nil]

/-- Whatever the chunks, the ids of the list have their own counts at the end, and others none. -/
lemma get?_countInChunks_eq (rows : List (ℕ × ℕ)) (hchunks : chunks.flatten = ids) (id : ℤ) :
    (countInChunks rows ids chunks).get? id = if id ∈ ids then some (groupCount rows id) else none := by
  have hloop : ∀ (chunks : List (List ℤ)) (counts : Dict ℤ ℕ),
      (chunks.foldl (fun counts chunk => writeCounts counts (chunkQuery rows chunk)) counts).get? id =
        if id ∈ chunks.flatten ∧ id ∈ rows.map (fun row => (row.1 : ℤ)) then some (groupCount rows id)
        else counts.get? id := by
    intro chunks
    induction chunks with
    | nil => intro counts; simp
    | cons _ rest ih =>
      intro counts
      rw [foldl_cons, ih, get?_writeCounts, flatten_cons]
      simp only [mem_append]
      by_cases hrows : id ∈ rows.map fun row => (row.1 : ℤ)
      · by_cases hrest : id ∈ rest.flatten
        · rw [if_pos ⟨hrest, hrows⟩, if_pos ⟨.inr hrest, hrows⟩]
        · rw [if_neg fun h => hrest h.1]
          simp only [hrest, or_false]
      · rw [if_neg fun h => hrows h.2, if_neg fun h => hrows h.2, if_neg fun h => hrows h.2]
  rw [countInChunks, hloop, hchunks, get?_zeroCounts]
  by_cases hid : id ∈ ids
  · by_cases hrows : id ∈ rows.map fun row => (row.1 : ℤ)
    · rw [if_pos ⟨hid, hrows⟩, if_pos hid]
    · rw [if_neg fun h => hrows h.2, if_pos hid, if_pos hid, groupCount_of_not_mem hrows]
  · rw [if_neg fun h => hid h.1, if_neg hid, if_neg hid]

lemma get?_countInChunks (rows : List (ℕ × ℕ)) (hchunks : chunks.flatten = ids) (hid : id ∈ ids) :
    (countInChunks rows ids chunks).get? id = some (groupCount rows id) := by
  rw [get?_countInChunks_eq rows hchunks, if_pos hid]

lemma mem_countInChunks (hchunks : chunks.flatten = ids) :
    id ∈ (countInChunks rows ids chunks).map Prod.fst ↔ id ∈ ids := by
  have hkey : id ∈ (countInChunks rows ids chunks).map Prod.fst ↔ (countInChunks rows ids chunks).get? id ≠ none := by
    rw [Ne, get?_eq_none_iff]
    simp
  rw [hkey, get?_countInChunks_eq rows hchunks]
  by_cases hid : id ∈ ids <;> simp [hid]

/-! ### The queries over everything -/

lemma get?_map_cast (counts : Dict ℕ ℕ) (n : ℕ) :
    Dict.get? (counts.map fun e => ((e.1 : ℤ), e.2)) (n : ℤ) = counts.get? n := by
  induction counts with
  | nil => rfl
  | cons _ _ ih =>
    rw [map_cons, get?_cons, get?_cons, ih]
    simp only [Int.natCast_inj]

lemma countOf_eq {counts : Dict ℕ ℕ} (h : ∀ id : ℕ, (counts.get? id).getD 0 = groupCount rows id) (id : ℤ) :
    countOf counts id = groupCount rows id := by
  rcases lt_or_ge id 0 with _ | hpos
  · have hnone : Dict.get? (counts.map fun e => ((e.1 : ℤ), e.2)) id = none := by
      refine get?_eq_none_iff.mpr fun e he heq => ?_
      obtain ⟨x, -, rfl⟩ := mem_map.mp he
      omega
    have hrows : id ∉ rows.map fun row => (row.1 : ℤ) := by
      intro hmem
      obtain ⟨x, -, rfl⟩ := mem_map.mp hmem
      omega
    rw [countOf, hnone, groupCount_of_not_mem hrows]
    rfl
  · obtain ⟨n, rfl⟩ := Int.eq_ofNat_of_zero_le hpos
    exact (congrArg (fun found => found.getD 0) (get?_map_cast counts n)).trans (h n)

lemma countOf_distinctCounts (rows : List (ℕ × ℕ)) (id : ℤ) :
    countOf (distinctCounts rows) id = groupCount rows id := by
  refine countOf_eq (fun n => ?_) id
  rw [distinctCounts, get?_tabulate]
  by_cases hn : n ∈ (rows.map Prod.fst).dedup
  · rw [if_pos hn, Option.getD_some]
    simp only [groupCount, Int.natCast_inj]
  · have hrows : (n : ℤ) ∉ rows.map fun row => (row.1 : ℤ) := by
      intro hmem
      obtain ⟨x, hx, heq⟩ := mem_map.mp hmem
      have heq : x.1 = n := Int.ofNat.inj heq
      exact hn (mem_dedup.mpr (heq ▸ mem_map_of_mem hx))
    rw [if_neg hn, groupCount_of_not_mem hrows]
    rfl

lemma mem_activeOfferJoin {db : Db} {offerId : ℕ} {o : Row OfferColumns} :
    o ∈ activeOfferJoin db offerId ↔ (o ∈ db.offers.rows ∧ o.id = offerId ∧ activeOffer o = true) ∧
      ∃ l ∈ db.listings.rows, l.id = o.columns.listingId ∧ activeListing l = true := by
  simp only [activeOfferJoin, mem_flatMap, mem_filter, mem_map, Bool.and_eq_true, beq_iff_eq]
  constructor
  · rintro ⟨_, ⟨ho, hid, hactive⟩, l, ⟨hl, hlid, hlactive⟩, rfl⟩
    exact ⟨⟨ho, hid, hactive⟩, l, hl, hlid, hlactive⟩
  · rintro ⟨⟨ho, hid, hactive⟩, l, hl, hlid, hlactive⟩
    exact ⟨o, ⟨ho, hid, hactive⟩, l, ⟨hl, hlid, hlactive⟩, rfl⟩

lemma countOf_listings (db : Db) (candidates : Candidates) (id : ℤ) :
    countOf (batchCountAllListingsCte db candidates) id = groupCount (listingDemandes db candidates) id := by
  refine countOf_eq (fun n => ?_) id
  rw [batchCountAllListingsCte, get?_tabulate]
  have hmem : ∀ demandeId, (n, demandeId) ∈ listingDemandes db candidates ↔
      ∃ offerId columns, ((demandeId, offerId), columns) ∈ candidates.entries ∧
        ∃ o ∈ activeOfferJoin db offerId, o.columns.listingId = n := by
    intro demandeId
    simp only [listingDemandes, mem_flatMap, mem_map, Prod.exists, Prod.mk.injEq]
    constructor
    · rintro ⟨_, offerId, columns, hmc, o, ho, hlisting, rfl⟩
      exact ⟨offerId, columns, hmc, o, ho, hlisting⟩
    · rintro ⟨offerId, columns, hmc, o, ho, hlisting⟩
      exact ⟨demandeId, offerId, columns, hmc, o, ho, hlisting, rfl⟩
  by_cases hn : n ∈ sortedIds ((db.listings.rows.filter activeListing).map Row.id)
  · rw [if_pos hn, Option.getD_some]
    obtain ⟨l, hl, hid⟩ := mem_map.mp ((sortedIds_perm _).mem_iff.mp hn)
    obtain ⟨hl, hactive⟩ := mem_filter.mp hl
    refine (groupCount_eq fun demandeId => ?_).symm
    rw [hmem]
    simp only [mem_flatMap, mem_filter, mem_map, Bool.and_eq_true, beq_iff_eq, Prod.exists]
    constructor
    · rintro ⟨_, columns, hmc, o, ho, hlisting⟩
      obtain ⟨⟨hrow, rfl, hoffer⟩, -⟩ := mem_activeOfferJoin.mp ho
      exact ⟨o, ⟨hrow, hlisting, hoffer⟩, demandeId, o.id, columns, ⟨hmc, rfl⟩, rfl⟩
    · rintro ⟨o, ⟨ho, hlisting, hoffer⟩, _, _, columns, ⟨hmc, rfl⟩, rfl⟩
      exact ⟨o.id, columns, hmc, o,
        mem_activeOfferJoin.mpr ⟨⟨ho, rfl, hoffer⟩, l, hl, hid.trans hlisting.symm, hactive⟩, hlisting⟩
  · -- a listing that is not active is in no joined row
    have hrows : (n : ℤ) ∉ (listingDemandes db candidates).map fun row => (row.1 : ℤ) := by
      intro hid
      obtain ⟨⟨id', demandeId⟩, hrow, heq⟩ := mem_map.mp hid
      obtain rfl : id' = n := Int.ofNat.inj heq
      obtain ⟨_, _, -, o, ho, rfl⟩ := (hmem demandeId).mp hrow
      obtain ⟨-, l, hl, hid, hactive⟩ := mem_activeOfferJoin.mp ho
      exact hn ((sortedIds_perm _).mem_iff.mpr (hid ▸ mem_map_of_mem (mem_filter.mpr ⟨hl, hactive⟩)))
    rw [if_neg hn, groupCount_of_not_mem hrows]
    rfl

lemma countOf_offers (db : Db) (candidates : Candidates) (id : ℤ) :
    countOf (batchCountAllOffersCte db candidates) id = groupCount (offerDemandes db candidates) id := by
  refine countOf_eq (fun n => ?_) id
  rw [batchCountAllOffersCte, get?_tabulate]
  have hmem : ∀ demandeId, (n, demandeId) ∈ offerDemandes db candidates ↔
      ∃ columns, ((demandeId, n), columns) ∈ candidates.entries ∧ ∃ o, o ∈ activeOfferJoin db n := by
    intro demandeId
    simp only [offerDemandes, mem_flatMap, mem_map, Prod.exists, Prod.mk.injEq]
    constructor
    · rintro ⟨_, _, columns, hmc, o, ho, rfl, rfl⟩
      exact ⟨columns, hmc, o, ho⟩
    · rintro ⟨columns, hmc, o, ho⟩
      exact ⟨demandeId, n, columns, hmc, o, ho, rfl, rfl⟩
  by_cases hn : n ∈ sortedIds ((db.offers.rows.filter activeOffer).map Row.id)
  · rw [if_pos hn, Option.getD_some]
    refine (groupCount_eq fun demandeId => ?_).symm
    rw [hmem]
    simp only [mem_flatMap, mem_filter, mem_map, beq_iff_eq, Prod.exists]
    constructor
    · rintro ⟨columns, hmc, o, ho⟩
      exact ⟨o, ho, demandeId, n, columns, ⟨hmc, rfl⟩, rfl⟩
    · rintro ⟨o, ho, _, _, columns, ⟨hmc, rfl⟩, rfl⟩
      exact ⟨columns, hmc, o, ho⟩
  · -- an offer that is not active is in no joined row
    have hrows : (n : ℤ) ∉ (offerDemandes db candidates).map fun row => (row.1 : ℤ) := by
      intro hid
      obtain ⟨⟨id', demandeId⟩, hrow, heq⟩ := mem_map.mp hid
      obtain rfl : id' = n := Int.ofNat.inj heq
      obtain ⟨_, -, o, ho⟩ := (hmem demandeId).mp hrow
      obtain ⟨⟨ho, hid, hactive⟩, -⟩ := mem_activeOfferJoin.mp ho
      exact hn ((sortedIds_perm _).mem_iff.mpr (hid ▸ mem_map_of_mem (mem_filter.mpr ⟨ho, hactive⟩)))
    rw [if_neg hn, groupCount_of_not_mem hrows]
    rfl

/-- For every id of a list, the counts for the list and those over everything agree, where an id without a count
counts as zero; and any other split of the list into chunks gives the same counts. -/
theorem counts_agree (db : Db) (candidates : Candidates) (ids : List ℤ) : (∀ id ∈ ids,
      (countClientsForIds db candidates ids).get? id = some (countOf (batchCountAllClientsCte db candidates) id) ∧
        (countDemandesForIds db candidates ids).get? id = some (countOf (batchCountAllDemandesCte db candidates) id) ∧
        (countListingsForIds db candidates ids).get? id = some (countOf (batchCountAllListingsCte db candidates) id) ∧
        (countOffersForIds db candidates ids).get? id = some (countOf (batchCountAllOffersCte db candidates) id)) ∧
    ∀ (rows : List (ℕ × ℕ)) (chunks : List (List ℤ)), chunks.flatten = ids → ∀ id ∈ ids,
      (countInChunks rows ids chunks).get? id = (countInChunks rows ids (iterIdChunks ids maxDirectIds)).get? id := by
  have hdirect : (iterIdChunks ids maxDirectIds).flatten = ids := flatten_iterIdChunks ids (by decide)
  constructor
  · intro id hid
    refine ⟨?_, ?_, ?_, ?_⟩
    · rw [countClientsForIds, get?_countInChunks _ hdirect hid, batchCountAllClientsCte, countOf_distinctCounts]
    · rw [countDemandesForIds, get?_countInChunks _ hdirect hid, batchCountAllDemandesCte, countOf_distinctCounts]
    · rw [countListingsForIds, get?_countInChunks _ hdirect hid, countOf_listings]
    · rw [countOffersForIds, get?_countInChunks _ hdirect hid, countOf_offers]
  · intro rows chunks hchunks id hid
    rw [get?_countInChunks rows hchunks hid, get?_countInChunks rows hdirect hid]

end CounterHelpers

end ImmoApp.Matching
