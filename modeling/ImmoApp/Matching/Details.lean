import ImmoApp.Matching.CountChunks

/-!
# The matches of a demande

`match_details.py` reads the stored pairs of a demande, joined with the offers that are still active, a page
at a time. `shown` is the whole list: best score first, offers with equal scores by their ids.  Without a
threshold `get_matches_for_demande` returns a page of it and its length.  With one it reads no pairs at all:
what it returns is empty.

`LIMIT` and `OFFSET` take no negative numbers, and then the function raises: this is `none`.
-/

namespace ImmoApp.Matching

open Crm List Option

/-- `match_pairs`. -/
abbrev Pairs := Keyed (ℕ × ℕ) PairColumns

structure OfferMatch where
  offer : Row OfferColumns
  score : ℚ
  deriving DecidableEq

/-- `listing_id`: the listing of the offer. -/
def OfferMatch.listingId (m : OfferMatch) : ℕ := m.offer.columns.listingId

/-- `ORDER BY score DESC, offer_id ASC`. -/
def OfferMatch.before (a b : OfferMatch) : Prop :=
  b.score < a.score ∨ b.score = a.score ∧ a.offer.id ≤ b.offer.id

instance : DecidableRel OfferMatch.before := fun a b =>
  inferInstanceAs (Decidable (b.score < a.score ∨ b.score = a.score ∧ a.offer.id ≤ b.offer.id))

/-- The rows of a table of demandes and offers that belong to a demande, joined with the offers that are
active: `value` is the score of a row. -/
def joinedOffers {β : Type} (db : Db) (demandeId : ℕ) (value : β → Row OfferColumns → ℚ) (t : Keyed (ℕ × ℕ) β) :
    List OfferMatch :=
  (t.entries.filter fun e => e.1.1 == demandeId).flatMap fun e =>
    (activeOfferJoin db e.1.2).map fun o => ⟨o, value e.2 o⟩

def sortedOffers {β : Type} (db : Db) (demandeId : ℕ) (value : β → Row OfferColumns → ℚ) (t : Keyed (ℕ × ℕ) β) :
    List OfferMatch := (joinedOffers db demandeId value t).insertionSort OfferMatch.before

section Functions

variable (db : Db) (pairs : Pairs) (demandeId : ℕ) (limit offset : ℤ)

def shown : List OfferMatch := sortedOffers db demandeId (fun columns _ => columns.score) pairs

def fetchPairsWithOffers : Option (List OfferMatch) :=
  if limit < 0 ∨ offset < 0 then none
  else some (((shown db pairs demandeId).drop offset.toNat).take limit.toNat)

def countPairsForDemande : ℕ := (joinedOffers db demandeId (fun columns _ => columns.score) pairs).length

/-- `l[:stop]`. -/
def sliceTo {α : Type} (l : List α) (stop : ℤ) : List α :=
  l.take (if stop < 0 then l.length + stop else stop).toNat

/-- What `get_matches_for_demande` of `match_details.py` returns. -/
structure MatchDetails where
  matchList : List OfferMatch
  totalCount : ℕ
  offerIds : List ℕ

/-- `get_matches_for_demande` of `match_details.py`. -/
def MatchDetails.getMatchesForDemande (scoreThreshold : ℚ) : Option MatchDetails := do
  let rows ← if scoreThreshold ≤ 0 then fetchPairsWithOffers db pairs demandeId limit offset else some []
  let totalCount := if scoreThreshold ≤ 0 then countPairsForDemande db pairs demandeId else 0
  let found := rows.insertionSort fun a b => b.score ≤ a.score
  let filtered := if 0 < scoreThreshold then found.filter fun m => scoreThreshold ≤ m.score else found
  let offerIds := if 0 < scoreThreshold then (filtered.map fun m => m.offer.id).dedup else []
  let totalCount := if totalCount = 0 then filtered.length else totalCount
  let page := if limit ≠ 0 ∧ limit < filtered.length then sliceTo filtered limit else filtered
  return ⟨page, totalCount, offerIds⟩

end Functions

def OfferMatch.scored (demandeId : ℕ) (m : OfferMatch) : Scored := ⟨demandeId, m.offer.id, m.score⟩

instance : Std.Total OfferMatch.before where
  total a b := (inferInstance : Std.Total Scored.before).total (a.scored 0) (b.scored 0)

instance : IsTrans OfferMatch OfferMatch.before where
  trans a b c := (inferInstance : IsTrans Scored Scored.before).trans (a.scored 0) (b.scored 0) (c.scored 0)

lemma OfferMatch.eq_of_before {db : Db} {a b : OfferMatch} (ha : a.offer ∈ db.offers.rows)
    (hb : b.offer ∈ db.offers.rows) (hab : a.before b) (hba : b.before a) : a = b := by
  have hscored : a.scored 0 = b.scored 0 := Scored.eq_of_before rfl hab hba
  have hid : a.offer.id = b.offer.id := congrArg Scored.offerId hscored
  have hoffer : a.offer = b.offer := Table.eq_of_id ha hb hid
  have hscore : a.score = b.score := congrArg Scored.score hscored
  cases a
  cases b
  simp only at hoffer hscore
  rw [hoffer, hscore]

/-! ### Which matches are there -/

section Joined

variable {β : Type} {db : Db} {demandeId : ℕ} {value : β → Row OfferColumns → ℚ} {t : Keyed (ℕ × ℕ) β}

lemma activeOfferJoin_eq {offerId : ℕ} {o : Row OfferColumns} (h : o ∈ activeOfferJoin db offerId) :
    activeOfferJoin db offerId = [o] := by
  obtain ⟨⟨ho, rfl, _⟩, l, hl, hlid, _⟩ := CounterHelpers.mem_activeOfferJoin.mp h
  have hoffer : db.offers.rows.filter (fun o' => o'.id == o.id && activeOffer o') = [o] := by
    refine Table.filter_id_eq ho fun r hr => ?_
    simp only [Bool.and_eq_true, beq_iff_eq, and_iff_left_iff_imp]
    intro heq
    rwa [Table.eq_of_id hr ho heq]
  have hlisting : db.listings.rows.filter (fun l' => l'.id == o.columns.listingId && activeListing l') = [l] := by
    refine Table.filter_id_eq hl fun r hr => ?_
    simp only [Bool.and_eq_true, beq_iff_eq, hlid, and_iff_left_iff_imp]
    intro heq
    rwa [Table.eq_of_id hr hl (heq.trans hlid.symm)]
  rw [activeOfferJoin, hoffer, flatMap_singleton, hlisting]
  rfl

lemma mem_joinedOffers {m : OfferMatch} :
    m ∈ joinedOffers db demandeId value t ↔ m.offer ∈ activeOfferJoin db m.offer.id ∧
      ∃ v, t.get? (demandeId, m.offer.id) = some v ∧ m.score = value v m.offer := by
  simp only [joinedOffers, List.mem_flatMap, List.mem_filter, List.mem_map, beq_iff_eq, Prod.exists]
  constructor
  · rintro ⟨_, _, v, ⟨hrow, rfl⟩, o, ho, rfl⟩
    obtain ⟨⟨-, rfl, -⟩, -⟩ := CounterHelpers.mem_activeOfferJoin.mp ho
    exact ⟨ho, v, Keyed.mem_entries_iff.mp hrow, rfl⟩
  · rintro ⟨ho, v, hget, hscore⟩
    refine ⟨demandeId, m.offer.id, v, ⟨Keyed.mem_entries_iff.mpr hget, rfl⟩, m.offer, ho, ?_⟩
    rw [← hscore]

lemma offer_mem_of_mem_joinedOffers {m : OfferMatch} (h : m ∈ joinedOffers db demandeId value t) :
    m.offer ∈ db.offers.rows :=
  (CounterHelpers.mem_activeOfferJoin.mp (mem_joinedOffers.mp h).1).1.1

lemma eq_of_mem_joinedOffers {m m' : OfferMatch} (hm : m ∈ joinedOffers db demandeId value t)
    (hm' : m' ∈ joinedOffers db demandeId value t) (hid : m.offer.id = m'.offer.id) : m = m' := by
  have hoffer : m.offer = m'.offer :=
    Table.eq_of_id (offer_mem_of_mem_joinedOffers hm) (offer_mem_of_mem_joinedOffers hm') hid
  obtain ⟨-, v, hget, hscore⟩ := mem_joinedOffers.mp hm
  obtain ⟨-, v', hget', hscore'⟩ := mem_joinedOffers.mp hm'
  have hv : v = v' := some.inj (hget.symm.trans (hid ▸ hget'))
  cases m
  cases m'
  simp only at hoffer hscore hscore'
  rw [hscore, hscore', hoffer, hv]

lemma nodup_joinedOffers : (joinedOffers db demandeId value t).Nodup := by
  refine nodup_flatMap.mpr ⟨fun e _ => ?_, ?_⟩
  · refine List.Nodup.map (fun o o' heq => congrArg OfferMatch.offer heq) ?_
    cases hjoin : activeOfferJoin db e.1.2 with
    | nil => exact nodup_nil
    | cons o =>
      have ho : o ∈ activeOfferJoin db e.1.2 := hjoin ▸ mem_cons_self
      rw [← hjoin, activeOfferJoin_eq ho]
      exact nodup_singleton o
  · -- two rows of the demande are about two offers
    have hkeys : (t.entries.filter fun e => e.1.1 == demandeId).Pairwise fun e e' => e.1 ≠ e'.1 :=
      pairwise_map.mp (t.nodup.sublist (filter_sublist.map Prod.fst))
    refine hkeys.imp_of_mem fun {e e'} he he' hne m hm hm' => hne ?_
    obtain ⟨o, ho, rfl⟩ := mem_map.mp hm
    obtain ⟨o', ho', heq⟩ := mem_map.mp hm'
    have hoffer : o' = o := congrArg OfferMatch.offer heq
    obtain ⟨⟨-, hid, -⟩, -⟩ := CounterHelpers.mem_activeOfferJoin.mp ho
    obtain ⟨⟨-, hid', -⟩, -⟩ := CounterHelpers.mem_activeOfferJoin.mp ho'
    have hdemande : e.1.1 = demandeId := by simpa using (mem_filter.mp he).2
    have hdemande' : e'.1.1 = demandeId := by simpa using (mem_filter.mp he').2
    refine Prod.ext (hdemande.trans hdemande'.symm) ?_
    rw [← hid, ← hid', hoffer]

lemma mem_sortedOffers {m : OfferMatch} :
    m ∈ sortedOffers db demandeId value t ↔ m ∈ joinedOffers db demandeId value t := mem_insertionSort _

lemma nodup_sortedOffers : (sortedOffers db demandeId value t).Nodup :=
  (perm_insertionSort _ _).nodup_iff.mpr nodup_joinedOffers

lemma pairwise_sortedOffers : (sortedOffers db demandeId value t).Pairwise OfferMatch.before :=
  pairwise_insertionSort _ _

lemma sortedOffers_eq {l : List OfferMatch} (hnodup : l.Nodup) (hsorted : l.Pairwise OfferMatch.before)
    (hmem : ∀ m, m ∈ l ↔ m ∈ joinedOffers db demandeId value t) : sortedOffers db demandeId value t = l := by
  have hperm : (sortedOffers db demandeId value t).Perm l := by
    refine (perm_ext_iff_of_nodup nodup_sortedOffers hnodup).mpr fun m => ?_
    rw [mem_sortedOffers, hmem]
  refine hperm.eq_of_pairwise (fun a b ha hb hab hba => ?_) pairwise_sortedOffers hsorted
  exact OfferMatch.eq_of_before (offer_mem_of_mem_joinedOffers (mem_sortedOffers.mp ha))
    (offer_mem_of_mem_joinedOffers ((hmem b).mp hb)) hab hba

end Joined

/-! ### What the function returns -/

section Returned

variable {db : Db} {pairs : Pairs} {demandeId : ℕ} {limit offset : ℤ} {scoreThreshold : ℚ}

lemma mem_joined_pairs {m : OfferMatch} : m ∈ joinedOffers db demandeId (fun columns _ => columns.score) pairs ↔
      m.offer ∈ activeOfferJoin db m.offer.id ∧
        (pairs.get? (demandeId, m.offer.id)).map PairColumns.score = some m.score := by
  rw [mem_joinedOffers, map_eq_some_iff]
  refine and_congr_right fun _ => exists_congr fun v => and_congr_right fun _ => eq_comm

lemma shown_congr {pairs' : Pairs} (h : ∀ offerId, (pairs.get? (demandeId, offerId)).map PairColumns.score =
    (pairs'.get? (demandeId, offerId)).map PairColumns.score) :
    shown db pairs demandeId = shown db pairs' demandeId := by
  refine sortedOffers_eq nodup_sortedOffers pairwise_sortedOffers fun m => ?_
  rw [shown, mem_sortedOffers, mem_joined_pairs, mem_joined_pairs, h]

lemma countPairsForDemande_eq : countPairsForDemande db pairs demandeId = (shown db pairs demandeId).length :=
  (length_insertionSort _ _).symm

lemma insertionSort_page (first count : ℕ) :
    ((((shown db pairs demandeId).drop first).take count).insertionSort fun a b => b.score ≤ a.score) =
      ((shown db pairs demandeId).drop first).take count := by
  have hsorted : (((shown db pairs demandeId).drop first).take count).Pairwise OfferMatch.before :=
    pairwise_sortedOffers.sublist ((take_sublist _ _).trans (drop_sublist _ _))
  have hscores : (((shown db pairs demandeId).drop first).take count).Pairwise fun a b => b.score ≤ a.score := by
    refine hsorted.imp fun {a b} hbefore => ?_
    rcases hbefore with hlt | ⟨heq, -⟩
    · exact hlt.le
    · exact heq.le
  exact hscores.insertionSort_eq

lemma getMatches_of_threshold (ht : 0 < scoreThreshold) :
    MatchDetails.getMatchesForDemande db pairs demandeId limit offset scoreThreshold = some ⟨[], 0, []⟩ := by
  have hpage : (if limit ≠ 0 ∧ limit < 0 then sliceTo ([] : List OfferMatch) limit else []) = [] := by
    split
    · exact take_nil
    · rfl
  rw [MatchDetails.getMatchesForDemande, if_neg (not_le.mpr ht), if_neg (not_le.mpr ht)]
  simpa [ht] using hpage

lemma getMatches_refused (ht : scoreThreshold ≤ 0) (h : limit < 0 ∨ offset < 0) :
    MatchDetails.getMatchesForDemande db pairs demandeId limit offset scoreThreshold = none := by
  rw [MatchDetails.getMatchesForDemande, if_pos ht, fetchPairsWithOffers, if_pos h]
  rfl

lemma getMatches_unfiltered (ht : scoreThreshold ≤ 0) (hlimit : 0 ≤ limit) (hoffset : 0 ≤ offset) :
    MatchDetails.getMatchesForDemande db pairs demandeId limit offset scoreThreshold =
      some ⟨((shown db pairs demandeId).drop offset.toNat).take limit.toNat,
        (shown db pairs demandeId).length, []⟩ := by
  have hrefused : ¬(limit < 0 ∨ offset < 0) := by omega
  have hlength : ¬(limit ≠ 0 ∧ limit < (((shown db pairs demandeId).drop offset.toNat).take limit.toNat).length) := by
    rw [List.length_take]
    omega
  have htotal : (if (shown db pairs demandeId).length = 0 then
      (((shown db pairs demandeId).drop offset.toNat).take limit.toNat).length
      else (shown db pairs demandeId).length) = (shown db pairs demandeId).length := by
    split
    · next hzero =>
      rw [List.length_take, List.length_drop]
      omega
    · rfl
  rw [MatchDetails.getMatchesForDemande, if_pos ht, if_pos ht, fetchPairsWithOffers, if_neg hrefused,
    countPairsForDemande_eq]
  simp only [Option.bind_eq_bind, Option.bind_some, Option.pure_def, if_neg (not_lt.mpr ht), insertionSort_page,
    if_neg hlength, htotal]

end Returned

end ImmoApp.Matching
