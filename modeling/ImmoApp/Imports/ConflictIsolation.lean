import ImmoApp.Imports.ChunkLoads

/-!
# Isolating conflicts

A batch of parents that meets a unique violation is cut into halves, which are inserted through the same session.  But
a failed statement aborts the transaction, and no savepoint is set, so that the next statement fails in another way.
-/

namespace ImmoApp.Imports

open List Option

/-- A table of parents: what becomes of a row before any statement, and which rows violate a unique constraint. -/
structure RootTable (ρ : Type) where
  prepare : Fields → Option ρ
  collide : ρ → ρ → Bool

/-- The write session: the rows with their ids, the sequence of the ids, and whether a statement has failed. -/
structure RootSession (ρ : Type) where
  rows : List (ℕ × ρ)
  lastId : ℕ
  aborted : Bool

/-- The ids of rows that are inserted together. -/
def drawnIds {ρ : Type} (s : RootSession ρ) (n : ℕ) : List ℕ := List.range' (s.lastId + 1) n

def createdRefs (ordinals : List ℤ) (ids : List ℕ) : List CreatedRowRef := (ordinals.zip ids).map fun e => ⟨e.1, e.2⟩

namespace RootTable

variable {ρ : Type} (R : RootTable ρ)

def Fits (rows : List (ℕ × ρ)) (prepared : List ρ) : Prop :=
  prepared.Pairwise (fun p p' => R.collide p p' = false) ∧ ∀ p ∈ prepared, ∀ r ∈ rows, R.collide r.2 p = false

instance (rows : List (ℕ × ρ)) (prepared : List ρ) : Decidable (R.Fits rows prepared) := by
  unfold Fits
  infer_instance

/-- `insert_batch_refs`; the ids are drawn and the rows inserted by statements, which fail in an aborted transaction. -/
def insertBatchRefs (s : RootSession ρ) (rows : List Fields) (ordinals : List ℤ) : InsertAttempt (RootSession ρ) :=
  if rows = [] then .created s []
  else if ordinals.length = rows.length ∧ (∀ o ∈ ordinals, 0 ≤ o) ∧ ordinals.Nodup then
    match rows.mapM R.prepare with
    | none => .failed
    | some prepared =>
      let ids := drawnIds s rows.length
      if s.aborted then .failed
      else if R.Fits s.rows prepared then
        .created ⟨s.rows ++ ids.zip prepared, s.lastId + rows.length, false⟩ (createdRefs ordinals ids)
      else .conflict ⟨s.rows, s.lastId + rows.length, true⟩
  else .failed

def chunk (L : LoadChunk (RootSession ρ)) : LoadChunk (RootSession ρ) := { L with insertBatchRefs := R.insertBatchRefs }

end RootTable

section Runs

variable {ρ : Type} (R : RootTable ρ) (T : MatchTexts) (L : LoadChunk (RootSession ρ))

/-- The run in a transaction in which no statement has failed. -/
def LoadRun.opened (s : LoadRun (RootSession ρ)) : LoadRun (RootSession ρ) :=
  { s with session := { s.session with aborted := false } }

def flushRootEntries (entries : List Fields) (s : LoadRun (RootSession ρ)) : Option (LoadRun (RootSession ρ)) :=
  flushWorklist T (R.chunk L) [indexedEntries entries] s

/-- An entry under a savepoint of its own. -/
def insertAlone (s : LoadRun (RootSession ρ)) (entry : Fields) : Option (LoadRun (RootSession ρ)) :=
  match insertRoots (R.chunk L) s.session [entry] with
  | .failed => none
  | .created session rows =>
    (requireCreatedRowRefs rows (batchEntrySourceOrdinals [entry])).map fun created =>
      { s with
        session := session
        createdCount := s.createdCount + created.length
        createdAnchorMap := rememberCreatedAnchorKeys T s.createdAnchorMap [entry] created
        committed := s.committed || !created.isEmpty }
  | .conflict session =>
    some { s with
      session := { session with aborted := false }
      errorCount := s.errorCount + 1
      loadErrors := s.loadErrors ++ [buildRootConflictError entry] }

def insertEach (entries : List Fields) (s : LoadRun (RootSession ρ)) : Option (LoadRun (RootSession ρ)) :=
  (indexedEntries entries).foldlM (insertAlone R T L) s

/-- The rows with their ids, the counts, the anchors and the errors. -/
def LoadRun.outcome (s : LoadRun (RootSession ρ)) :
    List (ℕ × ρ) × ℕ × ℕ × ℕ × Dict String ℤ × List LoadError × Bool :=
  (s.session.rows, s.createdCount, s.skippedCount, s.errorCount, s.createdAnchorMap, s.loadErrors, s.committed)

def AnchorsPaired (entries : List Fields) (s t : LoadRun (RootSession ρ)) : Prop :=
  ∀ key id, t.createdAnchorMap.get? key = some id → s.createdAnchorMap.get? key = some id ∨
    ∃ entry ∈ entries, key ∈ entryStrList T entry "anchor_keys" ∧
      ∃ p n, R.prepare (entryDict entry "data") = some p ∧ id = (n : ℕ) ∧ (n, p) ∈ t.session.rows

/-- All entries can be inserted together. -/
def RootTable.Together (rows : List (ℕ × ρ)) (entries : List Fields) : Prop :=
  ∃ prepared, entries.mapM (fun entry => R.prepare (entryDict entry "data")) = some prepared ∧ R.Fits rows prepared

end Runs

/-! ### Entries with their positions -/

def marked (e : Fields × ℕ) : Fields := e.1.set "_source_ordinal" (.int e.2)

section Marked

variable {ρ : Type} {R : RootTable ρ} {T : MatchTexts} {L : LoadChunk (RootSession ρ)} {s : LoadRun (RootSession ρ)}
  {session : RootSession ρ} {l : List (Fields × ℕ)} {prepared : List ρ} {batch : List Fields}

/-- The values of the entries, if there is one for each. -/
def RootTable.prepareAll (R : RootTable ρ) (l : List (Fields × ℕ)) : Option (List ρ) :=
  l.mapM fun e => R.prepare (entryDict e.1 "data")

section

variable (e : Fields × ℕ)
include e

lemma entrySourceOrdinal_marked (fallback : ℤ) : entrySourceOrdinal (marked e) fallback = e.2 := by
  simp [entrySourceOrdinal, marked, fieldOr, Dict.get?_set, Json.toInt?]

lemma entryDict_marked : entryDict (marked e) "data" = entryDict e.1 "data" := by
  simp [entryDict, marked, Dict.get?_set]

lemma entryStrList_marked : entryStrList T (marked e) "anchor_keys" = entryStrList T e.1 "anchor_keys" := by
  simp [entryStrList, marked, Dict.get?_set]

lemma prepareAll_cons : R.prepareAll (e :: l) =
    (R.prepare (entryDict e.1 "data")).bind fun p => (R.prepareAll l).map (p :: ·) := by
  simp [RootTable.prepareAll, map_eq_bind]

end

lemma mapM_marked (l : List (Fields × ℕ)) :
    ((l.map marked).map fun entry => entryDict entry "data").mapM R.prepare = R.prepareAll l := by
  rw [List.map_map, mapM_map]
  exact congrArg (l.mapM ·) (funext fun e => congrArg R.prepare (entryDict_marked e))

lemma batchEntrySourceOrdinals_marked (l : List (Fields × ℕ)) :
    batchEntrySourceOrdinals (l.map marked) = l.map fun e => (e.2 : ℤ) := by
  rw [batchEntrySourceOrdinals]
  refine ext_getElem (by simp) fun i hi hi' => ?_
  simp [entrySourceOrdinal_marked]

lemma positions_pairwise (hpositions : (l.map Prod.snd).Pairwise (· < ·)) : (l.map fun e => (e.2 : ℤ)).Pairwise (· < ·) :=
  pairwise_map.mpr ((pairwise_map.mp hpositions).imp fun h => by exact_mod_cast h)

lemma nonneg_positions (l : List (Fields × ℕ)) : ∀ o ∈ l.map fun e => (e.2 : ℤ), 0 ≤ o := by
  intro o ho
  obtain ⟨e, -, rfl⟩ := List.mem_map.mp ho
  exact Int.natCast_nonneg e.2

lemma insertRoots_marked (hpositions : (l.map Prod.snd).Pairwise (· < ·)) (hopen : session.aborted = false)
    (hprepared : R.prepareAll l = some prepared) (hl : l ≠ []) :
    insertRoots (R.chunk L) session (l.map marked) =
      if R.Fits session.rows prepared then
        .created ⟨session.rows ++ (drawnIds session l.length).zip prepared, session.lastId + l.length, false⟩
          (createdRefs (l.map fun e => (e.2 : ℤ)) (drawnIds session l.length))
      else .conflict ⟨session.rows, session.lastId + l.length, true⟩ := by
  have hnodup := (positions_pairwise hpositions).imp ne_of_lt
  rw [insertRoots, RootTable.chunk]
  dsimp only
  rw [RootTable.insertBatchRefs, batchEntrySourceOrdinals_marked, if_neg (by simpa using hl), if_pos
    ⟨by simp, nonneg_positions l, hnodup⟩, mapM_marked, hprepared]
  simp only [hopen, length_map, Bool.false_eq_true, if_false]

lemma insertRoots_unprepared (hprepared : R.prepareAll l = none) :
    insertRoots (R.chunk L) session (l.map marked) = .failed := by
  have hl : l ≠ [] := by
    rintro rfl
    cases hprepared
  rw [insertRoots, RootTable.chunk]
  dsimp only
  rw [RootTable.insertBatchRefs, if_neg (by simpa using hl), mapM_marked, hprepared]
  exact ite_self _

lemma insertRoots_aborted (haborted : session.aborted = true) (hbatch : batch ≠ []) :
    insertRoots (R.chunk L) session batch = .failed := by
  rw [insertRoots, RootTable.chunk]
  dsimp only
  rw [RootTable.insertBatchRefs, if_neg (by simpa using hbatch)]
  split_ifs
  · split <;> rfl
  · rfl

lemma requireCreatedRowRefs_createdRefs {ordinals : List ℤ} {ids : List ℕ} (hlength : ids.length = ordinals.length)
    (hids : ∀ id ∈ ids, 0 < id) (hordinals : ordinals.Pairwise (· < ·)) (hpos : ∀ o ∈ ordinals, 0 ≤ o) :
    requireCreatedRowRefs (createdRefs ordinals ids) ordinals = some (createdRefs ordinals ids) := by
  have hsame : (createdRefs ordinals ids).map CreatedRowRef.sourceOrdinal = ordinals := by
    rw [createdRefs, List.map_map]
    exact map_fst_zip hlength.ge
  have hsorted : (createdRefs ordinals ids).Pairwise fun row row' => row.sourceOrdinal ≤ row'.sourceOrdinal := by
    rw [← hsame] at hordinals
    exact (pairwise_map.mp hordinals).imp le_of_lt
  have hnodup := hordinals.imp ne_of_lt
  have hpositive : ∀ row ∈ createdRefs ordinals ids, 0 < row.createdId := by
    intro row hrow
    obtain ⟨e, he, rfl⟩ := List.mem_map.mp hrow
    exact Int.natCast_pos.mpr (hids e.2 (of_mem_zip he).2)
  rw [requireCreatedRowRefs, hsame, if_pos ⟨by simp [createdRefs, hlength], hpositive, hpos, hnodup, hnodup,
    fun _ h => h, fun _ h => h⟩, hsorted.insertionSort_eq]

/-- Entries with the ids of their rows. -/
def rememberAll (T : MatchTexts) (anchors : Dict String ℤ) (rows : List ((Fields × ℕ) × ℕ)) : Dict String ℤ :=
  rows.foldl (fun anchors row => KeyIndex.setAll anchors (entryStrList T row.1.1 "anchor_keys") row.2) anchors

lemma rememberCreatedAnchorKeys_createdRefs (hpositions : (l.map Prod.snd).Pairwise (· < ·)) (anchors : Dict String ℤ)
    (ids : List ℕ) :
    rememberCreatedAnchorKeys T anchors (l.map marked) (createdRefs (l.map fun e => (e.2 : ℤ)) ids) =
      rememberAll T anchors (l.zip ids) := by
  rw [rememberCreatedAnchorKeys, rememberAll, createdRefs, zip_map_left, List.map_map, foldl_map]
  refine foldl_ext _ _ _ fun anchors row hrow => ?_
  have hfound : (l.map marked).find? (fun entry => entrySourceOrdinal entry 0 = row.1.2) = some (marked row.1) := by
    have hmem := (of_mem_zip hrow).1
    have hown : ∀ e ∈ l, e.2 = row.1.2 → e = row.1 := fun e he heq =>
      inj_on_of_nodup_map (hpositions.imp ne_of_lt) he hmem heq
    obtain ⟨entry, hentry⟩ :=
      isSome_iff_exists.mp ((find?_isSome (p := fun entry => entrySourceOrdinal entry 0 = row.1.2)).mpr
      ⟨marked row.1, mem_map_of_mem hmem, by simp [entrySourceOrdinal_marked]⟩)
    obtain ⟨e, he, rfl⟩ := List.mem_map.mp (mem_of_find?_eq_some hentry)
    have hsame := find?_some hentry
    rw [entrySourceOrdinal_marked, decide_eq_true_eq, Nat.cast_inj] at hsame
    rw [hentry, hown e he hsame]
  simp only [Function.comp, Prod.map, id, hfound, entryStrList_marked]

/-- The entries are inserted with these values. -/
def LoadRun.inserted (T : MatchTexts) (s : LoadRun (RootSession ρ)) (l : List (Fields × ℕ)) (prepared : List ρ) :
    LoadRun (RootSession ρ) :=
  { s with
    session := ⟨s.session.rows ++ (drawnIds s.session l.length).zip prepared, s.session.lastId + l.length, false⟩
    createdCount := s.createdCount + l.length
    createdAnchorMap := rememberAll T s.createdAnchorMap (l.zip (drawnIds s.session l.length))
    committed := s.committed || !l.isEmpty }

lemma inserted_nil (hopen : s.session.aborted = false) : s.inserted T [] [] = s := by
  obtain ⟨⟨_, _, aborted⟩, _⟩ := s
  obtain rfl : aborted = false := hopen
  simp [LoadRun.inserted, rememberAll, drawnIds]

lemma inserted_cons (e : Fields × ℕ) (p : ρ) :
    (s.inserted T [e] [p]).inserted T l prepared = s.inserted T (e :: l) (p :: prepared) := by
  simp [LoadRun.inserted, rememberAll, drawnIds, range'_succ, add_comm, add_left_comm]

/-- What both ways make of a created batch. -/
lemma inserted_eq (T : MatchTexts) (s : LoadRun (RootSession ρ)) (prepared : List ρ)
    (hpositions : (l.map Prod.snd).Pairwise (· < ·)) (hl : l ≠ []) :
    requireCreatedRowRefs (createdRefs (l.map fun e => (e.2 : ℤ)) (drawnIds s.session l.length))
        (batchEntrySourceOrdinals (l.map marked)) =
      some (createdRefs (l.map fun e => (e.2 : ℤ)) (drawnIds s.session l.length)) ∧
    { s with
      session := ⟨s.session.rows ++ (drawnIds s.session l.length).zip prepared, s.session.lastId + l.length, false⟩
      createdCount := s.createdCount + (createdRefs (l.map fun e => (e.2 : ℤ)) (drawnIds s.session l.length)).length
      createdAnchorMap := rememberCreatedAnchorKeys T s.createdAnchorMap (l.map marked)
        (createdRefs (l.map fun e => (e.2 : ℤ)) (drawnIds s.session l.length))
      committed := s.committed || !(createdRefs (l.map fun e => (e.2 : ℤ)) (drawnIds s.session l.length)).isEmpty } =
    s.inserted T l prepared := by
  constructor
  · rw [batchEntrySourceOrdinals_marked]
    refine requireCreatedRowRefs_createdRefs (by simp [drawnIds]) (fun id hid => ?_) (positions_pairwise hpositions)
      (nonneg_positions l)
    obtain ⟨i, -, rfl⟩ := mem_range'.mp hid
    omega
  · rw [rememberCreatedAnchorKeys_createdRefs hpositions]
    obtain ⟨e, _, rfl⟩ := exists_cons_of_ne_nil hl
    simp [LoadRun.inserted, createdRefs, drawnIds, range'_succ]

lemma flushWorklist_marked (hpositions : (l.map Prod.snd).Pairwise (· < ·)) (hopen : s.session.aborted = false)
    (hprepared : R.prepareAll l = some prepared)
    (hfits : R.Fits s.session.rows prepared) :
    flushWorklist T (R.chunk L) [l.map marked] s = some (s.inserted T l prepared) := by
  rcases eq_or_ne l [] with rfl | hl
  · obtain rfl : prepared = [] := (some.inj hprepared).symm
    rw [inserted_nil hopen, map_nil, flushWorklist, insertRoots, map_nil, RootTable.chunk]
    dsimp only
    rw [RootTable.insertBatchRefs, if_pos rfl]
    simp [requireCreatedRowRefs, batchEntrySourceOrdinals, flushWorklist, rememberCreatedAnchorKeys]
  · obtain ⟨hcreated, hinserted⟩ := inserted_eq T s prepared hpositions hl
    rw [flushWorklist, insertRoots_marked hpositions hopen hprepared hl, if_pos hfits]
    simp only [hcreated, hinserted, flushWorklist]

variable {e : Fields × ℕ} {p : ρ}

section

variable (hopen : s.session.aborted = false)
include hopen

lemma insertAlone_marked (hp : R.prepare (entryDict e.1 "data") = some p) :
    insertAlone R T L s (marked e) = some (if ∀ r ∈ s.session.rows, R.collide r.2 p = false then s.inserted T [e] [p]
      else { s with
        session := ⟨s.session.rows, s.session.lastId + 1, false⟩
        errorCount := s.errorCount + 1
        loadErrors := s.loadErrors ++ [buildRootConflictError (marked e)] }) := by
  have hpositions : ([e].map Prod.snd).Pairwise (· < ·) := pairwise_singleton _ _
  have hprepared : R.prepareAll [e] = some [p] := by simp [RootTable.prepareAll, hp]
  have hroots : insertRoots (R.chunk L) s.session _ = _ := insertRoots_marked hpositions hopen hprepared (cons_ne_nil e [])
  have hfits : R.Fits s.session.rows [p] ↔ ∀ r ∈ s.session.rows, R.collide r.2 p = false := by simp [RootTable.Fits]
  rw [map_singleton] at hroots
  rw [insertAlone, hroots]
  by_cases h : ∀ r ∈ s.session.rows, R.collide r.2 p = false
  · obtain ⟨hcreated, hinserted⟩ := inserted_eq T s [p] hpositions (cons_ne_nil e [])
    rw [if_pos (hfits.mpr h), if_pos h, ← hinserted]
    simp only [map_singleton] at hcreated ⊢
    simp only [hcreated, map_some]
  · rw [if_neg fun hall => h (hfits.mp hall), if_neg h]
    rfl

lemma insertEach_marked (hprepared : R.prepareAll l = some prepared) (hfits : R.Fits s.session.rows prepared) :
    (l.map marked).foldlM (insertAlone R T L) s = some (s.inserted T l prepared) := by
  induction l generalizing s prepared with
  | nil =>
    obtain rfl : prepared = [] := (some.inj hprepared).symm
    rw [inserted_nil hopen]
    rfl
  | cons e l ih =>
    rw [prepareAll_cons] at hprepared
    obtain ⟨p, hp, hrest⟩ := bind_eq_some_iff.mp hprepared
    obtain ⟨_, hprepared', rfl⟩ := map_eq_some_iff.mp hrest
    obtain ⟨hpairs, hstored⟩ := hfits
    rw [pairwise_cons] at hpairs
    have hopen' : (s.inserted T [e] [p]).session.aborted = false := rfl
    have hnext := ih hopen' hprepared' ⟨hpairs.2, fun p' hp' r hr => by
      rcases mem_append.mp hr with hr | hr
      · exact hstored p' (mem_cons_of_mem p hp') r hr
      · obtain rfl : r.2 = p := mem_singleton.mp (of_mem_zip hr).2
        exact hpairs.1 p' hp'⟩
    rw [inserted_cons] at hnext
    rw [map_cons, foldlM_cons, insertAlone_marked hopen hp, if_pos (hstored p mem_cons_self)]
    exact hnext

lemma insertEach_cases (l : List (Fields × ℕ)) : ((∀ e ∈ l, R.prepare (entryDict e.1 "data") ≠ none) ∧
        ∃ prepared t, R.prepareAll l = some prepared ∧ (l.map marked).foldlM (insertAlone R T L) s = some t) ∨
      (∃ e ∈ l, R.prepare (entryDict e.1 "data") = none) ∧ R.prepareAll l = none ∧
        (l.map marked).foldlM (insertAlone R T L) s = none := by
  induction l generalizing s with
  | nil => exact .inl ⟨by simp, [], s, rfl, rfl⟩
  | cons e l ih =>
    rw [prepareAll_cons, map_cons, foldlM_cons]
    cases hp : R.prepare (entryDict e.1 "data") with
    | none =>
      have hfailed : insertRoots (R.chunk L) s.session ([e].map marked) = .failed :=
        insertRoots_unprepared (by simp [prepareAll_cons, hp])
      rw [map_singleton] at hfailed
      exact .inr ⟨⟨e, mem_cons_self, hp⟩, rfl, by rw [insertAlone, hfailed]; rfl⟩
    | some p =>
      rw [insertAlone_marked hopen hp]
      generalize hu : (if ∀ r ∈ s.session.rows, R.collide r.2 p = false then s.inserted T [e] [p] else _) = u
      have hopen' : u.session.aborted = false := by
        rw [← hu]
        split_ifs <;> rfl
      rcases ih hopen' with ⟨hall, prepared, t, hprepared, ht⟩ | ⟨⟨e', he', hnone⟩, hprepared, ht⟩
      · refine .inl ⟨fun e' he' => ?_, p :: prepared, t, by rw [hprepared]; rfl, ht⟩
        rcases mem_cons.mp he' with rfl | he'
        · simp [hp]
        · exact hall e' he'
      · exact .inr ⟨⟨e', mem_cons_of_mem e he', hnone⟩, by rw [hprepared]; rfl, ht⟩

end

/-- After a conflict the first half meets a transaction that has failed. -/
lemma flushWorklist_conflict (hpositions : (l.map Prod.snd).Pairwise (· < ·)) (hopen : s.session.aborted = false)
    (hprepared : R.prepareAll l = some prepared)
    (hfits : ¬R.Fits s.session.rows prepared) (hl : 2 ≤ l.length) :
    flushWorklist T (R.chunk L) [l.map marked] s = none := by
  have hroots : insertRoots (R.chunk L) s.session _ = _ :=
    insertRoots_marked hpositions hopen hprepared (ne_nil_of_length_pos (by omega))
  rw [if_neg hfits] at hroots
  obtain ⟨e, e', l', rfl⟩ : ∃ e e' l', l = e :: e' :: l' := by
    match l, hl with
    | e :: e' :: l', _ => exact ⟨e, e', l', rfl⟩
  rw [flushWorklist, hroots]
  simp only [map_cons]
  rw [flushWorklist, insertRoots_aborted rfl (ne_nil_of_length_pos (by simp))]

lemma flushWorklist_conflict_singleton {e : Fields × ℕ} (hopen : s.session.aborted = false)
    (hp : R.prepareAll [e] = some prepared)
    (hfits : ¬R.Fits s.session.rows prepared) :
    (flushWorklist T (R.chunk L) [[e].map marked] s).map LoadRun.outcome =
        (([e].map marked).foldlM (insertAlone R T L) s).map LoadRun.outcome ∧
      ∀ t ∈ flushWorklist T (R.chunk L) [[e].map marked] s, t.createdAnchorMap = s.createdAnchorMap := by
  have hroots : insertRoots (R.chunk L) s.session _ = _ :=
    insertRoots_marked (pairwise_singleton _ _) hopen hp (cons_ne_nil e [])
  rw [if_neg hfits] at hroots
  rw [flushWorklist, hroots, map_singleton, foldlM_cons, insertAlone, ← map_singleton, hroots]
  simp only [map_cons, map_nil, flushWorklist]
  refine ⟨rfl, ?_⟩
  rintro t ⟨⟩
  rfl

lemma get?_rememberAll {anchors : Dict String ℤ} {rows : List ((Fields × ℕ) × ℕ)} {key : String} {id : ℤ}
    (h : (rememberAll T anchors rows).get? key = some id) : anchors.get? key = some id ∨
      ∃ row ∈ rows, key ∈ entryStrList T row.1.1 "anchor_keys" ∧ id = row.2 := by
  induction rows generalizing anchors with
  | nil => exact .inl h
  | cons row _ ih =>
    rcases ih h with hfirst | ⟨row', hrow', hkey⟩
    · rw [KeyIndex.get?_setAll] at hfirst
      split_ifs at hfirst with hkey
      · exact .inr ⟨row, mem_cons_self, hkey, (some.inj hfirst).symm⟩
      · exact .inl hfirst
    · exact .inr ⟨row', mem_cons_of_mem row hrow', hkey⟩

lemma exists_prepared {α : Type} {f : α → Option ρ} {l : List α} {ids : List ℕ} {row : α × ℕ}
    (hprepared : l.mapM f = some prepared) (hrow : row ∈ l.zip ids) :
    ∃ p, f row.1 = some p ∧ (row.2, p) ∈ ids.zip prepared := by
  induction l generalizing ids prepared with
  | nil => simp at hrow
  | cons a l ih =>
    rw [mapM_cons] at hprepared
    obtain ⟨p, hp, hrest⟩ := bind_eq_some_iff.mp hprepared
    obtain ⟨_, hprepared', hcons⟩ := bind_eq_some_iff.mp hrest
    obtain rfl := some.inj hcons
    cases ids with
    | nil => simp at hrow
    | cons =>
      rw [zip_cons_cons] at hrow ⊢
      rcases mem_cons.mp hrow with rfl | hrow
      · exact ⟨p, hp, mem_cons_self⟩
      · exact (ih hprepared' hrow).imp fun p h => ⟨h.1, mem_cons_of_mem _ h.2⟩

end Marked

section Isolation

variable {ρ : Type} (R : RootTable ρ) (T : MatchTexts) (L : LoadChunk (RootSession ρ))

theorem flush_matches_each_iff (entries : List Fields) (s : LoadRun (RootSession ρ)) :
    ((flushRootEntries R T L entries s.opened).map LoadRun.outcome =
        (insertEach R T L entries s.opened).map LoadRun.outcome ∧
      ∀ t ∈ flushRootEntries R T L entries s.opened, AnchorsPaired R T entries s t) ↔
    R.Together s.session.rows entries ∨ entries.length ≤ 1 ∨
      ∃ entry ∈ entries, R.prepare (entryDict entry "data") = none := by
  have hmapM : entries.mapM (fun entry => R.prepare (entryDict entry "data")) = R.prepareAll entries.zipIdx := by
    conv_lhs => rw [← zipIdx_map_fst 0 entries, mapM_map]
    rfl
  have hmem : ∀ e ∈ entries.zipIdx, e.1 ∈ entries := fun e he => zipIdx_map_fst 0 entries ▸ mem_map_of_mem he
  have hrefused : (∃ entry ∈ entries, R.prepare (entryDict entry "data") = none) ↔
      ∃ e ∈ entries.zipIdx, R.prepare (entryDict e.1 "data") = none := by
    conv_lhs => rw [← zipIdx_map_fst 0 entries]
    simp only [List.mem_map, exists_exists_and_eq_and]
  have hpositions : (entries.zipIdx.map Prod.snd).Pairwise (· < ·) := by
    rw [zipIdx_map_snd]
    exact pairwise_lt_range'
  have hlength : entries.zipIdx.length = entries.length := length_zipIdx
  have hopen : s.opened.session.aborted = false := rfl
  rw [RootTable.Together, hmapM, hrefused, flushRootEntries, insertEach, indexedEntries]
  change (Option.map _ (flushWorklist T (R.chunk L) [entries.zipIdx.map marked] s.opened) =
    Option.map _ ((entries.zipIdx.map marked).foldlM (insertAlone R T L) s.opened) ∧
      ∀ t ∈ flushWorklist T (R.chunk L) [entries.zipIdx.map marked] s.opened, _) ↔ _
  rcases insertEach_cases (R := R) (T := T) (L := L) hopen entries.zipIdx with
    ⟨hall, prepared, t, hprepared, ht⟩ | ⟨hnone, hprepared, ht⟩
  · by_cases hfits : R.Fits s.session.rows prepared
    · -- the whole batch is inserted at once
      rw [flushWorklist_marked hpositions hopen hprepared hfits, insertEach_marked hopen hprepared hfits]
      refine iff_of_true ⟨rfl, ?_⟩ (.inl ⟨prepared, hprepared, hfits⟩)
      rintro _ ⟨⟩ key id hid
      refine (get?_rememberAll hid).imp_right ?_
      rintro ⟨row, hrow, hkey, rfl⟩
      obtain ⟨p, hp, hstored⟩ := exists_prepared hprepared hrow
      exact ⟨row.1.1, hmem _ (of_mem_zip hrow).1, hkey, p, row.2, hp, rfl, mem_append_right _ hstored⟩
    · have hne : entries.zipIdx ≠ [] := by
        intro hnil
        rw [hnil] at hprepared
        obtain rfl : prepared = [] := (some.inj hprepared).symm
        exact hfits ⟨Pairwise.nil, by simp⟩
      rcases Nat.lt_or_ge 1 entries.length with hmany | hone
      · rw [flushWorklist_conflict hpositions hopen hprepared hfits (hlength.symm ▸ hmany), ht]
        refine iff_of_false (fun h => by cases h.1) ?_
        rintro (⟨_, hprepared', hfits'⟩ | _ | ⟨e, he, hnone⟩)
        · rw [hprepared] at hprepared'
          exact hfits (some.inj hprepared' ▸ hfits')
        · omega
        · exact hall e he hnone
      · have hsingle : entries.zipIdx.length = 1 := le_antisymm (hlength.trans_le hone) (length_pos_iff.mpr hne)
        obtain ⟨e, he⟩ := length_eq_one_iff.mp hsingle
        rw [he] at hprepared ⊢
        obtain ⟨hsame, hanchors⟩ := flushWorklist_conflict_singleton (T := T) (L := L) hopen hprepared hfits
        refine iff_of_true ⟨hsame, fun t ht key id hid => .inl ?_⟩ (.inr (.inl hone))
        rwa [hanchors t ht] at hid
  · rw [flushWorklist, insertRoots_unprepared hprepared, ht]
    exact iff_of_true ⟨rfl, by simp⟩ (.inr (.inr hnone))

end Isolation

/-- Parents with a phone, which is unique. -/
def phoneTable : RootTable Json where
  prepare row := row.get? "phone"
  collide p p' := p = p'

def phoneEntry (phone : String) : Fields := [("data", .obj [("phone", .str phone)])]

/-- A parent is stored already. -/
def storedParent : LoadRun (RootSession Json) where
  session := ⟨[(1, .str "0550")], 1, false⟩

def parentChunk : LoadChunk (RootSession Json) :=
  { oneChild with session := storedParent.session, insertBatch := fun _ _ => none, insertBatchRefs := fun _ _ _ => .failed }

/-- The second of two parents is stored already; the first is not loaded either. -/
theorem conflict_not_isolated : ¬∀ (ρ : Type) (R : RootTable ρ) (T : MatchTexts) (L : LoadChunk (RootSession ρ))
    (entries : List Fields) (s : LoadRun (RootSession ρ)), (flushRootEntries R T L entries s.opened).map LoadRun.outcome =
      (insertEach R T L entries s.opened).map LoadRun.outcome := by
  intro h
  have hsame := h Json phoneTable plainTexts parentChunk [phoneEntry "0660", phoneEntry "0550"] storedParent
  have hflush : flushRootEntries phoneTable plainTexts parentChunk [phoneEntry "0660", phoneEntry "0550"]
      storedParent.opened = none :=
    flushWorklist_conflict (l := [(phoneEntry "0660", 0), (phoneEntry "0550", 1)]) (by decide) rfl rfl (by decide) le_rfl
  have heach : (insertEach phoneTable plainTexts parentChunk [phoneEntry "0660", phoneEntry "0550"]
      storedParent.opened).isSome := by decide +kernel
  rw [hflush] at hsame
  rw [← isSome_map, ← hsame] at heach
  cases heach

end ImmoApp.Imports
