import ImmoApp.Imports.ReviewRows

/-!
# Decisions of a review submission

A submission carries decisions about rows, about items and about groups.  `kickoff_review_submission`
stores those about groups as resolution templates and those about items as resolutions; what is stored
then yields one decision for every pending row, and the decisions of the request about rows are merged
over these by key (`buildPreparedSubmit`).

The lemmas at the end say which decision a row is looked up with: the last one of the request that
reaches the key of the row, else the stored one.
-/

namespace ImmoApp.Imports

open List Option Dict

structure ReviewDecision extends ResolutionPayload where
  scope : Option String
  corrections : Dict String Json

/-- A replacement of one value in several rows (`replace_value_in_import`). -/
structure BulkOperation where
  field : String
  replacementValue : Json
  targetRows : List ℕ

structure ReviewSubmitRequest where
  corrections : Dict RowKey (Dict String Json)
  decisions : Dict RowKey ReviewDecision
  itemDecisions : Dict ℕ ReviewDecision
  groupDecisions : Dict String ReviewDecision
  skipRows : List RowKey
  skipItemIds : List ℕ
  bulkOperations : List BulkOperation

/-- `_row_decision_payload`, which keeps no scope. -/
def rowDecisionPayload (d : ReviewDecision) : ReviewDecision := { d with scope := none }

def normalizeReviewSubmitRequest (T : KeyTexts) (data : ReviewSubmitRequest) : ReviewSubmitRequest :=
  { data with
    decisions := data.decisions.map fun e => (e.1, rowDecisionPayload e.2)
    itemDecisions := data.itemDecisions.map fun e => (e.1, rowDecisionPayload e.2)
    groupDecisions := data.groupDecisions.map fun e => (e.1, rowDecisionPayload e.2)
    skipRows := data.skipRows.filterMap (normalizeReviewKeyToken T) }

def positive (n : Option ℤ) : Option ℤ := n.filter (0 < ·)

def templateOf (g : ReviewGroup) (d : ReviewDecision) : ResolutionPayload :=
  ⟨d.action, d.action.map fun _ => d.entityType.getD g.entityType, positive d.existingId, none⟩

def applyToAllPendingItems : String := "apply_to_all_pending_items"

def scopeOf (scope : Option String) : String :=
  strip ((scope.filter (· ≠ "")).getD applyToAllPendingItems)

def applyGroupResolutionTemplates (decisions : Dict String ReviewDecision) (s : ReviewDesk) :
    ReviewDesk :=
  { s with groups := s.groups.map fun e => (e.1, match decisions.get? e.1 with
      | none => e.2
      | some d => { e.2 with resolutionTemplate := templateOf e.2 d
                             resolutionScope := some (scopeOf d.scope) }) }

def itemResolution (req : ReviewSubmitRequest) (i : ReviewItem) : Option ResolutionPayload :=
  let d := req.itemDecisions.get? i.id
  let action := (d.bind fun d => d.action).or (if i.id ∈ req.skipItemIds then some .skip else none)
  action.map fun a =>
    ⟨some a, some ((d.bind fun d => d.entityType).getD i.entry.entityType),
      positive (d.bind fun d => d.existingId), positive (d.bind fun d => d.rowVersion)⟩

def statusAfter (r : ReviewRow) : Option ReviewAction → ItemStatus
  | some .skip => .skipped
  | some .createNew | some .updateExisting => .resolved
  | _ => itemStatusFromRow { r with status := none }

def applyItemResolutions (req : ReviewSubmitRequest) (s : ReviewDesk) : ReviewDesk :=
  { s with items := s.items.map fun i => match itemResolution req i with
      | none => i
      | some r => { i with resolution := r, resolutionSource := "item"
                           status := statusAfter i.entry r.action } }

/-- What a resolution of its group means for an item: a row of the type of the group takes it over, any
other row what is suggested for it. -/
def followGroup (r : ReviewRow) (groupEntity : ReviewEntity) (template : ResolutionPayload) :
    Option ResolutionPayload :=
  match template.action with
  | none | some .reviewAmbiguous => none
  | some .skip => some ⟨some .skip, some r.entityType, none, none⟩
  | some _ =>
    if r.entityType = groupEntity then some { template with entityType := some r.entityType }
    else match r.suggestedAction with
      | some .updateExisting =>
        if 0 < r.suggestedExistingId then
          some ⟨some .updateExisting, some r.entityType, some r.suggestedExistingId, none⟩
        else none
      | some .skip => some ⟨some .skip, some r.entityType, none, none⟩
      | none | some .createNew =>
        if r.candidateMatches.isEmpty then some ⟨some .createNew, some r.entityType, none, none⟩
        else none
      | some .reviewAmbiguous => none

def groupEffectiveResolution (s : ReviewDesk) (i : ReviewItem) : Option ResolutionPayload :=
  match s.groups.get? i.groupKey with
  | none => none
  | some g =>
    if !i.groupResolvable then none
    else if scopeOf g.resolutionScope ≠ applyToAllPendingItems then none
    else followGroup i.entry g.entityType g.resolutionTemplate

def ResolutionPayload.within (r : ResolutionPayload) (i : ReviewItem) : ResolutionPayload :=
  { r with entityType := r.entityType.or (some i.entry.entityType) }

def effectiveResolutionPayload (s : ReviewDesk) (i : ReviewItem) : Option ResolutionPayload :=
  if i.resolution ≠ .empty ∧ i.resolutionSource = "item" then some (i.resolution.within i)
  else match groupEffectiveResolution s i with
    | some r => some r
    | none => if i.resolution ≠ .empty then some (i.resolution.within i) else none

def stayInReview (i : ReviewItem) : ResolutionPayload :=
  ⟨some .reviewAmbiguous, some i.entry.entityType, none, none⟩

def storedResolution (s : ReviewDesk) (i : ReviewItem) : ResolutionPayload :=
  ((effectiveResolutionPayload s i).getD (stayInReview i)).within i

/-- `build_effective_submit_payload`: decisions and rows to skip. -/
def buildEffectiveSubmitPayload (s : ReviewDesk) (items : List ReviewItem) :
    Dict RowKey ResolutionPayload × List RowKey :=
  (items.foldl (fun acc i => acc.set i.rowKey (storedResolution s i)) [],
    ((items.filter fun i => (storedResolution s i).action = some .skip).map ReviewItem.rowKey).dedup)

/-! ### Merging -/

structure PreparedReviewSubmitPayload where
  corrections : Dict RowKey (Dict String Json)
  decisions : Dict RowKey ResolutionPayload
  skipRows : List RowKey
  pendingRows : List ReviewRow

def reviewRowKeyFromPayload (r : ReviewRow) : RowKey := reviewRowKey r.row r.entityType

/-- The keys of the pending rows with a number (`plain_row_lookup`). -/
def plainRowLookup (rows : List ReviewRow) (n : ℕ) : List RowKey :=
  ((rows.filter fun r => r.row = n).map reviewRowKeyFromPayload).dedup

/-- A plain key becomes the key of the pending row, where there is one pending row with the number. -/
def promotedKey (T : KeyTexts) (rows : List ReviewRow) (k : RowKey) : Option RowKey :=
  (normalizeReviewKeyToken T k).map fun
    | .plain n =>
      match plainRowLookup rows n with
      | [key] => key
      | _ => .plain n
    | k => k

def expandBulkOperations (rows : List ReviewRow) (corrections : Dict RowKey (Dict String Json))
    (operations : List BulkOperation) : Dict RowKey (Dict String Json) :=
  operations.foldl (fun acc op =>
    if op.field = "" ∨ op.replacementValue = .null ∨ op.replacementValue = .str "" then acc
    else op.targetRows.foldl (fun acc n =>
      (rows.filter fun r => r.row = n).foldl (fun acc r =>
        let key := reviewRowKeyFromPayload r
        acc.set key (((acc.get? key).getD r.data).set op.field op.replacementValue)) acc) acc)
    corrections

def addressed (T : KeyTexts) (skipRows : List RowKey) (decisions : Dict RowKey ResolutionPayload)
    (r : ReviewRow) : Bool :=
  let tokens := (skipRows ++ decisions.map Prod.fst).filterMap (normalizeReviewKeyToken T)
  (reviewRowLookupKeys r.row r.entityType).any fun key => tokens.contains key

def prepareEffectiveReviewSubmitPayload (T : KeyTexts) (rows : List ReviewRow)
    (corrections : Dict RowKey (Dict String Json)) (decisions : Dict RowKey ResolutionPayload)
    (skipRows : List RowKey) (operations : List BulkOperation) : PreparedReviewSubmitPayload :=
  let promotedDecisions := Dict.rekey (promotedKey T rows) decisions
  let promotedSkipRows := skipRows.filterMap (promotedKey T rows)
  { corrections :=
      expandBulkOperations rows (Dict.rekey (promotedKey T rows) corrections) operations
    decisions := (rows.filter fun r => !addressed T promotedSkipRows promotedDecisions r).foldl
      (fun acc r => acc.set (reviewRowKeyFromPayload r) ⟨some .reviewAmbiguous, none, none, none⟩)
      promotedDecisions
    skipRows := promotedSkipRows.dedup
    pendingRows := rows }

def itemLevelCorrections (items : List ReviewItem) (req : ReviewSubmitRequest) : Dict RowKey (Dict String Json) :=
  items.foldl (fun acc i =>
    match req.itemDecisions.get? i.id with
    | none => acc
    | some d => if d.corrections = [] then acc else acc.set i.rowKey d.corrections) []

/-- `_build_prepared_submit`, with `merge_review_submit_payloads`. -/
def buildPreparedSubmit (T : KeyTexts) (s : ReviewDesk) (req : ReviewSubmitRequest) :
    PreparedReviewSubmitPayload :=
  let items := activeReviewItems s
  let stored := buildEffectiveSubmitPayload s items
  let prepared := prepareEffectiveReviewSubmitPayload T (items.map ReviewItem.entry) req.corrections
    (stored.1.update (req.decisions.map fun e => (e.1, e.2.toResolutionPayload)))
    (req.skipRows ++ stored.2).dedup req.bulkOperations
  { prepared with corrections := prepared.corrections.update (itemLevelCorrections items req) }

/-! ### The decision a row is looked up with -/

section Lookup

variable {T : KeyTexts} {s : ReviewDesk} {req : ReviewSubmitRequest} {i : ReviewItem}

/-- No other item of the submission has the row key of the item. -/
def Alone (s : ReviewDesk) (i : ReviewItem) : Prop :=
  ∀ j ∈ activeReviewItems s, j.rowKey = i.rowKey → j = i

abbrev submittedRows (s : ReviewDesk) : List ReviewRow := (activeReviewItems s).map ReviewItem.entry

abbrev storedDecisions (s : ReviewDesk) : Dict RowKey ResolutionPayload :=
  (buildEffectiveSubmitPayload s (activeReviewItems s)).1

abbrev rowDecisions (req : ReviewSubmitRequest) : Dict RowKey ResolutionPayload :=
  req.decisions.map fun e => (e.1, e.2.toResolutionPayload)

/-- The last decision of a request that reaches a row under another spelling, else the one under the key
of the row. -/
def reachingDecision (T : KeyTexts) (rows : List ReviewRow) (decisions : Dict RowKey ResolutionPayload)
    (key : RowKey) : Option ResolutionPayload :=
  ((decisions.filter fun e => e.1 ≠ key ∧ promotedKey T rows e.1 = some key).getLast?.map
    Prod.snd).or (decisions.get? key)

lemma promotedKey_rowKey (T : KeyTexts) (rows : List ReviewRow) (i : ReviewItem) :
    promotedKey T rows i.rowKey = some i.rowKey := rfl

variable {k : RowKey} {decisions : Dict RowKey ResolutionPayload}

lemma normalize_of_promotedKey {rows : List ReviewRow} {k' : RowKey}
    (h : promotedKey T rows k = some k') : normalizeReviewKeyToken T k' = some k' := by
  obtain ⟨m, hm, rfl⟩ := map_eq_some_iff.mp h
  cases m with
  | plain n =>
    dsimp only
    split
    · next key hkey =>
      have hmem : key ∈ plainRowLookup rows n := by simp [hkey]
      obtain ⟨r, -, rfl⟩ := mem_map.mp (mem_dedup.mp hmem)
      rfl
    · rfl
  | composite => rfl
  | text => exact normalizeReviewKeyToken_idem hm

lemma exists_of_storedDecisions {r : ResolutionPayload}
    (h : (storedDecisions s).get? k = some r) : ∃ j ∈ activeReviewItems s, j.rowKey = k :=
  exists_of_get?_foldl_set _ _ h

lemma get?_storedDecisions (hi : i ∈ activeReviewItems s) (halone : Alone s i) :
    (storedDecisions s).get? i.rowKey = some (storedResolution s i) :=
  get?_foldl_set_of_alone ReviewItem.rowKey (storedResolution s) hi halone []

lemma isSome_storedDecisions (hi : i ∈ activeReviewItems s) : ((storedDecisions s).get? i.rowKey).isSome = true := by
  have hfold : ∀ (l : List ReviewItem) (acc : Dict RowKey ResolutionPayload),
      i ∈ l ∨ (acc.get? i.rowKey).isSome = true →
      ((l.foldl (fun acc j => acc.set j.rowKey (storedResolution s j)) acc).get? i.rowKey).isSome = true := by
    intro l
    induction l with
    | nil => exact fun acc h => h.resolve_left not_mem_nil
    | cons j l ih =>
      intro acc h
      rw [foldl_cons]
      refine ih _ ?_
      rw [get?_set]
      split
      · exact .inr rfl
      · next hne =>
        refine h.imp_left fun hmem => ?_
        rcases mem_cons.mp hmem with rfl | hmem
        · exact absurd rfl hne
        · exact hmem
  exact hfold _ [] (.inl hi)

/-- The decisions of a request merged over the stored ones, under the keys of the rows. -/
abbrev promotedDecisions (T : KeyTexts) (s : ReviewDesk) (decisions : Dict RowKey ResolutionPayload) :
    Dict RowKey ResolutionPayload :=
  Dict.rekey (promotedKey T (submittedRows s)) ((storedDecisions s).update decisions)

/-- What the merged decisions hold for an item: the decision of the request that reaches it, else the
stored one. -/
lemma get?_promotedDecisions (hi : i ∈ activeReviewItems s) (halone : Alone s i) :
    (promotedDecisions T s decisions).get? i.rowKey =
      some ((reachingDecision T (submittedRows s) decisions i.rowKey).getD (storedResolution s i)) := by
  have hget := get?_storedDecisions hi halone
  have hnodup : ((storedDecisions s).map Prod.fst).Nodup := nodup_keys_foldl_set _ _ _
  -- the stored entry for the item, with what the request has under exactly its key
  have hstored : (((storedDecisions s).map fun x => (x.1, (decisions.get? x.1).getD x.2)).filter
        fun e => promotedKey T (submittedRows s) e.1 = some i.rowKey).getLast?
      = some (i.rowKey, (decisions.get? i.rowKey).getD (storedResolution s i)) := by
    have hall : ∀ e ∈ ((storedDecisions s).map fun x => (x.1, (decisions.get? x.1).getD x.2)).filter
          (fun e => promotedKey T (submittedRows s) e.1 = some i.rowKey),
        e = (i.rowKey, (decisions.get? i.rowKey).getD (storedResolution s i)) := by
      intro e he
      obtain ⟨he, hkey⟩ := mem_filter.mp he
      obtain ⟨x, hx, rfl⟩ := mem_map.mp he
      have hxget : (storedDecisions s).get? x.1 = some x.2 := get?_of_mem hnodup hx
      obtain ⟨j, -, hj⟩ := exists_of_storedDecisions hxget
      have hkey : x.1 = i.rowKey := by
        rw [← hj, promotedKey_rowKey] at hkey
        rw [← hj]
        simpa using hkey
      rw [hkey, hget] at hxget
      rw [hkey, ← some.inj hxget]
    have hne : ((storedDecisions s).map fun x => (x.1, (decisions.get? x.1).getD x.2)).filter
        (fun e => promotedKey T (submittedRows s) e.1 = some i.rowKey) ≠ [] := by
      refine ne_nil_of_mem (mem_filter.mpr ⟨mem_map.mpr ⟨_, mem_of_get? hget, rfl⟩, ?_⟩)
      simp [promotedKey_rowKey]
    rw [getLast?_eq_some_getLast hne, hall _ (getLast_mem hne)]
  -- the other entries that reach the item are new keys of the request
  have hnew : (decisions.filter fun x => ((storedDecisions s).get? x.1).isNone).filter
        (fun e => promotedKey T (submittedRows s) e.1 = some i.rowKey)
      = decisions.filter fun e => e.1 ≠ i.rowKey ∧ promotedKey T (submittedRows s) e.1 = some i.rowKey := by
    rw [List.filter_filter]
    refine filter_congr fun e _ => ?_
    by_cases hkey : promotedKey T (submittedRows s) e.1 = some i.rowKey
    · by_cases heq : e.1 = i.rowKey
      · simp [heq, hget]
      · have hnone : (storedDecisions s).get? e.1 = none := by
          by_contra hsome
          obtain ⟨r, hr⟩ := ne_none_iff_exists'.mp hsome
          obtain ⟨j, -, hj⟩ := exists_of_storedDecisions hr
          rw [← hj, promotedKey_rowKey] at hkey
          exact heq (by rw [← hj]; exact some.inj hkey)
        simp [hkey, heq, hnone]
    · simp [hkey]
  rw [get?_rekey, Dict.update, filter_append, getLast?_append, hstored, hnew, reachingDecision]
  cases (decisions.filter fun e => e.1 ≠ i.rowKey ∧
    promotedKey T (submittedRows s) e.1 = some i.rowKey).getLast? <;>
    cases decisions.get? i.rowKey <;> simp

lemma isSome_promotedDecisions (T : KeyTexts) (decisions : Dict RowKey ResolutionPayload)
    (hi : i ∈ activeReviewItems s) :
    ((promotedDecisions T s decisions).get? i.rowKey).isSome = true := by
  obtain ⟨d, hd⟩ := isSome_iff_exists.mp (isSome_storedDecisions hi)
  -- the stored key is a key of the merged decisions
  have hmerged : (i.rowKey, (decisions.get? i.rowKey).getD d) ∈ (storedDecisions s).update decisions :=
    mem_append_left _ (mem_map.mpr ⟨(i.rowKey, d), mem_of_get? hd, rfl⟩)
  rw [get?_rekey, isSome_map, getLast?_isSome]
  exact ne_nil_of_mem (mem_filter.mpr ⟨hmerged, by simp [promotedKey_rowKey]⟩)

lemma addressed_of_mem {skipRows : List RowKey}
    {r : ReviewRow} (hr : r ∈ submittedRows s) :
    addressed T skipRows (promotedDecisions T s decisions) r = true := by
  obtain ⟨i, hi, rfl⟩ := List.mem_map.mp hr
  obtain ⟨v, hv⟩ := Option.isSome_iff_exists.mp (isSome_promotedDecisions T decisions hi)
  have hkey : i.rowKey ∈ (promotedDecisions T s decisions).map Prod.fst :=
    List.mem_map.mpr ⟨_, mem_of_get? hv, rfl⟩
  rw [addressed, List.any_eq_true]
  refine ⟨i.rowKey, List.mem_cons_self, ?_⟩
  rw [List.contains_iff_mem, List.mem_filterMap]
  exact ⟨i.rowKey, List.mem_append_right _ hkey, rfl⟩

lemma buildPreparedSubmit_decisions :
    (buildPreparedSubmit T s req).decisions = promotedDecisions T s (rowDecisions req) := by
  have hnone : (submittedRows s).filter (fun r => !addressed T
      ((req.skipRows ++ (buildEffectiveSubmitPayload s (activeReviewItems s)).2).dedup.filterMap
        (promotedKey T (submittedRows s))) (promotedDecisions T s (rowDecisions req)) r) = [] := by
    rw [filter_eq_nil_iff]
    intro r hr
    rw [addressed_of_mem hr]
    simp
  unfold buildPreparedSubmit prepareEffectiveReviewSubmitPayload
  dsimp only
  rw [hnone]
  rfl

/-- The request skips the row of an item, by its own key or by the number of the row. -/
def skipsRow (T : KeyTexts) (req : ReviewSubmitRequest) (i : ReviewItem) : Bool :=
  req.skipRows.any fun k => (reviewRowLookupKeys i.entry.row i.entry.entityType).any fun key =>
    normalizeReviewKeyToken T k = some key

lemma promotedKey_mem_lookupKeys (hi : i ∈ activeReviewItems s) (k : RowKey) :
    (∃ key ∈ reviewRowLookupKeys i.entry.row i.entry.entityType, promotedKey T (submittedRows s) k = some key) ↔
      ∃ key ∈ reviewRowLookupKeys i.entry.row i.entry.entityType, normalizeReviewKeyToken T k = some key := by
  have hown : i.rowKey ∈ plainRowLookup (submittedRows s) i.entry.row := by
    refine mem_dedup.mpr (mem_map.mpr ⟨i.entry, mem_filter.mpr ⟨?_, by simp⟩, rfl⟩)
    exact mem_map.mpr ⟨i, hi, rfl⟩
  have hrow : ∀ n key, plainRowLookup (submittedRows s) n = [key] →
      key ∈ reviewRowLookupKeys i.entry.row i.entry.entityType → n = i.entry.row := by
    intro n key hkey hmem
    have hin : key ∈ plainRowLookup (submittedRows s) n := by simp [hkey]
    obtain ⟨r, hr, rfl⟩ := mem_map.mp (mem_dedup.mp hin)
    have hrn : r.row = n := by simpa using (mem_filter.mp hr).2
    simp only [reviewRowLookupKeys, reviewRowKeyFromPayload, reviewRowKey, mem_cons,
      RowKey.composite.injEq, reduceCtorEq, not_mem_nil, or_false] at hmem
    exact hrn ▸ hmem.1
  unfold promotedKey
  cases hk : normalizeReviewKeyToken T k with
  | none => simp
  | some m =>
    cases m with
    | plain n =>
      simp only [map_some, Option.some.injEq]
      constructor
      · rintro ⟨_, hmem, hkey⟩
        refine ⟨.plain n, ?_, rfl⟩
        split at hkey
        · next key' hlookup =>
          rw [hrow n key' hlookup (hkey ▸ hmem)]
          exact mem_cons_of_mem _ mem_cons_self
        · exact hkey ▸ hmem
      · rintro ⟨_, hmem, rfl⟩
        have hn : n = i.entry.row := by
          simpa [reviewRowLookupKeys, reviewRowKey] using hmem
        subst hn
        split
        · next key' hlookup =>
          rw [hlookup, mem_singleton] at hown
          exact ⟨i.rowKey, mem_cons_self, hown.symm⟩
        · exact ⟨.plain i.entry.row, hmem, rfl⟩
    | composite => simp
    | text => simp

lemma skipped_iff (hi : i ∈ activeReviewItems s) (halone : Alone s i) :
    (∃ key ∈ reviewRowLookupKeys i.entry.row i.entry.entityType, key ∈ (buildPreparedSubmit T s req).skipRows) ↔
      skipsRow T req i = true ∨ (storedResolution s i).action = some .skip := by
  have hskip : skipsRow T req i = true ↔ ∃ k ∈ req.skipRows,
      ∃ key ∈ reviewRowLookupKeys i.entry.row i.entry.entityType, normalizeReviewKeyToken T k = some key := by
    simp [skipsRow, List.any_eq_true]
  have hmem : ∀ key, key ∈ (buildPreparedSubmit T s req).skipRows ↔
      ∃ k, (k ∈ req.skipRows ∨ k ∈ (buildEffectiveSubmitPayload s (activeReviewItems s)).2) ∧
        promotedKey T (submittedRows s) k = some key := by
    intro key
    change key ∈ ((req.skipRows ++ (buildEffectiveSubmitPayload s
      (activeReviewItems s)).2).dedup.filterMap (promotedKey T (submittedRows s))).dedup ↔ _
    rw [mem_dedup, mem_filterMap]
    simp only [mem_dedup, mem_append]
  constructor
  · rintro ⟨key, hkey, hin⟩
    obtain ⟨k, hk | hk, hprom⟩ := (hmem key).mp hin
    · left
      exact hskip.mpr ⟨k, hk, (promotedKey_mem_lookupKeys hi k).mp ⟨key, hkey, hprom⟩⟩
    · right
      obtain ⟨j, hj, rfl⟩ := mem_map.mp (mem_dedup.mp hk)
      obtain ⟨hj, haction⟩ := mem_filter.mp hj
      rw [promotedKey_rowKey] at hprom
      obtain ⟨⟩ := hprom
      have hkeys : j.rowKey = i.rowKey := by
        simpa [reviewRowLookupKeys, ReviewItem.rowKey, reviewRowKey] using hkey
      rw [← halone j hj hkeys]
      simpa using haction
  · rintro (h | h)
    · obtain ⟨k, hk, hnames⟩ := hskip.mp h
      obtain ⟨key, hkey, hprom⟩ := (promotedKey_mem_lookupKeys (T := T) hi k).mpr hnames
      exact ⟨key, hkey, (hmem key).mpr ⟨k, .inl hk, hprom⟩⟩
    · refine ⟨i.rowKey, mem_cons_self, (hmem _).mpr ⟨i.rowKey, .inr ?_, rfl⟩⟩
      exact mem_dedup.mpr (mem_map.mpr ⟨i, mem_filter.mpr ⟨hi, by simpa using h⟩, rfl⟩)

end Lookup

end ImmoApp.Imports
