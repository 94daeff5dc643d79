import ImmoApp.Imports.ReviewActions

/-!
# Whose decision prevails

What the users decided is read from the submissions accepted since the rows were stored: for an item the last decision
about it, for a group the last decision about it, and for a row the decision of the request being submitted.  `Mirrors`
ties the resolutions and templates of the database to the submissions.

`decisions_followed`: in every reachable state and for every request, the action taken for a row is the most specific
one that a user gave exactly when the row is `Undisturbed`, and the worker later takes the same actions.
-/

namespace ImmoApp.Imports

open List
open Option hiding or or_assoc or_self

/-! ### Submissions -/

structure RowConflict where
  row : ℕ
  entityType : ReviewEntity
  existingId : Option ℤ

structure SubmitEnv where
  texts : KeyTexts
  ctx : GroupingContext
  pipeline : RowPipeline
  detectCreateConflicts : ReviewEntity → List PendingCreateRow → List RowConflict
  userId : ℕ

/-- The groups and items after the decisions of a request about them are stored. -/
def storeDecisions (T : KeyTexts) (data : ReviewSubmitRequest) (s : ReviewDesk) : ReviewDesk :=
  let req := normalizeReviewSubmitRequest T data
  applyItemResolutions req (applyGroupResolutionTemplates req.groupDecisions s)

def preparedSubmit (T : KeyTexts) (data : ReviewSubmitRequest) (s : ReviewDesk) :
    PreparedReviewSubmitPayload :=
  buildPreparedSubmit T (storeDecisions T data s) (normalizeReviewSubmitRequest T data)

/-- What `kickoff_review_submission` collects. -/
def kickoffInputs (T : KeyTexts) (data : ReviewSubmitRequest) (s : ReviewDesk) : ResolutionInputs :=
  normalizeResolutionInputs T (preparedSubmit T data s)

/-- `kickoff_review_submission`: a conflict of a row to create rolls everything back. -/
def kickoffReviewSubmission (env : SubmitEnv) (data : ReviewSubmitRequest) (s : ReviewDesk) :
    Except (List RowConflict) ReviewDesk :=
  let state := collectReviewActions env.pipeline env.userId (kickoffInputs env.texts data s)
    (preparedSubmit env.texts data s).pendingRows
  let conflicts := state.createPending.flatMap fun e => env.detectCreateConflicts e.1 e.2
  if conflicts.isEmpty then .ok (storeDecisions env.texts data s) else .error conflicts

/-- The request that `run_review_submit_task` makes of the prepared submission. -/
def workflowRequest (p : PreparedReviewSubmitPayload) : ReviewSubmitRequest :=
  { corrections := p.corrections
    decisions := p.decisions.map fun e => (e.1, ⟨e.2, none, []⟩)
    itemDecisions := [], groupDecisions := [], skipRows := p.skipRows, skipItemIds := []
    bulkOperations := [] }

/-- What `run_review_submit_task` collects. -/
def taskInputs (T : KeyTexts) (data : ReviewSubmitRequest) (s : ReviewDesk) : ResolutionInputs :=
  normalizeResolutionInputs T
    (buildPreparedSubmit T (storeDecisions T data s) (workflowRequest (preparedSubmit T data s)))

structure ReviewSession where
  desk : ReviewDesk
  submissions : List ReviewSubmitRequest

inductive SessionAction where
  /-- Rows are stored: by the import, or what is left by a submission that was performed. -/
  | persist (rows : List ReviewRow)
  | submit (data : ReviewSubmitRequest)

def ReviewSession.step (env : SubmitEnv) (s : ReviewSession) : SessionAction → Option ReviewSession
  | .persist rows => (persistReviewRows env.ctx rows s.desk).map fun desk => ⟨desk, []⟩
  | .submit data =>
    match kickoffReviewSubmission env data s.desk with
    | .ok desk => some ⟨desk, s.submissions ++ [data]⟩
    | .error _ => some s

def ReviewSession.start : ReviewSession := ⟨⟨[], [], 1⟩, []⟩

/-! ### What the users decided -/

def itemDecided (subs : List ReviewSubmitRequest) (i : ReviewItem) : Option ResolutionPayload :=
  (subs.filterMap fun data => itemResolution data i).getLast?

def groupDecision (subs : List ReviewSubmitRequest) (groupKey : String) : Option ReviewDecision :=
  (subs.filterMap fun data => data.groupDecisions.get? groupKey).getLast?

/-- What the last decision about its group means for an item that can follow it, where the decision is
for all items. -/
def groupDecided (s : ReviewDesk) (subs : List ReviewSubmitRequest) (i : ReviewItem) :
    Option ResolutionPayload :=
  match groupDecision subs i.groupKey, s.groups.get? i.groupKey with
  | some d, some g =>
    if i.groupResolvable ∧ scopeOf d.scope = applyToAllPendingItems then
      followGroup i.entry g.entityType (templateOf g d)
    else none
  | _, _ => none

/-- The last decision of a request that names an action under a key. -/
def namedBy (T : KeyTexts) (data : ReviewSubmitRequest) (key : RowKey) : Option ResolutionPayload :=
  ((data.decisions.filter fun e =>
    normalizeReviewKeyToken T e.1 = some key ∧ e.2.action.isSome).getLast?).map
      fun e => e.2.toResolutionPayload

/-- The decision of a request about a row, by its own key or by its number. -/
def rowDecision (T : KeyTexts) (data : ReviewSubmitRequest) (i : ReviewItem) :
    Option ResolutionPayload :=
  (namedBy T data i.rowKey).or (namedBy T data (.plain i.entry.row))

/-- The decision of the users where the request decides nothing about the row. -/
def underlyingDecision (s : ReviewDesk) (subs : List ReviewSubmitRequest) (i : ReviewItem) :
    Option ResolutionPayload :=
  (itemDecided subs i).or (groupDecided s subs i)

/-- The action of a decision, and without one the row stays in review. -/
def actionOf (d : Option ResolutionPayload) (r : ReviewRow) : RowAction :=
  (d.map fun d => d.rowAction r).getD .review

/-- The most specific action that a user gave for an item. -/
def actionWanted (T : KeyTexts) (data : ReviewSubmitRequest) (s : ReviewDesk)
    (subs : List ReviewSubmitRequest) (i : ReviewItem) : RowAction :=
  if skipsRow T data i then .skip
  else actionOf ((rowDecision T data i).or (underlyingDecision s subs i)) i.entry

/-- Nobody decided about the item, but its group has a template that it follows. -/
def Unasked (s : ReviewDesk) (subs : List ReviewSubmitRequest) (i : ReviewItem) : Prop :=
  underlyingDecision s subs i = none ∧ groupEffectiveResolution s i ≠ none

instance (s : ReviewDesk) (subs : List ReviewSubmitRequest) (i : ReviewItem) :
    Decidable (Unasked s subs i) :=
  inferInstanceAs (Decidable (_ ∧ _))

/-- The decision of the user prevails for the item.  Either the request skips the row.  Or it names an
action for it: then the decision that reaches the row, else the stored one, has the same action, and the
stored decision is not to skip the row against it.  Or it says nothing about the row: then no template
stands for a decision that nobody made.  Or only decisions without an action reach the row: then they come
to what is decided otherwise. -/
def Undisturbed (T : KeyTexts) (data : ReviewSubmitRequest) (s : ReviewDesk)
    (subs : List ReviewSubmitRequest) (i : ReviewItem) : Prop :=
  skipsRow T data i = true ∨
    match rowDecision T data i, reachingDecision T (submittedRows s) (rowDecisions data) i.rowKey with
    | some d, reaching =>
      if (storedResolution s i).action = some .skip then d.action = some .skip
      else (reaching.getD (storedResolution s i)).rowAction i.entry = d.rowAction i.entry
    | none, none => ¬ Unasked s subs i
    | none, some d =>
      if (storedResolution s i).action = some .skip then
        actionOf (underlyingDecision s subs i) i.entry = .skip
      else d.rowAction i.entry = actionOf (underlyingDecision s subs i) i.entry

/-! ### The database mirrors the submissions -/

structure Mirrors (s : ReviewDesk) (subs : List ReviewSubmitRequest) : Prop where
  items : ∀ i ∈ s.items, i.resolution = (itemDecided subs i).getD .empty ∧
    i.resolutionSource = if (itemDecided subs i).isSome then "item" else ""
  /-- A group that was decided about has the template of the last decision, for all its items. -/
  groups : ∀ k g d, s.groups.get? k = some g → groupDecision subs k = some d →
    g.resolutionTemplate = templateOf g d ∧ scopeOf g.resolutionScope = applyToAllPendingItems

section Mirrors

variable {T : KeyTexts} {env : SubmitEnv} {s : ReviewDesk} {subs : List ReviewSubmitRequest}
variable {data : ReviewSubmitRequest} {i : ReviewItem}

lemma itemResolution_normalize : itemResolution (normalizeReviewSubmitRequest T data) i = itemResolution data i := by
  have hget : (normalizeReviewSubmitRequest T data).itemDecisions.get? i.id
      = (data.itemDecisions.get? i.id).map rowDecisionPayload :=
    Dict.get?_map (fun _ d => rowDecisionPayload d) data.itemDecisions i.id
  unfold itemResolution
  dsimp only
  rw [hget]
  cases data.itemDecisions.get? i.id <;> rfl

lemma groupDecisions_normalize (k : String) : (normalizeReviewSubmitRequest T data).groupDecisions.get? k
      = (data.groupDecisions.get? k).map rowDecisionPayload :=
  Dict.get?_map (fun _ d => rowDecisionPayload d) data.groupDecisions k

lemma rowDecisions_normalize : rowDecisions (normalizeReviewSubmitRequest T data) = rowDecisions data := by
  simp [rowDecisions, normalizeReviewSubmitRequest, rowDecisionPayload, Function.comp_def]

lemma skipsRow_normalize : skipsRow T (normalizeReviewSubmitRequest T data) i = skipsRow T data i := by
  rw [Bool.eq_iff_iff]
  simp only [skipsRow, normalizeReviewSubmitRequest, List.any_eq_true, List.mem_filterMap, decide_eq_true_eq]
  constructor
  · rintro ⟨_, ⟨k, hk, hnorm⟩, key, hkey, hkey'⟩
    rw [normalizeReviewKeyToken_idem hnorm] at hkey'
    exact ⟨k, hk, key, hkey, hkey' ▸ hnorm⟩
  · rintro ⟨k, hk, key, hkey, hnorm⟩
    exact ⟨key, ⟨k, hk, hnorm⟩, key, hkey, normalizeReviewKeyToken_idem hnorm⟩

lemma getLast?_filterMap_concat {α β : Type*} (f : α → Option β) (l : List α) (a : α) :
    ((l ++ [a]).filterMap f).getLast? = (f a).or (l.filterMap f).getLast? := by
  rw [filterMap_append, getLast?_append]
  cases hf : f a <;> simp [hf]

lemma mirrors_persist {ctx : GroupingContext} {rows : List ReviewRow} {t : ReviewDesk}
    (h : persistReviewRows ctx rows s = some t) : Mirrors t [] := by
  unfold persistReviewRows at h
  dsimp only at h
  split at h
  · obtain ⟨⟩ := h
    refine ⟨fun i hi => ?_, fun k g d _ hd => absurd hd (by simp [groupDecision])⟩
    obtain ⟨_, r, -, hi⟩ := mem_itemsOfRows hi
    rw [hi]
    exact ⟨rfl, rfl⟩
  · exact absurd h (by simp)

lemma mem_storeDecisions (hi : i ∈ (storeDecisions T data s).items) :
    ∃ j ∈ s.items, i.id = j.id ∧ i.groupKey = j.groupKey ∧ i.entry = j.entry ∧ i.groupResolvable = j.groupResolvable ∧
      i.resolution = (itemResolution data j).getD j.resolution ∧
      i.resolutionSource = if (itemResolution data j).isSome then "item" else j.resolutionSource := by
  obtain ⟨j, hj, rfl⟩ := mem_map.mp hi
  rw [itemResolution_normalize]
  refine ⟨j, hj, ?_⟩
  cases itemResolution data j with
  | none => exact ⟨rfl, rfl, rfl, rfl, rfl, rfl⟩
  | some => exact ⟨rfl, rfl, rfl, rfl, rfl, rfl⟩

lemma get?_storeDecisions (k : String) : (storeDecisions T data s).groups.get? k
    = (s.groups.get? k).map fun g => match data.groupDecisions.get? k with
      | none => g
      | some d => { g with resolutionTemplate := templateOf g (rowDecisionPayload d)
                           resolutionScope := some (scopeOf none) } := by
  have hmap := Dict.get?_map (fun k (g : ReviewGroup) =>
    match (normalizeReviewSubmitRequest T data).groupDecisions.get? k with
      | none => g
      | some d => { g with resolutionTemplate := templateOf g d
                           resolutionScope := some (scopeOf d.scope) }) s.groups k
  refine hmap.trans ?_
  rw [groupDecisions_normalize]
  cases data.groupDecisions.get? k <;> rfl

lemma itemResolution_congr {j : ReviewItem} (hid : i.id = j.id) (hentry : i.entry = j.entry) :
    itemResolution data i = itemResolution data j := by
  simp only [itemResolution, hid, hentry]

lemma Mirrors.storeDecisions (h : Mirrors s subs) (T : KeyTexts) (data : ReviewSubmitRequest) :
    Mirrors (storeDecisions T data s) (subs ++ [data]) := by
  refine ⟨fun i hi => ?_, fun k g d hg hd => ?_⟩
  · obtain ⟨j, hj, hid, -, hentry, -, hresolution, hsource⟩ := mem_storeDecisions hi
    have hdecided : itemDecided (subs ++ [data]) i = (itemResolution data j).or (itemDecided subs j) := by
      have hsame : ∀ data, itemResolution data i = itemResolution data j :=
        fun data => itemResolution_congr hid hentry
      rw [itemDecided, getLast?_filterMap_concat, hsame, itemDecided]
      simp only [hsame]
    obtain ⟨hres, hsrc⟩ := h.items j hj
    rw [hdecided, hresolution, hsource]
    cases itemResolution data j with
    | none => exact ⟨hres, hsrc⟩
    | some => exact ⟨rfl, rfl⟩
  · rw [get?_storeDecisions, map_eq_some_iff] at hg
    obtain ⟨g₀, hg₀, rfl⟩ := hg
    rw [groupDecision, getLast?_filterMap_concat] at hd
    cases hdata : data.groupDecisions.get? k with
    | none =>
      rw [hdata] at hd
      simpa [hdata] using h.groups k g₀ d hg₀ (by simpa [groupDecision] using hd)
    | some =>
      rw [hdata, some_or] at hd
      obtain ⟨⟩ := hd
      have hscope : scopeOf (some (scopeOf none)) = applyToAllPendingItems := by decide
      exact ⟨rfl, hscope⟩

lemma mirrors_of_run {actions : List SessionAction} {t : ReviewSession}
    (hrun : run (ReviewSession.step env) .start actions = some t) : Mirrors t.desk t.submissions := by
  refine run_invariant_of_step (P := fun t => Mirrors t.desk t.submissions) ?_ ?_ hrun
  · intro s a t hs hstep
    cases a with
    | persist =>
      obtain ⟨desk, hdesk, rfl⟩ := map_eq_some_iff.mp hstep
      exact mirrors_persist hdesk
    | submit data =>
      simp only [ReviewSession.step] at hstep
      split at hstep
      · next desk hkick =>
        obtain ⟨⟩ := hstep
        unfold kickoffReviewSubmission at hkick
        dsimp only at hkick
        split at hkick
        · obtain ⟨⟩ := hkick
          exact hs.storeDecisions env.texts data
        · exact absurd hkick (by simp)
      · obtain ⟨⟩ := hstep
        exact hs
  · exact ⟨fun i hi => absurd hi not_mem_nil, fun k g d hg => absurd hg (by simp [ReviewSession.start])⟩

/-! ### The stored decision -/

variable {r d : ResolutionPayload}

lemma itemDecided_complete (h : itemDecided subs i = some r) :
    r.action.isSome = true ∧ r.entityType.isSome = true := by
  have hmem := mem_of_getLast? h
  obtain ⟨_, -, hdata⟩ := mem_filterMap.mp hmem
  obtain ⟨a, -, rfl⟩ := map_eq_some_iff.mp hdata
  exact ⟨rfl, rfl⟩

lemma followGroup_complete {r : ReviewRow} {e : ReviewEntity} {template : ResolutionPayload}
    (h : followGroup r e template = some d) :
    d.entityType.isSome = true ∧
      (d.action = some .createNew ∨ d.action = some .updateExisting ∨ d.action = some .skip) := by
  unfold followGroup at h
  split at h
  · exact absurd h (by simp)
  · exact absurd h (by simp)
  · obtain ⟨⟩ := h
    exact ⟨rfl, .inr (.inr rfl)⟩
  · next a hreview hskip haction =>
    split at h
    · obtain ⟨⟩ := h
      refine ⟨rfl, ?_⟩
      dsimp only
      rw [haction]
      cases a with
      | createNew => exact .inl rfl
      | updateExisting => exact .inr (.inl rfl)
      | reviewAmbiguous => exact (hreview rfl).elim
      | skip => exact .inr (.inr rfl)
    · split at h
      · split at h
        · obtain ⟨⟩ := h
          exact ⟨rfl, .inr (.inl rfl)⟩
        · exact absurd h (by simp)
      · obtain ⟨⟩ := h
        exact ⟨rfl, .inr (.inr rfl)⟩
      · split at h
        · obtain ⟨⟩ := h
          exact ⟨rfl, .inl rfl⟩
        · exact absurd h (by simp)
      · split at h
        · obtain ⟨⟩ := h
          exact ⟨rfl, .inl rfl⟩
        · exact absurd h (by simp)
      · exact absurd h (by simp)

lemma within_of_isSome (h : r.entityType.isSome = true) : r.within i = r := by
  obtain ⟨e, he⟩ := isSome_iff_exists.mp h
  rw [ResolutionPayload.within, he]
  cases r
  simp_all

lemma Mirrors.groupEffective (h : Mirrors s subs)
    (hd : groupDecided s subs i = some d) : groupEffectiveResolution s i = some d := by
  unfold groupDecided at hd
  split at hd
  · next d₀ g hdecision hg =>
    split at hd
    · next hcond =>
      obtain ⟨htemplate, hscope⟩ := h.groups _ g d₀ hg hdecision
      rw [groupEffectiveResolution, hg]
      simp only [hcond.1, Bool.not_true, Bool.false_eq_true, ↓reduceIte, hscope, ne_eq, not_true_eq_false]
      rw [htemplate]
      exact hd
    · exact absurd hd (by simp)
  · exact absurd hd (by simp)

/-- What is stored for an item is what the users decided, and to stay in review where nobody did, unless
a template stands for a decision that nobody made. -/
lemma Mirrors.storedResolution_eq (h : Mirrors s subs) (hi : i ∈ s.items) (hasked : ¬ Unasked s subs i) :
    storedResolution s i = (underlyingDecision s subs i).getD (stayInReview i) := by
  obtain ⟨hres, hsrc⟩ := h.items i hi
  unfold storedResolution effectiveResolutionPayload underlyingDecision
  cases hitem : itemDecided subs i with
  | some r =>
    obtain ⟨haction, hentity⟩ := itemDecided_complete hitem
    have hne : r ≠ .empty := by
      rintro rfl
      exact absurd haction (by simp [ResolutionPayload.empty])
    have hresolution : i.resolution = r := by rw [hres, hitem, getD_some]
    have hsource : i.resolutionSource = "item" := by rw [hsrc, hitem]; rfl
    rw [hresolution, if_pos ⟨hne, hsource⟩, getD_some, some_or, getD_some,
      within_of_isSome hentity, within_of_isSome hentity]
  | none =>
    have hresolution : i.resolution = .empty := by rw [hres, hitem, getD_none]
    rw [hresolution, if_neg (fun hcond => hcond.1 rfl), none_or]
    cases hgroup : groupDecided s subs i with
    | some d =>
      have heffective := h.groupEffective hgroup
      rw [heffective]
      have hentity : d.entityType.isSome = true := by
        unfold groupEffectiveResolution at heffective
        split at heffective
        · exact absurd heffective (by simp)
        · split at heffective
          · exact absurd heffective (by simp)
          · split at heffective
            · exact absurd heffective (by simp)
            · exact (followGroup_complete heffective).1
      exact within_of_isSome hentity
    | none =>
      have hnone : groupEffectiveResolution s i = none := by
        by_contra hsome
        exact hasked ⟨by rw [underlyingDecision, hitem, hgroup]; rfl, hsome⟩
      rw [hnone]
      rfl

lemma Mirrors.storedResolution_unasked (h : Mirrors s subs) (hi : i ∈ s.items)
    (hasked : Unasked s subs i) : (storedResolution s i).rowAction i.entry ≠ .review := by
  obtain ⟨hnone, hsome⟩ := hasked
  obtain ⟨hitem, -⟩ := or_eq_none_iff.mp hnone
  obtain ⟨d, hd⟩ := ne_none_iff_exists'.mp hsome
  have hresolution : i.resolution = .empty := by rw [(h.items i hi).1, hitem, getD_none]
  have hstored : storedResolution s i = d.within i := by
    unfold storedResolution effectiveResolutionPayload
    rw [hresolution, if_neg (fun hcond => hcond.1 rfl), hd]
    rfl
  have haction : d.action = some .createNew ∨ d.action = some .updateExisting ∨ d.action = some .skip := by
    unfold groupEffectiveResolution at hd
    split at hd
    · exact absurd hd (by simp)
    · split at hd
      · exact absurd hd (by simp)
      · split at hd
        · exact absurd hd (by simp)
        · exact (followGroup_complete hd).2
  rw [hstored]
  rcases haction with haction | haction | haction <;>
    simp [ResolutionPayload.rowAction, ResolutionPayload.within, haction]

end Mirrors

/-! ### The action that is taken -/

section Taken

variable {T : KeyTexts} {s : ReviewDesk} {req : ReviewSubmitRequest} {i : ReviewItem}

variable {k : RowKey}

lemma exists_of_mem_skipRows (h : k ∈ (buildPreparedSubmit T s req).skipRows) :
    ∃ k', promotedKey T (submittedRows s) k' = some k := by
  have hmem : k ∈ ((req.skipRows ++ (buildEffectiveSubmitPayload s
      (activeReviewItems s)).2).dedup.filterMap (promotedKey T (submittedRows s))).dedup := h
  rw [mem_dedup, mem_filterMap] at hmem
  obtain ⟨k', -, hk'⟩ := hmem
  exact ⟨k', hk'⟩

lemma exists_of_mem_decisions {e : RowKey × ResolutionPayload} (h : e ∈ (buildPreparedSubmit T s req).decisions) :
    ∃ k', promotedKey T (submittedRows s) k' = some e.1 := by
  rw [buildPreparedSubmit_decisions] at h
  obtain ⟨x, -, hx⟩ := Dict.exists_of_mem_rekey h
  exact ⟨x.1, hx⟩

lemma skips_normalizeResolutionInputs (r : ReviewRow) :
    (normalizeResolutionInputs T (buildPreparedSubmit T s req)).skips r = true ↔
      ∃ key ∈ reviewRowLookupKeys r.row r.entityType, key ∈ (buildPreparedSubmit T s req).skipRows := by
  have hmem : ∀ key, key ∈ ((buildPreparedSubmit T s req).skipRows.filterMap
        (normalizeReviewKeyToken T)).dedup ↔ key ∈ (buildPreparedSubmit T s req).skipRows := by
    intro key
    rw [List.mem_dedup, List.mem_filterMap]
    constructor
    · rintro ⟨k, hk, hnorm⟩
      obtain ⟨_, hk'⟩ := exists_of_mem_skipRows hk
      rw [normalize_of_promotedKey hk'] at hnorm
      exact Option.some.inj hnorm ▸ hk
    · intro hkey
      obtain ⟨_, hk'⟩ := exists_of_mem_skipRows hkey
      exact ⟨key, hkey, normalize_of_promotedKey hk'⟩
  simp only [ResolutionInputs.skips, normalizeResolutionInputs, List.any_eq_true, List.contains_iff_mem, hmem]

/-- The action that is taken for an item: to skip the row where the request or the stored decision says
so, else that of the decision that reaches it, else that of the stored decision. -/
lemma actionTaken_eq (hi : i ∈ activeReviewItems s) (halone : Alone s i) :
    actionTaken (normalizeResolutionInputs T (buildPreparedSubmit T s req)) i.entry =
      if skipsRow T req i = true ∨ (storedResolution s i).action = some .skip then .skip
      else ((reachingDecision T (submittedRows s) (rowDecisions req) i.rowKey).getD
        (storedResolution s i)).rowAction i.entry := by
  have hskips : (normalizeResolutionInputs T (buildPreparedSubmit T s req)).skips i.entry = true ↔
      skipsRow T req i = true ∨ (storedResolution s i).action = some .skip :=
    (skips_normalizeResolutionInputs i.entry).trans (skipped_iff hi halone)
  have hlookup : lookupRow (normalizeResolutionInputs T (buildPreparedSubmit T s req)).decisions i.entry
      = some ((reachingDecision T (submittedRows s) (rowDecisions req) i.rowKey).getD (storedResolution s i)) := by
    have hnodup : ((buildPreparedSubmit T s req).decisions.map Prod.fst).Nodup := by
      rw [buildPreparedSubmit_decisions]
      exact Dict.nodup_keys_rekey _ _
    have hget : (normalizeResolutionInputs T (buildPreparedSubmit T s req)).decisions.get? i.rowKey
        = (buildPreparedSubmit T s req).decisions.get? i.rowKey := by
      refine Dict.get?_rekey_of_self hnodup (fun e he => ?_) i.rowKey
      obtain ⟨_, hk'⟩ := exists_of_mem_decisions he
      exact normalize_of_promotedKey hk'
    rw [buildPreparedSubmit_decisions, get?_promotedDecisions hi halone] at hget
    have hkey : reviewRowKey i.entry.row i.entry.entityType = i.rowKey := rfl
    simp only [lookupRow, reviewRowLookupKeys, findSome?_cons, hkey, hget]
  unfold actionTaken
  simp only [hskips, hlookup, getD_some]

lemma promotedKey_idem {rows : List ReviewRow} {k' : RowKey}
    (h : promotedKey T rows k = some k') : promotedKey T rows k' = some k' := by
  have hnorm := normalize_of_promotedKey h
  obtain ⟨m, -, hm⟩ := map_eq_some_iff.mp h
  rw [promotedKey, hnorm, map_some]
  cases k' with
  | plain =>
    -- a plain key is left only where several rows or none have the number
    cases m with
    | plain n' =>
      dsimp only at hm
      split at hm
      · next key hlookup =>
        have hmem : key ∈ plainRowLookup rows n' := by simp [hlookup]
        obtain ⟨r, -, hr⟩ := mem_map.mp (mem_dedup.mp hmem)
        rw [hm] at hr
        exact absurd hr (by simp [reviewRowKeyFromPayload, reviewRowKey])
      · next hlookup =>
        obtain rfl := RowKey.plain.inj hm
        dsimp only
        split
        · next key hkey => exact (hlookup key hkey).elim
        · rfl
    | composite => exact absurd hm (by simp)
    | text => exact absurd hm (by simp)
  | composite => rfl
  | text => rfl

lemma actionTaken_task (hi : i ∈ activeReviewItems s) (halone : Alone s i) : actionTaken (normalizeResolutionInputs T
        (buildPreparedSubmit T s (workflowRequest (buildPreparedSubmit T s req)))) i.entry =
      actionTaken (normalizeResolutionInputs T (buildPreparedSubmit T s req)) i.entry := by
  have hdecisions : rowDecisions (workflowRequest (buildPreparedSubmit T s req))
      = promotedDecisions T s (rowDecisions req) := by
    rw [← buildPreparedSubmit_decisions]
    simp [rowDecisions, workflowRequest, Function.comp_def]
  have hskip : skipsRow T (workflowRequest (buildPreparedSubmit T s req)) i = true ↔
      skipsRow T req i = true ∨ (storedResolution s i).action = some .skip := by
    rw [← skipped_iff hi halone]
    simp only [skipsRow, workflowRequest, List.any_eq_true, decide_eq_true_eq]
    constructor
    · rintro ⟨k, hk, key, hkey, hnorm⟩
      obtain ⟨_, hk'⟩ := exists_of_mem_skipRows hk
      rw [normalize_of_promotedKey hk'] at hnorm
      exact ⟨key, hkey, Option.some.inj hnorm ▸ hk⟩
    · rintro ⟨key, hkey, hin⟩
      obtain ⟨_, hk'⟩ := exists_of_mem_skipRows hin
      exact ⟨key, hin, key, hkey, normalize_of_promotedKey hk'⟩
  have hreach : reachingDecision T (submittedRows s)
        (rowDecisions (workflowRequest (buildPreparedSubmit T s req))) i.rowKey
      = some ((reachingDecision T (submittedRows s) (rowDecisions req) i.rowKey).getD (storedResolution s i)) := by
    rw [hdecisions]
    have hnone : (promotedDecisions T s (rowDecisions req)).filter (fun e => e.1 ≠ i.rowKey ∧
        promotedKey T (submittedRows s) e.1 = some i.rowKey) = [] := by
      rw [List.filter_eq_nil_iff]
      intro e he
      obtain ⟨x, -, hx⟩ := Dict.exists_of_mem_rekey he
      rw [promotedKey_idem hx]
      simp
    rw [reachingDecision, hnone, List.getLast?_nil, Option.map_none, Option.none_or, get?_promotedDecisions hi halone]
  rw [actionTaken_eq hi halone, actionTaken_eq hi halone, hreach, Option.getD_some]
  simp only [hskip, or_assoc, or_self]

lemma rowAction_eq_skip {d : ResolutionPayload} {r : ReviewRow} : d.rowAction r = .skip ↔ d.action = some .skip := by
  unfold ResolutionPayload.rowAction
  cases d.action with
  | none => cases r.candidateMatches.isEmpty <;> simp
  | some a => cases a <;> simp

/-- The stored decision of an item is the one underlying the request exactly when no template stands for
a decision that nobody made. -/
lemma Mirrors.stored_action_iff {subs : List ReviewSubmitRequest} (h : Mirrors s subs)
    (hi : i ∈ s.items) : (storedResolution s i).rowAction i.entry
      = actionOf (underlyingDecision s subs i) i.entry ↔ ¬ Unasked s subs i := by
  constructor
  · intro heq hasked
    refine h.storedResolution_unasked hi hasked (heq.trans ?_)
    rw [hasked.1]
    rfl
  · intro hasked
    rw [h.storedResolution_eq hi hasked]
    cases underlyingDecision s subs i <;> rfl

end Taken

/-! ### Precedence -/

/-- In every reachable state and for every request, the action that is taken for a row under a key of its
own is the most specific one that a user gave exactly when the row is undisturbed; the worker takes the
same actions; and rows are created, updated and left out only on these actions. -/
theorem decisions_followed (env : SubmitEnv) {actions : List SessionAction} {t : ReviewSession}
    (hrun : run (ReviewSession.step env) .start actions = some t) (data : ReviewSubmitRequest) :
    let s := storeDecisions env.texts data t.desk
    let subs := t.submissions ++ [data]
    (∀ i ∈ activeReviewItems s, Alone s i →
      (actionTaken (kickoffInputs env.texts data t.desk) i.entry = actionWanted env.texts data s subs i ↔
        Undisturbed env.texts data s subs i) ∧
      actionTaken (taskInputs env.texts data t.desk) i.entry
        = actionTaken (kickoffInputs env.texts data t.desk) i.entry) ∧
    ∀ inputs, SortedBy inputs (submittedRows s)
      (collectReviewActions env.pipeline env.userId inputs (submittedRows s)) := by
  intro s subs
  have hmirrors : Mirrors s subs := (mirrors_of_run hrun).storeDecisions env.texts data
  refine ⟨fun i hi halone => ⟨?_, actionTaken_task hi halone⟩, fun inputs =>
    sortedBy_collectReviewActions _ _ _ _⟩
  have hstored := hmirrors.stored_action_iff (mem_activeReviewItems.mp hi).1
  have htaken : actionTaken (kickoffInputs env.texts data t.desk) i.entry =
      if skipsRow env.texts data i = true ∨ (storedResolution s i).action = some .skip then .skip
      else ((reachingDecision env.texts (submittedRows s) (rowDecisions data) i.rowKey).getD
        (storedResolution s i)).rowAction i.entry := by
    rw [kickoffInputs, preparedSubmit, actionTaken_eq hi halone, rowDecisions_normalize, skipsRow_normalize]
  rw [htaken, actionWanted, Undisturbed]
  by_cases hskips : skipsRow env.texts data i = true
  · simp [hskips]
  · simp only [hskips, false_or, Bool.false_eq_true, ↓reduceIte]
    cases hrow : rowDecision env.texts data i with
    | some =>
      rw [some_or]
      dsimp only [actionOf, map_some, getD_some]
      split
      · rw [eq_comm, rowAction_eq_skip]
      · exact Iff.rfl
    | none =>
      rw [none_or]
      cases hreach : reachingDecision env.texts (submittedRows s) (rowDecisions data) i.rowKey with
      | none =>
        rw [getD_none, ← hstored]
        split
        · next hskip => rw [rowAction_eq_skip.mpr hskip]
        · exact Iff.rfl
      | some =>
        rw [getD_some]
        dsimp only
        split
        · exact eq_comm
        · exact Iff.rfl

lemma alone_of_nodup {s : ReviewDesk} {i : ReviewItem}
    (h : ((activeReviewItems s).map ReviewItem.rowKey).Nodup) (hi : i ∈ activeReviewItems s) :
    Alone s i :=
  fun _ hj heq => inj_on_of_nodup_map h hj hi heq

/-! ### One row -/

def smallTexts : KeyTexts :=
  ⟨id, String.toNat?, fun s => by rw [id, id, strip_strip]⟩

/-- An import of clients whose rows need no correction. -/
def oneJob : SubmitEnv :=
  ⟨smallTexts, ⟨"job", true, "client_side"⟩, ⟨fun _ data => ⟨false, data, []⟩, fun data _ => (data, [])⟩,
    fun _ _ => [], 7⟩

def possibleDuplicate : ReviewRow :=
  ⟨2, .client, "client_side", ⟨some "0555001001", some "yacine", none⟩, [("family_name", .str "Yacine")],
    [("family_name", .str "Yacine")], [⟨42, 3, false⟩], [], false, some .updateExisting, 42,
    "possible_duplicate", none, ["Possible duplicate"]⟩

def noDecision : ReviewSubmitRequest := ⟨[], [], [], [], [], [], []⟩

def createRow : ReviewSubmitRequest :=
  { noDecision with decisions := [(.plain 2, ⟨⟨some .createNew, none, none, none⟩, none, []⟩)] }

def actionsOf (data : ReviewSubmitRequest) (t : ReviewSession) : List (RowAction × RowAction) :=
  let s := storeDecisions oneJob.texts data t.desk
  (activeReviewItems s).map fun i =>
    (actionTaken (kickoffInputs oneJob.texts data t.desk) i.entry,
      actionWanted oneJob.texts data s (t.submissions ++ [data]) i)

/-- The decision of the request about the row prevails over the template of its group. -/
theorem decisions_followed_create :
    ∃ t, run (ReviewSession.step oneJob) .start [.persist [possibleDuplicate]] = some t ∧
      actionsOf createRow t = [(.create .client, .create .client)] ∧
      ∀ i ∈ activeReviewItems (storeDecisions oneJob.texts createRow t.desk),
        actionTaken (kickoffInputs oneJob.texts createRow t.desk) i.entry
            = actionWanted oneJob.texts createRow (storeDecisions oneJob.texts createRow t.desk)
              (t.submissions ++ [createRow]) i ↔
          Undisturbed oneJob.texts createRow (storeDecisions oneJob.texts createRow t.desk)
            (t.submissions ++ [createRow]) i := by
  obtain ⟨t, ht, hvalues⟩ := map_eq_some_iff.mp
    (by decide +kernel : (run (ReviewSession.step oneJob) .start [.persist [possibleDuplicate]]).map
      (fun t => (actionsOf createRow t, ((activeReviewItems
        (storeDecisions oneJob.texts createRow t.desk)).map ReviewItem.rowKey)))
        = some ([(.create .client, .create .client)], [.composite 2 .client]))
  obtain ⟨hactions, hkeys⟩ := Prod.mk.inj hvalues
  refine ⟨t, ht, hactions, fun i hi => ?_⟩
  have halone := alone_of_nodup (by rw [hkeys]; decide) hi
  exact ((decisions_followed oneJob ht createRow).1 i hi halone).1

/-- A row about which nobody decided anything updates the client that its group suggests. -/
theorem suggestion_taken_as_decision :
    ∃ t, run (ReviewSession.step oneJob) .start [.persist [possibleDuplicate]] = some t ∧
      actionsOf noDecision t = [(.update .client 42 0, .review)] ∧
      (collectReviewActions oneJob.pipeline oneJob.userId (kickoffInputs oneJob.texts noDecision t.desk)
        (preparedSubmit oneJob.texts noDecision t.desk).pendingRows).pendingUpdates.map
          (fun u => (u.existingId, u.rowVersion)) = [(42, 3)] := by
  obtain ⟨t, ht, hvalues⟩ := map_eq_some_iff.mp
    (by decide +kernel : (run (ReviewSession.step oneJob) .start [.persist [possibleDuplicate]]).map
      (fun t => (actionsOf noDecision t, (collectReviewActions oneJob.pipeline oneJob.userId
        (kickoffInputs oneJob.texts noDecision t.desk)
        (preparedSubmit oneJob.texts noDecision t.desk).pendingRows).pendingUpdates.map
          (fun u => (u.existingId, u.rowVersion))))
        = some ([(.update .client 42 0, .review)], [(42, 3)]))
  obtain ⟨hactions, hupdates⟩ := Prod.mk.inj hvalues
  exact ⟨t, ht, hactions, hupdates⟩

end ImmoApp.Imports
