import ImmoApp.Imports.ReviewPrecedence

/-!
# The worker of a review submission

A request is prepared when it comes, checked for conflicts and kept with the job; the worker prepares what was kept
once more and performs it.  The second preparation changes nothing: its keys are promoted already, and what is stored
is part of it.
-/

namespace ImmoApp.ReviewTasks

open Imports List Option Dict

/-- What `kickoff_review_submission` checks for conflicts. -/
def checkedState (env : SubmitEnv) (data : ReviewSubmitRequest) (s : ReviewDesk) : ReviewResolutionState :=
  collectReviewActions env.pipeline env.userId (kickoffInputs env.texts data s)
    (preparedSubmit env.texts data s).pendingRows

/-- What `run_review_submit_task` collects of the request that was kept. -/
def taskState (env : SubmitEnv) (workflow : ReviewSubmitRequest) (s : ReviewDesk) : ReviewResolutionState :=
  let prepared := buildPreparedSubmit env.texts s workflow
  collectReviewActions env.pipeline env.userId (normalizeResolutionInputs env.texts prepared) prepared.pendingRows

variable {T : KeyTexts} {rows : List ReviewRow} {β : Type*} {d e : Dict RowKey β} {k : RowKey}

/-! ### Promoted keys -/

/-- Every key is the promoted form of itself, and there once. -/
structure Promoted (T : KeyTexts) (rows : List ReviewRow) (d : Dict RowKey β) : Prop where
  nodup : (d.map Prod.fst).Nodup
  fixed : ∀ x ∈ d, promotedKey T rows x.1 = some x.1

lemma promoted_nil : Promoted T rows ([] : Dict RowKey β) := ⟨nodup_nil, fun _ hx => absurd hx not_mem_nil⟩

lemma promoted_rekey (d : Dict RowKey β) : Promoted T rows (d.rekey (promotedKey T rows)) := by
  refine ⟨nodup_keys_rekey _ _, fun x hx => ?_⟩
  obtain ⟨y, -, hy⟩ := exists_of_mem_rekey hx
  exact promotedKey_idem hy

lemma Promoted.get?_rekey (h : Promoted T rows d) (k : RowKey) : (d.rekey (promotedKey T rows)).get? k = d.get? k :=
  get?_rekey_of_self h.nodup h.fixed k

lemma Promoted.get?_normalized (h : Promoted T rows d) (k : RowKey) :
    (d.rekey (normalizeReviewKeyToken T)).get? k = d.get? k :=
  get?_rekey_of_self h.nodup (fun x hx => normalize_of_promotedKey (h.fixed x hx)) k

lemma Promoted.set (h : Promoted T rows d) (hk : promotedKey T rows k = some k) (v : β) :
    Promoted T rows (d.set k v) := by
  refine ⟨nodup_keys_set h.nodup k v, fun x hx => ?_⟩
  rcases mem_set.mp hx with rfl | ⟨hx, -⟩
  · exact hk
  · exact h.fixed x hx

lemma Promoted.update (hd : Promoted T rows d) (he : Promoted T rows e) : Promoted T rows (d.update e) := by
  have hkeys : (d.map fun x => (x.1, (e.get? x.1).getD x.2)).map Prod.fst = d.map Prod.fst := by
    rw [List.map_map]
    rfl
  refine ⟨?_, fun x hx => ?_⟩
  · rw [Dict.update, map_append, hkeys, nodup_append]
    refine ⟨hd.nodup, he.nodup.sublist (filter_sublist.map _), ?_⟩
    intro k hk k' hk' heq
    obtain ⟨x, hx, rfl⟩ := mem_map.mp hk
    obtain ⟨y, hy, rfl⟩ := mem_map.mp hk'
    have hnone := (mem_filter.mp hy).2
    rw [isNone_iff_eq_none, get?_eq_none_iff] at hnone
    exact hnone x hx heq
  · rcases mem_append.mp hx with hx | hx
    · obtain ⟨y, hy, rfl⟩ := mem_map.mp hx
      exact hd.fixed y hy
    · exact he.fixed x (mem_of_mem_filter hx)

/-- The corrections of bulk operations come under the keys of their rows. -/
lemma Promoted.expand {corrections : Dict RowKey (Dict String Json)} (h : Promoted T rows corrections)
    (operations : List BulkOperation) : Promoted T rows (expandBulkOperations rows corrections operations) := by
  refine List.foldlRecOn _ _ h fun acc hacc op _ => ?_
  split
  · exact hacc
  · refine List.foldlRecOn _ _ hacc fun acc hacc n _ => ?_
    exact List.foldlRecOn _ _ hacc fun acc hacc r _ => hacc.set rfl _

lemma promoted_itemLevelCorrections (items : List ReviewItem) (req : ReviewSubmitRequest) :
    Promoted T rows (itemLevelCorrections items req) := by
  refine List.foldlRecOn _ _ promoted_nil fun acc hacc i _ => ?_
  split
  · exact hacc
  · split
    · exact hacc
    · exact hacc.set rfl _

/-! ### Preparing twice -/

section Twice

variable {s : ReviewDesk} {req : ReviewSubmitRequest}

lemma promoted_storedDecisions : Promoted T rows (storedDecisions s) :=
  List.foldlRecOn _ _ promoted_nil fun _ hacc _ _ => hacc.set rfl _

lemma promoted_corrections : Promoted T (submittedRows s) (buildPreparedSubmit T s req).corrections :=
  ((promoted_rekey req.corrections).expand _).update (promoted_itemLevelCorrections _ _)

lemma promoted_decisions : Promoted T (submittedRows s) (buildPreparedSubmit T s req).decisions := by
  rw [buildPreparedSubmit_decisions]
  exact promoted_rekey _

lemma get?_corrections_twice (k : RowKey) :
    (buildPreparedSubmit T s (workflowRequest (buildPreparedSubmit T s req))).corrections.get? k =
      (buildPreparedSubmit T s req).corrections.get? k := by
  have hitems : ∀ items, itemLevelCorrections items (workflowRequest (buildPreparedSubmit T s req)) = [] := by
    intro items
    induction items with
    | nil => rfl
    | cons _ _ ih => exact ih
  have hprepared : (buildPreparedSubmit T s (workflowRequest (buildPreparedSubmit T s req))).corrections =
      Dict.update ((buildPreparedSubmit T s req).corrections.rekey (promotedKey T (submittedRows s)))
        (itemLevelCorrections (activeReviewItems s) (workflowRequest (buildPreparedSubmit T s req))) := rfl
  rw [hprepared, hitems, get?_update, get?_nil, none_or, promoted_corrections.get?_rekey]

/-- What is stored is overridden the second time, by a decision under the same key. -/
lemma get?_decisions_twice (k : RowKey) :
    (buildPreparedSubmit T s (workflowRequest (buildPreparedSubmit T s req))).decisions.get? k =
      (buildPreparedSubmit T s req).decisions.get? k := by
  have hsame : rowDecisions (workflowRequest (buildPreparedSubmit T s req)) =
      (buildPreparedSubmit T s req).decisions := by
    simp [rowDecisions, workflowRequest, Function.comp_def]
  have hmerged : Promoted T (submittedRows s) ((storedDecisions s).update (buildPreparedSubmit T s req).decisions) :=
    promoted_storedDecisions.update promoted_decisions
  rw [buildPreparedSubmit_decisions, hsame, promotedDecisions, hmerged.get?_rekey, get?_update]
  cases hstored : (storedDecisions s).get? k with
  | none => rw [or_none]
  | some =>
    obtain ⟨i, hi, rfl⟩ := exists_of_storedDecisions hstored
    obtain ⟨v, hv⟩ := isSome_iff_exists.mp (isSome_promotedDecisions T (rowDecisions req) hi)
    rw [buildPreparedSubmit_decisions, hv, some_or]

lemma mem_skipRows {k : RowKey} : k ∈ (buildPreparedSubmit T s req).skipRows ↔
    ∃ k' ∈ req.skipRows ++ (buildEffectiveSubmitPayload s (activeReviewItems s)).2,
      promotedKey T (submittedRows s) k' = some k := by
  have h : (buildPreparedSubmit T s req).skipRows = ((req.skipRows ++ (buildEffectiveSubmitPayload s
      (activeReviewItems s)).2).dedup.filterMap (promotedKey T (submittedRows s))).dedup := rfl
  simp only [h, mem_dedup, mem_filterMap]

lemma mem_skipRows_twice (k : RowKey) :
    k ∈ (buildPreparedSubmit T s (workflowRequest (buildPreparedSubmit T s req))).skipRows ↔
      k ∈ (buildPreparedSubmit T s req).skipRows := by
  rw [mem_skipRows]
  constructor
  · rintro ⟨k', hk', hkey⟩
    rcases mem_append.mp hk' with hk' | hk'
    · obtain ⟨_, -, hk₀⟩ := mem_skipRows.mp hk'
      rw [promotedKey_idem hk₀] at hkey
      exact some.inj hkey ▸ hk'
    · exact mem_skipRows.mpr ⟨k', mem_append_right _ hk', hkey⟩
  · intro hk
    obtain ⟨_, -, hk₀⟩ := mem_skipRows.mp hk
    exact ⟨k, mem_append_left _ hk, promotedKey_idem hk₀⟩

end Twice

lemma collectReviewActions_congr (P : RowPipeline) (userId : ℕ) {inputs inputs' : ResolutionInputs}
    (hskips : ∀ r, inputs.skips r = inputs'.skips r) (hcorrections : inputs.corrections.get? = inputs'.corrections.get?)
    (hdecisions : inputs.decisions.get? = inputs'.decisions.get?) (rows : List ReviewRow) :
    collectReviewActions P userId inputs rows = collectReviewActions P userId inputs' rows := by
  have hrow : collectRow P userId inputs = collectRow P userId inputs' := by
    funext st r
    rw [collectRow, collectRow, lookupRow, lookupRow, lookupRow, lookupRow, hskips, hcorrections, hdecisions]
  rw [collectReviewActions, collectReviewActions, hrow]

end ImmoApp.ReviewTasks
