import ImmoApp.Foundation.Totals
import ImmoApp.Imports.Phases
import ImmoApp.Imports.ReviewPrecedence

/-!
# Totals over several review submissions

The summary of a job keeps the rows created, updated and skipped.  `finalizeReviewSubmission` adds those of one
submission; the skipped ones it takes from a map of dead letters that has been merged with that of the earlier
submissions and of the preparation.
-/

namespace ImmoApp.ReviewTotals

open Imports List

/-- What `apply_review_resolutions` returns of a submission; the dead letters are the rows it has recorded. -/
structure ReviewResult where
  createdCount : ℕ
  updatedCount : ℕ
  stillReview : List StillReviewRow
  errors : List Json
  deadLetters : List DeadLetterRow

/-- The counters of `result_summary`, as `_coerce_int` reads them, and the status of the job. -/
structure ImportJob where
  createdCount : ℕ
  updatedCount : ℕ
  skippedCount : ℕ
  errorCount : ℕ
  reviewCount : ℕ
  deadLetterSummary : Keyed String ℕ
  status : JobStatus

def dispositionValue : Disposition → String
  | .blockingDiscarded => "blocking_discarded"
  | .humanSkipped => "human_skipped"

/-- `record_dead_letter_rows`: the counts it returns. -/
def recordDeadLetterRows (rows : List DeadLetterRow) : Dict String ℕ :=
  ["auto_skipped", "human_skipped", "blocking_discarded"].map fun disposition =>
    (disposition, rows.countP fun row => dispositionValue row.disposition = disposition)

/-- `_merged_dead_letter_summary`. -/
def mergedDeadLetterSummary (summary : Keyed String ℕ) (result : Dict String ℕ) : Keyed String ℕ :=
  result.foldl (fun merged entry => merged.set entry.1 ((merged.get? entry.1).getD 0 + entry.2)) summary

def valueTotal (summary : Keyed String ℕ) : ℕ := summary.total fun _ n => n

/-- `finalize_review_submission`; `persist` is the visible count that `persist_review_rows` returns. -/
def finalizeReviewSubmission (persist : List StillReviewRow → ℕ) (job : ImportJob) (result : ReviewResult) :
    ImportJob :=
  let visible := if result.stillReview.isEmpty then 0 else persist result.stillReview
  let deadLetters := mergedDeadLetterSummary job.deadLetterSummary (recordDeadLetterRows result.deadLetters)
  let rowsChanged := 0 < result.createdCount || 0 < result.updatedCount || 0 < valueTotal deadLetters
  { createdCount := job.createdCount + result.createdCount
    updatedCount := job.updatedCount + result.updatedCount
    skippedCount := job.skippedCount + valueTotal deadLetters
    errorCount := if 0 < visible then 0 else result.errors.length
    reviewCount := visible
    deadLetterSummary := deadLetters
    status :=
      if 0 < visible then .ready
      else if 0 < result.errors.length && !rowsChanged then .failed
      else .completed }

variable (persist : List StillReviewRow → ℕ) (job : ImportJob)

def afterSubmissions (results : List ReviewResult) : ImportJob := results.foldl (finalizeReviewSubmission persist) job

/-- After the submissions `before` the submission `result` is counted once, and completes a job with errors only where
it has changed something. -/
structure CountedOnce (before : List ReviewResult) (result : ReviewResult) : Prop where
  created : (afterSubmissions persist job (before ++ [result])).createdCount =
    job.createdCount + ((before ++ [result]).map ReviewResult.createdCount).sum
  updated : (afterSubmissions persist job (before ++ [result])).updatedCount =
    job.updatedCount + ((before ++ [result]).map ReviewResult.updatedCount).sum
  skipped : (afterSubmissions persist job (before ++ [result])).skippedCount =
    job.skippedCount + ((before ++ [result]).map fun r => r.deadLetters.length).sum
  completed : (afterSubmissions persist job (before ++ [result])).status = .completed →
    result.errors = [] ∨ 0 < result.createdCount ∨ 0 < result.updatedCount ∨ 0 < result.deadLetters.length

/-- Every submission of a sequence is counted once. -/
def AddsUp (results : List ReviewResult) : Prop :=
  ∀ before result rest, results = before ++ result :: rest → CountedOnce persist job before result

variable {persist job}

lemma valueTotal_merged (summary : Keyed String ℕ) (result : Dict String ℕ) :
    valueTotal (mergedDeadLetterSummary summary result) = valueTotal summary + (result.map Prod.snd).sum := by
  induction result generalizing summary with
  | nil => rfl
  | cons entry _ ih =>
    have hset : valueTotal (summary.set entry.1 ((summary.get? entry.1).getD 0 + entry.2)) =
        valueTotal summary + entry.2 := by
      unfold valueTotal
      cases hget : summary.get? entry.1 with
      | none => rw [Keyed.total_set hget, Option.getD_none, Nat.zero_add]
      | some n =>
        have htotal := Keyed.total_set_of_some (f := fun _ n => n) hget (n + entry.2)
        rw [Option.getD_some]
        omega
    rw [mergedDeadLetterSummary, foldl_cons, ← mergedDeadLetterSummary, ih, hset, map_cons, sum_cons]
    omega

/-- Every row has one of the dispositions that are counted. -/
lemma sum_recordDeadLetterRows (rows : List DeadLetterRow) :
    ((recordDeadLetterRows rows).map Prod.snd).sum = rows.length := by
  induction rows with
  | nil => rfl
  | cons row _ ih =>
    simp only [recordDeadLetterRows, map_cons, map_nil, sum_cons, sum_nil, countP_cons, length_cons] at ih ⊢
    cases row.disposition <;> simp [dispositionValue] at ih ⊢ <;> omega

lemma finalize_spec (persist : List StillReviewRow → ℕ) (job : ImportJob) (result : ReviewResult) :
    let job' := finalizeReviewSubmission persist job result
    let skips := valueTotal job.deadLetterSummary + result.deadLetters.length
    job'.createdCount = job.createdCount + result.createdCount ∧
      job'.updatedCount = job.updatedCount + result.updatedCount ∧ job'.skippedCount = job.skippedCount + skips ∧
      valueTotal job'.deadLetterSummary = skips ∧
      (job'.status = .completed →
        result.errors = [] ∨ 0 < result.createdCount ∨ 0 < result.updatedCount ∨ 0 < skips) := by
  have htotal := valueTotal_merged job.deadLetterSummary (recordDeadLetterRows result.deadLetters)
  rw [sum_recordDeadLetterRows] at htotal
  refine ⟨rfl, rfl, congrArg _ htotal, htotal, ?_⟩
  intro hstatus
  simp only [finalizeReviewSubmission, htotal] at hstatus
  generalize (if result.stillReview.isEmpty then 0 else persist result.stillReview) = visible at hstatus
  split at hstatus
  · cases hstatus
  · split at hstatus
    · cases hstatus
    · next hnot =>
      by_contra! hnone
      obtain ⟨hne, _, _, _⟩ := hnone
      have hpos := length_pos_iff.mpr hne
      simp only [Bool.and_eq_true, Bool.not_eq_true', Bool.or_eq_false_iff, decide_eq_true_eq, decide_eq_false_iff_not]
        at hnot
      exact hnot ⟨hpos, ⟨by omega, by omega⟩, by omega⟩

variable (before : List ReviewResult) (result : ReviewResult)

lemma afterSubmissions_concat : afterSubmissions persist job (before ++ [result]) =
      finalizeReviewSubmission persist (afterSubmissions persist job before) result := by
  rw [afterSubmissions, foldl_append]
  rfl

/-- The created and updated rows are always counted once; the dead letters add up in their map. -/
lemma afterSubmissions_counts (persist : List StillReviewRow → ℕ) (job : ImportJob) (results : List ReviewResult) :
    (afterSubmissions persist job results).createdCount =
        job.createdCount + (results.map ReviewResult.createdCount).sum ∧
      (afterSubmissions persist job results).updatedCount =
        job.updatedCount + (results.map ReviewResult.updatedCount).sum ∧
      valueTotal (afterSubmissions persist job results).deadLetterSummary =
        valueTotal job.deadLetterSummary + (results.map fun r => r.deadLetters.length).sum := by
  induction results using List.reverseRecOn with
  | nil => exact ⟨rfl, rfl, rfl⟩
  | append_singleton before result ih =>
    obtain ⟨hcreated, hupdated, htotal⟩ := ih
    obtain ⟨hcreated', hupdated', -, htotal', -⟩ :=
      finalize_spec persist (afterSubmissions persist job before) result
    rw [afterSubmissions_concat, hcreated', hupdated', htotal', hcreated, hupdated, htotal]
    simp [Nat.add_assoc]

/-- The skipped rows of a submission are counted together with all that were skipped before. -/
lemma skippedCount_concat :
    (afterSubmissions persist job (before ++ [result])).skippedCount = (afterSubmissions persist job before).skippedCount +
      (valueTotal job.deadLetterSummary + ((before ++ [result]).map fun r => r.deadLetters.length).sum) := by
  obtain ⟨-, -, hskipped, -, -⟩ := finalize_spec persist (afterSubmissions persist job before) result
  obtain ⟨-, -, htotal⟩ := afterSubmissions_counts persist job before
  rw [afterSubmissions_concat, hskipped, htotal, map_append, sum_append, map_singleton, sum_singleton, Nat.add_assoc]

lemma sum_deadLetters_eq_zero {results : List ReviewResult} :
    (results.map fun r => r.deadLetters.length).sum = 0 ↔ ∀ r ∈ results, r.deadLetters = [] := by
  simp [List.sum_eq_zero_iff_forall_eq_nat]

/-- Exactly which sequences of submissions add up: those in which nothing was skipped before a submission, neither by
the preparation nor by an earlier one. -/
theorem addsUp_iff (persist : List StillReviewRow → ℕ) (job : ImportJob) (results : List ReviewResult) :
    AddsUp persist job results ↔ ∀ before result rest, results = before ++ result :: rest →
      valueTotal job.deadLetterSummary = 0 ∧ ∀ r ∈ before, r.deadLetters = [] := by
  constructor
  · intro h before result rest hresults
    have hbefore : (afterSubmissions persist job before).skippedCount =
        job.skippedCount + (before.map fun r => r.deadLetters.length).sum := by
      induction before using List.reverseRecOn with
      | nil => rfl
      | append_singleton earlier last =>
        refine (h earlier last (result :: rest) ?_).skipped
        rw [hresults, append_assoc, singleton_append]
    have hskipped := (h before result rest hresults).skipped
    rw [skippedCount_concat, hbefore, map_append, sum_append] at hskipped
    rw [← sum_deadLetters_eq_zero]
    omega
  · intro h before result rest hresults
    obtain ⟨hzero, hnone⟩ := h before result rest hresults
    have hbefore : (afterSubmissions persist job before).skippedCount = job.skippedCount := by
      clear hresults
      induction before using List.reverseRecOn with
      | nil => rfl
      | append_singleton _ _ ih =>
        rw [skippedCount_concat, hzero, sum_deadLetters_eq_zero.mpr hnone]
        exact ih fun r hr => hnone r (mem_append_left _ hr)
    obtain ⟨hcreated, hupdated, -⟩ := afterSubmissions_counts persist job (before ++ [result])
    refine ⟨hcreated, hupdated, ?_, fun hstatus => ?_⟩
    · rw [skippedCount_concat, hbefore, hzero, Nat.zero_add]
    · obtain ⟨-, -, htotal⟩ := afterSubmissions_counts persist job before
      obtain ⟨-, -, -, -, hcompleted⟩ :=
        finalize_spec persist (afterSubmissions persist job before) result
      rw [afterSubmissions_concat] at hstatus
      have hchanged := hcompleted hstatus
      rwa [htotal, hzero, sum_deadLetters_eq_zero.mpr hnone, Nat.zero_add] at hchanged

/-- One row is skipped in a first submission, and nothing happens in a second one. -/
theorem skipped_row_counted_twice : ¬ ∀ (persist : List StillReviewRow → ℕ) (job : ImportJob)
    (results : List ReviewResult), AddsUp persist job results := by
  intro h
  let row : DeadLetterRow := ⟨.humanSkipped, .client, [], possibleDuplicate⟩
  let job : ImportJob := ⟨0, 0, 0, 0, 2, Keyed.empty, .ready⟩
  have hsecond := (h (fun _ => 1) job [⟨0, 0, [], [], [row]⟩, ⟨0, 0, [], [], []⟩] [_] _ [] rfl).skipped
  rw [skippedCount_concat, afterSubmissions, foldl_cons, foldl_nil] at hsecond
  exact absurd hsecond (by decide)

end ImmoApp.ReviewTotals
