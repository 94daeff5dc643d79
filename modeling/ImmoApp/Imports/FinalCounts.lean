import ImmoApp.Imports.Phases
import ImmoApp.Imports.ReviewRows

/-!
# The counts of a finished import

A row of a file with one entity type is read once: the preparation leaves it out, reports an error or stages it
into a chunk; the PLAN phase of the chunk does the same or plans it; the LOAD phase creates it, leaves it out or
reports an error.  `finalizeDistributedImportJob` puts the counts of all phases together.
-/

namespace ImmoApp.FinalCounts

open Imports List

/-- What a phase leaves out: the rows it skips, those under review among them, and one entry for each error. -/
structure Rejected where
  skipped : ℕ
  errors : List Json
  reviewRows : List ReviewRow
  reviewOverflow : ℕ
  inReview : reviewRows.length + reviewOverflow ≤ skipped

structure ChunkRun where
  processed : ℕ
  planned : ℕ
  plan : Rejected
  created : ℕ
  loadSkipped : ℕ
  loadErrors : List Json
  plan_counts : processed = planned + plan.skipped + plan.errors.length
  load_counts : planned = created + loadSkipped + loadErrors.length

structure ImportRun where
  rowsRead : ℕ
  prepare : Rejected
  chunks : List ChunkRun
  cancelRequested : Bool
  prepare_counts : rowsRead = (chunks.map ChunkRun.processed).sum + prepare.skipped + prepare.errors.length

/-- The counts in `result_summary`, and the status of the job. -/
structure FinalSummary where
  createdCount : ℕ
  skippedCount : ℕ
  errorCount : ℕ
  reviewCount : ℕ
  reviewOverflowCount : ℕ
  reviewTotalCount : ℕ
  status : JobStatus

/-- `_decide_terminal_state`. -/
def decideTerminalState (overflowBlocking cancelRequested hasReviewRows rowsChanged : Bool) (errorCount : ℕ) :
    JobStatus :=
  if overflowBlocking then .failed
  else if cancelRequested then .failed
  else if hasReviewRows then .ready
  else if 0 < errorCount && !rowsChanged then .failed
  else .completed

variable (capacity : ℕ)

/-- `review_overflow_errors`: one entry where rows exceeded the capacity of the review. -/
def reviewOverflowErrors (overflowCount : ℕ) : List Json :=
  if overflowCount = 0 then []
  else [.obj [("row", .int 0), ("errors", .arr [.str (s!"{overflowCount} additional rows required review and " ++
    s!"exceeded the emergency review capacity of {capacity}. Clean or split the file and retry.")])]]

/-- `finalize_distributed_import_job`; `persist` is the visible count that persisting the review rows returns. -/
def finalizeDistributedImportJob (persist : List ReviewRow → ℕ) (run : ImportRun) : FinalSummary :=
  let created := (run.chunks.map ChunkRun.created).sum
  let reviewRows := run.prepare.reviewRows ++ run.chunks.flatMap fun chunk => chunk.plan.reviewRows
  let overflow := run.prepare.reviewOverflow + (run.chunks.map fun chunk => chunk.plan.reviewOverflow).sum
  let phaseErrors := run.prepare.errors ++ (run.chunks.flatMap fun chunk => chunk.plan.errors ++ chunk.loadErrors) ++
    reviewOverflowErrors capacity overflow
  let errorCount := max (max (run.chunks.map fun chunk => chunk.loadErrors.length).sum phaseErrors.length)
    run.prepare.errors.length
  let reviewCount := if reviewRows.isEmpty then 0 else persist reviewRows
  { createdCount := created
    skippedCount := (run.chunks.map ChunkRun.loadSkipped).sum
    errorCount := errorCount
    reviewCount := reviewCount
    reviewOverflowCount := overflow
    reviewTotalCount := reviewCount + overflow
    status := decideTerminalState (0 < overflow) run.cancelRequested (!reviewRows.isEmpty) (0 < created) errorCount }

variable (persist : List ReviewRow → ℕ) (run : ImportRun)

def skippedRows : ℕ :=
  run.prepare.skipped + (run.chunks.map fun chunk => chunk.plan.skipped).sum +
    (run.chunks.map ChunkRun.loadSkipped).sum

structure AccountsForRows (summary : FinalSummary) : Prop where
  total : summary.createdCount + summary.skippedCount + summary.errorCount = run.rowsRead
  skipped : summary.skippedCount = skippedRows run
  review : summary.reviewTotalCount ≤ summary.skippedCount

variable {persist run}

variable (chunks : List ChunkRun)

lemma sum_processed : (chunks.map ChunkRun.processed).sum =
    (chunks.map ChunkRun.created).sum + (chunks.map ChunkRun.loadSkipped).sum +
      (chunks.map fun chunk => chunk.plan.skipped).sum +
        (chunks.flatMap fun chunk => chunk.plan.errors ++ chunk.loadErrors).length := by
  induction chunks with
  | nil => rfl
  | cons chunk _ ih =>
    have hplan := chunk.plan_counts
    have hload := chunk.load_counts
    simp only [map_cons, sum_cons, flatMap_cons, length_append, ih]
    omega

lemma sum_loadErrors_le : (chunks.map fun chunk => chunk.loadErrors.length).sum ≤
    (chunks.flatMap fun chunk => chunk.plan.errors ++ chunk.loadErrors).length := by
  induction chunks with
  | nil => exact le_rfl
  | cons _ _ ih =>
    simp only [map_cons, sum_cons, flatMap_cons, length_append]
    omega

lemma plan_review_le : (chunks.flatMap fun chunk => chunk.plan.reviewRows).length +
    (chunks.map fun chunk => chunk.plan.reviewOverflow).sum ≤ (chunks.map fun chunk => chunk.plan.skipped).sum := by
  induction chunks with
  | nil => exact le_rfl
  | cons chunk _ ih =>
    have hchunk := chunk.plan.inReview
    simp only [map_cons, sum_cons, flatMap_cons, length_append]
    omega

/-- Exactly which jobs are summed up right: those whose preparation and plans have skipped no row. -/
theorem accountsForRows_iff (capacity : ℕ) (persist : List ReviewRow → ℕ) (run : ImportRun) :
    AccountsForRows run (finalizeDistributedImportJob capacity persist run) ↔
      run.prepare.skipped = 0 ∧ ∀ chunk ∈ run.chunks, chunk.plan.skipped = 0 := by
  have hnone : (run.chunks.map fun chunk => chunk.plan.skipped).sum = 0 ↔
      ∀ chunk ∈ run.chunks, chunk.plan.skipped = 0 := by
    simp [List.sum_eq_zero_iff_forall_eq_nat]
  rw [← hnone]
  constructor
  · rintro ⟨-, hskipped, -⟩
    have hsame : (run.chunks.map ChunkRun.loadSkipped).sum = skippedRows run := hskipped
    rw [skippedRows] at hsame
    omega
  · rintro ⟨hprepare, hplans⟩
    have hreview := plan_review_le run.chunks
    have hinReview := run.prepare.inReview
    have hoverflow : run.prepare.reviewOverflow + (run.chunks.map fun chunk => chunk.plan.reviewOverflow).sum = 0 := by
      omega
    have hrows : run.prepare.reviewRows ++ (run.chunks.flatMap fun chunk => chunk.plan.reviewRows) = [] := by
      rw [← length_eq_zero_iff, length_append]
      omega
    have hprocessed := sum_processed run.chunks
    have hloadErrors := sum_loadErrors_le run.chunks
    have hread := run.prepare_counts
    simp only [finalizeDistributedImportJob, hoverflow, hrows]
    refine ⟨?_, ?_, Nat.zero_le _⟩
    · simp only [reviewOverflowErrors, if_pos, append_nil, length_append]
      omega
    · rw [skippedRows, hprepare, hplans, Nat.zero_add]

def oneSkipped : ImportRun where
  rowsRead := 1
  prepare := ⟨1, [], [], 0, by decide⟩
  chunks := []
  cancelRequested := false
  prepare_counts := rfl

theorem skipped_row_missing : ¬ ∀ (capacity : ℕ) (persist : List ReviewRow → ℕ) (run : ImportRun),
    AccountsForRows run (finalizeDistributedImportJob capacity persist run) := by
  intro h
  exact absurd (h 5000 (fun _ => 0) oneSkipped).total (by decide)

end ImmoApp.FinalCounts
