import ImmoApp.Accounts.Owners

/-!
# Deliveries of a compliance job

A job may be delivered to several workers, at once or one after the other.  A delivery takes a job that is queued
or running, so a second one takes a job that the first is still working on, and each writes its outcome into the
row whatever the row says by then.

The size and the hash that are recorded are those of the compact text of the result; the text that is served is
indented.  `job_outcomes` says when a finished job stays as it is, and that the record is never true of an export.
-/

namespace ImmoApp.Accounts

/-! ### Deliveries -/

inductive JobDelivery where
  | started (kind : JobType)
  /-- The work is done, without a result where it raised. -/
  | worked (kind : JobType) (result : Option (List (String × Json)))

structure JobDesk where
  row : ComplianceJob
  deliveries : Dict ℕ JobDelivery
  nextDelivery : ℕ

inductive JobAction where
  /-- The first section of `run_export_job` or `run_delete_job`. -/
  | deliver (kind : JobType) (now : ℕ)
  /-- `_build_export_payload`, with the user that is found. -/
  | buildExport (k : ℕ) (generatedAt : String) (found : Option ExportSubject)
  /-- `_run_delete`, with the user that is found. -/
  | runDelete (k : ℕ) (deletedAt token : String) (found : Option User)
  | raises (k : ℕ)
  /-- The last section of a delivery. -/
  | close (k now : ℕ)

/-- What `_run_delete` returns when the save and the end of the sessions succeed. -/
def runDelete (row : ComplianceJob) (deletedAt token : String) (found : Option User) :
    Except AccountError (List (String × Json)) := do
  let u ← prepareErase row.targetUserId token found
  deletePayload row deletedAt row.targetUserId u

def JobType.errorCode : JobType → String
  | .export => "EXPORT_FAILED"
  | .delete => "DELETE_FAILED"

/-- The row after the last section of a delivery: the status it has by then is not looked at. -/
def ComplianceJob.close (env : ComplianceEnv) (row : ComplianceJob) (kind : JobType) (now : ℕ) :
    Option (List (String × Json)) → ComplianceJob
  | some result => row.markSucceeded env (.obj result) "application/json" now
  | none => row.markFailed env kind.errorCode now

namespace JobDesk

variable (env : ComplianceEnv) (d : JobDesk)

def withResult (k : ℕ) (kind : JobType) (result : Option (List (String × Json))) : JobDesk :=
  { d with deliveries := d.deliveries.set k (.worked kind result) }

def step : JobAction → Option JobDesk
  | .deliver kind now =>
    match d.row.start now with
    | some row => some
      { row := row
        deliveries := d.deliveries.set d.nextDelivery (.started kind)
        nextDelivery := d.nextDelivery + 1 }
    | none => some d
  | .buildExport k generatedAt found =>
    match d.deliveries.get? k with
    | some (.started .export) => some (d.withResult k .export (exportPayload d.row generatedAt found).toOption)
    | _ => none
  | .runDelete k deletedAt token found =>
    match d.deliveries.get? k with
    | some (.started .delete) => some (d.withResult k .delete (runDelete d.row deletedAt token found).toOption)
    | _ => none
  | .raises k =>
    match d.deliveries.get? k with
    | some (.started kind) => some (d.withResult k kind none)
    | _ => none
  | .close k now =>
    match d.deliveries.get? k with
    | some (.worked kind result) => some
      { d with row := d.row.close env kind now result, deliveries := d.deliveries.erase k }
    | _ => none

end JobDesk

def ComplianceJob.finished (row : ComplianceJob) : Bool := row.status == .succeeded || row.status == .failed

def JobDesk.KeepsFinished (env : ComplianceEnv) (d : JobDesk) (action : JobAction) : Prop :=
  ∀ d', d.step env action = some d' → d.row.finished = true → d'.row = d.row

/-- The size and the hash of an export are those of the text that is served. -/
def ComplianceJob.Truthful (env : ComplianceEnv) (row : ComplianceJob) : Prop :=
  row.jobType = .export → row.status = .succeeded → ∀ actor contentType body,
    getExportArtifact env actor (some row) = .ok (contentType, body) →
      row.artifactSizeBytes = body.utf8ByteSize ∧ row.artifactSha256 = env.sha256 body

/-- A delivery writes its outcome while the job is not finished, and an export only fails. -/
def JobDesk.Proper (d : JobDesk) : JobAction → Prop
  | .close k _ => d.row.finished = false ∧
    match d.deliveries.get? k with
    | some (.worked _ (some _)) => d.row.jobType ≠ .export
    | _ => True
  | _ => True

instance (d : JobDesk) : ∀ action, Decidable (d.Proper action)
  | .close k _ => by
    unfold JobDesk.Proper
    dsimp only
    split <;> infer_instance
  | .deliver .. | .buildExport .. | .runDelete .. | .raises _ => .isTrue trivial

/-- A job that succeeded has a result with members, whose compact text was measured. -/
structure JobDesk.Measured (env : ComplianceEnv) (d : JobDesk) : Prop where
  row : d.row.status = .succeeded → ∃ fields, fields ≠ [] ∧ d.row.result = .obj fields ∧
    d.row.artifactSizeBytes = (digestText env (.obj fields)).utf8ByteSize
  results : ∀ e ∈ d.deliveries, ∀ kind fields, e.2 = .worked kind (some fields) → fields ≠ []

section Outcomes

variable {env : ComplianceEnv} {d d' : JobDesk} {row row' : ComplianceJob} {action : JobAction}

variable {fields : List (String × Json)} {now : ℕ}

lemma exportPayload_ne_nil {generatedAt : String} {found : Option ExportSubject}
    (h : exportPayload row generatedAt found = .ok fields) : fields ≠ [] := by
  cases found with
  | none => cases h
  | some =>
    rw [exportPayload] at h
    split at h
    · cases h
    · obtain ⟨⟩ := h
      exact List.cons_ne_nil _ _

lemma runDelete_ne_nil {deletedAt token : String} {found : Option User}
    (h : runDelete row deletedAt token found = .ok fields) : fields ≠ [] := by
  obtain ⟨u, -, h⟩ := bind_eq_ok_iff.mp h
  rw [deletePayload] at h
  split at h
  · cases h
  · obtain ⟨⟩ := h
    exact List.cons_ne_nil _ _

/-! ### Sections -/

lemma ComplianceJob.start_eq_some (h : row.start now = some row') :
    row.status.active = true ∧ row' = row.markRunning now := by
  unfold ComplianceJob.start at h
  split at h
  · next hactive => exact ⟨hactive, (Option.some.inj h).symm⟩
  · cases h

lemma ComplianceJob.not_finished_of_active (h : row.status.active = true) : row.finished = false := by
  unfold ComplianceJob.finished
  cases hstatus : row.status <;> simp_all [JobStatus.active]

lemma JobDesk.step_cases (hstep : d.step env action = some d') : d'.row = d.row ∧ d'.deliveries = d.deliveries ∨
    (∃ now kind, d.row.status.active = true ∧ d'.row = d.row.markRunning now ∧
      d'.deliveries = d.deliveries.set d.nextDelivery (.started kind)) ∨
    (∃ k kind result, (∀ fields, result = some fields → fields ≠ []) ∧ d'.row = d.row ∧
      d'.deliveries = d.deliveries.set k (.worked kind result)) ∨
    ∃ k kind now result, action = .close k now ∧ d.deliveries.get? k = some (.worked kind result) ∧
      d'.row = d.row.close env kind now result ∧ d'.deliveries = d.deliveries.erase k := by
  cases action with
  | deliver kind now =>
    unfold JobDesk.step at hstep
    dsimp only at hstep
    split at hstep
    · next row hrow =>
      obtain ⟨hactive, rfl⟩ := ComplianceJob.start_eq_some hrow
      obtain ⟨⟩ := hstep
      exact .inr (.inl ⟨now, kind, hactive, rfl, rfl⟩)
    · obtain ⟨⟩ := hstep
      exact .inl ⟨rfl, rfl⟩
  | buildExport k =>
    unfold JobDesk.step at hstep
    dsimp only at hstep
    split at hstep
    · obtain ⟨⟩ := hstep
      exact .inr (.inr (.inl ⟨k, .export, _, fun _ h => exportPayload_ne_nil (eq_ok_of_toOption h), rfl, rfl⟩))
    · cases hstep
  | runDelete k =>
    unfold JobDesk.step at hstep
    dsimp only at hstep
    split at hstep
    · obtain ⟨⟩ := hstep
      exact .inr (.inr (.inl ⟨k, .delete, _, fun _ h => runDelete_ne_nil (eq_ok_of_toOption h), rfl, rfl⟩))
    · cases hstep
  | raises k =>
    unfold JobDesk.step at hstep
    dsimp only at hstep
    split at hstep
    · next kind _ =>
      obtain ⟨⟩ := hstep
      exact .inr (.inr (.inl ⟨k, kind, none, fun _ hnone => absurd hnone (by simp), rfl, rfl⟩))
    · cases hstep
  | close k now =>
    unfold JobDesk.step at hstep
    dsimp only at hstep
    split at hstep
    · next kind result hk =>
      obtain ⟨⟩ := hstep
      exact .inr (.inr (.inr ⟨k, kind, now, result, rfl, hk, rfl, rfl⟩))
    · cases hstep

lemma JobDesk.Measured.step (h : d.Measured env) (hstep : d.step env action = some d') : d'.Measured env := by
  rcases JobDesk.step_cases hstep with ⟨hrow, hdeliveries⟩ | ⟨now, kind, -, hrow, hdeliveries⟩ |
    ⟨k, kind, result, hresult, hrow, hdeliveries⟩ | ⟨k, kind, now, result, rfl, hk, hrow, hdeliveries⟩
  · exact ⟨hrow ▸ h.row, hdeliveries ▸ h.results⟩
  · refine ⟨fun hstatus => ?_, fun e he kind' fields hworked => ?_⟩
    · rw [hrow] at hstatus
      exact absurd hstatus (by simp [ComplianceJob.markRunning])
    · rw [hdeliveries] at he
      rcases Dict.mem_set.mp he with rfl | ⟨hold, -⟩
      · cases hworked
      · exact h.results e hold kind' fields hworked
  · refine ⟨hrow ▸ h.row, fun e he kind' fields hworked => ?_⟩
    rw [hdeliveries] at he
    rcases Dict.mem_set.mp he with rfl | ⟨hold, -⟩
    · injection hworked with _ hresult'
      exact hresult fields hresult'
    · exact h.results e hold kind' fields hworked
  · refine ⟨fun hstatus => ?_, fun e he => h.results e (Dict.mem_erase.mp (hdeliveries ▸ he)).1⟩
    cases result with
    | none =>
      rw [hrow] at hstatus
      exact absurd hstatus (by simp [ComplianceJob.close, ComplianceJob.markFailed])
    | some fields =>
      rw [hrow]
      exact ⟨fields, h.results _ (Dict.mem_of_get? hk) kind fields rfl, rfl, rfl⟩

lemma ComplianceJob.not_truthful (htype : row.jobType = .export)
    (hstatus : row.status = .succeeded) (hne : fields ≠ []) (hresult : row.result = .obj fields)
    (hsize : row.artifactSizeBytes = (digestText env (.obj fields)).utf8ByteSize) : ¬ row.Truthful env := by
  intro htrue
  -- a superuser may always fetch the artifact
  have hserved : getExportArtifact env root (some row) = .ok
      (if row.artifactContentType = "" then "application/json" else row.artifactContentType,
        artifactText env row.result) := by
    refine raiseFirst_bind_eq_ok_iff.mpr ⟨?_, rfl⟩
    simp [jobScope, root, htype, hstatus]
  obtain ⟨hsame, -⟩ := htrue htype hstatus root _ _ hserved
  have hlt := Json.size_compact_lt_indented env.floatText 2 hne
  rw [hsize, hresult] at hsame
  exact absurd hsame hlt.ne

lemma JobDesk.keepsFinished (hproper : d.Proper action) : d.KeepsFinished env action := by
  intro d' hstep hfinished
  rcases JobDesk.step_cases hstep with ⟨hrow, -⟩ | ⟨now, kind, hactive, -, -⟩ | ⟨k, kind, result, -, hrow, -⟩ |
    ⟨k, kind, now, result, rfl, -, -, -⟩
  · exact hrow
  · exact absurd (hfinished.symm.trans (ComplianceJob.not_finished_of_active hactive)) (by simp)
  · exact hrow
  · exact absurd (hfinished.symm.trans hproper.1) (by simp)

lemma JobDesk.not_succeeded_step (hnot : ¬ (d.row.jobType = .export ∧ d.row.status = .succeeded))
    (hproper : d.Proper action) (hstep : d.step env action = some d') :
    ¬ (d'.row.jobType = .export ∧ d'.row.status = .succeeded) := by
  rcases JobDesk.step_cases hstep with ⟨hrow, -⟩ | ⟨now, kind, -, hrow, -⟩ | ⟨k, kind, result, -, hrow, -⟩ |
    ⟨k, kind, now, result, rfl, hk, hrow, -⟩
  · rwa [hrow]
  · rw [hrow]
    exact fun h => absurd h.2 (by simp [ComplianceJob.markRunning])
  · rwa [hrow]
  · rw [hrow]
    cases result with
    | none => exact fun h => absurd h.2 (by simp [ComplianceJob.close, ComplianceJob.markFailed])
    | some =>
      have hother := hproper.2
      rw [hk] at hother
      exact fun h => hother h.1

lemma JobDesk.finishedAt_of_close {k : ℕ} (hstep : d.step env (.close k now) = some d') :
    d'.row.finishedAt = some now := by
  unfold JobDesk.step at hstep
  dsimp only at hstep
  split at hstep
  · next kind result _ =>
    obtain ⟨⟩ := hstep
    cases result with
    | none => rfl
    | some => rfl
  · cases hstep

lemma JobDesk.not_truthful_of_run {actions : List JobAction} (hqueued : d.row.status.active = true)
    (hidle : d.deliveries = []) (hrun : run (JobDesk.step env) d actions = some d') (htype : d'.row.jobType = .export)
    (hsucceeded : d'.row.status = .succeeded) : ¬ d'.row.Truthful env := by
  have hstart : d.Measured env :=
    ⟨fun hsucceeded => absurd hqueued (by rw [hsucceeded]; decide), fun e he => absurd he (by simp [hidle])⟩
  have hmeasured : d'.Measured env :=
    run_invariant_of_step (P := JobDesk.Measured env) (fun _ _ _ h hstep => h.step hstep) hstart hrun
  obtain ⟨_, hne, hresult, hsize⟩ := hmeasured.row hsucceeded
  exact ComplianceJob.not_truthful htype hsucceeded hne hresult hsize

end Outcomes

/-- What becomes of a job that is delivered any number of times.  If no delivery writes its outcome after the job
has finished, and no export succeeds, a finished job never changes and every record is true.  A delivery that
writes later changes the job, and the record of an export that succeeded is not true. -/
theorem job_outcomes (env : ComplianceEnv) {d d' : JobDesk} {actions : List JobAction}
    (hqueued : d.row.status.active = true) (hidle : d.deliveries = [])
    (hrun : run (JobDesk.step env) d actions = some d') :
    (Guarded (JobDesk.step env) JobDesk.Proper d actions →
      Guarded (JobDesk.step env) (JobDesk.KeepsFinished env) d actions ∧ d'.row.Truthful env) ∧
    (∀ k now d'', d'.step env (.close k now) = some d'' → d'.row.finishedAt ≠ some now → d''.row ≠ d'.row) ∧
    (d'.row.jobType = .export → d'.row.status = .succeeded → ¬ d'.row.Truthful env) := by
  have hnot : ¬ (d.row.jobType = .export ∧ d.row.status = .succeeded) := by
    rintro ⟨-, hsucceeded⟩
    rw [hsucceeded] at hqueued
    exact absurd hqueued (by decide)
  refine ⟨fun hproper => ⟨?_, ?_⟩, fun k now d'' hstep hother hsame => ?_,
    JobDesk.not_truthful_of_run hqueued hidle hrun⟩
  · exact Guarded.of_invariant (P := fun _ => True) (fun _ _ _ _ _ _ => trivial)
      (fun _ _ _ hproper => JobDesk.keepsFinished hproper) trivial hproper
  · have hnone : ¬ (d'.row.jobType = .export ∧ d'.row.status = .succeeded) :=
      run_invariant (P := fun d : JobDesk => ¬ (d.row.jobType = .export ∧ d.row.status = .succeeded))
        (fun _ _ _ h hproper hstep => JobDesk.not_succeeded_step h hproper hstep) hnot hproper hrun
    exact fun htype hsucceeded => absurd ⟨htype, hsucceeded⟩ hnone
  · have hwritten := JobDesk.finishedAt_of_close hstep
    rw [hsame] at hwritten
    exact hother hwritten

/-! ### A job that is delivered twice -/

def exportJob : ComplianceJob where
  jobId := "5f0c"
  agencyId := 1
  targetUserId := 3
  requestedBy := 2
  jobType := .export
  stepUpVerifiedAt := 100
  payload := .obj []

def exportDesk : JobDesk := ⟨exportJob, [], 0⟩

def marcSubject : ExportSubject where
  userId := 3
  username := "marc"
  email := ""
  firstName := "Marc"
  lastName := "Petit"
  role := "manager"
  agencyId := some 1
  isActive := true
  mfaTotpEnabled := false
  sessionsTotal := 2
  activeSessions := 1

/-- The second delivery comes when the first has failed, and leaves the job. -/
theorem job_outcomes_failed : ∃ d', run (JobDesk.step complianceEnv) exportDesk
    [.deliver .export 200, .buildExport 0 "2024-05-01T10:00:00" none, .close 0 201, .deliver .export 300] = some d' ∧
    d'.row.status = .failed ∧
    Guarded (JobDesk.step complianceEnv) (JobDesk.KeepsFinished complianceEnv) exportDesk
      [.deliver .export 200, .buildExport 0 "2024-05-01T10:00:00" none, .close 0 201, .deliver .export 300] ∧
    d'.row.Truthful complianceEnv := by
  obtain ⟨d', hrun, hfailed⟩ := Option.map_eq_some_iff.mp (by decide +kernel :
    (run (JobDesk.step complianceEnv) exportDesk
      [.deliver .export 200, .buildExport 0 "2024-05-01T10:00:00" none, .close 0 201, .deliver .export 300]).map
        (fun d => d.row.status) = some .failed)
  have houtcomes := job_outcomes complianceEnv rfl rfl hrun
  exact ⟨d', hrun, hfailed, houtcomes.1 (by decide +kernel)⟩

def exportActions : List JobAction :=
  [.deliver .export 200, .deliver .export 201, .buildExport 0 "2024-05-01T10:00:00" (some marcSubject), .raises 1,
    .close 0 202]

/-- The job has succeeded with a record that is not true, and fails when the second delivery ends. -/
theorem succeeded_job_fails : ∃ d', run (JobDesk.step complianceEnv) exportDesk exportActions = some d' ∧
    ¬ d'.row.Truthful complianceEnv ∧ ¬ d'.KeepsFinished complianceEnv (.close 1 203) := by
  obtain ⟨d', hrun, hd'⟩ := Option.map_eq_some_iff.mp (by decide +kernel :
    (run (JobDesk.step complianceEnv) exportDesk exportActions).map
      (fun d => (d.row.jobType, d.row.status, (d.step complianceEnv (.close 1 203)).map fun d'' => d''.row.status)) =
        some (.export, .succeeded, some .failed))
  obtain ⟨htype, hrest⟩ := Prod.mk.inj hd'
  obtain ⟨hsucceeded, hclosed⟩ := Prod.mk.inj hrest
  refine ⟨d', hrun, JobDesk.not_truthful_of_run rfl rfl hrun htype hsucceeded, fun hkeeps => ?_⟩
  obtain ⟨d'', hstep, hfailed⟩ := Option.map_eq_some_iff.mp hclosed
  have hsame := hkeeps d'' hstep (by rw [ComplianceJob.finished, hsucceeded]; rfl)
  rw [hsame, hsucceeded] at hfailed
  exact absurd hfailed (by simp)

end ImmoApp.Accounts
