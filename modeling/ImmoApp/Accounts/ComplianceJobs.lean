import ImmoApp.Accounts.Mutations
import ImmoApp.Foundation.JsonText

/-!
# Compliance jobs

The owner of an agency may have the data of a user exported or the user deleted.  A job is created and delivered
to a worker, which marks it running, does the work, and marks it succeeded or failed.  Each mark is one locked
section; the work between them is not.  Deleting keeps the row of the user under a pseudonym, inactive and without
any right.
-/

namespace ImmoApp.Accounts

/-- `TYPE_CHOICES`. -/
inductive JobType where
  | export
  | delete
  deriving DecidableEq

/-- `STATUS_CHOICES`. -/
inductive JobStatus where
  | queued
  | running
  | succeeded
  | failed
  | canceled
  deriving DecidableEq

/-- `ACTIVE_STATUSES`. -/
def JobStatus.active (status : JobStatus) : Bool := status == .queued || status == .running

/-- `ComplianceJob`; the times are in seconds. -/
structure ComplianceJob where
  jobId : String
  agencyId : ℕ
  targetUserId : ℕ
  requestedBy : ℕ
  jobType : JobType
  status : JobStatus := .queued
  stepUpVerifiedAt : ℕ
  payload : Json
  result : Json := .obj []
  errorCode : String := ""
  artifactPath : String := ""
  artifactSha256 : String := ""
  artifactSizeBytes : ℕ := 0
  artifactContentType : String := ""
  startedAt : Option ℕ := none
  finishedAt : Option ℕ := none
  expiresAt : Option ℕ := none

structure ComplianceEnv extends AccountEnv where
  floatText : ℚ → String
  /-- `hashlib.sha256(…).hexdigest()` of the bytes of a text. -/
  sha256 : String → String
  artifactTtl : ℕ

/-! ### Creating a job -/

section Create

variable (actorId : ℕ) (actor : User) (db : UserDb)

def assertSameAgency (target : User) : Bool × AccountError :=
  (!actor.isSuperuser && (actor.agency.isNone || actor.agency != target.agency),
    .permissionDenied "Forbidden agency scope.")

def activeOwnerCount (agency : Option ℕ) : ℕ :=
  db.users.count fun _ u => u.agency == agency && u.isOwner && u.isActive

/-- The checks of `_create_job` on the user that was found. -/
def createJobChecks (jobType : JobType) (targetUserId : ℕ) (target : User) : List (Bool × AccountError) :=
  [assertSameAgency actor target, (jobType == .delete && targetUserId == actorId,
      .permissionDenied ("Cannot run compliance delete on your own account. " ++
        "Transfer ownership first or ask another owner.")),
    (jobType == .delete && target.isOwner && activeOwnerCount db target.agency ≤ 1,
      .permissionDenied ("Cannot delete the last owner of an agency. " ++
        "Transfer ownership to another team member first."))]

/-- `_create_job` up to its transaction: the row to be created. -/
def prepareJob (jobType : JobType) (targetUserId : ℕ) (reason : Option String) (stepUpVerifiedAt : ℕ)
    (jobId : String) : Except AccountError ComplianceJob := do
  raiseFirst [requireOwner actor]
  match db.users.get? targetUserId with
  | none => .error (.notFound "User not found.")
  | some target =>
    raiseFirst (createJobChecks actorId actor db jobType targetUserId target)
    match target.agency with
    | none => .error (.typeError "int() argument must be a number")
    | some agencyId =>
      let reasonText := firstChars 512 (strip (reason.getD ""))
      return {
        jobId := jobId
        agencyId := agencyId
        targetUserId := targetUserId
        requestedBy := actorId
        jobType := jobType
        stepUpVerifiedAt := stepUpVerifiedAt
        payload := .obj (if reasonText = "" then [] else [("reason", .str reasonText)]) }

end Create

/-- `_existing_active_job`, the newest. -/
def existingActiveJob (jobs : Dict ℕ ComplianceJob) (agencyId targetUserId : ℕ) (jobType : JobType) :
    Option (ℕ × ComplianceJob) :=
  jobs.reverse.find? fun e => e.2.agencyId == agencyId && e.2.targetUserId == targetUserId &&
    e.2.jobType == jobType && e.2.status.active

/-- The transaction of `_create_job`. -/
def insertJob (jobs : Dict ℕ ComplianceJob) (number : ℕ) (row : ComplianceJob) :
    Except AccountError (Dict ℕ ComplianceJob) :=
  match existingActiveJob jobs row.agencyId row.targetUserId row.jobType with
  | some existing => .error (.jobAlreadyActive
      "An active compliance job already exists for this user and job type." existing.2.jobId)
  | none => .ok (jobs.set number row)

/-! ### Running a job -/

def ComplianceJob.markRunning (row : ComplianceJob) (now : ℕ) : ComplianceJob :=
  { row with status := .running, startedAt := row.startedAt.or (some now), errorCode := "" }

def ComplianceJob.markFailed (env : ComplianceEnv) (row : ComplianceJob) (errorCode : String) (now : ℕ) :
    ComplianceJob :=
  { row with
    status := .failed
    errorCode := firstChars 128 errorCode
    finishedAt := some now
    expiresAt := some (now + env.artifactTtl) }

def digestText (env : ComplianceEnv) (result : Json) : String :=
  Json.dumps env.floatText .compact result.sortKeys

def ComplianceJob.markSucceeded (env : ComplianceEnv) (row : ComplianceJob) (result : Json) (contentType : String)
    (now : ℕ) : ComplianceJob :=
  { row with
    status := .succeeded
    result := result
    artifactContentType := contentType
    artifactSizeBytes := (digestText env result).utf8ByteSize
    artifactSha256 := env.sha256 (digestText env result)
    artifactPath := ""
    finishedAt := some now
    expiresAt := some (now + env.artifactTtl) }

/-- The first section of `run_export_job` and `run_delete_job`: a job that is over is left alone. -/
def ComplianceJob.start (row : ComplianceJob) (now : ℕ) : Option ComplianceJob :=
  if row.status.active then some (row.markRunning now) else none

/-- What `_build_export_payload` reads of a user. -/
structure ExportSubject where
  userId : ℕ
  username : String
  email : String
  firstName : String
  lastName : String
  role : String
  agencyId : Option ℕ
  isActive : Bool
  mfaTotpEnabled : Bool
  sessionsTotal : ℕ
  activeSessions : ℕ

/-- `_build_export_payload`. -/
def exportPayload (row : ComplianceJob) (generatedAt : String) :
    Option ExportSubject → Except AccountError (List (String × Json))
  | none => .error (.notFound "User not found.")
  | some target =>
    match target.agencyId with
    | none => .error (.typeError "int() argument must be a number")
    | some agencyId => .ok [
      ("schema", .str "immoapp.compliance.export.v1"),
      ("job_id", .str row.jobId),
      ("generated_at", .str generatedAt),
      ("subject", .obj [ ("user_id", .int target.userId), ("username", .str target.username),
        ("email", .str target.email),
        ("first_name", .str target.firstName),
        ("last_name", .str target.lastName),
        ("role", .str target.role),
        ("agency_id", .int agencyId),
        ("is_active", .scalar (.bool target.isActive)),
        ("mfa_totp_enabled", .scalar (.bool target.mfaTotpEnabled)),
        ("session_count_total", .int target.sessionsTotal),
        ("session_count_active", .int target.activeSessions)])]

/-- The user that `_run_delete` writes: under a pseudonym and without any right. -/
def User.erased (userId : ℕ) (token : String) (u : User) : User :=
  { u with
    username := firstChars 150 s!"deleted-{userId}-{token}"
    email := ""
    isActive := false
    canImport := false
    canHardDelete := false
    isOwner := false }

/-- The check of `_run_delete` on the user that was found. -/
def runDeleteCheck (target : User) : Bool × AccountError :=
  (target.isSuperuser, .permissionDenied "Cannot run compliance delete for superuser.")

/-- `_run_delete` up to the save: the user that will be written. -/
def prepareErase (userId : ℕ) (token : String) : Option User → Except AccountError User
  | none => .error (.notFound "User not found.")
  | some target => do
    raiseFirst [runDeleteCheck target]
    .ok (target.erased userId token)

/-- What `_run_delete` returns. -/
def deletePayload (row : ComplianceJob) (deletedAt : String) (userId : ℕ) (u : User) :
    Except AccountError (List (String × Json)) :=
  match u.agency with
  | none => .error (.typeError "int() argument must be a number")
  | some agencyId => .ok [
    ("schema", .str "immoapp.compliance.delete.v1"),
    ("job_id", .str row.jobId),
    ("deleted_at", .str deletedAt),
    ("subject", .obj [ ("user_id", .int userId), ("pseudonymized_username", .str u.username),
      ("agency_id", .int agencyId)])]

/-- The scope of `_job_for_actor`. -/
def jobScope (actor : User) (row : ComplianceJob) : Bool × AccountError :=
  (!actor.isSuperuser && actor.agency != some row.agencyId, .permissionDenied "Forbidden agency scope.")

def artifactText (env : ComplianceEnv) (result : Json) : String :=
  Json.dumps env.floatText (.indented 2) (Json.obj ((result.fields?).getD [])).sortKeys

/-- `get_export_artifact` of the row that was found. -/
def getExportArtifact (env : ComplianceEnv) (actor : User) :
    Option ComplianceJob → Except AccountError (String × String)
  | none => .error (.notFound "Compliance job not found.")
  | some row => do
    raiseFirst [jobScope actor row, (row.jobType != .export, .notFound "Export artifact not found."),
      (row.status != .succeeded, .valueError "Export artifact is not ready.")]
    .ok (if row.artifactContentType = "" then "application/json" else row.artifactContentType,
      artifactText env row.result)

section Returned

variable {actorId targetUserId : ℕ} {actor : User} {db : UserDb} {jobs jobs' : Dict ℕ ComplianceJob}

/-- `_create_job` has checked the owner of the agency of the user, who is somebody else where it is deleted. -/
lemma prepareJob_ok {jobType : JobType} {reason : Option String} {stepUpVerifiedAt : ℕ} {jobId : String}
    {row : ComplianceJob}
    (h : prepareJob actorId actor db jobType targetUserId reason stepUpVerifiedAt jobId = .ok row) :
    (requireOwner actor).1 = false ∧ row.targetUserId = targetUserId ∧ row.jobType = jobType ∧
      ∃ target, db.users.get? targetUserId = some target ∧
        ∀ check ∈ createJobChecks actorId actor db jobType targetUserId target, check.1 = false := by
  obtain ⟨howner, h⟩ := raiseFirst_bind_eq_ok_iff.mp h
  refine ⟨howner _ List.mem_cons_self, ?_⟩
  split at h
  · cases h
  · next target htarget =>
    obtain ⟨hchecks, h⟩ := raiseFirst_bind_eq_ok_iff.mp h
    split at h
    · cases h
    · obtain ⟨⟩ := h
      exact ⟨rfl, rfl, target, htarget, hchecks⟩

lemma insertJob_ok {number : ℕ} {row : ComplianceJob} (h : insertJob jobs number row = .ok jobs') :
    jobs' = jobs.set number row := by
  unfold insertJob at h
  split at h
  · cases h
  · exact (Except.ok.inj h).symm

lemma prepareErase_ok {token : String} {found : Option User} {u : User}
    (h : prepareErase targetUserId token found = .ok u) :
    ∃ target, found = some target ∧ u = target.erased targetUserId token := by
  cases found with
  | none => cases h
  | some target =>
    obtain ⟨-, h⟩ := raiseFirst_bind_eq_ok_iff.mp h
    exact ⟨target, rfl, (Except.ok.inj h).symm⟩

end Returned

end ImmoApp.Accounts
