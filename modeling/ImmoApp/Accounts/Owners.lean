import ImmoApp.Accounts.ComplianceJobs
import ImmoApp.Accounts.Hierarchy

/-!
# The owner of an agency

Calls that may take an agency its owner run at the same time: updates and deactivations of users, and jobs that delete
users.  A call is a task with several sections, and a section of one task may come between two of another.

`HasOwner` is the goal, and `OwnerDesk.Safe` the invariant: the owner is there, nobody else owns the agency, and no task
under way, nor a job that waits, takes the ownership or the activity of the owner.  `owner_kept` is the run.
-/

namespace ImmoApp.Accounts

open List Option Dict User UserDb

/-! ### Tasks -/

inductive OwnerCall where
  | updateUser (userId : ℕ) (data : UserUpdateInput)
  | deactivateUser (userId : ℕ)
  | createDeleteJob (targetUserId : ℕ) (reason : Option String) (stepUpVerifiedAt : ℕ) (jobId : String)

inductive SaveStage where
  | loaded
  /-- `full_clean` of the service has passed. -/
  | cleaned
  | validated

inductive OwnerTask where
  | received (actorId : ℕ) (actor : User) (call : OwnerCall)
  /-- A user is being saved, the whole record or the activity only. -/
  | saving (stage : SaveStage) (whole : Bool) (userId : ℕ) (user : User)
  | creating (row : ComplianceJob)
  | running (number userId : ℕ)
  | erasing (number userId : ℕ) (user : User)
  /-- The job is about to be marked, failed where there is no result. -/
  | closing (number : ℕ) (result : Option (List (String × Json)))

/-- The users, the jobs, and the tasks under way. -/
structure OwnerDesk where
  db : UserDb
  jobs : Dict ℕ ComplianceJob
  nextJob : ℕ
  tasks : Dict ℕ OwnerTask
  nextTask : ℕ

inductive OwnerAction where
  | receive (actorId : ℕ) (call : OwnerCall)
  /-- `run_delete_job` of a job: its first section. -/
  | deliver (number now : ℕ)
  /-- The next section of a task, with the time, how it is written, and the token that is drawn. -/
  | advance (task now : ℕ) (isoNow token : String)

section Sections

variable (env : ComplianceEnv) (d : OwnerDesk)

def OwnerCall.nextSection (actorId : ℕ) (actor : User) : OwnerCall → Option OwnerTask
  | .updateUser userId data =>
    ((prepareUpdate actorId actor d.db userId data).toOption).map (.saving .loaded true userId)
  | .deactivateUser userId =>
    ((prepareDeactivate actorId actor d.db userId).toOption).map (.saving .loaded false userId)
  | .createDeleteJob targetUserId reason stepUpVerifiedAt jobId =>
    ((prepareJob actorId actor d.db .delete targetUserId reason stepUpVerifiedAt jobId).toOption).map .creating

/-- `save`: the whole record, or the activity of the one that is there. -/
def UserDb.write (db : UserDb) (whole : Bool) (userId : ℕ) (u : User) : UserDb :=
  if whole then db.put userId u
  else
    match db.users.get? userId with
    | none => db
    | some old => db.put userId { old with isActive := u.isActive }

def OwnerTask.nextSection (now : ℕ) (isoNow token : String) : OwnerTask → OwnerDesk × Option OwnerTask
  | .received actorId actor call => (d, call.nextSection d actorId actor)
  | .saving .loaded whole userId u =>
    (d, ((u.fullClean d.db userId env.toAccountEnv).toOption).map (.saving .cleaned whole userId))
  | .saving .cleaned whole userId u =>
    (d, ((u.normalized.fullClean d.db userId env.toAccountEnv).toOption).map (.saving .validated whole userId))
  | .saving .validated whole userId u => ({ d with db := d.db.write whole userId u }, none)
  | .creating row =>
    match insertJob d.jobs d.nextJob row with
    | .ok jobs => ({ d with jobs := jobs, nextJob := d.nextJob + 1 }, none)
    | .error _ => (d, none)
  | .running number userId =>
    match prepareErase userId token (d.db.users.get? userId) with
    | .ok u => (d, some (.erasing number userId u))
    | .error _ => (d, some (.closing number none))
  | .erasing number userId u =>
    let result := (d.jobs.get? number).bind fun row => (deletePayload row isoNow userId u).toOption
    ({ d with db := d.db.put userId u }, some (.closing number result))
  | .closing number result =>
    match d.jobs.get? number, result with
    | some row, some result =>
      let closed := row.markSucceeded env (.obj result) "application/json" now
      ({ d with jobs := d.jobs.set number closed }, none)
    | some row, none => ({ d with jobs := d.jobs.set number (row.markFailed env "DELETE_FAILED" now) }, none)
    | none, _ => (d, none)

def OwnerDesk.withTask (k : ℕ) : Option OwnerTask → OwnerDesk
  | some task => { d with tasks := d.tasks.set k task }
  | none => { d with tasks := d.tasks.erase k }

def OwnerDesk.spawn (task : OwnerTask) : OwnerDesk :=
  { d with tasks := d.tasks.set d.nextTask task, nextTask := d.nextTask + 1 }

/-- One section.  Superusers do not call, and `run_delete_job` is sent for the jobs of `create_delete_job`. -/
def OwnerDesk.step : OwnerAction → Option OwnerDesk
  | .receive actorId call =>
    match d.db.users.get? actorId with
    | some actor => if actor.isSuperuser then none else some (d.spawn (.received actorId actor call))
    | none => none
  | .deliver number now =>
    match d.jobs.get? number with
    | some row =>
      if row.jobType = .delete then
        match row.start now with
        | some row' =>
          some ({ d with jobs := d.jobs.set number row' }.spawn (.running number row.targetUserId))
        | none => some d
      else none
    | none => none
  | .advance k now isoNow token => (d.tasks.get? k).map fun task =>
    let (d', next) := task.nextSection env d now isoNow token
    d'.withTask k next

end Sections

/-! ### Owners -/

/-- The owner of an agency, with the role of a manager. -/
def User.Owns (agency : ℕ) (u : User) : Prop :=
  u.role = .manager ∧ u.isOwner = true ∧ u.agency = some agency

def UserDb.HasOwner (db : UserDb) (agency : ℕ) : Prop :=
  ∃ id u, db.users.get? id = some u ∧ u.Owns agency ∧ u.isActive = true

structure User.Keeps (agency : ℕ) (u : User) : Prop where
  plain : u.isSuperuser = false
  owner : u.isOwner = true
  active : u.isActive = true
  agency : u.agency = some agency

def OwnerTask.Harmless (agency owner : ℕ) : OwnerTask → Prop
  | .received actorId actor _ => actor.isSuperuser = false ∧ (actor.Owns agency → actorId = owner)
  | .saving stage whole userId u =>
    (userId = owner → whole = true ∧ u.Keeps agency ∧ (stage = .validated → u.role = .manager)) ∧
      (userId ≠ owner → stage = .validated → ¬ u.Owns agency)
  | .creating row => row.targetUserId ≠ owner
  | .running _ userId => userId ≠ owner
  | .erasing _ userId u => userId ≠ owner ∧ u.isOwner = false
  | .closing .. => True

structure OwnerDesk.Safe (agency owner : ℕ) (d : OwnerDesk) : Prop where
  present : ∃ u, d.db.users.get? owner = some u ∧ u.Keeps agency ∧ u.role = .manager
  sole : ∀ id u, id ≠ owner → d.db.users.get? id = some u → ¬ u.Owns agency
  jobs : ∀ e ∈ d.jobs, e.2.jobType = .delete → e.2.status.active = true → e.2.targetUserId ≠ owner
  tasks : ∀ e ∈ d.tasks, e.2.Harmless agency owner

/-- An update that is not refused does not deactivate an owner and does not take the ownership. -/
def OwnerCall.SparesOwner (db : UserDb) (actorId : ℕ) (actor : User) : OwnerCall → Prop
  | .updateUser userId data =>
    (prepareUpdate actorId actor db userId data).isOk = true → ∀ u ∈ db.users.get? userId, u.isOwner = true →
      data.isActive ≠ some false ∧ data.isOwner ≠ some false
  | _ => True

/-- The call whose checks come next spares the owners. -/
def OwnerTask.SparesOwner (db : UserDb) : OwnerTask → Prop
  | .received actorId actor call => call.SparesOwner db actorId actor
  | _ => True

def OwnerDesk.SparesOwner (d : OwnerDesk) : OwnerAction → Prop
  | .advance k .. => ∀ task ∈ d.tasks.get? k, task.SparesOwner d.db
  | _ => True

instance (db : UserDb) (actorId : ℕ) (actor : User) : ∀ call : OwnerCall, Decidable (call.SparesOwner db actorId actor)
  | .updateUser .. => by unfold OwnerCall.SparesOwner; infer_instance
  | .deactivateUser _ | .createDeleteJob .. => .isTrue trivial

instance (db : UserDb) : ∀ task : OwnerTask, Decidable (task.SparesOwner db)
  | .received actorId actor call => inferInstanceAs (Decidable (call.SparesOwner db actorId actor))
  | .saving .. | .creating _ | .running .. | .erasing .. | .closing .. => .isTrue trivial

instance (d : OwnerDesk) : ∀ action, Decidable (d.SparesOwner action)
  | .advance k .. => inferInstanceAs (Decidable (∀ task ∈ d.tasks.get? k, task.SparesOwner d.db))
  | .receive .. | .deliver .. => .isTrue trivial

section Kept

variable {env : ComplianceEnv} {d d' : OwnerDesk} {agency owner actorId userId number k : ℕ} {actor u u' v : User}

/-! ### What is written -/

lemma OwnerDesk.Safe.put (h : d.Safe agency owner)
    (hself : userId = owner → u.Keeps agency ∧ u.role = .manager) (hother : userId ≠ owner → ¬ u.Owns agency) :
    ({ d with db := d.db.put userId u } : OwnerDesk).Safe agency owner where
  present := by
    by_cases heq : owner = userId
    · exact ⟨u, by rw [get?_put, if_pos heq], hself heq.symm⟩
    · obtain ⟨v, hv, hkeeps⟩ := h.present
      exact ⟨v, by rw [get?_put, if_neg heq, hv], hkeeps⟩
  sole id v hne hv := by
    rw [get?_put] at hv
    split at hv
    · next heq =>
      obtain ⟨⟩ := hv
      exact hother (heq ▸ hne)
    · exact h.sole id v hne hv
  jobs := h.jobs
  tasks := h.tasks

variable {whole : Bool} {row : ComplianceJob}

lemma OwnerDesk.Safe.write (h : d.Safe agency owner)
    (htask : (OwnerTask.saving .validated whole userId u).Harmless agency owner) :
    ({ d with db := d.db.write whole userId u } : OwnerDesk).Safe agency owner := by
  obtain ⟨hself, hother⟩ := htask
  cases whole with
  | true =>
    refine h.put (fun heq => ?_) fun hne => hother hne rfl
    obtain ⟨-, hkeeps, hrole⟩ := hself heq
    exact ⟨hkeeps, hrole rfl⟩
  | false =>
    have hne : userId ≠ owner := fun heq => absurd (hself heq).1 (by simp)
    rw [UserDb.write, if_neg (by simp)]
    split
    · exact h
    · next old hold => exact h.put (fun heq => absurd heq hne) fun _ => h.sole userId old hne hold

lemma OwnerDesk.Safe.setJob {nextJob : ℕ} (h : d.Safe agency owner)
    (hrow : row.jobType = .delete → row.status.active = true → row.targetUserId ≠ owner) :
    ({ d with jobs := d.jobs.set number row, nextJob := nextJob } : OwnerDesk).Safe agency owner where
  present := h.present
  sole := h.sole
  jobs e he := by
    rcases mem_set.mp he with rfl | ⟨hold, -⟩
    · exact hrow
    · exact h.jobs e hold
  tasks := h.tasks

lemma OwnerDesk.Safe.withTask {next : Option OwnerTask} (h : d.Safe agency owner)
    (hnext : ∀ task ∈ next, task.Harmless agency owner) : (d.withTask k next).Safe agency owner := by
  cases next with
  | none => exact ⟨h.present, h.sole, h.jobs, fun e he => h.tasks e (mem_erase.mp he).1⟩
  | some task =>
    refine ⟨h.present, h.sole, h.jobs, fun e he => ?_⟩
    rcases mem_set.mp he with rfl | ⟨hold, -⟩
    · exact hnext task rfl
    · exact h.tasks e hold

variable {task : OwnerTask}

lemma OwnerDesk.Safe.spawn (h : d.Safe agency owner) (htask : task.Harmless agency owner) :
    (d.spawn task).Safe agency owner where
  present := h.present
  sole := h.sole
  jobs := h.jobs
  tasks e he := by
    rcases mem_set.mp he with rfl | ⟨hold, -⟩
    · exact htask
    · exact h.tasks e hold

lemma User.Keeps.settled (h : u.Keeps agency) : u.settled.Keeps agency :=
  ⟨by rw [settled_isSuperuser, h.plain], by rw [settled_isOwner, h.owner],
    by rw [settled_isActive, h.active], by rw [settled_agency, h.agency]⟩

lemma User.Keeps.normalized (h : u.Keeps agency) : u.normalized = u := by
  rw [User.normalized, if_neg (by simp [h.plain])]

lemma OwnerDesk.Safe.not_owns (h : d.Safe agency owner) (hne : userId ≠ owner)
    (hclean : u.normalized.fullClean d.db userId env.toAccountEnv = .ok v) : ¬ v.Owns agency := by
  obtain ⟨rfl, hchecks⟩ := fullClean_ok_iff.mp hclean
  rintro ⟨hrole, howner, hagency⟩
  rw [settled_role] at hrole
  rw [settled_isOwner] at howner
  rw [settled_agency] at hagency
  by_cases hsuper : u.isSuperuser = true
  · exact absurd ((normalized_of_superuser hsuper).2.1.symm.trans hrole) (by simp)
  · have hplain : u.normalized.isSuperuser = false := by
      rw [User.normalized, if_neg hsuper]
      simpa using hsuper
    obtain ⟨w, hw, hkeeps, hmanager⟩ := h.present
    have hnot := (Clean.of_checks hplain hchecks).soleOwner howner owner w hne.symm hw
      (hkeeps.agency.trans hagency.symm) hmanager
    exact absurd (hkeeps.owner.symm.trans hnot) (by simp)

lemma OwnerTask.Harmless.clean {db : UserDb} (h : (OwnerTask.saving .loaded whole userId u).Harmless agency owner)
    (hclean : u.fullClean db userId env.toAccountEnv = .ok v) :
    (OwnerTask.saving .cleaned whole userId v).Harmless agency owner := by
  obtain ⟨rfl, -⟩ := fullClean_ok_iff.mp hclean
  refine ⟨fun heq => ?_, fun _ hstage => absurd hstage (by simp)⟩
  obtain ⟨hwhole, hkeeps, -⟩ := h.1 heq
  exact ⟨hwhole, hkeeps.settled, fun hstage => absurd hstage (by simp)⟩

lemma OwnerDesk.Safe.validate (hsafe : d.Safe agency owner)
    (h : (OwnerTask.saving .cleaned whole userId u).Harmless agency owner)
    (hclean : u.normalized.fullClean d.db userId env.toAccountEnv = .ok v) :
    (OwnerTask.saving .validated whole userId v).Harmless agency owner := by
  refine ⟨fun heq => ?_, fun hne _ => hsafe.not_owns hne hclean⟩
  obtain ⟨hwhole, hkeeps, -⟩ := h.1 heq
  rw [hkeeps.normalized] at hclean
  obtain ⟨rfl, hchecks⟩ := fullClean_ok_iff.mp hclean
  refine ⟨hwhole, hkeeps.settled, fun _ => ?_⟩
  rw [settled_role]
  exact (Clean.of_checks hkeeps.plain hchecks).owner hkeeps.owner

/-! ### The sections of a call -/

variable {call : OwnerCall}

lemma OwnerTask.Harmless.eq_owner {target : User} (h : (OwnerTask.received actorId actor call).Harmless agency owner)
    (howner : (requireOwner actor).1 = false) (hsame : (requireSameAgency actor target.agency).1 = false)
    (htarget : target.agency = some agency) : actorId = owner := by
  obtain ⟨hplain, hsole⟩ := h
  obtain ⟨hrole, howns⟩ : actor.role = .manager ∧ actor.isOwner = true := by
    simpa [requireOwner, hplain] using howner
  obtain ⟨-, hagency⟩ : actor.agency.isSome = true ∧ actor.agency = target.agency := by
    simpa [requireSameAgency, hplain] using hsame
  exact hsole ⟨hrole, howns, hagency.trans htarget⟩

section

variable (h : d.Safe agency owner)
include h

lemma OwnerDesk.Safe.prepareUpdate {data : UserUpdateInput}
    (hplain : actor.isSuperuser = false) (hok : prepareUpdate actorId actor d.db userId data = .ok v)
    (hspares : ∀ u ∈ d.db.users.get? userId, u.isOwner = true → data.isActive ≠ some false ∧ data.isOwner ≠ some false) :
    (OwnerTask.saving .loaded true userId v).Harmless agency owner := by
  obtain ⟨-, u, hu, hchecks, rfl⟩ := prepareUpdate_ok hok
  refine ⟨fun heq => ⟨rfl, ?_, fun hstage => absurd hstage (by simp)⟩, fun _ hstage => absurd hstage (by simp)⟩
  obtain ⟨w, hw, hkeeps, -⟩ := h.present
  rw [← heq, hu] at hw
  obtain ⟨⟩ := hw
  obtain ⟨hactive, howner⟩ := hspares u hu hkeeps.owner
  have hagency : data.agencyId = none := by
    simp only [updateUserChecks, forall_mem_append, forall_mem_cons] at hchecks
    obtain ⟨⟨-, -, -, hagency, -⟩, -⟩ := hchecks
    simpa [hplain] using hagency
  refine ⟨hkeeps.plain, ?_, ?_, ?_⟩
  · change data.isOwner.getD u.isOwner = true
    match hgiven : data.isOwner with
    | none => exact hkeeps.owner
    | some true => rfl
    | some false => exact absurd hgiven howner
  · change data.isActive.getD u.isActive = true
    match hgiven : data.isActive with
    | none => exact hkeeps.active
    | some true => rfl
    | some false => exact absurd hgiven hactive
  · change data.agencyId.getD u.agency = some agency
    rw [hagency]
    exact hkeeps.agency

lemma OwnerDesk.Safe.prepareDeactivate
    (hactor : (OwnerTask.received actorId actor (.deactivateUser userId)).Harmless agency owner)
    (hok : prepareDeactivate actorId actor d.db userId = .ok v) :
    (OwnerTask.saving .loaded false userId v).Harmless agency owner := by
  obtain ⟨howner, hne, u, hu, hsame, rfl⟩ := prepareDeactivate_ok hok
  refine ⟨fun heq => ?_, fun _ hstage => absurd hstage (by simp)⟩
  obtain ⟨w, hw, hkeeps, -⟩ := h.present
  rw [← heq, hu] at hw
  obtain ⟨⟩ := hw
  exact absurd ((hactor.eq_owner howner hsame hkeeps.agency).trans heq.symm) hne

lemma OwnerDesk.Safe.prepareJob {reason : Option String} {stepUpVerifiedAt : ℕ} {jobId : String}
    (hactor : (OwnerTask.received actorId actor (.createDeleteJob userId reason stepUpVerifiedAt jobId)).Harmless
      agency owner)
    (hok : prepareJob actorId actor d.db .delete userId reason stepUpVerifiedAt jobId = .ok row) :
    row.targetUserId ≠ owner := by
  obtain ⟨howner, htarget, -, u, hu, hchecks⟩ := prepareJob_ok hok
  intro heq
  simp only [createJobChecks, forall_mem_cons] at hchecks
  obtain ⟨hsame, hself, -⟩ := hchecks
  obtain ⟨w, hw, hkeeps, -⟩ := h.present
  rw [← heq, htarget, hu] at hw
  obtain ⟨⟩ := hw
  have hactorId := hactor.eq_owner howner hsame hkeeps.agency
  have hne : userId ≠ actorId := by simpa using hself
  exact hne (htarget.symm.trans (heq.trans hactorId.symm))

lemma OwnerDesk.Safe.nextSection (hactor : (OwnerTask.received actorId actor call).Harmless agency owner)
    (hspares : call.SparesOwner d.db actorId actor) :
    ∀ task ∈ call.nextSection d actorId actor, task.Harmless agency owner := by
  intro task htask
  cases call with
  | updateUser =>
    obtain ⟨v, hv, rfl⟩ := map_eq_some_iff.mp htask
    have hok := eq_ok_of_toOption hv
    exact h.prepareUpdate hactor.1 hok (hspares (by rw [hok]; rfl))
  | deactivateUser =>
    obtain ⟨v, hv, rfl⟩ := map_eq_some_iff.mp htask
    exact h.prepareDeactivate hactor (eq_ok_of_toOption hv)
  | createDeleteJob =>
    obtain ⟨_, hrow, rfl⟩ := map_eq_some_iff.mp htask
    exact h.prepareJob hactor (eq_ok_of_toOption hrow)

end

/-! ### Steps -/

lemma OwnerDesk.Safe.section_task {now : ℕ} {isoNow token : String} (h : d.Safe agency owner)
    (htask : task.Harmless agency owner) (hspares : task.SparesOwner d.db) :
    (task.nextSection env d now isoNow token).1.Safe agency owner ∧
      ∀ next ∈ (task.nextSection env d now isoNow token).2, next.Harmless agency owner := by
  cases task with
  | received =>
    exact ⟨h, h.nextSection htask hspares⟩
  | saving stage =>
    cases stage with
    | loaded =>
      refine ⟨h, fun next hnext => ?_⟩
      obtain ⟨v, hv, rfl⟩ := map_eq_some_iff.mp hnext
      exact htask.clean (eq_ok_of_toOption hv)
    | cleaned =>
      refine ⟨h, fun next hnext => ?_⟩
      obtain ⟨v, hv, rfl⟩ := map_eq_some_iff.mp hnext
      exact h.validate htask (eq_ok_of_toOption hv)
    | validated => exact ⟨h.write htask, fun next hnext => absurd hnext (by simp [OwnerTask.nextSection])⟩
  | creating =>
    rw [OwnerTask.nextSection]
    split
    · next jobs hjobs =>
      rw [insertJob_ok hjobs]
      exact ⟨h.setJob fun _ _ => htask, fun next hnext => absurd hnext (by simp)⟩
    · exact ⟨h, fun next hnext => absurd hnext (by simp)⟩
  | running =>
    rw [OwnerTask.nextSection]
    split
    · next u hu =>
      obtain ⟨_, -, rfl⟩ := prepareErase_ok hu
      exact ⟨h, by rintro next ⟨rfl⟩; exact ⟨htask, rfl⟩⟩
    · exact ⟨h, by rintro next ⟨rfl⟩; trivial⟩
  | erasing =>
    obtain ⟨hne, hnot⟩ := htask
    refine ⟨h.put (fun heq => absurd heq hne) fun _ howns => ?_, by rintro next ⟨rfl⟩; trivial⟩
    exact absurd (howns.2.1.symm.trans hnot) (by simp)
  | closing =>
    unfold OwnerTask.nextSection
    dsimp only
    split
    · exact ⟨h.setJob fun _ hactive => absurd hactive (by simp [ComplianceJob.markSucceeded, JobStatus.active]),
        fun next hnext => absurd hnext (by simp)⟩
    · exact ⟨h.setJob fun _ hactive => absurd hactive (by simp [ComplianceJob.markFailed, JobStatus.active]),
        fun next hnext => absurd hnext (by simp)⟩
    · exact ⟨h, fun next hnext => absurd hnext (by simp)⟩

lemma OwnerDesk.Safe.step {action : OwnerAction} (h : d.Safe agency owner) (hspares : d.SparesOwner action)
    (hstep : d.step env action = some d') : d'.Safe agency owner := by
  cases action with
  | receive actorId =>
    unfold OwnerDesk.step at hstep
    dsimp only at hstep
    split at hstep
    · next actor hactor =>
      split at hstep
      · cases hstep
      · next hplain =>
        obtain ⟨⟩ := hstep
        refine h.spawn ⟨by simpa using hplain, fun howns => ?_⟩
        by_contra hne
        exact h.sole actorId actor hne hactor howns
    · cases hstep
  | deliver number now =>
    unfold OwnerDesk.step at hstep
    dsimp only at hstep
    split at hstep
    · next row hrow =>
      split at hstep
      · next htype =>
        split at hstep
        · next row' hstart =>
          obtain ⟨⟩ := hstep
          -- a job that may run is not about the owner
          have hactive : row.status.active = true := by
            by_contra hover
            rw [ComplianceJob.start, if_neg hover] at hstart
            cases hstart
          have hne := h.jobs _ (mem_of_get? hrow) htype hactive
          rw [ComplianceJob.start, if_pos hactive] at hstart
          obtain ⟨⟩ := hstart
          have hset : ({ d with jobs := d.jobs.set number (row.markRunning now) } : OwnerDesk).Safe agency owner :=
            h.setJob fun _ _ => hne
          exact hset.spawn hne
        · obtain ⟨⟩ := hstep
          exact h
      · cases hstep
    · cases hstep
  | advance k now isoNow token =>
    obtain ⟨task, htask, rfl⟩ := map_eq_some_iff.mp hstep
    obtain ⟨hafter, hnext⟩ : (task.nextSection env d now isoNow token).1.Safe agency owner ∧ _ :=
      h.section_task (h.tasks _ (mem_of_get? htask)) (hspares task htask)
    exact hafter.withTask hnext

end Kept

/-- An agency that has an active owner has one in every state, whatever the calls of its users and the jobs that
delete users, and however their sections follow each other, if no update takes the activity or the ownership of
the owner. -/
theorem owner_kept (env : ComplianceEnv) {agency owner : ℕ} {d d' : OwnerDesk} {actions : List OwnerAction} {u : User}
    (hpresent : d.db.users.get? owner = some u) (howns : u.Owns agency) (hactive : u.isActive = true)
    (hplain : u.isSuperuser = false)
    (hsole : ∀ id v, id ≠ owner → d.db.users.get? id = some v → ¬ v.Owns agency)
    (hjobs : ∀ e ∈ d.jobs, e.2.jobType = .delete → e.2.status.active = true → e.2.targetUserId ≠ owner)
    (hidle : d.tasks = [])
    (hspares : Guarded (OwnerDesk.step env) OwnerDesk.SparesOwner d actions)
    (hrun : run (OwnerDesk.step env) d actions = some d') : d'.db.HasOwner agency := by
  obtain ⟨hrole, howner, hagency⟩ := howns
  have hstart : d.Safe agency owner :=
    { present := ⟨u, hpresent, ⟨hplain, howner, hactive, hagency⟩, hrole⟩, sole := hsole, jobs := hjobs
      tasks := fun e he => absurd he (by simp [hidle]) }
  have hsafe : d'.Safe agency owner :=
    run_invariant (P := OwnerDesk.Safe agency owner) (fun _ _ _ h hspares hstep => h.step hspares hstep) hstart
      hspares hrun
  obtain ⟨v, hv, hkeeps, hmanager⟩ := hsafe.present
  exact ⟨owner, v, hv, ⟨hmanager, hkeeps.owner, hkeeps.agency⟩, hkeeps.active⟩

/-! ### An owner and a manager -/

def complianceEnv : ComplianceEnv where
  toAccountEnv := plainEnv.toAccountEnv
  floatText _ := "0.0"
  sha256 := id
  artifactTtl := 604800

def oliveUser : User where
  username := "olive"
  email := ""
  role := .manager
  agency := some 1
  manager := none
  isOwner := true

/-- The owner and a manager, and nothing under way. -/
def ownerDesk : OwnerDesk := ⟨(platformDb.put 2 oliveUser).put 3 marc, [], 0, [], 0⟩

lemma ownerDesk_sole (id : ℕ) (v : User) (hne : id ≠ 2) (hv : ownerDesk.db.users.get? id = some v) : ¬ v.Owns 1 := by
  rintro ⟨hrole, howner, -⟩
  rw [ownerDesk, get?_put, get?_put, if_neg hne] at hv
  split at hv
  · obtain ⟨⟩ := hv
    exact absurd howner (by decide)
  · have hone : (id, v) ∈ [(1, root)] := Keyed.mem_entries_iff.mpr hv
    obtain ⟨-, rfl⟩ := Prod.mk.inj (mem_singleton.mp hone)
    exact absurd hrole (by decide)

def saveSections (task : ℕ) : List OwnerAction := List.replicate 4 (.advance task 0 "" "")

/-- The owner deactivates the manager while changing the own address. -/
theorem owner_kept_changes : ∃ d', run (OwnerDesk.step complianceEnv) ownerDesk
    (.receive 2 (.updateUser 2 { email := some "olive@example.org" }) :: .receive 2 (.deactivateUser 3) ::
      (saveSections 1 ++ saveSections 0)) = some d' ∧
    d'.db.users.get? 3 = some { marc with isActive := false } ∧ d'.db.HasOwner 1 := by
  obtain ⟨d', hrun, hmarc⟩ := map_eq_some_iff.mp (by decide +kernel : (run (OwnerDesk.step complianceEnv) ownerDesk
      (.receive 2 (.updateUser 2 { email := some "olive@example.org" }) :: .receive 2 (.deactivateUser 3) ::
        (saveSections 1 ++ saveSections 0))).map
          (fun d => d.db.users.get? 3) = some (some { marc with isActive := false }))
  have hpresent : ownerDesk.db.users.get? 2 = some oliveUser := by decide +kernel
  exact ⟨d', hrun, hmarc, owner_kept complianceEnv hpresent ⟨rfl, rfl, rfl⟩ rfl rfl ownerDesk_sole
    (fun _ he => absurd he not_mem_nil) rfl (by decide +kernel) hrun⟩

theorem owner_deactivates_himself : ownerDesk.db.HasOwner 1 ∧ ∃ d', run (OwnerDesk.step complianceEnv) ownerDesk
    (.receive 2 (.updateUser 2 { isActive := some false }) :: saveSections 0) = some d' ∧ ¬ d'.db.HasOwner 1 := by
  obtain ⟨d', hrun, husers⟩ := map_eq_some_iff.mp (by decide +kernel : (run (OwnerDesk.step complianceEnv) ownerDesk
      (.receive 2 (.updateUser 2 { isActive := some false }) :: saveSections 0)).map
        (fun d => d.db.users.entries) = some [(1, root), (2, { oliveUser with isActive := false }), (3, marc)])
  refine ⟨⟨2, oliveUser, by decide +kernel, ⟨rfl, rfl, rfl⟩, rfl⟩, d', hrun, ?_⟩
  rintro ⟨_, u, hu, ⟨-, howner, -⟩, hactive⟩
  have hmem := husers ▸ Keyed.mem_entries_iff.mpr hu
  simp only [mem_cons, Prod.mk.injEq, not_mem_nil, or_false] at hmem
  rcases hmem with ⟨-, rfl⟩ | ⟨-, rfl⟩ | ⟨-, rfl⟩
  · exact absurd howner (by decide)
  · exact absurd hactive (by decide)
  · exact absurd howner (by decide)

end ImmoApp.Accounts
