import ImmoApp.Accounts.Users
import ImmoApp.Foundation.Text

/-!
# Creating, updating and deactivating users

The services act for a user who is logged in, the actor.  A manager who is no owner acts on own agents only, an
owner on the users of the agency, a superuser on everybody.  Each service makes its checks, and `full_clean` the
rules on the user to be saved; a service that raises is rolled back.

There are two invitations: one creates an inactive user at once, the other an invite that a user is created
from when the code is sent back.
-/

namespace ImmoApp.Accounts

open List

section Checks

variable (actorId : ℕ) (actor : User)

def requireManager : Bool × AccountError :=
  (!actor.isSuperuser && actor.role != .manager, .permissionDenied "Manager access required.")

def requireOwner : Bool × AccountError :=
  (!actor.isSuperuser && !(actor.role == .manager && actor.isOwner), .permissionDenied "Owner access required.")

def ensureRoleAllowed (role : Role) : List (Bool × AccountError) :=
  if actor.isSuperuser then []
  else
    (role == .superAdmin, .permissionDenied "Only superusers can assign super_admin role.") ::
    if actor.isOwner then
      [(role != .manager && role != .agent, .permissionDenied "Owner can only assign manager or agent roles.")]
    else [(role != .agent, .permissionDenied "Managers may only create or update agents.")]

def requireSameAgency (agency : Option ℕ) : Bool × AccountError :=
  (!actor.isSuperuser && (actor.agency.isNone || actor.agency != agency),
    .permissionDenied "User is outside your agency.")

def ensureManagerIsOwner (field : String) : Bool × AccountError :=
  (!actor.isSuperuser && !actor.isOwner, .permissionDenied s!"Only an agency owner can modify {field}.")

def ensureManagerTargetRole (target : User) : Bool × AccountError :=
  (!actor.isSuperuser && !actor.isOwner && target.role != .agent,
    .permissionDenied "Managers may only manage agents.")

def ensureManagerOwnsAgent (target : User) : Bool × AccountError :=
  (!actor.isSuperuser && !actor.isOwner && target.manager != some actorId,
    .permissionDenied "Managers may only manage their own agents.")

def resolveManagerId (desired : Option ℕ) : Option ℕ :=
  if actor.isSuperuser || actor.isOwner then desired else some actorId

/-- `validate_manager_assignment` of a manager that is given. -/
def validateManagerAssignment (db : UserDb) (manager agency : Option ℕ) : List (Bool × AccountError) :=
  [((manager.bind db.users.get?).isNone, .notFound "Manager not found."),
    (db.userIs manager fun m => m.role != .manager, .valueError "Assigned manager must have role manager."),
    (agency.isSome && db.userIs manager fun m => m.agency != agency,
      .permissionDenied "Manager must belong to the same agency.")]

def managerFor (role : Role) (desired : Option ℕ) : Option ℕ :=
  if role = .manager then none else resolveManagerId actorId actor desired

def managerForChecks (db : UserDb) (role : Role) (desired agency : Option ℕ) : List (Bool × AccountError) :=
  if role = .manager then []
  else
    ((resolveManagerId actorId actor desired).isNone, .permissionDenied "Agent must have a manager.") ::
      validateManagerAssignment db (resolveManagerId actorId actor desired) agency

end Checks

/-! ### Users -/

/-- `UserCreateInput`; a role that is not given is that of an agent. -/
structure UserCreateInput where
  username : String
  email : String := ""
  password : String
  role : Role := .agent
  isOwner : Bool := false
  managerId : Option ℕ := none
  isActive : Bool := true
  canImport : Bool := false
  canHardDelete : Bool := false
  agencyId : Option ℕ := none

/-- `UserUpdateInput`: what is not given stays. -/
structure UserUpdateInput where
  role : Option Role := none
  isOwner : Option Bool := none
  managerId : Option (Option ℕ) := none
  email : Option String := none
  isActive : Option Bool := none
  canImport : Option Bool := none
  canHardDelete : Option Bool := none
  agencyId : Option (Option ℕ) := none

section Users

variable (env : AccountEnv) (actorId : ℕ) (actor : User) (db : UserDb)

def agencyFor (agencyId : Option ℕ) : Option ℕ := if actor.isSuperuser then agencyId else actor.agency

def newUserChecks (role : Role) (managerId agencyId : Option ℕ) : List (Bool × AccountError) :=
  requireManager actor :: ensureRoleAllowed actor role ++
    ((agencyFor actor agencyId).isNone, .permissionDenied "Agency is required.") ::
    managerForChecks actorId actor db role managerId (agencyFor actor agencyId)

def UserCreateInput.user (data : UserCreateInput) : User where
  username := data.username
  email := data.email
  role := data.role
  agency := agencyFor actor data.agencyId
  manager := managerFor actorId actor data.role data.managerId
  isOwner := data.isOwner
  isActive := data.isActive
  canImport := data.canImport
  canHardDelete := data.canHardDelete
  importGrantedBy := if data.role = .agent && data.canImport then some actorId else none

/-- The checks of `create_user`. -/
def createUserChecks (data : UserCreateInput) : List (Bool × AccountError) :=
  newUserChecks actorId actor db data.role data.managerId data.agencyId ++
    [(data.isOwner && (ensureManagerIsOwner actor "is_owner").1, (ensureManagerIsOwner actor "is_owner").2),
      (data.canHardDelete && (ensureManagerIsOwner actor "can_hard_delete").1,
        (ensureManagerIsOwner actor "can_hard_delete").2),
      (data.password == "", .valueError "password is required")]

def createUser (data : UserCreateInput) : Except AccountError UserDb := do
  raiseFirst (createUserChecks actorId actor db data)
  let u ← (data.user actorId actor).fullClean db db.nextId env
  u.save db db.nextId env

/-- The checks of `update_user` on a user that was found. -/
def updateUserChecks (u : User) (data : UserUpdateInput) : List (Bool × AccountError) :=
  [requireSameAgency actor u.agency, ensureManagerTargetRole actor u, ensureManagerOwnsAgent actorId actor u] ++
    (data.role.map (ensureRoleAllowed actor)).getD [] ++
    [(data.isOwner.isSome && (ensureManagerIsOwner actor "is_owner").1, (ensureManagerIsOwner actor "is_owner").2),
      (data.canHardDelete.isSome && (ensureManagerIsOwner actor "can_hard_delete").1,
        (ensureManagerIsOwner actor "can_hard_delete").2),
      (data.agencyId.isSome && !actor.isSuperuser, .permissionDenied "Only superusers can change agency.")] ++
    managerForChecks actorId actor db (data.role.getD u.role) (data.managerId.getD u.manager) u.agency

/-- `apply_user_fields`, and who granted the import. -/
def UserUpdateInput.apply (data : UserUpdateInput) (u : User) : User :=
  let role := data.role.getD u.role
  let canImport := data.canImport.getD u.canImport
  { u with
    email := data.email.getD u.email
    isActive := data.isActive.getD u.isActive
    canImport := canImport
    canHardDelete := data.canHardDelete.getD u.canHardDelete
    role := role
    manager := managerFor actorId actor role (data.managerId.getD u.manager)
    isOwner := data.isOwner.getD u.isOwner
    agency := data.agencyId.getD u.agency
    importGrantedBy :=
      if role = .agent && canImport then some actorId
      else if role = .manager then none
      else u.importGrantedBy }

/-- `update_user` up to its transaction: the user to be saved. -/
def prepareUpdate (userId : ℕ) (data : UserUpdateInput) : Except AccountError User := do
  raiseFirst [requireManager actor]
  match db.users.get? userId with
  | none => .error (.notFound "User not found.")
  | some u =>
    raiseFirst (updateUserChecks actorId actor db u data)
    .ok (data.apply actorId actor u)

/-- The transaction of `update_user`. -/
def saveUpdate (userId : ℕ) (u : User) : Except AccountError UserDb := do
  let u ← u.fullClean db userId env
  u.save db userId env

def updateUser (userId : ℕ) (data : UserUpdateInput) : Except AccountError UserDb := do
  let u ← prepareUpdate actorId actor db userId data
  saveUpdate env db userId u

/-- `deactivate_user` up to its transaction: the user to be deactivated. -/
def prepareDeactivate (userId : ℕ) : Except AccountError User := do
  raiseFirst [requireOwner actor]
  match db.users.get? userId with
  | none => .error (.notFound "User not found.")
  | some u =>
    raiseFirst [requireSameAgency actor u.agency,
      (actorId == userId, .permissionDenied "You cannot deactivate yourself.")]
    .ok { u with isActive := false }

/-- The transaction of `deactivate_user`: the whole user is checked, and only `is_active` is written. -/
def saveDeactivated (userId : ℕ) (u : User) : Except AccountError UserDb := do
  let u ← u.fullClean db userId env
  let _ ← u.normalized.fullClean db userId env
  match db.users.get? userId with
  | none => .error (.notFound "User not found.")
  | some old => .ok (db.put userId { old with isActive := false })

def deactivateUser (userId : ℕ) : Except AccountError UserDb := do
  let u ← prepareDeactivate actorId actor db userId
  saveDeactivated env db userId u

/-- `create_user_invite` of `user_auth_lifecycle`: the user is created and inactive. -/
def inviteUser (data : UserCreateInput) : Except AccountError UserDb := do
  raiseFirst (newUserChecks actorId actor db data.role data.managerId data.agencyId)
  let u ← ({ data with isActive := false }.user actorId actor).fullClean db db.nextId env
  u.save db db.nextId env

end Users

/-! ### Invites -/

inductive InviteStatus where
  | pending
  | accepted
  deriving DecidableEq

structure UserInvite where
  agencyId : ℕ
  invitedBy : ℕ
  inviteEmail : String
  role : Role
  managerId : Option ℕ
  inviteCodeHash : String
  status : InviteStatus
  expiresAt : ℕ

structure InviteEnv extends AccountEnv where
  /-- `__iexact`: the addresses are the same, upper or lower case. -/
  sameEmail : String → String → Bool
  lower : String → String
  upper : String → String
  sha256 : String → String
  /-- `_invite_expiry_hours`, in the unit of the times. -/
  inviteExpiry : Option ℕ → ℕ
  validPassword : String → Bool

structure InviteInput where
  isOwner : Bool := false
  role : Role
  managerId : Option ℕ := none
  email : String
  inviteName : String := ""
  firstName : String := ""
  lastName : String := ""
  /-- The name to log in with, read where these are empty too. -/
  username : String := ""
  expiresSeconds : Option ℕ := none

section Invites

variable (env : InviteEnv) (actorId : ℕ) (actor : User) (db : UserDb)

/-- `_assert_invite_role_constraints`. -/
def inviteRoleConstraints (role : Role) (managerId : Option ℕ) : List (Bool × AccountError) :=
  [(role == .agent && managerId.isNone, .valueError "manager_id is required for agent invites."),
    (role == .manager && managerId.isSome, .valueError "manager_id must be null for manager invites."),
    (role != .agent && role != .manager, .valueError "role must be agent or manager.")]

def emailTaken (email : String) : Bool := 0 < db.users.count fun _ u => env.sameEmail u.email email

def InviteInput.manager (data : InviteInput) : Option ℕ :=
  if data.role = .agent then resolveManagerId actorId actor data.managerId else data.managerId

def InviteInput.name (data : InviteInput) : String :=
  let fullName := strip s!"{strip data.firstName} {strip data.lastName}"
  if strip data.inviteName != "" then strip data.inviteName
  else if fullName != "" then fullName
  else strip data.username

/-- The checks of `create_user_invite`. -/
def createInviteChecks (data : InviteInput) : List (Bool × AccountError) :=
  [requireManager actor, ensureManagerIsOwner actor "invite_create",
    (data.isOwner, .valueError "Invites cannot grant owner access."),
    (actor.agency.isNone, .permissionDenied "Actor agency is required.")] ++
    (if data.role = .agent then
      ((data.manager actorId actor).isNone, .valueError "manager_id is required for agent invites.") ::
        validateManagerAssignment db (data.manager actorId actor) actor.agency
    else []) ++
    inviteRoleConstraints data.role (data.manager actorId actor) ++
    [(strip data.email == "", .valueError "email is required."), (emailTaken env db (env.lower (strip data.email)),
        .valueError "A user with this email already exists."),
      (data.name == "", .valueError "invite_name is required.")]

/-- `create_user_invite` of the registration, with the code that was drawn. -/
def createUserInvite (data : InviteInput) (code : String) (now : ℕ) : Except AccountError UserInvite := do
  raiseFirst (createInviteChecks env actorId actor db data)
  match actor.agency with
  | none => .error (.permissionDenied "Actor agency is required.")
  | some agencyId =>
    return {
      agencyId := agencyId
      invitedBy := actorId
      inviteEmail := env.lower (strip data.email)
      role := data.role
      managerId := data.manager actorId actor
      inviteCodeHash := env.sha256 code
      status := .pending
      expiresAt := now + env.inviteExpiry data.expiresSeconds }

def findInvite (invites : Dict ℕ UserInvite) (inviteCode email : String) (now : ℕ) : Option (ℕ × UserInvite) :=
  let found := (invites.filter fun e => env.sameEmail e.2.inviteEmail (env.lower (strip email)) &&
    e.2.inviteCodeHash == env.sha256 (env.upper (strip inviteCode)) && e.2.status == .pending).reverse
  (found.find? fun e => now < e.2.expiresAt).or found.head?

def UserInvite.user (invite : UserInvite) (email : String) : User where
  username := email
  email := email
  role := invite.role
  agency := some invite.agencyId
  manager := invite.managerId

/-- `accept_invite`: the invite and the table with its user. -/
def acceptInvite (invites : Dict ℕ UserInvite) (inviteCode email password : String) (now : ℕ) :
    Except AccountError (ℕ × UserInvite × UserDb) := do
  match findInvite env invites inviteCode email now with
  | none => .error (.permissionDenied "Invalid invite code.")
  | some (number, invite) =>
    let address := env.lower (strip email)
    raiseFirst ((decide (invite.expiresAt ≤ now), .permissionDenied "Invite code expired.") ::
      inviteRoleConstraints invite.role invite.managerId ++
      [(emailTaken env db address, .valueError "A user with this email already exists."),
        (!env.validPassword password, .validation "password" "This password is not accepted.")])
    let u ← (invite.user address).fullClean db db.nextId env.toAccountEnv
    let db' ← u.save db db.nextId env.toAccountEnv
    .ok (number, { invite with status := .accepted, inviteCodeHash := "" }, db')

end Invites

inductive AccountRequest where
  | createUser (data : UserCreateInput)
  | updateUser (userId : ℕ) (data : UserUpdateInput)
  | deactivateUser (userId : ℕ)
  /-- `create_user_invite` of `user_auth_lifecycle`. -/
  | inviteUser (data : UserCreateInput)
  /-- `create_user_invite` of the registration. -/
  | createUserInvite (data : InviteInput) (code : String) (now : ℕ)

inductive AccountCall where
  | request (actorId : ℕ) (request : AccountRequest)
  /-- `accept_invite`, of nobody who is logged in. -/
  | acceptInvite (inviteCode email password : String) (now : ℕ)

structure AccountDesk where
  db : UserDb
  invites : Dict ℕ UserInvite
  nextInvite : ℕ

namespace AccountDesk

variable (env : InviteEnv) (d : AccountDesk)

def withDb (db : UserDb) : AccountDesk := { d with db := db }

def perform (actorId : ℕ) (actor : User) : AccountRequest → Except AccountError AccountDesk
  | .createUser data => (createUser env.toAccountEnv actorId actor d.db data).map d.withDb
  | .updateUser userId data => (updateUser env.toAccountEnv actorId actor d.db userId data).map d.withDb
  | .deactivateUser userId => (deactivateUser env.toAccountEnv actorId actor d.db userId).map d.withDb
  | .inviteUser data => (inviteUser env.toAccountEnv actorId actor d.db data).map d.withDb
  | .createUserInvite data code now => do
    let invite ← createUserInvite env actorId actor d.db data code now
    return { d with invites := d.invites.set d.nextInvite invite, nextInvite := d.nextInvite + 1 }

/-- `accept_invite`. -/
def accept (inviteCode email password : String) (now : ℕ) : Except AccountError AccountDesk := do
  let (number, invite, db) ← acceptInvite env d.db d.invites inviteCode email password now
  return { d with db := db, invites := d.invites.set number invite }

def answer : AccountCall → Option (Except AccountError AccountDesk)
  | .request actorId request => (d.db.users.get? actorId).map fun actor => d.perform env actorId actor request
  | .acceptInvite inviteCode email password now => some (d.accept env inviteCode email password now)

/-- One call.  A call that raises is rolled back. -/
def step (call : AccountCall) : Option AccountDesk :=
  (d.answer env call).map fun result => (result.toOption).getD d

end AccountDesk

/-! ### Services that return -/

section Returned

variable {env : AccountEnv} {actorId userId : ℕ} {actor u : User} {db db' : UserDb}

variable {data : UserCreateInput} {u' : User} {now : ℕ} {inviteCode email : String}

lemma createUser_ok (h : createUser env actorId actor db data = .ok db') :
    (∀ check ∈ createUserChecks actorId actor db data, check.1 = false) ∧
      (data.user actorId actor).settled.Clean db db.nextId ∧
      db' = db.put db.nextId (data.user actorId actor).settled := by
  obtain ⟨hchecks, h⟩ := raiseFirst_bind_eq_ok_iff.mp h
  exact ⟨hchecks, User.fullClean_save_ok rfl h⟩

lemma inviteUser_ok (h : inviteUser env actorId actor db data = .ok db') :
    (∀ check ∈ newUserChecks actorId actor db data.role data.managerId data.agencyId, check.1 = false) ∧
      ({ data with isActive := false }.user actorId actor).settled.Clean db db.nextId ∧
      db' = db.put db.nextId ({ data with isActive := false }.user actorId actor).settled := by
  obtain ⟨hchecks, h⟩ := raiseFirst_bind_eq_ok_iff.mp h
  exact ⟨hchecks, User.fullClean_save_ok rfl h⟩

lemma prepareUpdate_ok {data : UserUpdateInput} (h : prepareUpdate actorId actor db userId data = .ok u') :
    (requireManager actor).1 = false ∧ ∃ u, db.users.get? userId = some u ∧
      (∀ check ∈ updateUserChecks actorId actor db u data, check.1 = false) ∧
      u' = data.apply actorId actor u := by
  obtain ⟨hmanager, h⟩ := raiseFirst_bind_eq_ok_iff.mp h
  refine ⟨hmanager _ mem_cons_self, ?_⟩
  split at h
  · cases h
  · next u hu =>
    obtain ⟨hchecks, h⟩ := raiseFirst_bind_eq_ok_iff.mp h
    exact ⟨u, hu, hchecks, (Except.ok.inj h).symm⟩

lemma prepareDeactivate_ok (h : prepareDeactivate actorId actor db userId = .ok u') :
    (requireOwner actor).1 = false ∧ actorId ≠ userId ∧ ∃ u, db.users.get? userId = some u ∧
      (requireSameAgency actor u.agency).1 = false ∧ u' = { u with isActive := false } := by
  obtain ⟨howner, h⟩ := raiseFirst_bind_eq_ok_iff.mp h
  refine ⟨howner _ mem_cons_self, ?_⟩
  split at h
  · cases h
  · next u hu =>
    obtain ⟨hchecks, h⟩ := raiseFirst_bind_eq_ok_iff.mp h
    simp only [forall_mem_cons, not_mem_nil, false_implies, implies_true, and_true, beq_eq_false_iff_ne] at hchecks
    exact ⟨hchecks.2, u, hu, hchecks.1, (Except.ok.inj h).symm⟩

/-- Only the activity of a deactivated user is written; a user who is no superuser has passed the rules. -/
lemma saveDeactivated_ok (h : saveDeactivated env db userId u = .ok db') :
    (u.isSuperuser = false → u.Clean db userId) ∧
      ∃ old, db.users.get? userId = some old ∧ db' = db.put userId { old with isActive := false } := by
  obtain ⟨v, hv, h⟩ := bind_eq_ok_iff.mp h
  obtain ⟨w, -, h⟩ := bind_eq_ok_iff.mp h
  refine ⟨fun hsuper => User.Clean.of_checks hsuper (User.fullClean_ok_iff.mp hv).2, ?_⟩
  split at h
  · cases h
  · next old hold => exact ⟨old, hold, (Except.ok.inj h).symm⟩

lemma createUserInvite_ok {env : InviteEnv} {data : InviteInput} {code : String} {invite : UserInvite}
    (h : createUserInvite env actorId actor db data code now = .ok invite) :
    (∀ check ∈ createInviteChecks env actorId actor db data, check.1 = false) ∧
      actor.agency = some invite.agencyId := by
  obtain ⟨hchecks, h⟩ := raiseFirst_bind_eq_ok_iff.mp h
  refine ⟨hchecks, ?_⟩
  split at h
  · cases h
  · next agencyId hagency =>
    obtain ⟨⟩ := h
    exact hagency

variable {invites : Dict ℕ UserInvite}

lemma findInvite_eq_some {env : InviteEnv}
    {e : ℕ × UserInvite} (h : findInvite env invites inviteCode email now = some e) :
    e ∈ invites ∧ e.2.status = .pending := by
  have hmem : ∀ found : List (ℕ × UserInvite),
      (found.find? fun e => decide (now < e.2.expiresAt)).or found.head? = some e → e ∈ found := by
    intro found hfound
    rcases Option.or_eq_some_iff.mp hfound with hfind | ⟨-, hhead⟩
    · exact mem_of_find?_eq_some hfind
    · exact mem_of_head? hhead
  obtain ⟨hin, hconditions⟩ := mem_filter.mp (mem_reverse.mp (hmem _ h))
  simp only [Bool.and_eq_true, beq_iff_eq] at hconditions
  exact ⟨hin, hconditions.2⟩

lemma acceptInvite_ok {env : InviteEnv} {password : String}
    {number : ℕ} {invite' : UserInvite}
    (h : acceptInvite env db invites inviteCode email password now = .ok (number, invite', db')) :
    ∃ invite, findInvite env invites inviteCode email now = some (number, invite) ∧
      invite' = { invite with status := .accepted, inviteCodeHash := "" } ∧
      (invite.user (env.lower (strip email))).settled.Clean db db.nextId ∧
      db' = db.put db.nextId (invite.user (env.lower (strip email))).settled := by
  unfold acceptInvite at h
  split at h
  · cases h
  · next number₀ invite hfind =>
    obtain ⟨-, h⟩ := raiseFirst_bind_eq_ok_iff.mp h
    rw [← bind_assoc] at h
    obtain ⟨_, hsave, h⟩ := bind_eq_ok_iff.mp h
    obtain ⟨hclean, rfl⟩ := User.fullClean_save_ok rfl hsave
    obtain ⟨rfl, hrest⟩ := Prod.mk.inj (Except.ok.inj h)
    obtain ⟨rfl, rfl⟩ := Prod.mk.inj hrest
    exact ⟨invite, hfind, rfl, hclean, rfl⟩

lemma AccountDesk.db_of_perform {env : InviteEnv} {d d' : AccountDesk} {request : AccountRequest}
    (h : d.perform env actorId actor request = .ok d') : d'.db = d.db ∨ ∃ id v, d'.db = d.db.put id v := by
  have hsave : ∀ {id : ℕ} {v : User} {db' : UserDb},
      (v.fullClean d.db id env.toAccountEnv >>= fun v => v.save d.db id env.toAccountEnv) = .ok db' →
        ∃ id v, db' = d.db.put id v := fun {id v db'} hsave => by
    by_cases hsuper : v.isSuperuser = true
    · exact ⟨id, _, User.fullClean_save_superuser hsuper hsave⟩
    · exact ⟨id, _, (User.fullClean_save_ok (by simpa using hsuper) hsave).2⟩
  cases request with
  | createUser =>
    obtain ⟨db', hdb, rfl⟩ := map_eq_ok_iff.mp h
    exact .inr ⟨_, _, (createUser_ok hdb).2.2⟩
  | updateUser =>
    obtain ⟨db', hdb, rfl⟩ := map_eq_ok_iff.mp h
    obtain ⟨v, -, hv⟩ := bind_eq_ok_iff.mp hdb
    exact .inr (hsave hv)
  | deactivateUser =>
    obtain ⟨_, hdb, rfl⟩ := map_eq_ok_iff.mp h
    obtain ⟨v, -, hv⟩ := bind_eq_ok_iff.mp hdb
    obtain ⟨-, _, -, hput⟩ := saveDeactivated_ok hv
    exact .inr ⟨_, _, hput⟩
  | inviteUser =>
    obtain ⟨_, hdb, rfl⟩ := map_eq_ok_iff.mp h
    exact .inr ⟨_, _, (inviteUser_ok hdb).2.2⟩
  | createUserInvite =>
    obtain ⟨_, -, hinvite⟩ := bind_eq_ok_iff.mp h
    obtain ⟨⟩ := hinvite
    exact .inl rfl

end Returned

end ImmoApp.Accounts
