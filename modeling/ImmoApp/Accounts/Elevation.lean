import ImmoApp.Accounts.Hierarchy

/-!
# Who grants privileges

A user becomes a manager, the owner of an agency, or somebody who may delete for good by `create_user` or
`update_user`, by an invite that is accepted later, or by an approved request for a temporary elevation.

`grants_authorized`: in every run whoever gains a privilege was granted it by a user who commands the agency, if no
owner approves the request of a user who has left it.
-/

namespace ImmoApp.Accounts

open List Option Dict User UserDb

/-! ### Requests for an elevation -/

/-- `PERMISSION_CHOICES`. -/
inductive Permission where
  | canImport
  | canHardDelete
  deriving DecidableEq

def normalizePermission (permission : String) : Except AccountError Permission :=
  let value := strip permission
  if value = "can_import" then .ok .canImport
  else if value = "can_hard_delete" then .ok .canHardDelete
  else .error (.valueError s!"Unsupported permission '{value}'")

inductive RequestStatus where
  | pending
  | approved
  | denied
  | revoked
  deriving DecidableEq

/-- `PrivilegeElevationRequest`; the times are in minutes. -/
structure PrivilegeElevationRequest where
  agency : ℕ
  user : ℕ
  permission : Permission
  reason : String
  status : RequestStatus := .pending
  requestedBy : Option ℕ
  approvedBy : Option ℕ := none
  revokedBy : Option ℕ := none
  decidedAt : Option ℕ := none
  expiresAt : Option ℕ := none
  revokedAt : Option ℕ := none
  revokeReason : String := ""

structure ElevationEnv extends InviteEnv where
  defaultApprovalMinutes : ℕ
  maxApprovalMinutes : ℕ

def clampMinutes (env : ElevationEnv) : Option ℤ → ℕ
  | none => env.defaultApprovalMinutes
  | some value => (max 5 (min value env.maxApprovalMinutes)).toNat

section Workflow

variable (env : ElevationEnv) (actorId : ℕ) (actor : User) (db : UserDb)

/-- The checks of `target_user_for_actor` on the user that was found. -/
def targetChecks (userId : ℕ) (target : User) : List (Bool × AccountError) :=
  if actor.isSuperuser then []
  else
    [(actor.agency.isNone || actor.agency != target.agency, .permissionDenied "Forbidden agency scope."),
      (actor.role != .manager, .permissionDenied "Manager access required."),
      (!actor.isOwner && userId != actorId && target.manager != some actorId,
        .permissionDenied "Managers may only request elevation for self or owned agents.")]

/-- `request_elevation`; without an agency of the user the row is refused. -/
def requestElevation (userId : ℕ) (permission : String) (reason : Option String) :
    Except AccountError PrivilegeElevationRequest := do
  raiseFirst [requireManager actor]
  match db.users.get? userId with
  | none => .error (.notFound "User not found.")
  | some target =>
    raiseFirst (targetChecks actorId actor userId target)
    let permission ← normalizePermission permission
    match target.agency with
    | none => .error (.integrityError "agency")
    | some agency =>
      return {
        agency := agency
        user := userId
        permission := permission
        reason := firstChars 512 (reason.getD "")
        requestedBy := some actorId }

def requireOwnerOrSuperuser : Bool × AccountError := requireOwner actor

def rowAgencyCheck (row : PrivilegeElevationRequest) : Bool × AccountError :=
  (!actor.isSuperuser && actor.agency != some row.agency, .permissionDenied "Forbidden agency scope.")

/-- `decide_request` of the row that was found. -/
def decideRequest (row : Option PrivilegeElevationRequest) (approve : Bool) (reason : Option String)
    (durationMinutes : Option ℤ) (now : ℕ) : Except AccountError PrivilegeElevationRequest := do
  raiseFirst [requireOwnerOrSuperuser actor]
  match row with
  | none => .error (.notFound "Privilege request not found.")
  | some row =>
    raiseFirst [rowAgencyCheck actor row,
      (row.status != .pending, .valueError "Privilege request is no longer pending.")]
    return { row with
      status := if approve then .approved else .denied
      approvedBy := some actorId
      decidedAt := some now
      expiresAt := if approve then some (now + clampMinutes env durationMinutes) else none
      revokeReason := if approve then row.revokeReason else firstChars 256 (reason.getD "") }

/-- `revoke_request` of the row that was found. -/
def revokeRequest (row : Option PrivilegeElevationRequest) (reason : Option String) (now : ℕ) :
    Except AccountError PrivilegeElevationRequest := do
  raiseFirst [requireOwnerOrSuperuser actor]
  match row with
  | none => .error (.notFound "Privilege request not found.")
  | some row =>
    raiseFirst [rowAgencyCheck actor row]
    if row.status = .revoked then .ok row
    else
      return { row with
        status := .revoked
        revokedAt := some now
        revokedBy := some actorId
        revokeReason := firstChars 256 (if reason.getD "" = "" then "revoked" else reason.getD "") }

end Workflow

def PrivilegeElevationRequest.effective (userId : ℕ) (permission : Permission) (now : ℕ)
    (row : PrivilegeElevationRequest) : Bool :=
  row.user == userId && row.permission == permission && row.status == .approved && row.revokedAt.isNone &&
    row.expiresAt.all fun expiry => now < expiry

def User.flag (u : User) : Permission → Bool
  | .canImport => u.canImport
  | .canHardDelete => u.canHardDelete

def hasEffectivePermission (requests : Dict ℕ PrivilegeElevationRequest) (userId : ℕ) (user : User)
    (permission : Permission) (now : ℕ) : Bool :=
  user.isSuperuser || user.flag permission || requests.any fun e => e.2.effective userId permission now

inductive PrivilegeCall where
  | account (call : AccountCall)
  | requestElevation (actorId userId : ℕ) (permission : String) (reason : Option String)
  | decideRequest (actorId requestId : ℕ) (approve : Bool) (reason : Option String) (durationMinutes : Option ℤ)
      (now : ℕ)
  | revokeRequest (actorId requestId : ℕ) (reason : Option String) (now : ℕ)

structure PrivilegeDesk where
  accounts : AccountDesk
  requests : Dict ℕ PrivilegeElevationRequest
  nextRequest : ℕ
  /-- History: those who invited, as they were then. -/
  inviters : Dict ℕ User

namespace PrivilegeDesk

variable (env : ElevationEnv) (d : PrivilegeDesk)

def user (id : ℕ) : Option User := d.accounts.db.users.get? id

/-- The desk after a call of the account services. -/
def withAccounts (inviters : Dict ℕ User) (accounts : AccountDesk) : PrivilegeDesk :=
  { d with accounts := accounts, inviters := inviters }

def invitersAfter : AccountCall → Dict ℕ User
  | .request actorId (.createUserInvite ..) =>
    ((d.user actorId).map (d.inviters.set d.accounts.nextInvite)).getD d.inviters
  | _ => d.inviters

def withRequest (requestId : ℕ) (row : PrivilegeElevationRequest) : PrivilegeDesk :=
  { d with requests := d.requests.set requestId row }

def answer : PrivilegeCall → Option (Except AccountError PrivilegeDesk)
  | .account call => (d.accounts.answer env.toInviteEnv call).map fun result =>
    result.map (d.withAccounts (d.invitersAfter call))
  | .requestElevation actorId userId permission reason => (d.user actorId).map fun actor =>
    (requestElevation actorId actor d.accounts.db userId permission reason).map fun row =>
      { d.withRequest d.nextRequest row with nextRequest := d.nextRequest + 1 }
  | .decideRequest actorId requestId approve reason durationMinutes now => (d.user actorId).map fun actor =>
    (decideRequest env actorId actor (d.requests.get? requestId) approve reason durationMinutes now).map
      (d.withRequest requestId)
  | .revokeRequest actorId requestId reason now => (d.user actorId).map fun actor =>
    (revokeRequest actorId actor (d.requests.get? requestId) reason now).map (d.withRequest requestId)

/-- One call.  A call that raises is rolled back. -/
def step (call : PrivilegeCall) : Option PrivilegeDesk :=
  (d.answer env call).map fun result => (result.toOption).getD d

end PrivilegeDesk

inductive Privilege where
  | manager
  | owner
  | hardDelete
  /-- To delete for good at a time, by the flag or by an elevation. -/
  | effectiveHardDelete (now : ℕ)

def PrivilegeDesk.holds (d : PrivilegeDesk) (id : ℕ) (privilege : Privilege) : Bool :=
  (d.user id).any fun u =>
    match privilege with
    | .manager => u.role == .manager
    | .owner => u.isOwner
    | .hardDelete => u.canHardDelete
    | .effectiveHardDelete now => hasEffectivePermission d.requests id u .canHardDelete now

/-- A user who may grant privileges in an agency: a superuser, or its owner with the role of a manager. -/
def User.Commands (v : User) (agency : Option ℕ) : Prop :=
  v.isSuperuser = true ∨ v.role = .manager ∧ v.isOwner = true ∧ agency.isSome = true ∧ v.agency = agency

/-- The user whose decision a call carries out: the actor, and for an accepted invite the one who invited. -/
def PrivilegeDesk.decider (env : ElevationEnv) (d : PrivilegeDesk) : PrivilegeCall → Option User
  | .account (.request actorId _) => d.user actorId
  | .account (.acceptInvite inviteCode email _ now) =>
    (findInvite env.toInviteEnv d.accounts.invites inviteCode email now).bind fun e => d.inviters.get? e.1
  | .requestElevation actorId .. => d.user actorId
  | .decideRequest actorId .. => d.user actorId
  | .revokeRequest actorId .. => d.user actorId

/-- Whoever gains a privilege in a call, without being a superuser, was granted it by a user who commands the
agency: that of the user before the call, or the one a new user comes to. -/
def PrivilegeDesk.Authorized (env : ElevationEnv) (d : PrivilegeDesk) (call : PrivilegeCall) : Prop :=
  ∀ d', d.step env call = some d' → ∀ id privilege u', d'.user id = some u' → u'.isSuperuser = false →
    d.holds id privilege = false → d'.holds id privilege = true →
    ∃ v, d.decider env call = some v ∧ v.Commands (((d.user id).getD u').agency)

/-! ### Privileges of the record -/

/-- A user who is written has a role or a flag that was not there. -/
def User.Gained (old : Option User) (u' : User) : Prop :=
  u'.role = .manager ∧ (∀ u ∈ old, u.role ≠ .manager) ∨ u'.isOwner = true ∧ (∀ u ∈ old, u.isOwner = false) ∨
    u'.canHardDelete = true ∧ ∀ u ∈ old, u.canHardDelete = false

section Grants

variable {env : ElevationEnv} {actorId userId id : ℕ} {actor u u' v : User} {db db' : UserDb}

lemma User.not_gained (hrole : u'.role = u.role) (howner : u'.isOwner = u.isOwner)
    (hdelete : u'.canHardDelete = u.canHardDelete) : ¬ User.Gained (some u) u' := by
  rintro (⟨hhas, hnot⟩ | ⟨hhas, hnot⟩ | ⟨hhas, hnot⟩)
  · exact hnot u rfl (hrole ▸ hhas)
  · exact absurd ((howner ▸ hhas).symm.trans (hnot u rfl)) (by simp)
  · exact absurd ((hdelete ▸ hhas).symm.trans (hnot u rfl)) (by simp)

lemma User.commands_of_owner (hmay : (requireManager actor).1 = false)
    (howner : (ensureManagerIsOwner actor "").1 = false)
    (hagency : actor.isSuperuser = false → v.agency.isSome = true ∧ actor.agency = v.agency) :
    actor.Commands v.agency := by
  by_cases hsuper : actor.isSuperuser = true
  · exact .inl hsuper
  · have hnot : actor.isSuperuser = false := by simpa using hsuper
    refine .inr ⟨by simpa [requireManager, hnot] using hmay, ?_, hagency hnot⟩
    simpa [ensureManagerIsOwner, hnot] using howner

lemma ensureManagerIsOwner_of_role (h : ∀ check ∈ ensureRoleAllowed actor .manager, check.1 = false) :
    (ensureManagerIsOwner actor "").1 = false := by
  by_contra hnot
  have hplain : actor.isSuperuser = false ∧ actor.isOwner = false := by
    simpa [ensureManagerIsOwner] using hnot
  simp [ensureRoleAllowed, hplain] at h

lemma User.commands_of_create {role : Role} {managerId agencyId : Option ℕ}
    (hchecks : ∀ check ∈ newUserChecks actorId actor db role managerId agencyId, check.1 = false)
    (hclean : u'.Clean db id) (hrole : u'.role = role) (hagency : u'.agency = agencyFor actor agencyId)
    (hgain : User.Gained none u') : actor.Commands u'.agency := by
  simp only [newUserChecks, cons_append, forall_mem_cons, forall_mem_append] at hchecks
  obtain ⟨hmay, hallowed, hsome, -⟩ := hchecks
  -- an owner and one who deletes for good are managers
  have hmanager : u'.role = .manager := by
    rcases hgain with ⟨hmanager, -⟩ | ⟨howner, -⟩ | ⟨hdelete, -⟩
    · exact hmanager
    · exact hclean.owner howner
    · exact hclean.hardDelete hdelete
  rw [← hrole, hmanager] at hallowed
  refine commands_of_owner hmay (ensureManagerIsOwner_of_role hallowed) fun hnot => ⟨?_, ?_⟩
  · rw [hagency]
    simpa using hsome
  · rw [hagency, agencyFor, if_neg (by simp [hnot])]

lemma User.commands_of_update {data : UserUpdateInput} (hmay : (requireManager actor).1 = false)
    (hchecks : ∀ check ∈ updateUserChecks actorId actor db u data, check.1 = false)
    (hgain : User.Gained (some u) (data.apply actorId actor u)) : actor.Commands u.agency := by
  simp only [updateUserChecks, forall_mem_append, forall_mem_cons, not_mem_nil, false_implies,
    implies_true, and_true] at hchecks
  obtain ⟨⟨⟨⟨hsame, -, -⟩, hallowed⟩, hflag, hdelete, -⟩, -⟩ := hchecks
  have howner : (ensureManagerIsOwner actor "").1 = false := by
    rcases hgain with ⟨hhas, hnot⟩ | ⟨hhas, hnot⟩ | ⟨hhas, hnot⟩
    · have hgiven : data.role = some .manager := by
        cases hrole : data.role with
        | none => exact absurd hhas (by simpa [UserUpdateInput.apply, hrole] using hnot u rfl)
        | some => simpa [UserUpdateInput.apply, hrole] using hhas
      rw [hgiven] at hallowed
      exact ensureManagerIsOwner_of_role hallowed
    · have hgiven : data.isOwner.isSome = true := by
        cases hflags : data.isOwner with
        | none => simp [UserUpdateInput.apply, hflags, hnot u rfl] at hhas
        | some => rfl
      simpa [hgiven, ensureManagerIsOwner] using hflag
    · have hgiven : data.canHardDelete.isSome = true := by
        cases hflags : data.canHardDelete with
        | none => simp [UserUpdateInput.apply, hflags, hnot u rfl] at hhas
        | some => rfl
      simpa [hgiven, ensureManagerIsOwner] using hdelete
  refine commands_of_owner hmay howner fun hnot => ?_
  obtain ⟨hsome, heq⟩ : actor.agency.isSome = true ∧ actor.agency = u.agency := by
    simpa [requireSameAgency, hnot] using hsame
  exact ⟨heq ▸ hsome, heq⟩

lemma UserDb.gained_put (hu' : (db.put userId v).users.get? id = some u')
    (hgain : User.Gained (db.users.get? id) u') : id = userId ∧ u' = v := by
  rw [get?_put] at hu'
  split at hu'
  · next heq => exact ⟨heq, (some.inj hu').symm⟩
  · rw [hu'] at hgain
    exact absurd hgain (not_gained rfl rfl rfl)

lemma UserDb.get?_nextId (db : UserDb) : db.users.get? db.nextId = none := by
  by_contra hsome
  obtain ⟨u, hu⟩ := ne_none_iff_exists'.mp hsome
  exact absurd (db.fresh _ u hu) (lt_irrefl _)

lemma AccountDesk.commands_of_perform {env : InviteEnv} {d d' : AccountDesk} {request : AccountRequest}
    (hok : d.perform env actorId actor request = .ok d')
    (hu' : d'.db.users.get? id = some u') (hsuper : u'.isSuperuser = false)
    (hgain : User.Gained (d.db.users.get? id) u') : actor.Commands ((d.db.users.get? id).getD u').agency := by
  cases request with
  | createUser =>
    obtain ⟨db', hdb, rfl⟩ := map_eq_ok_iff.mp hok
    obtain ⟨hchecks, hclean, rfl⟩ := createUser_ok hdb
    obtain ⟨rfl, rfl⟩ := gained_put hu' hgain
    rw [get?_nextId] at hgain ⊢
    have hnew := (forall_mem_append.mp hchecks).1
    exact commands_of_create hnew hclean (settled_role _) (settled_agency _) hgain
  | inviteUser =>
    obtain ⟨db', hdb, rfl⟩ := map_eq_ok_iff.mp hok
    obtain ⟨hchecks, hclean, rfl⟩ := inviteUser_ok hdb
    obtain ⟨rfl, rfl⟩ := gained_put hu' hgain
    rw [get?_nextId] at hgain ⊢
    exact commands_of_create hchecks hclean (settled_role _) (settled_agency _) hgain
  | updateUser _ data =>
    obtain ⟨_, hdb, rfl⟩ := map_eq_ok_iff.mp hok
    obtain ⟨w, hprepare, hsave⟩ := bind_eq_ok_iff.mp hdb
    obtain ⟨hmay, u, hu, hchecks, rfl⟩ := prepareUpdate_ok hprepare
    by_cases hsuper' : u.isSuperuser = true
    · -- superusers are left out, and stay superusers
      obtain rfl := fullClean_save_superuser (u := data.apply actorId actor u) hsuper' hsave
      obtain ⟨-, rfl⟩ := gained_put hu' hgain
      have hstays := (normalized_of_superuser (u := data.apply actorId actor u) hsuper').1
      exact absurd (hstays.symm.trans hsuper) (by simp)
    · have hnot : u.isSuperuser = false := by simpa using hsuper'
      obtain ⟨-, rfl⟩ := fullClean_save_ok (u := data.apply actorId actor u) hnot hsave
      obtain ⟨rfl, rfl⟩ := gained_put hu' hgain
      rw [hu] at hgain ⊢
      refine commands_of_update hmay hchecks ?_
      simpa [User.Gained] using hgain
  | deactivateUser =>
    obtain ⟨_, hdb, rfl⟩ := map_eq_ok_iff.mp hok
    obtain ⟨w, -, hsave⟩ := bind_eq_ok_iff.mp hdb
    obtain ⟨-, _, hold, rfl⟩ := saveDeactivated_ok hsave
    obtain ⟨rfl, rfl⟩ := gained_put hu' hgain
    rw [hold] at hgain
    exact absurd hgain (not_gained rfl rfl rfl)
  | createUserInvite =>
    obtain ⟨_, -, hinvite⟩ := bind_eq_ok_iff.mp hok
    obtain ⟨⟩ := hinvite
    rw [hu'] at hgain
    exact absurd hgain (not_gained rfl rfl rfl)

end Grants

/-! ### Privileges by an elevation -/

section Elevations

variable {env : ElevationEnv} {actorId userId requestId id : ℕ} {actor u' : User} {d d' : PrivilegeDesk}
variable {found : Option PrivilegeElevationRequest} {row : PrivilegeElevationRequest} {reason : Option String}

lemma requestElevation_ok {db : UserDb} {permission : String}
    (h : requestElevation actorId actor db userId permission reason = .ok row) :
    row.status = .pending ∧ ∃ u, db.users.get? row.user = some u := by
  obtain ⟨-, h⟩ := raiseFirst_bind_eq_ok_iff.mp h
  split at h
  · cases h
  · next target htarget =>
    obtain ⟨-, h⟩ := raiseFirst_bind_eq_ok_iff.mp h
    obtain ⟨_, -, h⟩ := bind_eq_ok_iff.mp h
    split at h
    · cases h
    · obtain ⟨⟩ := h
      exact ⟨rfl, target, htarget⟩

variable {now : ℕ} {accounts : AccountDesk}

variable {approve : Bool} {durationMinutes : Option ℤ} {request : AccountRequest}

/-- `decide_request` returned: an owner of the agency of the request, or a superuser, decided a pending one. -/
lemma decideRequest_ok (h : decideRequest env actorId actor found approve reason durationMinutes now = .ok row) :
    (requireOwner actor).1 = false ∧ ∃ old, found = some old ∧ (rowAgencyCheck actor old).1 = false ∧
      old.status = .pending ∧ row.user = old.user ∧ row.agency = old.agency ∧ row.permission = old.permission ∧
      row.status = if approve then .approved else .denied := by
  obtain ⟨howner, h⟩ := raiseFirst_bind_eq_ok_iff.mp h
  refine ⟨howner _ mem_cons_self, ?_⟩
  cases found with
  | none => cases h
  | some old =>
    obtain ⟨hchecks, h⟩ := raiseFirst_bind_eq_ok_iff.mp h
    obtain ⟨⟩ := h
    simp only [forall_mem_cons, not_mem_nil, false_implies, implies_true, and_true, bne_eq_false_iff_eq] at hchecks
    exact ⟨old, rfl, hchecks.1, hchecks.2, rfl, rfl, rfl, rfl⟩

lemma revokeRequest_ok (h : revokeRequest actorId actor found reason now = .ok row) :
    ∃ old, found = some old ∧ row.user = old.user ∧ row.status = .revoked := by
  obtain ⟨-, h⟩ := raiseFirst_bind_eq_ok_iff.mp h
  cases found with
  | none => cases h
  | some old =>
    obtain ⟨-, h⟩ := raiseFirst_bind_eq_ok_iff.mp h
    split at h
    · next hrevoked =>
      obtain ⟨⟩ := h
      exact ⟨_, rfl, rfl, hrevoked⟩
    · obtain ⟨⟩ := h
      exact ⟨old, rfl, rfl, rfl⟩

variable {permission : Permission}

lemma PrivilegeElevationRequest.effective_eq_true (h : row.effective userId permission now = true) :
    row.user = userId ∧ row.permission = permission ∧ row.status = .approved := by
  simp only [PrivilegeElevationRequest.effective, Bool.and_eq_true, beq_iff_eq] at h
  exact ⟨h.1.1.1.1, h.1.1.1.2, h.1.1.2⟩

variable {requests : Dict ℕ PrivilegeElevationRequest}

lemma hasEffectivePermission_eq_false_iff {u : User}
    : hasEffectivePermission requests userId u permission now = false ↔
      u.isSuperuser = false ∧ u.flag permission = false ∧
        ∀ e ∈ requests, e.2.effective userId permission now = false := by
  simp [hasEffectivePermission, and_assoc]

lemma exists_effective {u : User}
    (hhas : hasEffectivePermission requests userId u permission now = true) (hsuper : u.isSuperuser = false)
    (hflag : u.flag permission = false) : ∃ e ∈ requests, e.2.effective userId permission now = true := by
  simpa [hasEffectivePermission, hsuper, hflag] using hhas

variable {privilege : Privilege}

lemma PrivilegeDesk.effective_of_withRequest (hnot : d.holds id privilege = false)
    (hhas : (d.withRequest requestId row).holds id privilege = true) :
    row.user = id ∧ row.permission = .canHardDelete ∧ row.status = .approved := by
  have husers : (d.withRequest requestId row).user id = d.user id := rfl
  rw [PrivilegeDesk.holds] at hnot
  rw [PrivilegeDesk.holds, husers] at hhas
  cases hu : d.user id with
  | none => simp [hu] at hhas
  | some =>
    rw [hu, any_some] at hnot hhas
    cases privilege with
    | manager => exact absurd (hhas.symm.trans hnot) (by simp)
    | owner => exact absurd (hhas.symm.trans hnot) (by simp)
    | hardDelete => exact absurd (hhas.symm.trans hnot) (by simp)
    | effectiveHardDelete =>
      obtain ⟨hsuper, hflag, hnone⟩ := hasEffectivePermission_eq_false_iff.mp hnot
      obtain ⟨e, he, heffective⟩ := exists_effective hhas hsuper hflag
      rcases mem_set.mp he with rfl | ⟨hold, -⟩
      · exact PrivilegeElevationRequest.effective_eq_true heffective
      · exact absurd (heffective.symm.trans (hnone e hold)) (by simp)

/-! ### Runs -/

/-- Whoever invited commands the agency of the invite, and the requests are of users who are there. -/
structure PrivilegeDesk.Sound (d : PrivilegeDesk) : Prop where
  /-- A superuser or the owner of the agency sent the invites that are out. -/
  vouched : ∀ e ∈ d.accounts.invites, e.2.status = .pending →
    ∃ v, d.inviters.get? e.1 = some v ∧ v.Commands (some e.2.agencyId)
  known : ∀ e ∈ d.requests, ∃ u, d.user e.2.user = some u

/-- A request to delete for good that a user who is no superuser approves is of a user who is still in the
agency. -/
def PrivilegeDesk.Resident (env : ElevationEnv) (d : PrivilegeDesk) : PrivilegeCall → Prop
  | .decideRequest actorId requestId approve reason durationMinutes now =>
    (d.answer env (.decideRequest actorId requestId approve reason durationMinutes now)).any
        (fun result => result.isOk) = true → approve = true →
      ∀ actor ∈ d.user actorId, actor.isSuperuser = false → ∀ row ∈ d.requests.get? requestId,
        row.permission = .canHardDelete → ∀ u ∈ d.user row.user, u.agency = some row.agency
  | _ => True

instance (env : ElevationEnv) (d : PrivilegeDesk) : ∀ call, Decidable (d.Resident env call)
  | .decideRequest .. => by unfold PrivilegeDesk.Resident; infer_instance
  | .account _ | .requestElevation .. | .revokeRequest .. => .isTrue trivial

lemma PrivilegeDesk.gained_of_holds {inviters : Dict ℕ User}
    (hsound : d.Sound) (hu' : (d.withAccounts inviters accounts).user id = some u')
    (hsuper : u'.isSuperuser = false) (hnot : d.holds id privilege = false)
    (hhas : (d.withAccounts inviters accounts).holds id privilege = true) : User.Gained (d.user id) u' := by
  rw [PrivilegeDesk.holds, hu', Option.any_some] at hhas
  rw [PrivilegeDesk.holds, Option.any_eq_false] at hnot
  cases privilege with
  | manager => exact .inl ⟨by simpa using hhas, fun u hu => by simpa using hnot u hu⟩
  | owner => exact .inr (.inl ⟨hhas, fun u hu => by simpa using hnot u hu⟩)
  | hardDelete => exact .inr (.inr ⟨hhas, fun u hu => by simpa using hnot u hu⟩)
  | effectiveHardDelete =>
    have hbefore := fun u hu => hasEffectivePermission_eq_false_iff.mp (by simpa using hnot u hu)
    refine .inr (.inr ⟨?_, fun u hu => (hbefore u hu).2.1⟩)
    by_contra hflag
    -- a request that is good was there before, and so was its user
    obtain ⟨e, he, heffective⟩ := exists_effective hhas hsuper (Bool.eq_false_iff.mpr hflag)
    obtain ⟨u, hu⟩ := hsound.known e he
    rw [(PrivilegeElevationRequest.effective_eq_true heffective).1] at hu
    exact absurd (heffective.symm.trans ((hbefore u hu).2.2 e he)) (by simp)

lemma AccountDesk.user_of_perform {env : InviteEnv} {d d' : AccountDesk} {u : User}
    (hok : d.perform env actorId actor request = .ok d') (hu : d.db.users.get? id = some u) :
    ∃ u', d'.db.users.get? id = some u' := by
  rcases AccountDesk.db_of_perform hok with hsame | ⟨_, v, hput⟩
  · exact ⟨u, hsame ▸ hu⟩
  · rw [hput]
    exact exists_get?_put hu

lemma PrivilegeDesk.Sound.perform {env : ElevationEnv} (hsound : d.Sound) (hactor : d.user actorId = some actor)
    (hok : d.accounts.perform env.toInviteEnv actorId actor request = .ok accounts) :
    (d.withAccounts (d.invitersAfter (.request actorId request)) accounts).Sound where
  known e he := by
    obtain ⟨u, hu⟩ := hsound.known e he
    exact AccountDesk.user_of_perform hok hu
  vouched := by
    cases request with
    | createUserInvite data code now =>
      obtain ⟨_, hinvite, h⟩ := bind_eq_ok_iff.mp hok
      obtain ⟨⟩ := h
      obtain ⟨hchecks, hagency⟩ := createUserInvite_ok hinvite
      have hinviters : d.invitersAfter (.request actorId (.createUserInvite data code now)) =
          d.inviters.set d.accounts.nextInvite actor := by
        rw [PrivilegeDesk.invitersAfter, hactor]
        rfl
      intro e he hpending
      rw [hinviters]
      rcases mem_set.mp he with rfl | ⟨hold, hne⟩
      · refine ⟨actor, (get?_set _ _ _ _).trans (if_pos rfl), ?_⟩
        simp only [createInviteChecks, cons_append, forall_mem_cons] at hchecks
        exact hagency ▸ commands_of_owner (v := actor) hchecks.1 hchecks.2.1
          fun _ => ⟨by rw [hagency]; rfl, rfl⟩
      · obtain ⟨v, hv, hcommands⟩ := hsound.vouched e hold hpending
        exact ⟨v, ((get?_set _ _ _ _).trans (if_neg hne)).trans hv, hcommands⟩
    | createUser data | updateUser targetId data | deactivateUser targetId | inviteUser data =>
      obtain ⟨_, -, rfl⟩ := map_eq_ok_iff.mp hok
      exact hsound.vouched

lemma PrivilegeDesk.Sound.accept {env : ElevationEnv} {inviteCode email password : String} (hsound : d.Sound)
    (hok : d.accounts.accept env.toInviteEnv inviteCode email password now = .ok accounts) :
    (d.withAccounts d.inviters accounts).Sound := by
  obtain ⟨⟨_, _, _⟩, haccept, haccounts⟩ := bind_eq_ok_iff.mp hok
  obtain ⟨⟩ := haccounts
  obtain ⟨_, -, rfl, -, rfl⟩ := acceptInvite_ok haccept
  refine { vouched := fun e he hpending => ?_, known := fun e he => ?_ }
  · rcases mem_set.mp he with rfl | ⟨hold, -⟩
    · exact absurd hpending (by simp)
    · exact hsound.vouched e hold hpending
  · obtain ⟨u, hu⟩ := hsound.known e he
    exact exists_get?_put hu

lemma PrivilegeDesk.Sound.withRequest (hsound : d.Sound) (hknown : ∃ u, d.user row.user = some u) :
    (d.withRequest requestId row).Sound where
  vouched := hsound.vouched
  known e he := by
    rcases mem_set.mp he with rfl | ⟨hold, -⟩
    · exact hknown
    · exact hsound.known e hold

lemma PrivilegeDesk.Sound.known_of_get? (hsound : d.Sound) (h : d.requests.get? requestId = some row) :
    ∃ u, d.user row.user = some u :=
  hsound.known _ (mem_of_get? h)

variable {call : PrivilegeCall}

lemma PrivilegeDesk.Sound.answer (hsound : d.Sound) (hok : d.answer env call = some (.ok d')) : d'.Sound := by
  cases call with
  | account call =>
    obtain ⟨_, hresult, hmap⟩ := map_eq_some_iff.mp hok
    obtain ⟨_, rfl, rfl⟩ := map_eq_ok_iff.mp hmap
    cases call with
    | request =>
      obtain ⟨actor, hactor, hperform⟩ := map_eq_some_iff.mp hresult
      exact hsound.perform hactor hperform
    | acceptInvite => exact hsound.accept (some.inj hresult)
  | requestElevation =>
    obtain ⟨actor, -, hmap⟩ := map_eq_some_iff.mp hok
    obtain ⟨row, hrow, rfl⟩ := map_eq_ok_iff.mp hmap
    have hwritten : (d.withRequest d.nextRequest row).Sound :=
      hsound.withRequest (requestElevation_ok hrow).2
    exact ⟨hwritten.vouched, hwritten.known⟩
  | decideRequest =>
    obtain ⟨_, -, hmap⟩ := map_eq_some_iff.mp hok
    obtain ⟨_, hrow, rfl⟩ := map_eq_ok_iff.mp hmap
    obtain ⟨-, _, hold, -, -, huser, -⟩ := decideRequest_ok hrow
    exact hsound.withRequest (huser ▸ hsound.known_of_get? hold)
  | revokeRequest =>
    obtain ⟨_, -, hmap⟩ := map_eq_some_iff.mp hok
    obtain ⟨_, hrow, rfl⟩ := map_eq_ok_iff.mp hmap
    obtain ⟨_, hold, huser, -⟩ := revokeRequest_ok hrow
    exact hsound.withRequest (huser ▸ hsound.known_of_get? hold)

lemma PrivilegeDesk.Sound.step (hsound : d.Sound) (hstep : d.step env call = some d') :
    d'.Sound := by
  obtain ⟨result, hresult, rfl⟩ := map_eq_some_iff.mp hstep
  cases result with
  | error => exact hsound
  | ok => exact hsound.answer hresult

lemma PrivilegeDesk.commands_of_decide (hactor : d.user actorId = some actor)
    (hrow : decideRequest env actorId actor (d.requests.get? requestId) approve reason durationMinutes now = .ok row)
    (hresident : d.Resident env (.decideRequest actorId requestId approve reason durationMinutes now))
    (hu' : d.user id = some u') (hnot : d.holds id privilege = false)
    (hhas : (d.withRequest requestId row).holds id privilege = true) : actor.Commands u'.agency := by
  obtain ⟨howner, old, hold, hagency, -, huser, -, hpermission, hstatus⟩ := decideRequest_ok hrow
  obtain ⟨rfl, hdelete, happroved⟩ := PrivilegeDesk.effective_of_withRequest hnot hhas
  by_cases hsuper : actor.isSuperuser = true
  · exact .inl hsuper
  have hplain : actor.isSuperuser = false := by simpa using hsuper
  have happrove : approve = true := by
    by_contra hdenied
    rw [happroved, if_neg hdenied] at hstatus
    exact absurd hstatus (by simp)
  have hreturned : (d.answer env (.decideRequest actorId requestId approve reason durationMinutes now)).any
      (fun result => result.isOk) = true := by
    rw [PrivilegeDesk.answer, hactor, map_some, hrow]
    rfl
  have hstays : u'.agency = some old.agency :=
    hresident hreturned happrove actor hactor hplain old hold (hpermission ▸ hdelete) u' (huser ▸ hu')
  have hsame : actor.agency = some old.agency := by simpa [rowAgencyCheck, hplain] using hagency
  obtain ⟨hmanager, howns⟩ : actor.role = .manager ∧ actor.isOwner = true := by
    simpa [requireOwner, hplain] using howner
  exact .inr ⟨hmanager, howns, by rw [hstays]; rfl, hsame.trans hstays.symm⟩

lemma PrivilegeDesk.authorized (hsound : d.Sound) (hresident : d.Resident env call) :
    d.Authorized env call := by
  intro d' hstep id privilege u' hu' hsuper hnot hhas
  obtain ⟨result, hresult, rfl⟩ := map_eq_some_iff.mp hstep
  cases result with
  | error => exact absurd (hhas.symm.trans hnot) (by simp)
  | ok =>
    cases call with
    | account call =>
      obtain ⟨_, hanswer, hmap⟩ := map_eq_some_iff.mp hresult
      obtain ⟨_, rfl, rfl⟩ := map_eq_ok_iff.mp hmap
      have hgain := PrivilegeDesk.gained_of_holds hsound hu' hsuper hnot hhas
      cases call with
      | request =>
        obtain ⟨actor, hactor, hperform⟩ := map_eq_some_iff.mp hanswer
        exact ⟨actor, hactor, AccountDesk.commands_of_perform hperform hu' hsuper hgain⟩
      | acceptInvite =>
        obtain ⟨⟨_, _, _⟩, haccept, haccounts⟩ := bind_eq_ok_iff.mp (some.inj hanswer)
        obtain ⟨⟩ := haccounts
        obtain ⟨_, hfind, -, -, rfl⟩ := acceptInvite_ok haccept
        obtain ⟨hin, hpending⟩ := findInvite_eq_some hfind
        obtain ⟨v, hv, hcommands⟩ := hsound.vouched _ hin hpending
        refine ⟨v, by rw [PrivilegeDesk.decider, hfind]; exact hv, ?_⟩
        obtain ⟨rfl, rfl⟩ := gained_put hu' hgain
        rw [PrivilegeDesk.user, get?_nextId, getD_none, settled_agency]
        exact hcommands
    | requestElevation =>
      obtain ⟨actor, -, hmap⟩ := map_eq_some_iff.mp hresult
      obtain ⟨row, hrow, rfl⟩ := map_eq_ok_iff.mp hmap
      obtain ⟨-, -, happroved⟩ := PrivilegeDesk.effective_of_withRequest hnot hhas
      exact absurd (happroved.symm.trans (requestElevation_ok hrow).1) (by simp)
    | decideRequest =>
      obtain ⟨actor, hactor, hmap⟩ := map_eq_some_iff.mp hresult
      obtain ⟨_, hrow, rfl⟩ := map_eq_ok_iff.mp hmap
      have hold : d.user id = some u' := hu'
      refine ⟨actor, hactor, ?_⟩
      rw [hold, getD_some]
      exact PrivilegeDesk.commands_of_decide hactor hrow hresident hold hnot hhas
    | revokeRequest =>
      obtain ⟨_, -, hmap⟩ := map_eq_some_iff.mp hresult
      obtain ⟨_, hrow, rfl⟩ := map_eq_ok_iff.mp hmap
      obtain ⟨-, -, happroved⟩ := PrivilegeDesk.effective_of_withRequest hnot hhas
      obtain ⟨-, -, -, hrevoked⟩ := revokeRequest_ok hrow
      exact absurd (happroved.symm.trans hrevoked) (by simp)

end Elevations

/-- Whoever becomes a manager, an owner, or somebody who may delete for good, at any step of any sequence of calls,
was granted it by a superuser or by the owner of the agency, if no owner approves the request of a user who has
left the agency. -/
theorem grants_authorized (env : ElevationEnv) {d : PrivilegeDesk} {calls : List PrivilegeCall} (hstart : d.Sound)
    (hresident : Guarded (PrivilegeDesk.step env) (PrivilegeDesk.Resident env) d calls) :
    Guarded (PrivilegeDesk.step env) (PrivilegeDesk.Authorized env) d calls :=
  Guarded.of_invariant (P := PrivilegeDesk.Sound) (fun _ _ _ hsound _ hstep => hsound.step hstep)
    (fun _ _ hsound hresident => PrivilegeDesk.authorized hsound hresident) hstart hresident

/-! ### A request that outlives a move -/

def elevationEnv : ElevationEnv where
  toInviteEnv := plainEnv
  defaultApprovalMinutes := 120
  maxApprovalMinutes := 1440

def privilegeDesk : PrivilegeDesk := ⟨platformDesk, [], 0, []⟩

lemma privilegeDesk_sound : privilegeDesk.Sound where
  vouched _ he := absurd he not_mem_nil
  known _ he := absurd he not_mem_nil

/-- The owner hires a manager, who asks for the right to delete for good. -/
def requestCalls : List PrivilegeCall :=
  [.account (.request 1 (.createUser olive)),
    .account (.request 2 (.createUser { username := "marc", password := "secret", role := .manager })),
    .requestElevation 3 3 "can_hard_delete" none]

def approval : PrivilegeCall := .decideRequest 2 0 true none none 1000

/-- The manager is still in the agency when the owner approves. -/
theorem grants_authorized_approval :
    (run (PrivilegeDesk.step elevationEnv) privilegeDesk (requestCalls ++ [approval])).map
      (fun d => d.holds 3 (.effectiveHardDelete 1119)) = some true ∧
    Guarded (PrivilegeDesk.step elevationEnv) (PrivilegeDesk.Authorized elevationEnv) privilegeDesk
      (requestCalls ++ [approval]) :=
  ⟨by decide +kernel, grants_authorized elevationEnv privilegeDesk_sound (by decide +kernel)⟩

/-- The superuser moves the manager to the other agency before the owner approves. -/
theorem foreign_approval : privilegeDesk.Sound ∧
    ¬ Guarded (PrivilegeDesk.step elevationEnv) (PrivilegeDesk.Authorized elevationEnv) privilegeDesk
      ((requestCalls ++ [.account (.request 1 (.updateUser 3 { agencyId := some (some 2) }))]) ++ [approval]) := by
  refine ⟨privilegeDesk_sound, fun hguarded => ?_⟩
  obtain ⟨d, hrun, hd⟩ := map_eq_some_iff.mp (by decide +kernel : (run (PrivilegeDesk.step elevationEnv) privilegeDesk
      (requestCalls ++ [.account (.request 1 (.updateUser 3 { agencyId := some (some 2) }))])).map
        (fun d => ([(d.decider elevationEnv approval).map User.agency, (d.user 3).map User.agency],
          [(d.decider elevationEnv approval).any User.isSuperuser, d.holds 3 (.effectiveHardDelete 1119),
            (d.step elevationEnv approval).any fun d' => (d'.user 3).any fun u => !u.isSuperuser,
            (d.step elevationEnv approval).any fun d' => d'.holds 3 (.effectiveHardDelete 1119)])) =
      some ([some (some 1), some (some 2)], [false, false, true, true]))
  simp only [List.cons.injEq, Prod.mk.injEq, and_true] at hd
  obtain ⟨⟨hdecider, hmoved⟩, hplain, hnot, hthere, hhas⟩ := hd
  obtain ⟨v, hv, hagency⟩ := map_eq_some_iff.mp hdecider
  obtain ⟨u, hu, hmoved⟩ := map_eq_some_iff.mp hmoved
  obtain ⟨d', hstep, hthere⟩ := (any_eq_true _ _).mp hthere
  obtain ⟨u', hu', hsuper⟩ := (any_eq_true _ _).mp hthere
  rw [hstep, any_some] at hhas
  rw [hv, any_some] at hplain
  have hauthorized := ((guarded_append.mp hguarded).2 d hrun).1
  obtain ⟨_, hv', hcommands⟩ := hauthorized d' hstep 3 _ u' hu' (by simpa using hsuper) hnot hhas
  obtain rfl := some.inj (hv.symm.trans hv')
  rw [hu, getD_some, hmoved] at hcommands
  rcases hcommands with hsuper | ⟨-, -, -, hsame⟩
  · exact absurd (hsuper.symm.trans hplain) (by simp)
  · exact absurd (hagency.symm.trans hsame) (by simp)

end ImmoApp.Accounts
