import ImmoApp.Foundation.Fallible
import ImmoApp.Foundation.Totals

/-!
# Users and agencies

A user who is no superuser belongs to an agency and is one of its managers or an agent under one of them; one of
the managers may be the owner.  An agency has seats: a number of active users, of active managers, and of active
agents for each manager.

The rules are checked on a user who is saved, and only on that user: `User.clean` looks at the other users as
they are, and raises the first check that fails.  `User.Clean` is what a user who passes them is.
-/

namespace ImmoApp.Accounts

open List Option

/-- `ROLE_CHOICES`, and any other text. -/
inductive Role where
  | superAdmin
  | manager
  | agent
  | other (text : String)
  deriving DecidableEq

structure Agency where
  displayName : String
  agencyCode : String
  maxUsers : ℕ
  maxManagers : ℕ
  maxAgentsPerManager : ℕ

/-- `Agency.__str__`. -/
def Agency.text (a : Agency) : String := s!"{a.displayName} ({a.agencyCode})"

structure User where
  username : String
  email : String
  isSuperuser : Bool := false
  role : Role
  agency : Option ℕ
  manager : Option ℕ
  isOwner : Bool := false
  isActive : Bool := true
  canImport : Bool := false
  importGrantedBy : Option ℕ := none
  canHardDelete : Bool := false
  deriving DecidableEq

structure UserDb where
  agencies : Dict ℕ Agency
  users : Keyed ℕ User
  nextId : ℕ
  /-- No key is used before the sequence reaches it. -/
  fresh : ∀ id u, users.get? id = some u → id < nextId

/-- A user is written, under a new key or an old one. -/
def UserDb.put (db : UserDb) (id : ℕ) (u : User) : UserDb where
  agencies := db.agencies
  users := db.users.set id u
  nextId := max db.nextId (id + 1)
  fresh := by
    intro id' u' h
    rw [Keyed.get?_set] at h
    split at h
    · omega
    · exact lt_of_lt_of_le (db.fresh id' u' h) (le_max_left _ _)

def UserDb.others (db : UserDb) (id : ℕ) (p : User → Bool) : ℕ :=
  db.users.count fun id' u => decide (id' ≠ id) && p u

def UserDb.userIs (db : UserDb) (reference : Option ℕ) (p : User → Bool) : Bool :=
  (reference.bind db.users.get?).any p

inductive AccountError where
  | notFound (message : String)
  | permissionDenied (message : String)
  | valueError (message : String)
  | integrityError (column : String)
  | typeError (message : String)
  | jobAlreadyActive (message jobId : String)
  | validation (field message : String)

/-! ### The rules -/

structure AccountEnv where
  validUsername : String → Bool
  validEmail : String → Bool

namespace User

variable (db : UserDb) (id : ℕ) (u : User)

/-- The fields on their own: choices, unique names and references to records that are there. -/
def fieldChecks (env : AccountEnv) : List (Bool × AccountError) :=
  [(u.role != .superAdmin && u.role != .manager && u.role != .agent,
      .validation "role" "Value is not a valid choice."),
    (!env.validUsername u.username, .validation "username" "Enter a valid username."),
    (!env.validEmail u.email, .validation "email" "Enter a valid email address."),
    (u.agency.any fun a => (db.agencies.get? a).isNone, .validation "agency" "agency instance does not exist."),
    (u.manager.any fun m => (db.users.get? m).isNone, .validation "manager" "user instance does not exist."),
    (u.importGrantedBy.any fun g => (db.users.get? g).isNone,
      .validation "import_granted_by" "user instance does not exist."),
    (0 < db.others id (fun v => v.username == u.username),
      .validation "username" "A user with that username already exists.")]

def managerChecks : List (Bool × AccountError) :=
  if u.role = .manager then [(u.manager.isSome, .validation "manager" "Managers cannot have a manager.")]
  else
    [(u.manager.isNone, .validation "manager" "Agents must have a manager."),
      (u.manager == some id, .validation "manager" "Users cannot manage themselves."),
      (db.userIs u.manager fun m => m.role != .manager,
        .validation "manager" "Agent manager must be a manager user."),
      (db.userIs u.manager fun m => m.agency != u.agency,
        .validation "manager" "Agent manager must belong to the same agency."),
      (db.userIs u.manager fun m => !m.isActive, .validation "manager" "Agent manager must be active.")]

def privilegeChecks : List (Bool × AccountError) :=
  [(u.canHardDelete && u.role != .manager,
      .validation "can_hard_delete" "Only managers can be granted hard delete access."),
    (u.isOwner && u.role != .manager, .validation "is_owner" "Only managers can be agency owners."),
    (u.isOwner && u.agency.isSome &&
        0 < db.others id (fun v => v.agency == u.agency && v.role == .manager && v.isOwner),
      .validation "is_owner" "Only one agency owner is allowed per agency.")]

def importChecks : List (Bool × AccountError) :=
  if u.canImport && u.role = .agent then
    [(u.importGrantedBy.isNone, .validation "import_granted_by" "Agent import permission requires a granter."),
      (db.userIs u.importGrantedBy fun g => g.role != .manager,
        .validation "import_granted_by" "Import permission must be granted by a manager."),
      (db.userIs u.importGrantedBy fun g => g.agency != u.agency,
        .validation "import_granted_by" "Granter must belong to the same agency.")]
  else []

def seated (agency : Option ℕ) (v : User) : Bool := v.agency == agency && v.isActive && v.role != .superAdmin

def seatedManager (agency : Option ℕ) (v : User) : Bool := seated agency v && v.role == .manager

def activeAgentOf (manager : Option ℕ) (v : User) : Bool :=
  v.manager == manager && v.role == .agent && v.isActive

def seatChecks (a : Agency) : List (Bool × AccountError) :=
  if u.isActive then
    (a.maxUsers ≤ db.others id (seated u.agency),
      .validation "agency" s!"Agency '{a.text}' already has the maximum active users ({a.maxUsers}).") ::
    if u.role = .manager then
      [(a.maxManagers ≤ db.others id (seatedManager u.agency),
        .validation "role" s!"Agency '{a.text}' already has the maximum active managers ({a.maxManagers}).")]
    else
      let name := ((u.manager.bind db.users.get?).map User.username).getD ""
      [(a.maxAgentsPerManager ≤ db.others id (activeAgentOf u.manager), .validation "manager"
          s!"Manager '{name}' already has the maximum active agents ({a.maxAgentsPerManager}).")]
  else []

/-- The checks of `clean`, in their order. -/
def cleanChecks : List (Bool × AccountError) :=
  (u.role == .superAdmin && !u.isSuperuser,
    .validation "role" "Super admin role requires the user to be a superuser.") ::
  if u.isSuperuser then []
  else
    (u.agency.isNone, .validation "agency" "Agency is required for non-super_admin users.") ::
      (u.managerChecks db id ++ u.privilegeChecks db id ++ u.importChecks db ++
        ((u.agency.bind db.agencies.get?).map (u.seatChecks db id)).getD [])

/-- `clean` forgets who granted a manager the import. -/
def settled : User :=
  if !u.isSuperuser && u.role = .manager then { u with importGrantedBy := none } else u

def fullClean (env : AccountEnv) : Except AccountError User := do
  raiseFirst (u.cleanChecks db id ++ u.fieldChecks db id env)
  .ok u.settled

/-- What `save` sets of a superuser. -/
def normalized : User :=
  if u.isSuperuser then
    { u with role := .superAdmin, canHardDelete := true, manager := none, agency := none, isOwner := false }
  else u

def save (env : AccountEnv) : Except AccountError UserDb := do
  let u ← u.normalized.fullClean db id env
  .ok (db.put id u)

end User

/-! ### What a user who passes them is -/

/-- What the rules say of a user who is no superuser. -/
structure User.Clean (db : UserDb) (id : ℕ) (u : User) : Prop where
  role : u.role = .manager ∨ u.role = .agent
  agency : ∃ a agency, u.agency = some a ∧ db.agencies.get? a = some agency
  free : u.role = .manager → u.manager = none
  managed : u.role = .agent → ∃ m v, u.manager = some m ∧ m ≠ id ∧ db.users.get? m = some v ∧
    v.role = .manager ∧ v.agency = u.agency ∧ v.isActive = true
  hardDelete : u.canHardDelete = true → u.role = .manager
  owner : u.isOwner = true → u.role = .manager
  soleOwner : u.isOwner = true → ∀ id' v, id' ≠ id → db.users.get? id' = some v → v.agency = u.agency →
    v.role = .manager → v.isOwner = false
  granted : u.canImport = true → u.role = .agent → ∃ g v, u.importGrantedBy = some g ∧
    db.users.get? g = some v ∧ v.role = .manager ∧ v.agency = u.agency
  users : u.isActive = true → ∀ agency, u.agency.bind db.agencies.get? = some agency →
    db.others id (seated u.agency) < agency.maxUsers
  managers : u.isActive = true → u.role = .manager → ∀ agency, u.agency.bind db.agencies.get? = some agency →
    db.others id (seatedManager u.agency) < agency.maxManagers
  agents : u.isActive = true → u.role = .agent → ∀ agency, u.agency.bind db.agencies.get? = some agency →
    db.others id (activeAgentOf u.manager) < agency.maxAgentsPerManager

section Clean

variable {env : AccountEnv} {db db' : UserDb} {id : ℕ} {u u' : User}

lemma User.fullClean_ok_iff : u.fullClean db id env = .ok u' ↔
    u.settled = u' ∧ ∀ check ∈ u.cleanChecks db id ++ u.fieldChecks db id env, check.1 = false := by
  unfold User.fullClean
  rw [raiseFirst_bind_eq_ok_iff, and_comm]
  exact and_congr_left' ⟨Except.ok.inj, congrArg _⟩

lemma UserDb.userIs_eq_false_iff {k : Option ℕ} {p : User → Bool} :
    db.userIs k p = false ↔ ∀ n v, k = some n → db.users.get? n = some v → p v = false := by
  unfold UserDb.userIs
  cases k with
  | none => simp
  | some n =>
    cases hv : db.users.get? n with
    | none =>
      refine iff_of_true (by simp [hv]) ?_
      rintro m v ⟨rfl⟩ hm
      exact absurd (hv.symm.trans hm) (by simp)
    | some w =>
      constructor
      · rintro hp m v ⟨rfl⟩ hm
        obtain rfl := some.inj (hv.symm.trans hm)
        simpa [hv] using hp
      · intro h
        simpa [hv] using h n w rfl hv

lemma exists_of_any_isNone {α : Type} {k : Option ℕ} {get? : ℕ → Option α}
    (h : (k.any fun n => (get? n).isNone) = false) (hk : k.isNone = false) :
    ∃ n v, k = some n ∧ get? n = some v := by
  cases k with
  | none => exact absurd hk (by simp)
  | some n =>
    cases hn : get? n with
    | none => exact absurd h (by simp [hn])
    | some v => exact ⟨n, v, rfl, hn⟩

lemma User.Clean.of_checks (hsuper : u.isSuperuser = false)
    (h : ∀ check ∈ u.cleanChecks db id ++ u.fieldChecks db id env, check.1 = false) :
    u.Clean db id := by
  obtain ⟨hclean, hfields⟩ := forall_mem_append.mp h
  simp only [User.fieldChecks, forall_mem_cons, not_mem_nil, false_implies, implies_true, and_true] at hfields
  obtain ⟨_, -, -, hagencies, hmanagers, hgranters, -⟩ := hfields
  simp only [User.cleanChecks, hsuper, Bool.not_false, Bool.and_true, if_false, Bool.false_eq_true,
    forall_mem_cons, forall_mem_append] at hclean
  obtain ⟨_, hnone, ⟨⟨hmanaged, hprivileges⟩, himport⟩, hseats⟩ := hclean
  simp only [User.privilegeChecks, forall_mem_cons, not_mem_nil, false_implies, implies_true, and_true] at hprivileges
  obtain ⟨hdelete, howner, hsole⟩ := hprivileges
  obtain ⟨a, agency, ha, hagency⟩ := exists_of_any_isNone hagencies hnone
  have hroles : u.role = .manager ∨ u.role = .agent := by
    cases hr : u.role <;> simp_all
  refine
    { role := hroles, agency := ⟨a, agency, ha, hagency⟩, free := fun hm => ?_, managed := fun hm => ?_
      hardDelete := fun hd => ?_, owner := fun ho => ?_, soleOwner := fun ho => ?_, granted := fun hi hm => ?_
      users := fun hactive b hb => ?_, managers := fun hactive hm b hb => ?_
      agents := fun hactive hm b hb => ?_ }
  · simpa [User.managerChecks, hm] using hmanaged
  · simp only [User.managerChecks, hm, reduceCtorEq, if_false, forall_mem_cons, not_mem_nil,
      false_implies, implies_true, and_true, UserDb.userIs_eq_false_iff] at hmanaged
    obtain ⟨hsome, hself, hmanager, hsame, hactive⟩ := hmanaged
    obtain ⟨m, v, hk, hv⟩ := exists_of_any_isNone hmanagers hsome
    refine ⟨m, v, hk, ?_, hv, by simpa using hmanager m v hk hv, by simpa using hsame m v hk hv,
      by simpa using hactive m v hk hv⟩
    rintro rfl
    simp [hk] at hself
  · simpa [hd] using hdelete
  · simpa [ho] using howner
  · have hcount : db.others id (fun v => v.agency == u.agency && v.role == .manager && v.isOwner) = 0 := by
      simpa [ho, ha] using hsole
    rw [UserDb.others, Keyed.count_eq_zero_iff] at hcount
    intro id' v hne hv hsame hm
    simpa [hne, hsame, hm] using hcount id' v hv
  · simp only [User.importChecks, hi, hm, decide_true, Bool.and_self, if_true, forall_mem_cons,
      not_mem_nil, false_implies, implies_true, and_true, UserDb.userIs_eq_false_iff] at himport
    obtain ⟨hsome, hmanager, hsame⟩ := himport
    obtain ⟨g, v, hk, hv⟩ := exists_of_any_isNone hgranters hsome
    exact ⟨g, v, hk, hv, by simpa using hmanager g v hk hv, by simpa using hsame g v hk hv⟩
  · simp only [hb, map_some, getD_some, User.seatChecks, hactive, if_true,
      forall_mem_cons] at hseats
    simpa using hseats.1
  · simp only [hb, map_some, getD_some, User.seatChecks, hactive, hm, if_true,
      forall_mem_cons] at hseats
    simpa using hseats.2.1
  · simp only [hb, map_some, getD_some, User.seatChecks, hactive, hm, reduceCtorEq, if_true,
      if_false, forall_mem_cons] at hseats
    simpa using hseats.2.1

lemma User.save_ok (hsuper : u.isSuperuser = false) (h : u.save db id env = .ok db') :
    u.Clean db id ∧ db' = db.put id u.settled := by
  unfold User.save at h
  rw [User.normalized, hsuper, if_neg (by simp)] at h
  cases hfull : u.fullClean db id env with
  | error =>
    rw [hfull] at h
    cases h
  | ok =>
    rw [hfull] at h
    obtain ⟨rfl, hchecks⟩ := User.fullClean_ok_iff.mp hfull
    exact ⟨User.Clean.of_checks hsuper hchecks, (Except.ok.inj h).symm⟩

lemma User.settled_eq (u : User) : u.settled = { u with importGrantedBy := u.settled.importGrantedBy } := by
  unfold User.settled
  split <;> rfl

@[simp] lemma User.settled_isSuperuser (u : User) : u.settled.isSuperuser = u.isSuperuser := by
  rw [User.settled_eq]

@[simp] lemma User.settled_role (u : User) : u.settled.role = u.role := by rw [User.settled_eq]

@[simp] lemma User.settled_agency (u : User) : u.settled.agency = u.agency := by rw [User.settled_eq]

@[simp] lemma User.settled_isOwner (u : User) : u.settled.isOwner = u.isOwner := by rw [User.settled_eq]

@[simp] lemma User.settled_isActive (u : User) : u.settled.isActive = u.isActive := by rw [User.settled_eq]

@[simp] lemma User.settled_canImport (u : User) : u.settled.canImport = u.canImport := by rw [User.settled_eq]

@[simp] lemma User.settled_canHardDelete (u : User) : u.settled.canHardDelete = u.canHardDelete := by
  rw [User.settled_eq]

lemma User.settled_of_agent (hagent : u.role = .agent) : u.settled = u := by
  rw [User.settled, if_neg (by simp [hagent])]

lemma User.settled_settled (u : User) : u.settled.settled = u.settled := by
  by_cases h : (!u.isSuperuser && u.role = .manager) = true
  · simp only [User.settled, h, if_true]
  · have hsettled : u.settled = u := by rw [User.settled, if_neg h]
    rw [hsettled, hsettled]

lemma User.normalized_of_superuser (hsuper : u.isSuperuser = true) :
    u.normalized.isSuperuser = true ∧ u.normalized.role = .superAdmin ∧ u.normalized.isOwner = false := by
  rw [User.normalized, if_pos hsuper]
  exact ⟨hsuper, rfl, rfl⟩

lemma User.fullClean_save_ok (hsuper : u.isSuperuser = false)
    (h : (u.fullClean db id env >>= fun u => u.save db id env) = .ok db') :
    u.settled.Clean db id ∧ db' = db.put id u.settled := by
  obtain ⟨v, hv, hsave⟩ := bind_eq_ok_iff.mp h
  obtain ⟨rfl, -⟩ := User.fullClean_ok_iff.mp hv
  obtain ⟨hclean, rfl⟩ := User.save_ok (by rw [User.settled_isSuperuser, hsuper]) hsave
  rw [User.settled_settled]
  exact ⟨hclean, rfl⟩

lemma User.fullClean_save_superuser (hsuper : u.isSuperuser = true)
    (h : (u.fullClean db id env >>= fun u => u.save db id env) = .ok db') : db' = db.put id u.normalized := by
  have hsettled : ∀ v : User, v.isSuperuser = true → v.settled = v := fun v hv => by
    rw [User.settled, hv]
    rfl
  obtain ⟨v, hv, hsave⟩ := bind_eq_ok_iff.mp h
  obtain ⟨rfl, -⟩ := User.fullClean_ok_iff.mp hv
  rw [hsettled u hsuper] at hsave
  obtain ⟨w, hw, hput⟩ := bind_eq_ok_iff.mp hsave
  obtain ⟨rfl, -⟩ := User.fullClean_ok_iff.mp hw
  rw [hsettled _ (User.normalized_of_superuser hsuper).1] at hput
  exact (Except.ok.inj hput).symm

end Clean

section Put

variable {db : UserDb} {id id' : ℕ} {u : User}

@[simp] lemma UserDb.get?_put : (db.put id u).users.get? id' = if id' = id then some u else db.users.get? id' :=
  Keyed.get?_set db.users id id' u

@[simp] lemma UserDb.put_agencies : (db.put id u).agencies = db.agencies := rfl

lemma UserDb.exists_get?_put {v : User} (h : db.users.get? id' = some v) :
    ∃ v', (db.put id u).users.get? id' = some v' := by
  rw [UserDb.get?_put]
  split
  · exact ⟨u, rfl⟩
  · exact ⟨v, h⟩

lemma UserDb.count_put_le {p : User → Bool} {n : ℕ} (hle : db.users.count (fun _ v => p v) ≤ n)
    (hroom : p u = true → db.others id p < n) : (db.put id u).users.count (fun _ v => p v) ≤ n :=
  Keyed.count_set_le hle hroom

end Put

end ImmoApp.Accounts
