import ImmoApp.Accounts.Mutations
import ImmoApp.Foundation.RowLocks
import ImmoApp.Foundation.Runs

/-!
# Activation and password reset tokens

A user who is invited, or has forgotten the password, gets a token and uses it once to set a password.  A request for a
reset consumes every open token of the user that it sees, a resent invite the one that was named, a use the one used.

An action is one statement of a transaction: an `UPDATE` finds its rows as they were committed when it began, waits for
those that are locked and looks at them again; `SELECT … FOR UPDATE` locks the token and its user.
-/

namespace ImmoApp.Accounts

/-! ### Tokens -/

/-- `PURPOSE_CHOICES`. -/
inductive TokenPurpose where
  | inviteActivation
  | passwordReset
  deriving DecidableEq

/-- `UserActionToken`; its key stands for the `token_id` as well. -/
structure UserActionToken where
  tokenHash : String
  purpose : TokenPurpose
  agency : ℕ
  user : ℕ
  issuedBy : Option ℕ
  expiresAt : ℕ
  consumedAt : Option ℕ := none

structure TokenEnv extends InviteEnv where
  passwordResetTtl : ℕ
  /-- `_invite_ttl_seconds` where none is asked for. -/
  inviteTtl : ℕ

section Services

variable (env : TokenEnv)

def inviteTtlSeconds : Option ℤ → ℕ
  | none => env.inviteTtl
  | some seconds => (max 900 (min (7 * 86400) seconds)).toNat

/-- `_issue_token_record`, for a raw token that was drawn. -/
def issueTokenRecord (purpose : TokenPurpose) (user : ℕ) (agency issuedBy : Option ℕ) (rawToken : String)
    (expiresAt : ℕ) : Except AccountError UserActionToken :=
  match agency with
  | none => .error (.valueError "User must belong to an agency for token issuance.")
  | some agency => .ok { tokenHash := env.sha256 rawToken, purpose, agency, user, issuedBy, expiresAt }

def resolveIdentifierUser (db : UserDb) (identifier : String) : Option (ℕ × User) :=
  let value := strip identifier
  let users := db.users.entries.insertionSort fun e e' => e.1 ≤ e'.1
  if value = "" then none
  else
    match users.find? fun e => e.2.username == value with
    | some e => some e
    | none =>
      if value.toList.contains '@' then users.find? fun e => env.sameEmail e.2.email value else none

def assertCanManageInviteTarget (actorId : ℕ) (actor target : User) : List (Bool × AccountError) :=
  [requireSameAgency actor target.agency, ensureManagerTargetRole actor target,
    ensureManagerOwnsAgent actorId actor target]

/-- The user is activated: the whole user is checked, and only `is_active` is written. -/
def saveActivated (db : UserDb) (userId : ℕ) (u : User) : Except AccountError UserDb := do
  let v ← { u with isActive := true }.fullClean db userId env.toAccountEnv
  let _ ← v.normalized.fullClean db userId env.toAccountEnv
  .ok (db.put userId { u with isActive := true })

end Services

/-! ### Calls that read a token for update -/

/-- A call that begins with `SELECT … FOR UPDATE` of one token.  The id of an invite is one that was parsed. -/
inductive TokenTask where
  | resetPassword (token newPassword : String)
  | activateAccount (token password : String)
  | resendInvite (actorId : ℕ) (actor : User) (inviteId : ℕ) (expiresSeconds : Option ℤ)
  | revokeInvite (actorId : ℕ) (actor : User) (inviteId : ℕ)

namespace TokenTask

def purpose : TokenTask → TokenPurpose
  | .resetPassword .. => .passwordReset
  | .activateAccount .. | .resendInvite .. | .revokeInvite .. => .inviteActivation

def uses : TokenTask → Bool
  | .resetPassword .. | .activateAccount .. => true
  | .resendInvite .. | .revokeInvite .. => false

def entryChecks : TokenTask → List (Bool × AccountError)
  | .resetPassword token _ | .activateAccount token _ =>
    [(strip token == "", .permissionDenied "Token is required.")]
  | .resendInvite _ actor _ _ | .revokeInvite _ actor _ => [requireManager actor]

def caller : TokenTask → Option (ℕ × User)
  | .resetPassword .. | .activateAccount .. => none
  | .resendInvite actorId actor _ _ | .revokeInvite actorId actor _ => some (actorId, actor)

def selects (env : TokenEnv) (task : TokenTask) (id : ℕ) (t : UserActionToken) : Bool :=
  t.purpose == task.purpose &&
    match task with
    | .resetPassword token _ | .activateAccount token _ => t.tokenHash == env.sha256 (strip token)
    | .resendInvite _ _ inviteId _ | .revokeInvite _ _ inviteId => id == inviteId

def missing : TokenTask → AccountError
  | .resetPassword .. | .activateAccount .. => .permissionDenied "Invalid or expired token."
  | .resendInvite .. | .revokeInvite .. => .notFound "Invite not found."

/-- The checks on the token and the user that were read; `now` was read before the query. -/
def checks (task : TokenTask) (now : ℕ) (t : UserActionToken) (u : User) : List (Bool × AccountError) :=
  match task with
  | .resetPassword .. | .activateAccount .. =>
    [(t.consumedAt.isSome, .permissionDenied "Invalid or expired token."),
      (decide (t.expiresAt ≤ now), .permissionDenied "Invalid or expired token.")]
  | .resendInvite actorId actor _ _ =>
    assertCanManageInviteTarget actorId actor u ++ [(u.isActive, .valueError "User is already active.")]
  | .revokeInvite actorId actor _ => assertCanManageInviteTarget actorId actor u

def work (env : TokenEnv) (db : UserDb) (userId : ℕ) (u : User) (rawToken : String) (now : ℕ) :
    TokenTask → Except AccountError (Option UserActionToken)
  | .resetPassword _ newPassword => do
    raiseFirst [(!env.validPassword newPassword, .valueError "This password is not accepted.")]
    let _ ← u.normalized.fullClean db userId env.toAccountEnv
    .ok none
  | .activateAccount _ password => do
    raiseFirst [(!env.validPassword password, .valueError "This password is not accepted.")]
    let _ ← saveActivated env db userId u
    .ok none
  | .resendInvite actorId _ _ expiresSeconds => do
    let t ← issueTokenRecord env .inviteActivation userId u.agency (some actorId) rawToken
      (now + inviteTtlSeconds env expiresSeconds)
    .ok (some t)
  | .revokeInvite .. => .ok none

end TokenTask

/-! ### Transactions -/

inductive TokenCall where
  /-- `request_password_reset` has found an active user. -/
  | requesting (userId : ℕ) (agency : Option ℕ)
  /-- Its `UPDATE` has begun: the tokens there were, those still to look at, those consumed and when. -/
  | superseding (userId : ℕ) (agency : Option ℕ) (seen pending : List ℕ) (consumed : Dict ℕ ℕ)
  | requested (userId : ℕ) (seen : List ℕ) (consumed : Dict ℕ ℕ) (id : ℕ) (token : UserActionToken)
  /-- Before `SELECT … FOR UPDATE`; the time was read before it. -/
  | selecting (task : TokenTask) (now : ℕ)
  | lockingToken (task : TokenTask) (now id : ℕ)
  | lockingUser (task : TokenTask) (now id userId : ℕ)
  | locked (task : TokenTask) (id userId : ℕ)
  /-- Everything is written: when the token was consumed, and the token that was issued. -/
  | worked (task : TokenTask) (id userId : ℕ) (consumed : Dict ℕ ℕ) (issued : Option (ℕ × UserActionToken))

inductive TokenRow where
  | token (id : ℕ)
  | user (id : ℕ)
  deriving DecidableEq

namespace TokenCall

def locks : TokenCall → List TokenRow
  | .requesting .. | .selecting .. | .lockingToken .. => []
  | .superseding _ _ _ _ consumed | .requested _ _ consumed _ _ => consumed.map fun e => .token e.1
  | .lockingUser _ _ id _ => [.token id]
  | .locked _ id userId | .worked _ id userId _ _ => [.token id, .user userId]

def inserted : TokenCall → Option (ℕ × UserActionToken)
  | .requested _ _ _ id token => some (id, token)
  | .worked _ _ _ _ issued => issued
  | .requesting .. | .superseding .. | .selecting .. | .lockingToken .. | .lockingUser .. | .locked .. => none

end TokenCall

inductive TokenAnswer where
  /-- A reset was requested, for a user who is there or not. -/
  | accepted
  | passwordReset
  | accountActivated
  /-- A new invite, and until when it is good. -/
  | invite (inviteId expiresAt : ℕ)
  | revoked (inviteId : ℕ)

/-- What happened, at the commit of a transaction. -/
inductive TokenEvent where
  | used (id : ℕ)
  /-- A resend, a revoke or a use shall have ended all tokens of a user for a purpose before this one. -/
  | closed (user : ℕ) (purpose : TokenPurpose) (before : ℕ)
  deriving DecidableEq

/-- The users, the tokens, and the services that run.  `nextToken` is the sequence of the keys; the last field
is history. -/
structure TokenDesk where
  db : UserDb
  tokens : Keyed ℕ UserActionToken
  calls : Dict ℕ TokenCall
  nextToken : ℕ
  answers : List (Except AccountError TokenAnswer)
  history : List TokenEvent

/-- A step of a call, or a call that is one transaction of its own rows. -/
inductive TokenAction where
  /-- `request_password_reset` is called. -/
  | requestPasswordReset (tx : ℕ) (identifier : String)
  | startSupersede (tx : ℕ)
  /-- The `UPDATE` takes its next row. -/
  | supersede (tx now : ℕ)
  | insertReset (tx : ℕ) (rawToken : String) (now : ℕ)
  | call (tx : ℕ) (task : TokenTask) (now : ℕ)
  | select (tx : ℕ)
  | lockToken (tx : ℕ)
  | lockUser (tx : ℕ)
  | work (tx : ℕ) (rawToken : String) (now : ℕ)
  | commit (tx : ℕ)
  /-- Something else raised, and the transaction is rolled back. -/
  | abort (tx : ℕ)
  | createUserInvite (actorId : ℕ) (data : UserCreateInput) (expiresSeconds : Option ℤ) (rawToken : String)
      (now : ℕ)

namespace TokenDesk

variable (env : TokenEnv) (s : TokenDesk)

def enter (tx : ℕ) (c : TokenCall) : TokenDesk := { s with calls := s.calls.set tx c }

def leave (tx : ℕ) (answer : Except AccountError TokenAnswer) : TokenDesk :=
  { s with calls := s.calls.erase tx, answers := s.answers ++ [answer] }

/-- `UNIQUE (token_hash)`: the hash is neither in the table nor in a row that is being inserted. -/
def HashFree (tokenHash : String) : Prop :=
  (∀ e ∈ s.tokens.entries, e.2.tokenHash ≠ tokenHash) ∧
    ∀ e ∈ s.calls, ∀ new ∈ e.2.inserted, new.2.tokenHash ≠ tokenHash

instance (tokenHash : String) : Decidable (s.HashFree tokenHash) := by
  unfold HashFree
  infer_instance

def written (consumed : Dict ℕ ℕ) (issued : Option (ℕ × UserActionToken)) : Keyed ℕ UserActionToken :=
  let tokens := s.tokens.update (fun id _ => (consumed.get? id).isSome)
    fun id t => { t with consumedAt := consumed.get? id }
  match issued with
  | some new => tokens.set new.1 new.2
  | none => tokens

/-- `request_password_reset` up to its transaction. -/
def requestPasswordReset (tx : ℕ) (identifier : String) : TokenDesk :=
  match resolveIdentifierUser env s.db identifier with
  | some (userId, u) => if u.isActive then s.enter tx (.requesting userId u.agency) else s.leave tx (.ok .accepted)
  | none => s.leave tx (.ok .accepted)

/-- The `UPDATE` of `request_password_reset` begins: its rows are the open tokens that are committed. -/
def startSupersede (tx userId : ℕ) (agency : Option ℕ) : TokenDesk :=
  s.enter tx (.superseding userId agency (s.tokens.entries.map Prod.fst) ((s.tokens.entries.filter fun e =>
      e.2.user == userId && e.2.purpose == .passwordReset && e.2.consumedAt.isNone).map Prod.fst) [])

/-- The `UPDATE` takes a row that nobody else has locked, and looks again whether it is open. -/
def supersede (tx userId : ℕ) (agency : Option ℕ) (seen : List ℕ) (id : ℕ) (pending : List ℕ)
    (consumed : Dict ℕ ℕ) (now : ℕ) : TokenDesk :=
  if (s.tokens.get? id).any fun t => t.consumedAt.isNone then
    s.enter tx (.superseding userId agency seen pending (consumed.set id now))
  else s.enter tx (.superseding userId agency seen pending consumed)

/-- The `INSERT` of `request_password_reset`. -/
def insertReset (tx userId : ℕ) (agency : Option ℕ) (seen : List ℕ) (consumed : Dict ℕ ℕ) (rawToken : String)
    (now : ℕ) : Option TokenDesk :=
  match issueTokenRecord env .passwordReset userId agency none rawToken (now + env.passwordResetTtl) with
  | .error e => some (s.leave tx (.error e))
  | .ok t =>
    if s.HashFree t.tokenHash then
      some { s.enter tx (.requested userId seen consumed s.nextToken t) with nextToken := s.nextToken + 1 }
    else none

def call (tx : ℕ) (task : TokenTask) (now : ℕ) : TokenDesk :=
  match raiseFirst task.entryChecks with
  | .error e => s.leave tx (.error e)
  | .ok () => s.enter tx (.selecting task now)

/-- The query finds a token that is committed, or none. -/
def select (tx : ℕ) (task : TokenTask) (now : ℕ) : TokenDesk :=
  match s.tokens.entries.find? fun e => task.selects env e.1 e.2 with
  | none => s.leave tx (.error task.missing)
  | some e => s.enter tx (.lockingToken task now e.1)

def lockUser (tx : ℕ) (task : TokenTask) (now id userId : ℕ) : Option TokenDesk :=
  match s.tokens.get? id, s.db.users.get? userId with
  | some t, some u =>
    match raiseFirst (task.checks now t u) with
    | .error e => some (s.leave tx (.error e))
    | .ok () => some (s.enter tx (.locked task id userId))
  | _, _ => none

/-- When the call says the token was consumed: one that a resend or a revoke finds consumed is left alone. -/
def consumption (task : TokenTask) (id now : ℕ) (t : UserActionToken) : Dict ℕ ℕ :=
  if task.uses || t.consumedAt.isNone then [(id, now)] else []

def work (tx : ℕ) (task : TokenTask) (id userId : ℕ) (rawToken : String) (now : ℕ) : Option TokenDesk :=
  match s.tokens.get? id, s.db.users.get? userId with
  | some t, some u =>
    match task.work env s.db userId u rawToken now with
    | .error e => some (s.leave tx (.error e))
    | .ok none => some (s.enter tx (.worked task id userId (consumption task id now t) none))
    | .ok (some new) =>
      if s.HashFree new.tokenHash then
        some { s.enter tx (.worked task id userId (consumption task id now t) (some (s.nextToken, new))) with
          nextToken := s.nextToken + 1 }
      else none
  | _, _ => none

def committedUsers (task : TokenTask) (userId : ℕ) : UserDb :=
  match task, s.db.users.get? userId with
  | .activateAccount .., some u => s.db.put userId { u with isActive := true }
  | _, _ => s.db

def answerOf (id : ℕ) (issued : Option (ℕ × UserActionToken)) : TokenTask → TokenAnswer
  | .resetPassword .. => .passwordReset
  | .activateAccount .. => .accountActivated
  | .resendInvite .. => .invite ((issued.map Prod.fst).getD id) ((issued.map fun new => new.2.expiresAt).getD 0)
  | .revokeInvite .. => .revoked id

/-- What happened, for the history: a use, and what shall have ended. -/
def eventsOf (task : TokenTask) (id userId : ℕ) (issued : Option (ℕ × UserActionToken)) : List TokenEvent :=
  (if task.uses then [.used id] else []) ++ [.closed userId task.purpose ((issued.map Prod.fst).getD s.nextToken)]

def commit (tx : ℕ) : TokenCall → Option TokenDesk
  | .requested _ _ consumed id token =>
    some { s.leave tx (.ok .accepted) with tokens := s.written consumed (some (id, token)) }
  | .worked task id userId consumed issued =>
    some { s.leave tx (.ok (answerOf id issued task)) with
      db := s.committedUsers task userId
      tokens := s.written consumed issued
      history := s.history ++ s.eventsOf task id userId issued }
  | .requesting .. | .superseding .. | .selecting .. | .lockingToken .. | .lockingUser .. | .locked .. => none

def createUserInvite (actorId : ℕ) (actor : User) (data : UserCreateInput) (expiresSeconds : Option ℤ)
    (rawToken : String) (now : ℕ) : Option TokenDesk :=
  let created := do
    let db ← inviteUser env.toAccountEnv actorId actor s.db data
    let t ← issueTokenRecord env .inviteActivation s.db.nextId ((db.users.get? s.db.nextId).bind User.agency)
      (some actorId) rawToken (now + inviteTtlSeconds env expiresSeconds)
    return (db, t)
  match created with
  | .error e => some { s with answers := s.answers ++ [.error e] }
  | .ok (db, t) =>
    if s.HashFree t.tokenHash then
      some { s with
        db := db
        tokens := s.tokens.set s.nextToken t
        nextToken := s.nextToken + 1
        answers := s.answers ++ [.ok (.invite s.nextToken t.expiresAt)] }
    else none

def step : TokenAction → Option TokenDesk
  | .requestPasswordReset tx identifier =>
    if (s.calls.get? tx).isSome then none else some (s.requestPasswordReset env tx identifier)
  | .startSupersede tx =>
    match s.calls.get? tx with
    | some (.requesting userId agency) => some (s.startSupersede tx userId agency)
    | _ => none
  | .supersede tx now =>
    match s.calls.get? tx with
    | some (.superseding userId agency seen (id :: pending) consumed) =>
      if Unlocked TokenCall.locks s.calls tx (.token id) then
        some (s.supersede tx userId agency seen id pending consumed now)
      else none
    | _ => none
  | .insertReset tx rawToken now =>
    match s.calls.get? tx with
    | some (.superseding userId agency seen [] consumed) =>
      s.insertReset env tx userId agency seen consumed rawToken now
    | _ => none
  | .call tx task now =>
    if (s.calls.get? tx).isNone ∧ ∀ actor ∈ task.caller, s.db.users.get? actor.1 = some actor.2 then
      some (s.call tx task now)
    else none
  | .select tx =>
    match s.calls.get? tx with
    | some (.selecting task now) => some (s.select env tx task now)
    | _ => none
  | .lockToken tx =>
    match s.calls.get? tx with
    | some (.lockingToken task now id) =>
      if Unlocked TokenCall.locks s.calls tx (.token id) then
        (s.tokens.get? id).map fun t => s.enter tx (.lockingUser task now id t.user)
      else none
    | _ => none
  | .lockUser tx =>
    match s.calls.get? tx with
    | some (.lockingUser task now id userId) =>
      if Unlocked TokenCall.locks s.calls tx (.user userId) then s.lockUser tx task now id userId else none
    | _ => none
  | .work tx rawToken now =>
    match s.calls.get? tx with
    | some (.locked task id userId) => s.work env tx task id userId rawToken now
    | _ => none
  | .commit tx => (s.calls.get? tx).bind (s.commit tx)
  | .abort tx =>
    if (s.calls.get? tx).isSome then some { s with calls := s.calls.erase tx } else none
  | .createUserInvite actorId data expiresSeconds rawToken now =>
    (s.db.users.get? actorId).bind fun actor =>
      s.createUserInvite env actorId actor data expiresSeconds rawToken now

def start (db : UserDb) : TokenDesk := ⟨db, Keyed.empty, [], 0, [], []⟩

end TokenDesk

end ImmoApp.Accounts
