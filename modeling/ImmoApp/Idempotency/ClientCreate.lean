import ImmoApp.Idempotency.Fencing

/-!
# The records of client creations

`clients_list` checks the idempotency key of a POST first and stores its response last.  Between the two it returns
where the payload is not valid or the client is stale, missing or refused, and raises where anything else does; then the
record that the check got hold of stays in progress, and no purge deletes it.

`client_create_settles_iff`: the record is settled at the end of the handler exactly when the handler gets as far as the
store, or somebody else has settled it before.
-/

namespace ImmoApp.Idempotency

open List

/-! ### The handler -/

/-- What `upsert_client` ends with. -/
inductive UpsertOutcome where
  | written (clientId : ℤ)
  | conflict (message : String) (currentVersion : Option ℤ) (currentRecord : Option (Dict String Json))
  | notFound
  | valueError
  | raised

/-- What the handler calls; `none` stands for a call that raises. -/
structure ClientServices where
  /-- `ClientPayloadSerializer`: the errors, or the validated data. -/
  validate : Json → Except Json Json
  upsertClient : Json → UpsertOutcome
  getClientById : ℤ → Option (Option Json)
  serialize : Json → Option Json
  e2eTestModeEnabled : Bool
  inspectEntityState : ℤ → Option Json

inductive HandlerEnd where
  /-- It comes to `store_idempotency` with a response. -/
  | storing (response : Response)
  | returned (response : Response)
  | raised

def error (message : String) (code : ℕ) (errors : Json) : Response where
  statusCode := code
  data := .obj ([("detail", .str message)] ++ if errors.truthy then [("errors", errors)] else [])
  headers := []

def sanitizeConflictRecord (record : Dict String Json) : Dict String Json :=
  record.filter fun e => !(["_enc", "_search_idx"].any fun suffix => suffix.toList.isSuffixOf e.1.toList)

def conflictError (message : String) (currentVersion : Option ℤ) (currentRecord : Option (Dict String Json)) :
    Response :=
  error message 409 (.obj ([("row_version", .arr [.str "stale"])] ++
    (currentVersion.toList.map fun v => ("current_row_version", .int v)) ++
    [("action", .str "REFETCH_AND_RETRY")] ++
    currentRecord.toList.map fun r => ("current_record", .obj (sanitizeConflictRecord r))))

/-- `request.data if isinstance(request.data, dict) else {}`. -/
def requestData (data : Json) : Json := .obj (data.fields?.getD [])

/-- What is shown of a client that was read back. -/
def createdItem (calls : ClientServices) : Option Json → Option (Dict String Json)
  | none => some []
  | some record => (calls.serialize record).map fun data => [("item", data)]

/-- The look at the state of a client in test mode. -/
def logSnapshot (calls : ClientServices) (clientId : ℤ) : Option Json :=
  if calls.e2eTestModeEnabled then calls.inspectEntityState clientId else some .null

def createdResponse (calls : ClientServices) (clientId : ℤ) : Option Response := do
  let created ← calls.getClientById clientId
  let item ← createdItem calls created
  let _ ← logSnapshot calls clientId
  return { statusCode := 201, data := .obj ([("id", .int clientId)] ++ item), headers := [] }

/-- What follows the call of `upsert_client`. -/
def afterUpsert (calls : ClientServices) : UpsertOutcome → HandlerEnd
  | .written clientId => (createdResponse calls clientId).elim .raised .storing
  | .conflict message currentVersion currentRecord => .returned (conflictError message currentVersion currentRecord)
  | .notFound => .returned (error "Resource not found" 404 .null)
  | .valueError => .returned (error "Invalid request" 400 .null)
  | .raised => .raised

/-- The POST branch of `clients_list` after the check. -/
def clientsListPost (calls : ClientServices) (data : Json) : HandlerEnd :=
  match calls.validate (requestData data) with
  | .error errors => .returned (error "Validation failed" 400 errors)
  | .ok payload => afterUpsert calls (calls.upsertClient payload)

def Engine.finish (codec : Codec) (s : Engine) (request : ℕ) (context : IdempotencyContext) (keyring : Keyring)
    (now : ℕ) (storeCommits : Bool) : HandlerEnd → Engine
  | .storing response =>
    if storeCommits then s.store codec request context response keyring now else s.set request .over
  | .returned _ | .raised => s.set request .over

/-! ### Records that are settled -/

section Settled

variable {codec : Codec} {s : Engine} {context : IdempotencyContext} {keyring : Keyring} {now request : ℕ}
  {calls : ClientServices} {data : Json}

def Settled (context : IdempotencyContext) (s : Engine) : Prop :=
  ∀ r ∈ s.records, context.hits r = true → r.state ≠ .inProgress

/-- A purge that goes far enough deletes the record. -/
def Removable (now : ℕ) (s : Engine) (r : IdempotencyRecord) : Prop :=
  ∃ limit, r ∉ purgeExpired now limit s.records

def Creates (calls : ClientServices) (data : Json) : Prop :=
  ∃ payload clientId, calls.validate (requestData data) = .ok payload ∧
    calls.upsertClient payload = .written clientId ∧ createdResponse calls clientId ≠ none

variable {response : Response}

lemma afterUpsert_eq_storing_iff {outcome : UpsertOutcome} : afterUpsert calls outcome = .storing response ↔
      ∃ clientId, outcome = .written clientId ∧ createdResponse calls clientId = some response := by
  cases outcome with
  | written clientId =>
    rw [afterUpsert]
    cases hresponse : createdResponse calls clientId with
    | none => simp [hresponse]
    | some => simp [hresponse]
  | conflict | notFound | valueError | raised => simp [afterUpsert]

lemma creates_iff : Creates calls data ↔ ∃ response, clientsListPost calls data = .storing response := by
  rw [clientsListPost]
  cases hvalid : calls.validate (requestData data) with
  | error => simp [Creates, hvalid]
  | ok payload =>
    simp only [afterUpsert_eq_storing_iff]
    constructor
    · rintro ⟨_, clientId, hpayload, hwritten, hresponse⟩
      obtain rfl := Except.ok.inj (hvalid.symm.trans hpayload)
      obtain ⟨response, hresponse⟩ := Option.ne_none_iff_exists'.mp hresponse
      exact ⟨response, clientId, hwritten, hresponse⟩
    · rintro ⟨_, clientId, hwritten, hresponse⟩
      exact ⟨payload, clientId, hvalid, hwritten, by simp [hresponse]⟩

lemma statusCode_createdResponse {clientId : ℤ}
    (h : createdResponse calls clientId = some response) : response.statusCode = 201 := by
  simp only [createdResponse, Option.bind_eq_bind, Option.bind_eq_some_iff] at h
  obtain ⟨_, -, _, -, -, -, hresponse⟩ := h
  cases hresponse
  rfl

lemma statusCode_of_storing (h : clientsListPost calls data = .storing response) : response.statusCode = 201 := by
  rw [clientsListPost] at h
  split at h
  · cases h
  · obtain ⟨_, -, hresponse⟩ := afterUpsert_eq_storing_iff.mp h
    exact statusCode_createdResponse hresponse

lemma settled_store (hstatus : response.statusCode = 201) :
    Settled context (s.store codec request context response keyring now) := by
  intro r hr hhits
  have hauth : response.isAuthFailure = false := by simp [Response.isAuthFailure, hstatus]
  rw [Engine.store, storeIdempotency, hauth] at hr
  obtain ⟨r', -, rfl⟩ := mem_map.mp hr
  by_cases hhits' : context.hits r' = true
  · rw [if_pos hhits']
    simp [withResponse, storeColumns, hstatus]
  · rw [if_neg hhits'] at hhits
    exact absurd hhits hhits'

lemma Engine.finish_cases (codec : Codec) (s : Engine) (request : ℕ) (context : IdempotencyContext)
    (keyring : Keyring) (now : ℕ) (storeCommits : Bool) (calls : ClientServices) (data : Json) :
    (¬ (Creates calls data ∧ storeCommits = true) ∧
      s.finish codec request context keyring now storeCommits (clientsListPost calls data) = s.set request .over) ∨
    Creates calls data ∧ storeCommits = true ∧ ∃ response, response.statusCode = 201 ∧
      s.finish codec request context keyring now storeCommits (clientsListPost calls data)
        = s.store codec request context response keyring now := by
  cases hend : clientsListPost calls data with
  | storing response =>
    have hcreates : Creates calls data := creates_iff.mpr ⟨response, hend⟩
    cases storeCommits with
    | true => exact .inr ⟨hcreates, rfl, response, statusCode_of_storing hend, rfl⟩
    | false => exact .inl ⟨by simp, rfl⟩
  | returned | raised =>
    refine .inl ⟨fun hboth => ?_, rfl⟩
    obtain ⟨_, hstoring⟩ := creates_iff.mp hboth.1
    rw [hend] at hstoring
    cases hstoring

lemma removable_iff (h : Sound s) {r : IdempotencyRecord} (hr : r ∈ s.records) (hexpired : r.expiresAt < now) :
    Removable now s r ↔ r.state ≠ .inProgress := by
  constructor
  · rintro ⟨_, hdeleted⟩ hstate
    exact hdeleted (mem_purgeExpired h hr (.inl hstate))
  · intro hstate
    refine ⟨s.records.length, fun hkept => ?_⟩
    have hdoomed : r.id ∈ doomedIds now s.records.length s.records := by
      refine mem_map.mpr ⟨r, ?_, rfl⟩
      rw [take_of_length_le (by rw [length_insertionSort]; exact length_filter_le _ _), mem_insertionSort]
      exact mem_filter.mpr ⟨hr, by simpa using ⟨hexpired, hstate⟩⟩
    exact of_decide_eq_true (mem_filter.mp hkept).2 hdoomed

/-- In every state of the engine: at the end of the handler the record of its request is settled exactly when it
has created the client and its store commits, or the record was settled before; and a record that has expired can
be purged exactly when it is not in progress. -/
theorem client_create_settles_iff (codec : Codec) {acts : List Action} {s : Engine}
    (hrun : run (Engine.step codec) Engine.init acts = some s) {request : ℕ} {context : IdempotencyContext}
    (hrunning : s.attempts.get? request = some (.running context)) (calls : ClientServices) (data : Json)
    (keyring : Keyring) (now : ℕ) (storeCommits : Bool) :
    (Settled context (s.finish codec request context keyring now storeCommits (clientsListPost calls data)) ↔
      Creates calls data ∧ storeCommits = true ∨ Settled context s) ∧
    ∀ r ∈ (s.finish codec request context keyring now storeCommits (clientsListPost calls data)).records,
      ∀ later, r.expiresAt < later →
        (Removable later (s.finish codec request context keyring now storeCommits (clientsListPost calls data)) r ↔
          r.state ≠ .inProgress) := by
  have hsound : Sound s := run_invariant_of_step (fun _ _ _ h hstep => h.step hstep) sound_init hrun
  rcases Engine.finish_cases codec s request context keyring now storeCommits calls data with
    ⟨hnot, hend⟩ | ⟨hcreates, hcommits, response, hstatus, hend⟩
  · rw [hend]
    have hkept : Sound (s.set request .over) := by
      refine ⟨hsound.scopes, hsound.ids, hsound.drawn, fun request' context' hget => ?_,
        fun request' context' hget => ?_⟩
      · rcases running_of_set hget with ⟨-, hover⟩ | ⟨-, hold⟩
        · cases hover
        · exact hsound.carried request' context' hold
      · rcases running_of_set hget with ⟨-, hover⟩ | ⟨-, hold⟩
        · cases hover
        · exact hsound.held request' context' hold
    refine ⟨⟨.inr, fun hor => hor.resolve_left hnot⟩, fun r hr later hexpired => removable_iff hkept hr hexpired⟩
  · rw [hend]
    have hstep : s.step codec (.store request response keyring now)
        = some (s.store codec request context response keyring now) := by
      simp only [Engine.step, hrunning]
    have hstored : Sound (s.store codec request context response keyring now) := hsound.step hstep
    exact ⟨⟨fun _ => .inl ⟨hcreates, hcommits⟩, fun _ => settled_store hstatus⟩,
      fun r hr later hexpired => removable_iff hstored hr hexpired⟩

end Settled

/-! ### A request that is checked -/

def clientRequest : MutationRequest :=
  { sampleRequest "b" with
    normalizedRoute := "/clients/"
    policy := some ⟨"route.clients", true, .referenceOnly⟩ }

def clientChecked : List Action := [.arrive 1 true 86400 clientRequest "u" 10, .insert 1]

def clientContext : IdempotencyContext :=
  { scope := ⟨1, "/clients/", "POST", "k-1"⟩, hashes := ⟨"b", "q", "h"⟩, policy := clientRequest.policy,
    legacyHeader := false, leaseOwner := "req-u", recordId := 1, createdAt := some 10, expiresAt := some 86410 }

def clientRecord : IdempotencyRecord where
  id := 1
  scope := ⟨1, "/clients/", "POST", "k-1"⟩
  hashes := ⟨"b", "q", "h"⟩
  state := .inProgress
  attempt := 1
  leaseOwner := "req-u"
  leaseUntil := some 13
  response := none
  createdAt := 10
  expiresAt := 86410
  updatedAt := 10
  holder := 1

def checkedEngine : Engine := ⟨[clientRecord], 2, [(1, .running clientContext)], [], [], []⟩

lemma run_clientChecked : run (Engine.step sampleCodec) Engine.init clientChecked = some checkedEngine := by
  decide +kernel

def clientServices (valid : Bool) : ClientServices :=
  { validate := fun data => if valid then .ok data else .error (.obj [("phone", .arr [.str "Invalid"])])
    upsertClient := fun _ => .written 5
    getClientById := fun _ => some (some (.obj [("id", .int 5)]))
    serialize := some
    e2eTestModeEnabled := false
    inspectEntityState := fun _ => none }

theorem client_create_settles_written : Creates (clientServices true) .null ∧ Settled clientContext
      (checkedEngine.finish sampleCodec 1 clientContext noKeys 12 true (clientsListPost (clientServices true) .null)) := by
  have hcreates : Creates (clientServices true) .null := ⟨.obj [], 5, rfl, rfl, nofun⟩
  have hrunning : checkedEngine.attempts.get? 1 = some (.running clientContext) := rfl
  have hiff := client_create_settles_iff sampleCodec run_clientChecked hrunning (clientServices true) .null noKeys
    12 true
  exact ⟨hcreates, hiff.1.mpr (.inl ⟨hcreates, rfl⟩)⟩

/-- The phone number is invalid: the record stays in progress. -/
theorem invalid_client_abandons_record :
    ¬ ∀ (codec : Codec) (acts : List Action) (s : Engine) (request : ℕ) (context : IdempotencyContext)
      (calls : ClientServices) (data : Json) (keyring : Keyring) (now : ℕ) (storeCommits : Bool),
      run (Engine.step codec) Engine.init acts = some s → s.attempts.get? request = some (.running context) →
      Settled context (s.finish codec request context keyring now storeCommits (clientsListPost calls data)) ∧
      ∀ r ∈ (s.finish codec request context keyring now storeCommits (clientsListPost calls data)).records,
        ∀ later, r.expiresAt < later →
          Removable later (s.finish codec request context keyring now storeCommits (clientsListPost calls data)) r := by
  intro h
  obtain ⟨hsettled, -⟩ := h sampleCodec clientChecked checkedEngine 1 clientContext (clientServices false) .null noKeys
    12 true run_clientChecked rfl
  exact hsettled _ mem_cons_self (by decide) rfl

end ImmoApp.Idempotency
