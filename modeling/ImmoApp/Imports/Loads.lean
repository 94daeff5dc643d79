import ImmoApp.Imports.Phases

/-!
# Loading a chunk

Each attempt of the LOAD phase claims the phase, opens a transaction of its own, asserts its lease before every batch
and around the insert, commits, and after that completes the phase on another connection.

The model follows the attempts on one chunk that is not a root chunk.  An attempt, known by its lease token, may be
cancelled, hit an exception or stop between any two steps; the same task may be delivered again at any time.
-/

namespace ImmoApp.Imports

open List Option

inductive ChunkRole where
  | single
  | child

inductive EntityType where
  | client
  | demande
  | listing
  | offer
  deriving DecidableEq

structure PlannedEntry where
  data : Dict String Json
  anchorId : ℤ
  anchorKey : String

structure Chunk where
  phaseId : ℕ
  role : ChunkRole
  entityType : EntityType
  entries : List PlannedEntry

structure LoadedRow where
  entry : ℕ
  data : Dict String Json

namespace Chunk

def childParentField (chunk : Chunk) : String :=
  if chunk.entityType = .demande then "client_id" else "listing_id"

/-- The parent of a child entry; positive where `classify_child_anchor` resolves it. -/
def anchorOf (anchors : Dict String ℤ) (entry : PlannedEntry) : ℤ :=
  if entry.anchorId ≤ 0 then (anchors.get? entry.anchorKey).getD 0 else entry.anchorId

/-- The record of an entry.  A child without a parent has none. -/
def recordOf (chunk : Chunk) (anchors : Dict String ℤ) (entry : PlannedEntry) : Option (Dict String Json) :=
  match chunk.role with
  | .single => some entry.data
  | .child =>
    if 0 < anchorOf anchors entry then
      some (entry.data.set chunk.childParentField (.int (anchorOf anchors entry)))
    else none

/-- `_adaptive_inner_batch_size`, for the ceiling of the profile. -/
def innerBatchSize (chunk : Chunk) (ceiling : ℕ) : ℕ :=
  max 25 (min (max 1 chunk.entries.length) ceiling)

/-- `entries[start : start + size]`, with positions. -/
def batch (chunk : Chunk) (start size : ℕ) : List (PlannedEntry × ℕ) :=
  ((chunk.entries.drop start).take size).zipIdx start

def batchRows (chunk : Chunk) (anchors : Dict String ℤ) (start size : ℕ) : List LoadedRow :=
  (chunk.batch start size).filterMap fun e =>
    (chunk.recordOf anchors e.1).map fun data => ⟨e.2, data⟩

def batchErrors (chunk : Chunk) (anchors : Dict String ℤ) (start size : ℕ) : ℕ :=
  (chunk.batch start size).countP fun e => (chunk.recordOf anchors e.1).isNone

/-- `evaluate_orphan_threshold`: more than a tenth of the entries lost their parent. -/
def hardFail (chunk : Chunk) (errors : ℕ) : Bool := decide (max 1 chunk.entries.length < 10 * errors)

end Chunk

/-! ### Attempts -/

inductive Stage where
  | claimed
  | batch (start : ℕ)
  | required (start : ℕ)
  | fenced (start : ℕ)
  | committed
  deriving DecidableEq

structure Attempt where
  stage : Stage
  /-- The parents created by the load of root chunks, as it read them. -/
  anchors : Dict String ℤ
  batchSize : ℕ
  session : List LoadedRow
  errors : ℕ

structure LoadState where
  lease : LeaseState
  attempts : Keyed String Attempt
  committed : List LoadedRow

namespace LoadState

def move (s : LoadState) (token : String) (a : Attempt) : LoadState :=
  { s with attempts := s.attempts.set token a }

/-- An attempt is over: its transaction is rolled back where it is still open. -/
def finish (s : LoadState) (token : String) : LoadState :=
  { s with attempts := s.attempts.delete fun t _ => t == token }

def heartbeat (ttl : ℕ) (chunk : Chunk) (token : String) (s : LoadState) : LoadState :=
  { s with lease := s.lease.heartbeatPhaseLease ttl chunk.phaseId token }

def holds (chunk : Chunk) (token : String) (s : LoadState) : Bool :=
  s.lease.phaseLeaseActive chunk.phaseId token

def job (chunk : Chunk) (s : LoadState) : JobRow :=
  ((s.lease.phases.get? chunk.phaseId).map s.lease.jobOf).getD ⟨.pending, false⟩

/-- `claim_phase_attempt_started`. -/
def claim (ttl : ℕ) (chunk : Chunk) (taskId token : String) (s : LoadState) : LoadState :=
  let s' := { s with lease := s.lease.acquirePhase ttl chunk.phaseId taskId token }
  if s.lease.acquires chunk.phaseId taskId then s'.move token ⟨.claimed, [], 0, [], 0⟩ else s'

/-- `assert_phase_attempt_current`: a heartbeat, and the end of an attempt that lost its lease. -/
def assertCurrent (ttl : ℕ) (chunk : Chunk) (token : String) (a : Attempt) (s : LoadState) : LoadState :=
  if s.holds chunk token then (s.heartbeat ttl chunk token).move token a else s.finish token

/-- `raise_phase_attempt_cancelled`: the phase is cancelled where the attempt holds it. -/
def cancelled (chunk : Chunk) (token : String) (s : LoadState) : LoadState :=
  let error := [("code", .str "import_phase_cancelled")]
  { s with lease := s.lease.cancelPhaseAttempt chunk.phaseId token error }.finish token

/-- The insert of a batch inside `run_with_phase_attempt_fence`, under the lock of the phase's row. -/
def insert (chunk : Chunk) (token : String) (a : Attempt) (start : ℕ) (s : LoadState) : LoadState :=
  if !s.holds chunk token || (s.job chunk).status != .running then s.finish token
  else if (s.job chunk).cancelRequested then s.cancelled chunk token
  else
    s.move token { a with
      stage := .batch (start + a.batchSize)
      session := a.session ++ chunk.batchRows a.anchors start a.batchSize
      errors := a.errors + chunk.batchErrors a.anchors start a.batchSize }

/-- `handle_phase_exception`: the phase is queued for a retry, or fails where the attempt holds it. -/
def fault (chunk : Chunk) (token : String) (retryable : Bool) (error : Dict String Json)
    (s : LoadState) : LoadState :=
  { s with lease :=
      if retryable then s.lease.retryPhase chunk.phaseId error
      else s.lease.failPhase chunk.phaseId token error }.finish token

end LoadState

/-! ### Steps -/

/-- The steps of attempts, and of everything else. -/
inductive LoadStep where
  /-- A task claims the phase with a new token, when it is delivered first or again. -/
  | claim (taskId token : String)
  | start (token : String) (anchors : Dict String ℤ) (ceiling : ℕ)
  /-- `require_phase_lease`, before a batch. -/
  | requireLease (token : String)
  | fence (token : String)
  | insert (token : String)
  | commit (token : String)
  | complete (token : String) (metrics : Dict String Json)
  | cancel (token : String)
  | fault (token : String) (retryable : Bool) (error : Dict String Json)
  | stop (token : String)
  | other (a : LeaseStep)

def LeaseStep.worksOn (id : ℕ) : LeaseStep → Bool
  | .acquire i _ _ | .heartbeat i _ | .complete i _ _ | .fail i _ _ | .cancelAttempt i _ _
  | .retry i _ _ => i == id
  | .queue _ _ | .requestCancellation _ | .setJobStatus _ _ | .tick _ | .readExpired
  | .requeueNext _ => false

def attemptStep (ttl : ℕ) (chunk : Chunk) (s : LoadState) (token : String) (a : Attempt) : LoadStep → Option LoadState
  | .start _ anchors ceiling =>
    if a.stage = .claimed then
      some (s.move token ⟨.batch 0, anchors, chunk.innerBatchSize ceiling, [], 0⟩)
    else none
  | .requireLease _ =>
    match a.stage with
    | .batch start =>
      if start < chunk.entries.length then
        some (s.assertCurrent ttl chunk token { a with stage := .required start })
      else none
    | _ => none
  | .fence _ =>
    match a.stage with
    | .required start =>
      -- a batch of children without rows is skipped
      if chunk.batchRows a.anchors start a.batchSize = [] then
        some (s.move token { a with
          stage := .batch (start + a.batchSize)
          errors := a.errors + chunk.batchErrors a.anchors start a.batchSize })
      else some (s.assertCurrent ttl chunk token { a with stage := .fenced start })
    | _ => none
  | .insert _ =>
    match a.stage with
    | .fenced start => some (s.insert chunk token a start)
    | _ => none
  | .commit _ =>
    match a.stage with
    | .batch start =>
      if chunk.entries.length ≤ start ∧ chunk.hardFail a.errors = false then
        some ({ s with committed := s.committed ++ a.session }.move token
          { a with stage := .committed, session := [] })
      else none
    | _ => none
  | .complete _ metrics =>
    if a.stage = .committed then
      some ({ s with lease := s.lease.completePhase chunk.phaseId token metrics }.finish token)
    else none
  | .cancel _ => if a.stage = .committed then none else some (s.cancelled chunk token)
  | .fault _ retryable error => some (s.fault chunk token retryable error)
  | .stop _ => some (s.finish token)
  | .claim _ _ | .other _ => none

def LoadStep.token? : LoadStep → Option String
  | .start token _ _ | .requireLease token | .fence token | .insert token | .commit token
  | .complete token _ | .cancel token | .fault token _ _ | .stop token => some token
  | .claim _ _ | .other _ => none

def loadStep (ttl : ℕ) (chunk : Chunk) (s : LoadState) : LoadStep → Option LoadState
  | .claim taskId token =>
    if token = "" ∨ token ∈ s.lease.tokens then none else some (s.claim ttl chunk taskId token)
  | .other a =>
    if a.worksOn chunk.phaseId then none
    else (leaseStep ttl s.lease a).map fun lease => { s with lease := lease }
  | step =>
    step.token?.bind fun token => (s.attempts.get? token).bind fun a =>
      attemptStep ttl chunk s token a step

/-! ### Who holds the phase after a step -/

section Holds

variable {s t : LeaseState} {ttl id : ℕ} {token : String}

lemma phaseLeaseActive_iff : s.phaseLeaseActive id token = true ↔
    token ≠ "" ∧ ∃ p, s.phases.get? id = some p ∧ p.heldBy token = true := by
  simp [LeaseState.phaseLeaseActive, Option.any_eq_true]

lemma PhaseRow.not_heldBy {p : PhaseRow} (h : p.status ≠ .running) : p.heldBy token = false := by
  simp [PhaseRow.heldBy, h]

lemma eq_of_phaseLeaseActive {token' : String} (h : s.phaseLeaseActive id token = true)
    (h' : s.phaseLeaseActive id token' = true) : token = token' := by
  obtain ⟨-, p, hp, hheld⟩ := phaseLeaseActive_iff.mp h
  obtain ⟨-, p', hp', hheld'⟩ := phaseLeaseActive_iff.mp h'
  have heq : p = p' := some.inj (hp.symm.trans hp')
  subst heq
  simp only [PhaseRow.heldBy, Bool.and_eq_true, beq_iff_eq] at hheld hheld'
  exact hheld.2.symm.trans hheld'.2

def NoNewHolder (id : ℕ) (s t : LeaseState) : Prop :=
  ∀ token, t.phaseLeaseActive id token = true → s.phaseLeaseActive id token = true

lemma noNewHolder_of_phases (h : t.phases = s.phases) : NoNewHolder id s t := by
  intro token htoken
  rwa [LeaseState.phaseLeaseActive, h] at htoken

lemma noNewHolder_assign {i : ℕ} {sel : PhaseRow → Bool} {f : PhaseRow → PhaseRow}
    (hf : i = id → ∀ p token, s.phases.get? id = some p → sel p = true → (f p).heldBy token = true →
      p.heldBy token = true) : NoNewHolder id s (s.assign i sel f) := by
  intro token htoken
  obtain ⟨hne, q, hq, hheld⟩ := phaseLeaseActive_iff.mp htoken
  refine phaseLeaseActive_iff.mpr ⟨hne, ?_⟩
  rcases LeaseState.get?_assign_eq_some hq with hold | ⟨rfl, p, hp, hsel, rfl⟩
  · exact ⟨q, hold, hheld⟩
  · exact ⟨p, hp, hf rfl p token hp hsel hheld⟩

lemma noNewHolder_assign_of_status {i : ℕ} {sel : PhaseRow → Bool} {f : PhaseRow → PhaseRow}
    (hf : ∀ p, (f p).status ≠ .running) : NoNewHolder id s (s.assign i sel f) := by
  refine noNewHolder_assign fun _ p token _ _ hheld => ?_
  rw [PhaseRow.not_heldBy (hf p)] at hheld
  simp at hheld

lemma noNewHolder_heartbeat {i : ℕ} {token : String} : NoNewHolder id s (s.heartbeatPhaseLease ttl i token) :=
  noNewHolder_assign fun _ _ _ _ _ hheld => hheld

lemma noNewHolder_acquire {taskId token : String} (h : s.acquires id taskId = false) :
    NoNewHolder id s (s.acquirePhase ttl id taskId token) := by
  unfold LeaseState.acquirePhase
  split
  · exact fun _ htoken => htoken
  · next p hp =>
    split
    · exact noNewHolder_assign_of_status fun p => by simp
    · next hactive =>
      refine noNewHolder_assign (s := { s with tokens := token :: s.tokens })
        fun _ p' token' hp' hsel hheld => ?_
      have heq : p = p' := some.inj (hp.symm.trans hp')
      subst heq
      simp [LeaseState.acquires, hp, hsel] at h
      simp [h] at hactive

lemma noNewHolder_step {a : LeaseStep} (hother : a.worksOn id = false)
    (hstep : leaseStep ttl s a = some t) : NoNewHolder id s t := by
  cases a with
  | acquire i _ token =>
    have hne : i ≠ id := by simpa [LeaseStep.worksOn] using hother
    rw [leaseStep] at hstep
    split at hstep
    · simp at hstep
    · obtain ⟨⟩ := hstep
      unfold LeaseState.acquirePhase
      split
      · exact fun _ htoken => htoken
      · split
        · exact noNewHolder_assign_of_status fun p => by simp
        · exact noNewHolder_assign (s := { s with tokens := token :: s.tokens })
            fun heq => absurd heq hne
  | heartbeat =>
    obtain ⟨⟩ := hstep
    exact noNewHolder_heartbeat
  | complete =>
    obtain ⟨⟩ := hstep
    exact noNewHolder_assign_of_status fun p => by simp
  | fail =>
    obtain ⟨⟩ := hstep
    exact noNewHolder_assign_of_status fun p => by simp
  | cancelAttempt =>
    obtain ⟨⟩ := hstep
    exact noNewHolder_assign_of_status fun p => by simp
  | retry =>
    obtain ⟨⟩ := hstep
    exact noNewHolder_assign_of_status fun p => by simp
  | queue =>
    obtain ⟨⟩ := hstep
    exact noNewHolder_assign_of_status fun p => by simp
  | requestCancellation jobId =>
    obtain ⟨⟩ := hstep
    intro token htoken
    obtain ⟨hne, q, hq, hheld⟩ := phaseLeaseActive_iff.mp htoken
    have hget : (s.phases.update (fun _ p => p.jobId == jobId && p.cancellable) fun _ p =>
        { p.unleased with status := .cancelled, finishedAt := some s.clock }).get? id = some q := hq
    rw [Keyed.get?_update] at hget
    obtain ⟨p, hp, rfl⟩ := map_eq_some_iff.mp hget
    refine phaseLeaseActive_iff.mpr ⟨hne, p, hp, ?_⟩
    split at hheld
    · rw [PhaseRow.not_heldBy (by simp)] at hheld
      simp at hheld
    · exact hheld
  | setJobStatus =>
    obtain ⟨⟩ := hstep
    exact noNewHolder_of_phases rfl
  | tick =>
    obtain ⟨⟩ := hstep
    exact noNewHolder_of_phases rfl
  | readExpired =>
    obtain ⟨⟩ := hstep
    exact noNewHolder_of_phases rfl
  | requeueNext k =>
    obtain ⟨⟨r, e⟩, _, rfl⟩ := map_eq_some_iff.mp hstep
    have hrequeue : NoNewHolder id { s with
        requeues := s.requeues.set k { r with phases := r.phases.tail } }
        ({ s with requeues := s.requeues.set k { r with phases := r.phases.tail } }.requeuePhase e) := by
      unfold LeaseState.requeuePhase
      split
      · exact noNewHolder_assign_of_status fun p => by simp
      · exact noNewHolder_assign_of_status fun p => by simp
    exact hrequeue

end Holds

/-! ### Rows of an attempt -/

def Stage.start : Stage → ℕ
  | .batch start | .required start | .fenced start => start
  | .claimed | .committed => 0

/-- An attempt has inserted each entry at most once, and none from its next batch on. -/
structure Attempt.InOrder (a : Attempt) : Prop where
  nodup : (a.session.map LoadedRow.entry).Nodup
  below : ∀ r ∈ a.session, r.entry < a.stage.start

lemma batchRows_sublist (chunk : Chunk) (anchors : Dict String ℤ) (start size : ℕ) :
    ((chunk.batchRows anchors start size).map LoadedRow.entry).Sublist ((chunk.batch start size).map Prod.snd) := by
  unfold Chunk.batchRows
  induction chunk.batch start size with
  | nil => simp
  | cons e _ ih =>
    rw [filterMap_cons]
    cases chunk.recordOf anchors e.1 with
    | none => exact ih.cons _
    | some => exact ih.cons_cons _

lemma nodup_batchRows (chunk : Chunk) (anchors : Dict String ℤ) (start size : ℕ) :
    ((chunk.batchRows anchors start size).map LoadedRow.entry).Nodup := by
  refine List.Nodup.sublist (batchRows_sublist chunk anchors start size) ?_
  rw [Chunk.batch, zipIdx_map_snd]
  exact nodup_range'

lemma mem_batchRows {chunk : Chunk} {anchors : Dict String ℤ} {start size : ℕ} {r : LoadedRow}
    (h : r ∈ chunk.batchRows anchors start size) : start ≤ r.entry ∧ r.entry < start + size := by
  have hmem := (batchRows_sublist chunk anchors start size).subset (mem_map_of_mem h)
  rw [Chunk.batch, zipIdx_map_snd, mem_range'_1] at hmem
  have hlength := length_take_le size (chunk.entries.drop start)
  omega

lemma Attempt.InOrder.insert {a : Attempt} (h : a.InOrder) {start : ℕ} (hstage : a.stage = .fenced start)
    (chunk : Chunk) (errors : ℕ) :
    Attempt.InOrder { a with
      stage := .batch (start + a.batchSize)
      session := a.session ++ chunk.batchRows a.anchors start a.batchSize
      errors := errors } where
  nodup := by
    rw [map_append]
    refine nodup_append.mpr ⟨h.nodup, nodup_batchRows _ _ _ _, ?_⟩
    intro i hi j hj heq
    obtain ⟨r, hr, rfl⟩ := mem_map.mp hi
    obtain ⟨_, hr', rfl⟩ := mem_map.mp hj
    have hbelow := h.below r hr
    rw [hstage] at hbelow
    have hstart : r.entry < start := hbelow
    have hbatch := (mem_batchRows hr').1
    omega
  below := by
    intro r hr
    change r.entry < start + a.batchSize
    rcases mem_append.mp hr with hold | hnew
    · have hbelow := h.below r hold
      rw [hstage] at hbelow
      have hstart : r.entry < start := hbelow
      omega
    · exact (mem_batchRows hnew).2

lemma Attempt.InOrder.advance {a a' : Attempt} (h : a.InOrder) (hsession : a'.session = a.session)
    (hstart : a.stage.start ≤ a'.stage.start) : a'.InOrder where
  nodup := hsession ▸ h.nodup
  below := fun r hr => (h.below r (hsession ▸ hr)).trans_le hstart

lemma Attempt.inOrder_of_nil {a : Attempt} (h : a.session = []) : a.InOrder where
  nodup := by simp [h]
  below := by simp [h]

/-! ### Loaded once -/

/-- Each entry has at most one committed row; once rows are committed, no attempt that has not committed
holds the phase. -/
structure LoadedOnce (chunk : Chunk) (s : LoadState) : Prop where
  inOrder : ∀ token a, s.attempts.get? token = some a → a.InOrder
  once : (s.committed.map LoadedRow.entry).Nodup
  fenced : s.committed ≠ [] → ∀ token a, s.attempts.get? token = some a → a.stage ≠ .committed →
    s.holds chunk token = false

/-- What an attempt needs: the phase when it commits its rows, and nothing committed when it claims. -/
def FencedLoad (chunk : Chunk) (s : LoadState) : LoadStep → Bool
  | .commit token => s.holds chunk token
  | .claim taskId _ => s.committed.isEmpty || !s.lease.acquires chunk.phaseId taskId
  | _ => true

section Once

variable {chunk : Chunk} {ttl : ℕ} {s t : LoadState} {token : String} {a : Attempt}

section

variable (h : LoadedOnce chunk s)
include h

lemma LoadedOnce.mono (hcommitted : t.committed = s.committed)
    (hattempts : ∀ token a', t.attempts.get? token = some a' → a'.InOrder ∧
      (a'.stage ≠ .committed → ∃ a, s.attempts.get? token = some a ∧ a.stage ≠ .committed))
    (hholds : NoNewHolder chunk.phaseId s.lease t.lease) : LoadedOnce chunk t where
  inOrder := fun token a' ha' => (hattempts token a' ha').1
  once := hcommitted ▸ h.once
  fenced := by
    intro hne token a' ha' hstage
    obtain ⟨a, ha, hearly⟩ := (hattempts token a' ha').2 hstage
    have hlost := h.fenced (hcommitted ▸ hne) token a ha hearly
    by_contra hnot
    have hholding : t.holds chunk token = true := by simpa using hnot
    have hheld := hholds token hholding
    rw [LoadState.holds, hheld] at hlost
    simp at hlost

lemma LoadedOnce.lease {lease : LeaseState}
    (hholds : NoNewHolder chunk.phaseId s.lease lease) : LoadedOnce chunk { s with lease := lease } :=
  h.mono rfl (fun token a' ha' => ⟨h.inOrder token a' ha', fun hstage => ⟨a', ha', hstage⟩⟩) hholds

lemma LoadedOnce.finish (token : String) : LoadedOnce chunk (s.finish token) := by
  refine h.mono rfl (fun token' a' ha' => ?_) fun _ hheld => hheld
  have hget : (s.attempts.delete fun t _ => t == token).get? token' = some a' := ha'
  rw [Keyed.get?_delete] at hget
  have hold := (filter_eq_some_iff.mp hget).1
  exact ⟨h.inOrder token' a' hold, fun hstage => ⟨a', hold, hstage⟩⟩

lemma LoadedOnce.move (hget : s.attempts.get? token = some a)
    (hearly : a.stage ≠ .committed) {a' : Attempt} (horder : a'.InOrder) :
    LoadedOnce chunk (s.move token a') := by
  refine h.mono rfl (fun token' b hb => ?_) fun _ hheld => hheld
  have hset : (s.attempts.set token a').get? token' = some b := hb
  rw [Keyed.get?_set] at hset
  split at hset
  · next heq =>
    obtain ⟨⟩ := hset
    exact ⟨horder, fun _ => ⟨a, heq ▸ hget, hearly⟩⟩
  · exact ⟨h.inOrder token' b hset, fun hstage => ⟨b, hset, hstage⟩⟩

lemma LoadedOnce.assertCurrent (hget : s.attempts.get? token = some a)
    (hearly : a.stage ≠ .committed) {a' : Attempt} (horder : a'.InOrder) :
    LoadedOnce chunk (s.assertCurrent ttl chunk token a') := by
  unfold LoadState.assertCurrent
  split
  · exact (h.lease noNewHolder_heartbeat).move hget hearly horder
  · exact h.finish token

lemma LoadedOnce.cancelled (token : String) : LoadedOnce chunk (s.cancelled chunk token) := by
  have hholds : ∀ error, NoNewHolder chunk.phaseId s.lease (s.lease.cancelPhaseAttempt chunk.phaseId token error) :=
    fun error => noNewHolder_assign_of_status fun p => by simp
  exact (h.lease (hholds _)).finish token

lemma LoadedOnce.insert (hget : s.attempts.get? token = some a) {start : ℕ}
    (hstage : a.stage = .fenced start) : LoadedOnce chunk (s.insert chunk token a start) := by
  unfold LoadState.insert
  split
  · exact h.finish token
  · split
    · exact h.cancelled token
    · refine h.move hget (by simp [hstage]) ?_
      exact (h.inOrder token a hget).insert hstage chunk _

lemma LoadedOnce.fault (token : String) (retryable : Bool)
    (error : Dict String Json) : LoadedOnce chunk (s.fault chunk token retryable error) := by
  have hholds : NoNewHolder chunk.phaseId s.lease (if retryable then s.lease.retryPhase chunk.phaseId error
        else s.lease.failPhase chunk.phaseId token error) := by
    split
    · exact noNewHolder_assign_of_status fun p => by simp
    · exact noNewHolder_assign_of_status fun p => by simp
  exact (h.lease hholds).finish token

lemma LoadedOnce.commit (hget : s.attempts.get? token = some a)
    (hearly : a.stage ≠ .committed) (hholds : s.holds chunk token = true) :
    LoadedOnce chunk ({ s with committed := s.committed ++ a.session }.move token
      { a with stage := .committed, session := [] }) := by
  have hnone : s.committed = [] := by
    by_contra hne
    have hlost := h.fenced hne token a hget hearly
    rw [hholds] at hlost
    simp at hlost
  have hattempt : ∀ token' b, (s.attempts.set token
      { a with stage := .committed, session := [] }).get? token' = some b →
        b.InOrder ∧ (b.stage ≠ .committed → token' ≠ token) := by
    intro token' b hb
    rw [Keyed.get?_set] at hb
    split at hb
    · obtain ⟨⟩ := hb
      exact ⟨Attempt.inOrder_of_nil rfl, fun hstage => absurd rfl hstage⟩
    · next hne => exact ⟨h.inOrder token' b hb, fun _ => hne⟩
  refine ⟨fun token' b hb => (hattempt token' b hb).1, ?_, fun _ token' b hb hstage => ?_⟩
  · change ((s.committed ++ a.session).map LoadedRow.entry).Nodup
    rw [hnone]
    exact (h.inOrder token a hget).nodup
  · by_contra hnot
    have hholding : s.holds chunk token' = true := (Bool.not_eq_false _).mp hnot
    exact (hattempt token' b hb).2 hstage (eq_of_phaseLeaseActive hholding hholds)

lemma LoadedOnce.complete (token : String) (metrics : Dict String Json) : LoadedOnce chunk
      ({ s with lease := s.lease.completePhase chunk.phaseId token metrics }.finish token) := by
  have hholds : NoNewHolder chunk.phaseId s.lease (s.lease.completePhase chunk.phaseId token metrics) :=
    noNewHolder_assign_of_status fun p => by simp
  exact (h.lease hholds).finish token

lemma LoadedOnce.claim {taskId : String} (hguard : FencedLoad chunk s (.claim taskId token) = true) :
    LoadedOnce chunk (s.claim ttl chunk taskId token) := by
  unfold LoadState.claim
  by_cases hacquires : s.lease.acquires chunk.phaseId taskId = true
  · have hnone : s.committed = [] := by simpa [FencedLoad, hacquires] using hguard
    rw [if_pos hacquires]
    refine ⟨fun token' b hb => ?_, h.once, fun hne => absurd hnone hne⟩
    have hset : (s.attempts.set token ⟨.claimed, [], 0, [], 0⟩).get? token' = some b := hb
    rw [Keyed.get?_set] at hset
    split at hset
    · obtain ⟨⟩ := hset
      exact Attempt.inOrder_of_nil rfl
    · exact h.inOrder token' b hset
  · rw [if_neg hacquires]
    exact h.lease (noNewHolder_acquire (by simpa using hacquires))

lemma LoadedOnce.attemptStep (hget : s.attempts.get? token = some a)
    {step : LoadStep} (hcommit : ∀ token', step = .commit token' → s.holds chunk token = true)
    (hstep : attemptStep ttl chunk s token a step = some t) : LoadedOnce chunk t := by
  have horder := h.inOrder token a hget
  cases step with
  | start =>
    rw [Imports.attemptStep] at hstep
    split at hstep
    · next hstage =>
      obtain ⟨⟩ := hstep
      exact h.move hget (by simp [hstage]) (Attempt.inOrder_of_nil rfl)
    · simp at hstep
  | requireLease =>
    rw [Imports.attemptStep] at hstep
    split at hstep
    · next start hstage =>
      split at hstep
      · obtain ⟨⟩ := hstep
        refine h.assertCurrent hget (by simp [hstage]) (horder.advance rfl ?_)
        rw [hstage]
        exact le_rfl
      · simp at hstep
    · simp at hstep
  | fence =>
    rw [Imports.attemptStep] at hstep
    split at hstep
    · next start hstage =>
      split at hstep
      · obtain ⟨⟩ := hstep
        refine h.move hget (by simp [hstage]) (horder.advance rfl ?_)
        rw [hstage]
        exact Nat.le_add_right _ _
      · obtain ⟨⟩ := hstep
        refine h.assertCurrent hget (by simp [hstage]) (horder.advance rfl ?_)
        rw [hstage]
        exact le_rfl
    · simp at hstep
  | insert =>
    rw [Imports.attemptStep] at hstep
    split at hstep
    · next start hstage =>
      obtain ⟨⟩ := hstep
      exact h.insert hget hstage
    · simp at hstep
  | commit token' =>
    rw [Imports.attemptStep] at hstep
    split at hstep
    · next start hstage =>
      split at hstep
      · obtain ⟨⟩ := hstep
        exact h.commit hget (by simp [hstage]) (hcommit token' rfl)
      · simp at hstep
    · simp at hstep
  | complete _ metrics =>
    rw [Imports.attemptStep] at hstep
    split at hstep
    · obtain ⟨⟩ := hstep
      exact h.complete token metrics
    · simp at hstep
  | cancel =>
    rw [Imports.attemptStep] at hstep
    split at hstep
    · simp at hstep
    · obtain ⟨⟩ := hstep
      exact h.cancelled token
  | fault _ retryable error =>
    obtain ⟨⟩ := hstep
    exact h.fault token retryable error
  | stop =>
    obtain ⟨⟩ := hstep
    exact h.finish token
  | claim => simp [Imports.attemptStep] at hstep
  | other => simp [Imports.attemptStep] at hstep

/-- Every step keeps entries loaded once, where commits are made by holders and claims before them. -/
lemma LoadedOnce.step {step : LoadStep}
    (hguard : FencedLoad chunk s step = true) (hstep : loadStep ttl chunk s step = some t) :
    LoadedOnce chunk t := by
  have hattempt : ∀ token, (∀ token', step = .commit token' → s.holds chunk token = true) →
      ((s.attempts.get? token).bind fun a => Imports.attemptStep ttl chunk s token a step) = some t →
        LoadedOnce chunk t := by
    intro token hcommit hbind
    obtain ⟨a, hget, ha⟩ := bind_eq_some_iff.mp hbind
    exact h.attemptStep hget hcommit ha
  cases step with
  | claim =>
    rw [loadStep] at hstep
    split at hstep
    · simp at hstep
    · obtain ⟨⟩ := hstep
      exact h.claim hguard
  | other =>
    rw [loadStep] at hstep
    split at hstep
    · simp at hstep
    · next hother =>
      obtain ⟨_, hlease, rfl⟩ := map_eq_some_iff.mp hstep
      exact h.lease (noNewHolder_step (by simpa using hother) hlease)
  | commit token =>
    refine hattempt token (fun token' heq => ?_) hstep
    exact hguard
  | start token => exact hattempt token (by simp) hstep
  | requireLease token => exact hattempt token (by simp) hstep
  | fence token => exact hattempt token (by simp) hstep
  | insert token => exact hattempt token (by simp) hstep
  | complete token => exact hattempt token (by simp) hstep
  | cancel token => exact hattempt token (by simp) hstep
  | fault token => exact hattempt token (by simp) hstep
  | stop token => exact hattempt token (by simp) hstep

end

end Once

def LoadState.Untried (s : LoadState) : Prop := s.attempts = Keyed.empty ∧ s.committed = []

/-- In every run in which each commit is made by the attempt that holds the phase, and no attempt claims
the phase after rows were committed, each planned entry has at most one committed row. -/
theorem entries_loaded_once {ttl : ℕ} {chunk : Chunk} {s t : LoadState} {steps : List LoadStep} (hinit : s.Untried)
    (hguard : Guarded (loadStep ttl chunk) (fun s a => FencedLoad chunk s a = true) s steps)
    (hrun : run (loadStep ttl chunk) s steps = some t) (i : ℕ) :
    t.committed.countP (fun r => r.entry == i) ≤ 1 := by
  have hstart : LoadedOnce chunk s :=
    ⟨by simp [hinit.1], by simp [hinit.2], fun hne => absurd hinit.2 hne⟩
  have honce : LoadedOnce chunk t :=
    run_invariant (fun _ _ _ h hg hstep => h.step hg hstep) hstart hguard hrun
  have hcount : (t.committed.map LoadedRow.entry).count i ≤ 1 :=
    nodup_iff_count_le_one.mp honce.once i
  rwa [List.count, countP_map] at hcount

def demandeChunk : Chunk := ⟨1, .child, .demande, [⟨[("type", .str "apartment")], 7, ""⟩]⟩

def queuedLoad : LoadState := ⟨queuedPhase, Keyed.empty, []⟩

def loadAttempt (token : String) : List LoadStep :=
  [.claim "task" token, .start token [] 100, .requireLease token, .fence token, .insert token, .commit token]

def completedLoad : List LoadStep := loadAttempt "a" ++ ([.complete "a" [], .claim "task" "b"] : List LoadStep)

theorem entries_loaded_once_completed : ∃ t, run (loadStep 180 demandeChunk) queuedLoad completedLoad = some t ∧
      t.committed.countP (fun r => r.entry == 0) ≤ 1 := by
  obtain ⟨t, hrun⟩ : ∃ t, run (loadStep 180 demandeChunk) queuedLoad completedLoad = some t :=
    isSome_iff_exists.mp (by decide +kernel)
  have hguard : Guarded (loadStep 180 demandeChunk) (fun s a => FencedLoad demandeChunk s a = true)
      queuedLoad completedLoad := by
    decide +kernel
  exact ⟨t, hrun, entries_loaded_once ⟨rfl, rfl⟩ hguard hrun 0⟩

/-- A task whose process stops after its commit, and that is delivered again. -/
def stoppedLoad : List LoadStep := loadAttempt "a" ++ ([.stop "a"] : List LoadStep) ++ loadAttempt "b"

theorem entry_loaded_twice : ¬ ∀ (ttl : ℕ) (chunk : Chunk) (s t : LoadState) (steps : List LoadStep), s.Untried →
      run (loadStep ttl chunk) s steps = some t → ∀ i, t.committed.countP (fun r => r.entry == i) ≤ 1 := by
  intro h
  obtain ⟨t, hrun⟩ : ∃ t, run (loadStep 180 demandeChunk) queuedLoad stoppedLoad = some t :=
    isSome_iff_exists.mp (by decide +kernel)
  have htwice : ∀ t ∈ run (loadStep 180 demandeChunk) queuedLoad stoppedLoad,
      t.committed.countP (fun r => r.entry == 0) = 2 := by
    decide +kernel
  have honce := h 180 demandeChunk queuedLoad t stoppedLoad ⟨rfl, rfl⟩ hrun 0
  rw [htwice t hrun] at honce
  omega

end ImmoApp.Imports
