import ImmoApp.Foundation.Keyed
import ImmoApp.Foundation.Runs
import ImmoApp.Imports.WorkflowState

/-!
# Who writes the workflow payload

Every writer reads the whole payload of a job, changes some keys and writes the whole payload back, some under the row
lock with an object just read, others with an object that was read before.

`workflow_keys_kept`: in every run in which no save changes a key while someone still holds an older copy that he will
write back without setting the key, no save changes a key that it does not set, and a requested cancellation stays until
a new run starts.
-/

namespace ImmoApp.Imports

open List Option

/-! ### The changes of the payload -/

/-- The keys that `advance_workflow` assigns. -/
def advanceKeys : List String :=
  ["root_plan_index_manifest_id", "root_plan_index_checksum", "root_plan_index_key_count",
    "root_plan_index_ready", "root_load_anchor_map_manifest_id", "root_load_anchor_map_checksum",
    "root_load_anchor_map_key_count", "root_load_anchor_map_ready", "finalize_queued"]

/-- A change of the payload between reading and saving. -/
inductive WorkflowEdit where
  /-- `request_workflow_cancellation`. -/
  | cancel
  /-- `advance_workflow`: some of its keys are assigned. -/
  | advance (changes : Dict String Json)
  /-- `_save_attempt`, perhaps without the submitted payload. -/
  | attempt (payload : Dict String Json) (clearSubmitPayload : Bool)
  | repair (reason : String)
  /-- The watchdog queues a job again that no worker has picked up. -/
  | requeue (now : String)
  | fail (now : String)
  | markQueued (now executionProfile : String) (queueDepth : ℤ)
  | markRunning (executionProfile : String)
  deriving DecidableEq

namespace WorkflowEdit

def clears : WorkflowEdit → List String
  | .attempt _ true => ["review_submit"]
  | _ => []

/-- The assignments.  The count of the repairs has to be a number. -/
def assigns (p : Dict String Json) : WorkflowEdit → Option (Dict String Json)
  | .cancel => some [("cancel_requested", .scalar (.bool true))]
  | .advance changes => some (changes.filter fun e => advanceKeys.contains e.1)
  | .attempt payload _ => some [("review_submit_dispatch", .obj payload)]
  | .repair reason =>
    (((p.get? "repair_attempt_count").filter Json.truthy).getD (.int 0)).toInt?.map fun count =>
      [("repair_attempted", .scalar (.bool true)), ("repair_attempt_count", .int (count + 1)),
        ("repair_last_reason", .str reason)]
  | .requeue now => some [("status", .str "queued"), ("queued_at", .str now)]
  | .fail now => some [("status", .str "failed"), ("finished_at", .str now)]
  | .markQueued now executionProfile queueDepth => some
    [("queued_at", .str now), ("cancel_requested", .scalar (.bool false)),
      ("execution_profile", .str executionProfile), ("status", .str "queued"),
      ("agency_queue_depth", .int queueDepth)]
  | .markRunning executionProfile => some
    [("cancel_requested", .scalar (.bool false)), ("execution_profile", .str executionProfile),
      ("status", .str "running"), ("queued_at", .null), ("agency_queue_depth", .int 0)]

def applyTo? (e : WorkflowEdit) (p : Dict String Json) : Option (Dict String Json) :=
  (e.assigns p).map fun d => (e.clears.foldl Dict.erase p).update d

def keys : WorkflowEdit → List String
  | .cancel => ["cancel_requested"]
  | .advance changes => (changes.filter fun e => advanceKeys.contains e.1).map Prod.fst
  | .attempt _ clearSubmitPayload =>
    if clearSubmitPayload then ["review_submit", "review_submit_dispatch"] else ["review_submit_dispatch"]
  | .repair _ => ["repair_attempted", "repair_attempt_count", "repair_last_reason"]
  | .requeue _ => ["status", "queued_at"]
  | .fail _ => ["status", "finished_at"]
  | .markQueued _ _ _ | .markRunning _ =>
    ["queued_at", "cancel_requested", "execution_profile", "status", "agency_queue_depth"]

def startsRun : WorkflowEdit → Bool
  | .markQueued _ _ _ | .markRunning _ => true
  | _ => false

variable {e : WorkflowEdit} {p q : Dict String Json} {k : String}

lemma clears_subset : e.clears ⊆ e.keys := by
  cases e with
  | attempt _ clear => cases clear <;> simp [clears, keys]
  | _ => simp [clears]

lemma fst_mem_keys {d : Dict String Json} (h : e.assigns p = some d) : ∀ x ∈ d, x.1 ∈ e.keys := by
  cases e with
  | advance =>
    cases h
    exact fun x hx => mem_map_of_mem hx
  | attempt _ clear =>
    cases h
    cases clear <;> simp [keys]
  | repair =>
    obtain ⟨_, -, rfl⟩ := map_eq_some_iff.mp h
    simp [keys]
  | cancel | requeue now | fail now | markQueued now profile depth | markRunning profile =>
    cases h
    simp [keys]

lemma get?_foldl_erase {ks : List String} (h : k ∉ ks) : (ks.foldl Dict.erase p).get? k = p.get? k := by
  induction ks generalizing p with
  | nil => rfl
  | cons _ _ ih =>
    rw [foldl_cons, ih (not_mem_of_not_mem_cons h), Dict.get?_erase, if_neg (ne_of_not_mem_cons h)]

lemma get?_applyTo? (h : e.applyTo? p = some q) (hk : k ∉ e.keys) : q.get? k = p.get? k := by
  obtain ⟨d, hd, rfl⟩ := map_eq_some_iff.mp h
  have hnone : d.get? k = none :=
    Dict.get?_eq_none_iff.mpr fun x hx heq => hk (heq ▸ fst_mem_keys hd x hx)
  rw [Dict.get?_update, hnone, none_or]
  exact get?_foldl_erase fun hmem => hk (clears_subset hmem)

lemma get?_cancelRequested_of_keys (h : e.applyTo? p = some q) (hrun : e.startsRun = false)
    (hk : "cancel_requested" ∈ e.keys) : q.get? "cancel_requested" = some (.scalar (.bool true)) := by
  cases e with
  | cancel =>
    obtain ⟨d, hd, rfl⟩ := map_eq_some_iff.mp h
    cases hd
    rw [Dict.get?_update]
    rfl
  | advance =>
    obtain ⟨x, hx, heq⟩ := mem_map.mp hk
    have hadvance := (mem_filter.mp hx).2
    rw [heq] at hadvance
    exact absurd hadvance (by decide)
  | attempt _ clear => cases clear <;> simp [keys] at hk
  | repair reason | requeue now | fail now => simp [keys] at hk
  | markQueued now profile depth | markRunning profile => cases hrun

end WorkflowEdit

/-! ### The writers -/

inductive PayloadOp where
  | read
  | save (e : WorkflowEdit)
  | lock
  | readLocked
  | commit (e : WorkflowEdit)

inductive PayloadCall where
  | requestWorkflowCancellation
  | advanceWorkflow (changes : Dict String Json)
  | beginReviewSubmitAttempt (payload : Dict String Json)
  | saveAttempt (payload : Dict String Json) (clearSubmitPayload : Bool)
  | noteRepair (reason : String)
  | requeueStalledJob (reason now : String)
  /-- The watchdog notes a repair and calls `_fail_stalled_job` with the payload that it has saved. -/
  | failStalledJob (reason now : String)
  /-- `mark_distributed_job_failed` and `cancel_import_immediately`, which read the payload again. -/
  | markDistributedJobFailed (now : String)
  | markJobQueued (now executionProfile : String) (queueDepth : ℤ)
  /-- `mark_job_running`, of a claim or of a dispatcher that has locked the job. -/
  | markJobRunning (executionProfile : String) (dispatched : Bool)

def lockedOps (e : WorkflowEdit) : List PayloadOp := [.lock, .readLocked, .commit e]

def PayloadCall.program : PayloadCall → List PayloadOp
  | .requestWorkflowCancellation => lockedOps .cancel
  | .advanceWorkflow changes => lockedOps (.advance changes)
  | .beginReviewSubmitAttempt payload => [.read, .save (.attempt payload false)]
  | .saveAttempt payload clear => lockedOps (.attempt payload clear)
  | .noteRepair reason => [.read, .save (.repair reason)]
  | .requeueStalledJob reason now => [.read, .save (.repair reason), .save (.requeue now)]
  | .failStalledJob reason now =>
    [.read, .save (.repair reason)] ++ lockedOps .cancel ++ [.save (.fail now)]
  | .markDistributedJobFailed now => lockedOps .cancel ++ [.read, .save (.fail now)]
  | .markJobQueued now profile depth => [.read, .save (.markQueued now profile depth)]
  | .markJobRunning profile dispatched =>
    if dispatched then lockedOps (.markRunning profile) else [.read, .save (.markRunning profile)]

/-- A copy of the payload with the change that it is written back with. -/
structure HeldCopy where
  locked : Bool
  copy : Dict String Json
  edit : WorkflowEdit

structure PayloadWriter where
  copy : Option (Dict String Json)
  lockedCopy : Option (Dict String Json)
  holdsLock : Bool
  todo : List PayloadOp

namespace PayloadWriter

def nextSave (x : PayloadWriter) : Option WorkflowEdit :=
  x.todo.findSome? fun op => match op with
    | .save e => some e
    | _ => none

def nextCommit (x : PayloadWriter) : Option WorkflowEdit :=
  x.todo.findSome? fun op => match op with
    | .commit e => some e
    | _ => none

def held (x : PayloadWriter) : List HeldCopy :=
  ((x.copy.bind fun p => x.nextSave.map fun e => ⟨false, p, e⟩).toList) ++
    (x.lockedCopy.bind fun p => x.nextCommit.map fun e => ⟨true, p, e⟩).toList

def writing (x : PayloadWriter) : Option HeldCopy :=
  match x.todo with
  | .save e :: _ => x.copy.map fun p => ⟨false, p, e⟩
  | .commit e :: _ => x.lockedCopy.map fun p => ⟨true, p, e⟩
  | _ => none

end PayloadWriter

/-- The workflow state of a job, and who writes it. -/
structure PayloadDesk (τ : Type) where
  state : WorkflowState τ
  writers : Keyed ℕ PayloadWriter
  /-- The changes that were saved, the last one first. -/
  saves : List WorkflowEdit

inductive PayloadStep where
  | begin (w : ℕ) (call : PayloadCall)
  | next (w : ℕ)
  /-- It returns early, or its process stops. -/
  | stop (w : ℕ)

namespace PayloadDesk

variable {τ : Type} (py : Conversions τ)

def payload (s : PayloadDesk τ) : Dict String Json := s.state.payload py

def move (s : PayloadDesk τ) (w : ℕ) (x : PayloadWriter) : PayloadDesk τ :=
  { s with writers := s.writers.set w x }

def leave (s : PayloadDesk τ) (w : ℕ) : PayloadDesk τ :=
  { s with writers := s.writers.delete fun i _ => i == w }

/-- A payload is changed and saved; an exception ends the writer.  `next` is the writer afterwards, given
the payload that it has saved. -/
def write (s : PayloadDesk τ) (w : ℕ) (e : WorkflowEdit) (p : Dict String Json)
    (next : Dict String Json → PayloadWriter) : PayloadDesk τ :=
  match e.applyTo? p with
  | none => s.leave w
  | some q =>
    match WorkflowState.ofPayload? py q with
    | none => s.leave w
    | some st => { s with state := st, saves := e :: s.saves }.move w (next q)

/-- The next operation of a writer.  Who wants to lock the row waits until nobody else has locked it. -/
def writerStep (s : PayloadDesk τ) (w : ℕ) (x : PayloadWriter) : Option (PayloadDesk τ) :=
  match x.todo with
  | [] => some (s.leave w)
  | .read :: ops => some (s.move w { x with copy := some (s.payload py), todo := ops })
  | .save e :: ops => x.copy.map fun p =>
      s.write py w e p fun q => { x with copy := some q, todo := ops }
  | .lock :: ops =>
    if s.writers.entries.any fun y => y.2.holdsLock then none
    else some (s.move w { x with holdsLock := true, todo := ops })
  | .readLocked :: ops => some (s.move w { x with lockedCopy := some (s.payload py), todo := ops })
  | .commit e :: ops => x.lockedCopy.map fun p =>
      s.write py w e p fun _ => { x with lockedCopy := none, holdsLock := false, todo := ops }

def step (s : PayloadDesk τ) : PayloadStep → Option (PayloadDesk τ)
  | .begin w call =>
    if (s.writers.get? w).isSome then none else some (s.move w ⟨none, none, false, call.program⟩)
  | .next w => (s.writers.get? w).bind fun x => s.writerStep py w x
  | .stop w => (s.writers.get? w).map fun _ => s.leave w

def CancelRequested (s : PayloadDesk τ) : Prop :=
  (s.payload py).get? "cancel_requested" = some (.scalar (.bool true))

end PayloadDesk

/-! ### Copies that are up to date -/

/-- Who holds another copy sets the key when he writes it back. -/
def PayloadDesk.OthersSet {τ : Type} (s : PayloadDesk τ) (w : ℕ) (h : HeldCopy) (k : String) : Prop :=
  ∀ y ∈ s.writers.entries, ∀ h' ∈ y.2.held, (y.1 = w ∧ h'.locked = h.locked) ∨ k ∈ h'.edit.keys

instance {τ : Type} (s : PayloadDesk τ) (w : ℕ) (h : HeldCopy) (k : String) :
    Decidable (s.OthersSet w h k) :=
  inferInstanceAs (Decidable (∀ y ∈ s.writers.entries, ∀ h' ∈ y.2.held,
    (y.1 = w ∧ h'.locked = h.locked) ∨ k ∈ h'.edit.keys))

/-- No save changes a key while someone holds another copy that he will write back without setting it. -/
def ChangesKept {τ : Type} (py : Conversions τ) (s : PayloadDesk τ) : PayloadStep → Prop
  | .next w => ∀ x ∈ s.writers.get? w, ∀ h ∈ x.writing, ∀ q ∈ h.edit.applyTo? h.copy, ∀ k ∈ h.edit.keys,
      py.normal k (q.get? k) ≠ (s.payload py).get? k → s.OthersSet w h k
  | _ => True

instance {τ : Type} (py : Conversions τ) (s : PayloadDesk τ) : ∀ a, Decidable (ChangesKept py s a)
  | .next w => inferInstanceAs (Decidable (∀ x ∈ s.writers.get? w, ∀ h ∈ x.writing,
      ∀ q ∈ h.edit.applyTo? h.copy, ∀ k ∈ h.edit.keys,
        py.normal k (q.get? k) ≠ (s.payload py).get? k → s.OthersSet w h k))
  | .begin _ _ | .stop _ => .isTrue trivial

namespace PayloadDesk

variable {τ : Type} {py : Conversions τ} {s t u : PayloadDesk τ} {w : ℕ} {x x' : PayloadWriter}
  {e : WorkflowEdit} {p : Dict String Json} {h : HeldCopy}

/-- A copy is up to date: its keys are those of the payload, except for those that will be set. -/
def UpToDate (py : Conversions τ) (s : PayloadDesk τ) (h : HeldCopy) : Prop :=
  ∀ k, k ∉ h.edit.keys → py.normal k (h.copy.get? k) = (s.payload py).get? k

def Current (py : Conversions τ) (s : PayloadDesk τ) : Prop :=
  ∀ w x, s.writers.get? w = some x → ∀ h ∈ x.held, s.UpToDate py h

lemma mem_held_iff : h ∈ x.held ↔ (∃ p e, x.copy = some p ∧ x.nextSave = some e ∧ h = ⟨false, p, e⟩) ∨
      ∃ p e, x.lockedCopy = some p ∧ x.nextCommit = some e ∧ h = ⟨true, p, e⟩ := by
  simp only [PayloadWriter.held, mem_append, mem_toList, bind_eq_some_iff, map_eq_some_iff]
  grind

lemma writing_mem_held (hh : x.writing = some h) : h ∈ x.held := by
  rw [PayloadWriter.writing] at hh
  split at hh
  · next e ops htodo =>
    obtain ⟨p, hp, rfl⟩ := map_eq_some_iff.mp hh
    exact mem_held_iff.mpr (.inl ⟨p, e, hp, by simp [PayloadWriter.nextSave, htodo], rfl⟩)
  · next e ops htodo =>
    obtain ⟨p, hp, rfl⟩ := map_eq_some_iff.mp hh
    exact mem_held_iff.mpr (.inr ⟨p, e, hp, by simp [PayloadWriter.nextCommit, htodo], rfl⟩)
  · cases hh

lemma get?_leave_eq_some {v : ℕ} (hv : (s.leave w).writers.get? v = some x) : s.writers.get? v = some x := by
  rw [leave, Keyed.get?_delete] at hv
  exact (filter_eq_some_iff.mp hv).1

lemma Current.leave (hs : s.Current py) : (s.leave w).Current py :=
  fun v x hv => hs v x (get?_leave_eq_some hv)

lemma Current.move (hs : s.Current py) (hx : ∀ h ∈ x'.held, s.UpToDate py h) : (s.move w x').Current py := by
  intro v y hv
  rw [PayloadDesk.move, Keyed.get?_set] at hv
  split at hv
  · obtain ⟨⟩ := hv
    exact hx
  · exact hs v y hv

variable {locked : Bool}

lemma upToDate_payload : s.UpToDate py ⟨locked, s.payload py, e⟩ :=
  fun _ _ => WorkflowState.normal_get?_payload

variable {next : Dict String Json → PayloadWriter}

lemma write_cases (ht : s.write py w e p next = t) :
    t = s.leave w ∨ ∃ q st, e.applyTo? p = some q ∧ WorkflowState.ofPayload? py q = some st ∧
      t = { s with state := st, saves := e :: s.saves }.move w (next q) := by
  subst ht
  rw [write]
  cases hq : e.applyTo? p with
  | none => exact .inl rfl
  | some q =>
    dsimp only
    cases hst : WorkflowState.ofPayload? py q with
    | none => exact .inl rfl
    | some st => exact .inr ⟨q, st, rfl, hst, rfl⟩

lemma get?_payload_of_save {q : Dict String Json} {st : WorkflowState τ} {k : String}
    (hq : e.applyTo? p = some q) (hst : WorkflowState.ofPayload? py q = some st)
    (hp : s.UpToDate py ⟨locked, p, e⟩) (hk : k ∉ e.keys) :
    (st.payload py).get? k = (s.payload py).get? k := by
  rw [WorkflowState.get?_payload_ofPayload hst, WorkflowEdit.get?_applyTo? hq hk]
  exact hp k hk

lemma Current.write (hs : s.Current py) (hx : s.writers.get? w = some x) (hwriting : x.writing = some ⟨locked, p, e⟩)
    (hkept : ChangesKept py s (.next w))
    (hnext : ∀ q, ∀ h ∈ (next q).held, (h ∈ x.held ∧ h.locked ≠ locked) ∨ h.copy = q)
    (ht : s.write py w e p next = t) : t.Current py := by
  rcases write_cases ht with rfl | ⟨q, st, hq, hst, rfl⟩
  · exact hs.leave
  have hp := hs w x hx _ (writing_mem_held hwriting)
  have hold : ∀ v y, s.writers.get? v = some y → ∀ h ∈ y.held, (v = w → h.locked ≠ locked) →
      ∀ k, k ∉ h.edit.keys → py.normal k (h.copy.get? k) = (st.payload py).get? k := by
    intro v y hv h hh hother k hk
    rw [hs v y hv h hh k hk]
    by_cases hset : k ∈ e.keys
    · by_contra hne
      have hchange : py.normal k (q.get? k) ≠ (s.payload py).get? k := by
        rw [← WorkflowState.get?_payload_ofPayload hst]
        exact fun heq => hne heq.symm
      rcases hkept x hx _ hwriting q hq k hset hchange (v, y) (Keyed.mem_entries_iff.mpr hv) h hh with
        ⟨rfl, hsame⟩ | hkeys
      · exact hother rfl hsame
      · exact hk hkeys
    · exact (get?_payload_of_save hq hst hp hset).symm
  intro v y hv h hh k hk
  rw [PayloadDesk.move, Keyed.get?_set] at hv
  split at hv
  · obtain ⟨⟩ := hv
    rcases hnext q h hh with ⟨hmem, hlocked⟩ | hcopy
    · exact hold w x hx h hmem (fun _ => hlocked) k hk
    · rw [hcopy]
      exact (WorkflowState.get?_payload_ofPayload hst).symm
  · next hne => exact hold v y hv h hh (fun heq => absurd heq hne) k hk

lemma mem_held_of_pop {op : PayloadOp} {ops : List PayloadOp} (htodo : x.todo = op :: ops)
    (hsave : ∀ e, op ≠ .save e) (hcommit : ∀ e, op ≠ .commit e) (htodo' : x'.todo = ops)
    (hh : h ∈ x'.held) :
    h ∈ x.held ∨ (h.locked = false ∧ x'.copy = some h.copy ∧ x'.copy ≠ x.copy) ∨
      h.locked = true ∧ x'.lockedCopy = some h.copy ∧ x'.lockedCopy ≠ x.lockedCopy := by
  have hnextSave : x'.nextSave = x.nextSave := by
    rw [PayloadWriter.nextSave, PayloadWriter.nextSave, htodo, htodo', findSome?_cons]
    cases op with
    | save e => exact absurd rfl (hsave e)
    | _ => rfl
  have hnextCommit : x'.nextCommit = x.nextCommit := by
    rw [PayloadWriter.nextCommit, PayloadWriter.nextCommit, htodo, htodo', findSome?_cons]
    cases op with
    | commit e => exact absurd rfl (hcommit e)
    | _ => rfl
  rcases mem_held_iff.mp hh with ⟨p, e, hp, he, rfl⟩ | ⟨p, e, hp, he, rfl⟩
  · by_cases hcopy : x'.copy = x.copy
    · exact .inl (mem_held_iff.mpr (.inl ⟨p, e, hcopy ▸ hp, hnextSave ▸ he, rfl⟩))
    · exact .inr (.inl ⟨rfl, hp, hcopy⟩)
  · by_cases hcopy : x'.lockedCopy = x.lockedCopy
    · exact .inl (mem_held_iff.mpr (.inr ⟨p, e, hcopy ▸ hp, hnextCommit ▸ he, rfl⟩))
    · exact .inr (.inr ⟨rfl, hp, hcopy⟩)

lemma Current.writerStep (hs : s.Current py) (hx : s.writers.get? w = some x)
    (hkept : ChangesKept py s (.next w)) (ht : s.writerStep py w x = some t) : t.Current py := by
  rw [PayloadDesk.writerStep] at ht
  split at ht
  · cases ht
    exact hs.leave
  · next ops htodo =>
    cases ht
    refine hs.move fun h hh => ?_
    rcases mem_held_of_pop htodo (by simp) (by simp) rfl hh with hmem | ⟨-, hcopy, -⟩ | ⟨-, -, hne⟩
    · exact hs w x hx h hmem
    · obtain ⟨_, _, e⟩ := h
      obtain ⟨⟩ := hcopy
      exact upToDate_payload
    · exact absurd rfl hne
  · next e ops htodo =>
    obtain ⟨p, hp, rfl⟩ := map_eq_some_iff.mp ht
    have hwriting : x.writing = some ⟨false, p, e⟩ := by simp [PayloadWriter.writing, htodo, hp]
    refine hs.write hx hwriting hkept (fun q h hh => ?_) rfl
    rcases mem_held_iff.mp hh with ⟨p', f, hp', hf, rfl⟩ | ⟨p', f, hp', hf, rfl⟩
    · exact .inr (some.inj hp').symm
    · refine .inl ⟨mem_held_iff.mpr (.inr ⟨p', f, hp', ?_, rfl⟩), by simp⟩
      rw [← hf, PayloadWriter.nextCommit, PayloadWriter.nextCommit, htodo, findSome?_cons]
  · next ops htodo =>
    split at ht
    · cases ht
    · cases ht
      refine hs.move fun h hh => ?_
      rcases mem_held_of_pop htodo (by simp) (by simp) rfl hh with hmem | ⟨-, -, hne⟩ | ⟨-, -, hne⟩
      · exact hs w x hx h hmem
      · exact absurd rfl hne
      · exact absurd rfl hne
  · next ops htodo =>
    cases ht
    refine hs.move fun h hh => ?_
    rcases mem_held_of_pop htodo (by simp) (by simp) rfl hh with hmem | ⟨-, -, hne⟩ | ⟨-, hcopy, -⟩
    · exact hs w x hx h hmem
    · exact absurd rfl hne
    · obtain ⟨_, _, e⟩ := h
      obtain ⟨⟩ := hcopy
      exact upToDate_payload
  · next e ops htodo =>
    obtain ⟨p, hp, rfl⟩ := map_eq_some_iff.mp ht
    have hwriting : x.writing = some ⟨true, p, e⟩ := by simp [PayloadWriter.writing, htodo, hp]
    refine hs.write hx hwriting hkept (fun q h hh => ?_) rfl
    rcases mem_held_iff.mp hh with ⟨p', f, hp', hf, rfl⟩ | ⟨p', f, hp', hf, rfl⟩
    · refine .inl ⟨mem_held_iff.mpr (.inl ⟨p', f, hp', ?_, rfl⟩), by simp⟩
      rw [← hf, PayloadWriter.nextSave, PayloadWriter.nextSave, htodo, findSome?_cons]
    · cases hp'

variable {a : PayloadStep}

lemma Current.step (hs : s.Current py) (hkept : ChangesKept py s a) (ht : s.step py a = some t) : t.Current py := by
  cases a with
  | begin =>
    rw [PayloadDesk.step] at ht
    split at ht
    · cases ht
    · cases ht
      exact hs.move fun h hh => by simp [PayloadWriter.held] at hh
  | next =>
    obtain ⟨x, hx, ht⟩ := bind_eq_some_iff.mp ht
    exact hs.writerStep hx hkept ht
  | stop =>
    obtain ⟨x, -, rfl⟩ := map_eq_some_iff.mp ht
    exact hs.leave

/-! ### What stays -/

/-- Between two states these changes were saved, and nothing else has changed. -/
structure Kept (py : Conversions τ) (new : List WorkflowEdit) (s t : PayloadDesk τ) : Prop where
  saves : t.saves = new ++ s.saves
  keys : ∀ k, (∀ e ∈ new, k ∉ e.keys) → (t.payload py).get? k = (s.payload py).get? k
  cancel : (∀ e ∈ new, e.startsRun = false) → s.CancelRequested py → t.CancelRequested py

lemma Kept.of_same (hstate : t.state = s.state) (hsaves : t.saves = s.saves) : Kept py [] s t where
  saves := hsaves
  keys := fun k _ => by rw [payload, payload, hstate]
  cancel := fun _ h => by rwa [CancelRequested, payload, hstate]

lemma Kept.trans {new new' : List WorkflowEdit} (h : Kept py new s t) (h' : Kept py new' t u) :
    Kept py (new' ++ new) s u where
  saves := by rw [h'.saves, h.saves, append_assoc]
  keys := by
    intro k hk
    rw [h'.keys k fun e he => hk e (mem_append_left new he), h.keys k fun e he => hk e (mem_append_right new' he)]
  cancel := fun hrun hc => h'.cancel (fun e he => hrun e (mem_append_left new he))
    (h.cancel (fun e he => hrun e (mem_append_right new' he)) hc)

lemma Kept.write (hp : s.UpToDate py ⟨locked, p, e⟩) (ht : s.write py w e p next = t) : ∃ new, Kept py new s t := by
  rcases write_cases ht with rfl | ⟨q, _, hq, hst, rfl⟩
  · exact ⟨[], Kept.of_same rfl rfl⟩
  refine ⟨[e], rfl, fun k hk => ?_, fun hrun hc => ?_⟩
  · exact get?_payload_of_save hq hst hp (hk e mem_cons_self)
  · by_cases hset : "cancel_requested" ∈ e.keys
    · have hrun := hrun e mem_cons_self
      have hget := WorkflowState.get?_payload_ofPayload (k := "cancel_requested") hst
      rw [WorkflowEdit.get?_cancelRequested_of_keys hq hrun hset] at hget
      exact hget
    · exact (get?_payload_of_save hq hst hp hset).trans hc

lemma Kept.step (hs : s.Current py) (ht : s.step py a = some t) : ∃ new, Kept py new s t := by
  cases a with
  | begin =>
    rw [PayloadDesk.step] at ht
    split at ht
    · cases ht
    · cases ht
      exact ⟨[], Kept.of_same rfl rfl⟩
  | next w =>
    obtain ⟨x, hx, ht⟩ := bind_eq_some_iff.mp ht
    have hwriting : ∀ h, x.writing = some h → s.UpToDate py h :=
      fun h hh => hs w x hx h (writing_mem_held hh)
    rw [PayloadDesk.writerStep] at ht
    split at ht
    · cases ht
      exact ⟨[], Kept.of_same rfl rfl⟩
    · cases ht
      exact ⟨[], Kept.of_same rfl rfl⟩
    · next e ops htodo =>
      obtain ⟨p, hp, rfl⟩ := map_eq_some_iff.mp ht
      exact Kept.write (hwriting ⟨false, p, e⟩ (by simp [PayloadWriter.writing, htodo, hp])) rfl
    · split at ht
      · cases ht
      · cases ht
        exact ⟨[], Kept.of_same rfl rfl⟩
    · cases ht
      exact ⟨[], Kept.of_same rfl rfl⟩
    · next e ops htodo =>
      obtain ⟨p, hp, rfl⟩ := map_eq_some_iff.mp ht
      exact Kept.write (hwriting ⟨true, p, e⟩ (by simp [PayloadWriter.writing, htodo, hp])) rfl
  | stop =>
    obtain ⟨x, -, rfl⟩ := map_eq_some_iff.mp ht
    exact ⟨[], Kept.of_same rfl rfl⟩

lemma exists_kept_of_run {as : List PayloadStep} (hs : s.Current py)
    (hg : Guarded (step py) (ChangesKept py) s as) (hrun : run (step py) s as = some t) :
    ∃ new, Kept py new s t := by
  induction as generalizing s with
  | nil =>
    cases hrun
    exact ⟨[], Kept.of_same rfl rfl⟩
  | cons _ _ ih =>
    obtain ⟨u, hu, ht⟩ := run_cons_eq_some.mp hrun
    obtain ⟨new, hnew⟩ := Kept.step hs hu
    obtain ⟨new', hnew'⟩ := ih (hs.step hg.1 hu) (hg.2 u hu) ht
    exact ⟨new' ++ new, hnew.trans hnew'⟩

end PayloadDesk

/-- In every run in which no save changes a key while someone still holds an older copy that he will write
back without setting the key, the saves of any part of the run change only the keys that they set, and a
requested cancellation stays until a new run of the job starts. -/
theorem workflow_keys_kept {τ : Type} {py : Conversions τ} {s u t : PayloadDesk τ}
    {as bs : List PayloadStep} {new : List WorkflowEdit} (hs : ∀ w, s.writers.get? w = none)
    (hg : Guarded (PayloadDesk.step py) (ChangesKept py) s (as ++ bs))
    (hu : run (PayloadDesk.step py) s as = some u) (ht : run (PayloadDesk.step py) u bs = some t)
    (hnew : t.saves = new ++ u.saves) :
    (∀ k, (∀ e ∈ new, k ∉ e.keys) → (t.payload py).get? k = (u.payload py).get? k) ∧
      ((∀ e ∈ new, e.startsRun = false) → u.CancelRequested py → t.CancelRequested py) := by
  have hcurrent : s.Current py := by
    intro w x hx
    rw [hs w] at hx
    cases hx
  obtain ⟨hgas, hgbs⟩ := guarded_append.mp hg
  have hu' : u.Current py := run_invariant (fun _ _ _ h hk hstep => h.step hk hstep) hcurrent hgas hu
  obtain ⟨new', hkept⟩ := PayloadDesk.exists_kept_of_run hu' (hgbs u hu) ht
  obtain rfl : new = new' := append_cancel_right (hnew.symm.trans hkept.saves)
  exact ⟨hkept.keys, hkept.cancel⟩

def plainConversions : Conversions {s : String // s ≠ ""} where
  str := Json.text
  isoformat := Subtype.val
  fromisoformat := fun s => if h : s = "" then none else some ⟨s, h⟩
  str_str := fun _ => rfl
  fromisoformat_isoformat := fun t => dif_neg t.property
  isoformat_ne_empty := Subtype.property

def emptyCell {τ : Type} : ColumnKind → Cell τ
  | .text => .text ""
  | .flag => .flag false
  | .number => .number 0
  | .dict => .dict []
  | .time => .time none

def plainDesk : PayloadDesk {s : String // s ≠ ""} where
  state :=
    { cell := fun k => (workflowColumns.get? k).map emptyCell
      metadata := []
      kinds := by
        intro k
        cases workflowColumns.get? k with
        | none => rfl
        | some kind => cases kind <;> rfl
      extra := by simp }
  writers := .empty
  saves := []

/-- The job runs, and its cancellation is requested. -/
def cancelledRun : List PayloadStep :=
  [.begin 1 (.markJobRunning "red" true), .next 1, .next 1, .next 1,
    .begin 2 .requestWorkflowCancellation, .next 2, .next 2, .next 2]

def laterWrites : List PayloadStep :=
  [.begin 3 (.noteRepair "worker_not_picked_up"), .next 3, .begin 4 .requestWorkflowCancellation, .next 3,
    .begin 5 (.beginReviewSubmitAttempt [("status", .str "pending")]), .next 4, .next 4, .next 4, .next 5,
    .next 5]

theorem workflow_keys_kept_cancelled : ∃ u t,
    run (PayloadDesk.step plainConversions) plainDesk cancelledRun = some u ∧
      run (PayloadDesk.step plainConversions) u laterWrites = some t ∧
        u.CancelRequested plainConversions ∧ t.CancelRequested plainConversions := by
  have hruns : ((run (PayloadDesk.step plainConversions) plainDesk cancelledRun).bind fun u =>
      (run (PayloadDesk.step plainConversions) u laterWrites).map fun t =>
        ((u.payload plainConversions).get? "cancel_requested", u.saves, t.saves)) =
      some (some (.scalar (.bool true)), [.cancel, .markRunning "red"],
        [.attempt [("status", .str "pending")] false, .cancel, .repair "worker_not_picked_up", .cancel,
          .markRunning "red"]) := by
    decide +kernel
  obtain ⟨u, hu, hruns⟩ := bind_eq_some_iff.mp hruns
  obtain ⟨t, ht, hsaves⟩ := map_eq_some_iff.mp hruns
  obtain ⟨hcancel, hsaves⟩ := Prod.mk.inj hsaves
  obtain ⟨husaves, htsaves⟩ := Prod.mk.inj hsaves
  have hnew : t.saves = [.attempt [("status", .str "pending")] false, .cancel,
      .repair "worker_not_picked_up"] ++ u.saves := by
    rw [htsaves, husaves]
    rfl
  have hkept := workflow_keys_kept (fun _ => rfl) (by decide +kernel) hu ht hnew
  exact ⟨u, t, hu, ht, hcancel, hkept.2 (by decide) hcancel⟩

/-- The watchdog finds a job that no worker has picked up for the second time. -/
def stalledTwice : List PayloadStep :=
  [.begin 1 (.failStalledJob "worker_not_picked_up" "2026-01-01T00:00:00+00:00"), .next 1, .next 1, .next 1,
    .next 1, .next 1]

/-- `_fail_stalled_job` requests the cancellation, and then writes the payload back that it has read
before. -/
theorem cancellation_forgotten :
    ¬ ∀ (s u t : PayloadDesk {s : String // s ≠ ""}) (as bs : List PayloadStep) (new : List WorkflowEdit),
      (∀ w, s.writers.get? w = none) → run (PayloadDesk.step plainConversions) s as = some u →
        run (PayloadDesk.step plainConversions) u bs = some t → t.saves = new ++ u.saves →
          (∀ e ∈ new, e.startsRun = false) → u.CancelRequested plainConversions →
            t.CancelRequested plainConversions := by
  intro h
  have hruns : ((run (PayloadDesk.step plainConversions) plainDesk stalledTwice).bind fun u =>
      (run (PayloadDesk.step plainConversions) u [.next 1]).map fun t =>
        (((u.payload plainConversions).get? "cancel_requested", u.saves),
          ((t.payload plainConversions).get? "cancel_requested", t.saves))) =
      some ((some (.scalar (.bool true)), [.cancel, .repair "worker_not_picked_up"]),
        (some (.scalar (.bool false)), [.fail "2026-01-01T00:00:00+00:00", .cancel,
          .repair "worker_not_picked_up"])) := by
    decide +kernel
  obtain ⟨u, hu, hruns⟩ := bind_eq_some_iff.mp hruns
  obtain ⟨t, ht, hends⟩ := map_eq_some_iff.mp hruns
  obtain ⟨huend, htend⟩ := Prod.mk.inj hends
  obtain ⟨hucancel, husaves⟩ := Prod.mk.inj huend
  obtain ⟨htcancel, htsaves⟩ := Prod.mk.inj htend
  have hnew : t.saves = [.fail "2026-01-01T00:00:00+00:00"] ++ u.saves := by
    rw [htsaves, husaves]
    rfl
  have hlost := h plainDesk u t stalledTwice [.next 1] _ (fun _ => rfl) hu ht hnew (by decide) hucancel
  rw [PayloadDesk.CancelRequested, htcancel] at hlost
  exact absurd hlost (by decide)

end ImmoApp.Imports
