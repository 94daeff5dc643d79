import ImmoApp.Imports.Phases

/-!
# The dispatch of phases

Each chunk of a prepared job has a PLAN and a LOAD phase.  `advance_workflow` looks at the statuses of all phases and at
the flags of the workflow, sets the phases that can go on to QUEUED, and returns their ids.  In a bundle the root chunks
are planned before the child chunks, and loaded before these are loaded.

`workflow_order`: over every sequence of calls and of steps of workers, each phase is dispatched at most once, in this
order, and the end of the job at most once, when every phase is completed.
-/

namespace ImmoApp.Imports

open LeaseState PhaseRow
open Bool hiding and_assoc and_false false_or true_and

open List Option

/-! ### Jobs -/

inductive Role where
  | single
  | root
  | child
  deriving DecidableEq

/-- `ImportChunkPhase.Phase`. -/
inductive PhaseKind where
  | plan
  | load

structure ImportChunk where
  role : Role
  planPhaseId : ℕ
  loadPhaseId : ℕ

def ImportChunk.phaseId (c : ImportChunk) : PhaseKind → ℕ
  | .plan => c.planPhaseId
  | .load => c.loadPhaseId

structure ChunkedJob where
  id : ℕ
  bundleMode : String
  chunks : List ImportChunk
  distinct : (chunks.flatMap fun c => [c.planPhaseId, c.loadPhaseId]).Nodup
  /-- A bundle has chunks of parents and of children, another job has single chunks. -/
  roles : ∀ c ∈ chunks, c.role = .single ↔ bundleMode ≠ "same_side_bundle"

namespace ChunkedJob

def ofKind (job : ChunkedJob) (kind : PhaseKind) : List ℕ := job.chunks.map fun c => c.phaseId kind

def group (job : ChunkedJob) (role : Role) (kind : PhaseKind) : List ℕ :=
  (job.chunks.filter fun c => c.role == role).map fun c => c.phaseId kind

end ChunkedJob

/-- What `persist_root_index_manifest` returns. -/
structure IndexManifest where
  manifestId : ℕ
  checksum : String
  keyCount : ℕ

def IndexManifest.none : IndexManifest := ⟨0, "", 0⟩

structure WorkflowFlags where
  prepareCompleted : Bool
  rootPlanIndexReady : Bool
  rootPlanIndex : IndexManifest
  rootLoadAnchorMapReady : Bool
  rootLoadAnchorMap : IndexManifest
  finalizeQueued : Bool

structure WorkflowDispatchPlan where
  planPhaseIds : List ℕ := []
  loadPhaseIds : List ℕ := []
  finalizeJob : Bool := false

def WorkflowDispatchPlan.phaseIds (plan : WorkflowDispatchPlan) : List ℕ :=
  plan.planPhaseIds ++ plan.loadPhaseIds

def LeaseState.completed (s : LeaseState) (id : ℕ) : Bool :=
  (s.phases.get? id).any fun p => p.status == .completed

def LeaseState.waits (s : LeaseState) (id : ℕ) : Bool :=
  (s.phases.get? id).any fun p => p.status == .pending || p.status == .blocked

/-- `_completed`. -/
def allCompleted (s : LeaseState) (ids : List ℕ) : Bool := decide (ids ≠ []) && ids.all s.completed

def hasFailed (s : LeaseState) (ids : List ℕ) : Bool :=
  ids.any fun id => (s.phases.get? id).any fun p => p.status == .failed

/-- What `_queue_pending` returns. -/
def pendingPhases (s : LeaseState) (ids : List ℕ) (allowBlocked : Bool) : List ℕ :=
  ids.filter fun id => (s.phases.get? id).any fun p =>
    p.status == .pending || allowBlocked && p.status == .blocked

/-- What `_queue_pending` writes. -/
def LeaseState.queuePhases (s : LeaseState) (ids : List ℕ) (allowBlocked : Bool) : LeaseState :=
  ids.foldl (fun s id => s.queuePending id allowBlocked) s

/-! ### The dispatch -/

structure Dispatch where
  lease : LeaseState
  flags : WorkflowFlags
  plan : WorkflowDispatchPlan

namespace Dispatch

/-- `dispatch.plan_phase_ids.extend(_queue_pending(…))`. -/
def queuePlan (ids : List ℕ) (allowBlocked : Bool) (d : Dispatch) : Dispatch :=
  { d with
    lease := d.lease.queuePhases ids allowBlocked
    plan := { d.plan with
      planPhaseIds := d.plan.planPhaseIds ++ pendingPhases d.lease ids allowBlocked } }

/-- `dispatch.load_phase_ids.extend(_queue_pending(…))`. -/
def queueLoad (ids : List ℕ) (allowBlocked : Bool) (d : Dispatch) : Dispatch :=
  { d with
    lease := d.lease.queuePhases ids allowBlocked
    plan := { d.plan with
      loadPhaseIds := d.plan.loadPhaseIds ++ pendingPhases d.lease ids allowBlocked } }

/-- `root_plan_index_ready` is set. -/
def indexReady (manifest : IndexManifest) (d : Dispatch) : Dispatch :=
  { d with flags := { d.flags with rootPlanIndexReady := true, rootPlanIndex := manifest } }

/-- `root_load_anchor_map_ready` is set. -/
def mapReady (manifest : IndexManifest) (d : Dispatch) : Dispatch :=
  { d with flags := { d.flags with rootLoadAnchorMapReady := true, rootLoadAnchorMap := manifest } }

/-- `finalize_queued` is set, once. -/
def finalize (d : Dispatch) : Dispatch :=
  if d.flags.finalizeQueued then d
  else { d with
    flags := { d.flags with finalizeQueued := true }
    plan := { d.plan with finalizeJob := true } }

def rootPlan (job : ChunkedJob) (manifest : Option IndexManifest) (next : Dispatch → Option Dispatch)
    (d : Dispatch) : Option Dispatch :=
  let phases := job.group .root .plan
  let d := if phases = [] ∧ d.flags.rootPlanIndexReady = false then d.indexReady .none else d
  if d.flags.rootPlanIndexReady then next d
  else if allCompleted d.lease phases then manifest.bind fun m => next (d.indexReady m)
  else some (d.queuePlan phases false)

def childPlan (job : ChunkedJob) (next : Dispatch → Option Dispatch) (d : Dispatch) : Option Dispatch :=
  let phases := job.group .child .plan
  if phases = [] then next d
  else
    let d := d.queuePlan phases true
    if allCompleted d.lease phases then next d else some (d.queueLoad (job.group .root .load) true)

def rootLoad (job : ChunkedJob) (manifest : Option IndexManifest) (next : Dispatch → Option Dispatch)
    (d : Dispatch) : Option Dispatch :=
  let phases := job.group .root .load
  if phases = [] then next (if d.flags.rootLoadAnchorMapReady then d else d.mapReady .none)
  else
    let d := d.queueLoad phases true
    if d.flags.rootLoadAnchorMapReady then next d
    else if allCompleted d.lease phases then manifest.bind fun m => next (d.mapReady m)
    else some d

def childLoad (job : ChunkedJob) (next : Dispatch → Option Dispatch) (d : Dispatch) : Option Dispatch :=
  let phases := job.group .child .load
  if phases = [] then next d
  else
    let d := d.queueLoad phases true
    if allCompleted d.lease phases then next d else some d

def planAndLoad (job : ChunkedJob) (next : Dispatch → Option Dispatch) (d : Dispatch) : Option Dispatch :=
  let d := d.queuePlan (job.ofKind .plan) false
  if allCompleted d.lease (job.ofKind .plan) then
    let d := d.queueLoad (job.ofKind .load) true
    if allCompleted d.lease (job.ofKind .load) then next d else some d
  else some d

/-- `advance_workflow_dispatch`; the arguments are the manifests that are written, where this succeeds. -/
def advance (job : ChunkedJob) (planManifest loadManifest : Option IndexManifest) (d : Dispatch) :
    Option Dispatch :=
  if hasFailed d.lease (job.ofKind .plan ++ job.ofKind .load) then some d
  else if job.chunks = [] then some d.finalize
  else if job.bundleMode = "same_side_bundle" then
    rootPlan job planManifest (childPlan job (rootLoad job loadManifest (childLoad job fun d => some d.finalize))) d
  else planAndLoad job (fun d => some d.finalize) d

end Dispatch

/-- `advance_workflow`: only a running job that nobody asked to cancel is dispatched. -/
def advanceWorkflow (job : ChunkedJob) (planManifest loadManifest : Option IndexManifest)
    (s : LeaseState) (flags : WorkflowFlags) : Option Dispatch :=
  if flags.prepareCompleted && (s.jobs.get? job.id).any JobRow.active then
    Dispatch.advance job planManifest loadManifest ⟨s, flags, {}⟩
  else some ⟨s, flags, {}⟩

namespace LeaseState

variable {s : LeaseState}

lemma get?_queuePhases (s : LeaseState) (ids : List ℕ) (allowBlocked : Bool) (id : ℕ) :
    (s.queuePhases ids allowBlocked).phases.get? id = (s.phases.get? id).map fun p =>
      if id ∈ ids ∧ (p.status == .pending || allowBlocked && p.status == .blocked) = true then
        { p with status := .queued }
      else p := by
  induction ids generalizing s with
  | nil => simp [queuePhases]
  | cons i ids ih =>
    change ((s.queuePending i allowBlocked).queuePhases ids allowBlocked).phases.get? id = _
    rw [ih, queuePending, get?_assign, Option.map_map]
    cases s.phases.get? id with
    | none => rfl
    | some p =>
      by_cases hid : id = i
      · subst hid
        by_cases hp : (p.status == .pending || allowBlocked && p.status == .blocked) = true
        · simp only [map_some, Function.comp_apply, beq_self_eq_true, Bool.true_and, hp,
            if_true, mem_cons_self, true_and, Option.some.injEq]
          split <;> rfl
        · have hp' := Bool.eq_false_iff.mpr hp
          simp only [map_some, Function.comp_apply, beq_self_eq_true, Bool.true_and, hp',
            Bool.false_eq_true, if_false, and_false]
      · simp [hid]

lemma waits_iff {id : ℕ} : s.waits id = true ↔
    ∃ p, s.phases.get? id = some p ∧ (p.status = .pending ∨ p.status = .blocked) := by
  simp [waits, Option.any_eq_true]

lemma completed_iff {id : ℕ} : s.completed id = true ↔ ∃ p, s.phases.get? id = some p ∧ p.status = .completed := by
  simp [completed, Option.any_eq_true]

end LeaseState

lemma allCompleted_iff {s : LeaseState} {ids : List ℕ} :
    allCompleted s ids = true ↔ ids ≠ [] ∧ ∀ id ∈ ids, s.completed id = true := by
  simp [allCompleted]

lemma mem_pendingPhases {s : LeaseState} {ids : List ℕ} {allowBlocked : Bool} {id : ℕ} :
    id ∈ pendingPhases s ids allowBlocked ↔ id ∈ ids ∧ ∃ p, s.phases.get? id = some p ∧
      (p.status == .pending || allowBlocked && p.status == .blocked) = true := by
  simp [pendingPhases, Option.any_eq_true]

/-! ### What a dispatch does -/

/-- A dispatch under way, from the phases `s` and the payload `f`; what the flags of the payload say of
phases is that they are `Done`. -/
structure Progress (job : ChunkedJob) (Done : ℕ → Prop) (s : LeaseState) (f : WorkflowFlags)
    (d : Dispatch) : Prop where
  done : ∀ id, s.completed id = true → Done id
  /-- The phases of the plan are queued, the others are as before. -/
  rows : ∀ id, d.lease.phases.get? id = (s.phases.get? id).map fun p =>
    if id ∈ d.plan.phaseIds then { p with status := .queued } else p
  waiting : ∀ id ∈ d.plan.phaseIds, s.waits id = true
  nodup : d.plan.phaseIds.Nodup
  planKind : ∀ id ∈ d.plan.planPhaseIds, id ∈ job.ofKind .plan
  loadKind : ∀ id ∈ d.plan.loadPhaseIds, id ∈ job.ofKind .load
  index : d.flags.rootPlanIndexReady = true → ∀ id ∈ job.group .root .plan, Done id
  map : d.flags.rootLoadAnchorMapReady = true → ∀ id ∈ job.group .root .load, Done id
  /-- The end is dispatched once everything is completed. -/
  finalized : d.flags.finalizeQueued = true → ∀ kind, ∀ id ∈ job.ofKind kind, Done id
  childPlan : ∀ id ∈ d.plan.planPhaseIds, id ∈ job.group .child .plan → d.flags.rootPlanIndexReady = true
  childLoad : ∀ id ∈ d.plan.loadPhaseIds, id ∈ job.group .child .load → d.flags.rootLoadAnchorMapReady = true
  load : job.bundleMode ≠ "same_side_bundle" → d.plan.loadPhaseIds ≠ [] → ∀ id ∈ job.ofKind .plan, Done id
  finalize : d.flags.finalizeQueued = (f.finalizeQueued || d.plan.finalizeJob)
  once : f.finalizeQueued = true → d.plan.finalizeJob = false

section Progress

variable {job : ChunkedJob} {Done : ℕ → Prop} {s : LeaseState} {f : WorkflowFlags} {d r : Dispatch}

lemma Progress.completed (h : Progress job Done s f d) (id : ℕ) : d.lease.completed id = s.completed id := by
  rw [LeaseState.completed, h.rows]
  by_cases hid : id ∈ d.plan.phaseIds
  · obtain ⟨p, hp, hwaits⟩ := waits_iff.mp (h.waiting id hid)
    simp only [hp, hid, if_true, map_some, any_some, LeaseState.completed]
    rcases hwaits with hstatus | hstatus <;> simp [hstatus]
  · simp [hid, LeaseState.completed]

variable {ids : List ℕ} {id : ℕ}

section

variable (h : Progress job Done s f d)
include h

lemma Progress.allCompleted (hall : Imports.allCompleted d.lease ids = true) : ∀ id ∈ ids, Done id := by
  intro id hid
  refine h.done id ?_
  rw [← h.completed]
  exact (allCompleted_iff.mp hall).2 id hid

lemma Progress.pending {allowBlocked : Bool} (hid : id ∈ pendingPhases d.lease ids allowBlocked) :
    id ∈ ids ∧ id ∉ d.plan.phaseIds ∧ s.waits id = true := by
  obtain ⟨hin, p, hp, hpending⟩ := mem_pendingPhases.mp hid
  rw [h.rows] at hp
  obtain ⟨q, hq, rfl⟩ := map_eq_some_iff.mp hp
  by_cases hplan : id ∈ d.plan.phaseIds
  · simp [hplan] at hpending
  · simp only [hplan, if_false, or_eq_true, and_eq_true, beq_iff_eq] at hpending
    exact ⟨hin, hplan, waits_iff.mpr ⟨q, hq, hpending.imp_right And.right⟩⟩

lemma Progress.queue (hids : ids.Nodup) (allowBlocked : Bool)
    {plan : WorkflowDispatchPlan}
    (hplan : plan.phaseIds.Perm (d.plan.phaseIds ++ pendingPhases d.lease ids allowBlocked)) :
    (∀ id, (d.lease.queuePhases ids allowBlocked).phases.get? id = (s.phases.get? id).map fun p =>
      if id ∈ plan.phaseIds then { p with status := .queued } else p) ∧
    (∀ id ∈ plan.phaseIds, s.waits id = true) ∧ plan.phaseIds.Nodup := by
  have hmem : ∀ id, id ∈ plan.phaseIds ↔
      id ∈ d.plan.phaseIds ∨ id ∈ pendingPhases d.lease ids allowBlocked := fun id =>
    hplan.mem_iff.trans mem_append
  refine ⟨fun id => ?_, fun id hid => ?_, hplan.nodup_iff.mpr ?_⟩
  · rw [LeaseState.get?_queuePhases, h.rows, Option.map_map]
    have hpending : id ∈ pendingPhases d.lease ids allowBlocked ↔ id ∈ ids ∧ ∃ p, d.lease.phases.get? id = some p ∧
          (p.status == .pending || allowBlocked && p.status == .blocked) = true := mem_pendingPhases
    rw [h.rows] at hpending
    cases hp : s.phases.get? id with
    | none => rfl
    | some =>
      simp only [hp, map_some, Option.some.injEq, exists_eq_left'] at hpending
      simp only [map_some, Function.comp_apply, hmem, Option.some.injEq]
      by_cases hold : id ∈ d.plan.phaseIds
      · simp [hold]
      · simp only [hold, if_false, false_or, hpending]
  · rcases (hmem id).mp hid with hold | hnew
    · exact h.waiting id hold
    · exact (h.pending hnew).2.2
  · refine nodup_append.mpr ⟨h.nodup, hids.filter _, fun id hid id' hid' => ?_⟩
    rintro rfl
    exact (h.pending hid').2.1 hid

lemma Progress.queuePlan (hids : ids.Nodup) (allowBlocked : Bool) (hkind : ∀ id ∈ ids, id ∈ job.ofKind .plan)
    (hchild : ∀ id ∈ ids, id ∈ job.group .child .plan → d.flags.rootPlanIndexReady = true) :
    Progress job Done s f (d.queuePlan ids allowBlocked) := by
  have hperm : (d.queuePlan ids allowBlocked).plan.phaseIds.Perm
      (d.plan.phaseIds ++ pendingPhases d.lease ids allowBlocked) := by
    simp only [Dispatch.queuePlan, WorkflowDispatchPlan.phaseIds, append_assoc]
    exact Perm.append_left _ perm_append_comm
  obtain ⟨hrows, hwaiting, hnodup⟩ := h.queue hids allowBlocked hperm
  refine ⟨h.done, hrows, hwaiting, hnodup, fun id hid => ?_, h.loadKind, h.index, h.map, h.finalized,
    fun id hid hgroup => ?_, h.childLoad, h.load, h.finalize, h.once⟩
  · rcases mem_append.mp hid with hold | hnew
    · exact h.planKind id hold
    · exact hkind id (h.pending hnew).1
  · rcases mem_append.mp hid with hold | hnew
    · exact h.childPlan id hold hgroup
    · exact hchild id (h.pending hnew).1 hgroup

lemma Progress.queueLoad (hids : ids.Nodup) (allowBlocked : Bool) (hkind : ∀ id ∈ ids, id ∈ job.ofKind .load)
    (hchild : ∀ id ∈ ids, id ∈ job.group .child .load → d.flags.rootLoadAnchorMapReady = true)
    (hload : job.bundleMode ≠ "same_side_bundle" → ∀ id ∈ job.ofKind .plan, Done id) :
    Progress job Done s f (d.queueLoad ids allowBlocked) := by
  have hperm : (d.queueLoad ids allowBlocked).plan.phaseIds.Perm
      (d.plan.phaseIds ++ pendingPhases d.lease ids allowBlocked) := by
    simp only [Dispatch.queueLoad, WorkflowDispatchPlan.phaseIds, append_assoc]
    exact List.Perm.refl _
  obtain ⟨hrows, hwaiting, hnodup⟩ := h.queue hids allowBlocked hperm
  refine ⟨h.done, hrows, hwaiting, hnodup, h.planKind, fun id hid => ?_, h.index, h.map, h.finalized,
    h.childPlan, fun id hid hgroup => ?_, fun hsingle _ => hload hsingle, h.finalize, h.once⟩
  · rcases mem_append.mp hid with hold | hnew
    · exact h.loadKind id hold
    · exact hkind id (h.pending hnew).1
  · rcases mem_append.mp hid with hold | hnew
    · exact h.childLoad id hold hgroup
    · exact hchild id (h.pending hnew).1 hgroup

lemma Progress.indexReady (manifest : IndexManifest) (hroot : ∀ id ∈ job.group .root .plan, Done id) :
    Progress job Done s f (d.indexReady manifest) :=
  ⟨h.done, h.rows, h.waiting, h.nodup, h.planKind, h.loadKind, fun _ => hroot, h.map, h.finalized,
    fun _ _ _ => rfl, h.childLoad, h.load, h.finalize, h.once⟩

lemma Progress.mapReady (manifest : IndexManifest) (hroot : ∀ id ∈ job.group .root .load, Done id) :
    Progress job Done s f (d.mapReady manifest) :=
  ⟨h.done, h.rows, h.waiting, h.nodup, h.planKind, h.loadKind, h.index, fun _ => hroot, h.finalized,
    h.childPlan, fun _ _ _ => rfl, h.load, h.finalize, h.once⟩

lemma Progress.finalizeJob (hall : ∀ kind, ∀ id ∈ job.ofKind kind, Done id) : Progress job Done s f d.finalize := by
  unfold Dispatch.finalize
  split
  · exact h
  · next hqueued =>
    have hf : f.finalizeQueued = false := by
      have hflag := h.finalize
      rw [eq_false_iff.mpr hqueued] at hflag
      exact (or_eq_false_iff.mp hflag.symm).1
    exact ⟨h.done, h.rows, h.waiting, h.nodup, h.planKind, h.loadKind, h.index, h.map, fun _ => hall,
      h.childPlan, h.childLoad, h.load, by simp, fun hqueued => absurd hqueued (by simp [hf])⟩

end

/-! The groups of a job. -/

variable {role : Role} {kind : PhaseKind}

lemma mem_group : id ∈ job.group role kind ↔ ∃ c ∈ job.chunks, c.role = role ∧ c.phaseId kind = id := by
  simp [ChunkedJob.group, and_assoc]

lemma mem_ofKind : id ∈ job.ofKind kind ↔ ∃ c ∈ job.chunks, c.phaseId kind = id := mem_map

lemma mem_ofKind_of_mem_group (h : id ∈ job.group role kind) : id ∈ job.ofKind kind := by
  obtain ⟨c, hc, -, rfl⟩ := mem_group.mp h
  exact mem_ofKind.mpr ⟨c, hc, rfl⟩

lemma nodup_kinds (job : ChunkedJob) : (job.ofKind .plan).Nodup ∧ (job.ofKind .load).Nodup ∧
    ∀ id ∈ job.ofKind .plan, id ∉ job.ofKind .load := by
  have hperm : (job.chunks.flatMap fun c => [c.planPhaseId, c.loadPhaseId]).Perm
      (job.ofKind .plan ++ job.ofKind .load) := by
    unfold ChunkedJob.ofKind
    induction job.chunks with
    | nil => exact List.Perm.nil
    | cons c _ ih =>
      refine ((ih.cons c.loadPhaseId).trans ?_).cons c.planPhaseId
      exact perm_middle.symm
  obtain ⟨hplan, hload, hdisjoint⟩ := nodup_append.mp (hperm.nodup_iff.mp job.distinct)
  exact ⟨hplan, hload, fun id hid hid' => hdisjoint id hid id hid' rfl⟩

lemma nodup_group (job : ChunkedJob) (role : Role) (kind : PhaseKind) : (job.group role kind).Nodup := by
  have hkind : (job.ofKind kind).Nodup := by
    cases kind with
    | plan => exact (nodup_kinds job).1
    | load => exact (nodup_kinds job).2.1
  refine List.Nodup.sublist ?_ hkind
  exact filter_sublist.map _

lemma not_mem_group {role' : Role} (hrole : role ≠ role')
    (h : id ∈ job.group role kind) : id ∉ job.group role' kind := by
  intro h'
  obtain ⟨c, hc, rfl, hid⟩ := mem_group.mp h
  obtain ⟨_, hc', rfl, hid'⟩ := mem_group.mp h'
  have hkind : (job.chunks.map fun c => c.phaseId kind).Nodup := by
    cases kind with
    | plan => exact (nodup_kinds job).1
    | load => exact (nodup_kinds job).2.1
  exact hrole (congrArg ImportChunk.role (inj_on_of_nodup_map hkind hc hc' (hid.trans hid'.symm)))

lemma mem_group_of_bundle (hbundle : job.bundleMode = "same_side_bundle")
    (h : id ∈ job.ofKind kind) : id ∈ job.group .root kind ∨ id ∈ job.group .child kind := by
  obtain ⟨c, hc, rfl⟩ := mem_ofKind.mp h
  have hrole : c.role ≠ .single := fun hsingle => (job.roles c hc).mp hsingle hbundle
  cases hc' : c.role with
  | single => exact absurd hc' hrole
  | root => exact .inl (mem_group.mpr ⟨c, hc, hc', rfl⟩)
  | child => exact .inr (mem_group.mpr ⟨c, hc, hc', rfl⟩)

/-! The parts of a dispatch: each hands over with its phases completed. -/

variable {next : Dispatch → Option Dispatch} {manifest : Option IndexManifest}

section

variable (h : Progress job Done s f d)
include h

lemma Progress.rootPlanPart (hnext : ∀ d', Progress job Done s f d' → d'.flags.rootPlanIndexReady = true →
      next d' = some r → Progress job Done s f r)
    (hr : d.rootPlan job manifest next = some r) : Progress job Done s f r := by
  unfold Dispatch.rootPlan at hr
  simp only at hr
  -- a bundle without root chunks has an empty index
  have hready : Progress job Done s f
      (if job.group .root .plan = [] ∧ d.flags.rootPlanIndexReady = false then d.indexReady .none
        else d) := by
    split
    · next hempty => exact h.indexReady _ (by simp [hempty.1])
    · exact h
  revert hr
  generalize (if job.group .root .plan = [] ∧ d.flags.rootPlanIndexReady = false then
    d.indexReady .none else d) = d' at hready
  intro hr
  split at hr
  · next hflag => exact hnext d' hready hflag hr
  · split at hr
    · next hall =>
      obtain ⟨m, -, hr⟩ := bind_eq_some_iff.mp hr
      exact hnext _ (hready.indexReady m (hready.allCompleted hall)) rfl hr
    · obtain ⟨⟩ := hr
      refine hready.queuePlan (nodup_group job _ _) false (fun id => mem_ofKind_of_mem_group) ?_
      exact fun id hid hchild => absurd hchild (not_mem_group (by decide) hid)

section

variable (hbundle : job.bundleMode = "same_side_bundle")
include hbundle

lemma Progress.childPlanPart (hindex : d.flags.rootPlanIndexReady = true)
    (hnext : ∀ d', Progress job Done s f d' → (∀ id ∈ job.group .child .plan, Done id) →
      next d' = some r → Progress job Done s f r)
    (hr : d.childPlan job next = some r) : Progress job Done s f r := by
  unfold Dispatch.childPlan at hr
  simp only at hr
  split at hr
  · next hempty => exact hnext d h (by simp [hempty]) hr
  · have hqueued : Progress job Done s f (d.queuePlan (job.group .child .plan) true) :=
      h.queuePlan (nodup_group job _ _) true (fun id => mem_ofKind_of_mem_group) fun _ _ _ => hindex
    split at hr
    · next hall => exact hnext _ hqueued (hqueued.allCompleted hall) hr
    · obtain ⟨⟩ := hr
      refine hqueued.queueLoad (nodup_group job _ _) true (fun id => mem_ofKind_of_mem_group) ?_
        fun hsingle => absurd hbundle hsingle
      exact fun id hid hchild => absurd hchild (not_mem_group (by decide) hid)

lemma Progress.rootLoadPart (hnext : ∀ d', Progress job Done s f d' → d'.flags.rootLoadAnchorMapReady = true →
      next d' = some r → Progress job Done s f r)
    (hr : d.rootLoad job manifest next = some r) : Progress job Done s f r := by
  unfold Dispatch.rootLoad at hr
  simp only at hr
  split at hr
  · next hempty =>
    split at hr
    · next hflag => exact hnext d h hflag hr
    · exact hnext _ (h.mapReady _ (by simp [hempty])) rfl hr
  · have hqueued : Progress job Done s f (d.queueLoad (job.group .root .load) true) := by
      refine h.queueLoad (nodup_group job _ _) true (fun id => mem_ofKind_of_mem_group) ?_
        fun hsingle => absurd hbundle hsingle
      exact fun id hid hchild => absurd hchild (not_mem_group (by decide) hid)
    split at hr
    · next hflag => exact hnext _ hqueued hflag hr
    · split at hr
      · next hall =>
        obtain ⟨m, -, hr⟩ := bind_eq_some_iff.mp hr
        exact hnext _ (hqueued.mapReady m (hqueued.allCompleted hall)) rfl hr
      · obtain ⟨⟩ := hr
        exact hqueued

lemma Progress.childLoadPart (hmap : d.flags.rootLoadAnchorMapReady = true)
    (hnext : ∀ d', Progress job Done s f d' → (∀ id ∈ job.group .child .load, Done id) →
      next d' = some r → Progress job Done s f r)
    (hr : d.childLoad job next = some r) : Progress job Done s f r := by
  unfold Dispatch.childLoad at hr
  simp only at hr
  split at hr
  · next hempty => exact hnext d h (by simp [hempty]) hr
  · have hqueued : Progress job Done s f (d.queueLoad (job.group .child .load) true) :=
      h.queueLoad (nodup_group job _ _) true (fun id => mem_ofKind_of_mem_group)
        (fun _ _ _ => hmap) fun hsingle => absurd hbundle hsingle
    split at hr
    · next hall => exact hnext _ hqueued (hqueued.allCompleted hall) hr
    · obtain ⟨⟩ := hr
      exact hqueued

end

lemma Progress.planAndLoadPart (hsingle : job.bundleMode ≠ "same_side_bundle")
    (hnext : ∀ d', Progress job Done s f d' → (∀ kind, ∀ id ∈ job.ofKind kind, Done id) →
      next d' = some r → Progress job Done s f r)
    (hr : d.planAndLoad job next = some r) : Progress job Done s f r := by
  have hchild : ∀ kind, job.group .child kind = [] := by
    intro kind
    refine eq_nil_iff_forall_not_mem.mpr fun id hid => ?_
    obtain ⟨c, hc, hrole, -⟩ := mem_group.mp hid
    have hrole' : c.role = .single := (job.roles c hc).mpr hsingle
    rw [hrole] at hrole'
    cases hrole'
  unfold Dispatch.planAndLoad at hr
  simp only at hr
  have hqueued : Progress job Done s f (d.queuePlan (job.ofKind .plan) false) := by
    refine h.queuePlan (nodup_kinds job).1 false (fun _ hid => hid) fun id _ hid => ?_
    simp [hchild] at hid
  split at hr
  · next hplan =>
    have hplanned := hqueued.allCompleted hplan
    have hloading : Progress job Done s f
        ((d.queuePlan (job.ofKind .plan) false).queueLoad (job.ofKind .load) true) := by
      refine hqueued.queueLoad (nodup_kinds job).2.1 true (fun _ hid => hid) (fun id _ hid => ?_)
        fun _ => hplanned
      simp [hchild] at hid
    split at hr
    · next hload =>
      refine hnext _ hloading (fun kind => ?_) hr
      cases kind with
      | plan => exact hplanned
      | load => exact hloading.allCompleted hload
    · obtain ⟨⟩ := hr
      exact hloading
  · obtain ⟨⟩ := hr
    exact hqueued

lemma Progress.advance {planManifest loadManifest : Option IndexManifest}
    (hr : d.advance job planManifest loadManifest = some r) : Progress job Done s f r := by
  unfold Dispatch.advance at hr
  split at hr
  · obtain ⟨⟩ := hr
    exact h
  · split at hr
    · next hempty =>
      obtain ⟨⟩ := hr
      exact h.finalizeJob fun kind id hid => by simp [ChunkedJob.ofKind, hempty] at hid
    · split at hr
      · next hbundle =>
        refine h.rootPlanPart (fun d₁ h₁ hindex hr => ?_) hr
        refine h₁.childPlanPart hbundle hindex (fun d₂ h₂ hchildPlan hr => ?_) hr
        refine h₂.rootLoadPart hbundle (fun d₃ h₃ hmap hr => ?_) hr
        refine h₃.childLoadPart hbundle hmap (fun d₄ h₄ hchildLoad hr => ?_) hr
        obtain ⟨⟩ := hr
        refine h₄.finalizeJob fun kind id hid => ?_
        rcases mem_group_of_bundle hbundle hid with hroot | hchild
        · cases kind with
          | plan => exact h₁.index hindex id hroot
          | load => exact h₃.map hmap id hroot
        · cases kind with
          | plan => exact hchildPlan id hchild
          | load => exact hchildLoad id hchild
      · next hsingle =>
        refine h.planAndLoadPart hsingle (fun d' h' hall hr => ?_) hr
        obtain ⟨⟩ := hr
        exact h'.finalizeJob hall

end

end Progress

lemma progress_advanceWorkflow {job : ChunkedJob} {planManifest loadManifest : Option IndexManifest}
    {Done : ℕ → Prop} {s : LeaseState} {f : WorkflowFlags} {r : Dispatch}
    (hdone : ∀ id, s.completed id = true → Done id)
    (hindex : f.rootPlanIndexReady = true → ∀ id ∈ job.group .root .plan, Done id)
    (hmap : f.rootLoadAnchorMapReady = true → ∀ id ∈ job.group .root .load, Done id)
    (hfinalized : f.finalizeQueued = true → ∀ kind, ∀ id ∈ job.ofKind kind, Done id)
    (hr : advanceWorkflow job planManifest loadManifest s f = some r) : Progress job Done s f r := by
  have hstart : Progress job Done s f ⟨s, f, {}⟩ := by
    refine ⟨hdone, fun id => ?_, by simp [WorkflowDispatchPlan.phaseIds],
      by simp [WorkflowDispatchPlan.phaseIds], by simp, by simp, hindex, hmap, hfinalized, by simp,
      by simp, by simp, by simp, fun _ => rfl⟩
    simp [WorkflowDispatchPlan.phaseIds]
  unfold advanceWorkflow at hr
  split at hr
  · exact hstart.advance hr
  · obtain ⟨⟩ := hr
    exact hstart

/-! ### Runs -/

structure WorkflowDesk where
  lease : LeaseState
  flags : WorkflowFlags
  /-- History: the phases in the plans returned so far. -/
  dispatched : List ℕ
  /-- History: how often a plan asked for the end of the job. -/
  finalizations : ℕ

inductive WorkflowStep where
  /-- A call of `advance_workflow`, with the manifests it writes where that succeeds. -/
  | advance (planManifest loadManifest : Option IndexManifest)
  /-- A step of a worker on its phase, or of a user on the job. -/
  | work (a : LeaseStep)

/-- Phases go on by these steps: requeues and retries of phases are left out here. -/
def LeaseStep.goesOn : LeaseStep → Bool
  | .acquire .. | .heartbeat .. | .complete .. | .fail .. | .cancelAttempt .. | .requestCancellation ..
  | .setJobStatus .. | .tick .. => true
  | .retry .. | .queue .. | .readExpired | .requeueNext .. => false

def WorkflowDesk.step (job : ChunkedJob) (ttl : ℕ) (s : WorkflowDesk) : WorkflowStep → Option WorkflowDesk
  | .advance planManifest loadManifest =>
    (advanceWorkflow job planManifest loadManifest s.lease s.flags).map fun d =>
      { lease := d.lease
        flags := d.flags
        dispatched := s.dispatched ++ d.plan.phaseIds
        finalizations := s.finalizations + d.plan.finalizeJob.toNat }
  | .work a =>
    if a.goesOn then (leaseStep ttl s.lease a).map fun lease => { s with lease := lease } else none

/-- Completed phases stay so, and no phase waits that did not wait. -/
structure Onward (s t : LeaseState) : Prop where
  completed : ∀ id, s.completed id = true → t.completed id = true
  waits : ∀ id, t.waits id = true → s.waits id = true

section Onward

variable {s : LeaseState} {sel : PhaseRow → Bool} {f : PhaseRow → PhaseRow}

lemma onward_update {p : ℕ → PhaseRow → Bool} (hsel : ∀ id row, p id row = true → row.status ≠ .completed)
    (hf : ∀ id row, p id row = true → (f row).status ≠ .pending ∧ (f row).status ≠ .blocked) :
    Onward s { s with phases := s.phases.update p fun _ => f } := by
  constructor
  · intro id hid
    obtain ⟨row, hrow, hstatus⟩ := completed_iff.mp hid
    refine completed_iff.mpr ⟨row, ?_, hstatus⟩
    have hkeep : ¬ p id row = true := fun h => hsel id row h hstatus
    rw [Keyed.get?_update, hrow, map_some, if_neg hkeep]
  · intro id hid
    obtain ⟨_, hrow', hstatus⟩ := waits_iff.mp hid
    rw [Keyed.get?_update] at hrow'
    obtain ⟨row, hrow, rfl⟩ := map_eq_some_iff.mp hrow'
    split at hstatus
    · next h =>
      obtain ⟨hpending, hblocked⟩ := hf id row h
      rcases hstatus with hstatus | hstatus
      · exact absurd hstatus hpending
      · exact absurd hstatus hblocked
    · exact waits_iff.mpr ⟨row, hrow, hstatus⟩

lemma onward_of_phases {t : LeaseState} (h : t.phases = s.phases) : Onward s t := by
  constructor
  · intro id hid
    rwa [LeaseState.completed, h]
  · intro id hid
    rwa [LeaseState.waits, h] at hid

lemma PhaseRow.not_completed_of_heldBy {token : String} {p : PhaseRow} (h : p.heldBy token = true) :
    p.status ≠ .completed := by
  have hrunning : p.status = .running := by simpa using ((and_eq_true _ _).mp h).1
  rw [hrunning]
  decide

lemma PhaseRow.not_completed_of_cancellable {p : PhaseRow} (h : p.cancellable = true) : p.status ≠ .completed := by
  rintro hstatus
  simp [PhaseRow.cancellable, hstatus] at h

lemma onward_assign (id : ℕ) (hsel : ∀ row, sel row = true → row.status ≠ .completed)
    (hf : ∀ row, sel row = true → (f row).status ≠ .pending ∧ (f row).status ≠ .blocked) :
    Onward s (s.assign id sel f) :=
  onward_update (fun _ row h => hsel row ((and_eq_true _ _).mp h).2)
    fun _ row h => hf row ((and_eq_true _ _).mp h).2

lemma onward_assignTouching {id : ℕ} (hsel : ∀ row, sel row = true → row.status ≠ .completed)
    (hf : ∀ row, sel row = true → (f row).status ≠ .pending ∧ (f row).status ≠ .blocked) :
    Onward s (s.assignTouching id sel f) := by
  have hassign : Onward s (s.assign id sel f) := onward_assign id hsel hf
  exact ⟨hassign.completed, hassign.waits⟩

lemma onward_of_step {ttl : ℕ} {a : LeaseStep} {t : LeaseState} (ha : a.goesOn = true)
    (hstep : leaseStep ttl s a = some t) : Onward s t := by
  cases a with
  | acquire id taskId token =>
    rw [leaseStep] at hstep
    split at hstep
    · cases hstep
    · obtain ⟨⟩ := hstep
      unfold LeaseState.acquirePhase
      split
      · exact onward_of_phases rfl
      · split
        · exact onward_assignTouching (fun row h => not_completed_of_cancellable h) (by simp)
        · have hacquired : Onward { s with tokens := token :: s.tokens }
              ({ s with tokens := token :: s.tokens }.assignTouching id (PhaseRow.acquirable taskId)
                (PhaseRow.leased ttl s.clock taskId token)) := by
            refine onward_assignTouching (fun row h hstatus => ?_) (by simp [PhaseRow.leased])
            simp [PhaseRow.acquirable, hstatus] at h
          exact ⟨hacquired.completed, hacquired.waits⟩
  | heartbeat =>
    obtain ⟨⟩ := hstep
    refine onward_assignTouching (fun row h => ?_) fun row h => ?_
    · exact not_completed_of_heldBy ((and_eq_true _ _).mp h).2
    · have hrunning : row.status = .running := by
        simpa using ((and_eq_true _ _).mp ((and_eq_true _ _).mp h).2).1
      simp [hrunning]
  | complete =>
    obtain ⟨⟩ := hstep
    exact onward_assignTouching (fun row h => not_completed_of_heldBy h) (by simp)
  | fail =>
    obtain ⟨⟩ := hstep
    exact onward_assign _ (fun row h => not_completed_of_heldBy h) (by simp)
  | cancelAttempt =>
    obtain ⟨⟩ := hstep
    exact onward_assignTouching (fun row h => not_completed_of_heldBy h) (by simp)
  | requestCancellation jobId =>
    obtain ⟨⟩ := hstep
    have hcancelled : Onward s { s with
        phases := s.phases.update (fun _ p => p.jobId == jobId && p.cancellable) fun _ p =>
          { p.unleased with status := .cancelled, finishedAt := some s.clock } } := by
      refine onward_update (fun _ row h => ?_) (by simp)
      exact not_completed_of_cancellable ((and_eq_true _ _).mp h).2
    exact ⟨hcancelled.completed, hcancelled.waits⟩
  | setJobStatus =>
    obtain ⟨⟩ := hstep
    exact onward_of_phases rfl
  | tick =>
    obtain ⟨⟩ := hstep
    exact onward_of_phases rfl
  | retry | queue | readExpired | requeueNext => cases ha

end Onward

/-- What is known of a workflow between two steps. -/
structure Orderly (job : ChunkedJob) (s : WorkflowDesk) : Prop where
  index : s.flags.rootPlanIndexReady = true → ∀ id ∈ job.group .root .plan, s.lease.completed id = true
  map : s.flags.rootLoadAnchorMapReady = true → ∀ id ∈ job.group .root .load, s.lease.completed id = true
  finalized : s.flags.finalizeQueued = true → ∀ kind, ∀ id ∈ job.ofKind kind, s.lease.completed id = true
  nodup : s.dispatched.Nodup
  gone : ∀ id ∈ s.dispatched, s.lease.waits id = false
  /-- The flag counts how often the end was dispatched. -/
  finalizations : s.finalizations = s.flags.finalizeQueued.toNat

section Runs

variable {job : ChunkedJob} {ttl : ℕ} {s t : WorkflowDesk}

lemma Orderly.progress (h : Orderly job s) {planManifest loadManifest : Option IndexManifest} {r : Dispatch}
    (hr : advanceWorkflow job planManifest loadManifest s.lease s.flags = some r) :
    Progress job (fun id => s.lease.completed id = true) s.lease s.flags r :=
  progress_advanceWorkflow (fun _ hid => hid) h.index h.map h.finalized hr

lemma Orderly.advance (h : Orderly job s) {r : Dispatch}
    (hr : Progress job (fun id => s.lease.completed id = true) s.lease s.flags r) :
    Orderly job ⟨r.lease, r.flags, s.dispatched ++ r.plan.phaseIds, s.finalizations + r.plan.finalizeJob.toNat⟩ := by
  refine ⟨fun hflag id hid => ?_, fun hflag id hid => ?_, fun hflag kind id hid => ?_, ?_,
    fun id hid => ?_, ?_⟩
  · exact (hr.completed id).trans (hr.index hflag id hid)
  · exact (hr.completed id).trans (hr.map hflag id hid)
  · exact (hr.completed id).trans (hr.finalized hflag kind id hid)
  · refine nodup_append.mpr ⟨h.nodup, hr.nodup, fun id hid id' hid' => ?_⟩
    rintro rfl
    have hwaits := hr.waiting id hid'
    rw [h.gone id hid] at hwaits
    cases hwaits
  · rw [eq_false_iff]
    intro hwaits
    obtain ⟨_, hrow, hstatus⟩ := waits_iff.mp hwaits
    rw [hr.rows] at hrow
    obtain ⟨p, hp, rfl⟩ := map_eq_some_iff.mp hrow
    by_cases hplan : id ∈ r.plan.phaseIds
    · simp [hplan] at hstatus
    · have hold : id ∈ s.dispatched := (mem_append.mp hid).resolve_right hplan
      simp only [hplan, if_false] at hstatus
      have hgone := h.gone id hold
      rw [waits_iff.mpr ⟨p, hp, hstatus⟩] at hgone
      cases hgone
  · have hflag := hr.finalize
    have honce := hr.once
    have hcount := h.finalizations
    change s.finalizations + r.plan.finalizeJob.toNat = r.flags.finalizeQueued.toNat
    rw [hflag, hcount]
    cases hf : s.flags.finalizeQueued with
    | false => simp
    | true => simp [honce hf]

lemma Orderly.step (h : Orderly job s) {a : WorkflowStep} (hstep : s.step job ttl a = some t) :
    Orderly job t := by
  cases a with
  | advance =>
    obtain ⟨r, hr, rfl⟩ := map_eq_some_iff.mp hstep
    exact h.advance (h.progress hr)
  | work =>
    rw [WorkflowDesk.step] at hstep
    split at hstep
    · next ha =>
      obtain ⟨_, hlease, rfl⟩ := map_eq_some_iff.mp hstep
      have honward := onward_of_step ha hlease
      refine ⟨fun hflag id hid => honward.completed id (h.index hflag id hid),
        fun hflag id hid => honward.completed id (h.map hflag id hid),
        fun hflag kind id hid => honward.completed id (h.finalized hflag kind id hid),
        h.nodup, fun id hid => ?_, h.finalizations⟩
      rw [eq_false_iff]
      intro hwaits
      have hold := honward.waits id hwaits
      rw [h.gone id hid] at hold
      cases hold
    · cases hstep

structure InOrder (job : ChunkedJob) (r : Dispatch) : Prop where
  /-- A child chunk is planned after all root chunks, with their index. -/
  childPlan : ∀ c ∈ job.chunks, c.role = .child → c.planPhaseId ∈ r.plan.phaseIds →
    (∀ c' ∈ job.chunks, c'.role = .root → r.lease.completed c'.planPhaseId = true) ∧ r.flags.rootPlanIndexReady = true
  /-- It is loaded after all root chunks, with their map. -/
  childLoad : ∀ c ∈ job.chunks, c.role = .child → c.loadPhaseId ∈ r.plan.phaseIds →
    (∀ c' ∈ job.chunks, c'.role = .root → r.lease.completed c'.loadPhaseId = true) ∧
      r.flags.rootLoadAnchorMapReady = true
  load : job.bundleMode ≠ "same_side_bundle" → ∀ c ∈ job.chunks, c.loadPhaseId ∈ r.plan.phaseIds →
    ∀ c' ∈ job.chunks, r.lease.completed c'.planPhaseId = true
  finalize : r.plan.finalizeJob = true → ∀ c ∈ job.chunks,
    r.lease.completed c.planPhaseId = true ∧ r.lease.completed c.loadPhaseId = true

lemma Progress.inOrder {s : LeaseState} {f : WorkflowFlags} {r : Dispatch}
    (h : Progress job (fun id => s.completed id = true) s f r) : InOrder job r := by
  have hplanned : ∀ c ∈ job.chunks, c.planPhaseId ∈ r.plan.phaseIds → c.planPhaseId ∈ r.plan.planPhaseIds := by
    intro c hc hid
    rcases mem_append.mp hid with hplan | hload
    · exact hplan
    · exact absurd (h.loadKind _ hload) ((nodup_kinds job).2.2 _ (mem_ofKind.mpr ⟨c, hc, rfl⟩))
  have hloaded : ∀ c ∈ job.chunks, c.loadPhaseId ∈ r.plan.phaseIds → c.loadPhaseId ∈ r.plan.loadPhaseIds := by
    intro c hc hid
    rcases mem_append.mp hid with hplan | hload
    · exact absurd (mem_ofKind.mpr ⟨c, hc, rfl⟩) ((nodup_kinds job).2.2 _ (h.planKind _ hplan))
    · exact hload
  refine ⟨fun c hc hrole hid => ?_, fun c hc hrole hid => ?_, fun hsingle c hc hid c' hc' => ?_,
    fun hend c hc => ?_⟩
  · have hindex := h.childPlan _ (hplanned c hc hid) (mem_group.mpr ⟨c, hc, hrole, rfl⟩)
    refine ⟨fun c' hc' hroot => ?_, hindex⟩
    exact (h.completed _).trans (h.index hindex _ (mem_group.mpr ⟨c', hc', hroot, rfl⟩))
  · have hmap := h.childLoad _ (hloaded c hc hid) (mem_group.mpr ⟨c, hc, hrole, rfl⟩)
    refine ⟨fun c' hc' hroot => ?_, hmap⟩
    exact (h.completed _).trans (h.map hmap _ (mem_group.mpr ⟨c', hc', hroot, rfl⟩))
  · have hload := h.load hsingle (ne_nil_of_mem (hloaded c hc hid))
    exact (h.completed _).trans (hload _ (mem_ofKind.mpr ⟨c', hc', rfl⟩))
  · have hall := h.finalized (by rw [h.finalize, hend, Bool.or_true])
    exact ⟨(h.completed _).trans (hall .plan _ (mem_ofKind.mpr ⟨c, hc, rfl⟩)),
      (h.completed _).trans (hall .load _ (mem_ofKind.mpr ⟨c, hc, rfl⟩))⟩

/-- A workflow before its first dispatch: whatever the statuses of its phases, no flag is set. -/
structure Undispatched (s : WorkflowDesk) : Prop where
  index : s.flags.rootPlanIndexReady = false
  map : s.flags.rootLoadAnchorMapReady = false
  finalize : s.flags.finalizeQueued = false
  dispatched : s.dispatched = []
  finalizations : s.finalizations = 0

/-- Over every sequence of calls and of steps of workers, each phase is dispatched at most once, the end at
most once, and the plan of any further call keeps the order of the job. -/
theorem workflow_order {as : List WorkflowStep} (hs : Undispatched s)
    (hrun : run (WorkflowDesk.step job ttl) s as = some t) :
    t.dispatched.Nodup ∧ t.finalizations ≤ 1 ∧ ∀ planManifest loadManifest r,
        advanceWorkflow job planManifest loadManifest t.lease t.flags = some r → InOrder job r := by
  have hstart : Orderly job s := by
    refine ⟨fun h => ?_, fun h => ?_, fun h => ?_, ?_, ?_, ?_⟩
    · rw [hs.index] at h
      cases h
    · rw [hs.map] at h
      cases h
    · rw [hs.finalize] at h
      cases h
    · rw [hs.dispatched]
      exact nodup_nil
    · simp [hs.dispatched]
    · rw [hs.finalizations, hs.finalize]
      rfl
  have hend := run_invariant_of_step (fun _ _ _ h hstep => h.step hstep) hstart hrun
  refine ⟨hend.nodup, ?_, fun planManifest loadManifest r hr => (hend.progress hr).inOrder⟩
  rw [hend.finalizations]
  exact toNat_le _

end Runs

def stagedStatus : Role → PhaseKind → PhaseStatus
  | .child, .plan => .blocked
  | .single, .plan | .root, .plan => .pending
  | _, .load => .blocked

def stagedRow (jobId : ℕ) (role : Role) (kind : PhaseKind) : PhaseRow where
  jobId := jobId
  status := stagedStatus role kind
  attemptCount := 0
  taskId := ""
  leaseToken := ""
  heartbeatAt := none
  leaseExpiresAt := none
  startedAt := none
  finishedAt := none
  errorPayload := []
  metricsPayload := []

def ChunkedJob.staged (job : ChunkedJob) : LeaseState where
  jobs := Keyed.empty.set job.id ⟨.running, false⟩
  phases := job.chunks.foldl (fun t c => (t.set c.planPhaseId (stagedRow job.id c.role .plan)).set
    c.loadPhaseId (stagedRow job.id c.role .load)) Keyed.empty
  clock := 0
  tokens := []
  requeues := []

def stagedFlags : WorkflowFlags := ⟨true, false, .none, false, .none, false⟩

def smallBundle : ChunkedJob where
  id := 1
  bundleMode := "same_side_bundle"
  chunks := [⟨.child, 3, 4⟩, ⟨.root, 1, 2⟩]
  distinct := by decide
  roles := by decide

/-- The root chunk is planned, and the workflow advanced: the child chunk is planned next. -/
theorem workflow_order_smallBundle : ∃ t,
    run (WorkflowDesk.step smallBundle 180) ⟨smallBundle.staged, stagedFlags, [], 0⟩
      [.advance none none, .work (.acquire 1 "task" "token"), .work (.complete 1 "token" []),
        .advance (some ⟨1, "sum", 0⟩) none] = some t ∧
    t.dispatched = [1, 3, 2] ∧ t.dispatched.Nodup ∧ t.finalizations ≤ 1 ∧ ∀ planManifest loadManifest r,
        advanceWorkflow smallBundle planManifest loadManifest t.lease t.flags = some r →
          InOrder smallBundle r := by
  have hdispatched : (run (WorkflowDesk.step smallBundle 180) ⟨smallBundle.staged, stagedFlags, [], 0⟩
      [.advance none none, .work (.acquire 1 "task" "token"), .work (.complete 1 "token" []),
        .advance (some ⟨1, "sum", 0⟩) none]).map WorkflowDesk.dispatched = some [1, 3, 2] := by
    decide +kernel
  obtain ⟨t, ht, hlist⟩ := map_eq_some_iff.mp hdispatched
  exact ⟨t, ht, hlist, workflow_order ⟨rfl, rfl, rfl, rfl, rfl⟩ ht⟩

end ImmoApp.Imports
