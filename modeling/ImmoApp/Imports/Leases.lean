import ImmoApp.Imports.Phases

/-!
# Fencing of phase leases

A worker works on a phase under the token of the lease it was given, and its heartbeats and its report at
the end look for that token in the row.  A phase whose task is delivered again is acquired again, under a
new token, while the first worker may still be at work.  Whatever the order of the steps, a worker whose
lease was superseded changes nothing, only the newest lease of a phase can be live, and a completed phase
stays as it is until a requeue or a retry, which do not look at the token (`phase_fencing`).
-/

namespace ImmoApp.Imports

open List Option Bool LeaseState

structure LeaseDesk where
  lease : LeaseState
  /-- History: the phases and the tokens of the leases given, the newest first. -/
  grants : List (ℕ × String)

def LeaseState.granted (s : LeaseState) : LeaseStep → List (ℕ × String)
  | .acquire id taskId token => if s.acquires id taskId then [(id, token)] else []
  | _ => []

/-- The phase and the token that a worker's statement looks for. -/
def LeaseStep.carried? : LeaseStep → Option (ℕ × String)
  | .heartbeat id token => some (id, token)
  | .complete id token _ => some (id, token)
  | .fail id token _ => some (id, token)
  | .cancelAttempt id token _ => some (id, token)
  | _ => none

/-- The statements that queue a phase again without looking at its token. -/
def LeaseStep.requeues : LeaseStep → Bool
  | .retry _ _ _ => true
  | .requeueNext _ => true
  | _ => false

namespace LeaseDesk

def step (ttl : ℕ) (s : LeaseDesk) (a : LeaseStep) : Option LeaseDesk :=
  (leaseStep ttl s.lease a).map fun t => ⟨t, s.lease.granted a ++ s.grants⟩

/-- The tokens given for a phase, the newest first. -/
def tokensOf (s : LeaseDesk) (id : ℕ) : List String := (s.grants.filter fun g => g.1 = id).map Prod.snd

/-- Another lease of the phase was given after the one with this token. -/
def Superseded (s : LeaseDesk) (id : ℕ) (token : String) : Prop := token ∈ (s.tokensOf id).tail

instance (s : LeaseDesk) (id : ℕ) (token : String) : Decidable (s.Superseded id token) :=
  inferInstanceAs (Decidable (token ∈ (s.tokensOf id).tail))

structure Fencing (ttl : ℕ) (s : LeaseDesk) : Prop where
  /-- A worker whose lease was superseded changes nothing. -/
  superseded : ∀ a t id token, step ttl s a = some t → a.carried? = some (id, token) → s.Superseded id token → t = s
  /-- A completed phase stays as it is, however the run goes on, until something is queued again. -/
  completed : ∀ rest t id p, (∀ a ∈ rest, a.requeues = false) → run (step ttl) s rest = some t →
    s.lease.phases.get? id = some p → p.status = .completed → t.lease.phases.get? id = some p
  newest : ∀ id token, s.lease.phaseLeaseActive id token = true → (s.tokensOf id).head? = some token
  live : ∀ id, ((s.tokensOf id).countP fun token => s.lease.phaseLeaseActive id token) ≤ 1

end LeaseDesk

/-! ### What a step does to the rows -/

namespace LeaseState

variable {s : LeaseState} {id : ℕ} {sel : PhaseRow → Bool} {f : PhaseRow → PhaseRow}

lemma assign_eq_self (h : ∀ p, s.phases.get? id = some p → sel p = false) : s.assign id sel f = s := by
  have hphases : s.phases.update (fun i row => i == id && sel row) (fun _ => f) = s.phases := by
    refine Keyed.update_eq_self fun i p hp => ?_
    by_cases hid : i = id
    · subst hid
      simp [h p hp]
    · simp [hid]
  rw [assign, hphases]

lemma assignTouching_eq_self (h : ∀ p, s.phases.get? id = some p → sel p = false) :
    s.assignTouching id sel f = s := by
  have hany : (s.phases.get? id).any sel = false := by
    cases hget : s.phases.get? id with
    | none => rfl
    | some p => exact h p hget
  rw [assignTouching, assign_eq_self h, hany]
  simp [touch]

end LeaseState

section Rows

variable {ttl : ℕ} {s t : LeaseState} {a : LeaseStep}

variable {token : String} {i : ℕ} {p q : PhaseRow}

lemma carried_eq_self {id : ℕ} (hstep : leaseStep ttl s a = some t) (hcarried : a.carried? = some (id, token))
    (hheld : ∀ p, s.phases.get? id = some p → p.heldBy token = false) : t = s := by
  cases a with
  | heartbeat =>
    obtain ⟨rfl, rfl⟩ := Prod.mk.inj (some.inj hcarried)
    obtain ⟨⟩ := hstep
    exact assignTouching_eq_self fun p hp => by simp [hheld p hp]
  | complete =>
    obtain ⟨rfl, rfl⟩ := Prod.mk.inj (some.inj hcarried)
    obtain ⟨⟩ := hstep
    exact assignTouching_eq_self hheld
  | fail =>
    obtain ⟨rfl, rfl⟩ := Prod.mk.inj (some.inj hcarried)
    obtain ⟨⟩ := hstep
    exact assign_eq_self hheld
  | cancelAttempt =>
    obtain ⟨rfl, rfl⟩ := Prod.mk.inj (some.inj hcarried)
    obtain ⟨⟩ := hstep
    exact assignTouching_eq_self hheld
  | acquire | retry | queue | requestCancellation | setJobStatus | tick | readExpired | requeueNext =>
    simp [LeaseStep.carried?] at hcarried

lemma get?_assign_of_not {id : ℕ} {sel : PhaseRow → Bool} {f : PhaseRow → PhaseRow}
    (hp : s.phases.get? i = some p) (h : sel p = false) :
    (s.assign id sel f).phases.get? i = some p := by
  rw [get?_assign, hp]
  simp [h]

lemma completed_kept (hrequeues : a.requeues = false)
    (hstep : leaseStep ttl s a = some t) (hp : s.phases.get? i = some p)
    (hstatus : p.status = .completed) : t.phases.get? i = some p := by
  have hheld : ∀ token, p.heldBy token = false := fun token => by simp [PhaseRow.heldBy, hstatus]
  have hcancel : p.cancellable = false := by simp [PhaseRow.cancellable, hstatus]
  cases a with
  | acquire _ _ token =>
    rw [leaseStep] at hstep
    split at hstep
    · simp at hstep
    · obtain ⟨⟩ := hstep
      unfold LeaseState.acquirePhase
      split
      · exact hp
      · split
        · exact get?_assign_of_not hp hcancel
        · exact get?_assign_of_not (s := { s with tokens := token :: s.tokens }) hp
            (by simp [PhaseRow.acquirable, hstatus])
  | heartbeat =>
    obtain ⟨⟩ := hstep
    exact get?_assign_of_not hp (by simp [hheld])
  | complete _ token =>
    obtain ⟨⟩ := hstep
    exact get?_assign_of_not hp (hheld token)
  | fail _ token =>
    obtain ⟨⟩ := hstep
    exact get?_assign_of_not hp (hheld token)
  | cancelAttempt _ token =>
    obtain ⟨⟩ := hstep
    exact get?_assign_of_not hp (hheld token)
  | queue =>
    obtain ⟨⟩ := hstep
    exact get?_assign_of_not hp (by simp [hstatus])
  | requestCancellation =>
    obtain ⟨⟩ := hstep
    refine (Keyed.get?_update _ _ _ i).trans ?_
    rw [hp]
    simp [hcancel]
  | setJobStatus | tick | readExpired =>
    obtain ⟨⟩ := hstep
    exact hp
  | retry | requeueNext => simp [LeaseStep.requeues] at hrequeues

/-- A running row of an updated table was running with the same token, unless the update selects it. -/
lemma running_assign {id : ℕ} {sel : PhaseRow → Bool} {f : PhaseRow → PhaseRow}
    (hq : (s.assign id sel f).phases.get? i = some q) (hrunning : q.status = .running)
    (hf : ∀ p, sel p = true → (f p).status = .running → p.status = .running ∧ (f p).leaseToken = p.leaseToken) :
    ∃ p, s.phases.get? i = some p ∧ p.status = .running ∧ p.leaseToken = q.leaseToken := by
  rcases get?_assign_eq_some hq with hold | ⟨rfl, p, hp, hsel, rfl⟩
  · exact ⟨q, hold, hrunning, rfl⟩
  · obtain ⟨hstatus, htoken⟩ := hf p hsel hrunning
    exact ⟨p, hp, hstatus, htoken.symm⟩

lemma running_acquirePhase {id : ℕ} {taskId : String}
    (hq : (s.acquirePhase ttl id taskId token).phases.get? i = some q) (hrunning : q.status = .running) :
    s.granted (.acquire id taskId token) = [(i, q.leaseToken)] ∨
      (∀ g ∈ s.granted (.acquire id taskId token), g.1 ≠ i) ∧
        ∃ p, s.phases.get? i = some p ∧ p.status = .running ∧ p.leaseToken = q.leaseToken := by
  by_cases hgives : s.acquires id taskId = true
  · obtain ⟨p, hget, hcan⟩ := (any_eq_true _ _).mp hgives
    obtain ⟨hactive, hsel⟩ := (and_eq_true _ _).mp hcan
    have hlease : s.acquirePhase ttl id taskId token
        = { s with tokens := token :: s.tokens }.assignTouching id (PhaseRow.acquirable taskId)
            (PhaseRow.leased ttl s.clock taskId token) := by
      simp only [LeaseState.acquirePhase, hget, hactive]
      rfl
    rw [hlease, assignTouching_phases, get?_assign] at hq
    obtain ⟨p', hp', rfl⟩ := map_eq_some_iff.mp hq
    by_cases hi : i = id
    · subst hi
      obtain rfl : p' = p := some.inj (hp'.symm.trans hget)
      refine .inl ?_
      simp [LeaseState.granted, hgives, hsel, PhaseRow.leased]
    · refine .inr ⟨?_, p', hp', ?_, ?_⟩
      · simp [LeaseState.granted, hgives, Ne.symm hi]
      · simpa [hi] using hrunning
      · simp [hi]
  · have hnone : s.granted (.acquire id taskId token) = [] := by simp [LeaseState.granted, hgives]
    refine .inr ⟨by simp [hnone], ?_⟩
    unfold LeaseState.acquirePhase at hq
    split at hq
    · exact ⟨q, hq, hrunning, rfl⟩
    · next p hget =>
      split at hq
      · exact running_assign hq hrunning fun _ _ hcancelled => by simp at hcancelled
      · next hactive =>
        have hsel : p.acquirable taskId = false := by
          simpa [LeaseState.acquires, hget, show (s.jobOf p).active = true by simpa using hactive]
            using hgives
        rw [assignTouching_eq_self (s := { s with tokens := token :: s.tokens })
          fun p' hp' => (some.inj (hp'.symm.trans hget)) ▸ hsel] at hq
        exact ⟨q, hq, hrunning, rfl⟩

lemma running_requeuePhase {e : ExpiredPhase}
    (hq : (s.requeuePhase e).phases.get? i = some q) (hrunning : q.status = .running) :
    ∃ p, s.phases.get? i = some p ∧ p.status = .running ∧ p.leaseToken = q.leaseToken := by
  unfold LeaseState.requeuePhase at hq
  split at hq
  · exact running_assign hq hrunning fun _ _ hqueued => by simp at hqueued
  · exact running_assign hq hrunning fun _ _ hcancelled => by simp at hcancelled

/-- A phase that runs after a step has the lease that the step gave it, or it ran before with its lease
and the step gave it none. -/
lemma running_step (hstep : leaseStep ttl s a = some t)
    (hq : t.phases.get? i = some q) (hrunning : q.status = .running) :
    s.granted a = [(i, q.leaseToken)] ∨ (∀ g ∈ s.granted a, g.1 ≠ i) ∧
        ∃ p, s.phases.get? i = some p ∧ p.status = .running ∧ p.leaseToken = q.leaseToken := by
  cases a with
  | acquire =>
    rw [leaseStep] at hstep
    split at hstep
    · simp at hstep
    · obtain ⟨⟩ := hstep
      exact running_acquirePhase hq hrunning
  | heartbeat _ token =>
    obtain ⟨⟩ := hstep
    refine .inr ⟨by simp [LeaseState.granted], running_assign hq hrunning fun p hsel _ => ?_⟩
    have hheld : p.heldBy token = true := ((and_eq_true _ _).mp hsel).2
    exact ⟨by simpa using ((and_eq_true _ _).mp hheld).1, rfl⟩
  | complete =>
    obtain ⟨⟩ := hstep
    exact .inr ⟨by simp [LeaseState.granted], running_assign hq hrunning fun _ _ hcompleted => by simp at hcompleted⟩
  | fail =>
    obtain ⟨⟩ := hstep
    exact .inr ⟨by simp [LeaseState.granted], running_assign hq hrunning fun _ _ hfailed => by simp at hfailed⟩
  | cancelAttempt =>
    obtain ⟨⟩ := hstep
    exact .inr ⟨by simp [LeaseState.granted], running_assign hq hrunning fun _ _ hcancelled => by simp at hcancelled⟩
  | retry =>
    obtain ⟨⟩ := hstep
    exact .inr ⟨by simp [LeaseState.granted], running_assign hq hrunning fun _ _ hqueued => by simp at hqueued⟩
  | queue =>
    obtain ⟨⟩ := hstep
    exact .inr ⟨by simp [LeaseState.granted], running_assign hq hrunning fun _ _ hqueued => by simp at hqueued⟩
  | requestCancellation jobId =>
    obtain ⟨⟩ := hstep
    refine .inr ⟨by simp [LeaseState.granted], ?_⟩
    have hget : (s.phases.update (fun _ p => p.jobId == jobId && p.cancellable) fun _ p =>
        { p.unleased with status := .cancelled, finishedAt := some s.clock }).get? i = some q := hq
    rw [Keyed.get?_update] at hget
    obtain ⟨p, hp, rfl⟩ := map_eq_some_iff.mp hget
    split at hrunning
    · simp at hrunning
    · next hnot => exact ⟨p, hp, hrunning, by rw [if_neg hnot]⟩
  | setJobStatus | tick | readExpired =>
    obtain ⟨⟩ := hstep
    exact .inr ⟨by simp [LeaseState.granted], q, hq, hrunning, rfl⟩
  | requeueNext k =>
    obtain ⟨⟨r, e⟩, _, rfl⟩ := map_eq_some_iff.mp hstep
    exact .inr ⟨by simp [LeaseState.granted], running_requeuePhase (s := { s with
      requeues := s.requeues.set k { r with phases := r.phases.tail } }) hq hrunning⟩

lemma tokens_requeuePhase (s : LeaseState) (e : ExpiredPhase) : (s.requeuePhase e).tokens = s.tokens := by
  unfold LeaseState.requeuePhase
  split <;> rfl

lemma tokens_step (hstep : leaseStep ttl s a = some t) :
    s.tokens ⊆ t.tokens ∧ ∀ g ∈ s.granted a, g.2 ∉ s.tokens ∧ g.2 ∈ t.tokens := by
  cases a with
  | acquire id _ token =>
    rw [leaseStep] at hstep
    split at hstep
    · simp at hstep
    · next hnew =>
      obtain ⟨⟩ := hstep
      unfold LeaseState.acquirePhase
      split
      · next hget => simp [LeaseState.granted, LeaseState.acquires, hget]
      · next p hget =>
        split
        · next hactive =>
          have hinactive : (s.jobOf p).active = false := by simpa using hactive
          simp [LeaseState.granted, LeaseState.acquires, hget, hinactive, LeaseState.assignTouching,
            LeaseState.touch, LeaseState.assign]
        · refine ⟨subset_cons_self token s.tokens, fun g hg => ?_⟩
          have hgrant : g = (id, token) := by
            simp only [LeaseState.granted] at hg
            split at hg
            · simpa using hg
            · simp at hg
          subst hgrant
          exact ⟨fun hold => hnew (.inr hold), mem_cons_self⟩
  | requeueNext =>
    obtain ⟨⟨r, e⟩, _, rfl⟩ := map_eq_some_iff.mp hstep
    refine ⟨?_, by simp [LeaseState.granted]⟩
    rw [tokens_requeuePhase]
    exact List.Subset.refl _
  | heartbeat | complete | fail | cancelAttempt | retry | queue | requestCancellation | setJobStatus
    | tick | readExpired =>
    obtain ⟨⟩ := hstep
    exact ⟨List.Subset.refl _, by simp [LeaseState.granted]⟩

end Rows

/-! ### Runs -/

namespace LeaseDesk

variable {ttl : ℕ} {s t : LeaseDesk} {a : LeaseStep}

/-- The leases given have tokens of their own, and a running phase has its newest. -/
structure Leased (s : LeaseDesk) : Prop where
  drawn : ∀ g ∈ s.grants, g.2 ∈ s.lease.tokens
  distinct : (s.grants.map Prod.snd).Nodup
  running : ∀ id p, s.lease.phases.get? id = some p → p.status = .running → (s.tokensOf id).head? = some p.leaseToken

lemma step_eq_some (h : step ttl s a = some t) :
    leaseStep ttl s.lease a = some t.lease ∧ t.grants = s.lease.granted a ++ s.grants := by
  obtain ⟨_, hlease, rfl⟩ := map_eq_some_iff.mp h
  exact ⟨hlease, rfl⟩

lemma nodup_granted (s : LeaseState) (a : LeaseStep) : ((s.granted a).map Prod.snd).Nodup := by
  cases a with
  | acquire =>
    rw [LeaseState.granted]
    split <;> simp
  | heartbeat | complete | fail | cancelAttempt | retry | queue | requestCancellation | setJobStatus
    | tick | readExpired | requeueNext => simp [LeaseState.granted]

lemma Leased.step (h : s.Leased) (hstep : step ttl s a = some t) : t.Leased := by
  obtain ⟨hlease, hgrants⟩ := step_eq_some hstep
  obtain ⟨hmore, hfresh⟩ := tokens_step hlease
  refine ⟨fun g hg => ?_, ?_, fun id q hq hrunning => ?_⟩
  · rw [hgrants] at hg
    rcases mem_append.mp hg with hnew | hold
    · exact (hfresh g hnew).2
    · exact hmore (h.drawn g hold)
  · rw [hgrants, map_append, nodup_append]
    refine ⟨nodup_granted s.lease a, h.distinct, ?_⟩
    rintro _ hnew _ hold rfl
    obtain ⟨g, hg, rfl⟩ := mem_map.mp hnew
    obtain ⟨g', hg', heq⟩ := mem_map.mp hold
    exact (hfresh g hg).1 (heq ▸ h.drawn g' hg')
  · rw [tokensOf, hgrants, filter_append, map_append]
    rcases running_step hlease hq hrunning with hgiven | ⟨hnone, p, hp, hrunning, htoken⟩
    · simp [hgiven]
    · have hfilter : (s.lease.granted a).filter (fun g => g.1 = id) = [] :=
        filter_eq_nil_iff.mpr fun g hg => by simpa using hnone g hg
      rw [hfilter, map_nil, nil_append, ← htoken]
      exact h.running id p hp hrunning

variable {p : PhaseRow} {token : String}

section

variable (h : s.Leased)
include h

lemma Leased.head?_of_heldBy {id : ℕ} (hp : s.lease.phases.get? id = some p) (hheld : p.heldBy token = true) :
    (s.tokensOf id).head? = some token := by
  obtain ⟨hstatus, htoken⟩ := (and_eq_true _ _).mp hheld
  rw [← eq_of_beq htoken]
  exact h.running id p hp (eq_of_beq hstatus)

lemma Leased.nodup_tokensOf (id : ℕ) : (s.tokensOf id).Nodup :=
  h.distinct.sublist (filter_sublist.map Prod.snd)

lemma Leased.not_heldBy {id : ℕ}
    (hold : s.Superseded id token) (hp : s.lease.phases.get? id = some p) : p.heldBy token = false := by
  by_contra hheld
  have hhead := h.head?_of_heldBy hp (by simpa using hheld)
  obtain ⟨_, holder⟩ := head?_eq_some_iff.mp hhead
  have hnodup := h.nodup_tokensOf id
  rw [Superseded, holder, tail_cons] at hold
  rw [holder] at hnodup
  exact (nodup_cons.mp hnodup).1 hold

lemma Leased.newest {id : ℕ}
    (hlive : s.lease.phaseLeaseActive id token = true) : (s.tokensOf id).head? = some token := by
  obtain ⟨-, hheld⟩ := (and_eq_true _ _).mp hlive
  obtain ⟨p, hp, hheld⟩ := (any_eq_true _ _).mp hheld
  exact h.head?_of_heldBy hp hheld

lemma Leased.live (id : ℕ) : ((s.tokensOf id).countP fun token => s.lease.phaseLeaseActive id token) ≤ 1 := by
  cases htokens : s.tokensOf id with
  | nil => simp
  | cons _ older =>
    have hnodup := h.nodup_tokensOf id
    rw [htokens] at hnodup
    have hdead : (older.countP fun token => s.lease.phaseLeaseActive id token) = 0 := by
      refine countP_eq_zero.mpr fun token hmem hlive => ?_
      have hhead := h.newest hlive
      rw [htokens, head?_cons] at hhead
      exact (nodup_cons.mp hnodup).1 (some.inj hhead ▸ hmem)
    rw [countP_cons, hdead]
    split <;> simp

end

lemma completed_run {rest : List LeaseStep} (hrest : ∀ a ∈ rest, a.requeues = false)
    (hrun : run (step ttl) s rest = some t) {id : ℕ}
    (hp : s.lease.phases.get? id = some p) (hstatus : p.status = .completed) :
    t.lease.phases.get? id = some p := by
  have hguard : Guarded (step ttl) (fun _ a => True ∧ a.requeues = false) s rest :=
    (guarded_true s rest).and_forall hrest
  exact run_invariant (P := fun s => s.lease.phases.get? id = some p) (fun s a t hp hrequeues hstep =>
      completed_kept hrequeues.2 (step_eq_some hstep).1 hp hstatus) hp hguard hrun

/-- Where no phase is running at first, in every order of the steps of workers, of the workflow and of
requeues: a superseded worker changes nothing, a completed phase stays as it is until something is queued
again, and at most one lease of a phase is live, the newest. -/
theorem phase_fencing {s₀ : LeaseDesk} (hgrants : s₀.grants = [])
    (hidle : ∀ id p, s₀.lease.phases.get? id = some p → p.status ≠ .running) {steps : List LeaseStep}
    (hrun : run (step ttl) s₀ steps = some s) : Fencing ttl s := by
  have hinit : s₀.Leased :=
    ⟨by simp [hgrants], by simp [hgrants], fun id p hp hrunning => absurd hrunning (hidle id p hp)⟩
  have hleased : s.Leased :=
    run_invariant_of_step (fun _ _ _ h hstep => Leased.step h hstep) hinit hrun
  refine ⟨fun a t id token hstep hcarried hold => ?_, fun rest t id p hrest hrun hp hstatus => ?_,
    fun id token => hleased.newest, hleased.live⟩
  · obtain ⟨hlease, hgrants⟩ := step_eq_some hstep
    have hsame : t.lease = s.lease :=
      carried_eq_self hlease hcarried fun p hp => hleased.not_heldBy hold hp
    have hnone : s.lease.granted a = [] := by
      cases a <;> first | rfl | simp [LeaseStep.carried?] at hcarried
    cases t
    cases hsame
    rw [hnone] at hgrants
    cases hgrants
    rfl
  · exact completed_run hrest hrun hp hstatus

end LeaseDesk

def redeliveredSteps : List LeaseStep :=
  [.acquire 1 "task" "first", .tick 200, .acquire 1 "task" "second", .complete 1 "second" []]

/-- The first worker's lease is superseded, and the phase stays completed when it reports. -/
theorem phase_fencing_redelivered : ∃ s t : LeaseDesk,
    run (LeaseDesk.step 180) ⟨queuedPhase, []⟩ redeliveredSteps = some s ∧ s.Superseded 1 "first" ∧
      LeaseDesk.step 180 s (.complete 1 "first" []) = some t ∧ t = s := by
  obtain ⟨s, hrun⟩ : ∃ s, run (LeaseDesk.step 180) ⟨queuedPhase, []⟩ redeliveredSteps = some s :=
    isSome_iff_exists.mp (by decide +kernel)
  have hchecks : ∀ s ∈ run (LeaseDesk.step 180) ⟨queuedPhase, []⟩ redeliveredSteps,
      s.Superseded 1 "first" ∧ (LeaseDesk.step 180 s (.complete 1 "first" [])).isSome = true := by
    decide +kernel
  obtain ⟨hold, hsome⟩ := hchecks s hrun
  obtain ⟨t, hstep⟩ := isSome_iff_exists.mp hsome
  have hidle : ∀ id p, queuedPhase.phases.get? id = some p → p.status ≠ .running := by
    intro id p hp
    have hmem := Keyed.mem_entries_iff.mpr hp
    simp only [queuedPhase, mem_singleton, Prod.mk.injEq] at hmem
    simp [hmem.2]
  have hfencing := LeaseDesk.phase_fencing rfl hidle hrun
  exact ⟨s, t, hrun, hold, hstep, hfencing.superseded _ t 1 "first" hstep rfl hold⟩

end ImmoApp.Imports
