import ImmoApp.Api.Circuit

/-!
# The probe slot of the circuit breaker

While the breaker is half open one request holds the probe slot, and every other one is refused until a report
releases it.  `_send_request` has exits that report neither success nor failure.  Where the holder takes one of them
the slot stays taken and the client locks itself out; where it never does, the slot of a request that has ended is
always free (`probe_released_iff`).
-/

namespace ImmoApp.Api

open Keyed
open Bool hiding true_and

open ApiClient List Option

/-- A response that ends the request without a report: an error that is not retried, or one that is retried, has been
for the last time and does not trip the breaker. -/
def Response.endsUnreported (upper : String → String) (attempt : ℕ) (response : Response) : Bool :=
  400 ≤ response.statusCode && (shouldRetryStatus response.statusCode = false ||
      (shouldTripCircuit upper response.statusCode response.payload = false && retryAttempts ≤ attempt))

namespace ApiClient

variable (cfg : Config)

/-- The request that an event ends without a report. -/
def unreportedEnd (s : ApiClient) : Event → Option ℕ
  | .answered request outcome hasUsername _ =>
    match s.running.get? request, outcome with
    | some (.sending _), .otherException => some request
    | some (.sending attempt), .response response =>
      if ¬ (response.statusCode = 401 ∧ hasUsername = true) ∧ response.endsUnreported cfg.upper attempt = true then
        some request
      else none
    | _, _ => none
  | .authenticated request outcome =>
    match s.running.get? request, outcome with
    | some (.authenticating _), .noToken | some (.authenticating _), .raised => some request
    | _, _ => none
  | .resent request outcome _ =>
    match s.running.get? request, outcome with
    | some (.resending attempt), .response response =>
      if response.endsUnreported cfg.upper attempt = true then some request else none
    | some (.resending _), .requestException | some (.resending _), .otherException => some request
    | _, _ => none
  | _ => none

/-- The holder of the probe slot does not end without a report. -/
def Reports (s : ApiClient) (e : Event) : Prop :=
  ∀ request, s.unreportedEnd cfg e = some request → s.probeHolder ≠ some request

instance (s : ApiClient) (e : Event) : Decidable (s.Reports cfg e) :=
  match h : s.unreportedEnd cfg e with
  | none => .isTrue fun request heq => by simp [h] at heq
  | some request =>
    decidable_of_iff (s.probeHolder ≠ some request)
      ⟨fun hne request' heq => by rw [h] at heq; exact Option.some.inj heq ▸ hne, fun hreports => hreports request h⟩

/-- The breaker does not lock the client out: the slot of a request that has ended is released, and a half-open
breaker with a probe in flight has a request in flight. -/
structure NotLockedOut (s : ApiClient) : Prop where
  released : ∀ f ∈ s.finished, s.breaker.probeInflight = true → s.probeHolder ≠ some f.1
  inFlight : s.breaker.state = .halfOpen → s.breaker.probeInflight = true → s.running.entries ≠ []

/-- What every step keeps: the slot is taken exactly while it has a holder, the breaker is half open then, and the
holder is a request that runs or has ended. -/
structure Consistent (s : ApiClient) : Prop where
  taken : s.breaker.probeInflight = s.probeHolder.isSome
  halfOpen : s.breaker.probeInflight = true → s.breaker.state = .halfOpen
  begun : ∀ request, s.probeHolder = some request → s.known request = true
  apart : ∀ f ∈ s.finished, s.running.get? f.1 = none

def HolderRuns (s : ApiClient) : Prop :=
  ∀ request, s.probeHolder = some request → (s.running.get? request).isSome = true

lemma consistent_init : Consistent init where
  taken := rfl
  halfOpen := by rintro ⟨⟩
  begun := by rintro _ ⟨⟩
  apart := by rintro f ⟨⟩

lemma holderRuns_init : HolderRuns init := by rintro _ ⟨⟩

variable {s : ApiClient}

variable {request : ℕ} {phase₀ : Phase} {breaker : Breaker} {t : ApiClient}

lemma known_iff : s.known request = true ↔
    (s.running.get? request).isSome = true ∨ ∃ f ∈ s.finished, f.1 = request := by
  rw [known, or_eq_true, List.any_eq_true]
  simp only [beq_iff_eq]

lemma Consistent.notLockedOut_iff (h : Consistent s) : NotLockedOut s ↔ HolderRuns s := by
  constructor
  · intro hfree request hholder
    rcases known_iff.mp (h.begun request hholder) with hruns | ⟨f, hf, rfl⟩
    · exact hruns
    · exact absurd hholder (hfree.released f hf (by rw [h.taken, hholder]; rfl))
  · intro hruns
    refine ⟨fun f hf _ hholder => ?_, fun _ hprobe hempty => ?_⟩
    · have hsome := hruns f.1 hholder
      rw [h.apart f hf] at hsome
      cases hsome
    · rw [h.taken] at hprobe
      obtain ⟨request, hholder⟩ := isSome_iff_exists.mp hprobe
      obtain ⟨_, hget⟩ := isSome_iff_exists.mp (hruns request hholder)
      have hmem := mem_entries_iff.mpr hget
      rw [hempty] at hmem
      exact not_mem_nil hmem

/-! ### The parts of a step -/

lemma Consistent.advance (h : Consistent s)
    (hget : s.running.get? request = some phase₀) (phase : Phase) : Consistent (s.advance request phase) where
  taken := h.taken
  halfOpen := h.halfOpen
  begun request' hholder := by
    rcases known_iff.mp (h.begun request' hholder) with hruns | hended
    · refine known_iff.mpr (.inl ?_)
      change ((s.running.set request phase).get? request').isSome = true
      rw [get?_set]
      split
      · rfl
      · exact hruns
    · exact known_iff.mpr (.inr hended)
  apart f hf := by
    have hne : f.1 ≠ request := by
      intro heq
      have hnone := h.apart f hf
      rw [heq, hget] at hnone
      cases hnone
    change (s.running.set request phase).get? f.1 = none
    rw [get?_set, if_neg hne]
    exact h.apart f hf

lemma holderRuns_advance_iff (hget : s.running.get? request = some phase₀)
    (phase : Phase) : HolderRuns (s.advance request phase) ↔ HolderRuns s := by
  have hsame : ∀ request', ((s.running.set request phase).get? request').isSome =
      (s.running.get? request').isSome := by
    intro request'
    rw [get?_set]
    split
    · next heq => rw [heq, hget]; rfl
    · rfl
  exact forall_congr' fun request' => imp_congr_right fun _ => by rw [← hsame]; rfl

lemma Consistent.finish (h : Consistent s) (request : ℕ) (result : SendResult) :
    Consistent (s.finish request result) where
  taken := h.taken
  halfOpen := h.halfOpen
  begun request' hholder := by
    rcases known_iff.mp (h.begun request' hholder) with _ | ⟨f, hf, hended⟩
    · by_cases heq : request' = request
      · exact known_iff.mpr (.inr ⟨(request, result), mem_cons_self, heq.symm⟩)
      · refine known_iff.mpr (.inl ?_)
        change ((s.running.deleteKey request).get? request').isSome = true
        rwa [get?_deleteKey, if_neg heq]
    · exact known_iff.mpr (.inr ⟨f, mem_cons_of_mem _ hf, hended⟩)
  apart f hf := by
    change (s.running.deleteKey request).get? f.1 = none
    rw [get?_deleteKey]
    split
    · rfl
    · next hne =>
      rcases mem_cons.mp hf with rfl | hf
      · exact absurd rfl hne
      · exact h.apart f hf

lemma holderRuns_finish_iff (result : SendResult) :
    HolderRuns (s.finish request result) ↔ HolderRuns s ∧ s.probeHolder ≠ some request := by
  have hget : ∀ request', (s.finish request result).running.get? request' =
      if request' = request then none else s.running.get? request' := fun _ => get?_deleteKey
  constructor
  · intro hruns
    have hne : s.probeHolder ≠ some request := by
      intro hholder
      have hsome := hruns request hholder
      rw [hget, if_pos rfl] at hsome
      cases hsome
    refine ⟨fun request' hholder => ?_, hne⟩
    have hsome := hruns request' hholder
    have hother : request' ≠ request := by
      rintro rfl
      exact hne hholder
    rwa [hget, if_neg hother] at hsome
  · rintro ⟨hruns, hne⟩ request' hholder
    have hother : request' ≠ request := by
      rintro rfl
      exact hne hholder
    rw [hget, if_neg hother]
    exact hruns request' hholder

lemma Consistent.probeInflight_failure (h : Consistent s) (resetSeconds now : ℚ) :
    (recordApiFailure resetSeconds now s.breaker).probeInflight = false := by
  unfold recordApiFailure
  split
  · rfl
  · next hstate =>
    have hfree : s.breaker.probeInflight = false := by
      rw [eq_false_iff]
      exact fun hprobe => hstate (h.halfOpen hprobe)
    dsimp only
    split <;> exact hfree

lemma Consistent.report (h : Consistent s) (hfree : breaker.probeInflight = false) :
    Consistent (s.report breaker) ∧ (s.report breaker).probeHolder = none := by
  have hholder : (s.report breaker).probeHolder = none := by
    rw [ApiClient.report, hfree]
    rfl
  refine ⟨⟨?_, fun hprobe => ?_, fun request heq => ?_, h.apart⟩, hholder⟩
  · rw [hholder]
    exact hfree
  · exact absurd (hfree.symm.trans hprobe) false_ne_true
  · rw [hholder] at heq
    cases heq

lemma holderRuns_of_none (hnone : s.probeHolder = none) : HolderRuns s := by
  intro request hholder
  rw [hnone] at hholder
  cases hholder

def HolderReports (s : ApiClient) (ended : Option ℕ) : Prop :=
  ∀ request, ended = some request → s.probeHolder ≠ some request

lemma holderReports_none (s : ApiClient) : s.HolderReports none := by rintro _ ⟨⟩

/-- The outcome of a step: the next state is consistent, and the holder runs in it where it ran before, unless it
ended without a report. -/
def Outcome (s t : ApiClient) (ended : Option ℕ) : Prop :=
  Consistent t ∧ (HolderRuns s → (HolderRuns t ↔ s.HolderReports ended))

lemma outcome_of_runs (h : Consistent t) (hruns : HolderRuns s → HolderRuns t) :
    Outcome s t none :=
  ⟨h, fun hs => ⟨fun _ => holderReports_none s, fun _ => hruns hs⟩⟩

lemma outcome_of_none (h : Consistent t) (hnone : t.probeHolder = none) : Outcome s t none :=
  outcome_of_runs h fun _ => holderRuns_of_none hnone

lemma Consistent.outcome_advance (h : Consistent s)
    (hget : s.running.get? request = some phase₀) (phase : Phase) : Outcome s (s.advance request phase) none :=
  outcome_of_runs (h.advance hget phase) (holderRuns_advance_iff hget phase).mpr

lemma Consistent.outcome_finish (h : Consistent s) (request : ℕ) (result : SendResult) :
    Outcome s (s.finish request result) (some request) := by
  refine ⟨h.finish request result, fun hruns => ?_⟩
  rw [holderRuns_finish_iff, and_iff_right hruns]
  exact ⟨fun hne request' hended => some.inj hended ▸ hne, fun hended => hended request rfl⟩

lemma Consistent.outcome_reported (h : Consistent s)
    (hget : s.running.get? request = some phase₀) (hfree : breaker.probeInflight = false) :
    (∀ result, Outcome s ((s.report breaker).finish request result) none) ∧
      ∀ phase, Outcome s ((s.report breaker).advance request phase) none := by
  obtain ⟨hreported, hnone⟩ := h.report hfree
  exact ⟨fun result => outcome_of_none (hreported.finish request result) hnone,
    fun phase => outcome_of_none (hreported.advance hget phase) hnone⟩

lemma Consistent.outcome_handleResponse (h : Consistent s) {attempt : ℕ}
    (hget : s.running.get? request = some phase₀) (response : Response) (now : ℚ) :
    Outcome s (s.handleResponse cfg request attempt response now)
      (if response.endsUnreported cfg.upper attempt = true then some request else none) := by
  obtain ⟨hfailedEnd, hfailedNext⟩ := h.outcome_reported hget (h.probeInflight_failure cfg.resetSeconds now)
  unfold handleResponse Response.endsUnreported
  by_cases herror : 400 ≤ response.statusCode
  · by_cases hretry : shouldRetryStatus response.statusCode = true
    · rw [if_pos ⟨herror, hretry⟩]
      by_cases htrip : shouldTripCircuit cfg.upper response.statusCode response.payload = true
      · have hreported : ¬ ((400 ≤ response.statusCode && (shouldRetryStatus response.statusCode = false ||
            (shouldTripCircuit cfg.upper response.statusCode response.payload = false &&
              retryAttempts ≤ attempt))) = true) := by simp [hretry, htrip]
        rw [if_neg hreported]
        dsimp only
        rw [if_pos htrip]
        split
        · exact hfailedEnd _
        · exact hfailedNext _
      · dsimp only
        rw [if_neg htrip]
        split
        · next hlast =>
          rw [if_pos (by simp [herror, htrip, hlast])]
          exact h.outcome_finish request _
        · next hlast =>
          rw [if_neg (by simp [hretry, hlast])]
          exact h.outcome_advance hget _
    · rw [if_neg fun hboth => hretry hboth.2, if_pos herror, if_pos (by simp [herror, hretry])]
      exact h.outcome_finish request _
  · rw [if_neg fun hboth => herror hboth.1, if_neg herror, if_neg (by simp [herror])]
    have hfree : (recordApiSuccess s.breaker).probeInflight = false := rfl
    exact (h.outcome_reported hget hfree).1 .returned

/-! ### The step -/

/-- What `circuit_check` can do to a consistent breaker: refuse the request and leave the slot as it is, let it pass
with the slot, or let it pass without one. -/
lemma circuitCheck_cases {b : Breaker} (hstate : b.probeInflight = true → b.state = .halfOpen) (now : ℚ) :
    ((circuitCheck now b).2 = false ∧ (circuitCheck now b).1.probeInflight = b.probeInflight ∧
        ((circuitCheck now b).1.probeInflight = true → (circuitCheck now b).1.state = .halfOpen)) ∨
      ((circuitCheck now b).2 = true ∧ b.probeInflight = false ∧ (circuitCheck now b).1.probeInflight = true ∧
        (circuitCheck now b).1.state = .halfOpen) ∨
      ((circuitCheck now b).2 = true ∧ b.probeInflight = false ∧ (circuitCheck now b).1.probeInflight = false) := by
  obtain ⟨_, openUntil, state, probeInflight⟩ := b
  cases state <;> cases probeInflight <;> simp_all [circuitCheck]
  by_cases hopen : now < openUntil
  · simp [hopen]
  · simp [hopen]

lemma Consistent.outcome_refused (h : Consistent s) (hnew : s.known request = false)
    (hprobe : breaker.probeInflight = s.breaker.probeInflight)
    (hstate : breaker.probeInflight = true → breaker.state = .halfOpen) :
    Outcome s { s with breaker, finished := (request, .unavailable) :: s.finished } none := by
  refine outcome_of_runs ⟨hprobe.trans h.taken, hstate, fun request' hholder => ?_, fun f hf => ?_⟩ fun hruns => hruns
  · rcases known_iff.mp (h.begun request' hholder) with hruns | ⟨f, hf, hended⟩
    · exact known_iff.mpr (.inl hruns)
    · exact known_iff.mpr (.inr ⟨f, mem_cons_of_mem _ hf, hended⟩)
  · rcases mem_cons.mp hf with rfl | hf
    · by_contra hruns
      have hknown : s.known request = true := known_iff.mpr (.inl (isSome_iff_ne_none.mpr hruns))
      exact false_ne_true (hnew.symm.trans hknown)
    · exact h.apart f hf

lemma Consistent.outcome_passed (h : Consistent s) (hnew : s.known request = false)
    {holder : Option ℕ} (htaken : breaker.probeInflight = holder.isSome)
    (hstate : breaker.probeInflight = true → breaker.state = .halfOpen)
    (hholder : ∀ request', holder = some request' → request' = request) :
    Outcome s (({ s with breaker, probeHolder := holder } : ApiClient).advance request (.sending 1)) none := by
  have hrunning : ((s.running.set request (.sending 1)).get? request).isSome = true := by
    rw [get?_set, if_pos rfl]
    rfl
  refine outcome_of_runs ⟨htaken, hstate, fun request' heq => ?_, fun f hf => ?_⟩ fun _ request' heq => ?_
  · obtain rfl := hholder request' heq
    exact known_iff.mpr (.inl hrunning)
  · change (s.running.set request (.sending 1)).get? f.1 = none
    have hne : f.1 ≠ request := by
      intro heq
      have hknown : s.known request = true := known_iff.mpr (.inr ⟨f, hf, heq⟩)
      exact false_ne_true (hnew.symm.trans hknown)
    rw [get?_set, if_neg hne]
    exact h.apart f hf
  · obtain rfl := hholder request' heq
    exact hrunning

lemma Consistent.outcome_start (h : Consistent s) {now : ℚ}
    (hstep : s.step cfg (.start request now) = some t) : Outcome s t none := by
  rw [step] at hstep
  by_cases hknown : s.known request = true
  · rw [if_pos hknown] at hstep
    cases hstep
  · have hnew : s.known request = false := eq_false_iff.mpr hknown
    rw [if_neg hknown] at hstep
    dsimp only at hstep
    rcases circuitCheck_cases h.halfOpen now with ⟨hpass, hprobe, hstate⟩ | ⟨hpass, hfree, hprobe, hstate⟩ |
      ⟨hpass, hfree, hprobe⟩
    · rw [if_neg (by simp [hpass])] at hstep
      cases hstep
      exact h.outcome_refused hnew hprobe hstate
    · rw [if_pos hpass, if_pos hprobe] at hstep
      cases hstep
      exact h.outcome_passed hnew hprobe (fun _ => hstate) fun _ heq => (some.inj heq).symm
    · have hnone : s.probeHolder = none := by
        rw [h.taken] at hfree
        exact isSome_eq_false_iff.mp hfree |> isNone_iff_eq_none.mp
      rw [if_pos hpass, if_neg (by simp [hprobe]), hnone] at hstep
      cases hstep
      refine h.outcome_passed hnew hprobe (fun htrue => ?_) fun _ heq => by cases heq
      exact absurd (hprobe.symm.trans htrue) false_ne_true

theorem Consistent.outcome_step (h : Consistent s) {e : Event}
    (hstep : s.step cfg e = some t) : Outcome s t (s.unreportedEnd cfg e) := by
  cases e with
  | start => exact h.outcome_start cfg hstep
  | reset =>
    cases hstep
    have hfree : (recordApiSuccess s.breaker).probeInflight = false := rfl
    obtain ⟨hreported, hnone⟩ := h.report hfree
    exact outcome_of_none hreported hnone
  | answered request outcome _ now =>
    rw [step] at hstep
    rcases hget : s.running.get? request with _ | (attempt | attempt | attempt) <;> simp only [hget] at hstep
    all_goals try cases hstep
    cases outcome with
    | requestException =>
      obtain ⟨hended, hnext⟩ := h.outcome_reported hget (h.probeInflight_failure cfg.resetSeconds now)
      simp only [unreportedEnd, hget] at hstep ⊢
      split at hstep
      · cases hstep
        exact hended _
      · cases hstep
        exact hnext _
    | otherException =>
      cases hstep
      simp only [unreportedEnd, hget]
      exact h.outcome_finish request _
    | response response =>
      simp only [unreportedEnd, hget]
      dsimp only at hstep
      split at hstep
      · next hauth =>
        cases hstep
        rw [if_neg fun hboth => hboth.1 hauth]
        exact h.outcome_advance hget _
      · next hauth =>
        cases hstep
        simp only [hauth, not_false_eq_true, true_and]
        exact h.outcome_handleResponse cfg hget response now
  | authenticated request outcome =>
    rw [step] at hstep
    rcases hget : s.running.get? request with _ | (attempt | attempt | attempt) <;> simp only [hget] at hstep
    all_goals try cases hstep
    cases outcome with
    | token =>
      cases hstep
      simp only [unreportedEnd, hget]
      exact h.outcome_advance hget _
    | noToken =>
      cases hstep
      simp only [unreportedEnd, hget]
      exact h.outcome_finish request _
    | raised =>
      cases hstep
      simp only [unreportedEnd, hget]
      exact h.outcome_finish request _
  | resent request outcome now =>
    rw [step] at hstep
    rcases hget : s.running.get? request with _ | (attempt | attempt | attempt) <;> simp only [hget] at hstep
    all_goals try cases hstep
    cases outcome with
    | requestException =>
      cases hstep
      simp only [unreportedEnd, hget]
      exact h.outcome_finish request _
    | otherException =>
      cases hstep
      simp only [unreportedEnd, hget]
      exact h.outcome_finish request _
    | response response =>
      cases hstep
      simp only [unreportedEnd, hget]
      exact h.outcome_handleResponse cfg hget response now

lemma unreportedEnd_of_step_eq_none {e : Event} (hstep : s.step cfg e = none) : s.unreportedEnd cfg e = none := by
  cases e with
  | start => rfl
  | reset => rfl
  | answered request outcome =>
    rw [step] at hstep
    rcases hget : s.running.get? request with _ | (attempt | attempt | attempt) <;> simp only [hget] at hstep
    all_goals cases outcome <;> simp only [unreportedEnd, hget]
    case otherException => cases hstep
    case response response =>
      dsimp only at hstep
      split at hstep <;> cases hstep
  | authenticated request outcome =>
    rw [step] at hstep
    rcases hget : s.running.get? request with _ | (attempt | attempt | attempt) <;> simp only [hget] at hstep
    all_goals cases outcome <;> simp only [unreportedEnd, hget]
    all_goals cases hstep
  | resent request outcome =>
    rw [step] at hstep
    rcases hget : s.running.get? request with _ | (attempt | attempt | attempt) <;> simp only [hget] at hstep
    all_goals cases outcome <;> simp only [unreportedEnd, hget]
    all_goals cases hstep

/-- In every state of a run the slot of a request that has ended is released and a half-open breaker with a probe in
flight has a request in flight, exactly when the request that holds the slot never ends without a report. -/
theorem probe_released_iff (events : List Event) :
    (∀ before t, before <+: events → run (fun s => s.step cfg) init before = some t → NotLockedOut t) ↔
      Guarded (fun s => s.step cfg) (fun s => s.Reports cfg) init events := by
  refine holds_along_iff (C := fun s => s.Reports cfg) (I := Consistent) (P := NotLockedOut)
    (fun s e t hs hstep => (hs.outcome_step cfg hstep).1) (fun s e t hs hfree hstep => ?_) (fun s e hstep => ?_)
    consistent_init (consistent_init.notLockedOut_iff.mpr holderRuns_init)
  · obtain ⟨ht, hiff⟩ := hs.outcome_step cfg hstep
    rw [ht.notLockedOut_iff]
    exact hiff (hs.notLockedOut_iff.mp hfree)
  · intro request hended
    rw [unreportedEnd_of_step_eq_none cfg hstep] at hended
    cases hended

def plainConfig : Config := ⟨30, String.toUpper⟩

/-- The server cannot be reached, and when it can be reached again it does not know the record asked for. -/
def notFoundProbe : List Event :=
  [.start 1 0, .answered 1 .requestException false 1, .answered 1 .requestException false 2,
    .answered 1 .requestException false 3, .start 2 40, .answered 2 (.response ⟨404, none⟩) false 41]

/-- Nobody holds the probe slot, and nobody will release it. -/
theorem not_found_locks_out : ¬ ∀ (cfg : Config) (events : List Event) (s : ApiClient),
    run (fun s => s.step cfg) init events = some s → NotLockedOut s := by
  intro h
  obtain ⟨s, hrun, hs⟩ := map_eq_some_iff.mp (by decide +kernel :
    (run (fun s => s.step plainConfig) init notFoundProbe).map (fun s =>
      (s.breaker.state, s.breaker.probeInflight, s.running.entries)) = some (.halfOpen, true, []))
  obtain ⟨hstate, hs⟩ := Prod.mk.inj hs
  obtain ⟨hprobe, hrunning⟩ := Prod.mk.inj hs
  exact (h plainConfig notFoundProbe s hrun).inFlight hstate hprobe hrunning

end ApiClient

end ImmoApp.Api
