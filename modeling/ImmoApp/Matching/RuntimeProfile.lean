import Mathlib.Data.List.DropRight
import Mathlib.Data.Rat.Defs
import Mathlib.Tactic.Common

/-!
# The runtime profile

The health of the match tables moves the profile of the match tasks: to red at once, back to yellow after three samples
without a red violation, and to green after three without any.  `evaluate_profile_transition` decides from the payload
that `store_profile_state` wrote for the sample before, with its streaks.  `Tracks` says what the payload knows
of the samples so far, and `profile_hysteresis` what follows for the last three and the last four of them.
-/

namespace ImmoApp.RuntimeProfile

open List Option

/-! ### Violations -/

structure MatchArtifactTableHealth where
  deadTuples : ℤ
  deadRatio : ℚ
  indexBloatEstimateBytes : ℤ
  vacuumLagSeconds : Option ℤ

structure MatchArtifactDbSnapshot where
  capturedAt : String
  activeConnectionRatio : ℚ
  tempBytesDelta5m : ℤ
  statementTimeoutDelta5m : ℤ
  lockTimeoutDelta5m : ℤ
  matchCandidates : MatchArtifactTableHealth
  matchPairs : MatchArtifactTableHealth

structure HealthLimits where
  deadRatio : ℚ
  autovacLagSeconds : ℤ
  tempBytesDelta : ℤ
  connRatio : ℚ
  indexBloatBytes : ℤ

structure HealthEnv where
  red : HealthLimits
  yellow : HealthLimits

def tableDeadRatio (snapshot : MatchArtifactDbSnapshot) (threshold : ℚ) : Prop :=
  threshold ≤ snapshot.matchCandidates.deadRatio ∨ threshold ≤ snapshot.matchPairs.deadRatio

instance (snapshot : MatchArtifactDbSnapshot) (threshold : ℚ) : Decidable (tableDeadRatio snapshot threshold) :=
  inferInstanceAs (Decidable (_ ∨ _))

def tableIndexBloat (snapshot : MatchArtifactDbSnapshot) (threshold : ℤ) : Prop :=
  threshold < snapshot.matchCandidates.indexBloatEstimateBytes ∨
    threshold < snapshot.matchPairs.indexBloatEstimateBytes

instance (snapshot : MatchArtifactDbSnapshot) (threshold : ℤ) : Decidable (tableIndexBloat snapshot threshold) :=
  inferInstanceAs (Decidable (_ ∨ _))

def vacuumLagExceeded (snapshot : MatchArtifactDbSnapshot) (lagSeconds deadTuples : ℤ) : Bool :=
  [snapshot.matchCandidates, snapshot.matchPairs].any fun table =>
    !(table.deadTuples < deadTuples) && table.vacuumLagSeconds.any fun lag => lagSeconds ≤ lag

def violation (level : String) (limits : HealthLimits) (deadTuples timeouts : ℤ) (snapshot : MatchArtifactDbSnapshot) :
    Option String :=
  if tableDeadRatio snapshot limits.deadRatio then some (level ++ "_dead_ratio")
  else if tableIndexBloat snapshot limits.indexBloatBytes then some (level ++ "_index_bloat")
  else if vacuumLagExceeded snapshot limits.autovacLagSeconds deadTuples then some (level ++ "_autovacuum_lag")
  else if limits.tempBytesDelta ≤ snapshot.tempBytesDelta5m then some (level ++ "_temp_bytes")
  else if limits.connRatio ≤ snapshot.activeConnectionRatio then some (level ++ "_connection_ratio")
  else if timeouts ≤ snapshot.statementTimeoutDelta5m then some (level ++ "_statement_timeout")
  else if timeouts ≤ snapshot.lockTimeoutDelta5m then some (level ++ "_lock_timeout")
  else none

def redViolation (env : HealthEnv) : MatchArtifactDbSnapshot → Option String := violation "red" env.red 100000 3

def yellowViolation (env : HealthEnv) : MatchArtifactDbSnapshot → Option String :=
  violation "yellow" env.yellow 50000 1

/-! ### The transition -/

inductive Profile where
  | green
  | yellow
  | red
  deriving DecidableEq

structure ProfilePayload where
  profile : Option Profile
  reason : Option String
  updatedAt : Option String
  snapshotCapturedAt : Option String
  redViolationStreak : ℕ
  yellowViolationStreak : ℕ
  healthyRedStreak : ℕ
  healthyGreenStreak : ℕ

def ProfilePayload.empty : ProfilePayload := ⟨none, none, none, none, 0, 0, 0, 0⟩

structure MatchRuntimeProfileState where
  profile : Profile
  reason : String
  updatedAt : String

def reasonColdStart : String := "cold_start_no_baseline"

section Transition

variable (env : HealthEnv) (snapshot : MatchArtifactDbSnapshot)

/-- A streak after the snapshot: it goes on where a condition holds. -/
def streak (holds : Bool) (before : ℕ) : ℕ := if holds then before + 1 else 0

def redFree : Bool := (redViolation env snapshot).isNone

def healthy : Bool := redFree env snapshot && (yellowViolation env snapshot).isNone

/-- `evaluate_profile_transition`, at a time; without a state of the cache it starts anew. -/
def evaluateProfileTransition (now : String) (currentState : Option ProfilePayload) : MatchRuntimeProfileState :=
  match currentState with
  | none => ⟨.yellow, reasonColdStart, now⟩
  | some current =>
    let profile := current.profile.getD .yellow
    let healthyRedStreak := streak (redFree env snapshot) current.healthyRedStreak
    let healthyGreenStreak := streak (healthy env snapshot) current.healthyGreenStreak
    let reason := current.reason.getD reasonColdStart
    match redViolation env snapshot with
    | some violation => ⟨.red, violation, now⟩
    | none =>
      if profile = .red then
        if 3 ≤ healthyRedStreak then ⟨.yellow, "yellow_recovered_from_red", now⟩ else ⟨.red, "red_stable", now⟩
      else
        match yellowViolation env snapshot with
        | some violation => ⟨.yellow, violation, now⟩
        | none =>
          if profile = .yellow then
            if 3 ≤ healthyGreenStreak then ⟨.green, "green_recovered", now⟩ else ⟨.yellow, "yellow_stable", now⟩
          else if reason = reasonColdStart ∧ healthyGreenStreak < 3 then ⟨.yellow, reasonColdStart, now⟩
          else ⟨.green, "green_stable", now⟩

/-- `store_profile_state`: the payload it writes. -/
def storeProfileState (state : MatchRuntimeProfileState) (currentPayload : Option ProfilePayload) : ProfilePayload :=
  let prior := currentPayload.getD .empty
  { profile := some state.profile
    reason := some state.reason
    updatedAt := some state.updatedAt
    snapshotCapturedAt := some (if snapshot.capturedAt = "" then state.updatedAt else snapshot.capturedAt)
    redViolationStreak := streak (redViolation env snapshot).isSome prior.redViolationStreak
    yellowViolationStreak := streak (yellowViolation env snapshot).isSome prior.yellowViolationStreak
    healthyRedStreak := streak (redFree env snapshot) prior.healthyRedStreak
    healthyGreenStreak := streak (healthy env snapshot) prior.healthyGreenStreak }

/-- A sample of `snapshot_postgres_match_health`: the payload after it. -/
def afterSample (now : String) (payload : ProfilePayload) : ProfilePayload :=
  storeProfileState env snapshot (evaluateProfileTransition env snapshot now (some payload)) (some payload)

end Transition

def payloadAfter (env : HealthEnv) (samples : List (String × MatchArtifactDbSnapshot)) : ProfilePayload :=
  samples.foldl (fun payload sample => afterSample env sample.2 sample.1 payload) .empty

section Streaks

variable {α : Type*} (p : α → Bool)

lemma forall_mem_rtake_iff {l : List α} {n : ℕ} :
    (∀ a ∈ l.rtake n, p a = true) ↔ min n l.length ≤ (l.rtakeWhile p).length := by
  induction l using List.reverseRecOn generalizing n with
  | nil => simp
  | append_singleton l a ih =>
    cases n with
    | zero => simp
    | succ =>
      rw [rtake_concat_succ, forall_mem_append]
      by_cases ha : p a = true
      · rw [rtakeWhile_concat_pos p l a ha, ih]
        simp only [mem_singleton, forall_eq, ha, and_true, length_append, length_singleton]
        omega
      · rw [rtakeWhile_concat_neg p l a ha]
        simp [ha]

lemma streak_rtakeWhile (l : List α) (a : α) :
    streak (p a) (l.rtakeWhile p).length = ((l ++ [a]).rtakeWhile p).length := by
  by_cases ha : p a = true
  · simp [streak, rtakeWhile_concat_pos p l a ha, ha]
  · simp [streak, rtakeWhile_concat_neg p l a ha, ha]

end Streaks

/-! ### What the payload knows -/

/-- What a payload knows of the number of samples and of the streaks before it. -/
structure Tracks (samples redFreeStreak healthyStreak : ℕ) (payload : ProfilePayload) : Prop where
  healthyRedStreak : payload.healthyRedStreak = redFreeStreak
  healthyGreenStreak : payload.healthyGreenStreak = healthyStreak
  healthy_le : healthyStreak ≤ redFreeStreak
  redFree_le : redFreeStreak ≤ samples
  /-- The profile is red while a red violation is among the last three samples. -/
  red : payload.profile.getD .yellow = .red ↔ redFreeStreak < 3 ∧ redFreeStreak < samples
  /-- It is green after three healthy samples, unless these ended a red profile. -/
  green : payload.profile.getD .yellow = .green ↔
    3 ≤ healthyStreak ∧ ¬ (healthyStreak = 3 ∧ redFreeStreak = 3 ∧ redFreeStreak < samples)

lemma Tracks.afterSample {samples redFreeStreak healthyStreak : ℕ} {payload : ProfilePayload}
    (h : Tracks samples redFreeStreak healthyStreak payload) (env : HealthEnv)
    (snapshot : MatchArtifactDbSnapshot) (now : String) :
    Tracks (samples + 1) (streak (redFree env snapshot) redFreeStreak) (streak (healthy env snapshot) healthyStreak)
      (afterSample env snapshot now payload) := by
  obtain ⟨rfl, rfl, _, _, hisRed, hisGreen⟩ := h
  have hprofile : (RuntimeProfile.afterSample env snapshot now payload).profile.getD .yellow =
      (evaluateProfileTransition env snapshot now (some payload)).profile := rfl
  refine ⟨rfl, rfl, ?_, ?_, ?_, ?_⟩
  · unfold healthy streak
    cases redFree env snapshot <;> cases (yellowViolation env snapshot).isNone
    all_goals simp
    omega
  · unfold streak
    split <;> omega
  all_goals
    rw [hprofile]
    cases hredViolation : redViolation env snapshot with
    | some => simp [evaluateProfileTransition, streak, redFree, healthy, hredViolation]
    | none =>
      cases hyellowViolation : yellowViolation env snapshot with
      | some =>
        cases hcurrent : payload.profile.getD .yellow <;>
          simp only [evaluateProfileTransition, streak, redFree, healthy, hredViolation, hyellowViolation, hcurrent,
            isNone_none, isNone_some, reduceCtorEq, if_true, if_false, Bool.and_false,
            false_iff, true_iff, Bool.false_eq_true] at hisRed hisGreen ⊢
        all_goals first | omega | (split <;> simp <;> omega)
      | none =>
        cases hcurrent : payload.profile.getD .yellow <;>
          simp only [evaluateProfileTransition, streak, redFree, healthy, hredViolation, hyellowViolation, hcurrent,
            isNone_none, reduceCtorEq, if_true, if_false, Bool.true_and,
            false_iff, true_iff] at hisRed hisGreen ⊢
        all_goals split <;> simp <;> omega

lemma tracks_payloadAfter (env : HealthEnv) (samples : List (String × MatchArtifactDbSnapshot)) :
    Tracks samples.length (samples.rtakeWhile fun s => redFree env s.2).length
      (samples.rtakeWhile fun s => healthy env s.2).length (payloadAfter env samples) := by
  induction samples using List.reverseRecOn with
  | nil => exact ⟨rfl, rfl, le_rfl, le_rfl, by simp [payloadAfter, ProfilePayload.empty],
      by simp [payloadAfter, ProfilePayload.empty]⟩
  | append_singleton _ sample ih =>
    have hstep := ih.afterSample env sample.2 sample.1
    rw [length_append, payloadAfter, foldl_append,
      ← streak_rtakeWhile (fun s : String × MatchArtifactDbSnapshot => redFree env s.2),
      ← streak_rtakeWhile (fun s : String × MatchArtifactDbSnapshot => healthy env s.2)]
    exact hstep

/-- After every sequence of samples the profile is red exactly when one of the last three has a red violation, green
only after three samples without any violation, and always after four of them. -/
theorem profile_hysteresis (env : HealthEnv) (samples : List (String × MatchArtifactDbSnapshot)) :
    ((payloadAfter env samples).profile = some .red ↔ ∃ s ∈ samples.rtake 3, (redViolation env s.2).isSome) ∧
    ((payloadAfter env samples).profile = some .green → 3 ≤ samples.length ∧
      ∀ s ∈ samples.rtake 3, redViolation env s.2 = none ∧ yellowViolation env s.2 = none) ∧
    (4 ≤ samples.length → (∀ s ∈ samples.rtake 4, redViolation env s.2 = none ∧ yellowViolation env s.2 = none) →
      (payloadAfter env samples).profile = some .green) := by
  obtain ⟨-, -, _, _, hred, hgreen⟩ := tracks_payloadAfter env samples
  have hhealthy : ∀ s : String × MatchArtifactDbSnapshot, healthy env s.2 = true ↔
      redViolation env s.2 = none ∧ yellowViolation env s.2 = none := by
    simp [healthy, redFree]
  have hprofile : ∀ profile ≠ Profile.yellow, ((payloadAfter env samples).profile = some profile ↔
      (payloadAfter env samples).profile.getD .yellow = profile) := by
    intro profile hne
    cases (payloadAfter env samples).profile with
    | none => simp [hne.symm]
    | some => simp
  have hlast := fun n => forall_mem_rtake_iff (fun s => healthy env s.2) (l := samples) (n := n)
  simp only [hhealthy] at hlast
  refine ⟨?_, ?_, ?_⟩
  · have hfree := forall_mem_rtake_iff (fun s => redFree env s.2) (l := samples) (n := 3)
    have hsome : (∃ s ∈ samples.rtake 3, (redViolation env s.2).isSome) ↔
        ¬ ∀ s ∈ samples.rtake 3, redFree env s.2 = true := by
      simp [redFree, isSome_iff_ne_none]
    rw [hprofile .red (by decide), hred, hsome, hfree]
    omega
  · rw [hprofile .green (by decide), hgreen, hlast]
    omega
  · rw [hprofile .green (by decide), hgreen, hlast]
    omega

end ImmoApp.RuntimeProfile
