import ImmoApp.Foundation.Runs
import ImmoApp.Foundation.Text
import ImmoApp.Foundation.Totals
import Mathlib.Data.List.MinMax

/-!
# Rebuild leases

A rebuild of a cache has a row of `api_rebuild_job_leases`, queued or running until it is done or has failed, or until
its time is over.  `reserve_rebuild_lease` looks at status and time; the unique index looks at the status alone.

`rebuild_leases_exact`: a scope never has two leases that are queued or running; a reservation meets what is promised
exactly where its scope has no such lease that is over, or its agency no room; and an agency keeps within its budget
along a run exactly when no lease is marked running again where there is no room.
-/

namespace ImmoApp.Leases

open Keyed
open Bool hiding and_false and_self and_true false_and

open Option

/-- `status`. -/
inductive RebuildStatus where
  | queued
  | running
  | done
  | failed
  deriving DecidableEq

/-- `_ACTIVE_STATUSES`. -/
def RebuildStatus.isActive : RebuildStatus → Bool
  | .queued | .running => true
  | .done | .failed => false

/-- `_FINAL_STATUSES`. -/
def RebuildStatus.isFinal : RebuildStatus → Bool
  | .done | .failed => true
  | .queued | .running => false

structure RebuildScope where
  agencyId : ℕ
  jobType : String
  scopeKey : String
  scopeKey_ne : scopeKey ≠ ""
  deriving DecidableEq

/-- A row of `api_rebuild_job_leases`, by its `task_id`.  Times are in microseconds. -/
structure RebuildLease where
  scope : RebuildScope
  status : RebuildStatus
  lastError : String
  createdAt : ℕ
  updatedAt : ℕ
  expiresAt : ℕ
  deriving DecidableEq

def RebuildLease.live (now : ℕ) (r : RebuildLease) : Bool := r.status.isActive && decide (now < r.expiresAt)

abbrev RebuildLeases := Keyed String RebuildLease

/-- A number that `_env_int` reads. -/
abbrev Setting (minV maxV : ℕ) := { n : ℕ // minV ≤ n ∧ n ≤ maxV }

structure RebuildSettings where
  maxActiveLeases : Setting 1 32
  queuedTtlSeconds : Setting 60 86400
  historyTtlSeconds : Setting 300 604800
  retryAfterSeconds : Setting 5 600
  minIntervalSeconds : Setting 0 3600

def seconds (n : ℕ) : ℕ := n * 1000000

/-! ### Reservations -/

/-- `outcome`. -/
inductive ReserveOutcome where
  | accepted
  | coalesced
  | backpressured

structure LeaseReserveResult where
  outcome : ReserveOutcome
  taskId : Option String
  retryAfterSeconds : ℕ

inductive UniqueViolation where
  /-- `uq_api_rebuild_job_leases_task_id`. -/
  | taskId
  /-- `uq_api_rebuild_job_leases_active`. -/
  | active

/-- `str(row.get("task_id") or "").strip()`, `or None`. -/
def taskText (taskId : String) : Option String := if strip taskId = "" then none else some (strip taskId)

namespace RebuildLeases

def activeCount (agencyId now : ℕ) (t : RebuildLeases) : ℕ :=
  t.count fun _ r => r.scope.agencyId == agencyId && r.live now

def purge (now : ℕ) (t : RebuildLeases) : RebuildLeases :=
  t.delete fun _ r => decide (r.expiresAt < now) && r.status.isFinal

def latest (scope : RebuildScope) (p : RebuildLease → Bool) (t : RebuildLeases) : Option (String × RebuildLease) :=
  (t.entries.filter fun e => e.2.scope == scope && p e.2).argmax fun e => e.2.updatedAt

def existing (scope : RebuildScope) (now : ℕ) (t : RebuildLeases) : Option (String × RebuildLease) :=
  t.latest scope fun r => r.live now

def recent (cfg : RebuildSettings) (scope : RebuildScope) (now : ℕ) (t : RebuildLeases) :
    Option (String × RebuildLease) :=
  if 0 < cfg.minIntervalSeconds.val then
    t.latest scope fun r => decide (now < r.updatedAt + seconds cfg.minIntervalSeconds.val)
  else none

/-- Another lease of the scope is queued or running: `uq_api_rebuild_job_leases_active` would be violated. -/
def taken (scope : RebuildScope) (taskId : String) (t : RebuildLeases) : Bool :=
  t.entries.any fun e => e.2.scope == scope && e.2.status.isActive && e.1 != taskId

variable (cfg : RebuildSettings)

/-- `reserve_rebuild_lease`, in a transaction that is rolled back where it raises. -/
def reserveRebuildLease (now : ℕ) (scope : RebuildScope) (taskId : String) (t : RebuildLeases) :
    Except UniqueViolation LeaseReserveResult × RebuildLeases :=
  let purged := t.purge now
  match purged.existing scope now with
  | some e => (.ok ⟨.coalesced, taskText e.1, cfg.retryAfterSeconds.val⟩, purged)
  | none =>
    match purged.recent cfg scope now with
    | some e =>
      let left := e.2.updatedAt + seconds cfg.minIntervalSeconds.val - now
      (.ok ⟨.coalesced, taskText e.1, max 1 ((left + 999999) / 1000000)⟩, purged)
    | none =>
      if cfg.maxActiveLeases.val ≤ purged.activeCount scope.agencyId now then
        (.ok ⟨.backpressured, none, cfg.retryAfterSeconds.val⟩, purged)
      else if (purged.get? taskId).isSome then (.error .taskId, t)
      else if purged.taken scope taskId then (.error .active, t)
      else
        (.ok ⟨.accepted, some taskId, cfg.retryAfterSeconds.val⟩,
          purged.set taskId ⟨scope, .queued, "", now, now, now + seconds cfg.queuedTtlSeconds.val⟩)

/-- `_mark_status`: nothing is written where the index is violated. -/
def markStatus (now : ℕ) (taskId : String) (status : RebuildStatus) (errorMessage : String) (t : RebuildLeases) :
    Except UniqueViolation RebuildLeases :=
  let ttlSeconds := if status = .running then cfg.queuedTtlSeconds.val else cfg.historyTtlSeconds.val
  if status.isActive && (t.get? taskId).any fun r => t.taken r.scope taskId then .error .active
  else .ok (t.updateKey taskId fun r => { r with
    status := status, lastError := firstChars 1000 errorMessage, updatedAt := now,
    expiresAt := now + seconds ttlSeconds })

def markRebuildRunning (now : ℕ) (taskId : String) : RebuildLeases → Except UniqueViolation RebuildLeases :=
  markStatus cfg now taskId .running ""

def markRebuildDone (now : ℕ) (taskId : String) : RebuildLeases → Except UniqueViolation RebuildLeases :=
  markStatus cfg now taskId .done ""

def markRebuildFailed (now : ℕ) (taskId errorMessage : String) :
    RebuildLeases → Except UniqueViolation RebuildLeases :=
  markStatus cfg now taskId .failed errorMessage

end RebuildLeases

structure RebuildDesk where
  clock : ℕ
  leases : RebuildLeases

/-- What happens.  A transaction has its `NOW()` from when it began. -/
inductive RebuildAction where
  | tick (micros : ℕ)
  | reserve (scope : RebuildScope) (taskId : String) (since : ℕ)
  | markRunning (taskId : String) (since : ℕ)
  | markDone (taskId : String) (since : ℕ)
  | markFailed (taskId errorMessage : String) (since : ℕ)

namespace RebuildDesk

variable (cfg : RebuildSettings)

def write (s : RebuildDesk) (result : Except UniqueViolation RebuildLeases) : RebuildDesk :=
  { s with leases := result.toOption.getD s.leases }

def step (s : RebuildDesk) : RebuildAction → Option RebuildDesk
  | .tick micros => some { s with clock := s.clock + micros }
  | .reserve scope taskId since =>
    some { s with leases := (s.leases.reserveRebuildLease cfg (s.clock - since) scope taskId).2 }
  | .markRunning taskId since => some (s.write (s.leases.markRebuildRunning cfg (s.clock - since) taskId))
  | .markDone taskId since => some (s.write (s.leases.markRebuildDone cfg (s.clock - since) taskId))
  | .markFailed taskId errorMessage since =>
    some (s.write (s.leases.markRebuildFailed cfg (s.clock - since) taskId errorMessage))

/-- No agency has more leases that run than its budget. -/
def WithinBudget (s : RebuildDesk) : Prop :=
  ∀ agencyId, s.leases.activeCount agencyId s.clock ≤ cfg.maxActiveLeases.val

/-- A lease that does not run is marked running, and runs again, only where its agency has room. -/
def RevivesWithRoom (s : RebuildDesk) : RebuildAction → Prop
  | .markRunning taskId since => ∀ r ∈ s.leases.get? taskId, r.live s.clock = false →
      s.leases.taken r.scope taskId = false → s.clock < s.clock - since + seconds cfg.queuedTtlSeconds.val →
      s.leases.activeCount r.scope.agencyId s.clock < cfg.maxActiveLeases.val
  | .tick _ | .reserve .. | .markDone .. | .markFailed .. => True

end RebuildDesk

/-! ### A reservation -/

namespace RebuildLeases

section Reserve

variable {cfg : RebuildSettings} {now clock agencyId : ℕ} {scope : RebuildScope} {taskId : String}
  {t : RebuildLeases} {r : RebuildLease}

/-- A lease of the scope is queued or running, and its time is over. -/
def Stale (t : RebuildLeases) (now : ℕ) (scope : RebuildScope) : Prop :=
  ∃ taskId r, t.get? taskId = some r ∧ r.scope = scope ∧ r.status.isActive = true ∧ r.expiresAt ≤ now

/-- A scope has at most one lease that is queued or running. -/
def OnePerScope (t : RebuildLeases) : Prop :=
  ∀ taskId taskId' r r', t.get? taskId = some r → t.get? taskId' = some r' → r.status.isActive = true →
    r'.status.isActive = true → r.scope = r'.scope → taskId = taskId'

/-- What is promised of a reservation: it does not fail on the index, and where the scope has a lease whose time
is over and the agency has room, it is accepted. -/
def ReservesOverStale (cfg : RebuildSettings) (now : ℕ) (scope : RebuildScope) (taskId : String)
    (t : RebuildLeases) : Prop :=
  (t.reserveRebuildLease cfg now scope taskId).1 ≠ .error .active ∧
    (t.Stale now scope → t.activeCount scope.agencyId now < cfg.maxActiveLeases.val →
      ∃ result, (t.reserveRebuildLease cfg now scope taskId).1 = .ok result ∧ result.outcome = .accepted)

lemma get?_purge_of_active (hactive : r.status.isActive = true) :
    (t.purge now).get? taskId = some r ↔ t.get? taskId = some r := by
  have hfinal : r.status.isFinal = false := by
    cases hstatus : r.status <;> rw [hstatus] at hactive
    · rfl
    · rfl
    · exact absurd hactive false_ne_true
    · exact absurd hactive false_ne_true
  rw [purge, get?_delete]
  constructor
  · exact fun h => (filter_eq_some_iff.mp h).1
  · exact fun h => filter_eq_some_iff.mpr ⟨h, by simp [hfinal]⟩

lemma get?_of_get?_purge (h : (t.purge now).get? taskId = some r) : t.get? taskId = some r := by
  rw [purge, get?_delete] at h
  exact (filter_eq_some_iff.mp h).1

lemma active_of_live (h : r.live now = true) : r.status.isActive = true := (and_eq_true _ _ ▸ h).1

lemma live_of_le (hle : now ≤ clock) (h : r.live clock = true) : r.live now = true := by
  unfold RebuildLease.live at h ⊢
  simp only [and_eq_true, decide_eq_true_eq] at h ⊢
  exact ⟨h.1, hle.trans_lt h.2⟩

lemma activeCount_purge (agencyId now clock : ℕ) : (t.purge now).activeCount agencyId clock =
    t.activeCount agencyId clock := by
  refine count_delete_of_false fun taskId r hold => ?_
  by_contra hlive
  simp only [not_eq_false, and_eq_true] at hlive hold
  have hactive := active_of_live hlive.2
  cases hstatus : r.status <;> simp [hstatus, RebuildStatus.isActive, RebuildStatus.isFinal] at hold hactive

lemma taken_iff : t.taken scope taskId = true ↔
    ∃ taskId' r, t.get? taskId' = some r ∧ r.scope = scope ∧ r.status.isActive = true ∧ taskId' ≠ taskId := by
  rw [taken, List.any_eq_true]
  constructor
  · rintro ⟨e, he, htaken⟩
    simp only [and_eq_true, beq_iff_eq, bne_iff_ne] at htaken
    exact ⟨e.1, e.2, mem_entries_iff.mp he, htaken.1.1, htaken.1.2, htaken.2⟩
  · rintro ⟨taskId', r, hr, rfl, hactive, hne⟩
    exact ⟨(taskId', r), mem_entries_iff.mpr hr, by simp [hactive, hne]⟩

lemma not_live_of_existing (h : t.existing scope now = none) (hr : t.get? taskId = some r) (hscope : r.scope = scope) :
    r.live now = false := by
  rw [existing, latest, List.argmax_eq_none, List.filter_eq_nil_iff] at h
  have hnot := h (taskId, r) (mem_entries_iff.mpr hr)
  simpa [hscope] using hnot

/-- The ends of a reservation: it coalesces or is refused, and old leases are deleted; it fails, and nothing is
written; or it is accepted. -/
inductive Reserved (cfg : RebuildSettings) (now : ℕ) (scope : RebuildScope) (taskId : String) (t : RebuildLeases) :
    Except UniqueViolation LeaseReserveResult × RebuildLeases → Prop
  /-- It coalesces, or is refused where there is no room. -/
  | declined (result : LeaseReserveResult) (houtcome : result.outcome ≠ .accepted) :
    Reserved cfg now scope taskId t (.ok result, t.purge now)
  | failedTask (htask : (t.purge now).get? taskId ≠ none) : Reserved cfg now scope taskId t (.error .taskId, t)
  /-- The scope has a lease that is queued or running, and whose time is over. -/
  | failedActive (hstale : t.Stale now scope)
      (hroom : t.activeCount scope.agencyId now < cfg.maxActiveLeases.val) :
    Reserved cfg now scope taskId t (.error .active, t)
  | accepted (result : LeaseReserveResult) (htask : (t.purge now).get? taskId = none)
      (hfree : (t.purge now).taken scope taskId = false)
      (hroom : t.activeCount scope.agencyId now < cfg.maxActiveLeases.val) :
    Reserved cfg now scope taskId t (.ok result, (t.purge now).set taskId
      ⟨scope, .queued, "", now, now, now + seconds cfg.queuedTtlSeconds.val⟩)

lemma reserved (cfg : RebuildSettings) (now : ℕ) (scope : RebuildScope) (taskId : String) (t : RebuildLeases) :
    Reserved cfg now scope taskId t (t.reserveRebuildLease cfg now scope taskId) := by
  unfold reserveRebuildLease
  dsimp only
  split
  · exact .declined _ (by simp)
  · next hexisting =>
    split
    · exact .declined _ (by simp)
    · split
      · exact .declined _ (by simp)
      · next hroom =>
        rw [activeCount_purge, Nat.not_le] at hroom
        split
        · next htask => exact .failedTask (isSome_iff_ne_none.mp htask)
        · next htask =>
          split
          · next htaken =>
            obtain ⟨taskId', r, hr, hscope, hactive, -⟩ := taken_iff.mp htaken
            have hlive := not_live_of_existing hexisting hr hscope
            refine .failedActive ⟨taskId', r, get?_of_get?_purge hr, hscope, hactive, ?_⟩ hroom
            simpa [RebuildLease.live, hactive] using hlive
          · next hfree =>
            exact .accepted _ (by simpa using htask) (by simpa using hfree) hroom

lemma taken_of_active {taskId' : String} (htask : t.get? taskId = none) (hr : t.get? taskId' = some r)
    (hscope : r.scope = scope) (hactive : r.status.isActive = true) : t.taken scope taskId = true := by
  refine taken_iff.mpr ⟨taskId', r, hr, hscope, hactive, ?_⟩
  rintro rfl
  rw [htask] at hr
  cases hr

/-- A reservation meets what is promised exactly where its scope has no lease that is queued or running and
over, or its agency no room. -/
lemma reservesOverStale_iff : t.ReservesOverStale cfg now scope taskId ↔
    ¬ (t.Stale now scope ∧ t.activeCount scope.agencyId now < cfg.maxActiveLeases.val) := by
  rw [ReservesOverStale]
  have hends := reserved cfg now scope taskId t
  generalize t.reserveRebuildLease cfg now scope taskId = reservation at hends
  constructor
  · rintro ⟨hfails, haccepted⟩ ⟨hstale, hroom⟩
    obtain ⟨_, hresult, houtcome⟩ := haccepted hstale hroom
    cases hends with
    | declined _ hdeclined =>
      cases hresult
      exact hdeclined houtcome
    | failedTask => cases hresult
    | failedActive => cases hresult
    | accepted _ htask hfree =>
      -- the index would be violated
      obtain ⟨_, r, hr, hscope, hactive, -⟩ := hstale
      have htaken := taken_of_active htask ((get?_purge_of_active hactive).mpr hr) hscope hactive
      rw [hfree] at htaken
      cases htaken
  · intro hnot
    refine ⟨fun hfails => ?_, fun hstale hroom => absurd ⟨hstale, hroom⟩ hnot⟩
    cases hends with
    | declined | failedTask | accepted => cases hfails
    | failedActive hstale hroom => exact hnot ⟨hstale, hroom⟩

/-! ### One lease for a scope -/

lemma OnePerScope.purge (h : t.OnePerScope) (now : ℕ) : (t.purge now).OnePerScope :=
  fun _ _ _ _ hr hr' => h _ _ _ _ (get?_of_get?_purge hr) (get?_of_get?_purge hr')

lemma OnePerScope.write (h : t.OnePerScope) {t' : RebuildLeases} (r' : RebuildLease)
    (hsame : ∀ k, k ≠ taskId → t'.get? k = t.get? k) (hnew : ∀ r, t'.get? taskId = some r → r = r')
    (hfree : r'.status.isActive = true → t.taken r'.scope taskId = false) : t'.OnePerScope := by
  have hother : ∀ k r, t'.get? k = some r → r.status.isActive = true → r'.status.isActive = true →
      r.scope = r'.scope → k = taskId := by
    intro k r hr hactive hactive' hscope
    by_contra hne
    rw [hsame k hne] at hr
    have htaken := taken_iff.mpr ⟨k, r, hr, hscope, hactive, hne⟩
    rw [hfree hactive'] at htaken
    cases htaken
  intro k k' r₁ r₂ hr₁ hr₂ hactive₁ hactive₂ hscope
  by_cases hk : k = taskId
  · subst hk
    obtain rfl := hnew r₁ hr₁
    exact (hother k' r₂ hr₂ hactive₂ hactive₁ hscope.symm).symm
  · by_cases hk' : k' = taskId
    · subst hk'
      obtain rfl := hnew r₂ hr₂
      exact hother k r₁ hr₁ hactive₁ hactive₂ hscope
    · rw [hsame k hk] at hr₁
      rw [hsame k' hk'] at hr₂
      exact h k k' r₁ r₂ hr₁ hr₂ hactive₁ hactive₂ hscope

lemma OnePerScope.reserve (h : t.OnePerScope) : (t.reserveRebuildLease cfg now scope taskId).2.OnePerScope := by
  have hends := reserved cfg now scope taskId t
  generalize t.reserveRebuildLease cfg now scope taskId = reservation at hends ⊢
  cases hends with
  | declined => exact h.purge now
  | failedTask | failedActive => exact h
  | accepted _ _ hfree =>
    refine (h.purge now).write ⟨scope, .queued, "", now, now, now + seconds cfg.queuedTtlSeconds.val⟩
      (fun k hk => ?_) (fun r hr => ?_) fun _ => hfree
    · rw [get?_set, if_neg hk]
    · rw [get?_set, if_pos rfl] at hr
      exact (some.inj hr).symm

/-- What `_mark_status` writes. -/
def marked (cfg : RebuildSettings) (now : ℕ) (status : RebuildStatus) (errorMessage : String) (r : RebuildLease) :
    RebuildLease :=
  { r with
    status := status, lastError := firstChars 1000 errorMessage, updatedAt := now
    expiresAt := now + seconds (if status = .running then cfg.queuedTtlSeconds.val else cfg.historyTtlSeconds.val) }

/-- A mark that goes through writes one row, and no second lease of a scope that is queued or running. -/
lemma markStatus_cases (cfg : RebuildSettings) (now : ℕ) (taskId : String) (status : RebuildStatus)
    (errorMessage : String) (t : RebuildLeases) :
    (markStatus cfg now taskId status errorMessage t = .error .active ∧ status.isActive = true ∧
      ∃ r, t.get? taskId = some r ∧ t.taken r.scope taskId = true) ∨
    markStatus cfg now taskId status errorMessage t = .ok (t.updateKey taskId (marked cfg now status errorMessage)) ∧
      (status.isActive = true → ∀ r, t.get? taskId = some r → t.taken r.scope taskId = false) := by
  unfold markStatus
  dsimp only
  split
  · next htaken =>
    rw [and_eq_true, any_eq_true] at htaken
    exact .inl ⟨rfl, htaken.1, htaken.2⟩
  · next hfree =>
    refine .inr ⟨rfl, fun hactive r hr => ?_⟩
    simpa [hactive, hr] using hfree

lemma OnePerScope.mark (h : t.OnePerScope) {status : RebuildStatus} {errorMessage : String} :
    ((markStatus cfg now taskId status errorMessage t).toOption.getD t).OnePerScope := by
  rcases markStatus_cases cfg now taskId status errorMessage t with ⟨hfailed, -⟩ | ⟨hmarked, hfree⟩
  · rw [hfailed]
    exact h
  · rw [hmarked]
    change OnePerScope (t.updateKey taskId (marked cfg now status errorMessage))
    cases hr : t.get? taskId with
    | none =>
      rw [updateKey_of_get?_eq_none hr]
      exact h
    | some r =>
      refine h.write (marked cfg now status errorMessage r) (fun k hk => get?_updateKey_of_ne hk _)
        (fun r' hr' => ?_) fun hactive => hfree hactive r hr
      rw [get?_updateKey_self, hr] at hr'
      exact (some.inj hr').symm

lemma activeCount_marked (cfg : RebuildSettings) (now : ℕ) (status : RebuildStatus) (errorMessage : String)
    (hr : t.get? taskId = some r) (agencyId clock : ℕ) :
    activeCount agencyId clock (t.updateKey taskId (marked cfg now status errorMessage)) +
        (if r.scope.agencyId = agencyId ∧ r.live clock = true then 1 else 0) =
      t.activeCount agencyId clock +
        if r.scope.agencyId = agencyId ∧ (marked cfg now status errorMessage r).live clock = true then 1 else 0 := by
  have hcount := count_updateKey (p := fun _ (r : RebuildLease) => r.scope.agencyId == agencyId && r.live clock) hr
    (marked cfg now status errorMessage)
  have hscope : (marked cfg now status errorMessage r).scope = r.scope := rfl
  simpa only [activeCount, and_eq_true, beq_iff_eq, hscope] using hcount

lemma activeCount_reserve_le (hle : now ≤ clock) (h : t.activeCount agencyId clock ≤ cfg.maxActiveLeases.val) :
    activeCount agencyId clock (t.reserveRebuildLease cfg now scope taskId).2 ≤ cfg.maxActiveLeases.val := by
  have hends := reserved cfg now scope taskId t
  generalize t.reserveRebuildLease cfg now scope taskId = reservation at hends ⊢
  cases hends with
  | declined => exact (activeCount_purge agencyId now clock).trans_le h
  | failedTask | failedActive => exact h
  | accepted _ _ _ hroom =>
    refine count_set_le ((activeCount_purge agencyId now clock).trans_le h) fun hnew => ?_
    -- what runs now has run at the time of the reservation
    have hagency : scope.agencyId = agencyId := by
      simp only [and_eq_true, beq_iff_eq] at hnew
      exact hnew.1
    rw [hagency] at hroom
    refine lt_of_le_of_lt ?_ hroom
    rw [← activeCount_purge agencyId now now]
    refine count_le_count fun k r _ hcounted => ?_
    simp only [and_eq_true, beq_iff_eq] at hcounted ⊢
    exact ⟨hcounted.2.1, live_of_le hle hcounted.2.2⟩

end Reserve

end RebuildLeases

/-! ### What a step does to the budget -/

namespace RebuildDesk

variable {cfg : RebuildSettings} {s t : RebuildDesk} {taskId errorMessage : String} {now : ℕ}

open RebuildLeases

lemma WithinBudget.markFinal (h : s.WithinBudget cfg) {status : RebuildStatus} (hfinal : status.isActive = false) :
    (s.write (markStatus cfg now taskId status errorMessage s.leases)).WithinBudget cfg := by
  rcases markStatus_cases cfg now taskId status errorMessage s.leases with ⟨hfailed, -⟩ | ⟨hmarked, -⟩
  · rw [write, hfailed]
    exact h
  · intro agencyId
    rw [write, hmarked]
    change activeCount agencyId s.clock (s.leases.updateKey taskId _) ≤ _
    cases hr : s.leases.get? taskId with
    | none =>
      rw [Keyed.updateKey_of_get?_eq_none hr]
      exact h agencyId
    | some r =>
      have hover : (marked cfg now status errorMessage r).live s.clock = false := by
        simp [RebuildLease.live, marked, hfinal]
      have hcount := activeCount_marked cfg now status errorMessage hr agencyId s.clock
      rw [hover] at hcount
      have := h agencyId
      simp only [Bool.false_eq_true, and_false, if_false] at hcount
      omega

/-- Marking a task running keeps the agencies within their budgets exactly where a lease that runs again finds
room. -/
lemma withinBudget_markRunning_iff (h : s.WithinBudget cfg) (since : ℕ) :
    (s.write (s.leases.markRebuildRunning cfg (s.clock - since) taskId)).WithinBudget cfg ↔
      s.RevivesWithRoom cfg (.markRunning taskId since) := by
  rw [markRebuildRunning]
  rcases markStatus_cases cfg (s.clock - since) taskId .running "" s.leases with
    ⟨hfailed, -, r, hr, htaken⟩ | ⟨hmarked, hfree⟩
  · rw [write, hfailed]
    refine ⟨fun _ r' hr' _ hfree _ => ?_, fun _ => h⟩
    obtain rfl := some.inj (hr.symm.trans hr')
    rw [htaken] at hfree
    cases hfree
  · rw [write, hmarked]
    change (∀ agencyId, activeCount agencyId s.clock (s.leases.updateKey taskId _) ≤ _) ↔ _
    cases hr : s.leases.get? taskId with
    | none =>
      rw [Keyed.updateKey_of_get?_eq_none hr]
      refine ⟨fun _ r hr' => ?_, fun _ => h⟩
      rw [mem_def, hr] at hr'
      cases hr'
    | some r =>
      have hcount := activeCount_marked cfg (s.clock - since) .running "" hr
      have hlive : (marked cfg (s.clock - since) .running "" r).live s.clock
          = decide (s.clock < s.clock - since + seconds cfg.queuedTtlSeconds.val) := by
        simp [RebuildLease.live, marked, RebuildStatus.isActive]
      constructor
      · intro hwithin r' hr' hover _ htime
        obtain rfl := some.inj (hr.symm.trans hr')
        have hown := hcount r.scope.agencyId s.clock
        rw [hover, hlive, decide_eq_true htime] at hown
        have := hwithin r.scope.agencyId
        simp only [Bool.false_eq_true, and_false, if_false, and_true, if_true] at hown
        omega
      · intro hroom agencyId
        have hown := hcount agencyId s.clock
        have hbefore := h agencyId
        by_cases hagency : r.scope.agencyId = agencyId
        · cases hwas : r.live s.clock with
          | true =>
            rw [hwas] at hown
            simp only [hagency, and_self, if_true] at hown
            split at hown <;> omega
          | false =>
            rw [hwas, hlive] at hown
            by_cases htime : s.clock < s.clock - since + seconds cfg.queuedTtlSeconds.val
            · have hless := hroom r hr hwas (hfree rfl r hr) htime
              rw [hagency] at hless
              simp only [hagency, decide_eq_true htime, Bool.false_eq_true, and_false, if_false, and_self,
                if_true] at hown
              omega
            · simp only [hagency, decide_eq_false htime, Bool.false_eq_true, and_false, if_false] at hown
              omega
        · simp only [hagency, false_and, if_false] at hown
          omega

/-- One step keeps the agencies within their budgets exactly where it revives no lease without room. -/
lemma withinBudget_step_iff {a : RebuildAction} (h : s.WithinBudget cfg) (hstep : s.step cfg a = some t) :
    t.WithinBudget cfg ↔ s.RevivesWithRoom cfg a := by
  cases a with
  | tick =>
    cases hstep
    refine ⟨fun _ => trivial, fun _ agencyId => le_trans (count_le_count fun k r _ hcounted => ?_) (h agencyId)⟩
    simp only [and_eq_true, beq_iff_eq] at hcounted ⊢
    exact ⟨hcounted.1, live_of_le (Nat.le_add_right _ _) hcounted.2⟩
  | reserve =>
    cases hstep
    exact ⟨fun _ => trivial, fun _ agencyId => activeCount_reserve_le (Nat.sub_le _ _) (h agencyId)⟩
  | markRunning _ since =>
    cases hstep
    exact withinBudget_markRunning_iff h since
  | markDone =>
    cases hstep
    exact ⟨fun _ => trivial, fun _ => h.markFinal rfl⟩
  | markFailed =>
    cases hstep
    exact ⟨fun _ => trivial, fun _ => h.markFinal rfl⟩

lemma onePerScope_step {a : RebuildAction} (h : s.leases.OnePerScope) (hstep : s.step cfg a = some t) :
    t.leases.OnePerScope := by
  cases a with
  | tick =>
    cases hstep
    exact h
  | reserve =>
    cases hstep
    exact h.reserve
  | markRunning taskId since | markDone taskId since | markFailed taskId errorMessage since =>
    cases hstep
    exact h.mark

def atRest (clock : ℕ) : RebuildDesk := ⟨clock, Keyed.empty⟩

/-- In every state of a run a scope has at most one lease that is queued or running, and a reservation meets what
is promised exactly where its scope has no such lease that is over, or its agency no room.  The agencies are within
their budgets in every state of a run exactly when no lease runs again where there is no room. -/
theorem rebuild_leases_exact (cfg : RebuildSettings) (clock : ℕ) (as : List RebuildAction) :
    (∀ before t, before <+: as → run (fun s => s.step cfg) (atRest clock) before = some t →
      t.leases.OnePerScope ∧ ∀ now scope taskId, t.leases.ReservesOverStale cfg now scope taskId ↔
        ¬ (t.leases.Stale now scope ∧ t.leases.activeCount scope.agencyId now < cfg.maxActiveLeases.val)) ∧
    ((∀ before t, before <+: as → run (fun s => s.step cfg) (atRest clock) before = some t → t.WithinBudget cfg) ↔
      Guarded (fun s => s.step cfg) (fun s => s.RevivesWithRoom cfg) (atRest clock) as) := by
  have hone : (atRest clock).leases.OnePerScope := nofun
  have hbudget : (atRest clock).WithinBudget cfg := fun _ => Nat.zero_le _
  constructor
  · intro before t _ hrun
    refine ⟨?_, fun now scope taskId => reservesOverStale_iff⟩
    exact run_invariant_of_step (P := fun s => s.leases.OnePerScope) (fun _ _ _ h hstep => onePerScope_step h hstep)
      hone hrun
  · refine holds_along_iff (C := fun s => s.RevivesWithRoom cfg) (I := fun _ => True)
      (P := fun s => s.WithinBudget cfg) (fun _ _ _ _ _ => trivial)
      (fun _ _ _ _ h hstep => withinBudget_step_iff h hstep) (fun s a hnone => ?_) trivial hbudget
    cases a <;> cases hnone

def oneLease : RebuildSettings :=
  ⟨⟨1, by decide⟩, ⟨3600, by decide⟩, ⟨21600, by decide⟩, ⟨30, by decide⟩, ⟨30, by decide⟩⟩

def dirtyScope : RebuildScope := ⟨7, "dirty", "_", by decide⟩

def clientScope : RebuildScope := ⟨7, "client", "client:5", by decide⟩

def workerDied : List RebuildAction := [.reserve dirtyScope "task-1" 0, .tick (seconds 7200)]

def deadLease : RebuildLease := ⟨dirtyScope, .queued, "", 0, 0, seconds 3600⟩

def deadDesk : RebuildDesk := ⟨seconds 7200, (Keyed.empty : RebuildLeases).set "task-1" deadLease⟩

/-- After that another scope is reserved, and the first task starts after all. -/
def revived : List RebuildAction := 
  workerDied ++ ([.reserve clientScope "task-2" 0, .markRunning "task-1" 0] : List RebuildAction)

/-- A lease whose time is over blocks its scope, and takes a place that its agency does not have. -/
theorem stale_lease_blocks :
    (¬ ∀ (cfg : RebuildSettings) (as : List RebuildAction) (t : RebuildDesk) (scope : RebuildScope)
      (taskId : String), run (fun s => s.step cfg) (atRest 0) as = some t → t.leases.get? taskId = none →
      t.leases.ReservesOverStale cfg t.clock scope taskId) ∧
    ¬ ∀ (cfg : RebuildSettings) (as : List RebuildAction) (t : RebuildDesk),
      run (fun s => s.step cfg) (atRest 0) as = some t → t.WithinBudget cfg := by
  constructor
  · intro h
    have hreserves := h oneLease workerDied deadDesk dirtyScope "task-2" rfl (by decide +kernel)
    have hdead : deadDesk.leases.get? "task-1" = some deadLease := by decide +kernel
    have hstale : deadDesk.leases.Stale deadDesk.clock dirtyScope := ⟨"task-1", deadLease, hdead, rfl, rfl, by decide⟩
    exact reservesOverStale_iff.mp hreserves ⟨hstale, by decide +kernel⟩
  · intro h
    have htwo : (run (fun s => s.step oneLease) (atRest 0) revived).map
        (fun t => t.leases.activeCount 7 t.clock) = some 2 := by decide +kernel
    obtain ⟨t, ht, hcount⟩ := map_eq_some_iff.mp htwo
    have hle := h oneLease revived t ht 7
    rw [hcount] at hle
    exact absurd hle (by decide)

end RebuildDesk

end ImmoApp.Leases
