import ImmoApp.Foundation.RowLocks
import ImmoApp.Leases.Slots

/-!
# Reservations side by side

Calls of `reserve_stream_slot` for the streams of one task and agency, statement by statement.  A call ensures its row,
reads the rows whose lease runs `FOR UPDATE`, then its own row, and writes it; others see what it wrote when it has
committed.  The rows that run are those found when the statement starts, so two calls may count the same tasks.

`capped_of_complete`: where no count has missed a reservation, the tasks in flight stay within the limit.
-/

namespace ImmoApp

open Imports List Option Keyed

namespace Leases

/-! ### Calls -/

structure SlotPool where
  taskName : String
  agencyId : ℕ
  maxInFlight : ℕ

inductive SlotPhase where
  | ensured
  | counting (pending : List LeaseKey)
  | owned (row : WorkLease)
  | finished (write : Option WorkLease) (answer : Option String × Bool)

/-- A call of `reserve_stream_slot` in its transaction. -/
structure SlotCall where
  stream : String
  owner : SlotOwner
  leaseSeconds : ℕ
  begun : ℕ
  inserted : Bool
  seen : List (LeaseKey × ℕ)
  phase : SlotPhase

structure SlotDesk where
  now : ℕ
  leases : WorkLeases
  calls : Keyed ℕ SlotCall

inductive SlotStatement where
  | count
  | lock (k : LeaseKey)
  | own
  /-- It coalesces, refuses or reserves. -/
  | write
  | commit
  | abort

inductive SlotAction where
  | tick (seconds : ℕ)
  | ensure (tx : ℕ) (stream : String) (owner : SlotOwner) (leaseSeconds : ℕ)
  | call (tx : ℕ) (statement : SlotStatement)

namespace SlotPool

variable (pool : SlotPool)

def key (stream : String) : LeaseKey := ⟨pool.taskName, pool.agencyId, stream⟩

def use (now : ℕ) (k : LeaseKey) (row : WorkLease) : ℕ := WorkLeases.liveUse pool.taskName pool.agencyId now k row

def useOf (now : ℕ) (t : WorkLeases) (k : LeaseKey) : ℕ := ((t.get? k).map (pool.use now k)).getD 0

def activeKeys (now : ℕ) (t : WorkLeases) : List LeaseKey :=
  (t.entries.filter fun e => e.1.taskName == pool.taskName && e.1.agencyId == pool.agencyId &&
    e.2.active now).map Prod.fst

def inFlight (now : ℕ) (t : WorkLeases) : ℕ := t.activeInFlight pool.taskName pool.agencyId now

end SlotPool

/-- `_ensure_row` inserts it. -/
def freshRow : WorkLease := ⟨0, none, none, 0⟩

namespace SlotCall

variable (pool : SlotPool)

def ownsRow (c : SlotCall) : Bool :=
  match c.phase with
  | .ensured | .counting _ => c.inserted
  | .owned _ | .finished _ _ => true

def locks (c : SlotCall) : List LeaseKey :=
  c.seen.map Prod.fst ++ if c.ownsRow then [pool.key c.stream] else []

/-- `sum(row_int(row, "in_flight") for row in active_rows)`. -/
def counted (c : SlotCall) : ℕ := (c.seen.map Prod.snd).sum

def judge (c : SlotCall) (row : WorkLease) : SlotPhase :=
  if row.held then .finished none (row.owner?, false)
  else if max 1 pool.maxInFlight ≤ c.counted then .finished none (none, false)
  else .finished (some (row.reserved c.owner.name c.leaseSeconds c.begun)) (none, true)

def reserving (c : SlotCall) : Bool :=
  match c.phase with
  | .owned row => !row.held && decide (c.counted < max 1 pool.maxInFlight)
  | .ensured | .counting _ | .finished _ _ => false

/-- The reservations that it has written and not committed. -/
def booked (c : SlotCall) : ℕ :=
  match c.phase with
  | .finished (some _) _ => 1
  | .ensured | .counting _ | .owned _ | .finished none _ => 0

end SlotCall

namespace SlotDesk

def enter (s : SlotDesk) (tx : ℕ) (c : SlotCall) : SlotDesk := { s with calls := s.calls.set tx c }

def leave (s : SlotDesk) (tx : ℕ) : SlotDesk := { s with calls := s.calls.deleteKey tx }

def underWay (s : SlotDesk) : ℕ := s.calls.total fun _ c => c.booked

variable (pool : SlotPool)

def Free (s : SlotDesk) (tx : ℕ) (k : LeaseKey) : Prop := Unlocked (SlotCall.locks pool) s.calls.entries tx k

instance (s : SlotDesk) (tx : ℕ) (k : LeaseKey) : Decidable (s.Free pool tx k) :=
  inferInstanceAs (Decidable (Unlocked _ _ _ _))

def written (s : SlotDesk) (c : SlotCall) (write : Option WorkLease) : WorkLeases :=
  match write with
  | some row => s.leases.set (pool.key c.stream) row
  | none => if c.inserted then s.leases.set (pool.key c.stream) freshRow else s.leases

def ownRow (s : SlotDesk) (c : SlotCall) : Option WorkLease :=
  if c.inserted then some freshRow else s.leases.get? (pool.key c.stream)

def perform (s : SlotDesk) (tx : ℕ) (c : SlotCall) : SlotStatement → Option SlotDesk
  | .count =>
    match c.phase with
    | .ensured => some (s.enter tx { c with phase := .counting (pool.activeKeys c.begun s.leases) })
    | .counting _ | .owned _ | .finished _ _ => none
  | .lock k =>
    match c.phase with
    | .counting pending =>
      if k ∈ pending ∧ s.Free pool tx k then
        some (s.enter tx { c with
          seen := c.seen ++ [(k, pool.useOf c.begun s.leases k)], phase := .counting (pending.erase k) })
      else none
    | .ensured | .owned _ | .finished _ _ => none
  | .own =>
    match c.phase with
    | .counting [] =>
      if s.Free pool tx (pool.key c.stream) then
        some (s.enter tx { c with
          phase := (s.ownRow pool c).elim (.finished none (none, false)) .owned })
      else none
    | .ensured | .counting (_ :: _) | .owned _ | .finished _ _ => none
  | .write =>
    match c.phase with
    | .owned row => some (s.enter tx { c with phase := c.judge pool row })
    | .ensured | .counting _ | .finished _ _ => none
  | .commit =>
    match c.phase with
    | .finished write _ => some { s.leave tx with leases := s.written pool c write }
    | .ensured | .counting _ | .owned _ => none
  | .abort => some (s.leave tx)

def step (s : SlotDesk) : SlotAction → Option SlotDesk
  | .tick seconds => some { s with now := s.now + seconds }
  | .ensure tx stream owner leaseSeconds =>
    if (s.calls.get? tx).isSome then none
    else if (s.leases.get? (pool.key stream)).isSome then
      some (s.enter tx ⟨stream, owner, leaseSeconds, s.now, false, [], .ensured⟩)
    else if s.Free pool tx (pool.key stream) then
      some (s.enter tx ⟨stream, owner, leaseSeconds, s.now, true, [], .ensured⟩)
    else none
  | .call tx statement => (s.calls.get? tx).bind fun c => s.perform pool tx c statement

/-- A call that reserves has missed no reservation: none is waiting for its commit, and every row that runs is
one that its count has locked. -/
def Complete (s : SlotDesk) : SlotAction → Prop
  | .call tx .write => ∀ c ∈ s.calls.get? tx, c.reserving pool = true →
      s.underWay = 0 ∧ ∀ e ∈ s.leases.entries, pool.use s.now e.1 e.2 ≠ 0 → e.1 ∈ c.seen.map Prod.fst
  | .tick _ | .ensure .. | .call _ .count | .call _ (.lock _) | .call _ .own | .call _ .commit
  | .call _ .abort => True

instance (s : SlotDesk) : (a : SlotAction) → Decidable (s.Complete pool a)
  | .call tx .write => inferInstanceAs (Decidable (∀ c ∈ s.calls.get? tx, c.reserving pool = true →
      s.underWay = 0 ∧ ∀ e ∈ s.leases.entries, pool.use s.now e.1 e.2 ≠ 0 → e.1 ∈ c.seen.map Prod.fst))
  | .tick _ | .ensure .. | .call _ .count | .call _ (.lock _) | .call _ .own | .call _ .commit
  | .call _ .abort => inferInstanceAs (Decidable True)

end SlotDesk

section Fits

variable {pool : SlotPool} {t t' : WorkLeases} {now now' : ℕ} {c : SlotCall} {k : LeaseKey} {row : WorkLease}

structure SlotCall.Fits (pool : SlotPool) (t : WorkLeases) (now : ℕ) (c : SlotCall) : Prop where
  begun_le : c.begun ≤ now
  /-- The rows that it has locked for its count are as it read them. -/
  seen_eq : ∀ e ∈ c.seen, e.2 = pool.useOf c.begun t e.1
  row_kept : ∀ row, c.phase = .owned row → row.Idle ∨ row.Taken
  write_taken : ∀ row answer, c.phase = .finished (some row) answer → row.Taken

lemma SlotCall.Fits.later (h : c.Fits pool t now) (hnow : now ≤ now')
    (hsame : ∀ k ∈ c.seen.map Prod.fst, t'.get? k = t.get? k) : c.Fits pool t' now' where
  begun_le := h.begun_le.trans hnow
  seen_eq := by
    intro e he
    rw [h.seen_eq e he, SlotPool.useOf, SlotPool.useOf, hsame e.1 (mem_map_of_mem he)]
  row_kept := h.row_kept
  write_taken := h.write_taken

lemma SlotPool.useOf_of_get? (hget : t.get? k = some row) : pool.useOf now t k = pool.use now k row := by
  rw [useOf, hget]
  rfl

lemma SlotCall.Fits.inFlight_le (h : c.Fits pool t now)
    (hall : ∀ e ∈ t.entries, pool.use now e.1 e.2 ≠ 0 → e.1 ∈ c.seen.map Prod.fst) :
    pool.inFlight now t ≤ c.counted := by
  rw [SlotPool.inFlight, WorkLeases.activeInFlight_eq_total]
  refine total_le_sum fun k row hget hne => ?_
  obtain ⟨e, he, rfl⟩ := mem_map.mp (hall (k, row) (mem_entries_iff.mpr hget) hne)
  refine ⟨e.2, he, ?_⟩
  rw [h.seen_eq e he, SlotPool.useOf_of_get? hget]
  exact WorkLeases.liveUse_le_of_le h.begun_le e.1 row

/-- A call that has judged its row has reserved it, as one that is taken, or has written nothing. -/
lemma SlotCall.judge_cases (pool : SlotPool) (c : SlotCall) {row : WorkLease} (hrow : row.Idle ∨ row.Taken) :
    (∃ answer, c.judge pool row = .finished none answer) ∨ row.held = false ∧ c.counted < max 1 pool.maxInFlight ∧
      ∃ row' answer, row'.Taken ∧ c.judge pool row = .finished (some row') answer := by
  rw [SlotCall.judge]
  split
  · exact .inl ⟨_, rfl⟩
  · next hheld =>
    split
    · exact .inl ⟨_, rfl⟩
    · next hroom =>
      have hidle := hrow.resolve_right fun htaken => hheld htaken.held
      exact .inr ⟨hidle.not_held, Nat.lt_of_not_le hroom, _, _, hidle.taken_reserved .., rfl⟩

end Fits

/-! ### What a step preserves -/

section Steps

variable {pool : SlotPool} {s t : SlotDesk} {tx : ℕ} {c : SlotCall} {k : LeaseKey}

structure SlotDesk.Sound (pool : SlotPool) (s : SlotDesk) : Prop where
  lockedOnce : LockedOnce (SlotCall.locks pool) s.calls.entries
  kept : s.leases.Kept
  fits : ∀ tx c, s.calls.get? tx = some c → c.Fits pool s.leases s.now
  /-- The tasks in flight, with those that are not committed, stay within the limit. -/
  capped : pool.inFlight s.now s.leases + s.underWay ≤ max 1 pool.maxInFlight

lemma SlotDesk.Sound.tick (h : s.Sound pool) (seconds : ℕ) :
    SlotDesk.Sound pool { s with now := s.now + seconds } where
  lockedOnce := h.lockedOnce
  kept := h.kept
  fits tx c hc := (h.fits tx c hc).later (Nat.le_add_right _ _) fun _ _ => rfl
  capped := by
    have hfewer : pool.inFlight (s.now + seconds) s.leases ≤ pool.inFlight s.now s.leases := by
      rw [SlotPool.inFlight, SlotPool.inFlight, WorkLeases.activeInFlight_eq_total,
        WorkLeases.activeInFlight_eq_total]
      refine total_le_of_get? fun k row hrow => ⟨row, hrow, ?_⟩
      exact WorkLeases.liveUse_le_of_le (Nat.le_add_right _ _) k row
    exact (Nat.add_le_add_right hfewer _).trans h.capped

lemma SlotDesk.Sound.enter (h : s.Sound pool) (hfree : ∀ k ∈ c.locks pool, s.Free pool tx k)
    (hfits : c.Fits pool s.leases s.now)
    (hroom : c.booked ≠ 0 → pool.inFlight s.now s.leases + s.underWay + c.booked ≤ max 1 pool.maxInFlight) :
    (s.enter tx c).Sound pool where
  lockedOnce := h.lockedOnce.set hfree
  kept := h.kept
  fits tx' c' hc' := by
    rw [SlotDesk.enter, get?_set] at hc'
    split at hc'
    · cases hc'
      exact hfits
    · exact h.fits tx' c' hc'
  capped := by
    have hset : (s.enter tx c).underWay ≤ s.underWay + c.booked := total_set_le tx c
    have hcapped := h.capped
    change pool.inFlight s.now s.leases + _ ≤ _
    by_cases hbooked : c.booked = 0
    · omega
    · have := hroom hbooked
      omega

lemma SlotDesk.Sound.free (h : s.Sound pool) (hc : s.calls.get? tx = some c) (hk : k ∈ c.locks pool) :
    s.Free pool tx k :=
  h.lockedOnce (tx, c) (mem_entries_iff.mpr hc) k hk

lemma SlotDesk.lockedOnce_leave (h : LockedOnce (SlotCall.locks pool) s.calls.entries) (tx : ℕ) :
    LockedOnce (SlotCall.locks pool) (s.leave tx).calls.entries := by
  have herase : (s.leave tx).calls.entries = Dict.erase s.calls.entries tx :=
    filter_congr fun e _ => by by_cases he : e.1 = tx <;> simp [he]
  rw [herase]
  exact h.erase tx

lemma SlotDesk.get?_leave {tx' : ℕ} {c' : SlotCall} (h : (s.leave tx).calls.get? tx' = some c') :
    tx' ≠ tx ∧ s.calls.get? tx' = some c' := by
  rw [SlotDesk.leave, get?_deleteKey] at h
  split at h
  · cases h
  · next hne => exact ⟨hne, h⟩

lemma SlotDesk.Sound.leave (h : s.Sound pool) (tx : ℕ) : (s.leave tx).Sound pool where
  lockedOnce := SlotDesk.lockedOnce_leave h.lockedOnce tx
  kept := h.kept
  fits tx' c' hc' := h.fits tx' c' (SlotDesk.get?_leave hc').2
  capped := by
    have hfewer : (s.leave tx).underWay ≤ s.underWay := total_deleteKey_le tx
    exact (Nat.add_le_add_left hfewer _).trans h.capped

lemma SlotDesk.get?_written_of_ne {write : Option WorkLease} (hne : k ≠ pool.key c.stream) :
    (s.written pool c write).get? k = s.leases.get? k := by
  cases write with
  | some row =>
    change (s.leases.set (pool.key c.stream) row).get? k = _
    rw [get?_set, if_neg hne]
  | none =>
    rw [SlotDesk.written]
    split
    · rw [get?_set, if_neg hne]
    · rfl

lemma SlotPool.inFlight_set_le (pool : SlotPool) (now : ℕ) (t : WorkLeases) (k : LeaseKey) (row : WorkLease) :
    pool.inFlight now (t.set k row) ≤ pool.inFlight now t + row.inFlight := by
  rw [SlotPool.inFlight, SlotPool.inFlight, WorkLeases.activeInFlight_eq_total, WorkLeases.activeInFlight_eq_total]
  exact (total_set_le k row).trans (Nat.add_le_add_left (WorkLeases.liveUse_le_inFlight k row) _)

lemma SlotDesk.Sound.commit (h : s.Sound pool) (hc : s.calls.get? tx = some c) {write : Option WorkLease}
    {answer : Option String × Bool} (hphase : c.phase = .finished write answer) :
    SlotDesk.Sound pool { s.leave tx with leases := s.written pool c write } where
  lockedOnce := SlotDesk.lockedOnce_leave h.lockedOnce tx
  kept := by
    change (s.written pool c write).Kept
    cases write with
    | some row => exact h.kept.set (.inr ((h.fits tx c hc).write_taken row answer hphase))
    | none =>
      rw [SlotDesk.written]
      split
      · exact h.kept.set (.inl ⟨rfl, rfl, rfl⟩)
      · exact h.kept
  fits tx' c' hc' := by
    obtain ⟨hne, hc'⟩ := SlotDesk.get?_leave hc'
    refine (h.fits tx' c' hc').later le_rfl fun k hk => SlotDesk.get?_written_of_ne ?_
    -- the row that is written is locked, and not by the other call
    rintro rfl
    have hown : pool.key c.stream ∈ c.locks pool := by simp [SlotCall.locks, SlotCall.ownsRow, hphase]
    exact h.free hc hown (tx', c') (mem_entries_iff.mpr hc') hne (mem_append_left _ hk)
  capped := by
    change pool.inFlight s.now (s.written pool c write) + (s.leave tx).underWay ≤ _
    have hdelete : (s.leave tx).underWay + c.booked = s.underWay := total_deleteKey hc
    have hwritten : pool.inFlight s.now (s.written pool c write) ≤ pool.inFlight s.now s.leases + c.booked := by
      cases write with
      | some row =>
        have htaken := (h.fits tx c hc).write_taken row answer hphase
        have hset := pool.inFlight_set_le s.now s.leases (pool.key c.stream) row
        rw [htaken.1] at hset
        simpa [SlotCall.booked, hphase, SlotDesk.written] using hset
      | none =>
        rw [SlotDesk.written]
        split
        · exact (pool.inFlight_set_le s.now s.leases (pool.key c.stream) freshRow).trans (Nat.le_add_right _ _)
        · exact Nat.le_add_right _ _
    have := h.capped
    omega

lemma SlotDesk.ownRow_kept (h : s.leases.Kept) {row : WorkLease} (hrow : s.ownRow pool c = some row) :
    row.Idle ∨ row.Taken := by
  rw [SlotDesk.ownRow] at hrow
  split at hrow
  · cases hrow
    exact .inl ⟨rfl, rfl, rfl⟩
  · exact h _ row hrow

lemma SlotDesk.Sound.enter_of_not_booked (h : s.Sound pool) (hfree : ∀ k ∈ c.locks pool, s.Free pool tx k)
    (hfits : c.Fits pool s.leases s.now) (hbooked : c.booked = 0) : (s.enter tx c).Sound pool :=
  h.enter hfree hfits fun hne => absurd hbooked hne

lemma SlotDesk.Sound.perform (h : s.Sound pool) (hc : s.calls.get? tx = some c) {statement : SlotStatement}
    (hcomplete : s.Complete pool (.call tx statement)) (hstep : s.perform pool tx c statement = some t) :
    t.Sound pool := by
  obtain ⟨stream, owner, leaseSeconds, begun, inserted, seen, phase⟩ := c
  have hfits := h.fits tx _ hc
  have hfree : ∀ k ∈ SlotCall.locks pool ⟨stream, owner, leaseSeconds, begun, inserted, seen, phase⟩,
      s.Free pool tx k := fun k hk => h.free hc hk
  cases statement with
  | count =>
    cases phase with
    | ensured =>
      cases hstep
      exact h.enter_of_not_booked hfree ⟨hfits.begun_le, hfits.seen_eq, nofun, nofun⟩ rfl
    | counting | owned | finished => cases hstep
  | lock =>
    cases phase with
    | counting =>
      obtain ⟨hk, hstep⟩ := ite_none_right_eq_some.mp hstep
      cases hstep
      refine h.enter_of_not_booked (fun k' hk' => ?_) ⟨hfits.begun_le, fun e he => ?_, nofun, nofun⟩ rfl
      · simp only [SlotCall.locks, map_append, map_cons, map_nil, mem_append,
          mem_singleton] at hk'
        rcases hk' with (hk' | rfl) | hk'
        · exact hfree k' (mem_append_left _ hk')
        · exact hk.2
        · exact hfree k' (mem_append_right _ hk')
      · rcases mem_append.mp he with he | he
        · exact hfits.seen_eq e he
        · rw [mem_singleton.mp he]
    | ensured | owned | finished => cases hstep
  | own =>
    cases phase with
    | counting pending =>
      cases pending with
      | nil =>
        obtain ⟨hown, hstep⟩ := ite_none_right_eq_some.mp hstep
        have hlocks : ∀ k' ∈ seen.map Prod.fst ++ [pool.key stream], s.Free pool tx k' := by
          intro k' hk'
          rcases mem_append.mp hk' with hk' | hk'
          · exact hfree k' (mem_append_left _ hk')
          · rw [mem_singleton.mp hk']
            exact hown
        cases hrow : s.ownRow pool ⟨stream, owner, leaseSeconds, begun, inserted, seen, .counting []⟩ with
        | none =>
          rw [hrow, elim_none] at hstep
          cases hstep
          exact h.enter_of_not_booked hlocks ⟨hfits.begun_le, hfits.seen_eq, nofun, nofun⟩ rfl
        | some =>
          rw [hrow, elim_some] at hstep
          cases hstep
          refine h.enter_of_not_booked hlocks ⟨hfits.begun_le, hfits.seen_eq, fun row' hrow' => ?_, nofun⟩ rfl
          cases hrow'
          exact SlotDesk.ownRow_kept h.kept hrow
      | cons => cases hstep
    | ensured | owned | finished => cases hstep
  | write =>
    cases phase with
    | owned row =>
      cases hstep
      rcases SlotCall.judge_cases pool ⟨stream, owner, leaseSeconds, begun, inserted, seen, .owned row⟩
          (hfits.row_kept row rfl) with ⟨answer, hjudge⟩ | ⟨hheld, hroom, row', answer, htaken, hjudge⟩
      · rw [hjudge]
        exact h.enter_of_not_booked hfree ⟨hfits.begun_le, hfits.seen_eq, nofun, nofun⟩ rfl
      · rw [hjudge]
        refine h.enter hfree ⟨hfits.begun_le, hfits.seen_eq, nofun, fun row'' answer' hphase => ?_⟩ fun _ => ?_
        · cases hphase
          exact htaken
        · -- the count has seen every task in flight, so there is room for one more
          obtain ⟨hnone, hall⟩ := hcomplete _ hc (by simpa [SlotCall.reserving, hheld] using hroom)
          have hle := hfits.inFlight_le hall
          rw [hnone]
          exact (Nat.add_le_add_right hle 1).trans hroom
    | ensured | counting | finished => cases hstep
  | commit =>
    cases phase with
    | finished =>
      cases hstep
      exact h.commit hc rfl
    | ensured | counting | owned => cases hstep
  | abort =>
    cases hstep
    exact h.leave tx

lemma SlotDesk.Sound.step {a : SlotAction} (h : s.Sound pool) (hcomplete : s.Complete pool a)
    (hstep : s.step pool a = some t) : t.Sound pool := by
  cases a with
  | tick seconds =>
    cases hstep
    exact h.tick seconds
  | ensure _ stream =>
    rw [SlotDesk.step] at hstep
    split at hstep
    · cases hstep
    · split at hstep
      · cases hstep
        exact h.enter_of_not_booked (by simp [SlotCall.locks, SlotCall.ownsRow]) ⟨le_rfl, nofun, nofun, nofun⟩ rfl
      · obtain ⟨hown, hstep⟩ := ite_none_right_eq_some.mp hstep
        cases hstep
        refine h.enter_of_not_booked (fun k hk => ?_) ⟨le_rfl, nofun, nofun, nofun⟩ rfl
        obtain rfl : k = pool.key stream := by simpa [SlotCall.locks, SlotCall.ownsRow] using hk
        exact hown
  | call =>
    obtain ⟨c, hc, hstep⟩ := bind_eq_some_iff.mp hstep
    exact h.perform hc hcomplete hstep

end Steps

/-! ### Runs -/

/-- No call is under way, every row is idle or taken, and the tasks in flight are within the limit. -/
structure SlotDesk.Quiet (pool : SlotPool) (s : SlotDesk) : Prop where
  no_calls : s.calls = Keyed.empty
  kept : s.leases.Kept
  capped : pool.inFlight s.now s.leases ≤ pool.maxInFlight

lemma SlotDesk.Quiet.sound {pool : SlotPool} {s : SlotDesk} (h : s.Quiet pool) : s.Sound pool := by
  obtain ⟨_, _, _⟩ := s
  obtain ⟨rfl, hkept, hcapped⟩ := h
  refine ⟨lockedOnce_nil, hkept, fun tx c hget => ?_, hcapped.trans (le_max_right _ _)⟩
  rw [get?_empty] at hget
  cases hget

/-- In every run in which no call that reserves has missed a reservation, the tasks in flight stay within the
limit. -/
theorem capped_of_complete {pool : SlotPool} (hpos : 0 < pool.maxInFlight) {s t : SlotDesk} (hs : s.Quiet pool)
    {as : List SlotAction} (hcomplete : Guarded (SlotDesk.step pool) (SlotDesk.Complete pool) s as)
    (hrun : run (SlotDesk.step pool) s as = some t) : pool.inFlight t.now t.leases ≤ pool.maxInFlight := by
  have hsound := run_invariant (fun _ _ _ hsound hc hstep => hsound.step hc hstep) hs.sound hcomplete hrun
  have hcapped := hsound.capped
  rw [max_eq_right hpos] at hcapped
  omega

def onePool : SlotPool := ⟨"matches_all", 7, 1⟩

def emptySlots : SlotDesk := ⟨1000, Keyed.empty, Keyed.empty⟩

def firstOwner : SlotOwner := ⟨"pending-1", by decide +kernel, by decide⟩

def secondOwner : SlotOwner := ⟨"pending-2", by decide +kernel, by decide⟩

lemma quiet_emptySlots : emptySlots.Quiet onePool := ⟨rfl, nofun, by decide⟩

def oneCallThenTheOther : List SlotAction :=
  [.ensure 1 "clients:all" firstOwner 60, .call 1 .count, .call 1 .own, .call 1 .write, .call 1 .commit,
    .ensure 2 "demandes:all" secondOwner 60, .call 2 .count, .call 2 (.lock ⟨"matches_all", 7, "clients:all"⟩),
    .call 2 .own, .call 2 .write, .call 2 .commit]

theorem capped_one_call_then_the_other : ∃ t, run (SlotDesk.step onePool) emptySlots oneCallThenTheOther = some t ∧
      onePool.inFlight t.now t.leases = 1 ∧ onePool.inFlight t.now t.leases ≤ onePool.maxInFlight := by
  have hone : (run (SlotDesk.step onePool) emptySlots oneCallThenTheOther).map
      (fun t => onePool.inFlight t.now t.leases) = some 1 := by decide +kernel
  obtain ⟨t, ht, hflight⟩ := map_eq_some_iff.mp hone
  exact ⟨t, ht, hflight, capped_of_complete (by decide) quiet_emptySlots (by decide +kernel) ht⟩

def bothCountFirst : List SlotAction :=
  [.ensure 1 "clients:all" firstOwner 60, .ensure 2 "demandes:all" secondOwner 60, .call 1 .count,
    .call 2 .count, .call 1 .own, .call 2 .own, .call 1 .write, .call 2 .write, .call 1 .commit, .call 2 .commit]

def streamsOf (as : List SlotAction) : List String :=
  as.filterMap fun
    | .ensure _ stream _ _ => some stream
    | .tick _ | .call .. => none

/-- Two tasks are in flight where one is allowed. -/
theorem both_reserved :
    ¬ ∀ (pool : SlotPool) (s t : SlotDesk) (as : List SlotAction), 0 < pool.maxInFlight → s.Quiet pool →
      (streamsOf as).Nodup → run (SlotDesk.step pool) s as = some t →
      pool.inFlight t.now t.leases ≤ pool.maxInFlight := by
  intro h
  have htwo : (run (SlotDesk.step onePool) emptySlots bothCountFirst).map
      (fun t => onePool.inFlight t.now t.leases) = some 2 := by decide +kernel
  obtain ⟨t, ht, hflight⟩ := map_eq_some_iff.mp htwo
  have hle := h onePool emptySlots t bothCountFirst (by decide) quiet_emptySlots (by decide) ht
  rw [hflight] at hle
  exact absurd hle (by decide)

end Leases

end ImmoApp
