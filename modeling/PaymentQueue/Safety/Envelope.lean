import Mathlib.Algebra.Order.Floor.Ring
import Mathlib.Data.Rat.Floor
import PaymentQueue.Gateway.BucketRuns

/-!
# The AIMD envelope

Rate and burst ceiling are lowered and raised by clamps of their own, and
nevertheless stay proportional: the ceiling is `burstFactor` times the rate in
every state.  The rate stays between its floor and the nominal rate, and
successes alone bring both back to nominal after a number of calls that the
distance determines, whatever is acquired in between.
-/

namespace PaymentQueue.Envelope

open Await AdaptiveTokenBucket

/-- The bounds on the parameters of a bucket. -/
structure Bounded (params : TokenBucketParams) : Prop where
  nominalRps : 0 < params.nominalRps
  burstFactor : 0 < params.burstFactor
  minRateFactor : 0 < params.minRateFactor
  minRateFactor_le : params.minRateFactor ≤ 1
  aiStepRps : 0 < params.aiStepRps

/-- Every reconfiguration brings parameters within the bounds. -/
def Admitted : BucketOp → Prop
  | .reconfigure params => Bounded params
  | _ => True

/-- A call that may stand between two successes of a recovery. -/
def Recovering : BucketOp → Prop
  | .tryAcquire | .getState | .onSuccess => True
  | .onThrottled | .reconfigure _ => False

/-- The limits of rate, burst ceiling and tokens. -/
structure Enveloped (bucket : AdaptiveTokenBucket) : Prop where
  floor : bucket.params.nominalRps * bucket.params.minRateFactor ≤ bucket.rate
  ceiling : bucket.rate ≤ bucket.params.nominalRps
  burst : bucket.burst = bucket.params.burstFactor * bucket.rate
  tokens : 0 ≤ bucket.tokens
  capped : bucket.tokens ≤ bucket.burst

/-- Rate and burst ceiling are those of a fresh bucket. -/
def Nominal (bucket : AdaptiveTokenBucket) : Prop :=
  bucket.rate = bucket.params.nominalRps ∧
    bucket.burst = bucket.params.nominalRps * bucket.params.burstFactor

/-- How many successes are missing. -/
def missing (bucket : AdaptiveTokenBucket) : Nat :=
  ⌈(bucket.params.nominalRps - bucket.rate) / bucket.params.aiStepRps⌉₊

def successes (calls : List (Timed BucketOp)) : Nat :=
  calls.countP fun call => call.op = .onSuccess

variable {bucket : AdaptiveTokenBucket} {params : TokenBucketParams}
  {now : Time}

theorem Bounded.nonnegative (bounded : Bounded params) :
    params.Nonnegative :=
  ⟨le_of_lt bounded.nominalRps, le_of_lt bounded.burstFactor,
    le_of_lt bounded.minRateFactor, le_of_lt bounded.aiStepRps⟩

private theorem burst_onThrottled (bounded : Bounded bucket.params)
    (proportional : bucket.burst = bucket.params.burstFactor * bucket.rate) :
    bucket.onThrottled.burst =
      bucket.params.burstFactor * bucket.onThrottled.rate := by
  have factor := le_of_lt bounded.burstFactor
  simp only [AdaptiveTokenBucket.onThrottled]
  rw [proportional, mul_max_of_nonneg _ _ factor]
  congr 1
  · exact mul_comm _ _
  · exact mul_assoc _ _ _

private theorem burst_lt_iff (bounded : Bounded bucket.params)
    (proportional : bucket.burst = bucket.params.burstFactor * bucket.rate) :
    bucket.burst < bucket.params.nominalRps * bucket.params.burstFactor ↔
      bucket.rate < bucket.params.nominalRps := by
  rw [proportional, mul_comm bucket.params.nominalRps]
  exact mul_lt_mul_iff_right₀ bounded.burstFactor

private theorem burst_onSuccess (bounded : Bounded bucket.params)
    (proportional : bucket.burst = bucket.params.burstFactor * bucket.rate) :
    bucket.onSuccess.burst =
      bucket.params.burstFactor * bucket.onSuccess.rate := by
  have factor := le_of_lt bounded.burstFactor
  have below := burst_lt_iff bounded proportional
  by_cases low : bucket.rate < bucket.params.nominalRps
  · simp only [AdaptiveTokenBucket.onSuccess, if_pos low,
      if_pos (below.mpr low)]
    rw [proportional, mul_min_of_nonneg _ _ factor]
    congr 1
    · exact mul_comm _ _
    · ring
  · simp only [AdaptiveTokenBucket.onSuccess, if_neg low,
      if_neg (mt below.mp low)]
    exact proportional

theorem Enveloped.filled (enveloped : Enveloped bucket)
    (bounded : Bounded bucket.params) : bucket.Filled := by
  refine ⟨bounded.nonnegative, ?_, enveloped.tokens, enveloped.capped⟩
  have floor := mul_pos bounded.nominalRps bounded.minRateFactor
  exact le_trans (le_of_lt floor) enveloped.floor

private theorem enveloped_fresh (bounded : Bounded params)
    (fresh : bucket.params = params ∧ bucket.rate = params.nominalRps ∧
      bucket.burst = params.nominalRps * params.burstFactor ∧
      bucket.tokens = params.nominalRps * params.burstFactor) :
    Enveloped bucket := by
  obtain ⟨rfl, rate, burst, tokens⟩ := fresh
  constructor
  · rw [rate]
    exact mul_le_of_le_one_right (le_of_lt bounded.nominalRps)
      bounded.minRateFactor_le
  · exact le_of_eq rate
  · rw [burst, rate, mul_comm]
  · rw [tokens]
    exact le_of_lt (mul_pos bounded.nominalRps bounded.burstFactor)
  · rw [tokens, burst]

/-- Acquiring and observing leave the two limits where they are. -/
theorem Enveloped.of_filled {next : AdaptiveTokenBucket}
    (enveloped : Enveloped bucket) (filled : next.Filled)
    (params : next.params = bucket.params) (rate : next.rate = bucket.rate)
    (burst : next.burst = bucket.burst) : Enveloped next := by
  constructor
  · rw [params, rate]
    exact enveloped.floor
  · rw [params, rate]
    exact enveloped.ceiling
  · rw [params, rate, burst]
    exact enveloped.burst
  · exact filled.tokens
  · exact filled.capped

theorem Enveloped.onThrottled (enveloped : Enveloped bucket)
    (bounded : Bounded bucket.params) : Enveloped bucket.onThrottled := by
  have filled := enveloped.filled bounded
  constructor
  · exact le_max_left _ _
  · apply max_le
    · exact mul_le_of_le_one_right (le_of_lt bounded.nominalRps)
        bounded.minRateFactor_le
    · have halved : bucket.rate * (1 / 2) ≤ bucket.rate := by
        linarith [filled.rate]
      exact le_trans halved enveloped.ceiling
  · exact burst_onThrottled bounded enveloped.burst
  · exact filled.onThrottled.tokens
  · exact filled.onThrottled.capped

/-- One success is one step, cut off at the nominal rate. -/
theorem rate_onSuccess (bounded : Bounded bucket.params)
    (ceiling : bucket.rate ≤ bucket.params.nominalRps) :
    bucket.onSuccess.rate = min bucket.params.nominalRps
      (bucket.rate + bucket.params.aiStepRps) := by
  by_cases low : bucket.rate < bucket.params.nominalRps
  · simp only [AdaptiveTokenBucket.onSuccess, if_pos low]
  · have full : bucket.rate = bucket.params.nominalRps :=
      le_antisymm ceiling (not_lt.mp low)
    simp only [AdaptiveTokenBucket.onSuccess, if_neg low]
    rw [full, min_eq_left]
    linarith [bounded.aiStepRps]

theorem Enveloped.onSuccess (enveloped : Enveloped bucket)
    (bounded : Bounded bucket.params) : Enveloped bucket.onSuccess := by
  have filled := enveloped.filled bounded
  constructor
  · exact le_trans enveloped.floor (le_onSuccess_rate filled.params)
  · rw [rate_onSuccess bounded enveloped.ceiling]
    exact min_le_left _ _
  · exact burst_onSuccess bounded enveloped.burst
  · exact filled.onSuccess.tokens
  · exact filled.onSuccess.capped

/-- A call keeps the envelope and leaves parameters within the bounds. -/
theorem Enveloped.perform (enveloped : Enveloped bucket)
    (bounded : Bounded bucket.params) (now : Time) {op : BucketOp}
    (admitted : Admitted op) :
    Bounded (perform now op bucket).2.params ∧
      Enveloped (perform now op bucket).2 := by
  have filled := enveloped.filled bounded
  cases op with
  | tryAcquire =>
      obtain ⟨params, rate, burst⟩ := tryAcquire_frame now bucket
      refine ⟨?_, enveloped.of_filled (filled.tryAcquire now) params rate
        burst⟩
      rw [AdaptiveTokenBucket.perform, params]
      exact bounded
  | getState =>
      refine ⟨?_, enveloped.of_filled (filled.refill now)
        (refill_params now bucket) (refill_rate now bucket)
        (refill_burst now bucket)⟩
      simpa [AdaptiveTokenBucket.perform, getState] using bounded
  | onThrottled => exact ⟨bounded, enveloped.onThrottled bounded⟩
  | onSuccess => exact ⟨bounded, enveloped.onSuccess bounded⟩
  | reconfigure params =>
      exact ⟨admitted, enveloped_fresh admitted ⟨rfl, rfl, rfl, rfl⟩⟩

private theorem enveloped_after (bounded : Bounded bucket.params)
    (enveloped : Enveloped bucket) {calls : List (Timed BucketOp)}
    (admitted : ∀ call ∈ calls, Admitted call.op) :
    Bounded (after perform bucket calls).params ∧
      Enveloped (after perform bucket calls) := by
  apply after_invariant
    (fun state => Bounded state.params ∧ Enveloped state) ?_
    ⟨bounded, enveloped⟩ admitted
  intro call state allowed kept
  exact kept.2.perform kept.1 call.time allowed

theorem Recovering.admitted {op : BucketOp} (recovering : Recovering op) :
    Admitted op := by
  cases op with
  | tryAcquire | getState | onSuccess => trivial
  | onThrottled | reconfigure _ => exact recovering.elim

theorem Recovering.steady {op : BucketOp} (recovering : Recovering op) :
    op.isReconfigure = false := by
  cases op with
  | tryAcquire | getState | onThrottled | onSuccess => rfl
  | reconfigure _ => exact recovering.elim

/-- The rate after some calls depends on the number of successes only. -/
theorem rate_recovering (bounded : Bounded bucket.params)
    (enveloped : Enveloped bucket) {calls : List (Timed BucketOp)}
    (recovering : ∀ call ∈ calls, Recovering call.op) :
    (after perform bucket calls).params = bucket.params ∧
      (after perform bucket calls).rate = min bucket.params.nominalRps
        (bucket.rate + successes calls * bucket.params.aiStepRps) := by
  induction calls generalizing bucket with
  | nil =>
      refine ⟨rfl, ?_⟩
      simp [after, successes, enveloped.ceiling]
  | cons call calls induction =>
      have first := recovering call (by simp)
      have same := perform_params call.time first.steady bucket
      obtain ⟨bounded', enveloped'⟩ :=
        enveloped.perform bounded call.time first.admitted
      obtain ⟨params, rate⟩ := induction bounded' enveloped'
        fun later member => recovering later (List.mem_cons_of_mem _ member)
      rw [same] at params rate
      refine ⟨params, rate.trans ?_⟩
      obtain ⟨time, op⟩ := call
      cases op with
      | tryAcquire =>
          obtain ⟨-, sameRate, -⟩ := tryAcquire_frame time bucket
          simp [successes, AdaptiveTokenBucket.perform, sameRate]
      | getState =>
          simp [successes, AdaptiveTokenBucket.perform, getState]
      | onSuccess =>
          have step := rate_onSuccess bounded enveloped.ceiling
          have positive := bounded.aiStepRps
          have counted : 0 ≤ (successes calls : ℚ) *
              bucket.params.aiStepRps := by positivity
          have total : (successes (⟨time, .onSuccess⟩ :: calls) : ℚ) =
              successes calls + 1 := by simp [successes]
          rw [AdaptiveTokenBucket.perform, step, total, min_add, ← min_assoc,
            min_eq_left (by linarith : bucket.params.nominalRps ≤ _)]
          congr 1
          ring
      | onThrottled | reconfigure _ => exact first.elim

private theorem nominal_iff (enveloped : Enveloped bucket) :
    Nominal bucket ↔ bucket.params.nominalRps ≤ bucket.rate := by
  constructor
  · intro nominal
    exact le_of_eq nominal.1.symm
  · intro reached
    have rate := le_antisymm enveloped.ceiling reached
    refine ⟨rate, ?_⟩
    rw [enveloped.burst, rate, mul_comm]

private theorem nominal_after_iff (bounded : Bounded bucket.params)
    (enveloped : Enveloped bucket) {calls : List (Timed BucketOp)}
    (recovering : ∀ call ∈ calls, Recovering call.op) :
    Nominal (after perform bucket calls) ↔
      missing bucket ≤ successes calls := by
  obtain ⟨params, rate⟩ := rate_recovering bounded enveloped recovering
  obtain ⟨-, recovered⟩ := enveloped_after bounded enveloped
    fun call member => (recovering call member).admitted
  rw [nominal_iff recovered, params, rate, missing, Nat.ceil_le,
    div_le_iff₀ bounded.aiStepRps, le_min_iff, sub_le_iff_le_add']
  simp

/-- In every state that a bucket reaches, at every clock value that no call is
later than, rate, burst ceiling, tokens and refill clock are within their
limits; and from there a recovery needs the missing successes and no more. -/
theorem aimd_envelope (bounded : Bounded params) {start now : Time}
    (started : start ≤ now) {calls : List (Timed BucketOp)}
    (reached : ∀ call ∈ calls, call.time ≤ now)
    (admitted : ∀ call ∈ calls, Admitted call.op) :
    Enveloped (after perform (create params start) calls) ∧
      (after perform (create params start) calls).lastRefill ≤ now ∧
      ∀ recovery : List (Timed BucketOp),
        (∀ call ∈ recovery, Recovering call.op) →
        (Nominal (after perform (create params start) (calls ++ recovery)) ↔
          missing (after perform (create params start) calls) ≤
            successes recovery) := by
  have fresh : Enveloped (create params start) :=
    enveloped_fresh bounded ⟨rfl, rfl, rfl, rfl⟩
  obtain ⟨bounded', enveloped⟩ := enveloped_after bounded fresh admitted
  refine ⟨enveloped, lastRefill_after_le started reached, ?_⟩
  intro recovery recovering
  rw [after_append]
  exact nominal_after_iff bounded' enveloped recovering

def quarterSteps : TokenBucketParams := ⟨2, 2, 1 / 10, 1 / 4, 15000⟩

def throttledTwice : List (Timed BucketOp) :=
  [⟨10, .onThrottled⟩, ⟨20, .tryAcquire⟩, ⟨30, .onThrottled⟩]

theorem aimd_envelope_throttledTwice :
    Enveloped (after perform (create quarterSteps 0) throttledTwice) ∧
      (after perform (create quarterSteps 0) throttledTwice).lastRefill ≤ 40 ∧
      ∀ recovery : List (Timed BucketOp),
        (∀ call ∈ recovery, Recovering call.op) →
        (Nominal (after perform (create quarterSteps 0)
            (throttledTwice ++ recovery)) ↔
          missing (after perform (create quarterSteps 0) throttledTwice) ≤
            successes recovery) :=
  aimd_envelope
    (by constructor <;> norm_num [quarterSteps])
    (by decide) (by decide) (by simp [throttledTwice, Admitted])

end PaymentQueue.Envelope
