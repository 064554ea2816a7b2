import Mathlib.Algebra.Order.Archimedean.Basic
import PaymentQueue.Gateway.BucketRuns

/-!
# Throttling and starvation

Throttling halves the burst ceiling down to a floor, and a token is granted
only when a whole one fits below the ceiling.  With a floor of at least one
token every throttled bucket grants again.  With a lower floor enough
throttling answers empty the bucket for ever, since only a granted call can
succeed and raise the ceiling.
-/

namespace PaymentQueue.Starvation

open Await AdaptiveTokenBucket

variable {bucket : AdaptiveTokenBucket} {params : TokenBucketParams}

/-- However late it is, some later call is granted a token. -/
def Grants (bucket : AdaptiveTokenBucket) : Prop :=
  ∀ now, ∃ later, now ≤ later ∧ (bucket.tryAcquire later).1 = true

/-- Calls of `tryAcquire`, `onThrottled`, `onSuccess` and `getState`. -/
def Steady (calls : List (Timed BucketOp)) : Prop :=
  ∀ call ∈ calls, call.op.isReconfigure = false

structure Positive (params : TokenBucketParams) : Prop where
  nominalRps : 0 < params.nominalRps
  burstFactor : 0 < params.burstFactor
  minRateFactor : 0 < params.minRateFactor
  minRateFactor_le : params.minRateFactor ≤ 1
  aiStepRps : 0 < params.aiStepRps
  /-- A fresh bucket can grant. -/
  fresh : 1 ≤ params.nominalRps * params.burstFactor

theorem Positive.nonnegative (positive : Positive params) :
    params.Nonnegative :=
  ⟨le_of_lt positive.nominalRps, le_of_lt positive.burstFactor,
    le_of_lt positive.minRateFactor, le_of_lt positive.aiStepRps⟩

/-- A bucket with a positive rate fills up to its ceiling. -/
theorem grants_of_burst (filled : bucket.Filled) (rate : 0 < bucket.rate)
    (burst : 1 ≤ bucket.burst) : Grants bucket := by
  intro now
  obtain ⟨wait, enough⟩ := exists_nat_ge (1000 / bucket.rate)
  obtain ⟨later, after, waited⟩ : ∃ later : Nat, now ≤ later ∧
      bucket.lastRefill + wait < later :=
    ⟨max now (bucket.lastRefill + wait + 1), Nat.le_max_left _ _,
      Nat.le_max_right _ _⟩
  refine ⟨later, after, ?_⟩
  have elapsed : (wait : ℚ) ≤ later - bucket.lastRefill := by
    have ordered : (bucket.lastRefill + wait : ℚ) ≤ later := by
      exact_mod_cast Nat.le_of_lt waited
    linarith
  have refilled : 1 ≤ (later - bucket.lastRefill : ℚ) / 1000 * bucket.rate := by
    rw [div_le_iff₀ rate] at enough
    calc (1 : ℚ) ≤ wait / 1000 * bucket.rate := by linarith
      _ ≤ (later - bucket.lastRefill : ℚ) / 1000 * bucket.rate := by gcongr
  have available : 1 ≤ (bucket.refill later).tokens := by
    rw [refill, if_neg (Nat.not_le_of_lt
      (Nat.lt_of_le_of_lt (Nat.le_add_right _ wait) waited))]
    exact le_min burst (by linarith [filled.tokens])
  simp [tryAcquire, available]

/-- Below a ceiling of one token nothing is ever granted. -/
theorem never_granted_of_burst (filled : bucket.Filled)
    (burst : bucket.burst < 1) (later : Time) :
    (bucket.tryAcquire later).1 = false := by
  rcases tryAcquire_cases later bucket with ⟨available, -⟩ | ⟨-, refused⟩
  · have capped := (filled.refill later).capped
    rw [refill_burst] at capped
    linarith
  · rw [refused]

/-- What the calls keep: the bucket is filled and above its floors, with its
first parameters. -/
structure Kept (params : TokenBucketParams) (bucket : AdaptiveTokenBucket) :
    Prop where
  filled : bucket.Filled
  above : bucket.AboveFloor
  params : bucket.params = params

theorem kept_after (positive : Positive params) (start : Time)
    {calls : List (Timed BucketOp)} (steady : Steady calls) :
    Kept params (after perform (create params start) calls) := by
  refine after_invariant (Kept params) ?_ ?_ steady
  · intro call bucket quiet kept
    refine ⟨kept.filled.perform call.time call.op
        (BucketOp.nonnegative_of_steady quiet),
      kept.above.perform kept.filled call.time quiet, ?_⟩
    rw [perform_params call.time quiet, kept.params]
  · exact ⟨.create positive.nonnegative start,
      aboveFloor_create positive.nonnegative positive.minRateFactor_le start,
      rfl⟩

/-- A number of throttling answers in a row. -/
def throttles (count : Nat) : List (Timed BucketOp) :=
  List.replicate count ⟨0, .onThrottled⟩

private theorem steady_throttles (count : Nat) : Steady (throttles count) := by
  intro call member
  rw [List.eq_of_mem_replicate member, BucketOp.isReconfigure]
  simp

private theorem burst_throttles_le (count : Nat) (bucket : AdaptiveTokenBucket)
    {ceiling : ℚ} (nonnegative : 0 ≤ bucket.burstFloor)
    (bounded : bucket.burst ≤ max bucket.burstFloor ceiling) :
    (after perform bucket (throttles count)).burst ≤
      max bucket.burstFloor (ceiling * (1 / 2) ^ count) := by
  induction count generalizing bucket ceiling with
  | zero => simpa [throttles, after] using bounded
  | succ count induction =>
      have halved : bucket.onThrottled.burst ≤
          max bucket.burstFloor (ceiling * (1 / 2)) := by
        refine max_le (le_max_left _ _) ?_
        rcases le_max_iff.mp bounded with floor | below
        · exact le_max_of_le_left (by linarith)
        · exact le_max_of_le_right (by linarith)
      have rest := induction bucket.onThrottled nonnegative halved
      rw [pow_succ', ← mul_assoc]
      exact rest

/-- The bucket keeps granting, whatever the calls, if and only if the floor
of the burst ceiling is a whole token. -/
theorem throttling_spares_iff (params : TokenBucketParams) (start : Time)
    (positive : Positive params) :
    (∀ calls, Steady calls →
      Grants (after perform (create params start) calls)) ↔
    1 ≤ params.nominalRps * params.minRateFactor * params.burstFactor := by
  constructor
  · intro spared
    by_contra low
    have capacity : 0 < params.nominalRps * params.burstFactor :=
      lt_of_lt_of_le zero_lt_one positive.fresh
    obtain ⟨count, small⟩ := exists_pow_lt_of_lt_one
      (inv_pos.mpr capacity) (by norm_num : (1 / 2 : ℚ) < 1)
    have kept := kept_after positive start (steady_throttles count)
    obtain ⟨later, -, granted⟩ :=
      spared (throttles count) (steady_throttles count) 0
    refine Bool.false_ne_true (Eq.trans (Eq.symm ?_) granted)
    apply never_granted_of_burst kept.filled
    have bound := burst_throttles_le count (create params start)
      (mul_nonneg (mul_nonneg positive.nonnegative.nominalRps
        positive.nonnegative.minRateFactor) positive.nonnegative.burstFactor)
      (le_max_right _ (params.nominalRps * params.burstFactor))
    refine lt_of_le_of_lt bound (max_lt (not_le.mp low) ?_)
    rwa [inv_eq_one_div, lt_div_iff₀ capacity, mul_comm] at small
  · intro floor calls steady
    obtain ⟨filled, above, same⟩ := kept_after positive start steady
    apply grants_of_burst filled
    · have rate := above.rate
      rw [same] at rate
      exact lt_of_lt_of_le
        (mul_pos positive.nominalRps positive.minRateFactor) rate
    · have burst := above.burst
      rw [burstFloor, same] at burst
      exact le_trans floor burst

/-- The default limits of `buildConfig` keep granting. -/
theorem throttling_spares_default :
    Positive ⟨20, 2, 1 / 4, 1, 15000⟩ ∧
      ∀ calls, Steady calls → Grants (after perform
        (create ⟨20, 2, 1 / 4, 1, 15000⟩ 0) calls) := by
  have positive : Positive ⟨20, 2, 1 / 4, 1, 15000⟩ :=
    ⟨by norm_num, by norm_num, by norm_num, by norm_num, by norm_num,
      by norm_num⟩
  refine ⟨positive, ?_⟩
  rw [throttling_spares_iff ⟨20, 2, 1 / 4, 1, 15000⟩ 0 positive]
  norm_num

/-- Limits that let a fresh bucket grant a single token: the call that takes
it is throttled, and no token is granted any more. -/
theorem throttling_starves :
    ¬ ∀ params : TokenBucketParams, Positive params →
      ∀ calls, Steady calls →
        ∃ later, (after perform (create params 0) calls).lastRefill ≤ later ∧
          ((after perform (create params 0) calls).tryAcquire later).1 =
            true := by
  intro spared
  have positive : Positive ⟨2, 1 / 2, 1 / 4, 1, 15000⟩ :=
    ⟨by norm_num, by norm_num, by norm_num, by norm_num, by norm_num,
      by norm_num⟩
  have steady : Steady [⟨0, .tryAcquire⟩, ⟨40, .onThrottled⟩] := by
    simp [Steady, BucketOp.isReconfigure]
  obtain ⟨later, -, granted⟩ := spared _ positive _ steady
  have kept := kept_after positive 0 steady
  have low := never_granted_of_burst kept.filled (by decide +kernel) later
  rw [granted] at low
  cases low

end PaymentQueue.Starvation
