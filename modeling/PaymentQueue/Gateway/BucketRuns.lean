import Mathlib.Tactic.Linarith
import Mathlib.Tactic.Positivity
import PaymentQueue.Await.Timed
import PaymentQueue.Gateway.TokenBucket

/-!
# Runs of the token bucket

The methods of `AdaptiveTokenBucket` as calls at clock values, and what they
keep: nonnegative rate and tokens, tokens below the burst ceiling, and rate
and ceiling between their AIMD limits.
-/

namespace PaymentQueue

open Await

/-- A method of the bucket. -/
inductive BucketOp where
  | tryAcquire
  | getState
  | onThrottled
  | onSuccess
  | reconfigure (params : TokenBucketParams)
  deriving DecidableEq

def BucketOp.isReconfigure : BucketOp → Bool
  | reconfigure _ => true
  | _ => false

namespace AdaptiveTokenBucket

/-- The answer is `true` for a token that was granted. -/
def perform (now : Time) : BucketOp → AdaptiveTokenBucket →
    Bool × AdaptiveTokenBucket
  | .tryAcquire, bucket => bucket.tryAcquire now
  | .getState, bucket => (false, (bucket.getState now).2)
  | .onThrottled, bucket => (false, bucket.onThrottled)
  | .onSuccess, bucket => (false, bucket.onSuccess)
  | .reconfigure params, bucket => (false, bucket.reconfigure params)

end AdaptiveTokenBucket

structure TokenBucketParams.Nonnegative (params : TokenBucketParams) :
    Prop where
  nominalRps : 0 ≤ params.nominalRps
  burstFactor : 0 ≤ params.burstFactor
  minRateFactor : 0 ≤ params.minRateFactor
  aiStepRps : 0 ≤ params.aiStepRps

/-- Every reconfiguration brings nonnegative parameters. -/
def BucketOp.Nonnegative : BucketOp → Prop
  | reconfigure params => params.Nonnegative
  | _ => True

theorem BucketOp.nonnegative_of_steady {op : BucketOp}
    (steady : op.isReconfigure = false) : op.Nonnegative := by
  cases op with
  | reconfigure params => cases steady
  | tryAcquire | getState | onThrottled | onSuccess => trivial

namespace AdaptiveTokenBucket

/-- The smallest burst ceiling that throttling leaves. -/
def burstFloor (bucket : AdaptiveTokenBucket) : ℚ :=
  bucket.params.nominalRps * bucket.params.minRateFactor *
    bucket.params.burstFactor

structure Filled (bucket : AdaptiveTokenBucket) : Prop where
  params : bucket.params.Nonnegative
  rate : 0 ≤ bucket.rate
  tokens : 0 ≤ bucket.tokens
  capped : bucket.tokens ≤ bucket.burst

variable {bucket : AdaptiveTokenBucket} {now : Time}

@[simp] theorem refill_params (now : Time) (bucket : AdaptiveTokenBucket) :
    (bucket.refill now).params = bucket.params := by
  rw [refill]
  split <;> simp

@[simp] theorem refill_rate (now : Time) (bucket : AdaptiveTokenBucket) :
    (bucket.refill now).rate = bucket.rate := by
  rw [refill]
  split <;> simp

@[simp] theorem refill_burst (now : Time) (bucket : AdaptiveTokenBucket) :
    (bucket.refill now).burst = bucket.burst := by
  rw [refill]
  split <;> simp

/-- The bucket has been refilled up to the later of the two times. -/
theorem refill_lastRefill (now : Time) (bucket : AdaptiveTokenBucket) :
    (bucket.refill now).lastRefill = max bucket.lastRefill now := by
  rw [refill]
  split
  · rename_i early
    exact (Nat.max_eq_left early).symm
  · rename_i late
    exact (Nat.max_eq_right (Nat.le_of_not_le late)).symm

theorem refill_of_le (early : now ≤ bucket.lastRefill) :
    bucket.refill now = bucket := by
  rw [refill, if_pos early]

theorem refill_of_lt (late : bucket.lastRefill < now) :
    bucket.refill now =
      { bucket with
        tokens := min bucket.burst
          (bucket.tokens + ((now - bucket.lastRefill : ℚ) / 1000) * bucket.rate)
        lastRefill := now } := by
  rw [refill, if_neg (Nat.not_le_of_lt late)]

/-- The ceiling does not have to be applied in between. -/
theorem min_credit {burst tokens rate first second : ℚ}
    (capped : tokens ≤ burst) (begun : 0 ≤ first) (ended : 0 ≤ second) :
    min burst (min burst (tokens + first * rate) + second * rate) =
      min burst (tokens + (first + second) * rate) := by
  have total : tokens + (first + second) * rate =
      tokens + first * rate + second * rate := by
    rw [add_mul, add_assoc]
  rw [total]
  rcases le_total 0 rate with rising | falling
  · have credit : 0 ≤ second * rate := mul_nonneg ended rising
    rcases le_total burst (tokens + first * rate) with full | free
    · rw [min_eq_left full, min_eq_left (by linarith),
        min_eq_left (by linarith)]
    · rw [min_eq_right free]
  · have debit : first * rate ≤ 0 :=
      mul_nonpos_of_nonneg_of_nonpos begun falling
    rw [min_eq_right (by linarith : tokens + first * rate ≤ burst)]

/-- Refilling twice credits the same as refilling once. -/
theorem refill_refill {time : Time} (capped : bucket.tokens ≤ bucket.burst)
    (later : time ≤ now) :
    (bucket.refill time).refill now = bucket.refill now := by
  by_cases early : time ≤ bucket.lastRefill
  · rw [refill_of_le early]
  have between : bucket.lastRefill < time := Nat.lt_of_not_le early
  by_cases same : now ≤ time
  · obtain rfl := Nat.le_antisymm later same
    apply refill_of_le
    rw [refill_lastRefill]
    exact Nat.le_max_right _ _
  have first : (bucket.lastRefill : ℚ) ≤ time :=
    Nat.cast_le.mpr (Nat.le_of_lt between)
  have second : (time : ℚ) ≤ now := Nat.cast_le.mpr later
  have credited := @min_credit _ _ bucket.rate _ _ capped
    (div_nonneg (sub_nonneg.mpr first) (by norm_num : (0 : ℚ) ≤ 1000))
    (div_nonneg (sub_nonneg.mpr second) (by norm_num : (0 : ℚ) ≤ 1000))
  rw [← add_div, sub_add_sub_cancel'] at credited
  rw [refill_of_lt between, refill_of_lt (Nat.lt_of_not_le same),
    refill_of_lt (Nat.lt_of_lt_of_le between later), credited]

/-- A call takes a token from the refilled bucket, or leaves it so. -/
theorem tryAcquire_cases (now : Time) (bucket : AdaptiveTokenBucket) :
    (1 ≤ (bucket.refill now).tokens ∧ bucket.tryAcquire now =
      (true, { bucket.refill now with
        tokens := (bucket.refill now).tokens - 1 })) ∨
    ((bucket.refill now).tokens < 1 ∧
      bucket.tryAcquire now = (false, bucket.refill now)) := by
  by_cases available : 1 ≤ (bucket.refill now).tokens
  · exact .inl ⟨available, by simp [tryAcquire, available]⟩
  · exact .inr ⟨not_le.mp available, by simp [tryAcquire, available]⟩

theorem Filled.burst (filled : bucket.Filled) : 0 ≤ bucket.burst :=
  le_trans filled.tokens filled.capped

theorem Filled.elapsed (filled : bucket.Filled)
    (later : bucket.lastRefill < now) :
    0 ≤ ((now : ℚ) - bucket.lastRefill) / 1000 * bucket.rate := by
  have ordered : (bucket.lastRefill : ℚ) ≤ now :=
    Nat.cast_le.mpr (Nat.le_of_lt later)
  have nonnegative : 0 ≤ (now : ℚ) - bucket.lastRefill := by linarith
  have rate := filled.rate
  positivity

theorem Filled.refill (filled : bucket.Filled) (now : Time) :
    (bucket.refill now).Filled := by
  rw [AdaptiveTokenBucket.refill]
  split
  · exact filled
  · rename_i later
    have elapsed := filled.elapsed (Nat.lt_of_not_le later)
    refine ⟨filled.params, filled.rate, ?_, min_le_left _ _⟩
    exact le_min filled.burst (by linarith [filled.tokens])

theorem Filled.create {params : TokenBucketParams}
    (nonnegative : params.Nonnegative) (now : Time) :
    (create params now).Filled :=
  ⟨nonnegative, nonnegative.nominalRps,
    mul_nonneg nonnegative.nominalRps nonnegative.burstFactor, le_refl _⟩

theorem Filled.tryAcquire (filled : bucket.Filled) (now : Time) :
    (bucket.tryAcquire now).2.Filled := by
  have refilled := filled.refill now
  rcases tryAcquire_cases now bucket with
    ⟨available, granted⟩ | ⟨-, refused⟩
  · rw [granted]
    refine ⟨refilled.params, refilled.rate, sub_nonneg.mpr available, ?_⟩
    exact le_trans (sub_le_self _ zero_le_one) refilled.capped
  · rw [refused]
    exact refilled

theorem Filled.onThrottled (filled : bucket.Filled) :
    bucket.onThrottled.Filled := by
  have burst := filled.burst
  have rate := filled.rate
  refine ⟨filled.params, ?_, ?_, min_le_right _ _⟩
  · exact le_max_of_le_right (by linarith)
  · exact le_min filled.tokens (le_max_of_le_right (by linarith))

/-- Success never lowers the rate. -/
theorem le_onSuccess_rate (nonnegative : bucket.params.Nonnegative) :
    bucket.rate ≤ bucket.onSuccess.rate := by
  simp only [AdaptiveTokenBucket.onSuccess]
  split
  · rename_i below
    exact le_min (le_of_lt below) (by linarith [nonnegative.aiStepRps])
  · exact le_refl _

/-- Success never lowers the burst ceiling. -/
theorem le_onSuccess_burst (nonnegative : bucket.params.Nonnegative) :
    bucket.burst ≤ bucket.onSuccess.burst := by
  simp only [AdaptiveTokenBucket.onSuccess]
  split
  · rename_i below
    have step := mul_nonneg nonnegative.aiStepRps nonnegative.burstFactor
    exact le_min (le_of_lt below) (by linarith)
  · exact le_refl _

theorem Filled.onSuccess (filled : bucket.Filled) :
    bucket.onSuccess.Filled := by
  have burst := le_onSuccess_burst filled.params
  refine ⟨filled.params, ?_, ?_, min_le_right _ _⟩
  · exact le_trans filled.rate (le_onSuccess_rate filled.params)
  · exact le_min filled.tokens (le_trans filled.burst burst)

theorem Filled.perform (filled : bucket.Filled) (now : Time) (op : BucketOp)
    (nonnegative : op.Nonnegative) : (perform now op bucket).2.Filled := by
  cases op with
  | tryAcquire => exact filled.tryAcquire now
  | getState => exact filled.refill now
  | onThrottled => exact filled.onThrottled
  | onSuccess => exact filled.onSuccess
  | reconfigure params =>
      obtain ⟨-, rate, tokens, capped⟩ := Filled.create nonnegative now
      exact ⟨nonnegative, rate, tokens, capped⟩

/-- Acquiring and observing change only the tokens. -/
theorem tryAcquire_frame (now : Time) (bucket : AdaptiveTokenBucket) :
    (bucket.tryAcquire now).2.params = bucket.params ∧
      (bucket.tryAcquire now).2.rate = bucket.rate ∧
      (bucket.tryAcquire now).2.burst = bucket.burst := by
  rcases tryAcquire_cases now bucket with ⟨-, granted⟩ | ⟨-, refused⟩
  · simp [granted]
  · simp [refused]

/-- Only a reconfiguration changes the parameters. -/
theorem perform_params (now : Time) {op : BucketOp}
    (steady : op.isReconfigure = false) (bucket : AdaptiveTokenBucket) :
    (perform now op bucket).2.params = bucket.params := by
  cases op with
  | tryAcquire => exact (tryAcquire_frame now bucket).1
  | getState => simp [perform, AdaptiveTokenBucket.getState]
  | onThrottled => simp [perform, AdaptiveTokenBucket.onThrottled]
  | onSuccess => simp [perform, AdaptiveTokenBucket.onSuccess]
  | reconfigure params => cases steady

/-- No call moves the refill clock past its own time. -/
theorem perform_lastRefill (now : Time) (op : BucketOp)
    (bucket : AdaptiveTokenBucket) :
    (perform now op bucket).2.lastRefill ≤ max bucket.lastRefill now := by
  cases op with
  | tryAcquire =>
      rcases tryAcquire_cases now bucket with ⟨-, taken⟩ | ⟨-, refused⟩
      · rw [perform, taken]
        exact Nat.le_of_eq (refill_lastRefill now bucket)
      · rw [perform, refused]
        exact Nat.le_of_eq (refill_lastRefill now bucket)
  | getState => exact Nat.le_of_eq (refill_lastRefill now bucket)
  | onThrottled | onSuccess | reconfigure _ => exact Nat.le_max_left _ _

/-- The bucket has been refilled before the calls that follow. -/
theorem lastRefill_after_le {last : Time} {calls : List (Timed BucketOp)}
    (fresh : bucket.lastRefill ≤ last)
    (early : ∀ call ∈ calls, call.time ≤ last) :
    (after perform bucket calls).lastRefill ≤ last := by
  refine after_invariant (fun passed : AdaptiveTokenBucket =>
    passed.lastRefill ≤ last) ?_ fresh early
  intro call bucket inTime fresh
  exact Nat.le_trans (perform_lastRefill _ _ _)
    (Nat.max_le.mpr ⟨fresh, inTime⟩)

/-- Throttling stops at the floors. -/
structure AboveFloor (bucket : AdaptiveTokenBucket) : Prop where
  rate : bucket.params.nominalRps * bucket.params.minRateFactor ≤ bucket.rate
  burst : bucket.burstFloor ≤ bucket.burst

/-- Success stops at the nominal rate. -/
structure BelowNominal (bucket : AdaptiveTokenBucket) : Prop where
  rate : bucket.rate ≤ bucket.params.nominalRps
  burst : bucket.burst ≤
    bucket.params.nominalRps * bucket.params.burstFactor

theorem aboveFloor_create {params : TokenBucketParams}
    (nonnegative : params.Nonnegative) (lower : params.minRateFactor ≤ 1)
    (now : Time) : (create params now).AboveFloor := by
  obtain ⟨nominalRps, burstFactor, -, -⟩ := nonnegative
  have rate : params.nominalRps * params.minRateFactor ≤
      params.nominalRps := mul_le_of_le_one_right nominalRps lower
  exact ⟨rate, mul_le_mul_of_nonneg_right rate burstFactor⟩

theorem AboveFloor.onThrottled (bucket : AdaptiveTokenBucket) :
    bucket.onThrottled.AboveFloor :=
  ⟨le_max_left _ _, le_max_left _ _⟩

theorem AboveFloor.perform (above : bucket.AboveFloor)
    (filled : bucket.Filled) (now : Time) {op : BucketOp}
    (steady : op.isReconfigure = false) :
    (perform now op bucket).2.AboveFloor := by
  obtain ⟨rate, burst⟩ := above
  cases op with
  | tryAcquire =>
      obtain ⟨params, sameRate, sameBurst⟩ := tryAcquire_frame now bucket
      constructor
      · rwa [AdaptiveTokenBucket.perform, params, sameRate]
      · rwa [AdaptiveTokenBucket.perform, burstFloor, params, sameBurst]
  | getState =>
      simp only [AdaptiveTokenBucket.perform, AdaptiveTokenBucket.getState]
      exact ⟨by simpa using rate, by simpa [burstFloor] using burst⟩
  | onThrottled => exact AboveFloor.onThrottled bucket
  | onSuccess =>
      exact ⟨le_trans rate (le_onSuccess_rate filled.params),
        le_trans burst (le_onSuccess_burst filled.params)⟩
  | reconfigure params => cases steady

theorem BelowNominal.perform (below : bucket.BelowNominal)
    (filled : bucket.Filled) (lower : bucket.params.minRateFactor ≤ 1)
    (now : Time) (op : BucketOp) : (perform now op bucket).2.BelowNominal := by
  obtain ⟨nominalRps, burstFactor, -, -⟩ := filled.params
  obtain ⟨rate, burst⟩ := below
  cases op with
  | tryAcquire =>
      obtain ⟨params, sameRate, sameBurst⟩ := tryAcquire_frame now bucket
      constructor
      · rwa [AdaptiveTokenBucket.perform, params, sameRate]
      · rwa [AdaptiveTokenBucket.perform, params, sameBurst]
  | getState =>
      simp only [AdaptiveTokenBucket.perform, AdaptiveTokenBucket.getState]
      exact ⟨by simpa using rate, by simpa using burst⟩
  | onThrottled =>
      have floor := mul_le_of_le_one_right nominalRps lower
      have half : bucket.rate * (1 / 2) ≤ bucket.params.nominalRps := by
        linarith [filled.rate]
      have halfBurst : bucket.burst * (1 / 2) ≤
          bucket.params.nominalRps * bucket.params.burstFactor := by
        linarith [filled.burst]
      exact ⟨max_le floor half,
        max_le (mul_le_mul_of_nonneg_right floor burstFactor) halfBurst⟩
  | onSuccess =>
      constructor
      · simp only [AdaptiveTokenBucket.perform, AdaptiveTokenBucket.onSuccess]
        split
        · exact min_le_left _ _
        · exact rate
      · simp only [AdaptiveTokenBucket.perform, AdaptiveTokenBucket.onSuccess]
        split
        · exact min_le_left _ _
        · exact burst
  | reconfigure params => exact ⟨le_refl _, le_refl _⟩

end AdaptiveTokenBucket

end PaymentQueue
