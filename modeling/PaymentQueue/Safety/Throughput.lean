import Mathlib.Data.List.TakeWhile
import PaymentQueue.Gateway.BucketRuns

/-!
# Throughput of the token bucket

How many calls the bucket grants in an interval of time.  Refilling is lazy
and credits the whole elapsed period at the rate of the moment, so the bound
is a potential argument: the tokens granted since the interval began, together
with those left, never exceed the largest ceiling and what the largest rate
has brought since.
-/

namespace PaymentQueue.Throughput

open Await AdaptiveTokenBucket

/-- The calls before the interval that opens at `first`. -/
def before (first : Time) (calls : List (Timed BucketOp)) :
    List (Timed BucketOp) :=
  calls.takeWhile fun call => decide (call.time < first)

/-- The calls in the interval from `first` to `last`. -/
def inside (first last : Time) (calls : List (Timed BucketOp)) :
    List (Timed BucketOp) :=
  (calls.dropWhile fun call => decide (call.time < first)).takeWhile
    fun call => decide (call.time ≤ last)

/-- The number of granted calls. -/
def granted (bucket : AdaptiveTokenBucket) (calls : List (Timed BucketOp)) :
    Nat :=
  (answers perform bucket calls).countP fun answered => answered.2

/-- The largest value of a measure on the way. -/
def peak (measure : AdaptiveTokenBucket → ℚ) (bucket : AdaptiveTokenBucket)
    (calls : List (Timed BucketOp)) : ℚ :=
  (trail perform bucket calls).foldr
    (fun passed top => max (measure passed) top) (measure bucket)

/-- The most that the ceiling and the rate can bring in the interval. -/
def allowance (ceiling rate : ℚ) (first last : Time) : ℚ :=
  ceiling + rate * ((last : ℚ) - first) / 1000

section Interval

variable {calls : List (Timed BucketOp)} {first last start : Time}
  {call : Timed BucketOp}

theorem mem_before (member : call ∈ before first calls) :
    call ∈ calls ∧ call.time < first := by
  have early := List.mem_takeWhile_imp member
  exact ⟨List.takeWhile_prefix _ |>.subset member, by simpa using early⟩

theorem mem_inside (member : call ∈ inside first last calls) :
    call ∈ calls ∧ call.time ≤ last := by
  have late := List.mem_takeWhile_imp member
  have kept := List.takeWhile_prefix _ |>.subset member
  exact ⟨List.dropWhile_suffix _ |>.subset kept, by simpa using late⟩

/-- The clock has reached the interval. -/
theorem le_of_mem_inside (clocked : Clocked start calls)
    (member : call ∈ inside first last calls) : first ≤ call.time := by
  have kept := List.takeWhile_prefix _ |>.subset member
  induction calls generalizing start with
  | nil => simp [inside] at member
  | cons head calls induction =>
      by_cases early : head.time < first
      · rw [inside, List.dropWhile_cons_of_pos (by simpa using early)] at member
        rw [List.dropWhile_cons_of_pos (by simpa using early)] at kept
        exact induction clocked.2 member kept
      · rw [List.dropWhile_cons_of_neg (by simpa using early)] at kept
        have reached := Nat.le_of_not_lt early
        cases kept with
        | head => exact reached
        | tail _ kept =>
            exact Nat.le_trans reached (clocked.2.le_time call kept)

end Interval

section Potential

variable {bucket : AdaptiveTokenBucket} {ceiling rate : ℚ} {first now : Time}
  {count : Nat}

/-- `count` calls were granted since `first`. -/
structure Metered (ceiling rate : ℚ) (first : Time) (count : Nat)
    (bucket : AdaptiveTokenBucket) : Prop where
  spent : count + bucket.tokens ≤
    allowance ceiling rate first (max bucket.lastRefill first)
  idle : bucket.lastRefill < first → count = 0

theorem allowance_mono {last later : Time} (nonnegative : 0 ≤ rate)
    (ordered : last ≤ later) :
    allowance ceiling rate first last ≤ allowance ceiling rate first later := by
  have cast : (last : ℚ) ≤ later := Nat.cast_le.mpr ordered
  rw [allowance, allowance]
  gcongr

theorem le_allowance {last : Time} (nonnegative : 0 ≤ rate)
    (ordered : first ≤ last) : ceiling ≤ allowance ceiling rate first last := by
  calc ceiling = allowance ceiling rate first first := by simp [allowance]
    _ ≤ allowance ceiling rate first last := allowance_mono nonnegative ordered

/-- Refilling inside the interval keeps to the meter: what was credited for
the time before the interval is below the ceiling. -/
theorem Metered.refill (metered : Metered ceiling rate first count bucket)
    (filled : bucket.Filled) (burst : bucket.burst ≤ ceiling)
    (bounded : bucket.rate ≤ rate) (reached : first ≤ now) :
    Metered ceiling rate first count (bucket.refill now) ∧
      first ≤ (bucket.refill now).lastRefill := by
  have nonnegative : 0 ≤ rate := le_trans filled.rate bounded
  rw [AdaptiveTokenBucket.refill]
  split
  · rename_i early
    exact ⟨metered, Nat.le_trans reached early⟩
  · rename_i late
    refine ⟨⟨?_, fun opened => absurd reached (Nat.not_le_of_lt opened)⟩,
      reached⟩
    simp only [Nat.max_eq_left reached]
    by_cases idle : bucket.lastRefill < first
    · rw [metered.idle idle, Nat.cast_zero, zero_add]
      calc min bucket.burst _ ≤ bucket.burst := min_le_left _ _
        _ ≤ ceiling := burst
        _ ≤ allowance ceiling rate first now :=
          le_allowance nonnegative reached
    · have spent := metered.spent
      rw [Nat.max_eq_left (Nat.le_of_not_lt idle)] at spent
      have ordered : (bucket.lastRefill : ℚ) ≤ now :=
        Nat.cast_le.mpr (Nat.le_of_not_le late)
      have elapsed : 0 ≤ ((now : ℚ) - bucket.lastRefill) / 1000 := by
        linarith
      have credited := mul_le_mul_of_nonneg_left bounded elapsed
      have capped := min_le_right bucket.burst
        (bucket.tokens + ((now : ℚ) - bucket.lastRefill) / 1000 * bucket.rate)
      rw [allowance] at spent ⊢
      linarith

theorem Metered.perform (metered : Metered ceiling rate first count bucket)
    (filled : bucket.Filled) (burst : bucket.burst ≤ ceiling)
    (bounded : bucket.rate ≤ rate) (reached : first ≤ now) {op : BucketOp}
    (steady : op.isReconfigure = false) :
    Metered ceiling rate first
      (count + if (perform now op bucket).1 then 1 else 0)
      (perform now op bucket).2 := by
  have refilled := metered.refill filled burst bounded reached
  cases op with
  | tryAcquire =>
      rcases tryAcquire_cases now bucket with ⟨-, taken⟩ | ⟨-, refused⟩
      · rw [AdaptiveTokenBucket.perform, taken]
        refine ⟨?_, fun opened => absurd refilled.2
          (Nat.not_le_of_lt opened)⟩
        have spent := refilled.1.spent
        simp only [if_true, Nat.cast_add, Nat.cast_one]
        linarith
      · rw [AdaptiveTokenBucket.perform, refused]
        exact refilled.1
  | getState => exact refilled.1
  | onThrottled =>
      have shed : bucket.onThrottled.tokens ≤ bucket.tokens :=
        min_le_left _ _
      simp only [AdaptiveTokenBucket.perform, Bool.false_eq_true, if_false,
        Nat.add_zero]
      exact ⟨le_trans (by linarith) metered.spent, metered.idle⟩
  | onSuccess =>
      have capped : bucket.onSuccess.tokens ≤ bucket.tokens :=
        min_le_left _ _
      simp only [AdaptiveTokenBucket.perform, Bool.false_eq_true, if_false,
        Nat.add_zero]
      exact ⟨le_trans (by linarith) metered.spent, metered.idle⟩
  | reconfigure params => cases steady

/-- The calls of an interval together, from any number already granted. -/
theorem Metered.granted_le {calls : List (Timed BucketOp)} {last : Time}
    (metered : Metered ceiling rate first count bucket)
    (filled : bucket.Filled) (fresh : bucket.lastRefill ≤ last)
    (ordered : first ≤ last)
    (bounded : ∀ passed ∈ trail AdaptiveTokenBucket.perform bucket calls,
      passed.burst ≤ ceiling ∧ passed.rate ≤ rate)
    (within : ∀ call ∈ calls, first ≤ call.time ∧ call.time ≤ last)
    (steady : ∀ call ∈ calls, call.op.isReconfigure = false) :
    count + (granted bucket calls : ℚ) ≤
      allowance ceiling rate first last := by
  obtain ⟨burst, limit⟩ := bounded bucket (mem_trail bucket calls)
  induction calls generalizing bucket count with
  | nil =>
      have spent := metered.spent
      have later : max bucket.lastRefill first ≤ last :=
        Nat.max_le.mpr ⟨fresh, ordered⟩
      have grown := @allowance_mono ceiling rate first _ _
        (le_trans filled.rate limit) later
      have tokens := filled.tokens
      simp only [granted, answers, List.countP_nil, Nat.cast_zero]
      linarith
  | cons call calls induction =>
      have quiet := steady call (by simp)
      obtain ⟨reached, inTime⟩ := within call (by simp)
      have moved := metered.perform filled burst limit reached quiet
      have rest := induction moved
        (filled.perform call.time call.op (BucketOp.nonnegative_of_steady quiet))
        (Nat.le_trans (perform_lastRefill _ _ _)
          (Nat.max_le.mpr ⟨fresh, inTime⟩))
        (fun passed member => bounded passed (List.mem_cons_of_mem _ member))
        (fun later member => within later (List.mem_cons_of_mem _ member))
        (fun later member => steady later (List.mem_cons_of_mem _ member))
        (bounded _ (List.mem_cons_of_mem _ (mem_trail _ calls))).1
        (bounded _ (List.mem_cons_of_mem _ (mem_trail _ calls))).2
      refine le_trans (le_of_eq ?_) rest
      simp only [granted, answers, List.countP_cons]
      push_cast
      rw [add_assoc, add_comm (ite _ _ _)]

end Potential

section Limits

variable {bucket : AdaptiveTokenBucket} {calls : List (Timed BucketOp)}
  {start first last : Time} {ceiling rate : ℚ}

private theorem le_peak (measure : AdaptiveTokenBucket → ℚ)
    (bucket : AdaptiveTokenBucket) (calls : List (Timed BucketOp)) :
    ∀ passed ∈ trail perform bucket calls,
      measure passed ≤ peak measure bucket calls := by
  rw [peak]
  induction trail perform bucket calls with
  | nil => simp
  | cons head states induction =>
      intro passed member
      rw [List.foldr_cons]
      cases member with
      | head => exact le_max_left _ _
      | tail _ member => exact le_max_of_le_right (induction passed member)

/-- The interval `[first, last]` of a run from any filled bucket. -/
theorem granted_inside_le (clocked : Clocked start calls)
    (created : bucket.lastRefill ≤ start)
    (filled : (after perform bucket (before first calls)).Filled)
    (ordered : first ≤ last)
    (steady : ∀ call ∈ inside first last calls,
      call.op.isReconfigure = false)
    (bounded : ∀ passed ∈ trail perform
        (after perform bucket (before first calls)) (inside first last calls),
      passed.burst ≤ ceiling ∧ passed.rate ≤ rate) :
    (granted (after perform bucket (before first calls))
      (inside first last calls) : ℚ) ≤
        allowance ceiling rate first last := by
  obtain ⟨burst, limit⟩ := bounded _ (mem_trail _ _)
  cases window : inside first last calls with
  | nil =>
      have nonnegative := le_trans filled.burst burst
      have opened := @le_allowance ceiling rate first last
        (le_trans filled.rate limit) ordered
      simp only [granted, answers, List.countP_nil, Nat.cast_zero]
      linarith
  | cons call rest =>
      rw [← window]
      have member : call ∈ inside first last calls := by simp [window]
      have reached := le_of_mem_inside clocked member
      have inTime := (mem_inside member).2
      have metered : Metered ceiling rate first 0
          (after perform bucket (before first calls)) := by
        refine ⟨?_, fun _ => rfl⟩
        rw [Nat.cast_zero, zero_add]
        exact le_trans (le_trans filled.capped burst)
          (le_allowance (le_trans filled.rate limit) (Nat.le_max_right _ _))
      have fresh : (after perform bucket (before first calls)).lastRefill ≤
          last := by
        apply lastRefill_after_le
        · have begun := clocked.le_time call (mem_inside member).1
          exact Nat.le_trans created (Nat.le_trans begun inTime)
        · intro earlier passed
          have early := (mem_before passed).2
          exact Nat.le_trans (Nat.le_of_lt early) ordered
      have bound := metered.granted_le filled fresh ordered bounded
        (fun later inside => ⟨le_of_mem_inside clocked inside,
          (mem_inside inside).2⟩) steady
      simpa using bound

/-- Filled, and below the nominal limits unless the floor is above them. -/
structure Limited (bucket : AdaptiveTokenBucket) : Prop where
  filled : bucket.Filled
  below : bucket.params.minRateFactor ≤ 1 → bucket.BelowNominal

theorem Limited.perform (limited : Limited bucket) (now : Time)
    {op : BucketOp} (nonnegative : op.Nonnegative) :
    Limited (perform now op bucket).2 := by
  refine ⟨limited.filled.perform now op nonnegative, fun lower => ?_⟩
  cases reconfigured : op.isReconfigure with
  | false =>
      rw [perform_params now reconfigured] at lower
      exact (limited.below lower).perform limited.filled lower now op
  | true =>
      cases op with
      | reconfigure params => exact ⟨le_refl _, le_refl _⟩
      | tryAcquire | getState | onThrottled | onSuccess => cases reconfigured

theorem limited_create {params : TokenBucketParams}
    (nonnegative : params.Nonnegative) (start : Time) :
    Limited (create params start) :=
  ⟨.create nonnegative start, fun _ => ⟨le_refl _, le_refl _⟩⟩

private theorem limited_after {params : TokenBucketParams}
    (nonnegative : params.Nonnegative) (start : Time)
    (configured : ∀ call ∈ calls, call.op.Nonnegative) :
    Limited (after perform (create params start) calls) :=
  after_invariant Limited
    (fun call _ allowed limited => limited.perform call.time allowed)
    (limited_create nonnegative start) configured

/-- A throttled bucket that has not seen a success since. -/
structure Reduced (ceiling rate : ℚ) (bucket : AdaptiveTokenBucket) :
    Prop where
  filled : bucket.Filled
  above : bucket.AboveFloor
  burst : bucket.burst ≤ ceiling
  rate : bucket.rate ≤ rate

/-- Neither a success nor a reconfiguration. -/
def Sustained (op : BucketOp) : Prop :=
  op ≠ .onSuccess ∧ op.isReconfigure = false

theorem Reduced.perform (reduced : Reduced ceiling rate bucket) (now : Time)
    {op : BucketOp} (sustained : Sustained op) :
    Reduced ceiling rate (perform now op bucket).2 := by
  obtain ⟨filled, above, burst, limit⟩ := reduced
  refine ⟨filled.perform now op
      (BucketOp.nonnegative_of_steady sustained.2),
    above.perform filled now sustained.2, ?_, ?_⟩
  · cases op with
    | tryAcquire =>
        rw [AdaptiveTokenBucket.perform, (tryAcquire_frame now bucket).2.2]
        exact burst
    | getState =>
        simpa [AdaptiveTokenBucket.perform, getState] using burst
    | onThrottled =>
        have halved : bucket.burst * (1 / 2) ≤ ceiling := by
          linarith [filled.burst]
        exact max_le (le_trans above.burst burst) halved
    | onSuccess => exact absurd rfl sustained.1
    | reconfigure params => cases sustained.2
  · cases op with
    | tryAcquire =>
        rw [AdaptiveTokenBucket.perform, (tryAcquire_frame now bucket).2.1]
        exact limit
    | getState =>
        simpa [AdaptiveTokenBucket.perform, getState] using limit
    | onThrottled =>
        have halved : bucket.rate * (1 / 2) ≤ rate := by
          linarith [filled.rate]
        exact max_le (le_trans above.rate limit) halved
    | onSuccess => exact absurd rfl sustained.1
    | reconfigure params => cases sustained.2

/-- Steady calls from limited parameters stay below the nominal limits. -/
theorem trail_below_nominal (limited : Limited bucket)
    (lower : bucket.params.minRateFactor ≤ 1)
    (steady : ∀ call ∈ calls, call.op.isReconfigure = false) :
    ∀ passed ∈ trail perform bucket calls,
      passed.burst ≤ bucket.params.nominalRps * bucket.params.burstFactor ∧
        passed.rate ≤ bucket.params.nominalRps := by
  have kept := trail_invariant
    (fun passed => passed.params = bucket.params ∧ Limited passed)
    (fun call passed quiet held =>
      ⟨(perform_params call.time quiet passed).trans held.1,
        held.2.perform call.time (BucketOp.nonnegative_of_steady quiet)⟩)
    ⟨rfl, limited⟩ steady
  intro passed member
  obtain ⟨same, held⟩ := kept passed member
  obtain ⟨rate, burst⟩ := held.below (by rwa [same])
  rw [same] at rate burst
  exact ⟨burst, rate⟩

/-- An interval after a throttling answer and before the next success. -/
theorem granted_le_reduced (reduced : Reduced ceiling rate bucket)
    (clocked : Clocked start calls) (created : bucket.lastRefill ≤ start)
    (ordered : first ≤ last)
    (sustained : ∀ call ∈ calls, call.time ≤ last → Sustained call.op) :
    (granted (after perform bucket (before first calls))
      (inside first last calls) : ℚ) ≤
        allowance ceiling rate first last := by
  have preserved : ∀ (call : Timed BucketOp) passed, Sustained call.op →
      Reduced ceiling rate passed →
        Reduced ceiling rate (perform call.time call.op passed).2 :=
    fun call _ quiet held => held.perform call.time quiet
  have opened : Reduced ceiling rate
      (after perform bucket (before first calls)) :=
    after_invariant (Reduced ceiling rate) preserved reduced
      fun call member => sustained call (mem_before member).1
        (Nat.le_trans (Nat.le_of_lt (mem_before member).2) ordered)
  have quiet : ∀ call ∈ inside first last calls, Sustained call.op :=
    fun call member => sustained call (mem_inside member).1
      (mem_inside member).2
  have kept := trail_invariant (Reduced ceiling rate) preserved opened quiet
  refine granted_inside_le clocked created opened.filled ordered
    (fun call member => (quiet call member).2) fun passed member => ?_
  exact ⟨(kept passed member).burst, (kept passed member).rate⟩

end Limits

/-- Grants in an interval are within the largest ceiling and rate of the
interval, within the nominal ones, and after a throttling answer within the
reduced ones until the next success. -/
theorem throughput_bounded (params : TokenBucketParams)
    (start first last : Time) (calls : List (Timed BucketOp))
    (nonnegative : params.Nonnegative)
    (configured : ∀ call ∈ calls, call.op.Nonnegative)
    (clocked : Clocked start calls) (ordered : first ≤ last)
    (steady : ∀ call ∈ inside first last calls,
      call.op.isReconfigure = false) :
    let bucket := after perform (create params start) (before first calls)
    let window := inside first last calls
    (granted bucket window : ℚ) ≤ allowance
        (peak burst bucket window) (peak rate bucket window) first last ∧
      (bucket.params.minRateFactor ≤ 1 →
        (granted bucket window : ℚ) ≤ allowance
          (bucket.params.nominalRps * bucket.params.burstFactor)
          bucket.params.nominalRps first last) ∧
      ∀ earlier now later,
        calls = earlier ++ ⟨now, .onThrottled⟩ :: later →
        (∀ call ∈ later, call.time ≤ last → Sustained call.op) →
        let throttled := after perform (create params start)
          (earlier ++ [⟨now, .onThrottled⟩])
        (granted (after perform throttled (before first later))
          (inside first last later) : ℚ) ≤
            allowance throttled.burst throttled.rate first last := by
  intro bucket window
  have limited : Limited bucket := limited_after nonnegative start
    fun call member => configured call (mem_before member).1
  refine ⟨?_, fun lower => ?_, ?_⟩
  · refine granted_inside_le clocked (Nat.le_refl _) limited.filled ordered
      steady fun passed member => ?_
    exact ⟨le_peak burst _ _ passed member, le_peak rate _ _ passed member⟩
  · exact granted_inside_le clocked (Nat.le_refl _) limited.filled ordered
      steady (trail_below_nominal limited lower steady)
  · rintro earlier now later rfl sustained throttled
    obtain ⟨-, tail, across⟩ := clocked.of_append
    have front : Limited throttled := limited_after nonnegative start
      fun call member => configured call (by
        rw [List.mem_append, List.mem_singleton] at member
        rcases member with member | rfl
        · simp [member]
        · simp)
    have reduced : Reduced throttled.burst throttled.rate throttled := by
      refine ⟨front.filled, ?_, le_refl _, le_refl _⟩
      simp only [throttled, after_append, after]
      exact AboveFloor.onThrottled _
    have created : throttled.lastRefill ≤ now := by
      refine lastRefill_after_le tail.1 fun call member => ?_
      rw [List.mem_append, List.mem_singleton] at member
      rcases member with member | rfl
      · exact across call member ⟨now, .onThrottled⟩ (by simp)
      · exact Nat.le_refl _
    exact granted_le_reduced reduced tail.2 created ordered sustained

/-- A burst of two, a throttling answer, and one more token a second
later. -/
theorem throughput_bounded_throttled :
    let calls : List (Timed BucketOp) :=
      [⟨0, .tryAcquire⟩, ⟨0, .tryAcquire⟩, ⟨10, .onThrottled⟩,
        ⟨1010, .tryAcquire⟩]
    let bucket := create ⟨2, 1, 1 / 4, 1, 15000⟩ 0
    granted bucket (inside 0 1010 calls) = 3 ∧
      (granted bucket (inside 0 1010 calls) : ℚ) ≤
        allowance (peak burst bucket (inside 0 1010 calls))
          (peak rate bucket (inside 0 1010 calls)) 0 1010 := by
  intro calls bucket
  refine ⟨by decide +kernel, ?_⟩
  exact (throughput_bounded ⟨2, 1, 1 / 4, 1, 15000⟩ 0 0 1010 calls
    ⟨by norm_num, by norm_num, by norm_num, by norm_num⟩
    (by simp [calls, BucketOp.Nonnegative]) (by decide)
    (Nat.zero_le _) (by decide)).1

end PaymentQueue.Throughput
