import PaymentQueue.Await.Pairs
import PaymentQueue.Gateway.Buckets

/-!
# New limits are a new start

What a reconfiguration and a reset of the registries leave of the past.  The
breaker is replaced.  The bucket is filled, but keeps the time of its last
refill: an answer that comes before the next poll could raise the ceiling, and
the poll would credit time from before the reconfiguration.  So the start is
new when no call has a token.
-/

namespace PaymentQueue.Renewal

open Await GuardRegistries

variable {config : GuardConfig} {now : Time} {gatewayId : String}
  {left right : GuardRegistries} {number : Nat}

/-- A report without the counter of throttlings, which nothing resets. -/
def uncounted : GuardReply → GuardReply
  | .health report => .health { report with throttleCount := 0 }
  | reply => reply

/-- An operation, without the counter in its answer. -/
def observe (config : GuardConfig) (now : Time) (op : GuardOp)
    (registries : GuardRegistries) : GuardAnswer × GuardRegistries :=
  let (answer, next) := registries.perform config now op
  ({ answer with reply := uncounted answer.reply }, next)

/-- What the guard answers to the operations on a gateway. -/
def results (config : GuardConfig) (gatewayId : String)
    (registries : GuardRegistries) (calls : List (Timed GuardOp)) :
    List (Timed GuardOp × GuardAnswer) :=
  (answers (observe config) registries calls).filter fun answered =>
    decide (answered.1.op.gatewayId = gatewayId)

/-- The call has a token: it may still be answered without another poll. -/
def GuardCall.hasToken : GuardCall → Bool
  | .granted => true
  | .charging _ => true
  | _ => false

def Tokenless (gatewayId : String) (registries : GuardRegistries) : Prop :=
  ∀ number, (registries.calls gatewayId number).any GuardCall.hasToken = false

/-- The registries as if nobody had asked for the controls of the gateway. -/
def forget (gatewayId : String) (registries : GuardRegistries) :
    GuardRegistries :=
  { registries with
    buckets := Function.update registries.buckets gatewayId none
    breakers := Function.update registries.breakers gatewayId none }

/-- `resetAll` of both registries. -/
def resetAll (config : GuardConfig) (registries : GuardRegistries) :
    GuardRegistries :=
  { registries with
    buckets := RateLimiterRegistry.resetAll config registries.buckets
    breakers := CircuitBreakerRegistry.resetAll registries.breakers }

/-- The gateway is new to the guard, but for the parameters of its breaker. -/
def restart (gatewayId : String) (registries : GuardRegistries) :
    GuardRegistries :=
  { registries with
    buckets := Function.update registries.buckets gatewayId none
    breakers := Function.update registries.breakers gatewayId
      ((registries.breakers gatewayId).map fun breaker =>
        .create breaker.params) }

section Buckets

variable {bucket other : AdaptiveTokenBucket} {params : TokenBucketParams}

/-- Buckets that differ in the counter of throttlings only. -/
def Level (bucket other : AdaptiveTokenBucket) : Prop :=
  ∃ throttleCount, other = { bucket with throttleCount }

/-- A bucket that was filled and not polled since. -/
structure Brimful (params : TokenBucketParams) (now : Time)
    (bucket : AdaptiveTokenBucket) : Prop where
  same : bucket.params = params
  rate : bucket.rate = params.nominalRps
  burst : bucket.burst = params.nominalRps * params.burstFactor
  tokens : bucket.tokens = params.nominalRps * params.burstFactor
  fresh : bucket.lastRefill ≤ now

theorem Level.refill (level : Level bucket other) (now : Time) :
    Level (bucket.refill now) (other.refill now) := by
  obtain ⟨throttleCount, rfl⟩ := level
  refine ⟨throttleCount, ?_⟩
  simp only [AdaptiveTokenBucket.refill]
  split <;> rfl

/-- Buckets that are level once they are refilled grant the same tokens. -/
theorem Level.tryAcquire
    (refilled : Level (bucket.refill now) (other.refill now)) :
    (bucket.tryAcquire now).1 = (other.tryAcquire now).1 ∧
      Level (bucket.tryAcquire now).2 (other.tryAcquire now).2 := by
  obtain ⟨throttleCount, same⟩ := refilled
  simp only [AdaptiveTokenBucket.tryAcquire, same]
  split
  · exact ⟨rfl, throttleCount, rfl⟩
  · exact ⟨rfl, throttleCount, rfl⟩

theorem Level.perform (level : Level bucket other) (now : Time)
    (method : BucketOp) :
    Level (AdaptiveTokenBucket.perform now method bucket).2
      (AdaptiveTokenBucket.perform now method other).2 := by
  cases method with
  | tryAcquire => exact (level.refill now).tryAcquire.2
  | getState => exact level.refill now
  | onThrottled | onSuccess | reconfigure params =>
      obtain ⟨throttleCount, rfl⟩ := level
      exact ⟨_, rfl⟩

/-- A full bucket takes no credit. -/
theorem Brimful.refill (brimful : Brimful params now bucket)
    (nonnegative : 0 ≤ params.nominalRps) :
    bucket.refill now = { bucket with lastRefill := now } := by
  by_cases early : now ≤ bucket.lastRefill
  · have same := Nat.le_antisymm brimful.fresh early
    rw [AdaptiveTokenBucket.refill_of_le early, ← same]
  · rw [AdaptiveTokenBucket.refill_of_lt (Nat.lt_of_not_le early)]
    have ordered : (0 : ℚ) ≤ (now : ℚ) - bucket.lastRefill :=
      sub_nonneg.mpr (Nat.cast_le.mpr brimful.fresh)
    have credit : 0 ≤ ((now : ℚ) - bucket.lastRefill) / 1000 * bucket.rate := by
      rw [brimful.rate]
      positivity
    have full : bucket.burst = bucket.tokens :=
      brimful.burst.trans brimful.tokens.symm
    rw [full, min_eq_left (le_add_of_nonneg_right credit)]

/-- The next refill makes filled buckets level. -/
theorem Brimful.level (brimful : Brimful params now bucket)
    (brimful' : Brimful params now other)
    (nonnegative : 0 ≤ params.nominalRps) :
    Level (bucket.refill now) (other.refill now) := by
  rw [brimful.refill nonnegative, brimful'.refill nonnegative]
  obtain ⟨same, rate, burst, tokens, -⟩ := brimful
  obtain ⟨same', rate', burst', tokens', -⟩ := brimful'
  refine ⟨other.throttleCount, ?_⟩
  rw [same'.trans same.symm, rate'.trans rate.symm,
    burst'.trans burst.symm, tokens'.trans tokens.symm]

private theorem brimful_create (params : TokenBucketParams) (now : Time) :
    Brimful params now (.create params now) :=
  ⟨rfl, rfl, rfl, rfl, Nat.le_refl now⟩

theorem brimful_reconfigure (fresh : bucket.lastRefill ≤ now)
    (params : TokenBucketParams) :
    Brimful params now (bucket.reconfigure params) :=
  ⟨rfl, rfl, rfl, rfl, fresh⟩

theorem Brimful.later {moment : Time} (brimful : Brimful params now bucket)
    (after : now ≤ moment) : Brimful params moment bucket :=
  { brimful with fresh := Nat.le_trans brimful.fresh after }

end Buckets

/-- How the buckets of the gateway may differ: both are full and no call has a
token, or they are level. -/
inductive Buckets (config : GuardConfig) (now : Time) (gatewayId : String)
    (left right : GuardRegistries) : Prop where
  | brimful (params : TokenBucketParams) : 0 ≤ params.nominalRps →
      Tokenless gatewayId right →
      (∀ moment, now ≤ moment →
        Brimful params moment (left.bucketOf config moment gatewayId)) →
      (∀ moment, now ≤ moment →
        Brimful params moment (right.bucketOf config moment gatewayId)) →
      Buckets config now gatewayId left right
  | level : (∀ moment, now ≤ moment →
        Level (left.bucketOf config moment gatewayId)
          (right.bucketOf config moment gatewayId)) →
      Buckets config now gatewayId left right

/-- The guards differ in what the reconfiguration leaves. -/
structure Anew (config : GuardConfig) (now : Time) (gatewayId : String)
    (left right : GuardRegistries) : Prop where
  calls : left.calls gatewayId = right.calls gatewayId
  breakers : left.breakerOf config gatewayId =
    right.breakerOf config gatewayId
  buckets : Buckets config now gatewayId left right

section Steps

variable {left' right' : GuardRegistries}

theorem Anew.later {moment : Time} (anew : Anew config now gatewayId left right)
    (after : now ≤ moment) : Anew config moment gatewayId left right := by
  obtain ⟨calls, breakers, buckets⟩ := anew
  refine ⟨calls, breakers, ?_⟩
  cases buckets with
  | brimful params nonnegative tokenless full full' =>
      exact .brimful params nonnegative tokenless
        (fun time late => full time (Nat.le_trans after late))
        (fun time late => full' time (Nat.le_trans after late))
  | level same =>
      exact .level fun time late => same time (Nat.le_trans after late)

theorem Anew.congr (anew : Anew config now gatewayId left right)
    (same : share gatewayId left' = share gatewayId left)
    (same' : share gatewayId right' = share gatewayId right) :
    Anew config now gatewayId left' right' := by
  obtain ⟨calls, breakers, buckets⟩ := anew
  have bucket : ∀ moment, left'.bucketOf config moment gatewayId =
      left.bucketOf config moment gatewayId :=
    bucketOf_share (congrArg Share.bucket same)
  have bucket' : ∀ moment, right'.bucketOf config moment gatewayId =
      right.bucketOf config moment gatewayId :=
    bucketOf_share (congrArg Share.bucket same')
  have moved : right'.calls gatewayId = right.calls gatewayId :=
    congrArg Share.calls same'
  refine ⟨?_, ?_, ?_⟩
  · rw [moved, ← calls]
    exact congrArg Share.calls same
  · rw [breakerOf_share (congrArg Share.breaker same),
      breakerOf_share (congrArg Share.breaker same'), breakers]
  · cases buckets with
    | brimful params nonnegative tokenless full full' =>
        refine .brimful params nonnegative ?_ ?_ ?_
        · rwa [Tokenless, moved]
        · simpa only [bucket] using full
        · simpa only [bucket'] using full'
    | level same =>
        refine .level ?_
        simpa only [bucket, bucket'] using same

/-- Once they are refilled, the buckets are level. -/
theorem Anew.refill (anew : Anew config now gatewayId left right) :
    Level ((left.bucketOf config now gatewayId).refill now)
      ((right.bucketOf config now gatewayId).refill now) := by
  cases anew.buckets with
  | brimful params nonnegative tokenless full full' =>
      exact (full now (Nat.le_refl now)).level (full' now (Nat.le_refl now))
        nonnegative
  | level same => exact (same now (Nat.le_refl now)).refill now

/-- Where a call has a token, the buckets are level already. -/
theorem Anew.level {call : GuardCall}
    (anew : Anew config now gatewayId left right)
    (found : right.calls gatewayId number = some call)
    (token : GuardCall.hasToken call = true) :
    ∀ moment, now ≤ moment →
      Level (left.bucketOf config moment gatewayId)
        (right.bucketOf config moment gatewayId) := by
  cases anew.buckets with
  | brimful params nonnegative tokenless full full' =>
      have free := tokenless number
      rw [found, Option.any_some, token] at free
      cases free
  | level same => exact same

/-- What an operation answers, but for the counter, and what it leaves. -/
structure Agrees (config : GuardConfig) (now : Time) (gatewayId : String)
    (left right : GuardAnswer × GuardRegistries) : Prop where
  reply : uncounted left.1.reply = uncounted right.1.reply
  events : left.1.events = right.1.events
  anew : Anew config now gatewayId left.2 right.2

theorem Anew.poll (anew : Anew config now gatewayId left right)
    (deadline : Time) :
    Agrees config now gatewayId
      (left.poll config now gatewayId number deadline)
      (right.poll config now gatewayId number deadline) := by
  obtain ⟨granted, level⟩ := anew.refill.tryAcquire
  have stage : left.pollStage config now gatewayId deadline =
      right.pollStage config now gatewayId deadline := by
    rw [pollStage_eq, pollStage_eq, granted]
  refine ⟨by simp [stage], by simp, ⟨?_, ?_, .level fun moment _ => ?_⟩⟩
  · simp [stage, anew.calls]
  · simpa [breakerOf] using anew.breakers
  · rw [bucketOf_some (poll_buckets config now gatewayId number deadline left),
      bucketOf_some (poll_buckets config now gatewayId number deadline right)]
    exact level

theorem Anew.pass (anew : Anew config now gatewayId left right)
    (granted : right.calls gatewayId number = some .granted) :
    Agrees config now gatewayId (left.pass config now gatewayId number)
      (right.pass config now gatewayId number) := by
  have stage : left.gateStage config now gatewayId =
      right.gateStage config now gatewayId := by
    refine GatewayGuard.passGate_congr ?_
    exact congrArg (fun breaker : CircuitBreaker =>
      (breaker.allowCall now).1) anew.breakers
  refine ⟨by simp [stage], by simp, ⟨?_, ?_, .level ?_⟩⟩
  · simp [stage, anew.calls]
  · rw [breakerOf_some (pass_breakers config now gatewayId number left),
      breakerOf_some (pass_breakers config now gatewayId number right)]
    exact congrArg (fun breaker : CircuitBreaker =>
      (breaker.allowCall now).2) anew.breakers
  · simpa [bucketOf] using anew.level granted rfl

theorem Level.feedback {bucket other : AdaptiveTokenBucket}
    (level : Level bucket other) (result : GatewayChargeResult) :
    Level (GatewayGuard.feedback result bucket)
      (GatewayGuard.feedback result other) := by
  cases result with
  | ok transactionId httpStatus => exact level.perform 0 .onSuccess
  | fail failure =>
      simp only [GatewayGuard.feedback]
      split
      · exact level.perform 0 .onThrottled
      · exact level

theorem Anew.settle {gate : CircuitBreakerState}
    (anew : Anew config now gatewayId left right)
    (charging : right.calls gatewayId number = some (.charging gate))
    (result : GatewayChargeResult) :
    Agrees config now gatewayId
      (left.settle config now gatewayId number result)
      (right.settle config now gatewayId number result) := by
  have breakers := anew.breakers
  have level := anew.level charging rfl now (Nat.le_refl now)
  refine ⟨by simp, ?_, ⟨?_, ?_, .level fun moment _ => ?_⟩⟩
  · rw [settle_answer, settle_answer]
    simp only [breakerOf] at breakers
    rw [breakers]
  · simp [anew.calls]
  · rw [breakerOf_some (settle_breakers config now gatewayId number result
        left),
      breakerOf_some (settle_breakers config now gatewayId number result
        right)]
    simp only [breakerOf] at breakers
    rw [breakers]
  · rw [bucketOf_some (settle_buckets config now gatewayId number result left),
      bucketOf_some (settle_buckets config now gatewayId number result
        right)]
    exact level.feedback result

theorem Anew.health (anew : Anew config now gatewayId left right) :
    Agrees config now gatewayId (left.health config now gatewayId)
      (right.health config now gatewayId) := by
  have breakers := anew.breakers
  have level := anew.refill
  simp only [breakerOf] at breakers
  refine ⟨?_, by simp [GuardRegistries.health], ⟨?_, ?_, .level
    fun moment _ => ?_⟩⟩
  · obtain ⟨throttleCount, same⟩ := level
    simp only [bucketOf] at same
    simp [GuardRegistries.health, GatewayGuard.health, GuardRegistries.guard,
      AdaptiveTokenBucket.getState, uncounted, breakers, same]
  · simp [anew.calls]
  · rw [breakerOf_some (health_breakers config now gatewayId left),
      breakerOf_some (health_breakers config now gatewayId right), breakers]
  · rw [bucketOf_some (health_buckets config now gatewayId left),
      bucketOf_some (health_buckets config now gatewayId right)]
    exact level

theorem configure_bucketOf_none {policy : GuardPolicy}
    (limits : policy.rateLimiter = none) (registries : GuardRegistries)
    (moment : Time) :
    (registries.configure config now gatewayId policy).bucketOf config moment
        gatewayId =
      registries.bucketOf config moment gatewayId := by
  simp [bucketOf, GuardRegistries.configure, limits]

private theorem configure_breakerOf_none {policy : GuardPolicy}
    (circuit : policy.circuitBreaker = none) (registries : GuardRegistries) :
    (registries.configure config now gatewayId policy).breakerOf config
        gatewayId =
      registries.breakerOf config gatewayId := by
  simp [breakerOf, GuardRegistries.configure, circuit]

/-- The nominal rate is not negative. -/
def Rising (params : TokenBucketParams) : Prop :=
  0 ≤ params.nominalRps

theorem Anew.configure (anew : Anew config now gatewayId left right)
    {policy : GuardPolicy}
    (sound : Sound Rising config gatewayId (.configure gatewayId policy)) :
    Anew config now gatewayId (left.configure config now gatewayId policy)
      (right.configure config now gatewayId policy) := by
  refine ⟨anew.calls, ?_, ?_⟩
  · cases circuit : policy.circuitBreaker with
    | none =>
        rw [configure_breakerOf_none circuit, configure_breakerOf_none circuit,
          anew.breakers]
    | some overrides =>
        rw [configure_breakerOf policy circuit,
          configure_breakerOf policy circuit]
  · cases limits : policy.rateLimiter with
    | none =>
        cases anew.buckets with
        | brimful params nonnegative tokenless full full' =>
            refine .brimful params nonnegative tokenless ?_ ?_
            · simpa only [configure_bucketOf_none limits] using full
            · simpa only [configure_bucketOf_none limits] using full'
        | level same =>
            refine .level ?_
            simpa only [configure_bucketOf_none limits] using same
    | some overrides =>
        cases anew.buckets with
        | brimful params nonnegative tokenless full full' =>
            refine .brimful (config.rateLimiter.override overrides)
              (sound overrides ⟨policy, rfl, limits⟩) tokenless ?_ ?_
            · intro moment after
              rw [configure_bucketOf policy limits]
              exact brimful_reconfigure (Nat.le_trans
                (full now (Nat.le_refl now)).fresh after) _
            · intro moment after
              rw [configure_bucketOf policy limits]
              exact brimful_reconfigure (Nat.le_trans
                (full' now (Nat.le_refl now)).fresh after) _
        | level same =>
            refine .level fun moment _ => ?_
            rw [configure_bucketOf policy limits,
              configure_bucketOf policy limits]
            exact (same now (Nat.le_refl now)).perform now
              (.reconfigure (config.rateLimiter.override overrides))

/-- The guards answer an operation on the gateway alike. -/
theorem Anew.perform (anew : Anew config now gatewayId left right)
    (op : GuardOp) (here : op.gatewayId = gatewayId)
    (sound : Sound Rising config gatewayId op) :
    Agrees config now gatewayId (left.perform config now op)
      (right.perform config now op) := by
  have calls := anew.calls
  cases op with
  | call other number =>
      obtain rfl : other = gatewayId := here
      simp only [GuardRegistries.perform, calls]
      split
      · exact anew.poll _
      · exact ⟨rfl, rfl, anew⟩
  | resume other number =>
      obtain rfl : other = gatewayId := here
      simp only [GuardRegistries.perform, calls]
      split
      · split
        · exact anew.poll _
        · exact ⟨rfl, rfl, anew⟩
      · rename_i granted
        exact anew.pass granted
      · exact ⟨rfl, rfl, anew⟩
  | answer other number result =>
      obtain rfl : other = gatewayId := here
      simp only [GuardRegistries.perform, calls]
      split
      · rename_i charging
        exact anew.settle charging result
      · exact ⟨rfl, rfl, anew⟩
  | refund other transactionId =>
      exact ⟨rfl, rfl, anew.congr (share_provision other)
        (share_provision other)⟩
  | refunded other result => exact ⟨rfl, rfl, anew⟩
  | configure other policy =>
      obtain rfl : other = gatewayId := here
      exact ⟨rfl, rfl, anew.configure sound⟩
  | health other =>
      obtain rfl : other = gatewayId := here
      exact anew.health

end Steps

/-- Guards that differ in what a reconfiguration leaves answer alike. -/
theorem twins (config : GuardConfig) (gatewayId : String) :
    Twins (observe config) (· ≤ ·)
      (fun now => Anew config now gatewayId)
      (fun call => call.op.gatewayId ≠ gatewayId)
      fun _ call => Sound Rising config gatewayId call.op where
  later after anew := anew.later after
  dropped apart anew := anew.congr (share_apart _ (Ne.symm apart) _) rfl
  kept := by
    intro call left right sound anew
    by_cases here : call.op.gatewayId = gatewayId
    · exact (anew.perform call.op here sound).anew
    · exact anew.congr (share_apart _ (Ne.symm here) _)
        (share_apart _ (Ne.symm here) _)
  alike := by
    intro call left right sound concerned anew
    have here : call.op.gatewayId = gatewayId := by simpa using concerned
    have agrees := anew.perform call.op here sound
    simp only [observe]
    rw [agrees.reply, GuardAnswer.mk.injEq]
    exact ⟨rfl, agrees.events⟩

private theorem results_eq {calls : List (Timed GuardOp)}
    (anew : Anew config now gatewayId left right)
    (clocked : Clocked now calls)
    (sound : ∀ call ∈ calls, Sound Rising config gatewayId call.op) :
    results config gatewayId left calls =
      results config gatewayId right calls := by
  have agree := ((twins config gatewayId).runs (Thins.refl calls)
    clocked.paced anew (along_of_forall right sound)).2
  simpa [results] using agree

/-- No bucket of a run is ahead of the clock. -/
theorem fresh_run {start : Time} {calls : List (Timed GuardOp)}
    (clocked : Clocked start calls) (starts : start ≤ now)
    (past : ∀ call ∈ calls, call.time ≤ now) :
    ((after (GuardRegistries.perform config) .empty calls).bucketOf config now
      gatewayId).lastRefill ≤ now := by
  refine @always_run config now gatewayId .empty
    (fun moment bucket => bucket.lastRefill ≤ moment) calls
    (fun _ => True) (fun _ _ _ after fresh => Nat.le_trans fresh after) ?_
    (fun _ _ => trivial) start clocked (fun _ _ _ _ => trivial)
    (fun moment _ => Nat.le_refl moment) starts past now (Nat.le_refl now)
  intro time method bucket _ fresh
  exact Nat.le_trans
    (AdaptiveTokenBucket.perform_lastRefill time method bucket)
    (Nat.max_le.mpr ⟨fresh, Nat.le_refl time⟩)

private theorem anew_configure {policy : GuardPolicy}
    {limits : TokenBucketOverrides} {circuit : CircuitBreakerOverrides}
    {registries : GuardRegistries}
    (limited : policy.rateLimiter = some limits)
    (guarded : policy.circuitBreaker = some circuit)
    (nonnegative : 0 ≤ (config.rateLimiter.override limits).nominalRps)
    (tokenless : Tokenless gatewayId registries)
    (fresh : (registries.bucketOf config now gatewayId).lastRefill ≤ now) :
    Anew config now gatewayId
      (registries.configure config now gatewayId policy)
      ((forget gatewayId registries).configure config now gatewayId
        policy) := by
  have forgotten : (forget gatewayId registries).bucketOf config now
      gatewayId = .create config.rateLimiter now := by
    simp [forget, bucketOf, RateLimiterRegistry.get]
  refine ⟨rfl, ?_, .brimful _ nonnegative tokenless ?_ ?_⟩
  · rw [configure_breakerOf policy guarded, configure_breakerOf policy guarded]
  · intro moment after
    rw [configure_bucketOf policy limited]
    exact brimful_reconfigure (Nat.le_trans fresh after) _
  · intro moment after
    rw [configure_bucketOf policy limited, forgotten]
    exact brimful_reconfigure after _

private theorem anew_resetAll {registries : GuardRegistries}
    (nonnegative : 0 ≤ config.rateLimiter.nominalRps)
    (tokenless : Tokenless gatewayId registries)
    (fresh : (registries.bucketOf config now gatewayId).lastRefill ≤ now) :
    Anew config now gatewayId (resetAll config registries)
      (restart gatewayId registries) := by
  refine ⟨rfl, ?_, .brimful config.rateLimiter nonnegative tokenless ?_ ?_⟩
  · simp only [breakerOf, CircuitBreakerRegistry.get, resetAll, restart,
      CircuitBreakerRegistry.resetAll, Function.update_self]
    rfl
  · intro moment after
    simp only [bucketOf, RateLimiterRegistry.get, resetAll,
      RateLimiterRegistry.resetAll] at fresh ⊢
    cases held : registries.buckets gatewayId with
    | none => exact brimful_create config.rateLimiter moment
    | some bucket =>
        rw [held] at fresh
        exact brimful_reconfigure (Nat.le_trans fresh after) _
  · intro moment after
    have forgotten : (restart gatewayId registries).bucketOf config moment
        gatewayId = .create config.rateLimiter moment := by
      simp [restart, bucketOf, RateLimiterRegistry.get]
    rw [forgotten]
    exact brimful_create config.rateLimiter moment

/-- In every run of the guard, when no call of a gateway has a token, a
reconfiguration of its limits and its circuit is a new start: everything that
the guard answers for the gateway from then on is what it would answer had it
never seen the gateway before, but for the counter of throttlings.  So is a
reset of the registries, which keeps the parameters of the breaker. -/
theorem reconfigured_anew (config : GuardConfig) (gatewayId : String)
    (start now : Time) (earlier later : List (Timed GuardOp))
    (clocked : Clocked start earlier) (starts : start ≤ now)
    (past : ∀ call ∈ earlier, call.time ≤ now)
    (following : Clocked now later)
    (sound : ∀ call ∈ later, Sound Rising config gatewayId call.op)
    (tokenless : Tokenless gatewayId
      (after (perform config) .empty earlier)) :
    let reached := after (perform config) .empty earlier
    (∀ policy limits circuit, policy.rateLimiter = some limits →
      policy.circuitBreaker = some circuit →
      0 ≤ (config.rateLimiter.override limits).nominalRps →
      results config gatewayId
          (reached.configure config now gatewayId policy) later =
        results config gatewayId
          ((forget gatewayId reached).configure config now gatewayId policy)
          later) ∧
      (0 ≤ config.rateLimiter.nominalRps →
        results config gatewayId (resetAll config reached) later =
          results config gatewayId (restart gatewayId reached) later) := by
  intro reached
  have fresh := @fresh_run config now gatewayId start earlier clocked starts
    past
  refine ⟨?_, fun nonnegative => ?_⟩
  · intro policy limits circuit limited guarded nonnegative
    exact results_eq (anew_configure limited guarded nonnegative tokenless
      fresh) following sound
  · exact results_eq (anew_resetAll nonnegative tokenless fresh) following
      sound

/-- A gateway that has failed, with an empty bucket and an open circuit. -/
theorem reconfigured_anew_failed :
    let config : GuardConfig :=
      { rateLimiter := ⟨1, 1, 1 / 4, 1, 100⟩
        circuitBreaker := ⟨1000, 1 / 2, 1, 60000⟩ }
    let earlier : List (Timed GuardOp) :=
      [⟨0, .call "stripe" 0⟩, ⟨0, .resume "stripe" 0⟩,
        ⟨20, .answer "stripe" 0 (.fail ⟨.rateLimited, "slow", 429⟩)⟩]
    let later : List (Timed GuardOp) :=
      [⟨40, .call "stripe" 1⟩, ⟨40, .resume "stripe" 1⟩]
    let policy : GuardPolicy :=
      ⟨some ⟨some 2, none, none, none, none⟩, some ⟨none, none, some 2, none⟩⟩
    let reached := after (perform config) .empty earlier
    let configured := reached.configure config 30 "stripe" policy
    (results config "stripe" reached later).map
        (fun answered => answered.2.reply) ≠
        [.stage .granted, .stage (.charging .closed)] ∧
      (results config "stripe" configured later).map
        (fun answered => answered.2.reply) =
        [.stage .granted, .stage (.charging .closed)] ∧
      results config "stripe" configured later =
        results config "stripe"
          ((forget "stripe" reached).configure config 30 "stripe" policy)
          later ∧
      (results config "stripe" (resetAll config reached) later).map
        (fun answered => answered.2.reply) =
        [.stage .granted, .stage (.charging .closed)] ∧
      results config "stripe" (resetAll config reached) later =
        results config "stripe" (restart "stripe" reached) later := by
  intro config earlier later policy reached configured
  have sound : ∀ call ∈ later, Sound Rising config "stripe" call.op := by
    intro call member overrides relimits
    obtain ⟨policy, same, -⟩ := relimits
    simp only [later, List.mem_cons, List.not_mem_nil, or_false] at member
    rcases member with rfl | rfl
    · cases same
    · cases same
  have tokenless : Tokenless "stripe" reached := by
    intro number
    by_cases same : number = 0
    · subst same
      decide +kernel
    · rw [after_calls_other]
      · rfl
      · intro call member
        simp only [earlier, List.mem_cons, List.not_mem_nil, or_false]
          at member
        rcases member with rfl | rfl | rfl <;>
          simpa [GuardOp.number?] using Ne.symm same
  obtain ⟨anew, reset⟩ := reconfigured_anew config "stripe" 0 30 earlier later
    (by decide) (by decide) (by decide) (by decide) sound tokenless
  refine ⟨by decide +kernel, by decide +kernel, ?_, by decide +kernel,
    reset (by decide)⟩
  exact anew policy _ _ rfl rfl (by decide +kernel)

end PaymentQueue.Renewal
