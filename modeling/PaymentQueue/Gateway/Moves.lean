import PaymentQueue.Gateway.Shares

/-!
# What an operation does to its gateway

Every operation of the guard polls the bucket, passes the gate, settles an
answered charge, configures, reads the health, or leaves the share of its
gateway alone.
-/

namespace PaymentQueue

/-- The call that an operation moves. -/
def GuardOp.number? : GuardOp → Option Nat
  | call _ number => some number
  | resume _ number => some number
  | answer _ number _ => some number
  | _ => none

def GuardOp.policy? : GuardOp → Option GuardPolicy
  | configure _ policy => some policy
  | _ => none

def GuardCall.isWaiting : GuardCall → Bool
  | waiting _ _ => true
  | _ => false

def GuardCall.isGranted : GuardCall → Bool
  | granted => true
  | _ => false

def GuardReply.stage? : GuardReply → Option GuardCall
  | stage call => some call
  | _ => none

namespace GuardRegistries

open Await

variable (config : GuardConfig) (now : Time) (gatewayId : String)
  (registries : GuardRegistries)

/-- The bucket that a call of the gateway is handed. -/
abbrev bucketOf : AdaptiveTokenBucket :=
  RateLimiterRegistry.get config now gatewayId registries.buckets

abbrev breakerOf : CircuitBreaker :=
  CircuitBreakerRegistry.get config gatewayId registries.breakers

/-- The ways an operation can go: its reply, its events, and the share of its
gateway afterwards. -/
inductive Move (op : GuardOp) :
    GuardReply → List GuardEvent → Share → Prop where
  | idle {reply : GuardReply} :
      reply.stage? = none → op.policy? = none →
      Move op reply [] (share gatewayId registries)
  | poll {number : Nat} (deadline : Time) :
      op.number? = some number →
      (registries.calls gatewayId number).all GuardCall.isWaiting = true →
      Move op (.stage (registries.pollStage config now gatewayId deadline)) []
        ⟨some ((registries.bucketOf config now gatewayId).tryAcquire now).2,
          registries.breakers gatewayId,
          Function.update (registries.calls gatewayId) number
            (some (registries.pollStage config now gatewayId deadline))⟩
  | pass {number : Nat} :
      op.number? = some number →
      registries.calls gatewayId number = some .granted →
      Move op (.stage (registries.gateStage config now gatewayId)) []
        ⟨registries.buckets gatewayId,
          some ((registries.breakerOf config gatewayId).allowCall now).2,
          Function.update (registries.calls gatewayId) number
            (some (registries.gateStage config now gatewayId))⟩
  | settle {number : Nat} {gate : CircuitBreakerState}
      (result : GatewayChargeResult) :
      op.number? = some number →
      registries.calls gatewayId number = some (.charging gate) →
      Move op
        (.stage (.ended (callOutcome config.rateLimiter.tokenWaitMs gatewayId
          (.answered result))))
        (GatewayGuard.answerEvents result now
          (GatewayGuard.reported result now
            (registries.breakerOf config gatewayId)).2)
        ⟨some (GatewayGuard.feedback result
            (registries.bucketOf config now gatewayId)),
          some (GatewayGuard.reported result now
            (registries.breakerOf config gatewayId)).1,
          Function.update (registries.calls gatewayId) number
            (some (.ended (callOutcome config.rateLimiter.tokenWaitMs
              gatewayId (.answered result))))⟩
  | configure {policy : GuardPolicy} :
      op = .configure gatewayId policy →
      Move op .configured []
        (share gatewayId
          (registries.configure config now gatewayId policy))
  | health (report : GatewayHealth) :
      op = .health gatewayId →
      Move op (.health report) []
        ⟨some ((registries.bucketOf config now gatewayId).refill now),
          some ((registries.breakerOf config gatewayId).getState now).2,
          registries.calls gatewayId⟩

variable {config} {now} {gatewayId} {registries}

private theorem move_poll {op : GuardOp} {number : Nat} (deadline : Time)
    (numbered : op.number? = some number)
    (waiting : (registries.calls gatewayId number).all
      GuardCall.isWaiting = true) :
    Move config now gatewayId registries op
      (registries.poll config now gatewayId number deadline).1.reply
      (registries.poll config now gatewayId number deadline).1.events
      (share gatewayId
        (registries.poll config now gatewayId number deadline).2) := by
  simpa [share] using Move.poll deadline numbered waiting

private theorem move_pass {op : GuardOp} {number : Nat}
    (numbered : op.number? = some number)
    (granted : registries.calls gatewayId number = some .granted) :
    Move config now gatewayId registries op
      (registries.pass config now gatewayId number).1.reply
      (registries.pass config now gatewayId number).1.events
      (share gatewayId
        (registries.pass config now gatewayId number).2) := by
  simpa [share] using Move.pass numbered granted

private theorem move_settle {op : GuardOp} {number : Nat}
    {gate : CircuitBreakerState} (result : GatewayChargeResult)
    (numbered : op.number? = some number)
    (charging : registries.calls gatewayId number = some (.charging gate)) :
    Move config now gatewayId registries op
      (registries.settle config now gatewayId number result).1.reply
      (registries.settle config now gatewayId number result).1.events
      (share gatewayId
        (registries.settle config now gatewayId number result).2) := by
  simpa [share] using Move.settle result numbered charging

/-- Every operation on the gateway goes one of these ways. -/
theorem perform_move (op : GuardOp) (here : op.gatewayId = gatewayId)
    (registries : GuardRegistries) :
    Move config now gatewayId registries op
      (registries.perform config now op).1.reply
      (registries.perform config now op).1.events
      (share gatewayId (registries.perform config now op).2) := by
  cases op with
  | call other number =>
      obtain rfl : other = gatewayId := here
      simp only [perform]
      split
      · rename_i unknown
        exact move_poll _ (Eq.refl (some number)) (by simp [unknown])
      · exact .idle (by rfl) (by rfl)
  | resume other number =>
      obtain rfl : other = gatewayId := here
      simp only [perform]
      split
      · rename_i waiting
        split
        · exact move_poll _ (Eq.refl (some number))
            (by simp [waiting, GuardCall.isWaiting])
        · exact .idle (by rfl) (by rfl)
      · rename_i granted
        exact move_pass (Eq.refl (some number)) granted
      · exact .idle (by rfl) (by rfl)
  | answer other number result =>
      obtain rfl : other = gatewayId := here
      simp only [perform]
      split
      · rename_i charging
        exact move_settle result (Eq.refl (some number)) charging
      · exact .idle (by rfl) (by rfl)
  | refund other transactionId =>
      simp only [perform, share_provision]
      exact .idle (by rfl) (by rfl)
  | refunded other result => exact .idle (by rfl) (by rfl)
  | configure other policy =>
      obtain rfl : other = gatewayId := here
      exact .configure (Eq.refl (GuardOp.configure other policy))
  | health other =>
      obtain rfl : other = gatewayId := here
      have moved : Move config now other registries (.health other) _ _ _ :=
        .health (registries.guard config now other).health.1
          (Eq.refl (GuardOp.health other))
      simpa [perform, share, GuardRegistries.health, GatewayGuard.health,
        GuardRegistries.guard, AdaptiveTokenBucket.getState] using moved

variable {next : GuardRegistries}

theorem bucketOf_share {left : GuardRegistries}
    (same : left.buckets gatewayId = (registries.buckets gatewayId))
    (moment : Time) :
    left.bucketOf config moment gatewayId =
      registries.bucketOf config moment gatewayId := by
  simp only [bucketOf, RateLimiterRegistry.get, same]

theorem bucketOf_some {bucket : AdaptiveTokenBucket}
    (held : next.buckets gatewayId = some bucket) (moment : Time) :
    next.bucketOf config moment gatewayId = bucket := by
  simp only [bucketOf, RateLimiterRegistry.get, held, Option.getD_some]

theorem breakerOf_some {breaker : CircuitBreaker}
    (held : next.breakers gatewayId = some breaker) :
    next.breakerOf config gatewayId = breaker := by
  simp only [breakerOf, CircuitBreakerRegistry.get, held, Option.getD_some]

theorem breakerOf_share
    (same : next.breakers gatewayId = registries.breakers gatewayId) :
    next.breakerOf config gatewayId =
      registries.breakerOf config gatewayId := by
  simp only [breakerOf, CircuitBreakerRegistry.get, same]

/-- A reconfiguration of the bucket, also where there was none yet. -/
theorem configure_bucketOf (policy : GuardPolicy)
    {overrides : TokenBucketOverrides}
    (limits : policy.rateLimiter = some overrides) (moment : Time) :
    (registries.configure config now gatewayId policy).bucketOf config moment
        gatewayId =
      (registries.bucketOf config now gatewayId).reconfigure
        (config.rateLimiter.override overrides) := by
  cases held : registries.buckets gatewayId with
  | some bucket =>
      simp [GuardRegistries.configure, limits, RateLimiterRegistry.configure,
        bucketOf, RateLimiterRegistry.get, held]
  | none =>
      simp [GuardRegistries.configure, limits, RateLimiterRegistry.configure,
        bucketOf, RateLimiterRegistry.get, held,
        AdaptiveTokenBucket.reconfigure, AdaptiveTokenBucket.create]

/-- A new circuit policy makes a new breaker of the old one. -/
theorem configure_breakerOf (policy : GuardPolicy)
    {overrides : CircuitBreakerOverrides}
    (circuit : policy.circuitBreaker = some overrides) :
    (registries.configure config now gatewayId policy).breakerOf config
        gatewayId =
      .create (config.circuitBreaker.override overrides) := by
  cases held : registries.breakers gatewayId with
  | some breaker =>
      simp [GuardRegistries.configure, circuit,
        CircuitBreakerRegistry.configure, breakerOf,
        CircuitBreakerRegistry.get, held, CircuitBreaker.reconfigure,
        CircuitBreaker.reset]
  | none =>
      simp [GuardRegistries.configure, circuit,
        CircuitBreakerRegistry.configure, breakerOf,
        CircuitBreakerRegistry.get, held]

/-- Only the grant of the bucket and the clock decide how a call goes on. -/
theorem pollStage_eq (deadline : Time) (registries : GuardRegistries) :
    registries.pollStage config now gatewayId deadline =
      if ((registries.bucketOf config now gatewayId).tryAcquire now).1 then
        .granted
      else if deadline ≤ now then
        .ended (callOutcome config.rateLimiter.tokenWaitMs gatewayId .noToken)
      else .waiting deadline (now + min 15 (max 5 (deadline - now))) := by
  simp only [pollStage, GatewayGuard.pollToken, GuardRegistries.guard]
  split
  · rename_i acquired
    rw [if_pos (congrArg Prod.fst acquired)]
  · rename_i refused
    rw [if_neg (by rw [refused]; exact Bool.false_ne_true)]
    by_cases late : deadline ≤ now
    · simp [late]
    · simp [late]

theorem pollStage_isGranted (deadline : Time) (registries : GuardRegistries) :
    (registries.pollStage config now gatewayId deadline).isGranted =
      ((registries.bucketOf config now gatewayId).tryAcquire now).1 := by
  rw [pollStage_eq]
  cases ((registries.bucketOf config now gatewayId).tryAcquire now).1 with
  | true => rfl
  | false =>
      by_cases late : deadline ≤ now
      · simp [late, GuardCall.isGranted]
      · simp [late, GuardCall.isGranted]

theorem pollStage_isCharging (deadline : Time)
    (registries : GuardRegistries) :
    (registries.pollStage config now gatewayId deadline).isCharging =
      false := by
  rw [pollStage]
  exact GatewayGuard.pollToken_isCharging deadline _

/-- The gate lets a call through or ends it. -/
theorem gateStage_cases (registries : GuardRegistries) :
    (∃ state, ((registries.breakerOf config gatewayId).allowCall now).1 =
        ⟨true, state⟩ ∧
      registries.gateStage config now gatewayId = .charging state) ∨
    ∃ state outcome,
      ((registries.breakerOf config gatewayId).allowCall now).1 =
        ⟨false, state⟩ ∧
      registries.gateStage config now gatewayId = .ended outcome := by
  simp only [gateStage, GatewayGuard.passGate, GuardRegistries.guard]
  split
  · rename_i state breaker passed
    exact .inl ⟨state, by rw [passed], rfl⟩
  · rename_i state breaker refused
    exact .inr ⟨state, _, by rw [refused], rfl⟩

theorem gateStage_isGranted (registries : GuardRegistries) :
    (registries.gateStage config now gatewayId).isGranted = false := by
  rcases @gateStage_cases config now gatewayId registries with
    ⟨state, -, stage⟩ | ⟨state, outcome, -, stage⟩
  · rw [stage]
    rfl
  · rw [stage]
    rfl

private theorem perform_calls_other {number : Nat} {op : GuardOp}
    (unnamed : op.number? ≠ some number) (registries : GuardRegistries) :
    (registries.perform config now op).2.calls gatewayId number =
      registries.calls gatewayId number := by
  by_cases here : op.gatewayId = gatewayId
  · have move := @perform_move config now gatewayId op here registries
    generalize shared : share gatewayId (registries.perform config now op).2 =
      moved at move
    generalize (registries.perform config now op).1 = answer at move
    obtain ⟨reply, events⟩ := answer
    have calls := congrFun (congrArg Share.calls shared) number
    refine calls.trans ?_
    cases move with
    | idle | health | configure => rfl
    | poll deadline numbered | pass numbered | settle result numbered =>
        refine Function.update_of_ne ?_ _ _
        rintro rfl
        exact unnamed numbered
  · exact congrFun (congrArg Share.calls
      (share_apart op (Ne.symm here) registries)) number

theorem after_calls_other {number : Nat} {calls : List (Timed GuardOp)}
    (unnamed : ∀ call ∈ calls, call.op.number? ≠ some number)
    (registries : GuardRegistries) :
    (after (perform config) registries calls).calls gatewayId number =
      registries.calls gatewayId number := by
  induction calls generalizing registries with
  | nil => rfl
  | cons call calls induction =>
      have rest := induction
        (fun later member => unnamed later (List.mem_cons_of_mem _ member))
        (registries.perform config call.time call.op).2
      exact rest.trans (perform_calls_other (unnamed call (by simp))
        registries)

end GuardRegistries

end PaymentQueue
