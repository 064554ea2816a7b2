import PaymentQueue.Gateway.GuardRuns
import PaymentQueue.Gateway.Registry

/-!
# The share of a gateway

What the guard holds for a gateway is its bucket, its breaker and its calls.
The first part says what an operation on the gateway does to them, the second
that operations on other gateways and refunds leave them alone.
-/

namespace PaymentQueue.GuardRegistries

variable {config : GuardConfig} {now : Time} {gatewayId : String}

/-- What the guard holds for one gateway. -/
structure Share where
  bucket : Option AdaptiveTokenBucket
  breaker : Option CircuitBreaker
  calls : Nat → Option GuardCall

def share (gatewayId : String) (registries : GuardRegistries) : Share :=
  ⟨registries.buckets gatewayId, registries.breakers gatewayId,
    registries.calls gatewayId⟩

section Effects

variable (config) (now) (gatewayId) (number : Nat) (deadline : Time)
  (result : GatewayChargeResult) (registries : GuardRegistries)

/-- Where a poll takes the call. -/
def pollStage : GuardCall :=
  ((registries.guard config now gatewayId).pollToken config gatewayId
    deadline).1

/-- Where the breaker takes the call. -/
def gateStage : GuardCall :=
  ((registries.guard config now gatewayId).passGate config gatewayId).1

@[simp] theorem setCall_calls (call : GuardCall) :
    (registries.setCall gatewayId number call).calls gatewayId =
      Function.update (registries.calls gatewayId) number (some call) := by
  simp [setCall]

@[simp] theorem poll_answer :
    (registries.poll config now gatewayId number deadline).1 =
      ⟨.stage (registries.pollStage config now gatewayId deadline), []⟩ := by
  simp [poll, pollStage]

@[simp] theorem poll_buckets :
    (registries.poll config now gatewayId number deadline).2.buckets
        gatewayId =
      some ((RateLimiterRegistry.get config now gatewayId
        registries.buckets).tryAcquire now).2 := by
  simp [poll, setCall, GatewayGuard.pollToken_bucket, GuardRegistries.guard]

@[simp] theorem poll_breakers :
    (registries.poll config now gatewayId number deadline).2.breakers =
      registries.breakers := by
  simp [poll, setCall]

@[simp] theorem poll_calls :
    (registries.poll config now gatewayId number deadline).2.calls
        gatewayId =
      Function.update (registries.calls gatewayId) number
        (some (registries.pollStage config now gatewayId deadline)) := by
  simp [poll, pollStage]

@[simp] theorem pass_answer :
    (registries.pass config now gatewayId number).1 =
      ⟨.stage (registries.gateStage config now gatewayId), []⟩ := by
  simp [pass, gateStage]

@[simp] theorem pass_buckets :
    (registries.pass config now gatewayId number).2.buckets =
      registries.buckets := by
  simp only [pass]
  split
  · simp [provision, setCall]
  · simp [setCall]

@[simp] theorem pass_breakers :
    (registries.pass config now gatewayId number).2.breakers gatewayId =
      some ((CircuitBreakerRegistry.get config gatewayId
        registries.breakers).allowCall now).2 := by
  simp only [pass, GatewayGuard.passGate_breaker]
  split
  · simp [provision, setCall, GuardRegistries.guard]
  · simp [setCall, GuardRegistries.guard]

@[simp] theorem pass_calls :
    (registries.pass config now gatewayId number).2.calls gatewayId =
      Function.update (registries.calls gatewayId) number
        (some (registries.gateStage config now gatewayId)) := by
  simp only [pass]
  split
  · simp [provision, setCall, gateStage]
  · simp [setCall, gateStage]

@[simp] theorem settle_answer :
    (registries.settle config now gatewayId number result).1 =
      ⟨.stage (.ended (callOutcome config.rateLimiter.tokenWaitMs gatewayId
          (.answered result))),
        GatewayGuard.answerEvents result now
          (GatewayGuard.reported result now (CircuitBreakerRegistry.get config
            gatewayId registries.breakers)).2⟩ := by
  simp [settle, @GatewayGuard.conclude_eq config, GuardRegistries.guard]

@[simp] theorem settle_buckets :
    (registries.settle config now gatewayId number result).2.buckets
        gatewayId =
      some (GatewayGuard.feedback result
        (RateLimiterRegistry.get config now gatewayId
          registries.buckets)) := by
  simp [settle, setCall, @GatewayGuard.conclude_eq config,
    GuardRegistries.guard]

@[simp] theorem settle_breakers :
    (registries.settle config now gatewayId number result).2.breakers
        gatewayId =
      some (GatewayGuard.reported result now
        (CircuitBreakerRegistry.get config gatewayId
          registries.breakers)).1 := by
  simp [settle, setCall, @GatewayGuard.conclude_eq config,
    GuardRegistries.guard]

@[simp] theorem settle_calls :
    (registries.settle config now gatewayId number result).2.calls
        gatewayId =
      Function.update (registries.calls gatewayId) number
        (some (.ended (callOutcome config.rateLimiter.tokenWaitMs gatewayId
          (.answered result)))) := by
  simp [settle, @GatewayGuard.conclude_eq config]

@[simp] theorem health_buckets :
    (registries.health config now gatewayId).2.buckets gatewayId =
      some ((RateLimiterRegistry.get config now gatewayId
        registries.buckets).refill now) := by
  simp [GuardRegistries.health, GatewayGuard.health, GuardRegistries.guard,
    AdaptiveTokenBucket.getState]

@[simp] theorem health_breakers :
    (registries.health config now gatewayId).2.breakers gatewayId =
      some ((CircuitBreakerRegistry.get config gatewayId
        registries.breakers).getState now).2 := by
  simp [GuardRegistries.health, GatewayGuard.health, GuardRegistries.guard]

@[simp] theorem health_calls :
    (registries.health config now gatewayId).2.calls = registries.calls := by
  simp [GuardRegistries.health]

end Effects

variable {other : String} {number : Nat} {registries : GuardRegistries}

private theorem share_set (apart : gatewayId ≠ other)
    (bucket : AdaptiveTokenBucket) (breaker : CircuitBreaker) :
    share gatewayId { registries with
        buckets := registries.buckets.set other bucket
        breakers := registries.breakers.set other breaker } =
      share gatewayId registries := by
  simp [share, Registry.set_other apart]

theorem share_setCall (apart : gatewayId ≠ other) (call : GuardCall) :
    share gatewayId (registries.setCall other number call) =
      share gatewayId registries := by
  simp [share, setCall, Function.update_of_ne apart]

@[simp] theorem share_provision (other : String) :
    share gatewayId (registries.provision other) =
      share gatewayId registries := by
  simp [share, provision]

private theorem share_poll (apart : gatewayId ≠ other) (deadline : Time) :
    share gatewayId (registries.poll config now other number deadline).2 =
      share gatewayId registries := by
  simp only [poll]
  rw [share_setCall apart]
  simp [share, Registry.set_other apart]

private theorem share_pass (apart : gatewayId ≠ other) :
    share gatewayId (registries.pass config now other number).2 =
      share gatewayId registries := by
  simp only [pass]
  split
  · rw [share_provision, share_setCall apart]
    simp [share, Registry.set_other apart]
  · rw [share_setCall apart]
    simp [share, Registry.set_other apart]

private theorem share_settle (apart : gatewayId ≠ other)
    (result : GatewayChargeResult) :
    share gatewayId (registries.settle config now other number result).2 =
      share gatewayId registries := by
  simp only [settle]
  rw [share_setCall apart, share_set apart]

private theorem share_configure (apart : gatewayId ≠ other)
    (policy : GuardPolicy) :
    share gatewayId (registries.configure config now other policy) =
      share gatewayId registries := by
  obtain ⟨limits, circuit⟩ := policy
  cases limits <;> cases circuit <;>
    simp [share, GuardRegistries.configure, RateLimiterRegistry.configure,
      CircuitBreakerRegistry.configure, Registry.set_other apart]

private theorem share_health (apart : gatewayId ≠ other) :
    share gatewayId (registries.health config now other).2 =
      share gatewayId registries := by
  simp only [GuardRegistries.health]
  exact share_set apart _ _

/-- An operation on another gateway leaves the share of a gateway alone. -/
theorem share_apart (op : GuardOp) (apart : gatewayId ≠ op.gatewayId)
    (registries : GuardRegistries) :
    share gatewayId (registries.perform config now op).2 =
      share gatewayId registries := by
  cases op with
  | call other number =>
      simp only [perform]
      split
      · exact share_poll apart _
      · rfl
  | resume other number =>
      simp only [perform]
      split
      · split
        · exact share_poll apart _
        · rfl
      · exact share_pass apart
      · rfl
  | answer other number result =>
      simp only [perform]
      split
      · exact share_settle apart result
      · rfl
  | refund other transactionId => exact share_provision other
  | refunded other result => rfl
  | configure other policy => exact share_configure apart policy
  | health other => exact share_health apart

theorem share_refund {op : GuardOp} (refund : op.isRefund = true)
    (registries : GuardRegistries) :
    share gatewayId (registries.perform config now op).2 =
      share gatewayId registries := by
  cases op with
  | refund other transactionId => exact share_provision other
  | refunded other result => rfl
  | call | resume | answer | configure | health => cases refund

end PaymentQueue.GuardRegistries
