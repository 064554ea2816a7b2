import PaymentQueue.Await.Transition
import PaymentQueue.Gateway.CircuitBreaker
import PaymentQueue.Gateway.TokenBucket

/-!
# The guard of one gateway, with concurrent calls

`gateway/gateway-guard.ts` over the bucket and the breaker of one gateway.
`GatewayGuard.call` suspends while it waits for a token, when it has been
granted one, and while the gateway handles the charge; between two suspensions
it runs without interruption.  The machine below takes any number of calls
through these suspensions in any order, with any answers of the gateway.
-/

namespace PaymentQueue

/-- `config.rateLimiter` and `config.circuitBreaker`. -/
structure GuardConfig where
  rateLimiter : TokenBucketParams
  circuitBreaker : CircuitBreakerParams
  deriving DecidableEq

/-- Defaults of `buildConfig`. -/
def GuardConfig.default : GuardConfig :=
  { rateLimiter :=
      { nominalRps := 20
        burstFactor := 2
        minRateFactor := 1 / 4
        aiStepRps := 1
        tokenWaitMs := 15000 }
    circuitBreaker :=
      { windowMs := 30000
        failureThreshold := 1 / 2
        minSamples := 10
        cooldownMs := 30000 } }

/-- Where a call of `GatewayGuard.call` stands. -/
inductive GuardCall where
  /-- Asleep in `waitForToken`. -/
  | waiting (deadline wakesAt : Time)
  /-- A token was taken; the breaker is consulted next. -/
  | granted
  /-- The gateway handles the charge; the call was admitted in this state. -/
  | charging (gate : CircuitBreakerState)
  | ended (outcome : CallOutcome)
  deriving DecidableEq, Repr

/-- The call has not returned yet. -/
def GuardCall.inFlight : GuardCall → Bool
  | ended _ => false
  | _ => true

def GuardCall.isCharging : GuardCall → Bool
  | charging _ => true
  | _ => false

/-- `TokenBucketParams` with optional fields, for `configure`. -/
structure TokenBucketOverrides where
  nominalRps : Option ℚ
  burstFactor : Option ℚ
  minRateFactor : Option ℚ
  aiStepRps : Option ℚ
  tokenWaitMs : Option Nat

structure CircuitBreakerOverrides where
  windowMs : Option ℚ
  failureThreshold : Option ℚ
  minSamples : Option ℚ
  cooldownMs : Option ℚ

structure GuardPolicy where
  rateLimiter : Option TokenBucketOverrides
  circuitBreaker : Option CircuitBreakerOverrides

def TokenBucketParams.override (params : TokenBucketParams)
    (overrides : TokenBucketOverrides) : TokenBucketParams :=
  { nominalRps := overrides.nominalRps.getD params.nominalRps
    burstFactor := overrides.burstFactor.getD params.burstFactor
    minRateFactor := overrides.minRateFactor.getD params.minRateFactor
    aiStepRps := overrides.aiStepRps.getD params.aiStepRps
    tokenWaitMs := overrides.tokenWaitMs.getD params.tokenWaitMs }

def CircuitBreakerParams.override (params : CircuitBreakerParams)
    (overrides : CircuitBreakerOverrides) : CircuitBreakerParams :=
  { windowMs := overrides.windowMs.getD params.windowMs
    failureThreshold :=
      overrides.failureThreshold.getD params.failureThreshold
    minSamples := overrides.minSamples.getD params.minSamples
    cooldownMs := overrides.cooldownMs.getD params.cooldownMs }

/-- The events that the registries emit for a gateway. -/
inductive GuardEvent where
  | throttled (atTime : Time)
  | circuit (event : CircuitEvent) (atTime : Time)
  deriving DecidableEq, Repr

structure GatewayGuard where
  now : Time
  bucket : AdaptiveTokenBucket
  breaker : CircuitBreaker
  calls : List GuardCall
  events : List GuardEvent
  deriving DecidableEq

structure GatewayHealth where
  state : CircuitBreakerState
  stats : WindowStats
  tripCount : Nat
  rate : ℚ
  burst : ℚ
  tokens : ℚ
  throttleCount : Nat
  deriving DecidableEq

namespace GatewayGuard

variable (config : GuardConfig) (gatewayId : String)

def create (now : Time) : GatewayGuard :=
  { now
    bucket := .create config.rateLimiter now
    breaker := .create config.circuitBreaker
    calls := []
    events := [] }

/-- One round of the loop of `waitForToken`. -/
def pollToken (deadline : Time) (guard : GatewayGuard) :
    GuardCall × GatewayGuard :=
  match guard.bucket.tryAcquire guard.now with
  | (true, bucket) => (.granted, { guard with bucket })
  | (false, bucket) =>
      if deadline ≤ guard.now then
        (.ended (callOutcome config.rateLimiter.tokenWaitMs gatewayId
          .noToken), { guard with bucket })
      else
        (.waiting deadline
          (guard.now + min 15 (max 5 (deadline - guard.now))),
          { guard with bucket })

/-- A call begins with its first poll of the bucket. -/
def beginCall (guard : GatewayGuard) : GuardCall × GatewayGuard :=
  pollToken config gatewayId
    (guard.now + config.rateLimiter.tokenWaitMs) guard

/-- A call with a token consults the breaker. -/
def passGate (guard : GatewayGuard) : GuardCall × GatewayGuard :=
  match guard.breaker.allowCall guard.now with
  | (⟨true, state⟩, breaker) => (.charging state, { guard with breaker })
  | (⟨false, state⟩, breaker) =>
      (.ended (callOutcome config.rateLimiter.tokenWaitMs gatewayId
        (.circuitRefused state)), { guard with breaker })

/-- Feed an outcome back to the breaker. -/
def report (ok : Bool) (guard : GatewayGuard) : GatewayGuard :=
  let (breaker, event) := guard.breaker.recordOutcome ok guard.now
  { guard with
    breaker
    events := guard.events ++
      (event.map fun event => .circuit event guard.now).toList }

def throttle (guard : GatewayGuard) : GatewayGuard :=
  { guard with
    bucket := guard.bucket.onThrottled
    events := guard.events ++ [.throttled guard.now] }

/-- Only throttling sheds load, and only provider degradation samples the
breaker. -/
def shed (failure : GatewayFailure) (guard : GatewayGuard) : GatewayGuard :=
  if failure.httpStatus = 429 ∨ failure.httpStatus = 503 then guard.throttle
  else guard

/-- The gateway has answered the charge. -/
def conclude (result : GatewayChargeResult) (guard : GatewayGuard) :
    GuardCall × GatewayGuard :=
  match result with
  | .fail failure =>
      let error := toProcessingError failure gatewayId
      let shed := guard.shed failure
      (.ended (.fail error),
        if error.retryable then shed.report false else shed)
  | .ok transactionId httpStatus =>
      let reported := guard.report true
      (.ended (.ok transactionId httpStatus),
        { reported with bucket := reported.bucket.onSuccess })

def configure (policy : GuardPolicy) (guard : GatewayGuard) : GatewayGuard :=
  { guard with
    bucket :=
      match policy.rateLimiter with
      | some overrides =>
          guard.bucket.reconfigure (config.rateLimiter.override overrides)
      | none => guard.bucket
    breaker :=
      match policy.circuitBreaker with
      | some overrides =>
          guard.breaker.reconfigure
            (config.circuitBreaker.override overrides)
      | none => guard.breaker }

def health (guard : GatewayGuard) : GatewayHealth × GatewayGuard :=
  let (snapshot, breaker) := guard.breaker.getState guard.now
  let (state, bucket) := guard.bucket.getState guard.now
  (⟨snapshot.state, snapshot.stats, snapshot.tripCount, state.rate,
    state.burst, state.tokens, state.throttleCount⟩,
    { guard with breaker, bucket })

/-- The call moves on, and so does the guard. -/
def setCall (index : Nat) (moved : GuardCall × GatewayGuard) : GatewayGuard :=
  { moved.2 with calls := moved.2.calls.set index moved.1 }

def addCall (moved : GuardCall × GatewayGuard) : GatewayGuard :=
  { moved.2 with calls := moved.2.calls ++ [moved.1] }

inductive Label where
  | tick (elapsed : Nat)
  | call
  /-- A call resumes after its sleep or with its token. -/
  | resume (index : Nat)
  | answer (index : Nat) (result : GatewayChargeResult)
  | configure (policy : GuardPolicy)
  | health

def step (label : Label) (guard : GatewayGuard) : Option GatewayGuard :=
  match label with
  | .tick elapsed => some { guard with now := guard.now + elapsed }
  | .call => some (addCall (guard.beginCall config gatewayId))
  | .resume index =>
      match guard.calls[index]? with
      | some (.waiting deadline wakesAt) =>
          if wakesAt ≤ guard.now then
            some (setCall index (guard.pollToken config gatewayId deadline))
          else none
      | some .granted =>
          some (setCall index (guard.passGate config gatewayId))
      | _ => none
  | .answer index result =>
      match guard.calls[index]? with
      | some (.charging _) =>
          some (setCall index (guard.conclude gatewayId result))
      | _ => none
  | .configure policy => some (guard.configure config policy)
  | .health => some guard.health.2

end GatewayGuard

end PaymentQueue
