import Mathlib.Logic.Function.Basic
import PaymentQueue.Await.Timed
import PaymentQueue.Gateway.Guard

/-!
# The guard over all gateways

`gateway/gateway-guard.ts` with its three registries:
`rate-limiter.registry.ts`, `circuit-breaker.registry.ts` and the adapters of
`MockGatewayRegistry`.  The buckets, breakers and adapters are created when a
gateway is first asked for.  A call of `GatewayGuard.call` is named by its
gateway and a number; an operation that no suspended call waits for does
nothing.  A call keeps the bucket and the breaker that it was handed, and the
registries never replace them, so it is the same to fetch them again.  The
answers of the gateways are part of the operations.
-/

namespace PaymentQueue

/-- A `Map` from gateway ids to the controls of the gateways. -/
abbrev Registry (Control : Type) := String → Option Control

namespace Registry

variable {Control : Type}

def set (gatewayId : String) (control : Control)
    (registry : Registry Control) : Registry Control :=
  Function.update registry gatewayId (some control)

@[simp] theorem set_self (gatewayId : String) (control : Control)
    (registry : Registry Control) :
    set gatewayId control registry gatewayId = some control := by
  rw [set, Function.update_self]

theorem set_other {gatewayId other : String} (apart : other ≠ gatewayId)
    (control : Control) (registry : Registry Control) :
    set gatewayId control registry other = registry other := by
  rw [set, Function.update_of_ne apart]

end Registry

namespace RateLimiterRegistry

variable (config : GuardConfig) (now : Time) (gatewayId : String)

def get (buckets : Registry AdaptiveTokenBucket) : AdaptiveTokenBucket :=
  (buckets gatewayId).getD (.create config.rateLimiter now)

def configure (overrides : TokenBucketOverrides)
    (buckets : Registry AdaptiveTokenBucket) : Registry AdaptiveTokenBucket :=
  let params := config.rateLimiter.override overrides
  buckets.set gatewayId
    (match buckets gatewayId with
    | some bucket => bucket.reconfigure params
    | none => .create params now)

/-- Overrides are dropped with the rest. -/
def resetAll (buckets : Registry AdaptiveTokenBucket) :
    Registry AdaptiveTokenBucket :=
  fun gatewayId => (buckets gatewayId).map
    (AdaptiveTokenBucket.reconfigure config.rateLimiter)

end RateLimiterRegistry

namespace CircuitBreakerRegistry

variable (config : GuardConfig) (gatewayId : String)

def get (breakers : Registry CircuitBreaker) : CircuitBreaker :=
  (breakers gatewayId).getD (.create config.circuitBreaker)

def configure (overrides : CircuitBreakerOverrides)
    (breakers : Registry CircuitBreaker) : Registry CircuitBreaker :=
  let params := config.circuitBreaker.override overrides
  breakers.set gatewayId
    (match breakers gatewayId with
    | some breaker => breaker.reconfigure params
    | none => .create params)

def reset (breakers : Registry CircuitBreaker) : Registry CircuitBreaker :=
  Function.update breakers gatewayId
    ((breakers gatewayId).map CircuitBreaker.reset)

/-- A breaker keeps the parameters that it was configured with. -/
def resetAll (breakers : Registry CircuitBreaker) :
    Registry CircuitBreaker :=
  fun gatewayId => (breakers gatewayId).map CircuitBreaker.reset

end CircuitBreakerRegistry

structure GuardRegistries where
  buckets : Registry AdaptiveTokenBucket
  breakers : Registry CircuitBreaker
  /-- The gateways whose adapter was provisioned. -/
  instances : Registry Unit
  /-- The calls of each gateway, by their numbers. -/
  calls : String → Nat → Option GuardCall

/-- The operations of the guard, cut where `call` and `refund` suspend. -/
inductive GuardOp where
  | call (gatewayId : String) (number : Nat)
  /-- The call resumes after its sleep or with its token. -/
  | resume (gatewayId : String) (number : Nat)
  | answer (gatewayId : String) (number : Nat) (result : GatewayChargeResult)
  | refund (gatewayId : String) (transactionId : String)
  | refunded (gatewayId : String) (result : GatewayRefundResult)
  | configure (gatewayId : String) (policy : GuardPolicy)
  | health (gatewayId : String)

namespace GuardOp

def gatewayId : GuardOp → String
  | call gatewayId _ => gatewayId
  | resume gatewayId _ => gatewayId
  | answer gatewayId _ _ => gatewayId
  | refund gatewayId _ => gatewayId
  | refunded gatewayId _ => gatewayId
  | configure gatewayId _ => gatewayId
  | health gatewayId => gatewayId

def isRefund : GuardOp → Bool
  | refund _ _ => true
  | refunded _ _ => true
  | _ => false

def isHealth : GuardOp → Bool
  | health _ => true
  | _ => false

end GuardOp

inductive GuardReply where
  | ignored
  /-- Where the call stands now. -/
  | stage (call : GuardCall)
  | refunding
  | refund (outcome : RefundOutcome)
  | configured
  | health (report : GatewayHealth)
  deriving DecidableEq

/-- The reply of an operation and the events that it emits for its
gateway. -/
structure GuardAnswer where
  reply : GuardReply
  events : List GuardEvent
  deriving DecidableEq

namespace GuardRegistries

variable (config : GuardConfig) (now : Time) (gatewayId : String)
  (number : Nat)

def empty : GuardRegistries :=
  { buckets := fun _ => none
    breakers := fun _ => none
    instances := fun _ => none
    calls := fun _ _ => none }

/-- The guard of one gateway, with the controls that the registries hand
out. -/
def guard (registries : GuardRegistries) : GatewayGuard :=
  { now
    bucket := RateLimiterRegistry.get config now gatewayId registries.buckets
    breaker := CircuitBreakerRegistry.get config gatewayId registries.breakers
    calls := []
    events := [] }

def setCall (call : GuardCall) (registries : GuardRegistries) :
    GuardRegistries :=
  { registries with
    calls := Function.update registries.calls gatewayId
      (Function.update (registries.calls gatewayId) number (some call)) }

/-- `MockGatewayRegistry.get`. -/
def provision (registries : GuardRegistries) : GuardRegistries :=
  { registries with
    instances := registries.instances.set gatewayId () }

/-- A round of `waitForToken`: the bucket is polled. -/
def poll (deadline : Time) (registries : GuardRegistries) :
    GuardAnswer × GuardRegistries :=
  let (call, guard) := (registries.guard config now gatewayId).pollToken
    config gatewayId deadline
  (⟨.stage call, []⟩,
    { registries with
      buckets := registries.buckets.set gatewayId guard.bucket }.setCall
      gatewayId number call)

/-- The breaker is asked for, and the gateway too if it lets the call
through. -/
def pass (registries : GuardRegistries) : GuardAnswer × GuardRegistries :=
  let (call, guard) := (registries.guard config now gatewayId).passGate
    config gatewayId
  let consulted := { registries with
      breakers := registries.breakers.set gatewayId guard.breaker }.setCall
    gatewayId number call
  (⟨.stage call, []⟩,
    if call.isCharging then consulted.provision gatewayId else consulted)

/-- The gateway has answered: both controls are told. -/
def settle (result : GatewayChargeResult) (registries : GuardRegistries) :
    GuardAnswer × GuardRegistries :=
  let (call, guard) := (registries.guard config now gatewayId).conclude
    gatewayId result
  (⟨.stage call, guard.events⟩,
    { registries with
      buckets := registries.buckets.set gatewayId guard.bucket
      breakers := registries.breakers.set gatewayId guard.breaker }.setCall
      gatewayId number call)

def configure (policy : GuardPolicy) (registries : GuardRegistries) :
    GuardRegistries :=
  { registries with
    buckets :=
      match policy.rateLimiter with
      | some overrides => RateLimiterRegistry.configure config now gatewayId
          overrides registries.buckets
      | none => registries.buckets
    breakers :=
      match policy.circuitBreaker with
      | some overrides => CircuitBreakerRegistry.configure config gatewayId
          overrides registries.breakers
      | none => registries.breakers }

def health (registries : GuardRegistries) :
    GuardAnswer × GuardRegistries :=
  let (report, guard) := (registries.guard config now gatewayId).health
  (⟨.health report, []⟩,
    { registries with
      buckets := registries.buckets.set gatewayId guard.bucket
      breakers := registries.breakers.set gatewayId guard.breaker })

def perform (config : GuardConfig) (now : Time) (op : GuardOp)
    (registries : GuardRegistries) : GuardAnswer × GuardRegistries :=
  match op with
  | .call gatewayId number =>
      match registries.calls gatewayId number with
      | none => registries.poll config now gatewayId number
          (now + config.rateLimiter.tokenWaitMs)
      | some _ => (⟨.ignored, []⟩, registries)
  | .resume gatewayId number =>
      match registries.calls gatewayId number with
      | some (.waiting deadline wakesAt) =>
          if wakesAt ≤ now then
            registries.poll config now gatewayId number deadline
          else (⟨.ignored, []⟩, registries)
      | some .granted => registries.pass config now gatewayId number
      | _ => (⟨.ignored, []⟩, registries)
  | .answer gatewayId number result =>
      match registries.calls gatewayId number with
      | some (.charging _) =>
          registries.settle config now gatewayId number result
      | _ => (⟨.ignored, []⟩, registries)
  | .refund gatewayId _ =>
      (⟨.refunding, []⟩, registries.provision gatewayId)
  | .refunded gatewayId result =>
      (⟨.refund (refundOutcome gatewayId result), []⟩, registries)
  | .configure gatewayId policy =>
      (⟨.configured, []⟩, registries.configure config now gatewayId policy)
  | .health gatewayId => registries.health config now gatewayId

end GuardRegistries

end PaymentQueue
