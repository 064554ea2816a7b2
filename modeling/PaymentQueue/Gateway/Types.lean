import PaymentQueue.Domain.Payment

/-!
# Payment Gateway contract

`gateway/gateway.types.ts` and the outcome types of `gateway-guard.ts`.  The
latency of a response is reported to no modelled caller and is left out.
-/

namespace PaymentQueue

structure GatewayFailure where
  code : PaymentErrorCode
  message : String
  httpStatus : Nat
  deriving DecidableEq, Repr

inductive GatewayChargeResult where
  | ok (transactionId : String) (httpStatus : Nat)
  | fail (failure : GatewayFailure)
  deriving DecidableEq, Repr

inductive GatewayRefundResult where
  | ok (refundId : String) (httpStatus : Nat)
  | fail (failure : GatewayFailure)
  deriving DecidableEq, Repr

inductive CallOutcome where
  | ok (transactionId : String) (httpStatus : Nat)
  | fail (error : PaymentProcessingError)
  deriving DecidableEq, Repr

inductive RefundOutcome where
  | ok (refundId : String) (httpStatus : Nat)
  | fail (error : PaymentProcessingError)
  deriving DecidableEq, Repr

inductive CircuitBreakerState where
  | closed
  | opened
  | halfOpen
  deriving DecidableEq, Repr

def CircuitBreakerState.text : CircuitBreakerState → String
  | .closed => "CLOSED"
  | .opened => "OPEN"
  | .halfOpen => "HALF_OPEN"

/-- The three ways through `GatewayGuard.call`: no token in time, a refusal
of the circuit breaker, or an answer of the gateway. -/
inductive GuardResponse where
  | noToken
  | circuitRefused (state : CircuitBreakerState)
  | answered (result : GatewayChargeResult)
  deriving DecidableEq, Repr

/-- `GatewayGuard.toProcessingError`. -/
def toProcessingError (failure : GatewayFailure) (gatewayId : String) :
    PaymentProcessingError :=
  ⟨failure.message, failure.code, some failure.httpStatus, some gatewayId⟩

/-- The outcome that `GatewayGuard.call` reports for each way through it. -/
def callOutcome (tokenWaitMs : Nat) (gatewayId : String) :
    GuardResponse → CallOutcome
  | .noToken =>
      .fail ⟨s!"gateway {gatewayId} rate limiter: no token within {tokenWaitMs}ms",
        .rateLimited, some 429, some gatewayId⟩
  | .circuitRefused state =>
      .fail ⟨s!"gateway {gatewayId} circuit is {state.text}; call fast-failed",
        .circuitOpen, some 503, some gatewayId⟩
  | .answered (.fail failure) => .fail (toProcessingError failure gatewayId)
  | .answered (.ok transactionId httpStatus) => .ok transactionId httpStatus

/-- `GatewayGuard.refund`. -/
def refundOutcome (gatewayId : String) : GatewayRefundResult → RefundOutcome
  | .ok refundId httpStatus => .ok refundId httpStatus
  | .fail failure => .fail (toProcessingError failure gatewayId)

end PaymentQueue
