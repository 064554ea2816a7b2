import Mathlib.Logic.Basic

/-!
# Error taxonomy

`domain/errors.ts`.  Transient errors are retried by the worker; permanent
errors never retry and route the payment to the Dead Letter Queue.
-/

namespace PaymentQueue

/-- `ERROR_CODES`. -/
inductive PaymentErrorCode where
  | circuitOpen
  | rateLimited
  | gatewayUnavailable
  | gatewayTimeout
  | serverError
  | networkError
  | cardDeclined
  | invalidCard
  | insufficientFunds
  | fraud
  | refundFailed
  | settleFailed
  | reserveFailed
  | unknown
  deriving DecidableEq, Repr

namespace PaymentErrorCode

def text : PaymentErrorCode → String
  | circuitOpen => "circuit_open"
  | rateLimited => "rate_limited"
  | gatewayUnavailable => "gateway_unavailable"
  | gatewayTimeout => "gateway_timeout"
  | serverError => "server_error"
  | networkError => "network_error"
  | cardDeclined => "card_declined"
  | invalidCard => "invalid_card"
  | insufficientFunds => "insufficient_funds"
  | fraud => "fraud"
  | refundFailed => "refund_failed"
  | settleFailed => "settle_failed"
  | reserveFailed => "reserve_failed"
  | unknown => "unknown"

end PaymentErrorCode

/-- `RETRYABLE_CODES`.  An unclassifiable failure is presumed transient. -/
def retryableCodes : List PaymentErrorCode :=
  [.circuitOpen, .rateLimited, .gatewayUnavailable, .gatewayTimeout,
    .serverError, .networkError, .unknown]

def isTransient (code : PaymentErrorCode) : Bool :=
  decide (code ∈ retryableCodes)

structure PaymentProcessingError where
  message : String
  code : PaymentErrorCode
  httpStatus : Option Nat
  gatewayId : Option String
  deriving DecidableEq, Repr

/-- Derived from the code, never supplied. -/
def PaymentProcessingError.retryable (error : PaymentProcessingError) : Bool :=
  isTransient error.code

def classifyHttpStatus (httpStatus : Nat) : PaymentErrorCode :=
  if httpStatus = 429 then .rateLimited
  else if httpStatus = 503 ∨ httpStatus = 502 then .gatewayUnavailable
  else if 500 ≤ httpStatus then .serverError
  else if httpStatus = 400 then .cardDeclined
  else if httpStatus = 402 then .insufficientFunds
  else if httpStatus = 401 then .fraud
  else .unknown

/-- The values thrown by the modelled functions: the domain's own error, a
plain `Error` (of a client library, or thrown by the code), and the HTTP
exceptions of the submission path. -/
inductive Thrown where
  | processing (error : PaymentProcessingError)
  | error (message : String)
  | badRequest (message : String)
  | conflict (message : String) (id : String) (status : String)
  | notFound (message : String) (id : String)
  deriving DecidableEq, Repr

def Thrown.message : Thrown → String
  | .processing failure => failure.message
  | .error message => message
  | .badRequest message => message
  | .conflict message _ _ => message
  | .notFound message _ => message

/-- Classify anything that is not already a classified failure. -/
def toPaymentProcessingError (raw : Thrown) (gatewayId : String)
    (fallbackCode : PaymentErrorCode := .unknown) : PaymentProcessingError :=
  match raw with
  | .processing error => error
  | raw => ⟨raw.message, fallbackCode, none, some gatewayId⟩

end PaymentQueue
