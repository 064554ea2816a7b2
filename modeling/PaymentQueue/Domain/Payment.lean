import PaymentQueue.Domain.Errors

/-!
# Payment domain model

`domain/payment.ts` and the event payloads of `common/event-bus.ts`.  A
timestamp is the number of milliseconds that the source writes as an ISO
string.  An absent JSON field is `none`.
-/

namespace PaymentQueue

abbrev PaymentId := String

/-- Milliseconds since the epoch. -/
abbrev Time := Nat

inductive PaymentPriority where
  | high
  | normal
  | low
  deriving DecidableEq, Repr

/-- `PRIORITY_TO_NUMERIC`: lower is sooner. -/
def PaymentPriority.toNumeric : PaymentPriority → Nat
  | .high => 1
  | .normal => 2
  | .low => 3

inductive PaymentStatus where
  | queued
  | processing
  | completed
  | failed
  | deadLetter
  deriving DecidableEq, Repr

namespace PaymentStatus

def text : PaymentStatus → String
  | queued => "queued"
  | processing => "processing"
  | completed => "completed"
  | failed => "failed"
  | deadLetter => "dead_letter"

/-- The two statuses at which `finalizeDeadLetter` and `handleJobFailure`
stop. -/
def terminal : PaymentStatus → Bool
  | completed => true
  | deadLetter => true
  | _ => false

end PaymentStatus

/-- `DEFAULT_MAX_RETRIES`. -/
def defaultMaxRetries : Nat := 3

inductive SagaPhase where
  | reserve
  | charge
  | settle
  | compensation
  deriving DecidableEq, Repr

inductive SagaState where
  | idle
  | reserved
  | charged
  | settled
  | compensated
  | failed
  deriving DecidableEq, Repr

structure SagaHistoryEntry where
  phase : SagaPhase
  event : String
  detail : Option String
  atTime : Time
  deriving DecidableEq, Repr

/-- `PaymentRecord`, without the `metadata` and `jobId` fields, which no code
reads. -/
structure PaymentRecord where
  id : PaymentId
  amount : Nat
  currency : String
  customerId : String
  gatewayId : String
  priority : PaymentPriority
  maxRetries : Nat
  createdAt : Time
  scheduledAt : Option Time
  status : PaymentStatus
  retryCount : Nat
  sagaState : SagaState
  history : List SagaHistoryEntry
  reservationId : Option String
  transactionId : Option String
  refundId : Option String
  failureReason : Option String
  correlationId : Option String
  processedAt : Option Time
  completedAt : Option Time
  deriving DecidableEq, Repr

/-- Input of `createPaymentRecord`. -/
structure NewPayment where
  id : PaymentId
  amount : Nat
  currency : String
  customerId : String
  gatewayId : String
  priority : PaymentPriority
  maxRetries : Option Nat
  scheduledAt : Option Time
  correlationId : Option String

def createPaymentRecord (input : NewPayment) (now : Time) : PaymentRecord :=
  { id := input.id
    amount := input.amount
    currency := input.currency
    customerId := input.customerId
    gatewayId := input.gatewayId
    priority := input.priority
    maxRetries := input.maxRetries.getD defaultMaxRetries
    createdAt := now
    scheduledAt := input.scheduledAt
    status := .queued
    retryCount := 0
    sagaState := .idle
    history := []
    reservationId := none
    transactionId := none
    refundId := none
    failureReason := none
    correlationId := input.correlationId
    processedAt := none
    completedAt := none }

def transitionToProcessing (record : PaymentRecord) (attempt : Nat)
    (now : Time) : PaymentRecord :=
  { record with
    status := .processing
    retryCount := attempt
    processedAt := some now
    history := record.history ++
      [⟨.reserve, s!"attempt {attempt + 1} started", none, now⟩] }

/-- An absent or empty transaction id leaves the field as it is. -/
def transitionToCompleted (record : PaymentRecord)
    (transactionId : Option String) (now : Time) : PaymentRecord :=
  { record with
    status := .completed
    completedAt := some now
    transactionId :=
      match transactionId with
      | some transactionId =>
          if transactionId = "" then record.transactionId
          else some transactionId
      | none => record.transactionId }

def transitionToDeadLetter (record : PaymentRecord) (reason : String)
    (now : Time) : PaymentRecord :=
  { record with
    status := .deadLetter
    failureReason := some reason
    history := record.history ++
      [⟨.compensation, "dead_lettered", some reason, now⟩] }

section Transitions

variable (record : PaymentRecord) (attempt : Nat) (now : Time)
  (reason : String) (transactionId : Option String)

@[simp] theorem createPaymentRecord_id (input : NewPayment) (now : Time) :
    (createPaymentRecord input now).id = input.id := rfl

@[simp] theorem createPaymentRecord_status (input : NewPayment) (now : Time) :
    (createPaymentRecord input now).status = .queued := rfl

@[simp] theorem transitionToProcessing_id :
    (transitionToProcessing record attempt now).id = record.id := rfl

@[simp] theorem transitionToProcessing_status :
    (transitionToProcessing record attempt now).status = .processing := rfl

@[simp] theorem transitionToProcessing_gatewayId :
    (transitionToProcessing record attempt now).gatewayId =
      record.gatewayId := rfl

@[simp] theorem transitionToCompleted_id :
    (transitionToCompleted record transactionId now).id = record.id := rfl

@[simp] theorem transitionToCompleted_status :
    (transitionToCompleted record transactionId now).status =
      .completed := rfl

/-- Completing with the transaction the record already carries keeps it. -/
theorem transitionToCompleted_transactionId {transaction : String}
    (carried : record.transactionId = some transaction) :
    (transitionToCompleted record (some transaction) now).transactionId =
      some transaction := by
  by_cases empty : transaction = ""
  · simp [transitionToCompleted, empty, carried]
  · simp [transitionToCompleted, empty]

@[simp] theorem transitionToDeadLetter_id :
    (transitionToDeadLetter record reason now).id = record.id := rfl

@[simp] theorem transitionToDeadLetter_status :
    (transitionToDeadLetter record reason now).status = .deadLetter := rfl

@[simp] theorem transitionToDeadLetter_failureReason :
    (transitionToDeadLetter record reason now).failureReason =
      some reason := rfl

end Transitions

inductive IdempotencyState where
  | processing
  | completed
  | failed
  deriving DecidableEq, Repr

/-- `COMPLETED` and `FAILED`. -/
def IdempotencyState.final : IdempotencyState → Bool
  | .processing => false
  | .completed => true
  | .failed => true

/-- Two-phase idempotency record (ADR 0002). -/
structure IdempotencyRecord where
  paymentId : PaymentId
  state : IdempotencyState
  paymentStatus : Option PaymentStatus
  transactionId : Option String
  failureReason : Option String
  claimedAt : Option Time
  updatedAt : Option Time
  deriving DecidableEq, Repr

/-- The audit event types that the code writes. -/
inductive AuditEventType where
  | paymentSubmitted
  | paymentProcessing
  | paymentCompleted
  | paymentDeadLettered
  | sagaReserve
  | sagaCharge
  | sagaSettle
  | sagaCompensateReleaseFunds
  | sagaCompensateRefundCharge
  deriving DecidableEq, Repr

/-- Values of the `detail` objects. -/
inductive DetailValue where
  | text (value : String)
  | number (value : Nat)
  | flag (value : Bool)
  deriving DecidableEq, Repr

abbrev Detail := List (String × DetailValue)

structure AuditEvent where
  paymentId : PaymentId
  type : AuditEventType
  atTime : Time
  detail : Detail
  deriving DecidableEq, Repr

structure SettlementEntry where
  paymentId : PaymentId
  transactionId : String
  amount : Nat
  currency : String
  customerId : String
  gatewayId : String
  settledAt : Time
  deriving DecidableEq, Repr

/-- Payload carried inside BullMQ jobs. -/
structure PaymentJobData where
  paymentId : PaymentId
  correlationId : Option String
  deriving DecidableEq, Repr

structure DlqEntry where
  paymentId : PaymentId
  correlationId : Option String
  reason : String
  deadLetteredAt : Time
  deriving DecidableEq, Repr

inductive AlertSeverity where
  | critical
  | warning
  deriving DecidableEq, Repr

structure MetricsAlertPayload where
  id : String
  severity : AlertSeverity
  message : String
  raisedAt : Time
  deriving DecidableEq, Repr

inductive PaymentEventType where
  | queued
  | processing
  | completed
  | failed
  | deadLettered
  deriving DecidableEq, Repr

/-- The events that the payment path puts on the bus. -/
inductive AppEvent where
  | payment (type : PaymentEventType) (paymentId : PaymentId)
      (gatewayId : String) (correlationId : Option String)
      (status : PaymentStatus) (atTime : Time) (detail : Detail)
  | jobCompleted (paymentId : PaymentId) (gatewayId : String) (ok : Bool)
      (durationMs : Nat) (atTime : Time)
  | sagaPhase (paymentId : PaymentId) (gatewayId : String)
      (phase : SagaPhase) (ok : Bool) (atTime : Time)
  | metricsAlert (alert : MetricsAlertPayload) (atTime : Time)
  deriving DecidableEq, Repr

/-- `Number.prototype.toString(36)` on a natural number. -/
def toString36 (value : Nat) : String :=
  String.ofList (go (value + 1) value [])
where
  digit (value : Nat) : Char :=
    if value < 10 then Char.ofNat (48 + value) else Char.ofNat (87 + value)
  go : Nat → Nat → List Char → List Char
    | 0, _, digits => digits
    | fuel + 1, value, digits =>
        if value < 36 then digit value :: digits
        else go fuel (value / 36) (digit (value % 36) :: digits)

end PaymentQueue
