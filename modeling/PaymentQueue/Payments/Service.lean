import PaymentQueue.Payments.Processor

/-!
# Payment submission

`PaymentService.submit` of `payment.service.ts`.
-/

namespace PaymentQueue

open Await

structure CreatePaymentInput where
  id : PaymentId
  amount : Nat
  currency : String
  customerId : String
  gatewayId : String
  priority : Option PaymentPriority
  maxRetries : Option Nat
  scheduledAt : Option Time
  delayMs : Option Nat
  correlationId : Option String
  deriving DecidableEq, Repr

inductive SubmitPaymentResult where
  | created (payment : PaymentRecord)
  | replayed (payment : PaymentRecord)
  deriving DecidableEq, Repr

namespace PaymentService

variable {locals : Type} (config : AppConfig)

/-- `MAX_DELAY_MS`. -/
def maxDelayMs : Nat := 2147483000

/-- The claim with its stale-lease recovery: a `PROCESSING` record without a
stored payment is taken for a crashed submission, released and claimed
again. -/
def claimOrRecover (paymentId : PaymentId) : Async locals ClaimResult := do
  let claim ← IdempotencyService.claim config paymentId
  match claim with
  | .conflict record => do
      let existing ← PaymentStore.get paymentId
      match existing with
      | none => do
          IdempotencyService.release paymentId
          IdempotencyService.claim config paymentId
      | some _ => return .conflict record
  | claim => return claim

def newPayment (input : CreatePaymentInput) : NewPayment :=
  { id := input.id
    amount := input.amount
    currency := input.currency
    customerId := input.customerId
    gatewayId := input.gatewayId
    priority := input.priority.getD .normal
    maxRetries := input.maxRetries
    scheduledAt := input.scheduledAt
    correlationId := input.correlationId }

/-- The delay that is asked of the queue at clock value `now`. -/
def delayFor (input : CreatePaymentInput) (now : Time) : Nat :=
  match input.scheduledAt with
  | some scheduledAt => scheduledAt - now
  | none => input.delayMs.getD 0

def enqueueInput (record : PaymentRecord) (delayMs : Nat) :
    QueueManager.EnqueuePaymentJobInput :=
  { gatewayId := record.gatewayId
    paymentId := record.id
    correlationId := record.correlationId
    priority := record.priority
    maxRetries := record.maxRetries
    delayMs := some delayMs
    jobId := record.id }

/-- What a submission does after it won the claim. -/
def create (input : CreatePaymentInput) :
    Async locals SubmitPaymentResult := do
  let now ← Async.dateNow
  let record := createPaymentRecord (newPayment input) now
  AuditLogService.record input.id .paymentSubmitted
  PaymentStore.save record
  EventBus.emit fun now =>
    .payment .queued input.id record.gatewayId record.correlationId .queued
      now []
  let submittedAt ← Async.dateNow
  Async.tryCatch
    (QueueManager.enqueue (enqueueInput record (delayFor input submittedAt)))
    (fun error => do
      IdempotencyService.release input.id
      Async.throw
        (.badRequest s!"payment could not be queued: {error.message}"))
  return .created record

def submit (input : CreatePaymentInput) :
    Async locals SubmitPaymentResult := do
  let claim ← claimOrRecover config input.id
  match claim with
  | .replayed _ => do
      let existing ← PaymentStore.get input.id
      match existing with
      | some payment => return .replayed payment
      | none =>
          Async.throw (.notFound
            "payment already finalized but its record is missing (data inconsistency)"
            input.id)
  | .conflict _ => do
      let existing ← PaymentStore.get input.id
      Async.throw (.conflict "payment is already being processed" input.id
        ((existing.map fun payment => payment.status.text).getD "processing"))
  | .new => create input

end PaymentService

/-- The asynchronous functions that run against the shared world. -/
inductive Task where
  | submit (input : CreatePaymentInput)
  | process (job : JobHandle)
  | handleJobFailure (jobData : PaymentJobData) (error : Thrown)
  deriving DecidableEq, Repr

def Task.paymentId : Task → PaymentId
  | .submit input => input.id
  | .process job => job.data.paymentId
  | .handleJobFailure jobData _ => jobData.paymentId

def Task.submits : Task → Bool
  | .submit _ => true
  | _ => false

inductive Output where
  | submitted (result : SubmitPaymentResult)
  | processed (result : ProcessResult)
  | handled
  deriving DecidableEq, Repr

def Task.body (config : AppConfig) : Task → Async Unit Output
  | .submit input => do
      let result ← PaymentService.submit config input
      return .submitted result
  | .process job => do
      let result ← PaymentProcessor.processJob config job
      return .processed result
  | .handleJobFailure jobData error => do
      PaymentProcessor.handleJobFailure config jobData error
      return .handled

/-- Submissions, worker executions and failure handlers over Redis, BullMQ
and the gateways. -/
@[reducible] def paymentSystem (config : AppConfig) :
    Await.System signature where
  toMachine := machine config
  Task := Task
  Output := Except Thrown Output
  code := fun task time => (task.body config).start time
  Event := Event
  environment := environment

end PaymentQueue
