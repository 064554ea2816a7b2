import PaymentQueue.Payments.Saga

/-!
# Worker processor

`payment.processor.ts`: idempotency verification, execution lock, saga and
terminal state of one attempt, and the terminal handling of failures.
-/

namespace PaymentQueue

open Await PaymentSagaService

inductive ProcessResult where
  | completed (paymentId : PaymentId) (transactionId : Option String)
  | deadLetter (paymentId : PaymentId) (failureReason : String)
  | skipped (paymentId : PaymentId) (reason : String)
  deriving DecidableEq, Repr

/-- The fields of a BullMQ job that the processor reads. -/
structure JobHandle where
  id : String
  data : PaymentJobData
  attemptsMade : Nat
  deriving DecidableEq, Repr

namespace PaymentProcessor

variable {locals : Type} (config : AppConfig)

/-- The writes of `finalizeDeadLetter` on a record that is not terminal. -/
def deadLetter (latest : PaymentRecord) (paymentId : PaymentId)
    (reason : String) (correlationId : Option String) :
    Async locals ProcessResult := do
  let now ← Async.dateNow
  PaymentStore.save (transitionToDeadLetter latest reason now)
  IdempotencyService.finalize config paymentId .failed .deadLetter none
    (some reason)
  AuditLogService.record paymentId .paymentDeadLettered
    [("reason", .text reason)]
  EventBus.emit fun now =>
    .payment .failed paymentId latest.gatewayId correlationId .deadLetter now
      [("reason", .text reason)]
  EventBus.emit fun now =>
    .payment .deadLettered paymentId latest.gatewayId correlationId
      .deadLetter now [("reason", .text reason)]
  let deadLetteredAt ← Async.dateNow
  QueueManager.routeToDlq ⟨paymentId, correlationId, reason, deadLetteredAt⟩
  return .deadLetter paymentId reason

/-- Terminal handling for permanent failures and exhausted retries. -/
def finalizeDeadLetter (record : PaymentRecord) (reason : String)
    (correlationId : Option String) : Async locals ProcessResult := do
  let found ← PaymentStore.get record.id
  let latest := found.getD record
  if latest.status.terminal = true then
    return .skipped record.id s!"already {latest.status.text}"
  else
    deadLetter config latest record.id reason correlationId

def jobCompleted (job : JobHandle) (startedAt : Time) (ok : Bool) :
    OnRecord Unit := do
  let record ← Async.get
  EventBus.emit fun now =>
    .jobCompleted job.data.paymentId record.gatewayId ok (now - startedAt) now

/-- The `try` block around the saga. -/
def settleAttempt (job : JobHandle) (startedAt : Time) :
    OnRecord ProcessResult := do
  let outcome ← execute
  let completedAt ← Async.dateNow
  Async.modify fun record =>
    { transitionToCompleted record (some outcome.transactionId) completedAt with
      sagaState := .settled
      reservationId := some outcome.reservationId
      failureReason := none }
  saveRecord
  IdempotencyService.finalize config job.data.paymentId .completed .completed
    (some outcome.transactionId)
  AuditLogService.record job.data.paymentId .paymentCompleted
    [("transactionId", .text outcome.transactionId)]
  let record ← Async.get
  EventBus.emit fun now =>
    .payment .completed job.data.paymentId record.gatewayId
      job.data.correlationId .completed now []
  jobCompleted job startedAt true
  return .completed job.data.paymentId (some outcome.transactionId)

/-- The `catch` block around the saga: a permanent failure is dead-lettered,
a transient one is saved and rethrown for BullMQ to retry. -/
def failAttempt (job : JobHandle) (startedAt : Time) (error : Thrown) :
    OnRecord ProcessResult := do
  let record ← Async.get
  let failure := toPaymentProcessingError error record.gatewayId
  jobCompleted job startedAt false
  if failure.retryable = false then
    finalizeDeadLetter config record failure.message job.data.correlationId
  else do
    history .charge s!"transient failure ({failure.code.text}), will retry"
      failure.message
    saveRecord
    Async.throw (.processing failure)

/-- The critical section of `processJob`. -/
def attempt (job : JobHandle) (startedAt : Time) : OnRecord ProcessResult := do
  Async.modify fun record =>
    transitionToProcessing record job.attemptsMade startedAt
  saveRecord
  AuditLogService.record job.data.paymentId .paymentProcessing
    [("attempt", .number (job.attemptsMade + 1))]
  let record ← Async.get
  EventBus.emit fun _ =>
    .payment .processing job.data.paymentId record.gatewayId
      job.data.correlationId .processing startedAt
      [("attempt", .number (job.attemptsMade + 1))]
  Async.tryCatch (settleAttempt config job startedAt)
    (failAttempt config job startedAt)

/-- `attempt` with the `finally` that releases the execution lock. -/
def lockedAttempt (job : JobHandle) (startedAt : Time) :
    OnRecord ProcessResult :=
  Async.tryFinally (attempt config job startedAt)
    (IdempotencyService.releaseExecutionLock job.data.paymentId)

def processJob (job : JobHandle) : Async locals ProcessResult := do
  let startedAt ← Async.dateNow
  let found ← PaymentStore.get job.data.paymentId
  match found with
  | none =>
      Async.throw (.error
        s!"payment record {job.data.paymentId} not found while processing job {job.id}")
  | some record => do
      let idem ← IdempotencyService.get job.data.paymentId
      if (idem.any fun existing => existing.state.final) = true then
        return .skipped job.data.paymentId
          s!"already finalized as {record.status.text}"
      else do
        let locked ← IdempotencyService.acquireExecutionLock config
          job.data.paymentId
        if locked = false then
          return .skipped job.data.paymentId
            "concurrent execution lock held by another worker"
        else
          Async.scope record (lockedAttempt config job startedAt)

/-- Worker `failed` event handler: transient retries exhausted. -/
def handleJobFailure (jobData : PaymentJobData) (error : Thrown) :
    Async locals Unit := do
  let found ← PaymentStore.get jobData.paymentId
  match found with
  | none => return ()
  | some record =>
      if record.status.terminal = true then
        return ()
      else do
        let _ ← finalizeDeadLetter config record
          s!"retries exhausted: {error.message}" jobData.correlationId
        return ()

end PaymentProcessor

end PaymentQueue
