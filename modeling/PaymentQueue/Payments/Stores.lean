import PaymentQueue.Runtime.World

/-!
# Stores of the payment path

`payment-store.service.ts`, `audit-log.service.ts`,
`settlement-ledger.service.ts`, `idempotency.service.ts` and the event bus.
Each function awaits exactly the commands of its source.  Tracing spans and
log lines have no effect on these and are left out.
-/

namespace PaymentQueue

open Await

abbrev Async (locals α : Type) : Type := Await.Async signature locals α

variable {locals : Type}

def awaitCommand (command : Command) : Async locals command.Result :=
  @Async.await signature locals command

def awaitStorage (command : StorageCommand) : Async locals command.Result :=
  awaitCommand (.storage command)

namespace EventBus

/-- Listeners run in process and their errors are swallowed. -/
def emit (event : Time → AppEvent) : Async locals Unit := do
  let now ← Async.dateNow
  awaitCommand (.emit (event now))

end EventBus

namespace PaymentStore

def save (record : PaymentRecord) : Async locals Unit :=
  awaitStorage (.hsetPayment record.id record)

/-- An unreadable document counts as missing. -/
def get (paymentId : PaymentId) : Async locals (Option PaymentRecord) := do
  let doc ← awaitStorage (.hgetPayment paymentId)
  return doc.bind Stored.parse?

end PaymentStore

namespace AuditLogService

def record (paymentId : PaymentId) (type : AuditEventType)
    (detail : Detail := []) : Async locals Unit := do
  let now ← Async.dateNow
  awaitStorage (.rpushAudit paymentId ⟨paymentId, type, now, detail⟩)

end AuditLogService

namespace SettlementLedger

def settle (payment : PaymentRecord) (transactionId : String) :
    Async locals SettlementEntry := do
  let now ← Async.dateNow
  let entry : SettlementEntry :=
    ⟨payment.id, transactionId, payment.amount, payment.currency,
      payment.customerId, payment.gatewayId, now⟩
  awaitStorage (.rpushSettlement entry)
  return entry

end SettlementLedger

inductive ClaimResult where
  | new
  | conflict (record : IdempotencyRecord)
  | replayed (record : IdempotencyRecord)
  deriving DecidableEq, Repr

namespace IdempotencyService

def get (paymentId : PaymentId) : Async locals (Option IdempotencyRecord) := do
  let raw ← awaitStorage (.getIdempotency paymentId)
  return raw.bind Stored.parse?

/-- The record that a claim and a lock acquisition write. -/
def processingRecord (paymentId : PaymentId) (claimedAt updatedAt : Time) :
    IdempotencyRecord :=
  ⟨paymentId, .processing, none, none, none, some claimedAt, some updatedAt⟩

/-- Atomically acquire an exclusive execution lock for worker processing. -/
def acquireExecutionLock (config : AppConfig) (paymentId : PaymentId) :
    Async locals Bool := do
  let acquired ← awaitStorage (.setNxLock paymentId config.leaseTtlSeconds)
  if acquired = false then
    return false
  else do
    let existing ← get paymentId
    let now ← Async.dateNow
    awaitStorage (.setIdempotency paymentId
      (processingRecord paymentId
        ((existing.bind IdempotencyRecord.claimedAt).getD now) now)
      config.leaseTtlSeconds)
    return true

/-- Release the execution lock after worker processing. -/
def releaseExecutionLock (paymentId : PaymentId) : Async locals Unit :=
  awaitStorage (.delLock paymentId)

/-- Phase 1: atomically claim a processing lease. -/
def claim (config : AppConfig) (paymentId : PaymentId) :
    Async locals ClaimResult := do
  let now ← Async.dateNow
  let record := processingRecord paymentId now now
  let acquired ← awaitStorage
    (.setNxIdempotency paymentId record config.leaseTtlSeconds)
  if acquired = true then
    return .new
  else do
    let existing ← get paymentId
    match existing with
    | none => return .conflict record
    | some existing =>
        if existing.state = .processing then return .conflict existing
        else return .replayed existing

/-- Release the lease without finalizing. -/
def release (paymentId : PaymentId) : Async locals Unit :=
  awaitStorage (.delIdempotency paymentId)

/-- The record that `finalize` writes over `previous`. -/
def finalRecord (paymentId : PaymentId) (state : IdempotencyState)
    (paymentStatus : PaymentStatus)
    (transactionId failureReason : Option String)
    (previous : Option IdempotencyRecord) (now : Time) : IdempotencyRecord :=
  ⟨paymentId, state, some paymentStatus, transactionId, failureReason,
    some ((previous.bind IdempotencyRecord.claimedAt).getD now), some now⟩

/-- Phase 2: persist the terminal state with the retention TTL. -/
def finalize (config : AppConfig) (paymentId : PaymentId)
    (state : IdempotencyState) (paymentStatus : PaymentStatus)
    (transactionId failureReason : Option String := none) :
    Async locals Unit := do
  let previous ← get paymentId
  let now ← Async.dateNow
  awaitStorage (.setIdempotency paymentId
    (finalRecord paymentId state paymentStatus transactionId failureReason
      previous now)
    config.retentionSeconds)

end IdempotencyService

end PaymentQueue
