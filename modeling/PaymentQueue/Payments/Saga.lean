import PaymentQueue.Queue.Manager

/-!
# Payment Saga

`payment-saga.service.ts`: Reserve, Charge, Settle, with compensation.  The
mutable `record` that the caller shares with the saga is its local state.
-/

namespace PaymentQueue

open Await

/-- An asynchronous function that mutates the caller's payment record. -/
abbrev OnRecord (α : Type) : Type := Async PaymentRecord α

namespace PaymentSagaService

structure SagaOutcome where
  transactionId : String
  reservationId : String
  deriving DecidableEq, Repr

def saveRecord : OnRecord Unit := do
  let record ← Async.get
  PaymentStore.save record

def auditRecord (type : AuditEventType) (detail : Detail) : OnRecord Unit := do
  let record ← Async.get
  AuditLogService.record record.id type detail

def history (phase : SagaPhase) (event : String) (detail : String) :
    OnRecord Unit := do
  let now ← Async.dateNow
  Async.modify fun record =>
    { record with history := record.history ++ [⟨phase, event, some detail, now⟩] }

def emitPhase (phase : SagaPhase) (ok : Bool) : OnRecord Unit := do
  let record ← Async.get
  EventBus.emit fun now => .sagaPhase record.id record.gatewayId phase ok now

def callGuard : OnRecord CallOutcome := do
  let record ← Async.get
  awaitCommand (.guardCall record record.correlationId)

def releaseFunds (reservationId : String) : OnRecord Unit := do
  history .compensation "release_funds" reservationId
  auditRecord .sagaCompensateReleaseFunds
    [("reservationId", .text reservationId)]

def refundAlert (record : PaymentRecord) (transactionId : String)
    (error : PaymentProcessingError) (now : Time) : AppEvent :=
  .metricsAlert
    { id := s!"saga.compensation_failed.{record.id}"
      severity := .critical
      message := s!"CRITICAL: Payment {record.id} compensation refund failed for charge {transactionId}: {error.message}"
      raisedAt := now }
    now

/-- Compensation crosses the Guard too, but bypasses its gating. -/
def refundCharge (transactionId : String) : OnRecord Unit := do
  let record ← Async.get
  let refund ← awaitCommand
    (.guardRefund record.gatewayId transactionId)
  match (refund : RefundOutcome) with
  | .fail error => do
      history .compensation "refund_failed" s!"{error.code.text}: {error.message}"
      auditRecord .sagaCompensateRefundCharge
        [("transactionId", .text transactionId), ("ok", .flag false),
          ("failure", .text error.message)]
      EventBus.emit fun now => refundAlert record transactionId error now
  | .ok refundId _ => do
      Async.modify fun record => { record with refundId := some refundId }
      history .compensation "refund_charge" refundId
      auditRecord .sagaCompensateRefundCharge
        [("transactionId", .text transactionId), ("ok", .flag true),
          ("refundId", .text refundId)]

/-- Step 1: reserve funds. -/
def reserve : OnRecord String := do
  let record ← Async.get
  let now ← Async.dateNow
  let reservationId := s!"res_{record.id}_{toString36 now}"
  history .reserve "ok" reservationId
  Async.modify fun record => { record with sagaState := .reserved }
  saveRecord
  auditRecord .sagaReserve [("reservationId", .text reservationId)]
  emitPhase .reserve true
  return reservationId

/-- The refused or rejected charge of step 2. -/
def chargeFailed (reservationId : String) (error : PaymentProcessingError) :
    OnRecord SagaOutcome := do
  history .charge "failure" error.code.text
  releaseFunds reservationId
  saveRecord
  emitPhase .charge false
  Async.throw (.processing error)

/-- The accepted charge of step 2. -/
def charged (reservationId transactionId : String) (httpStatus : Nat) :
    OnRecord Unit := do
  Async.modify fun record =>
    { record with
      transactionId := some transactionId
      reservationId := some reservationId
      sagaState := .charged }
  history .charge "ok" transactionId
  saveRecord
  auditRecord .sagaCharge
    [("transactionId", .text transactionId), ("httpStatus", .number httpStatus)]
  emitPhase .charge true

def settleError (transactionId message gatewayId : String) :
    PaymentProcessingError :=
  ⟨s!"settle failed after successful charge ({message}); charge {transactionId} was refunded",
    .settleFailed, none, some gatewayId⟩

/-- The `catch` block of step 3. -/
def compensateSettle (reservationId transactionId : String) (error : Thrown) :
    OnRecord Unit := do
  history .settle "failure" error.message
  refundCharge transactionId
  releaseFunds reservationId
  Async.modify fun record => { record with sagaState := .compensated }
  saveRecord
  emitPhase .settle false
  let record ← Async.get
  Async.throw
    (.processing (settleError transactionId error.message record.gatewayId))

/-- Step 3: append to the settlement ledger. -/
def settle (reservationId transactionId : String) : OnRecord Unit :=
  Async.tryCatch
    (do
      let record ← Async.get
      let _ ← SettlementLedger.settle record transactionId
      return ())
    (compensateSettle reservationId transactionId)

def settled (transactionId : String) : OnRecord Unit := do
  Async.modify fun record => { record with sagaState := .settled }
  history .settle "ok" transactionId
  auditRecord .sagaSettle [("transactionId", .text transactionId)]
  emitPhase .settle true

/-- Execute the saga for one worker attempt. -/
def execute : OnRecord SagaOutcome := do
  let reservationId ← reserve
  let outcome ← callGuard
  match outcome with
  | .fail error => chargeFailed reservationId error
  | .ok transactionId httpStatus => do
      charged reservationId transactionId httpStatus
      settle reservationId transactionId
      settled transactionId
      return ⟨transactionId, reservationId⟩

end PaymentSagaService

end PaymentQueue
