import PaymentQueue.Await.Upholds
import PaymentQueue.Payments.Service

/-!
# What the functions put into their commands

The functions of the payment path pass on what they were given: the payment
id, the gateway, the correlation id and the order of the record they work on.
A footprint that permits the commands made of such data permits the functions.
-/

namespace PaymentQueue

open Await PaymentSagaService PaymentProcessor

/-- What a submission asks for. -/
structure Order where
  id : PaymentId
  amount : Nat
  currency : String
  customerId : String
  gatewayId : String
  priority : PaymentPriority
  maxRetries : Nat
  scheduledAt : Option Time
  correlationId : Option String
  deriving DecidableEq

def PaymentRecord.order (record : PaymentRecord) : Order :=
  { id := record.id
    amount := record.amount
    currency := record.currency
    customerId := record.customerId
    gatewayId := record.gatewayId
    priority := record.priority
    maxRetries := record.maxRetries
    scheduledAt := record.scheduledAt
    correlationId := record.correlationId }

/-- The data that the commands of a footprint may be made of, charges and
their consequences apart. -/
structure Terms (footprint : Footprint signature) where
  /-- The order is one of the payment. -/
  own : PaymentId → Order → Prop
  named : PaymentId → Prop
  concerns : PaymentId → String → Prop
  carried : PaymentId → Option String → Prop
  own_self : ∀ {id order}, own id order → own order.id order
  own_named : ∀ {id order}, own id order → named id
  own_concerns : ∀ {id order}, own id order → concerns id order.gatewayId
  own_correlated : ∀ {id order}, own id order →
    carried id order.correlationId
  own_carried : ∀ {id order correlationId}, own id order →
    carried id correlationId → carried order.id correlationId
  loads : ∀ id, footprint.permitted (.storage (.hgetPayment id))
  loaded : ∀ {id doc record},
    footprint.replies (.storage (.hgetPayment id)) (.ok doc) →
    doc.bind Stored.parse? = some record → own id record.order
  saves : ∀ record, own record.id record.order →
    footprint.permitted (.storage (.hsetPayment record.id record))
  reads : ∀ id, footprint.permitted (.storage (.getIdempotency id))
  claims : ∀ id record ttlSeconds, named id → record.paymentId = id →
    footprint.permitted (.storage (.setNxIdempotency id record ttlSeconds))
  marks : ∀ id record ttlSeconds, named id → record.paymentId = id →
    footprint.permitted (.storage (.setIdempotency id record ttlSeconds))
  releases : ∀ id, footprint.permitted (.storage (.delIdempotency id))
  audits : ∀ id event, named id → event.paymentId = id →
    footprint.permitted (.storage (.rpushAudit id event))
  readies : ∀ queue, footprint.permitted (.storage (.queueReady queue))
  enqueues : ∀ record delayMs, own record.id record.order →
    footprint.permitted (.storage (.queueAdd
      (QueueManager.queueNameFor record.gatewayId) record.id
      (.payment ⟨record.id, record.correlationId⟩)
      (QueueManager.jobOptions (PaymentService.enqueueInput record delayMs))))
  routes : ∀ entry, carried entry.paymentId entry.correlationId →
    footprint.permitted (.storage (.queueAdd QueueManager.dlqQueueName
      entry.paymentId (.deadLetter entry)
      { priority := 0, delay := 0, attempts := 1 }))
  announces : ∀ type id gatewayId correlationId status time detail,
    type ≠ .completed → concerns id gatewayId → carried id correlationId →
    footprint.permitted
      (.emit (.payment type id gatewayId correlationId status time detail))
  reports : ∀ id gatewayId durationMs time, concerns id gatewayId →
    footprint.permitted
      (.emit (.jobCompleted id gatewayId false durationMs time))
  phases : ∀ id gatewayId phase ok time, concerns id gatewayId →
    footprint.permitted (.emit (.sagaPhase id gatewayId phase ok time))

namespace Terms

variable {footprint : Footprint signature} (terms : Terms footprint)
  {config : AppConfig} {id : PaymentId}

/-- The shared record is one of the payment. -/
def On (id : PaymentId) (record : PaymentRecord) : Prop :=
  terms.own id record.order

section Services

variable {locals α : Type} {inside : locals → Prop}

theorem stays_emit {event : Time → AppEvent}
    (permitted : ∀ now, footprint.permitted (.emit (event now))) :
    Async.Stays footprint inside (EventBus.emit event) :=
  Async.stays_bind Async.stays_dateNow fun now =>
    Async.stays_await (permitted now)

include terms

theorem stays_audit (named : terms.named id) (type : AuditEventType)
    (detail : Detail) :
    Async.Stays footprint inside (AuditLogService.record id type detail) :=
  Async.stays_bind Async.stays_dateNow fun _ =>
    Async.stays_await (terms.audits id _ named rfl)

theorem stays_save {record : PaymentRecord}
    (owned : terms.own id record.order) :
    Async.Stays footprint inside (PaymentStore.save record) :=
  Async.stays_await (terms.saves record (terms.own_self owned))

/-- A record that is found is one of the payment. -/
theorem stays_storeGet_bind
    {next : Option PaymentRecord → Async locals α}
    (rest : ∀ found,
      (∀ record, found = some record → terms.own id record.order) →
      Async.Stays footprint inside (next found)) :
    Async.Stays footprint inside (PaymentStore.get id >>= next) := by
  intro vars held
  refine Async.uses_bind (Async.uses_bind ?_)
  refine @Async.uses_await signature _ _ _ (.storage (.hgetPayment id)) _
    (terms.loads id) ?_
  intro outcome replied
  cases outcome with
  | ok doc =>
      exact Async.uses_pure
        (rest _ (fun _ => terms.loaded replied) vars held)
  | error error => exact held

theorem stays_idempotencyGet :
    Async.Stays footprint inside (IdempotencyService.get id) :=
  Async.stays_bind (Async.stays_await (terms.reads id)) fun _ =>
    Async.stays_pure _

theorem stays_finalize (named : terms.named id) (state : IdempotencyState)
    (status : PaymentStatus) (transactionId failureReason : Option String) :
    Async.Stays footprint inside
      (IdempotencyService.finalize config id state status transactionId
        failureReason) :=
  Async.stays_bind terms.stays_idempotencyGet fun _ =>
    Async.stays_bind Async.stays_dateNow fun _ =>
      Async.stays_await (terms.marks id _ _ named rfl)

private theorem stays_claim (named : terms.named id) :
    Async.Stays footprint inside (IdempotencyService.claim config id) := by
  refine Async.stays_bind Async.stays_dateNow fun now => ?_
  refine Async.stays_bind
    (Async.stays_await (terms.claims id _ _ named rfl)) fun acquired => ?_
  split
  · exact Async.stays_pure _
  · refine Async.stays_bind terms.stays_idempotencyGet fun existing => ?_
    split
    · exact Async.stays_pure _
    · split
      · exact Async.stays_pure _
      · exact Async.stays_pure _

private theorem stays_release :
    Async.Stays footprint inside (IdempotencyService.release id) :=
  Async.stays_await (terms.releases id)

/-- What follows a successful `SET NX` in `acquireExecutionLock`. -/
theorem stays_entered (named : terms.named id) :
    Async.Stays footprint inside (do
      let existing ← IdempotencyService.get id
      let now ← Async.dateNow
      awaitStorage (.setIdempotency id
        (IdempotencyService.processingRecord id
          ((existing.bind IdempotencyRecord.claimedAt).getD now) now)
        config.leaseTtlSeconds)
      return true : Async locals Bool) := by
  refine Async.stays_bind terms.stays_idempotencyGet fun existing => ?_
  refine Async.stays_bind Async.stays_dateNow fun now => ?_
  refine Async.stays_bind ?_ fun _ => Async.stays_pure _
  exact Async.stays_await (terms.marks id _ _ named rfl)

theorem stays_acquireExecutionLock (named : terms.named id)
    (locks : footprint.permitted
      (.storage (.setNxLock id config.leaseTtlSeconds))) :
    Async.Stays footprint inside
      (IdempotencyService.acquireExecutionLock config id) := by
  refine Async.stays_bind (Async.stays_await locks) fun acquired => ?_
  split
  · exact Async.stays_pure _
  · exact terms.stays_entered named

private theorem stays_routeToDlq {entry : DlqEntry}
    (carried : terms.carried entry.paymentId entry.correlationId) :
    Async.Stays footprint inside (QueueManager.routeToDlq entry) :=
  Async.stays_bind (Async.stays_await (terms.readies _)) fun _ =>
    Async.stays_await (terms.routes entry carried)

private theorem stays_enqueue {record : PaymentRecord} (delayMs : Nat)
    (owned : terms.own id record.order) :
    Async.Stays footprint inside
      (QueueManager.enqueue (PaymentService.enqueueInput record delayMs)) :=
  Async.stays_bind (Async.stays_await (terms.readies _)) fun _ =>
    Async.stays_await
      (terms.enqueues record delayMs (terms.own_self owned))

private theorem stays_deadLetter {latest : PaymentRecord}
    {correlationId : Option String} (owned : terms.own id latest.order)
    (carried : terms.carried id correlationId) (reason : String) :
    Async.Stays footprint inside
      (deadLetter config latest id reason correlationId) := by
  have named := terms.own_named owned
  have concerns := terms.own_concerns owned
  refine Async.stays_bind Async.stays_dateNow fun now => ?_
  refine Async.stays_bind (terms.stays_save owned) fun _ => ?_
  refine Async.stays_bind (terms.stays_finalize named _ _ _ _) fun _ => ?_
  refine Async.stays_bind (terms.stays_audit named _ _) fun _ => ?_
  refine Async.stays_bind (stays_emit fun _ =>
    terms.announces _ _ _ _ _ _ _ nofun concerns carried) fun _ => ?_
  refine Async.stays_bind (stays_emit fun _ =>
    terms.announces _ _ _ _ _ _ _ nofun concerns carried) fun _ => ?_
  refine Async.stays_bind Async.stays_dateNow fun _ => ?_
  exact Async.stays_bind (terms.stays_routeToDlq carried) fun _ =>
    Async.stays_pure _

theorem stays_finalizeDeadLetter {record : PaymentRecord}
    {correlationId : Option String} (owned : terms.own id record.order)
    (carried : terms.carried id correlationId) (reason : String) :
    Async.Stays footprint inside
      (finalizeDeadLetter config record reason correlationId) := by
  apply terms.stays_storeGet_bind
  intro found stored
  have latest : terms.own record.id (found.getD record).order := by
    cases found with
    | none => exact terms.own_self owned
    | some latest => exact stored latest rfl
  show Async.Stays _ _ (if (found.getD record).status.terminal then _ else _)
  split
  · exact Async.stays_pure _
  · exact terms.stays_deadLetter latest (terms.own_carried owned carried)
      reason

theorem stays_handleJobFailure {jobData : PaymentJobData}
    (carried : terms.carried jobData.paymentId jobData.correlationId)
    (error : Thrown) :
    Async.Stays footprint inside
      (handleJobFailure config jobData error) := by
  apply terms.stays_storeGet_bind
  intro found stored
  split
  case h_1 => exact Async.stays_pure _
  case h_2 record =>
    split
    · exact Async.stays_pure _
    · exact Async.stays_bind
        (terms.stays_finalizeDeadLetter (stored record rfl) carried _)
        fun _ => Async.stays_pure _

private theorem stays_claimOrRecover (named : terms.named id) :
    Async.Stays footprint inside
      (PaymentService.claimOrRecover config id) := by
  refine Async.stays_bind (terms.stays_claim named) fun claim => ?_
  split
  · apply terms.stays_storeGet_bind
    intro existing _
    split
    · exact Async.stays_bind terms.stays_release fun _ =>
        terms.stays_claim named
    · exact Async.stays_pure _
  · exact Async.stays_pure _

private theorem stays_create {input : CreatePaymentInput}
    (owned : ∀ now, terms.own input.id
      (createPaymentRecord (PaymentService.newPayment input) now).order) :
    Async.Stays footprint inside (PaymentService.create input) := by
  have named := terms.own_named (owned 0)
  refine Async.stays_bind Async.stays_dateNow fun now => ?_
  refine Async.stays_bind (terms.stays_audit named _ _) fun _ => ?_
  refine Async.stays_bind (terms.stays_save (owned now)) fun _ => ?_
  refine Async.stays_bind (stays_emit fun _ =>
    terms.announces _ _ _ _ _ _ _ nofun (terms.own_concerns (owned now))
      (terms.own_correlated (owned now))) fun _ => ?_
  refine Async.stays_bind Async.stays_dateNow fun submittedAt => ?_
  refine Async.stays_bind (Async.stays_tryCatch
    (terms.stays_enqueue _ (owned now)) fun error => ?_) fun _ =>
      Async.stays_pure _
  exact Async.stays_bind terms.stays_release fun _ => Async.stays_throw _

theorem stays_submit {input : CreatePaymentInput}
    (owned : ∀ now, terms.own input.id
      (createPaymentRecord (PaymentService.newPayment input) now).order) :
    Async.Stays footprint inside (PaymentService.submit config input) := by
  refine Async.stays_bind
    (terms.stays_claimOrRecover (terms.own_named (owned 0))) fun claim => ?_
  split
  · apply terms.stays_storeGet_bind
    intro existing _
    split
    · exact Async.stays_pure _
    · exact Async.stays_throw _
  · apply terms.stays_storeGet_bind
    intro existing _
    exact Async.stays_throw _
  · exact terms.stays_create owned

end Services

section Saga

theorem stays_history (phase : SagaPhase) (event detail : String) :
    Async.Stays footprint (terms.On id) (history phase event detail) :=
  Async.stays_bind Async.stays_dateNow fun _ =>
    Async.stays_modify fun _ owned => owned

theorem stays_saveRecord :
    Async.Stays footprint (terms.On id) saveRecord :=
  Async.stays_get_bind fun _ owned => terms.stays_save owned

theorem stays_auditRecord (type : AuditEventType) (detail : Detail) :
    Async.Stays footprint (terms.On id) (auditRecord type detail) :=
  Async.stays_get_bind fun _ owned =>
    terms.stays_audit (terms.own_named (terms.own_self owned)) _ _

theorem stays_emitPhase (phase : SagaPhase) (ok : Bool) :
    Async.Stays footprint (terms.On id) (emitPhase phase ok) :=
  Async.stays_get_bind fun _ owned => stays_emit fun _ =>
    terms.phases _ _ _ _ _ (terms.own_concerns (terms.own_self owned))

theorem stays_releaseFunds (reservationId : String) :
    Async.Stays footprint (terms.On id) (releaseFunds reservationId) :=
  Async.stays_bind (terms.stays_history _ _ _) fun _ =>
    terms.stays_auditRecord _ _

theorem stays_reserve : Async.Stays footprint (terms.On id) reserve := by
  refine Async.stays_get_bind fun record _ => ?_
  refine Async.stays_bind Async.stays_dateNow fun now => ?_
  refine Async.stays_bind (terms.stays_history _ _ _) fun _ => ?_
  refine Async.stays_bind (Async.stays_modify fun _ owned => owned)
    fun _ => ?_
  refine Async.stays_bind terms.stays_saveRecord fun _ => ?_
  refine Async.stays_bind (terms.stays_auditRecord _ _) fun _ => ?_
  exact Async.stays_bind (terms.stays_emitPhase _ _) fun _ =>
    Async.stays_pure _

private theorem stays_chargeFailed (reservationId : String)
    (error : PaymentProcessingError) :
    Async.Stays footprint (terms.On id)
      (chargeFailed reservationId error) := by
  refine Async.stays_bind (terms.stays_history _ _ _) fun _ => ?_
  refine Async.stays_bind (terms.stays_releaseFunds _) fun _ => ?_
  refine Async.stays_bind terms.stays_saveRecord fun _ => ?_
  exact Async.stays_bind (terms.stays_emitPhase _ _) fun _ =>
    Async.stays_throw _

theorem stays_charged (reservationId transactionId : String)
    (httpStatus : Nat) :
    Async.Stays footprint (terms.On id)
      (charged reservationId transactionId httpStatus) := by
  refine Async.stays_bind (Async.stays_modify fun _ owned => owned)
    fun _ => ?_
  refine Async.stays_bind (terms.stays_history _ _ _) fun _ => ?_
  refine Async.stays_bind terms.stays_saveRecord fun _ => ?_
  exact Async.stays_bind (terms.stays_auditRecord _ _) fun _ =>
    terms.stays_emitPhase _ _

theorem stays_settled (transactionId : String) :
    Async.Stays footprint (terms.On id) (settled transactionId) := by
  refine Async.stays_bind (Async.stays_modify fun _ owned => owned)
    fun _ => ?_
  refine Async.stays_bind (terms.stays_history _ _ _) fun _ => ?_
  exact Async.stays_bind (terms.stays_auditRecord _ _) fun _ =>
    terms.stays_emitPhase _ _

/-- The `catch` block of an attempt. -/
theorem stays_failAttempt {job : JobHandle}
    (carried : terms.carried job.data.paymentId job.data.correlationId)
    (startedAt : Time) (error : Thrown) :
    Async.Stays footprint (terms.On job.data.paymentId)
      (failAttempt config job startedAt error) := by
  refine Async.stays_get_bind fun record owned => ?_
  refine Async.stays_bind (Async.stays_get_bind fun _ owned =>
    stays_emit fun _ => terms.reports _ _ _ _ (terms.own_concerns owned))
    fun _ => ?_
  split
  · exact terms.stays_finalizeDeadLetter owned carried _
  · refine Async.stays_bind (terms.stays_history _ _ _) fun _ => ?_
    exact Async.stays_bind terms.stays_saveRecord fun _ =>
      Async.stays_throw _

end Saga

end Terms

/-- The same with charges and their consequences. -/
structure Charges (footprint : Footprint signature) extends
    Terms footprint where
  calls : ∀ id (payment : PaymentRecord), own id payment.order →
    footprint.permitted (.guardCall payment payment.correlationId)
  refunds : ∀ id gatewayId transactionId, concerns id gatewayId →
    footprint.permitted (.guardRefund gatewayId transactionId)
  alarms : ∀ record transactionId error time, named record.id →
    footprint.permitted (.emit (refundAlert record transactionId error time))
  settles : ∀ (payment : PaymentRecord) transactionId time,
    own payment.id payment.order →
    footprint.permitted (.storage (.rpushSettlement
      ⟨payment.id, transactionId, payment.amount, payment.currency,
        payment.customerId, payment.gatewayId, time⟩))
  completes : ∀ id gatewayId correlationId status time detail,
    concerns id gatewayId → carried id correlationId → footprint.permitted
      (.emit (.payment .completed id gatewayId correlationId status time
        detail))
  succeeds : ∀ id gatewayId durationMs time, concerns id gatewayId →
    footprint.permitted
      (.emit (.jobCompleted id gatewayId true durationMs time))

namespace Charges

variable {footprint : Footprint signature} (charges : Charges footprint)
  {config : AppConfig} {id : PaymentId} {job : JobHandle} {startedAt : Time}

private theorem stays_refundCharge (transactionId : String) :
    Async.Stays footprint (charges.On id) (refundCharge transactionId) := by
  refine Async.stays_get_bind fun record owned => ?_
  refine Async.stays_bind (Async.stays_await
    (charges.refunds id _ _ (charges.own_concerns owned))) fun refund => ?_
  split
  · refine Async.stays_bind (charges.stays_history _ _ _) fun _ => ?_
    refine Async.stays_bind (charges.stays_auditRecord _ _) fun _ => ?_
    exact Terms.stays_emit fun _ => charges.alarms _ _ _ _
      (charges.own_named (charges.own_self owned))
  · refine Async.stays_bind (Async.stays_modify fun _ owned => owned)
      fun _ => ?_
    exact Async.stays_bind (charges.stays_history _ _ _) fun _ =>
      charges.stays_auditRecord _ _

private theorem stays_compensateSettle (reservationId transactionId : String)
    (error : Thrown) :
    Async.Stays footprint (charges.On id)
      (compensateSettle reservationId transactionId error) := by
  refine Async.stays_bind (charges.stays_history _ _ _) fun _ => ?_
  refine Async.stays_bind (charges.stays_refundCharge _) fun _ => ?_
  refine Async.stays_bind (charges.stays_releaseFunds _) fun _ => ?_
  refine Async.stays_bind (Async.stays_modify fun _ owned => owned)
    fun _ => ?_
  refine Async.stays_bind charges.stays_saveRecord fun _ => ?_
  refine Async.stays_bind (charges.stays_emitPhase _ _) fun _ => ?_
  exact Async.stays_get_bind fun _ _ => Async.stays_throw _

private theorem stays_settle (reservationId transactionId : String) :
    Async.Stays footprint (charges.On id)
      (settle reservationId transactionId) := by
  refine Async.stays_tryCatch ?_ (charges.stays_compensateSettle _ _)
  refine Async.stays_get_bind fun record owned => ?_
  refine Async.stays_bind ?_ fun _ => Async.stays_pure _
  refine Async.stays_bind Async.stays_dateNow fun now => ?_
  refine Async.stays_bind ?_ fun _ => Async.stays_pure _
  exact Async.stays_await
    (charges.settles record _ _ (charges.own_self owned))

private theorem stays_execute :
    Async.Stays footprint (charges.On id) execute := by
  refine Async.stays_bind charges.stays_reserve fun reservationId => ?_
  refine Async.stays_bind (Async.stays_get_bind fun record owned =>
    Async.stays_await (charges.calls id record owned)) fun outcome => ?_
  split
  · exact charges.stays_chargeFailed _ _
  · refine Async.stays_bind (charges.stays_charged _ _ _) fun _ => ?_
    refine Async.stays_bind (charges.stays_settle _ _) fun _ => ?_
    exact Async.stays_bind (charges.stays_settled _) fun _ =>
      Async.stays_pure _

private theorem stays_settleAttempt (named : charges.named job.data.paymentId)
    (carried : charges.carried job.data.paymentId job.data.correlationId) :
    Async.Stays footprint (charges.On job.data.paymentId)
      (settleAttempt config job startedAt) := by
  refine Async.stays_bind charges.stays_execute fun outcome => ?_
  refine Async.stays_bind Async.stays_dateNow fun completedAt => ?_
  refine Async.stays_bind (Async.stays_modify fun _ owned => owned)
    fun _ => ?_
  refine Async.stays_bind charges.stays_saveRecord fun _ => ?_
  refine Async.stays_bind (charges.stays_finalize named _ _ _ _) fun _ => ?_
  refine Async.stays_bind (charges.stays_audit named _ _) fun _ => ?_
  refine Async.stays_get_bind fun record owned => ?_
  refine Async.stays_bind (Terms.stays_emit fun _ =>
    charges.completes _ _ _ _ _ _ (charges.own_concerns owned) carried)
    fun _ => ?_
  refine Async.stays_bind ?_ fun _ => Async.stays_pure _
  exact Async.stays_get_bind fun _ owned => Terms.stays_emit fun _ =>
    charges.succeeds _ _ _ _ (charges.own_concerns owned)

/-- The critical section of a worker execution. -/
theorem stays_attempt (named : charges.named job.data.paymentId)
    (carried : charges.carried job.data.paymentId job.data.correlationId) :
    Async.Stays footprint (charges.On job.data.paymentId)
      (attempt config job startedAt) := by
  refine Async.stays_bind (Async.stays_modify fun _ owned => owned)
    fun _ => ?_
  refine Async.stays_bind charges.stays_saveRecord fun _ => ?_
  refine Async.stays_bind (charges.stays_audit named _ _) fun _ => ?_
  refine Async.stays_get_bind fun record owned => ?_
  refine Async.stays_bind (Terms.stays_emit fun _ =>
    charges.announces _ _ _ _ _ _ _ nofun (charges.own_concerns owned)
      carried) fun _ => ?_
  exact Async.stays_tryCatch (charges.stays_settleAttempt named carried)
    (charges.stays_failAttempt carried startedAt)

theorem stays_processJob {locals : Type} {inside : locals → Prop}
    (named : charges.named job.data.paymentId)
    (carried : charges.carried job.data.paymentId job.data.correlationId)
    (locks : footprint.permitted
      (.storage (.setNxLock job.data.paymentId config.leaseTtlSeconds)))
    (unlocks : footprint.permitted
      (.storage (.delLock job.data.paymentId))) :
    Async.Stays footprint inside (processJob config job) := by
  refine Async.stays_bind Async.stays_dateNow fun startedAt => ?_
  apply charges.stays_storeGet_bind
  intro found stored
  split
  case h_1 => exact Async.stays_throw _
  case h_2 record =>
    refine Async.stays_bind charges.stays_idempotencyGet fun idem => ?_
    split
    · exact Async.stays_pure _
    · refine Async.stays_bind
        (charges.stays_acquireExecutionLock named locks) fun locked => ?_
      split
      · exact Async.stays_pure _
      · refine @Async.stays_scope _ _ _ _ _ inside
          (charges.On job.data.paymentId) record _ (stored record rfl) ?_
        exact Async.stays_tryFinally (charges.stays_attempt named carried)
          (Async.stays_await unlocks)

end Charges

end PaymentQueue
