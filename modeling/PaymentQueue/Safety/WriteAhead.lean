import PaymentQueue.Await.Monitor
import PaymentQueue.Safety.Solvency

/-!
# Every write rests on confirmed ones

What a process writes, asks of a gateway or announces rests on what it was told
before: the gateway is asked for the record that was saved as reserved, the
ledger is told of a charge that was answered and saved, a payment is finalized
and announced after its record, and a worker does all of it under its lock.
Nothing here depends on the other processes or on which commands fail.
-/

namespace PaymentQueue

open Await PaymentSagaService PaymentProcessor

namespace WriteAhead

/-- What a process has got, and from which outcomes. -/
structure Holding where
  worker : Bool
  claimed : Bool
  locked : Bool
  /-- The payment that was read last is not stored. -/
  missing : Bool
  /-- The transaction of the last charge, if it was accepted. -/
  charged : Option String
  /-- The transaction that the ledger has taken. -/
  settled : Option String
  deriving DecidableEq

/-- What a process was told last; an error says nothing. -/
structure Seen where
  holding : Holding
  saved : Option PaymentRecord
  audited : Option AuditEventType
  marked : Option IdempotencyRecord
  announced : Option PaymentEventType

def Holding.learn (holding : Holding) :
    (command : Command) → Except Thrown command.Result → Holding
  | .storage (.setNxIdempotency _ _ _), .ok true =>
      { holding with claimed := true }
  | .storage (.delIdempotency _), _ => { holding with claimed := false }
  | .storage (.setNxLock _ _), .ok true => { holding with locked := true }
  | .storage (.delLock _), _ => { holding with locked := false }
  | .storage (.hgetPayment _), .ok doc =>
      { holding with missing := (doc.bind Stored.parse?).isNone }
  | .guardCall _ _, .ok (.ok transactionId _) =>
      { holding with charged := some transactionId, settled := none }
  | .guardCall _ _, _ => { holding with charged := none, settled := none }
  | .storage (.rpushSettlement entry), .ok _ =>
      { holding with settled := some entry.transactionId }
  | _, _ => holding

def Seen.learn (seen : Seen) (command : Command)
    (outcome : Except Thrown command.Result) : Seen :=
  let holding := seen.holding.learn command outcome
  let confirmed := outcome.isOk
  match command with
  | .storage (.hsetPayment _ record) =>
      { seen with holding, saved := if confirmed then some record else none }
  | .storage (.rpushAudit _ event) =>
      { seen with
        holding, audited := if confirmed then some event.type else none }
  | .storage (.setIdempotency _ record _) =>
      { seen with holding, marked := if confirmed then some record else none }
  | .emit (.payment type _ _ _ _ _ _) =>
      { seen with holding, announced := some type }
  | _ => { seen with holding }

/-- The audit event that certifies a phase of the saga. -/
def certifies : SagaPhase → AuditEventType
  | .reserve => .sagaReserve
  | .charge => .sagaCharge
  | .settle => .sagaSettle
  | .compensation => .sagaCompensateReleaseFunds

/-- What is written down of a payment before it is announced. -/
def Recorded (seen : Seen) : PaymentEventType → Prop
  | .queued => seen.audited = some .paymentSubmitted
  | .processing => seen.audited = some .paymentProcessing
  | .completed => seen.audited = some .paymentCompleted ∧
      ∃ mark, seen.marked = some mark ∧ mark.state = .completed
  | .failed | .deadLettered => seen.audited = some .paymentDeadLettered ∧
      ∃ mark, seen.marked = some mark ∧ mark.state = .failed

/-- The record that was saved last has this id and status. -/
def Saved (seen : Seen) (id : PaymentId) (status : PaymentStatus)
    (also : PaymentRecord → Prop) : Prop :=
  ∃ record, seen.saved = some record ∧ record.id = id ∧
    record.status = status ∧ also record

/-- What a command of the payment path rests on. -/
def RestsOn (seen : Seen) : Command → Prop
  | .storage (.hsetPayment id record) => record.id = id ∧
      match record.status with
      | .queued => seen.holding.claimed = true
      | .processing => seen.holding.locked = true
      | .completed => seen.holding.locked = true ∧
          seen.holding.settled.isSome = true ∧
          record.transactionId = seen.holding.settled
      | .deadLetter => True
      | .failed => False
  | .storage (.setIdempotency id mark _) =>
      match mark.state with
      | .processing => seen.holding.locked = true
      | .completed => Saved seen id .completed fun record =>
          record.transactionId = mark.transactionId ∧
            seen.holding.settled = mark.transactionId
      | .failed => Saved seen id .deadLetter fun record =>
          record.failureReason = mark.failureReason
  | .storage (.delIdempotency _) =>
      seen.holding.claimed = true ∨ seen.holding.missing = true
  | .storage (.delLock _) => seen.holding.locked = true
  | .storage (.rpushSettlement entry) => seen.audited = some .sagaCharge ∧
      seen.holding.charged = some entry.transactionId ∧
      Saved seen entry.paymentId .processing fun record =>
        record.sagaState = .charged ∧
          record.transactionId = some entry.transactionId ∧
          entry.amount = record.amount ∧ entry.currency = record.currency ∧
          entry.gatewayId = record.gatewayId
  | .storage (.queueAdd _ jobId (.payment data) _) =>
      seen.holding.claimed = true ∧ seen.announced = some .queued ∧
        jobId = data.paymentId ∧ Saved seen jobId .queued fun _ => True
  | .storage (.queueAdd _ jobId (.deadLetter entry) _) =>
      seen.announced = some .deadLettered ∧ jobId = entry.paymentId ∧
        Saved seen jobId .deadLetter fun record =>
          record.failureReason = some entry.reason
  | .guardCall payment _ => seen.audited = some .sagaReserve ∧
      seen.saved = some payment ∧ payment.status = .processing ∧
      payment.sagaState = .reserved
  | .guardRefund gatewayId transactionId =>
      seen.holding.charged = some transactionId ∧
        seen.holding.settled = none ∧
        ∃ record, seen.saved = some record ∧ record.gatewayId = gatewayId ∧
          record.transactionId = some transactionId
  | .emit (.payment type id gatewayId _ status _ _) => Recorded seen type ∧
      Saved seen id status fun record => record.gatewayId = gatewayId
  | .emit (.jobCompleted _ _ ok _ _) =>
      ok = true → seen.announced = some .completed
  | .emit (.sagaPhase _ _ phase ok _) =>
      ok = true → seen.audited = some (certifies phase)
  | .emit (.metricsAlert _ _) =>
      seen.audited = some .sagaCompensateRefundCharge ∧
        seen.holding.charged.isSome = true ∧ seen.holding.settled = none
  | _ => True

/-- Workers hold their lock for all but reading and locking. -/
def locks : Command → Bool
  | .storage (.hgetPayment _) | .storage (.getIdempotency _)
  | .storage (.setNxLock _ _) => false
  | _ => true

/-- A worker needs its lock as well. -/
def Rests (seen : Seen) (command : Command) : Prop :=
  RestsOn seen command ∧ (seen.holding.worker = true →
    locks command = true → seen.holding.locked = true)

@[reducible] def monitor : Monitor signature Seen where
  learn := fun seen exchange => seen.learn exchange.command exchange.outcome
  rests := Rests

/-- A process has been told nothing yet. -/
def begins (task : Task) : Seen where
  holding :=
    { worker := match task with
        | .process _ => true
        | _ => false
      claimed := false, locked := false, missing := false
      charged := none, settled := none }
  saved := none
  audited := none
  marked := none
  announced := none

/-- A process that returns has released the lock it took. -/
def Releases (output : Except Thrown Output) (seen : Seen) : Prop :=
  output.isOk = true → seen.holding.locked = false

abbrev watched : Contract monitor.machine := monitor.contract Solvency.keyed

section Commands

variable {locals : Type} {vars : locals} {watch : Watch Seen}

/-- The rule for a command of a process that holds its lock, or needs none. -/
theorem safe_command {command : Command}
    {post : Except Thrown command.Result → locals → Watch Seen → Prop}
    (rests : RestsOn watch.seen command)
    (guarded : watch.seen.holding.worker = true → locks command = true →
      watch.seen.holding.locked = true)
    (learns : ∀ outcome later, Solvency.keyed.replies command outcome →
      later.seen = watch.seen.learn command outcome →
      post outcome vars later) :
    Async.Safe watched 0 post (awaitCommand command) vars watch :=
  Async.safe_learn ⟨rests, guarded⟩ learns

/-- The worker holds its lock, if the process is one. -/
def Guarded (watch : Watch Seen) : Prop :=
  watch.seen.holding.worker = true → watch.seen.holding.locked = true

variable (guarded : Guarded watch)

include guarded

theorem safe_save {record : PaymentRecord}
    {post : Except Thrown Unit → locals → Watch Seen → Prop}
    (rests : RestsOn watch.seen (.storage (.hsetPayment record.id record)))
    (ok : ∀ later, later.seen = { watch.seen with saved := some record } →
      post (.ok ()) vars later)
    (fails : ∀ error later, later.seen.holding = watch.seen.holding →
      post (.error error) vars later) :
    Async.Safe watched 0 post (PaymentStore.save record) vars watch := by
  refine safe_command rests (fun worker _ => guarded worker) ?_
  intro outcome later _ learned
  cases outcome with
  | ok _ => exact ok later learned
  | error error => exact fails error later (by rw [learned]; rfl)

theorem safe_audit {id : PaymentId} {type : AuditEventType} {detail : Detail}
    {post : Except Thrown Unit → locals → Watch Seen → Prop}
    (ok : ∀ later, later.seen = { watch.seen with audited := some type } →
      post (.ok ()) vars later)
    (fails : ∀ error later, later.seen.holding = watch.seen.holding →
      post (.error error) vars later) :
    Async.Safe watched 0 post (AuditLogService.record id type detail) vars
      watch := by
  refine Async.safe_bind (Async.safe_dateNow fun now => ?_)
  refine safe_command trivial (fun worker _ => guarded worker) ?_
  intro outcome later _ learned
  cases outcome with
  | ok _ => exact ok later learned
  | error error => exact fails error later (by rw [learned]; rfl)

/-- An announcement is remembered. -/
theorem safe_announce {type : PaymentEventType} {id : PaymentId}
    {gatewayId : String} {correlationId : Option String}
    {status : PaymentStatus} {atTime : Time → Time} {detail : Detail}
    {post : Except Thrown Unit → locals → Watch Seen → Prop}
    (recorded : Recorded watch.seen type)
    (saved : Saved watch.seen id status fun record =>
      record.gatewayId = gatewayId)
    (ok : ∀ outcome later,
      later.seen = { watch.seen with announced := some type } →
      post outcome vars later) :
    Async.Safe watched 0 post (EventBus.emit fun now =>
      .payment type id gatewayId correlationId status (atTime now) detail) vars
      watch := by
  refine Async.safe_bind (Async.safe_dateNow fun now => ?_)
  refine safe_command ⟨recorded, saved⟩ (fun worker _ => guarded worker) ?_
  exact fun outcome later _ learned => ok outcome later learned

/-- The other events leave no trace. -/
theorem safe_emit {event : Time → AppEvent}
    {post : Except Thrown Unit → locals → Watch Seen → Prop}
    (rests : ∀ now, RestsOn watch.seen (.emit (event now)))
    (silent : ∀ now outcome, watch.seen.learn (.emit (event now)) outcome =
      watch.seen)
    (ok : ∀ outcome later, later.seen = watch.seen →
      post outcome vars later) :
    Async.Safe watched 0 post (EventBus.emit event) vars watch := by
  refine Async.safe_bind (Async.safe_dateNow fun now => ?_)
  refine safe_command (rests now) (fun worker _ => guarded worker) ?_
  exact fun outcome later _ learned =>
    ok outcome later (learned.trans (silent now outcome))

end Commands

/-- The record of a payment in the critical section. -/
structure Working (id : PaymentId) (record : PaymentRecord)
    (holding : Holding) : Prop where
  named : record.id = id
  status : record.status = .processing
  locked : holding.locked = true

/-- However a function ends, the section goes on; if it returns, something is
known. -/
structure After {α : Type} (id : PaymentId)
    (facts : α → PaymentRecord → Seen → Prop) (outcome : Except Thrown α)
    (left : PaymentRecord) (watch : Watch Seen) : Prop where
  working : Working id left watch.seen.holding
  known : ∀ value, outcome = .ok value → facts value left watch.seen

section Saga

variable {α β : Type} {id : PaymentId} {record : PaymentRecord}
  {watch : Watch Seen}

theorem after_error {facts : α → PaymentRecord → Seen → Prop}
    {error : Thrown} (working : Working id record watch.seen.holding) :
    After id facts (.error error) record watch :=
  ⟨working, fun _ impossible => by cases impossible⟩

theorem after_ok {facts : α → PaymentRecord → Seen → Prop} {value : α}
    (working : Working id record watch.seen.holding)
    (known : facts value record watch.seen) :
    After id facts (.ok value) record watch :=
  ⟨working, fun _ same => by cases same; exact known⟩

theorem safe_then {facts : α → PaymentRecord → Seen → Prop}
    {facts' : β → PaymentRecord → Seen → Prop} {action : OnRecord α}
    {next : α → OnRecord β}
    (first : Async.Safe watched 0 (After id facts) action record watch)
    (rest : ∀ value left later, Working id left later.seen.holding →
      facts value left later.seen →
      Async.Safe watched 0 (After id facts') (next value) left later) :
    Async.Safe watched 0 (After id facts') (action >>= next) record watch := by
  refine Async.safe_bind (first.mono ?_)
  intro outcome left later ended
  cases outcome with
  | ok value =>
      exact rest value left later ended.working (ended.known value rfl)
  | error error => exact after_error ended.working

theorem safe_get_then {facts : β → PaymentRecord → Seen → Prop}
    {next : PaymentRecord → OnRecord β}
    (rest : Async.Safe watched 0 (After id facts) (next record) record watch) :
    Async.Safe watched 0 (After id facts) (Async.get >>= next) record watch :=
  Async.safe_bind (Async.safe_get rest)

private theorem safe_now_then {facts : β → PaymentRecord → Seen → Prop}
    {next : Nat → OnRecord β}
    (rest : ∀ now, Async.Safe watched 0 (After id facts) (next now) record
      watch) :
    Async.Safe watched 0 (After id facts) (Async.dateNow >>= next) record
      watch :=
  Async.safe_bind (Async.safe_dateNow rest)

/-- The record is changed, but not its id and status. -/
theorem safe_change_then {facts : β → PaymentRecord → Seen → Prop}
    {change : PaymentRecord → PaymentRecord} {next : Unit → OnRecord β}
    (working : Working id record watch.seen.holding)
    (named : (change record).id = record.id)
    (status : (change record).status = record.status)
    (rest : Working id (change record) watch.seen.holding →
      Async.Safe watched 0 (After id facts) (next ()) (change record) watch) :
    Async.Safe watched 0 (After id facts) (Async.modify change >>= next) record
      watch :=
  Async.safe_bind (Async.safe_modify (rest ⟨named.trans working.named,
    status.trans working.status, working.locked⟩))

variable (working : Working id record watch.seen.holding)

include working

theorem guarded_of_working : Guarded watch :=
  fun _ => working.locked

theorem safe_history (phase : SagaPhase) (event detail : String) :
    Async.Safe watched 0 (After id fun _ left seen => seen = watch.seen ∧
        ∃ entries, left = { record with history := entries })
      (history phase event detail) record watch :=
  safe_now_then fun _ => Async.safe_modify
    (after_ok ⟨working.named, working.status, working.locked⟩
      ⟨rfl, _, rfl⟩)

theorem safe_saveRecord :
    Async.Safe watched 0 (After id fun _ left seen => left = record ∧
        seen = { watch.seen with saved := some record })
      saveRecord record watch := by
  apply safe_get_then
  refine safe_save (guarded_of_working working) ?_ ?_ ?_
  · simp only [RestsOn, working.status, true_and]
    exact working.locked
  · intro later saved
    refine after_ok ?_ ⟨rfl, saved⟩
    rw [saved]
    exact working
  · intro error later same
    exact after_error (same ▸ working)

theorem safe_auditRecord (type : AuditEventType) (detail : Detail) :
    Async.Safe watched 0 (After id fun _ left seen => left = record ∧
        seen = { watch.seen with audited := some type })
      (auditRecord type detail) record watch := by
  apply safe_get_then
  refine safe_audit (guarded_of_working working) ?_ ?_
  · intro later audited
    refine after_ok ?_ ⟨rfl, audited⟩
    rw [audited]
    exact working
  · intro error later same
    exact after_error (same ▸ working)

theorem safe_emitPhase (phase : SagaPhase) (ok : Bool)
    (certified : ok = true → watch.seen.audited = some (certifies phase)) :
    Async.Safe watched 0 (After id fun _ left seen => left = record ∧
        seen = watch.seen) (emitPhase phase ok) record watch := by
  apply safe_get_then
  refine safe_emit (guarded_of_working working) (fun _ => certified)
    (fun _ _ => rfl) ?_
  intro outcome later same
  exact ⟨same ▸ working, fun _ _ => ⟨rfl, same⟩⟩

private theorem safe_reserve :
    Async.Safe watched 0 (After id fun _ left seen =>
        seen.audited = some .sagaReserve ∧ seen.saved = some left ∧
          left.sagaState = .reserved) reserve record watch := by
  apply safe_get_then
  apply safe_now_then
  intro now
  refine safe_then (safe_history working _ _ _) ?_
  rintro _ left later working ⟨-, entries, rfl⟩
  refine safe_change_then working rfl rfl fun working => ?_
  refine safe_then (safe_saveRecord working) ?_
  rintro _ left saved working ⟨rfl, seen⟩
  refine safe_then (safe_auditRecord working _ _) ?_
  rintro _ left audited working ⟨rfl, seen'⟩
  refine safe_then (safe_emitPhase working _ _ fun _ => by rw [seen']; rfl) ?_
  rintro _ left emitted working ⟨rfl, seen''⟩
  refine Async.safe_pure (after_ok working ?_)
  rw [seen'', seen', seen]
  exact ⟨rfl, rfl, rfl⟩

private theorem safe_releaseFunds (reservationId : String) :
    Async.Safe watched 0 (After id fun _ _ _ => True)
      (releaseFunds reservationId) record watch := by
  refine safe_then (safe_history working _ _ _) ?_
  rintro _ left later working -
  exact (safe_auditRecord working _ _).mono fun _ _ _ ended =>
    ⟨ended.working, fun _ _ => trivial⟩

private theorem safe_chargeFailed
    {facts : SagaOutcome → PaymentRecord → Seen → Prop}
    (reservationId : String) (error : PaymentProcessingError) :
    Async.Safe watched 0 (After id facts) (chargeFailed reservationId error)
      record watch := by
  refine safe_then (safe_history working _ _ _) ?_
  rintro _ left noted working -
  refine safe_then (safe_releaseFunds working _) ?_
  rintro _ left released working -
  refine safe_then (safe_saveRecord working) ?_
  rintro _ left saved working -
  refine safe_then (safe_emitPhase working _ _ fun impossible => by
    cases impossible) ?_
  rintro _ left emitted working -
  exact Async.safe_throw (after_error working)

/-- The charge is answered, and its record and audit event are written. -/
structure Taken (transactionId : String) (record : PaymentRecord)
    (seen : Seen) : Prop where
  audited : seen.audited = some .sagaCharge
  charged : seen.holding.charged = some transactionId
  unsettled : seen.holding.settled = none
  saved : seen.saved = some record
  state : record.sagaState = .charged
  transaction : record.transactionId = some transactionId

private theorem safe_charged {transactionId : String}
    (taken : watch.seen.holding.charged = some transactionId)
    (unsettled : watch.seen.holding.settled = none)
    (reservationId : String) (httpStatus : Nat) :
    Async.Safe watched 0 (After id fun _ left seen =>
        Taken transactionId left seen)
      (charged reservationId transactionId httpStatus) record watch := by
  refine safe_change_then working rfl rfl fun working => ?_
  refine safe_then (safe_history working _ _ _) ?_
  rintro _ left noted working ⟨kept, entries, rfl⟩
  refine safe_then (safe_saveRecord working) ?_
  rintro _ left saved working ⟨rfl, seen⟩
  refine safe_then (safe_auditRecord working _ _) ?_
  rintro _ left audited working ⟨rfl, seen'⟩
  refine (safe_emitPhase working _ _ fun _ => by rw [seen']; rfl).mono ?_
  intro outcome left emitted ended
  refine ⟨ended.working, fun value same => ?_⟩
  obtain ⟨rfl, seen''⟩ := ended.known value same
  rw [seen'', seen', seen, kept]
  exact ⟨rfl, taken, unsettled, rfl, rfl, rfl⟩

/-- The append to the ledger has failed as far as the process knows. -/
structure Refundable (transactionId : String) (record : PaymentRecord)
    (seen : Seen) : Prop where
  charged : seen.holding.charged = some transactionId
  unsettled : seen.holding.settled = none
  saved : ∃ stored, seen.saved = some stored ∧
    stored.gatewayId = record.gatewayId ∧
    stored.transactionId = some transactionId

private theorem safe_refundCharge {transactionId : String}
    (refundable : Refundable transactionId record watch.seen) :
    Async.Safe watched 0 (After id fun _ _ _ => True)
      (refundCharge transactionId) record watch := by
  apply safe_get_then
  apply Async.safe_bind
  refine safe_command ?_ (fun _ _ => working.locked) ?_
  · exact ⟨refundable.charged, refundable.unsettled, refundable.saved⟩
  intro outcome later _ learned
  have kept : later.seen = watch.seen := learned
  have working : Working id record later.seen.holding := kept ▸ working
  cases outcome with
  | error error => exact after_error working
  | ok refund =>
      cases refund with
      | fail error =>
          refine safe_then (safe_history working _ _ _) ?_
          rintro _ left noted working ⟨seen, entries, rfl⟩
          refine safe_then (safe_auditRecord working _ _) ?_
          rintro _ left audited working ⟨rfl, seen'⟩
          refine safe_emit (guarded_of_working working) (fun _ => ?_)
            (fun _ _ => rfl) ?_
          · rw [seen', seen, kept]
            exact ⟨rfl, by rw [refundable.charged]; rfl, refundable.unsettled⟩
          · intro outcome final same
            exact ⟨same ▸ working, fun _ _ => trivial⟩
      | ok refundId httpStatus =>
          refine safe_change_then working rfl rfl fun working => ?_
          refine safe_then (safe_history working _ _ _) ?_
          rintro _ left noted working -
          exact (safe_auditRecord working _ _).mono fun _ _ _ ended =>
            ⟨ended.working, fun _ _ => trivial⟩

private theorem safe_compensateSettle {transactionId : String}
    {facts : Unit → PaymentRecord → Seen → Prop}
    (refundable : Refundable transactionId record watch.seen)
    (reservationId : String) (error : Thrown) :
    Async.Safe watched 0 (After id facts)
      (compensateSettle reservationId transactionId error) record watch := by
  refine safe_then (safe_history working _ _ _) ?_
  rintro _ left noted working ⟨seen, entries, rfl⟩
  refine safe_then (safe_refundCharge working ?_) ?_
  · rw [seen]
    exact ⟨refundable.charged, refundable.unsettled, refundable.saved⟩
  rintro _ left refunded working -
  refine safe_then (safe_releaseFunds working _) ?_
  rintro _ left released working -
  refine safe_change_then working rfl rfl fun working => ?_
  refine safe_then (safe_saveRecord working) ?_
  rintro _ left saved working -
  refine safe_then (safe_emitPhase working _ _ fun impossible => by
    cases impossible) ?_
  rintro _ left emitted working -
  exact safe_get_then (Async.safe_throw (after_error working))

private theorem safe_ledger {transactionId : String}
    (taken : Taken transactionId record watch.seen) :
    Async.Safe watched 0 (fun outcome left later => left = record ∧
        Working id record later.seen.holding ∧
        match outcome with
        | .ok _ => later.seen.holding.settled = some transactionId
        | .error _ => Refundable transactionId record later.seen)
      (SettlementLedger.settle record transactionId) record watch := by
  refine Async.safe_bind (Async.safe_dateNow fun now => ?_)
  apply Async.safe_bind
  refine @safe_command _ _ _ (.storage (.rpushSettlement _)) _ ?_
    (fun _ _ => working.locked) ?_
  · exact ⟨taken.audited, taken.charged, record, taken.saved, rfl,
      working.status, taken.state, taken.transaction, rfl, rfl, rfl⟩
  intro outcome later _ learned
  cases outcome with
  | ok _ =>
      refine Async.safe_pure ⟨rfl, ?_⟩
      rw [learned]
      exact ⟨⟨working.named, working.status, working.locked⟩, rfl⟩
  | error error =>
      have kept : later.seen = watch.seen := learned
      refine ⟨rfl, ?_⟩
      rw [kept]
      exact ⟨working, taken.charged, taken.unsettled, record, taken.saved, rfl,
        taken.transaction⟩

/-- The charge is in the ledger, and on the record. -/
def Booked (transactionId : String) (record : PaymentRecord) (seen : Seen) :
    Prop :=
  seen.holding.settled = some transactionId ∧
    record.transactionId = some transactionId

private theorem safe_settle {transactionId : String}
    (taken : Taken transactionId record watch.seen) (reservationId : String) :
    Async.Safe watched 0 (After id fun _ left seen =>
        Booked transactionId left seen)
      (settle reservationId transactionId) record watch := by
  apply Async.safe_tryCatch
  apply Async.safe_bind
  apply Async.safe_get
  apply Async.safe_bind
  refine (safe_ledger working taken).mono ?_
  rintro outcome left later ⟨rfl, working, ended⟩
  cases outcome with
  | ok entry =>
      exact Async.safe_pure (after_ok working ⟨ended, taken.transaction⟩)
  | error error => exact safe_compensateSettle working ended reservationId error

private theorem safe_settled {transactionId : String}
    (booked : Booked transactionId record watch.seen) :
    Async.Safe watched 0 (After id fun _ left seen =>
        Booked transactionId left seen)
      (settled transactionId) record watch := by
  refine safe_change_then working rfl rfl fun working => ?_
  refine safe_then (safe_history working _ _ _) ?_
  rintro _ left noted working ⟨kept, entries, rfl⟩
  refine safe_then (safe_auditRecord working _ _) ?_
  rintro _ left audited working ⟨rfl, seen⟩
  refine (safe_emitPhase working _ _ fun _ => by rw [seen]; rfl).mono ?_
  intro outcome left emitted ended
  refine ⟨ended.working, fun value same => ?_⟩
  obtain ⟨rfl, seen'⟩ := ended.known value same
  rw [seen', seen, kept]
  exact booked

private theorem safe_execute :
    Async.Safe watched 0 (After id fun outcome left seen =>
        Booked outcome.transactionId left seen) execute record watch := by
  refine safe_then (safe_reserve working) ?_
  rintro reservationId left later working ⟨audited, saved, reserved⟩
  apply Async.safe_bind
  apply Async.safe_bind
  apply Async.safe_get
  refine @safe_command _ _ _ (.guardCall left left.correlationId) _ ?_
    (fun _ _ => working.locked) ?_
  · exact ⟨audited, saved, working.status, reserved⟩
  intro outcome called _ learned
  have working : Working id left called.seen.holding := by
    rw [learned]
    rcases outcome with _ | _ | _ <;>
      exact ⟨working.named, working.status, working.locked⟩
  cases outcome with
  | error error => exact after_error working
  | ok response =>
      cases response with
      | fail error => exact safe_chargeFailed working reservationId error
      | ok transactionId httpStatus =>
          refine safe_then (safe_charged working (by rw [learned]; rfl)
            (by rw [learned]; rfl) reservationId httpStatus) ?_
          rintro _ left charged working taken
          refine safe_then (safe_settle working taken reservationId) ?_
          rintro _ left settled working booked
          refine safe_then (safe_settled working booked) ?_
          rintro _ left done working booked
          exact Async.safe_pure (after_ok working booked)

end Saga

/-- The payment is dead-lettered in the store, the idempotency record and the
audit log. -/
structure Buried (id : PaymentId) (gatewayId reason : String) (seen : Seen) :
    Prop where
  recorded : Recorded seen .deadLettered
  saved : Saved seen id .deadLetter fun record =>
    record.gatewayId = gatewayId ∧ record.failureReason = some reason

section Buried

variable {id : PaymentId} {gatewayId reason : String} {seen : Seen}

theorem Saved.imp {status : PaymentStatus} {also also' : PaymentRecord → Prop}
    (saved : Saved seen id status also)
    (implies : ∀ record, also record → also' record) :
    Saved seen id status also' := by
  obtain ⟨record, found, named, known, held⟩ := saved
  exact ⟨record, found, named, known, implies record held⟩

theorem Buried.announces (buried : Buried id gatewayId reason seen) :
    Saved seen id .deadLetter fun record => record.gatewayId = gatewayId :=
  buried.saved.imp fun _ => And.left

theorem Buried.routes (buried : Buried id gatewayId reason seen) :
    Saved seen id .deadLetter fun record =>
      record.failureReason = some reason :=
  buried.saved.imp fun _ => And.right

end Buried

section Stores

variable {locals α : Type} {vars : locals} {watch : Watch Seen}
  {config : AppConfig} {id : PaymentId}

/-- What matters of the holding outside the saga. -/
structure Kept (before after : Watch Seen) : Prop where
  worker : after.seen.holding.worker = before.seen.holding.worker
  locked : after.seen.holding.locked = before.seen.holding.locked

theorem kept_of_same {later : Watch Seen}
    (same : later.seen.holding = watch.seen.holding) : Kept watch later :=
  ⟨by rw [same], by rw [same]⟩

theorem Kept.trans {first second third : Watch Seen}
    (before : Kept first second) (after : Kept second third) :
    Kept first third :=
  ⟨after.worker.trans before.worker, after.locked.trans before.locked⟩

theorem Kept.guarded {later : Watch Seen} (kept : Kept watch later)
    (guarded : Guarded watch) : Guarded later := by
  intro worker
  rw [kept.locked]
  exact guarded (kept.worker.symm.trans worker)

/-- A payment that is read is found under its id, or missing. -/
theorem safe_storeGet {post : Except Thrown α → locals → Watch Seen → Prop}
    {next : Option PaymentRecord → Async locals α}
    (rest : ∀ found later, (∀ record, found = some record → record.id = id) →
      Kept watch later → later.seen.holding.missing = found.isNone →
      later.seen.holding.claimed = watch.seen.holding.claimed →
      Async.Safe watched 0 post (next found) vars later)
    (fails : ∀ error later, Kept watch later → post (.error error) vars later) :
    Async.Safe watched 0 post (PaymentStore.get id >>= next) vars watch := by
  apply Async.safe_bind
  apply Async.safe_bind
  refine @safe_command _ _ _ (.storage (.hgetPayment id)) _ trivial
    (fun _ reads => by cases reads) ?_
  intro outcome later replied learned
  cases outcome with
  | ok doc =>
      exact Async.safe_pure (rest _ later replied ⟨by rw [learned]; rfl,
        by rw [learned]; rfl⟩ (by rw [learned]; rfl) (by rw [learned]; rfl))
  | error error => exact fails error later (kept_of_same (by rw [learned]; rfl))

theorem safe_idempotencyGet
    {post : Except Thrown α → locals → Watch Seen → Prop}
    {next : Option IdempotencyRecord → Async locals α}
    (rest : ∀ found later, later.seen = watch.seen →
      Async.Safe watched 0 post (next found) vars later)
    (fails : ∀ error later, later.seen = watch.seen →
      post (.error error) vars later) :
    Async.Safe watched 0 post (IdempotencyService.get id >>= next) vars
      watch := by
  apply Async.safe_bind
  apply Async.safe_bind
  refine @safe_command _ _ _ (.storage (.getIdempotency id)) _ trivial
    (fun _ reads => by cases reads) ?_
  intro outcome later _ learned
  cases outcome with
  | ok raw => exact Async.safe_pure (rest _ later learned)
  | error error => exact fails error later learned

variable (guarded : Guarded watch)

include guarded

/-- The final mark is written after the record. -/
theorem safe_finalize {state : IdempotencyState} {status : PaymentStatus}
    {transactionId failureReason : Option String}
    {post : Except Thrown Unit → locals → Watch Seen → Prop}
    (rests : ∀ mark, mark.state = state → mark.transactionId = transactionId →
      mark.failureReason = failureReason → RestsOn watch.seen
        (.storage (.setIdempotency id mark config.retentionSeconds)))
    (ok : ∀ mark later, mark.state = state →
      later.seen = { watch.seen with marked := some mark } →
      post (.ok ()) vars later)
    (fails : ∀ error later, later.seen.holding = watch.seen.holding →
      post (.error error) vars later) :
    Async.Safe watched 0 post (IdempotencyService.finalize config id state
      status transactionId failureReason) vars watch := by
  refine safe_idempotencyGet (fun previous read seen => ?_)
    (fun error later seen => fails error later (by rw [seen]))
  refine Async.safe_bind (Async.safe_dateNow fun now => ?_)
  refine @safe_command _ _ _ (.storage (.setIdempotency _ _ _)) _ ?_ ?_ ?_
  · rw [seen]
    exact rests _ rfl rfl rfl
  · rw [seen]
    exact fun worker _ => guarded worker
  · intro outcome later _ learned
    rw [seen] at learned
    cases outcome with
    | ok _ => exact ok _ later rfl learned
    | error error => exact fails error later (by rw [learned]; rfl)

/-- A job is added once its queue is ready. -/
theorem safe_queueAdd {queue : String} {jobId : PaymentId} {data : JobData}
    {options : JobOptions} {post : Except Thrown Unit → locals → Watch Seen →
      Prop}
    (rests : RestsOn watch.seen (.storage (.queueAdd queue jobId data options)))
    (ended : ∀ outcome later, later.seen.holding = watch.seen.holding →
      post outcome vars later) :
    Async.Safe watched 0 post (awaitStorage (.queueReady queue) >>= fun _ =>
      awaitStorage (.queueAdd queue jobId data options)) vars watch := by
  apply Async.safe_bind
  refine @safe_command _ _ _ (.storage (.queueReady _)) _ trivial
    (fun worker _ => guarded worker) ?_
  intro outcome ready _ learned
  have seen : ready.seen = watch.seen := learned
  cases outcome with
  | error error => exact ended _ ready (by rw [seen])
  | ok _ =>
      refine @safe_command _ _ _ (.storage (.queueAdd _ _ _ _)) _ ?_ ?_ ?_
      · rw [seen]
        exact rests
      · rw [seen]
        exact fun worker _ => guarded worker
      · intro outcome later _ learned
        exact ended outcome later (by rw [learned, seen]; rfl)

private theorem safe_deadLetter {latest : PaymentRecord}
    (named : latest.id = id)
    {reason : String} {correlationId : Option String}
    {post : Except Thrown ProcessResult → locals → Watch Seen → Prop}
    (ended : ∀ outcome later, later.seen.holding = watch.seen.holding →
      post outcome vars later) :
    Async.Safe watched 0 post (deadLetter config latest id reason
      correlationId) vars watch := by
  refine Async.safe_bind (Async.safe_dateNow fun now => ?_)
  refine Async.safe_bind (safe_save guarded ⟨rfl, trivial⟩ ?_ fun error later =>
    ended (.error error) later)
  intro saved seen
  have guarded' : ∀ {later : Watch Seen}, later.seen.holding =
      saved.seen.holding → Guarded later := by
    intro later same worker
    rw [same, seen] at worker ⊢
    exact guarded worker
  have ended' : ∀ outcome later, later.seen.holding = saved.seen.holding →
      post outcome vars later := by
    intro outcome later same
    exact ended outcome later (same.trans (by rw [seen]))
  refine Async.safe_bind (safe_finalize (guarded' rfl) ?_ ?_
    fun error later => ended' (.error error) later)
  · intro mark state transaction failure
    simp only [RestsOn, state]
    rw [seen]
    exact ⟨_, rfl, named, rfl, failure.symm⟩
  intro mark marked state seen'
  refine Async.safe_bind (safe_audit (guarded' (by rw [seen'])) ?_
    fun error later same => ended' (.error error) later
      (same.trans (by rw [seen'])))
  intro audited seen''
  have buried : Buried id latest.gatewayId reason audited.seen := by
    rw [seen'', seen', seen]
    exact ⟨⟨rfl, mark, rfl, state⟩, _, rfl, named, rfl, rfl, rfl⟩
  have same : audited.seen.holding = saved.seen.holding := by rw [seen'', seen']
  refine Async.safe_bind (safe_announce (guarded' same) buried.recorded
    buried.announces ?_)
  intro outcome told toldSeen
  have sameTold : told.seen.holding = saved.seen.holding := by
    rw [toldSeen, ← same]
  cases outcome with
  | error error => exact ended' _ told sameTold
  | ok _ =>
      have buried : Buried id latest.gatewayId reason told.seen := by
        rw [toldSeen]
        exact ⟨buried.recorded, buried.saved⟩
      refine Async.safe_bind (safe_announce (guarded' sameTold) buried.recorded
        buried.announces ?_)
      intro outcome final finalSeen
      have sameFinal : final.seen.holding = saved.seen.holding := by
        rw [finalSeen, ← sameTold]
      cases outcome with
      | error error => exact ended' _ final sameFinal
      | ok _ =>
          refine Async.safe_bind (Async.safe_dateNow fun now => ?_)
          refine Async.safe_bind (safe_queueAdd (guarded' sameFinal) ?_ ?_)
          · rw [finalSeen]
            exact ⟨rfl, rfl, buried.routes⟩
          · intro outcome routed same
            cases outcome with
            | error error => exact ended' _ routed (same.trans sameFinal)
            | ok _ =>
                exact Async.safe_pure (ended' _ routed (same.trans sameFinal))

end Stores

/-- The record of the critical section; once it is completed, its transaction
is in the ledger. -/
structure Inside (id : PaymentId) (record : PaymentRecord)
    (holding : Holding) : Prop where
  named : record.id = id
  locked : holding.locked = true
  status : record.status = .processing ∨ record.status = .completed ∧
    holding.settled.isSome = true ∧ record.transactionId = holding.settled

theorem Working.inside {id : PaymentId} {record : PaymentRecord}
    {holding : Holding} (working : Working id record holding) :
    Inside id record holding :=
  ⟨working.named, working.locked, .inl working.status⟩

section Section

variable {config : AppConfig} {job : JobHandle} {startedAt : Time}
  {record : PaymentRecord} {watch : Watch Seen}

theorem safe_saveInside {id : PaymentId}
    {post : Except Thrown Unit → PaymentRecord → Watch Seen → Prop}
    (inside : Inside id record watch.seen.holding)
    (ok : ∀ later, later.seen = { watch.seen with saved := some record } →
      post (.ok ()) record later)
    (fails : ∀ error later, later.seen.holding = watch.seen.holding →
      post (.error error) record later) :
    Async.Safe watched 0 post saveRecord record watch := by
  apply Async.safe_bind
  apply Async.safe_get
  refine safe_save (fun _ => inside.locked) ?_ ok fails
  rcases inside.status with processing | ⟨completed, settled⟩
  · simp only [RestsOn, processing, true_and]
    exact inside.locked
  · simp only [RestsOn, completed, true_and]
    exact ⟨inside.locked, settled⟩

private theorem safe_jobCompleted {ok : Bool}
    {post : Except Thrown Unit → PaymentRecord → Watch Seen → Prop}
    (guarded : Guarded watch)
    (announced : ok = true → watch.seen.announced = some .completed)
    (ended : ∀ outcome later, later.seen = watch.seen →
      post outcome record later) :
    Async.Safe watched 0 post (jobCompleted job startedAt ok) record watch := by
  apply Async.safe_bind
  apply Async.safe_get
  exact safe_emit guarded (fun _ => announced) (fun _ _ => rfl) ended

private theorem safe_settleAttempt
    (working : Working job.data.paymentId record watch.seen.holding) :
    Async.Safe watched 0 (fun _ left later =>
        Inside job.data.paymentId left later.seen.holding)
      (settleAttempt config job startedAt) record watch := by
  apply Async.safe_bind
  refine (safe_execute working).mono ?_
  intro outcome left executed ended
  cases outcome with
  | error error => exact ended.working.inside
  | ok outcome =>
      obtain ⟨settled, transaction⟩ := ended.known outcome rfl
      refine Async.safe_bind (Async.safe_dateNow fun completedAt => ?_)
      refine Async.safe_bind (Async.safe_modify ?_)
      have carries := transitionToCompleted_transactionId left completedAt
        transaction
      generalize finalEq : ({ transitionToCompleted left
        (some outcome.transactionId) completedAt with
          sagaState := .settled
          reservationId := some outcome.reservationId
          failureReason := none } : PaymentRecord) = final
      have named : final.id = job.data.paymentId := by
        rw [← finalEq]
        exact ended.working.named
      have completed : final.status = .completed := by rw [← finalEq]; rfl
      have carried : final.transactionId = some outcome.transactionId := by
        rw [← finalEq]
        exact carries
      have inside : ∀ {later : Watch Seen},
          later.seen.holding = executed.seen.holding →
          Inside job.data.paymentId final later.seen.holding := by
        intro later same
        rw [same]
        refine ⟨named, ended.working.locked, .inr ⟨completed, ?_, ?_⟩⟩
        · rw [settled]
          rfl
        · rw [settled, carried]
      refine Async.safe_bind (safe_saveInside (inside rfl) ?_
        fun error later => inside)
      intro saved seen
      refine Async.safe_bind (safe_finalize
        (fun _ => (inside (by rw [seen])).locked) ?_ ?_
        fun error later same => inside (same.trans (by rw [seen])))
      · intro mark state transaction' failure
        simp only [RestsOn, state]
        rw [seen]
        exact ⟨final, rfl, named, completed, carried.trans transaction'.symm,
          settled.trans transaction'.symm⟩
      intro mark marked state seen'
      have same : marked.seen.holding = executed.seen.holding := by
        rw [seen', seen]
      refine Async.safe_bind (safe_audit (fun _ => (inside same).locked) ?_
        fun error later kept => inside (kept.trans same))
      intro audited seen''
      have same : audited.seen.holding = executed.seen.holding := by
        rw [seen'', ← same]
      refine Async.safe_bind (Async.safe_get ?_)
      refine Async.safe_bind (safe_announce (fun _ => (inside same).locked)
        ?_ ?_ ?_)
      · rw [seen'', seen', seen]
        exact ⟨rfl, mark, rfl, state⟩
      · rw [seen'', seen', seen]
        exact ⟨final, rfl, named, completed, rfl⟩
      intro outcome' told toldSeen
      have same : told.seen.holding = executed.seen.holding := by
        rw [toldSeen, ← same]
      cases outcome' with
      | error error => exact inside same
      | ok _ =>
          refine Async.safe_bind (safe_jobCompleted
            (fun _ => (inside same).locked) (fun _ => by rw [toldSeen]) ?_)
          intro outcome' last lastSeen
          have same : last.seen.holding = executed.seen.holding := by
            rw [lastSeen, same]
          cases outcome' with
          | error error => exact inside same
          | ok _ => exact Async.safe_pure (inside same)

end Section

section Attempts

variable {config : AppConfig} {job : JobHandle} {startedAt : Time}
  {record : PaymentRecord} {watch : Watch Seen}

/-- The handler of a failure keeps the lock, if the process has one. -/
theorem safe_finalizeDeadLetter {locals : Type} {vars : locals}
    {reason : String} {correlationId : Option String}
    {post : Except Thrown ProcessResult → locals → Watch Seen → Prop}
    (guarded : Guarded watch)
    (ended : ∀ outcome later, Kept watch later → post outcome vars later) :
    Async.Safe watched 0 post (finalizeDeadLetter config record reason
      correlationId) vars watch := by
  refine safe_storeGet ?_ fun error later => ended (.error error) later
  intro found later named kept _ _
  have latest : (found.getD record).id = record.id := by
    cases found with
    | none => rfl
    | some stored => exact named stored rfl
  show Async.Safe _ _ _ (if (found.getD record).status.terminal then _ else _)
    _ _
  split
  · exact Async.safe_pure (ended _ later kept)
  · exact safe_deadLetter (kept.guarded guarded) latest
      fun outcome final same =>
        ended outcome final (kept.trans (kept_of_same same))

private theorem safe_failAttempt (error : Thrown)
    (inside : Inside job.data.paymentId record watch.seen.holding) :
    Async.Safe watched 0 (fun _ _ later => later.seen.holding.locked = true)
      (failAttempt config job startedAt error) record watch := by
  apply Async.safe_bind
  apply Async.safe_get
  refine Async.safe_bind (safe_jobCompleted (fun _ => inside.locked)
    (fun impossible => by cases impossible) ?_)
  intro outcome told seen
  have inside : Inside job.data.paymentId record told.seen.holding := by
    rw [seen]
    exact inside
  cases outcome with
  | error error => exact inside.locked
  | ok _ =>
      show Async.Safe _ _ _ (if _ = false then _ else _) _ _
      split
      · refine safe_finalizeDeadLetter (fun _ => inside.locked) ?_
        intro outcome later kept
        exact kept.locked.trans inside.locked
      · refine Async.safe_bind (Async.safe_bind (Async.safe_dateNow fun now =>
          Async.safe_modify ?_))
        refine Async.safe_bind (@safe_saveInside _ _ job.data.paymentId _
          ⟨inside.named, inside.locked, inside.status⟩ ?_ ?_)
        · intro saved seen
          refine Async.safe_throw ?_
          rw [seen]
          exact inside.locked
        · intro error later same
          rw [same]
          exact inside.locked

private theorem safe_attempt (named : record.id = job.data.paymentId)
    (locked : watch.seen.holding.locked = true) :
    Async.Safe watched 0 (fun _ _ later => later.seen.holding.locked = true)
      (attempt config job startedAt) record watch := by
  refine Async.safe_bind (Async.safe_modify ?_)
  generalize taken : transitionToProcessing record job.attemptsMade startedAt =
    current
  have working : ∀ {later : Watch Seen},
      later.seen.holding = watch.seen.holding →
      Working job.data.paymentId current later.seen.holding := by
    intro later same
    rw [same, ← taken]
    exact ⟨named, rfl, locked⟩
  refine Async.safe_bind (safe_saveInside (working rfl).inside ?_
    fun error later same => (working same).locked)
  intro saved seen
  have same : saved.seen.holding = watch.seen.holding := by rw [seen]
  refine Async.safe_bind (safe_audit (fun _ => (working same).locked) ?_
    fun error later kept => (working (kept.trans same)).locked)
  intro audited seen'
  have same : audited.seen.holding = watch.seen.holding := by
    rw [seen', ← same]
  refine Async.safe_bind (Async.safe_get ?_)
  have announce := @safe_announce _ current audited
    (fun _ => (working same).locked) .processing job.data.paymentId
    current.gatewayId job.data.correlationId .processing (fun _ => startedAt)
  refine Async.safe_bind (announce ?_ ?_ ?_)
  · rw [seen']
    rfl
  · rw [seen', seen]
    exact ⟨current, rfl, (working rfl).named, (working rfl).status, rfl⟩
  intro outcome told toldSeen
  have same : told.seen.holding = watch.seen.holding := by
    rw [toldSeen, ← same]
  cases outcome with
  | error error => exact (working same).locked
  | ok _ =>
      apply Async.safe_tryCatch
      refine (safe_settleAttempt (working same)).mono ?_
      intro outcome left later inside
      cases outcome with
      | ok result => exact inside.locked
      | error error => exact safe_failAttempt error inside

private theorem safe_releaseExecutionLock {locals : Type} {vars : locals}
    {id : PaymentId} (locked : watch.seen.holding.locked = true) :
    Async.Safe watched 0
      (fun _ _ later => later.seen.holding.locked = false)
      (IdempotencyService.releaseExecutionLock id) vars watch := by
  refine @safe_command _ _ _ (.storage (.delLock id)) _ locked
    (fun _ _ => locked) ?_
  intro outcome later _ learned
  rw [learned]
  rfl

private theorem safe_lockedAttempt (named : record.id = job.data.paymentId)
    (locked : watch.seen.holding.locked = true) :
    Async.Safe watched 0 (fun _ _ later => later.seen.holding.locked = false)
      (lockedAttempt config job startedAt) record watch := by
  apply Async.safe_tryFinally
  refine (safe_attempt named locked).mono ?_
  intro outcome left later locked
  refine (safe_releaseExecutionLock locked).mono ?_
  intro cleaned last final released
  cases cleaned with
  | ok _ => exact released
  | error error => exact released

private theorem safe_acquireExecutionLock {locals : Type} {vars : locals}
    {id : PaymentId} (unlocked : watch.seen.holding.locked = false) :
    Async.Safe watched 0 (fun outcome left later => left = vars ∧
        ∀ acquired, outcome = .ok acquired →
          later.seen.holding.locked = acquired)
      (IdempotencyService.acquireExecutionLock config id) vars watch := by
  apply Async.safe_bind
  refine @safe_command _ _ _ (.storage (.setNxLock id _)) _ trivial
    (fun _ reads => by cases reads) ?_
  intro outcome tried _ learned
  cases outcome with
  | error error => exact ⟨rfl, fun _ impossible => by cases impossible⟩
  | ok acquired =>
      cases acquired with
      | false =>
          refine Async.safe_pure ⟨rfl, ?_⟩
          rintro _ ⟨⟩
          rw [learned]
          exact unlocked
      | true =>
          have locked : tried.seen.holding.locked = true := by
            rw [learned]
            rfl
          refine safe_idempotencyGet (fun existing read seen => ?_)
            fun error later seen => ⟨rfl, fun _ impossible => by
              cases impossible⟩
          rw [← seen] at locked
          refine Async.safe_bind (Async.safe_dateNow fun now => ?_)
          apply Async.safe_bind
          refine @safe_command _ _ _ (.storage (.setIdempotency _ _ _)) _ locked
            (fun _ _ => locked) ?_
          intro outcome marked _ learned
          cases outcome with
          | error error => exact ⟨rfl, fun _ impossible => by cases impossible⟩
          | ok _ =>
              refine Async.safe_pure ⟨rfl, ?_⟩
              rintro _ ⟨⟩
              rw [learned]
              exact locked

private theorem safe_processJob {locals : Type} {vars : locals}
    (unlocked : watch.seen.holding.locked = false) :
    Async.Safe watched 0 (fun outcome _ later => outcome.isOk = true →
        later.seen.holding.locked = false)
      (processJob config job) vars watch := by
  refine Async.safe_bind (Async.safe_dateNow fun startedAt => ?_)
  refine safe_storeGet ?_ fun error later _ impossible => by cases impossible
  intro found read named kept _ _
  have unlocked : read.seen.holding.locked = false :=
    kept.locked.trans unlocked
  cases found with
  | none => exact Async.safe_throw fun impossible => by cases impossible
  | some record =>
      refine safe_idempotencyGet (fun idem later seen => ?_)
        fun error later seen impossible => by cases impossible
      rw [← seen] at unlocked
      split
      · exact Async.safe_pure fun _ => unlocked
      · apply Async.safe_bind
        refine (safe_acquireExecutionLock unlocked).mono ?_
        rintro outcome _ held ⟨rfl, acquires⟩
        cases outcome with
        | error error => exact fun impossible => by cases impossible
        | ok locked =>
            have holds := acquires locked rfl
            show Async.Safe _ _ _ (if locked = false then _ else _) _ _
            split
            case isTrue refused =>
              exact Async.safe_pure fun _ => holds.trans refused
            case isFalse taken =>
              apply Async.safe_scope
              refine (safe_lockedAttempt (named record rfl)
                (holds.trans (eq_true_of_ne_false taken))).mono ?_
              exact fun _ _ _ released _ => released

end Attempts

section Submissions

variable {locals : Type} {vars : locals} {config : AppConfig}
  {watch : Watch Seen}

/-- Neither a worker, nor with a lock. -/
structure Free (watch : Watch Seen) : Prop where
  idle : watch.seen.holding.worker = false
  unlocked : watch.seen.holding.locked = false

theorem Free.guarded (free : Free watch) : Guarded watch := by
  intro worker
  rw [free.idle] at worker
  cases worker

theorem Free.kept {later : Watch Seen} (free : Free watch)
    (kept : Kept watch later) : Free later :=
  ⟨kept.worker.trans free.idle, kept.locked.trans free.unlocked⟩

/-- How a process without a lock ends. -/
def EndsFree {α : Type} (outcome : Except Thrown α) (_ : locals)
    (later : Watch Seen) : Prop :=
  outcome.isOk = true → later.seen.holding.locked = false

theorem endsFree_error {α : Type} {error : Thrown} {left : locals}
    {later : Watch Seen} :
    EndsFree (.error error : Except Thrown α) left later :=
  fun impossible => by cases impossible

private theorem safe_handleJobFailure {jobData : PaymentJobData}
    {error : Thrown}
    (free : Free watch) :
    Async.Safe watched 0 EndsFree (handleJobFailure config jobData error) vars
      watch := by
  refine safe_storeGet ?_ fun _ _ _ => endsFree_error
  intro found read named kept _ _
  have free := free.kept kept
  cases found with
  | none => exact Async.safe_pure fun _ => free.unlocked
  | some record =>
      show Async.Safe _ _ _ (if record.status.terminal = true then _ else _)
        _ _
      split
      · exact Async.safe_pure fun _ => free.unlocked
      · apply Async.safe_bind
        refine safe_finalizeDeadLetter free.guarded ?_
        intro outcome later kept
        cases outcome with
        | error error => exact endsFree_error
        | ok _ => exact Async.safe_pure fun _ => (free.kept kept).unlocked

/-- A claim that is new was made by the process itself. -/
theorem safe_claim {id : PaymentId} (free : Free watch) :
    Async.Safe watched 0 (fun outcome left later => left = vars ∧
        Free later ∧ (outcome = .ok .new →
          later.seen.holding.claimed = true))
      (IdempotencyService.claim config id) vars watch := by
  refine Async.safe_bind (Async.safe_dateNow fun now => ?_)
  apply Async.safe_bind
  refine @safe_command _ _ _ (.storage (.setNxIdempotency id _ _)) _ trivial
    (fun worker _ => free.guarded worker) ?_
  intro outcome tried _ learned
  have free : Free tried := by
    rcases outcome with _ | _ | _ <;>
      exact ⟨by rw [learned]; exact free.idle,
        by rw [learned]; exact free.unlocked⟩
  cases outcome with
  | error error => exact ⟨rfl, free, fun impossible => by cases impossible⟩
  | ok acquired =>
      cases acquired with
      | true => exact Async.safe_pure ⟨rfl, free, fun _ => by rw [learned]; rfl⟩
      | false =>
          refine safe_idempotencyGet (fun existing read seen => ?_)
            fun error later seen => ⟨rfl, ⟨by rw [seen]; exact free.idle,
              by rw [seen]; exact free.unlocked⟩, fun impossible => by
                cases impossible⟩
          have free : Free read := free.kept (kept_of_same (by rw [seen]))
          split
          · exact Async.safe_pure ⟨rfl, free, fun impossible => by
              cases impossible⟩
          · split
            · exact Async.safe_pure ⟨rfl, free, fun impossible => by
                cases impossible⟩
            · exact Async.safe_pure ⟨rfl, free, fun impossible => by
                cases impossible⟩

/-- Only a claim of the process or one without a payment is deleted. -/
theorem safe_release {id : PaymentId} {post : Except Thrown Unit → locals →
      Watch Seen → Prop} (free : Free watch)
    (rests : watch.seen.holding.claimed = true ∨
      watch.seen.holding.missing = true)
    (ended : ∀ outcome later, Free later → post outcome vars later) :
    Async.Safe watched 0 post (IdempotencyService.release id) vars watch := by
  refine @safe_command _ _ _ (.storage (.delIdempotency id)) _ rests
    (fun worker _ => free.guarded worker) ?_
  intro outcome later _ learned
  exact ended outcome later ⟨by rw [learned]; exact free.idle,
    by rw [learned]; exact free.unlocked⟩

private theorem safe_claimOrRecover {id : PaymentId} (free : Free watch) :
    Async.Safe watched 0 (fun outcome left later => left = vars ∧
        Free later ∧ (outcome = .ok .new →
          later.seen.holding.claimed = true))
      (PaymentService.claimOrRecover config id) vars watch := by
  apply Async.safe_bind
  refine (safe_claim free).mono ?_
  rintro outcome _ tried ⟨rfl, free, claims⟩
  cases outcome with
  | error error => exact ⟨rfl, free, fun impossible => by cases impossible⟩
  | ok claim =>
      cases claim with
      | new => exact Async.safe_pure ⟨rfl, free, fun _ => claims rfl⟩
      | replayed record =>
          exact Async.safe_pure ⟨rfl, free, fun impossible => by
            cases impossible⟩
      | conflict record =>
          refine safe_storeGet ?_ fun error later kept =>
            ⟨rfl, free.kept kept, fun impossible => by cases impossible⟩
          intro found read named kept missing _
          have free := free.kept kept
          cases found with
          | some record =>
              exact Async.safe_pure ⟨rfl, free, fun impossible => by
                cases impossible⟩
          | none =>
              refine Async.safe_bind (safe_release free (.inr missing) ?_)
              intro outcome released free
              cases outcome with
              | error error =>
                  exact ⟨rfl, free, fun impossible => by cases impossible⟩
              | ok _ => exact safe_claim free

private theorem safe_create {input : CreatePaymentInput} (free : Free watch)
    (claimed : watch.seen.holding.claimed = true) :
    Async.Safe watched 0 EndsFree (PaymentService.create input) vars
      watch := by
  refine Async.safe_bind (Async.safe_dateNow fun now => ?_)
  refine Async.safe_bind (safe_audit free.guarded ?_ fun _ _ _ =>
    endsFree_error)
  intro audited seen
  have free : Free audited := free.kept (kept_of_same (by rw [seen]))
  have claimed : audited.seen.holding.claimed = true := by
    rw [seen]
    exact claimed
  refine Async.safe_bind (safe_save free.guarded ⟨rfl, claimed⟩ ?_
    fun _ _ _ => endsFree_error)
  intro saved seen'
  have free : Free saved := free.kept (kept_of_same (by rw [seen']))
  have stored : ∀ also : PaymentRecord → Prop, also (createPaymentRecord
      (PaymentService.newPayment input) now) →
      Saved saved.seen input.id .queued also := by
    intro also held
    rw [seen']
    exact ⟨_, rfl, rfl, rfl, held⟩
  refine Async.safe_bind (safe_announce free.guarded (by rw [seen', seen]; rfl)
    (stored _ rfl) ?_)
  intro outcome told toldSeen
  have free : Free told := free.kept (kept_of_same (by rw [toldSeen]))
  have claimed : told.seen.holding.claimed = true := by
    rw [toldSeen, seen']
    exact claimed
  cases outcome with
  | error error => exact endsFree_error
  | ok _ =>
      refine Async.safe_bind (Async.safe_dateNow fun submittedAt => ?_)
      apply Async.safe_bind
      apply Async.safe_tryCatch
      refine safe_queueAdd free.guarded ?_ ?_
      · refine ⟨claimed, by rw [toldSeen], rfl, ?_⟩
        rw [toldSeen]
        exact stored _ trivial
      · intro outcome queued same
        have free : Free queued := free.kept (kept_of_same same)
        cases outcome with
        | ok _ => exact Async.safe_pure fun _ => free.unlocked
        | error error =>
            rw [← same] at claimed
            refine Async.safe_bind (safe_release free (.inl claimed) ?_)
            intro outcome released _
            cases outcome with
            | error error => exact endsFree_error
            | ok _ => exact Async.safe_throw endsFree_error

private theorem safe_submit {input : CreatePaymentInput} (free : Free watch) :
    Async.Safe watched 0 EndsFree (PaymentService.submit config input) vars
      watch := by
  apply Async.safe_bind
  refine (safe_claimOrRecover free).mono ?_
  rintro outcome _ tried ⟨rfl, free, claims⟩
  cases outcome with
  | error error => exact endsFree_error
  | ok claim =>
      cases claim with
      | new => exact safe_create free (claims rfl)
      | replayed record =>
          refine safe_storeGet ?_ fun _ _ _ => endsFree_error
          intro found read named kept _ _
          cases found with
          | some payment => exact Async.safe_pure fun _ =>
              (free.kept kept).unlocked
          | none => exact Async.safe_throw endsFree_error
      | conflict record =>
          refine safe_storeGet ?_ fun _ _ _ => endsFree_error
          intro found read named kept _ _
          exact Async.safe_throw endsFree_error

end Submissions

private theorem code_obeys (config : AppConfig) (task : Task) (time : Time) :
    ((task.body config).start time).Obeys monitor Solvency.keyed Releases
      (begins task) := by
  cases task with
  | submit input =>
      refine Async.Safe.start (Async.safe_bind ?_) time
      refine (safe_submit ⟨rfl, rfl⟩).mono ?_
      intro outcome left later ended
      cases outcome with
      | error error => exact fun impossible => by cases impossible
      | ok result => exact Async.safe_pure ended
  | process job =>
      refine Async.Safe.start (Async.safe_bind ?_) time
      refine (safe_processJob rfl).mono ?_
      intro outcome left later ended
      cases outcome with
      | error error => exact fun impossible => by cases impossible
      | ok result => exact Async.safe_pure ended
  | handleJobFailure jobData error =>
      refine Async.Safe.start (Async.safe_bind ?_) time
      refine (safe_handleJobFailure ⟨rfl, rfl⟩).mono ?_
      intro outcome left later ended
      cases outcome with
      | error error => exact fun impossible => by cases impossible
      | ok result => exact Async.safe_pure ended

/-- Records are found under their id. -/
theorem upholds (config : AppConfig) :
    Upholds (paymentSystem config) (fun _ _ => True) Solvency.keyed
      (fun _ _ => True) Solvency.Keyed :=
  (Solvency.budget Solvency.spent _
    fun _ _ _ _ _ _ _ _ executed => Solvency.entry_le_cost executed).upholds

end WriteAhead

open WriteAhead

/-- In any interleaving, with any failures, crashes and expiries: every command
that a process has executed rests on what the process was told before, and a
process that has returned holds no execution lock. -/
theorem write_ahead (config : AppConfig) (start : Time)
    (state : PaymentConfig config) (pasts : Nat → List (Exchange signature))
    (recorded : (paymentSystem config).Recorded (fun _ _ => True)
      (initially (World.empty start)) state pasts) (pid : Nat)
    (thread : PaymentThread config)
    (found : state.threads[pid]? = some thread) :
    (∀ earlier exchange later, pasts pid = earlier ++ exchange :: later →
      Rests (monitor.after (begins thread.task) earlier) exchange.command) ∧
    ∀ task output, thread = .ended task output → output.isOk = true →
      (monitor.after (begins task) (pasts pid)).holding.locked = false := by
  have tracked : Tracked monitor Solvency.keyed begins (fun _ => Releases)
      thread (pasts pid) :=
    (Monitored.reaches (upholds config) (code_obeys config)
      (Solvency.keyed_empty start) recorded).threads pid thread found
  constructor
  · intro earlier exchange later same
    have follows := tracked.follows
    rw [same] at follows
    exact follows.rests
  · rintro task output rfl returned
    exact tracked.obeys returned

def refunds (exchange : Exchange signature) : Bool :=
  match exchange.command with
  | .guardRefund _ _ => true
  | _ => false

theorem write_ahead_paidBack :
    ∃ (state : PaymentConfig .default) (thread : PaymentThread .default)
      (pasts : Nat → List (Exchange signature)),
      state.threads[1]? = some thread ∧ (pasts 1).any refunds = true ∧
      ∀ earlier exchange later, pasts 1 = earlier ++ exchange :: later →
        Rests (monitor.after (begins thread.task) earlier)
          exchange.command := by
  obtain ⟨⟨state, pasts⟩, reached, checked⟩ := exists_of_replay
    (observed (paymentSystem .default).step System.told) (fun _ _ => true)
    paidBack (initially (World.empty 0), fun _ => [])
    (fun current => current.1.threads[1]?.isSome &&
      (current.2 1).any refunds)
    (by decide +kernel)
  obtain ⟨started, refunded⟩ := (Bool.and_eq_true _ _).mp checked
  obtain ⟨thread, found⟩ := Option.isSome_iff_exists.mp started
  exact ⟨state, thread, pasts, found, refunded, (write_ahead .default 0 state pasts
    (reached.mono fun _ _ _ => trivial) 1 thread found).1⟩

end PaymentQueue
