import PaymentQueue.Runtime.Attempts

/-!
# How an attempt of the saga ends

`PaymentSagaService.execute` for a payment whose record and audit log nobody
else writes, when no command throws except the append to the ledger.  Each
statement of the saga moves a `Progress`: what the record in memory looks like,
what was saved of it, and which audit entries were appended.
-/

namespace PaymentQueue

open Await PaymentSagaService

namespace Exits

/-- An entry of the history without its time. -/
structure Mark where
  phase : SagaPhase
  event : String
  detail : Option String
  deriving DecidableEq, Repr

def mark (entry : SagaHistoryEntry) : Mark :=
  ⟨entry.phase, entry.event, entry.detail⟩

/-- What the saga has made of a record: its state, its refund, and the entries
that were added to its history. -/
structure Shape where
  state : SagaState
  refund : Option String
  marks : List Mark
  deriving DecidableEq, Repr

structure Became (start : PaymentRecord) (shape : Shape)
    (record : PaymentRecord) : Prop where
  id : record.id = start.id
  status : record.status = start.status
  reason : record.failureReason = start.failureReason
  state : record.sagaState = shape.state
  refund : record.refundId = shape.refund
  history : ∃ entries, record.history = start.history ++ entries ∧
    entries.map mark = shape.marks

/-- A readable document with a property. -/
def Reads (property : PaymentRecord → Prop)
    (doc : Option (Stored PaymentRecord)) : Prop :=
  ∃ record, doc = some (.parsed record) ∧ property record

structure Progress where
  current : Shape
  stored : Option Shape
  audited : List AuditEventType
  deriving DecidableEq, Repr

/-- The saga that was called with `start`, at an audit log `log`, has come this
far. -/
structure Stands (start : PaymentRecord) (log : List AuditEvent)
    (progress : Progress) (record : PaymentRecord) (world : World) : Prop where
  current : Became start progress.current record
  stored : ∀ shape, progress.stored = some shape →
    Reads (Became start shape) (world.payments start.id)
  audited : ∃ events, world.audit start.id = log ++ events ∧
    events.map AuditEvent.type = progress.audited

namespace Progress

variable (progress : Progress)

def noted (phase : SagaPhase) (event : String) (detail : Option String) :
    Progress :=
  { progress with current := { progress.current with
      marks := progress.current.marks ++ [⟨phase, event, detail⟩] } }

def turned (state : SagaState) : Progress :=
  { progress with current := { progress.current with state } }

def repaid (refundId : String) : Progress :=
  { progress with current := { progress.current with
      refund := some refundId } }

def saved : Progress :=
  { progress with stored := some progress.current }

def logged (type : AuditEventType) : Progress :=
  { progress with audited := progress.audited ++ [type] }

end Progress

/-- Before the first statement of the saga. -/
def began (start : PaymentRecord) : Progress :=
  ⟨⟨start.sagaState, start.refundId, []⟩, none, []⟩

def reserved (start : PaymentRecord) (reservationId : String) : Progress :=
  ((began start).noted .reserve "ok" (some reservationId)).turned .reserved
    |>.saved.logged .sagaReserve

def declined (start : PaymentRecord) (reservationId code : String) :
    Progress :=
  ((reserved start reservationId).noted .charge "failure" (some code)).noted
    .compensation "release_funds" (some reservationId)
    |>.logged .sagaCompensateReleaseFunds |>.saved

def charged (start : PaymentRecord) (reservationId transactionId : String) :
    Progress :=
  ((reserved start reservationId).turned .charged).noted .charge "ok"
    (some transactionId) |>.saved.logged .sagaCharge

def settled (start : PaymentRecord) (reservationId transactionId : String) :
    Progress :=
  ((charged start reservationId transactionId).turned .settled).noted .settle
    "ok" (some transactionId) |>.logged .sagaSettle

def unsettled (start : PaymentRecord)
    (reservationId transactionId message : String) : Progress :=
  (charged start reservationId transactionId).noted .settle "failure"
    (some message)

/-- The refund was answered with its id, or with a failure. -/
def refunded (progress : Progress) : Except String String → Progress
  | .ok refundId =>
      ((progress.repaid refundId).noted .compensation "refund_charge"
        (some refundId)).logged .sagaCompensateRefundCharge
  | .error failure =>
      (progress.noted .compensation "refund_failed" (some failure)).logged
        .sagaCompensateRefundCharge

def compensated (start : PaymentRecord)
    (reservationId transactionId message : String)
    (refund : Except String String) : Progress :=
  ((refunded (unsettled start reservationId transactionId message)
    refund).noted .compensation "release_funds" (some reservationId)).logged
      .sagaCompensateReleaseFunds |>.turned .compensated |>.saved

/-- The history entries that an attempt adds, exit by exit. -/
theorem marks_settled (start : PaymentRecord)
    (reservationId transactionId : String) :
    (settled start reservationId transactionId).current.marks =
      [⟨.reserve, "ok", some reservationId⟩,
        ⟨.charge, "ok", some transactionId⟩,
        ⟨.settle, "ok", some transactionId⟩] := rfl

theorem marks_declined (start : PaymentRecord)
    (reservationId code : String) :
    (declined start reservationId code).current.marks =
      [⟨.reserve, "ok", some reservationId⟩,
        ⟨.charge, "failure", some code⟩,
        ⟨.compensation, "release_funds", some reservationId⟩] := rfl

theorem marks_compensated (start : PaymentRecord)
    (reservationId transactionId message refundId : String) :
    (compensated start reservationId transactionId message
      (.ok refundId)).current.marks =
      [⟨.reserve, "ok", some reservationId⟩,
        ⟨.charge, "ok", some transactionId⟩,
        ⟨.settle, "failure", some message⟩,
        ⟨.compensation, "refund_charge", some refundId⟩,
        ⟨.compensation, "release_funds", some reservationId⟩] := rfl

theorem marks_unrefunded (start : PaymentRecord)
    (reservationId transactionId message failure : String) :
    (compensated start reservationId transactionId message
      (.error failure)).current.marks =
      [⟨.reserve, "ok", some reservationId⟩,
        ⟨.charge, "ok", some transactionId⟩,
        ⟨.settle, "failure", some message⟩,
        ⟨.compensation, "refund_failed", some failure⟩,
        ⟨.compensation, "release_funds", some reservationId⟩] := rfl

variable {config : AppConfig}

/-- In the runs considered the guard can answer with a charge. -/
def Accepts (contract : Contract (machine config)) : Prop :=
  ∃ payment correlationId transactionId httpStatus world,
    contract.allowed (.guardCall payment correlationId)
      (.guard (.answered (.ok transactionId httpStatus))) world

/-- In the runs considered the guard can answer with this failure. -/
def Refuses (contract : Contract (machine config))
    (failure : PaymentProcessingError) : Prop :=
  ∃ payment correlationId response world,
    contract.allowed (.guardCall payment correlationId) (.guard response)
      world ∧
    callOutcome config.tokenWaitMs payment.gatewayId response = .fail failure

/-- In the runs considered the append to the ledger can succeed, or throw. -/
def Appends (contract : Contract (machine config)) (succeeds : Bool) : Prop :=
  ∃ entry choice world,
    contract.allowed (.storage (.rpushSettlement entry)) choice world ∧
      choice.faultless = succeeds

/-- In the runs considered a refund can turn out this way. -/
def Refunds (contract : Contract (machine config)) :
    Except String String → Prop
  | .ok _ => ∃ gatewayId transactionId refundId httpStatus world,
      contract.allowed (.guardRefund gatewayId transactionId)
        (.refund (.ok refundId httpStatus)) world
  | .error _ => ∃ gatewayId transactionId failure world,
      contract.allowed (.guardRefund gatewayId transactionId)
        (.refund (.fail failure)) world

/-- The ways in which the saga ends. -/
def Exit (contract : Contract (machine config)) (start : PaymentRecord)
    (log : List AuditEvent) :
    Except Thrown SagaOutcome → PaymentRecord → World → Prop
  | .ok outcome, record, world =>
      Accepts contract ∧ Appends contract true ∧
        Stands start log (settled start outcome.reservationId
          outcome.transactionId) record world
  | .error error, record, world =>
      (∃ reservationId failure, error = .processing failure ∧
        Refuses contract failure ∧
        Stands start log (declined start reservationId failure.code.text)
          record world) ∨
      ∃ reservationId transactionId message gatewayId refund,
        error = .processing (settleError transactionId message gatewayId) ∧
        Accepts contract ∧ Appends contract false ∧ Refunds contract refund ∧
        Stands start log (compensated start reservationId transactionId
          message refund) record world

/-- Nobody else writes the record or the audit log of the payment, and nothing
is owed to the others. -/
structure Exclusive (contract : Contract (machine config)) (id : PaymentId) :
    Prop where
  keeps : ∀ before after, Keeps contract before after
  record : ∀ before after, contract.rely before after →
    after.payments id = before.payments id
  audit : ∀ before after, contract.rely before after →
    after.audit id = before.audit id
  throws : ∀ command choice world, contract.allowed command choice world →
    unfailing command choice world = true

theorem Exclusive.faultless {contract : Contract (machine config)}
    {id : PaymentId} (exclusive : Exclusive contract id) {command : Command}
    (other : command.settles = false) : Faultless contract command := by
  intro choice before allowed
  simpa [unfailing, other] using exclusive.throws _ choice before allowed

section Rules

variable {contract : Contract (machine config)} {pid : Nat}
  {start record : PaymentRecord} {log : List AuditEvent}
  {progress : Progress} {world : World} {α β : Type}

/-- A part of the saga that does not throw. -/
def Reaches (start : PaymentRecord) (log : List AuditEvent)
    (next : α → Progress) :
    Except Thrown α → PaymentRecord → World → Prop
  | .ok value, record, world => Stands start log (next value) record world
  | .error _, _, _ => False

/-- One part of the saga, followed by the rest. -/
theorem safe_part {action : OnRecord α} {rest : α → OnRecord β}
    {next : α → Progress}
    {post : Except Thrown β → PaymentRecord → World → Prop}
    (first : Async.Safe contract pid (Reaches start log next) action record
      world)
    (continues : ∀ value record world,
      Stands start log (next value) record world →
      Async.Safe contract pid post (rest value) record world) :
    Async.Safe contract pid post (action >>= rest) record world := by
  refine Async.safe_bind (first.mono ?_)
  intro outcome left current reached
  cases outcome with
  | ok value => exact continues value left current reached
  | error error => exact reached.elim

theorem Stands.same {after : World}
    (stands : Stands start log progress record world)
    (payments : after.payments start.id = world.payments start.id)
    (audit : after.audit start.id = world.audit start.id) :
    Stands start log progress record after := by
  refine ⟨stands.current, ?_, ?_⟩
  · rw [payments]
    exact stands.stored
  · rw [audit]
    exact stands.audited

variable (exclusive : Exclusive contract start.id)
  (stands : Stands start log progress record world)

include exclusive

/-- A command that is not the append to the ledger has its effect. -/
theorem safe_storage {command : StorageCommand} {next : Progress}
    (other : (Command.storage command).settles = false)
    (effect : ∀ before, Stands start log progress record before →
      Stands start log next record (command.effect pid before).2)
    (stands : Stands start log progress record world) :
    Async.Safe contract pid (Reaches start log fun _ => next)
      (awaitStorage command) record world := by
  apply Async.safe_await
  intro before outcome after interfered execution
  refine ⟨exclusive.keeps before after, ?_⟩
  obtain ⟨-, rfl, rfl⟩ := (exclusive.faultless other).executes execution
  exact effect before (stands.same (exclusive.record _ _ interfered)
    (exclusive.audit _ _ interfered))

/-- A command that writes neither records nor audit entries. -/
theorem safe_beside (command : Command)
    {post : Except Thrown command.Result → PaymentRecord → World → Prop}
    (payments : command.writes .payments = false)
    (audit : command.writes .audit = false)
    (reached : ∀ before outcome after,
      Executes contract pid command before outcome after →
      Stands start log progress record after → post outcome record after)
    (stands : Stands start log progress record world) :
    Async.Safe contract pid post (awaitCommand command) record world := by
  apply Async.safe_await
  intro before outcome after interfered execution
  have samePayments : after.payments = before.payments :=
    executes_agrees execution payments
  have sameAudit : after.audit = before.audit :=
    executes_agrees execution audit
  refine ⟨exclusive.keeps before after,
    reached before outcome after execution (stands.same ?_ ?_)⟩
  · rw [samePayments]
    exact exclusive.record _ _ interfered
  · rw [sameAudit]
    exact exclusive.audit _ _ interfered

omit exclusive in
theorem safe_noted (phase : SagaPhase) (event detail : String)
    (stands : Stands start log progress record world) :
    Async.Safe contract pid
      (Reaches start log fun _ => progress.noted phase event (some detail))
      (history phase event detail) record world := by
  refine Async.safe_bind (Async.safe_dateNow fun now =>
    Async.safe_modify ⟨?_, stands.stored, stands.audited⟩)
  obtain ⟨entries, grown, marks⟩ := stands.current.history
  refine { stands.current with history := ?_ }
  refine ⟨entries ++ [⟨phase, event, some detail, now⟩], ?_, ?_⟩
  · simp only [grown, List.append_assoc]
  · simp [Progress.noted, marks, mark]

omit exclusive in
theorem safe_turned {change : PaymentRecord → PaymentRecord}
    (state : SagaState)
    (current : Became start { progress.current with state }
      (change record))
    (stands : Stands start log progress record world) :
    Async.Safe contract pid (Reaches start log fun _ => progress.turned state)
      (Async.modify change) record world :=
  Async.safe_modify ⟨current, stands.stored, stands.audited⟩

omit exclusive in
private theorem safe_repaid (refundId : String)
    (stands : Stands start log progress record world) :
    Async.Safe contract pid
      (Reaches start log fun _ => progress.repaid refundId)
      (Async.modify fun record => { record with refundId := some refundId })
      record world :=
  Async.safe_modify ⟨{ stands.current with refund := rfl }, stands.stored,
    stands.audited⟩

theorem safe_saved (stands : Stands start log progress record world) :
    Async.Safe contract pid (Reaches start log fun _ => progress.saved)
      saveRecord record world := by
  refine Async.safe_bind (Async.safe_get
    (safe_storage exclusive rfl ?_ stands))
  intro before stands
  refine ⟨stands.current, ?_, stands.audited⟩
  rintro shape same
  cases same
  refine ⟨record, ?_, stands.current⟩
  simp [StorageCommand.effect, stands.current.id]

theorem safe_logged (type : AuditEventType) (detail : Detail)
    (stands : Stands start log progress record world) :
    Async.Safe contract pid (Reaches start log fun _ => progress.logged type)
      (auditRecord type detail) record world := by
  refine Async.safe_bind (Async.safe_get (Async.safe_bind
    (Async.safe_dateNow fun now => safe_storage exclusive rfl ?_ stands)))
  intro before stands
  obtain ⟨events, grown, types⟩ := stands.audited
  refine ⟨stands.current, stands.stored,
    events ++ [⟨record.id, type, now, detail⟩], ?_, ?_⟩
  · simp [StorageCommand.effect, stands.current.id, grown]
  · simp [Progress.logged, types]

private theorem safe_emitted {event : Time → AppEvent}
    (stands : Stands start log progress record world) :
    Async.Safe contract pid (Reaches start log fun _ => progress)
      (EventBus.emit event) record world := by
  refine Async.safe_bind (Async.safe_dateNow fun now =>
    safe_beside exclusive _ rfl rfl ?_ stands)
  intro before outcome after execution stands
  obtain ⟨-, rfl, -⟩ := executes_emit execution
  exact stands

theorem safe_emitPhase (phase : SagaPhase) (ok : Bool)
    (stands : Stands start log progress record world) :
    Async.Safe contract pid (Reaches start log fun _ => progress)
      (emitPhase phase ok) record world :=
  Async.safe_bind (Async.safe_get (safe_emitted exclusive stands))

private theorem safe_reserve
    (stands : Stands start log (began start) record world) :
    Async.Safe contract pid (Reaches start log (reserved start)) reserve
      record world := by
  refine Async.safe_bind (Async.safe_get ?_)
  refine Async.safe_bind (Async.safe_dateNow fun now => ?_)
  apply safe_part (safe_noted _ _ _ stands)
  intro _ record world stands
  apply safe_part (safe_turned _ { stands.current with state := rfl } stands)
  intro _ record world stands
  apply safe_part (safe_saved exclusive stands)
  intro _ record world stands
  apply safe_part (safe_logged exclusive _ _ stands)
  intro _ record world stands
  apply safe_part (safe_emitPhase exclusive _ _ stands)
  intro _ record world stands
  exact Async.safe_pure stands

private theorem safe_releaseFunds (reservationId : String)
    (stands : Stands start log progress record world) :
    Async.Safe contract pid
      (Reaches start log fun _ => (progress.noted .compensation
        "release_funds" (some reservationId)).logged
          .sagaCompensateReleaseFunds)
      (releaseFunds reservationId) record world := by
  apply safe_part (safe_noted _ _ _ stands)
  intro _ record world stands
  exact safe_logged exclusive _ _ stands

private theorem safe_callGuard (stands : Stands start log progress record world) :
    Async.Safe contract pid (fun outcome left current =>
      Stands start log progress left current ∧
        ((∃ transactionId httpStatus,
            outcome = .ok (.ok transactionId httpStatus) ∧ Accepts contract) ∨
          ∃ failure, outcome = .ok (.fail failure) ∧
            Refuses contract failure))
      callGuard record world := by
  refine Async.safe_bind (Async.safe_get (safe_beside exclusive
    (.guardCall record record.correlationId) rfl rfl ?_ stands))
  intro before outcome after execution stands
  obtain ⟨response, allowed, rfl, -⟩ := executes_guardCall execution
  refine ⟨stands, ?_⟩
  match response, allowed with
  | .answered (.ok transactionId httpStatus), allowed =>
      exact .inl ⟨transactionId, httpStatus, rfl, _, _, _, _, _, allowed⟩
  | .answered (.fail failure), allowed =>
      exact .inr ⟨_, rfl, _, _, _, _, allowed, rfl⟩
  | .noToken, allowed => exact .inr ⟨_, rfl, _, _, _, _, allowed, rfl⟩
  | .circuitRefused state, allowed =>
      exact .inr ⟨_, rfl, _, _, _, _, allowed, rfl⟩

private theorem safe_chargeFailed {reservationId : String}
    {failure : PaymentProcessingError} (refused : Refuses contract failure)
    (stands : Stands start log (reserved start reservationId) record world) :
    Async.Safe contract pid (Exit contract start log)
      (chargeFailed reservationId failure) record world := by
  apply safe_part (safe_noted _ _ _ stands)
  intro _ record world stands
  apply safe_part (safe_releaseFunds exclusive _ stands)
  intro _ record world stands
  apply safe_part (safe_saved exclusive stands)
  intro _ record world stands
  apply safe_part (safe_emitPhase exclusive _ _ stands)
  intro _ record world stands
  exact Async.safe_throw (.inl ⟨reservationId, failure, rfl, refused, stands⟩)

private theorem safe_charged (reservationId transactionId : String)
    (httpStatus : Nat)
    (stands : Stands start log (reserved start reservationId) record world) :
    Async.Safe contract pid
      (Reaches start log fun _ => charged start reservationId transactionId)
      (PaymentSagaService.charged reservationId transactionId httpStatus)
      record world := by
  apply safe_part (safe_turned _ { stands.current with state := rfl } stands)
  intro _ record world stands
  apply safe_part (safe_noted _ _ _ stands)
  intro _ record world stands
  apply safe_part (safe_saved exclusive stands)
  intro _ record world stands
  apply safe_part (safe_logged exclusive _ _ stands)
  intro _ record world stands
  exact safe_emitPhase exclusive _ _ stands

private theorem safe_refundCharge (transactionId : String)
    (stands : Stands start log progress record world) :
    Async.Safe contract pid (fun outcome left current =>
      outcome = .ok () ∧ ∃ refund, Refunds contract refund ∧
        Stands start log (refunded progress refund) left current)
      (refundCharge transactionId) record world := by
  refine Async.safe_bind (Async.safe_get ?_)
  refine Async.safe_bind (safe_beside exclusive _ rfl rfl ?_ stands)
  intro before outcome after execution stands
  obtain ⟨result, allowed, rfl, -⟩ := executes_guardRefund execution
  cases result with
  | ok refundId httpStatus =>
      apply safe_part (safe_repaid refundId stands)
      intro _ left world stands
      apply safe_part (safe_noted _ _ _ stands)
      intro _ left world stands
      apply (safe_logged exclusive _ _ stands).mono
      intro outcome left current reached
      cases outcome with
      | ok _ =>
          exact ⟨rfl, .ok refundId, ⟨_, _, _, _, before, allowed⟩, reached⟩
      | error error => exact reached.elim
  | fail failure =>
      apply safe_part (safe_noted _ _ _ stands)
      intro _ left world stands
      apply safe_part (safe_logged exclusive _ _ stands)
      intro _ left world stands
      apply (safe_emitted exclusive stands).mono
      intro outcome left current reached
      cases outcome with
      | ok _ =>
          exact ⟨rfl, .error _, ⟨_, _, failure, before, allowed⟩, reached⟩
      | error error => exact reached.elim

private theorem safe_compensateSettle {reservationId transactionId : String}
    (error : Thrown) (accepts : Accepts contract)
    (throws : Appends contract false)
    (stands : Stands start log (charged start reservationId transactionId)
      record world) :
    Async.Safe contract pid (fun outcome left current =>
      ∃ thrown, outcome = .error thrown ∧
        Exit contract start log (.error thrown) left current)
      (compensateSettle reservationId transactionId error) record world := by
  apply safe_part (safe_noted _ _ _ stands)
  intro _ record world stands
  refine Async.safe_bind ((safe_refundCharge exclusive transactionId
    stands).mono ?_)
  rintro outcome record world ⟨rfl, refund, possible, stands⟩
  apply safe_part (safe_releaseFunds exclusive _ stands)
  intro _ record world stands
  apply safe_part (safe_turned _ { stands.current with state := rfl } stands)
  intro _ record world stands
  apply safe_part (safe_saved exclusive stands)
  intro _ record world stands
  apply safe_part (safe_emitPhase exclusive _ _ stands)
  intro _ record world stands
  refine Async.safe_bind (Async.safe_get (Async.safe_throw ?_))
  exact ⟨_, rfl, .inr ⟨reservationId, transactionId, error.message,
    record.gatewayId, refund, rfl, accepts, throws, possible, stands⟩⟩

private theorem safe_settle {reservationId transactionId : String}
    (accepts : Accepts contract)
    (stands : Stands start log (charged start reservationId transactionId)
      record world) :
    Async.Safe contract pid (fun outcome left current =>
      match outcome with
      | .ok _ => Appends contract true ∧
          Stands start log (charged start reservationId transactionId) left
            current
      | .error error => Exit contract start log (.error error) left current)
      (settle reservationId transactionId) record world := by
  refine Async.safe_tryCatch (Async.safe_bind (Async.safe_get ?_))
  refine Async.safe_bind (Async.safe_bind (Async.safe_dateNow fun now => ?_))
  refine Async.safe_bind (safe_beside exclusive
    (.storage (.rpushSettlement _)) rfl rfl ?_ stands)
  intro before outcome after execution stands
  rcases executes_storage execution with
    ⟨allowed, rfl, -⟩ | ⟨message, rfl, thrown⟩
  · exact Async.safe_pure (Async.safe_pure
      ⟨⟨_, _, before, allowed, rfl⟩, stands⟩)
  · have throws : Appends contract false := by
      rcases thrown with ⟨allowed, -⟩ | ⟨allowed, -⟩
      · exact ⟨_, _, before, allowed, rfl⟩
      · exact ⟨_, _, before, allowed, rfl⟩
    apply (safe_compensateSettle exclusive (.error message) accepts throws
      stands).mono
    rintro outcome left current ⟨thrown, rfl, exits⟩
    exact exits

private theorem safe_settled {reservationId transactionId : String}
    (stands : Stands start log (charged start reservationId transactionId)
      record world) :
    Async.Safe contract pid
      (Reaches start log fun _ => settled start reservationId transactionId)
      (PaymentSagaService.settled transactionId) record world := by
  apply safe_part (safe_turned _ { stands.current with state := rfl } stands)
  intro _ record world stands
  apply safe_part (safe_noted _ _ _ stands)
  intro _ record world stands
  apply safe_part (safe_logged exclusive _ _ stands)
  intro _ record world stands
  exact safe_emitPhase exclusive _ _ stands

/-- Every way through the saga. -/
theorem safe_execute (stands : Stands start log (began start) record world) :
    Async.Safe contract pid (Exit contract start log) execute record
      world := by
  apply safe_part (safe_reserve exclusive stands)
  intro reservationId record world stands
  refine Async.safe_bind ((safe_callGuard exclusive stands).mono ?_)
  rintro outcome record world ⟨stands, ⟨transactionId, httpStatus, rfl,
    accepts⟩ | ⟨failure, rfl, refuses⟩⟩
  · apply safe_part (safe_charged exclusive _ _ _ stands)
    intro _ record world stands
    refine Async.safe_bind ((safe_settle exclusive accepts stands).mono ?_)
    intro outcome record world reached
    cases outcome with
    | error error => exact reached
    | ok _ =>
        obtain ⟨appends, stands⟩ := reached
        apply safe_part (safe_settled exclusive stands)
        intro _ record world stands
        exact Async.safe_pure ⟨accepts, appends, stands⟩
  · exact safe_chargeFailed exclusive refuses stands

end Rules

/-- The saga has not started. -/
theorem stands_began (start : PaymentRecord) (world : World) :
    Stands start (world.audit start.id) (began start) start world where
  current := ⟨rfl, rfl, rfl, rfl, rfl, [], by simp, rfl⟩
  stored := nofun
  audited := ⟨[], by simp, rfl⟩

variable {contract : Contract (machine config)} {pid : Nat} {id : PaymentId}
  {locals : Type} {vars : locals} {world : World}
  {fact next : Option (Stored PaymentRecord) → Prop}

/-- The command returns, with this fact about the stored document. -/
def Leaves {α : Type} (id : PaymentId)
    (fact : Option (Stored PaymentRecord) → Prop) :
    Except Thrown α → World → Prop :=
  Continues (fun _ world => fact (world.payments id))
    (fun (_ : Except Thrown Unit) _ => False)

/-- A statement that returns with a fact about the stored document, followed by
the rest of the body. -/
theorem safe_next {α β : Type} {action : Async locals α}
    {rest : α → Async locals β}
    {post : Except Thrown β → locals → World → Prop}
    (first : Async.Safe contract pid (fun outcome left current =>
      left = vars ∧ Leaves id next outcome current) action vars world)
    (continues : ∀ value current, next (current.payments id) →
      Async.Safe contract pid post (rest value) vars current) :
    Async.Safe contract pid post (action >>= rest) vars world :=
  safe_continue first continues fun _ _ impossible => impossible.elim

variable (exclusive : Exclusive contract id)

include exclusive

theorem stable_document :
    Stable contract (fun world => fact (world.payments id)) := by
  intro first second interfered _ known
  rw [exclusive.record first second interfered]
  exact known

/-- A command that does not save records and is not the append to the
ledger. -/
theorem moves_beside {command : Command}
    (other : command.settles = false)
    (unsaved : command.writes .payments = false) :
    Moves contract pid command (fun world => fact (world.payments id))
      (Leaves id fact) := by
  apply (exclusive.faultless other).moves
  intro before value after known execution
  have same : after.payments = before.payments :=
    executes_agrees execution unsaved
  refine ⟨exclusive.keeps before after, ?_⟩
  show fact (after.payments id)
  rw [same]
  exact known

/-- The save of a record with a property. -/
theorem safe_save {record : PaymentRecord} (same : record.id = id)
    (reached : next (some (.parsed record))) :
    Async.Safe contract pid (fun outcome left current =>
      left = vars ∧ Leaves id next outcome current)
      (PaymentStore.save record) vars world := by
  have moves : Moves contract pid (.storage (.hsetPayment record.id record))
      (fun _ => True) (Leaves id next) := by
    apply (exclusive.faultless rfl).moves_storage
    intro before _ _ _
    refine ⟨exclusive.keeps _ _, ?_⟩
    show next _
    simpa [StorageCommand.effect, same] using reached
  exact safe_command moves (fun _ _ _ _ known => known) trivial

/-- Statements that do not save records leave what is known of the stored
one. -/
theorem safe_audits {type : AuditEventType} {detail : Detail}
    {paymentId : PaymentId} (known : fact (world.payments id)) :
    Async.Safe contract pid (fun outcome left current =>
      left = vars ∧ Leaves id fact outcome current)
      (AuditLogService.record paymentId type detail) vars world :=
  safe_audit (fun _ => moves_beside exclusive rfl rfl)
    (stable_document exclusive) known

theorem safe_emits {event : Time → AppEvent}
    (known : fact (world.payments id)) :
    Async.Safe contract pid (fun outcome left current =>
      left = vars ∧ Leaves id fact outcome current)
      (EventBus.emit event) vars world :=
  safe_emit (fun _ => moves_beside exclusive rfl rfl)
    (stable_document exclusive) known

theorem safe_releases {paymentId : PaymentId}
    (known : fact (world.payments id)) :
    Async.Safe contract pid (fun outcome left current =>
      left = vars ∧ Leaves id fact outcome current)
      (IdempotencyService.releaseExecutionLock paymentId) vars world :=
  safe_command (moves_beside exclusive rfl rfl) (stable_document exclusive)
    known

theorem safe_finalize {state : IdempotencyState} {status : PaymentStatus}
    {transactionId failureReason : Option String}
    (known : fact (world.payments id)) :
    Async.Safe contract pid (fun outcome left current =>
      left = vars ∧ Leaves id fact outcome current)
      (IdempotencyService.finalize config id state status transactionId
        failureReason) vars world := by
  refine safe_next (safe_idempotencyRead
    (moves_beside exclusive rfl rfl) (stable_document exclusive) known) ?_
  intro previous current known
  refine Async.safe_bind (Async.safe_dateNow fun now => ?_)
  exact safe_command (moves_beside exclusive rfl rfl)
    (stable_document exclusive) known

/-- A statement on the record that `PaymentStore.get` finds. -/
theorem safe_found {α : Type} {property : PaymentRecord → Prop}
    {rest : Option PaymentRecord → Async locals α}
    {post : Except Thrown α → locals → World → Prop}
    (continues : ∀ record current, property record →
      Reads property (current.payments id) →
      Async.Safe contract pid post (rest (some record)) vars current)
    (known : Reads property (world.payments id)) :
    Async.Safe contract pid post (PaymentStore.get id >>= rest) vars
      world := by
  have loads : Moves contract pid (.storage (.hgetPayment id))
      (fun world => Reads property (world.payments id))
      (Continues (fun doc world => doc = world.payments id ∧
        Reads property doc) (fun (_ : Except Thrown Unit) _ => False)) := by
    apply (exclusive.faultless rfl).moves_storage
    intro before readable _ _
    exact ⟨exclusive.keeps _ _, rfl, readable⟩
  refine Async.safe_bind (safe_continue (safe_command loads
    (stable_document exclusive) known) ?_
    (fun _ _ impossible => impossible.elim))
  rintro doc current ⟨stored, record, rfl, holds⟩
  exact Async.safe_pure (continues record current holds
    ⟨record, stored.symm, holds⟩)

end Exits

end PaymentQueue
