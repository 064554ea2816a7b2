import PaymentQueue.Runtime.Rules

/-!
# Proof outline of the saga

`SagaOutline` lists what has to be shown about the single commands of
`PaymentSagaService.execute`, for facts `know` chosen by the caller at each
stage; `SagaOutline.safe` walks through the code once.  `faults` says whether
storage commands other than the ledger append may throw.
-/

namespace PaymentQueue

open Await PaymentSagaService

/-- Where a worker execution stands between two awaits. -/
inductive Stage where
  | idle
  /-- The payment record was read. -/
  | seen
  /-- The payment was found not to be final. -/
  | checked
  /-- The execution lock was taken. -/
  | locked
  /-- `PROCESSING` was written under the lock. -/
  | entered
  /-- The processing record was saved. -/
  | working
  /-- The charge was refused or failed. -/
  | declined
  | charged (transactionId : String)
  /-- The ledger append threw. -/
  | unsettled (transactionId : String)
  | refunded (transactionId : String) (succeeded : Bool)
  | settled (transactionId : String)
  /-- The save of the completed record threw. -/
  | unrecorded (transactionId : String)
  | recorded (transactionId : String)
  /-- The finalization to `COMPLETED` threw. -/
  | unsure (transactionId : String)
  | completed (transactionId : String)
  /-- The stored record is already terminal. -/
  | terminal
  /-- The dead-lettered record was saved. -/
  | buried (reason : String)
  | failed (reason : String)
  | routed (reason : String)
  /-- A write of the terminal handling threw. -/
  | aborted
  deriving DecidableEq, Repr

namespace Stage

/-- The stages of `PaymentSagaService.execute`. -/
def inSaga : Stage → Bool
  | working => true
  | declined => true
  | charged _ => true
  | unsettled _ => true
  | refunded _ _ => true
  | settled _ => true
  | _ => false

/-- The stages at which the execution has the lock. -/
def holdsLock : Stage → Bool
  | idle => false
  | seen => false
  | checked => false
  | _ => true

/-- The stages after the saga at which an attempt can end, with a completed
record. -/
def closing : Stage → Option String
  | unrecorded transactionId => some transactionId
  | unsure transactionId => some transactionId
  | completed transactionId => some transactionId
  | _ => none

end Stage

/-- What is known of the record that an execution mutates. -/
structure Carries (id : PaymentId) (status : PaymentStatus)
    (transaction : Option String) (record : PaymentRecord) : Prop where
  id : record.id = id
  status : record.status = status
  transaction : ∀ transactionId, transaction = some transactionId →
    record.transactionId = some transactionId

/-- The record of an execution fits the stage. -/
def Stage.Fits (id : PaymentId) (stage : Stage) (record : PaymentRecord) :
    Prop :=
  (stage.inSaga = true ∧ Carries id .processing none record) ∨
    ∃ transactionId, stage.closing = some transactionId ∧
      Carries id .completed (some transactionId) record

/-- Saves of a record that fits the stage, audit entries and events. -/
def bookkeeping (id : PaymentId) (stage : Stage) : Command → Prop
  | .storage (.hsetPayment key record) => key = id ∧ stage.Fits id record
  | .storage (.rpushAudit key _) => key = id
  | .emit _ => True
  | _ => False

/-- The append to the settlement ledger. -/
def Command.settles : Command → Bool
  | .storage (.rpushSettlement _) => true
  | _ => false

variable {config : AppConfig} {contract : Contract (machine config)}
  {pid : Nat} {world : World} {id : PaymentId} {faults : Prop}
  {know : Stage → World → Prop} {transaction : Option String}
  {vars : PaymentRecord} {status : PaymentStatus}

structure SagaOutline (contract : Contract (machine config)) (pid : Nat)
    (id : PaymentId) (faults : Prop) (know : Stage → World → Prop) :
    Prop where
  stable : ∀ stage, Stable contract (know stage)
  faulty : ∀ command before error after, command.settles = false →
    Executes contract pid command before (.error error) after → faults
  book : ∀ stage command, stage.inSaga = true ∨ stage.closing.isSome = true →
    bookkeeping id stage command →
    Moves contract pid command (know stage) (fun _ => know stage)
  charge : ∀ payment correlationId, payment.id = id →
    Moves contract pid (.guardCall payment correlationId) (know .working)
      (fun outcome =>
        match outcome with
        | .ok (.ok transactionId _) => know (.charged transactionId)
        | .ok (.fail _) => know .declined
        | .error _ => fun _ => False)
  append : ∀ entry, entry.paymentId = id →
    Moves contract pid (.storage (.rpushSettlement entry))
      (know (.charged entry.transactionId))
      (fun outcome =>
        match outcome with
        | .ok _ => know (.settled entry.transactionId)
        | .error _ => know (.unsettled entry.transactionId))
  refund : ∀ gatewayId transactionId,
    Moves contract pid (.guardRefund gatewayId transactionId)
      (know (.unsettled transactionId))
      (fun outcome =>
        match outcome with
        | .ok (.ok _ _) => know (.refunded transactionId true)
        | .ok (.fail _) => know (.refunded transactionId false)
        | .error _ => fun _ => False)

/-- Bookkeeping neither leaves the stage nor loses the record, and throws
only where faults are considered. -/
def Stays {α : Type} (faults : Prop) (carries : PaymentRecord → Prop)
    (know : World → Prop) :
    Except Thrown α → PaymentRecord → World → Prop
  | .ok _, left, world => carries left ∧ know world
  | .error error, left, world =>
      (faults ∧ ∃ message, error = .error message) ∧ carries left ∧ know world

/-- One statement that stays, followed by the rest of the body. -/
theorem safe_stays {α β : Type} {action : OnRecord α}
    {rest : α → OnRecord β} {carries : PaymentRecord → Prop}
    {know : World → Prop}
    {post : Except Thrown β → PaymentRecord → World → Prop}
    (first : Async.Safe contract pid (Stays faults carries know) action
      vars world)
    (continues : ∀ value left current, carries left → know current →
      Async.Safe contract pid post (rest value) left current)
    (fails : ∀ message left current, faults → carries left → know current →
      post (.error (.error message)) left current) :
    Async.Safe contract pid post (action >>= rest) vars world := by
  refine Async.safe_bind (first.mono ?_)
  intro outcome left current reached
  cases outcome with
  | ok value => exact continues value left current reached.1 reached.2
  | error error =>
      obtain ⟨⟨faulty, message, rfl⟩, carried, known⟩ := reached
      exact fails message left current faulty carried known

/-- `this.history(...)` only changes the history of the record. -/
theorem safe_history {phase : SagaPhase} {event detail : String}
    {post : Except Thrown Unit → PaymentRecord → World → Prop}
    (held : ∀ entries, post (.ok ()) { vars with history := entries }
      world) :
    Async.Safe contract pid post (history phase event detail) vars
      world :=
  Async.safe_bind (Async.safe_dateNow fun _ => Async.safe_modify (held _))

theorem Carries.withHistory (carried : Carries id status transaction vars)
    (entries : List SagaHistoryEntry) :
    Carries id status transaction { vars with history := entries } :=
  ⟨carried.id, carried.status, carried.transaction⟩

theorem Carries.withSagaState
    (carried : Carries id status transaction vars) (state : SagaState) :
    Carries id status transaction { vars with sagaState := state } :=
  ⟨carried.id, carried.status, carried.transaction⟩

theorem Carries.forget (carried : Carries id status transaction vars) :
    Carries id status none vars :=
  ⟨carried.id, carried.status, fun _ impossible => by cases impossible⟩

theorem Stage.Fits.active {stage : Stage} (fits : stage.Fits id vars) :
    stage.inSaga = true ∨ stage.closing.isSome = true := by
  rcases fits with ⟨inSaga, -⟩ | ⟨transactionId, closing, -⟩
  · exact .inl inSaga
  · exact .inr (by simp [closing])

theorem Stage.Fits.id_eq {stage : Stage} (fits : stage.Fits id vars) :
    vars.id = id := by
  rcases fits with ⟨-, carried⟩ | ⟨_, -, carried⟩
  · exact carried.id
  · exact carried.id

theorem Stage.Fits.withHistory {stage : Stage}
    (fits : stage.Fits id vars) (entries : List SagaHistoryEntry) :
    stage.Fits id { vars with history := entries } := by
  rcases fits with ⟨inSaga, carried⟩ | ⟨transactionId, closing, carried⟩
  · exact .inl ⟨inSaga, carried.withHistory entries⟩
  · exact .inr ⟨transactionId, closing, carried.withHistory entries⟩

/-- Bookkeeping saves a fitting record or is not visible. -/
theorem bookkeeping_cases {stage : Stage} {command : Command}
    (allowed : bookkeeping id stage command) :
    (∃ record, command = .storage (.hsetPayment id record) ∧
      stage.Fits id record) ∨ command.invisible = true := by
  cases command with
  | storage command =>
      cases command with
      | hsetPayment key record =>
          obtain ⟨rfl, fits⟩ := allowed
          exact .inl ⟨record, rfl, fits⟩
      | rpushAudit key event => exact .inr rfl
      | _ => exact allowed.elim
  | emit event => exact .inr rfl
  | guardCall payment correlationId => exact allowed.elim
  | guardRefund gatewayId transactionId => exact allowed.elim

/-- The stages with bookkeeping are under the lock. -/
theorem Stage.holdsLock_of_active {stage : Stage}
    (active : stage.inSaga = true ∨ stage.closing.isSome = true) :
    stage.holdsLock = true := by
  cases stage <;> first | rfl | simp [Stage.inSaga, Stage.closing] at active

namespace SagaOutline

section Bookkeeping

variable {stage : Stage}

/-- A command other than the ledger append throws only where faults are
considered, and then a plain error. -/
theorem moves_faulty (outline : SagaOutline contract pid id faults know)
    {command : Command} (other : command.settles = false)
    {fact : World → Prop}
    {result : Except Thrown command.Result → World → Prop}
    (moves : Moves contract pid command fact result) :
    Moves contract pid command fact
      (fun outcome world => (∀ error, outcome = .error error →
        faults ∧ ∃ message, error = .error message) ∧
        result outcome world) := by
  intro before outcome after known execution
  obtain ⟨keeps, reached⟩ := moves before outcome after known execution
  refine ⟨keeps, ?_, reached⟩
  rintro error rfl
  exact ⟨outline.faulty command before error after other execution,
    executes_error execution⟩

private theorem settles_of_bookkeeping {command : Command}
    (allowed : bookkeeping id stage command) : command.settles = false := by
  cases command with
  | storage command => cases command <;> first | rfl | exact allowed.elim
  | guardCall _ _ | guardRefund _ _ | emit _ => rfl

theorem safe_book (outline : SagaOutline contract pid id faults know)
    (active : stage.inSaga = true ∨ stage.closing.isSome = true)
    {command : Command} {carries : PaymentRecord → Prop}
    (allowed : bookkeeping id stage command)
    (carried : carries vars) (known : know stage world) :
    Async.Safe contract pid (Stays faults carries (know stage))
      (awaitCommand command) vars world := by
  refine (safe_command (outline.moves_faulty (settles_of_bookkeeping allowed)
    (outline.book stage command active allowed))
    (outline.stable stage) known).mono ?_
  intro outcome left current reached
  obtain ⟨rfl, thrown, still⟩ := reached
  cases outcome with
  | ok value => exact ⟨carried, still⟩
  | error error => exact ⟨thrown error rfl, carried, still⟩

section Records

variable {carries : PaymentRecord → Prop}
  (outline : SagaOutline contract pid id faults know)
  (fits : stage.Fits id vars) (known : know stage world)
  (carried : carries vars)

include outline fits known carried

theorem safe_saveRecord :
    Async.Safe contract pid (Stays faults carries (know stage))
      saveRecord vars world := by
  refine Async.safe_bind (Async.safe_get ?_)
  have sameKey : vars.id = id := fits.id_eq
  exact outline.safe_book fits.active ⟨sameKey, fits⟩ carried known

theorem safe_auditRecord (type : AuditEventType) (detail : Detail) :
    Async.Safe contract pid (Stays faults carries (know stage))
      (auditRecord type detail) vars world := by
  refine Async.safe_bind (Async.safe_get ?_)
  refine Async.safe_bind (Async.safe_dateNow fun now => ?_)
  exact outline.safe_book fits.active fits.id_eq carried known

theorem safe_emit (event : Time → AppEvent) :
    Async.Safe contract pid (Stays faults carries (know stage))
      (EventBus.emit event) vars world := by
  refine Async.safe_bind (Async.safe_dateNow fun now => ?_)
  exact outline.safe_book fits.active trivial carried known

theorem safe_emitPhase (phase : SagaPhase) (ok : Bool) :
    Async.Safe contract pid (Stays faults carries (know stage))
      (emitPhase phase ok) vars world :=
  Async.safe_bind (Async.safe_get
    (outline.safe_emit fits known carried _))

end Records

theorem fits_of_carries (inSaga : stage.inSaga = true)
    (carried : Carries id .processing transaction vars) :
    stage.Fits id vars :=
  .inl ⟨inSaga, carried.forget⟩

variable (outline : SagaOutline contract pid id faults know)
  (inSaga : stage.inSaga = true) (known : know stage world)
  (carried : Carries id .processing transaction vars)

include outline inSaga known carried

private theorem safe_releaseFunds (reservationId : String) :
    Async.Safe contract pid
      (Stays faults (Carries id .processing transaction) (know stage))
      (releaseFunds reservationId) vars world := by
  refine Async.safe_bind (safe_history fun entries => ?_)
  have noted := carried.withHistory entries
  exact outline.safe_auditRecord (fits_of_carries inSaga noted) known noted
    _ _

private theorem safe_reserve :
    Async.Safe contract pid
      (Stays faults (Carries id .processing transaction) (know stage))
      reserve vars world := by
  refine Async.safe_bind (Async.safe_get (Async.safe_bind
    (Async.safe_dateNow fun now => ?_)))
  refine Async.safe_bind (safe_history fun entries => ?_)
  refine Async.safe_bind (Async.safe_modify ?_)
  have noted := (carried.withHistory entries).withSagaState .reserved
  refine safe_stays (outline.safe_saveRecord (fits_of_carries inSaga noted)
    known noted) ?_
    (fun message _ _ faulty carried known =>
      ⟨⟨faulty, message, rfl⟩, carried, known⟩)
  intro _ left saved carried known
  refine safe_stays (outline.safe_auditRecord (fits_of_carries inSaga carried) known
    carried _ _) ?_
    (fun message _ _ faulty carried known =>
      ⟨⟨faulty, message, rfl⟩, carried, known⟩)
  intro _ left audited carried known
  refine safe_stays (outline.safe_emitPhase (fits_of_carries inSaga carried) known
    carried _ _) ?_
    (fun message _ _ faulty carried known =>
      ⟨⟨faulty, message, rfl⟩, carried, known⟩)
  intro _ left emitted carried known
  exact Async.safe_pure ⟨carried, known⟩

end Bookkeeping

/-- The error that the saga throws by design at a stage. -/
def Compensated (stage : Stage) (failure : PaymentProcessingError) : Prop :=
  stage = .declined ∨
    (failure.code = .settleFailed ∧
      ∃ transactionId succeeded, stage = .refunded transactionId succeeded)

/-- The saga threw: by design, or at a storage command. -/
def Fails (id : PaymentId) (faults : Prop) (know : Stage → World → Prop)
    (error : Thrown) (left : PaymentRecord) (world : World) : Prop :=
  Carries id .processing none left ∧
    ∃ stage, stage.inSaga = true ∧ know stage world ∧
      ((faults ∧ ∃ message, error = .error message) ∨
        ∃ failure, error = .processing failure ∧ Compensated stage failure)

/-- A part of the saga that reaches `ends`, or throws. -/
def Reaches {α : Type} (id : PaymentId) (faults : Prop)
    (know : Stage → World → Prop)
    (ends : α → PaymentRecord → World → Prop) :
    Except Thrown α → PaymentRecord → World → Prop
  | .ok value, left, world => ends value left world
  | .error error, left, world => Fails id faults know error left world

/-- An error of the bookkeeping ends the saga where it stands. -/
theorem fails_of_fault {stage : Stage} (inSaga : stage.inSaga = true)
    (message : String) (left : PaymentRecord) (current : World)
    (faulty : faults) (carried : Carries id .processing transaction left)
    (known : know stage current) :
    Fails id faults know (.error message) left current :=
  ⟨carried.forget, stage, inSaga, known, .inl ⟨faulty, message, rfl⟩⟩

variable (outline : SagaOutline contract pid id faults know)

include outline

private theorem safe_chargeFailed
    {ends : SagaOutcome → PaymentRecord → World → Prop}
    (known : know .declined world)
    (carried : Carries id .processing none vars)
    (reservationId : String) (error : PaymentProcessingError) :
    Async.Safe contract pid (Reaches id faults know ends)
      (chargeFailed reservationId error) vars world := by
  refine Async.safe_bind (safe_history fun entries => ?_)
  refine safe_stays (outline.safe_releaseFunds rfl known
    (carried.withHistory entries) _) ?_ (fails_of_fault rfl)
  intro _ left released carried known
  refine safe_stays (outline.safe_saveRecord (fits_of_carries rfl carried) known
    carried) ?_
    (fails_of_fault rfl)
  intro _ left saved carried known
  refine safe_stays (outline.safe_emitPhase (fits_of_carries rfl carried) known
    carried _ _) ?_
    (fails_of_fault rfl)
  intro _ left emitted carried known
  exact Async.safe_throw ⟨carried, .declined, rfl, known,
    .inr ⟨error, rfl, .inl rfl⟩⟩

private theorem safe_charged {reservationId transactionId : String}
    {httpStatus : Nat}
    (known : know (.charged transactionId) world)
    (carried : Carries id .processing none vars) :
    Async.Safe contract pid
      (Stays faults (Carries id .processing (some transactionId))
        (know (.charged transactionId)))
      (charged reservationId transactionId httpStatus) vars world := by
  refine Async.safe_bind (Async.safe_modify ?_)
  refine Async.safe_bind (safe_history fun entries => ?_)
  have noted : Carries id .processing (some transactionId)
      { vars with
        transactionId := some transactionId
        reservationId := some reservationId
        sagaState := .charged
        history := entries } :=
    ⟨carried.id, carried.status, fun _ same => same⟩
  refine safe_stays (outline.safe_saveRecord (fits_of_carries rfl noted)
    known noted) ?_
    (fun message _ _ faulty carried known =>
      ⟨⟨faulty, message, rfl⟩, carried, known⟩)
  intro _ left saved carried known
  refine safe_stays (outline.safe_auditRecord (fits_of_carries rfl carried) known
    carried _ _) ?_
    (fun message _ _ faulty carried known =>
      ⟨⟨faulty, message, rfl⟩, carried, known⟩)
  intro _ left audited carried known
  exact outline.safe_emitPhase (fits_of_carries rfl carried) known
    carried _ _

private theorem safe_refundCharge {transactionId : String}
    (known : know (.unsettled transactionId) world)
    (carried : Carries id .processing transaction vars) :
    Async.Safe contract pid
      (Stays faults (Carries id .processing transaction) (fun world =>
        ∃ succeeded, know (.refunded transactionId succeeded) world))
      (refundCharge transactionId) vars world := by
  have weaken : ∀ {α : Type} {succeeded : Bool} (outcome : Except Thrown α)
      (left : PaymentRecord) (final : World),
      Stays faults (Carries id .processing transaction)
        (know (.refunded transactionId succeeded)) outcome left final →
      Stays faults (Carries id .processing transaction) (fun world =>
        ∃ succeeded, know (.refunded transactionId succeeded) world)
        outcome left final := by
    intro α succeeded outcome left final stays
    cases outcome with
    | ok value => exact ⟨stays.1, succeeded, stays.2⟩
    | error error => exact ⟨stays.1, stays.2.1, succeeded, stays.2.2⟩
  refine Async.safe_bind (Async.safe_get ?_)
  refine Async.safe_bind ((safe_command
    (outline.refund vars.gatewayId transactionId)
    (outline.stable _) known).mono ?_)
  intro outcome left current reached
  obtain ⟨rfl, reached⟩ := reached
  match outcome with
  | .error error => exact reached.elim
  | .ok (.fail error) =>
      refine Async.safe_bind (safe_history fun entries => ?_)
      have noted := carried.withHistory entries
      refine safe_stays (outline.safe_auditRecord (fits_of_carries rfl noted)
        reached noted _ _) ?_ ?_
      · intro _ left audited carried known
        exact (outline.safe_emit (fits_of_carries rfl carried) known
          carried _).mono weaken
      · intro message left audited faulty carried known
        exact ⟨⟨faulty, message, rfl⟩, carried, false, known⟩
  | .ok (.ok refundId httpStatus) =>
      refine Async.safe_bind (Async.safe_modify ?_)
      refine Async.safe_bind (safe_history fun entries => ?_)
      have noted : Carries id .processing transaction
          { left with refundId := some refundId, history := entries } :=
        ⟨carried.id, carried.status, carried.transaction⟩
      exact (outline.safe_auditRecord (fits_of_carries rfl noted) reached
        noted _ _).mono weaken

private theorem safe_compensateSettle {reservationId transactionId : String}
    {ends : Unit → PaymentRecord → World → Prop}
    (known : know (.unsettled transactionId) world)
    (carried : Carries id .processing transaction vars)
    (error : Thrown) :
    Async.Safe contract pid (Reaches id faults know ends)
      (compensateSettle reservationId transactionId error) vars
      world := by
  refine Async.safe_bind (safe_history fun entries => ?_)
  refine safe_stays (outline.safe_refundCharge known
    (carried.withHistory entries)) ?_ ?_
  · intro _ left refunded carried known
    obtain ⟨succeeded, known⟩ := known
    refine safe_stays (outline.safe_releaseFunds rfl known carried _) ?_
      (fails_of_fault rfl)
    intro _ left released carried known
    refine Async.safe_bind (Async.safe_modify ?_)
    have noted := carried.withSagaState .compensated
    refine safe_stays (outline.safe_saveRecord (fits_of_carries rfl noted)
      known noted) ?_ (fails_of_fault rfl)
    intro _ left saved carried known
    refine safe_stays (outline.safe_emitPhase (fits_of_carries rfl carried) known
    carried _ _) ?_
      (fails_of_fault rfl)
    intro _ left emitted carried known
    refine Async.safe_bind (Async.safe_get (Async.safe_throw ?_))
    exact ⟨carried.forget, .refunded transactionId succeeded, rfl, known,
      .inr ⟨_, rfl, .inr ⟨rfl, transactionId, succeeded, rfl⟩⟩⟩
  · rintro message left current faulty carried ⟨succeeded, known⟩
    have inSaga : (Stage.refunded transactionId succeeded).inSaga = true := rfl
    exact fails_of_fault inSaga message left current faulty carried known

private theorem safe_settle {reservationId transactionId : String}
    (known : know (.charged transactionId) world)
    (carried : Carries id .processing (some transactionId) vars) :
    Async.Safe contract pid
      (Reaches id faults know (fun _ left current =>
        Carries id .processing (some transactionId) left ∧
          know (.settled transactionId) current))
      (settle reservationId transactionId) vars world := by
  refine Async.safe_tryCatch (Async.safe_bind (Async.safe_get ?_))
  refine Async.safe_bind (Async.safe_bind (Async.safe_dateNow fun now => ?_))
  refine Async.safe_bind ((safe_command (outline.append
    ⟨vars.id, transactionId, vars.amount, vars.currency,
      vars.customerId, vars.gatewayId, now⟩ carried.id)
    (outline.stable _) known).mono ?_)
  intro outcome left current reached
  obtain ⟨rfl, reached⟩ := reached
  cases outcome with
  | ok _ => exact Async.safe_pure (Async.safe_pure ⟨carried, reached⟩)
  | error error => exact outline.safe_compensateSettle reached carried error

private theorem safe_settled {transactionId : String}
    (known : know (.settled transactionId) world)
    (carried : Carries id .processing (some transactionId) vars) :
    Async.Safe contract pid
      (Stays faults (Carries id .processing (some transactionId))
        (know (.settled transactionId)))
      (settled transactionId) vars world := by
  refine Async.safe_bind (Async.safe_modify ?_)
  refine Async.safe_bind (safe_history fun entries => ?_)
  have noted := (carried.withSagaState .settled).withHistory entries
  refine safe_stays (outline.safe_auditRecord (fits_of_carries rfl noted)
    known noted _ _) ?_
    (fun message _ _ faulty carried known =>
      ⟨⟨faulty, message, rfl⟩, carried, known⟩)
  intro _ left audited carried known
  exact outline.safe_emitPhase (fits_of_carries rfl carried) known
    carried _ _

/-- Every way through the saga. -/
theorem safe (known : know .working world)
    (carried : Carries id .processing none vars) :
    Async.Safe contract pid
      (Reaches id faults know (fun outcome left current =>
        Carries id .processing (some outcome.transactionId) left ∧
          know (.settled outcome.transactionId) current))
      execute vars world := by
  refine safe_stays (outline.safe_reserve rfl known carried) ?_
    (fails_of_fault rfl)
  intro reservationId left reserved carried known
  refine Async.safe_bind (Async.safe_bind (Async.safe_get ?_))
  refine (safe_command (outline.charge left left.correlationId carried.id)
    (outline.stable _) known).mono ?_
  intro outcome vars current reached
  obtain ⟨rfl, reached⟩ := reached
  match outcome with
  | .error error => exact reached.elim
  | .ok (.fail error) =>
      exact outline.safe_chargeFailed reached carried reservationId error
  | .ok (.ok transactionId httpStatus) =>
      refine safe_stays (outline.safe_charged reached carried) ?_
        (fails_of_fault rfl)
      intro _ left noted carried known
      refine Async.safe_bind ((outline.safe_settle known carried).mono ?_)
      intro outcome left current reached
      cases outcome with
      | error error => exact reached
      | ok _ =>
          refine safe_stays (outline.safe_settled reached.2 reached.1) ?_
            (fails_of_fault rfl)
          intro _ left final carried known
          exact Async.safe_pure ⟨carried, known⟩

end SagaOutline

end PaymentQueue
