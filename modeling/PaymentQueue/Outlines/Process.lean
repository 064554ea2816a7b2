import PaymentQueue.Outlines.Saga

/-!
# Proof outlines of a worker execution and of the failure handler

`BurialOutline` covers `finalizeDeadLetter`, which the processor and the
failure handler share; `ProcessOutline` extends the outline of the saga to
`PaymentProcessor.processJob`.
-/

namespace PaymentQueue

open Await PaymentSagaService PaymentProcessor

variable {config : AppConfig} {contract : Contract (machine config)}
  {pid : Nat} {locals : Type} {world : World} {id : PaymentId}
  {faults : Prop} {know : Stage → World → Prop} {start : Stage}

/-- Either the value continues with a fact, or the terminal handling is
aborted. -/
def OrAborts {α : Type} (know : Stage → World → Prop)
    (next : α → World → Prop) : Except Thrown α → World → Prop
  | .ok value, world => next value world
  | .error _, world => know .aborted world

/-- The stage after `finalizeDeadLetter` has looked up the record. -/
def Latest (id : PaymentId) (know : Stage → World → Prop) (start : Stage)
    (found : Option PaymentRecord) (world : World) : Prop :=
  match found with
  | none => know start world
  | some latest =>
      if latest.status.terminal = true then know .terminal world
      else latest.id = id ∧ know start world

theorem latest_of_found {found : Option PaymentRecord}
    (keyed : ∀ latest, found = some latest → latest.id = id)
    (known : know start world)
    (terminal : (found.any fun latest => latest.status.terminal) = true →
      know .terminal world) :
    Latest id know start found world := by
  cases found with
  | none => exact known
  | some latest =>
      rw [Latest]
      split
      case isTrue ended => exact terminal ended
      case isFalse => exact ⟨keyed latest rfl, known⟩

structure BurialOutline (contract : Contract (machine config)) (pid : Nat)
    (id : PaymentId) (know : Stage → World → Prop) (start : Stage) :
    Prop where
  stable : ∀ stage, Stable contract (know stage)
  lookup : Moves contract pid (.storage (.hgetPayment id)) (know start)
    (OrAborts know (fun doc => Latest id know start (doc.bind Stored.parse?)))
  bury : ∀ record reason, record.id = id → record.status = .deadLetter →
    record.failureReason = some reason →
    Moves contract pid (.storage (.hsetPayment id record)) (know start)
      (OrAborts know (fun _ => know (.buried reason)))
  readBuried : ∀ reason, Moves contract pid (.storage (.getIdempotency id))
    (know (.buried reason)) (OrAborts know (fun _ => know (.buried reason)))
  fail : ∀ reason previous now, Moves contract pid
    (.storage (.setIdempotency id
      (IdempotencyService.finalRecord id .failed .deadLetter none
        (some reason) previous now) config.retentionSeconds))
    (know (.buried reason)) (OrAborts know (fun _ => know (.failed reason)))
  audit : ∀ reason event, Moves contract pid (.storage (.rpushAudit id event))
    (know (.failed reason)) (OrAborts know (fun _ => know (.failed reason)))
  emit : ∀ reason event, Moves contract pid (.emit event)
    (know (.failed reason)) (OrAborts know (fun _ => know (.failed reason)))
  ready : ∀ reason, Moves contract pid
    (.storage (.queueReady QueueManager.dlqQueueName))
    (know (.failed reason)) (OrAborts know (fun _ => know (.failed reason)))
  route : ∀ entry, entry.paymentId = id →
    Moves contract pid
      (.storage (.queueAdd QueueManager.dlqQueueName id (.deadLetter entry)
        { priority := 0, delay := 0, attempts := 1 }))
      (know (.failed entry.reason))
      (OrAborts know (fun _ => know (.routed entry.reason)))

/-- How the terminal handling ends. -/
def Buries (id : PaymentId) (know : Stage → World → Prop) (reason : String) :
    Except Thrown ProcessResult → World → Prop
  | .ok result, world =>
      (result = .deadLetter id reason ∧ know (.routed reason) world) ∨
        ((∃ why, result = .skipped id why) ∧ know .terminal world)
  | .error error, world =>
      (∃ message, error = .error message) ∧ know .aborted world

/-- A command of the terminal handling threw. -/
def Aborts (know : Stage → World → Prop) (outcome : Except Thrown Unit)
    (world : World) : Prop :=
  (∃ message, outcome = .error (.error message)) ∧ know .aborted world

theorem moves_orAborts {command : Command} {fact : World → Prop}
    {next : command.Result → World → Prop}
    (moves : Moves contract pid command fact (OrAborts know next)) :
    Moves contract pid command fact (Continues next (Aborts know)) := by
  intro before outcome after known execution
  obtain ⟨keeps, reached⟩ := moves before outcome after known execution
  refine ⟨keeps, ?_⟩
  cases outcome with
  | ok value => exact reached
  | error error =>
      obtain ⟨message, rfl⟩ := executes_error execution
      exact ⟨⟨message, rfl⟩, reached⟩

theorem buries_of_aborts {locals : Type} {vars : locals}
    {reason : String} (error : Thrown) (current : World)
    (aborts : Aborts know (.error error) current) :
    vars = vars ∧ Buries id know reason (.error error) current := by
  obtain ⟨⟨message, same⟩, aborted⟩ := aborts
  exact ⟨rfl, ⟨message, Except.error.inj same⟩, aborted⟩

namespace BurialOutline

variable (outline : BurialOutline contract pid id know start)

include outline

/-- `finalize` to `FAILED`, after the dead-lettered record was saved. -/
theorem safe_finalize {vars : locals} (reason : String)
    (known : know (.buried reason) world) :
    Async.Safe contract pid (fun outcome left current => left = vars ∧
      Continues (fun _ => know (.failed reason)) (Aborts know) outcome current)
      (IdempotencyService.finalize config id .failed .deadLetter none
        (some reason)) vars world := by
  refine safe_continue (safe_idempotencyRead
    (moves_orAborts (outline.readBuried reason)) (outline.stable _) known) ?_
    (fun _ _ aborts => ⟨rfl, aborts⟩)
  intro previous read known
  refine Async.safe_bind (Async.safe_dateNow fun now => ?_)
  exact safe_command (moves_orAborts (outline.fail reason previous now))
    (outline.stable _) known

private theorem safe_routeToDlq {vars : locals} {entry : DlqEntry}
    (same : entry.paymentId = id) (known : know (.failed entry.reason) world) :
    Async.Safe contract pid (fun outcome left current => left = vars ∧
      Continues (fun _ => know (.routed entry.reason)) (Aborts know) outcome
        current)
      (QueueManager.routeToDlq entry) vars world := by
  refine safe_continue (safe_command
    (moves_orAborts (outline.ready entry.reason)) (outline.stable _) known) ?_
    (fun _ _ aborts => ⟨rfl, aborts⟩)
  intro _ ready known
  subst same
  exact safe_command (moves_orAborts (outline.route entry rfl))
    (outline.stable _) known

private theorem safe_deadLetter {vars : locals} {latest : PaymentRecord}
    (same : latest.id = id) (reason : String)
    (correlationId : Option String) (known : know start world) :
    Async.Safe contract pid (fun outcome left current =>
      left = vars ∧ Buries id know reason outcome current)
      (deadLetter config latest id reason correlationId) vars
      world := by
  subst same
  have audit := fun event => moves_orAborts (outline.audit reason event)
  have emit := fun event => moves_orAborts (outline.emit reason event)
  refine Async.safe_bind (Async.safe_dateNow fun now => ?_)
  refine safe_continue (safe_command (moves_orAborts
    (outline.bury (transitionToDeadLetter latest reason now) reason rfl rfl
      rfl)) (outline.stable _) known) ?_ buries_of_aborts
  intro _ saved known
  refine safe_continue (outline.safe_finalize reason known) ?_
    buries_of_aborts
  intro _ finalized known
  refine safe_continue (safe_audit audit (outline.stable _) known) ?_
    buries_of_aborts
  intro _ audited known
  refine safe_continue (safe_emit emit (outline.stable _) known) ?_
    buries_of_aborts
  intro _ emitted known
  refine safe_continue (safe_emit emit (outline.stable _) known) ?_
    buries_of_aborts
  intro _ emittedAgain known
  refine Async.safe_bind (Async.safe_dateNow fun deadLetteredAt => ?_)
  refine safe_continue (outline.safe_routeToDlq rfl known) ?_
    buries_of_aborts
  intro _ routed known
  exact Async.safe_pure ⟨rfl, .inl ⟨rfl, known⟩⟩

/-- Every way through `finalizeDeadLetter`. -/
theorem safe {vars : locals} {record : PaymentRecord}
    (same : record.id = id) (unfinished : record.status.terminal = false)
    (reason : String) (correlationId : Option String)
    (known : know start world) :
    Async.Safe contract pid (fun outcome left current =>
      left = vars ∧ Buries id know reason outcome current)
      (finalizeDeadLetter config record reason correlationId) vars
      world := by
  subst same
  refine safe_continue (safe_storeGet (moves_orAborts outline.lookup)
    (outline.stable _) known) ?_ buries_of_aborts
  intro found current latest
  cases found with
  | none =>
      simp only [Option.getD_none, unfinished, Bool.false_eq_true, if_false]
      exact outline.safe_deadLetter rfl reason correlationId latest
  | some stored =>
      cases terminal : stored.status.terminal with
      | true =>
          simp only [Option.getD_some, terminal, if_true]
          simp only [Latest, terminal, if_true] at latest
          exact Async.safe_pure ⟨rfl, .inr ⟨⟨_, rfl⟩, latest⟩⟩
      | false =>
          simp only [Option.getD_some, terminal, Bool.false_eq_true, if_false]
          simp only [Latest, terminal, Bool.false_eq_true, if_false]
            at latest
          exact outline.safe_deadLetter latest.1 reason correlationId latest.2

end BurialOutline

/-- The worker has read the payment record. -/
def Loads (id : PaymentId) (know : Stage → World → Prop)
    (ends : Except Thrown ProcessResult → World → Prop)
    (found : Option PaymentRecord) (world : World) : Prop :=
  match found with
  | none => ∀ message, ends (.error (.error message)) world
  | some record => record.id = id ∧ know .seen world

/-- The worker has read the idempotency record. -/
def Checks (id : PaymentId) (know : Stage → World → Prop)
    (ends : Except Thrown ProcessResult → World → Prop)
    (existing : Option IdempotencyRecord) (world : World) : Prop :=
  if readsFinal existing = true then
    ∀ reason, ends (.ok (.skipped id reason)) world
  else know .checked world

/-- The worker has tried to take the execution lock. -/
def Locks (id : PaymentId) (know : Stage → World → Prop)
    (ends : Except Thrown ProcessResult → World → Prop) (acquired : Bool)
    (world : World) : Prop :=
  if acquired = true then know .locked world
  else ∀ reason, ends (.ok (.skipped id reason)) world

/-- The result of an attempt agrees with the stage at which it ends. -/
def Explains (faults : Prop) (id : PaymentId) (stage : Stage) :
    Except Thrown ProcessResult → Prop
  | .ok result =>
      (∃ transactionId, stage = .completed transactionId ∧
        result = .completed id (some transactionId)) ∨
      (∃ reason, stage = .routed reason ∧ result = .deadLetter id reason) ∨
      (stage = .terminal ∧ ∃ reason, result = .skipped id reason)
  | .error error =>
      stage = .aborted ∨
      (faults ∧ (stage.inSaga = true ∨ stage.closing.isSome = true)) ∨
      (stage = .declined ∧ ∃ failure, error = .processing failure ∧
        failure.retryable = true)

/-- Every attempt ends under the lock. -/
theorem explains_holdsLock {stage : Stage}
    {result : Except Thrown ProcessResult}
    (explained : Explains faults id stage result) :
    stage.holdsLock = true := by
  cases result with
  | ok result =>
      rcases explained with ⟨_, rfl, -⟩ | ⟨_, rfl, -⟩ | ⟨rfl, -⟩ <;> rfl
  | error error =>
      rcases explained with rfl | ⟨-, active⟩ | ⟨rfl, -⟩
      · rfl
      · exact Stage.holdsLock_of_active active
      · rfl

structure ProcessOutline (contract : Contract (machine config)) (pid : Nat)
    (id : PaymentId) (faults : Prop) (know : Stage → World → Prop)
    (ends : Except Thrown ProcessResult → World → Prop) : Prop extends
    SagaOutline contract pid id faults know where
  load : Moves contract pid (.storage (.hgetPayment id)) (know .idle)
    (Continues (fun doc => Loads id know ends (doc.bind Stored.parse?)) ends)
  check : Moves contract pid (.storage (.getIdempotency id)) (know .seen)
    (Continues (fun raw => Checks id know ends (raw.bind Stored.parse?)) ends)
  lock : Moves contract pid
    (.storage (.setNxLock id config.leaseTtlSeconds)) (know .checked)
    (Continues (Locks id know ends) ends)
  readLocked : Moves contract pid (.storage (.getIdempotency id))
    (know .locked) (Continues (fun _ => know .locked) ends)
  enter : ∀ claimedAt now, Moves contract pid
    (.storage (.setIdempotency id
      (IdempotencyService.processingRecord id claimedAt now)
      config.leaseTtlSeconds))
    (know .locked) (Continues (fun _ => know .entered) ends)
  begin : ∀ record, Carries id .processing none record →
    Moves contract pid (.storage (.hsetPayment record.id record))
      (know .entered) (OrAborts know (fun _ => know .working))
  record : ∀ record transactionId,
    Carries id .completed (some transactionId) record →
    Moves contract pid (.storage (.hsetPayment id record))
      (know (.settled transactionId))
      (fun outcome => know (if outcome.isOk = true then
        .recorded transactionId else .unrecorded transactionId))
  readRecorded : ∀ transactionId, Moves contract pid
    (.storage (.getIdempotency id)) (know (.recorded transactionId))
    (fun outcome => know (if outcome.isOk = true then
      .recorded transactionId else .unsure transactionId))
  complete : ∀ transactionId previous now, Moves contract pid
    (.storage (.setIdempotency id
      (IdempotencyService.finalRecord id .completed .completed
        (some transactionId) none previous now) config.retentionSeconds))
    (know (.recorded transactionId))
    (fun outcome => know (if outcome.isOk = true then
      .completed transactionId else .unsure transactionId))
  burial : ∀ stage failure, SagaOutline.Compensated stage failure →
    BurialOutline contract pid id know stage
  release : ∀ stage result, Explains faults id stage result →
    Moves contract pid (.storage (.delLock id)) (know stage)
      (Continues (fun _ => ends result) ends)

namespace ProcessOutline

variable {ends : Except Thrown ProcessResult → World → Prop}

/-- How the critical section ends, before the lock is released. -/
def Attempts (faults : Prop) (id : PaymentId) (know : Stage → World → Prop)
    (result : Except Thrown ProcessResult) (_ : PaymentRecord)
    (world : World) : Prop :=
  ∃ stage, know stage world ∧ Explains faults id stage result

/-- The `try` block ends with a completed payment, or with an error and a
record that fits the stage. -/
def Settles (faults : Prop) (id : PaymentId) (know : Stage → World → Prop) :
    Except Thrown ProcessResult → PaymentRecord → World → Prop
  | .ok result, left, world =>
      Attempts faults id know (.ok result) left world
  | .error error, left, world =>
      ∃ stage, stage.Fits id left ∧ know stage world ∧
        ((faults ∧ ∃ message, error = .error message) ∨
          ∃ failure, error = .processing failure ∧ stage.inSaga = true ∧
            SagaOutline.Compensated stage failure)

variable {vars : PaymentRecord} {job : JobHandle}

theorem settles_of_fault {stage : Stage} (message : String)
    (left : PaymentRecord) (current : World) (faulty : faults)
    (fits : stage.Fits id left) (known : know stage current) :
    Settles faults id know (.error (.error message)) left current :=
  ⟨stage, fits, known, .inl ⟨faulty, message, rfl⟩⟩

/-- A command on the completed record that throws at a stage which the
record fits. -/
def Closes (faults : Prop) (know : Stage → World → Prop)
    (transactionId : String) (next : World → Prop) :
    Except Thrown Unit → World → Prop
  | .ok _, world => next world
  | .error error, world =>
      (faults ∧ ∃ message, error = .error message) ∧
        ∃ stage : Stage, stage.closing = some transactionId ∧ know stage world

private theorem settles_of_closes {transactionId : String} {next : World → Prop}
    (error : Thrown) (current : World)
    (carried : Carries id .completed (some transactionId) vars)
    (closes : Closes faults know transactionId next (.error error) current) :
    Settles faults id know (.error error) vars current := by
  obtain ⟨thrown, stage, closing, known⟩ := closes
  exact ⟨stage, .inr ⟨transactionId, closing, carried⟩, known, .inl thrown⟩

/-- The record that the processor completes. -/
theorem carries_completed {outcome : SagaOutcome} (completedAt : Time)
    (carried : Carries id .processing (some outcome.transactionId) vars) :
    Carries id .completed (some outcome.transactionId)
      { transitionToCompleted vars (some outcome.transactionId)
          completedAt with
        sagaState := .settled
        reservationId := some outcome.reservationId
        failureReason := none } := by
  refine ⟨carried.id, rfl, ?_⟩
  intro transactionId same
  rw [← same]
  exact transitionToCompleted_transactionId vars completedAt
    (carried.transaction _ rfl)

variable (outline : ProcessOutline contract pid id faults know ends)

include outline

private theorem safe_jobCompleted {stage : Stage} (fits : stage.Fits id vars)
    (known : know stage world) (startedAt : Time) (ok : Bool) :
    Async.Safe contract pid (Stays faults (stage.Fits id) (know stage))
      (jobCompleted job startedAt ok) vars world :=
  Async.safe_bind (Async.safe_get
    (outline.toSagaOutline.safe_emit fits known fits _))

private theorem safe_saveCompleted {transactionId : String}
    (known : know (.settled transactionId) world)
    (carried : Carries id .completed (some transactionId) vars) :
    Async.Safe contract pid (fun outcome left current => left = vars ∧
      Closes faults know transactionId (know (.recorded transactionId))
        outcome current) saveRecord vars world := by
  have sameKey : vars.id = id := carried.id
  subst sameKey
  refine Async.safe_bind (Async.safe_get ?_)
  refine (safe_command (outline.moves_faulty rfl
    (outline.record vars transactionId carried)) (outline.stable _)
    known).mono ?_
  intro outcome left current reached
  obtain ⟨rfl, thrown, reached⟩ := reached
  cases outcome with
  | ok _ => exact ⟨rfl, reached⟩
  | error error =>
      exact ⟨rfl, thrown error rfl, .unrecorded transactionId, rfl, reached⟩

theorem safe_finalize {transactionId : String}
    (known : know (.recorded transactionId) world) :
    Async.Safe contract pid (fun outcome left current => left = vars ∧
      Closes faults know transactionId (know (.completed transactionId))
        outcome current)
      (IdempotencyService.finalize config id .completed .completed
        (some transactionId)) vars world := by
  refine Async.safe_bind (Async.safe_bind ((safe_command
    (outline.moves_faulty rfl (outline.readRecorded transactionId))
    (outline.stable _) known).mono ?_))
  intro outcome left current reached
  obtain ⟨rfl, thrown, known⟩ := reached
  cases outcome with
  | error error =>
      exact ⟨rfl, thrown error rfl, .unsure transactionId, rfl, known⟩
  | ok raw =>
      refine Async.safe_pure (Async.safe_bind
        (Async.safe_dateNow fun now => ?_))
      refine (safe_command (outline.moves_faulty rfl
        (outline.complete transactionId _ now)) (outline.stable _)
        known).mono ?_
      intro outcome left current reached
      obtain ⟨rfl, thrown, reached⟩ := reached
      cases outcome with
      | ok _ => exact ⟨rfl, reached⟩
      | error error =>
          exact ⟨rfl, thrown error rfl, .unsure transactionId, rfl, reached⟩

private theorem safe_announce {transactionId : String}
    (known : know (.completed transactionId) world)
    (carried : Carries id .completed (some transactionId) vars)
    (startedAt : Time) :
    Async.Safe contract pid (Settles faults id know)
      (do
        AuditLogService.record id .paymentCompleted
          [("transactionId", .text transactionId)]
        let record ← Async.get
        EventBus.emit fun now =>
          .payment .completed id record.gatewayId
            job.data.correlationId .completed now []
        jobCompleted job startedAt true
        return .completed id (some transactionId))
      vars world := by
  have fits : ∀ {record}, Carries id .completed (some transactionId) record →
      (Stage.completed transactionId).Fits id record :=
    fun carried => .inr ⟨transactionId, rfl, carried⟩
  refine safe_stays (Async.safe_bind (Async.safe_dateNow fun now =>
    outline.safe_book (fits carried).active rfl (fits carried) known)) ?_
    settles_of_fault
  intro _ left audited fits known
  refine Async.safe_bind (Async.safe_get ?_)
  refine safe_stays (outline.safe_emit fits known fits _) ?_ settles_of_fault
  intro _ left emitted fits known
  refine safe_stays (outline.safe_jobCompleted fits known _ _) ?_
    settles_of_fault
  intro _ left announced fits known
  exact Async.safe_pure ⟨.completed transactionId, known,
    .inl ⟨transactionId, rfl, rfl⟩⟩

private theorem safe_settleAttempt (same : job.data.paymentId = id)
    (known : know .working world)
    (carried : Carries id .processing none vars) (startedAt : Time) :
    Async.Safe contract pid (Settles faults id know)
      (settleAttempt config job startedAt) vars world := by
  subst same
  refine Async.safe_bind ((outline.toSagaOutline.safe known carried).mono ?_)
  intro outcome left current reached
  cases outcome with
  | error error =>
      obtain ⟨carried, stage, inSaga, known, why⟩ := reached
      refine ⟨stage, .inl ⟨inSaga, carried⟩, known, why.imp_right ?_⟩
      rintro ⟨failure, rfl, compensated⟩
      exact ⟨failure, rfl, inSaga, compensated⟩
  | ok outcome =>
      refine Async.safe_bind (Async.safe_dateNow fun completedAt => ?_)
      refine Async.safe_bind (Async.safe_modify ?_)
      have carried := carries_completed completedAt reached.1
      refine Async.safe_bind ((outline.safe_saveCompleted reached.2
        carried).mono ?_)
      intro saved left current reached
      obtain ⟨rfl, reached⟩ := reached
      cases saved with
      | error error => exact settles_of_closes error current carried reached
      | ok _ =>
          refine Async.safe_bind ((outline.safe_finalize reached).mono ?_)
          intro finalized left current reached
          obtain ⟨rfl, reached⟩ := reached
          cases finalized with
          | error error =>
              exact settles_of_closes error current carried reached
          | ok _ => exact outline.safe_announce reached carried startedAt

private theorem safe_bury {stage : Stage} {failure : PaymentProcessingError}
    {record : PaymentRecord}
    (compensated : SagaOutline.Compensated stage failure)
    (fits : stage.Fits id record) (inSaga : stage.inSaga = true)
    (known : know stage world) (correlationId : Option String) :
    Async.Safe contract pid (Attempts faults id know)
      (finalizeDeadLetter config record failure.message correlationId)
      vars world := by
  have unfinished : record.status.terminal = false := by
    rcases fits with ⟨-, carried⟩ | ⟨transactionId, closing, -⟩
    · rw [carried.status]
      rfl
    · cases stage <;> cases inSaga <;> cases closing
  refine ((outline.burial stage failure compensated).safe fits.id_eq unfinished
    failure.message correlationId known).mono ?_
  intro outcome left current reached
  obtain ⟨-, reached⟩ := reached
  cases outcome with
  | error error => exact ⟨.aborted, reached.2, .inl rfl⟩
  | ok result =>
      rcases reached with ⟨rfl, routed⟩ | ⟨⟨why, rfl⟩, terminal⟩
      · exact ⟨.routed _, routed, .inr (.inl ⟨_, rfl, rfl⟩)⟩
      · exact ⟨.terminal, terminal, .inr (.inr ⟨rfl, why, rfl⟩)⟩

/-- A stage at which the attempt ends with an error that is retried. -/
def Retries (faults : Prop) (stage : Stage)
    (failure : PaymentProcessingError) : Prop :=
  faults ∨ (stage = .declined ∧ failure.retryable = true)

private theorem safe_retry {stage : Stage} {failure : PaymentProcessingError}
    (retries : Retries faults stage failure)
    (fits : stage.Fits id vars) (known : know stage world) :
    Async.Safe contract pid (Attempts faults id know)
      (do
        history .charge s!"transient failure ({failure.code.text}), will retry"
          failure.message
        saveRecord
        Async.throw (.processing failure))
      vars world := by
  have explained : ∀ message, faults →
      Explains faults id stage (.error (.error message)) :=
    fun message faulty => .inr (.inl ⟨faulty, fits.active⟩)
  refine Async.safe_bind (safe_history fun entries => ?_)
  refine safe_stays (outline.safe_saveRecord (fits.withHistory entries) known
    (fits.withHistory entries)) ?_
    (fun message left current faulty _ known =>
      ⟨stage, known, explained message faulty⟩)
  intro _ left saved fits known
  refine Async.safe_throw ⟨stage, known, ?_⟩
  rcases retries with faulty | ⟨rfl, retryable⟩
  · exact .inr (.inl ⟨faulty, fits.active⟩)
  · exact .inr (.inr ⟨rfl, failure, rfl, retryable⟩)

private theorem safe_failAttempt (startedAt : Time) (error : Thrown)
    (failed : Settles faults id know (.error error) vars world) :
    Async.Safe contract pid (Attempts faults id know)
      (failAttempt config job startedAt error) vars world := by
  obtain ⟨stage, fits, known, why⟩ := failed
  refine Async.safe_bind (Async.safe_get ?_)
  refine safe_stays (outline.safe_jobCompleted fits known _ _) ?_
    (fun message left current faulty fits known =>
      ⟨stage, known, .inr (.inl ⟨faulty, fits.active⟩)⟩)
  intro _ left emitted fitsLeft known
  rcases why with ⟨faulty, message, rfl⟩ | ⟨failure, rfl, inSaga, compensated⟩
  · exact outline.safe_retry (.inl faulty) fitsLeft known
  · split
    case isTrue => exact outline.safe_bury compensated fits inSaga known _
    case isFalse transient =>
      have retryable : failure.retryable = true :=
        eq_true_of_ne_false transient
      have declined : stage = .declined := by
        rcases compensated with declined | ⟨code, -⟩
        · exact declined
        · simp [PaymentProcessingError.retryable, code, isTransient,
            retryableCodes] at retryable
      exact outline.safe_retry (.inr ⟨declined, retryable⟩) fitsLeft known

private theorem safe_attempt (same : job.data.paymentId = id)
    (known : know .entered world) (ours : vars.id = id)
    (startedAt : Time) :
    Async.Safe contract pid (Attempts faults id know)
      (attempt config job startedAt) vars world := by
  subst same
  refine Async.safe_bind (Async.safe_modify ?_)
  have carried : Carries job.data.paymentId .processing none
      (transitionToProcessing vars job.attemptsMade startedAt) :=
    ⟨ours, rfl, fun _ impossible => by cases impossible⟩
  refine Async.safe_bind (Async.safe_bind (Async.safe_get ?_))
  refine (safe_command (moves_orAborts (outline.begin _ carried))
    (outline.stable _) known).mono ?_
  intro outcome left current reached
  obtain ⟨rfl, reached⟩ := reached
  cases outcome with
  | error error => exact ⟨.aborted, reached.2, .inl rfl⟩
  | ok _ =>
      have fault : ∀ message (left : PaymentRecord) (current : World), faults →
          Carries job.data.paymentId .processing none left →
          know .working current →
          Attempts faults job.data.paymentId know (.error (.error message))
            left current :=
        fun message left current faulty _ known =>
          ⟨.working, known, .inr (.inl ⟨faulty, .inl rfl⟩)⟩
      refine safe_stays (Async.safe_bind (Async.safe_dateNow fun now =>
        outline.safe_book (.inl rfl) rfl carried reached)) ?_ fault
      intro _ left audited carried known
      refine Async.safe_bind (Async.safe_get ?_)
      refine safe_stays (outline.safe_emit (.inl ⟨rfl, carried⟩) known carried
        _) ?_ fault
      intro _ left emitted carried known
      refine Async.safe_tryCatch ((outline.safe_settleAttempt rfl known
        carried startedAt).mono ?_)
      intro outcome left current settles
      cases outcome with
      | ok result => exact settles
      | error error =>
          exact outline.safe_failAttempt startedAt error settles

private theorem safe_lockedAttempt (same : job.data.paymentId = id)
    (known : know .entered world) (ours : vars.id = id)
    (startedAt : Time) :
    Async.Safe contract pid (fun outcome _ => ends outcome)
      (lockedAttempt config job startedAt) vars world := by
  refine Async.safe_tryFinally ((outline.safe_attempt same known ours
    startedAt).mono ?_)
  intro result left current attempted
  obtain ⟨stage, known, explained⟩ := attempted
  subst same
  refine (safe_command (outline.release stage result explained)
    (outline.stable _) known).mono ?_
  intro cleaned last final reached
  obtain ⟨-, reached⟩ := reached
  cases cleaned with
  | ok _ => exact reached
  | error error => exact reached

private theorem safe_acquireExecutionLock {vars : locals}
    (known : know .checked world) :
    Async.Safe contract pid (fun outcome left current => left = vars ∧
      Continues (fun acquired world =>
        if acquired = true then know .entered world
        else ∀ reason, ends (.ok (.skipped id reason)) world) ends outcome
        current)
      (IdempotencyService.acquireExecutionLock config id) vars
      world := by
  refine safe_continue (safe_command outline.lock (outline.stable _) known) ?_
    (fun _ _ failed => ⟨rfl, failed⟩)
  intro acquired current reached
  cases acquired with
  | false => exact Async.safe_pure ⟨rfl, reached⟩
  | true =>
      refine safe_continue (safe_idempotencyRead outline.readLocked
        (outline.stable _) reached) ?_ (fun _ _ failed => ⟨rfl, failed⟩)
      intro existing read known
      refine Async.safe_bind (Async.safe_dateNow fun now => ?_)
      refine safe_continue (safe_command (outline.enter _ now)
        (outline.stable _) known) ?_ (fun _ _ failed => ⟨rfl, failed⟩)
      intro _ entered known
      exact Async.safe_pure ⟨rfl, known⟩

/-- Every way through a worker execution. -/
theorem safe {vars : locals} (same : job.data.paymentId = id)
    (known : know .idle world) :
    Async.Safe contract pid (fun outcome _ => ends outcome)
      (processJob config job) vars world := by
  subst same
  refine Async.safe_bind (Async.safe_dateNow fun startedAt => ?_)
  refine safe_continue (safe_storeGet outline.load (outline.stable _) known) ?_
    (fun _ _ failed => failed)
  intro found loaded ours
  cases found with
  | none => exact Async.safe_throw (ours _)
  | some record =>
      refine safe_continue (safe_idempotencyGet outline.check
        (outline.stable _) ours.2) ?_ (fun _ _ failed => failed)
      intro existing checked checks
      by_cases final : readsFinal existing = true
      · rw [Checks, if_pos final] at checks
        rw [readsFinal] at final
        rw [if_pos final]
        exact Async.safe_pure (checks _)
      · rw [Checks, if_neg final] at checks
        rw [readsFinal] at final
        rw [if_neg final]
        refine safe_continue (outline.safe_acquireExecutionLock checks) ?_
          (fun _ _ failed => failed)
        intro acquired current reached
        cases acquired with
        | false => exact Async.safe_pure (reached _)
        | true =>
            exact Async.safe_scope (outline.safe_lockedAttempt rfl reached
              ours.1 startedAt)

/-- The same for a process that runs the execution. -/
theorem safe_code (same : job.data.paymentId = id) (known : know .idle world)
    {post : Except Thrown Output → World → Prop}
    (implies : ∀ outcome final, ends outcome final →
      post (outcome.map Output.processed) final) (time : Nat) :
    ((Task.process job).body config |>.start time).Safe contract pid post
      world := by
  apply Async.Safe.start
  refine Async.safe_bind ((outline.safe same known).mono ?_)
  intro outcome left final ended
  cases outcome with
  | ok result => exact Async.safe_pure (implies (.ok result) final ended)
  | error error => exact implies (.error error) final ended

end ProcessOutline

/-- The failure handler has read the payment record. -/
def Handles (id : PaymentId) (know : Stage → World → Prop)
    (ends : Except Thrown Unit → World → Prop)
    (found : Option PaymentRecord) (world : World) : Prop :=
  match found with
  | none => ends (.ok ()) world
  | some record =>
      if record.status.terminal = true then ends (.ok ()) world
      else record.id = id ∧ know .checked world

structure HandlerOutline (contract : Contract (machine config)) (pid : Nat)
    (id : PaymentId) (know : Stage → World → Prop)
    (ends : Except Thrown Unit → World → Prop) : Prop extends
    BurialOutline contract pid id know .checked where
  load : Moves contract pid (.storage (.hgetPayment id)) (know .idle)
    (Continues (fun doc => Handles id know ends (doc.bind Stored.parse?))
      ends)
  routed : ∀ reason world, know (.routed reason) world → ends (.ok ()) world
  terminal : ∀ world, know .terminal world → ends (.ok ()) world
  aborted : ∀ message world, know .aborted world →
    ends (.error (.error message)) world

namespace HandlerOutline

variable {ends : Except Thrown Unit → World → Prop}
  {jobData : PaymentJobData} {vars : locals}
  (outline : HandlerOutline contract pid id know ends)

include outline

/-- Every way through the failure handler. -/
theorem safe (same : jobData.paymentId = id) (known : know .idle world)
    (error : Thrown) :
    Async.Safe contract pid (fun outcome _ => ends outcome)
      (handleJobFailure config jobData error) vars world := by
  subst same
  refine safe_continue (safe_storeGet outline.load (outline.stable _) known) ?_
    (fun _ _ failed => failed)
  intro found loaded reached
  cases found with
  | none => exact Async.safe_pure reached
  | some record =>
      by_cases terminal : record.status.terminal = true
      · rw [Handles, if_pos terminal] at reached
        simp only [if_pos terminal]
        exact Async.safe_pure reached
      · rw [Handles, if_neg terminal] at reached
        simp only [if_neg terminal]
        have unfinished : record.status.terminal = false :=
          eq_false_of_ne_true terminal
        refine Async.safe_bind ((outline.toBurialOutline.safe reached.1
          unfinished _ _ reached.2).mono ?_)
        intro outcome left final ended
        obtain ⟨-, ended⟩ := ended
        cases outcome with
        | error error =>
            obtain ⟨⟨message, rfl⟩, aborted⟩ := ended
            exact outline.aborted message final aborted
        | ok result =>
            rcases ended with ⟨-, routed⟩ | ⟨-, terminal⟩
            · exact Async.safe_pure (outline.routed _ final routed)
            · exact Async.safe_pure (outline.terminal final terminal)

theorem safe_code (same : jobData.paymentId = id) (known : know .idle world)
    (error : Thrown) {post : Except Thrown Output → World → Prop}
    (implies : ∀ outcome final, ends outcome final →
      post (outcome.map fun _ => Output.handled) final) (time : Nat) :
    ((Task.handleJobFailure jobData error).body config |>.start time).Safe
      contract pid post world := by
  apply Async.Safe.start
  refine Async.safe_bind ((outline.safe same known error).mono ?_)
  intro outcome left final ended
  cases outcome with
  | ok result => exact Async.safe_pure (implies (.ok result) final ended)
  | error error => exact implies (.error error) final ended

end HandlerOutline

/-- Every command that a worker execution or a failure handler of the payment
can issue. -/
def workerCommand (id : PaymentId) : Command → Prop
  | .storage (.hgetPayment key) => key = id
  | .storage (.hsetPayment key record) => key = id ∧ record.id = id
  | .storage (.getIdempotency key) => key = id
  | .storage (.setIdempotency key _ _) => key = id
  | .storage (.setNxLock key _) => key = id
  | .storage (.delLock key) => key = id
  | .storage (.rpushAudit key _) => key = id
  | .storage (.rpushSettlement entry) => entry.paymentId = id
  | .storage (.queueReady queue) => queue = QueueManager.dlqQueueName
  | .storage (.queueAdd queue key (.deadLetter entry) _) =>
      queue = QueueManager.dlqQueueName ∧ key = id ∧ entry.paymentId = id
  | .guardCall payment _ => payment.id = id
  | .guardRefund _ _ => True
  | .emit _ => True
  | _ => False

variable (keyed : ∀ world record, contract.invariant world →
    world.payment id = some record → record.id = id)
  (steps : ∀ command before outcome after, workerCommand id command →
    Executes contract pid command before outcome after →
    Keeps contract before after)

include steps

theorem moves_workerCommand {command : Command} {fact : World → Prop}
    {result : Except Thrown command.Result → World → Prop}
    (issued : workerCommand id command)
    (reached : ∀ outcome after, result outcome after) :
    Moves contract pid command fact result :=
  fun before outcome after _ execution =>
    ⟨steps command before outcome after issued execution,
      reached outcome after⟩

include keyed

/-- A read of the stored record, about which only its id is known. -/
theorem moves_keyed
    {result : Except Thrown (Option (Stored PaymentRecord)) → World → Prop}
    {fact : World → Prop}
    (missing : ∀ doc world, doc.bind Stored.parse? = none →
      result (.ok doc) world)
    (found : ∀ doc record world, doc.bind Stored.parse? = some record →
      record.id = id → result (.ok doc) world)
    (thrown : ∀ error world, result (.error error) world) :
    Moves contract pid (.storage (.hgetPayment id)) fact result := by
  intro before outcome after _ execution
  refine ⟨steps _ before outcome after rfl execution, ?_⟩
  rcases executes_storage execution with ⟨-, rfl, rfl⟩ | ⟨message, rfl, -⟩
  · cases stored : World.payment after id with
    | none => exact missing _ _ stored
    | some record =>
        exact found _ record _ stored
          (keyed after record execution.invariant stored)
  · exact thrown _ _

/-- The terminal handling, when nothing is to be known about the payment. -/
theorem BurialOutline.unconditional :
    BurialOutline contract pid id (fun _ _ => True) start where
  stable := fun _ _ _ _ _ _ => trivial
  lookup := moves_keyed keyed steps
    (fun doc world missing => by
      rw [OrAborts, missing]
      exact trivial)
    (fun doc record world stored same => by
      rw [OrAborts, stored, Latest]
      split
      · exact trivial
      · exact ⟨same, trivial⟩)
    (fun _ _ => trivial)
  bury := fun record reason same _ _ =>
    moves_workerCommand steps ⟨rfl, same⟩ fun outcome _ => by
      cases outcome <;> exact trivial
  readBuried := fun reason => moves_workerCommand steps rfl fun outcome _ => by
    cases outcome <;> exact trivial
  fail := fun reason previous now =>
    moves_workerCommand steps rfl fun outcome _ => by
      cases outcome <;> exact trivial
  audit := fun reason event =>
    moves_workerCommand steps rfl fun outcome _ => by
      cases outcome <;> exact trivial
  emit := fun reason event =>
    moves_workerCommand steps trivial fun outcome _ => by
      cases outcome <;> exact trivial
  ready := fun reason => moves_workerCommand steps rfl fun outcome _ => by
    cases outcome <;> exact trivial
  route := fun entry same =>
    moves_workerCommand steps ⟨rfl, rfl, same⟩ fun outcome _ => by
      cases outcome <;> exact trivial

/-- A worker execution, when nothing is to be known about the payment. -/
theorem ProcessOutline.unconditional :
    ProcessOutline contract pid id True (fun _ _ => True)
      (fun _ _ => True) where
  stable := fun _ _ _ _ _ _ => trivial
  faulty := fun _ _ _ _ _ _ => trivial
  book := by
    intro stage command active allowed
    refine moves_workerCommand steps ?_ fun _ _ => trivial
    cases command with
    | storage command =>
        cases command with
        | hsetPayment key record => exact ⟨allowed.1, allowed.2.id_eq⟩
        | rpushAudit key event => exact allowed
        | _ => exact allowed.elim
    | emit event => exact trivial
    | guardCall payment correlationId => exact allowed.elim
    | guardRefund gatewayId transactionId => exact allowed.elim
  charge := by
    intro payment correlationId same before outcome after _ execution
    refine ⟨steps _ before outcome after same execution, ?_⟩
    match outcome with
    | .ok (.ok transactionId httpStatus) => exact trivial
    | .ok (.fail error) => exact trivial
    | .error error =>
        exact (guardCall_returns execution).elim
  append := fun entry same =>
    moves_workerCommand steps same fun outcome _ => by
      cases outcome <;> exact trivial
  refund := by
    intro gatewayId transactionId before outcome after _ execution
    refine ⟨steps _ before outcome after trivial execution, ?_⟩
    match outcome with
    | .ok (.ok refundId httpStatus) => exact trivial
    | .ok (.fail error) => exact trivial
    | .error error =>
        exact (guardRefund_returns execution).elim
  load := moves_keyed keyed steps
    (fun doc world missing => by
      rw [Continues, missing]
      exact fun _ => trivial)
    (fun doc record world stored same => by
      rw [Continues, stored]
      exact ⟨same, trivial⟩)
    (fun _ _ => trivial)
  check := moves_workerCommand steps rfl fun outcome _ => by
    cases outcome with
    | error error => exact trivial
    | ok raw =>
        rw [Continues, Checks]
        split
        · exact fun _ => trivial
        · exact trivial
  lock := moves_workerCommand steps rfl fun outcome _ => by
    match outcome with
    | .error error => exact trivial
    | .ok true => exact trivial
    | .ok false => exact fun _ => trivial
  readLocked := moves_workerCommand steps rfl fun outcome _ => by
    cases outcome <;> exact trivial
  enter := fun claimedAt now => moves_workerCommand steps rfl fun outcome _ => by
    cases outcome <;> exact trivial
  begin := fun record carried =>
    moves_workerCommand steps ⟨carried.id, carried.id⟩ fun outcome _ => by
      cases outcome <;> exact trivial
  record := fun record transactionId carried =>
    moves_workerCommand steps ⟨rfl, carried.id⟩ fun _ _ => trivial
  readRecorded := fun transactionId =>
    moves_workerCommand steps rfl fun _ _ => trivial
  complete := fun transactionId previous now =>
    moves_workerCommand steps rfl fun _ _ => trivial
  burial := fun _ _ _ => .unconditional keyed steps
  release := fun stage result _ =>
    moves_workerCommand steps rfl fun outcome _ => by
      cases outcome <;> exact trivial

/-- A failure handler, when nothing is to be known about the payment. -/
theorem HandlerOutline.unconditional :
    HandlerOutline contract pid id (fun _ _ => True) (fun _ _ => True) where
  toBurialOutline := .unconditional keyed steps
  load := moves_keyed keyed steps
    (fun doc world missing => by
      rw [Continues, missing]
      exact trivial)
    (fun doc record world stored same => by
      rw [Continues, stored, Handles]
      split
      · exact trivial
      · exact ⟨same, trivial⟩)
    (fun _ _ => trivial)
  routed := fun _ _ _ => trivial
  terminal := fun _ _ => trivial
  aborted := fun _ _ _ => trivial

/-- Whatever holds for every command of the workers holds for every worker
execution and failure handler. -/
theorem safe_worker {task : Task} (worker : task.submits = false)
    (same : task.paymentId = id) (world : World) (time : Nat) :
    ((task.body config).start time).Safe contract pid
      (fun output _ => ∀ result, output ≠ .ok (.submitted result)) world := by
  cases task with
  | submit input => cases worker
  | process job =>
      refine (ProcessOutline.unconditional keyed steps).safe_code same trivial
        ?_ time
      intro outcome final _ result
      cases outcome <;> exact nofun
  | handleJobFailure jobData error =>
      refine (HandlerOutline.unconditional keyed steps).safe_code same trivial
        error ?_ time
      intro outcome final _ result
      cases outcome <;> exact nofun

end PaymentQueue
