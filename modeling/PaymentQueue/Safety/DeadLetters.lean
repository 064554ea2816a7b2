import PaymentQueue.Outlines.Process
import PaymentQueue.Runtime.Jobs

/-!
# Dead-lettered payments and the dead letter queue

`finalizeDeadLetter` saves the dead-lettered record first and adds the entry of
the dead letter queue last.  When a command in between throws, it is entered
again only if the next attempt gets past the final-state check and the lock;
an attempt that is turned away, and the failure handler, return early.
-/

namespace PaymentQueue.DeadLetters

open Await

variable {config : AppConfig}

/-- The job is a dead letter of the payment. -/
def isEntry (id : PaymentId) (job : Job) : Bool :=
  match job.data with
  | .deadLetter entry => decide (entry.paymentId = id)
  | .payment _ => false

/-- The dead letter queue has an entry of the payment. -/
def entered (id : PaymentId) (world : World) : Bool :=
  (world.queues QueueManager.dlqQueueName id).any (isEntry id)

def deadLettered (id : PaymentId) (world : World) : Bool :=
  (world.payment id).any fun record => decide (record.status = .deadLetter)

/-- The payment is dead-lettered, but not in the dead letter queue. -/
def stranded (id : PaymentId) (world : World) : Bool :=
  deadLettered id world && !entered id world

/-- The retry budget is spent when this attempt fails. -/
def lastAttempt (input : CreatePaymentInput) (world : World) : Bool :=
  (world.queues (QueueManager.queueNameFor input.gatewayId) input.id).any
    fun job => decide (job.options.attempts ≤ job.attemptsMade + 1)

/-- If the payment is stranded, a further attempt can begin it again. -/
def recoverable (input : CreatePaymentInput) (world : World) : Bool :=
  !stranded input.id world ||
    (!world.finalized input.id && !lastAttempt input world)

/-- The command finds the lock of a stranded payment taken. -/
def turnedAway (id : PaymentId) (world : World) : Command → Bool
  | .storage (.setNxLock key _) =>
      decide (key = id) && (world.locks id).isSome && stranded id world
  | _ => false

/-- A command that throws leaves the payment recoverable, and an attempt on a
stranded payment gets the lock. -/
def survivable (config : AppConfig) (input : CreatePaymentInput) (pid : Nat)
    (command : Command) (choice : Choice) (world : World) : Bool :=
  !turnedAway input.id world command &&
    (choice.faultless ||
      (exec config.tokenWaitMs pid command choice world).all fun result =>
        recoverable input result.2)

/-- What stays true of the queues while an attempt is executed. -/
structure Placed (input : CreatePaymentInput) (job : Job) (world : World) :
    Prop where
  keyed : ∀ record, world.payment input.id = some record →
    record.id = input.id
  queued : world.queues (QueueManager.queueNameFor input.gatewayId) input.id =
    some job
  letters : ∀ job, world.queues QueueManager.dlqQueueName input.id = some job →
    isEntry input.id job = true

/-- The contract of an attempt (`careful`) and of the failure handler. -/
def contract (config : AppConfig) (input : CreatePaymentInput) (job : Job)
    (pid : Nat) (careful : Prop) : Contract (machine config) where
  invariant := Placed input job
  rely := fun before after => after = before ∨ ∃ elapsed,
    after = before.tick elapsed
  guarantee := fun _ _ => True
  allowed := fun command choice world =>
    careful → survivable config input pid command choice world = true

/-- What a process knows at each stage.  An attempt may begin on a stranded
payment, as long as it is not finalized; the failure handler may not. -/
def Knows (input : CreatePaymentInput) (careful : Prop) :
    Stage → World → Prop
  | .idle, world | .seen, world | .checked, world | .locked, world
  | .entered, world =>
      stranded input.id world = true →
        careful ∧ world.finalized input.id = false
  | .aborted, world => careful → recoverable input world = true
  | .buried _, _ | .failed _, _ => True
  | .routed _, world | .terminal, world => stranded input.id world = false
  | _, world => deadLettered input.id world = false

section Frames

variable {input : CreatePaymentInput} {job : Job} {careful : Prop}
  {stage : Stage} {before after : World}

/-- The record and the queues are the same, and nothing was finalized. -/
structure Same (input : CreatePaymentInput) (before after : World) : Prop where
  payments : after.payments input.id = before.payments input.id
  queues : after.queues = before.queues
  unfinalized : before.finalized input.id = false →
    after.finalized input.id = false

theorem Same.payment (same : Same input before after) :
    after.payment input.id = before.payment input.id := by
  simp only [World.payment, same.payments]

theorem Same.deadLettered (same : Same input before after) :
    deadLettered input.id after = deadLettered input.id before := by
  simp only [DeadLetters.deadLettered, same.payment]

theorem Same.stranded (same : Same input before after) :
    stranded input.id after = stranded input.id before := by
  simp only [DeadLetters.stranded, same.deadLettered, entered, same.queues]

theorem Same.recoverable (same : Same input before after)
    (ready : recoverable input before = true) :
    recoverable input after = true := by
  simp only [DeadLetters.recoverable, same.stranded, lastAttempt,
    same.queues, Bool.or_eq_true, Bool.and_eq_true, Bool.not_eq_true']
    at ready ⊢
  rcases ready with fine | ⟨unfinalized, more⟩
  · exact .inl fine
  · exact .inr ⟨same.unfinalized unfinalized, more⟩

theorem Knows.same (known : Knows input careful stage before)
    (same : Same input before after) : Knows input careful stage after := by
  cases stage with
  | idle | seen | checked | locked | entered =>
      intro still
      rw [same.stranded] at still
      obtain ⟨care, unfinalized⟩ := known still
      exact ⟨care, same.unfinalized unfinalized⟩
  | aborted => exact fun care => same.recoverable (known care)
  | buried _ | failed _ => exact trivial
  | routed _ | terminal => exact same.stranded.trans known
  | _ => exact same.deadLettered.trans known

theorem Placed.same (placed : Placed input job before)
    (same : Same input before after) : Placed input job after where
  keyed := by
    rw [same.payment]
    exact placed.keyed
  queued := by
    rw [same.queues]
    exact placed.queued
  letters := by
    rw [same.queues]
    exact placed.letters

private theorem same_tick (world : World) (elapsed : Nat) :
    Same input world (world.tick elapsed) where
  payments := rfl
  queues := rfl
  unfinalized := view_tick_unfinalized world input.id elapsed

theorem same_of_rely {pid : Nat}
    (moved : (contract config input job pid careful).rely before after) :
    Same input before after := by
  rcases moved with rfl | ⟨elapsed, rfl⟩
  · exact ⟨rfl, rfl, fun unfinalized => unfinalized⟩
  · exact same_tick before elapsed

private theorem know_stable {pid : Nat} (stage : Stage) :
    Stable (contract config input job pid careful)
      (Knows input careful stage) :=
  fun _ _ moved _ known => known.same (same_of_rely moved)

/-- A payment that is not stranded needs no recovery. -/
theorem recoverable_of_not_stranded
    (fine : stranded input.id after = false) :
    recoverable input after = true := by
  simp [recoverable, fine]

theorem not_stranded_of_alive
    (alive : deadLettered input.id after = false) :
    stranded input.id after = false := by
  simp [stranded, alive]

end Frames

section Moves

variable {input : CreatePaymentInput} {job : Job} {pid : Nat}
  {careful : Prop} {stage : Stage}

/-- A command of an attempt that throws leaves the payment recoverable. -/
theorem recoverable_of_executes {command : Command} {before after : World}
    {error : Thrown}
    (execution : Executes (contract config input job pid careful) pid command
      before (.error error) after) (care : careful) :
    recoverable input after = true := by
  obtain ⟨-, choice, allowed, executed⟩ := execution
  have survives := ((Bool.and_eq_true _ _).mp (allowed care)).2
  have thrown : exec config.tokenWaitMs pid command choice before =
      some (.error error, after) := executed
  simpa [exec_error thrown, thrown] using survives

/-- Locks, logs and reads do not matter here. -/
theorem moves_beside {command : Command}
    {result : Except Thrown command.Result → World → Prop}
    (payments : command.writes .payments = false)
    (idempotency : command.writes .idempotency = false)
    (queues : command.writes .queues = false)
    (reached : ∀ before outcome after, Knows input careful stage after →
      Executes (contract config input job pid careful) pid command before
        outcome after → result outcome after) :
    Moves (contract config input job pid careful) pid command
      (Knows input careful stage) result := by
  intro before outcome after known execution
  have samePayments : after.payments = before.payments :=
    executes_agrees execution payments
  have sameKeys : after.idempotency = before.idempotency :=
    executes_agrees execution idempotency
  have sameQueues : after.queues = before.queues :=
    executes_agrees execution queues
  have same : Same input before after := by
    refine ⟨congrFun samePayments _, sameQueues, ?_⟩
    simp only [World.finalized, World.claim, sameKeys]
    exact fun unfinalized => unfinalized
  exact ⟨⟨execution.invariant.same same, trivial⟩,
    reached before outcome after (known.same same) execution⟩

theorem moves_write {command : StorageCommand}
    {result : Except Thrown command.Result → World → Prop}
    (placed : ∀ before, Placed input job before →
      Placed input job (command.effect pid before).2)
    (succeeded : ∀ before, Placed input job before →
      Knows input careful stage before →
      result (.ok (command.effect pid before).1)
        (command.effect pid before).2)
    (thrown : ∀ before after error, Knows input careful stage before →
      (after = before ∨ after = (command.effect pid before).2) →
      (careful → recoverable input after = true) →
      result (.error error) after) :
    Moves (contract config input job pid careful) pid (.storage command)
      (Knows input careful stage) result := by
  intro before outcome after known execution
  have inv : Placed input job before := execution.invariant
  have effect : after = before ∨ after = (command.effect pid before).2 := by
    rcases executes_storage execution with
      ⟨-, -, same⟩ | ⟨message, -, ⟨-, same⟩ | ⟨-, same⟩⟩
    · exact .inr same
    · exact .inr same
    · exact .inl same
  have kept : Placed input job after := by
    rcases effect with rfl | rfl
    · exact inv
    · exact placed before inv
  refine ⟨⟨kept, trivial⟩, ?_⟩
  cases outcome with
  | ok value =>
      rcases executes_storage execution with
        ⟨-, same, rfl⟩ | ⟨message, impossible, -⟩
      · cases same
        exact succeeded before inv known
      · cases impossible
  | error error =>
      exact thrown before after error known effect
        (recoverable_of_executes execution)

theorem Placed.save {record : PaymentRecord} {before : World}
    (placed : Placed input job before) (same : record.id = input.id) :
    Placed input job ((StorageCommand.hsetPayment input.id record).effect pid
      before).2 where
  keyed := by
    intro stored found
    simp only [World.payment, StorageCommand.effect, Function.update_self]
      at found
    obtain rfl := Option.some.inj found
    exact same
  queued := placed.queued
  letters := placed.letters

theorem Placed.mark {record : IdempotencyRecord} {ttlSeconds : Nat}
    {before : World} (placed : Placed input job before) :
    Placed input job ((StorageCommand.setIdempotency input.id record
      ttlSeconds).effect pid before).2 :=
  ⟨placed.keyed, placed.queued, placed.letters⟩

private theorem deadLettered_save (record : PaymentRecord) (before : World) :
    deadLettered input.id ((StorageCommand.hsetPayment input.id record).effect
      pid before).2 = decide (record.status = .deadLetter) := by
  simp [deadLettered, World.payment, StorageCommand.effect, Stored.parse?]

private theorem finalized_mark (record : IdempotencyRecord) (ttlSeconds : Nat)
    (before : World) :
    ((StorageCommand.setIdempotency input.id record ttlSeconds).effect pid
      before).2.finalized input.id = record.state.final := by
  simp [World.finalized, World.claim, readsFinal, Stored.parse?,
    StorageCommand.effect]

/-- A save that does not dead-letter the payment. -/
theorem moves_save {record : PaymentRecord}
    {result : Except Thrown Unit → World → Prop} (same : record.id = input.id)
    (status : record.status ≠ .deadLetter)
    (saved : ∀ outcome after, deadLettered input.id after = false →
      result outcome after)
    (refused : ∀ error after, Knows input careful stage after →
      (careful → recoverable input after = true) →
      result (.error error) after) :
    Moves (contract config input job pid careful) pid
      (.storage (.hsetPayment input.id record)) (Knows input careful stage)
      result := by
  have alive : ∀ before, deadLettered input.id
      ((StorageCommand.hsetPayment input.id record).effect pid before).2 =
        false := by
    intro before
    rw [deadLettered_save]
    exact decide_eq_false status
  apply moves_write
  · exact fun before placed => placed.save same
  · exact fun before _ _ => saved _ _ (alive before)
  · rintro before after error known (rfl | rfl) ready
    · exact refused error _ known ready
    · exact saved _ _ (alive before)

/-- The entry is added, unless the queue has one already. -/
theorem effect_route (entry : DlqEntry) (same : entry.paymentId = input.id)
    (options : JobOptions)
    (separate : QueueManager.queueNameFor input.gatewayId ≠
      QueueManager.dlqQueueName) {before : World}
    (placed : Placed input job before) :
    Placed input job ((StorageCommand.queueAdd QueueManager.dlqQueueName
        input.id (.deadLetter entry) options).effect pid before).2 ∧
      stranded input.id ((StorageCommand.queueAdd QueueManager.dlqQueueName
        input.id (.deadLetter entry) options).effect pid before).2 = false := by
  cases stored : before.queues QueueManager.dlqQueueName input.id with
  | some letter =>
      have added : entered input.id before = true := by
        rw [entered, stored]
        exact placed.letters letter stored
      have unchanged : ((StorageCommand.queueAdd QueueManager.dlqQueueName
          input.id (.deadLetter entry) options).effect pid before).2 =
          before := by
        simp [StorageCommand.effect, stored]
      rw [unchanged]
      exact ⟨placed, by simp [stranded, added]⟩
  | none =>
      refine ⟨⟨?_, ?_, ?_⟩, ?_⟩
      · simpa [StorageCommand.effect, stored, World.payment]
          using placed.keyed
      · simpa [StorageCommand.effect, stored,
          Function.update_of_ne separate] using placed.queued
      · simp [StorageCommand.effect, stored, isEntry, same]
      · simp [stranded, entered, StorageCommand.effect, stored, isEntry, same]

/-- A command of the terminal handling that only may throw. -/
theorem moves_silent {command : Command}
    (payments : command.writes .payments = false)
    (idempotency : command.writes .idempotency = false)
    (queues : command.writes .queues = false) :
    Moves (contract config input job pid careful) pid command
      (Knows input careful stage)
      (OrAborts (Knows input careful) fun _ => Knows input careful stage) := by
  apply moves_beside payments idempotency queues
  intro before outcome after known execution
  cases outcome with
  | ok value => exact known
  | error error => exact recoverable_of_executes execution

theorem burial (separate : QueueManager.queueNameFor input.gatewayId ≠
    QueueManager.dlqQueueName)
    (fine : ∀ world, Knows input careful stage world →
      stranded input.id world = false) :
    BurialOutline (contract config input job pid careful) pid input.id
      (Knows input careful) stage where
  stable := know_stable
  lookup := moves_beside rfl rfl rfl <| by
    intro before outcome after known execution
    cases outcome with
    | error error => exact recoverable_of_executes execution
    | ok doc =>
        rcases executes_storage execution with
          ⟨-, same, rfl⟩ | ⟨message, impossible, -⟩
        · cases same
          exact latest_of_found execution.invariant.keyed known
            fun _ => fine _ known
        · cases impossible
  bury := fun record reason same _ _ => moves_write
    (fun before placed => placed.save same) (fun _ _ _ => trivial)
    (fun _ _ _ _ _ ready => ready)
  readBuried := fun reason => moves_silent rfl rfl rfl
  fail := fun reason previous now => moves_write
    (fun before placed => placed.mark) (fun _ _ _ => trivial)
    (fun _ _ _ _ _ ready => ready)
  audit := fun reason event => moves_silent rfl rfl rfl
  emit := fun reason event => moves_silent rfl rfl rfl
  ready := fun reason => moves_silent rfl rfl rfl
  route := fun entry same => moves_write
    (fun before placed => (effect_route entry same _ separate placed).1)
    (fun before placed _ => (effect_route entry same _ separate placed).2)
    (fun _ _ _ _ _ ready => ready)

/-- How an attempt ends. -/
def ends (input : CreatePaymentInput) :
    Except Thrown ProcessResult → World → Prop
  | .ok _, world => stranded input.id world = false
  | .error _, world => recoverable input world = true

private theorem knows_active {world : World}
    (active : stage.inSaga = true ∨ stage.closing.isSome = true) :
    Knows input careful stage world ↔ deadLettered input.id world = false := by
  cases stage <;>
    first | exact Iff.rfl | simp [Stage.inSaga, Stage.closing] at active

private theorem moves_book {command : Command}
    (active : stage.inSaga = true ∨ stage.closing.isSome = true)
    (allowed : bookkeeping input.id stage command) :
    Moves (contract config input job pid careful) pid command
      (Knows input careful stage) (fun _ => Knows input careful stage) := by
  cases command with
  | storage command =>
      cases command with
      | hsetPayment key record =>
          obtain ⟨rfl, fits⟩ := allowed
          have status : record.status ≠ .deadLetter := by
            rcases fits with ⟨-, carried⟩ | ⟨transactionId, -, carried⟩
            · simp [carried.status]
            · simp [carried.status]
          exact moves_save fits.id_eq status
            (fun _ after alive => (knows_active active).mpr alive)
            (fun _ after known _ => known)
      | rpushAudit key event =>
          exact moves_beside rfl rfl rfl fun _ _ _ known _ => known
      | _ => exact allowed.elim
  | emit event => exact moves_beside rfl rfl rfl fun _ _ _ known _ => known
  | guardCall payment correlationId => exact allowed.elim
  | guardRefund gatewayId transactionId => exact allowed.elim

private theorem moves_lock :
    Moves (contract config input job pid True) pid
      (.storage (.setNxLock input.id config.leaseTtlSeconds))
      (Knows input True .checked)
      (Continues (Locks input.id (Knows input True) (ends input))
        (ends input)) := by
  apply moves_beside rfl rfl rfl
  intro before outcome after known execution
  match outcome with
  | .error error => exact recoverable_of_executes execution trivial
  | .ok true => exact known
  | .ok false =>
      intro reason
      rcases executes_storage execution with
        ⟨allowed, replied, rfl⟩ | ⟨message, impossible, -⟩
      · rcases setNxLock_cases input.id pid before config.leaseTtlSeconds with
          ⟨taken, unchanged⟩ | ⟨-, acquired, -⟩
        · have admitted := ((Bool.and_eq_true _ _).mp (allowed trivial)).1
          have present : (before.locks input.id).isSome = true :=
            Option.isSome_iff_ne_none.mpr taken
          rw [unchanged]
          show stranded input.id before = false
          simpa [turnedAway, present] using admitted
        · rw [acquired] at replied
          cases replied
      · cases impossible

private theorem moves_check :
    Moves (contract config input job pid True) pid
      (.storage (.getIdempotency input.id)) (Knows input True .seen)
      (Continues (fun raw => Checks input.id (Knows input True) (ends input)
        (raw.bind Stored.parse?)) (ends input)) := by
  apply moves_beside rfl rfl rfl
  intro before outcome after known execution
  cases outcome with
  | error error => exact recoverable_of_executes execution trivial
  | ok raw =>
      rcases executes_storage execution with
        ⟨-, replied, rfl⟩ | ⟨message, impossible, -⟩
      · cases replied
        rw [Continues, StorageCommand.effect, claim_read, Checks]
        split
        case isTrue final =>
          intro reason
          by_contra still
          have finalized : after.finalized input.id = true := final
          have unfinalized : after.finalized input.id = false :=
            (known (eq_true_of_ne_false still)).2
          rw [finalized] at unfinalized
          cases unfinalized
        case isFalse => exact known
      · cases impossible

private theorem stranded_of_explains {faults : Prop} {world : World}
    {result : Except Thrown ProcessResult}
    (explained : Explains faults input.id stage result)
    (known : Knows input True stage world) : ends input result world := by
  cases result with
  | ok result =>
      rcases explained with ⟨_, rfl, -⟩ | ⟨_, rfl, -⟩ | ⟨rfl, -⟩
      · exact not_stranded_of_alive known
      · exact known
      · exact known
  | error error =>
      rcases explained with rfl | ⟨-, active⟩ | ⟨rfl, -⟩
      · exact known trivial
      · exact recoverable_of_not_stranded
          (not_stranded_of_alive ((knows_active active).mp known))
      · exact recoverable_of_not_stranded (not_stranded_of_alive known)

private theorem processOutline
    (separate : QueueManager.queueNameFor input.gatewayId ≠
    QueueManager.dlqQueueName) :
    ProcessOutline (contract config input job pid True) pid input.id True
      (Knows input True) (ends input) where
  stable := know_stable
  faulty := fun _ _ _ _ _ _ => trivial
  book := fun stage command => moves_book
  charge := fun payment correlationId _ => moves_beside rfl rfl rfl <| by
    intro before outcome after known execution
    match outcome with
    | .ok (.ok transactionId httpStatus) => exact known
    | .ok (.fail error) => exact known
    | .error error => exact (guardCall_returns execution).elim
  append := fun entry _ => moves_beside rfl rfl rfl <| by
    intro before outcome after known execution
    cases outcome <;> exact known
  refund := fun gatewayId transactionId => moves_beside rfl rfl rfl <| by
    intro before outcome after known execution
    match outcome with
    | .ok (.ok refundId httpStatus) => exact known
    | .ok (.fail error) => exact known
    | .error error => exact (guardRefund_returns execution).elim
  load := moves_beside rfl rfl rfl <| by
    intro before outcome after known execution
    cases outcome with
    | error error => exact recoverable_of_executes execution trivial
    | ok doc =>
        rcases executes_storage execution with
          ⟨-, same, rfl⟩ | ⟨message, impossible, -⟩
        · cases same
          show Loads input.id (Knows input True) (ends input)
            (World.payment _ input.id) _
          cases found : World.payment _ input.id with
          | none =>
              intro message
              apply recoverable_of_not_stranded
              apply not_stranded_of_alive
              rw [deadLettered, found]
              rfl
          | some record =>
              exact ⟨execution.invariant.keyed record found, known⟩
        · cases impossible
  check := moves_check
  lock := moves_lock
  readLocked := moves_beside rfl rfl rfl <| by
    intro before outcome after known execution
    cases outcome with
    | ok raw => exact known
    | error error => exact recoverable_of_executes execution trivial
  enter := fun claimedAt now => moves_write
    (fun before placed => placed.mark)
    (fun before _ _ _ => ⟨trivial, finalized_mark _ _ before⟩)
    (fun _ _ _ _ _ ready => ready trivial)
  begin := by
    intro record carried
    rw [carried.id]
    refine moves_write (fun before placed => placed.save carried.id) ?_
      (fun _ _ _ _ _ ready => ready)
    intro before _ _
    show deadLettered input.id _ = false
    rw [deadLettered_save, carried.status]
    rfl
  record := fun record transactionId carried => moves_save carried.id
    (by simp [carried.status]) (fun outcome _ alive => by
      cases outcome <;> exact alive) (fun _ _ known _ => known)
  readRecorded := fun transactionId => moves_beside rfl rfl rfl <| by
    intro before outcome after known _
    cases outcome <;> exact known
  complete := fun transactionId previous now => moves_write
    (fun before placed => placed.mark) (fun _ _ known => known)
    (fun before after error known effect _ => by
      rcases effect with rfl | rfl <;> exact known)
  burial := by
    rintro stage failure (rfl | ⟨-, transactionId, succeeded, rfl⟩)
    · exact burial separate fun _ alive => not_stranded_of_alive alive
    · exact burial separate fun _ alive => not_stranded_of_alive alive
  release := fun stage result explained => moves_beside rfl rfl rfl <| by
    intro before outcome after known execution
    cases outcome with
    | ok _ => exact stranded_of_explains explained known
    | error error => exact recoverable_of_executes execution trivial

/-- How the failure handler ends. -/
def handlerEnds (input : CreatePaymentInput) :
    Except Thrown Unit → World → Prop
  | .ok _, world => stranded input.id world = false
  | .error _, _ => True

private theorem handlerOutline
    (separate : QueueManager.queueNameFor input.gatewayId ≠
    QueueManager.dlqQueueName) :
    HandlerOutline (contract config input job pid False) pid input.id
      (Knows input False) (handlerEnds input) where
  toBurialOutline := burial separate fun world known =>
    eq_false_of_ne_true fun still => (known still).1
  load := moves_beside rfl rfl rfl <| by
    intro before outcome after known execution
    have fine : stranded input.id after = false :=
      eq_false_of_ne_true fun still => (known still).1
    cases outcome with
    | error error => exact trivial
    | ok doc =>
        rcases executes_storage execution with
          ⟨-, same, rfl⟩ | ⟨message, impossible, -⟩
        · cases same
          show Handles input.id (Knows input False) (handlerEnds input)
            (World.payment _ input.id) _
          cases found : World.payment _ input.id with
          | none => exact fine
          | some record =>
              rw [Handles]
              split
              · exact fine
              · exact ⟨execution.invariant.keyed record found, known⟩
        · cases impossible
  routed := fun _ _ known => known
  terminal := fun _ known => known
  aborted := fun _ _ _ => trivial

end Moves

section Attempts

variable {input : CreatePaymentInput} {job : Job} {pid : Nat}
  {world after : World}

/-- An attempt is executed under the contract. -/
theorem process_executes {handle : JobHandle}
    {output : Except Thrown Output}
    (separate : QueueManager.queueNameFor input.gatewayId ≠
      QueueManager.dlqQueueName)
    (placed : Placed input job world) (same : handle.data.paymentId = input.id)
    (idle : stranded input.id world = true →
      world.finalized input.id = false)
    (executes : (Task.process handle).Executes config
      (survivable config input pid) pid world output after) :
    Placed input job after ∧ ∃ outcome,
      output = Except.map Output.processed outcome ∧
        ends input outcome after := by
  have safe : (((Task.process handle).body config).start world.now).Safe
      (contract config input job pid True) pid
      (fun output final => ∃ outcome,
        output = Except.map Output.processed outcome ∧
          ends input outcome final) world :=
    (processOutline separate).safe_code same
      (fun still => ⟨trivial, idle still⟩)
      (fun outcome final ended => ⟨outcome, rfl, ended⟩) _
  refine safe.ends (fun _ _ placed moved => placed.same (same_of_rely moved))
    placed (executes.mono (fun _ _ moved => moved) ?_)
  exact fun _ _ _ allowed _ => allowed

/-- The failure handler is executed under the contract. -/
theorem handler_executes {data : PaymentJobData} {error : Thrown}
    (separate : QueueManager.queueNameFor input.gatewayId ≠
      QueueManager.dlqQueueName)
    (placed : Placed input job world) (same : data.paymentId = input.id)
    (fine : stranded input.id world = false)
    (executes : (Task.handleJobFailure data error).Executes config anyOutcome
      pid world (.ok .handled) after) :
    stranded input.id after = false := by
  have idle : Knows input False .idle world := by
    intro still
    rw [fine] at still
    cases still
  have safe : (((Task.handleJobFailure data error).body config).start
      world.now).Safe (contract config input job pid False) pid
      (fun output final => ∃ outcome,
        output = Except.map (fun _ => Output.handled) outcome ∧
          handlerEnds input outcome final) world :=
    (handlerOutline separate).safe_code same idle error
      (fun outcome final ended => ⟨outcome, rfl, ended⟩) _
  obtain ⟨-, outcome, returned, ended⟩ :=
    safe.ends (fun _ _ placed moved => placed.same (same_of_rely moved))
      placed (executes.mono (fun _ _ moved => moved)
        (fun _ _ _ _ impossible => impossible.elim))
  cases outcome with
  | ok _ => exact ended
  | error error => cases returned

end Attempts

variable {input : CreatePaymentInput} {job next : Job} {world final : World}

/-- The job was enqueued for the payment. -/
def IsFor (id : PaymentId) (job : Job) : Prop :=
  ∃ data, job.data = .payment data ∧ data.paymentId = id

/-- The gateway's queue holds the job of the payment. -/
structure Assigned (input : CreatePaymentInput) (job : Job) (world : World) :
    Prop extends Placed input job world where
  data : IsFor input.id job

/-- What holds between the attempts. -/
def Lives (input : CreatePaymentInput) : Phase → World → Prop
  | .waiting, world => ∃ job, Assigned input job world ∧
      (stranded input.id world = true → world.finalized input.id = false)
  | .failed _, world => ∃ job, Assigned input job world ∧
      (stranded input.id world = true → world.finalized input.id = false ∧
        QueueManager.exhausted job = false)
  | .acknowledged _, world | .exhausted, world =>
      stranded input.id world = false

theorem stranded_setJob (separate : QueueManager.queueNameFor input.gatewayId ≠
    QueueManager.dlqQueueName) (replaced : Option Job) :
    stranded input.id (world.setJob
      (QueueManager.queueNameFor input.gatewayId) input.id replaced) =
        stranded input.id world := by
  simp [stranded, deadLettered, entered, World.setJob, World.payment,
    Function.update_of_ne (Ne.symm separate)]

theorem Placed.setJob (separate : QueueManager.queueNameFor input.gatewayId ≠
    QueueManager.dlqQueueName) (placed : Placed input job world) :
    Placed input next (world.setJob
      (QueueManager.queueNameFor input.gatewayId) input.id (some next)) where
  keyed := placed.keyed
  queued := by simp [World.setJob]
  letters := by
    simp only [World.setJob, Function.update_of_ne (Ne.symm separate)]
    exact placed.letters

theorem Assigned.delivered {handle : JobHandle} {active : World}
    (separate : QueueManager.queueNameFor input.gatewayId ≠
      QueueManager.dlqQueueName) (assigned : Assigned input job world)
    (delivered : Delivered input world handle active) :
    handle.data.paymentId = input.id ∧
      Placed input { job with state := .active } active ∧
      stranded input.id active = stranded input.id world ∧
      active.finalized input.id = world.finalized input.id := by
  obtain ⟨data, carried, same⟩ := assigned.data
  obtain ⟨activated, handed⟩ := delivered
  rw [environment_activate assigned.queued activated] at handed ⊢
  refine ⟨?_, assigned.toPlaced.setJob separate, stranded_setJob separate _,
    rfl⟩
  simp only [World.setJob, Function.update_self, Option.bind_some,
    Job.handle?, carried, Option.some.injEq] at handed
  rw [← handed]
  exact same

/-- One more attempt has failed. -/
theorem lives_thrown {error : Thrown}
    (separate : QueueManager.queueNameFor input.gatewayId ≠
      QueueManager.dlqQueueName)
    (placed : Placed input { job with state := .active } world)
    (data : IsFor input.id job)
    (ready : recoverable input world = true)
    (failed : environment (.fail (QueueManager.queueNameFor input.gatewayId)
      input.id) world = some final) :
    Lives input (.failed error) final := by
  rw [environment_fail placed.queued failed]
  refine ⟨_, ⟨placed.setJob separate, data⟩, ?_⟩
  intro still
  rw [stranded_setJob separate] at still
  simp only [recoverable, still, lastAttempt, placed.queued, Option.any_some,
    Bool.not_true, Bool.false_or, Bool.and_eq_true, Bool.not_eq_true']
    at ready
  exact ready

/-- The invariant of the attempts of a job. -/
theorem lives (separate : QueueManager.queueNameFor input.gatewayId ≠
      QueueManager.dlqQueueName) {start : World} {phase : Phase}
    (fresh : Lives input .waiting start)
    (worked : Worked config (survivable config input) input start phase
      world) :
    Lives input phase world := by
  induction worked with
  | enqueued => exact fresh
  | @elapsed phase world elapsed _ induction =>
      have same : Same input world (world.tick elapsed) :=
        same_tick world elapsed
      cases phase with
      | waiting =>
          obtain ⟨job, assigned, unmarked⟩ := induction
          refine ⟨job, ⟨assigned.toPlaced.same same, assigned.data⟩, ?_⟩
          rw [same.stranded]
          exact fun still => same.unfinalized (unmarked still)
      | failed error =>
          obtain ⟨job, assigned, unmarked⟩ := induction
          refine ⟨job, ⟨assigned.toPlaced.same same, assigned.data⟩, ?_⟩
          rw [same.stranded]
          exact fun still => ⟨same.unfinalized (unmarked still).1,
            (unmarked still).2⟩
      | acknowledged result => exact same.stranded.trans induction
      | exhausted => exact same.stranded.trans induction
  | returned _ delivered executes acknowledged induction =>
      obtain ⟨job, assigned, unmarked⟩ := induction
      obtain ⟨same, placed, sameStranded, sameFinal⟩ :=
        assigned.delivered separate delivered
      rw [← sameStranded, ← sameFinal] at unmarked
      obtain ⟨-, outcome, returned, ended⟩ :=
        process_executes separate placed same unmarked executes
      cases outcome with
      | error error => cases returned
      | ok result =>
          obtain ⟨left, rfl⟩ := environment_complete acknowledged
          exact (stranded_setJob separate left).trans ended
  | thrown _ delivered executes failed induction =>
      obtain ⟨job, assigned, unmarked⟩ := induction
      obtain ⟨same, placed, sameStranded, sameFinal⟩ :=
        assigned.delivered separate delivered
      rw [← sameStranded, ← sameFinal] at unmarked
      obtain ⟨placed, outcome, returned, ended⟩ :=
        process_executes separate placed same unmarked executes
      cases outcome with
      | ok result => cases returned
      | error error =>
          exact lives_thrown separate placed assigned.data ended failed
  | retried _ _ _ induction =>
      obtain ⟨job, assigned, unmarked⟩ := induction
      exact ⟨job, assigned, fun still => (unmarked still).1⟩
  | handled _ stored spent carried executes induction =>
      obtain ⟨job, assigned, unmarked⟩ := induction
      obtain ⟨data, sameData, same⟩ := assigned.data
      obtain rfl := Option.some.inj (stored.symm.trans assigned.queued)
      obtain rfl := JobData.payment.inj (carried.symm.trans sameData)
      refine handler_executes separate assigned.toPlaced same ?_ executes
      by_contra still
      rw [(unmarked (eq_true_of_ne_false still)).2] at spent
      cases spent

/-- A stored dead-lettered payment has an entry with its id in the dead letter
queue. -/
def Arrived (id : PaymentId) (world : World) : Prop :=
  ∀ record, world.payment id = some record → record.status = .deadLetter →
    ∃ job entry, world.queues QueueManager.dlqQueueName id = some job ∧
      job.data = .deadLetter entry ∧ entry.paymentId = id

private theorem entered_iff {id : PaymentId} {world : World} :
    entered id world = true ↔
      ∃ job entry, world.queues QueueManager.dlqQueueName id = some job ∧
        job.data = .deadLetter entry ∧ entry.paymentId = id := by
  rw [entered, Option.any_eq_true]
  constructor
  · rintro ⟨job, stored, isEntry⟩
    rw [DeadLetters.isEntry] at isEntry
    split at isEntry
    case h_1 entry same =>
      exact ⟨job, entry, stored, same, of_decide_eq_true isEntry⟩
    case h_2 => cases isEntry
  · rintro ⟨job, entry, stored, same, keyed⟩
    refine ⟨job, stored, ?_⟩
    rw [isEntry, same]
    exact decide_eq_true keyed

theorem arrived_iff {id : PaymentId} {world : World} :
    Arrived id world ↔ stranded id world = false := by
  simp only [Arrived, ← entered_iff, stranded, deadLettered]
  cases world.payment id with
  | none => simp
  | some record => simp

/-- When no command of an attempt throws over a stranded payment that is
already finalized or has no attempt left, and no attempt on a stranded payment
is turned away, every dead-lettered payment has arrived in the dead letter queue
when its job is over. -/
theorem dead_letters_arrive (config : AppConfig) (input : CreatePaymentInput)
    (separate : QueueManager.queueNameFor input.gatewayId ≠
      QueueManager.dlqQueueName)
    (start : World) (job : Job) (assigned : Assigned input job start)
    (unburied : Arrived input.id start) (phase : Phase) (world : World)
    (worked : Worked config (survivable config input) input start phase world)
    (finished : phase.finished = true) :
    Arrived input.id world := by
  have fresh : Lives input .waiting start := by
    refine ⟨job, assigned, fun still => ?_⟩
    rw [arrived_iff.mp unburied] at still
    cases still
  have left : Lives input phase world := lives separate fresh worked
  apply arrived_iff.mpr
  cases phase with
  | waiting | failed error => cases finished
  | acknowledged result => exact left
  | exhausted => exact left

/-- The world after payment `p1` was accepted. -/
def queued : World :=
  (((Task.submit (submission "stripe" 0)).execute .default anyOutcome 0
    (List.replicate 6 .succeed) (World.empty 0)).map Prod.snd).getD
      (World.empty 0)

/-- The job that was enqueued for payment `p1`. -/
def queuedJob : Job :=
  { data := .payment ⟨"p1", none⟩
    options := ⟨2, 0, 4, true⟩
    attemptsMade := 0
    state := .prioritized
    addedAt := 0
    writer := 0 }

private theorem assigned_queued : Assigned
    (submission "stripe" 0) queuedJob queued := by
  have keyed : (queued.payment "p1").all (fun record =>
      decide (record.id = "p1")) = true := by decide +kernel
  have letters : queued.queues "dlq" "p1" = none := by decide +kernel
  refine ⟨⟨?_, ?_, ?_⟩, ⟨_, rfl, rfl⟩⟩
  · intro record stored
    have found : queued.payment "p1" = some record := stored
    rw [found] at keyed
    exact of_decide_eq_true keyed
  · decide +kernel
  · intro job stored
    cases letters.symm.trans stored

private theorem arrived_queued : Arrived "p1" queued :=
  arrived_iff.mpr (by decide +kernel)

/-- A delivery in which the gateway declines the card; the commands after the
charge have the outcomes `rest`. -/
def declined (rest : List Choice) : Move :=
  .deliver (List.replicate 11 .succeed ++
    [.guard (.answered (.fail ⟨.cardDeclined, "declined", 402⟩))] ++ rest)

/-- The read in `finalize` throws after the dead-lettered record was saved; the
next attempt dead-letters the payment again. -/
def retriedMoves : List Move :=
  [declined (List.replicate 6 .succeed ++ [.refused "connection lost",
      .succeed]),
    .retry, declined (List.replicate 14 .succeed)]

theorem dead_letters_arrive_retried :
    ∃ phase world,
      retriedMoves.foldlM (fun state move => pursue .default
        (survivable .default (submission "stripe" 0)) (submission "stripe" 0)
        move state) (.waiting, queued) = some (phase, world) ∧
      deadLettered "p1" world = true ∧ Arrived "p1" world := by
  have ends : (retriedMoves.foldlM (fun state move => pursue .default
      (survivable .default (submission "stripe" 0)) (submission "stripe" 0)
      move state) (.waiting, queued)).any (fun state =>
        state.1.finished && deadLettered "p1" state.2) = true := by
    decide +kernel
  obtain ⟨⟨phase, world⟩, taken, final⟩ := (Option.any_eq_true _ _).mp ends
  obtain ⟨finished, buried⟩ := (Bool.and_eq_true _ _).mp final
  exact ⟨phase, world, taken, buried, dead_letters_arrive .default
    (submission "stripe" 0) (by decide +kernel) queued queuedJob
    assigned_queued arrived_queued phase world
    (worked_of_moves .enqueued taken) finished⟩

/-- The queue refuses the entry of a payment that is dead-lettered and
finalized; the next attempt skips it and is acknowledged. -/
def strandedMoves : List Move :=
  [declined (List.replicate 12 .succeed ++ [.refused "connection lost",
      .succeed]),
    .retry, .deliver (List.replicate 2 .succeed)]

theorem dead_letter_stranded :
    ¬ ∀ (input : CreatePaymentInput) (start : World) (job : Job)
      (phase : Phase) (world : World),
      QueueManager.queueNameFor input.gatewayId ≠ QueueManager.dlqQueueName →
      Assigned input job start → Arrived input.id start →
      Worked .default (fun _ => anyOutcome) input start phase world →
      phase.finished = true → Arrived input.id world := by
  intro arrives
  have ends : (strandedMoves.foldlM (fun state move => pursue .default
      (fun _ => anyOutcome) (submission "stripe" 0) move state)
      (.waiting, queued)).any (fun state =>
        state.1.finished && stranded "p1" state.2) = true := by
    decide +kernel
  obtain ⟨⟨phase, world⟩, taken, final⟩ := (Option.any_eq_true _ _).mp ends
  obtain ⟨finished, left⟩ := (Bool.and_eq_true _ _).mp final
  have arrived : Arrived "p1" world :=
    arrives (submission "stripe" 0) queued queuedJob phase world
      (by decide +kernel) assigned_queued arrived_queued
      (worked_of_moves .enqueued taken) finished
  rw [arrived_iff.mp arrived] at left
  cases left

end PaymentQueue.DeadLetters
