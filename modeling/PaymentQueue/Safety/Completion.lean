import PaymentQueue.Gateway.Log
import PaymentQueue.Outlines.Process
import PaymentQueue.Runtime.Runs

/-!
# Charges after completion

The attempts of one job run one after another, and any command may throw.
The processor saves the completed record first and finalizes the idempotency
record afterwards; only the latter stops the next attempt.  An attempt that is
interrupted in between leaves a completed payment that the next attempt
charges again.
-/

namespace PaymentQueue.Completion

open Await

variable {config : AppConfig}

/-- The stored record is completed. -/
def completed (view : View) : Bool :=
  view.payment.any fun record => decide (record.status = .completed)

/-- The payment is completed, but its idempotency record is not final. -/
def exposed (view : View) : Bool :=
  completed view && !view.finalized

/-- The command stores a completed record of the payment. -/
def persists (id : PaymentId) : Command → Bool
  | .storage (.hsetPayment key record) =>
      decide (key = id) && decide (record.status = .completed)
  | _ => false

/-- The command finalizes the idempotency record of the payment. -/
def finalizes (id : PaymentId) : Command → Bool
  | .storage (.setIdempotency key record _) =>
      decide (key = id) && record.state.final
  | _ => false

/-- Has a completed record been stored? -/
def observe (id : PaymentId) (state : PaymentConfig config) :
    PaymentLabel config → Bool → Bool
  | .run pid choice, persisted =>
      persisted ||
        (!choice.isRefused && (pending state pid).any (persists id))
  | _, persisted => persisted

abbrev Watched (config : AppConfig) : Type :=
  PaymentConfig config × Bool

def watch (id : PaymentId) (label : PaymentLabel config)
    (watched : Watched config) : Option (Watched config) :=
  observed (paymentSystem config).step (observe id) label watched

/-- The attempts of the job run one after another. -/
def attempts (id : PaymentId) (state : PaymentConfig config) :
    PaymentLabel config → Bool
  | .spawn (.process job) =>
      decide (job.data.paymentId = id) && !busy state
  | .spawn _ => false
  | _ => true

/-- The payment is stored as completed or about to be, and not finalized. -/
def closing (id : PaymentId) (world : World) (command : Command) : Bool :=
  !(world.view id).finalized &&
    (completed (world.view id) || persists id command)

/-- A command that throws does not interrupt the completion. -/
def harmless (id : PaymentId) (world : World) (command : Command)
    (choice : Choice) : Bool :=
  choice.faultless || !closing id world command ||
    (choice.isLost && finalizes id command)

/-- From the save of the completed record to the finalization nothing throws
or crashes, and a final record of a completed payment does not expire. -/
def uninterrupted (id : PaymentId) (state : PaymentConfig config) :
    PaymentLabel config → Bool
  | .run pid choice =>
      (pending state pid).all fun command =>
        harmless id state.world command choice
  | .crash _ => !exposed (state.world.view id)
  | .environment (.tick elapsed) =>
      !exposed ((state.world.tick elapsed).view id) ||
        exposed (state.world.view id)
  | _ => true

/-- What an attempt relies on: only the clock moves. -/
structure Rely (before after : View) : Prop where
  stored : after.stored = before.stored
  covered : exposed before = false → exposed after = false
  unfinalized : before.finalized = false → after.finalized = false

/-- A completed payment stays completed and is not charged. -/
structure Guarantee (before after : View) : Prop where
  completed : completed before = true → completed after = true
  log : Completion.completed before = true → after.log = before.log

def Keyed (id : PaymentId) (view : View) : Prop :=
  ∀ record, view.payment = some record → record.id = id

def discipline (config : AppConfig) (id : PaymentId) :
    Discipline (paymentSystem config) where
  invariant := fun world => Keyed id (world.view id)
  rely := fun _ _ before after => Rely (before.view id) (after.view id)
  guarantee := fun _ _ before after =>
    Guarantee (before.view id) (after.view id)
  allowed := fun _ _ command choice world =>
    harmless id world command choice = true
  post := fun _ _ _ world => exposed (world.view id) = false
  rest := fun _ _ _ => True

/-- What an attempt knows at each stage. -/
def Knows : Stage → View → Prop
  | .idle, view | .seen, view => exposed view = false
  | .entered, view | .working, view | .declined, view | .charged _, view
  | .unsettled _, view | .refunded _ _, view | .settled _, view =>
      completed view = false ∧ view.finalized = false
  | .recorded _, view => completed view = true ∧ view.finalized = false
  | .unsure _, view | .completed _, view =>
      completed view = true ∧ exposed view = false
  | .unrecorded _, _ => False
  | _, view => completed view = false

def know (id : PaymentId) (stage : Stage) (world : World) : Prop :=
  Knows stage (world.view id)

section Views

variable {stage : Stage} {view before after : View}

theorem exposed_of_not_completed (unfinished : completed view = false) :
    exposed view = false := by
  simp [exposed, unfinished]

theorem completed_congr (stored : after.stored = before.stored) :
    completed after = completed before := by
  simp only [completed, View.payment, stored]

theorem Rely.refl (view : View) : Rely view view :=
  ⟨rfl, fun covered => covered, fun unfinalized => unfinalized⟩

theorem Rely.trans {first second third : View} (left : Rely first second)
    (right : Rely second third) : Rely first third :=
  ⟨right.stored.trans left.stored,
    fun covered => right.covered (left.covered covered),
    fun unfinalized => right.unfinalized (left.unfinalized unfinalized)⟩

theorem Guarantee.refl (view : View) : Guarantee view view :=
  ⟨fun done => done, fun _ => rfl⟩

theorem Knows.rely (known : Knows stage before) (rely : Rely before after) :
    Knows stage after := by
  have same : completed after = completed before :=
    completed_congr rely.stored
  cases stage with
  | idle | seen => exact rely.covered known
  | entered | working | declined | charged _ | unsettled _ | refunded _ _
  | settled _ => exact ⟨same.trans known.1, rely.unfinalized known.2⟩
  | recorded _ => exact ⟨same.trans known.1, rely.unfinalized known.2⟩
  | unsure _ | completed _ =>
      exact ⟨same.trans known.1, rely.covered known.2⟩
  | unrecorded _ => exact known
  | _ => exact same.trans known

/-- A stage looks only at the record and the idempotency key. -/
theorem Knows.congr (known : Knows stage before)
    (stored : after.stored = before.stored) (key : after.key = before.key) :
    Knows stage after := by
  have finalized : after.finalized = before.finalized := by
    simp only [View.finalized, View.claim, key]
  have same : exposed after = exposed before := by
    simp only [exposed, completed_congr stored, finalized]
  exact known.rely ⟨stored, fun covered => same.trans covered,
    fun unfinalized => finalized.trans unfinalized⟩

end Views

section Moves

variable {id : PaymentId} {pid : Nat} {task : Task} {stage : Stage}

private theorem know_stable (stage : Stage) :
    Stable ((discipline config id).contract pid task) (know id stage) :=
  fun _ _ rely _ known => Knows.rely known rely

theorem unseen : Unseen ((discipline config id).contract pid task) id :=
  unseen_of_view (Keyed id) Guarantee (fun _ => rfl) (fun _ _ => rfl)
    Guarantee.refl

/-- Locks and logs do not matter here, except that a completed payment is not
charged. -/
theorem moves_beside {command : Command}
    {result : Except Thrown command.Result → World → Prop}
    (payments : command.writes .payments = false)
    (idempotency : command.writes .idempotency = false)
    (quiet : command.writes .gateway = false ∨
      ∀ view, Knows stage view → completed view = false)
    (reached : ∀ outcome after, Knows stage (after.view id) →
      (∀ error, outcome = .error error →
        ∃ before, Executes ((discipline config id).contract pid task) pid
          command before (.error error) after) → result outcome after) :
    Moves ((discipline config id).contract pid task) pid command
      (know id stage) result := by
  intro before outcome after known execution
  have stored : after.payments = before.payments :=
    executes_agrees execution payments
  have key : after.idempotency = before.idempotency :=
    executes_agrees execution idempotency
  have sameStored : (after.view id).stored = (before.view id).stored :=
    congrFun stored id
  have sameKey : (after.view id).key = (before.view id).key :=
    congrFun key id
  refine ⟨⟨?_, ?_, ?_⟩, reached outcome after
    (Knows.congr known sameStored sameKey) ?_⟩
  · intro record found
    apply execution.invariant record
    simpa only [View.payment, sameStored] using found
  · intro done
    rw [completed_congr sameStored]
    exact done
  · intro done
    rcases quiet with silent | unfinished
    · have log : after.gateway = before.gateway :=
        executes_agrees execution silent
      exact log
    · rw [unfinished _ known] at done
      cases done
  · rintro error rfl
    exact ⟨before, execution⟩

/-- A storage command that throws did not interrupt the completion. -/
def Harmless (id : PaymentId) (pid : Nat) (command : StorageCommand)
    (before after : World) : Prop :=
  (closing id before (.storage command) = false ∧
    (after = before ∨ after = (command.effect pid before).2)) ∨
  (finalizes id (.storage command) = true ∧
    after = (command.effect pid before).2)

private theorem harmless_of_executes {command : StorageCommand}
    {before after : World} {error : Thrown}
    (execution : Executes ((discipline config id).contract pid task) pid
      (.storage command) before (.error error) after) :
    Harmless id pid command before after := by
  rcases executes_storage execution with
    ⟨-, impossible, -⟩ | ⟨message, -, ⟨allowed, rfl⟩ | ⟨allowed, rfl⟩⟩
  · cases impossible
  · rcases (Bool.or_eq_true _ _).mp allowed with uncommitted | final
    · exact .inl ⟨by simpa [Choice.faultless] using uncommitted, .inr rfl⟩
    · exact .inr ⟨by simpa [Choice.isLost] using final, rfl⟩
  · rcases (Bool.or_eq_true _ _).mp allowed with uncommitted | final
    · exact .inl ⟨by simpa [Choice.faultless] using uncommitted, .inl rfl⟩
    · simp [Choice.isLost] at final

theorem moves_write {command : StorageCommand}
    {result : Except Thrown command.Result → World → Prop}
    (effective : ∀ before, Keyed id (before.view id) → know id stage before →
      Keeps ((discipline config id).contract pid task) before
        (command.effect pid before).2)
    (succeeded : ∀ before, know id stage before →
      result (.ok (command.effect pid before).1)
        (command.effect pid before).2)
    (thrown : ∀ before after error, know id stage before →
      Harmless id pid command before after → result (.error error) after) :
    Moves ((discipline config id).contract pid task) pid (.storage command)
      (know id stage) result := by
  intro before outcome after known execution
  have keyed : Keyed id (before.view id) := execution.invariant
  have kept : Keeps ((discipline config id).contract pid task) before after := by
    rcases executes_storage execution with
      ⟨-, -, rfl⟩ | ⟨message, -, ⟨-, rfl⟩ | ⟨-, rfl⟩⟩
    · exact effective before keyed known
    · exact effective before keyed known
    · exact unseen _ _ keyed rfl
  refine ⟨kept, ?_⟩
  cases outcome with
  | ok value =>
      rcases executes_storage execution with
        ⟨-, same, rfl⟩ | ⟨message, impossible, -⟩
      · cases same
        exact succeeded before known
      · cases impossible
  | error error =>
      exact thrown before after error known (harmless_of_executes execution)

private theorem completed_save {view : View} (record : PaymentRecord) :
    completed { view with stored := some (.parsed record) } =
      decide (record.status = .completed) := rfl

theorem keeps_save {record : PaymentRecord} {before : World}
    (same : record.id = id)
    (stays : completed (before.view id) = true →
      record.status = .completed) :
    Keeps ((discipline config id).contract pid task) before
      ((StorageCommand.hsetPayment id record).effect pid before).2 := by
  constructor
  · show Keyed id (World.view _ id)
    rw [view_hsetPayment]
    intro stored found
    obtain rfl := Option.some.inj found
    exact same
  · show Guarantee (before.view id) (World.view _ id)
    rw [view_hsetPayment]
    refine ⟨fun done => ?_, fun _ => rfl⟩
    rw [completed_save]
    exact decide_eq_true (stays done)

private theorem keeps_setIdempotency {record : IdempotencyRecord}
    {ttlSeconds : Nat}
    {before : World} (keyed : Keyed id (before.view id)) :
    Keeps ((discipline config id).contract pid task) before
      ((StorageCommand.setIdempotency id record ttlSeconds).effect pid
        before).2 := by
  constructor
  · show Keyed id (World.view _ id)
    rw [view_setIdempotency]
    exact keyed
  · show Guarantee (before.view id) (World.view _ id)
    rw [view_setIdempotency]
    exact ⟨fun done => done, fun _ => rfl⟩

/-- A save before the payment is completed. -/
theorem moves_progress {record : PaymentRecord}
    {result : Except Thrown Unit → World → Prop} (same : record.id = id)
    (unfinished : ∀ view, Knows stage view → completed view = false)
    (status : record.status ≠ .completed)
    (reached : ∀ view outcome after, Knows stage view →
      completed (after.view id) = false → (after.view id).key = view.key →
      result outcome after) :
    Moves ((discipline config id).contract pid task) pid
      (.storage (.hsetPayment id record)) (know id stage) result := by
  have saved : ∀ (before : World) outcome, know id stage before →
      result outcome
        ((StorageCommand.hsetPayment id record).effect pid before).2 := by
    intro before outcome known
    apply reached (before.view id) outcome _ known
    · rw [view_hsetPayment, completed_save]
      exact decide_eq_false status
    · rw [view_hsetPayment]
  apply moves_write
  · intro before _ known
    refine keeps_save same fun done => ?_
    rw [unfinished _ known] at done
    cases done
  · exact fun before known => saved before _ known
  · rintro before after error known (⟨-, rfl | rfl⟩ | ⟨impossible, -⟩)
    · exact reached _ _ _ known (unfinished _ known) rfl
    · exact saved before _ known
    · cases impossible

/-- A write of the idempotency record before the payment is completed. -/
theorem moves_mark {record : IdempotencyRecord} {ttlSeconds : Nat}
    {result : Except Thrown Unit → World → Prop}
    (unfinished : ∀ view, Knows stage view → completed view = false)
    (written : ∀ after, completed (after.view id) = false →
      (after.view id).finalized = record.state.final → result (.ok ()) after)
    (thrown : ∀ error after, completed (after.view id) = false →
      result (.error error) after) :
    Moves ((discipline config id).contract pid task) pid
      (.storage (.setIdempotency id record ttlSeconds)) (know id stage)
      result := by
  have still : ∀ before : World, know id stage before →
      completed (((StorageCommand.setIdempotency id record ttlSeconds).effect
        pid before).2.view id) = false := by
    intro before known
    rw [view_setIdempotency]
    exact unfinished (before.view id) known
  apply moves_write
  · exact fun before keyed _ => keeps_setIdempotency keyed
  · intro before known
    apply written _ (still before known)
    rw [view_setIdempotency]
    rfl
  · rintro before after error known (⟨-, rfl | rfl⟩ | ⟨-, rfl⟩)
    · exact thrown _ _ (unfinished _ known)
    · exact thrown _ _ (still before known)
    · exact thrown _ _ (still before known)

private theorem moves_record {record : PaymentRecord} (transactionId : String)
    (carried : Carries id .completed (some transactionId) record) :
    Moves ((discipline config id).contract pid task) pid
      (.storage (.hsetPayment id record)) (know id (.settled transactionId))
      (fun outcome => know id (if outcome.isOk = true then
        .recorded transactionId else .unrecorded transactionId)) := by
  apply moves_write
  · exact fun before _ _ => keeps_save carried.id fun _ => carried.status
  · intro before known
    show Knows (.recorded transactionId) (World.view _ id)
    rw [view_hsetPayment]
    exact ⟨decide_eq_true carried.status, known.2⟩
  · rintro before after error known (⟨uncommitted, -⟩ | ⟨impossible, -⟩)
    · have unfinalized : (before.view id).finalized = false := known.2
      simp [closing, unfinalized, persists, carried.status] at uncommitted
    · cases impossible

private theorem moves_readRecorded (transactionId : String) :
    Moves ((discipline config id).contract pid task) pid
      (.storage (.getIdempotency id)) (know id (.recorded transactionId))
      (fun outcome => know id (if outcome.isOk = true then
        .recorded transactionId else .unsure transactionId)) := by
  apply moves_write
  · exact fun before keyed _ => unseen _ _ keyed rfl
  · exact fun before known => known
  · rintro before after error known (⟨uncommitted, -⟩ | ⟨impossible, -⟩)
    · have unfinalized : (before.view id).finalized = false := known.2
      have done : completed (before.view id) = true := known.1
      simp [closing, unfinalized, done] at uncommitted
    · cases impossible

private theorem moves_complete {record : IdempotencyRecord} {ttlSeconds : Nat}
    (transactionId : String) (final : record.state.final = true) :
    Moves ((discipline config id).contract pid task) pid
      (.storage (.setIdempotency id record ttlSeconds))
      (know id (.recorded transactionId))
      (fun outcome => know id (if outcome.isOk = true then
        .completed transactionId else .unsure transactionId)) := by
  have finalized : ∀ before : World, know id (.recorded transactionId) before →
      Knows (.completed transactionId)
        (((StorageCommand.setIdempotency id record ttlSeconds).effect pid
          before).2.view id) := by
    intro before known
    rw [view_setIdempotency]
    refine ⟨known.1, ?_⟩
    simp [exposed, View.finalized, View.claim, readsFinal, Stored.parse?,
      final]
  apply moves_write
  · exact fun before keyed _ => keeps_setIdempotency keyed
  · exact fun before known => finalized before known
  · rintro before after error known (⟨uncommitted, -⟩ | ⟨-, rfl⟩)
    · have unfinalized : (before.view id).finalized = false := known.2
      have done : completed (before.view id) = true := known.1
      simp [closing, unfinalized, done] at uncommitted
    · exact finalized before known

/-- What is known in the saga. -/
theorem knows_inSaga {view : View} (inSaga : stage.inSaga = true) :
    Knows stage view ↔ completed view = false ∧ view.finalized = false := by
  cases stage <;> first | exact Iff.rfl | cases inSaga

/-- What is known of a completed payment when an attempt is about to end. -/
theorem knows_closing {view : View} {transactionId : String}
    (known : Knows stage view) (closing : stage.closing = some transactionId) :
    completed view = true ∧ exposed view = false := by
  cases stage with
  | unsure _ | completed _ => exact known
  | unrecorded _ => exact known.elim
  | _ => cases closing

/-- The record of a completed payment may be saved again. -/
theorem Knows.resave {view : View} {record : PaymentRecord}
    {transactionId : String} (known : Knows stage view)
    (closing : stage.closing = some transactionId)
    (status : record.status = .completed) :
    Knows stage { view with stored := some (.parsed record) } := by
  obtain ⟨done, covered⟩ := knows_closing known closing
  have still : completed { view with stored := some (.parsed record) } =
      true ∧ exposed { view with stored := some (.parsed record) } = false := by
    refine ⟨decide_eq_true status, ?_⟩
    rw [exposed, done, Bool.true_and] at covered
    rw [exposed, Bool.and_eq_false_iff]
    exact .inr covered
  cases stage with
  | unsure _ | completed _ => exact still
  | unrecorded _ => exact known.elim
  | _ => cases closing

private theorem moves_book {command : Command}
    (allowed : bookkeeping id stage command) :
    Moves ((discipline config id).contract pid task) pid command
      (know id stage) (fun _ => know id stage) := by
  rcases bookkeeping_cases allowed with ⟨record, rfl, fits⟩ | invisible
  · rcases fits with ⟨inSaga, carried⟩ | ⟨transactionId, closing, carried⟩
    · refine moves_progress carried.id
        (fun view known => ((knows_inSaga inSaga).mp known).1)
        (by simp [carried.status]) ?_
      intro view outcome after known unfinished key
      refine (knows_inSaga inSaga).mpr ⟨unfinished, ?_⟩
      rw [View.finalized, View.claim, key]
      exact ((knows_inSaga inSaga).mp known).2
    · have saved : ∀ before : World, know id stage before → know id stage
          ((StorageCommand.hsetPayment id record).effect pid before).2 := by
        intro before known
        rw [know, view_hsetPayment]
        exact known.resave closing carried.status
      apply moves_write
      · exact fun before _ _ => keeps_save carried.id fun _ => carried.status
      · exact saved
      · rintro before after error known (⟨-, rfl | rfl⟩ | ⟨impossible, -⟩)
        · exact known
        · exact saved before known
        · cases impossible
  · exact unseen.moves (Knows stage) invisible fun _ _ known => known

/-- The attempt does not end between the save and the finalization. -/
theorem exposed_of_explains {faults : Prop} {view : View}
    {result : Except Thrown ProcessResult}
    (explained : Explains faults id stage result) (known : Knows stage view) :
    exposed view = false := by
  cases stage with
  | idle | seen => exact known
  | entered | working | declined | charged _ | unsettled _ | refunded _ _
  | settled _ => exact exposed_of_not_completed known.1
  | recorded _ =>
      cases result <;>
        simp [Explains, Stage.inSaga, Stage.closing] at explained
  | unsure _ | completed _ => exact known.2
  | unrecorded _ => exact known.elim
  | _ => exact exposed_of_not_completed known

theorem burial (unfinished : ∀ view, Knows stage view →
    completed view = false) :
    BurialOutline ((discipline config id).contract pid task) pid id (know id)
      stage where
  stable := know_stable
  lookup := by
    apply unseen.moves_load
    · intro world keyed known
      exact latest_of_found keyed known fun _ => unfinished _ known
    · exact fun world message known => unfinished _ known
  bury := fun record reason same status _ => moves_progress same unfinished
    (by simp [status]) fun view outcome after _ still _ => by
      cases outcome <;> exact still
  readBuried := fun reason => unseen.moves (Knows (.buried reason)) rfl
    fun outcome after known => by cases outcome <;> exact known
  fail := fun reason previous now => moves_mark (fun _ known => known)
    (fun after still _ => still) (fun _ after still => still)
  audit := fun reason event => unseen.moves (Knows (.failed reason)) rfl
    fun outcome after known => by cases outcome <;> exact known
  emit := fun reason event => unseen.moves (Knows (.failed reason)) rfl
    fun outcome after known => by cases outcome <;> exact known
  ready := fun reason => unseen.moves (Knows (.failed reason)) rfl
    fun outcome after known => by cases outcome <;> exact known
  route := fun entry _ => unseen.moves (Knows (.failed entry.reason)) rfl
    fun outcome after known => by cases outcome <;> exact known

/-- How an attempt ends. -/
def ends (id : PaymentId) (_ : Except Thrown ProcessResult) (world : World) :
    Prop :=
  exposed (world.view id) = false

private theorem moves_check :
    Moves ((discipline config id).contract pid task) pid
      (.storage (.getIdempotency id)) (know id .seen)
      (Continues (fun raw => Checks id (know id) (ends id)
        (raw.bind Stored.parse?)) (ends id)) := by
  apply unseen.moves_claim
  · intro world _ covered
    rw [Continues, claim_read, Checks]
    split
    case isTrue => exact fun _ => covered
    case isFalse unfinalized =>
      show completed (world.view id) = false
      have known : exposed (world.view id) = false := covered
      rw [exposed, View.finalized, eq_false_of_ne_true unfinalized] at known
      simpa using known
  · exact fun world message covered => covered

private theorem processOutline (id : PaymentId) (pid : Nat) (task : Task) :
    ProcessOutline ((discipline config id).contract pid task) pid id True
      (know id) (ends id) where
  stable := know_stable
  faulty := fun _ _ _ _ _ _ => trivial
  book := fun stage command _ => moves_book
  charge := fun payment correlationId _ =>
    moves_beside rfl rfl (.inr fun _ known => known.1) <| by
      intro outcome after known thrown
      match outcome with
      | .ok (.ok transactionId httpStatus) => exact known
      | .ok (.fail error) => exact known
      | .error error =>
          obtain ⟨before, execution⟩ := thrown error rfl
          exact (guardCall_returns execution).elim
  append := fun entry _ =>
    moves_beside rfl rfl (.inl rfl) fun outcome after known _ => by
      cases outcome <;> exact known
  refund := fun gatewayId transactionId =>
    moves_beside rfl rfl (.inr fun _ known => known.1) <| by
      intro outcome after known thrown
      match outcome with
      | .ok (.ok refundId httpStatus) => exact known
      | .ok (.fail error) => exact known
      | .error error =>
          obtain ⟨before, execution⟩ := thrown error rfl
          exact (guardRefund_returns execution).elim
  load := by
    apply unseen.moves_load
    · intro world keyed covered
      show Loads id (know id) (ends id) (world.view id).payment world
      cases found : (world.view id).payment with
      | none => exact fun _ => covered
      | some record => exact ⟨keyed record found, covered⟩
    · exact fun world message covered => covered
  check := moves_check
  lock := moves_beside rfl rfl (.inl rfl) fun outcome after known _ => by
    have covered := exposed_of_not_completed known
    match outcome with
    | .error error => exact covered
    | .ok true => exact known
    | .ok false => exact fun _ => covered
  readLocked := unseen.moves (Knows .locked) rfl fun outcome after known => by
    cases outcome with
    | ok raw => exact known
    | error error => exact exposed_of_not_completed known
  enter := fun claimedAt now => moves_mark (fun _ known => known)
    (fun after still unfinalized => ⟨still, unfinalized⟩)
    (fun error after still => exposed_of_not_completed still)
  begin := by
    intro record carried
    rw [carried.id]
    refine moves_progress carried.id (fun _ known => known.1)
      (by simp [carried.status]) ?_
    intro view outcome after known still key
    cases outcome with
    | error error => exact still
    | ok _ =>
        refine ⟨still, ?_⟩
        rw [View.finalized, View.claim, key]
        exact known.2
  record := fun record transactionId => moves_record transactionId
  readRecorded := moves_readRecorded
  complete := fun transactionId previous now =>
    moves_complete transactionId rfl
  burial := by
    rintro stage failure (rfl | ⟨-, transactionId, succeeded, rfl⟩)
    · exact burial fun _ known => known.1
    · exact burial fun _ known => known.1
  release := fun stage result explained =>
    moves_beside rfl rfl (.inl rfl) fun outcome after known _ => by
      have covered := exposed_of_explains explained known
      cases outcome <;> exact covered

end Moves

section Runs

variable {id : PaymentId} {state next : PaymentConfig config}
  {label : PaymentLabel config}

/-- What is known of a configuration between two steps. -/
structure Orderly (id : PaymentId) (state : PaymentConfig config) : Prop where
  sequential : Sequential state
  workers : ∀ (pid : Nat) task program,
    state.threads[pid]? = some (.running task program) →
    task.submits = false
  calm : busy state = false → exposed (state.world.view id) = false

/-- The steps that are considered. -/
structure Admitted (id : PaymentId) (state : PaymentConfig config)
    (label : PaymentLabel config) : Prop where
  orderly : Orderly id state
  attempts : attempts id state label = true
  uninterrupted : uninterrupted id state label = true

theorem attempts_spawn {task : Task}
    (admitted : attempts id state (.spawn task) = true) :
    busy state = false ∧ ∃ job, task = .process job ∧
      job.data.paymentId = id := by
  cases task with
  | process job =>
      simp only [attempts, Bool.and_eq_true, decide_eq_true_eq,
        Bool.not_eq_true'] at admitted
      exact ⟨admitted.2, job, rfl, admitted.1⟩
  | submit input => cases admitted
  | handleJobFailure jobData error => cases admitted

/-- The clock neither completes nor finalizes, and BullMQ changes nothing. -/
theorem rely_environment {event : Event} {after : World}
    (admitted : uninterrupted id state (.environment event) = true)
    (changed : environment event state.world = some after) :
    Rely (state.world.view id) (after.view id) := by
  cases event with
  | tick elapsed =>
      cases changed
      refine ⟨view_tick_stored _ _ _, ?_, view_tick_unfinalized _ _ _⟩
      intro covered
      simpa [uninterrupted, covered] using admitted
  | activate queue jobId | complete queue jobId | fail queue jobId =>
      rw [view_environment rfl changed]
      exact .refl _

theorem sound (id : PaymentId) :
    (discipline config id).Sound (Admitted id) where
  relyRefl := fun _ _ world => .refl (world.view id)
  relyTrans := fun _ _ _ _ _ left right => left.trans right
  spawns := by
    intro state task _ admitted
    obtain ⟨idle, job, rfl, same⟩ := attempts_spawn admitted.attempts
    exact (processOutline id _ _).safe_code same (admitted.orderly.calm idle)
      (fun _ _ ended => ended) _
  permits := by
    intro state pid choice task command resume _ admitted found
    have allowed := admitted.uninterrupted
    rw [uninterrupted, pending_eq_of_running found] at allowed
    exact allowed
  interferes := by
    intro state pid choice task program other task' program' next _ admitted _
      found different found' _ _
    have orderly := admitted.orderly
    exact (different (orderly.sequential other pid task' task program' program
      found' found (orderly.workers other task' program' found')
      (orderly.workers pid task program found))).elim
  environments := by
    intro state event after holds admitted changed
    have rely := rely_environment admitted.uninterrupted changed
    refine ⟨?_, fun _ _ _ _ => rely, fun _ _ _ _ => trivial⟩
    intro record found
    apply holds.invariant record
    simpa only [View.payment, rely.stored] using found

private theorem calm_step (holds : (discipline config id).Holds state)
    (admitted : Admitted id state label)
    (taken : (paymentSystem config).step label state = some next)
    (idle : busy next = false) : exposed (next.world.view id) = false := by
  cases label with
  | spawn task =>
      cases taken
      apply admitted.orderly.calm
      rw [busy, List.any_append, Bool.or_eq_false_iff] at idle
      exact idle.1
  | run pid choice =>
      obtain ⟨task, program, program', found, threads, -, -, rest⟩ :=
        (sound id).run holds admitted taken
      cases program' with
      | done output => exact rest
      | await command resume =>
          have inside : pid < state.threads.length :=
            (List.getElem?_eq_some_iff.mp found).1
          have running : next.threads[pid]? =
              some (.running task (.await command resume)) := by
            rw [threads, List.getElem?_set_self inside]
            rfl
          rw [busy_of_running running
            (admitted.orderly.workers pid task program found)] at idle
          cases idle
  | crash pid =>
      obtain ⟨task, program, -, rfl⟩ := System.step_crash_eq_some taken
      simpa [uninterrupted] using admitted.uninterrupted
  | environment event =>
      obtain ⟨after, changed, rfl⟩ := System.step_environment_eq_some taken
      exact (rely_environment admitted.uninterrupted changed).covered
        (admitted.orderly.calm idle)

private theorem orderly_step (holds : (discipline config id).Holds state)
    (admitted : Admitted id state label)
    (taken : (paymentSystem config).step label state = some next) :
    Orderly id next where
  sequential := by
    refine sequential_step admitted.orderly.sequential ?_ taken
    rintro task rfl -
    exact (attempts_spawn admitted.attempts).1
  workers := by
    intro pid task program running
    rcases System.running_step taken running with
      ⟨earlier, found, -⟩ | ⟨rfl, -, -⟩
    · exact admitted.orderly.workers pid task earlier found
    · obtain ⟨-, job, rfl, -⟩ := attempts_spawn admitted.attempts
      rfl
  calm := calm_step holds admitted taken

/-- A completed record was stored by the command. -/
theorem completed_of_persists {tokenWaitMs pid : Nat} {command : Command}
    {choice : Choice} {before after : World}
    {outcome : Except Thrown command.Result}
    (executed : exec tokenWaitMs pid command choice before =
      some (outcome, after))
    (persisted : persists id command = true)
    (effective : choice.isRefused = false) :
    completed (after.view id) = true := by
  cases command with
  | storage command =>
      cases command with
      | hsetPayment key record =>
          simp only [persists, Bool.and_eq_true, decide_eq_true_eq]
            at persisted
          obtain ⟨rfl, status⟩ := persisted
          rcases exec_storage executed with ⟨refused, -, -⟩ | ⟨-, rfl, -⟩
          · rw [refused] at effective
            cases effective
          · rw [view_hsetPayment]
            exact decide_eq_true status
      | _ => cases persisted
  | guardCall _ _ | guardRefund _ _ | emit _ => cases persisted

private theorem persisted_step (holds : (discipline config id).Holds state)
    (admitted : Admitted id state label)
    (taken : (paymentSystem config).step label state = some next)
    {persisted : Bool}
    (before : persisted = true → completed (state.world.view id) = true)
    (after : observe id state label persisted = true) :
    completed (next.world.view id) = true := by
  cases label with
  | spawn task =>
      cases taken
      exact before after
  | run pid choice =>
      rw [observe, Bool.or_eq_true] at after
      rcases after with earlier | stored
      · obtain ⟨task, program, program', -, -, -, guarantee, -⟩ :=
          (sound id).run holds admitted taken
        exact guarantee.completed (before earlier)
      · rw [Bool.and_eq_true, Bool.not_eq_true'] at stored
        obtain ⟨command, suspended, persists⟩ :=
          (Option.any_eq_true _ _).mp stored.2
        obtain ⟨task, command', resume, outcome, world, found, executed, rfl⟩ :=
          System.step_run_eq_some taken
        rw [pending_eq_of_running found] at suspended
        obtain rfl := Option.some.inj suspended
        exact completed_of_persists executed persists stored.1
  | crash pid =>
      obtain ⟨task, program, -, rfl⟩ := System.step_crash_eq_some taken
      exact before after
  | environment event =>
      obtain ⟨world, changed, rfl⟩ := System.step_environment_eq_some taken
      rw [completed_congr
        (rely_environment admitted.uninterrupted changed).stored]
      exact before after

/-- No process is about to call the gateway for a completed payment. -/
theorem not_pending_guardCall (holds : (discipline config id).Holds state)
    (done : completed (state.world.view id) = true) (pid : Nat)
    (payment : PaymentRecord) (correlationId : Option String) :
    pending state pid ≠ some (.guardCall payment correlationId) := by
  intro suspended
  obtain ⟨task, resume, found⟩ := running_of_pending suspended
  have safe := holds.threads pid
  rw [found] at safe
  obtain ⟨⟨-, guarantee⟩, -⟩ := safe state.world _ _ (Rely.refl _)
    ⟨holds.invariant, .guard (.answered (.ok "" 200)), rfl, rfl⟩
  have same := guarantee.log done
  simp [World.view, GuardResponse.events] at same

structure Inv (id : PaymentId) (watched : Watched config) : Prop where
  holds : (discipline config id).Holds watched.1
  orderly : Orderly id watched.1
  persisted : watched.2 = true → completed (watched.1.world.view id) = true

theorem Inv.step {watched next : Watched config} (inv : Inv id watched)
    (started : attempts id watched.1 label = true)
    (closed : uninterrupted id watched.1 label = true)
    (taken : watch id label watched = some next) : Inv id next := by
  have admitted : Admitted id watched.1 label := ⟨inv.orderly, started, closed⟩
  obtain ⟨moved, same⟩ := observed_eq_some.mp taken
  refine ⟨(sound id).step inv.holds admitted moved,
    orderly_step inv.holds admitted moved, ?_⟩
  intro stored
  rw [same] at stored
  exact persisted_step inv.holds admitted moved inv.persisted stored

end Runs

/-- A stored payment that is not completed yet. -/
structure Waiting (id : PaymentId) (world : World) : Prop where
  keyed : ∀ record, world.payment id = some record → record.id = id
  unfinished : completed (world.view id) = false

theorem Inv.initially {id : PaymentId} {world : World}
    (waiting : Waiting id world) :
    Inv id ((initially world, false) : Watched config) where
  holds := Discipline.holds_nil waiting.keyed fun _ => trivial
  orderly :=
    { sequential := fun _ _ _ _ _ _ found => by cases found
      workers := fun _ _ _ found => by cases found
      calm := fun _ => exposed_of_not_completed waiting.unfinished }
  persisted := fun impossible => by cases impossible

/-- When nothing interrupts an attempt between the save of the completed record
and the finalization, no later attempt calls the gateway. -/
theorem completed_not_charged (config : AppConfig) (id : PaymentId)
    (world : World) (waiting : Waiting id world) (watched : Watched config)
    (reached : Reaches (watch id) (fun watched label =>
      (attempts id watched.1 label && uninterrupted id watched.1 label) = true)
      (initially world, false) watched)
    (persisted : watched.2 = true) (pid : Nat) (payment : PaymentRecord)
    (correlationId : Option String) :
    pending watched.1 pid ≠ some (.guardCall payment correlationId) := by
  have inv : Inv id watched := by
    apply reached.invariant (Inv.initially waiting)
    intro watched label next inv admitted taken
    obtain ⟨started, closed⟩ := (Bool.and_eq_true _ _).mp admitted
    exact inv.step started closed taken
  exact not_pending_guardCall inv.holds (inv.persisted persisted) pid payment
    correlationId

/-- The world after payment `p1` was accepted. -/
def accepted : World :=
  { World.empty 0 with
    payments := Function.update (World.empty 0).payments "p1"
      (some (.parsed (createPaymentRecord
        (PaymentService.newPayment (submission "stripe" 0)) 0))) }

private theorem waiting_accepted : Waiting "p1" accepted := by
  constructor
  · intro record found
    obtain rfl := Option.some.inj found
    rfl
  · decide +kernel

/-- The release of the lock throws although it took effect, and the next attempt
is under way. -/
def retried : List (PaymentLabel .default) :=
  [.spawn (.process (delivery 0))] ++ runs 0 11 ++ [accepts 0 "tx1"] ++
    runs 0 12 ++ [.run 0 (.lost "timeout"), .spawn (.process (delivery 1))] ++
    runs 1 1

theorem completed_not_charged_retried :
    ∃ watched : Watched .default, watched.2 = true ∧
      busy watched.1 = true ∧ ∀ payment correlationId,
        pending watched.1 1 ≠ some (.guardCall payment correlationId) := by
  obtain ⟨watched, reached, checked⟩ := exists_of_replay
    (watch "p1") (fun watched label =>
      attempts "p1" watched.1 label && uninterrupted "p1" watched.1 label)
    retried (initially accepted, false)
    (fun watched => watched.2 && busy watched.1) (by decide +kernel)
  obtain ⟨persisted, runs⟩ := (Bool.and_eq_true _ _).mp checked
  exact ⟨watched, persisted, runs, completed_not_charged .default "p1" accepted
    waiting_accepted watched reached persisted 1⟩

/-- The read in `finalize` throws after the completed record was saved, and the
next attempt comes to its charge. -/
def interrupted : List (PaymentLabel .default) :=
  [.spawn (.process (delivery 0))] ++ runs 0 11 ++ [accepts 0 "tx1"] ++
    runs 0 7 ++ [.run 0 (.refused "connection lost")] ++ runs 0 3 ++
    [.spawn (.process (delivery 1))] ++ runs 1 11

/-- The command asks the gateway to charge the payment. -/
def charges (id : PaymentId) : Command → Bool
  | .guardCall payment _ => decide (payment.id = id)
  | _ => false

theorem charged_again :
    ∃ (watched : Watched .default) (payment : PaymentRecord)
        (correlationId : Option String),
      Waiting "p1" accepted ∧
      Reaches (watch "p1")
        (fun watched label => attempts "p1" watched.1 label = true)
        (initially accepted, false) watched ∧
      watched.2 = true ∧
      pending watched.1 1 = some (.guardCall payment correlationId) ∧
      payment.id = "p1" ∧
      unrefunded "p1" watched.1.world.gateway = 1 := by
  obtain ⟨watched, reached, checked⟩ := exists_of_replay
    (watch "p1") (fun watched label => attempts "p1" watched.1 label)
    interrupted (initially accepted, false)
    (fun watched => watched.2 &&
      (pending watched.1 1).any (charges "p1") &&
      decide (unrefunded "p1" watched.1.world.gateway = 1))
    (by decide +kernel)
  simp only [Bool.and_eq_true, decide_eq_true_eq] at checked
  obtain ⟨⟨persisted, calls⟩, charged⟩ := checked
  obtain ⟨command, suspended, calls⟩ := (Option.any_eq_true _ _).mp calls
  cases command with
  | guardCall payment correlationId =>
      exact ⟨watched, payment, correlationId, waiting_accepted, reached,
        persisted, suspended, of_decide_eq_true calls, charged⟩
  | storage _ | guardRefund _ _ | emit _ => cases calls

end PaymentQueue.Completion
