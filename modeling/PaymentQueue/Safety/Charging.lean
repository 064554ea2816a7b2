import PaymentQueue.Gateway.Log
import PaymentQueue.Outlines.Process
import PaymentQueue.Outlines.Submit
import PaymentQueue.Runtime.Runs

/-!
# Charges under duplicate delivery

One submission of a payment and any number of executions of its job run at
the same time.  The execution lock lets one execution at a time reach the
gateway, but the final-state check is made before the lock is taken: an
execution that has read the idempotency record before another one finalizes
it may take the lock afterwards and charge again.
-/

namespace PaymentQueue.Charging

open Await

variable {config : AppConfig}

/-- One submission of the payment and any number of executions.  Nothing
crashes or expires, and only the ledger append may throw. -/
def admits (id : PaymentId) (state : PaymentConfig config) :
    PaymentLabel config → Bool
  | .spawn (.submit input) =>
      decide (input.id = id) && !submissionStarted state &&
        (state.world.payments id).isNone
  | .spawn (.process job) => decide (job.data.paymentId = id)
  | .spawn (.handleJobFailure _ _) => false
  | .run pid choice =>
      choice.faultless || (pending state pid).any Command.settles
  | .crash _ => false
  | .environment event => keepsKeys id state.world event

/-- A payment that nobody has submitted or charged yet. -/
structure Untouched (id : PaymentId) (world : World) : Prop where
  payment : world.payments id = none
  lock : world.locks id = none
  charges : unrefunded id world.gateway = 0

/-- Charges are counted at most once, and not at all while the payment is
neither locked nor finalized. -/
structure Inv (id : PaymentId) (view : View) : Prop where
  absent : view.stored = none →
    view.lock = none ∧ unrefunded id view.log = 0
  keyed : ∀ record, view.payment = some record → record.id = id
  free : view.lock = none → view.finalized = false →
    unrefunded id view.log = 0
  once : unrefunded id view.log ≤ 1

/-- What the holder of the lock relies on. -/
structure Undisturbed (id : PaymentId) (before after : View) : Prop where
  stored : after.stored = before.stored
  lock : after.lock = before.lock
  finalized : after.finalized = before.finalized
  charges : unrefunded id after.log = unrefunded id before.log

structure Rely (id : PaymentId) (pid : Nat) (task : Task)
    (before after : View) : Prop where
  stored : before.stored ≠ none → after.stored ≠ none
  held : before.owner = some pid → Undisturbed id before after
  absent : task.submits = true → before.stored = none → after.stored = none

structure Guarantee (id : PaymentId) (pid : Nat) (task : Task)
    (before after : View) : Prop where
  stored : before.stored ≠ none → after.stored ≠ none
  held : ∀ other, other ≠ pid → before.owner = some other →
    Undisturbed id before after
  absent : task.submits = false → before.stored = none → after.stored = none

def discipline (config : AppConfig) (id : PaymentId) :
    Discipline (paymentSystem config) where
  invariant := fun world => Inv id (world.view id)
  rely := fun pid task before after =>
    Rely id pid task (before.view id) (after.view id)
  guarantee := fun pid task before after =>
    Guarantee id pid task (before.view id) (after.view id)
  allowed := fun _ _ command choice world =>
    (choice.faultless || command.settles) = true ∧
      (command = .storage (.setNxLock id config.leaseTtlSeconds) →
        world.locks id = none → world.finalized id = false)
  post := fun _ _ _ _ => True
  rest := fun _ _ _ => True

theorem Undisturbed.refl (id : PaymentId) (view : View) :
    Undisturbed id view view :=
  ⟨rfl, rfl, rfl, rfl⟩

theorem Undisturbed.trans {id : PaymentId} {first second third : View}
    (left : Undisturbed id first second)
    (right : Undisturbed id second third) : Undisturbed id first third :=
  ⟨right.stored.trans left.stored, right.lock.trans left.lock,
    right.finalized.trans left.finalized, right.charges.trans left.charges⟩

theorem Undisturbed.owner {id : PaymentId} {before after : View}
    (undisturbed : Undisturbed id before after) :
    after.owner = before.owner := by
  simp only [View.owner, undisturbed.lock]

section Contract

variable {id : PaymentId} {pid : Nat} {task : Task} {view after : View}

theorem Guarantee.refl (view : View) : Guarantee id pid task view view :=
  ⟨fun stored => stored, fun _ _ _ => .refl id view,
    fun _ absent => absent⟩

/-- A step of the lock holder disturbs nobody. -/
theorem Guarantee.of_owner (owned : view.owner = some pid)
    (inv : Inv id view) (stored : after.stored ≠ none) :
    Guarantee id pid task view after where
  stored := fun _ => stored
  held := by
    intro other different owner
    rw [owned] at owner
    exact (different (Option.some.inj owner).symm).elim
  absent := by
    intro _ absent
    rw [View.owner, (inv.absent absent).1] at owned
    cases owned

theorem Inv.of_locked (stored : after.stored ≠ none) (lock : after.lock ≠ none)
    (keyed : ∀ record, after.payment = some record → record.id = id)
    (once : unrefunded id after.log ≤ 1) : Inv id after :=
  ⟨fun absent => (stored absent).elim, keyed, fun free => (lock free).elim,
    once⟩

theorem faultless {command : Command} (other : command.settles = false) :
    Faultless ((discipline config id).contract pid task) command := by
  intro choice before allowed
  have clean := allowed.1
  rw [other, Bool.or_false] at clean
  exact clean

end Contract

/-- What an execution knows at each stage. -/
def Knows (id : PaymentId) (pid : Nat) : Stage → View → Prop
  | .idle, _ => True
  | .seen, view | .checked, view => view.stored ≠ none
  | .locked, view | .entered, view =>
      view.owner = some pid ∧ view.stored ≠ none ∧ unrefunded id view.log = 0
  | .working, view | .declined, view =>
      view.owner = some pid ∧
        (∃ record, view.payment = some record ∧ record.status = .processing) ∧
        unrefunded id view.log = 0
  | .charged _, view | .unsettled _, view | .refunded _ _, view
  | .settled _, view =>
      view.owner = some pid ∧
        ∃ record, view.payment = some record ∧ record.status = .processing
  | .recorded _, view | .buried _, view =>
      view.owner = some pid ∧ view.stored ≠ none
  | .completed _, view | .failed _, view | .routed _, view =>
      view.owner = some pid ∧ view.stored ≠ none ∧ view.finalized = true
  | .unrecorded _, _ | .unsure _, _ | .terminal, _ | .aborted, _ => False

def know (id : PaymentId) (pid : Nat) (stage : Stage) (world : World) : Prop :=
  Knows id pid stage (world.view id)

section Stages

variable {id : PaymentId} {pid : Nat} {task : Task} {stage : Stage}
  {view after : View}

/-- From the lock on, the execution owns the lock and the record exists. -/
theorem Knows.held (known : Knows id pid stage view)
    (locked : stage.holdsLock = true) :
    view.owner = some pid ∧ view.stored ≠ none := by
  have present : (∃ record, view.payment = some record ∧
      record.status = .processing) → view.stored ≠ none := by
    rintro ⟨record, found, -⟩ absent
    simp [View.payment, absent] at found
  cases stage with
  | idle | seen | checked => cases locked
  | locked | entered | completed _ | failed _ | routed _ =>
      exact ⟨known.1, known.2.1⟩
  | working | declined => exact ⟨known.1, present known.2.1⟩
  | charged _ | unsettled _ | refunded _ _ | settled _ =>
      exact ⟨known.1, present known.2⟩
  | recorded _ | buried _ => exact known
  | unrecorded _ | unsure _ | terminal | aborted => exact known.elim

theorem Knows.undisturbed (undisturbed : Undisturbed id view after)
    (known : Knows id pid stage view) : Knows id pid stage after := by
  have payment : after.payment = view.payment := by
    simp only [View.payment, undisturbed.stored]
  have same : Knows id pid stage after = Knows id pid stage view := by
    cases stage <;>
      simp only [Knows, undisturbed.owner, undisturbed.stored, payment,
        undisturbed.finalized, undisturbed.charges]
  rw [same]
  exact known

private theorem know_stable (stage : Stage) :
    Stable ((discipline config id).contract pid task) (know id pid stage) := by
  intro first second rely _ known
  cases locked : stage.holdsLock with
  | true =>
      exact Knows.undisturbed (rely.held (Knows.held known locked).1) known
  | false =>
      cases stage with
      | idle => exact trivial
      | seen | checked => exact rely.stored known
      | _ => cases locked

theorem unseen :
    Unseen ((discipline config id).contract pid task) id :=
  unseen_of_view (Inv id) (Guarantee id pid task) (fun _ => rfl) (fun _ _ => rfl)
    Guarantee.refl

/-- Commands that are not visible in the view keep the stage. -/
theorem moves_invisible {command : Command}
    {result : Except Thrown command.Result → World → Prop}
    (invisible : command.invisible = true)
    (reached : ∀ value after, know id pid stage after →
      result (.ok value) after) :
    Moves ((discipline config id).contract pid task) pid command
      (know id pid stage) result := by
  have clean : command.settles = false := by
    cases command with
    | storage command => cases command <;> first | rfl | cases invisible
    | guardCall _ _ | guardRefund _ _ | emit _ => rfl
  exact unseen.moves_faultless (faultless clean) (Knows id pid stage)
    invisible reached

private theorem moves_load {result : Option PaymentRecord → World → Prop}
    {ends : Except Thrown ProcessResult → World → Prop}
    (reached : ∀ world, Inv id (world.view id) → know id pid stage world →
      result (world.view id).payment world) :
    Moves ((discipline config id).contract pid task) pid
      (.storage (.hgetPayment id)) (know id pid stage)
      (Continues (fun doc => result (doc.bind Stored.parse?)) ends) := by
  apply (faultless rfl).moves_storage
  intro before known inv _
  exact ⟨unseen _ _ inv rfl, reached before inv known⟩

/-- A write of the lock holder. -/
theorem moves_owned {command : StorageCommand}
    {result : Except Thrown command.Result → World → Prop}
    (clean : (Command.storage command).settles = false)
    (locked : stage.holdsLock = true)
    (step : ∀ before, Inv id (before.view id) →
      Knows id pid stage (before.view id) →
      Inv id ((command.effect pid before).2.view id) ∧
        ((command.effect pid before).2.view id).stored ≠ none ∧
        result (.ok (command.effect pid before).1)
          (command.effect pid before).2) :
    Moves ((discipline config id).contract pid task) pid (.storage command)
      (know id pid stage) result := by
  apply (faultless clean).moves_storage
  intro before known inv _
  obtain ⟨kept, stored, reached⟩ := step before inv known
  exact ⟨⟨kept, .of_owner (Knows.held known locked).1 inv stored⟩, reached⟩

/-- The lock holder saves a record of the payment. -/
theorem moves_save {record : PaymentRecord} (next : Stage)
    {result : Except Thrown Unit → World → Prop}
    (locked : stage.holdsLock = true) (same : record.id = id)
    (changes : ∀ view, Knows id pid stage view →
      Knows id pid next { view with stored := some (.parsed record) })
    (reached : ∀ after, know id pid next after → result (.ok ()) after) :
    Moves ((discipline config id).contract pid task) pid
      (.storage (.hsetPayment id record)) (know id pid stage) result := by
  refine moves_owned rfl locked fun before inv known => ?_
  obtain ⟨owned, -⟩ := Knows.held known locked
  rw [view_hsetPayment]
  refine ⟨Inv.of_locked nofun ?_ ?_ inv.once, nofun, reached _ ?_⟩
  · intro free
    rw [View.owner, free] at owned
    cases owned
  · intro stored found
    obtain rfl := Option.some.inj found
    exact same
  · rw [know, view_hsetPayment]
    exact changes _ known

/-- The lock holder rewrites the idempotency record. -/
theorem moves_setIdempotency {record : IdempotencyRecord} {ttlSeconds : Nat}
    (next : Stage) {result : Except Thrown Unit → World → Prop}
    (locked : stage.holdsLock = true)
    (changes : ∀ view expiresAt, Knows id pid stage view →
      Knows id pid next
        { view with key := some ⟨.parsed record, expiresAt, pid⟩ })
    (reached : ∀ after, know id pid next after → result (.ok ()) after) :
    Moves ((discipline config id).contract pid task) pid
      (.storage (.setIdempotency id record ttlSeconds)) (know id pid stage)
      result := by
  refine moves_owned rfl locked fun before inv known => ?_
  obtain ⟨owned, stored⟩ := Knows.held known locked
  rw [view_setIdempotency]
  refine ⟨Inv.of_locked stored ?_ inv.keyed inv.once, stored, reached _ ?_⟩
  · intro free
    rw [View.owner, free] at owned
    cases owned
  · rw [know, view_setIdempotency]
    exact changes _ _ known

private theorem moves_lock {ends : Except Thrown ProcessResult → World → Prop}
    (ended : ∀ outcome world, ends outcome world) :
    Moves ((discipline config id).contract pid task) pid
      (.storage (.setNxLock id config.leaseTtlSeconds)) (know id pid .checked)
      (Continues (Locks id (know id pid) ends) ends) := by
  apply (faultless rfl).moves_storage
  intro before stored inv allowed
  rcases setNxLock_cases id pid before config.leaseTtlSeconds with
    ⟨-, unchanged⟩ | ⟨free, acquired, view⟩
  · rw [unchanged]
    exact ⟨unseen _ _ inv rfl, fun reason => ended _ _⟩
  · have uncharged : unrefunded id (before.view id).log = 0 :=
      inv.free free (allowed.2 rfl free)
    rw [Continues, acquired, Locks, if_pos rfl, know, view]
    refine ⟨⟨?_, ?_⟩, rfl, stored, uncharged⟩
    · show Inv id _
      rw [view]
      exact Inv.of_locked stored (by simp) inv.keyed inv.once
    · show Guarantee id pid task _ _
      rw [view]
      refine ⟨fun present => present, ?_, fun _ absent => absent⟩
      intro other _ owned
      rw [View.owner, free] at owned
      cases owned

private theorem moves_release
    {ends : Except Thrown ProcessResult → World → Prop}
    (ended : ∀ outcome world, ends outcome world)
    (result : Except Thrown ProcessResult)
    (explained : Explains False id stage result) :
    Moves ((discipline config id).contract pid task) pid
      (.storage (.delLock id)) (know id pid stage)
      (Continues (fun _ => ends result) ends) := by
  have safe : stage.holdsLock = true ∧ ∀ view,
      Knows id pid stage view →
      view.finalized = true ∨ unrefunded id view.log = 0 := by
    cases result with
    | ok result =>
        rcases explained with ⟨tx, rfl, -⟩ | ⟨reason, rfl, -⟩ | ⟨rfl, -⟩
        · exact ⟨rfl, fun view known => .inl known.2.2⟩
        · exact ⟨rfl, fun view known => .inl known.2.2⟩
        · exact ⟨rfl, fun view known => known.elim⟩
    | error error =>
        rcases explained with rfl | ⟨impossible, -⟩ | ⟨rfl, -⟩
        · exact ⟨rfl, fun view known => known.elim⟩
        · exact impossible.elim
        · exact ⟨rfl, fun view known => .inr known.2.2⟩
  refine moves_owned rfl safe.1 fun before inv known => ?_
  obtain ⟨owned, stored⟩ := Knows.held known safe.1
  rw [view_delLock]
  refine ⟨⟨?_, inv.keyed, ?_, inv.once⟩, stored, ended _ _⟩
  · exact fun absent => (stored absent).elim
  · intro _ unfinalized
    rcases safe.2 _ known with final | uncharged
    · have unfinalized : (before.view id).finalized = false := unfinalized
      rw [final] at unfinalized
      cases unfinalized
    · exact uncharged

/-- A command of the lock holder that changes only the logs. -/
theorem keeps_of_logs {before after : World}
    (inv : Inv id (before.view id)) (owned : (before.view id).owner = some pid)
    (stored : (before.view id).stored ≠ none)
    {log : List GatewayEvent} {ledger : List SettlementEntry}
    (view : after.view id =
      { before.view id with log := log, ledger := ledger })
    (once : unrefunded id log ≤ 1) :
    Keeps ((discipline config id).contract pid task) before after := by
  constructor
  · show Inv id (after.view id)
    rw [view]
    refine Inv.of_locked stored ?_ inv.keyed once
    intro free
    rw [View.owner, show (before.view id).lock = none from free] at owned
    cases owned
  · exact .of_owner owned inv (by rw [view]; exact stored)

private theorem moves_charge (payment : PaymentRecord)
    (correlationId : Option String)
    (same : payment.id = id) :
    Moves ((discipline config id).contract pid task) pid
      (.guardCall payment correlationId) (know id pid .working)
      (fun outcome =>
        match outcome with
        | .ok (.ok transactionId _) => know id pid (.charged transactionId)
        | .ok (.fail _) => know id pid .declined
        | .error _ => fun _ => False) := by
  intro before outcome after known execution
  obtain ⟨response, -, rfl, rfl⟩ := executes_guardCall execution
  obtain ⟨-, stored⟩ := Knows.held known rfl
  obtain ⟨owned, processing, uncharged⟩ := known
  subst same
  have count := unrefunded_append_events payment.id before.gateway response
  have none : unrefunded payment.id before.gateway = 0 := uncharged
  rw [none, Nat.zero_add] at count
  constructor
  · refine keeps_of_logs execution.invariant owned stored rfl ?_
    rw [count]
    split <;> omega
  · match response with
    | .noToken => exact ⟨owned, processing, count⟩
    | .circuitRefused state => exact ⟨owned, processing, count⟩
    | .answered (.fail failure) => exact ⟨owned, processing, count⟩
    | .answered (.ok transactionId httpStatus) => exact ⟨owned, processing⟩

private theorem moves_refund (gatewayId transactionId : String) :
    Moves ((discipline config id).contract pid task) pid
      (.guardRefund gatewayId transactionId)
      (know id pid (.unsettled transactionId))
      (fun outcome =>
        match outcome with
        | .ok (.ok _ _) => know id pid (.refunded transactionId true)
        | .ok (.fail _) => know id pid (.refunded transactionId false)
        | .error _ => fun _ => False) := by
  intro before outcome after known execution
  obtain ⟨result, -, rfl, rfl⟩ := executes_guardRefund execution
  obtain ⟨owned, stored⟩ := Knows.held known rfl
  constructor
  · refine keeps_of_logs execution.invariant owned stored rfl ?_
    exact Nat.le_trans (unrefunded_append_refund _ _ _ _ _)
      execution.invariant.once
  · cases result with
    | ok refundId httpStatus => exact known
    | fail failure => exact known

private theorem moves_append (entry : SettlementEntry) :
    Moves ((discipline config id).contract pid task) pid
      (.storage (.rpushSettlement entry))
      (know id pid (.charged entry.transactionId))
      (fun outcome =>
        match outcome with
        | .ok _ => know id pid (.settled entry.transactionId)
        | .error _ => know id pid (.unsettled entry.transactionId)) := by
  intro before outcome after known execution
  obtain ⟨owned, stored⟩ := Knows.held known rfl
  have once := execution.invariant.once
  rcases executes_storage execution with
    ⟨-, rfl, rfl⟩ | ⟨message, rfl, ⟨-, rfl⟩ | ⟨-, rfl⟩⟩
  · exact ⟨keeps_of_logs execution.invariant owned stored rfl once, known⟩
  · exact ⟨keeps_of_logs execution.invariant owned stored rfl once, known⟩
  · exact ⟨unseen _ _ execution.invariant rfl, known⟩

/-- In the saga the stored record is the processing one. -/
theorem Knows.processing (known : Knows id pid stage view)
    (inSaga : stage.inSaga = true) :
    ∃ record, view.payment = some record ∧ record.status = .processing := by
  cases stage with
  | working | declined => exact known.2.1
  | charged _ | unsettled _ | refunded _ _ | settled _ => exact known.2
  | _ => cases inSaga

theorem burial (inSaga : stage.inSaga = true)
    (locked : stage.holdsLock = true) :
    BurialOutline ((discipline config id).contract pid task) pid id
      (know id pid) stage where
  stable := know_stable
  lookup := by
    apply (faultless rfl).moves_storage
    intro before known inv _
    obtain ⟨record, found, status⟩ := Knows.processing known inSaga
    refine ⟨unseen _ _ inv rfl, ?_⟩
    have unfinished : record.status.terminal = false := by rw [status]; rfl
    show Latest id (know id pid) stage (before.view id).payment before
    rw [found, Latest, unfinished, if_neg (by simp)]
    exact ⟨inv.keyed record found, known⟩
  bury := fun record reason same _ _ => moves_save (.buried reason) locked same
    (fun view known => ⟨(Knows.held known locked).1, by simp⟩)
    (fun _ known => known)
  readBuried := fun reason => moves_invisible rfl fun _ _ known => known
  fail := fun reason previous now => moves_setIdempotency (.failed reason) rfl
    (fun view expiresAt known => ⟨known.1, known.2, rfl⟩)
    (fun _ known => known)
  audit := fun reason event => moves_invisible rfl fun _ _ known => known
  emit := fun reason event => moves_invisible rfl fun _ _ known => known
  ready := fun reason => moves_invisible rfl fun _ _ known => known
  route := fun entry _ => moves_invisible rfl fun _ _ known => known

/-- Saving the record that the execution carries keeps the stage. -/
theorem Knows.save {record : PaymentRecord}
    (known : Knows id pid stage view) (fits : stage.Fits id record) :
    Knows id pid stage { view with stored := some (.parsed record) } := by
  rcases fits with ⟨inSaga, carried⟩ | ⟨transactionId, closing, carried⟩
  · cases stage with
    | working | declined =>
        exact ⟨known.1, ⟨record, rfl, carried.status⟩, known.2.2⟩
    | charged _ | unsettled _ | refunded _ _ | settled _ =>
        exact ⟨known.1, record, rfl, carried.status⟩
    | _ => cases inSaga
  · cases stage with
    | completed _ => exact ⟨known.1, nofun, known.2.2⟩
    | unrecorded _ | unsure _ => exact known
    | _ => cases closing

private theorem moves_book {command : Command}
    (active : stage.inSaga = true ∨ stage.closing.isSome = true)
    (allowed : bookkeeping id stage command) :
    Moves ((discipline config id).contract pid task) pid command
      (know id pid stage) (fun _ => know id pid stage) := by
  rcases bookkeeping_cases allowed with ⟨record, rfl, fits⟩ | invisible
  · exact moves_save stage (Stage.holdsLock_of_active active) fits.id_eq
      (fun view known => known.save fits) (fun _ known => known)
  · exact moves_invisible invisible fun _ _ known => known

private theorem processOutline (id : PaymentId) (pid : Nat) (task : Task) :
    ProcessOutline ((discipline config id).contract pid task) pid id False
      (know id pid) (fun _ _ => True) where
  stable := know_stable
  faulty := by
    intro command before error after clean execution
    obtain ⟨value, impossible⟩ := (faultless clean).succeeds execution
    cases impossible
  book := fun stage command => moves_book
  charge := moves_charge
  append := fun entry _ => moves_append entry
  refund := moves_refund
  load := moves_load fun world inv _ => by
    cases found : (world.view id).payment with
    | none => exact fun _ => trivial
    | some record =>
        refine ⟨inv.keyed record found, ?_⟩
        intro absent
        simp [View.payment, absent] at found
  check := moves_invisible rfl fun raw after known => by
    simp only [Continues, Checks]
    split
    · exact fun _ => trivial
    · exact known
  lock := moves_lock fun _ _ => trivial
  readLocked := moves_invisible rfl fun _ _ known => known
  enter := fun claimedAt now => moves_setIdempotency .entered rfl
    (fun view expiresAt known => known) (fun _ known => known)
  begin := by
    intro record carried
    rw [carried.id]
    exact moves_save .working rfl carried.id
      (fun view known => ⟨known.1, ⟨record, rfl, carried.status⟩, known.2.2⟩)
      (fun _ known => known)
  record := by
    intro record transactionId carried
    exact moves_save (.recorded transactionId) rfl carried.id
      (fun view known => ⟨known.1, by simp⟩) (fun _ known => known)
  readRecorded := fun transactionId => moves_invisible rfl
    fun _ _ known => known
  complete := fun transactionId previous now =>
    moves_setIdempotency (.completed transactionId) rfl
      (fun view expiresAt known => ⟨known.1, known.2, rfl⟩)
      (fun _ known => known)
  burial := by
    rintro stage failure (rfl | ⟨-, transactionId, succeeded, rfl⟩)
    · exact burial rfl rfl
    · exact burial rfl rfl
  release := fun stage result explained =>
    moves_release (fun _ _ => trivial) result explained

end Stages

/-- What the submission knows: nothing is stored until it saves. -/
def submitKnow (id : PaymentId) : SubmitStage → World → Prop
  | .idle, world | .stale, world | .claimed, world =>
      (world.view id).stored = none
  | .replaying, _ | .saved, _ | .queued, _ => True
  | .unqueued, _ => False

section Submission

variable {id : PaymentId} {pid : Nat} {input : CreatePaymentInput}
  {stage : SubmitStage}

private theorem submitKnow_stable (stage : SubmitStage) :
    Stable ((discipline config id).contract pid (.submit input))
      (submitKnow id stage) := by
  intro first second rely _ known
  cases stage with
  | idle | stale | claimed => exact rely.absent rfl known
  | replaying | saved | queued => exact trivial
  | unqueued => exact known

theorem submit_moves_invisible {command : Command}
    {result : Except Thrown command.Result → World → Prop}
    (invisible : command.invisible = true) (clean : command.settles = false)
    (reached : ∀ value after, submitKnow id stage after →
      result (.ok value) after) :
    Moves ((discipline config id).contract pid (.submit input)) pid command
      (submitKnow id stage) result := by
  apply (faultless clean).moves
  intro before value after known execution
  have same : after.view id = before.view id :=
    view_of_invisible execution invisible
  have still : submitKnow id stage after := by
    have unchanged : submitKnow id stage after = submitKnow id stage before := by
      cases stage <;> simp only [submitKnow, same]
    rw [unchanged]
    exact known
  exact ⟨unseen _ _ execution.invariant same, reached value after still⟩

private theorem keeps_of_absent {before after : World}
    (inv : Inv id (before.view id))
    (absent : (before.view id).stored = none)
    (lock : (after.view id).lock = (before.view id).lock)
    (log : (after.view id).log = (before.view id).log)
    (keyed : ∀ record, (after.view id).payment = some record →
      record.id = id) :
    Keeps ((discipline config id).contract pid (.submit input)) before
      after := by
  obtain ⟨free, uncharged⟩ := inv.absent absent
  constructor
  · show Inv id (after.view id)
    exact ⟨fun _ => ⟨lock.trans free, log ▸ uncharged⟩, keyed,
      fun _ _ => log ▸ uncharged, log ▸ inv.once⟩
  · refine ⟨fun present => (present absent).elim, ?_, nofun⟩
    intro other _ owned
    rw [View.owner, free] at owned
    cases owned

theorem submit_moves_absent {command : StorageCommand}
    {result : Except Thrown command.Result → World → Prop}
    (clean : (Command.storage command).settles = false)
    (absent : ∀ world, submitKnow id stage world →
      (world.view id).stored = none)
    (step : ∀ before, (before.view id).stored = none →
      ((command.effect pid before).2.view id).lock = (before.view id).lock ∧
      ((command.effect pid before).2.view id).log = (before.view id).log ∧
      (∀ record, ((command.effect pid before).2.view id).payment =
        some record → record.id = id) ∧
      result (.ok (command.effect pid before).1)
        (command.effect pid before).2) :
    Moves ((discipline config id).contract pid (.submit input)) pid
      (.storage command) (submitKnow id stage) result := by
  apply (faultless clean).moves_storage
  intro before known inv _
  obtain ⟨lock, log, keyed, reached⟩ := step before (absent before known)
  exact ⟨keeps_of_absent inv (absent before known) lock log keyed, reached⟩

private theorem submitOutline (pid : Nat) (input : CreatePaymentInput) :
    SubmitOutline ((discipline config input.id).contract pid (.submit input))
      pid input (submitKnow input.id) (fun _ _ => True) where
  stable := fun stage _ => submitKnow_stable stage
  claim := fun now => submit_moves_absent rfl (fun _ absent => absent) <| by
    intro before absent
    have nothing : ∀ record, (before.view input.id).payment = some record →
        record.id = input.id := by
      simp [View.payment, absent]
    rcases setNxIdempotency_cases input.id pid before
        (IdempotencyService.processingRecord input.id now now)
        config.leaseTtlSeconds with ⟨-, unchanged⟩ | ⟨-, acquired, view⟩
    · rw [unchanged]
      exact ⟨rfl, rfl, nothing, absent⟩
    · rw [view, acquired]
      refine ⟨rfl, rfl, nothing, ?_⟩
      show (World.view _ _).stored = none
      rw [view]
      exact absent
  readClaim := submit_moves_invisible rfl rfl fun raw after absent =>
    SubmitOutline.continues_reads absent trivial (fun _ => trivial) (.ok raw)
  lookup := submit_moves_invisible rfl rfl fun doc after absent =>
    SubmitOutline.continues_finds absent absent (fun _ => trivial) (.ok doc)
  recover := submit_moves_absent rfl (fun _ absent => absent) <| by
    intro before absent
    rw [view_delIdempotency]
    refine ⟨rfl, rfl, by simp [View.payment, absent], ?_⟩
    show (World.view _ _).stored = none
    rw [view_delIdempotency]
    exact absent
  replay := submit_moves_invisible rfl rfl fun doc after _ =>
    SubmitOutline.continues_replays (fun _ => trivial) (fun _ => trivial)
      (.ok doc)
  conflict := fun _ _ _ _ => trivial
  audit := fun event => submit_moves_invisible rfl rfl fun _ _ known => known
  save := fun now => submit_moves_absent rfl (fun _ absent => absent) <| by
    intro before absent
    rw [view_hsetPayment]
    refine ⟨rfl, rfl, ?_, trivial⟩
    intro record found
    obtain rfl := Option.some.inj found
    rfl
  emit := fun event => submit_moves_invisible rfl rfl fun _ _ known => known
  ready := submit_moves_invisible rfl rfl fun _ _ known => known
  add := fun now delay => submit_moves_invisible rfl rfl fun _ _ known => known
  release := fun _ _ _ impossible => impossible.elim
  created := fun _ _ _ => trivial

end Submission

/-- The runs of the theorem below. -/
def rechecking (id : PaymentId) (state : PaymentConfig config)
    (label : PaymentLabel config) : Bool :=
  admits id state label && locksUnfinalized id state label

theorem rechecking_eq_true {id : PaymentId} {state : PaymentConfig config}
    {label : PaymentLabel config} (admitted : rechecking id state label = true) :
    admits id state label = true ∧ locksUnfinalized id state label = true :=
  (Bool.and_eq_true _ _).mp admitted

theorem Guarantee.rely {id : PaymentId} {pid other : Nat} {task task' : Task}
    {before after : View} (guarantee : Guarantee id pid task before after)
    (different : other ≠ pid)
    (single : task'.submits = true → task.submits = false) :
    Rely id other task' before after :=
  ⟨guarantee.stored, guarantee.held other different,
    fun submits => guarantee.absent (single submits)⟩

private theorem sound (id : PaymentId) :
    (discipline config id).Sound (fun state label =>
      SingleSubmission state ∧ rechecking id state label = true) where
  relyRefl := fun _ _ _ => ⟨fun stored => stored, fun _ => .refl id _,
    fun _ absent => absent⟩
  relyTrans := by
    intro pid task first second third left right
    refine ⟨fun stored => right.stored (left.stored stored), ?_,
      fun submits absent => right.absent submits (left.absent submits absent)⟩
    intro owned
    have kept := left.held owned
    exact kept.trans (right.held (kept.owner.trans owned))
  spawns := by
    intro state task _ admitted
    have spawned := (rechecking_eq_true admitted.2).1
    cases task with
    | submit input =>
        simp only [admits, Bool.and_eq_true, decide_eq_true_eq,
          Option.isNone_iff_eq_none] at spawned
        obtain ⟨⟨rfl, -⟩, absent⟩ := spawned
        exact (submitOutline _ input).safe_code absent (fun _ _ ended => ended) _
    | process job =>
        exact (processOutline id _ _).safe_code (of_decide_eq_true spawned)
          trivial (fun _ _ ended => ended) _
    | handleJobFailure jobData error => cases spawned
  permits := by
    intro state pid choice task command resume _ admitted found
    obtain ⟨clean, unfinalized⟩ := rechecking_eq_true admitted.2
    have pending := pending_eq_of_running found
    refine ⟨?_, ?_⟩
    · rw [admits, pending] at clean
      exact clean
    · rintro rfl
      exact of_decide_eq_true unfinalized pending
  interferes := by
    intro state pid choice task program other task' program' next _ admitted _
      found different found' _ guarantee
    refine guarantee.rely different fun submits => ?_
    by_contra submits'
    exact different (admitted.1 other pid task' task
      (Config.taskOf_of_running found') (Config.taskOf_of_running found)
      submits (eq_true_of_ne_false submits'))
  environments := by
    intro state event after holds admitted changed
    have same := view_environment (rechecking_eq_true admitted.2).1 changed
    have kept : Inv id (after.view id) := same ▸ holds.invariant
    refine ⟨kept, fun pid task _ _ => ?_, fun _ _ _ _ => trivial⟩
    show Rely id pid task (state.world.view id) (after.view id)
    rw [same]
    exact ⟨fun stored => stored, fun _ => .refl id _, fun _ absent => absent⟩

private theorem inv_of_untouched {id : PaymentId} {world : World}
    (untouched : Untouched id world) : Inv id (world.view id) where
  absent := fun _ => ⟨untouched.lock, untouched.charges⟩
  keyed := by
    intro record found
    simp [View.payment, World.view, untouched.payment] at found
  free := fun _ _ => untouched.charges
  once := by
    show unrefunded id world.gateway ≤ 1
    rw [untouched.charges]
    exact Nat.zero_le 1

/-- When the final-state check still holds at the moment the lock is taken, a
payment never has two charges that were not refunded. -/
theorem charged_at_most_once (config : AppConfig) (id : PaymentId)
    (world : World) (untouched : Untouched id world)
    (state : PaymentConfig config)
    (reached : (paymentSystem config).Reaches
      (fun state label => rechecking id state label = true)
      (initially world) state) :
    unrefunded id state.world.gateway ≤ 1 := by
  have single : SingleSubmission (initially world : PaymentConfig config) := by
    intro first second task task' found
    cases found
  obtain ⟨-, reached⟩ := reached.strengthen single <| by
    intro state label next single admitted taken
    refine singleSubmission_step single ?_ taken
    rintro task rfl submits
    have spawned := (rechecking_eq_true admitted).1
    cases task with
    | submit input =>
        simp only [admits, Bool.and_eq_true, Bool.not_eq_true'] at spawned
        exact spawned.1.2
    | process job => cases submits
    | handleJobFailure jobData error => cases submits
  have start : (discipline config id).Holds (initially world) :=
    Discipline.holds_nil (inv_of_untouched untouched) fun _ => trivial
  exact ((sound id).reaches start reached).invariant.once

private theorem untouched_empty : Untouched "p1" (World.empty 0) :=
  ⟨rfl, rfl, rfl⟩

/-- A second worker gets the job while the first one executes it, and finds
the lock taken. -/
def overlapping : List (PaymentLabel .default) :=
  [.spawn (.submit (submission "stripe" 0))] ++ runs 0 6 ++
    [.spawn (.process (delivery 0)), .spawn (.process (delivery 0))] ++
    runs 2 2 ++ runs 1 11 ++ [accepts 1 "tx1"] ++ runs 2 1 ++ runs 1 13

theorem charged_at_most_once_overlapping :
    ∃ state : PaymentConfig .default, state.threads.length = 3 ∧
      unrefunded "p1" state.world.gateway ≠ 0 ∧
      unrefunded "p1" state.world.gateway ≤ 1 := by
  obtain ⟨state, reached, checked⟩ := exists_of_replay
    (paymentSystem .default).step (rechecking "p1") overlapping (initially (World.empty 0))
    (fun state => decide (state.threads.length = 3) &&
      decide (unrefunded "p1" state.world.gateway ≠ 0)) (by decide +kernel)
  simp only [Bool.and_eq_true, decide_eq_true_eq] at checked
  exact ⟨state, checked.1, checked.2, charged_at_most_once .default "p1"
    (World.empty 0) untouched_empty state reached⟩

/-- The second worker checks before the first one finalizes and takes the
lock after the first one has released it. -/
def checkThenLock : List (PaymentLabel .default) :=
  [.spawn (.submit (submission "stripe" 0))] ++ runs 0 6 ++
    [.spawn (.process (delivery 0)), .spawn (.process (delivery 0))] ++
    runs 2 2 ++ runs 1 11 ++ [accepts 1 "tx1"] ++ runs 1 13 ++ runs 2 9 ++
    [accepts 2 "tx2"]

theorem charged_twice :
    ∃ state : PaymentConfig .default,
      (paymentSystem .default).Reaches
        (fun state label => admits "p1" state label = true)
        (initially (World.empty 0)) state ∧
      Untouched "p1" (World.empty 0) ∧ created state 0 = true ∧
      unrefunded "p1" state.world.gateway = 2 := by
  obtain ⟨state, reached, checked⟩ := exists_of_replay
    (paymentSystem .default).step (admits "p1") checkThenLock (initially (World.empty 0))
    (fun state => created state 0 &&
      decide (unrefunded "p1" state.world.gateway = 2)) (by decide +kernel)
  simp only [Bool.and_eq_true, decide_eq_true_eq] at checked
  exact ⟨state, reached, untouched_empty, checked.1, checked.2⟩

end PaymentQueue.Charging
