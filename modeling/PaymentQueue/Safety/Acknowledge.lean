import PaymentQueue.Outlines.Footprint
import PaymentQueue.Outlines.Strangers

/-!
# An acknowledged job never drops its payment

Submissions, executions and failure handlers run at the same time, every
command may throw, and every process may crash.  All three `skipped` results
acknowledge the job.  The theorem lists what must not happen for each of them
to be justified: a redelivery that finds the lock of an execution that has
stopped, a lock that expires under its execution, a failure handler that
overlaps an execution, and a submission that overwrites the record of a running
lifecycle.
-/

namespace PaymentQueue.Acknowledge

open Await

variable {config : AppConfig}

/-- The next step is a `SET NX` that finds the lock held. -/
def skips (id : PaymentId) (state : PaymentConfig config) :
    PaymentLabel config → Bool
  | .run pid _ =>
      decide (pending state pid =
          some (.storage (.setNxLock id config.leaseTtlSeconds))) &&
        (state.world.locks id).isSome
  | _ => false

/-- A `SET NX` that finds the lock held finds a process that still runs. -/
def findsRunning (id : PaymentId) (state : PaymentConfig config)
    (label : PaymentLabel config) : Bool :=
  !skips id state label || lockRuns id state

/-- A failure handler writes while no running execution has the lock, and
writes `FAILED` while the stored record is terminal. -/
def handlersAlone (id : PaymentId) (state : PaymentConfig config) :
    PaymentLabel config → Bool
  | .run pid _ =>
      match state.taskOf pid, pending state pid with
      | some (.handleJobFailure _ _), some command =>
          !(command.changes .payments id && lockRuns id state) &&
            !(command.changes .idempotency id &&
              (lockRuns id state || !(state.world.view id).terminal))
      | _, _ => true
  | _ => true

/-- A submission stores its record while the payment is not finalized and no
running execution has its lock. -/
def savesFirst (id : PaymentId) (state : PaymentConfig config) :
    PaymentLabel config → Bool
  | .run pid _ =>
      match state.taskOf pid, pending state pid with
      | some (.submit _), some command =>
          !(command.changes .payments id &&
            (lockRuns id state || state.world.finalized id))
      | _, _ => true
  | _ => true

/-- The runs of the theorem below. -/
def admits (id : PaymentId) (state : PaymentConfig config)
    (label : PaymentLabel config) : Bool :=
  findsRunning id state label && lockOutlives id state label &&
    handlersAlone id state label && savesFirst id state label

structure Admitted (id : PaymentId) (state : PaymentConfig config)
    (label : PaymentLabel config) : Prop where
  finds : findsRunning id state label = true
  outlives : lockOutlives id state label = true
  handlers : handlersAlone id state label = true
  saves : savesFirst id state label = true

theorem admitted_of_admits {id : PaymentId} {state : PaymentConfig config}
    {label : PaymentLabel config} (admitted : admits id state label = true) :
    Admitted id state label := by
  simp only [admits, Bool.and_eq_true] at admitted
  obtain ⟨⟨⟨finds, outlives⟩, handlers⟩, saves⟩ := admitted
  exact ⟨finds, outlives, handlers, saves⟩

/-- A finalized payment has a terminal record. -/
structure Inv (id : PaymentId) (world : World) : Prop where
  final : (world.view id).finalized = true → (world.view id).terminal = true
  keyed : world.Keyed

/-- What the holder of the lock relies on. -/
structure Undisturbed (before after : View) : Prop where
  lock : after.lock = before.lock
  stored : after.stored = before.stored
  unfinalized : before.finalized = false → after.finalized = false

def Rely (pid : Nat) (before after : View) : Prop :=
  before.owner = some pid → Undisturbed before after

/-- A step keeps the locks of the others.  Only submissions and failure
handlers write the record of a payment of which another process has the lock,
and only failure handlers finalize it. -/
structure Guarantee (pid : Nat) (task : Task) (before after : View) :
    Prop where
  lock : ∀ other, other ≠ pid → before.owner = some other →
    after.lock = before.lock
  stored : task.processes = true → ∀ other, other ≠ pid →
    before.owner = some other → after.stored = before.stored
  unfinalized : task.handles = false → ∀ other, other ≠ pid →
    before.owner = some other → before.finalized = false →
    after.finalized = false

/-- An execution that finds the lock held is not considered here: it ends
without an effect. -/
def discipline (config : AppConfig) (id : PaymentId) :
    Discipline (paymentSystem config) where
  invariant := Inv id
  rely := fun pid _ before after => Rely pid (before.view id) (after.view id)
  guarantee := fun pid task before after =>
    Guarantee pid task (before.view id) (after.view id)
  allowed := fun _ task command _ world =>
    (command = .storage (.setNxLock id config.leaseTtlSeconds) →
      world.locks id = none) ∧
    (task.handles = true → command.changes .idempotency id = true →
      (world.view id).terminal = true) ∧
    (task.submits = true → command.changes .payments id = true →
      (world.view id).finalized = false)
  post := fun _ task output world => task.paymentId = id →
    (task.processes && output.isOk) = true → (world.view id).terminal = true
  rest := fun _ _ _ => True

theorem Undisturbed.refl (view : View) : Undisturbed view view :=
  ⟨rfl, rfl, fun unfinalized => unfinalized⟩

theorem Undisturbed.trans {first second third : View}
    (left : Undisturbed first second) (right : Undisturbed second third) :
    Undisturbed first third :=
  ⟨right.lock.trans left.lock, right.stored.trans left.stored,
    fun unfinalized => right.unfinalized (left.unfinalized unfinalized)⟩

theorem Undisturbed.owner {before after : View}
    (undisturbed : Undisturbed before after) : after.owner = before.owner := by
  rw [View.owner, View.owner, undisturbed.lock]

theorem Undisturbed.terminal {before after : View}
    (undisturbed : Undisturbed before after) :
    after.terminal = before.terminal := by
  rw [View.terminal, View.terminal, View.payment, View.payment,
    undisturbed.stored]

theorem Rely.trans {pid : Nat} {first second third : View}
    (left : Rely pid first second) (right : Rely pid second third) :
    Rely pid first third := by
  intro owned
  have kept := left owned
  exact kept.trans (right (kept.owner.trans owned))

theorem Guarantee.of_undisturbed {pid : Nat} {task : Task}
    {before after : View} (undisturbed : Undisturbed before after) :
    Guarantee pid task before after :=
  ⟨fun _ _ _ => undisturbed.lock, fun _ _ _ _ => undisturbed.stored,
    fun _ _ _ _ => undisturbed.unfinalized⟩

/-- What an execution knows at each stage: under the lock the payment is not
finalized as long as its record is not terminal. -/
def Knows (pid : Nat) : Stage → View → Prop
  | .idle, _ | .seen, _ | .checked, _ => True
  | .locked, view | .aborted, view => view.owner = some pid
  | .entered, view | .working, view | .declined, view | .charged _, view
  | .unsettled _, view | .refunded _ _, view | .settled _, view
  | .unrecorded _, view => view.owner = some pid ∧ view.finalized = false
  | .recorded _, view | .unsure _, view | .completed _, view
  | .terminal, view | .buried _, view | .failed _, view | .routed _, view =>
      view.owner = some pid ∧ view.terminal = true

def know (id : PaymentId) (pid : Nat) (stage : Stage) (world : World) : Prop :=
  Knows pid stage (world.view id)

section Process

variable {id : PaymentId} {pid : Nat} {task : Task} {job : JobHandle}
  {stage : Stage}

theorem Knows.owner {view : View} (known : Knows pid stage view)
    (locked : stage.holdsLock = true) : view.owner = some pid := by
  cases stage with
  | idle | seen | checked => cases locked
  | locked | aborted => exact known
  | _ => exact known.1

theorem Knows.undisturbed {before after : View}
    (undisturbed : Undisturbed before after) (known : Knows pid stage before) :
    Knows pid stage after := by
  have owner : before.owner = some pid → after.owner = some pid :=
    undisturbed.owner.trans
  cases stage with
  | idle | seen | checked => exact trivial
  | locked | aborted => exact owner known
  | entered | working | declined | charged _ | unsettled _ | refunded _ _
  | settled _ | unrecorded _ =>
      exact ⟨owner known.1, undisturbed.unfinalized known.2⟩
  | recorded _ | unsure _ | completed _ | terminal | buried _ | failed _
  | routed _ => exact ⟨owner known.1, undisturbed.terminal.trans known.2⟩

private theorem know_stable (stage : Stage) :
    Stable ((discipline config id).contract pid task) (know id pid stage) := by
  intro first second rely _ known
  cases locked : stage.holdsLock with
  | true => exact Knows.undisturbed (rely (Knows.owner known locked)) known
  | false =>
      cases stage with
      | idle | seen | checked => exact trivial
      | _ => cases locked

/-- A step that leaves the record, the key and the lock of the payment
alone. -/
theorem keeps_same {before after : World} (inv : Inv id before)
    (keyed : after.Keyed)
    (stored : (after.view id).stored = (before.view id).stored)
    (key : (after.view id).key = (before.view id).key)
    (lock : (after.view id).lock = (before.view id).lock) :
    Undisturbed (before.view id) (after.view id) ∧
      Keeps ((discipline config id).contract pid task) before after := by
  have final : (after.view id).finalized = (before.view id).finalized := by
    rw [View.finalized, View.finalized, View.claim, View.claim, key]
  have undisturbed : Undisturbed (before.view id) (after.view id) :=
    ⟨lock, stored, final.trans⟩
  refine ⟨undisturbed, ⟨?_, keyed⟩, .of_undisturbed undisturbed⟩
  rw [final, undisturbed.terminal]
  exact inv.final

theorem keeps_refl {world : World} (inv : Inv id world) :
    Keeps ((discipline config id).contract pid task) world world :=
  (keeps_same inv inv.keyed rfl rfl rfl).2

private theorem aloof : Aloof
    ((discipline config id).contract pid task) id where
  keyed := fun _ inv => inv.keyed
  keeps := fun _ _ inv keyed apart =>
    (keeps_same inv keyed (apart.payment) apart.key apart.lock).2

/-- A write of the lock holder. -/
theorem keeps_held {before after : World}
    (owned : (before.view id).owner = some pid) (inv : Inv id after) :
    Keeps ((discipline config id).contract pid task) before after := by
  have alone : ∀ other, other ≠ pid →
      (before.view id).owner ≠ some other := by
    intro other different held
    exact different (Option.some.inj (held.symm.trans owned))
  exact ⟨inv, fun other different held => (alone other different held).elim,
    fun _ other different held => (alone other different held).elim,
    fun _ other different held => (alone other different held).elim⟩

/-- Commands that write neither a record nor a key nor a lock. -/
theorem keeps_elsewhere {command : Command} {before after : World}
    {outcome : Except Thrown command.Result}
    (payments : command.writes .payments = false)
    (idempotency : command.writes .idempotency = false)
    (locks : command.writes .locks = false)
    (execution : Executes ((discipline config id).contract pid task) pid
      command before outcome after) :
    Undisturbed (before.view id) (after.view id) ∧
      Keeps ((discipline config id).contract pid task) before after := by
  have same : after.payments = before.payments :=
    executes_agrees execution payments
  have keyed : after.Keyed := by
    intro key record found
    apply execution.invariant.keyed key record
    rwa [World.payment, ← same]
  exact keeps_same execution.invariant keyed
    (view_stored_of_writes execution payments)
    (view_key_of_writes execution idempotency)
    (view_lock_of_writes execution locks)

theorem moves_same {command : Command}
    {result : Except Thrown command.Result → World → Prop}
    (payments : command.writes .payments = false)
    (idempotency : command.writes .idempotency = false)
    (locks : command.writes .locks = false)
    (reached : ∀ before outcome after, Knows pid stage (after.view id) →
      Executes ((discipline config id).contract pid task) pid command before
        outcome after → result outcome after) :
    Moves ((discipline config id).contract pid task) pid command
      (know id pid stage) result := by
  intro before outcome after known execution
  obtain ⟨undisturbed, keeps⟩ :=
    keeps_elsewhere payments idempotency locks execution
  exact ⟨keeps, reached before outcome after
    (Knows.undisturbed undisturbed known) execution⟩

/-- The same, whatever the command replies. -/
theorem moves_stage {command : Command}
    {result : Except Thrown command.Result → World → Prop}
    (payments : command.writes .payments = false)
    (idempotency : command.writes .idempotency = false)
    (locks : command.writes .locks = false)
    (reached : ∀ outcome after, Knows pid stage (after.view id) →
      result outcome after) :
    Moves ((discipline config id).contract pid task) pid command
      (know id pid stage) result :=
  moves_same payments idempotency locks
    fun _ outcome after known _ => reached outcome after known

/-- The record is replaced: by a terminal one, or while the payment is not
finalized. -/
theorem moves_save {record : PaymentRecord}
    {result : Except Thrown Unit → World → Prop}
    (locked : stage.holdsLock = true) (same : record.id = id)
    (justified : record.status.terminal = true ∨
      ∀ view, Knows pid stage view → view.finalized = false)
    (reached : ∀ view outcome after, Knows pid stage view →
      after.view id = { view with stored := some (.parsed record) } →
      result outcome after)
    (refused : ∀ message after, Knows pid stage (after.view id) →
      result (.error (.error message)) after) :
    Moves ((discipline config id).contract pid task) pid
      (.storage (.hsetPayment id record)) (know id pid stage) result := by
  refine moves_storage (fun before inv => keeps_refl inv) ?_
    (fun before message known _ => refused message before known)
  intro before choice known inv _
  have view := @view_hsetPayment id pid before record
  refine ⟨keeps_held (Knows.owner known locked)
    ⟨?_, keyed_effect same inv.keyed⟩, reached _ _ _ known view,
    fun message => reached _ _ _ known view⟩
  rw [view]
  intro final
  rcases justified with terminal | unfinalized
  · exact terminal
  · exact Bool.noConfusion ((unfinalized _ known).symm.trans final)

/-- A final record is written under a terminal payment. -/
theorem moves_finalize {record : IdempotencyRecord} {ttlSeconds : Nat}
    {result : Except Thrown Unit → World → Prop}
    (locked : stage.holdsLock = true)
    (terminal : ∀ view, Knows pid stage view → view.terminal = true)
    (reached : ∀ outcome after, (after.view id).owner = some pid →
      (after.view id).terminal = true → result outcome after) :
    Moves ((discipline config id).contract pid task) pid
      (.storage (.setIdempotency id record ttlSeconds)) (know id pid stage)
      result := by
  refine moves_storage (fun before inv => keeps_refl inv) ?_
    (fun before message known _ =>
      reached _ _ (Knows.owner known locked) (terminal _ known))
  intro before choice known inv _
  have view := @view_setIdempotency id pid before record ttlSeconds
  have owned := Knows.owner known locked
  have finished : (before.view id).terminal = true := terminal _ known
  have still : ∀ outcome, result outcome
      ((StorageCommand.setIdempotency id record ttlSeconds).effect pid
        before).2 := by
    intro outcome
    apply reached _ _
    · rw [view]
      exact owned
    · rw [view]
      exact finished
  refine ⟨keeps_held owned ⟨?_, inv.keyed⟩, still _, fun message => still _⟩
  rw [view]
  exact fun _ => finished

/-- How a worker execution ends. -/
def ends (id : PaymentId) (outcome : Except Thrown ProcessResult)
    (world : World) : Prop :=
  outcome.isOk = true → (world.view id).terminal = true

theorem ends_error (error : Thrown) (world : World) :
    ends id (.error error) world :=
  nofun

private theorem moves_lock :
    Moves ((discipline config id).contract pid task) pid
      (.storage (.setNxLock id config.leaseTtlSeconds)) (know id pid .checked)
      (Continues (Locks id (know id pid) (ends id)) (ends id)) := by
  refine moves_storage (fun before inv => keeps_refl inv) ?_
    (fun _ _ _ _ => ends_error _ _)
  intro before choice _ inv allowed
  have free : (before.view id).lock = none := allowed.1 rfl
  rcases setNxLock_cases id pid before config.leaseTtlSeconds with
    ⟨taken, -⟩ | ⟨-, acquired, view⟩
  · exact (taken free).elim
  · have nobody : (before.view id).owner = none := by
      rw [View.owner, free]
      rfl
    rw [Continues, acquired, Locks, if_pos rfl, know, view]
    refine ⟨⟨⟨?_, keyed_effect trivial inv.keyed⟩, ?_⟩, rfl,
      fun message => ends_error _ _⟩
    · rw [view]
      exact inv.final
    · refine ⟨fun other _ owned => ?_, ?_, ?_⟩
      · rw [nobody] at owned
        cases owned
      · rw [view]
        exact fun _ _ _ _ => rfl
      · rw [view]
        exact fun _ _ _ _ unfinalized => unfinalized

private theorem moves_enter (claimedAt now : Time) :
    Moves ((discipline config id).contract pid task) pid
      (.storage (.setIdempotency id
        (IdempotencyService.processingRecord id claimedAt now)
        config.leaseTtlSeconds)) (know id pid .locked)
      (Continues (fun _ => know id pid .entered) (ends id)) := by
  refine moves_storage (fun before inv => keeps_refl inv) ?_
    (fun _ _ _ _ => ends_error _ _)
  intro before choice owned inv _
  have view := @view_setIdempotency id pid before
    (IdempotencyService.processingRecord id claimedAt now)
    config.leaseTtlSeconds
  refine ⟨keeps_held owned ⟨?_, inv.keyed⟩, ?_, fun message => ends_error _ _⟩
  · rw [view]
    exact nofun
  · rw [Continues, know, view]
    exact ⟨owned, rfl⟩

private theorem moves_release {result : Except Thrown ProcessResult}
    (explained : Explains True id stage result) :
    Moves ((discipline config id).contract pid task) pid
      (.storage (.delLock id)) (know id pid stage)
      (Continues (fun _ => ends id result) (ends id)) := by
  refine moves_storage (fun before inv => keeps_refl inv) ?_
    (fun _ _ _ _ => ends_error _ _)
  intro before choice known inv _
  have view := @view_delLock id pid before
  refine ⟨keeps_held (Knows.owner known (explains_holdsLock explained))
    ⟨?_, inv.keyed⟩, ?_, fun message => ends_error _ _⟩
  · rw [view]
    exact inv.final
  · rw [Continues, ends, view]
    intro succeeded
    cases result with
    | error error => cases succeeded
    | ok result =>
        rcases explained with ⟨_, rfl, -⟩ | ⟨_, rfl, -⟩ | ⟨rfl, -⟩
        · exact known.2
        · exact known.2
        · exact known.2

/-- At the stages of the saga the payment is not finalized. -/
theorem Knows.unfinalized {view : View} (known : Knows pid stage view)
    (inSaga : stage.inSaga = true) : view.finalized = false := by
  cases stage with
  | working | declined | charged _ | unsettled _ | refunded _ _ | settled _ =>
      exact known.2
  | _ => cases inSaga

/-- A command at a stage of the terminal handling. -/
theorem moves_buried {command : Command} {buried next : Stage}
    (payments : command.writes .payments = false)
    (idempotency : command.writes .idempotency = false)
    (locks : command.writes .locks = false)
    (locked : buried.holdsLock = true)
    (known : ∀ view, Knows pid buried view → Knows pid next view) :
    Moves ((discipline config id).contract pid task) pid command
      (know id pid buried) (OrAborts (know id pid) (fun _ => know id pid next)) :=
  moves_stage payments idempotency locks fun outcome after reached => by
    cases outcome with
    | error error => exact Knows.owner reached locked
    | ok _ => exact known _ reached

theorem burial (inSaga : stage.inSaga = true) :
    BurialOutline ((discipline config id).contract pid task) pid id
      (know id pid) stage where
  stable := know_stable
  lookup := by
    have locked := Stage.holdsLock_of_active (.inl inSaga)
    apply moves_hgetPayment fun before inv => keeps_refl inv
    · intro world inv known
      exact latest_of_found (inv.keyed id) known
        fun terminal => ⟨Knows.owner known locked, terminal⟩
    · exact fun world message known => Knows.owner known locked
  bury := by
    intro record reason same status _
    have locked := Stage.holdsLock_of_active (.inl inSaga)
    have terminal : record.status.terminal = true := by rw [status]; rfl
    refine moves_save locked same (.inl terminal) ?_
      (fun message after known => Knows.owner known locked)
    intro view outcome after known saved
    have owned := Knows.owner known locked
    cases outcome with
    | error error =>
        show (after.view id).owner = some pid
        rw [saved]
        exact owned
    | ok _ =>
        show Knows pid (.buried reason) (after.view id)
        rw [saved]
        exact ⟨owned, terminal⟩
  readBuried := fun reason => moves_buried rfl rfl rfl rfl fun _ known => known
  fail := fun reason previous now => moves_finalize rfl (fun _ known => known.2)
    fun outcome after owned terminal => by
      cases outcome with
      | error error => exact owned
      | ok _ => exact ⟨owned, terminal⟩
  audit := fun reason event => moves_buried rfl rfl rfl rfl
    fun _ known => known
  emit := fun reason event => moves_buried rfl rfl rfl rfl fun _ known => known
  ready := fun reason => moves_buried rfl rfl rfl rfl fun _ known => known
  route := fun entry _ => moves_buried rfl rfl rfl rfl fun _ known => known

/-- The saves of the saga and of the completion keep what is known. -/
private theorem moves_book {command : Command}
    (active : stage.inSaga = true ∨ stage.closing.isSome = true)
    (allowed : bookkeeping id stage command) :
    Moves ((discipline config id).contract pid task) pid command
      (know id pid stage) (fun _ => know id pid stage) := by
  have locked := Stage.holdsLock_of_active active
  rcases bookkeeping_cases allowed with ⟨record, rfl, fits⟩ | invisible
  · refine moves_save locked fits.id_eq ?_ ?_ (fun _ _ known => known)
    · rcases fits with ⟨inSaga, -⟩ | ⟨transactionId, -, carried⟩
      · exact .inr fun view known => known.unfinalized inSaga
      · exact .inl (by rw [carried.status]; rfl)
    · intro view outcome after known saved
      show Knows pid stage (after.view id)
      rw [saved]
      rcases fits with ⟨inSaga, -⟩ | ⟨transactionId, closing, carried⟩
      · cases stage <;> first | exact known | cases inSaga
      · have terminal : record.status.terminal = true := by
          rw [carried.status]
          rfl
        cases stage <;> first | exact known | exact ⟨known.1, terminal⟩
  · simp only [Command.invisible, Bool.not_eq_true', Bool.or_eq_false_iff]
      at invisible
    exact moves_stage invisible.1.1.1.1 invisible.1.1.1.2 invisible.1.1.2
      fun _ _ known => known

private theorem moves_begin {record : PaymentRecord}
    (carried : Carries id .processing none record) :
    Moves ((discipline config id).contract pid task) pid
      (.storage (.hsetPayment id record)) (know id pid .entered)
      (OrAborts (know id pid) (fun _ => know id pid .working)) := by
  refine moves_save rfl carried.id (.inr fun _ known => known.2) ?_
    (fun message after known => known.1)
  intro view outcome after known saved
  cases outcome with
  | error error =>
      show (after.view id).owner = some pid
      rw [saved]
      exact known.1
  | ok _ =>
      show Knows pid .working (after.view id)
      rw [saved]
      exact known

private theorem moves_record {record : PaymentRecord} {transactionId : String}
    (carried : Carries id .completed (some transactionId) record) :
    Moves ((discipline config id).contract pid task) pid
      (.storage (.hsetPayment id record))
      (know id pid (.settled transactionId))
      (fun outcome => know id pid (if outcome.isOk = true then
        .recorded transactionId else .unrecorded transactionId)) := by
  have terminal : record.status.terminal = true := by
    rw [carried.status]
    rfl
  refine moves_save rfl carried.id (.inl terminal) ?_
    (fun message after known => known)
  intro view outcome after known saved
  cases outcome with
  | error error =>
      show Knows pid (.unrecorded transactionId) (after.view id)
      rw [saved]
      exact known
  | ok _ =>
      show Knows pid (.recorded transactionId) (after.view id)
      rw [saved]
      exact ⟨known.1, terminal⟩

private theorem processOutline (id : PaymentId) (pid : Nat) (task : Task) :
    ProcessOutline ((discipline config id).contract pid task) pid id
      True (know id pid) (ends id) where
  stable := know_stable
  faulty := fun _ _ _ _ _ _ => trivial
  book := fun stage command active allowed => moves_book active allowed
  charge := fun payment correlationId _ => moves_same rfl rfl rfl <| by
    intro before outcome after known execution
    rcases outcome with error | (⟨transactionId, httpStatus⟩ | error)
    · exact (guardCall_returns execution).elim
    · exact known
    · exact known
  append := fun entry _ => moves_stage rfl rfl rfl
    fun outcome after known => by cases outcome <;> exact known
  refund := fun gatewayId transactionId => moves_same rfl rfl rfl <| by
    intro before outcome after known execution
    rcases outcome with error | (⟨refundId, httpStatus⟩ | error)
    · exact (guardRefund_returns execution).elim
    · exact known
    · exact known
  load := by
    apply moves_hgetPayment fun before inv => keeps_refl inv
    · intro world inv _
      show Loads id (know id pid) (ends id) (world.payment id) world
      cases found : world.payment id with
      | none => exact fun _ => ends_error _ _
      | some record => exact ⟨inv.keyed id record found, trivial⟩
    · exact fun _ _ _ => ends_error _ _
  check := by
    apply moves_getIdempotency fun before inv => keeps_refl inv
    · intro world inv _
      rw [Continues, claim_read, Checks]
      split
      case isTrue final => exact fun _ _ => inv.final final
      case isFalse => exact trivial
    · exact fun _ _ _ => ends_error _ _
  lock := moves_lock
  readLocked := moves_stage rfl rfl rfl fun outcome after known => by
    cases outcome with
    | error error => exact ends_error _ _
    | ok raw => exact known
  enter := moves_enter
  begin := fun record carried => by
    rw [carried.id]
    exact moves_begin carried
  record := fun record transactionId => moves_record
  readRecorded := fun transactionId => moves_stage rfl rfl rfl
    fun outcome _ known => by cases outcome <;> exact known
  complete := fun transactionId previous now => moves_finalize rfl
    (fun _ known => known.2) fun outcome after owned terminal => by
      cases outcome <;> exact ⟨owned, terminal⟩
  burial := by
    rintro stage failure (rfl | ⟨-, transactionId, succeeded, rfl⟩)
    · exact burial rfl
    · exact burial rfl
  release := fun stage result explained => moves_release explained

end Process

section Others

variable {id : PaymentId} {pid : Nat} {task : Task}

/-- A command of a process that knows nothing about the payment. -/
theorem moves_free {command : Command}
    {result : Except Thrown command.Result → World → Prop}
    (payments : command.writes .payments = false)
    (idempotency : command.writes .idempotency = false)
    (locks : command.writes .locks = false)
    (reached : ∀ outcome after, result outcome after) :
    Moves ((discipline config id).contract pid task) pid command
      (fun _ => True) result := by
  intro before outcome after _ execution
  exact ⟨(keeps_elsewhere payments idempotency locks execution).2,
    reached outcome after⟩

private theorem handlerOutline (id : PaymentId) (pid : Nat)
    (jobData : PaymentJobData)
    (error : Thrown) :
    HandlerOutline
      ((discipline config id).contract pid (.handleJobFailure jobData error))
      pid id (fun _ _ => True) (fun _ _ => True) where
  stable := fun _ _ _ _ _ _ => trivial
  lookup := by
    apply moves_hgetPayment fun before inv => keeps_refl inv
    · intro world inv _
      exact @latest_of_found world id (fun _ _ => True) .idle _ (inv.keyed id)
        trivial fun _ => trivial
    · exact fun _ _ _ => trivial
  bury := by
    intro record reason same status _
    have terminal : record.status.terminal = true := by rw [status]; rfl
    refine moves_storage (fun before inv => keeps_refl inv) ?_
      (fun _ _ _ _ => trivial)
    intro before choice _ inv _
    have view := @view_hsetPayment id pid before record
    refine ⟨⟨⟨?_, keyed_effect same inv.keyed⟩, ?_, nofun, nofun⟩, trivial,
      fun message => trivial⟩
    · rw [view]
      exact fun _ => terminal
    · rw [view]
      exact fun _ _ _ => rfl
  readBuried := fun reason => moves_free rfl rfl rfl
    fun outcome after => by cases outcome <;> exact trivial
  fail := by
    intro reason previous now
    refine moves_storage (fun before inv => keeps_refl inv) ?_
      (fun _ _ _ _ => trivial)
    intro before choice _ inv allowed
    have view := @view_setIdempotency id pid before
      (IdempotencyService.finalRecord id .failed .deadLetter none
        (some reason) previous now) config.retentionSeconds
    have terminal : (before.view id).terminal = true :=
      allowed.2.1 rfl (by simp [Command.changes, Command.writes, Command.part,
        StorageCommand.part, Command.target])
    refine ⟨⟨⟨?_, inv.keyed⟩, ?_, nofun, nofun⟩, trivial,
      fun message => trivial⟩
    · rw [view]
      exact fun _ => terminal
    · rw [view]
      exact fun _ _ _ => rfl
  audit := fun reason event => moves_free rfl rfl rfl
    fun outcome after => by cases outcome <;> exact trivial
  emit := fun reason event => moves_free rfl rfl rfl
    fun outcome after => by cases outcome <;> exact trivial
  ready := fun reason => moves_free rfl rfl rfl
    fun outcome after => by cases outcome <;> exact trivial
  route := fun entry _ => moves_free rfl rfl rfl
    fun outcome after => by cases outcome <;> exact trivial
  load := by
    apply moves_hgetPayment fun before inv => keeps_refl inv
    · intro world inv _
      show Handles id (fun _ _ => True) (fun _ _ => True) (world.payment id)
        world
      cases found : world.payment id with
      | none => exact trivial
      | some record =>
          rw [Handles]
          split
          · exact trivial
          · exact ⟨inv.keyed id record found, trivial⟩
    · exact fun _ _ _ => trivial
  routed := fun _ _ _ => trivial
  terminal := fun _ _ => trivial
  aborted := fun _ _ _ => trivial

/-- A write of the idempotency key that does not finalize the payment. -/
theorem keeps_lease {before after : World}
    (keyed : after.Keyed)
    {key : Option (Expiring (Stored IdempotencyRecord))}
    (view : after.view id = { before.view id with key := key })
    (unfinalized : (after.view id).finalized = false) :
    Keeps ((discipline config id).contract pid task) before after := by
  refine ⟨⟨fun final => ?_, keyed⟩, ?_, ?_, fun _ _ _ _ _ => unfinalized⟩
  · exact Bool.noConfusion (final.symm.trans unfinalized)
  · rw [view]
    exact fun _ _ _ => rfl
  · rw [view]
    exact fun _ _ _ _ => rfl

private theorem keeps_submitter (submits : task.submits = true)
    {command : Command}
    {before after : World} {outcome : Except Thrown command.Result}
    (issued : submitterCommand id command)
    (execution : Executes ((discipline config id).contract pid task) pid
      command before outcome after) :
    Keeps ((discipline config id).contract pid task) before after := by
  have inv : Inv id before := execution.invariant
  cases command with
  | storage command =>
      cases command with
      | setNxIdempotency key record ttlSeconds =>
          obtain ⟨rfl, processing⟩ := issued
          apply keeps_storage execution (keeps_refl inv)
          rcases setNxIdempotency_cases key pid before record ttlSeconds with
            ⟨-, unchanged⟩ | ⟨-, -, view⟩
          · rw [unchanged]
            exact keeps_refl inv
          · have kept : ((StorageCommand.setNxIdempotency key record
                ttlSeconds).effect pid before).2.Keyed :=
              @keyed_effect pid (.setNxIdempotency key record ttlSeconds)
                before trivial inv.keyed
            apply keeps_lease kept view
            rw [view]
            simp [View.finalized, View.claim, readsFinal, Stored.parse?,
              processing, IdempotencyState.final]
      | delIdempotency key =>
          cases issued
          apply keeps_storage execution (keeps_refl inv)
          have view := @view_delIdempotency id pid before
          have kept : ((StorageCommand.delIdempotency id).effect pid
              before).2.Keyed := inv.keyed
          apply keeps_lease kept view
          rw [view]
          rfl
      | hsetPayment key record =>
          obtain ⟨rfl, same⟩ := issued
          have unfinalized : (before.view key).finalized = false := by
            obtain ⟨-, choice, allowed, -⟩ := execution
            exact allowed.2.2 submits (by simp [Command.changes,
              Command.writes, Command.part, StorageCommand.part,
              Command.target])
          apply keeps_storage execution (keeps_refl inv)
          have view := @view_hsetPayment key pid before record
          refine ⟨⟨?_, keyed_effect same inv.keyed⟩, ?_, ?_, ?_⟩
          · rw [view]
            exact fun final => Bool.noConfusion (final.symm.trans unfinalized)
          · rw [view]
            exact fun _ _ _ => rfl
          · intro processes
            cases task with
            | submit input => cases processes
            | process job | handleJobFailure jobData error => cases submits
          · rw [view]
            exact fun _ _ _ _ unfinalized => unfinalized
      | setIdempotency _ _ _ | setNxLock _ _ | delLock _ => exact issued.elim
      | _ => exact (keeps_elsewhere rfl rfl rfl execution).2
  | _ => exact (keeps_elsewhere rfl rfl rfl execution).2

end Others

private theorem environment_keeps {id : PaymentId}
    {state : PaymentConfig config}
    {event : Event} {after : World}
    (outlives : lockOutlives id state (.environment event) = true)
    (changed : environment event state.world = some after)
    (inv : Inv id state.world) :
    Inv id after ∧ ∀ pid task program,
      state.threads[pid]? = some (.running task program) →
      Rely pid (state.world.view id) (after.view id) := by
  rcases environment_cases changed with
    ⟨elapsed, rfl, rfl⟩ | ⟨queue, jobId, next, rfl⟩
  · have unfinalized := view_tick_unfinalized state.world id elapsed
    refine ⟨⟨fun final => ?_, inv.keyed⟩, ?_⟩
    · cases before : (state.world.view id).finalized with
      | true => exact inv.final before
      | false => exact Bool.noConfusion ((unfinalized before).symm.trans final)
    · exact fun pid task program found owned =>
        ⟨tick_lock_of_running outlives owned found, rfl, unfinalized⟩
  · exact ⟨⟨inv.final, inv.keyed⟩, fun _ _ _ _ _ => .refl _⟩

/-- A step of another process does not disturb a running lock holder. -/
theorem undisturbed_of_guarantee {id : PaymentId}
    {state next : PaymentConfig config} {pid other : Nat} {choice : Choice}
    {task task' : Task}
    {program program' : Program signature (Except Thrown Output)}
    (admitted : Admitted id state (.run pid choice))
    (taken : (paymentSystem config).step (.run pid choice) state = some next)
    (found : state.threads[pid]? = some (.running task program))
    (different : other ≠ pid)
    (found' : state.threads[other]? = some (.running task' program'))
    (guarantee : Guarantee pid task (state.world.view id)
      (next.world.view id)) :
    Rely other (state.world.view id) (next.world.view id) := by
  intro owned
  have runs := lockRuns_of_running owned found'
  obtain ⟨task', command, resume, outcome, after, running, executed, rfl⟩ :=
    System.step_run_eq_some taken
  obtain ⟨rfl, rfl⟩ : task' = task ∧
      Program.await command resume = program := by
    rw [found] at running
    cases running
    exact ⟨rfl, rfl⟩
  have pending := pending_eq_of_running running
  have tasked := Config.taskOf_of_running running
  have handlers := admitted.handlers
  have saves := admitted.saves
  refine ⟨guarantee.lock other different owned, ?_, ?_⟩
  · cases task' with
    | process job => exact guarantee.stored rfl other different owned
    | submit input =>
        apply stored_of_changes executed
        simpa [savesFirst, pending, tasked, runs] using saves
    | handleJobFailure jobData error =>
        apply stored_of_changes executed
        simp only [handlersAlone, pending, tasked, runs, Bool.and_true,
          Bool.and_eq_true, Bool.not_eq_true'] at handlers
        exact handlers.1
  · cases task' with
    | process _ | submit _ =>
        exact guarantee.unfinalized rfl other different owned
    | handleJobFailure jobData error =>
        have key : (World.view after id).key = (state.world.view id).key := by
          apply key_of_changes executed
          simp only [handlersAlone, pending, tasked, runs, Bool.true_or,
            Bool.and_true, Bool.and_eq_true, Bool.not_eq_true'] at handlers
          exact handlers.2
        intro unfinalized
        show (World.view after id).finalized = false
        rw [View.finalized, View.claim, key]
        exact unfinalized

private theorem sound (id : PaymentId) :
    (discipline config id).Sound (fun state label =>
      admits id state label = true ∧ skips id state label = false) where
  relyRefl := fun _ _ _ _ => .refl _
  relyTrans := fun _ _ _ _ _ left right => left.trans right
  spawns := by
    intro state task _ _
    by_cases ours : task.paymentId = id
    · cases task with
      | submit input =>
          subst ours
          exact (SubmitOutline.unconditional fun _ _ _ _ issued execution =>
            keeps_submitter rfl issued execution).safe_code trivial
              (fun _ _ _ _ => nofun) _
      | process job =>
          refine (processOutline id _ _).safe_code ours trivial ?_ _
          intro outcome final ended _ succeeded
          cases outcome with
          | ok result => exact ended rfl
          | error error => cases succeeded
      | handleJobFailure jobData error =>
          exact (handlerOutline id _ jobData error).safe_code ours trivial error
            (fun _ _ _ _ => nofun) state.world.now
    · exact (aloof.safe_code ours state.world _).mono
        fun _ _ _ same => (ours same).elim
  permits := by
    rintro state pid choice task command resume _ ⟨admitted, enters⟩ found
    replace admitted := admitted_of_admits admitted
    have pending := pending_eq_of_running found
    have tasked := Config.taskOf_of_running found
    have handlers := admitted.handlers
    have saves := admitted.saves
    refine ⟨?_, ?_, ?_⟩
    · rintro rfl
      simpa [skips, pending] using enters
    · intro handles changes
      cases task with
      | submit _ | process _ => cases handles
      | handleJobFailure jobData error =>
          simp only [handlersAlone, pending, tasked, changes, Bool.true_and,
            Bool.and_eq_true, Bool.not_eq_true', Bool.or_eq_false_iff]
            at handlers
          simpa using handlers.2.2
    · intro submits changes
      cases task with
      | process _ | handleJobFailure _ _ => cases submits
      | submit input =>
          simp only [savesFirst, pending, tasked, changes, Bool.true_and,
            Bool.not_eq_true', Bool.or_eq_false_iff] at saves
          exact saves.2
  interferes := by
    intro state pid choice task program other task' program' next _ admitted
      taken found different found' _ guarantee
    exact undisturbed_of_guarantee (admitted_of_admits admitted.1) taken found
      different found' guarantee
  environments := by
    intro state event after holds admitted changed
    obtain ⟨kept, relies⟩ := environment_keeps
      (admitted_of_admits admitted.1).outlives changed holds.invariant
    exact ⟨kept, relies, fun _ _ _ _ => trivial⟩

section Runs

variable {id : PaymentId} {state next : PaymentConfig config}

/-- An execution that finds the lock held ends and changes nothing; the holder
is another process. -/
theorem skipped {pid : Nat} {choice : Choice} (locked : Locked id state)
    (skips : skips id state (.run pid choice) = true)
    (taken : (paymentSystem config).step (.run pid choice) state =
      some next) :
    ∃ key task program output, state.world.locks id = some key ∧
      key.writer ≠ pid ∧
      state.threads[pid]? = some (.running task program) ∧
      next = { state with
        threads := state.threads.set pid (.ended task output) } := by
  simp only [Acknowledge.skips, Bool.and_eq_true, decide_eq_true_eq] at skips
  obtain ⟨suspended, held⟩ := skips
  obtain ⟨key, held⟩ := Option.isSome_iff_exists.mp held
  obtain ⟨task, command, resume, outcome, after, found, executed, rfl⟩ :=
    System.step_run_eq_some taken
  obtain rfl := Option.some.inj
    ((pending_eq_of_running found).symm.trans suspended)
  obtain ⟨rfl, other, output, done⟩ :=
    locked.missed found held executed state.world.now
  refine ⟨key, task, _, output, held, other, found, ?_⟩
  rw [show (paymentSystem config).clock state.world = state.world.now from rfl,
    done]
  rfl

private theorem holds_step {label : PaymentLabel config}
    (holds : (discipline config id).Holds state) (locked : Locked id state)
    (admitted : admits id state label = true)
    (taken : (paymentSystem config).step label state = some next) :
    (discipline config id).Holds next := by
  cases misses : skips id state label with
  | false => exact (sound id).step holds ⟨admitted, misses⟩ taken
  | true =>
      cases label with
      | run pid choice =>
          obtain ⟨key, task, program, output, -, -, found, rfl⟩ :=
            skipped locked misses taken
          exact holds.ended found trivial
      | spawn _ | crash _ | environment _ => cases misses

private theorem reaches_holds {start : PaymentConfig config}
    (holds : (discipline config id).Holds start) (locked : Locked id start)
    (reached : (paymentSystem config).Reaches
      (fun state label => admits id state label = true) start state) :
    (discipline config id).Holds state ∧ Locked id state := by
  induction reached with
  | refl => exact ⟨holds, locked⟩
  | step _ admitted taken induction =>
      obtain ⟨holds, locked⟩ := induction
      exact ⟨holds_step holds locked admitted taken, locked.step taken⟩

end Runs

/-- Nobody has claimed or locked the payment; earlier records may exist. -/
structure Unclaimed (id : PaymentId) (world : World) : Prop where
  lock : world.locks id = none
  key : world.idempotency id = none
  keyed : world.Keyed

theorem Unclaimed.holds {id : PaymentId} {world : World}
    (unclaimed : Unclaimed id world) :
    (discipline config id).Holds (initially world) := by
  refine Discipline.holds_nil ⟨?_, unclaimed.keyed⟩ fun _ => trivial
  intro final
  have missing : (world.view id).key = none := unclaimed.key
  simp [View.finalized, View.claim, missing, readsFinal] at final

theorem Unclaimed.locked {id : PaymentId} {world : World}
    (unclaimed : Unclaimed id world) :
    Locked id (initially world : PaymentConfig config) where
  programs := fun _ _ _ found => by cases found
  owner := fun _ _ _ _ found => by cases found
  started := by
    intro pid owned
    have free : world.lockOwner id = none := by
      rw [World.lockOwner, unclaimed.lock]
      rfl
    cases free.symm.trans owned

/-- The stored record is `completed` or `dead_letter`. -/
def settled (id : PaymentId) (world : World) : Bool :=
  (world.payment id).any fun record =>
    decide (record.status = .completed ∨ record.status = .deadLetter)

private theorem settled_of_terminal {id : PaymentId} {world : World}
    (terminal : (world.view id).terminal = true) :
    settled id world = true := by
  obtain ⟨record, found, finished⟩ := (Option.any_eq_true _ _).mp terminal
  refine (Option.any_eq_true _ _).mpr ⟨record, found, ?_⟩
  cases status : record.status <;> simp_all [PaymentStatus.terminal]

/-- In the runs above, an execution that returns normally leaves a completed
or dead-lettered payment, or another execution that is still running under
the lock. -/
theorem acknowledged_is_carried (config : AppConfig) (id : PaymentId)
    (world : World) (unclaimed : Unclaimed id world)
    (state next : PaymentConfig config) (pid : Nat) (choice : Choice)
    (job : JobHandle) (ours : job.data.paymentId = id)
    (result : ProcessResult)
    (reached : (paymentSystem config).Reaches
      (fun state label => admits id state label = true)
      (initially world) state)
    (admitted : admits id state (.run pid choice) = true)
    (taken : (paymentSystem config).step (.run pid choice) state = some next)
    (returned : next.threads[pid]? =
      some (.ended (.process job) (.ok (.processed result)))) :
    settled id next.world = true ∨
      ∃ other job' program, other ≠ pid ∧ job'.data.paymentId = id ∧
        next.threads[other]? = some (.running (.process job') program) ∧
        next.world.lockOwner id = some other := by
  obtain ⟨holds, locked⟩ :=
    reaches_holds unclaimed.holds unclaimed.locked reached
  cases misses : skips id state (.run pid choice) with
  | false =>
      have terminal := (sound id).ended holds ⟨admitted, misses⟩ taken returned
      exact .inl (settled_of_terminal (terminal ours rfl))
  | true =>
      right
      have runs : lockRuns id state = true := by
        simpa [findsRunning, misses] using (admitted_of_admits admitted).finds
      obtain ⟨key, _, _, _, held, other, -, rfl⟩ :=
        skipped locked misses taken
      rw [lockRuns, held, Option.any_some, Option.any_eq_true] at runs
      obtain ⟨thread, found, running⟩ := runs
      have owned : state.world.lockOwner id = some key.writer := by
        rw [World.lockOwner, held]
        rfl
      cases thread with
      | ended _ _ | crashed _ => cases running
      | running task program =>
          obtain ⟨processes, same, -⟩ :=
            locked.owner key.writer task program owned found
          cases task with
          | submit _ | handleJobFailure _ _ => cases processes
          | process job' =>
              refine ⟨key.writer, job', program, other, same, ?_, owned⟩
              rw [List.getElem?_set_ne (Ne.symm other)]
              exact found

private theorem unclaimed_empty : Unclaimed "p1" (World.empty 0) :=
  ⟨rfl, rfl, keyed_empty⟩

/-- The first worker throws and the second one crashes after they have taken
the lock.  Each time the job is redelivered when the lock has expired; the
third worker executes it up to the release. -/
def completing : List (PaymentLabel .default) :=
  [.spawn (.submit (submission "stripe" 0))] ++ runs 0 6 ++
    [.spawn (.process (delivery 0))] ++ runs 1 3 ++
    [.run 1 (.refused "connection lost"), .environment (.tick 600001),
      .spawn (.process (delivery 0))] ++ runs 2 3 ++
    [.crash 2, .environment (.tick 600001),
      .spawn (.process (delivery 0))] ++ runs 3 11 ++ [accepts 3 "tx1"] ++
    runs 3 12

theorem acknowledged_is_carried_completing :
    ∃ next : PaymentConfig .default,
      next.threads[3]? = some (.ended (.process (delivery 0))
        (.ok (.processed (.completed "p1" (some "tx1"))))) ∧
      (settled "p1" next.world = true ∨
        ∃ other job' program, other ≠ 3 ∧ job'.data.paymentId = "p1" ∧
          next.threads[other]? = some (.running (.process job') program) ∧
          next.world.lockOwner "p1" = some other) := by
  obtain ⟨state, reached, checked⟩ := exists_of_replay
    (paymentSystem .default).step (admits "p1") completing
    (initially (World.empty 0))
    (fun state => admits "p1" state (.run 3 .succeed) &&
      ((paymentSystem .default).step (.run 3 .succeed) state).any fun next =>
        next.threads[3]?.any (returns (.process (delivery 0))
          (.processed (.completed "p1" (some "tx1")))))
    (by decide +kernel)
  simp only [Bool.and_eq_true, Option.any_eq_true] at checked
  obtain ⟨admitted, next, taken, thread, found, ended⟩ := checked
  have returned := found.trans (congrArg some (returns_eq_true ended))
  exact ⟨next, returned, acknowledged_is_carried .default "p1" (World.empty 0)
    unclaimed_empty state next 3 .succeed (delivery 0) rfl _ reached admitted
    taken returned⟩

/-- A worker stops right after its `SET NX`; the job is redelivered before the
lock has expired. -/
def leftLock : List (PaymentLabel .default) :=
  [.spawn (.submit (submission "stripe" 0))] ++ runs 0 6 ++
    [.spawn (.process (delivery 0))] ++ runs 1 3 ++
    [.crash 1, .spawn (.process (delivery 0))] ++ runs 2 2

/-- The second worker acknowledges the job of a payment that nobody works
on. -/
theorem acknowledged_is_dropped :
    ∃ (state next : PaymentConfig .default) (result : ProcessResult),
      (paymentSystem .default).Reaches
        (fun _ label => concerns "p1" label = true)
        (initially (World.empty 0)) state ∧
      (paymentSystem .default).step (.run 2 .succeed) state = some next ∧
      next.threads[2]? = some (.ended (.process (delivery 0))
        (.ok (.processed result))) ∧
      settled "p1" next.world = false ∧
      ¬ ∃ other job' program, other ≠ 2 ∧
        next.threads[other]? = some (.running (.process job') program) := by
  obtain ⟨state, reached, checked⟩ := exists_of_replay
    (paymentSystem .default).step (fun _ label => concerns "p1" label) leftLock
    (initially (World.empty 0))
    (fun state =>
      ((paymentSystem .default).step (.run 2 .succeed) state).any fun next =>
        next.threads[2]?.any (returns (.process (delivery 0))
          (.processed (.skipped "p1"
            "concurrent execution lock held by another worker"))) &&
        !settled "p1" next.world && !next.threads.any Thread.isRunning)
    (by decide +kernel)
  simp only [Bool.and_eq_true, Option.any_eq_true, Bool.not_eq_true']
    at checked
  obtain ⟨next, taken, ⟨⟨thread, found, ended⟩, open_⟩, idle⟩ := checked
  refine ⟨state, next, _, reached, taken,
    found.trans (congrArg some (returns_eq_true ended)), open_, ?_⟩
  rintro ⟨other, job', program, -, running⟩
  have some_runs : next.threads.any Thread.isRunning = true :=
    List.any_eq_true.mpr ⟨_, List.mem_of_getElem? running, rfl⟩
  exact Bool.noConfusion (idle.symm.trans some_runs)

end PaymentQueue.Acknowledge
