import PaymentQueue.Runtime.Rules

/-!
# Runs of the payment system

Assumptions about runs, as predicates on a configuration and the label that
is taken in it: no failing command, no expiry of the keys of a payment.
-/

namespace PaymentQueue

open Await

abbrev PaymentConfig (config : AppConfig) : Type :=
  Config (paymentSystem config)

abbrev PaymentLabel (config : AppConfig) : Type :=
  Label (paymentSystem config)

abbrev PaymentThread (config : AppConfig) : Type :=
  Thread (paymentSystem config)

variable {config : AppConfig}

/-- The command at which a process is suspended. -/
def pendingCommand : PaymentThread config → Option Command
  | .running _ (.await command _) => some command
  | _ => none

def pending (state : PaymentConfig config) (pid : Nat) : Option Command :=
  state.threads[pid]?.bind pendingCommand

theorem pending_eq_of_running {state : PaymentConfig config} {pid : Nat}
    {task : Task} {command : Command}
    {resume : Nat → Except Thrown command.Result →
      Program signature (Except Thrown Output)}
    (found : state.threads[pid]? = some (.running task
      (.await command resume))) : pending state pid = some command := by
  simp [pending, found, pendingCommand]

theorem running_of_pending {state : PaymentConfig config} {pid : Nat}
    {command : Command} (suspended : pending state pid = some command) :
    ∃ task resume, state.threads[pid]? =
      some (.running task (.await command resume)) := by
  obtain ⟨thread, found, same⟩ := Option.bind_eq_some_iff.mp suspended
  rw [found]
  revert same
  fun_cases pendingCommand thread with
  | case1 task command' resume =>
      intro same
      obtain rfl := Option.some.inj same
      exact ⟨task, resume, rfl⟩
  | case2 => exact fun impossible => by cases impossible

/-- The clock does not reach the deadline of a key of the payment. -/
def World.unexpired (world : World) (id : PaymentId) (elapsed : Nat) : Bool :=
  decide ((world.tick elapsed).idempotency id = world.idempotency id) &&
    decide ((world.tick elapsed).locks id = world.locks id)

private theorem view_tick {world : World} {id : PaymentId} {elapsed : Nat}
    (unexpired : world.unexpired id elapsed = true) :
    (world.tick elapsed).view id = world.view id := by
  simp only [World.unexpired, Bool.and_eq_true, decide_eq_true_eq]
    at unexpired
  simp only [World.view, unexpired.1, unexpired.2]
  rfl

/-- No key of the payment expires; BullMQ may move its jobs. -/
def keepsKeys (id : PaymentId) (world : World) : Event → Bool
  | .tick elapsed => world.unexpired id elapsed
  | _ => true

/-- Processes of one payment in any interleaving, in which nothing throws,
crashes or expires. -/
def calm (id : PaymentId) (state : PaymentConfig config) :
    PaymentLabel config → Bool
  | .spawn task => decide (task.paymentId = id)
  | .run _ choice => choice.faultless
  | .crash _ => false
  | .environment event => keepsKeys id state.world event

/-- Moves of BullMQ are not visible in a view. -/
theorem view_environment {world after : World} {id : PaymentId}
    {event : Event} (kept : keepsKeys id world event = true)
    (changed : environment event world = some after) :
    after.view id = world.view id := by
  rcases environment_cases changed with
    ⟨elapsed, rfl, rfl⟩ | ⟨queue, jobId, next, rfl⟩
  · exact view_tick kept
  · rfl

/-- The system before any process was started. -/
def initially (world : World) : PaymentConfig config := ⟨world, []⟩

/-- A submission that returned `created`. -/
def isCreated : PaymentThread config → Bool
  | .ended (.submit _) (.ok (.submitted (.created _))) => true
  | _ => false

def created (state : PaymentConfig config) (pid : Nat) : Bool :=
  state.threads[pid]?.any isCreated

theorem created_eq_true {state : PaymentConfig config} {pid : Nat}
    (returned : created state pid = true) :
    ∃ input record, state.threads[pid]? =
      some (.ended (.submit input) (.ok (.submitted (.created record)))) := by
  obtain ⟨thread, found, accepted⟩ := (Option.any_eq_true _ _).mp returned
  rw [found]
  revert accepted
  fun_cases isCreated thread with
  | case1 input record => exact fun _ => ⟨input, record, rfl⟩
  | case2 => exact fun impossible => by cases impossible

/-- The process returned this output. -/
def returns (task : Task) (output : Output) : PaymentThread config → Bool
  | .ended task' (.ok output') =>
      decide (task' = task) && decide (output' = output)
  | _ => false

theorem returns_eq_true {task : Task} {output : Output}
    {thread : PaymentThread config}
    (returned : returns task output thread = true) :
    thread = .ended task (.ok output) := by
  revert returned
  fun_cases returns task output thread with
  | case1 task' output' =>
      intro returned
      simp only [Bool.and_eq_true, decide_eq_true_eq] at returned
      rw [returned.1, returned.2]
  | case2 => exact fun impossible => by cases impossible

def Task.processes : Task → Bool
  | .process _ => true
  | _ => false

def Task.handles : Task → Bool
  | .handleJobFailure _ _ => true
  | _ => false

/-- At most one of the processes is a submission. -/
def SingleSubmission (state : PaymentConfig config) : Prop :=
  ∀ (first second : Nat) task task', state.taskOf first = some task →
    state.taskOf second = some task' → task.submits = true →
    task'.submits = true → first = second

def submissionStarted (state : PaymentConfig config) : Bool :=
  state.threads.any fun thread => thread.task.submits

private theorem submissionStarted_of_taskOf {state : PaymentConfig config}
    {pid : Nat}
    {task : Task} (found : state.taskOf pid = some task)
    (submits : task.submits = true) : submissionStarted state = true := by
  obtain ⟨thread, stored, rfl⟩ := Option.map_eq_some_iff.mp found
  exact List.any_eq_true.mpr ⟨thread, List.mem_of_getElem? stored, submits⟩

theorem singleSubmission_step {state next : PaymentConfig config}
    {label : PaymentLabel config} (single : SingleSubmission state)
    (guarded : ∀ task, label = .spawn task → task.submits = true →
      submissionStarted state = false)
    (taken : (paymentSystem config).step label state = some next) :
    SingleSubmission next := by
  intro first second task task' found found' submits submits'
  have fresh : ∀ {pid : Nat} {old new : Task}, label = .spawn new →
      new.submits = true → state.taskOf pid = some old →
      old.submits = false := by
    intro pid old new spawned submits earlier
    by_contra submitted
    have started := submissionStarted_of_taskOf earlier
      (eq_true_of_ne_false submitted)
    rw [guarded new spawned submits] at started
    cases started
  rcases System.taskOf_step taken first with
    old | ⟨new, spawned, place, isNew⟩
  · rcases System.taskOf_step taken second with
      old' | ⟨new, spawned, place, isNew⟩
    · exact single first second task task' (old ▸ found) (old' ▸ found')
        submits submits'
    · obtain rfl := Option.some.inj (isNew.symm.trans found')
      rw [fresh spawned submits' (old ▸ found)] at submits
      cases submits
  · rcases System.taskOf_step taken second with
      old' | ⟨new', spawned', place', isNew'⟩
    · obtain rfl := Option.some.inj (isNew.symm.trans found)
      rw [fresh spawned submits (old' ▸ found')] at submits'
      cases submits'
    · exact place.trans place'.symm

/-- A delivery or a failure handler is running. -/
def busy (state : PaymentConfig config) : Bool :=
  state.threads.any fun thread => thread.isRunning && !thread.task.submits

theorem busy_of_running {state : PaymentConfig config} {pid : Nat}
    {task : Task} {program : Program signature (Except Thrown Output)}
    (found : state.threads[pid]? = some (.running task program))
    (worker : task.submits = false) : busy state = true :=
  List.any_eq_true.mpr ⟨_, List.mem_of_getElem? found, by
    simp [Thread.isRunning, Thread.task, worker]⟩

/-- Deliveries and failure handlers run one after another. -/
def Sequential (state : PaymentConfig config) : Prop :=
  ∀ (first second : Nat) task task' program program',
    state.threads[first]? = some (.running task program) →
    state.threads[second]? = some (.running task' program') →
    task.submits = false → task'.submits = false → first = second

theorem sequential_step {state next : PaymentConfig config}
    {label : PaymentLabel config} (sequential : Sequential state)
    (guarded : ∀ task, label = .spawn task → task.submits = false →
      busy state = false)
    (taken : (paymentSystem config).step label state = some next) :
    Sequential next := by
  intro first second task task' program program' found found' worker worker'
  have fresh : ∀ {pid : Nat} {old new : Task} {earlier}, label = .spawn new →
      new.submits = false →
      state.threads[pid]? = some (.running old earlier) →
      old.submits = true := by
    intro pid old new earlier spawned worker running
    by_contra submitted
    have occupied := busy_of_running running (eq_false_of_ne_true submitted)
    rw [guarded new spawned worker] at occupied
    cases occupied
  rcases System.running_step taken found with
    ⟨earlier, old, -⟩ | ⟨spawned, place, -⟩
  · rcases System.running_step taken found' with
      ⟨earlier', old', -⟩ | ⟨spawned', place', -⟩
    · exact sequential first second task task' earlier earlier' old old'
        worker worker'
    · rw [fresh spawned' worker' old] at worker
      cases worker
  · rcases System.running_step taken found' with
      ⟨earlier', old', -⟩ | ⟨spawned', place', -⟩
    · rw [fresh spawned worker old'] at worker'
      cases worker'
    · exact place.trans place'.symm

/-- The system in which one submission was started. -/
def submitted (input : CreatePaymentInput) (world : World) :
    PaymentConfig config :=
  ⟨world, [.resume (.submit input) (((Task.submit input).body config).start
    world.now)]⟩

theorem submitted_first {input : CreatePaymentInput} {world : World}
    {pid : Nat} {task : Task}
    (found : (submitted input world : PaymentConfig config).taskOf pid =
      some task) : pid = 0 := by
  cases pid with
  | zero => rfl
  | succ pid => cases found

theorem sequential_submitted (input : CreatePaymentInput) (world : World) :
    Sequential (submitted input world : PaymentConfig config) := by
  intro first second task task' program program' found found' _ _
  rw [submitted_first (Config.taskOf_of_running found),
    submitted_first (Config.taskOf_of_running found')]

/-- Whoever takes the execution lock takes it while the payment is not
finalized: the check made before the lock still holds. -/
def locksUnfinalized (id : PaymentId) (state : PaymentConfig config) :
    PaymentLabel config → Bool
  | .run pid _ =>
      decide (pending state pid =
          some (.storage (.setNxLock id config.leaseTtlSeconds)) →
        state.world.locks id = none → state.world.finalized id = false)
  | _ => true

/-- The execution lock outlives the execution that took it. -/
def lockOutlives (id : PaymentId) (state : PaymentConfig config) :
    PaymentLabel config → Bool
  | .environment (.tick elapsed) =>
      (state.world.locks id).all fun key =>
        decide (state.world.now + elapsed ≤ key.expiresAt) ||
          !state.threads[key.writer]?.any Thread.isRunning
  | _ => true

/-- The execution lock belongs to a process that still runs. -/
def lockRuns (id : PaymentId) (state : PaymentConfig config) : Bool :=
  (state.world.locks id).any fun key =>
    state.threads[key.writer]?.any Thread.isRunning

theorem lockRuns_of_running {id : PaymentId} {state : PaymentConfig config}
    {owner : Nat} {task : Task}
    {program : Program signature (Except Thrown Output)}
    (owned : (state.world.view id).owner = some owner)
    (running : state.threads[owner]? = some (.running task program)) :
    lockRuns id state = true := by
  obtain ⟨key, locked, rfl⟩ := Option.map_eq_some_iff.mp owned
  have stored : state.world.locks id = some key := locked
  simp [lockRuns, stored, running, Thread.isRunning]

/-- A running execution keeps a lock that outlives it. -/
theorem tick_lock_of_running {id : PaymentId} {state : PaymentConfig config}
    {elapsed owner : Nat} {task : Task}
    {program : Program signature (Except Thrown Output)}
    (outlives : lockOutlives id state (.environment (.tick elapsed)) = true)
    (owned : (state.world.view id).owner = some owner)
    (running : state.threads[owner]? = some (.running task program)) :
    ((state.world.tick elapsed).view id).lock = (state.world.view id).lock := by
  apply view_tick_lock
  intro key locked
  have writer : key.writer = owner := by
    rw [View.owner, locked] at owned
    exact Option.some.inj owned
  have stored : state.world.locks id = some key := locked
  simpa [lockOutlives, stored, writer, running, Thread.isRunning]
    using outlives

/-- Only processes of the payment are started. -/
def concerns (id : PaymentId) : PaymentLabel config → Bool
  | .spawn task => decide (task.paymentId = id)
  | _ => true

/-- Consecutive steps of one process in which no command throws. -/
def runs (pid count : Nat) : List (PaymentLabel config) :=
  List.replicate count (.run pid Choice.succeed)

/-- A submission of payment `p1`, for concrete runs. -/
def submission (gatewayId : String) (delayMs : Nat) : CreatePaymentInput :=
  { id := "p1"
    amount := 500
    currency := "EUR"
    customerId := "c1"
    gatewayId
    priority := none
    maxRetries := none
    scheduledAt := none
    delayMs := some delayMs
    correlationId := none }

/-- A delivery of the job of payment `p1`. -/
def delivery (attemptsMade : Nat) : JobHandle :=
  { id := "p1"
    data := ⟨"p1", none⟩
    attemptsMade }

/-- A gateway that accepts the charge. -/
def accepts (pid : Nat) (transactionId : String) : PaymentLabel config :=
  .run pid (.guard (.answered (.ok transactionId 200)))

end PaymentQueue
