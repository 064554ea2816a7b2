import PaymentQueue.Outlines.Strangers
import PaymentQueue.Runtime.Runs

/-!
# Idempotency states move forward

Any number of submissions, worker executions and failure handlers run at the
same time; commands may throw and processes may crash.  Four operations write
the idempotency key on the strength of earlier reads.  The theorem lists the
moments at which such a read may be out of date, and shows that a finalized
record survives every step of a run that avoids them.
-/

namespace PaymentQueue.Forward

open Await

variable {config : AppConfig}

/-- A failure handler writes the key while no running execution has the
lock. -/
def handlersWait (id : PaymentId) (state : PaymentConfig config) :
    PaymentLabel config → Bool
  | .run pid _ =>
      match state.taskOf pid, pending state pid with
      | some (.handleJobFailure _ _), some command =>
          !(command.changes .idempotency id && lockRuns id state)
      | _, _ => true
  | _ => true

/-- The stale-lease recovery and the release after a failed enqueue delete the
key while the payment is not finalized. -/
def deletesUnfinalized (id : PaymentId) (state : PaymentConfig config) :
    PaymentLabel config → Bool
  | .run pid _ =>
      decide (pending state pid = some (.storage (.delIdempotency id)) →
        state.world.finalized id = false)
  | _ => true

/-- The runs of the theorem below. -/
def admits (id : PaymentId) (state : PaymentConfig config)
    (label : PaymentLabel config) : Bool :=
  locksUnfinalized id state label && handlersWait id state label &&
    deletesUnfinalized id state label && lockOutlives id state label

structure Admitted (id : PaymentId) (state : PaymentConfig config)
    (label : PaymentLabel config) : Prop where
  locks : locksUnfinalized id state label = true
  handlers : handlersWait id state label = true
  deletes : deletesUnfinalized id state label = true
  outlives : lockOutlives id state label = true

theorem admitted_of_admits {id : PaymentId} {state : PaymentConfig config}
    {label : PaymentLabel config} (admitted : admits id state label = true) :
    Admitted id state label := by
  simp only [admits, Bool.and_eq_true] at admitted
  obtain ⟨⟨⟨locks, handlers⟩, deletes⟩, outlives⟩ := admitted
  exact ⟨locks, handlers, deletes, outlives⟩

/-- What the holder of the lock relies on. -/
structure Undisturbed (before after : View) : Prop where
  lock : after.lock = before.lock
  unfinalized : before.finalized = false → after.finalized = false

def Rely (pid : Nat) (before after : View) : Prop :=
  before.owner = some pid → Undisturbed before after

/-- A step keeps a finalized record and the locks of the others; only a failure
handler finalizes a payment of which another process has the lock. -/
structure Guarantee (pid : Nat) (task : Task) (before after : View) :
    Prop where
  forward : before.finalized = true → after.finalized = true
  lock : ∀ other, other ≠ pid → before.owner = some other →
    after.lock = before.lock
  unfinalized : task.handles = false → ∀ other, other ≠ pid →
    before.owner = some other → before.finalized = false →
    after.finalized = false

def discipline (config : AppConfig) (id : PaymentId) :
    Discipline (paymentSystem config) where
  invariant := World.Keyed
  rely := fun pid _ before after => Rely pid (before.view id) (after.view id)
  guarantee := fun pid task before after =>
    Guarantee pid task (before.view id) (after.view id)
  allowed := fun _ _ command _ world =>
    (command = .storage (.setNxLock id config.leaseTtlSeconds) →
      world.locks id = none → world.finalized id = false) ∧
    (command = .storage (.delIdempotency id) → world.finalized id = false)
  post := fun _ _ _ _ => True
  rest := fun _ _ _ => True

theorem Undisturbed.refl (view : View) : Undisturbed view view :=
  ⟨rfl, fun unfinalized => unfinalized⟩

theorem Undisturbed.trans {first second third : View}
    (left : Undisturbed first second) (right : Undisturbed second third) :
    Undisturbed first third :=
  ⟨right.lock.trans left.lock,
    fun unfinalized => right.unfinalized (left.unfinalized unfinalized)⟩

theorem Rely.trans {pid : Nat} {first second third : View}
    (left : Rely pid first second) (right : Rely pid second third) :
    Rely pid first third := by
  intro owned
  have kept := left owned
  have owned' : second.owner = some pid := by
    rw [View.owner, kept.lock]
    exact owned
  exact kept.trans (right owned')

/-- A step that leaves the key and the lock alone. -/
theorem Guarantee.of_same {pid : Nat} {task : Task} {before after : View}
    (key : after.key = before.key) (lock : after.lock = before.lock) :
    Guarantee pid task before after := by
  have same : after.finalized = before.finalized := by
    rw [View.finalized, View.finalized, View.claim, View.claim, key]
  exact ⟨fun final => same.trans final, fun _ _ _ => lock,
    fun _ _ _ _ unfinalized => same.trans unfinalized⟩

/-- What an execution knows at each stage: from the lock on it is the holder.
Between the lock and the write of `PROCESSING` the payment is not finalized. -/
def Knows (pid : Nat) : Stage → View → Prop
  | .idle, _ | .seen, _ | .checked, _ => True
  | .locked, view => view.owner = some pid ∧ view.finalized = false
  | _, view => view.owner = some pid

def know (id : PaymentId) (pid : Nat) (stage : Stage) (world : World) : Prop :=
  Knows pid stage (world.view id)

section Moves

variable {id : PaymentId} {pid : Nat} {task : Task} {stage : Stage}

theorem Knows.owner {view : View} (known : Knows pid stage view)
    (locked : stage.holdsLock = true) : view.owner = some pid := by
  cases stage with
  | idle | seen | checked => cases locked
  | locked => exact known.1
  | _ => exact known

private theorem owner_rely {first second : View} (rely : Rely pid first second)
    (owned : first.owner = some pid) : second.owner = some pid := by
  rw [View.owner, (rely owned).lock]
  exact owned

private theorem know_stable (stage : Stage) :
    Stable ((discipline config id).contract pid task) (know id pid stage) := by
  intro first second rely _ known
  cases stage with
  | idle | seen | checked => exact trivial
  | locked =>
      exact ⟨owner_rely rely known.1, (rely known.1).unfinalized known.2⟩
  | _ => exact owner_rely rely known

/-- A step that leaves the key and the lock of the payment alone. -/
theorem keeps_same {before after : World} (keyed : after.Keyed)
    (key : (after.view id).key = (before.view id).key)
    (lock : (after.view id).lock = (before.view id).lock) :
    Keeps ((discipline config id).contract pid task) before after :=
  ⟨keyed, .of_same key lock⟩

theorem keeps_refl {world : World} (keyed : world.Keyed) :
    Keeps ((discipline config id).contract pid task) world world :=
  keeps_same keyed rfl rfl

private theorem aloof : Aloof
    ((discipline config id).contract pid task) id where
  keyed := fun _ keyed => keyed
  keeps := fun _ _ _ keyed apart => keeps_same keyed apart.key apart.lock

/-- Commands that write neither a key nor a lock. -/
theorem moves_same {command : Command} {fact : World → Prop}
    {result : Except Thrown command.Result → World → Prop}
    (files : command.files)
    (idempotency : command.writes .idempotency = false)
    (locks : command.writes .locks = false)
    (reached : ∀ before outcome after, fact before →
      (after.view id).key = (before.view id).key →
      (after.view id).lock = (before.view id).lock →
      Executes ((discipline config id).contract pid task) pid command before
        outcome after → result outcome after) :
    Moves ((discipline config id).contract pid task) pid command fact
      result := by
  intro before outcome after known execution
  have key : (after.view id).key = (before.view id).key :=
    view_key_of_writes execution idempotency
  have lock : (after.view id).lock = (before.view id).lock :=
    view_lock_of_writes execution locks
  have keyed : after.Keyed := by
    obtain ⟨keyed, choice, -, executed⟩ := execution
    exact keyed_exec executed files keyed
  exact ⟨keeps_same keyed key lock,
    reached before outcome after known key lock execution⟩

/-- The same, when nothing is to be known. -/
theorem moves_free {command : Command} {fact : World → Prop}
    {result : Except Thrown command.Result → World → Prop}
    (files : command.files)
    (idempotency : command.writes .idempotency = false)
    (locks : command.writes .locks = false)
    (reached : ∀ outcome after, result outcome after) :
    Moves ((discipline config id).contract pid task) pid command fact
      result :=
  moves_same files idempotency locks
    fun _ outcome after _ _ _ _ => reached outcome after

theorem Knows.of_same {before after : View} (key : after.key = before.key)
    (lock : after.lock = before.lock) (known : Knows pid stage before) :
    Knows pid stage after := by
  have owner : after.owner = before.owner := by
    rw [View.owner, View.owner, lock]
  have final : after.finalized = before.finalized := by
    rw [View.finalized, View.finalized, View.claim, View.claim, key]
  cases stage with
  | idle | seen | checked => exact trivial
  | locked => exact ⟨owner.trans known.1, final.trans known.2⟩
  | _ => exact owner.trans known

/-- A command of an execution at a stage that it does not leave. -/
theorem moves_stage {command : Command}
    {result : Except Thrown command.Result → World → Prop}
    (files : command.files)
    (idempotency : command.writes .idempotency = false)
    (locks : command.writes .locks = false)
    (reached : ∀ outcome after, Knows pid stage (after.view id) →
      result outcome after) :
    Moves ((discipline config id).contract pid task) pid command
      (know id pid stage) result :=
  moves_same files idempotency locks
    fun _ outcome after known key lock _ =>
      reached outcome after (Knows.of_same key lock known)

/-- The same at a stage under the lock, when only the lock matters. -/
theorem moves_holding {command : Command}
    {result : Except Thrown command.Result → World → Prop}
    (locked : stage.holdsLock = true) (files : command.files)
    (idempotency : command.writes .idempotency = false)
    (locks : command.writes .locks = false)
    (reached : ∀ outcome after, (after.view id).owner = some pid →
      result outcome after) :
    Moves ((discipline config id).contract pid task) pid command
      (know id pid stage) result :=
  moves_stage files idempotency locks
    fun outcome after known => reached outcome after (Knows.owner known locked)

/-- A write of the key by the holder of the lock. -/
theorem moves_setIdempotency {record : IdempotencyRecord} {ttlSeconds : Nat}
    {result : Except Thrown Unit → World → Prop}
    (locked : stage.holdsLock = true)
    (forward : ∀ view, Knows pid stage view → view.finalized = true →
      record.state.final = true)
    (reached : ∀ outcome after, (after.view id).owner = some pid →
      result outcome after) :
    Moves ((discipline config id).contract pid task) pid
      (.storage (.setIdempotency id record ttlSeconds)) (know id pid stage)
      result := by
  refine moves_storage (fun before keyed => keeps_refl keyed) ?_
    (fun before message known _ => reached _ _ (Knows.owner known locked))
  intro before choice known keyed _
  have owned := Knows.owner known locked
  have view := @view_setIdempotency id pid before record ttlSeconds
  have holding : (((StorageCommand.setIdempotency id record
      ttlSeconds).effect pid before).2.view id).owner = some pid := by
    rw [view]
    exact owned
  refine ⟨⟨keyed, ?_, ?_, ?_⟩, reached _ _ holding,
    fun message => reached _ _ holding⟩
  · rw [view]
    exact fun final => forward _ known final
  · rw [view]
    exact fun _ _ _ => rfl
  · intro _ other different held
    exact (different (Option.some.inj (held.symm.trans owned))).elim

private theorem moves_lock {ends : Except Thrown ProcessResult → World → Prop}
    (ended : ∀ outcome world, ends outcome world) :
    Moves ((discipline config id).contract pid task) pid
      (.storage (.setNxLock id config.leaseTtlSeconds)) (know id pid .checked)
      (Continues (Locks id (know id pid) ends) ends) := by
  refine moves_storage (fun before keyed => keeps_refl keyed) ?_
    (fun _ _ _ _ => ended _ _)
  intro before choice _ keyed allowed
  rcases setNxLock_cases id pid before config.leaseTtlSeconds with
    ⟨-, unchanged⟩ | ⟨free, acquired, view⟩
  · rw [unchanged]
    exact ⟨keeps_refl keyed, fun reason => ended _ _,
      fun message => ended _ _⟩
  · have kept : ((StorageCommand.setNxLock id
        config.leaseTtlSeconds).effect pid before).2.Keyed :=
      @keyed_effect pid (.setNxLock id config.leaseTtlSeconds) before trivial
        keyed
    rw [Continues, acquired, Locks, if_pos rfl, know, view]
    refine ⟨⟨kept, ?_⟩, ⟨rfl, allowed.1 rfl free⟩, fun message => ended _ _⟩
    show Guarantee pid task _ _
    rw [view]
    have nobody : (before.view id).owner = none := by
      rw [View.owner, free]
      rfl
    refine ⟨fun final => final, ?_, fun _ _ _ _ unfinalized => unfinalized⟩
    intro other _ owned
    rw [nobody] at owned
    cases owned

private theorem moves_release (locked : stage.holdsLock = true)
    {result : Except Thrown Unit → World → Prop}
    (reached : ∀ outcome world, result outcome world) :
    Moves ((discipline config id).contract pid task) pid
      (.storage (.delLock id)) (know id pid stage) result := by
  refine moves_storage (fun before keyed => keeps_refl keyed) ?_
    (fun _ _ _ _ => reached _ _)
  intro before choice known keyed _
  have owned := Knows.owner known locked
  have view := @view_delLock id pid before
  refine ⟨⟨keyed, ?_, ?_, ?_⟩, reached _ _, fun message => reached _ _⟩
  · rw [view]
    exact fun final => final
  · intro other different held
    exact (different (Option.some.inj (held.symm.trans owned))).elim
  · rw [view]
    exact fun _ _ _ _ unfinalized => unfinalized

theorem burial (inSaga : stage.inSaga = true) :
    BurialOutline ((discipline config id).contract pid task) pid id
      (know id pid) stage where
  stable := know_stable
  lookup := by
    have locked := Stage.holdsLock_of_active (.inl inSaga)
    apply moves_hgetPayment fun before keyed => keeps_refl keyed
    · intro world keyed known
      exact latest_of_found (keyed id) known fun _ => Knows.owner known locked
    · exact fun world message known => Knows.owner known locked
  bury := fun record reason same _ _ => moves_stage same rfl rfl
    fun outcome after known => by
      have owned := Knows.owner known (Stage.holdsLock_of_active (.inl inSaga))
      cases outcome <;> exact owned
  readBuried := fun reason => moves_holding rfl trivial rfl rfl
    fun outcome after owned => by cases outcome <;> exact owned
  fail := fun reason previous now => moves_setIdempotency rfl
    (fun _ _ _ => rfl)
    fun outcome after owned => by cases outcome <;> exact owned
  audit := fun reason event => moves_holding rfl trivial rfl rfl
    fun outcome after owned => by cases outcome <;> exact owned
  emit := fun reason event => moves_holding rfl trivial rfl rfl
    fun outcome after owned => by cases outcome <;> exact owned
  ready := fun reason => moves_holding rfl trivial rfl rfl
    fun outcome after owned => by cases outcome <;> exact owned
  route := fun entry _ => moves_holding rfl trivial rfl rfl
    fun outcome after owned => by cases outcome <;> exact owned

private theorem processOutline (id : PaymentId) (pid : Nat) (task : Task) :
    ProcessOutline ((discipline config id).contract pid task) pid id True
      (know id pid) (fun _ _ => True) where
  stable := know_stable
  faulty := fun _ _ _ _ _ _ => trivial
  book := by
    intro stage command active allowed
    rcases bookkeeping_cases allowed with ⟨record, rfl, fits⟩ | invisible
    · exact moves_stage fits.id_eq rfl rfl fun _ _ known => known
    · have files := files_of_invisible invisible
      simp only [Command.invisible, Bool.not_eq_true', Bool.or_eq_false_iff]
        at invisible
      exact moves_stage files invisible.1.1.1.2 invisible.1.1.2
        fun _ _ known => known
  charge := fun payment correlationId _ => moves_same trivial rfl rfl <| by
    intro before outcome after known key lock execution
    have owned : (after.view id).owner = some pid :=
      Knows.owner (Knows.of_same key lock known) rfl
    rcases outcome with error | (⟨transactionId, httpStatus⟩ | error)
    · exact (guardCall_returns execution).elim
    · exact owned
    · exact owned
  append := fun entry _ => moves_holding rfl trivial rfl rfl
    fun outcome after owned => by cases outcome <;> exact owned
  refund := fun gatewayId transactionId => moves_same trivial rfl rfl <| by
    intro before outcome after known key lock execution
    have owned : (after.view id).owner = some pid :=
      Knows.owner (Knows.of_same key lock known) rfl
    rcases outcome with error | (⟨refundId, httpStatus⟩ | error)
    · exact (guardRefund_returns execution).elim
    · exact owned
    · exact owned
  load := by
    apply moves_hgetPayment fun before keyed => keeps_refl keyed
    · intro world keyed _
      show Loads id (know id pid) (fun _ _ => True) (world.payment id) world
      cases found : world.payment id with
      | none => exact fun _ => trivial
      | some record => exact ⟨keyed id record found, trivial⟩
    · exact fun _ _ _ => trivial
  check := moves_stage trivial rfl rfl fun outcome after known => by
    cases outcome with
    | error error => exact trivial
    | ok raw =>
        simp only [Continues, Checks]
        split
        · exact fun _ => trivial
        · exact trivial
  lock := moves_lock fun _ _ => trivial
  readLocked := moves_stage trivial rfl rfl fun outcome after known => by
    cases outcome with
    | error error => exact trivial
    | ok raw => exact known
  enter := fun claimedAt now => moves_setIdempotency rfl
    (fun view known final => by rw [known.2] at final; cases final)
    fun outcome after owned => by
      cases outcome with
      | error error => exact trivial
      | ok _ => exact owned
  begin := fun record carried => moves_holding rfl rfl rfl rfl
    fun outcome after owned => by cases outcome <;> exact owned
  record := fun record transactionId carried =>
    moves_holding rfl carried.id rfl rfl
      fun outcome after owned => by cases outcome <;> exact owned
  readRecorded := fun transactionId => moves_holding rfl trivial rfl rfl
    fun outcome after owned => by cases outcome <;> exact owned
  complete := fun transactionId previous now => moves_setIdempotency rfl
    (fun _ _ _ => rfl)
    fun outcome after owned => by cases outcome <;> exact owned
  burial := by
    rintro stage failure (rfl | ⟨-, transactionId, succeeded, rfl⟩)
    · exact burial rfl
    · exact burial rfl
  release := fun stage result explained =>
    moves_release (explains_holdsLock explained) fun outcome world => by
      cases outcome <;> exact trivial

private theorem handlerOutline (id : PaymentId) (pid : Nat)
    (jobData : PaymentJobData)
    (error : Thrown) :
    HandlerOutline
      ((discipline config id).contract pid (.handleJobFailure jobData error))
      pid id (fun _ _ => True) (fun _ _ => True) where
  stable := fun _ _ _ _ _ _ => trivial
  lookup := by
    apply moves_hgetPayment fun before keyed => keeps_refl keyed
    · intro world keyed _
      exact @latest_of_found world id (fun _ _ => True) .idle _ (keyed id)
        trivial
        fun _ => trivial
    · exact fun _ _ _ => trivial
  bury := fun record reason same _ _ => moves_free same rfl rfl
    fun outcome after => by cases outcome <;> exact trivial
  readBuried := fun reason => moves_free trivial rfl rfl
    fun outcome after => by cases outcome <;> exact trivial
  fail := by
    intro reason previous now
    refine moves_storage (fun before keyed => keeps_refl keyed) ?_
      (fun _ _ _ _ => trivial)
    intro before choice _ keyed _
    refine ⟨⟨keyed, ?_, ?_, nofun⟩, trivial, fun message => trivial⟩
    · rw [view_setIdempotency]
      exact fun _ => rfl
    · rw [view_setIdempotency]
      exact fun _ _ _ => rfl
  audit := fun reason event => moves_free trivial rfl rfl
    fun outcome after => by cases outcome <;> exact trivial
  emit := fun reason event => moves_free trivial rfl rfl
    fun outcome after => by cases outcome <;> exact trivial
  ready := fun reason => moves_free trivial rfl rfl
    fun outcome after => by cases outcome <;> exact trivial
  route := fun entry _ => moves_free trivial rfl rfl
    fun outcome after => by cases outcome <;> exact trivial
  load := by
    apply moves_hgetPayment fun before keyed => keeps_refl keyed
    · intro world keyed _
      show Handles id (fun _ _ => True) (fun _ _ => True) (world.payment id)
        world
      cases found : world.payment id with
      | none => exact trivial
      | some record =>
          rw [Handles]
          split
          · exact trivial
          · exact ⟨keyed id record found, trivial⟩
    · exact fun _ _ _ => trivial
  routed := fun _ _ _ => trivial
  terminal := fun _ _ => trivial
  aborted := fun _ _ _ => trivial

private theorem keeps_submitter {command : Command} {before after : World}
    {outcome : Except Thrown command.Result}
    (issued : submitterCommand id command)
    (execution : Executes ((discipline config id).contract pid task) pid
      command before outcome after) :
    Keeps ((discipline config id).contract pid task) before after := by
  have keyed : before.Keyed := execution.invariant
  by_cases writes : command.writes .idempotency = true
  · cases command with
    | storage command =>
        cases command with
        | setNxIdempotency key record ttlSeconds =>
            obtain ⟨rfl, processing⟩ := issued
            apply keeps_storage execution (keeps_refl keyed)
            rcases setNxIdempotency_cases key pid before record ttlSeconds with
              ⟨-, unchanged⟩ | ⟨free, -, view⟩
            · rw [unchanged]
              exact keeps_refl keyed
            · have kept : ((StorageCommand.setNxIdempotency key record
                  ttlSeconds).effect pid before).2.Keyed :=
                @keyed_effect pid (.setNxIdempotency key record ttlSeconds)
                  before trivial keyed
              refine ⟨kept, ?_, ?_, ?_⟩
              · intro final
                simp [View.finalized, View.claim, free, readsFinal] at final
              · rw [view]
                exact fun _ _ _ => rfl
              · rw [view]
                intro _ _ _ _ _
                simp [View.finalized, View.claim, readsFinal, Stored.parse?,
                  processing, IdempotencyState.final]
        | delIdempotency key =>
            cases issued
            have unfinalized : (before.view id).finalized = false := by
              obtain ⟨-, choice, allowed, -⟩ := execution
              exact allowed.2 rfl
            apply keeps_storage execution (keeps_refl keyed)
            refine ⟨keyed, ?_, ?_, ?_⟩
            · exact fun final => Bool.noConfusion (final.symm.trans unfinalized)
            · rw [view_delIdempotency]
              exact fun _ _ _ => rfl
            · rw [view_delIdempotency]
              exact fun _ _ _ _ _ => rfl
        | setIdempotency _ _ _ => exact issued.elim
        | _ => cases writes
    | _ => cases writes
  · have locks : command.writes .locks = false := by
      cases command with
      | storage command =>
          cases command with
          | setNxLock _ _ | delLock _ => exact issued.elim
          | _ => rfl
      | _ => rfl
    have files : command.files := files_of_submitterCommand issued
    have key : (after.view id).key = (before.view id).key :=
      view_key_of_writes execution (eq_false_of_ne_true writes)
    have lock : (after.view id).lock = (before.view id).lock :=
      view_lock_of_writes execution locks
    obtain ⟨-, choice, -, executed⟩ := execution
    exact keeps_same (keyed_exec executed files keyed) key lock

end Moves

private theorem environment_keeps {id : PaymentId}
    {state : PaymentConfig config}
    {event : Event} {after : World}
    (outlives : lockOutlives id state (.environment event) = true)
    (changed : environment event state.world = some after)
    (keyed : state.world.Keyed) :
    after.Keyed ∧ ∀ pid task program,
      state.threads[pid]? = some (.running task program) →
      Rely pid (state.world.view id) (after.view id) := by
  cases event with
  | tick elapsed =>
      cases changed
      refine ⟨keyed, fun pid task program found owned => ⟨?_, ?_⟩⟩
      · exact tick_lock_of_running outlives owned found
      · exact view_tick_unfinalized _ _ _
  | activate queue jobId | complete queue jobId | fail queue jobId =>
      rcases environment_cases changed with
        ⟨elapsed, impossible, -⟩ | ⟨queue', jobId', next, rfl⟩
      · cases impossible
      · exact ⟨keyed, fun _ _ _ _ _ => .refl _⟩

/-- A step of another process does not disturb a running lock holder. -/
theorem undisturbed_of_guarantee {id : PaymentId}
    {state next : PaymentConfig config} {pid other : Nat} {choice : Choice}
    {task task' : Task} {program program' : Program signature (Except Thrown Output)}
    (handlers : handlersWait id state (.run pid choice) = true)
    (taken : (paymentSystem config).step (.run pid choice) state = some next)
    (found : state.threads[pid]? = some (.running task program))
    (different : other ≠ pid)
    (found' : state.threads[other]? = some (.running task' program'))
    (guarantee : Guarantee pid task (state.world.view id)
      (next.world.view id)) :
    Rely other (state.world.view id) (next.world.view id) := by
  intro owned
  refine ⟨guarantee.lock other different owned, ?_⟩
  cases handles : task.handles with
  | false => exact guarantee.unfinalized handles other different owned
  | true =>
      obtain ⟨task', command, resume, outcome, after, running, executed, rfl⟩ :=
        System.step_run_eq_some taken
      obtain ⟨rfl, rfl⟩ : task' = task ∧
          Program.await command resume = program := by
        rw [found] at running
        cases running
        exact ⟨rfl, rfl⟩
      have key : (World.view after id).key = (state.world.view id).key := by
        apply key_of_changes executed
        cases task' with
        | submit _ | process _ => cases handles
        | handleJobFailure jobData error =>
            simpa [handlersWait, pending_eq_of_running running,
              Config.taskOf_of_running running,
              lockRuns_of_running owned found'] using handlers
      intro unfinalized
      show (World.view after id).finalized = false
      rw [View.finalized, View.claim, key]
      exact unfinalized

private theorem sound (id : PaymentId) :
    (discipline config id).Sound
      (fun state label => admits id state label = true) where
  relyRefl := fun _ _ _ _ => .refl _
  relyTrans := fun _ _ _ _ _ left right => left.trans right
  spawns := by
    intro state task _ _
    by_cases ours : task.paymentId = id
    · cases task with
      | submit input =>
          subst ours
          exact (SubmitOutline.unconditional fun _ _ _ _ issued execution =>
            keeps_submitter issued execution).safe_code trivial
              (fun _ _ ended => ended) _
      | process job =>
          exact (processOutline id _ _).safe_code ours trivial
            (fun _ _ ended => ended) _
      | handleJobFailure jobData error =>
          exact (handlerOutline id _ jobData error).safe_code ours trivial error
            (fun _ _ ended => ended) state.world.now
    · exact aloof.safe_code ours state.world _
  permits := by
    intro state pid choice task command resume _ admitted found
    replace admitted := admitted_of_admits admitted
    have pending := pending_eq_of_running found
    constructor
    · rintro rfl
      exact of_decide_eq_true admitted.locks pending
    · rintro rfl
      exact of_decide_eq_true admitted.deletes pending
  interferes := by
    intro state pid choice task program other task' program' next _ admitted
      taken found different found' _ guarantee
    exact undisturbed_of_guarantee (admitted_of_admits admitted).handlers taken
      found different found' guarantee
  environments := by
    intro state event after holds admitted changed
    obtain ⟨kept, relies⟩ := environment_keeps
      (admitted_of_admits admitted).outlives changed holds.invariant
    exact ⟨kept, relies, fun _ _ _ _ => trivial⟩

/-- The retention of the finalized record is not over after the step. -/
def withinRetention (id : PaymentId) (state : PaymentConfig config) :
    PaymentLabel config → Bool
  | .environment (.tick elapsed) =>
      (state.world.idempotency id).all fun key =>
        decide (state.world.now + elapsed ≤ key.expiresAt)
  | _ => true

private theorem finalized_tick {id : PaymentId} {world : World} {elapsed : Nat}
    (kept : (world.idempotency id).all fun key =>
      decide (world.now + elapsed ≤ key.expiresAt))
    (final : world.finalized id = true) :
    (world.tick elapsed).finalized id = true := by
  cases stored : world.idempotency id with
  | none => simp [World.finalized, World.claim, stored, readsFinal] at final
  | some key =>
      rw [stored, Option.all_some, decide_eq_true_eq] at kept
      simpa [World.finalized, World.claim, World.tick, stored, kept,
        Option.filter_some] using final

/-- In the runs above no step undoes a finalization before its retention is
over. -/
theorem finalized_stays (config : AppConfig) (id : PaymentId) (world : World)
    (keyed : world.Keyed) (state next : PaymentConfig config)
    (label : PaymentLabel config)
    (reached : (paymentSystem config).Reaches
      (fun state label => admits id state label = true)
      (initially world) state)
    (admitted : admits id state label = true)
    (retained : withinRetention id state label = true)
    (taken : (paymentSystem config).step label state = some next)
    (final : state.world.finalized id = true) :
    next.world.finalized id = true := by
  have start : (discipline config id).Holds (initially world) :=
    Discipline.holds_nil keyed fun _ => trivial
  have holds := (sound id).reaches start reached
  cases label with
  | spawn task =>
      cases taken
      exact final
  | run pid choice =>
      obtain ⟨_, _, _, _, _, _, guarantee, _⟩ :=
        (sound id).run holds admitted taken
      exact guarantee.forward final
  | crash pid =>
      obtain ⟨task, program, -, rfl⟩ := System.step_crash_eq_some taken
      exact final
  | environment event =>
      obtain ⟨after, changed, rfl⟩ := System.step_environment_eq_some taken
      have unseen : keepsKeys id state.world event = true →
          after.view id = state.world.view id :=
        fun kept => view_environment kept changed
      cases event with
      | tick elapsed =>
          cases changed
          exact finalized_tick retained final
      | activate queue jobId | complete queue jobId | fail queue jobId =>
          show (after.view id).finalized = true
          rw [unseen rfl]
          exact final

/-- Another payment is submitted; the queue refuses the job of the first
submission of payment `p1`, which deletes its lease; the second submission is
executed up to the write of `COMPLETED`. -/
def completing : List (PaymentLabel .default) :=
  [.spawn (.submit { submission "stripe" 0 with id := "p2" })] ++ runs 0 6 ++
    [.spawn (.submit (submission "stripe" 0))] ++ runs 1 5 ++
    [.run 1 (.refused "connection lost")] ++ runs 1 1 ++
    [.spawn (.submit (submission "stripe" 0))] ++ runs 2 6 ++
    [.spawn (.process (delivery 0))] ++ runs 3 11 ++ [accepts 3 "tx1"] ++
    runs 3 9

/-- The step that writes the audit entry keeps the finalized record. -/
theorem finalized_stays_completing :
    ∃ state next : PaymentConfig .default, state.world.finalized "p1" = true ∧
      (paymentSystem .default).step (.run 3 .succeed) state = some next ∧
      next.world.finalized "p1" = true := by
  obtain ⟨state, reached, checked⟩ := exists_of_replay
    (paymentSystem .default).step (admits "p1") completing (initially (World.empty 0))
    (fun state => state.world.finalized "p1" &&
      admits "p1" state (.run 3 .succeed) &&
      ((paymentSystem .default).step (.run 3 .succeed) state).isSome)
    (by decide +kernel)
  simp only [Bool.and_eq_true, Option.isSome_iff_exists] at checked
  obtain ⟨⟨final, admitted⟩, next, taken⟩ := checked
  exact ⟨state, next, final, taken, finalized_stays .default "p1"
    (World.empty 0) keyed_empty state next (.run 3 .succeed) reached
    admitted rfl taken final⟩

/-- The second worker checks before the first one finalizes, and takes the
lock afterwards. -/
def checkThenLock : List (PaymentLabel .default) :=
  [.spawn (.submit (submission "stripe" 0))] ++ runs 0 6 ++
    [.spawn (.process (delivery 0)), .spawn (.process (delivery 0))] ++
    runs 2 2 ++ runs 1 11 ++ [accepts 1 "tx1"] ++ runs 1 13 ++ runs 2 2

/-- Its next step overwrites `COMPLETED` with `PROCESSING`. -/
theorem finalized_overwritten :
    ∃ state next : PaymentConfig .default,
      (paymentSystem .default).Reaches
        (fun state label => calm "p1" state label = true)
        (initially (World.empty 0)) state ∧
      (paymentSystem .default).step (.run 2 .succeed) state = some next ∧
      state.world.finalized "p1" = true ∧
      next.world.finalized "p1" = false := by
  obtain ⟨state, reached, checked⟩ := exists_of_replay
    (paymentSystem .default).step (calm "p1") checkThenLock (initially (World.empty 0))
    (fun state => state.world.finalized "p1" &&
      ((paymentSystem .default).step (.run 2 .succeed) state).any fun next =>
        !next.world.finalized "p1") (by decide +kernel)
  simp only [Bool.and_eq_true, Option.any_eq_true, Bool.not_eq_true']
    at checked
  obtain ⟨final, next, taken, lost⟩ := checked
  exact ⟨state, next, reached, taken, final, lost⟩

end PaymentQueue.Forward
