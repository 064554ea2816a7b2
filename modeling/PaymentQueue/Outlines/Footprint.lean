import PaymentQueue.Outlines.Terms
import PaymentQueue.Runtime.Runs

/-!
# The commands of the payment path

Which commands a function can issue, whatever they reply.  Most functions
concern no execution lock.  A worker execution takes the lock of its payment
once, and an execution that has taken it releases it with its last command.
-/

namespace PaymentQueue

open Await PaymentSagaService PaymentProcessor

/-- The payment whose execution lock a command concerns. -/
def Command.lockOf : Command → Option PaymentId
  | .storage (.setNxLock id _) => some id
  | .storage (.delLock id) => some id
  | _ => none

def Command.adds : Command → Bool
  | .storage (.queueAdd _ _ _ _) => true
  | _ => false

/-- Commands of a set, with any replies. -/
def issued (permits : Command → Prop) : Footprint signature where
  permitted := permits
  replies := fun _ _ => True

/-- Only queue additions and the commands of an execution lock may be missing
from the set, and what `enqueue` and `routeToDlq` add is in it. -/
class Customary (permits : Command → Prop) : Prop where
  plain : ∀ command, Command.lockOf command = none →
    Command.adds command = false → permits command
  enqueued : ∀ input : QueueManager.EnqueuePaymentJobInput,
    input.jobId = input.paymentId →
      permits (.storage (.queueAdd
        (QueueManager.queueNameFor input.gatewayId) input.jobId
        (.payment ⟨input.paymentId, input.correlationId⟩)
        (QueueManager.jobOptions input)))
  routed : ∀ entry : DlqEntry,
    permits (.storage (.queueAdd QueueManager.dlqQueueName entry.paymentId
      (.deadLetter entry) { priority := 0, delay := 0, attempts := 1 }))

variable {locals α β : Type} {permits : Command → Prop} {key : PaymentId}

private theorem permits_plain [Customary permits] {command : Command}
    (free : command.lockOf = none) (adds : command.adds = false) :
    (issued permits).permitted command :=
  @Customary.plain permits _ command free adds

/-- Whatever the functions put into their commands, the set has them. -/
def customary (permits : Command → Prop) [Customary permits] :
    Charges (issued permits) where
  own := fun _ _ => True
  named := fun _ => True
  concerns := fun _ _ => True
  carried := fun _ _ => True
  own_self := fun _ => trivial
  own_named := fun _ => trivial
  own_concerns := fun _ => trivial
  own_correlated := fun _ => trivial
  own_carried := fun _ _ => trivial
  loads := fun _ => permits_plain rfl rfl
  loaded := fun _ _ => trivial
  saves := fun _ _ => permits_plain rfl rfl
  reads := fun _ => permits_plain rfl rfl
  claims := fun _ _ _ _ _ => permits_plain rfl rfl
  marks := fun _ _ _ _ _ => permits_plain rfl rfl
  releases := fun _ => permits_plain rfl rfl
  audits := fun _ _ _ _ => permits_plain rfl rfl
  readies := fun _ => permits_plain rfl rfl
  enqueues := fun record delayMs _ =>
    @Customary.enqueued permits _
      (PaymentService.enqueueInput record delayMs) rfl
  routes := fun entry _ => @Customary.routed permits _ entry
  announces := fun _ _ _ _ _ _ _ _ _ _ => permits_plain rfl rfl
  reports := fun _ _ _ _ _ => permits_plain rfl rfl
  phases := fun _ _ _ _ _ _ => permits_plain rfl rfl
  calls := fun _ _ _ => permits_plain rfl rfl
  refunds := fun _ _ _ _ => permits_plain rfl rfl
  alarms := fun _ _ _ _ _ => permits_plain rfl rfl
  settles := fun _ _ _ _ => permits_plain rfl rfl
  completes := fun _ _ _ _ _ _ _ _ => permits_plain rfl rfl
  succeeds := fun _ _ _ _ _ => permits_plain rfl rfl

/-- The function issues commands of the set only. -/
def Issues (permits : Command → Prop) (body : Async locals α) : Prop :=
  ∀ vars, Async.Uses (issued permits) (fun _ _ => True) body vars

namespace Issues

private theorem of_stays {body : Async locals α}
    (stays : Async.Stays (issued permits) (fun _ => True) body) :
    Issues permits body :=
  fun vars => stays vars trivial

variable [Customary permits]

private theorem storeGet (id : PaymentId) :
    Issues permits (PaymentStore.get id : Async locals _) :=
  of_stays (Async.stays_bind (Async.stays_await (permits_plain rfl rfl))
    fun _ => Async.stays_pure _)

private theorem idempotencyGet (id : PaymentId) :
    Issues permits (IdempotencyService.get id : Async locals _) :=
  of_stays (customary permits).stays_idempotencyGet

/-- The critical section of a worker execution. -/
private theorem attempt (config : AppConfig) (job : JobHandle) (startedAt : Time) :
    Issues permits (PaymentProcessor.attempt config job startedAt) :=
  of_stays ((customary permits).stays_attempt trivial trivial)

/-- What follows a successful acquisition in `acquireExecutionLock`. -/
private theorem enter (config : AppConfig) (id : PaymentId) :
    Issues permits (do
      let existing ← IdempotencyService.get id
      let now ← Async.dateNow
      awaitStorage (.setIdempotency id
        (IdempotencyService.processingRecord id
          ((existing.bind IdempotencyRecord.claimedAt).getD now) now)
        config.leaseTtlSeconds)
      return true : Async locals Bool) :=
  of_stays ((customary permits).stays_entered trivial)

/-- The program of a process issues commands of the set, if its locking
commands are in it. -/
theorem code (config : AppConfig) (task : Task) (time : Time)
    (locks : ∀ id ttlSeconds, task.processes = true → task.paymentId = id →
      permits (.storage (.setNxLock id ttlSeconds)) ∧
        permits (.storage (.delLock id))) :
    ((paymentSystem config).code task time).Uses (issued permits)
      fun _ => True := by
  have body : Async.Stays (issued permits) (fun _ => True)
      (task.body config) := by
    cases task with
    | submit input =>
        exact Async.stays_bind
          ((customary permits).stays_submit fun _ => trivial)
          fun _ => Async.stays_pure _
    | process job =>
        obtain ⟨locks, unlocks⟩ := locks job.data.paymentId
          config.leaseTtlSeconds rfl rfl
        exact Async.stays_bind
          ((customary permits).stays_processJob trivial trivial locks unlocks)
          fun _ => Async.stays_pure _
    | handleJobFailure jobData error =>
        exact Async.stays_bind
          ((customary permits).stays_handleJobFailure trivial error)
          fun _ => Async.stays_pure _
  refine (Program.uses_bind_iff _ _).mpr ?_
  exact (body () trivial time).imp fun _ _ => trivial

end Issues

/-- Commands that do not concern the lock of a payment. -/
def Lockless (key : PaymentId) (command : Command) : Prop :=
  command.lockOf ≠ some key

instance : Customary (Lockless key) where
  plain := fun command free _ => by simp [Lockless, free]
  enqueued := fun _ _ => by simp [Lockless, Command.lockOf]
  routed := fun _ => by simp [Lockless, Command.lockOf]

/-- The reply of a lock acquisition that succeeded. -/
def acquires : (command : Command) → Except Thrown command.Result → Bool
  | .storage (.setNxLock _ _), .ok true => true
  | _, _ => false

/-- The rest of an execution that has taken the lock: if it concerns the lock
again, it releases it with its last command. -/
def Inside (key : PaymentId) : Program signature α → Prop
  | .done _ => True
  | .await command resume =>
      (command.lockOf ≠ some key ∧
        ∀ time outcome, Inside key (resume time outcome)) ∨
      (command = .storage (.delLock key) ∧
        ∀ time outcome, ∃ value, resume time outcome = .done value)

/-- The rest of a process that has not taken the lock: if it concerns the lock,
it tries to take it, and it ends when it does not get it. -/
def Outside (key : PaymentId) : Program signature α → Prop
  | .done _ => True
  | .await command resume =>
      (command.lockOf ≠ some key ∧
        ∀ time outcome, Outside key (resume time outcome)) ∨
      ((∃ ttlSeconds, command = .storage (.setNxLock key ttlSeconds)) ∧
        ∀ time outcome, Inside key (resume time outcome) ∧
          (acquires command outcome = false →
            ∃ value, resume time outcome = .done value))

section Brackets

variable {program : Program signature α} {next : α → Program signature β}

theorem Inside.bind (uses : program.Uses (issued (Lockless key)) fun _ => True)
    (rest : ∀ value, Inside key (next value)) :
    Inside key (program.bind next) := by
  induction program with
  | done value => exact rest value
  | await command resume induction =>
      refine .inl ⟨uses.1, fun time outcome => ?_⟩
      exact induction time outcome (uses.2 time outcome trivial)

theorem Outside.bind (uses : program.Uses (issued (Lockless key)) fun _ => True)
    (rest : ∀ value, Outside key (next value)) :
    Outside key (program.bind next) := by
  induction program with
  | done value => exact rest value
  | await command resume induction =>
      refine .inl ⟨uses.1, fun time outcome => ?_⟩
      exact induction time outcome (uses.2 time outcome trivial)

private theorem done_bind_of_ends (done : ∃ value, program = .done value)
    (ends : ∀ value, ∃ result, next value = .done result) :
    ∃ result, program.bind next = .done result := by
  obtain ⟨value, rfl⟩ := done
  exact ends value

theorem Outside.of_uses
    (uses : program.Uses (issued (Lockless key)) fun _ => True) :
    Outside key program := by
  induction program with
  | done value => exact trivial
  | await command resume induction =>
      refine .inl ⟨uses.1, fun time outcome => ?_⟩
      exact induction time outcome (uses.2 time outcome trivial)

/-- What follows without a command does not matter. -/
theorem Inside.map (inside : Inside key program)
    (ends : ∀ value, ∃ result, next value = .done result) :
    Inside key (program.bind next) := by
  induction program with
  | done value =>
      obtain ⟨result, same⟩ := ends value
      rw [Program.done_bind, same]
      exact trivial
  | await command resume induction =>
      rcases inside with ⟨other, rest⟩ | ⟨releases, rest⟩
      · exact .inl ⟨other, fun time outcome =>
          induction time outcome (rest time outcome)⟩
      · exact .inr ⟨releases, fun time outcome =>
          done_bind_of_ends (rest time outcome) ends⟩

theorem Outside.map (outside : Outside key program)
    (ends : ∀ value, ∃ result, next value = .done result) :
    Outside key (program.bind next) := by
  induction program with
  | done value =>
      obtain ⟨result, same⟩ := ends value
      rw [Program.done_bind, same]
      exact trivial
  | await command resume induction =>
      rcases outside with ⟨other, rest⟩ | ⟨acquires, rest⟩
      · exact .inl ⟨other, fun time outcome =>
          induction time outcome (rest time outcome)⟩
      · refine .inr ⟨acquires, fun time outcome => ?_⟩
        obtain ⟨inside, finished⟩ := rest time outcome
        exact ⟨inside.map ends, fun missed =>
          done_bind_of_ends (finished missed) ends⟩

/-- A function body, followed by the rest of the critical section. -/
theorem Inside.async {action : Async locals α} {rest : α → Async locals β}
    (first : Issues (Lockless key) action)
    (continues : ∀ value time vars, Inside key (rest value time vars))
    (time : Time) (vars : locals) : Inside key ((action >>= rest) time vars) := by
  refine Inside.bind (first vars time) fun final => ?_
  cases outcome : final.outcome with
  | ok value => exact continues value final.time final.locals
  | error error => exact trivial

theorem Outside.async {action : Async locals α} {rest : α → Async locals β}
    (first : Issues (Lockless key) action)
    (continues : ∀ value time vars, Outside key (rest value time vars))
    (time : Time) (vars : locals) :
    Outside key ((action >>= rest) time vars) := by
  refine Outside.bind (first vars time) fun final => ?_
  cases outcome : final.outcome with
  | ok value => exact continues value final.time final.locals
  | error error => exact trivial

end Brackets

section Execution

variable (config : AppConfig) (job : JobHandle)

private theorem inside_lockedAttempt (startedAt time : Time)
    (record : PaymentRecord) :
    Inside job.data.paymentId
      (lockedAttempt config job startedAt time record) := by
  apply Inside.bind (Issues.attempt config job startedAt record time)
  intro final
  refine .inr ⟨rfl, fun time outcome => ?_⟩
  cases outcome with
  | ok value => exact ⟨_, rfl⟩
  | error error => exact ⟨_, rfl⟩

/-- From the acquisition on. -/
theorem outside_lockedAttempt (startedAt time : Time) (record : PaymentRecord)
    (vars : locals) :
    Outside job.data.paymentId ((do
      let locked ← IdempotencyService.acquireExecutionLock config
        job.data.paymentId
      if locked = false then
        return .skipped job.data.paymentId
          "concurrent execution lock held by another worker"
      else
        Async.scope record (lockedAttempt config job startedAt) :
      Async locals ProcessResult) time vars) := by
  refine .inr ⟨⟨_, rfl⟩, fun time outcome => ?_⟩
  match outcome with
  | .error error => exact ⟨trivial, fun _ => ⟨_, rfl⟩⟩
  | .ok false => exact ⟨trivial, fun _ => ⟨_, rfl⟩⟩
  | .ok true =>
      refine ⟨?_, fun missed => by cases missed⟩
      refine Inside.async (Issues.enter config _) ?_ time vars
      intro locked time vars
      cases locked with
      | false => exact trivial
      | true =>
          exact (inside_lockedAttempt config job startedAt time record).map
            fun final => ⟨_, rfl⟩

private theorem outside_processJob (time : Time) (vars : locals) :
    Outside job.data.paymentId (processJob config job time vars) := by
  refine Outside.async (Issues.storeGet _) ?_ time vars
  intro found loaded vars
  cases found with
  | none => exact trivial
  | some record =>
      refine Outside.async (Issues.idempotencyGet _) ?_ loaded vars
      intro existing checked vars
      dsimp only
      split
      · exact trivial
      · exact outside_lockedAttempt config job time checked record vars

/-- Only executions of a payment concern its lock. -/
theorem lockless_code (key : PaymentId) (task : Task) (time : Time)
    (other : ¬ (task.processes = true ∧ task.paymentId = key)) :
    ((paymentSystem config).code task time).Uses (issued (Lockless key))
      fun _ => True := by
  apply Issues.code config task time
  intro id ttlSeconds processes same
  have different : some id ≠ some key := fun equal =>
    other ⟨processes, same.trans (Option.some.inj equal)⟩
  exact ⟨different, different⟩

/-- Every process brackets its use of a lock. -/
theorem outside_code (key : PaymentId) (task : Task) (time : Time) :
    Outside key ((paymentSystem config).code task time) := by
  by_cases ours : task.processes = true ∧ task.paymentId = key
  · obtain ⟨processes, rfl⟩ := ours
    cases task with
    | process job =>
        refine Outside.map ?_ fun final => ⟨final.outcome, rfl⟩
        refine (outside_processJob config job time ()).map fun final => ?_
        cases outcome : final.outcome with
        | ok result => exact ⟨_, rfl⟩
        | error error => exact ⟨_, rfl⟩
    | submit input | handleJobFailure jobData error => cases processes
  · exact Outside.of_uses (lockless_code config key task time ours)

end Execution

variable {config : AppConfig} {id : PaymentId}
  {program : Program signature (Except Thrown Output)}

/-- Executions of the payment bracket its lock; the other processes do not
concern it. -/
def Bracketed (id : PaymentId) (task : Task)
    (program : Program signature (Except Thrown Output)) : Prop :=
  if task.processes = true ∧ task.paymentId = id then
    Outside id program ∨ Inside id program
  else program.Uses (issued (Lockless id)) fun _ => True

private theorem bracketed_code (task : Task) (time : Time) :
    Bracketed id task ((paymentSystem config).code task time) := by
  rw [Bracketed]
  split
  case isTrue => exact .inl (outside_code config id task time)
  case isFalse other => exact lockless_code config id task time other

/-- What remains of a process after a command, if it runs on. -/
theorem Bracketed.resume {task : Task} {command : Command}
    {resume : Nat → Except Thrown command.Result →
      Program signature (Except Thrown Output)}
    (bracketed : Bracketed id task (.await command resume)) (time : Nat)
    (outcome : Except Thrown command.Result)
    (runs : ∀ value, resume time outcome ≠ .done value) :
    Bracketed id task (resume time outcome) := by
  rw [Bracketed] at bracketed ⊢
  split at bracketed
  case isFalse other =>
    rw [if_neg other]
    exact bracketed.2 time outcome trivial
  case isTrue ours =>
    rw [if_pos ours]
    rcases bracketed with (⟨-, rest⟩ | ⟨-, rest⟩) | (⟨-, rest⟩ | ⟨-, ends⟩)
    · exact .inl (rest time outcome)
    · exact .inr (rest time outcome).1
    · exact .inr (rest time outcome)
    · obtain ⟨value, done⟩ := ends time outcome
      exact (runs value done).elim

/-- Only an execution of the payment that has not taken the lock tries to. -/
theorem Bracketed.takes {task : Task} {ttlSeconds : Nat}
    {resume : Nat → Except Thrown Bool →
      Program signature (Except Thrown Output)}
    (bracketed : Bracketed id task
      (.await (.storage (.setNxLock id ttlSeconds)) resume)) :
    (task.processes = true ∧ task.paymentId = id) ∧
      ∀ time outcome, Inside id (resume time outcome) ∧
        (outcome ≠ .ok true → ∃ value, resume time outcome = .done value) := by
  rw [Bracketed] at bracketed
  split at bracketed
  case isFalse => exact (bracketed.1 rfl).elim
  case isTrue ours =>
    refine ⟨ours, fun time outcome => ?_⟩
    rcases bracketed with (⟨other, -⟩ | ⟨-, rest⟩) | (⟨other, -⟩ | ⟨same, -⟩)
    · exact (other rfl).elim
    · obtain ⟨inside, missed⟩ := rest time outcome
      refine ⟨inside, fun failed => missed ?_⟩
      match outcome with
      | .ok true => exact (failed rfl).elim
      | .ok false => rfl
      | .error error => rfl
    · exact (other rfl).elim
    · cases same

/-- Whoever wrote the lock is an execution of the payment, and as long as it
runs it has not released the lock. -/
structure Locked (id : PaymentId) (state : PaymentConfig config) : Prop where
  programs : ∀ (pid : Nat) task program,
    state.threads[pid]? = some (.running task program) →
    Bracketed id task program
  owner : ∀ (pid : Nat) task program, state.world.lockOwner id = some pid →
    state.threads[pid]? = some (.running task program) →
    task.processes = true ∧ task.paymentId = id ∧ Inside id program
  started : ∀ pid, state.world.lockOwner id = some pid →
    pid < state.threads.length

theorem owner_exec {tokenWaitMs pid owner : Nat} {command : Command}
    {choice : Choice} {before after : World}
    {outcome : Except Thrown command.Result}
    (executed : exec tokenWaitMs pid command choice before =
      some (outcome, after)) (owned : after.lockOwner id = some owner) :
    before.lockOwner id = some owner ∨
      (owner = pid ∧ ∃ ttlSeconds,
        command = .storage (.setNxLock id ttlSeconds)) := by
  by_cases locks : command.part = some .locks
  · cases command with
    | storage command =>
        rcases exec_storage executed with ⟨-, rfl, -⟩ | ⟨-, rfl, -⟩
        · exact .inl owned
        · cases command with
          | setNxLock key ttlSeconds =>
              simp only [StorageCommand.effect] at owned
              split at owned
              · exact .inl owned
              · by_cases here : id = key
                · subst here
                  simp only [World.lockOwner, Function.update_self,
                    Option.map_some, Option.some.injEq] at owned
                  exact .inr ⟨owned.symm, ttlSeconds, rfl⟩
                · simp only [World.lockOwner, Function.update_of_ne here] at owned
                  exact .inl owned
          | delLock key =>
              simp only [StorageCommand.effect] at owned
              by_cases here : id = key
              · subst here
                simp [World.lockOwner] at owned
              · simp only [World.lockOwner, Function.update_of_ne here] at owned
                exact .inl owned
          | _ => cases locks
    | guardCall _ _ | guardRefund _ _ | emit _ => cases locks
  · have same : after.locks = before.locks := exec_agrees executed locks
    rw [World.lockOwner, same] at owned
    exact .inl owned

private theorem owner_environment {event : Event} {before after : World}
    {owner : Nat} (changed : environment event before = some after)
    (owned : after.lockOwner id = some owner) :
    before.lockOwner id = some owner := by
  rcases environment_cases changed with
    ⟨elapsed, rfl, rfl⟩ | ⟨queue, jobId, next, rfl⟩
  · obtain ⟨key, stored, writer⟩ := Option.map_eq_some_iff.mp owned
    have earlier : before.locks id = some key :=
      (Option.filter_eq_some_iff.mp stored).1
    rw [World.lockOwner, earlier, ← writer]
    rfl
  · exact owned

private theorem Locked.spawn {state next : PaymentConfig config} {task : Task}
    (locked : Locked id state)
    (taken : (paymentSystem config).step (.spawn task) state = some next) :
    Locked id next := by
  cases taken
  refine ⟨?_, ?_, fun pid owned => ?_⟩
  · intro pid task' program found
    rcases System.running_append found with before | ⟨-, rfl, rfl⟩
    · exact locked.programs pid task' program before
    · exact bracketed_code task' _
  · intro pid task' program owned found
    rcases System.running_append found with before | ⟨place, -, -⟩
    · exact locked.owner pid task' program owned before
    · exact absurd place (Nat.ne_of_lt (locked.started pid owned))
  · have inside := locked.started pid owned
    simp only [List.length_append, List.length_singleton]
    omega

private theorem Locked.crash {state next : PaymentConfig config} {crashed : Nat}
    (locked : Locked id state)
    (taken : (paymentSystem config).step (.crash crashed) state = some next) :
    Locked id next := by
  obtain ⟨task, program, -, rfl⟩ := System.step_crash_eq_some taken
  refine ⟨?_, ?_, fun pid owned => ?_⟩
  · intro pid task' program' found
    rcases System.running_set found with ⟨-, impossible⟩ | ⟨-, before⟩
    · cases impossible
    · exact locked.programs pid task' program' before
  · intro pid task' program' owned found
    rcases System.running_set found with ⟨-, impossible⟩ | ⟨-, before⟩
    · cases impossible
    · exact locked.owner pid task' program' owned before
  · simpa using locked.started pid owned

private theorem Locked.run {state next : PaymentConfig config} {runner : Nat}
    {choice : Choice} (locked : Locked id state)
    (taken : (paymentSystem config).step (.run runner choice) state =
      some next) :
    Locked id next := by
  obtain ⟨task, command, resume, outcome, after, found, executed, rfl⟩ :=
    System.step_run_eq_some taken
  have bracketed := locked.programs runner task _ found
  have resumed : ∀ {task' program'}, Thread.resume task
      (resume state.world.now outcome) = .running task' program' →
      task' = task ∧ program' = resume state.world.now outcome ∧
        ∀ value, resume state.world.now outcome ≠ .done value := by
    intro task' program' same
    obtain ⟨rfl, rfl⟩ := System.resume_eq_running same
    refine ⟨rfl, rfl, fun value done => ?_⟩
    rw [done] at same
    cases same
  refine ⟨?_, ?_, fun pid owned => ?_⟩
  · intro pid task' program found'
    rcases System.running_set found' with ⟨-, same⟩ | ⟨-, before⟩
    · obtain ⟨rfl, rfl, runs⟩ := resumed same
      exact bracketed.resume _ outcome runs
    · exact locked.programs pid task' program before
  · intro pid task' program owned found'
    rcases System.running_set found' with ⟨rfl, same⟩ | ⟨other, before⟩
    · obtain ⟨rfl, rfl, runs⟩ := resumed same
      rcases owner_exec executed owned with held | ⟨-, ttlSeconds, rfl⟩
      · obtain ⟨processes, ours, inside⟩ :=
          locked.owner pid task' _ held found
        refine ⟨processes, ours, ?_⟩
        rcases inside with ⟨-, rest⟩ | ⟨-, ends⟩
        · exact rest _ outcome
        · obtain ⟨value, done⟩ := ends state.world.now outcome
          exact (runs value done).elim
      · obtain ⟨⟨processes, ours⟩, rest⟩ := bracketed.takes
        exact ⟨processes, ours, (rest _ outcome).1⟩
    · rcases owner_exec executed owned with held | ⟨same, -⟩
      · exact locked.owner pid task' program held before
      · exact (other same).elim
  · simp only [List.length_set]
    rcases owner_exec executed owned with held | ⟨rfl, -⟩
    · exact locked.started pid held
    · exact (List.getElem?_eq_some_iff.mp found).1

theorem Locked.step {state next : PaymentConfig config}
    {label : PaymentLabel config} (locked : Locked id state)
    (taken : (paymentSystem config).step label state = some next) :
    Locked id next := by
  cases label with
  | spawn task => exact locked.spawn taken
  | crash crashed => exact locked.crash taken
  | environment event =>
      obtain ⟨after, changed, rfl⟩ := System.step_environment_eq_some taken
      exact ⟨locked.programs, fun pid task program owned =>
        locked.owner pid task program (owner_environment changed owned),
        fun pid owned =>
          locked.started pid (owner_environment changed owned)⟩
  | run runner choice => exact locked.run taken

/-- An execution that finds the lock held is not its holder, and ends without
an effect. -/
theorem Locked.missed {state : PaymentConfig config} (locked : Locked id state)
    {pid ttlSeconds : Nat} {task : Task}
    {resume : Nat → Except Thrown Bool →
      Program signature (Except Thrown Output)}
    (found : state.threads[pid]? = some (.running task
      (.await (.storage (.setNxLock id ttlSeconds)) resume)))
    {key : Expiring Unit} (held : state.world.locks id = some key)
    {choice : Choice} {outcome : Except Thrown Bool} {after : World}
    (executed : exec config.tokenWaitMs pid
      (.storage (.setNxLock id ttlSeconds)) choice state.world =
      some (outcome, after)) (time : Nat) :
    after = state.world ∧ key.writer ≠ pid ∧
      ∃ value, resume time outcome = .done value := by
  have unchanged : (StorageCommand.setNxLock id ttlSeconds).effect pid
      state.world = (false, state.world) := by
    simp [StorageCommand.effect, held]
  have refused : after = state.world ∧ outcome ≠ .ok true := by
    rcases exec_storage executed with ⟨-, rfl, failed⟩ | ⟨-, rfl, replied⟩
    · refine ⟨rfl, ?_⟩
      rintro rfl
      cases failed
    · rw [unchanged] at replied ⊢
      refine ⟨rfl, ?_⟩
      rintro rfl
      rcases replied with impossible | impossible <;> cases impossible
  refine ⟨refused.1, ?_, ?_⟩
  · rintro rfl
    have owned : state.world.lockOwner id = some key.writer := by
      rw [World.lockOwner, held]
      rfl
    obtain ⟨-, -, other | ⟨same, -⟩⟩ := locked.owner _ task _ owned found
    · exact other.1 rfl
    · cases same
  · obtain ⟨-, rest⟩ := (locked.programs pid task _ found).takes
    exact (rest time outcome).2 refused.2

end PaymentQueue
