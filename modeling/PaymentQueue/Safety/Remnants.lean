import PaymentQueue.Outlines.Submit
import PaymentQueue.Runtime.Runs

/-!
# Created submissions and the jobs of earlier lifecycles

A submission returns `created` as soon as `queue.add` has replied.  The reply is
the same when the queue already holds a job with the id, in whatever state it
is.  A job that has exhausted its attempts stays in the failed set, and a dead
letter entry that a worker has completed stays in the completed set, so the next
submission of the id that gets past the idempotency key is accepted without
leaving anything to run.
-/

namespace PaymentQueue.Remnants

open Await

variable {config : AppConfig}

/-- The queue holds a job with the id that will be run. -/
def Runnable (queue : String) (id : PaymentId) (world : World) : Prop :=
  ∃ job, world.queues queue id = some job ∧
    job.state ∈ [JobState.waiting, .prioritized, .delayed, .active]

/-- The queue holds a job with the id that will not be run any more. -/
def blocked (queue : String) (id : PaymentId) (world : World) : Bool :=
  (world.queues queue id).any fun job => !job.live

/-- The job with the id fails its last attempt, or it is completed and was
added without `removeOnComplete`. -/
def remains (queue : String) (id : PaymentId) (state : PaymentConfig config) :
    PaymentLabel config → Bool
  | .environment (.fail name jobId) =>
      decide (name = queue ∧ jobId = id) &&
        (state.world.queues queue id).any fun job =>
          decide (job.options.attempts ≤ job.attemptsMade + 1)
  | .environment (.complete name jobId) =>
      decide (name = queue ∧ jobId = id) &&
        (state.world.queues queue id).any fun job =>
          !job.options.removeOnComplete
  | _ => false

/-- Has a job with the id remained in the queue for good? -/
def observe (queue : String) (id : PaymentId) (state : PaymentConfig config)
    (label : PaymentLabel config) (remained : Bool) : Bool :=
  remained || remains queue id state label

abbrev Watched (config : AppConfig) : Type :=
  PaymentConfig config × Bool

def watch (queue : String) (id : PaymentId) (label : PaymentLabel config)
    (watched : Watched config) : Option (Watched config) :=
  observed (paymentSystem config).step (observe queue id) label watched

section Jobs

variable {queue : String} {id : PaymentId} {before after : World}

private theorem live_iff (job : Job) :
    job.live = true ↔
      job.state ∈ [JobState.waiting, .prioritized, .delayed, .active] := by
  rw [Job.live, decide_eq_true_iff]
  cases job.state <;> simp

/-- A job with the id can be run, unless it has remained. -/
theorem runnable_iff {job : Job} (stored : after.queues queue id = some job) :
    Runnable queue id after ↔ blocked queue id after = false := by
  simp only [Runnable, blocked, stored, ← live_iff]
  simp

theorem blocked_setJob (name : String) (jobId : PaymentId)
    (replaced : Option Job) :
    blocked queue id (before.setJob name jobId replaced) =
      if name = queue ∧ jobId = id then replaced.any fun job => !job.live
      else blocked queue id before := by
  split
  case isTrue here =>
    obtain ⟨rfl, rfl⟩ := here
    simp [blocked, World.setJob]
  case isFalse elsewhere =>
    simp only [blocked, World.setJob, Function.update_apply]
    split
    case isTrue sameQueue =>
      rw [Function.update_of_ne fun sameId =>
        elsewhere ⟨sameQueue.symm, sameId.symm⟩, sameQueue]
    case isFalse => rfl

/-- Nothing changes when a job that can be run is replaced by another one. -/
theorem blocked_replaced {name : String} {jobId : PaymentId}
    {replaced : Option Job}
    (free : blocked name jobId before = false)
    (lives : replaced.any (fun job => !job.live) = false) :
    blocked queue id (before.setJob name jobId replaced) =
      blocked queue id before := by
  rw [blocked_setJob]
  split
  case isTrue here =>
    obtain ⟨rfl, rfl⟩ := here
    exact lives.trans free.symm
  case isFalse => rfl

/-- A job that is added can be run. -/
theorem initialState_live (options : JobOptions) :
    StorageCommand.initialState options ≠ .completed ∧
      StorageCommand.initialState options ≠ .failed := by
  rw [StorageCommand.initialState]
  split
  · simp
  · split <;> simp

private theorem blocked_exec {tokenWaitMs pid : Nat} {command : Command}
    {choice : Choice} {outcome : Except Thrown command.Result}
    (executed : exec tokenWaitMs pid command choice before =
      some (outcome, after)) :
    blocked queue id after = blocked queue id before := by
  rcases exec_adds executed with
    same | ⟨name, jobId, data, options, -, free, rfl⟩
  · rw [blocked, blocked, same]
  · apply blocked_replaced
    · simp [blocked, free]
    · simp [Job.live, initialState_live]

/-- A job remains when its last attempt fails, or when it is completed and
kept. -/
theorem blocked_environment {state : PaymentConfig config} {event : Event}
    (changed : environment event state.world = some after) :
    blocked queue id after =
      (blocked queue id state.world ||
        remains queue id state (.environment event)) := by
  cases event with
  | tick elapsed =>
      cases changed
      exact (Bool.or_false _).symm
  | activate name jobId =>
      obtain ⟨job, stored, due, rfl⟩ := environment_activate_cases changed
      refine Eq.trans ?_ (Bool.or_false _).symm
      apply blocked_replaced
      · rw [Job.due, Bool.and_eq_true] at due
        simp [blocked, stored, due.2]
      · simp [Job.live]
  | complete name jobId =>
      obtain ⟨job, stored, active, rfl⟩ := environment_complete_cases changed
      rw [blocked_setJob, remains]
      split
      case isTrue here =>
        obtain ⟨rfl, rfl⟩ := here
        cases kept : job.options.removeOnComplete with
        | true => simp [blocked, stored, Job.live, active, Job.complete, kept]
        | false => simp [blocked, stored, Job.live, Job.complete, kept]
      case isFalse elsewhere => simp [elsewhere]
  | fail name jobId =>
      obtain ⟨job, stored, active, rfl⟩ := environment_fail_cases changed
      rw [blocked_setJob, remains]
      split
      case isTrue here =>
        obtain ⟨rfl, rfl⟩ := here
        have spent : (!job.failAttempt.live) =
            decide (job.options.attempts ≤ job.attemptsMade + 1) := by
          rw [job.live_failAttempt, ← decide_not]
          exact decide_eq_decide.mpr Nat.not_lt
        rw [Option.any_some, spent]
        simp [blocked, stored, Job.live, active]
      case isFalse elsewhere => simp [elsewhere]

private theorem blocked_step {state next : PaymentConfig config}
    {label : PaymentLabel config}
    (taken : (paymentSystem config).step label state = some next) :
    blocked queue id next.world =
      (blocked queue id state.world || remains queue id state label) := by
  cases label with
  | spawn task =>
      cases taken
      exact (Bool.or_false _).symm
  | run pid choice =>
      obtain ⟨task, command, resume, outcome, world, -, executed, rfl⟩ :=
        System.step_run_eq_some taken
      exact (blocked_exec executed).trans (Bool.or_false _).symm
  | crash pid =>
      obtain ⟨task, program, -, rfl⟩ := System.step_crash_eq_some taken
      exact (Bool.or_false _).symm
  | environment event =>
      obtain ⟨world, changed, rfl⟩ := System.step_environment_eq_some taken
      exact blocked_environment changed

/-- The queue holds a job with the id that will not be run exactly if one has
remained. -/
def Tracked (queue : String) (id : PaymentId) (watched : Watched config) :
    Prop :=
  blocked queue id watched.1.world = watched.2

theorem Tracked.step {watched next : Watched config}
    {label : PaymentLabel config} (tracked : Tracked queue id watched)
    (taken : watch queue id label watched = some next) :
    Tracked queue id next := by
  obtain ⟨moved, same⟩ := observed_eq_some.mp taken
  rw [Tracked, blocked_step moved, same, observe]
  rw [Tracked] at tracked
  rw [tracked]

end Jobs

section Submit

variable {pid : Nat} {input : CreatePaymentInput}

/-- The queue of the gateway holds a job with the id of the payment. -/
def Stored (input : CreatePaymentInput) (world : World) : Prop :=
  world.queues (QueueManager.queueNameFor input.gatewayId) input.id ≠ none

/-- Anything may happen between two commands. -/
def discipline (config : AppConfig) : Discipline (paymentSystem config) where
  invariant := fun _ => True
  rely := fun _ _ _ _ => True
  guarantee := fun _ _ _ _ => True
  allowed := fun _ _ _ _ _ => True
  post := fun _ task output world => ∀ input record, task = .submit input →
    output = .ok (.submitted (.created record)) → Stored input world
  rest := fun _ _ _ => True

def know (input : CreatePaymentInput) : SubmitStage → World → Prop
  | .queued, world => Stored input world
  | _, _ => True

def ends (input : CreatePaymentInput) :
    Except Thrown SubmitPaymentResult → World → Prop
  | .ok (.created _), world => Stored input world
  | _, _ => True

/-- Nothing is to be shown about the commands before the last one. -/
theorem moves_before {contract : Contract (machine config)}
    {command : Command} {fact : World → Prop}
    {result : Except Thrown command.Result → World → Prop}
    (keeps : ∀ before after, Keeps contract before after)
    (reached : ∀ outcome after, result outcome after) :
    Moves contract pid command fact result :=
  fun before outcome after _ _ => ⟨keeps before after, reached outcome after⟩

private theorem stored_add (data : JobData) (options : JobOptions)
    (before : World) :
    Stored input ((StorageCommand.queueAdd
      (QueueManager.queueNameFor input.gatewayId) input.id data
      options).effect pid before).2 := by
  cases stored : before.queues (QueueManager.queueNameFor input.gatewayId)
      input.id with
  | some job => simp [Stored, StorageCommand.effect, stored]
  | none => simp [Stored, StorageCommand.effect, stored]

private theorem submitOutline :
    SubmitOutline ((discipline config).contract pid (.submit input)) pid input
      (know input) (ends input) := by
  have keeps : ∀ before after,
      Keeps ((discipline config).contract pid (.submit input)) before after :=
    fun _ _ => ⟨trivial, trivial⟩
  have unqueued : ∀ stage world, stage ≠ .queued →
      know input stage world := by
    intro stage world other
    cases stage <;> first | exact trivial | exact (other rfl).elim
  exact {
    stable := fun stage other _ after _ _ _ => unqueued stage after other
    claim := fun now => moves_before keeps fun outcome after => by
      match outcome with
      | .error error => exact trivial
      | .ok true => exact trivial
      | .ok false => exact trivial
    readClaim := moves_before keeps fun outcome after =>
      SubmitOutline.continues_reads trivial trivial (fun _ => trivial) outcome
    lookup := moves_before keeps fun outcome after =>
      SubmitOutline.continues_finds trivial trivial (fun _ => trivial) outcome
    recover := moves_before keeps fun outcome after => by
      cases outcome <;> exact trivial
    replay := moves_before keeps fun outcome after =>
      SubmitOutline.continues_replays (fun _ => trivial) (fun _ => trivial)
        outcome
    conflict := fun _ _ _ _ => trivial
    audit := fun event => moves_before keeps fun outcome after => by
      cases outcome <;> exact trivial
    save := fun now => moves_before keeps fun outcome after => by
      cases outcome <;> exact trivial
    emit := fun event => moves_before keeps fun outcome after => by
      cases outcome <;> exact trivial
    ready := moves_before keeps fun outcome after => by
      cases outcome <;> exact trivial
    add := by
      intro now delay before outcome after _ execution
      refine ⟨keeps before after, ?_⟩
      rcases executes_storage execution with
        ⟨-, rfl, rfl⟩ | ⟨message, rfl, -⟩
      · exact stored_add _ _ before
      · exact trivial
    release := moves_before keeps fun outcome after => by
      cases outcome with
      | error error => exact trivial
      | ok _ => exact fun _ => trivial
    created := fun _ _ stored => stored }

/-- Every process is safe, and a submission that returns `created` has left a
job. -/
theorem sound : (discipline config).Sound (fun _ _ => True) where
  relyRefl := fun _ _ _ => trivial
  relyTrans := fun _ _ _ _ _ _ _ => trivial
  spawns := by
    intro state task _ _
    cases task with
    | submit input =>
        refine submitOutline.safe_code trivial ?_ _
        rintro outcome final ended _ record ⟨⟩ created
        cases outcome with
        | ok result =>
            cases created
            exact ended
        | error error => cases created
    | process job | handleJobFailure jobData error =>
        refine Program.safe_of_unconditional (fun _ _ => ⟨trivial, trivial⟩)
          ?_ _ _
        intro output final input record impossible
        cases impossible
  permits := fun _ _ _ _ _ _ _ _ _ => trivial
  interferes := fun _ _ _ _ _ _ _ _ _ _ _ _ _ _ _ _ _ => trivial
  environments := fun _ _ _ _ _ _ =>
    ⟨trivial, fun _ _ _ _ => trivial, fun _ _ _ _ => trivial⟩

end Submit

structure Inv (queue : String) (id : PaymentId) (watched : Watched config) :
    Prop where
  holds : (discipline config).Holds watched.1
  tracked : Tracked queue id watched

theorem Inv.reaches {queue : String} {id : PaymentId} {world : World}
    {watched : Watched config} (fresh : blocked queue id world = false)
    (reached : Reaches (watch queue id) (fun _ _ => True)
      (initially world, false) watched) : Inv queue id watched := by
  refine reached.invariant ⟨?_, fresh⟩ ?_
  · exact Discipline.holds_nil trivial fun _ => trivial
  · intro watched label next inv _ taken
    have moved := (observed_eq_some.mp taken).1
    exact ⟨sound.step inv.holds trivial moved, inv.tracked.step taken⟩

/-- When a submission returns `created`, the queue of its gateway holds a job
with its id that can be run exactly if no job with that id has remained there,
failed for good or completed and kept. -/
theorem created_runnable_iff (config : AppConfig) (input : CreatePaymentInput)
    (world : World)
    (fresh : blocked (QueueManager.queueNameFor input.gatewayId) input.id
      world = false)
    (watched : Watched config)
    (reached : Reaches
      (watch (QueueManager.queueNameFor input.gatewayId) input.id)
      (fun _ _ => True) (initially world, false) watched)
    (pid : Nat) (choice : Choice) (next : PaymentConfig config)
    (taken : (paymentSystem config).step (.run pid choice) watched.1 =
      some next)
    (record : PaymentRecord)
    (returned : next.threads[pid]? = some (.ended (.submit input)
      (.ok (.submitted (.created record))))) :
    Runnable (QueueManager.queueNameFor input.gatewayId) input.id
      next.world ↔ watched.2 = false := by
  have inv := Inv.reaches fresh reached
  have left : Stored input next.world :=
    sound.ended inv.holds trivial taken returned input record rfl rfl
  obtain ⟨job, stored⟩ := Option.ne_none_iff_exists'.mp left
  have same : blocked (QueueManager.queueNameFor input.gatewayId) input.id
      next.world = watched.2 := by
    rw [blocked_step taken, inv.tracked]
    exact Bool.or_false _
  rw [runnable_iff stored, same]

/-- A payment that is not retried. -/
def single : CreatePaymentInput :=
  { submission "stripe" 0 with maxRetries := some 0 }

/-- What a submission of it at the given time returns. -/
def createdAt (now : Time) : PaymentThread .default → Bool :=
  returns (.submit single) (.submitted (.created
    (createPaymentRecord (PaymentService.newPayment single) now)))

/-- The job is completed and removed; a day later the idempotency record has
expired and the payment is submitted again. -/
def completed : List (PaymentLabel .default) :=
  [.spawn (.submit single)] ++ runs 0 6 ++
    [.environment (.activate "stripe" "p1"),
      .spawn (.process (delivery 0))] ++ runs 1 11 ++ [accepts 1 "tx1"] ++
    runs 1 13 ++ [.environment (.complete "stripe" "p1"),
      .environment (.tick 86400001), .spawn (.submit single)] ++ runs 2 5

theorem created_runnable_completed :
    ∃ watched : Watched .default,
      Reaches (watch "stripe" "p1") (fun _ _ => True)
        (initially (World.empty 0), false) watched ∧
      ∃ next, (paymentSystem .default).step (.run 2 .succeed) watched.1 =
          some next ∧ Runnable "stripe" "p1" next.world := by
  obtain ⟨watched, reached, checked⟩ := exists_of_replay
    (watch "stripe" "p1") (fun _ _ => true) completed
    (initially (World.empty 0), false)
    (fun watched => !watched.2 &&
      ((paymentSystem .default).step (.run 2 .succeed) watched.1).any
        fun next => next.threads[2]?.any (createdAt 86400001))
    (by decide +kernel)
  obtain ⟨unremained, steps⟩ := (Bool.and_eq_true _ _).mp checked
  obtain ⟨next, taken, ended⟩ := (Option.any_eq_true _ _).mp steps
  obtain ⟨thread, found, returned⟩ := (Option.any_eq_true _ _).mp ended
  rw [returns_eq_true returned] at found
  have admitted := reached.mono fun _ _ _ => trivial
  refine ⟨watched, admitted, next, taken, ?_⟩
  exact (created_runnable_iff .default single (World.empty 0)
    (by decide +kernel) watched admitted 2 .succeed next taken _ found).mpr
      ((Bool.not_eq_true' _).mp unremained)

/-- The job exhausts its only attempt and the failure handler dead-letters the
payment; a day later the idempotency record has expired and the payment is
submitted again. -/
def exhausted : List (PaymentLabel .default) :=
  [.spawn (.submit single)] ++ runs 0 6 ++
    [.environment (.activate "stripe" "p1"),
      .spawn (.process (delivery 0))] ++ runs 1 11 ++
    [.run 1 (.guard .noToken)] ++ runs 1 6 ++
    [.environment (.fail "stripe" "p1"),
      .spawn (.handleJobFailure ⟨"p1", none⟩ (.processing
        ⟨"gateway stripe rate limiter: no token within 15000ms", .rateLimited,
          some 429, some "stripe"⟩))] ++ runs 2 10 ++
    [.environment (.tick 86400001), .spawn (.submit single)] ++ runs 3 5

theorem created_not_runnable :
    ¬ ∀ (input : CreatePaymentInput) (state next : PaymentConfig .default)
      (pid : Nat) (choice : Choice) (record : PaymentRecord),
      (paymentSystem .default).Reaches (fun _ _ => True)
        (initially (World.empty 0)) state →
      (paymentSystem .default).step (.run pid choice) state = some next →
      next.threads[pid]? = some (.ended (.submit input)
        (.ok (.submitted (.created record)))) →
      Runnable (QueueManager.queueNameFor input.gatewayId) input.id
        next.world := by
  intro runnable
  obtain ⟨state, reached, steps⟩ := exists_of_replay
    (paymentSystem .default).step (fun _ _ => true) exhausted
    (initially (World.empty 0))
    (fun state => ((paymentSystem .default).step (.run 3 .succeed)
      state).any fun next => next.threads[3]?.any (createdAt 86400001) &&
        blocked "stripe" "p1" next.world) (by decide +kernel)
  obtain ⟨next, taken, ended⟩ := (Option.any_eq_true _ _).mp steps
  obtain ⟨ended, held⟩ := (Bool.and_eq_true _ _).mp ended
  obtain ⟨thread, found, returned⟩ := (Option.any_eq_true _ _).mp ended
  rw [returns_eq_true returned] at found
  obtain ⟨job, stored, live⟩ :=
    runnable single state next 3 .succeed _ (reached.mono fun _ _ _ => trivial)
      taken found
  have free : blocked "stripe" "p1" next.world = false :=
    (runnable_iff stored).mp ⟨job, stored, live⟩
  rw [free] at held
  cases held

end PaymentQueue.Remnants
