import PaymentQueue.Outlines.Saga
import PaymentQueue.Runtime.Runs

/-!
# One lifecycle, as BullMQ drives it

A submission is accepted; its job is delivered attempt by attempt.  A delivery
that returns completes the job, one that throws fails it, and after every
failure the `failed` listener of the worker decides whether the retry budget is
spent.  The job itself says which attempt is delivered and how many there are.
-/

namespace PaymentQueue

open Await

/-- The command does not throw, except that the append to the ledger may be
refused. -/
def orderly (command : Command) (choice : Choice) : Bool :=
  choice.faultless || (command.settles && !choice.isLost)

/-- Nothing else runs, no key of the payment expires, and no command throws,
except that the append to the ledger may be refused. -/
def alone (config : AppConfig) (id : PaymentId) : Contract (machine config) where
  invariant := fun _ => True
  rely := fun before after => after = before ∨ ∃ elapsed,
    before.unexpired id elapsed = true ∧ after = before.tick elapsed
  guarantee := fun _ _ => True
  allowed := fun command choice _ => orderly command choice = true

/-- The handle that a worker receives for a job. -/
def Job.handle? (jobId : PaymentId) (job : Job) : Option JobHandle :=
  match job.data with
  | .payment data => some ⟨jobId, data, job.attemptsMade⟩
  | .deadLetter _ => none

inductive Phase where
  /-- The job waits for its next delivery. -/
  | waiting
  /-- An attempt has thrown. -/
  | failed (error : Thrown)
  /-- The last delivery returned normally. -/
  | acknowledged (result : ProcessResult)
  /-- The retries were exhausted and the failure handler has finished. -/
  | exhausted
  deriving DecidableEq, Repr

/-- The lifecycle is over. -/
def Phase.finished : Phase → Bool
  | waiting => false
  | failed _ => false
  | acknowledged _ => true
  | exhausted => true

/-- A task that is executed from beginning to end. -/
def Task.Completes (config : AppConfig) (id : PaymentId) (pid : Nat)
    (task : Task) (world : World) (output : Except Thrown Output)
    (final : World) : Prop :=
  Program.Completes (alone config id) pid
    ((task.body config).start world.now) world output final

/-- The job of the payment was activated and handed to a worker. -/
structure Delivered (input : CreatePaymentInput) (world : World)
    (handle : JobHandle) (active : World) : Prop where
  activated : environment (.activate
    (QueueManager.queueNameFor input.gatewayId) input.id) world = some active
  handed : (active.queues (QueueManager.queueNameFor input.gatewayId)
    input.id).bind (Job.handle? input.id) = some handle

inductive Driven (config : AppConfig) (input : CreatePaymentInput)
    (start : World) : Phase → World → Prop where
  | accepted {pid : Nat} {record : PaymentRecord} {final : World} :
      (Task.submit input).Completes config input.id pid start
        (.ok (.submitted (.created record))) final →
      Driven config input start .waiting final
  | elapsed {phase : Phase} {world : World} (elapsed : Nat) :
      Driven config input start phase world →
      world.unexpired input.id elapsed = true →
      Driven config input start phase (world.tick elapsed)
  | returned {pid : Nat} {world active after final : World}
      {handle : JobHandle} {result : ProcessResult} :
      Driven config input start .waiting world →
      Delivered input world handle active →
      (Task.process handle).Completes config input.id pid active
        (.ok (.processed result)) after →
      environment (.complete (QueueManager.queueNameFor input.gatewayId)
        input.id) after = some final →
      Driven config input start (.acknowledged result) final
  | thrown {pid : Nat} {world active after final : World}
      {handle : JobHandle} {error : Thrown} :
      Driven config input start .waiting world →
      Delivered input world handle active →
      (Task.process handle).Completes config input.id pid active
        (.error error) after →
      environment (.fail (QueueManager.queueNameFor input.gatewayId)
        input.id) after = some final →
      Driven config input start (.failed error) final
  | retried {world : World} {job : Job} {error : Thrown} :
      Driven config input start (.failed error) world →
      world.queues (QueueManager.queueNameFor input.gatewayId) input.id =
        some job →
      QueueManager.exhausted job = false →
      Driven config input start .waiting world
  | handled {pid : Nat} {world final : World} {job : Job} {error : Thrown}
      {data : PaymentJobData} :
      Driven config input start (.failed error) world →
      world.queues (QueueManager.queueNameFor input.gatewayId) input.id =
        some job →
      QueueManager.exhausted job = true → job.data = .payment data →
      (Task.handleJobFailure data error).Completes config input.id pid world
        (.ok .handled) final →
      Driven config input start .exhausted final

section Environment

variable {queue : String} {id : PaymentId} {world final : World} {job : Job}

theorem environment_activate (stored : world.queues queue id = some job)
    (taken : environment (.activate queue id) world = some final) :
    final = world.setJob queue id (some { job with state := .active }) := by
  obtain ⟨found, present, -, rfl⟩ := environment_activate_cases taken
  rw [Option.some.inj (stored.symm.trans present)]

theorem environment_complete
    (taken : environment (.complete queue id) world = some final) :
    ∃ left, final = world.setJob queue id left := by
  obtain ⟨found, -, -, same⟩ := environment_complete_cases taken
  exact ⟨found.complete, same⟩

theorem environment_fail (stored : world.queues queue id = some job)
    (taken : environment (.fail queue id) world = some final) :
    final = world.setJob queue id (some job.failAttempt) := by
  obtain ⟨found, present, -, rfl⟩ := environment_fail_cases taken
  rw [Option.some.inj (stored.symm.trans present)]

end Environment

/-- What happens next in a lifecycle, with the choices of the commands that
are executed. -/
inductive Move where
  | deliver (choices : List Choice)
  | retry
  | handle (choices : List Choice)
  deriving DecidableEq, Repr

section Execution

variable (config : AppConfig) (input : CreatePaymentInput)

/-- Execute a task from beginning to end, alone. -/
def Task.complete (pid : Nat) (task : Task) (choices : List Choice)
    (world : World) : Option (Except Thrown Output × World) :=
  Program.complete (machine config) pid orderly
    ((task.body config).start world.now) choices world

/-- The worker is handed the job and executes it. -/
def deliver (choices : List Choice) (world : World) :
    Option (Phase × World) := do
  let queue := QueueManager.queueNameFor input.gatewayId
  let active ← environment (.activate queue input.id) world
  let handle ← (active.queues queue input.id).bind (Job.handle? input.id)
  match ← (Task.process handle).complete config 1 choices active with
  | (.ok (.processed result), after) => do
      let final ← environment (.complete queue input.id) after
      return (.acknowledged result, final)
  | (.error error, after) => do
      let final ← environment (.fail queue input.id) after
      return (.failed error, final)
  | _ => none

/-- The `failed` listener runs the failure handler when the retries are
exhausted. -/
def listen (job : Job) (error : Thrown) (choices : List Choice)
    (world : World) : Option (Phase × World) :=
  match job.data with
  | .payment data => do
      match ← (Task.handleJobFailure data error).complete config 2 choices
          world with
      | (.ok .handled, final) => return (.exhausted, final)
      | _ => none
  | .deadLetter _ => none

def advance : Move → Phase × World → Option (Phase × World)
  | .deliver choices, (.waiting, world) => deliver config input choices world
  | .retry, (.failed _, world) => do
      let job ← world.queues (QueueManager.queueNameFor input.gatewayId)
        input.id
      if QueueManager.exhausted job then none else return (.waiting, world)
  | .handle choices, (.failed error, world) => do
      let job ← world.queues (QueueManager.queueNameFor input.gatewayId)
        input.id
      if QueueManager.exhausted job then
        listen config job error choices world
      else none
  | _, _ => none

/-- A lifecycle, executed with given choices. -/
def drive (choices : List Choice) (moves : List Move) (start : World) :
    Option (Phase × World) := do
  match ← (Task.submit input).complete config 0 choices start with
  | (.ok (.submitted (.created _)), final) =>
      moves.foldlM (fun state move => advance config input move state)
        (.waiting, final)
  | _ => none

end Execution

variable {config : AppConfig} {input : CreatePaymentInput} {start : World}

theorem Task.completes_of_complete (id : PaymentId) {pid : Nat} {task : Task}
    {choices : List Choice} {world final : World}
    {output : Except Thrown Output}
    (completed : task.complete config pid choices world =
      some (output, final)) :
    task.Completes config id pid world output final :=
  Program.completes_of_complete (fun _ => Or.inl rfl)
    (fun _ _ _ permitted => permitted) completed

private theorem driven_of_deliver {choices : List Choice} {world : World}
    {state : Phase × World}
    (driven : Driven config input start .waiting world)
    (taken : deliver config input choices world = some state) :
    Driven config input start state.1 state.2 := by
  simp only [deliver, Option.bind_eq_bind, Option.bind_eq_some_iff] at taken
  obtain ⟨active, activated, handle, handed, ⟨output, after⟩, completed,
    taken⟩ := taken
  have completes := Task.completes_of_complete input.id completed
  have delivered : Delivered input world handle active :=
    ⟨activated, Option.bind_eq_some_iff.mpr handed⟩
  match output, completes, taken with
  | .ok (.processed result), completes, taken =>
      obtain ⟨final, finished, same⟩ := Option.bind_eq_some_iff.mp taken
      cases same
      exact .returned driven delivered completes finished
  | .error error, completes, taken =>
      obtain ⟨final, finished, same⟩ := Option.bind_eq_some_iff.mp taken
      cases same
      exact .thrown driven delivered completes finished
  | .ok (.submitted _), _, taken => cases taken
  | .ok .handled, _, taken => cases taken

private theorem driven_of_listen {choices : List Choice} {world : World}
    {job : Job}
    {error : Thrown} {state : Phase × World}
    (driven : Driven config input start (.failed error) world)
    (stored : world.queues (QueueManager.queueNameFor input.gatewayId)
      input.id = some job)
    (spent : QueueManager.exhausted job = true)
    (taken : listen config job error choices world = some state) :
    Driven config input start state.1 state.2 := by
  rw [listen] at taken
  split at taken
  case h_1 data same =>
    obtain ⟨⟨output, final⟩, completed, taken⟩ :=
      Option.bind_eq_some_iff.mp taken
    have completes := Task.completes_of_complete input.id completed
    match output, completes, taken with
    | .ok .handled, completes, taken =>
        cases taken
        exact .handled driven stored spent same completes
    | .error _, _, taken => cases taken
    | .ok (.submitted _), _, taken => cases taken
    | .ok (.processed _), _, taken => cases taken
  case h_2 => cases taken

private theorem driven_of_advance {move : Move} {state next : Phase × World}
    (driven : Driven config input start state.1 state.2)
    (taken : advance config input move state = some next) :
    Driven config input start next.1 next.2 := by
  revert taken
  fun_cases advance config input move state with
  | case1 choices world => exact driven_of_deliver driven
  | case2 error world =>
      intro taken
      obtain ⟨job, stored, taken⟩ := Option.bind_eq_some_iff.mp taken
      split at taken
      · cases taken
      · cases taken
        exact .retried driven stored (eq_false_of_ne_true ‹_›)
  | case3 choices error world =>
      intro taken
      obtain ⟨job, stored, taken⟩ := Option.bind_eq_some_iff.mp taken
      split at taken
      · exact driven_of_listen driven stored ‹_› taken
      · cases taken
  | case4 => exact fun impossible => by cases impossible

private theorem driven_of_moves {moves : List Move} {state next : Phase × World}
    (driven : Driven config input start state.1 state.2)
    (taken : moves.foldlM (fun state move => advance config input move state)
      state = some next) :
    Driven config input start next.1 next.2 := by
  induction moves generalizing state with
  | nil =>
      cases taken
      exact driven
  | cons move moves induction =>
      rw [List.foldlM_cons] at taken
      obtain ⟨reached, first, rest⟩ := Option.bind_eq_some_iff.mp taken
      exact induction (driven_of_advance driven first) rest

/-- An executed lifecycle is one that BullMQ can drive. -/
theorem driven_of_drive {choices : List Choice} {moves : List Move}
    {phase : Phase} {world : World}
    (driven : drive config input choices moves start = some (phase, world)) :
    Driven config input start phase world := by
  obtain ⟨⟨output, final⟩, completed, driven⟩ :=
    Option.bind_eq_some_iff.mp driven
  have completes := Task.completes_of_complete input.id completed
  match output, completes, driven with
  | .ok (.submitted (.created _)), completes, driven =>
      exact driven_of_moves (.accepted completes) driven
  | .ok (.submitted (.replayed _)), _, driven => cases driven
  | .error _, _, driven => cases driven
  | .ok (.processed _), _, driven => cases driven
  | .ok .handled, _, driven => cases driven

end PaymentQueue
