import PaymentQueue.Runtime.Driver

/-!
# One job under failing commands

The job of an accepted payment is delivered attempt by attempt, as in
`Runtime.Driver`, but any command of an attempt may throw and any key may
expire.  `permits` says which outcomes of the commands of an attempt are taken
into account; nothing is assumed of the failure handler.
-/

namespace PaymentQueue

open Await

/-- Only the clock moves between two commands. -/
def clocked (config : AppConfig)
    (permits : Command → Choice → World → Bool) : Contract (machine config) where
  invariant := fun _ => True
  rely := fun before after => after = before ∨ ∃ elapsed,
    after = before.tick elapsed
  guarantee := fun _ _ => True
  allowed := fun command choice world => permits command choice world = true

/-- Any command may throw, with its effect or without. -/
def anyOutcome (_ : Command) (_ : Choice) (_ : World) : Bool := true

/-- A task that is executed from beginning to end while only the clock
moves. -/
def Task.Executes (config : AppConfig)
    (permits : Command → Choice → World → Bool) (pid : Nat) (task : Task)
    (world : World) (output : Except Thrown Output) (final : World) : Prop :=
  Program.Completes (clocked config permits) pid
    ((task.body config).start world.now) world output final

inductive Worked (config : AppConfig)
    (permits : Nat → Command → Choice → World → Bool)
    (input : CreatePaymentInput) (start : World) : Phase → World → Prop where
  | enqueued : Worked config permits input start .waiting start
  | elapsed {phase : Phase} {world : World} (elapsed : Nat) :
      Worked config permits input start phase world →
      Worked config permits input start phase (world.tick elapsed)
  | returned {pid : Nat} {world active after final : World}
      {handle : JobHandle} {result : ProcessResult} :
      Worked config permits input start .waiting world →
      Delivered input world handle active →
      (Task.process handle).Executes config (permits pid) pid active
        (.ok (.processed result)) after →
      environment (.complete (QueueManager.queueNameFor input.gatewayId)
        input.id) after = some final →
      Worked config permits input start (.acknowledged result) final
  | thrown {pid : Nat} {world active after final : World}
      {handle : JobHandle} {error : Thrown} :
      Worked config permits input start .waiting world →
      Delivered input world handle active →
      (Task.process handle).Executes config (permits pid) pid active
        (.error error) after →
      environment (.fail (QueueManager.queueNameFor input.gatewayId)
        input.id) after = some final →
      Worked config permits input start (.failed error) final
  | retried {world : World} {job : Job} {error : Thrown} :
      Worked config permits input start (.failed error) world →
      world.queues (QueueManager.queueNameFor input.gatewayId) input.id =
        some job →
      QueueManager.exhausted job = false →
      Worked config permits input start .waiting world
  | handled {pid : Nat} {world final : World} {job : Job} {error : Thrown}
      {data : PaymentJobData} :
      Worked config permits input start (.failed error) world →
      world.queues (QueueManager.queueNameFor input.gatewayId) input.id =
        some job →
      QueueManager.exhausted job = true → job.data = .payment data →
      (Task.handleJobFailure data error).Executes config anyOutcome pid world
        (.ok .handled) final →
      Worked config permits input start .exhausted final

section Execution

variable (config : AppConfig)
  (permits : Nat → Command → Choice → World → Bool)
  (input : CreatePaymentInput)

def Task.execute (config : AppConfig)
    (permits : Command → Choice → World → Bool) (pid : Nat) (task : Task)
    (choices : List Choice) (world : World) :
    Option (Except Thrown Output × World) :=
  Program.execute (machine config) pid permits
    ((task.body config).start world.now) choices world

/-- The worker is handed the job and executes it. -/
def work (choices : List Choice) (world : World) : Option (Phase × World) := do
  let queue := QueueManager.queueNameFor input.gatewayId
  let active ← environment (.activate queue input.id) world
  let handle ← (active.queues queue input.id).bind (Job.handle? input.id)
  match ← (Task.process handle).execute config (permits 1) 1 choices active with
  | (.ok (.processed result), after) => do
      let final ← environment (.complete queue input.id) after
      return (.acknowledged result, final)
  | (.error error, after) => do
      let final ← environment (.fail queue input.id) after
      return (.failed error, final)
  | _ => none

/-- The failure handler runs when the retries are exhausted. -/
def giveUp (job : Job) (error : Thrown) (choices : List Choice)
    (world : World) : Option (Phase × World) :=
  match job.data with
  | .payment data => do
      match ← (Task.handleJobFailure data error).execute config anyOutcome 2
          choices world with
      | (.ok .handled, final) => return (.exhausted, final)
      | _ => none
  | .deadLetter _ => none

def pursue : Move → Phase × World → Option (Phase × World)
  | .deliver choices, (.waiting, world) =>
      work config permits input choices world
  | .retry, (.failed _, world) => do
      let job ← world.queues (QueueManager.queueNameFor input.gatewayId)
        input.id
      if QueueManager.exhausted job then none else return (.waiting, world)
  | .handle choices, (.failed error, world) => do
      let job ← world.queues (QueueManager.queueNameFor input.gatewayId)
        input.id
      if QueueManager.exhausted job then
        giveUp config job error choices world
      else none
  | _, _ => none

end Execution

variable {config : AppConfig}
  {permits : Nat → Command → Choice → World → Bool}
  {input : CreatePaymentInput} {start : World}

theorem Task.executes_of_execute
    {permits : Command → Choice → World → Bool} {pid : Nat} {task : Task}
    {choices : List Choice} {world final : World}
    {output : Except Thrown Output}
    (executed : task.execute config permits pid choices world =
      some (output, final)) :
    task.Executes config permits pid world output final :=
  Program.completes_of_execute (fun _ => Or.inl rfl)
    (fun _ _ _ permitted => permitted) executed

/-- The worker was handed the job, and the job was completed or failed. -/
theorem work_cases {choices : List Choice} {world : World}
    {state : Phase × World}
    (taken : work config permits input choices world = some state) :
    ∃ handle active after, Delivered input world handle active ∧
      ((∃ result,
        (Task.process handle).Executes config (permits 1) 1 active
          (.ok (.processed result)) after ∧
        environment (.complete (QueueManager.queueNameFor input.gatewayId)
          input.id) after = some state.2 ∧
        state.1 = .acknowledged result) ∨
      ∃ error,
        (Task.process handle).Executes config (permits 1) 1 active
          (.error error) after ∧
        environment (.fail (QueueManager.queueNameFor input.gatewayId)
          input.id) after = some state.2 ∧
        state.1 = .failed error) := by
  simp only [work, Option.bind_eq_bind, Option.bind_eq_some_iff] at taken
  obtain ⟨active, activated, handle, handed, ⟨output, after⟩, executed,
    taken⟩ := taken
  have executes := Task.executes_of_execute executed
  refine ⟨handle, active, after,
    ⟨activated, Option.bind_eq_some_iff.mpr handed⟩, ?_⟩
  match output, executes, taken with
  | .ok (.processed result), executes, taken =>
      obtain ⟨final, finished, same⟩ := Option.bind_eq_some_iff.mp taken
      cases same
      exact .inl ⟨result, executes, finished, rfl⟩
  | .error error, executes, taken =>
      obtain ⟨final, finished, same⟩ := Option.bind_eq_some_iff.mp taken
      cases same
      exact .inr ⟨error, executes, finished, rfl⟩
  | .ok (.submitted _), _, taken => cases taken
  | .ok .handled, _, taken => cases taken

private theorem worked_of_work {choices : List Choice} {world : World}
    {state : Phase × World}
    (worked : Worked config permits input start .waiting world)
    (taken : work config permits input choices world = some state) :
    Worked config permits input start state.1 state.2 := by
  obtain ⟨handle, active, after, delivered,
    ⟨result, executes, finished, phase⟩ | ⟨error, executes, finished, phase⟩⟩
    := work_cases taken
  · rw [phase]
    exact .returned worked delivered executes finished
  · rw [phase]
    exact .thrown worked delivered executes finished

private theorem worked_of_giveUp {choices : List Choice} {world : World}
    {job : Job}
    {error : Thrown} {state : Phase × World}
    (worked : Worked config permits input start (.failed error) world)
    (stored : world.queues (QueueManager.queueNameFor input.gatewayId)
      input.id = some job)
    (spent : QueueManager.exhausted job = true)
    (taken : giveUp config job error choices world = some state) :
    Worked config permits input start state.1 state.2 := by
  rw [giveUp] at taken
  split at taken
  case h_1 data same =>
    obtain ⟨⟨output, final⟩, executed, taken⟩ :=
      Option.bind_eq_some_iff.mp taken
    have executes := Task.executes_of_execute executed
    match output, executes, taken with
    | .ok .handled, executes, taken =>
        cases taken
        exact .handled worked stored spent same executes
    | .error _, _, taken => cases taken
    | .ok (.submitted _), _, taken => cases taken
    | .ok (.processed _), _, taken => cases taken
  case h_2 => cases taken

private theorem worked_of_pursue {move : Move} {state next : Phase × World}
    (worked : Worked config permits input start state.1 state.2)
    (taken : pursue config permits input move state = some next) :
    Worked config permits input start next.1 next.2 := by
  revert taken
  fun_cases pursue config permits input move state with
  | case1 choices world => exact worked_of_work worked
  | case2 error world =>
      intro taken
      obtain ⟨job, stored, taken⟩ := Option.bind_eq_some_iff.mp taken
      split at taken
      · cases taken
      · cases taken
        exact .retried worked stored (eq_false_of_ne_true ‹_›)
  | case3 choices error world =>
      intro taken
      obtain ⟨job, stored, taken⟩ := Option.bind_eq_some_iff.mp taken
      split at taken
      · exact worked_of_giveUp worked stored ‹_› taken
      · cases taken
  | case4 => exact fun impossible => by cases impossible

/-- An executed life of a job. -/
theorem worked_of_moves {moves : List Move} {state next : Phase × World}
    (worked : Worked config permits input start state.1 state.2)
    (taken : moves.foldlM (fun state move =>
      pursue config permits input move state) state = some next) :
    Worked config permits input start next.1 next.2 := by
  induction moves generalizing state with
  | nil =>
      cases taken
      exact worked
  | cons move moves induction =>
      rw [List.foldlM_cons] at taken
      obtain ⟨reached, first, rest⟩ := Option.bind_eq_some_iff.mp taken
      exact induction (worked_of_pursue worked first) rest

end PaymentQueue
