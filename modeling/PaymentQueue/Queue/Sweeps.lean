import PaymentQueue.Queue.Shutdown

/-!
# Queue manager: loops over all gateways

`pause` and `resume` without a gateway and `collectQueueDepths` of
`queue/queue-manager.service.ts`.  Each walks through the map and awaits a
command of the queue of every runtime, while the other calls go on.  A command
takes effect in Redis some time before its promise resolves.
-/

namespace PaymentQueue

/-- What `getJobCounts` answers. -/
structure JobCounts where
  waiting : Option Nat
  prioritized : Option Nat
  active : Option Nat
  delayed : Option Nat
  failed : Option Nat
  deriving DecidableEq, Repr

structure QueueDepths where
  gatewayId : String
  waiting : Nat
  active : Nat
  delayed : Nat
  failed : Nat
  deriving DecidableEq, Repr

/-- The depths of a gateway, with the name of its queue. -/
structure GatewayQueueDepths extends QueueDepths where
  queueName : String
  deriving DecidableEq, Repr

inductive SweepTask where
  | pause
  | resume
  | collectQueueDepths
  deriving DecidableEq, Repr

/-- Where a loop stands. -/
inductive SweepCall where
  /-- Awaits a command of a runtime; `position` is its place in the map. -/
  | awaiting (position : Nat) (runtime : GatewayRuntime)
  /-- The command has taken effect. -/
  | executed (position : Nat) (runtime : GatewayRuntime)
      (counts : Option JobCounts)
  /-- Awaits `dlqQueue`. -/
  | opening
  | counting
  | counted (counts : JobCounts)
  | returned (dlq : Option QueueDepths)
  | thrown
  deriving DecidableEq, Repr

structure Sweep where
  task : SweepTask
  gateways : List GatewayQueueDepths
  call : SweepCall
  deriving DecidableEq, Repr

/-- The queue manager, its queues in Redis by their names, and the loops. -/
structure Sweeping where
  manager : Lifecycle
  paused : String → Bool
  jobs : String → JobCounts
  sweeps : List Sweep

/-- An entry of `gateways`: a job with a priority is waiting, too. -/
def gatewayDepths (gatewayId queueName : String) (counts : JobCounts) :
    GatewayQueueDepths :=
  { gatewayId
    queueName
    waiting := counts.waiting.getD 0 + counts.prioritized.getD 0
    active := counts.active.getD 0
    delayed := counts.delayed.getD 0
    failed := counts.failed.getD 0 }

def dlqDepths (counts : JobCounts) : QueueDepths :=
  { gatewayId := QueueManager.dlqQueueName
    waiting := counts.waiting.getD 0
    active := counts.active.getD 0
    delayed := counts.delayed.getD 0
    failed := counts.failed.getD 0 }

/-- Whether the command of a task pauses the queue or resumes it. -/
def SweepTask.pauses? : SweepTask → Option Bool
  | .pause => some true
  | .resume => some false
  | .collectQueueDepths => none

namespace Sweeping

def create (jobs : String → JobCounts) : Sweeping :=
  { manager := .create, paused := fun _ => false, jobs, sweeps := [] }

/-- The loop, from a position of the map up to the next await. -/
def visit (task : SweepTask) (gateways : List GatewayQueueDepths)
    (position : Nat) (manager : Lifecycle) : Sweep × Lifecycle :=
  match manager.pool.runtimes[position]?.bind fun entry =>
      manager.pool.objects[entry.2]? with
  | some runtime => (⟨task, gateways, .awaiting position runtime⟩, manager)
  | none =>
      match task with
      | .collectQueueDepths => (⟨task, gateways, .opening⟩, manager.dlqQueue)
      | .pause | .resume => (⟨task, gateways, .returned none⟩, manager)

def setPaused (queueName : String) (pauses : Bool) (state : Sweeping) :
    Sweeping :=
  { state with
    paused := fun other =>
      if other = queueName then pauses else state.paused other }

def setSweep (index : Nat) (moved : Sweep × Lifecycle) (state : Sweeping) :
    Sweeping :=
  { state with
    manager := moved.2
    sweeps := state.sweeps.set index moved.1 }

/-- Redis executes the command that a loop awaits. -/
def execute (index : Nat) (sweep : Sweep) (state : Sweeping) :
    Option Sweeping :=
  match sweep.call with
  | .awaiting position runtime =>
      match sweep.task.pauses? with
      | some pauses =>
          some ((state.setPaused runtime.queueName pauses).setSweep index
            ({ sweep with call := .executed position runtime none },
              state.manager))
      | none =>
          some (state.setSweep index
            ({ sweep with
              call := .executed position runtime
                (some (state.jobs runtime.queueName)) }, state.manager))
  | .counting =>
      some (state.setSweep index
        ({ sweep with
          call := .counted (state.jobs QueueManager.dlqQueueName) },
          state.manager))
  | _ => none

/-- The promise that a loop awaits resolves. -/
def resolve (index : Nat) (sweep : Sweep) (state : Sweeping) :
    Option Sweeping :=
  match sweep.call with
  | .executed position runtime counts =>
      let gateways := sweep.gateways ++ (counts.map
        (gatewayDepths runtime.gatewayId runtime.queueName)).toList
      some (state.setSweep index
        (visit sweep.task gateways (position + 1) state.manager))
  | .opening =>
      some (state.setSweep index
        ({ sweep with call := .counting }, state.manager))
  | .counted counts =>
      some (state.setSweep index
        ({ sweep with call := .returned (some (dlqDepths counts)) },
          state.manager))
  | _ => none

/-- The promise that a loop awaits rejects, and the error leaves the loop. -/
def reject (index : Nat) (sweep : Sweep) (state : Sweeping) :
    Option Sweeping :=
  match sweep.call with
  | .returned _ | .thrown => none
  | _ =>
      some (state.setSweep index
        ({ sweep with call := .thrown }, state.manager))

inductive Label where
  | manager (label : Lifecycle.Label)
  | call (task : SweepTask)
  | execute (index : Nat)
  | resolve (index : Nat)
  | reject (index : Nat)
  /-- The command of `pause` or `resume` with a gateway. -/
  | setPaused (gatewayId : String) (pauses : Bool)
  /-- The jobs of a queue change. -/
  | setJobs (queueName : String) (counts : JobCounts)

/-- A call runs up to its first await. -/
def begin (task : SweepTask) (state : Sweeping) : Sweeping :=
  let visited := visit task [] 0 state.manager
  { state with
    manager := visited.2
    sweeps := state.sweeps ++ [visited.1] }

def step (workerPoolSize : Nat) (label : Label) (state : Sweeping) :
    Option Sweeping :=
  match label with
  | .manager label =>
      (state.manager.step workerPoolSize label).map fun manager =>
        { state with manager }
  | .call task => some (state.begin task)
  | .execute index =>
      state.sweeps[index]?.bind fun sweep => state.execute index sweep
  | .resolve index =>
      state.sweeps[index]?.bind fun sweep => state.resolve index sweep
  | .reject index =>
      state.sweeps[index]?.bind fun sweep => state.reject index sweep
  | .setPaused gatewayId pauses =>
      some (state.setPaused (QueueManager.queueNameFor gatewayId) pauses)
  | .setJobs queueName counts =>
      some { state with
        jobs := fun other =>
          if other = queueName then counts else state.jobs other }

end Sweeping

end PaymentQueue
