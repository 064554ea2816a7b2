import PaymentQueue.Queue.Pool
import PaymentQueue.Runtime.World

/-!
# Queue manager: shutdown

`onApplicationShutdown` and `closeWorkerGracefully` of
`queue/queue-manager.service.ts`, one promise at a time.  The calls of
`Queue.Pool` and the first use of the dead letter queue may come in between.
BullMQ decides when the promise of a close settles, and whether it rejects.
-/

namespace PaymentQueue

/-- The dead letter queue and the Redis client it was created with. -/
structure DlqHandle where
  queueOpen : Bool
  clientOpen : Bool
  deriving DecidableEq, Repr

/-- What a shutdown closes. -/
inductive Closable where
  | worker (worker : Nat)
  | queue (queue : Nat)
  | dlq
  deriving DecidableEq, Repr

/-- The promise of a close. -/
inductive Closing where
  /-- `close()` waits for the jobs in flight. -/
  | gracefully
  /-- `close(true)` was called as well. -/
  | forcibly
  | settled (resolved : Bool)
  deriving DecidableEq, Repr

def Closing.isSettled : Closing → Bool
  | .settled _ => true
  | _ => false

structure ShutdownTask where
  target : Closable
  closing : Closing
  deriving DecidableEq, Repr

structure Shutdown where
  started : Time
  tasks : List ShutdownTask
  returned : Bool
  deriving DecidableEq, Repr

/-- The queue manager, before and during its shutdown. -/
structure Lifecycle where
  now : Time
  pool : Pool
  dlq : Option DlqHandle
  shutdown : Option Shutdown
  deriving DecidableEq, Repr

namespace Lifecycle

/-- `graceMs` of `closeWorkerGracefully`. -/
def graceMs : Nat := 15000

def create : Lifecycle :=
  { now := 0, pool := .create, dlq := none, shutdown := none }

/-- The dead letter queue is created when it is first used. -/
def dlqQueue (state : Lifecycle) : Lifecycle :=
  match state.dlq with
  | some _ => state
  | none => { state with dlq := some ⟨true, true⟩ }

/-- What the promises in `tasks` are for, in their order. -/
def closables (state : Lifecycle) : List Closable :=
  (state.pool.known.flatMap fun runtime =>
    runtime.workers.map Closable.worker ++ [.queue runtime.queue]) ++
  (state.dlq.map fun _ => Closable.dlq).toList

/-- `onApplicationShutdown` up to `Promise.allSettled`. -/
def onApplicationShutdown (state : Lifecycle) : Lifecycle :=
  { state with
    shutdown := some
      { started := state.now
        tasks := state.closables.map fun target => ⟨target, .gracefully⟩
        returned := false } }

/-- A close has resolved. -/
def close (target : Closable) (state : Lifecycle) : Lifecycle :=
  match target with
  | .worker worker =>
      { state with
        pool := { state.pool with
          workers := state.pool.workers.modify worker fun handle =>
            { handle with workerOpen := false } } }
  | .queue queue =>
      { state with
        pool := { state.pool with
          queues := state.pool.queues.modify queue fun handle =>
            { handle with queueOpen := false } } }
  | .dlq =>
      { state with
        dlq := state.dlq.map fun handle => { handle with queueOpen := false } }

/-- The clients of the runtimes that the map holds now, and that of the dead
letter queue. -/
def disconnect (state : Lifecycle) : Lifecycle :=
  { state with
    pool := { state.pool with
      workers := state.pool.workers.mapIdx fun worker handle =>
        if state.pool.known.any fun runtime =>
            runtime.workers.contains worker then
          { handle with clientOpen := false }
        else handle
      queues := state.pool.queues.mapIdx fun queue handle =>
        if state.pool.known.any fun runtime => runtime.queue == queue then
          { handle with clientOpen := false }
        else handle }
    dlq := state.dlq.map fun handle => { handle with clientOpen := false } }

def setTask (index : Nat) (task : ShutdownTask) (shutdown : Shutdown)
    (state : Lifecycle) : Lifecycle :=
  { state with
    shutdown := some { shutdown with
      tasks := shutdown.tasks.set index task } }

/-- The timer of `closeWorkerGracefully`. -/
def timeout (index : Nat) (shutdown : Shutdown) (state : Lifecycle) :
    Option Lifecycle :=
  match shutdown.tasks[index]? with
  | some ⟨.worker worker, .gracefully⟩ =>
      if shutdown.started + graceMs ≤ state.now then
        some (state.setTask index ⟨.worker worker, .forcibly⟩ shutdown)
      else none
  | _ => none

/-- The promise of a close resolves or rejects. -/
def settle (index : Nat) (resolved : Bool) (shutdown : Shutdown)
    (state : Lifecycle) : Option Lifecycle :=
  match shutdown.tasks[index]? with
  | none | some ⟨_, .settled _⟩ => none
  | some ⟨target, _⟩ =>
      some ((if resolved then state.close target else state).setTask index
        ⟨target, .settled resolved⟩ shutdown)

/-- `Promise.allSettled` has settled, and `onApplicationShutdown` returns. -/
def finish (shutdown : Shutdown) (state : Lifecycle) : Option Lifecycle :=
  if shutdown.returned = false ∧
      (shutdown.tasks.all fun task => task.closing.isSettled) = true then
    some { state.disconnect with
      shutdown := some { shutdown with returned := true } }
  else none

inductive Label where
  | tick (elapsed : Nat)
  | pool (label : Pool.Label)
  | dlqQueue
  | shutdown
  | timeout (index : Nat)
  | settle (index : Nat) (resolved : Bool)
  | finish

def step (workerPoolSize : Nat) (label : Label) (state : Lifecycle) :
    Option Lifecycle :=
  match label, state.shutdown with
  | .tick elapsed, _ => some { state with now := state.now + elapsed }
  | .pool label, _ =>
      (state.pool.step workerPoolSize label).map fun pool =>
        { state with pool }
  | .dlqQueue, _ => some state.dlqQueue
  | .shutdown, none => some state.onApplicationShutdown
  | .timeout index, some shutdown => state.timeout index shutdown
  | .settle index resolved, some shutdown =>
      state.settle index resolved shutdown
  | .finish, some shutdown => state.finish shutdown
  | _, _ => none

end Lifecycle

end PaymentQueue
