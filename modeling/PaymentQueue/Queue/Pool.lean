import PaymentQueue.Queue.Manager

/-!
# Queue manager: worker pools

The provisioning part of `queue/queue-manager.service.ts`: `ensureGateway`,
`scaleWorkers` and the calls that go through them.  A call suspends at its
awaits, of the readiness of a queue or a worker, of the closing of a worker
and of a queue command; between two awaits it runs without interruption.
Objects are kept in lists and named by their position.
-/

namespace PaymentQueue

/-- A `Queue` and the Redis client it was created with. -/
structure QueueHandle where
  gatewayId : String
  queueOpen : Bool
  clientOpen : Bool
  deriving DecidableEq, Repr

/-- A `Worker` and the Redis client it was created with. -/
structure WorkerHandle where
  gatewayId : String
  workerOpen : Bool
  clientOpen : Bool
  deriving DecidableEq, Repr

structure GatewayRuntime where
  gatewayId : String
  queueName : String
  queue : Nat
  workers : List Nat
  deriving DecidableEq, Repr

/-- What the caller of `ensureGateway` does with the runtime. -/
inductive Continuation where
  | finish
  /-- `queue.add`, `queue.pause` or `queue.resume`. -/
  | command
  | scale (size : Nat)
  deriving DecidableEq, Repr

/-- What `scaleWorkers` awaits. -/
inductive Scaling where
  | starting (worker : Nat)
  | stopping (worker : Nat)
  | settled
  deriving DecidableEq, Repr

/-- Where a call stands. -/
inductive PoolCall where
  /-- In `ensureGateway`, before the queue is ready. -/
  | provisioning (gatewayId : String) (queue : Nat) (next : Continuation)
  /-- In `scaleWorkers`, called by `ensureGateway` or, without a
  continuation, by `setWorkerPoolSize`. -/
  | scaling (runtime target : Nat) (await : Scaling)
      (next : Option Continuation)
  /-- `ensureGateway` has returned. -/
  | ensured (runtime : Nat) (next : Continuation)
  | commanding
  /-- `pause` or `resume` of all gateways, at an entry of the map. -/
  | sweeping (position : Nat)
  | ended
  deriving DecidableEq, Repr

/-- The calls of the application. -/
inductive PoolTask where
  | ensureGateway (gatewayId : String)
  | enqueue (gatewayId : String)
  | pause (gatewayId : Option String)
  | resume (gatewayId : Option String)
  | setWorkerPoolSize (gatewayId : String) (size : Nat)
  deriving DecidableEq, Repr

structure Pool where
  queues : List QueueHandle
  workers : List WorkerHandle
  /-- The runtime objects that were created. -/
  objects : List GatewayRuntime
  /-- The map from gateway ids to runtimes, in insertion order. -/
  runtimes : List (String × Nat)
  calls : List PoolCall
  deriving DecidableEq, Repr

namespace Pool

def create : Pool :=
  { queues := [], workers := [], objects := [], runtimes := [], calls := [] }

/-- `runtimes.get`. -/
def get (gatewayId : String) (pool : Pool) : Option Nat :=
  pool.runtimes.lookup gatewayId

/-- `runtimes.set`: a key keeps its place. -/
def setRuntime (gatewayId : String) (runtime : Nat) :
    List (String × Nat) → List (String × Nat)
  | [] => [(gatewayId, runtime)]
  | entry :: entries =>
      if entry.1 = gatewayId then (gatewayId, runtime) :: entries
      else entry :: setRuntime gatewayId runtime entries

/-- `workers.pop()`, and the worker is about to be closed. -/
def scaleDown (runtime target : Nat) (pool : Pool) : Scaling × Pool :=
  match pool.objects[runtime]? with
  | none => (.settled, pool)
  | some object =>
      if target < object.workers.length then
        match object.workers.getLast? with
        | none => (.settled, pool)
        | some worker =>
            (.stopping worker, { pool with
              objects := pool.objects.set runtime
                { object with workers := object.workers.dropLast } })
      else (.settled, pool)

/-- A round of the first loop of `scaleWorkers`, or the way to the second
one. -/
def scaleUp (runtime target : Nat) (pool : Pool) : Scaling × Pool :=
  match pool.objects[runtime]? with
  | none => (.settled, pool)
  | some object =>
      if object.workers.length < target then
        (.starting pool.workers.length, { pool with
          workers := pool.workers ++ [⟨object.gatewayId, true, true⟩] })
      else pool.scaleDown runtime target

/-- The worker is ready and joins the pool. -/
def pushWorker (runtime worker : Nat) (pool : Pool) : Pool :=
  match pool.objects[runtime]? with
  | none => pool
  | some object =>
      { pool with
        objects := pool.objects.set runtime
          { object with workers := object.workers ++ [worker] } }

/-- The worker has closed and its client is disconnected. -/
def closeWorker (worker : Nat) (pool : Pool) : Pool :=
  match pool.workers[worker]? with
  | none => pool
  | some handle =>
      { pool with
        workers := pool.workers.set worker
          { handle with workerOpen := false, clientOpen := false } }

/-- `ensureGateway` up to its first await. -/
def ensureGateway (gatewayId : String) (next : Continuation) (pool : Pool) :
    PoolCall × Pool :=
  match pool.get gatewayId with
  | some runtime => (.ensured runtime next, pool)
  | none =>
      (.provisioning gatewayId pool.queues.length next, { pool with
        queues := pool.queues ++ [⟨gatewayId, true, true⟩] })

/-- The queue is ready: the runtime is entered into the map and its pool
grows to the configured size. -/
def provision (workerPoolSize : Nat) (gatewayId : String) (queue : Nat)
    (next : Continuation) (pool : Pool) : PoolCall × Pool :=
  let runtime := pool.objects.length
  let entered := { pool with
    objects := pool.objects ++
      [GatewayRuntime.mk gatewayId (QueueManager.queueNameFor gatewayId) queue
        []]
    runtimes := setRuntime gatewayId runtime pool.runtimes }
  let scaled := entered.scaleUp runtime workerPoolSize
  (.scaling runtime workerPoolSize scaled.1 (some next), scaled.2)

/-- `for (const runtime of this.runtimes.values())`, from a position on. -/
def sweep (position : Nat) (pool : Pool) : PoolCall :=
  if position < pool.runtimes.length then .sweeping position else .ended

def begin (task : PoolTask) (pool : Pool) : PoolCall × Pool :=
  match task with
  | .ensureGateway gatewayId => pool.ensureGateway gatewayId .finish
  | .enqueue gatewayId => pool.ensureGateway gatewayId .command
  | .pause (some gatewayId) => pool.ensureGateway gatewayId .command
  | .resume (some gatewayId) => pool.ensureGateway gatewayId .command
  | .pause none => (pool.sweep 0, pool)
  | .resume none => (pool.sweep 0, pool)
  | .setWorkerPoolSize gatewayId size =>
      pool.ensureGateway gatewayId (.scale size)

/-- The awaited promise of a call resolves. -/
def proceed (workerPoolSize : Nat) (call : PoolCall) (pool : Pool) :
    PoolCall × Pool :=
  match call with
  | .provisioning gatewayId queue next =>
      pool.provision workerPoolSize gatewayId queue next
  | .scaling runtime target (.starting worker) next =>
      let scaled := (pool.pushWorker runtime worker).scaleUp runtime target
      (.scaling runtime target scaled.1 next, scaled.2)
  | .scaling runtime target (.stopping worker) next =>
      let scaled := (pool.closeWorker worker).scaleDown runtime target
      (.scaling runtime target scaled.1 next, scaled.2)
  | .scaling runtime _ .settled (some next) => (.ensured runtime next, pool)
  | .scaling _ _ .settled none => (.ended, pool)
  | .ensured _ .finish => (.ended, pool)
  | .ensured _ .command => (.commanding, pool)
  | .ensured runtime (.scale size) =>
      let scaled := pool.scaleUp runtime size
      (.scaling runtime size scaled.1 none, scaled.2)
  | .commanding => (.ended, pool)
  | .sweeping position => (pool.sweep (position + 1), pool)
  | .ended => (.ended, pool)

inductive Label where
  | call (task : PoolTask)
  | resume (index : Nat)

def step (workerPoolSize : Nat) (label : Label) (pool : Pool) :
    Option Pool :=
  match label with
  | .call task =>
      let begun := pool.begin task
      some { begun.2 with calls := begun.2.calls ++ [begun.1] }
  | .resume index =>
      match pool.calls[index]? with
      | none | some .ended => none
      | some call =>
          let moved := pool.proceed workerPoolSize call
          some { moved.2 with calls := moved.2.calls.set index moved.1 }

/-- `getWorkerPoolSize`. -/
def getWorkerPoolSize (gatewayId : String) (pool : Pool) : Nat :=
  match pool.get gatewayId with
  | none => 0
  | some runtime =>
      match pool.objects[runtime]? with
      | none => 0
      | some object => object.workers.length

/-- The runtimes that the map holds. -/
def known (pool : Pool) : List GatewayRuntime :=
  pool.runtimes.filterMap fun entry => pool.objects[entry.2]?

/-- `onApplicationShutdown`: every worker and queue in the map is closed, and
its client disconnected. -/
def onApplicationShutdown (pool : Pool) : Pool :=
  { pool with
    workers := pool.workers.mapIdx fun worker handle =>
      if pool.known.any fun runtime => runtime.workers.contains worker then
        { handle with workerOpen := false, clientOpen := false }
      else handle
    queues := pool.queues.mapIdx fun queue handle =>
      if pool.known.any fun runtime => runtime.queue == queue then
        { handle with queueOpen := false, clientOpen := false }
      else handle }

end Pool

end PaymentQueue
