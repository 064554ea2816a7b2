import PaymentQueue.Await.System
import PaymentQueue.Gateway.Types

/-!
# Redis, BullMQ and the gateways as one shared world

The functions of the payment path communicate only through the state below.
Every awaited Redis or BullMQ command is atomic.  It may also throw, without
having taken effect or after it did; the reply of a gateway is open.  A
`Choice` says which of these happens.

Keys written with `EX` carry their deadline and disappear when the clock
passes it.  Three things are recorded for the statements only: the process that
wrote a key or a job (`writer`), the process that last claimed an idempotency
key (`claimant`), and what the gateways were asked.  No command returns them,
so the code cannot depend on them.
-/

namespace PaymentQueue

/-- A JSON document as its reader finds it: `JSON.parse` succeeds or not. -/
inductive Stored (α : Type) where
  | parsed (value : α)
  | malformed
  deriving DecidableEq, Repr

def Stored.parse? {α : Type} : Stored α → Option α
  | .parsed value => some value
  | .malformed => none

structure Expiring (α : Type) where
  value : α
  expiresAt : Time
  writer : Nat
  deriving DecidableEq, Repr

inductive JobState where
  | waiting
  | prioritized
  | delayed
  | active
  | completed
  | failed
  deriving DecidableEq, Repr

inductive JobData where
  | payment (data : PaymentJobData)
  | deadLetter (entry : DlqEntry)
  deriving DecidableEq, Repr

structure JobOptions where
  priority : Nat
  delay : Nat
  attempts : Nat
  /-- BullMQ keeps a completed job unless it is told otherwise. -/
  removeOnComplete : Bool := false
  deriving DecidableEq, Repr

structure Job where
  data : JobData
  options : JobOptions
  attemptsMade : Nat
  state : JobState
  addedAt : Time
  writer : Nat
  deriving DecidableEq, Repr

/-- What the gateways were asked to do, and what they answered. -/
inductive GatewayEvent where
  | charge (paymentId : PaymentId) (result : GatewayChargeResult)
  | refund (gatewayId : String) (transactionId : String)
      (result : GatewayRefundResult)
  deriving DecidableEq, Repr

structure World where
  now : Time
  /-- `payment:<id>`, field `doc`. -/
  payments : PaymentId → Option (Stored PaymentRecord)
  /-- `idempotency:payment:<id>`. -/
  idempotency : PaymentId → Option (Expiring (Stored IdempotencyRecord))
  claimant : PaymentId → Option Nat
  /-- `lock:payment:process:<id>`. -/
  locks : PaymentId → Option (Expiring Unit)
  /-- `audit:payment:<id>`. -/
  audit : PaymentId → List AuditEvent
  /-- `ledger:settlements`. -/
  settlements : List SettlementEntry
  /-- BullMQ queues by name, then job id. -/
  queues : String → PaymentId → Option Job
  gateway : List GatewayEvent
  events : List AppEvent

/-- A world in which no payment was ever submitted. -/
def World.empty (now : Time) : World :=
  { now
    payments := fun _ => none
    idempotency := fun _ => none
    claimant := fun _ => none
    locks := fun _ => none
    audit := fun _ => []
    settlements := []
    queues := fun _ _ => none
    gateway := []
    events := [] }

/-- Commands of the Redis and BullMQ clients.  `queueReady` is
`waitUntilReady` of a queue object. -/
inductive StorageCommand where
  | hgetPayment (id : PaymentId)
  | hsetPayment (id : PaymentId) (record : PaymentRecord)
  | getIdempotency (id : PaymentId)
  | setIdempotency (id : PaymentId) (record : IdempotencyRecord)
      (ttlSeconds : Nat)
  | setNxIdempotency (id : PaymentId) (record : IdempotencyRecord)
      (ttlSeconds : Nat)
  | delIdempotency (id : PaymentId)
  | setNxLock (id : PaymentId) (ttlSeconds : Nat)
  | delLock (id : PaymentId)
  | rpushAudit (id : PaymentId) (event : AuditEvent)
  | rpushSettlement (entry : SettlementEntry)
  | queueReady (queue : String)
  | queueAdd (queue : String) (jobId : PaymentId) (data : JobData)
      (options : JobOptions)
  deriving DecidableEq, Repr

namespace StorageCommand

@[reducible] def Result : StorageCommand → Type
  | hgetPayment _ => Option (Stored PaymentRecord)
  | getIdempotency _ => Option (Stored IdempotencyRecord)
  | setNxIdempotency _ _ _ => Bool
  | setNxLock _ _ => Bool
  | _ => Unit

/-- A job with a delay waits in the delayed set, one with a priority in the
prioritized set. -/
def initialState (options : JobOptions) : JobState :=
  if options.delay ≠ 0 then .delayed
  else if options.priority ≠ 0 then .prioritized
  else .waiting

/-- Effect and reply of a command that succeeds, executed by process `pid`. -/
def effect (pid : Nat) :
    (command : StorageCommand) → World → command.Result × World
  | hgetPayment id, world => (world.payments id, world)
  | hsetPayment id record, world =>
      ((), { world with
        payments := Function.update world.payments id (some (.parsed record)) })
  | getIdempotency id, world =>
      ((world.idempotency id).map Expiring.value, world)
  | setIdempotency id record ttlSeconds, world =>
      ((), { world with
        idempotency := Function.update world.idempotency id
          (some ⟨.parsed record, world.now + ttlSeconds * 1000, pid⟩) })
  | setNxIdempotency id record ttlSeconds, world =>
      match world.idempotency id with
      | some _ => (false, world)
      | none =>
          (true, { world with
            idempotency := Function.update world.idempotency id
              (some ⟨.parsed record, world.now + ttlSeconds * 1000, pid⟩)
            claimant := Function.update world.claimant id (some pid) })
  | delIdempotency id, world =>
      ((), { world with
        idempotency := Function.update world.idempotency id none })
  | setNxLock id ttlSeconds, world =>
      match world.locks id with
      | some _ => (false, world)
      | none =>
          (true, { world with
            locks := Function.update world.locks id
              (some ⟨(), world.now + ttlSeconds * 1000, pid⟩) })
  | delLock id, world =>
      ((), { world with locks := Function.update world.locks id none })
  | rpushAudit id event, world =>
      ((), { world with
        audit := Function.update world.audit id (world.audit id ++ [event]) })
  | rpushSettlement entry, world =>
      ((), { world with settlements := world.settlements ++ [entry] })
  | queueReady _, world => ((), world)
  | queueAdd queue jobId data options, world =>
      match world.queues queue jobId with
      | some _ => ((), world)
      | none =>
          ((), { world with
            queues := Function.update world.queues queue
              (Function.update (world.queues queue) jobId
                (some ⟨data, options, 0, initialState options, world.now,
                  pid⟩)) })

end StorageCommand

/-- Everything the payment path awaits. -/
inductive Command where
  | storage (command : StorageCommand)
  | guardCall (payment : PaymentRecord) (correlationId : Option String)
  | guardRefund (gatewayId : String) (transactionId : String)
  | emit (event : AppEvent)
  deriving DecidableEq, Repr

@[reducible] def Command.Result : Command → Type
  | .storage command => command.Result
  | .guardCall _ _ => CallOutcome
  | .guardRefund _ _ => RefundOutcome
  | .emit _ => Unit

@[reducible] def signature : Await.Signature :=
  ⟨Command, Command.Result, Thrown⟩

/-- How an awaited command turns out.  `lost` throws although the command
took effect, `refused` throws without effect. -/
inductive Choice where
  | succeed
  | lost (message : String)
  | refused (message : String)
  | guard (response : GuardResponse)
  | refund (result : GatewayRefundResult)
  deriving DecidableEq, Repr

/-- The command does not throw. -/
def Choice.faultless : Choice → Bool
  | .lost _ => false
  | .refused _ => false
  | _ => true

/-- The command throws although it took effect. -/
def Choice.isLost : Choice → Bool
  | .lost _ => true
  | _ => false

/-- The command throws without effect. -/
def Choice.isRefused : Choice → Bool
  | .refused _ => true
  | _ => false

/-- The gateway is reached only when neither the bucket nor the breaker
refuses. -/
def GuardResponse.events (paymentId : PaymentId) :
    GuardResponse → List GatewayEvent
  | .answered result => [.charge paymentId result]
  | _ => []

def exec (tokenWaitMs : Nat) (pid : Nat) :
    (command : Command) → Choice → World →
      Option (Except Thrown command.Result × World)
  | .storage command, choice, world =>
      match choice with
      | .succeed =>
          some (.ok (command.effect pid world).1, (command.effect pid world).2)
      | .lost message =>
          some (.error (.error message), (command.effect pid world).2)
      | .refused message => some (.error (.error message), world)
      | _ => none
  | .guardCall payment _, choice, world =>
      match choice with
      | .guard response =>
          some (.ok (callOutcome tokenWaitMs payment.gatewayId response),
            { world with
              gateway := world.gateway ++ response.events payment.id })
      | _ => none
  | .guardRefund gatewayId transactionId, choice, world =>
      match choice with
      | .refund result =>
          some (.ok (refundOutcome gatewayId result),
            { world with
              gateway := world.gateway ++
                [.refund gatewayId transactionId result] })
      | _ => none
  | .emit event, choice, world =>
      match choice with
      | .succeed =>
          some (.ok (), { world with events := world.events ++ [event] })
      | _ => none

/-- The settings of `AppConfig` that the payment path reads. -/
structure AppConfig where
  leaseTtlSeconds : Nat
  retentionSeconds : Nat
  tokenWaitMs : Nat

/-- Defaults of `buildConfig`. -/
def AppConfig.default : AppConfig :=
  { leaseTtlSeconds := 600
    retentionSeconds := 86400
    tokenWaitMs := 15000 }

@[reducible] def machine (config : AppConfig) : Await.Machine signature where
  World := World
  Choice := Choice
  clock := World.now
  exec := exec config.tokenWaitMs

/-- Time passes; keys whose deadline is over disappear. -/
def World.tick (world : World) (elapsed : Nat) : World :=
  { world with
    now := world.now + elapsed
    idempotency := fun id =>
      (world.idempotency id).filter fun key =>
        decide (world.now + elapsed ≤ key.expiresAt)
    locks := fun id =>
      (world.locks id).filter fun key =>
        decide (world.now + elapsed ≤ key.expiresAt) }

/-- Moves of BullMQ and of the clock. -/
inductive Event where
  | tick (elapsed : Nat)
  | activate (queue : String) (jobId : PaymentId)
  | complete (queue : String) (jobId : PaymentId)
  | fail (queue : String) (jobId : PaymentId)
  deriving DecidableEq, Repr

namespace Job

/-- A job that is neither completed nor in the failed set is waiting, delayed,
active or scheduled for a retry. -/
def live (job : Job) : Bool :=
  decide (job.state ≠ .completed ∧ job.state ≠ .failed)

def due (job : Job) (now : Time) : Bool :=
  decide (job.state = .delayed → job.addedAt + job.options.delay ≤ now) &&
    job.live

/-- A completed job stays in the queue, unless it was added with
`removeOnComplete`. -/
def complete (job : Job) : Option Job :=
  if job.options.removeOnComplete then none
  else some { job with state := .completed }

theorem complete_eq_some {job next : Job} (kept : job.complete = some next) :
    next = { job with state := .completed } := by
  rw [complete] at kept
  split at kept
  · cases kept
  · exact (Option.some.inj kept).symm

/-- One more attempt has failed; the job waits for its retry, or stays in the
failed set when `attempts` are used up. -/
def failAttempt (job : Job) : Job :=
  { job with
    attemptsMade := job.attemptsMade + 1
    state :=
      if job.options.attempts ≤ job.attemptsMade + 1 then .failed
      else .waiting }

theorem live_failAttempt (job : Job) :
    job.failAttempt.live =
      decide (job.attemptsMade + 1 < job.options.attempts) := by
  rw [live, failAttempt]
  split
  case isTrue exhausted => simp [Nat.not_lt.mpr exhausted]
  case isFalse remaining => simp [Nat.lt_of_not_le remaining]

end Job

def World.setJob (world : World) (queue : String) (jobId : PaymentId)
    (job : Option Job) : World :=
  { world with
    queues := Function.update world.queues queue
      (Function.update (world.queues queue) jobId job) }

/-- `removeOnFail` is never set, so a failed job stays. -/
def environment : Event → World → Option World
  | .tick elapsed, world => some (world.tick elapsed)
  | .activate queue jobId, world =>
      match world.queues queue jobId with
      | some job =>
          if job.due world.now then
            some (world.setJob queue jobId (some { job with state := .active }))
          else none
      | none => none
  | .complete queue jobId, world =>
      match world.queues queue jobId with
      | some job =>
          if job.state = .active then
            some (world.setJob queue jobId job.complete)
          else none
      | none => none
  | .fail queue jobId, world =>
      match world.queues queue jobId with
      | some job =>
          if job.state = .active then
            some (world.setJob queue jobId (some job.failAttempt))
          else none
      | none => none

/-- The idempotency record that was read is final. -/
def readsFinal (existing : Option IdempotencyRecord) : Bool :=
  existing.any fun record => record.state.final

namespace World

variable (world : World) (id : PaymentId)

/-- The record that `PaymentStore.get` finds. -/
def payment : Option PaymentRecord :=
  (world.payments id).bind Stored.parse?

/-- The record that `IdempotencyService.get` finds. -/
def claim : Option IdempotencyRecord :=
  (world.idempotency id).bind fun key => key.value.parse?

/-- The idempotency record reads `COMPLETED` or `FAILED`. -/
def finalized : Bool :=
  readsFinal (world.claim id)

/-- The process that wrote the execution lock. -/
def lockOwner : Option Nat :=
  (world.locks id).map Expiring.writer

end World

end PaymentQueue
