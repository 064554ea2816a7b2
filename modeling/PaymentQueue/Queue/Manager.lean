import PaymentQueue.Payments.Stores

/-!
# Queue manager: jobs

The job-facing part of `queue/queue-manager.service.ts`.  Provisioning of a
gateway (`ensureGateway`) and of the dead letter queue is one await of the
queue connection.
-/

namespace PaymentQueue

open Await

namespace QueueManager

variable {locals : Type}

/-- `DLQ_QUEUE_NAME`. -/
def dlqQueueName : String := "dlq"

/-- What one character contributes to a queue name: `toLowerCase`, then every
UTF-16 code unit outside `[a-z0-9-]` becomes `-`.  Besides the ASCII letters,
the Kelvin sign lower-cases to `k` and the dotted capital I to `i` and a
combining dot; a character above the basic plane is two code units. -/
def queueNameChars (character : Char) : List Char :=
  if 'A' ≤ character ∧ character ≤ 'Z' then
    [Char.ofNat (character.toNat + 32)]
  else if ('a' ≤ character ∧ character ≤ 'z') ∨
      ('0' ≤ character ∧ character ≤ '9') ∨ character = '-' then
    [character]
  else if character.toNat = 0x212A then ['k']
  else if character.toNat = 0x130 then ['i', '-']
  else if 0x10000 ≤ character.toNat then ['-', '-']
  else ['-']

def queueNameFor (gatewayId : String) : String :=
  String.ofList ((gatewayId.toList.flatMap queueNameChars).take 60)

structure EnqueuePaymentJobInput where
  gatewayId : String
  paymentId : PaymentId
  correlationId : Option String
  priority : PaymentPriority
  maxRetries : Nat
  delayMs : Option Nat
  jobId : PaymentId

/-- The options of the added job.  Delays are whole milliseconds, so the
rounding of the source changes nothing. -/
def jobOptions (input : EnqueuePaymentJobInput) : JobOptions :=
  { priority := input.priority.toNumeric
    delay := if input.delayMs.getD 0 ≠ 0 then max 1 (input.delayMs.getD 0)
      else 0
    attempts := input.maxRetries + 1
    removeOnComplete := true }

/-- Enqueue a payment job with priority and delay (ADR 0001). -/
def enqueue (input : EnqueuePaymentJobInput) : Async locals Unit := do
  awaitStorage (.queueReady (queueNameFor input.gatewayId))
  awaitStorage (.queueAdd (queueNameFor input.gatewayId) input.jobId
    (.payment ⟨input.paymentId, input.correlationId⟩) (jobOptions input))

def routeToDlq (entry : DlqEntry) : Async locals Unit := do
  awaitStorage (.queueReady dlqQueueName)
  awaitStorage (.queueAdd dlqQueueName entry.paymentId (.deadLetter entry)
    { priority := 0, delay := 0, attempts := 1 })

/-- The test of the worker's `failed` listener: is the retry budget spent? -/
def exhausted (job : Job) : Bool :=
  decide (job.options.attempts ≤ job.attemptsMade)

end QueueManager

end PaymentQueue
