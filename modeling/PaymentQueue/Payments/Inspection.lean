import PaymentQueue.Payments.Service
import PaymentQueue.Sorting.Comparison

/-!
# Inspection of the dead letter queue

`QueueManager.listDlq`, `PaymentService.listDeadLetters` and the endpoint
`GET /queues/dlq`.  BullMQ keeps the jobs of a queue at positions, one sequence
for each state; a `Layout` gives these sequences.  A gateway whose queue is
called `dlq` too keeps its payment jobs in the same queue.
-/

namespace PaymentQueue

open Await Sorting

namespace QueueManager

/-- The states that `listDlq` asks for. -/
inductive ListedState where
  | waiting
  | delayed
  | active
  | failed
  | completed
  deriving DecidableEq, Repr

def listedStates : List ListedState :=
  [.waiting, .delayed, .active, .failed, .completed]

structure QueuedJob where
  id : PaymentId
  data : JobData
  deriving DecidableEq, Repr

abbrev Layout : Type := ListedState → List QueuedJob

/-- `Queue.getJobs`: for each state the jobs at the positions from `first` to
`last`, both included. -/
def getJobs (layout : Layout) (types : List ListedState)
    (first last : Nat) : List QueuedJob :=
  types.flatMap fun state => ((layout state).take (last + 1)).drop first

/-- The data of a payment job has no `reason` and no `deadLetteredAt`. -/
structure ListedEntry where
  paymentId : PaymentId
  correlationId : Option String
  reason : Option String
  deadLetteredAt : Option Time
  jobId : PaymentId
  deriving DecidableEq, Repr

/-- `{ ...job.data, jobId: job.id }` -/
def listed (job : QueuedJob) : ListedEntry :=
  match job.data with
  | .payment data =>
      ⟨data.paymentId, data.correlationId, none, none, job.id⟩
  | .deadLetter entry =>
      ⟨entry.paymentId, entry.correlationId, some entry.reason,
        some entry.deadLetteredAt, job.id⟩

/-- `a.deadLetteredAt.localeCompare(b.deadLetteredAt)` -/
def compareDeadLetteredAt : Comparator Thrown ListedEntry := fun a b =>
  match a.deadLetteredAt, b.deadLetteredAt with
  | none, _ => .error (.error
      "Cannot read properties of undefined (reading 'localeCompare')")
  -- A timestamp is compared with the text `undefined`.
  | some _, none => .ok .lt
  | some first, some second => .ok (compare first second)

def listDlq (engine : Engine Thrown ListedEntry) (layout : Layout) :
    Except Thrown (List ListedEntry) :=
  engine.sort compareDeadLetteredAt
    ((getJobs layout listedStates 0 200).map listed)

end QueueManager

namespace PaymentService

open QueueManager

structure DeadLetter where
  paymentId : PaymentId
  reason : Option String
  deadLetteredAt : Option Time
  payment : Option PaymentRecord
  deriving DecidableEq, Repr

/-- The entries and the records that `PaymentStore.get` finds for them are
joined by index. -/
def listDeadLetters (engine : Engine Thrown ListedEntry) (layout : Layout)
    (get : PaymentId → Option PaymentRecord) :
    Except Thrown (List DeadLetter) := do
  let entries ← listDlq engine layout
  let payments := entries.map fun entry => get entry.paymentId
  return entries.mapIdx fun index entry =>
    ⟨entry.paymentId, entry.reason, entry.deadLetteredAt,
      payments[index]?.join⟩

end PaymentService

namespace QueuesController

open QueueManager PaymentService

structure DeadLetterList where
  count : Nat
  entries : List DeadLetter
  deriving DecidableEq, Repr

/-- `GET /queues/dlq`.  An empty filter is no filter. -/
def dlq (engine : Engine Thrown ListedEntry) (layout : Layout)
    (get : PaymentId → Option PaymentRecord) (gatewayId : Option String) :
    Except Thrown DeadLetterList := do
  let entries ← listDeadLetters engine layout get
  let filtered :=
    match gatewayId with
    | none => entries
    | some gatewayId =>
        if gatewayId = "" then entries
        else entries.filter fun letter =>
          decide (letter.payment.map PaymentRecord.gatewayId = some gatewayId)
  return ⟨filtered.length, filtered⟩

end QueuesController

end PaymentQueue
