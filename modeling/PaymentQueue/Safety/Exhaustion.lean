import PaymentQueue.Runtime.Attempts
import PaymentQueue.Safety.DeadLetters

/-!
# Exhausted jobs and the dead letter queue

A job whose last attempt has failed is handed to the failure handler, which is
to route the payment to the dead letter queue.  It looks the record up first and
gives up when there is none; the processor, which throws in that case, relies on
it all the same.
-/

namespace PaymentQueue.Exhaustion

open Await DeadLetters

variable {config : AppConfig} {id : PaymentId} {readable : Bool}
  {slot : Option Bool}

/-- The payment is in the dead letter queue, or was completed after all. -/
def Surfaced (id : PaymentId) (world : World) : Prop :=
  entered id world = true ∨
    ∃ record, world.payment id = some record ∧ record.status = .completed

/-- What an attempt and the failure handler find of a payment: its document,
and whether its place in the dead letter queue is free, or taken by an entry or
by another job. -/
structure Found where
  doc : Option (Stored PaymentRecord)
  letter : Option Bool

def found (id : PaymentId) (world : World) : Found :=
  ⟨world.payments id,
    (world.queues QueueManager.dlqQueueName id).map (isEntry id)⟩

namespace Found

/-- The record is readable, or not, as it was when the job was enqueued. -/
structure Begins (id : PaymentId) (readable : Bool) (slot : Option Bool)
    (found : Found) : Prop where
  keyed : ∀ record, found.doc.bind Stored.parse? = some record →
    record.id = id
  read : (found.doc.bind Stored.parse?).isSome = readable
  letter : found.letter = slot

/-- The record was worked on and is not terminal. -/
structure Works (id : PaymentId) (slot : Option Bool) (found : Found) :
    Prop where
  record : ∃ record, found.doc = some (.parsed record) ∧ record.id = id ∧
    record.status = .processing
  letter : found.letter = slot

/-- The record was dead-lettered. -/
structure Buried (slot : Option Bool) (found : Found) : Prop where
  record : ∃ record, found.doc = some (.parsed record) ∧
    record.status = .deadLetter
  letter : found.letter = slot

/-- An attempt has failed. -/
structure Fails (id : PaymentId) (readable : Bool) (slot : Option Bool)
    (found : Found) : Prop extends Begins id readable slot found where
  works : readable = true → Works id slot found

/-- The failure handler has finished. -/
def Ends (readable : Bool) (slot : Option Bool) (found : Found) : Prop :=
  (found.letter = some true ∨
    ∃ record, found.doc.bind Stored.parse? = some record ∧
      record.status = .completed) ↔
    slot = some true ∨ (readable = true ∧ slot = none)

end Found

/-- What is known at each stage.  An attempt, or the handler, begins with
`first`; `early` is what it knows once it has read the record. -/
def Knows (id : PaymentId) (readable : Bool) (slot : Option Bool)
    (first early : Found → Prop) : Stage → Found → Prop
  | .idle, found => first found
  | .seen, found | .checked, found | .locked, found | .entered, found =>
      readable = true ∧ early found
  | .buried _, found | .failed _, found =>
      readable = true ∧ found.Buried slot
  | .routed _, found => found.Ends readable slot
  | .terminal, _ | .aborted, _ => False
  | .unrecorded _, _ | .recorded _, _ | .unsure _, _ | .completed _, _ =>
      readable = true
  | _, found => readable = true ∧ found.Works id slot

section Rules

variable {pid : Nat} {know : Found → Prop}

/-- No command other than the append to the ledger throws. -/
theorem faultless {command : Command} (other : command.settles = false) :
    Faultless (clocked config unfailing) command := by
  intro choice before allowed
  have permitted : unfailing command choice before = true := allowed
  simpa [unfailing, other] using permitted

private theorem stable_found : Stable (clocked config unfailing)
    (fun world => know (found id world)) := by
  rintro first second (rfl | ⟨elapsed, rfl⟩) _ known <;> exact known

/-- A command that neither saves records nor adds jobs. -/
theorem moves_beside {command : Command}
    {result : Except Thrown command.Result → World → Prop}
    (payments : command.writes .payments = false)
    (queues : command.writes .queues = false)
    (reached : ∀ before outcome after, know (found id after) →
      Executes (clocked config unfailing) pid command before outcome after →
      result outcome after) :
    Moves (clocked config unfailing) pid command
      (fun world => know (found id world)) result := by
  intro before outcome after known execution
  have samePayments : after.payments = before.payments :=
    executes_agrees execution payments
  have sameQueues : after.queues = before.queues :=
    executes_agrees execution queues
  refine ⟨⟨trivial, trivial⟩, reached before outcome after ?_ execution⟩
  rw [found, samePayments, sameQueues]
  exact known

/-- The same for a command that is not the append to the ledger. -/
theorem moves_silent {command : Command}
    {result : Except Thrown command.Result → World → Prop}
    (other : command.settles = false)
    (payments : command.writes .payments = false)
    (queues : command.writes .queues = false)
    (reached : ∀ value world, know (found id world) →
      result (.ok value) world) :
    Moves (clocked config unfailing) pid command
      (fun world => know (found id world)) result := by
  apply moves_beside payments queues
  intro before outcome after known execution
  obtain ⟨value, rfl⟩ := (faultless other).succeeds execution
  exact reached value after known

theorem moves_load
    {result : Except Thrown (Option (Stored PaymentRecord)) → World → Prop}
    (reached : ∀ world, know (found id world) →
      result (.ok (world.payments id)) world) :
    Moves (clocked config unfailing) pid (.storage (.hgetPayment id))
      (fun world => know (found id world)) result := by
  apply (faultless rfl).moves_storage
  intro before known _ _
  exact ⟨⟨trivial, trivial⟩, reached before known⟩

/-- The save of a record of the payment. -/
theorem moves_save {record : PaymentRecord}
    {result : Except Thrown Unit → World → Prop}
    (reached : ∀ before after, know (found id before) →
      found id after = { found id before with doc := some (.parsed record) } →
      result (.ok ()) after) :
    Moves (clocked config unfailing) pid (.storage (.hsetPayment id record))
      (fun world => know (found id world)) result := by
  apply (faultless rfl).moves_storage
  intro before known _ _
  refine ⟨⟨trivial, trivial⟩, reached before _ known ?_⟩
  simp [found, StorageCommand.effect]

private theorem moves_route {entry : DlqEntry} {options : JobOptions}
    {result : Except Thrown Unit → World → Prop}
    (same : entry.paymentId = id)
    (reached : ∀ before after, know (found id before) →
      found id after = { found id before with
        letter := some ((found id before).letter.getD true) } →
      result (.ok ()) after) :
    Moves (clocked config unfailing) pid
      (.storage (.queueAdd QueueManager.dlqQueueName id (.deadLetter entry)
        options)) (fun world => know (found id world)) result := by
  apply (faultless rfl).moves_storage
  intro before known _ _
  refine ⟨⟨trivial, trivial⟩, reached before _ known ?_⟩
  cases taken : before.queues QueueManager.dlqQueueName id with
  | some letter => simp [found, StorageCommand.effect, taken]
  | none => simp [found, StorageCommand.effect, taken, isEntry, same]

end Rules

section Outlines

variable {pid : Nat} {first early : Found → Prop} {stage : Stage}

/-- The facts of the outlines below. -/
abbrev Known (id : PaymentId) (readable : Bool) (slot : Option Bool)
    (first early : Found → Prop) (stage : Stage) (world : World) : Prop :=
  Knows id readable slot first early stage (found id world)

theorem burial
    (start : ∀ found, Knows id readable slot first early stage found →
      readable = true ∧ found.Works id slot) :
    BurialOutline (clocked config unfailing) pid id
      (Known id readable slot first early) stage where
  stable := fun _ => stable_found
  lookup := moves_load <| by
    intro world known
    obtain ⟨record, stored, ours, processing⟩ := (start _ known).2.record
    have doc : world.payments id = some (.parsed record) := stored
    rw [doc]
    show Latest id _ stage (some record) world
    have unfinished : record.status.terminal = false := by
      rw [processing]
      rfl
    simp only [Latest, unfinished, Bool.false_eq_true, if_false]
    exact ⟨ours, known⟩
  bury := by
    intro record reason ours status _
    refine moves_save ?_
    intro before after known same
    obtain ⟨legible, works⟩ := start _ known
    show readable = true ∧ (found id after).Buried slot
    rw [same]
    exact ⟨legible, ⟨record, rfl, status⟩, works.letter⟩
  readBuried := fun reason => moves_silent rfl rfl rfl fun _ _ known => known
  fail := fun reason previous now =>
    moves_silent rfl rfl rfl fun _ _ known => known
  audit := fun reason event =>
    moves_silent rfl rfl rfl fun _ _ known => known
  emit := fun reason event =>
    moves_silent rfl rfl rfl fun _ _ known => known
  ready := fun reason => moves_silent rfl rfl rfl fun _ _ known => known
  route := by
    intro entry same
    refine moves_route same ?_
    rintro before after ⟨legible, ⟨record, stored, status⟩, letter⟩ added
    show (found id after).Ends readable slot
    rw [Found.Ends, added, stored, letter]
    cases slot with
    | none => simp [legible]
    | some entry => simp [Stored.parse?, status]

/-- How an attempt ends: one that throws leaves a record to be dead-lettered,
if there was a record at all. -/
def attemptEnds (id : PaymentId) (readable : Bool) (slot : Option Bool) :
    Except Thrown ProcessResult → World → Prop
  | .ok _, _ => True
  | .error _, world => (found id world).Fails id readable slot

/-- What an attempt knows. -/
abbrev Attempting (id : PaymentId) (readable : Bool) (slot : Option Bool) :
    Stage → World → Prop :=
  Known id readable slot (Found.Begins id readable slot)
    (fun found => found.letter = slot)

theorem Found.Works.fails {found : Found} (works : found.Works id slot)
    (legible : readable = true) : found.Fails id readable slot := by
  obtain ⟨record, stored, ours, -⟩ := works.record
  refine ⟨⟨?_, ?_, works.letter⟩, fun _ => works⟩
  · intro other same
    rw [stored] at same
    obtain rfl := Option.some.inj same
    exact ours
  · rw [stored, legible]
    rfl

private theorem attempting_saga {world : World} (inSaga : stage.inSaga = true) :
    Attempting id readable slot stage world ↔
      readable = true ∧ (found id world).Works id slot := by
  cases stage <;> first | exact Iff.rfl | cases inSaga

private theorem attempting_closing {world : World}
    (closing : stage.closing.isSome = true) :
    Attempting id readable slot stage world ↔ readable = true := by
  cases stage <;> first | exact Iff.rfl | cases closing

private theorem moves_book {command : Command}
    (allowed : bookkeeping id stage command) :
    Moves (clocked config unfailing) pid command
      (Attempting id readable slot stage)
      (fun _ => Attempting id readable slot stage) := by
  cases command with
  | storage command =>
      cases command with
      | hsetPayment key record =>
          obtain ⟨rfl, fits⟩ := allowed
          refine moves_save ?_
          intro before after known same
          rcases fits with ⟨inSaga, carried⟩ | ⟨transactionId, closing, -⟩
          · obtain ⟨legible, works⟩ := (attempting_saga inSaga).mp known
            refine (attempting_saga inSaga).mpr ⟨legible, ?_⟩
            rw [same]
            exact ⟨⟨record, rfl, carried.id, carried.status⟩, works.letter⟩
          · have closes : stage.closing.isSome = true := by simp [closing]
            exact (attempting_closing closes).mpr
              ((attempting_closing closes).mp known)
      | rpushAudit key event =>
          exact moves_silent rfl rfl rfl fun _ _ known => known
      | _ => exact allowed.elim
  | emit event => exact moves_silent rfl rfl rfl fun _ _ known => known
  | guardCall payment correlationId => exact allowed.elim
  | guardRefund gatewayId transactionId => exact allowed.elim

private theorem attemptEnds_of_explains {world : World}
    {result : Except Thrown ProcessResult}
    (explained : Explains False id stage result)
    (known : Attempting id readable slot stage world) :
    attemptEnds id readable slot result world := by
  cases result with
  | ok result => exact trivial
  | error error =>
      rcases explained with rfl | ⟨impossible, -⟩ | ⟨rfl, -⟩
      · exact known.elim
      · exact impossible.elim
      · exact known.2.fails known.1

private theorem processOutline :
    ProcessOutline (clocked config unfailing) pid id False
      (Attempting id readable slot) (attemptEnds id readable slot) where
  stable := fun _ => stable_found
  faulty := by
    intro command before error after other execution
    obtain ⟨value, impossible⟩ := (faultless other).succeeds execution
    cases impossible
  book := fun stage command _ => moves_book
  charge := fun payment correlationId _ => moves_beside rfl rfl <| by
    intro before outcome after known execution
    match outcome with
    | .ok (.ok transactionId httpStatus) => exact known
    | .ok (.fail error) => exact known
    | .error error => exact (guardCall_returns execution).elim
  append := fun entry _ => moves_beside rfl rfl <| by
    intro before outcome after known execution
    cases outcome <;> exact known
  refund := fun gatewayId transactionId => moves_beside rfl rfl <| by
    intro before outcome after known execution
    match outcome with
    | .ok (.ok refundId httpStatus) => exact known
    | .ok (.fail error) => exact known
    | .error error => exact (guardRefund_returns execution).elim
  load := moves_load <| by
    intro world begins
    show Loads id _ _ (world.payment id) world
    have read : (world.payment id).isSome = readable := begins.read
    cases stored : world.payment id with
    | none =>
        intro message
        refine ⟨begins, fun legible => ?_⟩
        rw [stored, legible] at read
        cases read
    | some record =>
        rw [stored] at read
        exact ⟨begins.keyed record stored, read.symm, begins.letter⟩
  check := moves_silent rfl rfl rfl <| by
    intro raw world known
    show Checks id _ _ (raw.bind Stored.parse?) world
    rw [Checks]
    split
    · exact fun _ => trivial
    · exact known
  lock := moves_silent rfl rfl rfl <| by
    intro acquired world known
    cases acquired with
    | false => exact fun _ => trivial
    | true => exact known
  readLocked := moves_silent rfl rfl rfl fun _ _ known => known
  enter := fun claimedAt now =>
    moves_silent rfl rfl rfl fun _ _ known => known
  begin := by
    intro record carried
    rw [carried.id]
    refine moves_save ?_
    rintro before after ⟨legible, letter⟩ same
    show readable = true ∧ (found id after).Works id slot
    rw [same]
    exact ⟨legible, ⟨record, rfl, carried.id, carried.status⟩, letter⟩
  record := by
    intro record transactionId carried
    refine moves_save ?_
    intro before after known _
    exact known.1
  readRecorded := fun transactionId =>
    moves_silent rfl rfl rfl fun _ _ known => known
  complete := fun transactionId previous now =>
    moves_silent rfl rfl rfl fun _ _ known => known
  burial := by
    rintro stage failure (rfl | ⟨-, transactionId, succeeded, rfl⟩)
    · exact burial fun _ known => known
    · exact burial fun _ known => known
  release := fun stage result explained =>
    moves_silent rfl rfl rfl fun _ world known =>
      attemptEnds_of_explains explained known

/-- How the failure handler ends. -/
def handlerEnds (id : PaymentId) (readable : Bool) (slot : Option Bool) :
    Except Thrown Unit → World → Prop
  | .ok _, world => (found id world).Ends readable slot
  | .error _, _ => False

private theorem handlerOutline :
    HandlerOutline (clocked config unfailing) pid id
      (Known id readable slot (Found.Fails id readable slot)
        (Found.Works id slot))
      (handlerEnds id readable slot) where
  toBurialOutline := burial fun _ known => known
  load := moves_load <| by
    intro world fails
    show Handles id _ _ (world.payment id) world
    have read : (world.payment id).isSome = readable := fails.read
    cases stored : world.payment id with
    | none =>
        have none : (found id world).doc.bind Stored.parse? = none := stored
        show (found id world).Ends readable slot
        rw [stored] at read
        rw [Found.Ends, none, fails.letter, ← read]
        simp
    | some record =>
        rw [stored] at read
        have legible : readable = true := read.symm
        obtain ⟨other, doc, ours, processing⟩ := (fails.works legible).record
        have same : world.payment id = some other := by
          rw [World.payment]
          have doc : world.payments id = some (.parsed other) := doc
          rw [doc]
          rfl
        obtain rfl := Option.some.inj (stored.symm.trans same)
        have unfinished : ¬ record.status.terminal = true := by
          rw [processing]
          exact Bool.false_ne_true
        rw [Handles, if_neg unfinished]
        exact ⟨ours, legible, fails.works legible⟩
  routed := fun _ _ known => known
  terminal := fun _ impossible => impossible.elim
  aborted := fun _ _ impossible => impossible.elim

end Outlines

section Runs

variable {input : CreatePaymentInput} {start world after : World}
  {past : List Answers} {pid : Nat}

/-- A delivery that is executed and throws. -/
theorem process_fails {answers : Answers} {handle : JobHandle}
    {error : Thrown} (same : handle.data.paymentId = input.id)
    (begins : (found input.id world).Begins input.id readable slot)
    (executes : (Task.process handle).Executes config answers.permits pid
      world (.error error) after) :
    (found input.id after).Fails input.id readable slot := by
  have safe : (((Task.process handle).body config).start world.now).Safe
      (clocked config unfailing) pid (fun output final =>
        ∃ outcome, output = Except.map Output.processed outcome ∧
          attemptEnds input.id readable slot outcome final) world :=
    processOutline.safe_code same begins
      (fun outcome final ended => ⟨outcome, rfl, ended⟩) _
  obtain ⟨outcome, returned, ended⟩ :=
    safe.completes (fun _ _ _ _ => trivial) trivial
      (executes.mono (fun _ _ moved => moved)
        (fun _ _ _ permitted => Answers.unfailing permitted))
  cases outcome with
  | ok result => cases returned
  | error error => exact ended

private theorem handler_ends {data : PaymentJobData} {error : Thrown}
    (same : data.paymentId = input.id)
    (fails : (found input.id world).Fails input.id readable slot)
    (executes : (Task.handleJobFailure data error).Executes config unfailing
      pid world (.ok .handled) after) :
    (found input.id after).Ends readable slot := by
  have safe : (((Task.handleJobFailure data error).body config).start
      world.now).Safe (clocked config unfailing) pid
      (fun output final => ∃ outcome,
        output = Except.map (fun _ => Output.handled) outcome ∧
          handlerEnds input.id readable slot outcome final) world :=
    handlerOutline.safe_code same fails error
      (fun outcome final ended => ⟨outcome, rfl, ended⟩) _
  obtain ⟨outcome, returned, ended⟩ :=
    safe.completes (fun _ _ _ _ => trivial) trivial executes
  cases outcome with
  | ok _ => exact ended
  | error error => exact ended.elim

/-- A new state of the payment's own job is not seen in the dead letter queue,
even if the gateway's queue has the same name. -/
theorem found_setJob (enqueued : Enqueued input world) {next : Job}
    {data : PaymentJobData} (carried : next.data = .payment data) :
    found input.id (world.setJob
      (QueueManager.queueNameFor input.gatewayId) input.id (some next)) =
        found input.id world := by
  obtain ⟨job, other, stored, sameData, -⟩ := enqueued
  by_cases here : QueueManager.queueNameFor input.gatewayId =
      QueueManager.dlqQueueName
  · rw [here] at stored ⊢
    simp [found, World.setJob, stored, isEntry, carried, sameData]
  · simp [found, World.setJob, Function.update_of_ne (Ne.symm here)]

/-- What holds between the attempts. -/
def Lives (input : CreatePaymentInput) (readable : Bool)
    (slot : Option Bool) : Phase → World → Prop
  | .waiting, world => Enqueued input world ∧
      (found input.id world).Begins input.id readable slot
  | .failed _, world => Enqueued input world ∧
      (found input.id world).Fails input.id readable slot
  | .acknowledged _, _ => True
  | .exhausted, world => (found input.id world).Ends readable slot

theorem Lives.thrown {answers : Answers} {active final : World}
    {handle : JobHandle} {error : Thrown}
    (waiting : Lives input readable slot .waiting world)
    (delivered : Delivered input world handle active)
    (executes : (Task.process handle).Executes config answers.permits pid
      active (.error error) after)
    (failed : environment (.fail
      (QueueManager.queueNameFor input.gatewayId) input.id) after =
        some final) :
    Lives input readable slot (.failed error) final := by
  obtain ⟨enqueued, begins⟩ := waiting
  obtain ⟨same, queued, next, rfl, carried⟩ := enqueued.delivered delivered
  rw [← found_setJob enqueued carried] at begins
  have fails := process_fails same begins executes
  have left := queued.executed executes
  obtain ⟨still, next, rfl, data, carried⟩ := left.failed failed
  refine ⟨still, ?_⟩
  rw [found_setJob left carried]
  exact fails

/-- The invariant of a run. -/
theorem lives {phase : Phase} (fresh : Lives input readable slot .waiting start)
    (attempted : Attempted config input start past phase world) :
    Lives input readable slot phase world := by
  induction attempted with
  | enqueued => exact fresh
  | @elapsed past phase world elapsed _ induction =>
      cases phase with
      | waiting | failed error | acknowledged result | exhausted =>
          exact induction
  | returned _ _ _ _ _ => exact trivial
  | thrown _ delivered executes failed induction =>
      exact induction.thrown delivered executes failed
  | retried _ _ _ induction => exact ⟨induction.1, induction.2.toBegins⟩
  | handled _ stored _ carried executes induction =>
      obtain ⟨⟨job, data, queued, sameData, same⟩, fails⟩ := induction
      obtain rfl := Option.some.inj (stored.symm.trans queued)
      obtain rfl := JobData.payment.inj (carried.symm.trans sameData)
      exact handler_ends same fails executes

private theorem entered_iff_letter {world : World} :
    entered id world = true ↔ (found id world).letter = some true := by
  cases stored : world.queues QueueManager.dlqQueueName id <;>
    simp [entered, found, stored]

/-- A job whose attempts were exhausted surfaces exactly if its payment was in
the dead letter queue before, or had a readable record and a free place in that
queue. -/
theorem exhausted_surfaces_iff (config : AppConfig)
    (input : CreatePaymentInput) (start world : World) (past : List Answers)
    (keyed : ∀ record, start.payment input.id = some record →
      record.id = input.id)
    (enqueued : Enqueued input start)
    (attempted : Attempted config input start past .exhausted world) :
    Surfaced input.id world ↔
      entered input.id start = true ∨
        ((start.payment input.id).isSome = true ∧
          start.queues QueueManager.dlqQueueName input.id = none) := by
  have fresh : Lives input (start.payment input.id).isSome
      (found input.id start).letter .waiting start :=
    ⟨enqueued, keyed, rfl, rfl⟩
  have ended : (found input.id world).Ends _ _ := lives fresh attempted
  have free : (found input.id start).letter = none ↔
      start.queues QueueManager.dlqQueueName input.id = none := by
    simp [found]
  rw [Found.Ends, ← entered_iff_letter, ← entered_iff_letter, free] at ended
  exact ended

end Runs

/-- A job of payment `p1` with a single attempt. -/
def singleAttempt : Job :=
  { data := .payment ⟨"p1", none⟩
    options := ⟨2, 0, 1, true⟩
    attemptsMade := 0
    state := .prioritized
    addedAt := 0
    writer := 0 }

/-- The job waits in the queue, and the store holds the document `doc`. -/
def waitingWith (doc : Option (Stored PaymentRecord)) : World :=
  { (World.empty 0).setJob "stripe" "p1" (some singleAttempt) with
    payments := fun id => if id = "p1" then doc else none }

private theorem payment_waitingWith (doc : Option (Stored PaymentRecord)) :
    (waitingWith doc).payment "p1" = doc.bind Stored.parse? := rfl

private theorem enqueued_waitingWith (doc : Option (Stored PaymentRecord)) :
    Enqueued (submission "stripe" 0) (waitingWith doc) := by
  have name : QueueManager.queueNameFor (submission "stripe" 0).gatewayId =
      "stripe" := by
    decide +kernel
  refine ⟨singleAttempt, ⟨"p1", none⟩, ?_, rfl, rfl⟩
  rw [name]
  rfl

/-- The charge times out. -/
def timingOut : Answers :=
  ⟨.answered (.fail ⟨.gatewayTimeout, "timeout", 504⟩), .succeed,
    .ok "r1" 200⟩

/-- The attempt is delivered and fails, and the failure handler runs, with
given choices. -/
def exhaust (doc : Option (Stored PaymentRecord))
    (attempt handler : List Choice) : Option (Phase × World) := do
  let failed ← work .default (fun _ => timingOut.permits)
    (submission "stripe" 0) attempt (waitingWith doc)
  match failed.1 with
  | .failed error => do
      let job ← failed.2.queues "stripe" "p1"
      if QueueManager.exhausted job = true ∧
          job.data = .payment ⟨"p1", none⟩ then
        match ← (Task.handleJobFailure ⟨"p1", none⟩ error).execute .default
            unfailing 2 handler failed.2 with
        | (.ok .handled, final) => return (.exhausted, final)
        | _ => none
      else none
  | _ => none

private theorem attempted_of_exhaust {doc : Option (Stored PaymentRecord)}
    {attempt handler : List Choice} {state : Phase × World}
    (taken : exhaust doc attempt handler = some state) :
    ∃ past, Attempted .default (submission "stripe" 0) (waitingWith doc) past
      .exhausted state.2 := by
  have name : QueueManager.queueNameFor (submission "stripe" 0).gatewayId =
      "stripe" := by
    decide +kernel
  obtain ⟨⟨phase, failed⟩, delivered, taken⟩ :=
    Option.bind_eq_some_iff.mp taken
  have attempted := attempted_of_work .enqueued delivered
  match phase, attempted, taken with
  | .failed error, attempted, taken =>
      obtain ⟨job, queued, taken⟩ := Option.bind_eq_some_iff.mp taken
      split at taken
      case isTrue spent =>
        obtain ⟨⟨output, final⟩, executed, taken⟩ :=
          Option.bind_eq_some_iff.mp taken
        match output, executed, taken with
        | .ok .handled, executed, taken =>
            cases taken
            exact ⟨_, .handled attempted (by rw [name]; exact queued) spent.1
              spent.2 (Task.executes_of_execute executed)⟩
        | .error _, _, taken => cases taken
        | .ok (.submitted _), _, taken => cases taken
        | .ok (.processed _), _, taken => cases taken
      case isFalse => cases taken
  | .waiting, _, taken => cases taken
  | .acknowledged _, _, taken => cases taken
  | .exhausted, _, taken => cases taken

/-- The only charge times out; the payment is dead-lettered. -/
theorem exhausted_surfaces_timeout :
    ∃ past world, Attempted .default (submission "stripe" 0)
        (waitingWith (some (.parsed (createPaymentRecord
          (PaymentService.newPayment (submission "stripe" 0)) 0)))) past
        .exhausted world ∧ Surfaced "p1" world := by
  have ends : (exhaust (some (.parsed (createPaymentRecord
      (PaymentService.newPayment (submission "stripe" 0)) 0)))
      (List.replicate 11 .succeed ++ [.guard timingOut.guard] ++
        List.replicate 6 .succeed) (List.replicate 10 .succeed)).isSome =
      true := by
    decide +kernel
  obtain ⟨state, taken⟩ := Option.isSome_iff_exists.mp ends
  obtain ⟨past, attempted⟩ := attempted_of_exhaust taken
  refine ⟨past, state.2, attempted, ?_⟩
  refine (exhausted_surfaces_iff .default (submission "stripe" 0) _ state.2
    past ?_ (enqueued_waitingWith _) attempted).mpr (.inr ⟨rfl, rfl⟩)
  intro record found
  obtain rfl := Option.some.inj ((payment_waitingWith _).symm.trans found)
  rfl

/-- The record is missing; the job is exhausted and leaves no trace in the dead
letter queue. -/
theorem exhausted_job_lost :
    ¬ ∀ (input : CreatePaymentInput) (start world : World)
      (past : List Answers),
      (∀ record, start.payment input.id = some record →
        record.id = input.id) →
      Enqueued input start →
      Attempted .default input start past .exhausted world →
      Surfaced input.id world := by
  intro surfaces
  have ends : (exhaust none [.succeed] [.succeed]).any (fun state =>
      !entered "p1" state.2 && (state.2.payment "p1").isNone) = true := by
    decide +kernel
  obtain ⟨state, taken, checked⟩ := (Option.any_eq_true _ _).mp ends
  obtain ⟨absent, missing⟩ := (Bool.and_eq_true _ _).mp checked
  obtain ⟨past, attempted⟩ := attempted_of_exhaust taken
  have keyed : ∀ record, (waitingWith none).payment "p1" = some record →
      record.id = "p1" := by
    intro record found
    rw [payment_waitingWith] at found
    cases found
  have surfaced : Surfaced "p1" state.2 :=
    surfaces (submission "stripe" 0) (waitingWith none) state.2 past keyed
      (enqueued_waitingWith none) attempted
  rcases surfaced with present | ⟨record, found, -⟩
  · rw [present] at absent
    cases absent
  · rw [found] at missing
    cases missing

end PaymentQueue.Exhaustion
