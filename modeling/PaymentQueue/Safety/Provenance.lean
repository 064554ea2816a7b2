import PaymentQueue.Outlines.Terms
import PaymentQueue.Runtime.Runs

/-!
# Where everything comes from

Whatever crashes, throws, expires or runs at the same time, nothing is stored,
queued, settled, charged or reported that does not go back to a submission:
workers copy what was submitted and never change it.
-/

namespace PaymentQueue

open Await PaymentSagaService PaymentProcessor

/-- The order of an input, with the defaults of a submission. -/
def CreatePaymentInput.order (input : CreatePaymentInput) : Order :=
  { id := input.id
    amount := input.amount
    currency := input.currency
    customerId := input.customerId
    gatewayId := input.gatewayId
    priority := input.priority.getD .normal
    maxRetries := input.maxRetries.getD defaultMaxRetries
    scheduledAt := input.scheduledAt
    correlationId := input.correlationId }

namespace Provenance

/-- The order was submitted. -/
def Genuine (submitted : CreatePaymentInput → Prop) (order : Order) : Prop :=
  ∃ input, submitted input ∧ input.order = order

variable (submitted : CreatePaymentInput → Prop)

/-- Payment and gateway belong together. -/
def Concerns (id : PaymentId) (gatewayId : String) : Prop :=
  ∃ order, Genuine submitted order ∧ order.id = id ∧
    order.gatewayId = gatewayId

def Known (id : PaymentId) : Prop :=
  ∃ order, Genuine submitted order ∧ order.id = id

/-- Job data that was made for a submission. -/
def Carried (data : PaymentJobData) : Prop :=
  ∃ order, Genuine submitted order ∧ order.id = data.paymentId ∧
    order.correlationId = data.correlationId

def Settles (entry : SettlementEntry) : Prop :=
  ∃ order, Genuine submitted order ∧ order.id = entry.paymentId ∧
    order.amount = entry.amount ∧ order.currency = entry.currency ∧
    order.customerId = entry.customerId ∧
    order.gatewayId = entry.gatewayId

/-- A job as `enqueue` adds it for an order, or a dead letter. -/
def Enqueues (queue : String) (jobId : PaymentId) (options : JobOptions) :
    JobData → Prop
  | .payment data => ∃ order, Genuine submitted order ∧
      queue = QueueManager.queueNameFor order.gatewayId ∧
      jobId = order.id ∧ data = ⟨order.id, order.correlationId⟩ ∧
      options.priority = order.priority.toNumeric ∧
      options.attempts = order.maxRetries + 1
  | .deadLetter entry => queue = QueueManager.dlqQueueName ∧
      jobId = entry.paymentId ∧
      Carried submitted ⟨entry.paymentId, entry.correlationId⟩

def Reports : AppEvent → Prop
  | .payment _ id gatewayId correlationId _ _ _ =>
      Concerns submitted id gatewayId ∧ Carried submitted ⟨id, correlationId⟩
  | .jobCompleted id gatewayId _ _ _ => Concerns submitted id gatewayId
  | .sagaPhase id gatewayId _ _ _ => Concerns submitted id gatewayId
  | .metricsAlert alert _ => ∃ id, Known submitted id ∧
      alert.id = s!"saga.compensation_failed.{id}"

/-- The command is about a submission, and says of it what was submitted. -/
def Original : Command → Prop
  | .storage (.hsetPayment id record) =>
      Genuine submitted record.order ∧ record.id = id
  | .storage (.setIdempotency id record _) =>
      Known submitted id ∧ record.paymentId = id
  | .storage (.setNxIdempotency id record _) =>
      Known submitted id ∧ record.paymentId = id
  | .storage (.rpushAudit id event) =>
      Known submitted id ∧ event.paymentId = id
  | .storage (.rpushSettlement entry) => Settles submitted entry
  | .storage (.queueAdd queue jobId data options) =>
      Enqueues submitted queue jobId options data
  | .guardCall payment correlationId => Genuine submitted payment.order ∧
      correlationId = payment.correlationId
  | .guardRefund gatewayId _ => ∃ id, Concerns submitted id gatewayId
  | .emit event => Reports submitted event
  | _ => True

/-- What the world holds goes back to submissions. -/
structure Traceable (world : World) : Prop where
  payments : ∀ id record, world.payment id = some record →
    Genuine submitted record.order ∧ record.id = id
  idempotency : ∀ id record, world.claim id = some record →
    Known submitted id ∧ record.paymentId = id
  audit : ∀ id, ∀ event ∈ world.audit id,
    Known submitted id ∧ event.paymentId = id
  settlements : ∀ entry ∈ world.settlements, Settles submitted entry
  jobs : ∀ queue jobId job, world.queues queue jobId = some job →
    Enqueues submitted queue jobId job.options job.data
  charges : ∀ id result, .charge id result ∈ world.gateway →
    Known submitted id
  refunds : ∀ gatewayId transactionId result,
    .refund gatewayId transactionId result ∈ world.gateway →
      ∃ id, Concerns submitted id gatewayId
  events : ∀ event ∈ world.events, Reports submitted event

/-- What a worker finds in `job.data`: a worker of a gateway whose queue is
called `dlq` is also handed dead letter entries. -/
def handed : JobData → PaymentJobData
  | .payment data => data
  | .deadLetter entry => ⟨entry.paymentId, entry.correlationId⟩

/-- A worker is handed a job that a queue holds, and so is the failure
handler. -/
def Held (world : World) (data : PaymentJobData) : Prop :=
  ∃ queue jobId job, world.queues queue jobId = some job ∧
    handed job.data = data

/-- Only these payments are submitted, and only jobs are processed. -/
def delivers {config : AppConfig} (state : PaymentConfig config) :
    PaymentLabel config → Prop
  | .spawn (.submit input) => submitted input
  | .spawn (.process job) => Held state.world job.data
  | .spawn (.handleJobFailure jobData _) => Held state.world jobData
  | _ => True

/-- The commands above, with what a traceable world replies. -/
def footprint : Footprint signature where
  permitted := Original submitted
  replies := fun command outcome =>
    match command, outcome with
    | .storage (.hgetPayment id), .ok doc =>
        ∀ record, doc.bind Stored.parse? = some record →
          Genuine submitted record.order ∧ record.id = id
    | _, _ => True

variable {submitted} {config : AppConfig}

theorem Genuine.known {order : Order} (genuine : Genuine submitted order) :
    Known submitted order.id :=
  ⟨order, genuine, rfl⟩

theorem Genuine.concerns {order : Order}
    (genuine : Genuine submitted order) :
    Concerns submitted order.id order.gatewayId :=
  ⟨order, genuine, rfl, rfl⟩

theorem Carried.known {data : PaymentJobData}
    (carried : Carried submitted data) : Known submitted data.paymentId := by
  obtain ⟨order, genuine, same, -⟩ := carried
  exact ⟨order, genuine, same⟩

/-- What the functions put into their commands goes back to a submission. -/
def charges (submitted : CreatePaymentInput → Prop) :
    Charges (footprint submitted) where
  own := fun id order => Genuine submitted order ∧ order.id = id
  named := Known submitted
  concerns := Concerns submitted
  carried := fun id correlationId => Carried submitted ⟨id, correlationId⟩
  own_self := fun owned => ⟨owned.1, rfl⟩
  own_named := fun owned => ⟨_, owned⟩
  own_concerns := fun owned => ⟨_, owned.1, owned.2, rfl⟩
  own_correlated := fun owned => ⟨_, owned.1, owned.2, rfl⟩
  own_carried := fun owned carried => owned.2.symm ▸ carried
  loads := fun _ => trivial
  loaded := fun replied found => replied _ found
  saves := fun _ owned => ⟨owned.1, rfl⟩
  reads := fun _ => trivial
  claims := fun _ _ _ known same => ⟨known, same⟩
  marks := fun _ _ _ known same => ⟨known, same⟩
  releases := fun _ => trivial
  audits := fun _ _ known same => ⟨known, same⟩
  readies := fun _ => trivial
  enqueues := fun _ _ owned => ⟨_, owned.1, rfl, rfl, rfl, rfl, rfl⟩
  routes := fun _ carried => ⟨rfl, rfl, carried⟩
  announces := fun _ _ _ _ _ _ _ _ concerns carried => ⟨concerns, carried⟩
  reports := fun _ _ _ _ concerns => concerns
  phases := fun _ _ _ _ _ concerns => concerns
  calls := fun _ _ owned => ⟨owned.1, rfl⟩
  refunds := fun id _ _ concerns => ⟨id, concerns⟩
  alarms := fun record _ _ _ known => ⟨record.id, known, rfl⟩
  settles := fun _ _ _ owned => ⟨_, owned.1, rfl, rfl, rfl, rfl, rfl⟩
  completes := fun _ _ _ _ _ _ concerns carried => ⟨concerns, carried⟩
  succeeds := fun _ _ _ _ concerns => concerns

section World

variable {world : World}

theorem initially_traceable (start : Time) :
    Traceable submitted (World.empty start) where
  payments := by
    intro id record stored
    cases stored
  idempotency := by
    intro id record stored
    cases stored
  audit := by
    intro id event logged
    cases logged
  settlements := by
    intro entry settled
    cases settled
  jobs := by
    intro queue jobId job stored
    cases stored
  charges := by
    intro id result charged
    cases charged
  refunds := by
    intro gatewayId transactionId result refunded
    cases refunded
  events := by
    intro event emitted
    cases emitted

/-- A job that is put in its place has to be as `enqueue` adds it. -/
theorem Traceable.setJob (traceable : Traceable submitted world)
    {queue : String} {jobId : PaymentId} {next : Option Job}
    (enqueues : ∀ job, next = some job →
      Enqueues submitted queue jobId job.options job.data) :
    Traceable submitted (world.setJob queue jobId next) := by
  refine { traceable with jobs := ?_ }
  intro queue' jobId' job stored
  by_cases here : queue' = queue ∧ jobId' = jobId
  · obtain ⟨rfl, rfl⟩ := here
    apply enqueues job
    simpa [World.setJob] using stored
  · apply traceable.jobs queue' jobId' job
    rw [← stored]
    simp only [World.setJob, Function.update_apply]
    grind [Function.update_apply]

/-- An idempotency key that is written names its payment. -/
theorem Traceable.setKey (traceable : Traceable submitted world)
    {id : PaymentId} {record : IdempotencyRecord} {expiresAt : Time}
    {writer : Nat} (known : Known submitted id)
    (same : record.paymentId = id) :
    Traceable submitted { world with
      idempotency := Function.update world.idempotency id
        (some ⟨.parsed record, expiresAt, writer⟩) } := by
  refine { traceable with idempotency := ?_ }
  intro id' record' read
  by_cases here : id' = id
  · obtain rfl := here
    have written : record = record' := by
      simpa [World.claim, Stored.parse?] using read
    exact written ▸ ⟨known, same⟩
  · apply traceable.idempotency id' record'
    rw [← read]
    simp only [World.claim, Function.update_of_ne here]

private theorem Traceable.save (traceable : Traceable submitted world)
    {id : PaymentId} {record : PaymentRecord} (pid : Nat)
    (original : Original submitted (.storage (.hsetPayment id record))) :
    Traceable submitted
      ((StorageCommand.hsetPayment id record).effect pid world).2 := by
  refine { traceable with payments := ?_ }
  intro id' record' read
  by_cases here : id' = id
  · obtain rfl := here
    have written : record = record' := by
      simpa [World.payment, StorageCommand.effect, Stored.parse?] using read
    exact written ▸ original
  · apply traceable.payments id' record'
    rw [← read]
    simp only [World.payment, StorageCommand.effect,
      Function.update_of_ne here]

private theorem Traceable.release (traceable : Traceable submitted world)
    (id : PaymentId) (pid : Nat) :
    Traceable submitted
      ((StorageCommand.delIdempotency id).effect pid world).2 := by
  refine { traceable with idempotency := ?_ }
  intro id' record' read
  by_cases here : id' = id
  · obtain rfl := here
    simp [World.claim, StorageCommand.effect] at read
  · apply traceable.idempotency id' record'
    rw [← read]
    simp only [World.claim, StorageCommand.effect,
      Function.update_of_ne here]

private theorem Traceable.log (traceable : Traceable submitted world)
    {id : PaymentId} {event : AuditEvent} (pid : Nat)
    (original : Original submitted (.storage (.rpushAudit id event))) :
    Traceable submitted
      ((StorageCommand.rpushAudit id event).effect pid world).2 := by
  refine { traceable with audit := ?_ }
  intro id' event' logged
  by_cases here : id' = id
  · obtain rfl := here
    simp only [StorageCommand.effect, Function.update_self] at logged
    rcases List.mem_append.mp logged with old | new
    · exact traceable.audit id' event' old
    · obtain rfl := List.mem_singleton.mp new
      exact original
  · simp only [StorageCommand.effect, Function.update_of_ne here] at logged
    exact traceable.audit id' event' logged

/-- A command that takes effect leaves a traceable world. -/
theorem Traceable.effect (traceable : Traceable submitted world)
    {command : StorageCommand} (pid : Nat)
    (original : Original submitted (.storage command)) :
    Traceable submitted (command.effect pid world).2 := by
  cases command with
  | hgetPayment id | getIdempotency id | queueReady queue => exact traceable
  | hsetPayment id record => exact traceable.save pid original
  | setIdempotency id record ttlSeconds =>
      exact traceable.setKey original.1 original.2
  | setNxIdempotency id record ttlSeconds =>
      simp only [StorageCommand.effect]
      split
      · exact traceable
      · exact { traceable.setKey original.1 original.2 with }
  | delIdempotency id => exact traceable.release id pid
  | setNxLock id ttlSeconds =>
      simp only [StorageCommand.effect]
      split
      · exact traceable
      · exact { traceable with }
  | delLock id => exact { traceable with }
  | rpushAudit id event => exact traceable.log pid original
  | rpushSettlement entry =>
      refine { traceable with settlements := ?_ }
      intro entry' settled
      rcases List.mem_append.mp settled with old | new
      · exact traceable.settlements entry' old
      · obtain rfl := List.mem_singleton.mp new
        exact original
  | queueAdd queue jobId data options =>
      simp only [StorageCommand.effect]
      split
      · exact traceable
      · apply traceable.setJob
        rintro job ⟨⟩
        exact original

theorem Traceable.exec (traceable : Traceable submitted world)
    {tokenWaitMs pid : Nat} {command : Command} {choice : Choice}
    {after : World} {outcome : Except Thrown command.Result}
    (original : Original submitted command)
    (executed : exec tokenWaitMs pid command choice world =
      some (outcome, after)) : Traceable submitted after := by
  cases command with
  | storage command =>
      rcases exec_storage executed with ⟨-, rfl, -⟩ | ⟨-, rfl, -⟩
      · exact traceable
      · exact traceable.effect pid original
  | guardCall payment correlationId =>
      obtain ⟨genuine, -⟩ := original
      cases choice with
      | guard response =>
          cases executed
          refine { traceable with charges := ?_, refunds := ?_ }
          · intro id result charged
            rcases List.mem_append.mp charged with old | new
            · exact traceable.charges id result old
            · cases response <;> cases new
              · exact genuine.known
              · contradiction
          · intro gatewayId transactionId result refunded
            rcases List.mem_append.mp refunded with old | new
            · exact traceable.refunds gatewayId transactionId result old
            · cases response <;> cases new
              contradiction
      | succeed | lost message | refused message | refund result =>
          cases executed
  | guardRefund gatewayId transactionId =>
      cases choice with
      | refund result =>
          cases executed
          refine { traceable with charges := ?_, refunds := ?_ }
          · intro id result charged
            rcases List.mem_append.mp charged with old | new
            · exact traceable.charges id result old
            · cases List.mem_singleton.mp new
          · intro gatewayId' transactionId' result refunded
            rcases List.mem_append.mp refunded with old | new
            · exact traceable.refunds gatewayId' transactionId' result old
            · cases List.mem_singleton.mp new
              exact original
      | succeed | lost message | refused message | guard response =>
          cases executed
  | emit event =>
      cases choice with
      | succeed =>
          cases executed
          refine { traceable with events := ?_ }
          intro event' emitted
          rcases List.mem_append.mp emitted with old | new
          · exact traceable.events event' old
          · obtain rfl := List.mem_singleton.mp new
            exact original
      | lost message | refused message | guard response | refund result =>
          cases executed

/-- A read of a traceable world finds what was submitted. -/
theorem Traceable.replies (traceable : Traceable submitted world)
    {tokenWaitMs pid : Nat} {command : Command} {choice : Choice}
    {after : World} {outcome : Except Thrown command.Result}
    (executed : PaymentQueue.exec tokenWaitMs pid command choice world =
      some (outcome, after)) :
    (footprint submitted).replies command outcome := by
  cases command with
  | storage command =>
      cases command with
      | hgetPayment id =>
          rcases exec_storage executed with ⟨-, -, failed⟩ | ⟨-, -, reply⟩
          · cases outcome with
            | ok doc => cases failed
            | error error => exact trivial
          · rcases reply with rfl | failed
            · exact traceable.payments id
            · cases outcome with
              | ok doc => cases failed
              | error error => exact trivial
      | _ => exact trivial
  | guardCall _ _ | guardRefund _ _ | emit _ => exact trivial

/-- Expiry forgets keys, and BullMQ never changes what a job carries. -/
theorem Traceable.environment (traceable : Traceable submitted world)
    {event : Event} {after : World}
    (changed : PaymentQueue.environment event world = some after) :
    Traceable submitted after := by
  cases event with
  | tick elapsed =>
      cases changed
      refine { traceable with idempotency := ?_ }
      intro id record read
      apply traceable.idempotency id record
      obtain ⟨key, kept, parsed⟩ := Option.bind_eq_some_iff.mp read
      exact Option.bind_eq_some_iff.mpr
        ⟨key, (Option.filter_eq_some_iff.mp kept).1, parsed⟩
  | activate queue jobId =>
      obtain ⟨job, stored, -, rfl⟩ := environment_activate_cases changed
      apply traceable.setJob
      rintro _ ⟨⟩
      exact traceable.jobs queue jobId job stored
  | complete queue jobId =>
      obtain ⟨job, stored, -, rfl⟩ := environment_complete_cases changed
      apply traceable.setJob
      intro next kept
      rw [Job.complete_eq_some kept]
      exact traceable.jobs queue jobId job stored
  | fail queue jobId =>
      obtain ⟨job, stored, -, rfl⟩ := environment_fail_cases changed
      apply traceable.setJob
      rintro _ ⟨⟩
      exact traceable.jobs queue jobId job stored

/-- A job that a queue holds carries a submission. -/
theorem Held.carried {data : PaymentJobData} (held : Held world data)
    (traceable : Traceable submitted world) : Carried submitted data := by
  obtain ⟨queue, jobId, job, stored, same⟩ := held
  have enqueues := traceable.jobs queue jobId job stored
  subst same
  cases content : job.data with
  | payment data =>
      rw [content] at enqueues
      obtain ⟨order, genuine, -, -, rfl, -⟩ := enqueues
      exact ⟨order, genuine, rfl, rfl⟩
  | deadLetter entry =>
      rw [content] at enqueues
      exact enqueues.2.2

end World

theorem upholds (submitted : CreatePaymentInput → Prop)
    (config : AppConfig) :
    Upholds (paymentSystem config) (delivers submitted)
      (footprint submitted) (fun _ _ => True) (Traceable submitted) where
  codes := by
    intro state task traceable delivered
    cases task with
    | submit input =>
        exact (Async.stays_bind ((charges submitted).stays_submit fun _ =>
          ⟨⟨input, delivered, rfl⟩, rfl⟩) fun _ =>
            Async.stays_pure _).start state.world.now
    | process job =>
        have carried := delivered.carried traceable
        exact (Async.stays_bind ((charges submitted).stays_processJob
          carried.known carried trivial trivial) fun _ =>
            Async.stays_pure _).start state.world.now
    | handleJobFailure jobData error =>
        have carried := delivered.carried traceable
        exact (Async.stays_bind ((charges submitted).stays_handleJobFailure
          carried error) fun _ => Async.stays_pure _).start state.world.now
  executes := by
    intro state pid choice command outcome after traceable _ original
      executed
    exact ⟨traceable.replies executed, traceable.exec original executed⟩
  environments := fun _ _ _ traceable _ changed =>
    traceable.environment changed

end Provenance

open Provenance

/-- In any interleaving, with any failures, crashes and expiries, the records,
keys, logs, jobs, charges, refunds and events all go back to submissions, and
so do the commands at which processes are suspended. -/
theorem provenance (config : AppConfig)
    (submitted : CreatePaymentInput → Prop) (start : Time)
    (state : PaymentConfig config)
    (reached : (paymentSystem config).Reaches (delivers submitted)
      (initially (World.empty start)) state) :
    Traceable submitted state.world ∧ ∀ pid command,
      pending state pid = some command → Original submitted command := by
  have upheld := (upholds submitted config).reaches
    (upheld_nil (initially_traceable start)) reached
  refine ⟨upheld.invariant, ?_⟩
  intro pid command suspended
  obtain ⟨task, resume, found⟩ := running_of_pending suspended
  exact upheld.permitted found

/-- Only this payment is submitted, and its job is delivered. -/
def deliversOnly (input : CreatePaymentInput)
    (state : PaymentConfig .default) : PaymentLabel .default → Bool
  | .spawn (.submit input') => decide (input' = input)
  | .spawn (.process job) =>
      ((state.world.queues (QueueManager.queueNameFor input.gatewayId)
        job.id).map Job.data).any fun data =>
          decide (data = .payment job.data)
  | .spawn (.handleJobFailure _ _) => false
  | _ => true

theorem delivers_of_deliversOnly {input : CreatePaymentInput}
    {state : PaymentConfig .default} {label : PaymentLabel .default}
    (admitted : deliversOnly input state label = true) :
    delivers (· = input) state label := by
  cases label with
  | spawn task =>
      cases task with
      | submit input' =>
          have same : input' = input := of_decide_eq_true admitted
          exact same
      | process job =>
          obtain ⟨data, found, same⟩ := (Option.any_eq_true _ _).mp admitted
          obtain ⟨stored, queued, rfl⟩ := Option.map_eq_some_iff.mp found
          refine ⟨_, _, stored, queued, ?_⟩
          rw [of_decide_eq_true same, handed]
      | handleJobFailure jobData error => cases admitted
  | run pid choice | crash pid | environment event => exact trivial

/-- The worker crashes after it has settled, and the job is delivered once
more. -/
def redelivered : List (PaymentLabel .default) :=
  [.spawn (.submit (submission "stripe" 0))] ++ runs 0 6 ++
    [.environment (.activate (QueueManager.queueNameFor "stripe") "p1"),
      .spawn (.process (delivery 0))] ++
    runs 1 11 ++ [accepts 1 "tx1"] ++ runs 1 5 ++
    [.crash 1, .spawn (.process (delivery 0))] ++ runs 2 2

theorem provenance_redelivered :
    ∃ state : PaymentConfig .default,
      state.world.settlements.length = 1 ∧ busy state = true ∧
      Traceable (· = submission "stripe" 0) state.world ∧
      ∀ pid command, pending state pid = some command →
        Original (· = submission "stripe" 0) command := by
  obtain ⟨state, reached, checked⟩ := exists_of_replay
    (paymentSystem .default).step (deliversOnly (submission "stripe" 0))
    redelivered (initially (World.empty 0))
    (fun state => decide (state.world.settlements.length = 1) && busy state)
    (by decide +kernel)
  rw [Bool.and_eq_true, decide_eq_true_eq] at checked
  obtain ⟨settled, running⟩ := checked
  exact ⟨state, settled, running, provenance .default _ 0 state
    (reached.mono fun _ _ admitted => delivers_of_deliversOnly admitted)⟩

end PaymentQueue
