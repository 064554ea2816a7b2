import PaymentQueue.Gateway.Log
import PaymentQueue.Outlines.Process
import PaymentQueue.Outlines.Submit
import PaymentQueue.Runtime.Driver

/-!
# Terminal agreement and conservation of money

One payment is submitted and driven attempt by attempt to its end.  The record,
the idempotency record, the ledger, the gateway and the dead letter queue are
observed together in a `Snapshot`; an induction over the attempts shows that
they end in one of two joint states, as long as the queue of the gateway is not
the dead letter queue itself.
-/

namespace PaymentQueue.Conservation

open Await

variable {config : AppConfig}

/-- The transactions that the ledger has for the payment. -/
def settledFor (id : PaymentId) (ledger : List SettlementEntry) :
    List String :=
  ledger.filterMap fun entry =>
    if entry.paymentId = id then some entry.transactionId else none

structure Snapshot where
  payment : Option PaymentRecord
  key : Option (Stored IdempotencyRecord)
  lock : Option (Expiring Unit)
  invoked : Nat
  charged : List String
  refunded : List String
  settled : List String
  /-- The job in the queue of the gateway. -/
  job : Option Job
  /-- The job in the dead letter queue. -/
  entry : Option Job

def snapshot (id : PaymentId) (queue : String) (world : World) : Snapshot :=
  { payment := world.payment id
    key := (world.idempotency id).map Expiring.value
    lock := world.locks id
    invoked := invoked id world.gateway
    charged := chargesOf id world.gateway
    refunded := refundsRequested world.gateway
    settled := settledFor id world.settlements
    job := world.queues queue id
    entry := world.queues QueueManager.dlqQueueName id }

/-- The record that `IdempotencyService.get` finds. -/
def Snapshot.claim (snap : Snapshot) : Option IdempotencyRecord :=
  snap.key.bind Stored.parse?

/-- The commands that a snapshot does not show. -/
def silent (command : Command) : Bool :=
  !(command.writes .payments || command.writes .idempotency ||
    command.writes .locks || command.writes .gateway ||
    command.writes .settlements || command.writes .queues)

section Effects

open StorageCommand

variable {id : PaymentId} {queue : String} {pid : Nat} {world : World}

private theorem snapshot_of_silent {contract : Contract (machine config)}
    {command : Command} {before after : World}
    {outcome : Except Thrown command.Result}
    (execution : Executes contract pid command before outcome after)
    (unseen : silent command = true) :
    snapshot id queue after = snapshot id queue before := by
  simp only [silent, Bool.not_eq_true', Bool.or_eq_false_iff] at unseen
  obtain ⟨⟨⟨⟨⟨payments, idempotency⟩, locks⟩, gateway⟩, settlements⟩,
    queues⟩ := unseen
  have samePayments : after.payments = before.payments :=
    executes_agrees execution payments
  have sameIdempotency : after.idempotency = before.idempotency :=
    executes_agrees execution idempotency
  have sameLocks : after.locks = before.locks :=
    executes_agrees execution locks
  have sameGateway : after.gateway = before.gateway :=
    executes_agrees execution gateway
  have sameSettlements : after.settlements = before.settlements :=
    executes_agrees execution settlements
  have sameQueues : after.queues = before.queues :=
    executes_agrees execution queues
  simp only [snapshot, World.payment, samePayments, sameIdempotency,
    sameLocks, sameGateway, sameSettlements, sameQueues]

private theorem snapshot_tick {elapsed : Nat}
    (unexpired : world.unexpired id elapsed = true) :
    snapshot id queue (world.tick elapsed) = snapshot id queue world := by
  simp only [World.unexpired, Bool.and_eq_true, decide_eq_true_eq]
    at unexpired
  simp only [snapshot, unexpired.1, unexpired.2]
  rfl

/-- Between two commands of the payment only time passes. -/
theorem snapshot_rely {first second : World}
    (passed : (alone config id).rely first second) :
    snapshot id queue second = snapshot id queue first := by
  rcases passed with rfl | ⟨elapsed, unexpired, rfl⟩
  · rfl
  · exact snapshot_tick unexpired

@[simp] theorem snapshot_hsetPayment (record : PaymentRecord) :
    snapshot id queue ((hsetPayment id record).effect pid world).2 =
      { snapshot id queue world with payment := some record } := by
  simp [effect, snapshot, World.payment, Stored.parse?]

@[simp] theorem snapshot_setIdempotency (record : IdempotencyRecord)
    (ttlSeconds : Nat) :
    snapshot id queue
        ((setIdempotency id record ttlSeconds).effect pid world).2 =
      { snapshot id queue world with key := some (.parsed record) } := by
  simp [effect, snapshot, World.payment]

@[simp] theorem snapshot_delLock :
    snapshot id queue ((delLock id).effect pid world).2 =
      { snapshot id queue world with lock := none } := by
  simp [effect, snapshot, World.payment]

private theorem snapshot_rpushSettlement (entry : SettlementEntry)
    (same : entry.paymentId = id) :
    snapshot id queue ((rpushSettlement entry).effect pid world).2 =
      { snapshot id queue world with
        settled := (snapshot id queue world).settled ++
          [entry.transactionId] } := by
  simp [effect, snapshot, World.payment, settledFor, same]

private theorem setNxLock_free (ttlSeconds : Nat)
    (free : (snapshot id queue world).lock = none) :
    ((setNxLock id ttlSeconds).effect pid world).1 = true ∧
      ∃ lock, snapshot id queue
          ((setNxLock id ttlSeconds).effect pid world).2 =
        { snapshot id queue world with lock := some lock } := by
  have stored : world.locks id = none := free
  simp [effect, stored, snapshot, World.payment]

private theorem setNxIdempotency_free (record : IdempotencyRecord)
    (ttlSeconds : Nat)
    (free : (snapshot id queue world).key = none) :
    ((setNxIdempotency id record ttlSeconds).effect pid world).1 = true ∧
      snapshot id queue
          ((setNxIdempotency id record ttlSeconds).effect pid world).2 =
        { snapshot id queue world with key := some (.parsed record) } := by
  have stored : world.idempotency id = none := by
    simpa [snapshot] using free
  simp [effect, stored, snapshot, World.payment]

/-- The job is added to a queue that has none with its id. -/
theorem queueAdd_free (name : String) (data : JobData) (options : JobOptions)
    (free : world.queues name id = none) :
    (queueAdd name id data options).effect pid world =
      ((), world.setJob name id (some ⟨data, options, 0, initialState options,
        world.now, pid⟩)) := by
  simp [effect, free, World.setJob]

variable (separate : queue ≠ QueueManager.dlqQueueName) (world : World)
  (job : Option Job)

include separate

theorem snapshot_setJob :
    snapshot id queue (world.setJob queue id job) =
      { snapshot id queue world with job := job } := by
  simp [snapshot, World.setJob, World.payment, separate.symm]

private theorem snapshot_setEntry :
    snapshot id queue (world.setJob QueueManager.dlqQueueName id job) =
      { snapshot id queue world with entry := job } := by
  simp [snapshot, World.setJob, World.payment, separate]

end Effects

/-- The stored record is completed with this transaction, and so is the
idempotency record. -/
structure Completed (transactionId : String) (snap : Snapshot) : Prop where
  record : ∃ record, snap.payment = some record ∧
    record.status = .completed ∧ record.transactionId = some transactionId
  cached : ∃ existing, snap.claim = some existing ∧
    existing.state = .completed ∧
    existing.transactionId = some transactionId

/-- The stored record is dead-lettered for this reason, and the idempotency
record has failed for it. -/
structure Buried (reason : String) (snap : Snapshot) : Prop where
  record : ∃ record, snap.payment = some record ∧
    record.status = .deadLetter ∧ record.failureReason = some reason
  cached : ∃ existing, snap.claim = some existing ∧
    existing.state = .failed ∧ existing.failureReason = some reason

/-- The entry of the payment in the dead letter queue. -/
def Snapshot.deadLetter (snap : Snapshot) : Option DlqEntry :=
  snap.entry.bind fun job =>
    match job.data with
    | .deadLetter entry => some entry
    | .payment _ => none

/-- The payment is completed: one charge, one ledger entry, no refund. -/
structure Succeeded (refunds : List String) (snap : Snapshot) : Prop where
  agreed : ∃ transactionId, Completed transactionId snap ∧
    snap.settled = [transactionId] ∧ snap.charged = [transactionId]
  refunded : snap.refunded = refunds
  queued : snap.deadLetter = none

/-- The payment is dead-lettered: no ledger entry, and a refund was requested
for every successful charge. -/
structure Perished (id : PaymentId) (refunds : List String)
    (snap : Snapshot) : Prop where
  agreed : ∃ reason, Buried reason snap ∧ ∃ entry,
    snap.deadLetter = some entry ∧ entry.paymentId = id ∧
    entry.reason = reason
  settled : snap.settled = []
  refunded : snap.refunded = refunds ++ snap.charged

/-- What an attempt or a failure handler is given: the payment, the refunds
requested earlier, the bounds on the invoked charges before and after it, its
job, and whether it takes the lock. -/
structure Context where
  id : PaymentId
  queue : String
  refunds : List String
  before : Nat
  after : Nat
  job : Job
  locks : Bool

/-- The money that has moved so far; nothing is in the dead letter queue. -/
structure Stands (context : Context) (bound : Nat)
    (charged refunded settled : List String) (snap : Snapshot) : Prop where
  invoked : snap.invoked ≤ bound
  charged : snap.charged = charged
  refunded : snap.refunded = context.refunds ++ refunded
  settled : snap.settled = settled
  job : snap.job = some context.job
  entry : snap.entry = none

/-- The payment is stored and neither terminal nor finalized. -/
structure Open (context : Context) (snap : Snapshot) : Prop where
  stored : ∃ record, snap.payment = some record ∧ record.id = context.id ∧
    record.status.terminal = false
  unfinalized : readsFinal snap.claim = false

/-- The terminal handling may start: what was charged is being refunded. -/
structure Burying (context : Context) (snap : Snapshot) : Prop where
  stands : ∃ charged, Stands context context.after charged charged [] snap
  free : context.locks = false → snap.lock = none

/-- What an attempt or a failure handler knows at each stage.  The stages that
only a failing command leads to are not reached. -/
def Knows (context : Context) : Stage → Snapshot → Prop
  | .idle, snap | .seen, snap | .checked, snap =>
      Stands context context.before [] [] [] snap ∧ Open context snap ∧
        snap.lock = none
  | .locked, snap | .entered, snap | .working, snap =>
      Stands context context.before [] [] [] snap ∧ Open context snap
  | .declined, snap =>
      Stands context context.after [] [] [] snap ∧ Open context snap
  | .charged transactionId, snap | .unsettled transactionId, snap =>
      Stands context context.after [transactionId] [] [] snap ∧
        Open context snap
  | .refunded transactionId _, snap =>
      Stands context context.after [transactionId] [transactionId] [] snap ∧
        Open context snap
  | .settled transactionId, snap =>
      Stands context context.after [transactionId] [] [transactionId] snap ∧
        Open context snap
  | .recorded transactionId, snap =>
      Stands context context.after [transactionId] [] [transactionId] snap ∧
        ∃ record, snap.payment = some record ∧ record.status = .completed ∧
          record.transactionId = some transactionId
  | .completed transactionId, snap =>
      Stands context context.after [transactionId] [] [transactionId] snap ∧
        Completed transactionId snap
  | .buried reason, snap =>
      Burying context snap ∧
        ∃ record, snap.payment = some record ∧
          record.status = .deadLetter ∧ record.failureReason = some reason
  | .failed reason, snap => Burying context snap ∧ Buried reason snap
  | .routed _, snap =>
      Perished context.id context.refunds snap ∧
        snap.invoked ≤ context.after ∧ snap.job = some context.job ∧
        (context.locks = false → snap.lock = none)
  | _, _ => False

def know (context : Context) (stage : Stage) (world : World) : Prop :=
  Knows context stage (snapshot context.id context.queue world)

/-- Between two attempts nothing has been charged. -/
structure Between (context : Context) (bound : Nat) (snap : Snapshot) :
    Prop where
  stands : Stands context bound [] [] [] snap
  unfinished : Open context snap
  lock : snap.lock = none

/-- The payment has reached one of its two ends. -/
structure Ended (context : Context) (snap : Snapshot) : Prop where
  agreed : Succeeded context.refunds snap ∨
    Perished context.id context.refunds snap
  invoked : snap.invoked ≤ context.after
  job : snap.job = some context.job
  lock : snap.lock = none

section Attempt

variable {context : Context} {pid : Nat} {stage : Stage}

theorem faultless {id : PaymentId} {command : Command}
    (other : command.settles = false) :
    Faultless (alone config id) command := by
  intro choice before allowed
  simpa [alone, orderly, other] using allowed

theorem keeps {id : PaymentId} (before after : World) :
    Keeps (alone config id) before after :=
  ⟨trivial, trivial⟩

private theorem know_stable (stage : Stage) :
    Stable (alone config context.id) (know context stage) := by
  intro first second passed _ known
  rw [know, snapshot_rely passed]
  exact known

theorem moves_silent {command : Command}
    {result : Except Thrown command.Result → World → Prop}
    (unseen : silent command = true)
    (reached : ∀ value after, know context stage after →
      result (.ok value) after) :
    Moves (alone config context.id) pid command (know context stage)
      result := by
  have other : command.settles = false := by
    cases command with
    | storage command => cases command <;> first | rfl | cases unseen
    | guardCall _ _ | guardRefund _ _ | emit _ => rfl
  apply (faultless other).moves
  intro before value after known execution
  refine ⟨keeps before after, reached value after ?_⟩
  rw [know, snapshot_of_silent execution unseen]
  exact known

theorem moves_save {record : PaymentRecord}
    {result : Except Thrown Unit → World → Prop}
    (reached : ∀ snap after, Knows context stage snap →
      snapshot context.id context.queue after =
        { snap with payment := some record } → result (.ok ()) after) :
    Moves (alone config context.id) pid
      (.storage (.hsetPayment context.id record)) (know context stage)
      result := by
  apply (faultless rfl).moves_storage
  intro before known _ _
  exact ⟨keeps _ _, reached _ _ known (snapshot_hsetPayment record)⟩

theorem moves_setIdempotency {record : IdempotencyRecord} {ttlSeconds : Nat}
    {result : Except Thrown Unit → World → Prop}
    (reached : ∀ snap after, Knows context stage snap →
      snapshot context.id context.queue after =
        { snap with key := some (.parsed record) } → result (.ok ()) after) :
    Moves (alone config context.id) pid
      (.storage (.setIdempotency context.id record ttlSeconds))
      (know context stage) result := by
  apply (faultless rfl).moves_storage
  intro before known _ _
  exact ⟨keeps _ _, reached _ _ known (snapshot_setIdempotency record _)⟩

section Changes

variable {bound : Nat} {charged refunded settled : List String}
  {snap : Snapshot}

/-- A change of the record, the key or the lock moves no money. -/
theorem Stands.change (stands : Stands context bound charged refunded settled
    snap) (payment : Option PaymentRecord)
    (key : Option (Stored IdempotencyRecord)) (lock : Option (Expiring Unit)) :
    Stands context bound charged refunded settled
      { snap with payment := payment, key := key, lock := lock } :=
  ⟨stands.invoked, stands.charged, stands.refunded, stands.settled,
    stands.job, stands.entry⟩

theorem Stands.mono {larger : Nat} (stands : Stands context bound charged
    refunded settled snap) (bounded : bound ≤ larger) :
    Stands context larger charged refunded settled snap :=
  ⟨Nat.le_trans stands.invoked bounded, stands.charged, stands.refunded,
    stands.settled, stands.job, stands.entry⟩

theorem Open.save (open_ : Open context snap) {record : PaymentRecord}
    (carried : Carries context.id .processing none record) :
    Open context { snap with payment := some record } := by
  refine ⟨⟨record, rfl, carried.id, ?_⟩, open_.unfinalized⟩
  rw [carried.status]
  rfl

theorem Burying.change (burying : Burying context snap)
    (payment : Option PaymentRecord)
    (key : Option (Stored IdempotencyRecord)) :
    Burying context { snap with payment := payment, key := key } := by
  obtain ⟨⟨charged, stands⟩, free⟩ := burying
  exact ⟨⟨charged, stands.change payment key snap.lock⟩, free⟩

end Changes

private theorem moves_book {command : Command}
    (active : stage.inSaga = true ∨ stage.closing.isSome = true)
    (allowed : bookkeeping context.id stage command) :
    Moves (alone config context.id) pid command (know context stage)
      (fun _ => know context stage) := by
  cases command with
  | storage command =>
      cases command with
      | hsetPayment key record =>
          obtain ⟨rfl, fits⟩ := allowed
          apply moves_save
          intro snap after known saved
          rw [know, saved]
          rcases fits with ⟨inSaga, carried⟩ | ⟨transactionId, closing, carried⟩
          · cases stage with
            | working | declined | charged _ | unsettled _ | refunded _ _
            | settled _ =>
                exact ⟨known.1.change _ snap.key snap.lock,
                  known.2.save carried⟩
            | _ => cases inSaga
          · cases stage with
            | completed _ =>
                cases closing
                exact ⟨known.1.change _ snap.key snap.lock,
                  ⟨record, rfl, carried.status, carried.transaction _ rfl⟩,
                  known.2.cached⟩
            | unrecorded _ | unsure _ => exact known.elim
            | _ => cases closing
      | rpushAudit key event => exact moves_silent rfl fun _ _ known => known
      | _ => exact allowed.elim
  | emit event => exact moves_silent rfl fun _ _ known => known
  | guardCall payment correlationId => exact allowed.elim
  | guardRefund gatewayId transactionId => exact allowed.elim

private theorem moves_charge (counts : context.before + 1 ≤ context.after)
    (payment : PaymentRecord) (correlationId : Option String)
    (same : payment.id = context.id) :
    Moves (alone config context.id) pid (.guardCall payment correlationId)
      (know context .working)
      (fun outcome =>
        match outcome with
        | .ok (.ok transactionId _) => know context (.charged transactionId)
        | .ok (.fail _) => know context .declined
        | .error _ => fun _ => False) := by
  intro before outcome after known execution
  obtain ⟨response, -, rfl, rfl⟩ := executes_guardCall execution
  refine ⟨keeps _ _, ?_⟩
  obtain ⟨stands, open_⟩ := known
  have invokes := invoked_append_events context.id before.gateway response
  have charges := chargesOf_append_events context.id before.gateway response
  have refunds := refundsRequested_append_events context.id before.gateway
    response
  have earlier : invoked context.id before.gateway ≤ context.before :=
    stands.invoked
  have uncharged : chargesOf context.id before.gateway = [] := stands.charged
  rw [uncharged, List.nil_append] at charges
  rw [same]
  have stands' : ∀ transactions,
      chargesOf context.id (before.gateway ++ response.events context.id) =
        transactions →
      Stands context context.after transactions [] []
        (snapshot context.id context.queue { before with
          gateway := before.gateway ++ response.events context.id }) := by
    intro transactions charged
    refine ⟨?_, charged, ?_, stands.settled, stands.job, stands.entry⟩
    · show invoked context.id (before.gateway ++ response.events context.id) ≤
        context.after
      omega
    · exact refunds.trans stands.refunded
  have still : Open context (snapshot context.id context.queue { before with
      gateway := before.gateway ++ response.events context.id }) :=
    ⟨open_.stored, open_.unfinalized⟩
  match response with
  | .noToken => exact ⟨stands' [] charges, still⟩
  | .circuitRefused state => exact ⟨stands' [] charges, still⟩
  | .answered (.fail failure) => exact ⟨stands' [] charges, still⟩
  | .answered (.ok transactionId httpStatus) =>
      exact ⟨stands' [transactionId] charges, still⟩

private theorem moves_refund (gatewayId transactionId : String) :
    Moves (alone config context.id) pid
      (.guardRefund gatewayId transactionId)
      (know context (.unsettled transactionId))
      (fun outcome =>
        match outcome with
        | .ok (.ok _ _) => know context (.refunded transactionId true)
        | .ok (.fail _) => know context (.refunded transactionId false)
        | .error _ => fun _ => False) := by
  intro before outcome after known execution
  obtain ⟨result, -, rfl, rfl⟩ := executes_guardRefund execution
  refine ⟨keeps _ _, ?_⟩
  obtain ⟨stands, open_⟩ := known
  have reached : Stands context context.after [transactionId] [transactionId]
      [] (snapshot context.id context.queue { before with
        gateway := before.gateway ++
          [.refund gatewayId transactionId result] }) := by
    refine ⟨?_, ?_, ?_, stands.settled, stands.job, stands.entry⟩
    · show invoked _ _ ≤ _
      rw [invoked_append_refund]
      exact stands.invoked
    · show chargesOf _ _ = _
      rw [chargesOf_append_refund]
      exact stands.charged
    · show refundsRequested _ = _
      rw [refundsRequested_append_refund,
        show refundsRequested before.gateway = context.refunds ++ [] from
          stands.refunded, List.append_nil]
  have still : Open context (snapshot context.id context.queue { before with
      gateway := before.gateway ++
        [.refund gatewayId transactionId result] }) :=
    ⟨open_.stored, open_.unfinalized⟩
  cases result with
  | ok refundId httpStatus => exact ⟨reached, still⟩
  | fail failure => exact ⟨reached, still⟩

private theorem moves_append (entry : SettlementEntry)
    (same : entry.paymentId = context.id) :
    Moves (alone config context.id) pid (.storage (.rpushSettlement entry))
      (know context (.charged entry.transactionId))
      (fun outcome =>
        match outcome with
        | .ok _ => know context (.settled entry.transactionId)
        | .error _ => know context (.unsettled entry.transactionId)) := by
  intro before outcome after known execution
  rcases executes_storage execution with
    ⟨-, rfl, rfl⟩ | ⟨message, rfl, ⟨allowed, rfl⟩ | ⟨-, rfl⟩⟩
  · refine ⟨keeps _ _, ?_⟩
    obtain ⟨stands, open_⟩ := known
    show Knows context (.settled entry.transactionId) _
    rw [snapshot_rpushSettlement entry same]
    refine ⟨⟨stands.invoked, stands.charged, stands.refunded, ?_, stands.job,
      stands.entry⟩, ⟨open_.stored, open_.unfinalized⟩⟩
    rw [stands.settled, List.nil_append]
  · simp [alone, orderly, Choice.faultless, Choice.isLost] at allowed
  · exact ⟨keeps _ _, known⟩

/-- A read of the record finds the payment that the stage describes. -/
theorem moves_load
    {result : Except Thrown (Option (Stored PaymentRecord)) → World → Prop}
    (reached : ∀ world, know context stage world →
      result (.ok (world.payments context.id)) world) :
    Moves (alone config context.id) pid (.storage (.hgetPayment context.id))
      (know context stage) result := by
  apply (faultless rfl).moves_storage
  intro before known _ _
  exact ⟨keeps _ _, reached before known⟩

theorem moves_read
    {result : Except Thrown (Option (Stored IdempotencyRecord)) → World →
      Prop}
    (reached : ∀ world, know context stage world →
      result (.ok ((world.idempotency context.id).map Expiring.value))
        world) :
    Moves (alone config context.id) pid
      (.storage (.getIdempotency context.id)) (know context stage)
      result := by
  apply (faultless rfl).moves_storage
  intro before known _ _
  exact ⟨keeps _ _, reached before known⟩

private theorem moves_route
    (separate : context.queue ≠ QueueManager.dlqQueueName)
    (entry : DlqEntry) (same : entry.paymentId = context.id) :
    Moves (alone config context.id) pid
      (.storage (.queueAdd QueueManager.dlqQueueName context.id
        (.deadLetter entry) { priority := 0, delay := 0, attempts := 1 }))
      (know context (.failed entry.reason))
      (OrAborts (know context)
        (fun _ => know context (.routed entry.reason))) := by
  apply (faultless rfl).moves_storage
  rintro before ⟨⟨⟨charged, stands⟩, free⟩, buried⟩ _ _
  refine ⟨keeps _ _, ?_⟩
  have missing : before.queues QueueManager.dlqQueueName context.id = none :=
    stands.entry
  rw [OrAborts, queueAdd_free _ _ _ missing, know,
    snapshot_setEntry separate]
  exact ⟨⟨⟨entry.reason, ⟨buried.record, buried.cached⟩, entry, rfl, same,
    rfl⟩, stands.settled,
    stands.refunded.trans (congrArg _ stands.charged.symm)⟩, stands.invoked,
    stands.job, free⟩

/-- The terminal handling, from any stage at which what was charged has been
refunded. -/
theorem burial (separate : context.queue ≠ QueueManager.dlqQueueName)
    (ready : ∀ snap, Knows context stage snap →
      Burying context snap ∧ Open context snap) :
    BurialOutline (alone config context.id) pid context.id (know context)
      stage where
  stable := know_stable
  lookup := by
    apply moves_load
    intro world known
    obtain ⟨record, stored, same, unfinished⟩ := (ready _ known).2.stored
    have found : (world.payments context.id).bind Stored.parse? =
        some record := stored
    simp only [OrAborts, Latest, found, unfinished, Bool.false_eq_true,
      if_false]
    exact ⟨same, known⟩
  bury := by
    intro record reason _ status failureReason
    apply moves_save
    intro snap after known saved
    rw [OrAborts, know, saved]
    exact ⟨(ready snap known).1.change _ snap.key, record, rfl, status,
      failureReason⟩
  readBuried := fun reason => moves_read fun _ known => known
  fail := by
    intro reason previous now
    apply moves_setIdempotency
    intro snap after known written
    rw [OrAborts, know, written]
    obtain ⟨burying, stored⟩ := known
    exact ⟨burying.change snap.payment _, stored, _, rfl, rfl, rfl⟩
  audit := fun reason event => moves_silent rfl fun _ _ known => known
  emit := fun reason event => moves_silent rfl fun _ _ known => known
  ready := fun reason => moves_silent rfl fun _ _ known => known
  route := fun entry same => moves_route separate entry same

/-- A delivery that returns has ended the payment; one that throws has
charged nothing. -/
def processEnds (context : Context) :
    Except Thrown ProcessResult → World → Prop
  | .ok _, world => Ended context (snapshot context.id context.queue world)
  | .error _, world =>
      Between context context.after (snapshot context.id context.queue world)

/-- The payment is stored and not final when a delivery reads it. -/
theorem stored_of_open {world : World}
    (open_ : Open context (snapshot context.id context.queue world)) :
    ∃ record, (world.payments context.id).bind Stored.parse? = some record ∧
      record.id = context.id ∧ record.status.terminal = false :=
  open_.stored

private theorem moves_lock :
    Moves (alone config context.id) pid
      (.storage (.setNxLock context.id config.leaseTtlSeconds))
      (know context .checked)
      (Continues (Locks context.id (know context) (processEnds context))
        (processEnds context)) := by
  apply (faultless rfl).moves_storage
  rintro before ⟨stands, open_, free⟩ _ _
  refine ⟨keeps _ _, ?_⟩
  obtain ⟨acquired, lock, taken⟩ := setNxLock_free config.leaseTtlSeconds free
  rw [Continues, Locks, acquired, if_pos rfl, know, taken]
  exact ⟨stands.change _ _ (some lock), ⟨open_.stored, open_.unfinalized⟩⟩

private theorem moves_release {result : Except Thrown ProcessResult}
    (explained : Explains False context.id stage result) :
    Moves (alone config context.id) pid (.storage (.delLock context.id))
      (know context stage)
      (Continues (fun _ => processEnds context result)
        (processEnds context)) := by
  apply (faultless rfl).moves_storage
  intro before known _ _
  refine ⟨keeps _ _, ?_⟩
  have released := @snapshot_delLock context.id context.queue pid before
  rw [Continues]
  cases result with
  | ok result =>
      rw [processEnds, released]
      rcases explained with ⟨transactionId, rfl, -⟩ | ⟨reason, rfl, -⟩ |
        ⟨rfl, -⟩
      · obtain ⟨stands, completed⟩ := known
        refine ⟨.inl ⟨⟨transactionId, ⟨completed.record, completed.cached⟩,
          stands.settled, stands.charged⟩, ?_, ?_⟩, stands.invoked,
          stands.job, rfl⟩
        · exact stands.refunded.trans (List.append_nil _)
        · exact congrArg (Option.bind · _) stands.entry
      · obtain ⟨perished, bounded, job, -⟩ := known
        obtain ⟨⟨reason, buried, routed⟩, settled, refunded⟩ := perished
        exact ⟨.inr ⟨⟨reason, ⟨buried.record, buried.cached⟩, routed⟩, settled,
          refunded⟩, bounded, job, rfl⟩
      · exact known.elim
  | error error =>
      rw [processEnds, released]
      rcases explained with rfl | ⟨faulty, -⟩ | ⟨rfl, -⟩
      · exact known.elim
      · exact faulty.elim
      · obtain ⟨stands, open_⟩ := known
        exact ⟨stands.change _ _ none, ⟨open_.stored, open_.unfinalized⟩, rfl⟩

/-- Everything a delivery can do to the payment. -/
theorem processOutline (separate : context.queue ≠ QueueManager.dlqQueueName)
    (locks : context.locks = true)
    (counts : context.before + 1 ≤ context.after) :
    ProcessOutline (alone config context.id) pid context.id False
      (know context) (processEnds context) where
  stable := know_stable
  faulty := by
    intro command before error after other execution
    obtain ⟨value, succeeded⟩ := (faultless other).succeeds execution
    cases succeeded
  book := fun stage command active allowed => moves_book active allowed
  charge := moves_charge counts
  append := moves_append
  refund := moves_refund
  load := by
    apply moves_load
    intro world known
    obtain ⟨record, stored, same, -⟩ := stored_of_open known.2.1
    rw [Continues, stored]
    exact ⟨same, known⟩
  check := by
    apply moves_read
    intro world known
    have unfinal : readsFinal (((world.idempotency context.id).map
        Expiring.value).bind Stored.parse?) = false := known.2.1.unfinalized
    rw [Continues, Checks, unfinal]
    exact known
  lock := moves_lock
  readLocked := moves_read fun _ known => known
  enter := by
    intro claimedAt now
    apply moves_setIdempotency
    intro snap after known written
    rw [Continues, know, written]
    exact ⟨known.1.change snap.payment _ snap.lock, ⟨known.2.stored, rfl⟩⟩
  begin := by
    intro record carried
    rw [carried.id]
    apply moves_save
    intro snap after known saved
    rw [OrAborts, know, saved]
    exact ⟨known.1.change _ snap.key snap.lock, known.2.save carried⟩
  record := by
    intro record transactionId carried
    apply moves_save
    intro snap after known saved
    rw [know, saved]
    exact ⟨known.1.change _ snap.key snap.lock, record, rfl, carried.status,
      carried.transaction _ rfl⟩
  readRecorded := fun transactionId => moves_read fun _ known => known
  complete := by
    intro transactionId previous now
    apply moves_setIdempotency
    intro snap after known written
    rw [know, written]
    exact ⟨known.1.change snap.payment _ snap.lock, known.2, _, rfl, rfl, rfl⟩
  burial := by
    intro stage failure compensated
    apply burial separate
    intro snap known
    have burying : ∀ {charged}, Stands context context.after charged charged
        [] snap → Burying context snap := by
      intro charged stands
      refine ⟨⟨charged, stands⟩, ?_⟩
      rw [locks]
      exact fun impossible => by cases impossible
    rcases compensated with rfl | ⟨-, transactionId, succeeded, rfl⟩
    · exact ⟨burying known.1, known.2⟩
    · exact ⟨burying known.1, known.2⟩
  release := fun stage result explained => moves_release explained

/-- The failure handler ends the payment. -/
def handlerEnds (context : Context) : Except Thrown Unit → World → Prop
  | .ok _, world => Ended context (snapshot context.id context.queue world)
  | .error _, _ => False

private theorem handlerOutline
    (separate : context.queue ≠ QueueManager.dlqQueueName)
    (locks : context.locks = false)
    (counts : context.before ≤ context.after) :
    HandlerOutline (alone config context.id) pid context.id (know context)
      (handlerEnds context) where
  toBurialOutline := by
    apply burial separate
    rintro snap ⟨stands, open_, free⟩
    exact ⟨⟨⟨[], stands.mono counts⟩, fun _ => free⟩, open_⟩
  load := by
    apply moves_load
    intro world known
    obtain ⟨record, stored, same, unfinished⟩ := stored_of_open known.2.1
    simp only [Continues, Handles, stored, unfinished, Bool.false_eq_true,
      if_false]
    exact ⟨same, known⟩
  routed := by
    rintro reason world ⟨perished, bounded, job, free⟩
    exact ⟨.inr perished, bounded, job, free locks⟩
  terminal := fun _ known => known.elim
  aborted := fun _ _ known => known.elim

end Attempt

/-- The number of deliveries that the submission asks for. -/
def budget (input : CreatePaymentInput) : Nat :=
  input.maxRetries.getD defaultMaxRetries + 1

/-- The queue of the gateway. -/
@[reducible] def queueOf (input : CreatePaymentInput) : String :=
  QueueManager.queueNameFor input.gatewayId

/-- What is handed to a delivery (`locks`) or to the failure handler. -/
def contextOf (input : CreatePaymentInput) (refunds : List String) (job : Job)
    (locks : Bool) : Context :=
  { id := input.id
    queue := queueOf input
    refunds
    before := job.attemptsMade
    after := if locks then job.attemptsMade + 1 else job.attemptsMade
    job
    locks }

/-- No money was moved for the payment, and nothing is dead-lettered. -/
structure Unmoved (refunds : List String) (snap : Snapshot) : Prop where
  invoked : snap.invoked = 0
  charged : snap.charged = []
  refunded : snap.refunded = refunds
  settled : snap.settled = []
  lock : snap.lock = none
  entry : snap.entry = none

/-- The payment was never submitted. -/
structure Fresh (refunds : List String) (snap : Snapshot) : Prop extends
    Unmoved refunds snap where
  payment : snap.payment = none
  key : snap.key = none
  job : snap.job = none

/-- The payment waits for a delivery, or for the failure handler. -/
structure Pending (input : CreatePaymentInput) (refunds : List String)
    (job : Job) (snap : Snapshot) : Prop where
  data : job.data = .payment ⟨input.id, input.correlationId⟩
  attempts : job.options.attempts = budget input
  between : Between (contextOf input refunds job false) job.attemptsMade snap

section Submission

variable {input : CreatePaymentInput} {refunds : List String} {pid : Nat}
  {stage : SubmitStage}

def SubmitKnows (input : CreatePaymentInput) (refunds : List String) :
    SubmitStage → Snapshot → Prop
  | .idle, snap | .stale, snap => Fresh refunds snap
  | .claimed, snap =>
      Unmoved refunds snap ∧ snap.job = none ∧ readsFinal snap.claim = false
  | .saved, snap =>
      Unmoved refunds snap ∧ snap.job = none ∧
        readsFinal snap.claim = false ∧
        ∃ record, snap.payment = some record ∧ record.id = input.id ∧
          record.status.terminal = false
  | .queued, snap =>
      ∃ job, Pending input refunds job snap ∧ job.attemptsMade = 0
  | _, _ => False

def submitKnow (input : CreatePaymentInput) (refunds : List String)
    (stage : SubmitStage) (world : World) : Prop :=
  SubmitKnows input refunds stage (snapshot input.id (queueOf input) world)

/-- An accepted submission leaves a pending job behind. -/
def submitEnds (input : CreatePaymentInput) (refunds : List String) :
    Except Thrown SubmitPaymentResult → World → Prop
  | .ok (.created _), world => submitKnow input refunds .queued world
  | _, _ => True

theorem submit_storage {command : StorageCommand}
    {result : Except Thrown command.Result → World → Prop}
    (other : Command.settles (.storage command) = false)
    (reached : ∀ before, submitKnow input refunds stage before →
      result (.ok (command.effect pid before).1)
        (command.effect pid before).2) :
    Moves (alone config input.id) pid (.storage command)
      (submitKnow input refunds stage) result := by
  apply (faultless other).moves_storage
  intro before known _ _
  exact ⟨keeps _ _, reached before known⟩

theorem submit_silent {command : Command}
    {result : Except Thrown command.Result → World → Prop}
    (unseen : silent command = true) (other : command.settles = false)
    (reached : ∀ value after, submitKnow input refunds stage after →
      result (.ok value) after) :
    Moves (alone config input.id) pid command
      (submitKnow input refunds stage) result := by
  apply (faultless other).moves
  intro before value after known execution
  refine ⟨keeps before after, reached value after ?_⟩
  rw [submitKnow, snapshot_of_silent execution unseen]
  exact known

theorem Unmoved.change {snap : Snapshot} (unmoved : Unmoved refunds snap)
    (payment : Option PaymentRecord)
    (key : Option (Stored IdempotencyRecord)) (job : Option Job) :
    Unmoved refunds
      { snap with payment := payment, key := key, job := job } :=
  ⟨unmoved.invoked, unmoved.charged, unmoved.refunded, unmoved.settled,
    unmoved.lock, unmoved.entry⟩

private theorem submitOutline
    (separate : queueOf input ≠ QueueManager.dlqQueueName) :
    SubmitOutline (alone config input.id) pid input
      (submitKnow input refunds) (submitEnds input refunds) where
  stable := by
    intro stage _ first second passed _ known
    rw [submitKnow, snapshot_rely passed]
    exact known
  claim := by
    intro now
    apply submit_storage rfl
    intro before known
    obtain ⟨acquired, taken⟩ := setNxIdempotency_free
      (IdempotencyService.processingRecord input.id now now)
      config.leaseTtlSeconds known.key
    rw [Continues, acquired, if_pos rfl, submitKnow, taken]
    exact ⟨known.toUnmoved.change _ _ _, known.job, rfl⟩
  readClaim := by
    apply submit_storage rfl
    intro before known
    have missing : (before.idempotency input.id).map Expiring.value = none :=
      known.key
    simp only [StorageCommand.effect, Continues, SubmitOutline.Reads, missing]
    exact known
  lookup := by
    apply submit_storage rfl
    intro before known
    have missing : (before.payments input.id).bind Stored.parse? = none :=
      known.payment
    simp only [StorageCommand.effect, Continues, SubmitOutline.Finds, missing]
    exact known
  recover := by
    apply submit_storage rfl
    intro before known
    show SubmitKnows input refunds .idle _
    have same : snapshot input.id (queueOf input)
        ((StorageCommand.delIdempotency input.id).effect pid before).2 =
        { snapshot input.id (queueOf input) before with key := none } := by
      simp [StorageCommand.effect, snapshot, World.payment]
    rw [same]
    exact ⟨known.toUnmoved.change _ _ _, known.payment, rfl, known.job⟩
  replay := submit_storage rfl fun before known => known.elim
  conflict := fun _ _ _ _ => trivial
  audit := fun event => submit_silent rfl rfl fun _ _ known => known
  save := by
    intro now
    apply submit_storage rfl
    rintro before ⟨unmoved, job, unfinal⟩
    rw [Continues, submitKnow, snapshot_hsetPayment]
    exact ⟨unmoved.change _ _ _, job, unfinal, _, rfl, rfl, rfl⟩
  emit := fun event => submit_silent rfl rfl fun _ _ known => known
  ready := submit_silent rfl rfl fun _ _ known => known
  add := by
    intro now delay
    apply submit_storage rfl
    rintro before ⟨unmoved, free, unfinal, stored⟩
    have missing : before.queues (queueOf input) input.id = none := free
    show SubmitKnows input refunds .queued (snapshot input.id (queueOf input)
      ((StorageCommand.queueAdd _ input.id _ _).effect pid before).2)
    rw [queueAdd_free _ _ _ missing, snapshot_setJob separate]
    have stands : ∀ job, Stands (contextOf input refunds job false) 0 [] [] []
        { snapshot input.id (queueOf input) before with job := some job } :=
      fun job => ⟨Nat.le_of_eq unmoved.invoked, unmoved.charged,
        unmoved.refunded.trans (List.append_nil _).symm, unmoved.settled, rfl,
        unmoved.entry⟩
    exact ⟨⟨_, _, 0, _, _, _⟩,
      ⟨rfl, rfl, ⟨stands _, ⟨stored, unfinal⟩, unmoved.lock⟩⟩, rfl⟩
  release := submit_storage rfl fun before known => known.elim
  created := fun world now known => known

end Submission

variable {input : CreatePaymentInput} {refunds : List String}

/-- The lifecycle is over: the stores agree on one of the two ends. -/
structure Over (input : CreatePaymentInput) (refunds : List String)
    (snap : Snapshot) : Prop where
  agreed : Succeeded refunds snap ∨ Perished input.id refunds snap
  invoked : snap.invoked ≤ budget input
  lock : snap.lock = none

/-- What the attempts so far have left behind. -/
def Leaves (input : CreatePaymentInput) (refunds : List String) :
    Phase → Snapshot → Prop
  | .waiting, snap =>
      ∃ job, Pending input refunds job snap ∧ job.attemptsMade < budget input
  | .failed _, snap =>
      ∃ job, Pending input refunds job snap ∧ job.attemptsMade ≤ budget input
  | .acknowledged _, snap | .exhausted, snap => Over input refunds snap

theorem Succeeded.withJob {snap : Snapshot} (succeeded : Succeeded refunds snap)
    (job : Option Job) : Succeeded refunds { snap with job := job } := by
  obtain ⟨⟨transactionId, completed, money⟩, refunded, queued⟩ := succeeded
  exact ⟨⟨transactionId, ⟨completed.record, completed.cached⟩, money⟩,
    refunded, queued⟩

theorem Perished.withJob {id : PaymentId} {snap : Snapshot}
    (perished : Perished id refunds snap) (job : Option Job) :
    Perished id refunds { snap with job := job } := by
  obtain ⟨⟨reason, buried, routed⟩, settled, refunded⟩ := perished
  exact ⟨⟨reason, ⟨buried.record, buried.cached⟩, routed⟩, settled, refunded⟩

/-- The job that is found is the one the payment waits with. -/
theorem Pending.job_eq {job found : Job} {world : World}
    (pending : Pending input refunds job
      (snapshot input.id (queueOf input) world))
    (stored : world.queues (queueOf input) input.id = some found) :
    found = job :=
  Option.some.inj (stored.symm.trans pending.between.stands.job)

/-- The payment is pending with another job in place of this one. -/
theorem Pending.replace {job other : Job} {snap : Snapshot} {bound : Nat}
    {locks : Bool} (between : Between (contextOf input refunds job locks)
      bound snap)
    (data : other.data = .payment ⟨input.id, input.correlationId⟩)
    (attempts : other.options.attempts = budget input)
    (made : bound = other.attemptsMade) :
    Pending input refunds other { snap with job := some other } := by
  obtain ⟨stands, unfinished, lock⟩ := between
  subst made
  exact ⟨data, attempts, ⟨stands.invoked, stands.charged, stands.refunded,
    stands.settled, rfl, stands.entry⟩,
    ⟨unfinished.stored, unfinished.unfinalized⟩, lock⟩

/-- A delivery hands out the pending job, now active. -/
theorem delivered_cases {world active : World} {handle : JobHandle} {job : Job}
    (separate : queueOf input ≠ QueueManager.dlqQueueName)
    (pending : Pending input refunds job
      (snapshot input.id (queueOf input) world))
    (delivered : Delivered input world handle active) :
    handle.data.paymentId = input.id ∧
      Pending input refunds { job with state := .active }
        (snapshot input.id (queueOf input) active) := by
  obtain ⟨activated, handed⟩ := delivered
  have stored : world.queues (queueOf input) input.id = some job :=
    pending.between.stands.job
  rw [environment_activate stored activated] at handed ⊢
  rw [snapshot_setJob separate]
  constructor
  · simp only [World.setJob, Function.update_self, Option.bind_some,
      Job.handle?, pending.data, Option.some.injEq] at handed
    rw [← handed]
  · exact Pending.replace pending.between pending.data pending.attempts rfl

/-- What a delivery starts from. -/
theorem Pending.known {job : Job} {snap : Snapshot}
    (pending : Pending input refunds job snap) (locks : Bool) :
    Knows (contextOf input refunds job locks) .idle snap := by
  obtain ⟨stands, unfinished, lock⟩ := pending.between
  exact ⟨⟨stands.invoked, stands.charged, stands.refunded, stands.settled,
    stands.job, stands.entry⟩, ⟨unfinished.stored, unfinished.unfinalized⟩,
    lock⟩

section Deliveries

variable {pid : Nat} {job : Job} {world after final : World}
  (separate : queueOf input ≠ QueueManager.dlqQueueName)
  (pending : Pending input refunds job
    (snapshot input.id (queueOf input) world))

include separate

private theorem submit_completes {record : PaymentRecord}
    (fresh : Fresh refunds (snapshot input.id (queueOf input) world))
    (completes : (Task.submit input).Completes config input.id pid world
      (.ok (.submitted (.created record))) after) :
    submitKnow input refunds .queued after := by
  have safe : (((Task.submit input).body config).start world.now).Safe
      (alone config input.id) pid (fun output final => ∃ outcome,
        output = Except.map Output.submitted outcome ∧
          submitEnds input refunds outcome final) world :=
    (submitOutline separate).safe_code fresh
      (fun outcome final ended => ⟨outcome, rfl, ended⟩) _
  obtain ⟨outcome, same, ended⟩ :=
    safe.completes (fun _ _ _ _ => trivial) trivial completes
  cases outcome with
  | error error => cases same
  | ok result =>
      cases same
      exact ended

include pending

/-- A delivery that returns leaves an ended payment, one that throws leaves a
payment that is pending as before. -/
theorem process_completes {handle : JobHandle}
    {output : Except Thrown Output}
    (same : handle.data.paymentId = input.id)
    (completes : (Task.process handle).Completes config input.id pid world
      output after) :
    ∃ outcome, output = Except.map Output.processed outcome ∧
      processEnds (contextOf input refunds job true) outcome after := by
  have safe : (((Task.process handle).body config).start world.now).Safe
      (alone config input.id) pid (fun output final => ∃ outcome,
        output = Except.map Output.processed outcome ∧
          processEnds (contextOf input refunds job true) outcome final)
      world :=
    (processOutline separate rfl (Nat.le_refl _)).safe_code same
      (pending.known true) (fun outcome final ended => ⟨outcome, rfl, ended⟩) _
  exact safe.completes (fun _ _ _ _ => trivial) trivial completes

private theorem handler_completes {error : Thrown}
    (completes : (Task.handleJobFailure ⟨input.id, input.correlationId⟩
      error).Completes config input.id pid world (.ok .handled) after) :
    Ended (contextOf input refunds job false)
      (snapshot input.id (queueOf input) after) := by
  have safe : (((Task.handleJobFailure ⟨input.id, input.correlationId⟩
      error).body config).start world.now).Safe (alone config input.id) pid
      (fun output final => ∃ outcome,
        output = Except.map (fun _ => Output.handled) outcome ∧
          handlerEnds (contextOf input refunds job false) outcome final)
      world :=
    (handlerOutline separate rfl (Nat.le_refl _)).safe_code rfl
      (pending.known false) error
      (fun outcome final ended => ⟨outcome, rfl, ended⟩) _
  obtain ⟨outcome, same, ended⟩ :=
    safe.completes (fun _ _ _ _ => trivial) trivial completes
  cases outcome with
  | ok _ => exact ended
  | error error => exact ended.elim

end Deliveries

/-- The invariant of the lifecycle, over the attempts. -/
theorem leaves (separate : queueOf input ≠ QueueManager.dlqQueueName)
    {start : World}
    (fresh : Fresh refunds (snapshot input.id (queueOf input) start))
    {phase : Phase} {world : World}
    (driven : Driven config input start phase world) :
    Leaves input refunds phase (snapshot input.id (queueOf input) world) := by
  induction driven with
  | accepted completes =>
      obtain ⟨job, pending, unused⟩ := submit_completes separate fresh completes
      exact ⟨job, pending, by rw [unused]; exact Nat.succ_pos _⟩
  | elapsed elapsed _ unexpired induction =>
      rw [snapshot_tick unexpired]
      exact induction
  | returned _ delivered completes acknowledged induction =>
      obtain ⟨job, pending, within⟩ := induction
      obtain ⟨same, pending⟩ := delivered_cases separate pending delivered
      obtain ⟨outcome, returned, ended⟩ :=
        process_completes separate pending same completes
      cases outcome with
      | error error => cases returned
      | ok result =>
          obtain ⟨next, rfl⟩ := environment_complete acknowledged
          rw [snapshot_setJob separate]
          refine ⟨?_, Nat.le_trans ended.invoked within, ended.lock⟩
          exact ended.agreed.imp (fun ended => ended.withJob next)
            (fun ended => ended.withJob next)
  | @thrown _ _ active after _ _ _ _ delivered completes failed induction =>
      obtain ⟨job, pending, within⟩ := induction
      obtain ⟨same, pending⟩ := delivered_cases separate pending delivered
      obtain ⟨outcome, returned, ended⟩ :=
        process_completes separate pending same completes
      cases outcome with
      | ok result => cases returned
      | error error =>
          have stored : after.queues (queueOf input) input.id =
              some { job with state := .active } := ended.stands.job
          rw [environment_fail stored failed, snapshot_setJob separate]
          exact ⟨_, Pending.replace ended pending.data pending.attempts rfl,
            within⟩
  | retried _ stored unspent induction =>
      obtain ⟨job, pending, -⟩ := induction
      obtain rfl := pending.job_eq stored
      simp only [QueueManager.exhausted, decide_eq_false_iff_not,
        Nat.not_le] at unspent
      exact ⟨_, pending, pending.attempts ▸ unspent⟩
  | handled _ stored _ data completes induction =>
      obtain ⟨job, pending, within⟩ := induction
      obtain rfl := pending.job_eq stored
      obtain rfl := JobData.payment.inj (data.symm.trans pending.data)
      have ended := handler_completes separate pending completes
      exact ⟨ended.agreed, Nat.le_trans ended.invoked within, ended.lock⟩

/-- The two ends exclude each other. -/
theorem not_both {id : PaymentId} {snap : Snapshot}
    (succeeded : Succeeded refunds snap) (perished : Perished id refunds snap) :
    False := by
  obtain ⟨transactionId, completed, -⟩ := succeeded.agreed
  obtain ⟨reason, buried, -⟩ := perished.agreed
  obtain ⟨record, stored, status, -⟩ := completed.record
  obtain ⟨record', stored', status', -⟩ := buried.record
  rw [stored, Option.some.injEq] at stored'
  rw [← stored', status] at status'
  cases status'

/-- Terminal agreement and conservation of money. -/
theorem terminal_agreement (input : CreatePaymentInput) (start : World)
    (fresh : Fresh (refundsRequested start.gateway)
      (snapshot input.id (QueueManager.queueNameFor input.gatewayId) start))
    (separate : QueueManager.queueNameFor input.gatewayId ≠
      QueueManager.dlqQueueName)
    (phase : Phase) (world : World)
    (driven : Driven config input start phase world)
    (finished : phase.finished = true) :
    invoked input.id world.gateway ≤
        input.maxRetries.getD defaultMaxRetries + 1 ∧
      world.locks input.id = none ∧
      Xor (Succeeded (refundsRequested start.gateway)
          (snapshot input.id (QueueManager.queueNameFor input.gatewayId)
            world))
        (Perished input.id (refundsRequested start.gateway)
          (snapshot input.id (QueueManager.queueNameFor input.gatewayId)
            world)) := by
  have ended : Over input (refundsRequested start.gateway)
      (snapshot input.id (queueOf input) world) := by
    have left := leaves separate fresh driven
    cases phase with
    | waiting | failed error => cases finished
    | acknowledged result => exact left
    | exhausted => exact left
  refine ⟨ended.invoked, ended.lock, ?_⟩
  rcases ended.agreed with succeeded | perished
  · exact .inl ⟨succeeded, not_both succeeded⟩
  · exact .inr ⟨perished, fun succeeded => not_both succeeded perished⟩

/-- Nothing was ever asked of an empty world. -/
theorem fresh_empty (id : PaymentId) (queue : String) :
    Fresh (refundsRequested (World.empty 0).gateway)
      (snapshot id queue (World.empty 0)) :=
  ⟨⟨rfl, rfl, rfl, rfl, rfl, rfl⟩, rfl, rfl, rfl⟩

def succeeding (count : Nat) : List Choice :=
  List.replicate count .succeed

/-- The first delivery is rate limited; the second is charged, not settled and
refunded. -/
def unsettledMoves : List Move :=
  [.deliver (succeeding 11 ++ [.guard .noToken] ++ succeeding 6),
    .retry,
    .deliver (succeeding 11 ++ [.guard (.answered (.ok "t1" 200))] ++
      succeeding 3 ++ [.refused "ledger unavailable"] ++
      [.refund (.ok "r1" 200)] ++ succeeding 15)]

theorem terminal_agreement_unsettled :
    ∃ phase world,
      drive AppConfig.default (submission "g1" 0) (succeeding 6)
        unsettledMoves (World.empty 0) = some (phase, world) ∧
      invoked "p1" world.gateway ≤ 4 ∧
      world.locks "p1" = none ∧
      Xor (Succeeded [] (snapshot "p1" "g1" world))
        (Perished "p1" [] (snapshot "p1" "g1" world)) := by
  have ends : (drive AppConfig.default (submission "g1" 0) (succeeding 6)
      unsettledMoves (World.empty 0)).any (fun state => state.1.finished) =
      true := by decide +kernel
  obtain ⟨⟨phase, world⟩, driven, finished⟩ := (Option.any_eq_true _ _).mp ends
  exact ⟨phase, world, driven, terminal_agreement (submission "g1" 0)
    (World.empty 0) (fresh_empty _ _) (by decide +kernel) phase world
    (driven_of_drive driven) finished⟩

/-- The queue of gateway `dlq` is the dead letter queue.  The dead letter entry
has the id of the payment's own job there, so it is not added; then the job is
acknowledged and removed. -/
def buriedMoves : List Move :=
  [.deliver (succeeding 11 ++
    [.guard (.answered (.fail ⟨.cardDeclined, "declined", 402⟩))] ++
    succeeding 14)]

theorem terminal_agreement_fails :
    ¬ ∀ (input : CreatePaymentInput) (start : World) (phase : Phase)
      (world : World),
      Fresh (refundsRequested start.gateway)
        (snapshot input.id (QueueManager.queueNameFor input.gatewayId)
          start) →
      Driven AppConfig.default input start phase world →
      phase.finished = true →
      invoked input.id world.gateway ≤
          input.maxRetries.getD defaultMaxRetries + 1 ∧
        world.locks input.id = none ∧
        Xor (Succeeded (refundsRequested start.gateway)
            (snapshot input.id (QueueManager.queueNameFor input.gatewayId)
              world))
          (Perished input.id (refundsRequested start.gateway)
            (snapshot input.id (QueueManager.queueNameFor input.gatewayId)
              world)) := by
  intro agrees
  have ends : (drive AppConfig.default (submission "dlq" 0) (succeeding 6)
      buriedMoves (World.empty 0)).any (fun state => state.1.finished &&
        decide ((state.2.payment "p1").map PaymentRecord.status =
          some .deadLetter) &&
        (state.2.queues "dlq" "p1").isNone) = true := by decide +kernel
  obtain ⟨⟨phase, world⟩, driven, final⟩ := (Option.any_eq_true _ _).mp ends
  simp only [Bool.and_eq_true, decide_eq_true_eq, Option.isNone_iff_eq_none]
    at final
  obtain ⟨⟨finished, status⟩, missing⟩ := final
  obtain ⟨-, -, ended⟩ := agrees (submission "dlq" 0) (World.empty 0) phase
    world (fresh_empty _ _) (driven_of_drive driven) finished
  rcases ended with ⟨succeeded, -⟩ | ⟨perished, -⟩
  · obtain ⟨transactionId, ⟨⟨record, stored, completed, -⟩, -⟩, -⟩ :=
      succeeded.agreed
    have found : world.payment "p1" = some record := stored
    rw [found, Option.map_some, completed] at status
    cases status
  · obtain ⟨reason, -, entry, routed, -⟩ := perished.agreed
    have found : (world.queues "dlq" "p1").bind _ = some entry := routed
    rw [missing] at found
    cases found

end PaymentQueue.Conservation
