import PaymentQueue.Safety.Cache

/-!
# The trail of a payment

Whatever throws, crashes or expires while the deliveries of a payment run one
after another, its stored record is only ever extended: what was submitted
stays, the history grows at its end, and whatever the record says of the
payment is documented by an entry of the history.
-/

namespace PaymentQueue.Trail

open Await PaymentSagaService PaymentProcessor

variable {config : AppConfig}

/-- The history has an entry that says this. -/
def Noted (phase : SagaPhase) (event : String) (detail : String)
    (history : List SagaHistoryEntry) : Prop :=
  ∃ entry ∈ history, entry.phase = phase ∧ entry.event = event ∧
    entry.detail = some detail

/-- What the saga fills in has its entry in the history. -/
structure Traced (record : PaymentRecord) (history : List SagaHistoryEntry) :
    Prop where
  reservation : ∀ reservationId, record.reservationId = some reservationId →
    Noted .reserve "ok" reservationId history
  transaction : ∀ transactionId, record.transactionId = some transactionId →
    Noted .charge "ok" transactionId history
  refund : ∀ refundId, record.refundId = some refundId →
    Noted .compensation "refund_charge" refundId history

/-- Whatever the record says of the payment is in its history. -/
structure Documented (record : PaymentRecord) : Prop where
  traced : Traced record record.history
  queued : record.status = .queued → record.history = []
  attempt : ∀ startedAt, record.processedAt = some startedAt →
    ⟨.reserve, s!"attempt {record.retryCount + 1} started", none, startedAt⟩ ∈
      record.history
  completed : record.status = .completed →
    ∃ transactionId, record.transactionId = some transactionId ∧
      Noted .settle "ok" transactionId record.history
  deadLettered : record.status = .deadLetter →
    ∃ reason, record.failureReason = some reason ∧
      Noted .compensation "dead_lettered" reason record.history

/-- The record as it was created. -/
def original (record : PaymentRecord) : PaymentRecord :=
  { record with
    status := .queued
    retryCount := 0
    sagaState := .idle
    history := []
    reservationId := none
    transactionId := none
    refundId := none
    failureReason := none
    processedAt := none
    completedAt := none }

/-- A later version of the same record. -/
structure Revises (earlier later : PaymentRecord) : Prop where
  original : original later = original earlier
  history : earlier.history <+: later.history
  queued : later.status = .queued → later = earlier

/-- The attempt has reserved the funds. -/
structure Reserved (reservationId : String) (record : PaymentRecord) :
    Prop where
  processing : record.status = .processing
  noted : Noted .reserve "ok" reservationId record.history

/-- The attempt has charged the payment. -/
structure Charged (reservationId transactionId : String)
    (record : PaymentRecord) : Prop extends Reserved reservationId record where
  carried : record.transactionId = some transactionId
  charged : Noted .charge "ok" transactionId record.history

structure Settled (reservationId transactionId : String)
    (record : PaymentRecord) : Prop extends
    Charged reservationId transactionId record where
  settled : Noted .settle "ok" transactionId record.history

section Records

variable {record earlier later next : PaymentRecord}
  {history : List SagaHistoryEntry}

theorem Noted.grow {phase : SagaPhase} {event detail : String}
    {before after : List SagaHistoryEntry}
    (noted : Noted phase event detail before) (grown : before <+: after) :
    Noted phase event detail after := by
  obtain ⟨entry, member, shape⟩ := noted
  exact ⟨entry, grown.mem member, shape⟩

theorem noted_append {phase : SagaPhase} {event detail : String}
    {now : Time} :
    Noted phase event detail
      (history ++ [⟨phase, event, some detail, now⟩]) :=
  ⟨_, List.mem_append_right _ (List.mem_singleton_self _), rfl, rfl, rfl⟩

theorem Revises.refl (record : PaymentRecord) : Revises record record :=
  ⟨rfl, List.prefix_refl _, fun _ => rfl⟩

theorem Revises.trans (first : Revises record earlier)
    (second : Revises earlier later) : Revises record later := by
  refine ⟨second.original.trans first.original,
    first.history.trans second.history, fun queued => ?_⟩
  have same := second.queued queued
  rw [same] at queued
  exact same.trans (first.queued queued)

/-- A record that an attempt has changed. -/
theorem Revises.amend (revises : Revises earlier record)
    (same : Trail.original next = Trail.original record)
    (grown : record.history <+: next.history)
    (active : next.status ≠ .queued) : Revises earlier next :=
  ⟨same.trans revises.original, revises.history.trans grown,
    fun queued => (active queued).elim⟩

private theorem id_of_original (same : original later = original earlier) :
    later.id = earlier.id :=
  show (original later).id = (original earlier).id by rw [same]

theorem Traced.grow (traced : Traced record history)
    {after : List SagaHistoryEntry} (grown : history <+: after) :
    Traced record after where
  reservation := fun reservationId reserved =>
    (traced.reservation reservationId reserved).grow grown
  transaction := fun transactionId charged =>
    (traced.transaction transactionId charged).grow grown
  refund := fun refundId refunded =>
    (traced.refund refundId refunded).grow grown

private theorem documented_created (input : NewPayment) (now : Time) :
    Documented (createPaymentRecord input now) :=
  ⟨⟨nofun, nofun, nofun⟩, fun _ => rfl, nofun, nofun, nofun⟩

/-- More of the history, with the same fields. -/
theorem Documented.grow (documented : Documented record)
    (active : record.status ≠ .queued) (grown : record.history <+: history)
    (state : SagaState) :
    Documented { record with history := history, sagaState := state } := by
  obtain ⟨traced, -, attempt, completed, deadLettered⟩ := documented
  have again := traced.grow grown
  refine ⟨⟨again.reservation, again.transaction, again.refund⟩,
    fun queued => (active queued).elim, ?_, ?_, ?_⟩
  · intro startedAt started
    exact grown.mem (attempt startedAt started)
  · intro isCompleted
    obtain ⟨transactionId, same, settled⟩ := completed isCompleted
    exact ⟨transactionId, same, settled.grow grown⟩
  · intro isDeadLettered
    obtain ⟨reason, same, buried⟩ := deadLettered isDeadLettered
    exact ⟨reason, same, buried.grow grown⟩

private theorem documented_processing (documented : Documented record)
    (attempt : Nat) (now : Time) :
    Documented (transitionToProcessing record attempt now) := by
  have again := documented.traced.grow (List.prefix_append _
    [⟨.reserve, s!"attempt {attempt + 1} started", none, now⟩])
  refine ⟨⟨again.reservation, again.transaction, again.refund⟩, nofun, ?_,
    nofun, nofun⟩
  intro startedAt started
  obtain rfl := Option.some.inj started
  exact List.mem_append_right _ (List.mem_singleton_self _)

private theorem documented_deadLetter (documented : Documented record)
    (reason : String) (now : Time) :
    Documented (transitionToDeadLetter record reason now) := by
  have grown := List.prefix_append record.history
    [⟨.compensation, "dead_lettered", some reason, now⟩]
  have again := documented.traced.grow grown
  refine ⟨⟨again.reservation, again.transaction, again.refund⟩, nofun, ?_,
    nofun, fun _ => ⟨reason, rfl, noted_append⟩⟩
  intro startedAt started
  exact grown.mem (documented.attempt startedAt started)

private theorem documented_completed {reservationId transactionId : String}
    (documented : Documented record)
    (settled : Settled reservationId transactionId record) (now : Time) :
    Documented
      { transitionToCompleted record (some transactionId) now with
        sagaState := .settled
        reservationId := some reservationId
        failureReason := none } := by
  have carried := transitionToCompleted_transactionId record now
    settled.carried
  refine ⟨⟨?_, ?_, documented.traced.refund⟩, nofun, documented.attempt,
    fun _ => ⟨transactionId, carried, settled.settled⟩, nofun⟩
  · intro reservationId same
    obtain rfl := Option.some.inj same
    exact settled.noted
  · intro transactionId same
    obtain rfl := Option.some.inj (carried.symm.trans same)
    exact settled.charged

private theorem revises_processing (record : PaymentRecord) (attempt : Nat)
    (now : Time) :
    Revises record (transitionToProcessing record attempt now) :=
  ⟨rfl, List.prefix_append _ _, nofun⟩

private theorem revises_deadLetter (record : PaymentRecord) (reason : String)
    (now : Time) :
    Revises record (transitionToDeadLetter record reason now) :=
  ⟨rfl, List.prefix_append _ _, nofun⟩

end Records

/-- The stored record, if there is one, can be read and is documented. -/
def Inv (id : PaymentId) (world : World) : Prop :=
  ∀ doc, world.payments id = some doc →
    ∃ record, doc = .parsed record ∧ record.id = id ∧ Documented record

/-- What is stored stays stored, in a later version. -/
def Onward (id : PaymentId) (before after : World) : Prop :=
  ∀ record, before.payments id = some (.parsed record) →
    ∃ later, after.payments id = some (.parsed later) ∧ Revises record later

structure Rely (id : PaymentId) (task : Task) (before after : World) :
    Prop where
  submission : task.submits = true → before.payments id = none →
    after.payments id = none
  worker : task.submits = false → before.payments id ≠ none →
    after.payments id = before.payments id

structure Guarantee (id : PaymentId) (task : Task) (before after : World) :
    Prop where
  onward : Onward id before after
  submission : task.submits = true → before.payments id ≠ none →
    after.payments id = before.payments id
  worker : task.submits = false → before.payments id = none →
    after.payments id = none

def discipline (config : AppConfig) (id : PaymentId) :
    Discipline (paymentSystem config) where
  invariant := Inv id
  rely := fun _ => Rely id
  guarantee := fun _ => Guarantee id
  allowed := fun _ _ _ _ _ => True
  post := fun _ _ _ _ => True
  rest := fun _ _ _ => True

section Worlds

variable {id : PaymentId} {task : Task} {before after world : World}

theorem Onward.refl (id : PaymentId) (world : World) : Onward id world world :=
  fun record stored => ⟨record, stored, .refl record⟩

theorem Onward.trans {first second third : World}
    (left : Onward id first second) (right : Onward id second third) :
    Onward id first third := by
  intro record stored
  obtain ⟨middle, found, revised⟩ := left record stored
  obtain ⟨last, found', revised'⟩ := right middle found
  exact ⟨last, found', revised.trans revised'⟩

private theorem onward_of_same (same : after.payments id = before.payments id) :
    Onward id before after := by
  intro record stored
  exact ⟨record, same.trans stored, .refl record⟩

theorem Rely.refl (task : Task) (world : World) : Rely id task world world :=
  ⟨fun _ missing => missing, fun _ _ => rfl⟩

theorem Rely.trans {first second third : World}
    (left : Rely id task first second) (right : Rely id task second third) :
    Rely id task first third := by
  constructor
  · intro submits missing
    exact right.submission submits (left.submission submits missing)
  · intro worker stored
    have same := left.worker worker stored
    rw [right.worker worker (by rwa [same]), same]

private theorem guarantee_of_same
    (same : after.payments id = before.payments id) :
    Guarantee id task before after :=
  ⟨onward_of_same same, fun _ _ => same, fun _ missing => same.trans missing⟩

theorem Inv.of_same (inv : Inv id before)
    (same : after.payments id = before.payments id) : Inv id after := by
  intro doc stored
  exact inv doc (same.symm.trans stored)

end Worlds

section Worker

variable {id : PaymentId} {pid : Nat} {task : Task} {locals α : Type}
  {world : World}

theorem keeps_of_same {before after : World} (inv : Inv id before)
    (same : after.payments id = before.payments id) :
    Keeps ((discipline config id).contract pid task) before after :=
  ⟨inv.of_same same, guarantee_of_same same⟩

/-- A fact about the stored record, which only this execution writes. -/
structure Steady (id : PaymentId) (held : locals → World → Prop) : Prop where
  stored : ∀ vars world, held vars world → world.payments id ≠ none
  kept : ∀ vars before after, after.payments id = before.payments id →
    held vars before → held vars after

variable {held : locals → World → Prop}

theorem Steady.stable (steady : Steady id held)
    (worker : task.submits = false) (vars : locals) :
    Stable ((discipline config id).contract pid task) (held vars) := by
  intro first second rely _ holds
  exact steady.kept vars first second
    (rely.worker worker (steady.stored vars first holds)) holds

/-- Some record is stored. -/
def Present (id : PaymentId) (_ : locals) (world : World) : Prop :=
  world.payments id ≠ none

theorem steady_present : Steady id (Present id : locals → World → Prop) where
  stored := fun _ _ stored => stored
  kept := fun _ _ _ same stored => by rwa [Present, same]

section Steady

variable (steady : Steady id held) (worker : task.submits = false)

include steady worker

/-- A command that does not write payments. -/
theorem maintains_command {command : Command}
    (other : command.writes .payments = false) :
    Async.Maintains ((discipline config id).contract pid task) pid held
      (awaitCommand command : Async locals command.Result) := by
  refine Async.maintains_await ?_ (steady.stable worker)
  intro vars before outcome after holds execution
  have same : after.payments id = before.payments id :=
    congrFun (executes_agrees execution other) id
  exact ⟨keeps_of_same execution.invariant same,
    steady.kept vars before after same holds⟩

theorem maintains_audit (paymentId : PaymentId) (type : AuditEventType)
    (detail : Detail) :
    Async.Maintains ((discipline config id).contract pid task) pid held
      (AuditLogService.record paymentId type detail : Async locals Unit) :=
  Async.maintains_bind Async.maintains_dateNow fun _ =>
    maintains_command steady worker rfl

theorem maintains_emit (event : Time → AppEvent) :
    Async.Maintains ((discipline config id).contract pid task) pid held
      (EventBus.emit event : Async locals Unit) :=
  Async.maintains_bind Async.maintains_dateNow fun _ =>
    maintains_command steady worker rfl

theorem maintains_idempotencyGet (paymentId : PaymentId) :
    Async.Maintains ((discipline config id).contract pid task) pid held
      (IdempotencyService.get paymentId : Async locals _) :=
  Async.maintains_bind (maintains_command steady worker rfl) fun _ =>
    Async.maintains_pure _

private theorem maintains_finalize (paymentId : PaymentId)
    (state : IdempotencyState)
    (status : PaymentStatus) (transactionId failureReason : Option String) :
    Async.Maintains ((discipline config id).contract pid task) pid held
      (IdempotencyService.finalize config paymentId state status transactionId
        failureReason : Async locals Unit) :=
  Async.maintains_bind (maintains_idempotencyGet steady worker paymentId)
    fun _ => Async.maintains_bind Async.maintains_dateNow fun _ =>
      maintains_command steady worker rfl

private theorem maintains_acquireExecutionLock (paymentId : PaymentId) :
    Async.Maintains ((discipline config id).contract pid task) pid held
      (IdempotencyService.acquireExecutionLock config paymentId :
        Async locals Bool) := by
  refine Async.maintains_bind (maintains_command steady worker rfl) ?_
  intro acquired
  cases acquired with
  | false => exact Async.maintains_pure _
  | true =>
      exact Async.maintains_bind
        (maintains_idempotencyGet steady worker paymentId) fun _ =>
        Async.maintains_bind Async.maintains_dateNow fun _ =>
        Async.maintains_bind (maintains_command steady worker rfl) fun _ =>
        Async.maintains_pure _

private theorem maintains_routeToDlq (entry : DlqEntry) :
    Async.Maintains ((discipline config id).contract pid task) pid held
      (QueueManager.routeToDlq entry : Async locals Unit) :=
  Async.maintains_bind (maintains_command steady worker rfl) fun _ =>
    maintains_command steady worker rfl

end Steady

/-- A save of a later version of what is stored. -/
theorem moves_revise {record : PaymentRecord} {know result : World → Prop}
    (worker : task.submits = false) (keyed : record.id = id)
    (documented : Documented record)
    (revises : ∀ world, know world → ∃ earlier,
      world.payments id = some (.parsed earlier) ∧ Revises earlier record)
    (saved : ∀ world, world.payments id = some (.parsed record) → result world)
    (refused : ∀ world, know world → result world) :
    Moves ((discipline config id).contract pid task) pid
      (.storage (.hsetPayment id record)) know (fun _ => result) := by
  refine moves_storage (fun before inv => keeps_of_same inv rfl) ?_
    (fun before _ known _ => refused before known)
  intro before _ known inv _
  obtain ⟨earlier, found, revised⟩ := revises before known
  have stored : ((StorageCommand.hsetPayment id record).effect pid
      before).2.payments id = some (.parsed record) := by
    simp [StorageCommand.effect]
  refine ⟨⟨?_, ?_, ?_, ?_⟩, saved _ stored, fun _ => saved _ stored⟩
  · intro doc found
    rw [stored] at found
    obtain rfl := Option.some.inj found
    exact ⟨record, rfl, keyed, documented⟩
  · intro earlier' found'
    rw [found] at found'
    obtain rfl := Stored.parsed.inj (Option.some.inj found')
    exact ⟨record, stored, revised⟩
  · intro submits
    rw [worker] at submits
    cases submits
  · intro _ missing
    rw [found] at missing
    cases missing

/-- The record of an attempt revises what is stored. -/
structure Held (id : PaymentId) (fact : PaymentRecord → Prop)
    (record : PaymentRecord) (world : World) : Prop where
  keyed : record.id = id
  active : record.status ≠ .queued
  documented : Documented record
  fact : fact record
  stored : ∃ earlier, world.payments id = some (.parsed earlier) ∧
    Revises earlier record

/-- A fact that notes and refunds leave alone. -/
def Lasting (fact : PaymentRecord → Prop) : Prop :=
  ∀ earlier later : PaymentRecord, earlier.history <+: later.history →
    later.transactionId = earlier.transactionId →
    later.status = earlier.status → fact earlier → fact later

private theorem lasting_true : Lasting fun _ => True :=
  fun _ _ _ _ _ _ => trivial

private theorem lasting_processing :
    Lasting fun record => record.status = .processing :=
  fun _ _ _ _ same processing => same.trans processing

theorem lasting_reserved (reservationId : String) :
    Lasting (Reserved reservationId) := by
  rintro earlier later grown - same ⟨processing, noted⟩
  exact ⟨same.trans processing, noted.grow grown⟩

private theorem lasting_charged (reservationId transactionId : String) :
    Lasting (Charged reservationId transactionId) := by
  rintro earlier later grown same status ⟨reserved, carried, charged⟩
  exact ⟨lasting_reserved reservationId earlier later grown same status
    reserved, same.trans carried, charged.grow grown⟩

section Saga

variable {fact : PaymentRecord → Prop} {record next : PaymentRecord}

theorem Held.weaken {larger : PaymentRecord → Prop}
    (held : Held id fact record world)
    (weaker : fact record → larger record) : Held id larger record world :=
  ⟨held.keyed, held.active, held.documented, weaker held.fact, held.stored⟩

theorem steady_held : Steady id (Held id fact) where
  stored := by
    rintro record world ⟨-, -, -, -, ⟨earlier, stored, -⟩⟩ missing
    rw [stored] at missing
    cases missing
  kept := by
    rintro record before after same ⟨same', active, documented, fact, stored⟩
    exact ⟨same', active, documented, fact, by rwa [same]⟩

/-- The attempt changes its record. -/
theorem Held.amend {more : PaymentRecord → Prop}
    (held : Held id fact record world)
    (same : original next = original record)
    (grown : record.history <+: next.history)
    (active : next.status ≠ .queued) (documented : Documented next)
    (holds : more next) : Held id more next world := by
  obtain ⟨earlier, stored, revises⟩ := held.stored
  exact ⟨(id_of_original same).trans held.keyed, active, documented, holds,
    earlier, stored, revises.amend same grown active⟩

/-- The attempt adds to the history of its record. -/
theorem Held.grow (lasting : Lasting fact) (held : Held id fact record world)
    {history : List SagaHistoryEntry} (grown : record.history <+: history)
    (state : SagaState) :
    Held id fact { record with history := history, sagaState := state }
      world :=
  held.amend rfl grown held.active
    (held.documented.grow held.active grown state)
    (lasting _ _ grown rfl rfl held.fact)

variable (lasting : Lasting fact) (worker : task.submits = false)

include worker

/-- A save makes the record of the attempt the stored one. -/
theorem maintains_saveRecord :
    Async.Maintains ((discipline config id).contract pid task) pid
      (Held id fact) saveRecord := by
  intro record world held
  refine Async.safe_bind (Async.safe_get ?_)
  show Async.Safe _ _ _ (PaymentStore.save record) record world
  rw [PaymentStore.save, held.keyed]
  refine Async.safe_moves (moves_revise worker held.keyed held.documented
    (fun _ held => held.stored) ?_ fun _ held => held)
    (steady_held.stable worker record) held fun _ _ reached => reached
  intro world stored
  exact ⟨held.keyed, held.active, held.documented, held.fact, record, stored,
    .refl record⟩

theorem maintains_auditRecord (type : AuditEventType) (detail : Detail) :
    Async.Maintains ((discipline config id).contract pid task) pid
      (Held id fact) (auditRecord type detail) :=
  Async.maintains_bind Async.maintains_get fun _ =>
    maintains_audit steady_held worker _ _ _

theorem maintains_emitPhase (phase : SagaPhase) (ok : Bool) :
    Async.Maintains ((discipline config id).contract pid task) pid
      (Held id fact) (emitPhase phase ok) :=
  Async.maintains_bind Async.maintains_get fun _ =>
    maintains_emit steady_held worker _

private theorem maintains_callGuard :
    Async.Maintains ((discipline config id).contract pid task) pid
      (Held id fact) callGuard :=
  Async.maintains_bind Async.maintains_get fun _ =>
    maintains_command steady_held worker rfl

omit worker

include lasting

/-- A note that the attempt relies on later. -/
theorem safe_noted {more : PaymentRecord → Prop} (phase : SagaPhase)
    (event detail : String)
    (held : Held id fact record world)
    (notes : ∀ history, fact { record with history := history } →
      Noted phase event detail history → more { record with history := history }) :
    Async.Safe ((discipline config id).contract pid task) pid
      (fun outcome left current =>
        outcome = .ok () ∧ Held id more left current)
      (history phase event detail) record world := by
  refine Async.safe_bind (Async.safe_dateNow fun now =>
    Async.safe_modify ⟨rfl, ?_⟩)
  have grown := held.grow lasting (List.prefix_append record.history
    [⟨phase, event, some detail, now⟩]) record.sagaState
  exact grown.weaken fun fact => notes _ fact noted_append

theorem maintains_history (phase : SagaPhase) (event detail : String) :
    Async.Maintains ((discipline config id).contract pid task) pid
      (Held id fact) (history phase event detail) :=
  Async.maintains_bind Async.maintains_dateNow fun _ =>
    Async.maintains_modify fun record _ held =>
      held.grow lasting (List.prefix_append _ _) record.sagaState

private theorem maintains_state (state : SagaState) :
    Async.Maintains ((discipline config id).contract pid task) pid
      (Held id fact)
      (Async.modify fun record : PaymentRecord =>
        { record with sagaState := state }) :=
  Async.maintains_modify fun _ _ held =>
    held.grow lasting (List.prefix_refl _) state

include worker

private theorem maintains_releaseFunds (reservationId : String) :
    Async.Maintains ((discipline config id).contract pid task) pid
      (Held id fact) (releaseFunds reservationId) :=
  Async.maintains_bind (maintains_history lasting _ _ _) fun _ =>
    maintains_auditRecord worker _ _

private theorem safe_refunded (transactionId refundId : String)
    (held : Held id fact record world) :
    Async.Safe ((discipline config id).contract pid task) pid
      (fun _ left current => Held id fact left current)
      (do
        Async.modify fun record : PaymentRecord =>
          { record with refundId := some refundId }
        history .compensation "refund_charge" refundId
        auditRecord .sagaCompensateRefundCharge
          [("transactionId", .text transactionId), ("ok", .flag true),
            ("refundId", .text refundId)])
      record world := by
  refine Async.safe_bind (Async.safe_modify ?_)
  refine Async.safe_bind (Async.safe_bind (Async.safe_dateNow fun now =>
    Async.safe_modify ?_))
  refine maintains_auditRecord worker _ _ _ _ ?_
  have grown := List.prefix_append record.history
    [⟨.compensation, "refund_charge", some refundId, now⟩]
  have documented := held.documented.grow held.active grown record.sagaState
  refine held.amend rfl grown held.active ?_ (lasting _ _ grown rfl rfl
    held.fact)
  refine ⟨⟨documented.traced.reservation, documented.traced.transaction, ?_⟩,
    documented.queued, documented.attempt, documented.completed,
    documented.deadLettered⟩
  intro refunded same
  obtain rfl := Option.some.inj same
  exact noted_append

private theorem maintains_refundCharge (transactionId : String) :
    Async.Maintains ((discipline config id).contract pid task) pid
      (Held id fact) (refundCharge transactionId) := by
  refine Async.maintains_bind Async.maintains_get fun record => ?_
  refine Async.maintains_bind (maintains_command steady_held worker rfl) ?_
  intro refund
  cases refund with
  | ok refundId httpStatus =>
      exact fun _ _ held => safe_refunded lasting worker transactionId refundId
        held
  | fail error =>
      exact Async.maintains_bind (maintains_history lasting _ _ _) fun _ =>
        Async.maintains_bind (maintains_auditRecord worker _ _) fun _ =>
        maintains_emit steady_held worker _

private theorem safe_chargeFailed
    {post : Except Thrown SagaOutcome → PaymentRecord →
      World → Prop} (reservationId : String) (error : PaymentProcessingError)
    (held : Held id fact record world)
    (fails : ∀ error left current, Held id fact left current →
      post (.error error) left current) :
    Async.Safe ((discipline config id).contract pid task) pid post
      (chargeFailed reservationId error) record world := by
  refine (maintains_history lasting _ _ _).followed held ?_ fails
  intro _ left current held
  refine (maintains_releaseFunds lasting worker _).followed held ?_ fails
  intro _ left current held
  refine (maintains_saveRecord worker).followed held ?_ fails
  intro _ left current held
  refine (maintains_emitPhase worker _ _).followed held ?_ fails
  intro _ left current held
  exact Async.safe_throw (fails _ left current held)

private theorem maintains_compensateSettle
    (reservationId transactionId : String)
    (error : Thrown) :
    Async.Maintains ((discipline config id).contract pid task) pid
      (Held id fact) (compensateSettle reservationId transactionId error) :=
  Async.maintains_bind (maintains_history lasting _ _ _) fun _ =>
    Async.maintains_bind (maintains_refundCharge lasting worker _) fun _ =>
    Async.maintains_bind (maintains_releaseFunds lasting worker _) fun _ =>
    Async.maintains_bind (maintains_state lasting _) fun _ =>
    Async.maintains_bind (maintains_saveRecord worker) fun _ =>
    Async.maintains_bind (maintains_emitPhase worker _ _) fun _ =>
    Async.maintains_bind Async.maintains_get fun _ =>
    Async.maintains_throw _

private theorem maintains_settle (reservationId transactionId : String) :
    Async.Maintains ((discipline config id).contract pid task) pid
      (Held id fact) (settle reservationId transactionId) :=
  Async.maintains_tryCatch
    (Async.maintains_bind Async.maintains_get fun _ =>
      Async.maintains_bind
        (Async.maintains_bind Async.maintains_dateNow fun _ =>
          Async.maintains_bind (maintains_command steady_held worker rfl)
            fun _ => Async.maintains_pure _)
        fun _ => Async.maintains_pure _)
    fun error => maintains_compensateSettle lasting worker _ _ error

end Saga

section Execution

variable {record : PaymentRecord} (worker : task.submits = false)

include worker

private theorem safe_reserve
    (held : Held id (fun record => record.status = .processing) record world) :
    Async.Safe ((discipline config id).contract pid task) pid
      (fun outcome left current =>
        match outcome with
        | .ok reservationId => Held id (Reserved reservationId) left current
        | .error _ =>
            Held id (fun record => record.status = .processing) left current)
      reserve record world := by
  have fails : ∀ reservationId (error : Thrown) left current,
      Held id (Reserved reservationId) left current →
      Held id (fun record => record.status = .processing) left current :=
    fun _ _ _ _ held => held.weaken Reserved.processing
  refine Async.safe_bind (Async.safe_get ?_)
  refine Async.safe_bind (Async.safe_dateNow fun now => ?_)
  refine Async.safe_bind ((safe_noted lasting_processing .reserve "ok" _ held
    fun _ processing noted => Reserved.mk processing noted).mono ?_)
  rintro _ left current ⟨rfl, reserved⟩
  have lasting := lasting_reserved s!"res_{record.id}_{toString36 now}"
  refine (maintains_state lasting _).followed reserved ?_ (fails _)
  intro _ left current reserved
  refine (maintains_saveRecord worker).followed reserved ?_ (fails _)
  intro _ left current reserved
  refine (maintains_auditRecord worker _ _).followed reserved ?_ (fails _)
  intro _ left current reserved
  refine (maintains_emitPhase worker _ _).followed reserved ?_ (fails _)
  intro _ left current reserved
  exact Async.safe_pure reserved

private theorem safe_charged (reservationId transactionId : String)
    (httpStatus : Nat)
    (held : Held id (Reserved reservationId) record world) :
    Async.Safe ((discipline config id).contract pid task) pid
      (fun _ left current =>
        Held id (Charged reservationId transactionId) left current)
      (charged reservationId transactionId httpStatus) record world := by
  refine Async.safe_bind (Async.safe_modify ?_)
  refine Async.safe_bind (Async.safe_bind (Async.safe_dateNow fun now =>
    Async.safe_modify ?_))
  have grown := List.prefix_append record.history
    [⟨.charge, "ok", some transactionId, now⟩]
  have documented := held.documented.grow held.active grown .charged
  refine Async.maintains_bind (maintains_saveRecord worker) (fun _ =>
    Async.maintains_bind (maintains_auditRecord worker _ _) fun _ =>
    maintains_emitPhase worker _ _) _ _ (held.amend rfl grown held.active ?_
      ⟨⟨held.fact.processing, held.fact.noted.grow grown⟩, rfl, noted_append⟩)
  refine ⟨⟨?_, ?_, documented.traced.refund⟩, documented.queued,
    documented.attempt, ?_, documented.deadLettered⟩
  · intro reservationId same
    obtain rfl := Option.some.inj same
    exact held.fact.noted.grow grown
  · intro transactionId same
    obtain rfl := Option.some.inj same
    exact noted_append
  · intro completed
    rw [held.fact.processing] at completed
    cases completed

private theorem safe_settled (reservationId transactionId : String)
    (held : Held id (Charged reservationId transactionId) record world) :
    Async.Safe ((discipline config id).contract pid task) pid
      (fun _ left current =>
        Held id (Settled reservationId transactionId) left current)
      (settled transactionId) record world := by
  have lasting := lasting_charged reservationId transactionId
  refine Async.safe_bind (Async.safe_modify ?_)
  refine Async.safe_bind ((safe_noted lasting .settle "ok" _
    (held.grow lasting (List.prefix_refl _) .settled)
    fun _ charged noted => Settled.mk charged noted).mono ?_)
  rintro _ left current ⟨rfl, settled⟩
  exact Async.maintains_bind (maintains_auditRecord worker _ _) (fun _ =>
    maintains_emitPhase worker _ _) _ _ settled

private theorem safe_execute
    (held : Held id (fun record => record.status = .processing) record world) :
    Async.Safe ((discipline config id).contract pid task) pid
      (fun outcome left current =>
        match outcome with
        | .ok outcome =>
            Held id (Settled outcome.reservationId outcome.transactionId) left
              current
        | .error _ => Held id (fun _ => True) left current)
      execute record world := by
  have fails : ∀ (fact : PaymentRecord → Prop) (error : Thrown) left current,
      Held id fact left current → Held id (fun _ => True) left current :=
    fun _ _ _ _ held => held.weaken fun _ => trivial
  refine Async.safe_bind ((safe_reserve worker held).mono ?_)
  intro outcome left current reserved
  cases outcome with
  | error error => exact fails _ error _ _ reserved
  | ok reservationId =>
      refine (maintains_callGuard worker).followed reserved ?_ (fails _)
      intro outcome left current reserved
      cases outcome with
      | fail error =>
          exact safe_chargeFailed (lasting_reserved reservationId) worker
            reservationId error reserved (fails _)
      | ok transactionId httpStatus =>
          have lasting := lasting_charged reservationId transactionId
          refine Async.safe_bind ((safe_charged worker reservationId
            transactionId httpStatus reserved).mono ?_)
          intro outcome left current charged
          cases outcome with
          | error error => exact fails _ error _ _ charged
          | ok _ =>
              refine (maintains_settle lasting worker reservationId
                transactionId).followed charged ?_ (fails _)
              intro _ left current charged
              refine Async.safe_bind ((safe_settled worker reservationId
                transactionId charged).mono ?_)
              intro outcome left current settled
              cases outcome with
              | error error => exact fails _ error _ _ settled
              | ok _ => exact Async.safe_pure settled

end Execution

/-- The stored record, as it was read. -/
structure Loaded (id : PaymentId) (record : PaymentRecord) (_ : locals)
    (world : World) : Prop where
  keyed : record.id = id
  documented : Documented record
  stored : world.payments id = some (.parsed record)

theorem steady_loaded {record : PaymentRecord} :
    Steady id (Loaded id record : locals → World → Prop) where
  stored := by
    rintro vars world ⟨-, -, stored⟩ missing
    rw [stored] at missing
    cases missing
  kept := fun _ _ _ same loaded =>
    ⟨loaded.keyed, loaded.documented, same.trans loaded.stored⟩

/-- What a lookup finds; `expected` says that something is stored. -/
def Found (id : PaymentId) (expected : Prop) (vars : locals) :
    Option PaymentRecord → World → Prop
  | some record, world => Loaded id record vars world
  | none, _ => ¬ expected

section Processing

variable {vars : locals} (worker : task.submits = false)

include worker

theorem safe_storeGet {β : Type} (expected : Prop)
    (present : expected → Present id vars world) :
    Async.Safe ((discipline config id).contract pid task) pid
      (fun outcome left current => left = vars ∧
        Continues (Found id expected vars) (fun (_ : Except Thrown β) world =>
          expected → Present id vars world) outcome current)
      (PaymentStore.get id) vars world := by
  have unseen : Unseen ((discipline config id).contract pid task) id :=
    fun before after inv same =>
      keeps_of_same inv (congrArg View.stored same)
  have stable : Stable ((discipline config id).contract pid task)
      (fun world => expected → Present id vars world) :=
    fun first second rely inv known holds =>
      steady_present.stable worker vars first second rely inv (known holds)
  refine PaymentQueue.safe_storeGet (unseen.moves_load ?_
    fun _ _ present => present) stable present
  intro world inv present
  cases stored : world.payments id with
  | none => exact fun expects => present expects stored
  | some doc =>
      obtain ⟨record, rfl, keyed, documented⟩ := inv doc stored
      exact ⟨keyed, documented, stored⟩

private theorem safe_deadLetter {latest : PaymentRecord} (reason : String)
    (correlationId : Option String) (loaded : Loaded id latest vars world) :
    Async.Safe ((discipline config id).contract pid task) pid
      (fun _ left current => Present id left current)
      (deadLetter config latest id reason correlationId) vars world := by
  refine Async.safe_bind (Async.safe_dateNow fun now => ?_)
  have keyed : (transitionToDeadLetter latest reason now).id = id :=
    loaded.keyed
  have save : Async.Safe ((discipline config id).contract pid task) pid
      (fun _ left current => Present id left current)
      (PaymentStore.save (transitionToDeadLetter latest reason now)) vars
      world := by
    rw [PaymentStore.save, keyed]
    exact Async.safe_moves (moves_revise worker keyed
      (documented_deadLetter loaded.documented reason now)
      (fun _ loaded => ⟨latest, loaded.stored, revises_deadLetter ..⟩)
      (fun _ stored missing => by rw [stored] at missing; cases missing)
      (fun world loaded => steady_loaded.stored vars world loaded))
      (steady_loaded.stable worker vars) loaded fun _ _ reached => reached
  refine Async.safe_bind (save.mono ?_)
  intro outcome left current present
  cases outcome with
  | error error => exact present
  | ok _ =>
      exact Async.maintains_bind (maintains_finalize steady_present worker _ _
          _ _ _) (fun _ =>
        Async.maintains_bind (maintains_audit steady_present worker _ _ _)
          fun _ =>
        Async.maintains_bind (maintains_emit steady_present worker _) fun _ =>
        Async.maintains_bind (maintains_emit steady_present worker _) fun _ =>
        Async.maintains_bind Async.maintains_dateNow fun _ =>
        Async.maintains_bind (maintains_routeToDlq steady_present worker _)
          fun _ => Async.maintains_pure _) _ _ present

private theorem safe_finalizeDeadLetter {record : PaymentRecord}
    (same : record.id = id)
    (reason : String) (correlationId : Option String)
    (present : Present id vars world) :
    Async.Safe ((discipline config id).contract pid task) pid
      (fun _ left current => Present id left current)
      (finalizeDeadLetter config record reason correlationId) vars world := by
  subst same
  refine safe_continue (@safe_storeGet _ _ _ _ _ _ _ worker Unit True
    fun _ => present) ?_ fun _ _ present => present trivial
  intro found current read
  cases found with
  | none => exact (read trivial).elim
  | some latest =>
      simp only [Option.getD_some]
      split
      · exact Async.safe_pure (steady_loaded.stored vars current read)
      · exact safe_deadLetter worker reason correlationId read

end Processing

section Attempt

variable {record : PaymentRecord} (worker : task.submits = false)

include worker

private theorem maintains_jobCompleted (job : JobHandle) (startedAt : Time)
    (ok : Bool) :
    Async.Maintains ((discipline config id).contract pid task) pid
      (Held id fun _ => True) (jobCompleted job startedAt ok) :=
  Async.maintains_bind Async.maintains_get fun _ =>
    maintains_emit steady_held worker _

private theorem safe_settleAttempt (job : JobHandle) (startedAt : Time)
    (held : Held id (fun record => record.status = .processing) record world) :
    Async.Safe ((discipline config id).contract pid task) pid
      (fun _ left current => Held id (fun _ => True) left current)
      (settleAttempt config job startedAt) record world := by
  refine Async.safe_bind ((safe_execute worker held).mono ?_)
  intro outcome left current held
  cases outcome with
  | error error => exact held
  | ok outcome =>
      refine Async.safe_bind (Async.safe_dateNow fun completedAt => ?_)
      refine Async.safe_bind (Async.safe_modify ?_)
      refine Async.maintains_bind (maintains_saveRecord worker) (fun _ =>
        Async.maintains_bind (maintains_finalize steady_held worker _ _ _ _ _)
          fun _ =>
        Async.maintains_bind (maintains_audit steady_held worker _ _ _)
          fun _ =>
        Async.maintains_bind Async.maintains_get fun _ =>
        Async.maintains_bind (maintains_emit steady_held worker _) fun _ =>
        Async.maintains_bind (maintains_jobCompleted worker job startedAt true)
          fun _ => Async.maintains_pure _) _ _ ?_
      exact held.amend rfl (List.prefix_refl _) nofun
        (documented_completed held.documented held.fact completedAt) trivial

private theorem safe_failAttempt (job : JobHandle) (startedAt : Time)
    (error : Thrown)
    (held : Held id (fun _ => True) record world) :
    Async.Safe ((discipline config id).contract pid task) pid
      (fun _ left current => Present id left current)
      (failAttempt config job startedAt error) record world := by
  have fails : ∀ (error : Thrown) left current,
      Held id (fun _ => True) left current → Present id left current :=
    fun _ left current held => steady_held.stored left current held
  refine Async.safe_bind (Async.safe_get ?_)
  refine (maintains_jobCompleted worker job startedAt false).followed held ?_
    fails
  intro _ left current held'
  split
  · exact safe_finalizeDeadLetter worker held.keyed _ _ (fails error _ _ held')
  · refine (maintains_history lasting_true _ _ _).followed held' ?_ fails
    intro _ left current held
    refine (maintains_saveRecord worker).followed held ?_ fails
    intro _ left current held
    exact Async.safe_throw (fails error left current held)

private theorem safe_attempt (job : JobHandle) (startedAt : Time)
    (loaded : Loaded id record record world) :
    Async.Safe ((discipline config id).contract pid task) pid
      (fun _ left current => Present id left current)
      (attempt config job startedAt) record world := by
  have fails : ∀ (error : Thrown) left current,
      Held id (fun record => record.status = .processing) left current →
      Present id left current :=
    fun _ left current held => steady_held.stored left current held
  refine Async.safe_bind (Async.safe_modify ?_)
  have held : Held id (fun record => record.status = .processing)
      (transitionToProcessing record job.attemptsMade startedAt) world :=
    ⟨loaded.keyed, nofun, documented_processing loaded.documented _ _, rfl,
      record, loaded.stored, revises_processing ..⟩
  refine (maintains_saveRecord worker).followed held ?_ fails
  intro _ left current held
  refine (maintains_audit steady_held worker _ _ _).followed held ?_ fails
  intro _ left current held
  refine Async.maintains_get.followed held ?_ fails
  intro _ left current held
  refine (maintains_emit steady_held worker _).followed held ?_ fails
  intro _ left current held
  refine Async.safe_tryCatch ((safe_settleAttempt worker job startedAt
    held).mono ?_)
  intro outcome left current held
  cases outcome with
  | ok result => exact steady_held.stored left current held
  | error error => exact safe_failAttempt worker job startedAt error held

private theorem safe_lockedAttempt (job : JobHandle) (startedAt : Time)
    (loaded : Loaded id record record world) :
    Async.Safe ((discipline config id).contract pid task) pid
      (fun _ _ _ => True) (lockedAttempt config job startedAt) record
      world := by
  refine Async.safe_tryFinally ((safe_attempt worker job startedAt
    loaded).mono ?_)
  intro outcome left current present
  have released : Async.Maintains ((discipline config id).contract pid task)
      pid (Present id) (IdempotencyService.releaseExecutionLock
        job.data.paymentId : OnRecord Unit) :=
    maintains_command steady_present worker rfl
  refine (released left current present).mono ?_
  intro cleaned _ _ _
  cases cleaned with
  | ok _ => exact trivial
  | error _ => exact trivial

end Attempt

variable {vars : locals} (worker : task.submits = false)

include worker

private theorem safe_processJob {job : JobHandle}
    (same : job.data.paymentId = id) :
    Async.Safe ((discipline config id).contract pid task) pid
      (fun _ _ _ => True) (processJob config job : Async locals _) vars
      world := by
  subst same
  refine Async.safe_bind (Async.safe_dateNow fun startedAt => ?_)
  refine safe_continue (@safe_storeGet config _ _ _ _ _ _ worker Unit False
    nofun) ?_ fun _ _ _ => trivial
  intro found current read
  cases found with
  | none => exact Async.safe_throw trivial
  | some record =>
      have lasting : Steady job.data.paymentId
          (Loaded job.data.paymentId record : locals → World → Prop) :=
        steady_loaded
      refine (maintains_idempotencyGet lasting worker _).followed read ?_
        fun _ _ _ _ => trivial
      intro existing left current loaded
      split
      · exact Async.safe_pure trivial
      · refine (maintains_acquireExecutionLock steady_loaded worker _).followed
          loaded ?_ fun _ _ _ _ => trivial
        intro locked left current loaded
        split
        · exact Async.safe_pure trivial
        · exact Async.safe_scope (safe_lockedAttempt worker job startedAt
            ⟨loaded.keyed, loaded.documented, loaded.stored⟩)

private theorem safe_handleJobFailure {jobData : PaymentJobData}
    (same : jobData.paymentId = id) (error : Thrown) :
    Async.Safe ((discipline config id).contract pid task) pid
      (fun _ _ _ => True)
      (handleJobFailure config jobData error : Async locals Unit) vars
      world := by
  subst same
  refine safe_continue (@safe_storeGet config _ _ _ _ _ _ worker Unit False
    nofun) ?_ fun _ _ _ => trivial
  intro found current read
  cases found with
  | none => exact Async.safe_pure trivial
  | some record =>
      simp only
      split
      · exact Async.safe_pure trivial
      · refine Async.safe_bind ((safe_finalizeDeadLetter worker read.keyed _ _
          (steady_loaded.stored vars current read)).mono ?_)
        intro outcome left current _
        cases outcome with
        | ok _ => exact Async.safe_pure trivial
        | error _ => exact trivial

private theorem safe_code (same : task.paymentId = id) (time : Nat) :
    ((task.body config).start time).Safe
      ((discipline config id).contract pid task) pid (fun _ _ => True)
      world := by
  apply Async.Safe.start
  cases task with
  | submit input => cases worker
  | process job =>
      refine Async.safe_bind ((safe_processJob worker same).mono ?_)
      intro outcome left final _
      cases outcome with
      | ok result => exact Async.safe_pure trivial
      | error error => exact trivial
  | handleJobFailure jobData error =>
      refine Async.safe_bind ((safe_handleJobFailure worker same error).mono ?_)
      intro outcome left final _
      cases outcome with
      | ok result => exact Async.safe_pure trivial
      | error error => exact trivial

end Worker

section Submit

variable {id : PaymentId} {pid : Nat} {input : CreatePaymentInput}
  {stage : SubmitStage}

/-- Until its save a submission knows that nothing is stored. -/
def submitKnow (id : PaymentId) : SubmitStage → World → Prop
  | .saved, _ | .queued, _ | .unqueued, _ => True
  | _, world => world.payments id = none

private theorem submitKnow_of_same {before after : World}
    (same : after.payments id = before.payments id)
    (known : submitKnow id stage before) : submitKnow id stage after := by
  cases stage with
  | saved | queued | unqueued => exact trivial
  | _ => exact same.trans known

/-- A command that does not write payments. -/
theorem submit_moves {command : Command}
    {result : Except Thrown command.Result → World → Prop}
    (other : command.writes .payments = false)
    (reached : ∀ outcome after, submitKnow id stage after →
      result outcome after) :
    Moves ((discipline config id).contract pid (.submit input)) pid command
      (submitKnow id stage) result := by
  intro before outcome after known execution
  have same : after.payments id = before.payments id :=
    congrFun (executes_agrees execution other) id
  exact ⟨keeps_of_same execution.invariant same,
    reached outcome after (submitKnow_of_same same known)⟩

private theorem submitOutline (pid : Nat) (input : CreatePaymentInput) :
    SubmitOutline ((discipline config input.id).contract pid (.submit input))
      pid input (submitKnow input.id) (fun _ _ => True) where
  stable := by
    intro stage _ first second rely _ known
    cases stage with
    | saved | queued | unqueued => exact trivial
    | _ => exact rely.submission rfl known
  claim := fun _ => submit_moves rfl fun outcome after missing => by
    match outcome with
    | .error error => exact trivial
    | .ok true => exact missing
    | .ok false => exact missing
  readClaim := submit_moves rfl fun outcome after missing =>
    SubmitOutline.continues_reads missing missing (fun _ => trivial) outcome
  lookup := submit_moves rfl fun outcome after missing =>
    SubmitOutline.continues_finds missing missing (fun _ => trivial) outcome
  recover := submit_moves rfl fun outcome after missing => by
    cases outcome with
    | error error => exact trivial
    | ok _ => exact missing
  replay := submit_moves rfl fun outcome after _ =>
    SubmitOutline.continues_replays (fun _ => trivial) (fun _ => trivial)
      outcome
  conflict := fun _ _ _ _ => trivial
  audit := fun event => submit_moves rfl fun outcome after missing => by
    cases outcome with
    | error error => exact trivial
    | ok _ => exact missing
  save := by
    intro now
    refine moves_storage (fun before inv => keeps_of_same inv rfl) ?_
      (fun _ _ _ _ => trivial)
    intro before _ missing inv _
    have absent : before.payments input.id = none := missing
    refine ⟨⟨?_, ?_, ?_, nofun⟩, trivial, fun _ => trivial⟩
    · intro doc found
      simp only [StorageCommand.effect, Function.update_self,
        Option.some.injEq] at found
      subst found
      exact ⟨_, rfl, rfl, documented_created _ now⟩
    · intro record found
      rw [absent] at found
      cases found
    · intro _ stored
      exact (stored absent).elim
  emit := fun event => submit_moves rfl fun outcome after _ => by
    cases outcome <;> exact trivial
  ready := submit_moves rfl fun outcome after _ => by
    cases outcome <;> exact trivial
  add := fun now delay => submit_moves rfl fun outcome after _ => by
    cases outcome <;> exact trivial
  release := submit_moves rfl fun outcome after _ => by
    cases outcome with
    | error error => exact trivial
    | ok _ => exact fun _ => trivial
  created := fun _ _ _ => trivial

end Submit

private theorem same_environment {world after : World} {id : PaymentId}
    {event : Event} (changed : environment event world = some after) :
    after.payments id = world.payments id := by
  rcases environment_cases changed with
    ⟨elapsed, -, rfl⟩ | ⟨queue, jobId, next, rfl⟩
  · rfl
  · rfl

theorem sound (id : PaymentId) :
    (discipline config id).Sound (fun state label =>
      Cache.Turns state ∧ Cache.oneByOne id state label = true) where
  relyRefl := fun _ task _ => .refl task _
  relyTrans := fun _ _ _ _ _ left right => left.trans right
  spawns := by
    rintro state task - ⟨-, admitted⟩
    obtain ⟨same, worker, -⟩ := Cache.oneByOne_spawn admitted
    exact safe_code worker same state.world.now
  permits := fun _ _ _ _ _ _ _ _ _ => trivial
  interferes := by
    rintro state pid choice task program other task' program' next - ⟨turns, -⟩
      - found different found' - guarantee
    constructor
    · intro submits missing
      refine guarantee.worker ?_ missing
      by_contra submits'
      exact different (turns.single other pid task' task
        (Config.taskOf_of_running found') (Config.taskOf_of_running found)
        submits (eq_true_of_ne_false submits'))
    · intro worker stored
      refine guarantee.submission ?_ stored
      by_contra worker'
      exact different (turns.sequential other pid task' task program' program
        found' found worker (eq_false_of_ne_true worker'))
  environments := by
    intro state event after holds _ changed
    have same : after.payments id = state.world.payments id :=
      same_environment changed
    exact ⟨holds.invariant.of_same same, fun _ _ _ _ =>
      ⟨fun _ missing => same.trans missing, fun _ _ => same⟩,
      fun _ _ _ _ => trivial⟩

/-- The stored record of a lifecycle is only ever extended, and documents in
its history whatever it says. -/
theorem trail_append_only (config : AppConfig) (input : CreatePaymentInput)
    (world : World) (vacant : world.payments input.id = none)
    (earlier later : PaymentConfig config)
    (reached : (paymentSystem config).Reaches
      (fun state label => Cache.oneByOne input.id state label = true)
      (submitted input world) earlier)
    (continued : (paymentSystem config).Reaches
      (fun state label => Cache.oneByOne input.id state label = true)
      earlier later)
    (record : PaymentRecord)
    (stored : earlier.world.payments input.id = some (.parsed record)) :
    ∃ record', later.world.payments input.id = some (.parsed record') ∧
      Revises record record' ∧ Documented record' := by
  have inv : Inv input.id world := by
    intro doc found
    rw [vacant] at found
    cases found
  have start : (discipline config input.id).Holds (submitted input world) :=
    (sound input.id).holds_singleton (.submit input) inv (fun _ => trivial)
      ((submitOutline 0 input).safe_code vacant (fun _ _ ended => ended) _)
  have turns : ∀ (state next : PaymentConfig config) label,
      Cache.Turns state → Cache.oneByOne input.id state label = true →
      (paymentSystem config).step label state = some next →
      Cache.Turns next :=
    fun _ _ _ turns admitted taken => Cache.turns_step turns admitted taken
  obtain ⟨turning, reached⟩ := reached.strengthen
    (Cache.turns_submitted input world) fun _ _ _ => turns _ _ _
  obtain ⟨-, continued⟩ := continued.strengthen turning fun _ _ _ =>
    turns _ _ _
  have holds := (sound input.id).reaches start reached
  obtain ⟨record', found, revised⟩ := (sound input.id).onward holds
    (Onward.refl input.id) (fun left right => left.trans right)
    (fun _ _ _ _ _ guarantee => guarantee.onward)
    (fun _ _ _ changed => onward_of_same (same_environment changed))
    continued record stored
  obtain ⟨_, same, -, documented⟩ :=
    ((sound input.id).reaches holds continued).invariant _ found
  obtain rfl := Stored.parsed.inj same
  exact ⟨record', found, revised, documented⟩

/-- The first attempt cannot finalize the payment, and the second one charges
it again. -/
def chargedAgain : List (PaymentLabel .default) :=
  [.spawn (.process (delivery 0))] ++ runs 1 11 ++ [accepts 1 "tx1"] ++
    runs 1 8 ++ [.run 1 (.refused "timeout")] ++ runs 1 3 ++
    [.spawn (.process (delivery 1))] ++ runs 2 11 ++ [accepts 2 "tx2"] ++
    runs 2 8

/-- The stored record passes the test. -/
def storedAs (test : PaymentRecord → Bool) (state : PaymentConfig .default) :
    Bool :=
  match state.world.payments "p1" with
  | some (.parsed record) => test record
  | _ => false

private theorem exists_of_storedAs {test : PaymentRecord → Bool}
    {state : PaymentConfig .default} (passes : storedAs test state = true) :
    ∃ record, state.world.payments "p1" = some (.parsed record) ∧
      test record = true := by
  unfold storedAs at passes
  split at passes
  · exact ⟨_, ‹_›, passes⟩
  · cases passes

/-- The record while the payment waits, and after both attempts. -/
theorem trail_append_only_again :
    ∃ (earlier later : PaymentConfig .default)
      (record record' : PaymentRecord),
      earlier.world.payments "p1" = some (.parsed record) ∧
        record.status = .queued ∧
        later.world.payments "p1" = some (.parsed record') ∧
        record'.history.length = 9 ∧ Revises record record' ∧
        Documented record' := by
  obtain ⟨earlier, later, reached, continued, checked⟩ := exists_of_replays
    (paymentSystem .default).step (Cache.oneByOne "p1") (Cache.oneByOne "p1")
    (runs 0 6) chargedAgain (submitted (submission "stripe" 0) (World.empty 0))
    id (fun earlier later =>
      storedAs (fun record => decide (record.status = .queued)) earlier &&
        storedAs (fun record => decide (record.history.length = 9)) later)
    (by decide +kernel)
  obtain ⟨waiting, grown⟩ := Bool.and_eq_true_iff.mp checked
  obtain ⟨record, stored, queued⟩ := exists_of_storedAs waiting
  obtain ⟨last, stored', length⟩ := exists_of_storedAs grown
  obtain ⟨record', found, revised, documented⟩ := trail_append_only .default
    (submission "stripe" 0) (World.empty 0) rfl earlier later reached
    continued record stored
  obtain rfl : last = record' :=
    Stored.parsed.inj (Option.some.inj (stored'.symm.trans found))
  exact ⟨earlier, later, record, last, stored, of_decide_eq_true queued,
    found, of_decide_eq_true length, revised, documented⟩

end PaymentQueue.Trail
