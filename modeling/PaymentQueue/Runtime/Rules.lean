import PaymentQueue.Runtime.View

/-!
# Proof rules for the payment machine

The rules of `Await.Logic` at the commands of this system: how each command
can turn out, and one rule for each function of the stores.  Proofs about
larger functions cite these rules and never unfold the stores.
-/

namespace PaymentQueue

open Await

variable {config : AppConfig} {contract : Contract (machine config)}
  {pid : Nat} {locals : Type} {vars : locals} {world : World}

/-- A storage command succeeds, throws after its effect, or throws without
one. -/
theorem executes_storage {command : StorageCommand} {before after : World}
    {outcome : Except Thrown command.Result}
    (execution : Executes contract pid (.storage command) before outcome
      after) :
    (contract.allowed (.storage command) .succeed before ∧
      outcome = .ok (command.effect pid before).1 ∧
      after = (command.effect pid before).2) ∨
    ∃ message, outcome = .error (.error message) ∧
      ((contract.allowed (.storage command) (.lost message) before ∧
          after = (command.effect pid before).2) ∨
        (contract.allowed (.storage command) (.refused message) before ∧
          after = before)) := by
  obtain ⟨-, choice, allowed, executed⟩ := execution
  cases choice with
  | succeed =>
      cases executed
      exact .inl ⟨allowed, rfl, rfl⟩
  | lost message =>
      cases executed
      exact .inr ⟨message, rfl, .inl ⟨allowed, rfl⟩⟩
  | refused message =>
      cases executed
      exact .inr ⟨message, rfl, .inr ⟨allowed, rfl⟩⟩
  | guard response => cases executed
  | refund result => cases executed

theorem executes_guardCall {payment : PaymentRecord}
    {correlationId : Option String} {before after : World}
    {outcome : Except Thrown CallOutcome}
    (execution : Executes contract pid (.guardCall payment correlationId)
      before outcome after) :
    ∃ response,
      contract.allowed (.guardCall payment correlationId) (.guard response)
        before ∧
      outcome = .ok (callOutcome config.tokenWaitMs payment.gatewayId
        response) ∧
      after = { before with
        gateway := before.gateway ++ response.events payment.id } := by
  obtain ⟨-, choice, allowed, executed⟩ := execution
  cases choice with
  | guard response =>
      cases executed
      exact ⟨response, allowed, rfl, rfl⟩
  | succeed => cases executed
  | lost message => cases executed
  | refused message => cases executed
  | refund result => cases executed

theorem executes_guardRefund {gatewayId transactionId : String}
    {before after : World} {outcome : Except Thrown RefundOutcome}
    (execution : Executes contract pid (.guardRefund gatewayId transactionId)
      before outcome after) :
    ∃ result,
      contract.allowed (.guardRefund gatewayId transactionId)
        (.refund result) before ∧
      outcome = .ok (refundOutcome gatewayId result) ∧
      after = { before with
        gateway := before.gateway ++
          [.refund gatewayId transactionId result] } := by
  obtain ⟨-, choice, allowed, executed⟩ := execution
  cases choice with
  | refund result =>
      cases executed
      exact ⟨result, allowed, rfl, rfl⟩
  | succeed => cases executed
  | lost message => cases executed
  | refused message => cases executed
  | guard response => cases executed

/-- The guard answers every call; it never throws. -/
theorem guardCall_returns {payment : PaymentRecord}
    {correlationId : Option String} {before after : World} {error : Thrown} :
    ¬ Executes contract pid (.guardCall payment correlationId) before
      (.error error) after := by
  intro execution
  obtain ⟨_, -, impossible, -⟩ := executes_guardCall execution
  cases impossible

theorem guardRefund_returns {gatewayId transactionId : String}
    {before after : World} {error : Thrown} :
    ¬ Executes contract pid (.guardRefund gatewayId transactionId) before
      (.error error) after := by
  intro execution
  obtain ⟨_, -, impossible, -⟩ := executes_guardRefund execution
  cases impossible

theorem executes_emit {event : AppEvent} {before after : World}
    {outcome : Except Thrown Unit}
    (execution : Executes contract pid (.emit event) before outcome after) :
    contract.allowed (.emit event) .succeed before ∧ outcome = .ok () ∧
      after = { before with events := before.events ++ [event] } := by
  obtain ⟨-, choice, allowed, executed⟩ := execution
  cases choice with
  | succeed =>
      cases executed
      exact ⟨allowed, rfl, rfl⟩
  | lost message => cases executed
  | refused message => cases executed
  | guard response => cases executed
  | refund result => cases executed

/-- Only storage commands throw, and they throw plain errors. -/
theorem executes_error {command : Command} {before after : World}
    {error : Thrown}
    (execution : Executes contract pid command before (.error error) after) :
    ∃ message, error = .error message := by
  cases command with
  | storage command =>
      rcases executes_storage execution with
        ⟨-, succeeded, -⟩ | ⟨message, thrown, -⟩
      · cases succeeded
      · exact ⟨message, Except.error.inj thrown⟩
  | guardCall payment correlationId =>
      obtain ⟨response, -, answered, -⟩ := executes_guardCall execution
      cases answered
  | guardRefund gatewayId transactionId =>
      obtain ⟨result, -, answered, -⟩ := executes_guardRefund execution
      cases answered
  | emit event =>
      obtain ⟨-, emitted, -⟩ := executes_emit execution
      cases emitted

/-- In the runs considered the command does not throw. -/
def Faultless (contract : Contract (machine config)) (command : Command) :
    Prop :=
  ∀ choice before, contract.allowed command choice before →
    choice.faultless = true

theorem Faultless.executes {command : StorageCommand}
    (faultless : Faultless contract (.storage command)) {before after : World}
    {outcome : Except Thrown command.Result}
    (execution : Executes contract pid (.storage command) before outcome
      after) :
    contract.allowed (.storage command) .succeed before ∧
      outcome = .ok (command.effect pid before).1 ∧
      after = (command.effect pid before).2 := by
  rcases executes_storage execution with succeeded | ⟨message, -, thrown⟩
  · exact succeeded
  · rcases thrown with ⟨allowed, -⟩ | ⟨allowed, -⟩
    · exact Bool.noConfusion (faultless _ _ allowed)
    · exact Bool.noConfusion (faultless _ _ allowed)

theorem Faultless.succeeds {command : Command}
    (faultless : Faultless contract command) {before after : World}
    {outcome : Except Thrown command.Result}
    (execution : Executes contract pid command before outcome after) :
    ∃ value, outcome = .ok value := by
  cases command with
  | storage command =>
      obtain ⟨-, succeeded, -⟩ := faultless.executes execution
      exact ⟨_, succeeded⟩
  | guardCall payment correlationId =>
      obtain ⟨response, -, answered, -⟩ := executes_guardCall execution
      exact ⟨_, answered⟩
  | guardRefund gatewayId transactionId =>
      obtain ⟨result, -, answered, -⟩ := executes_guardRefund execution
      exact ⟨_, answered⟩
  | emit event =>
      obtain ⟨-, emitted, -⟩ := executes_emit execution
      exact ⟨_, emitted⟩

section Moves

variable {know : World → Prop}

/-- The obligation of a storage command that may throw, with its effect or
without. -/
theorem moves_storage {command : StorageCommand}
    {result : Except Thrown command.Result → World → Prop}
    (unmoved : ∀ before, contract.invariant before →
      Keeps contract before before)
    (step : ∀ before choice, know before → contract.invariant before →
      contract.allowed (.storage command) choice before →
      Keeps contract before (command.effect pid before).2 ∧
        result (.ok (command.effect pid before).1)
          (command.effect pid before).2 ∧
        ∀ message, result (.error (.error message))
          (command.effect pid before).2)
    (refused : ∀ before message, know before → contract.invariant before →
      result (.error (.error message)) before) :
    Moves contract pid (.storage command) know result := by
  intro before outcome after known execution
  rcases executes_storage execution with
    ⟨allowed, rfl, rfl⟩ | ⟨message, rfl, ⟨allowed, rfl⟩ | ⟨-, rfl⟩⟩
  · obtain ⟨keeps, reached, -⟩ :=
      step before _ known execution.invariant allowed
    exact ⟨keeps, reached⟩
  · obtain ⟨keeps, -, reached⟩ :=
      step before _ known execution.invariant allowed
    exact ⟨keeps, reached message⟩
  · exact ⟨unmoved _ execution.invariant,
      refused _ message known execution.invariant⟩

/-- A storage command may be refused; otherwise it has its effect. -/
theorem keeps_storage {command : StorageCommand} {before after : World}
    {outcome : Except Thrown command.Result}
    (execution : Executes contract pid (.storage command) before outcome
      after) (unmoved : Keeps contract before before)
    (effective : Keeps contract before (command.effect pid before).2) :
    Keeps contract before after := by
  rcases executes_storage execution with
    ⟨-, -, rfl⟩ | ⟨message, -, ⟨-, rfl⟩ | ⟨-, rfl⟩⟩
  · exact effective
  · exact effective
  · exact unmoved

/-- The obligation of a command that does not throw. -/
theorem Faultless.moves {command : Command}
    (faultless : Faultless contract command)
    {result : Except Thrown command.Result → World → Prop}
    (step : ∀ before value after, know before →
      Executes contract pid command before (.ok value) after →
      Keeps contract before after ∧ result (.ok value) after) :
    Moves contract pid command know result := by
  intro before outcome after known execution
  obtain ⟨value, rfl⟩ := faultless.succeeds execution
  exact step before value after known execution

theorem Faultless.moves_storage {command : StorageCommand}
    (faultless : Faultless contract (.storage command))
    {result : Except Thrown command.Result → World → Prop}
    (step : ∀ before, know before → contract.invariant before →
      contract.allowed (.storage command) .succeed before →
      Keeps contract before (command.effect pid before).2 ∧
        result (.ok (command.effect pid before).1)
          (command.effect pid before).2) :
    Moves contract pid (.storage command) know result := by
  intro before outcome after known execution
  obtain ⟨allowed, rfl, rfl⟩ := faultless.executes execution
  exact step before known execution.invariant allowed

theorem moves_hgetPayment {id : PaymentId}
    {result : Except Thrown (Option (Stored PaymentRecord)) → World → Prop}
    (unmoved : ∀ before, contract.invariant before →
      Keeps contract before before)
    (reached : ∀ world, contract.invariant world → know world →
      result (.ok (world.payments id)) world)
    (failed : ∀ world message, know world →
      result (.error (.error message)) world) :
    Moves contract pid (.storage (.hgetPayment id)) know result := by
  refine moves_storage unmoved ?_
    (fun before message known _ => failed before message known)
  intro before choice known inv _
  exact ⟨unmoved before inv, reached before inv known,
    fun message => failed before message known⟩

theorem moves_getIdempotency {id : PaymentId}
    {result : Except Thrown (Option (Stored IdempotencyRecord)) → World →
      Prop}
    (unmoved : ∀ before, contract.invariant before →
      Keeps contract before before)
    (reached : ∀ world, contract.invariant world → know world →
      result (.ok ((world.idempotency id).map Expiring.value)) world)
    (failed : ∀ world message, know world →
      result (.error (.error message)) world) :
    Moves contract pid (.storage (.getIdempotency id)) know result := by
  refine moves_storage unmoved ?_
    (fun before message known _ => failed before message known)
  intro before choice known inv _
  exact ⟨unmoved before inv, reached before inv known,
    fun message => failed before message known⟩

end Moves

/-- A step that is not visible in the view of a payment is owed to nobody. -/
def Unseen (contract : Contract (machine config)) (id : PaymentId) : Prop :=
  ∀ before after, contract.invariant before →
    after.view id = before.view id → Keeps contract before after

/-- It suffices that invariant and guarantee are about the view. -/
theorem unseen_of_view {id : PaymentId} (invariant : View → Prop)
    (guarantee : View → View → Prop)
    (invariants : ∀ world,
      contract.invariant world = invariant (world.view id))
    (guarantees : ∀ before after, contract.guarantee before after =
      guarantee (before.view id) (after.view id))
    (refl : ∀ view, guarantee view view) : Unseen contract id := by
  intro before after holds same
  constructor
  · rw [invariants, same, ← invariants]
    exact holds
  · rw [guarantees, same]
    exact refl _

namespace Unseen

variable {id : PaymentId} (unseen : Unseen contract id)

include unseen

/-- Commands that are not visible keep every fact about the view. -/
theorem moves {command : Command} (fact : View → Prop)
    {result : Except Thrown command.Result → World → Prop}
    (invisible : command.invisible = true)
    (reached : ∀ outcome after, fact (after.view id) →
      result outcome after) :
    Moves contract pid command (fun world => fact (world.view id)) result := by
  intro before outcome after known execution
  have same : after.view id = before.view id :=
    view_of_invisible execution invisible
  refine ⟨unseen before after execution.invariant same,
    reached outcome after ?_⟩
  rw [same]
  exact known

theorem moves_faultless {command : Command}
    (faultless : Faultless contract command) (fact : View → Prop)
    {result : Except Thrown command.Result → World → Prop}
    (invisible : command.invisible = true)
    (reached : ∀ value after, fact (after.view id) →
      result (.ok value) after) :
    Moves contract pid command (fun world => fact (world.view id)) result := by
  apply faultless.moves
  intro before value after known execution
  have same : after.view id = before.view id :=
    view_of_invisible execution invisible
  refine ⟨unseen before after execution.invariant same,
    reached value after ?_⟩
  rw [same]
  exact known

/-- A read of the stored record. -/
theorem moves_load {fact : World → Prop}
    {result : Except Thrown (Option (Stored PaymentRecord)) → World → Prop}
    (reached : ∀ world, contract.invariant world → fact world →
      result (.ok (world.payments id)) world)
    (failed : ∀ world message, fact world →
      result (.error (.error message)) world) :
    Moves contract pid (.storage (.hgetPayment id)) fact result :=
  moves_hgetPayment (fun before inv => unseen before before inv rfl) reached
    failed

/-- A read of the idempotency record. -/
theorem moves_claim {fact : World → Prop}
    {result : Except Thrown (Option (Stored IdempotencyRecord)) → World →
      Prop}
    (reached : ∀ world, contract.invariant world → fact world →
      result (.ok ((world.idempotency id).map Expiring.value)) world)
    (failed : ∀ world message, fact world →
      result (.error (.error message)) world) :
    Moves contract pid (.storage (.getIdempotency id)) fact result :=
  moves_getIdempotency (fun before inv => unseen before before inv rfl)
    reached failed

end Unseen

/-- Either the value continues with a fact, or the error ends the call. -/
def Continues {α β : Type} (next : α → World → Prop)
    (ends : Except Thrown β → World → Prop) :
    Except Thrown α → World → Prop
  | .ok value, world => next value world
  | .error error, world => ends (.error error) world

variable {α β γ : Type} {know : World → Prop} {next : α → World → Prop}
  {ends : Except Thrown β → World → Prop}

/-- A statement of a function body that leaves the locals alone, followed by
the rest of the body. -/
theorem safe_continue {action : Async locals α}
    {rest : α → Async locals γ}
    {post : Except Thrown γ → locals → World → Prop}
    (first : Async.Safe contract pid (fun outcome left current =>
      left = vars ∧ Continues next ends outcome current)
      action vars world)
    (continues : ∀ value current, next value current →
      Async.Safe contract pid post (rest value) vars current)
    (fails : ∀ error current, ends (.error error) current →
      post (.error error) vars current) :
    Async.Safe contract pid post (action >>= rest) vars world := by
  refine Async.safe_bind (first.mono ?_)
  intro outcome left current reached
  obtain ⟨rfl, reached⟩ := reached
  cases outcome with
  | ok value => exact continues value current reached
  | error error => exact fails error current reached

theorem safe_command {command : Command}
    {result : Except Thrown command.Result → World → Prop}
    (moves : Moves contract pid command know result)
    (stable : Stable contract know) (known : know world) :
    Async.Safe contract pid (fun outcome left current =>
      left = vars ∧ result outcome current)
      (awaitCommand command) vars world :=
  Async.safe_moves moves stable known fun _ _ reached => ⟨rfl, reached⟩

theorem safe_storeGet {id : PaymentId}
    {next : Option PaymentRecord → World → Prop}
    (moves : Moves contract pid (.storage (.hgetPayment id)) know
      (Continues (fun doc => next (doc.bind Stored.parse?)) ends))
    (stable : Stable contract know) (known : know world) :
    Async.Safe contract pid (fun outcome left current =>
      left = vars ∧ Continues next ends outcome current)
      (PaymentStore.get id) vars world := by
  apply safe_continue (safe_command moves stable known)
  · intro doc current reached
    exact Async.safe_pure ⟨rfl, reached⟩
  · intro error current reached
    exact ⟨rfl, reached⟩

theorem safe_idempotencyGet {id : PaymentId}
    {next : Option IdempotencyRecord → World → Prop}
    (moves : Moves contract pid (.storage (.getIdempotency id)) know
      (Continues (fun raw => next (raw.bind Stored.parse?)) ends))
    (stable : Stable contract know) (known : know world) :
    Async.Safe contract pid (fun outcome left current =>
      left = vars ∧ Continues next ends outcome current)
      (IdempotencyService.get id) vars world := by
  apply safe_continue (safe_command moves stable known)
  · intro raw current reached
    exact Async.safe_pure ⟨rfl, reached⟩
  · intro error current reached
    exact ⟨rfl, reached⟩

/-- A read of the stored payment whose value does not matter. -/
theorem safe_storeRead {id : PaymentId} {fact : World → Prop}
    (moves : Moves contract pid (.storage (.hgetPayment id)) know
      (Continues (fun _ => fact) ends))
    (stable : Stable contract know) (known : know world) :
    Async.Safe contract pid (fun outcome left current =>
      left = vars ∧ Continues (fun _ => fact) ends outcome current)
      (PaymentStore.get id) vars world :=
  @safe_storeGet config contract pid locals vars world β know ends
    id (fun _ => fact) moves stable known

/-- A read of the idempotency record whose value does not matter. -/
theorem safe_idempotencyRead {id : PaymentId} {fact : World → Prop}
    (moves : Moves contract pid (.storage (.getIdempotency id)) know
      (Continues (fun _ => fact) ends))
    (stable : Stable contract know) (known : know world) :
    Async.Safe contract pid (fun outcome left current =>
      left = vars ∧ Continues (fun _ => fact) ends outcome current)
      (IdempotencyService.get id) vars world :=
  @safe_idempotencyGet config contract pid locals vars world β know ends
    id (fun _ => fact) moves stable known

theorem safe_audit {id : PaymentId} {type : AuditEventType} {detail : Detail}
    {result : Except Thrown Unit → World → Prop}
    (moves : ∀ event, Moves contract pid (.storage (.rpushAudit id event))
      know result)
    (stable : Stable contract know) (known : know world) :
    Async.Safe contract pid (fun outcome left current =>
      left = vars ∧ result outcome current)
      (AuditLogService.record id type detail) vars world :=
  Async.safe_bind (Async.safe_dateNow fun _ =>
    safe_command (moves _) stable known)

theorem safe_emit {event : Time → AppEvent}
    {result : Except Thrown Unit → World → Prop}
    (moves : ∀ event, Moves contract pid (.emit event) know result)
    (stable : Stable contract know) (known : know world) :
    Async.Safe contract pid (fun outcome left current =>
      left = vars ∧ result outcome current)
      (EventBus.emit event) vars world :=
  Async.safe_bind (Async.safe_dateNow fun _ =>
    safe_command (moves _) stable known)

end PaymentQueue
