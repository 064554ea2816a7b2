import PaymentQueue.Runtime.Frames

/-!
# The view of one payment

What the world holds about one payment id: its record, its idempotency key,
its execution lock, and the gateway and settlement logs.  The safety proofs
state their invariants on views; the lemmas below say how each command changes
one.
-/

namespace PaymentQueue

open Await

structure View where
  stored : Option (Stored PaymentRecord)
  key : Option (Expiring (Stored IdempotencyRecord))
  lock : Option (Expiring Unit)
  log : List GatewayEvent
  ledger : List SettlementEntry

def World.view (world : World) (id : PaymentId) : View :=
  ⟨world.payments id, world.idempotency id, world.locks id, world.gateway,
    world.settlements⟩

namespace View

/-- The record that `PaymentStore.get` finds. -/
def payment (view : View) : Option PaymentRecord :=
  view.stored.bind Stored.parse?

/-- The record that `IdempotencyService.get` finds. -/
def claim (view : View) : Option IdempotencyRecord :=
  view.key.bind fun key => key.value.parse?

def finalized (view : View) : Bool :=
  readsFinal view.claim

/-- The stored record is completed or dead-lettered. -/
def terminal (view : View) : Bool :=
  view.payment.any fun record => record.status.terminal

/-- The process that wrote the execution lock. -/
def owner (view : View) : Option Nat :=
  view.lock.map Expiring.writer

end View

/-- What a reader finds under the idempotency key. -/
theorem claim_read (world : World) (id : PaymentId) :
    ((world.idempotency id).map Expiring.value).bind Stored.parse? =
      (world.view id).claim := by
  rw [View.claim, Option.bind_map]
  rfl

/-- A command that does not touch what a view shows. -/
def Command.invisible (command : Command) : Bool :=
  !(command.writes .payments || command.writes .idempotency ||
    command.writes .locks || command.writes .gateway ||
    command.writes .settlements)

variable {id : PaymentId} {pid : Nat} {world : World}

section Writes

variable {config : AppConfig} {contract : Contract (machine config)}
  {command : Command} {before after : World}
  {outcome : Except Thrown command.Result}

theorem view_stored_of_writes
    (execution : Executes contract pid command before outcome after)
    (payments : command.writes .payments = false) :
    (after.view id).stored = (before.view id).stored :=
  congrFun (executes_agrees execution payments) id

theorem view_key_of_writes
    (execution : Executes contract pid command before outcome after)
    (idempotency : command.writes .idempotency = false) :
    (after.view id).key = (before.view id).key :=
  congrFun (executes_agrees execution idempotency) id

theorem view_lock_of_writes
    (execution : Executes contract pid command before outcome after)
    (locks : command.writes .locks = false) :
    (after.view id).lock = (before.view id).lock :=
  congrFun (executes_agrees execution locks) id

end Writes

theorem view_of_invisible {config : AppConfig}
    {contract : Contract (machine config)} {command : Command}
    {before after : World} {outcome : Except Thrown command.Result}
    (execution : Executes contract pid command before outcome after)
    (invisible : command.invisible = true) :
    after.view id = before.view id := by
  simp only [Command.invisible, Bool.not_eq_true', Bool.or_eq_false_iff]
    at invisible
  obtain ⟨⟨⟨⟨payments, idempotency⟩, locks⟩, gateway⟩, settlements⟩ := invisible
  have samePayments : after.payments = before.payments :=
    executes_agrees execution payments
  have sameIdempotency : after.idempotency = before.idempotency :=
    executes_agrees execution idempotency
  have sameLocks : after.locks = before.locks :=
    executes_agrees execution locks
  have sameGateway : after.gateway = before.gateway :=
    executes_agrees execution gateway
  have sameSettlements : after.settlements = before.settlements :=
    executes_agrees execution settlements
  simp only [World.view, samePayments, sameIdempotency, sameLocks,
    sameGateway, sameSettlements]

section Effects

open StorageCommand

@[simp] theorem view_hsetPayment (record : PaymentRecord) :
    ((hsetPayment id record).effect pid world).2.view id =
      { world.view id with stored := some (.parsed record) } := by
  simp [effect, World.view]

@[simp] theorem view_setIdempotency (record : IdempotencyRecord)
    (ttlSeconds : Nat) :
    ((setIdempotency id record ttlSeconds).effect pid world).2.view id =
      { world.view id with
        key := some ⟨.parsed record, world.now + ttlSeconds * 1000, pid⟩ } := by
  simp [effect, World.view]

@[simp] theorem view_delIdempotency :
    ((delIdempotency id).effect pid world).2.view id =
      { world.view id with key := none } := by
  simp [effect, World.view]

@[simp] theorem view_delLock :
    ((delLock id).effect pid world).2.view id =
      { world.view id with lock := none } := by
  simp [effect, World.view]

@[simp] theorem view_rpushSettlement (entry : SettlementEntry) :
    ((rpushSettlement entry).effect pid world).2.view id =
      { world.view id with ledger := world.settlements ++ [entry] } := by
  simp [effect, World.view]

/-- `SET NX` writes a missing key and leaves an existing one. -/
theorem setNxIdempotency_cases (id : PaymentId) (pid : Nat) (world : World)
    (record : IdempotencyRecord) (ttlSeconds : Nat) :
    ((world.view id).key ≠ none ∧
      (setNxIdempotency id record ttlSeconds).effect pid world =
        (false, world)) ∨
    ((world.view id).key = none ∧
      ((setNxIdempotency id record ttlSeconds).effect pid world).1 = true ∧
      ((setNxIdempotency id record ttlSeconds).effect pid world).2.view id =
        { world.view id with
          key := some ⟨.parsed record, world.now + ttlSeconds * 1000,
            pid⟩ }) := by
  cases stored : world.idempotency id with
  | some key => exact .inl (by simp [World.view, effect, stored])
  | none => exact .inr (by simp [World.view, effect, stored])

theorem setNxLock_cases (id : PaymentId) (pid : Nat) (world : World)
    (ttlSeconds : Nat) :
    ((world.view id).lock ≠ none ∧
      (setNxLock id ttlSeconds).effect pid world = (false, world)) ∨
    ((world.view id).lock = none ∧
      ((setNxLock id ttlSeconds).effect pid world).1 = true ∧
      ((setNxLock id ttlSeconds).effect pid world).2.view id =
        { world.view id with
          lock := some ⟨(), world.now + ttlSeconds * 1000, pid⟩ }) := by
  cases stored : world.locks id with
  | some key => exact .inl (by simp [World.view, effect, stored])
  | none => exact .inr (by simp [World.view, effect, stored])

end Effects

variable (world : World) (id : PaymentId) (elapsed : Nat)

@[simp] theorem view_tick_stored :
    ((world.tick elapsed).view id).stored = (world.view id).stored := rfl

@[simp] theorem view_tick_payment :
    ((world.tick elapsed).view id).payment = (world.view id).payment := rfl

/-- The key is the same, or its time is over. -/
theorem view_tick_key :
    ((world.tick elapsed).view id).key = (world.view id).key ∨
      ((world.tick elapsed).view id).key = none := by
  simp only [World.view, World.tick]
  cases world.idempotency id with
  | none => exact .inr rfl
  | some key =>
      rw [Option.filter_some]
      split
      · exact .inl rfl
      · exact .inr rfl

theorem view_tick_lock (outlives : ∀ key, (world.view id).lock = some key →
    world.now + elapsed ≤ key.expiresAt) :
    ((world.tick elapsed).view id).lock = (world.view id).lock := by
  simp only [World.view, World.tick] at outlives ⊢
  cases stored : world.locks id with
  | none => rfl
  | some key => simp [outlives key stored]

/-- Time does not finalize a payment. -/
theorem view_tick_unfinalized (unfinalized : (world.view id).finalized = false) :
    ((world.tick elapsed).view id).finalized = false := by
  rcases view_tick_key world id elapsed with same | gone
  · simpa only [View.finalized, View.claim, same] using unfinalized
  · simp [View.finalized, View.claim, gone, readsFinal]

end PaymentQueue
