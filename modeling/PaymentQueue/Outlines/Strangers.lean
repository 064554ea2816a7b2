import PaymentQueue.Outlines.Process
import PaymentQueue.Outlines.Submit

/-!
# Processes of other payments

Every command of a process is about its own payment: the record, the
idempotency key, the lock and the jobs of that payment.  A process of another
payment is therefore safe under every contract that allows changes elsewhere.
-/

namespace PaymentQueue

open Await

/-- Every record is stored under its id. -/
def World.Keyed (world : World) : Prop :=
  ∀ id record, world.payment id = some record → record.id = id

theorem keyed_empty : (World.empty 0).Keyed :=
  fun _ _ found => by cases found

/-- The payment whose keys or jobs a command may change. -/
def Command.target : Command → Option PaymentId
  | .storage (.hsetPayment id _) => some id
  | .storage (.setIdempotency id _ _) => some id
  | .storage (.setNxIdempotency id _ _) => some id
  | .storage (.delIdempotency id) => some id
  | .storage (.setNxLock id _) => some id
  | .storage (.delLock id) => some id
  | .storage (.queueAdd _ id _ _) => some id
  | _ => none

/-- A record is written under its id. -/
def Command.files : Command → Prop
  | .storage (.hsetPayment id record) => record.id = id
  | _ => True

theorem files_of_invisible {command : Command}
    (invisible : command.invisible = true) : command.files := by
  cases command with
  | storage command =>
      cases command with
      | hsetPayment id record => cases invisible
      | _ => exact trivial
  | _ => exact trivial

/-- Nothing of the payment has changed. -/
structure Apart (id : PaymentId) (before after : World) : Prop where
  payment : after.payments id = before.payments id
  key : after.idempotency id = before.idempotency id
  claimant : after.claimant id = before.claimant id
  lock : after.locks id = before.locks id
  jobs : ∀ queue, after.queues queue id = before.queues queue id

theorem Apart.refl (id : PaymentId) (world : World) : Apart id world world :=
  ⟨rfl, rfl, rfl, rfl, fun _ => rfl⟩

section Frames

variable {id : PaymentId} {pid tokenWaitMs : Nat} {command : Command}
  {choice : Choice} {before after : World}
  {outcome : Except Thrown command.Result}

private theorem apart_effect {command : StorageCommand} (pid : Nat)
    (before : World)
    (other : Command.target (.storage command) ≠ some id) :
    Apart id before (command.effect pid before).2 := by
  have absent : ∀ {key : PaymentId}, some key ≠ some id → id ≠ key :=
    fun different same => different (congrArg some same.symm)
  cases command with
  | hsetPayment key record =>
      exact ⟨Function.update_of_ne (absent other) _ _, rfl, rfl, rfl,
        fun _ => rfl⟩
  | setIdempotency key record ttlSeconds | delIdempotency key =>
      exact ⟨rfl, Function.update_of_ne (absent other) _ _, rfl, rfl,
        fun _ => rfl⟩
  | setNxIdempotency key record ttlSeconds =>
      simp only [StorageCommand.effect]
      split
      · exact .refl id before
      · exact ⟨rfl, Function.update_of_ne (absent other) _ _,
          Function.update_of_ne (absent other) _ _, rfl, fun _ => rfl⟩
  | setNxLock key ttlSeconds =>
      simp only [StorageCommand.effect]
      split
      · exact .refl id before
      · exact ⟨rfl, rfl, rfl, Function.update_of_ne (absent other) _ _,
          fun _ => rfl⟩
  | delLock key =>
      exact ⟨rfl, rfl, rfl, Function.update_of_ne (absent other) _ _,
        fun _ => rfl⟩
  | queueAdd queue key data options =>
      simp only [StorageCommand.effect]
      split
      · exact .refl id before
      · refine ⟨rfl, rfl, rfl, rfl, fun name => ?_⟩
        by_cases here : name = queue
        · subst here
          simp only [Function.update_self]
          exact Function.update_of_ne (absent other) _ _
        · simp only [Function.update_of_ne here]
  | _ => exact ⟨rfl, rfl, rfl, rfl, fun _ => rfl⟩

theorem apart_exec
    (executed : exec tokenWaitMs pid command choice before =
      some (outcome, after))
    (other : command.target ≠ some id) : Apart id before after := by
  cases command with
  | storage command =>
      rcases exec_storage executed with ⟨-, rfl, -⟩ | ⟨-, rfl, -⟩
      · exact .refl id after
      · exact apart_effect pid before other
  | guardCall _ _ | guardRefund _ _ | emit _ =>
      cases choice <;> cases executed
      exact ⟨rfl, rfl, rfl, rfl, fun _ => rfl⟩

theorem keyed_exec
    (executed : exec tokenWaitMs pid command choice before =
      some (outcome, after))
    (files : command.files) (keyed : before.Keyed) : after.Keyed := by
  by_cases writes : command.part = some .payments
  · cases command with
    | storage command =>
        cases command with
        | hsetPayment key record =>
            rcases exec_storage executed with ⟨-, rfl, -⟩ | ⟨-, rfl, -⟩
            · exact keyed
            · intro stored found present
              by_cases here : stored = key
              · subst here
                have same : some record = some found := by
                  simpa [World.payment, StorageCommand.effect, Stored.parse?]
                    using present
                cases same
                exact files
              · apply keyed stored found
                simpa [World.payment, StorageCommand.effect,
                  Function.update_of_ne here] using present
        | _ => cases writes
    | _ => cases writes
  · have same : after.payments = before.payments := exec_agrees executed writes
    intro id record found
    apply keyed id record
    rwa [World.payment, ← same]

theorem keyed_effect {command : StorageCommand} {before : World}
    (files : Command.files (.storage command)) (keyed : before.Keyed) :
    (command.effect pid before).2.Keyed :=
  @keyed_exec pid 0 (.storage command) .succeed before _ _ rfl files keyed

/-- The command may change a part of what is stored about the payment. -/
def Command.changes (command : Command) (part : Part) (id : PaymentId) :
    Bool :=
  command.writes part && decide (command.target = some id)

private theorem changes_eq_false {part : Part}
    (unchanged : command.changes part id = false) :
    command.part ≠ some part ∨ command.target ≠ some id := by
  rw [Command.changes, Bool.and_eq_false_iff] at unchanged
  exact unchanged.imp of_decide_eq_false of_decide_eq_false

theorem stored_of_changes
    (executed : exec tokenWaitMs pid command choice before =
      some (outcome, after))
    (unchanged : command.changes .payments id = false) :
    (after.view id).stored = (before.view id).stored := by
  rcases changes_eq_false unchanged with differs | elsewhere
  · have same : after.payments = before.payments :=
      exec_agrees executed differs
    exact congrFun same id
  · exact (apart_exec executed elsewhere).payment

theorem key_of_changes
    (executed : exec tokenWaitMs pid command choice before =
      some (outcome, after))
    (unchanged : command.changes .idempotency id = false) :
    (after.view id).key = (before.view id).key := by
  rcases changes_eq_false unchanged with differs | elsewhere
  · have same : after.idempotency = before.idempotency :=
      exec_agrees executed differs
    exact congrFun same id
  · exact (apart_exec executed elsewhere).key

end Frames

/-- Every command that a submission of the payment can issue. -/
def submitterCommand (id : PaymentId) : Command → Prop
  | .storage (.hgetPayment key) => key = id
  | .storage (.hsetPayment key record) => key = id ∧ record.id = id
  | .storage (.getIdempotency key) => key = id
  | .storage (.setNxIdempotency key record _) =>
      key = id ∧ record.state = .processing
  | .storage (.delIdempotency key) => key = id
  | .storage (.rpushAudit key _) => key = id
  | .storage (.queueReady _) => True
  | .storage (.queueAdd _ key (.payment _) _) => key = id
  | .emit _ => True
  | _ => False

theorem files_of_submitterCommand {id : PaymentId} {command : Command}
    (issued : submitterCommand id command) : command.files := by
  cases command with
  | storage command =>
      cases command with
      | hsetPayment key record => exact issued.2.trans issued.1.symm
      | _ => exact trivial
  | _ => exact trivial

variable {config : AppConfig} {contract : Contract (machine config)}
  {pid : Nat} {id : PaymentId}

/-- A submission, when nothing is to be known about the payment. -/
theorem SubmitOutline.unconditional {input : CreatePaymentInput}
    (steps : ∀ command before outcome after,
      submitterCommand input.id command →
      Executes contract pid command before outcome after →
      Keeps contract before after) :
    SubmitOutline contract pid input (fun _ _ => True) (fun _ _ => True) := by
  have moves : ∀ {command : Command}
      {result : Except Thrown command.Result → World → Prop},
      submitterCommand input.id command →
      (∀ outcome after, result outcome after) →
      Moves contract pid command (fun _ => True) result :=
    fun issued reached before outcome after _ execution =>
      ⟨steps _ before outcome after issued execution, reached outcome after⟩
  have continues : ∀ {α : Type} (outcome : Except Thrown α) (world : World),
      @Continues α SubmitPaymentResult (fun _ _ => True) (fun _ _ => True)
        outcome world := by
    intro α outcome world
    cases outcome <;> exact trivial
  exact {
    stable := fun _ _ _ _ _ _ _ => trivial
    claim := fun now => moves ⟨rfl, rfl⟩ continues
    readClaim := moves rfl continues
    lookup := moves rfl continues
    recover := moves rfl continues
    replay := moves rfl fun outcome after =>
      SubmitOutline.continues_replays (fun _ => trivial) (fun _ => trivial)
        outcome
    conflict := fun _ _ _ _ => trivial
    audit := fun event => moves rfl continues
    save := fun now => moves ⟨rfl, rfl⟩ continues
    emit := fun event => moves trivial continues
    ready := moves trivial fun _ _ => trivial
    add := fun now delay => moves rfl fun _ _ => trivial
    release := moves rfl fun outcome _ => by
      cases outcome with
      | error error => exact trivial
      | ok _ => exact fun _ => trivial
    created := fun _ _ _ => trivial }

/-- The contract asks only for the payment to be left alone. -/
structure Aloof (contract : Contract (machine config)) (id : PaymentId) :
    Prop where
  keyed : ∀ world, contract.invariant world → world.Keyed
  keeps : ∀ before after, contract.invariant before → after.Keyed →
    Apart id before after → Keeps contract before after

theorem Aloof.executes (aloof : Aloof contract id) {command : Command}
    {before after : World} {outcome : Except Thrown command.Result}
    (execution : Executes contract pid command before outcome after)
    (other : command.target ≠ some id) (files : command.files) :
    Keeps contract before after := by
  obtain ⟨inv, choice, -, executed⟩ := execution
  exact aloof.keeps before after inv
    (keyed_exec executed files (aloof.keyed before inv))
    (apart_exec executed other)

private theorem target_of_workerCommand {command : Command} {other : PaymentId}
    (different : other ≠ id) (issued : workerCommand other command) :
    command.target ≠ some id ∧ command.files := by
  have absent : ∀ {key : PaymentId}, key = other → some key ≠ some id := by
    rintro key rfl same
    exact different (Option.some.inj same)
  cases command with
  | storage command =>
      cases command with
      | hsetPayment key record =>
          exact ⟨absent issued.1, issued.2.trans issued.1.symm⟩
      | setIdempotency key record ttlSeconds => exact ⟨absent issued, trivial⟩
      | setNxLock key ttlSeconds => exact ⟨absent issued, trivial⟩
      | delLock key => exact ⟨absent issued, trivial⟩
      | queueAdd queue key data options =>
          cases data with
          | payment data => exact issued.elim
          | deadLetter entry => exact ⟨absent issued.2.1, trivial⟩
      | setNxIdempotency _ _ _ | delIdempotency _ => exact issued.elim
      | _ => exact ⟨nofun, trivial⟩
  | _ => exact ⟨nofun, trivial⟩

private theorem target_of_submitterCommand {command : Command}
    {other : PaymentId}
    (different : other ≠ id) (issued : submitterCommand other command) :
    command.target ≠ some id ∧ command.files := by
  have absent : ∀ {key : PaymentId}, key = other → some key ≠ some id := by
    rintro key rfl same
    exact different (Option.some.inj same)
  cases command with
  | storage command =>
      cases command with
      | hsetPayment key record =>
          exact ⟨absent issued.1, issued.2.trans issued.1.symm⟩
      | setNxIdempotency key record ttlSeconds =>
          exact ⟨absent issued.1, trivial⟩
      | delIdempotency key => exact ⟨absent issued, trivial⟩
      | queueAdd queue key data options =>
          cases data with
          | payment data => exact ⟨absent issued, trivial⟩
          | deadLetter entry => exact issued.elim
      | setIdempotency _ _ _ | setNxLock _ _ | delLock _ => exact issued.elim
      | _ => exact ⟨nofun, trivial⟩
  | _ => exact ⟨nofun, trivial⟩

/-- Processes of other payments leave the payment alone. -/
theorem Aloof.safe_code (aloof : Aloof contract id) {task : Task}
    (other : task.paymentId ≠ id) (world : World) (time : Nat) :
    ((task.body config).start time).Safe contract pid (fun _ _ => True)
      world := by
  cases submits : task.submits with
  | true =>
      cases task with
      | submit input =>
          refine (SubmitOutline.unconditional ?_).safe_code trivial
            (fun _ _ _ => trivial) time
          intro command before outcome after issued execution
          obtain ⟨elsewhere, files⟩ := target_of_submitterCommand other issued
          exact aloof.executes execution elsewhere files
      | process job | handleJobFailure jobData error => cases submits
  | false =>
      refine (safe_worker (fun world record inv stored =>
        aloof.keyed world inv task.paymentId record stored) ?_ submits rfl
        world time).mono fun _ _ _ => trivial
      intro command before outcome after issued execution
      obtain ⟨elsewhere, files⟩ := target_of_workerCommand other issued
      exact aloof.executes execution elsewhere files

end PaymentQueue
