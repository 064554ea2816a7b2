import PaymentQueue.Runtime.Rules
import PaymentQueue.Runtime.Runs

/-!
# What a failed submission leaves behind

A submission that throws after its claim is to restore the stored payment and
the idempotency key.  The rollback stands around the enqueue only, and drops
only the key: a failing audit entry or save leaves the key, a failing enqueue
leaves the new record.
-/

namespace PaymentQueue.Rollback

open Await PaymentService

/-- The call of a submission that throws, without having taken effect. -/
inductive Position where
  | audit
  | save
  | enqueue
  deriving DecidableEq, Repr

namespace Position

/-- The commands of the call. -/
def covers : Position → Command → Bool
  | .audit, .storage (.rpushAudit _ _) => true
  | .save, .storage (.hsetPayment _ _) => true
  | .enqueue, .storage (.queueReady _) => true
  | .enqueue, .storage (.queueAdd _ _ _ _) => true
  | _, _ => false

def permits (position : Position) (command : Command) (choice : Choice)
    (_ : World) : Bool :=
  choice.faultless || position.covers command && choice.isRefused

end Position

/-- The others leave the two keys of the payment alone; the idempotency key
may expire. -/
structure Beside (id : PaymentId) (before after : World) : Prop where
  stored : after.payments id = before.payments id
  later : before.now ≤ after.now
  key : (after.now = before.now ∧
      after.idempotency id = before.idempotency id) ∨
    after.idempotency id = (before.idempotency id).filter fun key =>
      decide (after.now ≤ key.expiresAt)

def failing (config : AppConfig) (id : PaymentId) (position : Position) :
    Contract (machine config) where
  invariant := fun _ => True
  rely := Beside id
  guarantee := fun _ _ => True
  allowed := fun command choice world =>
    position.permits command choice world = true

/-- An execution of a submission that claimed the payment at clock value
`claimedAt` and threw afterwards. -/
structure Fails (config : AppConfig) (position : Position) (pid : Nat)
    (input : CreatePaymentInput) (start : World) (claimedAt : Time)
    (final : World) : Prop where
  run : ∃ time claimed ended error,
    Program.Completes (failing config input.id position) pid
      (claimOrRecover config input.id time ()) start
      ⟨.ok .new, claimedAt, ()⟩ claimed ∧
    Program.Completes (failing config input.id position) pid
      (create input claimedAt ()) claimed ⟨.error error, ended, ()⟩ final

/-- The stored payment is what it was before, and the key is absent. -/
structure Restored (id : PaymentId) (before after : World) : Prop where
  stored : after.payments id = before.payments id
  key : after.idempotency id = none

variable {config : AppConfig} {position : Position} {pid : Nat}
  {input : CreatePaymentInput} {id : PaymentId}

/-- These executions are executions of `submit`. -/
theorem Fails.submit {start final : World} {claimedAt : Time}
    (fails : Fails config position pid input start claimedAt final) :
    ∃ time ended error,
      Program.Completes (failing config input.id position) pid
        (submit config input time ()) start ⟨.error error, ended, ()⟩
        final := by
  obtain ⟨time, claimed, ended, error, claims, throws⟩ := fails.run
  exact ⟨time, ended, error, Program.completes_bind_iff.mpr
    ⟨_, claimed, claims, throws⟩⟩

/-- A submission that throws is one of them, or it did not get the claim. -/
theorem fails_of_submit {start final : World} {time ended : Nat}
    {error : Thrown}
    (run : Program.Completes (failing config input.id position) pid
      (submit config input time ()) start ⟨.error error, ended, ()⟩ final) :
    (∃ claimedAt, Fails config position pid input start claimedAt final) ∨
      ∃ claim claimed, claim.outcome ≠ .ok .new ∧
        Program.Completes (failing config input.id position) pid
          (claimOrRecover config input.id time ()) start claim claimed := by
  obtain ⟨claim, claimed, claims, rest⟩ := Program.completes_bind_iff.mp run
  obtain ⟨outcome, claimedAt, vars⟩ := claim
  match outcome with
  | .ok .new =>
      exact .inl ⟨claimedAt, ⟨time, claimed, ended, error, claims, rest⟩⟩
  | .ok (.conflict record) => exact .inr ⟨_, claimed, by simp, claims⟩
  | .ok (.replayed record) => exact .inr ⟨_, claimed, by simp, claims⟩
  | .error error => exact .inr ⟨_, claimed, by simp, claims⟩

/-- How a storage command turns out in these executions. -/
theorem executes {command : StorageCommand} {before after : World}
    {outcome : Except Thrown command.Result}
    (execution : Executes (failing config id position) pid
      (.storage command) before outcome after) :
    (outcome = .ok (command.effect pid before).1 ∧
      after = (command.effect pid before).2) ∨
    ∃ message, outcome = .error (.error message) ∧ after = before ∧
      position.covers (.storage command) = true := by
  rcases executes_storage execution with
    ⟨-, succeeded, reached⟩ | ⟨message, thrown, ⟨lost, -⟩ | ⟨refused, same⟩⟩
  · exact .inl ⟨succeeded, reached⟩
  · simp [failing, Position.permits, Choice.faultless, Choice.isRefused]
      at lost
  · refine .inr ⟨message, thrown, same, ?_⟩
    simpa [failing, Position.permits, Choice.faultless, Choice.isRefused]
      using refused

section Facts

/-- The key of the submission, as long as it has not expired. -/
def Leased (id : PaymentId) (key : Expiring (Stored IdempotencyRecord))
    (world : World) : Prop :=
  world.idempotency id =
    (some key).filter fun key => decide (world.now ≤ key.expiresAt)

variable {key : Expiring (Stored IdempotencyRecord)}
  {doc : Option (Stored PaymentRecord)} {world : World}

theorem Leased.beside {after : World} (leased : Leased id key world)
    (beside : Beside id world after) : Leased id key after := by
  unfold Leased at leased ⊢
  rcases beside.key with ⟨sameTime, sameKey⟩ | expired
  · rw [sameKey, sameTime, leased]
  · rw [expired, leased, Option.filter_filter]
    congr 1
    funext stored
    rw [Bool.eq_iff_iff, Bool.and_eq_true, decide_eq_true_iff,
      decide_eq_true_iff]
    exact ⟨And.right, fun alive => ⟨Nat.le_trans beside.later alive, alive⟩⟩

private theorem leased_none_iff (leased : Leased id key world) :
    world.idempotency id = none ↔ key.expiresAt < world.now := by
  rw [leased]
  simp

theorem stable_stored :
    Stable (failing config id position) fun world => world.payments id = doc :=
  fun _ _ beside _ held => beside.stored.trans held

private theorem stable_leased :
    Stable (failing config id position) fun world =>
      world.payments id = doc ∧ Leased id key world :=
  fun _ _ beside _ held =>
    ⟨beside.stored.trans held.1, held.2.beside beside⟩

/-- The obligation of a command of the submission. -/
theorem moves_step {β : Type} {command : StorageCommand}
    {know : World → Prop} {next : command.Result → World → Prop}
    {ends : Except Thrown β → World → Prop}
    (succeeds : ∀ before, know before →
      next (command.effect pid before).1 (command.effect pid before).2)
    (refused : position.covers (.storage command) = true →
      ∀ before message, know before →
        ends (.error (.error message)) before) :
    Moves (failing config id position) pid (.storage command) know
      (Continues next ends) := by
  intro before outcome after known execution
  refine ⟨⟨trivial, trivial⟩, ?_⟩
  rcases executes execution with
    ⟨rfl, rfl⟩ | ⟨message, rfl, rfl, covered⟩
  · exact succeeds before known
  · exact refused covered after message known

end Facts

section Claim

variable {doc : Option (Stored PaymentRecord)} {world : World} {time : Nat}

/-- What the claim leaves. -/
structure Claims (config : AppConfig) (id : PaymentId) (pid : Nat)
    (doc : Option (Stored PaymentRecord))
    (final : Final Thrown Unit ClaimResult) (world : World) : Prop where
  stored : world.payments id = doc
  key : final.outcome = .ok .new → ∃ record, Leased id
    ⟨.parsed record, final.time + config.leaseTtlSeconds * 1000, pid⟩ world

/-- The commands of the claim do not throw and leave the document alone. -/
theorem moves_stored (config : AppConfig) (position : Position)
    (doc : Option (Stored PaymentRecord)) {command : StorageCommand}
    (covered : position.covers (.storage command) = false)
    (kept : ∀ before, (command.effect pid before).2.payments id =
      before.payments id) :
    Moves (failing config id position) pid (.storage command)
      (fun world => world.payments id = doc)
      (Continues (fun _ world => world.payments id = doc)
        (fun (_ : Except Thrown ClaimResult) _ => False)) :=
  moves_step (fun before known => (kept before).trans known)
    fun covers => Bool.noConfusion (covered.symm.trans covers)

private theorem safe_taken (record : IdempotencyRecord)
    (stored : world.payments id = doc) :
    Async.Safe (failing config id position) pid
      (fun outcome _ final => final.payments id = doc ∧ outcome ≠ .ok .new)
      (do
        let existing ← IdempotencyService.get id
        match existing with
        | none => return .conflict record
        | some existing =>
            if existing.state = .processing then return .conflict existing
            else return .replayed existing : Async Unit ClaimResult)
      () world := by
  refine safe_continue (safe_idempotencyRead
    (moves_stored config position doc (by cases position <;> rfl)
      fun _ => rfl) stable_stored stored) ?_
    fun _ _ impossible => impossible.elim
  intro existing current kept
  cases existing with
  | none => exact Async.safe_pure ⟨kept, by simp⟩
  | some existing =>
      by_cases processing : existing.state = .processing
      · simp only [if_pos processing]
        exact Async.safe_pure ⟨kept, by simp⟩
      · simp only [if_neg processing]
        exact Async.safe_pure ⟨kept, by simp⟩

private theorem safe_claim (stored : world.payments id = doc) :
    (IdempotencyService.claim config id time ()).Safe
      (failing config id position) pid (Claims config id pid doc) world := by
  refine Async.safe_bind_timed ?_
  refine Async.safe_bind_timed ?_
  intro before outcome after beside execution
  have storedBefore := beside.stored.trans stored
  refine ⟨⟨trivial, trivial⟩, ?_⟩
  rcases executes execution with ⟨rfl, rfl⟩ | ⟨message, rfl, rfl, covered⟩
  · cases taken : before.idempotency id with
    | none =>
        simp only [StorageCommand.effect, taken]
        refine ⟨storedBefore, fun _ =>
          ⟨IdempotencyService.processingRecord id time time, ?_⟩⟩
        simp [Leased, Option.filter]
    | some key =>
        simp only [StorageCommand.effect, taken]
        refine (safe_taken _ storedBefore before.now).mono ?_
        intro final current kept
        exact ⟨kept.1, fun new => absurd new kept.2⟩
  · cases position <;> cases covered

private theorem safe_claimOrRecover (stored : world.payments id = doc) :
    (claimOrRecover config id time ()).Safe (failing config id position) pid
      (Claims config id pid doc) world := by
  refine Async.safe_bind_timed ((safe_claim stored).mono ?_)
  rintro ⟨outcome, claimedAt, vars⟩ current claims
  match outcome with
  | .error error => exact ⟨claims.stored, nofun⟩
  | .ok .new => exact claims
  | .ok (.replayed record) => exact ⟨claims.stored, nofun⟩
  | .ok (.conflict record) =>
      refine Async.safe_bind_timed ((safe_storeRead
        (moves_stored config position doc (by cases position <;> rfl)
          fun _ => rfl) stable_stored claims.stored claimedAt).mono ?_)
      rintro ⟨outcome, readAt, vars⟩ found ⟨-, kept⟩
      match outcome with
      | .error error => exact kept.elim
      | .ok (some payment) => exact ⟨kept, nofun⟩
      | .ok none =>
          refine Async.safe_bind_timed ((safe_command
            (moves_stored config position doc (by cases position <;> rfl)
              fun _ => rfl) stable_stored kept readAt).mono ?_)
          rintro ⟨outcome, releasedAt, vars⟩ released ⟨-, kept⟩
          match outcome with
          | .error error => exact kept.elim
          | .ok _ => exact safe_claim kept

end Claim

section Create

variable {doc : Option (Stored PaymentRecord)} {world : World}
  {record : PaymentRecord} {key : Expiring (Stored IdempotencyRecord)}

/-- What a submission with this record and this key leaves when it throws. -/
def Leaves (position : Position) (id : PaymentId)
    (doc : Option (Stored PaymentRecord)) (record : PaymentRecord)
    (key : Expiring (Stored IdempotencyRecord)) (world : World) : Prop :=
  match position with
  | .enqueue => world.payments id = some (.parsed record) ∧
      world.idempotency id = none
  | .audit | .save => world.payments id = doc ∧ Leased id key world

/-- The same for all its outcomes. -/
def Ends (position : Position) (id : PaymentId)
    (doc : Option (Stored PaymentRecord)) (record : PaymentRecord)
    (key : Expiring (Stored IdempotencyRecord))
    (outcome : Except Thrown SubmitPaymentResult) (world : World) : Prop :=
  outcome.isOk = false → Leaves position id doc record key world

private theorem safe_release (error : Thrown)
    (stored : world.payments id = some (.parsed record)) :
    Async.Safe (failing config id .enqueue) pid
      (fun (_ : Except Thrown Unit) _ world =>
        world.payments id = some (.parsed record) ∧
          world.idempotency id = none)
      (do
        IdempotencyService.release id
        Async.throw (.badRequest
          s!"payment could not be queued: {error.message}"))
      () world := by
  have deletes : Moves (failing config id .enqueue) pid
      (.storage (.delIdempotency id))
      (fun world => world.payments id = some (.parsed record))
      (Continues (fun _ world => world.payments id = some (.parsed record) ∧
        world.idempotency id = none)
        (fun (_ : Except Thrown Unit) _ => False)) := by
    refine moves_step ?_ nofun
    intro before stored
    exact ⟨stored, by simp [StorageCommand.effect]⟩
  refine safe_continue (safe_command deletes stable_stored stored) ?_
    fun _ _ impossible => impossible.elim
  intro _ released leaves
  exact Async.safe_throw leaves

private theorem moves_audit (event : AuditEvent) :
    Moves (failing config id position) pid (.storage (.rpushAudit id event))
      (fun world => world.payments id = doc ∧ Leased id key world)
      (Continues (fun _ world => world.payments id = doc ∧
        Leased id key world) (Ends position id doc record key)) := by
  refine moves_step (fun _ known => known) ?_
  intro covers before message known _
  cases position with
  | audit => exact known
  | save => cases covers
  | enqueue => cases covers

private theorem moves_save :
    Moves (failing config id position) pid (.storage (.hsetPayment id record))
      (fun world => world.payments id = doc ∧ Leased id key world)
      (Continues (fun _ world => world.payments id = some (.parsed record))
        (Ends position id doc record key)) := by
  refine moves_step (fun _ _ => by simp [StorageCommand.effect]) ?_
  intro covers before message known _
  cases position with
  | audit => cases covers
  | save => exact known
  | enqueue => cases covers

private theorem moves_emit (event : AppEvent) :
    Moves (failing config id position) pid (.emit event)
      (fun world => world.payments id = some (.parsed record))
      (Continues (fun _ world => world.payments id = some (.parsed record))
        (Ends position id doc record key)) := by
  intro before outcome after known execution
  obtain ⟨-, rfl, rfl⟩ := executes_emit execution
  exact ⟨⟨trivial, trivial⟩, known⟩

/-- What the enqueue leaves. -/
def Queues (position : Position) (id : PaymentId) (record : PaymentRecord)
    (outcome : Except Thrown Unit) (world : World) : Prop :=
  world.payments id = some (.parsed record) ∧
    (outcome.isOk = false → position = .enqueue)

private theorem moves_enqueue {command : StorageCommand}
    (covers : position.covers (.storage command) = true →
      position = .enqueue)
    (kept : ∀ before, (command.effect pid before).2.payments id =
      before.payments id) :
    Moves (failing config id position) pid (.storage command)
      (fun world => world.payments id = some (.parsed record))
      (Continues (fun _ world => world.payments id = some (.parsed record))
        (Queues position id record)) := by
  refine moves_step (fun before known => (kept before).trans known) ?_
  intro covered before message known
  exact ⟨known, fun _ => covers covered⟩

private theorem moves_add (queue : String) (jobId : PaymentId) (data : JobData)
    (options : JobOptions) :
    Moves (failing config id position) pid
      (.storage (.queueAdd queue jobId data options))
      (fun world => world.payments id = some (.parsed record))
      (Continues (fun _ world => world.payments id = some (.parsed record))
        (Queues position id record)) := by
  apply moves_enqueue
  · cases position <;> simp [Position.covers]
  · intro before
    simp only [StorageCommand.effect]
    split <;> rfl

private theorem safe_enqueue (job : QueueManager.EnqueuePaymentJobInput)
    (stored : world.payments id = some (.parsed record)) :
    Async.Safe (failing config id position) pid
      (fun outcome _ => Queues position id record outcome)
      (QueueManager.enqueue job) () world := by
  refine safe_continue (safe_command (moves_enqueue ?_ fun _ => rfl)
    stable_stored stored) ?_ fun _ _ queues => queues
  · cases position <;> simp [Position.covers]
  intro _ ready known
  refine (safe_command (moves_add _ _ _ _) stable_stored known).mono ?_
  rintro outcome _ added ⟨rfl, reached⟩
  cases outcome with
  | ok _ => exact ⟨reached, nofun⟩
  | error error => exact reached

private theorem safe_create {claimedAt : Time}
    (stored : world.payments input.id = doc)
    (leased : Leased input.id key world) :
    (create input claimedAt ()).Safe (failing config input.id position) pid
      (fun final => Ends position input.id doc
        (createPaymentRecord (newPayment input) claimedAt) key final.outcome)
      world := by
  refine Async.safe_bind_timed ?_
  refine (show Async.Safe (failing config input.id position) pid
    (fun outcome _ => Ends position input.id doc
      (createPaymentRecord (newPayment input) claimedAt) key outcome)
    _ () world from ?_) claimedAt
  refine safe_continue (safe_audit moves_audit stable_leased
    ⟨stored, leased⟩) ?_ fun _ _ ends => ends
  intro _ audited known
  refine safe_continue (safe_command moves_save stable_leased known) ?_
    fun _ _ ends => ends
  intro _ saved known
  refine safe_continue (safe_emit moves_emit stable_stored known) ?_
    fun _ _ ends => ends
  intro _ emitted known
  refine Async.safe_bind (Async.safe_dateNow fun submittedAt => ?_)
  refine Async.safe_bind (Async.safe_tryCatch
    ((safe_enqueue _ known).mono ?_))
  rintro outcome ⟨⟩ queued ⟨known, threw⟩
  cases outcome with
  | ok _ => exact Async.safe_pure nofun
  | error error =>
      obtain rfl := threw rfl
      refine (safe_release error known).mono ?_
      rintro outcome ⟨⟩ released leaves
      cases outcome with
      | ok _ => exact Async.safe_pure nofun
      | error error => exact fun _ => leaves

end Create

/-- The stored payment is already the record that the submission creates, or
the key has expired before the submission throws. -/
def Harmless (config : AppConfig) (position : Position)
    (input : CreatePaymentInput) (start : World) (claimedAt : Time)
    (final : World) : Prop :=
  match position with
  | .enqueue => start.payments input.id =
      some (.parsed (createPaymentRecord (newPayment input) claimedAt))
  | .audit | .save =>
      claimedAt + config.leaseTtlSeconds * 1000 < final.now

/-- What is left of a submission that throws after its claim. -/
theorem Fails.leaves {start final : World} {claimedAt : Time}
    (fails : Fails config position pid input start claimedAt final) :
    ∃ record, Leaves position input.id (start.payments input.id)
      (createPaymentRecord (newPayment input) claimedAt)
      ⟨.parsed record, claimedAt + config.leaseTtlSeconds * 1000, pid⟩
      final := by
  obtain ⟨time, claimed, ended, error, claims, throws⟩ := fails.run
  have claim := (safe_claimOrRecover rfl).completes
    (fun _ _ _ _ => trivial) trivial claims
  obtain ⟨record, leased⟩ := claim.key rfl
  exact ⟨record, (safe_create claim.stored leased).completes
    (fun _ _ _ _ => trivial) trivial throws rfl⟩

/-- When a submission restores what it found. -/
theorem fails_restored_iff (config : AppConfig) (position : Position)
    (pid : Nat) (input : CreatePaymentInput) (start : World)
    (claimedAt : Time) (final : World)
    (fails : Fails config position pid input start claimedAt final) :
    Restored input.id start final ↔
      Harmless config position input start claimedAt final := by
  obtain ⟨record, leaves⟩ := fails.leaves
  cases position with
  | audit | save =>
      obtain ⟨stored, leased⟩ := leaves
      constructor
      · intro restored
        exact (leased_none_iff leased).mp restored.key
      · intro expired
        exact ⟨stored, (leased_none_iff leased).mpr expired⟩
  | enqueue =>
      obtain ⟨stored, released⟩ := leaves
      constructor
      · intro restored
        exact restored.stored.symm.trans stored
      · intro present
        exact ⟨stored.trans present.symm, released⟩

/-- A submission with given outcomes of the commands of its claim and of its
later commands. -/
def failWith (position : Position) (start : World)
    (claim later : List Choice) : Option (Time × World) :=
  match Program.execute (machine .default) 0 position.permits
      (claimOrRecover .default "p1" 0 ()) claim start with
  | some (⟨.ok .new, claimedAt, ()⟩, claimed) =>
      match Program.execute (machine .default) 0 position.permits
          (create (submission "stripe" 0) claimedAt ()) later claimed with
      | some (⟨.error _, _, ()⟩, final) => some (claimedAt, final)
      | _ => none
  | _ => none

private theorem fails_of_failWith {start final : World}
    {claim later : List Choice}
    {claimedAt : Time}
    (taken : failWith position start claim later = some (claimedAt, final)) :
    Fails .default position 0 (submission "stripe" 0) start claimedAt
      final := by
  have still : ∀ world, Beside "p1" world world :=
    fun _ => ⟨rfl, Nat.le_refl _, .inl ⟨rfl, rfl⟩⟩
  rw [failWith] at taken
  split at taken
  case h_1 since claimed claims =>
    split at taken
    case h_1 error ended last throws =>
      cases taken
      exact ⟨0, claimed, ended, error,
        Program.completes_of_execute still (fun _ _ _ permitted => permitted)
          claims,
        Program.completes_of_execute still (fun _ _ _ permitted => permitted)
          throws⟩
    case h_2 => cases taken
  case h_2 => cases taken

/-- The queue is not ready. -/
def unqueued : List Choice :=
  [.succeed, .succeed, .succeed, .refused "ECONNREFUSED", .succeed]

/-- The payment was submitted in the same millisecond before, and its enqueue
failed. -/
def submittedBefore : World :=
  { World.empty 0 with
    payments := Function.update (fun _ => none) "p1"
      (some (.parsed (createPaymentRecord
        (newPayment (submission "stripe" 0)) 0))) }

theorem fails_restored_again :
    ∃ final, Fails .default .enqueue 0 (submission "stripe" 0)
        submittedBefore 0 final ∧
      Restored "p1" submittedBefore final := by
  have ends : (failWith .enqueue submittedBefore [.succeed] unqueued).any
      (fun result => decide (result.1 = 0)) = true := by
    decide +kernel
  obtain ⟨⟨claimedAt, final⟩, taken, same⟩ :=
    (Option.any_eq_true _ _).mp ends
  obtain rfl : claimedAt = 0 := of_decide_eq_true same
  have fails := fails_of_failWith taken
  exact ⟨final, fails, (fails_restored_iff .default .enqueue 0
    (submission "stripe" 0) submittedBefore 0 final fails).mpr rfl⟩

/-- After the failed enqueue of a new payment its record is stored. -/
theorem fails_not_restored :
    ¬ ∀ (position : Position) (input : CreatePaymentInput)
      (start final : World) (claimedAt : Time),
      Fails .default position 0 input start claimedAt final →
      Restored input.id start final := by
  intro restores
  have ends : (failWith .enqueue (World.empty 0) [.succeed] unqueued).any
      (fun result => (result.2.payments "p1").isSome) = true := by
    decide +kernel
  obtain ⟨⟨claimedAt, final⟩, taken, present⟩ :=
    (Option.any_eq_true _ _).mp ends
  have restored : Restored "p1" (World.empty 0) final :=
    restores .enqueue (submission "stripe" 0) (World.empty 0) final claimedAt
      (fails_of_failWith taken)
  rw [restored.stored] at present
  cases present

end PaymentQueue.Rollback
