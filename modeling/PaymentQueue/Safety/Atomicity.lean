import PaymentQueue.Await.Trace
import PaymentQueue.Payments.Saga

/-!
# Atomicity of one saga attempt

`PaymentSagaService.execute` in arbitrary surroundings, with every choice of
how its awaited calls turn out.  Its trace shows the charge, the refund, the
alerts and the calls that threw; the specification of each part of the saga
says how the trace grows and what the part may throw.
-/

namespace PaymentQueue.Atomicity

open Await PaymentSagaService

variable {config : AppConfig}

abbrev SagaCall (config : AppConfig) : Type := Call (machine config)

/-- A call of `PaymentStore.save` or `AuditLogService.record`. -/
def saves (call : SagaCall config) : Bool :=
  match call.command with
  | .storage (.hsetPayment _ _) => true
  | .storage (.rpushAudit _ _) => true
  | _ => false

def throws (call : SagaCall config) : Bool :=
  !Choice.faultless call.choice

/-- The transaction of a charge that succeeded. -/
def chargeOf (call : SagaCall config) : Option String :=
  match call.command, call.choice with
  | .guardCall _ _, .guard (.answered (.ok transactionId _)) =>
      some transactionId
  | _, _ => none

/-- The transaction of a requested refund, and whether the refund
succeeded. -/
def refundOf (call : SagaCall config) : Option (String × Bool) :=
  match call.command, call.choice with
  | .guardRefund _ transactionId, .refund (.ok _ _) =>
      some (transactionId, true)
  | .guardRefund _ transactionId, .refund (.fail _) =>
      some (transactionId, false)
  | _, _ => none

/-- An emitted `metrics.alert` of critical severity. -/
def alerts (call : SagaCall config) : Bool :=
  match call.command with
  | .emit (.metricsAlert alert _) => decide (alert.severity = .critical)
  | _ => false

structure Summary where
  broken : Bool
  charges : List String
  refunds : List (String × Bool)
  alerted : Bool
  deriving DecidableEq, Repr

def summary (trace : List (SagaCall config)) : Summary :=
  { broken := trace.any fun call => saves call && throws call
    charges := trace.filterMap chargeOf
    refunds := trace.filterMap refundOf
    alerted := trace.any alerts }

/-- Every successful charge has a requested refund, and a refund that failed
was alerted. -/
def Compensated (seen : Summary) : Prop :=
  ∀ transactionId ∈ seen.charges, ∃ succeeded,
    (transactionId, succeeded) ∈ seen.refunds ∧
      (succeeded = false → seen.alerted = true)

/-- An attempt that throws throws a `PaymentProcessingError`, and has
compensated its charge. -/
def Atomic {α : Type} (outcome : Except Thrown α)
    (trace : List (SagaCall config)) : Prop :=
  ∀ error, outcome = .error error →
    (∃ failure, error = .processing failure) ∧ Compensated (summary trace)

/-- What an error that leaves the saga says about the trace. -/
def Explains (error : Thrown) (seen : Summary) : Prop :=
  (seen.broken = true ∧ ∃ message, error = .error message) ∨
    (seen.broken = false ∧ (∃ failure, error = .processing failure) ∧
      Compensated seen)

/-- A part of the saga continues with a fact about the trace, or throws. -/
def Post {α : Type} (next : α → Summary → Prop) :
    Except Thrown α → PaymentRecord → World × List (SagaCall config) → Prop
  | .ok value, _, state => next value (summary state.2)
  | .error error, _, state => Explains error (summary state.2)

section Rules

variable {pid : Nat} {α β : Type} {record : PaymentRecord} {world : World}
  {trace : List (SagaCall config)}

theorem summary_append (trace : List (SagaCall config))
    (call : SagaCall config) :
    summary (trace ++ [call]) =
      { broken := (summary trace).broken || (saves call && throws call)
        charges := (summary trace).charges ++ (chargeOf call).toList
        refunds := (summary trace).refunds ++ (refundOf call).toList
        alerted := (summary trace).alerted || alerts call } := by
  cases charge : chargeOf call <;> cases refund : refundOf call <;>
    simp [summary, charge, refund]

/-- The rule for one awaited call. -/
theorem safe_awaitCommand (command : Command)
    {post : Except Thrown command.Result → PaymentRecord →
      World × List (SagaCall config) → Prop}
    (step : ∀ choice before outcome after,
      exec config.tokenWaitMs pid command choice before =
        some (outcome, after) →
      post outcome record (after, trace ++ [⟨command, choice⟩])) :
    Async.Safe (tracing (machine config)) pid post (awaitCommand command)
      record (world, trace) :=
  Async.safe_call step

/-- One part of the saga, followed by the rest. -/
theorem safe_part {action : OnRecord α} {rest : α → OnRecord β}
    {first : α → Summary → Prop} {second : β → Summary → Prop}
    (start : Async.Safe (tracing (machine config)) pid (Post first) action
      record (world, trace))
    (continues : ∀ value record world (trace : List (SagaCall config)),
      first value (summary trace) →
      Async.Safe (tracing (machine config)) pid (Post second) (rest value)
        record (world, trace)) :
    Async.Safe (tracing (machine config)) pid (Post second) (action >>= rest)
      record (world, trace) := by
  refine Async.safe_bind (start.mono ?_)
  rintro outcome left ⟨current, calls⟩ reached
  cases outcome with
  | ok value => exact continues value left current calls reached
  | error error => exact reached

private theorem safe_value {value : α} {next : α → Summary → Prop}
    (reached : next value (summary trace)) :
    Async.Safe (tracing (machine config)) pid (Post next) (pure value) record
      (world, trace) :=
  Async.safe_pure reached

variable {charges : List String} {refunds : List (String × Bool)}
  {alerted : Bool}

/-- Nothing has thrown so far; the charges, refunds and alerts are these. -/
def Seen (charges : List String) (refunds : List (String × Bool))
    (alerted : Bool) (seen : Summary) : Prop :=
  seen = ⟨false, charges, refunds, alerted⟩

/-- A save or an audit entry leaves the summary alone, or breaks the
attempt. -/
theorem safe_storage {command : StorageCommand}
    (kind : ∀ choice,
      saves (⟨.storage command, choice⟩ : SagaCall config) = true)
    (known : Seen charges refunds alerted (summary trace)) :
    Async.Safe (tracing (machine config)) pid
      (Post fun _ => Seen charges refunds alerted) (awaitStorage command)
      record (world, trace) := by
  apply safe_awaitCommand _
  intro choice before outcome after executed
  have grows := summary_append trace ⟨.storage command, choice⟩
  rw [kind choice, known] at grows
  cases choice with
  | succeed =>
      cases executed
      rw [Post, grows]
      simp [Seen, throws, chargeOf, refundOf, alerts, Choice.faultless]
  | lost message | refused message =>
      cases executed
      rw [Post, grows]
      exact .inl ⟨rfl, message, rfl⟩
  | guard response | refund result => cases executed

private theorem safe_emit {event : Time → AppEvent}
    (known : Seen charges refunds alerted (summary trace)) :
    Async.Safe (tracing (machine config)) pid
      (Post fun _ after => ∃ now, Seen charges refunds
        (alerted || alerts (⟨.emit (event now), .succeed⟩ : SagaCall config))
        after)
      (EventBus.emit event) record (world, trace) := by
  refine Async.safe_bind (Async.safe_dateNow fun now => ?_)
  apply safe_awaitCommand _
  intro choice before outcome after executed
  have grows := summary_append trace ⟨.emit (event now), choice⟩
  rw [known] at grows
  cases choice with
  | succeed =>
      cases executed
      rw [Post, grows]
      exact ⟨now, by simp [Seen, saves, chargeOf, refundOf]⟩
  | lost message | refused message => cases executed
  | guard response | refund result => cases executed

section Parts

variable (known : Seen charges refunds alerted (summary trace))

include known

theorem safe_saveRecord :
    Async.Safe (tracing (machine config)) pid
      (Post fun _ => Seen charges refunds alerted) saveRecord record
      (world, trace) :=
  Async.safe_bind (Async.safe_get (safe_storage (fun _ => rfl) known))

theorem safe_auditRecord (type : AuditEventType) (detail : Detail) :
    Async.Safe (tracing (machine config)) pid
      (Post fun _ => Seen charges refunds alerted) (auditRecord type detail)
      record (world, trace) :=
  Async.safe_bind (Async.safe_get (Async.safe_bind
    (Async.safe_dateNow fun _ => safe_storage (fun _ => rfl) known)))

theorem safe_history (phase : SagaPhase) (event detail : String) :
    Async.Safe (tracing (machine config)) pid
      (Post fun _ => Seen charges refunds alerted)
      (history phase event detail) record (world, trace) :=
  Async.safe_bind (Async.safe_dateNow fun _ => Async.safe_modify known)

theorem safe_modify (change : PaymentRecord → PaymentRecord) :
    Async.Safe (tracing (machine config)) pid
      (Post fun _ => Seen charges refunds alerted) (Async.modify change)
      record (world, trace) :=
  Async.safe_modify known

theorem safe_emitPhase (phase : SagaPhase) (ok : Bool) :
    Async.Safe (tracing (machine config)) pid
      (Post fun _ => Seen charges refunds alerted) (emitPhase phase ok)
      record (world, trace) := by
  refine Async.safe_bind (Async.safe_get ((safe_emit known).mono ?_))
  rintro outcome left ⟨current, calls⟩ reached
  cases outcome with
  | error error => exact reached
  | ok _ =>
      obtain ⟨now, reached⟩ := reached
      simpa [Post, alerts] using reached

private theorem safe_releaseFunds (reservationId : String) :
    Async.Safe (tracing (machine config)) pid
      (Post fun _ => Seen charges refunds alerted)
      (releaseFunds reservationId) record (world, trace) := by
  apply safe_part (safe_history known _ _ _)
  intro _ record world trace known
  exact safe_auditRecord known _ _

private theorem safe_reserve :
    Async.Safe (tracing (machine config)) pid
      (Post fun _ => Seen charges refunds alerted) reserve record
      (world, trace) := by
  refine Async.safe_bind (Async.safe_get ?_)
  refine Async.safe_bind (Async.safe_dateNow fun now => ?_)
  apply safe_part (safe_history known _ _ _)
  intro _ record world trace known
  apply safe_part (safe_modify known _)
  intro _ record world trace known
  apply safe_part (safe_saveRecord known)
  intro _ record world trace known
  apply safe_part (safe_auditRecord known _ _)
  intro _ record world trace known
  apply safe_part (safe_emitPhase known _ _)
  intro _ record world trace known
  exact safe_value known

private theorem safe_charged (reservationId transactionId : String)
    (httpStatus : Nat) :
    Async.Safe (tracing (machine config)) pid
      (Post fun _ => Seen charges refunds alerted)
      (charged reservationId transactionId httpStatus) record
      (world, trace) := by
  apply safe_part (safe_modify known _)
  intro _ record world trace known
  apply safe_part (safe_history known _ _ _)
  intro _ record world trace known
  apply safe_part (safe_saveRecord known)
  intro _ record world trace known
  apply safe_part (safe_auditRecord known _ _)
  intro _ record world trace known
  exact safe_emitPhase known _ _

private theorem safe_settled (transactionId : String) :
    Async.Safe (tracing (machine config)) pid
      (Post fun _ => Seen charges refunds alerted) (settled transactionId)
      record (world, trace) := by
  apply safe_part (safe_modify known _)
  intro _ record world trace known
  apply safe_part (safe_history known _ _ _)
  intro _ record world trace known
  apply safe_part (safe_auditRecord known _ _)
  intro _ record world trace known
  exact safe_emitPhase known _ _

end Parts

private theorem safe_callGuard (known : Seen [] [] false (summary trace)) :
    Async.Safe (tracing (machine config)) pid
      (Post fun outcome =>
        match outcome with
        | .ok transactionId _ => Seen [transactionId] [] false
        | .fail _ => Seen [] [] false)
      callGuard record (world, trace) := by
  refine Async.safe_bind (Async.safe_get (safe_awaitCommand _ ?_))
  intro choice before outcome after executed
  have grows := summary_append trace
    ⟨.guardCall record record.correlationId, choice⟩
  rw [known] at grows
  cases choice with
  | guard response =>
      cases executed
      rw [Post, grows]
      match response with
      | .noToken | .circuitRefused state | .answered (.fail failure)
      | .answered (.ok transactionId httpStatus) =>
          simp [callOutcome, Seen, saves, chargeOf, refundOf, alerts]
  | succeed | lost message | refused message => cases executed
  | refund result => cases executed

/-- The refund was requested, and alerted if it failed. -/
def Refunded (transactionId : String) (seen : Summary) : Prop :=
  ∃ succeeded,
    Seen [transactionId] [(transactionId, succeeded)] (!succeeded) seen

private theorem safe_refundCharge {transactionId : String}
    (known : Seen [transactionId] [] false (summary trace)) :
    Async.Safe (tracing (machine config)) pid
      (Post fun _ => Refunded transactionId) (refundCharge transactionId)
      record (world, trace) := by
  refine Async.safe_bind (Async.safe_get ?_)
  have requests : Async.Safe (tracing (machine config)) pid
      (Post fun outcome =>
        match outcome with
        | .ok _ _ => Seen [transactionId] [(transactionId, true)] false
        | .fail _ => Seen [transactionId] [(transactionId, false)] false)
      (awaitCommand (.guardRefund record.gatewayId transactionId)) record
      (world, trace) := by
    apply safe_awaitCommand _
    intro choice before outcome after executed
    have grows := summary_append trace
      ⟨.guardRefund record.gatewayId transactionId, choice⟩
    rw [known] at grows
    cases choice with
    | refund result =>
        cases executed
        rw [Post, grows]
        cases result <;>
          simp [refundOutcome, Seen, saves, chargeOf, refundOf, alerts]
    | succeed | lost message | refused message => cases executed
    | guard response => cases executed
  apply safe_part requests
  intro outcome left world trace known
  cases outcome with
  | fail error =>
      apply safe_part (safe_history known _ _ _)
      intro _ left world trace known
      apply safe_part (safe_auditRecord known _ _)
      intro _ left world trace known
      apply (safe_emit known).mono
      rintro outcome left ⟨current, calls⟩ reached
      cases outcome with
      | error error => exact reached
      | ok _ =>
          obtain ⟨now, reached⟩ := reached
          exact ⟨false, reached⟩
  | ok refundId httpStatus =>
      apply safe_part (safe_modify known _)
      intro _ left world trace known
      apply safe_part (safe_history known _ _ _)
      intro _ left world trace known
      apply (safe_auditRecord known _ _).mono
      rintro outcome left ⟨current, calls⟩ reached
      cases outcome with
      | error error => exact reached
      | ok _ => exact ⟨true, reached⟩

private theorem safe_chargeFailed (reservationId : String)
    (error : PaymentProcessingError)
    (known : Seen [] [] false (summary trace)) :
    Async.Safe (tracing (machine config)) pid (Post fun _ _ => False)
      (chargeFailed reservationId error) record (world, trace) := by
  apply safe_part (safe_history known _ _ _)
  intro _ record world trace known
  apply safe_part (safe_releaseFunds known _)
  intro _ record world trace known
  apply safe_part (safe_saveRecord known)
  intro _ record world trace known
  apply safe_part (safe_emitPhase known _ _)
  intro _ record world trace known
  apply Async.safe_throw
  rw [Post, known]
  exact .inr ⟨rfl, ⟨error, rfl⟩, nofun⟩

private theorem safe_compensateSettle (reservationId : String)
    {transactionId : String} (error : Thrown)
    (known : Seen [transactionId] [] false (summary trace)) :
    Async.Safe (tracing (machine config)) pid (Post fun _ _ => False)
      (compensateSettle reservationId transactionId error) record
      (world, trace) := by
  apply safe_part (safe_history known _ _ _)
  intro _ record world trace known
  apply safe_part (safe_refundCharge known)
  rintro _ record world trace ⟨succeeded, known⟩
  apply safe_part (safe_releaseFunds known _)
  intro _ record world trace known
  apply safe_part (safe_modify known _)
  intro _ record world trace known
  apply safe_part (safe_saveRecord known)
  intro _ record world trace known
  apply safe_part (safe_emitPhase known _ _)
  intro _ record world trace known
  refine Async.safe_bind (Async.safe_get (Async.safe_throw ?_))
  rw [Post, known]
  refine .inr ⟨rfl, ⟨_, rfl⟩, ?_⟩
  intro transaction member
  obtain rfl := List.mem_singleton.mp member
  exact ⟨succeeded, List.mem_singleton.mpr rfl, fun failed => by
    rw [failed]
    rfl⟩

private theorem safe_append (entry : SettlementEntry)
    (known : Seen charges refunds alerted (summary trace)) :
    Async.Safe (tracing (machine config)) pid
      (fun _ _ state => Seen charges refunds alerted (summary state.2))
      (awaitStorage (.rpushSettlement entry)) record (world, trace) := by
  apply safe_awaitCommand (.storage (.rpushSettlement entry))
  intro choice before outcome after _
  rw [summary_append, known]
  simp [Seen, saves, chargeOf, refundOf, alerts]

private theorem safe_settle (reservationId : String) {transactionId : String}
    (known : Seen [transactionId] [] false (summary trace)) :
    Async.Safe (tracing (machine config)) pid
      (Post fun _ => Seen [transactionId] [] false)
      (settle reservationId transactionId) record (world, trace) := by
  refine Async.safe_tryCatch (Async.safe_bind (Async.safe_get ?_))
  refine Async.safe_bind (Async.safe_bind (Async.safe_dateNow fun now => ?_))
  refine Async.safe_bind ((safe_append _ known).mono ?_)
  rintro outcome left ⟨current, calls⟩ known
  cases outcome with
  | ok _ => exact Async.safe_pure (Async.safe_pure known)
  | error error =>
      apply (safe_compensateSettle reservationId error known).mono
      rintro outcome left ⟨current, calls⟩ reached
      cases outcome with
      | ok _ => exact reached.elim
      | error error => exact reached

private theorem safe_execute (known : Seen [] [] false (summary trace)) :
    Async.Safe (tracing (machine config)) pid
      (Post fun _ seen => seen.broken = false) execute record
      (world, trace) := by
  apply safe_part (safe_reserve known)
  intro reservationId record world trace known
  apply safe_part (safe_callGuard known)
  intro outcome record world trace known
  cases outcome with
  | fail error =>
      apply (safe_chargeFailed reservationId error known).mono
      rintro outcome left ⟨current, calls⟩ reached
      cases outcome with
      | ok _ => exact reached.elim
      | error error => exact reached
  | ok transactionId httpStatus =>
      apply safe_part (safe_charged known _ _ _)
      intro _ record world trace known
      apply safe_part (safe_settle reservationId known)
      intro _ record world trace known
      apply safe_part (safe_settled known _)
      intro _ record world trace known
      apply safe_value
      rw [known]

end Rules

/-- An attempt is atomic exactly if no save and no audit entry of it
throws. -/
theorem execute_atomic_iff (config : AppConfig) (pid time : Nat)
    (record : PaymentRecord) (world : World)
    (final : Final Thrown PaymentRecord SagaOutcome) (after : World)
    (trace : List (SagaCall config))
    (run : Program.Completes (tracing (machine config)) pid
      (execute time record) (world, []) final (after, trace)) :
    Atomic final.outcome trace ↔
      ∀ call ∈ trace, saves call = true → throws call = false := by
  have start : Seen [] [] false (summary ([] : List (SagaCall config))) := rfl
  have reached : Post (fun _ seen => seen.broken = false) final.outcome
      final.locals (after, trace) :=
    (safe_execute start).completes_traced run
  have unbroken : (summary trace).broken = false ↔
      ∀ call ∈ trace, saves call = true → throws call = false := by
    simp [summary]
  rw [← unbroken]
  cases outcome : final.outcome with
  | ok value =>
      rw [outcome] at reached
      exact ⟨fun _ => reached, fun _ _ impossible => by cases impossible⟩
  | error error =>
      rw [outcome] at reached
      rcases reached with ⟨broken, message, rfl⟩ | ⟨whole, failure, compensated⟩
      · constructor
        · intro atomic
          obtain ⟨⟨failure, impossible⟩, -⟩ := atomic _ rfl
          cases impossible
        · intro whole
          rw [broken] at whole
          cases whole
      · refine ⟨fun _ => whole, fun _ => ?_⟩
        rintro error ⟨⟩
        exact ⟨failure, compensated⟩

/-- An attempt for a queued payment, with given outcomes of its calls. -/
def attemptWith (choices : List Choice) :
    Option (Final Thrown PaymentRecord SagaOutcome ×
      World × List (SagaCall .default)) :=
  Program.complete (machine .default).traced 0 (fun _ _ => true)
    (execute 0 (createPaymentRecord
      ⟨"p1", 500, "EUR", "c1", "stripe", .normal, none, none, none⟩ 0))
    choices (World.empty 0, [])

private theorem completes_of_attemptWith {choices : List Choice}
    {final : Final Thrown PaymentRecord SagaOutcome} {after : World}
    {trace : List (SagaCall .default)}
    (attempted : attemptWith choices = some (final, after, trace)) :
    Program.Completes (tracing (machine .default)) 0
      (execute 0 (createPaymentRecord
        ⟨"p1", 500, "EUR", "c1", "stripe", .normal, none, none, none⟩ 0))
      (World.empty 0, []) final (after, trace) :=
  Program.completes_of_complete (fun _ => rfl) (fun _ _ _ _ => trivial)
    attempted

/-- The ledger refuses the append and the gateway refuses the refund. -/
def unsettledChoices : List Choice :=
  List.replicate 3 .succeed ++ [.guard (.answered (.ok "t1" 200))] ++
    List.replicate 3 .succeed ++ [.refused "ledger unavailable",
      .refund (.fail ⟨.gatewayTimeout, "timeout", 504⟩)] ++
    List.replicate 5 .succeed

theorem execute_atomic_unsettled :
    ∃ final after trace, attemptWith unsettledChoices =
        some (final, after, trace) ∧
      (summary trace).charges = ["t1"] ∧ final.outcome.isOk = false ∧
      Atomic final.outcome trace := by
  have ends : (attemptWith unsettledChoices).any (fun result =>
      decide ((summary result.2.2).charges = ["t1"]) &&
        !result.1.outcome.isOk &&
        result.2.2.all (fun call => !saves call || !throws call)) = true := by
    decide +kernel
  obtain ⟨⟨final, after, trace⟩, attempted, checked⟩ :=
    (Option.any_eq_true _ _).mp ends
  simp only [Bool.and_eq_true, decide_eq_true_eq, Bool.not_eq_true',
    List.all_eq_true, Bool.or_eq_true] at checked
  obtain ⟨⟨charged, thrown⟩, whole⟩ := checked
  refine ⟨final, after, trace, attempted, charged, thrown, ?_⟩
  refine (execute_atomic_iff .default 0 0 _ _ final after trace
    (completes_of_attemptWith attempted)).mpr ?_
  intro call member kind
  rcases whole call member with other | quiet
  · rw [kind] at other
    cases other
  · exact quiet

/-- The save after the accepted charge throws. -/
def unsavedChoices : List Choice :=
  List.replicate 3 .succeed ++ [.guard (.answered (.ok "t1" 200)),
    .refused "connection lost"]

theorem execute_not_atomic :
    ¬ ∀ (record : PaymentRecord) (world : World)
      (final : Final Thrown PaymentRecord SagaOutcome) (after : World)
      (trace : List (SagaCall .default)),
      Program.Completes (tracing (machine .default)) 0 (execute 0 record)
        (world, []) final (after, trace) →
      Atomic final.outcome trace := by
  intro atomic
  have ends : (attemptWith unsavedChoices).any (fun result =>
      decide ((summary result.2.2).charges = ["t1"]) &&
        decide ((summary result.2.2).refunds = []) &&
        !result.1.outcome.isOk) = true := by
    decide +kernel
  obtain ⟨⟨final, after, trace⟩, attempted, checked⟩ :=
    (Option.any_eq_true _ _).mp ends
  simp only [Bool.and_eq_true, decide_eq_true_eq, Bool.not_eq_true']
    at checked
  obtain ⟨⟨charged, unrefunded⟩, thrown⟩ := checked
  have holds := atomic _ _ final after trace (completes_of_attemptWith attempted)
  cases outcome : final.outcome with
  | ok value =>
      rw [outcome] at thrown
      cases thrown
  | error error =>
      obtain ⟨-, compensated⟩ := holds error outcome
      obtain ⟨succeeded, requested, -⟩ :=
        compensated "t1" (by rw [charged]; exact List.mem_singleton.mpr rfl)
      rw [unrefunded] at requested
      cases requested

end PaymentQueue.Atomicity
