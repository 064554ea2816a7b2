import Mathlib.Data.List.Forall2
import PaymentQueue.Outlines.Exits

/-!
# What is persisted when the saga ends

The saga is to leave the record and the audit log complete: the stored record
is the one in memory, and every entry that was added to the history has its
audit entry.  No exit does both.  The settled record is not saved, and neither
the failed charge nor the failed settlement is audited.
-/

namespace PaymentQueue.Persistence

open Await PaymentSagaService Exits

variable {config : AppConfig}

/-- Nobody else writes the record or the audit log of the payment, and only the
append to the ledger may throw. -/
def undisturbed (config : AppConfig) (id : PaymentId) :
    Contract (machine config) where
  invariant := fun _ => True
  rely := fun before after => after.payments id = before.payments id ∧
    after.audit id = before.audit id
  guarantee := fun _ _ => True
  allowed := fun command choice world => unfailing command choice world = true

private theorem exclusive_undisturbed (id : PaymentId) :
    Exclusive (undisturbed config id) id where
  keeps := fun _ _ => ⟨trivial, trivial⟩
  record := fun _ _ kept => kept.1
  audit := fun _ _ kept => kept.2
  throws := fun _ _ _ allowed => allowed

/-- The type of the audit entry that belongs to an entry of the history. -/
def auditType (entry : SagaHistoryEntry) : AuditEventType :=
  match entry.phase with
  | .reserve => .sagaReserve
  | .charge => .sagaCharge
  | .settle => .sagaSettle
  | .compensation =>
      if entry.event = "release_funds" then .sagaCompensateReleaseFunds
      else .sagaCompensateRefundCharge

def Corresponds (entry : SagaHistoryEntry) (event : AuditEvent) : Prop :=
  event.type = auditType entry

/-- The stored document is the record in memory, and the entries that were
added to its history have audit entries, in the same order. -/
structure Complete (start : PaymentRecord) (before : World)
    (record : PaymentRecord) (after : World) : Prop where
  stored : after.payments start.id = some (.parsed record)
  audited : ∃ entries events,
    record.history = start.history ++ entries ∧
      after.audit start.id = before.audit start.id ++ events ∧
      List.SublistForall₂ Corresponds entries events

section Exits

variable {start record : PaymentRecord} {before after : World}
  {progress : Progress}

theorem length_of_became {shape : Shape} (became : Became start shape record) :
    record.history.length = start.history.length + shape.marks.length := by
  obtain ⟨entries, grown, marks⟩ := became.history
  rw [grown, ← marks, List.length_append, List.length_map]

/-- A complete record has at least as many audit entries as history entries. -/
theorem Complete.covered (complete : Complete start before record after)
    (stands : Stands start (before.audit start.id) progress record after) :
    progress.current.marks.length ≤ progress.audited.length := by
  obtain ⟨entries, events, grown, logged, matched⟩ := complete.audited
  obtain ⟨same, corresponds, within⟩ := List.sublistForall₂_iff.mp matched
  have fewer : entries.length ≤ events.length := by
    rw [corresponds.length_eq]
    exact within.length_le
  have history := length_of_became stands.current
  rw [grown, List.length_append] at history
  obtain ⟨written, appended, types⟩ := stands.audited
  have sameEvents : events = written :=
    List.append_cancel_left (logged.symm.trans appended)
  rw [← types, List.length_map, ← sameEvents]
  omega

/-- A complete record is the one that was saved last. -/
theorem Complete.saved (complete : Complete start before record after)
    (stands : Stands start (before.audit start.id) progress record after)
    {shape : Shape} (stored : progress.stored = some shape) :
    shape.marks.length = progress.current.marks.length := by
  obtain ⟨doc, found, became⟩ := stands.stored shape stored
  obtain rfl : doc = record := by
    have same := found.symm.trans complete.stored
    simpa using same
  have savedLength := length_of_became became
  have currentLength := length_of_became stands.current
  omega

/-- No exit of the saga is complete. -/
theorem incomplete_of_exit {contract : Contract (machine config)}
    {outcome : Except Thrown SagaOutcome}
    (exits : Exit contract start (before.audit start.id) outcome record
      after) :
    ¬ Complete start before record after := by
  intro complete
  cases outcome with
  | ok outcome =>
      obtain ⟨-, -, stands⟩ := exits
      have saved := complete.saved stands rfl
      cases saved
  | error error =>
      rcases exits with ⟨reservationId, failure, -, -, stands⟩ |
        ⟨reservationId, transactionId, message, gatewayId, refund, -, -, -, -,
          stands⟩
      · have covered : 3 ≤ 2 := complete.covered stands
        omega
      · have covered := complete.covered stands
        cases refund with
        | ok refundId =>
            have covered : 5 ≤ 4 := covered
            omega
        | error failure =>
            have covered : 5 ≤ 4 := covered
            omega

end Exits

/-- Whatever the guard, the ledger and the refund answer, the saga returns or
throws with its record or its audit log incomplete. -/
theorem execute_incomplete (config : AppConfig) (pid time : Nat)
    (record : PaymentRecord) (before after : World)
    (final : Final Thrown PaymentRecord SagaOutcome)
    (run : Program.Completes (undisturbed config record.id) pid
      (execute time record) before final after) :
    ¬ Complete record before final.locals after := by
  have safe : Async.Safe (undisturbed config record.id) pid
      (Exit (undisturbed config record.id) record (before.audit record.id))
      execute record before :=
    safe_execute (exclusive_undisturbed record.id)
      (stands_began record before)
  exact incomplete_of_exit
    ((safe time).completes (fun _ _ _ _ => trivial) trivial run)

/-- A queued payment. -/
def queued : PaymentRecord :=
  createPaymentRecord
    ⟨"p1", 500, "EUR", "c1", "stripe", .normal, none, none, none⟩ 0

/-- An attempt of the queued payment, with given outcomes of its calls. -/
def attemptWith (choices : List Choice) :
    Option (Final Thrown PaymentRecord SagaOutcome × World) :=
  Program.execute (machine .default) 0 unfailing (execute 0 queued) choices
    (World.empty 0)

private theorem completes_of_attemptWith {choices : List Choice}
    {final : Final Thrown PaymentRecord SagaOutcome} {after : World}
    (attempted : attemptWith choices = some (final, after)) :
    Program.Completes (undisturbed .default "p1") 0 (execute 0 queued)
      (World.empty 0) final after := by
  refine Program.completes_of_execute ?_
    (fun _ _ _ permitted => permitted) attempted
  intro world
  exact ⟨rfl, rfl⟩

/-- The charge and the settlement succeed. -/
def smoothChoices : List Choice :=
  List.replicate 3 .succeed ++ [.guard (.answered (.ok "t1" 200))] ++
    List.replicate 6 .succeed

theorem execute_incomplete_smooth :
    ∃ final after, attemptWith smoothChoices = some (final, after) ∧
      final.outcome.isOk = true ∧
      ¬ Complete queued (World.empty 0) final.locals after := by
  have ends : (attemptWith smoothChoices).any (fun result =>
      result.1.outcome.isOk) = true := by
    decide +kernel
  obtain ⟨⟨final, after⟩, attempted, returned⟩ :=
    (Option.any_eq_true _ _).mp ends
  exact ⟨final, after, attempted, returned, execute_incomplete .default 0 0
    queued (World.empty 0) after final (completes_of_attemptWith attempted)⟩

/-- The saga returns, and the stored record is still the charged one. -/
theorem settled_not_saved :
    ¬ ∀ (record : PaymentRecord) (before after : World)
      (final : Final Thrown PaymentRecord SagaOutcome),
      Program.Completes (undisturbed .default record.id) 0
        (execute 0 record) before final after →
      Complete record before final.locals after := by
  intro complete
  have ends : (attemptWith smoothChoices).any (fun result =>
      decide (result.1.locals.sagaState = .settled) &&
        (result.2.payment "p1").any fun record =>
          decide (record.sagaState = .charged)) = true := by
    decide +kernel
  obtain ⟨⟨final, after⟩, attempted, checked⟩ :=
    (Option.any_eq_true _ _).mp ends
  obtain ⟨settled, charged⟩ := (Bool.and_eq_true _ _).mp checked
  have stored : after.payments "p1" = some (.parsed final.locals) :=
    (complete queued (World.empty 0) after final
      (completes_of_attemptWith attempted)).stored
  have found : after.payment "p1" = some final.locals := by
    rw [World.payment, stored]
    rfl
  rw [found] at charged
  have different := (of_decide_eq_true settled).symm.trans
    (of_decide_eq_true charged)
  cases different

end PaymentQueue.Persistence
