import PaymentQueue.Outlines.Exits
import PaymentQueue.Runtime.Jobs

/-!
# The saga state and the history of a record

An operator reads from `sagaState` what happened to the money of a payment.
`Account` is what the history says about it; a record is faithful if the two
agree.  They agree exactly if the last attempt charged and, where the ledger
refused the settlement, refunded.  A refused charge leaves the state at
`reserved` after the funds were released, and a failed refund is recorded as
`compensated` all the same.
-/

namespace PaymentQueue.SagaStates

open Await PaymentProcessor Exits

/-- What a history says about the money. -/
structure Account where
  /-- The reservation of the latest attempt. -/
  reservation : Option String
  released : Bool
  /-- The number of successful charges. -/
  charges : Nat
  unrefunded : Nat
  /-- The transaction of the last charge, if it succeeded. -/
  charge : Option String
  settled : Bool
  deriving DecidableEq, Repr

namespace Account

def empty : Account := ⟨none, false, 0, 0, none, false⟩

def note (account : Account) (mark : Mark) : Account :=
  match mark.phase with
  | .reserve =>
      if mark.event = "ok" then
        { account with reservation := mark.detail, released := false }
      else account
  | .charge =>
      if mark.event = "ok" then
        { account with
          charges := account.charges + 1
          unrefunded := account.unrefunded + 1
          charge := mark.detail
          settled := false }
      else if mark.event = "failure" then
        { account with charge := none, settled := false }
      else account
  | .settle =>
      if mark.event = "ok" then
        { account with
          settled := account.charge.isSome &&
            decide (mark.detail = account.charge) }
      else account
  | .compensation =>
      if mark.event = "release_funds" then
        { account with
          released := account.released ||
            decide (mark.detail = account.reservation) }
      else if mark.event = "refund_charge" then
        { account with unrefunded := account.unrefunded - 1 }
      else account

end Account

def account (history : List SagaHistoryEntry) : Account :=
  (history.map mark).foldl Account.note .empty

/-- Every successful charge of the history was refunded. -/
def Refunded (record : PaymentRecord) : Prop :=
  (account record.history).unrefunded = 0 ∧
    ((account record.history).charges ≠ 0 → record.refundId.isSome = true)

/-- The text ends with the words of the saga about a refunded charge. -/
def SaysRefunded (reason : String) : Prop :=
  ∃ beginning : String, reason = beginning ++ "was refunded"

structure Faithful (record : PaymentRecord) : Prop where
  reserved : record.sagaState = .reserved →
    (account record.history).released = false
  compensated : record.sagaState = .compensated → Refunded record
  reason : ∀ reason, record.failureReason = some reason →
    SaysRefunded reason → Refunded record
  settled : record.sagaState = .settled → (account record.history).settled = true

/-- The charge was accepted, and settled or refunded. -/
def kind (answers : Answers) : Bool :=
  (match answers.guard with
    | .answered (.ok _ _) => true
    | _ => false) &&
  (answers.ledger.faultless ||
    match answers.refund with
    | .ok _ _ => true
    | .fail _ => false)

/-- The last attempt that was carried out, if any, was kind. -/
def endsKindly (past : List Answers) : Bool :=
  past.getLast?.all kind

variable {config : AppConfig} {answers : Answers}

/-- Nothing but the clock moves the world between two commands. -/
theorem exclusive_clocked {permits : Command → Choice → World → Bool}
    (id : PaymentId)
    (throws : ∀ command choice world, permits command choice world = true →
      unfailing command choice world = true) :
    Exclusive (clocked config permits) id where
  keeps := fun _ _ => ⟨trivial, trivial⟩
  record := by
    rintro before after (rfl | ⟨elapsed, rfl⟩) <;> rfl
  audit := by
    rintro before after (rfl | ⟨elapsed, rfl⟩) <;> rfl
  throws := throws

theorem exclusive_answers (id : PaymentId) :
    Exclusive (clocked config answers.permits) id :=
  exclusive_clocked id fun _ _ _ permitted => Answers.unfailing permitted

private theorem kind_of_refuses {failure : PaymentProcessingError}
    (refuses : Refuses (clocked config answers.permits) failure) :
    kind answers = false := by
  obtain ⟨payment, correlationId, response, world, allowed, refused⟩ := refuses
  have same : Choice.guard response = .guard answers.guard :=
    of_decide_eq_true allowed
  cases same
  rw [kind]
  split
  case h_1 transactionId httpStatus answered =>
    rw [answered] at refused
    cases refused
  case h_2 => rfl

private theorem accepted_of_accepts
    (accepts : Accepts (clocked config answers.permits)) :
    ∃ transactionId httpStatus,
      answers.guard = .answered (.ok transactionId httpStatus) := by
  obtain ⟨payment, correlationId, transactionId, httpStatus, world,
    allowed⟩ := accepts
  have same : Choice.guard (.answered (.ok transactionId httpStatus)) =
      .guard answers.guard := of_decide_eq_true allowed
  exact ⟨transactionId, httpStatus, (Choice.guard.inj same).symm⟩

private theorem ledger_of_appends {succeeds : Bool}
    (appends : Appends (clocked config answers.permits) succeeds) :
    answers.ledger.faultless = succeeds := by
  obtain ⟨entry, choice, world, allowed, thrown⟩ := appends
  have same : choice = answers.ledger := of_decide_eq_true allowed
  rw [← same]
  exact thrown

private theorem refund_of_refunds {refund : Except String String}
    (refunds : Refunds (clocked config answers.permits) refund) :
    (match answers.refund with
      | .ok _ _ => true
      | .fail _ => false) = refund.isOk := by
  cases refund with
  | ok refundId =>
      obtain ⟨_, _, refundId, httpStatus, _, allowed⟩ := refunds
      have same : Choice.refund (.ok refundId httpStatus) =
          .refund answers.refund := of_decide_eq_true allowed
      rw [← Choice.refund.inj same]
      rfl
  | error failure =>
      obtain ⟨_, _, failure, _, allowed⟩ := refunds
      have same : Choice.refund (.fail failure) = .refund answers.refund :=
        of_decide_eq_true allowed
      rw [← Choice.refund.inj same]
      rfl

private theorem kind_of_settled
    (accepts : Accepts (clocked config answers.permits))
    (appends : Appends (clocked config answers.permits) true) :
    kind answers = true := by
  obtain ⟨transactionId, httpStatus, accepted⟩ := accepted_of_accepts accepts
  rw [kind, accepted, ledger_of_appends appends]
  rfl

private theorem kind_of_compensated {refund : Except String String}
    (accepts : Accepts (clocked config answers.permits))
    (throws : Appends (clocked config answers.permits) false)
    (refunds : Refunds (clocked config answers.permits) refund) :
    kind answers = refund.isOk := by
  obtain ⟨transactionId, httpStatus, accepted⟩ := accepted_of_accepts accepts
  rw [kind, accepted, ledger_of_appends throws,
    refund_of_refunds refunds]
  rfl

section Records

variable {start record : PaymentRecord} {shape : Shape}

theorem account_append (history entries : List SagaHistoryEntry) :
    account (history ++ entries) =
      (entries.map mark).foldl Account.note (account history) := by
  rw [account, List.map_append, List.foldl_append]
  rfl

/-- The account after an attempt is the account before it and what the attempt
noted. -/
theorem account_of_became (became : Became start shape record) :
    account record.history =
      shape.marks.foldl Account.note (account start.history) := by
  obtain ⟨entries, grown, marks⟩ := became.history
  rw [grown, account_append, marks]

/-- Every charge so far was refunded. -/
def Unspent (record : PaymentRecord) : Prop :=
  (account record.history).unrefunded = 0

theorem Unspent.started (unspent : Unspent record) (attempt : Nat)
    (now : Time) : Unspent (transitionToProcessing record attempt now) := by
  rw [Unspent, transitionToProcessing, account_append]
  simp only [List.map_cons, List.map_nil, List.foldl_cons, List.foldl_nil,
    mark, Account.note]
  split <;> exact unspent

/-- The state says that the funds are reserved, but they were released. -/
structure Stuck (record : PaymentRecord) : Prop where
  state : record.sagaState = .reserved
  released : (account record.history).released = true

theorem Stuck.unfaithful (stuck : Stuck record) : ¬ Faithful record := by
  intro faithful
  have held := faithful.reserved stuck.state
  rw [stuck.released] at held
  cases held

theorem Stuck.buried (stuck : Stuck record) (reason : String) (now : Time) :
    Stuck (transitionToDeadLetter record reason now) := by
  refine ⟨stuck.state, ?_⟩
  rw [transitionToDeadLetter, account_append]
  exact stuck.released

private theorem stuck_of_declined {reservationId code : String}
    (became : Became start (declined start reservationId code).current
      record) : Stuck record := by
  refine ⟨became.state, ?_⟩
  rw [account_of_became became, marks_declined]
  simp [Account.note]

private theorem unspent_of_declined {reservationId code : String}
    (became : Became start (declined start reservationId code).current
      record) (unspent : Unspent start) : Unspent record := by
  have clear : (account start.history).unrefunded = 0 := unspent
  rw [Unspent, account_of_became became, marks_declined]
  simp [Account.note, clear]

private theorem faithful_completed {outcome : PaymentSagaService.SagaOutcome}
    (became : Became start
      (settled start outcome.reservationId outcome.transactionId).current
      record)
    (completedAt : Time) :
    Faithful
      { transitionToCompleted record (some outcome.transactionId)
          completedAt with
        sagaState := .settled
        reservationId := some outcome.reservationId
        failureReason := none } where
  reserved := nofun
  compensated := nofun
  reason := nofun
  settled := by
    intro _
    show (account record.history).settled = true
    rw [account_of_became became, marks_settled]
    simp [Account.note]

private theorem faithful_buried (unspent : Unspent start)
    {reservationId transactionId message refundId : String}
    (became : Became start (compensated start reservationId transactionId
      message (.ok refundId)).current record)
    (reason : String) (now : Time) :
    Faithful (transitionToDeadLetter record reason now) := by
  have refunded : Refunded (transitionToDeadLetter record reason now) := by
    constructor
    · rw [transitionToDeadLetter, account_append, account_of_became became,
        marks_compensated]
      have clear : (account start.history).unrefunded = 0 := unspent
      simp [Account.note, mark, clear]
    · intro _
      have carried : record.refundId = some refundId := became.refund
      rw [transitionToDeadLetter, carried]
      rfl
  have state : (transitionToDeadLetter record reason now).sagaState =
      .compensated := became.state
  exact {
    reserved := fun other => by
      rw [state] at other
      cases other
    compensated := fun _ => refunded
    reason := fun _ _ _ => refunded
    settled := fun other => by
      rw [state] at other
      cases other }

private theorem unfaithful_buried
    {reservationId transactionId message failure : String}
    (became : Became start (compensated start reservationId transactionId
      message (.error failure)).current record)
    (reason : String) (now : Time) :
    ¬ Faithful (transitionToDeadLetter record reason now) := by
  intro faithful
  obtain ⟨unrefunded, -⟩ := faithful.compensated became.state
  rw [transitionToDeadLetter, account_append, account_of_became became,
    marks_unrefunded] at unrefunded
  simp [Account.note, mark] at unrefunded

end Records

/-- The record of a payment whose next attempt may succeed. -/
structure Ready (id : PaymentId) (record : PaymentRecord) : Prop where
  id : record.id = id
  unspent : Unspent record

/-- The record after an attempt whose charge was refused. -/
structure Declined (id : PaymentId) (record : PaymentRecord) : Prop extends
    Ready id record, Stuck record where
  status : record.status = .processing

/-- The record is faithful exactly after kind answers. -/
def Judged (answers : Answers) (record : PaymentRecord) : Prop :=
  Faithful record ↔ kind answers = true

/-- How an attempt ends that began with the document `before`. -/
def Ends (answers : Answers) (id : PaymentId)
    (before : Option (Stored PaymentRecord)) :
    Except Thrown ProcessResult → World → Prop
  | .ok result, world =>
      if result.skips = true then world.payments id = before
      else Reads (Judged answers) (world.payments id)
  | .error _, world =>
      kind answers = false ∧ Reads (Declined id) (world.payments id)

section Burial

variable {contract : Contract (machine config)} {pid : Nat} {id : PaymentId}
  {locals : Type} {vars : locals} {world : World}
  {property result : PaymentRecord → Prop} {reason : String}
  {correlationId : Option String}
  (exclusive : Exclusive contract id)

include exclusive

private theorem safe_routeToDlq {fact : Option (Stored PaymentRecord) → Prop}
    (entry : DlqEntry) (known : fact (world.payments id)) :
    Async.Safe contract pid (fun outcome left current => left = vars ∧
      Leaves id fact outcome current) (QueueManager.routeToDlq entry) vars
      world := by
  refine safe_next (safe_command (Exits.moves_beside exclusive rfl rfl)
    (stable_document exclusive) known) ?_
  intro _ current known
  exact safe_command (Exits.moves_beside exclusive rfl rfl)
    (stable_document exclusive) known

private theorem safe_deadLetter {latest : PaymentRecord} (same : latest.id = id)
    (buried : ∀ now, result (transitionToDeadLetter latest reason now)) :
    Async.Safe contract pid (fun outcome left current => left = vars ∧
      outcome = .ok (.deadLetter id reason) ∧
        Reads result (current.payments id))
      (deadLetter config latest id reason correlationId) vars world := by
  refine Async.safe_bind (Async.safe_dateNow fun now => ?_)
  have saved : Reads result
      (some (.parsed (transitionToDeadLetter latest reason now))) :=
    ⟨_, rfl, buried now⟩
  refine safe_next (safe_save exclusive same saved) ?_
  intro _ current known
  refine safe_next (Exits.safe_finalize exclusive known) ?_
  intro _ current known
  refine safe_next (safe_audits exclusive known) ?_
  intro _ current known
  refine safe_next (safe_emits exclusive known) ?_
  intro _ current known
  refine safe_next (safe_emits exclusive known) ?_
  intro _ current known
  refine Async.safe_bind (Async.safe_dateNow fun deadLetteredAt => ?_)
  refine safe_next (safe_routeToDlq exclusive _ known) ?_
  intro _ current known
  exact Async.safe_pure ⟨rfl, rfl, known⟩

/-- A record in the store that is not terminal is dead-lettered. -/
theorem safe_finalizeDeadLetter {record : PaymentRecord}
    (same : record.id = id)
    (alive : ∀ doc, property doc → doc.id = id ∧ doc.status = .processing)
    (buried : ∀ doc now, property doc →
      result (transitionToDeadLetter doc reason now))
    (known : Reads property (world.payments id)) :
    Async.Safe contract pid (fun outcome left current => left = vars ∧
      outcome = .ok (.deadLetter id reason) ∧
        Reads result (current.payments id))
      (finalizeDeadLetter config record reason correlationId) vars world := by
  subst same
  refine safe_found exclusive ?_ known
  intro latest current holds _
  obtain ⟨ours, processing⟩ := alive latest holds
  have unfinished : latest.status.terminal = false := by
    rw [processing]
    rfl
  simp only [Option.getD_some, unfinished, Bool.false_eq_true, if_false]
  exact safe_deadLetter exclusive ours fun now => buried latest now holds

private theorem safe_handleJobFailure {data : PaymentJobData} {error : Thrown}
    (same : data.paymentId = id)
    (known : Reads (Declined id) (world.payments id)) :
    Async.Safe contract pid (fun outcome _ current =>
      outcome = .ok () ∧ Reads Stuck (current.payments id))
      (handleJobFailure config data error) vars world := by
  subst same
  refine safe_found exclusive ?_ known
  intro record current declined known
  have unfinished : record.status.terminal = false := by
    rw [declined.status]
    rfl
  simp only [unfinished, Bool.false_eq_true, if_false]
  refine Async.safe_bind ((safe_finalizeDeadLetter exclusive declined.id
    (fun doc declined => ⟨declined.id, declined.status⟩)
    (fun doc now declined => declined.toStuck.buried _ now) known).mono ?_)
  rintro outcome left final ⟨-, rfl, stuck⟩
  exact Async.safe_pure ⟨rfl, stuck⟩

end Burial

section Attempt

variable {pid : Nat} {record start : PaymentRecord} {world : World}
  {log : List AuditEvent} {job : JobHandle}
  {before : Option (Stored PaymentRecord)}

/-- The entry that announces a retry says nothing about the money. -/
theorem note_retry (account : Account) (code : PaymentErrorCode)
    (detail : Option String) :
    account.note ⟨.charge,
      s!"transient failure ({code.text}), will retry", detail⟩ = account := by
  cases code <;> rfl

private theorem declined_retried {reservationId : String}
    {code : PaymentErrorCode}
    (became : Became start (declined start reservationId code.text).current
      record)
    (unspent : Unspent start) (processing : start.status = .processing)
    (message : String) (now : Time) :
    Declined start.id { record with
      history := record.history ++ [⟨.charge,
        s!"transient failure ({code.text}), will retry", some message,
        now⟩] } := by
  have same : account (record.history ++ [⟨.charge,
      s!"transient failure ({code.text}), will retry", some message, now⟩]) =
      account record.history := by
    rw [account_append]
    exact note_retry _ code (some message)
  have stuck := stuck_of_declined became
  exact {
    id := became.id
    unspent := (congrArg Account.unrefunded same).trans
      (unspent_of_declined became unspent)
    state := stuck.state
    released := (congrArg Account.released same).trans stuck.released
    status := became.status.trans processing }

/-- A permanent failure is dead-lettered from the record that was saved. -/
theorem safe_bury {shape : Shape} {reason : String}
    {correlationId : Option String} (ours : record.id = start.id)
    (processing : start.status = .processing)
    (judged : ∀ doc now, Became start shape doc →
      Judged answers (transitionToDeadLetter doc reason now))
    (stored : Reads (Became start shape) (world.payments start.id)) :
    Async.Safe (clocked config answers.permits) pid
      (fun outcome _ => Ends answers start.id before outcome)
      (finalizeDeadLetter config record reason correlationId) record
      world := by
  refine (safe_finalizeDeadLetter (exclusive_answers start.id) ours
    (fun doc became => ⟨became.id, became.status.trans processing⟩) judged
    stored).mono ?_
  rintro outcome left final ⟨-, rfl, judged⟩
  exact judged

private theorem safe_declined (unspent : Unspent start)
    (processing : start.status = .processing) {reservationId : String}
    {failure : PaymentProcessingError} (unkind : kind answers = false)
    (stands : Stands start log
      (declined start reservationId failure.code.text) record world)
    (startedAt : Time) :
    Async.Safe (clocked config answers.permits) pid
      (fun outcome _ => Ends answers start.id before outcome)
      (failAttempt config job startedAt (.processing failure)) record
      world := by
  have exclusive : Exclusive (clocked config answers.permits) start.id :=
    exclusive_answers start.id
  have stored : Reads (Became start
      (declined start reservationId failure.code.text).current)
      (world.payments start.id) := stands.stored _ rfl
  refine Async.safe_bind (Async.safe_get ?_)
  refine safe_next (Async.safe_bind (Async.safe_get
    (safe_emits exclusive stored))) ?_
  intro _ current stored
  split
  · refine safe_bury stands.current.id processing ?_ stored
    intro doc now became
    have stuck := (stuck_of_declined became).buried failure.message now
    exact iff_of_false stuck.unfaithful (by simp [unkind])
  · refine Async.safe_bind (Async.safe_bind (Async.safe_dateNow fun now =>
      Async.safe_modify ?_))
    have retried : Reads (Declined start.id) (some (.parsed { record with
        history := record.history ++ [⟨.charge,
          s!"transient failure ({failure.code.text}), will retry",
          some failure.message, now⟩] })) :=
      ⟨_, rfl, declined_retried stands.current unspent processing _ now⟩
    refine safe_next (Async.safe_bind (Async.safe_get
      (safe_save exclusive stands.current.id retried))) ?_
    intro _ current known
    exact Async.safe_throw ⟨unkind, known⟩

private theorem safe_compensated (unspent : Unspent start)
    (processing : start.status = .processing)
    {reservationId transactionId message gatewayId : String}
    {refund : Except String String} (kindness : kind answers = refund.isOk)
    (stands : Stands start log (compensated start reservationId transactionId
      message refund) record world) (startedAt : Time) :
    Async.Safe (clocked config answers.permits) pid
      (fun outcome _ => Ends answers start.id before outcome)
      (failAttempt config job startedAt (.processing
        (PaymentSagaService.settleError transactionId message gatewayId)))
      record world := by
  have stored : Reads (Became start (compensated start reservationId
      transactionId message refund).current) (world.payments start.id) :=
    stands.stored _ rfl
  refine Async.safe_bind (Async.safe_get ?_)
  refine safe_next (Async.safe_bind (Async.safe_get
    (safe_emits (exclusive_answers start.id) stored))) ?_
  intro _ current stored
  refine safe_bury stands.current.id processing ?_ stored
  intro doc now became
  cases refund with
  | ok refundId =>
      exact iff_of_true (faithful_buried unspent became _ now) kindness
  | error failure =>
      refine iff_of_false (unfaithful_buried became _ now) ?_
      rw [kindness]
      exact Bool.false_ne_true

private theorem safe_failAttempt (unspent : Unspent start)
    (processing : start.status = .processing) {error : Thrown}
    (exits : Exit (clocked config answers.permits) start log (.error error)
      record world) (startedAt : Time) :
    Async.Safe (clocked config answers.permits) pid
      (fun outcome _ => Ends answers start.id before outcome)
      (failAttempt config job startedAt error) record world := by
  rcases exits with ⟨reservationId, failure, rfl, refuses, stands⟩ |
    ⟨reservationId, transactionId, message, gatewayId, refund, rfl, accepts,
      throws, refunds, stands⟩
  · exact safe_declined unspent processing (kind_of_refuses refuses) stands
      startedAt
  · exact safe_compensated unspent processing
      (kind_of_compensated accepts throws refunds) stands startedAt

private theorem safe_settleAttempt (before : Option (Stored PaymentRecord))
    (same : job.data.paymentId = start.id) (startedAt : Time) :
    Async.Safe (clocked config answers.permits) pid
      (fun outcome left current =>
        match outcome with
        | .ok result => Ends answers start.id before (.ok result) current
        | .error error => ∃ log, Exit (clocked config answers.permits) start
            log (.error error) left current)
      (settleAttempt config job startedAt) start world := by
  have exclusive : Exclusive (clocked config answers.permits) start.id :=
    exclusive_answers start.id
  refine Async.safe_bind ((safe_execute exclusive
    (stands_began start world)).mono ?_)
  intro outcome record world exits
  cases outcome with
  | error error => exact ⟨_, exits⟩
  | ok outcome =>
      obtain ⟨accepts, appends, stands⟩ := exits
      refine Async.safe_bind (Async.safe_dateNow fun completedAt => ?_)
      refine Async.safe_bind (Async.safe_modify ?_)
      have completed : Reads (Judged answers) (some (.parsed
          { transitionToCompleted record (some outcome.transactionId)
              completedAt with
            sagaState := .settled
            reservationId := some outcome.reservationId
            failureReason := none })) :=
        ⟨_, rfl, iff_of_true (faithful_completed stands.current completedAt)
          (kind_of_settled accepts appends)⟩
      refine safe_next (Async.safe_bind (Async.safe_get
        (safe_save exclusive stands.current.id completed))) ?_
      intro _ current known
      rw [same]
      refine safe_next (Exits.safe_finalize exclusive known) ?_
      intro _ current known
      refine safe_next (safe_audits exclusive known) ?_
      intro _ current known
      refine Async.safe_bind (Async.safe_get ?_)
      refine safe_next (safe_emits exclusive known) ?_
      intro _ current known
      refine safe_next (Async.safe_bind (Async.safe_get
        (safe_emits exclusive known))) ?_
      intro _ current known
      exact Async.safe_pure known

private theorem safe_attempt (before : Option (Stored PaymentRecord))
    (unspent : Unspent record) (same : job.data.paymentId = record.id)
    (startedAt : Time) :
    Async.Safe (clocked config answers.permits) pid
      (fun outcome _ => Ends answers record.id before outcome)
      (attempt config job startedAt) record world := by
  have exclusive : Exclusive (clocked config answers.permits) record.id :=
    exclusive_answers record.id
  have ours : job.data.paymentId =
      (transitionToProcessing record job.attemptsMade startedAt).id := same
  have saved : Reads (fun _ => True) (some (.parsed
      (transitionToProcessing record job.attemptsMade startedAt))) :=
    ⟨_, rfl, trivial⟩
  refine Async.safe_bind (Async.safe_modify ?_)
  refine safe_next (Async.safe_bind (Async.safe_get
    (safe_save exclusive rfl saved))) ?_
  intro _ current known
  refine safe_next (safe_audits exclusive known) ?_
  intro _ current known
  refine Async.safe_bind (Async.safe_get ?_)
  refine safe_next (safe_emits exclusive known) ?_
  intro _ current known
  refine Async.safe_tryCatch ((safe_settleAttempt before ours
    startedAt).mono ?_)
  intro outcome left current reached
  cases outcome with
  | ok result => exact reached
  | error error =>
      obtain ⟨log, exits⟩ := reached
      exact safe_failAttempt (unspent.started _ startedAt) rfl exits startedAt

/-- How the attempt ends can be read from the document alone. -/
theorem Ends.same {id : PaymentId} {outcome : Except Thrown ProcessResult}
    {first second : World} (ends : Ends answers id before outcome first)
    (same : second.payments id = first.payments id) :
    Ends answers id before outcome second := by
  cases outcome <;> simpa only [Ends, same] using ends

private theorem safe_lockedAttempt (unspent : Unspent record)
    (same : job.data.paymentId = record.id) (startedAt : Time) :
    Async.Safe (clocked config answers.permits) pid
      (fun outcome _ => Ends answers record.id before outcome)
      (lockedAttempt config job startedAt) record world := by
  have exclusive : Exclusive (clocked config answers.permits) record.id :=
    exclusive_answers record.id
  refine Async.safe_tryFinally ((safe_attempt before unspent same
    startedAt).mono ?_)
  intro outcome left current ends
  refine (safe_releases exclusive
    (Eq.refl (current.payments record.id))).mono ?_
  intro cleaned last final reached
  obtain ⟨-, reached⟩ := reached
  cases cleaned with
  | ok _ => exact ends.same (Eq.symm reached)
  | error error => exact reached.elim

private theorem safe_acquireExecutionLock {locals : Type} {vars : locals}
    {id : PaymentId} {fact : Option (Stored PaymentRecord) → Prop}
    (known : fact (world.payments id)) :
    Async.Safe (clocked config answers.permits) pid
      (fun outcome left current => left = vars ∧
        Leaves id fact outcome current)
      (IdempotencyService.acquireExecutionLock config id) vars world := by
  have exclusive : Exclusive (clocked config answers.permits) id :=
    exclusive_answers id
  refine safe_next (safe_command (Exits.moves_beside exclusive rfl rfl)
    (stable_document exclusive) known) ?_
  intro acquired current known
  cases acquired with
  | false => exact Async.safe_pure ⟨rfl, known⟩
  | true =>
      refine safe_next (safe_idempotencyRead
        (Exits.moves_beside exclusive rfl rfl) (stable_document exclusive)
        known) ?_
      intro existing current known
      refine Async.safe_bind (Async.safe_dateNow fun now => ?_)
      refine safe_next (safe_command (Exits.moves_beside exclusive rfl rfl)
        (stable_document exclusive) known) ?_
      intro _ current known
      exact Async.safe_pure ⟨rfl, known⟩

private theorem safe_processJob {locals : Type} {vars : locals} {id : PaymentId}
    (same : job.data.paymentId = id) (ready : Ready id record)
    (stored : world.payments id = some (.parsed record)) :
    Async.Safe (clocked config answers.permits) pid
      (fun outcome _ => Ends answers id (some (.parsed record)) outcome)
      (processJob config job) vars world := by
  subst same
  have exclusive : Exclusive (clocked config answers.permits)
      job.data.paymentId := exclusive_answers job.data.paymentId
  have known : Reads (fun found => found = record)
      (world.payments job.data.paymentId) := ⟨record, stored, rfl⟩
  refine Async.safe_bind (Async.safe_dateNow fun startedAt => ?_)
  refine safe_found exclusive ?_ known
  rintro found current rfl known
  refine safe_next (safe_idempotencyRead
    (Exits.moves_beside exclusive rfl rfl) (stable_document exclusive)
    known) ?_
  intro idem current known
  split
  · obtain ⟨_, unchanged, rfl⟩ := known
    exact Async.safe_pure unchanged
  · refine safe_next (safe_acquireExecutionLock known) ?_
    intro acquired current known
    cases acquired with
    | false =>
        obtain ⟨_, unchanged, rfl⟩ := known
        exact Async.safe_pure unchanged
    | true =>
        rw [← ready.id]
        exact Async.safe_scope
          (safe_lockedAttempt ready.unspent ready.id.symm startedAt)

end Attempt

section Runs

variable {input : CreatePaymentInput} {start world after : World}
  {past : List Answers} {pid : Nat} {record : PaymentRecord}

/-- A delivery that is executed. -/
theorem process_ends {handle : JobHandle} {output : Except Thrown Output}
    (same : handle.data.paymentId = input.id) (ready : Ready input.id record)
    (stored : world.payments input.id = some (.parsed record))
    (executes : (Task.process handle).Executes config answers.permits pid
      world output after) :
    ∃ outcome, output = Except.map Output.processed outcome ∧
      Ends answers input.id (some (.parsed record)) outcome after := by
  have safe : (((Task.process handle).body config).start world.now).Safe
      (clocked config answers.permits) pid (fun output final =>
        ∃ outcome, output = Except.map Output.processed outcome ∧
          Ends answers input.id (some (.parsed record)) outcome final)
      world := by
    apply Async.Safe.start
    refine Async.safe_bind ((safe_processJob same ready stored).mono ?_)
    intro outcome left final ended
    cases outcome with
    | ok result => exact Async.safe_pure ⟨.ok result, rfl, ended⟩
    | error error => exact ⟨.error error, rfl, ended⟩
  exact safe.completes (fun _ _ _ _ => trivial) trivial executes

/-- The failure handler is executed. -/
theorem handler_ends {data : PaymentJobData} {error : Thrown}
    {output : Except Thrown Output} (same : data.paymentId = input.id)
    (declined : Reads (Declined input.id) (world.payments input.id))
    (executes : (Task.handleJobFailure data error).Executes config unfailing
      pid world output after) :
    Reads Stuck (after.payments input.id) := by
  have exclusive : Exclusive (clocked config unfailing) input.id :=
    exclusive_clocked input.id fun _ _ _ permitted => permitted
  have safe : (((Task.handleJobFailure data error).body config).start
      world.now).Safe (clocked config unfailing) pid
      (fun _ final => Reads Stuck (final.payments input.id)) world := by
    apply Async.Safe.start
    refine Async.safe_bind ((safe_handleJobFailure exclusive same
      declined).mono ?_)
    rintro outcome left final ⟨rfl, stuck⟩
    exact Async.safe_pure stuck
  exact safe.completes (fun _ _ _ _ => trivial) trivial executes

private theorem endsKindly_append (past : List Answers) (answers : Answers) :
    endsKindly (past ++ [answers]) = kind answers := by
  simp [endsKindly]

/-- The record is faithful exactly if the last attempt was kind. -/
def Tells (past : List Answers) (record : PaymentRecord) : Prop :=
  Faithful record ↔ endsKindly past = true

/-- What holds between the attempts. -/
def Lives (input : CreatePaymentInput) (past : List Answers) :
    Phase → World → Prop
  | .waiting, world => Enqueued input world ∧
      Reads (fun record => Ready input.id record ∧ Tells past record)
        (world.payments input.id)
  | .failed _, world => Enqueued input world ∧ endsKindly past = false ∧
      Reads (Declined input.id) (world.payments input.id)
  | .acknowledged _, world | .exhausted, world =>
      Reads (Tells past) (world.payments input.id)

theorem Lives.waiting_of_failed {error : Thrown}
    (failed : Lives input past (.failed error) world) :
    Lives input past .waiting world := by
  obtain ⟨enqueued, unkind, record, stored, declined⟩ := failed
  refine ⟨enqueued, record, stored, declined.toReady, ?_⟩
  exact iff_of_false declined.toStuck.unfaithful (by simp [unkind])

theorem Lives.returned {active final : World} {handle : JobHandle}
    {result : ProcessResult} (waiting : Lives input past .waiting world)
    (delivered : Delivered input world handle active)
    (executes : (Task.process handle).Executes config answers.permits pid
      active (.ok (.processed result)) after)
    (acknowledged : environment (.complete
      (QueueManager.queueNameFor input.gatewayId) input.id) after =
        some final) :
    Lives input (if result.skips then past else past ++ [answers])
      (.acknowledged result) final := by
  obtain ⟨enqueued, record, stored, ready, tells⟩ := waiting
  obtain ⟨same, -, next, moved, -⟩ := enqueued.delivered delivered
  have handed : active.payments input.id = some (.parsed record) := by
    rw [moved]
    exact stored
  obtain ⟨outcome, returned, ends⟩ := process_ends same ready handed executes
  obtain ⟨next, rfl⟩ := environment_complete acknowledged
  cases outcome with
  | error error => cases returned
  | ok outcome =>
      cases returned
      show Reads (Tells _) (after.payments input.id)
      rw [Ends] at ends
      split at ends
      case isTrue skips =>
        rw [if_pos skips, ends]
        exact ⟨record, rfl, tells⟩
      case isFalse carried =>
        obtain ⟨left, stored, judged⟩ := ends
        rw [if_neg carried]
        refine ⟨left, stored, ?_⟩
        rw [Tells, endsKindly_append]
        exact judged

theorem Lives.thrown {active final : World} {handle : JobHandle}
    {error : Thrown} (waiting : Lives input past .waiting world)
    (delivered : Delivered input world handle active)
    (executes : (Task.process handle).Executes config answers.permits pid
      active (.error error) after)
    (failed : environment (.fail
      (QueueManager.queueNameFor input.gatewayId) input.id) after =
        some final) :
    Lives input (past ++ [answers]) (.failed error) final := by
  obtain ⟨enqueued, record, stored, ready, -⟩ := waiting
  obtain ⟨same, queued, next, moved, -⟩ := enqueued.delivered delivered
  have handed : active.payments input.id = some (.parsed record) := by
    rw [moved]
    exact stored
  obtain ⟨outcome, returned, ends⟩ := process_ends same ready handed executes
  obtain ⟨still, next, rfl, -⟩ := (queued.executed executes).failed failed
  cases outcome with
  | ok result => cases returned
  | error error =>
      refine ⟨still, ?_, ends.2⟩
      rw [endsKindly_append]
      exact ends.1

/-- The invariant of a run. -/
theorem lives {phase : Phase} (fresh : Lives input [] .waiting start)
    (attempted : Attempted config input start past phase world) :
    Lives input past phase world := by
  induction attempted with
  | enqueued => exact fresh
  | @elapsed past phase world elapsed _ induction =>
      cases phase with
      | waiting | failed error | acknowledged result | exhausted =>
          exact induction
  | returned _ delivered executes acknowledged induction =>
      exact induction.returned delivered executes acknowledged
  | thrown _ delivered executes failed induction =>
      exact induction.thrown delivered executes failed
  | retried _ _ _ induction => exact induction.waiting_of_failed
  | handled _ stored _ carried executes induction =>
      obtain ⟨⟨job, data, queued, sameData, same⟩, unkind, declined⟩ :=
        induction
      obtain rfl := Option.some.inj (stored.symm.trans queued)
      obtain rfl := JobData.payment.inj (carried.symm.trans sameData)
      obtain ⟨left, stored, stuck⟩ := handler_ends same declined executes
      exact ⟨left, stored, iff_of_false stuck.unfaithful (by simp [unkind])⟩

/-- The record of a payment that was just created is faithful, and its first
attempt may succeed. -/
theorem lives_created {created : Time} (enqueued : Enqueued input start)
    (stored : start.payments input.id = some (.parsed
      (createPaymentRecord (PaymentService.newPayment input) created))) :
    Lives input [] .waiting start := by
  refine ⟨enqueued, _, stored, ⟨rfl, rfl⟩, ?_⟩
  refine iff_of_true ?_ rfl
  exact {
    reserved := nofun
    compensated := nofun
    reason := nofun
    settled := nofun }

/-- In every run of attempts on a new payment, whatever the guard, the ledger
and the refund answer, the stored record is faithful exactly if the last attempt
charged and settled, or charged and refunded. -/
theorem saga_state_faithful_iff (config : AppConfig)
    (input : CreatePaymentInput) (start world : World) (created : Time)
    (past : List Answers) (phase : Phase)
    (stored : start.payments input.id = some (.parsed
      (createPaymentRecord (PaymentService.newPayment input) created)))
    (enqueued : Enqueued input start)
    (attempted : Attempted config input start past phase world) :
    (∀ record, world.payment input.id = some record → Faithful record) ↔
      endsKindly past = true := by
  have left := lives (lives_created enqueued stored) attempted
  have told : Reads (Tells past) (world.payments input.id) := by
    cases phase with
    | waiting =>
        obtain ⟨-, record, stored, -, tells⟩ := left
        exact ⟨record, stored, tells⟩
    | failed error =>
        obtain ⟨-, record, stored, -, tells⟩ := left.waiting_of_failed
        exact ⟨record, stored, tells⟩
    | acknowledged result => exact left
    | exhausted => exact left
  obtain ⟨record, stored, tells⟩ := told
  have found : world.payment input.id = some record := by
    rw [World.payment, stored]
    rfl
  refine Iff.trans ?_ tells
  simp [found]

end Runs

/-- The gateway answers with a failure. -/
def failing (code : PaymentErrorCode) : Answers :=
  ⟨.answered (.fail ⟨code, "failed", 503⟩), .succeed, .ok "r1" 200⟩

/-- The charge is accepted and settled. -/
def settling : Answers :=
  ⟨.answered (.ok "t1" 200), .succeed, .ok "r1" 200⟩

/-- A delivery of payment `p1` with the given answers; all other commands
succeed. -/
def attemptWith (answers : Answers) (rest : Nat) (world : World) :
    Option (Phase × World) :=
  work .default (fun _ => answers.permits) (submission "stripe" 0)
    (List.replicate 11 .succeed ++ [.guard answers.guard] ++
      List.replicate rest .succeed) world

/-- The failed attempt leaves a job that is not exhausted, and the retry is
settled. -/
def recovers : Phase × World → Bool
  | (.failed _, world) =>
      (world.queues "stripe" "p1").any (fun job =>
        !QueueManager.exhausted job) &&
      (attemptWith settling 13 world).any (fun settled => !settled.1.skips)
  | _ => false

/-- The first charge times out, the retry is settled. -/
theorem saga_state_faithful_retried :
    ∃ past phase world,
      Attempted .default (submission "stripe" 0) acceptedWorld past phase
        world ∧ past.length = 2 ∧
      ∀ record, world.payment "p1" = some record → Faithful record := by
  have first : (attemptWith (failing .gatewayTimeout) 6 acceptedWorld).any
      recovers = true := by
    decide +kernel
  obtain ⟨⟨phase, world⟩, taken, checked⟩ := (Option.any_eq_true _ _).mp first
  cases phase with
  | waiting | acknowledged result | exhausted => cases checked
  | failed error =>
      obtain ⟨ready, settled⟩ := (Bool.and_eq_true _ _).mp checked
      obtain ⟨job, queued, more⟩ := (Option.any_eq_true _ _).mp ready
      obtain ⟨state, done, carried⟩ := (Option.any_eq_true _ _).mp settled
      have name : QueueManager.queueNameFor
          (submission "stripe" 0).gatewayId = "stripe" := by
        decide +kernel
      have retried := Attempted.retried (attempted_of_work .enqueued taken)
        (by rw [name]; exact queued) (by simpa using more)
      have ended := attempted_of_work retried done
      rw [Bool.not_eq_true'] at carried
      rw [carried] at ended
      refine ⟨_, state.1, state.2, ended, rfl, ?_⟩
      exact (saga_state_faithful_iff .default _ acceptedWorld state.2 0 _ _
        stored_accepted enqueued_accepted ended).mpr rfl

/-- The card is declined: the funds are released, and the dead-lettered record
still says that they are reserved. -/
theorem saga_state_unfaithful :
    ¬ ∀ (input : CreatePaymentInput) (start world : World) (created : Time)
      (past : List Answers) (phase : Phase),
      start.payments input.id = some (.parsed
        (createPaymentRecord (PaymentService.newPayment input) created)) →
      Enqueued input start →
      Attempted .default input start past phase world →
      ∀ record, world.payment input.id = some record → Faithful record := by
  intro faithful
  have ends : (attemptWith (failing .cardDeclined) 14 acceptedWorld).any
      (fun state => (state.2.payment "p1").any fun record =>
        decide (record.sagaState = .reserved) &&
          (account record.history).released) = true := by
    decide +kernel
  obtain ⟨state, taken, checked⟩ := (Option.any_eq_true _ _).mp ends
  obtain ⟨record, found, checked⟩ := (Option.any_eq_true _ _).mp checked
  obtain ⟨reserved, released⟩ := (Bool.and_eq_true _ _).mp checked
  have stuck : Stuck record := ⟨of_decide_eq_true reserved, released⟩
  exact stuck.unfaithful (faithful _ acceptedWorld state.2 0 _ state.1
    stored_accepted enqueued_accepted (attempted_of_work .enqueued taken)
    record found)

end PaymentQueue.SagaStates
