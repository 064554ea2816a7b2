import PaymentQueue.Await.Budget
import PaymentQueue.Outlines.Saga
import PaymentQueue.Outlines.Terms
import PaymentQueue.Runtime.Runs
import Mathlib.Data.Multiset.OrderedMonoid

/-!
# Nothing without what it rests on

A charge needs a delivery of its own, a settlement and a refund each need a
charge of their own, and a completion that is announced needs a settlement of
its own.  Processes earn these entitlements and spend them; crashes, errors,
expired keys and other processes cannot create one.
-/

namespace PaymentQueue

open Await PaymentSagaService PaymentProcessor

/-- What entitles a process to an effect. -/
inductive Entitlement where
  /-- A delivery of the job entitles to one charge. -/
  | execution (id : PaymentId)
  /-- A successful charge entitles to one settlement, -/
  | charge (id : PaymentId) (transactionId : String)
  /-- to one refund, -/
  | refund (transactionId : String)
  /-- and to one of the two, if no append takes effect unnoticed. -/
  | money (transactionId : String)
  /-- A settlement entitles to announce the completed payment, -/
  | completion (id : PaymentId)
  /-- and to report the successful attempt. -/
  | success (id : PaymentId)
  deriving DecidableEq

namespace Solvency

open Entitlement

/-- What an event of the bus claims. -/
def announced : AppEvent → Multiset Entitlement
  | .payment .completed id _ _ _ _ _ => {completion id}
  | .jobCompleted id _ true _ _ => {success id}
  | _ => 0

def cost : (command : Command) → Except Thrown command.Result →
    Multiset Entitlement
  | .guardCall payment _, _ => {execution payment.id}
  | .guardRefund _ transactionId, _ =>
      {money transactionId, refund transactionId}
  | .storage (.rpushSettlement entry), .ok _ =>
      {charge entry.paymentId entry.transactionId, money entry.transactionId}
  | .storage (.rpushSettlement entry), .error _ =>
      {charge entry.paymentId entry.transactionId}
  | .emit event, _ => announced event
  | _, _ => 0

def gain : (command : Command) → Except Thrown command.Result →
    Multiset Entitlement
  | .guardCall payment _, .ok (.ok transactionId _) =>
      {charge payment.id transactionId, money transactionId,
        refund transactionId}
  | .storage (.rpushSettlement entry), .ok _ =>
      {completion entry.paymentId, success entry.paymentId}
  | _, _ => 0

def tariff : Tariff signature (Multiset Entitlement) := ⟨cost, gain⟩

/-- Records are stored under their own id, and found under it. -/
def keyed : Footprint signature where
  permitted := fun command =>
    match command with
    | .storage (.hsetPayment id record) => record.id = id
    | _ => True
  replies := fun command outcome =>
    match command, outcome with
    | .storage (.hgetPayment id), .ok doc =>
        ∀ record, doc.bind Stored.parse? = some record → record.id = id
    | _, _ => True

def Keyed (world : World) : Prop :=
  ∀ id record, world.payment id = some record → record.id = id

/-- A delivery of a job is granted to its worker. -/
def grants : Task → Multiset Entitlement
  | .process job => {execution job.data.paymentId}
  | _ => 0

abbrev idle : Footprint signature := tariff.idle keyed

/-- A command that neither earns nor spends. -/
private theorem idles {command : Command} (permitted : keyed.permitted command)
    (free : ∀ outcome, cost command outcome = 0 ∧ gain command outcome = 0) :
    idle.permitted command :=
  ⟨permitted, free⟩

/-- Charges, settlements and what follows from them apart, the functions
neither earn nor spend. -/
def terms : Terms idle where
  own := fun id order => order.id = id
  named := fun _ => True
  concerns := fun _ _ => True
  carried := fun _ _ => True
  own_self := fun _ => rfl
  own_named := fun _ => trivial
  own_concerns := fun _ => trivial
  own_correlated := fun _ => trivial
  own_carried := fun _ _ => trivial
  loads := fun _ => idles trivial fun _ => ⟨rfl, rfl⟩
  loaded := fun replied found => replied _ found
  saves := fun _ _ => idles rfl fun _ => ⟨rfl, rfl⟩
  reads := fun _ => idles trivial fun _ => ⟨rfl, rfl⟩
  claims := fun _ _ _ _ _ => idles trivial fun _ => ⟨rfl, rfl⟩
  marks := fun _ _ _ _ _ => idles trivial fun _ => ⟨rfl, rfl⟩
  releases := fun _ => idles trivial fun _ => ⟨rfl, rfl⟩
  audits := fun _ _ _ _ => idles trivial fun _ => ⟨rfl, rfl⟩
  readies := fun _ => idles trivial fun _ => ⟨rfl, rfl⟩
  enqueues := fun _ _ _ => idles trivial fun _ => ⟨rfl, rfl⟩
  routes := fun _ _ => idles trivial fun _ => ⟨rfl, rfl⟩
  announces := by
    intro type id gatewayId correlationId status time detail uncompleted _ _
    refine idles trivial fun _ => ⟨?_, rfl⟩
    cases type with
    | completed => exact absurd rfl uncompleted
    | _ => rfl
  reports := fun _ _ _ _ _ => idles trivial fun _ => ⟨rfl, rfl⟩
  phases := fun _ _ _ _ _ _ => idles trivial fun _ => ⟨rfl, rfl⟩

section Saga

variable {id : PaymentId}

def Named (id : PaymentId) (record : PaymentRecord) : Prop :=
  record.id = id

variable {locals α : Type}

/-- The record keeps its id, and a call that returns leaves this credit at
least. -/
def Earns (id : PaymentId) (credit : Multiset Entitlement)
    (outcome : Except Thrown α) (left : PaymentRecord)
    (kept : Multiset Entitlement) : Prop :=
  Named id left ∧ (outcome.isOk = true → credit ≤ kept)

theorem earns_error {error : Thrown} {left : PaymentRecord}
    {credit kept : Multiset Entitlement} (named : Named id left) :
    Earns id credit (.error error : Except Thrown α) left kept :=
  ⟨named, by simp [Except.isOk, Except.toBool]⟩

theorem affords_command {command : Command} {vars : locals}
    {ends : Except Thrown command.Result → locals → Multiset Entitlement →
      Prop} {credit : Multiset Entitlement}
    (permitted : keyed.permitted command)
    (paid : ∀ outcome, ∃ rest, cost command outcome + rest ≤ credit ∧
      ends outcome vars (rest + gain command outcome)) :
    Async.Affords keyed tariff ends
      (awaitCommand command : Async locals command.Result) vars credit :=
  Async.affords_await permitted fun outcome _ => paid outcome

variable {record : PaymentRecord} (named : Named id record)

include named

private theorem affords_refundCharge (transactionId : String) :
    Async.Affords keyed tariff (fun _ left _ => Named id left)
      (refundCharge transactionId) record
      {money transactionId, refund transactionId} := by
  apply Async.affords_get_bind
  apply Async.affords_bind
  refine affords_command (by trivial) fun outcome => ?_
  refine ⟨0, le_of_eq (add_zero _), ?_⟩
  cases outcome with
  | error error => exact named
  | ok refund =>
      cases refund with
      | fail error =>
          refine Async.Stays.affords ?_ named fun _ _ kept => kept
          refine Async.stays_bind (terms.stays_history _ _ _) fun _ => ?_
          exact Async.stays_bind (terms.stays_auditRecord _ _) fun _ =>
            Terms.stays_emit fun _ => idles trivial fun _ => ⟨rfl, rfl⟩
      | ok refundId httpStatus =>
          refine Async.Stays.affords ?_ named fun _ _ kept => kept
          refine Async.stays_bind (Async.stays_modify fun _ kept => kept)
            fun _ => ?_
          exact Async.stays_bind (terms.stays_history _ _ _) fun _ =>
            terms.stays_auditRecord _ _

private theorem affords_compensateSettle (reservationId transactionId : String)
    (error : Thrown) (credit : Multiset Entitlement) :
    Async.Affords keyed tariff (Earns id credit)
      (compensateSettle reservationId transactionId error) record
      {money transactionId, refund transactionId} := by
  refine Async.affords_stays_bind (terms.stays_history _ _ _) named ?_
    fun _ _ => earns_error
  intro _ noted named
  apply Async.affords_bind
  refine (affords_refundCharge named transactionId).imp ?_
  intro outcome refunded kept named
  cases outcome with
  | error error => exact earns_error named
  | ok _ =>
      refine Async.affords_stays_bind (terms.stays_releaseFunds _) named ?_
        fun _ _ => earns_error
      intro _ released named
      refine Async.affords_stays_bind (Async.stays_modify fun _ named => named)
        named ?_ fun _ _ => earns_error
      intro _ compensated named
      refine Async.affords_stays_bind terms.stays_saveRecord named ?_
        fun _ _ => earns_error
      intro _ saved named
      refine Async.affords_stays_bind (terms.stays_emitPhase _ _) named ?_
        fun _ _ => earns_error
      intro _ emitted named
      exact Async.affords_get_bind (Async.affords_throw (earns_error named))

private theorem affords_ledger (transactionId : String) :
    Async.Affords keyed tariff
      (fun outcome left kept => Named id left ∧ kept =
        if outcome.isOk then
          {refund transactionId, completion id, success id}
        else {money transactionId, refund transactionId})
      (SettlementLedger.settle record transactionId) record
      {charge id transactionId, money transactionId,
        refund transactionId} := by
  obtain rfl := named
  refine Async.affords_bind fun now => ⟨_, le_refl _, ?_⟩
  apply Async.affords_bind
  refine @affords_command _ (.storage (.rpushSettlement _)) _ _ _ trivial
    fun outcome => ?_
  cases outcome with
  | ok _ =>
      refine ⟨{refund transactionId}, le_of_eq rfl, ?_⟩
      exact Async.affords_pure ⟨rfl, rfl⟩
  | error error =>
      exact ⟨{money transactionId, refund transactionId}, le_of_eq rfl,
        rfl, rfl⟩

private theorem affords_settle (reservationId transactionId : String) :
    Async.Affords keyed tariff
      (Earns id {refund transactionId, completion id, success id})
      (settle reservationId transactionId) record
      {charge id transactionId, money transactionId,
        refund transactionId} := by
  apply Async.affords_tryCatch
  apply Async.affords_get_bind
  apply Async.affords_bind
  refine (affords_ledger named transactionId).imp ?_
  rintro outcome left kept ⟨named, rfl⟩
  cases outcome with
  | ok entry => exact Async.affords_pure ⟨named, fun _ => le_refl _⟩
  | error error =>
      exact affords_compensateSettle named reservationId transactionId error _

private theorem affords_chargeFailed (reservationId : String)
    (error : PaymentProcessingError) (credit kept : Multiset Entitlement) :
    Async.Affords keyed tariff (Earns id credit)
      (chargeFailed reservationId error) record kept := by
  refine Async.affords_stays_bind (terms.stays_history _ _ _) named ?_
    fun _ _ => earns_error
  intro _ noted named
  refine Async.affords_stays_bind (terms.stays_releaseFunds _) named ?_
    fun _ _ => earns_error
  intro _ released named
  refine Async.affords_stays_bind terms.stays_saveRecord named ?_
    fun _ _ => earns_error
  intro _ saved named
  refine Async.affords_stays_bind (terms.stays_emitPhase _ _) named ?_
    fun _ _ => earns_error
  intro _ emitted named
  exact Async.affords_throw (earns_error named)

private theorem affords_execute :
    Async.Affords keyed tariff (Earns id {completion id, success id})
      execute record {execution id} := by
  refine Async.affords_stays_bind terms.stays_reserve named ?_
    fun _ _ => earns_error
  rintro reservationId left rfl
  apply Async.affords_bind
  apply Async.affords_get_bind
  refine @affords_command _ (.guardCall left left.correlationId) _ _ _ trivial
    fun outcome => ?_
  refine ⟨0, le_of_eq (add_zero _), ?_⟩
  cases outcome with
  | error error => exact earns_error rfl
  | ok response =>
      cases response with
      | fail error => exact affords_chargeFailed rfl reservationId error _ _
      | ok transactionId httpStatus =>
          show Async.Affords _ _ _ (_ >>= _) _ _
          refine Async.affords_stays_bind (terms.stays_charged _ _ _) rfl ?_
            fun _ _ => earns_error
          intro _ charged named
          apply Async.affords_bind
          rw [show gain _ _ = _ from rfl, zero_add]
          refine (affords_settle named reservationId transactionId).imp ?_
          rintro outcome settled kept ⟨named, earned⟩
          cases outcome with
          | error error => exact earns_error named
          | ok _ =>
              refine Async.affords_stays_bind (terms.stays_settled _) named ?_
                fun _ _ => earns_error
              intro _ left named
              refine Async.affords_pure ⟨named, fun _ => ?_⟩
              exact le_trans (Multiset.le_cons_self _ _) (earned rfl)

end Saga

section Processes

variable {locals : Type} {config : AppConfig} {job : JobHandle}
  {startedAt : Time}

/-- An announcement is paid with what it claims. -/
theorem affords_emit {vars : locals} {event : Time → AppEvent}
    {credit rest : Multiset Entitlement}
    (paid : ∀ now, announced (event now) + rest ≤ credit) :
    Async.Affords keyed tariff (fun _ left kept => left = vars ∧ kept = rest)
      (EventBus.emit event) vars credit := by
  refine Async.affords_bind fun now => ⟨_, le_refl _, ?_⟩
  refine @affords_command _ (.emit (event now)) _ _ _ trivial
    fun outcome => ⟨rest, paid now, ?_⟩
  exact ⟨rfl, add_zero rest⟩

private theorem affords_settleAttempt {record : PaymentRecord}
    (named : Named job.data.paymentId record) :
    Async.Affords keyed tariff
      (fun _ left _ => Named job.data.paymentId left)
      (settleAttempt config job startedAt) record
      {execution job.data.paymentId} := by
  apply Async.affords_bind
  refine (affords_execute named).imp ?_
  rintro outcome left kept ⟨named, earned⟩
  cases outcome with
  | error error => exact named
  | ok outcome =>
      refine Async.Affords.more ?_ (earned rfl)
      refine Async.affords_stays_bind Async.stays_dateNow named ?_
        fun _ _ named => named
      intro completedAt left named
      refine Async.affords_stays_bind (Async.stays_modify fun _ named => named)
        named ?_ fun _ _ named => named
      intro _ left named
      refine Async.affords_stays_bind terms.stays_saveRecord named ?_
        fun _ _ named => named
      intro _ left named
      refine Async.affords_stays_bind (terms.stays_finalize trivial _ _ _ _) named
        ?_ fun _ _ named => named
      intro _ left named
      refine Async.affords_stays_bind (terms.stays_audit trivial _ _) named ?_
        fun _ _ named => named
      intro _ left named
      apply Async.affords_get_bind
      apply Async.affords_bind
      refine (@affords_emit _ _ _ _ {success job.data.paymentId}
        (by exact fun _ => le_refl _)).imp ?_
      rintro outcome _ _ ⟨rfl, rfl⟩
      cases outcome with
      | error error => exact named
      | ok _ =>
          apply Async.affords_bind
          apply Async.affords_get_bind
          refine (@affords_emit _ _ _ _ 0
            (by exact fun _ => le_refl _)).imp ?_
          rintro outcome _ _ ⟨rfl, rfl⟩
          cases outcome with
          | error error => exact named
          | ok _ => exact Async.affords_pure named

private theorem affords_attempt {record : PaymentRecord}
    (named : Named job.data.paymentId record) :
    Async.Affords keyed tariff (fun _ _ _ => True)
      (attempt config job startedAt) record
      {execution job.data.paymentId} := by
  refine Async.affords_stays_bind (Async.stays_modify fun _ named => named)
    named ?_ fun _ _ _ => trivial
  intro _ left named
  refine Async.affords_stays_bind terms.stays_saveRecord named ?_
    fun _ _ _ => trivial
  intro _ left named
  refine Async.affords_stays_bind (terms.stays_audit trivial _ _) named ?_
    fun _ _ _ => trivial
  intro _ left named
  apply Async.affords_get_bind
  refine Async.affords_stays_bind (Terms.stays_emit fun _ =>
    terms.announces _ _ _ _ _ _ _ nofun trivial trivial) named ?_
    fun _ _ _ => trivial
  intro _ left named
  apply Async.affords_tryCatch
  refine (affords_settleAttempt named).imp ?_
  intro outcome left kept named
  cases outcome with
  | ok result => exact trivial
  | error error =>
      exact (terms.stays_failAttempt trivial startedAt error).affords named fun _ _ _ => trivial

/-- A first statement that neither earns nor spends. -/
theorem affords_then {α β : Type} {action : Async locals α}
    {next : α → Async locals β} {vars : locals}
    {credit : Multiset Entitlement}
    (first : Async.Stays idle (fun _ => True) action)
    (rest : ∀ value left, Async.Affords keyed tariff (fun _ _ _ => True)
      (next value) left credit) :
    Async.Affords keyed tariff (fun _ _ _ => True) (action >>= next) vars
      credit :=
  Async.affords_stays_bind first trivial (fun value left _ => rest value left)
    fun _ _ _ => trivial

private theorem affords_storeGet {α : Type} {id : PaymentId}
    {next : Option PaymentRecord → Async locals α} {vars : locals}
    {credit : Multiset Entitlement}
    (rest : ∀ found, (∀ record, found = some record → record.id = id) →
      Async.Affords keyed tariff (fun _ _ _ => True) (next found) vars
        credit) :
    Async.Affords keyed tariff (fun _ _ _ => True)
      (PaymentStore.get id >>= next) vars credit := by
  apply Async.affords_bind
  apply Async.affords_bind
  refine @Async.affords_await signature _ _ _ _ _ _ _ _
    (.storage (.hgetPayment id)) _ trivial ?_
  intro outcome replied
  refine ⟨credit, le_of_eq (zero_add credit), ?_⟩
  rw [show tariff.gain _ outcome = 0 by cases outcome <;> rfl, add_zero]
  cases outcome with
  | ok doc => exact Async.affords_pure (rest _ replied)
  | error error => exact trivial

private theorem affords_processJob {vars : locals} :
    Async.Affords keyed tariff (fun _ _ _ => True) (processJob config job)
      vars {execution job.data.paymentId} := by
  refine affords_then Async.stays_dateNow fun startedAt vars => ?_
  apply affords_storeGet
  intro found stored
  cases found with
  | none => exact Async.affords_throw trivial
  | some record =>
      have named : Named job.data.paymentId record := stored record rfl
      refine affords_then terms.stays_idempotencyGet fun idem vars => ?_
      split
      · exact Async.affords_pure trivial
      · have locks : idle.permitted (.storage
            (.setNxLock job.data.paymentId config.leaseTtlSeconds)) :=
          idles trivial fun _ => ⟨rfl, rfl⟩
        refine affords_then
          (terms.stays_acquireExecutionLock trivial locks) fun locked _ => ?_
        split
        · exact Async.affords_pure trivial
        · apply Async.affords_scope
          exact Async.affords_tryFinally (affords_attempt named)
            (Async.stays_await (idles trivial fun _ => ⟨rfl, rfl⟩))

/-- Only a delivery is given something, and it is enough. -/
theorem affords_code (task : Task) (time : Time) :
    ((task.body config).start time).Affords keyed tariff (fun _ _ => True)
      (grants task) := by
  cases task with
  | submit input =>
      exact (affords_then (terms.stays_submit fun _ => rfl) fun _ _ =>
        Async.affords_pure trivial).start time
  | process job =>
      refine Async.Affords.start (Async.affords_bind ?_) time
      refine affords_processJob.imp ?_
      intro outcome left kept _
      cases outcome with
      | ok result => exact Async.affords_pure trivial
      | error error => exact trivial
  | handleJobFailure jobData error =>
      exact (affords_then (terms.stays_handleJobFailure trivial error)
        fun _ _ => Async.affords_pure trivial).start time

end Processes

/-- What the entries of the three logs amount to. -/
structure Books where
  gateway : GatewayEvent → Multiset Entitlement
  settlement : SettlementEntry → Multiset Entitlement
  event : AppEvent → Multiset Entitlement

namespace Books

variable (books : Books)

def total (world : World) : Multiset Entitlement :=
  (world.gateway.map books.gateway).sum +
    (world.settlements.map books.settlement).sum +
      (world.events.map books.event).sum

/-- What a command adds to the logs. -/
def entry : Command → Choice → Multiset Entitlement
  | .guardCall payment _, .guard response =>
      ((response.events payment.id).map books.gateway).sum
  | .guardRefund gatewayId transactionId, .refund result =>
      books.gateway (.refund gatewayId transactionId result)
  | .storage (.rpushSettlement entry), choice =>
      if choice.isRefused then 0 else books.settlement entry
  | .emit event, _ => books.event event
  | _, _ => 0

private theorem total_of_same {before after : World}
    (gateway : after.gateway = before.gateway)
    (settlements : after.settlements = before.settlements)
    (events : after.events = before.events) :
    books.total after = books.total before := by
  simp only [total, gateway, settlements, events]

private theorem total_effect (command : StorageCommand) (pid : Nat)
    (world : World) :
    books.total (command.effect pid world).2 = books.total world +
      books.entry (.storage command) .succeed := by
  have gateway : World.Agrees .gateway world (command.effect pid world).2 :=
    effect_agrees (by cases command <;> simp [StorageCommand.part]) pid world
  have events : World.Agrees .events world (command.effect pid world).2 :=
    effect_agrees (by cases command <;> simp [StorageCommand.part]) pid world
  by_cases settles : command.part = some .settlements
  · cases command with
    | rpushSettlement settlement =>
        simp only [total, entry, StorageCommand.effect, Choice.isRefused,
          List.map_append, List.map_singleton, List.sum_append,
          List.sum_singleton, Bool.false_eq_true, if_false]
        abel
    | _ => simp [StorageCommand.part] at settles
  · have settlements : World.Agrees .settlements world
        (command.effect pid world).2 := effect_agrees settles pid world
    rw [books.total_of_same gateway settlements events]
    cases command with
    | rpushSettlement settlement => exact (settles rfl).elim
    | _ => exact (add_zero _).symm

/-- Every command adds its entry. -/
theorem total_exec {tokenWaitMs pid : Nat} {command : Command}
    {choice : Choice} {before after : World}
    {outcome : Except Thrown command.Result}
    (executed : exec tokenWaitMs pid command choice before =
      some (outcome, after)) :
    books.total after = books.total before + books.entry command choice := by
  cases command with
  | storage command =>
      cases choice with
      | succeed =>
          cases executed
          exact books.total_effect command pid before
      | lost message =>
          cases executed
          rw [books.total_effect]
          cases command <;> rfl
      | refused message =>
          cases executed
          cases command <;> exact (add_zero _).symm
      | guard response | refund result => cases executed
  | guardCall payment correlationId =>
      cases choice with
      | guard response =>
          cases executed
          simp only [total, entry, List.map_append, List.sum_append]
          abel
      | _ => cases executed
  | guardRefund gatewayId transactionId =>
      cases choice with
      | refund result =>
          cases executed
          simp only [total, entry, List.map_append, List.map_singleton,
            List.sum_append, List.sum_singleton]
          abel
      | _ => cases executed
  | emit event =>
      cases choice with
      | succeed =>
          cases executed
          simp only [total, entry, List.map_append, List.map_singleton,
            List.sum_append, List.sum_singleton]
          abel
      | _ => cases executed

/-- Expiry and BullMQ add nothing. -/
theorem total_environment {event : Event} {before after : World}
    (changed : environment event before = some after) :
    books.total after = books.total before := by
  rcases environment_cases changed with
    ⟨elapsed, rfl, rfl⟩ | ⟨queue, jobId, next, rfl⟩
  · rfl
  · rfl

end Books

/-- Charges are paid with executions, settlements and refunds with charges,
and announcements with settlements. -/
def spent : Books where
  gateway
    | .charge id _ => {execution id}
    | .refund _ transactionId _ => {refund transactionId}
  settlement := fun entry => {charge entry.paymentId entry.transactionId}
  event := announced

/-- Settlements and refunds share the money of the charges. -/
def moved : Books where
  gateway
    | .charge _ _ => 0
    | .refund _ transactionId _ => {money transactionId}
  settlement := fun entry => {money entry.transactionId}
  event := fun _ => 0

def earned : Books where
  gateway
    | .charge id (.ok transactionId _) =>
        {charge id transactionId, money transactionId, refund transactionId}
    | _ => 0
  settlement := fun entry =>
    {completion entry.paymentId, success entry.paymentId}
  event := fun _ => 0

section Accounts

variable {tokenWaitMs pid : Nat} {command : Command} {choice : Choice}
  {before after : World} {outcome : Except Thrown command.Result}

theorem gain_le_entry (executed : exec tokenWaitMs pid command choice before =
    some (outcome, after)) :
    gain command outcome ≤ earned.entry command choice := by
  cases command with
  | storage command =>
      cases command with
      | rpushSettlement entry =>
          cases choice with
          | succeed =>
              cases executed
              exact le_refl _
          | lost message | refused message =>
              cases executed
              exact Multiset.zero_le _
          | guard response | refund result => cases executed
      | _ => cases outcome <;> exact Multiset.zero_le _
  | guardCall payment correlationId =>
      cases choice with
      | guard response =>
          cases executed
          cases response with
          | noToken | circuitRefused state => exact Multiset.zero_le _
          | answered result =>
              cases result with
              | ok transactionId httpStatus => exact le_of_eq (add_zero _).symm
              | fail failure => exact Multiset.zero_le _
      | _ => cases executed
  | guardRefund gatewayId transactionId =>
      cases outcome <;> exact Multiset.zero_le _
  | emit event => cases outcome <;> exact Multiset.zero_le _

theorem entry_le_cost (executed : exec tokenWaitMs pid command choice before =
    some (outcome, after)) :
    spent.entry command choice ≤ cost command outcome := by
  cases command with
  | storage command =>
      cases command with
      | rpushSettlement entry =>
          cases choice with
          | succeed =>
              cases executed
              exact Multiset.le_add_right {_} {_}
          | lost message =>
              cases executed
              exact le_refl _
          | refused message => exact Multiset.zero_le _
          | guard response | refund result => cases executed
      | _ => exact Multiset.zero_le _
  | guardCall payment correlationId =>
      cases choice with
      | guard response =>
          cases response with
          | noToken | circuitRefused state => exact Multiset.zero_le _
          | answered result => exact le_of_eq (add_zero _)
      | _ => cases executed
  | guardRefund gatewayId transactionId =>
      cases choice with
      | refund result => exact Multiset.le_cons_self _ _
      | _ => cases executed
  | emit event => exact le_refl _

/-- If no append takes effect unnoticed, its money is paid too. -/
theorem moved_le_cost (noticed : (command.settles && choice.isLost) = false)
    (executed : exec tokenWaitMs pid command choice before =
      some (outcome, after)) :
    moved.entry command choice ≤ cost command outcome := by
  cases command with
  | storage command =>
      cases command with
      | rpushSettlement entry =>
          cases choice with
          | succeed =>
              cases executed
              exact Multiset.le_cons_self _ _
          | lost message => cases noticed
          | refused message => exact Multiset.zero_le _
          | guard response | refund result => cases executed
      | _ => exact Multiset.zero_le _
  | guardCall payment correlationId =>
      cases choice with
      | guard response =>
          cases response with
          | noToken | circuitRefused state => exact Multiset.zero_le _
          | answered result => exact Multiset.zero_le _
      | _ => cases executed
  | guardRefund gatewayId transactionId =>
      cases choice with
      | refund result => exact Multiset.le_add_right {_} {_}
      | _ => cases executed
  | emit event => exact Multiset.zero_le _

private theorem keyed_effect {command : StorageCommand} (keyed : Keyed before)
    (permitted : Solvency.keyed.permitted (.storage command)) :
    Keyed (command.effect pid before).2 := by
  by_cases saves : command.part = some .payments
  · cases command with
    | hsetPayment id record =>
        intro id' record' read
        by_cases here : id' = id
        · obtain rfl := here
          have written : record = record' := by
            simpa [World.payment, StorageCommand.effect, Stored.parse?]
              using read
          exact written ▸ permitted
        · apply keyed id' record'
          rw [← read]
          simp only [World.payment, StorageCommand.effect,
            Function.update_of_ne here]
    | _ => simp [StorageCommand.part] at saves
  · have same : World.Agrees .payments before (command.effect pid before).2 :=
      effect_agrees saves pid before
    intro id record read
    apply keyed id record
    rw [← read]
    simp only [World.payment, World.Agrees] at same ⊢
    rw [same]

theorem Keyed.exec (keyed : Keyed before)
    (permitted : Solvency.keyed.permitted command)
    (executed : exec tokenWaitMs pid command choice before =
      some (outcome, after)) : Keyed after := by
  cases command with
  | storage command =>
      rcases exec_storage executed with ⟨-, rfl, -⟩ | ⟨-, rfl, -⟩
      · exact keyed
      · exact keyed_effect keyed permitted
  | guardCall _ _ | guardRefund _ _ | emit _ =>
      cases choice <;> cases executed
      exact keyed

theorem Keyed.replies (keyed : Keyed before)
    (executed : PaymentQueue.exec tokenWaitMs pid command choice before =
      some (outcome, after)) : Solvency.keyed.replies command outcome := by
  cases command with
  | storage command =>
      cases command with
      | hgetPayment id =>
          rcases exec_storage executed with ⟨-, -, failed⟩ | ⟨-, -, reply⟩
          · cases outcome with
            | ok doc => cases failed
            | error error => exact trivial
          · rcases reply with rfl | failed
            · exact keyed id
            · cases outcome with
              | ok doc => cases failed
              | error error => exact trivial
      | _ => exact trivial
  | guardCall _ _ | guardRefund _ _ | emit _ => exact trivial

end Accounts

private theorem keyed_environment {event : Event} {before after : World}
    (keyed : Keyed before)
    (changed : environment event before = some after) : Keyed after := by
  rcases environment_cases changed with
    ⟨elapsed, rfl, rfl⟩ | ⟨queue, jobId, next, rfl⟩
  · exact keyed
  · exact keyed

/-- The ledger never takes an append of which the saga hears that it failed. -/
def noticed {config : AppConfig} (state : PaymentConfig config) :
    PaymentLabel config → Bool
  | .run pid choice =>
      !((pending state pid).any Command.settles && choice.isLost)
  | _ => true

variable {config : AppConfig}

/-- Books whose entries are paid by the commands balance in every run. -/
theorem budget (books : Books)
    (admits : PaymentConfig config → PaymentLabel config → Prop)
    (paid : ∀ state pid choice command outcome after,
      admits state (.run pid choice) → pending state pid = some command →
      exec config.tokenWaitMs pid command choice state.world =
        some (outcome, after) →
      books.entry command choice ≤ cost command outcome) :
    Budget (paymentSystem config) admits keyed tariff Keyed grants
      books.total earned.total where
  codes := fun state task _ _ => affords_code task state.world.now
  keeps := fun state pid choice command outcome after keyed _ permitted
      executed => ⟨keyed.replies executed, keyed.exec permitted executed⟩
  accounts := by
    intro state pid choice task command resume outcome after admitted found
      executed
    have covered := paid state pid choice command outcome after admitted
      (pending_eq_of_running found) executed
    rw [books.total_exec executed, earned.total_exec executed]
    exact ⟨add_le_add_right covered _,
      add_le_add_right (gain_le_entry executed) _⟩
  environments := by
    intro state event after keyed _ changed
    rw [books.total_environment changed, earned.total_environment changed]
    exact ⟨keyed_environment keyed changed, le_refl _, le_refl _⟩

def asks (id : PaymentId) : GatewayEvent → Bool
  | .charge id' _ => decide (id = id')
  | _ => false

/-- The gateway took the money of the payment. -/
def takes (id : PaymentId) (transactionId : String) : GatewayEvent → Bool
  | .charge id' (.ok transactionId' _) =>
      decide (id = id' ∧ transactionId = transactionId')
  | _ => false

/-- The gateway took money under this transaction id. -/
def takesAs (transactionId : String) : GatewayEvent → Bool
  | .charge _ (.ok transactionId' _) => decide (transactionId = transactionId')
  | _ => false

def refunds (transactionId : String) : GatewayEvent → Bool
  | .refund _ transactionId' _ => decide (transactionId = transactionId')
  | _ => false

def settles (id : PaymentId) (transactionId : String)
    (entry : SettlementEntry) : Bool :=
  decide (id = entry.paymentId ∧ transactionId = entry.transactionId)

def settlesFor (id : PaymentId) (entry : SettlementEntry) : Bool :=
  decide (id = entry.paymentId)

def settlesAs (transactionId : String) (entry : SettlementEntry) : Bool :=
  decide (transactionId = entry.transactionId)

def completes (id : PaymentId) : AppEvent → Bool
  | .payment .completed id' _ _ _ _ _ => decide (id = id')
  | _ => false

def succeeds (id : PaymentId) : AppEvent → Bool
  | .jobCompleted id' _ true _ _ => decide (id = id')
  | _ => false

/-- The task is a delivery of the payment's job. -/
def delivers (id : PaymentId) : Task → Bool
  | .process job => decide (id = job.data.paymentId)
  | _ => false

section Counts

variable {β : Type} {token : Entitlement}

/-- Entries worth a token are counted, the others do not count. -/
theorem count_sum_map (worth : β → Multiset Entitlement) (counts : β → Bool)
    (each : ∀ item, (worth item).count token = if counts item then 1 else 0)
    (items : List β) :
    (items.map worth).sum.count token = items.countP counts := by
  induction items with
  | nil => rfl
  | cons item items induction =>
      rw [List.map_cons, List.sum_cons, Multiset.count_add, induction, each,
        List.countP_cons, add_comm]

/-- The three logs of a book, each counted or without the token. -/
theorem count_books (books : Books) (gateway : GatewayEvent → Bool)
    (settlement : SettlementEntry → Bool) (event : AppEvent → Bool)
    (charges : ∀ item, (books.gateway item).count token =
      if gateway item then 1 else 0)
    (entries : ∀ item, (books.settlement item).count token =
      if settlement item then 1 else 0)
    (emissions : ∀ item, (books.event item).count token =
      if event item then 1 else 0) (world : World) :
    (books.total world).count token = world.gateway.countP gateway +
      world.settlements.countP settlement + world.events.countP event := by
  rw [Books.total, Multiset.count_add, Multiset.count_add,
    count_sum_map _ gateway charges, count_sum_map _ settlement entries,
    count_sum_map _ event emissions]

private theorem gateway_le (books : Books) (gateway : GatewayEvent → Bool)
    (charges : ∀ item, (books.gateway item).count token =
      if gateway item then 1 else 0) (world : World) :
    world.gateway.countP gateway ≤ (books.total world).count token := by
  rw [Books.total, Multiset.count_add, Multiset.count_add,
    count_sum_map _ gateway charges, Nat.add_assoc]
  exact Nat.le_add_right _ _

private theorem settlement_le (books : Books)
    (settlement : SettlementEntry → Bool)
    (entries : ∀ item, (books.settlement item).count token =
      if settlement item then 1 else 0) (world : World) :
    world.settlements.countP settlement ≤
      (books.total world).count token := by
  rw [Books.total, Multiset.count_add, Multiset.count_add,
    count_sum_map _ settlement entries, Nat.add_right_comm]
  exact Nat.le_add_left _ _

private theorem event_le (books : Books) (event : AppEvent → Bool)
    (emissions : ∀ item, (books.event item).count token =
      if event item then 1 else 0) (world : World) :
    world.events.countP event ≤ (books.total world).count token := by
  rw [Books.total, Multiset.count_add, Multiset.count_add,
    count_sum_map _ event emissions]
  exact Nat.le_add_left _ _

end Counts

section Tokens

variable (id : PaymentId) (transactionId : String) (world : World)

/-- A charge is worth its execution, and gives its three entitlements. -/
theorem count_gateway (event : GatewayEvent) :
    (spent.gateway event).count (execution id) =
        (if asks id event then 1 else 0) ∧
      (spent.gateway event).count (refund transactionId) =
        (if refunds transactionId event then 1 else 0) ∧
      (moved.gateway event).count (money transactionId) =
        (if refunds transactionId event then 1 else 0) ∧
      (earned.gateway event).count (charge id transactionId) =
        (if takes id transactionId event then 1 else 0) ∧
      (earned.gateway event).count (money transactionId) =
        (if takesAs transactionId event then 1 else 0) ∧
      (earned.gateway event).count (refund transactionId) =
        (if takesAs transactionId event then 1 else 0) := by
  rcases event with ⟨id', result⟩ | ⟨gatewayId, transactionId', result⟩
  · cases result with
    | ok transactionId' httpStatus =>
        simp [spent, moved, earned, asks, takes, takesAs, refunds,
          Multiset.count_singleton, Multiset.count_cons]
    | fail failure =>
        simp [spent, moved, earned, asks, takes, takesAs, refunds,
          Multiset.count_singleton]
  · simp [spent, moved, earned, asks, takes, takesAs, refunds,
      Multiset.count_singleton]

theorem count_settlement (entry : SettlementEntry) :
    (spent.settlement entry).count (charge id transactionId) =
        (if settles id transactionId entry then 1 else 0) ∧
      (moved.settlement entry).count (money transactionId) =
        (if settlesAs transactionId entry then 1 else 0) ∧
      (earned.settlement entry).count (completion id) =
        (if settlesFor id entry then 1 else 0) ∧
      (earned.settlement entry).count (success id) =
        (if settlesFor id entry then 1 else 0) := by
  simp [spent, moved, earned, settles, settlesAs, settlesFor,
    Multiset.count_singleton, Multiset.count_cons]

private theorem count_event (event : AppEvent) :
    (spent.event event).count (completion id) =
        (if completes id event then 1 else 0) ∧
      (spent.event event).count (success id) =
        (if succeeds id event then 1 else 0) := by
  rcases event with ⟨type, id', gatewayId, correlationId, status, atTime,
    detail⟩ | ⟨id', gatewayId, ok, durationMs, atTime⟩ | _ | _
  · cases type <;> simp [spent, announced, completes, succeeds,
      Multiset.count_singleton]
  · cases ok <;> simp [spent, announced, completes, succeeds,
      Multiset.count_singleton]
  · simp [spent, announced, completes, succeeds]
  · simp [spent, announced, completes, succeeds]

/-- Only charges entitle to settle and to refund. -/
theorem count_charged (token : Entitlement) (gateway : GatewayEvent → Bool)
    (charges : ∀ event, (earned.gateway event).count token =
      if gateway event then 1 else 0)
    (entries : ∀ entry, (earned.settlement entry).count token = 0) :
    (earned.total world).count token = world.gateway.countP gateway := by
  have other : ∀ entry, (earned.settlement entry).count token =
      if (fun _ => false) entry then 1 else 0 := by
    simpa using entries
  rw [count_books earned gateway (fun _ => false) (fun _ => false) charges
    other fun _ => rfl]
  simp

/-- Only settlements entitle to announce. -/
theorem count_certified (token : Entitlement)
    (settlement : SettlementEntry → Bool)
    (entries : ∀ entry, (earned.settlement entry).count token =
      if settlement entry then 1 else 0)
    (charges : ∀ event, (earned.gateway event).count token = 0) :
    (earned.total world).count token =
      world.settlements.countP settlement := by
  have other : ∀ event, (earned.gateway event).count token =
      if (fun _ => false) event then 1 else 0 := by
    simpa using charges
  rw [count_books earned (fun _ => false) settlement (fun _ => false) other
    entries fun _ => rfl]
  simp

/-- Charges and settlements do not entitle to charge. -/
theorem count_earned_execution :
    (earned.total world).count (execution id) = 0 := by
  rw [count_charged world _ (fun _ => false)]
  · simp
  · rintro (⟨id', _ | _⟩ | _) <;> simp [earned]
  · simp [earned]

variable {config : AppConfig}

private theorem count_granted (state : PaymentConfig config) :
    (state.granted grants).count (execution id) =
      state.threads.countP (fun thread => delivers id thread.task) := by
  have each : ∀ task : Task, (grants task).count (execution id) =
      if delivers id task then 1 else 0 := by
    intro task
    cases task <;> simp [grants, delivers, Multiset.count_singleton]
  exact count_sum_map _ _ (fun thread => each thread.task) _

/-- Nothing but executions is given away. -/
theorem count_granted_other (state : PaymentConfig config)
    {token : Entitlement} (other : ∀ id, token ≠ execution id) :
    (state.granted grants).count token = 0 := by
  have each : ∀ task : Task, (grants task).count token =
      if (fun _ => false) task then 1 else 0 := by
    intro task
    cases task <;> simp [grants, other]
  have none := count_sum_map
    (fun thread : PaymentThread config => grants thread.task) (fun _ => false)
    (fun thread => each thread.task) state.threads
  exact none.trans (by simp)

end Tokens

/-- What a run can have counted at most. -/
structure Solvent (state : PaymentConfig config) : Prop where
  charges : ∀ id, state.world.gateway.countP (asks id) ≤
    state.threads.countP (fun thread => delivers id thread.task)
  settlements : ∀ id transactionId,
    state.world.settlements.countP (settles id transactionId) ≤
      state.world.gateway.countP (takes id transactionId)
  refunds : ∀ transactionId,
    state.world.gateway.countP (refunds transactionId) ≤
      state.world.gateway.countP (takesAs transactionId)
  completions : ∀ id, state.world.events.countP (completes id) ≤
    state.world.settlements.countP (settlesFor id)
  successes : ∀ id, state.world.events.countP (succeeds id) ≤
    state.world.settlements.countP (settlesFor id)

theorem keyed_empty (start : Time) : Keyed (World.empty start) := by
  intro id record stored
  cases stored

/-- In every run a token is spent at most as often as it was earned or
given. -/
theorem count_le {books : Books}
    {admits : PaymentConfig config → PaymentLabel config → Prop}
    (paid : ∀ state pid choice command outcome after,
      admits state (.run pid choice) → pending state pid = some command →
      exec config.tokenWaitMs pid command choice state.world =
        some (outcome, after) →
      books.entry command choice ≤ cost command outcome) {start : Time}
    {state : PaymentConfig config}
    (reached : (paymentSystem config).Reaches admits
      (initially (World.empty start)) state) (token : Entitlement) :
    (books.total state.world).count token ≤
      (earned.total state.world).count token +
        (state.granted grants).count token := by
  have covered := (budget books admits paid).covers (keyed_empty start)
    (le_refl 0) reached
  rw [← Multiset.count_add]
  exact Multiset.count_le_of_le token covered

end Solvency

open Solvency

/-- In any interleaving, with any failures, crashes and expiries: no payment is
charged more often than its job was delivered, no charge is settled or refunded
more often than it was made, and no completion is announced that was not
settled. -/
theorem solvency (config : AppConfig) (start : Time)
    (state : PaymentConfig config)
    (reached : (paymentSystem config).Reaches (fun _ _ => True)
      (initially (World.empty start)) state) : Solvent state := by
  have count := @count_le config spent (fun _ _ => True)
    (fun _ _ _ _ _ _ _ _ executed => entry_le_cost executed) start state
    reached
  have given : ∀ token, (∀ id, token ≠ .execution id) →
      (spent.total state.world).count token ≤
        (earned.total state.world).count token := by
    intro token other
    have limit := count token
    rwa [count_granted_other state other, Nat.add_zero] at limit
  refine ⟨?_, ?_, ?_, ?_, ?_⟩
  · intro id
    have limit := count (.execution id)
    rw [count_earned_execution, count_granted, Nat.zero_add] at limit
    exact (gateway_le spent (asks id) (fun event =>
      (count_gateway id "" event).1) state.world).trans limit
  · intro id transactionId
    have limit := given (.charge id transactionId) (by simp)
    rw [count_charged _ _ (takes id transactionId)
      (fun event => (count_gateway id transactionId event).2.2.2.1)
      (by simp [earned])] at limit
    exact (settlement_le spent (settles id transactionId) (fun entry =>
      (count_settlement id transactionId entry).1) state.world).trans limit
  · intro transactionId
    have limit := given (.refund transactionId) (by simp)
    rw [count_charged _ _ (takesAs transactionId)
      (fun event => (count_gateway "" transactionId event).2.2.2.2.2)
      (by simp [earned])] at limit
    exact (gateway_le spent (refunds transactionId) (fun event =>
      (count_gateway "" transactionId event).2.1) state.world).trans limit
  · intro id
    have limit := given (.completion id) (by simp)
    rw [count_certified _ _ (settlesFor id)
      (fun entry => (count_settlement id "" entry).2.2.1)
      (by rintro (⟨_, _ | _⟩ | _) <;> simp [earned])] at limit
    exact (event_le spent (completes id) (fun event =>
      (count_event id event).1) state.world).trans limit
  · intro id
    have limit := given (.success id) (by simp)
    rw [count_certified _ _ (settlesFor id)
      (fun entry => (count_settlement id "" entry).2.2.2)
      (by rintro (⟨_, _ | _⟩ | _) <;> simp [earned])] at limit
    exact (event_le spent (succeeds id) (fun event =>
      (count_event id event).2) state.world).trans limit

/-- A job that is delivered twice, settled by the second worker. -/
def settledOnce : List (PaymentLabel .default) :=
  [.spawn (.submit (submission "stripe" 0))] ++ runs 0 6 ++
    [.spawn (.process (delivery 0))] ++ runs 1 11 ++
    [.run 1 (.guard (.circuitRefused .opened))] ++ runs 1 6 ++
    [.spawn (.process (delivery 1))] ++ runs 2 11 ++ [accepts 2 "tx1"] ++
    runs 2 13

theorem solvency_settledOnce :
    ∃ state : PaymentConfig .default,
      state.world.events.countP (completes "p1") = 1 ∧
      state.threads.countP (fun thread => delivers "p1" thread.task) = 2 ∧
      Solvent state := by
  obtain ⟨state, reached, checked⟩ := exists_of_replay
    (paymentSystem .default).step (fun _ _ => true) settledOnce
    (initially (World.empty 0))
    (fun state => decide (state.world.events.countP (completes "p1") = 1 ∧
      state.threads.countP (fun thread => delivers "p1" thread.task) = 2))
    (by decide +kernel)
  obtain ⟨completed, delivered⟩ := of_decide_eq_true checked
  exact ⟨state, completed, delivered, solvency .default 0 state
    (reached.mono fun _ _ _ => trivial)⟩

/-- If the ledger never takes an append of which the saga hears that it failed,
settlements and refunds together stay below the charges: the money of a charge
goes to the merchant or back to the customer, never to both. -/
theorem money_moves_once (config : AppConfig) (start : Time)
    (state : PaymentConfig config)
    (reached : (paymentSystem config).Reaches
      (fun state label => noticed state label = true)
      (initially (World.empty start)) state) (transactionId : String) :
    state.world.gateway.countP (refunds transactionId) +
        state.world.settlements.countP (settlesAs transactionId) ≤
      state.world.gateway.countP (takesAs transactionId) := by
  have paid : ∀ (state : PaymentConfig config) pid choice command outcome
      after, noticed state (.run pid choice) = true →
      pending state pid = some command →
      exec config.tokenWaitMs pid command choice state.world =
        some (outcome, after) →
      moved.entry command choice ≤ cost command outcome := by
    intro state pid choice command outcome after admitted suspended executed
    refine moved_le_cost ?_ executed
    simpa only [noticed, suspended, Option.any_some, Bool.not_eq_true']
      using admitted
  have limit := count_le paid reached (.money transactionId)
  rw [count_granted_other state (by simp), Nat.add_zero,
    count_charged _ _ (takesAs transactionId)
      (fun event => (count_gateway "" transactionId event).2.2.2.2.1)
      (by simp [earned]),
    count_books moved (refunds transactionId) (settlesAs transactionId)
      (fun _ => false)
      (fun event => (count_gateway "" transactionId event).2.2.1)
      (fun entry => (count_settlement "" transactionId entry).2.1)
      (by simp [moved])] at limit
  simpa using limit

/-- The append is refused and the charge is refunded. -/
def paidBack : List (PaymentLabel .default) :=
  [.spawn (.submit (submission "stripe" 0))] ++ runs 0 6 ++
    [.spawn (.process (delivery 0))] ++ runs 1 11 ++ [accepts 1 "tx1"] ++
    runs 1 3 ++ [.run 1 (.refused "connection lost"),
      .run 1 (.refund (.ok "rf1" 200))]

theorem money_moves_once_paidBack :
    ∃ state : PaymentConfig .default,
      state.world.gateway.countP (refunds "tx1") = 1 ∧
      state.world.gateway.countP (refunds "tx1") +
          state.world.settlements.countP (settlesAs "tx1") ≤
        state.world.gateway.countP (takesAs "tx1") := by
  obtain ⟨state, reached, checked⟩ := exists_of_replay
    (paymentSystem .default).step noticed paidBack
    (initially (World.empty 0))
    (fun state => decide (state.world.gateway.countP (refunds "tx1") = 1))
    (by decide +kernel)
  exact ⟨state, of_decide_eq_true checked,
    money_moves_once .default 0 state reached "tx1"⟩

end PaymentQueue
