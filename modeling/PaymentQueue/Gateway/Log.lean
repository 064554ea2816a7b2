import PaymentQueue.Runtime.World

/-!
# Counting charges in the gateway log

A successful charge counts until a successful refund of its transaction
follows it.
-/

namespace PaymentQueue

namespace GatewayEvent

/-- A successful charge of the payment. -/
def charges (id : PaymentId) : GatewayEvent → Bool
  | charge paymentId (.ok _ _) => decide (paymentId = id)
  | _ => false

/-- The transaction of a successful charge. -/
def transaction? : GatewayEvent → Option String
  | charge _ (.ok transactionId _) => some transactionId
  | _ => none

/-- A successful refund of the transaction. -/
def refunds (transactionId : String) : GatewayEvent → Bool
  | refund _ refunded (.ok _ _) => decide (refunded = transactionId)
  | _ => false

/-- The gateway was asked to charge the payment. -/
def invokes (id : PaymentId) : GatewayEvent → Bool
  | charge paymentId _ => decide (paymentId = id)
  | _ => false

/-- The transaction of a successful charge of the payment. -/
def chargedFor? (id : PaymentId) : GatewayEvent → Option String
  | charge paymentId (.ok transactionId _) =>
      if paymentId = id then some transactionId else none
  | _ => none

/-- The transaction whose refund was requested. -/
def refundOf? : GatewayEvent → Option String
  | refund _ transactionId _ => some transactionId
  | _ => none

end GatewayEvent

/-- The number of charges that were invoked for the payment. -/
def invoked (id : PaymentId) (log : List GatewayEvent) : Nat :=
  log.countP (GatewayEvent.invokes id)

/-- The transactions of the successful charges of the payment. -/
def chargesOf (id : PaymentId) (log : List GatewayEvent) : List String :=
  log.filterMap (GatewayEvent.chargedFor? id)

/-- The transactions whose refund was requested. -/
def refundsRequested (log : List GatewayEvent) : List String :=
  log.filterMap GatewayEvent.refundOf?

/-- The event is a charge of the payment that none of the later events
refunds. -/
def outstanding (id : PaymentId) (event : GatewayEvent)
    (later : List GatewayEvent) : Bool :=
  event.charges id && event.transaction?.any fun transactionId =>
    !later.any fun event => event.refunds transactionId

/-- The number of successful charges of the payment that were not followed by
a successful refund. -/
def unrefunded (id : PaymentId) : List GatewayEvent → Nat
  | [] => 0
  | event :: later =>
      (if outstanding id event later = true then 1 else 0) +
        unrefunded id later

private theorem outstanding_append_of_not_refunds (id : PaymentId)
    (event last : GatewayEvent) (later : List GatewayEvent)
    (kept : ∀ transactionId, last.refunds transactionId = false) :
    outstanding id event (later ++ [last]) = outstanding id event later := by
  simp [outstanding, kept]

private theorem outstanding_of_append (id : PaymentId)
    (event last : GatewayEvent)
    (later : List GatewayEvent)
    (still : outstanding id event (later ++ [last]) = true) :
    outstanding id event later = true := by
  simp only [outstanding, Bool.and_eq_true, Option.any_eq_true] at still ⊢
  obtain ⟨charged, transactionId, transaction, kept⟩ := still
  refine ⟨charged, transactionId, transaction, ?_⟩
  rw [List.any_append, Bool.not_or, Bool.and_eq_true] at kept
  exact kept.1

/-- A new event that refunds nothing adds itself, if it is a charge. -/
theorem unrefunded_append (id : PaymentId) (log : List GatewayEvent)
    (last : GatewayEvent)
    (kept : ∀ transactionId, last.refunds transactionId = false) :
    unrefunded id (log ++ [last]) =
      unrefunded id log + if outstanding id last [] = true then 1 else 0 := by
  induction log with
  | nil => simp [unrefunded]
  | cons event later induction =>
      simp only [List.cons_append, unrefunded, induction,
        outstanding_append_of_not_refunds id event last later kept]
      omega

/-- A refund never adds to the count. -/
theorem unrefunded_append_refund (id : PaymentId) (log : List GatewayEvent)
    (gatewayId transactionId : String) (result : GatewayRefundResult) :
    unrefunded id (log ++ [.refund gatewayId transactionId result]) ≤
      unrefunded id log := by
  induction log with
  | nil => simp [unrefunded, outstanding, GatewayEvent.charges]
  | cons event later induction =>
      simp only [List.cons_append, unrefunded]
      have fewer : (if outstanding id event
            (later ++ [.refund gatewayId transactionId result]) = true
          then 1 else 0) ≤
          (if outstanding id event later = true then 1 else 0 : Nat) := by
        split
        case isTrue still =>
          simp [outstanding_of_append id event _ later still]
        case isFalse => exact Nat.zero_le _
      omega

/-- A guarded call adds at most the charge that it reports. -/
theorem unrefunded_append_events (id : PaymentId) (log : List GatewayEvent)
    (response : GuardResponse) :
    unrefunded id (log ++ response.events id) =
      unrefunded id log +
        match response with
        | .answered (.ok _ _) => 1
        | _ => 0 := by
  match response with
  | .noToken => simp [GuardResponse.events]
  | .circuitRefused state => simp [GuardResponse.events]
  | .answered (.ok transactionId httpStatus) =>
      rw [GuardResponse.events, unrefunded_append id log _ fun _ => rfl]
      simp [outstanding, GatewayEvent.charges, GatewayEvent.transaction?]
  | .answered (.fail failure) =>
      rw [GuardResponse.events, unrefunded_append id log _ fun _ => rfl]
      simp [outstanding, GatewayEvent.charges]

variable (id : PaymentId) (log : List GatewayEvent)
  (gatewayId transactionId : String) (result : GatewayRefundResult)

@[simp] theorem invoked_append_refund :
    invoked id (log ++ [.refund gatewayId transactionId result]) =
      invoked id log := by
  simp [invoked, GatewayEvent.invokes]

@[simp] theorem chargesOf_append_refund :
    chargesOf id (log ++ [.refund gatewayId transactionId result]) =
      chargesOf id log := by
  simp [chargesOf, GatewayEvent.chargedFor?]

@[simp] theorem refundsRequested_append_refund :
    refundsRequested (log ++ [.refund gatewayId transactionId result]) =
      refundsRequested log ++ [transactionId] := by
  simp [refundsRequested, GatewayEvent.refundOf?]

/-- A guarded call invokes the gateway at most once. -/
theorem invoked_append_events (response : GuardResponse) :
    invoked id (log ++ response.events id) ≤ invoked id log + 1 := by
  cases response <;> simp [invoked, GuardResponse.events, GatewayEvent.invokes]

@[simp] theorem refundsRequested_append_events (response : GuardResponse) :
    refundsRequested (log ++ response.events id) = refundsRequested log := by
  cases response <;>
    simp [refundsRequested, GuardResponse.events, GatewayEvent.refundOf?]

/-- A guarded call adds the transaction that it reports. -/
theorem chargesOf_append_events (response : GuardResponse) :
    chargesOf id (log ++ response.events id) = chargesOf id log ++
      match response with
      | .answered (.ok transactionId _) => [transactionId]
      | _ => [] := by
  match response with
  | .noToken => simp [chargesOf, GuardResponse.events]
  | .circuitRefused state => simp [chargesOf, GuardResponse.events]
  | .answered (.ok transactionId httpStatus) =>
      simp [chargesOf, GuardResponse.events, GatewayEvent.chargedFor?]
  | .answered (.fail failure) =>
      simp [chargesOf, GuardResponse.events, GatewayEvent.chargedFor?]

end PaymentQueue
