import PaymentQueue.Gateway.Types

/-!
# The mock gateway

`gateway/mock-gateway.service.ts`: scripted responses, one for each charge and
each refund.  A call takes its response from the script, sleeps and answers;
any number of calls sleep at once, and how long they do is left open.
-/

namespace PaymentQueue

/-- A scripted response. -/
inductive MockStep where
  | ok
  | fail (httpStatus : Nat) (code : Option PaymentErrorCode)
  deriving DecidableEq, Repr

structure MockGatewayBehavior where
  steps : List MockStep
  /-- The response once the script is exhausted. -/
  after : MockStep
  refundSteps : Option (List MockStep)
  deriving DecidableEq, Repr

/-- `Partial<MockGatewayBehavior>`. -/
structure MockGatewayOverrides where
  steps : Option (List MockStep)
  after : Option MockStep
  refundSteps : Option (List MockStep)
  deriving DecidableEq, Repr

/-- `OK_BEHAVIOR`. -/
def okBehavior : MockGatewayBehavior :=
  { steps := []
    after := .ok
    refundSteps := none }

inductive TransactionStatus where
  | succeeded
  | failed
  deriving DecidableEq, Repr

/-- The gateway, with the counters of its `stats` that a response reads. -/
structure MockGateway where
  id : String
  behavior : MockGatewayBehavior
  stepIndex : Nat
  refundSteps : List MockStep
  refundStepIndex : Nat
  transactions : List (String × TransactionStatus)
  charges : Nat
  refunds : Nat
  failedCharges : Nat
  deriving DecidableEq, Repr

namespace MockGateway

def create (id : String) : MockGateway :=
  { id
    behavior := okBehavior
    stepIndex := 0
    refundSteps := []
    refundStepIndex := 0
    transactions := []
    charges := 0
    refunds := 0
    failedCharges := 0 }

def configure (overrides : MockGatewayOverrides) (gateway : MockGateway) :
    MockGateway :=
  { gateway with
    behavior :=
      { steps := overrides.steps.getD []
        after := overrides.after.getD okBehavior.after
        refundSteps := some (overrides.refundSteps.getD []) }
    stepIndex := 0
    refundSteps := overrides.refundSteps.getD []
    refundStepIndex := 0 }

/-- The script is followed to its end, and then `after` for ever. -/
def nextStep (gateway : MockGateway) : MockStep × MockGateway :=
  match gateway.behavior.steps[gateway.stepIndex]? with
  | some step => (step, { gateway with stepIndex := gateway.stepIndex + 1 })
  | none => (gateway.behavior.after, gateway)

def nextRefundStep (gateway : MockGateway) : Option MockStep × MockGateway :=
  match gateway.refundSteps[gateway.refundStepIndex]? with
  | some step =>
      (some step, { gateway with
        refundStepIndex := gateway.refundStepIndex + 1 })
  | none => (none, gateway)

/-- The id names the millisecond and the charges so far. -/
def transactionId (id : String) (now : Time) (charges : Nat) : String :=
  id ++ "_txn_" ++ (toString36 now ++ "_" ++ toString charges)

/-- `charge` up to its sleep. -/
def beginCharge (gateway : MockGateway) : MockStep × MockGateway :=
  let (step, scripted) := gateway.nextStep
  (step, { scripted with charges := scripted.charges + 1 })

/-- The rest of `charge`: clock and counter are read after the sleep. -/
def answerCharge (now : Time) (step : MockStep) (gateway : MockGateway) :
    GatewayChargeResult × MockGateway :=
  match step with
  | .fail httpStatus code =>
      (.fail
        { code := code.getD (classifyHttpStatus httpStatus)
          message := s!"gateway {gateway.id} rejected with HTTP {httpStatus}"
          httpStatus },
        { gateway with failedCharges := gateway.failedCharges + 1 })
  | .ok =>
      let issued := transactionId gateway.id now gateway.charges
      (.ok issued 200,
        { gateway with
          transactions := (issued, .succeeded) :: gateway.transactions })

/-- `refund` up to its sleep. -/
def beginRefund (gateway : MockGateway) : Option MockStep × MockGateway :=
  { gateway with refunds := gateway.refunds + 1 }.nextRefundStep

def answerRefund (transactionId : String) (step : Option MockStep)
    (gateway : MockGateway) : GatewayRefundResult × MockGateway :=
  match step with
  | some (.fail httpStatus code) =>
      (.fail
        { code := code.getD (classifyHttpStatus httpStatus)
          message :=
            s!"gateway {gateway.id} refund rejected with HTTP {httpStatus}"
          httpStatus },
        { gateway with
          transactions := (transactionId, .failed) :: gateway.transactions })
  | _ => (.ok s!"refund_{transactionId}_{gateway.refunds}" 200, gateway)

end MockGateway

/-- A call of the gateway, asleep or answered. -/
inductive MockCall where
  | charging (step : MockStep)
  | refunding (transactionId : String) (step : Option MockStep)
  | charged (result : GatewayChargeResult)
  | refunded (result : GatewayRefundResult)
  deriving DecidableEq, Repr

structure MockProvider where
  now : Time
  gateway : MockGateway
  calls : List MockCall
  deriving DecidableEq, Repr

namespace MockProvider

def create (id : String) (now : Time) : MockProvider :=
  { now
    gateway := .create id
    calls := [] }

inductive Label where
  | tick (elapsed : Nat)
  | charge
  | refund (transactionId : String)
  | configure (overrides : MockGatewayOverrides)
  /-- A call wakes up and answers. -/
  | answer (index : Nat)
  deriving DecidableEq, Repr

def step (label : Label) (provider : MockProvider) : Option MockProvider :=
  match label with
  | .tick elapsed => some { provider with now := provider.now + elapsed }
  | .charge =>
      let (step, gateway) := provider.gateway.beginCharge
      some { provider with
        gateway
        calls := provider.calls ++ [.charging step] }
  | .refund transactionId =>
      let (step, gateway) := provider.gateway.beginRefund
      some { provider with
        gateway
        calls := provider.calls ++ [.refunding transactionId step] }
  | .configure overrides =>
      some { provider with gateway := provider.gateway.configure overrides }
  | .answer index =>
      match provider.calls[index]? with
      | some (.charging step) =>
          let (result, gateway) :=
            provider.gateway.answerCharge provider.now step
          some { provider with
            gateway
            calls := provider.calls.set index (.charged result) }
      | some (.refunding transactionId step) =>
          let (result, gateway) :=
            provider.gateway.answerRefund transactionId step
          some { provider with
            gateway
            calls := provider.calls.set index (.refunded result) }
      | _ => none

end MockProvider

end PaymentQueue
