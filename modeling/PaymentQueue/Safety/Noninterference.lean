import PaymentQueue.Await.Pairs
import PaymentQueue.Gateway.Shares

/-!
# Gateways do not interfere with each other

Operations on other gateways and refunds leave the share of a gateway alone,
and the operations on the gateway read nothing else.
-/

namespace PaymentQueue.Noninterference

open Await GuardRegistries

variable {config : GuardConfig} {now : Time} {gatewayId : String}

/-- The operations that a run on one gateway keeps. -/
def concerns (gatewayId : String) (call : Timed GuardOp) : Bool :=
  decide (call.op.gatewayId = gatewayId) && !call.op.isRefund

/-- An operation of the guard, reported together with the bucket and the
breaker of a gateway after it. -/
def watch (config : GuardConfig) (gatewayId : String) (now : Time)
    (op : GuardOp) (registries : GuardRegistries) :
    (GuardAnswer × Option AdaptiveTokenBucket × Option CircuitBreaker) ×
      GuardRegistries :=
  let (answer, next) := registries.perform config now op
  ((answer, next.buckets gatewayId, next.breakers gatewayId), next)

section Consistency

variable {number : Nat} {left right : GuardRegistries}

/-- Registries that hold the same for the gateway. -/
def Alike (gatewayId : String) (left right : GuardRegistries) : Prop :=
  share gatewayId left = share gatewayId right

theorem Alike.buckets (alike : Alike gatewayId left right) :
    left.buckets gatewayId = right.buckets gatewayId :=
  congrArg Share.bucket alike

theorem Alike.breakers (alike : Alike gatewayId left right) :
    left.breakers gatewayId = right.breakers gatewayId :=
  congrArg Share.breaker alike

theorem Alike.calls (alike : Alike gatewayId left right) :
    left.calls gatewayId = right.calls gatewayId :=
  congrArg Share.calls alike

/-- The guard of the gateway is the same. -/
theorem Alike.guard (alike : Alike gatewayId left right) :
    left.guard config now gatewayId = right.guard config now gatewayId := by
  simp [GuardRegistries.guard, RateLimiterRegistry.get,
    CircuitBreakerRegistry.get, alike.buckets, alike.breakers]

/-- What an operation on the gateway does and answers depends on the share of
the gateway only. -/
structure Agrees (gatewayId : String)
    (left right : GuardAnswer × GuardRegistries) : Prop where
  answer : left.1 = right.1
  alike : Alike gatewayId left.2 right.2

theorem Alike.poll (alike : Alike gatewayId left right) (deadline : Time) :
    Agrees gatewayId (left.poll config now gatewayId number deadline)
      (right.poll config now gatewayId number deadline) := by
  constructor
  · simp [GuardRegistries.poll, alike.guard]
  · simp [Alike, share, GuardRegistries.poll, setCall, alike.guard,
      alike.breakers, alike.calls]

theorem Alike.pass (alike : Alike gatewayId left right) :
    Agrees gatewayId (left.pass config now gatewayId number)
      (right.pass config now gatewayId number) := by
  constructor
  · simp [GuardRegistries.pass, alike.guard]
  · simp only [Alike, GuardRegistries.pass, alike.guard]
    split <;>
      simp [share, setCall, provision, alike.buckets, alike.calls]

theorem Alike.settle (alike : Alike gatewayId left right)
    (result : GatewayChargeResult) :
    Agrees gatewayId (left.settle config now gatewayId number result)
      (right.settle config now gatewayId number result) := by
  constructor
  · simp [GuardRegistries.settle, alike.guard]
  · simp [Alike, share, GuardRegistries.settle, setCall, alike.guard,
      alike.calls]

theorem Alike.configure (alike : Alike gatewayId left right)
    (policy : GuardPolicy) :
    Alike gatewayId (left.configure config now gatewayId policy)
      (right.configure config now gatewayId policy) := by
  obtain ⟨limits, circuit⟩ := policy
  cases limits <;> cases circuit <;>
    simp [Alike, share, GuardRegistries.configure,
      RateLimiterRegistry.configure, CircuitBreakerRegistry.configure,
      alike.buckets, alike.breakers, alike.calls]

theorem Alike.health (alike : Alike gatewayId left right) :
    Agrees gatewayId (left.health config now gatewayId)
      (right.health config now gatewayId) := by
  constructor
  · simp [GuardRegistries.health, alike.guard]
  · simp [Alike, share, GuardRegistries.health, alike.guard, alike.calls]

theorem Alike.perform (alike : Alike gatewayId left right) (op : GuardOp)
    (here : op.gatewayId = gatewayId) :
    Agrees gatewayId (left.perform config now op)
      (right.perform config now op) := by
  cases op with
  | call other number =>
      obtain rfl : other = gatewayId := here
      simp only [GuardRegistries.perform, alike.calls]
      split
      · exact alike.poll _
      · exact ⟨rfl, alike⟩
  | resume other number =>
      obtain rfl : other = gatewayId := here
      simp only [GuardRegistries.perform, alike.calls]
      split
      · split
        · exact alike.poll _
        · exact ⟨rfl, alike⟩
      · exact alike.pass
      · exact ⟨rfl, alike⟩
  | answer other number result =>
      obtain rfl : other = gatewayId := here
      simp only [GuardRegistries.perform, alike.calls]
      split
      · exact alike.settle result
      · exact ⟨rfl, alike⟩
  | refund other transactionId =>
      refine ⟨rfl, ?_⟩
      simp only [Alike, GuardRegistries.perform, share_provision]
      exact alike
  | refunded other result => exact ⟨rfl, alike⟩
  | configure other policy =>
      obtain rfl : other = gatewayId := here
      exact ⟨rfl, alike.configure policy⟩
  | health other =>
      obtain rfl : other = gatewayId := here
      exact alike.health

end Consistency

/-- Two runs that differ in operations that do not concern the gateway. -/
theorem twins (config : GuardConfig) (gatewayId : String) :
    Twins (watch config gatewayId) (fun _ _ => True)
      (fun _ => Alike gatewayId)
      (fun call => concerns gatewayId call = false) fun _ _ => True where
  later _ alike := alike
  dropped := by
    intro call full thin idle alike
    refine Eq.trans ?_ alike
    by_cases here : call.op.gatewayId = gatewayId
    · exact share_refund (by simpa [concerns, here] using idle) full
    · exact share_apart call.op (Ne.symm here) full
  kept := by
    intro call full thin _ alike
    by_cases here : call.op.gatewayId = gatewayId
    · exact (alike.perform call.op here).alike
    · have left := @share_apart config call.time gatewayId call.op
        (Ne.symm here) full
      have right := @share_apart config call.time gatewayId call.op
        (Ne.symm here) thin
      exact left.trans (Eq.trans alike right.symm)
  alike := by
    intro call full thin _ concerned alike
    have here : call.op.gatewayId = gatewayId := by
      simp only [concerns, Bool.not_eq_false, Bool.and_eq_true,
        decide_eq_true_eq] at concerned
      exact concerned.1
    have agrees := @Alike.perform config call.time gatewayId full thin alike
      call.op here
    simp [watch, agrees.answer, agrees.alike.buckets, agrees.alike.breakers]

/-- What the guard answers to the operations on a gateway, and the bucket and
the breaker of the gateway after each of them, are those of the run without
the operations on other gateways and without refunds. -/
theorem guard_noninterference (config : GuardConfig) (gatewayId : String)
    (registries : GuardRegistries) (calls : List (Timed GuardOp)) :
    (answers (watch config gatewayId) registries calls).filter
        (fun answered => concerns gatewayId answered.1) =
      answers (watch config gatewayId) registries
        (calls.filter (concerns gatewayId)) := by
  have same : Alike gatewayId registries registries :=
    Eq.refl (share gatewayId registries)
  exact (twins config gatewayId).filtered calls 0 same

end PaymentQueue.Noninterference
