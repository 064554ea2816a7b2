import PaymentQueue.Gateway.TokenWait

/-!
# What a step of the guard can do

Every step but a reconfiguration leaves the charges in flight and the gate of
the breaker alone, admits a charge, or concludes one.
-/

namespace PaymentQueue.GatewayGuard

variable {config : GuardConfig} {gatewayId : String}
  {guard next : GatewayGuard} {index : Nat} {label : Label}

def Label.isConfigure : Label → Bool
  | configure _ => true
  | _ => false

/-- The outcome that is reported to the breaker, if any: permanent
rejections are not provider degradation. -/
def reportedOutcome : GatewayChargeResult → Option Bool
  | .ok _ _ => some true
  | .fail failure => if isTransient failure.code then some false else none

/-- What an answer does to the bucket. -/
def feedback : GatewayChargeResult → AdaptiveTokenBucket → AdaptiveTokenBucket
  | .ok _ _, bucket => bucket.onSuccess
  | .fail failure, bucket =>
      if failure.httpStatus = 429 ∨ failure.httpStatus = 503 then
        bucket.onThrottled
      else bucket

/-- What an answer does to the breaker. -/
def reported (result : GatewayChargeResult) (now : Time)
    (breaker : CircuitBreaker) : CircuitBreaker × Option CircuitEvent :=
  match reportedOutcome result with
  | some ok => breaker.recordOutcome ok now
  | none => (breaker, none)

/-- The events of an answered charge. -/
def answerEvents (result : GatewayChargeResult) (now : Time)
    (event : Option CircuitEvent) : List GuardEvent :=
  (match result with
  | .ok _ _ => []
  | .fail failure =>
      if failure.httpStatus = 429 ∨ failure.httpStatus = 503 then
        [.throttled now]
      else []) ++ (event.map fun event => .circuit event now).toList

theorem conclude_eq (result : GatewayChargeResult) (guard : GatewayGuard) :
    guard.conclude gatewayId result =
      (.ended (callOutcome config.rateLimiter.tokenWaitMs gatewayId
          (.answered result)),
        { guard with
          bucket := feedback result guard.bucket
          breaker := (reported result guard.now guard.breaker).1
          events := guard.events ++ answerEvents result guard.now
            (reported result guard.now guard.breaker).2 }) := by
  cases result with
  | ok transactionId httpStatus =>
      simp [conclude, callOutcome, report, feedback, reported,
        reportedOutcome, answerEvents]
  | fail failure =>
      by_cases throttling : failure.httpStatus = 429 ∨ failure.httpStatus = 503
      · cases transient : isTransient failure.code <;>
          simp [conclude, callOutcome, shed, throttle, report, feedback,
            reported, reportedOutcome, answerEvents, toProcessingError,
            PaymentProcessingError.retryable, throttling, transient]
      · cases transient : isTransient failure.code <;>
          simp [conclude, callOutcome, shed, report, feedback,
            reported, reportedOutcome, answerEvents, toProcessingError,
            PaymentProcessingError.retryable, throttling, transient]

/-- A poll asks the bucket for a token and the clock for the deadline. -/
theorem pollToken_congr {guard other : GatewayGuard} (deadline : Time)
    (clock : guard.now = other.now)
    (acquired : guard.bucket.tryAcquire guard.now =
      other.bucket.tryAcquire other.now) :
    (guard.pollToken config gatewayId deadline).1 =
      (other.pollToken config gatewayId deadline).1 := by
  cases polled : other.bucket.tryAcquire other.now with
  | mk granted bucket =>
      rw [polled, clock] at acquired
      cases granted with
      | true => simp [pollToken, acquired, polled, clock]
      | false =>
          simp only [pollToken, acquired, polled, clock]
          split
          · rfl
          · rfl

theorem pollToken_bucket (deadline : Time) (guard : GatewayGuard) :
    (guard.pollToken config gatewayId deadline).2.bucket =
      (guard.bucket.tryAcquire guard.now).2 := by
  have round := pollToken_waitRound config gatewayId deadline guard
  have asked := guard.bucket.waitRound_bucket deadline guard.now guard.now
  rw [round] at asked
  exact asked

theorem passGate_breaker (guard : GatewayGuard) :
    (guard.passGate config gatewayId).2.breaker =
      (guard.breaker.allowCall guard.now).2 := by
  simp only [passGate]
  split
  case h_1 gate passed => rw [passed]
  case h_2 gate passed => rw [passed]

/-- The gate alone decides how the call goes on. -/
theorem passGate_congr {guard other : GatewayGuard}
    (gate : (guard.breaker.allowCall guard.now).1 =
      (other.breaker.allowCall other.now).1) :
    (guard.passGate config gatewayId).1 =
      (other.passGate config gatewayId).1 := by
  cases left : guard.breaker.allowCall guard.now with
  | mk first breaker =>
      cases right : other.breaker.allowCall other.now with
      | mk second breaker' =>
          rw [left, right] at gate
          obtain rfl : first = second := gate
          obtain ⟨allowed, state⟩ := first
          cases allowed <;> simp [passGate, left, right]

private theorem pollToken_frame (deadline : Time) (guard : GatewayGuard) :
    (guard.pollToken config gatewayId deadline).2.breaker = guard.breaker ∧
      (guard.pollToken config gatewayId deadline).2.calls = guard.calls := by
  rw [pollToken]
  split
  · exact ⟨rfl, rfl⟩
  · split
    · exact ⟨rfl, rfl⟩
    · exact ⟨rfl, rfl⟩

/-- Polling ends with a token, in another sleep or with the call. -/
theorem pollToken_isCharging (deadline : Time) (guard : GatewayGuard) :
    (guard.pollToken config gatewayId deadline).1.isCharging = false := by
  rw [pollToken]
  split
  · simp [GuardCall.isCharging]
  · split
    · simp [GuardCall.isCharging]
    · simp [GuardCall.isCharging]

@[simp] theorem passGate_calls (guard : GatewayGuard) :
    (guard.passGate config gatewayId).2.calls = guard.calls := by
  rw [passGate]
  split <;> rfl

@[simp] theorem report_breaker (ok : Bool) (guard : GatewayGuard) :
    (guard.report ok).breaker =
      (guard.breaker.recordOutcome ok guard.now).1 := rfl

private theorem shed_frame (failure : GatewayFailure) (guard : GatewayGuard) :
    (guard.shed failure).breaker = guard.breaker ∧
      (guard.shed failure).calls = guard.calls ∧
      (guard.shed failure).now = guard.now := by
  rw [shed]
  split <;> exact ⟨rfl, rfl, rfl⟩

/-- A refused call leaves the breaker as it is. -/
theorem allowCall_refused {breaker : CircuitBreaker} {now : Time}
    (refused : (breaker.allowCall now).1.allowed = false) :
    (breaker.allowCall now).2 = breaker := by
  cases state : breaker.state with
  | closed => simp [CircuitBreaker.allowCall, state] at refused
  | opened | halfOpen =>
      simp only [CircuitBreaker.allowCall, state] at refused ⊢
      split
      case isTrue passed => simp [passed] at refused ⊢
      case isFalse => simp_all

/-- The gate of the breaker and the charges in flight are left alone. -/
structure Undisturbed (guard next : GatewayGuard) : Prop where
  state : next.breaker.state = guard.breaker.state
  probe : next.breaker.probeInFlight = guard.breaker.probeInFlight
  trips : next.breaker.tripCount = guard.breaker.tripCount
  charging : ∀ (index : Nat) gate,
    next.calls[index]? = some (.charging gate) ↔
      guard.calls[index]? = some (.charging gate)
  ended : ∀ (index : Nat) outcome,
    guard.calls[index]? = some (.ended outcome) →
      next.calls[index]? = some (.ended outcome)

/-- What a step does to the breaker and to the calls. -/
inductive Effect (label : Label) (guard next : GatewayGuard) : Prop where
  | undisturbed : (∀ index result, label ≠ .answer index result) →
      Undisturbed guard next → Effect label guard next
  | admitted (index : Nat) (gate : CircuitBreakerState) :
      label = .resume index → guard.calls[index]? = some .granted →
      (guard.breaker.allowCall guard.now).1 = ⟨true, gate⟩ →
      next.breaker = (guard.breaker.allowCall guard.now).2 →
      next.calls = guard.calls.set index (.charging gate) →
      Effect label guard next
  /-- The answer is not reported. -/
  | rejected (index : Nat) (gate : CircuitBreakerState)
      (result : GatewayChargeResult) (outcome : CallOutcome) :
      label = .answer index result → reportedOutcome result = none →
      guard.calls[index]? = some (.charging gate) →
      next.breaker = guard.breaker →
      next.calls = guard.calls.set index (.ended outcome) →
      Effect label guard next
  | reported (index : Nat) (gate : CircuitBreakerState)
      (result : GatewayChargeResult) (ok : Bool) (outcome : CallOutcome) :
      label = .answer index result → reportedOutcome result = some ok →
      guard.calls[index]? = some (.charging gate) →
      next.breaker = (guard.breaker.recordOutcome ok guard.now).1 →
      next.calls = guard.calls.set index (.ended outcome) →
      Effect label guard next

private theorem undisturbed_addCall {moved : GuardCall × GatewayGuard}
    (breaker : moved.2.breaker = guard.breaker)
    (calls : moved.2.calls = guard.calls)
    (idle : moved.1.isCharging = false) :
    Undisturbed guard (addCall moved) := by
  refine ⟨by rw [addCall, breaker], by rw [addCall, breaker],
    by rw [addCall, breaker], fun place gate => ?_, fun place outcome ended => ?_⟩
  · simp only [addCall, calls]
    by_cases old : place < guard.calls.length
    · rw [List.getElem?_append_left old]
    · have outside : guard.calls[place]? = none :=
        List.getElem?_eq_none (Nat.le_of_not_lt old)
      rw [List.getElem?_append_right (Nat.le_of_not_lt old), outside]
      constructor
      · intro charging
        rw [List.getElem?_singleton] at charging
        split at charging
        · cases Option.some.inj charging ▸ idle
        · cases charging
      · intro charging
        cases charging
  · have old : place < guard.calls.length :=
      (List.getElem?_eq_some_iff.mp ended).1
    simp only [addCall, calls]
    rw [List.getElem?_append_left old, ended]

private theorem undisturbed_setCall {call : GuardCall}
    {moved : GuardCall × GatewayGuard}
    (found : guard.calls[index]? = some call)
    (breaker : moved.2.breaker = guard.breaker)
    (calls : moved.2.calls = guard.calls)
    (before : call.isCharging = false) (running : call.inFlight = true)
    (idle : moved.1.isCharging = false) :
    Undisturbed guard (setCall index moved) := by
  have inside : index < guard.calls.length :=
    (List.getElem?_eq_some_iff.mp found).1
  refine ⟨by rw [setCall, breaker], by rw [setCall, breaker],
    by rw [setCall, breaker], fun place gate => ?_, fun place outcome ended => ?_⟩
  · simp only [setCall, calls]
    by_cases same : index = place
    · subst same
      rw [List.getElem?_set_self inside, found]
      constructor
      · intro charging
        cases Option.some.inj charging ▸ idle
      · intro charging
        cases Option.some.inj charging ▸ before
    · rw [List.getElem?_set_ne same]
  · simp only [setCall, calls]
    by_cases same : index = place
    · subst same
      rw [found] at ended
      cases Option.some.inj ended ▸ running
    · rw [List.getElem?_set_ne same, ended]

private theorem effect_gate (found : guard.calls[index]? = some .granted) :
    Effect (.resume index) guard
      (setCall index (guard.passGate config gatewayId)) := by
  cases passed : guard.breaker.allowCall guard.now with
  | mk gate breaker =>
      obtain ⟨allowed, state⟩ := gate
      cases allowed with
      | true =>
          refine .admitted index state rfl found ?_ ?_ ?_
          · rw [passed]
          · simp [setCall, passGate, passed]
          · simp [setCall, passGate, passed]
      | false =>
          have refused := @allowCall_refused guard.breaker guard.now
          simp only [passed, forall_const] at refused
          refine .undisturbed nofun (undisturbed_setCall found ?_ (by simp)
            (by simp [GuardCall.isCharging]) (by simp [GuardCall.inFlight]) ?_)
          · simp [passGate, passed, refused]
          · simp [passGate, passed, GuardCall.isCharging]

private theorem effect_answer {gate : CircuitBreakerState}
    (result : GatewayChargeResult)
    (found : guard.calls[index]? = some (.charging gate)) :
    Effect (.answer index result) guard
      (setCall index (guard.conclude gatewayId result)) := by
  cases result with
  | ok transactionId httpStatus =>
      exact .reported index gate _ true _ rfl rfl found rfl rfl
  | fail failure =>
      obtain ⟨breaker, calls, now⟩ := shed_frame failure guard
      cases transient : isTransient failure.code with
      | true =>
          refine .reported index gate _ false
            (.fail (toProcessingError failure gatewayId)) rfl
            (by simp [reportedOutcome, transient]) found ?_ ?_
          · simp [setCall, conclude, PaymentProcessingError.retryable,
              toProcessingError, transient, breaker, now]
          · simp [setCall, conclude, PaymentProcessingError.retryable,
              toProcessingError, transient, report, calls]
      | false =>
          refine .rejected index gate _
            (.fail (toProcessingError failure gatewayId)) rfl
            (by simp [reportedOutcome, transient]) found ?_ ?_
          · simp [setCall, conclude, PaymentProcessingError.retryable,
              toProcessingError, transient, breaker]
          · simp [setCall, conclude, PaymentProcessingError.retryable,
              toProcessingError, transient, calls]

theorem effect_of_step (steady : label.isConfigure = false)
    (taken : step config gatewayId label guard = some next) :
    Effect label guard next := by
  cases label with
  | tick elapsed =>
      cases taken
      exact .undisturbed nofun
        ⟨rfl, rfl, rfl, fun _ _ => Iff.rfl, fun _ _ => id⟩
  | call =>
      obtain rfl := Option.some.inj taken
      obtain ⟨breaker, calls⟩ := @pollToken_frame config gatewayId
        (guard.now + config.rateLimiter.tokenWaitMs) guard
      exact .undisturbed nofun (undisturbed_addCall breaker calls
        (pollToken_isCharging _ guard))
  | resume index =>
      simp only [step] at taken
      split at taken
      case h_1 deadline wakesAt found =>
        split at taken
        · cases taken
          obtain ⟨breaker, calls⟩ := @pollToken_frame config gatewayId
            deadline guard
          exact .undisturbed nofun (undisturbed_setCall found breaker calls
            (by simp [GuardCall.isCharging]) (by simp [GuardCall.inFlight])
            (pollToken_isCharging deadline guard))
        · cases taken
      case h_2 found =>
        cases taken
        exact effect_gate found
      case h_3 => cases taken
  | answer index result =>
      simp only [step] at taken
      split at taken
      case h_1 gate found =>
        cases taken
        exact effect_answer result found
      case h_2 => cases taken
  | configure policy => cases steady
  | health =>
      cases taken
      exact .undisturbed nofun
        ⟨rfl, rfl, rfl, fun _ _ => Iff.rfl, fun _ _ => id⟩

end PaymentQueue.GatewayGuard
