import PaymentQueue.Await.Pairs
import PaymentQueue.Gateway.Shares
import PaymentQueue.Metrics.Alerts

/-!
# Circuit alerts and the breakers

The collector learns about the breakers from `circuit.opened` and
`circuit.closed` alone.  Every transition of a breaker emits one of them, with
one exception: a new circuit policy resets the breaker in silence.
-/

namespace PaymentQueue.CircuitAlerts

open Await GuardRegistries MetricsCollector

variable {metrics : MetricsConfig} {config : GuardConfig} {now : Time}
  {gatewayId : String}

/-- The guard and the collector that listens to it. -/
structure Monitored where
  registries : GuardRegistries
  collector : MetricsCollector

def Monitored.empty : Monitored := ⟨GuardRegistries.empty, .empty⟩

inductive MonitoredOp where
  | guard (op : GuardOp)
  | refresh (snapshot : MetricsSnapshot)

/-- The collector listens to circuit events, not to throttling. -/
def deliver (metrics : MetricsConfig) (now : Time) (gatewayId : String)
    (collector : MetricsCollector) : List GuardEvent → MetricsCollector
  | [] => collector
  | .throttled _ :: events =>
      deliver metrics now gatewayId collector events
  | .circuit .opened _ :: events =>
      deliver metrics now gatewayId
        (collector.perform metrics now (.circuitOpened gatewayId)).2 events
  | .circuit .closed _ :: events =>
      deliver metrics now gatewayId
        (collector.perform metrics now (.circuitClosed gatewayId)).2 events

/-- An operation, and the delivery of its events. -/
def run (metrics : MetricsConfig) (config : GuardConfig) (now : Time) :
    MonitoredOp → Monitored → Unit × Monitored
  | .guard op, monitored =>
      let (answer, registries) := monitored.registries.perform config now op
      ((), ⟨registries, deliver metrics now op.gatewayId monitored.collector
        answer.events⟩)
  | .refresh snapshot, monitored =>
      ((), { monitored with
        collector := (monitored.collector.perform metrics now
          (.refresh snapshot)).2 })

/-- A breaker that is yet to be created is CLOSED. -/
def breakerState (config : GuardConfig) (gatewayId : String)
    (registries : GuardRegistries) : CircuitBreakerState :=
  (CircuitBreakerRegistry.get config gatewayId registries.breakers).state

/-- The alert of a gateway is active exactly if its breaker is not
CLOSED. -/
def Tracks (config : GuardConfig) (monitored : Monitored) : Prop :=
  ∀ gatewayId, monitored.collector.has (circuitAlertId gatewayId) = true ↔
    breakerState config gatewayId monitored.registries ≠ .closed

/-- A circuit policy comes while the breaker is CLOSED. -/
def Calm (config : GuardConfig) (monitored : Monitored)
    (call : Timed MonitoredOp) : Prop :=
  match call.op with
  | .guard (.configure gatewayId policy) => policy.circuitBreaker.isSome →
      breakerState config gatewayId monitored.registries = .closed
  | _ => True

private theorem allowCall_closed (breaker : CircuitBreaker) :
    (breaker.allowCall now).2.state = .closed ↔ breaker.state = .closed := by
  cases state : breaker.state with
  | closed => simp [CircuitBreaker.allowCall, state]
  | opened | halfOpen =>
      simp only [CircuitBreaker.allowCall, state]
      split <;> simp [state]

/-- The event tells whether the breaker is CLOSED, if that has changed. -/
def Told (before after : CircuitBreakerState) : Option CircuitEvent → Prop
  | some .opened => after ≠ .closed
  | some .closed => after = .closed
  | none => after = .closed ↔ before = .closed

private theorem recordOutcome_told (ok : Bool) (breaker : CircuitBreaker) :
    Told breaker.state (breaker.recordOutcome ok now).1.state
      (breaker.recordOutcome ok now).2 := by
  cases state : breaker.state with
  | opened => simp [CircuitBreaker.recordOutcome, state, Told]
  | halfOpen =>
      cases ok <;> simp [CircuitBreaker.recordOutcome, state,
        CircuitBreaker.trip, Told]
  | closed =>
      simp only [CircuitBreaker.recordOutcome, state]
      split
      · simp [CircuitBreaker.trip, Told]
      · simp [CircuitBreaker.sample, CircuitBreaker.prune, state, Told]

private theorem reported_told (result : GatewayChargeResult)
    (breaker : CircuitBreaker) :
    Told breaker.state (GatewayGuard.reported result now breaker).1.state
      (GatewayGuard.reported result now breaker).2 := by
  simp only [GatewayGuard.reported]
  split
  · exact recordOutcome_told _ breaker
  · exact Iff.rfl

private theorem deliver_other {other : String} (apart : other ≠ gatewayId)
    (events : List GuardEvent) (collector : MetricsCollector) :
    (deliver metrics now gatewayId collector events).has
        (circuitAlertId other) =
      collector.has (circuitAlertId other) := by
  induction events generalizing collector with
  | nil => rfl
  | cons event events induction =>
      match event with
      | .throttled atTime => exact induction collector
      | .circuit .opened atTime =>
          rw [deliver, induction]
          exact setCircuitAlert_has_other apart true collector
      | .circuit .closed atTime =>
          rw [deliver, induction]
          exact setCircuitAlert_has_other apart false collector

private theorem deliver_answer {before after : CircuitBreakerState}
    {event : Option CircuitEvent} (told : Told before after event)
    (result : GatewayChargeResult) {collector : MetricsCollector}
    (tracked : collector.has (circuitAlertId gatewayId) = true ↔
      before ≠ .closed) :
    (deliver metrics now gatewayId collector
        (GatewayGuard.answerEvents result now event)).has
        (circuitAlertId gatewayId) = true ↔
      after ≠ .closed := by
  have skips : deliver metrics now gatewayId collector
        (GatewayGuard.answerEvents result now event) =
      deliver metrics now gatewayId collector
        (event.map fun event => GuardEvent.circuit event now).toList := by
    simp only [GatewayGuard.answerEvents]
    split
    · rw [List.nil_append]
    · split
      · rw [List.singleton_append, deliver]
      · rw [List.nil_append]
  rw [skips]
  cases event with
  | none =>
      have same : after = .closed ↔ before = .closed := told
      rw [Ne, same]
      exact tracked
  | some event =>
      cases event with
      | opened =>
          have opened : after ≠ .closed := told
          have raised := @setCircuitAlert_has_self metrics now gatewayId true
            collector
          simpa [deliver, MetricsCollector.perform, opened] using raised
      | closed =>
          obtain rfl : after = .closed := told
          have cleared := @setCircuitAlert_has_self metrics now gatewayId
            false collector
          simpa [deliver, MetricsCollector.perform] using cleared

/-- The alert of one gateway. -/
def TracksOne (config : GuardConfig) (gatewayId : String)
    (registries : GuardRegistries) (collector : MetricsCollector) : Prop :=
  collector.has (circuitAlertId gatewayId) = true ↔
    breakerState config gatewayId registries ≠ .closed

section Operations

variable {registries : GuardRegistries} {collector : MetricsCollector}

theorem tracksOne_congr {next : GuardRegistries}
    (tracked : TracksOne config gatewayId registries collector)
    (same : breakerState config gatewayId next = .closed ↔
      breakerState config gatewayId registries = .closed) :
    TracksOne config gatewayId next collector := by
  rw [TracksOne, Ne, same]
  exact tracked

private theorem tracksOne_apart {op : GuardOp}
    (apart : gatewayId ≠ op.gatewayId)
    (tracked : TracksOne config gatewayId registries collector) :
    TracksOne config gatewayId (registries.perform config now op).2
      (deliver metrics now op.gatewayId collector
        (registries.perform config now op).1.events) := by
  have share := @share_apart config now gatewayId op apart registries
  have breakers := congrArg Share.breaker share
  simp only [GuardRegistries.share] at breakers
  rw [TracksOne, deliver_other apart, breakerState,
    CircuitBreakerRegistry.get, breakers]
  exact tracked

/-- No operation but a circuit policy loses track of the breaker. -/
theorem tracksOne_perform {op : GuardOp}
    (calm : ∀ gatewayId policy, op = .configure gatewayId policy →
      policy.circuitBreaker = none)
    (tracked : TracksOne config op.gatewayId registries collector) :
    TracksOne config op.gatewayId (registries.perform config now op).2
      (deliver metrics now op.gatewayId collector
        (registries.perform config now op).1.events) := by
  cases op with
  | call other number =>
      simp only [GuardRegistries.perform]
      split
      · exact tracksOne_congr tracked (by simp [breakerState])
      · exact tracked
  | resume other number =>
      simp only [GuardRegistries.perform]
      split
      · split
        · exact tracksOne_congr tracked (by simp [breakerState])
        · exact tracked
      · apply tracksOne_congr tracked
        simp [breakerState, CircuitBreakerRegistry.get, allowCall_closed,
          GuardOp.gatewayId]
      · exact tracked
  | answer other number result =>
      simp only [GuardRegistries.perform]
      split
      · have told := @reported_told now result
          (CircuitBreakerRegistry.get config other registries.breakers)
        have delivered := @deliver_answer metrics now other _ _ _ told result
          collector tracked
        simpa [TracksOne, breakerState, CircuitBreakerRegistry.get,
          GuardOp.gatewayId] using delivered
      · exact tracked
  | refund other transactionId => exact tracked
  | refunded other result => exact tracked
  | configure other policy =>
      apply tracksOne_congr tracked
      have kept := calm other policy rfl
      simp [GuardRegistries.perform, breakerState, GuardRegistries.configure,
        kept]
  | health other =>
      apply tracksOne_congr tracked
      simp [GuardRegistries.perform, breakerState, CircuitBreakerRegistry.get,
        GuardOp.gatewayId, CircuitBreaker.getState, CircuitBreaker.prune]

/-- A circuit policy leaves the breaker CLOSED and emits nothing. -/
theorem configure_closed {policy : GuardPolicy}
    (circuit : policy.circuitBreaker.isSome) :
    breakerState config gatewayId
      (registries.configure config now gatewayId policy) = .closed := by
  obtain ⟨overrides, given⟩ := Option.isSome_iff_exists.mp circuit
  cases held : registries.breakers gatewayId <;>
    simp [breakerState, CircuitBreakerRegistry.get, GuardRegistries.configure,
      CircuitBreakerRegistry.configure, given, held, CircuitBreaker.create,
      CircuitBreaker.reconfigure, CircuitBreaker.reset]

end Operations

private theorem tracks_run_iff (call : Timed MonitoredOp)
    (monitored : Monitored)
    (tracks : Tracks config monitored) :
    Tracks config (run metrics config call.time call.op monitored).2 ↔
      Calm config monitored call := by
  obtain ⟨now, op⟩ := call
  cases op with
  | refresh snapshot =>
      refine iff_of_true ?_ trivial
      intro gatewayId
      simp only [run, MetricsCollector.perform, refresh_has_circuit]
      exact tracks gatewayId
  | guard op =>
      by_cases plain : ∀ gatewayId policy, op = .configure gatewayId policy →
          policy.circuitBreaker = none
      · apply iff_of_true
        · intro gatewayId
          by_cases here : gatewayId = op.gatewayId
          · subst here
            exact tracksOne_perform plain (tracks op.gatewayId)
          · exact tracksOne_apart here (tracks gatewayId)
        · cases op with
          | configure gatewayId policy =>
              intro circuit
              rw [plain gatewayId policy rfl] at circuit
              cases circuit
          | call | resume | answer | refund | refunded | health => trivial
      · push Not at plain
        obtain ⟨gatewayId, policy, rfl, given⟩ := plain
        have circuit := Option.isSome_iff_ne_none.mpr given
        have closed := @configure_closed config now gatewayId
          monitored.registries policy circuit
        have before := tracks gatewayId
        constructor
        · intro after _
          have cleared := after gatewayId
          simp only [run, GuardRegistries.perform, deliver, closed, ne_eq,
            not_true_eq_false, iff_false] at cleared
          by_contra opened
          exact cleared (before.mpr opened)
        · intro calm other
          by_cases here : other = gatewayId
          · subst here
            simp only [run, GuardRegistries.perform, deliver, closed]
            rw [before, calm circuit]
          · exact tracksOne_apart here (tracks other)

/-- The circuit alerts agree with the breakers after every operation of a run
exactly if no circuit policy is set while the breaker of its gateway is not
CLOSED. -/
theorem circuit_alerts_track_iff (metrics : MetricsConfig)
    (config : GuardConfig) (calls : List (Timed MonitoredOp)) :
    (∀ monitored ∈ trail (run metrics config) .empty calls,
      Tracks config monitored) ↔
      Along (run metrics config) (Calm config) .empty calls := by
  apply trail_iff_along tracks_run_iff
  intro gatewayId
  simp [Monitored.empty, MetricsCollector.empty, has, breakerState,
    CircuitBreakerRegistry.get, GuardRegistries.empty, CircuitBreaker.create]

/-- The breaker trips on its first failure, and gets a new policy. -/
def silencedRun : List (Timed MonitoredOp) :=
  [⟨0, .guard (.configure "stripe" ⟨none, some ⟨none, none, some 1, none⟩⟩)⟩,
    ⟨0, .guard (.call "stripe" 0)⟩, ⟨0, .guard (.resume "stripe" 0)⟩,
    ⟨20, .guard (.answer "stripe" 0
      (.fail ⟨.serverError, "gateway stripe rejected with HTTP 500", 500⟩))⟩,
    ⟨50, .guard (.configure "stripe"
      ⟨none, some ⟨none, none, some 1, none⟩⟩)⟩]

/-- The breaker is CLOSED and its alert stays. -/
theorem circuit_alert_stale :
    ¬ ∀ monitored ∈ trail (run .default .default) .empty silencedRun,
      Tracks .default monitored := by
  intro all
  have last := all _ (after_mem_trail _ _) "stripe"
  revert last
  decide +kernel

end PaymentQueue.CircuitAlerts
