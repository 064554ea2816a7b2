import PaymentQueue.Await.Timed
import PaymentQueue.Metrics.Alerts

/-!
# Active alerts and breached thresholds

The conditions of `refresh` are written twice, where alerts are raised and
where they are cleared.  The two copies agree on every id that can be active,
so a refresh leaves the breaches of its snapshot and the circuit alerts, and
an alert that stays is the alert that was there.
-/

namespace PaymentQueue.Thresholds

open Await MetricsCollector

/-- The snapshot breaches the threshold of this alert. -/
def Breached (config : MetricsConfig) (snapshot : MetricsSnapshot)
    (id : String) : Prop :=
  (id = "error_rate_high" ∧ config.errorRateAlert < snapshot.errorRate) ∨
  (id = "p95_latency_high" ∧ ∃ p95Ms, snapshot.p95Ms = some p95Ms ∧
    config.p95LatencyAlertMs < p95Ms) ∨
  ∃ depth ∈ snapshot.queueDepths, id = queueDepthAlertId depth.gatewayId ∧
    config.queueDepthAlert < (depth.waiting : ℚ)

def IsCircuit (id : String) : Prop :=
  ∃ gatewayId, id = circuitAlertId gatewayId

def IsQueueDepth (id : String) : Prop :=
  ∃ gatewayId, id = queueDepthAlertId gatewayId

/-- The ids that the collector files alerts under. -/
def Known (id : String) : Prop :=
  id = "error_rate_high" ∨ id = "p95_latency_high" ∨ IsQueueDepth id ∨
    IsCircuit id

variable {config : MetricsConfig} {now : Time} {collector : MetricsCollector}
  {snapshot : MetricsSnapshot}

/-- One alert for every id, and every id is known. -/
structure Filed (collector : MetricsCollector) : Prop where
  sole : (collector.alerts.map fun alert => alert.id).Nodup
  known : ∀ id, collector.has id = true → Known id

theorem has_iff (id : String) : collector.has id = true ↔
    ∃ alert ∈ collector.alerts, alert.id = id := by
  simp [has]

/-- An evaluation adds at most one alert, under an id that was free. -/
theorem evaluate_alerts (evaluation : Evaluation)
    (collector : MetricsCollector) :
    let moved := (collector.evaluate config now evaluation.id
      evaluation.condition evaluation.spec).2
    moved.alerts = collector.alerts ∨ ∃ alert,
      moved.alerts = collector.alerts ++ [alert] ∧
        collector.has alert.id = false := by
  intro moved
  cases fulfilled : evaluation.condition with
  | false => exact .inl (by simp [moved, evaluate, fulfilled])
  | true =>
      cases held : collector.alerts.find? fun alert =>
          decide (alert.id = evaluation.id) with
      | none =>
          refine .inr ⟨_, by simp only [moved, evaluate, fulfilled, held]; rfl,
            ?_⟩
          rw [has_eq_find, held]
          rfl
      | some alert =>
          refine .inl ?_
          by_cases rested : config.alertCooldownMs ≤ (now : ℚ) -
              ((collector.lastRaisedAt evaluation.id).getD 0 : Nat)
          · simp [moved, evaluate, fulfilled, held, rested, setLastRaisedAt]
          · simp [moved, evaluate, fulfilled, held, rested]

private theorem evaluate_sole
    (sole : (collector.alerts.map fun alert => alert.id).Nodup)
    (evaluation : Evaluation) :
    let moved := (collector.evaluate config now evaluation.id
      evaluation.condition evaluation.spec).2
    (moved.alerts.map fun alert => alert.id).Nodup ∧
      ∀ alert ∈ collector.alerts, alert ∈ moved.alerts := by
  intro moved
  rcases @evaluate_alerts config now evaluation collector with
    same | ⟨alert, grown, free⟩
  · rw [same]
    exact ⟨sole, fun _ member => member⟩
  · rw [grown]
    refine ⟨?_, fun _ => List.mem_append_left _⟩
    rw [List.map_append, List.map_singleton]
    refine List.nodup_append.mpr ⟨sole, List.nodup_singleton _, ?_⟩
    rintro id member _ new rfl
    obtain ⟨other, filed, named⟩ := List.mem_map.mp member
    rw [List.mem_singleton.mp new] at named
    rw [(has_iff _).mpr ⟨other, filed, named⟩] at free
    cases free

private theorem evaluateAll_sole
    (sole : (collector.alerts.map fun alert => alert.id).Nodup)
    (evaluations : List Evaluation) :
    let moved := (collector.evaluateAll config now evaluations).2
    (moved.alerts.map fun alert => alert.id).Nodup ∧
      ∀ alert ∈ collector.alerts, alert ∈ moved.alerts := by
  induction evaluations generalizing collector with
  | nil => exact ⟨sole, fun _ member => member⟩
  | cons evaluation evaluations induction =>
      obtain ⟨first, kept⟩ := @evaluate_sole config now _ sole evaluation
      obtain ⟨rest, onward⟩ := induction first
      exact ⟨rest, fun alert member => onward alert (kept alert member)⟩

private theorem filter_sole {alerts : List ActiveAlert}
    (sole : (alerts.map fun alert => alert.id).Nodup)
    (keep : ActiveAlert → Bool) :
    ((alerts.filter keep).map fun alert => alert.id).Nodup :=
  sole.sublist (List.filter_sublist.map _)

/-- Ids determine alerts. -/
theorem eq_of_id {alerts : List ActiveAlert}
    (sole : (alerts.map fun alert => alert.id).Nodup)
    {alert other : ActiveAlert} (member : alert ∈ alerts)
    (present : other ∈ alerts) (same : alert.id = other.id) :
    alert = other :=
  List.inj_on_of_nodup_map sole member present same

private theorem known_of_evaluation {evaluation : Evaluation}
    (member : evaluation ∈ evaluations config snapshot) :
    Known evaluation.id := by
  simp only [evaluations, List.mem_cons, List.mem_map] at member
  rcases member with rfl | rfl | ⟨depth, -, rfl⟩
  · exact .inl rfl
  · exact .inr (.inl rfl)
  · exact .inr (.inr (.inl ⟨_, rfl⟩))

theorem Filed.refresh (filed : Filed collector) (snapshot : MetricsSnapshot) :
    Filed (collector.refresh config now snapshot).2 := by
  constructor
  · have sole := @evaluateAll_sole config now _ filed.sole
      (evaluations config snapshot)
    exact filter_sole sole.1 _
  · intro id active
    rw [refresh_has, Bool.and_eq_true, Bool.or_eq_true,
      List.any_eq_true] at active
    rcases active.1 with before | ⟨evaluation, member, raised⟩
    · exact filed.known id before
    · rw [Bool.and_eq_true, decide_eq_true_eq] at raised
      rw [← raised.2]
      exact known_of_evaluation member

theorem Filed.setCircuitAlert (filed : Filed collector) (gatewayId : String)
    (isOpen : Bool) :
    Filed (collector.setCircuitAlert config now gatewayId isOpen).2 := by
  cases isOpen with
  | false =>
      refine ⟨filter_sole filed.sole _, ?_⟩
      intro id active
      obtain ⟨alert, member, named⟩ := (has_iff id).mp active
      exact filed.known id
        ((has_iff id).mpr ⟨alert, (List.mem_filter.mp member).1, named⟩)
  | true =>
      let evaluation : Evaluation := ⟨circuitAlertId gatewayId, true, .critical,
        s!"circuit breaker OPEN for gateway {gatewayId}", none, none⟩
      refine ⟨(@evaluate_sole config now _ filed.sole evaluation).1, ?_⟩
      intro id active
      have before := @evaluate_has config now evaluation id collector
      simp only [MetricsCollector.setCircuitAlert, if_true] at active
      rw [active, eq_comm, Bool.or_eq_true] at before
      rcases before with held | raised
      · exact filed.known id held
      · rw [Bool.and_eq_true, decide_eq_true_eq] at raised
        exact .inr (.inr (.inr ⟨gatewayId, raised.2.symm⟩))

private theorem filed_empty : Filed empty := by
  refine ⟨List.Pairwise.nil, ?_⟩
  intro id active
  simp [has, empty] at active

private theorem filed_after (config : MetricsConfig)
    (calls : List (Timed CollectorOp)) :
    Filed (after (perform config) empty calls) := by
  apply after_invariant Filed ?_ filed_empty
    (fun _ _ => trivial : ∀ call ∈ calls, (fun _ => True) call)
  intro call collector _ filed
  obtain ⟨time, op⟩ := call
  cases op with
  | jobCompleted gatewayId ok durationMs =>
      refine ⟨?_, ?_⟩
      · simpa [perform] using filed.sole
      · intro id active
        exact filed.known id (by simpa [perform, has] using active)
  | circuitOpened gatewayId => exact filed.setCircuitAlert gatewayId true
  | circuitClosed gatewayId => exact filed.setCircuitAlert gatewayId false
  | refresh snapshot => exact filed.refresh snapshot

private theorem p95LatencyHigh_iff : p95LatencyHigh config snapshot = true ↔
    ∃ p95Ms, snapshot.p95Ms = some p95Ms ∧
      config.p95LatencyAlertMs < p95Ms := by
  simp [p95LatencyHigh, Option.any_eq_true]

/-- Of gateways that are listed once, the first entry is the only one. -/
theorem queueDepthHigh_iff
    (listed : (snapshot.queueDepths.map GatewayDepth.gatewayId).Nodup)
    (gatewayId : String) :
    queueDepthHigh config gatewayId snapshot = true ↔
      ∃ depth ∈ snapshot.queueDepths, depth.gatewayId = gatewayId ∧
        config.queueDepthAlert < (depth.waiting : ℚ) := by
  rw [queueDepthHigh, Option.any_eq_true]
  constructor
  · rintro ⟨depth, found, high⟩
    exact ⟨depth, List.mem_of_find?_eq_some found,
      by simpa using List.find?_some found, by simpa using high⟩
  · rintro ⟨depth, member, named, high⟩
    cases found : snapshot.queueDepths.find? fun depth =>
        decide (depth.gatewayId = gatewayId) with
    | none =>
        have missing := List.find?_eq_none.mp found depth member
        exact absurd named (by simpa using missing)
    | some first =>
        have same : first = depth := List.inj_on_of_nodup_map listed
          (List.mem_of_find?_eq_some found) member
          (by simpa [named] using List.find?_some found)
        exact ⟨first, rfl, by simpa [same] using high⟩

private theorem refresh_has_iff (nonnegative : 0 ≤ config.queueDepthAlert)
    (listed : (snapshot.queueDepths.map GatewayDepth.gatewayId).Nodup)
    (filed : Filed collector) (id : String) :
    (collector.refresh config now snapshot).2.has id = true ↔
      Breached config snapshot id ∨
        (collector.has id = true ∧ IsCircuit id) := by
  have errorRate := @refresh_has_errorRate config now snapshot collector
  have p95Latency := @refresh_has_p95Latency config now snapshot collector
  have queueDepth := fun gatewayId => @refresh_has_queueDepth config now
    nonnegative snapshot gatewayId collector
  have circuit := fun gatewayId =>
    @refresh_has_circuit config now snapshot gatewayId collector
  constructor
  · intro active
    rcases (@Filed.refresh config now _ filed snapshot).known id active with
      rfl | rfl | ⟨gatewayId, rfl⟩ | ⟨gatewayId, rfl⟩
    · rw [errorRate, errorRateHigh, decide_eq_true_eq] at active
      exact .inl (.inl ⟨rfl, active⟩)
    · rw [p95Latency, p95LatencyHigh_iff] at active
      exact .inl (.inr (.inl ⟨rfl, active⟩))
    · rw [queueDepth, queueDepthHigh_iff listed] at active
      obtain ⟨depth, member, rfl, high⟩ := active
      exact .inl (.inr (.inr ⟨depth, member, rfl, high⟩))
    · rw [circuit] at active
      exact .inr ⟨active, gatewayId, rfl⟩
  · rintro ((⟨rfl, high⟩ | ⟨rfl, high⟩ | ⟨depth, member, rfl, high⟩) |
      ⟨active, gatewayId, rfl⟩)
    · rw [errorRate, errorRateHigh, decide_eq_true_eq]
      exact high
    · rw [p95Latency, p95LatencyHigh_iff]
      exact high
    · rw [queueDepth, queueDepthHigh_iff listed]
      exact ⟨depth, member, rfl, high⟩
    · rw [circuit]
      exact active

/-- An alert that stays is the alert that was there. -/
theorem refresh_keeps (filed : Filed collector) {alert later : ActiveAlert}
    (before : alert ∈ collector.alerts)
    (active : later ∈ (collector.refresh config now snapshot).2.alerts)
    (same : later.id = alert.id) : later = alert := by
  obtain ⟨sole, kept⟩ := @evaluateAll_sole config now _ filed.sole
    (evaluations config snapshot)
  exact eq_of_id sole (List.mem_filter.mp active).1 (kept alert before) same

/-- After a refresh the breached thresholds and the open circuits are active,
each once, and an alert that was active keeps its time. -/
theorem alerts_are_breaches (nonnegative : 0 ≤ config.queueDepthAlert)
    (calls : List (Timed CollectorOp))
    (listed : (snapshot.queueDepths.map GatewayDepth.gatewayId).Nodup)
    {prior refreshed : MetricsCollector}
    (reached : prior = after (perform config) empty calls)
    (evaluated : refreshed =
      (perform config now (.refresh snapshot) prior).2) :
    (∀ id, refreshed.has id = true ↔ Breached config snapshot id ∨
      (prior.has id = true ∧ IsCircuit id)) ∧
    (refreshed.alerts.map fun alert => alert.id).Nodup ∧
    ∀ alert ∈ prior.alerts, ∀ later ∈ refreshed.alerts,
      later.id = alert.id → later.raisedAt = alert.raisedAt := by
  subst reached evaluated
  have filed := filed_after config calls
  refine ⟨refresh_has_iff nonnegative listed filed, (filed.refresh _).sole,
    ?_⟩
  intro alert before later active same
  rw [refresh_keeps filed before active same]

/-- A gateway whose backlog stays and whose circuit has opened. -/
theorem alerts_are_breaches_backlog :
    ∃ prior refreshed : MetricsCollector,
      prior.has (queueDepthAlertId "stripe") = true ∧
      prior.has (circuitAlertId "stripe") = true ∧
      ∀ id, refreshed.has id = true ↔
        Breached .default ⟨9000, 60, 0, 0, ⟨0, 0, 0⟩, none, none,
          [⟨"stripe", 300⟩, ⟨"adyen", 200⟩], []⟩ id ∨
        (prior.has id = true ∧ IsCircuit id) := by
  refine ⟨_, _, ?_, ?_, (@alerts_are_breaches .default 9000
    ⟨9000, 60, 0, 0, ⟨0, 0, 0⟩, none, none,
      [⟨"stripe", 300⟩, ⟨"adyen", 200⟩], []⟩
    (by norm_num [MetricsConfig.default])
    [⟨1000, .refresh ⟨1000, 60, 0, 0, ⟨0, 0, 0⟩, none, none,
        [⟨"stripe", 250⟩], []⟩⟩, ⟨2000, .circuitOpened "stripe"⟩]
    (by decide) _ _ rfl rfl).1⟩
  · decide +kernel
  · decide +kernel

end PaymentQueue.Thresholds
