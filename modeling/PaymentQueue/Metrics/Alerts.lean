import PaymentQueue.Metrics.Collector

/-!
# What the collector does to its alerts

An evaluation raises an alert, emits an active one again or does nothing.
Circuit alerts are set by circuit events only: a refresh neither raises nor
clears them.
-/

namespace PaymentQueue.MetricsCollector

variable {config : MetricsConfig} {now : Time}

theorem has_eq_find (id : String) (collector : MetricsCollector) :
    collector.has id = (collector.alerts.find? fun alert =>
      decide (alert.id = id)).isSome := by
  rw [has, Bool.eq_iff_iff, List.any_eq_true, List.find?_isSome]

/-- What an evaluation can do: nothing, raise an alert, or emit an active one
again. -/
theorem evaluate_cases (evaluation : Evaluation)
    (collector : MetricsCollector) :
    let moved := collector.evaluate config now evaluation.id
      evaluation.condition evaluation.spec
    (moved.1 = [] ∧ moved.2 = collector ∧
      (evaluation.condition = true → collector.has evaluation.id = true)) ∨
    ∃ emission, moved.1 = [emission] ∧ emission.alert.id = evaluation.id ∧
      emission.atTime = now ∧ evaluation.condition = true ∧
      moved.2.has evaluation.id = true ∧
      (∀ id, id ≠ evaluation.id → moved.2.has id = collector.has id) ∧
      moved.2.lastRaisedAt = Function.update collector.lastRaisedAt
        evaluation.id (some now) ∧
      (collector.has evaluation.id = true →
        config.alertCooldownMs ≤ (now : ℚ) -
          ((collector.lastRaisedAt evaluation.id).getD 0 : Nat)) := by
  intro moved
  cases fulfilled : evaluation.condition with
  | false =>
      refine .inl ⟨?_, ?_, nofun⟩
      · simp [moved, evaluate, fulfilled]
      · simp [moved, evaluate, fulfilled]
  | true =>
      have active := has_eq_find evaluation.id collector
      cases held : collector.alerts.find? fun alert =>
          decide (alert.id = evaluation.id) with
      | none =>
          rw [held] at active
          refine .inr ⟨_, by simp only [moved, evaluate, fulfilled, held]; rfl,
            rfl, rfl, rfl, ?_, ?_, ?_, ?_⟩
          · simp [moved, evaluate, fulfilled, held, setLastRaisedAt, has]
          · intro id other
            simp [moved, evaluate, fulfilled, held, setLastRaisedAt, has,
              Ne.symm other]
          · simp [moved, evaluate, fulfilled, held, setLastRaisedAt]
          · intro contrary
            rw [contrary] at active
            cases active
      | some alert =>
          rw [held] at active
          have named := List.find?_some held
          by_cases rested : config.alertCooldownMs ≤ (now : ℚ) -
              ((collector.lastRaisedAt evaluation.id).getD 0 : Nat)
          · have emitted : moved = ([⟨alert, now⟩],
                collector.setLastRaisedAt now evaluation.id) := by
              simp [moved, evaluate, fulfilled, held, rested]
            rw [emitted]
            refine .inr ⟨_, rfl, by simpa using named, rfl, rfl, active, ?_,
              rfl, fun _ => rested⟩
            intro id other
            rfl
          · refine .inl ⟨?_, ?_, fun _ => active⟩
            · simp [moved, evaluate, fulfilled, held, rested]
            · simp [moved, evaluate, fulfilled, held, rested]

private theorem circuitAlertId_injective {gatewayId other : String}
    (same : circuitAlertId gatewayId = circuitAlertId other) :
    gatewayId = other := by
  simp only [circuitAlertId] at same
  have lists := congrArg String.toList same
  rw [String.toList_append, String.toList_append,
    List.append_cancel_left_eq] at lists
  exact String.toList_injective lists

theorem circuitAlertId_toList (gatewayId : String) :
    (circuitAlertId gatewayId).toList.head? = some 'c' := by
  rw [circuitAlertId, String.toList_append]
  rfl

theorem queueDepthAlertId_toList (gatewayId : String) :
    (queueDepthAlertId gatewayId).toList.head? = some 'q' := by
  rw [queueDepthAlertId, queueDepthPrefix, String.toList_append]
  rfl

theorem evaluate_has_other {evaluation : Evaluation} {id : String}
    (other : id ≠ evaluation.id) (collector : MetricsCollector) :
    (collector.evaluate config now evaluation.id evaluation.condition
      evaluation.spec).2.has id = collector.has id := by
  rcases @evaluate_cases config now evaluation collector with
    ⟨-, same, -⟩ | ⟨emission, -, -, -, -, -, others, -⟩
  · rw [same]
  · exact others id other

private theorem evaluateAll_has_other {evaluations : List Evaluation}
    {id : String}
    (others : ∀ evaluation ∈ evaluations, id ≠ evaluation.id)
    (collector : MetricsCollector) :
    (collector.evaluateAll config now evaluations).2.has id =
      collector.has id := by
  induction evaluations generalizing collector with
  | nil => rfl
  | cons evaluation evaluations induction =>
      simp only [evaluateAll]
      rw [induction (fun later member => others later (by simp [member])),
        evaluate_has_other (others evaluation (by simp))]

/-- A refresh evaluates no circuit alert. -/
theorem evaluations_not_circuit (snapshot : MetricsSnapshot)
    (gatewayId : String) :
    ∀ evaluation ∈ evaluations config snapshot,
      circuitAlertId gatewayId ≠ evaluation.id := by
  intro evaluation member same
  have head := circuitAlertId_toList gatewayId
  rw [same] at head
  simp only [evaluations, List.mem_cons, List.mem_map] at member
  rcases member with rfl | rfl | ⟨depth, -, rfl⟩
  · simp only at head
    cases head
  · simp only at head
    cases head
  · rw [queueDepthAlertId_toList] at head
    cases head

/-- A refresh clears no circuit alert. -/
theorem stillActive_circuit (snapshot : MetricsSnapshot)
    (gatewayId : String) :
    stillActive config snapshot (circuitAlertId gatewayId) = true := by
  have head := circuitAlertId_toList gatewayId
  rw [stillActive, if_neg, if_neg, if_neg]
  · intro isPrefix
    obtain ⟨rest, same⟩ := List.isPrefixOf_iff_prefix.mp isPrefix
    rw [← same] at head
    cases head
  · intro same
    rw [same] at head
    cases head
  · intro same
    rw [same] at head
    cases head

theorem refresh_has_circuit (snapshot : MetricsSnapshot)
    (gatewayId : String) (collector : MetricsCollector) :
    (collector.refresh config now snapshot).2.has (circuitAlertId gatewayId) =
      collector.has (circuitAlertId gatewayId) := by
  rw [← evaluateAll_has_other (evaluations_not_circuit snapshot gatewayId)
    collector]
  simp only [refresh, has, List.any_filter]
  congr 1
  funext alert
  by_cases named : alert.id = circuitAlertId gatewayId
  · simp [named, stillActive_circuit]
  · simp [named]

theorem setCircuitAlert_has_self (gatewayId : String) (isOpen : Bool)
    (collector : MetricsCollector) :
    (collector.setCircuitAlert config now gatewayId isOpen).2.has
      (circuitAlertId gatewayId) = isOpen := by
  cases isOpen with
  | false => simp [setCircuitAlert, delete, has]
  | true =>
      simp only [setCircuitAlert, if_true]
      rcases @evaluate_cases config now ⟨circuitAlertId gatewayId, true,
          .critical, s!"circuit breaker OPEN for gateway {gatewayId}",
          none, none⟩ collector with
        ⟨-, same, active⟩ | ⟨emission, -, -, -, -, active, -⟩
      · rw [same]
        exact active rfl
      · exact active

private theorem delete_has_other {id other : String} (apart : other ≠ id)
    (collector : MetricsCollector) :
    (collector.delete id).has other = collector.has other := by
  simp only [delete, has, List.any_filter]
  congr 1
  funext alert
  by_cases named : alert.id = other
  · simp [named, apart]
  · simp [named]

/-- A circuit event is about the alert of its gateway only. -/
theorem setCircuitAlert_has_of_ne {gatewayId id : String}
    (distinct : id ≠ circuitAlertId gatewayId) (isOpen : Bool)
    (collector : MetricsCollector) :
    (collector.setCircuitAlert config now gatewayId isOpen).2.has id =
      collector.has id := by
  cases isOpen with
  | false => exact delete_has_other distinct collector
  | true =>
      simp only [setCircuitAlert, if_true]
      exact @evaluate_has_other config now ⟨circuitAlertId gatewayId, true,
        .critical, s!"circuit breaker OPEN for gateway {gatewayId}",
        none, none⟩ _ distinct collector

theorem setCircuitAlert_has_other {gatewayId other : String}
    (apart : other ≠ gatewayId) (isOpen : Bool)
    (collector : MetricsCollector) :
    (collector.setCircuitAlert config now gatewayId isOpen).2.has
        (circuitAlertId other) =
      collector.has (circuitAlertId other) :=
  setCircuitAlert_has_of_ne
    (fun same => apart (circuitAlertId_injective same)) isOpen collector

/-- The depth that a snapshot reports for a gateway exceeds the limit. -/
def queueDepthHigh (config : MetricsConfig) (gatewayId : String)
    (snapshot : MetricsSnapshot) : Bool :=
  (snapshot.queueDepths.find? fun depth =>
      decide (depth.gatewayId = gatewayId)).any fun depth =>
    decide (config.queueDepthAlert < (depth.waiting : ℚ))

/-- An evaluation files the alert if its condition holds, and leaves the
others. -/
theorem evaluate_has (evaluation : Evaluation) (id : String)
    (collector : MetricsCollector) :
    (collector.evaluate config now evaluation.id evaluation.condition
        evaluation.spec).2.has id =
      (collector.has id ||
        (evaluation.condition && decide (evaluation.id = id))) := by
  by_cases other : id = evaluation.id
  · subst other
    rcases @evaluate_cases config now evaluation collector with
      ⟨-, same, active⟩ | ⟨emission, -, -, -, fulfilled, active, -⟩
    · rw [same]
      cases fulfilled : evaluation.condition with
      | false => simp
      | true => simp [active fulfilled]
    · rw [active, fulfilled]
      simp
  · rw [evaluate_has_other other]
    simp [Ne.symm other]

private theorem evaluateAll_has (evaluations : List Evaluation) (id : String)
    (collector : MetricsCollector) :
    (collector.evaluateAll config now evaluations).2.has id =
      (collector.has id || evaluations.any fun evaluation =>
        evaluation.condition && decide (evaluation.id = id)) := by
  induction evaluations generalizing collector with
  | nil => simp [evaluateAll]
  | cons evaluation evaluations induction =>
      simp only [evaluateAll]
      rw [induction, evaluate_has, List.any_cons, Bool.or_assoc]

/-- What a refresh leaves: active before or raised now, and still fulfilled. -/
theorem refresh_has (snapshot : MetricsSnapshot) (id : String)
    (collector : MetricsCollector) :
    (collector.refresh config now snapshot).2.has id =
      ((collector.has id || (evaluations config snapshot).any fun evaluation =>
          evaluation.condition && decide (evaluation.id = id)) &&
        stillActive config snapshot id) := by
  rw [← @evaluateAll_has config now]
  simp only [refresh, has, List.any_filter]
  rw [Bool.eq_iff_iff, Bool.and_eq_true, List.any_eq_true, List.any_eq_true]
  constructor
  · rintro ⟨alert, member, filed⟩
    rw [Bool.and_eq_true, decide_eq_true_eq] at filed
    obtain ⟨active, rfl⟩ := filed
    exact ⟨⟨alert, member, by simp⟩, active⟩
  · rintro ⟨⟨alert, member, named⟩, active⟩
    rw [decide_eq_true_eq] at named
    subst named
    exact ⟨alert, member, by simp [active]⟩

/-- An alert whose condition is evaluated follows it. -/
theorem refresh_has_of_evaluation {snapshot : MetricsSnapshot} {id : String}
    (evaluated : stillActive config snapshot id = true →
      ∃ evaluation ∈ evaluations config snapshot,
        evaluation.condition = true ∧ evaluation.id = id)
    (collector : MetricsCollector) :
    (collector.refresh config now snapshot).2.has id =
      stillActive config snapshot id := by
  rw [refresh_has]
  cases active : stillActive config snapshot id with
  | false => simp
  | true =>
      obtain ⟨evaluation, member, fulfilled, named⟩ := evaluated active
      rw [Bool.and_true, Bool.or_eq_true]
      exact .inr (List.any_eq_true.mpr
        ⟨evaluation, member, by simp [fulfilled, named]⟩)

theorem refresh_has_errorRate (snapshot : MetricsSnapshot)
    (collector : MetricsCollector) :
    (collector.refresh config now snapshot).2.has "error_rate_high" =
      errorRateHigh config snapshot := by
  apply refresh_has_of_evaluation
  intro active
  exact ⟨_, List.mem_cons_self, active, rfl⟩

theorem refresh_has_p95Latency (snapshot : MetricsSnapshot)
    (collector : MetricsCollector) :
    (collector.refresh config now snapshot).2.has "p95_latency_high" =
      p95LatencyHigh config snapshot := by
  apply refresh_has_of_evaluation
  intro active
  exact ⟨_, List.mem_cons_of_mem _ List.mem_cons_self, active, rfl⟩

/-- The gateway is parsed back out of the id of its alert. -/
theorem stillActive_queueDepth (nonnegative : 0 ≤ config.queueDepthAlert)
    (snapshot : MetricsSnapshot) (gatewayId : String) :
    stillActive config snapshot (queueDepthAlertId gatewayId) =
      queueDepthHigh config gatewayId snapshot := by
  have head := queueDepthAlertId_toList gatewayId
  have parsed : (queueDepthAlertId gatewayId).toList =
      queueDepthPrefix.toList ++ gatewayId.toList := String.toList_append
  rw [stillActive, if_neg, if_neg, if_pos]
  · rw [parsed, ← String.length_toList, List.drop_left,
      String.ofList_toList, queueDepthHigh]
    simp only
    cases snapshot.queueDepths.find? fun depth =>
        decide (depth.gatewayId = gatewayId) with
    | none => simpa using nonnegative
    | some depth => rfl
  · rw [parsed]
    exact List.isPrefixOf_iff_prefix.mpr (List.prefix_append _ _)
  · intro same
    rw [same] at head
    cases head
  · intro same
    rw [same] at head
    cases head

/-- Whatever was active before, the depth alerts are those of the snapshot. -/
theorem refresh_has_queueDepth (nonnegative : 0 ≤ config.queueDepthAlert)
    (snapshot : MetricsSnapshot) (gatewayId : String)
    (collector : MetricsCollector) :
    (collector.refresh config now snapshot).2.has
        (queueDepthAlertId gatewayId) =
      queueDepthHigh config gatewayId snapshot := by
  rw [← stillActive_queueDepth nonnegative]
  apply refresh_has_of_evaluation
  intro active
  rw [stillActive_queueDepth nonnegative, queueDepthHigh,
    Option.any_eq_true] at active
  obtain ⟨depth, found, high⟩ := active
  have named : depth.gatewayId = gatewayId := by
    simpa using List.find?_some found
  refine ⟨_, List.mem_cons_of_mem _ (List.mem_cons_of_mem _
    (List.mem_map_of_mem (List.mem_of_find?_eq_some found))), high, ?_⟩
  rw [← named]

end PaymentQueue.MetricsCollector
