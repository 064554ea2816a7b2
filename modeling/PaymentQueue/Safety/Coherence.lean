import PaymentQueue.Metrics.Alerts
import PaymentQueue.Metrics.Refreshes

/-!
# Snapshots and their alerts

The alerts in a snapshot are those of the evaluation before it, not of the
snapshot itself.  A refresh returns a snapshot that agrees with its alerts
exactly when it breaches what the snapshot evaluated last had breached.
-/

namespace PaymentQueue.Coherence

open Await MetricsCollector RefreshingCollector

def Active (snapshot : MetricsSnapshot) (id : String) : Prop :=
  ∃ alert ∈ snapshot.alerts, alert.id = id

/-- The alerts of a snapshot are the thresholds that it breaches. -/
structure Coherent (config : MetricsConfig) (snapshot : MetricsSnapshot) :
    Prop where
  errorRate : Active snapshot "error_rate_high" ↔
    config.errorRateAlert < snapshot.errorRate
  p95Latency : Active snapshot "p95_latency_high" ↔
    ∃ p95Ms, snapshot.p95Ms = some p95Ms ∧ config.p95LatencyAlertMs < p95Ms
  queueDepth : ∀ gatewayId, Active snapshot (queueDepthAlertId gatewayId) ↔
    queueDepthHigh config gatewayId snapshot = true

/-- The snapshot breaches what the other one did, or nothing if there is no
other. -/
structure SameBreaches (config : MetricsConfig)
    (evaluated : Option MetricsSnapshot) (snapshot : MetricsSnapshot) :
    Prop where
  errorRate : errorRateHigh config snapshot =
    evaluated.any (errorRateHigh config)
  p95Latency : p95LatencyHigh config snapshot =
    evaluated.any (p95LatencyHigh config)
  queueDepth : ∀ gatewayId, queueDepthHigh config gatewayId snapshot =
    evaluated.any (queueDepthHigh config gatewayId)

/-- The queue depths reach a refresh whose counts and depths breach what was
breached at the last evaluation. -/
def Steady (config : MetricsConfig)
    (state : RefreshingCollector × Option MetricsSnapshot) :
    RefreshingCollector.Label → Prop
  | .depths index queueDepths => ∀ counts,
      state.1.refreshes[index]? = some (.counted counts) →
        SameBreaches config state.2
          (assemble counts queueDepths state.1.collector)
  | _ => True

/-- Runs of the collector, with the snapshot that was evaluated last. -/
def Runs (config : MetricsConfig)
    (admits : RefreshingCollector × Option MetricsSnapshot →
      RefreshingCollector.Label → Prop) :
    RefreshingCollector × Option MetricsSnapshot → Prop :=
  Reaches (observed (RefreshingCollector.step config) lastEvaluated) admits
    (RefreshingCollector.create, none)

/-- The threshold alerts are the breaches of the last evaluation. -/
structure Tracks (config : MetricsConfig)
    (evaluated : Option MetricsSnapshot) (collector : MetricsCollector) :
    Prop where
  errorRate : collector.has "error_rate_high" =
    evaluated.any (errorRateHigh config)
  p95Latency : collector.has "p95_latency_high" =
    evaluated.any (p95LatencyHigh config)
  queueDepth : ∀ gatewayId, collector.has (queueDepthAlertId gatewayId) =
    evaluated.any (queueDepthHigh config gatewayId)

variable {config : MetricsConfig} {now : Time} {collector : MetricsCollector}
  {evaluated : Option MetricsSnapshot} {snapshot : MetricsSnapshot}

private theorem tracks_empty : Tracks config none empty :=
  ⟨rfl, rfl, fun _ => rfl⟩

theorem Tracks.of_has {next : MetricsCollector}
    (tracks : Tracks config evaluated collector)
    (same : ∀ id, (∀ gatewayId, id ≠ circuitAlertId gatewayId) →
      next.has id = collector.has id) : Tracks config evaluated next := by
  have apart : ∀ (id : String) (gatewayId : String),
      id.toList.head? ≠ some 'c' → id ≠ circuitAlertId gatewayId := by
    rintro id gatewayId head rfl
    exact head (circuitAlertId_toList gatewayId)
  constructor
  · rw [same _ fun gatewayId => apart _ gatewayId (by decide)]
    exact tracks.errorRate
  · rw [same _ fun gatewayId => apart _ gatewayId (by decide)]
    exact tracks.p95Latency
  · intro other
    have head := queueDepthAlertId_toList other
    rw [same _ fun gatewayId => apart _ gatewayId (by rw [head]; decide)]
    exact tracks.queueDepth other

private theorem tracks_refresh (nonnegative : 0 ≤ config.queueDepthAlert)
    (snapshot : MetricsSnapshot) (collector : MetricsCollector) :
    Tracks config (some snapshot)
      (collector.refresh config now snapshot).2 := by
  constructor
  · rw [refresh_has_errorRate]
    rfl
  · rw [refresh_has_p95Latency]
    rfl
  · intro gatewayId
    rw [refresh_has_queueDepth nonnegative]
    rfl

private theorem tracks_step (nonnegative : 0 ≤ config.queueDepthAlert)
    {state next : RefreshingCollector} {label : RefreshingCollector.Label}
    (tracks : Tracks config evaluated state.collector)
    (taken : RefreshingCollector.step config label state = some next) :
    Tracks config (lastEvaluated state label evaluated) next.collector := by
  cases label with
  | jobCompleted now gatewayId ok durationMs =>
      cases taken
      apply tracks.of_has
      intro id _
      simp [beginRefresh, perform, has]
  | circuit now gatewayId isOpen =>
      cases taken
      apply tracks.of_has
      intro id distinct
      exact setCircuitAlert_has_of_ne (distinct gatewayId) isOpen _
  | begin now =>
      cases taken
      exact tracks
  | depths index queueDepths =>
      simp only [RefreshingCollector.step] at taken
      split at taken
      · cases taken
        exact tracks
      · cases taken
  | rejected index =>
      simp only [RefreshingCollector.step] at taken
      split at taken
      · cases taken
        exact tracks
      · cases taken
  | evaluate now index =>
      simp only [RefreshingCollector.step] at taken
      split at taken
      case h_1 snapshot found =>
        cases taken
        simp only [lastEvaluated, found]
        exact tracks_refresh nonnegative snapshot _
      case h_2 => cases taken

/-- The alerts of the last evaluation go into the snapshot. -/
theorem coherent_iff (tracks : Tracks config evaluated collector)
    (counts : MetricsSnapshot) (queueDepths : List GatewayDepth) :
    Coherent config (assemble counts queueDepths collector) ↔
      SameBreaches config evaluated
        (assemble counts queueDepths collector) := by
  have active : ∀ id, Active (assemble counts queueDepths collector) id ↔
      collector.has id = true := by
    intro id
    simp [Active, assemble, has]
  have p95 : ∀ snapshot : MetricsSnapshot,
      p95LatencyHigh config snapshot = true ↔ ∃ p95Ms,
        snapshot.p95Ms = some p95Ms ∧ config.p95LatencyAlertMs < p95Ms := by
    simp [p95LatencyHigh, Option.any_eq_true]
  constructor
  · rintro ⟨errorRate, p95Latency, queueDepth⟩
    constructor
    · rw [← tracks.errorRate, Bool.eq_iff_iff, ← active, errorRate,
        errorRateHigh, decide_eq_true_eq]
    · rw [← tracks.p95Latency, Bool.eq_iff_iff, ← active, p95Latency, p95]
    · intro gatewayId
      rw [← tracks.queueDepth, Bool.eq_iff_iff, ← active, queueDepth]
  · rintro ⟨errorRate, p95Latency, queueDepth⟩
    constructor
    · rw [active, tracks.errorRate, ← errorRate, errorRateHigh,
        decide_eq_true_eq]
    · rw [active, tracks.p95Latency, ← p95Latency, p95]
    · intro gatewayId
      rw [active, tracks.queueDepth, ← queueDepth]

/-- The snapshot that a refresh carries after its await. -/
def carried : Refresh → Option MetricsSnapshot
  | .assembled snapshot | .returned snapshot => some snapshot
  | .counted _ | .failed => none

def AllCoherent (config : MetricsConfig) (refreshes : List Refresh) : Prop :=
  ∀ refresh ∈ refreshes, ∀ snapshot, carried refresh = some snapshot →
    Coherent config snapshot

theorem AllCoherent.set {refreshes : List Refresh}
    (coherent : AllCoherent config refreshes) (index : Nat)
    {refresh : Refresh} (moved : ∀ snapshot, carried refresh = some snapshot →
      Coherent config snapshot) :
    AllCoherent config (refreshes.set index refresh) := by
  intro other member snapshot found
  rcases List.mem_or_eq_of_mem_set member with old | rfl
  · exact coherent other old snapshot found
  · exact moved snapshot found

theorem AllCoherent.begin {refreshes : List Refresh}
    (coherent : AllCoherent config refreshes) (counts : MetricsSnapshot) :
    AllCoherent config (refreshes ++ [.counted counts]) := by
  intro refresh member snapshot found
  rcases List.mem_append.mp member with old | new
  · exact coherent refresh old snapshot found
  · rw [List.mem_singleton.mp new] at found
    cases found

private theorem coherent_step {state next : RefreshingCollector}
    {label : RefreshingCollector.Label}
    (tracks : Tracks config evaluated state.collector)
    (coherent : AllCoherent config state.refreshes)
    (steady : Steady config (state, evaluated) label)
    (taken : RefreshingCollector.step config label state = some next) :
    AllCoherent config next.refreshes := by
  cases label with
  | jobCompleted now gatewayId ok durationMs =>
      cases taken
      exact coherent.begin _
  | circuit now gatewayId isOpen =>
      cases taken
      exact coherent
  | begin now =>
      cases taken
      exact coherent.begin _
  | depths index queueDepths =>
      simp only [RefreshingCollector.step] at taken
      split at taken
      case h_1 counts found =>
        cases taken
        apply coherent.set index
        intro snapshot assembled
        cases assembled
        exact (coherent_iff tracks counts queueDepths).mpr
          (steady counts found)
      case h_2 => cases taken
  | rejected index =>
      simp only [RefreshingCollector.step] at taken
      split at taken
      · cases taken
        exact coherent.set index nofun
      · cases taken
  | evaluate now index =>
      simp only [RefreshingCollector.step] at taken
      split at taken
      case h_1 snapshot found =>
        cases taken
        apply coherent.set index
        intro other returned
        cases returned
        exact coherent _ (List.mem_of_getElem? found) snapshot rfl
      case h_2 => cases taken

private theorem tracks_reached (nonnegative : 0 ≤ config.queueDepthAlert)
    {admits : RefreshingCollector × Option MetricsSnapshot →
      RefreshingCollector.Label → Prop}
    {state : RefreshingCollector × Option MetricsSnapshot}
    (reached : Runs config admits state) :
    Tracks config state.2 state.1.collector := by
  apply reached.invariant tracks_empty
  intro state label next tracks _ taken
  obtain ⟨moved, noted⟩ := observed_eq_some.mp taken
  rw [noted]
  exact tracks_step nonnegative tracks moved

/-- In a run in which every refresh breaches what was breached at the last
evaluation, every snapshot is coherent; and a refresh for which this fails has
an incoherent one. -/
theorem snapshots_coherent (nonnegative : 0 ≤ config.queueDepthAlert) :
    (∀ state, Runs config (Steady config) state →
      ∀ snapshot, .returned snapshot ∈ state.1.refreshes →
        Coherent config snapshot) ∧
    ∀ state, Runs config (fun _ _ => True) state →
      ∀ (index : Nat) counts queueDepths,
        state.1.refreshes[index]? = some (Refresh.counted counts) →
        (Coherent config (assemble counts queueDepths state.1.collector) ↔
          SameBreaches config state.2
            (assemble counts queueDepths state.1.collector)) := by
  constructor
  · intro state reached
    have holds : Tracks config state.2 state.1.collector ∧
        AllCoherent config state.1.refreshes := by
      have invariant := @Reaches.invariant _ _ _ _
        (fun state => Tracks config state.2 state.1.collector ∧
          AllCoherent config state.1.refreshes) _ _ reached
      apply invariant ⟨tracks_empty, nofun⟩
      intro state label next kept steady taken
      obtain ⟨moved, noted⟩ := observed_eq_some.mp taken
      rw [noted]
      exact ⟨tracks_step nonnegative kept.1 moved,
        coherent_step kept.1 kept.2 steady moved⟩
    intro snapshot member
    exact holds.2 _ member snapshot rfl
  · intro state reached index counts queueDepths _
    exact coherent_iff (tracks_reached nonnegative reached) counts queueDepths

/-- A snapshot with a short queue and nothing breached. -/
def calm : MetricsSnapshot :=
  assemble (MetricsCollector.empty.snapshot .default 1000 [])
    [⟨"stripe", 10⟩] .empty

/-- The next snapshot after the only attempt has failed and its alert was
raised. -/
def alarmed (state : RefreshingCollector × Option MetricsSnapshot) :
    Option MetricsSnapshot :=
  match state.1.refreshes[1]? with
  | some (Refresh.counted counts) =>
      some (assemble counts [] state.1.collector)
  | _ => none

/-- Two snapshots without queues that agree on their thresholds. -/
def agrees (snapshot evaluated : MetricsSnapshot) : Bool :=
  decide (snapshot.queueDepths = [] ∧ evaluated.queueDepths = [] ∧
    errorRateHigh .default snapshot = errorRateHigh .default evaluated ∧
    p95LatencyHigh .default snapshot = p95LatencyHigh .default evaluated)

private theorem exists_alarmed :
    ∃ state snapshot, Runs .default (fun _ _ => True) state ∧
      alarmed state = some snapshot ∧ Active snapshot "error_rate_high" ∧
      SameBreaches .default state.2 snapshot := by
  obtain ⟨state, reached, checked⟩ := exists_of_replay
    (observed (RefreshingCollector.step .default) lastEvaluated)
    (fun _ _ => true)
    [.jobCompleted 1000 "stripe" false 40, .depths 0 [], .evaluate 1001 0,
      .begin 1500]
    (RefreshingCollector.create, none)
    (fun state => (alarmed state).any fun snapshot =>
      snapshot.alerts.any (fun alert => decide (alert.id = "error_rate_high")) &&
        state.2.any (agrees snapshot))
    (by decide +kernel)
  obtain ⟨snapshot, found, checked⟩ := (Option.any_eq_true _ _).mp checked
  rw [Bool.and_eq_true, Option.any_eq_true] at checked
  obtain ⟨active, evaluated, last, same⟩ := checked
  obtain ⟨noDepths, noDepths', errorRate, p95Latency⟩ := of_decide_eq_true same
  refine ⟨state, snapshot, reached.mono fun _ _ _ => trivial, found, ?_, ?_⟩
  · simpa [Active] using active
  · rw [last]
    exact ⟨errorRate, p95Latency, fun gatewayId => by
      simp [queueDepthHigh, noDepths, noDepths']⟩

theorem snapshots_coherent_calm :
    (∃ state, Runs .default (Steady .default) state ∧
      .returned calm ∈ state.1.refreshes ∧ Coherent .default calm) ∧
    ∃ state snapshot, Runs .default (fun _ _ => True) state ∧
      alarmed state = some snapshot ∧ Active snapshot "error_rate_high" ∧
      Coherent .default snapshot := by
  have nonnegative : (0 : ℚ) ≤ MetricsConfig.default.queueDepthAlert := by
    norm_num [MetricsConfig.default]
  obtain ⟨held, exact⟩ := snapshots_coherent nonnegative
  constructor
  · have steady : SameBreaches .default none calm := by
      refine ⟨by decide +kernel, by decide +kernel, ?_⟩
      intro gatewayId
      by_cases named : gatewayId = "stripe"
      · subst named
        decide +kernel
      · simp [queueDepthHigh, calm, assemble, Ne.symm named]
    let counts := MetricsCollector.empty.snapshot .default 1000 []
    let collector := (MetricsCollector.empty.perform .default 1001
      (.refresh calm)).2
    have begun : observed (RefreshingCollector.step .default) lastEvaluated
        (.begin 1000) (create, none) =
          some (⟨.empty, [.counted counts]⟩, none) := rfl
    have assembled : observed (RefreshingCollector.step .default) lastEvaluated
        (.depths 0 [⟨"stripe", 10⟩]) (⟨.empty, [.counted counts]⟩, none) =
          some (⟨.empty, [.assembled calm]⟩, none) := rfl
    have returned : observed (RefreshingCollector.step .default) lastEvaluated
        (.evaluate 1001 0) (⟨.empty, [.assembled calm]⟩, none) =
          some (⟨collector, [.returned calm]⟩, some calm) := rfl
    have reached : Runs .default (Steady .default)
        (⟨collector, [.returned calm]⟩, some calm) := by
      refine .step (.step (.step .refl ?_ begun) ?_ assembled) ?_ returned
      · trivial
      · intro counts found
        obtain rfl := Refresh.counted.inj (Option.some.inj found)
        exact steady
      · trivial
    have member : Refresh.returned calm ∈ [Refresh.returned calm] :=
      List.mem_singleton.mpr rfl
    exact ⟨_, reached, member, held _ reached calm member⟩
  · obtain ⟨state, snapshot, reached, found, active, same⟩ := exists_alarmed
    refine ⟨state, snapshot, reached, found, active, ?_⟩
    rw [alarmed] at found
    split at found
    case h_1 counts counted =>
      cases found
      exact (exact state reached 1 counts [] counted).mpr same
    case h_2 => cases found

/-- The only attempt has failed, and the snapshot that says so has no
alert. -/
theorem snapshots_incoherent :
    ¬ ∀ config : MetricsConfig, 0 ≤ config.queueDepthAlert →
      ∀ state, Runs config (fun _ _ => True) state →
        ∀ snapshot, .returned snapshot ∈ state.1.refreshes →
          Coherent config snapshot := by
  intro coherent
  obtain ⟨state, reached, checked⟩ := exists_of_replay
    (observed (RefreshingCollector.step .default) lastEvaluated)
    (fun _ _ => true)
    [.jobCompleted 1000 "stripe" false 40, .depths 0 [], .evaluate 1001 0]
    (RefreshingCollector.create, none)
    (fun state => state.1.refreshes.any fun refresh =>
      match refresh with
      | .returned snapshot => decide (snapshot.alerts = [] ∧
          MetricsConfig.default.errorRateAlert < snapshot.errorRate)
      | _ => false)
    (by decide +kernel)
  obtain ⟨refresh, member, incoherent⟩ := List.any_eq_true.mp checked
  cases refresh with
  | returned snapshot =>
      simp only [decide_eq_true_eq] at incoherent
      obtain ⟨none, high⟩ := incoherent
      obtain ⟨alert, present, -⟩ := (coherent .default
        (by norm_num [MetricsConfig.default]) state
        (reached.mono fun _ _ _ => trivial) snapshot member).errorRate.mpr high
      rw [none] at present
      cases present
  | assembled snapshot => cases incoherent
  | counted counts => cases incoherent
  | failed => cases incoherent

end PaymentQueue.Coherence
