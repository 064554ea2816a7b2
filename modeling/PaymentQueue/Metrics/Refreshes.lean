import PaymentQueue.Await.Transition
import PaymentQueue.Metrics.Collector

/-!
# Refreshes in parts

`refresh` counts the samples, waits for the queue depths, takes the alerts into
its snapshot and only then evaluates the thresholds.  Any number of refreshes
are under way while events reach the collector.
-/

namespace PaymentQueue

/-- Where an execution of `refresh` stands. -/
inductive Refresh where
  /-- The samples are counted, the queue depths are not known. -/
  | counted (counts : MetricsSnapshot)
  /-- `snapshot` has returned. -/
  | assembled (snapshot : MetricsSnapshot)
  | returned (snapshot : MetricsSnapshot)
  | failed
  deriving DecidableEq

structure RefreshingCollector where
  collector : MetricsCollector
  refreshes : List Refresh

namespace RefreshingCollector

def create : RefreshingCollector :=
  { collector := .empty
    refreshes := [] }

/-- `refresh` up to its await. -/
def beginRefresh (config : MetricsConfig) (now : Time)
    (state : RefreshingCollector) : RefreshingCollector :=
  { state with
    refreshes := state.refreshes ++
      [.counted (state.collector.snapshot config now [])] }

/-- The rest of `snapshot`: the alerts are those of now. -/
def assemble (counts : MetricsSnapshot) (queueDepths : List GatewayDepth)
    (collector : MetricsCollector) : MetricsSnapshot :=
  { counts with
    queueDepths
    alerts := collector.alerts }

inductive Label where
  | jobCompleted (now : Time) (gatewayId : String) (ok : Bool)
    (durationMs : ℚ)
  | circuit (now : Time) (gatewayId : String) (isOpen : Bool)
  /-- `payment.queued`, or the tick of the broadcast. -/
  | begin (now : Time)
  /-- `collectQueueDepths` has returned to a refresh. -/
  | depths (index : Nat) (queueDepths : List GatewayDepth)
  | rejected (index : Nat)
  /-- A refresh evaluates the thresholds and returns its snapshot. -/
  | evaluate (now : Time) (index : Nat)

def step (config : MetricsConfig) (label : Label)
    (state : RefreshingCollector) : Option RefreshingCollector :=
  match label with
  | .jobCompleted now gatewayId ok durationMs =>
      some (beginRefresh config now { state with
        collector := (state.collector.perform config now
          (.jobCompleted gatewayId ok durationMs)).2 })
  | .circuit now gatewayId isOpen =>
      some { state with
        collector :=
          (state.collector.setCircuitAlert config now gatewayId isOpen).2 }
  | .begin now => some (state.beginRefresh config now)
  | .depths index queueDepths =>
      match state.refreshes[index]? with
      | some (.counted counts) =>
          some { state with
            refreshes := state.refreshes.set index
              (.assembled (assemble counts queueDepths state.collector)) }
      | _ => none
  | .rejected index =>
      match state.refreshes[index]? with
      | some (.counted _) =>
          some { state with
            refreshes := state.refreshes.set index .failed }
      | _ => none
  | .evaluate now index =>
      match state.refreshes[index]? with
      | some (.assembled snapshot) =>
          some
            { collector := (state.collector.perform config now
                (.refresh snapshot)).2
              refreshes := state.refreshes.set index (.returned snapshot) }
      | _ => none

/-- The snapshot that was evaluated last. -/
def lastEvaluated (state : RefreshingCollector) (label : Label)
    (evaluated : Option MetricsSnapshot) : Option MetricsSnapshot :=
  match label with
  | .evaluate _ index =>
      match state.refreshes[index]? with
      | some (.assembled snapshot) => some snapshot
      | _ => evaluated
  | _ => evaluated

end RefreshingCollector

end PaymentQueue
