import Mathlib.Algebra.Order.Field.Rat
import Mathlib.Data.List.Sort
import Mathlib.Data.Rat.Floor
import PaymentQueue.Domain.Payment

/-!
# Metrics collector

`metrics/metrics-collector.service.ts`: a rolling window of attempt
completions, and the alerts that are raised when a snapshot of it breaches a
threshold or a circuit opens.  Durations, rates and limits are exact
rationals.

`refresh` awaits the queue depths between its snapshot and the evaluation of
the thresholds, so the evaluation is an operation of its own and takes any
snapshot.  One that fails changes nothing and is left out.
-/

namespace PaymentQueue

/-- `config.metrics`, without the interval of the broadcast. -/
structure MetricsConfig where
  windowSeconds : ℚ
  /-- Error rate above which an alert is raised. -/
  errorRateAlert : ℚ
  /-- P95 latency in milliseconds above which an alert is raised. -/
  p95LatencyAlertMs : ℚ
  /-- Waiting queue depth above which an alert is raised. -/
  queueDepthAlert : ℚ
  /-- Cooldown before the same alert condition can be raised again. -/
  alertCooldownMs : ℚ
  deriving DecidableEq

/-- Defaults of `buildConfig`. -/
def MetricsConfig.default : MetricsConfig :=
  { windowSeconds := 60
    errorRateAlert := 1 / 10
    p95LatencyAlertMs := 1000
    queueDepthAlert := 200
    alertCooldownMs := 10000 }

structure AttemptSample where
  t : Time
  gatewayId : String
  ok : Bool
  durationMs : ℚ
  deriving DecidableEq

/-- A `MetricsAlertPayload` with its optional fields. -/
structure ActiveAlert extends MetricsAlertPayload where
  value : Option ℚ
  threshold : Option ℚ
  deriving DecidableEq

/-- The depth of a gateway queue, as far as alerts are concerned. -/
structure GatewayDepth where
  gatewayId : String
  waiting : Nat
  deriving DecidableEq

structure AttemptCounts where
  ok : Nat
  failed : Nat
  total : Nat
  deriving DecidableEq

structure MetricsSnapshot where
  timestamp : Time
  windowSeconds : ℚ
  /-- Attempt completions in the last second. -/
  tps : Nat
  errorRate : ℚ
  attempts : AttemptCounts
  p95Ms : Option ℚ
  p99Ms : Option ℚ
  queueDepths : List GatewayDepth
  alerts : List ActiveAlert
  deriving DecidableEq

/-- A `metrics.alert` event. -/
structure AlertEmission where
  alert : ActiveAlert
  atTime : Time
  deriving DecidableEq

/-- `percentile` of a sorted list. -/
def percentile (sorted : List ℚ) (p : ℚ) : Option ℚ :=
  if sorted.length = 0 then none
  else sorted[min (sorted.length - 1) (max 0 (⌈p * sorted.length⌉ - 1)).toNat]?

/-- `Number.prototype.toFixed`: of two decimals that are equally close the
larger one is taken.  Numbers are exact here; where the source rounds a float
before it comes to the text, the last decimal of a message may differ. -/
def toFixed (digits : Nat) (value : ℚ) : String :=
  let scaled := ⌊|value| * 10 ^ digits + 1 / 2⌋.toNat
  let sign := if value < 0 then "-" else ""
  let whole := toString (scaled / 10 ^ digits)
  if digits = 0 then sign ++ whole
  else
    let decimals := toString (scaled % 10 ^ digits)
    sign ++ whole ++ "." ++
      String.ofList (List.replicate (digits - decimals.length) '0') ++ decimals

/-- A number in a template string, written out to its last decimal.  The
exponents of very large and very small numbers are left out. -/
def numberText (value : ℚ) : String :=
  toFixed (((List.range 22).find? fun digits =>
    decide (10 ^ digits % value.den = 0)).getD 21) value

/-- `alerts` and `lastRaisedAt` are maps; an alert is filed under its id. -/
structure MetricsCollector where
  samples : List AttemptSample
  alerts : List ActiveAlert
  lastRaisedAt : String → Option Time

/-- What `evaluate` is told about an alert. -/
structure AlertSpec where
  severity : AlertSeverity
  message : String
  value : Option ℚ
  threshold : Option ℚ

def circuitAlertId (gatewayId : String) : String :=
  "circuit_open:" ++ gatewayId

def queueDepthPrefix : String := "queue_depth_high:"

def queueDepthAlertId (gatewayId : String) : String :=
  queueDepthPrefix ++ gatewayId

namespace MetricsCollector

variable (config : MetricsConfig) (now : Time)

def empty : MetricsCollector :=
  { samples := [], alerts := [], lastRaisedAt := fun _ => none }

/-- The number of samples that are kept. -/
@[irreducible] def sampleLimit : Nat := 10000

/-- The clock is read for the sample and again for the cutoff. -/
def recordAttempt (t : Time) (gatewayId : String) (ok : Bool)
    (durationMs : ℚ) (collector : MetricsCollector) : MetricsCollector :=
  let pushed := collector.samples ++ [⟨t, gatewayId, ok, durationMs⟩]
  let recent := pushed.dropWhile fun sample =>
    decide ((sample.t : ℚ) < now - config.windowSeconds * 1000)
  { collector with samples := recent.drop (recent.length - sampleLimit) }

@[simp] theorem recordAttempt_alerts (t : Time) (gatewayId : String)
    (ok : Bool) (durationMs : ℚ) (collector : MetricsCollector) :
    (collector.recordAttempt config now t gatewayId ok durationMs).alerts =
      collector.alerts := by
  rw [recordAttempt]

@[simp] theorem recordAttempt_lastRaisedAt (t : Time) (gatewayId : String)
    (ok : Bool) (durationMs : ℚ) (collector : MetricsCollector) :
    (collector.recordAttempt config now t gatewayId ok
      durationMs).lastRaisedAt = collector.lastRaisedAt := by
  rw [recordAttempt]

/-- The samples that a snapshot counts. -/
def inWindow (collector : MetricsCollector) : List AttemptSample :=
  collector.samples.filter fun sample =>
    decide (now - config.windowSeconds * 1000 ≤ (sample.t : ℚ))

def snapshot (queueDepths : List GatewayDepth)
    (collector : MetricsCollector) : MetricsSnapshot :=
  let inWindow := collector.inWindow config now
  let ok := (inWindow.filter AttemptSample.ok).length
  let total := inWindow.length
  let failed := total - ok
  let durations := (inWindow.map AttemptSample.durationMs).insertionSort (· ≤ ·)
  { timestamp := now
    windowSeconds := config.windowSeconds
    tps := (inWindow.filter fun sample =>
      decide ((now : ℚ) - 1000 ≤ sample.t)).length
    errorRate := if total = 0 then 0 else failed / total
    attempts := ⟨ok, failed, total⟩
    p95Ms := percentile durations (95 / 100)
    p99Ms := percentile durations (99 / 100)
    queueDepths
    alerts := collector.alerts }

def has (id : String) (collector : MetricsCollector) : Bool :=
  collector.alerts.any fun alert => decide (alert.id = id)

def delete (id : String) (collector : MetricsCollector) : MetricsCollector :=
  { collector with
    alerts := collector.alerts.filter fun alert => decide (alert.id ≠ id) }

def setLastRaisedAt (id : String) (collector : MetricsCollector) :
    MetricsCollector :=
  { collector with
    lastRaisedAt := Function.update collector.lastRaisedAt id (some now) }

/-- A new alert is emitted at once, an active one again after the
cooldown. -/
def evaluate (id : String) (condition : Bool) (spec : AlertSpec)
    (collector : MetricsCollector) :
    List AlertEmission × MetricsCollector :=
  if condition then
    match collector.alerts.find? fun alert => decide (alert.id = id) with
    | none =>
        let alert : ActiveAlert :=
          { id
            severity := spec.severity
            message := spec.message
            raisedAt := now
            value := spec.value
            threshold := spec.threshold }
        ([⟨alert, now⟩],
          { collector with
            alerts := collector.alerts ++ [alert] }.setLastRaisedAt now id)
    | some alert =>
        if config.alertCooldownMs ≤
            (now : ℚ) - ((collector.lastRaisedAt id).getD 0 : Nat) then
          ([⟨alert, now⟩], collector.setLastRaisedAt now id)
        else ([], collector)
  else ([], collector)

def setCircuitAlert (gatewayId : String) (isOpen : Bool)
    (collector : MetricsCollector) :
    List AlertEmission × MetricsCollector :=
  if isOpen then
    collector.evaluate config now (circuitAlertId gatewayId) true
      ⟨.critical, s!"circuit breaker OPEN for gateway {gatewayId}", none, none⟩
  else ([], collector.delete (circuitAlertId gatewayId))

/-- An alert with the condition under which it is raised. -/
structure Evaluation where
  id : String
  condition : Bool
  spec : AlertSpec

def errorRateHigh (snapshot : MetricsSnapshot) : Bool :=
  decide (config.errorRateAlert < snapshot.errorRate)

def p95LatencyHigh (snapshot : MetricsSnapshot) : Bool :=
  snapshot.p95Ms.any fun p95Ms => decide (config.p95LatencyAlertMs < p95Ms)

/-- The evaluations of `refresh`, in their order. -/
def evaluations (snapshot : MetricsSnapshot) : List Evaluation :=
  let rate := toFixed 1 (snapshot.errorRate * 100)
  let limit := toFixed 1 (config.errorRateAlert * 100)
  let p95 := (snapshot.p95Ms.map (toFixed 0)).getD "undefined"
  let p95Limit := numberText config.p95LatencyAlertMs
  let depthLimit := numberText config.queueDepthAlert
  ⟨"error_rate_high", errorRateHigh config snapshot, .critical,
    s!"error rate {rate}% exceeds threshold {limit}%",
    some snapshot.errorRate, some config.errorRateAlert⟩ ::
  ⟨"p95_latency_high", p95LatencyHigh config snapshot, .warning,
    s!"P95 latency {p95}ms exceeds threshold {p95Limit}ms",
    snapshot.p95Ms, some config.p95LatencyAlertMs⟩ ::
  snapshot.queueDepths.map fun gateway =>
    ⟨queueDepthAlertId gateway.gatewayId,
      decide (config.queueDepthAlert < (gateway.waiting : ℚ)), .warning,
      s!"gateway {gateway.gatewayId} waiting depth {gateway.waiting} exceeds threshold {depthLimit}",
      some gateway.waiting, some config.queueDepthAlert⟩

/-- Evaluate one alert after another. -/
def evaluateAll : List Evaluation → MetricsCollector →
    List AlertEmission × MetricsCollector
  | [], collector => ([], collector)
  | evaluation :: evaluations, collector =>
      let (emitted, raised) := collector.evaluate config now evaluation.id
        evaluation.condition evaluation.spec
      let (later, final) := evaluateAll evaluations raised
      (emitted ++ later, final)

/-- The condition of an alert that is active still holds.  Circuit alerts stay
until the circuit closes. -/
def stillActive (snapshot : MetricsSnapshot) (id : String) : Bool :=
  if id = "error_rate_high" then errorRateHigh config snapshot
  else if id = "p95_latency_high" then p95LatencyHigh config snapshot
  else if queueDepthPrefix.toList.isPrefixOf id.toList then
    let gatewayId := String.ofList (id.toList.drop queueDepthPrefix.length)
    let depths := snapshot.queueDepths.find? fun depth =>
      decide (depth.gatewayId = gatewayId)
    decide (config.queueDepthAlert <
      ((depths.map GatewayDepth.waiting).getD 0 : Nat))
  else true

/-- The second part of `refresh`, once the queue depths are known. -/
def refresh (snapshot : MetricsSnapshot) (collector : MetricsCollector) :
    List AlertEmission × MetricsCollector :=
  let (emitted, raised) := collector.evaluateAll config now
    (evaluations config snapshot)
  (emitted, { raised with
    alerts := raised.alerts.filter fun alert =>
      stillActive config snapshot alert.id })

end MetricsCollector

/-- What reaches the collector: events of the bus, and refreshes. -/
inductive CollectorOp where
  | jobCompleted (gatewayId : String) (ok : Bool) (durationMs : ℚ)
  | circuitOpened (gatewayId : String)
  | circuitClosed (gatewayId : String)
  | refresh (snapshot : MetricsSnapshot)

/-- The listeners of `onModuleInit`, and the refreshes that they and the
broadcast start. -/
def MetricsCollector.perform (config : MetricsConfig) (now : Time) :
    CollectorOp → MetricsCollector → List AlertEmission × MetricsCollector
  | .jobCompleted gatewayId ok durationMs, collector =>
      ([], collector.recordAttempt config now now gatewayId ok durationMs)
  | .circuitOpened gatewayId, collector =>
      collector.setCircuitAlert config now gatewayId true
  | .circuitClosed gatewayId, collector =>
      collector.setCircuitAlert config now gatewayId false
  | .refresh snapshot, collector => collector.refresh config now snapshot

end PaymentQueue
