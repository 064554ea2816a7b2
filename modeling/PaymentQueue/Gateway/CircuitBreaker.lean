import Mathlib.Algebra.Order.Field.Rat
import PaymentQueue.Gateway.Types

/-!
# Circuit breaker

`gateway/circuit-breaker.ts`: CLOSED, OPEN and HALF_OPEN.  Parameters and
failure rates are exact rationals, clock values are milliseconds.
-/

namespace PaymentQueue

structure CircuitBreakerParams where
  /-- Length of the sliding sample window in milliseconds. -/
  windowMs : ℚ
  /-- Failure rate at which the breaker trips. -/
  failureThreshold : ℚ
  /-- Samples in the window before tripping is evaluated. -/
  minSamples : ℚ
  /-- Time the breaker stays OPEN before it admits a probe. -/
  cooldownMs : ℚ
  deriving DecidableEq

structure OutcomeSample where
  t : Time
  ok : Bool
  deriving DecidableEq, Repr

structure CircuitBreaker where
  params : CircuitBreakerParams
  state : CircuitBreakerState
  window : List OutcomeSample
  openedAt : Time
  probeInFlight : Bool
  tripCount : Nat
  deriving DecidableEq

/-- The callbacks of the breaker. -/
inductive CircuitEvent where
  | opened
  | closed
  deriving DecidableEq, Repr

/-- The answer of `allowCall`. -/
structure Gate where
  allowed : Bool
  state : CircuitBreakerState
  deriving DecidableEq, Repr

structure WindowStats where
  samples : Nat
  failures : Nat
  failureRate : ℚ
  deriving DecidableEq

/-- What `getState` reports besides the parameters. -/
structure CircuitBreakerSnapshot where
  state : CircuitBreakerState
  stats : WindowStats
  openedAt : Option Time
  tripCount : Nat
  deriving DecidableEq

namespace CircuitBreaker

def create (params : CircuitBreakerParams) : CircuitBreaker :=
  { params
    state := .closed
    window := []
    openedAt := 0
    probeInFlight := false
    tripCount := 0 }

def reset (breaker : CircuitBreaker) : CircuitBreaker :=
  create breaker.params

def reconfigure (params : CircuitBreakerParams) (breaker : CircuitBreaker) :
    CircuitBreaker :=
  reset { breaker with params }

/-- May the caller invoke the gateway now? -/
def allowCall (now : Time) (breaker : CircuitBreaker) :
    Gate × CircuitBreaker :=
  match breaker.state with
  | .closed => (⟨true, .closed⟩, breaker)
  | .opened =>
      if breaker.params.cooldownMs ≤ (now : ℚ) - breaker.openedAt then
        (⟨true, .halfOpen⟩,
          { breaker with state := .halfOpen, probeInFlight := true })
      else (⟨false, .opened⟩, breaker)
  | .halfOpen =>
      if breaker.probeInFlight then (⟨false, .halfOpen⟩, breaker)
      else (⟨true, .halfOpen⟩, { breaker with probeInFlight := true })

/-- Samples that have left the window are dropped. -/
def prune (now : Time) (breaker : CircuitBreaker) : CircuitBreaker :=
  { breaker with
    window := breaker.window.dropWhile fun sample =>
      decide ((sample.t : ℚ) < now - breaker.params.windowMs) }

def windowStats (breaker : CircuitBreaker) : WindowStats :=
  let failures := (breaker.window.filter fun sample => !sample.ok).length
  let samples := breaker.window.length
  ⟨samples, failures, if samples = 0 then 0 else failures / samples⟩

/-- The breaker trips. -/
def trip (now : Time) (breaker : CircuitBreaker) : CircuitBreaker :=
  { breaker with
    state := .opened
    openedAt := now
    tripCount := breaker.tripCount + 1 }

/-- One more outcome in the window. -/
def sample (ok : Bool) (now : Time) (breaker : CircuitBreaker) :
    CircuitBreaker :=
  prune now { breaker with window := breaker.window ++ [⟨now, ok⟩] }

/-- Report the outcome of a call that actually reached the gateway. -/
def recordOutcome (ok : Bool) (now : Time) (breaker : CircuitBreaker) :
    CircuitBreaker × Option CircuitEvent :=
  match breaker.state with
  | .halfOpen =>
      let cleared := { breaker with probeInFlight := false }
      if ok then
        ({ cleared with state := .closed, window := [] }, some .closed)
      else (cleared.trip now, some .opened)
  | .opened => (breaker, none)
  | .closed =>
      let sampled := breaker.sample ok now
      if sampled.params.minSamples ≤ sampled.windowStats.samples ∧
          sampled.params.failureThreshold ≤
            sampled.windowStats.failureRate then
        (sampled.trip now, some .opened)
      else (sampled, none)

def getState (now : Time) (breaker : CircuitBreaker) :
    CircuitBreakerSnapshot × CircuitBreaker :=
  let pruned := breaker.prune now
  (⟨pruned.state, pruned.windowStats,
    if pruned.openedAt = 0 then none else some pruned.openedAt,
    pruned.tripCount⟩, pruned)

end CircuitBreaker

end PaymentQueue
