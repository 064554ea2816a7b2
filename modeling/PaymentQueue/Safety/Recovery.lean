import Mathlib.Algebra.Order.Archimedean.Basic
import PaymentQueue.Gateway.GuardRuns

/-!
# Recovery of the circuit breaker

Any number of concurrent calls of the guard of one gateway, with any answers.
A HALF_OPEN breaker waits for an outcome, so it recovers as long as some call
that was admitted is still going to report one.  A permanent rejection is
never reported; when it answers the last charge in flight, the breaker waits
for ever.
-/

namespace PaymentQueue.Recovery

open Await GatewayGuard

variable {config : GuardConfig} {gatewayId : String}

/-- From some clock value on, the breaker admits a call. -/
def Recovers (guard : GatewayGuard) : Prop :=
  ∃ later, guard.now ≤ later ∧ ∀ clock, later ≤ clock →
    (guard.breaker.allowCall clock).1.allowed = true

/-- No call is waiting for a token or for the gateway. -/
def Quiet (guard : GatewayGuard) : Prop :=
  ∀ call ∈ guard.calls, call.inFlight = false

/-- Some call waits for the answer of the gateway, other than those
excluded. -/
def Charging (guard : GatewayGuard) (excluded : Nat → Prop) : Prop :=
  ∃ index gate, ¬ excluded index ∧
    guard.calls[index]? = some (.charging gate)

/-- The last charge in flight is not rejected for good while the breaker is
HALF_OPEN. -/
def Reports (guard : GatewayGuard) : Label → Prop
  | .answer index (.fail failure) =>
      guard.breaker.state = .halfOpen → isTransient failure.code = false →
        Charging guard (fun other => other = index)
  | _ => True

/-- A HALF_OPEN breaker will hear from some call. -/
def Awaited (guard : GatewayGuard) : Prop :=
  guard.breaker.state = .halfOpen → Charging guard (fun _ => False)

section Breaker

variable {breaker : CircuitBreaker}

/-- Every reported outcome ends the HALF_OPEN state. -/
theorem recordOutcome_state (ok : Bool) (now : Time)
    (breaker : CircuitBreaker) :
    (breaker.recordOutcome ok now).1.state ≠ .halfOpen := by
  cases state : breaker.state with
  | halfOpen =>
      simp only [CircuitBreaker.recordOutcome, state]
      cases ok with
      | true => simp
      | false => simp [CircuitBreaker.trip]
  | opened => simp [CircuitBreaker.recordOutcome, state]
  | closed =>
      simp only [CircuitBreaker.recordOutcome, state]
      split
      · simp [CircuitBreaker.trip]
      · simp [CircuitBreaker.sample, CircuitBreaker.prune, state]

/-- A breaker that is not HALF_OPEN admits a call once it has cooled down. -/
theorem admits_later (now : Time) (settled : breaker.state ≠ .halfOpen) :
    ∃ later, now ≤ later ∧ ∀ clock, later ≤ clock →
      (breaker.allowCall clock).1.allowed = true := by
  cases state : breaker.state with
  | halfOpen => exact (settled state).elim
  | closed =>
      refine ⟨now, Nat.le_refl now, fun clock _ => ?_⟩
      simp [CircuitBreaker.allowCall, state]
  | opened =>
      obtain ⟨cool, reached⟩ :=
        exists_nat_ge (breaker.params.cooldownMs + breaker.openedAt)
      refine ⟨max now cool, Nat.le_max_left _ _, fun clock after => ?_⟩
      have cooled : (cool : ℚ) ≤ clock :=
        Nat.cast_le.mpr (Nat.le_trans (Nat.le_max_right _ _) after)
      have elapsed : breaker.params.cooldownMs ≤
          (clock : ℚ) - breaker.openedAt := by linarith
      simp [CircuitBreaker.allowCall, state, elapsed]

end Breaker

section Steps

variable {guard next : GatewayGuard}

/-- Every answer but a permanent rejection is reported. -/
theorem isTransient_of_unreported {failure : GatewayFailure}
    (silent : reportedOutcome (.fail failure) = none) :
    isTransient failure.code = false := by
  by_contra transient
  simp [reportedOutcome, transient] at silent

private theorem charging_of_undisturbed (awaited : Awaited guard)
    (undisturbed : Undisturbed guard next) : Awaited next := by
  intro halfOpen
  rw [undisturbed.state] at halfOpen
  obtain ⟨place, gate, free, found⟩ := awaited halfOpen
  exact ⟨place, gate, free, (undisturbed.charging place gate).mpr found⟩

private theorem awaited_effect {label : Label} (awaited : Awaited guard)
    (reports : Reports guard label) (effect : Effect label guard next) :
    Awaited next := by
  cases effect with
  | undisturbed _ undisturbed => exact charging_of_undisturbed awaited undisturbed
  | admitted index gate _ found _ _ calls =>
      have inside : index < guard.calls.length :=
        (List.getElem?_eq_some_iff.mp found).1
      intro _
      refine ⟨index, gate, not_false, ?_⟩
      rw [calls, List.getElem?_set_self inside]
  | rejected index gate result outcome answered silent found breaker calls =>
      subst answered
      intro halfOpen
      rw [breaker] at halfOpen
      cases result with
      | ok transactionId httpStatus => cases silent
      | fail failure =>
          obtain ⟨place, gate, distinct, other⟩ := reports halfOpen
            (isTransient_of_unreported silent)
          refine ⟨place, gate, not_false, ?_⟩
          rw [calls, List.getElem?_set_ne (Ne.symm distinct), other]
  | reported index gate result ok outcome _ _ _ breaker _ =>
      intro halfOpen
      rw [breaker] at halfOpen
      exact (recordOutcome_state _ _ _ halfOpen).elim

private theorem awaited_step {label : Label} (awaited : Awaited guard)
    (reports : Reports guard label)
    (taken : step config gatewayId label guard = some next) :
    Awaited next := by
  cases steady : label.isConfigure with
  | false =>
      exact awaited_effect awaited reports (effect_of_step steady taken)
  | true =>
      cases label with
      | configure policy =>
          cases taken
          intro halfOpen
          simp only [GatewayGuard.configure] at halfOpen
          split at halfOpen
          · cases halfOpen
          · exact awaited halfOpen
      | tick _ | call | resume _ | answer _ _ | health => cases steady

end Steps

/-- In every state of such a run in which no call is in flight, the breaker
admits a call from some clock value on. -/
theorem breaker_recovers (config : GuardConfig) (gatewayId : String)
    (now : Time) (guard : GatewayGuard)
    (reached : Reaches (step config gatewayId) Reports (create config now)
      guard)
    (quiet : Quiet guard) : Recovers guard := by
  have awaited : Awaited guard :=
    reached.invariant (fun halfOpen => by cases halfOpen)
      fun _ _ _ awaited reports taken => awaited_step awaited reports taken
  apply admits_later
  intro halfOpen
  obtain ⟨index, gate, -, found⟩ := awaited halfOpen
  have settled := quiet _ (List.mem_of_getElem? found)
  cases settled

/-- A call that takes a token at once, passes the gate and is answered. -/
def answered (index : Nat) (result : GatewayChargeResult) : List Label :=
  [.call, .resume index, .answer index result]

/-- Ten server errors trip the breaker; a probe is answered after the
cooldown. -/
def probed (result : GatewayChargeResult) : List Label :=
  (List.range 10).flatMap
      (fun index => answered index (.fail ⟨.serverError, "error", 500⟩)) ++
    [.tick 30000] ++ answered 10 result

/-- The runs in which no permanent rejection occurs at all. -/
def transientOnly (_ : GatewayGuard) : Label → Bool
  | .answer _ (.fail failure) => isTransient failure.code
  | _ => true

private theorem reports_of_transientOnly {guard : GatewayGuard} {label : Label}
    (admitted : transientOnly guard label = true) : Reports guard label := by
  cases label with
  | answer index result =>
      cases result with
      | ok transactionId httpStatus => exact trivial
      | fail failure =>
          intro _ permanent
          rw [transientOnly, permanent] at admitted
          cases admitted
  | tick _ | call | resume _ | configure _ | health => exact trivial

def isQuiet (guard : GatewayGuard) : Bool :=
  guard.calls.all fun call => !call.inFlight

private theorem isQuiet_eq_true {guard : GatewayGuard}
    (quiet : isQuiet guard = true) : Quiet guard := by
  intro call member
  simpa using List.all_eq_true.mp quiet call member

theorem breaker_recovers_reopened :
    ∃ guard : GatewayGuard, guard.breaker.tripCount = 2 ∧ Recovers guard := by
  obtain ⟨guard, reached, checked⟩ := exists_of_replay
    (step .default "stripe") transientOnly
    (probed (.fail ⟨.gatewayTimeout, "timeout", 504⟩)) (create .default 0)
    (fun guard => decide (guard.breaker.tripCount = 2) && isQuiet guard)
    (by decide +kernel)
  rw [Bool.and_eq_true, decide_eq_true_eq] at checked
  exact ⟨guard, checked.1, breaker_recovers .default "stripe" 0 guard
    (reached.mono fun _ _ => reports_of_transientOnly)
    (isQuiet_eq_true checked.2)⟩

/-- The probe is declined: nothing is reported, and every later call is
refused. -/
theorem breaker_stuck :
    ¬ ∀ guard : GatewayGuard,
      Reaches (step .default "stripe") (fun _ _ => True) (create .default 0)
        guard →
      Quiet guard → ∃ later, guard.now ≤ later ∧
        (guard.breaker.allowCall later).1.allowed = true := by
  intro recovers
  obtain ⟨guard, reached, checked⟩ := exists_of_replay
    (step .default "stripe") (fun _ _ => true)
    (probed (.fail ⟨.cardDeclined, "declined", 402⟩)) (create .default 0)
    (fun guard => isQuiet guard &&
      decide (guard.breaker.state = .halfOpen) && guard.breaker.probeInFlight)
    (by decide +kernel)
  simp only [Bool.and_eq_true, decide_eq_true_eq] at checked
  obtain ⟨⟨quiet, state⟩, outstanding⟩ := checked
  obtain ⟨later, -, allowed⟩ := recovers guard
    (reached.mono fun _ _ _ => trivial) (isQuiet_eq_true quiet)
  simp [CircuitBreaker.allowCall, state, outstanding] at allowed

end PaymentQueue.Recovery
