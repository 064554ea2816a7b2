import PaymentQueue.Gateway.GuardRuns

/-!
# The probe of a HALF_OPEN breaker

An observer of the guard remembers which charges were in flight at the latest
trip, and whose admission opened the HALF_OPEN period.  `recordOutcome` does
not know whose outcome it is told.  It ignores an outcome in OPEN, so late
outcomes are harmless as long as they come before the cooldown ends.
-/

namespace PaymentQueue.Probe

open Await GatewayGuard

variable {config : GuardConfig} {gatewayId : String}

structure Watched where
  guard : GatewayGuard
  /-- The charges in flight at the latest trip. -/
  stale : List Nat
  /-- The call whose admission opened the HALF_OPEN period. -/
  probe : Option Nat
  deriving DecidableEq

def chargesInFlight (guard : GatewayGuard) : List Nat :=
  (List.range guard.calls.length).filter fun index =>
    guard.calls[index]?.any GuardCall.isCharging

/-- The call that a step takes further. -/
def subject : Label → Option Nat
  | .resume index => some index
  | .answer index _ => some index
  | _ => none

def observe (label : Label) (watched : Watched) (next : GatewayGuard) :
    Watched :=
  { guard := next
    stale :=
      if watched.guard.breaker.tripCount < next.breaker.tripCount then
        chargesInFlight next
      else watched.stale
    probe :=
      if watched.guard.breaker.state ≠ .halfOpen ∧
          next.breaker.state = .halfOpen then
        subject label
      else watched.probe }

def watch (config : GuardConfig) (gatewayId : String) (label : Label)
    (watched : Watched) : Option Watched :=
  (step config gatewayId label watched.guard).map (observe label watched)

def begin (config : GuardConfig) (now : Time) : Watched :=
  { guard := create config now, stale := [], probe := none }

/-- At most one call that was admitted in HALF_OPEN is in flight. -/
def Sole (guard : GatewayGuard) : Prop :=
  ∀ first second : Nat,
    guard.calls[first]? = some (.charging .halfOpen) →
    guard.calls[second]? = some (.charging .halfOpen) → first = second

/-- HALF_OPEN is left only with the outcome of the probe. -/
def ByProbe (label : Label) (watched next : Watched) : Prop :=
  watched.guard.breaker.state = .halfOpen →
  next.guard.breaker.state ≠ .halfOpen →
    ∃ index result, label = .answer index result ∧
      watched.probe = some index

/-- Outcomes of calls admitted before the trip change nothing. -/
def Inert (label : Label) (watched next : Watched) : Prop :=
  ∀ index result, label = .answer index result → index ∈ watched.stale →
    next.guard.breaker = watched.guard.breaker

/-- Interleavings of calls in which whatever a call admitted before the
latest trip reports comes while the breaker is still OPEN. -/
def Timely (watched : Watched) : Label → Prop
  | .configure _ => False
  | .answer index result => index ∈ watched.stale →
      reportedOutcome result ≠ none → watched.guard.breaker.state = .opened
  | _ => True

theorem Timely.isConfigure {watched : Watched} {label : Label}
    (timely : Timely watched label) : label.isConfigure = false := by
  cases label with
  | configure policy => exact timely.elim
  | tick _ | call | resume _ | answer _ _ | health => rfl

/-- What the observer knows. -/
structure Supervised (watched : Watched) : Prop where
  /-- Behind an OPEN breaker only old charges are in flight. -/
  opened : watched.guard.breaker.state = .opened →
    ∀ (index : Nat) gate,
      watched.guard.calls[index]? = some (.charging gate) →
        index ∈ watched.stale
  /-- A HALF_OPEN breaker has its probe. -/
  probing : watched.guard.breaker.state = .halfOpen →
    watched.guard.breaker.probeInFlight = true ∧
      ∃ probe, watched.probe = some probe ∧ ∀ (index : Nat) gate,
        watched.guard.calls[index]? = some (.charging gate) →
          index ∈ watched.stale ∨ index = probe
  admitted : ∀ index : Nat,
    watched.guard.calls[index]? = some (.charging .halfOpen) →
      watched.guard.breaker.state = .halfOpen ∧
        watched.probe = some index ∧ index ∉ watched.stale
  /-- Old charges have passed the gate. -/
  passed : ∀ index ∈ watched.stale,
    ∃ call, watched.guard.calls[index]? = some call ∧
      (call.isCharging = true ∨ call.inFlight = false)

private theorem mem_chargesInFlight {guard : GatewayGuard} {index : Nat} :
    index ∈ chargesInFlight guard ↔
      ∃ gate, guard.calls[index]? = some (.charging gate) := by
  simp only [chargesInFlight, List.mem_filter, List.mem_range,
    Option.any_eq_true]
  constructor
  · rintro ⟨-, call, found, charging⟩
    cases call with
    | charging gate => exact ⟨gate, found⟩
    | waiting _ _ | granted | ended _ => cases charging
  · rintro ⟨gate, found⟩
    exact ⟨(List.getElem?_eq_some_iff.mp found).1, _, found, rfl⟩

section Steps

variable {watched : Watched} {next : GatewayGuard} {label : Label}
  {index : Nat}

/-- A call that moves to `ended` takes its charge with it. -/
theorem charging_of_ended {calls : List GuardCall} {outcome : CallOutcome}
    {place : Nat} {gate : CircuitBreakerState}
    (found : (calls.set index (.ended outcome))[place]? =
      some (.charging gate)) :
    calls[place]? = some (.charging gate) ∧ place ≠ index := by
  by_cases same : index = place
  · subst same
    rw [List.getElem?_set] at found
    simp only [if_true] at found
    split at found
    · cases found
    · cases found
  · rw [List.getElem?_set_ne same] at found
    exact ⟨found, Ne.symm same⟩

theorem passed_of_set {calls : List GuardCall} {moved : GuardCall}
    {place : Nat} {call : GuardCall}
    (finished : moved.isCharging = true ∨ moved.inFlight = false)
    (found : calls[place]? = some call)
    (before : call.isCharging = true ∨ call.inFlight = false) :
    ∃ call, (calls.set index moved)[place]? = some call ∧
      (call.isCharging = true ∨ call.inFlight = false) := by
  by_cases same : index = place
  · subst same
    have inside := (List.getElem?_eq_some_iff.mp found).1
    exact ⟨moved, List.getElem?_set_self inside, finished⟩
  · exact ⟨call, by rw [List.getElem?_set_ne same, found], before⟩

private theorem supervised_undisturbed (supervised : Supervised watched)
    (undisturbed : Undisturbed watched.guard next) :
    Supervised (observe label watched next) := by
  obtain ⟨state, probe, trips, charging, ended⟩ := undisturbed
  obtain ⟨opened, probing, admitted, passed⟩ := supervised
  have same : observe label watched next =
      { watched with guard := next } := by
    simp [observe, trips, state]
  rw [same]
  refine ⟨?_, ?_, ?_, ?_⟩
  · intro closed place gate found
    rw [state] at closed
    exact opened closed place gate ((charging place gate).mp found)
  · intro halfOpen
    simp only [state, probe] at halfOpen ⊢
    obtain ⟨outstanding, index, known, rest⟩ := probing halfOpen
    exact ⟨outstanding, index, known, fun place gate found =>
      rest place gate ((charging place gate).mp found)⟩
  · intro place found
    simp only [state]
    exact admitted place ((charging place .halfOpen).mp found)
  · intro place old
    obtain ⟨call, found, moved⟩ := passed place old
    cases call with
    | charging gate =>
        exact ⟨_, (charging place gate).mpr found, .inl rfl⟩
    | ended outcome => exact ⟨_, ended place outcome found, .inr rfl⟩
    | waiting _ _ | granted =>
        rcases moved with moved | moved
        · cases moved
        · cases moved

/-- A charge that ends without touching the breaker. -/
theorem supervised_ended {outcome : CallOutcome}
    (supervised : Supervised watched)
    (breaker : next.breaker = watched.guard.breaker)
    (calls : next.calls = watched.guard.calls.set index (.ended outcome)) :
    Supervised (observe label watched next) := by
  obtain ⟨opened, probing, admitted, passed⟩ := supervised
  have same : observe label watched next =
      { watched with guard := next } := by
    simp [observe, breaker]
  rw [same]
  refine ⟨?_, ?_, ?_, ?_⟩
  · intro closed place gate found
    simp only [breaker] at closed
    rw [calls] at found
    exact opened closed place gate (charging_of_ended found).1
  · intro halfOpen
    simp only [breaker] at halfOpen ⊢
    obtain ⟨outstanding, probe, known, rest⟩ := probing halfOpen
    refine ⟨outstanding, probe, known, fun place gate found => ?_⟩
    rw [calls] at found
    exact rest place gate (charging_of_ended found).1
  · intro place found
    simp only [breaker]
    rw [calls] at found
    exact admitted place (charging_of_ended found).1
  · intro place old
    obtain ⟨call, found, moved⟩ := passed place old
    simp only [calls]
    exact passed_of_set (.inr rfl) found moved

/-- The breaker has closed, or has stayed closed. -/
theorem supervised_closed {outcome : CallOutcome}
    (supervised : Supervised watched) (closed : next.breaker.state = .closed)
    (trips : next.breaker.tripCount = watched.guard.breaker.tripCount)
    (calls : next.calls = watched.guard.calls.set index (.ended outcome))
    (settled : ∀ place : Nat,
      next.calls[place]? ≠ some (.charging .halfOpen)) :
    Supervised (observe label watched next) := by
  have same : observe label watched next =
      { watched with guard := next } := by
    simp [observe, closed, trips]
  rw [same]
  refine ⟨?_, ?_, ?_, ?_⟩
  · intro opened
    rw [closed] at opened
    cases opened
  · intro halfOpen
    rw [closed] at halfOpen
    cases halfOpen
  · intro place found
    exact (settled place found).elim
  · intro place old
    obtain ⟨call, found, moved⟩ := supervised.passed place old
    simp only [calls]
    exact passed_of_set (.inr rfl) found moved

/-- The breaker has tripped: every charge in flight is an old one now. -/
theorem supervised_tripped (opened : next.breaker.state = .opened)
    (trips : next.breaker.tripCount = watched.guard.breaker.tripCount + 1)
    (settled : ∀ place : Nat,
      next.calls[place]? ≠ some (.charging .halfOpen)) :
    Supervised (observe label watched next) := by
  have same : observe label watched next =
      { guard := next, stale := chargesInFlight next,
        probe := watched.probe } := by
    simp [observe, opened, trips]
  rw [same]
  refine ⟨?_, ?_, ?_, ?_⟩
  · intro _ place gate found
    exact mem_chargesInFlight.mpr ⟨gate, found⟩
  · intro halfOpen
    rw [opened] at halfOpen
    cases halfOpen
  · intro place found
    exact (settled place found).elim
  · intro place old
    obtain ⟨gate, found⟩ := mem_chargesInFlight.mp old
    exact ⟨_, found, .inl rfl⟩

/-- Only a HALF_OPEN breaker has a probe. -/
theorem Supervised.unprobed (supervised : Supervised watched)
    (other : watched.guard.breaker.state ≠ .halfOpen) (place : Nat) :
    watched.guard.calls[place]? ≠ some (.charging .halfOpen) :=
  fun charging => other (supervised.admitted place charging).1

/-- The old charges are still past the gate when another call passes it. -/
theorem Supervised.passed_gate {gate : CircuitBreakerState}
    (supervised : Supervised watched)
    (calls : next.calls = watched.guard.calls.set index (.charging gate)) :
    ∀ place ∈ watched.stale, ∃ call, next.calls[place]? = some call ∧
      (call.isCharging = true ∨ call.inFlight = false) := by
  intro place old
  obtain ⟨call, before, moved⟩ := supervised.passed place old
  rw [calls]
  exact passed_of_set (.inl rfl) before moved

/-- A call passes the gate of a CLOSED breaker. -/
theorem supervised_passes (supervised : Supervised watched)
    (state : watched.guard.breaker.state = .closed)
    (found : watched.guard.calls[index]? = some .granted)
    (breaker : next.breaker = watched.guard.breaker)
    (calls : next.calls = watched.guard.calls.set index (.charging .closed)) :
    Supervised (observe (.resume index) watched next) := by
  have same : observe (.resume index) watched next =
      { watched with guard := next } := by
    simp [observe, breaker, state]
  rw [same]
  refine ⟨?_, ?_, ?_, supervised.passed_gate calls⟩
  · intro opened
    rw [breaker, state] at opened
    cases opened
  · intro halfOpen
    rw [breaker, state] at halfOpen
    cases halfOpen
  · intro place charging
    simp only [calls] at charging
    by_cases self : index = place
    · subst self
      rw [List.getElem?_set_self
        (List.getElem?_eq_some_iff.mp found).1] at charging
      cases charging
    · rw [List.getElem?_set_ne self] at charging
      exact (supervised.unprobed (by simp [state]) place charging).elim

/-- A call opens the HALF_OPEN period as its probe. -/
theorem supervised_probes (supervised : Supervised watched)
    (state : watched.guard.breaker.state = .opened)
    (found : watched.guard.calls[index]? = some .granted)
    (breaker : next.breaker = { watched.guard.breaker with
      state := .halfOpen, probeInFlight := true })
    (calls : next.calls =
      watched.guard.calls.set index (.charging .halfOpen)) :
    Supervised (observe (.resume index) watched next) := by
  have same : observe (.resume index) watched next =
      { guard := next, stale := watched.stale, probe := some index } := by
    simp [observe, breaker, state, subject]
  rw [same]
  refine ⟨?_, ?_, ?_, supervised.passed_gate calls⟩
  · intro opened
    rw [breaker] at opened
    cases opened
  · intro _
    refine ⟨by rw [breaker], index, rfl, fun place gate charging => ?_⟩
    simp only [calls] at charging
    by_cases self : index = place
    · exact .inr self.symm
    · rw [List.getElem?_set_ne self] at charging
      exact .inl (supervised.opened state place gate charging)
  · intro place charging
    simp only [calls] at charging
    by_cases self : index = place
    · subst self
      refine ⟨by rw [breaker], rfl, fun old => ?_⟩
      obtain ⟨call, before, moved⟩ := supervised.passed index old
      rw [found] at before
      obtain rfl := Option.some.inj before
      rcases moved with moved | moved
      · cases moved
      · cases moved
    · rw [List.getElem?_set_ne self] at charging
      exact (supervised.unprobed (by simp [state]) place charging).elim

/-- A call that passes the gate of a CLOSED breaker, or opens the HALF_OPEN
period as its probe. -/
theorem supervised_admitted {gate : CircuitBreakerState}
    (supervised : Supervised watched)
    (found : watched.guard.calls[index]? = some .granted)
    (allowed : (watched.guard.breaker.allowCall watched.guard.now).1 =
      ⟨true, gate⟩)
    (breaker : next.breaker =
      (watched.guard.breaker.allowCall watched.guard.now).2)
    (calls : next.calls = watched.guard.calls.set index (.charging gate)) :
    Supervised (observe (.resume index) watched next) := by
  cases state : watched.guard.breaker.state with
  | closed =>
      simp only [CircuitBreaker.allowCall, state] at allowed breaker
      obtain rfl : gate = .closed := (congrArg Gate.state allowed).symm
      exact supervised_passes supervised state found breaker calls
  | opened =>
      simp only [CircuitBreaker.allowCall, state] at allowed breaker
      split at allowed
      case isFalse => cases allowed
      case isTrue cooled =>
        obtain rfl : gate = .halfOpen := (congrArg Gate.state allowed).symm
        rw [if_pos cooled] at breaker
        exact supervised_probes supervised state found breaker calls
  | halfOpen =>
      simp [CircuitBreaker.allowCall, state, (supervised.probing state).1]
        at allowed

/-- A reported outcome of a call that is not an old one, or that finds the
breaker OPEN. -/
theorem supervised_reported {gate : CircuitBreakerState} {ok : Bool}
    {outcome : CallOutcome} (supervised : Supervised watched)
    (timely : index ∈ watched.stale →
      watched.guard.breaker.state = .opened)
    (found : watched.guard.calls[index]? = some (.charging gate))
    (breaker : next.breaker = (watched.guard.breaker.recordOutcome ok
      watched.guard.now).1)
    (calls : next.calls = watched.guard.calls.set index (.ended outcome)) :
    Supervised (observe label watched next) := by
  cases state : watched.guard.breaker.state with
  | opened =>
      simp only [CircuitBreaker.recordOutcome, state] at breaker
      exact supervised_ended supervised breaker calls
  | halfOpen =>
      obtain ⟨-, probe, known, rest⟩ := supervised.probing state
      have probed : index = probe := by
        rcases rest index gate found with old | probed
        · have closed := timely old
          rw [state] at closed
          cases closed
        · exact probed
      have settled : ∀ place : Nat,
          next.calls[place]? ≠ some (.charging .halfOpen) := by
        intro place charging
        rw [calls] at charging
        obtain ⟨before, other⟩ := charging_of_ended charging
        have same := (supervised.admitted place before).2.1
        rw [known] at same
        exact other ((Option.some.inj same).symm.trans probed.symm)
      simp only [CircuitBreaker.recordOutcome, state] at breaker
      cases ok with
      | true =>
          rw [if_pos rfl] at breaker
          exact supervised_closed supervised (by rw [breaker])
            (by rw [breaker]) calls settled
      | false =>
          rw [if_neg Bool.false_ne_true] at breaker
          exact supervised_tripped (by rw [breaker, CircuitBreaker.trip])
            (by rw [breaker, CircuitBreaker.trip]) settled
  | closed =>
      have settled : ∀ place : Nat,
          next.calls[place]? ≠ some (.charging .halfOpen) := by
        intro place charging
        rw [calls] at charging
        exact supervised.unprobed (by simp [state]) place
          (charging_of_ended charging).1
      simp only [CircuitBreaker.recordOutcome, state] at breaker
      split at breaker
      · exact supervised_tripped (by rw [breaker, CircuitBreaker.trip])
          (by rw [breaker]; rfl) settled
      · exact supervised_closed supervised (by rw [breaker]; exact state)
          (by rw [breaker]; rfl) calls settled

private theorem supervised_step {following : Watched}
    (supervised : Supervised watched) (timely : Timely watched label)
    (taken : watch config gatewayId label watched = some following) :
    Supervised following := by
  obtain ⟨next, stepped, rfl⟩ := Option.map_eq_some_iff.mp taken
  cases effect_of_step timely.isConfigure stepped with
  | undisturbed _ undisturbed =>
      exact supervised_undisturbed supervised undisturbed
  | admitted index gate resumed found allowed breaker calls =>
      subst resumed
      exact supervised_admitted supervised found allowed breaker calls
  | rejected index gate result outcome _ _ _ breaker calls =>
      exact supervised_ended supervised breaker calls
  | reported index gate result ok outcome answered told found breaker calls =>
      subst answered
      refine supervised_reported supervised (fun old => ?_) found breaker calls
      exact timely old (by simp [told])

private theorem sole_of_supervised (supervised : Supervised watched) :
    Sole watched.guard := by
  intro first second charging other
  have same := (supervised.admitted first charging).2.1
  rw [(supervised.admitted second other).2.1] at same
  exact (Option.some.inj same).symm

/-- Only a report ends the HALF_OPEN period, and only the probe is there to
make it. -/
theorem byProbe_of_supervised {following : Watched}
    (supervised : Supervised watched) (timely : Timely watched label)
    (taken : watch config gatewayId label watched = some following) :
    ByProbe label watched following := by
  obtain ⟨next, stepped, rfl⟩ := Option.map_eq_some_iff.mp taken
  intro halfOpen left
  obtain ⟨outstanding, probe, known, rest⟩ := supervised.probing halfOpen
  cases effect_of_step timely.isConfigure stepped with
  | undisturbed _ undisturbed =>
      exact (left (undisturbed.state.trans halfOpen)).elim
  | admitted index gate _ _ allowed _ _ =>
      simp [CircuitBreaker.allowCall, halfOpen, outstanding] at allowed
  | rejected index gate result outcome _ _ _ breaker _ =>
      simp only [observe, breaker] at left
      exact (left halfOpen).elim
  | reported index gate result ok outcome answered told found _ _ =>
      subst answered
      refine ⟨index, result, rfl, ?_⟩
      rcases rest index gate found with old | rfl
      · have closed := timely old (by simp [told])
        rw [halfOpen] at closed
        cases closed
      · exact known

private theorem inert_of_timely {following : Watched}
    (timely : Timely watched label)
    (taken : watch config gatewayId label watched = some following) :
    Inert label watched following := by
  obtain ⟨next, stepped, rfl⟩ := Option.map_eq_some_iff.mp taken
  rintro place told rfl old
  cases effect_of_step timely.isConfigure stepped with
  | undisturbed other _ => exact (other place told rfl).elim
  | admitted index gate resumed _ _ _ _ => cases resumed
  | rejected index gate result outcome _ _ _ breaker _ => exact breaker
  | reported index gate result ok outcome answered reported _ breaker _ =>
      cases answered
      have closed := timely old (by simp [reported])
      simp only [CircuitBreaker.recordOutcome, closed] at breaker
      exact breaker

end Steps

/-- Whatever the interleaving of such calls, at most one probe is in flight,
only its outcome ends the HALF_OPEN period, and older calls do not touch the
breaker. -/
theorem only_probe_decides (config : GuardConfig) (gatewayId : String)
    (now : Time) (watched : Watched)
    (reached : Reaches (watch config gatewayId) Timely (begin config now)
      watched) :
    Sole watched.guard ∧ ∀ label next, Timely watched label →
      watch config gatewayId label watched = some next →
        ByProbe label watched next ∧ Inert label watched next := by
  have supervised : Supervised watched := by
    refine reached.invariant ?_ fun _ _ _ => supervised_step
    refine ⟨?_, ?_, ?_, ?_⟩
    · intro opened
      cases opened
    · intro halfOpen
      cases halfOpen
    · intro index found
      cases found
    · intro index old
      cases old
  refine ⟨sole_of_supervised supervised, fun label next timely taken => ?_⟩
  exact ⟨byProbe_of_supervised supervised timely taken,
    inert_of_timely timely taken⟩

/-- A slow call, and ten server errors that trip the breaker behind it. -/
def tripped : List Label :=
  [.call, .resume 0] ++ (List.range 10).flatMap fun index =>
    [.call, .resume (index + 1),
      .answer (index + 1) (.fail ⟨.serverError, "error", 500⟩)]

/-- The probe is admitted after the cooldown. -/
def probed : List Label :=
  [.tick 30000, .call, .resume 11]

def timelyCheck (watched : Watched) : Label → Bool
  | .configure _ => false
  | .answer index result => !(watched.stale.contains index) ||
      (reportedOutcome result).isNone ||
      decide (watched.guard.breaker.state = .opened)
  | _ => true

private theorem timely_of_check {watched : Watched} {label : Label}
    (checked : timelyCheck watched label = true) : Timely watched label := by
  cases label with
  | configure policy => cases checked
  | answer index result =>
      intro old told
      simp only [timelyCheck, Bool.or_eq_true, Bool.not_eq_true',
        List.contains_eq_mem, decide_eq_false_iff_not, decide_eq_true_eq,
        Option.isNone_iff_eq_none] at checked
      rcases checked with (fresh | silent) | opened
      · exact (fresh old).elim
      · exact (told silent).elim
      · exact opened
  | tick _ | call | resume _ | health => trivial

/-- The slow call reports while the breaker is OPEN; the probe succeeds. -/
theorem only_probe_decides_closed :
    ∃ watched : Watched, watched.guard.breaker.state = .closed ∧
      watched.guard.breaker.tripCount = 1 ∧ watched.probe = some 11 ∧
      Sole watched.guard := by
  obtain ⟨watched, reached, checked⟩ := exists_of_replay
    (watch .default "stripe") timelyCheck
    (tripped ++ [.answer 0 (.ok "t0" 200)] ++ probed ++
      [.answer 11 (.ok "t11" 200)])
    (begin .default 0)
    (fun watched => decide (watched.guard.breaker.state = .closed ∧
      watched.guard.breaker.tripCount = 1 ∧ watched.probe = some 11))
    (by decide +kernel)
  obtain ⟨closed, trips, probe⟩ := of_decide_eq_true checked
  exact ⟨watched, closed, trips, probe, (only_probe_decides .default "stripe" 0
    watched (reached.mono fun _ _ => timely_of_check)).1⟩

/-- The slow call reports while the probe is in flight, and closes the
breaker. -/
theorem late_outcome_decides :
    ¬ ∀ watched : Watched,
      Reaches (watch .default "stripe")
        (fun _ label => label.isConfigure = false) (begin .default 0)
        watched →
      Sole watched.guard ∧ ∀ label next, label.isConfigure = false →
        watch .default "stripe" label watched = some next →
          ByProbe label watched next ∧ Inert label watched next := by
  intro decides
  obtain ⟨watched, reached, checked⟩ := exists_of_replay
    (watch .default "stripe") (fun _ label => !label.isConfigure)
    (tripped ++ probed) (begin .default 0)
    (fun watched => decide (watched.guard.breaker.state = .halfOpen ∧
        watched.probe = some 11) &&
      (watch .default "stripe" (.answer 0 (.ok "t0" 200)) watched).any
        fun next : Watched => decide (next.guard.breaker.state = .closed))
    (by decide +kernel)
  simp only [Bool.and_eq_true, decide_eq_true_eq, Option.any_eq_true]
    at checked
  obtain ⟨⟨halfOpen, probe⟩, next, taken, closed⟩ := checked
  have steady := reached.mono fun _ label unchanged =>
    (Bool.not_eq_true' _).mp unchanged
  obtain ⟨byProbe, -⟩ := (decides watched steady).2 _ next rfl taken
  obtain ⟨index, result, answered, known⟩ := byProbe halfOpen (by simp [closed])
  cases answered
  rw [probe] at known
  cases known

end PaymentQueue.Probe
