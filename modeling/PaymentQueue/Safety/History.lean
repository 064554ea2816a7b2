import Mathlib.Data.List.TakeWhile
import Mathlib.Tactic.Linarith
import PaymentQueue.Await.Timed
import PaymentQueue.Gateway.BreakerRuns

/-!
# The breaker and its history

The breaker keeps a pruned array, a mode, a timestamp and a flag.  An observer
who only writes down outcomes, trips, closes and admitted probes can tell from
the notes alone what the window holds, when the breaker trips and whom it
refuses.
-/

namespace PaymentQueue.History

open Await

/-- A method of the breaker. -/
inductive BreakerOp where
  | allowCall
  | recordOutcome (ok : Bool)
  | getState
  deriving DecidableEq, Repr

inductive BreakerAnswer where
  | gate (gate : Gate)
  | told (event : Option CircuitEvent)
  | snapshot (snapshot : CircuitBreakerSnapshot)
  deriving DecidableEq

def perform (now : Time) : BreakerOp → CircuitBreaker →
    BreakerAnswer × CircuitBreaker
  | .allowCall, breaker =>
      (.gate (breaker.allowCall now).1, (breaker.allowCall now).2)
  | .recordOutcome ok, breaker =>
      (.told (breaker.recordOutcome ok now).2,
        (breaker.recordOutcome ok now).1)
  | .getState, breaker =>
      (.snapshot (breaker.getState now).1, (breaker.getState now).2)

inductive Fact where
  | outcome (ok : Bool)
  | tripped
  | closed
  | probe
  deriving DecidableEq, Repr

structure Entry where
  t : Time
  fact : Fact
  deriving DecidableEq, Repr

def Entry.isClosed (entry : Entry) : Bool :=
  decide (entry.fact = .closed)

def Entry.isTripped (entry : Entry) : Bool :=
  decide (entry.fact = .tripped)

def Entry.isProbe (entry : Entry) : Bool :=
  decide (entry.fact = .probe)

def Entry.sample? (entry : Entry) : Option OutcomeSample :=
  match entry.fact with
  | .outcome ok => some ⟨entry.t, ok⟩
  | _ => none

/-- What there is to note about a call, the latest note first. -/
def notes (now : Time) (op : BreakerOp) (before after : CircuitBreaker)
    (answer : BreakerAnswer) : List Entry :=
  (if before.state ≠ .opened ∧ after.state = .opened then
      [⟨now, .tripped⟩]
    else if before.state ≠ .closed ∧ after.state = .closed then
      [⟨now, .closed⟩]
    else []) ++
  (match op with
    | .recordOutcome ok => [⟨now, .outcome ok⟩]
    | .allowCall =>
        if answer = .gate ⟨true, .halfOpen⟩ then [⟨now, .probe⟩] else []
    | .getState => [])

/-- The breaker and the notes about it, the latest note first. -/
structure Observed where
  breaker : CircuitBreaker
  history : List Entry

def observe (now : Time) (op : BreakerOp) (observed : Observed) :
    BreakerAnswer × Observed :=
  let performed := perform now op observed.breaker
  (performed.1,
    { breaker := performed.2
      history := notes now op observed.breaker performed.2 performed.1 ++
        observed.history })

/-- The outcomes recorded since the last close or the start, in order. -/
def sinceClose (history : List Entry) : List OutcomeSample :=
  ((history.takeWhile fun entry => !entry.isClosed).filterMap
    Entry.sample?).reverse

/-- The time of the latest trip, unless a close followed it. -/
def openTrip (history : List Entry) : Option Time :=
  ((history.takeWhile fun entry => !entry.isClosed).find?
    Entry.isTripped).map Entry.t

/-- A probe was admitted since the latest trip, and no outcome has been
recorded after it. -/
def probing (history : List Entry) : Bool :=
  (history.takeWhile fun entry =>
    !entry.isTripped && entry.sample?.isNone).any Entry.isProbe

/-- The specification of a refusal. -/
def Refuses (params : CircuitBreakerParams) (history : List Entry)
    (now : Time) : Prop :=
  ∃ openedAt, openTrip history = some openedAt ∧
    ((now : ℚ) - openedAt < params.cooldownMs ∨ probing history = true)

/-- The specification of the window at an outcome. -/
def windowAt (params : CircuitBreakerParams) (history : List Entry)
    (now : Time) (ok : Bool) : List OutcomeSample :=
  (sinceClose history ++ [OutcomeSample.mk now ok]).filter fun sample =>
    decide ((now : ℚ) - params.windowMs ≤ sample.t)

def failures (samples : List OutcomeSample) : Nat :=
  (samples.filter fun sample => !sample.ok).length

/-- The specification of a trip. -/
def Breached (params : CircuitBreakerParams) (samples : List OutcomeSample) :
    Prop :=
  params.minSamples ≤ samples.length ∧
    params.failureThreshold ≤ failures samples / samples.length

/-- The number of transitions to OPEN. -/
def openings (breaker : CircuitBreaker) : List (Timed BreakerOp) → Nat
  | [] => 0
  | call :: calls =>
      let next := (perform call.time call.op breaker).2
      (if breaker.state ≠ .opened ∧ next.state = .opened then 1 else 0) +
        openings next calls

def observes (call : Timed BreakerOp) : Bool :=
  decide (call.op = .getState)

/-- What `allowCall` and `recordOutcome` have returned. -/
def results (breaker : CircuitBreaker) (calls : List (Timed BreakerOp)) :
    List (Timed BreakerOp × BreakerAnswer) :=
  (answers perform breaker calls).filter fun answered =>
    !observes answered.1

section Notes

variable (t : Time) (ok : Bool) (history : List Entry)

@[simp] theorem sinceClose_outcome :
    sinceClose (⟨t, .outcome ok⟩ :: history) =
      sinceClose history ++ [⟨t, ok⟩] := by
  simp [sinceClose, Entry.isClosed, Entry.sample?]

@[simp] theorem sinceClose_closed :
    sinceClose (⟨t, .closed⟩ :: history) = [] := by
  simp [sinceClose, Entry.isClosed]

@[simp] theorem openTrip_outcome :
    openTrip (⟨t, .outcome ok⟩ :: history) = openTrip history := by
  simp [openTrip, Entry.isClosed, Entry.isTripped]

@[simp] theorem openTrip_tripped :
    openTrip (⟨t, .tripped⟩ :: history) = some t := by
  simp [openTrip, Entry.isClosed, Entry.isTripped]

@[simp] theorem openTrip_probe :
    openTrip (⟨t, .probe⟩ :: history) = openTrip history := by
  simp [openTrip, Entry.isClosed, Entry.isTripped]

@[simp] theorem openTrip_closed :
    openTrip (⟨t, .closed⟩ :: history) = none := by
  simp [openTrip, Entry.isClosed]

@[simp] theorem probing_outcome :
    probing (⟨t, .outcome ok⟩ :: history) = false := by
  simp [probing, Entry.sample?]

@[simp] theorem probing_tripped :
    probing (⟨t, .tripped⟩ :: history) = false := by
  simp [probing, Entry.isTripped]

@[simp] theorem probing_probe :
    probing (⟨t, .probe⟩ :: history) = true := by
  simp [probing, Entry.isTripped, Entry.sample?, Entry.isProbe]

end Notes

/-- In an ordered list, dropping from the front is filtering. -/
theorem dropWhile_eq_filter {α : Type} {drops : α → Bool} {items : List α}
    (ordered : items.Pairwise fun first second =>
      drops second = true → drops first = true) :
    items.dropWhile drops = items.filter fun item => !drops item := by
  induction items with
  | nil => simp
  | cons item items induction =>
      obtain ⟨first, rest⟩ := List.pairwise_cons.mp ordered
      by_cases dropped : drops item = true
      · rw [List.dropWhile_cons_of_pos dropped, induction rest]
        simp [dropped]
      · rw [List.dropWhile_cons_of_neg dropped, List.filter_eq_self.mpr]
        intro kept member
        cases member with
        | head => simpa using dropped
        | tail _ member => simpa using fun later => dropped (first kept member later)

/-- The window is what the history has left after dropping from the front. -/
structure Windowed (last : Time) (windowMs : ℚ)
    (samples window : List OutcomeSample) : Prop where
  ordered : samples.Pairwise fun first second => first.t ≤ second.t
  past : ∀ sample ∈ samples, sample.t ≤ last
  suffix : ∃ gone, samples = gone ++ window ∧
    ∀ sample ∈ gone, (sample.t : ℚ) < last - windowMs

section Window

variable {last now : Time} {windowMs : ℚ}
  {samples window : List OutcomeSample}

theorem Windowed.nil : Windowed last windowMs [] [] :=
  ⟨.nil, by simp, [], rfl, by simp⟩

/-- Time passes, and samples that have left the window are dropped. -/
theorem Windowed.prune (windowed : Windowed last windowMs samples window)
    (later : last ≤ now) :
    Windowed now windowMs samples (window.dropWhile fun sample =>
      decide ((sample.t : ℚ) < now - windowMs)) := by
  obtain ⟨ordered, past, gone, split, old⟩ := windowed
  have cast : (last : ℚ) ≤ now := Nat.cast_le.mpr later
  refine ⟨ordered, fun sample member => Nat.le_trans (past sample member) later,
    gone ++ window.takeWhile (fun sample =>
      decide ((sample.t : ℚ) < now - windowMs)), ?_, ?_⟩
  · rw [List.append_assoc, List.takeWhile_append_dropWhile, split]
  · intro sample member
    rcases List.mem_append.mp member with front | dropped
    · linarith [old sample front]
    · simpa using List.mem_takeWhile_imp dropped

theorem Windowed.later (windowed : Windowed last windowMs samples window)
    (later : last ≤ now) : Windowed now windowMs samples window := by
  obtain ⟨ordered, past, gone, split, old⟩ := windowed
  have cast : (last : ℚ) ≤ now := Nat.cast_le.mpr later
  refine ⟨ordered, fun sample member => Nat.le_trans (past sample member) later,
    gone, split, fun sample member => ?_⟩
  linarith [old sample member]

theorem Windowed.push (windowed : Windowed last windowMs samples window)
    (later : last ≤ now) (ok : Bool) :
    Windowed now windowMs (samples ++ [⟨now, ok⟩])
      (window ++ [⟨now, ok⟩]) := by
  obtain ⟨ordered, past, gone, split, old⟩ := windowed.later later
  refine ⟨?_, ?_, gone, by rw [split, List.append_assoc], old⟩
  · refine List.pairwise_append.mpr ⟨ordered, List.pairwise_singleton _ _, ?_⟩
    intro first front second member
    rw [List.mem_singleton.mp member]
    exact past first front
  · intro sample member
    rcases List.mem_append.mp member with front | pushed
    · exact past sample front
    · rw [List.mem_singleton.mp pushed]

/-- A pruned window is the part of the history inside the window. -/
theorem Windowed.eq_filter (windowed : Windowed now windowMs samples window) :
    (window.dropWhile fun sample =>
        decide ((sample.t : ℚ) < now - windowMs)) =
      samples.filter fun sample =>
        decide ((now : ℚ) - windowMs ≤ sample.t) := by
  obtain ⟨ordered, -, gone, rfl, old⟩ := windowed
  have front : (gone.filter fun sample =>
      decide ((now : ℚ) - windowMs ≤ sample.t)) = [] := by
    refine List.filter_eq_nil_iff.mpr fun sample member => ?_
    rw [decide_eq_true_eq, not_le]
    exact old sample member
  rw [List.filter_append, front, List.nil_append, dropWhile_eq_filter]
  · refine List.filter_congr fun sample _ => ?_
    rw [← decide_not, decide_eq_decide, not_lt]
  · apply (List.pairwise_append.mp ordered).2.1.imp
    intro first second earlier
    have cast : (first.t : ℚ) ≤ second.t := Nat.cast_le.mpr earlier
    simp only [decide_eq_true_eq]
    intro dropped
    linarith

end Window

/-- How the breaker stands to the notes about it. -/
structure Simulates (params : CircuitBreakerParams) (last : Time)
    (observed : Observed) : Prop where
  same : observed.breaker.params = params
  closed : observed.breaker.state = .closed →
    openTrip observed.history = none ∧
      Windowed last params.windowMs (sinceClose observed.history)
        observed.breaker.window
  opened : observed.breaker.state = .opened →
    openTrip observed.history = some observed.breaker.openedAt ∧
      probing observed.history = false
  halfOpen : observed.breaker.state = .halfOpen →
    openTrip observed.history = some observed.breaker.openedAt ∧
      probing observed.history = true ∧
      observed.breaker.probeInFlight = true ∧
      params.cooldownMs ≤ (last : ℚ) - observed.breaker.openedAt

section Steps

variable {params : CircuitBreakerParams} {last now : Time}
  {observed : Observed}

/-- In one state there is nothing to show about the other two. -/
theorem Simulates.of_closed (state : observed.breaker.state = .closed)
    (same : observed.breaker.params = params)
    (trip : openTrip observed.history = none)
    (windowed : Windowed last params.windowMs (sinceClose observed.history)
      observed.breaker.window) : Simulates params last observed where
  same := same
  closed := fun _ => ⟨trip, windowed⟩
  opened := by simp [state]
  halfOpen := by simp [state]

theorem Simulates.of_opened (state : observed.breaker.state = .opened)
    (same : observed.breaker.params = params)
    (trip : openTrip observed.history = some observed.breaker.openedAt)
    (idle : probing observed.history = false) :
    Simulates params last observed where
  same := same
  closed := by simp [state]
  opened := fun _ => ⟨trip, idle⟩
  halfOpen := by simp [state]

theorem Simulates.of_halfOpen (state : observed.breaker.state = .halfOpen)
    (same : observed.breaker.params = params)
    (trip : openTrip observed.history = some observed.breaker.openedAt)
    (probed : probing observed.history = true)
    (outstanding : observed.breaker.probeInFlight = true)
    (cooled : params.cooldownMs ≤ (last : ℚ) - observed.breaker.openedAt) :
    Simulates params last observed where
  same := same
  closed := by simp [state]
  opened := by simp [state]
  halfOpen := fun _ => ⟨trip, probed, outstanding, cooled⟩

private theorem simulates_allowCall (simulates : Simulates params last observed)
    (later : last ≤ now) :
    Simulates params now (observe now .allowCall observed).2 := by
  have cast : (last : ℚ) ≤ now := Nat.cast_le.mpr later
  obtain ⟨same, closed, opened, halfOpen⟩ := simulates
  cases state : observed.breaker.state with
  | closed =>
      obtain ⟨trip, windowed⟩ := closed state
      have unchanged : (observe now .allowCall observed).2 = observed := by
        simp [observe, perform, notes, CircuitBreaker.allowCall, state]
      rw [unchanged]
      exact .of_closed state same trip (windowed.later later)
  | opened =>
      obtain ⟨trip, idle⟩ := opened state
      by_cases cooled : observed.breaker.params.cooldownMs ≤
          (now : ℚ) - observed.breaker.openedAt
      · have admitted : (observe now .allowCall observed).2 =
            { breaker := { observed.breaker with
                state := .halfOpen, probeInFlight := true }
              history := ⟨now, .probe⟩ :: observed.history } := by
          simp [observe, perform, notes, CircuitBreaker.allowCall, state,
            cooled]
        rw [admitted]
        refine ⟨same, by rintro ⟨⟩, by rintro ⟨⟩, fun _ => ?_⟩
        simp only [openTrip_probe, probing_probe]
        exact ⟨trip, trivial, trivial, by rwa [same] at cooled⟩
      · have unchanged : (observe now .allowCall observed).2 = observed := by
          simp [observe, perform, notes, CircuitBreaker.allowCall, state,
            cooled]
        rw [unchanged]
        exact .of_opened state same trip idle
  | halfOpen =>
      obtain ⟨trip, probed, outstanding, cooled⟩ := halfOpen state
      have unchanged : (observe now .allowCall observed).2 = observed := by
        simp [observe, perform, notes, CircuitBreaker.allowCall, state,
          outstanding]
      rw [unchanged]
      apply Simulates.of_halfOpen state same trip probed outstanding
      linarith

private theorem simulates_getState (simulates : Simulates params last observed)
    (later : last ≤ now) :
    Simulates params now (observe now .getState observed).2 := by
  have cast : (last : ℚ) ≤ now := Nat.cast_le.mpr later
  obtain ⟨same, closed, opened, halfOpen⟩ := simulates
  have pruned : (observe now .getState observed).2 =
      { observed with breaker := observed.breaker.prune now } := by
    simp [observe, perform, notes, CircuitBreaker.getState,
      CircuitBreaker.prune]
  rw [pruned]
  refine ⟨same, fun state => ?_, opened, fun state => ?_⟩
  · obtain ⟨trip, windowed⟩ := closed state
    refine ⟨trip, ?_⟩
    simp only [CircuitBreaker.prune, same]
    exact windowed.prune later
  · obtain ⟨trip, probed, outstanding, cooled⟩ := halfOpen state
    refine ⟨trip, probed, outstanding, ?_⟩
    simp only [CircuitBreaker.prune]
    linarith

/-- The window after an outcome is the one of the specification. -/
theorem window_recordOutcome (simulates : Simulates params last observed)
    (later : last ≤ now) (state : observed.breaker.state = .closed)
    (ok : Bool) :
    (observed.breaker.sample ok now).window =
      windowAt params observed.history now ok := by
  obtain ⟨-, windowed⟩ := simulates.closed state
  have pushed := (windowed.push later ok).eq_filter
  simp only [CircuitBreaker.sample, CircuitBreaker.prune, simulates.same]
  rw [pushed, windowAt]

private theorem simulates_closed (simulates : Simulates params last observed)
    (later : last ≤ now) (state : observed.breaker.state = .closed)
    (ok : Bool) :
    Simulates params now (observe now (.recordOutcome ok) observed).2 := by
  obtain ⟨trip, windowed⟩ := simulates.closed state
  have same := simulates.same
  have pushed := (windowed.push later ok).prune (Nat.le_refl now)
  by_cases breached : (observed.breaker.sample ok now).params.minSamples ≤
        (observed.breaker.sample ok now).windowStats.samples ∧
      (observed.breaker.sample ok now).params.failureThreshold ≤
        (observed.breaker.sample ok now).windowStats.failureRate
  · have tripped : (observe now (.recordOutcome ok) observed).2 =
        { breaker := (observed.breaker.sample ok now).trip now
          history := ⟨now, .tripped⟩ :: ⟨now, .outcome ok⟩ ::
            observed.history } := by
      simp [observe, perform, notes, CircuitBreaker.recordOutcome, state,
        breached, CircuitBreaker.trip]
    rw [tripped]
    refine ⟨same, by rintro ⟨⟩, fun _ => ?_, by rintro ⟨⟩⟩
    simp [CircuitBreaker.trip]
  · have kept : (observed.breaker.sample ok now).state = .closed := state
    have sampled : (observe now (.recordOutcome ok) observed).2 =
        { breaker := observed.breaker.sample ok now
          history := ⟨now, .outcome ok⟩ :: observed.history } := by
      simp [observe, perform, notes, CircuitBreaker.recordOutcome, state,
        breached, kept]
    rw [sampled]
    refine .of_closed kept same ?_ ?_
    · rw [openTrip_outcome, trip]
    · rw [sinceClose_outcome]
      simp only [CircuitBreaker.sample, CircuitBreaker.prune, same]
      exact pushed

private theorem simulates_opened (simulates : Simulates params last observed)
    (state : observed.breaker.state = .opened) (ok : Bool) :
    Simulates params now (observe now (.recordOutcome ok) observed).2 := by
  obtain ⟨trip, -⟩ := simulates.opened state
  have same := simulates.same
  have ignored : (observe now (.recordOutcome ok) observed).2 =
      { observed with
        history := ⟨now, .outcome ok⟩ :: observed.history } := by
    simp [observe, perform, notes, CircuitBreaker.recordOutcome, state]
  rw [ignored]
  refine .of_opened state same ?_ ?_
  · rw [openTrip_outcome, trip]
  · simp

private theorem simulates_halfOpen (same : observed.breaker.params = params)
    (state : observed.breaker.state = .halfOpen) (ok : Bool) :
    Simulates params now (observe now (.recordOutcome ok) observed).2 := by
  cases ok with
  | true =>
      have ended : (observe now (.recordOutcome true) observed).2 =
          { breaker := { observed.breaker with
              probeInFlight := false, state := .closed, window := [] }
            history := ⟨now, .closed⟩ :: ⟨now, .outcome true⟩ ::
              observed.history } := by
        simp [observe, perform, notes, CircuitBreaker.recordOutcome, state]
      rw [ended]
      refine ⟨same, fun _ => ?_, by rintro ⟨⟩, by rintro ⟨⟩⟩
      simp only [openTrip_closed, sinceClose_closed]
      exact ⟨trivial, .nil⟩
  | false =>
      have reopened : (observe now (.recordOutcome false) observed).2 =
          { breaker := CircuitBreaker.trip now
              { observed.breaker with probeInFlight := false }
            history := ⟨now, .tripped⟩ :: ⟨now, .outcome false⟩ ::
              observed.history } := by
        simp [observe, perform, notes, CircuitBreaker.recordOutcome, state,
          CircuitBreaker.trip]
      rw [reopened]
      refine ⟨same, by rintro ⟨⟩, fun _ => ?_, by rintro ⟨⟩⟩
      simp [CircuitBreaker.trip]

private theorem simulates_recordOutcome
    (simulates : Simulates params last observed)
    (later : last ≤ now) (ok : Bool) :
    Simulates params now (observe now (.recordOutcome ok) observed).2 := by
  cases state : observed.breaker.state with
  | closed => exact simulates_closed simulates later state ok
  | opened => exact simulates_opened simulates state ok
  | halfOpen => exact simulates_halfOpen simulates.same state ok

private theorem simulates_observe (simulates : Simulates params last observed)
    (later : last ≤ now) (op : BreakerOp) :
    Simulates params now (observe now op observed).2 := by
  cases op with
  | allowCall => exact simulates_allowCall simulates later
  | recordOutcome ok => exact simulates_recordOutcome simulates later ok
  | getState => exact simulates_getState simulates later

private theorem simulates_after {start : Time} {calls : List (Timed BreakerOp)}
    (simulates : Simulates params start observed)
    (clocked : Clocked start calls) {later : Time} (begun : start ≤ later)
    (reached : ∀ call ∈ calls, call.time ≤ later) :
    Simulates params later (after observe observed calls) := by
  induction calls generalizing start observed with
  | nil =>
      obtain ⟨same, closed, opened, halfOpen⟩ := simulates
      have cast : (start : ℚ) ≤ later := Nat.cast_le.mpr begun
      refine ⟨same, fun state => ?_, opened, fun state => ?_⟩
      · exact ⟨(closed state).1, (closed state).2.later begun⟩
      · obtain ⟨trip, probed, outstanding, cooled⟩ := halfOpen state
        refine ⟨trip, probed, outstanding, ?_⟩
        simp only [after]
        linarith
  | cons call calls induction =>
      have moved := simulates_observe simulates clocked.1 call.op
      exact induction moved clocked.2 (reached call (by simp))
        fun other member => reached other (List.mem_cons_of_mem call member)

private theorem simulates_create (params : CircuitBreakerParams) (start : Time) :
    Simulates params start ⟨.create params, []⟩ :=
  ⟨rfl, fun _ => ⟨rfl, .nil⟩, nofun, nofun⟩

private theorem breached_iff (breaker : CircuitBreaker) :
    (breaker.params.minSamples ≤ breaker.windowStats.samples ∧
        breaker.params.failureThreshold ≤ breaker.windowStats.failureRate) ↔
      Breached breaker.params breaker.window := by
  have rate : breaker.windowStats.failureRate =
      failures breaker.window / breaker.window.length := by
    simp only [CircuitBreaker.windowStats, failures]
    split
    case isTrue empty => simp [empty]
    case isFalse => rfl
  rw [rate, Breached]
  exact Iff.rfl

/-- Part (i): sampling and tripping in CLOSED. -/
theorem recordOutcome_closed (simulates : Simulates params last observed)
    (later : last ≤ now) (state : observed.breaker.state = .closed)
    (ok : Bool) :
    (observed.breaker.recordOutcome ok now).1.window =
        windowAt params observed.history now ok ∧
      ((observed.breaker.recordOutcome ok now).1.state = .opened ↔
        Breached params (windowAt params observed.history now ok)) := by
  have window := window_recordOutcome simulates later state ok
  have breached := breached_iff (observed.breaker.sample ok now)
  have same : (observed.breaker.sample ok now).params = params :=
    simulates.same
  have kept : (observed.breaker.sample ok now).state = .closed := state
  rw [window, same] at breached
  simp only [CircuitBreaker.recordOutcome, state, same]
  by_cases trips : Breached params (windowAt params observed.history now ok)
  · rw [if_pos (breached.mpr trips)]
    simp [CircuitBreaker.trip, window, trips]
  · rw [if_neg fun tripped => trips (breached.mp tripped)]
    simp [kept, window, trips]

private theorem allowCall_refuses_iff
    (simulates : Simulates params last observed)
    (later : last ≤ now) :
    (observed.breaker.allowCall now).1.allowed = false ↔
      Refuses params observed.history now := by
  obtain ⟨same, closed, opened, halfOpen⟩ := simulates
  have cast : (last : ℚ) ≤ now := Nat.cast_le.mpr later
  cases state : observed.breaker.state with
  | closed => simp [CircuitBreaker.allowCall, state, Refuses, (closed state).1]
  | opened =>
      obtain ⟨trip, idle⟩ := opened state
      simp only [CircuitBreaker.allowCall, state, same, Refuses, trip, idle,
        Option.some.injEq, exists_eq_left', Bool.false_eq_true, or_false]
      split
      case isTrue cooled => simpa using cooled
      case isFalse hot => simpa using hot
  | halfOpen =>
      obtain ⟨trip, probed, outstanding, -⟩ := halfOpen state
      simp [CircuitBreaker.allowCall, state, outstanding, Refuses, trip,
        probed]

end Steps

private theorem perform_tripCount (now : Time) (op : BreakerOp)
    (breaker : CircuitBreaker) :
    (perform now op breaker).2.tripCount = breaker.tripCount +
      if breaker.state ≠ .opened ∧ (perform now op breaker).2.state = .opened
      then 1 else 0 := by
  cases op with
  | allowCall =>
      cases state : breaker.state with
      | closed => simp [perform, CircuitBreaker.allowCall, state]
      | opened =>
          simp only [perform, CircuitBreaker.allowCall, state]
          split <;> simp
      | halfOpen =>
          simp only [perform, CircuitBreaker.allowCall, state]
          split <;> simp [state]
  | recordOutcome ok =>
      cases state : breaker.state with
      | closed =>
          simp only [perform, CircuitBreaker.recordOutcome, state]
          split
          · simp [CircuitBreaker.trip, CircuitBreaker.sample,
              CircuitBreaker.prune]
          · simp [CircuitBreaker.sample, CircuitBreaker.prune, state]
      | opened => simp [perform, CircuitBreaker.recordOutcome, state]
      | halfOpen =>
          simp only [perform, CircuitBreaker.recordOutcome, state]
          cases ok with
          | true => simp
          | false => simp [CircuitBreaker.trip]
  | getState =>
      simp [perform, CircuitBreaker.getState, CircuitBreaker.prune]

/-- Part (iii): the counter. -/
theorem tripCount_after (breaker : CircuitBreaker)
    (calls : List (Timed BreakerOp)) :
    (after perform breaker calls).tripCount =
      breaker.tripCount + openings breaker calls := by
  induction calls generalizing breaker with
  | nil => simp [after, openings]
  | cons call calls induction =>
      rw [after, induction, perform_tripCount, openings, Nat.add_assoc]

section Agreement

variable {last : Time} {left right : CircuitBreaker}

/-- Dropping the observations from a run drops them from its answers. -/
theorem results_eq {calls : List (Timed BreakerOp)}
    (agrees : CircuitBreaker.Agrees last left right)
    (clocked : Clocked last calls) :
    results left calls =
      answers perform right (calls.filter fun call => !observes call) := by
  induction calls generalizing last left right with
  | nil => simp [results, answers]
  | cons call calls induction =>
      obtain ⟨time, op⟩ := call
      obtain ⟨later, clocked⟩ := clocked
      cases op with
      | getState =>
          have rest := induction (agrees.getState later) clocked
          simpa [results, answers, observes, perform] using rest
      | allowCall =>
          obtain ⟨same, moved⟩ := agrees.allowCall later
          have rest := induction moved clocked
          simpa [results, answers, observes, perform, same] using rest
      | recordOutcome ok =>
          obtain ⟨same, moved⟩ := agrees.recordOutcome later ok
          have rest := induction moved clocked
          simpa [results, answers, observes, perform, same] using rest

end Agreement

/-- The breaker and what is noted along a run from the start. -/
def observedAfter (params : CircuitBreakerParams)
    (calls : List (Timed BreakerOp)) : Observed :=
  after observe ⟨.create params, []⟩ calls

private theorem breaker_after (observed : Observed)
    (calls : List (Timed BreakerOp)) :
    (after observe observed calls).breaker =
      after perform observed.breaker calls := by
  induction calls generalizing observed with
  | nil => simp [after]
  | cons call calls induction =>
      rw [after, induction, after]
      simp [observe]

/-- The notes of a run that has got to a call. -/
theorem simulates_before {params : CircuitBreakerParams} {start now : Time}
    {before later : List (Timed BreakerOp)} {op : BreakerOp}
    (clocked : Clocked start (before ++ ⟨now, op⟩ :: later)) :
    Simulates params now (observedAfter params before) := by
  obtain ⟨front, back, across⟩ := clocked.of_append
  exact simulates_after (simulates_create params start) front back.1
    fun call member => across call member ⟨now, op⟩ (by simp)

/-- The breaker implements its history specification: the window and the
trips in CLOSED, the refusals, the trip count, and the harmlessness of
observing it. -/
theorem breaker_refines_history (params : CircuitBreakerParams)
    (windowMs : 0 ≤ params.windowMs) (start : Time)
    (calls : List (Timed BreakerOp)) (clocked : Clocked start calls) :
    (∀ before now ok later,
      calls = before ++ ⟨now, .recordOutcome ok⟩ :: later →
      let observed := observedAfter params before
      let samples := windowAt params observed.history now ok
      observed.breaker.state = .closed →
        ⟨now, ok⟩ ∈ samples ∧
        (observed.breaker.recordOutcome ok now).1.window = samples ∧
        ((observed.breaker.recordOutcome ok now).1.state = .opened ↔
          Breached params samples)) ∧
    (∀ before now later, calls = before ++ ⟨now, .allowCall⟩ :: later →
      let observed := observedAfter params before
      ((observed.breaker.allowCall now).1.allowed = false ↔
        Refuses params observed.history now)) ∧
    (observedAfter params calls).breaker.tripCount =
      openings (.create params) calls ∧
    ∀ others, Clocked start others →
      (others.filter fun call => !observes call) =
        (calls.filter fun call => !observes call) →
      results (.create params) others = results (.create params) calls := by
  refine ⟨?_, ?_, ?_, ?_⟩
  · rintro before now ok later rfl observed samples state
    obtain ⟨window, trips⟩ := recordOutcome_closed
      (simulates_before clocked) (Nat.le_refl now) state ok
    refine ⟨List.mem_filter.mpr ⟨by simp, ?_⟩, window, trips⟩
    simpa using windowMs
  · rintro before now later rfl observed
    exact allowCall_refuses_iff (simulates_before clocked) (Nat.le_refl now)
  · rw [observedAfter, breaker_after, tripCount_after]
    simp [CircuitBreaker.create]
  · intro others ordered same
    rw [results_eq (.refl start _) ordered, results_eq (.refl start _) clocked,
      same]

/-- Two outcomes trip the breaker, a call is refused, and a probe is
admitted after the cooldown. -/
theorem breaker_refines_history_probed :
    let params : CircuitBreakerParams := ⟨1000, 1 / 2, 2, 500⟩
    let calls : List (Timed BreakerOp) :=
      [⟨0, .recordOutcome true⟩, ⟨5, .getState⟩, ⟨10, .recordOutcome false⟩,
        ⟨20, .allowCall⟩, ⟨510, .allowCall⟩]
    (observedAfter params calls).breaker.state = .halfOpen ∧
      (observedAfter params calls).breaker.tripCount = 1 ∧
      openings (.create params) calls = 1 := by
  intro params calls
  have counted : (observedAfter params calls).breaker.tripCount = 1 := by
    decide +kernel
  refine ⟨by decide +kernel, counted, ?_⟩
  rw [← (breaker_refines_history params (by norm_num [params]) 0 calls
    (by decide)).2.2.1]
  exact counted

end PaymentQueue.History
