import Mathlib.Logic.Function.Basic

/-!
# Labelled steps and the states they reach

A step function takes a label and a state.  `Reaches` is reachability along
the labels that `admits` lets through, so an assumption about a run is a
predicate on its states and labels.  `replay` executes a given schedule, and
`observed` keeps a record beside the states that the steps do not read.
-/

namespace Await

variable {State Label : Type} {step : Label → State → Option State}

/-- States reached from `start` along admitted labels. -/
inductive Reaches (step : Label → State → Option State)
    (admits : State → Label → Prop) (start : State) : State → Prop where
  | refl : Reaches step admits start start
  | step {state next : State} {label : Label} :
      Reaches step admits start state → admits state label →
      step label state = some next → Reaches step admits start next

/-- Execute a schedule, checking every label before it is taken. -/
def replay (step : Label → State → Option State)
    (admits : State → Label → Bool) : List Label → State → Option State
  | [], state => some state
  | label :: rest, state =>
      if admits state label then
        match step label state with
        | some next => replay step admits rest next
        | none => none
      else none

theorem Reaches.mono {admits admits' : State → Label → Prop}
    {start state : State} (reached : Reaches step admits start state)
    (weaker : ∀ state label, admits state label → admits' state label) :
    Reaches step admits' start state := by
  induction reached with
  | refl => exact .refl
  | step _ admitted taken induction =>
      exact .step induction (weaker _ _ admitted) taken

/-- What every admitted step preserves holds in every state of a run. -/
theorem Reaches.invariant {admits : State → Label → Prop}
    {holds : State → Prop} {start state : State}
    (reached : Reaches step admits start state) (initial : holds start)
    (preserves : ∀ state label next, holds state → admits state label →
      step label state = some next → holds next) :
    holds state := by
  induction reached with
  | refl => exact initial
  | step _ admitted taken induction =>
      exact preserves _ _ _ induction admitted taken

/-- A property of states that every admitted step preserves may be assumed of
every state of a run. -/
theorem Reaches.strengthen {admits : State → Label → Prop}
    {holds : State → Prop} {start state : State}
    (reached : Reaches step admits start state) (initial : holds start)
    (preserves : ∀ state label next, holds state → admits state label →
      step label state = some next → holds next) :
    holds state ∧ Reaches step
      (fun state label => holds state ∧ admits state label) start state := by
  induction reached with
  | refl => exact ⟨initial, .refl⟩
  | step _ admitted taken induction =>
      obtain ⟨held, before⟩ := induction
      exact ⟨preserves _ _ _ held admitted taken,
        before.step ⟨held, admitted⟩ taken⟩

theorem Reaches.trans {admits : State → Label → Prop}
    {start middle state : State} (first : Reaches step admits start middle)
    (second : Reaches step admits middle state) :
    Reaches step admits start state := by
  induction second with
  | refl => exact first
  | step _ admitted taken induction => exact .step induction admitted taken

/-- A run begins with a step, unless it is empty. -/
theorem Reaches.first {admits : State → Label → Prop} {start state : State}
    (reached : Reaches step admits start state) :
    state = start ∨ ∃ label next, admits start label ∧
      step label start = some next ∧ Reaches step admits next state := by
  induction reached with
  | refl => exact .inl rfl
  | @step middle final label before admitted taken induction =>
      rcases induction with rfl | ⟨head, next, allowed, moved, rest⟩
      · exact .inr ⟨label, final, admitted, taken, .refl⟩
      · exact .inr ⟨head, next, allowed, moved, rest.step admitted taken⟩

/-- Along a single label a run is determined up to its length. -/
theorem Reaches.linear {only : Label} {start first second : State}
    (left : Reaches step (fun _ label => label = only) start first)
    (right : Reaches step (fun _ label => label = only) start second) :
    Reaches step (fun _ label => label = only) first second ∨
      Reaches step (fun _ label => label = only) second first := by
  induction left with
  | refl => exact .inl right
  | step before admitted taken induction =>
      subst admitted
      rcases induction with onward | back
      · rcases onward.first with rfl | ⟨label, next, rfl, moved, rest⟩
        · exact .inr (.step .refl rfl taken)
        · rw [taken] at moved
          obtain rfl := Option.some.inj moved
          exact .inl rest
      · exact .inr (back.step rfl taken)

/-- Runs along a single label end in the same state. -/
theorem Reaches.eq_of_stuck {only : Label} {start first second : State}
    (left : Reaches step (fun _ label => label = only) start first)
    (right : Reaches step (fun _ label => label = only) start second)
    (stuck : step only first = none) (stuck' : step only second = none) :
    first = second := by
  rcases left.linear right with onward | back
  · rcases onward.first with same | ⟨label, next, rfl, moved, -⟩
    · exact same.symm
    · rw [stuck] at moved
      cases moved
  · rcases back.first with same | ⟨label, next, rfl, moved, -⟩
    · exact same
    · rw [stuck'] at moved
      cases moved

theorem reaches_of_replay {admits : State → Label → Bool}
    {labels : List Label} {start final : State}
    (replayed : replay step admits labels start = some final) :
    Reaches step (fun state label => admits state label = true) start
      final := by
  induction labels generalizing start with
  | nil =>
      cases replayed
      exact .refl
  | cons label rest induction =>
      rw [replay] at replayed
      split at replayed
      case isTrue admitted =>
        split at replayed
        case h_1 next taken =>
          have first : Reaches step (fun state label => admits state label = true)
              start next := .step .refl admitted taken
          exact first.trans (induction replayed)
        case h_2 => cases replayed
      case isFalse => cases replayed

/-- A schedule that ends in a state with a checked property. -/
theorem exists_of_replay (step : Label → State → Option State)
    (admits : State → Label → Bool) (labels : List Label) (start : State)
    (check : State → Bool)
    (replayed : (replay step admits labels start).any check = true) :
    ∃ final, Reaches step (fun state label => admits state label = true)
      start final ∧ check final = true := by
  obtain ⟨final, found, checked⟩ := (Option.any_eq_true _ _).mp replayed
  exact ⟨final, reaches_of_replay found, checked⟩

/-- Two schedules, the second from what becomes of the state between them. -/
theorem exists_of_replays (step : Label → State → Option State)
    (admits admits' : State → Label → Bool) (first second : List Label)
    (start : State) (between : State → State) (check : State → State → Bool)
    (replayed : ((replay step admits first start).any fun middle =>
      (replay step admits' second (between middle)).any (check middle)) =
        true) :
    ∃ middle final,
      Reaches step (fun state label => admits state label = true)
        start middle ∧
      Reaches step (fun state label => admits' state label = true)
        (between middle) final ∧ check middle final = true := by
  obtain ⟨middle, found, rest⟩ := (Option.any_eq_true _ _).mp replayed
  obtain ⟨final, found', checked⟩ := (Option.any_eq_true _ _).mp rest
  exact ⟨middle, final, reaches_of_replay found, reaches_of_replay found',
    checked⟩

/-- The same steps, with a record of what was done. -/
def observed {Record : Type} (step : Label → State → Option State)
    (observe : State → Label → Record → Record) (label : Label)
    (current : State × Record) : Option (State × Record) :=
  (step label current.1).map fun next =>
    (next, observe current.1 label current.2)

theorem observed_eq_some {Record : Type}
    {observe : State → Label → Record → Record} {label : Label}
    {current next : State × Record} :
    observed step observe label current = some next ↔
      step label current.1 = some next.1 ∧
        next.2 = observe current.1 label current.2 := by
  simp only [observed, Option.map_eq_some_iff]
  constructor
  · rintro ⟨state, taken, rfl⟩
    exact ⟨taken, rfl⟩
  · rintro ⟨taken, same⟩
    exact ⟨next.1, taken, Prod.ext rfl same.symm⟩

end Await
