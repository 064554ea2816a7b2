import Mathlib.Order.Basic

/-!
# Objects whose methods read the clock

A method runs at a clock value, answers, and leaves the object in a new
state.  A run is a list of calls; `Clocked` says that the clock never goes
back along it.
-/

namespace Await

/-- A method call and the clock value at which it runs. -/
structure Timed (Op : Type) where
  time : Nat
  op : Op
  deriving DecidableEq

/-- The clock never goes back, starting from `last`. -/
def Clocked {Op : Type} : Nat → List (Timed Op) → Prop
  | _, [] => True
  | last, call :: calls => last ≤ call.time ∧ Clocked call.time calls

section Clock

variable {Op : Type} {last earlier : Nat} {calls : List (Timed Op)}

instance decidableClocked :
    (last : Nat) → (calls : List (Timed Op)) → Decidable (Clocked last calls)
  | _, [] => inferInstanceAs (Decidable True)
  | last, call :: calls =>
      have := decidableClocked call.time calls
      inferInstanceAs (Decidable (last ≤ call.time ∧ Clocked call.time calls))

theorem Clocked.weaken (clocked : Clocked last calls)
    (before : earlier ≤ last) : Clocked earlier calls := by
  cases calls with
  | nil => trivial
  | cons call calls => exact ⟨Nat.le_trans before clocked.1, clocked.2⟩

theorem Clocked.le_time (clocked : Clocked last calls) :
    ∀ call ∈ calls, last ≤ call.time := by
  induction calls generalizing last with
  | nil => simp
  | cons call calls induction =>
      intro later member
      cases member with
      | head => exact clocked.1
      | tail _ member =>
          exact Nat.le_trans clocked.1 (induction clocked.2 later member)

theorem Clocked.of_append {first second : List (Timed Op)}
    (clocked : Clocked last (first ++ second)) :
    Clocked last first ∧ Clocked last second ∧
      ∀ call ∈ first, ∀ later ∈ second, call.time ≤ later.time := by
  induction first generalizing last with
  | nil => exact ⟨trivial, clocked, by simp⟩
  | cons call first induction =>
      obtain ⟨before, rest⟩ := clocked
      obtain ⟨front, back, across⟩ := induction rest
      refine ⟨⟨before, front⟩, back.weaken before, ?_⟩
      intro earlier member later inside
      cases member with
      | head => exact back.le_time later inside
      | tail _ member => exact across earlier member later inside

end Clock

variable {State Op Answer : Type}
  (perform : Nat → Op → State → Answer × State)

/-- The state after a list of calls. -/
def after (state : State) : List (Timed Op) → State
  | [] => state
  | call :: calls => after (perform call.time call.op state).2 calls

/-- The states that a list of calls passes through, the first one
included. -/
def trail (state : State) : List (Timed Op) → List State
  | [] => [state]
  | call :: calls =>
      state :: trail (perform call.time call.op state).2 calls

/-- The calls with their answers. -/
def answers (state : State) : List (Timed Op) → List (Timed Op × Answer)
  | [] => []
  | call :: calls =>
      (call, (perform call.time call.op state).1) ::
        answers (perform call.time call.op state).2 calls

variable {perform} {state : State} {calls : List (Timed Op)}

theorem after_append (state : State) (first second : List (Timed Op)) :
    after perform state (first ++ second) =
      after perform (after perform state first) second := by
  induction first generalizing state with
  | nil => simp [after]
  | cons call first induction => simp [after, induction]

theorem mem_trail (state : State) (calls : List (Timed Op)) :
    state ∈ trail perform state calls := by
  cases calls with
  | nil => simp [trail]
  | cons call calls => simp [trail]

theorem after_mem_trail (state : State) (calls : List (Timed Op)) :
    after perform state calls ∈ trail perform state calls := by
  induction calls generalizing state with
  | nil => simp [after, trail]
  | cons call calls induction =>
      exact List.mem_cons_of_mem state (induction _)

/-- What every admitted call preserves holds after all of them. -/
theorem after_invariant (holds : State → Prop) {admits : Timed Op → Prop}
    (preserves : ∀ call state, admits call → holds state →
      holds (perform call.time call.op state).2)
    (initial : holds state) (admitted : ∀ call ∈ calls, admits call) :
    holds (after perform state calls) := by
  induction calls generalizing state with
  | nil => exact initial
  | cons call calls induction =>
      have first := preserves call state (admitted call (by simp)) initial
      exact induction first fun later member =>
        admitted later (List.mem_cons_of_mem call member)

/-- It holds of every state on the way, too. -/
theorem trail_invariant (holds : State → Prop) {admits : Timed Op → Prop}
    (preserves : ∀ call state, admits call → holds state →
      holds (perform call.time call.op state).2)
    (initial : holds state) (admitted : ∀ call ∈ calls, admits call) :
    ∀ passed ∈ trail perform state calls, holds passed := by
  induction calls generalizing state with
  | nil =>
      intro passed member
      simp only [trail, List.mem_singleton] at member
      rwa [member]
  | cons call calls induction =>
      intro passed member
      have first := preserves call state (admitted call (by simp)) initial
      cases member with
      | head => exact initial
      | tail _ member =>
          exact induction first (fun later inside =>
            admitted later (List.mem_cons_of_mem call inside)) passed member

end Await
