import PaymentQueue.Await.Timed

/-!
# Two runs of one object

The second run leaves out some of the calls of the first.  `relates` says how
the two objects may differ meanwhile; the calls that are left out keep them
related, and so do the calls that both runs make, which are answered alike.
-/

namespace Await

section Thinning

variable {Op : Type} {spare : Timed Op → Prop}

/-- The second list leaves out some of the spare calls of the first. -/
inductive Thins (spare : Timed Op → Prop) :
    List (Timed Op) → List (Timed Op) → Prop where
  | nil : Thins spare [] []
  | keep (call : Timed Op) {full thin : List (Timed Op)} :
      Thins spare full thin → Thins spare (call :: full) (call :: thin)
  | drop {call : Timed Op} {full thin : List (Timed Op)} :
      spare call → Thins spare full thin → Thins spare (call :: full) thin

/-- Nothing is left out. -/
theorem Thins.refl (calls : List (Timed Op)) : Thins spare calls calls := by
  induction calls with
  | nil => exact .nil
  | cons call calls induction => exact .keep call induction

private theorem thins_filter (keeps : Timed Op → Bool) (calls : List (Timed Op)) :
    Thins (fun call => keeps call = false) calls (calls.filter keeps) := by
  induction calls with
  | nil => exact .nil
  | cons call calls induction =>
      cases kept : keeps call with
      | true =>
          rw [List.filter_cons_of_pos kept]
          exact .keep call induction
      | false =>
          rw [List.filter_cons_of_neg (by simp [kept])]
          exact .drop kept induction

end Thinning

variable {State Op Answer : Type}
  {perform : Nat → Op → State → Answer × State}

/-- Every call of a run is admitted in the state in which it is made. -/
def Along (perform : Nat → Op → State → Answer × State)
    (admits : State → Timed Op → Prop) : State → List (Timed Op) → Prop
  | _, [] => True
  | state, call :: calls =>
      admits state call ∧
        Along perform admits (perform call.time call.op state).2 calls

/-- If a call keeps a property exactly when it is admitted, the property
holds all along a run exactly when all its calls are. -/
theorem trail_iff_along {holds : State → Prop}
    {admits : State → Timed Op → Prop}
    (exact_step : ∀ call state, holds state →
      (holds (perform call.time call.op state).2 ↔ admits state call))
    {state : State} (initial : holds state) (calls : List (Timed Op)) :
    (∀ passed ∈ trail perform state calls, holds passed) ↔
      Along perform admits state calls := by
  induction calls generalizing state with
  | nil => simp [trail, Along, initial]
  | cons call calls induction =>
      simp only [trail, Along, List.forall_mem_cons, initial, true_and]
      rw [← exact_step call state initial]
      constructor
      · intro all
        have next := all _ (mem_trail _ calls)
        exact ⟨next, (induction next).mp all⟩
      · rintro ⟨next, along⟩
        exact (induction next).mpr along

/-- How the clock may move from one call to the next. -/
def Paced (moves : Nat → Nat → Prop) : Nat → List (Timed Op) → Prop
  | _, [] => True
  | last, call :: calls => moves last call.time ∧ Paced moves call.time calls

theorem Clocked.paced {last : Nat} {calls : List (Timed Op)}
    (clocked : Clocked last calls) : Paced (· ≤ ·) last calls := by
  induction calls generalizing last with
  | nil => trivial
  | cons call calls induction => exact ⟨clocked.1, induction clocked.2⟩

/-- A clock that may move either way. -/
theorem paced_anyhow (last : Nat) (calls : List (Timed Op)) :
    Paced (fun _ _ => True) last calls := by
  induction calls generalizing last with
  | nil => trivial
  | cons call calls induction => exact ⟨trivial, induction call.time⟩

/-- How related objects stay related. -/
structure Twins (perform : Nat → Op → State → Answer × State)
    (moves : Nat → Nat → Prop) (relates : Nat → State → State → Prop)
    (spare : Timed Op → Prop) (admits : State → Timed Op → Prop) :
    Prop where
  later : ∀ {time time' full thin}, moves time time' →
    relates time full thin → relates time' full thin
  dropped : ∀ {call full thin}, spare call → relates call.time full thin →
    relates call.time (perform call.time call.op full).2 thin
  kept : ∀ {call full thin}, admits thin call →
    relates call.time full thin →
    relates call.time (perform call.time call.op full).2
      (perform call.time call.op thin).2
  alike : ∀ {call full thin}, admits thin call → ¬ spare call →
    relates call.time full thin →
    (perform call.time call.op full).1 = (perform call.time call.op thin).1

/-- The two runs end in related objects, and have answered the calls that
are not spare alike. -/
theorem Twins.runs {moves : Nat → Nat → Prop}
    {relates : Nat → State → State → Prop}
    {spare : Timed Op → Prop} [DecidablePred spare]
    {admits : State → Timed Op → Prop}
    (twins : Twins perform moves relates spare admits)
    {calls thinned : List (Timed Op)} (thins : Thins spare calls thinned)
    {last : Nat} (paced : Paced moves last calls) {full thin : State}
    (related : relates last full thin)
    (admitted : Along perform admits thin thinned) :
    (∃ time, relates time (after perform full calls)
      (after perform thin thinned)) ∧
      (answers perform full calls).filter (fun answered =>
        decide (¬ spare answered.1)) =
      (answers perform thin thinned).filter fun answered =>
        decide (¬ spare answered.1) := by
  induction thins generalizing last full thin with
  | nil => exact ⟨⟨last, related⟩, rfl⟩
  | @keep call calls thinned thins induction =>
      obtain ⟨before, paced⟩ := paced
      have current := twins.later before related
      obtain ⟨ends, agree⟩ := induction paced
        (twins.kept admitted.1 current) admitted.2
      refine ⟨ends, ?_⟩
      simp only [answers]
      by_cases idle : spare call
      · rw [List.filter_cons_of_neg (by simpa using idle),
          List.filter_cons_of_neg (by simpa using idle), agree]
      · rw [List.filter_cons_of_pos (by simpa using idle),
          List.filter_cons_of_pos (by simpa using idle), agree,
          twins.alike admitted.1 idle current]
  | @drop call calls thinned idle thins induction =>
      obtain ⟨before, paced⟩ := paced
      obtain ⟨ends, agree⟩ := induction paced
        (twins.dropped idle (twins.later before related)) admitted
      refine ⟨ends, ?_⟩
      simp only [answers]
      rw [List.filter_cons_of_neg (by simpa using idle), agree]

private theorem along_always (state : State) (calls : List (Timed Op)) :
    Along perform (fun _ _ => True) state calls := by
  induction calls generalizing state with
  | nil => trivial
  | cons call calls induction => exact ⟨trivial, induction _⟩

/-- Calls that are admitted in every state. -/
theorem along_of_forall {admits : Timed Op → Prop} (state : State)
    {calls : List (Timed Op)} (admitted : ∀ call ∈ calls, admits call) :
    Along perform (fun _ => admits) state calls := by
  induction calls generalizing state with
  | nil => trivial
  | cons call calls induction =>
      exact ⟨admitted call (by simp), induction _ fun later member =>
        admitted later (List.mem_cons_of_mem call member)⟩

private theorem mem_answers {answered : Timed Op × Answer} {state : State}
    {calls : List (Timed Op)}
    (member : answered ∈ answers perform state calls) :
    answered.1 ∈ calls := by
  induction calls generalizing state with
  | nil => cases member
  | cons call calls induction =>
      rw [answers, List.mem_cons] at member
      rcases member with rfl | later
      · exact List.mem_cons_self
      · exact List.mem_cons_of_mem call (induction later)

/-- Leaving out the calls that are not kept does not change the answers to
the others. -/
theorem Twins.filtered {relates : Nat → State → State → Prop}
    {keeps : Timed Op → Bool}
    (twins : Twins perform (fun _ _ => True) relates
      (fun call => keeps call = false) fun _ _ => True)
    (calls : List (Timed Op)) (last : Nat) {full thin : State}
    (related : relates last full thin) :
    (answers perform full calls).filter (fun answered => keeps answered.1) =
      answers perform thin (calls.filter keeps) := by
  have agree := (twins.runs (thins_filter keeps calls)
    (paced_anyhow last calls) related (along_always thin _)).2
  simp only [Bool.not_eq_false, Bool.decide_eq_true] at agree
  rw [agree, List.filter_eq_self]
  intro answered member
  exact (List.mem_filter.mp (mem_answers member)).2

end Await
