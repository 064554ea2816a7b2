import Mathlib.Tactic.Linarith
import PaymentQueue.Gateway.CircuitBreaker

/-!
# Breakers that differ in samples about to leave

`getState` prunes the window.  A breaker that was observed and one that was
not differ only in samples that the next outcome prunes anyway.
-/

namespace PaymentQueue.CircuitBreaker

/-- A sample has left the window. -/
def leaves (windowMs : ℚ) (now : Time) (sample : OutcomeSample) : Bool :=
  decide ((sample.t : ℚ) < now - windowMs)

/-- Two breakers that differ only in samples which are about to leave. -/
structure Agrees (last : Time) (left right : CircuitBreaker) : Prop where
  rest : right = { left with window := right.window }
  window : ∀ now, last ≤ now →
    left.window.dropWhile (leaves left.params.windowMs now) =
      right.window.dropWhile (leaves left.params.windowMs now)

variable {last now : Time} {left right : CircuitBreaker}

theorem Agrees.refl (last : Time) (breaker : CircuitBreaker) :
    Agrees last breaker breaker :=
  ⟨rfl, fun _ _ => rfl⟩

private theorem dropWhile_dropWhile {α : Type} {first second : α → Bool}
    (weaker : ∀ item, first item = true → second item = true)
    (items : List α) :
    (items.dropWhile first).dropWhile second = items.dropWhile second := by
  induction items with
  | nil => simp
  | cons item items induction =>
      by_cases dropped : first item = true
      · rw [List.dropWhile_cons_of_pos dropped, induction,
          List.dropWhile_cons_of_pos (weaker item dropped)]
      · rw [List.dropWhile_cons_of_neg dropped]

theorem Agrees.getState (agrees : Agrees last left right)
    (later : last ≤ now) : Agrees now (left.getState now).2 right := by
  refine ⟨agrees.rest, fun moment after => ?_⟩
  refine Eq.trans ?_ (agrees.window moment (Nat.le_trans later after))
  refine dropWhile_dropWhile (fun sample gone => ?_) left.window
  have cast : (now : ℚ) ≤ moment := Nat.cast_le.mpr after
  have same : (left.getState now).2.params = left.params := rfl
  simp only [leaves, decide_eq_true_eq, same] at gone ⊢
  linarith

/-- What is left of the windows after the samples of the past are dropped. -/
theorem Agrees.dropWhile (agrees : Agrees last left right)
    (later : last ≤ now) :
    left.window.dropWhile (fun sample =>
        decide ((sample.t : ℚ) < now - left.params.windowMs)) =
      right.window.dropWhile fun sample =>
        decide ((sample.t : ℚ) < now - left.params.windowMs) :=
  agrees.window now later

theorem Agrees.kept (agrees : Agrees last left right) (later : last ≤ now) :
    ∀ moment, now ≤ moment →
      left.window.dropWhile (leaves left.params.windowMs moment) =
        right.window.dropWhile (leaves left.params.windowMs moment) :=
  fun moment after => agrees.window moment (Nat.le_trans later after)

/-- Pruning makes the windows equal. -/
theorem Agrees.prune (agrees : Agrees last left right) (later : last ≤ now) :
    right.prune now = left.prune now := by
  rw [agrees.rest]
  simp only [CircuitBreaker.prune, agrees.dropWhile later]

/-- A new sample makes the windows equal. -/
theorem Agrees.sample (agrees : Agrees last left right) (later : last ≤ now)
    (ok : Bool) : right.sample ok now = left.sample ok now := by
  rw [agrees.rest]
  simp only [CircuitBreaker.sample, CircuitBreaker.prune,
    List.dropWhile_append, agrees.dropWhile later]

theorem Agrees.allowCall (agrees : Agrees last left right)
    (later : last ≤ now) :
    (right.allowCall now).1 = (left.allowCall now).1 ∧
      Agrees now (left.allowCall now).2 (right.allowCall now).2 := by
  have kept := agrees.kept later
  rw [agrees.rest]
  cases state : left.state with
  | closed =>
      simp only [CircuitBreaker.allowCall, state]
      exact ⟨trivial, by rw [state], kept⟩
  | opened =>
      simp only [CircuitBreaker.allowCall, state]
      split
      · exact ⟨rfl, rfl, kept⟩
      · exact ⟨rfl, by rw [state], kept⟩
  | halfOpen =>
      simp only [CircuitBreaker.allowCall, state]
      split
      · exact ⟨rfl, by rw [state], kept⟩
      · exact ⟨rfl, rfl, kept⟩

theorem Agrees.recordOutcome (agrees : Agrees last left right)
    (later : last ≤ now) (ok : Bool) :
    (right.recordOutcome ok now).2 = (left.recordOutcome ok now).2 ∧
      Agrees now (left.recordOutcome ok now).1
        (right.recordOutcome ok now).1 := by
  have sampled := agrees.sample later ok
  have kept := agrees.kept later
  have rest := agrees.rest
  have same : right.state = left.state := by rw [rest]
  cases state : left.state with
  | closed =>
      rw [state] at same
      simp only [CircuitBreaker.recordOutcome, state, same, sampled]
      exact ⟨trivial, .refl now _⟩
  | opened =>
      rw [state] at same
      simp only [CircuitBreaker.recordOutcome, state, same]
      exact ⟨trivial, rest, kept⟩
  | halfOpen =>
      rw [state] at same
      simp only [CircuitBreaker.recordOutcome, state, same]
      rw [rest]
      cases ok with
      | true => exact ⟨rfl, rfl, fun _ _ => rfl⟩
      | false => exact ⟨rfl, rfl, kept⟩

end PaymentQueue.CircuitBreaker
