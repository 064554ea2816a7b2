import PaymentQueue.Await.Logic

/-!
# Traces of awaited commands

The machine below executes like the given one and records every command
together with the choice that resolved it.  A statement about how a program
reacts to the outcomes of its commands is a statement about its final value
and its trace.
-/

namespace Await

variable {signature : Signature}

structure Call (machine : Machine signature) where
  command : signature.Command
  choice : machine.Choice

def Machine.traced (machine : Machine signature) : Machine signature where
  World := machine.World × List (Call machine)
  Choice := machine.Choice
  clock := fun state => machine.clock state.1
  exec := fun pid command choice state =>
    (machine.exec pid command choice state.1).map fun result =>
      (result.1, (result.2, state.2 ++ [⟨command, choice⟩]))

/-- Other processes do anything to the world; the trace is the program's
own. -/
def tracing (machine : Machine signature) : Contract machine.traced where
  invariant := fun _ => True
  rely := fun before after => after.2 = before.2
  guarantee := fun _ _ => True
  allowed := fun _ _ _ => True

variable {machine : Machine signature} {pid : Nat} {locals α : Type}

/-- The rule for a command: the trace grows by one call. -/
theorem Async.safe_call {command : signature.Command} {vars : locals}
    {world : machine.World} {trace : List (Call machine)}
    {post : Except signature.Error (signature.Result command) → locals →
      machine.World × List (Call machine) → Prop}
    (step : ∀ choice before outcome after,
      machine.exec pid command choice before = some (outcome, after) →
      post outcome vars (after, trace ++ [⟨command, choice⟩])) :
    Async.Safe (tracing machine) pid post (Async.await command) vars
      (world, trace) := by
  apply Async.safe_await
  rintro ⟨before, earlier⟩ outcome ⟨after, later⟩ kept
    ⟨-, choice, -, executed⟩
  cases kept
  obtain ⟨result, underlying, same⟩ := Option.map_eq_some_iff.mp executed
  cases same
  exact ⟨⟨trivial, trivial⟩, step choice before _ _ underlying⟩

/-- A safe body ends where its postcondition says. -/
theorem Async.Safe.completes_traced {body : Async signature locals α}
    {vars : locals} {world after : machine.World}
    {trace : List (Call machine)}
    {post : Except signature.Error α → locals →
      machine.World × List (Call machine) → Prop}
    {time : Nat} {final : Final signature.Error locals α}
    (safe : Async.Safe (tracing machine) pid post body vars (world, []))
    (completes : Program.Completes (tracing machine) pid
      (body time vars) (world, []) final (after, trace)) :
    post final.outcome final.locals (after, trace) :=
  (safe time).completes (fun _ _ _ _ => trivial) trivial completes

end Await
