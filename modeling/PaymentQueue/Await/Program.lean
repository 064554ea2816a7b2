import Mathlib.Logic.Function.Basic

/-!
# Programs of awaited commands

An asynchronous function suspends at every `await` and is resumed with the
clock value at that moment and with the outcome of the awaited command: a
value, or an error that is thrown at the `await`.  Between two suspensions it
runs without interruption.  `Program` is the tree of these suspensions and
`Async` the monad of functions that also own mutable local variables; the
locals survive a thrown error, as they do in a language with references.

The module fixes no set of commands.  A `Signature` names the commands, the
type of value each returns, and the type of errors.
-/

namespace Await

/-- The commands an asynchronous function may await. -/
structure Signature where
  Command : Type
  Result : Command → Type
  Error : Type

/-- A computation that is finished, or suspended at a command together with
what it does for every clock value and outcome it may be resumed with. -/
inductive Program (signature : Signature) (α : Type) : Type where
  | done (value : α)
  | await (command : signature.Command)
      (resume : Nat → Except signature.Error (signature.Result command) →
        Program signature α)

/-- The commands a piece of code may await, and the replies that are taken
into account for each of them. -/
structure Footprint (signature : Signature) where
  permitted : signature.Command → Prop
  replies : (command : signature.Command) →
    Except signature.Error (signature.Result command) → Prop

/-- Smaller footprints permit fewer commands and consider at least the same
replies. -/
def Footprint.Within {signature : Signature}
    (smaller larger : Footprint signature) : Prop :=
  ∀ command, smaller.permitted command →
    larger.permitted command ∧ ∀ outcome, larger.replies command outcome →
      smaller.replies command outcome

namespace Program

variable {signature : Signature} {α β : Type}

def bind : Program signature α → (α → Program signature β) →
    Program signature β
  | .done value, next => next value
  | .await command resume, next =>
      .await command fun time outcome => (resume time outcome).bind next

@[simp] theorem done_bind (value : α) (next : α → Program signature β) :
    (Program.done value).bind next = next value := rfl

@[simp] theorem await_bind (command : signature.Command)
    (resume : Nat → Except signature.Error (signature.Result command) →
      Program signature α)
    (next : α → Program signature β) :
    (Program.await command resume).bind next =
      .await command fun time outcome => (resume time outcome).bind next := rfl

/-- Every command the program can reach is permitted, and every value it can
end with satisfies `result`, as long as the replies are those considered. -/
def Uses (footprint : Footprint signature) (result : α → Prop) :
    Program signature α → Prop
  | .done value => result value
  | .await command resume =>
      footprint.permitted command ∧ ∀ time outcome,
        footprint.replies command outcome →
        (resume time outcome).Uses footprint result

theorem Uses.mono {footprint larger : Footprint signature}
    {result result' : α → Prop} {program : Program signature α}
    (uses : program.Uses footprint result)
    (within : footprint.Within larger)
    (values : ∀ value, result value → result' value) :
    program.Uses larger result' := by
  induction program with
  | done value => exact values value uses
  | await command resume induction =>
      obtain ⟨permitted, replies⟩ := within command uses.1
      refine ⟨permitted, ?_⟩
      intro time outcome considered
      exact induction time outcome
        (uses.2 time outcome (replies outcome considered))

theorem Uses.imp {footprint : Footprint signature}
    {result result' : α → Prop} {program : Program signature α}
    (uses : program.Uses footprint result)
    (values : ∀ value, result value → result' value) :
    program.Uses footprint result' :=
  uses.mono (fun _ permitted => ⟨permitted, fun _ considered => considered⟩)
    values

/-- The program ends after at most so many awaits, whatever their outcomes. -/
def Within : Nat → Program signature α → Prop
  | _, .done _ => True
  | 0, .await _ _ => False
  | count + 1, .await _ resume =>
      ∀ time outcome, Within count (resume time outcome)

theorem Within.mono {count larger : Nat} {program : Program signature α}
    (within : program.Within count) (bounded : count ≤ larger) :
    program.Within larger := by
  induction program generalizing count larger with
  | done value => cases larger <;> exact trivial
  | await command resume induction =>
      cases count with
      | zero => exact within.elim
      | succ count =>
          cases larger with
          | zero => omega
          | succ larger =>
              intro time outcome
              exact induction time outcome (within time outcome) (by omega)

theorem Within.bind {first second : Nat} {program : Program signature α}
    {next : α → Program signature β} (within : program.Within first)
    (rest : ∀ value, (next value).Within second) :
    (program.bind next).Within (first + second) := by
  induction program generalizing first with
  | done value => exact (rest value).mono (by omega)
  | await command resume induction =>
      cases first with
      | zero => exact within.elim
      | succ first =>
          rw [Nat.succ_add]
          intro time outcome
          exact induction time outcome (within time outcome)

theorem uses_bind_iff {footprint : Footprint signature}
    {result : β → Prop} (program : Program signature α)
    (next : α → Program signature β) :
    (program.bind next).Uses footprint result ↔
      program.Uses footprint fun value =>
        (next value).Uses footprint result := by
  induction program with
  | done value => exact Iff.rfl
  | await command resume induction =>
      simp only [await_bind, Uses, induction]

end Program

/-- How an asynchronous function ends: with a value or a thrown error, at
some clock value, leaving its local variables behind. -/
structure Final (error locals α : Type) where
  outcome : Except error α
  time : Nat
  locals : locals

/-- An asynchronous function body over mutable local variables.  Its
arguments are the clock value and the variables at the point of the call. -/
def Async (signature : Signature) (locals α : Type) : Type :=
  Nat → locals → Program signature (Final signature.Error locals α)

namespace Async

variable {signature : Signature} {locals inner α β : Type}

def pure (value : α) : Async signature locals α :=
  fun time vars => .done ⟨.ok value, time, vars⟩

def throw (error : signature.Error) : Async signature locals α :=
  fun time vars => .done ⟨.error error, time, vars⟩

def bind (action : Async signature locals α)
    (next : α → Async signature locals β) : Async signature locals β :=
  fun time vars =>
    (action time vars).bind fun final =>
      match final.outcome with
      | .ok value => next value final.time final.locals
      | .error error => .done ⟨.error error, final.time, final.locals⟩

instance : Monad (Async signature locals) where
  pure := Async.pure
  bind := Async.bind

/-- Suspend at one command and rethrow its error, if it has one. -/
def await (command : signature.Command) :
    Async signature locals (signature.Result command) :=
  fun _ vars =>
    .await command fun time outcome => .done ⟨outcome, time, vars⟩

/-- The clock value at which the code since the last suspension runs. -/
def dateNow : Async signature locals Nat :=
  fun time vars => .done ⟨.ok time, time, vars⟩

def get : Async signature locals locals :=
  fun time vars => .done ⟨.ok vars, time, vars⟩

def modify (change : locals → locals) : Async signature locals Unit :=
  fun time vars => .done ⟨.ok (), time, change vars⟩

/-- `try { body } catch (error) { handler error }`. -/
def tryCatch (body : Async signature locals α)
    (handler : signature.Error → Async signature locals α) :
    Async signature locals α :=
  fun time vars =>
    (body time vars).bind fun final =>
      match final.outcome with
      | .ok value => .done ⟨.ok value, final.time, final.locals⟩
      | .error error => handler error final.time final.locals

/-- `try { body } finally { cleanup }`: an error of the cleanup replaces
whatever the body ended with. -/
def tryFinally (body : Async signature locals α)
    (cleanup : Async signature locals Unit) : Async signature locals α :=
  fun time vars =>
    (body time vars).bind fun final =>
      (cleanup final.time final.locals).bind fun cleaned =>
        match cleaned.outcome with
        | .ok _ => .done ⟨final.outcome, cleaned.time, cleaned.locals⟩
        | .error error => .done ⟨.error error, cleaned.time, cleaned.locals⟩

/-- Run a body that declares its own local variables. -/
def scope (initial : inner) (body : Async signature inner α) :
    Async signature locals α :=
  fun time vars =>
    (body time initial).bind fun final =>
      .done ⟨final.outcome, final.time, vars⟩

/-- The program of a call of the function, with its result only. -/
def start (body : Async signature Unit α) (time : Nat) :
    Program signature (Except signature.Error α) :=
  (body time ()).bind fun final => .done final.outcome

/-- A function body that ends after at most so many awaits. -/
def Within (count : Nat) (body : Async signature locals α) : Prop :=
  ∀ time vars, (body time vars).Within count

section Within

variable {first second : Nat}

theorem within_pure (value : α) :
    Within 0 (Pure.pure value : Async signature locals α) :=
  fun _ _ => trivial

theorem within_throw (error : signature.Error) :
    Within 0 (throw error : Async signature locals α) :=
  fun _ _ => trivial

theorem within_await (command : signature.Command) :
    Within 1 (await command : Async signature locals _) :=
  fun _ _ _ _ => trivial

theorem within_dateNow :
    Within 0 (dateNow : Async signature locals Nat) :=
  fun _ _ => trivial

theorem Within.mono {count larger : Nat} {body : Async signature locals α}
    (within : Within count body) (bounded : count ≤ larger) :
    Within larger body :=
  fun time vars => (within time vars).mono bounded

theorem Within.bind {action : Async signature locals α}
    {next : α → Async signature locals β} (within : Within first action)
    (rest : ∀ value, Within second (next value)) :
    Within (first + second) (action >>= next) := by
  intro time vars
  refine (within time vars).bind fun final => ?_
  cases final.outcome with
  | ok value => exact rest value final.time final.locals
  | error error => cases second <;> exact trivial

theorem Within.tryCatch {body : Async signature locals α}
    {handler : signature.Error → Async signature locals α}
    (within : Within first body)
    (handled : ∀ error, Within second (handler error)) :
    Within (first + second) (tryCatch body handler) := by
  intro time vars
  refine (within time vars).bind fun final => ?_
  cases final.outcome with
  | ok value => cases second <;> exact trivial
  | error error => exact handled error final.time final.locals

theorem Within.start {count : Nat} {body : Async signature Unit α}
    (within : Within count body) (time : Nat) :
    (body.start time).Within count := by
  have ends : ∀ final : Final signature.Error Unit α,
      (Program.done final.outcome : Program signature _).Within 0 :=
    fun _ => trivial
  exact (within time ()).bind ends

end Within

/-- A function body stays within a footprint from given local variables,
whatever the clock value of the call is. -/
def Uses (footprint : Footprint signature)
    (ends : Except signature.Error α → locals → Prop)
    (body : Async signature locals α) (vars : locals) : Prop :=
  ∀ time, (body time vars).Uses footprint fun final =>
    ends final.outcome final.locals

variable {footprint : Footprint signature}
  {ends : Except signature.Error α → locals → Prop} {vars : locals}

/-- Weaken only what is known at the end. -/
theorem Uses.imp {ends' : Except signature.Error α → locals → Prop}
    {body : Async signature locals α}
    (uses : Uses footprint ends body vars)
    (values : ∀ outcome left, ends outcome left → ends' outcome left) :
    Uses footprint ends' body vars :=
  fun time => (uses time).imp fun final =>
    values final.outcome final.locals

theorem uses_pure {value : α} (held : ends (.ok value) vars) :
    Uses footprint ends (Pure.pure value) vars :=
  fun _ => held

theorem uses_throw {error : signature.Error}
    (held : ends (.error error) vars) :
    Uses footprint ends (throw error) vars :=
  fun _ => held

theorem uses_await {command : signature.Command}
    {ends : Except signature.Error (signature.Result command) → locals → Prop}
    (permitted : footprint.permitted command)
    (held : ∀ outcome, footprint.replies command outcome →
      ends outcome vars) :
    Uses footprint ends (await command) vars :=
  fun _ => ⟨permitted, fun _ outcome considered => held outcome considered⟩

theorem uses_dateNow {ends : Except signature.Error Nat → locals → Prop}
    (held : ∀ time, ends (.ok time) vars) :
    Uses footprint ends dateNow vars :=
  fun time => held time

theorem uses_get {ends : Except signature.Error locals → locals → Prop}
    (held : ends (.ok vars) vars) :
    Uses footprint ends get vars :=
  fun _ => held

theorem uses_modify {ends : Except signature.Error Unit → locals → Prop}
    {change : locals → locals} (held : ends (.ok ()) (change vars)) :
    Uses footprint ends (modify change) vars :=
  fun _ => held

theorem uses_bind {β : Type} {ends : Except signature.Error β → locals → Prop}
    {action : Async signature locals α}
    {next : α → Async signature locals β}
    (first : Uses footprint (fun outcome left =>
      match outcome with
      | .ok value => Uses footprint ends (next value) left
      | .error error => ends (.error error) left) action vars) :
    Uses footprint ends (action >>= next) vars := by
  intro time
  refine (Program.uses_bind_iff _ _).mpr ((first time).imp ?_)
  intro final held
  cases outcome : final.outcome with
  | ok value =>
      simp only [outcome] at held
      exact held final.time
  | error error => simpa only [outcome, Program.Uses] using held

theorem uses_tryCatch {body : Async signature locals α}
    {handler : signature.Error → Async signature locals α}
    (first : Uses footprint (fun outcome left =>
      match outcome with
      | .ok value => ends (.ok value) left
      | .error error => Uses footprint ends (handler error) left)
      body vars) :
    Uses footprint ends (tryCatch body handler) vars := by
  intro time
  refine (Program.uses_bind_iff _ _).mpr ((first time).imp ?_)
  intro final held
  cases outcome : final.outcome with
  | ok value => simpa only [outcome, Program.Uses] using held
  | error error =>
      simp only [outcome] at held
      exact held final.time

theorem uses_tryFinally {body : Async signature locals α}
    {cleanup : Async signature locals Unit}
    (first : Uses footprint (fun outcome left =>
      Uses footprint (fun cleaned last =>
        match cleaned with
        | .ok _ => ends outcome last
        | .error error => ends (.error error) last) cleanup left)
      body vars) :
    Uses footprint ends (tryFinally body cleanup) vars := by
  intro time
  refine (Program.uses_bind_iff _ _).mpr ((first time).imp ?_)
  intro final held
  refine (Program.uses_bind_iff _ _).mpr ((held final.time).imp ?_)
  intro cleaned last
  cases outcome : cleaned.outcome with
  | ok value => simpa only [outcome, Program.Uses] using last
  | error error => simpa only [outcome, Program.Uses] using last

theorem uses_scope {body : Async signature inner α} {initial : inner}
    (first : Uses footprint (fun outcome _ => ends outcome vars)
      body initial) :
    Uses footprint ends (scope initial body) vars := by
  intro time
  exact (Program.uses_bind_iff _ _).mpr (first time)

end Async

end Await
