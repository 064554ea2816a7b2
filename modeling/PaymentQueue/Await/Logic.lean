import PaymentQueue.Await.Program

/-!
# A rely/guarantee logic for awaited programs

A `Machine` executes single commands atomically on a shared world; what the
world leaves open (an answer of a remote party, a failure) is resolved by a
`Choice`.  `Program.Safe` is the weakest precondition of a program whose
commands are interleaved with steps of other processes: other steps are
bounded by `rely`, its own steps have to keep the invariant and to stay within
`guarantee`.  The rules below follow the constructors of `Async`.
-/

namespace Await

/-- Atomic execution of commands by the process with a given number. -/
structure Machine (signature : Signature) where
  World : Type
  Choice : Type
  clock : World → Nat
  exec : Nat → (command : signature.Command) → Choice → World →
    Option (Except signature.Error (signature.Result command) × World)

/-- What one process may assume of the others and owes to them.  `allowed`
restricts the runs that are considered, not the program. -/
structure Contract {signature : Signature} (machine : Machine signature) where
  invariant : machine.World → Prop
  rely : machine.World → machine.World → Prop
  guarantee : machine.World → machine.World → Prop
  allowed : signature.Command → machine.Choice → machine.World → Prop

variable {signature : Signature} {machine : Machine signature}
  {contract : Contract machine} {pid : Nat}

/-- One permitted execution of a command, from a world that the invariant
describes. -/
structure Executes (contract : Contract machine) (pid : Nat)
    (command : signature.Command) (before : machine.World)
    (outcome : Except signature.Error (signature.Result command))
    (after : machine.World) : Prop where
  invariant : contract.invariant before
  executed : ∃ choice, contract.allowed command choice before ∧
    machine.exec pid command choice before = some (outcome, after)

/-- The obligation of a step towards the other processes. -/
def Keeps (contract : Contract machine) (before after : machine.World) :
    Prop :=
  contract.invariant after ∧ contract.guarantee before after

/-- A fact that the other processes do not disturb. -/
def Stable (contract : Contract machine) (know : machine.World → Prop) :
    Prop :=
  ∀ first second, contract.rely first second → contract.invariant second →
    know first → know second

/-- One command leads from `know` to `post`, and the step is owed to the
others. -/
def Moves (contract : Contract machine) (pid : Nat)
    (command : signature.Command) (know : machine.World → Prop)
    (post : Except signature.Error (signature.Result command) →
      machine.World → Prop) : Prop :=
  ∀ before outcome after, know before →
    Executes contract pid command before outcome after →
    Keeps contract before after ∧ post outcome after

namespace Program

variable {α β : Type}

def Safe (contract : Contract machine) (pid : Nat)
    (post : α → machine.World → Prop) :
    Program signature α → machine.World → Prop
  | .done value, world => post value world
  | .await command resume, world =>
      ∀ before outcome after, contract.rely world before →
        Executes contract pid command before outcome after →
        Keeps contract before after ∧
          (resume (machine.clock before) outcome).Safe contract pid post after

theorem Safe.mono {post post' : α → machine.World → Prop}
    {program : Program signature α} {world : machine.World}
    (safe : program.Safe contract pid post world)
    (implies : ∀ value final, post value final → post' value final) :
    program.Safe contract pid post' world := by
  induction program generalizing world with
  | done value => exact implies value world safe
  | await command resume induction =>
      intro before outcome after interfered execution
      obtain ⟨keeps, rest⟩ := safe before outcome after interfered execution
      exact ⟨keeps, induction _ _ rest⟩

/-- Where every step is allowed and nothing is asked of the result, every
program is safe. -/
theorem safe_of_unconditional {post : α → machine.World → Prop}
    (keeps : ∀ before after, Keeps contract before after)
    (ends : ∀ value final, post value final) (program : Program signature α)
    (world : machine.World) : program.Safe contract pid post world := by
  induction program generalizing world with
  | done value => exact ends value world
  | await command resume induction =>
      exact fun before _ after _ _ => ⟨keeps before after, induction _ _ after⟩

theorem safe_bind_iff {post : β → machine.World → Prop}
    (program : Program signature α) (next : α → Program signature β)
    (world : machine.World) :
    (program.bind next).Safe contract pid post world ↔
      program.Safe contract pid (fun value current =>
        (next value).Safe contract pid post current) world := by
  induction program generalizing world with
  | done value => exact Iff.rfl
  | await command resume induction =>
      simp only [await_bind, Safe, induction]

/-- A suspended program stays safe while others take steps. -/
theorem Safe.interfere {post : α → machine.World → Prop}
    {command : signature.Command}
    {resume : Nat → Except signature.Error (signature.Result command) →
      Program signature α} {world later : machine.World}
    (safe : (Program.await command resume).Safe contract pid post world)
    (trans : ∀ {first second third}, contract.rely first second →
      contract.rely second third → contract.rely first third)
    (interfered : contract.rely world later) :
    (Program.await command resume).Safe contract pid post later := by
  intro before outcome after step execution
  exact safe before outcome after (trans interfered step) execution

/-- The executions of a program by one process, in surroundings that move
within `rely` between its commands. -/
inductive Completes (contract : Contract machine) (pid : Nat) :
    Program signature α → machine.World → α → machine.World → Prop where
  | done (value : α) (world : machine.World) :
      Completes contract pid (.done value) world value world
  | await {command : signature.Command}
      {resume : Nat → Except signature.Error (signature.Result command) →
        Program signature α}
      {world before after final : machine.World} {choice : machine.Choice}
      {outcome : Except signature.Error (signature.Result command)}
      {value : α} :
      contract.rely world before → contract.allowed command choice before →
      machine.exec pid command choice before = some (outcome, after) →
      Completes contract pid (resume (machine.clock before) outcome) after
        value final →
      Completes contract pid (.await command resume) world value final

/-- Executions depend only on what the others do and on the allowed
choices. -/
theorem Completes.mono {larger : Contract machine}
    {program : Program signature α} {world final : machine.World} {value : α}
    (completes : Completes contract pid program world value final)
    (moves : ∀ first second, contract.rely first second →
      larger.rely first second)
    (allows : ∀ command choice world, contract.allowed command choice world →
      larger.allowed command choice world) :
    Completes larger pid program world value final := by
  induction completes with
  | done value world => exact .done value world
  | await moved allowed executed _ induction =>
      exact .await (moves _ _ moved) (allows _ _ _ allowed) executed induction

/-- What neither the others nor a command can destroy holds to the end. -/
theorem Completes.keeps {fact : machine.World → Prop}
    {program : Program signature α} {world final : machine.World} {value : α}
    (completes : Completes contract pid program world value final)
    (moved : ∀ first second, contract.rely first second → fact first →
      fact second)
    (stepped : ∀ command choice before outcome after,
      machine.exec pid command choice before = some (outcome, after) →
      fact before → fact after)
    (held : fact world) : fact final := by
  induction completes with
  | done value world => exact held
  | await interfered _ executed _ induction =>
      exact induction (stepped _ _ _ _ _ executed
        (moved _ _ interfered held))

/-- The executions of one program after another. -/
theorem completes_bind_iff {program : Program signature α}
    {next : α → Program signature β} {world final : machine.World}
    {value : β} :
    Completes contract pid (program.bind next) world value final ↔
      ∃ result middle, Completes contract pid program world result middle ∧
        Completes contract pid (next result) middle value final := by
  constructor
  · intro completes
    induction program generalizing world with
    | done result => exact ⟨result, world, .done result world, completes⟩
    | await command resume induction =>
        rw [await_bind] at completes
        cases completes with
        | await moved allowed executed rest =>
            obtain ⟨result, middle, first, second⟩ := induction _ _ rest
            exact ⟨result, middle, .await moved allowed executed first, second⟩
  · rintro ⟨result, middle, first, second⟩
    induction first with
    | done result world => exact second
    | await moved allowed executed _ induction =>
        exact .await moved allowed executed (induction second)

/-- A safe program keeps the invariant and ends where its postcondition
says. -/
theorem Safe.ends {post : α → machine.World → Prop}
    {program : Program signature α} {world final : machine.World} {value : α}
    (safe : program.Safe contract pid post world)
    (kept : ∀ first second, contract.invariant first →
      contract.rely first second → contract.invariant second)
    (inv : contract.invariant world)
    (completes : Completes contract pid program world value final) :
    contract.invariant final ∧ post value final := by
  induction completes with
  | done value world => exact ⟨inv, safe⟩
  | await moved allowed executed _ induction =>
      obtain ⟨keeps, rest⟩ := safe _ _ _ moved
        ⟨kept _ _ inv moved, _, allowed, executed⟩
      exact induction rest keeps.1

theorem Safe.completes {post : α → machine.World → Prop}
    {program : Program signature α} {world final : machine.World} {value : α}
    (safe : program.Safe contract pid post world)
    (kept : ∀ first second, contract.invariant first →
      contract.rely first second → contract.invariant second)
    (inv : contract.invariant world)
    (completes : Completes contract pid program world value final) :
    post value final :=
  (safe.ends kept inv completes).2

/-- Execute a program with given choices, checking each of them. -/
def complete (machine : Machine signature) (pid : Nat)
    (permits : signature.Command → machine.Choice → Bool) :
    Program signature α → List machine.Choice → machine.World →
      Option (α × machine.World)
  | .done value, [], world => some (value, world)
  | .await command resume, choice :: rest, world =>
      if permits command choice = true then
        match machine.exec pid command choice world with
        | some (outcome, after) =>
            complete machine pid permits
              (resume (machine.clock world) outcome) rest after
        | none => none
      else none
  | _, _, _ => none

/-- The same with a check that may look at the world. -/
def execute (machine : Machine signature) (pid : Nat)
    (permits : signature.Command → machine.Choice → machine.World → Bool) :
    Program signature α → List machine.Choice → machine.World →
      Option (α × machine.World)
  | .done value, [], world => some (value, world)
  | .await command resume, choice :: rest, world =>
      if permits command choice world = true then
        match machine.exec pid command choice world with
        | some (outcome, after) =>
            execute machine pid permits
              (resume (machine.clock world) outcome) rest after
        | none => none
      else none
  | _, _, _ => none

private theorem complete_eq_execute
    (permits : signature.Command → machine.Choice → Bool)
    (program : Program signature α) (choices : List machine.Choice)
    (world : machine.World) :
    program.complete machine pid permits choices world =
      program.execute machine pid (fun command choice _ =>
        permits command choice) choices world := by
  induction program generalizing choices world with
  | done value => cases choices <;> rfl
  | await command resume induction =>
      cases choices with
      | nil => rfl
      | cons choice rest => simp only [complete, execute, induction]

theorem completes_of_execute
    {permits : signature.Command → machine.Choice → machine.World → Bool}
    (still : ∀ world, contract.rely world world)
    (allows : ∀ command choice world, permits command choice world = true →
      contract.allowed command choice world)
    {program : Program signature α} {choices : List machine.Choice}
    {world final : machine.World} {value : α}
    (executed : program.execute machine pid permits choices world =
      some (value, final)) :
    Completes contract pid program world value final := by
  induction program generalizing choices world with
  | done value =>
      cases choices with
      | nil =>
          cases executed
          exact .done _ _
      | cons choice rest => cases executed
  | await command resume induction =>
      cases choices with
      | nil => cases executed
      | cons choice rest =>
          rw [execute] at executed
          split at executed
          case isTrue permitted =>
            split at executed
            case h_1 outcome after moved =>
              exact .await (still world) (allows _ _ _ permitted) moved
                (induction _ _ executed)
            case h_2 => cases executed
          case isFalse => cases executed

theorem completes_of_complete
    {permits : signature.Command → machine.Choice → Bool}
    (still : ∀ world, contract.rely world world)
    (allows : ∀ command choice world, permits command choice = true →
      contract.allowed command choice world)
    {program : Program signature α} {choices : List machine.Choice}
    {world final : machine.World} {value : α}
    (completed : program.complete machine pid permits choices world =
      some (value, final)) :
    Completes contract pid program world value final := by
  rw [complete_eq_execute] at completed
  exact completes_of_execute still allows completed

end Program

namespace Async

variable {locals inner α β : Type}

/-- A function body is safe from given local variables, whatever the clock
value of the call is. -/
def Safe (contract : Contract machine) (pid : Nat)
    (post : Except signature.Error α → locals → machine.World → Prop)
    (body : Async signature locals α) (vars : locals)
    (world : machine.World) : Prop :=
  ∀ time, (body time vars).Safe contract pid
    (fun final current => post final.outcome final.locals current) world

variable {post : Except signature.Error α → locals → machine.World → Prop}
  {vars : locals} {world : machine.World}

theorem Safe.mono
    {post' : Except signature.Error α → locals → machine.World → Prop}
    {body : Async signature locals α}
    (safe : Safe contract pid post body vars world)
    (implies : ∀ outcome left final, post outcome left final →
      post' outcome left final) :
    Safe contract pid post' body vars world :=
  fun time => (safe time).mono fun final current =>
    implies final.outcome final.locals current

theorem safe_pure {value : α} (held : post (.ok value) vars world) :
    Safe contract pid post (Pure.pure value) vars world :=
  fun _ => held

theorem safe_throw {error : signature.Error}
    (held : post (.error error) vars world) :
    Safe contract pid post (throw error) vars world :=
  fun _ => held

theorem safe_await {command : signature.Command}
    {post : Except signature.Error (signature.Result command) → locals →
      machine.World → Prop}
    (step : ∀ before outcome after, contract.rely world before →
      Executes contract pid command before outcome after →
      Keeps contract before after ∧ post outcome vars after) :
    Safe contract pid post (await command) vars world :=
  fun _ before outcome after => step before outcome after

/-- The rule for a command in a proof outline. -/
theorem safe_moves {command : signature.Command}
    {know : machine.World → Prop}
    {post : Except signature.Error (signature.Result command) → locals →
      machine.World → Prop}
    {result : Except signature.Error (signature.Result command) →
      machine.World → Prop}
    (moves : Moves contract pid command know result)
    (stable : Stable contract know) (known : know world)
    (implies : ∀ outcome final, result outcome final →
      post outcome vars final) :
    Safe contract pid post (await command) vars world := by
  apply safe_await
  intro before outcome after interfered execution
  have knownBefore : know before :=
    stable world before interfered execution.invariant known
  obtain ⟨keeps, reached⟩ := moves before outcome after knownBefore execution
  exact ⟨keeps, implies outcome after reached⟩

theorem safe_dateNow
    {post : Except signature.Error Nat → locals → machine.World → Prop}
    (held : ∀ time, post (.ok time) vars world) :
    Safe contract pid post dateNow vars world :=
  fun time => held time

theorem safe_get
    {post : Except signature.Error locals → locals → machine.World → Prop}
    (held : post (.ok vars) vars world) :
    Safe contract pid post get vars world :=
  fun _ => held

theorem safe_modify
    {post : Except signature.Error Unit → locals → machine.World → Prop}
    {change : locals → locals}
    (held : post (.ok ()) (change vars) world) :
    Safe contract pid post (modify change) vars world :=
  fun _ => held

theorem safe_bind
    {post : Except signature.Error β → locals → machine.World → Prop}
    {action : Async signature locals α}
    {next : α → Async signature locals β}
    (first : Safe contract pid (fun outcome left current =>
      match outcome with
      | .ok value => Safe contract pid post (next value) left current
      | .error error => post (.error error) left current)
      action vars world) :
    Safe contract pid post (action >>= next) vars world := by
  intro time
  refine (Program.safe_bind_iff _ _ _).mpr ((first time).mono ?_)
  intro final current held
  cases outcome : final.outcome with
  | ok value =>
      simp only [outcome] at held
      exact held final.time
  | error error => simpa only [outcome, Program.Safe] using held

/-- The same rule where the clock value at the end matters. -/
theorem safe_bind_timed {time : Nat}
    {post : Final signature.Error locals β → machine.World → Prop}
    {action : Async signature locals α}
    {next : α → Async signature locals β}
    (first : (action time vars).Safe contract pid (fun final current =>
      match final.outcome with
      | .ok value =>
          (next value final.time final.locals).Safe contract pid post current
      | .error error => post ⟨.error error, final.time, final.locals⟩ current)
      world) :
    ((action >>= next) time vars).Safe contract pid post world := by
  refine (Program.safe_bind_iff _ _ _).mpr (first.mono ?_)
  intro final current held
  cases outcome : final.outcome with
  | ok value => simpa only [outcome] using held
  | error error => simpa only [outcome, Program.Safe] using held

theorem safe_tryCatch {body : Async signature locals α}
    {handler : signature.Error → Async signature locals α}
    (first : Safe contract pid (fun outcome left current =>
      match outcome with
      | .ok value => post (.ok value) left current
      | .error error => Safe contract pid post (handler error) left current)
      body vars world) :
    Safe contract pid post (tryCatch body handler) vars world := by
  intro time
  refine (Program.safe_bind_iff _ _ _).mpr ((first time).mono ?_)
  intro final current held
  cases outcome : final.outcome with
  | ok value => simpa only [outcome, Program.Safe] using held
  | error error =>
      simp only [outcome] at held
      exact held final.time

theorem safe_tryFinally {body : Async signature locals α}
    {cleanup : Async signature locals Unit}
    (first : Safe contract pid (fun outcome left current =>
      Safe contract pid (fun cleaned last final =>
        match cleaned with
        | .ok _ => post outcome last final
        | .error error => post (.error error) last final)
        cleanup left current)
      body vars world) :
    Safe contract pid post (tryFinally body cleanup) vars world := by
  intro time
  refine (Program.safe_bind_iff _ _ _).mpr ((first time).mono ?_)
  intro final current held
  refine (Program.safe_bind_iff _ _ _).mpr ((held final.time).mono ?_)
  intro cleaned last ended
  cases outcome : cleaned.outcome with
  | ok value => simpa only [outcome, Program.Safe] using ended
  | error error => simpa only [outcome, Program.Safe] using ended

theorem safe_scope {body : Async signature inner α} {initial : inner}
    (first : Safe contract pid
      (fun outcome _ current => post outcome vars current)
      body initial world) :
    Safe contract pid post (scope initial body) vars world := by
  intro time
  exact (Program.safe_bind_iff _ _ _).mpr (first time)

/-- A safe body gives a safe program when it is started as a process. -/
theorem Safe.start {body : Async signature Unit α}
    {result : Except signature.Error α → machine.World → Prop}
    (safe : Safe contract pid (fun outcome _ final => result outcome final)
      body () world) (time : Nat) :
    (body.start time).Safe contract pid result world :=
  (Program.safe_bind_iff _ _ _).mpr (safe time)

variable {held : locals → machine.World → Prop}

/-- The body keeps a relation between its variables and the world, however it
ends. -/
def Maintains (contract : Contract machine) (pid : Nat)
    (held : locals → machine.World → Prop)
    (body : Async signature locals α) : Prop :=
  ∀ vars world, held vars world →
    Safe contract pid (fun _ left current => held left current) body vars world

theorem maintains_pure (value : α) :
    Maintains contract pid held (Pure.pure value) :=
  fun _ _ holds => safe_pure holds

theorem maintains_throw (error : signature.Error) :
    Maintains contract pid held (throw error : Async signature locals α) :=
  fun _ _ holds => safe_throw holds

theorem maintains_dateNow :
    Maintains contract pid held (dateNow : Async signature locals Nat) :=
  fun _ _ holds => safe_dateNow fun _ => holds

theorem maintains_get :
    Maintains contract pid held (get : Async signature locals locals) :=
  fun _ _ holds => safe_get holds

theorem maintains_modify {change : locals → locals}
    (kept : ∀ vars world, held vars world → held (change vars) world) :
    Maintains contract pid held (modify change : Async signature locals Unit) :=
  fun vars world holds => safe_modify (kept vars world holds)

theorem maintains_await {command : signature.Command}
    (moves : ∀ vars, Moves contract pid command (held vars)
      (fun _ => held vars))
    (stable : ∀ vars, Stable contract (held vars)) :
    Maintains contract pid held (await command : Async signature locals _) :=
  fun vars _ holds =>
    safe_moves (moves vars) (stable vars) holds fun _ _ reached => reached

/-- A statement that keeps the relation, followed by the rest of the body. -/
theorem Maintains.followed {post : Except signature.Error β → locals →
      machine.World → Prop}
    {action : Async signature locals α} {next : α → Async signature locals β}
    (first : Maintains contract pid held action) (holds : held vars world)
    (rest : ∀ value left current, held left current →
      Safe contract pid post (next value) left current)
    (fails : ∀ error left current, held left current →
      post (.error error) left current) :
    Safe contract pid post (action >>= next) vars world := by
  refine safe_bind ((first vars world holds).mono ?_)
  intro outcome left current kept
  cases outcome with
  | ok value => exact rest value left current kept
  | error error => exact fails error left current kept

theorem maintains_bind {action : Async signature locals α}
    {next : α → Async signature locals β}
    (first : Maintains contract pid held action)
    (rest : ∀ value, Maintains contract pid held (next value)) :
    Maintains contract pid held (action >>= next) :=
  fun _ _ holds => first.followed holds rest fun _ _ _ kept => kept

theorem maintains_tryCatch {body : Async signature locals α}
    {handler : signature.Error → Async signature locals α}
    (first : Maintains contract pid held body)
    (handled : ∀ error, Maintains contract pid held (handler error)) :
    Maintains contract pid held (tryCatch body handler) := by
  intro vars world holds
  refine safe_tryCatch ((first vars world holds).mono ?_)
  intro outcome left current kept
  cases outcome with
  | ok value => exact kept
  | error error => exact handled error left current kept

end Async

end Await
