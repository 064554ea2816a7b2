import PaymentQueue.Await.System

/-!
# Footprints of whole systems

`Program.Uses` says which commands a program issues as long as the replies are
those of a footprint.  When permitted commands keep an invariant of the world,
and a world with the invariant gives only the replies of the footprint, both
hold in every run: no other process is looked at, so nothing has to be stable.
-/

namespace Await

variable {signature : Signature} {system : System signature}

/-- What the footprint promises of a process. -/
def Thread.Upheld (footprint : Footprint signature)
    (ends : system.Task → system.Output → Prop) : Thread system → Prop
  | .running task program => program.Uses footprint (ends task)
  | .ended task output => ends task output
  | .crashed _ => True

/-- The programs stay within the footprint, and the footprint keeps the
invariant that its replies rest on. -/
structure Upholds (system : System signature)
    (admits : Config system → Label system → Prop)
    (footprint : Footprint signature)
    (ends : system.Task → system.Output → Prop)
    (invariant : system.World → Prop) : Prop where
  codes : ∀ config task, invariant config.world →
    admits config (.spawn task) →
    (system.code task (system.clock config.world)).Uses footprint (ends task)
  executes : ∀ config pid choice command outcome after,
    invariant config.world → admits config (.run pid choice) →
    footprint.permitted command →
    system.exec pid command choice config.world = some (outcome, after) →
    footprint.replies command outcome ∧ invariant after
  environments : ∀ config event after, invariant config.world →
    admits config (.environment event) →
    system.environment event config.world = some after → invariant after

/-- The invariant holds, and every process is within the footprint. -/
structure Upheld (footprint : Footprint signature)
    (ends : system.Task → system.Output → Prop)
    (invariant : system.World → Prop) (config : Config system) : Prop where
  invariant : invariant config.world
  threads : ∀ thread ∈ config.threads, thread.Upheld footprint ends

variable {admits : Config system → Label system → Prop}
  {footprint : Footprint signature}
  {ends : system.Task → system.Output → Prop}
  {invariant : system.World → Prop} {config next : Config system}

theorem Thread.upheld_resume {task : system.Task}
    {program : Program signature system.Output}
    (uses : program.Uses footprint (ends task)) :
    (Thread.resume task program).Upheld footprint ends := by
  cases program with
  | done output => exact uses
  | await command resume => exact uses

namespace Upholds

variable (upholds : Upholds system admits footprint ends invariant)

include upholds

theorem step {label : Label system}
    (upheld : Upheld footprint ends invariant config)
    (admitted : admits config label)
    (taken : system.step label config = some next) :
    Upheld footprint ends invariant next := by
  cases label with
  | spawn task =>
      cases taken
      refine ⟨upheld.invariant, ?_⟩
      intro thread member
      rcases List.mem_append.mp member with old | new
      · exact upheld.threads thread old
      · obtain rfl := List.mem_singleton.mp new
        exact Thread.upheld_resume
          (upholds.codes config task upheld.invariant admitted)
  | run pid choice =>
      obtain ⟨task, command, resume, outcome, after, found, executed, rfl⟩ :=
        System.step_run_eq_some taken
      obtain ⟨permitted, rest⟩ :=
        upheld.threads _ (List.mem_of_getElem? found)
      obtain ⟨replied, kept⟩ := upholds.executes config pid choice command
        outcome after upheld.invariant admitted permitted executed
      refine ⟨kept, ?_⟩
      intro thread member
      rcases List.mem_or_eq_of_mem_set member with old | rfl
      · exact upheld.threads thread old
      · exact Thread.upheld_resume (rest _ outcome replied)
  | crash pid =>
      obtain ⟨task, program, found, rfl⟩ := System.step_crash_eq_some taken
      refine ⟨upheld.invariant, ?_⟩
      intro thread member
      rcases List.mem_or_eq_of_mem_set member with old | rfl
      · exact upheld.threads thread old
      · exact trivial
  | environment event =>
      obtain ⟨after, changed, rfl⟩ := System.step_environment_eq_some taken
      exact ⟨upholds.environments config event after upheld.invariant admitted
        changed, upheld.threads⟩

/-- The invariant and the footprints hold in every reachable configuration. -/
theorem reaches {start : Config system}
    (upheld : Upheld footprint ends invariant start)
    (reached : system.Reaches admits start config) :
    Upheld footprint ends invariant config :=
  reached.invariant upheld fun _ _ _ held admitted taken =>
    upholds.step held admitted taken

end Upholds

/-- Before any process is started, only the invariant is at stake. -/
theorem upheld_nil {world : system.World} (kept : invariant world) :
    Upheld footprint ends invariant (⟨world, []⟩ : Config system) :=
  ⟨kept, fun _ member => by cases member⟩

/-- The command a process is suspended at is permitted. -/
theorem Upheld.permitted (upheld : Upheld footprint ends invariant config)
    {pid : Nat} {task : system.Task} {command : signature.Command}
    {resume : Nat → Except signature.Error (signature.Result command) →
      Program signature system.Output}
    (found : config.threads[pid]? =
      some (.running task (.await command resume))) :
    footprint.permitted command :=
  (upheld.threads _ (List.mem_of_getElem? found)).1

/-- What a process ended with is what its program promises. -/
theorem Upheld.ended (upheld : Upheld footprint ends invariant config)
    {pid : Nat} {task : system.Task} {output : system.Output}
    (found : config.threads[pid]? = some (.ended task output)) :
    ends task output :=
  upheld.threads _ (List.mem_of_getElem? found)

namespace Async

variable {locals inner α β : Type} {footprint : Footprint signature}
  {inside : locals → Prop}

/-- The body stays within the footprint and keeps a property of the local
variables, however it ends. -/
def Stays (footprint : Footprint signature) (inside : locals → Prop)
    (body : Async signature locals α) : Prop :=
  ∀ vars, inside vars → Uses footprint (fun _ left => inside left) body vars

theorem stays_pure (value : α) :
    Stays footprint inside (Pure.pure value : Async signature locals α) :=
  fun _ held => uses_pure held

theorem stays_throw (error : signature.Error) :
    Stays footprint inside (throw error : Async signature locals α) :=
  fun _ held => uses_throw held

theorem stays_dateNow :
    Stays footprint inside (dateNow : Async signature locals Nat) :=
  fun _ held => uses_dateNow fun _ => held

theorem stays_await {command : signature.Command}
    (permitted : footprint.permitted command) :
    Stays footprint inside (await command : Async signature locals _) :=
  fun _ held => uses_await permitted fun _ _ => held

theorem stays_modify {change : locals → locals}
    (kept : ∀ vars, inside vars → inside (change vars)) :
    Stays footprint inside (modify change) :=
  fun vars held => uses_modify (kept vars held)

theorem stays_bind {action : Async signature locals α}
    {next : α → Async signature locals β}
    (first : Stays footprint inside action)
    (rest : ∀ value, Stays footprint inside (next value)) :
    Stays footprint inside (action >>= next) := by
  intro vars held
  refine uses_bind ((first vars held).imp ?_)
  intro outcome left kept
  cases outcome with
  | ok value => exact rest value left kept
  | error error => exact kept

/-- What is read satisfies what is known of the variables. -/
theorem stays_get_bind {next : locals → Async signature locals β}
    (rest : ∀ vars, inside vars → Stays footprint inside (next vars)) :
    Stays footprint inside (get >>= next) := by
  intro vars held
  exact uses_bind (uses_get (rest vars held vars held))

theorem stays_tryCatch {body : Async signature locals α}
    {handler : signature.Error → Async signature locals α}
    (first : Stays footprint inside body)
    (handled : ∀ error, Stays footprint inside (handler error)) :
    Stays footprint inside (tryCatch body handler) := by
  intro vars held
  refine uses_tryCatch ((first vars held).imp ?_)
  intro outcome left kept
  cases outcome with
  | ok value => exact kept
  | error error => exact handled error left kept

theorem stays_tryFinally {body : Async signature locals α}
    {cleanup : Async signature locals Unit}
    (first : Stays footprint inside body)
    (last : Stays footprint inside cleanup) :
    Stays footprint inside (tryFinally body cleanup) := by
  intro vars held
  refine uses_tryFinally ((first vars held).imp ?_)
  intro outcome left kept
  refine (last left kept).imp ?_
  intro cleaned left' kept'
  cases cleaned with
  | ok _ => exact kept'
  | error _ => exact kept'

theorem stays_scope {within : inner → Prop} {initial : inner}
    {body : Async signature inner α} (entered : within initial)
    (first : Stays footprint within body) :
    Stays footprint inside
      (scope initial body : Async signature locals α) := by
  intro vars held
  exact uses_scope ((first initial entered).imp fun _ _ _ => held)

/-- The program of a body that is started as a process. -/
theorem Stays.start {body : Async signature Unit α}
    (stays : Stays footprint (fun _ => True) body) (time : Nat) :
    (body.start time).Uses footprint fun _ => True :=
  (Program.uses_bind_iff _ _).mpr
    ((stays () trivial time).imp fun _ _ => trivial)

end Async

end Await
