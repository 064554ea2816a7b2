import PaymentQueue.Await.System

/-!
# Commands and the clock

A program computes its next command at the clock value at which it was
resumed, and the command is executed at a later one.  `Program.Timely` bounds
the commands by the clock values of their execution, for every clock that does
not go back between two suspensions.  `System.ThreadTimely.reaches` carries
this through the interleavings of a system.
-/

namespace Await

variable {signature : Signature} {locals α β : Type}
  {permitted : Nat → signature.Command → Prop}

namespace Program

/-- Every command is permitted at the clock value at which it is executed,
when the program was last resumed at `last`. -/
def Timely (permitted : Nat → signature.Command → Prop)
    (result : Nat → α → Prop) : Program signature α → Nat → Prop
  | .done value, last => result last value
  | .await command resume, last =>
      ∀ time, last ≤ time → permitted time command ∧
        ∀ outcome, (resume time outcome).Timely permitted result time

theorem Timely.imp {result result' : Nat → α → Prop}
    {program : Program signature α} {last : Nat}
    (timely : program.Timely permitted result last)
    (implies : ∀ time value, last ≤ time → result time value →
      result' time value) :
    program.Timely permitted result' last := by
  induction program generalizing last with
  | done value => exact implies last value (Nat.le_refl last) timely
  | await command resume induction =>
      intro time later
      obtain ⟨allowed, rest⟩ := timely time later
      refine ⟨allowed, ?_⟩
      intro outcome
      refine induction time outcome (rest outcome) ?_
      intro end' value after
      exact implies end' value (Nat.le_trans later after)

theorem timely_bind_iff {result : Nat → β → Prop}
    (program : Program signature α) (next : α → Program signature β)
    (last : Nat) :
    (program.bind next).Timely permitted result last ↔
      program.Timely permitted (fun time value =>
        (next value).Timely permitted result time) last := by
  induction program generalizing last with
  | done value => exact Iff.rfl
  | await command resume induction =>
      simp only [await_bind, Timely, induction]

/-- Time may pass before a suspended program is resumed. -/
theorem Timely.later {program : Program signature α} {last time : Nat}
    (timely : program.Timely permitted (fun _ _ => True) last)
    (passed : last ≤ time) :
    program.Timely permitted (fun _ _ => True) time := by
  cases program with
  | done value => exact trivial
  | await command resume =>
      intro resumed after
      exact timely resumed (Nat.le_trans passed after)

end Program

namespace Async

/-- A function body that is called at clock value `last` is timely, and it
ends at the clock value at which it was last resumed. -/
def Timely (permitted : Nat → signature.Command → Prop)
    (body : Async signature locals α) (last : Nat) (vars : locals) : Prop :=
  (body last vars).Timely permitted
    (fun time final => final.time = time ∧ last ≤ time) last

variable {last : Nat} {vars : locals}

theorem timely_pure (value : α) :
    Timely permitted (Pure.pure value : Async signature locals α) last vars :=
  ⟨rfl, Nat.le_refl last⟩

theorem timely_throw (error : signature.Error) :
    Timely permitted (throw error : Async signature locals α) last vars :=
  ⟨rfl, Nat.le_refl last⟩

theorem timely_await {command : signature.Command}
    (allowed : ∀ time, last ≤ time → permitted time command) :
    Timely permitted (await command : Async signature locals _) last vars :=
  fun time later => ⟨allowed time later, fun _ => ⟨rfl, later⟩⟩

theorem timely_bind {action : Async signature locals α}
    {next : α → Async signature locals β}
    (first : Timely permitted action last vars)
    (rest : ∀ value time left, last ≤ time →
      Timely permitted (next value) time left) :
    Timely permitted (action >>= next) last vars := by
  refine (Program.timely_bind_iff _ _ _).mpr (first.imp ?_)
  rintro time ⟨outcome, ended, left⟩ - ⟨rfl, later⟩
  cases outcome with
  | error error => exact ⟨rfl, later⟩
  | ok value =>
      refine (rest value ended left later).imp ?_
      intro finished final after same
      exact ⟨same.1, Nat.le_trans later after⟩

/-- The clock is read without suspending. -/
theorem timely_dateNow_bind {next : Nat → Async signature locals α}
    (rest : Timely permitted (next last) last vars) :
    Timely permitted (dateNow >>= next) last vars :=
  rest

theorem timely_tryCatch {body : Async signature locals α}
    {handler : signature.Error → Async signature locals α}
    (first : Timely permitted body last vars)
    (handled : ∀ error time left, last ≤ time →
      Timely permitted (handler error) time left) :
    Timely permitted (tryCatch body handler) last vars := by
  refine (Program.timely_bind_iff _ _ _).mpr (first.imp ?_)
  rintro time ⟨outcome, ended, left⟩ - ⟨rfl, later⟩
  cases outcome with
  | ok value => exact ⟨rfl, later⟩
  | error error =>
      refine (handled error ended left later).imp ?_
      intro finished final after same
      exact ⟨same.1, Nat.le_trans later after⟩

/-- A timely body gives a timely program when it is started as a process. -/
theorem Timely.start {body : Async signature Unit α}
    (timely : Timely permitted body last ()) :
    (body.start last).Timely permitted (fun _ _ => True) last :=
  (Program.timely_bind_iff _ _ _).mpr (timely.imp fun _ _ _ _ => trivial)

end Async

namespace System

variable {system : System signature}

/-- No step sets the clock back. -/
def Forward (system : System signature) : Prop :=
  ∀ label (config next : Config system),
    system.step label config = some next →
    system.clock config.world ≤ system.clock next.world

/-- The process was started, and the rest of it is timely. -/
structure ThreadTimely (permitted : Nat → signature.Command → Prop)
    (pid : Nat) (config : Config system) : Prop where
  started : pid < config.threads.length
  timely : ∀ task program,
    config.threads[pid]? = some (.running task program) →
    program.Timely permitted (fun _ _ => True) (system.clock config.world)

namespace ThreadTimely

variable {pid : Nat} {config next : Config system}

theorem spawned {task : system.Task}
    (timely : (system.code task (system.clock config.world)).Timely permitted
      (fun _ _ => True) (system.clock config.world))
    (taken : system.step (.spawn task) config = some next) :
    ThreadTimely permitted config.threads.length next := by
  cases taken
  refine ⟨by simp, ?_⟩
  intro task' program running
  rw [List.getElem?_concat_length] at running
  obtain ⟨-, rfl⟩ := resume_eq_running (Option.some.inj running)
  exact timely

/-- The process itself executes a permitted command, the others let time
pass. -/
theorem step (forward : system.Forward) {label : Label system}
    (held : ThreadTimely permitted pid config)
    (taken : system.step label config = some next) :
    ThreadTimely permitted pid next := by
  have passed := forward label config next taken
  cases label with
  | spawn task =>
      cases taken
      refine ⟨Nat.lt_of_lt_of_le held.started (by simp), ?_⟩
      intro task' program running
      rw [List.getElem?_append_left held.started] at running
      exact held.timely task' program running
  | run other choice =>
      obtain ⟨task', command, resume, outcome, after, found, -, rfl⟩ :=
        step_run_eq_some taken
      refine ⟨by simpa using held.started, ?_⟩
      intro task program running
      rcases running_set running with ⟨rfl, resumed⟩ | ⟨-, before⟩
      · obtain ⟨-, rfl⟩ := resume_eq_running resumed
        have executed := held.timely _ _ found _ (Nat.le_refl _)
        exact (executed.2 outcome).later passed
      · exact (held.timely task program before).later passed
  | crash other =>
      obtain ⟨task', program', found, rfl⟩ := step_crash_eq_some taken
      refine ⟨by simpa using held.started, ?_⟩
      intro task program running
      rcases running_set running with ⟨-, crashed⟩ | ⟨-, before⟩
      · cases crashed
      · exact held.timely task program before
  | environment event =>
      obtain ⟨after, -, rfl⟩ := step_environment_eq_some taken
      refine ⟨held.started, ?_⟩
      intro task program running
      exact (held.timely task program running).later passed

theorem reaches (forward : system.Forward)
    {admits : Config system → Label system → Prop}
    (held : ThreadTimely permitted pid config)
    (reached : system.Reaches admits config next) :
    ThreadTimely permitted pid next :=
  reached.invariant held fun _ _ _ held _ taken => held.step forward taken

/-- The command that the process executes next is permitted now. -/
theorem executes {choice : system.Choice}
    (held : ThreadTimely permitted pid config)
    (taken : system.step (.run pid choice) config = some next) :
    ∃ command outcome, permitted (system.clock config.world) command ∧
      system.exec pid command choice config.world =
        some (outcome, next.world) := by
  obtain ⟨task, command, resume, outcome, after, found, executed, rfl⟩ :=
    step_run_eq_some taken
  have allowed := held.timely _ _ found _ (Nat.le_refl _)
  exact ⟨command, outcome, allowed.1, executed⟩

end ThreadTimely

end System

end Await
