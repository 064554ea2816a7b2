import PaymentQueue.Await.Logic
import PaymentQueue.Await.Transition

/-!
# Interleaved processes

A `System` starts processes at any time; each runs the program of its task,
one awaited command per step, in any order with the others.  A process may
also crash, and the environment may change the world on its own.  An
assumption about the surroundings (no crash, one delivery after another) is a
predicate on the labels of a run.

`Discipline.Sound.reaches` is the composition rule: when every task is safe
under its contract and each guarantee implies the other processes' relies,
the invariant holds in every reachable configuration.
-/

namespace Await

structure System (signature : Signature) extends Machine signature where
  Task : Type
  Output : Type
  code : Task → Nat → Program signature Output
  Event : Type
  environment : Event → World → Option World

variable {signature : Signature}

inductive Thread (system : System signature) where
  | running (task : system.Task)
      (program : Program signature system.Output)
  | ended (task : system.Task) (output : system.Output)
  | crashed (task : system.Task)

namespace Thread

variable {system : System signature}

/-- A process ends in the step that produces its output. -/
def resume (task : system.Task) :
    Program signature system.Output → Thread system
  | .done output => .ended task output
  | .await command next => .running task (.await command next)

def task : Thread system → system.Task
  | .running task _ => task
  | .ended task _ => task
  | .crashed task => task

def isRunning : Thread system → Bool
  | .running _ _ => true
  | _ => false

@[simp] theorem resume_task (task : system.Task)
    (program : Program signature system.Output) :
    (resume task program).task = task := by
  cases program <;> rfl

end Thread

structure Config (system : System signature) where
  world : system.World
  threads : List (Thread system)

/-- The task of a process, whether it runs or not. -/
def Config.taskOf {system : System signature} (config : Config system)
    (pid : Nat) : Option system.Task :=
  config.threads[pid]?.map Thread.task

theorem Config.taskOf_of_running {system : System signature}
    {config : Config system} {pid : Nat} {task : system.Task}
    {program : Program signature system.Output}
    (found : config.threads[pid]? = some (.running task program)) :
    config.taskOf pid = some task := by
  simp [Config.taskOf, found, Thread.task]

inductive Label (system : System signature) where
  | spawn (task : system.Task)
  | run (pid : Nat) (choice : system.Choice)
  | crash (pid : Nat)
  | environment (event : system.Event)

namespace System

variable (system : System signature)

def step (label : Label system) (config : Config system) :
    Option (Config system) :=
  match label with
  | .spawn task =>
      some { config with
        threads := config.threads ++
          [.resume task (system.code task (system.clock config.world))] }
  | .run pid choice =>
      match config.threads[pid]? with
      | some (.running task (.await command resume)) =>
          match system.exec pid command choice config.world with
          | some (outcome, world) =>
              some {
                world
                threads := config.threads.set pid
                  (.resume task (resume (system.clock config.world) outcome)) }
          | none => none
      | _ => none
  | .crash pid =>
      match config.threads[pid]? with
      | some (.running task _) =>
          some { config with threads := config.threads.set pid (.crashed task) }
      | _ => none
  | .environment event =>
      match system.environment event config.world with
      | some world => some { config with world }
      | none => none

/-- Configurations reached from `start` along admitted labels. -/
abbrev Reaches (admits : Config system → Label system → Prop)
    (start : Config system) : Config system → Prop :=
  Await.Reaches system.step admits start

variable {system}

/-- A `run` step executes the pending command of a running process. -/
theorem step_run_eq_some {pid : Nat} {choice : system.Choice}
    {config next : Config system}
    (taken : system.step (.run pid choice) config = some next) :
    ∃ task command resume outcome after,
      config.threads[pid]? = some (.running task (.await command resume)) ∧
      system.exec pid command choice config.world = some (outcome, after) ∧
      next = {
        world := after
        threads := config.threads.set pid
          (.resume task (resume (system.clock config.world) outcome)) } := by
  rw [step] at taken
  split at taken
  case h_1 task command resume found =>
    split at taken
    case h_1 outcome after executed =>
      cases taken
      exact ⟨task, command, resume, outcome, after, found, executed, rfl⟩
    case h_2 => cases taken
  case h_2 => cases taken

theorem step_crash_eq_some {pid : Nat} {config next : Config system}
    (taken : system.step (.crash pid) config = some next) :
    ∃ task program,
      config.threads[pid]? = some (.running task program) ∧
      next = { config with
        threads := config.threads.set pid (.crashed task) } := by
  rw [step] at taken
  split at taken
  case h_1 task program found =>
    cases taken
    exact ⟨task, program, found, rfl⟩
  case h_2 => cases taken

theorem step_environment_eq_some {event : system.Event}
    {config next : Config system}
    (taken : system.step (.environment event) config = some next) :
    ∃ after, system.environment event config.world = some after ∧
      next = { config with world := after } := by
  rw [step] at taken
  split at taken
  case h_1 after changed =>
    cases taken
    exact ⟨after, changed, rfl⟩
  case h_2 => cases taken

private theorem taskOf_set {config : Config system} {world : system.World}
    {pid : Nat} {thread thread' : Thread system}
    (found : config.threads[pid]? = some thread)
    (same : thread'.task = thread.task) (other : Nat) :
    Config.taskOf { world, threads := config.threads.set pid thread' } other =
      config.taskOf other := by
  simp only [Config.taskOf]
  by_cases here : pid = other
  · subst here
    have inside : pid < config.threads.length :=
      (List.getElem?_eq_some_iff.mp found).1
    rw [List.getElem?_set_self inside, found, Option.map_some,
      Option.map_some, same]
  · rw [List.getElem?_set_ne here]

/-- A step keeps the tasks of all processes, except that `spawn` adds one. -/
theorem taskOf_step {label : Label system} {config next : Config system}
    (taken : system.step label config = some next) (pid : Nat) :
    next.taskOf pid = config.taskOf pid ∨
      ∃ task, label = .spawn task ∧ pid = config.threads.length ∧
        next.taskOf pid = some task := by
  cases label with
  | spawn task =>
      cases taken
      rcases Nat.lt_trichotomy pid config.threads.length with
        inside | same | beyond
      · left
        simp only [Config.taskOf, List.getElem?_append_left inside]
      · right
        refine ⟨task, rfl, same, ?_⟩
        subst same
        simp [Config.taskOf]
      · left
        simp only [Config.taskOf]
        rw [List.getElem?_eq_none (by simp; omega),
          List.getElem?_eq_none (by omega)]
  | run other choice =>
      obtain ⟨task, command, resume, outcome, after, found, -, rfl⟩ :=
        step_run_eq_some taken
      exact .inl (taskOf_set found (Thread.resume_task _ _) pid)
  | crash other =>
      obtain ⟨task, program, found, rfl⟩ := step_crash_eq_some taken
      have same : (Thread.crashed task).task =
          (Thread.running task program).task := rfl
      exact .inl (taskOf_set found same pid)
  | environment event =>
      obtain ⟨after, -, rfl⟩ := step_environment_eq_some taken
      exact .inl rfl

/-- The process was resumed from `earlier` with some outcome. -/
def Resumes (earlier program : Program signature system.Output) : Prop :=
  ∃ command resume time outcome,
    earlier = .await command resume ∧ program = resume time outcome

theorem resume_eq_running {task task' : system.Task}
    {program program' : Program signature system.Output}
    (resumed : Thread.resume task program = .running task' program') :
    task' = task ∧ program' = program := by
  cases program with
  | done output => cases resumed
  | await command next =>
      cases resumed
      exact ⟨rfl, rfl⟩

/-- The process that was replaced, or another one. -/
theorem running_set {threads : List (Thread system)} {thread : Thread system}
    {pid other : Nat} {task : system.Task}
    {program : Program signature system.Output}
    (found : (threads.set pid thread)[other]? =
      some (.running task program)) :
    (other = pid ∧ thread = .running task program) ∨
      (other ≠ pid ∧ threads[other]? = some (.running task program)) := by
  rw [List.getElem?_set] at found
  split at found
  case isTrue same =>
    split at found
    case isTrue => exact .inl ⟨same.symm, Option.some.inj found⟩
    case isFalse => cases found
  case isFalse different =>
    exact .inr ⟨fun same => different same.symm, found⟩

/-- An old process, or the one that was started. -/
theorem running_append {threads : List (Thread system)} {pid : Nat}
    {task task' : system.Task} {program code : Program signature system.Output}
    (found : (threads ++ [Thread.resume task code])[pid]? =
      some (.running task' program)) :
    threads[pid]? = some (.running task' program) ∨
      (pid = threads.length ∧ task' = task ∧ program = code) := by
  rw [List.getElem?_append] at found
  split at found
  case isTrue => exact .inl found
  case isFalse outside =>
    have place : pid - threads.length = 0 := by
      have inside := (List.getElem?_eq_some_iff.mp found).1
      simp only [List.length_singleton] at inside
      omega
    rw [place, List.getElem?_cons_zero, Option.some.injEq] at found
    exact .inr ⟨by omega, resume_eq_running found⟩

/-- A process that runs after a step ran before it, or was just started. -/
theorem running_step {label : Label system} {config next : Config system}
    (taken : system.step label config = some next) {pid : Nat}
    {task : system.Task} {program : Program signature system.Output}
    (running : next.threads[pid]? = some (.running task program)) :
    (∃ earlier, config.threads[pid]? = some (.running task earlier) ∧
      (program = earlier ∨ Resumes earlier program)) ∨
      (label = .spawn task ∧ pid = config.threads.length ∧
        program = system.code task (system.clock config.world)) := by
  cases label with
  | spawn new =>
      cases taken
      rcases running_append running with before | ⟨place, rfl, rfl⟩
      · exact .inl ⟨program, before, .inl rfl⟩
      · exact .inr ⟨rfl, place, rfl⟩
  | run other choice =>
      obtain ⟨task', command, resume, outcome, after, found, -, rfl⟩ :=
        step_run_eq_some taken
      rcases running_set running with ⟨rfl, resumed⟩ | ⟨-, before⟩
      · obtain ⟨rfl, rfl⟩ := resume_eq_running resumed
        exact .inl ⟨_, found, .inr ⟨command, resume, _, outcome, rfl, rfl⟩⟩
      · exact .inl ⟨program, before, .inl rfl⟩
  | crash other =>
      obtain ⟨task', earlier, found, rfl⟩ := step_crash_eq_some taken
      rcases running_set running with ⟨-, crashed⟩ | ⟨-, before⟩
      · cases crashed
      · exact .inl ⟨program, before, .inl rfl⟩
  | environment event =>
      obtain ⟨after, -, rfl⟩ := step_environment_eq_some taken
      exact .inl ⟨program, running, .inl rfl⟩

/-- A property of programs that resuming preserves holds of every running
process. -/
theorem running_of_reaches {admits : Config system → Label system → Prop}
    {start config : Config system}
    (reached : system.Reaches admits start config)
    {holds : system.Task → Program signature system.Output → Prop}
    (initial : ∀ (pid : Nat) task program,
      start.threads[pid]? = some (.running task program) → holds task program)
    (codes : ∀ task time, holds task (system.code task time))
    (resumes : ∀ task earlier program, holds task earlier →
      Resumes earlier program → holds task program) :
    ∀ (pid : Nat) task program,
      config.threads[pid]? = some (.running task program) →
      holds task program := by
  induction reached with
  | refl => exact initial
  | step _ _ taken induction =>
      intro pid task program running
      rcases running_step taken running with
        ⟨earlier, found, rfl | resumed⟩ | ⟨-, -, rfl⟩
      · exact induction pid task program found
      · exact resumes task earlier program (induction pid task earlier found)
          resumed
      · exact codes task _

end System

/-- The contracts of all processes of a system.  `post` holds at the moment a
process ends; `rest` is what remains true of a process that is not running,
including one that has not been started. -/
structure Discipline (system : System signature) where
  invariant : system.World → Prop
  rely : Nat → system.Task → system.World → system.World → Prop
  guarantee : Nat → system.Task → system.World → system.World → Prop
  allowed : Nat → system.Task → signature.Command → system.Choice →
    system.World → Prop
  post : Nat → system.Task → system.Output → system.World → Prop
  rest : Nat → Option (Thread system) → system.World → Prop

namespace Discipline

variable {system : System signature} (discipline : Discipline system)

def contract (pid : Nat) (task : system.Task) : Contract system.toMachine where
  invariant := discipline.invariant
  rely := discipline.rely pid task
  guarantee := discipline.guarantee pid task
  allowed := discipline.allowed pid task

/-- The obligation that each process still has to meet. -/
def ThreadHolds (pid : Nat) (world : system.World) :
    Option (Thread system) → Prop
  | some (.running task program) =>
      program.Safe (discipline.contract pid task) pid
        (discipline.post pid task) world
  | thread => discipline.rest pid thread world

/-- No process is kept running after its last step. -/
def Suspended (config : Config system) : Prop :=
  ∀ (pid : Nat) task output,
    config.threads[pid]? ≠ some (.running task (.done output))

structure Holds (config : Config system) : Prop where
  suspended : Suspended config
  invariant : discipline.invariant config.world
  threads : ∀ pid, discipline.ThreadHolds pid config.world config.threads[pid]?

/-- The proof obligations of a discipline for the admitted runs.  Those on
processes at rest are void where nothing is said about them. -/
structure Sound (admits : Config system → Label system → Prop) : Prop where
  relyRefl : ∀ pid task world, discipline.rely pid task world world
  relyTrans : ∀ pid task {first second third},
    discipline.rely pid task first second →
    discipline.rely pid task second third →
    discipline.rely pid task first third
  spawns : ∀ config task, discipline.Holds config →
    admits config (.spawn task) →
    (system.code task (system.clock config.world)).Safe
      (discipline.contract config.threads.length task) config.threads.length
      (discipline.post config.threads.length task) config.world
  permits : ∀ config pid choice task command resume,
    discipline.Holds config → admits config (.run pid choice) →
    config.threads[pid]? = some (.running task (.await command resume)) →
    discipline.allowed pid task command choice config.world
  interferes : ∀ config pid choice task program other task' program' next,
    discipline.Holds config → admits config (.run pid choice) →
    system.step (.run pid choice) config = some next →
    config.threads[pid]? = some (.running task program) → other ≠ pid →
    config.threads[other]? = some (.running task' program') →
    discipline.invariant next.world →
    discipline.guarantee pid task config.world next.world →
    discipline.rely other task' config.world next.world
  rests : ∀ config pid choice task program other thread next,
    discipline.Holds config → admits config (.run pid choice) →
    system.step (.run pid choice) config = some next →
    config.threads[pid]? = some (.running task program) → other ≠ pid →
    config.threads[other]? = thread →
    discipline.invariant next.world →
    discipline.guarantee pid task config.world next.world →
    discipline.rest other thread config.world →
    discipline.rest other thread next.world := by intros; trivial
  ends : ∀ pid task output world, discipline.invariant world →
    discipline.post pid task output world →
    discipline.rest pid (some (.ended task output)) world := by
      intros; trivial
  crashes : ∀ config pid task program, discipline.Holds config →
    admits config (.crash pid) →
    config.threads[pid]? = some (.running task program) →
    discipline.rest pid (some (.crashed task)) config.world := by
      intros; trivial
  environments : ∀ config event after, discipline.Holds config →
    admits config (.environment event) →
    system.environment event config.world = some after →
    discipline.invariant after ∧
      (∀ pid task program,
        config.threads[pid]? = some (.running task program) →
        discipline.rely pid task config.world after) ∧
      (∀ pid thread, config.threads[pid]? = thread →
        discipline.rest pid thread config.world →
        discipline.rest pid thread after)

variable {discipline} {admits : Config system → Label system → Prop}

theorem ThreadHolds.interfere {pid : Nat} {world after : system.World}
    {thread : Option (Thread system)}
    (trans : ∀ task {first second third},
      discipline.rely pid task first second →
      discipline.rely pid task second third →
      discipline.rely pid task first third)
    (relies : ∀ task program, thread = some (.running task program) →
      discipline.rely pid task world after)
    (rests : discipline.rest pid thread world →
      discipline.rest pid thread after)
    (ended : ∀ task output, thread ≠ some (.running task (.done output)))
    (held : discipline.ThreadHolds pid world thread) :
    discipline.ThreadHolds pid after thread := by
  match thread with
  | none => exact rests held
  | some (.ended task output) => exact rests held
  | some (.crashed task) => exact rests held
  | some (.running task (.done output)) => exact (ended task output rfl).elim
  | some (.running task (.await command resume)) =>
      exact Program.Safe.interfere held (trans task)
        (relies task (.await command resume) rfl)

/-- A process that has just been resumed meets its obligation. -/
theorem threadHolds_resume (sound : discipline.Sound admits) {pid : Nat}
    {task : system.Task} {program : Program signature system.Output}
    {world : system.World} (kept : discipline.invariant world)
    (safe : program.Safe (discipline.contract pid task) pid
      (discipline.post pid task) world) :
    discipline.ThreadHolds pid world (some (.resume task program)) := by
  cases program with
  | done output => exact sound.ends pid task output world kept safe
  | await command resume => exact safe

/-- One process moves. -/
private theorem threadHolds_set {threads : List (Thread system)} {pid : Nat}
    {thread thread' : Thread system} {world : system.World}
    (found : threads[pid]? = some thread)
    (moved : discipline.ThreadHolds pid world (some thread'))
    (others : ∀ other, other ≠ pid →
      discipline.ThreadHolds other world threads[other]?) (other : Nat) :
    discipline.ThreadHolds other world (threads.set pid thread')[other]? := by
  by_cases same : other = pid
  · subst other
    rw [List.getElem?_set_self (List.getElem?_eq_some_iff.mp found).1]
    exact moved
  · rw [List.getElem?_set_ne fun same' => same same'.symm]
    exact others other same

theorem resume_ne_done (task task' : system.Task)
    (program : Program signature system.Output) (output : system.Output) :
    Thread.resume task program ≠ .running task' (.done output) := by
  cases program <;> simp [Thread.resume]

private theorem suspended_set {config : Config system} {world : system.World}
    (suspended : Suspended config) (pid : Nat) (thread : Thread system)
    (differs : ∀ task output, thread ≠ .running task (.done output)) :
    Suspended { world, threads := config.threads.set pid thread } := by
  intro other task output found
  rcases System.running_set found with ⟨-, replaced⟩ | ⟨-, before⟩
  · exact differs task output replaced
  · exact suspended other task output before

private theorem suspended_step {label : Label system}
    {config next : Config system}
    (suspended : Suspended config)
    (taken : system.step label config = some next) : Suspended next := by
  cases label with
  | spawn task =>
      cases taken
      intro pid task' output found
      simp only [List.getElem?_append] at found
      split at found
      case isTrue => exact suspended pid task' output found
      case isFalse =>
        have member := List.mem_of_getElem? found
        rw [List.mem_singleton] at member
        exact resume_ne_done task task' _ output member.symm
  | run pid choice =>
      obtain ⟨task, command, resume, outcome, after, -, -, rfl⟩ :=
        System.step_run_eq_some taken
      exact suspended_set suspended pid _
        fun task' output => resume_ne_done task task' _ output
  | crash pid =>
      obtain ⟨task, program, -, rfl⟩ := System.step_crash_eq_some taken
      exact suspended_set suspended pid _ (by simp)
  | environment event =>
      obtain ⟨after, -, rfl⟩ := System.step_environment_eq_some taken
      exact suspended

/-- What an admitted `run` step does: it stays within the guarantee of the
process that takes it, and its process meets the rest of its obligation. -/
theorem Sound.run (sound : discipline.Sound admits) {pid : Nat}
    {choice : system.Choice} {config next : Config system}
    (holds : discipline.Holds config) (admitted : admits config (.run pid choice))
    (taken : system.step (.run pid choice) config = some next) :
    ∃ task program program',
      config.threads[pid]? = some (.running task program) ∧
      next.threads = config.threads.set pid (.resume task program') ∧
      discipline.invariant next.world ∧
      discipline.guarantee pid task config.world next.world ∧
      program'.Safe (discipline.contract pid task) pid
        (discipline.post pid task) next.world := by
  obtain ⟨task, command, resume, outcome, after, found, executed, rfl⟩ :=
    System.step_run_eq_some taken
  have safe := holds.threads pid
  rw [found] at safe
  refine ⟨task, _, _, found, rfl, ?_⟩
  obtain ⟨⟨kept, stays⟩, rest⟩ := safe config.world outcome after
    (sound.relyRefl pid task config.world)
    ⟨holds.invariant, choice,
      sound.permits config pid choice task command resume holds admitted
        found, executed⟩
  exact ⟨kept, stays, rest⟩

/-- A process that ends meets its postcondition. -/
theorem Sound.ended (sound : discipline.Sound admits) {pid : Nat}
    {choice : system.Choice} {config next : Config system}
    {task : system.Task} {output : system.Output}
    (holds : discipline.Holds config) (admitted : admits config (.run pid choice))
    (taken : system.step (.run pid choice) config = some next)
    (ended : next.threads[pid]? = some (.ended task output)) :
    discipline.post pid task output next.world := by
  obtain ⟨task', program, program', found, threads, -, -, safe⟩ :=
    sound.run holds admitted taken
  have inside : pid < config.threads.length :=
    (List.getElem?_eq_some_iff.mp found).1
  rw [threads, List.getElem?_set_self inside] at ended
  cases program' with
  | await command resume => cases ended
  | done output =>
      cases ended
      exact safe

theorem Sound.step (sound : discipline.Sound admits) {label : Label system}
    {config next : Config system} (holds : discipline.Holds config)
    (admitted : admits config label)
    (taken : system.step label config = some next) :
    discipline.Holds next := by
  have suspended := suspended_step holds.suspended taken
  cases label with
  | spawn task =>
      cases taken
      refine ⟨suspended, holds.invariant, fun pid => ?_⟩
      simp only [List.getElem?_append]
      split
      case isTrue => exact holds.threads pid
      case isFalse outside =>
        by_cases new : pid = config.threads.length
        · subst pid
          simpa using threadHolds_resume sound holds.invariant
            (sound.spawns config task holds admitted)
        · have absent := holds.threads pid
          have beyond : config.threads.length + 1 ≤ pid := by omega
          rw [List.getElem?_eq_none (by omega)] at absent
          rw [List.getElem?_eq_none (by simp; omega)]
          exact absent
  | run pid choice =>
      obtain ⟨task, program, program', found, threads, kept, stays, rest⟩ :=
        sound.run holds admitted taken
      refine ⟨suspended, kept, ?_⟩
      rw [threads]
      refine threadHolds_set found (threadHolds_resume sound kept rest) ?_
      intro other distinct
      refine (holds.threads other).interfere
        (fun task => sound.relyTrans other task) ?_ ?_
        (fun task output => holds.suspended other task output)
      · intro task' program'' running
        exact sound.interferes config pid choice task program other task'
          program'' next holds admitted taken found distinct running kept
          stays
      · exact sound.rests config pid choice task program other _ next holds
          admitted taken found distinct rfl kept stays
  | crash pid =>
      obtain ⟨task, program, found, rfl⟩ := System.step_crash_eq_some taken
      exact ⟨suspended, holds.invariant, threadHolds_set found
        (sound.crashes config pid task program holds admitted found)
        fun other _ => holds.threads other⟩
  | environment event =>
      obtain ⟨after, changed, rfl⟩ := System.step_environment_eq_some taken
      obtain ⟨kept, relies, rests⟩ :=
        sound.environments config event after holds admitted changed
      refine ⟨suspended, kept, fun pid => ?_⟩
      exact (holds.threads pid).interfere
        (fun task => sound.relyTrans pid task)
        (fun task program running => relies pid task program running)
        (rests pid _ rfl)
        (fun task output => holds.suspended pid task output)

/-- A process may end at any time without a step of its own. -/
theorem Holds.ended {config : Config system}
    (holds : discipline.Holds config) {pid : Nat} {task : system.Task}
    {program : Program signature system.Output} {output : system.Output}
    (found : config.threads[pid]? = some (.running task program))
    (rests : discipline.rest pid (some (.ended task output)) config.world) :
    discipline.Holds { config with
      threads := config.threads.set pid (.ended task output) } where
  suspended := by
    intro other task' output' running
    rcases System.running_set running with ⟨-, impossible⟩ | ⟨-, before⟩
    · cases impossible
    · exact holds.suspended other task' output' before
  invariant := holds.invariant
  threads := threadHolds_set found rests fun other _ => holds.threads other

/-- Before any process is started, only the invariant is at stake. -/
theorem holds_nil {world : system.World}
    (kept : discipline.invariant world)
    (rests : ∀ pid, discipline.rest pid none world) :
    discipline.Holds ⟨world, []⟩ where
  suspended := fun _ _ _ found => by cases found
  invariant := kept
  threads := rests

/-- A system in which one process was started. -/
theorem Sound.holds_singleton (sound : discipline.Sound admits)
    {world : system.World} (task : system.Task)
    (kept : discipline.invariant world)
    (rests : ∀ pid, discipline.rest pid none world)
    (safe : (system.code task (system.clock world)).Safe
      (discipline.contract 0 task) 0 (discipline.post 0 task) world) :
    discipline.Holds
      ⟨world, [.resume task (system.code task (system.clock world))]⟩ where
  suspended := by
    intro pid task' output found
    have member := List.mem_singleton.mp (List.mem_of_getElem? found)
    exact resume_ne_done task task' _ output member.symm
  invariant := kept
  threads := by
    intro pid
    cases pid with
    | zero => exact threadHolds_resume sound kept safe
    | succ pid => exact rests (pid + 1)

/-- The invariant and every remaining obligation hold in every reachable
configuration. -/
theorem Sound.reaches (sound : discipline.Sound admits)
    {start config : Config system} (holds : discipline.Holds start)
    (reached : system.Reaches admits start config) :
    discipline.Holds config :=
  reached.invariant holds fun _ _ _ held admitted taken =>
    sound.step held admitted taken

/-- What every guarantee and every step of the environment respect holds
between any state of a run and the states after it. -/
theorem Sound.onward (sound : discipline.Sound admits)
    {related : system.World → system.World → Prop}
    {start config : Config system} (holds : discipline.Holds start)
    (refl : ∀ world, related world world)
    (trans : ∀ {first second third}, related first second →
      related second third → related first third)
    (guaranteed : ∀ pid task before after, discipline.invariant before →
      discipline.guarantee pid task before after → related before after)
    (changed : ∀ event before after,
      system.environment event before = some after → related before after)
    (reached : system.Reaches admits start config) :
    related start.world config.world := by
  suffices both : discipline.Holds config ∧
      related start.world config.world from both.2
  refine @Reaches.invariant _ _ _ admits (fun state =>
    discipline.Holds state ∧ related start.world state.world) _ _ reached
    ⟨holds, refl _⟩ ?_
  rintro state label next ⟨holds, before⟩ admitted taken
  refine ⟨sound.step holds admitted taken, trans before ?_⟩
  cases label with
  | spawn task =>
      cases taken
      exact refl _
  | run pid choice =>
      obtain ⟨task, program, program', -, -, -, stays, -⟩ :=
        sound.run holds admitted taken
      exact guaranteed pid task _ _ holds.invariant stays
  | crash pid =>
      obtain ⟨task, program, -, rfl⟩ := System.step_crash_eq_some taken
      exact refl _
  | environment event =>
      obtain ⟨after, moved, rfl⟩ := System.step_environment_eq_some taken
      exact changed event _ _ moved

end Discipline

end Await
