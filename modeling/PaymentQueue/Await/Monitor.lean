import PaymentQueue.Await.Upholds

/-!
# What a process has been told

A monitor follows one process: it learns the outcomes of the commands that the
process has executed, and says which commands may rest on them.  That a program
obeys its monitor is safety in the sense of `Await.Logic`, over a machine in
which every command has any outcome of the footprint.  `Monitor.reaches` carries
it to the histories of the processes of a system.
-/

namespace Await

variable {signature : Signature} {Seen : Type}

/-- A command that was executed, and its outcome. -/
structure Exchange (signature : Signature) where
  command : signature.Command
  outcome : Except signature.Error (signature.Result command)

structure Monitor (signature : Signature) (Seen : Type) where
  learn : Seen → Exchange signature → Seen
  rests : Seen → signature.Command → Prop

/-- The state of a monitor, whether the last command was one that may rest on
what was seen, and any clock value. -/
structure Watch (Seen : Type) where
  seen : Seen
  rested : Prop
  time : Nat

namespace Monitor

variable (monitor : Monitor signature Seen)

/-- What is known after some commands. -/
def after (seen : Seen) (past : List (Exchange signature)) : Seen :=
  past.foldl monitor.learn seen

/-- Every command rests on what was known before it. -/
def Follows (seen : Seen) : List (Exchange signature) → Prop
  | [] => True
  | exchange :: later => monitor.rests seen exchange.command ∧
      Follows (monitor.learn seen exchange) later

section History

variable {monitor} {seen : Seen} {past : List (Exchange signature)}
  {exchange : Exchange signature}

@[simp] theorem after_concat :
    monitor.after seen (past ++ [exchange]) =
      monitor.learn (monitor.after seen past) exchange := by
  simp [after]

private theorem follows_append_iff {later : List (Exchange signature)} :
    monitor.Follows seen (past ++ later) ↔ monitor.Follows seen past ∧
      monitor.Follows (monitor.after seen past) later := by
  induction past generalizing seen with
  | nil => simp [Follows, after]
  | cons exchange past induction =>
      rw [List.cons_append]
      simp only [Follows, induction, and_assoc]
      rfl

theorem Follows.rests {later : List (Exchange signature)}
    (follows : monitor.Follows seen (past ++ exchange :: later)) :
    monitor.rests (monitor.after seen past) exchange.command :=
  (follows_append_iff.mp follows).2.1

end History

variable [DecidableEq signature.Command]

/-- Commands have any outcome, and the monitor learns it. -/
def machine : Machine signature where
  World := Watch Seen
  Choice := Exchange signature
  clock := Watch.time
  exec := fun _ command choice watch =>
    if same : choice.command = command then
      some (same ▸ choice.outcome, ⟨monitor.learn watch.seen choice,
        monitor.rests watch.seen command, watch.time⟩)
    else none

/-- The others change nothing that was seen; every command has to rest on
it. -/
def contract (footprint : Footprint signature) : Contract monitor.machine where
  invariant := Watch.rested
  rely := fun before after => after.seen = before.seen
  guarantee := fun _ _ => True
  allowed := fun _ choice _ =>
    footprint.replies choice.command choice.outcome

variable {monitor} {footprint : Footprint signature} {pid : Nat}

private theorem executes_iff {command : signature.Command}
    {before after : Watch Seen}
    {outcome : Except signature.Error (signature.Result command)} :
    Executes (monitor.contract footprint) pid command before outcome after ↔
      before.rested ∧ footprint.replies command outcome ∧
        after = ⟨monitor.learn before.seen ⟨command, outcome⟩,
          monitor.rests before.seen command, before.time⟩ := by
  constructor
  · rintro ⟨rested, ⟨command', outcome'⟩, replied, executed⟩
    by_cases same : command' = command
    · subst same
      simp only [machine] at executed
      cases executed
      exact ⟨rested, replied, rfl⟩
    · simp [machine, same] at executed
  · rintro ⟨rested, replied, rfl⟩
    exact ⟨rested, ⟨command, outcome⟩, replied, by simp [machine]⟩

end Monitor

/-- The rule for a command: it rests on what was seen, and its outcome is
learned. -/
theorem Async.safe_learn [DecidableEq signature.Command]
    {monitor : Monitor signature Seen} {footprint : Footprint signature}
    {pid : Nat} {locals : Type} {command : signature.Command} {vars : locals}
    {watch : Watch Seen}
    {post : Except signature.Error (signature.Result command) → locals →
      Watch Seen → Prop}
    (rests : monitor.rests watch.seen command)
    (learns : ∀ outcome later, footprint.replies command outcome →
      later.seen = monitor.learn watch.seen ⟨command, outcome⟩ →
      post outcome vars later) :
    Async.Safe (monitor.contract footprint) pid post (Async.await command) vars
      watch := by
  apply Async.safe_await
  intro before outcome after kept execution
  obtain ⟨-, replied, rfl⟩ := Monitor.executes_iff.mp execution
  have seen : before.seen = watch.seen := kept
  rw [seen]
  exact ⟨⟨rests, trivial⟩, learns outcome _ replied rfl⟩

variable {system : System signature}

/-- Every process keeps its own history of commands. -/
def System.told (config : Config system) (label : Label system)
    (pasts : Nat → List (Exchange signature)) :
    Nat → List (Exchange signature) :=
  match label with
  | .run pid choice =>
      match config.threads[pid]? with
      | some (.running _ (.await command _)) =>
          match system.exec pid command choice config.world with
          | some (outcome, _) => Function.update pasts pid
              (pasts pid ++ [⟨command, outcome⟩])
          | none => pasts
      | _ => pasts
  | _ => pasts

/-- Runs that remember what every process has executed. -/
abbrev System.Recorded (system : System signature)
    (admits : Config system → Label system → Prop) (start : Config system)
    (config : Config system) (pasts : Nat → List (Exchange signature)) :
    Prop :=
  Await.Reaches (observed system.step System.told)
    (fun current label => admits current.1 label) (start, fun _ => [])
    (config, pasts)

theorem System.told_run {config : Config system} {pid : Nat}
    {choice : system.Choice} {task : system.Task}
    {command : signature.Command}
    {resume : Nat → Except signature.Error (signature.Result command) →
      Program signature system.Output}
    {outcome : Except signature.Error (signature.Result command)}
    {after : system.World}
    (found : config.threads[pid]? = some (.running task (.await command resume)))
    (executed : system.exec pid command choice config.world =
      some (outcome, after)) (pasts : Nat → List (Exchange signature)) :
    System.told config (.run pid choice) pasts =
      Function.update pasts pid (pasts pid ++ [⟨command, outcome⟩]) := by
  simp only [System.told, found, executed]

/-- What every admitted step preserves, of configurations and histories. -/
theorem System.Recorded.preserves {start config : Config system}
    {admits : Config system → Label system → Prop}
    {pasts : Nat → List (Exchange signature)}
    {holds : Config system → (Nat → List (Exchange signature)) → Prop}
    (recorded : system.Recorded admits start config pasts)
    (initial : holds start fun _ => [])
    (kept : ∀ state pasts label next, holds state pasts →
      admits state label → system.step label state = some next →
      holds next (System.told state label pasts)) :
    holds config pasts := by
  have reached : ∀ current, Await.Reaches (observed system.step System.told)
      (fun current label => admits current.1 label) (start, fun _ => [])
      current → holds current.1 current.2 := by
    intro current reached
    induction reached with
    | refl => exact initial
    | step _ admitted taken induction =>
        obtain ⟨taken, same⟩ := observed_eq_some.mp taken
        rw [same]
        exact kept _ _ _ _ induction admitted taken
  exact reached _ recorded

variable [DecidableEq signature.Command] {monitor : Monitor signature Seen}
  {footprint : Footprint signature} {begins : system.Task → Seen}
  {ends : system.Task → system.Output → Seen → Prop}

/-- The rest of a program obeys the monitor after what was seen. -/
def Program.Obeys {α : Type} (monitor : Monitor signature Seen)
    (footprint : Footprint signature) (result : α → Seen → Prop)
    (program : Program signature α) (seen : Seen) : Prop :=
  program.Safe (monitor.contract footprint) 0
    (fun value final => result value final.seen) ⟨seen, True, 0⟩

/-- Only what was seen matters. -/
theorem Program.Safe.obeys {α : Type} {result : α → Seen → Prop}
    {program : Program signature α} {watch : Watch Seen}
    (safe : program.Safe (monitor.contract footprint) 0
      (fun value final => result value final.seen) watch) :
    program.Obeys monitor footprint result watch.seen := by
  cases program with
  | done value => exact safe
  | await command resume =>
      refine safe.interfere ?_ rfl
      intro first second third before after
      exact Eq.trans after before

/-- A command rests on what was seen, and so does what comes after it. -/
theorem Program.Obeys.executed {α : Type} {result : α → Seen → Prop}
    {command : signature.Command}
    {resume : Nat → Except signature.Error (signature.Result command) →
      Program signature α} {seen : Seen}
    {outcome : Except signature.Error (signature.Result command)}
    (obeys : (Program.await command resume).Obeys monitor footprint result seen)
    (replied : footprint.replies command outcome) (time : Nat) :
    monitor.rests seen command ∧ (resume time outcome).Obeys monitor footprint
      result (monitor.learn seen ⟨command, outcome⟩) := by
  obtain ⟨⟨rested, -⟩, safe⟩ := obeys ⟨seen, True, time⟩ outcome _ rfl
    (Monitor.executes_iff.mpr ⟨trivial, replied, rfl⟩)
  exact ⟨rested, safe.obeys⟩

def Thread.Obeys (monitor : Monitor signature Seen)
    (footprint : Footprint signature)
    (ends : system.Task → system.Output → Seen → Prop) (seen : Seen) :
    Thread system → Prop
  | .running task program => program.Obeys monitor footprint (ends task) seen
  | .ended task output => ends task output seen
  | .crashed _ => True

theorem Thread.obeys_resume {task : system.Task}
    {program : Program signature system.Output} {seen : Seen}
    (obeys : program.Obeys monitor footprint (ends task) seen) :
    (Thread.resume task program).Obeys monitor footprint ends seen := by
  cases program with
  | done output => exact obeys
  | await command resume => exact obeys

/-- A process followed its monitor so far, and goes on to. -/
structure Tracked (monitor : Monitor signature Seen)
    (footprint : Footprint signature) (begins : system.Task → Seen)
    (ends : system.Task → system.Output → Seen → Prop) (thread : Thread system)
    (past : List (Exchange signature)) : Prop where
  follows : monitor.Follows (begins thread.task) past
  obeys : thread.Obeys monitor footprint ends
    (monitor.after (begins thread.task) past)

/-- A tracked process executes its next command. -/
theorem Tracked.executed {task : system.Task} {command : signature.Command}
    {resume : Nat → Except signature.Error (signature.Result command) →
      Program signature system.Output} {past : List (Exchange signature)}
    {outcome : Except signature.Error (signature.Result command)}
    (tracked : Tracked monitor footprint begins ends
      (.running task (.await command resume)) past)
    (replied : footprint.replies command outcome) (time : Nat) :
    Tracked monitor footprint begins ends
      (Thread.resume task (resume time outcome))
      (past ++ [⟨command, outcome⟩]) := by
  obtain ⟨follows, obeys⟩ := tracked
  obtain ⟨rests, continues⟩ := Program.Obeys.executed obeys replied time
  constructor
  · rw [Thread.resume_task]
    exact Monitor.follows_append_iff.mpr ⟨follows, rests, trivial⟩
  · rw [Thread.resume_task, Monitor.after_concat]
    exact Thread.obeys_resume continues

/-- Every process is tracked, and only processes have a history. -/
structure Monitored (monitor : Monitor signature Seen)
    (footprint : Footprint signature) (begins : system.Task → Seen)
    (ends : system.Task → system.Output → Seen → Prop) (config : Config system)
    (pasts : Nat → List (Exchange signature)) : Prop where
  threads : ∀ pid thread, config.threads[pid]? = some thread →
    Tracked monitor footprint begins ends thread (pasts pid)
  fresh : ∀ pid, config.threads.length ≤ pid → pasts pid = []

variable {admits : Config system → Label system → Prop}
  {settled : system.Task → system.Output → Prop}
  {invariant : system.World → Prop} {config next : Config system}
  {pasts : Nat → List (Exchange signature)}
  (upholds : Upholds system admits footprint settled invariant)
  (codes : ∀ task time, (system.code task time).Obeys monitor footprint
    (ends task) (begins task))

include codes in
theorem Monitored.spawned {task : system.Task}
    (monitored : Monitored monitor footprint begins ends config pasts)
    (taken : system.step (.spawn task) config = some next) :
    Monitored monitor footprint begins ends next pasts := by
  cases taken
  constructor
  · intro pid thread found
    rcases Nat.lt_or_ge pid config.threads.length with inside | outside
    · rw [List.getElem?_append_left inside] at found
      exact monitored.threads pid thread found
    · rw [List.getElem?_append_right outside] at found
      obtain rfl := List.mem_singleton.mp (List.mem_of_getElem? found)
      rw [monitored.fresh pid outside]
      refine ⟨trivial, ?_⟩
      rw [Thread.resume_task]
      exact Thread.obeys_resume (codes task _)
  · intro pid outside
    rw [List.length_append] at outside
    exact monitored.fresh pid (Nat.le_of_add_right_le outside)

/-- One process has moved on. -/
theorem Monitored.moved {pid : Nat} {thread thread' : Thread system}
    {past : List (Exchange signature)} {world : system.World}
    (monitored : Monitored monitor footprint begins ends config pasts)
    (found : config.threads[pid]? = some thread)
    (tracked : Tracked monitor footprint begins ends thread' past) :
    Monitored monitor footprint begins ends
      { world, threads := config.threads.set pid thread' }
      (Function.update pasts pid past) := by
  have inside : pid < config.threads.length :=
    (List.getElem?_eq_some_iff.mp found).1
  constructor
  · intro other thread'' there
    by_cases here : other = pid
    · subst here
      rw [List.getElem?_set_self inside] at there
      cases there
      rw [Function.update_self]
      exact tracked
    · rw [List.getElem?_set_ne (Ne.symm here)] at there
      rw [Function.update_of_ne here]
      exact monitored.threads other thread'' there
  · intro other outside
    rw [List.length_set] at outside
    rw [Function.update_of_ne (Nat.ne_of_gt (Nat.lt_of_lt_of_le inside outside))]
    exact monitored.fresh other outside

include upholds codes in
theorem Monitored.step {label : Label system}
    (upheld : Upheld footprint settled invariant config)
    (monitored : Monitored monitor footprint begins ends config pasts)
    (admitted : admits config label)
    (taken : system.step label config = some next) :
    Monitored monitor footprint begins ends next
      (System.told config label pasts) := by
  cases label with
  | spawn task => exact monitored.spawned codes taken
  | run pid choice =>
      obtain ⟨task, command, resume, outcome, after, found, executed, rfl⟩ :=
        System.step_run_eq_some taken
      obtain ⟨replied, -⟩ := upholds.executes config pid choice command outcome
        after upheld.invariant admitted (upheld.permitted found) executed
      rw [System.told_run found executed]
      exact monitored.moved found
        ((monitored.threads pid _ found).executed replied _)
  | crash pid =>
      obtain ⟨task, program, found, rfl⟩ := System.step_crash_eq_some taken
      have crashed : Tracked monitor footprint begins ends
          (.crashed task : Thread system) (pasts pid) :=
        ⟨(monitored.threads pid _ found).follows, trivial⟩
      have moved : Monitored monitor footprint begins ends
          { config with threads := config.threads.set pid (.crashed task) }
          (Function.update pasts pid (pasts pid)) :=
        monitored.moved found crashed
      rwa [Function.update_eq_self] at moved
  | environment event =>
      obtain ⟨after, changed, rfl⟩ := System.step_environment_eq_some taken
      exact ⟨monitored.threads, monitored.fresh⟩

include upholds codes in
/-- In every run, whatever a process does rests on what it was told. -/
theorem Monitored.reaches {world : system.World} (holds : invariant world)
    (recorded : system.Recorded admits ⟨world, []⟩ config pasts) :
    Monitored monitor footprint begins ends config pasts := by
  have initial : Monitored monitor footprint begins ends ⟨world, []⟩
      (fun _ => []) :=
    ⟨fun _ _ found => by simp at found, fun _ _ => rfl⟩
  have both : Upheld footprint settled invariant config ∧
      Monitored monitor footprint begins ends config pasts := by
    apply System.Recorded.preserves recorded
    · exact ⟨upheld_nil holds, initial⟩
    · rintro state pasts label next ⟨upheld, monitored⟩ admitted taken
      exact ⟨upholds.step upheld admitted taken,
        monitored.step upholds codes upheld admitted taken⟩
  exact both.2

end Await
