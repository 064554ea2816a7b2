import PaymentQueue.Outlines.Footprint

/-!
# Who releases the execution lock

The execution lock is a key with a time to live.  An execution deletes it in
the `finally` of `processJob` without looking at who has written it, so an
execution that has outlived its own key deletes the key of its successor.
-/

namespace PaymentQueue.Ownership

open Await

variable {config : AppConfig}

/-- An acquisition of the lock, with the end of its time to live. -/
structure Hold where
  pid : Nat
  expiresAt : Time
  deriving DecidableEq, Repr

/-- The acquisitions that were not released: a `SET NX` that takes effect on a
free key adds one, a `DEL` that takes effect removes those of its process. -/
def observe (id : PaymentId) (state : PaymentConfig config) :
    PaymentLabel config → List Hold → List Hold
  | .run pid choice, holds =>
      if choice.isRefused = true then holds
      else
        match pending state pid with
        | some (.storage (.setNxLock key ttlSeconds)) =>
            if key = id ∧ state.world.locks id = none then
              holds ++ [⟨pid, state.world.now + ttlSeconds * 1000⟩]
            else holds
        | some (.storage (.delLock key)) =>
            if key = id then holds.filter fun hold => decide (hold.pid ≠ pid)
            else holds
        | _ => holds
  | _, holds => holds

/-- A configuration and the acquisitions so far. -/
abbrev Watched (config : AppConfig) : Type :=
  PaymentConfig config × List Hold

def watch (id : PaymentId) (label : PaymentLabel config)
    (watched : Watched config) : Option (Watched config) :=
  observed (paymentSystem config).step (observe id) label watched

/-- The executions that hold an unexpired lock. -/
def holders (watched : Watched config) : List Hold :=
  watched.2.filter fun hold => decide (watched.1.world.now ≤ hold.expiresAt)

def running (state : PaymentConfig config) (pid : Nat) : Bool :=
  state.threads[pid]?.any Thread.isRunning

/-- The pending command tries to take the lock of the payment. -/
def takesLock (id : PaymentId) : Command → Bool
  | .storage (.setNxLock key _) => decide (key = id)
  | _ => false

/-- Whoever takes the free lock finds no earlier holder still executing. -/
def succeedsNobody (id : PaymentId) (watched : Watched config) :
    PaymentLabel config → Bool
  | .run pid _ =>
      !(pending watched.1 pid).any (takesLock id) ||
        (watched.1.world.locks id).isSome ||
        watched.2.all fun hold => !running watched.1 hold.pid
  | _ => true

def held (holds : List Hold) (pid : Nat) : Bool :=
  holds.any fun hold => decide (hold.pid = pid)

/-- What remains of a process, depending on whether it has the lock. -/
def Brackets (id : PaymentId) (holds : List Hold) (pid : Nat)
    (program : Program signature (Except Thrown Output)) : Prop :=
  if held holds pid = true then Inside id program else Outside id program

/-- An unexpired acquisition is the current key, and a holder that still
executes can only meet its own key. -/
structure Inv (id : PaymentId) (watched : Watched config) : Prop where
  current : ∀ key, watched.1.world.locks id = some key →
    ⟨key.writer, key.expiresAt⟩ ∈ watched.2
  unexpired : ∀ hold ∈ watched.2, watched.1.world.now ≤ hold.expiresAt →
    watched.1.world.locks id = some ⟨(), hold.expiresAt, hold.pid⟩
  distinct : (watched.2.map Hold.pid).Nodup
  started : ∀ hold ∈ watched.2, hold.pid < watched.1.threads.length
  brackets : ∀ (pid : Nat) task program,
    watched.1.threads[pid]? = some (.running task program) →
    Brackets id watched.2 pid program
  owner : ∀ hold ∈ watched.2, running watched.1 hold.pid = true →
    ∀ key, watched.1.world.locks id = some key → key.writer = hold.pid

section Frames

variable {id : PaymentId} {tokenWaitMs pid : Nat} {command : Command}
  {choice : Choice} {before after : World}
  {outcome : Except Thrown command.Result}

/-- Commands on other locks leave the lock alone. -/
theorem exec_lock (executed : exec tokenWaitMs pid command choice before =
    some (outcome, after)) (other : command.lockOf ≠ some id) :
    after.locks id = before.locks id := by
  by_cases locks : command.part = some .locks
  · cases command with
    | storage command =>
        rcases exec_storage executed with ⟨-, rfl, -⟩ | ⟨-, rfl, -⟩
        · rfl
        · cases command with
          | setNxLock key ttlSeconds =>
              have different : id ≠ key := fun same => other (by rw [same]; rfl)
              simp only [StorageCommand.effect]
              split
              · rfl
              · exact Function.update_of_ne different _ _
          | delLock key =>
              have different : id ≠ key := fun same => other (by rw [same]; rfl)
              exact Function.update_of_ne different _ _
          | _ => cases locks
    | guardCall _ _ | guardRefund _ _ | emit _ => cases locks
  · have same : after.locks = before.locks := exec_agrees executed locks
    rw [same]

end Frames

section Steps

variable {id : PaymentId} {watched next : Watched config}
  {holds : List Hold} {pid other : Nat}

theorem held_eq_true : held holds pid = true ↔
    ∃ hold ∈ holds, hold.pid = pid := by
  simp [held]

private theorem held_append (ne : other ≠ pid) (expiresAt : Time) :
    held (holds ++ [⟨pid, expiresAt⟩]) other = held holds other := by
  simp [held, Ne.symm ne]

private theorem held_filter (ne : other ≠ pid) :
    held (holds.filter fun hold => decide (hold.pid ≠ pid)) other =
      held holds other := by
  rw [Bool.eq_iff_iff, held_eq_true, held_eq_true]
  constructor
  · rintro ⟨hold, member, same⟩
    exact ⟨hold, (List.mem_filter.mp member).1, same⟩
  · rintro ⟨hold, member, same⟩
    refine ⟨hold, List.mem_filter.mpr ⟨member, ?_⟩, same⟩
    rw [same]
    exact decide_eq_true ne

theorem running_eq_true {state : PaymentConfig config} :
    running state pid = true ↔ ∃ task program,
      state.threads[pid]? = some (.running task program) := by
  rw [running, Option.any_eq_true]
  constructor
  · rintro ⟨thread, found, runs⟩
    cases thread with
    | running task program => exact ⟨task, program, found⟩
    | ended task output => cases runs
    | crashed task => cases runs
  · rintro ⟨task, program, found⟩
    exact ⟨_, found, rfl⟩

/-- A process that had been started and runs after a step ran before it. -/
theorem running_before {label : PaymentLabel config}
    {state state' : PaymentConfig config}
    (taken : (paymentSystem config).step label state = some state')
    (started : pid < state.threads.length)
    (runs : running state' pid = true) : running state pid = true := by
  obtain ⟨task, program, found⟩ := running_eq_true.mp runs
  rcases System.running_step taken found with
    ⟨earlier, before, -⟩ | ⟨-, place, -⟩
  · exact running_eq_true.mpr ⟨task, earlier, before⟩
  · omega

private theorem length_step {label : PaymentLabel config}
    {state state' : PaymentConfig config}
    (taken : (paymentSystem config).step label state = some state') :
    state.threads.length ≤ state'.threads.length := by
  cases label with
  | spawn task =>
      cases taken
      simp
  | run pid choice =>
      obtain ⟨task, command, resume, outcome, after, -, -, rfl⟩ :=
        System.step_run_eq_some taken
      simp
  | crash pid =>
      obtain ⟨task, program, -, rfl⟩ := System.step_crash_eq_some taken
      simp
  | environment event =>
      obtain ⟨after, -, rfl⟩ := System.step_environment_eq_some taken
      exact Nat.le_refl _

/-- A step that leaves the lock, the clock and the acquisitions alone. -/
theorem Inv.frame (inv : Inv id watched) {label : PaymentLabel config}
    (taken : (paymentSystem config).step label watched.1 = some next.1)
    (lock : next.1.world.locks id = watched.1.world.locks id)
    (now : next.1.world.now = watched.1.world.now)
    (same : next.2 = watched.2)
    (brackets : ∀ (pid : Nat) task program,
      next.1.threads[pid]? = some (.running task program) →
      Brackets id watched.2 pid program) : Inv id next where
  current := by
    rw [lock, same]
    exact inv.current
  unexpired := by
    rw [lock, now, same]
    exact inv.unexpired
  distinct := by
    rw [same]
    exact inv.distinct
  started := by
    rw [same]
    intro hold member
    exact Nat.lt_of_lt_of_le (inv.started hold member) (length_step taken)
  brackets := by
    rw [same]
    exact brackets
  owner := by
    rw [lock, same]
    intro hold member runs
    exact inv.owner hold member
      (running_before taken (inv.started hold member) runs)

theorem Inv.spawn (inv : Inv id watched) (task : Task) :
    Inv id (⟨watched.1.world, watched.1.threads ++ [.resume task
      ((paymentSystem config).code task watched.1.world.now)]⟩,
      watched.2) := by
  refine @Inv.frame config id watched _ inv (.spawn task) rfl rfl rfl rfl ?_
  intro pid task' program found
  rcases System.running_append found with before | ⟨place, -, rfl⟩
  · exact inv.brackets pid task' program before
  · have fresh : held watched.2 pid = false := by
      rw [Bool.eq_false_iff, Ne, held_eq_true]
      rintro ⟨hold, member, here⟩
      have earlier := inv.started hold member
      omega
    rw [Brackets, if_neg (by simp [fresh])]
    exact outside_code config id task _

theorem Inv.crash (inv : Inv id watched) {state : PaymentConfig config}
    (taken : (paymentSystem config).step (.crash pid) watched.1 =
      some state) : Inv id (state, watched.2) := by
  have moved := taken
  obtain ⟨task, program, -, rfl⟩ := System.step_crash_eq_some moved
  refine inv.frame taken rfl rfl rfl ?_
  intro other task' program' found
  rcases System.running_set found with ⟨-, crashed⟩ | ⟨-, before⟩
  · cases crashed
  · exact inv.brackets other task' program' before

private theorem environment_lock {event : Event} {before after : World}
    (changed : environment event before = some after)
    (still : ∀ elapsed, event ≠ .tick elapsed) :
    after.locks = before.locks ∧ after.now = before.now := by
  rcases environment_cases changed with
    ⟨elapsed, ticks, -⟩ | ⟨queue, jobId, next, rfl⟩
  · exact (still elapsed ticks).elim
  · exact ⟨rfl, rfl⟩

/-- Time only takes keys away. -/
theorem tick_lock {world : World} {elapsed : Nat} {key : Expiring Unit} :
    (world.tick elapsed).locks id = some key ↔
      world.locks id = some key ∧ world.now + elapsed ≤ key.expiresAt := by
  simp [World.tick, Option.filter_eq_some_iff]

theorem Inv.tick (inv : Inv id watched) (elapsed : Nat) :
    Inv id (⟨watched.1.world.tick elapsed, watched.1.threads⟩,
      watched.2) where
  current := fun key stored => inv.current key (tick_lock.mp stored).1
  unexpired := by
    intro hold member lives
    have earlier : watched.1.world.now ≤ hold.expiresAt :=
      Nat.le_trans (Nat.le_add_right _ elapsed) lives
    exact tick_lock.mpr ⟨inv.unexpired hold member earlier, lives⟩
  distinct := inv.distinct
  started := inv.started
  brackets := inv.brackets
  owner := fun hold member runs key stored =>
    inv.owner hold member runs key (tick_lock.mp stored).1

theorem Inv.environment (inv : Inv id watched) {event : Event}
    {after : World} (changed : environment event watched.1.world = some after) :
    Inv id (⟨after, watched.1.threads⟩, watched.2) := by
  by_cases ticks : ∃ elapsed, event = .tick elapsed
  · obtain ⟨elapsed, rfl⟩ := ticks
    cases changed
    exact inv.tick elapsed
  · obtain ⟨lock, now⟩ := environment_lock changed
      fun elapsed same => ticks ⟨elapsed, same⟩
    refine @Inv.frame config id watched _ inv (.environment event) ?_
      (congrFun lock id) now rfl inv.brackets
    simp only [System.step, changed]

/-- Nothing was done to the lock. -/
theorem observe_foreign {state : PaymentConfig config} {command : Command}
    {choice : Choice} (suspended : pending state pid = some command)
    (other : command.lockOf ≠ some id) :
    observe id state (.run pid choice) holds = holds := by
  simp only [observe, suspended]
  split
  · rfl
  · split
    · rename_i key ttlSeconds same
      obtain rfl := Option.some.inj same
      rw [if_neg]
      rintro ⟨rfl, -⟩
      exact other rfl
    · rename_i key same
      obtain rfl := Option.some.inj same
      rw [if_neg]
      rintro rfl
      exact other rfl
    · rfl

section Run

variable {task : Task} {command : Command} {choice : Choice}
  {program : Program signature (Except Thrown Output)}
  {resume : Nat → Except Thrown command.Result →
    Program signature (Except Thrown Output)}
  {outcome : Except Thrown command.Result} {after : World}

/-- A command that does not concern the lock, or has no effect on it. -/
theorem Inv.unlocked (inv : Inv id watched)
    (found : watched.1.threads[pid]? =
      some (.running task (.await command resume)))
    (executed : exec config.tokenWaitMs pid command choice watched.1.world =
      some (outcome, after))
    (lock : after.locks id = watched.1.world.locks id)
    (follows : ∀ program, Thread.resume task
      (resume watched.1.world.now outcome) =
        (.running task program : PaymentThread config) →
      Brackets id watched.2 pid program) :
    Inv id (⟨after, watched.1.threads.set pid
      (.resume task (resume watched.1.world.now outcome))⟩, watched.2) := by
  refine @Inv.frame config id watched _ inv (.run pid choice) ?_ lock
    (exec_now executed) rfl ?_
  · simp only [System.step, found, executed]
  · intro other task' program running
    rcases System.running_set running with ⟨rfl, resumed⟩ | ⟨-, before⟩
    · obtain ⟨rfl, rfl⟩ := System.resume_eq_running resumed
      exact follows _ resumed
    · exact inv.brackets other task' program before

/-- The holder meets its own key or none, and removes it. -/
theorem Inv.release (inv : Inv id watched)
    (found : watched.1.threads[pid]? = some (.running task program))
    (holding : held watched.2 pid = true)
    {output : Except Thrown Output} :
    Inv id (⟨((StorageCommand.delLock id).effect pid watched.1.world).2,
        watched.1.threads.set pid (.resume task (.done output))⟩,
      watched.2.filter fun hold => decide (hold.pid ≠ pid)) := by
  obtain ⟨own, acquired, rfl⟩ := held_eq_true.mp holding
  have gone : ((StorageCommand.delLock id).effect own.pid
      watched.1.world).2.locks id = none := by
    simp [StorageCommand.effect]
  have runs : running watched.1 own.pid = true :=
    running_eq_true.mpr ⟨task, _, found⟩
  have kept : (watched.2.filter fun hold => decide (hold.pid ≠ own.pid)).Sublist
      watched.2 := List.filter_sublist
  constructor
  · intro key stored
    rw [gone] at stored
    cases stored
  · intro hold member lives
    obtain ⟨earlier, different⟩ := List.mem_filter.mp member
    have stored := inv.unexpired hold earlier lives
    have same := inv.owner own acquired runs _ stored
    exact (of_decide_eq_true different same).elim
  · exact inv.distinct.sublist (kept.map Hold.pid)
  · intro hold member
    rw [List.length_set]
    exact inv.started hold (kept.subset member)
  · intro other task' program' running
    rcases System.running_set running with ⟨-, ended⟩ | ⟨different, before⟩
    · cases ended
    · rw [Brackets, held_filter different]
      exact inv.brackets other task' program' before
  · intro hold member _ key stored
    rw [gone] at stored
    cases stored

/-- Nobody who took the lock earlier is still executing. -/
theorem Inv.acquire (inv : Inv id watched)
    (found : watched.1.threads[pid]? = some (.running task program))
    (holding : held watched.2 pid = false)
    (free : watched.1.world.locks id = none)
    (alone : ∀ hold ∈ watched.2, running watched.1 hold.pid = false)
    {resumed : Program signature (Except Thrown Output)}
    (inside : Inside id resumed) (ttlSeconds : Nat) :
    Inv id (⟨((StorageCommand.setNxLock id ttlSeconds).effect pid
        watched.1.world).2, watched.1.threads.set pid (.resume task resumed)⟩,
      watched.2 ++ [⟨pid, watched.1.world.now + ttlSeconds * 1000⟩]) := by
  have stored : ((StorageCommand.setNxLock id ttlSeconds).effect pid
      watched.1.world).2.locks id =
      some ⟨(), watched.1.world.now + ttlSeconds * 1000, pid⟩ := by
    simp [StorageCommand.effect, free]
  have now : ((StorageCommand.setNxLock id ttlSeconds).effect pid
      watched.1.world).2.now = watched.1.world.now := by
    simp [StorageCommand.effect, free]
  have fresh : ∀ hold ∈ watched.2, hold.pid ≠ pid := by
    intro hold member same
    rw [held_eq_true.mpr ⟨hold, member, same⟩] at holding
    cases holding
  constructor
  · intro key current
    rw [stored] at current
    obtain rfl := Option.some.inj current
    exact List.mem_append_right _ (List.mem_singleton.mpr rfl)
  · intro hold member lives
    rcases List.mem_append.mp member with earlier | added
    · rw [now] at lives
      rw [inv.unexpired hold earlier lives] at free
      cases free
    · obtain rfl := List.mem_singleton.mp added
      exact stored
  · rw [List.map_append, List.nodup_append]
    refine ⟨inv.distinct, by simp, ?_⟩
    intro first member second added
    obtain ⟨hold, earlier, rfl⟩ := List.mem_map.mp member
    obtain rfl := List.mem_singleton.mp added
    exact fresh hold earlier
  · intro hold member
    rw [List.length_set]
    rcases List.mem_append.mp member with earlier | added
    · exact inv.started hold earlier
    · obtain rfl := List.mem_singleton.mp added
      exact (List.getElem?_eq_some_iff.mp found).1
  · intro other task' program' running
    rcases System.running_set running with ⟨rfl, ended⟩ | ⟨different, before⟩
    · obtain ⟨rfl, rfl⟩ := System.resume_eq_running ended
      rw [Brackets, if_pos (held_eq_true.mpr ⟨_, List.mem_append_right _
        (List.mem_singleton.mpr rfl), rfl⟩)]
      exact inside
    · rw [Brackets, held_append different]
      exact inv.brackets other task' program' before
  · intro hold member runs key current
    rw [stored] at current
    obtain rfl := Option.some.inj current
    rcases List.mem_append.mp member with earlier | added
    · obtain ⟨task', program', running⟩ := running_eq_true.mp runs
      rcases System.running_set running with ⟨same, -⟩ | ⟨-, before⟩
      · exact same.symm
      · have idle := alone hold earlier
        rw [running_eq_true.mpr ⟨task', program', before⟩] at idle
        cases idle
    · obtain rfl := List.mem_singleton.mp added
      rfl

private theorem observe_refused {state : PaymentConfig config}
    (refused : choice.isRefused = true) :
    observe id state (.run pid choice) holds = holds := by
  simp [observe, refused]

/-- A process that ends runs no further. -/
theorem not_running_of_done (ended : ∃ value, program = .done value)
    {resumed : Program signature (Except Thrown Output)}
    (runs : Thread.resume task program =
      (.running task resumed : PaymentThread config)) : False := by
  obtain ⟨value, rfl⟩ := ended
  cases runs

/-- A step of a process that has taken the lock. -/
theorem Inv.run_inside (inv : Inv id watched)
    (found : watched.1.threads[pid]? =
      some (.running task (.await command resume)))
    (executed : exec config.tokenWaitMs pid command choice watched.1.world =
      some (outcome, after))
    (holding : held watched.2 pid = true)
    (inside : Inside id (.await command resume)) :
    Inv id (⟨after, watched.1.threads.set pid
        (.resume task (resume watched.1.world.now outcome))⟩,
      observe id watched.1 (.run pid choice) watched.2) := by
  have suspended := pending_eq_of_running found
  rcases inside with ⟨other, rest⟩ | ⟨rfl, ends⟩
  · rw [observe_foreign suspended other]
    apply inv.unlocked found executed (exec_lock executed other)
    intro program resumed
    rw [Brackets, if_pos holding, (System.resume_eq_running resumed).2]
    exact rest _ _
  · rcases exec_storage executed with ⟨refused, rfl, -⟩ | ⟨effective, rfl, -⟩
    · rw [observe_refused refused]
      apply inv.unlocked found executed rfl
      intro program resumed
      exact (not_running_of_done (ends _ _) resumed).elim
    · have released : observe id watched.1 (.run pid choice) watched.2 =
          watched.2.filter fun hold => decide (hold.pid ≠ pid) := by
        simp [observe, effective, suspended]
      obtain ⟨output, ended⟩ := ends watched.1.world.now outcome
      rw [released, ended]
      exact inv.release found holding

/-- A step of a process that has not taken the lock. -/
theorem Inv.run_outside (inv : Inv id watched)
    (admitted : succeedsNobody id watched (.run pid choice) = true)
    (found : watched.1.threads[pid]? =
      some (.running task (.await command resume)))
    (executed : exec config.tokenWaitMs pid command choice watched.1.world =
      some (outcome, after))
    (holding : held watched.2 pid = false)
    (outside : Outside id (.await command resume)) :
    Inv id (⟨after, watched.1.threads.set pid
        (.resume task (resume watched.1.world.now outcome))⟩,
      observe id watched.1 (.run pid choice) watched.2) := by
  have suspended := pending_eq_of_running found
  rcases outside with ⟨other, rest⟩ | ⟨⟨ttlSeconds, rfl⟩, rest⟩
  · rw [observe_foreign suspended other]
    apply inv.unlocked found executed (exec_lock executed other)
    intro program resumed
    rw [Brackets, if_neg (by simp [holding]),
      (System.resume_eq_running resumed).2]
    exact rest _ _
  · obtain ⟨inside, missed⟩ := rest watched.1.world.now outcome
    rcases exec_storage executed with
      ⟨refused, rfl, failed⟩ | ⟨effective, rfl, replied⟩
    · rw [observe_refused refused]
      apply inv.unlocked found executed rfl
      intro program resumed
      refine (not_running_of_done (missed ?_) resumed).elim
      cases outcome with
      | ok acquired => cases failed
      | error error => rfl
    · cases stored : watched.1.world.locks id with
      | some key =>
          have kept : observe id watched.1 (.run pid choice) watched.2 =
              watched.2 := by
            simp [observe, effective, suspended, stored]
          rw [kept]
          apply inv.unlocked found executed
          · simp [StorageCommand.effect, stored]
          · intro program resumed
            refine (not_running_of_done (missed ?_) resumed).elim
            rcases replied with rfl | failed
            · simp [StorageCommand.effect, stored, acquires]
            · cases outcome with
              | ok acquired => cases failed
              | error error => rfl
      | none =>
          have taken : observe id watched.1 (.run pid choice) watched.2 =
              watched.2 ++
                [⟨pid, watched.1.world.now + ttlSeconds * 1000⟩] := by
            simp [observe, effective, suspended, stored]
          rw [taken]
          refine inv.acquire found holding stored ?_ inside ttlSeconds
          intro hold member
          simp only [succeedsNobody, suspended, stored, takesLock,
            Option.any_some, Option.isSome_none, decide_true, Bool.not_true,
            Bool.or_false, Bool.false_or, List.all_eq_true,
            Bool.not_eq_true'] at admitted
          exact admitted hold member

theorem Inv.run (inv : Inv id watched) {state : PaymentConfig config}
    (admitted : succeedsNobody id watched (.run pid choice) = true)
    (taken : (paymentSystem config).step (.run pid choice) watched.1 =
      some state) :
    Inv id (state, observe id watched.1 (.run pid choice) watched.2) := by
  obtain ⟨task, command, resume, outcome, after, found, executed, rfl⟩ :=
    System.step_run_eq_some taken
  have brackets := inv.brackets pid task _ found
  rw [Brackets] at brackets
  cases holding : held watched.2 pid with
  | true =>
      rw [if_pos holding] at brackets
      exact inv.run_inside found executed holding brackets
  | false =>
      rw [if_neg (by simp [holding])] at brackets
      exact inv.run_outside admitted found executed holding brackets

end Run

theorem Inv.step (inv : Inv id watched) {label : PaymentLabel config}
    (admitted : succeedsNobody id watched label = true)
    (taken : watch id label watched = some next) : Inv id next := by
  obtain ⟨moved, same⟩ := observed_eq_some.mp taken
  obtain ⟨state, holds⟩ := next
  dsimp only at moved same
  subst same
  cases label with
  | spawn task =>
      cases moved
      exact inv.spawn task
  | run pid choice => exact inv.run admitted moved
  | crash pid => exact inv.crash moved
  | environment event =>
      obtain ⟨after, changed, rfl⟩ := System.step_environment_eq_some moved
      exact inv.environment changed

theorem Inv.initially {world : World} (free : world.locks id = none) :
    Inv id ((initially world, []) : Watched config) where
  current := by
    intro key stored
    rw [PaymentQueue.initially, free] at stored
    cases stored
  unexpired := fun _ member => by cases member
  distinct := List.nodup_nil
  started := fun _ member => by cases member
  brackets := fun _ _ _ found => by cases found
  owner := fun _ member => by cases member

/-- Unexpired acquisitions are the current key, which has one writer. -/
theorem Inv.holders_le_one (inv : Inv id watched) :
    (holders watched).length ≤ 1 := by
  have distinct : ((holders watched).map Hold.pid).Nodup :=
    inv.distinct.sublist (List.filter_sublist.map Hold.pid)
  have unexpired : ∀ hold ∈ holders watched, watched.1.world.locks id =
      some ⟨(), hold.expiresAt, hold.pid⟩ := by
    intro hold member
    obtain ⟨acquired, lives⟩ := List.mem_filter.mp member
    exact inv.unexpired hold acquired (of_decide_eq_true lives)
  cases holding : holders watched with
  | nil => exact Nat.zero_le 1
  | cons first rest =>
      cases rest with
      | nil => exact Nat.le_refl 1
      | cons second rest =>
          rw [holding] at distinct unexpired
          have one := unexpired first List.mem_cons_self
          have two := unexpired second
            (List.mem_cons_of_mem _ List.mem_cons_self)
          rw [one] at two
          have same : first.pid = second.pid :=
            congrArg Expiring.writer (Option.some.inj two)
          simp [same] at distinct

/-- Whoever removes the key has written it. -/
theorem Inv.writer (inv : Inv id watched) {choice : Choice}
    {state : PaymentConfig config} {key : Expiring Unit}
    (taken : (paymentSystem config).step (.run pid choice) watched.1 =
      some state)
    (stored : watched.1.world.locks id = some key)
    (removed : state.world.locks id = none) : key.writer = pid := by
  obtain ⟨task, command, resume, outcome, after, found, executed, rfl⟩ :=
    System.step_run_eq_some taken
  have concerned : command.lockOf = some id := by
    by_contra other
    have same := exec_lock executed other
    rw [removed, stored] at same
    cases same
  have brackets := inv.brackets pid task _ found
  rw [Brackets] at brackets
  split at brackets
  case isTrue holding =>
    obtain ⟨own, acquired, rfl⟩ := held_eq_true.mp holding
    exact inv.owner own acquired
      (running_eq_true.mpr ⟨task, _, found⟩) key stored
  case isFalse =>
    rcases brackets with ⟨other, -⟩ | ⟨⟨ttlSeconds, rfl⟩, -⟩
    · exact (other concerned).elim
    · rcases @exec_storage config.tokenWaitMs _ _ _ _ _ _ executed with
        ⟨-, rfl, -⟩ | ⟨-, rfl, -⟩
      · rw [stored] at removed
        cases removed
      · simp [StorageCommand.effect, stored] at removed

end Steps

/-- When an execution that takes the free lock finds no earlier holder still
executing, at most one execution at a time holds an unexpired lock, and
nobody removes the lock of another. -/
theorem released_by_owner (config : AppConfig) (id : PaymentId)
    (world : World) (free : world.locks id = none) (watched : Watched config)
    (reached : Reaches (watch id)
      (fun watched label => succeedsNobody id watched label = true)
      (initially world, []) watched) :
    (holders watched).length ≤ 1 ∧
      ∀ pid choice next key,
        (paymentSystem config).step (.run pid choice) watched.1 = some next →
        watched.1.world.locks id = some key →
        next.world.locks id = none → key.writer = pid := by
  have inv : Inv id watched := reached.invariant (Inv.initially free)
    fun _ _ _ inv admitted taken => inv.step admitted taken
  exact ⟨inv.holders_le_one,
    fun _ _ _ _ taken stored removed => inv.writer taken stored removed⟩

/-- A worker crashes under the lock; when its time is over another worker
takes the lock, and a third one finds it taken. -/
def taken : List (PaymentLabel .default) :=
  [.spawn (.submit (submission "stripe" 0))] ++ runs 0 6 ++
    [.spawn (.process (delivery 0))] ++ runs 1 5 ++
    [.crash 1, .environment (.tick 600001),
      .spawn (.process (delivery 0)), .spawn (.process (delivery 0))] ++
    runs 2 5 ++ runs 3 3

theorem released_by_owner_taken :
    ∃ watched : Watched .default, holders watched = [⟨2, 1200001⟩] ∧
      (holders watched).length ≤ 1 := by
  obtain ⟨watched, reached, checked⟩ := exists_of_replay
    (watch "p1") (succeedsNobody "p1") taken (initially (World.empty 0), [])
    (fun watched => decide (holders watched = [⟨2, 1200001⟩]))
    (by decide +kernel)
  exact ⟨watched, of_decide_eq_true checked,
    (released_by_owner .default "p1" (World.empty 0) rfl watched reached).1⟩

/-- Nothing throws or crashes. -/
def undisturbed (_ : Watched config) : PaymentLabel config → Bool
  | .run _ choice => choice.faultless
  | .crash _ => false
  | _ => true

/-- The first worker outlives its lock and is about to release the lock of the
second one. -/
def outlived : List (PaymentLabel .default) :=
  [.spawn (.submit (submission "stripe" 0))] ++ runs 0 6 ++
    [.spawn (.process (delivery 0)), .spawn (.process (delivery 0)),
      .spawn (.process (delivery 0))] ++ runs 1 5 ++ runs 2 2 ++ runs 3 2 ++
    [.environment (.tick 600001)] ++ runs 2 3 ++ runs 1 6 ++
    [accepts 1 "tx1"] ++ runs 1 12

theorem released_by_other :
    (∃ (watched : Watched .default) (next : PaymentConfig .default)
        (key : Expiring Unit),
      Reaches (watch "p1")
        (fun watched label => undisturbed watched label = true)
        (initially (World.empty 0), []) watched ∧
      (paymentSystem .default).step (.run 1 .succeed) watched.1 = some next ∧
      watched.1.world.locks "p1" = some key ∧
      next.world.locks "p1" = none ∧ key.writer = 2) ∧
    ∃ watched : Watched .default,
      Reaches (watch "p1")
        (fun watched label => undisturbed watched label = true)
        (initially (World.empty 0), []) watched ∧
      (holders watched).map Hold.pid = [2, 3] := by
  constructor
  · obtain ⟨watched, reached, checked⟩ := exists_of_replay
      (watch "p1") undisturbed outlived (initially (World.empty 0), [])
      (fun watched =>
        ((paymentSystem .default).step (.run 1 .succeed) watched.1).any
          (fun next : PaymentConfig .default =>
            (next.world.locks "p1").isNone) &&
        (watched.1.world.locks "p1").any fun key : Expiring Unit =>
          decide (key.writer = 2))
      (by decide +kernel)
    simp only [Bool.and_eq_true, Option.any_eq_true, decide_eq_true_eq,
      Option.isNone_iff_eq_none] at checked
    obtain ⟨⟨next, moved, removed⟩, key, stored, writer⟩ := checked
    exact ⟨watched, next, key, reached, moved, stored, removed, writer⟩
  · obtain ⟨watched, reached, checked⟩ := exists_of_replay
      (watch "p1") undisturbed (outlived ++ runs 1 1 ++ runs 3 1)
      (initially (World.empty 0), [])
      (fun watched => decide ((holders watched).map Hold.pid = [2, 3]))
      (by decide +kernel)
    exact ⟨watched, reached, of_decide_eq_true checked⟩

end PaymentQueue.Ownership
