import PaymentQueue.Queue.Sweeps
import PaymentQueue.Safety.Shutdown

/-!
# Loops over all gateways

The map may grow while a loop goes through it.  A gateway that enters it keeps
its place behind the others, so that the loop comes to it as well: when it
ends, it has been through the whole map, once and in its order.
-/

namespace PaymentQueue.Sweeps

open Await Pool Orphans Filing Shutdowns Sweeping

def keys (manager : Lifecycle) : List String :=
  manager.pool.runtimes.map Prod.fst

def Mapped (manager : Lifecycle) : Prop :=
  Filed (requests manager.pool) manager.pool

/-- A manager with the same map. -/
structure Remapped (before after : Lifecycle) : Prop where
  calls : after.pool.calls = before.pool.calls
  objects : after.pool.objects = before.pool.objects
  runtimes : after.pool.runtimes = before.pool.runtimes
  queues : after.pool.queues.length = before.pool.queues.length

/-- The runtime was found at a place of the map. -/
structure Located (manager : Lifecycle) (position : Nat)
    (runtime : GatewayRuntime) : Prop where
  key : (keys manager)[position]? = some runtime.gatewayId
  named : runtime.queueName = QueueManager.queueNameFor runtime.gatewayId

section Map

variable {manager before after : Lifecycle} {workerPoolSize position : Nat}
  {runtime : GatewayRuntime} {task : SweepTask}
  {gateways : List GatewayQueueDepths}

theorem Remapped.mapped (same : Remapped before after)
    (mapped : Mapped before) : Mapped after := by
  have asked : requests after.pool = requests before.pool := by
    rw [requests, requests, same.calls]
  refine ⟨?_, ?_, ?_, ?_⟩
  · rw [same.objects, same.queues]
    exact mapped.named
  · rw [asked, same.queues]
    exact mapped.requested
  · rw [same.runtimes, same.objects]
    exact mapped.mapped
  · rw [same.runtimes]
    exact mapped.sole

theorem Remapped.keys (same : Remapped before after) :
    keys after = keys before := by
  rw [Sweeps.keys, Sweeps.keys, same.runtimes]

theorem Remapped.refl (manager : Lifecycle) : Remapped manager manager :=
  ⟨rfl, rfl, rfl, rfl⟩

theorem Remapped.grown (same : Remapped before after) :
    Sweeps.keys before <+: Sweeps.keys after :=
  ⟨[], by rw [List.append_nil, same.keys]⟩

private theorem remapped_close (target : Closable) (manager : Lifecycle) :
    Remapped manager (manager.close target) := by
  cases target with
  | worker worker => exact ⟨rfl, rfl, rfl, rfl⟩
  | queue queue => exact ⟨rfl, rfl, rfl, List.length_modify ..⟩
  | dlq => exact ⟨rfl, rfl, rfl, rfl⟩

private theorem remapped_dlqQueue (manager : Lifecycle) :
    Remapped manager manager.dlqQueue := by
  rw [Lifecycle.dlqQueue]
  split <;> exact ⟨rfl, rfl, rfl, rfl⟩

private theorem remapped_disconnect (manager : Lifecycle) :
    Remapped manager manager.disconnect :=
  ⟨rfl, rfl, rfl, List.length_mapIdx ..⟩

/-- The map of the gateways only grows, at its end. -/
theorem mapped_manager {label : Lifecycle.Label} (mapped : Mapped before)
    (taken : Lifecycle.step workerPoolSize label before = some after) :
    Mapped after ∧ keys before <+: keys after := by
  have same : ∀ {next : Lifecycle}, Remapped before next →
      Mapped next ∧ keys before <+: keys next :=
    fun same => ⟨same.mapped mapped, same.grown⟩
  cases label with
  | tick elapsed =>
      cases taken
      exact same ⟨rfl, rfl, rfl, rfl⟩
  | pool label =>
      obtain ⟨pool, moved, rfl⟩ := Option.map_eq_some_iff.mp taken
      exact ⟨filed_step mapped moved, (grows_step moved).keys⟩
  | dlqQueue =>
      cases taken
      exact same (remapped_dlqQueue before)
  | shutdown =>
      cases found : before.shutdown with
      | none =>
          simp only [Lifecycle.step, found] at taken
          cases taken
          exact same ⟨rfl, rfl, rfl, rfl⟩
      | some shutdown =>
          simp only [Lifecycle.step, found] at taken
          cases taken
  | timeout index =>
      cases found : before.shutdown with
      | none =>
          simp only [Lifecycle.step, found] at taken
          cases taken
      | some shutdown =>
          simp only [Lifecycle.step, found] at taken
          obtain ⟨worker, -, -, rfl⟩ := timeout_cases taken
          exact same ⟨rfl, rfl, rfl, rfl⟩
  | settle index resolved =>
      cases found : before.shutdown with
      | none =>
          simp only [Lifecycle.step, found] at taken
          cases taken
      | some shutdown =>
          simp only [Lifecycle.step, found] at taken
          obtain ⟨target, closing, -, -, rfl⟩ := settle_cases taken
          cases resolved with
          | false => exact same ⟨rfl, rfl, rfl, rfl⟩
          | true =>
              have closed := remapped_close target before
              exact same ⟨closed.calls, closed.objects, closed.runtimes,
                closed.queues⟩
  | finish =>
      cases found : before.shutdown with
      | none =>
          simp only [Lifecycle.step, found] at taken
          cases taken
      | some shutdown =>
          simp only [Lifecycle.step, found] at taken
          obtain ⟨-, -, rfl⟩ := finish_cases taken
          have left := remapped_disconnect before
          exact same ⟨left.calls, left.objects, left.runtimes, left.queues⟩

private theorem mapped_create : Mapped .create :=
  filed_create

theorem Located.later (located : Located before position runtime)
    (grown : keys before <+: keys after) :
    Located after position runtime := by
  refine ⟨?_, located.named⟩
  obtain ⟨rest, same⟩ := grown
  rw [← same, List.getElem?_append_left
    (List.getElem?_eq_some_iff.mp located.key).1, located.key]

theorem remapped_visit : Remapped manager
    (visit task gateways position manager).2 := by
  unfold visit
  split
  · exact ⟨rfl, rfl, rfl, rfl⟩
  · split
    · exact remapped_dlqQueue manager
    · exact ⟨rfl, rfl, rfl, rfl⟩
    · exact ⟨rfl, rfl, rfl, rfl⟩

/-- A loop comes to the runtime at its position, unless it is through. -/
theorem visit_cases (mapped : Mapped manager) :
    (∃ runtime, Located manager position runtime ∧
      (visit task gateways position manager).1 =
        ⟨task, gateways, .awaiting position runtime⟩) ∨
    ((keys manager).length ≤ position ∧
      ((visit task gateways position manager).1 =
          ⟨task, gateways, .opening⟩ ∨
        task ≠ .collectQueueDepths ∧
          (visit task gateways position manager).1 =
            ⟨task, gateways, .returned none⟩)) := by
  unfold visit
  split
  case h_1 runtime found =>
    obtain ⟨entry, present, object⟩ := Option.bind_eq_some_iff.mp found
    have named := mapped.mapped entry (List.mem_of_getElem? present)
    rw [List.getElem?_map, object] at named
    have same : runtime.gatewayId = entry.1 := Option.some.inj named
    refine .inl ⟨runtime, ⟨?_, ?_⟩, rfl⟩
    · rw [keys, List.getElem?_map, present, same]
      rfl
    · exact (mapped.named _ _ _ (List.mem_map_of_mem
        (List.mem_of_getElem? object))).1
  case h_2 missing =>
    refine .inr ⟨?_, ?_⟩
    · rw [keys, List.length_map]
      by_contra inside
      have present := List.getElem?_eq_getElem (Nat.lt_of_not_le inside)
      rw [present, Option.bind_some] at missing
      have named := mapped.mapped _ (List.mem_of_getElem? present)
      rw [List.getElem?_map, missing] at named
      cases named
    · split
      · exact .inl rfl
      · exact .inr ⟨nofun, rfl⟩
      · exact .inr ⟨nofun, rfl⟩

/-- Where a loop stands, as a call of the worker pools. -/
def poolCall : SweepCall → PoolCall
  | .awaiting position _ => .sweeping position
  | .executed position _ _ => .sweeping position
  | .opening | .counting | .counted _ | .returned _ | .thrown => .ended

/-- Both loops look for the next entry of the same map. -/
theorem visit_sweep (mapped : Mapped manager) :
    poolCall (visit task gateways position manager).1.call =
      manager.pool.sweep position := by
  rcases @visit_cases manager position task gateways mapped with
    ⟨runtime, located, visited⟩ | ⟨through, visited⟩
  · have inside := (List.getElem?_eq_some_iff.mp located.key).1
    rw [Sweeps.keys, List.length_map] at inside
    rw [visited, Pool.sweep, if_pos inside]
    rfl
  · rw [Sweeps.keys, List.length_map] at through
    rw [Pool.sweep, if_neg (Nat.not_lt.mpr through)]
    rcases visited with visited | ⟨-, visited⟩
    · rw [visited]
      rfl
    · rw [visited]
      rfl

end Map

/-- What becomes of a loop when the system moves from `before` to `after`. -/
inductive Turn (before after : Sweeping) (sweep : Sweep) : Sweep → Prop where
  | still : Turn before after sweep sweep
  | commanded {position : Nat} {runtime : GatewayRuntime} {pauses : Bool}
      (call : sweep.call = .awaiting position runtime)
      (task : sweep.task.pauses? = some pauses)
      (effect : after.paused runtime.queueName = pauses) :
      Turn before after sweep
        { sweep with call := .executed position runtime none }
  | asked {position : Nat} {runtime : GatewayRuntime}
      (call : sweep.call = .awaiting position runtime)
      (task : sweep.task.pauses? = none) :
      Turn before after sweep
        { sweep with
          call := .executed position runtime
            (some (before.jobs runtime.queueName)) }
  | visited {position : Nat} {runtime : GatewayRuntime}
      {counts : Option JobCounts}
      (call : sweep.call = .executed position runtime counts) :
      Turn before after sweep
        (visit sweep.task (sweep.gateways ++ (counts.map
          (gatewayDepths runtime.gatewayId runtime.queueName)).toList)
          (position + 1) before.manager).1
  | counting (call : sweep.call = .opening) :
      Turn before after sweep { sweep with call := .counting }
  | counted (call : sweep.call = .counting) :
      Turn before after sweep
        { sweep with call := .counted (before.jobs QueueManager.dlqQueueName) }
  | returned {counts : JobCounts} (call : sweep.call = .counted counts) :
      Turn before after sweep
        { sweep with call := .returned (some (dlqDepths counts)) }
  | thrown : Turn before after sweep { sweep with call := .thrown }

section Turns

variable {state next : Sweeping} {sweep moved : Sweep} {index place : Nat}
  {workerPoolSize : Nat} {label : Sweeping.Label}

private theorem turn_proceed (mapped : Mapped state.manager)
    (turn : Turn state next sweep moved) (awaited : moved.call ≠ .thrown) :
    poolCall moved.call = poolCall sweep.call ∨
      state.manager.pool.proceed workerPoolSize (poolCall sweep.call) =
        (poolCall moved.call, state.manager.pool) := by
  cases turn with
  | still => exact .inl rfl
  | commanded call task effect => exact .inl (by rw [call]; rfl)
  | asked call task => exact .inl (by rw [call]; rfl)
  | visited call =>
      right
      rw [call, visit_sweep mapped]
      rfl
  | counting call => exact .inl (by rw [call]; rfl)
  | counted call => exact .inl (by rw [call]; rfl)
  | returned call => exact .inl (by rw [call]; rfl)
  | thrown => exact absurd rfl awaited

private theorem execute_turn (taken : state.execute index sweep = some next) :
    ∃ moved, Turn state next sweep moved ∧
      next.sweeps = state.sweeps.set index moved := by
  unfold execute at taken
  split at taken
  case h_1 position runtime call =>
    split at taken
    case h_1 pauses task =>
      cases taken
      exact ⟨_, .commanded call task (if_pos rfl), rfl⟩
    case h_2 task =>
      cases taken
      exact ⟨_, .asked call task, rfl⟩
  case h_2 call =>
    cases taken
    exact ⟨_, .counted call, rfl⟩
  case h_3 => cases taken

private theorem resolve_turn (taken : state.resolve index sweep = some next) :
    ∃ moved, Turn state next sweep moved ∧
      next.sweeps = state.sweeps.set index moved := by
  unfold resolve at taken
  split at taken
  case h_1 position runtime counts call =>
    cases taken
    exact ⟨_, .visited call, rfl⟩
  case h_2 call =>
    cases taken
    exact ⟨_, .counting call, rfl⟩
  case h_3 counts call =>
    cases taken
    exact ⟨_, .returned call, rfl⟩
  case h_4 => cases taken

private theorem reject_turn (taken : state.reject index sweep = some next) :
    ∃ moved, Turn state next sweep moved ∧
      next.sweeps = state.sweeps.set index moved := by
  unfold reject at taken
  split at taken
  case h_1 => cases taken
  case h_2 => cases taken
  case h_3 =>
    cases taken
    exact ⟨_, .thrown, rfl⟩

/-- A step turns one loop and leaves the others alone. -/
theorem turn_step (found : state.sweeps[place]? = some sweep)
    (taken : Sweeping.step workerPoolSize label state = some next) :
    ∃ moved, next.sweeps[place]? = some moved ∧
      Turn state next sweep moved := by
  have turned : ∀ {index : Nat} {other : Sweep},
      state.sweeps[index]? = some other →
      (∃ moved, Turn state next other moved ∧
        next.sweeps = state.sweeps.set index moved) →
      ∃ moved, next.sweeps[place]? = some moved ∧
        Turn state next sweep moved := by
    rintro index other present ⟨moved, turn, same⟩
    rw [same]
    by_cases here : index = place
    · subst here
      rw [found] at present
      obtain rfl := Option.some.inj present
      exact ⟨moved, List.getElem?_set_self
        (List.getElem?_eq_some_iff.mp found).1, turn⟩
    · rw [List.getElem?_set_ne here, found]
      exact ⟨sweep, rfl, .still⟩
  cases label with
  | manager label =>
      obtain ⟨manager, -, rfl⟩ := Option.map_eq_some_iff.mp taken
      exact ⟨sweep, found, .still⟩
  | call task =>
      cases taken
      refine ⟨sweep, ?_, .still⟩
      exact (List.getElem?_append_left
        (List.getElem?_eq_some_iff.mp found).1).trans found
  | execute index =>
      obtain ⟨other, present, taken⟩ := Option.bind_eq_some_iff.mp taken
      exact turned present (execute_turn taken)
  | resolve index =>
      obtain ⟨other, present, taken⟩ := Option.bind_eq_some_iff.mp taken
      exact turned present (resolve_turn taken)
  | reject index =>
      obtain ⟨other, present, taken⟩ := Option.bind_eq_some_iff.mp taken
      exact turned present (reject_turn taken)
  | setPaused gatewayId pauses =>
      cases taken
      exact ⟨sweep, found, .still⟩
  | setJobs queueName counts =>
      cases taken
      exact ⟨sweep, found, .still⟩

/-- The map stays in order, and only grows. -/
theorem mapped_step (mapped : Mapped state.manager)
    (taken : Sweeping.step workerPoolSize label state = some next) :
    Mapped next.manager ∧ keys state.manager <+: keys next.manager := by
  have same : ∀ {manager : Lifecycle}, Remapped state.manager manager →
      Mapped manager ∧ keys state.manager <+: keys manager :=
    fun same => ⟨same.mapped mapped, same.grown⟩
  have unmoved := Remapped.refl state.manager
  cases label with
  | manager label =>
      obtain ⟨manager, moved, rfl⟩ := Option.map_eq_some_iff.mp taken
      exact mapped_manager mapped moved
  | call task =>
      cases taken
      exact same remapped_visit
  | execute index =>
      obtain ⟨sweep, -, taken⟩ := Option.bind_eq_some_iff.mp taken
      unfold execute at taken
      split at taken
      · split at taken <;> cases taken <;> exact same unmoved
      · cases taken
        exact same unmoved
      · cases taken
  | resolve index =>
      obtain ⟨sweep, -, taken⟩ := Option.bind_eq_some_iff.mp taken
      unfold resolve at taken
      split at taken
      · cases taken
        exact same remapped_visit
      · cases taken
        exact same unmoved
      · cases taken
        exact same unmoved
      · cases taken
  | reject index =>
      obtain ⟨sweep, -, taken⟩ := Option.bind_eq_some_iff.mp taken
      unfold reject at taken
      split at taken <;> cases taken
      exact same unmoved
  | setPaused gatewayId pauses =>
      cases taken
      exact same unmoved
  | setJobs queueName counts =>
      cases taken
      exact same unmoved

private theorem mapped_reached {jobs : String → JobCounts}
    (reached : Reaches (Sweeping.step workerPoolSize) (fun _ _ => True)
      (.create jobs) state) : Mapped state.manager :=
  reached.invariant mapped_create fun _ _ _ mapped _ taken =>
    (mapped_step mapped taken).1

/-- Unless the command of a loop rejects, the call of the worker pools at the
same entry of the map keeps its place or goes on with the loop. -/
theorem sweep_proceeds {jobs : String → JobCounts}
    (reached : Reaches (Sweeping.step workerPoolSize) (fun _ _ => True)
      (.create jobs) state)
    (found : state.sweeps[place]? = some sweep)
    (taken : Sweeping.step workerPoolSize label state = some next) :
    ∃ moved, next.sweeps[place]? = some moved ∧
      (moved.call = .thrown ∨
        poolCall moved.call = poolCall sweep.call ∨
        state.manager.pool.proceed workerPoolSize (poolCall sweep.call) =
          (poolCall moved.call, state.manager.pool)) := by
  obtain ⟨moved, present, turn⟩ := turn_step found taken
  refine ⟨moved, present, ?_⟩
  by_cases rejected : moved.call = .thrown
  · exact .inl rejected
  · exact .inr (turn_proceed (mapped_reached reached) turn rejected)

/-- What the turns of a loop preserve holds of it from its begin on. -/
theorem sweep_run {admits : Sweeping → Sweeping.Label → Prop}
    {holds : Sweeping → Sweep → Prop} {begun later : Sweeping}
    {task : SweepTask} (mapped : Mapped begun.manager)
    (start : holds (begun.begin task) (visit task [] 0 begun.manager).1)
    (turned : ∀ state label next sweep moved, admits state label →
      Sweeping.step workerPoolSize label state = some next →
      Mapped state.manager → keys begun.manager <+: keys state.manager →
      keys state.manager <+: keys next.manager →
      Turn state next sweep moved → holds state sweep → holds next moved)
    (continued : Reaches (Sweeping.step workerPoolSize) admits
      (begun.begin task) later) :
    Mapped later.manager ∧ keys begun.manager <+: keys later.manager ∧
      ∃ sweep, later.sweeps[begun.sweeps.length]? = some sweep ∧
        holds later sweep := by
  have first : Remapped begun.manager (begun.begin task).manager :=
    remapped_visit
  refine @Reaches.invariant _ _ _ _ (fun state => Mapped state.manager ∧
    keys begun.manager <+: keys state.manager ∧
    ∃ sweep, state.sweeps[begun.sweeps.length]? = some sweep ∧
      holds state sweep) _ _ continued ?_ ?_
  · exact ⟨first.mapped mapped, first.grown, _,
      List.getElem?_concat_length .., start⟩
  · rintro state label next ⟨mapped, since, sweep, found, held⟩ admitted taken
    obtain ⟨moved, found', turn⟩ := turn_step found taken
    obtain ⟨mapped', grown⟩ := mapped_step mapped taken
    exact ⟨mapped', since.trans grown, moved, found',
      turned state label next sweep moved admitted taken mapped since grown
        turn held⟩

end Turns

/-- No command to the contrary is executed. -/
def agrees (pauses : Bool) (state : Sweeping) : Sweeping.Label → Bool
  | .execute index =>
      (state.sweeps[index]?.bind fun sweep => sweep.task.pauses?) !=
        some (!pauses)
  | .setPaused _ value => value == pauses
  | _ => true

/-- The queues of the first gateways of the map have been commanded. -/
def Through (pauses : Bool) (state : Sweeping) (count : Nat) : Prop :=
  ∀ (index : Nat) gatewayId, index < count →
    (keys state.manager)[index]? = some gatewayId →
      state.paused (QueueManager.queueNameFor gatewayId) = pauses

structure Commands (pauses : Bool) (state : Sweeping) (sweep : Sweep) :
    Prop where
  task : sweep.task.pauses? = some pauses
  awaiting : ∀ position runtime, sweep.call = .awaiting position runtime →
    Located state.manager position runtime ∧ Through pauses state position
  executed : ∀ position runtime counts,
    sweep.call = .executed position runtime counts →
      Located state.manager position runtime ∧
        Through pauses state (position + 1)

section Commands

variable {pauses : Bool} {state next : Sweeping} {sweep moved : Sweep}
  {workerPoolSize : Nat} {label : Sweeping.Label}

private theorem paused_step {queueName : String}
    (admitted : agrees pauses state label = true)
    (taken : Sweeping.step workerPoolSize label state = some next)
    (held : state.paused queueName = pauses) :
    next.paused queueName = pauses := by
  have commanded : ∀ name,
      (if queueName = name then pauses else state.paused queueName) =
        pauses := by
    intro name
    split
    · rfl
    · exact held
  cases label with
  | manager label =>
      obtain ⟨manager, -, rfl⟩ := Option.map_eq_some_iff.mp taken
      exact held
  | call task =>
      cases taken
      exact held
  | execute index =>
      obtain ⟨sweep, found, taken⟩ := Option.bind_eq_some_iff.mp taken
      simp only [agrees, found, Option.bind_some, bne_iff_ne] at admitted
      unfold execute at taken
      split at taken
      · split at taken
        case h_1 value task =>
          cases taken
          have same : value = pauses := by
            rw [task] at admitted
            cases value <;> cases pauses <;> simp_all
          rw [same]
          exact commanded _
        case h_2 =>
          cases taken
          exact held
      · cases taken
        exact held
      · cases taken
  | resolve index =>
      obtain ⟨sweep, -, taken⟩ := Option.bind_eq_some_iff.mp taken
      unfold resolve at taken
      split at taken <;> cases taken <;> exact held
  | reject index =>
      obtain ⟨sweep, -, taken⟩ := Option.bind_eq_some_iff.mp taken
      unfold reject at taken
      split at taken <;> cases taken
      exact held
  | setPaused gatewayId value =>
      cases taken
      obtain rfl : value = pauses := eq_of_beq admitted
      exact commanded _
  | setJobs queueName counts =>
      cases taken
      exact held

theorem Through.later {count : Nat} (through : Through pauses state count)
    (inside : count ≤ (keys state.manager).length)
    (grown : keys state.manager <+: keys next.manager)
    (held : ∀ queueName, state.paused queueName = pauses →
      next.paused queueName = pauses) : Through pauses next count := by
  intro index gatewayId before found
  obtain ⟨rest, same⟩ := grown
  rw [← same, List.getElem?_append_left (Nat.lt_of_lt_of_le before inside)]
    at found
  exact held _ (through index gatewayId before found)

theorem Located.inside {manager : Lifecycle} {position : Nat}
    {runtime : GatewayRuntime} (located : Located manager position runtime) :
    position < (keys manager).length :=
  (List.getElem?_eq_some_iff.mp located.key).1

private theorem commands_turn (commands : Commands pauses state sweep)
    (mapped : Mapped state.manager) (turn : Turn state next sweep moved)
    (grown : keys state.manager <+: keys next.manager)
    (held : ∀ queueName, state.paused queueName = pauses →
      next.paused queueName = pauses) : Commands pauses next moved := by
  cases turn with
  | still =>
      refine ⟨commands.task, ?_, ?_⟩
      · intro position runtime call
        obtain ⟨located, through⟩ := commands.awaiting position runtime call
        exact ⟨located.later grown,
          through.later (Nat.le_of_lt located.inside) grown held⟩
      · intro position runtime counts call
        obtain ⟨located, through⟩ :=
          commands.executed position runtime counts call
        exact ⟨located.later grown, through.later located.inside grown held⟩
  | @commanded position runtime value call task effect =>
      obtain ⟨located, through⟩ := commands.awaiting position runtime call
      have located := located.later grown
      have through := through.later
        (Nat.le_of_lt (commands.awaiting position runtime call).1.inside)
        grown held
      rw [commands.task] at task
      obtain rfl := Option.some.inj task
      refine ⟨commands.task, nofun, ?_⟩
      rintro _ _ _ ⟨⟩
      refine ⟨located, fun index gatewayId before found => ?_⟩
      rcases Nat.lt_succ_iff_lt_or_eq.mp before with earlier | rfl
      · exact through index gatewayId earlier found
      · rw [located.key] at found
        obtain rfl := Option.some.inj found
        rw [← located.named]
        exact effect
  | asked call task =>
      rw [commands.task] at task
      cases task
  | @visited position runtime counts call =>
      obtain ⟨located, through⟩ :=
        commands.executed position runtime counts call
      have through := through.later located.inside grown held
      rcases visit_cases mapped with
        ⟨runtime', located', visited⟩ | ⟨-, visited | ⟨-, visited⟩⟩
      · rw [visited]
        refine ⟨commands.task, ?_, nofun⟩
        rintro _ _ ⟨⟩
        exact ⟨located'.later grown, through⟩
      · rw [visited]
        exact ⟨commands.task, nofun, nofun⟩
      · rw [visited]
        exact ⟨commands.task, nofun, nofun⟩
  | counting | counted | returned | thrown =>
      exact ⟨commands.task, nofun, nofun⟩

private theorem commands_begin {begun : Sweeping} {task : SweepTask}
    (commands : task.pauses? = some pauses) (mapped : Mapped begun.manager) :
    Commands pauses (begun.begin task)
      (visit task [] 0 begun.manager).1 := by
  have first : Remapped begun.manager (begun.begin task).manager :=
    remapped_visit
  rcases @visit_cases _ 0 task [] mapped with
    ⟨runtime, located, visited⟩ | ⟨-, visited | ⟨-, visited⟩⟩
  · rw [visited]
    refine ⟨commands, ?_, nofun⟩
    rintro _ _ ⟨⟩
    exact ⟨located.later first.grown, fun _ _ before => nomatch before⟩
  · rw [visited]
    exact ⟨commands, nofun, nofun⟩
  · rw [visited]
    exact ⟨commands, nofun, nofun⟩

end Commands

/-- When `pause()` or `resume()` returns, and nobody has commanded the
contrary meanwhile, the queue of every gateway of the map obeys. -/
theorem pauses_all (workerPoolSize : Nat) (jobs : String → JobCounts)
    (begun later done : Sweeping) (task : SweepTask) (pauses : Bool)
    (commands : task.pauses? = some pauses)
    (reached : Reaches (Sweeping.step workerPoolSize) (fun _ _ => True)
      (.create jobs) begun)
    (continued : Reaches (Sweeping.step workerPoolSize)
      (fun state label => agrees pauses state label = true)
      (begun.begin task) later)
    (taken : Sweeping.step workerPoolSize (.resolve begun.sweeps.length)
      later = some done)
    (returned : done.sweeps[begun.sweeps.length]?.map Sweep.call =
      some (.returned none)) :
    keys begun.manager <+: keys done.manager ∧
      ∀ gatewayId ∈ keys done.manager,
        done.paused (QueueManager.queueNameFor gatewayId) = pauses := by
  have mapped := mapped_reached reached
  obtain ⟨mapped, since, sweep, found, commands⟩ := sweep_run mapped
    (commands_begin commands mapped)
    (fun _ _ _ _ _ admitted taken mapped _ grown turn commands =>
      commands_turn commands mapped turn grown fun _ held =>
        paused_step admitted taken held) continued
  have grown := (mapped_step mapped taken).2
  refine ⟨since.trans grown, ?_⟩
  simp only [Sweeping.step, found, Option.bind_some] at taken
  have inside := (List.getElem?_eq_some_iff.mp found).1
  unfold resolve at taken
  split at taken
  case h_1 position runtime counts call =>
    cases taken
    obtain ⟨-, through⟩ := commands.executed position runtime counts call
    have passed : (keys later.manager).length ≤ position + 1 := by
      simp only [setSweep, List.getElem?_set_self inside,
        Option.map_some, Option.some.injEq] at returned
      rcases visit_cases mapped with
        ⟨runtime', -, visited⟩ | ⟨passed, -⟩
      · rw [visited] at returned
        cases returned
      · exact passed
    intro gatewayId member
    rw [setSweep, remapped_visit.keys] at member
    obtain ⟨index, present⟩ := List.mem_iff_getElem?.mp member
    exact through index gatewayId (Nat.lt_of_lt_of_le
      (List.getElem?_eq_some_iff.mp present).1 passed) present
  case h_2 =>
    cases taken
    simp [setSweep, inside] at returned
  case h_3 =>
    cases taken
    simp [setSweep, inside] at returned
  case h_4 => cases taken

/-- Adyen comes while Stripe is paused. -/
def joining : List Sweeping.Label :=
  .manager (.pool (.call (.ensureGateway "adyen"))) ::
    List.replicate 4 (.manager (.pool (.resume 1))) ++
    [.execute 0, .resolve 0, .execute 0]

def stripeOnly : List Sweeping.Label :=
  .manager (.pool (.call (.ensureGateway "stripe"))) ::
    List.replicate 4 (.manager (.pool (.resume 0)))

def noJobs (_ : String) : JobCounts := ⟨none, none, none, none, none⟩

theorem pauses_all_joining :
    ∃ begun done : Sweeping, keys begun.manager = ["stripe"] ∧
      keys done.manager = ["stripe", "adyen"] ∧
      ∀ gatewayId ∈ keys done.manager,
        done.paused (QueueManager.queueNameFor gatewayId) = true := by
  obtain ⟨begun, later, reached, continued, checked⟩ := exists_of_replays
    (Sweeping.step 1) (fun _ _ => true) (agrees true) stripeOnly joining
    (.create noJobs) (Sweeping.begin .pause)
    (fun begun later => decide (keys begun.manager = ["stripe"]) &&
      (decide (begun.sweeps.length = 0) &&
        (Sweeping.step 1 (.resolve 0) later).any fun done =>
          decide (keys done.manager = ["stripe", "adyen"]) &&
            decide (done.sweeps[0]?.map Sweep.call =
              some (.returned none)))) (by decide +kernel)
  simp only [Bool.and_eq_true, decide_eq_true_eq] at checked
  obtain ⟨before, first, finished⟩ := checked
  obtain ⟨done, taken, checked⟩ := (Option.any_eq_true _ _).mp finished
  simp only [Bool.and_eq_true, decide_eq_true_eq] at checked
  obtain ⟨after, returned⟩ := checked
  rw [← first] at taken returned
  have commanded := (pauses_all 1 noJobs begun later done .pause true rfl
    (reached.mono fun _ _ _ => trivial) continued taken returned).2
  exact ⟨begun, done, before, after, commanded⟩

/-- The jobs of the named queues do not change. -/
def leaves (quiet : String → Bool) : Sweeping.Label → Bool
  | .setJobs queueName _ => !quiet queueName
  | _ => true

/-- The loop of `collectQueueDepths` is over. -/
def isOver : SweepCall → Bool
  | .opening | .counting | .counted _ | .returned _ => true
  | _ => false

def listed (sweep : Sweep) : List String :=
  sweep.gateways.map fun depths => depths.gatewayId

/-- The depths are those of the queue of the gateway. -/
structure Right (quiet : String → Bool) (jobs : String → JobCounts)
    (depths : GatewayQueueDepths) : Prop where
  named : depths.queueName = QueueManager.queueNameFor depths.gatewayId
  counted : quiet depths.queueName = true →
    depths = gatewayDepths depths.gatewayId depths.queueName
      (jobs depths.queueName)

/-- Where `collectQueueDepths` stands that began with the keys and the jobs. -/
structure Lists (quiet : String → Bool) (known : List String)
    (jobs : String → JobCounts) (state : Sweeping) (sweep : Sweep) : Prop where
  task : sweep.task = .collectQueueDepths
  along : listed sweep <+: keys state.manager
  right : ∀ depths ∈ sweep.gateways, Right quiet jobs depths
  awaiting : ∀ position runtime, sweep.call = .awaiting position runtime →
    Located state.manager position runtime ∧ sweep.gateways.length = position
  executed : ∀ position runtime counts,
    sweep.call = .executed position runtime counts →
      Located state.manager position runtime ∧
        sweep.gateways.length = position ∧
        ∃ answer, counts = some answer ∧
          (quiet runtime.queueName = true → answer = jobs runtime.queueName)
  finished : isOver sweep.call = true → known <+: listed sweep
  counted : ∀ counts, sweep.call = .counted counts →
    quiet QueueManager.dlqQueueName = true →
      counts = jobs QueueManager.dlqQueueName
  returned : ∀ dlq, sweep.call = .returned dlq → ∃ counts,
    dlq = some (dlqDepths counts) ∧
      (quiet QueueManager.dlqQueueName = true →
        counts = jobs QueueManager.dlqQueueName)

section Lists

variable {quiet : String → Bool} {known : List String}
  {jobs : String → JobCounts} {state next : Sweeping} {sweep moved : Sweep}
  {workerPoolSize : Nat} {label : Sweeping.Label}

private theorem jobs_step {queueName : String}
    (unchanged : quiet queueName = true)
    (admitted : leaves quiet label = true)
    (taken : Sweeping.step workerPoolSize label state = some next) :
    next.jobs queueName = state.jobs queueName := by
  cases label with
  | manager label =>
      obtain ⟨manager, -, rfl⟩ := Option.map_eq_some_iff.mp taken
      rfl
  | call task =>
      cases taken
      rfl
  | execute index =>
      obtain ⟨sweep, -, taken⟩ := Option.bind_eq_some_iff.mp taken
      unfold execute at taken
      split at taken
      · split at taken <;> cases taken <;> rfl
      · cases taken
        rfl
      · cases taken
  | resolve index =>
      obtain ⟨sweep, -, taken⟩ := Option.bind_eq_some_iff.mp taken
      unfold resolve at taken
      split at taken <;> cases taken <;> rfl
  | reject index =>
      obtain ⟨sweep, -, taken⟩ := Option.bind_eq_some_iff.mp taken
      unfold reject at taken
      split at taken <;> cases taken
      rfl
  | setPaused gatewayId pauses =>
      cases taken
      rfl
  | setJobs changed counts =>
      cases taken
      refine if_neg ?_
      rintro rfl
      rw [leaves, unchanged] at admitted
      cases admitted

/-- The next gateway of the map is listed. -/
theorem snoc_prefix_of_getElem {ids keys : List String} {key : String}
    (listed : ids <+: keys) (found : keys[ids.length]? = some key) :
    ids ++ [key] <+: keys := by
  obtain ⟨rest, rfl⟩ := listed
  rw [List.getElem?_append_right (Nat.le_refl _), Nat.sub_self] at found
  obtain ⟨others, rfl⟩ : ∃ others, rest = key :: others := by
    cases rest with
    | nil => cases found
    | cons first others =>
        obtain rfl := Option.some.inj found
        exact ⟨others, rfl⟩
  exact ⟨others, by simp⟩

private theorem lists_visit {gateways : List GatewayQueueDepths}
    {position : Nat}
    (mapped : Mapped state.manager) (since : known <+: keys state.manager)
    (listed : gateways.map (fun depths => depths.gatewayId) <+:
      keys state.manager)
    (right : ∀ depths ∈ gateways, Right quiet jobs depths)
    (length : gateways.length = position)
    (grown : keys state.manager <+: keys next.manager) :
    Lists quiet known jobs next
      (visit .collectQueueDepths gateways position state.manager).1 := by
  rcases @visit_cases _ position .collectQueueDepths gateways mapped with
    ⟨runtime, located, visited⟩ | ⟨passed, ended⟩
  · rw [visited]
    refine ⟨rfl, listed.trans grown, right, ?_, nofun, nofun, nofun, nofun⟩
    rintro _ _ ⟨⟩
    exact ⟨located.later grown, length⟩
  · -- what has been listed is the whole map
    have whole : gateways.map (fun depths => depths.gatewayId) =
        keys state.manager :=
      listed.eq_of_length_le (by rw [List.length_map, length]; exact passed)
    have covered : known <+: gateways.map (fun depths => depths.gatewayId) := by
      rw [whole]
      exact since
    rcases ended with visited | ⟨differs, -⟩
    · rw [visited]
      exact ⟨rfl, listed.trans grown, right, nofun, nofun, fun _ => covered,
        nofun, nofun⟩
    · exact (differs rfl).elim

private theorem lists_turn (lists : Lists quiet known jobs state sweep)
    (mapped : Mapped state.manager) (since : known <+: keys state.manager)
    (turn : Turn state next sweep moved)
    (grown : keys state.manager <+: keys next.manager)
    (same : ∀ queueName, quiet queueName = true →
      state.jobs queueName = jobs queueName) :
    Lists quiet known jobs next moved := by
  have longer := lists.along.trans grown
  cases turn with
  | still =>
      refine ⟨lists.task, longer, lists.right, ?_, ?_, lists.finished,
        lists.counted, lists.returned⟩
      · intro position runtime call
        obtain ⟨located, length⟩ := lists.awaiting position runtime call
        exact ⟨located.later grown, length⟩
      · intro position runtime counts call
        obtain ⟨located, rest⟩ := lists.executed position runtime counts call
        exact ⟨located.later grown, rest⟩
  | commanded call task effect =>
      rw [lists.task] at task
      cases task
  | asked call task =>
      obtain ⟨located, length⟩ := lists.awaiting _ _ call
      refine ⟨lists.task, longer, lists.right, nofun, ?_, nofun, nofun, nofun⟩
      rintro _ _ _ ⟨⟩
      exact ⟨located.later grown, length, _, rfl, same _⟩
  | @visited position runtime counts call =>
      obtain ⟨located, length, answer, rfl, answered⟩ :=
        lists.executed position runtime counts call
      rw [lists.task]
      refine lists_visit mapped since ?_ ?_ ?_ grown
      · rw [List.map_append]
        refine snoc_prefix_of_getElem lists.along ?_
        rw [List.length_map, length]
        exact located.key
      · intro depths member
        rcases List.mem_append.mp member with old | new
        · exact lists.right depths old
        · obtain rfl := List.mem_singleton.mp new
          refine ⟨located.named, fun unchanged => ?_⟩
          rw [answered unchanged]
          rfl
      · rw [List.length_append, length]
        rfl
  | counting call =>
      refine ⟨lists.task, longer, lists.right, nofun, nofun, fun _ => ?_,
        nofun, nofun⟩
      exact lists.finished (by rw [call]; rfl)
  | counted call =>
      refine ⟨lists.task, longer, lists.right, nofun, nofun, fun _ => ?_, ?_,
        nofun⟩
      · exact lists.finished (by rw [call]; rfl)
      · rintro _ ⟨⟩
        exact same _
  | returned call =>
      refine ⟨lists.task, longer, lists.right, nofun, nofun, fun _ => ?_,
        nofun, ?_⟩
      · exact lists.finished (by rw [call]; rfl)
      · rintro _ ⟨⟩
        exact ⟨_, rfl, lists.counted _ call⟩
  | thrown =>
      exact ⟨lists.task, longer, lists.right, nofun, nofun, nofun, nofun,
        nofun⟩

end Lists

/-- The step with which a loop is over has listed the map as it is then. -/
private theorem listed_resolved {later done : Sweeping} {sweep ended : Sweep}
    {known : List String} {jobs : String → JobCounts} {quiet : String → Bool}
    {workerPoolSize place position : Nat} {runtime : GatewayRuntime}
    {counts : Option JobCounts}
    (lists : Lists quiet known jobs later sweep) (mapped : Mapped later.manager)
    (since : known <+: keys later.manager)
    (same : ∀ queueName, quiet queueName = true →
      later.jobs queueName = jobs queueName)
    (call : sweep.call = .executed position runtime counts)
    (found : later.sweeps[place]? = some sweep)
    (taken : Sweeping.step workerPoolSize (.resolve place) later = some done)
    (found' : done.sweeps[place]? = some ended)
    (finished : isOver ended.call = true) :
    listed ended = keys done.manager := by
  obtain ⟨moved, there, turn⟩ := turn_step found taken
  rw [found'] at there
  obtain rfl := Option.some.inj there
  have along := (lists_turn lists mapped since turn
    (mapped_step mapped taken).2 same).along
  refine along.eq_of_length_le ?_
  obtain ⟨-, length, answer, rfl, -⟩ :=
    lists.executed position runtime counts call
  have inside := (List.getElem?_eq_some_iff.mp found).1
  simp only [Sweeping.step, found, Option.bind_some, resolve, call] at taken
  obtain rfl := Option.some.inj taken
  simp only [setSweep, List.getElem?_set_self inside, Option.some.injEq]
    at found'
  rw [setSweep, remapped_visit.keys, listed, List.length_map, ← found']
  rcases visit_cases mapped with
    ⟨runtime', -, visited⟩ | ⟨passed, visited | ⟨-, visited⟩⟩
  · rw [← found', visited] at finished
    cases finished
  · rw [visited, List.length_append, length]
    exact passed
  · rw [visited, List.length_append, length]
    exact passed

/-- What `collectQueueDepths` returns names every gateway of the map once and
in its order, those that have come meanwhile included, each with the depths of
its own queue; where the jobs of a queue have not changed, they are right. -/
theorem lists_all (workerPoolSize : Nat) (jobs : String → JobCounts)
    (quiet : String → Bool) (begun later : Sweeping) (sweep : Sweep)
    (reached : Reaches (Sweeping.step workerPoolSize) (fun _ _ => True)
      (.create jobs) begun)
    (continued : Reaches (Sweeping.step workerPoolSize)
      (fun _ label => leaves quiet label = true)
      (begun.begin .collectQueueDepths) later)
    (found : later.sweeps[begun.sweeps.length]? = some sweep) :
    (listed sweep).Nodup ∧ listed sweep <+: keys later.manager ∧
      (∀ depths ∈ sweep.gateways, Right quiet begun.jobs depths) ∧
      (∀ dlq, sweep.call = .returned dlq →
        keys begun.manager <+: listed sweep ∧
          ∃ counts, dlq = some (dlqDepths counts) ∧
            (quiet QueueManager.dlqQueueName = true →
              counts = begun.jobs QueueManager.dlqQueueName)) ∧
      ∀ position runtime counts,
        sweep.call = .executed position runtime counts →
        ∀ done ended, Sweeping.step workerPoolSize
          (.resolve begun.sweeps.length) later = some done →
        done.sweeps[begun.sweeps.length]? = some ended →
        isOver ended.call = true → listed ended = keys done.manager := by
  have mapped := mapped_reached reached
  have first : Remapped begun.manager
      (begun.begin .collectQueueDepths).manager := remapped_visit
  have start : Lists quiet (keys begun.manager) begun.jobs
      (begun.begin .collectQueueDepths)
      (visit .collectQueueDepths [] 0 begun.manager).1 :=
    lists_visit mapped (List.prefix_refl _) List.nil_prefix nofun rfl
      first.grown
  obtain ⟨mapped, since, sweep', found', same, lists⟩ :=
    @sweep_run workerPoolSize _ (fun state sweep =>
      (∀ queueName, quiet queueName = true →
        state.jobs queueName = begun.jobs queueName) ∧
      Lists quiet (keys begun.manager) begun.jobs state sweep) begun later _
      mapped ⟨fun _ _ => rfl, start⟩
      (fun _ _ _ _ _ admitted taken mapped since grown turn held =>
        ⟨fun queueName unchanged =>
          (jobs_step unchanged admitted taken).trans
            (held.1 queueName unchanged),
          lists_turn held.2 mapped since turn grown held.1⟩) continued
  rw [found] at found'
  obtain rfl := Option.some.inj found'
  refine ⟨mapped.sole.sublist lists.along.sublist, lists.along, lists.right,
    ?_, ?_⟩
  · intro dlq returned
    exact ⟨lists.finished (by rw [returned]; rfl), lists.returned dlq returned⟩
  · intro position runtime counts call done ended taken found' finished
    exact listed_resolved lists mapped since same call found taken found'
      finished

/-- Adyen comes while the jobs of Stripe are counted. -/
def countingBoth : List Sweeping.Label :=
  joining ++ [.setJobs "adyen" ⟨some 5, none, none, none, none⟩, .resolve 0,
    .resolve 0, .execute 0, .resolve 0]

/-- Some jobs wait, and most of them have a priority. -/
def threeJobs (_ : String) : JobCounts :=
  ⟨some 1, some 2, some 0, some 0, some 0⟩

theorem lists_all_joining :
    ∃ (later : Sweeping) (sweep : Sweep), listed sweep = ["stripe", "adyen"] ∧
      sweep.gateways.head? =
        some (gatewayDepths "stripe" "stripe" (threeJobs "stripe")) ∧
      (listed sweep).Nodup ∧ listed sweep <+: keys later.manager := by
  obtain ⟨begun, later, reached, continued, checked⟩ := exists_of_replays
    (Sweeping.step 1) (fun _ _ => true)
    (fun _ label => leaves (fun name => decide (name = "stripe")) label)
    stripeOnly countingBoth (.create threeJobs)
    (Sweeping.begin .collectQueueDepths) (fun begun later =>
      decide (begun.sweeps.length = 0) &&
        later.sweeps[0]?.any fun sweep =>
          decide (listed sweep = ["stripe", "adyen"]) &&
            decide (sweep.gateways.head? = some (gatewayDepths "stripe"
              "stripe" (threeJobs "stripe")))) (by decide +kernel)
  simp only [Bool.and_eq_true, decide_eq_true_eq] at checked
  obtain ⟨first, checked⟩ := checked
  obtain ⟨sweep, found, checked⟩ := (Option.any_eq_true _ _).mp checked
  simp only [Bool.and_eq_true, decide_eq_true_eq] at checked
  rw [← first] at found
  obtain ⟨once, inOrder, -⟩ := lists_all 1 threeJobs _ begun later sweep
    (reached.mono fun _ _ _ => trivial) continued found
  exact ⟨later, sweep, checked.1, checked.2, once, inOrder⟩

end PaymentQueue.Sweeps
