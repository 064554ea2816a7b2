import PaymentQueue.Queue.Shutdown
import PaymentQueue.Safety.Filing

/-!
# The graceful shutdown

`onApplicationShutdown` reads the map twice, once for what it closes and once
more, when every close has settled, for the clients that it disconnects.  The
calls of the application may change the map in between; without them the
shutdown closes what `Pool.onApplicationShutdown` closes at once.
-/

namespace PaymentQueue.Shutdowns

open Await Pool Orphans Filing

open Lifecycle

/-- Whether a worker or a queue is open, if there is one. -/
def isOpen (target : Closable) (state : Lifecycle) : Option Bool :=
  match target with
  | .worker worker => state.pool.workers[worker]?.map WorkerHandle.workerOpen
  | .queue queue => state.pool.queues[queue]?.map QueueHandle.queueOpen
  | .dlq => state.dlq.map DlqHandle.queueOpen

/-- Nothing is reopened. -/
def Wanes (before after : Lifecycle) : Prop :=
  ∀ target opened, isOpen target before = some opened →
    ∃ opened', isOpen target after = some opened' ∧
      (opened = false → opened' = false)

/-- Where a shutdown stands. -/
structure Underway (begun : Lifecycle) (shutdown : Shutdown)
    (state : Lifecycle) : Prop where
  found : state.shutdown = some shutdown
  started : shutdown.started = begun.now
  targets : shutdown.tasks.map ShutdownTask.target = begun.closables
  forced : ∀ task ∈ shutdown.tasks, task.closing = .forcibly →
    (∃ worker, task.target = .worker worker) ∧
      begun.now + graceMs ≤ state.now
  present : ∀ target ∈ begun.closables, isOpen target state ≠ none
  closed : ∀ task ∈ shutdown.tasks, task.closing = .settled true →
    isOpen task.target state = some false
  returned : shutdown.returned = true →
    ∀ task ∈ shutdown.tasks, ∃ resolved, task.closing = .settled resolved

section Underway

variable {begun before after state next : Lifecycle} {shutdown : Shutdown}
  {workerPoolSize : Nat}

theorem Wanes.refl (state : Lifecycle) : Wanes state state :=
  fun _ opened found => ⟨opened, found, fun closed => closed⟩

private theorem wanes_of_same (same : ∀ target, isOpen target after =
    isOpen target before) : Wanes before after := by
  intro target opened found
  exact ⟨opened, (same target).trans found, fun closed => closed⟩

private theorem wanes_pool {pool : Pool} (grows : Grows state.pool pool) :
    Wanes state { state with pool } := by
  intro target opened found
  cases target with
  | worker worker =>
      obtain ⟨handle, present, rfl⟩ := Option.map_eq_some_iff.mp found
      obtain ⟨handle', present', closed⟩ := grows.workers worker handle present
      exact ⟨_, Option.map_eq_some_iff.mpr ⟨handle', present', rfl⟩, closed⟩
  | queue queue =>
      obtain ⟨handle, present, rfl⟩ := Option.map_eq_some_iff.mp found
      refine ⟨_, Option.map_eq_some_iff.mpr ⟨handle, ?_, rfl⟩, fun shut => shut⟩
      obtain ⟨rest, same⟩ := grows.queues
      rw [← same, List.getElem?_append_left
        (List.getElem?_eq_some_iff.mp present).1, present]
  | dlq => exact ⟨opened, found, fun closed => closed⟩

private theorem isOpen_close (target : Closable) (state : Lifecycle)
    (present : isOpen target state ≠ none) :
    isOpen target (state.close target) = some false := by
  cases target with
  | worker worker =>
      obtain ⟨opened, found⟩ := Option.ne_none_iff_exists'.mp present
      obtain ⟨handle, found, -⟩ := Option.map_eq_some_iff.mp found
      simp [isOpen, Lifecycle.close, found]
  | queue queue =>
      obtain ⟨opened, found⟩ := Option.ne_none_iff_exists'.mp present
      obtain ⟨handle, found, -⟩ := Option.map_eq_some_iff.mp found
      simp [isOpen, Lifecycle.close, found]
  | dlq =>
      obtain ⟨opened, found⟩ := Option.ne_none_iff_exists'.mp present
      obtain ⟨handle, found, -⟩ := Option.map_eq_some_iff.mp found
      simp [isOpen, Lifecycle.close, found]

private theorem wanes_close (target : Closable) (state : Lifecycle) :
    Wanes state (state.close target) := by
  intro other opened found
  by_cases same : other = target
  · subst same
    refine ⟨false, isOpen_close other state ?_, fun _ => rfl⟩
    rw [found]
    exact Option.some_ne_none _
  · refine ⟨opened, ?_, fun closed => closed⟩
    rw [← found]
    cases target with
    | worker worker =>
        cases other with
        | worker other =>
            have differs : worker ≠ other := fun equal => same (equal ▸ rfl)
            simp [isOpen, Lifecycle.close, differs]
        | queue | dlq => rfl
    | queue queue =>
        cases other with
        | queue other =>
            have differs : queue ≠ other := fun equal => same (equal ▸ rfl)
            simp [isOpen, Lifecycle.close, differs]
        | worker | dlq => rfl
    | dlq =>
        cases other with
        | dlq => exact (same rfl).elim
        | worker | queue => rfl

private theorem isOpen_disconnect (target : Closable) (state : Lifecycle) :
    isOpen target state.disconnect = isOpen target state := by
  cases target with
  | worker worker =>
      simp only [isOpen, disconnect, List.getElem?_mapIdx, Option.map_map]
      congr 1
      funext handle
      simp only [Function.comp]
      split <;> rfl
  | queue queue =>
      simp only [isOpen, disconnect, List.getElem?_mapIdx, Option.map_map]
      congr 1
      funext handle
      simp only [Function.comp]
      split <;> rfl
  | dlq =>
      simp only [isOpen, disconnect, Option.map_map]
      rfl

private theorem isOpen_with_shutdown (target : Closable) (state : Lifecycle)
    (shutdown : Option Shutdown) :
    isOpen target { state with shutdown } = isOpen target state := by
  cases target <;> rfl

private theorem resolved_of_isSettled {closing : Closing}
    (settled : closing.isSettled = true) :
    ∃ resolved, closing = .settled resolved := by
  cases closing with
  | settled resolved => exact ⟨resolved, rfl⟩
  | gracefully | forcibly => cases settled

private theorem close_now (target : Closable) (state : Lifecycle) :
    (state.close target).now = state.now := by
  cases target <;> rfl

theorem dlqQueue_frame (state : Lifecycle) :
    state.dlqQueue.shutdown = state.shutdown ∧
      state.dlqQueue.now = state.now := by
  rw [dlqQueue]
  split <;> exact ⟨rfl, rfl⟩

private theorem wanes_dlqQueue (state : Lifecycle) :
    Wanes state state.dlqQueue := by
  rw [dlqQueue]
  split
  case h_1 => exact .refl state
  case h_2 missing =>
    intro target opened found
    cases target with
    | worker worker => exact ⟨opened, found, fun closed => closed⟩
    | queue queue => exact ⟨opened, found, fun closed => closed⟩
    | dlq => simp [isOpen, missing] at found

theorem timeout_cases {index : Nat} {shutdown : Shutdown}
    {state next : Lifecycle}
    (taken : state.timeout index shutdown = some next) :
    ∃ worker, shutdown.tasks[index]? = some ⟨.worker worker, .gracefully⟩ ∧
      shutdown.started + graceMs ≤ state.now ∧
      next = state.setTask index ⟨.worker worker, .forcibly⟩ shutdown := by
  rw [timeout] at taken
  split at taken
  case h_1 worker found =>
    split at taken
    case isTrue due =>
      cases taken
      exact ⟨worker, found, due, rfl⟩
    case isFalse => cases taken
  case h_2 => cases taken

theorem finish_cases {shutdown : Shutdown} {state next : Lifecycle}
    (taken : state.finish shutdown = some next) :
    shutdown.returned = false ∧ (∀ task ∈ shutdown.tasks,
        ∃ resolved, task.closing = .settled resolved) ∧
      next = { state.disconnect with
        shutdown := some { shutdown with returned := true } } := by
  rw [finish] at taken
  split at taken
  case isTrue settled =>
    cases taken
    exact ⟨settled.1, fun task member => resolved_of_isSettled
      (List.all_eq_true.mp settled.2 task member), rfl⟩
  case isFalse => cases taken

theorem settle_cases {index : Nat} {resolved : Bool}
    (taken : state.settle index resolved shutdown = some next) :
    ∃ target before, shutdown.tasks[index]? = some ⟨target, before⟩ ∧
      before.isSettled = false ∧
      next = (if resolved then state.close target else state).setTask index
        ⟨target, .settled resolved⟩ shutdown := by
  rw [settle] at taken
  split at taken
  case h_1 => cases taken
  case h_2 => cases taken
  case h_3 target before pending found =>
    cases taken
    refine ⟨target, before, found, ?_, rfl⟩
    cases before with
    | gracefully | forcibly => rfl
    | settled resolved' => exact (pending resolved' rfl).elim

theorem Wanes.present {target : Closable} (wanes : Wanes before after)
    (present : isOpen target before ≠ none) : isOpen target after ≠ none := by
  obtain ⟨opened, found⟩ := Option.ne_none_iff_exists'.mp present
  obtain ⟨opened', found', -⟩ := wanes target opened found
  rw [found']
  exact Option.some_ne_none _

theorem Wanes.closed {target : Closable} (wanes : Wanes before after)
    (closed : isOpen target before = some false) :
    isOpen target after = some false := by
  obtain ⟨opened, found, shut⟩ := wanes target false closed
  rw [found, shut rfl]

/-- The same promises, at a later time. -/
theorem Underway.later (underway : Underway begun shutdown state)
    (same : next.shutdown = state.shutdown) (wanes : Wanes state next)
    (later : state.now ≤ next.now) : Underway begun shutdown next where
  found := same.trans underway.found
  started := underway.started
  targets := underway.targets
  forced := by
    intro task member forced
    obtain ⟨worker, due⟩ := underway.forced task member forced
    exact ⟨worker, Nat.le_trans due later⟩
  present := fun target member => wanes.present (underway.present target member)
  closed := fun task member settled =>
    wanes.closed (underway.closed task member settled)
  returned := underway.returned

/-- One of the promises moves on. -/
theorem Underway.setTask {index : Nat} {target : Closable}
    {before closing : Closing} (underway : Underway begun shutdown state)
    (found : shutdown.tasks[index]? = some ⟨target, before⟩)
    (pending : before.isSettled = false)
    (wanes : Wanes state next) (now : next.now = state.now)
    (forced : closing = .forcibly → (∃ worker, target = .worker worker) ∧
      begun.now + graceMs ≤ state.now)
    (closed : closing = .settled true → isOpen target next = some false) :
    ∃ moved, Underway begun moved
      (next.setTask index ⟨target, closing⟩ shutdown) := by
  have member := List.mem_of_getElem? found
  refine ⟨_, rfl, underway.started, ?_, ?_, ?_, ?_, ?_⟩
  · rw [← underway.targets]
    exact map_set_same found rfl
  · intro task among isForced
    show _ ∧ begun.now + graceMs ≤ next.now
    rw [now]
    rcases List.mem_or_eq_of_mem_set among with old | rfl
    · exact underway.forced task old isForced
    · exact forced isForced
  · intro target member
    exact wanes.present (underway.present target member)
  · intro task among settled
    rcases List.mem_or_eq_of_mem_set among with old | rfl
    · exact wanes.closed (underway.closed task old settled)
    · exact closed settled
  · intro returned
    obtain ⟨resolved, settled⟩ := underway.returned returned _ member
    rw [show before = .settled resolved from settled] at pending
    cases pending

private theorem underway_step {label : Lifecycle.Label}
    (underway : Underway begun shutdown state)
    (taken : Lifecycle.step workerPoolSize label state = some next) :
    ∃ moved, Underway begun moved next := by
  cases label with
  | tick elapsed =>
      cases taken
      exact ⟨shutdown, underway.later rfl (wanes_of_same fun _ => rfl)
        (Nat.le_add_right _ _)⟩
  | pool label =>
      obtain ⟨pool, moved, rfl⟩ := Option.map_eq_some_iff.mp taken
      exact ⟨shutdown, underway.later rfl (wanes_pool (grows_step moved))
        (Nat.le_refl _)⟩
  | dlqQueue =>
      cases taken
      exact ⟨shutdown, underway.later (dlqQueue_frame state).1
        (wanes_dlqQueue state) (Nat.le_of_eq (dlqQueue_frame state).2.symm)⟩
  | shutdown =>
      simp only [Lifecycle.step, underway.found] at taken
      cases taken
  | timeout index =>
      simp only [Lifecycle.step, underway.found] at taken
      obtain ⟨worker, found, due, rfl⟩ := timeout_cases taken
      exact underway.setTask found rfl (.refl state) rfl
        (fun _ => ⟨⟨worker, rfl⟩, underway.started ▸ due⟩) nofun
  | settle index resolved =>
      simp only [Lifecycle.step, underway.found] at taken
      obtain ⟨target, before, found, pending, rfl⟩ := settle_cases taken
      cases resolved with
      | false =>
          exact underway.setTask found pending (.refl state) rfl nofun nofun
      | true =>
          have present := underway.present target (by
            rw [← underway.targets]
            exact List.mem_map_of_mem (List.mem_of_getElem? found))
          exact underway.setTask found pending (wanes_close target state)
            (close_now target state) nofun
            fun _ => isOpen_close target state present
  | finish =>
      simp only [Lifecycle.step, underway.found] at taken
      obtain ⟨-, settled, rfl⟩ := finish_cases taken
      refine ⟨{ shutdown with returned := true }, rfl, underway.started,
        underway.targets, underway.forced, ?_, ?_, fun _ => settled⟩
      · intro target member
        rw [isOpen_with_shutdown, isOpen_disconnect]
        exact underway.present target member
      · intro task member isSettled
        rw [isOpen_with_shutdown, isOpen_disconnect]
        exact underway.closed task member isSettled

end Underway

/-- The clients of the runtimes in the map are disconnected, and that of the
dead letter queue. -/
structure Disconnected (state : Lifecycle) : Prop where
  workers : ∀ runtime ∈ state.pool.known, ∀ worker ∈ runtime.workers,
    ∀ handle, state.pool.workers[worker]? = some handle →
      handle.clientOpen = false
  queues : ∀ runtime ∈ state.pool.known, ∀ handle,
    state.pool.queues[runtime.queue]? = some handle →
      handle.clientOpen = false
  dlq : ∀ handle, state.dlq = some handle → handle.clientOpen = false

private theorem disconnected_disconnect (state : Lifecycle)
    (shutdown : Option Shutdown) :
    Disconnected { state.disconnect with shutdown } := by
  refine ⟨?_, ?_, ?_⟩
  · intro runtime known worker employed handle found
    simp only [disconnect, List.getElem?_mapIdx, Option.map_eq_some_iff]
      at found
    obtain ⟨before, -, rfl⟩ := found
    rw [if_pos]
    exact List.any_eq_true.mpr ⟨runtime, known, by simpa using employed⟩
  · intro runtime known handle found
    simp only [disconnect, List.getElem?_mapIdx, Option.map_eq_some_iff]
      at found
    obtain ⟨before, -, rfl⟩ := found
    rw [if_pos]
    exact List.any_eq_true.mpr ⟨runtime, known, beq_self_eq_true _⟩
  · intro handle found
    obtain ⟨before, -, rfl⟩ := Option.map_eq_some_iff.mp found
    rfl

/-- The pool of a state in which no shutdown has begun. -/
structure Running (state : Lifecycle) : Prop where
  filed : Filed (requests state.pool) state.pool
  staffed : Staffed (hands state.pool) state.pool

/-- A shutdown is not forgotten. -/
theorem shutdown_kept {workerPoolSize : Nat} {label : Lifecycle.Label}
    {shutdown : Shutdown} {state next : Lifecycle}
    (found : state.shutdown = some shutdown)
    (taken : Lifecycle.step workerPoolSize label state = some next) :
    next.shutdown ≠ none := by
  have kept : state.shutdown ≠ none := by
    rw [found]
    exact Option.some_ne_none _
  cases label with
  | tick elapsed =>
      cases taken
      exact kept
  | pool label =>
      obtain ⟨pool, -, rfl⟩ := Option.map_eq_some_iff.mp taken
      exact kept
  | dlqQueue =>
      cases taken
      rwa [(dlqQueue_frame state).1]
  | shutdown =>
      simp only [Lifecycle.step, found] at taken
      cases taken
  | timeout index =>
      simp only [Lifecycle.step, found] at taken
      obtain ⟨worker, -, -, rfl⟩ := timeout_cases taken
      exact Option.some_ne_none _
  | settle index resolved =>
      simp only [Lifecycle.step, found] at taken
      obtain ⟨target, before, -, -, rfl⟩ := settle_cases taken
      exact Option.some_ne_none _
  | finish =>
      simp only [Lifecycle.step, found] at taken
      obtain ⟨-, -, rfl⟩ := finish_cases taken
      exact Option.some_ne_none _

private theorem running_step {workerPoolSize : Nat} {label : Lifecycle.Label}
    {state next : Lifecycle}
    (running : state.shutdown = none → Running state)
    (taken : Lifecycle.step workerPoolSize label state = some next)
    (idle : next.shutdown = none) : Running next := by
  cases found : state.shutdown with
  | some shutdown => exact (shutdown_kept found taken idle).elim
  | none =>
      obtain ⟨filed, staffed⟩ := running found
      cases label with
      | tick elapsed =>
          cases taken
          exact ⟨filed, staffed⟩
      | pool label =>
          obtain ⟨pool, moved, rfl⟩ := Option.map_eq_some_iff.mp taken
          exact ⟨filed_step filed moved, staffed_step staffed moved⟩
      | dlqQueue =>
          cases taken
          rw [dlqQueue]
          split
          · exact ⟨filed, staffed⟩
          · exact ⟨filed, staffed⟩
      | shutdown =>
          simp only [Lifecycle.step, found] at taken
          cases taken
          cases idle
      | timeout | settle | finish =>
          simp only [Lifecycle.step, found] at taken
          cases taken

/-- What a shutdown is going to close exists. -/
theorem Running.present {state : Lifecycle} (running : Running state)
    {target : Closable} (member : target ∈ state.closables) :
    isOpen target state ≠ none := by
  rcases List.mem_append.mp member with pooled | isDlq
  · obtain ⟨runtime, known, among⟩ := List.mem_flatMap.mp pooled
    obtain ⟨entry, -, found⟩ := List.mem_filterMap.mp known
    have object := List.mem_of_getElem? found
    rcases List.mem_append.mp among with employed | own
    · obtain ⟨worker, hired, rfl⟩ := List.mem_map.mp employed
      simp [isOpen, running.staffed.staffed runtime object worker hired]
    · obtain rfl := List.mem_singleton.mp own
      obtain ⟨-, inside⟩ := running.filed.named _ _ _
        (List.mem_map_of_mem object)
      simp [isOpen, List.getElem?_eq_getElem inside]
  · cases found : state.dlq with
    | none => simp [found] at isDlq
    | some handle =>
        obtain rfl : target = .dlq := by simpa [found] using isDlq
        simp [isOpen, found]

/-- Whatever the application does meanwhile, the shutdown forces workers only,
and not before their time; when it returns, what the map held when it began is
closed or has refused to close, and no client of the map is connected. -/
theorem shutdown_orderly (workerPoolSize : Nat) (begun later : Lifecycle)
    (reached : Reaches (Lifecycle.step workerPoolSize) (fun _ _ => True)
      .create begun)
    (idle : begun.shutdown = none)
    (continued : Reaches (Lifecycle.step workerPoolSize) (fun _ _ => True)
      begun.onApplicationShutdown later) :
    ∃ shutdown, later.shutdown = some shutdown ∧
      (∀ task ∈ shutdown.tasks, task.closing = .forcibly →
        (∃ worker, task.target = .worker worker) ∧
          begun.now + graceMs ≤ later.now) ∧
      (shutdown.returned = true → ∀ target ∈ begun.closables,
        isOpen target later = some false ∨
          ⟨target, .settled false⟩ ∈ shutdown.tasks) ∧
      ∀ done, Lifecycle.step workerPoolSize .finish later = some done →
        Disconnected done := by
  have running : begun.shutdown = none → Running begun :=
    reached.invariant (fun _ => ⟨filed_create, tidy_create.staffed⟩)
      fun _ _ _ running _ taken => running_step running taken
  have start : ∃ shutdown,
      Underway begun shutdown begun.onApplicationShutdown := by
    refine ⟨_, rfl, rfl, ?_, ?_, fun target => (running idle).present, ?_,
      nofun⟩
    · simp [Function.comp_def]
    · intro task member isForced
      obtain ⟨target, -, rfl⟩ := List.mem_map.mp member
      cases isForced
    · intro task member isSettled
      obtain ⟨target, -, rfl⟩ := List.mem_map.mp member
      cases isSettled
  have ongoing : ∃ shutdown, Underway begun shutdown later := by
    refine @Reaches.invariant _ _ _ _ (fun state =>
      ∃ shutdown, Underway begun shutdown state) _ _ continued start ?_
    rintro state label next ⟨shutdown, underway⟩ - taken
    exact underway_step underway taken
  obtain ⟨shutdown, underway⟩ := ongoing
  refine ⟨shutdown, underway.found, underway.forced, ?_, ?_⟩
  · intro returned target member
    rw [← underway.targets] at member
    obtain ⟨task, among, rfl⟩ := List.mem_map.mp member
    obtain ⟨resolved, settled⟩ := underway.returned returned task among
    cases resolved with
    | true => exact .inl (underway.closed task among settled)
    | false =>
        refine .inr ?_
        rw [← settled]
        exact among
  · intro done taken
    simp only [Lifecycle.step, underway.found] at taken
    obtain ⟨-, -, rfl⟩ := finish_cases taken
    exact disconnected_disconnect later _

/-- A gateway with one worker, and the dead letter queue. -/
def oneWorker : List Lifecycle.Label :=
  .pool (.call (.ensureGateway "stripe")) ::
    List.replicate 4 (.pool (.resume 0)) ++ [.dlqQueue]

/-- A second worker is ordered before the first one is forced to close, and
joins the pool when everything else is closed. -/
def joinedLate : List Lifecycle.Label :=
  [.settle 1 true, .settle 2 true, .settle 0 true, .pool (.resume 1)]

/-- A worker is forced to close, and the second one is open at the end. -/
def closesLate (begun halfway : Lifecycle) : Bool :=
  decide (begun.shutdown = none) &&
    (halfway.shutdown.any fun shutdown =>
      shutdown.tasks.any fun task => decide (task.closing = .forcibly)) &&
    (replay (Lifecycle.step 1) (fun _ _ => true) joinedLate halfway).any
      fun last => (Lifecycle.step 1 .finish last).any fun done =>
        decide (done.shutdown.map Shutdown.returned = some true) &&
          decide (isOpen (.worker 1) done = some true)

theorem shutdown_orderly_joined_late :
    ∃ begun halfway last done : Lifecycle,
      (∃ shutdown task, halfway.shutdown = some shutdown ∧
        task ∈ shutdown.tasks ∧ task.closing = .forcibly ∧
        begun.now + graceMs ≤ halfway.now) ∧
      (∃ shutdown, done.shutdown = some shutdown ∧
        shutdown.returned = true ∧ isOpen (.worker 1) done = some true ∧
        ∀ target ∈ begun.closables, isOpen target done = some false ∨
          ⟨target, .settled false⟩ ∈ shutdown.tasks) ∧
      Lifecycle.step 1 .finish last = some done ∧ Disconnected done := by
  obtain ⟨begun, halfway, reached, continued, checked⟩ := exists_of_replays
    (Lifecycle.step 1) (fun _ _ => true) (fun _ _ => true) oneWorker
    [.pool (.call (.setWorkerPoolSize "stripe" 2)), .pool (.resume 1),
      .tick graceMs, .timeout 0]
    .create Lifecycle.onApplicationShutdown closesLate (by decide +kernel)
  simp only [closesLate, Bool.and_eq_true, decide_eq_true_eq] at checked
  obtain ⟨⟨idle, forced⟩, rest⟩ := checked
  obtain ⟨last, replayed, rest⟩ := (Option.any_eq_true _ _).mp rest
  obtain ⟨done, finishes, rest⟩ := (Option.any_eq_true _ _).mp rest
  simp only [Bool.and_eq_true, decide_eq_true_eq] at rest
  obtain ⟨returned, joined⟩ := rest
  replace reached : Reaches (Lifecycle.step 1) (fun _ _ => True) .create
    begun := reached.mono fun _ _ _ => trivial
  replace continued : Reaches (Lifecycle.step 1) (fun _ _ => True)
    begun.onApplicationShutdown halfway := continued.mono fun _ _ _ => trivial
  have settles : Reaches (Lifecycle.step 1) (fun _ _ => True)
      begun.onApplicationShutdown last :=
    continued.trans ((reaches_of_replay replayed).mono fun _ _ _ => trivial)
  refine ⟨begun, halfway, last, done, ?_, ?_, finishes, ?_⟩
  · obtain ⟨shutdown, found, forcibly, -, -⟩ :=
      shutdown_orderly 1 begun halfway reached idle continued
    rw [found, Option.any_some, List.any_eq_true] at forced
    obtain ⟨task, member, isForced⟩ := forced
    replace isForced := of_decide_eq_true isForced
    exact ⟨shutdown, task, found, member, isForced,
      (forcibly task member isForced).2⟩
  · obtain ⟨shutdown, found, -, closed, -⟩ :=
      shutdown_orderly 1 begun done reached idle
        (.step settles trivial finishes)
    rw [found, Option.map_some, Option.some.injEq] at returned
    exact ⟨shutdown, found, returned, joined, closed returned⟩
  · obtain ⟨shutdown, found, -, -, disconnects⟩ :=
      shutdown_orderly 1 begun last reached idle settles
    exact disconnects done finishes

/-- Nothing but the shutdown goes on, and every close resolves. -/
def undisturbed : Lifecycle.Label → Bool
  | .tick _ => true
  | .timeout _ => true
  | .settle _ resolved => resolved
  | .finish => true
  | _ => false

/-- The promise for a target has resolved. -/
def resolves (target : Closable) (tasks : List ShutdownTask) : Bool :=
  decide (⟨target, .settled true⟩ ∈ tasks)

/-- The pool with the workers and queues closed whose promises have
resolved. -/
def closedSoFar (tasks : List ShutdownTask) (pool : Pool) : Pool :=
  { pool with
    workers := pool.workers.mapIdx fun worker handle =>
      if resolves (.worker worker) tasks then
        { handle with workerOpen := false }
      else handle
    queues := pool.queues.mapIdx fun queue handle =>
      if resolves (.queue queue) tasks then
        { handle with queueOpen := false }
      else handle }

/-- Where an undisturbed shutdown stands. -/
structure Closes (begun : Lifecycle) (shutdown : Shutdown)
    (state : Lifecycle) : Prop where
  found : state.shutdown = some shutdown
  targets : shutdown.tasks.map ShutdownTask.target = begun.closables
  resolved : ∀ task ∈ shutdown.tasks, task.closing ≠ .settled false
  ended : shutdown.returned = true →
    ∀ task ∈ shutdown.tasks, task.closing.isSettled = true
  open_ : shutdown.returned = false →
    state.pool = closedSoFar shutdown.tasks begun.pool
  closed : shutdown.returned = true →
    state.pool = begun.pool.onApplicationShutdown

section Undisturbed

variable {begun state next : Lifecycle} {shutdown : Shutdown}
  {tasks : List ShutdownTask} {index : Nat} {target other : Closable}
  {before : Closing}

theorem resolves_set (found : tasks[index]? = some ⟨target, before⟩)
    (pending : before.isSettled = false) :
    resolves other (tasks.set index ⟨target, .settled true⟩) =
      (decide (other = target) || resolves other tasks) := by
  rw [resolves, resolves, ← Bool.decide_or]
  apply decide_eq_decide.mpr
  constructor
  · intro member
    rcases List.mem_or_eq_of_mem_set member with old | new
    · exact .inr old
    · exact .inl (congrArg ShutdownTask.target new)
  · have inside := (List.getElem?_eq_some_iff.mp found).1
    rintro (rfl | old)
    · exact List.mem_iff_getElem?.mpr ⟨index, List.getElem?_set_self inside⟩
    · obtain ⟨place, there⟩ := List.mem_iff_getElem?.mp old
      refine List.mem_iff_getElem?.mpr ⟨place, ?_⟩
      rw [List.getElem?_set_ne, there]
      rintro rfl
      rw [found] at there
      cases there
      cases pending

/-- Forcing a close resolves nothing. -/
theorem resolves_set_forcibly
    (found : tasks[index]? = some ⟨target, before⟩)
    (pending : before.isSettled = false) :
    resolves other (tasks.set index ⟨target, .forcibly⟩) =
      resolves other tasks := by
  rw [resolves, resolves]
  apply decide_eq_decide.mpr
  constructor
  · intro member
    rcases List.mem_or_eq_of_mem_set member with old | new
    · exact old
    · cases new
  · intro old
    obtain ⟨place, there⟩ := List.mem_iff_getElem?.mp old
    refine List.mem_iff_getElem?.mpr ⟨place, ?_⟩
    rw [List.getElem?_set_ne, there]
    rintro rfl
    rw [found] at there
    cases there
    cases pending

/-- A part of the handles that is left alone. -/
theorem map_mapIdx_same {Handle Part : Type} {handles : List Handle}
    {change : Nat → Handle → Handle} {part : Handle → Part}
    (same : ∀ index handle, part (change index handle) = part handle) :
    (handles.mapIdx change).map part = handles.map part := by
  refine List.ext_getElem? fun index => ?_
  simp only [List.getElem?_map, List.getElem?_mapIdx, Option.map_map]
  congr 1
  funext handle
  exact same index handle

/-- Closing one more is what `modify` does. -/
theorem modify_mapIdx {Handle : Type} (handles : List Handle)
    (shut : Handle → Handle) (again : ∀ handle, shut (shut handle) = shut handle)
    (closed : Nat → Bool) (place : Nat) :
    (handles.mapIdx fun index handle =>
        if closed index then shut handle else handle).modify place shut =
      handles.mapIdx fun index handle =>
        if decide (index = place) || closed index then shut handle
        else handle := by
  refine List.ext_getElem? fun index => ?_
  rw [List.getElem?_modify, List.getElem?_mapIdx, List.getElem?_mapIdx,
    Option.map_eq_map, Option.map_map]
  congr 1
  funext handle
  by_cases same : place = index
  · subst same
    by_cases shutBefore : closed place = true
    · simp [shutBefore, again]
    · simp [shutBefore]
  · have differs : index ≠ place := fun equal => same equal.symm
    simp [same, differs]

private theorem closedSoFar_close
    (found : tasks[index]? = some ⟨target, before⟩)
    (pending : before.isSettled = false)
    (same : state.pool = closedSoFar tasks begun.pool) :
    (state.close target).pool =
      closedSoFar (tasks.set index ⟨target, .settled true⟩) begun.pool := by
  cases target with
  | worker worker =>
      have shut := modify_mapIdx begun.pool.workers
        (fun handle => { handle with workerOpen := false }) (fun _ => rfl)
        (fun worker => resolves (.worker worker) tasks) worker
      simp only [Lifecycle.close, same, closedSoFar, shut,
        resolves_set found pending, Closable.worker.injEq, reduceCtorEq,
        decide_false, Bool.false_or]
  | queue queue =>
      have shut := modify_mapIdx begun.pool.queues
        (fun handle => { handle with queueOpen := false }) (fun _ => rfl)
        (fun queue => resolves (.queue queue) tasks) queue
      simp only [Lifecycle.close, same, closedSoFar, shut,
        resolves_set found pending, Closable.queue.injEq, reduceCtorEq,
        decide_false, Bool.false_or]
  | dlq =>
      simp [Lifecycle.close, same, closedSoFar, resolves_set found pending]

private theorem mem_closables_worker {worker : Nat} :
    .worker worker ∈ begun.closables ↔
      (begun.pool.known.any fun runtime =>
        runtime.workers.contains worker) = true := by
  simp [closables]

private theorem mem_closables_queue {queue : Nat} :
    .queue queue ∈ begun.closables ↔
      (begun.pool.known.any fun runtime => runtime.queue == queue) = true := by
  simp [closables, @eq_comm _ queue]

/-- When every promise has resolved, what is left to do is what the shutdown
does at once. -/
theorem disconnect_closedSoFar
    (same : state.pool = closedSoFar shutdown.tasks begun.pool)
    (targets : shutdown.tasks.map ShutdownTask.target = begun.closables)
    (resolved : ∀ task ∈ shutdown.tasks, task.closing = .settled true) :
    state.disconnect.pool = begun.pool.onApplicationShutdown := by
  have closed : ∀ target, resolves target shutdown.tasks = true ↔
      target ∈ begun.closables := by
    intro target
    rw [resolves, decide_eq_true_iff, ← targets, List.mem_map]
    constructor
    · exact fun member => ⟨_, member, rfl⟩
    · rintro ⟨task, member, rfl⟩
      rw [← resolved task member]
      exact member
  have known : state.pool.known = begun.pool.known := by
    rw [same]
    rfl
  simp only [disconnect, known]
  rw [same]
  simp only [closedSoFar, Pool.onApplicationShutdown, closed,
    mem_closables_worker, mem_closables_queue]
  congr 1
  · refine List.ext_getElem? fun queue => ?_
    simp only [List.getElem?_mapIdx, Option.map_map]
    congr 1
    funext handle
    cases begun.pool.known.any fun runtime => runtime.queue == queue with
    | true => simp
    | false => simp
  · refine List.ext_getElem? fun worker => ?_
    simp only [List.getElem?_mapIdx, Option.map_map]
    congr 1
    funext handle
    cases begun.pool.known.any fun runtime =>
        runtime.workers.contains worker with
    | true => simp
    | false => simp

private theorem closes_step {workerPoolSize : Nat} {label : Lifecycle.Label}
    (closes : Closes begun shutdown state)
    (admitted : undisturbed label = true)
    (taken : Lifecycle.step workerPoolSize label state = some next) :
    ∃ moved, Closes begun moved next := by
  obtain ⟨found, targets, resolved, ended, open_, closed⟩ := closes
  have unreturned : ∀ {index : Nat} {task : ShutdownTask},
      shutdown.tasks[index]? = some task →
      task.closing.isSettled = false → shutdown.returned ≠ true := by
    intro index task place pending returned
    rw [ended returned task (List.mem_of_getElem? place)] at pending
    cases pending
  cases label with
  | tick elapsed =>
      cases taken
      exact ⟨shutdown, found, targets, resolved, ended, open_, closed⟩
  | timeout index =>
      simp only [Lifecycle.step, found] at taken
      obtain ⟨worker, place, -, rfl⟩ := timeout_cases taken
      have pending := unreturned place rfl
      refine ⟨_, rfl, ?_, ?_, fun returned => (pending returned).elim, ?_,
        fun returned => (pending returned).elim⟩
      · rw [← targets]
        exact map_set_same place rfl
      · intro task member
        rcases List.mem_or_eq_of_mem_set member with old | rfl
        · exact resolved task old
        · exact nofun
      · intro returned
        simp only [Lifecycle.setTask, closedSoFar,
          resolves_set_forcibly place rfl]
        exact open_ returned
  | settle index succeeded =>
      obtain rfl : succeeded = true := admitted
      simp only [Lifecycle.step, found] at taken
      obtain ⟨target, before, place, unsettled, rfl⟩ := settle_cases taken
      have pending := unreturned place unsettled
      refine ⟨_, rfl, ?_, ?_, fun returned => (pending returned).elim, ?_,
        fun returned => (pending returned).elim⟩
      · rw [← targets]
        exact map_set_same place rfl
      · intro task member
        rcases List.mem_or_eq_of_mem_set member with old | rfl
        · exact resolved task old
        · exact nofun
      · intro returned
        exact closedSoFar_close place unsettled (open_ returned)
  | finish =>
      simp only [Lifecycle.step, found] at taken
      obtain ⟨returned, settled, rfl⟩ := finish_cases taken
      refine ⟨{ shutdown with returned := true }, rfl, targets, resolved,
        ?_, nofun, fun _ => ?_⟩
      · intro _ task member
        obtain ⟨succeeded, same⟩ := settled task member
        rw [same]
        rfl
      · refine disconnect_closedSoFar (open_ returned) targets ?_
        intro task member
        obtain ⟨succeeded, same⟩ := settled task member
        cases succeeded with
        | true => exact same
        | false => exact (resolved task member same).elim
  | pool label => cases admitted
  | dlqQueue => cases admitted
  | shutdown => cases admitted

end Undisturbed

/-- A shutdown that nothing disturbs disconnects no client before every close
has resolved, and then has done what `Pool.onApplicationShutdown` does. -/
theorem shutdown_refines (workerPoolSize : Nat) (begun later : Lifecycle)
    (continued : Reaches (Lifecycle.step workerPoolSize)
      (fun _ label => undisturbed label = true)
      begun.onApplicationShutdown later) :
    ∃ shutdown, later.shutdown = some shutdown ∧
      (shutdown.returned = false →
        later.pool.workers.map WorkerHandle.clientOpen =
            begun.pool.workers.map WorkerHandle.clientOpen ∧
          later.pool.queues.map QueueHandle.clientOpen =
            begun.pool.queues.map QueueHandle.clientOpen) ∧
      (shutdown.returned = true →
        later.pool = begun.pool.onApplicationShutdown ∧
          (Owned begun.pool → Closed later.pool)) := by
  have start : ∃ shutdown,
      Closes begun shutdown begun.onApplicationShutdown := by
    refine ⟨_, rfl, ?_, ?_, nofun, fun _ => ?_, nofun⟩
    · simp [Function.comp_def]
    · intro task member
      obtain ⟨target, -, rfl⟩ := List.mem_map.mp member
      exact nofun
    · have none : ∀ target, resolves target (begun.closables.map fun target =>
          ⟨target, .gracefully⟩) = false := by
        simp [resolves]
      have same : ∀ {Handle : Type} (handles : List Handle),
          handles.mapIdx (fun _ handle => handle) = handles :=
        fun handles => List.ext_getElem? fun index => by simp
      simp [Lifecycle.onApplicationShutdown, closedSoFar, none, same]
  have ongoing : ∃ shutdown, Closes begun shutdown later := by
    refine @Reaches.invariant _ _ _ _ (fun state =>
      ∃ shutdown, Closes begun shutdown state) _ _ continued start ?_
    rintro state label next ⟨shutdown, closes⟩ admitted taken
    exact closes_step closes admitted taken
  obtain ⟨shutdown, closes⟩ := ongoing
  refine ⟨shutdown, closes.found, ?_, ?_⟩
  · intro returned
    rw [closes.open_ returned]
    refine ⟨map_mapIdx_same fun worker handle => ?_,
      map_mapIdx_same fun queue handle => ?_⟩
    · split <;> rfl
    · split <;> rfl
  · intro returned
    rw [closes.closed returned]
    exact ⟨rfl, Owned.shutdown⟩

theorem shutdown_refines_forced :
    ∃ begun later : Lifecycle, begun.pool.workers.length = 1 ∧
      later.pool = begun.pool.onApplicationShutdown := by
  obtain ⟨begun, later, -, continued, checked⟩ := exists_of_replays
    (Lifecycle.step 1) (fun _ _ => true) (fun _ label => undisturbed label)
    oneWorker [.settle 1 true, .tick graceMs, .timeout 0, .settle 2 true,
      .settle 0 true, .finish] .create Lifecycle.onApplicationShutdown
    (fun begun later => decide (begun.pool.workers.length = 1) &&
      decide (later.shutdown.map Shutdown.returned = some true))
    (by decide +kernel)
  simp only [Bool.and_eq_true, decide_eq_true_eq] at checked
  obtain ⟨shutdown, found, -, closed⟩ := shutdown_refines 1 begun later
    continued
  have returned := checked.2
  rw [found, Option.map_some, Option.some.injEq] at returned
  exact ⟨begun, later, checked.1, (closed returned).1⟩

end PaymentQueue.Shutdowns
