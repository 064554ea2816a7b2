import PaymentQueue.Safety.Orphans

/-!
# Concurrent scaling

Executions of `scaleWorkers` on one runtime overshoot and undercut each other:
one that grows pushes a worker whatever the pool has become while it waited.
The last execution that changes the pool cannot return before the pool has its
target, so the pool settles at the target of one of them.  Every worker that
was created is in the pool, in the hands of an execution or closed.
-/

namespace PaymentQueue.ScaledPool

open Await Pool Orphans

/-- What is noted about one runtime beside a run. -/
structure Record where
  /-- The executions of `scaleWorkers`: the call and the target. -/
  begun : List (Nat × Nat)
  /-- The execution that added or removed a worker last. -/
  last : Option (Nat × Nat)
  created : List Nat
  deriving DecidableEq

/-- The target of the execution that a call begins. -/
def begins (runtime : Nat) : PoolCall → PoolCall → Option Nat
  | .scaling _ _ _ _, _ => none
  | _, .scaling on target _ _ => if on = runtime then some target else none
  | _, _ => none

/-- The target of an execution that adds the worker it has waited for, or
removes the one it waits for now. -/
def changes (runtime : Nat) : PoolCall → PoolCall → Option Nat
  | .scaling on target (.starting _) _, _ =>
      if on = runtime then some target else none
  | _, .scaling on target (.stopping _) _ =>
      if on = runtime then some target else none
  | _, _ => none

def creates (runtime : Nat) : PoolCall → Option Nat
  | .scaling on _ (.starting worker) _ =>
      if on = runtime then some worker else none
  | _ => none

namespace Record

def empty : Record := ⟨[], none, []⟩

/-- Nothing has been scaled since. -/
def restart (record : Record) : Record :=
  { record with begun := [], last := none }

def note (runtime index : Nat) (before after : PoolCall) (record : Record) :
    Record :=
  { begun := record.begun ++
      ((begins runtime before after).map fun target => (index, target)).toList
    last :=
      match changes runtime before after with
      | some target => some (index, target)
      | none => record.last
    created := record.created ++ (creates runtime after).toList }

end Record

def observe (workerPoolSize runtime : Nat) (pool : Pool) (label : Label)
    (record : Record) : Record :=
  match label with
  | .call _ => record
  | .resume index =>
      match pool.calls[index]? with
      | none => record
      | some call =>
          record.note runtime index call (pool.proceed workerPoolSize call).1

/-- Any interleaving of any calls, with the record of one runtime. -/
def Runs (workerPoolSize runtime : Nat) (start final : Pool × Record) :
    Prop :=
  Reaches (observed (Pool.step workerPoolSize) (observe workerPoolSize runtime))
    (fun _ _ => True) start final

/-- The execution in this call, if any, has returned. -/
def Returned (runtime : Nat) (call : PoolCall) : Prop :=
  ∀ target await next, call = .scaling runtime target await next →
    await = .settled

/-- Every execution of `scaleWorkers` on the runtime has returned. -/
def Idle (runtime : Nat) (pool : Pool) : Prop :=
  ∀ call ∈ pool.calls, Returned runtime call

/-- The worker has closed and its client is disconnected. -/
def WorkerClosed (worker : Nat) (pool : Pool) : Prop :=
  ∃ handle, pool.workers[worker]? = some handle ∧
    handle.workerOpen = false ∧ handle.clientOpen = false

section Size

variable {runtime size target worker : Nat} {pool next : Pool}

def Sized (runtime size : Nat) (pool : Pool) : Prop :=
  ∃ object, pool.objects[runtime]? = some object ∧
    object.workers.length = size

theorem Sized.of_objects (sized : Sized runtime size pool)
    (same : next.objects[runtime]? = pool.objects[runtime]?) :
    Sized runtime size next := by
  rw [Sized, same]
  exact sized

private theorem sized_set {objects : List GatewayRuntime}
    {object : GatewayRuntime}
    (present : objects[runtime]? = some object) (workers : List Nat)
    (whole : pool.objects =
      objects.set runtime { object with workers := workers }) :
    Sized runtime workers.length pool := by
  refine ⟨{ object with workers := workers }, ?_, rfl⟩
  rw [whole]
  exact List.getElem?_set_self (List.getElem?_eq_some_iff.mp present).1

theorem Sized.pushWorker (sized : Sized runtime size pool) (worker : Nat) :
    Sized runtime (size + 1) (pool.pushWorker runtime worker) := by
  obtain ⟨object, present, rfl⟩ := sized
  have pushed := @sized_set runtime (pool.pushWorker runtime worker) _ _
    present (object.workers ++ [worker]) (by simp [Pool.pushWorker, present])
  simpa using pushed

theorem Sized.closeWorker (sized : Sized runtime size pool) (worker : Nat) :
    Sized runtime size (pool.closeWorker worker) :=
  sized.of_objects (by rw [(closeWorker_frame worker pool).1])

/-- The second loop removes a worker from a larger pool. -/
theorem Sized.scaleDown (sized : Sized runtime size pool) (target : Nat) :
    (target < size ∧
      (∃ worker, (pool.scaleDown runtime target).1 = .stopping worker) ∧
      Sized runtime (size - 1) (pool.scaleDown runtime target).2) ∨
    (size ≤ target ∧ (pool.scaleDown runtime target).1 = .settled ∧
      Sized runtime size (pool.scaleDown runtime target).2) := by
  have kept := sized
  obtain ⟨object, present, rfl⟩ := sized
  by_cases larger : target < object.workers.length
  · cases last : object.workers.getLast? with
    | none =>
        rw [List.getLast?_eq_none_iff.mp last] at larger
        exact absurd larger (Nat.not_lt_zero target)
    | some worker =>
        have popped := @sized_set runtime (pool.scaleDown runtime target).2 _ _
          present object.workers.dropLast
          (by simp [Pool.scaleDown, present, larger, last])
        rw [List.length_dropLast] at popped
        refine .inl ⟨larger, ⟨worker, ?_⟩, popped⟩
        simp [Pool.scaleDown, present, larger, last]
  · have settled : pool.scaleDown runtime target = (.settled, pool) := by
      simp [Pool.scaleDown, present, larger]
    rw [settled]
    exact .inr ⟨Nat.le_of_not_lt larger, rfl, kept⟩

/-- The first loop starts a worker for a smaller pool. -/
theorem Sized.scaleUp (sized : Sized runtime size pool) (target : Nat) :
    (size < target ∧
      (∃ worker, (pool.scaleUp runtime target).1 = .starting worker) ∧
      Sized runtime size (pool.scaleUp runtime target).2) ∨
    (target < size ∧
      (∃ worker, (pool.scaleUp runtime target).1 = .stopping worker) ∧
      Sized runtime (size - 1) (pool.scaleUp runtime target).2) ∨
    (size = target ∧ (pool.scaleUp runtime target).1 = .settled ∧
      Sized runtime size (pool.scaleUp runtime target).2) := by
  have kept := sized
  obtain ⟨object, present, rfl⟩ := sized
  by_cases smaller : object.workers.length < target
  · have started : pool.scaleUp runtime target =
        (.starting pool.workers.length, { pool with
          workers := pool.workers ++ [⟨object.gatewayId, true, true⟩] }) := by
      simp [Pool.scaleUp, present, smaller]
    rw [started]
    exact .inl ⟨smaller, ⟨_, rfl⟩, kept.of_objects rfl⟩
  · have down : pool.scaleUp runtime target =
        pool.scaleDown runtime target := by
      simp [Pool.scaleUp, present, smaller]
    rw [down]
    rcases kept.scaleDown target with popped | ⟨atMost, settled, same⟩
    · exact .inr (.inl popped)
    · exact .inr (.inr
        ⟨Nat.le_antisymm atMost (Nat.le_of_not_lt smaller), settled, same⟩)

/-- A change to one runtime leaves the others. -/
theorem objects_scaleDown {on : Nat} (apart : on ≠ runtime) (target : Nat)
    (pool : Pool) :
    (pool.scaleDown on target).2.objects[runtime]? =
      pool.objects[runtime]? := by
  rw [Pool.scaleDown]
  split
  · rfl
  · split
    · split
      · rfl
      · exact List.getElem?_set_ne apart
    · rfl

theorem objects_scaleUp {on : Nat} (apart : on ≠ runtime) (target : Nat)
    (pool : Pool) :
    (pool.scaleUp on target).2.objects[runtime]? =
      pool.objects[runtime]? := by
  rw [Pool.scaleUp]
  split
  · rfl
  · split
    · rfl
    · exact objects_scaleDown apart target pool

private theorem objects_pushWorker {on : Nat} (apart : on ≠ runtime)
    (worker : Nat)
    (pool : Pool) :
    (pool.pushWorker on worker).objects[runtime]? =
      pool.objects[runtime]? := by
  rw [Pool.pushWorker]
  split
  · rfl
  · exact List.getElem?_set_ne apart

end Size

/-- What still has to happen in an execution that changed the pool. -/
def Bound (target size : Nat) : Scaling → Prop
  | .starting _ => True
  | .stopping _ => target ≤ size
  | .settled => size = target

/-- The size that the executions settle at. -/
structure Settling (runtime initial size : Nat) (calls : List PoolCall)
    (record : Record) : Prop where
  pending : ∀ (index : Nat) target await next,
    calls[index]? = some (.scaling runtime target await next) →
      await ≠ .settled → (index, target) ∈ record.begun
  changed : ∀ index target, record.last = some (index, target) →
    (index, target) ∈ record.begun ∧ (size = target ∨ ∃ await next,
      calls[index]? = some (.scaling runtime target await next) ∧
        await ≠ .settled ∧ Bound target size await)
  unchanged : record.last = none → size = initial ∧
    ∀ entry ∈ record.begun, entry.2 = initial ∨ ∃ worker next,
      calls[entry.1]? =
        some (.scaling runtime entry.2 (.starting worker) next)

section Settling

variable {runtime initial size size' index target : Nat}
  {calls : List PoolCall} {call moved : PoolCall} {record : Record}
  {await : Scaling} {following : Option Continuation}

theorem getElem?_set_cases {other : Nat} {seen : PoolCall}
    (found : (calls.set index moved)[other]? = some seen) :
    (other = index ∧ moved = seen) ∨ (other ≠ index ∧
      calls[other]? = some seen) := by
  by_cases same : index = other
  · subst same
    have inside : index < calls.length := by
      have bound := (List.getElem?_eq_some_iff.mp found).1
      rwa [List.length_set] at bound
    rw [List.getElem?_set_self inside] at found
    exact .inl ⟨rfl, Option.some.inj found⟩
  · rw [List.getElem?_set_ne same] at found
    exact .inr ⟨fun equal => same equal.symm, found⟩

/-- Executions that are at work stay where they are. -/
def Stay (runtime : Nat) (calls later : List PoolCall) : Prop :=
  ∀ (index : Nat) target await next,
    calls[index]? = some (.scaling runtime target await next) →
      await ≠ .settled →
      later[index]? = some (.scaling runtime target await next)

/-- Another call moves, or one that is not at work. -/
theorem stay_set (found : calls[index]? = some call)
    (returned : Returned runtime call) (moved : PoolCall) :
    Stay runtime calls (calls.set index moved) := by
  intro other target await next working unsettled
  have apart : index ≠ other := by
    rintro rfl
    rw [found] at working
    exact unsettled (returned _ _ _ (Option.some.inj working))
  rw [List.getElem?_set_ne apart, working]

private theorem stay_append (new : List PoolCall) :
    Stay runtime calls (calls ++ new) := by
  intro other target await next working unsettled
  rw [List.getElem?_append_left (List.getElem?_eq_some_iff.mp working).1,
    working]

/-- What is known of the execution that changed the pool last remains so. -/
theorem Settling.changed_stay
    (settling : Settling runtime initial size calls record)
    {later : List PoolCall} (stay : Stay runtime calls later) (index : Nat)
    (target : Nat) (last : record.last = some (index, target)) :
    (index, target) ∈ record.begun ∧ (size = target ∨ ∃ await next,
      later[index]? = some (.scaling runtime target await next) ∧
        await ≠ .settled ∧ Bound target size await) := by
  obtain ⟨member, outcome⟩ := settling.changed index target last
  refine ⟨member, outcome.imp_right ?_⟩
  rintro ⟨await, next, working, unsettled, bound⟩
  exact ⟨await, next, stay _ _ _ _ working unsettled, unsettled, bound⟩

/-- So does what is known while nothing was changed. -/
theorem Settling.unchanged_stay
    (settling : Settling runtime initial size calls record)
    {later : List PoolCall} (stay : Stay runtime calls later)
    (last : record.last = none) :
    size = initial ∧ ∀ entry ∈ record.begun,
      entry.2 = initial ∨ ∃ worker next, later[entry.1]? =
        some (.scaling runtime entry.2 (.starting worker) next) := by
  obtain ⟨same, targets⟩ := settling.unchanged last
  refine ⟨same, fun entry member => (targets entry member).imp_right ?_⟩
  rintro ⟨worker, next, working⟩
  exact ⟨worker, next, stay _ _ _ _ working nofun⟩

/-- A call outside `scaleWorkers` moves on, or begins an execution that finds
its target. -/
theorem Settling.keep (settling : Settling runtime initial size calls record)
    (found : calls[index]? = some call) (before : Returned runtime call)
    (after : Returned runtime moved) {begun : List (Nat × Nat)}
    (created : List Nat) (grown : ∀ entry ∈ record.begun, entry ∈ begun)
    (reached : ∀ entry ∈ begun, entry ∈ record.begun ∨ entry.2 = size) :
    Settling runtime initial size (calls.set index moved)
      ⟨begun, record.last, created⟩ := by
  have stay := stay_set found before moved
  constructor
  · intro other target await next seen unsettled
    rcases getElem?_set_cases seen with ⟨-, rfl⟩ | ⟨-, old⟩
    · exact absurd (after _ _ _ rfl) unsettled
    · exact grown _ (settling.pending other target await next old unsettled)
  · intro other target last
    obtain ⟨member, outcome⟩ := settling.changed_stay stay other target last
    exact ⟨grown _ member, outcome⟩
  · intro last
    obtain ⟨same, targets⟩ := settling.unchanged_stay stay last
    refine ⟨same, ?_⟩
    intro entry member
    rcases reached entry member with old | settled
    · exact targets entry old
    · exact .inl (settled.trans same)

/-- A call begins an execution that starts a worker. -/
theorem Settling.start (settling : Settling runtime initial size calls record)
    (found : calls[index]? = some call) (before : Returned runtime call)
    (worker : Nat) (created : List Nat) :
    Settling runtime initial size
      (calls.set index
        (.scaling runtime target (.starting worker) following))
      ⟨record.begun ++ [(index, target)], record.last, created⟩ := by
  have inside := (List.getElem?_eq_some_iff.mp found).1
  have stay := stay_set found before
    (.scaling runtime target (.starting worker) following)
  constructor
  · intro other target' await next seen unsettled
    rcases getElem?_set_cases seen with ⟨rfl, same⟩ | ⟨-, old⟩
    · cases same
      exact List.mem_append_right _ (List.mem_singleton.mpr rfl)
    · exact List.mem_append_left _
        (settling.pending other target' await next old unsettled)
  · intro other target' last
    obtain ⟨member, outcome⟩ := settling.changed_stay stay other target' last
    exact ⟨List.mem_append_left _ member, outcome⟩
  · intro last
    obtain ⟨same, targets⟩ := settling.unchanged_stay stay last
    refine ⟨same, ?_⟩
    intro entry member
    rcases List.mem_append.mp member with old | new
    · exact targets entry old
    · obtain rfl := List.mem_singleton.mp new
      exact .inr ⟨worker, following, List.getElem?_set_self inside⟩

/-- An execution changes the pool. -/
theorem Settling.change (settling : Settling runtime initial size calls record)
    (found : calls[index]? = some call) {begun : List (Nat × Nat)}
    (created : List Nat) (grown : ∀ entry ∈ record.begun, entry ∈ begun)
    (member : (index, target) ∈ begun) (bound : Bound target size' await) :
    Settling runtime initial size'
      (calls.set index (.scaling runtime target await following))
      ⟨begun, some (index, target), created⟩ := by
  have inside := (List.getElem?_eq_some_iff.mp found).1
  constructor
  · intro other target' await' next seen unsettled
    rcases getElem?_set_cases seen with ⟨rfl, same⟩ | ⟨-, old⟩
    · cases same
      exact member
    · exact grown _ (settling.pending other target' await' next old unsettled)
  · intro other target' last
    cases last
    refine ⟨member, ?_⟩
    by_cases settled : await = .settled
    · subst settled
      exact .inl bound
    · exact .inr ⟨await, following, List.getElem?_set_self inside, settled,
        bound⟩
  · intro last
    cases last

/-- An execution finds nothing more to remove. -/
theorem Settling.stop (settling : Settling runtime initial size calls record)
    {worker : Nat} {next : Option Continuation}
    (found : calls[index]? =
      some (.scaling runtime target (.stopping worker) next))
    (atMost : size ≤ target) (created : List Nat) :
    Settling runtime initial size
      (calls.set index (.scaling runtime target .settled following))
      ⟨record.begun, record.last, created⟩ := by
  constructor
  · intro other target' await' next seen unsettled
    rcases getElem?_set_cases seen with ⟨-, same⟩ | ⟨-, old⟩
    · cases same
      exact absurd rfl unsettled
    · exact settling.pending other target' await' next old unsettled
  · intro other target' last
    obtain ⟨member, outcome⟩ := settling.changed other target' last
    refine ⟨member, ?_⟩
    rcases outcome with settled | ⟨await, next, working, unsettled, bound⟩
    · exact .inl settled
    · by_cases same : index = other
      · subst same
        rw [found] at working
        cases working
        exact .inl (Nat.le_antisymm atMost bound)
      · refine .inr ⟨await, next, ?_, unsettled, bound⟩
        rw [List.getElem?_set_ne same, working]
  · intro last
    obtain ⟨same, targets⟩ := settling.unchanged last
    refine ⟨same, ?_⟩
    intro entry member
    rcases targets entry member with equal | ⟨started, next, working⟩
    · exact .inl equal
    · refine .inr ⟨started, next, ?_⟩
      have apart : index ≠ entry.1 := by
        intro equal
        rw [← equal, found] at working
        cases working
      rw [List.getElem?_set_ne apart, working]

/-- A new call has not begun to scale. -/
theorem Settling.append (settling : Settling runtime initial size calls record)
    (returned : Returned runtime call) :
    Settling runtime initial size (calls ++ [call]) record := by
  constructor
  · intro other target await next seen unsettled
    by_cases old : other < calls.length
    · rw [List.getElem?_append_left old] at seen
      exact settling.pending other target await next seen unsettled
    · rw [List.getElem?_append_right (Nat.le_of_not_lt old),
        List.getElem?_singleton] at seen
      split at seen
      · exact absurd (returned _ _ _ (Option.some.inj seen)) unsettled
      · cases seen
  · exact settling.changed_stay (stay_append [call])
  · exact settling.unchanged_stay (stay_append [call])

end Settling

section Steps

variable {workerPoolSize runtime initial size index : Nat}
  {pool next : Pool} {call : PoolCall} {record : Record}

/-- Only an execution that is at work changes the pool. -/
theorem changes_of_returned {moved : PoolCall} (before : Returned runtime call)
    (after : Returned runtime moved) : changes runtime call moved = none := by
  unfold changes
  split
  case h_1 on target worker following =>
    apply if_neg
    rintro rfl
    cases before _ _ _ rfl
  case h_2 on target worker following =>
    apply if_neg
    rintro rfl
    cases after _ _ _ rfl
  case h_3 => rfl

/-- The note of a step that begins nothing, between calls that are not at
work. -/
theorem Settling.quiet {moved : PoolCall}
    (settling : Settling runtime initial size pool.calls record)
    (found : pool.calls[index]? = some call) (before : Returned runtime call)
    (after : Returned runtime moved)
    (begun : begins runtime call moved = none) :
    Settling runtime initial size (pool.calls.set index moved)
      (record.note runtime index call moved) := by
  have noted : record.note runtime index call moved =
      ⟨record.begun, record.last,
        record.created ++ (creates runtime moved).toList⟩ := by
    simp [Record.note, begun, changes_of_returned before after]
  rw [noted]
  exact settling.keep found before after _ (fun _ member => member)
    fun _ member => .inl member

/-- The call is in `scaleWorkers`. -/
def inScaling : PoolCall → Bool
  | .scaling _ _ _ _ => true
  | _ => false

theorem returned_outside (outside : inScaling call = false) :
    Returned runtime call := by
  intro target await next same
  rw [same] at outside
  cases outside

/-- An execution on another runtime is of no concern. -/
theorem returned_other {on target : Nat} {await : Scaling}
    {following : Option Continuation} (apart : on ≠ runtime) :
    Returned runtime (.scaling on target await following) := by
  intro target' await' next same
  cases same
  exact absurd rfl apart

/-- What an execution comes to that has just pushed its worker. -/
theorem settling_pushed {target worker : Nat}
    {following : Option Continuation} (sized : Sized runtime size pool)
    (settling : Settling runtime initial size pool.calls record)
    (found : pool.calls[index]? =
      some (.scaling runtime target (.starting worker) following)) :
    ∃ size',
      Sized runtime size'
        ((pool.pushWorker runtime worker).scaleUp runtime target).2 ∧
      Settling runtime initial size'
        (pool.calls.set index (.scaling runtime target
          ((pool.pushWorker runtime worker).scaleUp runtime target).1
          following))
        (record.note runtime index
          (.scaling runtime target (.starting worker) following)
          (.scaling runtime target
            ((pool.pushWorker runtime worker).scaleUp runtime target).1
            following)) := by
  have member := settling.pending index target _ _ found nofun
  have noted : ∀ moved, record.note runtime index
      (.scaling runtime target (.starting worker) following) moved =
        ⟨record.begun, some (index, target),
          record.created ++ (creates runtime moved).toList⟩ := by
    simp [Record.note, begins, changes]
  rw [noted]
  rcases (sized.pushWorker worker).scaleUp target with
    ⟨-, ⟨started, await⟩, after⟩ | ⟨larger, ⟨popped, await⟩, after⟩ |
      ⟨same, await, after⟩
  · refine ⟨_, after, settling.change found _ (fun _ old => old) member ?_⟩
    rw [await]
    trivial
  · refine ⟨_, after, settling.change found _ (fun _ old => old) member ?_⟩
    rw [await]
    exact Nat.le_of_lt_succ larger
  · refine ⟨_, after, settling.change found _ (fun _ old => old) member ?_⟩
    rw [await]
    exact same

/-- What an execution comes to that has just closed its worker. -/
theorem settling_closed {target worker : Nat}
    {following : Option Continuation} (sized : Sized runtime size pool)
    (settling : Settling runtime initial size pool.calls record)
    (found : pool.calls[index]? =
      some (.scaling runtime target (.stopping worker) following)) :
    ∃ size',
      Sized runtime size'
        ((pool.closeWorker worker).scaleDown runtime target).2 ∧
      Settling runtime initial size'
        (pool.calls.set index (.scaling runtime target
          ((pool.closeWorker worker).scaleDown runtime target).1 following))
        (record.note runtime index
          (.scaling runtime target (.stopping worker) following)
          (.scaling runtime target
            ((pool.closeWorker worker).scaleDown runtime target).1
            following)) := by
  have member := settling.pending index target _ _ found nofun
  rcases (sized.closeWorker worker).scaleDown target with
    ⟨larger, ⟨popped, await⟩, after⟩ | ⟨atMost, await, after⟩
  · refine ⟨_, after, ?_⟩
    rw [await]
    have noted : record.note runtime index
        (.scaling runtime target (.stopping worker) following)
        (.scaling runtime target (.stopping popped) following) =
          ⟨record.begun, some (index, target), record.created⟩ := by
      simp [Record.note, begins, changes, creates]
    rw [noted]
    exact settling.change found _ (fun _ old => old) member
      (Nat.le_sub_one_of_lt larger)
  · refine ⟨_, after, ?_⟩
    rw [await]
    have noted : record.note runtime index
        (.scaling runtime target (.stopping worker) following)
        (.scaling runtime target .settled following) =
          ⟨record.begun, record.last, record.created⟩ := by
      simp [Record.note, begins, changes, creates]
    rw [noted]
    exact settling.stop found atMost _

/-- What an execution comes to that has just been called. -/
theorem settling_begun {target : Nat} (sized : Sized runtime size pool)
    (settling : Settling runtime initial size pool.calls record)
    (found : pool.calls[index]? = some (.ensured runtime (.scale target))) :
    ∃ size',
      Sized runtime size' (pool.scaleUp runtime target).2 ∧
      Settling runtime initial size'
        (pool.calls.set index (.scaling runtime target
          (pool.scaleUp runtime target).1 none))
        (record.note runtime index (.ensured runtime (.scale target))
          (.scaling runtime target (pool.scaleUp runtime target).1
            none)) := by
  rcases sized.scaleUp target with
    ⟨-, ⟨started, await⟩, after⟩ | ⟨larger, ⟨popped, await⟩, after⟩ |
      ⟨same, await, after⟩
  · refine ⟨_, after, ?_⟩
    rw [await]
    have noted : record.note runtime index (.ensured runtime (.scale target))
        (.scaling runtime target (.starting started) none) =
          ⟨record.begun ++ [(index, target)], record.last,
            record.created ++ [started]⟩ := by
      simp [Record.note, begins, changes, creates]
    rw [noted]
    exact settling.start found (returned_outside rfl) started _
  · refine ⟨_, after, ?_⟩
    rw [await]
    have noted : record.note runtime index (.ensured runtime (.scale target))
        (.scaling runtime target (.stopping popped) none) =
          ⟨record.begun ++ [(index, target)], some (index, target),
            record.created⟩ := by
      simp [Record.note, begins, changes, creates]
    rw [noted]
    exact settling.change found _ (fun _ => List.mem_append_left _)
      (List.mem_append_right _ (List.mem_singleton.mpr rfl))
      (Nat.le_sub_one_of_lt larger)
  · refine ⟨_, after, ?_⟩
    rw [await]
    have noted : record.note runtime index (.ensured runtime (.scale target))
        (.scaling runtime target .settled none) =
          ⟨record.begun ++ [(index, target)], record.last,
            record.created⟩ := by
      simp [Record.note, begins, changes, creates]
    rw [noted]
    refine settling.keep found (returned_outside rfl) ?_ _
      (fun _ => List.mem_append_left _) ?_
    · intro target' await' following equal
      cases equal
      rfl
    · intro entry member
      rcases List.mem_append.mp member with old | new
      · exact .inl old
      · obtain rfl := List.mem_singleton.mp new
        exact .inr same.symm

/-- Executions on another runtime leave this one alone. -/
theorem settling_apart {on target : Nat} {await : Scaling}
    {following : Option Continuation} (sized : Sized runtime size pool)
    (settling : Settling runtime initial size pool.calls record)
    (found : pool.calls[index]? = some (.scaling on target await following))
    (apart : on ≠ runtime) :
    Sized runtime size
        (pool.proceed workerPoolSize (.scaling on target await following)).2 ∧
      Settling runtime initial size
        (pool.calls.set index
          (pool.proceed workerPoolSize
            (.scaling on target await following)).1)
        (record.note runtime index (.scaling on target await following)
          (pool.proceed workerPoolSize
            (.scaling on target await following)).1) := by
  cases await with
  | starting worker =>
      refine ⟨sized.of_objects ?_, settling.quiet found
        (returned_other apart) (returned_other apart) rfl⟩
      rw [proceed, objects_scaleUp apart, objects_pushWorker apart]
  | stopping worker =>
      refine ⟨sized.of_objects ?_, settling.quiet found
        (returned_other apart) (returned_other apart) rfl⟩
      rw [proceed, objects_scaleDown apart, (closeWorker_frame worker pool).1]
  | settled =>
      cases following with
      | none =>
          exact ⟨sized, settling.quiet found (returned_other apart)
            (returned_outside rfl) rfl⟩
      | some next =>
          exact ⟨sized, settling.quiet found (returned_other apart)
            (returned_outside rfl) rfl⟩

/-- One call goes on. -/
theorem settling_proceed (sized : Sized runtime size pool)
    (settling : Settling runtime initial size pool.calls record)
    (found : pool.calls[index]? = some call) :
    ∃ size', Sized runtime size' (pool.proceed workerPoolSize call).2 ∧
      Settling runtime initial size'
        (pool.calls.set index (pool.proceed workerPoolSize call).1)
        (record.note runtime index call
          (pool.proceed workerPoolSize call).1) := by
  cases call with
  | provisioning gatewayId queue following =>
      obtain ⟨object, present, -⟩ := id sized
      have inside := (List.getElem?_eq_some_iff.mp present).1
      have apart : pool.objects.length ≠ runtime := Nat.ne_of_gt inside
      simp only [proceed, provision]
      refine ⟨size, sized.of_objects ?_, settling.quiet found
        (returned_outside rfl) (returned_other apart) ?_⟩
      · rw [objects_scaleUp apart]
        exact List.getElem?_append_left inside
      · simp [begins, apart]
  | scaling on target await following =>
      by_cases same : on = runtime
      · subst same
        cases await with
        | starting worker => exact settling_pushed sized settling found
        | stopping worker => exact settling_closed sized settling found
        | settled =>
            have returned : Returned on
                (.scaling on target .settled following) := by
              intro target' await' next equal
              cases equal
              rfl
            cases following with
            | none =>
                exact ⟨size, sized, settling.quiet found returned
                  (returned_outside rfl) rfl⟩
            | some next =>
                exact ⟨size, sized, settling.quiet found returned
                  (returned_outside rfl) rfl⟩
      · exact ⟨size, settling_apart sized settling found same⟩
  | ensured on following =>
      cases following with
      | finish =>
          exact ⟨size, sized, settling.quiet found (returned_outside rfl)
            (returned_outside rfl) rfl⟩
      | command =>
          exact ⟨size, sized, settling.quiet found (returned_outside rfl)
            (returned_outside rfl) rfl⟩
      | scale target =>
          by_cases same : on = runtime
          · subst same
            exact settling_begun sized settling found
          · refine ⟨size, sized.of_objects ?_, settling.quiet found
              (returned_outside rfl) (returned_other same) ?_⟩
            · rw [proceed, objects_scaleUp same]
            · simp [proceed, begins, same]
  | commanding =>
      exact ⟨size, sized, settling.quiet found (returned_outside rfl)
        (returned_outside rfl) rfl⟩
  | sweeping position =>
      refine ⟨size, sized, settling.quiet found (returned_outside rfl) ?_ ?_⟩
      · rw [proceed, sweep]
        split <;> exact returned_outside rfl
      · rw [proceed, sweep]
        split <;> rfl
  | ended =>
      exact ⟨size, sized, settling.quiet found (returned_outside rfl)
        (returned_outside rfl) rfl⟩

theorem ensureGateway_returned (gatewayId : String)
    (following : Continuation) (pool : Pool) :
    Returned runtime (pool.ensureGateway gatewayId following).1 := by
  rw [ensureGateway]
  split <;> exact returned_outside rfl

private theorem begin_returned (task : PoolTask) (pool : Pool) :
    Returned runtime (pool.begin task).1 := by
  unfold begin
  split
  · exact ensureGateway_returned _ _ pool
  · exact ensureGateway_returned _ _ pool
  · exact ensureGateway_returned _ _ pool
  · exact ensureGateway_returned _ _ pool
  · rw [sweep]
    split <;> exact returned_outside rfl
  · rw [sweep]
    split <;> exact returned_outside rfl
  · exact ensureGateway_returned _ _ pool

private theorem settling_step {label : Label} {record' : Record}
    (settled : ∃ size, Sized runtime size pool ∧
      Settling runtime initial size pool.calls record)
    (taken : Pool.step workerPoolSize label pool = some next)
    (noted : record' = observe workerPoolSize runtime pool label record) :
    ∃ size, Sized runtime size next ∧
      Settling runtime initial size next.calls record' := by
  obtain ⟨size, sized, settling⟩ := settled
  subst noted
  rcases step_cases taken with
    ⟨task, rfl, rfl⟩ | ⟨index, call, rfl, found, rfl⟩
  · refine ⟨size, sized.of_objects ?_, ?_⟩
    · simp only
      rw [(begin_frame task pool).1]
    · exact settling.append (begin_returned task pool)
  · simp only [observe, found]
    exact settling_proceed sized settling found

end Steps

/-- Every worker that was created for the runtime is in its pool, in the hands
of an execution on it, or closed. -/
def Accounts (runtime : Nat) (created : List Nat) (hands : List (Nat × Nat))
    (pool : Pool) : Prop :=
  ∀ worker ∈ created,
    (∃ object, pool.objects[runtime]? = some object ∧
      worker ∈ object.workers) ∨
    (runtime, worker) ∈ hands ∨ WorkerClosed worker pool

section Workers

variable {runtime on target worker : Nat} {created : List Nat}
  {hands others : List (Nat × Nat)} {pool next : Pool}
  {object : GatewayRuntime}

theorem Accounts.perm (accounts : Accounts runtime created hands pool)
    (same : hands.Perm others) : Accounts runtime created others pool := by
  intro worker member
  exact (accounts worker member).imp_right
    fun rest => rest.imp_left same.mem_iff.mp

/-- What does not concern the pool of the runtime. -/
theorem Accounts.of_objects (accounts : Accounts runtime created hands pool)
    (same : ∀ object, pool.objects[runtime]? = some object →
      next.objects[runtime]? = some object)
    (kept : ∀ hand ∈ hands, hand ∈ others ∨ WorkerClosed hand.2 next)
    (closed : ∀ worker, WorkerClosed worker pool → WorkerClosed worker next) :
    Accounts runtime created others next := by
  intro worker member
  rcases accounts worker member with ⟨object, found, employed⟩ | held | gone
  · exact .inl ⟨object, same object found, employed⟩
  · exact .inr (kept _ held)
  · exact .inr (.inr (closed worker gone))

theorem Accounts.push
    (accounts : Accounts runtime created ((on, worker) :: hands) pool)
    (staffed : Staffed ((on, worker) :: hands) pool) :
    Accounts runtime created hands (pool.pushWorker on worker) := by
  obtain ⟨object, present, -⟩ := staffed.awaited _ List.mem_cons_self
  have inside := (List.getElem?_eq_some_iff.mp present).1
  simp only [pushWorker, present]
  intro other member
  rcases accounts other member with ⟨object', found, employed⟩ | held | gone
  · by_cases same : on = runtime
    · subst same
      rw [present] at found
      obtain rfl := Option.some.inj found
      exact .inl ⟨_, List.getElem?_set_self inside,
        List.mem_append_left _ employed⟩
    · exact .inl ⟨object', by rw [List.getElem?_set_ne same, found], employed⟩
  · rcases List.mem_cons.mp held with here | elsewhere
    · cases here
      exact .inl ⟨_, List.getElem?_set_self inside,
        List.mem_append_right _ (List.mem_singleton.mpr rfl)⟩
    · exact .inr (.inl elsewhere)
  · exact .inr (.inr gone)

theorem Accounts.pop (accounts : Accounts runtime created hands pool)
    (present : pool.objects[on]? = some object)
    (last : object.workers.getLast? = some worker) :
    Accounts runtime created ((on, worker) :: hands)
      { pool with
        objects := pool.objects.set on
          { object with workers := object.workers.dropLast } } := by
  have inside := (List.getElem?_eq_some_iff.mp present).1
  have split := List.dropLast_append_getLast? worker last
  intro other member
  rcases accounts other member with ⟨object', found, employed⟩ | held | gone
  · by_cases same : on = runtime
    · subst same
      rw [present] at found
      obtain rfl := Option.some.inj found
      rw [← split] at employed
      rcases List.mem_append.mp employed with kept | popped
      · exact .inl ⟨_, List.getElem?_set_self inside, kept⟩
      · rw [List.mem_singleton.mp popped]
        exact .inr (.inl List.mem_cons_self)
    · exact .inl ⟨object', by rw [List.getElem?_set_ne same, found], employed⟩
  · exact .inr (.inl (List.mem_cons_of_mem _ held))
  · exact .inr (.inr gone)

theorem Accounts.close
    (accounts : Accounts runtime created ((on, worker) :: hands) pool)
    (staffed : Staffed ((on, worker) :: hands) pool) :
    Accounts runtime created hands (pool.closeWorker worker) := by
  obtain ⟨object, -, present⟩ := staffed.awaited _ List.mem_cons_self
  have inside := (List.getElem?_eq_some_iff.mp present).1
  have gone : WorkerClosed worker (pool.closeWorker worker) := by
    simp only [closeWorker, present]
    exact ⟨_, List.getElem?_set_self inside, rfl, rfl⟩
  refine accounts.of_objects ?_ ?_ ?_
  · intro object found
    rw [(closeWorker_frame worker pool).1, found]
  · intro hand member
    rcases List.mem_cons.mp member with rfl | old
    · exact .inr gone
    · exact .inl old
  · intro other closed
    by_cases same : worker = other
    · subst same
      exact gone
    · obtain ⟨handle, found, shut⟩ := closed
      refine ⟨handle, ?_, shut⟩
      simp only [closeWorker, present]
      rw [List.getElem?_set_ne same, found]

theorem Accounts.start (accounts : Accounts runtime created hands pool)
    (handle : WorkerHandle) :
    Accounts runtime
      (created ++ (creates runtime (.scaling on target
        (.starting pool.workers.length) none)).toList)
      ((on, pool.workers.length) :: hands)
      { pool with workers := pool.workers ++ [handle] } := by
  have old : Accounts runtime created ((on, pool.workers.length) :: hands)
      { pool with workers := pool.workers ++ [handle] } := by
    refine accounts.of_objects (fun _ found => found) ?_ ?_
    · exact fun _ member => .inl (List.mem_cons_of_mem _ member)
    · rintro worker ⟨handle, found, shut⟩
      refine ⟨handle, ?_, shut⟩
      rw [List.getElem?_append_left (List.getElem?_eq_some_iff.mp found).1,
        found]
  intro worker member
  rcases List.mem_append.mp member with before | new
  · exact old worker before
  · by_cases same : on = runtime
    · simp only [creates, if_pos same, Option.toList_some,
        List.mem_singleton] at new
      rw [new, ← same]
      exact .inr (.inl List.mem_cons_self)
    · simp [creates, same] at new

theorem Accounts.scaleDown (accounts : Accounts runtime created hands pool)
    (on target : Nat) (following : Option Continuation) :
    Accounts runtime
      (created ++ (creates runtime (.scaling on target
        (pool.scaleDown on target).1 following)).toList)
      (withHand on (pool.scaleDown on target).1 hands)
      (pool.scaleDown on target).2 := by
  have settled : Accounts runtime
      (created ++ (creates runtime
        (.scaling on target .settled following)).toList) hands pool := by
    simpa [creates] using accounts
  rw [Pool.scaleDown]
  split
  case h_1 => exact settled
  case h_2 object found =>
    split
    case isFalse => exact settled
    case isTrue =>
      split
      case h_1 => exact settled
      case h_2 worker last => simpa [creates] using! accounts.pop found last

theorem Accounts.scaleUp (accounts : Accounts runtime created hands pool)
    (on target : Nat) (following : Option Continuation) :
    Accounts runtime
      (created ++ (creates runtime (.scaling on target
        (pool.scaleUp on target).1 following)).toList)
      (withHand on (pool.scaleUp on target).1 hands)
      (pool.scaleUp on target).2 := by
  rw [Pool.scaleUp]
  split
  case h_1 => simpa [creates] using! accounts
  case h_2 object found =>
    split
    case isTrue => exact @Accounts.start _ on target _ _ _ accounts _
    case isFalse => exact accounts.scaleDown on target following

variable {workerPoolSize index : Nat} {call : PoolCall} {record : Record}

/-- A step that concerns no worker. -/
theorem Accounts.idle (accounts : Accounts runtime record.created hands pool)
    {before after : PoolCall} (none : creates runtime after = none) :
    Accounts runtime (record.note runtime index before after).created hands
      pool := by
  simpa [Record.note, none] using accounts

/-- One call goes on. -/
theorem accounts_proceed
    (staffed : Staffed ((handOf call).toList ++ hands) pool)
    (accounts : Accounts runtime record.created
      ((handOf call).toList ++ hands) pool) :
    Accounts runtime
      (record.note runtime index call
        (pool.proceed workerPoolSize call).1).created
      ((handOf (pool.proceed workerPoolSize call).1).toList ++ hands)
      (pool.proceed workerPoolSize call).2 := by
  unfold proceed
  split
  · rename_i gatewayId queue following
    simp only [provision, toList_handOf]
    refine Accounts.scaleUp ?_ _ _ _
    refine accounts.of_objects ?_ (fun _ member => .inl member)
      fun _ closed => closed
    intro object found
    rw [List.getElem?_append_left (List.getElem?_eq_some_iff.mp found).1,
      found]
  · simp only [toList_handOf]
    exact (accounts.push staffed).scaleUp _ _ _
  · simp only [toList_handOf]
    exact (accounts.close staffed).scaleDown _ _ _
  · exact accounts.idle rfl
  · exact accounts.idle rfl
  · exact accounts.idle rfl
  · exact accounts.idle rfl
  · simp only [toList_handOf]
    exact accounts.scaleUp _ _ _
  · exact accounts.idle rfl
  · rw [sweep]
    split
    · exact accounts.idle rfl
    · exact accounts.idle rfl
  · exact accounts.idle rfl

theorem Accounts.with_calls (accounts : Accounts runtime created hands pool)
    (calls : List PoolCall) :
    Accounts runtime created hands { pool with calls } := accounts

private theorem accounts_step {label : Label} {record' : Record}
    (staffed : Staffed (Orphans.hands pool) pool)
    (accounts : Accounts runtime record.created (Orphans.hands pool) pool)
    (taken : Pool.step workerPoolSize label pool = some next)
    (noted : record' = observe workerPoolSize runtime pool label record) :
    Accounts runtime record'.created (Orphans.hands next) next := by
  subst noted
  rcases step_cases taken with
    ⟨task, rfl, rfl⟩ | ⟨index, call, rfl, found, rfl⟩
  · have carried := filterMap_append_perm handOf pool.calls
      (pool.begin task).1
    obtain ⟨objects, workers, empty⟩ := begin_frame task pool
    rw [empty] at carried
    refine Accounts.with_calls (Accounts.perm ?_ carried.symm) _
    refine accounts.of_objects ?_ (fun _ member => .inl member) ?_
    · intro object present
      rw [objects, present]
    · intro worker closed
      rw [WorkerClosed, workers]
      exact closed
  · have carried := filterMap_set_perm handOf found
      (pool.proceed workerPoolSize call).1
    have before := filterMap_perm handOf found
    simp only [observe, found]
    exact ((accounts_proceed (staffed.perm before)
      (accounts.perm before)).perm carried.symm).with_calls _

end Workers

section Runs

variable {workerPoolSize runtime : Nat} {pool final : Pool}
  {before after : Record}

private theorem accounts_empty :
    Accounts runtime Record.empty.created (hands Pool.create) Pool.create := by
  intro worker member
  cases member

private theorem accounts_onward
    (initial : Staffed (hands pool) pool ∧
      Accounts runtime before.created (hands pool) pool)
    (reached : Runs workerPoolSize runtime (pool, before) (final, after)) :
    Staffed (hands final) final ∧
      Accounts runtime after.created (hands final) final := by
  have holds := @Reaches.invariant _ _ _ _
    (fun state => Staffed (hands state.1) state.1 ∧
      Accounts runtime state.2.created (hands state.1) state.1) _ _ reached
  apply holds initial
  intro state label next kept _ taken
  obtain ⟨moved, noted⟩ := observed_eq_some.mp taken
  exact ⟨staffed_step kept.1 moved, accounts_step kept.1 kept.2 moved noted⟩

private theorem settling_onward {initial : Nat}
    (idle : ∃ size, Sized runtime size pool ∧
      Settling runtime initial size pool.calls before)
    (reached : Runs workerPoolSize runtime (pool, before) (final, after)) :
    ∃ size, Sized runtime size final ∧
      Settling runtime initial size final.calls after := by
  have holds := @Reaches.invariant _ _ _ _
    (fun state => ∃ size, Sized runtime size state.1 ∧
      Settling runtime initial size state.1.calls state.2) _ _ reached
  apply holds idle
  intro state label next kept _ taken
  obtain ⟨moved, noted⟩ := observed_eq_some.mp taken
  exact settling_step kept moved noted

/-- Before anything is scaled the pool has its initial size. -/
theorem Idle.settling (idle : Idle runtime pool) (record : Record)
    (size : Nat) : Settling runtime size size pool.calls record.restart := by
  constructor
  · intro index target await next found unsettled
    exact absurd (idle _ (List.mem_of_getElem? found) _ _ _ rfl) unsettled
  · intro index target last
    cases last
  · intro _
    exact ⟨rfl, nofun⟩

/-- With every execution returned, the last change decides. -/
theorem Idle.settled {initial size : Nat} (idle : Idle runtime final)
    (settling : Settling runtime initial size final.calls after) :
    (∀ index target, after.last = some (index, target) →
      (index, target) ∈ after.begun ∧ size = target) ∧
    (after.last = none → size = initial ∧
      ∀ entry ∈ after.begun, entry.2 = initial) := by
  constructor
  · intro index target last
    obtain ⟨member, outcome⟩ := settling.changed index target last
    refine ⟨member, ?_⟩
    rcases outcome with same | ⟨await, next, working, unsettled, -⟩
    · exact same
    · exact absurd (idle _ (List.mem_of_getElem? working) _ _ _ rfl) unsettled
  · intro last
    obtain ⟨same, targets⟩ := settling.unchanged last
    refine ⟨same, ?_⟩
    intro entry member
    rcases targets entry member with equal | ⟨worker, next, working⟩
    · exact equal
    · exact nomatch idle _ (List.mem_of_getElem? working) _ _ _ rfl

/-- With every execution returned, no worker is in its hands. -/
theorem Idle.hands (idle : Idle runtime final) (worker : Nat) :
    (runtime, worker) ∉ Orphans.hands final := by
  intro member
  obtain ⟨call, among, held⟩ := List.mem_filterMap.mp member
  cases call with
  | scaling on target await next =>
      cases await with
      | starting started =>
          obtain ⟨rfl, -⟩ := Prod.mk.inj (Option.some.inj held)
          exact nomatch idle _ among _ _ _ rfl
      | stopping stopped =>
          obtain ⟨rfl, -⟩ := Prod.mk.inj (Option.some.inj held)
          exact nomatch idle _ among _ _ _ rfl
      | settled => cases held
  | provisioning gatewayId queue next => cases held
  | ensured on next => cases held
  | commanding => cases held
  | sweeping position => cases held
  | ended => cases held

end Runs

/-- When every execution of `scaleWorkers` on a provisioned runtime has
returned, the pool has the target of the one that changed it last, or its
first size if none did, which then was every target; and every worker that was
ever created for the runtime is either in its pool or closed. -/
theorem scaling_settles {workerPoolSize runtime : Nat} {pool final : Pool}
    {before after : Record} {object : GatewayRuntime}
    (reached : Runs workerPoolSize runtime (Pool.create, .empty)
      (pool, before))
    (provisioned : pool.objects[runtime]? = some object)
    (idle : Idle runtime pool)
    (scaled : Runs workerPoolSize runtime (pool, before.restart)
      (final, after))
    (returned : Idle runtime final) :
    ∃ settled, final.objects[runtime]? = some settled ∧
      (∀ index target, after.last = some (index, target) →
        (index, target) ∈ after.begun ∧ settled.workers.length = target) ∧
      (after.last = none →
        settled.workers.length = object.workers.length ∧
          ∀ entry ∈ after.begun, entry.2 = object.workers.length) ∧
      ∀ worker ∈ after.created,
        (worker ∈ settled.workers ∧ ¬ WorkerClosed worker final) ∨
          (worker ∉ settled.workers ∧ WorkerClosed worker final) := by
  obtain ⟨first, accounted⟩ :=
    accounts_onward ⟨tidy_create.staffed, accounts_empty⟩ reached
  obtain ⟨staffed, accounts⟩ :=
    @accounts_onward _ _ _ _ before.restart _ ⟨first, accounted⟩ scaled
  obtain ⟨size, ⟨settled, present, rfl⟩, settling⟩ := settling_onward
    ⟨_, ⟨object, provisioned, rfl⟩, idle.settling before _⟩ scaled
  obtain ⟨changed, unchanged⟩ := returned.settled settling
  refine ⟨settled, present, changed, unchanged, ?_⟩
  have opened : ∀ worker ∈ settled.workers, ¬ WorkerClosed worker final := by
    rintro worker employed ⟨handle, found, shut, -⟩
    rw [staffed.staffed settled (List.mem_of_getElem? present) worker
      employed] at found
    cases found
    cases shut
  intro worker member
  rcases accounts worker member with ⟨object', found, employed⟩ | held | gone
  · rw [present] at found
    obtain rfl := Option.some.inj found
    exact .inl ⟨employed, opened worker employed⟩
  · exact absurd held (returned.hands worker)
  · exact .inr ⟨fun employed => opened worker employed gone, gone⟩

/-- A gateway with a pool of one worker. -/
def ready : Pool :=
  { queues := [⟨"stripe", true, true⟩]
    workers := [⟨"stripe", true, true⟩]
    objects := [⟨"stripe", "stripe", 0, [0]⟩]
    runtimes := [("stripe", 0)]
    calls := [.ended] }

private theorem idle_of_quiescent {runtime : Nat} {pool : Pool}
    (quiescent : Quiescent pool) : Idle runtime pool := by
  intro call member
  rw [quiescent call member]
  exact nofun

/-- One execution grows the pool to three workers while another one empties
it. -/
theorem scaling_settles_grown_and_emptied :
    ∃ (final : Pool) (after : Record) (settled : GatewayRuntime),
      after.begun = [(1, 3), (2, 0)] ∧ after.last = some (1, 3) ∧
      final.objects[0]? = some settled ∧ settled.workers.length = 3 ∧
      ∀ worker ∈ after.created,
        (worker ∈ settled.workers ∧ ¬ WorkerClosed worker final) ∨
          (worker ∉ settled.workers ∧ WorkerClosed worker final) := by
  have reached : Runs 1 0 (Pool.create, .empty)
      (ready, ⟨[(0, 1)], some (0, 1), [0]⟩) :=
    (@reaches_of_replay _ _ _ (fun _ _ => true)
      (.call (.ensureGateway "stripe") :: resumed 0 4) _ _
      (by decide +kernel)).mono fun _ _ _ => trivial
  obtain ⟨⟨final, after⟩, scaled, checked⟩ :=
    exists_of_replay (observed (Pool.step 1) (observe 1 0))
      (fun _ _ => true)
      ([.call (.setWorkerPoolSize "stripe" 3),
          .call (.setWorkerPoolSize "stripe" 0), .resume 1, .resume 2,
          .resume 1, .resume 2, .resume 1, .resume 2, .resume 2,
          .resume 2] ++ resumed 1 4)
      (ready, Record.restart ⟨[(0, 1)], some (0, 1), [0]⟩)
      (fun state => isQuiescent state.1 &&
        decide (state.2.begun = [(1, 3), (2, 0)] ∧
          state.2.last = some (1, 3)))
      (by decide +kernel)
  rw [Bool.and_eq_true, decide_eq_true_eq] at checked
  obtain ⟨quiescent, begun, last⟩ := checked
  obtain ⟨settled, present, changed, -, accounted⟩ :=
    @scaling_settles 1 0 ready final _ after _ reached rfl
      (idle_of_quiescent (quiescent_of_isQuiescent rfl))
      (scaled.mono fun _ _ _ => trivial)
      (idle_of_quiescent (quiescent_of_isQuiescent quiescent))
  exact ⟨final, after, settled, begun, last, present,
    (changed 1 3 last).2, accounted⟩

end PaymentQueue.ScaledPool
