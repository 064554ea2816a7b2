import PaymentQueue.Queue.Pool
import PaymentQueue.Safety.Orphans

/-!
# The map of the gateways

A gateway enters the map of `QueueManager` once and keeps its place there.
Its runtime may be replaced, by one with a queue of the same name.
-/

namespace PaymentQueue.Filing

open Await Pool Orphans

/-- Workers are not reopened, and queues and keys of the map stay in their
places. -/
structure Grows (before after : Pool) : Prop where
  workers : ∀ (worker : Nat) handle, before.workers[worker]? = some handle →
    ∃ handle', after.workers[worker]? = some handle' ∧
      (handle.workerOpen = false → handle'.workerOpen = false)
  queues : before.queues <+: after.queues
  keys : before.runtimes.map Prod.fst <+: after.runtimes.map Prod.fst

section Growth

variable {pool before after : Pool} {workerPoolSize : Nat}

theorem Grows.refl (pool : Pool) : Grows pool pool :=
  ⟨fun _ handle found => ⟨handle, found, fun closed => closed⟩,
    List.prefix_refl _, List.prefix_refl _⟩

theorem Grows.trans {first second third : Pool} (left : Grows first second)
    (right : Grows second third) : Grows first third := by
  refine ⟨?_, left.queues.trans right.queues, left.keys.trans right.keys⟩
  intro worker handle found
  obtain ⟨handle', found', closed⟩ := left.workers worker handle found
  obtain ⟨handle'', found'', closed'⟩ := right.workers worker handle' found'
  exact ⟨handle'', found'', fun shut => closed' (closed shut)⟩

/-- The objects and the calls do not matter. -/
theorem Grows.of_same {next : Pool} (grows : Grows before after)
    (workers : next.workers = after.workers)
    (queues : next.queues = after.queues)
    (runtimes : next.runtimes = after.runtimes) : Grows before next :=
  ⟨by rw [workers]; exact grows.workers, by rw [queues]; exact grows.queues,
    by rw [runtimes]; exact grows.keys⟩

private theorem keys_setRuntime (gatewayId : String) (runtime : Nat)
    (runtimes : List (String × Nat)) :
    runtimes.map Prod.fst <+:
      (setRuntime gatewayId runtime runtimes).map Prod.fst := by
  induction runtimes with
  | nil => exact List.nil_prefix
  | cons entry entries induction =>
      rw [setRuntime]
      split
      case isTrue same => simp [same]
      case isFalse =>
        simp only [List.map_cons]
        exact (List.prefix_cons_inj _).mpr induction

private theorem grows_pushWorker (runtime worker : Nat) (pool : Pool) :
    Grows pool (pool.pushWorker runtime worker) := by
  rw [pushWorker]
  split
  · exact .refl pool
  · exact (Grows.refl pool).of_same rfl rfl rfl

private theorem grows_closeWorker (worker : Nat) (pool : Pool) :
    Grows pool (pool.closeWorker worker) := by
  rw [closeWorker]
  split
  case h_1 => exact .refl pool
  case h_2 handle found =>
    refine ⟨?_, List.prefix_refl _, List.prefix_refl _⟩
    intro other handle' found'
    simp only [List.getElem?_set]
    split
    case isTrue same =>
      subst same
      rw [if_pos (List.getElem?_eq_some_iff.mp found).1]
      exact ⟨_, rfl, fun _ => rfl⟩
    case isFalse => exact ⟨handle', found', fun closed => closed⟩

private theorem grows_scaleDown (runtime target : Nat) (pool : Pool) :
    Grows pool (pool.scaleDown runtime target).2 := by
  rw [scaleDown]
  split
  · exact .refl pool
  · split
    · split
      · exact .refl pool
      · exact (Grows.refl pool).of_same rfl rfl rfl
    · exact .refl pool

theorem grows_scaleUp (runtime target : Nat) (pool : Pool) :
    Grows pool (pool.scaleUp runtime target).2 := by
  rw [scaleUp]
  split
  · exact .refl pool
  · split
    · refine ⟨?_, List.prefix_refl _, List.prefix_refl _⟩
      intro worker handle found
      refine ⟨handle, ?_, fun closed => closed⟩
      rw [List.getElem?_append_left (List.getElem?_eq_some_iff.mp found).1,
        found]
    · exact grows_scaleDown runtime target pool

theorem grows_ensureGateway (gatewayId : String) (following : Continuation)
    (pool : Pool) : Grows pool (pool.ensureGateway gatewayId following).2 := by
  rw [ensureGateway]
  split
  · exact .refl pool
  · exact ⟨(Grows.refl pool).workers, List.prefix_append _ _,
      List.prefix_refl _⟩

private theorem grows_begin (task : PoolTask) (pool : Pool) :
    Grows pool (pool.begin task).2 := by
  unfold begin
  split
  · exact grows_ensureGateway _ _ pool
  · exact grows_ensureGateway _ _ pool
  · exact grows_ensureGateway _ _ pool
  · exact grows_ensureGateway _ _ pool
  · exact .refl pool
  · exact .refl pool
  · exact grows_ensureGateway _ _ pool

private theorem grows_proceed (call : PoolCall) (pool : Pool) :
    Grows pool (pool.proceed workerPoolSize call).2 := by
  unfold proceed
  split
  · refine Grows.trans ?_ (grows_scaleUp _ _ _)
    exact ⟨(Grows.refl pool).workers, List.prefix_refl _,
      keys_setRuntime _ _ _⟩
  · exact (grows_pushWorker _ _ pool).trans (grows_scaleUp _ _ _)
  · exact (grows_closeWorker _ pool).trans (grows_scaleDown _ _ _)
  · exact .refl pool
  · exact .refl pool
  · exact .refl pool
  · exact .refl pool
  · exact grows_scaleUp _ _ pool
  · exact .refl pool
  · exact .refl pool
  · exact .refl pool

theorem grows_step {label : Pool.Label}
    (taken : Pool.step workerPoolSize label before = some after) :
    Grows before after := by
  rcases step_cases taken with
    ⟨task, rfl, rfl⟩ | ⟨index, call, rfl, -, rfl⟩
  · exact (grows_begin task before).of_same rfl rfl rfl
  · exact (grows_proceed call before).of_same rfl rfl rfl

end Growth

/-- What a runtime says of itself, whatever workers it has. -/
def plaque (object : GatewayRuntime) : String × String × Nat :=
  (object.gatewayId, object.queueName, object.queue)

/-- Only workers come and go. -/
structure Still (before after : Pool) : Prop where
  objects : after.objects.map plaque = before.objects.map plaque
  queues : after.queues = before.queues
  runtimes : after.runtimes = before.runtimes

/-- The map leads to runtimes of its keys, each with a queue of its own
name. -/
structure Filed (asked : List (String × Nat)) (pool : Pool) : Prop where
  named : ∀ gatewayId queueName queue,
    (gatewayId, queueName, queue) ∈ pool.objects.map plaque →
      queueName = QueueManager.queueNameFor gatewayId ∧
        queue < pool.queues.length
  requested : ∀ request ∈ asked, request.2 < pool.queues.length
  mapped : ∀ entry ∈ pool.runtimes,
    (pool.objects.map plaque)[entry.2]?.map Prod.fst = some entry.1
  sole : (pool.runtimes.map Prod.fst).Nodup

variable {asked others : List (String × Nat)}
  {pool before after : Pool} {workerPoolSize : Nat}

theorem Still.refl (pool : Pool) : Still pool pool :=
  ⟨rfl, rfl, rfl⟩

private theorem still_pushWorker (runtime worker : Nat) (pool : Pool) :
    Still pool (pool.pushWorker runtime worker) := by
  rw [pushWorker]
  split
  case h_1 => exact .refl pool
  case h_2 found => exact ⟨map_set_same found rfl, rfl, rfl⟩

private theorem still_closeWorker (worker : Nat) (pool : Pool) :
    Still pool (pool.closeWorker worker) := by
  rw [closeWorker]
  split
  · exact .refl pool
  · exact ⟨rfl, rfl, rfl⟩

private theorem still_scaleDown (runtime target : Nat) (pool : Pool) :
    Still pool (pool.scaleDown runtime target).2 := by
  rw [scaleDown]
  split
  case h_1 => exact .refl pool
  case h_2 found =>
    split
    · split
      · exact .refl pool
      · exact ⟨map_set_same found rfl, rfl, rfl⟩
    · exact .refl pool

theorem still_scaleUp (runtime target : Nat) (pool : Pool) :
    Still pool (pool.scaleUp runtime target).2 := by
  rw [scaleUp]
  split
  · exact .refl pool
  · split
    · exact ⟨rfl, rfl, rfl⟩
    · exact still_scaleDown runtime target pool

theorem Filed.of_still (filed : Filed asked before)
    (still : Still before after) : Filed asked after := by
  refine ⟨?_, ?_, ?_, ?_⟩
  · rw [still.objects, still.queues]
    exact filed.named
  · rw [still.queues]
    exact filed.requested
  · rw [still.runtimes, still.objects]
    exact filed.mapped
  · rw [still.runtimes]
    exact filed.sole

theorem Filed.perm (filed : Filed asked pool)
    (same : asked.Perm others) : Filed others pool :=
  ⟨filed.named, fun request member =>
    filed.requested request (same.mem_iff.mpr member), filed.mapped,
    filed.sole⟩

theorem Filed.with_calls (filed : Filed asked pool)
    (calls : List PoolCall) : Filed asked { pool with calls } :=
  ⟨filed.named, filed.requested, filed.mapped, filed.sole⟩

/-- A queue is created for a gateway that is not in the map. -/
theorem Filed.request (filed : Filed asked pool) (gatewayId : String) :
    Filed ((gatewayId, pool.queues.length) :: asked)
      { pool with queues := pool.queues ++ [⟨gatewayId, true, true⟩] } := by
  have grown : ∀ queue, queue < pool.queues.length →
      queue < (pool.queues ++ [QueueHandle.mk gatewayId true true]).length := by
    intro queue inside
    rw [List.length_append, List.length_singleton]
    omega
  refine ⟨?_, ?_, filed.mapped, filed.sole⟩
  · intro gateway queueName queue member
    obtain ⟨named, inside⟩ := filed.named gateway queueName queue member
    exact ⟨named, grown queue inside⟩
  · intro request member
    rcases List.mem_cons.mp member with rfl | old
    · simp
    · exact grown _ (filed.requested request old)

private theorem mem_setRuntime {gatewayId : String} {runtime : Nat}
    {runtimes : List (String × Nat)} {entry : String × Nat}
    (member : entry ∈ setRuntime gatewayId runtime runtimes) :
    entry = (gatewayId, runtime) ∨ entry ∈ runtimes := by
  induction runtimes with
  | nil => exact .inl (List.mem_singleton.mp member)
  | cons first rest induction =>
      rw [setRuntime] at member
      split at member
      · rcases List.mem_cons.mp member with new | old
        · exact .inl new
        · exact .inr (List.mem_cons_of_mem _ old)
      · rcases List.mem_cons.mp member with here | later
        · exact .inr (here ▸ List.mem_cons_self)
        · rcases induction later with new | old
          · exact .inl new
          · exact .inr (List.mem_cons_of_mem _ old)

private theorem nodup_setRuntime (gatewayId : String) (runtime : Nat)
    {runtimes : List (String × Nat)}
    (sole : (runtimes.map Prod.fst).Nodup) :
    ((setRuntime gatewayId runtime runtimes).map Prod.fst).Nodup := by
  induction runtimes with
  | nil => exact List.nodup_singleton _
  | cons first rest induction =>
      obtain ⟨fresh, sole⟩ := List.nodup_cons.mp sole
      rw [setRuntime]
      split
      case isTrue same =>
        refine List.nodup_cons.mpr ⟨?_, sole⟩
        rwa [← same]
      case isFalse differs =>
        refine List.nodup_cons.mpr ⟨fun member => ?_, induction sole⟩
        obtain ⟨entry, among, same⟩ := List.mem_map.mp member
        rcases mem_setRuntime among with rfl | old
        · exact differs same.symm
        · exact fresh (List.mem_map.mpr ⟨entry, old, same⟩)

/-- The requested queue is ready, and its runtime enters the map. -/
theorem Filed.enter {gatewayId : String} {queue : Nat}
    (filed : Filed ((gatewayId, queue) :: asked) pool) :
    Filed asked { pool with
      objects := pool.objects ++ [GatewayRuntime.mk gatewayId
        (QueueManager.queueNameFor gatewayId) queue []]
      runtimes := setRuntime gatewayId pool.objects.length pool.runtimes } := by
  refine ⟨?_, fun request member => filed.requested request
    (List.mem_cons_of_mem _ member), ?_, nodup_setRuntime _ _ filed.sole⟩
  · intro gateway queueName other member
    rw [List.map_append] at member
    rcases List.mem_append.mp member with old | new
    · exact filed.named gateway queueName other old
    · simp only [List.map_cons, List.map_nil, List.mem_singleton, plaque,
        Prod.mk.injEq] at new
      obtain ⟨rfl, rfl, rfl⟩ := new
      exact ⟨rfl, filed.requested _ List.mem_cons_self⟩
  · intro entry member
    rcases mem_setRuntime member with rfl | old
    · simp [plaque]
    · have found := filed.mapped entry old
      rw [List.map_append, List.getElem?_append_left]
      · exact found
      · obtain ⟨object, present, -⟩ := Option.map_eq_some_iff.mp found
        exact (List.getElem?_eq_some_iff.mp present).1

theorem ensureGateway_filed (gatewayId : String) (following : Continuation)
    (filed : Filed others pool) :
    Filed ((requestOf (pool.ensureGateway gatewayId following).1).toList ++
      others) (pool.ensureGateway gatewayId following).2 := by
  rw [ensureGateway]
  split
  · exact filed
  · exact filed.request gatewayId

private theorem begin_filed (task : PoolTask) (filed : Filed others pool) :
    Filed ((requestOf (pool.begin task).1).toList ++ others)
      (pool.begin task).2 := by
  have sweeping : Filed ((requestOf (pool.sweep 0)).toList ++ others) pool := by
    rw [sweep]
    split
    · exact filed
    · exact filed
  unfold begin
  split
  · exact ensureGateway_filed _ _ filed
  · exact ensureGateway_filed _ _ filed
  · exact ensureGateway_filed _ _ filed
  · exact ensureGateway_filed _ _ filed
  · exact sweeping
  · exact sweeping
  · exact ensureGateway_filed _ _ filed

private theorem proceed_filed {call : PoolCall}
    (filed : Filed ((requestOf call).toList ++ others) pool) :
    Filed ((requestOf (pool.proceed workerPoolSize call).1).toList ++ others)
      (pool.proceed workerPoolSize call).2 := by
  unfold proceed
  split
  · exact filed.enter.of_still (still_scaleUp _ _ _)
  · exact (filed.of_still (still_pushWorker _ _ pool)).of_still
      (still_scaleUp _ _ _)
  · exact (filed.of_still (still_closeWorker _ pool)).of_still
      (still_scaleDown _ _ _)
  · exact filed
  · exact filed
  · exact filed
  · exact filed
  · exact filed.of_still (still_scaleUp _ _ pool)
  · exact filed
  · rw [sweep]
    split
    · exact filed
    · exact filed
  · exact filed

theorem filed_step {label : Pool.Label}
    (filed : Filed (requests before) before)
    (taken : Pool.step workerPoolSize label before = some after) :
    Filed (requests after) after := by
  rcases step_cases taken with
    ⟨task, rfl, rfl⟩ | ⟨index, call, rfl, found, rfl⟩
  · have asked := filterMap_append_perm requestOf before.calls
      (before.begin task).1
    exact ((begin_filed task filed).perm asked.symm).with_calls _
  · have asked := filterMap_set_perm requestOf found
      (before.proceed workerPoolSize call).1
    have moved := @proceed_filed _ before workerPoolSize call
      (filed.perm (filterMap_perm requestOf found))
    exact (moved.perm asked.symm).with_calls _

theorem filed_create : Filed (requests Pool.create) Pool.create :=
  ⟨nofun, nofun, nofun, .nil⟩

end PaymentQueue.Filing
