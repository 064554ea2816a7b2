import Mathlib.Data.List.Nodup
import Mathlib.Data.List.Perm.Basic
import PaymentQueue.Await.Calls
import PaymentQueue.Await.Transition
import PaymentQueue.Queue.Pool

/-!
# Workers without a pool

`ensureGateway` looks into the map, waits for its queue and only then enters
the runtime.  As long as no gateway is provisioned twice at once, every queue,
worker and client that is open either belongs to the runtime in the map or is
in the hands of a call that is still running.
-/

namespace PaymentQueue.Orphans

open Await Pool

/-- The worker that `scaleWorkers` has in its hands. -/
def inHand : Scaling → Option Nat
  | .starting worker => some worker
  | .stopping worker => some worker
  | .settled => none

/-- The runtime and the worker that a call has in its hands. -/
def handOf : PoolCall → Option (Nat × Nat)
  | .scaling runtime _ await _ =>
      (inHand await).map fun worker => (runtime, worker)
  | _ => none

/-- The gateway and the queue that a call is provisioning. -/
def requestOf : PoolCall → Option (String × Nat)
  | .provisioning gatewayId queue _ => some (gatewayId, queue)
  | _ => none

def hands (pool : Pool) : List (Nat × Nat) :=
  pool.calls.filterMap handOf

def requests (pool : Pool) : List (String × Nat) :=
  pool.calls.filterMap requestOf

/-- The gateway that a call asks for. -/
def requested : PoolTask → Option String
  | .ensureGateway gatewayId => some gatewayId
  | .enqueue gatewayId => some gatewayId
  | .pause gatewayId => gatewayId
  | .resume gatewayId => gatewayId
  | .setWorkerPoolSize gatewayId _ => some gatewayId

/-- A call that finds no runtime for its gateway does not find another call
provisioning it. -/
def Exclusive (pool : Pool) : Label → Prop
  | .call task => ∀ gatewayId, requested task = some gatewayId →
      pool.get gatewayId = none → ∀ queue, (gatewayId, queue) ∉ requests pool
  | .resume _ => True

/-- No call is in progress. -/
def Quiescent (pool : Pool) : Prop :=
  ∀ call ∈ pool.calls, call = .ended

/-- The map and the queues, with the requests of the calls in progress. -/
structure Charted (requests : List (String × Nat)) (pool : Pool) : Prop where
  known : ∀ (runtime : Nat) object, pool.objects[runtime]? = some object →
    pool.get object.gatewayId = some runtime
  mapped : ∀ gatewayId runtime, pool.get gatewayId = some runtime →
    ∃ object, pool.objects[runtime]? = some object ∧
      object.gatewayId = gatewayId
  queues : ∀ (queue : Nat) handle, pool.queues[queue]? = some handle →
    (handle.gatewayId, queue) ∈ requests ∨
      ∃ object ∈ pool.objects, object.gatewayId = handle.gatewayId ∧
        object.queue = queue
  absent : ∀ request ∈ requests, pool.get request.1 = none
  sole : (requests.map Prod.fst).Nodup

/-- The workers in pools and in the hands of calls. -/
def held (hands : List (Nat × Nat)) (objects : List GatewayRuntime) :
    List Nat :=
  hands.map Prod.snd ++ objects.flatMap GatewayRuntime.workers

/-- The workers, with those in the hands of the calls in progress. -/
structure Staffed (hands : List (Nat × Nat)) (pool : Pool) : Prop where
  nodup : (held hands pool.objects).Nodup
  covered : ∀ (worker : Nat) handle, pool.workers[worker]? = some handle →
    handle.workerOpen = true ∨ handle.clientOpen = true →
      worker ∈ held hands pool.objects
  staffed : ∀ object ∈ pool.objects, ∀ worker ∈ object.workers,
    pool.workers[worker]? = some ⟨object.gatewayId, true, true⟩
  awaited : ∀ hand ∈ hands, ∃ object, pool.objects[hand.1]? = some object ∧
    pool.workers[hand.2]? = some ⟨object.gatewayId, true, true⟩

section Workers

variable {hands others : List (Nat × Nat)} {pool : Pool}
  {runtime target worker : Nat} {object changed : GatewayRuntime}

theorem Staffed.perm (staffed : Staffed hands pool)
    (same : hands.Perm others) : Staffed others pool := by
  have workers : (held hands pool.objects).Perm (held others pool.objects) :=
    (same.map Prod.snd).append_right _
  refine ⟨workers.nodup_iff.mp staffed.nodup, ?_, staffed.staffed, ?_⟩
  · intro worker handle found opened
    exact workers.mem_iff.mp (staffed.covered worker handle found opened)
  · intro hand member
    exact staffed.awaited hand (same.mem_iff.mpr member)

/-- The workers of one runtime, before and after a change, beside the
others. -/
theorem held_set_perm (hands : List (Nat × Nat))
    {objects : List GatewayRuntime}
    (found : objects[runtime]? = some object) (changed : GatewayRuntime) :
    ∃ rest : List Nat,
      (held hands objects).Perm (object.workers ++ rest) ∧
      (held hands (objects.set runtime changed)).Perm
        (changed.workers ++ rest) := by
  obtain ⟨inside, rfl⟩ := List.getElem?_eq_some_iff.mp found
  have before := (List.getElem_cons_eraseIdx_perm inside).symm.flatMap_right
    GatewayRuntime.workers
  have after := (List.set_perm_cons_eraseIdx inside changed).flatMap_right
    GatewayRuntime.workers
  refine ⟨hands.map Prod.snd ++
    (objects.eraseIdx runtime).flatMap GatewayRuntime.workers, ?_, ?_⟩
  · exact (before.append_left _).trans (List.perm_append_comm_assoc _ _ _)
  · exact (after.append_left _).trans (List.perm_append_comm_assoc _ _ _)

/-- Moving workers between a pool and the hands of a call. -/
theorem Staffed.restaff (staffed : Staffed hands pool)
    (found : pool.objects[runtime]? = some object)
    (gateway : changed.gatewayId = object.gatewayId)
    (moved : (held hands pool.objects).Perm
      (held others (pool.objects.set runtime changed)))
    (workers : ∀ worker ∈ changed.workers,
      pool.workers[worker]? = some ⟨object.gatewayId, true, true⟩)
    (awaited : ∀ hand ∈ others, ∃ object,
      pool.objects[hand.1]? = some object ∧
        pool.workers[hand.2]? = some ⟨object.gatewayId, true, true⟩) :
    Staffed others
      { pool with objects := pool.objects.set runtime changed } := by
  have inside := (List.getElem?_eq_some_iff.mp found).1
  refine ⟨moved.nodup_iff.mp staffed.nodup, ?_, ?_, ?_⟩
  · intro worker handle present opened
    exact moved.mem_iff.mp (staffed.covered worker handle present opened)
  · intro other member worker employed
    rcases List.mem_or_eq_of_mem_set member with before | rfl
    · exact staffed.staffed other before worker employed
    · rw [gateway]
      exact workers worker employed
  · intro hand member
    obtain ⟨other, held, present⟩ := awaited hand member
    by_cases same : runtime = hand.1
    · rw [← same, found] at held
      obtain rfl := Option.some.inj held
      refine ⟨changed, ?_, by rw [gateway]; exact present⟩
      rw [← same]
      exact List.getElem?_set_self inside
    · exact ⟨other, by rw [List.getElem?_set_ne same, held], present⟩

theorem Staffed.push (staffed : Staffed ((runtime, worker) :: hands) pool) :
    Staffed hands (pool.pushWorker runtime worker) := by
  obtain ⟨object, found, present⟩ := staffed.awaited _ List.mem_cons_self
  simp only at found present
  simp only [pushWorker, found]
  refine staffed.restaff found rfl ?_ ?_
    fun hand member => staffed.awaited hand (List.mem_cons_of_mem _ member)
  · obtain ⟨rest, before, after⟩ := held_set_perm hands found
      { object with workers := object.workers ++ [worker] }
    have joined : (worker :: object.workers).Perm
        (object.workers ++ [worker]) :=
      (List.perm_append_singleton worker object.workers).symm
    exact (before.cons worker).trans
      ((joined.append_right rest).trans after.symm)
  · intro other employed
    rcases List.mem_append.mp employed with old | new
    · exact staffed.staffed object (List.mem_of_getElem? found) other old
    · rw [List.mem_singleton.mp new]
      exact present

theorem Staffed.pop (staffed : Staffed hands pool)
    (found : pool.objects[runtime]? = some object)
    (last : object.workers.getLast? = some worker) :
    Staffed ((runtime, worker) :: hands)
      { pool with
        objects := pool.objects.set runtime
          { object with workers := object.workers.dropLast } } := by
  have split : object.workers = object.workers.dropLast ++ [worker] := by
    rw [List.dropLast_append_getLast? worker last]
  have member := List.mem_of_getElem? found
  have employed : ∀ other ∈ object.workers,
      pool.workers[other]? = some ⟨object.gatewayId, true, true⟩ :=
    staffed.staffed object member
  refine staffed.restaff found rfl ?_ ?_ ?_
  · obtain ⟨rest, before, after⟩ := held_set_perm hands found
      { object with workers := object.workers.dropLast }
    have left : object.workers.Perm
        (worker :: object.workers.dropLast) := by
      nth_rewrite 1 [split]
      exact List.perm_append_singleton worker _
    exact before.trans ((left.append_right rest).trans
      (after.symm.cons worker))
  · intro other kept
    exact employed other (List.dropLast_subset _ kept)
  · intro hand among
    rcases List.mem_cons.mp among with rfl | old
    · exact ⟨object, found, employed worker (by rw [split]; simp)⟩
    · exact staffed.awaited hand old

theorem Staffed.present (staffed : Staffed hands pool)
    (member : worker ∈ held hands pool.objects) :
    ∃ handle, pool.workers[worker]? = some handle := by
  rcases List.mem_append.mp member with carried | employed
  · obtain ⟨hand, among, rfl⟩ := List.mem_map.mp carried
    obtain ⟨object, -, present⟩ := staffed.awaited hand among
    exact ⟨_, present⟩
  · obtain ⟨object, among, employed⟩ := List.mem_flatMap.mp employed
    exact ⟨_, staffed.staffed object among worker employed⟩

/-- A new worker is not held yet. -/
theorem Staffed.start (staffed : Staffed hands pool)
    (found : pool.objects[runtime]? = some object) :
    Staffed ((runtime, pool.workers.length) :: hands)
      { pool with
        workers := pool.workers ++ [⟨object.gatewayId, true, true⟩] } := by
  have grown : ∀ {worker : Nat} {handle : WorkerHandle},
      pool.workers[worker]? = some handle →
        (pool.workers ++ [⟨object.gatewayId, true, true⟩])[worker]? =
          some handle := by
    intro worker handle present
    rw [List.getElem?_append_left (List.getElem?_eq_some_iff.mp present).1,
      present]
  refine ⟨List.nodup_cons.mpr ⟨?_, staffed.nodup⟩, ?_, ?_, ?_⟩
  · intro member
    obtain ⟨handle, present⟩ := staffed.present member
    exact Nat.lt_irrefl _ (List.getElem?_eq_some_iff.mp present).1
  · intro worker handle present opened
    by_cases old : worker < pool.workers.length
    · rw [List.getElem?_append_left old] at present
      exact List.mem_cons_of_mem _
        (staffed.covered worker handle present opened)
    · have bound := (List.getElem?_eq_some_iff.mp present).1
      rw [List.length_append, List.length_singleton] at bound
      have last : worker = pool.workers.length := by omega
      rw [last]
      exact List.mem_cons_self
  · intro other member worker employed
    exact grown (staffed.staffed other member worker employed)
  · intro hand member
    rcases List.mem_cons.mp member with rfl | old
    · refine ⟨object, found, ?_⟩
      simp
    · obtain ⟨other, held, present⟩ := staffed.awaited hand old
      exact ⟨other, held, grown present⟩

theorem Staffed.close (staffed : Staffed ((runtime, worker) :: hands) pool) :
    Staffed hands (pool.closeWorker worker) := by
  obtain ⟨object, -, present⟩ := staffed.awaited _ List.mem_cons_self
  simp only at present
  have nodup : worker ∉ held hands pool.objects ∧
      (held hands pool.objects).Nodup := List.nodup_cons.mp staffed.nodup
  simp only [closeWorker, present]
  have kept : ∀ other ∈ held hands pool.objects, ∀ handle,
      pool.workers[other]? = some handle →
        (pool.workers.set worker ⟨object.gatewayId, false, false⟩)[other]? =
          some handle := by
    intro other member handle found
    have distinct : worker ≠ other := by
      rintro rfl
      exact nodup.1 member
    rw [List.getElem?_set_ne distinct, found]
  refine ⟨nodup.2, ?_, ?_, ?_⟩
  · intro other handle found opened
    by_cases same : worker = other
    · subst same
      rw [List.getElem?_set_self (List.getElem?_eq_some_iff.mp present).1]
        at found
      obtain rfl := Option.some.inj found
      simp at opened
    · rw [List.getElem?_set_ne same] at found
      rcases List.mem_cons.mp (staffed.covered other handle found opened) with
        self | rest
      · exact absurd self.symm same
      · exact rest
  · intro other member employee employed
    refine kept employee ?_ _
      (staffed.staffed other member employee employed)
    exact List.mem_append_right _ (List.mem_flatMap.mpr ⟨other, member, employed⟩)
  · intro hand member
    obtain ⟨other, found, handle⟩ :=
      staffed.awaited hand (List.mem_cons_of_mem _ member)
    refine ⟨other, found, kept hand.2 ?_ _ handle⟩
    exact List.mem_append_left _ (List.mem_map_of_mem member)

/-- The hands of a call in `scaleWorkers`, beside those of the others. -/
def withHand (runtime : Nat) (await : Scaling) (hands : List (Nat × Nat)) :
    List (Nat × Nat) :=
  match inHand await with
  | some worker => (runtime, worker) :: hands
  | none => hands

theorem Staffed.scaleDown (staffed : Staffed hands pool)
    (runtime target : Nat) :
    Staffed (withHand runtime (pool.scaleDown runtime target).1 hands)
      (pool.scaleDown runtime target).2 := by
  rw [Pool.scaleDown]
  split
  case h_1 => exact staffed
  case h_2 object found =>
    split
    case isFalse => exact staffed
    case isTrue =>
      split
      case h_1 => exact staffed
      case h_2 worker last => exact staffed.pop found last

theorem Staffed.scaleUp (staffed : Staffed hands pool)
    (runtime target : Nat) :
    Staffed (withHand runtime (pool.scaleUp runtime target).1 hands)
      (pool.scaleUp runtime target).2 := by
  rw [Pool.scaleUp]
  split
  case h_1 => exact staffed
  case h_2 object found =>
    split
    case isTrue => exact staffed.start found
    case isFalse => exact staffed.scaleDown runtime target

end Workers

section Map

variable {requests others : List (String × Nat)} {pool next : Pool}
  {gatewayId : String} {queue runtime : Nat}

theorem lookup_setRuntime (gatewayId other : String) (runtime : Nat)
    (entries : List (String × Nat)) :
    (setRuntime gatewayId runtime entries).lookup other =
      if other = gatewayId then some runtime else entries.lookup other := by
  induction entries with
  | nil =>
      by_cases same : other = gatewayId
      · simp [setRuntime, same]
      · have differs : (other == gatewayId) = false := by simpa using same
        simp [setRuntime, List.lookup_cons, differs, same]
  | cons entry entries induction =>
      obtain ⟨key, value⟩ := entry
      by_cases first : key = gatewayId
      · subst first
        by_cases same : other = key
        · simp [setRuntime, same]
        · have differs : (other == key) = false := by simpa using same
          simp [setRuntime, List.lookup_cons, differs, same]
      · by_cases found : other = key
        · subst found
          simp [setRuntime, first]
        · have differs : (other == key) = false := by simpa using found
          simp [setRuntime, first, List.lookup_cons, differs, induction]

/-- What the map part looks at in a runtime. -/
def chart (object : GatewayRuntime) : String × Nat :=
  (object.gatewayId, object.queue)

theorem Charted.perm (charted : Charted requests pool)
    (same : requests.Perm others) : Charted others pool := by
  refine ⟨charted.known, charted.mapped, ?_, ?_, ?_⟩
  · intro queue handle found
    rcases charted.queues queue handle found with waiting | owned
    · exact .inl (same.mem_iff.mp waiting)
    · exact .inr owned
  · intro request member
    exact charted.absent request (same.mem_iff.mpr member)
  · exact (same.map Prod.fst).nodup_iff.mp charted.sole

/-- The map part does not look at workers. -/
theorem Charted.restaff (charted : Charted requests pool)
    (queues : next.queues = pool.queues)
    (runtimes : next.runtimes = pool.runtimes)
    (objects : next.objects.map chart = pool.objects.map chart) :
    Charted requests next := by
  have get : ∀ gatewayId, next.get gatewayId = pool.get gatewayId := by
    intro gatewayId
    rw [Pool.get, Pool.get, runtimes]
  have back : ∀ (runtime : Nat) object, next.objects[runtime]? = some object →
      ∃ old, pool.objects[runtime]? = some old ∧ chart old = chart object := by
    intro runtime object found
    have same := congrArg (fun charts => charts[runtime]?) objects
    simp only [List.getElem?_map, found, Option.map_some] at same
    exact Option.map_eq_some_iff.mp same.symm
  have forth : ∀ (runtime : Nat) object,
      pool.objects[runtime]? = some object →
      ∃ new, next.objects[runtime]? = some new ∧ chart new = chart object := by
    intro runtime object found
    have same := congrArg (fun charts => charts[runtime]?) objects
    simp only [List.getElem?_map, found, Option.map_some] at same
    exact Option.map_eq_some_iff.mp same
  refine ⟨?_, ?_, ?_, ?_, charted.sole⟩
  · intro runtime object found
    obtain ⟨old, before, same⟩ := back runtime object found
    rw [get, ← (Prod.mk.inj same).1]
    exact charted.known runtime old before
  · intro gatewayId runtime found
    rw [get] at found
    obtain ⟨object, before, named⟩ := charted.mapped gatewayId runtime found
    obtain ⟨new, after, same⟩ := forth runtime object before
    exact ⟨new, after, (Prod.mk.inj same).1.trans named⟩
  · intro queue handle found
    rw [queues] at found
    rcases charted.queues queue handle found with waiting | owned
    · exact .inl waiting
    · obtain ⟨object, member, gateway, same⟩ := owned
      obtain ⟨runtime, before⟩ := List.mem_iff_getElem?.mp member
      obtain ⟨new, after, charts⟩ := forth runtime object before
      obtain ⟨name, number⟩ := Prod.mk.inj charts
      exact .inr ⟨new, List.mem_of_getElem? after, name.trans gateway,
        number.trans same⟩
  · intro request member
    rw [get]
    exact charted.absent request member

/-- A gateway that is neither known nor requested is requested. -/
theorem Charted.request (charted : Charted requests pool)
    (missing : pool.get gatewayId = none)
    (alone : ∀ queue, (gatewayId, queue) ∉ requests) :
    Charted ((gatewayId, pool.queues.length) :: requests)
      { pool with
        queues := pool.queues ++ [⟨gatewayId, true, true⟩] } := by
  refine ⟨charted.known, charted.mapped, ?_, ?_, ?_⟩
  · intro queue handle found
    by_cases old : queue < pool.queues.length
    · rw [List.getElem?_append_left old] at found
      rcases charted.queues queue handle found with waiting | owned
      · exact .inl (List.mem_cons_of_mem _ waiting)
      · exact .inr owned
    · have bound := (List.getElem?_eq_some_iff.mp found).1
      rw [List.length_append, List.length_singleton] at bound
      have last : queue = pool.queues.length := by omega
      subst last
      rw [List.getElem?_concat_length] at found
      obtain rfl := Option.some.inj found
      exact .inl List.mem_cons_self
  · intro request member
    rcases List.mem_cons.mp member with rfl | member
    · exact missing
    · exact charted.absent request member
  · refine List.nodup_cons.mpr ⟨fun member => ?_, charted.sole⟩
    obtain ⟨⟨name, queue⟩, among, rfl⟩ := List.mem_map.mp member
    exact alone queue among

/-- The queue is ready, and the runtime takes the place of the request. -/
theorem Charted.enter (charted : Charted ((gatewayId, queue) :: requests) pool)
    (queueName : String) (workers : List Nat) :
    Charted requests
      { pool with
        objects := pool.objects ++ [⟨gatewayId, queueName, queue, workers⟩]
        runtimes :=
          setRuntime gatewayId pool.objects.length pool.runtimes } := by
  have missing : pool.get gatewayId = none :=
    charted.absent _ List.mem_cons_self
  obtain ⟨fresh, sole⟩ : gatewayId ∉ requests.map Prod.fst ∧
      (requests.map Prod.fst).Nodup := List.nodup_cons.mp charted.sole
  refine ⟨?_, ?_, ?_, ?_, sole⟩
  · intro runtime object found
    rw [Pool.get, lookup_setRuntime]
    by_cases old : runtime < pool.objects.length
    · rw [List.getElem?_append_left old] at found
      have known := charted.known runtime object found
      rw [if_neg, ← Pool.get, known]
      intro same
      rw [same, missing] at known
      cases known
    · have bound := (List.getElem?_eq_some_iff.mp found).1
      rw [List.length_append, List.length_singleton] at bound
      have last : runtime = pool.objects.length := by omega
      subst last
      rw [List.getElem?_concat_length] at found
      obtain rfl := Option.some.inj found
      simp
  · intro other runtime found
    rw [Pool.get, lookup_setRuntime] at found
    split at found
    · rename_i same
      obtain rfl := Option.some.inj found
      exact ⟨_, List.getElem?_concat_length, same.symm⟩
    · obtain ⟨object, present, named⟩ := charted.mapped other runtime found
      refine ⟨object, ?_, named⟩
      rw [List.getElem?_append_left (List.getElem?_eq_some_iff.mp present).1,
        present]
  · intro number handle found
    rcases charted.queues number handle found with waiting | owned
    · rcases List.mem_cons.mp waiting with same | waiting
      · obtain ⟨gateway, rfl⟩ := Prod.mk.inj same
        exact .inr ⟨_, List.mem_append_right _ List.mem_cons_self,
          gateway.symm, rfl⟩
      · exact .inl waiting
    · obtain ⟨object, member, matching⟩ := owned
      exact .inr ⟨object, List.mem_append_left _ member, matching⟩
  · intro request member
    rw [Pool.get, lookup_setRuntime, if_neg]
    · exact charted.absent request (List.mem_cons_of_mem _ member)
    · intro same
      exact fresh (same ▸ List.mem_map_of_mem member)

/-- A runtime enters with an empty pool. -/
theorem Staffed.enter {hands : List (Nat × Nat)} (staffed : Staffed hands pool)
    (gatewayId queueName : String) (queue : Nat)
    (runtimes : List (String × Nat)) :
    Staffed hands
      { pool with
        objects := pool.objects ++ [⟨gatewayId, queueName, queue, []⟩]
        runtimes } := by
  have same : held hands
      (pool.objects ++ [⟨gatewayId, queueName, queue, []⟩]) =
        held hands pool.objects := by
    simp [held]
  refine ⟨?_, ?_, ?_, ?_⟩
  · rw [same]
    exact staffed.nodup
  · rw [same]
    exact staffed.covered
  · intro object member worker employed
    rcases List.mem_append.mp member with old | new
    · exact staffed.staffed object old worker employed
    · rw [List.mem_singleton.mp new] at employed
      cases employed
  · intro hand member
    obtain ⟨object, found, present⟩ := staffed.awaited hand member
    refine ⟨object, ?_, present⟩
    rw [List.getElem?_append_left (List.getElem?_eq_some_iff.mp found).1, found]

end Map

section Scaling

variable {requests : List (String × Nat)} {pool : Pool}
  {runtime target worker : Nat} {object changed : GatewayRuntime}

private theorem map_chart_set {objects : List GatewayRuntime}
    (found : objects[runtime]? = some object)
    (same : chart changed = chart object) :
    (objects.set runtime changed).map chart = objects.map chart := by
  obtain ⟨inside, rfl⟩ := List.getElem?_eq_some_iff.mp found
  rw [List.map_set, same, ← List.getElem_map chart, List.set_getElem_self]
  simpa using inside

theorem Charted.pushWorker (charted : Charted requests pool)
    (runtime worker : Nat) :
    Charted requests (pool.pushWorker runtime worker) := by
  rw [Pool.pushWorker]
  split
  case h_1 => exact charted
  case h_2 object found =>
    exact charted.restaff rfl rfl (map_chart_set found rfl)

theorem Charted.closeWorker (charted : Charted requests pool) (worker : Nat) :
    Charted requests (pool.closeWorker worker) := by
  rw [Pool.closeWorker]
  split
  case h_1 => exact charted
  case h_2 => exact charted.restaff rfl rfl rfl

theorem Charted.scaleDown (charted : Charted requests pool)
    (runtime target : Nat) :
    Charted requests (pool.scaleDown runtime target).2 := by
  rw [Pool.scaleDown]
  split
  case h_1 => exact charted
  case h_2 object found =>
    split
    case isFalse => exact charted
    case isTrue =>
      split
      case h_1 => exact charted
      case h_2 => exact charted.restaff rfl rfl (map_chart_set found rfl)

theorem Charted.scaleUp (charted : Charted requests pool)
    (runtime target : Nat) :
    Charted requests (pool.scaleUp runtime target).2 := by
  rw [Pool.scaleUp]
  split
  case h_1 => exact charted
  case h_2 object found =>
    split
    case isTrue => exact charted.restaff rfl rfl rfl
    case isFalse => exact charted.scaleDown runtime target

end Scaling

/-- What the calls keep. -/
structure Tidy (pool : Pool) : Prop where
  charted : Charted (requests pool) pool
  staffed : Staffed (hands pool) pool

section Steps

variable {others : List (String × Nat)} {carried : List (Nat × Nat)}
  {pool next : Pool} {workerPoolSize index : Nat} {call : PoolCall}

theorem toList_handOf (runtime target : Nat) (await : Scaling)
    (following : Option Continuation) (carried : List (Nat × Nat)) :
    (handOf (.scaling runtime target await following)).toList ++ carried =
      withHand runtime await carried := by
  cases await with
  | starting worker => simp [handOf, inHand, withHand]
  | stopping worker => simp [handOf, inHand, withHand]
  | settled => simp [handOf, inHand, withHand]

private theorem pushWorker_calls (runtime worker : Nat) (pool : Pool) :
    (pool.pushWorker runtime worker).calls = pool.calls := by
  rw [pushWorker]
  split <;> rfl

theorem closeWorker_calls (worker : Nat) (pool : Pool) :
    (pool.closeWorker worker).calls = pool.calls := by
  rw [closeWorker]
  split <;> rfl

private theorem scaleDown_calls (runtime target : Nat) (pool : Pool) :
    (pool.scaleDown runtime target).2.calls = pool.calls := by
  rw [scaleDown]
  split
  · rfl
  · split
    · split <;> rfl
    · rfl

theorem scaleUp_calls (runtime target : Nat) (pool : Pool) :
    (pool.scaleUp runtime target).2.calls = pool.calls := by
  rw [scaleUp]
  split
  · rfl
  · split
    · rfl
    · exact scaleDown_calls runtime target pool

theorem proceed_calls (workerPoolSize : Nat) (call : PoolCall) (pool : Pool) :
    (pool.proceed workerPoolSize call).2.calls = pool.calls := by
  unfold proceed
  split
  · exact scaleUp_calls _ _ _
  · exact (scaleUp_calls _ _ _).trans (pushWorker_calls _ _ pool)
  · exact (scaleDown_calls _ _ _).trans (closeWorker_calls _ pool)
  · rfl
  · rfl
  · rfl
  · rfl
  · exact scaleUp_calls _ _ pool
  · rfl
  · rfl
  · rfl

theorem ensureGateway_calls (gatewayId : String) (following : Continuation)
    (pool : Pool) :
    (pool.ensureGateway gatewayId following).2.calls = pool.calls := by
  rw [ensureGateway]
  split <;> rfl

/-- One call goes on, whatever the others ask for. -/
theorem proceed_charted
    (charted : Charted ((requestOf call).toList ++ others) pool) :
    Charted ((requestOf (pool.proceed workerPoolSize call).1).toList ++ others)
      (pool.proceed workerPoolSize call).2 := by
  unfold proceed
  split
  · rename_i gatewayId queue following
    have entered := charted.enter (QueueManager.queueNameFor gatewayId) []
    exact entered.scaleUp _ _
  · rename_i runtime target worker following
    exact (charted.pushWorker runtime worker).scaleUp _ _
  · rename_i runtime target worker following
    exact (charted.closeWorker worker).scaleDown _ _
  · exact charted
  · exact charted
  · exact charted
  · exact charted
  · exact charted.scaleUp _ _
  · exact charted
  · rw [sweep]
    split
    · exact charted
    · exact charted
  · exact charted

/-- One call goes on, whatever the others hold. -/
theorem proceed_staffed
    (staffed : Staffed ((handOf call).toList ++ carried) pool) :
    Staffed ((handOf (pool.proceed workerPoolSize call).1).toList ++ carried)
      (pool.proceed workerPoolSize call).2 := by
  unfold proceed
  split
  · rename_i gatewayId queue following
    have empty := staffed.enter gatewayId
      (QueueManager.queueNameFor gatewayId) queue
      (setRuntime gatewayId pool.objects.length pool.runtimes)
    simp only [provision, toList_handOf]
    exact empty.scaleUp _ _
  · simp only [toList_handOf]
    exact staffed.push.scaleUp _ _
  · simp only [toList_handOf]
    exact staffed.close.scaleDown _ _
  · exact staffed
  · exact staffed
  · exact staffed
  · exact staffed
  · simp only [toList_handOf]
    exact staffed.scaleUp _ _
  · exact staffed
  · rw [sweep]
    split
    · exact staffed
    · exact staffed
  · exact staffed

/-- The list of calls is not part of the map or of the pools. -/
theorem Charted.with_calls {requests : List (String × Nat)}
    (charted : Charted requests pool) (calls : List PoolCall) :
    Charted requests { pool with calls } :=
  ⟨charted.known, charted.mapped, charted.queues, charted.absent,
    charted.sole⟩

theorem Staffed.with_calls {hands : List (Nat × Nat)}
    (staffed : Staffed hands pool) (calls : List PoolCall) :
    Staffed hands { pool with calls } :=
  ⟨staffed.nodup, staffed.covered, staffed.staffed, staffed.awaited⟩

/-- A call begins, whatever the others ask for. -/
theorem ensureGateway_charted {gatewayId : String} (following : Continuation)
    (exclusive : pool.get gatewayId = none →
      ∀ queue, (gatewayId, queue) ∉ others)
    (charted : Charted others pool) :
    Charted ((requestOf (pool.ensureGateway gatewayId following).1).toList ++
      others) (pool.ensureGateway gatewayId following).2 := by
  rw [ensureGateway]
  split
  case h_1 runtime found => exact charted
  case h_2 missing => exact charted.request missing (exclusive missing)

private theorem begin_charted {task : PoolTask}
    (charted : Charted (requests pool) pool)
    (exclusive : Exclusive pool (.call task)) :
    Charted ((requestOf (pool.begin task).1).toList ++ requests pool)
      (pool.begin task).2 := by
  have sweeping : Charted
      ((requestOf (pool.sweep 0)).toList ++ requests pool) pool := by
    rw [sweep]
    split
    · exact charted
    · exact charted
  cases task with
  | ensureGateway gatewayId =>
      exact ensureGateway_charted _ (exclusive gatewayId rfl) charted
  | enqueue gatewayId =>
      exact ensureGateway_charted _ (exclusive gatewayId rfl) charted
  | setWorkerPoolSize gatewayId size =>
      exact ensureGateway_charted _ (exclusive gatewayId rfl) charted
  | pause gatewayId =>
      cases gatewayId with
      | none => exact sweeping
      | some gatewayId =>
          exact ensureGateway_charted _ (exclusive gatewayId rfl) charted
  | resume gatewayId =>
      cases gatewayId with
      | none => exact sweeping
      | some gatewayId =>
          exact ensureGateway_charted _ (exclusive gatewayId rfl) charted

/-- A call that begins has no worker in its hands. -/
theorem ensureGateway_frame (gatewayId : String) (following : Continuation)
    (pool : Pool) :
    (pool.ensureGateway gatewayId following).2.objects = pool.objects ∧
      (pool.ensureGateway gatewayId following).2.workers = pool.workers ∧
      handOf (pool.ensureGateway gatewayId following).1 = none := by
  rw [ensureGateway]
  split <;> exact ⟨rfl, rfl, rfl⟩

theorem begin_frame (task : PoolTask) (pool : Pool) :
    (pool.begin task).2.objects = pool.objects ∧
      (pool.begin task).2.workers = pool.workers ∧
      handOf (pool.begin task).1 = none := by
  unfold begin
  split
  · exact ensureGateway_frame _ _ pool
  · exact ensureGateway_frame _ _ pool
  · exact ensureGateway_frame _ _ pool
  · exact ensureGateway_frame _ _ pool
  · rw [sweep]
    split <;> exact ⟨rfl, rfl, rfl⟩
  · rw [sweep]
    split <;> exact ⟨rfl, rfl, rfl⟩
  · exact ensureGateway_frame _ _ pool

private theorem begin_staffed {hands : List (Nat × Nat)} (task : PoolTask)
    (staffed : Staffed hands pool) : Staffed hands (pool.begin task).2 := by
  obtain ⟨objects, workers, -⟩ := begin_frame task pool
  constructor
  · rw [objects]
    exact staffed.nodup
  · rw [objects, workers]
    exact staffed.covered
  · rw [objects, workers]
    exact staffed.staffed
  · rw [objects, workers]
    exact staffed.awaited

private theorem begin_calls (task : PoolTask) (pool : Pool) :
    (pool.begin task).2.calls = pool.calls := by
  unfold begin
  split
  · exact ensureGateway_calls _ _ pool
  · exact ensureGateway_calls _ _ pool
  · exact ensureGateway_calls _ _ pool
  · exact ensureGateway_calls _ _ pool
  · rfl
  · rfl
  · exact ensureGateway_calls _ _ pool

/-- A step is a new call, or a call that goes on. -/
theorem step_cases {label : Label}
    (taken : step workerPoolSize label pool = some next) :
    (∃ task, label = .call task ∧ next = { (pool.begin task).2 with
      calls := pool.calls ++ [(pool.begin task).1] }) ∨
    (∃ index call, label = .resume index ∧
      pool.calls[index]? = some call ∧
      next = { (pool.proceed workerPoolSize call).2 with
        calls := pool.calls.set index
          (pool.proceed workerPoolSize call).1 }) := by
  cases label with
  | call task =>
      cases taken
      refine .inl ⟨task, rfl, ?_⟩
      rw [begin_calls]
  | resume index =>
      simp only [step] at taken
      split at taken
      case h_1 => cases taken
      case h_2 => cases taken
      case h_3 call _ found =>
        cases taken
        refine .inr ⟨index, call, rfl, found, ?_⟩
        rw [proceed_calls]

private theorem charted_step {label : Label}
    (charted : Charted (requests pool) pool)
    (exclusive : Exclusive pool label)
    (taken : step workerPoolSize label pool = some next) :
    Charted (requests next) next := by
  rcases step_cases taken with
    ⟨task, rfl, rfl⟩ | ⟨index, call, rfl, found, rfl⟩
  · have asked := filterMap_append_perm requestOf pool.calls
      (pool.begin task).1
    exact ((begin_charted charted exclusive).perm asked.symm).with_calls _
  · have asked := filterMap_set_perm requestOf found
      (pool.proceed workerPoolSize call).1
    have moved := @proceed_charted _ pool workerPoolSize call
      (charted.perm (filterMap_perm requestOf found))
    exact (moved.perm asked.symm).with_calls _

/-- Workers stay accounted for whoever provisions what. -/
theorem staffed_step {label : Label} (staffed : Staffed (hands pool) pool)
    (taken : step workerPoolSize label pool = some next) :
    Staffed (hands next) next := by
  rcases step_cases taken with
    ⟨task, rfl, rfl⟩ | ⟨index, call, rfl, found, rfl⟩
  · have carried := filterMap_append_perm handOf pool.calls
      (pool.begin task).1
    rw [(begin_frame task pool).2.2] at carried
    exact ((begin_staffed task staffed).perm carried.symm).with_calls _
  · have carried := filterMap_set_perm handOf found
      (pool.proceed workerPoolSize call).1
    have moved := @proceed_staffed _ pool workerPoolSize call
      (staffed.perm (filterMap_perm handOf found))
    exact (moved.perm carried.symm).with_calls _

theorem tidy_step {label : Label} (tidy : Tidy pool)
    (exclusive : Exclusive pool label)
    (taken : step workerPoolSize label pool = some next) : Tidy next :=
  ⟨charted_step tidy.charted exclusive taken,
    staffed_step tidy.staffed taken⟩

end Steps

theorem tidy_create : Tidy Pool.create := by
  refine ⟨⟨?_, ?_, ?_, ?_, .nil⟩, ⟨.nil, ?_, ?_, ?_⟩⟩
  · intro runtime object found
    cases found
  · intro gatewayId runtime found
    cases found
  · intro queue handle found
    cases found
  · intro request member
    cases member
  · intro worker handle found
    cases found
  · intro object member
    cases member
  · intro hand member
    cases member

/-- Every open queue, worker and client belongs to the runtime in the map. -/
structure Owned (pool : Pool) : Prop where
  queues : ∀ (queue : Nat) handle, pool.queues[queue]? = some handle →
    handle.queueOpen = true ∨ handle.clientOpen = true →
      ∃ runtime object, pool.get handle.gatewayId = some runtime ∧
        pool.objects[runtime]? = some object ∧ object.queue = queue
  workers : ∀ (worker : Nat) handle, pool.workers[worker]? = some handle →
    handle.workerOpen = true ∨ handle.clientOpen = true →
      ∃ runtime object, pool.get handle.gatewayId = some runtime ∧
        pool.objects[runtime]? = some object ∧ worker ∈ object.workers

/-- The workers of a gateway that are running. -/
def liveWorkers (gatewayId : String) (pool : Pool) : List Nat :=
  (List.range pool.workers.length).filter fun worker =>
    pool.workers[worker]?.any fun handle =>
      decide (handle.gatewayId = gatewayId) && handle.workerOpen

/-- Nothing is open any more. -/
structure Closed (pool : Pool) : Prop where
  queues : ∀ handle ∈ pool.queues,
    handle.queueOpen = false ∧ handle.clientOpen = false
  workers : ∀ handle ∈ pool.workers,
    handle.workerOpen = false ∧ handle.clientOpen = false

/-- States reached by going on with one call only. -/
def Alone (workerPoolSize index : Nat) : Pool → Pool → Prop :=
  Reaches (step workerPoolSize) fun _ label => label = .resume index

/-- `setWorkerPoolSize` with size zero, run to its end, leaves no worker of
the gateway running. -/
def Drains (workerPoolSize : Nat) (gatewayId : String) (pool : Pool) : Prop :=
  ∃ called, step workerPoolSize (.call (.setWorkerPoolSize gatewayId 0)) pool =
      some called ∧
    (∃ final, Alone workerPoolSize pool.calls.length called final ∧
      Quiescent final) ∧
    ∀ final, Alone workerPoolSize pool.calls.length called final →
      Quiescent final → liveWorkers gatewayId final = []

section Rest

variable {pool : Pool} {gatewayId : String} {runtime worker : Nat}
  {object : GatewayRuntime}

private theorem filterMap_quiescent {α : Type} {select : PoolCall → Option α}
    (quiescent : Quiescent pool) (idle : select .ended = none) :
    pool.calls.filterMap select = [] := by
  refine List.filterMap_eq_nil_iff.mpr fun call member => ?_
  rw [quiescent call member]
  exact idle

private theorem hands_quiescent (quiescent : Quiescent pool) : hands pool =
    [] :=
  filterMap_quiescent quiescent rfl

private theorem requests_quiescent (quiescent : Quiescent pool) :
    requests pool = [] :=
  filterMap_quiescent quiescent rfl

theorem Tidy.owned (tidy : Tidy pool) (quiescent : Quiescent pool) :
    Owned pool := by
  obtain ⟨charted, staffed⟩ := tidy
  rw [requests_quiescent quiescent] at charted
  rw [hands_quiescent quiescent] at staffed
  constructor
  · intro queue handle found _
    rcases charted.queues queue handle found with waiting | owned
    · cases waiting
    · obtain ⟨object, member, gateway, same⟩ := owned
      obtain ⟨runtime, present⟩ := List.mem_iff_getElem?.mp member
      have known := charted.known runtime object present
      rw [gateway] at known
      exact ⟨runtime, object, known, present, same⟩
  · intro worker handle found opened
    obtain ⟨object, member, employed⟩ := List.mem_flatMap.mp
      (staffed.covered worker handle found opened)
    obtain ⟨runtime, present⟩ := List.mem_iff_getElem?.mp member
    have hired := staffed.staffed object member worker employed
    rw [found] at hired
    obtain rfl := Option.some.inj hired
    exact ⟨runtime, object, charted.known runtime object present, present,
      employed⟩

private theorem mem_liveWorkers : worker ∈ liveWorkers gatewayId pool ↔
    ∃ handle, pool.workers[worker]? = some handle ∧
      handle.gatewayId = gatewayId ∧ handle.workerOpen = true := by
  simp only [liveWorkers, List.mem_filter, List.mem_range,
    Option.any_eq_true, Bool.and_eq_true, decide_eq_true_eq]
  constructor
  · rintro ⟨-, handle, found, live⟩
    exact ⟨handle, found, live⟩
  · rintro ⟨handle, found, live⟩
    exact ⟨(List.getElem?_eq_some_iff.mp found).1, handle, found, live⟩

private theorem liveWorkers_nodup (gatewayId : String) (pool : Pool) :
    (liveWorkers gatewayId pool).Nodup :=
  List.nodup_range.filter _

/-- The running workers of a gateway are those of its runtime. -/
theorem Tidy.liveWorkers_perm (tidy : Tidy pool)
    (quiescent : Quiescent pool) (known : pool.get gatewayId = some runtime)
    (present : pool.objects[runtime]? = some object) :
    (liveWorkers gatewayId pool).Perm object.workers := by
  have owned := tidy.owned quiescent
  have member := List.mem_of_getElem? present
  have named : object.gatewayId = gatewayId := by
    obtain ⟨entry, found, named⟩ := tidy.charted.mapped gatewayId runtime known
    rw [present] at found
    obtain rfl := Option.some.inj found
    exact named
  have unique : object.workers.Nodup := by
    have nodup := (List.nodup_append.mp tidy.staffed.nodup).2.1
    exact (List.nodup_flatMap.mp nodup).1 object member
  apply (List.perm_ext_iff_of_nodup (liveWorkers_nodup _ _) unique).mpr
  intro worker
  rw [mem_liveWorkers]
  constructor
  · rintro ⟨handle, found, rfl, live⟩
    obtain ⟨other, entry, same, held, employed⟩ :=
      owned.workers worker handle found (.inl live)
    rw [known] at same
    obtain rfl := Option.some.inj same
    rw [present] at held
    obtain rfl := Option.some.inj held
    exact employed
  · intro employed
    exact ⟨_, tidy.staffed.staffed object member worker employed, named, rfl⟩

theorem Tidy.liveWorkers_unknown (tidy : Tidy pool)
    (quiescent : Quiescent pool) (unknown : pool.get gatewayId = none) :
    liveWorkers gatewayId pool = [] := by
  refine List.eq_nil_iff_forall_not_mem.mpr fun worker member => ?_
  obtain ⟨handle, found, rfl, live⟩ := mem_liveWorkers.mp member
  obtain ⟨runtime, object, known, -⟩ :=
    (tidy.owned quiescent).workers worker handle found (.inl live)
  rw [unknown] at known
  cases known

theorem Tidy.getWorkerPoolSize_eq (tidy : Tidy pool)
    (quiescent : Quiescent pool) (gatewayId : String) :
    pool.getWorkerPoolSize gatewayId =
      (liveWorkers gatewayId pool).length := by
  rw [getWorkerPoolSize]
  split
  case h_1 unknown =>
    rw [tidy.liveWorkers_unknown quiescent unknown, List.length_nil]
  case h_2 runtime known =>
    obtain ⟨object, present, -⟩ := tidy.charted.mapped gatewayId runtime known
    have same := tidy.liveWorkers_perm quiescent known present
    simp only [present]
    exact same.length_eq.symm

private theorem mem_known (known : pool.get gatewayId = some runtime)
    (present : pool.objects[runtime]? = some object) :
    object ∈ pool.known := by
  obtain ⟨front, back, split, -⟩ := List.lookup_eq_some_iff.mp known
  refine List.mem_filterMap.mpr ⟨(gatewayId, runtime), ?_, present⟩
  rw [split]
  simp

/-- Whatever is owned is closed by the shutdown. -/
theorem Owned.shutdown (owned : Owned pool) :
    Closed pool.onApplicationShutdown := by
  constructor
  · intro closed member
    obtain ⟨queue, found⟩ := List.mem_iff_getElem?.mp member
    simp only [onApplicationShutdown, List.getElem?_mapIdx,
      Option.map_eq_some_iff] at found
    obtain ⟨handle, before, rfl⟩ := found
    split
    case isTrue => exact ⟨rfl, rfl⟩
    case isFalse unknown =>
      by_contra opened
      have live : handle.queueOpen = true ∨ handle.clientOpen = true := by
        rw [not_and_or, Bool.not_eq_false, Bool.not_eq_false] at opened
        exact opened
      obtain ⟨runtime, object, known, present, same⟩ :=
        owned.queues queue handle before live
      refine unknown (List.any_eq_true.mpr
        ⟨object, mem_known known present, ?_⟩)
      rw [same, beq_self_eq_true]
  · intro closed member
    obtain ⟨worker, found⟩ := List.mem_iff_getElem?.mp member
    simp only [onApplicationShutdown, List.getElem?_mapIdx,
      Option.map_eq_some_iff] at found
    obtain ⟨handle, before, rfl⟩ := found
    split
    case isTrue => exact ⟨rfl, rfl⟩
    case isFalse unknown =>
      by_contra opened
      have live : handle.workerOpen = true ∨ handle.clientOpen = true := by
        rw [not_and_or, Bool.not_eq_false, Bool.not_eq_false] at opened
        exact opened
      obtain ⟨runtime, object, known, present, employed⟩ :=
        owned.workers worker handle before live
      refine unknown (List.any_eq_true.mpr
        ⟨object, mem_known known present, ?_⟩)
      rwa [List.contains_eq_mem, decide_eq_true_eq]

end Rest

section Draining

variable {workerPoolSize index runtime target worker : Nat}
  {pool : Pool} {object : GatewayRuntime} {call : PoolCall}

private theorem alone_step (found : pool.calls[index]? = some call)
    (running : call ≠ .ended) :
    Alone workerPoolSize index pool
      { (pool.proceed workerPoolSize call).2 with
        calls := pool.calls.set index
          (pool.proceed workerPoolSize call).1 } := by
  refine Reaches.step .refl rfl ?_
  cases call with
  | ended => exact absurd rfl running
  | provisioning gatewayId queue following =>
      simp [Pool.step, found, proceed_calls]
  | scaling runtime target await following =>
      simp [Pool.step, found, proceed_calls]
  | ensured runtime following => simp [Pool.step, found, proceed_calls]
  | commanding => simp [Pool.step, found, proceed_calls]
  | sweeping position => simp [Pool.step, found, proceed_calls]

/-- The call runs to its end and leaves the pool of the gateway empty. -/
def Emptied (workerPoolSize index : Nat) (gatewayId : String) (pool : Pool) :
    Prop :=
  ∃ final runtime object, Alone workerPoolSize index pool final ∧
    final.calls = pool.calls.set index .ended ∧
    final.get gatewayId = some runtime ∧
    final.objects[runtime]? = some object ∧ object.workers = []

/-- It is enough to look at a later state of the call. -/
theorem Emptied.of_step {gatewayId : String}
    (found : pool.calls[index]? = some call) (running : call ≠ .ended)
    (emptied : Emptied workerPoolSize index gatewayId
      { (pool.proceed workerPoolSize call).2 with
        calls := pool.calls.set index
          (pool.proceed workerPoolSize call).1 }) :
    Emptied workerPoolSize index gatewayId pool := by
  obtain ⟨final, runtime, object, rest, calls, known⟩ := emptied
  refine ⟨final, runtime, object, (alone_step found running).trans rest, ?_,
    known⟩
  rw [calls, List.set_set]

private theorem getElem?_set_of_found {moved : PoolCall}
    (found : pool.calls[index]? = some call) :
    (pool.calls.set index moved)[index]? = some moved :=
  List.getElem?_set_self (List.getElem?_eq_some_iff.mp found).1

variable {gatewayId : String}

private theorem emptied_settled
    (found : pool.calls[index]? = some (.scaling runtime 0 .settled none))
    (known : pool.get gatewayId = some runtime)
    (present : pool.objects[runtime]? = some object)
    (empty : object.workers = []) :
    Emptied workerPoolSize index gatewayId pool := by
  refine .of_step found nofun ⟨_, runtime, object, .refl, ?_, known, present,
    empty⟩
  rw [List.set_set, proceed]

/-- What a round of the second loop comes to. -/
theorem scaleDown_cases (present : pool.objects[runtime]? = some object) :
    (object.workers = [] ∧ pool.scaleDown runtime 0 = (.settled, pool)) ∨
      ∃ worker, pool.scaleDown runtime 0 = (.stopping worker, { pool with
        objects := pool.objects.set runtime
          { object with workers := object.workers.dropLast } }) ∧
        object.workers ≠ [] := by
  cases last : object.workers.getLast? with
  | none =>
      have empty := List.getLast?_eq_none_iff.mp last
      exact .inl ⟨empty, by simp [scaleDown, present, empty]⟩
  | some worker =>
      have some : object.workers ≠ [] := by
        intro empty
        rw [empty] at last
        cases last
      refine .inr ⟨worker, ?_, some⟩
      simp [scaleDown, present, last, List.length_pos_iff.mpr some]

theorem closeWorker_frame (worker : Nat) (pool : Pool) :
    (pool.closeWorker worker).objects = pool.objects ∧
      (pool.closeWorker worker).runtimes = pool.runtimes := by
  rw [closeWorker]
  split <;> exact ⟨rfl, rfl⟩

/-- The second loop, from wherever it looks at the pool. -/
theorem emptied_scaleDown (count : Nat) {before : Pool}
    (inside : index < before.calls.length)
    (known : before.get gatewayId = some runtime)
    (present : before.objects[runtime]? = some object)
    (counted : object.workers.length = count) :
    Emptied workerPoolSize index gatewayId
      { (before.scaleDown runtime 0).2 with
        calls := before.calls.set index
          (.scaling runtime 0 (before.scaleDown runtime 0).1 none) } := by
  induction count generalizing before object with
  | zero =>
      have empty := List.length_eq_zero_iff.mp counted
      have settled : before.scaleDown runtime 0 = (.settled, before) := by
        simp [scaleDown, present, empty]
      rw [settled]
      exact emptied_settled (List.getElem?_set_self inside) known present empty
  | succ count induction =>
      obtain ⟨empty, -⟩ | ⟨worker, popped, -⟩ := scaleDown_cases present
      · rw [empty] at counted
        cases counted
      · rw [popped]
        refine .of_step (List.getElem?_set_self inside) nofun ?_
        rw [List.set_set]
        obtain ⟨objects, runtimes⟩ := closeWorker_frame worker
          { before with
            objects := before.objects.set runtime
              { object with workers := object.workers.dropLast }
            calls := before.calls.set index
              (.scaling runtime 0 (.stopping worker) none) }
        have rest := @induction
          { object with workers := object.workers.dropLast }
          (Pool.closeWorker worker { before with
            objects := before.objects.set runtime
              { object with workers := object.workers.dropLast }
            calls := before.calls.set index
              (.scaling runtime 0 (.stopping worker) none) })
          (by rw [closeWorker_calls]; simpa using inside)
          (by rw [Pool.get, runtimes]; exact known)
          (by
            rw [objects]
            exact List.getElem?_set_self
              (List.getElem?_eq_some_iff.mp present).1)
          (by simp [counted])
        rw [closeWorker_calls, List.set_set] at rest
        exact rest

/-- `setWorkerPoolSize` has its runtime. -/
theorem emptied_ensured
    (found : pool.calls[index]? = some (.ensured runtime (.scale 0)))
    (known : pool.get gatewayId = some runtime)
    (present : pool.objects[runtime]? = some object) :
    Emptied workerPoolSize index gatewayId pool := by
  refine .of_step found nofun ?_
  have shrinks : pool.scaleUp runtime 0 = pool.scaleDown runtime 0 := by
    simp [scaleUp, present]
  simp only [proceed, shrinks]
  exact emptied_scaleDown _ (List.getElem?_eq_some_iff.mp found).1 known
    present rfl

/-- `ensureGateway` has scaled the pool and returns. -/
theorem emptied_scaled
    (found : pool.calls[index]? =
      some (.scaling runtime target .settled (some (.scale 0))))
    (known : pool.get gatewayId = some runtime)
    (present : pool.objects[runtime]? = some object) :
    Emptied workerPoolSize index gatewayId pool := by
  refine .of_step found nofun ?_
  exact emptied_ensured (getElem?_set_of_found found) known present

/-- The first loop, from wherever it looks at the pool. -/
theorem emptied_scaleUp (count : Nat) {before : Pool}
    (inside : index < before.calls.length)
    (known : before.get gatewayId = some runtime)
    (present : before.objects[runtime]? = some object)
    (counted : object.workers.length + count = target) :
    Emptied workerPoolSize index gatewayId
      { (before.scaleUp runtime target).2 with
        calls := before.calls.set index
          (.scaling runtime target (before.scaleUp runtime target).1
            (some (.scale 0))) } := by
  induction count generalizing before object with
  | zero =>
      have settled : before.scaleUp runtime target = (.settled, before) := by
        simp [scaleUp, scaleDown, present, ← counted]
      rw [settled]
      exact emptied_scaled (List.getElem?_set_self inside) known present
  | succ count induction =>
      have grows : before.scaleUp runtime target =
          (.starting before.workers.length, { before with
            workers := before.workers ++
              [⟨object.gatewayId, true, true⟩] }) := by
        have room : object.workers.length < target := by omega
        simp [scaleUp, present, room]
      rw [grows]
      refine .of_step (List.getElem?_set_self inside) nofun ?_
      rw [List.set_set]
      have rest := @induction
        { object with
          workers := object.workers ++ [before.workers.length] }
        { before with
          workers := before.workers ++ [⟨object.gatewayId, true, true⟩]
          objects := before.objects.set runtime
            { object with
              workers := object.workers ++ [before.workers.length] }
          calls := before.calls.set index
            (.scaling runtime target (.starting before.workers.length)
              (some (.scale 0))) }
        (by simpa using inside) known
        (List.getElem?_set_self (List.getElem?_eq_some_iff.mp present).1)
        (by simp; omega)
      simp only [proceed, pushWorker, present]
      rw [List.set_set] at rest
      exact rest

private theorem emptied_provisioning {queue : Nat}
    (found : pool.calls[index]? =
      some (.provisioning gatewayId queue (.scale 0))) :
    Emptied workerPoolSize index gatewayId pool := by
  refine .of_step found nofun ?_
  have known : (setRuntime gatewayId pool.objects.length
      pool.runtimes).lookup gatewayId = some pool.objects.length := by
    simp [lookup_setRuntime]
  exact @emptied_scaleUp _ _ _ _ _ _ workerPoolSize
    { pool with
      objects := pool.objects ++ [⟨gatewayId,
        QueueManager.queueNameFor gatewayId, queue, []⟩]
      runtimes := setRuntime gatewayId pool.objects.length pool.runtimes }
    (List.getElem?_eq_some_iff.mp found).1 known
    List.getElem?_concat_length (by simp)

/-- Nothing is left to go on with. -/
theorem stuck_of_quiescent (quiescent : Quiescent pool) (index : Nat) :
    step workerPoolSize (.resume index) pool = none := by
  cases found : pool.calls[index]? with
  | none => simp [Pool.step, found]
  | some call =>
      have ended := quiescent call (List.mem_of_getElem? found)
      subst ended
      simp [Pool.step, found]

theorem Tidy.alone (tidy : Tidy pool) {final : Pool}
    (alone : Alone workerPoolSize index pool final) : Tidy final := by
  apply Reaches.invariant alone tidy
  intro before label after held same taken
  subst same
  have exclusive : Exclusive before (.resume index) := trivial
  exact tidy_step held exclusive taken

theorem Tidy.drains (tidy : Tidy pool) (quiescent : Quiescent pool)
    (workerPoolSize : Nat) (gatewayId : String) :
    Drains workerPoolSize gatewayId pool := by
  let begun := pool.begin (.setWorkerPoolSize gatewayId 0)
  let called := { begun.2 with calls := begun.2.calls ++ [begun.1] }
  have taken : step workerPoolSize
      (.call (.setWorkerPoolSize gatewayId 0)) pool = some called := rfl
  have exclusive : Exclusive pool (.call (.setWorkerPoolSize gatewayId 0)) := by
    intro other _ _ queue member
    rw [requests_quiescent quiescent] at member
    cases member
  have emptied : Emptied workerPoolSize pool.calls.length gatewayId called := by
    cases known : pool.get gatewayId with
    | some runtime =>
        obtain ⟨object, present, -⟩ :=
          tidy.charted.mapped gatewayId runtime known
        have same : called = { pool with
            calls := pool.calls ++ [.ensured runtime (.scale 0)] } := by
          simp [called, begun, begin, ensureGateway, known]
        rw [same]
        exact emptied_ensured List.getElem?_concat_length known present
    | none =>
        have same : called = { pool with
            queues := pool.queues ++ [⟨gatewayId, true, true⟩]
            calls := pool.calls ++ [.provisioning gatewayId
              pool.queues.length (.scale 0)] } := by
          simp [called, begun, begin, ensureGateway, known]
        rw [same]
        exact emptied_provisioning List.getElem?_concat_length
  obtain ⟨final, runtime, object, alone, calls, known, present, empty⟩ :=
    emptied
  have settled : Quiescent final := by
    have added : called.calls = pool.calls ++ [begun.1] := by
      simp only [called, begun, begin_calls]
    intro call member
    rw [calls, added, List.set_append_right _ _ (Nat.le_refl _), Nat.sub_self,
      List.set_cons_zero, List.mem_append, List.mem_singleton] at member
    rcases member with old | rfl
    · exact quiescent call old
    · rfl
  have kept := (tidy_step tidy exclusive taken).alone alone
  refine ⟨called, taken, ⟨final, alone, settled⟩, ?_⟩
  intro other alone' settled'
  obtain rfl : final = other := Reaches.eq_of_stuck alone alone'
    (stuck_of_quiescent settled _) (stuck_of_quiescent settled' _)
  have same := kept.liveWorkers_perm settled known present
  rw [empty] at same
  exact same.eq_nil

end Draining

/-- Between the calls of such a run every open queue, worker and client is
owned by the map; so the pool size counts the running workers, a pool can be
drained, and the shutdown closes everything. -/
theorem no_orphans (workerPoolSize : Nat) (pool : Pool)
    (reached : Reaches (step workerPoolSize) Exclusive Pool.create pool)
    (quiescent : Quiescent pool) :
    Owned pool ∧
      (∀ gatewayId, pool.getWorkerPoolSize gatewayId =
        (liveWorkers gatewayId pool).length) ∧
      (∀ gatewayId, Drains workerPoolSize gatewayId pool) ∧
      Closed pool.onApplicationShutdown := by
  have tidy : Tidy pool :=
    reached.invariant tidy_create fun _ _ _ => tidy_step
  have owned := tidy.owned quiescent
  exact ⟨owned, tidy.getWorkerPoolSize_eq quiescent,
    tidy.drains quiescent workerPoolSize, owned.shutdown⟩

/-- A call that goes on as long as it awaits something. -/
def resumed (index count : Nat) : List Label :=
  List.replicate count (.resume index)

def exclusiveCheck (pool : Pool) : Label → Bool
  | .call task => (requested task).all fun gatewayId =>
      (pool.get gatewayId).isSome ||
        !((requests pool).map Prod.fst).contains gatewayId
  | .resume _ => true

private theorem exclusive_of_check {pool : Pool} {label : Label}
    (checked : exclusiveCheck pool label = true) : Exclusive pool label := by
  cases label with
  | resume index => trivial
  | call task =>
      intro gatewayId asked missing queue member
      simp only [exclusiveCheck, asked, Option.all_some, missing,
        Option.isSome_none, Bool.false_or, Bool.not_eq_true',
        List.contains_eq_mem, decide_eq_false_iff_not] at checked
      exact checked (List.mem_map_of_mem member)

def isQuiescent (pool : Pool) : Bool :=
  pool.calls.all fun call => decide (call = .ended)

theorem quiescent_of_isQuiescent {pool : Pool}
    (checked : isQuiescent pool = true) : Quiescent pool := by
  intro call member
  simpa using List.all_eq_true.mp checked call member

/-- Two calls for different gateways, with a pool of two workers each. -/
theorem no_orphans_two_gateways :
    ∃ pool : Pool, pool.getWorkerPoolSize "stripe" = 2 ∧
      (liveWorkers "stripe" pool).length = 2 ∧ Owned pool := by
  obtain ⟨pool, reached, checked⟩ := exists_of_replay (step 2) exclusiveCheck
    ([.call (.ensureGateway "stripe"), .call (.enqueue "adyen")] ++
      resumed 0 5 ++ resumed 1 6)
    Pool.create
    (fun pool => isQuiescent pool &&
      decide (pool.getWorkerPoolSize "stripe" = 2))
    (by decide +kernel)
  rw [Bool.and_eq_true, decide_eq_true_eq] at checked
  obtain ⟨owned, counts, -, -⟩ := no_orphans 2 pool
    (reached.mono fun _ _ => exclusive_of_check)
    (quiescent_of_isQuiescent checked.1)
  exact ⟨pool, checked.2, by rw [← counts, checked.2], owned⟩

/-- Two first calls for one gateway: the queue and the worker of the first
are lost to the map. -/
theorem orphaned :
    ¬ ∀ pool : Pool,
      Reaches (step 1) (fun _ _ => True) Pool.create pool →
      Quiescent pool → Owned pool := by
  intro owned
  obtain ⟨pool, reached, checked⟩ := exists_of_replay (step 1)
    (fun _ _ => true)
    ([.call (.enqueue "stripe"), .call (.enqueue "stripe")] ++
      resumed 0 5 ++ resumed 1 5)
    Pool.create
    (fun pool => isQuiescent pool && decide
      (pool.workers = [⟨"stripe", true, true⟩, ⟨"stripe", true, true⟩] ∧
        pool.runtimes = [("stripe", 1)] ∧
        (pool.objects[1]?.map GatewayRuntime.workers) = some [1]))
    (by decide +kernel)
  rw [Bool.and_eq_true, decide_eq_true_eq] at checked
  obtain ⟨quiescent, workers, runtimes, objects⟩ := checked
  obtain ⟨runtime, object, known, present, employed⟩ :=
    (owned pool (reached.mono fun _ _ _ => trivial)
      (quiescent_of_isQuiescent quiescent)).workers 0 ⟨"stripe", true, true⟩
      (by rw [workers]; rfl) (.inl rfl)
  rw [Pool.get, runtimes] at known
  obtain rfl : 1 = runtime := Option.some.inj known
  rw [present, Option.map_some, Option.some.injEq] at objects
  rw [objects] at employed
  exact absurd employed (by decide)

end PaymentQueue.Orphans
