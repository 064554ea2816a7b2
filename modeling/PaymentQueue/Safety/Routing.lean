import PaymentQueue.Await.Upholds
import PaymentQueue.Outlines.Footprint

/-!
# What the dead letter queue holds

`routeToDlq` adds an entry under the id of its payment.  The queue keeps it for
good, unless it holds a payment job under that id: a gateway whose queue is
called `dlq` has its jobs there.
-/

namespace PaymentQueue.Routing

open Await QueueManager

variable {config : AppConfig}

/-- An entry that reached the dead letter queue, and what the queue held under
its id at that time. -/
structure Arrival where
  entry : DlqEntry
  held : Option JobData
  deriving DecidableEq

/-- No payment job took the place of the entry. -/
def Arrival.admitted (arrival : Arrival) : Bool :=
  match arrival.held with
  | some (.payment _) => false
  | _ => true

/-- The command reaches the queue, and adds an entry if it can. -/
def arrivalOf (choice : Choice) (world : World) : Command → Option Arrival
  | .storage (.queueAdd queue jobId (.deadLetter entry) _) =>
      if queue = dlqQueueName ∧ choice.isRefused = false then
        some ⟨entry, (world.queues queue jobId).map Job.data⟩
      else none
  | _ => none

def arrival (state : PaymentConfig config) :
    PaymentLabel config → Option Arrival
  | .run pid choice => (pending state pid).bind (arrivalOf choice state.world)
  | _ => none

def observe (state : PaymentConfig config) (label : PaymentLabel config)
    (arrivals : List Arrival) : List Arrival :=
  arrivals ++ (arrival state label).toList

abbrev Watched (config : AppConfig) : Type :=
  PaymentConfig config × List Arrival

def watch (label : PaymentLabel config) (watched : Watched config) :
    Option (Watched config) :=
  observed (paymentSystem config).step observe label watched

/-- A payment job, or an entry as `routeToDlq` adds it. -/
def Filed (queue : String) (jobId : PaymentId) (options : JobOptions) :
    JobData → Prop
  | .payment data => jobId = data.paymentId
  | .deadLetter entry => queue = dlqQueueName ∧ jobId = entry.paymentId ∧
      options.priority = 0 ∧ options.removeOnComplete = false

def Files : Command → Prop
  | .storage (.queueAdd queue jobId data options) =>
      Filed queue jobId options data
  | _ => True

instance : Customary Files where
  plain := by
    intro command _ adds
    cases command with
    | storage command =>
        cases command with
        | queueAdd _ _ _ _ => cases adds
        | _ => exact trivial
    | _ => exact trivial
  enqueued := fun _ named => named
  routed := fun _ => ⟨rfl, rfl, rfl, rfl⟩

private theorem upholds (config : AppConfig) :
    Upholds (paymentSystem config) (fun _ _ => True) (issued Files)
      (fun _ _ => True) (fun _ => True) where
  codes := fun state task _ _ => Issues.code config task state.world.now
    fun _ _ _ _ => ⟨trivial, trivial⟩
  executes := fun _ _ _ _ _ _ _ _ _ _ => ⟨trivial, trivial⟩
  environments := fun _ _ _ _ _ _ => trivial

/-- The queue holds the entries that were admitted, and otherwise payment
jobs. -/
structure Holds (arrivals : List Arrival) (world : World) : Prop where
  filed : ∀ id job, world.queues dlqQueueName id = some job →
    Filed dlqQueueName id job.options job.data
  arrived : ∀ id job entry, world.queues dlqQueueName id = some job →
    job.data = .deadLetter entry →
    ∃ arrival ∈ arrivals, arrival.entry = entry ∧ arrival.admitted = true
  kept : ∀ arrival ∈ arrivals, arrival.admitted = true →
    ∃ job entry, world.queues dlqQueueName arrival.entry.paymentId =
      some job ∧ job.data = .deadLetter entry

variable {arrivals : List Arrival} {before after : World}

theorem Holds.of_same (holds : Holds arrivals before)
    (same : after.queues dlqQueueName = before.queues dlqQueueName) :
    Holds arrivals after where
  filed := fun id job stored => holds.filed id job (same ▸ stored)
  arrived := fun id job entry stored =>
    holds.arrived id job entry (same ▸ stored)
  kept := fun arrival member admitted => same ▸ holds.kept arrival member admitted

theorem Holds.environment {event : Event} (holds : Holds arrivals before)
    (changed : environment event before = some after) :
    Holds arrivals after := by
  refine ⟨?_, ?_, ?_⟩
  · intro id next stored
    obtain ⟨job, earlier, data, options⟩ := environment_origin changed stored
    rw [data, options]
    exact holds.filed id job earlier
  · intro id next entry stored content
    obtain ⟨job, earlier, data, -⟩ := environment_origin changed stored
    exact holds.arrived id job entry earlier (data.symm.trans content)
  · intro arrival member admitted
    obtain ⟨job, entry, stored, content⟩ :=
      holds.kept arrival member admitted
    rcases @environment_outlasts dlqQueueName arrival.entry.paymentId _ _ _
      changed with same | ⟨job', earlier, outlasts⟩
    · exact ⟨job, entry, same.trans stored, content⟩
    · obtain rfl := Option.some.inj (stored.symm.trans earlier)
      generalize after.queues dlqQueueName arrival.entry.paymentId = left
        at outlasts
      cases outlasts with
      | kept next data options =>
          exact ⟨next, entry, rfl, data.trans content⟩
      | removed removes =>
          -- An entry is not removed when a worker completes it.
          have filed := holds.filed _ job stored
          rw [content] at filed
          rw [filed.2.2.2] at removes
          cases removes

/-- What `queueAdd` leaves in the queue, if it is free under the id. -/
theorem Holds.add {jobId : PaymentId} {added : Job}
    (holds : Holds arrivals before)
    (free : before.queues dlqQueueName jobId = none)
    (filed : Filed dlqQueueName jobId added.options added.data)
    (latest : List Arrival)
    (fresh : ∀ entry, added.data = .deadLetter entry →
      ∃ arrival ∈ latest, arrival.entry = entry ∧ arrival.admitted = true)
    (present : ∀ arrival ∈ latest, added.data = .deadLetter arrival.entry ∧
      arrival.entry.paymentId = jobId) :
    Holds (arrivals ++ latest)
      (before.setJob dlqQueueName jobId (some added)) := by
  refine ⟨?_, ?_, ?_⟩
  · intro id job stored
    rw [queues_setJob] at stored
    split at stored
    case isTrue here =>
      obtain ⟨-, rfl⟩ := here
      cases stored
      exact filed
    case isFalse => exact holds.filed id job stored
  · intro id job entry stored content
    rw [queues_setJob] at stored
    split at stored
    case isTrue here =>
      cases stored
      obtain ⟨arrival, member, same⟩ := fresh entry content
      exact ⟨arrival, List.mem_append_right _ member, same⟩
    case isFalse =>
      obtain ⟨arrival, member, same⟩ :=
        holds.arrived id job entry stored content
      exact ⟨arrival, List.mem_append_left _ member, same⟩
  · intro arrival member admitted
    rcases List.mem_append.mp member with old | new
    · obtain ⟨job, entry, stored, content⟩ := holds.kept arrival old admitted
      refine ⟨job, entry, ?_, content⟩
      rw [queues_setJob, if_neg, stored]
      rintro ⟨-, rfl⟩
      rw [free] at stored
      cases stored
    · obtain ⟨content, rfl⟩ := present arrival new
      exact ⟨added, arrival.entry, by simp [queues_setJob], content⟩

/-- An entry under an id that is taken changes nothing. -/
theorem Holds.turnedAway {entry : DlqEntry} {job : Job}
    (holds : Holds arrivals before)
    (stored : before.queues dlqQueueName entry.paymentId = some job) :
    Holds (arrivals ++ [⟨entry, some job.data⟩]) before := by
  refine ⟨holds.filed, ?_, ?_⟩
  · intro id job entry stored content
    obtain ⟨arrival, member, same⟩ := holds.arrived id job entry stored content
    exact ⟨arrival, List.mem_append_left _ member, same⟩
  · intro arrival member admitted
    rcases List.mem_append.mp member with old | new
    · exact holds.kept arrival old admitted
    · obtain rfl := List.mem_singleton.mp new
      cases content : job.data with
      | payment data => simp [Arrival.admitted, content] at admitted
      | deadLetter held => exact ⟨job, held, stored, content⟩

private theorem arrivalOf_refused {choice : Choice} {world : World}
    {command : Command} (refused : choice.isRefused = true) :
    arrivalOf choice world command = none := by
  fun_cases arrivalOf choice world command with
  | case1 queue jobId entry options took => simp [refused] at took
  | case2 | case3 => rfl

theorem Holds.queueAdd {queue : String} {jobId : PaymentId} {data : JobData}
    {options : JobOptions} {pid : Nat} {choice : Choice}
    (holds : Holds arrivals before) (filed : Filed queue jobId options data)
    (took : choice.isRefused = false) :
    Holds (arrivals ++ (arrivalOf choice before
        (.storage (.queueAdd queue jobId data options))).toList)
      ((StorageCommand.queueAdd queue jobId data options).effect pid
        before).2 := by
  by_cases here : queue = dlqQueueName
  · subst here
    cases stored : before.queues dlqQueueName jobId with
    | some job =>
        have same : ((StorageCommand.queueAdd dlqQueueName jobId data
            options).effect pid before).2 = before := by
          simp [StorageCommand.effect, stored]
        rw [same]
        cases data with
        | payment data => simpa [arrivalOf] using holds
        | deadLetter entry =>
            obtain ⟨-, rfl, -⟩ := filed
            simpa [arrivalOf, took, stored] using holds.turnedAway stored
    | none =>
        have same : ((StorageCommand.queueAdd dlqQueueName jobId data
            options).effect pid before).2 = before.setJob dlqQueueName jobId
              (some ⟨data, options, 0, StorageCommand.initialState options,
                before.now, pid⟩) := by
          simp [StorageCommand.effect, stored, World.setJob]
        rw [same]
        refine holds.add stored filed _ ?_ ?_
        · rintro entry rfl
          exact ⟨⟨entry, none⟩, by simp [arrivalOf, took, stored], rfl, rfl⟩
        · intro arrival member
          cases data with
          | payment data => simp [arrivalOf] at member
          | deadLetter entry =>
              obtain rfl : arrival = ⟨entry, none⟩ := by
                simpa [arrivalOf, took, stored] using member
              exact ⟨rfl, filed.2.1.symm⟩
  · have elsewhere : arrivalOf choice before
        (.storage (.queueAdd queue jobId data options)) = none := by
      cases data <;> simp [arrivalOf, here]
    rw [elsewhere, Option.toList_none, List.append_nil]
    apply holds.of_same
    simp only [StorageCommand.effect]
    split
    · rfl
    · exact Function.update_of_ne (Ne.symm here) _ _

theorem Holds.exec {tokenWaitMs pid : Nat} {command : Command}
    {choice : Choice} {outcome : Except Thrown command.Result}
    (holds : Holds arrivals before) (files : Files command)
    (executed : exec tokenWaitMs pid command choice before =
      some (outcome, after)) :
    Holds (arrivals ++ (arrivalOf choice before command).toList) after := by
  have beside : arrivalOf choice before command = none →
      command.part ≠ some .queues →
      Holds (arrivals ++ (arrivalOf choice before command).toList) after := by
    intro silent other
    rw [silent, Option.toList_none, List.append_nil]
    have same : after.queues = before.queues :=
      @exec_agrees _ _ _ _ _ _ .queues _ executed other
    exact holds.of_same (congrFun same dlqQueueName)
  cases command with
  | storage command =>
      cases command with
      | queueAdd queue jobId data options =>
          rcases exec_storage executed with ⟨refused, rfl, -⟩ | ⟨took, rfl, -⟩
          · rw [arrivalOf_refused refused]
            simpa using holds
          · exact holds.queueAdd files took
      | _ => exact beside rfl (by simp [Command.part, StorageCommand.part])
  | guardCall _ _ | guardRefund _ _ | emit _ =>
      exact beside rfl (by simp [Command.part])

/-- What is known in every run. -/
structure Inv (watched : Watched config) : Prop where
  upheld : Upheld (issued Files) (fun _ _ => True) (fun _ => True) watched.1
  holds : Holds watched.2 watched.1.world

theorem Inv.step {watched next : Watched config}
    {label : PaymentLabel config} (inv : Inv watched)
    (taken : watch label watched = some next) : Inv next := by
  obtain ⟨moved, same⟩ := observed_eq_some.mp taken
  refine ⟨(upholds config).step inv.upheld trivial moved, ?_⟩
  rw [same, observe]
  generalize next.1 = after at moved
  cases label with
  | spawn task =>
      cases moved
      simpa [arrival] using inv.holds
  | run pid choice =>
      obtain ⟨task, command, resume, outcome, world, found, executed, rfl⟩ :=
        System.step_run_eq_some moved
      rw [arrival, pending_eq_of_running found]
      exact inv.holds.exec (inv.upheld.permitted found) executed
  | crash pid =>
      obtain ⟨task, program, -, rfl⟩ := System.step_crash_eq_some moved
      simpa [arrival] using inv.holds
  | environment event =>
      obtain ⟨world, changed, rfl⟩ := System.step_environment_eq_some moved
      simpa [arrival] using inv.holds.environment changed

/-- In every run that starts with an empty dead letter queue, the queue holds
the entries that were admitted, and otherwise payment jobs. -/
theorem holds_of_reaches {world : World}
    (empty : ∀ id, world.queues dlqQueueName id = none)
    {admits : Watched config → PaymentLabel config → Prop}
    {watched : Watched config}
    (reached : Reaches watch admits (initially world, []) watched) :
    Holds watched.2 watched.1.world := by
  have absent : ∀ id job, world.queues dlqQueueName id ≠ some job :=
    fun id job => by simp [empty id]
  have inv : Inv watched := by
    refine reached.invariant ⟨upheld_nil trivial, ?_⟩
      fun _ _ _ inv _ taken => inv.step taken
    exact ⟨fun id job stored => (absent id job stored).elim,
      fun id job _ stored => (absent id job stored).elim, nofun⟩
  exact inv.holds

/-- The command adds a payment job to the dead letter queue. -/
def intrudes : Command → Bool
  | .storage (.queueAdd queue _ (.payment _) _) => decide (queue = dlqQueueName)
  | _ => false

/-- No gateway with jobs has a queue called `dlq`. -/
def apart (watched : Watched config) : PaymentLabel config → Bool
  | .run pid _ => !(pending watched.1 pid).any intrudes
  | _ => true

def EntriesOnly (world : World) : Prop :=
  ∀ id job, world.queues dlqQueueName id = some job →
    ∃ entry, job.data = .deadLetter entry

theorem EntriesOnly.exec {tokenWaitMs pid : Nat} {command : Command}
    {choice : Choice} {outcome : Except Thrown command.Result}
    (only : EntriesOnly before) (separate : intrudes command = false)
    (executed : exec tokenWaitMs pid command choice before =
      some (outcome, after)) : EntriesOnly after := by
  intro id job stored
  cases earlier : before.queues dlqQueueName id with
  | some old =>
      rcases exec_adds executed with
        same | ⟨queue, jobId, data, options, rfl, free, rfl⟩
      · exact only id job (same ▸ stored)
      · rw [queues_setJob, if_neg] at stored
        · exact only id job stored
        · rintro ⟨rfl, rfl⟩
          rw [earlier] at free
          cases free
  | none =>
      obtain ⟨data, options, rfl, rfl⟩ := exec_appears executed earlier stored
      cases data with
      | payment data => simp [intrudes] at separate
      | deadLetter entry => exact ⟨entry, rfl⟩

/-- What a run has that keeps payment jobs away. -/
structure Undisplaced (watched : Watched config) : Prop where
  only : EntriesOnly watched.1.world
  admitted : ∀ arrival ∈ watched.2, arrival.admitted = true

theorem EntriesOnly.admitted {choice : Choice} {command : Command}
    {arrival : Arrival} (only : EntriesOnly before)
    (arrives : arrivalOf choice before command = some arrival) :
    arrival.admitted = true := by
  revert arrives
  fun_cases arrivalOf choice before command with
  | case1 queue jobId entry options took =>
      rintro ⟨⟩
      obtain ⟨rfl, -⟩ := took
      cases stored : before.queues dlqQueueName jobId with
      | none => rfl
      | some job =>
          obtain ⟨held, content⟩ := only jobId job stored
          simp [Arrival.admitted, content]
  | case2 | case3 => exact nofun

theorem Undisplaced.step {watched next : Watched config}
    {label : PaymentLabel config} (undisplaced : Undisplaced watched)
    (separate : apart watched label = true)
    (taken : watch label watched = some next) : Undisplaced next := by
  obtain ⟨moved, same⟩ := observed_eq_some.mp taken
  have only := undisplaced.only
  refine ⟨?_, ?_⟩
  · generalize next.1 = after at moved
    cases label with
    | spawn task =>
        cases moved
        exact only
    | run pid choice =>
        obtain ⟨task, command, resume, outcome, world, found, executed, rfl⟩ :=
          System.step_run_eq_some moved
        refine only.exec ?_ executed
        simpa [apart, pending_eq_of_running found] using separate
    | crash pid =>
        obtain ⟨task, program, -, rfl⟩ := System.step_crash_eq_some moved
        exact only
    | environment event =>
        obtain ⟨world, changed, rfl⟩ := System.step_environment_eq_some moved
        intro id job stored
        obtain ⟨old, earlier, data, -⟩ := environment_origin changed stored
        rw [data]
        exact only id old earlier
  · rw [same, observe]
    intro arrival member
    rcases List.mem_append.mp member with old | new
    · exact undisplaced.admitted arrival old
    · cases label with
      | run pid choice =>
          obtain ⟨command, -, arrives⟩ :=
            Option.bind_eq_some_iff.mp (Option.mem_toList.mp new)
          exact only.admitted arrives
      | spawn _ | crash _ | environment _ => cases new

/-- In such a run the queue holds nothing but entries, and none was turned
away. -/
theorem undisplaced_of_apart {world : World}
    (empty : ∀ id, world.queues dlqQueueName id = none)
    {watched : Watched config}
    (reached : Reaches watch (fun watched label => apart watched label = true)
      (initially world, []) watched) : Undisplaced watched := by
  have start : EntriesOnly world := fun id job stored => by
    rw [empty id] at stored
    cases stored
  exact reached.invariant ⟨start, nofun⟩
    fun _ _ _ undisplaced separate taken => undisplaced.step separate taken

end PaymentQueue.Routing
