import PaymentQueue.Safety.Listing

/-!
# More dead letters than a page shows

For every number of payments there is a run that dead-letters them one after
the other.  When there are more than the page has positions and all entries
wait, the listing without a filter leaves some of them out.
-/

namespace PaymentQueue.Listing

open Await Sorting QueueManager PaymentService QueuesController Routing

variable {config : AppConfig} {pid : Nat} {world : World}
  {arrivals : List Arrival} {id : PaymentId}

/-- A program whose commands all succeed while nothing else happens. -/
def Solo {α : Type} (config : AppConfig) (pid : Nat)
    (post : World → List Arrival → Prop) :
    Program signature α → World → List Arrival → Prop
  | .done _, world, arrivals => post world arrivals
  | .await command resume, world, arrivals =>
      ∃ outcome after, intrudes command = false ∧
        exec config.tokenWaitMs pid command .succeed world =
          some (outcome, after) ∧
        Solo config pid post (resume world.now outcome) after
          (arrivals ++ (arrivalOf .succeed world command).toList)

/-- The runs in which no payment job gets into the dead letter queue. -/
abbrev Runs (start watched : Watched config) : Prop :=
  Reaches watch (fun watched label => apart watched label = true) start watched

private theorem runs_solo {post : World → List Arrival → Prop} {task : Task}
    {program : Program signature (Except Thrown Output)}
    {start : Watched config} {threads : List (PaymentThread config)}
    (reached : Runs start (⟨world, threads⟩, arrivals))
    (placed : threads[pid]? = some (.resume task program))
    (solo : Solo config pid post program world arrivals) :
    ∃ watched, Runs start watched ∧ post watched.1.world watched.2 := by
  induction program generalizing world threads arrivals with
  | done value => exact ⟨_, reached, solo⟩
  | await command resume induction =>
      obtain ⟨outcome, after, separate, executed, rest⟩ := solo
      have suspended : pending (⟨world, threads⟩ : PaymentConfig config) pid =
          some command := pending_eq_of_running placed
      have moved : watch (.run pid .succeed) (⟨world, threads⟩, arrivals) =
          some (⟨after, threads.set pid
            (.resume task (resume world.now outcome))⟩,
            arrivals ++ (arrivalOf .succeed world command).toList) := by
        refine observed_eq_some.mpr ⟨?_, ?_⟩
        · have placed : threads[pid]? =
              some (.running task (.await command resume)) := placed
          simp only [System.step, placed, executed]
        · simp [observe, arrival, suspended]
      refine induction world.now outcome
        (reached.step ?_ moved) ?_ rest
      · simp [apart, suspended, separate]
      · have inside := (List.getElem?_eq_some_iff.mp placed).1
        simp [inside]

/-- A process that is started runs to its end. -/
theorem runs_spawn {post : World → List Arrival → Prop}
    {start watched : Watched config} (reached : Runs start watched)
    (task : Task)
    (solo : Solo config watched.1.threads.length post
      ((task.body config).start watched.1.world.now) watched.1.world
      watched.2) :
    ∃ next, Runs start next ∧ post next.1.world next.2 := by
  have moved : watch (.spawn task) watched =
      some (⟨watched.1.world, watched.1.threads ++ [.resume task
        ((task.body config).start watched.1.world.now)]⟩, watched.2) :=
    observed_eq_some.mpr ⟨rfl, by simp [observe, arrival]⟩
  have placed : (watched.1.threads ++ [Thread.resume task
      ((task.body config).start watched.1.world.now)])[
        watched.1.threads.length]? = some (.resume task
          ((task.body config).start watched.1.world.now)) := by
    simp
  exact runs_solo (reached.step rfl moved) placed solo

private theorem runs_environment {start watched : Watched config}
    (reached : Runs start watched) {event : Event} {after : World}
    (changed : environment event watched.1.world = some after) :
    Runs start (⟨after, watched.1.threads⟩, watched.2) := by
  have moved : watch (.environment event) watched =
      some (⟨after, watched.1.threads⟩, watched.2) := by
    refine observed_eq_some.mpr ⟨?_, ?_⟩
    · simp only [System.step, changed]
    · simp [observe, arrival]
  exact reached.step rfl moved

private theorem exec_claim {tokenWaitMs ttlSeconds : Nat}
    {record : IdempotencyRecord}
    (free : world.idempotency id = none) :
    exec tokenWaitMs pid (.storage (.setNxIdempotency id record ttlSeconds))
      .succeed world = some (.ok true, { world with
        idempotency := Function.update world.idempotency id
          (some ⟨.parsed record, world.now + ttlSeconds * 1000, pid⟩)
        claimant := Function.update world.claimant id (some pid) }) := by
  simp only [exec, StorageCommand.effect, free]

private theorem exec_add {tokenWaitMs : Nat} {queue : String} {data : JobData}
    {options : JobOptions} (free : world.queues queue id = none) :
    exec tokenWaitMs pid (.storage (.queueAdd queue id data options)) .succeed
      world = some (.ok (), world.setJob queue id (some ⟨data, options, 0,
        StorageCommand.initialState options, world.now, pid⟩)) := by
  simp only [exec, StorageCommand.effect, free, World.setJob]

/-- A payment with one attempt. -/
def failing (id : PaymentId) : CreatePaymentInput :=
  { submission "stripe" 0 with id, maxRetries := some 0 }

def queuedRecord (id : PaymentId) (now : Time) : PaymentRecord :=
  createPaymentRecord (newPayment (failing id)) now

def queuedJob (id : PaymentId) (now : Time) (pid : Nat) : Job :=
  ⟨.payment ⟨id, none⟩, ⟨PaymentPriority.normal.toNumeric, 0, 1, true⟩, 0,
    .prioritized, now, pid⟩

/-- Only what concerns the payment differs. -/
structure Beside (id : PaymentId) (before after : World) : Prop where
  payments : ∀ other, other ≠ id →
    after.payments other = before.payments other
  idempotency : ∀ other, other ≠ id →
    after.idempotency other = before.idempotency other
  queues : ∀ queue other, other ≠ id →
    after.queues queue other = before.queues queue other

theorem Beside.trans {first second third : World}
    (left : Beside id first second) (right : Beside id second third) :
    Beside id first third where
  payments := fun other differ =>
    (right.payments other differ).trans (left.payments other differ)
  idempotency := fun other differ =>
    (right.idempotency other differ).trans (left.idempotency other differ)
  queues := fun queue other differ =>
    (right.queues queue other differ).trans (left.queues queue other differ)

theorem beside_setJob (world : World) (queue : String)
    (replaced : Option Job) :
    Beside id world (world.setJob queue id replaced) where
  payments := fun _ _ => rfl
  idempotency := fun _ _ => rfl
  queues := fun name other differ => by
    rw [queues_setJob, if_neg fun same => differ same.2]

theorem stripe_ne_dlq : queueNameFor "stripe" ≠ dlqQueueName := by
  decide +kernel

private theorem intrudes_stripe (data : JobData) (options : JobOptions) :
    intrudes (.storage (.queueAdd (queueNameFor "stripe") id data options)) =
      false := by
  cases data with
  | payment data => exact decide_eq_false stripe_ne_dlq
  | deadLetter entry => rfl

private theorem solo_submit (unclaimed : world.idempotency id = none)
    (free : world.queues (queueNameFor "stripe") id = none) :
    Solo .default pid (fun after left => left = arrivals ∧
        Beside id world after ∧
        after.payments id = some (.parsed (queuedRecord id world.now)) ∧
        after.queues = (world.setJob (queueNameFor "stripe") id
          (some (queuedJob id world.now pid))).queues)
      (((Task.submit (failing id)).body .default).start world.now) world
      arrivals := by
  -- SET NX, RPUSH of the audit event, HSET, the event, and the queue.
  refine ⟨_, _, rfl, exec_claim unclaimed, ?_⟩
  refine ⟨_, _, rfl, rfl, ?_⟩
  refine ⟨_, _, rfl, rfl, ?_⟩
  refine ⟨_, _, rfl, rfl, ?_⟩
  refine ⟨_, _, rfl, rfl, ?_⟩
  refine ⟨_, _, intrudes_stripe _ _, exec_add free, ?_⟩
  simp only [arrivalOf, Option.toList_none, List.append_nil]
  refine ⟨rfl, ⟨?_, ?_, ?_⟩, Function.update_self _ _ _, rfl⟩
  · exact fun other differ => Function.update_of_ne differ _ _
  · exact fun other differ => Function.update_of_ne differ _ _
  · exact (beside_setJob world _ _).queues

/-- The entry of a payment whose only attempt lost the connection. -/
def lostEntry (id : PaymentId) (now : Time) : DlqEntry :=
  ⟨id, none, "retries exhausted: connection lost", now⟩

private theorem solo_handle {submittedAt : Time}
    (stored : world.payments id =
      some (.parsed (queuedRecord id submittedAt)))
    (free : world.queues dlqQueueName id = none) :
    Solo .default pid (fun after left =>
        left = arrivals ++ [⟨lostEntry id world.now, none⟩] ∧
        Beside id world after)
      (((Task.handleJobFailure ⟨id, none⟩
        (.error "connection lost")).body .default).start world.now) world
      arrivals := by
  have read : exec AppConfig.default.tokenWaitMs pid
      (.storage (.hgetPayment id)) .succeed world =
        some (.ok (some (.parsed (queuedRecord id submittedAt))), world) := by
    simp only [exec, StorageCommand.effect, stored]
  have added : ∀ entry options, arrivalOf .succeed world
      (.storage (.queueAdd dlqQueueName id (.deadLetter entry) options)) =
        some ⟨entry, none⟩ := by
    intro entry options
    simp [arrivalOf, free, Choice.isRefused]
  -- The record is read twice and saved; the key is read and saved.
  refine ⟨_, _, rfl, read, ?_⟩
  refine ⟨_, _, rfl, read, ?_⟩
  refine ⟨_, _, rfl, rfl, ?_⟩
  refine ⟨_, _, rfl, rfl, ?_⟩
  refine ⟨_, _, rfl, rfl, ?_⟩
  -- The audit event, two events, and the dead letter queue.
  refine ⟨_, _, rfl, rfl, ?_⟩
  refine ⟨_, _, rfl, rfl, ?_⟩
  refine ⟨_, _, rfl, rfl, ?_⟩
  refine ⟨_, _, rfl, rfl, ?_⟩
  refine ⟨_, _, rfl, exec_add free, ?_⟩
  refine ⟨?_, ?_, ?_, ?_⟩
  · simp only [arrivalOf, Option.toList_none, List.append_nil]
    exact congrArg (fun arrival => arrivals ++ Option.toList arrival)
      (added _ ⟨0, 0, 1, false⟩)
  · exact fun other differ => Function.update_of_ne differ _ _
  · exact fun other differ => Function.update_of_ne differ _ _
  · exact (beside_setJob world _ _).queues

/-- The id of a payment. -/
def nth (number : Nat) : PaymentId := "p" ++ number.repr

theorem nth_injective : Function.Injective nth := by
  intro first second same
  have repr : first.repr = second.repr := by simpa [nth] using same
  have digits := congrArg (fun id : String =>
    Nat.ofDigitChars 10 id.toList 0) repr
  simpa using digits

/-- What a run that has dead-lettered the first `count` payments has left. -/
structure Filled (count : Nat) (watched : Watched .default) : Prop where
  arrived : watched.2.map (fun arrival => arrival.entry.paymentId) =
    (List.range count).map nth
  unpaid : ∀ number, count ≤ number →
    watched.1.world.payments (nth number) = none
  unclaimed : ∀ number, count ≤ number →
    watched.1.world.idempotency (nth number) = none
  free : ∀ number, count ≤ number → ∀ queue,
    watched.1.world.queues queue (nth number) = none

private theorem environment_attempt {queue : String} {job : Job}
    (stored : world.queues queue id = some job)
    (due : job.due world.now = true) :
    ∃ middle after, environment (.activate queue id) world = some middle ∧
      environment (.fail queue id) middle = some after ∧
      after.now = world.now ∧ after.payments = world.payments ∧
      Beside id world after ∧ ∀ other, other ≠ queue →
        after.queues other = world.queues other := by
  let active : Job := { job with state := .active }
  refine ⟨world.setJob queue id (some active),
    (world.setJob queue id (some active)).setJob queue id
      (some active.failAttempt), ?_, ?_, rfl, rfl,
    (beside_setJob _ queue _).trans (beside_setJob _ queue _), ?_⟩
  · simp [environment, stored, due, active]
  · simp [environment, queues_setJob, active]
  · intro other differ
    simp [World.setJob, Function.update_of_ne differ]

/-- One more payment is submitted, fails its only attempt and is
dead-lettered. -/
theorem filled_succ {count : Nat} {start watched : Watched .default}
    (reached : Runs start watched) (filled : Filled count watched) :
    ∃ next, Runs start next ∧ Filled (count + 1) next := by
  have fresh := Nat.le_refl count
  obtain ⟨queued, reached, left, submitted, stored, queues⟩ :=
    runs_spawn reached (.submit (failing (nth count)))
      (solo_submit (filled.unclaimed count fresh)
        (filled.free count fresh (queueNameFor "stripe")))
  have waits : queued.1.world.queues (queueNameFor "stripe") (nth count) =
      some (queuedJob (nth count) watched.1.world.now
        watched.1.threads.length) := by
    rw [queues, queues_setJob, if_pos ⟨rfl, rfl⟩]
  obtain ⟨middle, after, activated, failed, -, payments, attempted, others⟩ :=
    environment_attempt waits (by simp [Job.due, Job.live, queuedJob])
  have reached := runs_environment (runs_environment reached activated) failed
  have free : after.queues dlqQueueName (nth count) = none := by
    rw [others _ stripe_ne_dlq.symm, queues, queues_setJob,
      if_neg fun same => stripe_ne_dlq same.1.symm]
    exact filled.free count fresh dlqQueueName
  have stored : after.payments (nth count) =
      some (.parsed (queuedRecord (nth count) watched.1.world.now)) := by
    rw [payments, stored]
  obtain ⟨final, reached, appended, handled⟩ :=
    runs_spawn reached (.handleJobFailure ⟨nth count, none⟩
      (.error "connection lost")) (solo_handle stored free)
  have beside := submitted.trans (attempted.trans handled)
  have differs : ∀ number, count + 1 ≤ number →
      nth number ≠ nth count := by
    intro number later same
    have := nth_injective same
    omega
  refine ⟨final, reached, ?_, ?_, ?_, ?_⟩
  · rw [appended, left, List.map_append, filled.arrived, List.range_succ,
      List.map_append]
    rfl
  · intro number later
    rw [beside.payments _ (differs number later)]
    exact filled.unpaid number (by omega)
  · intro number later
    rw [beside.idempotency _ (differs number later)]
    exact filled.unclaimed number (by omega)
  · intro number later queue
    rw [beside.queues queue _ (differs number later)]
    exact filled.free number (by omega) queue

/-- Any number of payments can be dead-lettered. -/
theorem exists_filled (count : Nat) :
    ∃ watched : Watched .default,
      Runs (initially (World.empty 0), []) watched ∧ Filled count watched := by
  induction count with
  | zero =>
      exact ⟨_, .refl, rfl, fun _ _ => rfl, fun _ _ => rfl, fun _ _ _ => rfl⟩
  | succ count induction =>
      obtain ⟨watched, reached, filled⟩ := induction
      exact filled_succ reached filled

/-- The jobs of the dead letter queue that have one of these ids. -/
def shelf (world : World) (ids : List PaymentId) : List QueuedJob :=
  ids.filterMap fun id =>
    (world.queues dlqQueueName id).map fun job => ⟨id, job.data⟩

/-- All listed jobs wait; nothing processes them. -/
def waitingOnly (jobs : List QueuedJob) : Layout
  | .waiting => jobs
  | _ => []

private theorem flatMap_waitingOnly (jobs : List QueuedJob) :
    listedStates.flatMap (waitingOnly jobs) = jobs := by
  simp [listedStates, waitingOnly]

private theorem mem_shelf {ids : List PaymentId} {job : QueuedJob} :
    job ∈ shelf world ids ↔ job.id ∈ ids ∧ ∃ stored,
      world.queues dlqQueueName job.id = some stored ∧
        stored.data = job.data := by
  rw [shelf, List.mem_filterMap]
  constructor
  · rintro ⟨id, member, found⟩
    obtain ⟨stored, held, rfl⟩ := Option.map_eq_some_iff.mp found
    exact ⟨member, stored, held, rfl⟩
  · rintro ⟨member, stored, held, same⟩
    exact ⟨job.id, member, Option.map_eq_some_iff.mpr
      ⟨stored, held, by rw [same]⟩⟩

private theorem shelf_ids_sublist (world : World) (ids : List PaymentId) :
    ((shelf world ids).map QueuedJob.id).Sublist ids := by
  induction ids with
  | nil => exact .refl _
  | cons id ids induction =>
      rw [shelf, List.filterMap_cons]
      cases world.queues dlqQueueName id with
      | none => exact induction.cons id
      | some job => exact induction.cons_cons id

private theorem lays_shelf {ids : List PaymentId} (nodup : ids.Nodup)
    (all : ∀ id job, world.queues dlqQueueName id = some job → id ∈ ids) :
    Lays world (waitingOnly (shelf world ids)) := by
  refine ⟨?_, ?_, ?_⟩ <;> rw [flatMap_waitingOnly]
  · exact nodup.sublist (shelf_ids_sublist world ids)
  · exact fun job member => (mem_shelf.mp member).2
  · exact fun id stored found _ =>
      mem_shelf.mpr ⟨all id stored found, stored, found, rfl⟩

/-- The entries of a run that dead-letters the first payments all wait. -/
theorem exists_lays (count : Nat) :
    ∃ (watched : Watched .default) (jobs : List QueuedJob),
      Runs (initially (World.empty 0), []) watched ∧ Filled count watched ∧
      jobs.length ≤ count ∧ Lays watched.1.world (waitingOnly jobs) := by
  obtain ⟨watched, reached, filled⟩ := exists_filled count
  have nodup : ((List.range count).map nth).Nodup :=
    List.nodup_range.map nth_injective
  refine ⟨watched, shelf watched.1.world ((List.range count).map nth),
    reached, filled, ?_, lays_shelf nodup ?_⟩
  · refine (List.length_filterMap_le _ _).trans ?_
    simp
  · intro id job stored
    have holds := holds_of_reaches (fun _ => rfl) reached
    obtain ⟨entry, content⟩ :=
      (undisplaced_of_apart (fun _ => rfl) reached).only id job stored
    obtain ⟨arrival, member, rfl, -⟩ := holds.arrived id job entry stored content
    have filed := holds.filed id job stored
    rw [content] at filed
    rw [← filled.arrived, filed.2.1]
    exact List.mem_map_of_mem member

/-- A listing of waiting jobs has at most 201 entries. -/
theorem length_dlq_waitingOnly {engine : Engine Thrown ListedEntry}
    {jobs : List QueuedJob} {get : PaymentId → Option PaymentRecord}
    {gatewayId : Option String} {response : DeadLetterList}
    (returned : dlq engine (waitingOnly jobs) get gatewayId = .ok response) :
    response.entries.length ≤ 201 := by
  obtain ⟨entries, -, perm, rfl⟩ := dlq_eq_ok returned
  refine (List.length_filter_le _ _).trans ?_
  rw [List.length_map, perm.length_eq, List.length_map]
  simp [page, getJobs, listedStates, waitingOnly]

/-- With more than 201 dead-lettered payments the listing without a filter is
never complete while all entries wait. -/
theorem dlq_overflow {count : Nat} (many : 201 < count) :
    ∃ (watched : Watched .default) (layout : Layout),
      Runs (initially (World.empty 0), []) watched ∧
      watched.2.length = count ∧ Lays watched.1.world layout ∧
      ∀ engine get, ¬ Answers watched.2 engine layout get none := by
  obtain ⟨watched, jobs, reached, filled, -, lays⟩ := exists_lays count
  refine ⟨watched, waitingOnly jobs, reached, ?_, lays, ?_⟩
  · simpa using congrArg List.length filled.arrived
  · rintro engine get ⟨response, returned, complete⟩
    have all : (List.range count).map nth ⊆
        response.entries.map DeadLetter.paymentId := by
      intro id routed
      rw [← filled.arrived] at routed
      refine (complete.exact id).mpr ⟨?_, .inl rfl⟩
      simpa [List.map_map, Function.comp_def] using routed
    have nodup : ((List.range count).map nth).Nodup :=
      List.nodup_range.map nth_injective
    have fits := (List.subperm_of_subset nodup all).length_le
    have page := length_dlq_waitingOnly returned
    simp only [List.length_map, List.length_range] at fits
    omega

/-- Of 202 dead-lettered payments one is not listed. -/
theorem dlq_incomplete :
    ¬ ∀ (watched : Watched .default) (layout : Layout)
      (engine : Engine Thrown ListedEntry) (gatewayId : Option String),
      Reaches watch (fun _ _ => True) (initially (World.empty 0), []) watched →
      watched.2.length = 202 → Lays watched.1.world layout →
      ∃ response, dlq engine layout watched.1.world.payment gatewayId =
          .ok response ∧
        Complete (watched.2.map Arrival.entry) watched.1.world.payment
          gatewayId response := by
  intro complete
  obtain ⟨watched, layout, reached, count, lays, incomplete⟩ :=
    dlq_overflow (show 201 < 202 by decide)
  exact incomplete (.exhaustive Thrown ListedEntry) watched.1.world.payment
    (complete watched layout _ none (reached.mono fun _ _ _ => trivial) count
      lays)

/-- Three payments are dead-lettered, and all of them are listed. -/
theorem dlq_complete_three :
    ∃ (watched : Watched .default) (layout : Layout),
      watched.2.map (fun arrival => arrival.entry.paymentId) =
        ["p0", "p1", "p2"] ∧
      ∀ engine, ∃ response,
        dlq engine layout watched.1.world.payment (some "stripe") =
          .ok response ∧
        Complete (watched.2.map Arrival.entry) watched.1.world.payment
          (some "stripe") response := by
  obtain ⟨watched, jobs, reached, filled, few, lays⟩ := exists_lays 3
  refine ⟨watched, waitingOnly jobs, filled.arrived.trans (by decide), ?_⟩
  have undisplaced := undisplaced_of_apart (fun _ => rfl) reached
  refine (dlq_complete_iff .default (World.empty 0) (fun _ => rfl) watched
    (reached.mono fun _ _ _ => trivial) _ lays watched.1.world.payment
    (some "stripe")).mpr ⟨?_, ?_, ?_⟩
  · intro state job later
    have short : (waitingOnly jobs state).length ≤ 3 := by
      cases state
      case waiting => exact few
      all_goals exact Nat.zero_le 3
    rw [List.drop_of_length_le (by omega)] at later
    cases later
  · exact fun arrival member _ =>
      ⟨arrival, member, rfl, undisplaced.admitted arrival member⟩
  · intro job onPage data content
    obtain ⟨stored, found, same⟩ := lays.stored job
      ((page_hidden_perm _).mem_iff.mp (List.mem_append_left _ onPage))
    obtain ⟨entry, isEntry⟩ := undisplaced.only job.id stored found
    rw [← same, isEntry] at content
    cases content

end PaymentQueue.Listing
