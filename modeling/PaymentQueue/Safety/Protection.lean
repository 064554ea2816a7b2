import PaymentQueue.Outlines.Strangers
import PaymentQueue.Runtime.Runs

/-!
# Protection of a payment whose job is live

Submissions, deliveries and failure handlers run in any interleaving; commands
may throw, processes may crash and keys may expire.
What keeps a second submission out is the idempotency key alone, so the
protection lasts as long as the key does: it has to outlive the submission
that took it and every live job of the payment.
-/

namespace PaymentQueue.Protection

open Await

variable {config : AppConfig}

def isPayment (job : Job) : Bool :=
  match job.data with
  | .payment _ => true
  | .deadLetter _ => false

/-- A job of the payment is waiting, delayed, active or scheduled for a
retry. -/
def LiveJob (id : PaymentId) (world : World) (job : Job) : Prop :=
  ∃ queue, world.queues queue id = some job ∧ isPayment job = true ∧
    job.live = true

def Idle (id : PaymentId) (world : World) : Prop :=
  ∀ job, ¬ LiveJob id world job

/-- Every payment job was already there. -/
def NoNewJob (id : PaymentId) (before after : World) : Prop :=
  ∀ queue job, after.queues queue id = some job → isPayment job = true →
    before.queues queue id = some job

def running (state : PaymentConfig config) (pid : Nat) : Bool :=
  state.threads[pid]?.any Thread.isRunning

/-- Nobody needs the key of the payment any more, except perhaps the process
that deletes it. -/
def Unneeded (id : PaymentId) (state : PaymentConfig config)
    (deletes : Nat → Prop) : Prop :=
  Idle id state.world ∧ ∀ owner, state.world.claimant id = some owner →
    running state owner = true → deletes owner

/-- The key does not disappear, by its deadline or by a deletion, as long as
it is needed. -/
def keyOutlives (id : PaymentId) (state : PaymentConfig config) :
    PaymentLabel config → Prop
  | .run pid _ =>
      pending state pid = some (.storage (.delIdempotency id)) →
        Unneeded id state (fun owner => owner = pid)
  | .environment (.tick elapsed) =>
      (state.world.tick elapsed).idempotency id = none →
        state.world.idempotency id ≠ none →
        Unneeded id state (fun _ => False)
  | _ => True

/-- A step of the process neither accepts the payment once more, nor adds a
job for it, nor, if it is a submission, rewrites the stored record. -/
structure Shielded (id : PaymentId) (pid : Nat)
    (state next : PaymentConfig config) : Prop where
  refused : (state.taskOf pid).map Task.paymentId = some id →
    created next pid = false
  record : (state.taskOf pid).any Task.submits = true →
    next.world.payments id = state.world.payments id
  jobs : NoNewJob id state.world next.world

/-- The process has taken the key, and the key is still there. -/
def Holder (id : PaymentId) (pid : Nat) (world : World) : Prop :=
  world.claimant id = some pid ∧ world.idempotency id ≠ none

structure Inv (id : PaymentId) (world : World) : Prop where
  keyed : world.Keyed
  held : ∀ job, LiveJob id world job → Holder id job.writer world

/-- What a step does to the others. -/
structure Stays (id : PaymentId) (pid : Nat) (task : Task)
    (before after : World) : Prop where
  claimant : before.idempotency id ≠ none →
    after.claimant id = before.claimant id
  jobs : task.submits = false ∨ ¬ Holder id pid before →
    NoNewJob id before after
  record : task.submits = true → ¬ Holder id pid before →
    after.payments id = before.payments id

/-- What the others leave to the holder of the key. -/
def Leaves (id : PaymentId) (pid : Nat) (before after : World) : Prop :=
  Holder id pid before →
    Holder id pid after ∧ (Idle id before → Idle id after)

def discipline (config : AppConfig) (id : PaymentId) :
    Discipline (paymentSystem config) where
  invariant := Inv id
  rely := fun pid _ => Leaves id pid
  guarantee := Stays id
  allowed := fun _ _ command _ world =>
    command = .storage (.delIdempotency id) → Idle id world
  post := fun pid task output world => task.paymentId = id →
    ∀ record, output = .ok (.submitted (.created record)) →
      world.claimant id = some pid
  rest := fun _ _ _ => True

section Jobs

variable {id : PaymentId} {before after : World}

theorem NoNewJob.refl (id : PaymentId) (world : World) :
    NoNewJob id world world :=
  fun _ _ stored _ => stored

theorem noNewJob_of_same
    (same : ∀ queue, after.queues queue id = before.queues queue id) :
    NoNewJob id before after := by
  intro queue job stored _
  rw [← same]
  exact stored

theorem NoNewJob.liveJob (kept : NoNewJob id before after) {job : Job}
    (live : LiveJob id after job) : LiveJob id before job := by
  obtain ⟨queue, stored, payment, alive⟩ := live
  exact ⟨queue, kept queue job stored payment, payment, alive⟩

theorem NoNewJob.idle (kept : NoNewJob id before after)
    (idle : Idle id before) : Idle id after :=
  fun job live => idle job (kept.liveJob live)

/-- Without its key, a payment has no live job. -/
theorem Inv.idle (inv : Inv id before) (free : before.idempotency id = none) :
    Idle id before :=
  fun job live => (inv.held job live).2 free

end Jobs

section Outline

variable {id : PaymentId} {pid : Nat} {task : Task} {before after : World}

/-- A step that keeps the key and adds no job. -/
theorem keeps (inv : Inv id before)
    (claimant : after.claimant id = before.claimant id)
    (key : before.idempotency id ≠ none → after.idempotency id ≠ none)
    (jobs : NoNewJob id before after) (keyed : after.Keyed)
    (record : task.submits = true → ¬ Holder id pid before →
      after.payments id = before.payments id) :
    Keeps ((discipline config id).contract pid task) before after := by
  refine ⟨⟨keyed, ?_⟩, ⟨fun _ => claimant, fun _ => jobs, record⟩⟩
  intro job live
  obtain ⟨owned, stored⟩ := inv.held job (jobs.liveJob live)
  exact ⟨claimant.trans owned, key stored⟩

theorem keeps_refl (inv : Inv id before) :
    Keeps ((discipline config id).contract pid task) before before :=
  keeps inv rfl (fun stored => stored) (.refl id before) inv.keyed
    (fun _ _ => rfl)

private theorem aloof : Aloof
    ((discipline config id).contract pid task) id where
  keyed := fun _ inv => inv.keyed
  keeps := by
    intro before after inv keyed apart
    refine keeps inv apart.claimant ?_ (noNewJob_of_same apart.jobs) keyed
      fun _ _ => apart.payment
    rw [apart.key]
    exact fun stored => stored

/-- Commands on other parts of the world. -/
theorem keeps_of_parts {command : Command}
    {outcome : Except Thrown command.Result}
    (execution : Executes ((discipline config id).contract pid task) pid
      command before outcome after)
    (payments : command.writes .payments = false)
    (idempotency : command.writes .idempotency = false)
    (queues : command.writes .queues = false) :
    after.claimant = before.claimant ∧
      after.idempotency = before.idempotency ∧
      after.queues = before.queues ∧
      Keeps ((discipline config id).contract pid task) before after := by
  have sameRecord : after.payments = before.payments :=
    executes_agrees execution payments
  have sameKey : after.idempotency = before.idempotency :=
    executes_agrees execution idempotency
  have sameJobs : after.queues = before.queues :=
    executes_agrees execution queues
  have sameClaimant : after.claimant = before.claimant := by
    obtain ⟨-, choice, -, executed⟩ := execution
    apply exec_claimant executed
    rintro id record ttlSeconds rfl
    cases idempotency
  refine ⟨sameClaimant, sameKey, sameJobs, keeps execution.invariant
    (congrFun sameClaimant id) ?_
    (noNewJob_of_same fun queue => by rw [sameJobs]) ?_ ?_⟩
  · rw [sameKey]
    exact fun stored => stored
  · intro key record found
    apply execution.invariant.keyed key record
    rwa [World.payment, ← sameRecord]
  · exact fun _ _ => congrFun sameRecord id

private theorem keeps_save (inv : Inv id before) {record : PaymentRecord}
    (same : record.id = id)
    (entitled : task.submits = false ∨ Holder id pid before) :
    Keeps ((discipline config id).contract pid task) before
      ((StorageCommand.hsetPayment id record).effect pid before).2 := by
  refine keeps inv rfl (fun stored => stored) (.refl id before)
    (keyed_effect same inv.keyed) ?_
  intro submits unheld
  rcases entitled with worker | held
  · rw [worker] at submits
    cases submits
  · exact (unheld held).elim

/-- A job that is not a payment job. -/
theorem noNewJob_queueAdd (name : String) (data : JobData)
    (options : JobOptions)
    (other : ∀ job : Job, job.data = data → isPayment job = false) :
    NoNewJob id before
      ((StorageCommand.queueAdd name id data options).effect pid
        before).2 := by
  intro queue job stored payment
  simp only [StorageCommand.effect] at stored
  split at stored
  · exact stored
  · by_cases here : queue = name
    · subst here
      simp only [Function.update_self, Option.some.injEq] at stored
      rw [other job (by rw [← stored])] at payment
      cases payment
    · simpa only [Function.update_of_ne here] using stored

private theorem keeps_worker (worker : task.submits = false) {command : Command}
    {outcome : Except Thrown command.Result}
    (issued : workerCommand id command)
    (execution : Executes ((discipline config id).contract pid task) pid
      command before outcome after) :
    Keeps ((discipline config id).contract pid task) before after := by
  have inv := execution.invariant
  cases command with
  | storage command =>
      have effective := keeps_storage execution (keeps_refl inv)
      cases command with
      | hsetPayment key record =>
          obtain ⟨rfl, same⟩ := issued
          exact effective (keeps_save inv same (.inl worker))
      | setIdempotency key record ttlSeconds =>
          cases issued
          refine effective (keeps inv rfl ?_ (.refl id before) inv.keyed
            (fun _ _ => rfl))
          simp [StorageCommand.effect]
      | queueAdd queue key data options =>
          cases data with
          | payment data => exact issued.elim
          | deadLetter entry =>
              obtain ⟨rfl, rfl, -⟩ := issued
              refine effective (keeps inv ?_ ?_ (noNewJob_queueAdd _ _ _ ?_)
                ?_ ?_)
              · simp only [StorageCommand.effect]
                split <;> rfl
              · simp only [StorageCommand.effect]
                split <;> exact fun stored => stored
              · intro job same
                simp [isPayment, same]
              · simp only [StorageCommand.effect]
                split <;> exact inv.keyed
              · intro submits
                rw [worker] at submits
                cases submits
      | setNxIdempotency _ _ _ | delIdempotency _ => exact issued.elim
      | _ => exact (keeps_of_parts execution rfl rfl rfl).2.2.2
  | guardCall _ _ | guardRefund _ _ | emit _ =>
      exact (keeps_of_parts execution rfl rfl rfl).2.2.2

/-- What a submission knows: from its claim on it is the holder, and until its
enqueue no job of the payment is live. -/
def know (id : PaymentId) (pid : Nat) : SubmitStage → World → Prop
  | .claimed, world | .saved, world => Holder id pid world ∧ Idle id world
  | .queued, world => Holder id pid world
  | _, _ => True

def ends (id : PaymentId) (pid : Nat)
    (outcome : Except Thrown SubmitPaymentResult) (world : World) : Prop :=
  ∀ record, outcome = .ok (.created record) → world.claimant id = some pid

theorem ends_error (world : World) (error : Thrown) :
    ends id pid (.error error) world := by
  intro record impossible
  cases impossible

private theorem know_stable (stage : SubmitStage) :
    Stable ((discipline config id).contract pid task)
      (know id pid stage) := by
  intro first second left _ known
  cases stage with
  | claimed | saved =>
      obtain ⟨held, idle⟩ := known
      exact ⟨(left held).1, (left held).2 idle⟩
  | queued => exact (left known).1
  | idle | stale | replaying | unqueued => exact trivial

private theorem know_of_same {stage : SubmitStage}
    (claimant : after.claimant = before.claimant)
    (key : after.idempotency = before.idempotency)
    (jobs : after.queues = before.queues) (known : know id pid stage before) :
    know id pid stage after := by
  have held : Holder id pid before → Holder id pid after := by
    rw [Holder, Holder, claimant, key]
    exact fun held => held
  have idle : Idle id before → Idle id after :=
    (noNewJob_of_same fun queue => by rw [jobs]).idle
  cases stage with
  | claimed | saved => exact ⟨held known.1, idle known.2⟩
  | queued => exact held known
  | idle | stale | replaying | unqueued => exact trivial

/-- A command on other parts of the world, at a stage it does not leave. -/
theorem moves_elsewhere {command : Command} {stage : SubmitStage}
    {result : Except Thrown command.Result → World → Prop}
    (payments : command.writes .payments = false)
    (idempotency : command.writes .idempotency = false)
    (queues : command.writes .queues = false)
    (reached : ∀ outcome after, know id pid stage after →
      result outcome after) :
    Moves ((discipline config id).contract pid task) pid command
      (know id pid stage) result := by
  intro before outcome after known execution
  obtain ⟨claimant, key, jobs, kept⟩ :=
    keeps_of_parts execution payments idempotency queues
  exact ⟨kept, reached outcome after (know_of_same claimant key jobs known)⟩

/-- A deletion of the key, in the runs where nobody needs it. -/
theorem moves_delete {stage : SubmitStage}
    {result : Except Thrown Unit → World → Prop}
    (reached : ∀ outcome after, result outcome after) :
    Moves ((discipline config id).contract pid task) pid
      (.storage (.delIdempotency id)) (know id pid stage) result := by
  intro before outcome after _ execution
  have unneeded : Idle id before := by
    obtain ⟨-, choice, allowed, -⟩ := execution
    exact allowed rfl
  have inv := execution.invariant
  refine ⟨keeps_storage execution (keeps_refl inv) ?_, reached outcome after⟩
  exact ⟨⟨inv.keyed, fun job live => (unneeded job live).elim⟩,
    ⟨fun _ => rfl, fun _ => .refl id before, fun _ _ => rfl⟩⟩

private theorem moves_claim (record : IdempotencyRecord) (ttlSeconds : Nat) :
    Moves ((discipline config id).contract pid task) pid
      (.storage (.setNxIdempotency id record ttlSeconds)) (know id pid .idle)
      (Continues (fun acquired =>
        know id pid (if acquired = true then .claimed else .idle))
        (ends id pid)) := by
  refine moves_storage (fun before inv => keeps_refl inv) ?_
    (fun _ _ _ _ _ impossible => by cases impossible)
  intro before choice _ inv _
  simp only [StorageCommand.effect]
  cases stored : before.idempotency id with
  | some key =>
      exact ⟨keeps_refl inv, trivial, fun _ _ impossible => by
        cases impossible⟩
  | none =>
      have idle := inv.idle stored
      refine ⟨⟨⟨inv.keyed, fun job live => (idle job live).elim⟩,
        ⟨fun present => (present stored).elim, fun _ => .refl id before,
          fun _ _ => rfl⟩⟩, ?_, fun _ _ impossible => by cases impossible⟩
      exact ⟨by simp [Holder], idle⟩

private theorem moves_save {record : PaymentRecord} (same : record.id = id) :
    Moves ((discipline config id).contract pid task) pid
      (.storage (.hsetPayment id record)) (know id pid .claimed)
      (Continues (fun _ => know id pid .saved) (ends id pid)) := by
  refine moves_storage (fun before inv => keeps_refl inv) ?_
    (fun _ _ _ _ _ impossible => by cases impossible)
  intro before choice known inv _
  exact ⟨keeps_save inv same (.inr known.1), known, fun _ _ impossible => by
    cases impossible⟩

private theorem moves_add (submits : task.submits = true) (name : String)
    (data : JobData) (options : JobOptions) :
    Moves ((discipline config id).contract pid task) pid
      (.storage (.queueAdd name id data options)) (know id pid .saved)
      (fun outcome => know id pid
        (if outcome.isOk = true then .queued else .unqueued)) := by
  refine moves_storage (fun before inv => keeps_refl inv) ?_
    (fun _ _ _ _ => trivial)
  intro before choice known inv _
  obtain ⟨held, idle⟩ := known
  simp only [StorageCommand.effect]
  split
  · exact ⟨keeps_refl inv, held, fun _ => trivial⟩
  · refine ⟨⟨⟨inv.keyed, ?_⟩, fun _ => rfl, ?_, fun _ _ => rfl⟩, held,
      fun _ => trivial⟩
    · rintro job ⟨queue, stored, payment, live⟩
      by_cases here : queue = name
      · subst here
        simp only [Function.update_self, Option.some.injEq] at stored
        rw [← stored]
        exact held
      · simp only [Function.update_of_ne here] at stored
        exact (idle job ⟨queue, stored, payment, live⟩).elim
    · rintro (worker | unheld)
      · rw [worker] at submits
        cases submits
      · exact (unheld held).elim

private theorem submitOutline (input : CreatePaymentInput)
    (same : input.id = id)
    (submits : task.submits = true) :
    SubmitOutline ((discipline config id).contract pid task) pid input
      (know id pid) (ends id pid) := by
  subst same
  exact {
    stable := fun stage _ => know_stable stage
    claim := fun now => moves_claim _ _
    readClaim := moves_elsewhere rfl rfl rfl fun outcome after _ =>
      SubmitOutline.continues_reads trivial trivial (ends_error after) outcome
    lookup := moves_elsewhere rfl rfl rfl fun outcome after _ =>
      SubmitOutline.continues_finds trivial trivial (ends_error after) outcome
    recover := moves_delete fun outcome after => by
      cases outcome with
      | error error => exact ends_error after error
      | ok _ => exact trivial
    replay := moves_elsewhere rfl rfl rfl fun outcome after _ =>
      SubmitOutline.continues_replays
        (fun _ _ impossible => by cases impossible) (ends_error after) outcome
    conflict := fun _ _ _ _ _ impossible => by cases impossible
    audit := fun event => moves_elsewhere rfl rfl rfl fun outcome after known => by
      cases outcome with
      | error error => exact ends_error after error
      | ok _ => exact known
    save := fun now => moves_save rfl
    emit := fun event => moves_elsewhere rfl rfl rfl fun outcome after known => by
      cases outcome with
      | error error => exact ends_error after error
      | ok _ => exact known
    ready := moves_elsewhere rfl rfl rfl fun outcome after known => by
      cases outcome with
      | error error => exact trivial
      | ok _ => exact known
    add := fun now delay => moves_add submits _ _ _
    release := moves_delete fun outcome after => by
      cases outcome with
      | error error => exact ends_error after error
      | ok _ => exact fun _ _ impossible => by cases impossible
    created := fun world now known _ _ => known.1 }

end Outline

section Environment

variable {id : PaymentId} {world after : World}

/-- BullMQ replaces a live job by a later state of it, or removes it. -/
theorem setJob_of_environment {event : Event}
    (changed : environment event world = some after) :
    (∃ elapsed, event = .tick elapsed ∧ after = world.tick elapsed) ∨
      ∃ queue jobId job next, world.queues queue jobId = some job ∧
        job.live = true ∧ after = world.setJob queue jobId next ∧
        ∀ job', next = some job' → job'.writer = job.writer ∧
          isPayment job' = isPayment job := by
  have alive : ∀ job : Job, job.state = .active → job.live = true := by
    intro job active
    simp [Job.live, active]
  cases event with
  | tick elapsed =>
      cases changed
      exact .inl ⟨elapsed, rfl, rfl⟩
  | activate queue jobId =>
      obtain ⟨job, stored, due, rfl⟩ := environment_activate_cases changed
      refine .inr ⟨queue, jobId, job, _, stored, ?_, rfl, ?_⟩
      · rw [Job.due, Bool.and_eq_true] at due
        exact due.2
      · rintro job' ⟨⟩
        exact ⟨rfl, rfl⟩
  | complete queue jobId =>
      obtain ⟨job, stored, active, rfl⟩ := environment_complete_cases changed
      refine .inr ⟨queue, jobId, job, _, stored, alive job active, rfl, ?_⟩
      intro job' kept
      rw [Job.complete_eq_some kept]
      exact ⟨rfl, rfl⟩
  | fail queue jobId =>
      obtain ⟨job, stored, active, rfl⟩ := environment_fail_cases changed
      refine .inr ⟨queue, jobId, job, _, stored, alive job active, rfl, ?_⟩
      rintro job' ⟨⟩
      exact ⟨rfl, rfl⟩

private theorem liveJob_setJob {queue : String} {jobId : PaymentId}
    {job later : Job}
    {next : Option Job} (stored : world.queues queue jobId = some job)
    (alive : job.live = true)
    (same : ∀ job', next = some job' → job'.writer = job.writer ∧
      isPayment job' = isPayment job)
    (live : LiveJob id (world.setJob queue jobId next) later) :
    ∃ earlier, LiveJob id world earlier ∧ later.writer = earlier.writer := by
  obtain ⟨name, found, payment, live⟩ := live
  by_cases here : name = queue ∧ id = jobId
  · obtain ⟨rfl, rfl⟩ := here
    simp only [World.setJob, Function.update_self] at found
    obtain ⟨writer, kind⟩ := same later found
    exact ⟨job, ⟨name, stored, kind ▸ payment, alive⟩, writer⟩
  · refine ⟨later, ⟨name, ?_, payment, live⟩, rfl⟩
    simp only [World.setJob, Function.update_apply] at found
    split at found
    case isTrue sameQueue =>
      subst sameQueue
      rwa [Function.update_of_ne fun sameId => here ⟨rfl, sameId⟩] at found
    case isFalse => exact found

/-- A step of the environment that keeps the key where it is needed. -/
theorem inv_environment {state : PaymentConfig config} {event : Event}
    (inv : Inv id state.world)
    (outlives : keyOutlives id state (.environment event))
    (changed : environment event state.world = some after) :
    Inv id after ∧ ∀ pid, running state pid = true →
      Leaves id pid state.world after := by
  rcases setJob_of_environment changed with
    ⟨elapsed, rfl, rfl⟩ | ⟨queue, jobId, job, next, stored, alive, rfl, same⟩
  · have jobs : NoNewJob id state.world (state.world.tick elapsed) :=
      noNewJob_of_same fun _ => rfl
    constructor
    · refine ⟨inv.keyed, fun job live => ?_⟩
      obtain ⟨owned, present⟩ := inv.held job (jobs.liveJob live)
      refine ⟨owned, fun lost => ?_⟩
      exact (outlives lost present).1 job (jobs.liveJob live)
    · rintro pid active ⟨owned, present⟩
      refine ⟨⟨owned, fun lost => ?_⟩, jobs.idle⟩
      exact (outlives lost present).2 pid owned active
  · have earlier := fun later live => @liveJob_setJob id state.world queue
      jobId job later next stored alive same live
    constructor
    · refine ⟨inv.keyed, fun later live => ?_⟩
      obtain ⟨before, live, writer⟩ := earlier later live
      rw [writer]
      exact inv.held before live
    · rintro pid - held
      refine ⟨held, fun idle later live => ?_⟩
      obtain ⟨before, live, -⟩ := earlier later live
      exact idle before live

end Environment

section Runs

variable {id : PaymentId} {state next : PaymentConfig config} {pid : Nat}
  {choice : Choice}

/-- The key of a running process survives the step of another one. -/
theorem key_kept (outlives : keyOutlives id state (.run pid choice))
    (taken : (paymentSystem config).step (.run pid choice) state = some next)
    {other : Nat} (held : Holder id other state.world)
    (active : running state other = true) (distinct : other ≠ pid) :
    next.world.idempotency id ≠ none := by
  obtain ⟨task, command, resume, outcome, after, found, executed, rfl⟩ :=
    System.step_run_eq_some taken
  intro lost
  have deletes := exec_idempotency_lost executed held.2 lost
  subst deletes
  exact distinct ((outlives (pending_eq_of_running found)).2 other held.1
    active)

private theorem running_of_found {task : Task}
    {program : Program signature (Except Thrown Output)}
    (found : state.threads[pid]? = some (.running task program)) :
    running state pid = true := by
  simp [running, found, Thread.isRunning]

private theorem sound (id : PaymentId) :
    (discipline config id).Sound (keyOutlives id) where
  relyRefl := fun _ _ _ held => ⟨held, fun idle => idle⟩
  relyTrans := by
    intro _ _ _ _ _ first second held
    obtain ⟨heldBetween, idle⟩ := first held
    obtain ⟨heldAfter, idle'⟩ := second heldBetween
    exact ⟨heldAfter, fun before => idle' (idle before)⟩
  spawns := by
    intro state task _ _
    by_cases same : task.paymentId = id
    · cases submits : task.submits with
      | true =>
          cases task with
          | submit input =>
              refine (submitOutline input same rfl).safe_code trivial ?_ _
              intro outcome final ended _ record created
              cases outcome with
              | ok result =>
                  cases created
                  exact ended record rfl
              | error error => cases created
          | process job | handleJobFailure jobData error => cases submits
      | false =>
          refine (safe_worker (fun _ record (inv : Inv id _) =>
            inv.keyed id record) (fun _ _ _ _ issued execution =>
              keeps_worker submits issued execution) submits same state.world
              _).mono ?_
          intro output final other _ record created
          exact (other _ created).elim
    · exact (aloof.safe_code same state.world _).mono
        fun _ _ _ ours => (same ours).elim
  permits := by
    intro state pid choice task command resume _ admitted found deletes
    subst deletes
    exact (admitted (pending_eq_of_running found)).1
  interferes := by
    intro state pid choice task program other task' program' next holds
      admitted taken found distinct active _ stays held
    have present := key_kept admitted taken held (running_of_found active)
      distinct
    have unheld : ¬ Holder id pid state.world := by
      intro held'
      exact distinct (Option.some.inj (held.1.symm.trans held'.1))
    exact ⟨⟨(stays.claimant held.2).trans held.1, present⟩,
      (stays.jobs (.inr unheld)).idle⟩
  environments := by
    intro state event after holds admitted changed
    obtain ⟨inv, leaves⟩ := inv_environment holds.invariant admitted changed
    exact ⟨inv, fun pid _ _ found => leaves pid (running_of_found found),
      fun _ _ _ _ => trivial⟩

private theorem holds_initially {world : World}
    (keyed : world.Keyed) (fresh : ∀ queue, world.queues queue id = none) :
    (discipline config id).Holds (initially world) := by
  refine Discipline.holds_nil ⟨keyed, ?_⟩ fun _ => trivial
  rintro job ⟨queue, stored, -⟩
  rw [fresh queue] at stored
  cases stored

/-- A step of a process that does not hold the key. -/
theorem shielded_of_holds (holds : (discipline config id).Holds state)
    (admitted : keyOutlives id state (.run pid choice))
    (taken : (paymentSystem config).step (.run pid choice) state = some next)
    {job : Job} (live : LiveJob id state.world job)
    (other : pid ≠ job.writer) : Shielded id pid state next := by
  have held := holds.invariant.held job live
  have unheld : ¬ Holder id pid state.world := by
    intro held'
    exact other (Option.some.inj (held'.1.symm.trans held.1))
  obtain ⟨task, program, program', found, threads, inv, stays, safe⟩ :=
    (sound id).run holds admitted taken
  have jobs : NoNewJob id state.world next.world := stays.jobs (.inr unheld)
  refine ⟨fun ours => eq_false_of_ne_true fun returned => ?_, ?_, jobs⟩
  · obtain ⟨input, record, ended⟩ := created_eq_true returned
    have same : task.paymentId = id := by
      rw [Config.taskOf_of_running found] at ours
      exact Option.some.inj ours
    rw [threads, List.getElem?_set_self
      (List.getElem?_eq_some_iff.mp found).1, Option.some.injEq] at ended
    cases program' with
    | await command resume => cases ended
    | done output =>
        obtain ⟨-, rfl⟩ := Thread.ended.inj ended
        have owned : next.world.claimant id = some pid := safe same record rfl
        rw [stays.claimant held.2, held.1] at owned
        exact other (Option.some.inj owned).symm
  · intro submits
    rw [Config.taskOf_of_running found, Option.any_some] at submits
    exact stays.record submits unheld

/-- While a job of the payment is live, no process but the one that enqueued
it accepts the payment, rewrites its record as a submission, or adds a job, as
long as the key outlives that job and the submission that took it. -/
theorem protection_lasts (config : AppConfig) (id : PaymentId) (world : World)
    (keyed : world.Keyed) (fresh : ∀ queue, world.queues queue id = none)
    (state : PaymentConfig config)
    (reached : (paymentSystem config).Reaches (keyOutlives id)
      (initially world) state)
    (job : Job) (live : LiveJob id state.world job)
    (pid : Nat) (other : pid ≠ job.writer) (choice : Choice)
    (admitted : keyOutlives id state (.run pid choice))
    (next : PaymentConfig config)
    (taken : (paymentSystem config).step (.run pid choice) state =
      some next) :
    Shielded id pid state next :=
  shielded_of_holds ((sound id).reaches (holds_initially keyed fresh) reached)
    admitted taken live other

/-- Runs in which the key is never lost at all. -/
def keepsKey (id : PaymentId) (state : PaymentConfig config) :
    PaymentLabel config → Bool
  | .run pid _ =>
      decide (pending state pid ≠ some (.storage (.delIdempotency id)))
  | .environment (.tick elapsed) =>
      ((state.world.tick elapsed).idempotency id).isSome
  | _ => true

private theorem keyOutlives_of_keepsKey {label : PaymentLabel config}
    (kept : keepsKey id state label = true) : keyOutlives id state label := by
  cases label with
  | run pid choice =>
      exact fun deletes => (of_decide_eq_true kept deletes).elim
  | environment event =>
      cases event with
      | tick elapsed =>
          intro lost
          rw [keepsKey, lost] at kept
          cases kept
      | activate queue jobId | complete queue jobId | fail queue jobId =>
          exact trivial
  | spawn task | crash pid => exact trivial

/-- The job that the first submission of payment `p1` has left in the queue of
its gateway. -/
def firstJobLive (state : PaymentConfig config) : Bool :=
  (state.world.queues "stripe" "p1").any fun job =>
    isPayment job && job.live && decide (job.writer = 0)

private theorem firstJobLive_eq_true (live : firstJobLive state = true) :
    ∃ job, LiveJob "p1" state.world job ∧ job.writer = 0 := by
  obtain ⟨job, stored, checked⟩ := (Option.any_eq_true _ _).mp live
  simp only [Bool.and_eq_true, decide_eq_true_eq] at checked
  exact ⟨job, ⟨"stripe", stored, checked.1⟩, checked.2⟩

end Runs

/-- A payment is submitted and its first attempt fails; nine minutes later, when
its job waits for the retry and another payment has been submitted, it is
submitted again for another gateway. -/
def resubmitted : List (PaymentLabel .default) :=
  [.spawn (.submit (submission "stripe" 0))] ++ runs 0 6 ++
    [.environment (.activate "stripe" "p1"),
      .spawn (.process (delivery 0))] ++ runs 1 11 ++
    [.run 1 (.guard .noToken)] ++ runs 1 6 ++
    [.environment (.fail "stripe" "p1"), .environment (.tick 540000),
      .spawn (.submit { submission "adyen" 0 with id := "p2" })] ++
    runs 2 6 ++ [.spawn (.submit (submission "adyen" 0))]

theorem protection_lasts_resubmitted :
    ∃ state next : PaymentConfig .default, firstJobLive state = true ∧
      (paymentSystem .default).step (.run 3 .succeed) state = some next ∧
      Shielded "p1" 3 state next := by
  obtain ⟨state, reached, checked⟩ := exists_of_replay
    (paymentSystem .default).step (keepsKey "p1") resubmitted
    (initially (World.empty 0))
    (fun state => firstJobLive state && keepsKey "p1" state (.run 3 .succeed) &&
      ((paymentSystem .default).step (.run 3 .succeed) state).isSome)
    (by decide +kernel)
  simp only [Bool.and_eq_true] at checked
  obtain ⟨⟨live, kept⟩, steps⟩ := checked
  obtain ⟨next, taken⟩ := Option.isSome_iff_exists.mp steps
  obtain ⟨job, liveJob, writer⟩ := firstJobLive_eq_true live
  exact ⟨state, next, live, taken, protection_lasts .default "p1"
    (World.empty 0) keyed_empty (fun _ => rfl) state
    (reached.mono fun _ _ kept => keyOutlives_of_keepsKey kept) job liveJob 3
    (by rw [writer]; exact Nat.succ_ne_zero 2) .succeed
    (keyOutlives_of_keepsKey kept) next taken⟩

/-- Runs in which nothing throws or crashes; keys may expire. -/
def expiring (id : PaymentId) (_ : PaymentConfig config) :
    PaymentLabel config → Bool
  | .spawn task => decide (task.paymentId = id)
  | .run _ choice => choice.faultless
  | .crash _ => false
  | .environment _ => true

/-- The lease of ten minutes expires long before the scheduled job is due; the
second submission claims the payment, overwrites the record and is about to
enqueue a second job. -/
def outlived : List (PaymentLabel .default) :=
  [.spawn (.submit (submission "stripe" 3600000))] ++ runs 0 6 ++
    [.environment (.tick 600001),
      .spawn (.submit (submission "adyen" 3600000))] ++ runs 1 5

theorem protection_expires :
    ¬ ∀ (state : PaymentConfig .default),
      (paymentSystem .default).Reaches
        (fun state label => expiring "p1" state label = true)
        (initially (World.empty 0)) state →
      ∀ job, LiveJob "p1" state.world job → ∀ pid, pid ≠ job.writer →
      ∀ choice next, expiring "p1" state (.run pid choice) = true →
        (paymentSystem .default).step (.run pid choice) state = some next →
        Shielded "p1" pid state next := by
  intro shielded
  obtain ⟨state, reached, checked⟩ := exists_of_replay
    (paymentSystem .default).step (expiring "p1") outlived (initially (World.empty 0))
    (fun state => firstJobLive state &&
      decide ((state.taskOf 1).map Task.paymentId = some "p1") &&
      ((paymentSystem .default).step (.run 1 .succeed) state).any
        fun next => created next 1) (by decide +kernel)
  simp only [Bool.and_eq_true, decide_eq_true_eq, Option.any_eq_true]
    at checked
  obtain ⟨⟨first, ours⟩, next, taken, accepted⟩ := checked
  obtain ⟨job, live, writer⟩ := firstJobLive_eq_true first
  have refused := (shielded state reached job live 1
    (by rw [writer]; exact Nat.one_ne_zero) .succeed next rfl taken).refused
    ours
  rw [accepted] at refused
  cases refused

end PaymentQueue.Protection
