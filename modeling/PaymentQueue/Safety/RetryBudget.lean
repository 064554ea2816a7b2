import PaymentQueue.Runtime.Attempts
import PaymentQueue.Safety.Provenance
import PaymentQueue.Safety.Solvency

/-!
# The retry budget bounds the charges

BullMQ delivers the job of a payment attempt by attempt.  Whatever throws in an
attempt, before or after the gateway was asked, and whichever keys expire: an
attempt asks the gateway once at most, and only attempts that the job has left
are delivered.
-/

namespace PaymentQueue

open Await

namespace RetryBudget

open Solvency

/-- How often a gateway was asked to charge the payment. -/
def charges (id : PaymentId) (world : World) : Nat :=
  world.gateway.countP (asks id)

variable {config : AppConfig}

section Execution

variable {permits : Command → Choice → World → Bool} {pid : Nat}
  {task : Task} {world final : World} {output : Except Thrown Output}

private theorem accounted : Accounted
    (clocked config permits) pid keyed tariff Keyed
    spent.total earned.total where
  moves := by
    rintro before after (rfl | ⟨elapsed, rfl⟩) keyed
    · exact ⟨keyed, le_refl _, le_refl _⟩
    · exact ⟨keyed, le_refl _, le_refl _⟩
  executes := fun _ _ _ _ _ keyed permitted _ executed =>
    ⟨keyed.replies executed, keyed.exec permitted executed⟩
  accounts := by
    intro command choice before outcome after _ executed
    rw [spent.total_exec executed, earned.total_exec executed]
    exact ⟨add_le_add_right (entry_le_cost executed) _,
      add_le_add_right (gain_le_entry executed) _⟩

private theorem count_spent_execution (id : PaymentId) (world : World) :
    (spent.total world).count (.execution id) = charges id world := by
  rw [count_books spent (asks id) (fun _ => false) (fun _ => false)
    (fun event => (count_gateway id "" event).1) (fun _ => by simp [spent])]
  · simp [charges]
  · rintro (⟨type, _, _, _, _, _, _⟩ | ⟨_, _, ok, _, _⟩ | _ | _)
    · cases type <;> simp [spent, announced]
    · cases ok <;> simp [spent, announced]
    · simp [spent, announced]
    · simp [spent, announced]

private theorem charges_executes (keyed : Keyed world)
    (executes : task.Executes config permits pid world output final)
    (id : PaymentId) :
    Keyed final ∧ charges id final ≤
      charges id world + (grants task).count (.execution id) := by
  obtain ⟨keyed, left, -, within⟩ :=
    (affords_code task world.now).completes accounted keyed executes
  refine ⟨keyed, ?_⟩
  have counted := Multiset.count_le_of_le (.execution id) within
  simp only [Multiset.count_add, count_spent_execution,
    count_earned_execution] at counted
  omega

end Execution

/-- The job of a payment as the queue holds it after `made` attempts. -/
def Carries (input : CreatePaymentInput) (options : JobOptions)
    (made : Nat) (world : World) : Prop :=
  ∃ job data, world.queues
    (QueueManager.queueNameFor input.gatewayId) input.id = some job ∧
    job.data = .payment data ∧ data.paymentId = input.id ∧
    job.options = options ∧ job.attemptsMade = made

section Job

variable {input : CreatePaymentInput} {options : JobOptions} {made : Nat}
  {world active final : World}

theorem Carries.setJob {job : Job} {data : PaymentJobData}
    (carried : job.data = .payment data) (same : data.paymentId = input.id) :
    Carries input job.options job.attemptsMade (world.setJob
      (QueueManager.queueNameFor input.gatewayId) input.id (some job)) :=
  ⟨job, data, by simp [World.setJob], carried, same, rfl, rfl⟩

theorem Carries.delivered {handle : JobHandle}
    (carries : Carries input options made world)
    (delivered : Delivered input world handle active) :
    handle.data.paymentId = input.id ∧ Carries input options made active ∧
      ∃ next, active = world.setJob
        (QueueManager.queueNameFor input.gatewayId) input.id next := by
  obtain ⟨job, data, stored, carried, same, rfl, rfl⟩ := carries
  obtain ⟨activated, handed⟩ := delivered
  rw [environment_activate stored activated] at handed ⊢
  simp only [World.setJob, Function.update_self, Option.bind_some,
    Job.handle?, carried, Option.some.injEq] at handed
  rw [← handed]
  exact ⟨same, @Carries.setJob input world { job with state := .active } data
    carried same, _, rfl⟩

theorem Carries.executed {permits : Command → Choice → World → Bool}
    {pid : Nat} {task : Task} {output : Except Thrown Output}
    (carries : Carries input options made world)
    (executes : task.Executes config permits pid world output final) :
    Carries input options made final := by
  obtain ⟨job, data, stored, held⟩ := carries
  refine ⟨job, data, ?_, held⟩
  refine executes.keeps ?_ (fun _ _ _ _ _ => exec_job) stored
  rintro first second (rfl | ⟨elapsed, rfl⟩) <;> exact id

theorem Carries.failed (carries : Carries input options made world)
    (taken : environment (.fail (QueueManager.queueNameFor input.gatewayId)
      input.id) world = some final) :
    Carries input options (made + 1) final ∧ ∃ next, final = world.setJob
      (QueueManager.queueNameFor input.gatewayId) input.id next := by
  obtain ⟨job, data, stored, carried, same, rfl, rfl⟩ := carries
  rw [environment_fail stored taken]
  exact ⟨@Carries.setJob input world job.failAttempt data carried same, _, rfl⟩

/-- Records are found under their id, and at most this many charges were
asked for, if the attempts made earlier count as well. -/
structure Charged (id : PaymentId) (earlier limit : Nat) (world : World) :
    Prop where
  keyed : Keyed world
  within : charges id world + earlier ≤ limit

theorem Charged.executes {permits : Command → Choice → World → Bool}
    {pid earlier limit : Nat} {task : Task} {output : Except Thrown Output}
    {id : PaymentId} (charged : Charged id earlier limit world)
    (executes : task.Executes config permits pid world output final) :
    Charged id earlier (limit + (grants task).count (.execution id)) final := by
  obtain ⟨keyed, within⟩ := charges_executes charged.keyed executes id
  have already := charged.within
  exact ⟨keyed, by omega⟩

/-- Every attempt that was made has paid for one charge; one more may have been
asked for by an attempt that returned. -/
def Spends (input : CreatePaymentInput) (options : JobOptions)
    (earlier before : Nat) : Phase → World → Prop
  | .waiting, world => ∃ made, made < options.attempts ∧
      Carries input options made world ∧
      Charged input.id earlier (before + made) world
  | .failed _, world => ∃ made, made ≤ options.attempts ∧
      Carries input options made world ∧
      Charged input.id earlier (before + made) world
  | .acknowledged _, world | .exhausted, world =>
      Charged input.id earlier (before + options.attempts) world

variable {earlier before : Nat}

theorem Spends.tick {phase : Phase}
    (spends : Spends input options earlier before phase world)
    (elapsed : Nat) :
    Spends input options earlier before phase (world.tick elapsed) := by
  cases phase with
  | waiting | failed error =>
      obtain ⟨made, left, carries, keyed, within⟩ := spends
      exact ⟨made, left, carries, keyed, within⟩
  | acknowledged result | exhausted =>
      obtain ⟨keyed, within⟩ := spends
      exact ⟨keyed, within⟩

/-- The delivery of an attempt is granted one charge. -/
theorem Spends.delivered {handle : JobHandle} {pid : Nat}
    {permits : Command → Choice → World → Bool} {output : Except Thrown Output}
    (spends : Spends input options earlier before .waiting world)
    (delivered : Delivered input world handle active)
    (executes : (Task.process handle).Executes config permits pid active output
      final) :
    ∃ made, made < options.attempts ∧ Carries input options made final ∧
      Charged input.id earlier (before + made + 1) final := by
  obtain ⟨made, left, carries, keyed, within⟩ := spends
  obtain ⟨same, carries, next, rfl⟩ := carries.delivered delivered
  have charged : Charged input.id earlier (before + made) (world.setJob
      (QueueManager.queueNameFor input.gatewayId) input.id next) :=
    ⟨keyed, within⟩
  have charged := charged.executes executes
  rw [grants, same, Multiset.count_singleton_self] at charged
  exact ⟨made, left, carries.executed executes, charged⟩

theorem spends {permits : Nat → Command → Choice → World → Bool}
    {start : World} {phase : Phase}
    (fresh : Spends input options earlier before .waiting start)
    (worked : Worked config permits input start phase world) :
    Spends input options earlier before phase world := by
  induction worked with
  | enqueued => exact fresh
  | elapsed elapsed _ induction => exact induction.tick elapsed
  | returned _ delivered executes acknowledged induction =>
      obtain ⟨made, left, -, keyed, within⟩ :=
        induction.delivered delivered executes
      obtain ⟨next, rfl⟩ := environment_complete acknowledged
      exact ⟨keyed, within.trans (Nat.add_le_add_left left before)⟩
  | thrown _ delivered executes failed induction =>
      obtain ⟨made, left, carries, keyed, within⟩ :=
        induction.delivered delivered executes
      obtain ⟨carries, next, rfl⟩ := carries.failed failed
      exact ⟨made + 1, left, carries, keyed, within⟩
  | retried _ stored unspent induction =>
      obtain ⟨made, -, carries, charged⟩ := induction
      obtain ⟨job, data, queued, -, -, rfl, rfl⟩ := id carries
      obtain rfl := Option.some.inj (stored.symm.trans queued)
      exact ⟨_, Nat.not_le.mp (of_decide_eq_false unspent), carries, charged⟩
  | handled _ _ _ _ executes induction =>
      obtain ⟨made, left, -, charged⟩ := induction
      obtain ⟨keyed, within⟩ := charged.executes executes
      rw [show grants (.handleJobFailure _ _) = 0 from rfl,
        Multiset.count_zero, Nat.add_zero] at within
      exact ⟨keyed, within.trans (Nat.add_le_add_left left before)⟩

theorem Spends.limit {phase : Phase}
    (spends : Spends input options earlier before phase world) :
    charges input.id world + earlier ≤ before + options.attempts := by
  cases phase with
  | waiting =>
      obtain ⟨made, left, -, charged⟩ := spends
      exact charged.within.trans (Nat.add_le_add_left left.le before)
  | failed error =>
      obtain ⟨made, left, -, charged⟩ := spends
      exact charged.within.trans (Nat.add_le_add_left left before)
  | acknowledged result | exhausted => exact Charged.within spends

end Job

/-- A payment job outside the failed set has an attempt left. -/
def Unspent (world : World) : Prop :=
  ∀ queue id job data, world.queues queue id = some job →
    job.data = .payment data → job.live = true →
    job.attemptsMade < job.options.attempts

variable {submitted : CreatePaymentInput → Prop} {before after : World}

/-- A job that is put in its place has an attempt left or has failed. -/
theorem Unspent.setJob (unspent : Unspent before) {queue : String}
    {id : PaymentId} {next : Option Job}
    (left : ∀ job data, next = some job → job.data = .payment data →
      job.live = true → job.attemptsMade < job.options.attempts) :
    Unspent (before.setJob queue id next) := by
  intro queue' id' job data stored carried live
  by_cases here : queue' = queue ∧ id' = id
  · obtain ⟨rfl, rfl⟩ := here
    exact left job data (by simpa [World.setJob] using stored) carried live
  · apply unspent queue' id' job data _ carried live
    rw [← stored]
    simp only [World.setJob, Function.update_apply]
    grind [Function.update_apply]

theorem Unspent.environment {event : Event} (unspent : Unspent before)
    (changed : environment event before = some after) : Unspent after := by
  cases event with
  | tick elapsed =>
      cases changed
      exact unspent
  | activate queue id =>
      obtain ⟨job, stored, due, rfl⟩ := environment_activate_cases changed
      apply unspent.setJob
      rintro _ data ⟨⟩ carried live
      exact unspent queue id job data stored carried
        ((Bool.and_eq_true _ _).mp due).2
  | complete queue id =>
      obtain ⟨job, -, -, rfl⟩ := environment_complete_cases changed
      apply unspent.setJob
      intro next data kept _ live
      rw [Job.complete_eq_some kept] at live
      cases live
  | fail queue id =>
      obtain ⟨job, -, -, rfl⟩ := environment_fail_cases changed
      apply unspent.setJob
      rintro _ data ⟨⟩ - live
      exact of_decide_eq_true (job.live_failAttempt.symm.trans live)

/-- An added job has one attempt at least. -/
theorem Unspent.exec {tokenWaitMs pid : Nat} {command : Command}
    {choice : Choice} {outcome : Except Thrown command.Result}
    (unspent : Unspent before)
    (traceable : Provenance.Traceable submitted after)
    (executed : exec tokenWaitMs pid command choice before =
      some (outcome, after)) : Unspent after := by
  rcases exec_adds executed with
    same | ⟨queue, id, data, options, -, -, rfl⟩
  · rw [Unspent, same]
    exact unspent
  · apply unspent.setJob
    rintro _ payment ⟨⟩ carried -
    have enqueues := traceable.jobs queue id _
      (by simp [World.setJob]; exact rfl)
    rw [carried] at enqueues
    obtain ⟨order, -, -, -, -, -, attempts⟩ := enqueues
    rw [attempts]
    exact Nat.succ_pos _

/-- What is known of the world of a run. -/
structure Kept (submitted : CreatePaymentInput → Prop) (world : World) :
    Prop where
  traceable : Provenance.Traceable submitted world
  unspent : Unspent world

theorem upholds (submitted : CreatePaymentInput → Prop)
    (config : AppConfig) :
    Upholds (paymentSystem config) (Provenance.delivers submitted)
      (Provenance.footprint submitted) (fun _ _ => True) (Kept submitted) where
  codes := fun state task kept admitted =>
    (Provenance.upholds submitted config).codes state task kept.traceable
      admitted
  executes := by
    intro state pid choice command outcome after kept admitted original
      executed
    obtain ⟨replied, traceable⟩ :=
      (Provenance.upholds submitted config).executes state pid choice command
        outcome after kept.traceable admitted original executed
    exact ⟨replied, traceable, kept.unspent.exec traceable executed⟩
  environments := fun _ _ _ kept _ changed =>
    ⟨kept.traceable.environment changed, kept.unspent.environment changed⟩

private theorem kept_empty (start : Time) : Kept submitted
    (World.empty start) :=
  ⟨Provenance.initially_traceable start, fun _ _ _ _ stored => by cases stored⟩

end RetryBudget

open RetryBudget

/-- From any state of any run: however the attempts of a queued payment fail and
whatever expires meanwhile, its gateway is asked to charge it no more often
than its retry budget says. -/
theorem charges_within_attempts (config : AppConfig)
    (submitted : CreatePaymentInput → Prop) (start : Time)
    (state : PaymentConfig config)
    (reached : (paymentSystem config).Reaches (Provenance.delivers submitted)
      (initially (World.empty start)) state) (input : CreatePaymentInput)
    (job : Job) (data : PaymentJobData)
    (stored : state.world.queues (QueueManager.queueNameFor input.gatewayId)
      input.id = some job) (carried : job.data = .payment data)
    (live : job.live = true)
    (permits : Nat → Command → Choice → World → Bool) (phase : Phase)
    (world : World)
    (worked : Worked config permits input state.world phase world) :
    charges input.id world + job.attemptsMade ≤
        charges input.id state.world + job.options.attempts ∧
      ∃ given, submitted given ∧ given.id = input.id ∧
        QueueManager.queueNameFor given.gatewayId =
          QueueManager.queueNameFor input.gatewayId ∧
        given.correlationId = data.correlationId ∧
        job.options.attempts =
          given.maxRetries.getD defaultMaxRetries + 1 := by
  have kept : Kept submitted state.world :=
    ((upholds submitted config).reaches (upheld_nil (kept_empty start))
      reached).invariant
  have enqueues := kept.traceable.jobs _ _ job stored
  rw [carried] at enqueues
  obtain ⟨order, ⟨given, member, rfl⟩, filed, same, rfl, -, attempts⟩ :=
    enqueues
  refine ⟨?_, given, member, same.symm, filed.symm, rfl, attempts⟩
  have left := kept.unspent _ _ job _ stored carried live
  have keyed : Solvency.Keyed state.world := fun id record read =>
    (kept.traceable.payments id record read).2
  have fresh : Spends input job.options job.attemptsMade
      (charges input.id state.world) .waiting state.world :=
    ⟨job.attemptsMade, left, ⟨job, _, stored, carried, same.symm, rfl, rfl⟩,
      keyed, le_refl _⟩
  exact (spends fresh worked).limit

/-- The store is down after the charge, attempt after attempt. -/
def outageAfterCharge : Move :=
  .deliver (List.replicate 11 .succeed ++
    [.guard (.answered (.ok "tx1" 200)), .refused "connection lost", .succeed,
      .refused "connection lost", .succeed])

def outageMoves : List Move :=
  [outageAfterCharge, .retry, outageAfterCharge, .retry, outageAfterCharge,
    .retry, outageAfterCharge]

def firstAttempt (job : Job) : Bool :=
  decide (job.data = .payment ⟨"p1", none⟩) && job.live &&
    decide (job.attemptsMade = 0)

theorem charges_within_attempts_outage :
    ∃ (state : PaymentConfig .default) (world : World),
      charges "p1" state.world = 0 ∧ charges "p1" world = 4 ∧
      ∃ job : Job, job.attemptsMade = 0 ∧
        charges "p1" world + job.attemptsMade ≤
          charges "p1" state.world + job.options.attempts ∧
        ∃ given, given = submission "stripe" 0 ∧ given.id = "p1" ∧
          QueueManager.queueNameFor given.gatewayId =
            QueueManager.queueNameFor "stripe" ∧
          given.correlationId = none ∧ job.options.attempts =
            given.maxRetries.getD defaultMaxRetries + 1 := by
  obtain ⟨state, reached, checked⟩ := exists_of_replay
    (paymentSystem .default).step (deliversOnly (submission "stripe" 0))
    ([.spawn (.submit (submission "stripe" 0))] ++ runs 0 6)
    (initially (World.empty 0))
    (fun state => (decide (charges "p1" state.world = 0) &&
        (state.world.queues (QueueManager.queueNameFor "stripe")
          "p1").any firstAttempt) &&
      (outageMoves.foldlM (fun state move => pursue .default
        (fun _ => anyOutcome) (submission "stripe" 0) move state)
        (.waiting, state.world)).any fun final =>
          decide (charges "p1" final.2 = 4))
    (by decide +kernel)
  obtain ⟨begun, lived⟩ := (Bool.and_eq_true _ _).mp checked
  obtain ⟨uncharged, held⟩ := (Bool.and_eq_true _ _).mp begun
  obtain ⟨job, stored, isFresh⟩ := (Option.any_eq_true _ _).mp held
  obtain ⟨⟨phase, world⟩, taken, charged⟩ := (Option.any_eq_true _ _).mp lived
  simp only [firstAttempt, Bool.and_eq_true, decide_eq_true_eq] at isFresh
  obtain ⟨⟨carried, live⟩, unmade⟩ := isFresh
  exact ⟨state, world, of_decide_eq_true uncharged, of_decide_eq_true charged,
    job, unmade, charges_within_attempts .default (· = submission "stripe" 0)
      0 state (reached.mono fun _ _ admitted =>
        delivers_of_deliversOnly admitted) (submission "stripe" 0) job _ stored
      carried live _ phase world (worked_of_moves .enqueued taken)⟩

end PaymentQueue
