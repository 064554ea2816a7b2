import PaymentQueue.Await.Timely
import PaymentQueue.Payments.Validation
import PaymentQueue.Runtime.Runs

/-!
# The job of a validated request

A request is validated at one clock value, its delay is computed at a later
one, and the job is added at a later one still.  Whatever else runs in
between, the job is due neither before the requested time nor after the
longest delay.
-/

namespace PaymentQueue

namespace Scheduling

open Await PaymentService

/-- The options of a job that is added at `addedAt` for a request that was
submitted at `submittedAt`. -/
structure Punctual (input : ValidatedInput) (submittedAt addedAt : Time)
    (options : JobOptions) : Prop where
  bounded : 0 ≤ (options.delay : Int) ∧ (options.delay : Int) ≤ 2147483000
  attempts : 1 ≤ options.attempts ∧ options.attempts ≤ 11
  priority : options.priority = input.priority.toNumeric
  /-- The delay is what is left of the time when it is computed. -/
  scheduledAt : ∀ date ∈ input.scheduledAt, ∃ (time : Int) (computedAt : Time),
    date.time = some time ∧ submittedAt ≤ computedAt ∧
      computedAt ≤ addedAt ∧
      (options.delay : Int) = max 0 (time - computedAt) ∧
      (time ≤ computedAt → options.delay = 0) ∧
      time ≤ addedAt + options.delay
  delayMs : ∀ delay ∈ input.delayMs, (options.delay : Int) = delay ∧
    submittedAt + delay ≤ addedAt + options.delay
  immediate : input.scheduledAt = none → input.delayMs = none →
    options.delay = 0

section Options

variable {input : ValidatedInput} (correlationId : Option String)
  {validatedAt submittedAt computedAt addedAt : Nat}

/-- The second clamp of the delay changes nothing. -/
@[simp] theorem jobOptions_delay (record : PaymentRecord) (delay : Nat) :
    (QueueManager.jobOptions (enqueueInput record delay)).delay = delay := by
  have clamped : (if delay ≠ 0 then max 1 delay else 0) = delay := by
    split <;> omega
  exact clamped

private theorem delayFor_of_scheduledAt (computedAt : Nat) {date : Date}
    {time : Int}
    (chosen : input.scheduledAt = some date) (valid : date.time = some time) :
    (delayFor (input.toInput correlationId) computedAt : Int) =
      max 0 (time - computedAt) := by
  simp only [delayFor, ValidatedInput.toInput, chosen, Option.bind_some, valid,
    Option.map_some]
  omega

theorem delayFor_of_delayMs (unscheduled : input.scheduledAt = none) :
    delayFor (input.toInput correlationId) computedAt =
      (input.delayMs.map Int.toNat).getD 0 := by
  simp [delayFor, ValidatedInput.toInput, unscheduled]

private theorem delayFor_le (accepted : input.Accepted validatedAt)
    (validated : validatedAt ≤ computedAt) :
    delayFor (input.toInput correlationId) computedAt ≤ maxDelayMs := by
  cases chosen : input.scheduledAt with
  | some date =>
      obtain ⟨time, valid, near⟩ := accepted.scheduledAt date chosen
      have computed := delayFor_of_scheduledAt correlationId computedAt
        chosen valid
      have left : max 0 (time - computedAt) ≤ (maxDelayMs : Int) :=
        Int.max_le.mpr ⟨by omega, by omega⟩
      omega
  | none =>
      rw [delayFor_of_delayMs correlationId chosen]
      cases asked : input.delayMs with
      | none => exact Nat.zero_le _
      | some delay =>
          have small := (accepted.delayMs delay asked).2
          simp only [Option.map_some, Option.getD_some]
          omega

private theorem punctual_jobOptions (accepted : input.Accepted validatedAt)
    (validated : validatedAt ≤ submittedAt)
    (submitted : submittedAt ≤ computedAt) (computed : computedAt ≤ addedAt)
    (createdAt : Time) :
    Punctual input submittedAt addedAt
      (QueueManager.jobOptions (enqueueInput
        (createPaymentRecord (newPayment (input.toInput correlationId))
          createdAt)
        (delayFor (input.toInput correlationId) computedAt))) where
  bounded := by
    have small := delayFor_le correlationId accepted
      (Nat.le_trans validated submitted)
    rw [jobOptions_delay]
    simp only [maxDelayMs] at small
    omega
  attempts := by
    have retries := accepted.maxRetries
    have attempts : (QueueManager.jobOptions (enqueueInput
        (createPaymentRecord (newPayment (input.toInput correlationId))
          createdAt)
        (delayFor (input.toInput correlationId) computedAt))).attempts =
        input.maxRetries.toNat + 1 := rfl
    omega
  priority := rfl
  scheduledAt := by
    intro date chosen
    obtain ⟨time, valid, -⟩ := accepted.scheduledAt date chosen
    have left := delayFor_of_scheduledAt correlationId computedAt chosen
      valid
    have remains := Int.le_max_right 0 (time - (computedAt : Int))
    rw [jobOptions_delay]
    refine ⟨time, computedAt, valid, submitted, computed, left, ?_, by omega⟩
    intro past
    rw [Int.max_eq_left (by omega)] at left
    exact_mod_cast left
  delayMs := by
    intro delay asked
    have unscheduled : input.scheduledAt = none := by
      cases accepted.exclusive with
      | inl unscheduled => exact unscheduled
      | inr undelayed =>
          rw [undelayed] at asked
          cases asked
    have nonnegative := (accepted.delayMs delay asked).1
    rw [jobOptions_delay, delayFor_of_delayMs correlationId unscheduled,
      show input.delayMs = some delay from asked]
    simp only [Option.map_some, Option.getD_some]
    constructor <;> omega
  immediate := by
    intro unscheduled undelayed
    rw [jobOptions_delay, delayFor_of_delayMs correlationId unscheduled,
      undelayed]
    rfl

end Options

/-- A job is added with punctual options only. -/
def Adds (input : ValidatedInput) (submittedAt time : Nat) : Command → Prop
  | .storage (.queueAdd _ _ _ options) =>
      Punctual input submittedAt time options
  | _ => True

section Submission

variable {config : AppConfig} {input : ValidatedInput} {submittedAt last : Nat}
  {locals : Type} {vars : locals} {id : PaymentId}

theorem timely_command {command : Command}
    (allowed : ∀ time, last ≤ time → Adds input submittedAt time command) :
    Async.Timely (Adds input submittedAt)
      (awaitCommand command : Async locals _) last vars :=
  Async.timely_await allowed

private theorem timely_idempotencyGet :
    Async.Timely (Adds input submittedAt)
      (IdempotencyService.get id : Async locals _) last vars := by
  refine Async.timely_bind (timely_command fun _ _ => trivial) ?_
  intro raw time left later
  exact Async.timely_pure _

theorem timely_storeGet :
    Async.Timely (Adds input submittedAt)
      (PaymentStore.get id : Async locals _) last vars := by
  refine Async.timely_bind (timely_command fun _ _ => trivial) ?_
  intro doc time left later
  exact Async.timely_pure _

private theorem timely_claim :
    Async.Timely (Adds input submittedAt)
      (IdempotencyService.claim config id : Async locals _) last vars := by
  apply Async.timely_dateNow_bind
  refine Async.timely_bind (timely_command fun _ _ => trivial) ?_
  intro acquired claimed left later
  cases acquired with
  | true => exact Async.timely_pure _
  | false =>
      refine Async.timely_bind timely_idempotencyGet ?_
      intro existing time left later
      cases existing with
      | none => exact Async.timely_pure _
      | some existing =>
          dsimp only
          split
          · exact Async.timely_pure _
          · exact Async.timely_pure _

private theorem timely_claimOrRecover :
    Async.Timely (Adds input submittedAt)
      (claimOrRecover config id : Async locals _) last vars := by
  refine Async.timely_bind timely_claim ?_
  intro claim time left later
  cases claim with
  | new => exact Async.timely_pure _
  | replayed record => exact Async.timely_pure _
  | conflict record =>
      refine Async.timely_bind timely_storeGet ?_
      intro existing time left later
      cases existing with
      | some payment => exact Async.timely_pure _
      | none =>
          refine Async.timely_bind (timely_command fun _ _ => trivial) ?_
          intro _ time left later
          exact timely_claim

private theorem timely_create {validatedAt : Nat}
    {correlationId : Option String}
    (accepted : input.Accepted validatedAt)
    (validated : validatedAt ≤ submittedAt) (submitted : submittedAt ≤ last) :
    Async.Timely (Adds input submittedAt)
      (create (input.toInput correlationId) : Async locals _) last vars := by
  apply Async.timely_dateNow_bind
  refine Async.timely_bind (Async.timely_dateNow_bind
    (timely_command fun _ _ => trivial)) ?_
  intro _ audited left afterAudit
  refine Async.timely_bind (timely_command fun _ _ => trivial) ?_
  intro _ saved left afterSave
  refine Async.timely_bind (Async.timely_dateNow_bind
    (timely_command fun _ _ => trivial)) ?_
  intro _ emitted left afterEmit
  apply Async.timely_dateNow_bind
  have computed : submittedAt ≤ emitted := by omega
  refine Async.timely_bind (Async.timely_tryCatch ?_ ?_) ?_
  · refine Async.timely_bind (timely_command fun _ _ => trivial) ?_
    intro _ ready left afterReady
    apply timely_command
    intro added afterAdd
    exact punctual_jobOptions correlationId accepted validated computed
      (Nat.le_trans afterReady afterAdd) last
  · intro error time left later
    refine Async.timely_bind (timely_command fun _ _ => trivial) ?_
    intro _ time left later
    exact Async.timely_throw _
  · intro _ time left later
    exact Async.timely_pure _

private theorem timely_submit {validatedAt : Nat}
    {correlationId : Option String}
    (accepted : input.Accepted validatedAt)
    (validated : validatedAt ≤ submittedAt) :
    Async.Timely (Adds input submittedAt)
      (submit config (input.toInput correlationId) : Async locals _)
      submittedAt vars := by
  refine Async.timely_bind timely_claimOrRecover ?_
  intro claim claimed left later
  cases claim with
  | new => exact timely_create accepted validated later
  | conflict record =>
      refine Async.timely_bind timely_storeGet ?_
      intro existing time left later
      exact Async.timely_throw _
  | replayed record =>
      refine Async.timely_bind timely_storeGet ?_
      intro existing time left later
      cases existing with
      | some payment => exact Async.timely_pure _
      | none => exact Async.timely_throw _

end Submission

section Runs

variable {config : AppConfig}

private theorem forward : (paymentSystem config).Forward := by
  intro label state next taken
  cases label with
  | spawn task =>
      cases taken
      exact Nat.le_refl _
  | run pid choice =>
      obtain ⟨task, command, resume, outcome, after, -, executed, rfl⟩ :=
        System.step_run_eq_some taken
      exact Nat.le_of_eq (exec_now executed).symm
  | crash pid =>
      obtain ⟨task, program, -, rfl⟩ := System.step_crash_eq_some taken
      exact Nat.le_refl _
  | environment event =>
      obtain ⟨after, changed, rfl⟩ := System.step_environment_eq_some taken
      rcases environment_cases changed with
        ⟨elapsed, -, rfl⟩ | ⟨queue, jobId, job, rfl⟩
      · exact Nat.le_add_right _ _
      · exact Nat.le_refl _

/-- The jobs that a submission adds, in any run. -/
theorem punctual_of_run {parse : String → Date} {body : JsValue}
    {validatedAt : Time} {input : ValidatedInput}
    {correlationId : Option String} {choice : Choice}
    {before started current next : PaymentConfig config} {queue : String}
    {jobId : PaymentId} {job : Job}
    (returned : validateCreatePaymentInput parse validatedAt body = .ok input)
    (validated : validatedAt ≤ before.world.now)
    (spawned : (paymentSystem config).step
      (.spawn (.submit (input.toInput correlationId))) before = some started)
    (reached : (paymentSystem config).Reaches (fun _ _ => True) started
      current)
    (ran : (paymentSystem config).step
      (.run before.threads.length choice) current = some next)
    (absent : current.world.queues queue jobId = none)
    (added : next.world.queues queue jobId = some job) :
    job.addedAt = current.world.now ∧
      Punctual input before.world.now job.addedAt job.options := by
  have accepted := Validation.accepted_of_validate returned
  have code : Async.Timely (Adds input before.world.now)
      ((Task.submit (input.toInput correlationId)).body config)
      before.world.now () :=
    Async.timely_bind (timely_submit accepted validated)
      fun result _ _ _ => Async.timely_pure _
  have timely : System.ThreadTimely (Adds input before.world.now)
      before.threads.length current :=
    (System.ThreadTimely.spawned code.start spawned).reaches forward reached
  obtain ⟨command, outcome, allowed, executed⟩ := timely.executes ran
  obtain ⟨data, options, rfl, rfl⟩ := exec_appears executed absent added
  exact ⟨rfl, allowed⟩

end Runs

/-- A body is rejected with a 400, or what is returned for it is returned
again at the same clock value.  In every run, and in any interleaving, a job
that the submission of such a request adds is due in time. -/
theorem requests_punctual (config : AppConfig) (parse : String → Date) :
    (∀ (body : JsValue) (now : Time),
      (∃ message, validateCreatePaymentInput parse now body =
        .error (.badRequest message)) ∨
      ∃ input, validateCreatePaymentInput parse now body = .ok input ∧
        validateCreatePaymentInput parse now input.toValue = .ok input) ∧
    (∀ (body : JsValue) (validatedAt : Time) (input : ValidatedInput)
      (correlationId : Option String)
      (before started current next : PaymentConfig config) (choice : Choice)
      (queue : String) (jobId : PaymentId) (job : Job),
      validateCreatePaymentInput parse validatedAt body = .ok input →
      validatedAt ≤ before.world.now →
      (paymentSystem config).step
        (.spawn (.submit (input.toInput correlationId))) before =
          some started →
      (paymentSystem config).Reaches (fun _ _ => True) started current →
      (paymentSystem config).step (.run before.threads.length choice)
        current = some next →
      current.world.queues queue jobId = none →
      next.world.queues queue jobId = some job →
      job.addedAt = current.world.now ∧
        Punctual input before.world.now job.addedAt job.options) ∧
    PaymentPriority.high.toNumeric < PaymentPriority.normal.toNumeric ∧
    PaymentPriority.normal.toNumeric < PaymentPriority.low.toNumeric := by
  refine ⟨?_, ?_, by decide, by decide⟩
  · intro body now
    cases returned : validateCreatePaymentInput parse now body with
    | error error =>
        obtain ⟨message, rfl⟩ := Validation.rejects_validate error returned
        exact .inl ⟨message, rfl⟩
    | ok input =>
        have accepted := Validation.accepted_of_validate returned
        exact .inr ⟨input, rfl, Validation.validate_toValue parse accepted⟩
  · intro body validatedAt input correlationId before started current next
      choice queue jobId job returned validated spawned reached ran absent
      added
    exact punctual_of_run returned validated spawned reached ran absent added

/-- The engine's reading of the one date below. -/
def readDate (text : String) : Date :=
  if text = "1970-01-01T00:00:05.000Z" then .ofTime 5000 else .invalid

def scheduledBody : JsValue :=
  .object [("id", .string "p1"), ("amount", .ofInt 500),
    ("currency", .string "EUR"), ("customerId", .string "c1"),
    ("gatewayId", .string "stripe"),
    ("scheduledAt", .string "1970-01-01T00:00:05.000Z")]

def scheduledRequest : ValidatedInput :=
  { id := "p1"
    amount := 500
    currency := "EUR"
    customerId := "c1"
    gatewayId := "stripe"
    priority := .normal
    maxRetries := 3
    metadata := .object []
    scheduledAt := some (.ofTime 5000)
    delayMs := none }

/-- The request is submitted at 1000; 250 ms pass before its delay is computed
and 300 ms more before its job is added. -/
def delayed : List (PaymentLabel .default) :=
  runs 0 3 ++ [.environment (.tick 250)] ++ runs 0 1 ++
    [.environment (.tick 300)] ++ runs 0 1

theorem requests_punctual_delayed :
    ∃ (current next : PaymentConfig .default) (job : Job),
      next.world.queues "stripe" "p1" = some job ∧
      job.options.delay = 3750 ∧ job.addedAt = 1550 ∧
      job.addedAt = current.world.now ∧
      Punctual scheduledRequest 1000 job.addedAt job.options := by
  obtain ⟨current, reached, checked⟩ := exists_of_replay
    (paymentSystem .default).step (fun _ _ => true) delayed
    ⟨World.empty 1000, [.resume (.submit (scheduledRequest.toInput none))
      ((paymentSystem .default).code
        (.submit (scheduledRequest.toInput none)) 1000)]⟩
    (fun state => decide (state.world.queues "stripe" "p1" = none) &&
      ((paymentSystem .default).step (.run 0 .succeed) state).any
        fun next => (next.world.queues "stripe" "p1").any
          fun job => decide (job.options.delay = 3750) &&
            decide (job.addedAt = 1550)) (by decide +kernel)
  simp only [Bool.and_eq_true, decide_eq_true_eq] at checked
  obtain ⟨absent, steps⟩ := checked
  obtain ⟨next, taken, stored⟩ := (Option.any_eq_true _ _).mp steps
  obtain ⟨job, added, facts⟩ := (Option.any_eq_true _ _).mp stored
  simp only [Bool.and_eq_true, decide_eq_true_eq] at facts
  have returned : validateCreatePaymentInput readDate 900 scheduledBody =
      .ok scheduledRequest :=
    rfl
  have punctual := (requests_punctual .default readDate).2.1 scheduledBody 900
    scheduledRequest none (initially (World.empty 1000)) _ current next
    .succeed "stripe" "p1" job returned (by decide) rfl
    (reached.mono fun _ _ _ => trivial) taken absent added
  exact ⟨current, next, job, added, facts.1, facts.2, punctual⟩

end Scheduling

end PaymentQueue
