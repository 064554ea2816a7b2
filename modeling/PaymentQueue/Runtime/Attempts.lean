import PaymentQueue.Runtime.Jobs

/-!
# The attempts of a job without Redis errors

The runs of `Runtime.Jobs` in which only the gateways and the ledger answer
freely.  Every attempt has its `Answers`, and a run lists those of the attempts
that were carried out.
-/

namespace PaymentQueue

open Await

/-- No command throws, except possibly the append to the ledger. -/
def unfailing (command : Command) (choice : Choice) (_ : World) : Bool :=
  choice.faultless || command.settles

/-- What the guard, the ledger and the refund answer in one attempt. -/
structure Answers where
  guard : GuardResponse
  ledger : Choice
  refund : GatewayRefundResult
  deriving DecidableEq, Repr

def Answers.permits (answers : Answers) (command : Command) (choice : Choice)
    (_ : World) : Bool :=
  match command with
  | .guardCall _ _ => decide (choice = .guard answers.guard)
  | .guardRefund _ _ => decide (choice = .refund answers.refund)
  | .storage (.rpushSettlement _) => decide (choice = answers.ledger)
  | _ => choice.faultless

theorem Answers.unfailing {answers : Answers} {command : Command}
    {choice : Choice} {world : World}
    (permitted : answers.permits command choice world = true) :
    unfailing command choice world = true := by
  revert permitted
  fun_cases Answers.permits answers command choice world with
  | case1 | case2 =>
      intro permitted
      rw [of_decide_eq_true permitted]
      rfl
  | case3 entry =>
      intro _
      exact Bool.or_true _
  | case4 =>
      intro permitted
      rw [PaymentQueue.unfailing, permitted]
      rfl

/-- The attempt found the payment finalized, or its lock taken. -/
def ProcessResult.skips : ProcessResult → Bool
  | .skipped _ _ => true
  | _ => false

inductive Attempted (config : AppConfig) (input : CreatePaymentInput)
    (start : World) : List Answers → Phase → World → Prop where
  | enqueued : Attempted config input start [] .waiting start
  | elapsed {past : List Answers} {phase : Phase} {world : World}
      (elapsed : Nat) :
      Attempted config input start past phase world →
      Attempted config input start past phase (world.tick elapsed)
  | returned {past : List Answers} {answers : Answers} {pid : Nat}
      {world active after final : World} {handle : JobHandle}
      {result : ProcessResult} :
      Attempted config input start past .waiting world →
      Delivered input world handle active →
      (Task.process handle).Executes config answers.permits pid active
        (.ok (.processed result)) after →
      environment (.complete (QueueManager.queueNameFor input.gatewayId)
        input.id) after = some final →
      Attempted config input start
        (if result.skips then past else past ++ [answers])
        (.acknowledged result) final
  | thrown {past : List Answers} {answers : Answers} {pid : Nat}
      {world active after final : World} {handle : JobHandle}
      {error : Thrown} :
      Attempted config input start past .waiting world →
      Delivered input world handle active →
      (Task.process handle).Executes config answers.permits pid active
        (.error error) after →
      environment (.fail (QueueManager.queueNameFor input.gatewayId)
        input.id) after = some final →
      Attempted config input start (past ++ [answers]) (.failed error) final
  | retried {past : List Answers} {world : World} {job : Job}
      {error : Thrown} :
      Attempted config input start past (.failed error) world →
      world.queues (QueueManager.queueNameFor input.gatewayId) input.id =
        some job →
      QueueManager.exhausted job = false →
      Attempted config input start past .waiting world
  | handled {past : List Answers} {pid : Nat} {world final : World}
      {job : Job} {error : Thrown} {data : PaymentJobData} :
      Attempted config input start past (.failed error) world →
      world.queues (QueueManager.queueNameFor input.gatewayId) input.id =
        some job →
      QueueManager.exhausted job = true → job.data = .payment data →
      (Task.handleJobFailure data error).Executes config unfailing pid world
        (.ok .handled) final →
      Attempted config input start past .exhausted final

/-- The delivery found the payment finalized, or its lock taken. -/
def Phase.skips : Phase → Bool
  | .acknowledged result => result.skips
  | _ => false

/-- A delivery that was executed with given choices. -/
theorem attempted_of_work {config : AppConfig} {input : CreatePaymentInput}
    {start world : World} {past : List Answers} {answers : Answers}
    {choices : List Choice} {state : Phase × World}
    (attempted : Attempted config input start past .waiting world)
    (taken : work config (fun _ => answers.permits) input choices world =
      some state) :
    Attempted config input start
      (if state.1.skips then past else past ++ [answers]) state.1 state.2 := by
  obtain ⟨handle, active, after, delivered,
    ⟨result, executes, finished, phase⟩ | ⟨error, executes, finished, phase⟩⟩
    := work_cases taken
  · rw [phase]
    exact .returned attempted delivered executes finished
  · rw [phase]
    exact .thrown attempted delivered executes finished

section Jobs

variable {config : AppConfig} {queue : String} {id : PaymentId} {job : Job}

/-- No command removes or changes a job. -/
theorem exec_job {tokenWaitMs pid : Nat} {command : Command} {choice : Choice}
    {before after : World} {outcome : Except Thrown command.Result}
    (executed : exec tokenWaitMs pid command choice before =
      some (outcome, after))
    (stored : before.queues queue id = some job) :
    after.queues queue id = some job := by
  rcases exec_adds executed with
    same | ⟨name, jobId, data, options, -, free, rfl⟩
  · rw [same]
    exact stored
  · by_cases sameQueue : queue = name
    · subst sameQueue
      have other : id ≠ jobId := by
        rintro rfl
        rw [free] at stored
        cases stored
      simpa [World.setJob, Function.update_of_ne other] using stored
    · simpa [World.setJob, Function.update_of_ne sameQueue] using stored

/-- The gateway's queue holds a job of the payment. -/
def Enqueued (input : CreatePaymentInput) (world : World) : Prop :=
  ∃ job data, world.queues (QueueManager.queueNameFor input.gatewayId)
    input.id = some job ∧ job.data = .payment data ∧
      data.paymentId = input.id

namespace Enqueued

variable {input : CreatePaymentInput} {world active final : World}

theorem setJob {next : Job} {data : PaymentJobData}
    (carried : next.data = .payment data) (same : data.paymentId = input.id) :
    Enqueued input (world.setJob
      (QueueManager.queueNameFor input.gatewayId) input.id (some next)) :=
  ⟨next, data, by simp [World.setJob], carried, same⟩

/-- A worker is handed the job of the payment; nothing else changes. -/
theorem delivered {handle : JobHandle} (enqueued : Enqueued input world)
    (handed : Delivered input world handle active) :
    handle.data.paymentId = input.id ∧ Enqueued input active ∧
      ∃ next, active = world.setJob
        (QueueManager.queueNameFor input.gatewayId) input.id (some next) ∧
        next.data = .payment handle.data := by
  obtain ⟨job, data, stored, carried, same⟩ := enqueued
  obtain ⟨activated, handed⟩ := handed
  rw [environment_activate stored activated] at handed ⊢
  simp only [World.setJob, Function.update_self, Option.bind_some,
    Job.handle?, carried, Option.some.injEq] at handed
  rw [← handed]
  exact ⟨same, setJob carried same, _, rfl, carried⟩

theorem executed {permits : Command → Choice → World → Bool} {pid : Nat}
    {task : Task} {output : Except Thrown Output}
    (enqueued : Enqueued input world)
    (executes : task.Executes config permits pid world output final) :
    Enqueued input final := by
  obtain ⟨job, data, stored, carried, same⟩ := enqueued
  refine ⟨job, data, ?_, carried, same⟩
  refine executes.keeps ?_ (fun _ _ _ _ _ => exec_job) stored
  rintro first second (rfl | ⟨elapsed, rfl⟩) <;> exact id

/-- The attempt has failed; nothing but the job changes. -/
theorem failed (enqueued : Enqueued input world)
    (taken : environment (.fail (QueueManager.queueNameFor input.gatewayId)
      input.id) world = some final) :
    Enqueued input final ∧ ∃ next, final = world.setJob
      (QueueManager.queueNameFor input.gatewayId) input.id (some next) ∧
        (∃ data, next.data = .payment data) := by
  obtain ⟨job, data, stored, carried, same⟩ := enqueued
  rw [environment_fail stored taken]
  exact ⟨setJob carried same, _, rfl, data, carried⟩

end Enqueued

end Jobs

/-- The world after payment `p1` was accepted. -/
def acceptedWorld : World :=
  (((Task.submit (submission "stripe" 0)).execute .default anyOutcome 0
    (List.replicate 6 .succeed) (World.empty 0)).map Prod.snd).getD
      (World.empty 0)

theorem stored_accepted :
    acceptedWorld.payments "p1" = some (.parsed (createPaymentRecord
      (PaymentService.newPayment (submission "stripe" 0)) 0)) := by
  decide +kernel

theorem enqueued_accepted : Enqueued (submission "stripe" 0) acceptedWorld := by
  have queued : (acceptedWorld.queues "stripe" "p1").map Job.data =
      some (.payment ⟨"p1", none⟩) := by
    decide +kernel
  have name : QueueManager.queueNameFor (submission "stripe" 0).gatewayId =
      "stripe" := by
    decide +kernel
  obtain ⟨job, stored, carried⟩ := Option.map_eq_some_iff.mp queued
  refine ⟨job, ⟨"p1", none⟩, ?_, carried, rfl⟩
  rw [name]
  exact stored

end PaymentQueue
