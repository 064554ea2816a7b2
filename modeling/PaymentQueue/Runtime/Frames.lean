import PaymentQueue.Payments.Service

/-!
# What each command leaves unchanged

Every command changes at most one part of the world.  The frame lemmas state
this once for all commands and all ways a command can turn out.
-/

namespace PaymentQueue

open Await

inductive Part where
  | payments
  | idempotency
  | locks
  | audit
  | settlements
  | queues
  | gateway
  | events
  deriving DecidableEq, Repr

/-- The part of the world that a storage command may change. -/
def StorageCommand.part : StorageCommand → Option Part
  | hsetPayment _ _ => some .payments
  | setIdempotency _ _ _ => some .idempotency
  | setNxIdempotency _ _ _ => some .idempotency
  | delIdempotency _ => some .idempotency
  | setNxLock _ _ => some .locks
  | delLock _ => some .locks
  | rpushAudit _ _ => some .audit
  | rpushSettlement _ => some .settlements
  | queueAdd _ _ _ _ => some .queues
  | hgetPayment _ => none
  | getIdempotency _ => none
  | queueReady _ => none

def Command.part : Command → Option Part
  | .storage command => command.part
  | .guardCall _ _ => some .gateway
  | .guardRefund _ _ => some .gateway
  | .emit _ => some .events

def Command.writes (command : Command) (part : Part) : Bool :=
  decide (command.part = some part)

/-- The two worlds have the same content in one part. -/
def World.Agrees (part : Part) (before after : World) : Prop :=
  match part with
  | .payments => after.payments = before.payments
  | .idempotency => after.idempotency = before.idempotency
  | .locks => after.locks = before.locks
  | .audit => after.audit = before.audit
  | .settlements => after.settlements = before.settlements
  | .queues => after.queues = before.queues
  | .gateway => after.gateway = before.gateway
  | .events => after.events = before.events

theorem World.Agrees.refl (part : Part) (world : World) :
    World.Agrees part world world := by
  cases part <;> simp [World.Agrees]

theorem effect_agrees {command : StorageCommand} {part : Part}
    (differs : command.part ≠ some part) (pid : Nat) (world : World) :
    World.Agrees part world (command.effect pid world).2 := by
  cases command with
  | hgetPayment id => exact .refl part world
  | getIdempotency id => exact .refl part world
  | queueReady queue => exact .refl part world
  | setNxIdempotency id record ttlSeconds =>
      simp only [StorageCommand.effect]
      split
      · exact .refl part world
      · cases part <;> simp_all [World.Agrees, StorageCommand.part]
  | setNxLock id ttlSeconds =>
      simp only [StorageCommand.effect]
      split
      · exact .refl part world
      · cases part <;> simp_all [World.Agrees, StorageCommand.part]
  | queueAdd queue jobId data options =>
      simp only [StorageCommand.effect]
      split
      · exact .refl part world
      · cases part <;> simp_all [World.Agrees, StorageCommand.part]
  | hsetPayment id record | setIdempotency id record ttlSeconds
  | delIdempotency id | delLock id | rpushAudit id event
  | rpushSettlement entry =>
      cases part <;>
        simp_all [World.Agrees, StorageCommand.part, StorageCommand.effect]

theorem exec_agrees {tokenWaitMs pid : Nat} {command : Command}
    {choice : Choice} {before after : World} {part : Part}
    {outcome : Except Thrown command.Result}
    (executed : exec tokenWaitMs pid command choice before =
      some (outcome, after))
    (differs : command.part ≠ some part) :
    World.Agrees part before after := by
  cases command with
  | storage command =>
      cases choice with
      | succeed =>
          cases executed
          exact effect_agrees differs pid before
      | lost message =>
          cases executed
          exact effect_agrees differs pid before
      | refused message =>
          cases executed
          exact .refl part before
      | guard response => cases executed
      | refund result => cases executed
  | guardCall payment correlationId =>
      cases choice with
      | guard response =>
          cases executed
          cases part <;> simp_all [World.Agrees, Command.part]
      | succeed => cases executed
      | lost message => cases executed
      | refused message => cases executed
      | refund result => cases executed
  | guardRefund gatewayId transactionId =>
      cases choice with
      | refund result =>
          cases executed
          cases part <;> simp_all [World.Agrees, Command.part]
      | succeed => cases executed
      | lost message => cases executed
      | refused message => cases executed
      | guard response => cases executed
  | emit event =>
      cases choice with
      | succeed =>
          cases executed
          cases part <;> simp_all [World.Agrees, Command.part]
      | lost message => cases executed
      | refused message => cases executed
      | guard response => cases executed
      | refund result => cases executed

/-- A storage command takes effect, whatever it replies, or is refused. -/
theorem exec_storage {tokenWaitMs pid : Nat} {command : StorageCommand}
    {choice : Choice} {before after : World}
    {outcome : Except Thrown command.Result}
    (executed : exec tokenWaitMs pid (.storage command) choice before =
      some (outcome, after)) :
    (choice.isRefused = true ∧ after = before ∧ outcome.isOk = false) ∨
      (choice.isRefused = false ∧ after = (command.effect pid before).2 ∧
        (outcome = .ok (command.effect pid before).1 ∨
          outcome.isOk = false)) := by
  cases choice with
  | succeed =>
      cases executed
      exact .inr ⟨rfl, rfl, .inl rfl⟩
  | lost message =>
      cases executed
      exact .inr ⟨rfl, rfl, .inr rfl⟩
  | refused message =>
      cases executed
      exact .inl ⟨rfl, rfl, rfl⟩
  | guard response | refund result => cases executed

/-- A command that throws has not been told to succeed. -/
theorem exec_error {tokenWaitMs pid : Nat} {command : Command}
    {choice : Choice} {before after : World} {error : Thrown}
    (executed : exec tokenWaitMs pid command choice before =
      some (.error error, after)) : choice.faultless = false := by
  cases command with
  | storage command =>
      cases choice with
      | succeed => cases executed
      | lost message | refused message => rfl
      | guard response | refund result => cases executed
  | guardCall _ _ | guardRefund _ _ | emit _ =>
      cases choice <;> cases executed

/-- Commands take no time of their own. -/
theorem exec_now {tokenWaitMs pid : Nat} {command : Command}
    {choice : Choice} {before after : World}
    {outcome : Except Thrown command.Result}
    (executed : exec tokenWaitMs pid command choice before =
      some (outcome, after)) : after.now = before.now := by
  cases command with
  | storage command =>
      have same : (command.effect pid before).2.now = before.now := by
        cases command with
        | setNxIdempotency id record ttlSeconds =>
            simp only [StorageCommand.effect]
            split <;> rfl
        | setNxLock id ttlSeconds =>
            simp only [StorageCommand.effect]
            split <;> rfl
        | queueAdd queue jobId data options =>
            simp only [StorageCommand.effect]
            split <;> rfl
        | _ => rfl
      rcases exec_storage executed with ⟨-, rfl, -⟩ | ⟨-, rfl, -⟩
      · rfl
      · exact same
  | guardCall _ _ | guardRefund _ _ | emit _ =>
      cases choice <;> cases executed
      rfl

/-- Only a claim changes the claimant of a key. -/
theorem exec_claimant {tokenWaitMs pid : Nat} {command : Command}
    {choice : Choice} {before after : World}
    {outcome : Except Thrown command.Result}
    (executed : exec tokenWaitMs pid command choice before =
      some (outcome, after))
    (other : ∀ id record ttlSeconds,
      command ≠ .storage (.setNxIdempotency id record ttlSeconds)) :
    after.claimant = before.claimant := by
  cases command with
  | storage command =>
      have same : (command.effect pid before).2.claimant =
          before.claimant := by
        cases command with
        | setNxIdempotency id record ttlSeconds =>
            exact (other id record ttlSeconds rfl).elim
        | setNxLock id ttlSeconds =>
            simp only [StorageCommand.effect]
            split <;> rfl
        | queueAdd queue jobId data options =>
            simp only [StorageCommand.effect]
            split <;> rfl
        | _ => rfl
      cases choice with
      | succeed | lost message =>
          cases executed
          exact same
      | refused message =>
          cases executed
          rfl
      | guard response | refund result => cases executed
  | guardCall payment correlationId =>
      cases choice <;> cases executed
      rfl
  | guardRefund gatewayId transactionId =>
      cases choice <;> cases executed
      rfl
  | emit event =>
      cases choice <;> cases executed
      rfl

private theorem effect_idempotency_lost {command : StorageCommand} {pid : Nat}
    {world : World} {id : PaymentId} (stored : world.idempotency id ≠ none)
    (lost : (command.effect pid world).2.idempotency id = none) :
    command = .delIdempotency id := by
  have overwritten : ∀ {key : PaymentId} {value},
      Function.update world.idempotency key (some value) id ≠ none := by
    intro key value
    by_cases same : id = key
    · simp [same]
    · rw [Function.update_of_ne same]
      exact stored
  by_cases elsewhere : command.part = some .idempotency
  · cases command with
    | delIdempotency key =>
        by_cases same : id = key
        · rw [same]
        · simp only [StorageCommand.effect, Function.update_of_ne same]
            at lost
          exact (stored lost).elim
    | setIdempotency key record ttlSeconds => exact (overwritten lost).elim
    | setNxIdempotency key record ttlSeconds =>
        simp only [StorageCommand.effect] at lost
        split at lost
        · exact (stored lost).elim
        · exact (overwritten lost).elim
    | _ => cases elsewhere
  · have same : (command.effect pid world).2.idempotency =
        world.idempotency := effect_agrees elsewhere pid world
    rw [same] at lost
    exact (stored lost).elim

theorem exec_idempotency_lost {tokenWaitMs pid : Nat} {command : Command}
    {choice : Choice} {before after : World} {id : PaymentId}
    {outcome : Except Thrown command.Result}
    (executed : exec tokenWaitMs pid command choice before =
      some (outcome, after))
    (stored : before.idempotency id ≠ none)
    (lost : after.idempotency id = none) :
    command = .storage (.delIdempotency id) := by
  cases command with
  | storage command =>
      cases choice with
      | succeed | lost message =>
          cases executed
          rw [effect_idempotency_lost stored lost]
      | refused message =>
          cases executed
          exact (stored lost).elim
      | guard response | refund result => cases executed
  | guardCall _ _ | guardRefund _ _ | emit _ =>
      have same : World.Agrees .idempotency before after :=
        exec_agrees executed (by simp [Command.part])
      simp only [World.Agrees] at same
      rw [same] at lost
      exact (stored lost).elim

/-- A command adds at most one job, under an id that the queue does not
have. -/
theorem exec_adds {tokenWaitMs pid : Nat} {command : Command}
    {choice : Choice} {before after : World}
    {outcome : Except Thrown command.Result}
    (executed : exec tokenWaitMs pid command choice before =
      some (outcome, after)) :
    after.queues = before.queues ∨
      ∃ queue jobId data options,
        command = .storage (.queueAdd queue jobId data options) ∧
        before.queues queue jobId = none ∧
        after = before.setJob queue jobId (some ⟨data, options, 0,
          StorageCommand.initialState options, before.now, pid⟩) := by
  by_cases adds : command.part = some .queues
  · cases command with
    | storage command =>
        cases command with
        | queueAdd queue jobId data options =>
            rcases exec_storage executed with ⟨-, rfl, -⟩ | ⟨-, rfl, -⟩
            · exact .inl rfl
            · simp only [StorageCommand.effect]
              split
              case h_1 => exact .inl rfl
              case h_2 free =>
                exact .inr ⟨queue, jobId, data, options, rfl, free, rfl⟩
        | _ => simp [Command.part, StorageCommand.part] at adds
    | guardCall _ _ | guardRefund _ _ | emit _ => cases adds
  · exact .inl (exec_agrees executed adds)

/-- A job that a command makes appear was added by it. -/
theorem exec_appears {tokenWaitMs pid : Nat} {command : Command}
    {choice : Choice} {before after : World}
    {outcome : Except Thrown command.Result} {queue : String}
    {jobId : PaymentId} {job : Job}
    (executed : exec tokenWaitMs pid command choice before =
      some (outcome, after))
    (absent : before.queues queue jobId = none)
    (stored : after.queues queue jobId = some job) :
    ∃ data options, command = .storage (.queueAdd queue jobId data options) ∧
      job = ⟨data, options, 0, StorageCommand.initialState options,
        before.now, pid⟩ := by
  rcases exec_adds executed with
    same | ⟨queue', jobId', data, options, rfl, -, rfl⟩
  · rw [same, absent] at stored
    cases stored
  · by_cases here : queue = queue' ∧ jobId = jobId'
    · obtain ⟨rfl, rfl⟩ := here
      simp only [World.setJob, Function.update_self, Option.some.injEq]
        at stored
      exact ⟨data, options, rfl, stored.symm⟩
    · have unchanged : (before.setJob queue' jobId' (some ⟨data, options, 0,
          StorageCommand.initialState options, before.now, pid⟩)).queues
          queue jobId = before.queues queue jobId := by
        simp only [World.setJob, Function.update_apply]
        grind [Function.update_apply]
      rw [unchanged, absent] at stored
      cases stored

section Environment

variable {queue : String} {jobId : PaymentId} {before after : World}

/-- A job that is handed to a worker was due. -/
theorem environment_activate_cases
    (changed : environment (.activate queue jobId) before = some after) :
    ∃ job, before.queues queue jobId = some job ∧
      job.due before.now = true ∧
      after = before.setJob queue jobId (some { job with state := .active })
      := by
  simp only [environment] at changed
  split at changed
  case h_1 job stored =>
    split at changed
    case isTrue due => exact ⟨job, stored, due, (Option.some.inj changed).symm⟩
    case isFalse => cases changed
  case h_2 => cases changed

theorem environment_complete_cases
    (changed : environment (.complete queue jobId) before = some after) :
    ∃ job, before.queues queue jobId = some job ∧ job.state = .active ∧
      after = before.setJob queue jobId job.complete := by
  simp only [environment] at changed
  split at changed
  case h_1 job stored =>
    split at changed
    case isTrue active =>
      exact ⟨job, stored, active, (Option.some.inj changed).symm⟩
    case isFalse => cases changed
  case h_2 => cases changed

theorem environment_fail_cases
    (changed : environment (.fail queue jobId) before = some after) :
    ∃ job, before.queues queue jobId = some job ∧ job.state = .active ∧
      after = before.setJob queue jobId (some job.failAttempt) := by
  simp only [environment] at changed
  split at changed
  case h_1 job stored =>
    split at changed
    case isTrue active =>
      exact ⟨job, stored, active, (Option.some.inj changed).symm⟩
    case isFalse => cases changed
  case h_2 => cases changed

/-- Apart from the clock, the environment changes one job. -/
theorem environment_cases {event : Event}
    (changed : environment event before = some after) :
    (∃ elapsed, event = .tick elapsed ∧ after = before.tick elapsed) ∨
      ∃ queue jobId next, after = before.setJob queue jobId next := by
  cases event with
  | tick elapsed => exact .inl ⟨elapsed, rfl, (Option.some.inj changed).symm⟩
  | activate queue jobId =>
      obtain ⟨job, -, -, rfl⟩ := environment_activate_cases changed
      exact .inr ⟨queue, jobId, _, rfl⟩
  | complete queue jobId =>
      obtain ⟨job, -, -, rfl⟩ := environment_complete_cases changed
      exact .inr ⟨queue, jobId, _, rfl⟩
  | fail queue jobId =>
      obtain ⟨job, -, -, rfl⟩ := environment_fail_cases changed
      exact .inr ⟨queue, jobId, _, rfl⟩

theorem queues_setJob (world : World) (name : String) (id : PaymentId)
    (replaced : Option Job) :
    (world.setJob name id replaced).queues queue jobId =
      if queue = name ∧ jobId = id then replaced
      else world.queues queue jobId := by
  simp only [World.setJob, Function.update_apply]
  grind [Function.update_apply]

/-- What became of a job. -/
inductive Outlasts (job : Job) : Option Job → Prop where
  | kept (next : Job) : next.data = job.data → next.options = job.options →
      Outlasts job (some next)
  | removed : job.options.removeOnComplete = true → Outlasts job none

private theorem outlasts_complete (job : Job) : Outlasts job job.complete := by
  rw [Job.complete]
  split
  case isTrue removed => exact .removed removed
  case isFalse => exact .kept _ rfl rfl

/-- The environment never adds a job, and keeps what a job carries. -/
theorem environment_outlasts {event : Event}
    (changed : environment event before = some after) :
    after.queues queue jobId = before.queues queue jobId ∨
      ∃ job, before.queues queue jobId = some job ∧
        Outlasts job (after.queues queue jobId) := by
  have replaces : ∀ name id job replaced, before.queues name id = some job →
      Outlasts job replaced → after = before.setJob name id replaced →
      after.queues queue jobId = before.queues queue jobId ∨
        ∃ job, before.queues queue jobId = some job ∧
          Outlasts job (after.queues queue jobId) := by
    rintro name id job replaced stored outlasts rfl
    rw [queues_setJob]
    split
    case isTrue here =>
      obtain ⟨rfl, rfl⟩ := here
      exact .inr ⟨job, stored, outlasts⟩
    case isFalse => exact .inl rfl
  cases event with
  | tick elapsed =>
      cases changed
      exact .inl rfl
  | activate name id =>
      obtain ⟨job, stored, -, same⟩ := environment_activate_cases changed
      exact replaces name id job _ stored
        (.kept { job with state := .active } rfl rfl) same
  | complete name id =>
      obtain ⟨job, stored, -, same⟩ := environment_complete_cases changed
      exact replaces name id job _ stored (outlasts_complete job) same
  | fail name id =>
      obtain ⟨job, stored, -, same⟩ := environment_fail_cases changed
      exact replaces name id job _ stored (.kept job.failAttempt rfl rfl) same

theorem environment_origin {event : Event} {next : Job}
    (changed : environment event before = some after)
    (stored : after.queues queue jobId = some next) :
    ∃ job, before.queues queue jobId = some job ∧ next.data = job.data ∧
      next.options = job.options := by
  rcases environment_outlasts changed with
    same | ⟨job, earlier, outlasts⟩
  · exact ⟨next, same ▸ stored, rfl, rfl⟩
  · rw [stored] at outlasts
    cases outlasts with
    | kept _ data options => exact ⟨job, earlier, data, options⟩

end Environment

variable {config : AppConfig} {contract : Contract (machine config)}
  {pid : Nat} {command : Command} {before after : World}
  {outcome : Except Thrown command.Result}

theorem executes_agrees
    (execution : Executes contract pid command before outcome after)
    {part : Part} (other : command.writes part = false) :
    World.Agrees part before after := by
  obtain ⟨-, choice, -, executed⟩ := execution
  exact exec_agrees executed (of_decide_eq_false other)

end PaymentQueue
