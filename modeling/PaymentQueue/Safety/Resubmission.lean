import PaymentQueue.Outlines.Process
import PaymentQueue.Outlines.Submit
import PaymentQueue.Runtime.Runs

/-!
# Resubmissions are inert

The first submission of a payment has process number 0.  After its save any
number of further submissions of the same id may start, next to deliveries and
failure handlers that run one after another; nothing throws, crashes or
expires.  From the claim on the idempotency key exists in every state, and
`finalize` comes after the terminal save on every path, so a further submission
only reads: it changes nothing and ends in a conflict or in a replay of a
terminal record.
-/

namespace PaymentQueue.Resubmission

open Await

variable {config : AppConfig}

/-- The stored payment has a readable idempotency record, and a finalized one
is terminal. -/
structure Inv (id : PaymentId) (view : View) : Prop where
  claimed : view.payment ≠ none → view.claim ≠ none
  final : view.finalized = true → view.terminal = true
  keyed : ∀ record, view.payment = some record → record.id = id

/-- Neither the record nor the idempotency key changed. -/
structure Steady (before after : View) : Prop where
  stored : after.stored = before.stored
  key : after.key = before.key

structure Rely (pid : Nat) (task : Task) (before after : View) : Prop where
  first : pid = 0 → before.payment = none →
    after.payment = none ∧ after.key = before.key
  stored : before.payment ≠ none → after.payment ≠ none
  final : before.finalized = true → after.finalized = true
  worker : task.submits = false → before.payment ≠ none → Steady before after

structure Guarantee (id : PaymentId) (pid : Nat) (task : Task)
    (before after : World) : Prop where
  first : pid = 0 → (before.view id).payment ≠ none →
    Steady (before.view id) (after.view id)
  absent : pid ≠ 0 → (before.view id).payment = none →
    (after.view id).payment = none ∧
      (after.view id).key = (before.view id).key
  stored : (before.view id).payment ≠ none → (after.view id).payment ≠ none
  final : (before.view id).finalized = true →
    (after.view id).finalized = true
  inert : pid ≠ 0 → task.submits = true → after = before

/-- A further submission ends in a conflict, or in a replay of a completed or
dead-lettered payment. -/
def Concludes : Except Thrown Output → Prop
  | .error (.conflict _ _ _) => True
  | .ok (.submitted (.replayed record)) =>
      record.status = .completed ∨ record.status = .deadLetter
  | _ => False

def discipline (config : AppConfig) (id : PaymentId) :
    Discipline (paymentSystem config) where
  invariant := fun world => Inv id (world.view id)
  rely := fun pid task before after =>
    Rely pid task (before.view id) (after.view id)
  guarantee := Guarantee id
  allowed := fun _ _ _ choice _ => choice.faultless = true
  post := fun pid task output _ =>
    pid ≠ 0 → task.submits = true → Concludes output
  rest := fun pid thread _ =>
    match thread with
    | some (.crashed _) => False
    | some (.ended task output) =>
        pid ≠ 0 → task.submits = true → Concludes output
    | _ => True

theorem Steady.refl (view : View) : Steady view view :=
  ⟨rfl, rfl⟩

theorem Steady.trans {first second third : View}
    (left : Steady first second) (right : Steady second third) :
    Steady first third :=
  ⟨right.stored.trans left.stored, right.key.trans left.key⟩

section Steady

variable {before after : View} (steady : Steady before after)

include steady

theorem Steady.payment : after.payment = before.payment := by
  rw [View.payment, View.payment, steady.stored]

theorem Steady.terminal : after.terminal = before.terminal := by
  rw [View.terminal, View.terminal, steady.payment]

theorem Steady.claim : after.claim = before.claim := by
  rw [View.claim, View.claim, steady.key]

theorem Steady.finalized : after.finalized = before.finalized := by
  rw [View.finalized, View.finalized, steady.claim]

theorem Inv.preserved {id : PaymentId} (inv : Inv id before) : Inv id after := by
  constructor
  · rw [steady.payment, steady.claim]
    exact inv.claimed
  · rw [steady.finalized, steady.terminal]
    exact inv.final
  · rw [steady.payment]
    exact inv.keyed

theorem Steady.rely (pid : Nat) (task : Task) : Rely pid task before after := by
  refine ⟨fun _ missing => ⟨steady.payment.trans missing, steady.key⟩,
    fun stored => ?_, fun final => steady.finalized.trans final,
    fun _ _ => steady⟩
  rw [steady.payment]
  exact stored

end Steady

theorem Steady.guarantee {id : PaymentId} {before after : World}
    (steady : Steady (before.view id) (after.view id)) {pid : Nat} {task : Task}
    (role : pid = 0 ∨ task.submits = false) :
    Guarantee id pid task before after := by
  refine ⟨fun _ _ => steady, fun _ missing =>
    ⟨steady.payment.trans missing, steady.key⟩, fun stored => ?_,
    fun final => steady.finalized.trans final, fun further submits => ?_⟩
  · rw [steady.payment]
    exact stored
  · rcases role with first | worker
    · exact (further first).elim
    · rw [submits] at worker
      cases worker

theorem Rely.trans {pid : Nat} {task : Task} {first second third : View}
    (left : Rely pid task first second) (right : Rely pid task second third) :
    Rely pid task first third := by
  refine ⟨fun isFirst missing => ?_, fun stored => right.stored
    (left.stored stored), fun final => right.final (left.final final),
    fun worker stored => ?_⟩
  · obtain ⟨missing', same⟩ := left.first isFirst missing
    obtain ⟨missing'', same'⟩ := right.first isFirst missing'
    exact ⟨missing'', same'.trans same⟩
  · exact (left.worker worker stored).trans
      (right.worker worker (left.stored stored))

theorem Inv.stored_of_final {id : PaymentId} {view : View} (inv : Inv id view)
    (final : view.finalized = true) : view.payment ≠ none := by
  have terminal := inv.final final
  intro missing
  rw [View.terminal, missing] at terminal
  cases terminal

section Outlines

variable {id : PaymentId} {pid : Nat} {task : Task}

theorem faultless (command : Command) :
    Faultless ((discipline config id).contract pid task) command :=
  fun _ _ allowed => allowed

theorem unseen (role : pid = 0 ∨ task.submits = false) :
    Unseen ((discipline config id).contract pid task) id := by
  intro before after inv same
  have steady : Steady (before.view id) (after.view id) := by
    rw [same]
    exact .refl _
  exact ⟨inv.preserved steady, steady.guarantee role⟩

/-- What a delivery or a failure handler knows at each stage.  The stages that
only a failing command leads to are not reached. -/
def Knows : Stage → View → Prop
  | .idle, _ => True
  | .seen, view | .terminal, view | .failed _, view | .routed _, view
  | .completed _, view => view.payment ≠ none
  | .checked, view | .locked, view | .entered, view | .working, view
  | .declined, view | .charged _, view | .settled _, view =>
      view.payment ≠ none ∧ view.finalized = false
  | .recorded _, view | .buried _, view =>
      view.payment ≠ none ∧ view.finalized = false ∧ view.terminal = true
  | _, _ => False

def know (id : PaymentId) (stage : Stage) (world : World) : Prop :=
  Knows stage (world.view id)

variable {stage : Stage}

theorem Knows.steady {before after : View} (steady : Steady before after)
    (known : Knows stage before) : Knows stage after := by
  have still : before.payment ≠ none → after.payment ≠ none := by
    rw [steady.payment]
    exact fun stored => stored
  cases stage with
  | idle => exact trivial
  | seen | terminal | failed _ | routed _ | completed _ => exact still known
  | checked | locked | entered | working | declined | charged _
  | settled _ =>
      exact ⟨still known.1, steady.finalized.trans known.2⟩
  | recorded _ | buried _ =>
      exact ⟨still known.1, steady.finalized.trans known.2.1,
        steady.terminal.trans known.2.2⟩
  | unsettled _ | refunded _ _ | unrecorded _ | unsure _ | aborted =>
      exact known

theorem Knows.stored {view : View} (known : Knows stage view)
    (started : stage ≠ .idle) : view.payment ≠ none := by
  cases stage with
  | idle => exact (started rfl).elim
  | seen | terminal | failed _ | routed _ | completed _ => exact known
  | unsettled _ | refunded _ _ | unrecorded _ | unsure _ | aborted =>
      exact known.elim
  | _ => exact known.1

private theorem know_stable (worker : task.submits = false) (stage : Stage) :
    Stable ((discipline config id).contract pid task) (know id stage) := by
  intro first second rely _ known
  by_cases started : stage = .idle
  · subst started
    exact trivial
  · exact Knows.steady (rely.worker worker (Knows.stored known started)) known

section Worker

variable (worker : task.submits = false) (further : pid ≠ 0)

include worker further

/-- A write of a delivery or a failure handler on a stored payment. -/
theorem keeps_worker {before after : World}
    (known : (before.view id).payment ≠ none)
    (inv : Inv id (after.view id))
    (stored : (after.view id).payment ≠ none)
    (final : (before.view id).finalized = true →
      (after.view id).finalized = true) :
    Keeps ((discipline config id).contract pid task) before after := by
  refine ⟨inv, fun first => (further first).elim,
    fun _ missing => (known missing).elim, fun _ => stored, final, ?_⟩
  intro _ submits
  rw [worker] at submits
  cases submits

omit further in
/-- Commands that write neither the record nor the key. -/
theorem moves_steady {command : Command}
    {result : Except Thrown command.Result → World → Prop}
    (payments : command.writes .payments = false)
    (idempotency : command.writes .idempotency = false)
    (reached : ∀ value after, Knows stage (after.view id) →
      result (.ok value) after) :
    Moves ((discipline config id).contract pid task) pid command
      (know id stage) result := by
  apply (faultless command).moves
  intro before value after known execution
  have samePayments : after.payments = before.payments :=
    executes_agrees execution payments
  have sameIdempotency : after.idempotency = before.idempotency :=
    executes_agrees execution idempotency
  have steady : Steady (before.view id) (after.view id) :=
    ⟨congrFun samePayments id, congrFun sameIdempotency id⟩
  exact ⟨⟨execution.invariant.preserved steady,
    steady.guarantee (.inr worker)⟩,
    reached value after (Knows.steady steady known)⟩

/-- A save of an attempt: a terminal record, or one of a payment that is not
finalized. -/
theorem moves_save {record : PaymentRecord}
    {result : Except Thrown Unit → World → Prop} (started : stage ≠ .idle)
    (same : record.id = id)
    (justified : record.status.terminal = true ∨
      ∀ view, Knows stage view → view.finalized = false)
    (reached : ∀ view after, Knows stage view →
      after.view id = { view with stored := some (.parsed record) } →
      result (.ok ()) after) :
    Moves ((discipline config id).contract pid task) pid
      (.storage (.hsetPayment id record)) (know id stage) result := by
  apply (faultless _).moves_storage
  intro before known inv _
  have view := @view_hsetPayment id pid before record
  have stored := Knows.stored known started
  refine ⟨keeps_worker worker further stored ?_ ?_ ?_,
    reached _ _ known view⟩
  · rw [view]
    refine ⟨fun _ => inv.claimed stored, ?_, ?_⟩
    · intro final
      rcases justified with terminal | unfinalized
      · exact terminal
      · exact Bool.noConfusion ((unfinalized _ known).symm.trans final)
    · intro saved found
      obtain rfl := Option.some.inj found
      exact same
  · rw [view]
    exact nofun
  · rw [view]
    exact fun final => final

/-- A write of the idempotency record while the payment is not finalized; a
final record is written under a terminal payment. -/
theorem moves_setIdempotency {record : IdempotencyRecord} {ttlSeconds : Nat}
    {result : Except Thrown Unit → World → Prop} (started : stage ≠ .idle)
    (unfinalized : ∀ view, Knows stage view → view.finalized = false)
    (justified : record.state.final = true →
      ∀ view, Knows stage view → view.terminal = true)
    (reached : ∀ view key after, Knows stage view →
      key.value = .parsed record →
      after.view id = { view with key := some key } → result (.ok ()) after) :
    Moves ((discipline config id).contract pid task) pid
      (.storage (.setIdempotency id record ttlSeconds)) (know id stage)
      result := by
  apply (faultless _).moves_storage
  intro before known inv _
  have view := @view_setIdempotency id pid before record ttlSeconds
  have stored := Knows.stored known started
  refine ⟨keeps_worker worker further stored ?_ ?_ ?_,
    reached _ _ _ known rfl view⟩
  · rw [view]
    refine ⟨fun _ => nofun, ?_, inv.keyed⟩
    intro final
    have terminal : (before.view id).terminal = true :=
      justified final _ known
    exact terminal
  · rw [view]
    exact stored
  · intro final
    exact Bool.noConfusion ((unfinalized _ known).symm.trans final)

private theorem moves_book {command : Command}
    (active : stage.inSaga = true ∨ stage.closing.isSome = true)
    (allowed : bookkeeping id stage command) :
    Moves ((discipline config id).contract pid task) pid command
      (know id stage) (fun _ => know id stage) := by
  have started : stage ≠ .idle := by
    rintro rfl
    simp [Stage.inSaga, Stage.closing] at active
  rcases bookkeeping_cases allowed with ⟨record, rfl, fits⟩ | invisible
  · apply moves_save worker further started fits.id_eq
    · rcases fits with ⟨inSaga, -⟩ | ⟨transactionId, -, carried⟩
      · right
        intro view known
        cases stage with
        | working | declined | charged _ | settled _ => exact known.2
        | unsettled _ | refunded _ _ => exact known.elim
        | _ => cases inSaga
      · left
        rw [carried.status]
        rfl
    · intro view after known saved
      show Knows stage (after.view id)
      rw [saved]
      rcases fits with ⟨inSaga, -⟩ | ⟨transactionId, closing, -⟩
      · cases stage with
        | working | declined | charged _ | settled _ =>
            exact ⟨by rintro ⟨⟩, known.2⟩
        | unsettled _ | refunded _ _ => exact known.elim
        | _ => cases inSaga
      · cases stage with
        | completed _ => rintro ⟨⟩
        | unrecorded _ | unsure _ => exact known.elim
        | _ => cases closing
  · exact (unseen (.inr worker)).moves (Knows stage) invisible
      fun _ _ known => known

/-- The terminal handling of a payment that is not finalized. -/
theorem burial (started : stage ≠ .idle)
    (unfinalized : ∀ view, Knows stage view → view.finalized = false) :
    BurialOutline ((discipline config id).contract pid task) pid id (know id)
      stage where
  stable := know_stable worker
  lookup := by
    apply (faultless _).moves_storage
    intro before known inv _
    refine ⟨unseen (.inr worker) _ _ inv rfl, ?_⟩
    exact latest_of_found inv.keyed known fun _ => Knows.stored known started
  bury := by
    intro record reason same status _
    have terminal : record.status.terminal = true := by rw [status]; rfl
    apply moves_save worker further started same (.inl terminal)
    intro view after known saved
    show Knows (.buried reason) (after.view id)
    rw [saved]
    exact ⟨by rintro ⟨⟩, unfinalized view known, terminal⟩
  readBuried := fun reason => moves_steady worker rfl rfl
    fun _ _ known => known
  fail := by
    intro reason previous now
    refine moves_setIdempotency worker further (by rintro ⟨⟩)
      (fun _ known => known.2.1) (fun _ _ known => known.2.2) ?_
    intro view key after known _ written
    show (after.view id).payment ≠ none
    rw [written]
    exact known.1
  audit := fun reason event => moves_steady worker rfl rfl
    fun _ _ known => known
  emit := fun reason event => moves_steady worker rfl rfl
    fun _ _ known => known
  ready := fun reason => moves_steady worker rfl rfl
    fun _ _ known => known
  route := fun entry _ => moves_steady worker rfl rfl
    fun _ _ known => known

private theorem processOutline :
    ProcessOutline ((discipline config id).contract pid task) pid id False
      (know id) (fun _ _ => True) where
  stable := know_stable worker
  faulty := by
    intro command before error after _ execution
    obtain ⟨value, impossible⟩ := (faultless command).succeeds execution
    cases impossible
  book := fun stage command active allowed =>
    moves_book worker further active allowed
  charge := fun payment correlationId _ =>
    moves_steady worker rfl rfl fun outcome after known => by
      cases outcome <;> exact known
  append := fun entry _ => moves_steady worker rfl rfl
    fun _ _ known => known
  refund := fun _ _ _ _ _ impossible => impossible.elim
  load := by
    apply (faultless _).moves_storage
    intro before _ inv _
    refine ⟨unseen (.inr worker) _ _ inv rfl, ?_⟩
    show Loads id (know id) (fun _ _ => True) (before.view id).payment before
    cases found : (before.view id).payment with
    | none => exact fun _ => trivial
    | some record =>
        refine ⟨inv.keyed record found, ?_⟩
        show (before.view id).payment ≠ none
        rw [found]
        rintro ⟨⟩
  check := by
    apply (faultless _).moves_storage
    intro before stored inv _
    refine ⟨unseen (.inr worker) _ _ inv rfl, ?_⟩
    rw [Continues, StorageCommand.effect, claim_read, Checks]
    split
    · exact fun _ => trivial
    case isFalse unfinished => exact ⟨stored, eq_false_of_ne_true unfinished⟩
  lock := moves_steady worker rfl rfl fun acquired after known => by
    cases acquired with
    | true => exact known
    | false => exact fun _ => trivial
  readLocked := moves_steady worker rfl rfl fun _ _ known => known
  enter := by
    intro claimedAt now
    refine moves_setIdempotency worker further (by rintro ⟨⟩)
      (fun _ known => known.2) (by rintro ⟨⟩) ?_
    intro view key after known parsed written
    show Knows .entered (after.view id)
    rw [written]
    refine ⟨known.1, ?_⟩
    simp [View.finalized, View.claim, parsed, Stored.parse?, readsFinal,
      IdempotencyService.processingRecord, IdempotencyState.final]
  begin := by
    intro record carried
    rw [carried.id]
    refine moves_save worker further (by rintro ⟨⟩) carried.id
      (.inr fun _ known => known.2) ?_
    intro view after known saved
    show Knows .working (after.view id)
    rw [saved]
    exact ⟨by rintro ⟨⟩, known.2⟩
  record := by
    intro record transactionId carried
    have terminal : record.status.terminal = true := by
      rw [carried.status]
      rfl
    refine moves_save worker further (by rintro ⟨⟩) carried.id (.inl terminal) ?_
    intro view after known saved
    show Knows (.recorded transactionId) (after.view id)
    rw [saved]
    exact ⟨by rintro ⟨⟩, known.2, terminal⟩
  readRecorded := fun transactionId => moves_steady worker rfl rfl
    fun _ _ known => known
  complete := by
    intro transactionId previous now
    refine moves_setIdempotency worker further (by rintro ⟨⟩)
      (fun _ known => known.2.1) (fun _ _ known => known.2.2) ?_
    intro view key after known _ written
    show (after.view id).payment ≠ none
    rw [written]
    exact known.1
  burial := by
    rintro stage failure (rfl | ⟨-, transactionId, succeeded, rfl⟩)
    · exact burial worker further (by rintro ⟨⟩) fun _ known => known.2
    · exact burial worker further (by rintro ⟨⟩) fun _ known => known.elim
  release := fun stage result explained => moves_steady worker rfl rfl
    fun _ _ _ => trivial

private theorem handlerOutline :
    HandlerOutline ((discipline config id).contract pid task) pid id (know id)
      (fun _ _ => True) where
  toBurialOutline := burial worker further (by rintro ⟨⟩) fun _ known => known.2
  load := by
    apply (faultless _).moves_storage
    intro before _ inv _
    refine ⟨unseen (.inr worker) _ _ inv rfl, ?_⟩
    show Handles id (know id) (fun _ _ => True) (before.view id).payment before
    cases found : (before.view id).payment with
    | none => exact trivial
    | some record =>
        rw [Handles]
        split
        · exact trivial
        case isFalse unfinished =>
          refine ⟨inv.keyed record found, ?_, ?_⟩
          · rw [found]
            rintro ⟨⟩
          · by_contra final
            have terminal := inv.final (eq_true_of_ne_false final)
            rw [View.terminal, found] at terminal
            exact unfinished terminal
  routed := fun _ _ _ => trivial
  terminal := fun _ _ => trivial
  aborted := fun _ _ impossible => impossible.elim

end Worker

section First

variable {input : CreatePaymentInput}

/-- What the first submission knows: until its save nobody else has touched
the payment. -/
def FirstKnows : SubmitStage → View → Prop
  | .idle, view | .stale, view => view.payment = none ∧ view.key = none
  | .claimed, view => view.payment = none ∧ view.claim ≠ none
  | .saved, _ | .queued, _ => True
  | _, _ => False

def firstKnow (id : PaymentId) (stage : SubmitStage) (world : World) : Prop :=
  FirstKnows stage (world.view id)

private theorem firstKnow_stable (stage : SubmitStage) :
    Stable ((discipline config id).contract 0 (.submit input))
      (firstKnow id stage) := by
  intro first second rely _ known
  cases stage with
  | idle | stale =>
      obtain ⟨missing, same⟩ := rely.first rfl known.1
      exact ⟨missing, same.trans known.2⟩
  | claimed =>
      obtain ⟨missing, same⟩ := rely.first rfl known.1
      refine ⟨missing, ?_⟩
      rw [View.claim, same]
      exact known.2
  | saved | queued => exact trivial
  | replaying | unqueued => exact known

/-- A write of the first submission before the payment is stored. -/
theorem keeps_first {before after : World}
    (missing : (before.view id).payment = none)
    (inv : Inv id (before.view id)) (inv' : Inv id (after.view id)) :
    Keeps ((discipline config id).contract 0 (.submit input)) before after := by
  refine ⟨inv', fun _ stored => (stored missing).elim,
    fun further => (further rfl).elim, fun stored => (stored missing).elim,
    fun final => (inv.stored_of_final final missing).elim,
    fun further => (further rfl).elim⟩

theorem first_invisible {command : Command} {stage : SubmitStage}
    {result : Except Thrown command.Result → World → Prop}
    (invisible : command.invisible = true)
    (reached : ∀ value after, firstKnow id stage after →
      result (.ok value) after) :
    Moves ((discipline config id).contract 0 (.submit input)) 0 command
      (firstKnow id stage) result :=
  (unseen (.inl rfl)).moves_faultless (faultless command) (FirstKnows stage)
    invisible reached

private theorem first_claim (now : Time) :
    Moves ((discipline config id).contract 0 (.submit input)) 0
      (.storage (.setNxIdempotency id
        (IdempotencyService.processingRecord id now now)
        config.leaseTtlSeconds)) (firstKnow id .idle)
      (Continues (fun acquired =>
        firstKnow id (if acquired = true then .claimed else .idle))
        (fun _ _ => True : Except Thrown SubmitPaymentResult → World →
          Prop)) := by
  apply (faultless _).moves_storage
  rintro before ⟨missing, unclaimed⟩ inv -
  rcases setNxIdempotency_cases id 0 before
    (IdempotencyService.processingRecord id now now)
    config.leaseTtlSeconds with ⟨taken, -⟩ | ⟨-, acquired, view⟩
  · exact (taken unclaimed).elim
  · rw [Continues, acquired]
    refine ⟨keeps_first missing inv ?_, ?_⟩
    · rw [view]
      exact ⟨fun _ => by rintro ⟨⟩, by rintro ⟨⟩, inv.keyed⟩
    · show (World.view _ id).payment = none ∧ (World.view _ id).claim ≠ none
      rw [view]
      exact ⟨missing, by rintro ⟨⟩⟩

private theorem firstOutline (input : CreatePaymentInput) :
    SubmitOutline ((discipline config input.id).contract 0 (.submit input)) 0
      input (firstKnow input.id) (fun _ _ => True) where
  stable := fun stage _ => firstKnow_stable stage
  claim := first_claim
  readClaim := by
    apply (faultless _).moves_storage
    rintro before ⟨missing, unclaimed⟩ inv -
    refine ⟨unseen (.inl rfl) _ _ inv rfl, ?_⟩
    have nothing : before.idempotency input.id = none := unclaimed
    simp only [Continues, StorageCommand.effect, nothing, Option.map_none,
      Option.bind_none]
    exact ⟨missing, unclaimed⟩
  lookup := by
    apply first_invisible rfl
    intro doc after known
    exact SubmitOutline.continues_finds known known (fun _ => trivial)
      (.ok doc)
  recover := by
    apply (faultless _).moves_storage
    rintro before ⟨missing, unclaimed⟩ inv -
    refine ⟨keeps_first missing inv ?_, ?_⟩
    · rw [view_delIdempotency]
      exact ⟨fun stored => (stored missing).elim, by rintro ⟨⟩, inv.keyed⟩
    · show (World.view _ input.id).payment = none ∧
        (World.view _ input.id).key = none
      rw [view_delIdempotency]
      exact ⟨missing, rfl⟩
  replay := fun _ _ _ impossible => impossible.elim
  conflict := fun _ _ _ _ => trivial
  audit := fun event => first_invisible rfl fun _ _ known => known
  save := by
    intro now
    apply (faultless _).moves_storage
    rintro before ⟨missing, claimed⟩ inv -
    refine ⟨keeps_first missing inv ?_, trivial⟩
    rw [view_hsetPayment]
    refine ⟨fun _ => claimed, ?_, ?_⟩
    · intro final
      exact (inv.stored_of_final final missing).elim
    · intro record found
      obtain rfl := Option.some.inj found
      rfl
  emit := fun event => first_invisible rfl fun _ _ known => known
  ready := first_invisible rfl fun _ _ known => known
  add := fun now delay => first_invisible rfl fun _ _ known => known
  release := fun _ _ _ impossible => impossible.elim
  created := fun _ _ _ => trivial

end First

variable {input : CreatePaymentInput}

/-- What a further submission knows: the payment is stored, so no lease looks
stale to it. -/
def furtherKnow (id : PaymentId) : SubmitStage → World → Prop
  | .idle, world => (world.view id).payment ≠ none
  | .replaying, world =>
      (world.view id).payment ≠ none ∧ (world.view id).finalized = true
  | _, _ => False

private theorem furtherKnow_stable (stage : SubmitStage) :
    Stable ((discipline config id).contract pid (.submit input))
      (furtherKnow id stage) := by
  intro first second rely _ known
  cases stage with
  | idle => exact rely.stored known
  | replaying => exact ⟨rely.stored known.1, rely.final known.2⟩
  | stale | claimed | saved | queued | unqueued => exact known

private theorem keeps_same {before : World} (inv : Inv id (before.view id)) :
    Keeps ((discipline config id).contract pid (.submit input)) before
      before :=
  ⟨inv, fun _ _ => .refl _, fun _ missing => ⟨missing, rfl⟩,
    fun stored => stored, fun final => final, fun _ _ => rfl⟩

theorem further_reads {command : StorageCommand} {fact : World → Prop}
    {result : Except Thrown command.Result → World → Prop}
    (reads : ∀ before, Inv id (before.view id) → fact before →
      (command.effect pid before).2 = before)
    (reached : ∀ before, Inv id (before.view id) → fact before →
      result (.ok (command.effect pid before).1) before) :
    Moves ((discipline config id).contract pid (.submit input)) pid
      (.storage command) fact result := by
  apply (faultless _).moves_storage
  intro before known inv _
  rw [reads before inv known]
  exact ⟨keeps_same inv, reached before inv known⟩

/-- How a further submission ends. -/
def furtherEnds (outcome : Except Thrown SubmitPaymentResult) (_ : World) :
    Prop :=
  Concludes (outcome.map Output.submitted)

/-- The key exists, so `SET NX` leaves it alone. -/
theorem claim_refused {before : World} (inv : Inv id (before.view id))
    (stored : (before.view id).payment ≠ none) (record : IdempotencyRecord)
    (ttlSeconds : Nat) :
    (StorageCommand.setNxIdempotency id record ttlSeconds).effect pid before =
      (false, before) := by
  rcases setNxIdempotency_cases id pid before record ttlSeconds with
    ⟨-, unchanged⟩ | ⟨free, -, -⟩
  · exact unchanged
  · have claimed := inv.claimed stored
    rw [View.claim, free] at claimed
    exact (claimed rfl).elim

private theorem furtherOutline (pid : Nat) (input : CreatePaymentInput) :
    SubmitOutline ((discipline config input.id).contract pid (.submit input))
      pid input (furtherKnow input.id) furtherEnds where
  stable := fun stage _ => furtherKnow_stable stage
  claim := by
    intro now
    apply further_reads
    · intro before inv stored
      rw [claim_refused inv stored]
    · intro before inv stored
      rw [claim_refused inv stored]
      exact stored
  readClaim := by
    apply further_reads (fun _ _ _ => rfl)
    intro before inv stored
    simp only [Continues, SubmitOutline.Reads, StorageCommand.effect,
      claim_read]
    split
    case isTrue final => exact ⟨stored, final⟩
    case isFalse => exact stored
  lookup := by
    apply further_reads (fun _ _ _ => rfl)
    intro before inv stored
    show SubmitOutline.Finds (furtherKnow input.id)
      (before.view input.id).payment before
    obtain ⟨record, found⟩ := Option.ne_none_iff_exists'.mp stored
    rw [found]
    exact stored
  recover := fun _ _ _ impossible => impossible.elim
  replay := by
    apply further_reads (fun _ _ _ => rfl)
    rintro before inv ⟨stored, final⟩
    show SubmitOutline.Replays input.id furtherEnds
      (before.view input.id).payment before
    obtain ⟨record, found⟩ := Option.ne_none_iff_exists'.mp stored
    have terminal := inv.final final
    rw [View.terminal, found] at terminal
    rw [found]
    show record.status = .completed ∨ record.status = .deadLetter
    cases status : record.status <;>
      simp_all [PaymentStatus.terminal]
  conflict := fun _ _ _ _ => trivial
  audit := fun _ _ _ _ impossible => impossible.elim
  save := fun _ _ _ _ impossible => impossible.elim
  emit := fun _ _ _ _ impossible => impossible.elim
  ready := fun _ _ _ impossible => impossible.elim
  add := fun _ _ _ _ _ impossible => impossible.elim
  release := fun _ _ _ impossible => impossible.elim
  created := fun _ _ impossible => impossible.elim

end Outlines

/-- Further submissions start after the first one's save; deliveries and
failure handlers are started one after another; nothing throws, crashes or
expires. -/
def admits (id : PaymentId) (state : PaymentConfig config) :
    PaymentLabel config → Bool
  | .spawn (.submit input) =>
      decide (input.id = id) && (state.world.payment id).isSome
  | .spawn task => decide (task.paymentId = id) && !busy state
  | label => calm id state label

/-- Process 0 is a submission, and deliveries and handlers take turns. -/
structure Turns (state : PaymentConfig config) : Prop where
  first : ∃ input, state.taskOf 0 = some (.submit input)
  sequential : Sequential state

private theorem turns_step {id : PaymentId} {state next : PaymentConfig config}
    {label : PaymentLabel config} (turns : Turns state)
    (admitted : admits id state label = true)
    (taken : (paymentSystem config).step label state = some next) :
    Turns next := by
  obtain ⟨⟨input, first⟩, sequential⟩ := turns
  constructor
  · refine ⟨input, ?_⟩
    rcases System.taskOf_step taken 0 with same | ⟨task, -, place, -⟩
    · exact same.trans first
    · rw [Config.taskOf, List.getElem?_eq_none (by omega)] at first
      cases first
  · refine sequential_step sequential ?_ taken
    rintro task rfl worker
    cases task with
    | submit input => cases worker
    | process job =>
        simp only [admits, Bool.and_eq_true, Bool.not_eq_true'] at admitted
        exact admitted.2
    | handleJobFailure jobData error =>
        simp only [admits, Bool.and_eq_true, Bool.not_eq_true'] at admitted
        exact admitted.2

theorem Turns.worker {state : PaymentConfig config} (turns : Turns state)
    {pid : Nat} {task : Task}
    {program : Program signature (Except Thrown Output)}
    (found : state.threads[pid]? = some (.running task program))
    (worker : task.submits = false) : pid ≠ 0 := by
  rintro rfl
  obtain ⟨input, first⟩ := turns.first
  have same := (Config.taskOf_of_running found).symm.trans first
  obtain rfl := Option.some.inj same
  cases worker

theorem Turns.fresh {state : PaymentConfig config} (turns : Turns state) :
    state.threads.length ≠ 0 := by
  intro empty
  obtain ⟨input, first⟩ := turns.first
  rw [Config.taskOf, List.getElem?_eq_none (by omega)] at first
  cases first

theorem sound (id : PaymentId) :
    (discipline config id).Sound (fun state label =>
      Turns state ∧ admits id state label = true) where
  relyRefl := fun pid task _ => (Steady.refl _).rely pid task
  relyTrans := fun _ _ _ _ _ left right => left.trans right
  spawns := by
    rintro state task holds ⟨turns, admitted⟩
    have further := turns.fresh
    cases task with
    | submit input =>
        simp only [admits, Bool.and_eq_true, decide_eq_true_eq] at admitted
        obtain ⟨rfl, stored⟩ := admitted
        refine (furtherOutline _ input).safe_code ?_ ?_ _
        · exact Option.isSome_iff_ne_none.mp stored
        · exact fun outcome final ended _ _ => ended
    | process job =>
        simp only [admits, Bool.and_eq_true, decide_eq_true_eq] at admitted
        exact (processOutline rfl further).safe_code admitted.1 trivial
          (fun _ _ _ _ submits => by cases submits) _
    | handleJobFailure jobData error =>
        simp only [admits, Bool.and_eq_true, decide_eq_true_eq] at admitted
        exact (handlerOutline rfl further).safe_code admitted.1 trivial error
          (fun _ _ _ _ submits => by cases submits) state.world.now
  permits := fun _ _ _ _ _ _ _ admitted _ => admitted.2
  interferes := by
    rintro state pid choice task program other task' program' next holds
      ⟨turns, -⟩ - found different found' - guarantee
    refine ⟨?_, guarantee.stored, guarantee.final, ?_⟩
    · rintro rfl missing
      exact guarantee.absent different.symm missing
    · intro worker stored
      cases submits : task.submits with
      | false =>
          exact (different (turns.sequential other pid task' task program'
            program found' found worker submits)).elim
      | true =>
          by_cases first : pid = 0
          · exact guarantee.first first stored
          · rw [guarantee.inert first submits]
            exact .refl _
  rests := fun _ _ _ _ _ _ _ _ _ _ _ _ _ _ _ _ resting => resting
  ends := fun _ _ _ _ _ concluded => concluded
  crashes := fun _ _ _ _ _ admitted _ => by cases admitted.2
  environments := by
    intro state event after holds admitted changed
    have same : after.view id = state.world.view id :=
      view_environment admitted.2 changed
    refine ⟨?_, ?_, fun _ _ _ resting => resting⟩
    · show Inv id (after.view id)
      rw [same]
      exact holds.invariant
    · intro pid task program _
      show Rely pid task (state.world.view id) (after.view id)
      rw [same]
      exact (Steady.refl _).rely pid task

section Bounds

open PaymentService

variable {locals : Type}

private theorem command_within (command : Command) :
    Async.Within 1 (awaitCommand command : Async locals _) :=
  @Async.within_await signature locals command

private theorem claim_within (paymentId : PaymentId) :
    Async.Within 2 (IdempotencyService.claim config paymentId :
      Async locals ClaimResult) := by
  refine (Async.within_dateNow.bind fun now =>
    (Async.within_await _).bind fun acquired => ?_ :
    Async.Within (0 + (1 + 1)) _)
  cases acquired with
  | true => exact (Async.within_pure _).mono (by omega)
  | false =>
      refine (((Async.within_await _).bind fun raw =>
        Async.within_pure _).bind fun existing => ?_ :
        Async.Within (1 + 0 + 0) _)
      cases existing with
      | none => exact Async.within_pure _
      | some existing =>
          show Async.Within 0 (if existing.state = .processing then _ else _)
          split
          · exact Async.within_pure _
          · exact Async.within_pure _

theorem storeGet_within (paymentId : PaymentId) :
    Async.Within 1 (PaymentStore.get paymentId :
      Async locals (Option PaymentRecord)) :=
  (Async.within_await _).bind fun _ => Async.within_pure _

private theorem claimOrRecover_within (paymentId : PaymentId) :
    Async.Within 6 (claimOrRecover config paymentId :
      Async locals ClaimResult) := by
  refine ((claim_within paymentId).bind fun claim => ?_ :
    Async.Within (2 + 4) _)
  cases claim with
  | new => exact (Async.within_pure _).mono (by omega)
  | replayed record => exact (Async.within_pure _).mono (by omega)
  | conflict record =>
      refine ((storeGet_within paymentId).bind fun existing => ?_ :
        Async.Within (1 + 3) _)
      cases existing with
      | some payment => exact (Async.within_pure _).mono (by omega)
      | none =>
          exact ((Async.within_await _).bind fun _ => claim_within paymentId :
            Async.Within (1 + 2) _)

private theorem audit_within (paymentId : PaymentId) (type : AuditEventType)
    (detail : Detail) :
    Async.Within 1 (AuditLogService.record paymentId type detail :
      Async locals Unit) := by
  refine (Async.within_dateNow.bind fun now => ?_ : Async.Within (0 + 1) _)
  exact command_within _

private theorem emit_within (event : Time → AppEvent) :
    Async.Within 1 (EventBus.emit event : Async locals Unit) := by
  refine (Async.within_dateNow.bind fun now => ?_ : Async.Within (0 + 1) _)
  exact command_within _

private theorem enqueue_within (input : QueueManager.EnqueuePaymentJobInput) :
    Async.Within 2 (QueueManager.enqueue input : Async locals Unit) :=
  (Async.within_await _).bind fun _ => Async.within_await _

private theorem create_within (input : CreatePaymentInput) :
    Async.Within 6 (create input : Async locals SubmitPaymentResult) := by
  refine (Async.within_dateNow.bind fun now => ?_ : Async.Within (0 + 6) _)
  refine ((audit_within _ _ _).bind fun _ => ?_ : Async.Within (1 + 5) _)
  refine ((Async.within_await _).bind fun _ => ?_ : Async.Within (1 + 4) _)
  refine ((emit_within _).bind fun _ => ?_ : Async.Within (1 + 3) _)
  refine (Async.within_dateNow.bind fun submittedAt => ?_ :
    Async.Within (0 + 3) _)
  refine (Async.Within.bind ?_ fun _ => Async.within_pure _ :
    Async.Within (3 + 0) _)
  refine ((enqueue_within _).tryCatch fun error => ?_ : Async.Within (2 + 1) _)
  exact ((Async.within_await _).bind fun _ => Async.within_throw _ :
    Async.Within (1 + 0) _)

/-- A submission awaits at most twelve commands. -/
theorem submit_within (input : CreatePaymentInput) :
    Async.Within 12 (submit config input :
      Async locals SubmitPaymentResult) := by
  refine ((claimOrRecover_within input.id).bind fun claim => ?_ :
    Async.Within (6 + 6) _)
  cases claim with
  | new => exact create_within input
  | replayed record =>
      refine ((storeGet_within input.id).bind fun existing => ?_ :
        Async.Within (1 + 5) _)
      cases existing with
      | some payment => exact (Async.within_pure _).mono (by omega)
      | none => exact (Async.within_throw _).mono (by omega)
  | conflict record =>
      exact ((storeGet_within input.id).bind fun existing =>
        (Async.within_throw _).mono (by omega) : Async.Within (1 + 5) _)

end Bounds

/-- Nobody has submitted the payment. -/
structure Unsubmitted (id : PaymentId) (world : World) : Prop where
  payment : world.payments id = none
  key : world.idempotency id = none

private theorem turns_submitted (input : CreatePaymentInput) (world : World) :
    Turns (submitted input world : PaymentConfig config) where
  first := ⟨input, by simp [Config.taskOf, submitted]⟩
  sequential := sequential_submitted input world

def Bounded (task : Task) (program : Program signature (Except Thrown Output)) :
    Prop :=
  task.submits = true → program.Within 12

private theorem bounded_code (task : Task) (time : Time) :
    Bounded task ((paymentSystem config).code task time) := by
  intro submits
  cases task with
  | submit input =>
      have body : Async.Within 12 ((Task.submit input).body config) :=
        (submit_within input).bind fun _ => Async.within_pure _
      exact body.start time
  | process job => cases submits
  | handleJobFailure jobData error => cases submits

/-- Every submission that runs has at most twelve awaits left. -/
theorem running_bounded {input : CreatePaymentInput} {world : World}
    {state : PaymentConfig config}
    {admits : PaymentConfig config → PaymentLabel config → Prop}
    (reached : (paymentSystem config).Reaches admits (submitted input world)
      state) :
    ∀ (pid : Nat) task program,
      state.threads[pid]? = some (.running task program) →
      Bounded task program := by
  refine System.running_of_reaches reached ?_ bounded_code ?_
  · intro pid task program found
    have member := List.mem_singleton.mp (List.mem_of_getElem? found)
    obtain ⟨rfl, rfl⟩ := System.resume_eq_running member.symm
    exact bounded_code (.submit input) world.now
  · rintro task earlier program bounded
      ⟨command, resume, time, outcome, rfl, rfl⟩ submits
    have left : (resume time outcome).Within 11 := bounded submits time outcome
    exact left.mono (Nat.le_succ 11)

/-- A further submission is running, with a bounded number of awaits left, or
it has ended in a conflict or in a replay of a terminal record; and none of its
steps changes anything. -/
theorem resubmission_inert (config : AppConfig) (input : CreatePaymentInput)
    (world : World) (unsubmitted : Unsubmitted input.id world)
    (state : PaymentConfig config)
    (reached : (paymentSystem config).Reaches
      (fun state label => admits input.id state label = true)
      (submitted input world) state)
    (pid : Nat) (further : pid ≠ 0) (input' : CreatePaymentInput)
    (resubmitted : state.taskOf pid = some (.submit input')) :
    ((∃ program, state.threads[pid]? =
        some (.running (.submit input') program) ∧ program.Within 12) ∨
      ∃ output, state.threads[pid]? =
        some (.ended (.submit input') output) ∧ Concludes output) ∧
    ∀ choice next, admits input.id state (.run pid choice) = true →
      (paymentSystem config).step (.run pid choice) state = some next →
      next.world = state.world := by
  have nothing : (world.view input.id).stored = none := unsubmitted.payment
  have missing : (world.view input.id).payment = none := by
    rw [View.payment, nothing]
    rfl
  have unclaimed : (world.view input.id).key = none := unsubmitted.key
  have inv : Inv input.id (world.view input.id) := by
    refine ⟨fun stored => (stored missing).elim, ?_, ?_⟩
    · intro final
      simp [View.finalized, View.claim, unclaimed, readsFinal] at final
    · intro record found
      rw [missing] at found
      cases found
  have start : (discipline config input.id).Holds (submitted input world) :=
    (sound input.id).holds_singleton (.submit input) inv (fun _ => trivial)
      ((firstOutline input).safe_code ⟨missing, unclaimed⟩
        (fun _ _ _ first => (first rfl).elim) _)
  obtain ⟨turns, turning⟩ := reached.strengthen (turns_submitted input world)
    fun _ _ _ turns admitted taken => turns_step turns admitted taken
  have holds := (sound input.id).reaches start turning
  constructor
  · have obligation := holds.threads pid
    obtain ⟨thread, found, tasked⟩ := Option.map_eq_some_iff.mp resubmitted
    rw [found] at obligation ⊢
    cases thread with
    | running task program =>
        cases tasked
        exact .inl ⟨program, rfl, running_bounded reached pid _ program found
          rfl⟩
    | ended task output =>
        cases tasked
        exact .inr ⟨output, rfl, obligation further rfl⟩
    | crashed task => exact obligation.elim
  · intro choice next admitted taken
    obtain ⟨task, program, program', found, -, -, guarantee, -⟩ :=
      (sound input.id).run holds ⟨turns, admitted⟩ taken
    have same := (Config.taskOf_of_running found).symm.trans resubmitted
    obtain rfl := Option.some.inj same
    exact guarantee.inert further rfl

private theorem unsubmitted_empty : Unsubmitted "p1" (World.empty 0) :=
  ⟨rfl, rfl⟩

/-- A further submission overlaps the whole attempt: it claims before the
attempt has started and replays the completed payment. -/
def overlapping : List (PaymentLabel .default) :=
  runs 0 6 ++ [.spawn (.submit (submission "adyen" 0))] ++ runs 1 1 ++
    [.spawn (.process (delivery 0))] ++ runs 2 11 ++ [accepts 2 "tx1"] ++
    runs 2 13 ++ runs 1 2

theorem resubmission_inert_overlapping :
    ∃ (state : PaymentConfig .default) (output : Except Thrown Output),
      state.threads[1]? =
        some (.ended (.submit (submission "adyen" 0)) output) ∧
      Concludes output := by
  obtain ⟨state, reached, checked⟩ := exists_of_replay
    (paymentSystem .default).step (admits "p1") overlapping
    (submitted (submission "stripe" 0) (World.empty 0))
    (fun state => decide
      (state.taskOf 1 = some (.submit (submission "adyen" 0))) &&
      !(state.threads[1]?.any Thread.isRunning))
    (by decide +kernel)
  simp only [Bool.and_eq_true, decide_eq_true_eq, Bool.not_eq_true']
    at checked
  obtain ⟨tasked, ended⟩ := checked
  obtain ⟨⟨program, running, -⟩ | concluded, -⟩ :=
    resubmission_inert .default (submission "stripe" 0) (World.empty 0)
      unsubmitted_empty state reached 1 (by decide) (submission "adyen" 0)
      tasked
  · rw [running] at ended
    cases ended
  · obtain ⟨output, found, concludes⟩ := concluded
    exact ⟨state, output, found, concludes⟩

end PaymentQueue.Resubmission
