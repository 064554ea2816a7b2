import PaymentQueue.Outlines.Process
import PaymentQueue.Outlines.Submit
import PaymentQueue.Runtime.Runs

/-!
# The idempotency cache never lies

One submission starts the lifecycle of a payment; its deliveries and failure
handlers run one after another.  Every command may throw, with its effect or
without, every process may crash at any await, and every key may expire at any
time.  A finalized idempotency record nevertheless agrees with the stored
record and with the ledger in every state.

The argument never uses the execution lock: an attempt goes on only when it has
found the record not to be final, and as long as it runs the only other writer
is the submission, which deletes the key at most.
-/

namespace PaymentQueue.Cache

open Await

variable {config : AppConfig}

/-- The ledger has an entry for this charge. -/
def Settled (id : PaymentId) (transactionId : String) (view : View) : Prop :=
  ∃ entry ∈ view.ledger,
    entry.paymentId = id ∧ entry.transactionId = transactionId

/-- The stored record is completed with this transaction. -/
def Completed (transactionId : String) (view : View) : Prop :=
  ∃ record, view.payment = some record ∧ record.status = .completed ∧
    record.transactionId = some transactionId

/-- The stored record is dead-lettered for this reason. -/
def Buried (reason : Option String) (view : View) : Prop :=
  ∃ record, view.payment = some record ∧ record.status = .deadLetter ∧
    record.failureReason = reason

/-- What a finalized idempotency record promises. -/
structure Faithful (id : PaymentId) (view : View) : Prop where
  completed : ∀ existing, view.claim = some existing →
    existing.state = .completed →
    ∃ transactionId, existing.transactionId = some transactionId ∧
      Completed transactionId view ∧ Settled id transactionId view
  failed : ∀ existing, view.claim = some existing →
    existing.state = .failed → Buried existing.failureReason view

structure Inv (id : PaymentId) (view : View) : Prop where
  faithful : Faithful id view
  keyed : ∀ record, view.payment = some record → record.id = id

/-- Nothing changed that an attempt relies on, except that the idempotency key
may be gone. -/
structure Frozen (before after : View) : Prop where
  stored : after.stored = before.stored
  ledger : after.ledger = before.ledger
  key : after.key = before.key ∨ after.key = none

structure Rely (task : Task) (before after : View) : Prop where
  submission : task.submits = true → before.stored = none →
    after.stored = none
  worker : task.submits = false → before.stored ≠ none → Frozen before after

structure Guarantee (task : Task) (before after : View) : Prop where
  submission : task.submits = true → before.stored ≠ none →
    Frozen before after
  worker : task.submits = false → before.stored = none → after.stored = none

def discipline (config : AppConfig) (id : PaymentId) :
    Discipline (paymentSystem config) where
  invariant := fun world => Inv id (world.view id)
  rely := fun _ task before after =>
    Rely task (before.view id) (after.view id)
  guarantee := fun _ task before after =>
    Guarantee task (before.view id) (after.view id)
  allowed := fun _ _ _ _ _ => True
  post := fun _ _ _ _ => True
  rest := fun _ _ _ => True

section Views

variable {id : PaymentId} {view before after : View}

private theorem unfinalized_of_claim
    (open_ : ∀ existing, view.claim = some existing →
    existing.state.final = false) : view.finalized = false := by
  cases claim : view.claim with
  | none => simp [View.finalized, claim, readsFinal]
  | some existing =>
      simpa [View.finalized, claim, readsFinal] using open_ existing claim

/-- An idempotency record that is not final promises nothing. -/
theorem faithful_of_unfinalized (unfinalized : view.finalized = false) :
    Faithful id view := by
  constructor
  · intro existing claim state
    simp [View.finalized, claim, readsFinal, state, IdempotencyState.final]
      at unfinalized
  · intro existing claim state
    simp [View.finalized, claim, readsFinal, state, IdempotencyState.final]
      at unfinalized

/-- A finalized payment has a terminal record. -/
theorem Faithful.terminal (faithful : Faithful id view)
    (final : view.finalized = true) : view.terminal = true := by
  obtain ⟨existing, claim, isFinal⟩ := (Option.any_eq_true _ _).mp final
  cases state : existing.state with
  | processing => simp [state, IdempotencyState.final] at isFinal
  | completed =>
      obtain ⟨transactionId, -, ⟨record, found, status, -⟩, -⟩ :=
        faithful.completed existing claim state
      simp [View.terminal, found, status, PaymentStatus.terminal]
  | failed =>
      obtain ⟨record, found, status, -⟩ := faithful.failed existing claim state
      simp [View.terminal, found, status, PaymentStatus.terminal]

theorem Frozen.refl (view : View) : Frozen view view :=
  ⟨rfl, rfl, .inl rfl⟩

theorem Frozen.trans {first second third : View}
    (left : Frozen first second) (right : Frozen second third) :
    Frozen first third := by
  refine ⟨right.stored.trans left.stored, right.ledger.trans left.ledger, ?_⟩
  rcases right.key with same | gone
  · rw [same]
    exact left.key
  · exact .inr gone

theorem Frozen.payment (frozen : Frozen before after) :
    after.payment = before.payment := by
  rw [View.payment, View.payment, frozen.stored]

theorem Frozen.claim (frozen : Frozen before after)
    {existing : IdempotencyRecord} (claim : after.claim = some existing) :
    before.claim = some existing := by
  rcases frozen.key with same | gone
  · rw [View.claim, same] at claim
    exact claim
  · rw [View.claim, gone] at claim
    cases claim

theorem Frozen.unfinalized (frozen : Frozen before after)
    (unfinalized : before.finalized = false) : after.finalized = false := by
  apply unfinalized_of_claim
  intro existing claim
  simpa [View.finalized, frozen.claim claim, readsFinal] using unfinalized

theorem Frozen.settled {transactionId : String} (frozen : Frozen before after)
    (settled : Settled id transactionId before) :
    Settled id transactionId after := by
  rw [Settled, frozen.ledger]
  exact settled

theorem Frozen.completed {transactionId : String}
    (frozen : Frozen before after) (completed : Completed transactionId before) :
    Completed transactionId after := by
  rw [Completed, frozen.payment]
  exact completed

theorem Frozen.buried {reason : Option String} (frozen : Frozen before after)
    (buried : Buried reason before) : Buried reason after := by
  rw [Buried, frozen.payment]
  exact buried

theorem Inv.frozen (frozen : Frozen before after) (inv : Inv id before) :
    Inv id after := by
  refine ⟨⟨?_, ?_⟩, ?_⟩
  · intro existing claim state
    obtain ⟨transactionId, same, completed, settled⟩ :=
      inv.faithful.completed existing (frozen.claim claim) state
    exact ⟨transactionId, same, frozen.completed completed,
      frozen.settled settled⟩
  · intro existing claim state
    exact frozen.buried (inv.faithful.failed existing (frozen.claim claim)
      state)
  · rw [frozen.payment]
    exact inv.keyed

theorem Rely.refl (task : Task) (view : View) : Rely task view view :=
  ⟨fun _ missing => missing, fun _ _ => .refl view⟩

theorem Rely.trans {task : Task} {first second third : View}
    (left : Rely task first second) (right : Rely task second third) :
    Rely task first third := by
  constructor
  · intro submits missing
    exact right.submission submits (left.submission submits missing)
  · intro worker stored
    have frozen := left.worker worker stored
    apply frozen.trans
    apply right.worker worker
    rw [frozen.stored]
    exact stored

theorem Guarantee.refl (task : Task) (view : View) : Guarantee task view view :=
  ⟨fun _ _ => .refl view, fun _ missing => missing⟩

end Views

/-- What an attempt knows at each stage. -/
def Knows (id : PaymentId) : Stage → View → Prop
  | .idle, _ => True
  | .checked, view | .locked, view | .entered, view | .working, view
  | .declined, view | .charged _, view | .unsettled _, view | .refunded _ _, view =>
      view.stored ≠ none ∧ view.finalized = false
  | .settled transactionId, view | .unrecorded transactionId, view =>
      view.stored ≠ none ∧ view.finalized = false ∧
        Settled id transactionId view
  | .recorded transactionId, view | .unsure transactionId, view
  | .completed transactionId, view =>
      view.stored ≠ none ∧ Completed transactionId view ∧
        Settled id transactionId view
  | .buried reason, view => view.stored ≠ none ∧ Buried (some reason) view
  | .seen, view | .terminal, view | .failed _, view | .routed _, view
  | .aborted, view => view.stored ≠ none

def know (id : PaymentId) (stage : Stage) (world : World) : Prop :=
  Knows id stage (world.view id)

section Worker

variable {id : PaymentId} {pid : Nat} {task : Task} {stage : Stage}

theorem Knows.stored {view : View} (known : Knows id stage view)
    (started : stage ≠ .idle) : view.stored ≠ none := by
  cases stage with
  | idle => exact (started rfl).elim
  | seen | terminal | failed _ | routed _ | aborted => exact known
  | _ => exact known.1

theorem Knows.frozen {before after : View} (frozen : Frozen before after)
    (known : Knows id stage before) : Knows id stage after := by
  have still : before.stored ≠ none → after.stored ≠ none := by
    rw [frozen.stored]
    exact fun stored => stored
  cases stage with
  | idle => exact trivial
  | seen | terminal | failed _ | routed _ | aborted => exact still known
  | checked | locked | entered | working | declined | charged _ | unsettled _
  | refunded _ _ => exact ⟨still known.1, frozen.unfinalized known.2⟩
  | settled _ | unrecorded _ =>
      exact ⟨still known.1, frozen.unfinalized known.2.1,
        frozen.settled known.2.2⟩
  | recorded _ | unsure _ | completed _ =>
      exact ⟨still known.1, frozen.completed known.2.1,
        frozen.settled known.2.2⟩
  | buried _ => exact ⟨still known.1, frozen.buried known.2⟩

private theorem know_stable (worker : task.submits = false) (stage : Stage) :
    Stable ((discipline config id).contract pid task) (know id stage) := by
  intro first second rely _ known
  by_cases started : stage = .idle
  · subst started
    exact trivial
  · exact Knows.frozen (rely.worker worker (Knows.stored known started)) known

theorem unseen : Unseen ((discipline config id).contract pid task) id :=
  unseen_of_view (Inv id) (Guarantee task) (fun _ => rfl) (fun _ _ => rfl)
    (Guarantee.refl task)

/-- A step of an attempt that has found the stored record. -/
theorem keeps_worker (worker : task.submits = false) {before after : World}
    (stored : (before.view id).stored ≠ none)
    (inv : Inv id (after.view id)) :
    Keeps ((discipline config id).contract pid task) before after := by
  refine ⟨inv, ?_, ?_⟩
  · intro submits
    rw [worker] at submits
    cases submits
  · intro _ missing
    exact (stored missing).elim

/-- Commands that write neither the record nor the key nor the ledger. -/
theorem moves_frozen (worker : task.submits = false) {command : Command}
    {result : Except Thrown command.Result → World → Prop}
    (started : stage ≠ .idle)
    (payments : command.writes .payments = false)
    (idempotency : command.writes .idempotency = false)
    (settlements : command.writes .settlements = false)
    (reached : ∀ outcome after, Knows id stage (after.view id) →
      (∀ error, outcome = .error error →
        ∃ before, Executes ((discipline config id).contract pid task) pid
          command before (.error error) after) → result outcome after) :
    Moves ((discipline config id).contract pid task) pid command
      (know id stage) result := by
  intro before outcome after known execution
  have frozen : Frozen (before.view id) (after.view id) :=
    ⟨view_stored_of_writes execution payments,
      executes_agrees execution settlements,
      .inl (view_key_of_writes execution idempotency)⟩
  refine ⟨keeps_worker worker (Knows.stored known started)
    (execution.invariant.frozen frozen),
    reached _ _ (Knows.frozen frozen known) ?_⟩
  rintro error rfl
  exact ⟨before, execution⟩

/-- A save that keeps the promise of the idempotency record. -/
theorem moves_save (worker : task.submits = false) {record : PaymentRecord}
    {result : Except Thrown Unit → World → Prop}
    (started : stage ≠ .idle) (same : record.id = id)
    (lawful : ∀ view, Inv id view → Knows id stage view →
      Faithful id { view with stored := some (.parsed record) })
    (reached : ∀ view outcome after, Inv id view → Knows id stage view →
      after.view id = { view with stored := some (.parsed record) } →
      result outcome after)
    (refused : ∀ message after, Knows id stage (after.view id) →
      result (.error (.error message)) after) :
    Moves ((discipline config id).contract pid task) pid
      (.storage (.hsetPayment id record)) (know id stage) result := by
  refine moves_storage (fun before inv => unseen before before inv rfl) ?_
    (fun before message known _ => refused message before known)
  intro before choice known inv _
  have view := @view_hsetPayment id pid before record
  refine ⟨keeps_worker worker (Knows.stored known started) ?_,
    reached _ _ _ inv known view, fun message => reached _ _ _ inv known view⟩
  rw [view]
  refine ⟨lawful _ inv known, ?_⟩
  intro stored found
  obtain rfl := Option.some.inj found
  exact same

/-- A write of the idempotency record that keeps its promise. -/
theorem moves_setIdempotency (worker : task.submits = false)
    {record : IdempotencyRecord} {ttlSeconds : Nat}
    {result : Except Thrown Unit → World → Prop} (started : stage ≠ .idle)
    (lawful : ∀ view key, Inv id view → Knows id stage view →
      key.value = .parsed record → Faithful id { view with key := some key })
    (reached : ∀ view outcome after key, Inv id view → Knows id stage view →
      key.value = .parsed record →
      after.view id = { view with key := some key } → result outcome after)
    (refused : ∀ message after, Knows id stage (after.view id) →
      result (.error (.error message)) after) :
    Moves ((discipline config id).contract pid task) pid
      (.storage (.setIdempotency id record ttlSeconds)) (know id stage)
      result := by
  refine moves_storage (fun before inv => unseen before before inv rfl) ?_
    (fun before message known _ => refused message before known)
  intro before choice known inv _
  have view := @view_setIdempotency id pid before record ttlSeconds
  refine ⟨keeps_worker worker (Knows.stored known started) ?_,
    reached _ _ _ _ inv known rfl view,
    fun message => reached _ _ _ _ inv known rfl view⟩
  rw [view]
  exact ⟨lawful _ _ inv known rfl, inv.keyed⟩

/-- At the stages of the saga the payment is not finalized. -/
theorem Knows.unfinalized {view : View} (known : Knows id stage view)
    (inSaga : stage.inSaga = true) : view.finalized = false := by
  cases stage with
  | working | declined | charged _ | unsettled _ | refunded _ _ =>
      exact known.2
  | settled _ => exact known.2.1
  | _ => cases inSaga

/-- Saving the completed record once more, after the final write may have
taken effect. -/
theorem faithful_resave {view : View} {record : PaymentRecord}
    {transactionId : String} (inv : Inv id view)
    (completed : Completed transactionId view)
    (carried : Carries id .completed (some transactionId) record) :
    Faithful id { view with stored := some (.parsed record) } := by
  obtain ⟨stored, found, status, transaction⟩ := completed
  constructor
  · intro existing claim state
    obtain ⟨transactionId', same, ⟨stored', found', -, transaction'⟩,
      settled⟩ := inv.faithful.completed existing claim state
    obtain rfl := Option.some.inj (found.symm.trans found')
    obtain rfl := Option.some.inj (transaction.symm.trans transaction')
    exact ⟨transactionId, same, ⟨record, rfl, carried.status,
      carried.transaction _ rfl⟩, settled⟩
  · intro existing claim state
    obtain ⟨stored', found', status', -⟩ :=
      inv.faithful.failed existing claim state
    obtain rfl := Option.some.inj (found.symm.trans found')
    rw [status] at status'
    cases status'

private theorem moves_book (worker : task.submits = false) {command : Command}
    (active : stage.inSaga = true ∨ stage.closing.isSome = true)
    (allowed : bookkeeping id stage command) :
    Moves ((discipline config id).contract pid task) pid command
      (know id stage) (fun _ => know id stage) := by
  have started : stage ≠ .idle := by
    rintro rfl
    simp [Stage.inSaga, Stage.closing] at active
  rcases bookkeeping_cases allowed with ⟨record, rfl, fits⟩ | invisible
  · refine moves_save worker started fits.id_eq ?_ ?_ (fun _ _ known => known)
    · intro view inv known
      rcases fits with ⟨inSaga, -⟩ | ⟨transactionId, closing, carried⟩
      · exact faithful_of_unfinalized (known.unfinalized inSaga)
      · cases stage <;> cases closing
        · exact faithful_of_unfinalized known.2.1
        · exact faithful_resave inv known.2.1 carried
        · exact faithful_resave inv known.2.1 carried
    · intro view outcome after inv known saved
      show Knows id stage (after.view id)
      rw [saved]
      rcases fits with ⟨inSaga, -⟩ | ⟨transactionId, closing, carried⟩
      · cases stage <;> first | exact ⟨by simp, known.2⟩ | cases inSaga
      · have completed : Completed transactionId
            { view with stored := some (.parsed record) } :=
          ⟨record, rfl, carried.status, carried.transaction _ rfl⟩
        cases stage <;> cases closing
        · exact ⟨by simp, known.2⟩
        · exact ⟨by simp, completed, known.2.2⟩
        · exact ⟨by simp, completed, known.2.2⟩
  · exact unseen.moves (Knows id stage) invisible fun _ _ known => known

theorem moves_aborting {command : Command} (started : stage ≠ .idle)
    (invisible : command.invisible = true) :
    Moves ((discipline config id).contract pid task) pid command
      (know id stage)
      (OrAborts (know id) (fun _ => know id stage)) := by
  apply unseen.moves (Knows id stage) invisible
  intro outcome after known
  cases outcome with
  | error error => exact Knows.stored known started
  | ok value => exact known

/-- The terminal handling starts while the payment is not finalized. -/
theorem burial (worker : task.submits = false)
    (started : stage ≠ .idle)
    (unfinalized : ∀ view, Knows id stage view → view.finalized = false) :
    BurialOutline ((discipline config id).contract pid task) pid id (know id)
      stage where
  stable := know_stable worker
  lookup := by
    apply unseen.moves_load
    · intro world inv known
      exact latest_of_found inv.keyed known fun _ => Knows.stored known started
    · exact fun world message known => Knows.stored known started
  bury := by
    intro record reason same status failure
    refine moves_save worker started same ?_ ?_
      (fun message after known => Knows.stored known started)
    · intro view inv known
      exact faithful_of_unfinalized (unfinalized view known)
    · intro view outcome after inv known saved
      cases outcome with
      | error error =>
          show (after.view id).stored ≠ none
          rw [saved]
          simp
      | ok _ =>
          show Knows id (.buried reason) (after.view id)
          rw [saved]
          exact ⟨by simp, record, rfl, status, failure⟩
  readBuried := fun reason => moves_aborting (by simp) rfl
  fail := by
    intro reason previous now
    refine moves_setIdempotency worker (by simp) ?_ ?_
      (fun message after known => known.1)
    · intro view key inv known parsed
      constructor
      · intro existing claim state
        simp only [View.claim, parsed, Option.bind_some, Stored.parse?,
          Option.some.injEq] at claim
        subst claim
        cases state
      · intro existing claim _
        simp only [View.claim, parsed, Option.bind_some, Stored.parse?,
          Option.some.injEq] at claim
        subst claim
        exact known.2
    · intro view outcome after key inv known _ written
      cases outcome with
      | error error =>
          show (after.view id).stored ≠ none
          rw [written]
          exact known.1
      | ok _ =>
          show (after.view id).stored ≠ none
          rw [written]
          exact known.1
  audit := fun reason event => moves_aborting (by simp) rfl
  emit := fun reason event => moves_aborting (by simp) rfl
  ready := fun reason => moves_aborting (by simp) rfl
  route := fun entry _ => moves_aborting (by simp) rfl

private theorem moves_check {ends : Except Thrown ProcessResult → World → Prop}
    (ended : ∀ outcome world, ends outcome world) :
    Moves ((discipline config id).contract pid task) pid
      (.storage (.getIdempotency id)) (know id .seen)
      (Continues (fun raw => Checks id (know id) ends
        (raw.bind Stored.parse?)) ends) := by
  apply unseen.moves_claim
  · intro world inv stored
    rw [Continues, claim_read, Checks]
    split
    · exact fun _ => ended _ _
    case isFalse unfinished =>
      exact ⟨stored, eq_false_of_ne_true unfinished⟩
  · exact fun _ _ _ => ended _ _

private theorem moves_append (worker : task.submits = false)
    (entry : SettlementEntry) (same : entry.paymentId = id) :
    Moves ((discipline config id).contract pid task) pid
      (.storage (.rpushSettlement entry))
      (know id (.charged entry.transactionId))
      (fun outcome =>
        match outcome with
        | .ok _ => know id (.settled entry.transactionId)
        | .error _ => know id (.unsettled entry.transactionId)) := by
  refine moves_storage (fun before inv => unseen before before inv rfl) ?_
    (fun _ _ known _ => known)
  intro before choice known inv _
  have view := @view_rpushSettlement id pid before entry
  refine ⟨keeps_worker worker known.1 ?_, ?_, fun message => ?_⟩
  · rw [view]
    exact ⟨faithful_of_unfinalized known.2, inv.keyed⟩
  · show Knows id (.settled entry.transactionId) (World.view _ id)
    rw [view]
    exact ⟨known.1, known.2, entry, by simp, same, rfl⟩
  · show Knows id (.unsettled entry.transactionId) (World.view _ id)
    rw [view]
    exact known

private theorem moves_complete (worker : task.submits = false)
    (transactionId : String) (previous : Option IdempotencyRecord)
    (now : Time) :
    Moves ((discipline config id).contract pid task) pid
      (.storage (.setIdempotency id
        (IdempotencyService.finalRecord id .completed .completed
          (some transactionId) none previous now) config.retentionSeconds))
      (know id (.recorded transactionId))
      (fun outcome => know id (if outcome.isOk = true then
        .completed transactionId else .unsure transactionId)) := by
  refine moves_setIdempotency worker nofun ?_ ?_
    (fun message after known => known)
  · intro view key inv known parsed
    constructor
    · intro existing claim _
      simp only [View.claim, parsed, Option.bind_some, Stored.parse?,
        Option.some.injEq] at claim
      subst claim
      exact ⟨transactionId, rfl, known.2⟩
    · intro existing claim state
      simp only [View.claim, parsed, Option.bind_some, Stored.parse?,
        Option.some.injEq] at claim
      subst claim
      cases state
  · intro view outcome after key inv known _ written
    cases outcome with
    | error error =>
        show Knows id (.unsure transactionId) (after.view id)
        rw [written]
        exact known
    | ok _ =>
        show Knows id (.completed transactionId) (after.view id)
        rw [written]
        exact known

private theorem moves_enter (worker : task.submits = false)
    {ends : Except Thrown ProcessResult → World → Prop}
    (ended : ∀ outcome world, ends outcome world) (claimedAt now : Time) :
    Moves ((discipline config id).contract pid task) pid
      (.storage (.setIdempotency id
        (IdempotencyService.processingRecord id claimedAt now)
        config.leaseTtlSeconds)) (know id .locked)
      (Continues (fun _ => know id .entered) ends) := by
  have unfinalized : ∀ {view : View} {key : Expiring (Stored IdempotencyRecord)},
      view.key = some key →
      key.value = .parsed
        (IdempotencyService.processingRecord id claimedAt now) →
      view.finalized = false := by
    intro view key held parsed
    simp [View.finalized, View.claim, held, parsed, Stored.parse?, readsFinal,
      IdempotencyService.processingRecord, IdempotencyState.final]
  refine moves_setIdempotency worker (by simp) ?_ ?_
    (fun _ _ _ => ended _ _)
  · intro view key inv known parsed
    exact faithful_of_unfinalized (unfinalized rfl parsed)
  · intro view outcome after key inv known parsed written
    cases outcome with
    | error error => exact ended _ _
    | ok _ =>
        show Knows id .entered (after.view id)
        rw [written]
        exact ⟨known.1, unfinalized rfl parsed⟩

private theorem moves_begin (worker : task.submits = false)
    {record : PaymentRecord} (carried : Carries id .processing none record) :
    Moves ((discipline config id).contract pid task) pid
      (.storage (.hsetPayment id record)) (know id .entered)
      (OrAborts (know id) (fun _ => know id .working)) := by
  refine moves_save worker (by simp) carried.id ?_ ?_
    (fun message after known => known.1)
  · intro view inv known
    exact faithful_of_unfinalized known.2
  · intro view outcome after inv known saved
    cases outcome with
    | error error =>
        show (after.view id).stored ≠ none
        rw [saved]
        simp
    | ok _ =>
        show Knows id .working (after.view id)
        rw [saved]
        exact ⟨by simp, known.2⟩

private theorem moves_record (worker : task.submits = false)
    {record : PaymentRecord} {transactionId : String}
    (carried : Carries id .completed (some transactionId) record) :
    Moves ((discipline config id).contract pid task) pid
      (.storage (.hsetPayment id record)) (know id (.settled transactionId))
      (fun outcome => know id (if outcome.isOk = true then
        .recorded transactionId else .unrecorded transactionId)) := by
  refine moves_save worker (by simp) carried.id ?_ ?_
    (fun message after known => known)
  · intro view inv known
    exact faithful_of_unfinalized known.2.1
  · intro view outcome after inv known saved
    cases outcome with
    | error error =>
        show Knows id (.unrecorded transactionId) (after.view id)
        rw [saved]
        exact ⟨by simp, known.2⟩
    | ok _ =>
        show Knows id (.recorded transactionId) (after.view id)
        rw [saved]
        exact ⟨by simp, ⟨record, rfl, carried.status,
          carried.transaction _ rfl⟩, known.2.2⟩

private theorem processOutline (worker : task.submits = false) :
    ProcessOutline ((discipline config id).contract pid task) pid id True
      (know id) (fun _ _ => True) where
  stable := know_stable worker
  faulty := fun _ _ _ _ _ _ => trivial
  book := fun stage command active allowed => moves_book worker active allowed
  charge := fun payment correlationId _ =>
    moves_frozen worker (by simp) rfl rfl rfl <| by
      intro outcome after known thrown
      cases outcome with
      | ok result => cases result <;> exact known
      | error error =>
          obtain ⟨before, execution⟩ := thrown error rfl
          exact (guardCall_returns execution).elim
  append := moves_append worker
  refund := fun gatewayId transactionId =>
    moves_frozen worker (by simp) rfl rfl rfl <| by
      intro outcome after known thrown
      cases outcome with
      | ok result => cases result <;> exact known
      | error error =>
          obtain ⟨before, execution⟩ := thrown error rfl
          exact (guardRefund_returns execution).elim
  load := by
    apply unseen.moves_load
    · intro world inv _
      show Loads id (know id) (fun _ _ => True) (world.view id).payment world
      cases found : (world.view id).payment with
      | none => exact fun _ => trivial
      | some record =>
          refine ⟨inv.keyed record found, ?_⟩
          intro missing
          rw [View.payment, missing] at found
          cases found
    · exact fun _ _ _ => trivial
  check := moves_check fun _ _ => trivial
  lock := moves_frozen worker (by simp) rfl rfl rfl <| by
    intro outcome after known _
    cases outcome with
    | error error => exact trivial
    | ok acquired =>
        cases acquired with
        | true => exact known
        | false => exact fun _ => trivial
  readLocked := unseen.moves (Knows id .locked) rfl <| by
    intro outcome after known
    cases outcome with
    | error error => exact trivial
    | ok raw => exact known
  enter := moves_enter worker fun _ _ => trivial
  begin := fun record carried => by
    rw [carried.id]
    exact moves_begin worker carried
  record := fun record transactionId => moves_record worker
  readRecorded := fun transactionId =>
    unseen.moves (Knows id (.recorded transactionId)) rfl
      fun outcome _ known => by cases outcome <;> exact known
  complete := moves_complete worker
  burial := by
    rintro stage failure (rfl | ⟨-, transactionId, succeeded, rfl⟩)
    · exact burial worker (by simp) fun _ known => known.2
    · exact burial worker (by simp) fun _ known => known.2
  release := fun stage result explained =>
    moves_frozen worker (by
      rintro rfl
      cases explains_holdsLock explained) rfl rfl rfl <| by
      intro outcome after _ _
      cases outcome <;> exact trivial

private theorem handlerOutline (worker : task.submits = false) :
    HandlerOutline ((discipline config id).contract pid task) pid id (know id)
      (fun _ _ => True) where
  toBurialOutline := burial worker nofun fun _ known => known.2
  load := by
    apply unseen.moves_load
    · intro world inv _
      show Handles id (know id) (fun _ _ => True) (world.view id).payment world
      cases found : (world.view id).payment with
      | none => exact trivial
      | some record =>
          rw [Handles]
          split
          · exact trivial
          case isFalse unfinished =>
            refine ⟨inv.keyed record found, ?_, ?_⟩
            · intro missing
              rw [View.payment, missing] at found
              cases found
            · by_contra final
              have terminal := inv.faithful.terminal
                (eq_true_of_ne_false final)
              rw [View.terminal, found] at terminal
              exact unfinished terminal
    · exact fun _ _ _ => trivial
  routed := fun _ _ _ => trivial
  terminal := fun _ _ => trivial
  aborted := fun _ _ _ => trivial

end Worker

section Submit

variable {id : PaymentId} {pid : Nat} {input : CreatePaymentInput}
  {stage : SubmitStage}

/-- Until its save a submission knows that no payment is stored. -/
def submitKnow (id : PaymentId) : SubmitStage → World → Prop
  | .saved, _ | .queued, _ | .unqueued, _ => True
  | _, world => (world.view id).stored = none

private theorem submitKnow_stable (stage : SubmitStage) :
    Stable ((discipline config id).contract pid (.submit input))
      (submitKnow id stage) := by
  intro first second rely _ known
  cases stage with
  | saved | queued | unqueued => exact trivial
  | _ => exact rely.submission rfl known

/-- A write before any payment is stored. -/
theorem keeps_first {before after : World}
    (missing : (before.view id).stored = none)
    (inv : Inv id (after.view id)) :
    Keeps ((discipline config id).contract pid (.submit input)) before
      after :=
  ⟨inv, fun _ stored => (stored missing).elim, nofun⟩

theorem submit_invisible {command : Command}
    {result : Except Thrown command.Result → World → Prop}
    (invisible : command.invisible = true)
    (reached : ∀ outcome after, submitKnow id stage after →
      result outcome after) :
    Moves ((discipline config id).contract pid (.submit input)) pid command
      (submitKnow id stage) result := by
  intro before outcome after known execution
  have same : after.view id = before.view id :=
    view_of_invisible execution invisible
  refine ⟨unseen _ _ execution.invariant same, reached outcome after ?_⟩
  cases stage with
  | saved | queued | unqueued => exact trivial
  | _ =>
      show (after.view id).stored = none
      rw [same]
      exact known

private theorem submit_claim (now : Time) :
    Moves ((discipline config id).contract pid (.submit input)) pid
      (.storage (.setNxIdempotency id
        (IdempotencyService.processingRecord id now now)
        config.leaseTtlSeconds)) (submitKnow id .idle)
      (Continues (fun acquired =>
        submitKnow id (if acquired = true then .claimed else .idle))
        (fun _ _ => True : Except Thrown SubmitPaymentResult → World →
          Prop)) := by
  refine moves_storage (fun before inv => unseen before before inv rfl) ?_
    (fun _ _ _ _ => trivial)
  intro before choice missing inv _
  rcases setNxIdempotency_cases id pid before
    (IdempotencyService.processingRecord id now now)
    config.leaseTtlSeconds with ⟨-, unchanged⟩ | ⟨-, acquired, view⟩
  · rw [unchanged]
    exact ⟨unseen _ _ inv rfl, missing, fun _ => trivial⟩
  · rw [Continues, acquired]
    refine ⟨keeps_first missing ?_, ?_, fun _ => trivial⟩
    · rw [view]
      refine ⟨faithful_of_unfinalized rfl, ?_⟩
      intro record found
      have none_stored : (before.view id).stored = none := missing
      simp [View.payment, none_stored] at found
    · show (World.view _ id).stored = none
      rw [view]
      exact missing

private theorem inv_released {view : View} (inv : Inv id view) :
    Inv id { view with key := none } :=
  ⟨faithful_of_unfinalized rfl, inv.keyed⟩

private theorem submitOutline (pid : Nat) (input : CreatePaymentInput) :
    SubmitOutline ((discipline config input.id).contract pid (.submit input))
      pid input (submitKnow input.id) (fun _ _ => True) where
  stable := fun stage _ => submitKnow_stable stage
  claim := submit_claim
  readClaim := submit_invisible rfl fun outcome after missing =>
    SubmitOutline.continues_reads missing missing (fun _ => trivial) outcome
  lookup := submit_invisible rfl fun outcome after missing =>
    SubmitOutline.continues_finds missing missing (fun _ => trivial) outcome
  recover := by
    refine moves_storage (fun before inv => unseen before before inv rfl) ?_
      (fun _ _ _ _ => trivial)
    intro before choice missing inv _
    refine ⟨keeps_first missing ?_, ?_, fun _ => trivial⟩
    · rw [view_delIdempotency]
      exact inv_released inv
    · show (World.view _ input.id).stored = none
      rw [view_delIdempotency]
      exact missing
  replay := submit_invisible rfl fun outcome after _ =>
    SubmitOutline.continues_replays (fun _ => trivial) (fun _ => trivial)
      outcome
  conflict := fun _ _ _ _ => trivial
  audit := fun event => submit_invisible rfl fun outcome after missing => by
    cases outcome with
    | error error => exact trivial
    | ok _ => exact missing
  save := by
    intro now
    refine moves_storage (fun before inv => unseen before before inv rfl) ?_
      (fun _ _ _ _ => trivial)
    intro before choice missing inv _
    refine ⟨keeps_first missing ?_, trivial, fun _ => trivial⟩
    rw [view_hsetPayment]
    constructor
    · apply faithful_of_unfinalized
      by_contra final
      have terminal := inv.faithful.terminal (eq_true_of_ne_false final)
      have none_stored : (before.view input.id).stored = none := missing
      simp [View.terminal, View.payment, none_stored] at terminal
    · intro record found
      obtain rfl := Option.some.inj found
      rfl
  emit := fun event => submit_invisible rfl fun outcome after _ => by
    cases outcome <;> exact trivial
  ready := submit_invisible rfl fun outcome after _ => by
    cases outcome <;> exact trivial
  add := fun now delay => submit_invisible rfl fun outcome after _ => by
    cases outcome <;> exact trivial
  release := by
    refine moves_storage (fun before inv => unseen before before inv rfl) ?_
      (fun _ _ _ _ => trivial)
    intro before choice _ inv _
    refine ⟨⟨?_, ?_, nofun⟩, fun _ => trivial, fun _ => trivial⟩
    · show Inv input.id (World.view _ input.id)
      rw [view_delIdempotency]
      exact inv_released inv
    · intro _ _
      rw [view_delIdempotency]
      exact ⟨rfl, rfl, .inr rfl⟩
  created := fun _ _ _ => trivial

end Submit

/-- Deliveries and failure handlers of the payment are started one after
another; nothing else is assumed. -/
def oneByOne (id : PaymentId) (state : PaymentConfig config) :
    PaymentLabel config → Bool
  | .spawn task =>
      decide (task.paymentId = id) && !task.submits && !busy state
  | _ => true

/-- Only process 0 is a submission, and the others take turns. -/
structure Turns (state : PaymentConfig config) : Prop where
  single : SingleSubmission state
  sequential : Sequential state

theorem oneByOne_spawn {id : PaymentId} {state : PaymentConfig config}
    {task : Task} (admitted : oneByOne id state (.spawn task) = true) :
    task.paymentId = id ∧ task.submits = false ∧ busy state = false := by
  simpa only [oneByOne, Bool.and_eq_true, decide_eq_true_eq, Bool.not_eq_true',
    and_assoc] using admitted

theorem turns_step {id : PaymentId} {state next : PaymentConfig config}
    {label : PaymentLabel config} (turns : Turns state)
    (admitted : oneByOne id state label = true)
    (taken : (paymentSystem config).step label state = some next) :
    Turns next := by
  constructor
  · refine singleSubmission_step turns.single ?_ taken
    rintro task rfl submits
    obtain ⟨-, worker, -⟩ := oneByOne_spawn admitted
    rw [submits] at worker
    cases worker
  · refine sequential_step turns.sequential ?_ taken
    rintro task rfl _
    exact (oneByOne_spawn admitted).2.2

private theorem frozen_environment {world after : World} {id : PaymentId}
    {event : Event} (changed : environment event world = some after) :
    Frozen (world.view id) (after.view id) := by
  cases event with
  | tick elapsed =>
      cases changed
      exact ⟨rfl, rfl, view_tick_key world id elapsed⟩
  | activate queue jobId | complete queue jobId | fail queue jobId =>
      rw [@view_environment world after id _ rfl changed]
      exact .refl _

private theorem sound (id : PaymentId) :
    (discipline config id).Sound (fun state label =>
      Turns state ∧ oneByOne id state label = true) where
  relyRefl := fun _ task _ => .refl task _
  relyTrans := fun _ _ _ _ _ left right => left.trans right
  spawns := by
    rintro state task - ⟨-, admitted⟩
    obtain ⟨same, worker, -⟩ := oneByOne_spawn admitted
    cases task with
    | submit input => cases worker
    | process job =>
        exact (processOutline worker).safe_code same trivial
          (fun _ _ ended => ended) _
    | handleJobFailure jobData error =>
        exact (handlerOutline worker).safe_code same trivial error
          (fun _ _ ended => ended) state.world.now
  permits := fun _ _ _ _ _ _ _ _ _ => trivial
  interferes := by
    rintro state pid choice task program other task' program' next - ⟨turns, -⟩
      - found different found' - guarantee
    constructor
    · intro submits missing
      refine guarantee.worker ?_ missing
      by_contra submits'
      exact different (turns.single other pid task' task
        (Config.taskOf_of_running found') (Config.taskOf_of_running found)
        submits (eq_true_of_ne_false submits'))
    · intro worker stored
      refine guarantee.submission ?_ stored
      by_contra worker'
      exact different (turns.sequential other pid task' task program' program
        found' found worker (eq_false_of_ne_true worker'))
  environments := by
    intro state event after holds _ changed
    have frozen : Frozen (state.world.view id) (after.view id) :=
      frozen_environment changed
    refine ⟨holds.invariant.frozen frozen, ?_, fun _ _ _ _ => trivial⟩
    intro pid task program _
    refine ⟨fun _ missing => ?_, fun _ _ => frozen⟩
    rw [frozen.stored]
    exact missing

/-- No payment is stored and none is finalized under the id. -/
structure Vacant (id : PaymentId) (world : World) : Prop where
  payment : world.payments id = none
  unfinalized : world.finalized id = false

theorem turns_submitted (input : CreatePaymentInput) (world : World) :
    Turns (submitted input world : PaymentConfig config) where
  single := fun _ _ _ _ found found' _ _ =>
    (submitted_first found).trans (submitted_first found').symm
  sequential := sequential_submitted input world

/-- In every reachable state of a lifecycle the idempotency record keeps its
promises. -/
theorem cache_faithful (config : AppConfig) (input : CreatePaymentInput)
    (world : World) (vacant : Vacant input.id world)
    (state : PaymentConfig config)
    (reached : (paymentSystem config).Reaches
      (fun state label => oneByOne input.id state label = true)
      (submitted input world) state) :
    Faithful input.id (state.world.view input.id) := by
  have missing : (world.view input.id).stored = none := vacant.payment
  have inv : Inv input.id (world.view input.id) := by
    refine ⟨faithful_of_unfinalized vacant.unfinalized, ?_⟩
    intro record found
    simp [View.payment, missing] at found
  have start : (discipline config input.id).Holds (submitted input world) :=
    (sound input.id).holds_singleton (.submit input) inv (fun _ => trivial)
      ((submitOutline 0 input).safe_code missing (fun _ _ ended => ended) _)
  obtain ⟨-, turning⟩ := reached.strengthen (turns_submitted input world)
    fun _ _ _ turns admitted taken => turns_step turns admitted taken
  exact ((sound input.id).reaches start turning).invariant.faithful

private theorem vacant_empty : Vacant "p1" (World.empty 0) :=
  ⟨rfl, rfl⟩

/-- The write of `COMPLETED` takes effect and throws; the attempt saves its
record once more and the job is retried. -/
def lostFinalize : List (PaymentLabel .default) :=
  runs 0 6 ++ [.spawn (.process (delivery 0))] ++ runs 1 11 ++
    [accepts 1 "tx1"] ++ runs 1 8 ++ [.run 1 (.lost "socket closed")] ++
    runs 1 3 ++ [.spawn (.process (delivery 1))] ++ runs 2 2

theorem cache_faithful_lostFinalize :
    ∃ state : PaymentConfig .default,
      state.world.finalized "p1" = true ∧
      Faithful "p1" (state.world.view "p1") := by
  obtain ⟨state, reached, final⟩ := exists_of_replay
    (paymentSystem .default).step (oneByOne "p1")
    lostFinalize (submitted (submission "stripe" 0) (World.empty 0))
    (fun state => state.world.finalized "p1" &&
      state.threads[2]?.any (returns (.process (delivery 1))
        (.processed (.skipped "p1" "already finalized as completed"))))
    (by decide +kernel)
  simp only [Bool.and_eq_true] at final
  exact ⟨state, final.1, cache_faithful .default (submission "stripe" 0)
    (World.empty 0) vacant_empty state reached⟩

end PaymentQueue.Cache
