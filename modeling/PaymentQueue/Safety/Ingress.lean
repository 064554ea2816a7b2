import PaymentQueue.Outlines.Submit
import PaymentQueue.Runtime.Runs

/-!
# Exclusivity of the claim at ingress

Any number of submissions of one payment id run at the same time.  The
atomic `SET NX` alone would let one of them through; the stale-lease recovery
lets another one in when it reads the store between a claim and the save that
follows it.
-/

namespace PaymentQueue.Ingress

open Await

variable {config : AppConfig}

/-- Only submissions of the payment run; nothing fails, crashes or expires. -/
def admits (id : PaymentId) (state : PaymentConfig config) :
    PaymentLabel config → Bool
  | .spawn (.submit input) => decide (input.id = id)
  | .run _ choice => choice.faultless
  | .environment (.tick elapsed) => state.world.unexpired id elapsed
  | _ => false

/-- No submission looks for the payment while it is not stored: the recovery
never meets a submission between its claim and its save. -/
def recoversOnlyCrashed (id : PaymentId) (state : PaymentConfig config) :
    PaymentLabel config → Bool
  | .run pid _ =>
      decide (pending state pid = some (.storage (.hgetPayment id)) →
        (state.world.payment id).isSome = true)
  | _ => true

/-- The process that wrote the stored lease. -/
def leaseOwner (world : World) (id : PaymentId) : Option Nat :=
  (world.idempotency id).map Expiring.writer

/-- At most one submission has returned `created`, and its lease is still the
stored one. -/
def Exclusive (id : PaymentId) (state : PaymentConfig config) : Prop :=
  (∀ first second, created state first = true →
    created state second = true → first = second) ∧
  ∀ pid, created state pid = true → leaseOwner state.world id = some pid

/-- A stored lease stays as it is. -/
def LeaseKept (id : PaymentId) (before after : World) : Prop :=
  ∀ key, before.idempotency id = some key → after.idempotency id = some key

def discipline (config : AppConfig) (id : PaymentId) :
    Discipline (paymentSystem config) where
  invariant := fun _ => True
  rely := fun _ _ => LeaseKept id
  guarantee := fun _ _ => LeaseKept id
  allowed := fun _ _ command choice world =>
    choice.faultless = true ∧
      (command = .storage (.hgetPayment id) →
        (world.payment id).isSome = true)
  post := fun pid _ output world =>
    ∀ record, output = .ok (.submitted (.created record)) →
      leaseOwner world id = some pid
  rest := fun pid thread world =>
    ∀ input record,
      thread = some (.ended (.submit input)
        (.ok (.submitted (.created record)))) →
      leaseOwner world id = some pid

/-- Facts of a submission: from its claim on it owns the stored lease, and no
lease looks stale to it. -/
def know (id : PaymentId) (pid : Nat) : SubmitStage → World → Prop
  | .idle, _ => True
  | .replaying, _ => True
  | .claimed, world => leaseOwner world id = some pid
  | .saved, world => leaseOwner world id = some pid
  | .queued, world => leaseOwner world id = some pid
  | .stale, _ => False
  | .unqueued, _ => False

def ends (id : PaymentId) (pid : Nat)
    (outcome : Except Thrown SubmitPaymentResult) (world : World) : Prop :=
  ∀ record, outcome = .ok (.created record) → leaseOwner world id = some pid

theorem LeaseKept.refl (id : PaymentId) (world : World) :
    LeaseKept id world world :=
  fun _ stored => stored

theorem LeaseKept.trans {id : PaymentId} {first second third : World}
    (left : LeaseKept id first second) (right : LeaseKept id second third) :
    LeaseKept id first third :=
  fun key stored => right key (left key stored)

theorem LeaseKept.owner {id : PaymentId} {before after : World} {pid : Nat}
    (kept : LeaseKept id before after)
    (owned : leaseOwner before id = some pid) :
    leaseOwner after id = some pid := by
  obtain ⟨key, stored, rfl⟩ := Option.map_eq_some_iff.mp owned
  simp [leaseOwner, kept key stored]

section Outline

variable {pid : Nat} {task : Task} {id : PaymentId}

theorem faultless (command : Command) :
    Faultless ((discipline config id).contract pid task) command :=
  fun _ _ allowed => allowed.1

private theorem know_stable (stage : SubmitStage) :
    Stable ((discipline config id).contract pid task)
      (know id pid stage) := by
  intro first second kept _ known
  cases stage with
  | idle | replaying => exact trivial
  | stale | unqueued => exact known
  | claimed | saved | queued => exact LeaseKept.owner kept known

private theorem keeps_of_part {command : Command} {before after : World}
    {outcome : Except Thrown command.Result}
    (execution : Executes ((discipline config id).contract pid
      task) pid command before outcome after)
    (other : command.writes .idempotency = false) :
    Keeps ((discipline config id).contract pid task) before
      after := by
  have same : after.idempotency = before.idempotency :=
    executes_agrees execution other
  refine ⟨trivial, fun key stored => ?_⟩
  rw [same]
  exact stored

/-- A command on another part of the world, at a stage it does not leave. -/
theorem moves_of_part {command : Command} {stage : SubmitStage}
    {result : Except Thrown command.Result → World → Prop}
    (other : command.writes .idempotency = false)
    (reached : ∀ value after, know id pid stage after →
      result (.ok value) after) :
    Moves ((discipline config id).contract pid task) pid command
      (know id pid stage) result := by
  apply (faultless _).moves
  intro before value after known execution
  have keeps := keeps_of_part execution other
  have still : know id pid stage after :=
    @know_stable config pid task id stage before after keeps.2 trivial known
  exact ⟨keeps, reached value after still⟩

private theorem moves_claim (record : IdempotencyRecord) (ttlSeconds : Nat) :
    Moves ((discipline config id).contract pid task) pid
      (.storage (.setNxIdempotency id record ttlSeconds)) (know id pid .idle)
      (Continues (fun acquired =>
        know id pid (if acquired = true then .claimed else .idle))
        (ends id pid)) := by
  apply (faultless _).moves_storage
  intro before _ _ _
  simp only [StorageCommand.effect]
  cases stored : before.idempotency id with
  | some key => exact ⟨⟨trivial, .refl id before⟩, trivial⟩
  | none =>
      refine ⟨⟨trivial, fun key found => ?_⟩, ?_⟩
      · rw [stored] at found
        cases found
      · simp [Continues, know, leaseOwner]

/-- The lookup finds the payment, as the runs considered here promise. -/
theorem moves_lookup {stage : SubmitStage}
    {result : Option PaymentRecord → World → Prop}
    (reached : ∀ payment after, know id pid stage after →
      result (some payment) after) :
    Moves ((discipline config id).contract pid task) pid
      (.storage (.hgetPayment id)) (know id pid stage)
      (Continues (fun doc => result (doc.bind Stored.parse?))
        (ends id pid)) := by
  apply (faultless _).moves_storage
  intro before known _ allowed
  obtain ⟨payment, found⟩ := Option.isSome_iff_exists.mp (allowed.2 rfl)
  refine ⟨⟨trivial, .refl id before⟩, ?_⟩
  simp only [World.payment] at found
  simp only [StorageCommand.effect, Continues, found]
  exact reached payment before known

private theorem outline (input : CreatePaymentInput) (same : input.id = id) :
    SubmitOutline ((discipline config id).contract pid task) pid input
      (know id pid) (ends id pid) := by
  subst same
  exact {
    stable := fun stage _ => know_stable stage
    claim := fun now => moves_claim _ _
    readClaim := moves_of_part rfl fun raw after _ =>
      SubmitOutline.continues_reads trivial trivial
        (fun _ _ impossible => by cases impossible) (.ok raw)
    lookup := moves_lookup fun payment after idle => idle
    recover := fun _ _ _ impossible => impossible.elim
    replay := moves_lookup fun payment after _ record created => by
      cases created
    conflict := fun _ _ _ _ _ created => by cases created
    audit := fun event => moves_of_part rfl fun _ _ claimed => claimed
    save := fun now => moves_of_part rfl fun _ _ claimed => claimed
    emit := fun event => moves_of_part rfl fun _ _ saved => saved
    ready := moves_of_part rfl fun _ _ saved => saved
    add := fun now delay => moves_of_part rfl fun _ _ saved => saved
    release := fun _ _ _ impossible => impossible.elim
    created := fun world now queued _ _ => queued }

end Outline

/-- The runs of the theorem below. -/
def recovering (id : PaymentId) (state : PaymentConfig config)
    (label : PaymentLabel config) : Bool :=
  admits id state label && recoversOnlyCrashed id state label

theorem recovering_eq_true {id : PaymentId} {state : PaymentConfig config}
    {label : PaymentLabel config} (admitted : recovering id state label = true) :
    admits id state label = true ∧
      recoversOnlyCrashed id state label = true :=
  (Bool.and_eq_true _ _).mp admitted

private theorem leaseKept_of_unexpired {id : PaymentId} {world : World}
    {elapsed : Nat} (unexpired : world.unexpired id elapsed = true) :
    LeaseKept id world (world.tick elapsed) := by
  intro key stored
  simp only [World.unexpired, Bool.and_eq_true, decide_eq_true_eq]
    at unexpired
  rw [unexpired.1, stored]

private theorem sound (id : PaymentId) :
    (discipline config id).Sound
      (fun state label => recovering id state label = true) where
  relyRefl := fun _ _ world => .refl id world
  relyTrans := fun _ _ _ _ _ left right => left.trans right
  spawns := by
    intro state task _ admitted
    cases task with
    | submit input =>
        have same := of_decide_eq_true (recovering_eq_true admitted).1
        refine (outline input same).safe_code trivial ?_ _
        intro outcome final ended record created
        cases outcome with
        | ok result =>
            cases created
            exact ended record rfl
        | error error => cases created
    | process job => cases (recovering_eq_true admitted).1
    | handleJobFailure jobData error => cases (recovering_eq_true admitted).1
  permits := by
    intro state pid choice task command resume _ admitted found
    obtain ⟨admitted, stored⟩ := recovering_eq_true admitted
    refine ⟨admitted, ?_⟩
    rintro rfl
    exact of_decide_eq_true stored (pending_eq_of_running found)
  interferes := fun _ _ _ _ _ _ _ _ _ _ _ _ _ _ _ _ kept => kept
  rests := by
    intro state pid choice task program other thread next _ _ _ _ _ _ _ kept
      rest input record ended
    exact kept.owner (rest input record ended)
  ends := by
    intro pid task output world _ post input record ended
    cases ended
    exact post record rfl
  crashes := fun _ _ _ _ _ admitted => by cases (recovering_eq_true admitted).1
  environments := by
    intro state event after _ admitted changed
    cases event with
    | tick elapsed =>
        cases changed
        have kept := leaseKept_of_unexpired (recovering_eq_true admitted).1
        refine ⟨trivial, fun _ _ _ _ => kept, ?_⟩
        intro pid thread _ rest input record ended
        exact kept.owner (rest input record ended)
    | activate queue jobId | complete queue jobId | fail queue jobId =>
        cases (recovering_eq_true admitted).1

private theorem holds_initially (id : PaymentId) (world : World) :
    (discipline config id).Holds (initially world) :=
  Discipline.holds_nil trivial fun _ _ _ found => by cases found

private theorem step_leaseKept {id : PaymentId}
    {state next : PaymentConfig config}
    {label : PaymentLabel config}
    (holds : (discipline config id).Holds state)
    (admitted : recovering id state label = true)
    (taken : (paymentSystem config).step label state = some next) :
    LeaseKept id state.world next.world := by
  cases label with
  | spawn task =>
      cases taken
      exact .refl id state.world
  | run pid choice =>
      obtain ⟨_, _, _, _, _, _, kept, _⟩ := (sound id).run holds admitted taken
      exact kept
  | crash pid => cases (recovering_eq_true admitted).1
  | environment event =>
      obtain ⟨after, changed, rfl⟩ := System.step_environment_eq_some taken
      cases event with
      | tick elapsed =>
          cases changed
          exact leaseKept_of_unexpired (recovering_eq_true admitted).1
      | activate queue jobId | complete queue jobId | fail queue jobId =>
          cases (recovering_eq_true admitted).1

private theorem exclusive_of_holds {id : PaymentId}
    {state : PaymentConfig config}
    (holds : (discipline config id).Holds state) : Exclusive id state := by
  have owner : ∀ pid, created state pid = true →
      leaseOwner state.world id = some pid := by
    intro pid returned
    obtain ⟨input, record, ended⟩ := created_eq_true returned
    have rest := holds.threads pid
    rw [ended] at rest
    exact rest input record rfl
  refine ⟨fun first second created created' => ?_, owner⟩
  exact Option.some.inj ((owner first created).symm.trans (owner second created'))

/-- When no recovery meets a submission between its claim and its save, at
most one submission is accepted and no lease is lost. -/
theorem submit_exclusive (config : AppConfig) (id : PaymentId) (world : World)
    (state : PaymentConfig config)
    (reached : (paymentSystem config).Reaches
      (fun state label => recovering id state label = true)
      (initially world) state) :
    Exclusive id state ∧ ∀ label next, recovering id state label = true →
      (paymentSystem config).step label state = some next →
      LeaseKept id state.world next.world := by
  have holds := (sound id).reaches (holds_initially id world) reached
  exact ⟨exclusive_of_holds holds,
    fun _ _ admitted taken => step_leaseKept holds admitted taken⟩

/-- The second submission starts after the first one has saved its record. -/
def afterSave : List (PaymentLabel .default) :=
  [.spawn (.submit (submission "stripe" 0))] ++ runs 0 3 ++
    [.spawn (.submit (submission "adyen" 0))] ++ runs 1 4 ++ runs 0 3

theorem submit_exclusive_afterSave :
    ∃ state : PaymentConfig .default, created state 0 = true ∧
      state.threads.length = 2 ∧ Exclusive "p1" state := by
  obtain ⟨state, reached, checked⟩ := exists_of_replay
    (paymentSystem .default).step (recovering "p1") afterSave (initially (World.empty 0))
    (fun state => created state 0 && decide (state.threads.length = 2))
    (by decide +kernel)
  rw [Bool.and_eq_true, decide_eq_true_eq] at checked
  exact ⟨state, checked.1, checked.2,
    (submit_exclusive .default "p1" (World.empty 0) state reached).1⟩

/-- The second submission looks for the payment between the first one's claim
and save, deletes its lease and claims again. -/
def betweenClaimAndSave : List (PaymentLabel .default) :=
  [.spawn (.submit (submission "stripe" 0)),
    .spawn (.submit (submission "adyen" 0))] ++
    runs 0 1 ++ runs 1 5 ++ runs 0 5 ++ runs 1 5

theorem submit_not_exclusive :
    ∃ state : PaymentConfig .default,
      (paymentSystem .default).Reaches
        (fun state label => admits "p1" state label = true)
        (initially (World.empty 0)) state ∧
      created state 0 = true ∧ created state 1 = true ∧
      ¬ Exclusive "p1" state := by
  obtain ⟨state, reached, checked⟩ := exists_of_replay
    (paymentSystem .default).step (admits "p1") betweenClaimAndSave (initially (World.empty 0))
    (fun state => created state 0 && created state 1) (by decide +kernel)
  rw [Bool.and_eq_true] at checked
  refine ⟨state, reached, checked.1, checked.2, fun exclusive => ?_⟩
  have same : 0 = 1 := exclusive.1 0 1 checked.1 checked.2
  cases same

end PaymentQueue.Ingress
