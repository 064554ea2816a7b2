import PaymentQueue.Await.Upholds
import Mathlib.Algebra.Order.Monoid.Canonical.Defs
import Mathlib.Algebra.BigOperators.Group.List.Basic
import Mathlib.Tactic.Abel
import Mathlib.Tactic.GCongr

/-!
# Budgets of processes

A tariff says what a command costs and what it brings in, once its outcome is
known.  A process that never spends what it has not got cannot make the system
as a whole spend more than it has earned: what is spent and what the processes
still hold stays below what was earned and what they were given at the start.
-/

namespace Await

variable {signature : Signature} {α β Credit : Type}

/-- What a command costs, and what it brings in afterwards. -/
structure Tariff (signature : Signature) (Credit : Type) where
  cost : (command : signature.Command) →
    Except signature.Error (signature.Result command) → Credit
  gain : (command : signature.Command) →
    Except signature.Error (signature.Result command) → Credit

variable [AddCommMonoid Credit] [PartialOrder Credit]

namespace Program

/-- The program pays every command out of its credit, whatever the replies of
the footprint, and ends with a value that fits what is left. -/
def Affords (footprint : Footprint signature) (tariff : Tariff signature Credit)
    (result : α → Credit → Prop) : Program signature α → Credit → Prop
  | .done value, credit => ∃ left ≤ credit, result value left
  | .await command resume, credit =>
      footprint.permitted command ∧ ∀ time outcome,
        footprint.replies command outcome →
        ∃ rest, tariff.cost command outcome + rest ≤ credit ∧
          (resume time outcome).Affords footprint tariff result
            (rest + tariff.gain command outcome)

variable {footprint : Footprint signature} {tariff : Tariff signature Credit}
  {result : α → Credit → Prop} {program : Program signature α}
  {credit : Credit}

theorem Affords.more {larger : Credit}
    (affords : program.Affords footprint tariff result credit)
    (richer : credit ≤ larger) :
    program.Affords footprint tariff result larger := by
  cases program with
  | done value =>
      obtain ⟨left, within, held⟩ := affords
      exact ⟨left, within.trans richer, held⟩
  | await command resume =>
      refine ⟨affords.1, ?_⟩
      intro time outcome replied
      obtain ⟨rest, paid, continues⟩ := affords.2 time outcome replied
      exact ⟨rest, paid.trans richer, continues⟩

theorem Affords.imp {result' : α → Credit → Prop}
    (affords : program.Affords footprint tariff result credit)
    (values : ∀ value left, result value left → result' value left) :
    program.Affords footprint tariff result' credit := by
  induction program generalizing credit with
  | done value =>
      obtain ⟨left, within, held⟩ := affords
      exact ⟨left, within, values value left held⟩
  | await command resume induction =>
      refine ⟨affords.1, ?_⟩
      intro time outcome replied
      obtain ⟨rest, paid, continues⟩ := affords.2 time outcome replied
      exact ⟨rest, paid, induction time outcome continues⟩

theorem Affords.bind {result' : β → Credit → Prop}
    {next : α → Program signature β}
    (affords : program.Affords footprint tariff (fun value left =>
      (next value).Affords footprint tariff result' left) credit) :
    (program.bind next).Affords footprint tariff result' credit := by
  induction program generalizing credit with
  | done value =>
      obtain ⟨left, within, continues⟩ := affords
      exact continues.more within
  | await command resume induction =>
      refine ⟨affords.1, ?_⟩
      intro time outcome replied
      obtain ⟨rest, paid, continues⟩ := affords.2 time outcome replied
      exact ⟨rest, paid, induction time outcome continues⟩

/-- A program within its budget is within its footprint. -/
theorem Affords.uses
    (affords : program.Affords footprint tariff result credit) :
    program.Uses footprint fun _ => True := by
  induction program generalizing credit with
  | done value => exact trivial
  | await command resume induction =>
      refine ⟨affords.1, ?_⟩
      intro time outcome replied
      obtain ⟨rest, -, continues⟩ := affords.2 time outcome replied
      exact induction time outcome continues

end Program

/-- The commands of a footprint that no money goes through. -/
def Tariff.idle (tariff : Tariff signature Credit)
    (footprint : Footprint signature) : Footprint signature where
  permitted := fun command => footprint.permitted command ∧ ∀ outcome,
    tariff.cost command outcome = 0 ∧ tariff.gain command outcome = 0
  replies := footprint.replies

variable {footprint : Footprint signature} {tariff : Tariff signature Credit}

/-- A program that no money goes through keeps its credit. -/
theorem Program.Uses.affords {program : Program signature α}
    {result : α → Prop} (uses : program.Uses (tariff.idle footprint) result)
    (credit : Credit) :
    program.Affords footprint tariff
      (fun value left => result value ∧ left = credit) credit := by
  induction program with
  | done value => exact ⟨credit, le_refl _, uses, rfl⟩
  | await command resume induction =>
      obtain ⟨⟨permitted, idle⟩, continues⟩ := uses
      refine ⟨permitted, ?_⟩
      intro time outcome replied
      obtain ⟨free, fruitless⟩ := idle outcome
      rw [free, fruitless]
      exact ⟨credit, by rw [zero_add], by
        rw [add_zero]
        exact induction time outcome (continues time outcome replied)⟩

/-- Commands of the footprint keep the invariant and the accounts, and what the
others do takes nothing away. -/
structure Accounted {machine : Machine signature} (contract : Contract machine)
    (pid : Nat) (footprint : Footprint signature)
    (tariff : Tariff signature Credit) (invariant : machine.World → Prop)
    (spent earned : machine.World → Credit) : Prop where
  moves : ∀ first second, contract.rely first second → invariant first →
    invariant second ∧ spent second ≤ spent first ∧
      earned first ≤ earned second
  executes : ∀ command choice before outcome after, invariant before →
    footprint.permitted command → contract.allowed command choice before →
    machine.exec pid command choice before = some (outcome, after) →
    footprint.replies command outcome ∧ invariant after
  accounts : ∀ command choice before outcome after,
    contract.allowed command choice before →
    machine.exec pid command choice before = some (outcome, after) →
    spent after ≤ spent before + tariff.cost command outcome ∧
      earned before + tariff.gain command outcome ≤ earned after

/-- One execution spends no more than its credit and what it earns, and leaves
what its result says. -/
theorem Program.Affords.completes [IsOrderedCancelAddMonoid Credit]
    {machine : Machine signature} {contract : Contract machine} {pid : Nat}
    {invariant : machine.World → Prop} {spent earned : machine.World → Credit}
    {program : Program signature α} {result : α → Credit → Prop}
    {credit : Credit} {world final : machine.World} {value : α}
    (affords : program.Affords footprint tariff result credit)
    (accounted : Accounted contract pid footprint tariff invariant spent earned)
    (holds : invariant world)
    (completes : program.Completes contract pid world value final) :
    invariant final ∧ ∃ left, result value left ∧
      spent final + left + earned world ≤
        spent world + credit + earned final := by
  induction completes generalizing credit with
  | done value world =>
      obtain ⟨left, within, held⟩ := affords
      exact ⟨holds, left, held, by gcongr⟩
  | @await command resume world before after final choice outcome value moved
      allowed executed _ induction =>
      obtain ⟨permitted, continues⟩ := affords
      obtain ⟨holds, spends, earns⟩ := accounted.moves _ _ moved holds
      obtain ⟨replied, holds⟩ := accounted.executes _ _ _ _ _ holds permitted
        allowed executed
      obtain ⟨spends', earns'⟩ := accounted.accounts _ _ _ _ _ allowed executed
      obtain ⟨rest, paid, affords⟩ := continues _ outcome replied
      obtain ⟨holds, left, held, within⟩ := induction affords holds
      refine ⟨holds, left, held, ?_⟩
      -- the gain of the command is on both sides
      apply le_of_add_le_add_right (a := tariff.gain command outcome)
      calc spent final + left + earned world + tariff.gain command outcome
          ≤ spent final + left + (earned before +
              tariff.gain command outcome) := by
            rw [add_assoc _ (earned world)]
            gcongr
        _ ≤ spent final + left + earned after := by gcongr
        _ ≤ spent after + (rest + tariff.gain command outcome) +
              earned final := within
        _ ≤ spent world + tariff.cost command outcome +
              (rest + tariff.gain command outcome) + earned final := by
            gcongr
            exact spends'.trans (add_le_add_left spends _)
        _ = spent world + (tariff.cost command outcome + rest) +
              earned final + tariff.gain command outcome := by abel
        _ ≤ spent world + credit + earned final +
              tariff.gain command outcome := by gcongr

namespace Async

variable {locals inner : Type} {vars : locals} {inside : locals → Prop}
  {ends : Except signature.Error α → locals → Credit → Prop} {credit : Credit}

/-- A function body pays every command out of the credit of its caller. -/
def Affords (footprint : Footprint signature)
    (tariff : Tariff signature Credit)
    (ends : Except signature.Error α → locals → Credit → Prop)
    (body : Async signature locals α) (vars : locals) (credit : Credit) :
    Prop :=
  ∀ time, (body time vars).Affords footprint tariff
    (fun final left => ends final.outcome final.locals left) credit

theorem Affords.more {larger : Credit} {body : Async signature locals α}
    (affords : Affords footprint tariff ends body vars credit)
    (richer : credit ≤ larger) :
    Affords footprint tariff ends body vars larger :=
  fun time => (affords time).more richer

theorem Affords.imp
    {ends' : Except signature.Error α → locals → Credit → Prop}
    {body : Async signature locals α}
    (affords : Affords footprint tariff ends body vars credit)
    (values : ∀ outcome left kept, ends outcome left kept →
      ends' outcome left kept) :
    Affords footprint tariff ends' body vars credit :=
  fun time => (affords time).imp fun final =>
    values final.outcome final.locals

/-- A body that no money goes through leaves the credit to its caller. -/
theorem Stays.affords {body : Async signature locals α}
    (stays : Stays (tariff.idle footprint) inside body)
    (held : inside vars)
    (values : ∀ outcome left, inside left → ends outcome left credit) :
    Affords footprint tariff ends body vars credit := by
  intro time
  refine ((stays vars held time).affords credit).imp ?_
  rintro final left ⟨kept, rfl⟩
  exact values final.outcome final.locals kept

theorem affords_pure {value : α} (held : ends (.ok value) vars credit) :
    Affords footprint tariff ends (Pure.pure value) vars credit :=
  fun _ => ⟨credit, le_refl _, held⟩

theorem affords_throw {error : signature.Error}
    (held : ends (.error error) vars credit) :
    Affords footprint tariff ends (throw error) vars credit :=
  fun _ => ⟨credit, le_refl _, held⟩

theorem affords_await {command : signature.Command}
    {ends : Except signature.Error (signature.Result command) → locals →
      Credit → Prop}
    (permitted : footprint.permitted command)
    (paid : ∀ outcome, footprint.replies command outcome →
      ∃ rest, tariff.cost command outcome + rest ≤ credit ∧
        ends outcome vars (rest + tariff.gain command outcome)) :
    Affords footprint tariff ends (await command) vars credit := by
  refine fun _ => ⟨permitted, ?_⟩
  intro time outcome replied
  obtain ⟨rest, covers, held⟩ := paid outcome replied
  exact ⟨rest, covers, _, le_refl _, held⟩

theorem affords_bind {ends : Except signature.Error β → locals → Credit → Prop}
    {action : Async signature locals α}
    {next : α → Async signature locals β}
    (first : Affords footprint tariff (fun outcome left kept =>
      match outcome with
      | .ok value => Affords footprint tariff ends (next value) left kept
      | .error error => ends (.error error) left kept) action vars credit) :
    Affords footprint tariff ends (action >>= next) vars credit := by
  intro time
  refine ((first time).imp ?_).bind
  intro final left held
  cases outcome : final.outcome with
  | ok value =>
      simp only [outcome] at held
      exact held final.time
  | error error =>
      simp only [outcome] at held
      exact ⟨left, le_refl _, held⟩

/-- A first statement that no money goes through. -/
theorem affords_stays_bind
    {ends : Except signature.Error β → locals → Credit → Prop}
    {action : Async signature locals α}
    {next : α → Async signature locals β}
    (first : Stays (tariff.idle footprint) inside action)
    (held : inside vars)
    (rest : ∀ value left, inside left →
      Affords footprint tariff ends (next value) left credit)
    (fails : ∀ error left, inside left → ends (.error error) left credit) :
    Affords footprint tariff ends (action >>= next) vars credit := by
  apply affords_bind
  refine first.affords held ?_
  intro outcome left kept
  cases outcome with
  | ok value => exact rest value left kept
  | error error => exact fails error left kept

theorem affords_get_bind
    {ends : Except signature.Error β → locals → Credit → Prop}
    {next : locals → Async signature locals β}
    (rest : Affords footprint tariff ends (next vars) vars credit) :
    Affords footprint tariff ends (get >>= next) vars credit :=
  affords_bind fun _ => ⟨credit, le_refl _, rest⟩

theorem affords_tryCatch {body : Async signature locals α}
    {handler : signature.Error → Async signature locals α}
    (first : Affords footprint tariff (fun outcome left kept =>
      match outcome with
      | .ok value => ends (.ok value) left kept
      | .error error =>
          Affords footprint tariff ends (handler error) left kept)
      body vars credit) :
    Affords footprint tariff ends (tryCatch body handler) vars credit := by
  intro time
  refine ((first time).imp ?_).bind
  intro final left held
  cases outcome : final.outcome with
  | ok value =>
      simp only [outcome] at held
      exact ⟨left, le_refl _, held⟩
  | error error =>
      simp only [outcome] at held
      exact held final.time

/-- A cleanup that no money goes through. -/
theorem affords_tryFinally {body : Async signature locals α}
    {cleanup : Async signature locals Unit}
    (first : Affords footprint tariff (fun _ left _ => inside left) body vars
      credit) (last : Stays (tariff.idle footprint) inside cleanup) :
    Affords footprint tariff (fun _ left _ => inside left)
      (tryFinally body cleanup) vars credit := by
  intro time
  refine ((first time).imp ?_).bind
  intro final left held
  refine (((last _ held final.time).affords left).imp ?_).bind
  rintro cleaned _ ⟨kept, rfl⟩
  cases cleaned.outcome with
  | ok value => exact ⟨_, le_refl _, kept⟩
  | error error => exact ⟨_, le_refl _, kept⟩

theorem affords_scope {initial : inner} {body : Async signature inner α}
    (first : Affords footprint tariff
      (fun outcome _ kept => ends outcome vars kept) body initial credit) :
    Affords footprint tariff ends
      (scope initial body : Async signature locals α) vars credit := by
  intro time
  refine ((first time).imp ?_).bind
  intro final left held
  exact ⟨left, le_refl _, held⟩

/-- The program of a body that is started as a process. -/
theorem Affords.start {body : Async signature Unit α}
    (affords : Affords footprint tariff (fun _ _ _ => True) body () credit)
    (time : Nat) :
    (body.start time).Affords footprint tariff (fun _ _ => True) credit := by
  refine ((affords time).imp ?_).bind
  intro final left _
  exact ⟨left, le_refl _, trivial⟩

end Async

variable {system : System signature}

/-- The credit a process holds.  One that has ended or crashed needs none. -/
def Thread.Affords (footprint : Footprint signature)
    (tariff : Tariff signature Credit) : Thread system → Credit → Prop
  | .running _ program, credit =>
      program.Affords footprint tariff (fun _ _ => True) credit
  | _, _ => True

theorem Thread.affords_resume {task : system.Task}
    {program : Program signature system.Output} {credit : Credit}
    (affords : program.Affords footprint tariff (fun _ _ => True) credit) :
    (Thread.resume task program).Affords footprint tariff credit := by
  cases program with
  | done output => exact trivial
  | await command resume => exact affords

/-- What the processes were given at their start. -/
def Config.granted (grants : system.Task → Credit) (config : Config system) :
    Credit :=
  (config.threads.map fun thread => grants thread.task).sum

/-- The programs live within the credit they are given, and the world keeps
account: `spent` grows by at most the cost of a command, `earned` by at least
its gain. -/
structure Budget (system : System signature)
    (admits : Config system → Label system → Prop)
    (footprint : Footprint signature) (tariff : Tariff signature Credit)
    (invariant : system.World → Prop) (grants : system.Task → Credit)
    (spent earned : system.World → Credit) : Prop where
  codes : ∀ config task, invariant config.world →
    admits config (.spawn task) →
    (system.code task (system.clock config.world)).Affords footprint tariff
      (fun _ _ => True) (grants task)
  keeps : ∀ config pid choice command outcome after,
    invariant config.world → admits config (.run pid choice) →
    footprint.permitted command →
    system.exec pid command choice config.world = some (outcome, after) →
    footprint.replies command outcome ∧ invariant after
  accounts : ∀ config pid choice task command resume outcome after,
    admits config (.run pid choice) →
    config.threads[pid]? = some (.running task (.await command resume)) →
    system.exec pid command choice config.world = some (outcome, after) →
    spent after ≤ spent config.world + tariff.cost command outcome ∧
      earned config.world + tariff.gain command outcome ≤ earned after
  environments : ∀ config event after, invariant config.world →
    admits config (.environment event) →
    system.environment event config.world = some after →
    invariant after ∧ spent after ≤ spent config.world ∧
      earned config.world ≤ earned after

/-- Every process holds a credit, and all of it was earned or given. -/
def Balanced (footprint : Footprint signature)
    (tariff : Tariff signature Credit) (grants : system.Task → Credit)
    (spent earned : system.World → Credit) (config : Config system) : Prop :=
  ∃ credits : List Credit,
    List.Forall₂ (fun thread credit => thread.Affords footprint tariff credit)
      config.threads credits ∧
    spent config.world + credits.sum ≤
      earned config.world + config.granted grants

section Accounts

omit [PartialOrder Credit]

/-- A process is replaced by one that holds another credit. -/
theorem forall₂_set {related : Thread system → Credit → Prop}
    {threads : List (Thread system)} {credits : List Credit}
    (held : List.Forall₂ related threads credits) {pid : Nat}
    {thread : Thread system} (found : threads[pid]? = some thread)
    (thread' : Thread system) :
    ∃ credit others, related thread credit ∧ credits.sum = credit + others ∧
      ∀ credit', related thread' credit' → ∃ credits',
        List.Forall₂ related (threads.set pid thread') credits' ∧
        credits'.sum = credit' + others := by
  induction held generalizing pid with
  | nil => cases found
  | @cons head credit threads credits first rest induction =>
      cases pid with
      | zero =>
          cases found
          refine ⟨credit, credits.sum, first, List.sum_cons, ?_⟩
          intro credit' first'
          exact ⟨credit' :: credits, .cons first' rest, List.sum_cons⟩
      | succ pid =>
          obtain ⟨own, others, holds, total, replaced⟩ := induction found
          refine ⟨own, credit + others, holds, ?_, ?_⟩
          · rw [List.sum_cons, total, add_left_comm]
          · intro credit' holds'
            obtain ⟨credits', kept, total'⟩ := replaced credit' holds'
            refine ⟨credit :: credits', .cons first kept, ?_⟩
            rw [List.sum_cons, total', add_left_comm]

variable {grants : system.Task → Credit} {config : Config system}

/-- Grants depend on the tasks only. -/
theorem granted_set {pid : Nat} {thread thread' : Thread system}
    {world : system.World} (found : config.threads[pid]? = some thread)
    (same : thread'.task = thread.task) :
    Config.granted grants { world, threads := config.threads.set pid thread' } =
      config.granted grants := by
  obtain ⟨inside, rfl⟩ := List.getElem?_eq_some_iff.mp found
  have mapped : pid < (config.threads.map fun thread =>
      grants thread.task).length := by simpa using inside
  have own : grants thread'.task = (config.threads.map fun thread =>
      grants thread.task)[pid] := by
    rw [List.getElem_map, same]
  simp only [Config.granted, List.map_set]
  rw [own, List.set_getElem_self]

private theorem granted_append {task : system.Task}
    {program : Program signature system.Output} :
    Config.granted grants { config with
      threads := config.threads ++ [Thread.resume task program] } =
        config.granted grants + grants task := by
  simp [Config.granted]

end Accounts

namespace Budget

variable [IsOrderedAddMonoid Credit]
  {admits : Config system → Label system → Prop}
  {invariant : system.World → Prop} {grants : system.Task → Credit}
  {spent earned : system.World → Credit} {config next : Config system}
  (budget : Budget system admits footprint tariff invariant grants spent
    earned)

include budget

omit [IsOrderedAddMonoid Credit] in
/-- The footprints of the programs follow from their budgets. -/
theorem upholds :
    Upholds system admits footprint (fun _ _ => True) invariant where
  codes := fun config task holds admitted =>
    (budget.codes config task holds admitted).uses
  executes := budget.keeps
  environments := fun config event after holds admitted changed =>
    (budget.environments config event after holds admitted changed).1

theorem step {label : Label system} (holds : invariant config.world)
    (balanced : Balanced footprint tariff grants spent earned config)
    (admitted : admits config label)
    (taken : system.step label config = some next) :
    Balanced footprint tariff grants spent earned next := by
  obtain ⟨credits, held, covered⟩ := balanced
  cases label with
  | spawn task =>
      cases taken
      have affords := budget.codes config task holds admitted
      refine ⟨credits ++ [grants task], ?_, ?_⟩
      · exact List.rel_append held (.cons (Thread.affords_resume affords) .nil)
      · rw [List.sum_append, List.sum_singleton, ← add_assoc, granted_append,
          ← add_assoc]
        exact add_le_add_left covered _
  | run pid choice =>
      obtain ⟨task, command, resume, outcome, after, found, executed, rfl⟩ :=
        System.step_run_eq_some taken
      obtain ⟨credit, others, ⟨permitted, continues⟩, total, replaced⟩ :=
        forall₂_set held found
          (Thread.resume task (resume (system.clock config.world) outcome))
      obtain ⟨replied, -⟩ := budget.keeps config pid choice command outcome
        after holds admitted permitted executed
      obtain ⟨spends, earns⟩ := budget.accounts config pid choice task command
        resume outcome after admitted found executed
      obtain ⟨rest, paid, affords⟩ := continues _ outcome replied
      obtain ⟨credits', held', total'⟩ :=
        replaced _ (Thread.affords_resume affords)
      have same : (Thread.resume task (resume (system.clock config.world)
          outcome)).task = (Thread.running task (.await command resume)).task :=
        Thread.resume_task task _
      refine ⟨credits', held', ?_⟩
      rw [granted_set found same, total']
      rw [total] at covered
      calc spent after + (rest + tariff.gain command outcome + others)
          ≤ spent config.world + tariff.cost command outcome +
              (rest + tariff.gain command outcome + others) :=
            add_le_add_left spends _
        _ = spent config.world + (tariff.cost command outcome + rest +
              others) + tariff.gain command outcome := by abel
        _ ≤ spent config.world + (credit + others) +
              tariff.gain command outcome := by gcongr
        _ ≤ earned config.world + config.granted grants +
              tariff.gain command outcome := by gcongr
        _ = earned config.world + tariff.gain command outcome +
              config.granted grants := by abel
        _ ≤ earned after + config.granted grants := by gcongr
  | crash pid =>
      obtain ⟨task, program, found, rfl⟩ := System.step_crash_eq_some taken
      have same : (Thread.crashed task).task =
          (Thread.running task program).task := rfl
      obtain ⟨credit, others, -, total, replaced⟩ :=
        forall₂_set held found (Thread.crashed task)
      obtain ⟨credits', held', total'⟩ := replaced credit trivial
      refine ⟨credits', held', ?_⟩
      rw [granted_set found same, total', ← total]
      exact covered
  | environment event =>
      obtain ⟨after, changed, rfl⟩ := System.step_environment_eq_some taken
      obtain ⟨-, spends, earns⟩ :=
        budget.environments config event after holds admitted changed
      refine ⟨credits, held, ?_⟩
      exact (add_le_add_left spends _).trans
        (covered.trans (add_le_add_left earns _))

theorem reaches {world : system.World} (holds : invariant world)
    (covered : spent world ≤ earned world)
    (reached : system.Reaches admits ⟨world, []⟩ config) :
    Balanced footprint tariff grants spent earned config := by
  have upheld : Upheld footprint (fun _ _ => True) invariant ⟨world, []⟩ :=
    upheld_nil holds
  obtain ⟨-, reached⟩ :=
    reached.strengthen upheld fun _ _ _ => budget.upholds.step
  apply reached.invariant
  · exact ⟨[], .nil, by simpa [Config.granted] using covered⟩
  · rintro state label next balanced ⟨upheld, admitted⟩ taken
    exact budget.step upheld.invariant balanced admitted taken

/-- No run spends more than was earned in it and given to its processes. -/
theorem covers [CanonicallyOrderedAdd Credit] {world : system.World}
    (holds : invariant world) (covered : spent world ≤ earned world)
    (reached : system.Reaches admits ⟨world, []⟩ config) :
    spent config.world ≤ earned config.world + config.granted grants := by
  obtain ⟨credits, -, balanced⟩ := budget.reaches holds covered reached
  exact le_self_add.trans balanced

end Budget

end Await
