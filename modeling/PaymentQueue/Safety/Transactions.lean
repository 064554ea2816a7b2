import Mathlib.Data.List.Chain
import Mathlib.Data.List.Nodup
import Mathlib.Order.Lattice
import PaymentQueue.Await.Calls
import PaymentQueue.Await.Transition
import PaymentQueue.Gateway.MockGateway
import PaymentQueue.Text.Numerals

/-!
# Transaction ids

A successful charge is named by the clock and the counter of charges as they
are when it answers, not by its own number.  Two charges that answer in one
millisecond with no further charge begun between them get the same id, and
these are the only ones that do.
-/

namespace PaymentQueue.Transactions

open Await MockProvider

/-- The clock and the counter behind the ids, the newest first. -/
abbrev Issued := List (Time × Nat)

/-- The charge that answers now, if it succeeds, with what names it. -/
def noteIssued (provider : MockProvider) (label : Label) (issued : Issued) :
    Issued :=
  match label with
  | .answer index =>
      match provider.calls[index]? with
      | some (.charging .ok) =>
          (provider.now, provider.gateway.charges) :: issued
      | _ => issued
  | _ => issued

/-- Runs of one gateway, with what names its successful charges. -/
def Runs (id : String) (start : Time) : MockProvider × Issued → Prop :=
  Reaches (observed MockProvider.step noteIssued) (fun _ _ => True)
    (MockProvider.create id start, [])

def issuedId? : MockCall → Option String
  | .charged (.ok transactionId _) => some transactionId
  | _ => none

/-- The ids of all successful charges. -/
def transactionIds (provider : MockProvider) : List String :=
  provider.calls.filterMap issuedId?

/-- Between two successful answers a millisecond passes or a charge begins. -/
def Spaced (issued : Issued) : Prop :=
  issued.IsChain (· ≠ ·)

instance (issued : Issued) : Decidable (Spaced issued) :=
  inferInstanceAs (Decidable (List.IsChain _ _))

private theorem toString36_go {fuel value : Nat} (enough : value < fuel)
    (digits : List Char) :
    toString36.go fuel value digits =
      (Text.digits36 value).map Text.digit36 ++ digits := by
  induction fuel generalizing value digits with
  | zero => omega
  | succ fuel induction =>
      rw [toString36.go]
      split
      case isTrue small =>
        rw [Text.digits36_of_lt small]
        rfl
      case isFalse large =>
        have smaller : value / 36 < fuel := by omega
        have digits36 : Text.digits36 value =
            Text.digits36 (value / 36) ++ [value % 36] :=
          Text.digits36_of_le (Nat.not_lt.mp large)
        rw [induction smaller, digits36, List.map_append, List.append_assoc]
        rfl

private theorem toString36_eq (value : Nat) :
    toString36 value = Text.toString36 value := by
  rw [toString36, Text.toString36, toString36_go (Nat.lt_succ_self value),
    List.append_nil]

private theorem transactionId_injective {id : String} {now later : Time}
    {charges count : Nat}
    (same : MockGateway.transactionId id now charges =
      MockGateway.transactionId id later count) :
    (now, charges) = (later, count) := by
  have lists := congrArg String.toList same
  simp only [MockGateway.transactionId, toString36_eq, String.toList_append,
    List.append_cancel_left_eq] at lists
  obtain ⟨rfl, rfl⟩ := Text.separated_inj
    (String.toList_injective (by simpa using lists))
  rfl

private theorem falling_of_spaced {issued : Issued}
    (grown : issued.IsChain (fun later earlier => earlier ≤ later))
    (spaced : Spaced issued) : issued.IsChain (· > ·) := by
  induction issued with
  | nil => exact .nil
  | cons later issued induction =>
      cases issued with
      | nil => exact .singleton later
      | cons earlier issued =>
          rw [Spaced, List.isChain_cons_cons] at spaced
          rw [List.isChain_cons_cons] at grown ⊢
          exact ⟨lt_of_le_of_ne grown.1 (Ne.symm spaced.1),
            induction grown.2 spaced.2⟩

/-- Clock and counter only grow, so answers that agree are adjacent. -/
theorem nodup_iff_spaced {issued : Issued}
    (grown : issued.IsChain (fun later earlier => earlier ≤ later)) :
    issued.Nodup ↔ Spaced issued := by
  constructor
  · intro nodup
    exact List.Pairwise.isChain nodup
  · intro spaced
    have falling := (falling_of_spaced grown spaced).pairwise
    exact falling.imp fun below => ne_of_gt below

/-- The ids are those of the noted answers, and none is ahead of the clock or
the counter. -/
structure Noted (id : String) (provider : MockProvider) (issued : Issued) :
    Prop where
  named : provider.gateway.id = id
  ids : (transactionIds provider).Perm
    (issued.map fun entry => MockGateway.transactionId id entry.1 entry.2)
  grown : issued.IsChain (fun later earlier => earlier ≤ later)
  behind : ∀ entry ∈ issued,
    entry ≤ (provider.now, provider.gateway.charges)

variable {id : String} {provider next : MockProvider} {issued : Issued}

private theorem noted_create (id : String) (start : Time) :
    Noted id (MockProvider.create id start) [] :=
  ⟨rfl, .nil, .nil, nofun⟩

/-- A step that answers no charge. -/
theorem Noted.quiet (noted : Noted id provider issued)
    (named : next.gateway.id = provider.gateway.id)
    (same : transactionIds next = transactionIds provider)
    (clock : provider.now ≤ next.now)
    (counter : provider.gateway.charges ≤ next.gateway.charges) :
    Noted id next issued := by
  refine ⟨named.trans noted.named, ?_, noted.grown, ?_⟩
  · rw [same]
    exact noted.ids
  · intro entry member
    exact le_trans (noted.behind entry member) ⟨clock, counter⟩

/-- A charge succeeds. -/
theorem Noted.issue (noted : Noted id provider issued)
    (named : next.gateway.id = provider.gateway.id)
    (ids : (transactionIds next).Perm (MockGateway.transactionId
      provider.gateway.id provider.now provider.gateway.charges ::
        transactionIds provider))
    (clock : next.now = provider.now)
    (counter : next.gateway.charges = provider.gateway.charges) :
    Noted id next ((provider.now, provider.gateway.charges) :: issued) := by
  refine ⟨named.trans noted.named, ?_, ?_, ?_⟩
  · rw [noted.named] at ids
    exact ids.trans (noted.ids.cons _)
  · cases issued with
    | nil => exact .singleton _
    | cons entry issued =>
        rw [List.isChain_cons_cons]
        exact ⟨noted.behind entry List.mem_cons_self, noted.grown⟩
  · rw [clock, counter]
    intro entry member
    rcases List.mem_cons.mp member with rfl | old
    · exact le_refl _
    · exact noted.behind entry old

/-- An answer takes the place of a call that had not issued an id. -/
theorem transactionIds_set {calls : List MockCall} {index : Nat}
    {call : MockCall} (found : calls[index]? = some call)
    (none : issuedId? call = none) (moved : MockCall) :
    ((calls.set index moved).filterMap issuedId?).Perm
      ((issuedId? moved).toList ++ calls.filterMap issuedId?) := by
  have before := filterMap_perm issuedId? found
  rw [none, Option.toList_none, List.nil_append] at before
  exact (filterMap_set_perm issuedId? found moved).trans
    (before.symm.append_left _)

private theorem nextStep_frame (gateway : MockGateway) :
    gateway.nextStep.2.id = gateway.id ∧
      gateway.nextStep.2.charges = gateway.charges := by
  rw [MockGateway.nextStep]
  split <;> exact ⟨rfl, rfl⟩

private theorem beginRefund_frame (gateway : MockGateway) :
    gateway.beginRefund.2.id = gateway.id ∧
      gateway.beginRefund.2.charges = gateway.charges := by
  rw [MockGateway.beginRefund, MockGateway.nextRefundStep]
  split <;> exact ⟨rfl, rfl⟩

private theorem answerRefund_frame (transactionId : String)
    (step : Option MockStep)
    (gateway : MockGateway) :
    (gateway.answerRefund transactionId step).2.id = gateway.id ∧
      (gateway.answerRefund transactionId step).2.charges =
        gateway.charges := by
  cases step with
  | none => exact ⟨rfl, rfl⟩
  | some step => cases step <;> exact ⟨rfl, rfl⟩

private theorem transactionIds_append {calls : List MockCall} {call : MockCall}
    (none : issuedId? call = none) :
    (calls ++ [call]).filterMap issuedId? = calls.filterMap issuedId? := by
  simp [List.filterMap_append, none]

private theorem noted_step {label : Label} (noted : Noted id provider issued)
    (taken : MockProvider.step label provider = some next) :
    Noted id next (noteIssued provider label issued) := by
  cases label with
  | tick elapsed =>
      cases taken
      exact noted.quiet rfl rfl (Nat.le_add_right _ _) (Nat.le_refl _)
  | charge =>
      cases taken
      obtain ⟨named, counter⟩ := nextStep_frame provider.gateway
      refine noted.quiet named (transactionIds_append rfl) (Nat.le_refl _) ?_
      exact Nat.le_trans (Nat.le_of_eq counter.symm) (Nat.le_add_right _ 1)
  | refund transactionId =>
      cases taken
      obtain ⟨named, counter⟩ := beginRefund_frame provider.gateway
      exact noted.quiet named (transactionIds_append rfl) (Nat.le_refl _)
        (Nat.le_of_eq counter.symm)
  | configure overrides =>
      cases taken
      exact noted.quiet rfl rfl (Nat.le_refl _) (Nat.le_refl _)
  | answer index =>
      simp only [MockProvider.step] at taken
      split at taken
      case h_1 step found =>
        cases taken
        have moved := transactionIds_set found rfl
          (.charged (provider.gateway.answerCharge provider.now step).1)
        cases step with
        | ok =>
            simp only [noteIssued, found]
            exact noted.issue rfl moved rfl rfl
        | fail httpStatus code =>
            simp only [noteIssued, found]
            refine ⟨noted.named, moved.trans noted.ids, noted.grown,
              noted.behind⟩
      case h_2 transactionId step found =>
        cases taken
        have moved := transactionIds_set found rfl
          (.refunded (provider.gateway.answerRefund transactionId step).1)
        obtain ⟨named, counter⟩ :=
          answerRefund_frame transactionId step provider.gateway
        simp only [noteIssued, found]
        refine ⟨named.trans noted.named, moved.trans noted.ids, noted.grown,
          ?_⟩
        intro entry member
        simp only [counter]
        exact noted.behind entry member
      case h_3 => cases taken

/-- The transaction ids of a gateway are distinct exactly if between any two
successful answers in a row a millisecond passes or a charge begins. -/
theorem transactionIds_nodup_iff (id : String) (start : Time)
    {provider : MockProvider} {issued : Issued}
    (reached : Runs id start (provider, issued)) :
    (transactionIds provider).Nodup ↔ Spaced issued := by
  have noted : Noted id provider issued := by
    have invariant := @Reaches.invariant _ _ _ _
      (fun state => Noted id state.1 state.2) _ _ reached
    apply invariant (noted_create id start)
    intro state label next noted _ taken
    obtain ⟨moved, same⟩ := observed_eq_some.mp taken
    rw [same]
    exact noted_step noted moved
  rw [noted.ids.nodup_iff, ← nodup_iff_spaced noted.grown]
  apply List.nodup_map_iff
  intro first second same
  exact transactionId_injective same

/-- Two charges that sleep equally long, one begun a millisecond later. -/
theorem transactionIds_nodup_in_turn :
    ∃ (provider : MockProvider) (issued : Issued),
      Runs "stripe" 1000 (provider, issued) ∧
      transactionIds provider = ["stripe_txn_s1_2", "stripe_txn_s2_2"] ∧
      (transactionIds provider).Nodup := by
  obtain ⟨⟨provider, issued⟩, reached, checked⟩ := exists_of_replay
    (observed MockProvider.step noteIssued) (fun _ _ => true)
    [.charge, .tick 1, .charge, .tick 8, .answer 0, .tick 1, .answer 1]
    (MockProvider.create "stripe" 1000, [])
    (fun state => decide (transactionIds state.1 =
      ["stripe_txn_s1_2", "stripe_txn_s2_2"] ∧ Spaced state.2))
    (by decide +kernel)
  rw [decide_eq_true_eq] at checked
  have run : Runs "stripe" 1000 (provider, issued) :=
    reached.mono fun _ _ _ => trivial
  exact ⟨provider, issued, run, checked.1,
    (transactionIds_nodup_iff "stripe" 1000 run).mpr checked.2⟩

/-- Two charges that begin together and answer together. -/
theorem transactionIds_repeated :
    ¬ ∀ (id : String) (start : Time) (provider : MockProvider)
      (issued : Issued), Runs id start (provider, issued) →
        (transactionIds provider).Nodup := by
  intro distinct
  obtain ⟨⟨provider, issued⟩, reached, checked⟩ := exists_of_replay
    (observed MockProvider.step noteIssued) (fun _ _ => true)
    [.charge, .charge, .tick 10, .answer 0, .answer 1]
    (MockProvider.create "stripe" 1000, [])
    (fun state => decide (transactionIds state.1 =
      ["stripe_txn_s2_2", "stripe_txn_s2_2"]))
    (by decide +kernel)
  have nodup := distinct "stripe" 1000 provider issued
    (reached.mono fun _ _ _ => trivial)
  rw [of_decide_eq_true checked] at nodup
  exact absurd nodup (by decide)

end PaymentQueue.Transactions
