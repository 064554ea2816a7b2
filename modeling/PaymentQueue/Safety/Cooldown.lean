import Mathlib.Tactic.Linarith
import PaymentQueue.Await.Pairs
import PaymentQueue.Metrics.Alerts

/-!
# The cooldown of alerts

An active alert is emitted again only after the cooldown.  An alert that was
cleared is forgotten, and its next emission does not wait.
-/

namespace PaymentQueue.Cooldown

open Await MetricsCollector

variable {config : MetricsConfig} {now : Time} {collector : MetricsCollector}
  {past : List AlertEmission}

/-- What the collector emits along a run. -/
def emissions (config : MetricsConfig) (collector : MetricsCollector)
    (calls : List (Timed CollectorOp)) : List AlertEmission :=
  (answers (perform config) collector calls).flatMap Prod.snd

/-- Emissions of the same alert are at least the cooldown apart. -/
def Spaced (cooldownMs : ℚ) (emitted : List AlertEmission) : Prop :=
  emitted.Pairwise fun earlier later =>
    earlier.alert.id = later.alert.id →
      cooldownMs ≤ (later.atTime : ℚ) - earlier.atTime

instance (cooldownMs : ℚ) (emitted : List AlertEmission) :
    Decidable (Spaced cooldownMs emitted) :=
  inferInstanceAs (Decidable (List.Pairwise _ _))

/-- The alert is not raised anew before the cooldown of its last emission is
over. -/
def Rests (config : MetricsConfig) (now : Time) (collector : MetricsCollector)
    (id : String) : Prop :=
  collector.has id = false → ∀ last, collector.lastRaisedAt id = some last →
    config.alertCooldownMs ≤ (now : ℚ) - last

/-- The alerts whose condition an operation finds fulfilled. -/
def raises (config : MetricsConfig) : CollectorOp → List String
  | .circuitOpened gatewayId => [circuitAlertId gatewayId]
  | .refresh snapshot =>
      ((evaluations config snapshot).filter Evaluation.condition).map
        Evaluation.id
  | _ => []

def Rested (config : MetricsConfig) (collector : MetricsCollector)
    (call : Timed CollectorOp) : Prop :=
  ∀ id ∈ raises config call.op, Rests config call.time collector id

/-- `lastRaisedAt` holds the time of the last emission of an alert. -/
structure Logged (now : Time) (past : List AlertEmission)
    (collector : MetricsCollector) : Prop where
  before : ∀ emission ∈ past, emission.atTime ≤ now
  bounds : ∀ emission ∈ past, ∃ last,
    collector.lastRaisedAt emission.alert.id = some last ∧
      emission.atTime ≤ last
  found : ∀ id last, collector.lastRaisedAt id = some last →
    ∃ emission ∈ past, emission.alert.id = id ∧ emission.atTime = last

private theorem logged_empty (now : Time) : Logged now [] empty :=
  ⟨by simp, by simp, by simp [empty]⟩

theorem Logged.later {moment : Time} (logged : Logged now past collector)
    (after : now ≤ moment) : Logged moment past collector :=
  ⟨fun emission member => Nat.le_trans (logged.before emission member) after,
    logged.bounds, logged.found⟩

theorem Logged.congr {next : MetricsCollector}
    (logged : Logged now past collector)
    (same : next.lastRaisedAt = collector.lastRaisedAt) :
    Logged now past next := by
  obtain ⟨before, bounds, found⟩ := logged
  exact ⟨before, by rwa [same], by rwa [same]⟩

/-- One more emission. -/
theorem Logged.emit {next : MetricsCollector} {emission : AlertEmission}
    (logged : Logged now past collector) (time : emission.atTime = now)
    (raised : next.lastRaisedAt = Function.update collector.lastRaisedAt
      emission.alert.id (some now)) :
    Logged now (past ++ [emission]) next := by
  constructor
  · intro other member
    rcases List.mem_append.mp member with earlier | last
    · exact logged.before other earlier
    · rw [List.mem_singleton.mp last, time]
  · intro other member
    rw [raised]
    by_cases same : other.alert.id = emission.alert.id
    · refine ⟨now, by rw [same, Function.update_self], ?_⟩
      rcases List.mem_append.mp member with earlier | last
      · exact logged.before other earlier
      · rw [List.mem_singleton.mp last, time]
    · rw [Function.update_of_ne same]
      rcases List.mem_append.mp member with earlier | last
      · exact logged.bounds other earlier
      · rw [List.mem_singleton.mp last] at same
        cases same rfl
  · intro id last held
    rw [raised] at held
    by_cases same : id = emission.alert.id
    · rw [same, Function.update_self] at held
      refine ⟨emission, by simp, same.symm, ?_⟩
      rw [time]
      exact Option.some.inj held
    · rw [Function.update_of_ne same] at held
      obtain ⟨other, member, named, moment⟩ := logged.found id last held
      exact ⟨other, List.mem_append_left _ member, named, moment⟩

/-- An emission keeps the distance exactly if the last one of its alert is
far enough. -/
theorem spaced_snoc {cooldownMs : ℚ} {emission : AlertEmission}
    (logged : Logged now past collector) (time : emission.atTime = now) :
    Spaced cooldownMs (past ++ [emission]) ↔
      Spaced cooldownMs past ∧
        ∀ last, collector.lastRaisedAt emission.alert.id = some last →
          cooldownMs ≤ (now : ℚ) - last := by
  rw [Spaced, List.pairwise_append]
  simp only [List.pairwise_singleton, List.mem_singleton, forall_eq,
    true_and, time]
  constructor
  · rintro ⟨spaced, apart⟩
    refine ⟨spaced, ?_⟩
    intro last held
    obtain ⟨other, member, named, rfl⟩ := logged.found _ last held
    exact apart other member named
  · rintro ⟨spaced, apart⟩
    refine ⟨spaced, ?_⟩
    intro other member named
    obtain ⟨last, held, before⟩ := logged.bounds other member
    have enough := apart last (named ▸ held)
    have ordered : (other.atTime : ℚ) ≤ last := Nat.cast_le.mpr before
    linarith

/-- The two ways to say when an evaluation may follow. -/
theorem rests_after (evaluation : Evaluation) (id : String)
    (rested : evaluation.condition = true →
      Rests config now collector evaluation.id) :
    Rests config now (collector.evaluate config now evaluation.id
        evaluation.condition evaluation.spec).2 id ↔
      Rests config now collector id := by
  rcases evaluate_cases evaluation collector with ⟨-, same, -⟩ |
    ⟨emission, -, -, -, fulfilled, active, others, raised, -⟩
  · rw [same]
  · by_cases same : id = evaluation.id
    · subst same
      constructor
      · intro _
        exact rested fulfilled
      · intro _ inactive
        rw [active] at inactive
        cases inactive
    · rw [Rests, Rests, others id same, raised, Function.update_of_ne same]

private theorem evaluate_spaced (logged : Logged now past collector)
    (evaluation : Evaluation) :
    let moved := collector.evaluate config now evaluation.id
      evaluation.condition evaluation.spec
    Logged now (past ++ moved.1) moved.2 ∧
      (Spaced config.alertCooldownMs (past ++ moved.1) ↔
        Spaced config.alertCooldownMs past ∧
          (evaluation.condition = true →
            Rests config now collector evaluation.id)) := by
  intro moved
  rcases evaluate_cases evaluation collector with ⟨silent, same, idle⟩ |
    ⟨emission, emitted, named, time, fulfilled, -, -, raised, renewed⟩
  · rw [silent, same, List.append_nil]
    refine ⟨logged, ?_⟩
    constructor
    · intro spaced
      refine ⟨spaced, ?_⟩
      intro fulfilled inactive
      rw [idle fulfilled] at inactive
      cases inactive
    · intro both
      exact both.1
  · rw [emitted]
    refine ⟨logged.emit time (by rw [raised, named]), ?_⟩
    rw [spaced_snoc logged time, named]
    constructor
    · rintro ⟨spaced, apart⟩
      exact ⟨spaced, fun _ _ => apart⟩
    · rintro ⟨spaced, rested⟩
      refine ⟨spaced, ?_⟩
      intro last held
      cases active : collector.has evaluation.id with
      | false => exact rested fulfilled active last held
      | true => simpa [held] using renewed active

private theorem evaluateAll_spaced (logged : Logged now past collector)
    (evaluations : List Evaluation) :
    let moved := collector.evaluateAll config now evaluations
    Logged now (past ++ moved.1) moved.2 ∧
      (Spaced config.alertCooldownMs (past ++ moved.1) ↔
        Spaced config.alertCooldownMs past ∧
          ∀ evaluation ∈ evaluations, evaluation.condition = true →
            Rests config now collector evaluation.id) := by
  induction evaluations generalizing past collector with
  | nil => simp [evaluateAll, logged]
  | cons evaluation evaluations induction =>
      obtain ⟨first, spaced⟩ := @evaluate_spaced config _ _ _ logged evaluation
      obtain ⟨rest, apart⟩ := induction first
      simp only [evaluateAll]
      rw [← List.append_assoc]
      refine ⟨rest, ?_⟩
      rw [apart, spaced, List.forall_mem_cons, and_assoc]
      apply and_congr_right
      intro _
      apply and_congr_right
      intro rested
      apply forall₂_congr
      intro later _
      rw [rests_after evaluation later.id rested]

/-- The evaluations that an operation makes. -/
def evaluated (config : MetricsConfig) : CollectorOp → List Evaluation
  | .circuitOpened gatewayId =>
      [⟨circuitAlertId gatewayId, true, .critical,
        s!"circuit breaker OPEN for gateway {gatewayId}", none, none⟩]
  | .refresh snapshot => evaluations config snapshot
  | _ => []

theorem mem_raises {op : CollectorOp} {id : String} :
    id ∈ raises config op ↔
      ∃ evaluation ∈ evaluated config op, evaluation.condition = true ∧
        evaluation.id = id := by
  cases op with
  | jobCompleted gatewayId ok durationMs => simp [raises, evaluated]
  | circuitOpened gatewayId => simpa [raises, evaluated] using eq_comm
  | circuitClosed gatewayId => simp [raises, evaluated]
  | refresh snapshot => simp [raises, evaluated, and_assoc]

/-- An operation makes its evaluations, and may clear alerts. -/
theorem perform_eq (op : CollectorOp) (collector : MetricsCollector) :
    (collector.perform config now op).1 =
        (collector.evaluateAll config now (evaluated config op)).1 ∧
      (collector.perform config now op).2.lastRaisedAt =
        (collector.evaluateAll config now
          (evaluated config op)).2.lastRaisedAt := by
  cases op with
  | jobCompleted gatewayId ok durationMs =>
      simp [perform, evaluated, evaluateAll]
  | circuitOpened gatewayId =>
      simp only [perform, evaluated, evaluateAll, setCircuitAlert,
        List.append_nil, if_true, and_self]
  | circuitClosed gatewayId => exact ⟨rfl, rfl⟩
  | refresh snapshot => exact ⟨rfl, rfl⟩

private theorem perform_spaced (logged : Logged now past collector)
    (op : CollectorOp) :
    Logged now (past ++ (collector.perform config now op).1)
        (collector.perform config now op).2 ∧
      (Spaced config.alertCooldownMs
          (past ++ (collector.perform config now op).1) ↔
        Spaced config.alertCooldownMs past ∧
          Rested config collector ⟨now, op⟩) := by
  obtain ⟨emitted, raised⟩ := @perform_eq config now op collector
  obtain ⟨kept, spaced⟩ := @evaluateAll_spaced config _ _ _ logged
    (evaluated config op)
  rw [emitted]
  refine ⟨kept.congr raised, ?_⟩
  rw [spaced]
  apply and_congr_right
  intro _
  simp only [Rested, mem_raises]
  constructor
  · rintro rested id ⟨evaluation, member, fulfilled, rfl⟩
    exact rested evaluation member fulfilled
  · intro rested evaluation member fulfilled
    exact rested _ ⟨evaluation, member, fulfilled, rfl⟩

private theorem emissions_spaced {calls : List (Timed CollectorOp)}
    {last : Time}
    (clocked : Clocked last calls) (logged : Logged last past collector) :
    Spaced config.alertCooldownMs
        (past ++ emissions config collector calls) ↔
      Spaced config.alertCooldownMs past ∧
        Along (perform config) (Rested config) collector calls := by
  induction calls generalizing last past collector with
  | nil => simp [emissions, answers, Along]
  | cons call calls induction =>
      obtain ⟨before, clocked⟩ := clocked
      obtain ⟨kept, spaced⟩ := @perform_spaced config _ _ _
        (logged.later before) call.op
      have rest := induction clocked kept
      simp only [emissions, answers, List.flatMap_cons, Along] at rest ⊢
      rw [← List.append_assoc, rest, spaced, and_assoc]

/-- The operation clears the alert if it is active. -/
def clears (config : MetricsConfig) (id : String) : CollectorOp → Bool
  | .circuitClosed gatewayId => decide (id = circuitAlertId gatewayId)
  | .refresh snapshot => !stillActive config snapshot id
  | _ => false

private theorem any_evaluated {op : CollectorOp} {id : String} :
    ((evaluated config op).any fun evaluation =>
      evaluation.condition && decide (evaluation.id = id)) = true ↔
      id ∈ raises config op := by
  rw [List.any_eq_true, mem_raises]
  simp only [Bool.and_eq_true, decide_eq_true_eq]

private theorem perform_has (op : CollectorOp) (id : String)
    (collector : MetricsCollector) :
    (collector.perform config now op).2.has id =
      ((collector.has id || (evaluated config op).any fun evaluation =>
          evaluation.condition && decide (evaluation.id = id)) &&
        !clears config id op) := by
  cases op with
  | jobCompleted gatewayId ok durationMs =>
      simp only [perform, has, recordAttempt_alerts, evaluated, List.any_nil,
        Bool.or_false, clears, Bool.not_false, Bool.and_true]
  | circuitOpened gatewayId =>
      by_cases here : id = circuitAlertId gatewayId
      · subst here
        simp [perform, evaluated, clears, setCircuitAlert_has_self]
      · simp [perform, evaluated, clears, setCircuitAlert_has_of_ne here,
          Ne.symm here]
  | circuitClosed gatewayId =>
      by_cases here : id = circuitAlertId gatewayId
      · subst here
        simp [perform, clears, setCircuitAlert_has_self]
      · simp [perform, evaluated, clears, setCircuitAlert_has_of_ne here, here]
  | refresh snapshot =>
      simp only [perform, refresh_has, evaluated, clears, Bool.not_not]

private theorem evaluateAll_lastRaisedAt (evaluations : List Evaluation)
    (id : String)
    (collector : MetricsCollector) :
    let moved := collector.evaluateAll config now evaluations
    moved.2.lastRaisedAt id = collector.lastRaisedAt id ∨
      (moved.2.lastRaisedAt id = some now ∧
        ∃ evaluation ∈ evaluations, evaluation.condition = true ∧
          evaluation.id = id) := by
  induction evaluations generalizing collector with
  | nil => exact .inl rfl
  | cons evaluation evaluations induction =>
      have later := induction (collector.evaluate config now evaluation.id
        evaluation.condition evaluation.spec).2
      simp only [evaluateAll]
      rcases later with same | ⟨raised, other, member, fulfilled, named⟩
      · rw [same]
        rcases @evaluate_cases config now evaluation collector with
          ⟨-, unchanged, -⟩ | ⟨-, -, -, -, fulfilled, -, -, raised, -⟩
        · rw [unchanged]
          exact .inl rfl
        · rw [raised]
          by_cases here : id = evaluation.id
          · subst here
            rw [Function.update_self]
            exact .inr ⟨rfl, evaluation, List.mem_cons_self, fulfilled, rfl⟩
          · rw [Function.update_of_ne here]
            exact .inl rfl
      · exact .inr ⟨raised, other, List.mem_cons_of_mem _ member, fulfilled,
          named⟩

/-- An alert whose condition failed in between returns when the cooldown is
over since every earlier moment at which its condition held.  This speaks of
the operations and their times alone. -/
def Patient (config : MetricsConfig) (calls : List (Timed CollectorOp)) :
    Prop :=
  ∀ front raise mid again back id,
    calls = front ++ raise :: mid ++ again :: back →
    id ∈ raises config raise.op → id ∈ raises config again.op →
    (∃ call ∈ raise :: mid, clears config id call.op = true) →
    config.alertCooldownMs ≤ (again.time : ℚ) - raise.time

/-- The last emission of an alert was at an operation that raised it, and an
inactive alert was cleared since. -/
def Followed (config : MetricsConfig) (done : List (Timed CollectorOp))
    (collector : MetricsCollector) : Prop :=
  ∀ id last, collector.lastRaisedAt id = some last →
    ∃ front raise mid, done = front ++ raise :: mid ∧ raise.time = last ∧
      id ∈ raises config raise.op ∧
      (collector.has id = false →
        ∃ call ∈ raise :: mid, clears config id call.op = true)

theorem Followed.perform {done : List (Timed CollectorOp)}
    (followed : Followed config done collector) (call : Timed CollectorOp) :
    Followed config (done ++ [call])
      (collector.perform config call.time call.op).2 := by
  intro id last held
  have active := @perform_has config call.time call.op id collector
  rw [(@perform_eq config call.time call.op collector).2] at held
  rcases @evaluateAll_lastRaisedAt config call.time (evaluated config call.op)
    id collector with same | ⟨raised, fulfilled⟩
  · rw [same] at held
    obtain ⟨front, raise, mid, rfl, time, raises, cleared⟩ :=
      followed id last held
    refine ⟨front, raise, mid ++ [call], by simp, time, raises, ?_⟩
    intro inactive
    rw [inactive] at active
    cases clears : clears config id call.op with
    | true => exact ⟨call, by simp, clears⟩
    | false =>
        rw [clears, Bool.not_false, Bool.and_true] at active
        have before := (Bool.or_eq_false_iff.mp active.symm).1
        obtain ⟨earlier, member, clears⟩ := cleared before
        rw [← List.cons_append]
        exact ⟨earlier, List.mem_append_left _ member, clears⟩
  · have raises : id ∈ raises config call.op := mem_raises.mpr fulfilled
    refine ⟨done, call, [], rfl, Option.some.inj (raised.symm.trans held),
      raises, ?_⟩
    intro inactive
    rw [inactive, any_evaluated.mpr raises, Bool.or_true, Bool.true_and]
      at active
    exact ⟨call, List.mem_cons_self, by simpa using active.symm⟩

private theorem along_of_patient {done calls : List (Timed CollectorOp)}
    (followed : Followed config done collector)
    (patient : Patient config (done ++ calls)) :
    Along (perform config) (Rested config) collector calls := by
  induction calls generalizing done collector with
  | nil => exact trivial
  | cons call calls induction =>
      refine ⟨?_, induction (followed.perform call) (by simpa using patient)⟩
      intro id raised inactive last held
      obtain ⟨front, raise, mid, rfl, rfl, raises, cleared⟩ :=
        followed id last held
      exact patient front raise mid call calls id (by simp) raises raised
        (cleared inactive)

/-- The same in terms of what the snapshots say and when. -/
theorem spaced_of_patient {start : Time} {calls : List (Timed CollectorOp)}
    (clocked : Clocked start calls) (patient : Patient config calls) :
    Spaced config.alertCooldownMs (emissions config empty calls) := by
  have followed : Followed config [] empty := fun _ _ held => by cases held
  have spaced := @emissions_spaced config _ _ _ _ clocked (logged_empty start)
  rw [List.nil_append] at spaced
  exact spaced.mpr ⟨List.Pairwise.nil, along_of_patient followed patient⟩

/-- Two emissions of an alert are a cooldown apart exactly if no alert is
raised anew before the cooldown of its last emission is over. -/
theorem alerts_spaced_iff (config : MetricsConfig) (start : Time)
    (calls : List (Timed CollectorOp)) (clocked : Clocked start calls) :
    Spaced config.alertCooldownMs (emissions config empty calls) ↔
      Along (perform config) (Rested config) empty calls := by
  have spaced := @emissions_spaced config _ _ _ _ clocked (logged_empty start)
  rw [List.nil_append] at spaced
  rw [spaced]
  simp [Spaced]

/-- A snapshot with an error rate. -/
def errors (errorRate : ℚ) : MetricsSnapshot :=
  ⟨0, 60, 0, errorRate, ⟨0, 0, 0⟩, none, none, [], []⟩

/-- The circuit opens again when the cooldown is over. -/
def patientRun : List (Timed CollectorOp) :=
  [⟨0, .circuitOpened "stripe"⟩, ⟨5000, .refresh (errors 0)⟩,
    ⟨6000, .circuitClosed "stripe"⟩, ⟨10000, .circuitOpened "stripe"⟩]

theorem alerts_spaced_patient :
    Clocked 0 patientRun ∧
      Along (perform .default) (Rested .default) empty patientRun := by
  have clocked : Clocked 0 patientRun := by decide
  refine ⟨clocked, ?_⟩
  apply (alerts_spaced_iff .default 0 patientRun clocked).mp
  decide +kernel

/-- The error rate recovers for a moment. -/
def flappingRun : List (Timed CollectorOp) :=
  [⟨1000, .refresh (errors (1 / 2))⟩, ⟨2000, .refresh (errors 0)⟩,
    ⟨3000, .refresh (errors (1 / 2))⟩]

/-- The alert is emitted twice within two seconds. -/
theorem alerts_not_spaced :
    Clocked 0 flappingRun ∧
      ¬ Spaced MetricsConfig.default.alertCooldownMs
        (emissions .default empty flappingRun) := by
  constructor
  · decide
  · decide +kernel

end PaymentQueue.Cooldown
