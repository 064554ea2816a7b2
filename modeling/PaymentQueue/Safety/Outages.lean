import Mathlib.Tactic.Linarith
import PaymentQueue.Gateway.Moves

/-!
# Outages of a gateway

What a gateway sees of its breaker: the charges that reach it, the openings
and closings that are announced, and new circuit policies.  An outage leaves
the gateway alone for the cooldown, lets a single probe through, and ends or
begins anew with the next verdict.
-/

namespace PaymentQueue.Outages

open Await GuardRegistries

/-- What can be seen of a gateway. -/
inductive Mark where
  | charge (gate : CircuitBreakerState)
  | circuit (event : CircuitEvent)
  /-- A new circuit policy. -/
  | renewed (cooldownMs : ℚ)
  deriving DecidableEq

inductive Condition where
  | healthy
  | resting (since : Time)
  | probing (since : Time)
  deriving DecidableEq

structure Outage where
  cooldownMs : ℚ
  condition : Condition
  deriving DecidableEq

/-- What may be seen next. -/
def Outage.see (outage : Outage) (mark : Timed Mark) : Option Outage :=
  match mark.op, outage.condition with
  | .renewed cooldownMs, _ => some ⟨cooldownMs, .healthy⟩
  | .charge .closed, .healthy => some outage
  | .circuit .opened, .healthy =>
      some { outage with condition := .resting mark.time }
  | .charge .halfOpen, .resting since =>
      if outage.cooldownMs ≤ (mark.time : ℚ) - since then
        some { outage with condition := .probing since }
      else none
  | .circuit .opened, .probing _ =>
      some { outage with condition := .resting mark.time }
  | .circuit .closed, .probing _ => some { outage with condition := .healthy }
  | _, _ => none

def Outage.follow (outage : Outage) : List (Timed Mark) → Option Outage
  | [] => some outage
  | mark :: marks => (outage.see mark).bind fun next => next.follow marks

def Mark.isRenewed : Mark → Bool
  | renewed _ => true
  | _ => false

def Mark.isOpening : Mark → Bool
  | circuit .opened => true
  | _ => false

/-- A charge that tries whether the gateway has recovered. -/
def Mark.isProbe : Mark → Bool
  | charge .halfOpen => true
  | _ => false

section Language

variable {outage next : Outage} {mark : Timed Mark}
  {marks : List (Timed Mark)} {last : Time}

theorem follow_append (outage : Outage) (first second : List (Timed Mark)) :
    outage.follow (first ++ second) =
      (outage.follow first).bind fun next => next.follow second := by
  induction first generalizing outage with
  | nil => rfl
  | cons mark first induction =>
      simp only [List.cons_append, Outage.follow, Option.bind_assoc, induction]

/-- The ways an outage can go on. -/
inductive Sees (outage : Outage) (mark : Timed Mark) : Outage → Prop where
  | renewed {cooldownMs : ℚ} :
      mark.op = .renewed cooldownMs → Sees outage mark ⟨cooldownMs, .healthy⟩
  | charged :
      mark.op = .charge .closed → outage.condition = .healthy →
      Sees outage mark outage
  | opened :
      mark.op = .circuit .opened →
      (∀ since, outage.condition ≠ .resting since) →
      Sees outage mark { outage with condition := .resting mark.time }
  | probed {since : Time} :
      mark.op = .charge .halfOpen → outage.condition = .resting since →
      outage.cooldownMs ≤ (mark.time : ℚ) - since →
      Sees outage mark { outage with condition := .probing since }
  | closed {since : Time} :
      mark.op = .circuit .closed → outage.condition = .probing since →
      Sees outage mark { outage with condition := .healthy }

theorem sees_of_see (seen : outage.see mark = some next) :
    Sees outage mark next := by
  rw [Outage.see] at seen
  split at seen
  case h_1 renewed =>
    obtain rfl := Option.some.inj seen
    exact .renewed renewed
  case h_2 charged healthy =>
    obtain rfl := Option.some.inj seen
    exact .charged charged healthy
  case h_3 opened healthy =>
    obtain rfl := Option.some.inj seen
    exact .opened opened (by simp [healthy])
  case h_4 since probed resting =>
    split at seen
    case isTrue enough =>
      obtain rfl := Option.some.inj seen
      exact .probed probed resting enough
    case isFalse => cases seen
  case h_5 opened probing =>
    obtain rfl := Option.some.inj seen
    exact .opened opened (by simp [probing])
  case h_6 closed probing =>
    obtain rfl := Option.some.inj seen
    exact .closed closed probing
  case h_7 => cases seen

/-- After an opening comes a probe, not before the cooldown is over, or a new
policy. -/
theorem probe_of_resting {since : Time} (seen : outage.see mark = some next)
    (resting : outage.condition = .resting since)
    (lasting : mark.op.isRenewed = false) :
    mark.op.isProbe = true ∧
      outage.cooldownMs ≤ (mark.time : ℚ) - since := by
  cases sees_of_see seen with
  | renewed renewed =>
      rw [renewed] at lasting
      cases lasting
  | charged _ healthy =>
      rw [resting] at healthy
      cases healthy
  | opened _ unrested => exact absurd resting (unrested since)
  | probed probed same enough =>
      rw [resting] at same
      obtain rfl := Condition.resting.inj same
      exact ⟨by simp [probed, Mark.isProbe], enough⟩
  | closed _ probing =>
      rw [resting] at probing
      cases probing

private theorem resting_of_opening (seen : outage.see mark = some next)
    (opening : mark.op.isOpening = true) :
    next = { outage with condition := .resting mark.time } := by
  cases sees_of_see seen with
  | opened => rfl
  | renewed other => rw [other] at opening; cases opening
  | charged other | probed other | closed other =>
      rw [other] at opening
      cases opening

/-- Nothing is seen of a gateway that rests until the cooldown is over. -/
theorem silent_of_resting {since : Time} {ended : Outage}
    (followed : outage.follow marks = some ended)
    (resting : outage.condition = .resting since)
    (clocked : Clocked last marks)
    (lasting : ∀ mark ∈ marks, mark.op.isRenewed = false) :
    ∀ mark ∈ marks, outage.cooldownMs ≤ (mark.time : ℚ) - since := by
  cases marks with
  | nil => simp
  | cons first rest =>
      obtain ⟨next, seen, -⟩ := Option.bind_eq_some_iff.mp followed
      have enough :=
        (probe_of_resting seen resting (lasting first (by simp))).2
      intro mark member
      rcases List.mem_cons.mp member with rfl | later
      · exact enough
      · have ordered : (first.time : ℚ) ≤ mark.time :=
          Nat.cast_le.mpr (clocked.2.le_time mark later)
        linarith

/-- An opening stands for a probe that is still to come. -/
def Condition.owed : Condition → Nat
  | resting _ => 1
  | _ => 0

private theorem probes_le {ended : Outage}
    (followed : outage.follow marks = some ended) :
    (marks.countP fun mark => mark.op.isProbe) ≤
      outage.condition.owed + marks.countP fun mark => mark.op.isOpening := by
  induction marks generalizing outage with
  | nil => simp
  | cons mark marks induction =>
      obtain ⟨next, seen, rest⟩ := Option.bind_eq_some_iff.mp followed
      have counted := induction rest
      rw [List.countP_cons, List.countP_cons]
      cases sees_of_see seen with
      | renewed renewed =>
          simp only [renewed, Mark.isProbe, Mark.isOpening, Condition.owed]
            at counted ⊢
          grind
      | charged charged healthy =>
          simp only [charged, Mark.isProbe, Mark.isOpening] at counted ⊢
          grind
      | opened opened _ =>
          simp only [opened, Mark.isProbe, Mark.isOpening, Condition.owed]
            at counted ⊢
          grind
      | probed probed resting _ =>
          simp only [probed, resting, Mark.isProbe, Mark.isOpening,
            Condition.owed] at counted ⊢
          grind
      | closed closed probing =>
          simp only [closed, probing, Mark.isProbe, Mark.isOpening,
            Condition.owed] at counted ⊢
          grind

end Language

/-- The cooldown in force after what was seen. -/
def cooldownAfter (cooldownMs : ℚ) : List (Timed Mark) → ℚ
  | [] => cooldownMs
  | mark :: marks =>
      match mark.op with
      | .renewed renewedMs => cooldownAfter renewedMs marks
      | _ => cooldownAfter cooldownMs marks

private theorem follow_cooldownMs {outage ended : Outage}
    {marks : List (Timed Mark)}
    (followed : outage.follow marks = some ended) :
    ended.cooldownMs = cooldownAfter outage.cooldownMs marks := by
  induction marks generalizing outage with
  | nil =>
      obtain rfl := Option.some.inj followed
      rfl
  | cons mark marks induction =>
      obtain ⟨next, seen, rest⟩ := Option.bind_eq_some_iff.mp followed
      rw [induction rest]
      cases sees_of_see seen with
      | renewed renewed => simp [cooldownAfter, renewed]
      | charged other | opened other | probed other | closed other =>
          simp [cooldownAfter, other]

/-- After an opening nothing is seen of the gateway for the cooldown. -/
theorem silent_after_opening {outage ended : Outage} {last : Time}
    {earlier between later : List (Timed Mark)} {opening : Timed Mark}
    (followed : outage.follow (earlier ++ opening :: (between ++ later)) =
      some ended)
    (clocked : Clocked last (earlier ++ opening :: (between ++ later)))
    (opens : opening.op.isOpening = true)
    (lasting : ∀ mark ∈ between, mark.op.isRenewed = false) :
    ∀ mark ∈ between, cooldownAfter outage.cooldownMs earlier ≤
      (mark.time : ℚ) - opening.time := by
  rw [follow_append] at followed
  obtain ⟨before, first, rest⟩ := Option.bind_eq_some_iff.mp followed
  obtain ⟨opened, seen, rest⟩ := Option.bind_eq_some_iff.mp rest
  rw [follow_append] at rest
  obtain ⟨after, quiet, -⟩ := Option.bind_eq_some_iff.mp rest
  obtain rfl := resting_of_opening seen opens
  rw [← follow_cooldownMs first]
  have rests : ({ before with condition := .resting opening.time } :
      Outage).condition = .resting opening.time := by rfl
  have silent := silent_of_resting quiet rests
    (clocked.of_append.2.1.2.of_append.1) lasting
  exact silent

section Breakers

variable {outage : Outage} {breaker : CircuitBreaker} {now : Time}

/-- The state of a breaker, as it can be seen. -/
inductive Stands (breaker : CircuitBreaker) : Condition → Prop where
  | healthy : breaker.state = .closed → Stands breaker .healthy
  | resting : breaker.state = .opened →
      Stands breaker (.resting breaker.openedAt)
  | probing (since : Time) :
      breaker.state = .halfOpen → breaker.probeInFlight = true →
      Stands breaker (.probing since)

structure Shows (outage : Outage) (breaker : CircuitBreaker) : Prop where
  cooldown : outage.cooldownMs = breaker.params.cooldownMs
  stands : Stands breaker outage.condition

private theorem shows_create (params : CircuitBreakerParams) :
    Shows ⟨params.cooldownMs, .healthy⟩ (.create params) :=
  ⟨rfl, .healthy rfl⟩

/-- Admitted calls are seen, refused ones are not. -/
theorem Shows.allowCall (shows : Shows outage breaker) (now : Time) :
    (∃ state next, (breaker.allowCall now).1 = ⟨true, state⟩ ∧
      outage.see ⟨now, .charge state⟩ = some next ∧
      Shows next (breaker.allowCall now).2) ∨
    ∃ state, (breaker.allowCall now).1 = ⟨false, state⟩ ∧
      Shows outage (breaker.allowCall now).2 := by
  obtain ⟨cooldownMs, condition⟩ := outage
  obtain ⟨rfl, stands⟩ := shows
  cases stands with
  | healthy closed =>
      refine .inl ⟨.closed, ⟨breaker.params.cooldownMs, .healthy⟩, ?_, rfl,
        ?_⟩
      · simp [CircuitBreaker.allowCall, closed]
      · simp only [CircuitBreaker.allowCall, closed]
        exact ⟨rfl, .healthy closed⟩
  | resting opened =>
      by_cases enough :
          breaker.params.cooldownMs ≤ (now : ℚ) - breaker.openedAt
      · refine .inl ⟨.halfOpen, ⟨breaker.params.cooldownMs,
          .probing breaker.openedAt⟩, ?_, ?_, ?_⟩
        · simp [CircuitBreaker.allowCall, opened, enough]
        · simp [Outage.see, enough]
        · simp only [CircuitBreaker.allowCall, opened, enough, if_true]
          exact ⟨rfl, .probing _ rfl rfl⟩
      · refine .inr ⟨.opened, ?_, ?_⟩
        · simp [CircuitBreaker.allowCall, opened, enough]
        · simp only [CircuitBreaker.allowCall, opened, enough, if_false]
          exact ⟨rfl, .resting opened⟩
  | probing since halfOpen inFlight =>
      refine .inr ⟨.halfOpen, ?_, ?_⟩
      · simp [CircuitBreaker.allowCall, halfOpen, inFlight]
      · simp only [CircuitBreaker.allowCall, halfOpen, inFlight, if_true]
        exact ⟨rfl, .probing since halfOpen inFlight⟩

/-- A verdict is announced when it changes the state. -/
theorem Shows.recordOutcome (shows : Shows outage breaker) (ok : Bool)
    (now : Time) :
    ∃ next, outage.follow ((breaker.recordOutcome ok now).2.toList.map
        fun event => ⟨now, .circuit event⟩) = some next ∧
      Shows next (breaker.recordOutcome ok now).1 := by
  obtain ⟨cooldownMs, condition⟩ := outage
  obtain ⟨rfl, stands⟩ := shows
  cases stands with
  | healthy closed =>
      simp only [CircuitBreaker.recordOutcome, closed]
      split
      · exact ⟨⟨breaker.params.cooldownMs, .resting now⟩, rfl, rfl,
          .resting rfl⟩
      · exact ⟨⟨breaker.params.cooldownMs, .healthy⟩, rfl, rfl,
          .healthy closed⟩
  | resting opened =>
      simp only [CircuitBreaker.recordOutcome, opened]
      exact ⟨_, rfl, rfl, .resting opened⟩
  | probing since halfOpen inFlight =>
      simp only [CircuitBreaker.recordOutcome, halfOpen]
      cases ok with
      | true =>
          exact ⟨⟨breaker.params.cooldownMs, .healthy⟩, rfl, rfl,
            .healthy rfl⟩
      | false =>
          exact ⟨⟨breaker.params.cooldownMs, .resting now⟩, rfl, rfl,
            .resting rfl⟩

/-- Only provider degradation and success are verdicts. -/
theorem Shows.reported (shows : Shows outage breaker)
    (result : GatewayChargeResult) (now : Time) :
    ∃ next, outage.follow
        ((GatewayGuard.reported result now breaker).2.toList.map
          fun event => ⟨now, .circuit event⟩) = some next ∧
      Shows next (GatewayGuard.reported result now breaker).1 := by
  rw [GatewayGuard.reported]
  cases GatewayGuard.reportedOutcome result with
  | none => exact ⟨outage, rfl, shows⟩
  | some ok => exact shows.recordOutcome ok now

/-- Reading the state changes nothing that can be seen. -/
theorem Shows.getState (shows : Shows outage breaker) (now : Time) :
    Shows outage (breaker.getState now).2 := by
  obtain ⟨cooldownMs, condition⟩ := outage
  obtain ⟨rfl, stands⟩ := shows
  refine ⟨rfl, ?_⟩
  cases stands with
  | healthy closed => exact .healthy closed
  | resting opened => exact .resting opened
  | probing since halfOpen inFlight => exact .probing since halfOpen inFlight

end Breakers

section Runs

variable {config : GuardConfig} {now : Time} {gatewayId : String}
  {registries next : GuardRegistries} {op : GuardOp} {outage : Outage}

def charges (reply : GuardReply) : List Mark :=
  match reply.stage? with
  | some (.charging gate) => [.charge gate]
  | _ => []

def announced : GuardEvent → Option Mark
  | .circuit event _ => some (.circuit event)
  | .throttled _ => none

def renewals (config : GuardConfig) (op : GuardOp) : List Mark :=
  match op.policy?.bind GuardPolicy.circuitBreaker with
  | some overrides =>
      [.renewed (config.circuitBreaker.override overrides).cooldownMs]
  | none => []

/-- What is seen of a gateway in an operation. -/
def marks (config : GuardConfig) (gatewayId : String)
    (answered : Timed GuardOp × GuardAnswer) : List (Timed Mark) :=
  if answered.1.op.gatewayId = gatewayId then
    (charges answered.2.reply ++ answered.2.events.filterMap announced ++
      renewals config answered.1.op).map fun mark =>
        ⟨answered.1.time, mark⟩
  else []

/-- What is seen of a gateway in a run. -/
def timeline (config : GuardConfig) (gatewayId : String)
    (run : List (Timed GuardOp × GuardAnswer)) : List (Timed Mark) :=
  run.flatMap (marks config gatewayId)

def begin (config : GuardConfig) : Outage :=
  ⟨config.circuitBreaker.cooldownMs, .healthy⟩

/-- The events of an answer announce the verdict. -/
theorem announced_answerEvents (result : GatewayChargeResult)
    (event : Option CircuitEvent) :
    (GatewayGuard.answerEvents result now event).filterMap announced =
      event.toList.map Mark.circuit := by
  cases result with
  | ok transactionId httpStatus =>
      cases event with
      | none => simp [GatewayGuard.answerEvents]
      | some event => simp [GatewayGuard.answerEvents, announced]
  | fail failure =>
      cases event with
      | none =>
          simp only [GatewayGuard.answerEvents]
          split <;> rfl
      | some event =>
          simp only [GatewayGuard.answerEvents]
          split <;> rfl

theorem renewals_of_number {number : Nat}
    (numbered : op.number? = some number) : renewals config op = [] := by
  cases op with
  | call | resume | answer => rfl
  | refund | refunded | configure | health => cases numbered

private theorem charges_of_uncharging {stage : GuardCall}
    (uncharging : stage.isCharging = false) : charges (.stage stage) = [] := by
  cases stage with
  | charging => cases uncharging
  | waiting | granted | ended => rfl

/-- An operation on the gateway, as it is seen. -/
theorem Shows.perform
    (shows : Shows outage (registries.breakerOf config gatewayId))
    (here : op.gatewayId = gatewayId) :
    ∃ ended, outage.follow (marks config gatewayId
        (⟨now, op⟩, (registries.perform config now op).1)) = some ended ∧
      Shows ended ((registries.perform config now op).2.breakerOf config
        gatewayId) := by
  have move := @perform_move config now gatewayId op here registries
  generalize (registries.perform config now op).2 = next at move ⊢
  generalize (registries.perform config now op).1 = answer at move ⊢
  obtain ⟨reply, events⟩ := answer
  generalize shared : share gatewayId next = moved at move
  have breakers := congrArg Share.breaker shared
  rw [marks, if_pos here]
  cases move with
  | idle unstaged unset =>
      refine ⟨outage, ?_, (breakerOf_share breakers).symm ▸ shows⟩
      simp [charges, renewals, unstaged, unset, Outage.follow]
  | poll deadline numbered waiting =>
      refine ⟨outage, ?_, (breakerOf_share breakers).symm ▸ shows⟩
      have uncharged := charges_of_uncharging
        (@pollStage_isCharging config now gatewayId deadline registries)
      simp [uncharged, renewals_of_number numbered, Outage.follow]
  | pass numbered taken =>
      rw [breakerOf_some breakers]
      rcases shows.allowCall now with ⟨state, ended, allowed, seen, after⟩ |
        ⟨state, refused, after⟩
      · refine ⟨ended, ?_, after⟩
        rcases @gateStage_cases config now gatewayId registries with
          ⟨gate, passed, stage⟩ | ⟨gate, outcome, refused, -⟩
        · rw [passed] at allowed
          obtain rfl : gate = state := congrArg Gate.state allowed
          simp [stage, charges, GuardReply.stage?, renewals_of_number numbered,
            Outage.follow, seen]
        · rw [refused] at allowed
          cases congrArg Gate.allowed allowed
      · refine ⟨outage, ?_, after⟩
        rcases @gateStage_cases config now gatewayId registries with
          ⟨gate, passed, -⟩ | ⟨gate, outcome, -, stage⟩
        · rw [passed] at refused
          cases congrArg Gate.allowed refused
        · simp [stage, charges, GuardReply.stage?,
            renewals_of_number numbered, Outage.follow]
  | settle result numbered charging =>
      obtain ⟨ended, followed, after⟩ := shows.reported result now
      refine ⟨ended, ?_, (breakerOf_some breakers).symm ▸ after⟩
      have told := @announced_answerEvents now result
        (GatewayGuard.reported result now
          (registries.breakerOf config gatewayId)).2
      refine (congrArg (fun told => outage.follow
        (([] ++ told ++ renewals config op).map fun mark =>
          ⟨now, mark⟩)) told).trans ?_
      simpa [renewals_of_number numbered, Function.comp_def] using followed
  | @configure policy configures =>
      have same : next.breakerOf config gatewayId =
          (registries.configure config now gatewayId policy).breakerOf config
            gatewayId := breakerOf_share breakers
      rw [same]
      cases circuit : policy.circuitBreaker with
      | none =>
          refine ⟨outage, ?_, ?_⟩
          · simp [configures, charges, GuardReply.stage?, renewals,
              GuardOp.policy?, circuit, Outage.follow]
          · simpa [GuardRegistries.configure, circuit, breakerOf] using shows
      | some overrides =>
          refine ⟨⟨(config.circuitBreaker.override overrides).cooldownMs,
            .healthy⟩, ?_, ?_⟩
          · simp [configures, charges, GuardReply.stage?, renewals,
              GuardOp.policy?, circuit, Outage.follow, Outage.see]
          · rw [configure_breakerOf policy circuit]
            exact shows_create _
  | health report reads =>
      refine ⟨outage, ?_, ?_⟩
      · simp [reads, charges, renewals, GuardOp.policy?, GuardReply.stage?,
          Outage.follow]
      · rw [breakerOf_some breakers]
        exact shows.getState now

/-- Operations on other gateways are not seen. -/
theorem Shows.apart
    (shows : Shows outage (registries.breakerOf config gatewayId))
    (apart : gatewayId ≠ op.gatewayId) :
    Shows outage ((registries.perform config now op).2.breakerOf config
      gatewayId) := by
  have same := @share_apart config now gatewayId op apart registries
  rwa [breakerOf_share (congrArg Share.breaker same)]

/-- A run of the guard is seen as outages. -/
theorem follow_timeline (calls : List (Timed GuardOp))
    (shows : Shows outage (registries.breakerOf config gatewayId)) :
    ∃ ended, outage.follow (timeline config gatewayId
      (answers (GuardRegistries.perform config) registries calls)) =
        some ended := by
  induction calls generalizing registries outage with
  | nil => exact ⟨outage, rfl⟩
  | cons call calls induction =>
      rw [answers, timeline, List.flatMap_cons, follow_append]
      by_cases here : call.op.gatewayId = gatewayId
      · obtain ⟨next, seen, after⟩ := @Shows.perform config call.time
          gatewayId registries call.op outage shows here
        obtain ⟨ended, followed⟩ := induction after
        exact ⟨ended, by rw [seen]; exact followed⟩
      · obtain ⟨ended, followed⟩ := induction
          (@Shows.apart config call.time gatewayId registries call.op outage
            shows (Ne.symm here))
        refine ⟨ended, ?_⟩
        rw [marks, if_neg here]
        exact followed

private theorem clocked_marks {last time : Time} (reached : last ≤ time)
    (seen : List Mark) {rest : List (Timed Mark)}
    (clocked : Clocked time rest) :
    Clocked last (seen.map (fun mark => ⟨time, mark⟩) ++ rest) := by
  induction seen generalizing last with
  | nil => exact clocked.weaken reached
  | cons mark seen induction => exact ⟨reached, induction (Nat.le_refl time)⟩

private theorem clocked_timeline {last : Time} {calls : List (Timed GuardOp)}
    (clocked : Clocked last calls) (registries : GuardRegistries) :
    Clocked last (timeline config gatewayId
      (answers (GuardRegistries.perform config) registries calls)) := by
  induction calls generalizing last registries with
  | nil => trivial
  | cons call calls induction =>
      have rest := induction clocked.2
        (registries.perform config call.time call.op).2
      rw [answers, timeline, List.flatMap_cons, marks]
      split
      · exact clocked_marks clocked.1 _ rest
      · exact rest.weaken clocked.1

end Runs

/-- In every run of the guard, what is seen of a gateway is a sequence of
outages.  There are no more probes than openings, and between an opening and
the next circuit policy nothing is seen before the cooldown is over: no charge
reaches the gateway, and its circuit is not opened or closed again. -/
theorem outages_silent (config : GuardConfig) (gatewayId : String)
    (start : Time) (calls : List (Timed GuardOp))
    (clocked : Clocked start calls) :
    let seen := timeline config gatewayId
      (answers (perform config) .empty calls)
    (∃ ended, (begin config).follow seen = some ended) ∧
      (seen.countP fun mark => mark.op.isProbe) ≤
        (seen.countP fun mark => mark.op.isOpening) ∧
      ∀ earlier opening between later,
        seen = earlier ++ opening :: (between ++ later) →
        opening.op.isOpening = true →
        (∀ mark ∈ between, mark.op.isRenewed = false) →
        ∀ mark ∈ between,
          cooldownAfter config.circuitBreaker.cooldownMs earlier ≤
            (mark.time : ℚ) - opening.time := by
  intro seen
  obtain ⟨ended, followed⟩ := @follow_timeline config gatewayId .empty
    (begin config) calls (shows_create config.circuitBreaker)
  refine ⟨⟨ended, followed⟩, ?_, ?_⟩
  · simpa [begin, Condition.owed] using probes_le followed
  · intro earlier opening between later split opens lasting
    have ordered : Clocked start seen := clocked_timeline clocked .empty
    have followed : (begin config).follow seen = some ended := followed
    rw [split] at ordered followed
    exact silent_after_opening followed ordered opens lasting

/-- One failure opens the circuit of the gateway; the probe after the cooldown
closes it again. -/
theorem outages_silent_recovering :
    let config : GuardConfig :=
      { GuardConfig.default with circuitBreaker := ⟨1000, 1 / 2, 1, 500⟩ }
    let calls : List (Timed GuardOp) :=
      [⟨0, .call "stripe" 0⟩, ⟨0, .resume "stripe" 0⟩,
        ⟨20, .answer "stripe" 0 (.fail ⟨.networkError, "reset", 500⟩)⟩,
        ⟨30, .call "stripe" 1⟩, ⟨30, .resume "stripe" 1⟩,
        ⟨520, .call "stripe" 2⟩, ⟨520, .resume "stripe" 2⟩,
        ⟨540, .answer "stripe" 2 (.ok "stripe_txn_1" 200)⟩]
    let seen := timeline config "stripe"
      (answers (perform config) .empty calls)
    seen = [⟨0, .charge .closed⟩, ⟨20, .circuit .opened⟩,
        ⟨520, .charge .halfOpen⟩, ⟨540, .circuit .closed⟩] ∧
      (seen.countP fun mark => mark.op.isProbe) ≤
        seen.countP fun mark => mark.op.isOpening := by
  intro config calls seen
  refine ⟨by decide +kernel, ?_⟩
  exact (outages_silent config "stripe" 0 calls (by decide)).2.1

end PaymentQueue.Outages
