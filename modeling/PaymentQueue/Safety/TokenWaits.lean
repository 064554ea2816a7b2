import PaymentQueue.Gateway.BucketRuns
import PaymentQueue.Gateway.Shares

/-!
# Which limit a call waits for

`configure` stores a `tokenWaitMs` in the bucket of a gateway, and
`GatewayGuard.call` waits as long as the global configuration says.  A poll
without a token decides by the global limit, which is the gateway's own one
only when both have run out or neither has.
-/

namespace PaymentQueue.TokenWaits

open Await GuardRegistries

/-- The registries, and when their calls began. -/
structure Watched where
  registries : GuardRegistries
  began : String → Nat → Option Time

def Watched.create : Watched :=
  { registries := .empty
    began := fun _ _ => none }

/-- The note of a call that begins. -/
def noteBegin (now : Time) (op : GuardOp) (watched : Watched) :
    String → Nat → Option Time :=
  match op with
  | .call gatewayId number =>
      match watched.registries.calls gatewayId number with
      | none => Function.update watched.began gatewayId
          (Function.update (watched.began gatewayId) number (some now))
      | some _ => watched.began
  | _ => watched.began

/-- An operation of the guard, with the note. -/
def watch (config : GuardConfig) (now : Time) (op : GuardOp)
    (watched : Watched) : GuardAnswer × Watched :=
  let (answer, registries) := watched.registries.perform config now op
  (answer, ⟨registries, noteBegin now op watched⟩)

/-- The `tokenWaitMs` in the parameters of the gateway's bucket. -/
def ownTokenWaitMs (config : GuardConfig) (now : Time) (gatewayId : String)
    (registries : GuardRegistries) : Nat :=
  (RateLimiterRegistry.get config now gatewayId
    registries.buckets).params.tokenWaitMs

/-- The operation belongs to this call of `GatewayGuard.call`. -/
def Advances (gatewayId : String) (number : Nat) (op : GuardOp) : Prop :=
  op = .call gatewayId number ∨ op = .resume gatewayId number

/-- The call polls the bucket. -/
def Polls (now : Time) (gatewayId : String) (number : Nat) (op : GuardOp)
    (registries : GuardRegistries) : Prop :=
  (op = .call gatewayId number ∧ registries.calls gatewayId number = none) ∨
    (op = .resume gatewayId number ∧ ∃ deadline wakesAt,
      registries.calls gatewayId number = some (.waiting deadline wakesAt) ∧
        wakesAt ≤ now)

/-- The gateway's own limit is honoured: a refused call has waited for it, and
a call that sleeps again has not. -/
structure Honoured (config : GuardConfig) (now : Time) (op : GuardOp)
    (watched : Watched) : Prop where
  refused : ∀ gatewayId number began error, Advances gatewayId number op →
    (watch config now op watched).2.began gatewayId number = some began →
    (watch config now op watched).1.reply = .stage (.ended (.fail error)) →
    error.code = .rateLimited →
      began + ownTokenWaitMs config now gatewayId watched.registries ≤ now
  sleeps : ∀ gatewayId number began deadline wakesAt,
    Advances gatewayId number op →
    (watch config now op watched).2.began gatewayId number = some began →
    (watch config now op watched).1.reply =
      .stage (.waiting deadline wakesAt) →
      now < began + ownTokenWaitMs config now gatewayId watched.registries

/-- At a poll without a token both limits have run out, or neither has. -/
def Agrees (config : GuardConfig) (now : Time) (op : GuardOp)
    (watched : Watched) : Prop :=
  ∀ gatewayId number began, Polls now gatewayId number op watched.registries →
    (watch config now op watched).2.began gatewayId number = some began →
    ((RateLimiterRegistry.get config now gatewayId
      watched.registries.buckets).tryAcquire now).1 = false →
    (began + ownTokenWaitMs config now gatewayId watched.registries ≤ now ↔
      began + config.rateLimiter.tokenWaitMs ≤ now)

/-- `configure` leaves the token wait at its default. -/
def Plain (config : GuardConfig) : GuardOp → Prop
  | .configure _ policy => ∀ overrides, policy.rateLimiter = some overrides →
      overrides.tokenWaitMs.getD config.rateLimiter.tokenWaitMs =
        config.rateLimiter.tokenWaitMs
  | _ => True

variable {config : GuardConfig} {now : Time} {gatewayId : String}
  {number : Nat} {registries : GuardRegistries} {watched : Watched}

/-- A poll takes a token, refuses at the deadline or sleeps before it. -/
theorem pollStage_cases (deadline : Time) (registries : GuardRegistries) :
    (((RateLimiterRegistry.get config now gatewayId
        registries.buckets).tryAcquire now).1 = true ∧
      registries.pollStage config now gatewayId deadline = .granted) ∨
    (((RateLimiterRegistry.get config now gatewayId
        registries.buckets).tryAcquire now).1 = false ∧ deadline ≤ now ∧
      registries.pollStage config now gatewayId deadline =
        .ended (callOutcome config.rateLimiter.tokenWaitMs gatewayId
          .noToken)) ∨
    (((RateLimiterRegistry.get config now gatewayId
        registries.buckets).tryAcquire now).1 = false ∧ now < deadline ∧
      ∃ wakesAt, registries.pollStage config now gatewayId deadline =
        .waiting deadline wakesAt) := by
  simp only [pollStage, GatewayGuard.pollToken, GuardRegistries.guard]
  rcases (RateLimiterRegistry.get config now gatewayId
    registries.buckets).tryAcquire now with ⟨_ | _, bucket⟩
  · by_cases expired : deadline ≤ now
    · exact .inr (.inl ⟨rfl, expired, by simp [expired]⟩)
    · exact .inr (.inr ⟨rfl, Nat.lt_of_not_le expired,
        now + min 15 (max 5 (deadline - now)), by simp [expired]⟩)
  · exact .inl ⟨rfl, rfl⟩

/-- No other operation of a call refuses it for want of a token or puts it to
sleep. -/
theorem gateStage_ne (registries : GuardRegistries) :
    (∀ error, registries.gateStage config now gatewayId =
      .ended (.fail error) → error.code ≠ .rateLimited) ∧
    ∀ deadline wakesAt, registries.gateStage config now gatewayId ≠
      .waiting deadline wakesAt := by
  simp only [gateStage, GatewayGuard.passGate]
  split
  · exact ⟨by simp, by simp⟩
  · refine ⟨?_, by simp⟩
    intro error same
    simp only [callOutcome, GuardCall.ended.injEq,
      CallOutcome.fail.injEq] at same
    rw [← same]
    simp

/-- The deadline of a poll is the deadline of the sleep after it. -/
theorem pollStage_sleeps {deadline later wakesAt : Time}
    (asleep : registries.pollStage config now gatewayId deadline =
      .waiting later wakesAt) : later = deadline := by
  rcases @pollStage_cases config now gatewayId deadline registries with
    ⟨-, stage⟩ | ⟨-, -, stage⟩ | ⟨-, -, wakesAt', stage⟩
  · rw [stage] at asleep
    cases asleep
  · rw [stage] at asleep
    cases asleep
  · rw [stage] at asleep
    cases asleep
    rfl

/-- The deadline of a sleeping call is the global limit. -/
def Dated (config : GuardConfig) (watched : Watched) : Prop :=
  ∀ gatewayId number deadline wakesAt,
    watched.registries.calls gatewayId number =
      some (.waiting deadline wakesAt) →
    ∃ began, watched.began gatewayId number = some began ∧
      deadline = began + config.rateLimiter.tokenWaitMs

theorem Polls.advances {op : GuardOp}
    (polls : Polls now gatewayId number op registries) :
    Advances gatewayId number op := by
  rcases polls with ⟨same, -⟩ | ⟨same, -⟩
  · exact .inl same
  · exact .inr same

private theorem noteBegin_of_some {op : GuardOp} {stage : GuardCall}
    (found : watched.registries.calls gatewayId number = some stage) :
    noteBegin now op watched gatewayId number =
      watched.began gatewayId number := by
  cases op with
  | call other count =>
      cases missing : watched.registries.calls other count with
      | none =>
          simp only [noteBegin, missing]
          by_cases same : gatewayId = other
          · subst same
            have apart : number ≠ count := by
              rintro rfl
              rw [missing] at found
              cases found
            rw [Function.update_self, Function.update_of_ne apart]
          · rw [Function.update_of_ne same]
      | some stage => simp only [noteBegin, missing]
  | resume | answer | refund | refunded | configure | health => rfl

/-- A poll is made for the limit that began with the call. -/
theorem polled {op : GuardOp} (dated : Dated config watched)
    (polls : Polls now gatewayId number op watched.registries) :
    ∃ began, noteBegin now op watched gatewayId number = some began ∧
      watched.registries.perform config now op =
        watched.registries.poll config now gatewayId number
          (began + config.rateLimiter.tokenWaitMs) := by
  rcases polls with ⟨rfl, missing⟩ | ⟨rfl, deadline, wakesAt, found, awake⟩
  · refine ⟨now, ?_, ?_⟩
    · simp [noteBegin, missing]
    · simp [perform, missing]
  · obtain ⟨began, noted, rfl⟩ := dated _ _ _ _ found
    refine ⟨began, noted, ?_⟩
    simp [perform, found, awake]

/-- An operation of a call that does not poll neither refuses it for want of a
token nor puts it to sleep. -/
theorem not_polled {op : GuardOp} (advances : Advances gatewayId number op)
    (other : ¬ Polls now gatewayId number op registries) :
    (∀ error, (registries.perform config now op).1.reply =
      .stage (.ended (.fail error)) → error.code ≠ .rateLimited) ∧
    ∀ deadline wakesAt, (registries.perform config now op).1.reply ≠
      .stage (.waiting deadline wakesAt) := by
  rcases advances with rfl | rfl
  · cases found : registries.calls gatewayId number with
    | none => exact absurd (.inl ⟨rfl, found⟩) other
    | some stage =>
        simp only [perform, found]
        exact ⟨by simp, by simp⟩
  · simp only [perform]
    split
    case h_1 deadline wakesAt found =>
      split
      case isTrue awake =>
        exact absurd (.inr ⟨rfl, deadline, wakesAt, found, awake⟩) other
      case isFalse => exact ⟨by simp, by simp⟩
    case h_2 =>
      obtain ⟨refused, asleep⟩ := @gateStage_ne config now gatewayId registries
      rw [pass_answer]
      refine ⟨?_, ?_⟩
      · intro error same
        exact refused error (GuardReply.stage.inj same)
      · intro deadline wakesAt same
        exact asleep deadline wakesAt (GuardReply.stage.inj same)
    case h_3 => exact ⟨by simp, by simp⟩

/-- The reply to a poll of a call that began at this time. -/
theorem polled_reply {op : GuardOp} {began : Time}
    (dated : Dated config watched)
    (polls : Polls now gatewayId number op watched.registries)
    (noted : (watch config now op watched).2.began gatewayId number =
      some began) :
    (watch config now op watched).1.reply =
      .stage (watched.registries.pollStage config now gatewayId
        (began + config.rateLimiter.tokenWaitMs)) := by
  obtain ⟨began', noted', performed⟩ := polled dated polls
  obtain rfl : began' = began := Option.some.inj (noted'.symm.trans noted)
  simp [watch, performed]

private theorem honoured_iff_agrees (dated : Dated config watched)
    (op : GuardOp) :
    Honoured config now op watched ↔ Agrees config now op watched := by
  constructor
  · intro honoured gatewayId number began polls noted empty
    have reply := polled_reply dated polls noted
    rcases @pollStage_cases config now gatewayId
        (began + config.rateLimiter.tokenWaitMs) watched.registries with
      ⟨token, -⟩ | ⟨-, expired, stage⟩ | ⟨-, early, wakesAt, stage⟩
    · rw [token] at empty
      cases empty
    · rw [stage] at reply
      have waited := honoured.refused gatewayId number began _ polls.advances
        noted reply rfl
      exact ⟨fun _ => expired, fun _ => waited⟩
    · rw [stage] at reply
      have asleep := honoured.sleeps gatewayId number began _ _
        polls.advances noted reply
      exact ⟨fun waited => absurd waited (Nat.not_le_of_lt asleep),
        fun expired => absurd expired (Nat.not_le_of_lt early)⟩
  · intro agrees
    constructor
    · intro gatewayId number began error advances noted reply code
      by_cases polls : Polls now gatewayId number op watched.registries
      · rw [polled_reply dated polls noted] at reply
        rcases @pollStage_cases config now gatewayId
            (began + config.rateLimiter.tokenWaitMs) watched.registries with
          ⟨-, stage⟩ | ⟨empty, expired, -⟩ | ⟨-, -, wakesAt, stage⟩
        · rw [stage] at reply
          cases reply
        · exact (agrees gatewayId number began polls noted empty).mpr expired
        · rw [stage] at reply
          cases reply
      · exact absurd code ((not_polled advances polls).1 error reply)
    · intro gatewayId number began deadline wakesAt advances noted reply
      by_cases polls : Polls now gatewayId number op watched.registries
      · rw [polled_reply dated polls noted] at reply
        rcases @pollStage_cases config now gatewayId
            (began + config.rateLimiter.tokenWaitMs) watched.registries with
          ⟨-, stage⟩ | ⟨-, -, stage⟩ | ⟨empty, early, -⟩
        · rw [stage] at reply
          cases reply
        · rw [stage] at reply
          cases reply
        · refine Nat.lt_of_not_le fun waited => ?_
          exact Nat.not_le_of_lt early
            ((agrees gatewayId number began polls noted empty).mp waited)
      · exact absurd reply ((not_polled advances polls).2 deadline wakesAt)

theorem update_cases {calls : Nat → Option GuardCall} {count : Nat}
    {stage stage' : GuardCall}
    (found : Function.update calls count (some stage) number = some stage') :
    (number = count ∧ stage = stage') ∨ calls number = some stage' := by
  by_cases here : number = count
  · rw [here, Function.update_self] at found
    exact .inl ⟨here, Option.some.inj found⟩
  · rw [Function.update_of_ne here] at found
    exact .inr found

/-- A call that sleeps after an operation has polled, or slept before it. -/
theorem asleep_of_perform {op : GuardOp} {deadline wakesAt : Time}
    (asleep : (registries.perform config now op).2.calls gatewayId number =
      some (.waiting deadline wakesAt)) :
    registries.calls gatewayId number = some (.waiting deadline wakesAt) ∨
      Polls now gatewayId number op registries := by
  by_cases apart : gatewayId ≠ op.gatewayId
  · have same := congrArg Share.calls
      (@share_apart config now gatewayId op apart registries)
    exact .inl ((congrFun same number).symm.trans asleep)
  have same : gatewayId = op.gatewayId := not_not.mp apart
  cases op with
  | call other count =>
      obtain rfl : gatewayId = other := same
      simp only [perform] at asleep
      split at asleep
      case h_1 missing =>
        rw [poll_calls] at asleep
        rcases update_cases asleep with ⟨rfl, -⟩ | before
        · exact .inr (.inl ⟨rfl, missing⟩)
        · exact .inl before
      case h_2 => exact .inl asleep
  | resume other count =>
      obtain rfl : gatewayId = other := same
      simp only [perform] at asleep
      split at asleep
      case h_1 deadline' wakesAt' found =>
        split at asleep
        case isTrue awake =>
          rw [poll_calls] at asleep
          rcases update_cases asleep with ⟨rfl, -⟩ | before
          · exact .inr (.inr ⟨rfl, deadline', wakesAt', found, awake⟩)
          · exact .inl before
        case isFalse => exact .inl asleep
      case h_2 =>
        rw [pass_calls] at asleep
        rcases update_cases asleep with ⟨-, stage⟩ | before
        · exact absurd stage
            ((@gateStage_ne config now gatewayId registries).2 _ _)
        · exact .inl before
      case h_3 => exact .inl asleep
  | answer other count result =>
      obtain rfl : gatewayId = other := same
      simp only [perform] at asleep
      split at asleep
      case h_1 =>
        rw [settle_calls] at asleep
        rcases update_cases asleep with ⟨-, stage⟩ | before
        · cases stage
        · exact .inl before
      case h_2 => exact .inl asleep
  | refund other transactionId => exact .inl asleep
  | refunded other result => exact .inl asleep
  | configure other policy => exact .inl asleep
  | health other =>
      simp only [perform, health_calls] at asleep
      exact .inl asleep

theorem Dated.watch (dated : Dated config watched) (now : Time)
    (op : GuardOp) : Dated config (watch config now op watched).2 := by
  intro gatewayId number deadline wakesAt asleep
  rcases asleep_of_perform asleep with before | polls
  · obtain ⟨began, noted, same⟩ := dated _ _ _ _ before
    exact ⟨began, (noteBegin_of_some before).trans noted, same⟩
  · obtain ⟨began, noted, performed⟩ := polled dated polls
    refine ⟨began, noted, ?_⟩
    simp only [TokenWaits.watch, performed, poll_calls, Function.update_self,
      Option.some.injEq] at asleep
    exact pollStage_sleeps asleep

private theorem dated_create : Dated config .create := by
  intro gatewayId number deadline wakesAt asleep
  cases asleep

private theorem dated_after (config : GuardConfig)
    (calls : List (Timed GuardOp)) :
    Dated config (after (watch config) .create calls) := by
  apply after_invariant (Dated config) ?_ dated_create
    (fun _ _ => trivial : ∀ call ∈ calls, (fun _ => True) call)
  intro call watched _ dated
  exact dated.watch call.time call.op

/-- Every bucket has the default token wait. -/
def Uniform (config : GuardConfig) (registries : GuardRegistries) : Prop :=
  ∀ gatewayId bucket, registries.buckets gatewayId = some bucket →
    bucket.params.tokenWaitMs = config.rateLimiter.tokenWaitMs

theorem Uniform.own (uniform : Uniform config registries) (now : Time)
    (gatewayId : String) :
    ownTokenWaitMs config now gatewayId registries =
      config.rateLimiter.tokenWaitMs := by
  rw [ownTokenWaitMs, RateLimiterRegistry.get]
  cases found : registries.buckets gatewayId with
  | none => rfl
  | some bucket => exact uniform gatewayId bucket found

private theorem feedback_params (result : GatewayChargeResult)
    (bucket : AdaptiveTokenBucket) :
    (GatewayGuard.feedback result bucket).params = bucket.params := by
  cases result with
  | ok transactionId httpStatus => rfl
  | fail failure =>
      simp only [GatewayGuard.feedback]
      split
      · rfl
      · rfl

theorem Uniform.perform (uniform : Uniform config registries) (now : Time)
    {op : GuardOp} (plain : Plain config op) :
    Uniform config (registries.perform config now op).2 := by
  intro gatewayId bucket found
  by_cases apart : gatewayId ≠ op.gatewayId
  · have same := congrArg Share.bucket
      (@share_apart config now gatewayId op apart registries)
    exact uniform gatewayId bucket (same.symm.trans found)
  have same : gatewayId = op.gatewayId := not_not.mp apart
  have own := uniform.own now gatewayId
  rw [ownTokenWaitMs] at own
  have polled := (AdaptiveTokenBucket.tryAcquire_frame now
    (RateLimiterRegistry.get config now gatewayId registries.buckets)).1
  cases op with
  | call other number =>
      obtain rfl : gatewayId = other := same
      simp only [GuardRegistries.perform] at found
      split at found
      · rw [poll_buckets, Option.some.injEq] at found
        rw [← found, polled, own]
      · exact uniform gatewayId bucket found
  | resume other number =>
      obtain rfl : gatewayId = other := same
      simp only [GuardRegistries.perform] at found
      split at found
      · split at found
        · rw [poll_buckets, Option.some.injEq] at found
          rw [← found, polled, own]
        · exact uniform gatewayId bucket found
      · rw [pass_buckets] at found
        exact uniform gatewayId bucket found
      · exact uniform gatewayId bucket found
  | answer other number result =>
      obtain rfl : gatewayId = other := same
      simp only [GuardRegistries.perform] at found
      split at found
      · rw [settle_buckets, Option.some.injEq] at found
        rw [← found, feedback_params, own]
      · exact uniform gatewayId bucket found
  | refund other transactionId => exact uniform gatewayId bucket found
  | refunded other result => exact uniform gatewayId bucket found
  | configure other policy =>
      obtain rfl : gatewayId = other := same
      cases given : policy.rateLimiter with
      | none =>
          simp only [GuardRegistries.perform, GuardRegistries.configure,
            given] at found
          exact uniform gatewayId bucket found
      | some overrides =>
          have default := plain overrides given
          simp only [GuardRegistries.perform, GuardRegistries.configure, given,
            RateLimiterRegistry.configure, Registry.set_self,
            Option.some.injEq] at found
          subst found
          cases registries.buckets gatewayId with
          | none => exact default
          | some bucket => exact default
  | health other =>
      obtain rfl : gatewayId = other := same
      simp only [GuardRegistries.perform, health_buckets,
        Option.some.injEq] at found
      rw [← found, AdaptiveTokenBucket.refill_params, own]

private theorem uniform_after (config : GuardConfig)
    {calls : List (Timed GuardOp)}
    (plain : ∀ call ∈ calls, Plain config call.op) :
    Uniform config (after (watch config) .create calls).registries := by
  apply after_invariant
    (fun watched : Watched => Uniform config watched.registries) ?_ ?_ plain
  · intro call watched allowed uniform
    exact uniform.perform call.time allowed
  · intro gatewayId bucket found
    cases found

theorem Uniform.agrees (uniform : Uniform config watched.registries)
    (now : Time) (op : GuardOp) : Agrees config now op watched := by
  intro gatewayId number began polls noted empty
  rw [uniform.own]

/-- In a run whose reconfigurations leave the token wait at its default, every
operation honours the limits of the gateways.  In any run an operation does so
exactly if, at a poll without a token, the gateway's own limit has run out just
when the global one has. -/
theorem token_waits_honoured (config : GuardConfig)
    (calls : List (Timed GuardOp)) (now : Time) (op : GuardOp) :
    ((∀ call ∈ calls, Plain config call.op) →
      Honoured config now op (after (watch config) .create calls)) ∧
    (Honoured config now op (after (watch config) .create calls) ↔
      Agrees config now op (after (watch config) .create calls)) := by
  have honoured := @honoured_iff_agrees config now _
    (dated_after config calls) op
  refine ⟨?_, honoured⟩
  intro plain
  exact honoured.mpr ((uniform_after config plain).agrees now op)

/-- A gateway with a slow bucket and a limit of a tenth of a second. -/
def impatient : GuardPolicy :=
  { rateLimiter := some ⟨some (1 / 4), none, none, none, some 100⟩
    circuitBreaker := none }

/-- After its limit the call goes back to sleep. -/
theorem token_wait_ignored :
    ¬ ∀ (config : GuardConfig) (calls : List (Timed GuardOp)) (now : Time)
      (op : GuardOp),
      Honoured config now op (after (watch config) .create calls) := by
  intro honoured
  have sleeps := (honoured .default
    [⟨0, .configure "stripe" impatient⟩, ⟨0, .call "stripe" 0⟩] 150
    (.resume "stripe" 0)).sleeps "stripe" 0 0 15000 165 (.inr rfl) rfl
    (by decide +kernel)
  have limit : ownTokenWaitMs .default 150 "stripe"
      (after (watch .default) .create
        [⟨0, .configure "stripe" impatient⟩,
          ⟨0, .call "stripe" 0⟩]).registries = 100 := by
    decide +kernel
  rw [limit] at sleeps
  exact absurd sleeps (by decide)

end PaymentQueue.TokenWaits
