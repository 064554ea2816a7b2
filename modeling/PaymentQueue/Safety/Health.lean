import PaymentQueue.Await.Pairs
import PaymentQueue.Gateway.BreakerRuns
import PaymentQueue.Gateway.BucketRuns
import PaymentQueue.Gateway.Shares

/-!
# Health reads

`health` refills the bucket and prunes the window of the breaker.  Pruning is
harmless: later outcomes prune again.  Refilling is harmless until an answer
changes the rate or the burst ceiling.  The feedback does not refill first, so
the time since the last refill is credited at the new rate, unless a health
read has credited it at the old one.
-/

namespace PaymentQueue.Health

open Await GuardRegistries
open GatewayGuard (feedback reported)

variable {config : GuardConfig} {now : Time} {gatewayId : String}

/-- A health read. -/
def reads (call : Timed GuardOp) : Prop := call.op.isHealth = true

instance : DecidablePred reads := fun call =>
  inferInstanceAs (Decidable (call.op.isHealth = true))

/-- What the guard answers, health reads apart. -/
def results (config : GuardConfig) (calls : List (Timed GuardOp)) :
    List (Timed GuardOp × GuardAnswer) :=
  (answers (perform config) empty calls).filter fun answered =>
    decide (¬ reads answered.1)

/-- No health reads that are inserted into the run change what the guard
answers to its operations. -/
def Unobserved (config : GuardConfig) (start : Time)
    (run : List (Timed GuardOp)) : Prop :=
  ∀ calls, Thins reads calls run → Clocked start calls →
    results config calls = results config run

/-- Refilling before the adjustment and after it is the same, at any time
since the last refill. -/
def Commutes (now : Time)
    (adjust : AdaptiveTokenBucket → AdaptiveTokenBucket)
    (bucket : AdaptiveTokenBucket) : Prop :=
  ∀ time, bucket.lastRefill ≤ time → time ≤ now →
    adjust (bucket.refill time) = (adjust bucket).refill time

/-- The feedback of an answered charge commutes with the refill, and the
nominal rates that are configured are not negative. -/
def Settled (config : GuardConfig) (registries : GuardRegistries)
    (call : Timed GuardOp) : Prop :=
  match call.op with
  | .answer gatewayId number result => ∀ gate bucket,
      registries.calls gatewayId number = some (.charging gate) →
      registries.buckets gatewayId = some bucket →
      Commutes call.time (feedback result) bucket
  | .configure _ policy => ∀ overrides, policy.rateLimiter = some overrides →
      0 ≤ (config.rateLimiter.override overrides).nominalRps
  | _ => True

/-- The first bucket is the second one after a refill that has come since. -/
structure Ahead (now : Time) (full thin : AdaptiveTokenBucket) : Prop where
  capped : thin.tokens ≤ thin.burst
  refilled : ∃ time, thin.lastRefill ≤ time ∧ time ≤ now ∧
    full = thin.refill time

section Buckets

variable {full thin bucket : AdaptiveTokenBucket}
  {params : TokenBucketParams}

theorem Ahead.refl (capped : bucket.tokens ≤ bucket.burst)
    (before : bucket.lastRefill ≤ now) : Ahead now bucket bucket :=
  ⟨capped, bucket.lastRefill, Nat.le_refl _, before,
    (AdaptiveTokenBucket.refill_of_le (Nat.le_refl _)).symm⟩

theorem Ahead.later {moment : Time} (ahead : Ahead now full thin)
    (after : now ≤ moment) : Ahead moment full thin := by
  obtain ⟨capped, time, since, before, same⟩ := ahead
  exact ⟨capped, time, since, Nat.le_trans before after, same⟩

theorem Ahead.caught_up (ahead : Ahead now full thin) :
    full.refill now = thin.refill now := by
  obtain ⟨capped, time, -, before, rfl⟩ := ahead
  exact AdaptiveTokenBucket.refill_refill capped before

theorem Ahead.lastRefill_le (ahead : Ahead now full thin) :
    thin.lastRefill ≤ now := by
  obtain ⟨-, time, since, before, -⟩ := ahead
  exact Nat.le_trans since before

theorem Ahead.refill (ahead : Ahead now full thin) :
    Ahead now (full.refill now) thin :=
  ⟨ahead.capped, now, ahead.lastRefill_le, Nat.le_refl now, ahead.caught_up⟩

theorem Ahead.adjust {adjust : AdaptiveTokenBucket → AdaptiveTokenBucket}
    (ahead : Ahead now full thin) (commutes : Commutes now adjust thin)
    (capped : (adjust thin).tokens ≤ (adjust thin).burst)
    (kept : (adjust thin).lastRefill = thin.lastRefill) :
    Ahead now (adjust full) (adjust thin) := by
  obtain ⟨-, time, since, before, rfl⟩ := ahead
  exact ⟨capped, time, by rwa [kept], before, commutes time since before⟩

theorem refill_capped (capped : bucket.tokens ≤ bucket.burst) (now : Time) :
    (bucket.refill now).tokens ≤ (bucket.refill now).burst := by
  rw [AdaptiveTokenBucket.refill]
  split
  · exact capped
  · exact min_le_left _ _

private theorem tryAcquire_eq (same : full.refill now = thin.refill now) :
    full.tryAcquire now = thin.tryAcquire now := by
  simp only [AdaptiveTokenBucket.tryAcquire, same]

private theorem tryAcquire_capped (capped : bucket.tokens ≤ bucket.burst)
    (now : Time) :
    (bucket.tryAcquire now).2.tokens ≤ (bucket.tryAcquire now).2.burst := by
  have refilled := refill_capped capped now
  rcases bucket.tryAcquire_cases now with ⟨-, granted⟩ | ⟨-, refused⟩
  · rw [granted]
    exact le_trans (sub_le_self _ zero_le_one) refilled
  · rw [refused]
    exact refilled

private theorem tryAcquire_lastRefill (before : bucket.lastRefill ≤ now) :
    (bucket.tryAcquire now).2.lastRefill = now := by
  have refilled := bucket.refill_lastRefill now
  rw [Nat.max_eq_right before] at refilled
  rcases bucket.tryAcquire_cases now with ⟨-, granted⟩ | ⟨-, refused⟩
  · rw [granted]
    exact refilled
  · rw [refused]
    exact refilled

private theorem feedback_capped (result : GatewayChargeResult)
    (capped : bucket.tokens ≤ bucket.burst) :
    (feedback result bucket).tokens ≤ (feedback result bucket).burst := by
  cases result with
  | ok transactionId httpStatus => exact min_le_right _ _
  | fail failure =>
      simp only [feedback]
      split
      · exact min_le_right _ _
      · exact capped

private theorem feedback_lastRefill (result : GatewayChargeResult)
    (bucket : AdaptiveTokenBucket) :
    (feedback result bucket).lastRefill = bucket.lastRefill := by
  cases result with
  | ok transactionId httpStatus => rfl
  | fail failure =>
      simp only [feedback]
      split
      · rfl
      · rfl

/-- A full bucket takes no credit. -/
theorem min_full {burst rate : ℚ} (nonnegative : 0 ≤ rate) {time : Time}
    (before : time ≤ now) :
    min burst (burst + ((now : ℚ) - time) / 1000 * rate) = burst := by
  have ordered : 0 ≤ (now : ℚ) - time :=
    sub_nonneg.mpr (Nat.cast_le.mpr before)
  have credit : 0 ≤ ((now : ℚ) - time) / 1000 * rate := by positivity
  exact min_eq_left (by linarith)

theorem create_refill (nonnegative : 0 ≤ params.nominalRps) {time : Time}
    (before : time ≤ now) :
    (AdaptiveTokenBucket.create params time).refill now =
      .create params now := by
  by_cases same : now ≤ time
  · obtain rfl := Nat.le_antisymm before same
    exact AdaptiveTokenBucket.refill_of_le (Nat.le_refl _)
  · rw [AdaptiveTokenBucket.refill_of_lt (Nat.lt_of_not_le same)]
    simp only [AdaptiveTokenBucket.create]
    rw [min_full nonnegative before]

/-- New limits fill the bucket, whatever was credited before. -/
theorem reconfigure_commutes (nonnegative : 0 ≤ params.nominalRps)
    (bucket : AdaptiveTokenBucket) (now : Time) :
    Commutes now (AdaptiveTokenBucket.reconfigure params) bucket := by
  intro time since before
  by_cases same : time ≤ bucket.lastRefill
  · have kept : (bucket.reconfigure params).refill time =
        bucket.reconfigure params := AdaptiveTokenBucket.refill_of_le same
    rw [AdaptiveTokenBucket.refill_of_le same, kept]
  · have later : (bucket.reconfigure params).lastRefill < time :=
      Nat.lt_of_not_le same
    rw [AdaptiveTokenBucket.refill_of_lt later,
      AdaptiveTokenBucket.refill_of_lt (Nat.lt_of_not_le same)]
    simp only [AdaptiveTokenBucket.reconfigure]
    rw [min_full nonnegative since]

/-- A bucket that nobody has polled yet, or that is yet to be created. -/
def Pristine (config : GuardConfig) (now : Time) (params : TokenBucketParams) :
    Option AdaptiveTokenBucket → Prop
  | none => params = config.rateLimiter
  | some bucket => ∃ time, time ≤ now ∧ bucket = .create params time

theorem Pristine.later {moment : Time} {held : Option AdaptiveTokenBucket}
    (pristine : Pristine config now params held) (after : now ≤ moment) :
    Pristine config moment params held := by
  cases held with
  | none => exact pristine
  | some bucket =>
      obtain ⟨time, before, same⟩ := pristine
      exact ⟨time, Nat.le_trans before after, same⟩

/-- Whoever asks for it finds a full bucket. -/
theorem Pristine.get {buckets : Registry AdaptiveTokenBucket}
    (pristine : Pristine config now params (buckets gatewayId)) :
    ∃ time, time ≤ now ∧
      RateLimiterRegistry.get config now gatewayId buckets =
        .create params time := by
  rw [RateLimiterRegistry.get]
  cases held : buckets gatewayId with
  | none =>
      rw [held] at pristine
      obtain rfl : params = config.rateLimiter := pristine
      exact ⟨now, Nat.le_refl now, rfl⟩
  | some bucket =>
      rw [held] at pristine
      exact pristine

theorem Pristine.configure {buckets : Registry AdaptiveTokenBucket}
    (pristine : Pristine config now params (buckets gatewayId))
    (overrides : TokenBucketOverrides) :
    Pristine config now (config.rateLimiter.override overrides)
      (RateLimiterRegistry.configure config now gatewayId overrides buckets
        gatewayId) := by
  simp only [RateLimiterRegistry.configure, Registry.set_self]
  cases held : buckets gatewayId with
  | none => exact ⟨now, Nat.le_refl now, rfl⟩
  | some bucket =>
      rw [held] at pristine
      obtain ⟨time, before, rfl⟩ := pristine
      exact ⟨time, before, rfl⟩

end Buckets

/-- How the buckets of a gateway may differ: before the first call they are
full, and later the read one is ahead. -/
inductive Buckets (config : GuardConfig) (now : Time) (gatewayId : String)
    (full thin : GuardRegistries) : Prop where
  | idle (params : TokenBucketParams) : 0 ≤ params.nominalRps →
      thin.calls gatewayId = (fun _ => none) →
      Pristine config now params (full.buckets gatewayId) →
      Pristine config now params (thin.buckets gatewayId) →
      Buckets config now gatewayId full thin
  | busy (read unread : AdaptiveTokenBucket) :
      full.buckets gatewayId = some read →
      thin.buckets gatewayId = some unread → Ahead now read unread →
      Buckets config now gatewayId full thin

/-- How the shares of a gateway may differ in the two runs. -/
structure Related (config : GuardConfig) (now : Time) (gatewayId : String)
    (full thin : GuardRegistries) : Prop where
  calls : full.calls gatewayId = thin.calls gatewayId
  buckets : Buckets config now gatewayId full thin
  breakers : CircuitBreaker.Agrees now
    (CircuitBreakerRegistry.get config gatewayId full.breakers)
    (CircuitBreakerRegistry.get config gatewayId thin.breakers)

section Steps

variable {full thin full' thin' : GuardRegistries} {number : Nat}

theorem Related.congr (related : Related config now gatewayId full thin)
    (left : share gatewayId full' = share gatewayId full)
    (right : share gatewayId thin' = share gatewayId thin) :
    Related config now gatewayId full' thin' := by
  simp only [share, Share.mk.injEq] at left right
  obtain ⟨calls, buckets, breakers⟩ := related
  constructor
  · rw [left.2.2, right.2.2, calls]
  · cases buckets with
    | idle params nonnegative unused read unread =>
        refine .idle params nonnegative ?_ ?_ ?_
        · rw [right.2.2, unused]
        · rwa [left.1]
        · rwa [right.1]
    | busy read unread held held' ahead =>
        refine .busy read unread ?_ ?_ ahead
        · rw [left.1, held]
        · rw [right.1, held']
  · simp only [CircuitBreakerRegistry.get, left.2.1, right.2.1]
    exact breakers

theorem Related.later {moment : Time}
    (related : Related config now gatewayId full thin)
    (after : now ≤ moment) : Related config moment gatewayId full thin := by
  obtain ⟨calls, buckets, rest, window⟩ := related
  refine ⟨calls, ?_, rest, ?_⟩
  · cases buckets with
    | idle params nonnegative unused read unread =>
        exact .idle params nonnegative unused (read.later after)
          (unread.later after)
    | busy read unread held held' ahead =>
        exact .busy read unread held held' (ahead.later after)
  · intro instant late
    exact window instant (Nat.le_trans after late)

/-- Once there is a call there are buckets. -/
theorem Related.busy {call : GuardCall}
    (related : Related config now gatewayId full thin)
    (found : thin.calls gatewayId number = some call) :
    ∃ read unread, full.buckets gatewayId = some read ∧
      thin.buckets gatewayId = some unread ∧ Ahead now read unread := by
  cases related.buckets with
  | idle params nonnegative unused read unread =>
      rw [unused] at found
      cases found
  | busy read unread held held' ahead =>
      exact ⟨read, unread, held, held', ahead⟩

/-- Brought up to date, the buckets are the same. -/
theorem Related.refilled (related : Related config now gatewayId full thin) :
    let read := RateLimiterRegistry.get config now gatewayId full.buckets
    let unread := RateLimiterRegistry.get config now gatewayId thin.buckets
    read.refill now = unread.refill now ∧
      unread.tokens ≤ unread.burst ∧ unread.lastRefill ≤ now := by
  intro read unread
  cases related.buckets with
  | idle params nonnegative unused first second =>
      obtain ⟨time, before, same⟩ := first.get
      obtain ⟨time', before', same'⟩ := second.get
      simp only [read, unread, same, same', create_refill nonnegative before,
        create_refill nonnegative before']
      exact ⟨trivial, le_refl _, before'⟩
  | busy first second held held' ahead =>
      simp only [read, unread, RateLimiterRegistry.get, held, held',
        Option.getD_some]
      exact ⟨ahead.caught_up, ahead.capped, ahead.lastRefill_le⟩

theorem Related.poll (related : Related config now gatewayId full thin)
    (deadline : Time) :
    (full.poll config now gatewayId number deadline).1 =
        (thin.poll config now gatewayId number deadline).1 ∧
      Related config now gatewayId
        (full.poll config now gatewayId number deadline).2
        (thin.poll config now gatewayId number deadline).2 := by
  obtain ⟨same, capped, before⟩ := related.refilled
  have acquired := tryAcquire_eq same
  have stage : full.pollStage config now gatewayId deadline =
      thin.pollStage config now gatewayId deadline :=
    GatewayGuard.pollToken_congr deadline rfl acquired
  refine ⟨by simp [stage], ?_⟩
  constructor
  · simp [stage, related.calls]
  · refine .busy _ _ (poll_buckets ..) (poll_buckets ..) ?_
    rw [acquired]
    exact .refl (tryAcquire_capped capped now)
      (Nat.le_of_eq (tryAcquire_lastRefill before))
  · simpa using related.breakers

theorem Related.pass {call : GuardCall}
    (related : Related config now gatewayId full thin)
    (found : thin.calls gatewayId number = some call) :
    (full.pass config now gatewayId number).1 =
        (thin.pass config now gatewayId number).1 ∧
      Related config now gatewayId
        (full.pass config now gatewayId number).2
        (thin.pass config now gatewayId number).2 := by
  obtain ⟨read, unread, held, held', ahead⟩ := related.busy found
  obtain ⟨gate, agrees⟩ := related.breakers.allowCall (Nat.le_refl now)
  have stage : full.gateStage config now gatewayId =
      thin.gateStage config now gatewayId :=
    GatewayGuard.passGate_congr gate.symm
  refine ⟨by simp [stage], ?_⟩
  constructor
  · simp [stage, related.calls]
  · refine .busy read unread ?_ ?_ ahead
    · rw [pass_buckets, held]
    · rw [pass_buckets, held']
  · simpa [CircuitBreakerRegistry.get] using agrees

private theorem reported_agrees {left right : CircuitBreaker}
    (agrees : CircuitBreaker.Agrees now left right)
    (result : GatewayChargeResult) :
    (reported result now right).2 = (reported result now left).2 ∧
      CircuitBreaker.Agrees now (reported result now left).1
        (reported result now right).1 := by
  simp only [reported]
  split
  · exact agrees.recordOutcome (Nat.le_refl now) _
  · exact ⟨rfl, agrees⟩

theorem Related.settle {call : GuardCall}
    (related : Related config now gatewayId full thin)
    (found : thin.calls gatewayId number = some call)
    (result : GatewayChargeResult)
    (commutes : ∀ bucket, thin.buckets gatewayId = some bucket →
      Commutes now (feedback result) bucket) :
    (full.settle config now gatewayId number result).1 =
        (thin.settle config now gatewayId number result).1 ∧
      Related config now gatewayId
        (full.settle config now gatewayId number result).2
        (thin.settle config now gatewayId number result).2 := by
  obtain ⟨read, unread, held, held', ahead⟩ := related.busy found
  obtain ⟨told, agrees⟩ := reported_agrees related.breakers result
  refine ⟨by simp [told], ?_⟩
  constructor
  · simp [related.calls]
  · refine .busy _ _ (settle_buckets ..) (settle_buckets ..) ?_
    simp only [RateLimiterRegistry.get, held, held', Option.getD_some]
    exact ahead.adjust (commutes unread held')
      (feedback_capped result ahead.capped) (feedback_lastRefill result unread)
  · simpa [CircuitBreakerRegistry.get] using agrees

theorem Related.configure (related : Related config now gatewayId full thin)
    (policy : GuardPolicy)
    (nonnegative : ∀ overrides, policy.rateLimiter = some overrides →
      0 ≤ (config.rateLimiter.override overrides).nominalRps) :
    Related config now gatewayId
      (full.configure config now gatewayId policy)
      (thin.configure config now gatewayId policy) := by
  obtain ⟨limits, circuit⟩ := policy
  constructor
  · exact related.calls
  · cases limits with
    | none =>
        cases related.buckets with
        | idle params nonnegative unused read unread =>
            exact .idle params nonnegative unused read unread
        | busy read unread held held' ahead =>
            exact .busy read unread held held' ahead
    | some overrides =>
        have rising := nonnegative overrides rfl
        cases related.buckets with
        | idle params nonnegative unused read unread =>
            exact .idle _ rising unused (read.configure overrides)
              (unread.configure overrides)
        | busy read unread held held' ahead =>
            refine .busy _ _ ?_ ?_ (ahead.adjust
              (reconfigure_commutes rising unread now) (le_refl _) rfl)
            · simp [GuardRegistries.configure, RateLimiterRegistry.configure,
                held]
            · simp [GuardRegistries.configure, RateLimiterRegistry.configure,
                held']
  · cases circuit with
    | none => exact related.breakers
    | some overrides =>
        have fresh : ∀ registries : GuardRegistries,
            CircuitBreakerRegistry.get config gatewayId
              (registries.configure config now gatewayId
                ⟨limits, some overrides⟩).breakers =
              .create (config.circuitBreaker.override overrides) := by
          intro registries
          cases held : registries.breakers gatewayId <;>
            simp [CircuitBreakerRegistry.get, GuardRegistries.configure,
              CircuitBreakerRegistry.configure, held,
              CircuitBreaker.reconfigure, CircuitBreaker.reset]
        rw [fresh full, fresh thin]
        exact .refl now _

/-- A health read of the first run alone. -/
theorem Related.read (related : Related config now gatewayId full thin) :
    Related config now gatewayId (full.health config now gatewayId).2
      thin := by
  constructor
  · rw [health_calls, related.calls]
  · cases related.buckets with
    | idle params nonnegative unused read unread =>
        obtain ⟨time, before, same⟩ := read.get
        refine .idle params nonnegative unused ?_ unread
        rw [health_buckets, same, create_refill nonnegative before]
        exact ⟨now, Nat.le_refl now, rfl⟩
    | busy read unread held held' ahead =>
        refine .busy _ unread (health_buckets ..) held' ?_
        simp only [RateLimiterRegistry.get, held, Option.getD_some]
        exact ahead.refill
  · simp only [CircuitBreakerRegistry.get, health_breakers, Option.getD_some]
    exact related.breakers.getState (Nat.le_refl now)

/-- A health read of both runs. -/
theorem Related.readBoth (related : Related config now gatewayId full thin) :
    Related config now gatewayId (full.health config now gatewayId).2
      (thin.health config now gatewayId).2 := by
  obtain ⟨same, capped, before⟩ := related.refilled
  constructor
  · rw [health_calls, health_calls, related.calls]
  · refine .busy _ _ (health_buckets ..) (health_buckets ..) ?_
    rw [same]
    refine .refl (refill_capped capped now) ?_
    rw [AdaptiveTokenBucket.refill_lastRefill]
    exact Nat.max_le.mpr ⟨before, Nat.le_refl now⟩
  · have pruned := related.breakers.prune (Nat.le_refl now)
    simp only [CircuitBreakerRegistry.get, health_breakers, Option.getD_some,
      CircuitBreaker.getState] at pruned ⊢
    rw [pruned]
    exact .refl now _

theorem Related.perform (related : Related config now gatewayId full thin)
    (op : GuardOp) (here : op.gatewayId = gatewayId)
    (settled : Settled config thin ⟨now, op⟩) :
    Related config now gatewayId (full.perform config now op).2
        (thin.perform config now op).2 ∧
      (op.isHealth = false →
        (full.perform config now op).1 = (thin.perform config now op).1) := by
  cases op with
  | call other number =>
      obtain rfl : other = gatewayId := here
      simp only [GuardRegistries.perform, related.calls]
      split
      · exact ⟨(related.poll _).2, fun _ => (related.poll _).1⟩
      · exact ⟨related, fun _ => rfl⟩
  | resume other number =>
      obtain rfl : other = gatewayId := here
      simp only [GuardRegistries.perform, related.calls]
      split
      · split
        · exact ⟨(related.poll _).2, fun _ => (related.poll _).1⟩
        · exact ⟨related, fun _ => rfl⟩
      case h_2 found =>
        exact ⟨(related.pass found).2, fun _ => (related.pass found).1⟩
      · exact ⟨related, fun _ => rfl⟩
  | answer other number result =>
      obtain rfl : other = gatewayId := here
      simp only [GuardRegistries.perform, related.calls]
      split
      case h_1 gate found =>
        have moved := related.settle found result fun bucket held =>
          settled gate bucket found held
        exact ⟨moved.2, fun _ => moved.1⟩
      · exact ⟨related, fun _ => rfl⟩
  | refund other transactionId =>
      exact ⟨related.congr (share_provision other) (share_provision other),
        fun _ => rfl⟩
  | refunded other result => exact ⟨related, fun _ => rfl⟩
  | configure other policy =>
      obtain rfl : other = gatewayId := here
      exact ⟨related.configure policy settled, fun _ => rfl⟩
  | health other =>
      obtain rfl : other = gatewayId := here
      exact ⟨related.readBoth, fun impossible => by cases impossible⟩

end Steps

/-- A run with health reads inserted, and the run without them. -/
theorem twins (config : GuardConfig) :
    Twins (perform config) (· ≤ ·)
      (fun now full thin => ∀ gatewayId,
        Related config now gatewayId full thin)
      reads (Settled config) where
  later after related gatewayId := (related gatewayId).later after
  dropped := by
    intro ⟨now, op⟩ full thin read related gatewayId
    by_cases here : op.gatewayId = gatewayId
    · cases op with
      | health other =>
          obtain rfl : other = gatewayId := here
          exact (related other).read
      | call | resume | answer | refund | refunded | configure => cases read
    · exact (related gatewayId).congr (share_apart op (Ne.symm here) full) rfl
  kept := by
    intro ⟨now, op⟩ full thin settled related gatewayId
    by_cases here : op.gatewayId = gatewayId
    · exact ((related gatewayId).perform op here settled).1
    · exact (related gatewayId).congr (share_apart op (Ne.symm here) full)
        (share_apart op (Ne.symm here) thin)
  alike := by
    intro ⟨now, op⟩ full thin settled kept related
    exact ((related op.gatewayId).perform op rfl settled).2
      (by simpa [reads] using kept)

private theorem related_empty (nonnegative : 0 ≤ config.rateLimiter.nominalRps)
    (now : Time) (gatewayId : String) :
    Related config now gatewayId empty empty :=
  ⟨rfl, .idle config.rateLimiter nonnegative rfl rfl rfl, .refl now _⟩

/-- Health reads go unnoticed in a run whose feedback commutes with the
refill. -/
theorem unobserved_of_settled (config : GuardConfig) (start : Time)
    (run : List (Timed GuardOp))
    (nonnegative : 0 ≤ config.rateLimiter.nominalRps)
    (settled : Along (perform config) (Settled config) empty run) :
    Unobserved config start run := by
  intro calls inserted clocked
  exact ((twins config).runs inserted clocked.paced
    (related_empty nonnegative start) settled).2

/-- At the nominal limits a success leaves the bucket as it is. -/
theorem onSuccess_nominal {bucket : AdaptiveTokenBucket}
    (rate : bucket.rate = bucket.params.nominalRps)
    (burst : bucket.burst =
      bucket.params.nominalRps * bucket.params.burstFactor)
    (capped : bucket.tokens ≤ bucket.burst) : bucket.onSuccess = bucket := by
  rw [AdaptiveTokenBucket.onSuccess]
  simp only [rate, ← burst, lt_irrefl, if_false, min_eq_left capped]
  rw [← rate]

private theorem success_commutes {bucket : AdaptiveTokenBucket}
    (rate : bucket.rate = bucket.params.nominalRps)
    (burst : bucket.burst =
      bucket.params.nominalRps * bucket.params.burstFactor)
    (capped : bucket.tokens ≤ bucket.burst)
    (transactionId : String) (httpStatus : Nat) :
    Commutes now (feedback (.ok transactionId httpStatus)) bucket := by
  intro time since before
  simp only [feedback]
  rw [onSuccess_nominal rate burst capped, onSuccess_nominal]
  · simpa using rate
  · simpa using burst
  · exact refill_capped capped time

/-- A bucket that was refilled just now has nothing to credit. -/
private theorem commutes_of_fresh {bucket : AdaptiveTokenBucket}
    (result : GatewayChargeResult) (fresh : bucket.lastRefill = now) :
    Commutes now (feedback result) bucket := by
  intro time since before
  have noLater : time ≤ bucket.lastRefill := by rwa [fresh]
  have noLater' : time ≤ (feedback result bucket).lastRefill := by
    rwa [feedback_lastRefill]
  rw [AdaptiveTokenBucket.refill_of_le noLater,
    AdaptiveTokenBucket.refill_of_le noLater']

/-- A charge succeeds at the nominal limits.  The next one is throttled right
after the poll of a third call, and a fourth has to wait. -/
def smoothRun : List (Timed GuardOp) :=
  [⟨0, .configure "stripe" ⟨some ⟨some 2, some 1, none, none, none⟩, none⟩⟩,
    ⟨0, .call "stripe" 0⟩, ⟨0, .resume "stripe" 0⟩,
    ⟨40, .answer "stripe" 0 (.ok "stripe_txn" 200)⟩,
    ⟨600, .call "stripe" 1⟩, ⟨600, .resume "stripe" 1⟩,
    ⟨640, .call "stripe" 2⟩,
    ⟨640, .answer "stripe" 1 (.fail ⟨.rateLimited, "slow down", 429⟩)⟩,
    ⟨700, .call "stripe" 3⟩]

theorem unobserved_smooth : Unobserved .default 0 smoothRun := by
  apply unobserved_of_settled
  · decide +kernel
  · refine ⟨?_, trivial, trivial, ?_, trivial, trivial, trivial, ?_, trivial,
      trivial⟩
    · rintro overrides ⟨rfl⟩
      decide +kernel
    · intro gate bucket charging held
      have polled : (after (perform .default) empty
          (smoothRun.take 3)).buckets "stripe" =
            some ⟨GuardConfig.default.rateLimiter.override
              ⟨some 2, some 1, none, none, none⟩, 2, 2, 1, 0, 0⟩ := by
        decide +kernel
      obtain rfl := Option.some.inj (polled.symm.trans held)
      apply success_commutes
      · decide +kernel
      · decide +kernel
      · decide +kernel
    · intro gate bucket charging held
      have polled : ((after (perform .default) empty
          (smoothRun.take 7)).buckets "stripe").map
            AdaptiveTokenBucket.lastRefill = some 640 := by
        decide +kernel
      apply commutes_of_fresh
      have same := congrArg (Option.map AdaptiveTokenBucket.lastRefill) held
      exact Option.some.inj (same.symm.trans polled)

/-- Two charges are in flight when the gateway throttles the first. -/
def throttledRun (reads : List (Timed GuardOp)) : List (Timed GuardOp) :=
  [⟨0, .configure "stripe" ⟨some ⟨some 2, some 1, none, none, none⟩, none⟩⟩,
    ⟨0, .call "stripe" 0⟩, ⟨0, .call "stripe" 1⟩, ⟨0, .resume "stripe" 0⟩,
    ⟨0, .resume "stripe" 1⟩] ++ reads ++
  [⟨500, .answer "stripe" 0 (.fail ⟨.rateLimited, "slow down", 429⟩)⟩,
    ⟨500, .call "stripe" 2⟩]

/-- A health read right before the answer credits half a second at the full
rate, so that the next call gets a token at once. -/
theorem health_observed : ¬ Unobserved .default 0 (throttledRun []) := by
  intro unobserved
  have same := unobserved (throttledRun [⟨500, .health "stripe"⟩])
    (.keep _ (.keep _ (.keep _ (.keep _ (.keep _ (.drop rfl
      (.keep _ (.keep _ .nil)))))))) (by decide)
  have replies := congrArg (List.map fun answered => answered.2.reply) same
  revert replies
  decide +kernel

end PaymentQueue.Health
