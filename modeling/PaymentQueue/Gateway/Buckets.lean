import PaymentQueue.Gateway.BucketRuns
import PaymentQueue.Gateway.Moves

/-!
# The bucket of a gateway in a run of the guard

An operation of the guard calls a method of the bucket of its gateway, or
leaves the bucket alone.  What the methods preserve holds along every run.
-/

namespace PaymentQueue.GuardRegistries

open Await

variable {config : GuardConfig} {now : Time} {gatewayId : String}
  {registries next : GuardRegistries} {op : GuardOp} {reply : GuardReply}
  {events : List GuardEvent} {moved : Share}

/-- The operation sets limits for the gateway. -/
def Relimits (gatewayId : String) (op : GuardOp)
    (overrides : TokenBucketOverrides) : Prop :=
  ∃ policy, op = .configure gatewayId policy ∧
    policy.rateLimiter = some overrides

/-- The limits that the operation sets for the gateway are valid ones. -/
def Sound (valid : TokenBucketParams → Prop) (config : GuardConfig)
    (gatewayId : String) (op : GuardOp) : Prop :=
  ∀ overrides, Relimits gatewayId op overrides →
    valid (config.rateLimiter.override overrides)

/-- A method of the bucket was called, or the bucket was left alone. -/
inductive Touch (config : GuardConfig) (now : Time) (gatewayId : String)
    (registries : GuardRegistries) (op : GuardOp) (reply : GuardReply)
    (next : GuardRegistries) : Prop where
  | kept :
      reply.stage?.any GuardCall.isGranted = false →
      (∀ moment, ∃ seen, (seen = moment ∨ seen = now) ∧
        next.bucketOf config moment gatewayId =
          registries.bucketOf config seen gatewayId) →
      Touch config now gatewayId registries op reply next
  | called (method : BucketOp) :
      reply.stage?.any GuardCall.isGranted =
        (AdaptiveTokenBucket.perform now method
          (registries.bucketOf config now gatewayId)).1 →
      (∀ params, method = .reconfigure params → ∃ overrides,
        Relimits gatewayId op overrides ∧
          params = config.rateLimiter.override overrides) →
      (∀ moment, next.bucketOf config moment gatewayId =
        (AdaptiveTokenBucket.perform now method
          (registries.bucketOf config now gatewayId)).2) →
      Touch config now gatewayId registries op reply next

private theorem touch_feedback (result : GatewayChargeResult)
    (outcome : CallOutcome)
    (held : next.buckets gatewayId = some (GatewayGuard.feedback result
      (registries.bucketOf config now gatewayId))) :
    Touch config now gatewayId registries op (.stage (.ended outcome))
      next := by
  cases result with
  | ok transactionId httpStatus =>
      refine .called .onSuccess (by rfl) ?_ (bucketOf_some held)
      intro params other
      cases other
  | fail failure =>
      rw [GatewayGuard.feedback] at held
      split at held
      · refine .called .onThrottled (by rfl) ?_ (bucketOf_some held)
        intro params other
        cases other
      · exact .kept (by rfl) fun moment =>
          ⟨now, .inr rfl, bucketOf_some held moment⟩

theorem Touch.of_move
    (move : Move config now gatewayId registries op reply events
      (share gatewayId next)) :
    Touch config now gatewayId registries op reply next := by
  generalize shared : share gatewayId next = moved at move
  cases move with
  | idle unstaged unset =>
      refine .kept (by simp [unstaged]) fun moment => ?_
      exact ⟨moment, .inl rfl,
        bucketOf_share (congrArg Share.bucket shared) moment⟩
  | poll deadline numbered waiting =>
      refine .called .tryAcquire ?_ ?_
        (bucketOf_some (congrArg Share.bucket shared))
      · simpa [GuardReply.stage?, AdaptiveTokenBucket.perform] using
          pollStage_isGranted deadline registries
      · intro params other
        cases other
  | pass numbered taken =>
      refine .kept ?_ fun moment => ⟨moment, .inl rfl,
        bucketOf_share (congrArg Share.bucket shared) moment⟩
      simpa [GuardReply.stage?] using gateStage_isGranted registries
  | settle result numbered charging =>
      exact touch_feedback result _ (congrArg Share.bucket shared)
  | @configure policy configures =>
      have same := fun moment => @bucketOf_share config gatewayId
        (registries.configure config now gatewayId policy) next
        (congrArg Share.bucket shared) moment
      cases limits : policy.rateLimiter with
      | none =>
          refine .kept (by rfl) fun moment => ⟨moment, .inl rfl, ?_⟩
          rw [same moment]
          simp [bucketOf, GuardRegistries.configure, limits]
      | some overrides =>
          refine .called
            (.reconfigure (config.rateLimiter.override overrides)) (by rfl) ?_
            fun moment => (same moment).trans
              (configure_bucketOf policy limits moment)
          intro params renewed
          obtain rfl := BucketOp.reconfigure.inj renewed
          exact ⟨overrides, ⟨policy, configures, limits⟩, rfl⟩
  | health report reads =>
      refine .called .getState (by rfl) ?_
        (bucketOf_some (congrArg Share.bucket shared))
      intro params other
      cases other

variable {holds : Time → AdaptiveTokenBucket → Prop}
  {calls : List (Timed GuardOp)}

/-- The bucket of the gateway is so from now on, unless it is touched. -/
def Always (config : GuardConfig) (gatewayId : String)
    (registries : GuardRegistries) (now : Time)
    (holds : Time → AdaptiveTokenBucket → Prop) : Prop :=
  ∀ moment, now ≤ moment →
    holds moment (registries.bucketOf config moment gatewayId)

/-- What the methods establish holds after an operation. -/
theorem Touch.always {holds' : Time → AdaptiveTokenBucket → Prop}
    (touch : Touch config now gatewayId registries op reply next)
    (later : ∀ time moment bucket, time ≤ moment → holds' time bucket →
      holds' moment bucket)
    (kept : reply.stage?.any GuardCall.isGranted = false →
      ∀ time bucket, holds time bucket → holds' time bucket)
    (called : ∀ method,
      reply.stage?.any GuardCall.isGranted =
        (AdaptiveTokenBucket.perform now method
          (registries.bucketOf config now gatewayId)).1 →
      (∀ params, method = .reconfigure params → ∃ overrides,
        Relimits gatewayId op overrides ∧
          params = config.rateLimiter.override overrides) →
      holds now (registries.bucketOf config now gatewayId) →
      holds' now (AdaptiveTokenBucket.perform now method
        (registries.bucketOf config now gatewayId)).2)
    (always : Always config gatewayId registries now holds) :
    Always config gatewayId next now holds' := by
  intro moment after
  cases touch with
  | kept unstaged same =>
      obtain ⟨seen, moment_or_now, held⟩ := same moment
      rw [held]
      rcases moment_or_now with rfl | rfl
      · exact kept unstaged _ _ (always _ after)
      · exact later _ _ _ after (kept unstaged _ _ (always _ (Nat.le_refl _)))
  | called method stage renewed same =>
      rw [same moment]
      exact later now moment _ after
        (called method stage renewed (always now (Nat.le_refl now)))

/-- Operations on other gateways do not touch the bucket. -/
theorem always_apart (apart : gatewayId ≠ op.gatewayId)
    (always : Always config gatewayId registries now holds) :
    Always config gatewayId (registries.perform config now op).2 now
      holds := by
  intro moment after
  have same := @share_apart config now gatewayId op apart registries
  rw [bucketOf_share (congrArg Share.bucket same)]
  exact always moment after

theorem Always.later {moment : Time}
    (always : Always config gatewayId registries now holds)
    (after : now ≤ moment) :
    Always config gatewayId registries moment holds :=
  fun time later => always time (Nat.le_trans after later)

/-- What the admitted methods preserve holds after a run. -/
theorem always_run {admits : BucketOp → Prop}
    (later : ∀ time moment bucket, time ≤ moment → holds time bucket →
      holds moment bucket)
    (preserves : ∀ time method bucket, admits method → holds time bucket →
      holds time (AdaptiveTokenBucket.perform time method bucket).2)
    (steady : ∀ method, method.isReconfigure = false → admits method)
    {start : Time} (clocked : Clocked start calls)
    (relimited : ∀ call ∈ calls,
      Sound (fun params => admits (.reconfigure params)) config gatewayId
        call.op)
    (always : Always config gatewayId registries start holds)
    (starts : start ≤ now) (past : ∀ call ∈ calls, call.time ≤ now) :
    Always config gatewayId (after (perform config) registries calls) now
      holds := by
  induction calls generalizing registries start with
  | nil => exact always.later starts
  | cons call calls induction =>
      have current := always.later clocked.1
      refine induction clocked.2
        (fun other member => relimited other (List.mem_cons_of_mem _ member))
        ?_ (past call (by simp))
        (fun other member => past other (List.mem_cons_of_mem _ member))
      by_cases here : call.op.gatewayId = gatewayId
      · have move := @perform_move config call.time gatewayId call.op here
          registries
        refine (Touch.of_move move).always later
          (fun _ _ _ held => held) ?_ current
        intro method stage renewed held
        refine preserves _ method _ ?_ held
        cases method with
        | reconfigure params =>
            obtain ⟨overrides, relimits, rfl⟩ := renewed params rfl
            exact relimited call (by simp) overrides relimits
        | tryAcquire | getState | onThrottled | onSuccess =>
            exact steady _ rfl
      · exact always_apart (Ne.symm here) current

end PaymentQueue.GuardRegistries
