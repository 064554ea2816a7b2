import PaymentQueue.Await.Transition
import PaymentQueue.Gateway.BucketRuns
import PaymentQueue.Gateway.Guard

/-!
# Waiting for a token

`AdaptiveTokenBucket.waitForToken`.  The loop runs without interruption from
one sleep to the next; while it sleeps other callers use the bucket.  The clock
is read for the deadline, by every acquisition and before every sleep, and may
move between two readings.  A sleep lasts at least as long as it was asked to.
-/

namespace PaymentQueue

/-- Where an execution of `waitForToken` stands. -/
inductive TokenWait where
  | called (timeoutMs : ℚ)
  | sleeping (deadline wakesAt : ℚ)
  | returned (granted : Bool)
  deriving DecidableEq

/-- One round of the loop. -/
def AdaptiveTokenBucket.waitRound (deadline : ℚ) (acquiredAt checkedAt : Time)
    (bucket : AdaptiveTokenBucket) : TokenWait × AdaptiveTokenBucket :=
  match bucket.tryAcquire acquiredAt with
  | (true, bucket) => (.returned true, bucket)
  | (false, bucket) =>
      if deadline ≤ checkedAt then (.returned false, bucket)
      else
        (.sleeping deadline
          (checkedAt + min 15 (max 5 (deadline - checkedAt))), bucket)

/-- Whatever a round decides, it has asked the bucket for a token. -/
theorem AdaptiveTokenBucket.waitRound_bucket (deadline : ℚ)
    (acquiredAt checkedAt : Time) (bucket : AdaptiveTokenBucket) :
    (bucket.waitRound deadline acquiredAt checkedAt).2 =
      (bucket.tryAcquire acquiredAt).2 := by
  rw [waitRound]
  rcases bucket.tryAcquire acquiredAt with ⟨granted, asked⟩
  cases granted with
  | true => rfl
  | false =>
      by_cases expired : deadline ≤ checkedAt
      · simp only [if_pos expired]
      · simp only [if_neg expired]

/-- What a round did: its two clock values and the bucket before and after. -/
structure TokenPoll where
  acquiredAt : Time
  checkedAt : Time
  before : AdaptiveTokenBucket
  after : AdaptiveTokenBucket
  deriving DecidableEq

namespace TokenPoll

/-- The tokens in the bucket when the round looked. -/
def found (poll : TokenPoll) : ℚ :=
  (poll.before.refill poll.acquiredAt).tokens

/-- The tokens that the round took. -/
def taken (poll : TokenPoll) : ℚ :=
  poll.found - poll.after.tokens

end TokenPoll

structure TokenWaiting where
  now : Time
  bucket : AdaptiveTokenBucket
  wait : TokenWait
  /-- The clock value that the deadline was computed from. -/
  calledAt : Option Time
  polls : List TokenPoll
  deriving DecidableEq

namespace TokenWaiting

def create (now : Time) (bucket : AdaptiveTokenBucket) (timeoutMs : ℚ) :
    TokenWaiting :=
  { now
    bucket
    wait := .called timeoutMs
    calledAt := none
    polls := [] }

def round (deadline : ℚ) (acquiredAt checkedAt : Time)
    (state : TokenWaiting) : TokenWaiting :=
  let (wait, bucket) :=
    state.bucket.waitRound deadline acquiredAt checkedAt
  { state with
    now := checkedAt
    bucket
    wait
    polls := state.polls ++
      [⟨acquiredAt, checkedAt, state.bucket, bucket⟩] }

inductive Label where
  /-- Another caller uses the bucket. -/
  | other (time : Time) (op : BucketOp)
  /-- The execution begins, up to its first sleep. -/
  | begin (calledAt acquiredAt checkedAt : Time)
  /-- The sleep is over. -/
  | wake (acquiredAt checkedAt : Time)

def step (label : Label) (state : TokenWaiting) : Option TokenWaiting :=
  match label with
  | .other time op =>
      if state.now ≤ time then
        some { state with
          now := time
          bucket := (AdaptiveTokenBucket.perform time op state.bucket).2 }
      else none
  | .begin calledAt acquiredAt checkedAt =>
      match state.wait with
      | .called timeoutMs =>
          if state.now ≤ calledAt ∧ calledAt ≤ acquiredAt ∧
              acquiredAt ≤ checkedAt then
            some ({ state with calledAt := some calledAt }.round
              (calledAt + timeoutMs) acquiredAt checkedAt)
          else none
      | _ => none
  | .wake acquiredAt checkedAt =>
      match state.wait with
      | .sleeping deadline wakesAt =>
          if state.now ≤ acquiredAt ∧ wakesAt ≤ acquiredAt ∧
              acquiredAt ≤ checkedAt then
            some (state.round deadline acquiredAt checkedAt)
          else none
      | _ => none

/-- The states of an execution among any operations of other callers. -/
def Reached (start state : TokenWaiting) : Prop :=
  Await.Reaches step (fun _ _ => True) start state

end TokenWaiting

/-- How far a call of the guard is, as an execution of `waitForToken`. -/
def GuardCall.tokenWait : GuardCall → TokenWait
  | waiting deadline wakesAt => .sleeping deadline wakesAt
  | granted | charging _ => .returned true
  | ended _ => .returned false

/-- The guard polls with this loop, at one clock value. -/
theorem GatewayGuard.pollToken_waitRound (config : GuardConfig)
    (gatewayId : String) (deadline : Time) (guard : GatewayGuard) :
    guard.bucket.waitRound deadline guard.now guard.now =
      ((guard.pollToken config gatewayId deadline).1.tokenWait,
        (guard.pollToken config gatewayId deadline).2.bucket) := by
  simp only [AdaptiveTokenBucket.waitRound, GatewayGuard.pollToken]
  rcases guard.bucket.tryAcquire guard.now with ⟨_ | _, bucket⟩
  · by_cases expired : deadline ≤ guard.now
    · simp [expired, GuardCall.tokenWait]
    · have open' : ¬ ((deadline : ℚ) ≤ guard.now) := by exact_mod_cast expired
      have before : guard.now ≤ deadline := Nat.le_of_not_le expired
      simp only [if_neg expired, if_neg open', GuardCall.tokenWait]
      push_cast [Nat.cast_sub before]
      rfl
  · rfl

end PaymentQueue
