import Mathlib.Algebra.Order.Field.Rat
import PaymentQueue.Domain.Payment

/-!
# Adaptive token bucket

`gateway/adaptive-token-bucket.ts` (ADR 0003): additive increase,
multiplicative decrease.  Rates and tokens are exact rationals, clock values
are milliseconds.  The loop of `waitForToken` sleeps between its polls and is
part of the step machine of the guard.
-/

namespace PaymentQueue

structure TokenBucketParams where
  /-- Nominal refill rate in tokens per second. -/
  nominalRps : ℚ
  /-- Burst capacity as a multiple of the refill rate. -/
  burstFactor : ℚ
  /-- The rate never drops below `nominalRps * minRateFactor`. -/
  minRateFactor : ℚ
  /-- Additive increase per successful response. -/
  aiStepRps : ℚ
  tokenWaitMs : Nat
  deriving DecidableEq

structure AdaptiveTokenBucket where
  params : TokenBucketParams
  rate : ℚ
  burst : ℚ
  tokens : ℚ
  lastRefill : Time
  throttleCount : Nat
  deriving DecidableEq

/-- What `getState` reports besides the parameters. -/
structure TokenBucketState where
  rate : ℚ
  burst : ℚ
  tokens : ℚ
  throttleCount : Nat
  deriving DecidableEq

namespace AdaptiveTokenBucket

def create (params : TokenBucketParams) (now : Time) : AdaptiveTokenBucket :=
  { params
    rate := params.nominalRps
    burst := params.nominalRps * params.burstFactor
    tokens := params.nominalRps * params.burstFactor
    lastRefill := now
    throttleCount := 0 }

/-- Resets the tokens. -/
def reconfigure (params : TokenBucketParams) (bucket : AdaptiveTokenBucket) :
    AdaptiveTokenBucket :=
  { bucket with
    params
    rate := params.nominalRps
    burst := params.nominalRps * params.burstFactor
    tokens := params.nominalRps * params.burstFactor }

def refill (now : Time) (bucket : AdaptiveTokenBucket) :
    AdaptiveTokenBucket :=
  if now ≤ bucket.lastRefill then bucket
  else
    { bucket with
      tokens := min bucket.burst
        (bucket.tokens + ((now - bucket.lastRefill : ℚ) / 1000) * bucket.rate)
      lastRefill := now }

/-- Consume one token if available. -/
def tryAcquire (now : Time) (bucket : AdaptiveTokenBucket) :
    Bool × AdaptiveTokenBucket :=
  let refilled := bucket.refill now
  if 1 ≤ refilled.tokens then
    (true, { refilled with tokens := refilled.tokens - 1 })
  else (false, refilled)

/-- Multiplicative decrease on 429 and 503 responses. -/
def onThrottled (bucket : AdaptiveTokenBucket) : AdaptiveTokenBucket :=
  let rate := max (bucket.params.nominalRps * bucket.params.minRateFactor)
    (bucket.rate * (1 / 2))
  let burst := max
    (bucket.params.nominalRps * bucket.params.minRateFactor *
      bucket.params.burstFactor)
    (bucket.burst * (1 / 2))
  { bucket with
    rate
    burst
    tokens := min bucket.tokens burst
    throttleCount := bucket.throttleCount + 1 }

/-- Additive increase on every successful response. -/
def onSuccess (bucket : AdaptiveTokenBucket) : AdaptiveTokenBucket :=
  let nominalRps := bucket.params.nominalRps
  let maxBurst := nominalRps * bucket.params.burstFactor
  let rate :=
    if bucket.rate < nominalRps then
      min nominalRps (bucket.rate + bucket.params.aiStepRps)
    else bucket.rate
  let burst :=
    if bucket.burst < maxBurst then
      min maxBurst
        (bucket.burst + bucket.params.aiStepRps * bucket.params.burstFactor)
    else bucket.burst
  { bucket with
    rate
    burst
    tokens := min bucket.tokens burst }

def getState (now : Time) (bucket : AdaptiveTokenBucket) :
    TokenBucketState × AdaptiveTokenBucket :=
  let refilled := bucket.refill now
  (⟨refilled.rate, refilled.burst, refilled.tokens, refilled.throttleCount⟩,
    refilled)

end AdaptiveTokenBucket

end PaymentQueue
