import Mathlib.Data.Rat.Floor
import PaymentQueue.Gateway.TokenWait

/-!
# What a wait for a token costs

Every sleep of `waitForToken` lasts at least five milliseconds and begins
before the deadline, so the number of sleeps is bounded by the clock and not
by what other callers do to the bucket.  A round that leads to a sleep or to a
refusal only refills the bucket; a round that grants takes one token.
-/

namespace PaymentQueue.Waiting

open Await TokenWaiting

variable {timeoutMs : ℚ} {state next : TokenWaiting}

/-- The largest number of sleeps. -/
def sleeps (timeoutMs : ℚ) : Nat := ⌈timeoutMs / 5⌉₊

/-- All rounds so far only looked. -/
def Untouched (polls : List TokenPoll) : Prop :=
  ∀ poll ∈ polls, poll.taken = 0

/-- The wait ended with the token of its last round. -/
def Granted (polls : List TokenPoll) : Prop :=
  ∃ earlier last, polls = earlier ++ [last] ∧ Untouched earlier ∧
    1 ≤ last.found ∧ last.taken = 1

/-- The wait ended at its deadline, with less than a token to be had. -/
def Refused (deadline : ℚ) (polls : List TokenPoll) : Prop :=
  Untouched polls ∧ ∃ earlier last, polls = earlier ++ [last] ∧
    deadline ≤ last.checkedAt ∧ last.found < 1

/-- The state of a wait, from the beginning to the answer. -/
def Accounted (timeoutMs : ℚ) (state : TokenWaiting) : Prop :=
  match state.wait with
  | .called timeout => timeout = timeoutMs ∧ state.polls = []
  | .sleeping deadline wakesAt => ∃ calledAt : Time,
      state.calledAt = some calledAt ∧ deadline = calledAt + timeoutMs ∧
      calledAt + 5 * state.polls.length ≤ wakesAt ∧
      state.polls.length ≤ sleeps timeoutMs ∧ Untouched state.polls
  | .returned true => state.polls.length ≤ sleeps timeoutMs + 1 ∧
      Granted state.polls
  | .returned false => ∃ calledAt : Time,
      state.calledAt = some calledAt ∧
      state.polls.length ≤ sleeps timeoutMs + 1 ∧
      Refused (calledAt + timeoutMs) state.polls

private theorem untouched_append {earlier : List TokenPoll} {last : TokenPoll}
    (untouched : Untouched earlier) (looked : last.taken = 0) :
    Untouched (earlier ++ [last]) := by
  intro poll member
  rcases List.mem_append.mp member with before | here
  · exact untouched poll before
  · obtain rfl := List.mem_singleton.mp here
    exact looked

/-- What a round does: it grants, it gives up, or it sleeps for at least five
milliseconds before the deadline. -/
theorem round_cases (deadline : ℚ) (acquiredAt checkedAt : Time)
    (state : TokenWaiting) :
    ∃ poll : TokenPoll, poll.acquiredAt = acquiredAt ∧
      poll.checkedAt = checkedAt ∧ poll.before = state.bucket ∧
      poll.after = (state.round deadline acquiredAt checkedAt).bucket ∧
      (state.round deadline acquiredAt checkedAt).polls =
        state.polls ++ [poll] ∧
      ((1 ≤ poll.found ∧ poll.taken = 1 ∧
          (state.round deadline acquiredAt checkedAt).wait =
            .returned true) ∨
        (poll.found < 1 ∧ poll.taken = 0 ∧ deadline ≤ checkedAt ∧
          (state.round deadline acquiredAt checkedAt).wait =
            .returned false) ∨
        (poll.taken = 0 ∧ checkedAt < deadline ∧ ∃ wakesAt : ℚ,
          checkedAt + 5 ≤ wakesAt ∧
          (state.round deadline acquiredAt checkedAt).wait =
            .sleeping deadline wakesAt)) := by
  refine ⟨⟨acquiredAt, checkedAt, state.bucket,
    (state.round deadline acquiredAt checkedAt).bucket⟩, rfl, rfl, rfl, rfl,
    rfl, ?_⟩
  rcases AdaptiveTokenBucket.tryAcquire_cases acquiredAt state.bucket with
    ⟨available, granted⟩ | ⟨empty, refused⟩
  · refine .inl ⟨available, ?_, ?_⟩
    · simp [TokenPoll.taken, TokenPoll.found, TokenWaiting.round,
        AdaptiveTokenBucket.waitRound, granted]
    · simp [TokenWaiting.round, AdaptiveTokenBucket.waitRound, granted]
  · have looked : (state.bucket.refill acquiredAt).tokens -
        (state.round deadline acquiredAt checkedAt).bucket.tokens = 0 := by
      have asked := state.bucket.waitRound_bucket deadline acquiredAt
        checkedAt
      simp [TokenWaiting.round, asked, refused]
    by_cases expired : deadline ≤ checkedAt
    · refine .inr (.inl ⟨empty, looked, expired, ?_⟩)
      simp [TokenWaiting.round, AdaptiveTokenBucket.waitRound, refused,
        expired]
    · refine .inr (.inr ⟨looked, not_le.mp expired,
        checkedAt + min 15 (max 5 (deadline - checkedAt)), ?_, ?_⟩)
      · have length : (5 : ℚ) ≤ min 15 (max 5 (deadline - checkedAt)) :=
          le_min (by norm_num) (le_max_left _ _)
        linarith
      · simp [TokenWaiting.round, AdaptiveTokenBucket.waitRound, refused,
          expired]

/-- A round after so many sleeps leaves room for it in the bound. -/
theorem accounted_round {calledAt acquiredAt checkedAt : Time}
    (called : state.calledAt = some calledAt)
    (slept : (calledAt : ℚ) + 5 * state.polls.length ≤ acquiredAt)
    (ordered : acquiredAt ≤ checkedAt)
    (bounded : state.polls.length ≤ sleeps timeoutMs)
    (untouched : Untouched state.polls) :
    Accounted timeoutMs
      (state.round (calledAt + timeoutMs) acquiredAt checkedAt) := by
  have later : (acquiredAt : ℚ) ≤ checkedAt := Nat.cast_le.mpr ordered
  obtain ⟨poll, -, checked, -, -, polls, outcome⟩ :=
    round_cases (calledAt + timeoutMs) acquiredAt checkedAt state
  rcases outcome with ⟨found, taken, ended⟩ | ⟨found, looked, expired, ended⟩ |
    ⟨looked, early, wakesAt, wakes, asleep⟩
  · rw [Accounted, ended]
    refine ⟨?_, state.polls, poll, polls, untouched, found, taken⟩
    simpa [polls] using bounded
  · rw [Accounted, ended]
    refine ⟨calledAt, called, by simpa [polls] using bounded, ?_⟩
    rw [polls]
    refine ⟨untouched_append untouched looked, state.polls, poll, rfl, ?_,
      found⟩
    rw [checked]
    exact expired
  · rw [Accounted, asleep]
    refine ⟨calledAt, called, rfl, ?_, ?_, ?_⟩
    · rw [polls, List.length_append, List.length_singleton]
      push_cast
      linarith
    · rw [polls, List.length_append, List.length_singleton, sleeps,
        Nat.succ_le_iff, Nat.lt_ceil, lt_div_iff₀ (by norm_num)]
      linarith
    · rw [polls]
      exact untouched_append untouched looked

private theorem accounted_step (accounted : Accounted timeoutMs state)
    {label : Label} (taken : step label state = some next) :
    Accounted timeoutMs next := by
  cases label with
  | other time op =>
      simp only [step, Option.ite_none_right_eq_some,
        Option.some.injEq] at taken
      obtain ⟨-, rfl⟩ := taken
      exact accounted
  | begin calledAt acquiredAt checkedAt =>
      rw [step] at taken
      split at taken
      case h_1 timeout fresh =>
        simp only [Option.ite_none_right_eq_some, Option.some.injEq] at taken
        obtain ⟨⟨-, first, second⟩, rfl⟩ := taken
        rw [Accounted, fresh] at accounted
        obtain ⟨rfl, none⟩ := accounted
        have started : (calledAt : ℚ) ≤ acquiredAt := Nat.cast_le.mpr first
        apply accounted_round rfl ?_ second ?_ ?_
        · simpa [none] using started
        · simp [none]
        · simp [none, Untouched]
      case h_2 => cases taken
  | wake acquiredAt checkedAt =>
      rw [step] at taken
      split at taken
      case h_1 deadline wakesAt asleep =>
        simp only [Option.ite_none_right_eq_some, Option.some.injEq] at taken
        obtain ⟨⟨-, awake, second⟩, rfl⟩ := taken
        rw [Accounted, asleep] at accounted
        obtain ⟨calledAt, called, rfl, slept, bounded, untouched⟩ := accounted
        exact accounted_round called (le_trans slept awake) second bounded
          untouched
      case h_2 => cases taken

private theorem accounted_reached {start : Time} {bucket : AdaptiveTokenBucket}
    (reached : Reached (create start bucket timeoutMs) state) :
    Accounted timeoutMs state := by
  apply reached.invariant ⟨rfl, rfl⟩
  intro state label next accounted _ taken
  exact accounted_step accounted taken

/-- An execution that has not returned polls again when its time comes. -/
theorem polls_again (waiting : ∀ granted, state.wait ≠ .returned granted) :
    ∃ label next, step label state = some next ∧
      next.polls.length = state.polls.length + 1 := by
  cases stage : state.wait with
  | called timeoutMs =>
      refine ⟨.begin state.now state.now state.now,
        { state with calledAt := some state.now }.round
          (state.now + timeoutMs) state.now state.now, ?_, ?_⟩
      · simp [step, stage]
      · simp [TokenWaiting.round]
  | sleeping deadline wakesAt =>
      let late := max state.now ⌈wakesAt⌉₊
      have awake : wakesAt ≤ late :=
        le_trans (Nat.le_ceil _) (Nat.cast_le.mpr (Nat.le_max_right _ _))
      refine ⟨.wake late late, state.round deadline late late, ?_, ?_⟩
      · rw [step, stage]
        exact if_pos ⟨Nat.le_max_left _ _, awake, Nat.le_refl _⟩
      · simp [TokenWaiting.round]
  | returned granted => exact (waiting granted stage).elim

/-- However other callers use the bucket, a wait ends within the bound; it
takes one token if it is granted, in its last round, and else none, and it
gives up only at its deadline and without a token to be had. -/
theorem waitForToken_accounts {start : Time} {bucket : AdaptiveTokenBucket}
    (reached : Reached (create start bucket timeoutMs) state) :
    state.polls.length ≤ ⌈timeoutMs / 5⌉₊ + 1 ∧
      (state.polls.length = ⌈timeoutMs / 5⌉₊ + 1 →
        ∃ granted, state.wait = .returned granted) ∧
      ((∃ granted, state.wait = .returned granted) ∨
        ∃ label next, step label state = some next ∧
          next.polls.length = state.polls.length + 1) ∧
      (state.wait = .returned true → Granted state.polls) ∧
      (state.wait = .returned false → ∃ calledAt : Time,
        state.calledAt = some calledAt ∧
          Refused (calledAt + timeoutMs) state.polls) := by
  have accounted := accounted_reached reached
  have progress : (∃ granted, state.wait = .returned granted) ∨
      ∃ label next, step label state = some next ∧
        next.polls.length = state.polls.length + 1 := by
    by_cases ended : ∃ granted, state.wait = .returned granted
    · exact .inl ended
    · exact .inr (polls_again (not_exists.mp ended))
  cases stage : state.wait with
  | called timeout =>
      rw [Accounted, stage] at accounted
      rw [stage] at progress
      refine ⟨by simp [accounted.2], by simp [accounted.2], progress, ?_, ?_⟩
      · exact fun ended => nomatch ended
      · exact fun ended => nomatch ended
  | sleeping deadline wakesAt =>
      rw [Accounted, stage] at accounted
      obtain ⟨-, -, -, -, bounded, -⟩ := accounted
      rw [sleeps] at bounded
      rw [stage] at progress
      refine ⟨by omega, by omega, progress, ?_, ?_⟩
      · exact fun ended => nomatch ended
      · exact fun ended => nomatch ended
  | returned granted =>
      cases granted with
      | true =>
          rw [Accounted, stage] at accounted
          refine ⟨accounted.1, fun _ => ⟨true, rfl⟩, .inl ⟨true, rfl⟩,
            fun _ => accounted.2, ?_⟩
          exact fun ended => nomatch ended
      | false =>
          rw [Accounted, stage] at accounted
          obtain ⟨calledAt, called, bounded, refused⟩ := accounted
          refine ⟨bounded, fun _ => ⟨false, rfl⟩, .inl ⟨false, rfl⟩, ?_,
            fun _ => ⟨calledAt, called, refused⟩⟩
          exact fun ended => nomatch ended

/-- An empty bucket at twenty tokens a second. -/
def drained : AdaptiveTokenBucket :=
  { AdaptiveTokenBucket.create GuardConfig.default.rateLimiter 0 with
    tokens := 0 }

/-- A wait of seven milliseconds, polled at its beginning and at its end. -/
def waitedSeven : TokenWaiting :=
  ({ create 0 drained 7 with calledAt := some 0 }.round 7 0 0).round 7 7 7

private theorem reached_waitedSeven :
    Reached (create 0 drained 7) waitedSeven := by
  have first : step (.begin 0 0 0) (create 0 drained 7) =
      some ({ create 0 drained 7 with calledAt := some 0 }.round 7 0 0) := by
    norm_num [step, create]
  have second : step (.wake 7 7)
      ({ create 0 drained 7 with calledAt := some 0 }.round 7 0 0) =
        some waitedSeven := by
    norm_num [step, waitedSeven, create, TokenWaiting.round, drained,
      AdaptiveTokenBucket.waitRound, AdaptiveTokenBucket.tryAcquire,
      AdaptiveTokenBucket.refill, AdaptiveTokenBucket.create]
  exact .step (.step .refl trivial first) trivial second

theorem waitForToken_accounts_waitedSeven :
    waitedSeven.polls.length ≤ ⌈(7 : ℚ) / 5⌉₊ + 1 ∧
      (waitedSeven.polls.length = ⌈(7 : ℚ) / 5⌉₊ + 1 →
        ∃ granted, waitedSeven.wait = .returned granted) ∧
      ((∃ granted, waitedSeven.wait = .returned granted) ∨
        ∃ label next, step label waitedSeven = some next ∧
          next.polls.length = waitedSeven.polls.length + 1) ∧
      (waitedSeven.wait = .returned true → Granted waitedSeven.polls) ∧
      (waitedSeven.wait = .returned false → ∃ calledAt : Time,
        waitedSeven.calledAt = some calledAt ∧
          Refused (calledAt + 7) waitedSeven.polls) :=
  waitForToken_accounts reached_waitedSeven

end PaymentQueue.Waiting
