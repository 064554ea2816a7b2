import PaymentQueue.Gateway.Buckets
import PaymentQueue.Safety.Throughput

/-!
# Charges are paid by tokens

What the guard lets through to a gateway.  Every charge is paid by a token of
its own, and the tokens granted in an interval keep to the limits of the
bucket, whatever the calls, refunds and health reads of the gateways do in
between.
-/

namespace PaymentQueue.Metering

open Await GuardRegistries
open Throughput (Metered Limited allowance)

variable {config : GuardConfig} {now : Time} {gatewayId : String}
  {registries next : GuardRegistries} {op : GuardOp} {reply : GuardReply}
  {events : List GuardEvent} {moved : Share}

/-- The call that an answer takes to such a stage. -/
def staged (stage : GuardCall → Bool) (gatewayId : String)
    (answered : Timed GuardOp × GuardAnswer) : Option Nat :=
  if answered.1.op.gatewayId = gatewayId ∧
      answered.2.reply.stage?.any stage = true then
    answered.1.op.number?
  else none

/-- The calls that took a token of the gateway. -/
def granted (gatewayId : String)
    (run : List (Timed GuardOp × GuardAnswer)) : List Nat :=
  run.filterMap (staged GuardCall.isGranted gatewayId)

/-- The calls that charged at the gateway. -/
def charged (gatewayId : String)
    (run : List (Timed GuardOp × GuardAnswer)) : List Nat :=
  run.filterMap (staged GuardCall.isCharging gatewayId)

section Meter

variable {params : TokenBucketParams} {first last : Time} {count : Nat}
  {bucket : AdaptiveTokenBucket} {calls : List (Timed GuardOp)}

/-- A bucket within its limits, refilled before now. -/
structure Kept (now : Time) (bucket : AdaptiveTokenBucket) : Prop where
  limited : Limited bucket
  fresh : bucket.lastRefill ≤ now

/-- A bucket with these parameters that has granted `count` calls since
`first`. -/
structure Counted (params : TokenBucketParams) (first : Time) (count : Nat)
    (now : Time) (bucket : AdaptiveTokenBucket) : Prop where
  same : bucket.params = params
  kept : Kept now bucket
  metered : Metered (params.nominalRps * params.burstFactor)
    params.nominalRps first count bucket

theorem Kept.later {moment : Time} (kept : Kept now bucket)
    (after : now ≤ moment) : Kept moment bucket :=
  ⟨kept.limited, Nat.le_trans kept.fresh after⟩

theorem Counted.later {moment : Time}
    (counted : Counted params first count now bucket)
    (after : now ≤ moment) : Counted params first count moment bucket :=
  ⟨counted.same, counted.kept.later after, counted.metered⟩

theorem Counted.weaken {fewer : Nat}
    (counted : Counted params first count now bucket) (less : fewer ≤ count) :
    Counted params first fewer now bucket := by
  obtain ⟨same, kept, ⟨spent, idle⟩⟩ := counted
  have cast : (fewer : ℚ) ≤ count := Nat.cast_le.mpr less
  refine ⟨same, kept, ⟨by linarith, fun early => ?_⟩⟩
  exact Nat.le_zero.mp (idle early ▸ less)

theorem Kept.perform (kept : Kept now bucket) {method : BucketOp}
    (nonnegative : method.Nonnegative) :
    Kept now (AdaptiveTokenBucket.perform now method bucket).2 := by
  refine ⟨kept.limited.perform now nonnegative, ?_⟩
  exact Nat.le_trans (AdaptiveTokenBucket.perform_lastRefill now method bucket)
    (Nat.max_le.mpr ⟨kept.fresh, Nat.le_refl now⟩)

theorem Counted.perform (counted : Counted params first count now bucket)
    (lower : params.minRateFactor ≤ 1) (reached : first ≤ now)
    {method : BucketOp} (steady : method.isReconfigure = false) :
    Counted params first
      (count + if (AdaptiveTokenBucket.perform now method bucket).1
        then 1 else 0) now
      (AdaptiveTokenBucket.perform now method bucket).2 := by
  obtain ⟨same, kept, metered⟩ := counted
  have below := kept.limited.below (by rwa [same])
  refine ⟨?_, kept.perform (BucketOp.nonnegative_of_steady steady), ?_⟩
  · rw [AdaptiveTokenBucket.perform_params now steady, same]
  · refine metered.perform kept.limited.filled ?_ ?_ reached steady
    · rw [← same]
      exact below.burst
    · rw [← same]
      exact below.rate

private theorem counted_of_touch
    (touch : Touch config now gatewayId registries op reply next)
    (lower : params.minRateFactor ≤ 1) (reached : first ≤ now)
    (steady : ∀ overrides, ¬ Relimits gatewayId op overrides)
    (always : Always config gatewayId registries now
      (Counted params first count)) :
    Always config gatewayId next now
      (Counted params first
        (count + if reply.stage?.any GuardCall.isGranted then 1 else 0)) := by
  refine touch.always (fun _ _ _ after counted => counted.later after) ?_ ?_
    always
  · intro unstaged time bucket counted
    rw [unstaged]
    exact counted
  · intro method stage renewed counted
    rw [stage]
    refine counted.perform lower reached ?_
    cases method with
    | reconfigure params =>
        obtain ⟨overrides, relimits, -⟩ := renewed params rfl
        exact absurd relimits (steady overrides)
    | tryAcquire | getState | onThrottled | onSuccess => rfl

private theorem always_empty (nonnegative : config.rateLimiter.Nonnegative)
    (start : Time) :
    Always config gatewayId .empty start Kept :=
  fun moment _ => ⟨Throughput.limited_create nonnegative moment,
    Nat.le_refl _⟩

/-- A run keeps the bucket within its limits. -/
theorem always_kept {start : Time} (clocked : Clocked start calls)
    (sound : ∀ call ∈ calls,
      Sound TokenBucketParams.Nonnegative config gatewayId call.op)
    (always : Always config gatewayId registries start Kept)
    (starts : start ≤ now) (past : ∀ call ∈ calls, call.time ≤ now) :
    Always config gatewayId (after (perform config) registries calls) now
      Kept := by
  refine always_run (fun _ _ _ after kept => kept.later after)
    (fun _ _ _ nonnegative kept => kept.perform nonnegative)
    (fun _ steady => BucketOp.nonnegative_of_steady steady) clocked ?_ always
    starts past
  intro call member overrides relimits
  exact sound call member overrides relimits

private theorem granted_cons (answered : Timed GuardOp × GuardAnswer)
    (run : List (Timed GuardOp × GuardAnswer)) :
    (granted gatewayId (answered :: run)).length =
      (staged GuardCall.isGranted gatewayId answered).toList.length +
        (granted gatewayId run).length := by
  cases taken : staged GuardCall.isGranted gatewayId answered with
  | none => simp [granted, taken]
  | some number =>
      simp [granted, taken, Nat.add_comm]

private theorem staged_le (answered : Timed GuardOp × GuardAnswer) :
    (staged GuardCall.isGranted gatewayId answered).toList.length ≤
      if answered.2.reply.stage?.any GuardCall.isGranted then 1 else 0 := by
  rw [staged]
  split
  · rename_i both
    rw [if_pos both.2]
    cases answered.1.op.number? with
    | none => simp
    | some number => simp
  · simp

/-- An operation in the window. -/
theorem always_counted (lower : params.minRateFactor ≤ 1)
    (reached : first ≤ now)
    (steady : ∀ overrides, ¬ Relimits gatewayId op overrides)
    (always : Always config gatewayId registries now
      (Counted params first count)) :
    Always config gatewayId (registries.perform config now op).2 now
      (Counted params first (count +
        (staged GuardCall.isGranted gatewayId (⟨now, op⟩,
          (registries.perform config now op).1)).toList.length)) := by
  by_cases here : op.gatewayId = gatewayId
  · have move := @perform_move config now gatewayId op here registries
    have counts := counted_of_touch (Touch.of_move move) lower reached
      steady always
    intro moment after
    refine (counts moment after).weaken ?_
    exact Nat.add_le_add_left (staged_le _) count
  · have unstaged : staged GuardCall.isGranted gatewayId (⟨now, op⟩,
        (registries.perform config now op).1) = none := by
      rw [staged, if_neg fun both => here both.1]
    rw [unstaged]
    exact always_apart (Ne.symm here) always

private theorem granted_window_le {start : Time} (clocked : Clocked start calls)
    (lower : params.minRateFactor ≤ 1)
    (within : ∀ call ∈ calls, first ≤ call.time ∧ call.time ≤ last)
    (opens : first ≤ start) (closes : start ≤ last)
    (steady : ∀ call ∈ calls, ∀ overrides,
      ¬ Relimits gatewayId call.op overrides)
    (always : Always config gatewayId registries start
      (Counted params first count)) :
    count + ((granted gatewayId
        (answers (perform config) registries calls)).length : ℚ) ≤
      allowance (params.nominalRps * params.burstFactor) params.nominalRps
        first last := by
  induction calls generalizing registries start count with
  | nil =>
      obtain ⟨same, ⟨limited, fresh⟩, metered⟩ :=
        always start (Nat.le_refl start)
      have rate : 0 ≤ params.nominalRps := by
        rw [← same]
        exact limited.filled.params.nominalRps
      have grown := @Throughput.allowance_mono
        (params.nominalRps * params.burstFactor) _ first _ _ rate
        (Nat.max_le.mpr ⟨Nat.le_trans fresh closes,
          Nat.le_trans opens closes⟩)
      have spent := metered.spent
      have tokens := limited.filled.tokens
      simp only [granted, answers, List.filterMap_nil, List.length_nil,
        Nat.cast_zero]
      linarith
  | cons call calls induction =>
      obtain ⟨reached, inTime⟩ := within call (by simp)
      have current := always.later clocked.1
      have moved := always_counted lower reached (steady call (by simp))
        current
      have rest := induction clocked.2
        (fun later member => within later (List.mem_cons_of_mem _ member))
        reached inTime
        (fun later member => steady later (List.mem_cons_of_mem _ member))
        moved
      rw [answers, granted_cons]
      push_cast at rest ⊢
      linarith

end Meter

section Charges

variable {calls : List (Timed GuardOp)} {number : Nat}

/-- The call has used its token, or never got one. -/
def Spent (call : Option GuardCall) : Prop :=
  (∃ gate, call = some (.charging gate)) ∨
    ∃ outcome, call = some (.ended outcome)

/-- How the charges of a run stand to the calls it begins with. -/
structure Paid (gatewayId : String) (registries : GuardRegistries)
    (run : List (Timed GuardOp × GuardAnswer)) : Prop where
  once : (charged gatewayId run).Nodup
  unspent : ∀ number ∈ charged gatewayId run,
    ¬ Spent (registries.calls gatewayId number)
  token : ∀ number ∈ charged gatewayId run,
    registries.calls gatewayId number = some .granted ∨
      number ∈ granted gatewayId run

theorem granted_subset (answered : Timed GuardOp × GuardAnswer)
    (run : List (Timed GuardOp × GuardAnswer)) :
    granted gatewayId run ⊆ granted gatewayId (answered :: run) := by
  intro number member
  obtain ⟨later, inside, taken⟩ := List.mem_filterMap.mp member
  exact List.mem_filterMap.mpr
    ⟨later, List.mem_cons_of_mem answered inside, taken⟩

/-- An operation that moves no call of the gateway. -/
theorem Paid.idle {run : List (Timed GuardOp × GuardAnswer)}
    {answered : Timed GuardOp × GuardAnswer}
    (paid : Paid gatewayId next run)
    (same : next.calls gatewayId = registries.calls gatewayId)
    (uncharged : staged GuardCall.isCharging gatewayId answered = none) :
    Paid gatewayId registries (answered :: run) := by
  obtain ⟨once, unspent, token⟩ := paid
  have tail : charged gatewayId (answered :: run) = charged gatewayId run := by
    simp [charged, uncharged]
  refine ⟨by rwa [tail], ?_, ?_⟩
  · rw [tail, ← same]
    exact unspent
  · rw [tail, ← same]
    intro number member
    exact (token number member).imp_right
      fun inside => granted_subset answered run inside

/-- A call that is charged later is not ended yet, and has its token now or
gets it. -/
private theorem Paid.earlier {run : List (Timed GuardOp × GuardAnswer)}
    {call : Timed GuardOp} {stage : GuardCall} {other : Nat}
    (paid : Paid gatewayId next run) (here : call.op.gatewayId = gatewayId)
    (numbered : call.op.number? = some number)
    (moved : next.calls gatewayId =
      Function.update (registries.calls gatewayId) number (some stage))
    (onward : Spent (registries.calls gatewayId number) →
      Spent (some stage))
    (member : other ∈ charged gatewayId run) :
    ¬ Spent (registries.calls gatewayId other) ∧
      (registries.calls gatewayId other = some .granted ∨
        other ∈ granted gatewayId ((call, ⟨.stage stage, events⟩) :: run)) := by
  have fresh := paid.unspent other member
  have paying := paid.token other member
  rw [moved] at fresh paying
  by_cases same : other = number
  · subst same
    rw [Function.update_self] at fresh paying
    refine ⟨fun gone => fresh (onward gone), .inr ?_⟩
    rcases paying with taken | taken
    · obtain rfl := Option.some.inj taken
      refine List.mem_filterMap.mpr ⟨_, List.mem_cons_self, ?_⟩
      simp [staged, here, numbered, GuardReply.stage?, GuardCall.isGranted]
    · exact granted_subset _ run taken
  · rw [Function.update_of_ne same] at fresh paying
    exact ⟨fresh, paying.imp_right fun taken =>
      granted_subset _ run taken⟩
/-- An operation that moves a call of the gateway on. -/
theorem Paid.moves {run : List (Timed GuardOp × GuardAnswer)}
    {call : Timed GuardOp} {stage : GuardCall}
    (paid : Paid gatewayId next run) (here : call.op.gatewayId = gatewayId)
    (numbered : call.op.number? = some number)
    (moved : next.calls gatewayId =
      Function.update (registries.calls gatewayId) number (some stage))
    (charges : stage.isCharging = true →
      registries.calls gatewayId number = some .granted)
    (onward : Spent (registries.calls gatewayId number) →
      Spent (some stage)) :
    Paid gatewayId registries
      ((call, ⟨.stage stage, events⟩) :: run) := by
  obtain ⟨once, unspent, -⟩ := id paid
  have kept := fun other => @Paid.earlier gatewayId registries next events
    number run call stage other paid here numbered moved onward
  cases charging : stage.isCharging with
  | false =>
      have tail : charged gatewayId ((call, ⟨.stage stage, events⟩) :: run) =
          charged gatewayId run := by
        simp [charged, staged, GuardReply.stage?, charging]
      refine ⟨tail ▸ once, ?_, ?_⟩
      · rw [tail]
        exact fun other member => (kept other member).1
      · rw [tail]
        exact fun other member => (kept other member).2
  | true =>
      have head : charged gatewayId ((call, ⟨.stage stage, events⟩) :: run) =
          number :: charged gatewayId run := by
        simp [charged, staged, here, numbered, GuardReply.stage?, charging]
      have taken := charges charging
      have used : number ∉ charged gatewayId run := by
        intro member
        have fresh := unspent number member
        rw [moved, Function.update_self] at fresh
        cases stage with
        | charging gate => exact fresh (.inl ⟨gate, rfl⟩)
        | waiting | granted | ended => cases charging
      refine ⟨head ▸ List.nodup_cons.mpr ⟨used, once⟩, ?_, ?_⟩
      · rw [head]
        intro other member
        rcases List.mem_cons.mp member with rfl | later
        · rw [taken]
          rintro (⟨gate, other⟩ | ⟨outcome, other⟩)
          · cases other
          · cases other
        · exact (kept other later).1
      · rw [head]
        intro other member
        rcases List.mem_cons.mp member with rfl | later
        · exact .inl taken
        · exact (kept other later).2

private theorem not_spent_of_waiting {call : Option GuardCall}
    (waiting : call.all GuardCall.isWaiting = true) : ¬ Spent call := by
  rintro (⟨gate, rfl⟩ | ⟨outcome, rfl⟩)
  · cases waiting
  · cases waiting

/-- Every charge of a run has a token, and no call charges twice. -/
theorem paid_run (config : GuardConfig) (gatewayId : String)
    (registries : GuardRegistries) (calls : List (Timed GuardOp)) :
    Paid gatewayId registries
      (answers (perform config) registries calls) := by
  induction calls generalizing registries with
  | nil => exact ⟨List.nodup_nil, by simp [answers, charged],
      by simp [answers, charged]⟩
  | cons call calls induction =>
      have rest := induction (registries.perform config call.time call.op).2
      rw [answers]
      by_cases here : call.op.gatewayId = gatewayId
      · have move := @perform_move config call.time gatewayId call.op here
          registries
        generalize (registries.perform config call.time call.op).2 = next
          at rest move
        generalize (registries.perform config call.time call.op).1 = answer
          at move
        obtain ⟨reply, events⟩ := answer
        generalize shared : share gatewayId next = moved at move
        have moves := congrArg Share.calls shared
        cases move with
        | idle unstaged unset =>
            exact rest.idle moves (by simp [staged, unstaged])
        | poll deadline numbered waiting =>
            refine rest.moves here numbered moves ?_ fun spent =>
              absurd spent (not_spent_of_waiting waiting)
            intro charging
            rw [pollStage_isCharging] at charging
            cases charging
        | pass numbered taken =>
            refine rest.moves here numbered moves (fun _ => taken) ?_
            rw [taken]
            rintro (⟨gate, other⟩ | ⟨outcome, other⟩)
            · cases other
            · cases other
        | settle result numbered charging =>
            refine rest.moves here numbered moves ?_ fun _ =>
              .inr ⟨_, rfl⟩
            intro again
            cases again
        | configure configures =>
            refine rest.idle (moves.trans ?_) (by
              simp [staged, GuardReply.stage?])
            simp [share, GuardRegistries.configure]
        | health report reads =>
            exact rest.idle moves (by simp [staged, GuardReply.stage?])
      · have same := @share_apart config call.time gatewayId call.op
          (Ne.symm here) registries
        exact rest.idle (congrArg Share.calls same) (by simp [staged, here])

end Charges

section Interval

variable {calls : List (Timed GuardOp)} {first last start : Time}

/-- A new bucket has the configured parameters, whenever it is made. -/
theorem bucketOf_params (moment other : Time) :
    (registries.bucketOf config moment gatewayId).params =
      (registries.bucketOf config other gatewayId).params := by
  simp only [bucketOf, RateLimiterRegistry.get]
  cases registries.buckets gatewayId with
  | none => rfl
  | some bucket => rfl

/-- The meter starts from nothing. -/
theorem Kept.counted {bucket : AdaptiveTokenBucket} (kept : Kept now bucket)
    (lower : bucket.params.minRateFactor ≤ 1) (first : Time) :
    Counted bucket.params first 0 now bucket := by
  have rate := kept.limited.filled.params.nominalRps
  have below := kept.limited.below lower
  refine ⟨rfl, kept, ⟨?_, fun _ => rfl⟩⟩
  rw [Nat.cast_zero, zero_add]
  calc bucket.tokens ≤ bucket.burst := kept.limited.filled.capped
    _ ≤ bucket.params.nominalRps * bucket.params.burstFactor := below.burst
    _ ≤ _ := Throughput.le_allowance rate (Nat.le_max_right _ _)

private theorem allowance_nonneg {bucket : AdaptiveTokenBucket}
    (limited : Limited bucket) (ordered : first ≤ last) :
    0 ≤ allowance (bucket.params.nominalRps * bucket.params.burstFactor)
      bucket.params.nominalRps first last := by
  obtain ⟨rate, burst, -, -⟩ := limited.filled.params
  exact le_trans (mul_nonneg rate burst)
    (Throughput.le_allowance rate ordered)

/-- A time after all of the calls. -/
theorem exists_late (start : Time) (calls : List (Timed GuardOp)) :
    ∃ late, start ≤ late ∧ ∀ call ∈ calls, call.time ≤ late := by
  induction calls with
  | nil => exact ⟨start, Nat.le_refl start, by simp⟩
  | cons call calls induction =>
      obtain ⟨late, starts, past⟩ := induction
      refine ⟨max late call.time, Nat.le_trans starts (Nat.le_max_left _ _),
        ?_⟩
      intro other member
      rcases List.mem_cons.mp member with rfl | later
      · exact Nat.le_max_right _ _
      · exact Nat.le_trans (past other later) (Nat.le_max_left _ _)

private theorem granted_interval_le {earlier window : List (Timed GuardOp)}
    (nonnegative : config.rateLimiter.Nonnegative)
    (sound : ∀ call ∈ earlier,
      Sound TokenBucketParams.Nonnegative config gatewayId call.op)
    (clocked : Clocked start (earlier ++ window)) (ordered : first ≤ last)
    (within : ∀ call ∈ window, first ≤ call.time ∧ call.time ≤ last)
    (steady : ∀ call ∈ window, ∀ overrides,
      ¬ Relimits gatewayId call.op overrides)
    (lower : ((after (perform config) .empty earlier).bucketOf config first
      gatewayId).params.minRateFactor ≤ 1) :
    let opened := after (perform config) .empty earlier
    let params := (opened.bucketOf config first gatewayId).params
    ((granted gatewayId (answers (perform config) opened window)).length :
        ℚ) ≤
      allowance (params.nominalRps * params.burstFactor) params.nominalRps
        first last := by
  intro opened params
  obtain ⟨front, tail, across⟩ := clocked.of_append
  cases window with
  | nil =>
      obtain ⟨late, starts, past⟩ := exists_late start earlier
      have begun : Always config gatewayId opened late Kept :=
        always_kept front sound (always_empty nonnegative start) starts past
      have limited := (begun late (Nat.le_refl late)).limited
      have bound := allowance_nonneg limited ordered
      rw [bucketOf_params late first] at bound
      simpa [granted, answers] using bound
  | cons call rest =>
      have begun : Always config gatewayId opened call.time Kept :=
        always_kept front sound (always_empty nonnegative start) tail.1
          fun other member => across other member call List.mem_cons_self
      have counted : Always config gatewayId opened call.time
          (Counted params first 0) := by
        intro moment after
        have same : (opened.bucketOf config moment gatewayId).params =
            params := bucketOf_params moment first
        rw [← same]
        exact (begun moment after).counted (by rwa [same]) first
      have opens := (within call List.mem_cons_self).1
      have closes := (within call List.mem_cons_self).2
      have begins : Clocked call.time (call :: rest) :=
        ⟨Nat.le_refl call.time, tail.2⟩
      have bound := granted_window_le begins lower within opens closes steady
        counted
      simpa using bound

end Interval

/-- In every run of the guard, no call charges twice, every charge at a
gateway has its own token of the gateway, and the charges that are paid by the
tokens of an interval keep to the nominal limits of the gateway. -/
theorem charges_metered (config : GuardConfig) (gatewayId : String)
    (start first last : Time) (earlier window later : List (Timed GuardOp))
    (nonnegative : config.rateLimiter.Nonnegative)
    (sound : ∀ call ∈ earlier,
      Sound TokenBucketParams.Nonnegative config gatewayId call.op)
    (clocked : Clocked start (earlier ++ window)) (ordered : first ≤ last)
    (within : ∀ call ∈ window, first ≤ call.time ∧ call.time ≤ last)
    (steady : ∀ call ∈ window, ∀ overrides,
      ¬ Relimits gatewayId call.op overrides)
    (lower : ((after (perform config) .empty earlier).bucketOf config first
      gatewayId).params.minRateFactor ≤ 1) :
    let opened := after (perform config) .empty earlier
    let params := (opened.bucketOf config first gatewayId).params
    let run := answers (perform config) .empty (earlier ++ window ++ later)
    let tokens := granted gatewayId (answers (perform config) opened window)
    (charged gatewayId run).Nodup ∧
      charged gatewayId run ⊆ granted gatewayId run ∧
      (((charged gatewayId run).filter (· ∈ tokens)).length : ℚ) ≤
        allowance (params.nominalRps * params.burstFactor) params.nominalRps
          first last := by
  intro opened params run tokens
  obtain ⟨once, -, token⟩ := paid_run config gatewayId .empty
    (earlier ++ window ++ later)
  refine ⟨once, ?_, ?_⟩
  · intro number member
    rcases token number member with unknown | taken
    · cases unknown
    · exact taken
  · have paying : ((charged gatewayId run).filter (· ∈ tokens)).length ≤
        tokens.length := by
      refine ((once.filter _).subperm ?_).length_le
      intro number member
      simpa using (List.mem_filter.mp member).2
    have bound := granted_interval_le nonnegative sound clocked ordered within
      steady lower
    exact le_trans (Nat.cast_le.mpr paying) bound

/-- Two tokens a second.  The first call is charged with a token of before
the interval, a throttling answer halves the rate, and one more charge is paid
in the interval. -/
theorem charges_metered_throttled :
    let config : GuardConfig :=
      { GuardConfig.default with rateLimiter := ⟨2, 1, 1 / 4, 1, 15000⟩ }
    let earlier : List (Timed GuardOp) := [⟨0, .call "stripe" 0⟩]
    let window : List (Timed GuardOp) :=
      [⟨10, .resume "stripe" 0⟩, ⟨10, .call "stripe" 1⟩,
        ⟨10, .call "adyen" 2⟩, ⟨20, .answer "stripe" 0
          (.fail ⟨.rateLimited, "slow down", 429⟩)⟩,
        ⟨30, .call "stripe" 3⟩]
    let later : List (Timed GuardOp) := [⟨2000, .resume "stripe" 1⟩]
    let run := answers (perform config) .empty (earlier ++ window ++ later)
    charged "stripe" run = [0, 1] ∧
      (((charged "stripe" run).filter (· ∈ [1])).length : ℚ) ≤
        allowance (2 * 1) 2 10 1010 := by
  intro config earlier window later run
  refine ⟨by decide +kernel, ?_⟩
  have paying : granted "stripe" (answers (perform config)
      (after (perform config) .empty earlier) window) = [1] := by
    decide +kernel
  have limits : ((after (perform config) .empty earlier).bucketOf config 10
      "stripe").params = ⟨2, 1, 1 / 4, 1, 15000⟩ := by
    decide +kernel
  have metered := (charges_metered config "stripe" 0 10 1010 earlier window
    later ⟨by decide, by decide, by decide +kernel, by decide⟩
    (by
      intro call member overrides relimits
      obtain ⟨policy, same, -⟩ := relimits
      obtain rfl := List.mem_singleton.mp member
      cases same)
    (by decide) (by decide) (by decide)
    (by
      intro call member overrides relimits
      obtain ⟨policy, same, -⟩ := relimits
      simp only [window, List.mem_cons, List.not_mem_nil, or_false] at member
      rcases member with rfl | rfl | rfl | rfl | rfl <;> cases same)
    (by decide +kernel)).2.2
  rwa [paying, limits] at metered

end PaymentQueue.Metering
