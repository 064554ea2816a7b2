import Mathlib.Tactic.Linarith
import PaymentQueue.Metrics.Collector
import PaymentQueue.Statistics.NearestRank
import PaymentQueue.Statistics.RollingWindow

/-!
# Snapshots and the history of attempts

The buffer of the collector is pruned from the front, on insertion only, and
cut to its limit.  A snapshot filters it once more, and then counts exactly
the attempts of the whole history that lie in the window and are among the
latest ones.
-/

namespace PaymentQueue.Snapshot

open MetricsCollector RollingWindow

variable {config : MetricsConfig} {now last : Time}

/-- A `job.completed` event with the two clock readings of
`recordAttempt`. -/
structure Arrival where
  sample : AttemptSample
  prunedAt : Time
  deriving DecidableEq

/-- The clock never goes back. -/
def Arrives : Time → List Arrival → Prop
  | _, [] => True
  | last, arrival :: arrivals =>
      last ≤ arrival.sample.t ∧ arrival.sample.t ≤ arrival.prunedAt ∧
        Arrives arrival.prunedAt arrivals

instance decidableArrives :
    (last : Time) → (arrivals : List Arrival) → Decidable (Arrives last arrivals)
  | _, [] => inferInstanceAs (Decidable True)
  | last, arrival :: arrivals =>
      have := decidableArrives arrival.prunedAt arrivals
      inferInstanceAs (Decidable (last ≤ arrival.sample.t ∧
        arrival.sample.t ≤ arrival.prunedAt ∧
        Arrives arrival.prunedAt arrivals))

def record (config : MetricsConfig) (collector : MetricsCollector)
    (arrival : Arrival) : MetricsCollector :=
  collector.recordAttempt config arrival.prunedAt arrival.sample.t
    arrival.sample.gatewayId arrival.sample.ok arrival.sample.durationMs

/-- The collector after a sequence of events. -/
def recorded (config : MetricsConfig) (arrivals : List Arrival) :
    MetricsCollector :=
  arrivals.foldl (record config) empty

/-- The latest attempts of the whole history. -/
def latestAttempts (arrivals : List Arrival) : List AttemptSample :=
  latest sampleLimit (arrivals.map Arrival.sample)

/-- Those of them that lie in the window. -/
def counted (config : MetricsConfig) (now : Time) (arrivals : List Arrival) :
    List AttemptSample :=
  (latestAttempts arrivals).filter fun sample =>
    decide (now - config.windowSeconds * 1000 ≤ (sample.t : ℚ))

def durations (samples : List AttemptSample) : List ℚ :=
  samples.map AttemptSample.durationMs

/-- The value is the least of the items that at least the fraction `p` of them
does not exceed; there is none of no items. -/
def IsPercentile (p : ℚ) (items : List ℚ) : Option ℚ → Prop
  | none => items = []
  | some value => IsLeast {item | item ∈ items ∧
      p * items.length ≤ (items.countP fun other => decide (other ≤ item) : ℕ)}
      value

/-- A sample is older than the window. -/
def expiredAt (config : MetricsConfig) (now : Time) (sample : AttemptSample) :
    Bool :=
  decide ((sample.t : ℚ) < now - config.windowSeconds * 1000)

private theorem record_samples (collector : MetricsCollector)
    (arrival : Arrival) :
    (record config collector arrival).samples =
      push sampleLimit (expiredAt config arrival.prunedAt) arrival.sample
        collector.samples := by
  rw [record, recordAttempt, push, latest]
  rfl

private theorem expiredAt_mono (later : last ≤ now) (sample : AttemptSample)
    (expired : expiredAt config last sample = true) :
    expiredAt config now sample = true := by
  have cast : (last : ℚ) ≤ now := Nat.cast_le.mpr later
  simp only [expiredAt, decide_eq_true_eq] at expired ⊢
  linarith

private theorem ages_of_ordered {history : List AttemptSample}
    (ordered : history.Pairwise fun earlier later => earlier.t ≤ later.t)
    (now : Time) : Ages (expiredAt config now) history := by
  refine ordered.imp ?_
  intro earlier later before expired
  have cast : (earlier.t : ℚ) ≤ later.t := Nat.cast_le.mpr before
  simp only [expiredAt, decide_eq_true_eq] at expired ⊢
  linarith

/-- The buffer keeps up with the history. -/
theorem retains_foldl {arrivals : List Arrival}
    (arrives : Arrives last arrivals) {history : List AttemptSample}
    {collector : MetricsCollector}
    (retains : Retains sampleLimit (expiredAt config last) history
      collector.samples)
    (ordered : history.Pairwise fun earlier later => earlier.t ≤ later.t)
    (before : ∀ sample ∈ history, sample.t ≤ last)
    (ended : ∀ arrival ∈ arrivals, arrival.prunedAt ≤ now)
    (passed : last ≤ now) :
    Retains sampleLimit (expiredAt config now)
      (history ++ arrivals.map Arrival.sample)
      (arrivals.foldl (record config) collector).samples := by
  induction arrivals generalizing last history collector with
  | nil =>
      rw [List.map_nil, List.append_nil]
      exact retains.mono (expiredAt_mono passed)
  | cons arrival arrivals induction =>
      obtain ⟨arrived, pruned, arrives⟩ := arrives
      have current : last ≤ arrival.prunedAt := Nat.le_trans arrived pruned
      have extended : (history ++ [arrival.sample]).Pairwise
          fun earlier later => earlier.t ≤ later.t := by
        rw [List.pairwise_append]
        refine ⟨ordered, List.pairwise_singleton _ _, ?_⟩
        intro sample member newest same
        rw [List.mem_singleton.mp same]
        exact Nat.le_trans (before sample member) arrived
      have pushed := (retains.mono (expiredAt_mono current)).push
        (ages_of_ordered extended arrival.prunedAt)
      rw [← record_samples] at pushed
      have rest := induction arrives pushed extended ?_
        (fun later member => ended later (by simp [member]))
        (ended arrival (by simp))
      · rw [List.append_assoc] at rest
        exact rest
      · intro sample member
        rcases List.mem_append.mp member with old | new
        · exact Nat.le_trans (before sample old) current
        · rw [List.mem_singleton.mp new]
          exact pruned

/-- A snapshot counts the attempts of the history that lie in the window. -/
theorem inWindow_eq {arrivals : List Arrival} (arrives : Arrives 0 arrivals)
    (ended : ∀ arrival ∈ arrivals, arrival.prunedAt ≤ now) :
    (recorded config arrivals).inWindow config now =
      counted config now arrivals := by
  have retains := @retains_foldl config now 0 arrivals arrives [] empty
    (retains_nil _ _) List.Pairwise.nil (by simp) ended (Nat.zero_le now)
  rw [List.nil_append] at retains
  apply retains.filter
  intro sample expired
  simp only [expiredAt, decide_eq_true_eq] at expired
  exact decide_eq_false (not_le.mpr expired)

/-- The index of `percentile` is a rank of the list. -/
theorem percentile_index {p : ℚ} (positive : 0 < p) (atMost : p ≤ 1)
    {length : Nat} (items : 0 < length) :
    min (length - 1) (max 0 (⌈p * length⌉ - 1)).toNat + 1 =
        ⌈p * length⌉.toNat ∧ ⌈p * length⌉.toNat ≤ length := by
  have some : 0 < p * length := mul_pos positive (Nat.cast_pos.mpr items)
  have few : p * length ≤ ((length : ℤ) : ℚ) := by
    rw [Int.cast_natCast]
    exact mul_le_of_le_one_left (Nat.cast_nonneg length) atMost
  have lower := Int.ceil_pos.mpr some
  have upper := Int.ceil_le.mpr few
  omega

private theorem reaching_eq {p : ℚ} (items : List ℚ) :
    NearestRank.reaching items ⌈p * items.length⌉.toNat =
      {item | item ∈ items ∧ p * items.length ≤
        (items.countP fun other => decide (other ≤ item) : ℕ)} := by
  ext item
  simp only [NearestRank.reaching, Set.mem_ofPred_eq, Int.toNat_le,
    Int.ceil_le, Int.cast_natCast]

private theorem isPercentile_percentile {p : ℚ} (positive : 0 < p)
    (atMost : p ≤ 1)
    (items : List ℚ) :
    IsPercentile p items (percentile (items.insertionSort (· ≤ ·)) p) := by
  have permuted := List.perm_insertionSort (· ≤ ·) items
  have sorted := List.pairwise_insertionSort (· ≤ ·) items
  rw [percentile, permuted.length_eq]
  by_cases none : items.length = 0
  · rw [if_pos none]
    exact List.length_eq_zero_iff.mp none
  · obtain ⟨rank, few⟩ := percentile_index positive atMost
      (Nat.pos_of_ne_zero none)
    rw [if_neg none]
    generalize min (items.length - 1)
      (max 0 (⌈p * items.length⌉ - 1)).toNat = index at rank ⊢
    have inside : index < (items.insertionSort (· ≤ ·)).length := by
      rw [permuted.length_eq]
      omega
    rw [List.getElem?_eq_getElem inside]
    have least := NearestRank.isLeast_getElem sorted inside
    rw [NearestRank.reaching_perm permuted, rank, reaching_eq] at least
    exact least

private theorem insertionSort_perm {items items' : List ℚ}
    (permuted : items.Perm items') :
    items.insertionSort (· ≤ ·) = items'.insertionSort (· ≤ ·) := by
  apply List.Perm.eq_of_pairwise' (List.pairwise_insertionSort (· ≤ ·) items)
    (List.pairwise_insertionSort (· ≤ ·) items')
  exact (List.perm_insertionSort _ items).trans
    (permuted.trans (List.perm_insertionSort _ items').symm)

private theorem isPercentile_mono {p q : ℚ} (smaller : p ≤ q) {items : List ℚ}
    {first second : ℚ} (left : IsPercentile p items (some first))
    (right : IsPercentile q items (some second)) : first ≤ second := by
  apply IsLeast.mono right left
  rintro item ⟨member, enough⟩
  refine ⟨member, le_trans ?_ enough⟩
  exact mul_le_mul_of_nonneg_right smaller (Nat.cast_nonneg _)

/-- What a snapshot says about the attempts that it counts. -/
structure Reports (config : MetricsConfig) (now : Time)
    (arrivals : List Arrival) (snapshot : MetricsSnapshot) : Prop where
  total : snapshot.attempts.total = (counted config now arrivals).length
  ok : snapshot.attempts.ok =
    ((counted config now arrivals).filter AttemptSample.ok).length
  sum : snapshot.attempts.ok + snapshot.attempts.failed =
    snapshot.attempts.total
  errorRate : snapshot.errorRate =
    if counted config now arrivals = [] then 0
    else (snapshot.attempts.failed : ℚ) / snapshot.attempts.total
  tps : 1 ≤ config.windowSeconds → snapshot.tps =
    ((latestAttempts arrivals).filter fun sample =>
      decide ((now : ℚ) - 1000 ≤ sample.t)).length
  p95Ms : IsPercentile (95 / 100)
    (durations (counted config now arrivals)) snapshot.p95Ms
  p99Ms : IsPercentile (99 / 100)
    (durations (counted config now arrivals)) snapshot.p99Ms
  ordered : ∀ p95 p99, snapshot.p95Ms = some p95 →
    snapshot.p99Ms = some p99 → p95 ≤ p99

private theorem filter_second (seconds : 1 ≤ config.windowSeconds)
    (samples : List AttemptSample) :
    (samples.filter fun sample =>
        decide (now - config.windowSeconds * 1000 ≤ (sample.t : ℚ))).filter
        (fun sample => decide ((now : ℚ) - 1000 ≤ sample.t)) =
      samples.filter fun sample => decide ((now : ℚ) - 1000 ≤ sample.t) := by
  rw [List.filter_filter]
  apply List.filter_congr
  intro sample _
  by_cases recent : (now : ℚ) - 1000 ≤ sample.t
  · have inside : now - config.windowSeconds * 1000 ≤ (sample.t : ℚ) := by
      linarith
    simp [recent, inside]
  · simp [recent]

/-- A snapshot reports the statistics of the history, and its percentiles do
not depend on the order in which the durations arrived. -/
theorem snapshot_refines_history (config : MetricsConfig)
    (arrivals : List Arrival) (arrives : Arrives 0 arrivals) (now : Time)
    (ended : ∀ arrival ∈ arrivals, arrival.prunedAt ≤ now)
    (queueDepths : List GatewayDepth) :
    let snapshot := (recorded config arrivals).snapshot config now queueDepths
    Reports config now arrivals snapshot ∧
      ∀ arrivals' now', Arrives 0 arrivals' →
        (∀ arrival ∈ arrivals', arrival.prunedAt ≤ now') →
        (durations (counted config now' arrivals')).Perm
          (durations (counted config now arrivals)) →
        let snapshot' := (recorded config arrivals').snapshot config now'
          queueDepths
        snapshot'.p95Ms = snapshot.p95Ms ∧
          snapshot'.p99Ms = snapshot.p99Ms := by
  intro snapshot
  have window := @inWindow_eq config now arrivals arrives ended
  have p95Ms : IsPercentile (95 / 100)
      (durations (counted config now arrivals)) snapshot.p95Ms := by
    simp only [snapshot, MetricsCollector.snapshot, window]
    exact isPercentile_percentile (by norm_num) (by norm_num) _
  have p99Ms : IsPercentile (99 / 100)
      (durations (counted config now arrivals)) snapshot.p99Ms := by
    simp only [snapshot, MetricsCollector.snapshot, window]
    exact isPercentile_percentile (by norm_num) (by norm_num) _
  constructor
  · constructor
    · simp only [snapshot, MetricsCollector.snapshot, window]
    · simp only [snapshot, MetricsCollector.snapshot, window]
    · simp only [snapshot, MetricsCollector.snapshot, window]
      have fewer := List.length_filter_le AttemptSample.ok
        (counted config now arrivals)
      omega
    · simp only [snapshot, MetricsCollector.snapshot, window,
        List.length_eq_zero_iff]
    · intro seconds
      simp only [snapshot, MetricsCollector.snapshot, window, counted,
        filter_second seconds]
    · exact p95Ms
    · exact p99Ms
    · intro p95 p99 first second
      rw [first] at p95Ms
      rw [second] at p99Ms
      exact isPercentile_mono (by norm_num) p95Ms p99Ms
  · intro arrivals' now' arrives' ended' permuted
    have window' := @inWindow_eq config now' arrivals' arrives' ended'
    have sorted := insertionSort_perm permuted
    simp only [durations] at sorted
    simp only [snapshot, MetricsCollector.snapshot, window, window', sorted,
      and_self]

/-- The first attempt has left the window. -/
def someArrivals : List Arrival :=
  [⟨⟨0, "stripe", true, 40⟩, 0⟩, ⟨⟨2000, "adyen", false, 90⟩, 2001⟩,
    ⟨⟨60500, "stripe", true, 45⟩, 60500⟩]

theorem snapshot_refines_some :
    Arrives 0 someArrivals ∧
      (∀ arrival ∈ someArrivals, arrival.prunedAt ≤ 61000) ∧
      Reports .default 61000 someArrivals
        ((recorded .default someArrivals).snapshot .default 61000 []) := by
  have arrives : Arrives 0 someArrivals := by decide
  have ended : ∀ arrival ∈ someArrivals, arrival.prunedAt ≤ 61000 := by decide
  exact ⟨arrives, ended,
    (snapshot_refines_history .default someArrivals arrives 61000 ended []).1⟩

end PaymentQueue.Snapshot
