import BenchTally.Proofs.Double.Whole
import BenchTally.Proofs.Stats.Extremes
import BenchTally.Proofs.Stats.PerKey
import Mathlib.Algebra.Order.BigOperators.Group.List
import Mathlib.Tactic.Positivity

set_option autoImplicit false
set_option relaxedAutoImplicit false

/-!
# Statistics of time buckets

## Main definitions

* `BucketStats.Counts` — how many samples there are, and how many of them are flagged.
* `BucketStats.Sound` — what the statistics of a bucket tell about doubles.
* `BucketStats.Exact` — what they tell about rational numbers.

## Main results

* `TimelineTally.get?_ofRuns_perm` — exact series do not depend on the order of the samples.
* `TimelineTally.bucketStats_sound` — statistics of all buckets of all tallies.
-/

namespace BenchTally

namespace BucketStats

section Counts

variable {α : Type} [Quantity α] {samples : List (Sample α)} {stats : BucketStats α}

/-- How many samples there are, and how many of them are flagged. -/
structure Counts (samples : List (Sample α)) (stats : BucketStats α) : Prop where
  count_eq : stats.count = samples.length
  count_pos : 1 ≤ stats.count
  tracking_eq : stats.tracking = samples.countP Sample.tracking
  tracking_le : stats.tracking ≤ stats.count
  repartitioning_eq : stats.repartitioning = samples.countP Sample.repartitioning
  repartitioning_le : stats.repartitioning ≤ stats.count

/-- The fields of statistics, read off the samples. -/
lemma eq_of_ofSamples? (h : ofSamples? samples = some stats) :
    ∃ first rest, samples.map Sample.throughput = first :: rest ∧ stats = {
      count := samples.length
      sum := rest.foldl (· + ·) first
      min := rest.foldl Quantity.lesser first
      max := rest.foldl Quantity.greater first
      tracking := samples.countP Sample.tracking
      repartitioning := samples.countP Sample.repartitioning } := by
  obtain ⟨first, rest, rfl, rfl⟩ := ofSamples?_eq_some_iff.1 h
  refine ⟨first.throughput, rest.map Sample.throughput, rfl, ?_⟩
  rw [foldl_add]
  simp only [single, List.length_cons, List.countP_cons, toNat_eq_ite, Nat.add_comm 1,
    Nat.add_comm (if _ then 1 else 0)]

lemma counts_of_ofSamples? (h : ofSamples? samples = some stats) : Counts samples stats := by
  obtain ⟨first, rest, hvalues, rfl⟩ := eq_of_ofSamples? h
  have hpos : 1 ≤ samples.length := by
    rw [← List.length_map (f := Sample.throughput), hvalues]
    simp
  exact ⟨rfl, hpos, rfl, List.countP_le_length, rfl, List.countP_le_length⟩

/-- The least and the greatest throughput are best ones of all. -/
lemma isBest_of_ofSamples? (hless : Quantity.Comparison (Quantity.less : α → α → Bool))
    (h : ofSamples? samples = some stats) :
    Quantity.IsBest Quantity.less stats.min (samples.map Sample.throughput) ∧
      Quantity.IsBest (fun a b => Quantity.less b a) stats.max
        (samples.map Sample.throughput) := by
  obtain ⟨first, rest, hvalues, rfl⟩ := eq_of_ofSamples? h
  rw [hvalues, Quantity.lesser_eq_pick, Quantity.greater_eq_pick]
  exact ⟨Quantity.isBest_foldl_pick hless first rest,
    Quantity.isBest_foldl_pick hless.swap first rest⟩

end Counts

/-! ## Doubles -/

/-- What the statistics of a bucket tell about doubles. The least throughput is not a number only if
none is, and otherwise it is one of them, and at most every one that is a number; and so is the
greatest. The shares lie between zero and one as long as the count has 64 bits, as the counters of
a machine have; infinitely large doubles would have no quotient. -/
structure Sound (samples : List (Sample Float)) (stats : BucketStats Float) : Prop where
  counts : Counts samples stats
  divisor_ne_zero : ((Quantity.ofNat stats.count : Float) == 0.0) = false
  trackingShare_mem : stats.count < 2 ^ 64 →
    0.0 ≤ stats.trackingShare ∧ stats.trackingShare ≤ 1.0
  repartitioningShare_mem : stats.count < 2 ^ 64 →
    0.0 ≤ stats.repartitioningShare ∧ stats.repartitioningShare ≤ 1.0
  min_mem : ∃ s ∈ samples, s.throughput = stats.min
  min_isNaN_iff : stats.min.isNaN = true ↔ ∀ s ∈ samples, s.throughput.isNaN = true
  min_le : ∀ s ∈ samples, s.throughput.isNaN = false → stats.min ≤ s.throughput
  max_mem : ∃ s ∈ samples, s.throughput = stats.max
  max_isNaN_iff : stats.max.isNaN = true ↔ ∀ s ∈ samples, s.throughput.isNaN = true
  le_max : ∀ s ∈ samples, s.throughput.isNaN = false → s.throughput ≤ stats.max

lemma sound_of_ofSamples? {samples : List (Sample Float)} {stats : BucketStats Float}
    (h : ofSamples? samples = some stats) : Sound samples stats := by
  have hcounts := counts_of_ofSamples? h
  obtain ⟨hmin, hmax⟩ := isBest_of_ofSamples? Quantity.comparison_less_float h
  refine {
    counts := hcounts
    divisor_ne_zero := Double.ofNat_beq_zero hcounts.count_pos
    trackingShare_mem := Double.ofNat_div_ofNat_mem hcounts.tracking_le hcounts.count_pos
    repartitioningShare_mem :=
      Double.ofNat_div_ofNat_mem hcounts.repartitioning_le hcounts.count_pos
    min_mem := List.mem_map.1 hmin.mem
    min_isNaN_iff := hmin.isNaN_iff.trans List.forall_mem_map
    min_le := ?_
    max_mem := List.mem_map.1 hmax.mem
    max_isNaN_iff := hmax.isNaN_iff.trans List.forall_mem_map
    le_max := ?_ }
  · intro s hs hnumber
    have hvalue := List.mem_map_of_mem (f := Sample.throughput) hs
    rw [← Bool.not_eq_true', ← Quantity.isNumber_float_eq] at hnumber
    exact Quantity.le_of_not_less_float (hmin.number _ hvalue hnumber) hnumber
      (hmin.not_better _ hvalue)
  · intro s hs hnumber
    have hvalue := List.mem_map_of_mem (f := Sample.throughput) hs
    rw [← Bool.not_eq_true', ← Quantity.isNumber_float_eq] at hnumber
    exact Quantity.le_of_not_less_float hnumber (hmax.number _ hvalue hnumber)
      (hmax.not_better _ hvalue)

/-! ## Rational numbers -/

/-- What the statistics of a bucket tell about rational numbers. The least and the greatest
throughput are attained, and the mean lies between them; the shares lie between zero and one. -/
structure Exact (samples : List (Sample ℚ)) (stats : BucketStats ℚ) : Prop where
  counts : Counts samples stats
  mean_eq : stats.mean = (samples.map Sample.throughput).sum / samples.length
  min_mem : ∃ s ∈ samples, s.throughput = stats.min
  min_le : ∀ s ∈ samples, stats.min ≤ s.throughput
  max_mem : ∃ s ∈ samples, s.throughput = stats.max
  le_max : ∀ s ∈ samples, s.throughput ≤ stats.max
  min_le_mean : stats.min ≤ stats.mean
  mean_le_max : stats.mean ≤ stats.max
  trackingShare_mem : 0 ≤ stats.trackingShare ∧ stats.trackingShare ≤ 1
  repartitioningShare_mem : 0 ≤ stats.repartitioningShare ∧ stats.repartitioningShare ≤ 1

/-- A number that is at most all of a list is at most their mean, and likewise on the other
side. -/
lemma mem_mean {values : List ℚ} (hne : values ≠ []) {least greatest : ℚ}
    (hleast : ∀ x ∈ values, least ≤ x) (hgreatest : ∀ x ∈ values, x ≤ greatest) :
    least ≤ values.sum / values.length ∧ values.sum / values.length ≤ greatest := by
  have hpos : (0 : ℚ) < values.length := by exact_mod_cast List.length_pos_of_ne_nil hne
  have hbelow := List.card_nsmul_le_sum values least hleast
  have habove := List.sum_le_card_nsmul values greatest hgreatest
  rw [nsmul_eq_mul] at hbelow habove
  rw [le_div_iff₀ hpos, div_le_iff₀ hpos]
  constructor <;> linarith

/-- A number of the samples makes up a share between zero and one. -/
lemma share_mem {stats : BucketStats ℚ} {n : ℕ} (hn : n ≤ stats.count) :
    0 ≤ stats.share n ∧ stats.share n ≤ 1 := by
  have hle : (n : ℚ) ≤ stats.count := by exact_mod_cast hn
  rw [share, Quantity.ofNat_rat, Quantity.ofNat_rat]
  exact ⟨by positivity, div_le_one_of_le₀ hle (by positivity)⟩

/-- The mean is the sum of the throughputs, divided by their number. -/
lemma mean_of_ofSamples? {samples : List (Sample ℚ)} {stats : BucketStats ℚ}
    (h : ofSamples? samples = some stats) :
    stats.mean = (samples.map Sample.throughput).sum / samples.length := by
  obtain ⟨first, rest, hvalues, rfl⟩ := eq_of_ofSamples? h
  rw [hvalues, List.sum_eq_foldl, List.foldl_cons, zero_add]
  rfl

lemma exact_of_ofSamples? {samples : List (Sample ℚ)} {stats : BucketStats ℚ}
    (h : ofSamples? samples = some stats) : Exact samples stats := by
  have hcounts := counts_of_ofSamples? h
  obtain ⟨hmin, hmax⟩ := isBest_of_ofSamples? Quantity.comparison_less_rat h
  have hleast : ∀ x ∈ samples.map Sample.throughput, stats.min ≤ x := fun x hx =>
    not_lt.1 ((Quantity.less_rat_iff _ _).not.1 (hmin.not_better x hx))
  have hgreatest : ∀ x ∈ samples.map Sample.throughput, x ≤ stats.max := fun x hx =>
    not_lt.1 ((Quantity.less_rat_iff _ _).not.1 (hmax.not_better x hx))
  have hmean := mem_mean (List.ne_nil_of_mem hmin.mem) hleast hgreatest
  rw [List.length_map, ← mean_of_ofSamples? h] at hmean
  exact {
    counts := hcounts
    mean_eq := mean_of_ofSamples? h
    min_mem := List.mem_map.1 hmin.mem
    min_le := List.forall_mem_map.1 hleast
    max_mem := List.mem_map.1 hmax.mem
    le_max := List.forall_mem_map.1 hgreatest
    min_le_mean := hmean.1
    mean_le_max := hmean.2
    trackingShare_mem := share_mem hcounts.tracking_le
    repartitioningShare_mem := share_mem hcounts.repartitioning_le }

/-! ## Order of samples -/

/-- Exact statistics do not depend on which of two samples is added first. -/
lemma add_add_comm (stats : BucketStats ℚ) (s s' : Sample ℚ) :
    (stats.add s).add s' = (stats.add s').add s := by
  simp only [add, Quantity.lesser_rat, Quantity.greater_rat, min_right_comm, max_right_comm,
    add_right_comm]

lemma single_add_comm (s s' : Sample ℚ) : (single s).add s' = (single s').add s := by
  simp only [add, single, Quantity.lesser_rat, Quantity.greater_rat, min_comm, max_comm, add_comm]

/-- Exact statistics do not depend on the order of the samples. -/
lemma ofSamples?_perm {samples samples' : List (Sample ℚ)} (h : samples.Perm samples') :
    ofSamples? samples = ofSamples? samples' := by
  rw [← foldl_extend, ← foldl_extend]
  refine h.foldl_eq' (fun s _ s' _ o => ?_) none
  cases o with
  | none => exact congrArg some (single_add_comm s s')
  | some stats => exact congrArg some (add_add_comm stats s s')

end BucketStats

/-- An exact series does not depend on the order of the samples. -/
lemma Series.ofSamples_perm {samples samples' : List (Sample ℚ)} (h : samples.Perm samples') :
    ofSamples samples = ofSamples samples' :=
  Keyed.ext_get? fun b => by
    rw [get?_ofSamples, get?_ofSamples, BucketStats.ofSamples?_perm (h.filter _)]

namespace TimelineTally

/-- **The order of the samples of a configuration** makes no difference to its exact series. -/
lemma get?_ofRuns_perm {runs runs' : List (ConfigKey × List (Sample ℚ))} {k : ConfigKey}
    (h : (samplesOf k runs).Perm (samplesOf k runs')) :
    (ofRuns runs).get? k = (ofRuns runs').get? k := by
  have hnil : samplesOf k runs = [] ↔ samplesOf k runs' = [] := by
    rw [← List.length_eq_zero_iff, h.length_eq, List.length_eq_zero_iff]
  rw [get?_ofRuns, get?_ofRuns, Series.ofSamples_perm h]
  simp only [hnil]

variable {α : Type} [Quantity α]

/-- What there is for a bucket is made of its samples. -/
lemma ofSamples?_of_get? {runs : List (ConfigKey × List (Sample α))} {k : ConfigKey}
    {series : Series α} {b : TimeBucket} {stats : BucketStats α}
    (h : (ofRuns runs).get? k = some series) (hstats : series.get? b = some stats) :
    BucketStats.ofSamples? ((samplesOf k runs).filter fun s => s.bucket = b) = some stats := by
  rw [← Series.get?_ofSamples, ← eq_ofSamples_of_get? h, hstats]

/-- **Statistics of all buckets.** Whatever repetitions are tallied, the statistics of a bucket of a
configuration count its samples, of which there is at least one, and those that are flagged. Over
doubles the shares lie between zero and one, and the least and the greatest throughput pass over
what is not a number. Over rational numbers they are attained, and the mean lies between them; and
the series of a configuration stays the same if its repetitions are permuted, and the samples in
each of them.

**Proof sketch.** The statistics of a bucket are a fold over its samples. Each of their fields is
read off this fold; the extremes by the step that a best one of some values, compared with another
value, leaves a best one of all of them. Over rational numbers two steps of the fold can be
exchanged. -/
theorem bucketStats_sound :
    (∀ (runs : List (ConfigKey × List (Sample Float))) (k : ConfigKey) (series : Series Float)
        (b : TimeBucket) (stats : BucketStats Float),
      (ofRuns runs).get? k = some series → series.get? b = some stats →
        BucketStats.Sound ((samplesOf k runs).filter fun s => s.bucket = b) stats) ∧
    (∀ (runs : List (ConfigKey × List (Sample ℚ))) (k : ConfigKey) (series : Series ℚ)
        (b : TimeBucket) (stats : BucketStats ℚ),
      (ofRuns runs).get? k = some series → series.get? b = some stats →
        BucketStats.Exact ((samplesOf k runs).filter fun s => s.bucket = b) stats) ∧
    (∀ (runs runs' : List (ConfigKey × List (Sample ℚ))) (k : ConfigKey)
        (calls : List (List (Sample ℚ))), (valuesOf k runs).Perm calls →
      List.Forall₂ List.Perm calls (valuesOf k runs') →
        (ofRuns runs').get? k = (ofRuns runs).get? k) := by
  refine ⟨fun runs k series b stats h hstats => ?_, fun runs k series b stats h hstats => ?_,
    fun runs runs' k calls hcalls hsamples => ?_⟩
  · exact BucketStats.sound_of_ofSamples? (ofSamples?_of_get? h hstats)
  · exact BucketStats.exact_of_ofSamples? (ofSamples?_of_get? h hstats)
  · refine (get?_ofRuns_perm ?_).symm
    exact hcalls.flatten.trans (List.Perm.flatten_congr hsamples)

/-- Repetitions of a configuration of which the first has no throughput that is a number. -/
def nanRuns : List (ConfigKey × List (Sample Float)) :=
  [(workersKey 1, [tickSample 10 Decimal.notANumber]), (workersKey 1, [tickSample 10 100.0])]

/-- A bucket in which the first throughput is not a number has a least throughput that is one, and
an exact series does not see the order of its repetitions. -/
theorem bucketStats_sound_nan :
    (∃ series stats, (ofRuns nanRuns).get? (workersKey 1) = some series ∧
      series.get? ⟨10⟩ = some stats ∧ stats.count = 2 ∧ stats.min.isNaN = false) ∧
    (ofRuns [(workersKey 1, [tickSample 10 3]), (workersKey 1, [tickSample 10 (1 : ℚ)])]).get?
        (workersKey 1) =
      (ofRuns [(workersKey 1, [tickSample 10 1]), (workersKey 1, [tickSample 10 (3 : ℚ)])]).get?
        (workersKey 1) := by
  obtain ⟨hsound, -, hperm⟩ := bucketStats_sound
  constructor
  · refine ⟨_, _, rfl, rfl, rfl, ?_⟩
    have hbucket := hsound nanRuns (workersKey 1) _ ⟨10⟩ _ rfl rfl
    have hmem : tickSample 10 100.0 ∈
        (samplesOf (workersKey 1) nanRuns).filter fun s => s.bucket = ⟨10⟩ :=
      List.mem_filter.2 ⟨.tail _ (.head _), by decide⟩
    rw [← Bool.not_eq_true, hbucket.min_isNaN_iff]
    exact fun hnan => absurd (hnan _ hmem) (by decide)
  · refine hperm _ _ _ [[tickSample 10 3], [tickSample 10 1]] ?_ ?_
    · exact .swap _ _ _
    · exact .cons (.refl _) (.cons (.refl _) .nil)

end TimelineTally

end BenchTally
