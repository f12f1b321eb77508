import BenchTally.Result.Timeline
import BenchTally.Run.Key
import BenchTally.Stats.Keyed

set_option autoImplicit false
set_option relaxedAutoImplicit false

/-!
# Throughput over time, merged over repetitions

The samples of all repetitions of a configuration that fall into one time bucket are reduced to
their statistics. A repetition without a sample in a bucket does not take part in it.

## Main definitions

* `BucketStats` — the statistics of the samples of one bucket.
* `Series` — the statistics of one configuration, bucket by bucket.
* `TimelineTally` — the series of all configurations.
* `TimelineTally.add` — the samples of one more repetition.
* `TimelineTally.ofRuns` — the series of a list of repetitions.
-/

namespace BenchTally

variable {α : Type} [Quantity α]

/-! ## Buckets -/

/-- The statistics of the samples of one time bucket, of which there is at least one. -/
structure BucketStats (α : Type) where
  /-- The number of samples. -/
  count : Nat
  /-- The sum of the throughputs. -/
  sum : α
  /-- The least throughput. -/
  min : α
  /-- The greatest throughput. -/
  max : α
  /-- The number of samples with active tracking. -/
  tracking : Nat
  /-- The number of samples with active repartitioning. -/
  repartitioning : Nat

namespace BucketStats

/-- The statistics of a single sample. -/
def single (s : Sample α) : BucketStats α where
  count := 1
  sum := s.throughput
  min := s.throughput
  max := s.throughput
  tracking := s.tracking.toNat
  repartitioning := s.repartitioning.toNat

/-- The statistics with one more sample. -/
def add (b : BucketStats α) (s : Sample α) : BucketStats α where
  count := b.count + 1
  sum := b.sum + s.throughput
  min := Quantity.lesser b.min s.throughput
  max := Quantity.greater b.max s.throughput
  tracking := b.tracking + s.tracking.toNat
  repartitioning := b.repartitioning + s.repartitioning.toNat

/-- The statistics of a sample and those that follow it, taken in their order. -/
def ofSamples (first : Sample α) (rest : List (Sample α)) : BucketStats α :=
  rest.foldl add (single first)

/-- The mean throughput. -/
def mean (b : BucketStats α) : α :=
  b.sum / Quantity.ofNat b.count

/-- The share of a number of samples. -/
def share (b : BucketStats α) (n : Nat) : α :=
  Quantity.ofNat n / Quantity.ofNat b.count

/-- The share of the samples with active tracking. -/
def trackingShare (b : BucketStats α) : α :=
  b.share b.tracking

/-- The share of the samples with active repartitioning. -/
def repartitioningShare (b : BucketStats α) : α :=
  b.share b.repartitioning

end BucketStats

/-! ## Series -/

/-- The statistics of one configuration, in the order of time. -/
abbrev Series (α : Type) := Keyed TimeBucket (BucketStats α)

/-- The series with one more sample. -/
def Series.add (series : Series α) (s : Sample α) : Series α :=
  series.alter s.bucket fun
    | some stats => stats.add s
    | none => .single s

/-- The series with more samples, taken in their order. -/
def Series.addAll (series : Series α) (samples : List (Sample α)) : Series α :=
  samples.foldl Series.add series

/-- A sample changes the statistics of its own bucket only. -/
theorem Series.get?_add (series : Series α) (s : Sample α) (b : TimeBucket) :
    (series.add s).get? b =
      if b = s.bucket then
        some ((series.get? s.bucket).elim (.single s) (·.add s))
      else series.get? b := by
  rw [Series.add, Keyed.get?_alter]
  cases series.get? s.bucket <;> rfl

/-! ## All configurations -/

/-- The series of all configurations, in the order of the configurations. -/
abbrev TimelineTally (α : Type) := Keyed ConfigKey (Series α)

namespace TimelineTally

/-- The series with the samples of one more repetition. A repetition without samples leaves no
trace. -/
def add (tally : TimelineTally α) (key : ConfigKey) (samples : List (Sample α)) :
    TimelineTally α :=
  if samples.isEmpty then tally
  else tally.alter key fun series => (series.getD .empty).addAll samples

/-- The series of a list of repetitions, taken in its order. -/
def ofRuns (runs : List (ConfigKey × List (Sample α))) : TimelineTally α :=
  runs.foldl (fun tally run => add tally run.1 run.2) .empty

/-- A repetition changes the series of its own configuration only, and only if it has samples. -/
theorem get?_add (tally : TimelineTally α) (key k : ConfigKey) (samples : List (Sample α)) :
    (add tally key samples).get? k =
      if k = key ∧ samples ≠ [] then some (((tally.get? key).getD .empty).addAll samples)
      else tally.get? k := by
  cases samples with
  | nil => simp [add]
  | cons s ss =>
    have h : (add tally key (s :: ss)) =
        tally.alter key fun series => (series.getD .empty).addAll (s :: ss) := rfl
    rw [h, Keyed.get?_alter]
    simp

end TimelineTally

end BenchTally
