import BenchTally.Proofs.Output.Cells
import BenchTally.Proofs.Output.ChartGroups

set_option autoImplicit false
set_option relaxedAutoImplicit false

/-!
# Charts of throughput over time

## Main definitions

* `chartRow` — the row of a bucket, read off the samples that fall into it.
* `IsChartRow` — a row of a chart, by what is read in each of its columns.
* `Charts` — the charts that a list of repetitions makes, with the configurations of each and their
  buckets.

## Main results

* `timelineSheets_ofRuns` — the charts of a list of repetitions.
-/

namespace BenchTally

/-! ## Rows -/

/-- The row of a time bucket of a configuration, read off the samples that fall into the bucket: the
sum of the throughputs, taken from the left, over their number, the least and the greatest of them,
and the shares of the samples with active tracking and with active repartitioning. Without samples
there is no row. -/
def chartRow (k : ConfigKey) (b : TimeBucket) : List (Sample Float) → List String
  | [] => []
  | first :: rest =>
    let later := rest.map Sample.throughput
    let number := Float.ofNat (first :: rest).length
    [floatCell b.seconds,
      floatCell (later.foldl (· + ·) first.throughput / number),
      floatCell (later.foldl Quantity.lesser first.throughput),
      floatCell (later.foldl Quantity.greater first.throughput),
      floatCell (Float.ofNat ((first :: rest).countP Sample.tracking) / number),
      floatCell (Float.ofNat ((first :: rest).countP Sample.repartitioning) / number),
      k.storageType, natCell k.partitions, natCell k.paths, natCell k.interval, k.lineLabel]

/-- A row of a chart, by what is read in each of its columns: the seconds of a time bucket; of the
throughputs of the samples in the bucket the sum, taken from the left and from the first on, over
their number, the least and the greatest; the shares of the samples with active tracking and with
active repartitioning; and the fields and the label of a configuration. -/
structure IsChartRow (k : ConfigKey) (b : TimeBucket) (first : Sample Float)
    (rest : List (Sample Float)) (row : List String) : Prop where
  length_eq : row.length = timelineHeader.length
  elapsed : numberIn? timelineHeader row "elapsed_s" = some b.seconds
  mean : numberIn? timelineHeader row "mean" =
    some ((rest.map Sample.throughput).foldl (· + ·) first.throughput /
      Float.ofNat (first :: rest).length)
  min : numberIn? timelineHeader row "min" =
    some ((rest.map Sample.throughput).foldl Quantity.lesser first.throughput)
  max : numberIn? timelineHeader row "max" =
    some ((rest.map Sample.throughput).foldl Quantity.greater first.throughput)
  tracking : numberIn? timelineHeader row "tracking_prob" =
    some (Float.ofNat ((first :: rest).countP Sample.tracking) /
      Float.ofNat (first :: rest).length)
  repartitioning : numberIn? timelineHeader row "repartitioning_prob" =
    some (Float.ofNat ((first :: rest).countP Sample.repartitioning) /
      Float.ofNat (first :: rest).length)
  storageType : textIn? timelineHeader row "storage_type" = some k.storageType
  partitions : wholeIn? timelineHeader row "partitions" = some k.partitions
  paths : wholeIn? timelineHeader row "paths" = some k.paths
  interval : wholeIn? timelineHeader row "interval" = some k.interval
  label : textIn? timelineHeader row "line_label" = some k.lineLabel

/-- The row of the samples of a bucket is read as such a row. -/
lemma isChartRow_chartRow (k : ConfigKey) (b : TimeBucket) (first : Sample Float)
    (rest : List (Sample Float)) : IsChartRow k b first rest (chartRow k b (first :: rest)) where
  length_eq := rfl
  elapsed := numberIn?_of_textIn? rfl
  mean := numberIn?_of_textIn? rfl
  min := numberIn?_of_textIn? rfl
  max := numberIn?_of_textIn? rfl
  tracking := numberIn?_of_textIn? rfl
  repartitioning := numberIn?_of_textIn? rfl
  storageType := rfl
  partitions := wholeIn?_of_textIn? rfl
  paths := wholeIn?_of_textIn? rfl
  interval := wholeIn?_of_textIn? rfl
  label := rfl

/-- The row of the statistics of a bucket is the row of its samples. -/
lemma timelineRow_ofSamples? {k : ConfigKey} {b : TimeBucket} {samples : List (Sample Float)}
    {stats : BucketStats Float} (h : BucketStats.ofSamples? samples = some stats) :
    timelineRow k b stats = chartRow k b samples := by
  cases samples with
  | nil => simp [BucketStats.ofSamples?] at h
  | cons first rest =>
    rw [BucketStats.ofSamples?, Option.some.injEq, BucketStats.ofSamples,
      BucketStats.foldl_add] at h
    subst h
    simp only [timelineRow, chartRow, BucketStats.mean, BucketStats.trackingShare,
      BucketStats.repartitioningShare, BucketStats.share, BucketStats.single, List.length_cons,
      List.countP_cons, toNat_eq_ite, Nat.add_comm 1, Nat.add_comm (if _ then 1 else 0)]
    rfl

/-- The buckets that samples fall into, in ascending order. -/
def bucketsOf (samples : List (Sample Float)) : List TimeBucket :=
  (Series.ofSamples samples).keys

/-- The rows of a series are those of its buckets. -/
lemma timelineRows_ofSamples (k : ConfigKey) (samples : List (Sample Float)) :
    timelineRows k (Series.ofSamples samples) =
      (bucketsOf samples).map fun b => chartRow k b (samples.filter fun s => s.bucket = b) := by
  rw [timelineRows, bucketsOf, Keyed.keys, List.map_map]
  refine List.map_congr_left fun entry hentry => ?_
  exact timelineRow_ofSamples? (Series.mem_entries_ofSamples.1 hentry)

/-! ## Charts -/

/-- The charts of a list of repetitions: one chart for each workload, engine and number of workers
that has samples, in ascending order; in it each of its configurations with samples once, in
ascending order; and of each configuration the buckets that its samples fall into, in ascending
order. -/
structure Charts (results : List (ConfigKey × List (Sample Float))) (charts : List ChartKey)
    (configs : ChartKey → List ConfigKey) (buckets : ConfigKey → List TimeBucket) : Prop where
  ascending : charts.Pairwise fun g g' => compare g g' = .lt
  mem_iff : ∀ g, g ∈ charts ↔ ∃ result ∈ results, result.2 ≠ [] ∧ result.1.chartKey = g
  configs_ascending : ∀ g, (configs g).Pairwise fun a b => compare a b = .lt
  mem_configs_iff : ∀ g k,
    k ∈ configs g ↔ (∃ result ∈ results, result.2 ≠ [] ∧ result.1 = k) ∧ k.chartKey = g
  buckets_ascending : ∀ k, (buckets k).Pairwise fun b b' => b.ticks < b'.ticks
  mem_buckets_iff : ∀ k b, b ∈ buckets k ↔ ∃ s ∈ samplesOf k results, s.bucket = b

/-- The charts that there are samples for, in ascending order. -/
def chartsOf (runs : List (ConfigKey × List (Sample Float))) : List ChartKey :=
  (Keyed.groupOn (fun entry : ConfigKey × Series Float => entry.1.chartKey)
    (TimelineTally.ofRuns runs).entries).keys

/-- The configurations of a chart that there are samples for, in ascending order. -/
def chartConfigs (runs : List (ConfigKey × List (Sample Float))) (g : ChartKey) :
    List ConfigKey :=
  (TimelineTally.ofRuns runs).keys.filter fun k => k.chartKey = g

variable {runs : List (ConfigKey × List (Sample Float))} {g : ChartKey} {k : ConfigKey}

lemma mem_chartConfigs :
    k ∈ chartConfigs runs g ↔ (∃ run ∈ runs, run.2 ≠ [] ∧ run.1 = k) ∧ k.chartKey = g := by
  rw [chartConfigs, List.mem_filter, TimelineTally.mem_keys_ofRuns, decide_eq_true_eq]

lemma mem_chartsOf : g ∈ chartsOf runs ↔ ∃ k, k ∈ chartConfigs runs g := by
  rw [chartsOf, Keyed.mem_keys_groupOn_entries]
  simp only [chartConfigs, List.mem_filter, decide_eq_true_eq]

lemma mem_bucketsOf {samples : List (Sample Float)} {b : TimeBucket} :
    b ∈ bucketsOf samples ↔ ∃ s ∈ samples, s.bucket = b :=
  Series.mem_keys_ofSamples

/-- The charts of a tally are those of the repetitions. -/
lemma charts_ofRuns (runs : List (ConfigKey × List (Sample Float))) :
    Charts runs (chartsOf runs) (chartConfigs runs) fun k => bucketsOf (samplesOf k runs) where
  ascending := Keyed.keys_ascending _
  mem_iff g := by
    rw [mem_chartsOf]
    constructor
    · rintro ⟨k, hk⟩
      obtain ⟨⟨run, hrun, hne, rfl⟩, hchart⟩ := mem_chartConfigs.1 hk
      exact ⟨run, hrun, hne, hchart⟩
    · rintro ⟨run, hrun, hne, hchart⟩
      exact ⟨run.1, mem_chartConfigs.2 ⟨⟨run, hrun, hne, rfl⟩, hchart⟩⟩
  configs_ascending g := (Keyed.keys_ascending _).filter _
  mem_configs_iff _ _ := mem_chartConfigs
  buckets_ascending k := (Keyed.keys_ascending _).imp fun {b b'} h => by
    exact Std.compare_eq_lt.1 h
  mem_buckets_iff _ _ := mem_bucketsOf

/-- The charts depend on the repetitions of each configuration only. -/
lemma Charts.of_valuesOf {results : List (ConfigKey × List (Sample Float))}
    {charts : List ChartKey} {configs : ChartKey → List ConfigKey}
    {buckets : ConfigKey → List TimeBucket} (h : Charts runs charts configs buckets)
    (hvalues : ∀ k, valuesOf k runs = valuesOf k results) :
    Charts results charts configs buckets := by
  have hmem : ∀ run, run ∈ runs ↔ run ∈ results := fun run => by
    rw [← mem_valuesOf (k := run.1), hvalues, mem_valuesOf]
  refine ⟨h.ascending, fun g => ?_, h.configs_ascending, fun g k => ?_, h.buckets_ascending,
    fun k b => ?_⟩
  · simp only [h.mem_iff, hmem]
  · simp only [h.mem_configs_iff, hmem]
  · simp only [h.mem_buckets_iff, samplesOf, hvalues]

/-- **The charts of a list of repetitions.** Each chart has the rows of its configurations one after
another, and each configuration one row for each of its buckets. No chart is left out for lack of
rows. -/
lemma timelineSheets_ofRuns (runs : List (ConfigKey × List (Sample Float))) :
    timelineSheets (TimelineTally.ofRuns runs) =
      (chartsOf runs).map fun g => {
        name := g.text
        header := timelineHeader
        rows := (chartConfigs runs g).flatMap fun k =>
          (bucketsOf (samplesOf k runs)).map fun b =>
            chartRow k b ((samplesOf k runs).filter fun s => s.bucket = b) } := by
  rw [timelineSheets_eq (TimelineTally.filled_ofRuns runs), chartGroups,
    Keyed.entries_groupOn_entries (TimelineTally.entries_ofRuns runs), ← chartsOf, List.map_map]
  refine List.map_congr_left fun g _ => ?_
  simp only [Function.comp_apply, chartSheet, List.flatMap_map, timelineRows_ofSamples]
  rfl

end BenchTally
