import BenchTally.Output.SummarySheets
import BenchTally.Stats.TimelineTally

set_option autoImplicit false
set_option relaxedAutoImplicit false

/-!
# Sheets of throughput over time

One sheet for each workload, engine and number of workers. Its configurations follow each other,
and each has a row for each of its time buckets, in the order of time.

## Main definitions

* `timelineSheets` — the sheets.
-/

namespace BenchTally

/-- The names of the columns. -/
def timelineHeader : List String :=
  ["elapsed_s", "mean", "min", "max", "tracking_prob", "repartitioning_prob", "storage_type",
    "partitions", "paths", "interval", "line_label"]

/-- The row of a time bucket of a configuration. -/
def timelineRow (key : ConfigKey) (bucket : TimeBucket) (stats : BucketStats Float) :
    List String :=
  [floatCell bucket.seconds, floatCell stats.mean, floatCell stats.min, floatCell stats.max,
    floatCell stats.trackingShare, floatCell stats.repartitioningShare, key.storageType,
    natCell key.partitions, natCell key.paths, natCell key.interval, key.lineLabel]

/-- The rows of a configuration. -/
def timelineRows (key : ConfigKey) (series : Series Float) : List (List String) :=
  series.entries.map fun (bucket, stats) => timelineRow key bucket stats

/-- The sheets of all charts that have rows. -/
def timelineSheets (tally : TimelineTally Float) : List Sheet :=
  let charts := Keyed.groupOn (fun entry : ConfigKey × Series Float => entry.1.chartKey)
    tally.entries
  let sheets := charts.entries.map fun (key, group) => {
    name := key.text
    header := timelineHeader
    rows := group.flatMap fun (key, series) => timelineRows key series : Sheet }
  sheets.filter fun sheet => !sheet.rows.isEmpty

end BenchTally
