import BenchTally.Output.Sheet
import BenchTally.Stats.SummaryTally

set_option autoImplicit false
set_option relaxedAutoImplicit false

/-!
# Sheets of summaries

One sheet for each workload and engine, with a row for each configuration: the seven fields of the
configuration, and the mean of one measure over its repetitions.

## Main definitions

* `summaryGroups` — the configurations of each sheet, in the order of their rows.
* `throughputSheets` — the sheets of the operations per second.
* `makespanSheets` — the sheets of the makespans.
-/

namespace BenchTally

/-- The text of a double in a cell. -/
def floatCell (x : Float) : String :=
  Decimal.Layout.tableCell.write x

/-- The text of a whole number in a cell. -/
def natCell (n : UInt32) : String :=
  String.ofList (Decimal.writeNat n)

/-- The names of the columns of a configuration. -/
def configHeader : List String :=
  ["workload", "workers", "storage_type", "partitions", "storage_engine", "paths", "interval"]

/-- The cells of a configuration. -/
def ConfigKey.cells (k : ConfigKey) : List String :=
  [k.workload, natCell k.workers, k.storageType, natCell k.partitions, k.storageEngine,
    natCell k.paths, natCell k.interval]

/-- The configurations of each sheet with their means, in the order of their rows. -/
def summaryGroups (tally : SummaryTally) : List (OutputKey × List (ConfigKey × SummaryStats)) :=
  (Keyed.groupOn (fun entry : ConfigKey × SummaryStats => entry.1.outputKey)
      tally.entries).entries.map
    fun (key, group) => (key, group.mergeSort fun a b => (ConfigKey.rowOrder a.1 b.1).isLE)

/-- The row of a configuration, if there is a mean. -/
def summaryRow? (measure : SummaryStats → Mean Float) (key : ConfigKey) (stats : SummaryStats) :
    Option (List String) :=
  (measure stats).value?.map fun value => key.cells ++ [floatCell value]

/-- The sheets of one measure. -/
def summarySheets (column : String) (measure : SummaryStats → Mean Float) (tally : SummaryTally) :
    List Sheet :=
  (summaryGroups tally).map fun (key, group) => {
    name := key.text
    header := configHeader ++ [column]
    rows := group.filterMap fun (key, stats) => summaryRow? measure key stats }

/-- The sheets of the operations per second. -/
def throughputSheets (tally : SummaryTally) : List Sheet :=
  summarySheets "ops_per_second" SummaryStats.opsPerSecond tally

/-- The sheets of the makespans. -/
def makespanSheets (tally : SummaryTally) : List Sheet :=
  summarySheets "makespan_s" SummaryStats.makespan tally

end BenchTally
