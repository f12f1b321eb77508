import BenchTally.Result.Summary
import BenchTally.Run.Key
import BenchTally.Stats.Keyed
import BenchTally.Stats.Mean

set_option autoImplicit false
set_option relaxedAutoImplicit false

/-!
# Summaries of configurations

The totals of the repetitions of each configuration, reduced to their means.

## Main definitions

* `SummaryStats` — the means of one configuration.
* `SummaryTally` — the means of all configurations.
* `SummaryTally.add` — one more run.
* `SummaryTally.ofRuns` — the means of a list of runs.
-/

namespace BenchTally

/-- The means over the repetitions of a configuration. -/
structure SummaryStats where
  /-- The operations per second. -/
  opsPerSecond : Mean Float
  /-- The makespan in seconds. -/
  makespan : Mean Float

namespace SummaryStats

/-- The means of no runs. -/
def empty : SummaryStats :=
  ⟨.empty, .empty⟩

/-- The means with one more run. -/
def add (s : SummaryStats) (run : RunSummary) : SummaryStats :=
  ⟨s.opsPerSecond.add run.opsPerSecond, s.makespan.add run.makespan⟩

/-- The means of a list of runs, taken in its order. -/
def ofList (runs : List RunSummary) : SummaryStats :=
  runs.foldl add empty

/-- The means of a list of runs are those of its rates and of its makespans. -/
theorem ofList_eq (runs : List RunSummary) :
    ofList runs =
      ⟨.ofList (runs.map RunSummary.opsPerSecond), .ofList (runs.map RunSummary.makespan)⟩ := by
  suffices h : ∀ s : SummaryStats, runs.foldl add s =
      ⟨(runs.map RunSummary.opsPerSecond).foldl Mean.add s.opsPerSecond,
        (runs.map RunSummary.makespan).foldl Mean.add s.makespan⟩ from h empty
  induction runs with
  | nil => exact fun _ => rfl
  | cons r rs ih => exact fun s => ih (s.add r)

end SummaryStats

/-- The means of all configurations, in the order of the configurations. -/
abbrev SummaryTally := Keyed ConfigKey SummaryStats

namespace SummaryTally

/-- The means with one more run of a configuration. -/
def add (tally : SummaryTally) (key : ConfigKey) (run : RunSummary) : SummaryTally :=
  tally.alter key fun stats => (stats.getD .empty).add run

/-- The means of a list of runs, taken in its order. -/
def ofRuns (runs : List (ConfigKey × RunSummary)) : SummaryTally :=
  runs.foldl (fun tally run => add tally run.1 run.2) .empty

/-- A run changes the means of its own configuration only. -/
theorem get?_add (tally : SummaryTally) (key k : ConfigKey) (run : RunSummary) :
    (add tally key run).get? k =
      if k = key then some (((tally.get? key).getD .empty).add run) else tally.get? k :=
  Keyed.get?_alter tally key k _

end SummaryTally

end BenchTally
