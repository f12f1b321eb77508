import BenchTally.Result.Grouped
import BenchTally.Text.Split

set_option autoImplicit false
set_option relaxedAutoImplicit false

/-!
# Totals of a run

A result file lists the state of a run line by line, elapsed milliseconds and executed operations
first; its last line holds the totals.

## Main definitions

* `RunSummary` — the totals, with the rate and the makespan that follow from them.
* `RunSummary.dataLine` — the line that holds the totals.
* `RunSummary.ofText` — the totals of a file's text.

## Implementation notes

The last line may be blank, as a blank line may follow the last sample; the line before it then
counts, provided that it is not the first line of the file.
-/

namespace BenchTally

/-- The totals of a run. -/
structure RunSummary where
  /-- The time that the run took, in milliseconds. -/
  elapsedMs : Float
  /-- The number of executed operations. -/
  executed : Float

namespace RunSummary

/-- The time that the run took, in seconds. -/
def makespan (r : RunSummary) : Float :=
  r.elapsedMs / 1000.0

/-- The executed operations per second. -/
def opsPerSecond (r : RunSummary) : Float :=
  r.executed / r.makespan

/-- The line that holds the totals, without the blanks at its ends. -/
def dataLine (lines : List (List Char)) : Except ContentError (List Char) :=
  match lines.reverse with
  | [] | [_] => .error .tooFewLines
  | last :: secondLast :: earlier =>
    if !Text.allBlank last then .ok (Text.trim last)
    else if earlier.isEmpty then .error .tooFewLines
    else .ok (Text.trim secondLast)

/-- The totals of the line that holds them. -/
def ofLine (line : List Char) : Except ContentError RunSummary :=
  match Text.splitOn ',' line with
  | elapsed :: executed :: _ => do
    let elapsedMs ← readGrouped Decimal.read? "elapsed_ms" elapsed
    let executed ← readGrouped Decimal.read? "executed_count" executed
    if 0.0 < elapsedMs then .ok ⟨elapsedMs, executed⟩
    else .error (.nonPositiveElapsed elapsedMs)
  | _ => .error .tooFewFields

/-- The totals that the text of a result file ends with. -/
def ofText (content : List Char) : Except ContentError RunSummary := do
  ofLine (← dataLine (Text.lines content))

end RunSummary

end BenchTally
