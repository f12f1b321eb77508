import BenchTally.Decimal.Layout
import BenchTally.Text.Quoted

set_option autoImplicit false
set_option relaxedAutoImplicit false

/-!
# Unusable result files

## Main definitions

* `ContentError` — why the content of a result file cannot be used.
* `ContentError.message` — its text.
-/

namespace BenchTally

/-- Why the content of a result file cannot be used. -/
inductive ContentError where
  /-- The file cannot be read, or is not text. -/
  | unreadable
  /-- The table cannot be read, or a record of it is not text. -/
  | malformedRecord
  /-- There is no line to take the totals from. -/
  | tooFewLines
  /-- The line of the totals has a single field. -/
  | tooFewFields
  /-- A required column is not in the header. -/
  | missingColumn (column : String)
  /-- A record, counted from zero, ends before a required column. -/
  | missingValue (column : String) (record : Nat)
  /-- A value is not a number. -/
  | invalidNumber (field : String) (value : List Char)
  /-- The total time is zero, negative or not a number. -/
  | nonPositiveElapsed (ms : Float)
  deriving DecidableEq

/-- The message of a refused content. -/
def ContentError.message : ContentError → String
  | .unreadable => "Failed to read result file"
  | .malformedRecord => "Failed to read csv record"
  | .tooFewLines => "Result file has too few lines"
  | .tooFewFields => "Last line has fewer than 2 comma separated fields"
  | .missingColumn column => "Column `" ++ column ++ "` is missing from the header"
  | .missingValue column record =>
    "Record " ++ toString record ++ " has no value for `" ++ column ++ "`"
  | .invalidNumber field value =>
    "Field `" ++ field ++ "` is not a number: " ++ Text.quoted value
  | .nonPositiveElapsed ms =>
    "Elapsed time must be positive, got " ++ Decimal.Layout.message.write ms ++ " ms"

end BenchTally
