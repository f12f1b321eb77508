import BenchTally.Decimal.Reader
import BenchTally.Result.Error
import BenchTally.Text.Blank

set_option autoImplicit false
set_option relaxedAutoImplicit false

/-!
# Numbers with thousands separators

Result files group the digits of a number with dots: `12.345` is twelve thousand three hundred and
forty-five. A dot never stands for a decimal point, so that `1.5` is fifteen.

## Main definitions

* `ungroup` — a text without its dots and the blanks at its ends.
* `readGrouped` — the number of a text with separators, for any way to read plain numbers.
-/

namespace BenchTally

/-- A text without dots, and then without the blanks at its ends. -/
def ungroup (value : List Char) : List Char :=
  Text.trim (value.filter (· ≠ '.'))

/-- The number that a field's value denotes once its separators are dropped. The error shows the
value as it was found. -/
def readGrouped {α : Type} (number : List Char → Option α) (field : String) (value : List Char) :
    Except ContentError α :=
  match number (ungroup value) with
  | some x => .ok x
  | none => .error (.invalidNumber field value)

end BenchTally
