import BenchTally.Output.SummarySheets
import BenchTally.Proofs.Decimal.ShortestText

set_option autoImplicit false
set_option relaxedAutoImplicit false

/-!
# Reading cells

A reader of a table finds a cell by the name of its column. What it finds in a column of numbers it
reads as the number that was put there.

## Main definitions

* `textIn?` — the cell of a row in a column.
* `numberIn?`, `wholeIn?` — the double and the whole number that the cell is read as.

## Main results

* `read?_floatCell`, `ofCanonical?_natCell` — numbers are read back from their cells.
-/

namespace BenchTally

/-! ## Cells of numbers -/

/-- **The cell of a double is read as the double**, whatever it is. -/
theorem read?_floatCell (x : Float) : Decimal.read? (floatCell x).toList = some x :=
  Decimal.read?_write_tableCell x

/-- **The cell of a whole number is read as the number.** -/
theorem ofCanonical?_natCell (n : UInt32) : Decimal.ofCanonical? (natCell n).toList = some n := by
  rw [natCell, String.toList_ofList, Decimal.ofCanonical?_eq_some_iff]

/-! ## Cells in columns -/

/-- The cell of a row in the column of a name. -/
def textIn? (header row : List String) (column : String) : Option String :=
  row[header.idxOf column]?

/-- The double in a column. -/
def numberIn? (header row : List String) (column : String) : Option Float :=
  (textIn? header row column).bind fun cell => Decimal.read? cell.toList

/-- The whole number in a column. -/
def wholeIn? (header row : List String) (column : String) : Option UInt32 :=
  (textIn? header row column).bind fun cell => Decimal.ofCanonical? cell.toList

variable {header row : List String} {column : String}

lemma numberIn?_of_textIn? {x : Float} (h : textIn? header row column = some (floatCell x)) :
    numberIn? header row column = some x := by
  rw [numberIn?, h, Option.bind_some, read?_floatCell]

lemma wholeIn?_of_textIn? {n : UInt32} (h : textIn? header row column = some (natCell n)) :
    wholeIn? header row column = some n := by
  rw [wholeIn?, h, Option.bind_some, ofCanonical?_natCell]

end BenchTally
