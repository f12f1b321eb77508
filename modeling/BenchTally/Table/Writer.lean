import BenchTally.Table.Reader

set_option autoImplicit false
set_option relaxedAutoImplicit false

/-!
# Writing tables

Fields stand between commas, and each record ends with a line feed. A field goes between quotes if
it holds a comma, a quote or a byte that ends a record; a quote of the field is then written twice.
A record of one empty field is a pair of quotes, as an empty line would be no record.

## Main definitions

* `Table.writeField`, `Table.writeRecord`, `Table.write` — the written forms.
-/

namespace BenchTally.Table

/-- The bytes that a field can hold only between quotes. -/
def needsQuotes (b : UInt8) : Bool :=
  b == comma || b == quote || endsRecord b

/-- The bytes of a field between quotes. -/
def doubleQuotes (field : Bytes) : Bytes :=
  field.flatMap fun b => if b = quote then [quote, quote] else [b]

/-- A field as it is written. -/
def writeField (field : Bytes) : Bytes :=
  if field.any needsQuotes then quote :: doubleQuotes field ++ [quote] else field

/-- A record as it is written. -/
def writeRecord (record : List Bytes) : Bytes :=
  if record = [[]] then [quote, quote, lineFeed]
  else [comma].intercalate (record.map writeField) ++ [lineFeed]

/-- A table as it is written. -/
def write (records : List (List Bytes)) : Bytes :=
  records.flatMap writeRecord

end BenchTally.Table
