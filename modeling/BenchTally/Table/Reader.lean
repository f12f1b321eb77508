import BenchTally.Text.Utf8

set_option autoImplicit false
set_option relaxedAutoImplicit false

/-!
# Reading tables

A table is a sequence of records, a record a sequence of fields. Fields end at a comma; a record
ends at a line feed or a carriage return, and lines without anything are no records. A field that
starts with a quote holds everything up to the next quote that stands alone, two quotes in a row
being one quote of the field; what follows the closing quote up to the comma belongs to the field
as it is. A quote elsewhere is an ordinary character, and a quote that is never closed reaches to
the end.

The records of a table may differ in length. Reading happens on bytes, so that a record that is
not text does no harm to those before it.

## Main definitions

* `Table.Cursor` — a position in a table, with the fields and records before it.
* `Table.Cursor.step` — one byte further.
* `Table.read` — the records of a table.
* `Table.decodeRecord?` — the fields of a record as texts.
-/

namespace BenchTally.Table

/-- The byte between two fields. -/
def comma : UInt8 := 0x2c

/-- The byte around a quoted field. -/
def quote : UInt8 := 0x22

/-- The line feed. -/
def lineFeed : UInt8 := 0x0a

/-- The carriage return. -/
def carriageReturn : UInt8 := 0x0d

/-- The bytes that end a record. -/
def endsRecord (b : UInt8) : Bool :=
  b == lineFeed || b == carriageReturn

/-- Where in a table the next byte stands. -/
inductive Place where
  /-- Where a record may start. -/
  | recordStart
  /-- Where a further field of a record starts. -/
  | fieldStart
  /-- Inside a field, outside quotes. -/
  | bare
  /-- Inside quotes. -/
  | quoted
  /-- After a quote that may close the field or be the first of two. -/
  | afterQuote
  deriving DecidableEq, Repr

/-- A position in a table, with what was read before it. All three lists have the latest element
first. -/
structure Cursor where
  /-- Where the next byte stands. -/
  place : Place
  /-- The bytes of the field so far. -/
  field : Bytes
  /-- The fields of the record so far. -/
  fields : List Bytes
  /-- The records so far. -/
  records : List (List Bytes)
  deriving DecidableEq, Repr

namespace Cursor

/-- The start of a table. -/
def start : Cursor :=
  ⟨.recordStart, [], [], []⟩

/-- The byte belongs to the field. -/
def push (c : Cursor) (place : Place) (b : UInt8) : Cursor :=
  { c with place, field := b :: c.field }

/-- The field is complete. -/
def closeField (c : Cursor) : Cursor :=
  { c with place := .fieldStart, field := [], fields := c.field.reverse :: c.fields }

/-- The field and with it the record is complete. -/
def closeRecord (c : Cursor) : Cursor :=
  ⟨.recordStart, [], [], (c.field.reverse :: c.fields).reverse :: c.records⟩

/-- A byte outside quotes: it ends the field, ends the record, or belongs to the field. -/
def stepBare (c : Cursor) (b : UInt8) : Cursor :=
  if b = comma then c.closeField
  else if endsRecord b then c.closeRecord
  else c.push .bare b

/-- One byte further. -/
def step (c : Cursor) (b : UInt8) : Cursor :=
  match c.place with
  | .recordStart =>
    if endsRecord b then c
    else if b = quote then { c with place := .quoted }
    else c.stepBare b
  | .fieldStart => if b = quote then { c with place := .quoted } else c.stepBare b
  | .bare => c.stepBare b
  | .quoted => if b = quote then { c with place := .afterQuote } else c.push .quoted b
  | .afterQuote => if b = quote then c.push .quoted b else c.stepBare b

/-- All records, once the table is at its end: a record that was begun is complete. -/
def finish (c : Cursor) : List (List Bytes) :=
  match c.place with
  | .recordStart => c.records.reverse
  | _ => c.closeRecord.records.reverse

end Cursor

/-- The mark that may stand at the start of a text to tell its encoding. -/
def byteOrderMark : Bytes := [0xef, 0xbb, 0xbf]

/-- The records of a table. A byte order mark at the start does not count. -/
def read (bs : Bytes) : List (List Bytes) :=
  let body := if byteOrderMark.isPrefixOf bs then bs.drop byteOrderMark.length else bs
  (body.foldl Cursor.step Cursor.start).finish

/-- The fields of a record as texts, if each of them is text. -/
def decodeRecord? (record : List Bytes) : Option (List String) :=
  record.mapM Text.decode?

end BenchTally.Table
