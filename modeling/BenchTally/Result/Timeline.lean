import BenchTally.Result.Bucket
import BenchTally.Result.Grouped
import BenchTally.Stats.Quantity
import BenchTally.Table.Reader

set_option autoImplicit false
set_option relaxedAutoImplicit false

/-!
# Throughput over time

A result file with a header lists the elapsed milliseconds and the executed operations of a run
sample by sample, and may flag samples in which tracking or repartitioning was active. Two
consecutive records between which time advances give the throughput of the time between them.

## Main definitions

* `Reading` — the values of a record.
* `Sample` — the throughput at a time.
* `Columns.locate` — the columns of a header.
* `Timeline.readings` — the values of all records of a table, or the first fault.
* `Timeline.samples` — the samples of consecutive readings.
* `Timeline.ofBytes` — the samples of a file's content.

## Implementation notes

The number of a record counts the records after the header. A column that occurs twice in the
header is the later one.
-/

namespace BenchTally

/-- The values of a record. -/
structure Reading (α : Type) where
  /-- The elapsed milliseconds. -/
  elapsedMs : α
  /-- The executed operations. -/
  executed : α
  /-- Whether tracking is active. -/
  tracking : Bool
  /-- Whether repartitioning is active. -/
  repartitioning : Bool
  deriving DecidableEq, Repr

/-- The throughput between a record and the one before it. -/
structure Sample (α : Type) where
  /-- The time of the record. -/
  bucket : TimeBucket
  /-- The operations per second. -/
  throughput : α
  /-- Whether tracking is active. -/
  tracking : Bool
  /-- Whether repartitioning is active. -/
  repartitioning : Bool
  deriving DecidableEq, Repr

/-! ## Columns -/

/-- The name of the column of elapsed milliseconds. -/
def elapsedColumn : String := "elapsed_time_ms"

/-- The name of the column of executed operations. -/
def executedColumn : String := "executed_count"

/-- The name of the column that flags tracking. -/
def trackingColumn : String := "Tracking"

/-- The name of the column that flags repartitioning. -/
def repartitioningColumn : String := "Repartitioning"

/-- The positions of the columns in a record. -/
structure Columns where
  /-- The column of elapsed milliseconds. -/
  elapsed : Nat
  /-- The column of executed operations. -/
  executed : Nat
  /-- The column that flags tracking, if there is one. -/
  tracking : Option Nat
  /-- The column that flags repartitioning, if there is one. -/
  repartitioning : Option Nat
  deriving DecidableEq, Repr

/-- The position of the last field that equals a name. -/
def lastPosition? (name : String) : List String → Option Nat
  | [] => none
  | field :: rest =>
    match lastPosition? name rest with
    | some i => some (i + 1)
    | none => if field = name then some 0 else none

/-- The position of a column that has to be there. -/
def requireColumn (header : List String) (name : String) : Except ContentError Nat :=
  match lastPosition? name header with
  | some i => .ok i
  | none => .error (.missingColumn name)

/-- The columns of a header; those of the flags may be absent. -/
def Columns.locate (header : List String) : Except ContentError Columns := do
  let elapsed ← requireColumn header elapsedColumn
  let executed ← requireColumn header executedColumn
  return {
    elapsed
    executed
    tracking := lastPosition? trackingColumn header
    repartitioning := lastPosition? repartitioningColumn header }

/-! ## Records -/

/-- The number in a column that a record has to reach. -/
def requireNumber {α : Type} (number : List Char → Option α) (record : List String) (index : Nat)
    (column : String) (count : Nat) : Except ContentError α :=
  match record[index]? with
  | none => .error (.missingValue column count)
  | some value => readGrouped number column value.toList

/-- Whether a value marks an active flag, which an `x` of either case does. -/
def isMark (value : String) : Bool :=
  let mark := Text.trim value.toList
  mark == ['x'] || mark == ['X']

/-- Whether a flag is active; a column that is absent, or that the record does not reach, is
inactive. -/
def flagAt (record : List String) (index : Option Nat) : Bool :=
  ((index.bind (record[·]?)).map isMark).getD false

/-- The values of the record with the given number. -/
def Reading.ofRecord {α : Type} (number : List Char → Option α) (columns : Columns)
    (record : List String) (count : Nat) : Except ContentError (Reading α) := do
  let elapsedMs ← requireNumber number record columns.elapsed elapsedColumn count
  let executed ← requireNumber number record columns.executed executedColumn count
  return {
    elapsedMs
    executed
    tracking := flagAt record columns.tracking
    repartitioning := flagAt record columns.repartitioning }

namespace Timeline

/-- A record as texts; the record may not be text. -/
def requireText : Option (List String) → Except ContentError (List String)
  | some record => .ok record
  | none => .error .malformedRecord

/-- The values of all records after a header, or the first fault in the order of reading. A record
that is not text is `none`. -/
def readings {α : Type} (number : List Char → Option α) (header : Option (List String))
    (records : List (Option (List String))) : Except ContentError (List (Reading α)) := do
  let columns ← Columns.locate (← requireText header)
  records.zipIdx.mapM fun (record, count) => do
    Reading.ofRecord number columns (← requireText record) count

variable {α : Type} [Quantity α]

/-- The seconds between two readings. -/
def deltaSeconds (earlier later : Reading α) : α :=
  (later.elapsedMs - earlier.elapsedMs) / Quantity.ofNat 1000

/-- The sample between two readings, if time advances from one to the other. -/
def sample? (bucket : α → TimeBucket) (earlier later : Reading α) : Option (Sample α) :=
  let seconds := deltaSeconds earlier later
  if Quantity.less (Quantity.ofNat 0) seconds then
    some {
      bucket := bucket later.elapsedMs
      throughput := (later.executed - earlier.executed) / seconds
      tracking := later.tracking
      repartitioning := later.repartitioning }
  else none

/-- The samples between consecutive readings. -/
def samples (bucket : α → TimeBucket) (rs : List (Reading α)) : List (Sample α) :=
  (rs.zip rs.tail).filterMap fun (earlier, later) => sample? bucket earlier later

/-- The samples of a table with the given header and records. -/
def ofRecords (number : List Char → Option α) (bucket : α → TimeBucket)
    (header : Option (List String)) (records : List (Option (List String))) :
    Except ContentError (List (Sample α)) :=
  (readings number header records).map (samples bucket)

/-- The samples of a result file. An empty file has an empty header. -/
def ofBytes (content : Bytes) : Except ContentError (List (Sample Float)) :=
  let table := Table.read content
  ofRecords Decimal.read? TimeBucket.ofMillis (Table.decodeRecord? (table.headD []))
    (table.tail.map Table.decodeRecord?)

end Timeline

end BenchTally
