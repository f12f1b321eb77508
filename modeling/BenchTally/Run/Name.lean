import BenchTally.Run.Key
import BenchTally.Text.Quoted
import BenchTally.Text.Split

set_option autoImplicit false
set_option relaxedAutoImplicit false

/-!
# File names of runs

The file of a run is named after it: the seven fields of the configuration, the repetition in
parentheses, and an extension, as in `ycsb_a__1__engine__1__tkrzw_tree__1__0(1).csv`.

## Main definitions

* `NameError` — why a name is not that of a run.
* `ConfigKey.ofText` — the configuration that a text names.
* `Run.ofName` — the run that a file name names; the extension may be absent.

## Implementation notes

Three steps can fail, in this order: finding the repetition, counting the fields, and reading the
numbers from left to right. A field's number must be in canonical form, so that no configuration
has two names; the repetition may have leading zeros.
-/

namespace BenchTally

/-- The parts of a name that are numbers. -/
inductive NumberField where
  /-- The workers of the configuration. -/
  | workers
  /-- The partitions of the configuration. -/
  | partitions
  /-- The paths of the configuration. -/
  | paths
  /-- The interval of the configuration. -/
  | interval
  /-- The repetition of the run. -/
  | repetition
  deriving DecidableEq, Repr

/-- The word for a part in messages. -/
def NumberField.label : NumberField → String
  | .workers => "workers"
  | .partitions => "partitions"
  | .paths => "paths"
  | .interval => "interval"
  | .repetition => "repetition"

/-- Why a file name is not that of a run. -/
inductive NameError where
  /-- There is no number in parentheses at the end. -/
  | missingRepetition
  /-- There are not seven fields. -/
  | fieldCount (found : Nat)
  /-- A part is not a number of 32 bits in the required form. -/
  | invalidNumber (field : NumberField) (value : List Char)
  deriving DecidableEq, Repr

/-- The message of a refused name. -/
def NameError.message : NameError → String
  | .missingRepetition => "File name has no trailing repetition suffix such as `(1)`"
  | .fieldCount found => "Expected 7 `__` separated fields, found " ++ toString found
  | .invalidNumber field value =>
    "Field `" ++ field.label ++ "` is not an integer: " ++ Text.quoted value

/-! ## Configurations -/

/-- The number of a field, in canonical form. -/
def readField (field : NumberField) (value : List Char) : Except NameError UInt32 :=
  match Decimal.ofCanonical? value with
  | some n => .ok n
  | none => .error (.invalidNumber field value)

/-- The configuration that a text names. -/
def ConfigKey.ofText (s : List Char) : Except NameError ConfigKey :=
  match Text.splitOnPair '_' s with
  | [workload, workers, storageType, partitions, storageEngine, paths, interval] => do
    let workers ← readField .workers workers
    let partitions ← readField .partitions partitions
    let paths ← readField .paths paths
    let interval ← readField .interval interval
    return {
      workload := String.ofList workload
      workers
      storageType := String.ofList storageType
      partitions
      storageEngine := String.ofList storageEngine
      paths
      interval }
  | fields => .error (.fieldCount fields.length)

/-! ## Runs -/

namespace Run

/-- A file name without its extension, that is, up to its last dot. -/
def stem (name : List Char) : List Char :=
  match Text.splitLast? '.' name with
  | some (before, _) => before
  | none => name

/-- The two parts of a name that ends with something in parentheses: what stands before the last
opening parenthesis, and what stands between it and the closing one at the end. -/
def splitParenthesis? (s : List Char) : Option (List Char × List Char) :=
  if s.getLast? = some ')' then Text.splitLast? '(' s.dropLast else none

/-- The name of the configuration and the repetition that follows it. -/
def splitRepetition (s : List Char) : Except NameError (List Char × UInt32) :=
  match splitParenthesis? s with
  | none => .error .missingRepetition
  | some (name, digits) =>
    if digits.isEmpty || !digits.all Char.isDigit then .error .missingRepetition
    else
      match Decimal.ofDigits? digits with
      | some n => .ok (name, n)
      | none => .error (.invalidNumber .repetition digits)

/-- The run that a file name names. -/
def ofName (name : List Char) : Except NameError Run := do
  let (config, repetition) ← splitRepetition (stem name)
  return ⟨← ConfigKey.ofText config, repetition⟩

end Run

/-- A name with an extension, whose repetition has a leading zero. -/
example : (Run.ofName "a__1__b__2__c__3__0(07).csv".toList).toOption =
    some ⟨⟨"a", 1, "b", 2, "c", 3, 0⟩, 7⟩ := by
  decide

/-- A name whose last field has a leading zero. -/
example : (Run.ofName "a__1__b__2__c__3__00(7)".toList).toOption = none := by
  decide

end BenchTally
