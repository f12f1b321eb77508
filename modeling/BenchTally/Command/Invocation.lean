import BenchTally.Analysis.OptionsFile
import BenchTally.Analysis.Report
import BenchTally.Command.Word

set_option autoImplicit false
set_option relaxedAutoImplicit false

/-!
# Command lines

A command line names the kind of analysis, may name the input and the output directory after it,
and may hold options on either side of that name. On one side an option stands once; of two on
different sides the one after the name counts.

A value is looked at only when the next option or directory is met, or at the end. So a word that
is no option is reported although the value before it is not allowed either, and what follows the
name of the analysis is looked at before the last value in front of it.

## Main definitions

* `Refusal` — why a command line does not ask for an analysis.
* `Side` — what stands on one side of the name of the analysis.
* `Invocation` — what a command line asks for.
* `Invocation.ofArguments` — the request of a command line.
-/

namespace BenchTally

/-- Why a command line does not ask for an analysis. -/
inductive Refusal where
  /-- It asks for help. -/
  | help
  /-- It asks for the version. -/
  | version
  /-- It is empty. -/
  | nothingGiven
  /-- It does not name the kind of analysis. -/
  | noVariant
  /-- A word stands where the kind of analysis is named, and is none. -/
  | unknownVariant
  /-- A word is not expected where it stands. -/
  | unexpectedWord
  /-- The value of an option or a directory is missing or empty. -/
  | invalidValue
  /-- An option stands twice on one side. -/
  | repeatedOption
  /-- An option that takes no value has one. -/
  | needlessValue
  deriving DecidableEq, Repr

/-- The kind of analysis with the given name. -/
def Variant.ofName? (name : String) : Option Variant :=
  if name = "throughput" then some .throughput
  else if name = "metrics" then some .metrics
  else if name = "timeline" then some .timeline
  else none

/-- The word that asks for help in the place of a kind of analysis. -/
def helpWord : String := "help"

/-! ## One side of a command line -/

/-- What takes a value. -/
inductive Slot where
  /-- The configuration file. -/
  | config
  /-- The pattern. -/
  | pattern
  /-- The input directory, and after it the output directory. -/
  | directory
  deriving DecidableEq, Repr

/-- What stands on one side of the name of the analysis. -/
structure Side where
  /-- The configuration file. -/
  config : Option String := none
  /-- The pattern. -/
  pattern : Option String := none
  /-- A file that cannot be used ends the analysis. -/
  strict : Bool := false
  /-- The directories, in order. -/
  directories : List String := []
  /-- What was met last and not looked at yet; its value may still be missing. -/
  pending : Option (Slot × Option String) := none
  deriving DecidableEq, Repr

namespace Side

/-- No option has been met. -/
def isEmpty (s : Side) : Bool :=
  s.config.isNone && s.pattern.isNone && !s.strict

/-- A value is still missing. -/
def waits (s : Side) : Bool :=
  match s.pending with
  | some (_, none) => true
  | _ => false

/-- The number of directories that have been met. -/
def directoryCount (s : Side) : Nat :=
  s.directories.length + if s.pending.any (·.1 = .directory) then 1 else 0

/-- Fills a slot. Only the pattern may be empty. -/
def fill (s : Side) (slot : Slot) (value : String) : Except Refusal Side :=
  match slot with
  | .config =>
    if s.config.isSome then .error .repeatedOption
    else if value.isEmpty then .error .invalidValue
    else .ok { s with config := some value }
  | .pattern =>
    if s.pattern.isSome then .error .repeatedOption else .ok { s with pattern := some value }
  | .directory =>
    if value.isEmpty then .error .invalidValue
    else .ok { s with directories := s.directories ++ [value] }

/-- Looks at what was met last. -/
def settle (s : Side) : Except Refusal Side :=
  match s.pending with
  | none => .ok s
  | some (_, none) => .error .invalidValue
  | some (slot, some value) => { s with pending := none }.fill slot value

/-- Meets an option that takes a value. An attached value is looked at immediately. -/
def takeOption (s : Side) (slot : Slot) : Option (List Char) → Except Refusal Side
  | none => do return { ← s.settle with pending := some (slot, none) }
  | some value => do (← s.settle).fill slot (String.ofList value)

/-- Meets an option that takes no value, and goes on as told. -/
def takeFlag (s : Side) (value : Option (List Char)) (next : Side → Except Refusal Side) :
    Except Refusal Side :=
  match value with
  | some _ => .error .needlessValue
  | none => do next (← s.settle)

/-- Meets an option with its full name. There is a version to ask for in front of the name of the
analysis alone. -/
def takeLong (s : Side) (front : Bool) (name : List Char) (value : Option (List Char)) :
    Except Refusal Side :=
  match String.ofList name with
  | "config" => s.takeOption .config value
  | "pattern" => s.takeOption .pattern value
  | "strict" =>
    s.takeFlag value fun s =>
      if s.strict then .error .repeatedOption else .ok { s with strict := true }
  | "help" => s.takeFlag value fun _ => .error .help
  | "version" =>
    if front then s.takeFlag value fun _ => .error .version else .error .unexpectedWord
  | _ => .error .unexpectedWord

/-- Meets the letters of options. All letters that there are end the command line, so the first
alone matters. -/
def takeShort (s : Side) (front : Bool) : List Char → Except Refusal Side
  | 'h' :: _ => s.takeFlag none fun _ => .error .help
  | 'V' :: _ =>
    if front then s.takeFlag none fun _ => .error .version else .error .unexpectedWord
  | _ => .error .unexpectedWord

/-- Meets a directory. There are two of them. -/
def takeDirectory (s : Side) (word : String) : Except Refusal Side :=
  if 2 ≤ s.directoryCount then .error .unexpectedWord
  else do return { ← s.settle with pending := some (.directory, some word) }

/-- Meets the value that is missing. -/
def takeValue (s : Side) (word : String) : Side :=
  { s with pending := s.pending.map fun (slot, _) => (slot, some word) }

/-- Reads what stands behind the name of the analysis. -/
def readBack (options : Bool) (s : Side) : List String → Except Refusal Side
  | [] => s.settle
  | w :: ws =>
    if !options then do readBack false (← s.takeDirectory w) ws
    else
      match Word.ofText w.toList with
      | .endOfOptions => readBack false s ws
      | .long name value => do readBack true (← s.takeLong false name value) ws
      | .short letters => do readBack true (← s.takeShort false letters) ws
      | .plain =>
        if s.waits then readBack true (s.takeValue w) ws
        else do readBack true (← s.takeDirectory w) ws

end Side

/-! ## The whole command line -/

/-- What a command line asks for. -/
structure Invocation where
  /-- The kind of analysis. -/
  variant : Variant
  /-- What stands in front of its name. -/
  front : Side
  /-- What stands behind its name. -/
  back : Side
  deriving DecidableEq, Repr

namespace Invocation

/-- The request for help that the words behind `help` make: for all, or for one command. -/
def helpOn : List String → Refusal
  | [] => .help
  | [w] => if (Variant.ofName? w).isSome || w = helpWord then .help else .unknownVariant
  | _ => .unknownVariant

/-- The first word behind two dashes, where the name of the analysis is missing. -/
def strayWord (w : String) : Refusal :=
  if (Variant.ofName? w).isSome || w = helpWord then .unexpectedWord else .unknownVariant

/-- The end of a command line that does not name the kind of analysis. -/
def unnamed (s : Side) : Refusal :=
  match s.settle with
  | .error e => e
  | .ok s => if s.isEmpty then .nothingGiven else .noVariant

/-- Reads a command line from some place in front of the name of the analysis. -/
def read (s : Side) : List String → Except Refusal Invocation
  | [] => .error (unnamed s)
  | w :: ws =>
    match Word.ofText w.toList with
    | .endOfOptions => .error ((ws.head?.map strayWord).getD (unnamed s))
    | .long name value => do read (← s.takeLong true name value) ws
    | .short letters => do read (← s.takeShort true letters) ws
    | .plain =>
      if s.waits then read (s.takeValue w) ws
      else if w = helpWord then .error (helpOn ws)
      else
        match Variant.ofName? w with
        | some variant => do
          let back ← Side.readBack true {} ws
          return ⟨variant, ← s.settle, back⟩
        | none => .error .unknownVariant

/-- The request of a command line. -/
def ofArguments (words : List String) : Except Refusal Invocation :=
  read {} words

/-- The configuration file. -/
def config? (i : Invocation) : Option Path :=
  (i.back.config.or i.front.config).map Path.ofString

/-- The choices of the configuration file, or those of a user who makes none. -/
def fileOptions (i : Invocation) (tree : FileTree) : Except ConfigError Options :=
  match i.config? with
  | some file => Options.load tree file
  | none => .ok {}

/-- The choices with those of the command line, which count before those of the file. -/
def override (i : Invocation) (o : Options) : Options where
  inputDir := (i.back.directories[0]?.map Path.ofString).or o.inputDir
  outputDir := (i.back.directories[1]?.map Path.ofString).or o.outputDir
  pattern := (i.back.pattern.or i.front.pattern).getD o.pattern
  strict := o.strict || i.front.strict || i.back.strict

/-- The choices of a user. -/
def options (i : Invocation) (tree : FileTree) : Except ConfigError Options :=
  (i.fileOptions tree).map i.override

/-- The analysis that a command line asks for. -/
def run (i : Invocation) (tree : FileTree) : Outcome :=
  match i.options tree with
  | .error e => ⟨.error (.config e), [], tree⟩
  | .ok o => o.analyse tree i.variant

end Invocation

end BenchTally
