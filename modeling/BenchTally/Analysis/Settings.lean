import BenchTally.Files.Tree
import BenchTally.Glob.Pattern

set_option autoImplicit false
set_option relaxedAutoImplicit false

/-!
# Settings of an analysis

What a user may choose, and what follows from it for one analysis.

## Main definitions

* `Variant` — the three kinds of analysis.
* `Options` — the choices, some of which may be left open.
* `ConfigError` — why there are no settings.
* `Settings` — the choices with nothing left open.
* `Options.settings` — the settings that follow from the choices.
-/

namespace BenchTally

/-- The kinds of analysis. They differ in what they write. -/
inductive Variant where
  /-- The mean operations per second of each configuration. -/
  | throughput
  /-- The mean operations per second and the mean makespan of each configuration. -/
  | metrics
  /-- The throughput over time of each configuration. -/
  | timeline
  deriving DecidableEq, Repr

/-- The directory that an analysis writes to unless told otherwise. -/
def Variant.defaultOutput : Variant → Path
  | .throughput | .metrics => Path.ofString "aggregated_results"
  | .timeline => Path.ofString "aggregated_throughput_time"

/-- The pattern of result files unless told otherwise. -/
def defaultPattern : String := "*(*).csv"

/-- The directory of result files unless told otherwise. -/
def defaultInput : Path := ⟨Path.here⟩

/-- The choices of a user. -/
structure Options where
  /-- The directory of the result files. -/
  inputDir : Option Path := none
  /-- The directory that is written to. -/
  outputDir : Option Path := none
  /-- The pattern that the names of result files match. -/
  pattern : String := defaultPattern
  /-- Whether a file that cannot be used ends the analysis. -/
  strict : Bool := false
  deriving DecidableEq, Repr

/-- Why there are no settings. -/
inductive ConfigError where
  /-- The pattern is none. -/
  | invalidPattern (cause : Glob.Error)
  /-- The configuration file cannot be read, or is not text. -/
  | unreadable
  /-- The configuration file does not hold what it should. -/
  | invalidContent
  /-- The input directory is not there. -/
  | inputNotFound (directory : Path)
  deriving DecidableEq, Repr

/-- The message of a configuration error. -/
def ConfigError.message : ConfigError → String
  | .invalidPattern _ => "Glob was invalid"
  | .unreadable => "Config file could not be read"
  | .invalidContent => "Config file is not valid yaml or contains unknown fields"
  | .inputNotFound directory => "Input directory " ++ directory.quoted ++ " not found"

/-- What an analysis needs to know. -/
structure Settings where
  /-- The directory of the result files. -/
  inputDir : Path
  /-- The directory that is written to. -/
  outputDir : Path
  /-- The pattern as the user wrote it. -/
  pattern : String
  /-- The pattern that the names of result files match. -/
  glob : Glob
  /-- Whether a file that cannot be used ends the analysis. -/
  strict : Bool

namespace Options

/-- The directory of the result files. -/
def input (o : Options) : Path :=
  o.inputDir.getD defaultInput

/-- The directory that an analysis of the given kind writes to. -/
def output (o : Options) (variant : Variant) : Path :=
  o.outputDir.getD variant.defaultOutput

/-- Whether the outputs land among the inputs. -/
def outputIsInput (o : Options) (variant : Variant) : Bool :=
  (o.output variant).same o.input

/-- The settings that follow from the choices. The input directory is looked for first. -/
def settings (o : Options) (tree : FileTree) (variant : Variant) : Except ConfigError Settings :=
  if !tree.isDir o.input then .error (.inputNotFound o.input)
  else
    match Glob.parse o.pattern.toList with
    | .error cause => .error (.invalidPattern cause)
    | .ok glob =>
      .ok {
        inputDir := o.input
        outputDir := o.output variant
        pattern := o.pattern
        glob
        strict := o.strict }

end Options

end BenchTally
