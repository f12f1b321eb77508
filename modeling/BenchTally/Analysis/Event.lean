import BenchTally.Analysis.Settings
import BenchTally.Output.Sheet
import BenchTally.Result.Error
import BenchTally.Run.Name

set_option autoImplicit false
set_option relaxedAutoImplicit false

/-!
# Events and errors of an analysis

## Main definitions

* `FileError` — why a result file is not used.
* `ListingError` — why an entry of the input directory cannot be listed.
* `Event` — what an analysis reports on its way.
* `AnalysisError` — why an analysis ends early.
-/

namespace BenchTally

/-- Why a result file is not used. -/
inductive FileError where
  /-- Its name is not that of a run. -/
  | name (cause : NameError)
  /-- Its content cannot be used. -/
  | content (cause : ContentError)
  deriving DecidableEq

/-- The message of an unused file. -/
def FileError.message : FileError → String
  | .name cause => "Unexpected file name: " ++ cause.message
  | .content cause => "Unusable file content: " ++ cause.message

/-- Why an entry of the input directory cannot be listed. -/
inductive ListingError where
  /-- The entry is a link that leads nowhere. -/
  | broken (entry : Path) (cause : PathError)
  /-- The entry is a link to the input directory itself. -/
  | loop (entry directory : Path)
  deriving DecidableEq, Repr

/-- The message of an entry that cannot be listed. -/
def ListingError.message : ListingError → String
  | .broken entry cause =>
    entry.shown ++ ": IO error for operation on " ++ entry.shown ++ ": " ++ cause.message
  | .loop entry directory =>
    "File system loop found: " ++ entry.shown ++ " points to an ancestor " ++ directory.shown

/-- What an analysis reports on its way. -/
inductive Event where
  /-- The outputs land among the inputs. -/
  | outputIsInput
  /-- An entry of the input directory is left out. -/
  | unlisted (cause : ListingError)
  /-- A result file is left out. -/
  | skipped (file : Path) (cause : FileError)
  /-- The files of a configuration are read next. -/
  | processing (key : ConfigKey)
  /-- A file was written. -/
  | created (file : Path)
  /-- All is done. -/
  | done (written : Nat)
  deriving DecidableEq

namespace Event

/-- Whether an event is a warning. -/
def isWarning : Event → Bool
  | .outputIsInput | .unlisted _ | .skipped _ _ => true
  | .processing _ | .created _ | .done _ => false

/-- The message of an event. -/
def message : Event → String
  | .outputIsInput =>
    "Output directory equals the input directory, later runs may pick up outputs"
  | .unlisted cause => "Failed to list result file: " ++ cause.message
  | .skipped _ cause => "Skipping file: " ++ cause.message
  | .processing key => "Processing config: " ++ key.text
  | .created file => "Created " ++ file.shown
  | .done written => "Done with processing, wrote " ++ toString written ++ " files"

/-- The file that an event is about, where its message does not name it. -/
def file? : Event → Option Path
  | .skipped file _ => some file
  | _ => none

end Event

/-- Why an analysis ends early. -/
inductive AnalysisError where
  /-- There are no settings. -/
  | config (cause : ConfigError)
  /-- A sheet cannot be written. -/
  | write (cause : WriteError)
  /-- A result file cannot be used, and the analysis is strict. -/
  | rejected (file : Path) (cause : FileError)
  deriving DecidableEq

namespace AnalysisError

/-- The message of an analysis that ended early. -/
def message : AnalysisError → String
  | .config _ => "Invalid configuration"
  | .write _ => "Failed to write aggregated results"
  | .rejected file _ => "Rejected " ++ file.quoted ++ " in strict mode"

/-- The message of the cause. -/
def cause : AnalysisError → String
  | .config cause => cause.message
  | .write cause => cause.message
  | .rejected _ cause => cause.message

end AnalysisError

end BenchTally
