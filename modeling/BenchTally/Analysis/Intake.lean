import BenchTally.Analysis.Event
import BenchTally.Result.Summary
import BenchTally.Result.Timeline
import BenchTally.Stats.Keyed

set_option autoImplicit false
set_option relaxedAutoImplicit false

/-!
# Reading result files

All names are read before any content. The contents are then read configuration by configuration,
and within a configuration in the order of the file names. A file that cannot be used is rejected;
what a rejection leads to is for the analysis to decide.

## Main definitions

* `Finding` — an event, or the rejection of a file.
* `Intake` — what reading a list of files found.
* `intake` — reads a list of files, with any way to read a content.
* `readSummary`, `readTimeline` — the two ways to read a content.
-/

namespace BenchTally

/-- What reading comes across. -/
inductive Finding where
  /-- Something to report. -/
  | note (event : Event)
  /-- A file that cannot be used. -/
  | rejection (file : Path) (cause : FileError)
  deriving DecidableEq

/-- Whether a finding is a rejection. -/
def Finding.isRejection : Finding → Bool
  | .note _ => false
  | .rejection _ _ => true

/-- What reading a list of files found. -/
structure Intake (β : Type) where
  /-- Events and rejections, in order. -/
  findings : List Finding
  /-- What was read, in order. -/
  values : List (ConfigKey × β)

/-! ## Names -/

/-- The run that the file at a path is named after. -/
def runOf (file : Path) : Except NameError Run :=
  Run.ofName (Text.decodeLossy file.fileName)

/-- The rejection of a file with a wrong name. -/
def nameRejection? (file : Path) : Option Finding :=
  match runOf file with
  | .ok _ => none
  | .error cause => some (.rejection file (.name cause))

/-- The configuration of a file with a right name. -/
def configOf? (file : Path) : Option (ConfigKey × Path) :=
  match runOf file with
  | .ok run => some (run.config, file)
  | .error _ => none

/-- The files with right names by configuration, each configuration's files in their order. -/
def filesByConfig (files : List Path) : Keyed ConfigKey (List (ConfigKey × Path)) :=
  Keyed.groupOn Prod.fst (files.filterMap configOf?)

/-! ## Contents -/

variable {β : Type}

/-- The rejection of a file with an unusable content. -/
def contentRejection? (read : Path → Except ContentError β) (file : Path) : Option Finding :=
  match read file with
  | .ok _ => none
  | .error cause => some (.rejection file (.content cause))

/-- The value of a file with a usable content. -/
def contentOf? (read : Path → Except ContentError β) (file : ConfigKey × Path) :
    Option (ConfigKey × β) :=
  match read file.2 with
  | .ok value => some (file.1, value)
  | .error _ => none

/-- What reading the files of one configuration comes across; it may be announced. -/
def configFindings (read : Path → Except ContentError β) (announce : Bool)
    (group : ConfigKey × List (ConfigKey × Path)) : List Finding :=
  (if announce then [.note (.processing group.1)] else []) ++
    group.2.filterMap fun file => contentRejection? read file.2

/-- Reads a list of files. -/
def intake (read : Path → Except ContentError β) (announce : Bool) (files : List Path) :
    Intake β :=
  let groups := (filesByConfig files).entries
  { findings := files.filterMap nameRejection? ++ groups.flatMap (configFindings read announce)
    values := groups.flatMap fun group => group.2.filterMap (contentOf? read) }

/-- The totals of a result file. -/
def readSummary (tree : FileTree) (file : Path) : Except ContentError RunSummary :=
  match (tree.readFile file).toOption.bind Text.decode? with
  | some content => RunSummary.ofText content.toList
  | none => .error .unreadable

/-- The samples of a result file. -/
def readTimeline (tree : FileTree) (file : Path) : Except ContentError (List (Sample Float)) :=
  match tree.readFile file with
  | .ok content => Timeline.ofBytes content
  | .error _ => .error .malformedRecord

end BenchTally
