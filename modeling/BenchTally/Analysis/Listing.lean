import BenchTally.Analysis.Event

set_option autoImplicit false
set_option relaxedAutoImplicit false

/-!
# Listing result files

The result files of an analysis are the files directly in the input directory whose names match
the pattern, in the order of their names. Links are followed; hidden files count.

## Main definitions

* `Listing` — the files, and the entries that could not be listed.
* `listFiles` — the listing of the input directory.

## Implementation notes

An entry that cannot be listed is a link that leads nowhere or to the input directory itself;
whether its name matches does not matter. A link to any other directory is passed over, as a
directory is. The path `-` stands for the standard input, which has no entries.
-/

namespace BenchTally

/-- The result files of an analysis. -/
structure Listing where
  /-- The files, in the order of their names. -/
  files : List Path
  /-- The entries that could not be listed, in the order of their names. -/
  failures : List ListingError

/-- What a name in the input directory amounts to. -/
inductive Entry where
  /-- A file. -/
  | file (path : Path)
  /-- Something that is no file. -/
  | other
  /-- Something that cannot be listed. -/
  | failure (cause : ListingError)
  deriving DecidableEq, Repr

/-- What a name in a directory amounts to, given the directory's path and place. -/
def entryOf (tree : FileTree) (directory : Path) (place : Place) (name : Bytes) : Entry :=
  let path := directory.join ⟨name⟩
  match tree.node? (place ++ [name]) with
  | some (.file _) => .file path
  | some (.link _) =>
    match tree.placeOf path with
    | .error cause => .failure (.broken path cause)
    | .ok target =>
      match tree.node? target with
      | some (.file _) => .file path
      | _ => if target = place then .failure (.loop path directory) else .other
  | _ => .other

/-- The names in a directory, in their order as byte sequences. -/
def sortedNames (tree : FileTree) (place : Place) : List Bytes :=
  (tree.names place).mergeSort fun a b => decide (a ≤ b)

/-- The path that stands for the standard input. -/
def standardInput : Path := ⟨[0x2d]⟩

/-- The entries of the input directory, in the order of their names. -/
def entries (tree : FileTree) (directory : Path) : List (Bytes × Entry) :=
  match tree.placeOf directory with
  | .error _ => []
  | .ok place =>
    if directory.same standardInput then []
    else (sortedNames tree place).map fun name => (name, entryOf tree directory place name)

/-- The path of an entry that is a file with a matching name. -/
def Entry.matchingFile? (glob : Glob) : Bytes × Entry → Option Path
  | (name, .file path) => if glob.accepts name then some path else none
  | _ => none

/-- The cause for which an entry cannot be listed. -/
def Entry.failure? : Bytes × Entry → Option ListingError
  | (_, .failure cause) => some cause
  | _ => none

/-- The listing of the input directory. -/
def listFiles (tree : FileTree) (settings : Settings) : Except ConfigError Listing :=
  if !tree.isDir settings.inputDir then .error (.inputNotFound settings.inputDir)
  else
    let found := entries tree settings.inputDir
    .ok ⟨found.filterMap (Entry.matchingFile? settings.glob), found.filterMap Entry.failure?⟩

end BenchTally
