import BenchTally.Files.Tree
import BenchTally.Table.Writer

set_option autoImplicit false
set_option relaxedAutoImplicit false

/-!
# Written sheets

A sheet is a table with a name and a header. Sheets are written one after another, each into a
directory that is created if it is missing; the first that cannot be written, or not to its end,
ends the writing.

## Main definitions

* `Sheet` — a named table.
* `Sheet.content` — the bytes of its file.
* `WriteError` — why a sheet cannot be written.
* `writeSheets` — writes sheets in order, and tells what was written before a failure.
-/

namespace BenchTally

/-- A table with a name and a header. -/
structure Sheet where
  /-- The name of its file, without the extension. -/
  name : String
  /-- The names of the columns. -/
  header : List String
  /-- The rows. -/
  rows : List (List String)
  deriving DecidableEq, Repr

namespace Sheet

/-- The bytes of the file of a sheet. A sheet without rows has no header either. -/
def content (s : Sheet) : Bytes :=
  if s.rows.isEmpty then []
  else Table.write ((s.header :: s.rows).map (·.map Text.encode))

/-- The path of the file of a sheet in a directory. -/
def path (s : Sheet) (directory : Path) : Path :=
  directory.join (Path.ofString (s.name ++ ".csv"))

end Sheet

/-- Why a sheet cannot be written. -/
inductive WriteError where
  /-- Its directory is not there and cannot be created. -/
  | createDirectory (directory : Path)
  /-- Its file cannot be opened, or its writing breaks off. -/
  | writeTable (file : Path)
  deriving DecidableEq, Repr

/-- The message of a failure to write. -/
def WriteError.message : WriteError → String
  | .createDirectory directory => "Failed to create output directory " ++ directory.quoted
  | .writeTable file => "Failed to write " ++ file.quoted

/-- Writes a sheet into a directory, and tells the path of its file. A directory that was created
before a failure stays, and so does what is left of a file whose writing breaks off. -/
def writeSheet (tree : FileTree) (directory : Path) (sheet : Sheet) :
    FileTree × Except WriteError Path :=
  match tree.makeDirs directory with
  | (tree, .error _) => (tree, .error (.createDirectory directory))
  | (tree, .ok ()) =>
    let file := sheet.path directory
    match tree.writeFile file ((tree.leftOver? file).getD sheet.content) with
    | .error _ => (tree, .error (.writeTable file))
    | .ok written =>
      match tree.leftOver? file with
      | none => (written, .ok file)
      | some _ => (written, .error (.writeTable file))

/-- The outcome of writing a list of sheets. -/
structure Writing where
  /-- The tree afterwards. -/
  tree : FileTree
  /-- The files written, in order. -/
  written : List Path
  /-- The failure that ended the writing, if there was one. -/
  failure : Option WriteError

/-- Writes sheets into their directories, in order and up to the first failure. -/
def writeSheets (tree : FileTree) : List (Path × Sheet) → Writing
  | [] => ⟨tree, [], none⟩
  | (directory, sheet) :: rest =>
    match writeSheet tree directory sheet with
    | (tree, .error e) => ⟨tree, [], some e⟩
    | (tree, .ok file) =>
      let later := writeSheets tree rest
      { later with written := file :: later.written }

end BenchTally
