import BenchTally.Files.Path
import Std.Data.ExtTreeMap

set_option autoImplicit false
set_option relaxedAutoImplicit false

/-!
# File trees

Directories, files and symbolic links as a value. A place in a tree is the list of the names that
lead to it from the root, through directories only; a path is followed to its place name by name,
and through links. Relative paths start at the working directory.

## Main definitions

* `Place`, `Node`, `FileTree` — places, what stands at them, and trees.
* `FileTree.walk` — the place that a path leads to.
* `FileTree.isDir`, `FileTree.readFile`, `FileTree.names` — what can be seen of a tree.
* `FileTree.changesSince` — what is new in a tree.
* `FileTree.makeDir`, `FileTree.makeDirs`, `FileTree.writeFile`, `FileTree.makeLink` — changes to a
  tree.

## Main results

* `FileTree.node?_set` — a change at a place leaves all others as they are.

## Implementation notes

Nodes are held in a map whose equality is that of its contents, so trees are equal if the same
stands at the same places, they have the same working directory, and writing breaks off alike in
them.

That writing breaks off, say on a full disk, does not follow from what stands in a tree. A tree
therefore tells for each path whether it does, and what is then left in the file.

Each operation has the outcome of the call of the same job in a system with the usual limits: names
of at most 255 bytes, paths of fewer than 4096, and at most 40 links on the way.
-/

namespace BenchTally

/-- The names that lead to a place from the root. -/
abbrev Place := List Bytes

/-- What stands at a place. -/
inductive Node where
  /-- A directory. -/
  | dir
  /-- A file with its content. -/
  | file (content : Bytes)
  /-- A symbolic link with the path that it stands for, relative to the link's own directory. -/
  | link (target : Path)
  deriving DecidableEq, Repr

/-- Why an operation on a path fails. -/
inductive PathError where
  /-- There is nothing at the path. -/
  | notFound
  /-- There is something at the path already. -/
  | exists
  /-- A component before the end is no directory. -/
  | notDirectory
  /-- The path leads to a directory where a file is needed. -/
  | isDirectory
  /-- There are too many links on the way. -/
  | tooManyLinks
  /-- A name or the path is too long. -/
  | nameTooLong
  /-- The path holds the byte zero. -/
  | zeroByte
  deriving DecidableEq, Repr

/-- The message of a failed operation. -/
def PathError.message : PathError → String
  | .notFound => "No such file or directory (os error 2)"
  | .exists => "File exists (os error 17)"
  | .notDirectory => "Not a directory (os error 20)"
  | .isDirectory => "Is a directory (os error 21)"
  | .tooManyLinks => "Too many levels of symbolic links (os error 40)"
  | .nameTooLong => "File name too long (os error 36)"
  | .zeroByte => "file name contained an unexpected NUL byte"

/-- Directories, files and links, at most one at each place. -/
structure FileTree where
  /-- The place at which relative paths start. -/
  workDir : Place
  /-- What stands where. -/
  nodes : Std.ExtTreeMap Place Node
  /-- What is left in the file at a path, if writing breaks off after the file was opened. -/
  leftOver? : Path → Option Bytes

namespace FileTree

/-- The tree of an empty working directory of the given name below the root. No writing breaks off
in it. -/
def ofWorkDir (name : Bytes) : FileTree :=
  ⟨[name], (∅ : Std.ExtTreeMap Place Node).insert [name] .dir, fun _ => none⟩

/-- What stands at a place; at the root there is a directory. -/
def node? (t : FileTree) (p : Place) : Option Node :=
  if p = [] then some .dir else t.nodes[p]?

/-- The tree with something new at a place. -/
def set (t : FileTree) (p : Place) (n : Node) : FileTree :=
  { t with nodes := t.nodes.insert p n }

/-! ## Following a path -/

/-- Where a path leads. -/
inductive Target where
  /-- To something that exists; the number bounds the links that may still be followed from
  there. -/
  | existing (place : Place) (links : Nat)
  /-- To a name that is free in a directory. -/
  | free (directory : Place) (name : Bytes)
  deriving DecidableEq, Repr

/-- The greatest number of bytes of a name. -/
def maxName : Nat := 255

/-- The greatest number of bytes of a path. -/
def maxPath : Nat := 4095

/-- The greatest number of links on the way of a path. -/
def maxLinks : Nat := 40

/-- Follows the pieces of a path from a place. The number bounds the links that may still be
followed; a link at the end is followed only if `followLast` is set. -/
def walk (t : FileTree) (followLast : Bool) (links : Nat) (here : Place) (pieces : List Bytes) :
    Except PathError Target :=
  match pieces with
  | [] => .ok (.existing here links)
  | name :: rest =>
    if t.node? here ≠ some .dir then .error .notDirectory
    else if name = [] ∨ name = Path.here then t.walk followLast links here rest
    else if name = Path.up then t.walk followLast links here.dropLast rest
    else if maxName < name.length then .error .nameTooLong
    else
      let place := here ++ [name]
      match t.node? place with
      | none => if rest = [] then .ok (.free here name) else .error .notFound
      | some (.link target) =>
        if rest = [] ∧ !followLast then .ok (.existing place links)
        else
          match links with
          | 0 => .error .tooManyLinks
          | links + 1 =>
            t.walk followLast links (if target.isAbsolute then [] else here)
              (target.pieces ++ rest)
      | some _ => t.walk followLast links place rest
  termination_by (links, pieces.length)

/-- The place at which a path starts. -/
def startOf (t : FileTree) (p : Path) : Place :=
  if p.isAbsolute then [] else t.workDir

/-- Where a path leads. -/
def locate (t : FileTree) (followLast : Bool) (p : Path) : Except PathError Target :=
  if p.bytes = [] then .error .notFound
  else if 0 ∈ p.bytes then .error .zeroByte
  else if maxPath < p.bytes.length then .error .nameTooLong
  else t.walk followLast maxLinks (t.startOf p) p.pieces

/-- The place of what a path leads to. -/
def placeOf (t : FileTree) (p : Path) : Except PathError Place :=
  match t.locate true p with
  | .ok (.existing place _) => .ok place
  | .ok (.free _ _) => .error .notFound
  | .error e => .error e

/-! ## Looking -/

/-- Whether a path leads to a directory. -/
def isDir (t : FileTree) (p : Path) : Bool :=
  match t.placeOf p with
  | .ok place => t.node? place == some .dir
  | .error _ => false

/-- The content of the file that a path leads to. -/
def readFile (t : FileTree) (p : Path) : Except PathError Bytes :=
  match t.placeOf p with
  | .error e => .error e
  | .ok place =>
    match t.node? place with
    | some (.file content) => .ok content
    | some _ => .error .isDirectory
    | none => .error .notFound

/-- The name of a place in a directory, if it stands directly in it. -/
def nameIn? (directory place : Place) : Option Bytes :=
  match place.getLast? with
  | some name => if place.dropLast = directory then some name else none
  | none => none

/-- The names in a directory. -/
def names (t : FileTree) (directory : Place) : List Bytes :=
  t.nodes.keys.filterMap (nameIn? directory)

/-- What stands below the working directory and did not stand there in an earlier tree. -/
def changesSince (t earlier : FileTree) : List (Place × Node) :=
  t.nodes.toList.filter fun (place, node) =>
    t.workDir.isPrefixOf place && earlier.node? place != some node

/-! ## Changing -/

/-- The path without slashes at its end, which do not matter to the creation of a directory. -/
def trimSlashes (p : Path) : Path :=
  ⟨(p.bytes.reverse.dropWhile (· == Path.slash)).reverse⟩

/-- Creates a directory at a path whose last name is free. -/
def makeDir (t : FileTree) (p : Path) : Except PathError FileTree :=
  if maxPath < p.bytes.length then .error .nameTooLong
  else
    match t.locate false (trimSlashes p) with
    | .ok (.free directory name) => .ok (t.set (directory ++ [name]) .dir)
    | .ok (.existing _ _) => .error .exists
    | .error e => .error e

/-- Creates a directory, where it does not matter if there is one already. -/
def ensureDir (t : FileTree) (p : Path) : Except PathError FileTree :=
  match t.makeDir p with
  | .ok t => .ok t
  | .error e => if t.isDir p then .ok t else .error e

/-- Enters the directories of the given names one after another and creates those that are missing.
The number bounds the links that may still be followed. What was created before a failure stays. -/
def makeWay (t : FileTree) (links : Nat) (here : Place) :
    (names : List Bytes) → FileTree × Except PathError Unit
  | [] => (t, .ok ())
  | name :: rest =>
    match t.walk true links here [name] with
    | .error e => (t, .error e)
    | .ok (.existing place links) =>
      if t.node? place = some .dir then t.makeWay links place rest else (t, .error .notDirectory)
    | .ok (.free directory free) =>
      -- No link may stand in the way, not even one to a free name.
      if directory = here ∧ free = name then
        let place := directory ++ [name]
        (t.set place .dir).makeWay links place rest
      else (t, .error .exists)

/-- Creates a directory and those on the way to it, as far as they are missing. What was created
before a failure stays. -/
def makeDirs (t : FileTree) (p : Path) : FileTree × Except PathError Unit :=
  if p.components.isEmpty then (t, .ok ())
  else
    match t.ensureDir p with
    | .ok t => (t, .ok ())
    | .error .notFound =>
      match t.makeWay maxLinks (t.startOf p) p.components.dropLast with
      | (t, .error e) => (t, .error e)
      | (t, .ok ()) =>
        match t.ensureDir p with
        | .ok t => (t, .ok ())
        | .error e => (t, .error e)
    | .error e => (t, .error e)

/-- Writes a file, which is created or gets a new content. -/
def writeFile (t : FileTree) (p : Path) (content : Bytes) : Except PathError FileTree :=
  match t.locate true p with
  | .error e => .error e
  | .ok (.free directory name) => .ok (t.set (directory ++ [name]) (.file content))
  | .ok (.existing place _) =>
    match t.node? place with
    | some .dir => .error .isDirectory
    | _ => .ok (t.set place (.file content))

/-- Creates a link at a path whose last name is free. -/
def makeLink (t : FileTree) (p target : Path) : Except PathError FileTree :=
  match t.locate false p with
  | .ok (.free directory name) => .ok (t.set (directory ++ [name]) (.link target))
  | .ok (.existing _ _) => .error .exists
  | .error e => .error e

/-! ## A change at a place leaves all others as they are -/

/-- Something new at a place that is not the root shows there and nowhere else. -/
theorem node?_set (t : FileTree) {p : Place} (hp : p ≠ []) (q : Place) (n : Node) :
    (t.set p n).node? q = if q = p then some n else t.node? q := by
  unfold node? set
  by_cases hq : q = []
  · subst hq
    simp [Ne.symm hp]
  · simp only [if_neg hq, Std.ExtTreeMap.getElem?_insert, Std.compare_eq_iff_eq, @eq_comm _ p q]

end FileTree

end BenchTally
