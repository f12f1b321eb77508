import BenchTally.Text.Quoted
import BenchTally.Text.Split

set_option autoImplicit false
set_option relaxedAutoImplicit false

/-!
# Paths

A path is a sequence of bytes with slashes between its components. Two paths that differ in
repeated slashes, a slash at the end or components `.` after the start are the same path.

## Main definitions

* `Path` — a path as written.
* `Path.components` — its components, which are what two equal paths have in common.
* `Path.same` — equality of paths.
* `Path.join` — a path below another.
* `Path.parent` — the path without its last component.
* `Path.fileName` — the last component.
* `Path.shown`, `Path.quoted` — a path in a message.
-/

namespace BenchTally

/-- A path as written. -/
structure Path where
  /-- The bytes of the path. -/
  bytes : Bytes
  deriving DecidableEq, Repr

namespace Path

/-- The byte between components. -/
def slash : UInt8 := 0x2f

/-- The component for the directory itself. -/
def here : Bytes := [0x2e]

/-- The component for the directory above. -/
def up : Bytes := [0x2e, 0x2e]

/-- The path of a text. -/
def ofString (s : String) : Path :=
  ⟨Text.encode s⟩

/-- A path that starts at the root. -/
def isAbsolute (p : Path) : Bool :=
  p.bytes.head? == some slash

/-- The texts between the slashes. -/
def pieces (p : Path) : List Bytes :=
  Text.splitOn slash p.bytes

/-- The components: the pieces that are not empty, without those that name the directory itself.
Only at the start of a relative path such a piece counts. -/
def components (p : Path) : List Bytes :=
  let named := fun c : Bytes => !c.isEmpty && c != here
  let first := if p.pieces.head? = some here then [here] else []
  first ++ p.pieces.filter named

/-- Equality of paths: the same components, from the same start. -/
def same (p q : Path) : Bool :=
  p.isAbsolute == q.isAbsolute && p.components == q.components

/-- A path below another, with one slash between them. An absolute path stands for itself. -/
def join (p q : Path) : Path :=
  if q.isAbsolute then q
  else if p.bytes.isEmpty || p.bytes.getLast? == some slash then ⟨p.bytes ++ q.bytes⟩
  else ⟨p.bytes ++ slash :: q.bytes⟩

/-- The path of components, from the root if it is absolute. -/
def ofComponents (absolute : Bool) (components : List Bytes) : Path :=
  ⟨(if absolute then [slash] else []) ++ [slash].intercalate components⟩

/-- The path without its last component. -/
def parent (p : Path) : Path :=
  ofComponents p.isAbsolute p.components.dropLast

/-- The last component. -/
def fileName (p : Path) : Bytes :=
  p.components.getLastD []

/-- The text of a path, where it is text. -/
def shown (p : Path) : String :=
  String.ofList (Text.decodeLossy p.bytes)

/-- A path between quotes. -/
def quoted (p : Path) : String :=
  Text.quotedBytes p.bytes

/-- Slashes at the end do not tell paths apart, a dot at the start does. -/
example : same (ofString "in//.") (ofString "in") = true ∧
    same (ofString "./in") (ofString "in") = false := by
  decide

end Path

end BenchTally
