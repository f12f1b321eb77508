import BenchTally.Yaml.Property

set_option autoImplicit false
set_option relaxedAutoImplicit false

/-!
# Anchors and references

What the anchors of a document stand for. An anchor gets a number: how many names are known before
it. A reference takes over the number that its name has where the reference stands, and stands for
the last node of the document that got this number. So a name that is told again takes the number
that the next new name gets as well, and a reference may stand for a node that comes after it.

## Main definitions

* `Yaml.Style`, `Yaml.Scalar` — a text with its spelling and its type.
* `Yaml.Content` — a scalar or a reference.
* `Yaml.Anchors` — the numbers of names, and the nodes of numbers.
* `Yaml.Anchors.resolve` — the scalar that a content stands for.
-/

namespace BenchTally.Yaml

/-- The spellings of a scalar. -/
inductive Style where
  /-- Without quotes, or not written at all. -/
  | plain
  /-- With quotes of any kind. -/
  | quoted
  /-- On lines of its own that are read as they are. -/
  | literal
  /-- On lines of its own that are joined. -/
  | folded
  deriving DecidableEq, Repr

/-- A text with its spelling and its type. -/
structure Scalar where
  /-- The spelling. -/
  style : Style
  /-- The type, where it is told. -/
  tag : Option Tag
  /-- The text. -/
  text : String
  deriving DecidableEq, Repr

/-- A scalar or a reference. -/
inductive Content where
  /-- A scalar. -/
  | scalar (x : Scalar)
  /-- A reference to the node with the given number. -/
  | reference (number : Nat)
  deriving DecidableEq, Repr

/-- The numbers of names, and the nodes of numbers. -/
structure Anchors where
  /-- The names with their numbers, each name once. -/
  numbers : List (List Char × Nat) := []
  /-- The nodes with their numbers, the last first; a collection is left out. -/
  nodes : List (Nat × Option Scalar) := []
  deriving DecidableEq, Repr

namespace Anchors

/-- The anchors with one more, if the node has a name. -/
def define (a : Anchors) (name : Option (List Char)) (node : Option Scalar) : Anchors :=
  match name with
  | none => a
  | some name =>
    let number := a.numbers.length
    { numbers := (name, number) :: a.numbers.filter (·.1 != name)
      nodes := (number, node) :: a.nodes }

/-- The reference by a name, if the name is known. -/
def reference? (a : Anchors) (name : List Char) : Option Content :=
  (a.numbers.lookup name).map .reference

/-- The scalar that a content stands for, once all anchors of the document are known. -/
def resolve (a : Anchors) : Content → Option Scalar
  | .scalar x => some x
  | .reference number => (a.nodes.lookup number).join

/-- The second `a` shares its number with `b`, which comes later and counts. -/
example :
    let x : Scalar := ⟨.plain, none, "x"⟩
    let y : Scalar := ⟨.plain, none, "y"⟩
    let a : Anchors := (({} : Anchors).define (some ['a']) none).define (some ['a']) (some x)
    (a.reference? ['a']).bind (a.define (some ['b']) (some y)).resolve = some y := by
  decide

end Anchors

end BenchTally.Yaml
