import BenchTally.Yaml.Anchors
import BenchTally.Yaml.Block

set_option autoImplicit false
set_option relaxedAutoImplicit false

/-!
# Scalar nodes

The nodes of a document that are texts, in any of their spellings, with the tags that stand before
them. A node may also be a reference to an earlier one.

## Main definitions

* `Yaml.Scope` — what the nodes before have declared.
* `Yaml.Frame` — where a node stands.
* `Yaml.node` — the node at the start of a source.
-/

namespace BenchTally.Yaml

/-- What the directives and the nodes before have declared. -/
structure Scope where
  /-- The prefixes of tags. -/
  handles : Handles
  /-- The anchors. -/
  anchors : Anchors
  deriving DecidableEq, Repr

/-- The scope with one more anchor, if the node has a name. -/
def Scope.define (scope : Scope) (name : Option (List Char)) (node : Option Scalar) : Scope :=
  { scope with anchors := scope.anchors.define name node }

/-- Where a node stands. -/
structure Frame where
  /-- It stands in a flow collection. -/
  flow : Bool
  /-- Outside of flow collections, the first column that belongs to the node. -/
  floor : Nat
  deriving DecidableEq, Repr

/-- The frame inside of a flow collection. -/
def Frame.inFlow : Frame := ⟨true, 0⟩

/-- The frame outside of flow collections. -/
def Frame.inBlock (floor : Nat) : Frame := ⟨false, floor⟩

/-- The node has ended before the next token. The mark of a block scalar may stand one column
further left than other nodes. -/
def Frame.ends (frame : Frame) : Source → Bool
  | [] => true
  | g :: r =>
    if frame.flow then oneOfAhead ",\x7d" (g :: r)
    else if oneOfAhead "|>" (g :: r) then g.column + 1 < frame.floor
    else g.column < frame.floor

/-- A node that was read. -/
structure Found where
  /-- The node. -/
  content : Content
  /-- What is declared now. -/
  scope : Scope
  /-- The line of its last character. -/
  line : Nat
  /-- The source after it. -/
  rest : Source
  deriving DecidableEq, Repr

/-- The source from the next token after a node on. -/
def Found.next (flow : Bool) (x : Found) : Source :=
  gap flow (x.rest.head?.any (·.line = x.line)) x.rest

/-- A scalar that is not a reference, from its first character on. -/
def spelled (frame : Frame) : Source → Option (Style × Lexeme)
  | [] => none
  | g :: r =>
    if atMarker (g :: r) then none
    else if g.char = '\'' then (singleQuoted r).map (.quoted, ·)
    else if g.char = '"' then (doubleQuoted r).map (.quoted, ·)
    else if g.char = '|' ∧ !frame.flow then
      (blockScalar true frame.floor g.line r).map (.literal, ·)
    else if g.char = '>' ∧ !frame.flow then
      (blockScalar false frame.floor g.line r).map (.folded, ·)
    else (plain frame.flow frame.floor (g :: r)).map (.plain, ·)

/-- The node at the start of a source, after the gap there. A node that has ended already is the
empty text; a collection is none. -/
def node (frame : Frame) (scope : Scope) (tabs : Bool) (s : Source) : Option Found := do
  let s := gap frame.flow tabs s
  let (p, s) ←
    if frame.ends s then some ({}, s) else properties scope.handles frame.flow frame.ends s
  if frame.ends s then
    let x : Scalar := ⟨.plain, p.tag, ""⟩
    return ⟨.scalar x, scope.define p.anchor x, 0, s⟩
  else if oneOfAhead "*" s then
    if !p.isEmpty then none
    else
      let (anchor, rest) ← anchorName (s.drop 1)
      return ⟨← scope.anchors.reference? anchor, scope, (s.head?.map (·.line)).getD 0, rest⟩
  else
    let (style, lexeme) ← spelled frame s
    let x : Scalar := ⟨style, p.tag, String.ofList lexeme.text⟩
    return ⟨.scalar x, scope.define p.anchor x, lexeme.line, lexeme.rest⟩

end BenchTally.Yaml
