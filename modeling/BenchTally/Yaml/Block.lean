import BenchTally.Yaml.Flow

set_option autoImplicit false
set_option relaxedAutoImplicit false

/-!
# Block scalars

Scalars that are written on lines of their own, below a header. Their lines are indented alike,
and the indentation is not part of the text. A literal scalar keeps its line breaks. In a folded
one a line break between two lines that do not start with a blank is read as a space, and of
several the first is dropped. The header tells what happens to the line breaks at the end.

## Main definitions

* `Yaml.Chomp`, `Yaml.BlockHeader` — what a header says.
* `Yaml.BlockLine` — a line with the line breaks after it.
* `Yaml.blockText` — the text that the lines stand for.
* `Yaml.blockScalar` — a block scalar in a source.
-/

namespace BenchTally.Yaml

/-- What happens to the line breaks at the end. -/
inductive Chomp where
  /-- They are dropped. -/
  | strip
  /-- The first is kept, where there is a line before it. -/
  | clip
  /-- They are kept. -/
  | keep
  deriving DecidableEq, Repr

/-- What a header says. -/
structure BlockHeader where
  /-- What happens to the line breaks at the end. -/
  chomp : Chomp
  /-- The indentation, relative to that of the collection around. -/
  increment : Option Nat
  deriving DecidableEq, Repr

/-- A line with the line breaks after it. -/
structure BlockLine where
  /-- The text of the line. -/
  text : List Char
  /-- The line breaks up to the next line that holds text. -/
  breaks : List Char
  deriving DecidableEq, Repr

/-! ## Headers -/

/-- The mark for what happens to the line breaks at the end. -/
def chompMark : Source → Chomp × Source
  | [] => (.clip, [])
  | g :: r =>
    if g.char = '-' then (.strip, r) else if g.char = '+' then (.keep, r) else (.clip, g :: r)

/-- The digit for the indentation, which is not zero. -/
def incrementMark : Source → Option (Option Nat × Source)
  | [] => some (none, [])
  | g :: r =>
    if g.char = '0' then none
    else if g.char.isDigit then some (some (g.char.toNat - '0'.toNat), r)
    else some (none, g :: r)

/-- A header with its line. The two marks may come in either order. -/
def blockHeader (s : Source) : Option (BlockHeader × Source) := do
  let (before, s) := chompMark s
  let (increment, s) ← incrementMark s
  let (chomp, s) := if before = .clip ∧ increment.isSome then chompMark s else (before, s)
  return (⟨chomp, increment⟩, ← endOfLine s)

/-! ## Lines -/

/-- The indentation that the lines at the start show: that of the first line that holds text, or
of a blank line before it that is deeper. A tab is no indentation. -/
def shownIndent (deepest : Nat) : Source → Option Nat
  | [] => some deepest
  | g :: r =>
    if g.char = ' ' then shownIndent (max deepest (g.column + 1)) r
    else if g.char = '\t' then none
    else if isBreak g.char then shownIndent deepest r
    else some deepest

/-- The lines at the start that have the given indentation, and the source after them. What
precedes the first line that holds text counts as a line without text. While `inside` holds, the
source starts inside of a line. -/
def blockLines (indent : Nat) (inside : Bool) :
    Source → Option (BlockLine × List BlockLine × Source)
  | [] => some (⟨[], []⟩, [], [])
  | g :: r =>
    if isBreak g.char then do
      let (line, lines, rest) ← blockLines indent false r
      return (⟨[], g.char :: line.breaks⟩, lines, rest)
    else if inside then do
      let (line, lines, rest) ← blockLines indent true r
      return ({ line with text := g.char :: line.text }, lines, rest)
    else if g.column < indent then
      if g.char = ' ' then blockLines indent false r
      else if g.char = '\t' then none
      else some (⟨[], []⟩, [], g :: r)
    else do
      let (line, lines, rest) ← blockLines indent true r
      return (⟨[], []⟩, { line with text := g.char :: line.text } :: lines, rest)

/-! ## Text -/

/-- A line starts with a blank. -/
def BlockLine.isIndented (l : BlockLine) : Bool :=
  l.text.head?.any isGap

/-- What is read for the line breaks between two lines. -/
def BlockLine.joint (literal : Bool) (l next : BlockLine) : List Char :=
  if literal || l.isIndented || next.isIndented then l.breaks
  else
    match l.breaks with
    | ['\n'] => [' ']
    | '\n' :: more => more
    | breaks => breaks

/-- What is read for the line breaks at the end. -/
def Chomp.ending (chomp : Chomp) (breaks : List Char) : List Char :=
  match chomp with
  | .strip => []
  | .clip => breaks.take 1
  | .keep => breaks

/-- The text of a line and those after it. -/
def linesText (literal : Bool) (chomp : Chomp) (l : BlockLine) : List BlockLine → List Char
  | [] => l.text ++ chomp.ending l.breaks
  | next :: more => l.text ++ l.joint literal next ++ linesText literal chomp next more

/-- The text of all lines, where `before` holds the line breaks before the first. -/
def blockText (literal : Bool) (chomp : Chomp) (before : List Char) : List BlockLine → List Char
  | [] => if chomp = .keep then before else []
  | l :: more => before ++ linesText literal chomp l more

/-- A folded scalar reads a line break as a space, but not around lines that are indented
further. -/
example :
    blockText false .clip [] [⟨['a'], ['\n']⟩, ⟨['b'], ['\n']⟩] = ['a', ' ', 'b', '\n'] ∧
    blockText false .strip [] [⟨['a'], ['\n']⟩, ⟨[' ', 'b'], ['\n']⟩] = ['a', '\n', ' ', 'b'] := by
  decide

/-- A block scalar, after the mark for its kind, which stands on the given line. Its lines start
at `floor` or further right, and a header counts from the column before `floor`. -/
def blockScalar (literal : Bool) (floor line : Nat) (s : Source) : Option Lexeme := do
  let (header, s) ← blockHeader s
  let indent ←
    match header.increment with
    | some n => some (floor - 1 + n)
    | none => (shownIndent 0 s).map fun shown => max shown (max floor 1)
  let (first, lines, rest) ← blockLines indent false s
  return ⟨blockText literal header.chomp first.breaks lines, line, rest⟩

end BenchTally.Yaml
