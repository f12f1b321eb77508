import BenchTally.Yaml.Property

set_option autoImplicit false
set_option relaxedAutoImplicit false

/-!
# Directives

The lines before a document that tell its version and declare prefixes of tags.

## Main definitions

* `Yaml.Directives` — what such lines say.
* `Yaml.directives` — the directives at the start of a source.
-/

namespace BenchTally.Yaml

/-- What the lines before a document say. -/
structure Directives where
  /-- The number of directives. -/
  count : Nat := 0
  /-- There is one that tells the version. -/
  versioned : Bool := false
  /-- The declared prefixes. -/
  handles : Handles := []
  deriving DecidableEq, Repr

/-- A part of a version: at most nine digits. -/
def versionPart (s : Source) : Option (Nat × Source) :=
  let digits := s.takeWhile fun g => g.char.isDigit
  if digits.isEmpty || 9 < digits.length then none
  else
    some (digits.foldl (fun n g => n * 10 + (g.char.toNat - '0'.toNat)) 0, s.drop digits.length)

/-- The version that a document is written in, which is 1.1 or 1.2. -/
def version (s : Source) : Option Source := do
  let (major, s) ← versionPart (skipBlanks s)
  if !oneOfAhead "." s then none
  else
    let (minor, s) ← versionPart (s.drop 1)
    if major = 1 ∧ (minor = 1 ∨ minor = 2) then some s else none

/-- A handle: an exclamation mark, or a name between two of them. -/
def handle (s : Source) : Option (List Char × Source) :=
  if !oneOfAhead "!" s then none
  else
    let (found, s) := name (s.drop 1)
    if oneOfAhead "!" s then some ('!' :: found ++ ['!'], s.drop 1)
    else if found.isEmpty then some (['!'], s)
    else none

/-- The declaration of a prefix. -/
def declaration (s : Source) : Option (List Char × Tag × Source) := do
  let (handle, s) ← handle (skipBlanks s)
  if !oneOfAhead " \t" s then none
  else
    let (start, s) ← tagPart true (skipBlanks s)
    if blankAhead s then some (handle, start, s) else none

/-- One directive, after its mark. Neither a version nor the prefix of a handle is told twice. -/
def directive (d : Directives) (s : Source) : Option (Directives × Source) := do
  let (kind, s) := name s
  if !blankAhead s then none
  else if kind = "YAML".toList then
    if d.versioned then none
    else
      let s ← version s
      return ({ d with count := d.count + 1, versioned := true }, s)
  else if kind = "TAG".toList then
    let (handle, start, s) ← declaration s
    if (d.handles.lookup handle).isSome then none
    else return ({ d with count := d.count + 1, handles := d.handles ++ [(handle, start)] }, s)
  else none

/-- The directives at the start of a source, and the source from the first other token on. -/
def directives (d : Directives) (s : Source) : Option (Directives × Source) :=
  match s with
  | [] => some (d, [])
  | g :: r =>
    if g.char = '%' ∧ g.column = 0 then
      match (directive d r).bind fun (d, rest) => (endOfLine rest).map (d, ·) with
      | none => none
      | some (d, rest) =>
        let rest := gap false true rest
        if rest.length < (g :: r).length then directives d rest else none
    else some (d, g :: r)
termination_by s.length
decreasing_by assumption

end BenchTally.Yaml
