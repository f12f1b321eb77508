import BenchTally.Yaml.Directive
import BenchTally.Yaml.Node

set_option autoImplicit false
set_option relaxedAutoImplicit false

/-!
# Documents

A document that holds one mapping from texts to texts, or nothing. The mapping is written in lines
that start at the same column, or between braces.

## Main definitions

* `Yaml.Entry` — a key with its value.
* `Yaml.Mapping` — entries with the anchors of the document.
* `Yaml.blockEntries`, `Yaml.flowEntries` — the entries of a mapping in either form.
* `Yaml.Document.entries?` — the entries of the mapping that a text holds.
-/

namespace BenchTally.Yaml

/-- A key with its value. -/
structure Entry (α : Type) where
  /-- The key. -/
  key : α
  /-- The value. -/
  value : α
  deriving DecidableEq, Repr

/-- A mapping that was read. -/
structure Mapping where
  /-- The entries in order. -/
  entries : List (Entry Content)
  /-- The anchors that are known after it. -/
  anchors : Anchors
  /-- The source after it. -/
  rest : Source
  deriving DecidableEq, Repr

/-- A mapping with one more entry at its start. -/
def Mapping.cons (entry : Entry Content) (m : Mapping) : Mapping :=
  { m with entries := entry :: m.entries }

/-- The scalars that the entries stand for. -/
def Mapping.resolve (m : Mapping) : Option (List (Entry Scalar)) :=
  m.entries.mapM fun e => do
    return ⟨← m.anchors.resolve e.key, ← m.anchors.resolve e.value⟩

/-- The greatest distance from the start of a key to the colon after it. -/
def longestKey : Nat := 1024

/-- The value of a key that has none. -/
def noValue : Content := .scalar ⟨.plain, none, ""⟩

/-! ## Mappings in lines -/

/-- The source from the next token on, which stands on a later line than the node before it and
belongs to an entry at the given column or to what surrounds the mapping. -/
def settled (column : Nat) (x : Found) : Option Source :=
  match x.next false with
  | [] => some []
  | g :: r => if x.line < g.line ∧ g.column ≤ column then some (g :: r) else none

/-- The value after a colon, which ends the entry. -/
def blockValue (column : Nat) (tabs : Bool) (key : Found) (s : Source) :
    Option (Entry Content × Scope × Source) := do
  let value ← node (.inBlock (column + 1)) key.scope tabs s
  return (⟨key.content, value.content⟩, value.scope, ← settled column value)

/-- An entry whose key has a mark before it, after that mark. -/
def markedEntry (column : Nat) (scope : Scope) (s : Source) :
    Option (Entry Content × Scope × Source) := do
  let key ← node (.inBlock (column + 1)) scope false s
  match ← settled column key with
  | [] => return (⟨key.content, noValue⟩, key.scope, [])
  | g :: r =>
    if g.char = ':' ∧ g.column = column ∧ blankAhead r then blockValue column false key r
    else return (⟨key.content, noValue⟩, key.scope, g :: r)

/-- An entry whose key has no mark before it. The key stands on one line with the colon. -/
def plainEntry (start : Glyph) (scope : Scope) (s : Source) :
    Option (Entry Content × Scope × Source) := do
  let key ← node (.inBlock start.column) scope false s
  match key.next false with
  | [] => none
  | g :: r =>
    if g.char = ':' ∧ blankAhead r ∧ g.line = start.line ∧ g.column ≤ start.column + longestKey then
      blockValue start.column true key r
    else none

/-- The entries at the given column, and the source after them, if there are fewer entries than the
given number. -/
def blockEntriesUpTo (column : Nat) : Nat → Scope → Source → Option Mapping
  | 0, _, _ => none
  | _ + 1, scope, [] => some ⟨[], scope.anchors, []⟩
  | k + 1, scope, g :: r =>
    if g.column < column || atMarker (g :: r) then some ⟨[], scope.anchors, g :: r⟩
    else if column < g.column then none
    else do
      let marked := g.char = '?' ∧ blankAhead r
      let (entry, scope, rest) ←
        if marked then markedEntry column scope r else plainEntry g scope (g :: r)
      (blockEntriesUpTo column k scope rest).map (Mapping.cons entry)

/-- The entries at the given column, and the source after them. Each takes a character at least. -/
def blockEntries (column : Nat) (scope : Scope) (s : Source) : Option Mapping :=
  blockEntriesUpTo column (s.length + 1) scope s

/-! ## Mappings between braces -/

/-- The value after a key and a colon, if there is one. -/
def flowValue (key : Found) (near : Glyph → Bool) : Option (Entry Content × Scope × Source) :=
  match key.next true with
  | [] => none
  | g :: r =>
    if g.char = ':' then
      if near g then do
        let value ← node .inFlow key.scope true r
        return (⟨key.content, value.content⟩, value.scope, value.rest)
      else none
    else some (⟨key.content, noValue⟩, key.scope, g :: r)

/-- An entry from its first character on. Without a mark before it, a key stands on one line with
the colon. -/
def flowEntry (scope : Scope) : Source → Option (Entry Content × Scope × Source)
  | [] => none
  | g :: r =>
    if g.char = '?' then do
      flowValue (← node .inFlow scope true r) fun _ => true
    else do
      flowValue (← node .inFlow scope true (g :: r)) fun colon =>
        colon.line == g.line && colon.column ≤ g.column + longestKey

/-- The entries up to the closing brace, and the source after it, if there are fewer entries than
the given number. -/
def flowEntriesUpTo : Nat → Scope → Source → Option Mapping
  | 0, _, _ => none
  | k + 1, scope, s =>
    match gap true true s with
    | [] => none
    | g :: r =>
      if g.char = '\x7d' then some ⟨[], scope.anchors, r⟩
      else do
        let (entry, scope, rest) ← flowEntry scope (g :: r)
        match gap true true rest with
        | [] => none
        | h :: rest =>
          if h.char = '\x7d' then some ⟨[entry], scope.anchors, rest⟩
          else if h.char ≠ ',' then none
          else (flowEntriesUpTo k scope rest).map (Mapping.cons entry)

/-- The entries up to the closing brace, and the source after it. Each takes a character at
least. -/
def flowEntries (scope : Scope) (s : Source) : Option Mapping :=
  flowEntriesUpTo (s.length + 1) scope s

/-! ## Documents -/

/-- The properties of the mapping, and the source from the mapping on. Properties that stand on
one line with a key belong to the key; the others belong to the mapping, which has one anchor and
one tag at most. -/
def mappingProperties (scope : Scope) : Nat → Properties → Source → Option (Properties × Source)
  | 0, _, _ => none
  | k + 1, p, s => do
    let sameLine := fun rest : Source =>
      decide (rest.head?.map (·.line) = s.head?.map (·.line))
    let (more, rest) ← properties scope.handles false (fun rest => !sameLine rest) s
    if more.isEmpty || sameLine rest && !oneOfAhead "\x7b" rest then return (p, s)
    else if p.anchor.isSome && more.anchor.isSome || p.tag.isSome && more.tag.isSome then none
    else mappingProperties scope k ⟨p.anchor.or more.anchor, p.tag.or more.tag⟩ rest

/-- The mapping of a document, which has no entries where the document holds nothing. A mapping in
lines does not start on the given line. -/
def topNode (scope : Scope) (line : Option Nat) (s : Source) : Option Mapping := do
  let (p, s) ← mappingProperties scope 3 {} (gap false line.isSome s)
  let scope := scope.define p.anchor none
  match s with
  | [] => return ⟨[], scope.anchors, []⟩
  | g :: r =>
    if atMarker (g :: r) then return ⟨[], scope.anchors, g :: r⟩
    else if g.char = '\x7b' then
      let m ← flowEntries scope r
      return { m with rest := gap false true m.rest }
    else if line = some g.line then none
    else blockEntries g.column scope (g :: r)

/-- Nothing follows a document but the mark for its end. -/
def isClosed (s : Source) : Bool :=
  match s with
  | [] => true
  | g :: r =>
    isMarker '.' (g :: r) && isClosed (gap false true (r.drop 2))
termination_by s.length
decreasing_by
  have := length_gap_le false true (r.drop 2)
  simp only [List.length_drop, List.length_cons] at *
  omega

/-- The mapping that a text holds. -/
def Document.mapping? (text : List Char) : Option Mapping := do
  let s ← Source.ofText? text
  let (d, s) ← directives {} (gap false false s)
  let scope : Scope := ⟨d.handles ++ knownHandles, {}⟩
  let m ←
    match s with
    | [] => if d.count = 0 then some ⟨[], {}, []⟩ else none
    | g :: r =>
      if isMarker '-' (g :: r) then topNode scope (some g.line) (r.drop 2)
      else if d.count = 0 ∧ !atMarker (g :: r) then topNode scope none (g :: r)
      else none
  if isClosed m.rest then some m else none

/-- The entries of the mapping that a text holds. A text that holds nothing has no entries. -/
def Document.entries? (text : List Char) : Option (List (Entry Scalar)) :=
  (Document.mapping? text).bind Mapping.resolve

end BenchTally.Yaml
