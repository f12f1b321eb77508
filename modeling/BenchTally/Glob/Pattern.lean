import BenchTally.Glob.Regex

set_option autoImplicit false
set_option relaxedAutoImplicit false

/-!
# File name patterns

Patterns in the usual shell notation, matched against the bytes of a whole name:

* `?` is one byte and `*` any number of bytes, neither of them a slash;
* `**` as a whole component of a path is any number of components, elsewhere it is `*`;
* `[...]` is one byte out of a class, `[!...]` and `[^...]` one byte outside of it;
* `{a,b}` is one of several patterns, where an empty one does not count;
* a backslash takes its special meaning from the character after it.

## Main definitions

* `Glob.Item` — the parts of a pattern.
* `Glob.Error` — why a text is no pattern.
* `Glob.parse` — the pattern that a text denotes.
* `Glob.toRegex` — the pattern as an expression over bytes.
* `Glob.accepts` — the names that a pattern matches.
-/

namespace BenchTally

namespace Glob

/-- A part of a pattern. -/
inductive Item where
  /-- The character itself. -/
  | literal (c : Char)
  /-- One byte that is not a slash. -/
  | anyByte
  /-- Any number of bytes that are not slashes. -/
  | anyRun
  /-- Any number of directories at the start. -/
  | leadingDirs
  /-- Everything below a directory. -/
  | trailingTree
  /-- Any number of directories in between. -/
  | middleDirs
  /-- One byte inside or outside of ranges of characters. -/
  | oneOf (negated : Bool) (ranges : List (Char × Char))
  /-- One of several patterns. -/
  | alternatives (branches : List (List Item))

end Glob

/-- A pattern. -/
structure Glob where
  /-- The parts of the pattern, in order. -/
  items : List Glob.Item

namespace Glob

/-- Why a text is no pattern. -/
inductive Error where
  /-- A class is not closed. -/
  | unclosedClass
  /-- A range of a class ends before it starts. -/
  | reversedRange
  /-- A group of alternatives is not closed. -/
  | unclosedGroup
  /-- A brace closes a group that was not opened. -/
  | unopenedGroup
  /-- Nothing follows the last backslash. -/
  | danglingEscape
  deriving DecidableEq, Repr

/-! ## Classes -/

/-- The ranges of a class, from the last range so far and the text after it. A `-` makes the next
character the end of the last range; at the end of the class it stands for itself. -/
def classRanges (last : Char × Char) : List Char → Except Error (List (Char × Char))
  | [] => .ok [last]
  | ['-'] => .ok [last, ('-', '-')]
  | '-' :: c :: r => if c < last.1 then .error .reversedRange else classRanges (last.1, c) r
  | c :: r => (classRanges (c, c) r).map (last :: ·)

/-- A class, from the text after its opening bracket, and what follows it. The first character of
a class always stands for itself. -/
def readClass (s : List Char) : Except Error (Item × List Char) :=
  let negated := s.head? == some '!' || s.head? == some '^'
  match if negated then s.drop 1 else s with
  | [] => .error .unclosedClass
  | first :: r =>
    match r.dropWhile (· ≠ ']') with
    | [] => .error .unclosedClass
    | _ :: rest =>
      (classRanges (first, first) (r.takeWhile (· ≠ ']'))).map fun ranges =>
        (.oneOf negated ranges, rest)

/-- What follows a class is shorter than what it was read from. -/
theorem length_readClass_lt {s rest : List Char} {item : Item}
    (h : readClass s = .ok (item, rest)) : rest.length < s.length := by
  unfold readClass at h
  dsimp only at h
  split at h
  · simp at h
  · rename_i first r hs
    split at h
    · simp at h
    · rename_i c rest' hr
      have h₁ : rest'.length < r.length := by
        have := (List.dropWhile_suffix (· ≠ ']') (l := r)).length_le
        rw [hr] at this
        exact this
      have h₂ : r.length < s.length := by
        split at hs
        · have := congrArg List.length hs
          simp only [List.length_drop, List.length_cons] at this
          omega
        · simp [hs]
      cases hc : classRanges (first, first) (r.takeWhile (· ≠ ']')) with
      | error e => rw [hc] at h; simp [Except.map] at h
      | ok ranges =>
        rw [hc] at h
        simp only [Except.map, Except.ok.injEq, Prod.mk.injEq] at h
        rw [← h.2]
        omega

/-! ## Reading a pattern -/

/-- A group of alternatives that is still open. Both lists have the latest element first. -/
structure OpenGroup where
  /-- The parts before the group. -/
  before : List Item
  /-- The alternatives before the current one. -/
  branches : List (List Item)

/-- What was read of a pattern: the parts of the current alternative, the latest first, and the
open groups around it, the innermost first. -/
structure Partial where
  /-- The parts of the current alternative. -/
  items : List Item
  /-- The open groups. -/
  groups : List OpenGroup

namespace Partial

/-- Nothing was read. -/
def start : Partial :=
  ⟨[], []⟩

/-- One part more. -/
def push (p : Partial) (item : Item) : Partial :=
  { p with items := item :: p.items }

/-- A group opens. -/
def openGroup (p : Partial) : Partial :=
  ⟨[], ⟨p.items, []⟩ :: p.groups⟩

/-- A comma starts the next alternative of a group; outside of groups it stands for itself. -/
def comma (p : Partial) : Partial :=
  match p.groups with
  | [] => p.push (.literal ',')
  | g :: gs => ⟨[], { g with branches := p.items.reverse :: g.branches } :: gs⟩

/-- A group closes and becomes a part of what is around it. -/
def closeGroup (p : Partial) : Except Error Partial :=
  match p.groups with
  | [] => .error .unopenedGroup
  | g :: gs =>
    .ok ⟨.alternatives (p.items.reverse :: g.branches).reverse :: g.before, gs⟩

/-- Two stars that are no component of a path. -/
def pushRuns (p : Partial) : Partial :=
  (p.push .anyRun).push .anyRun

/-- Two stars after a slash take the place of the slash; directories at the start and a tree at
the end take in those that follow. -/
def replaceLast (p : Partial) (item : Item) : Partial :=
  match p.items with
  | .leadingDirs :: _ | .trailingTree :: _ => p
  | _ :: r => { p with items := item :: r }
  | [] => p.push item

/-- Two stars in a row, given the character before them and the text after them; the result is
what was read, its last character, and the text that is left. -/
def doubleStar (p : Partial) (previous : Option Char) (rest : List Char) :
    Partial × Char × List Char :=
  let inGroup := !p.groups.isEmpty
  if p.items.isEmpty then
    match rest with
    | [] => (p.push .leadingDirs, '*', [])
    | '/' :: r => (p.push .leadingDirs, '/', r)
    | _ => (p.pushRuns, '*', rest)
  else if previous ≠ some '/' ∧ ¬ (inGroup ∧ (previous = some ',' ∨ previous = some '{')) then
    (p.pushRuns, '*', rest)
  else
    match rest with
    | [] => (p.replaceLast .trailingTree, '*', [])
    | '/' :: r => (p.replaceLast .middleDirs, '/', r)
    | c :: _ =>
      if inGroup ∧ (c = ',' ∨ c = '}') then (p.replaceLast .trailingTree, '*', rest)
      else (p.pushRuns, '*', rest)

/-- Two stars take nothing from the text after them but a slash. -/
theorem length_doubleStar_le (p : Partial) (previous : Option Char) (rest : List Char) :
    (p.doubleStar previous rest).2.2.length ≤ rest.length := by
  unfold doubleStar
  dsimp only
  split
  · split <;> simp
  · split
    · simp
    · split
      · simp
      · simp
      · split <;> simp

/-- The pattern, once its text is at its end. -/
def finish (p : Partial) : Except Error Glob :=
  if p.groups.isEmpty then .ok ⟨p.items.reverse⟩ else .error .unclosedGroup

end Partial

/-- Reads the rest of a pattern, given what was read and the character before the rest. -/
def readFrom (p : Partial) (previous : Option Char) : List Char → Except Error Glob
  | [] => p.finish
  | '?' :: r => readFrom (p.push .anyByte) (some '?') r
  | '*' :: '*' :: r =>
    let next := p.doubleStar previous r
    have : (p.doubleStar previous r).2.2.length ≤ r.length := p.length_doubleStar_le previous r
    readFrom next.1 (some next.2.1) next.2.2
  | '*' :: r => readFrom (p.push .anyRun) (some '*') r
  | '[' :: r =>
    match _h : readClass r with
    | .error e => .error e
    | .ok (item, rest) =>
      have : rest.length < r.length := length_readClass_lt _h
      readFrom (p.push item) (some ']') rest
  | '{' :: r => readFrom p.openGroup (some '{') r
  | '}' :: r =>
    match p.closeGroup with
    | .error e => .error e
    | .ok p => readFrom p (some '}') r
  | ',' :: r => readFrom p.comma (some ',') r
  | ['\\'] => .error .danglingEscape
  | '\\' :: c :: r => readFrom (p.push (.literal c)) (some c) r
  | c :: r => readFrom (p.push (.literal c)) (some c) r
  termination_by s => s.length

/-- The pattern that a text denotes. -/
def parse (s : List Char) : Except Error Glob :=
  readFrom .start none s

/-! ## Matching -/

/-- The slash between the components of a path. -/
def slash : UInt8 := 0x2f

/-- A text of given bytes. -/
def bytesRegex (bs : Bytes) : Regex :=
  bs.foldr (fun b r => (Regex.byte (.single b)).andThen r) .empty

/-- The bytes of a range of characters: those of its first character, those of its last, and all
between the last byte of the first and the first byte of the last. -/
def rangeBytes (r : Char × Char) : List (UInt8 × UInt8) :=
  let first := Text.encode r.1.toString
  let last := Text.encode r.2.toString
  let alone := fun b : UInt8 => (b, b)
  if r.1 = r.2 then first.map alone
  else
    first.dropLast.map alone ++ [(first.getLastD 0, last.headD 0)] ++ last.tail.map alone

/-- A text of the expression, or none. -/
def optional (r : Regex) : Regex :=
  .alt .empty r

/-- Any number of any bytes. -/
def anything : Regex :=
  .run .all

/-- A slash. -/
def slashRegex : Regex :=
  .byte (.single slash)

mutual

/-- A part of a pattern as an expression over bytes. -/
def Item.toRegex : Item → Regex
  | .literal c => bytesRegex (Text.encode c.toString)
  | .anyByte => .byte (.allBut slash)
  | .anyRun => .run (.allBut slash)
  | .leadingDirs => .alt (optional slashRegex) (.seq anything slashRegex)
  | .trailingTree => .seq slashRegex anything
  | .middleDirs => .alt slashRegex (.seq slashRegex (.seq anything slashRegex))
  | .oneOf negated ranges => .byte ⟨negated, ranges.flatMap rangeBytes⟩
  | .alternatives branches =>
    match branchRegexes branches with
    | [] => .empty
    | r :: rs => rs.foldl .alt r

/-- A row of parts as an expression over bytes. -/
def itemsRegex : List Item → Regex
  | [] => .empty
  | item :: items => item.toRegex.andThen (itemsRegex items)

/-- The alternatives of a group as expressions over bytes, without those that are empty. -/
def branchRegexes : List (List Item) → List Regex
  | [] => []
  | branch :: branches =>
    let r := itemsRegex branch
    if r = .empty then branchRegexes branches else r :: branchRegexes branches

end

/-- A pattern as an expression over bytes. The pattern that is nothing but `**` matches all
names. -/
def toRegex (g : Glob) : Regex :=
  match g.items with
  | [.leadingDirs] => anything
  | items => itemsRegex items

/-- Whether a pattern matches a name. -/
def accepts (g : Glob) (name : Bytes) : Bool :=
  g.toRegex.accepts name

end Glob

end BenchTally
