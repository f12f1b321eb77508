set_option autoImplicit false
set_option relaxedAutoImplicit false

/-!
# Yaml text

The text of a yaml document as a list of characters with their places, and the gaps between its
tokens. Lines and columns matter: a token's column tells which collection it belongs to, and a
key ends on the line on which it starts.

## Main definitions

* `Yaml.Glyph` — a character with its line and its column.
* `Yaml.Source` — what is left of a document.
* `Yaml.Source.ofText?` — a whole document.
* `Yaml.gap` — the source from the next token on.
* `Yaml.atMarker` — the source starts with the mark between two documents.

## Main results

* `Yaml.length_gap_le` — a gap is never filled.
-/

namespace BenchTally.Yaml

/-- A character with its place in the text. -/
structure Glyph where
  /-- The character. -/
  char : Char
  /-- The line, counted from zero. -/
  line : Nat
  /-- The number of characters before it on its line. -/
  column : Nat
  deriving DecidableEq, Repr

/-- What is left of a document. -/
abbrev Source := List Glyph

/-- The characters that a document may hold. -/
def isAllowed (c : Char) : Bool :=
  c == '\t' || c == '\n' || c == '\r' || (' ' ≤ c && c ≤ '~') || c == '\u0085' ||
    ('\u00a0' ≤ c && c.toNat ≤ 0xfffd) || 0x10000 ≤ c.toNat

/-- The characters that end a line, once `unifyBreaks` has made one of those that mean the same. -/
def isBreak (c : Char) : Bool :=
  c == '\n' || c == '\u2028' || c == '\u2029'

/-- The characters that part words on a line. -/
def isGap (c : Char) : Bool :=
  c == ' ' || c == '\t'

/-- The text with one line feed for each carriage return, carriage return with line feed, and
next line character. -/
def unifyBreaks : List Char → List Char
  | [] => []
  | '\r' :: '\n' :: r => '\n' :: unifyBreaks r
  | c :: r => (if c = '\r' ∨ c = '\u0085' then '\n' else c) :: unifyBreaks r

/-- The characters of a text with their places, from the given place on. -/
def placed (line column : Nat) : List Char → Source
  | [] => []
  | c :: r =>
    ⟨c, line, column⟩ :: if isBreak c then placed (line + 1) 0 r else placed line (column + 1) r

/-- The source of a text, if all its characters are allowed. -/
def Source.ofText? (s : List Char) : Option Source :=
  if s.all isAllowed then some (placed 0 0 (unifyBreaks s)) else none

/-! ## Looking ahead -/

/-- The source starts with a blank or a line break, or is at its end. -/
def blankAhead : Source → Bool
  | [] => true
  | g :: _ => isGap g.char || isBreak g.char

/-- The source starts with a character of the list. -/
def oneOfAhead (cs : String) : Source → Bool
  | [] => false
  | g :: _ => cs.toList.contains g.char

/-- A line starts here with three times the given character and nothing attached to them. -/
def isMarker (c : Char) : Source → Bool
  | g :: h :: i :: r =>
    g.column == 0 && g.char == c && h.char == c && i.char == c && blankAhead r
  | _ => false

/-- A mark that starts or ends a document. -/
def atMarker (s : Source) : Bool :=
  isMarker '-' s || isMarker '.' s

/-! ## Gaps -/

/-- The source after the blanks at its start. -/
def skipBlanks (s : Source) : Source :=
  s.dropWhile fun g => isGap g.char

/-- The source from the next line on, where only a comment stands on the rest of this one. -/
def endOfLine (s : Source) : Option Source :=
  match skipBlanks s with
  | [] => some []
  | g :: r =>
    if isBreak g.char then some r
    else if g.char = '#' then some ((r.dropWhile fun g => !isBreak g.char).drop 1)
    else none

/-- The byte order mark, which may stand at the start of a line. -/
def orderMark : Char := '\ufeff'

/-- The characters that a gap may hold besides comments and line breaks. -/
def Glyph.skips (tabs : Bool) (g : Glyph) : Bool :=
  g.char == ' ' || (g.char == '\t' && tabs) || (g.char == orderMark && g.column == 0)

/-- The source without the gap at its start, which may start inside of a comment. A tab belongs to
the gap while `tabs` holds, and from the next line on in flow collections alone. -/
def gapFrom (flow tabs comment : Bool) : Source → Source
  | [] => []
  | g :: r =>
    if isBreak g.char then gapFrom flow flow false r
    else if comment then gapFrom flow tabs true r
    else if g.skips tabs then gapFrom flow tabs false r
    else if g.char = '#' then gapFrom flow tabs true r
    else g :: r

/-- The source from the next token on. -/
def gap (flow tabs : Bool) (s : Source) : Source :=
  gapFrom flow (flow || tabs) false s

/-- A gap that starts inside of a comment is never filled. -/
theorem length_gapFrom_le (flow tabs comment : Bool) (s : Source) :
    (gapFrom flow tabs comment s).length ≤ s.length := by
  fun_induction gapFrom flow tabs comment s <;> simp_all <;> omega

/-- A gap is never filled. -/
theorem length_gap_le (flow tabs : Bool) (s : Source) : (gap flow tabs s).length ≤ s.length :=
  length_gapFrom_le flow (flow || tabs) false s

end BenchTally.Yaml
