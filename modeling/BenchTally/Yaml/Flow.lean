import BenchTally.Yaml.Source

set_option autoImplicit false
set_option relaxedAutoImplicit false

/-!
# Plain and quoted scalars

Scalars that are written with words: without quotes, between apostrophes, or between quotes with
escapes. Blanks between two words of a line are kept. A single line break between two words is
read as a space; of several the first is dropped.

## Main definitions

* `Yaml.Lexeme` — the text of a scalar, and the source after it.
* `Yaml.Pause` — the white space between two words.
* `Yaml.plain` — a scalar without quotes.
* `Yaml.singleQuoted`, `Yaml.doubleQuoted` — scalars with quotes.
-/

namespace BenchTally.Yaml

/-- A scalar that was read. -/
structure Lexeme where
  /-- The text that it stands for. -/
  text : List Char
  /-- The line of its last character. -/
  line : Nat
  /-- The source after it. -/
  rest : Source
  deriving DecidableEq, Repr

/-- A scalar with more text at its start. -/
def Lexeme.after (text : List Char) (x : Lexeme) : Lexeme :=
  { x with text := text ++ x.text }

/-! ## White space between words -/

/-- The white space between two words. The lists have the latest character first. -/
inductive Pause where
  /-- Blanks on one line. -/
  | blanks (text : List Char)
  /-- Line breaks; the first is missing where the writer has escaped it. -/
  | breaks (first : Option Char) (more : List Char)
  deriving DecidableEq, Repr

namespace Pause

/-- No white space. -/
def none : Pause := blanks []

/-- There is a line break. -/
def broken : Pause → Bool
  | blanks _ => false
  | breaks _ _ => true

/-- There is white space. -/
def present : Pause → Bool
  | blanks text => !text.isEmpty
  | breaks _ _ => true

/-- One more blank; next to line breaks it does not count. -/
def blank (c : Char) : Pause → Pause
  | blanks text => blanks (c :: text)
  | p => p

/-- One more line break; blanks before it do not count. -/
def newline (c : Char) : Pause → Pause
  | blanks _ => breaks (some c) []
  | breaks first more => breaks first (c :: more)

/-- What is read for the white space. -/
def text : Pause → List Char
  | blanks text => text.reverse
  | breaks .none more => more.reverse
  | breaks (some '\n') [] => [' ']
  | breaks (some '\n') more => more.reverse
  | breaks (some c) more => c :: more.reverse

/-- One break is a space, and of several the first is dropped. -/
example : (newline '\n' (blanks [' '])).text = [' '] ∧
    (newline '\n' (blank ' ' (newline '\n' none))).text = ['\n'] := by
  decide

end Pause

/-! ## Scalars without quotes -/

/-- The characters that have a meaning of their own at the start of a token. -/
def indicators : String := "-?:,[]\x7b\x7d#&*!|>'\"%@`"

/-- A scalar without quotes starts here. -/
def startsPlain (flow : Bool) : Source → Bool
  | [] => false
  | g :: r =>
    if isGap g.char || isBreak g.char then false
    else if g.char = '-' then !blankAhead r
    else if g.char = '?' || g.char = ':' then !flow && !blankAhead r
    else !indicators.toList.contains g.char

/-- A colon that ends a key, or in a flow collection a character of its own. -/
def endsPlain (flow : Bool) : Source → Bool
  | [] => true
  | g :: r => g.char == ':' && blankAhead r || flow && ",[]\x7b\x7d".toList.contains g.char

/-- The next line does not belong to the scalar: it starts further left, or a marker stands on
it. -/
def leavesPlain (flow : Bool) (indent : Nat) : Source → Bool
  | [] => true
  | g :: r => !flow && g.column < indent || atMarker (g :: r)

/-- A scalar without quotes, from any place inside of it. The white space before that place has
been read, and `line` is the line of the last word. -/
def plainFrom (flow : Bool) (indent line : Nat) (pause : Pause) : Source → Option Lexeme
  | [] => some ⟨[], line, []⟩
  | g :: r =>
    if isBreak g.char then plainFrom flow indent line (pause.newline g.char) r
    else if isGap g.char then
      if g.char = '\t' ∧ pause.broken ∧ g.column < indent then none
      else plainFrom flow indent line (pause.blank g.char) r
    else if pause.broken && leavesPlain flow indent (g :: r) then some ⟨[], line, g :: r⟩
    else if pause.present && g.char == '#' then some ⟨[], line, g :: r⟩
    else if flow && g.char == ':' && oneOfAhead ",?[]\x7b\x7d" r then none
    else if endsPlain flow (g :: r) then some ⟨[], line, g :: r⟩
    else
      (plainFrom flow indent g.line .none r).map (Lexeme.after (pause.text ++ [g.char]))

/-- A scalar without quotes. Outside of flow collections its lines start at `indent` or further
right. -/
def plain (flow : Bool) (indent : Nat) (s : Source) : Option Lexeme :=
  if startsPlain flow s then plainFrom flow indent 0 .none s else none

/-! ## Scalars with quotes -/

/-- A scalar between apostrophes, from any place inside of it. An apostrophe is written twice. -/
def singleQuotedFrom (pause : Pause) : Source → Option Lexeme
  | [] => none
  | g :: r =>
    if atMarker (g :: r) then none
    else if isBreak g.char then singleQuotedFrom (pause.newline g.char) r
    else if isGap g.char then singleQuotedFrom (pause.blank g.char) r
    else if g.char = '\'' then
      match r with
      | h :: r' =>
        if h.char = '\'' then
          (singleQuotedFrom .none r').map (Lexeme.after (pause.text ++ ['\'']))
        else some ⟨pause.text, g.line, h :: r'⟩
      | [] => some ⟨pause.text, g.line, []⟩
    else (singleQuotedFrom .none r).map (Lexeme.after (pause.text ++ [g.char]))

/-- The characters that an escape with one letter stands for. -/
def letterEscapes : List (Char × Char) :=
  [('0', '\u0000'), ('a', '\u0007'), ('b', '\u0008'), ('t', '\t'), ('\t', '\t'), ('n', '\n'),
    ('v', '\u000b'), ('f', '\u000c'), ('r', '\r'), ('e', '\u001b'), (' ', ' '), ('"', '"'),
    ('/', '/'), ('\\', '\\'), ('N', '\u0085'), ('_', '\u00a0'), ('L', '\u2028'), ('P', '\u2029')]

/-- The number of digits after the letter of an escape by number. -/
def numberEscapes : List (Char × Nat) :=
  [('x', 2), ('u', 4), ('U', 8)]

/-- The value of a hexadecimal digit. -/
def hexDigit? (c : Char) : Option Nat :=
  if c.isDigit then some (c.toNat - '0'.toNat)
  else if 'a' ≤ c && c ≤ 'f' then some (c.toNat - 'a'.toNat + 10)
  else if 'A' ≤ c && c ≤ 'F' then some (c.toNat - 'A'.toNat + 10)
  else none

/-- The character with the given number. -/
def charOf? (n : Nat) : Option Char :=
  if h : n.isValidChar then some (Char.ofNatAux n h) else none

/-- A scalar between quotes, from any place inside of it. Where an escape by number is being read,
`number` holds the digits that are missing and the value so far. -/
def doubleQuotedFrom (pause : Pause) (number : Option (Nat × Nat)) : Source → Option Lexeme
  | [] => none
  | g :: r =>
    match number with
    | some (missing, value) => do
      let value := value * 16 + (← hexDigit? g.char)
      if missing ≤ 1 then
        let c ← charOf? value
        (doubleQuotedFrom .none none r).map (Lexeme.after [c])
      else doubleQuotedFrom .none (some (missing - 1, value)) r
    | none =>
      if atMarker (g :: r) then none
      else if isBreak g.char then doubleQuotedFrom (pause.newline g.char) none r
      else if isGap g.char then doubleQuotedFrom (pause.blank g.char) none r
      else if g.char = '"' then some ⟨pause.text, g.line, r⟩
      else if g.char = '\\' then
        match r with
        | [] => none
        | h :: r' =>
          if isBreak h.char then
            (doubleQuotedFrom (.breaks none []) none r').map (Lexeme.after pause.text)
          else
            match letterEscapes.lookup h.char, numberEscapes.lookup h.char with
            | some c, _ => (doubleQuotedFrom .none none r').map (Lexeme.after (pause.text ++ [c]))
            | none, some digits =>
              (doubleQuotedFrom .none (some (digits, 0)) r').map (Lexeme.after pause.text)
            | none, none => none
      else (doubleQuotedFrom .none none r).map (Lexeme.after (pause.text ++ [g.char]))

/-- A scalar between apostrophes, after the first. -/
def singleQuoted (s : Source) : Option Lexeme :=
  singleQuotedFrom .none s

/-- A scalar between quotes, after the first. -/
def doubleQuoted (s : Source) : Option Lexeme :=
  doubleQuotedFrom .none none s

end BenchTally.Yaml
