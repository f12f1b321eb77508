set_option autoImplicit false
set_option relaxedAutoImplicit false

/-!
# Words of a command line

## Main definitions

* `Word` — the shapes that a word of a command line has.
* `Word.ofText` — the shape of a word.
-/

namespace BenchTally

/-- The shapes that a word of a command line has. -/
inductive Word where
  /-- Two dashes, after which no word is an option. -/
  | endOfOptions
  /-- Two dashes with the name of an option, which may have a value attached. -/
  | long (name : List Char) (value : Option (List Char))
  /-- One dash with the letters of options. -/
  | short (letters : List Char)
  /-- Any other word, a lone dash among them. -/
  | plain
  deriving DecidableEq, Repr

/-- The name of an option, and the value that is attached with an equals sign. -/
def Word.attached (s : List Char) : List Char × Option (List Char) :=
  match s.dropWhile (· != '=') with
  | [] => (s, none)
  | _ :: value => (s.takeWhile (· != '='), some value)

/-- The shape of a word. -/
def Word.ofText : List Char → Word
  | ['-', '-'] => .endOfOptions
  | '-' :: '-' :: r => .long (attached r).1 (attached r).2
  | '-' :: c :: r => .short (c :: r)
  | _ => .plain

/-- A value may be empty, and holds all that follows the first equals sign. -/
example : Word.ofText "--pattern=a=b".toList = .long "pattern".toList (some "a=b".toList) ∧
    Word.ofText "--pattern=".toList = .long "pattern".toList (some []) ∧
    Word.ofText "-".toList = .plain := by
  decide

end BenchTally
