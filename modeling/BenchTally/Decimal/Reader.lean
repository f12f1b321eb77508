import BenchTally.Decimal.Shortest

set_option autoImplicit false
set_option relaxedAutoImplicit false

/-!
# Reading doubles

A double in decimal: an optional sign, then digits with at most one point among or beside them and
an optional exponent, or one of the words for infinity and for "not a number", in any case.

## Main definitions

* `Decimal.toFloat` — the double nearest to a decimal.
* `Decimal.read?` — the double that a text denotes.
-/

namespace BenchTally.Decimal

/-- The infinite double. -/
def infinity : Float := 1.0 / 0.0

/-- The double that is not a number. -/
def notANumber : Float := 0.0 / 0.0

/-- No double reaches this power of two. -/
def overflowPlace : Int := 1024

/-- This power of two is half the least positive double. -/
def underflowPlace : Int := -1075

/-- A decimal with digits other than zero is at least two to this power, as ten lies between two to
the powers three and four. -/
def leastPlace (d : Decimal) : Int :=
  Nat.log2 d.digits + (if d.exponent < 0 then 4 * d.exponent else 3 * d.exponent)

/-- A decimal is less than two to this power. -/
def placeAbove (d : Decimal) : Int :=
  Nat.log2 d.digits + 1 + (if d.exponent < 0 then 3 * d.exponent else 4 * d.exponent)

/-- The double nearest to a decimal. The bounds only spare the powers of ten of exponents whose
outcome is plain. -/
def toFloat (d : Decimal) : Float :=
  if d.digits = 0 then 0.0
  else if overflowPlace ≤ leastPlace d then infinity
  else if placeAbove d ≤ underflowPlace then 0.0
  else Float.ofScientific d.digits (d.exponent < 0) d.exponent.natAbs

/-- A sign, and what follows it; `true` is the minus sign. -/
def splitSign : List Char → Bool × List Char
  | '-' :: r => (true, r)
  | '+' :: r => (false, r)
  | r => (false, r)

/-- The exponent that ends a number: nothing, or the letter `e` with a row of digits that a sign
may precede. -/
def readExponent? : List Char → Option Int
  | [] => some 0
  | c :: r =>
    if c = 'e' ∨ c = 'E' then
      let (negative, digits) := splitSign r
      if digits.isEmpty || !digits.all Char.isDigit then none
      else
        let n : Int := Nat.ofDigitChars 10 digits 0
        some (if negative then -n else n)
    else none

/-- The digits after a point, and what follows them; without a point there are none. -/
def splitFraction : List Char → List Char × List Char
  | '.' :: r => (r.takeWhile Char.isDigit, r.dropWhile Char.isDigit)
  | r => ([], r)

/-- An unsigned number in digits. -/
def readUnsigned? (s : List Char) : Option Decimal :=
  let whole := s.takeWhile Char.isDigit
  let (fraction, rest) := splitFraction (s.dropWhile Char.isDigit)
  if whole.isEmpty && fraction.isEmpty then none
  else
    (readExponent? rest).map fun e =>
      ⟨Nat.ofDigitChars 10 (whole ++ fraction) 0, e - (fraction.length : Int)⟩

/-- An unsigned double: digits, or a word. -/
def readMagnitude? (s : List Char) : Option Float :=
  let word := s.map Char.toLower
  if word = "inf".toList ∨ word = "infinity".toList then some infinity
  else if word = "nan".toList then some notANumber
  else (readUnsigned? s).map toFloat

/-- The double that a text denotes, if it denotes one. -/
def read? (s : List Char) : Option Float :=
  let (negative, unsigned) := splitSign s
  (readMagnitude? unsigned).map fun x => if negative then -x else x

end BenchTally.Decimal
