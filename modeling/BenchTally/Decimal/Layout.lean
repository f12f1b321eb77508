import BenchTally.Decimal.Shortest

set_option autoImplicit false
set_option relaxedAutoImplicit false

/-!
# Written doubles

Two ways to write a double: with as many digits as identify it, in a layout that says where
positional notation ends, and with a fixed number of places.

## Main definitions

* `Decimal.Layout` — the choices of a layout.
* `Decimal.Layout.tableCell` — the layout of the numbers in written tables.
* `Decimal.Layout.message` — the layout of the numbers in messages.
* `Decimal.Layout.writeDecimal`, `Decimal.Layout.write` — a decimal and a double in a layout.
* `Decimal.writeFixed` — a double with a fixed number of places.
-/

namespace BenchTally.Decimal

/-- The text of a double that is not a number. -/
def nanText : String := "NaN"

/-- The text of an infinite double. -/
def infinityText (negative : Bool) : String :=
  if negative then "-inf" else "inf"

/-- The minus sign of a negative number. -/
def signText (negative : Bool) : List Char :=
  if negative then ['-'] else []

/-- The choices of a layout that are left open by "the shortest digits that read back". -/
structure Layout where
  /-- Whether a number is written without an exponent, given the place of its decimal point
  relative to its first digit: `0.01` has the place `-1`, and `10` the place `2`. -/
  positional : Int → Bool
  /-- What follows a whole number that is written without an exponent. -/
  wholeEnding : String
  /-- Which of two shortest decimals is written, if they are equally near. -/
  tie : Tie

/-- In a table, numbers from a hundred thousandth to below 10 ^ 16 have no exponent, and a whole
number still has one place after the point. -/
def Layout.tableCell : Layout where
  positional place := -5 < place && place ≤ 16
  wholeEnding := ".0"
  tie := .even

/-- In a message no number has an exponent, and a whole number has no point. -/
def Layout.message : Layout where
  positional _ := true
  wholeEnding := ""
  tie := .above

/-- Digits without an exponent, the point standing `place` digits after their start. -/
def Layout.writePositional (l : Layout) (digits : List Char) (place : Int) : List Char :=
  let whole := place.toNat
  if place ≤ 0 then '0' :: '.' :: List.replicate (-place).toNat '0' ++ digits
  else if digits.length ≤ whole then
    digits ++ List.replicate (whole - digits.length) '0' ++ l.wholeEnding.toList
  else digits.take whole ++ '.' :: digits.drop whole

/-- Digits with an exponent: the point stands after the first digit, if others follow it. -/
def writeScientific (digits : List Char) (place : Int) : List Char :=
  let fraction :=
    match digits.drop 1 with
    | [] => []
    | rest => '.' :: rest
  digits.take 1 ++ fraction ++ 'e' :: (toString (place - 1)).toList

/-- A decimal in a layout, with the digits that it has. -/
def Layout.writeDecimal (l : Layout) (d : Decimal) : List Char :=
  let digits := Nat.toDigits 10 d.digits
  let place := digits.length + d.exponent
  if l.positional place then l.writePositional digits place else writeScientific digits place

/-- A double in a layout, with the fewest digits that read back to it. -/
def Layout.write (l : Layout) (x : Float) : String :=
  match Binary.ofFloat x with
  | .nan => nanText
  | .infinity negative => infinityText negative
  | .finite negative 0 _ => String.ofList (signText negative ++ '0' :: l.wholeEnding.toList)
  | .finite negative m e =>
    String.ofList (signText negative ++ l.writeDecimal (shortest l.tie m e))

/-- The last `places` digits of a number after a point, the others before it. -/
def writePlaces (n places : Nat) : List Char :=
  let digits := Nat.toDigits 10 n
  let padded := List.replicate (places + 1 - digits.length) '0' ++ digits
  let whole := padded.length - places
  padded.take whole ++ '.' :: padded.drop whole

/-- A double with a fixed number of places, rounded from its exact value; a half goes to the even
last digit. A number that rounds to zero keeps its sign. -/
def writeFixed (places : Nat) (x : Float) : List Char :=
  match Binary.ofFloat x with
  | .nan => nanText.toList
  | .infinity negative => (infinityText negative).toList
  | .finite negative m e => signText negative ++ writePlaces (Binary.scaled m e places) places

end BenchTally.Decimal
