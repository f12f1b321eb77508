import BenchTally.Decimal.Binary

set_option autoImplicit false
set_option relaxedAutoImplicit false

/-!
# Shortest decimals

The decimal with the fewest digits among those that read back to a given double, and of these the
one nearest to it.

The numbers that round to `m · 2 ^ e` form an interval that reaches half way to each neighbouring
double; its ends belong to it if `m` is even. For one digit, two digits and so on, the two decimals
next to the number on the grid of that many digits are tried: if any decimal of the grid lies in
the interval, one of these two does.

## Main definitions

* `Decimal` — a number `digits · 10 ^ exponent`.
* `Decimal.Tie` — which of two decimals that are equally near is taken.
* `Decimal.nearestOnGrid?` — the decimal of a grid that is tried.
* `Decimal.shortest` — the shortest decimal of a positive double.
-/

namespace BenchTally

/-- The number `digits · 10 ^ exponent`. -/
structure Decimal where
  /-- The digits, as a number. -/
  digits : Nat
  /-- The power of ten that the last digit stands for. -/
  exponent : Int
  deriving DecidableEq, Repr

namespace Decimal

/-- Which of two decimals that are equally near is taken. -/
inductive Tie where
  /-- The one whose last digit is even. -/
  | even
  /-- The greater. -/
  | above
  deriving DecidableEq, Repr

/-- The number of decimal digits; zero has none. -/
def digitCount (n : Nat) : Nat :=
  if n = 0 then 0 else (Nat.toDigits 10 n).length

/-- The least `k` with `m · 2 ^ e < 10 ^ k`, for a positive `m`: the place of the decimal point
relative to the first digit. -/
def pointPlace (m : Nat) (e : Int) : Int :=
  let whole := m * Nat.pow 2 e.toNat / Nat.pow 2 (-e).toNat
  if 0 < whole then digitCount whole
  else 1 - (digitCount ((Nat.pow 2 (-e).toNat - 1) / m) : Int)

/-- The interval of the numbers that round to `m · 2 ^ e`, in units of `2 ^ (e - 2)`: the numbers
below a power of two lie twice as close as those above it. -/
def interval (m : Nat) (e : Int) : Nat × Nat :=
  (if m = Nat.pow 2 52 ∧ Binary.minExponent < e then 4 * m - 1 else 4 * m - 2, 4 * m + 2)

/-- The unit of the interval, multiplied by the powers that stand in the denominator of the unit or
of `10 ^ j`. -/
def gridUnit (e j : Int) : Nat :=
  Nat.pow 2 (e - 2).toNat * Nat.pow 10 (-j).toNat

/-- The step `10 ^ j` of a grid, multiplied by the same powers. -/
def gridStep (e j : Int) : Nat :=
  Nat.pow 10 j.toNat * Nat.pow 2 (2 - e).toNat

/-- Whether the decimal `d · 10 ^ j` rounds to `m · 2 ^ e`. -/
def roundsOnGrid (m : Nat) (e j : Int) (d : Nat) : Bool :=
  let low := (interval m e).1 * gridUnit e j
  let high := (interval m e).2 * gridUnit e j
  let number := d * gridStep e j
  if m % 2 = 0 then low ≤ number ∧ number ≤ high else low < number ∧ number < high

/-- The decimal next to `m · 2 ^ e` on the grid of the multiples of `10 ^ j`, if it rounds to it;
of two that do, the nearer, and of two equally near, the one that `tie` tells. -/
def nearestOnGrid? (tie : Tie) (m : Nat) (e : Int) (j : Int) : Option Decimal :=
  let step := gridStep e j
  let value := 4 * m * gridUnit e j
  let below := value / step
  let above := below + 1
  let takeBelow : Option Decimal := some ⟨below, j⟩
  let takeAbove : Option Decimal := some ⟨above, j⟩
  match 0 < below && roundsOnGrid m e j below, roundsOnGrid m e j above with
  | false, false => none
  | true, false => takeBelow
  | false, true => takeAbove
  | true, true =>
    let gapBelow := value - below * step
    let gapAbove := above * step - value
    if gapBelow < gapAbove then takeBelow
    else if gapAbove < gapBelow then takeAbove
    else if tie = .even ∧ below % 2 = 0 then takeBelow
    else takeAbove

/-- Ten on the grid of one digit is the one of the next power of ten. On finer grids a last digit
zero does not arise, as a coarser grid would have served. -/
def carryTen (d : Decimal) : Decimal :=
  if d.digits = 10 then ⟨1, d.exponent + 1⟩ else d

/-- The shortest decimal that rounds to `m · 2 ^ e`, for a positive `m`. Seventeen digits always
suffice for a double. -/
def shortest (tie : Tie) (m : Nat) (e : Int) : Decimal :=
  let place := pointPlace m e
  let tried := (List.range 17).findSome? fun (n : Nat) =>
    nearestOnGrid? tie m e (place - (n + 1 : Nat))
  carryTen (tried.getD ⟨Binary.scaled m e 0, 0⟩)

/-- One tenth, one third, the double below 10 ^ 23, and the least positive double. -/
example : shortest .even 7205759403792794 (-56) = ⟨1, -1⟩ ∧
    shortest .even 6004799503160661 (-54) = ⟨3333333333333333, -16⟩ ∧
    shortest .even 5960464477539062 24 = ⟨1, 23⟩ ∧
    shortest .even 1 (-1074) = ⟨5, -324⟩ := by
  decide +kernel

/-- A quarter above a number of sixteen digits lies between two decimals of seventeen. -/
example : shortest .even 4503599627370497 (-2) = ⟨11258999068426242, -1⟩ ∧
    shortest .above 4503599627370497 (-2) = ⟨11258999068426243, -1⟩ := by
  decide +kernel

end Decimal

end BenchTally
