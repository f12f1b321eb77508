set_option autoImplicit false
set_option relaxedAutoImplicit false

/-!
# Quantities

The arithmetic that measurements and their statistics need. The program computes with doubles; the
definitions over an arbitrary quantity can also be read over exact numbers.

## Main definitions

* `Quantity` — numbers with sums, differences, quotients and a comparison.
* `Quantity.lesser`, `Quantity.greater` — the smaller and the larger of two, where a value that is
  not a number gives way to the other.
-/

namespace BenchTally

/-- Numbers that measurements and statistics are computed with. -/
class Quantity (α : Type) extends Add α, Sub α, Div α where
  /-- A whole number as a quantity. -/
  ofNat : Nat → α
  /-- The strict comparison. -/
  less : α → α → Bool
  /-- Whether the value is a number at all. -/
  isNumber : α → Bool

/-- Doubles, with the arithmetic of their format. -/
instance : Quantity Float where
  ofNat := Float.ofNat
  less a b := a < b
  isNumber a := a == a

namespace Quantity

variable {α : Type} [Quantity α]

/-- The smaller of two quantities. Of two equal ones it is the second, which shows in the sign of
a zero. -/
def lesser (a b : α) : α :=
  if isNumber b then (if less a b then a else b) else a

/-- The larger of two quantities. Of two equal ones it is the second, which shows in the sign of a
zero. -/
def greater (a b : α) : α :=
  if isNumber b then (if less b a then a else b) else a

end Quantity

end BenchTally
