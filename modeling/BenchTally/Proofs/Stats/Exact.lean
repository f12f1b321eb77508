import BenchTally.Decimal.Reader
import BenchTally.Stats.Quantity
import Mathlib.Data.Rat.Defs
import Mathlib.Algebra.Order.Ring.Rat

set_option autoImplicit false
set_option relaxedAutoImplicit false

/-!
# Exact quantities

Over the rational numbers, the definitions for measurements compute without rounding.

## Main definitions

* `instQuantityRat` — the rational numbers as quantities.
* `Decimal.readExact?` — the rational number that a text denotes.
-/

namespace BenchTally

/-- Exact arithmetic. Each value is a number. -/
instance instQuantityRat : Quantity ℚ where
  ofNat n := n
  less a b := decide (a < b)
  isNumber _ := true

namespace Quantity

@[simp]
lemma ofNat_rat (n : Nat) : (ofNat n : ℚ) = n :=
  rfl

@[simp]
lemma less_rat_iff (a b : ℚ) : less a b = true ↔ a < b :=
  decide_eq_true_iff

end Quantity

namespace Decimal

/-- The exact value of a decimal. -/
def toRat (d : Decimal) : ℚ :=
  d.digits * 10 ^ d.exponent

/-- The rational number that a text denotes in digits, if it denotes one. -/
def readExact? (s : List Char) : Option ℚ :=
  let (negative, unsigned) := splitSign s
  (readUnsigned? unsigned).map fun d => if negative then -d.toRat else d.toRat

end Decimal

end BenchTally
