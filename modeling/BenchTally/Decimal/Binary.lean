set_option autoImplicit false
set_option relaxedAutoImplicit false

/-!
# Doubles as exact numbers

A double is not a number, infinite, or exactly `± m · 2 ^ e`. This is the view of a double that
the decimal modules compute with: everything behind it is integer arithmetic.

## Main definitions

* `Binary` — the three cases.
* `Binary.ofFloat` — the case of a double, read off its bits.
* `Binary.scaled` — the integer nearest to `m · 2 ^ e · 10 ^ n`, a half going to the even one.
* `roundDivEven` — a quotient to the nearest integer, a half going to the even one.

## Main results

* `two_mul_roundDivEven_mul_le`, `le_two_mul_roundDivEven_mul` — the rounded quotient is within a
  half of the exact one.
-/

namespace BenchTally

/-- What a double stands for. -/
inductive Binary where
  /-- Not a number. -/
  | nan
  /-- Beyond all numbers, on either side. -/
  | infinity (negative : Bool)
  /-- The number `mantissa · 2 ^ exponent`, or its negative; zero has two signs. -/
  | finite (negative : Bool) (mantissa : Nat) (exponent : Int)
  deriving DecidableEq, Repr

/-- The exponent of the least positive double. -/
def Binary.minExponent : Int := -1074

/-- What a double stands for, from its sign bit, its eleven exponent bits and the other 52. -/
def Binary.ofFloat (x : Float) : Binary :=
  let bits := x.toBits.toNat
  let negative := Nat.pow 2 63 ≤ bits
  let exponent : Nat := bits / Nat.pow 2 52 % Nat.pow 2 11
  let fraction : Nat := bits % Nat.pow 2 52
  if exponent = 2047 then
    if fraction = 0 then .infinity negative else .nan
  else if exponent = 0 then .finite negative fraction Binary.minExponent
  else .finite negative (fraction + Nat.pow 2 52) ((exponent : Int) - 1 + Binary.minExponent)

/-! ## Rounding a quotient -/

/-- The integer nearest to `a / b`; of two equally near, the even one. -/
def roundDivEven (a b : Nat) : Nat :=
  let q := a / b
  let r := a % b
  if 2 * r < b then q
  else if b < 2 * r then q + 1
  else if q % 2 = 0 then q else q + 1

/-- The rounded quotient is at most a half above the exact one. -/
theorem two_mul_roundDivEven_mul_le (a b : Nat) :
    2 * (roundDivEven a b * b) ≤ 2 * a + b := by
  have h := Nat.div_add_mod a b
  rw [Nat.mul_comm] at h
  unfold roundDivEven
  dsimp only
  split
  · omega
  · split
    · rw [Nat.add_mul]; omega
    · split
      · omega
      · rw [Nat.add_mul]; omega

/-- The rounded quotient is at most a half below the exact one. -/
theorem le_two_mul_roundDivEven_mul (a : Nat) {b : Nat} (hb : 0 < b) :
    2 * a ≤ 2 * (roundDivEven a b * b) + b := by
  have h := Nat.div_add_mod a b
  have hr := Nat.mod_lt a hb
  rw [Nat.mul_comm] at h
  unfold roundDivEven
  dsimp only
  split
  · omega
  · split
    · rw [Nat.add_mul]; omega
    · split
      · omega
      · rw [Nat.add_mul]; omega

/-- The integer nearest to `m · 2 ^ e · 10 ^ n`; of two equally near, the even one. -/
def Binary.scaled (m : Nat) (e : Int) (n : Nat) : Nat :=
  roundDivEven (m * Nat.pow 2 e.toNat * Nat.pow 10 n) (Nat.pow 2 (-e).toNat)

/-- One and a half, a quarter and two and a half tenths: the last is a tie. -/
example : Binary.scaled 3 (-1) 1 = 15 ∧ Binary.scaled 1 (-2) 1 = 2 := by decide

end BenchTally
