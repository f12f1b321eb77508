import BenchTally.Proofs.Decimal.Nearest
import BenchTally.Proofs.Decimal.Reading

set_option autoImplicit false
set_option relaxedAutoImplicit false

/-!
# Doubles with fixed places

A double is written with a fixed number of places and read back. Writing rounds the exact number to
an integer of last places, and reading back rounds that integer of last places to a double.

## Main definitions

* `IsNearestInt` — the integer that a rational number is rounded to, a half going to the even one.
* `Decimal.readBack` — what the text of a double with fixed places is read as.

## Main results

* `IsNearestInt.mono` — rounding to an integer keeps the order.
* `Decimal.isNearestInt_scaled` — what a double with fixed places is rounded to.
* `Decimal.read?_writeFixed` — every text of a double with fixed places is read.
* `Decimal.isRounding_toFloat_tenths` — tenths are read as the nearest doubles.
-/

namespace BenchTally

open Float.Model Float.Model.UnpackedFloat Double

/-! ## Rounding to an integer -/

/-- An integer that is nearest to a rational number; of two equally near, the even one. -/
structure IsNearestInt (q : ℚ) (k : ℤ) : Prop where
  /-- The integer is within a half of the number. -/
  abs_sub_le : |q - k| ≤ 1 / 2
  /-- If the number is half way between two integers, it is the even one. -/
  even : |q - k| = 1 / 2 → Even k

namespace IsNearestInt

variable {p q : ℚ} {j k : ℤ}

/-- **Rounding to an integer keeps the order.** -/
lemma mono (hp : IsNearestInt p j) (hq : IsNearestInt q k) (h : p ≤ q) : j ≤ k := by
  by_contra hlt
  have hstep : (k : ℚ) + 1 ≤ j := by exact_mod_cast not_le.1 hlt
  have hbelow := (abs_le.1 hp.abs_sub_le).1
  have habove := (abs_le.1 hq.abs_sub_le).2
  -- Both numbers would be half way between the two integers, of which only one is even.
  have hj : Even j := by
    apply hp.even
    rw [abs_of_nonpos (by linarith)]
    linarith
  have hk : Even k := by
    apply hq.even
    rw [abs_of_nonneg (by linarith)]
    linarith
  have hnext : j = k + 1 := by
    have hcast : (j : ℚ) = k + 1 := by linarith
    exact_mod_cast hcast
  rw [Int.even_iff] at hj hk
  omega

/-- The opposite number is rounded to the opposite integer. -/
lemma neg (h : IsNearestInt q k) : IsNearestInt (-q) (-k) := by
  have habs : |-q - (-k : ℤ)| = |q - k| := by
    rw [← abs_neg]
    congr 1
    push_cast
    ring
  refine ⟨habs ▸ h.abs_sub_le, fun hhalf => ?_⟩
  rw [habs] at hhalf
  exact (h.even hhalf).neg

end IsNearestInt

/-- A rounded quotient is a nearest integer. -/
lemma isNearestInt_roundDivEven {n d : ℕ} (hd : 0 < d) :
    IsNearestInt (n / d) (roundDivEven n d) where
  abs_sub_le := by exact_mod_cast abs_sub_roundDivEven_le hd
  even h := by exact_mod_cast even_of_abs_sub_eq_half hd (by exact_mod_cast h)

namespace Decimal

/-- **A double with fixed places** is rounded to an integer of last places. -/
lemma isNearestInt_scaled (m : ℕ) (e : ℤ) (places : ℕ) :
    IsNearestInt (m * 2 ^ e * 10 ^ places) (Binary.scaled m e places) := by
  have hnearest := isNearestInt_roundDivEven (n := m * 2 ^ e.toNat * 10 ^ places)
    (d := 2 ^ (-e).toNat) (by positivity)
  have hvalue : ((m * 2 ^ e.toNat * 10 ^ places : ℕ) / (2 ^ (-e).toNat : ℕ) : ℚ) =
      m * 2 ^ e * 10 ^ places := by
    have htwo := zpow_mul_pow_toNat (a := 2) (by norm_num) e
    rw [div_eq_iff (by positivity)]
    push_cast
    rw [← htwo]
    ring
  rwa [hvalue] at hnearest

/-! ## The text -/

/-- **A number with places** is a row of digits around a point, with the number as its value. -/
lemma exists_writePlaces (n places : ℕ) :
    ∃ whole fraction, writePlaces n places = whole ++ '.' :: fraction ∧ IsDigits whole ∧
      (∀ c ∈ fraction, c.isDigit) ∧ fraction.length = places ∧
      Nat.ofDigitChars 10 (whole ++ fraction) 0 = n := by
  set padded := List.replicate (places + 1 - (Nat.toDigits 10 n).length) '0' ++ Nat.toDigits 10 n
    with hpadded
  have hlength : places + 1 ≤ padded.length := by
    rw [hpadded, List.length_append, List.length_replicate]
    omega
  have hdigits : ∀ c ∈ padded, c.isDigit :=
    List.forall_mem_append.2 ⟨fun _ => isDigit_of_mem_zeros, (isDigits_toDigits n).2⟩
  have hvalue : Nat.ofDigitChars 10 padded 0 = n := by
    rw [hpadded, Nat.ofDigitChars_append, Nat.ofDigitChars_replicate_zero, Nat.mul_zero,
      Nat.ofDigitChars_ten_toDigits]
  refine ⟨padded.take (padded.length - places), padded.drop (padded.length - places), rfl,
    ⟨?_, fun c hc => hdigits c (List.mem_of_mem_take hc)⟩,
    fun c hc => hdigits c (List.mem_of_mem_drop hc), ?_, ?_⟩
  · intro hnil
    have hzero := congrArg List.length hnil
    rw [List.length_take, List.length_nil] at hzero
    omega
  · rw [List.length_drop]
    omega
  · rw [List.take_append_drop, hvalue]

/-- What the text of an exact number with fixed places is read as. -/
def readBack (places : ℕ) : Binary → Float
  | .nan => notANumber
  | .infinity negative => if negative then -infinity else infinity
  | .finite negative m e =>
    let x := toFloat ⟨Binary.scaled m e places, -(places : ℤ)⟩
    if negative then -x else x

/-- **Every text of a double with fixed places is read.** -/
lemma read?_writeFixed (places : ℕ) (x : Float) :
    read? (writeFixed places x) = some (readBack places (Binary.ofFloat x)) := by
  unfold writeFixed
  cases Binary.ofFloat x with
  | nan => rfl
  | infinity negative => cases negative <;> rfl
  | finite negative m e =>
    obtain ⟨whole, fraction, heq, hwhole, hfraction, hlength, hvalue⟩ :=
      exists_writePlaces (Binary.scaled m e places) places
    have hread := readUnsigned?_point [] hwhole hfraction (by simp)
    rw [List.append_nil, hvalue, hlength, readExponent?, Option.map_some, zero_sub] at hread
    show read? (signText negative ++ writePlaces (Binary.scaled m e places) places) = _
    rw [heq]
    exact read?_signText negative (hwhole.exists_cons _) hread

/-! ## Tenths -/

/-- Tenths are read as the nearest doubles. -/
lemma isRounding_toFloat_tenths (n : ℕ) : IsRounding (toFloat ⟨n, -(1 : ℕ)⟩) (n / 10) := by
  have hround := isRounding_toFloat ⟨n, -(1 : ℕ)⟩
  rwa [value, zpow_neg, zpow_natCast, pow_one, ← div_eq_mul_inv] at hround

/-- **A double with one place** is rounded to an integer of tenths, and that to a double. -/
lemma exists_readBack {x : Float} {p : ℚ} (h : value? x = some (number p)) :
    ∃ k : ℤ, IsNearestInt (p * 10) k ∧ IsRounding (readBack 1 (Binary.ofFloat x)) (k / 10) := by
  obtain ⟨s, m, e, hcanonical, -, hparts, rfl⟩ := exists_parts h
  have hnearest := isNearestInt_scaled m e 1
  rw [pow_one] at hnearest
  have hrounding := isRounding_toFloat_tenths (Binary.scaled m e 1)
  rw [Binary.ofFloat_of_parts hcanonical hparts]
  cases s with
  | positive =>
    refine ⟨_, hnearest, ?_⟩
    rw [Int.cast_natCast, readBack, Binary.isNegative, if_neg Bool.false_ne_true]
    exact hrounding
  | negative =>
    refine ⟨_, (?_ : IsNearestInt (signed .negative (m * 2 ^ e) * 10) (-Binary.scaled m e 1)), ?_⟩
    · have hneg := hnearest.neg
      rwa [← neg_mul] at hneg
    · have hneg := isRounding_neg hrounding
      rw [← neg_div] at hneg
      rw [Int.cast_neg, Int.cast_natCast, readBack, Binary.isNegative, if_pos rfl]
      exact hneg

end Decimal

end BenchTally
