import BenchTally.Decimal.Binary
import BenchTally.Proofs.Double.Packing
import Mathlib.Tactic.FieldSimp
import Mathlib.Tactic.Linarith
import Mathlib.Tactic.LinearCombination

set_option autoImplicit false
set_option relaxedAutoImplicit false

/-!
# Rounding to the nearest double

Of an exact quotient as many bits are cut off as leave 53 of them, and two bits tell what was cut
off. What is then rounded to a whole number is the quotient of the same number by a larger divisor,
so that all is a matter of dividing whole numbers, rounding half to even.

## Main definitions

* `Double.Nearest` — the parts of the double that is nearest to a rational number.
* `Double.extended` — a quotient that is cut off to a whole number, with two more bits of it.
* `Double.surplus` — the number of bits that are cut off.

## Main results

* `Double.Nearest.mono`, `Double.Nearest.eq_zero_iff` — rounding keeps the order, and what it makes
  zero.
* `Double.nearest_roundDivEven` — rounding to a whole number of units gives the nearest double.
* `Double.roundWithAccuracy_nearest` — what is made of a quotient bit by bit is the nearest double.
-/

namespace BenchTally

/-! ## Rounding to a whole number -/

section Whole

variable {n d : ℕ}

/-- What is half a divisor away from a multiple is rounded to an even one. -/
lemma roundDivEven_even (hd : 0 < d)
    (h : 2 * n + d = 2 * (roundDivEven n d * d) ∨ 2 * n = 2 * (roundDivEven n d * d) + d) :
    Even (roundDivEven n d) := by
  have hdiv := Nat.div_add_mod n d
  have hmod := Nat.mod_lt n hd
  rw [Nat.mul_comm] at hdiv
  rw [Nat.even_iff]
  revert h
  unfold roundDivEven
  dsimp only
  split_ifs
  · omega
  · rw [Nat.add_mul]
    omega
  · omega
  · omega

/-- The rounded quotient is within a half of the exact one. -/
lemma abs_sub_roundDivEven_le (hd : 0 < d) : |(n / d : ℚ) - roundDivEven n d| ≤ 1 / 2 := by
  have hpos : (0 : ℚ) < d := by exact_mod_cast hd
  have habove : (2 * (roundDivEven n d * d) : ℚ) ≤ 2 * n + d := by
    exact_mod_cast two_mul_roundDivEven_mul_le n d
  have hbelow : (2 * n : ℚ) ≤ 2 * (roundDivEven n d * d) + d := by
    exact_mod_cast le_two_mul_roundDivEven_mul n hd
  have hquotient : (n / d : ℚ) * d = n := div_mul_cancel₀ _ hpos.ne'
  rw [abs_le]
  constructor
  · nlinarith
  · nlinarith

/-- No number is near to two whole numbers. -/
lemma one_le_abs_sub_add_abs_sub {j k : ℕ} (h : j ≠ k) (x : ℚ) : 1 ≤ |x - j| + |x - k| := by
  have hone : (1 : ℤ) ≤ |(j : ℤ) - k| := Int.one_le_abs (by omega)
  calc (1 : ℚ) ≤ |(j : ℚ) - k| := by exact_mod_cast hone
    _ ≤ |(j : ℚ) - x| + |x - k| := abs_sub_le _ _ _
    _ = |x - j| + |x - k| := by rw [abs_sub_comm (j : ℚ) x]

/-- **The rounded quotient is a nearest whole number.** -/
lemma abs_sub_roundDivEven_le_abs_sub (hd : 0 < d) (j : ℕ) :
    |(n / d : ℚ) - roundDivEven n d| ≤ |(n / d : ℚ) - j| := by
  rcases eq_or_ne j (roundDivEven n d) with rfl | hj
  · exact le_rfl
  · have hhalf := abs_sub_roundDivEven_le (n := n) hd
    have hone := one_le_abs_sub_add_abs_sub hj (n / d : ℚ)
    linarith

/-- A quotient half way between two whole numbers is rounded to the even one. -/
lemma even_of_abs_sub_eq_half (hd : 0 < d) (h : |(n / d : ℚ) - roundDivEven n d| = 1 / 2) :
    Even (roundDivEven n d) := by
  have hquotient : (n / d : ℚ) * d = n := div_mul_cancel₀ _ (by exact_mod_cast hd.ne')
  refine roundDivEven_even hd ?_
  rcases (abs_eq (by norm_num)).1 h with heq | heq
  · have hcast : (2 * n : ℚ) = 2 * (roundDivEven n d * d) + d := by
      linear_combination 2 * d * heq - 2 * hquotient
    exact .inr (by exact_mod_cast hcast)
  · have hcast : (2 * n + d : ℚ) = 2 * (roundDivEven n d * d) := by
      linear_combination 2 * d * heq - 2 * hquotient
    exact .inl (by exact_mod_cast hcast)

/-- If another whole number is as near, the rounded quotient is even. -/
lemma even_of_abs_sub_eq (hd : 0 < d) {j : ℕ} (hj : j ≠ roundDivEven n d)
    (h : |(n / d : ℚ) - j| = |(n / d : ℚ) - roundDivEven n d|) : Even (roundDivEven n d) := by
  apply even_of_abs_sub_eq_half hd
  have hle := abs_sub_roundDivEven_le (n := n) hd
  have hone := one_le_abs_sub_add_abs_sub hj (n / d : ℚ)
  linarith

/-- A whole number below the quotient is not above the rounded one. -/
lemma le_roundDivEven {q : ℕ} (hd : 0 < d) (h : q * d ≤ n) : q ≤ roundDivEven n d := by
  have hnear := le_two_mul_roundDivEven_mul n hd
  by_contra hlt
  have hmul := Nat.mul_le_mul_right d (Nat.succ_le_of_lt (not_le.1 hlt))
  rw [Nat.succ_mul] at hmul
  omega

/-- A whole number above the quotient is not below the rounded one. -/
lemma roundDivEven_le {q : ℕ} (hd : 0 < d) (h : n ≤ q * d) : roundDivEven n d ≤ q := by
  have hnear := two_mul_roundDivEven_mul_le n d
  by_contra hlt
  have hmul := Nat.mul_le_mul_right d (Nat.succ_le_of_lt (not_le.1 hlt))
  rw [Nat.succ_mul] at hmul
  omega

end Whole

namespace Double

open Float.Model Float.Model.UnpackedFloat

/-! ## Rounding to a double -/

/-- The number `m * 2 ^ e` is nearest to `x` among all that have a mantissa of 53 bits and an
exponent that is not too small; if another one is as near, the mantissa is even. -/
structure Nearest (x : ℚ) (m : ℕ) (e : ℤ) : Prop where
  canonical : Canonical m e
  abs_sub_le : ∀ (m' : ℕ) (e' : ℤ), m' < 2 ^ 53 → -1074 ≤ e' →
    |x - m * 2 ^ e| ≤ |x - m' * 2 ^ e'|
  even : ∀ (m' : ℕ) (e' : ℤ), m' < 2 ^ 53 → -1074 ≤ e' →
    |x - m' * 2 ^ e'| = |x - m * 2 ^ e| → (m' * 2 ^ e' : ℚ) ≠ m * 2 ^ e → Even m

/-- What is as near to the greater of two numbers is not below their middle. -/
lemma abs_sub_le_abs_sub_iff {x p q : ℚ} (h : p < q) : |x - q| ≤ |x - p| ↔ p + q ≤ 2 * x := by
  rw [← sq_le_sq]
  constructor
  · intro hsq
    by_contra hlt
    nlinarith
  · intro hle
    nlinarith

/-- What is as near to the lesser of two numbers is not above their middle. -/
lemma abs_sub_le_abs_sub_iff' {x p q : ℚ} (h : p < q) : |x - p| ≤ |x - q| ↔ 2 * x ≤ p + q := by
  rw [← sq_le_sq]
  constructor
  · intro hsq
    by_contra hlt
    nlinarith
  · intro hle
    nlinarith

namespace Nearest

variable {x y : ℚ} {m m' : ℕ} {e e' : ℤ}

/-- A number below another one that needs no rounding is not rounded to one above it. -/
lemma le_of_le (h : Nearest x m e) (hm : m' < 2 ^ 53) (he : -1074 ≤ e') (hx : x ≤ m' * 2 ^ e') :
    (m * 2 ^ e : ℚ) ≤ m' * 2 ^ e' := by
  by_contra hlt
  rw [not_le] at hlt
  have hmiddle := (abs_sub_le_abs_sub_iff hlt).1 (h.abs_sub_le m' e' hm he)
  linarith

/-- A number above another one that needs no rounding is not rounded to one below it. -/
lemma ge_of_ge (h : Nearest x m e) (hm : m' < 2 ^ 53) (he : -1074 ≤ e') (hx : m' * 2 ^ e' ≤ x) :
    (m' * 2 ^ e' : ℚ) ≤ m * 2 ^ e := by
  by_contra hlt
  rw [not_le] at hlt
  have hmiddle := (abs_sub_le_abs_sub_iff' hlt).1 (h.abs_sub_le m' e' hm he)
  linarith

/-- A number that needs no rounding stays as it is. -/
lemma eq_of_eq (h : Nearest x m e) (hm : m' < 2 ^ 53) (he : -1074 ≤ e') (hx : x = m' * 2 ^ e') :
    (m * 2 ^ e : ℚ) = m' * 2 ^ e' :=
  le_antisymm (h.le_of_le hm he hx.le) (h.ge_of_ge hm he hx.ge)

/-- The exponent does not grow beyond that of a bound. -/
lemma exponent_le (h : Nearest x m e) (hm : m' < 2 ^ 53) (he : -1074 ≤ e') (hx : x ≤ m' * 2 ^ e') :
    e ≤ e' := by
  by_contra hlarge
  have hbits : 2 ^ 52 ≤ m := h.canonical.normal.resolve_right (by omega)
  refine absurd (h.le_of_le hm he hx) (not_le.2 ?_)
  calc (m' * 2 ^ e' : ℚ) < 2 ^ 52 * 2 ^ e := mul_zpow_lt hm (not_le.1 hlarge)
    _ ≤ m * 2 ^ e := by
        gcongr
        exact_mod_cast hbits

/-- **Rounding keeps the order.** -/
lemma mono (hx : Nearest x m e) (hy : Nearest y m' e') (h : x < y) :
    (m * 2 ^ e : ℚ) ≤ m' * 2 ^ e' := by
  by_contra hlt
  rw [not_le] at hlt
  -- The middle of the two results would be at most `x` and at least `y`.
  have hbelow := (abs_sub_le_abs_sub_iff hlt).1
    (hx.abs_sub_le m' e' hy.canonical.lt hy.canonical.minExponent_le)
  have habove := (abs_sub_le_abs_sub_iff' hlt).1
    (hy.abs_sub_le m e hx.canonical.lt hx.canonical.minExponent_le)
  linarith

/-- **What is rounded to zero** is at most half of the least positive double. -/
lemma eq_zero_iff (h : Nearest x m e) : m = 0 ↔ x ≤ 2 ^ (-1075 : ℤ) := by
  have hunit : (2 : ℚ) ^ (-1074 : ℤ) = 2 * 2 ^ (-1075 : ℤ) := by
    rw [← zpow_one_add₀ (by norm_num)]
    norm_num
  have hhalf : (0 : ℚ) < 2 ^ (-1075 : ℤ) := by positivity
  constructor
  · rintro rfl
    have hnear := h.abs_sub_le 1 (-1074) (by norm_num) le_rfl
    simp only [Nat.cast_zero, Nat.cast_one, zero_mul, one_mul] at hnear
    have hmiddle := (abs_sub_le_abs_sub_iff' (by positivity)).1 hnear
    linarith
  · intro hle
    by_contra hm
    have hunitPos : (0 : ℚ) < 2 ^ e := by positivity
    have hpos : (0 : ℚ) < m * 2 ^ e := by
      have := Nat.pos_of_ne_zero hm
      positivity
    have hleast : (2 : ℚ) ^ (-1074 : ℤ) ≤ 2 ^ e :=
      zpow_le_zpow_right₀ (by norm_num) h.canonical.minExponent_le
    have hnear := h.abs_sub_le 0 (-1074) (by norm_num) le_rfl
    have heven := h.even 0 (-1074) (by norm_num) le_rfl
    simp only [Nat.cast_zero, zero_mul] at hnear heven
    have hmiddle := (abs_sub_le_abs_sub_iff hpos).1 hnear
    -- The result can only be the least positive double, half way from which to zero `x` lies.
    have hone : (m : ℚ) ≤ 1 := le_of_mul_le_mul_right (by linarith) hunitPos
    obtain rfl : m = 1 := by
      have : m ≤ 1 := by exact_mod_cast hone
      omega
    have hvalue : ((1 : ℕ) * 2 ^ e : ℚ) = 2 * x := by
      rw [Nat.cast_one, one_mul] at hmiddle ⊢
      linarith
    refine absurd (heven ?_ hpos.ne) (by decide)
    rw [hvalue, two_mul, sub_add_cancel_left, abs_neg, sub_zero]

end Nearest

/-- A number with a mantissa of 53 bits is a multiple of a unit, or it is less than 53 bits of the
unit. -/
lemma eq_mul_zpow_or_lt {m : ℕ} {t e : ℤ} (hm : m < 2 ^ 53) :
    (∃ j : ℕ, (m * 2 ^ e : ℚ) = j * 2 ^ t) ∨ e < t ∧ (m * 2 ^ e : ℚ) < 2 ^ 52 * 2 ^ t := by
  rcases le_or_gt t e with he | he
  · obtain ⟨k, rfl⟩ := Int.exists_add_of_le he
    refine .inl ⟨m * 2 ^ k, ?_⟩
    rw [zpow_add₀ (by norm_num), zpow_natCast]
    push_cast
    ring
  · exact .inr ⟨he, mul_zpow_lt hm he⟩

/-- **Rounding by whole numbers.** If the unit in the last place is chosen so that a quotient has
53 bits, or is the least one, then rounding the quotient to a whole number of units makes it the
nearest double; it may take one bit more, and then another unit.

**Proof sketch.** Among the multiples of the unit the rounded quotient is a nearest one, even if
there are two. Numbers with a smaller exponent are below all quotients of 53 bits, and the least of
these is itself a multiple of the unit. -/
lemma nearest_roundDivEven {n d m : ℕ} {t e : ℤ} (hd : 0 < d)
    (hnormal : 2 ^ 52 * d ≤ n ∨ t = -1074) (h : Canonical m e)
    (hvalue : (m * 2 ^ e : ℚ) = roundDivEven n d * 2 ^ t)
    (heven : Even (roundDivEven n d) → Even m) :
    Nearest (n / d * 2 ^ t) m e := by
  have hunit : (0 : ℚ) < 2 ^ t := by positivity
  have hscale : ∀ j : ℕ, |(n / d * 2 ^ t : ℚ) - j * 2 ^ t| = |(n / d : ℚ) - j| * 2 ^ t := by
    intro j
    rw [← sub_mul, abs_mul, abs_of_pos hunit]
  have hle : ∀ j : ℕ, |(n / d * 2 ^ t : ℚ) - roundDivEven n d * 2 ^ t| ≤
      |(n / d * 2 ^ t : ℚ) - j * 2 ^ t| := fun j => by
    rw [hscale, hscale]
    exact mul_le_mul_of_nonneg_right (abs_sub_roundDivEven_le_abs_sub hd j) hunit.le
  have hbelow : ∀ {m' : ℕ} {e' : ℤ}, -1074 ≤ e' → e' < t →
      (m' * 2 ^ e' : ℚ) < 2 ^ 52 * 2 ^ t →
      |(n / d * 2 ^ t : ℚ) - roundDivEven n d * 2 ^ t| < |(n / d * 2 ^ t : ℚ) - m' * 2 ^ e'| := by
    intro m' e' hmin he hlt
    have hbits : (2 ^ 52 * 2 ^ t : ℚ) ≤ n / d * 2 ^ t := by
      have hn : 2 ^ 52 * d ≤ n := hnormal.resolve_right (by omega)
      gcongr
      rw [le_div_iff₀ (by exact_mod_cast hd)]
      exact_mod_cast hn
    have hunits := hle (2 ^ 52)
    rw [Nat.cast_pow, Nat.cast_ofNat, abs_of_nonneg (sub_nonneg.2 hbits)] at hunits
    refine hunits.trans_lt ?_
    rw [abs_of_nonneg (sub_nonneg.2 (hlt.le.trans hbits))]
    exact sub_lt_sub_left hlt _
  refine ⟨h, fun m' e' hm' he' => ?_, fun m' e' hm' he' heq hne => ?_⟩
  · rw [hvalue]
    rcases eq_mul_zpow_or_lt (t := t) (e := e') hm' with ⟨j, hj⟩ | ⟨he, hlt⟩
    · rw [hj]
      exact hle j
    · exact (hbelow he' he hlt).le
  · rw [hvalue] at heq hne
    rcases eq_mul_zpow_or_lt (t := t) (e := e') hm' with ⟨j, hj⟩ | ⟨he, hlt⟩
    · rw [hj, hscale, hscale] at heq
      rw [hj] at hne
      refine heven (even_of_abs_sub_eq hd (j := j) ?_ (mul_right_cancel₀ hunit.ne' heq))
      rintro rfl
      exact hne rfl
    · exact absurd heq (hbelow he' he hlt).ne'

/-! ## Rounding bit by bit -/

/-- A quotient that is cut off to a whole number, with two more bits of it. -/
def extended (n d : ℕ) : ExtendedMantissa :=
  .ofMantissaAndAccuracy (n / d) (accuracyOfFraction (n % d) d)

section Extended

variable {n d : ℕ}

/-- The two bits tell whether at least a half is cut off, and whether anything but a half is. -/
lemma extended_eq (hd : 0 < d) :
    extended n d =
      ⟨n / d, decide (d ≤ 2 * (n % d)), decide (n % d ≠ 0 ∧ 2 * (n % d) ≠ d)⟩ := by
  unfold extended accuracyOfFraction
  split_ifs with hzero
  · simp [ExtendedMantissa.ofMantissaAndAccuracy, hzero, hd.ne']
  · rcases lt_trichotomy (2 * (n % d)) d with h | h | h
    · rw [compare_lt_iff_lt.2 h]
      simp [ExtendedMantissa.ofMantissaAndAccuracy, hzero, h, h.ne]
    · rw [compare_eq_iff_eq.2 h]
      simp [ExtendedMantissa.ofMantissaAndAccuracy, hzero, h]
    · rw [compare_gt_iff_gt.2 h]
      simp [ExtendedMantissa.ofMantissaAndAccuracy, hzero, h.le, h.ne']

/-- The next bit to be cut off is that of the quotient by twice the divisor. -/
lemma shiftRightOne_extended (hd : 0 < d) :
    (extended n d).shiftRightOne = extended n (d * 2) := by
  have hmod : n % (d * 2) = n % d + d * (n / d % 2) := Nat.mod_mul
  have hlt := Nat.mod_lt n hd
  rw [extended_eq hd, extended_eq (by omega), ExtendedMantissa.shiftRightOne, hmod,
    Nat.div_div_eq_div_mul, ExtendedMantissa.mk.injEq]
  refine ⟨rfl, ?_, ?_⟩
  · rw [Bool.eq_iff_iff, bne_iff_ne, decide_eq_true_iff]
    rcases Nat.mod_two_eq_zero_or_one (n / d) with h | h <;> rw [h] <;> omega
  · rw [Bool.eq_iff_iff, Bool.or_eq_true, decide_eq_true_iff, decide_eq_true_iff,
      decide_eq_true_iff]
    rcases Nat.mod_two_eq_zero_or_one (n / d) with h | h <;> rw [h] <;> omega

lemma shiftRight_extended (hd : 0 < d) (k : ℕ) :
    extended n d >>> k = extended n (d * 2 ^ k) := by
  induction k with
  | zero => rw [pow_zero, mul_one]; rfl
  | succ k ih =>
    change (extended n d >>> k).shiftRightOne = _
    rw [ih, shiftRightOne_extended (by positivity), pow_succ, mul_assoc]

/-- The bits that are cut off decide as a division with remainder does. -/
lemma roundedMantissa_extended (hd : 0 < d) :
    (extended n d).roundedMantissa = roundDivEven n d := by
  have haccuracy : ∀ accuracy,
      (ExtendedMantissa.ofMantissaAndAccuracy (n / d) accuracy).roundedMantissa =
        accuracy.roundToNearestEven (n / d) := by
    rintro (_ | _ | _ | _) <;> rfl
  rw [extended, haccuracy]
  unfold accuracyOfFraction roundDivEven
  dsimp only
  rcases eq_or_ne (n % d) 0 with hzero | hzero
  · rw [if_pos hzero, hzero, if_pos hd]
    rfl
  · rw [if_neg hzero]
    rcases lt_trichotomy (2 * (n % d)) d with h | h | h
    · rw [compare_lt_iff_lt.2 h, if_pos h]
      rfl
    · rw [compare_eq_iff_eq.2 h, if_neg h.not_lt, if_neg h.not_gt]
      change n / d + n / d % 2 = _
      split_ifs <;> omega
    · rw [compare_gt_iff_gt.2 h, if_neg h.not_gt, if_pos h]
      rfl

end Extended

/-- The parts of a positive or negative double or of zero. -/
def ofParts (s : Sign) (m : ℕ) (e : ℤ) : UnpackedFloat :=
  if h : m = 0 then .zero s else .finite s m e (Nat.pos_of_ne_zero h)

lemma ofParts_zero (s : Sign) (e : ℤ) : ofParts s 0 e = .zero s :=
  rfl

lemma ofParts_of_pos {m : ℕ} (s : Sign) (e : ℤ) (hm : 0 < m) : ofParts s m e = .finite s m e hm :=
  dif_neg hm.ne'

/-- The exponent that leaves 53 bits, unless it is too small. -/
lemma targetExponent_eq (m : ℕ) (e : ℤ) :
    Format.binary64.targetExponent (totalExponent m e) = max (m.log2 + e - 52) (-1074) := by
  change max ((m.log2 : ℤ) + 1 + e - 53) (-1074) = _
  congr 1
  omega

/-- The number of bits that are cut off from a mantissa. -/
def surplus (m : ℕ) (e : ℤ) : ℕ :=
  (max (m.log2 + e - 52) (-1074) - e).toNat

/-- Cutting off the bits of a quotient that are too many. -/
lemma shiftToTargetExponent_quotient {n d : ℕ} (hd : 0 < d) (t : ℤ) :
    shiftToTargetExponent Format.binary64 (n / d) t (accuracyOfFraction (n % d) d) =
      (extended n (d * 2 ^ surplus (n / d) t), t + surplus (n / d) t) := by
  unfold shiftToTargetExponent shiftToExponent
  simp only [targetExponent_eq]
  rw [← shiftRight_extended hd]
  rfl

/-- Cutting off the bits of a whole number that are too many. -/
lemma shiftToTargetExponent_exact (m : ℕ) (e : ℤ) :
    shiftToTargetExponent Format.binary64 m e .exact =
      (extended m (2 ^ surplus m e), e + surplus m e) := by
  have hshift := shiftToTargetExponent_quotient (n := m) one_pos e
  rwa [Nat.div_one, Nat.mod_one, one_mul] at hshift

section Surplus

variable {m n d : ℕ} {t : ℤ}

/-- What is left has 53 bits at most. -/
lemma lt_of_surplus (hd : 0 < d) : n < 2 ^ 53 * (d * 2 ^ surplus (n / d) t) := by
  have hbits : (n / d).log2 + 1 ≤ 53 + surplus (n / d) t := by
    unfold surplus
    omega
  have hlt : n / d < 2 ^ (53 + surplus (n / d) t) :=
    Nat.lt_log2_self.trans_le (Nat.pow_le_pow_right (by decide) hbits)
  rw [Nat.div_lt_iff_lt_mul hd, pow_add] at hlt
  linarith

/-- What is left has 53 bits at least, or the exponent is the least one. -/
lemma le_of_surplus (hd : 0 < d) (ht : 2 ^ 52 * d ≤ n ∨ t ≤ -1074) :
    2 ^ 52 * (d * 2 ^ surplus (n / d) t) ≤ n ∨ t + surplus (n / d) t = -1074 := by
  have hlog : 52 ≤ (n / d).log2 ∨ t ≤ -1074 := ht.imp_left fun h => by
    have hquotient := (Nat.le_div_iff_mul_le hd).2 h
    exact (Nat.le_log2 (by omega)).2 hquotient
  by_cases hleast : t + surplus (n / d) t = -1074
  · exact .inr hleast
  · have hbits : (n / d).log2 = 52 + surplus (n / d) t := by
      unfold surplus at hleast ⊢
      omega
    have hle : 2 ^ (52 + surplus (n / d) t) ≤ n / d := by
      rw [← hbits]
      refine Nat.log2_self_le fun hzero => ?_
      rw [hzero, Nat.log2_zero] at hbits
      omega
    rw [Nat.le_div_iff_mul_le hd, pow_add] at hle
    exact .inl (by linarith)

lemma minExponent_le_add_surplus : -1074 ≤ t + surplus m t := by
  unfold surplus
  omega

/-- Nothing is cut off from a mantissa that fits. -/
lemma surplus_eq_zero (hm : m < 2 ^ 53) (ht : -1074 ≤ t) : surplus m t = 0 := by
  have hlog : m.log2 ≤ 52 := by
    rcases eq_or_ne m 0 with rfl | hne
    · decide
    · exact Nat.le_of_lt_succ ((Nat.log2_lt hne).2 hm)
  unfold surplus
  omega

/-- A mantissa of 54 bits loses one. -/
lemma surplus_two_pow (ht : -1074 ≤ t) : surplus (2 ^ 53) t = 1 := by
  unfold surplus
  rw [Nat.log2_two_pow]
  omega

end Surplus

lemma mantissa_extended (m : ℕ) {d : ℕ} (hd : 0 < d) : (extended m d).mantissa = m / d := by
  rw [extended_eq hd]

/-- **A quotient of 53 bits, rounded to a whole number of units**, makes the nearest double. It may
have been rounded to 54 bits, and then the last one, which is zero, is cut off. -/
lemma nearest_of_lt {n d : ℕ} {t : ℤ} (hd : 0 < d) (hlt : n < 2 ^ 53 * d)
    (hle : 2 ^ 52 * d ≤ n ∨ t = -1074) (hmin : -1074 ≤ t) :
    Nearest (n / d * 2 ^ t) (roundDivEven n d / 2 ^ surplus (roundDivEven n d) t)
      (t + surplus (roundDivEven n d) t) := by
  rcases (roundDivEven_le hd hlt.le).lt_or_eq with hfits | hcarry
  · rw [surplus_eq_zero hfits hmin, pow_zero, Nat.div_one, Nat.cast_zero, add_zero]
    exact nearest_roundDivEven hd hle ⟨hfits, hmin, hle.imp_left (le_roundDivEven hd)⟩ rfl id
  · rw [hcarry, surplus_two_pow hmin]
    refine nearest_roundDivEven hd hle ⟨by norm_num, by omega, .inl (by norm_num)⟩ ?_ ?_
    · rw [hcarry, Nat.cast_one, zpow_add_one₀ (by norm_num)]
      push_cast
      ring
    · exact fun _ => by decide

/-- **Rounding a quotient** of which enough bits are there gives the parts of the nearest double. -/
lemma roundWithAccuracy_nearest {s : Sign} {n d : ℕ} {t : ℤ} (hd : 0 < d)
    (ht : 2 ^ 52 * d ≤ n ∨ t ≤ -1074) :
    ∃ m e, Nearest (n / d * 2 ^ t) m e ∧
      roundWithAccuracy Format.binary64 s (n / d) t (accuracyOfFraction (n % d) d) =
        ofParts s m e := by
  have hnearest := nearest_of_lt (by positivity) (lt_of_surplus (n := n) (t := t) hd)
    (le_of_surplus hd ht) minExponent_le_add_surplus
  have hvalue : (n / ((d * 2 ^ surplus (n / d) t : ℕ) : ℚ) * 2 ^ (t + surplus (n / d) t) : ℚ) =
      n / d * 2 ^ t := by
    rw [zpow_add₀ (by norm_num), zpow_natCast]
    push_cast
    field_simp
  rw [hvalue] at hnearest
  refine ⟨_, _, hnearest, ?_⟩
  unfold roundWithAccuracy
  rw [shiftToTargetExponent_quotient hd]
  dsimp only
  rw [roundedMantissa_extended (by positivity), shiftToTargetExponent_exact,
    mantissa_extended _ (by positivity)]
  rfl

end Double

end BenchTally
