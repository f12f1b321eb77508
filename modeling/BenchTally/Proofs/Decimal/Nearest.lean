import BenchTally.Decimal.Reader
import BenchTally.Proofs.Double.Bits

set_option autoImplicit false
set_option relaxedAutoImplicit false

/-!
# Decimals as doubles

A decimal is made the double nearest to it, or an infinite one if it is too large. Decimals that lie
beyond plain bounds are not computed; for the others two powers of ten that need no rounding, or the
exact product or quotient, lead to the one rounding.

## Main definitions

* `Decimal.value` — a decimal as a rational number.

## Main results

* `Double.exists_nearest` — every number that is not negative has a nearest double.
* `Decimal.two_zpow_leastPlace_le`, `Decimal.value_lt_two_zpow_placeAbove` — the bounds are right.
* `Decimal.isRounding_toFloat` — a decimal is rounded to a double.
-/

namespace BenchTally

open Float.Model Float.Model.UnpackedFloat Double

/-! ## Very large and very small numbers -/

namespace Double

/-- Every number that is not negative has a nearest double, as it is a quotient. -/
lemma exists_nearest {q : ℚ} (hq : 0 ≤ q) : ∃ m e, Nearest q m e := by
  obtain ⟨n, hn⟩ := Int.eq_ofNat_of_zero_le (Rat.num_nonneg.2 hq)
  have hvalue : (n / q.den : ℚ) = q := by
    rw [← Int.cast_natCast n, ← hn, Rat.num_div_den]
  rcases n.eq_zero_or_pos with rfl | hpos
  · rw [Nat.cast_zero, zero_div] at hvalue
    exact ⟨0, -1074, hvalue ▸ nearest_zero⟩
  · obtain ⟨m, e, hnearest, -⟩ := div_parts .positive .positive 0 0 hpos q.den_pos
    rw [zpow_zero, mul_one, mul_one, hvalue] at hnearest
    exact ⟨m, e, hnearest⟩

end Double

namespace Decimal

/-- A number that no double reaches is rounded to the infinite double. -/
lemma isRounding_infinity {q : ℚ} (h : 2 ^ overflowPlace ≤ q) : IsRounding infinity q := by
  have hq : 0 ≤ q := le_trans (by positivity) h
  obtain ⟨m, e, hnearest⟩ := exists_nearest hq
  have hlarge : ((2 ^ 52 : ℕ) * 2 ^ (972 : ℤ) : ℚ) ≤ q := by
    refine le_trans (le_of_eq ?_) h
    rw [Nat.cast_pow, Nat.cast_ofNat, ← zpow_natCast, ← zpow_add₀ (by norm_num)]
    rfl
  have he : 971 < e := by
    by_contra hle
    have hlt := mul_zpow_lt hnearest.canonical.lt (show e < 972 by omega)
    have hge := hnearest.ge_of_ge (by norm_num) (by norm_num) hlarge
    rw [Nat.cast_pow, Nat.cast_ofNat] at hge
    exact hge.not_gt hlt
  have hm := hnearest.canonical.pos_of_lt he
  refine ⟨.positive, q, m, e, hq, rfl, hnearest, ?_⟩
  rw [ofParts_of_pos _ _ hm, pack_overflow hm he]
  rfl

/-- A number that is at most half the least positive double is rounded to zero. -/
lemma isRounding_zero {q : ℚ} (hq : 0 ≤ q) (h : q ≤ 2 ^ underflowPlace) : IsRounding 0.0 q := by
  obtain ⟨m, e, hnearest⟩ := exists_nearest hq
  obtain rfl := hnearest.eq_zero_iff.2 h
  exact ⟨.positive, q, 0, e, hq, rfl, hnearest, rfl⟩

/-! ## The bounds of a decimal -/

/-- A decimal as a rational number. -/
def value (d : Decimal) : ℚ :=
  d.digits * 10 ^ d.exponent

/-- A power is a quotient of which one side is one. -/
lemma zpow_mul_pow_toNat {a : ℚ} (ha : a ≠ 0) (k : ℤ) : a ^ k * a ^ (-k).toNat = a ^ k.toNat := by
  rw [← zpow_natCast, ← zpow_natCast, ← zpow_add₀ ha]
  congr 1
  omega

/-- A power of ten lies between the third and the fourth of these powers of two. -/
lemma ten_zpow_bounds {e : ℤ} (he : 0 ≤ e) :
    (2 : ℚ) ^ (3 * e) ≤ 10 ^ e ∧ (10 : ℚ) ^ e ≤ 2 ^ (4 * e) := by
  rw [zpow_mul, zpow_mul]
  exact ⟨zpow_le_zpow_left₀ he (by norm_num) (by norm_num),
    zpow_le_zpow_left₀ he (by norm_num) (by norm_num)⟩

/-- Below one they are the other way around. -/
lemma ten_zpow_bounds_of_neg {e : ℤ} (he : e < 0) :
    (2 : ℚ) ^ (4 * e) ≤ 10 ^ e ∧ (10 : ℚ) ^ e ≤ 2 ^ (3 * e) := by
  obtain ⟨hlow, hhigh⟩ := ten_zpow_bounds (e := -e) (by omega)
  rw [mul_neg, zpow_neg, zpow_neg] at hlow hhigh
  exact ⟨(inv_le_inv₀ (by positivity) (by positivity)).1 hhigh,
    (inv_le_inv₀ (by positivity) (by positivity)).1 hlow⟩

section Bounds

variable {d : Decimal}

/-- **A decimal other than zero** is at least two to the lower of its bounds. -/
lemma two_zpow_leastPlace_le (hd : d.digits ≠ 0) : 2 ^ leastPlace d ≤ value d := by
  have hdigits : (2 : ℚ) ^ (d.digits.log2 : ℤ) ≤ d.digits := by
    rw [zpow_natCast]
    exact_mod_cast Nat.log2_self_le hd
  unfold leastPlace value
  rw [zpow_add₀ (by norm_num)]
  split_ifs with he
  · exact mul_le_mul hdigits (ten_zpow_bounds_of_neg he).1 (by positivity) (by positivity)
  · exact mul_le_mul hdigits (ten_zpow_bounds (not_lt.1 he)).1 (by positivity) (by positivity)

/-- **Every decimal** is less than two to the upper of its bounds. -/
lemma value_lt_two_zpow_placeAbove (d : Decimal) : value d < 2 ^ placeAbove d := by
  have hdigits : (d.digits : ℚ) < 2 ^ (d.digits.log2 + 1 : ℤ) := by
    have hlog : d.digits < 2 ^ (d.digits.log2 + 1) := Nat.lt_log2_self
    exact_mod_cast hlog
  unfold placeAbove value
  rw [zpow_add₀ (by norm_num)]
  split_ifs with he
  · exact mul_lt_mul hdigits (ten_zpow_bounds_of_neg he).2 (by positivity) (by positivity)
  · exact mul_lt_mul hdigits (ten_zpow_bounds (not_lt.1 he)).2 (by positivity) (by positivity)

end Bounds

/-! ## Decimals between the bounds -/

/-- The powers of ten that are kept as doubles, by their bits. -/
lemma ofFloat_powerOfTen : ∀ k : Fin Float.exactlyRepresentablePowersOfTen.size,
    Binary.ofFloat Float.exactlyRepresentablePowersOfTen[k] =
      .finite false (10 ^ k.val * 2 ^ 52 / 2 ^ (10 ^ k.val).log2) ((10 ^ k.val).log2 - 52) := by
  decide

/-- Their mantissas have 53 bits, and nothing is cut off. -/
lemma mantissa_powerOfTen : ∀ k : Fin Float.exactlyRepresentablePowersOfTen.size,
    2 ^ 52 ≤ 10 ^ k.val * 2 ^ 52 / 2 ^ (10 ^ k.val).log2 ∧
      10 ^ k.val * 2 ^ 52 / 2 ^ (10 ^ k.val).log2 * 2 ^ (10 ^ k.val).log2 =
        10 ^ k.val * 2 ^ 52 := by
  decide

/-- **A power of ten that is kept as a double** is exact, and has 53 bits. -/
lemma unpack_powerOfTen (k : Fin Float.exactlyRepresentablePowersOfTen.size) :
    ∃ m e hm, Float.exactlyRepresentablePowersOfTen[k].toModel.unpack =
      .finite .positive m e hm ∧ 2 ^ 52 ≤ m ∧ (m * 2 ^ e : ℚ) = 10 ^ k.val := by
  obtain ⟨hbits, hexact⟩ := mantissa_powerOfTen k
  have hm : 0 < 10 ^ k.val * 2 ^ 52 / 2 ^ (10 ^ k.val).log2 := lt_of_lt_of_le (by norm_num) hbits
  refine ⟨_, _, hm, Binary.unpack_of_ofFloat hm (ofFloat_powerOfTen k), hbits, ?_⟩
  generalize 10 ^ k.val * 2 ^ 52 / 2 ^ (10 ^ k.val).log2 = m at hexact
  have hcast : (m * 2 ^ (10 ^ k.val).log2 : ℚ) = 10 ^ k.val * 2 ^ 52 := by exact_mod_cast hexact
  rw [zpow_sub₀ (by norm_num), zpow_natCast, ← mul_div_assoc, hcast]
  norm_num

/-- Few digits and a small power of ten are multiplied or divided as doubles. -/
lemma isRounding_ofScientific_small {n k : ℕ} (s : Bool) (hn : n < 2 ^ 53) (hk : k ≤ 22) :
    IsRounding (Float.ofScientific n s k) (n * 10 ^ (if s then -(k : ℤ) else k)) := by
  obtain ⟨m, e, hnearest, hparts⟩ := toFloat_nearest hn
  have hwhole : (n : ℚ) = n * 2 ^ (0 : ℤ) := by simp
  have hdigits : value? n.toUInt64.toFloat = some (number n) := by
    rw [value?, hparts, partsValue?_ofParts, signed, hnearest.eq_of_eq hn (by decide) hwhole,
      ← hwhole]
  obtain ⟨m', e', hm', hpower, hbits, hvalue⟩ :=
    unpack_powerOfTen ⟨k, Nat.lt_of_le_of_lt hk (by decide)⟩
  have hsize : k < 23 := Nat.lt_succ_of_le hk
  cases s with
  | false =>
    have hproduct : Float.ofScientific n false k =
        n.toUInt64.toFloat * Float.exactlyRepresentablePowersOfTen[k] :=
      dif_pos ⟨hn, hk⟩
    have hround := isRounding_mul hdigits hpower hbits
    rw [signed, hvalue] at hround
    rw [hproduct, if_neg Bool.false_ne_true, zpow_natCast]
    exact hround
  | true =>
    have hquotient : Float.ofScientific n true k =
        n.toUInt64.toFloat / Float.exactlyRepresentablePowersOfTen[k] :=
      dif_pos ⟨hn, hk⟩
    have hdivisor : value? Float.exactlyRepresentablePowersOfTen[k] = some (number (10 ^ k)) :=
      (value?_of_finite hpower).trans (by rw [hvalue])
    rw [hquotient, if_pos rfl, zpow_neg, zpow_natCast, ← div_eq_mul_inv]
    exact isRounding_div hdigits hdivisor (by positivity)

/-- Otherwise the exact product or quotient is rounded, if the power of ten is not out of bounds. -/
lemma isRounding_ofScientific_large {n : ℕ} {e : ℤ} (hn : 0 < n) (hlarge : e ≤ 2048)
    (hsmall : -(2048 + n.log2 : ℤ) ≤ e) :
    IsRounding (.ofModel (Float.Model.pack (UnpackedFloat.ofScientific Format.binary64 n e)))
      (n * 10 ^ e) := by
  have hbound : (2 ^ Format.binary64.exponentBits : ℤ) = 2048 := rfl
  rw [UnpackedFloat.ofScientific, dif_neg hn.ne', hbound, if_neg hlarge.not_gt,
    if_neg hsmall.not_gt]
  by_cases he : 0 ≤ e
  · rw [if_pos he]
    have hpos : 0 < n <<< Format.binary64.mantissaBits := by
      rw [Nat.shiftLeft_eq]
      positivity
    have hbits : 2 ^ 52 ≤ n <<< Format.binary64.mantissaBits * 10 ^ e.toNat := by
      rw [Nat.shiftLeft_eq]
      calc 2 ^ 52 ≤ 1 * 2 ^ 53 * 1 := by norm_num
        _ ≤ n * 2 ^ 53 * 10 ^ e.toNat :=
          Nat.mul_le_mul (Nat.mul_le_mul_right _ hn) (Nat.one_le_pow _ _ (by decide))
    obtain ⟨m, t, hnearest, hparts⟩ := mul_parts .positive .positive
      (-(Format.binary64.mantissaBits : ℤ)) 0 hpos (Nat.pow_pos (by decide)) hbits
    have hvalue : ((n <<< Format.binary64.mantissaBits : ℕ) * (10 ^ e.toNat : ℕ) *
        2 ^ (-(Format.binary64.mantissaBits : ℤ) + 0) : ℚ) = n * 10 ^ e := by
      have hpower : (10 : ℚ) ^ e = 10 ^ e.toNat := by
        rw [← zpow_natCast, Int.toNat_of_nonneg he]
      rw [Nat.shiftLeft_eq, add_zero, zpow_neg, zpow_natCast, hpower]
      push_cast
      field_simp
    rw [hvalue] at hnearest
    exact ⟨.positive, _, m, t, by positivity, rfl, hnearest,
      congrArg (fun u => Float.ofModel (Float.Model.pack u)) hparts⟩
  · rw [if_neg he]
    obtain ⟨m, t, hnearest, hparts⟩ := div_parts .positive .positive 0 0 hn
      (show 0 < 10 ^ (-e).toNat from Nat.pow_pos (by decide))
    have hvalue : (n * 2 ^ (0 : ℤ) / ((10 ^ (-e).toNat : ℕ) * 2 ^ (0 : ℤ)) : ℚ) = n * 10 ^ e := by
      obtain ⟨k, rfl⟩ : ∃ k : ℕ, e = -k := ⟨(-e).toNat, by omega⟩
      rw [neg_neg, Int.toNat_natCast, zpow_neg, zpow_natCast, zpow_zero, mul_one, mul_one]
      push_cast
      rw [div_eq_mul_inv]
    rw [hvalue] at hnearest
    exact ⟨.positive, _, m, t, by positivity, rfl, hnearest,
      congrArg (fun u => Float.ofModel (Float.Model.pack u)) hparts⟩

/-- If neither of the bounds that spare the powers of ten is reached, a decimal is made a double as
it stands. -/
lemma toFloat_of_bounds {d : Decimal} (hd : d.digits ≠ 0) (hlarge : leastPlace d < overflowPlace)
    (hsmall : underflowPlace < placeAbove d) :
    toFloat d = Float.ofScientific d.digits (d.exponent < 0) d.exponent.natAbs := by
  rw [toFloat, if_neg hd, if_neg hlarge.not_ge, if_neg hsmall.not_ge]

/-- A decimal between the bounds is rounded. -/
lemma isRounding_of_bounds {d : Decimal} (hd : d.digits ≠ 0) (hlarge : leastPlace d < overflowPlace)
    (hsmall : underflowPlace < placeAbove d) : IsRounding (toFloat d) (value d) := by
  obtain ⟨n, e⟩ := d
  have hpos : 0 < n := Nat.pos_of_ne_zero hd
  have hexponent : (if decide (e < 0) then -(e.natAbs : ℤ) else e.natAbs) = e := by
    split_ifs with he
    · rw [decide_eq_true_iff] at he
      omega
    · rw [decide_eq_true_iff] at he
      omega
  rw [toFloat_of_bounds hd hlarge hsmall]
  rw [value]
  dsimp only
  by_cases hfew : n < 2 ^ 53 ∧ e.natAbs ≤ 22
  · have hround := isRounding_ofScientific_small (decide (e < 0)) hfew.1 hfew.2
    rwa [hexponent] at hround
  · have hexact : Float.ofScientific n (decide (e < 0)) e.natAbs =
        .ofModel (Float.Model.pack (UnpackedFloat.ofScientific Format.binary64 n e)) := by
      have hexponent' : (if decide (e < 0) = true then Int.negOfNat e.natAbs
          else Int.ofNat e.natAbs) = e := by
        rw [Int.negOfNat_eq]
        exact hexponent
      rw [Float.ofScientific, dif_neg hfew]
      dsimp only
      rw [hexponent']
      rfl
    rw [hexact]
    unfold leastPlace overflowPlace at hlarge
    unfold placeAbove underflowPlace at hsmall
    dsimp only at hlarge hsmall
    refine isRounding_ofScientific_large hpos ?_ ?_
    · split_ifs at hlarge <;> omega
    · split_ifs at hsmall <;> omega

/-- **A decimal is rounded** to the double that it is made. -/
lemma isRounding_toFloat (d : Decimal) : IsRounding (toFloat d) (value d) := by
  by_cases hd : d.digits = 0
  · have hvalue : value d = 0 := by rw [value, hd, Nat.cast_zero, zero_mul]
    rw [toFloat, if_pos hd, hvalue]
    exact isRounding_zero le_rfl (by positivity)
  · by_cases hlarge : overflowPlace ≤ leastPlace d
    · rw [toFloat, if_neg hd, if_pos hlarge]
      exact isRounding_infinity ((zpow_le_zpow_right₀ (by norm_num) hlarge).trans
        (two_zpow_leastPlace_le hd))
    · by_cases hsmall : placeAbove d ≤ underflowPlace
      · rw [toFloat, if_neg hd, if_neg hlarge, if_pos hsmall]
        refine isRounding_zero ?_ ((value_lt_two_zpow_placeAbove d).le.trans
          (zpow_le_zpow_right₀ (by norm_num) hsmall))
        rw [value]
        positivity
      · exact isRounding_of_bounds hd (not_le.1 hlarge) (not_le.1 hsmall)

end Decimal

end BenchTally
