import BenchTally.Proofs.Decimal.Places
import BenchTally.Result.Bucket

set_option autoImplicit false
set_option relaxedAutoImplicit false

/-!
# Ticks of a time

The bucket of a time goes through five roundings: the seconds are a rounded quotient, they are
written with one place, read back, multiplied by ten, and rounded to an integer. The second of them
alone decides. What it gives is an integer of tenths, and the others lose less than a half of one.

## Main results

* `TimeBucket.exists_roundPlaces` — a double is brought to a double nearest to an integer of tenths.
* `TimeBucket.roundTicks_eq_of_near` — rounding to an integer undoes an error below a half.
* `TimeBucket.ofMillis_nearest` — a bucket is the integer nearest to the seconds times ten.
-/

namespace BenchTally

open Float.Model Float.Model.UnpackedFloat Double

/-! ## Rounding half up -/

/-- The integer that a number is rounded to, a half going up, is within a half of the number. -/
lemma roundHalfUp_mem (m : ℕ) (e : ℤ) :
    (roundHalfUp m e : ℚ) - 1 / 2 ≤ m * 2 ^ e ∧ (m * 2 ^ e : ℚ) < roundHalfUp m e + 1 / 2 := by
  have hpos : 0 < 2 * 2 ^ (-e).toNat := by positivity
  have hunit : (0 : ℚ) < 2 ^ (-e).toNat := by positivity
  have hvalue : (m * 2 ^ e * 2 ^ (-e).toNat : ℚ) = m * 2 ^ e.toNat := by
    rw [mul_assoc, Decimal.zpow_mul_pow_toNat (by norm_num)]
  have hbelow : roundHalfUp m e * (2 * 2 ^ (-e).toNat) ≤
      2 * (m * 2 ^ e.toNat) + 2 ^ (-e).toNat := Nat.div_mul_le_self _ _
  have habove : 2 * (m * 2 ^ e.toNat) + 2 ^ (-e).toNat <
      (roundHalfUp m e + 1) * (2 * 2 ^ (-e).toNat) := by
    rw [Nat.add_mul (roundHalfUp m e), Nat.one_mul]
    exact Nat.lt_div_mul_add hpos
  have hbelow' : (roundHalfUp m e * (2 * 2 ^ (-e).toNat) : ℚ) ≤
      2 * (m * 2 ^ e.toNat) + 2 ^ (-e).toNat := by exact_mod_cast hbelow
  have habove' : (2 * (m * 2 ^ e.toNat) + 2 ^ (-e).toNat : ℚ) <
      (roundHalfUp m e + 1) * (2 * 2 ^ (-e).toNat) := by exact_mod_cast habove
  rw [← hvalue] at hbelow' habove'
  generalize (2 : ℚ) ^ (-e).toNat = u at hunit hbelow' habove'
  constructor
  · nlinarith
  · nlinarith

namespace TimeBucket

variable {x : Float} {p : ℚ} {k : ℤ}

/-- **What a number is rounded to in the end**: an integer within a half of it, brought between the
bounds. -/
lemma exists_roundTicks (h : value? x = some (number p)) :
    ∃ (s : Sign) (m : ℕ) (e : ℤ), p = signed s (m * 2 ^ e) ∧
      roundTicks x = clamp (s.apply (roundHalfUp m e)) := by
  obtain ⟨s, m, e, hcanonical, -, hparts, rfl⟩ := exists_parts h
  refine ⟨s, m, e, rfl, ?_⟩
  unfold roundTicks
  rw [Binary.ofFloat_of_parts hcanonical hparts]
  cases s <;> rfl

/-- An integer with a sign, as a rational number. -/
lemma cast_apply (s : Sign) (n : ℕ) : ((s.apply n : ℤ) : ℚ) = signed s n := by
  cases s
  · show ((-n : ℤ) : ℚ) = -n
    push_cast
    rfl
  · rfl

/-- Rounding to an integer undoes an error below a half. -/
lemma roundTicks_eq_of_near (h : value? x = some (number p)) (hp : |p - k| < 1 / 2) :
    roundTicks x = clamp k := by
  obtain ⟨s, m, e, rfl, hticks⟩ := exists_roundTicks h
  obtain ⟨hbelow, habove⟩ := roundHalfUp_mem m e
  have hnear : |signed s (m * 2 ^ e) - (s.apply (roundHalfUp m e) : ℤ)| ≤ 1 / 2 := by
    rw [cast_apply, signed_sub, abs_signed, abs_le]
    constructor <;> linarith
  have hlt : |((s.apply (roundHalfUp m e) : ℤ) : ℚ) - k| < 1 := by
    rw [abs_sub_comm] at hnear
    calc |((s.apply (roundHalfUp m e) : ℤ) : ℚ) - k| ≤
          |((s.apply (roundHalfUp m e) : ℤ) : ℚ) - signed s (m * 2 ^ e)| +
            |signed s (m * 2 ^ e) - k| := abs_sub_le _ _ _
      _ < 1 := by linarith
  have heq : s.apply (roundHalfUp m e) = k := by
    have hint : |s.apply (roundHalfUp m e) - k| < 1 := by exact_mod_cast hlt
    have hzero := Int.abs_lt_one_iff.1 hint
    omega
  rw [hticks, heq]

/-- The bounds are far away from what has 50 bits. -/
lemma clamp_of_abs_le (hk : |k| ≤ 2 ^ 50) : clamp k = k := by
  obtain ⟨hlow, hhigh⟩ := abs_le.1 hk
  unfold clamp minTicks maxTicks
  omega

/-! ## From tenths to ticks -/

/-- A double with one place is what its text is read back as. -/
lemma roundPlaces_eq (places : ℕ) (x : Float) :
    roundPlaces places x = Decimal.readBack places (Binary.ofFloat x) := by
  rw [roundPlaces, Decimal.read?_writeFixed]
  rfl

/-- **A number brought to one place** is the double nearest to the integer of tenths that is nearest
to the number. -/
lemma exists_roundPlaces (h : value? x = some (number p)) :
    ∃ k : ℤ, IsNearestInt (p * 10) k ∧ IsRounding (roundPlaces 1 x) (k / 10) := by
  rw [roundPlaces_eq]
  exact Decimal.exists_readBack h

/-- An integer of tenths, rounded to a double and multiplied by ten, is rounded to the integer.

**Proof sketch.** The double is off by at most a 64th, ten times of which is less than a sixth, and
the product is off by at most a fourth more. -/
lemma roundTicks_tenths (hk : |k| ≤ 2 ^ 50) (h : IsRounding x (k / 10)) :
    roundTicks (x * 10.0) = k := by
  have hcast : |(k : ℚ)| ≤ 2 ^ 50 := by exact_mod_cast hk
  have htenths : |(k / 10 : ℚ)| ≤ 2 ^ 52 * 2 ^ (-5 : ℤ) := by
    rw [abs_div, abs_of_pos (show (0 : ℚ) < 10 by norm_num)]
    norm_num at hcast ⊢
    linarith
  obtain ⟨w, hw, hnear⟩ := h.abs_sub_le (by decide) (by decide) htenths
  have hten : signed .positive ((5 * 2 ^ 50 : ℕ) * 2 ^ (-49 : ℤ)) = 10 := by
    norm_num [signed]
  have hproduct := isRounding_mul hw unpack_ten (by decide)
  rw [hten] at hproduct
  have herror : |w * 10 - k| ≤ 10 / 64 := by
    have hscale : w * 10 - k = (w - k / 10) * 10 := by ring
    rw [hscale, abs_mul, abs_of_pos (show (0 : ℚ) < 10 by norm_num)]
    norm_num at hnear ⊢
    linarith
  have hsize : |w * 10| ≤ 2 ^ 52 * 2 ^ (-1 : ℤ) := by
    have htriangle := abs_sub_abs_le_abs_sub (w * 10) (k : ℚ)
    have hbound : (2 ^ 52 * 2 ^ (-1 : ℤ) : ℚ) = 2 ^ 51 := by norm_num
    linarith
  obtain ⟨z, hz, hnear'⟩ := hproduct.abs_sub_le (by decide) (by decide) hsize
  rw [← clamp_of_abs_le hk]
  apply roundTicks_eq_of_near hz
  calc |z - k| ≤ |z - w * 10| + |w * 10 - k| := abs_sub_le _ _ _
    _ ≤ 1 / 4 + 10 / 64 := by
        norm_num at hnear' ⊢
        linarith
    _ < 1 / 2 := by norm_num

/-! ## Buckets -/

/-- The seconds of a number of milliseconds are a number, the rounded quotient. -/
lemma exists_seconds {ms : Float} {q : ℚ} (h : value? ms = some (number q)) :
    ∃ x, value? (ms / 1000.0) = some (number x) ∧ IsRounding (ms / 1000.0) (q / 1000) := by
  have hthousand : value? 1000.0 = some (number 1000) := by
    rw [value?_of_finite unpack_thousand]
    norm_num
  have hrounding := isRounding_div h hthousand (by norm_num)
  obtain ⟨s, m, e, hcanonical, he, -, rfl⟩ := exists_parts h
  -- A thousandth is not above the number, so that it does not become infinite.
  have hle : |signed s (m * 2 ^ e) / 1000| ≤ m * 2 ^ e := by
    rw [abs_div, abs_signed, abs_of_nonneg (by positivity)]
    exact div_le_self (by positivity) (by norm_num)
  obtain ⟨_, _, _, -, -, -, -, hvalue⟩ :=
    hrounding.exists_nearest hcanonical.lt hcanonical.minExponent_le he hle
  exact ⟨_, hvalue, hrounding⟩

/-- What is nearest to a number of 50 bits has 50 bits. -/
lemma abs_le_of_isNearestInt (h : IsNearestInt p k) (hp : |p| ≤ 2 ^ 50) : |k| ≤ 2 ^ 50 := by
  have htriangle := abs_sub_abs_le_abs_sub (k : ℚ) p
  have hnear := h.abs_sub_le
  rw [abs_sub_comm] at hnear
  have hlt : |(k : ℚ)| < 2 ^ 50 + 1 := by linarith
  have hint : |k| < 2 ^ 50 + 1 := by exact_mod_cast hlt
  omega

/-- The seconds of a bucket are the double nearest to the ticks by ten. -/
lemma isRounding_seconds {b : TimeBucket} (hb : |b.ticks| ≤ 2 ^ 50) :
    IsRounding b.seconds (b.ticks / 10) := by
  have hten : value? 10.0 = some (number 10) := by
    rw [value?_of_finite unpack_ten]
    norm_num
  obtain ⟨hlow, hhigh⟩ := abs_le.1 hb
  exact isRounding_div (value?_ofInt (by omega)) hten (by norm_num)

/-- **Buckets are rounded once.** The text of any double with one place is read, and a double is
brought to one place by that. Let a time be a number of milliseconds. Its seconds are a number, the
double nearest to the exact quotient. If they make at most `2 ^ 50` ticks, the bucket is the integer
nearest to ten times the seconds, of two equally near the even one. The double nearest to a tenth of
that integer is then what the text of the seconds is read as, and also the seconds of the bucket, as
far as values go.

**Proof sketch.** The text has the nearest integer of tenths by definition (`exists_roundPlaces`).
From there to the ticks everything is undone: the double that is read is off by less than a 50th of
a tenth, and so is ten times it, rounded, by less than a half (`roundTicks_tenths`). -/
theorem ofMillis_nearest {ms : Float} {q : ℚ} (h : value? ms = some (number q)) :
    (∀ y : Float, Decimal.read? (Decimal.writeFixed 1 y) = some (roundPlaces 1 y)) ∧
    ∃ x, value? (ms / 1000.0) = some (number x) ∧ IsRounding (ms / 1000.0) (q / 1000) ∧
      (|10 * x| ≤ 2 ^ 50 →
        IsNearestInt (10 * x) (ofMillis ms).ticks ∧
        IsRounding (roundPlaces 1 (ms / 1000.0)) ((ofMillis ms).ticks / 10) ∧
        IsRounding (ofMillis ms).seconds ((ofMillis ms).ticks / 10) ∧
        ∃ v, value? (roundPlaces 1 (ms / 1000.0)) = some (number v) ∧
          value? (ofMillis ms).seconds = some (number v)) := by
  refine ⟨fun y => by rw [roundPlaces_eq, Decimal.read?_writeFixed], ?_⟩
  obtain ⟨x, hx, hseconds⟩ := exists_seconds h
  refine ⟨x, hx, hseconds, fun hbound => ?_⟩
  obtain ⟨k, hnearest, hplaces⟩ := exists_roundPlaces hx
  rw [mul_comm] at hnearest
  have hk : |k| ≤ 2 ^ 50 := abs_le_of_isNearestInt hnearest hbound
  have hticks : (ofMillis ms).ticks = k := roundTicks_tenths hk hplaces
  have hback : IsRounding (ofMillis ms).seconds (k / 10) := by
    have hrounding := isRounding_seconds (b := ofMillis ms) (by rwa [hticks])
    rwa [hticks] at hrounding
  rw [hticks]
  refine ⟨hnearest, hplaces, hback, ?_⟩
  have htenths : |(k / 10 : ℚ)| ≤ 2 ^ 52 * 2 ^ (0 : ℤ) := by
    have hcast : |(k : ℚ)| ≤ 2 ^ 50 := by exact_mod_cast hk
    rw [abs_div, abs_of_pos (show (0 : ℚ) < 10 by norm_num), zpow_zero, mul_one]
    linarith
  obtain ⟨v, hv, -⟩ := hplaces.abs_sub_le (by decide) (by decide) htenths
  exact ⟨v, hv, (hback.value?_eq hplaces).trans hv⟩

/-- A quarter of a second is half way between two ticks. -/
theorem ofMillis_nearest_quarter :
    value? 250.0 = some (number 250) ∧ value? (250.0 / 1000.0) = some (number (1 / 4)) ∧
      IsNearestInt (10 * (1 / 4)) (ofMillis 250.0).ticks ∧ (ofMillis 250.0).ticks = 2 := by
  have hms : value? 250.0 = some (number 250) := by
    have hparts : (250.0 : Float).toModel.unpack =
        .finite .positive (125 * 2 ^ 46) (-45) (by decide) := by rfl
    rw [value?_of_finite hparts]
    norm_num
  have hseconds : value? (250.0 / 1000.0) = some (number (1 / 4)) := by
    have hparts : (250.0 / 1000.0 : Float).toModel.unpack =
        .finite .positive (2 ^ 52) (-54) (by decide) := by rfl
    rw [value?_of_finite hparts]
    norm_num
  obtain ⟨-, x, hx, -, hbucket⟩ := ofMillis_nearest hms
  obtain rfl : x = 1 / 4 :=
    WithTop.coe_injective (WithBot.coe_injective (Option.some.inj (hx.symm.trans hseconds)))
  refine ⟨hms, hseconds, (hbucket ?_).1, by decide⟩
  rw [abs_of_pos (by norm_num)]
  norm_num

end TimeBucket

end BenchTally
