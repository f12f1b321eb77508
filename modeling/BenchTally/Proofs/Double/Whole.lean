import BenchTally.Proofs.Double.Arithmetic

set_option autoImplicit false
set_option relaxedAutoImplicit false

/-!
# Whole numbers as doubles

A whole number is made a double as a product, in which one factor has bits enough. So it is rounded
to the nearest double, and the share that a part has of a whole lies between zero and one, although
both numbers and their quotient are rounded.

## Main results

* `Double.mul_parts` — the product of two doubles with enough bits is the double nearest to the
  exact one.
* `Double.ofNat_nearest` — a whole number as a double is the double nearest to it.
* `Double.ofNat_div_ofNat_mem` — shares lie between zero and one.
-/

namespace BenchTally.Double

open Float.Model Float.Model.UnpackedFloat

/-! ## Rounding without a quotient -/

/-- Rounding a number that has enough bits gives the parts of the nearest double. -/
lemma roundWithAccuracy_exact {s : Sign} {n : ℕ} {t : ℤ} (ht : 2 ^ 52 ≤ n ∨ t ≤ -1074) :
    ∃ m e, Nearest (n * 2 ^ t) m e ∧
      roundWithAccuracy Format.binary64 s n t .exact = ofParts s m e := by
  have hround := roundWithAccuracy_nearest (s := s) (n := n) one_pos (by rwa [mul_one])
  rwa [Nat.div_one, Nat.mod_one, Nat.cast_one, div_one] at hround

/-- Rounding a positive number, with or without enough bits. -/
lemma round_nearest {s : Sign} {n : ℕ} (hn : 0 < n) :
    ∃ m e, Nearest n m e ∧ UnpackedFloat.round Format.binary64 s n 0 = ofParts s m e := by
  unfold UnpackedFloat.round decreaseExponent
  rw [targetExponent_eq]
  dsimp only
  generalize hk : (0 - max ((n.log2 : ℤ) + 0 - 52) (-1074)).toNat = k
  have hbits : 2 ^ 52 ≤ n <<< k := by
    rw [Nat.shiftLeft_eq]
    calc 2 ^ 52 ≤ 2 ^ (n.log2 + k) := Nat.pow_le_pow_right (by decide) (by omega)
      _ = 2 ^ n.log2 * 2 ^ k := pow_add _ _ _
      _ ≤ n * 2 ^ k := Nat.mul_le_mul_right _ (Nat.log2_self_le hn.ne')
  obtain ⟨m, e, hnearest, hparts⟩ := roundWithAccuracy_exact (s := s) (t := 0 - k) (.inl hbits)
  refine ⟨m, e, ?_, hparts⟩
  have hvalue : ((n <<< k : ℕ) * 2 ^ (0 - (k : ℤ)) : ℚ) = n := by
    rw [Nat.shiftLeft_eq, zero_sub, zpow_neg, zpow_natCast]
    push_cast
    field_simp
  rwa [hvalue] at hnearest

/-- **The product of two numbers** of which one has enough bits is the double nearest to the exact
one. -/
lemma mul_parts (s s' : Sign) {m m' : ℕ} (e e' : ℤ) (hm : 0 < m) (hm' : 0 < m')
    (hbits : 2 ^ 52 ≤ m * m') :
    ∃ q t, Nearest (m * m' * 2 ^ (e + e')) q t ∧
      UnpackedFloat.mul Format.binary64 (.finite s m e hm) (.finite s' m' e' hm') =
        ofParts (s * s') q t := by
  obtain ⟨q, t, hnearest, hparts⟩ := roundWithAccuracy_exact (s := s * s') (t := e + e')
    (.inl hbits)
  rw [Nat.cast_mul] at hnearest
  exact ⟨q, t, hnearest, hparts⟩

/-- A product of doubles is one of their parts. -/
lemma mul_eq_pack (a b : Float) :
    a * b = .ofModel (Float.Model.pack
      (UnpackedFloat.mul Format.binary64 a.toModel.unpack b.toModel.unpack)) := rfl

/-! ## Whole numbers -/

lemma nearest_zero : Nearest 0 0 (-1074) where
  canonical := ⟨by decide, le_rfl, .inr rfl⟩
  abs_sub_le m' e' _ _ := by
    rw [Nat.cast_zero, zero_mul, sub_zero, abs_zero]
    exact abs_nonneg _
  even _ _ _ _ _ _ := Even.zero

/-- A whole number as a double, before it is packed. -/
lemma ofNat_parts (n : ℕ) :
    ∃ m e, Nearest n m e ∧ UnpackedFloat.ofNat Format.binary64 n = ofParts .positive m e := by
  rcases n.eq_zero_or_pos with rfl | hn
  · exact ⟨0, -1074, by simpa using nearest_zero, rfl⟩
  · obtain ⟨m, e, hnearest, hparts⟩ := round_nearest (s := .positive) hn
    refine ⟨m, e, hnearest, ?_⟩
    unfold UnpackedFloat.ofNat UnpackedFloat.ofInt UnpackedFloat.normalize
    rw [compare_gt_iff_gt.2 (by exact_mod_cast hn)]
    exact hparts

/-- A whole number of 53 bits is a double. -/
lemma toFloat_nearest {n : ℕ} (hn : n < 2 ^ 53) :
    ∃ m e, Nearest n m e ∧ n.toUInt64.toFloat.toModel.unpack = ofParts .positive m e := by
  obtain ⟨m, e, hnearest, hparts⟩ := ofNat_parts n
  refine ⟨m, e, hnearest, ?_⟩
  have htoNat : n.toUInt64.toNat = n := Nat.mod_eq_of_lt (by omega)
  change (Float.Model.pack (UnpackedFloat.ofNat Format.binary64 n.toUInt64.toNat)).unpack = _
  rw [htoNat, hparts]
  have hexponent : e ≤ 0 := hnearest.exponent_le hn (by decide) (by simp)
  exact unpack_pack_ofParts hnearest.canonical (by omega)

/-- A whole number of 53 bits is rounded twice, the second time in a product with one, and neither
time changed. -/
lemma ofNat_nearest_of_lt {n : ℕ} (hn : n < 2 ^ 53) :
    ∃ m e, Nearest n m e ∧ Float.ofNat n = .ofModel (Float.Model.pack (ofParts .positive m e)) := by
  obtain ⟨m, e, hnearest, hparts⟩ := toFloat_nearest hn
  have hvalue : (m * 2 ^ e : ℚ) = n := by
    have hwhole : (n : ℚ) = n * 2 ^ (0 : ℤ) := by simp
    rw [hnearest.eq_of_eq hn (by decide) hwhole, ← hwhole]
  have hone : (Float.ofBits 0x3FF0000000000000).toModel.unpack =
      .finite .positive (2 ^ 52) (-52) (by decide) := by rfl
  have hproduct : Float.ofNat n = .ofModel (Float.Model.pack (UnpackedFloat.mul Format.binary64
      n.toUInt64.toFloat.toModel.unpack (Float.ofBits 0x3FF0000000000000).toModel.unpack)) :=
    dif_pos ⟨hn, by decide⟩
  rw [hproduct, hparts, hone]
  rcases m.eq_zero_or_pos with rfl | hm
  · rw [Nat.cast_zero, zero_mul] at hvalue
    exact ⟨0, -1074, hvalue ▸ nearest_zero, rfl⟩
  · rw [ofParts_of_pos _ _ hm]
    obtain ⟨q, t, hnearest', hq⟩ := mul_parts .positive .positive e (-52) hm
      (show 0 < 2 ^ 52 by decide) (Nat.le_mul_of_pos_left _ hm)
    refine ⟨q, t, ?_, congrArg (fun u => Float.ofModel (Float.Model.pack u)) hq⟩
    have hsame : (m * (2 ^ 52 : ℕ) * 2 ^ (e + -52) : ℚ) = n := by
      rw [← hvalue, zpow_add₀ (by norm_num)]
      norm_num
      ring
    rwa [hsame] at hnearest'

/-- A larger whole number is rounded once, in a product of which one factor has 53 bits more. -/
lemma ofNat_nearest_of_le {n : ℕ} (hn : 2 ^ 53 ≤ n) :
    ∃ m e, Nearest n m e ∧ Float.ofNat n = .ofModel (Float.Model.pack (ofParts .positive m e)) := by
  have hpos : 0 < n <<< 53 := by
    rw [Nat.shiftLeft_eq]
    positivity
  have hbits : 2 ^ 52 ≤ n <<< 53 * 10 ^ 0 := by
    rw [Nat.shiftLeft_eq]
    omega
  obtain ⟨q, t, hnearest, hq⟩ := mul_parts .positive .positive (-53) 0 hpos
    (Nat.pow_pos (by decide)) hbits
  refine ⟨q, t, ?_, ?_⟩
  · have hsame : ((n <<< 53 : ℕ) * (10 ^ 0 : ℕ) * 2 ^ ((-53 : ℤ) + 0) : ℚ) = n := by
      rw [Nat.shiftLeft_eq]
      push_cast
      norm_num
      ring
    rwa [hsame] at hnearest
  · have hproduct : Float.ofNat n =
        .ofModel (Float.Model.pack (UnpackedFloat.ofScientific Format.binary64 n 0)) :=
      dif_neg fun h => absurd h.1 (not_lt.2 hn)
    have hlog : ¬ (0 : ℤ) < -((2 ^ Format.binary64.exponentBits : ℤ) + n.log2) := by
      have hpow : (0 : ℤ) ≤ 2 ^ Format.binary64.exponentBits := by decide
      omega
    rw [hproduct, UnpackedFloat.ofScientific, dif_neg (by omega), if_neg (by decide), if_neg hlog,
      if_pos le_rfl]
    exact congrArg (fun u => Float.ofModel (Float.Model.pack u)) hq

/-- **A whole number as a double** is the double nearest to it. -/
lemma ofNat_nearest (n : ℕ) :
    ∃ m e, Nearest n m e ∧ Float.ofNat n = .ofModel (Float.Model.pack (ofParts .positive m e)) :=
  (lt_or_ge n (2 ^ 53)).elim ofNat_nearest_of_lt ofNat_nearest_of_le

/-- A whole number of 64 bits as a double. -/
lemma unpack_ofNat {n : ℕ} (hn : n < 2 ^ 64) :
    ∃ m e, Nearest n m e ∧ (Float.ofNat n).toModel.unpack = ofParts .positive m e := by
  obtain ⟨m, e, hnearest, hparts⟩ := ofNat_nearest n
  have hbound : (n : ℚ) ≤ (2 ^ 52 : ℕ) * 2 ^ (12 : ℤ) := by
    norm_num
    exact_mod_cast hn.le
  have hexponent : e ≤ 12 := hnearest.exponent_le (by decide) (by decide) hbound
  refine ⟨m, e, hnearest, ?_⟩
  rw [hparts]
  exact unpack_pack_ofParts hnearest.canonical (by omega)

/-! ## Shares -/

section Share

variable {a b : Float} {m m' : ℕ} {e e' : ℤ}

/-- The quotient of two numbers of which the first is not greater is rounded to one at most. -/
lemma unpack_div_of_le (ha : a.toModel.unpack = ofParts .positive m e)
    (hb : b.toModel.unpack = ofParts .positive m' e') (hm' : 0 < m')
    (hle : (m * 2 ^ e : ℚ) ≤ m' * 2 ^ e') :
    ∃ (q : ℕ) (t : ℤ), (q * 2 ^ t : ℚ) ≤ 1 ∧ (a / b).toModel.unpack = ofParts .positive q t := by
  rw [div_eq_pack, ha, hb, ofParts_of_pos _ _ hm']
  rcases m.eq_zero_or_pos with rfl | hm
  · refine ⟨0, -1074, by norm_num, ?_⟩
    change (Float.Model.pack (.zero .positive)).unpack = .zero .positive
    rfl
  · rw [ofParts_of_pos _ _ hm]
    obtain ⟨q, t, hnearest, hquotient⟩ := div_parts .positive .positive e e' hm hm'
    have hpos : (0 : ℚ) < m' * 2 ^ e' := by positivity
    have hbound : (m * 2 ^ e / (m' * 2 ^ e') : ℚ) ≤ (1 : ℕ) * 2 ^ (0 : ℤ) := by
      rw [div_le_iff₀ hpos]
      simpa using hle
    have hexponent : t ≤ 0 := hnearest.exponent_le (by decide) (by decide) hbound
    refine ⟨q, t, by simpa using hnearest.le_of_le (by decide) (by decide) hbound, ?_⟩
    rw [hquotient]
    exact unpack_pack_ofParts hnearest.canonical (by omega)

/-- The quotient of two numbers of which the first is not greater lies between zero and one. -/
lemma div_mem_of_le (ha : a.toModel.unpack = ofParts .positive m e)
    (hb : b.toModel.unpack = ofParts .positive m' e') (hm' : 0 < m')
    (hle : (m * 2 ^ e : ℚ) ≤ m' * 2 ^ e') : 0.0 ≤ a / b ∧ a / b ≤ 1.0 := by
  obtain ⟨q, t, hone, hparts⟩ := unpack_div_of_le ha hb hm' hle
  have hvalue : value? (a / b) = some (number (q * 2 ^ t)) := by
    rw [value?, hparts, partsValue?_ofParts_positive]
  have hzero : value? 0.0 = some (number 0) := by rfl
  have hunit : value? 1.0 = some (number ((2 ^ 52 : ℕ) * 2 ^ (-52 : ℤ))) := by rfl
  refine ⟨le_iff.2 ⟨_, _, hzero, hvalue, number_le_number.2 (by positivity)⟩,
    le_iff.2 ⟨_, _, hvalue, hunit, number_le_number.2 (hone.trans ?_)⟩⟩
  norm_num

end Share

/-- A positive whole number is not rounded to zero. -/
lemma pos_of_nearest {n m : ℕ} {e : ℤ} (h : Nearest n m e) (hn : 0 < n) : 0 < m := by
  refine Nat.pos_of_ne_zero ?_
  rintro rfl
  have hone : ((1 : ℕ) * 2 ^ (0 : ℤ) : ℚ) ≤ (0 : ℕ) * 2 ^ e :=
    h.ge_of_ge (by decide) (by decide) (by simpa using Nat.succ_le_of_lt hn)
  norm_num at hone

/-- A positive whole number is not zero as a double, even if it is too large for one. -/
lemma ofNat_beq_zero {n : ℕ} (hn : 0 < n) : (Float.ofNat n == 0.0) = false := by
  obtain ⟨m, e, hnearest, hparts⟩ := ofNat_nearest n
  have hm := pos_of_nearest hnearest hn
  rw [← Bool.not_eq_true, beq_zero_iff, hparts, ofParts_of_pos _ _ hm]
  rintro ⟨s, hs⟩
  rcases le_or_gt e 971 with he | he
  · rw [unpack_pack_finite _ hnearest.canonical he] at hs
    cases hs
  · rw [unpack_pack_overflow _ he] at hs
    cases hs

/-- **A share of a number of 64 bits** lies between zero and one. -/
lemma ofNat_div_ofNat_mem {k n : ℕ} (hk : k ≤ n) (hn : 0 < n) (hlt : n < 2 ^ 64) :
    0.0 ≤ Float.ofNat k / Float.ofNat n ∧ Float.ofNat k / Float.ofNat n ≤ 1.0 := by
  obtain ⟨m', e', hn', hb⟩ := unpack_ofNat hlt
  have hpos : 0 < m' := pos_of_nearest hn' hn
  rcases hk.eq_or_lt with rfl | hk
  · exact div_mem_of_le hb hb hpos le_rfl
  · obtain ⟨m, e, hk', ha⟩ := unpack_ofNat (hk.trans hlt)
    exact div_mem_of_le ha hb hpos (hk'.mono hn' (by exact_mod_cast hk))

end BenchTally.Double
