import Mathlib.Algebra.Order.Field.Power
import Mathlib.Data.Rat.Cast.Order
import Mathlib.Tactic.NormNum
import Mathlib.Tactic.Ring

set_option autoImplicit false
set_option relaxedAutoImplicit false

/-!
# Doubles and their parts

A finite double other than zero has a sign, a mantissa and an exponent. The mantissa has as many
bits as fit, unless the exponent is already the least one; so there is one pair of them for each
double, and every such pair belongs to a double as long as its exponent is not too large.

## Main definitions

* `Double.Canonical` — the mantissas and exponents of doubles.
* `Double.StandsFor` — what the bits of a double stand for.

## Main results

* `Double.standsFor_unpack` — the parts that are read from the bits are those they stand for.
* `Double.canonical_of_unpack` — the parts of a double are canonical.
* `Double.unpack_pack_finite`, `Double.unpack_pack_overflow` — what a double made of canonical
  parts consists of.
* `Double.pack_unpack` — a double is made of its parts.
-/

namespace BenchTally.Double

open Float.Model Float.Model.UnpackedFloat

/-- The mantissas and exponents of doubles: the mantissa has 53 bits, or fewer if the exponent is
the least one. -/
structure Canonical (m : ℕ) (e : ℤ) : Prop where
  lt : m < 2 ^ 53
  minExponent_le : -1074 ≤ e
  normal : 2 ^ 52 ≤ m ∨ e = -1074

/-- A mantissa of zero has the least exponent. -/
lemma Canonical.pos_of_lt {m : ℕ} {e : ℤ} (h : Canonical m e) (he : 971 < e) : 0 < m := by
  have hnormal := h.normal
  omega

/-- A mantissa that fits makes less than any mantissa of 53 bits makes with a larger exponent. -/
lemma mul_zpow_lt {m : ℕ} {e t : ℤ} (hm : m < 2 ^ 53) (he : e < t) :
    (m * 2 ^ e : ℚ) < 2 ^ 52 * 2 ^ t :=
  calc (m * 2 ^ e : ℚ) < 2 ^ 53 * 2 ^ e := by
        gcongr
        exact_mod_cast hm
    _ = 2 ^ 52 * 2 ^ (e + 1) := by
        rw [zpow_add_one₀ (by norm_num)]
        ring
    _ ≤ 2 ^ 52 * 2 ^ t := by
        gcongr
        · norm_num
        · exact Int.add_one_le_of_lt he

/-! ## Bits -/

/-- The bit that is not stored stands before the stored ones. -/
lemma toNat_one_append (b : BitVec 52) : (1#1 ++ b).toNat = 2 ^ 52 + b.toNat := by
  rw [BitVec.toNat_append, ← Nat.shiftLeft_add_eq_or_of_lt b.isLt]
  rfl

/-- A bit vector differs from another one that stands for another number. -/
lemma ofNat_ne {w n : ℕ} {b : BitVec w} (hn : n < 2 ^ w) (h : n ≠ b.toNat) :
    BitVec.ofNat w n ≠ b := by
  rintro rfl
  rw [BitVec.toNat_ofNat, Nat.mod_eq_of_lt hn] at h
  exact h rfl

/-- The stored exponent is the exponent above one below the least one. -/
lemma biased_eq (e : ℤ) :
    (e + Format.binary64.exponentBias + (52 : ℕ)).toNat = (e + 1075).toNat := by
  rw [add_assoc]
  rfl

/-- Doubles of the same bits are the same. -/
lemma eq_of_bits {x y : Float.Model} (h : x.toBits.toBitVec = y.toBits.toBitVec) : x = y := by
  obtain ⟨⟨bits⟩, hvalid⟩ := x
  obtain rfl : bits = y.toBits.toBitVec := h
  rfl

/-! ## What bits stand for -/

section Unpack

variable {b : BitVec Format.binary64.numBits} {s : Sign} {m : ℕ} {e : ℤ}

/-- What the bits of a double stand for. -/
inductive StandsFor (b : BitVec Format.binary64.numBits) : UnpackedFloat → Prop
  | infinity (hones : unpackExponent b = -1#11) (hzero : unpackMantissa b = 0#52) :
      StandsFor b (.infinity (.ofBitVec (unpackSign b)))
  | notANumber (hones : unpackExponent b = -1#11) (hm : 0 < (unpackMantissa b).toNat) :
      StandsFor b .notANumber
  | zero (hleast : unpackExponent b = 0#11) (hzero : unpackMantissa b = 0#52) :
      StandsFor b (.zero (.ofBitVec (unpackSign b)))
  /-- The first bit of the mantissa is stored. -/
  | subnormal (hleast : unpackExponent b = 0#11) (hm : 0 < (unpackMantissa b).toNat) :
      StandsFor b (.finite (.ofBitVec (unpackSign b)) (unpackMantissa b).toNat (-1074) hm)
  /-- The first bit of the mantissa is a one that is not stored. -/
  | normal (hpos : 0 < (unpackExponent b).toNat) (htop : (unpackExponent b).toNat < 2047)
      (hm : 0 < (1#1 ++ unpackMantissa b).toNat) :
      StandsFor b (.finite (.ofBitVec (unpackSign b)) (1#1 ++ unpackMantissa b).toNat
        ((unpackExponent b).toNat - 1075) hm)

/-- Under an exponent that is neither least nor largest the first bit of a mantissa is a one. -/
lemma unpack_normal (hm : 0 < m) (hones : unpackExponent b ≠ -1#11)
    (hleast : unpackExponent b ≠ 0#11) (hs : .ofBitVec (unpackSign b) = s)
    (hmantissa : (1#1 ++ unpackMantissa b).toNat = m)
    (he : ((unpackExponent b).toNat - 1075 : ℤ) = e) : unpack _ b = .finite s m e hm := by
  subst hs hmantissa he
  delta UnpackedFloat.unpack
  dsimp only
  rw [if_neg hones, if_neg hleast]
  rfl

/-- A mantissa with a bit that is set is not zero. -/
lemma unpackMantissa_ne (hm : 0 < (unpackMantissa b).toNat) : unpackMantissa b ≠ 0#52 :=
  fun h => by simp [h] at hm

/-- Under the least one it is stored. -/
lemma unpack_subnormal (hm : 0 < m) (hleast : unpackExponent b = 0#11)
    (hs : .ofBitVec (unpackSign b) = s) (hmantissa : (unpackMantissa b).toNat = m) :
    unpack _ b = .finite s m (-1074) hm := by
  subst hs hmantissa
  delta UnpackedFloat.unpack
  dsimp only
  rw [hleast, if_neg (by decide), if_pos rfl, dif_neg (unpackMantissa_ne hm)]
  rfl

/-- **The bits tell which kind of number they stand for.**

**Proof sketch.** The exponent bits tell whether the first bit of the mantissa is stored, or whether
there is no mantissa at all. -/
lemma standsFor_unpack (b : BitVec Format.binary64.numBits) :
    StandsFor b (unpack Format.binary64 b) := by
  have hpos (h : unpackMantissa b ≠ 0#52) : 0 < (unpackMantissa b).toNat :=
    Nat.pos_of_ne_zero fun h' => h (BitVec.eq_of_toNat_eq h')
  by_cases hones : unpackExponent b = -1#11
  · delta UnpackedFloat.unpack
    dsimp only
    rw [if_pos hones]
    by_cases hzero : unpackMantissa b = 0#52
    · rw [if_pos hzero]
      exact .infinity hones hzero
    · rw [if_neg hzero]
      exact .notANumber hones (hpos hzero)
  · by_cases hleast : unpackExponent b = 0#11
    · by_cases hzero : unpackMantissa b = 0#52
      · delta UnpackedFloat.unpack
        dsimp only
        rw [if_neg hones, if_pos hleast, dif_pos hzero]
        exact .zero hleast hzero
      · rw [unpack_subnormal (hpos hzero) hleast rfl rfl]
        exact .subnormal hleast (hpos hzero)
    · have hm : 0 < (1#1 ++ unpackMantissa b).toNat := by
        rw [toNat_one_append]
        omega
      have hexponent : 0 < (unpackExponent b).toNat :=
        Nat.pos_of_ne_zero fun h => hleast (BitVec.eq_of_toNat_eq h)
      have htop : (unpackExponent b).toNat ≠ 2047 := fun h => hones (BitVec.eq_of_toNat_eq h)
      have hlt : (unpackExponent b).toNat < 2 ^ 11 := BitVec.isLt _
      rw [unpack_normal hm hones hleast rfl rfl rfl]
      exact .normal hexponent (by omega) hm

/-- **The parts of a double** are canonical, and its exponent is not too large. -/
lemma canonical_of_unpack {x : Float.Model} {hm : 0 < m} (h : x.unpack = .finite s m e hm) :
    Canonical m e ∧ e ≤ 971 := by
  have hstands := standsFor_unpack x.toBits.toBitVec
  have hmantissa : (@unpackMantissa Format.binary64 x.toBits.toBitVec).toNat < 2 ^ 52 :=
    BitVec.isLt _
  rw [show unpack Format.binary64 x.toBits.toBitVec = _ from h] at hstands
  cases hstands with
  | subnormal => exact ⟨⟨by omega, by decide, .inr rfl⟩, by decide⟩
  | normal hpos htop =>
    rw [toNat_one_append]
    exact ⟨⟨by omega, by omega, .inl (by omega)⟩, by omega⟩

end Unpack

/-! ## Doubles made of parts -/

section Pack

variable {s : Sign} {m : ℕ} {e : ℤ}

/-- The bits of a finite double: its exponent may be too large, and its mantissa too short. -/
lemma pack_finite (hm : 0 < m) :
    UnpackedFloat.pack Format.binary64 (.finite s m e hm) =
      if 2 ^ 11 ≤ (e + 1075).toNat + 1 then packedInfinity Format.binary64 s
      else if m.log2 + 1 = 53 then
        packComponents Format.binary64 s (BitVec.ofNat 11 (e + 1075).toNat) (BitVec.ofNat 52 m)
      else packComponents Format.binary64 s 0#11 (BitVec.ofNat 52 m) := by
  rw [← biased_eq]
  rfl

/-- The sign is stored before the exponent and the mantissa. -/
lemma sign_packComponents (s : Sign) (e : BitVec 11) (m : BitVec 52) :
    Sign.ofBitVec (unpackSign (packComponents Format.binary64 s e m)) = s := by
  unfold unpackSign packComponents BitVec.extractLsb
  rw [BitVec.extractLsb'_append_eq_of_le (by decide),
    BitVec.extractLsb'_append_eq_of_le (by decide)]
  cases s <;> rfl

/-- A mantissa of 53 bits is stored without its first bit. -/
lemma unpack_pack_normal (hm : 0 < m) (h : Canonical m e) (he : e ≤ 971) (hnormal : 2 ^ 52 ≤ m) :
    (Float.Model.pack (.finite s m e hm)).unpack = .finite s m e hm := by
  obtain ⟨hlt, hmin, -⟩ := h
  have hlog : m.log2 + 1 = 53 := by
    rw [Nat.succ_inj, Nat.log2_eq_iff hm.ne']
    omega
  have hones : BitVec.ofNat 11 (e + 1075).toNat ≠ -1#11 :=
    ofNat_ne (by omega) (by rw [show (-1#11).toNat = 2047 from rfl]; omega)
  have hzero : BitVec.ofNat 11 (e + 1075).toNat ≠ 0#11 :=
    ofNat_ne (by omega) (by rw [show (0#11).toNat = 0 from rfl]; omega)
  change UnpackedFloat.unpack _ (UnpackedFloat.pack _ _) = _
  rw [pack_finite, if_neg (by omega), if_pos hlog]
  apply unpack_normal hm
  · rwa [unpackExponent_packComponents]
  · rwa [unpackExponent_packComponents]
  · exact sign_packComponents ..
  · rw [unpackMantissa_packComponents, toNat_one_append, BitVec.toNat_ofNat]
    omega
  · rw [unpackExponent_packComponents, BitVec.toNat_ofNat,
      Nat.mod_eq_of_lt (show (e + 1075).toNat < 2 ^ 11 by omega)]
    omega

/-- A shorter mantissa is stored as it is, under the exponent bits that are all zero. -/
lemma unpack_pack_subnormal (hm : 0 < m) (hlt : m < 2 ^ 52) :
    (Float.Model.pack (.finite s m (-1074) hm)).unpack = .finite s m (-1074) hm := by
  have hlog : m.log2 + 1 ≠ 53 := by
    rw [Ne, Nat.succ_inj, Nat.log2_eq_iff hm.ne']
    omega
  change UnpackedFloat.unpack _ (UnpackedFloat.pack _ _) = _
  rw [pack_finite, if_neg (by decide), if_neg hlog]
  apply unpack_subnormal hm
  · rw [unpackExponent_packComponents]
  · exact sign_packComponents ..
  · rw [unpackMantissa_packComponents, BitVec.toNat_ofNat, Nat.mod_eq_of_lt hlt]

/-- **A double made of canonical parts** consists of them. -/
lemma unpack_pack_finite (hm : 0 < m) (h : Canonical m e) (he : e ≤ 971) :
    (Float.Model.pack (.finite s m e hm)).unpack = .finite s m e hm := by
  by_cases hnormal : 2 ^ 52 ≤ m
  · exact unpack_pack_normal hm h he hnormal
  · obtain rfl := h.normal.resolve_left hnormal
    exact unpack_pack_subnormal hm (not_le.1 hnormal)

/-- An exponent that is too large makes a double infinite. -/
lemma unpack_pack_overflow (hm : 0 < m) (he : 971 < e) :
    (Float.Model.pack (.finite s m e hm)).unpack = .infinity s := by
  change UnpackedFloat.unpack _ (UnpackedFloat.pack _ _) = _
  rw [pack_finite, if_pos (by omega)]
  cases s <;> rfl

end Pack

/-! ## Doubles as made of their parts -/

/-- A bit vector consists of its sign, its exponent bits and its mantissa bits. -/
lemma packComponents_unpack (b : BitVec Format.binary64.numBits) :
    packComponents Format.binary64 (.ofBitVec (unpackSign b)) (unpackExponent b)
      (unpackMantissa b) = b := by
  have hsign : (Sign.ofBitVec (unpackSign b)).toBitVec = unpackSign b := by
    generalize unpackSign b = c
    revert c
    decide
  unfold packComponents
  rw [hsign]
  show (b.extractLsb' 63 1 ++ b.extractLsb' 52 11 ++ b.extractLsb' 0 52 : BitVec 64) = b
  rw [BitVec.extractLsb'_append_extractLsb'_eq_extractLsb' (show 63 = 52 + 11 from rfl),
    BitVec.extractLsb'_append_extractLsb'_eq_extractLsb' (show 52 = 0 + 52 from rfl)]
  exact BitVec.extractLsb'_eq_self

/-- **The bits of a double** are those that its parts are packed into. -/
lemma pack_unpack_bits {b : BitVec Format.binary64.numBits} (hvalid : Format.binary64.Valid b) :
    pack _ (unpack Format.binary64 b) = b := by
  have hself := packComponents_unpack b
  have hmantissa : (unpackMantissa b).toNat < 2 ^ 52 := BitVec.isLt _
  have hstands := standsFor_unpack b
  generalize unpack Format.binary64 b = x at hstands ⊢
  cases hstands with
  | infinity hones hzero =>
    rw [hones, hzero] at hself
    exact hself
  | notANumber hones hm => exact (hvalid.eq_packedNaN hones (unpackMantissa_ne hm)).symm
  | zero hleast hzero =>
    rw [hleast, hzero] at hself
    exact hself
  | subnormal hleast hm =>
    have hlog : (unpackMantissa b).toNat.log2 + 1 ≠ 53 := by
      rw [Ne, Nat.succ_inj, Nat.log2_eq_iff hm.ne']
      omega
    rw [hleast] at hself
    rw [pack_finite, if_neg (by decide), if_neg hlog, BitVec.ofNat_toNat, BitVec.setWidth_eq]
    exact hself
  | normal hpos htop hm =>
    have hlog : (1#1 ++ unpackMantissa b).toNat.log2 + 1 = 53 := by
      rw [Nat.succ_inj, Nat.log2_eq_iff hm.ne', toNat_one_append]
      omega
    have hbiased : ((unpackExponent b).toNat - 1075 + 1075 : ℤ).toNat =
        (unpackExponent b).toNat := by omega
    have hstored : BitVec.ofNat 52 (1#1 ++ unpackMantissa b).toNat = unpackMantissa b := by
      apply BitVec.eq_of_toNat_eq
      rw [BitVec.toNat_ofNat, toNat_one_append]
      omega
    rw [pack_finite, hbiased, if_neg (by omega), if_pos hlog, hstored, BitVec.ofNat_toNat,
      BitVec.setWidth_eq]
    exact hself

/-- **A double is made of its parts.** -/
lemma pack_unpack (x : Float.Model) : Float.Model.pack x.unpack = x :=
  eq_of_bits (pack_unpack_bits x.valid)

end BenchTally.Double
