import BenchTally.Decimal.Binary
import BenchTally.Proofs.Double.Results

set_option autoImplicit false
set_option relaxedAutoImplicit false

/-!
# The bits of doubles

What the bits of a double stand for is read off them by division, as an exact number. It is what
the parts of the double are.

## Main definitions

* `Binary.ofUnpacked` — the parts of a double as an exact number.

## Main results

* `Binary.ofFloat_eq` — the exact number of a double is that of its parts.
-/

namespace BenchTally

open Float.Model Float.Model.UnpackedFloat

/-! ## Bits -/

namespace Binary

/-- The minus sign. -/
def isNegative : Sign → Bool
  | .negative => true
  | .positive => false

/-- The parts of a double as an exact number; zero has the least exponent. -/
def ofUnpacked : UnpackedFloat → Binary
  | .notANumber => .nan
  | .infinity s => .infinity (isNegative s)
  | .zero s => .finite (isNegative s) 0 minExponent
  | .finite s m e _ => .finite (isNegative s) m e

section Fields

variable {b : BitVec Format.binary64.numBits}

/-- The exponent bits by division. -/
lemma toNat_unpackExponent : (unpackExponent b).toNat = b.toNat / 2 ^ 52 % 2 ^ 11 := by
  show (b.extractLsb 62 52).toNat = _
  rw [BitVec.extractLsb_toNat, Nat.shiftRight_eq_div_pow]

/-- The bits of the mantissa by division. -/
lemma toNat_unpackMantissa : (unpackMantissa b).toNat = b.toNat % 2 ^ 52 := by
  show (b.extractLsb 51 0).toNat = _
  rw [BitVec.extractLsb_toNat, Nat.shiftRight_zero]

/-- The sign is the first bit. -/
lemma isNegative_unpackSign :
    isNegative (.ofBitVec (unpackSign b)) = decide (2 ^ 63 ≤ b.toNat) := by
  have hbit : (unpackSign b).toNat = b.toNat / 2 ^ 63 := by
    show (b.extractLsb 63 63).toNat = _
    rw [BitVec.extractLsb_toNat, Nat.shiftRight_eq_div_pow]
    have hlt : b.toNat < 2 ^ 64 := b.isLt
    omega
  unfold Sign.ofBitVec
  split_ifs with hzero
  · rw [hzero] at hbit
    have hsmall : b.toNat / 2 ^ 63 = 0 := hbit.symm
    rw [isNegative, eq_comm, decide_eq_false_iff_not]
    omega
  · have hne : (unpackSign b).toNat ≠ 0 := fun h => hzero (BitVec.eq_of_toNat_eq h)
    rw [isNegative, eq_comm, decide_eq_true_iff]
    omega

end Fields

/-- **The exact number of a double** is that of its parts. -/
lemma ofFloat_eq (x : Float) : ofFloat x = ofUnpacked x.toModel.unpack := by
  show ofFloat x = ofUnpacked (unpack Format.binary64 x.toModel.toBits.toBitVec)
  have hbits : x.toBits.toNat = x.toModel.toBits.toBitVec.toNat := rfl
  have hstands := Double.standsFor_unpack x.toModel.toBits.toBitVec
  generalize unpack Format.binary64 x.toModel.toBits.toBitVec = u at hstands ⊢
  unfold ofFloat
  simp only [hbits, Nat.pow_eq, ← toNat_unpackExponent, ← toNat_unpackMantissa,
    ← isNegative_unpackSign]
  cases hstands with
  | infinity hones hzero =>
    rw [hones, hzero]
    rfl
  | notANumber hones hm =>
    rw [hones, if_pos (by rfl), if_neg hm.ne']
    rfl
  | zero hleast hzero =>
    rw [hleast, hzero]
    rfl
  | subnormal hleast hm =>
    rw [hleast]
    rfl
  | normal hpos htop hm =>
    rw [if_neg htop.ne, if_neg hpos.ne', Nat.add_comm, ← Double.toNat_one_append, sub_add]
    rfl

/-- A number is what its parts make. -/
lemma ofFloat_of_parts {x : Float} {s : Sign} {m : ℕ} {e : ℤ} (h : Double.Canonical m e)
    (hparts : x.toModel.unpack = Double.ofParts s m e) :
    ofFloat x = .finite (isNegative s) m e := by
  rw [ofFloat_eq, hparts]
  rcases m.eq_zero_or_pos with rfl | hm
  · obtain rfl : e = -1074 := h.normal.resolve_left (by omega)
    rfl
  · rw [Double.ofParts_of_pos s e hm]
    rfl

/-- The parts of a positive number are those that its bits tell. -/
lemma unpack_of_ofFloat {x : Float} {m : ℕ} {e : ℤ} (hm : 0 < m)
    (h : ofFloat x = .finite false m e) : x.toModel.unpack = .finite .positive m e hm := by
  rw [ofFloat_eq] at h
  revert h
  rcases x.toModel.unpack with (_ | _) | _ | (_ | _) | ⟨_ | _, m', e', hm'⟩ <;> intro h <;> cases h
  · exact absurd hm (lt_irrefl 0)
  · rfl

end Binary

end BenchTally
