import BenchTally.Proofs.Double.Rounding
import BenchTally.Proofs.Double.Value

set_option autoImplicit false
set_option relaxedAutoImplicit false

/-!
# Arithmetic of doubles

A quotient of doubles is the exact quotient of their values, rounded. What is not a number comes of
operands that are not, and of quotients that have no value; nothing else is lost, as rounding makes
at worst an infinite double.

## Main definitions

* `Double.quotientExponent` — the exponent with which a quotient is cut off to a whole number.

## Main results

* `Double.div_parts` — the quotient of two doubles is the double nearest to the exact one.
* `Double.isNaN_div_iff` — when a quotient is not a number.
* `Double.isNaN_foldl_add_of_mem` — a sum with a part that is not a number is not a number.
-/

namespace BenchTally.Double

open Float.Model Float.Model.UnpackedFloat

variable {s s' : Sign} {m m' : ℕ} {e e' : ℤ}

/-! ## Results -/

/-- A result that is not too large is kept. -/
lemma unpack_pack_ofParts (h : Canonical m e) (he : e ≤ 971) :
    (Float.Model.pack (ofParts s m e)).unpack = ofParts s m e := by
  rcases m.eq_zero_or_pos with rfl | hm
  · rw [ofParts_zero]
    cases s <;> rfl
  · rw [ofParts_of_pos s e hm]
    exact unpack_pack_finite hm h he

lemma partsValue?_ofParts_positive :
    partsValue? (ofParts .positive m e) = some (number (m * 2 ^ e)) := by
  rcases m.eq_zero_or_pos with rfl | hm
  · rw [Nat.cast_zero, zero_mul]
    rfl
  · rw [ofParts_of_pos _ _ hm]
    rfl

/-- Rounding makes nothing that is not a number. -/
lemma isNaN_pack {u : UnpackedFloat} (h : CanonicalParts u) :
    (Float.Model.pack u).unpack.isNaN = u.isNaN := by
  rcases u with (_ | _) | _ | (_ | _) | ⟨s, m, e, hm⟩
  · rfl
  · rfl
  · rfl
  · rfl
  · rfl
  · rcases le_or_gt e 971 with he | he
    · rw [unpack_pack_finite hm (h s m e hm rfl) he]
    · rw [unpack_pack_overflow hm he]
      rfl

lemma canonicalParts_ofParts (h : Canonical m e) : CanonicalParts (ofParts s m e) := by
  intro s' m' e' hm' heq
  rcases m.eq_zero_or_pos with rfl | hm
  · cases heq
  · rw [ofParts_of_pos s e hm] at heq
    cases heq
    exact h

lemma isNaN_ofParts : (ofParts s m e).isNaN = false := by
  rcases m.eq_zero_or_pos with rfl | hm
  · rfl
  · rw [ofParts_of_pos s e hm]
    rfl

lemma isInf_ofParts : (ofParts s m e).isInf = false := by
  rcases m.eq_zero_or_pos with rfl | hm
  · rfl
  · rw [ofParts_of_pos s e hm]
    rfl

/-! ## Division -/

/-- The exponent of a quotient that leaves enough bits of it. -/
def quotientExponent (m : ℕ) (e : ℤ) (m' : ℕ) (e' : ℤ) : ℤ :=
  min (e - e') (Format.binary64.targetExponent (totalExponent m e - totalExponent m' e'))

/-- Enough bits are left of a quotient. -/
lemma two_pow_mul_le_of_quotientExponent (e e' : ℤ) (hm : 0 < m) :
    2 ^ 52 * m' ≤ m <<< (e - e' - quotientExponent m e m' e').toNat ∨
      quotientExponent m e m' e' ≤ -1074 := by
  have hexponent : quotientExponent m e m' e' =
      min (e - e') (max ((m.log2 : ℤ) + 1 + e - (m'.log2 + 1 + e') - 53) (-1074)) := rfl
  by_cases hleast : quotientExponent m e m' e' ≤ -1074
  · exact .inr hleast
  · refine .inl ?_
    have hbits : m'.log2 + 1 + 52 ≤ m.log2 + (e - e' - quotientExponent m e m' e').toNat := by
      omega
    generalize (e - e' - quotientExponent m e m' e').toNat = k at hbits
    calc 2 ^ 52 * m' ≤ 2 ^ 52 * 2 ^ (m'.log2 + 1) := Nat.mul_le_mul_left _ Nat.lt_log2_self.le
      _ = 2 ^ (m'.log2 + 1 + 52) := by rw [mul_comm, ← pow_add]
      _ ≤ 2 ^ (m.log2 + k) := Nat.pow_le_pow_right (by decide) hbits
      _ = 2 ^ m.log2 * 2 ^ k := pow_add _ _ _
      _ ≤ m * 2 ^ k := Nat.mul_le_mul_right _ (Nat.log2_self_le hm.ne')
      _ = m <<< k := (Nat.shiftLeft_eq _ _).symm

/-- **The quotient of two numbers** is the double nearest to the exact one.

**Proof sketch.** The dividend is given as many bits as leave the quotient with 53 of them, unless
the quotient is so small that its exponent is the least one. -/
lemma div_parts (s s' : Sign) (e e' : ℤ) (hm : 0 < m) (hm' : 0 < m') :
    ∃ q t, Nearest (m * 2 ^ e / (m' * 2 ^ e')) q t ∧
      UnpackedFloat.div Format.binary64 (.finite s m e hm) (.finite s' m' e' hm') =
        ofParts (s / s') q t := by
  obtain ⟨q, t, hnearest, hparts⟩ := roundWithAccuracy_nearest (s := s / s') hm'
    (two_pow_mul_le_of_quotientExponent e e' hm)
  refine ⟨q, t, ?_, hparts⟩
  have hle : 0 ≤ e - e' - quotientExponent m e m' e' := by
    unfold quotientExponent
    omega
  have hvalue : (((m <<< (e - e' - quotientExponent m e m' e').toNat : ℕ) : ℚ) / m' *
      2 ^ quotientExponent m e m' e') = m * 2 ^ e / (m' * 2 ^ e') := by
    rw [Nat.shiftLeft_eq, Nat.cast_mul, Nat.cast_pow, Nat.cast_ofNat, ← zpow_natCast,
      Int.toNat_of_nonneg hle, zpow_sub₀ (by norm_num), zpow_sub₀ (by norm_num)]
    field_simp
  rwa [hvalue] at hnearest

/-- The parts of a quotient are canonical. -/
lemma canonicalParts_div (u v : UnpackedFloat) :
    CanonicalParts (UnpackedFloat.div Format.binary64 u v) := by
  rcases u with _ | _ | _ | ⟨s, m, e, hm⟩ <;> rcases v with _ | _ | _ | ⟨s', m', e', hm'⟩
  case finite.finite =>
    obtain ⟨q, t, hnearest, hparts⟩ := div_parts s s' e e' hm hm'
    rw [hparts]
    exact canonicalParts_ofParts hnearest.canonical
  all_goals
    intro _ _ _ _ h
    cases h

/-- A quotient of doubles is one of their parts. -/
lemma div_eq_pack (a b : Float) :
    a / b = .ofModel (Float.Model.pack
      (UnpackedFloat.div Format.binary64 a.toModel.unpack b.toModel.unpack)) := rfl

variable {a b : Float}

/-- The parts of the two zeros. -/
def isZero : UnpackedFloat → Bool
  | .zero _ => true
  | _ => false

/-- A double is equal to zero exactly if it is one of the two zeros. -/
lemma beq_zero (a : Float) : (a == 0.0) = isZero a.toModel.unpack := by
  have hzero : (0.0 : Float).toModel.unpack = .zero .positive := by rfl
  change (a.toModel.unpack.compare (0.0 : Float).toModel.unpack == some .eq) = _
  rw [hzero]
  rcases a.toModel.unpack with (_ | _) | _ | _ | ⟨_ | _, m, e, hm⟩ <;> rfl

lemma beq_zero_iff : (a == 0.0) = true ↔ ∃ s, a.toModel.unpack = .zero s := by
  rw [beq_zero]
  rcases a.toModel.unpack with _ | _ | s | _
  case zero => exact iff_of_true rfl ⟨s, rfl⟩
  all_goals exact iff_of_false Bool.false_ne_true (nomatch ·)

/-- **A quotient is not a number** exactly if one of the two is not, or both are infinite, or both
are zero. -/
lemma isNaN_div_iff :
    (a / b).isNaN = true ↔ a.isNaN = true ∨ b.isNaN = true ∨
      (a.isInf = true ∧ b.isInf = true) ∨ ((a == 0.0) = true ∧ (b == 0.0) = true) := by
  have hdiv (u v : UnpackedFloat) : (UnpackedFloat.div Format.binary64 u v).isNaN =
      (u.isNaN || (v.isNaN || (u.isInf && v.isInf || isZero u && isZero v))) := by
    rcases u with _ | _ | _ | ⟨s, m, e, hm⟩ <;> rcases v with _ | _ | _ | ⟨s', m', e', hm'⟩
    case finite.finite =>
      obtain ⟨q, t, -, hparts⟩ := div_parts s s' e e' hm hm'
      rw [hparts, isNaN_ofParts]
      rfl
    all_goals rfl
  change (Float.Model.pack (UnpackedFloat.div Format.binary64 a.toModel.unpack
    b.toModel.unpack)).unpack.isNaN = true ↔ a.toModel.unpack.isNaN = true ∨
      b.toModel.unpack.isNaN = true ∨
      (a.toModel.unpack.isInf = true ∧ b.toModel.unpack.isInf = true) ∨ _
  rw [isNaN_pack (canonicalParts_div _ _), hdiv, beq_zero, beq_zero]
  simp only [Bool.or_eq_true, Bool.and_eq_true]

/-! ## Sums -/

/-- A sum is not a number if one of the two is not. -/
lemma isNaN_add (h : a.isNaN = true ∨ b.isNaN = true) : (a + b).isNaN = true := by
  have hadd : ∀ u v : UnpackedFloat, u.isNaN = true ∨ v.isNaN = true →
      UnpackedFloat.add Format.binary64 u v = .notANumber := by
    rintro u v (h | h)
    · cases u
      case notANumber => rfl
      all_goals exact absurd h Bool.false_ne_true
    · cases v
      case notANumber => cases u <;> rfl
      all_goals exact absurd h Bool.false_ne_true
  change (Float.Model.pack (UnpackedFloat.add Format.binary64 a.toModel.unpack
    b.toModel.unpack)).unpack.isNaN = true
  rw [hadd _ _ h]
  rfl

/-- Adding to zero makes nothing that is not a number. -/
lemma isNaN_zero_add (b : Float) : (Float.ofNat 0 + b).isNaN = b.isNaN := by
  have hzero : (Float.ofNat 0).toModel.unpack = .zero .positive := by rfl
  change (Float.Model.pack (UnpackedFloat.add Format.binary64 (Float.ofNat 0).toModel.unpack
    b.toModel.unpack)).unpack.isNaN = b.toModel.unpack.isNaN
  have hcanonical := canonicalParts_unpack b.toModel
  rw [hzero]
  generalize b.toModel.unpack = v at *
  rcases v with (_ | _) | _ | (_ | _) | ⟨s, m, e, hm⟩
  case finite => exact isNaN_pack hcanonical
  all_goals rfl

/-- Adding to what is not a number gives nothing that is one. -/
lemma isNaN_foldl_add (values : List Float) (h : a.isNaN = true) :
    (values.foldl (· + ·) a).isNaN = true := by
  induction values generalizing a with
  | nil => exact h
  | cons v vs ih => exact ih (isNaN_add (.inl h))

/-- **A sum with a part that is not a number** is not a number. -/
lemma isNaN_foldl_add_of_mem {values : List Float} (hb : b ∈ values) (h : b.isNaN = true) :
    (values.foldl (· + ·) a).isNaN = true := by
  obtain ⟨before, after, rfl⟩ := List.append_of_mem hb
  rw [List.foldl_append, List.foldl_cons]
  exact isNaN_foldl_add _ (isNaN_add (.inr h))

/-! ## Positive doubles -/

/-- A double above zero is infinite or has parts. -/
lemma zero_lt_iff : 0.0 < a ↔ a.toModel.unpack = .infinity .positive ∨
    ∃ m e hm, a.toModel.unpack = .finite .positive m e hm := by
  have hzero : (0.0 : Float).toModel.unpack = .zero .positive := by rfl
  change decide (((0.0 : Float).toModel.unpack.compare a.toModel.unpack == some .lt) = true) =
    true ↔ _
  rw [hzero, decide_eq_true_iff]
  rcases a.toModel.unpack with (_ | _) | _ | _ | ⟨_ | _, m, e, hm⟩
  case infinity.positive => exact iff_of_true rfl (.inl rfl)
  case finite.positive => exact iff_of_true rfl (.inr ⟨m, e, hm, rfl⟩)
  all_goals exact iff_of_false Bool.false_ne_true (by rintro (h | ⟨_, _, _, h⟩) <;> cases h)

/-! ## Scales -/

/-- The parts of ten. -/
lemma unpack_ten :
    (10.0 : Float).toModel.unpack = .finite .positive (5 * 2 ^ 50) (-49) (by decide) := by
  rfl

/-- The parts of a thousand. -/
lemma unpack_thousand :
    (1000.0 : Float).toModel.unpack = .finite .positive (1000 * 2 ^ 43) (-43) (by decide) := by
  rfl

end BenchTally.Double
