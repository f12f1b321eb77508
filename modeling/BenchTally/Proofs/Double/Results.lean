import BenchTally.Proofs.Double.Whole
import Mathlib.Data.Rat.Floor

set_option autoImplicit false
set_option relaxedAutoImplicit false

/-!
# Rounded results

What arithmetic gives is the double that the exact result is rounded to: the nearest one, of two
equally near that with the even mantissa, and an infinite one if that is too large. There is only
one such double but for the sign of zero, and a larger exact result is not rounded to a lesser one.

## Main definitions

* `Double.signed` — a rational number with a sign.
* `Double.IsRounding` — a double that an exact result is rounded to.
* `Double.KeepsOrder` — operations that round exact results in order.

## Main results

* `Double.Nearest.unique` — there is one nearest double.
* `Double.IsRounding.mono` — rounding keeps the order of exact results, infinite doubles included.
* `Double.isRounding_div`, `Double.isRounding_mul` — quotients and products are rounded.
* `Double.isRounding_neg`, `Double.isRounding_ofInt` — so are negated doubles and whole numbers.
-/

namespace BenchTally.Double

open Float.Model Float.Model.UnpackedFloat

/-! ## The nearest double -/

/-- The larger number does not have the lesser exponent. -/
lemma Canonical.exponent_le_of_le {m m' : ℕ} {e e' : ℤ} (h : Canonical m e) (h' : Canonical m' e')
    (hle : (m * 2 ^ e : ℚ) ≤ m' * 2 ^ e') : e ≤ e' := by
  by_contra hlt
  exact absurd (h'.mul_zpow_lt h (not_le.1 hlt)) (not_lt.2 hle)

/-- One number has one mantissa and one exponent. -/
lemma Canonical.eq_of_eq {m m' : ℕ} {e e' : ℤ} (h : Canonical m e) (h' : Canonical m' e')
    (heq : (m * 2 ^ e : ℚ) = m' * 2 ^ e') : m = m' ∧ e = e' := by
  obtain rfl : e = e' :=
    le_antisymm (h.exponent_le_of_le h' heq.le) (h'.exponent_le_of_le h heq.ge)
  have hcast : (m : ℚ) = m' := mul_right_cancel₀ (by positivity) heq
  exact ⟨by exact_mod_cast hcast, rfl⟩

/-- Between two numbers with even mantissas there is another one. -/
lemma Canonical.exists_between {m m' : ℕ} {e e' : ℤ} (h : Canonical m e) (h' : Canonical m' e')
    (hm : Even m) (hm' : Even m') (hlt : (m * 2 ^ e : ℚ) < m' * 2 ^ e') :
    m + 1 < 2 ^ 53 ∧ ((m + 1 : ℕ) * 2 ^ e : ℚ) < m' * 2 ^ e' := by
  have hsucc : m + 1 < 2 ^ 53 := by
    have hfits := h.lt
    rw [Nat.even_iff] at hm
    omega
  refine ⟨hsucc, ?_⟩
  rcases (h.exponent_le_of_le h' hlt.le).lt_or_eq with he | rfl
  · have hnormal : 2 ^ 52 ≤ m' := h'.normal.resolve_right (by have := h.minExponent_le; omega)
    calc ((m + 1 : ℕ) * 2 ^ e : ℚ) < 2 ^ 52 * 2 ^ e' := Double.mul_zpow_lt hsucc he
      _ ≤ m' * 2 ^ e' := by
          gcongr
          exact_mod_cast hnormal
  · have hunit : (0 : ℚ) < 2 ^ e := by positivity
    have hcast : (m : ℚ) < m' := lt_of_mul_lt_mul_right hlt hunit.le
    have hmantissa : m < m' := by exact_mod_cast hcast
    rw [Nat.even_iff] at hm hm'
    have hstep : m + 1 < m' := by omega
    gcongr

namespace Nearest

variable {x y : ℚ} {m m' : ℕ} {e e' : ℤ}

/-- Of two nearest numbers none is less than the other.

**Proof sketch.** They would be equally near, and so have even mantissas. The number after the
lesser one would lie between them, and be nearer than either. -/
lemma not_lt_of_nearest (h : Nearest x m e) (h' : Nearest x m' e') :
    ¬ (m * 2 ^ e : ℚ) < m' * 2 ^ e' := by
  intro hlt
  have hle := h.abs_sub_le m' e' h'.canonical.lt h'.canonical.minExponent_le
  have hge := h'.abs_sub_le m e h.canonical.lt h.canonical.minExponent_le
  have hmiddle : 2 * x = m * 2 ^ e + m' * 2 ^ e' :=
    le_antisymm ((abs_sub_le_abs_sub_iff' hlt).1 hle) ((abs_sub_le_abs_sub_iff hlt).1 hge)
  have heven : Even m :=
    h.even m' e' h'.canonical.lt h'.canonical.minExponent_le (le_antisymm hge hle) hlt.ne'
  have heven' : Even m' :=
    h'.even m e h.canonical.lt h.canonical.minExponent_le (le_antisymm hle hge) hlt.ne
  obtain ⟨hfits, hbetween⟩ := h.canonical.exists_between h'.canonical heven heven' hlt
  have hstep : (m * 2 ^ e : ℚ) < (m + 1 : ℕ) * 2 ^ e := by
    gcongr
    exact_mod_cast Nat.lt_succ_self m
  have hnear := (abs_sub_le_abs_sub_iff' hstep).1
    (h.abs_sub_le (m + 1) e hfits h.canonical.minExponent_le)
  linarith

/-- **There is one nearest number.** -/
lemma unique (h : Nearest x m e) (h' : Nearest x m' e') : (m * 2 ^ e : ℚ) = m' * 2 ^ e' :=
  le_antisymm (le_of_not_gt (h'.not_lt_of_nearest h)) (le_of_not_gt (h.not_lt_of_nearest h'))

/-- Rounding keeps the order of numbers, of equal ones too. -/
lemma le (hx : Nearest x m e) (hy : Nearest y m' e') (h : x ≤ y) :
    (m * 2 ^ e : ℚ) ≤ m' * 2 ^ e' := by
  rcases h.lt_or_eq with hlt | rfl
  · exact hx.mono hy hlt
  · exact (hx.unique hy).le

/-- Zero is rounded to zero. -/
lemma eq_zero (h : Nearest 0 m e) : m = 0 :=
  h.eq_zero_iff.2 (by positivity)

/-- A number with fewer bits than a unit is rounded by half of the unit at most. -/
lemma abs_sub_le_half (h : Nearest x m e) (hx : 0 ≤ x) {t : ℤ} (ht : -1074 ≤ t)
    (hle : x ≤ 2 ^ 52 * 2 ^ t) : |x - m * 2 ^ e| ≤ 2 ^ t / 2 := by
  have hunit : (0 : ℚ) < 2 ^ t := by positivity
  set j := ⌊x / 2 ^ t + 1 / 2⌋₊ with hj
  have hquotient : x / 2 ^ t ≤ 2 ^ 52 := (div_le_iff₀ hunit).2 hle
  have hfloor : (j : ℚ) ≤ x / 2 ^ t + 1 / 2 := Nat.floor_le (by positivity)
  have hnext : x / 2 ^ t + 1 / 2 < j + 1 := Nat.lt_floor_add_one _
  have hfits : j < 2 ^ 53 := by
    have hcast : (j : ℚ) < 2 ^ 53 := by linarith
    exact_mod_cast hcast
  -- The nearest multiple of the unit is a double.
  calc |x - m * 2 ^ e| ≤ |x - j * 2 ^ t| := h.abs_sub_le j t hfits ht
    _ = |x / 2 ^ t - j| * 2 ^ t := by
        rw [← abs_of_pos hunit, ← abs_mul, abs_of_pos hunit, sub_mul, div_mul_cancel₀ _ hunit.ne']
    _ ≤ 1 / 2 * 2 ^ t := by
        gcongr
        rw [abs_le]
        constructor <;> linarith
    _ = 2 ^ t / 2 := by ring

end Nearest

/-! ## Signs -/

/-- A rational number with a sign. -/
def signed : Sign → ℚ → ℚ
  | .positive, q => q
  | .negative, q => -q

section Signs

variable {s s' : Sign} {p q : ℚ}

@[simp]
lemma signed_zero : signed s 0 = 0 := by
  cases s <;> simp [signed]

@[simp]
lemma abs_signed : |signed s q| = |q| := by
  cases s <;> simp [signed]

lemma signed_sub : signed s p - signed s q = signed s (p - q) := by
  cases s
  · simp only [signed]
    ring
  · rfl

lemma signed_neg : signed (-s) q = -signed s q := by
  cases s
  · exact (neg_neg q).symm
  · rfl

lemma signed_div : signed (s / s') (p / q) = signed s p / signed s' q := by
  cases s <;> cases s' <;> simp only [signed, neg_div, div_neg, neg_neg] <;> rfl

lemma signed_mul : signed (s * s') (p * q) = signed s p * signed s' q := by
  cases s <;> cases s' <;> simp only [signed, neg_mul, mul_neg, neg_neg]

end Signs

/-! ## What a double of rounded parts stands for -/

/-- What a double with the given parts stands for; a large exponent makes it infinite. -/
def roundedValue (s : Sign) (m : ℕ) (e : ℤ) : Extended :=
  if e ≤ 971 then number (signed s (m * 2 ^ e))
  else match s with
    | .positive => ⊤
    | .negative => ⊥

section Values

variable {s s' : Sign} {m m' : ℕ} {e e' : ℤ}

lemma roundedValue_of_le (he : e ≤ 971) :
    roundedValue s m e = number (signed s (m * 2 ^ e)) :=
  if_pos he

/-- Parts that are not too large stand for their number. -/
lemma partsValue?_ofParts : partsValue? (ofParts s m e) = some (number (signed s (m * 2 ^ e))) := by
  rcases m.eq_zero_or_pos with rfl | hm
  · rw [Nat.cast_zero, zero_mul, signed_zero]
    rfl
  · rw [ofParts_of_pos s e hm]
    cases s <;> rfl

/-- What a double that is made of parts stands for. -/
lemma value?_pack_ofParts (h : Canonical m e) :
    value? (.ofModel (Float.Model.pack (ofParts s m e))) = some (roundedValue s m e) := by
  show partsValue? (Float.Model.pack (ofParts s m e)).unpack = _
  by_cases he : e ≤ 971
  · rw [unpack_pack_ofParts h he, partsValue?_ofParts, roundedValue_of_le he]
  · have hm := h.pos_of_lt (not_le.1 he)
    rw [ofParts_of_pos s e hm, unpack_pack_overflow hm (not_le.1 he)]
    unfold roundedValue
    rw [if_neg he]
    cases s <;> rfl

/-- A mantissa of 53 bits makes more than what a lesser exponent makes, whatever the signs. -/
lemma not_signed_le_neg (h : Canonical m e) (h' : Canonical m' e') (he : e < e') :
    ¬ signed s (m * 2 ^ e) ≤ -(m' * 2 ^ e') := by
  intro hle
  have hlt := h.mul_zpow_lt h' he
  have habs := neg_abs_le (signed s (m * 2 ^ e))
  rw [abs_signed, abs_of_nonneg (by positivity)] at habs
  linarith

/-- **Parts in order make doubles in order**, even if they are too large. -/
lemma roundedValue_le (h : Canonical m e) (h' : Canonical m' e')
    (hle : signed s (m * 2 ^ e) ≤ signed s' (m' * 2 ^ e')) :
    roundedValue s m e ≤ roundedValue s' m' e' := by
  unfold roundedValue
  split_ifs with he he' he'
  · exact number_le_number.2 hle
  · cases s' with
    | positive => exact le_top
    | negative => exact absurd hle (not_signed_le_neg h h' (by omega))
  · cases s with
    | negative => exact bot_le
    | positive =>
      have hneg : signed (-s') (m' * 2 ^ e') ≤ -(m * 2 ^ e : ℚ) := by
        rw [signed_neg]
        exact neg_le_neg hle
      exact absurd hneg (not_signed_le_neg h' h (by omega))
  · cases s with
    | negative => exact bot_le
    | positive =>
      cases s' with
      | positive => exact le_top
      | negative =>
        have hbits : 2 ^ 52 ≤ m := h.normal.resolve_right (by omega)
        have hpos : (0 : ℚ) < m * 2 ^ e := by
          have hm : 0 < m := by omega
          positivity
        have hnonneg : (0 : ℚ) ≤ m' * 2 ^ e' := by positivity
        simp only [signed] at hle
        linarith

end Values

/-! ## Roundings -/

/-- A double that an exact result is rounded to: it is made of the parts of the nearest double, with
the sign of the result; if the result is zero, with any sign. -/
def IsRounding (a : Float) (r : ℚ) : Prop :=
  ∃ s q m e, 0 ≤ q ∧ r = signed s q ∧ Nearest q m e ∧
    a = .ofModel (Float.Model.pack (ofParts s m e))

namespace IsRounding

variable {a b : Float} {r r' : ℚ}

/-- What exact results in order are rounded to. -/
lemma signed_le {s s' : Sign} {q q' : ℚ} {m m' : ℕ} {e e' : ℤ} (hq : 0 ≤ q) (hq' : 0 ≤ q')
    (h : Nearest q m e) (h' : Nearest q' m' e') (hle : signed s q ≤ signed s' q') :
    signed s (m * 2 ^ e) ≤ signed s' (m' * 2 ^ e') := by
  have hnonneg : (0 : ℚ) ≤ m * 2 ^ e := by positivity
  have hnonneg' : (0 : ℚ) ≤ m' * 2 ^ e' := by positivity
  cases s with
  | positive =>
    cases s' with
    | positive => exact h.le h' hle
    | negative =>
      -- Both results are zero.
      simp only [signed] at hle ⊢
      obtain rfl : q = 0 := by linarith
      obtain rfl : q' = 0 := by linarith
      rw [h.eq_zero, h'.eq_zero]
      simp
  | negative =>
    cases s' with
    | positive =>
      simp only [signed]
      linarith
    | negative => exact neg_le_neg (h'.le h (neg_le_neg_iff.1 hle))

/-- A result stands for something. -/
lemma exists_value (h : IsRounding a r) : ∃ v, value? a = some v := by
  obtain ⟨s, q, m, e, -, -, hnearest, rfl⟩ := h
  exact ⟨_, value?_pack_ofParts hnearest.canonical⟩

/-- **Rounding keeps the order of results**, also where doubles are infinite. -/
lemma mono (h : IsRounding a r) (h' : IsRounding b r') (hle : r ≤ r') : a ≤ b := by
  obtain ⟨s, q, m, e, hq, rfl, hnearest, rfl⟩ := h
  obtain ⟨s', q', m', e', hq', rfl, hnearest', rfl⟩ := h'
  exact le_iff.2 ⟨_, _, value?_pack_ofParts hnearest.canonical,
    value?_pack_ofParts hnearest'.canonical,
    roundedValue_le hnearest.canonical hnearest'.canonical
      (signed_le hq hq' hnearest hnearest' hle)⟩

/-- **There is one rounding** of a result, as far as values go. -/
lemma value?_eq (h : IsRounding a r) (h' : IsRounding b r) : value? a = value? b := by
  obtain ⟨x, y, hx, hy, hxy⟩ := le_iff.1 (h.mono h' le_rfl)
  obtain ⟨y', x', hy', hx', hyx⟩ := le_iff.1 (h'.mono h le_rfl)
  rw [hx, Option.some.injEq] at hx'
  rw [hy, Option.some.injEq] at hy'
  subst hx' hy'
  rw [hx, hy, le_antisymm hxy hyx]

/-- **There is one rounding** of a result other than zero: it is made of the nearest parts. -/
lemma eq_of_nearest {s : Sign} {q : ℚ} {m : ℕ} {e : ℤ} (h : IsRounding a (signed s q))
    (hq : 0 < q) (hnearest : Nearest q m e) :
    a = .ofModel (Float.Model.pack (ofParts s m e)) := by
  obtain ⟨s', q', m', e', hq', heq, hnearest', rfl⟩ := h
  have habs : |signed s q| = |signed s' q'| := by rw [heq]
  rw [abs_signed, abs_signed, abs_of_pos hq, abs_of_nonneg hq'] at habs
  subst habs
  obtain rfl : s = s' := by
    cases s <;> cases s' <;> simp only [signed] at heq <;> first | rfl | linarith
  obtain ⟨rfl, rfl⟩ :=
    hnearest.canonical.eq_of_eq hnearest'.canonical (hnearest.unique hnearest')
  rfl

/-- A result that is not above a double stays a number. -/
lemma exists_nearest (h : IsRounding a r) {j : ℕ} {t : ℤ} (hj : j < 2 ^ 53) (ht : -1074 ≤ t)
    (ht' : t ≤ 971) (hle : |r| ≤ j * 2 ^ t) :
    ∃ s m e, r = signed s |r| ∧ Nearest |r| m e ∧ e ≤ t ∧
      a.toModel.unpack = ofParts s m e ∧ value? a = some (number (signed s (m * 2 ^ e))) := by
  obtain ⟨s, q, m, e, hq, rfl, hnearest, rfl⟩ := h
  rw [abs_signed, abs_of_nonneg hq] at hle ⊢
  have he : e ≤ t := hnearest.exponent_le hj ht hle
  refine ⟨s, m, e, rfl, hnearest, he, unpack_pack_ofParts hnearest.canonical (by omega), ?_⟩
  rw [value?_pack_ofParts hnearest.canonical, roundedValue_of_le (by omega)]

/-- A result is rounded by half of a unit at most, if it has fewer bits than the unit. -/
lemma abs_sub_le (h : IsRounding a r) {t : ℤ} (ht : -1074 ≤ t) (ht' : t ≤ 919)
    (hle : |r| ≤ 2 ^ 52 * 2 ^ t) :
    ∃ v, value? a = some (number v) ∧ |v - r| ≤ 2 ^ t / 2 := by
  obtain ⟨s, m, e, hr, hnearest, -, -, hvalue⟩ :=
    h.exists_nearest (j := 2 ^ 52) (by norm_num) ht (by omega) (by exact_mod_cast hle)
  refine ⟨_, hvalue, ?_⟩
  have hnear := hnearest.abs_sub_le_half (abs_nonneg r) ht hle
  rw [abs_sub_comm] at hnear
  rw [← abs_signed (s := s), ← signed_sub, ← hr] at hnear
  exact hnear

end IsRounding

/-! ## Operations -/

section Operations

variable {a b : Float} {p q : ℚ}

/-- A number is made of canonical parts that are not too large. -/
lemma exists_parts (h : value? a = some (number p)) :
    ∃ s m e, Canonical m e ∧ e ≤ 971 ∧ a.toModel.unpack = ofParts s m e ∧
      p = signed s (m * 2 ^ e) := by
  have hparts : ∀ {u : UnpackedFloat}, partsValue? u = some (number p) →
      (∃ s, u = .zero s ∧ p = 0) ∨ ∃ s m e hm, u = .finite s m e hm ∧ p = signed s (m * 2 ^ e) := by
    intro u hu
    have hnumber : ∀ {x : ℚ}, some (number x) = some (number p) → p = x := fun heq =>
      (WithTop.coe_injective (WithBot.coe_injective (Option.some.inj heq))).symm
    rcases u with (_ | _) | _ | s | ⟨_ | _, m, e, hm⟩
    · cases hu
    · cases hu
    · cases hu
    · exact .inl ⟨s, rfl, hnumber hu⟩
    · exact .inr ⟨_, m, e, hm, rfl, hnumber hu⟩
    · exact .inr ⟨_, m, e, hm, rfl, hnumber hu⟩
  rcases hparts h with ⟨s, hu, rfl⟩ | ⟨s, m, e, hm, hu, rfl⟩
  · exact ⟨s, 0, -1074, ⟨by decide, le_rfl, .inr rfl⟩, by decide, hu, by simp⟩
  · obtain ⟨hcanonical, he⟩ := canonical_of_unpack hu
    refine ⟨s, m, e, hcanonical, he, ?_, rfl⟩
    rw [hu, ofParts_of_pos s e hm]

/-- **A quotient** is rounded, if the divisor is a number other than zero. -/
lemma isRounding_div (ha : value? a = some (number p)) (hb : value? b = some (number q))
    (hq : q ≠ 0) : IsRounding (a / b) (p / q) := by
  obtain ⟨s, m, e, -, -, hu, rfl⟩ := exists_parts ha
  obtain ⟨s', m', e', -, -, hv, rfl⟩ := exists_parts hb
  have hm' : 0 < m' := by
    refine Nat.pos_of_ne_zero ?_
    rintro rfl
    simp at hq
  rw [div_eq_pack, hu, hv, ← signed_div, ofParts_of_pos s' e' hm']
  rcases m.eq_zero_or_pos with rfl | hm
  · refine ⟨s / s', 0, 0, -1074, le_rfl, by simp, nearest_zero, ?_⟩
    rfl
  · obtain ⟨q', t, hnearest, hparts⟩ := div_parts s s' e e' hm hm'
    refine ⟨s / s', _, q', t, by positivity, rfl, hnearest, ?_⟩
    rw [ofParts_of_pos s e hm, hparts]

/-- **A product** is rounded, if one factor has 53 bits. -/
lemma isRounding_mul (ha : value? a = some (number p)) {s' : Sign} {m' : ℕ} {e' : ℤ} {hm' : 0 < m'}
    (hb : b.toModel.unpack = .finite s' m' e' hm') (hbits : 2 ^ 52 ≤ m') :
    IsRounding (a * b) (p * signed s' (m' * 2 ^ e')) := by
  obtain ⟨s, m, e, -, -, hu, rfl⟩ := exists_parts ha
  rw [mul_eq_pack, hu, hb, ← signed_mul]
  rcases m.eq_zero_or_pos with rfl | hm
  · refine ⟨s * s', 0, 0, -1074, le_rfl, by simp, nearest_zero, ?_⟩
    rfl
  · obtain ⟨q', t, hnearest, hparts⟩ :=
      mul_parts s s' e e' hm hm' (hbits.trans (Nat.le_mul_of_pos_left m' hm))
    have hvalue : (m * m' * 2 ^ (e + e') : ℚ) = m * 2 ^ e * (m' * 2 ^ e') := by
      rw [zpow_add₀ (by norm_num)]
      ring
    rw [hvalue] at hnearest
    refine ⟨s * s', _, q', t, by positivity, rfl, hnearest, ?_⟩
    rw [ofParts_of_pos s e hm, hparts]

/-- A double of parts that are too large is made like an infinite one. -/
lemma pack_overflow {s : Sign} {m : ℕ} {e : ℤ} (hm : 0 < m) (he : 971 < e) :
    Float.Model.pack (.finite s m e hm) = Float.Model.pack (.infinity s) :=
  eq_of_bits ((pack_finite hm).trans (if_pos (by omega)))

/-- **A negated result** is the rounding of the negated exact one. -/
lemma isRounding_neg (h : IsRounding a p) : IsRounding (-a) (-p) := by
  obtain ⟨s, q, m, e, hq, rfl, hnearest, rfl⟩ := h
  refine ⟨-s, q, m, e, hq, signed_neg.symm, hnearest, ?_⟩
  have hneg : (-(Float.ofModel (Float.Model.pack (ofParts s m e)))) =
      .ofModel (Float.Model.pack (Float.Model.pack (ofParts s m e)).unpack.neg) := rfl
  rw [hneg]
  by_cases he : e ≤ 971
  · rw [unpack_pack_ofParts hnearest.canonical he]
    rcases m.eq_zero_or_pos with rfl | hm
    · rfl
    · rw [ofParts_of_pos s e hm, ofParts_of_pos (-s) e hm]
      rfl
  · have hm := hnearest.canonical.pos_of_lt (not_le.1 he)
    rw [ofParts_of_pos s e hm, ofParts_of_pos (-s) e hm, unpack_pack_overflow hm (not_le.1 he),
      pack_overflow hm (not_le.1 he)]
    rfl

/-- **A whole number** is rounded. -/
lemma isRounding_ofInt (k : ℤ) : IsRounding (Float.ofInt k) k := by
  have hnat : ∀ n : ℕ, IsRounding (Float.ofNat n) n := by
    intro n
    obtain ⟨m, e, hnearest, hparts⟩ := ofNat_nearest n
    exact ⟨.positive, n, m, e, by positivity, rfl, hnearest, hparts⟩
  cases k with
  | ofNat n => exact hnat n
  | negSucc n =>
    rw [Int.cast_negSucc]
    exact isRounding_neg (hnat (n + 1))

/-- A whole number of 53 bits is not changed. -/
lemma value?_ofInt {k : ℤ} (hk : k.natAbs < 2 ^ 53) :
    value? (Float.ofInt k) = some (number k) := by
  have habs : |(k : ℚ)| = k.natAbs * 2 ^ (0 : ℤ) := by
    rw [zpow_zero, mul_one, Nat.cast_natAbs, Int.cast_abs]
  obtain ⟨s, m, e, hsign, hnearest, -, -, hvalue⟩ :=
    (isRounding_ofInt k).exists_nearest hk (by decide) (by decide) habs.le
  rw [hvalue, hnearest.eq_of_eq hk (by decide) habs, ← habs, ← hsign]

end Operations

/-! ## Operations that keep the order -/

/-- An operation keeps infinite doubles, and rounds exact results that are in order. -/
structure KeepsOrder (f : Float → Float) : Prop where
  /-- Positive infinity stays. -/
  top : ∀ {a}, value? a = some ⊤ → value? (f a) = some ⊤
  /-- Negative infinity stays. -/
  bot : ∀ {a}, value? a = some ⊥ → value? (f a) = some ⊥
  /-- Numbers in order have exact results in order. -/
  number : ∀ {a b p q}, value? a = some (number p) → value? b = some (number q) → p ≤ q →
    ∃ r r', IsRounding (f a) r ∧ IsRounding (f b) r' ∧ r ≤ r'

/-- What an extended number is. -/
lemma Extended.cases (x : Extended) : x = ⊥ ∨ x = ⊤ ∨ ∃ q, x = Double.number q := by
  rcases x with _ | _ | q
  · exact .inl rfl
  · exact .inr (.inl rfl)
  · exact .inr (.inr ⟨q, rfl⟩)

/-- **An operation that keeps the order** of exact results keeps that of doubles, of infinite ones
too. -/
lemma KeepsOrder.le {f : Float → Float} (h : KeepsOrder f) {a b : Float} (hab : a ≤ b) :
    f a ≤ f b := by
  obtain ⟨x, y, hx, hy, hxy⟩ := le_iff.1 hab
  have hexists : ∀ {c z}, value? c = some z → ∃ w, value? (f c) = some w := by
    intro c z hz
    rcases Extended.cases z with rfl | rfl | ⟨q, rfl⟩
    · exact ⟨_, h.bot hz⟩
    · exact ⟨_, h.top hz⟩
    · obtain ⟨r, -, hr, -, -⟩ := h.number hz hz le_rfl
      exact hr.exists_value
  rcases Extended.cases x with rfl | rfl | ⟨p, rfl⟩
  · obtain ⟨w, hw⟩ := hexists hy
    exact le_iff.2 ⟨⊥, w, h.bot hx, hw, bot_le⟩
  · obtain rfl := top_le_iff.1 hxy
    exact le_iff.2 ⟨⊤, ⊤, h.top hx, h.top hy, le_rfl⟩
  · rcases Extended.cases y with rfl | rfl | ⟨q, rfl⟩
    · exact absurd hxy (not_le.2 (bot_lt_number p))
    · obtain ⟨w, hw⟩ := hexists hx
      exact le_iff.2 ⟨w, ⊤, hw, h.top hy, le_top⟩
    · obtain ⟨r, r', hr, hr', hle⟩ := h.number hx hy (number_le_number.1 hxy)
      exact hr.mono hr' hle

/-! ### Infinite doubles -/

section Infinite

variable {a : Float}

lemma value?_top : value? (.ofModel (Float.Model.pack (.infinity .positive))) = some ⊤ := by
  rfl

lemma value?_bot : value? (.ofModel (Float.Model.pack (.infinity .negative))) = some ⊥ := by
  rfl

lemma unpack_of_top (h : value? a = some ⊤) : a.toModel.unpack = .infinity .positive := by
  revert h
  show partsValue? a.toModel.unpack = some ⊤ → _
  rcases a.toModel.unpack with (_ | _) | _ | _ | ⟨_ | _, m, e, hm⟩ <;> intro h <;>
    first | rfl | cases h

lemma unpack_of_bot (h : value? a = some ⊥) : a.toModel.unpack = .infinity .negative := by
  revert h
  show partsValue? a.toModel.unpack = some ⊥ → _
  rcases a.toModel.unpack with (_ | _) | _ | _ | ⟨_ | _, m, e, hm⟩ <;> intro h <;>
    first | rfl | cases h

end Infinite

section Positive

variable {b : Float} {m : ℕ} {e : ℤ} {hm : 0 < m}

/-- Dividing by a positive number keeps the order. -/
lemma keepsOrder_div (hb : b.toModel.unpack = .finite .positive m e hm) :
    KeepsOrder fun a => a / b where
  top := by
    intro a ha
    show value? (a / b) = some ⊤
    rw [div_eq_pack, unpack_of_top ha, hb]
    exact value?_top
  bot := by
    intro a ha
    show value? (a / b) = some ⊥
    rw [div_eq_pack, unpack_of_bot ha, hb]
    exact value?_bot
  number := by
    intro a a' p q ha ha' hle
    have hpos : (0 : ℚ) < m * 2 ^ e := by positivity
    have hvalue := value?_of_finite hb
    exact ⟨_, _, isRounding_div ha hvalue hpos.ne', isRounding_div ha' hvalue hpos.ne',
      by gcongr⟩

/-- Multiplying by a positive number of 53 bits keeps the order. -/
lemma keepsOrder_mul (hb : b.toModel.unpack = .finite .positive m e hm) (hbits : 2 ^ 52 ≤ m) :
    KeepsOrder fun a => a * b where
  top := by
    intro a ha
    show value? (a * b) = some ⊤
    rw [mul_eq_pack, unpack_of_top ha, hb]
    exact value?_top
  bot := by
    intro a ha
    show value? (a * b) = some ⊥
    rw [mul_eq_pack, unpack_of_bot ha, hb]
    exact value?_bot
  number := by
    intro a a' p q ha ha' hle
    refine ⟨_, _, isRounding_mul ha hb hbits, isRounding_mul ha' hb hbits, ?_⟩
    have hpos : (0 : ℚ) < m * 2 ^ e := by positivity
    show p * (m * 2 ^ e) ≤ q * (m * 2 ^ e)
    gcongr

end Positive

end BenchTally.Double
