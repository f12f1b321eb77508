import BenchTally.Proofs.Double.Packing

set_option autoImplicit false
set_option relaxedAutoImplicit false

/-!
# Values of doubles

A double that is a number stands for a rational number, or for something below or above all of
them. The comparisons of doubles are those of their values.

## Main definitions

* `Double.Extended` — the rational numbers with a least and a greatest element.
* `Double.value?` — what a double stands for.

## Main results

* `Double.lt_iff`, `Double.le_iff`, `Double.beq_iff`, `Double.isNaN_iff` — comparisons by values.
-/

namespace BenchTally.Double

open Float.Model

/-- The rational numbers with a least and a greatest element. -/
abbrev Extended := WithBot (WithTop ℚ)

/-- A rational number among them. -/
def number (q : ℚ) : Extended :=
  WithBot.some (WithTop.some q)

@[simp]
lemma number_lt_number {p q : ℚ} : number p < number q ↔ p < q :=
  WithBot.coe_lt_coe.trans WithTop.coe_lt_coe

@[simp]
lemma number_le_number {p q : ℚ} : number p ≤ number q ↔ p ≤ q :=
  WithBot.coe_le_coe.trans WithTop.coe_le_coe

@[simp]
lemma number_lt_top (q : ℚ) : number q < ⊤ :=
  WithBot.coe_lt_coe.2 (WithTop.coe_lt_top q)

@[simp]
lemma bot_lt_number (q : ℚ) : ⊥ < number q :=
  WithBot.bot_lt_coe _

/-- What the parts of a double stand for; both zeros stand for the same. -/
def partsValue? : UnpackedFloat → Option Extended
  | .notANumber => none
  | .infinity .positive => some ⊤
  | .infinity .negative => some ⊥
  | .zero _ => some (number 0)
  | .finite .positive m e _ => some (number (m * 2 ^ e))
  | .finite .negative m e _ => some (number (-(m * 2 ^ e)))

/-- What a double stands for, if it is a number. -/
def value? (x : Float) : Option Extended :=
  partsValue? x.toModel.unpack

lemma value?_of_infinity {x : Float} (h : x.toModel.unpack = .infinity .positive) :
    value? x = some ⊤ :=
  congrArg partsValue? h

lemma value?_of_finite {x : Float} {m : ℕ} {e : ℤ} {hm : 0 < m}
    (h : x.toModel.unpack = .finite .positive m e hm) : value? x = some (number (m * 2 ^ e)) :=
  congrArg partsValue? h

/-! ## Canonical numbers -/

namespace Canonical

variable {m m' : ℕ} {e e' : ℤ}

/-- The larger exponent belongs to the larger number. -/
lemma mul_zpow_lt (h : Canonical m e) (h' : Canonical m' e') (he : e < e') :
    (m * 2 ^ e : ℚ) < m' * 2 ^ e' := by
  have hnormal : 2 ^ 52 ≤ m' := h'.normal.resolve_right (by have := h.minExponent_le; omega)
  calc (m * 2 ^ e : ℚ) < 2 ^ 52 * 2 ^ e' := Double.mul_zpow_lt h.lt he
    _ ≤ m' * 2 ^ e' := by
        gcongr
        exact_mod_cast hnormal

/-- Canonical numbers are compared by their exponents first. -/
lemma compares (h : Canonical m e) (h' : Canonical m' e') :
    ((compare e e').then (compare m m')).Compares (m * 2 ^ e : ℚ) (m' * 2 ^ e') := by
  rcases lt_trichotomy e e' with he | rfl | he
  · rw [compare_lt_iff_lt.2 he]
    exact h.mul_zpow_lt h' he
  · have hpos : (0 : ℚ) < 2 ^ e := by positivity
    rw [Std.ReflOrd.compare_self]
    rcases lt_trichotomy m m' with hm | rfl | hm
    · rw [compare_lt_iff_lt.2 hm]
      exact mul_lt_mul_of_pos_right (by exact_mod_cast hm) hpos
    · rw [Std.ReflOrd.compare_self]
      rfl
    · rw [compare_gt_iff_gt.2 hm]
      exact mul_lt_mul_of_pos_right (by exact_mod_cast hm) hpos
  · rw [compare_gt_iff_gt.2 he]
    exact h'.mul_zpow_lt h he

end Canonical

/-! ## Comparisons -/

/-- The parts of a double, as far as there are any, are canonical. -/
def CanonicalParts (u : UnpackedFloat) : Prop :=
  ∀ s m e hm, u = .finite s m e hm → Canonical m e

lemma canonicalParts_unpack (x : Float.Model) : CanonicalParts x.unpack :=
  fun _ _ _ _ h => (canonical_of_unpack h).1

/-- Negative numbers are compared the other way around. -/
lemma compares_neg {o : Ordering} {p q : ℚ} (h : o.Compares p q) : o.swap.Compares (-p) (-q) := by
  cases o with
  | lt => exact neg_lt_neg h
  | eq => exact congrArg _ h
  | gt => exact neg_lt_neg h

/-- **Parts are compared as what they stand for.**

**Proof sketch.** The infinities are below and above everything else by definition, and the signs
decide between a number and one that is not on the same side of zero. On the same side the parts
decide, exponents first, which is right for canonical parts. -/
lemma compare_parts {u v : UnpackedFloat} {x y : Extended} (hu : CanonicalParts u)
    (hv : CanonicalParts v) (hx : partsValue? u = some x) (hy : partsValue? v = some y) :
    ∃ o, u.compare v = some o ∧ o.Compares x y := by
  have hpos : ∀ {m : ℕ} {e : ℤ}, 0 < m → (0 : ℚ) < m * 2 ^ e := fun hm => by positivity
  have hnumber : ∀ {o : Ordering} {p q : ℚ}, o.Compares p q → o.Compares (number p) (number q) := by
    rintro (_ | _ | _) p q h
    · exact number_lt_number.2 h
    · exact congrArg number h
    · exact number_lt_number.2 h
  rcases u with (_ | _) | _ | _ | ⟨_ | _, m, e, hm⟩ <;>
    rcases v with (_ | _) | _ | _ | ⟨_ | _, m', e', hm'⟩ <;>
    cases hx <;> cases hy <;> refine ⟨_, rfl, ?_⟩
  -- An infinity on one side, or the same on both.
  all_goals try first | rfl | exact bot_lt_top | exact bot_lt_number _ | exact number_lt_top _
  -- Numbers: zero, negative and positive ones, in this order on either side.
  all_goals refine hnumber ?_
  · exact neg_lt_zero.2 (hpos hm')
  · exact hpos hm'
  · exact neg_lt_zero.2 (hpos hm)
  · exact compares_neg ((hu _ _ _ _ rfl).compares (hv _ _ _ _ rfl))
  · exact (neg_lt_zero.2 (hpos hm)).trans (hpos hm')
  · exact hpos hm
  · exact (neg_lt_zero.2 (hpos hm')).trans (hpos hm)
  · exact (hu _ _ _ _ rfl).compares (hv _ _ _ _ rfl)

variable {a b : Float}

/-- A double is not a number exactly if it stands for nothing. -/
lemma isNaN_iff : a.isNaN = true ↔ value? a = none := by
  change a.toModel.unpack.isNaN = true ↔ partsValue? a.toModel.unpack = none
  rcases a.toModel.unpack with (_ | _) | _ | _ | ⟨_ | _, m, e, hm⟩
  case notANumber => exact iff_of_true rfl rfl
  all_goals exact iff_of_false Bool.false_ne_true (Option.some_ne_none _)

/-- Nothing compares with a double that is not a number. -/
lemma compare_eq_none {u v : UnpackedFloat} (h : partsValue? u = none ∨ partsValue? v = none) :
    u.compare v = none := by
  rcases u with (_ | _) | _ | _ | ⟨_ | _, m, e, hm⟩ <;>
    rcases v with (_ | _) | _ | _ | ⟨_ | _, m', e', hm'⟩ <;>
    first | rfl | (rcases h with h | h <;> cases h)

/-- Doubles that are numbers are compared as what they stand for, and others not at all. -/
lemma compare_eq_some_iff {o : Ordering} :
    a.toModel.unpack.compare b.toModel.unpack = some o ↔
      ∃ x y, value? a = some x ∧ value? b = some y ∧ o.Compares x y := by
  constructor
  · intro h
    cases hx : value? a with
    | none => rw [compare_eq_none (.inl hx)] at h; cases h
    | some x =>
      cases hy : value? b with
      | none => rw [compare_eq_none (.inr hy)] at h; cases h
      | some y =>
        obtain ⟨o', ho', hxy⟩ := compare_parts (canonicalParts_unpack _) (canonicalParts_unpack _)
          hx hy
        obtain rfl := Option.some.inj (ho'.symm.trans h)
        exact ⟨x, y, rfl, rfl, hxy⟩
  · rintro ⟨x, y, hx, hy, hxy⟩
    obtain ⟨o', ho', hxy'⟩ := compare_parts (canonicalParts_unpack _) (canonicalParts_unpack _)
      hx hy
    rw [ho', hxy'.inj hxy]

/-- **A double is less than another one** exactly if what it stands for is. -/
lemma lt_iff : a < b ↔ ∃ x y, value? a = some x ∧ value? b = some y ∧ x < y := by
  change decide ((a.toModel.unpack.compare b.toModel.unpack == some .lt) = true) = true ↔ _
  rw [decide_eq_true_iff, beq_iff_eq, compare_eq_some_iff]
  rfl

lemma le_iff : a ≤ b ↔ ∃ x y, value? a = some x ∧ value? b = some y ∧ x ≤ y := by
  change decide ((a.toModel.unpack.compare b.toModel.unpack).any (·.isLE) = true) = true ↔ _
  rw [decide_eq_true_iff, Option.any_eq_true]
  constructor
  · rintro ⟨o, ho, hle⟩
    obtain ⟨x, y, hx, hy, hxy⟩ := compare_eq_some_iff.1 ho
    refine ⟨x, y, hx, hy, ?_⟩
    cases o with
    | lt => exact le_of_lt hxy
    | eq => exact le_of_eq hxy
    | gt => cases hle
  · rintro ⟨x, y, hx, hy, hxy⟩
    rcases hxy.lt_or_eq with hlt | heq
    · exact ⟨.lt, compare_eq_some_iff.2 ⟨x, y, hx, hy, hlt⟩, rfl⟩
    · exact ⟨.eq, compare_eq_some_iff.2 ⟨x, y, hx, hy, heq⟩, rfl⟩

lemma beq_iff : (a == b) = true ↔ ∃ x, value? a = some x ∧ value? b = some x := by
  change (a.toModel.unpack.compare b.toModel.unpack == some .eq) = true ↔ _
  rw [beq_iff_eq, compare_eq_some_iff]
  constructor
  · rintro ⟨x, y, hx, hy, hxy⟩
    obtain rfl : x = y := hxy
    exact ⟨x, hx, hy⟩
  · rintro ⟨x, hx, hy⟩
    exact ⟨x, x, hx, hy, rfl⟩

end BenchTally.Double
