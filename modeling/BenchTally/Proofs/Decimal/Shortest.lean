import BenchTally.Decimal.Shortest
import BenchTally.Proofs.Decimal.Nearest

set_option autoImplicit false
set_option relaxedAutoImplicit false

/-!
# Shortest decimals and their doubles

The decimals tried for a double lie in the interval of the numbers that round to it. Seventeen
digits always give one: the grid of that many digits is finer than the interval is wide.

## Main definitions

* `Decimal.InInterval` — the numbers between the ends of the interval.

## Main results

* `Decimal.nearest_of_inInterval` — what lies in the interval rounds to the double.
* `Decimal.ten_zpow_pointPlace_le` — the place of the decimal point is not too large.
* `Decimal.inInterval_shortest` — the shortest decimal lies in the interval.
-/

namespace BenchTally

open Double

namespace Decimal

/-! ## The interval -/

/-- A number lies between the ends of the interval of `m * 2 ^ e`, and may be an end only if the
mantissa is even. -/
def InInterval (m : ℕ) (e : ℤ) (q : ℚ) : Prop :=
  if Even m then
    (interval m e).1 * 2 ^ (e - 2) ≤ q ∧ q ≤ (interval m e).2 * 2 ^ (e - 2)
  else
    (interval m e).1 * 2 ^ (e - 2) < q ∧ q < (interval m e).2 * 2 ^ (e - 2)

section Interval

variable {m m' : ℕ} {e e' : ℤ} {q : ℚ}

lemma InInterval.le (h : InInterval m e q) :
    (interval m e).1 * 2 ^ (e - 2) ≤ q ∧ q ≤ (interval m e).2 * 2 ^ (e - 2) := by
  unfold InInterval at h
  split_ifs at h
  · exact h
  · exact ⟨h.1.le, h.2.le⟩

/-- A number that is an end of the interval has an even mantissa. -/
lemma InInterval.even (h : InInterval m e q)
    (hend : q ≤ (interval m e).1 * 2 ^ (e - 2) ∨ (interval m e).2 * 2 ^ (e - 2) ≤ q) : Even m := by
  unfold InInterval at h
  split_ifs at h with hm
  · exact hm
  · rcases hend with hend | hend
    · exact absurd h.1 hend.not_gt
    · exact absurd h.2 hend.not_gt

/-- What is less than a multiple of a unit is a whole unit less, if it cannot be a multiple of a
lesser unit only. -/
lemma le_sub_one_mul_zpow {k : ℕ} {t : ℤ} (hk : 2 ^ 52 < k ∨ t = -1074) (hm' : m' < 2 ^ 53)
    (he' : -1074 ≤ e') (hlt : (m' * 2 ^ e' : ℚ) < k * 2 ^ t) :
    (m' * 2 ^ e' : ℚ) ≤ (k - 1) * 2 ^ t := by
  rcases eq_mul_zpow_or_lt (t := t) (e := e') hm' with ⟨j, hj⟩ | ⟨he, hless⟩
  · rw [hj] at hlt ⊢
    have hcast : (j : ℚ) < k := lt_of_mul_lt_mul_right hlt (by positivity)
    have hstep : j + 1 ≤ k := by exact_mod_cast hcast
    have hcast' : (j + 1 : ℚ) ≤ k := by exact_mod_cast hstep
    gcongr
    linarith
  · have hbits : 2 ^ 52 + 1 ≤ k := hk.resolve_right (by omega)
    have hcast : (2 ^ 52 + 1 : ℚ) ≤ k := by exact_mod_cast hbits
    refine hless.le.trans ?_
    gcongr
    linarith

/-- What is greater than a double is a whole unit greater. -/
lemma add_one_mul_zpow_le (h : Canonical m e) (hm' : m' < 2 ^ 53) (he' : -1074 ≤ e')
    (hlt : (m * 2 ^ e : ℚ) < m' * 2 ^ e') : ((m + 1) * 2 ^ e : ℚ) ≤ m' * 2 ^ e' := by
  rcases eq_mul_zpow_or_lt (t := e) (e := e') hm' with ⟨j, hj⟩ | ⟨he, hless⟩
  · rw [hj] at hlt ⊢
    have hcast : (m : ℚ) < j := lt_of_mul_lt_mul_right hlt (by positivity)
    have hstep : m + 1 ≤ j := by exact_mod_cast hcast
    have hcast' : (m + 1 : ℚ) ≤ j := by exact_mod_cast hstep
    gcongr
  · have hbits : 2 ^ 52 ≤ m := h.normal.resolve_right (by omega)
    have hcast : (2 ^ 52 : ℚ) ≤ m := by exact_mod_cast hbits
    have hle : (2 ^ 52 * 2 ^ e : ℚ) ≤ m * 2 ^ e := by gcongr
    exact absurd hlt (not_lt.2 (hless.le.trans hle))

/-- A unit in quarters. -/
lemma two_zpow_eq_four_mul (e : ℤ) : (2 : ℚ) ^ e = 4 * 2 ^ (e - 2) := by
  rw [zpow_sub₀ (by norm_num)]
  ring

/-- **The next lesser number** is not nearer to the lower end of the interval than the double. -/
lemma add_le_two_mul_of_lt (h : Canonical m e) (hm : 0 < m) (hm' : m' < 2 ^ 53) (he' : -1074 ≤ e')
    (hlt : (m' * 2 ^ e' : ℚ) < m * 2 ^ e) :
    (m' * 2 ^ e' + m * 2 ^ e : ℚ) ≤ 2 * ((interval m e).1 * 2 ^ (e - 2)) := by
  unfold interval
  split_ifs with hpower
  · -- Below a power of two the unit is half of that above it.
    have hcast : (m : ℚ) = 2 ^ 52 := by
      rw [hpower.1]
      norm_num
    have hhalf : (2 : ℚ) ^ (e - 1) = 2 * 2 ^ (e - 2) := by
      rw [← zpow_one_add₀ (by norm_num)]
      congr 1
      ring
    have hsame : (m * 2 ^ e : ℚ) = (2 ^ 53 : ℕ) * 2 ^ (e - 1) := by
      rw [hcast, two_zpow_eq_four_mul e, hhalf]
      push_cast
      ring
    rw [hsame] at hlt ⊢
    have hbelow := le_sub_one_mul_zpow (.inl (by norm_num)) hm' he' hlt
    rw [hhalf] at hbelow ⊢
    rw [Nat.cast_sub (by omega)]
    push_cast at hbelow ⊢
    rw [hcast]
    linarith
  · have hk : 2 ^ 52 < m ∨ e = -1074 := by
      by_contra hnot
      obtain ⟨hle, hne⟩ := not_or.1 hnot
      have hmin : -1074 < e := lt_of_le_of_ne h.minExponent_le (Ne.symm hne)
      exact hpower ⟨le_antisymm (not_lt.1 hle) (h.normal.resolve_right hne), hmin⟩
    have hbelow := le_sub_one_mul_zpow hk hm' he' hlt
    rw [Nat.cast_sub (by omega), two_zpow_eq_four_mul e]
    rw [two_zpow_eq_four_mul e] at hbelow
    push_cast
    linarith

/-- **The next greater number** is not nearer to the upper end of the interval than the double. -/
lemma two_mul_le_add_of_lt (h : Canonical m e) (hm' : m' < 2 ^ 53) (he' : -1074 ≤ e')
    (hlt : (m * 2 ^ e : ℚ) < m' * 2 ^ e') :
    2 * ((interval m e).2 * 2 ^ (e - 2)) ≤ (m * 2 ^ e + m' * 2 ^ e' : ℚ) := by
  have habove := add_one_mul_zpow_le h hm' he' hlt
  change 2 * (((4 * m + 2 : ℕ) : ℚ) * 2 ^ (e - 2)) ≤ _
  rw [two_zpow_eq_four_mul e] at habove ⊢
  push_cast
  linarith

/-- **What lies in the interval** of a positive double rounds to it.

**Proof sketch.** Any other double is a whole unit away at least, on either side, and an end of the
interval is half way to it. -/
lemma nearest_of_inInterval (h : Canonical m e) (hm : 0 < m) (hq : InInterval m e q) :
    Nearest q m e := by
  obtain ⟨hlow, hhigh⟩ := hq.le
  refine ⟨h, fun m' e' hm' he' => ?_, fun m' e' hm' he' heq hne => ?_⟩
  · rcases lt_trichotomy (m' * 2 ^ e' : ℚ) (m * 2 ^ e) with hlt | hsame | hlt
    · have hmiddle := add_le_two_mul_of_lt h hm hm' he' hlt
      exact (abs_sub_le_abs_sub_iff hlt).2 (by linarith)
    · rw [hsame]
    · have hmiddle := two_mul_le_add_of_lt h hm' he' hlt
      exact (abs_sub_le_abs_sub_iff' hlt).2 (by linarith)
  · rcases lt_or_gt_of_ne hne with hlt | hlt
    · have hmiddle := add_le_two_mul_of_lt h hm hm' he' hlt
      have hbelow := (abs_sub_le_abs_sub_iff' hlt).1 heq.le
      exact hq.even (.inl (by linarith))
    · have hmiddle := two_mul_le_add_of_lt h hm' he' hlt
      have habove := (abs_sub_le_abs_sub_iff hlt).1 heq.le
      exact hq.even (.inr (by linarith))

end Interval

/-! ## The grid -/

section Grid

variable {m : ℕ} {e j : ℤ} {tie : Tie}

/-- The unit and the step are multiplied by one number. -/
lemma exists_gridScale (e j : ℤ) : ∃ u : ℚ, 0 < u ∧
    (gridUnit e j : ℚ) = 2 ^ (e - 2) * u ∧ (gridStep e j : ℚ) = 10 ^ j * u := by
  have htwo := zpow_mul_pow_toNat (a := 2) (by norm_num) (e - 2)
  have hten := zpow_mul_pow_toNat (a := 10) (by norm_num) j
  rw [neg_sub] at htwo
  refine ⟨2 ^ (2 - e).toNat * 10 ^ (-j).toNat, by positivity, ?_, ?_⟩
  · rw [gridUnit, Nat.pow_eq, Nat.pow_eq]
    push_cast
    rw [← htwo]
    ring
  · rw [gridStep, Nat.pow_eq, Nat.pow_eq]
    push_cast
    rw [← hten]
    ring

/-- Comparisons of multiples of the unit and of the step are those of the numbers. -/
lemma mul_gridUnit_le_iff {a d : ℕ} :
    a * gridUnit e j ≤ d * gridStep e j ↔ (a * 2 ^ (e - 2) : ℚ) ≤ d * 10 ^ j := by
  obtain ⟨u, hu, hunit, hstep⟩ := exists_gridScale e j
  rw [← Nat.cast_le (α := ℚ), Nat.cast_mul, Nat.cast_mul, hunit, hstep, ← mul_assoc, ← mul_assoc,
    mul_le_mul_iff_of_pos_right hu]

lemma mul_gridStep_le_iff {a d : ℕ} :
    d * gridStep e j ≤ a * gridUnit e j ↔ (d * 10 ^ j : ℚ) ≤ a * 2 ^ (e - 2) := by
  obtain ⟨u, hu, hunit, hstep⟩ := exists_gridScale e j
  rw [← Nat.cast_le (α := ℚ), Nat.cast_mul, Nat.cast_mul, hunit, hstep, ← mul_assoc, ← mul_assoc,
    mul_le_mul_iff_of_pos_right hu]

/-- **The comparisons on the grid** tell whether a decimal lies in the interval. -/
lemma roundsOnGrid_iff {d : ℕ} : roundsOnGrid m e j d = true ↔ InInterval m e (d * 10 ^ j) := by
  unfold roundsOnGrid InInterval
  simp only [Nat.even_iff]
  split_ifs with hm
  · rw [decide_eq_true_iff, mul_gridUnit_le_iff, mul_gridStep_le_iff]
  · rw [decide_eq_true_iff, ← not_le, ← not_le, mul_gridUnit_le_iff, mul_gridStep_le_iff, not_le,
      not_le]

/-- A decimal that is found on a grid lies in the interval. -/
lemma inInterval_of_nearestOnGrid? {d : Decimal} (h : nearestOnGrid? tie m e j = some d) :
    InInterval m e (value d) := by
  unfold nearestOnGrid? at h
  dsimp only at h
  split at h
  · cases h
  · rename_i hbelow _
    cases h
    rw [Bool.and_eq_true] at hbelow
    exact roundsOnGrid_iff.1 hbelow.2
  · rename_i _ habove
    cases h
    exact roundsOnGrid_iff.1 habove
  · rename_i hbelow habove
    rw [Bool.and_eq_true] at hbelow
    split_ifs at h <;> cases h
    · exact roundsOnGrid_iff.1 hbelow.2
    · exact roundsOnGrid_iff.1 habove
    · exact roundsOnGrid_iff.1 hbelow.2
    · exact roundsOnGrid_iff.1 habove

/-- If nothing is found on a grid, the two decimals next to the double lie outside of the interval,
or the lower one is zero. -/
lemma exists_of_nearestOnGrid?_eq_none (h : nearestOnGrid? tie m e j = none) :
    ∃ k : ℕ, (k * 10 ^ j : ℚ) ≤ m * 2 ^ e ∧ (m * 2 ^ e : ℚ) < (k + 1 : ℕ) * 10 ^ j ∧
      (k = 0 ∨ ¬ InInterval m e (k * 10 ^ j)) ∧ ¬ InInterval m e ((k + 1 : ℕ) * 10 ^ j) := by
  have hquarters : (m * 2 ^ e : ℚ) = (4 * m : ℕ) * 2 ^ (e - 2) := by
    rw [two_zpow_eq_four_mul e]
    push_cast
    ring
  have hstep : 0 < gridStep e j := by
    unfold gridStep
    simp only [Nat.pow_eq]
    positivity
  refine ⟨4 * m * gridUnit e j / gridStep e j, ?_, ?_, ?_⟩
  · rw [hquarters, ← mul_gridStep_le_iff]
    exact Nat.div_mul_le_self _ _
  · rw [hquarters, ← not_le, ← mul_gridStep_le_iff, not_le]
    rw [Nat.add_mul, Nat.one_mul]
    exact Nat.lt_div_mul_add hstep
  · unfold nearestOnGrid? at h
    dsimp only at h
    split at h
    · rename_i hbelow habove
      rw [Bool.and_eq_false_iff, decide_eq_false_iff_not, Nat.pos_iff_ne_zero, not_not] at hbelow
      exact ⟨hbelow.imp_right fun hout => mt roundsOnGrid_iff.2 (Bool.eq_false_iff.1 hout),
        mt roundsOnGrid_iff.2 (Bool.eq_false_iff.1 habove)⟩
    · cases h
    · cases h
    · split_ifs at h

end Grid

/-! ## Seventeen digits -/

section Place

variable {m : ℕ} {e : ℤ}

/-- A number is at least the power of ten that its first digit stands for, and less than the next
one. -/
lemma digitCount_bounds {n : ℕ} (hn : 0 < n) :
    10 ^ (digitCount n - 1) ≤ n ∧ n < 10 ^ digitCount n := by
  have hcount : digitCount n = (Nat.toDigits 10 n).length := if_neg hn.ne'
  have hpos : 0 < (Nat.toDigits 10 n).length := Nat.length_toDigits_pos
  rw [hcount]
  refine ⟨?_, (Nat.length_toDigits_le_iff (by decide) hpos).1 le_rfl⟩
  rcases Nat.eq_or_lt_of_le (Nat.succ_le_of_lt hpos) with hone | hmore
  · rw [← hone]
    exact hn
  · have hlength := mt (Nat.length_toDigits_le_iff (n := n) (b := 10)
      (k := (Nat.toDigits 10 n).length - 1) (by decide) (by omega)).2 (by omega)
    exact not_lt.1 hlength

/-- **The place of the decimal point** is not too large: the double has a digit in front of it.

**Proof sketch.** If the double has a whole part, the digits are those of the whole part. Otherwise
the digits are those of how often the mantissa goes into what is just below the denominator, and
that many powers of ten make the double at least one. -/
lemma ten_zpow_pointPlace_le (hm : 0 < m) : (10 : ℚ) ^ (pointPlace m e - 1) ≤ m * 2 ^ e := by
  have htwo := zpow_mul_pow_toNat (a := 2) (by norm_num) e
  have hpower : (0 : ℚ) < 2 ^ (-e).toNat := by positivity
  unfold pointPlace
  simp only [Nat.pow_eq]
  split_ifs with hwhole
  · obtain ⟨hle, -⟩ := digitCount_bounds hwhole
    have hdiv : (m * 2 ^ e.toNat / 2 ^ (-e).toNat) * 2 ^ (-e).toNat ≤ m * 2 ^ e.toNat :=
      Nat.div_mul_le_self _ _
    generalize m * 2 ^ e.toNat / 2 ^ (-e).toNat = n at *
    have hcount : ((digitCount n : ℤ) - 1) = (digitCount n - 1 : ℕ) := by
      have hpos : 0 < digitCount n := by
        rw [digitCount, if_neg hwhole.ne']
        exact Nat.length_toDigits_pos
      omega
    have hcast : (n * 2 ^ (-e).toNat : ℚ) ≤ m * 2 ^ e.toNat := by exact_mod_cast hdiv
    rw [← htwo, ← mul_assoc] at hcast
    rw [hcount, zpow_natCast]
    calc (10 : ℚ) ^ (digitCount n - 1) ≤ n := by exact_mod_cast hle
      _ ≤ m * 2 ^ e := le_of_mul_le_mul_right hcast hpower
  · have hless : m * 2 ^ e.toNat < 2 ^ (-e).toNat :=
      (Nat.div_eq_zero_iff_lt (by positivity)).1 (Nat.eq_zero_of_not_pos hwhole)
    have hmantissa : m ≤ m * 2 ^ e.toNat := Nat.le_mul_of_pos_right m (by positivity)
    have hquotient : 0 < (2 ^ (-e).toNat - 1) / m := Nat.div_pos (by omega) hm
    obtain ⟨-, hlt⟩ := digitCount_bounds hquotient
    generalize digitCount ((2 ^ (-e).toNat - 1) / m) = c at *
    rw [Nat.div_lt_iff_lt_mul hm] at hlt
    have hpowers : 2 ^ (-e).toNat ≤ m * 2 ^ e.toNat * 10 ^ c := by
      have hmul := Nat.mul_le_mul_right (10 ^ c) hmantissa
      rw [mul_comm] at hlt
      omega
    have hcast : (1 * 2 ^ (-e).toNat : ℚ) ≤ m * 2 ^ e * 10 ^ c * 2 ^ (-e).toNat := by
      rw [one_mul, mul_right_comm, mul_assoc (m : ℚ), htwo]
      exact_mod_cast hpowers
    have hone := le_of_mul_le_mul_right hcast hpower
    rw [sub_sub_cancel_left, zpow_neg, zpow_natCast, inv_le_iff_one_le_mul₀ (by positivity)]
    exact hone

/-- What does not lie in the interval of a double is below it or above it. -/
lemma le_or_le_of_not_inInterval {q : ℚ} (h : ¬ InInterval m e q) :
    q ≤ (interval m e).1 * 2 ^ (e - 2) ∨ (interval m e).2 * 2 ^ (e - 2) ≤ q := by
  by_contra hnot
  obtain ⟨hlow, hhigh⟩ := not_or.1 hnot
  rw [not_le] at hlow hhigh
  refine h ?_
  unfold InInterval
  split_ifs
  · exact ⟨hlow.le, hhigh.le⟩
  · exact ⟨hlow, hhigh⟩

/-- The interval lies around the double, and is wider than its ten to the sixteenth part. -/
lemma interval_bounds (h : Canonical m e) (hm : 0 < m) :
    (interval m e).1 ≤ 4 * m ∧ 4 * m < (interval m e).2 ∧
      10 ^ 16 * (interval m e).1 + 4 * m < 10 ^ 16 * (interval m e).2 := by
  have hbits := h.lt
  unfold interval
  split_ifs with hpower
  · have hvalue : m = 2 ^ 52 := hpower.1
    refine ⟨?_, ?_, ?_⟩ <;> dsimp only <;> omega
  · refine ⟨?_, ?_, ?_⟩ <;> dsimp only <;> omega

/-- **Seventeen digits** are enough: a decimal of the grid is found.

**Proof sketch.** The two decimals next to the double differ by the step of the grid, which is at
most the ten to the sixteenth part of the double. If neither were in the interval, it would not be
wider than the step. -/
lemma nearestOnGrid?_ne_none {tie : Tie} (h : Canonical m e) (hm : 0 < m) {j : ℤ}
    (hj : (10 ^ 16 * 10 ^ j : ℚ) ≤ m * 2 ^ e) : nearestOnGrid? tie m e j ≠ none := by
  intro hnone
  obtain ⟨k, hle, hlt, hbelow, habove⟩ := exists_of_nearestOnGrid?_eq_none hnone
  obtain ⟨hlow, hhigh, hwide⟩ := interval_bounds h hm
  have hstep : (0 : ℚ) < 10 ^ j := by positivity
  have hquarter : (0 : ℚ) < 2 ^ (e - 2) := by positivity
  have hlow' : ((interval m e).1 * 2 ^ (e - 2) : ℚ) ≤ 4 * m * 2 ^ (e - 2) := by
    gcongr
    exact_mod_cast hlow
  have hhigh' : (4 * m * 2 ^ (e - 2) : ℚ) < (interval m e).2 * 2 ^ (e - 2) := by
    gcongr
    exact_mod_cast hhigh
  have hwide' : (10 ^ 16 * ((interval m e).1 * 2 ^ (e - 2)) + 4 * m * 2 ^ (e - 2) : ℚ) <
      10 ^ 16 * ((interval m e).2 * 2 ^ (e - 2)) := by
    have hcast : (10 ^ 16 * (interval m e).1 + 4 * m : ℚ) < 10 ^ 16 * (interval m e).2 := by
      exact_mod_cast hwide
    rw [← mul_assoc, ← mul_assoc, ← add_mul]
    gcongr
  have hunit : (m * 2 ^ e : ℚ) = 4 * m * 2 ^ (e - 2) := by
    rw [two_zpow_eq_four_mul e]
    ring
  rw [hunit] at hle hlt hj
  rw [Nat.cast_add, Nat.cast_one, add_one_mul] at hlt habove
  have hk : k ≠ 0 := by
    rintro rfl
    rw [Nat.cast_zero, zero_mul, zero_add] at hlt
    linarith
  have hend : (k * 10 ^ j : ℚ) ≤ (interval m e).1 * 2 ^ (e - 2) := by
    rcases le_or_le_of_not_inInterval (hbelow.resolve_left hk) with hout | hout
    · exact hout
    · linarith
  have hend' : ((interval m e).2 * 2 ^ (e - 2) : ℚ) ≤ k * 10 ^ j + 10 ^ j := by
    rcases le_or_le_of_not_inInterval habove with hout | hout
    · linarith
    · exact hout
  linarith

end Place

/-! ## The shortest decimal -/

section Shortest

variable {m : ℕ} {e : ℤ}

/-- A carried ten is the same number. -/
lemma value_carryTen (d : Decimal) : value (carryTen d) = value d := by
  unfold carryTen
  split_ifs with hten
  · rw [value, value, hten, zpow_add_one₀ (by norm_num)]
    push_cast
    ring
  · rfl

/-- **The shortest decimal** of a positive double lies in its interval. -/
lemma inInterval_shortest (tie : Tie) (h : Canonical m e) (hm : 0 < m) :
    InInterval m e (value (shortest tie m e)) := by
  unfold shortest
  dsimp only
  rw [value_carryTen]
  cases htried : (List.range 17).findSome? fun n : ℕ =>
      nearestOnGrid? tie m e (pointPlace m e - (n + 1 : ℕ)) with
  | none =>
    rw [List.findSome?_eq_none_iff] at htried
    refine absurd (htried 16 (by decide)) (nearestOnGrid?_ne_none h hm ?_)
    refine le_trans (le_of_eq ?_) (ten_zpow_pointPlace_le hm)
    rw [← zpow_natCast, ← zpow_add₀ (by norm_num)]
    congr 1
    push_cast
    ring
  | some d =>
    obtain ⟨n, -, hd⟩ := List.exists_of_findSome?_eq_some htried
    exact inInterval_of_nearestOnGrid? hd

/-- **The shortest decimal rounds to its double.** -/
lemma nearest_shortest (tie : Tie) (h : Canonical m e) (hm : 0 < m) :
    Nearest (value (shortest tie m e)) m e :=
  nearest_of_inInterval h hm (inInterval_shortest tie h hm)

end Shortest

end Decimal

end BenchTally
