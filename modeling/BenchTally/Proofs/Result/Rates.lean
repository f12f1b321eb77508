import BenchTally.Proofs.Double.Arithmetic
import BenchTally.Proofs.Result.Totals
import BenchTally.Stats.SummaryTally
import Mathlib.Algebra.Order.Field.Basic

set_option autoImplicit false
set_option relaxedAutoImplicit false

/-!
# Rates of summaries

The reader of a summary checks that the time in milliseconds is above zero. The rate is a quotient
by the time in seconds, which is rounded to zero if the time is small enough, and of a number of
operations that is not checked at all.

## Main definitions

* `Double.vanishing` — the greatest double whose thousandth is rounded to zero.

## Main results

* `Double.div_thousand_pos`, `Double.div_thousand_eq_zero` — when a thousandth is zero.
* `Mean.isNaN_of_mem` — a mean of values one of which is not a number is not a number.
* `RunSummary.ofText_rate` — which texts have a rate that is a number.
-/

namespace BenchTally

namespace Double

open Float.Model Float.Model.UnpackedFloat

/-- The greatest double whose thousandth is rounded to zero: it is half way between zero and the
least positive double. -/
def vanishing : Float := Float.ofBits 500

variable {a : Float} {m : ℕ} {e : ℤ} {hm : 0 < m}

/-- The thousandth of a positive number is the double nearest to the exact one, which is not too
large. -/
lemma div_thousand_parts (h : a.toModel.unpack = .finite .positive m e hm) :
    ∃ q t, Nearest (m * 2 ^ e / 1000) q t ∧ t ≤ 971 ∧
      a / 1000.0 = .ofModel (Float.Model.pack (ofParts .positive q t)) := by
  obtain ⟨hcanonical, he⟩ := canonical_of_unpack h
  obtain ⟨q, t, hnearest, hparts⟩ := div_parts .positive .positive e (-43) hm
    (show 0 < 1000 * 2 ^ 43 by decide)
  have hdivisor : ((1000 * 2 ^ 43 : ℕ) * 2 ^ (-43 : ℤ) : ℚ) = 1000 := by norm_num
  rw [hdivisor] at hnearest
  refine ⟨q, t, hnearest, ?_, ?_⟩
  · -- The result is at most the dividend, so that its exponent is not too large either.
    exact (hnearest.exponent_le hcanonical.lt hcanonical.minExponent_le
      (div_le_self (by positivity) (by norm_num))).trans he
  · rw [div_eq_pack, h, unpack_thousand, hparts]
    rfl

/-- The thousandth of an infinite double is infinite. -/
lemma unpack_div_thousand_of_infinity (h : a.toModel.unpack = .infinity .positive) :
    (a / 1000.0).toModel.unpack = .infinity .positive := by
  rw [div_eq_pack, h]
  rfl

lemma value?_vanishing : value? vanishing = some (number (500 * 2 ^ (-1074 : ℤ))) := by
  rfl

/-- An infinite double does not vanish. -/
lemma vanishing_lt_of_infinity (h : a.toModel.unpack = .infinity .positive) : vanishing < a :=
  lt_iff.2 ⟨_, ⊤, value?_vanishing, value?_of_infinity h, number_lt_top _⟩

/-- A number is above the greatest one that vanishes exactly if its thousandth is above half of the
least positive double. -/
lemma vanishing_lt_iff (h : a.toModel.unpack = .finite .positive m e hm) :
    vanishing < a ↔ ¬ (m * 2 ^ e / 1000 : ℚ) ≤ 2 ^ (-1075 : ℤ) := by
  have hvalue := value?_of_finite h
  have hunit : (2 : ℚ) ^ (-1074 : ℤ) = 2 * 2 ^ (-1075 : ℤ) := by
    rw [← zpow_one_add₀ (by norm_num)]
    norm_num
  rw [lt_iff, not_le, lt_div_iff₀ (by norm_num)]
  simp only [value?_vanishing, hvalue, Option.some.injEq, exists_and_left, exists_eq_left',
    number_lt_number, hunit]
  constructor <;> intro h <;> linarith

/-- **When a thousandth vanishes.** The thousandth of a positive double is above zero if the double
is above the greatest one that vanishes, and otherwise it is zero. -/
lemma div_thousand_pos (ha : 0.0 < a) (h : vanishing < a) : 0.0 < a / 1000.0 := by
  rw [zero_lt_iff]
  rcases zero_lt_iff.1 ha with hparts | ⟨m, e, hm, hparts⟩
  · exact .inl (unpack_div_thousand_of_infinity hparts)
  · obtain ⟨q, t, hnearest, ht, hquotient⟩ := div_thousand_parts hparts
    have hq : q ≠ 0 := hnearest.eq_zero_iff.not.2 ((vanishing_lt_iff hparts).1 h)
    refine .inr ⟨q, t, Nat.pos_of_ne_zero hq, ?_⟩
    rw [hquotient, unpack_pack_ofParts hnearest.canonical ht, ofParts_of_pos]

lemma div_thousand_eq_zero (ha : 0.0 < a) (h : ¬ vanishing < a) : a / 1000.0 = 0.0 := by
  rcases zero_lt_iff.1 ha with hparts | ⟨m, e, hm, hparts⟩
  · exact absurd (vanishing_lt_of_infinity hparts) h
  · obtain ⟨q, t, hnearest, ht, hquotient⟩ := div_thousand_parts hparts
    rw [vanishing_lt_iff hparts, ← hnearest.eq_zero_iff, not_not] at h
    rw [hquotient, h]
    rfl

lemma div_thousand_beq_zero_iff (ha : 0.0 < a) :
    (a / 1000.0 == 0.0) = true ↔ ¬ vanishing < a := by
  constructor
  · intro hzero hlt
    obtain ⟨s, hs⟩ := beq_zero_iff.1 hzero
    rcases zero_lt_iff.1 (div_thousand_pos ha hlt) with h | ⟨m, e, hm, h⟩ <;> rw [hs] at h <;>
      cases h
  · intro hlt
    rw [div_thousand_eq_zero ha hlt]
    rfl

/-- The thousandth of a positive double is infinite exactly if the double is. -/
lemma isInf_div_thousand (ha : 0.0 < a) : (a / 1000.0).isInf = a.isInf := by
  change (a / 1000.0).toModel.unpack.isInf = a.toModel.unpack.isInf
  rcases zero_lt_iff.1 ha with hparts | ⟨m, e, hm, hparts⟩
  · rw [unpack_div_thousand_of_infinity hparts, hparts]
  · obtain ⟨q, t, hnearest, ht, hquotient⟩ := div_thousand_parts hparts
    rw [hquotient, unpack_pack_ofParts hnearest.canonical ht, hparts, isInf_ofParts]
    rfl

/-- A thousandth is not a number exactly if the double is not. -/
lemma isNaN_div_thousand_iff : (a / 1000.0).isNaN = true ↔ a.isNaN = true := by
  have hnumber : (1000.0 : Float).isNaN = false := by rfl
  have hfinite : (1000.0 : Float).isInf = false := by rfl
  have hnonzero : ((1000.0 : Float) == 0.0) = false := by rfl
  rw [isNaN_div_iff, hnumber, hfinite, hnonzero]
  simp only [Bool.false_eq_true, and_false, or_false]

lemma not_isNaN_of_pos (ha : 0.0 < a) : a.isNaN = false := by
  change a.toModel.unpack.isNaN = false
  rcases zero_lt_iff.1 ha with h | ⟨m, e, hm, h⟩ <;> rw [h] <;> rfl

end Double

/-! ## Means -/

/-- A mean of values one of which is not a number is not a number. -/
lemma Mean.isNaN_of_mem {values : List Float} {x : Float} (hx : x ∈ values)
    (h : x.isNaN = true) : ∃ mean, (Mean.ofList values).value? = some mean ∧ mean.isNaN = true := by
  have hcount : 0 < (Mean.ofList values).count := by
    rw [Mean.count_ofList]
    exact List.length_pos_of_mem hx
  refine ⟨_, if_pos hcount, ?_⟩
  rw [Double.isNaN_div_iff, Mean.sum_ofList]
  exact .inl (Double.isNaN_foldl_add_of_mem hx h)

/-- The mean of a single value is not a number exactly if the value is not. -/
lemma Mean.isNaN_singleton_iff (x : Float) :
    ∃ mean, (Mean.ofList [x]).value? = some mean ∧ (mean.isNaN = true ↔ x.isNaN = true) := by
  have hnumber : (Quantity.ofNat 1 : Float).isNaN = false := by rfl
  have hfinite : (Quantity.ofNat 1 : Float).isInf = false := by rfl
  have hnonzero : ((Quantity.ofNat 1 : Float) == 0.0) = false := by rfl
  refine ⟨(Float.ofNat 0 + x) / Quantity.ofNat 1, rfl, ?_⟩
  rw [Double.isNaN_div_iff, Double.isNaN_zero_add, hnumber, hfinite, hnonzero]
  simp only [Bool.false_eq_true, and_false, or_false]

/-! ## Rates -/

namespace RunSummary

/-- A time that a text tells is above zero. -/
lemma elapsedMs_pos {content : List Char} {run : RunSummary} (h : ofText content = .ok run) :
    0.0 < run.elapsedMs := by
  have hanswer := answer_ofText content
  rw [h] at hanswer
  cases hanswer with
  | totals _ _ _ hms => exact hms

/-- A rate is not a number exactly if the number of operations is not, or both it and the time are
infinite, or it is zero and the makespan vanishes. -/
lemma isNaN_opsPerSecond_iff {run : RunSummary} (h : 0.0 < run.elapsedMs) :
    run.opsPerSecond.isNaN = true ↔ run.executed.isNaN = true ∨
      (run.executed.isInf = true ∧ run.elapsedMs.isInf = true) ∨
      ((run.executed == 0.0) = true ∧ ¬ Double.vanishing < run.elapsedMs) := by
  rw [opsPerSecond, Double.isNaN_div_iff, makespan, Double.isInf_div_thousand h,
    Double.isNaN_div_thousand_iff, Double.not_isNaN_of_pos h, Double.div_thousand_beq_zero_iff h]
  simp only [Bool.false_eq_true, false_or]

/-- **Rates of every text.** A time that a text tells is above zero. The makespan is above zero as
long as the time is above the greatest one whose seconds are rounded to zero; otherwise the makespan
is zero. The rate is not a number exactly if the number of operations is not, or both it and the
time are infinite, or it is zero and the makespan is. Then the mean of the rates of any runs among
which there is this one is not a number, and the mean of a single rate is a number if the rate is.

**Proof sketch.** The guard of the reader looks at the time in milliseconds only. The seconds are
the double nearest to its thousandth, which is zero for the first 500 positive doubles, as half of
the least positive double is rounded to zero. In a sum from the left what is not a number stays. -/
theorem ofText_rate {content : List Char} {run : RunSummary} (h : ofText content = .ok run) :
    0.0 < run.elapsedMs ∧
    (0.0 < run.makespan ↔ Double.vanishing < run.elapsedMs) ∧
    (¬ Double.vanishing < run.elapsedMs → run.makespan = 0.0) ∧
    (run.opsPerSecond.isNaN = true ↔ run.executed.isNaN = true ∨
      (run.executed.isInf = true ∧ run.elapsedMs.isInf = true) ∨
      ((run.executed == 0.0) = true ∧ ¬ Double.vanishing < run.elapsedMs)) ∧
    (∃ mean, (SummaryStats.ofList [run]).opsPerSecond.value? = some mean ∧
      (mean.isNaN = true ↔ run.opsPerSecond.isNaN = true)) ∧
    (run.opsPerSecond.isNaN = true → ∀ runs, run ∈ runs → ∃ mean,
      (SummaryStats.ofList runs).opsPerSecond.value? = some mean ∧ mean.isNaN = true) := by
  have hpos := elapsedMs_pos h
  refine ⟨hpos, ⟨?_, Double.div_thousand_pos hpos⟩, Double.div_thousand_eq_zero hpos,
    isNaN_opsPerSecond_iff hpos, ?_, fun hnan runs hrun => ?_⟩
  · intro hmakespan
    by_contra hlt
    rw [makespan, Double.div_thousand_eq_zero hpos hlt] at hmakespan
    revert hmakespan
    decide
  · rw [SummaryStats.ofList_eq]
    exact Mean.isNaN_singleton_iff _
  · rw [SummaryStats.ofList_eq]
    exact Mean.isNaN_of_mem (List.mem_map_of_mem hrun) hnan

/-- A text whose last line tells a time and a number of operations. -/
def rateText (elapsed executed : List Char) : List Char :=
  "elapsed,count".toList ++ '\n' :: (elapsed ++ ',' :: executed)

/-- What the last line of a text tells is read, if it tells numbers. -/
lemma ofText_rateText {elapsed executed : List Char} {ms count : Float}
    (hfeed : '\n' ∉ elapsed ++ ',' :: executed)
    (htrim : Text.trim (elapsed ++ ',' :: executed) = elapsed ++ ',' :: executed)
    (hcomma : ',' ∉ elapsed ∧ ',' ∉ executed) (helapsed : Decimal.read? (ungroup elapsed) = some ms)
    (hexecuted : Decimal.read? (ungroup executed) = some count) (hms : 0.0 < ms) :
    ofText (rateText elapsed executed) = .ok ⟨ms, count⟩ := by
  have hlines : Text.lines (rateText elapsed executed) =
      [] ++ ["elapsed,count".toList, elapsed ++ ',' :: executed] := by
    unfold rateText
    rw [Text.lines_line_append (by decide), Text.lines_of_not_mem hfeed (by simp),
      Text.dropReturn_of_getLast?_ne (by decide), List.nil_append]
  have hline : IsDataLine ([] ++ ["elapsed,count".toList, elapsed ++ ',' :: executed])
      (elapsed ++ ',' :: executed) := by
    refine isDataLine_append_pair_iff.2 (.inl ⟨?_, rfl⟩)
    rw [htrim]
    simp
  refine Answer.eq_ofText ?_
  rw [hlines]
  refine .totals ⟨by simp, _, hline, ?_⟩ helapsed hexecuted hms
  rw [htrim]
  exact ⟨[], by simp, hcomma.1, hcomma.2, .inl rfl⟩

/-- A number of operations that is not a number makes a rate that is not one, and with it the mean
of a configuration. -/
theorem ofText_rate_nan :
    ∃ run, ofText (rateText "1000".toList "nan".toList) = .ok run ∧ 0.0 < run.makespan ∧
      ∃ mean, (SummaryStats.ofList [run, run]).opsPerSecond.value? = some mean ∧
        mean.isNaN = true := by
  have hread : ofText (rateText "1000".toList "nan".toList) =
      .ok ⟨Float.ofScientific 1000 false 0, Decimal.notANumber⟩ :=
    ofText_rateText (by decide) (by rfl) (by decide) (by rfl) (by rfl) (by decide)
  obtain ⟨-, hmakespan, -, hrate, -, hmean⟩ := ofText_rate hread
  refine ⟨_, hread, hmakespan.2 (by decide), hmean (hrate.2 (.inl (by rfl))) _ (by simp)⟩

/-- Three ways in which the rate of a text that is read is not a number: the number of operations is
not a number; both numbers are infinite; the time is above zero and the makespan is not. -/
theorem ofText_rate_undefined :
    (∃ run, ofText (rateText "1000".toList "nan".toList) = .ok run ∧
      run.opsPerSecond.isNaN = true) ∧
    (∃ run, ofText (rateText "inf".toList "inf".toList) = .ok run ∧
      run.opsPerSecond.isNaN = true) ∧
    (∃ run, ofText (rateText "1e-323".toList "0".toList) = .ok run ∧
      ¬ 0.0 < run.makespan ∧ run.opsPerSecond.isNaN = true) := by
  have hnan : ofText (rateText "1000".toList "nan".toList) =
      .ok ⟨Float.ofScientific 1000 false 0, Decimal.notANumber⟩ :=
    ofText_rateText (by decide) (by rfl) (by decide) (by rfl) (by rfl) (by decide)
  have hinfinite : ofText (rateText "inf".toList "inf".toList) =
      .ok ⟨Decimal.infinity, Decimal.infinity⟩ :=
    ofText_rateText (by decide) (by rfl) (by decide) (by rfl) (by rfl) (by decide)
  have htiny : ofText (rateText "1e-323".toList "0".toList) =
      .ok ⟨Float.ofScientific 1 true 323, 0.0⟩ :=
    ofText_rateText (by decide) (by rfl) (by decide) (by rfl) (by rfl) (by decide +kernel)
  exact ⟨⟨_, hnan, by rfl⟩, ⟨_, hinfinite, by rfl⟩,
    ⟨_, htiny, by decide +kernel, by decide +kernel⟩⟩

end RunSummary

end BenchTally
