import BenchTally.Proofs.Double.Value
import BenchTally.Proofs.Stats.Exact

set_option autoImplicit false
set_option relaxedAutoImplicit false

/-!
# The least and the greatest of a list

The least of a list of quantities is kept up to date one by one, and values that are not numbers
give way to numbers. Which value comes first makes no difference to what is kept, except between
values that are equal.

## Main definitions

* `Quantity.Comparison` — a strict comparison that only numbers take part in.
* `Quantity.pick` — the better one of two quantities.
* `Quantity.IsBest` — a best one of a list.

## Main results

* `Quantity.isBest_foldl_pick` — what is kept at the end is a best one of all.
* `Quantity.comparison_less_float`, `Quantity.comparison_less_rat` — the comparisons of doubles and
  of rational numbers.
-/

namespace BenchTally.Quantity

variable {α : Type} [Quantity α]

/-- A strict comparison that only numbers take part in. Between two numbers of which one is better
there is no number that is neither worse than the one nor better than the other. -/
structure Comparison (better : α → α → Bool) : Prop where
  numbers : ∀ {a b}, better a b = true → isNumber a = true ∧ isNumber b = true
  asymm : ∀ {a b}, better a b = true → ¬ better b a = true
  split : ∀ {a c} (b), isNumber b = true → better a c = true →
    better a b = true ∨ better b c = true

variable {better : α → α → Bool}

lemma Comparison.irrefl (h : Comparison better) (a : α) : ¬ better a a = true :=
  fun haa => h.asymm haa haa

/-- The comparison the other way around. -/
lemma Comparison.swap (h : Comparison better) : Comparison fun a b => better b a where
  numbers hab := (h.numbers hab).symm
  asymm hab := h.asymm hab
  split b hb hac := (h.split b hb hac).symm

/-- The better one of two quantities, where a value that is not a number gives way to the other. Of
two equal ones it is the second. -/
def pick (better : α → α → Bool) (a b : α) : α :=
  if isNumber b then (if better a b then a else b) else a

lemma lesser_eq_pick : lesser = pick (α := α) less :=
  rfl

lemma greater_eq_pick : greater = pick (α := α) fun a b => less b a :=
  rfl

/-- A best one of a list: one of it that is a number if any is, and than which no other is
better. -/
structure IsBest (better : α → α → Bool) (x : α) (values : List α) : Prop where
  mem : x ∈ values
  number : ∀ y ∈ values, isNumber y = true → isNumber x = true
  not_better : ∀ y ∈ values, ¬ better y x = true

lemma isBest_singleton (h : Comparison better) (x : α) : IsBest better x [x] where
  mem := List.mem_singleton_self x
  number := List.forall_mem_singleton.2 id
  not_better := List.forall_mem_singleton.2 (h.irrefl x)

/-- **One more value.** The better one of a best one and another value is a best one of all. -/
lemma IsBest.pick (h : Comparison better) {x y : α} {values : List α}
    (hx : IsBest better x values) : IsBest better (pick better x y) (values ++ [y]) := by
  unfold Quantity.pick
  split_ifs with hy hxy
  -- The value is a number and what is kept is better.
  · refine ⟨by simp [hx.mem], fun _ _ _ => (h.numbers hxy).1, ?_⟩
    exact List.forall_mem_append.2 ⟨hx.not_better, List.forall_mem_singleton.2 (h.asymm hxy)⟩
  -- The value is a number that replaces what is kept.
  · refine ⟨by simp, fun _ _ _ => hy, ?_⟩
    refine List.forall_mem_append.2 ⟨fun z hz hzy => ?_, List.forall_mem_singleton.2 (h.irrefl y)⟩
    have hnumber := hx.number z hz (h.numbers hzy).1
    exact (h.split x hnumber hzy).elim (hx.not_better z hz) hxy
  -- The value is not a number.
  · refine ⟨by simp [hx.mem], ?_, ?_⟩
    · exact List.forall_mem_append.2 ⟨hx.number, List.forall_mem_singleton.2 fun h => absurd h hy⟩
    · exact List.forall_mem_append.2
        ⟨hx.not_better, List.forall_mem_singleton.2 fun hyx => hy (h.numbers hyx).1⟩

/-- **What is kept at the end** is a best one of all values. -/
lemma isBest_foldl_pick (h : Comparison better) (first : α) (rest : List α) :
    IsBest better (rest.foldl (Quantity.pick better) first) (first :: rest) := by
  suffices hfold : ∀ (rest values : List α) (x : α), IsBest better x values →
      IsBest better (rest.foldl (Quantity.pick better) x) (values ++ rest) from
    hfold rest [first] first (isBest_singleton h first)
  intro rest
  induction rest with
  | nil => exact fun values x hx => by rwa [List.append_nil]
  | cons y rest ih =>
    intro values x hx
    rw [List.append_cons]
    exact ih _ _ (hx.pick h)

/-! ## Doubles -/

/-- Only numbers are equal to themselves. -/
lemma isNumber_float_iff {a : Float} : isNumber a = true ↔ ∃ x, Double.value? a = some x := by
  change (a == a) = true ↔ _
  rw [Double.beq_iff]
  simp only [and_self]

lemma less_float_iff {a b : Float} :
    less a b = true ↔ ∃ x y, Double.value? a = some x ∧ Double.value? b = some y ∧ x < y := by
  change decide (a < b) = true ↔ _
  rw [decide_eq_true_iff, Double.lt_iff]

lemma comparison_less_float : Comparison (less : Float → Float → Bool) where
  numbers hab := by
    obtain ⟨x, y, hx, hy, -⟩ := less_float_iff.1 hab
    exact ⟨isNumber_float_iff.2 ⟨x, hx⟩, isNumber_float_iff.2 ⟨y, hy⟩⟩
  asymm hab hba := by
    obtain ⟨x, y, hx, hy, hxy⟩ := less_float_iff.1 hab
    obtain ⟨y', x', hy', hx', hyx⟩ := less_float_iff.1 hba
    obtain rfl := Option.some.inj (hx.symm.trans hx')
    obtain rfl := Option.some.inj (hy.symm.trans hy')
    exact hxy.not_gt hyx
  split b hb hac := by
    obtain ⟨y, hy⟩ := isNumber_float_iff.1 hb
    obtain ⟨x, z, hx, hz, hxz⟩ := less_float_iff.1 hac
    simp only [less_float_iff]
    rcases lt_or_ge x y with hxy | hyx
    · exact .inl ⟨x, y, hx, hy, hxy⟩
    · exact .inr ⟨y, z, hy, hz, hyx.trans_lt hxz⟩

lemma isNumber_float_eq (a : Float) : isNumber a = !a.isNaN := by
  rw [Bool.eq_iff_iff, isNumber_float_iff, Bool.not_eq_true', ← Bool.not_eq_true,
    Double.isNaN_iff, ← Ne, Option.ne_none_iff_exists']

/-- Of two numbers the first is at most the second unless the second is less. -/
lemma le_of_not_less_float {a b : Float} (ha : isNumber a = true) (hb : isNumber b = true)
    (h : ¬ less b a = true) : a ≤ b := by
  obtain ⟨x, hx⟩ := isNumber_float_iff.1 ha
  obtain ⟨y, hy⟩ := isNumber_float_iff.1 hb
  exact Double.le_iff.2 ⟨x, y, hx, hy, not_lt.1 fun hyx => h (less_float_iff.2 ⟨y, x, hy, hx, hyx⟩)⟩

/-- A best one of a list is not a number only if none is. -/
lemma IsBest.isNaN_iff {better : Float → Float → Bool} {x : Float} {values : List Float}
    (h : IsBest better x values) : x.isNaN = true ↔ ∀ y ∈ values, y.isNaN = true := by
  constructor
  · intro hx y hy
    have hnumber := h.number y hy
    simp only [isNumber_float_eq, hx, Bool.not_true, Bool.not_eq_true', Bool.false_eq_true,
      imp_false, Bool.not_eq_false] at hnumber
    exact hnumber
  · exact fun hvalues => hvalues x h.mem

/-! ## Rational numbers -/

lemma comparison_less_rat : Comparison (less : ℚ → ℚ → Bool) where
  numbers _ := ⟨rfl, rfl⟩
  asymm hab hba := ((less_rat_iff _ _).1 hab).not_gt ((less_rat_iff _ _).1 hba)
  split b _ hac := by
    simp only [less_rat_iff] at hac ⊢
    exact (lt_or_ge _ b).imp_right fun h => h.trans_lt hac

/-- Of two rational numbers the lesser is their minimum. -/
lemma lesser_rat (a b : ℚ) : lesser a b = min a b := by
  change (if true then (if less a b then a else b) else a) = min a b
  simp only [if_true, less_rat_iff]
  split_ifs with h
  · exact (min_eq_left h.le).symm
  · exact (min_eq_right (not_lt.1 h)).symm

/-- Of two rational numbers the greater is their maximum. -/
lemma greater_rat (a b : ℚ) : greater a b = max a b := by
  change (if true then (if less b a then a else b) else a) = max a b
  simp only [if_true, less_rat_iff]
  split_ifs with h
  · exact (max_eq_left h.le).symm
  · exact (max_eq_right (not_lt.1 h)).symm

end BenchTally.Quantity
