import BenchTally.Stats.Quantity

set_option autoImplicit false
set_option relaxedAutoImplicit false

/-!
# Means

The arithmetic mean of values that arrive one by one. The sum is taken from the left, in the order
of arrival, which matters to the last digit of a double.

## Main definitions

* `Mean` — the sum and the number of the values so far.
* `Mean.add` — one more value.
* `Mean.value?` — the mean, once there is a value.
* `Mean.ofList` — the mean of a list of values.

## Main results

* `Mean.count_ofList`, `Mean.sum_ofList` — what a list of values amounts to.
-/

namespace BenchTally

variable {α : Type} [Quantity α]

/-- The running mean of a sequence of values. -/
structure Mean (α : Type) where
  /-- The sum of the values. -/
  sum : α
  /-- The number of the values. -/
  count : Nat

namespace Mean

/-- The mean of no values. -/
def empty : Mean α :=
  ⟨Quantity.ofNat 0, 0⟩

/-- The mean with one more value. -/
def add (m : Mean α) (value : α) : Mean α :=
  ⟨m.sum + value, m.count + 1⟩

/-- The mean, which exists from the first value on. -/
def value? (m : Mean α) : Option α :=
  if 0 < m.count then some (m.sum / Quantity.ofNat m.count) else none

/-- The mean of the values of a list, taken in their order. -/
def ofList (values : List α) : Mean α :=
  values.foldl add empty

/-- Adding values one by one adds them up from the left and counts them. -/
theorem foldl_add (m : Mean α) (values : List α) :
    values.foldl add m = ⟨values.foldl (· + ·) m.sum, m.count + values.length⟩ := by
  induction values generalizing m with
  | nil => rfl
  | cons v vs ih => simp [ih, add, Nat.add_comm, Nat.add_left_comm]

/-- A mean counts its values. -/
@[simp]
theorem count_ofList (values : List α) : (ofList values).count = values.length := by
  simp [ofList, foldl_add, empty]

/-- A mean adds its values up from the left. -/
theorem sum_ofList (values : List α) :
    (ofList values).sum = values.foldl (· + ·) (Quantity.ofNat 0) := by
  simp [ofList, foldl_add, empty]

end Mean

end BenchTally
