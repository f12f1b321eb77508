set_option autoImplicit false
set_option relaxedAutoImplicit false

/-!
# Whole numbers of 32 bits in decimal

## Main definitions

* `Decimal.ofDigits?` — the number of a row of digits, leading zeros allowed.
* `Decimal.ofCanonical?` — the number whose decimal form the text is, so that no two texts name
  one number.
* `Decimal.writeNat` — the decimal form.

## Main results

* `Decimal.ofCanonical?_eq_some_iff` — exactly the decimal form of a number is read as it.
-/

namespace BenchTally.Decimal

/-- The decimal form of a number. -/
def writeNat (n : UInt32) : List Char :=
  Nat.toDigits 10 n.toNat

/-- The number below 2 ^ 32 that a row of digits denotes; `none` if it denotes a larger one. The
caller has checked that there are digits and nothing else. -/
def ofDigits? (s : List Char) : Option UInt32 :=
  let n := Nat.ofDigitChars 10 s 0
  if n < UInt32.size then some (UInt32.ofNat n) else none

/-- The number whose decimal form the text is: no sign, no leading zero, no other character. -/
def ofCanonical? (s : List Char) : Option UInt32 :=
  (ofDigits? s).filter fun n => writeNat n = s

/-- A text is read as a number exactly if it is the number's decimal form. -/
theorem ofCanonical?_eq_some_iff {s : List Char} {n : UInt32} :
    ofCanonical? s = some n ↔ s = writeNat n := by
  constructor
  · intro h
    simp only [ofCanonical?, Option.filter_eq_some_iff, decide_eq_true_eq] at h
    exact h.2.symm
  · rintro rfl
    have hn : Nat.ofDigitChars 10 (writeNat n) 0 = n.toNat := Nat.ofDigitChars_ten_toDigits
    have hd : ofDigits? (writeNat n) = some n := by
      simp [ofDigits?, hn, n.toNat_lt_size]
    simp [ofCanonical?, hd]

/-- Different numbers have different decimal forms. -/
theorem writeNat_inj {a b : UInt32} : writeNat a = writeNat b ↔ a = b := by
  constructor
  · intro h
    have ha := ofCanonical?_eq_some_iff.2 (rfl : writeNat a = writeNat a)
    have hb := ofCanonical?_eq_some_iff.2 (rfl : writeNat b = writeNat b)
    rw [h, hb] at ha
    exact (Option.some.inj ha).symm
  · rintro rfl
    rfl

end BenchTally.Decimal
