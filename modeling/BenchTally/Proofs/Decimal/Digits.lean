import BenchTally.Decimal.Natural
import Mathlib.Data.List.Induction

set_option autoImplicit false
set_option relaxedAutoImplicit false

/-!
# Rows of digits

A row of decimal digits is the decimal form of its value with zeros in front. Two rows with one
value hence differ in leading zeros only.

## Main definitions

* `Decimal.IsDigits` — rows of digits.

## Main results

* `Decimal.ofDigits?_eq_some_iff` — a row of digits is read as its value.
* `Decimal.isDigit_of_mem_writeNat` — decimal forms consist of digits.
* `Decimal.exists_eq_replicate_append` — zeros and a decimal form make up any row of digits.
-/

namespace BenchTally.Decimal

/-- A row of digits is read as the number that is its value. -/
lemma ofDigits?_eq_some_iff {s : List Char} {n : UInt32} :
    ofDigits? s = some n ↔ Nat.ofDigitChars 10 s 0 = n.toNat := by
  simp only [ofDigits?, Option.ite_none_right_eq_some, Option.some.injEq]
  constructor
  · rintro ⟨hlt, rfl⟩
    exact (UInt32.toNat_ofNat_of_lt' hlt).symm
  · intro h
    rw [h]
    exact ⟨n.toNat_lt_size, UInt32.ofNat_toNat⟩

/-- The value of the decimal form of a number is the number. -/
@[simp]
lemma ofDigitChars_writeNat (n : UInt32) : Nat.ofDigitChars 10 (writeNat n) 0 = n.toNat :=
  Nat.ofDigitChars_ten_toDigits

/-- A decimal form consists of digits. -/
lemma isDigit_of_mem_writeNat {n : UInt32} {c : Char} (h : c ∈ writeNat n) : c.isDigit :=
  Nat.isDigit_of_mem_toDigits (by decide) (by decide) h

/-- A decimal form has no other characters. -/
lemma not_mem_writeNat {n : UInt32} {c : Char} (h : c.isDigit = false) : c ∉ writeNat n :=
  fun hc => by simp [isDigit_of_mem_writeNat hc] at h

/-- A digit is the decimal form of its value. -/
lemma toDigits_of_isDigit {c : Char} (h : c.isDigit) :
    c.toNat - '0'.toNat < 10 ∧ Nat.toDigits 10 (c.toNat - '0'.toNat) = [c] := by
  obtain ⟨hlo, hhi⟩ : 48 ≤ c.toNat ∧ c.toNat ≤ 57 := Char.isDigit_iff_toNat.1 h
  have hlt : c.toNat - '0'.toNat < 10 := by
    change c.toNat - 48 < 10
    omega
  refine ⟨hlt, ?_⟩
  rw [Nat.toDigits_of_lt_base hlt, List.cons.injEq]
  refine ⟨Char.toNat_inj.1 ?_, rfl⟩
  rw [Nat.toNat_digitChar_of_lt_ten hlt]
  change 48 + (c.toNat - 48) = c.toNat
  omega

/-- A row of digits: there is a digit, and nothing else. -/
def IsDigits (d : List Char) : Prop :=
  d ≠ [] ∧ ∀ c ∈ d, c.isDigit

/-- A row of digits has no other characters. -/
lemma IsDigits.not_mem {d : List Char} {c : Char} (h : IsDigits d) (hc : c.isDigit = false) :
    c ∉ d :=
  fun hd => by simp [h.2 c hd] at hc

/-- A text that starts with a row of digits starts with a digit. -/
lemma IsDigits.exists_cons {d : List Char} (h : IsDigits d) (s : List Char) :
    ∃ c r, d ++ s = c :: r ∧ c.isDigit := by
  obtain ⟨c, r, rfl⟩ := List.exists_cons_of_ne_nil h.1
  exact ⟨c, r ++ s, rfl, h.2 c List.mem_cons_self⟩

/-- Zeros are digits. -/
lemma isDigit_of_mem_zeros {k : ℕ} {c : Char} (h : c ∈ List.replicate k '0') : c.isDigit := by
  rw [List.eq_of_mem_replicate h]
  decide

/-- The decimal form of any number is a row of digits. -/
lemma isDigits_toDigits (n : ℕ) : IsDigits (Nat.toDigits 10 n) :=
  ⟨Nat.toDigits_ne_nil, fun _ => Nat.isDigit_of_mem_toDigits (by decide) (by decide)⟩

/-- A decimal form is a row of digits. -/
lemma isDigits_writeNat (n : UInt32) : IsDigits (writeNat n) :=
  isDigits_toDigits n.toNat

/-- **Leading zeros.** A row of digits is the decimal form of its value behind some zeros.

**Proof sketch.** Induction on the row from its end. Behind a row with a value above zero a digit
continues the decimal form of that value. Behind a row of zeros it is a decimal form by itself. -/
lemma exists_eq_replicate_append {d : List Char} (h : IsDigits d) :
    ∃ z, d = List.replicate z '0' ++ Nat.toDigits 10 (Nat.ofDigitChars 10 d 0) := by
  obtain ⟨hne, hd⟩ := h
  induction d using List.reverseRecOn with
  | nil => exact absurd rfl hne
  | append_singleton d c ih =>
    obtain ⟨hlt, hc⟩ := toDigits_of_isDigit (hd c (by simp))
    rw [Nat.ofDigitChars_append, Nat.ofDigitChars_cons, Nat.ofDigitChars_nil]
    by_cases hnil : d = []
    · subst hnil
      refine ⟨0, ?_⟩
      rw [Nat.ofDigitChars_nil, Nat.mul_zero, Nat.zero_add, hc]
      rfl
    · obtain ⟨z, hz⟩ := ih hnil fun a ha => hd a (by simp [ha])
      rcases Nat.eq_zero_or_pos (Nat.ofDigitChars 10 d 0) with h0 | hpos
      · rw [h0, Nat.toDigits_zero] at hz
        refine ⟨z + 1, ?_⟩
        rw [h0, Nat.mul_zero, Nat.zero_add, hc, List.replicate_succ', ← hz]
      · refine ⟨z, ?_⟩
        rw [← Nat.toDigits_append_toDigits (by decide) hpos hlt, hc, ← List.append_assoc, ← hz]

end BenchTally.Decimal
