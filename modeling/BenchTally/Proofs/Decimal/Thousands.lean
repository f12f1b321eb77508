import BenchTally.Proofs.Decimal.Places

set_option autoImplicit false
set_option relaxedAutoImplicit false

/-!
# Whole numbers in groups of digits

A whole number is written in groups of three digits, counted from the right, with a dot between two
groups. Without the dots this is the decimal form, and what that is read as is the number.

## Main definitions

* `Decimal.lastDigits` — the last digits of a number, as many as are asked for.
* `Decimal.writeGrouped` — the decimal form in groups of three.

## Main results

* `Decimal.toDigits_eq_append_lastDigits` — the decimal form is that of a quotient by a power of
  ten, and the last digits behind it.
* `Decimal.filter_writeGrouped` — the groups without the dots are the decimal form.
* `Decimal.read?_of_isDigits` — a row of digits is read as the double of its value.
-/

namespace BenchTally.Decimal

/-! ## Groups of three -/

/-- The last `k` digits of a number; zeros stand for those that it does not have. -/
def lastDigits : ℕ → ℕ → List Char
  | 0, _ => []
  | k + 1, n => lastDigits k (n / 10) ++ [Nat.digitChar (n % 10)]

/-- **The last digits** of a number that has more of them stand behind the decimal form of the
quotient. -/
lemma toDigits_eq_append_lastDigits {k n : ℕ} (h : 10 ^ k ≤ n) :
    Nat.toDigits 10 n = Nat.toDigits 10 (n / 10 ^ k) ++ lastDigits k n := by
  induction k generalizing n with
  | zero => simp [lastDigits]
  | succ k ih =>
    have hquotient : 10 ^ k ≤ n / 10 := by
      rw [Nat.le_div_iff_mul_le (by decide), ← pow_succ]
      exact h
    have hten : 10 ≤ n := by
      have hone : 1 ≤ 10 ^ k := Nat.one_le_pow _ _ (by decide)
      rw [pow_succ] at h
      omega
    rw [lastDigits, Nat.toDigits_of_base_le (by decide) hten, ih hquotient, Nat.div_div_eq_div_mul,
      pow_succ', List.append_assoc]

/-- The last digits are digits. -/
lemma isDigit_of_mem_lastDigits {k n : ℕ} {c : Char} (h : c ∈ lastDigits k n) : c.isDigit := by
  induction k generalizing n with
  | zero => cases h
  | succ k ih =>
    rcases List.mem_append.1 h with h | h
    · exact ih h
    · obtain rfl := List.mem_singleton.1 h
      rw [Nat.isDigit_digitChar, decide_eq_true_iff]
      exact Nat.mod_lt n (by decide)

/-- The decimal form of a number with a dot before every third digit from the right that has a
digit in front of it. -/
def writeGrouped (n : ℕ) : List Char :=
  if n < 1000 then Nat.toDigits 10 n
  else writeGrouped (n / 1000) ++ '.' :: lastDigits 3 n

/-- Digits stay when the dots are taken out. -/
lemma filter_of_isDigit {s : List Char} (hs : ∀ c ∈ s, c.isDigit) : s.filter (· ≠ '.') = s := by
  rw [List.filter_eq_self]
  rintro c hc
  rw [decide_eq_true_iff]
  rintro rfl
  exact absurd (hs _ hc) (by decide)

/-- **The groups** of a number are its decimal form when the dots are taken out.

**Proof sketch.** Induction along the groups, from the number to its thousandth. The last group is
what the decimal form of the number has behind that of the thousandth. -/
lemma filter_writeGrouped (n : ℕ) : (writeGrouped n).filter (· ≠ '.') = Nat.toDigits 10 n := by
  fun_induction writeGrouped n with
  | case1 n hsmall =>
    exact filter_of_isDigit (isDigits_toDigits n).2
  | case2 n hlarge ih =>
    have hdot : ('.' :: lastDigits 3 n).filter (· ≠ '.') = lastDigits 3 n := by
      rw [List.filter_cons_of_neg (by decide)]
      exact filter_of_isDigit fun c => isDigit_of_mem_lastDigits
    have hthousand : 10 ^ 3 ≤ n := not_lt.1 hlarge
    rw [List.filter_append, ih, hdot]
    exact (toDigits_eq_append_lastDigits hthousand).symm

/-- A million and odd has three groups, of which the last but one starts with a zero. -/
example : writeGrouped 1034567 = "1.034.567".toList := by cbv

/-! ## Reading digits -/

/-- **A row of digits** is read as the double of its value. -/
lemma read?_of_isDigits {d : List Char} (h : IsDigits d) :
    read? d = some (toFloat ⟨Nat.ofDigitChars 10 d 0, 0⟩) := by
  have hread := readUnsigned?_whole [] h (by simp)
  have hfirst := h.exists_cons []
  rw [List.append_nil] at hread hfirst
  exact read?_signText false hfirst hread

/-- A whole number that is not above all doubles is read as its double. -/
lemma toFloat_whole {n : ℕ} (hn : n.log2 < 1024) : toFloat ⟨n, 0⟩ = Float.ofNat n := by
  rcases n.eq_zero_or_pos with rfl | hpos
  · rfl
  · have hlarge : leastPlace ⟨n, 0⟩ < overflowPlace := by
      show (n.log2 + 3 * 0 : ℤ) < 1024
      omega
    have hsmall : underflowPlace < placeAbove ⟨n, 0⟩ := by
      show (-1075 : ℤ) < n.log2 + 1 + 4 * 0
      omega
    exact toFloat_of_bounds hpos.ne' hlarge hsmall

/-- **The decimal form** of a whole number that is not above all doubles is read as its double. -/
lemma read?_toDigits {n : ℕ} (hn : n.log2 < 1024) :
    read? (Nat.toDigits 10 n) = some (Float.ofNat n) := by
  rw [read?_of_isDigits (isDigits_toDigits n), Nat.ofDigitChars_ten_toDigits, toFloat_whole hn]

end BenchTally.Decimal
