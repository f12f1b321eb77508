import BenchTally.Decimal.Layout
import BenchTally.Decimal.Reader
import BenchTally.Proofs.Decimal.Digits
import Mathlib.Data.Int.Notation

set_option autoImplicit false
set_option relaxedAutoImplicit false

/-!
# Reading the parts of a number

What the reader makes of a sign, of digits around a point and of an exponent.

## Main results

* `Decimal.readUnsigned?_whole`, `Decimal.readUnsigned?_point` — digits are read as their value,
  with the digits behind a point as places and what follows as an exponent.
* `Decimal.readExponent?_toString` — every written exponent is read as it.
* `Decimal.read?_signText` — a sign and a text that starts with a digit.
-/

namespace BenchTally.Decimal

/-! ## Digits -/

/-- A row of digits goes as far as its digits. -/
lemma takeWhile_isDigit_append {d r : List Char} (hd : ∀ c ∈ d, c.isDigit)
    (hr : ∀ c, r.head? = some c → c.isDigit = false) :
    (d ++ r).takeWhile Char.isDigit = d ∧ (d ++ r).dropWhile Char.isDigit = r := by
  rw [List.takeWhile_append_of_pos hd, List.dropWhile_append_of_pos hd]
  cases r with
  | nil => simp
  | cons c r => simp [hr c rfl]

section Digits

variable {whole fraction rest : List Char}

/-- Digits without a point are read as their value, to the power that an exponent tells. -/
lemma readUnsigned?_whole (rest : List Char) (hwhole : IsDigits whole)
    (hrest : ∀ c, rest.head? = some c → c.isDigit = false ∧ c ≠ '.') :
    readUnsigned? (whole ++ rest) =
      (readExponent? rest).map fun e => ⟨Nat.ofDigitChars 10 whole 0, e⟩ := by
  obtain ⟨htake, hdrop⟩ := takeWhile_isDigit_append hwhole.2 fun c hc => (hrest c hc).1
  have hempty : whole.isEmpty = false := List.isEmpty_eq_false_iff.2 hwhole.1
  have hsplit : splitFraction rest = ([], rest) := by
    unfold splitFraction
    split
    · exact absurd rfl (hrest '.' rfl).2
    · rfl
  simp [readUnsigned?, htake, hdrop, hsplit, hempty]

/-- **Digits around a point** are read as their value with that many places, to the power that an
exponent tells. -/
lemma readUnsigned?_point (rest : List Char) (hwhole : IsDigits whole)
    (hfraction : ∀ c ∈ fraction, c.isDigit) (hrest : ∀ c, rest.head? = some c → c.isDigit = false) :
    readUnsigned? (whole ++ '.' :: (fraction ++ rest)) =
      (readExponent? rest).map fun e =>
        ⟨Nat.ofDigitChars 10 (whole ++ fraction) 0, e - (fraction.length : ℤ)⟩ := by
  obtain ⟨htake, hdrop⟩ := takeWhile_isDigit_append hwhole.2
    (by simp : ∀ c, ('.' :: (fraction ++ rest)).head? = some c → c.isDigit = false)
  obtain ⟨htake', hdrop'⟩ := takeWhile_isDigit_append hfraction hrest
  have hempty : whole.isEmpty = false := List.isEmpty_eq_false_iff.2 hwhole.1
  simp only [readUnsigned?, htake, hdrop, splitFraction, htake', hdrop', hempty, Bool.false_and]
  simp

end Digits

/-! ## Signs -/

/-- A sign in front of a digit is taken off. -/
lemma splitSign_signText (negative : Bool) {c : Char} (hc : c.isDigit) (r : List Char) :
    splitSign (signText negative ++ c :: r) = (negative, c :: r) := by
  cases negative with
  | true => rfl
  | false =>
    show splitSign (c :: r) = (false, c :: r)
    unfold splitSign
    split
    · rename_i heq
      obtain ⟨rfl, -⟩ := List.cons.inj heq
      exact absurd hc (by decide)
    · rename_i heq
      obtain ⟨rfl, -⟩ := List.cons.inj heq
      exact absurd hc (by decide)
    · rfl

/-- **An exponent** that is written after the letter is read as it. -/
lemma readExponent?_toString (z : ℤ) : readExponent? ('e' :: (toString z).toList) = some z := by
  have hread : ∀ (negative : Bool) (n : ℕ),
      readExponent? ('e' :: (signText negative ++ Nat.toDigits 10 n)) =
        some (if negative then -(n : ℤ) else n) := by
    intro negative n
    obtain ⟨hne, hdigits⟩ := isDigits_toDigits n
    have hvalue : Nat.ofDigitChars 10 (Nat.toDigits 10 n) 0 = n := Nat.ofDigitChars_ten_toDigits
    obtain ⟨c, r, heq⟩ := List.exists_cons_of_ne_nil hne
    rw [heq] at hdigits hvalue ⊢
    have hall : (c :: r).all Char.isDigit = true := List.all_eq_true.2 hdigits
    have hsign := splitSign_signText negative (hdigits c List.mem_cons_self) r
    simp only [readExponent?, true_or, if_true, hsign, hall, hvalue]
    rfl
  cases z with
  | ofNat n =>
    have htext : (toString (Int.ofNat n)).toList = signText false ++ Nat.toDigits 10 n :=
      Nat.toList_repr
    rw [htext, hread]
    rfl
  | negSucc n =>
    have htext : (toString (Int.negSucc n)).toList = signText true ++ Nat.toDigits 10 (n + 1) := by
      show ("-" ++ (n + 1).repr).toList = _
      rw [String.toList_append, Nat.toList_repr]
      rfl
    rw [htext, hread]
    rfl

/-! ## The whole text -/

/-- A text that starts with a digit is none of the words. -/
lemma readMagnitude?_of_isDigit {c : Char} (hc : c.isDigit) (r : List Char) :
    readMagnitude? (c :: r) = (readUnsigned? (c :: r)).map toFloat := by
  have hbounds : 48 ≤ c.toNat ∧ c.toNat ≤ 57 := Char.isDigit_iff_toNat.1 hc
  have hlower : c.toLower = c := by
    unfold Char.toLower
    apply dif_neg
    rintro ⟨hlo, -⟩
    have hlo' : 65 ≤ c.toNat := hlo
    omega
  have hword : ∀ {w : Char} {ws : List Char}, w.isDigit = false →
      (c :: r).map Char.toLower ≠ w :: ws := by
    intro w ws hw heq
    rw [List.map_cons, hlower] at heq
    rw [(List.cons.inj heq).1, hw] at hc
    cases hc
  have hinf : (c :: r).map Char.toLower ≠ "inf".toList := hword (by decide)
  have hinfinity : (c :: r).map Char.toLower ≠ "infinity".toList := hword (by decide)
  have hnan : (c :: r).map Char.toLower ≠ "nan".toList := hword (by decide)
  unfold readMagnitude?
  rw [if_neg (not_or.2 ⟨hinf, hinfinity⟩), if_neg hnan]

/-- **A sign and a text that starts with a digit** are read as the double of the text, negated if
the sign is the minus sign. -/
lemma read?_signText (negative : Bool) {s : List Char} {d : Decimal}
    (hs : ∃ c r, s = c :: r ∧ c.isDigit) (hd : readUnsigned? s = some d) :
    read? (signText negative ++ s) = some (if negative then -toFloat d else toFloat d) := by
  obtain ⟨c, r, rfl, hc⟩ := hs
  rw [read?, splitSign_signText negative hc]
  dsimp only
  rw [readMagnitude?_of_isDigit hc, hd]
  rfl

end BenchTally.Decimal
