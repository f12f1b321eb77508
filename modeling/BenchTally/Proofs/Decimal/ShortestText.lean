import BenchTally.Proofs.Decimal.Reading
import BenchTally.Proofs.Decimal.Shortest

set_option autoImplicit false
set_option relaxedAutoImplicit false

/-!
# Doubles in tables read back

The text of a double in a table is read as this double, bit by bit: digits, point and exponent make
up the shortest decimal, which rounds to the double, and zeros keep their sign.

## Main definitions

* `Decimal.Denotes` — the number that an unsigned text is read as.

## Main results

* `Decimal.denotes_writePositional`, `Decimal.denotes_writeScientific` — digits keep their value
  without an exponent and with one.
* `Decimal.read?_write_tableCell` — the text of a double is read as the double.
-/

namespace BenchTally.Decimal

open Float.Model Float.Model.UnpackedFloat Double

/-! ## Layouts -/

/-- An unsigned text is read as a decimal of the given value. It starts with a digit, so that a sign
may stand in front of it. -/
structure Denotes (s : List Char) (q : ℚ) : Prop where
  exists_cons : ∃ c r, s = c :: r ∧ c.isDigit
  exists_decimal : ∃ d, readUnsigned? s = some d ∧ value d = q

section Layouts

variable {whole fraction digits : List Char}

/-- Digits around a point denote their value with that many places. -/
lemma denotes_point (hwhole : IsDigits whole) (hfraction : ∀ c ∈ fraction, c.isDigit) :
    Denotes (whole ++ '.' :: fraction)
      (Nat.ofDigitChars 10 (whole ++ fraction) 0 * 10 ^ (-(fraction.length : ℤ))) := by
  have hread := readUnsigned?_point [] hwhole hfraction (by simp)
  rw [List.append_nil, readExponent?, Option.map_some, zero_sub] at hread
  exact ⟨hwhole.exists_cons _, _, hread, rfl⟩

/-- A point in front of the digits: the zeros between them do not count. -/
lemma denotes_zeros_append (hdigits : IsDigits digits) (k : ℕ) :
    Denotes ('0' :: '.' :: List.replicate k '0' ++ digits)
      (Nat.ofDigitChars 10 digits 0 * 10 ^ (-(k : ℤ) - digits.length)) := by
  have hzero : IsDigits ['0'] := ⟨by simp, by simp⟩
  have hpoint := denotes_point hzero
    (List.forall_mem_append.2 ⟨fun _ => isDigit_of_mem_zeros, hdigits.2⟩ :
      ∀ c ∈ List.replicate k '0' ++ digits, c.isDigit)
  have hvalue : Nat.ofDigitChars 10 (['0'] ++ (List.replicate k '0' ++ digits)) 0 =
      Nat.ofDigitChars 10 digits 0 := by
    rw [Nat.ofDigitChars_append, Nat.ofDigitChars_append, Nat.ofDigitChars_cons,
      Nat.ofDigitChars_nil, Nat.ofDigitChars_replicate_zero]
    simp
  have hplaces : -((List.replicate k '0' ++ digits).length : ℤ) = -(k : ℤ) - digits.length := by
    rw [List.length_append, List.length_replicate]
    omega
  rwa [hvalue, hplaces] at hpoint

/-- A point behind the digits: the zeros between them are powers of ten, and the one after the point
does not count. -/
lemma denotes_append_zeros (hdigits : IsDigits digits) (k : ℕ) :
    Denotes (digits ++ List.replicate k '0' ++ ['.', '0'])
      (Nat.ofDigitChars 10 digits 0 * 10 ^ (k : ℤ)) := by
  have hwhole : IsDigits (digits ++ List.replicate k '0') :=
    ⟨by simp [hdigits.1], List.forall_mem_append.2 ⟨hdigits.2, fun _ => isDigit_of_mem_zeros⟩⟩
  have hpoint := denotes_point hwhole (by simp : ∀ c ∈ ['0'], c.isDigit)
  have hdigit : Nat.ofDigitChars 10 (digits ++ List.replicate k '0' ++ ['0']) 0 =
      10 * (10 ^ k * Nat.ofDigitChars 10 digits 0) := by
    rw [Nat.ofDigitChars_append, Nat.ofDigitChars_append, Nat.ofDigitChars_replicate_zero,
      Nat.ofDigitChars_cons, Nat.ofDigitChars_nil]
    rfl
  have hvalue : ((10 * (10 ^ k * Nat.ofDigitChars 10 digits 0) : ℕ) *
      10 ^ (-(['0'].length : ℤ)) : ℚ) = Nat.ofDigitChars 10 digits 0 * 10 ^ (k : ℤ) := by
    rw [List.length_singleton, zpow_neg, zpow_natCast, zpow_natCast, pow_one]
    push_cast
    field_simp
  rwa [hdigit, hvalue] at hpoint

/-- A point within the digits only divides them. -/
lemma denotes_take_drop (hdigits : IsDigits digits) {k : ℕ} (hpos : 0 < k)
    (hlt : k < digits.length) :
    Denotes (digits.take k ++ '.' :: digits.drop k)
      (Nat.ofDigitChars 10 digits 0 * 10 ^ ((k : ℤ) - digits.length)) := by
  have hwhole : IsDigits (digits.take k) := by
    refine ⟨fun hnil => ?_, fun c hc => hdigits.2 c (List.mem_of_mem_take hc)⟩
    have hlength := congrArg List.length hnil
    rw [List.length_take, List.length_nil] at hlength
    omega
  have hfraction : ∀ c ∈ digits.drop k, c.isDigit := fun c hc =>
    hdigits.2 c (List.mem_of_mem_drop hc)
  have hpoint := denotes_point hwhole hfraction
  have hplaces : -((digits.drop k).length : ℤ) = k - digits.length := by
    rw [List.length_drop]
    omega
  rwa [List.take_append_drop, hplaces] at hpoint

/-- **Without an exponent** digits denote their value, wherever the point stands. -/
lemma denotes_writePositional (hdigits : IsDigits digits) (place : ℤ) :
    Denotes (Layout.tableCell.writePositional digits place)
      (Nat.ofDigitChars 10 digits 0 * 10 ^ (place - digits.length)) := by
  unfold Layout.writePositional
  dsimp only
  split_ifs with hfront hbehind
  · have hdenotes := denotes_zeros_append hdigits (-place).toNat
    rwa [Int.toNat_of_nonneg (by omega), neg_neg] at hdenotes
  · have hdenotes := denotes_append_zeros hdigits (place.toNat - digits.length)
    rwa [Int.ofNat_sub hbehind, Int.toNat_of_nonneg (by omega)] at hdenotes
  · have hdenotes := denotes_take_drop hdigits (k := place.toNat) (by omega) (by omega)
    rwa [Int.toNat_of_nonneg (by omega)] at hdenotes

/-- **With an exponent** digits denote their value, too: the exponent counts from the point behind
the first digit. -/
lemma denotes_writeScientific (hdigits : IsDigits digits) (place : ℤ) :
    Denotes (writeScientific digits place)
      (Nat.ofDigitChars 10 digits 0 * 10 ^ (place - digits.length)) := by
  obtain ⟨c, rest, rfl⟩ := List.exists_cons_of_ne_nil hdigits.1
  have hfirst : IsDigits [c] := ⟨by simp, by simpa using hdigits.2 c List.mem_cons_self⟩
  have hexponent : ∀ a, ('e' :: (toString (place - 1)).toList).head? = some a →
      a.isDigit = false ∧ a ≠ '.' := by
    rintro a ha
    obtain rfl := Option.some.inj ha
    decide
  refine ⟨⟨c, _, rfl, hdigits.2 c List.mem_cons_self⟩, ?_⟩
  cases rest with
  | nil =>
    have hread := readUnsigned?_whole _ hfirst hexponent
    rw [readExponent?_toString, Option.map_some] at hread
    exact ⟨_, hread, rfl⟩
  | cons b rest =>
    have hrest : ∀ a ∈ b :: rest, a.isDigit := fun a ha =>
      hdigits.2 a (List.mem_cons_of_mem c ha)
    have hread := readUnsigned?_point _ hfirst hrest fun a ha => (hexponent a ha).1
    have hplaces : place - 1 - ((b :: rest).length : ℤ) = place - (c :: b :: rest).length := by
      rw [List.length_cons (a := c), Nat.cast_add, Nat.cast_one]
      omega
    rw [readExponent?_toString, Option.map_some, hplaces] at hread
    exact ⟨_, hread, rfl⟩

/-- **A decimal in a table** denotes its value, in either layout. -/
lemma denotes_writeDecimal (d : Decimal) : Denotes (Layout.tableCell.writeDecimal d) (value d) := by
  have hdigits := isDigits_toDigits d.digits
  have hplace : ((Nat.toDigits 10 d.digits).length + d.exponent : ℤ) -
      (Nat.toDigits 10 d.digits).length = d.exponent := add_sub_cancel_left _ _
  unfold Layout.writeDecimal
  dsimp only
  split_ifs
  · have hdenotes := denotes_writePositional hdigits
      ((Nat.toDigits 10 d.digits).length + d.exponent)
    rwa [hplace, Nat.ofDigitChars_ten_toDigits] at hdenotes
  · have hdenotes := denotes_writeScientific hdigits
      ((Nat.toDigits 10 d.digits).length + d.exponent)
    rwa [hplace, Nat.ofDigitChars_ten_toDigits] at hdenotes

end Layouts

/-! ## The double -/

/-- A double is made of the parts that it has. -/
lemma eq_of_unpack {x : Float} {u : UnpackedFloat} (h : x.toModel.unpack = u) :
    x = .ofModel (Float.Model.pack u) := by
  rw [← h, pack_unpack]

/-- A text that denotes a number which rounds to a double is read as the double, with its sign. -/
lemma Denotes.read?_signText {s : List Char} {q : ℚ} {m : ℕ} {e : ℤ} (h : Denotes s q)
    (hq : 0 < q) (hnearest : Nearest q m e) (sign : Sign) :
    read? (signText (Binary.isNegative sign) ++ s) =
      some (.ofModel (Float.Model.pack (ofParts sign m e))) := by
  obtain ⟨d, hread, rfl⟩ := h.exists_decimal
  have hround := isRounding_toFloat d
  rw [Decimal.read?_signText _ h.exists_cons hread]
  cases sign with
  | positive =>
    rw [Binary.isNegative, if_neg Bool.false_ne_true]
    exact congrArg some (hround.eq_of_nearest (s := .positive) hq hnearest)
  | negative =>
    rw [Binary.isNegative, if_pos rfl]
    exact congrArg some ((isRounding_neg hround).eq_of_nearest (s := .negative) hq hnearest)

/-- **The text of a double in a table** is read as the double.

**Proof sketch.** What is not a number, infinite doubles and zeros have a text each. Any other
double has its shortest decimal as text, in one of the two layouts, and this rounds to the
double. -/
theorem read?_write_tableCell (x : Float) : read? (Layout.tableCell.write x).toList = some x := by
  unfold Layout.write
  rw [Binary.ofFloat_eq]
  rcases hparts : x.toModel.unpack with (_ | _) | _ | (_ | _) | ⟨sign, m, e, hm⟩
  case finite =>
    obtain ⟨hcanonical, -⟩ := canonical_of_unpack hparts
    have hnearest := nearest_shortest Layout.tableCell.tie hcanonical hm
    have hpos : 0 < value (shortest Layout.tableCell.tie m e) :=
      lt_trans (by positivity) (not_le.1 (mt hnearest.eq_zero_iff.2 hm.ne'))
    have hread := (denotes_writeDecimal _).read?_signText hpos hnearest sign
    rw [ofParts_of_pos sign e hm, ← eq_of_unpack hparts] at hread
    obtain ⟨n, rfl⟩ : ∃ n, m = n + 1 := ⟨m - 1, by omega⟩
    show read? (String.ofList (signText (Binary.isNegative sign) ++
      Layout.tableCell.writeDecimal (shortest Layout.tableCell.tie (n + 1) e))).toList = some x
    rw [String.toList_ofList]
    exact hread
  all_goals
    rw [eq_of_unpack hparts]
    rfl

end BenchTally.Decimal
