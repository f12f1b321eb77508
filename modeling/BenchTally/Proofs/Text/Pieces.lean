import BenchTally.Text.Utf8
import Mathlib.Data.List.Basic

set_option autoImplicit false
set_option relaxedAutoImplicit false

/-!
# What a lenient reading keeps

A lenient reading loses nothing, and ASCII bytes cut it: what stands before such a byte is read as
if nothing followed, and what stands behind it as if nothing went before.

## Main definitions

* `Text.Piece.bytes` — the bytes that a piece was read from.

## Main results

* `Text.flatMap_bytes_pieces` — the bytes of the pieces in a row are what was read.
* `Text.pieces_append_ascii` — a reading is cut by an ASCII byte.
-/

namespace BenchTally.Text

/-- The bytes that a piece was read from. -/
def Piece.bytes : Piece → Bytes
  | .char c => String.utf8EncodeChar c
  | .junk bs => bs

/-- What a leading byte asks for: how many bytes follow, and what the first of them is kept from. -/
lemma leading_eq_some {a : UInt8} {more : Nat} {lo hi : UInt8}
    (h : leading a = some (more, lo, hi)) :
    0x80 ≤ lo.toNat ∧ hi.toNat ≤ 0xbf ∧
      ((more = 1 ∧ 0xc2 ≤ a.toNat ∧ a.toNat ≤ 0xdf) ∨
        (more = 2 ∧ 0xe0 ≤ a.toNat ∧ a.toNat ≤ 0xef ∧ (a.toNat ≠ 0xe0 ∨ 0xa0 ≤ lo.toNat) ∧
          (a.toNat ≠ 0xed ∨ hi.toNat ≤ 0x9f)) ∨
        (more = 3 ∧ 0xf0 ≤ a.toNat ∧ a.toNat ≤ 0xf4 ∧ (a.toNat ≠ 0xf0 ∨ 0x90 ≤ lo.toNat) ∧
          (a.toNat ≠ 0xf4 ∨ hi.toNat ≤ 0x8f))) := by
  unfold leading at h
  simp only [UInt8.le_iff_toNat_le, ← UInt8.toNat_inj, UInt8.reduceToNat] at h
  split_ifs at h <;> simp only [Option.some.injEq, Prod.mk.injEq] at h <;>
    obtain ⟨rfl, rfl, rfl⟩ := h <;> simp <;> omega

/-- The bounds on a byte, as bounds on its number. -/
lemma bounds_of_not_out {b lo hi : UInt8} (h : ¬ (b < lo ∨ hi < b)) :
    lo.toNat ≤ b.toNat ∧ b.toNat ≤ hi.toNat := by
  simp only [UInt8.lt_iff_toNat_lt, not_or, Nat.not_lt] at h
  exact h

/-- The bytes that continue a character, by their numbers. -/
lemma continues_iff {b : UInt8} : continues b = true ↔ 0x80 ≤ b.toNat ∧ b.toNat ≤ 0xbf := by
  simp [continues, UInt8.le_iff_toNat_le]

lemma toNat_ofNat_of_isValidChar {n : Nat} (h : n.isValidChar) : (Char.ofNat n).toNat = n := by
  rw [Char.ofNat, dif_pos h]
  rfl

/-- An ASCII character is a single byte. -/
lemma utf8EncodeChar_of_ascii {c : Char} (hc : c.toNat < 0x80) :
    String.utf8EncodeChar c = [UInt8.ofNat c.toNat] := by
  unfold String.utf8EncodeChar
  rw [if_pos (by rw [Char.toNat_val]; omega), Char.toNat_val]

/-- The bytes of the character that a byte below `80` stands for. -/
lemma utf8EncodeChar_one {a : UInt8} (ha : a.toNat < 0x80) :
    String.utf8EncodeChar (Char.ofNat a.toNat) = [a] := by
  have hnum : (Char.ofNat a.toNat).toNat = a.toNat :=
    toNat_ofNat_of_isValidChar (.inl (by omega))
  rw [utf8EncodeChar_of_ascii (by omega), hnum, UInt8.ofNat_toNat]

/-- The bytes of a character made of two bytes. -/
lemma utf8EncodeChar_two {a b : UInt8} (ha : 0xc2 ≤ a.toNat ∧ a.toNat ≤ 0xdf)
    (hb : 0x80 ≤ b.toNat ∧ b.toNat ≤ 0xbf) :
    String.utf8EncodeChar (Char.ofNat (a.toNat % 32 * 64 + payload b)) = [a, b] := by
  have hnum := toNat_ofNat_of_isValidChar (n := a.toNat % 32 * 64 + payload b)
    (.inl (by unfold payload; omega))
  unfold payload at hnum
  unfold String.utf8EncodeChar
  simp only [Char.toNat_val, payload, hnum]
  rw [if_neg (by omega), if_pos (by omega)]
  simp only [List.cons.injEq, ← UInt8.toNat_inj, UInt8.toNat_ofNat', and_true]
  omega

/-- The bytes of a character made of three bytes; the bounds keep out what fits in two, and
surrogates. -/
lemma utf8EncodeChar_three {a b c : UInt8} (ha : 0xe0 ≤ a.toNat ∧ a.toNat ≤ 0xef)
    (hb : 0x80 ≤ b.toNat ∧ b.toNat ≤ 0xbf) (hc : 0x80 ≤ c.toNat ∧ c.toNat ≤ 0xbf)
    (hlow : a.toNat ≠ 0xe0 ∨ 0xa0 ≤ b.toNat) (hhigh : a.toNat ≠ 0xed ∨ b.toNat ≤ 0x9f) :
    String.utf8EncodeChar (Char.ofNat ((a.toNat % 16 * 64 + payload b) * 64 + payload c)) =
      [a, b, c] := by
  have hvalid : ((a.toNat % 16 * 64 + payload b) * 64 + payload c).isValidChar := by
    unfold Nat.isValidChar payload
    omega
  have hnum := toNat_ofNat_of_isValidChar hvalid
  unfold payload at hnum
  unfold String.utf8EncodeChar
  simp only [Char.toNat_val, payload, hnum]
  rw [if_neg (by omega), if_neg (by omega), if_pos (by omega)]
  simp only [List.cons.injEq, ← UInt8.toNat_inj, UInt8.toNat_ofNat', and_true]
  omega

/-- The bytes of a character made of four bytes; the bounds keep out what fits in three, and
numbers above those of characters. -/
lemma utf8EncodeChar_four {a b c d : UInt8} (ha : 0xf0 ≤ a.toNat ∧ a.toNat ≤ 0xf4)
    (hb : 0x80 ≤ b.toNat ∧ b.toNat ≤ 0xbf) (hc : 0x80 ≤ c.toNat ∧ c.toNat ≤ 0xbf)
    (hd : 0x80 ≤ d.toNat ∧ d.toNat ≤ 0xbf)
    (hlow : a.toNat ≠ 0xf0 ∨ 0x90 ≤ b.toNat) (hhigh : a.toNat ≠ 0xf4 ∨ b.toNat ≤ 0x8f) :
    String.utf8EncodeChar
      (Char.ofNat (((a.toNat % 8 * 64 + payload b) * 64 + payload c) * 64 + payload d)) =
      [a, b, c, d] := by
  have hvalid :
      (((a.toNat % 8 * 64 + payload b) * 64 + payload c) * 64 + payload d).isValidChar := by
    unfold Nat.isValidChar payload
    omega
  have hnum := toNat_ofNat_of_isValidChar hvalid
  unfold payload at hnum
  unfold String.utf8EncodeChar
  simp only [Char.toNat_val, payload, hnum]
  rw [if_neg (by omega), if_neg (by omega), if_neg (by omega)]
  simp only [List.cons.injEq, ← UInt8.toNat_inj, UInt8.toNat_ofNat', and_true]
  omega

/-- **A lenient reading loses nothing.** The bytes of its pieces in a row are what was read. -/
lemma flatMap_bytes_pieces (bs : Bytes) : (pieces bs).flatMap Piece.bytes = bs := by
  fun_induction pieces bs with
  | case1 => rfl
  | case2 a r ha ih => simp [Piece.bytes, utf8EncodeChar_one ha, ih]
  | case3 a r ha hlead ih => simp [Piece.bytes, ih]
  | case4 => rfl
  | case5 a ha more lo hi hlead b r hout ih => simp [Piece.bytes, ih]
  | case6 a ha lo hi b r hin hlead ih =>
    obtain ⟨hlo, hhi, hmore⟩ := leading_eq_some hlead
    have hb := bounds_of_not_out hin
    simp [Piece.bytes, utf8EncodeChar_two (a := a) (b := b) (by omega) (by omega), ih]
  | case7 => rfl
  | case8 a ha more lo hi hlead b hin hmore d r hd ih => simp [Piece.bytes, ih]
  | case9 a ha lo hi b hin d r hd hlead hmore ih =>
    obtain ⟨hlo, hhi, hbounds⟩ := leading_eq_some hlead
    have hb := bounds_of_not_out hin
    have hd' := continues_iff.1 (by simpa using hd)
    simp [Piece.bytes, utf8EncodeChar_three (a := a) (b := b) (by omega) (by omega) hd' (by omega)
      (by omega), ih]
  | case10 => rfl
  | case11 a ha more lo hi hlead b hin hone d hd htwo e r he ih => simp [Piece.bytes, ih]
  | case12 a ha more lo hi hlead b hin hone d hd htwo e r he ih =>
    obtain ⟨hlo, hhi, hbounds⟩ := leading_eq_some hlead
    have hb := bounds_of_not_out hin
    have hd' := continues_iff.1 (by simpa using hd)
    have he' := continues_iff.1 (by simpa using he)
    simp [Piece.bytes, utf8EncodeChar_four (a := a) (b := b) (by omega) (by omega) hd' he'
      (by omega) (by omega), ih]

/-! ## Cutting at an ASCII byte -/

/-- **A reading is cut by an ASCII byte**, whatever stands before it: a character that lacks bytes
does not take it in. -/
lemma pieces_append_ascii {x : UInt8} (hx : x < 0x80) (bs r : Bytes) :
    pieces (bs ++ x :: r) = pieces bs ++ .char (Char.ofNat x.toNat) :: pieces r := by
  have hx' : x.toNat < 0x80 := hx
  -- The byte is none of those that a character goes on with.
  have hout : ∀ {a : UInt8} {more : Nat} {lo hi : UInt8}, leading a = some (more, lo, hi) →
      x < lo ∨ hi < x := by
    intro a more lo hi hlead
    obtain ⟨hlo, -, -⟩ := leading_eq_some hlead
    exact .inl (UInt8.lt_iff_toNat_lt.2 (by omega))
  have hends : continues x = false := by
    rw [Bool.eq_false_iff, Ne, continues_iff]
    omega
  fun_induction pieces bs with
  | case1 => exact pieces_ascii x r hx
  | case2 a q ha ih => rw [List.cons_append, pieces_ascii a _ ha, ih, List.cons_append]
  | case3 a q ha hlead ih =>
    rw [List.cons_append, pieces.eq_def]
    simp [ha, hlead, ih]
  | case4 a ha more lo hi hlead =>
    rw [List.cons_append, pieces.eq_def]
    simp [ha, hlead, hout hlead, pieces_ascii x r hx]
  | case5 a ha more lo hi hlead b q hbad ih =>
    rw [List.cons_append, pieces.eq_def]
    simp [ha, hlead, hbad, ← ih]
  | case6 a ha lo hi b q hin hlead ih =>
    rw [List.cons_append, pieces.eq_def]
    simp [ha, hlead, hin, ih]
  | case7 a ha more lo hi hlead b hin hmore =>
    rw [List.cons_append, pieces.eq_def]
    simp [ha, hlead, hin, hmore, hends, pieces_ascii x r hx]
  | case8 a ha more lo hi hlead b hin hmore d q hd ih =>
    rw [List.cons_append, pieces.eq_def]
    simp [ha, hlead, hin, hmore, hd, ← ih]
  | case9 a ha lo hi b hin d q hd hlead hmore ih =>
    rw [List.cons_append, pieces.eq_def]
    simp [ha, hlead, hin, hd, ih]
  | case10 a ha more lo hi hlead b hin hone d hd htwo =>
    rw [List.cons_append, pieces.eq_def]
    simp [ha, hlead, hin, hone, hd, htwo, hends, pieces_ascii x r hx]
  | case11 a ha more lo hi hlead b hin hone d hd htwo e q he ih =>
    rw [List.cons_append, pieces.eq_def]
    simp [ha, hlead, hin, hone, hd, htwo, he, ← ih]
  | case12 a ha more lo hi hlead b hin hone d hd htwo e q he ih =>
    rw [List.cons_append, pieces.eq_def]
    simp [ha, hlead, hin, hone, hd, htwo, he, ih]

lemma decodeLossy_append_ascii {x : UInt8} (hx : x < 0x80) (bs r : Bytes) :
    decodeLossy (bs ++ x :: r) = decodeLossy bs ++ Char.ofNat x.toNat :: decodeLossy r := by
  simp [decodeLossy, pieces_append_ascii hx, Piece.shown]

end BenchTally.Text
