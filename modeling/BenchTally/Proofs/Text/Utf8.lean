import BenchTally.Proofs.Text.Ascii

set_option autoImplicit false
set_option relaxedAutoImplicit false

/-!
# Reading what was written, writing what was read

## Main results

* `Text.pieces_utf8EncodeChar` — the bytes of a character are read as the character.
* `Text.decodeLossy_encode` — the lenient reading of a written text is the text.
* `Text.encode_of_decodeLossy_eq` — a lenient reading without U+FFFD is the text that was written.
-/

namespace BenchTally.Text

/-- The first of two bytes asks for one more, in bounds that the second is in. -/
lemma leading_two {v : Nat} (hlo : 0x7f < v) (hhi : v ≤ 0x7ff) :
    ∃ lo hi, leading (UInt8.ofNat (v / 64 % 32 + 192)) = some (1, lo, hi) ∧
      ¬ (UInt8.ofNat (v % 64 + 128) < lo ∨ hi < UInt8.ofNat (v % 64 + 128)) := by
  unfold leading
  simp only [UInt8.le_iff_toNat_le, UInt8.lt_iff_toNat_lt, ← UInt8.toNat_inj, UInt8.reduceToNat,
    UInt8.toNat_ofNat']
  rw [if_pos (by omega)]
  refine ⟨0x80, 0xbf, rfl, ?_⟩
  simp only [UInt8.reduceToNat]
  omega

/-- The first of three bytes asks for two more, in bounds that the second is in: these keep out
what fits in two bytes, and surrogates. -/
lemma leading_three {v : Nat} (hlo : 0x7ff < v) (hhi : v ≤ 0xffff)
    (hvalid : v < 0xd800 ∨ 0xdfff < v) :
    ∃ lo hi, leading (UInt8.ofNat (v / 4096 % 16 + 224)) = some (2, lo, hi) ∧
      ¬ (UInt8.ofNat (v / 64 % 64 + 128) < lo ∨ hi < UInt8.ofNat (v / 64 % 64 + 128)) := by
  unfold leading
  simp only [UInt8.le_iff_toNat_le, UInt8.lt_iff_toNat_lt, ← UInt8.toNat_inj, UInt8.reduceToNat,
    UInt8.toNat_ofNat']
  rw [if_neg (by omega)]
  split_ifs
  · refine ⟨0xa0, 0xbf, rfl, ?_⟩
    simp only [UInt8.reduceToNat]
    omega
  · refine ⟨0x80, 0x9f, rfl, ?_⟩
    simp only [UInt8.reduceToNat]
    omega
  · refine ⟨0x80, 0xbf, rfl, ?_⟩
    simp only [UInt8.reduceToNat]
    omega
  all_goals omega

/-- The first of four bytes asks for three more, in bounds that the second is in: these keep out
what fits in three bytes, and numbers above those of characters. -/
lemma leading_four {v : Nat} (hlo : 0xffff < v) (hhi : v < 0x110000) :
    ∃ lo hi, leading (UInt8.ofNat (v / 262144 % 8 + 240)) = some (3, lo, hi) ∧
      ¬ (UInt8.ofNat (v / 4096 % 64 + 128) < lo ∨ hi < UInt8.ofNat (v / 4096 % 64 + 128)) := by
  unfold leading
  simp only [UInt8.le_iff_toNat_le, UInt8.lt_iff_toNat_lt, ← UInt8.toNat_inj, UInt8.reduceToNat,
    UInt8.toNat_ofNat']
  rw [if_neg (by omega), if_neg (by omega), if_neg (by omega), if_neg (by omega)]
  split_ifs
  · refine ⟨0x90, 0xbf, rfl, ?_⟩
    simp only [UInt8.reduceToNat]
    omega
  · refine ⟨0x80, 0xbf, rfl, ?_⟩
    simp only [UInt8.reduceToNat]
    omega
  · refine ⟨0x80, 0x8f, rfl, ?_⟩
    simp only [UInt8.reduceToNat]
    omega
  omega

lemma continues_ofNat (n : Nat) : continues (UInt8.ofNat (n % 64 + 128)) = true := by
  simp only [continues, Bool.and_eq_true, decide_eq_true_eq, UInt8.le_iff_toNat_le,
    UInt8.reduceToNat, UInt8.toNat_ofNat']
  omega

lemma payload_ofNat (n : Nat) : payload (UInt8.ofNat (n % 64 + 128)) = n % 64 := by
  rw [payload, UInt8.toNat_ofNat']
  omega

lemma not_lt_of_leading {n : Nat} (h : 128 ≤ n) (h' : n < 256) : ¬ UInt8.ofNat n < 0x80 := by
  simp only [UInt8.lt_iff_toNat_lt, UInt8.reduceToNat, UInt8.toNat_ofNat']
  omega

/-- **A written character is read back**, whatever follows it. -/
lemma pieces_utf8EncodeChar (c : Char) (r : Bytes) :
    pieces (String.utf8EncodeChar c ++ r) = .char c :: pieces r := by
  have hvalid : c.toNat < 0xd800 ∨ (0xdfff < c.toNat ∧ c.toNat < 0x110000) := c.valid
  have hchar : ∀ n, n = c.toNat → Char.ofNat n = c := fun n hn => by rw [hn, Char.ofNat_toNat]
  unfold String.utf8EncodeChar
  simp only [Char.toNat_val]
  split_ifs with hone htwo hthree
  · have ha : UInt8.ofNat c.toNat < 0x80 := by
      simp only [UInt8.lt_iff_toNat_lt, UInt8.reduceToNat, UInt8.toNat_ofNat']
      omega
    rw [List.singleton_append, pieces_ascii _ _ ha, UInt8.toNat_ofNat', hchar _ (by omega)]
  · obtain ⟨lo, hi, hlead, hin⟩ := leading_two (Nat.not_le.1 hone) htwo
    rw [List.cons_append, pieces.eq_def]
    simp only [if_neg (not_lt_of_leading (n := c.toNat / 64 % 32 + 192) (by omega) (by omega)),
      hlead, List.cons_append, List.nil_append, if_neg hin, if_true, payload_ofNat,
      UInt8.toNat_ofNat']
    rw [hchar _ (by omega)]
  · obtain ⟨lo, hi, hlead, hin⟩ := leading_three (Nat.not_le.1 htwo) hthree (by omega)
    rw [List.cons_append, pieces.eq_def]
    simp only [if_neg (not_lt_of_leading (n := c.toNat / 4096 % 16 + 224) (by omega) (by omega)),
      hlead, List.cons_append, List.nil_append, if_neg hin, payload_ofNat,
      UInt8.toNat_ofNat', continues_ofNat]
    simp only [Bool.not_true, Bool.false_eq_true, if_false, if_true]
    rw [if_neg (by decide), hchar _ (by omega)]
  · obtain ⟨lo, hi, hlead, hin⟩ := leading_four (Nat.not_le.1 hthree) (by omega)
    rw [List.cons_append, pieces.eq_def]
    simp only [if_neg (not_lt_of_leading (n := c.toNat / 262144 % 8 + 240) (by omega) (by omega)),
      hlead, List.cons_append, List.nil_append, if_neg hin, payload_ofNat,
      UInt8.toNat_ofNat', continues_ofNat]
    simp only [Bool.not_true, Bool.false_eq_true, if_false]
    rw [if_neg (by decide), if_neg (by decide), hchar _ (by omega)]

/-- **A written text is read back.** -/
lemma decodeLossy_encode (s : String) : decodeLossy (encode s) = s.toList := by
  have hread : ∀ cs : List Char,
      (pieces (cs.flatMap String.utf8EncodeChar)).map Piece.shown = cs := by
    intro cs
    induction cs with
    | nil => rfl
    | cons c cs ih => rw [List.flatMap_cons, pieces_utf8EncodeChar, List.map_cons, ih, Piece.shown]
  rw [decodeLossy, encode_eq_flatMap, hread]

/-- What a strict reading gives is written as what was read. -/
lemma encode_of_decode? {bs : Bytes} {s : String} (h : decode? bs = some s) : encode s = bs := by
  unfold decode? String.fromUTF8? at h
  split_ifs at h
  rw [← Option.some.inj h]
  rfl

/-- **What was read is written back**, if no character of it stands for an ill-formed sequence. -/
lemma encode_of_decodeLossy_eq {bs : Bytes} {s : String} (h : decodeLossy bs = s.toList)
    (hs : '\uFFFD' ∉ s.toList) : encode s = bs := by
  have hchars : ∀ ps : List Piece, '\uFFFD' ∉ ps.map Piece.shown →
      (ps.map Piece.shown).flatMap String.utf8EncodeChar = ps.flatMap Piece.bytes := by
    intro ps hps
    induction ps with
    | nil => rfl
    | cons p ps ih =>
      rw [List.map_cons, List.mem_cons, not_or] at hps
      rw [List.map_cons, List.flatMap_cons, List.flatMap_cons, ih hps.2]
      cases p with
      | char c => rfl
      | junk bs => exact absurd rfl hps.1
  rw [encode_eq_flatMap, ← h, decodeLossy, hchars _ (by rwa [← decodeLossy, h]),
    flatMap_bytes_pieces]

end BenchTally.Text
