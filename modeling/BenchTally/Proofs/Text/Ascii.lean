import BenchTally.Proofs.Text.Pieces

set_option autoImplicit false
set_option relaxedAutoImplicit false

/-!
# ASCII characters in bytes

A byte below `80` stands for its own character wherever it stands, in writing and in reading.

## Main results

* `Text.encode_injective`, `Text.encode_append` — writing loses nothing, and goes piece by piece.
* `Text.mem_of_mem_encode` — an ASCII byte in a written text is a character of the text.
* `Text.mem_of_mem_decodeLossy` — an ASCII character in a lenient reading is a byte of what was
  read.
-/

namespace BenchTally.Text

/-! ## Writing -/

lemma encode_injective : Function.Injective encode := by
  intro s t h
  have hdecode : decode? (encode s) = decode? (encode t) := by rw [h]
  simpa only [decode?_encode, Option.some.injEq] using hdecode

lemma encode_append (s t : String) : encode (s ++ t) = encode s ++ encode t := by
  simp [encode, String.toUTF8_eq_toByteArray]

/-- The bytes of a text are those of its characters, in order. -/
lemma encode_eq_flatMap (s : String) : encode s = s.toList.flatMap String.utf8EncodeChar := by
  have h : s.toByteArray = (s.toList.flatMap String.utf8EncodeChar).toByteArray := by
    rw [← String.utf8Encode_toList]
    rfl
  rw [encode, String.toUTF8_eq_toByteArray, h]
  simp

/-- The bytes of a character that is not ASCII are not ASCII either. -/
lemma eq_of_mem_utf8EncodeChar {b : UInt8} {c : Char} (h : b ∈ String.utf8EncodeChar c)
    (hb : b < 0x80) : c = Char.ofNat b.toNat := by
  have hb' : b.toNat < 128 := hb
  unfold String.utf8EncodeChar at h
  simp only at h
  split_ifs at h with hone htwo hthree
  · rw [List.mem_singleton.1 h, UInt8.toNat_ofNat', Nat.mod_eq_of_lt (by omega)]
    exact (Char.ofNat_toNat c).symm
  all_goals
    simp only [List.mem_cons, List.not_mem_nil, or_false] at h
    exfalso
  · rcases h with rfl | rfl <;> simp only [UInt8.toNat_ofNat'] at hb' <;> omega
  · rcases h with rfl | rfl | rfl <;> simp only [UInt8.toNat_ofNat'] at hb' <;> omega
  · rcases h with rfl | rfl | rfl | rfl <;> simp only [UInt8.toNat_ofNat'] at hb' <;> omega

lemma mem_of_mem_encode {s : String} {b : UInt8} (h : b ∈ encode s) (hb : b < 0x80) :
    Char.ofNat b.toNat ∈ s.toList := by
  rw [encode_eq_flatMap, List.mem_flatMap] at h
  obtain ⟨c, hc, hbc⟩ := h
  exact eq_of_mem_utf8EncodeChar hbc hb ▸ hc

/-! ## Reading -/

lemma mem_of_mem_decodeLossy {bs : Bytes} {c : Char} (hascii : c.toNat < 0x80)
    (h : c ∈ decodeLossy bs) : UInt8.ofNat c.toNat ∈ bs := by
  obtain ⟨piece, hpiece, rfl⟩ := List.mem_map.1 h
  cases piece with
  | char c =>
    have hbyte : UInt8.ofNat c.toNat ∈ Piece.bytes (.char c) := by
      rw [Piece.shown] at hascii
      rw [Piece.bytes, utf8EncodeChar_of_ascii hascii]
      exact List.mem_singleton_self _
    rw [← flatMap_bytes_pieces bs]
    exact List.mem_flatMap.2 ⟨_, hpiece, hbyte⟩
  | junk bs =>
    simp only [Piece.shown] at hascii
    exact absurd hascii (by decide)

end BenchTally.Text
