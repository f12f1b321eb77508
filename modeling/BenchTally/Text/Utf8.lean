set_option autoImplicit false
set_option relaxedAutoImplicit false

/-!
# Text as bytes

The UTF-8 form of a text, and two ways to read bytes as text: strictly, where any ill-formed
sequence refuses the whole, and leniently, where each ill-formed sequence is set aside.

A lenient reading is a list of pieces. An ill-formed sequence is as long as some well-formed
character starts with it, and at least one byte: `e2 82 41` is the ill-formed `e2 82` and the
character `A`, and `ff ff` is ill-formed twice.

## Main definitions

* `Bytes` — file contents and file names.
* `Text.encode`, `Text.decode?` — the UTF-8 form of a text, and its strict reading.
* `Text.pieces` — the lenient reading.
* `Text.decodeLossy` — the lenient reading with U+FFFD for each ill-formed sequence.
-/

namespace BenchTally

/-- A sequence of bytes: a file's content or a file's name. -/
abbrev Bytes := List UInt8

namespace Text

/-- The UTF-8 form of a text. -/
def encode (s : String) : Bytes :=
  s.toUTF8.data.toList

/-- The text whose UTF-8 form the bytes are. -/
def decode? (bs : Bytes) : Option String :=
  String.fromUTF8? ⟨⟨bs⟩⟩

/-- Writing and reading gives the text back. -/
theorem decode?_encode (s : String) : decode? (encode s) = some s := by
  have h : (⟨⟨s.toByteArray.data.toList⟩⟩ : ByteArray) = s.toByteArray := rfl
  simp only [decode?, encode, String.toUTF8_eq_toByteArray, h, String.fromUTF8?]
  split
  · rfl
  · exact absurd s.isValidUTF8 (by simpa using ‹_›)

/-! ## Lenient reading -/

/-- What a lenient reading finds: a character, or the bytes of an ill-formed sequence. -/
inductive Piece where
  /-- A well-formed character. -/
  | char (c : Char)
  /-- An ill-formed sequence. -/
  | junk (bs : Bytes)
  deriving DecidableEq, Repr

/-- The six payload bits of a byte that continues a character. -/
def payload (b : UInt8) : Nat :=
  b.toNat % 64

/-- The bytes that continue a character. -/
def continues (b : UInt8) : Bool :=
  0x80 ≤ b && b ≤ 0xbf

/-- The number of bytes that a leading byte asks for, and the bounds of the first of them: the
bounds keep out characters written too long, surrogates, and numbers above U+10FFFF. -/
def leading (b : UInt8) : Option (Nat × UInt8 × UInt8) :=
  if 0xc2 ≤ b ∧ b ≤ 0xdf then some (1, 0x80, 0xbf)
  else if b = 0xe0 then some (2, 0xa0, 0xbf)
  else if b = 0xed then some (2, 0x80, 0x9f)
  else if 0xe1 ≤ b ∧ b ≤ 0xef then some (2, 0x80, 0xbf)
  else if b = 0xf0 then some (3, 0x90, 0xbf)
  else if 0xf1 ≤ b ∧ b ≤ 0xf3 then some (3, 0x80, 0xbf)
  else if b = 0xf4 then some (3, 0x80, 0x8f)
  else none

/-- The pieces of a byte sequence, in order; their bytes in a row are the sequence. -/
def pieces : Bytes → List Piece
  | [] => []
  | a :: r =>
    if a < 0x80 then .char (Char.ofNat a.toNat) :: pieces r
    else
      match leading a with
      | none => .junk [a] :: pieces r
      | some (more, lo, hi) =>
        match r with
        | [] => [.junk [a]]
        | b :: r₂ =>
          if b < lo ∨ hi < b then .junk [a] :: pieces (b :: r₂)
          else if more = 1 then
            .char (Char.ofNat (a.toNat % 32 * 64 + payload b)) :: pieces r₂
          else
            match r₂ with
            | [] => [.junk [a, b]]
            | c :: r₃ =>
              if !continues c then .junk [a, b] :: pieces (c :: r₃)
              else if more = 2 then
                .char (Char.ofNat ((a.toNat % 16 * 64 + payload b) * 64 + payload c)) :: pieces r₃
              else
                match r₃ with
                | [] => [.junk [a, b, c]]
                | d :: r₄ =>
                  if !continues d then .junk [a, b, c] :: pieces (d :: r₄)
                  else
                    .char (Char.ofNat
                      (((a.toNat % 8 * 64 + payload b) * 64 + payload c) * 64 + payload d)) ::
                      pieces r₄

/-- The character that a piece shows as: U+FFFD stands for an ill-formed sequence. -/
def Piece.shown : Piece → Char
  | .char c => c
  | .junk _ => '\uFFFD'

/-- The text of a lenient reading, with U+FFFD for each ill-formed sequence. -/
def decodeLossy (bs : Bytes) : List Char :=
  (pieces bs).map Piece.shown

/-- An ASCII byte is a character of its own wherever it starts a reading. -/
theorem pieces_ascii (a : UInt8) (r : Bytes) (h : a < 0x80) :
    pieces (a :: r) = .char (Char.ofNat a.toNat) :: pieces r := by
  rw [pieces.eq_def]
  simp [h]

end Text

end BenchTally
