import BenchTally.Text.Hidden
import BenchTally.Text.Utf8

set_option autoImplicit false
set_option relaxedAutoImplicit false

/-!
# Quoted text

Texts and file names as messages show them: between double quotes, on one line, with everything
that would not show written as an escape sequence.

## Main definitions

* `Text.escape` — one character.
* `Text.quoted` — a text.
* `Text.quotedBytes` — a byte sequence that is text by intent, such as a path; a byte of an
  ill-formed sequence is written by its number.
-/

namespace BenchTally.Text

/-- A character inside quotes: a quote, a backslash and the four usual controls have short forms,
a character that does not show has its number in hexadecimal. -/
def escape (c : Char) : List Char :=
  if c = '"' then ['\\', '"']
  else if c = '\\' then ['\\', '\\']
  else if c = '\t' then ['\\', 't']
  else if c = '\r' then ['\\', 'r']
  else if c = '\n' then ['\\', 'n']
  else if c = '\x00' then ['\\', '0']
  else if isHidden c then ['\\', 'u', '\x7b'] ++ Nat.toDigits 16 c.toNat ++ ['\x7d']
  else [c]

/-- A text between quotes. -/
def quoted (s : List Char) : String :=
  String.ofList ('"' :: s.flatMap escape ++ ['"'])

/-- The two digits of a byte, with capital letters. -/
def capitalHex (b : UInt8) : List Char :=
  [Nat.digitChar (b.toNat / 16), Nat.digitChar (b.toNat % 16)].map Char.toUpper

/-- A piece of a lenient reading inside quotes. -/
def Piece.escape : Piece → List Char
  | .char c => Text.escape c
  | .junk bs => bs.flatMap fun b => '\\' :: 'x' :: capitalHex b

/-- A byte sequence between quotes, as text where it is text. -/
def quotedBytes (bs : Bytes) : String :=
  String.ofList ('"' :: (pieces bs).flatMap Piece.escape ++ ['"'])

/-- A plain word, a quote, an escape by number and a byte that is no text. -/
example : quotedBytes [0x61, 0x22, 0x1b, 0xff] = "\"a\\\"\\u\x7b1b\x7d\\xFF\"" := by
  decide

end BenchTally.Text
