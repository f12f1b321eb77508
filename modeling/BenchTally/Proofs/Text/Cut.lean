import BenchTally.Proofs.Text.Utf8
import BenchTally.Text.Split

set_option autoImplicit false
set_option relaxedAutoImplicit false

/-!
# Cutting before and after reading

A text that was read leniently may be cut at an ASCII character, or its bytes before they are read.

## Main definitions

* `Text.upToLast` — what stands before the last occurrence of an element.

## Main results

* `Text.splitLast?_decodeLossy` — the two sides of a cut may be read one by one.
-/

namespace BenchTally.Text

variable {α : Type} [DecidableEq α]

/-- What stands before the last occurrence of `sep`, and everything if there is none. -/
def upToLast (sep : α) (s : List α) : List α :=
  match splitLast? sep s with
  | some (before, _) => before
  | none => s

/-- What `upToLast` leaves out starts with the separator. -/
lemma exists_eq_upToLast_append (sep : α) (s : List α) :
    ∃ e, s = upToLast sep s ++ e ∧ (e = [] ∨ ∃ x, e = sep :: x ∧ sep ∉ x) := by
  unfold upToLast
  cases h : splitLast? sep s with
  | none => exact ⟨[], by simp, .inl rfl⟩
  | some pq =>
    obtain ⟨p, q⟩ := pq
    obtain ⟨hs, hq⟩ := splitLast?_eq_some_iff.1 h
    exact ⟨sep :: q, hs, .inr ⟨q, rfl, hq⟩⟩

/-! ## Cutting what was read -/

variable {x : UInt8}

/-- An ASCII byte is read as its character. -/
lemma char_mem_decodeLossy_iff (hx : x < 0x80) {bs : Bytes} :
    Char.ofNat x.toNat ∈ decodeLossy bs ↔ x ∈ bs := by
  have hx' : x.toNat < 0x80 := hx
  have hnum : (Char.ofNat x.toNat).toNat = x.toNat :=
    toNat_ofNat_of_isValidChar (.inl (by omega))
  constructor
  · intro h
    have hmem := mem_of_mem_decodeLossy (by omega) h
    rwa [hnum, UInt8.ofNat_toNat] at hmem
  · intro h
    obtain ⟨p, q, rfl⟩ := List.append_of_mem h
    rw [decodeLossy_append_ascii hx]
    simp

/-- **Cutting and reading.** The last occurrence of an ASCII character in what was read is the last
occurrence of its byte, and the two sides are what their bytes are read as. -/
lemma splitLast?_decodeLossy (hx : x < 0x80) (bs : Bytes) :
    splitLast? (Char.ofNat x.toNat) (decodeLossy bs) =
      (splitLast? x bs).map fun pq => (decodeLossy pq.1, decodeLossy pq.2) := by
  cases h : splitLast? x bs with
  | none =>
    rw [Option.map_none, splitLast?_eq_none_iff, char_mem_decodeLossy_iff hx]
    exact splitLast?_eq_none_iff.1 h
  | some pq =>
    obtain ⟨p, q⟩ := pq
    obtain ⟨rfl, hq⟩ := splitLast?_eq_some_iff.1 h
    rw [Option.map_some, splitLast?_eq_some_iff, char_mem_decodeLossy_iff hx]
    exact ⟨decodeLossy_append_ascii hx p q, hq⟩

/-- What stands before a cut may be read alone. -/
lemma upToLast_decodeLossy (hx : x < 0x80) (bs : Bytes) :
    upToLast (Char.ofNat x.toNat) (decodeLossy bs) = decodeLossy (upToLast x bs) := by
  unfold upToLast
  rw [splitLast?_decodeLossy hx]
  cases splitLast? x bs <;> rfl

end BenchTally.Text
