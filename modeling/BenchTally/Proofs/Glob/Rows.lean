import BenchTally.Analysis.Settings
import BenchTally.Proofs.Text.Ascii

set_option autoImplicit false
set_option relaxedAutoImplicit false

/-!
# Names that a row of parts matches

A pattern is matched part by part: a character stands for its bytes, and a star for any bytes but
slashes. The pattern of result files is made of nothing else.

## Main definitions

* `Glob.standard` — the pattern of result files unless told otherwise.

## Main results

* `Glob.matches_literals` — the names that start with a given text.
* `Glob.matches_anyRun` — the names after any bytes but slashes.
* `Glob.parse_defaultPattern` — the text of the pattern denotes it.
* `Glob.accepts_standard_iff` — the names that the pattern matches.
-/

namespace BenchTally

namespace Glob

variable {items : List Item} {w : Bytes}

/-! ## Sets of bytes -/

/-- A set of one byte holds no other. -/
@[simp]
lemma contains_single_iff {a b : UInt8} : (ByteSet.single a).contains b = true ↔ b = a := by
  simp only [ByteSet.contains, ByteSet.single, List.any_cons, List.any_nil, Bool.or_false,
    Bool.bne_false, Bool.and_eq_true, decide_eq_true_eq]
  exact ⟨fun h => UInt8.le_antisymm h.2 h.1, fun h => h ▸ ⟨UInt8.le_refl _, UInt8.le_refl _⟩⟩

/-- The set of all bytes but one holds all others. -/
@[simp]
lemma contains_allBut_iff {a b : UInt8} : (ByteSet.allBut a).contains b = true ↔ b ≠ a := by
  have hsingle : (ByteSet.allBut a).contains b = !(ByteSet.single a).contains b := by
    simp [ByteSet.contains, ByteSet.allBut, ByteSet.single]
  rw [hsingle, Bool.not_eq_true', ← Bool.not_eq_true, contains_single_iff]

/-! ## One part after another -/

/-- The texts of two expressions in a row. -/
lemma matches_seq_iff {r s : Regex} :
    (r.andThen s).Matches w ↔ ∃ u v, w = u ++ v ∧ r.Matches u ∧ s.Matches v := by
  rw [Regex.matches_andThen]
  constructor
  · intro h
    cases h with
    | @seq _ _ u v hu hv => exact ⟨u, v, rfl, hu, hv⟩
  · rintro ⟨u, v, rfl, hu, hv⟩
    exact .seq hu hv

/-- Given bytes describe themselves alone. -/
lemma matches_bytesRegex_iff {bs : Bytes} : (bytesRegex bs).Matches w ↔ w = bs := by
  induction bs generalizing w with
  | nil =>
    constructor
    · intro h
      cases h
      rfl
    · rintro rfl
      exact .empty
  | cons b bs ih =>
    have hcons : bytesRegex (b :: bs) = (Regex.byte (.single b)).andThen (bytesRegex bs) := rfl
    rw [hcons, matches_seq_iff]
    constructor
    · rintro ⟨u, v, rfl, hu, hv⟩
      cases hu with
      | byte hb => rw [contains_single_iff.1 hb, ih.1 hv, List.singleton_append]
    · rintro rfl
      exact ⟨[b], bs, rfl, .byte (contains_single_iff.2 rfl), ih.2 rfl⟩

/-- The empty row matches the empty name. -/
lemma matches_nil : (itemsRegex []).Matches w ↔ w = [] := by
  show (bytesRegex []).Matches w ↔ w = []
  exact matches_bytesRegex_iff

/-- **A row that starts with a text** matches the names that start with its bytes. -/
lemma matches_literals (s : String) :
    (itemsRegex (s.toList.map .literal ++ items)).Matches w ↔
      ∃ v, w = Text.encode s ++ v ∧ (itemsRegex items).Matches v := by
  rw [Text.encode_eq_flatMap]
  induction s.toList generalizing w with
  | nil => simp
  | cons c cs ih =>
    have hchar : Text.encode c.toString = String.utf8EncodeChar c := by
      simp [Text.encode_eq_flatMap]
    rw [List.map_cons, List.cons_append, itemsRegex, Item.toRegex, matches_seq_iff]
    simp only [matches_bytesRegex_iff, ih, hchar, List.flatMap_cons, List.append_assoc]
    constructor
    · rintro ⟨u, v, rfl, rfl, v', rfl, hv'⟩
      exact ⟨v', rfl, hv'⟩
    · rintro ⟨v, rfl, hv⟩
      exact ⟨_, _, rfl, rfl, v, rfl, hv⟩

/-- **A row that starts with a star** matches names after any bytes but slashes. -/
lemma matches_anyRun :
    (itemsRegex (.anyRun :: items)).Matches w ↔
      ∃ u v, w = u ++ v ∧ slash ∉ u ∧ (itemsRegex items).Matches v := by
  have hrun : ∀ {u : Bytes}, (Regex.run (.allBut slash)).Matches u ↔ slash ∉ u := by
    intro u
    constructor
    · intro h hslash
      cases h with
      | run h => exact contains_allBut_iff.1 (h _ hslash) rfl
    · exact fun h => .run fun b hb => contains_allBut_iff.2 fun heq => h (heq ▸ hb)
  rw [itemsRegex, Item.toRegex, matches_seq_iff]
  simp only [hrun]

/-! ## The pattern of result files -/

/-- The pattern of result files unless told otherwise. -/
def standard : Glob :=
  ⟨.anyRun :: ("(".toList.map .literal ++ .anyRun :: (").csv".toList.map .literal ++ []))⟩

/-- The text of the pattern denotes it. -/
lemma parse_defaultPattern : parse defaultPattern.toList = .ok standard := by
  cbv

/-- **The names of result files** are those with a parenthesis that ends before the extension. -/
lemma accepts_standard_iff : standard.accepts w = true ↔
    ∃ u v, w = u ++ Text.encode "(" ++ v ++ Text.encode ").csv" ∧ slash ∉ u ∧ slash ∉ v := by
  rw [accepts, Regex.accepts_iff]
  show (itemsRegex standard.items).Matches w ↔ _
  rw [standard]
  simp only [matches_anyRun, matches_literals, matches_nil]
  constructor
  · rintro ⟨u, _, rfl, hu, _, rfl, v, _, rfl, hv, _, rfl, rfl⟩
    exact ⟨u, v, by simp, hu, hv⟩
  · rintro ⟨u, v, rfl, hu, hv⟩
    exact ⟨u, _, by simp only [List.append_assoc]; rfl, hu, _, rfl, v, _, rfl, hv, [], by simp, rfl⟩

end Glob

end BenchTally
