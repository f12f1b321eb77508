import BenchTally.Text.Blank
import Mathlib.Data.List.Induction
import Mathlib.Data.List.TakeWhile

set_option autoImplicit false
set_option relaxedAutoImplicit false

/-!
# What trimming keeps

## Main results

* `Text.mem_trim_iff` — trimming takes nothing away but blanks.
* `Text.trim_eq_nil_iff` — nothing is left exactly of blank texts.
* `Text.trim_append_singleton` — a blank at the end makes no difference.
* `Text.trim_between` — nor do any blanks at the two ends.
* `Text.trim_eq_self` — a text without blanks stays as it is.
-/

namespace BenchTally.Text

/-- A character that is no blank stays when the blanks at the start go. -/
lemma mem_dropWhile_isBlank_iff {c : Char} (hc : isBlank c = false) {s : List Char} :
    c ∈ s.dropWhile isBlank ↔ c ∈ s := by
  constructor
  · exact fun h => (List.dropWhile_sublist isBlank).mem h
  · intro h
    rw [← List.takeWhile_append_dropWhile (p := isBlank) (l := s), List.mem_append] at h
    rcases h with h | h
    · rw [List.mem_takeWhile_imp h] at hc
      cases hc
    · exact h

/-- A character that is no blank is in a text exactly if it is in the trimmed text. -/
lemma mem_trim_iff {c : Char} (hc : isBlank c = false) {s : List Char} :
    c ∈ trim s ↔ c ∈ s := by
  rw [trim, trimEnd, List.mem_reverse, mem_dropWhile_isBlank_iff hc, List.mem_reverse, trimStart,
    mem_dropWhile_isBlank_iff hc]

/-- Trimming empties exactly the blank texts. -/
lemma trim_eq_nil_iff {s : List Char} : trim s = [] ↔ ∀ c ∈ s, isBlank c = true := by
  rw [trim, trimEnd, List.reverse_eq_nil_iff, List.dropWhile_eq_nil_iff, trimStart]
  constructor
  · intro h c hc
    by_contra hblank
    rw [Bool.not_eq_true] at hblank
    have hleft := h c (List.mem_reverse.2 ((mem_dropWhile_isBlank_iff hblank).2 hc))
    rw [hblank] at hleft
    cases hleft
  · intro h c hc
    exact h c ((List.dropWhile_sublist isBlank).mem (List.mem_reverse.1 hc))

/-- Something is left exactly of texts with a character that is no blank. -/
lemma trim_ne_nil_iff {s : List Char} : trim s ≠ [] ↔ ∃ c ∈ s, isBlank c = false := by
  simp [trim_eq_nil_iff]

/-- A text is blank if it has no other characters than blanks. -/
lemma allBlank_iff_trim {s : List Char} : allBlank s = true ↔ trim s = [] := by
  rw [trim_eq_nil_iff, allBlank, List.all_eq_true]

/-- A blank at the end of a text makes no difference to the trimmed text. -/
lemma trim_append_singleton {c : Char} (hc : isBlank c = true) (s : List Char) :
    trim (s ++ [c]) = trim s := by
  rw [trim, trim, trimStart, trimStart, List.dropWhile_append]
  split_ifs with hs
  · rw [List.isEmpty_iff.1 hs, List.dropWhile_cons_of_pos hc, List.dropWhile_nil]
  · rw [trimEnd, trimEnd, List.reverse_append, List.reverse_singleton, List.singleton_append,
      List.dropWhile_cons_of_pos hc]

/-- Blanks at the two ends of a text make no difference to the trimmed text. -/
lemma trim_between {before after : List Char} (hbefore : allBlank before = true)
    (hafter : allBlank after = true) (s : List Char) : trim (before ++ s ++ after) = trim s := by
  rw [allBlank, List.all_eq_true] at hbefore hafter
  induction after using List.reverseRecOn with
  | nil =>
    rw [List.append_nil, trim, trim, trimStart, trimStart, List.dropWhile_append_of_pos hbefore]
  | append_singleton after c ih =>
    rw [← List.append_assoc, trim_append_singleton (hafter c (by simp))]
    exact ih fun d hd => hafter d (List.mem_append_left _ hd)

/-- A text without blanks stays as it is. -/
lemma trim_eq_self {s : List Char} (hs : ∀ c ∈ s, isBlank c = false) : trim s = s := by
  have hkept : ∀ t : List Char, (∀ c ∈ t, isBlank c = false) → t.dropWhile isBlank = t := by
    intro t ht
    rw [List.dropWhile_eq_self_iff]
    intro hpos
    rw [ht _ (List.getElem_mem hpos)]
    exact Bool.false_ne_true
  rw [trim, trimEnd, trimStart, hkept s hs,
    hkept s.reverse fun c hc => hs c (List.mem_reverse.1 hc), List.reverse_reverse]

end BenchTally.Text
