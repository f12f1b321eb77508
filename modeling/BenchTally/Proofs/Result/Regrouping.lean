import BenchTally.Proofs.Decimal.Thousands
import BenchTally.Proofs.Text.Blank
import BenchTally.Result.Grouped
import Mathlib.Logic.Relation

set_option autoImplicit false
set_option relaxedAutoImplicit false

/-!
# Separators make no difference

The dots of a field's value may be moved, added and taken away, and blanks may be put around what
comes of that: the value is read as before. What it is read as is the number that its digits denote,
wherever the dots stand among them.

## Main definitions

* `SeparatorEdit` — a dot is put in or taken out.
* `Regroups` — any number of such edits.
* `ReadAlike` — two values are read as the same, or neither is read.

## Main results

* `regroups_iff` — the texts that a text is regrouped to are those with the same other characters.
* `Regroups.ungroup_between` — regrouping, and blanks at the ends, leave the same text to be read.
* `separators_transparent` — hence the same number or a refusal, and the number of the digits if
  there are only digits.
-/

namespace BenchTally

open Double

/-! ## Moving the separators -/

/-- One edit of the separators of a text: a dot is put in, or taken out, at any position. -/
inductive SeparatorEdit : List Char → List Char → Prop where
  /-- A dot is put in. -/
  | insert (p q : List Char) : SeparatorEdit (p ++ q) (p ++ '.' :: q)
  /-- A dot is taken out. -/
  | delete (p q : List Char) : SeparatorEdit (p ++ '.' :: q) (p ++ q)

/-- The second text comes of the first one by edits of the separators, any number of them. -/
def Regroups : List Char → List Char → Prop :=
  Relation.ReflTransGen SeparatorEdit

variable {v w : List Char}

/-- Edits can be undone. -/
lemma SeparatorEdit.symm (h : SeparatorEdit v w) : SeparatorEdit w v := by
  cases h with
  | insert p q => exact .delete p q
  | delete p q => exact .insert p q

/-- An edit keeps the characters that are no dots, in their order. -/
lemma SeparatorEdit.filter_eq (h : SeparatorEdit v w) :
    v.filter (· ≠ '.') = w.filter (· ≠ '.') := by
  cases h with
  | insert p q => rw [List.filter_append, List.filter_append, List.filter_cons_of_neg (by decide)]
  | delete p q => rw [List.filter_append, List.filter_append, List.filter_cons_of_neg (by decide)]

namespace Regroups

/-- Any number of edits can be undone. -/
lemma symm (h : Regroups v w) : Regroups w v := by
  induction h with
  | refl => exact .refl
  | tail _ hedit ih => exact .head hedit.symm ih

/-- Any number of edits keep the characters that are no dots. -/
lemma filter_eq (h : Regroups v w) : v.filter (· ≠ '.') = w.filter (· ≠ '.') := by
  induction h with
  | refl => rfl
  | tail _ hedit ih => exact ih.trans hedit.filter_eq

end Regroups

/-- All dots behind a given start may be taken out one by one. -/
lemma regroups_append_filter (p v : List Char) : Regroups (p ++ v) (p ++ v.filter (· ≠ '.')) := by
  induction v generalizing p with
  | nil => exact .refl
  | cons c v ih =>
    by_cases hc : c = '.'
    · subst hc
      rw [List.filter_cons_of_neg (by decide)]
      exact .head (.delete p v) (ih p)
    · -- The character stays, and what is edited next stands behind it.
      rw [List.filter_cons_of_pos (by simpa using hc), List.append_cons p c v,
        List.append_cons p c (v.filter _)]
      exact ih (p ++ [c])

/-- **Regrouping.** A text comes of another one by moving, adding and taking away dots exactly if
both have the same other characters in the same order. -/
lemma regroups_iff : Regroups v w ↔ v.filter (· ≠ '.') = w.filter (· ≠ '.') := by
  refine ⟨Regroups.filter_eq, fun h => ?_⟩
  have hv : Regroups v (v.filter (· ≠ '.')) := regroups_append_filter [] v
  have hw : Regroups w (w.filter (· ≠ '.')) := regroups_append_filter [] w
  rw [h] at hv
  exact hv.trans hw.symm

/-- Groups of three digits come of the decimal form. -/
lemma regroups_writeGrouped (n : ℕ) : Regroups (Nat.toDigits 10 n) (Decimal.writeGrouped n) := by
  rw [regroups_iff, Decimal.filter_writeGrouped,
    Decimal.filter_of_isDigit (Decimal.isDigits_toDigits n).2]

/-! ## What is left to be read -/

/-- Blanks stay blanks when dots are taken out. -/
lemma allBlank_filter {s : List Char} (hs : Text.allBlank s = true) :
    Text.allBlank (s.filter (· ≠ '.')) = true := by
  rw [Text.allBlank, List.all_eq_true] at hs ⊢
  exact fun c hc => hs c (List.mem_of_mem_filter hc)

/-- **Regrouping, and blanks at the two ends**, leave the same text to be read. -/
lemma Regroups.ungroup_between (h : Regroups v w) {before after : List Char}
    (hbefore : Text.allBlank before = true) (hafter : Text.allBlank after = true) :
    ungroup (before ++ w ++ after) = ungroup v := by
  unfold ungroup
  rw [List.filter_append, List.filter_append,
    Text.trim_between (allBlank_filter hbefore) (allBlank_filter hafter), h.filter_eq]

/-- Regrouped digits leave the digits to be read. -/
lemma Regroups.ungroup_of_isDigits {d s : List Char} (hd : Decimal.IsDigits d) (h : Regroups d s) :
    ungroup s = d := by
  unfold ungroup
  rw [← h.filter_eq, Decimal.filter_of_isDigit hd.2]
  exact Text.trim_eq_self fun c hc => Text.isBlank_of_isDigit (hd.2 c hc)

/-! ## What is read -/

/-- Two values of a field are read as the same, or both are refused, each as it was found. -/
def ReadAlike {α : Type} (number : List Char → Option α) (field : String) (v w : List Char) :
    Prop :=
  (∃ x, readGrouped number field v = .ok x ∧ readGrouped number field w = .ok x) ∨
    readGrouped number field v = .error (.invalidNumber field v) ∧
      readGrouped number field w = .error (.invalidNumber field w)

/-- Values that leave the same text to be read are read alike. -/
lemma readAlike_of_ungroup_eq {α : Type} (number : List Char → Option α) (field : String)
    (h : ungroup w = ungroup v) : ReadAlike number field v w := by
  unfold ReadAlike readGrouped
  rw [h]
  cases number (ungroup v) with
  | none => exact .inr ⟨rfl, rfl⟩
  | some x => exact .inl ⟨x, rfl, rfl⟩

/-- **Regrouped digits** are read as the double of their number. -/
lemma Regroups.readGrouped_toDigits {n : ℕ} (hn : n < 2 ^ 53) (field : String) {s : List Char}
    (h : Regroups (Nat.toDigits 10 n) s) :
    readGrouped Decimal.read? field s = .ok (Float.ofNat n) := by
  have hlog : n.log2 < 1024 := by
    rcases n.eq_zero_or_pos with rfl | hpos
    · decide
    · exact ((Nat.log2_lt hpos.ne').2 hn).trans (by decide)
  rw [readGrouped, h.ungroup_of_isDigits (Decimal.isDigits_toDigits n), Decimal.read?_toDigits hlog]

/-- **Separators make no difference.** Let dots be put into a value and taken out of it, anywhere,
and let blanks be put at both ends of what comes of that. Then both values are read as the same
double, be that a number or not, or both are refused, and each refusal shows its own value. The
digits of a whole number of 53 bits, with dots anywhere among them, such as between groups of three,
are read as the double that stands for exactly this number.

**Proof sketch.** Dots go before blanks do, so that dots outside of the blanks make no difference
either: what is left of both values is the same text (`Regroups.ungroup_between`). It is the row of
digits if there were only digits, and that is read as the double nearest to its value, which is the
value itself if it has 53 bits. -/
theorem separators_transparent (field : String) :
    (∀ v w before after : List Char, Regroups v w →
      Text.allBlank before = true → Text.allBlank after = true →
        ReadAlike Decimal.read? field v (before ++ w ++ after)) ∧
    ∀ n : ℕ, n < 2 ^ 53 →
      value? (Float.ofNat n) = some (number n) ∧
      (∀ s, Regroups (Nat.toDigits 10 n) s →
        readGrouped Decimal.read? field s = .ok (Float.ofNat n)) ∧
      Regroups (Nat.toDigits 10 n) (Decimal.writeGrouped n) ∧
      readGrouped Decimal.read? field (Decimal.writeGrouped n) = .ok (Float.ofNat n) := by
  refine ⟨fun v w before after h hbefore hafter => ?_, fun n hn => ⟨?_, fun s h => ?_, ?_, ?_⟩⟩
  · exact readAlike_of_ungroup_eq _ field (h.ungroup_between hbefore hafter)
  · exact value?_ofInt (k := n) hn
  · exact h.readGrouped_toDigits hn field
  · exact regroups_writeGrouped n
  · exact (regroups_writeGrouped n).readGrouped_toDigits hn field

/-- A million and odd with dots astray, with a no-break space and a tab before it, and in groups of
three. -/
theorem separators_transparent_million :
    Regroups "1.234567".toList ".1234.567".toList ∧ Text.allBlank "\u00a0\t".toList = true ∧
      Text.allBlank "\u3000".toList = true ∧
      ReadAlike Decimal.read? "elapsed_ms" "1.234567".toList "\u00a0\t.1234.567\u3000".toList ∧
      1234567 < 2 ^ 53 ∧ value? (Float.ofNat 1234567) = some (number 1234567) ∧
      Regroups (Nat.toDigits 10 1234567) ".1234.567".toList ∧
      readGrouped Decimal.read? "elapsed_ms" ".1234.567".toList = .ok (Float.ofNat 1234567) ∧
      readGrouped Decimal.read? "elapsed_ms" "1.234.567".toList = .ok (Float.ofNat 1234567) := by
  obtain ⟨hedited, hdigits⟩ := separators_transparent "elapsed_ms"
  have hmoved : Regroups "1.234567".toList ".1234.567".toList := regroups_iff.2 (by decide)
  have hbefore : Text.allBlank "\u00a0\t".toList = true := by decide
  have hafter : Text.allBlank "\u3000".toList = true := by decide
  have hlt : 1234567 < 2 ^ 53 := by decide
  have hplaced : Regroups (Nat.toDigits 10 1234567) ".1234.567".toList := regroups_iff.2 (by decide)
  have hgroups : Decimal.writeGrouped 1234567 = "1.234.567".toList := by cbv
  obtain ⟨hvalue, hanywhere, -, hthrees⟩ := hdigits 1234567 hlt
  rw [hgroups] at hthrees
  exact ⟨hmoved, hbefore, hafter, hedited _ _ _ _ hmoved hbefore hafter, hlt, hvalue, hplaced,
    hanywhere _ hplaced, hthrees⟩

end BenchTally
