import BenchTally.Proofs.Decimal.Digits
import BenchTally.Run.Key
import BenchTally.Text.Split

set_option autoImplicit false
set_option relaxedAutoImplicit false

/-!
# Labels

The label of a configuration is a free text with three marked numbers behind it. The text may end in
what looks like such numbers, but the numbers that were added are the last three, and the underscore
before each of them is the last one in front of its end. So a label is read from its right end.

## Main results

* `ConfigKey.lineLabel_inj` — the fields that a label is made of can be read off it.
* `ConfigKey.eq_of_lineLabel` — within a chart the label tells the configuration.
-/

namespace BenchTally

/-- Texts that are cut at the last occurrence of one separator are cut in the same place. -/
lemma Text.append_cons_inj {α : Type} [DecidableEq α] {sep : α} {p p' q q' : List α}
    (hq : sep ∉ q) (hq' : sep ∉ q') : p ++ sep :: q = p' ++ sep :: q' ↔ p = p' ∧ q = q' := by
  constructor
  · intro h
    have hcut := splitLast?_eq_some_iff.2 ⟨h, hq'⟩
    rw [splitLast?_eq_some_iff.2 ⟨rfl, hq⟩, Option.some.injEq, Prod.mk.injEq] at hcut
    exact hcut
  · rintro ⟨rfl, rfl⟩
    rfl

namespace ConfigKey

/-- The characters of a marked number. -/
def markedNumber (mark : Char) (n : UInt32) : List Char :=
  '_' :: mark :: Decimal.writeNat n

/-- **A marked number can be taken off** the end of a text, whatever stands before it. -/
lemma append_markedNumber_inj {mark : Char} (hmark : mark ≠ '_') {s s' : List Char}
    {n n' : UInt32} :
    s ++ markedNumber mark n = s' ++ markedNumber mark n' ↔ s = s' ∧ n = n' := by
  have hnot : ∀ n : UInt32, '_' ∉ mark :: Decimal.writeNat n := by
    intro n hmem
    rcases List.mem_cons.1 hmem with heq | hmem
    · exact hmark heq.symm
    · exact Decimal.not_mem_writeNat (by decide) hmem
  rw [markedNumber, markedNumber, Text.append_cons_inj (hnot n) (hnot n'), List.cons.injEq,
    Decimal.writeNat_inj]
  simp

/-- The characters of a label: the storage type and three marked numbers. -/
lemma toList_lineLabel (k : ConfigKey) :
    k.lineLabel.toList = k.storageType.toList ++ markedNumber 'p' k.partitions ++
      markedNumber 'w' k.paths ++ markedNumber 'i' k.interval := by
  rw [lineLabel, String.toList_ofList]
  rfl

/-- **What a label tells**: the storage type, the partitions, the paths and the interval.

**Proof sketch.** The marked numbers are taken off one by one, from the last to the first. What then
is left is the storage type, with whatever marked numbers it ends in. -/
lemma lineLabel_inj {k k' : ConfigKey} :
    k.lineLabel = k'.lineLabel ↔ k.storageType = k'.storageType ∧ k.partitions = k'.partitions ∧
      k.paths = k'.paths ∧ k.interval = k'.interval := by
  rw [← String.toList_inj, toList_lineLabel, toList_lineLabel,
    append_markedNumber_inj (by decide), append_markedNumber_inj (by decide),
    append_markedNumber_inj (by decide), String.toList_inj, and_assoc, and_assoc]

/-- **Within a chart the label tells the configuration.** -/
lemma eq_of_lineLabel {k k' : ConfigKey} (hchart : k.chartKey = k'.chartKey)
    (hlabel : k.lineLabel = k'.lineLabel) : k = k' := by
  obtain ⟨htype, hpartitions, hpaths, hinterval⟩ := lineLabel_inj.1 hlabel
  simp only [chartKey, ChartKey.mk.injEq] at hchart
  obtain ⟨hworkload, hengine, hworkers⟩ := hchart
  cases k
  cases k'
  simp_all

end ConfigKey

end BenchTally
