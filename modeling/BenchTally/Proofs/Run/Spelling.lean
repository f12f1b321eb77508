import BenchTally.Proofs.Decimal.Digits
import BenchTally.Proofs.Text.Separator
import BenchTally.Proofs.Verdict
import BenchTally.Run.Name

set_option autoImplicit false
set_option relaxedAutoImplicit false

/-!
# How names spell runs

The names that name a run are known exactly: the written form of its configuration, its repetition
in parentheses with any number of leading zeros, and an extension or nothing.

## Main definitions

* `ConfigKey.Separable` — the configurations whose written form names them.
* `IsEnding` — what may follow the closing parenthesis of a name.
* `Run.SpelledBy` — the names of a run.

## Main results

* `ConfigKey.ofText_eq_ok_iff` — a text names a configuration exactly if it is its written form.
* `Run.ofName_eq_ok_iff` — a name names exactly the runs that it spells.
-/

namespace BenchTally

/-! ## Configurations -/

namespace ConfigKey

/-- The fields of a configuration that may be any text. -/
def texts (k : ConfigKey) : List String :=
  [k.workload, k.storageType, k.storageEngine]

/-- No text among the fields holds the separator or ends with half of it. -/
def Separable (k : ConfigKey) : Prop :=
  ∀ s ∈ k.texts, Text.IsPiece '_' s.toList

/-- The characters of the written form. -/
@[simp]
lemma toList_text (k : ConfigKey) : k.text.toList = fieldSeparator.intercalate k.fields := by
  simp [text, joinFields]

/-- A number never interferes with the separator. -/
lemma isPiece_writeNat (n : UInt32) : Text.IsPiece '_' (Decimal.writeNat n) :=
  .of_not_mem (Decimal.not_mem_writeNat (by decide))

/-- No field but the last interferes with the separator after it. -/
lemma Separable.isPiece_of_mem_dropLast {k : ConfigKey} (h : k.Separable) :
    ∀ f ∈ k.fields.dropLast, Text.IsPiece '_' f := by
  intro f hf
  simp only [fields, List.dropLast_cons_cons, List.dropLast_singleton, List.mem_cons,
    List.not_mem_nil, or_false] at hf
  rcases hf with rfl | rfl | rfl | rfl | rfl | rfl
  · exact h _ (by simp [texts])
  · exact isPiece_writeNat _
  · exact h _ (by simp [texts])
  · exact isPiece_writeNat _
  · exact h _ (by simp [texts])
  · exact isPiece_writeNat _

/-- **The written form comes apart into its fields.** -/
lemma splitOnPair_text {k : ConfigKey} (h : k.Separable) :
    Text.splitOnPair '_' k.text.toList = k.fields := by
  rw [toList_text]
  exact Text.splitOnPair_intercalate k.fields.dropLast h.isPiece_of_mem_dropLast
    (isPiece_writeNat k.interval).no_pair

/-- What follows the written form without a separator belongs to the last of its seven fields. -/
lemma length_splitOnPair_text_append {k : ConfigKey} (h : k.Separable) {s : List Char}
    (hs : '_' ∉ s) : (Text.splitOnPair '_' (k.text.toList ++ s)).length = 7 := by
  have hlast : '_' ∉ Decimal.writeNat k.interval ++ s := by
    simp [Decimal.not_mem_writeNat (n := k.interval) (c := '_') (by decide), hs]
  have heq : k.text.toList ++ s =
      fieldSeparator.intercalate (k.fields.dropLast ++ [Decimal.writeNat k.interval ++ s]) := by
    simp [fields, fieldSeparator, List.intercalate]
  rw [heq, fieldSeparator, Text.splitOnPair_intercalate _ h.isPiece_of_mem_dropLast
    (Text.IsPiece.of_not_mem hlast).no_pair]
  rfl

end ConfigKey

/-- A field is read as a number exactly if it is the number's decimal form. -/
lemma readField_eq_ok_iff {field : NumberField} {value : List Char} {n : UInt32} :
    readField field value = .ok n ↔ value = Decimal.writeNat n := by
  rw [← Decimal.ofCanonical?_eq_some_iff, readField]
  cases Decimal.ofCanonical? value <;> simp

/-- A decimal form is read as the number. -/
@[simp]
lemma readField_writeNat (field : NumberField) (n : UInt32) :
    readField field (Decimal.writeNat n) = .ok n :=
  readField_eq_ok_iff.2 rfl

namespace ConfigKey

/-- The written form of a separable configuration names it. -/
lemma ofText_text {k : ConfigKey} (h : k.Separable) : ofText k.text.toList = .ok k := by
  rw [ofText, splitOnPair_text h]
  simp [fields]

/-- A text that names a configuration is its written form, and the configuration is separable.

**Proof sketch.** The text is its pieces with the separator between them. The four numbers are the
decimal forms that stand at their places, so the pieces are the fields of the configuration; the
three texts are pieces that others follow. -/
lemma eq_text_of_ofText {s : List Char} {k : ConfigKey} (h : ofText s = .ok k) :
    k.Separable ∧ s = k.text.toList := by
  unfold ofText at h
  split at h
  · rename_i workload workers storageType partitions storageEngine paths interval hs
    simp only [Verdict.bind_eq_ok_iff, Verdict.pure_eq_ok_iff, readField_eq_ok_iff] at h
    obtain ⟨_, rfl, _, rfl, _, rfl, _, rfl, rfl⟩ := h
    constructor
    · intro t ht
      apply Text.isPiece_of_mem_dropLast_splitOnPair (s := s)
      rw [hs]
      simp only [texts, List.mem_cons, List.not_mem_nil, or_false] at ht
      rcases ht with rfl | rfl | rfl <;> simp
    · rw [toList_text, ← Text.intercalate_splitOnPair '_' s, hs]
      simp [fields, fieldSeparator]
  · simp at h

/-- **Texts that name a configuration.** A text names a separable configuration exactly if it is its
written form, and no text names another configuration. -/
theorem ofText_eq_ok_iff {s : List Char} {k : ConfigKey} :
    ofText s = .ok k ↔ k.Separable ∧ s = k.text.toList := by
  constructor
  · exact eq_text_of_ofText
  · rintro ⟨hk, rfl⟩
    exact ofText_text hk

end ConfigKey

/-! ## Runs -/

/-- What may follow the closing parenthesis of a name: nothing, or an extension. -/
def IsEnding (e : List Char) : Prop :=
  e = [] ∨ ∃ x, e = '.' :: x ∧ '.' ∉ x

namespace Run

/-- The stem of a name is the name up to its last dot, or the name if it has no dot. -/
lemma stem_eq_iff {name s : List Char} :
    stem name = s ↔ (∃ x, name = s ++ '.' :: x ∧ '.' ∉ x) ∨ ('.' ∉ name ∧ name = s) := by
  unfold stem
  cases h : Text.splitLast? '.' name with
  | none =>
    have hdot := Text.splitLast?_eq_none_iff.1 h
    constructor
    · exact fun hs => .inr ⟨hdot, hs⟩
    · rintro (⟨x, rfl, -⟩ | ⟨-, hs⟩)
      · simp at hdot
      · exact hs
  | some pq =>
    obtain ⟨p, q⟩ := pq
    obtain ⟨rfl, hq⟩ := Text.splitLast?_eq_some_iff.1 h
    constructor
    · rintro rfl
      exact .inl ⟨q, rfl, hq⟩
    · rintro (⟨x, hx⟩ | ⟨hdot, -⟩)
      · have := Text.splitLast?_eq_some_iff.2 hx
        rw [h] at this
        simpa using congrArg Prod.fst (Option.some.inj this)
      · simp at hdot

/-- The cut of a name at the parentheses at its end. -/
lemma splitParenthesis?_eq_some_iff {s p d : List Char} :
    splitParenthesis? s = some (p, d) ↔ s = p ++ '(' :: d ++ [')'] ∧ '(' ∉ d := by
  simp only [splitParenthesis?, Option.ite_none_right_eq_some, Text.splitLast?_eq_some_iff]
  constructor
  · rintro ⟨hlast, hs, hd⟩
    refine ⟨?_, hd⟩
    rw [← hs, List.dropLast_append_getLast? _ hlast]
  · rintro ⟨rfl, hd⟩
    exact ⟨List.getLast?_concat, List.dropLast_concat, hd⟩

/-- The name of a configuration and the repetition behind it. -/
lemma splitRepetition_eq_ok_iff {s p : List Char} {n : UInt32} :
    splitRepetition s = .ok (p, n) ↔
      ∃ d, s = p ++ '(' :: d ++ [')'] ∧ Decimal.IsDigits d ∧
        Nat.ofDigitChars 10 d 0 = n.toNat := by
  constructor
  · intro h
    unfold splitRepetition at h
    split at h
    · simp at h
    · rename_i p' d hs
      split_ifs at h with hd
      cases hn : Decimal.ofDigits? d with
      | none => simp [hn] at h
      | some m =>
        simp only [hn, Except.ok.injEq, Prod.mk.injEq] at h
        obtain ⟨rfl, rfl⟩ := h
        refine ⟨d, (splitParenthesis?_eq_some_iff.1 hs).1, ?_, Decimal.ofDigits?_eq_some_iff.1 hn⟩
        simpa [Decimal.IsDigits] using hd
  · rintro ⟨d, rfl, hd, hn⟩
    have hs : splitParenthesis? (p ++ '(' :: d ++ [')']) = some (p, d) :=
      splitParenthesis?_eq_some_iff.2 ⟨rfl, hd.not_mem (by decide)⟩
    have hall : ¬ (d.isEmpty || !d.all Char.isDigit) := by simpa [Decimal.IsDigits] using hd
    rw [splitRepetition, hs]
    simp only [if_neg hall, Decimal.ofDigits?_eq_some_iff.2 hn]

/-- A name spells a run with the given digits and the given ending. -/
structure SpelledBy (r : Run) (digits ending name : List Char) : Prop where
  /-- The name is the written form of the configuration, the digits in parentheses, and the
  ending. -/
  eq : name = r.config.text.toList ++ '(' :: digits ++ ')' :: ending
  /-- There are digits, and nothing else, between the parentheses. -/
  isDigits : Decimal.IsDigits digits
  /-- The digits denote the repetition. -/
  value : Nat.ofDigitChars 10 digits 0 = r.repetition.toNat
  /-- The ending is nothing, and then there is no dot anywhere, or it starts at the last dot. -/
  ending : (ending = [] ∧ '.' ∉ name) ∨ ∃ x, ending = '.' :: x ∧ '.' ∉ x

/-- The ending of a name is an ending. -/
lemma SpelledBy.isEnding {r : Run} {d e name : List Char} (h : r.SpelledBy d e name) :
    IsEnding e :=
  h.ending.imp_left And.left

/-- **Names of runs.** A name names a run exactly if the run's configuration is separable and the
name spells the run. -/
theorem ofName_eq_ok_iff {name : List Char} {r : Run} :
    ofName name = .ok r ↔ r.config.Separable ∧ ∃ d e, r.SpelledBy d e name := by
  have hsteps : ofName name = .ok r ↔ ∃ c, splitRepetition (stem name) = .ok (c, r.repetition) ∧
      ConfigKey.ofText c = .ok r.config := by
    simp only [ofName, Verdict.bind_eq_ok_iff, Verdict.pure_eq_ok_iff, Prod.exists]
    constructor
    · rintro ⟨c, n, hc, k, hk, rfl⟩
      exact ⟨c, hc, hk⟩
    · rintro ⟨c, hc, hk⟩
      exact ⟨c, r.repetition, hc, r.config, hk, rfl⟩
  rw [hsteps]
  constructor
  · rintro ⟨c, hc, hk⟩
    obtain ⟨hsep, rfl⟩ := ConfigKey.ofText_eq_ok_iff.1 hk
    obtain ⟨d, hs, hd, hn⟩ := splitRepetition_eq_ok_iff.1 hc
    refine ⟨hsep, d, ?_⟩
    rcases stem_eq_iff.1 hs with ⟨x, hx, hdot⟩ | ⟨hdot, hx⟩
    · exact ⟨'.' :: x, by rw [hx]; simp, hd, hn, .inr ⟨x, rfl, hdot⟩⟩
    · exact ⟨[], hx, hd, hn, .inl ⟨rfl, hdot⟩⟩
  · rintro ⟨hsep, d, e, h⟩
    refine ⟨r.config.text.toList, splitRepetition_eq_ok_iff.2 ⟨d, ?_, h.isDigits, h.value⟩,
      ConfigKey.ofText_text hsep⟩
    rw [stem_eq_iff, h.eq]
    rcases h.ending with ⟨rfl, hdot⟩ | ⟨x, rfl, hdot⟩
    · exact .inr ⟨h.eq ▸ hdot, rfl⟩
    · exact .inl ⟨x, by simp, hdot⟩

/-- **Too few fields.** What has not seven fields names no run, even with an extension behind it. -/
lemma ofName_append_ne_ok {s x : List Char} (hx : '.' ∉ x)
    (hfields : (Text.splitOnPair '_' s).length ≠ 7) (r : Run) :
    ofName (s ++ '.' :: x) ≠ .ok r := by
  intro h
  obtain ⟨hsep, d, e, hspelled⟩ := ofName_eq_ok_iff.1 h
  rcases hspelled.ending with ⟨-, hdot⟩ | ⟨y, rfl, hy⟩
  · simp at hdot
  · have hcut : Text.splitLast? '.' (s ++ '.' :: x) = some (s, x) :=
      Text.splitLast?_eq_some_iff.2 ⟨rfl, hx⟩
    have hcut' : Text.splitLast? '.' (s ++ '.' :: x) =
        some (r.config.text.toList ++ ('(' :: d ++ [')']), y) :=
      Text.splitLast?_eq_some_iff.2 ⟨by rw [hspelled.eq]; simp, hy⟩
    rw [hcut, Option.some.injEq, Prod.mk.injEq] at hcut'
    have hd : '_' ∉ '(' :: d ++ [')'] := by
      simp [hspelled.isDigits.not_mem (c := '_') (by decide)]
    rw [hcut'.1] at hfields
    exact hfields (ConfigKey.length_splitOnPair_text_append hsep hd)

end Run

end BenchTally
