import BenchTally.Proofs.Run.Spelling

set_option autoImplicit false
set_option relaxedAutoImplicit false

/-!
# Writing and reading names

## Main results

* `Run.ofName_text_iff` — which runs are recovered from their written form, with an extension and
  without one.
* `Run.ofName_inverts` — what a name that names a run looks like, and how far two names of one
  configuration or of one run can differ.
-/

namespace BenchTally

/-! ## From a run to its name and back -/

/-- A character that is neither a digit nor an underscore comes into the written form from one of
the texts. -/
lemma ConfigKey.mem_text_iff {k : ConfigKey} {c : Char} (hdigit : c.isDigit = false)
    (hsep : c ≠ '_') : c ∈ k.text.toList ↔ ∃ s ∈ k.texts, c ∈ s.toList := by
  have hnum : ∀ n : UInt32, c ∉ Decimal.writeNat n := fun n => Decimal.not_mem_writeNat hdigit
  simp [ConfigKey.toList_text, ConfigKey.fields, ConfigKey.texts, fieldSeparator,
    List.intercalate, hnum, hsep]

namespace Run

/-- The characters of the written form of a run. -/
lemma toList_text (r : Run) :
    r.text.toList = r.config.text.toList ++ '(' :: Decimal.writeNat r.repetition ++ [')'] := by
  rw [Run.text, String.toList_ofList]

/-- There are dots in the written form of a run exactly if there are dots in the texts of its
configuration. -/
lemma dot_not_mem_text_iff (r : Run) :
    '.' ∉ r.text.toList ↔ ∀ s ∈ r.config.texts, '.' ∉ s.toList := by
  have hnum : '.' ∉ Decimal.writeNat r.repetition := Decimal.not_mem_writeNat (by decide)
  have hconfig := ConfigKey.mem_text_iff (k := r.config) (c := '.') (by decide) (by decide)
  rw [toList_text]
  simp only [List.mem_append, List.mem_cons, hconfig, hnum, List.not_mem_nil]
  simp

/-- The written form with an extension spells the run. -/
lemma spelledBy_text_append (r : Run) {x : List Char} (hx : '.' ∉ x) :
    r.SpelledBy (Decimal.writeNat r.repetition) ('.' :: x) (r.text.toList ++ '.' :: x) where
  eq := by
    rw [toList_text]
    simp
  isDigits := Decimal.isDigits_writeNat _
  value := Decimal.ofDigitChars_writeNat _
  ending := .inr ⟨x, rfl, hx⟩

/-- The written form spells the run if there is no dot in it. -/
lemma spelledBy_text {r : Run} (h : '.' ∉ r.text.toList) :
    r.SpelledBy (Decimal.writeNat r.repetition) [] r.text.toList where
  eq := toList_text r
  isDigits := Decimal.isDigits_writeNat _
  value := Decimal.ofDigitChars_writeNat _
  ending := .inl ⟨rfl, h⟩

/-- If the written form spells the run at all, there is no dot in it.

**Proof sketch.** An extension would start with a dot behind the parentheses, where the written form
has at most digits and a closing parenthesis. -/
lemma dot_not_mem_of_spelledBy_text {r : Run} {d e : List Char}
    (h : r.SpelledBy d e r.text.toList) : '.' ∉ r.text.toList := by
  rcases h.ending with ⟨-, hdot⟩ | ⟨x, rfl, -⟩
  · exact hdot
  · have heq := h.eq
    rw [toList_text, List.append_assoc, List.append_assoc] at heq
    have htail := List.append_cancel_left heq
    have hmem : '.' ∈ '(' :: d ++ ')' :: '.' :: x := by simp
    rw [← htail] at hmem
    have hnum : '.' ∉ Decimal.writeNat r.repetition := Decimal.not_mem_writeNat (by decide)
    simp [hnum] at hmem

/-- **Written forms that are read back.** The written form with the extension `csv` names the run
exactly if no text of its configuration holds two underscores in a row or ends with an underscore;
the written form alone names it exactly if besides there is no dot in the texts.

**Proof sketch.** A name names the runs that it spells (`ofName_eq_ok_iff`). With the extension the
written form always spells the run. Without one it does so exactly if there is no dot in it, and
its dots are those of the texts. -/
theorem ofName_text_iff (r : Run) :
    (ofName (r.text ++ ".csv").toList = .ok r ↔ r.config.Separable) ∧
    (ofName r.text.toList = .ok r ↔
      r.config.Separable ∧ ∀ s ∈ r.config.texts, '.' ∉ s.toList) := by
  constructor
  · rw [ofName_eq_ok_iff, String.toList_append]
    constructor
    · exact And.left
    · exact fun h => ⟨h, _, _, spelledBy_text_append r (x := ['c', 's', 'v']) (by decide)⟩
  · rw [ofName_eq_ok_iff, ← dot_not_mem_text_iff]
    constructor
    · rintro ⟨hsep, d, e, h⟩
      exact ⟨hsep, dot_not_mem_of_spelledBy_text h⟩
    · rintro ⟨hsep, hdot⟩
      exact ⟨hsep, _, _, spelledBy_text hdot⟩

/-! ## From a name to its run and back -/

/-- The digits between the parentheses are the decimal form of the repetition behind zeros. -/
lemma SpelledBy.exists_zeros {r : Run} {d e name : List Char} (h : r.SpelledBy d e name) :
    ∃ z, d = List.replicate z '0' ++ Decimal.writeNat r.repetition := by
  obtain ⟨z, hz⟩ := Decimal.exists_eq_replicate_append h.isDigits
  exact ⟨z, by rw [hz, h.value, Decimal.writeNat]⟩

/-- **What names look like.** A name names a run exactly if it consists of the written form of the
run's configuration, digits in parentheses that denote its repetition, and an extension or nothing,
and the configuration's texts hold no two underscores in a row and end with none. A text that names
a configuration is its written form. Hence two names of one configuration differ at most in the
digits and the ending, and two names of one run at most in leading zeros and the ending. -/
theorem ofName_inverts :
    (∀ (name : List Char) (r : Run), ofName name = .ok r ↔
      r.config.Separable ∧ ∃ d e, r.SpelledBy d e name) ∧
    (∀ (s : String) (k : ConfigKey), ConfigKey.ofText s.toList = .ok k → k.text = s) ∧
    (∀ (name₁ name₂ : List Char) (r₁ r₂ : Run), ofName name₁ = .ok r₁ → ofName name₂ = .ok r₂ →
      r₁.config = r₂.config → ∃ c d₁ d₂ e₁ e₂, Decimal.IsDigits d₁ ∧ Decimal.IsDigits d₂ ∧
        IsEnding e₁ ∧ IsEnding e₂ ∧
        name₁ = c ++ '(' :: d₁ ++ ')' :: e₁ ∧ name₂ = c ++ '(' :: d₂ ++ ')' :: e₂) ∧
    (∀ (name₁ name₂ : List Char) (r : Run), ofName name₁ = .ok r → ofName name₂ = .ok r →
      ∃ c d z₁ z₂ e₁ e₂, IsEnding e₁ ∧ IsEnding e₂ ∧
        name₁ = c ++ '(' :: (List.replicate z₁ '0' ++ d) ++ ')' :: e₁ ∧
        name₂ = c ++ '(' :: (List.replicate z₂ '0' ++ d) ++ ')' :: e₂) := by
  refine ⟨fun name r => ofName_eq_ok_iff, ?_, ?_, ?_⟩
  · intro s k h
    exact String.toList_inj.1 (ConfigKey.eq_text_of_ofText h).2.symm
  · intro name₁ name₂ r₁ r₂ h₁ h₂ hconfig
    obtain ⟨-, d₁, e₁, h₁⟩ := ofName_eq_ok_iff.1 h₁
    obtain ⟨-, d₂, e₂, h₂⟩ := ofName_eq_ok_iff.1 h₂
    exact ⟨r₁.config.text.toList, d₁, d₂, e₁, e₂, h₁.isDigits, h₂.isDigits, h₁.isEnding,
      h₂.isEnding, h₁.eq, by rw [h₂.eq, hconfig]⟩
  · intro name₁ name₂ r h₁ h₂
    obtain ⟨-, d₁, e₁, h₁⟩ := ofName_eq_ok_iff.1 h₁
    obtain ⟨-, d₂, e₂, h₂⟩ := ofName_eq_ok_iff.1 h₂
    obtain ⟨z₁, hz₁⟩ := h₁.exists_zeros
    obtain ⟨z₂, hz₂⟩ := h₂.exists_zeros
    exact ⟨r.config.text.toList, Decimal.writeNat r.repetition, z₁, z₂, e₁, e₂, h₁.isEnding,
      h₂.isEnding, hz₁ ▸ h₁.eq, hz₂ ▸ h₂.eq⟩

/-- Two names of one run, with and without a leading zero and an extension. -/
theorem ofName_inverts_leading_zero :
    ofName "a__1__b__2__c__3__0(07).csv".toList = .ok ⟨⟨"a", 1, "b", 2, "c", 3, 0⟩, 7⟩ ∧
    ofName "a__1__b__2__c__3__0(7)".toList = .ok ⟨⟨"a", 1, "b", 2, "c", 3, 0⟩, 7⟩ ∧
    ∃ c d z₁ z₂ e₁ e₂, IsEnding e₁ ∧ IsEnding e₂ ∧
      "a__1__b__2__c__3__0(07).csv".toList =
        c ++ '(' :: (List.replicate z₁ '0' ++ d) ++ ')' :: e₁ ∧
      "a__1__b__2__c__3__0(7)".toList =
        c ++ '(' :: (List.replicate z₂ '0' ++ d) ++ ')' :: e₂ := by
  have h₁ : ofName "a__1__b__2__c__3__0(07).csv".toList =
      .ok ⟨⟨"a", 1, "b", 2, "c", 3, 0⟩, 7⟩ := by decide
  have h₂ : ofName "a__1__b__2__c__3__0(7)".toList =
      .ok ⟨⟨"a", 1, "b", 2, "c", 3, 0⟩, 7⟩ := by decide
  exact ⟨h₁, h₂, ofName_inverts.2.2.2 _ _ _ h₁ h₂⟩

end Run

end BenchTally
