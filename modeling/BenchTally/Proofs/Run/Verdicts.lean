import BenchTally.Proofs.Run.Spelling
import BenchTally.Proofs.Text.Runs

set_option autoImplicit false
set_option relaxedAutoImplicit false

/-!
# The answer to every name

A name is read in four steps, each of which may find fault with it: a repetition has to end its
stem, be small enough, and follow seven fields, of which four are numbers. What a name is read as is
told by what the name looks like, without the steps.

## Main definitions

* `Run.IsStem` — the stem of a name.
* `Run.EndsWith` — a stem with a repetition at its end.
* `Run.fieldCount` — the number of fields, by the runs of underscores.
* `Run.Answer` — the run of a name, or the first thing that is wrong with the name.

## Main results

* `Run.ofName_answer` — every name is read as its answer, and as nothing else.
-/

namespace BenchTally

/-! ## Numbers -/

/-- The decimal forms of the numbers of 32 bits. -/
def Decimal.IsCanonical (s : List Char) : Prop :=
  ∃ n : UInt32, s = writeNat n

/-- A row of digits is too large if its value does not fit in 32 bits. -/
lemma Decimal.ofDigits?_eq_none_iff {s : List Char} :
    ofDigits? s = none ↔ UInt32.size ≤ Nat.ofDigitChars 10 s 0 := by
  simp [ofDigits?]

/-- What is wrong with a field is that it is no decimal form. -/
lemma readField_eq_error_iff {field : NumberField} {value : List Char} {e : NameError} :
    readField field value = .error e ↔
      e = .invalidNumber field value ∧ ¬ Decimal.IsCanonical value := by
  have hcanonical : Decimal.IsCanonical value ↔ ∃ n, Decimal.ofCanonical? value = some n :=
    exists_congr fun n => Decimal.ofCanonical?_eq_some_iff.symm
  rw [hcanonical, readField]
  cases Decimal.ofCanonical? value <;> simp [eq_comm]

/-! ## Fields -/

namespace ConfigKey

variable {s workload workers storageType partitions storageEngine paths interval : List Char}

/-- The fields that have to be numbers, in the order in which they are read. -/
def numberFields (workers partitions paths interval : List Char) :
    List (NumberField × List Char) :=
  [(.workers, workers), (.partitions, partitions), (.paths, paths), (.interval, interval)]

/-- Other than seven fields are counted. -/
lemma ofText_of_length_ne (h : (Text.splitOnPair '_' s).length ≠ 7) :
    ofText s = .error (.fieldCount (Text.splitOnPair '_' s).length) := by
  unfold ofText
  split
  · rename_i heq
    rw [heq] at h
    exact absurd rfl h
  · rfl

/-- A text of seven fields names a configuration exactly if the numbers among them are decimal
forms. -/
lemma ofText_eq_ok_iff_of_pieces
    (h : Text.HasPieces '_' s
      [workload, workers, storageType, partitions, storageEngine, paths, interval])
    {k : ConfigKey} :
    ofText s = .ok k ↔ workers = Decimal.writeNat k.workers ∧
      partitions = Decimal.writeNat k.partitions ∧ paths = Decimal.writeNat k.paths ∧
      interval = Decimal.writeNat k.interval ∧ k.workload = String.ofList workload ∧
      k.storageType = String.ofList storageType ∧
      k.storageEngine = String.ofList storageEngine := by
  rw [ofText, Text.hasPieces_iff.1 h]
  simp only [Verdict.bind_eq_ok_iff, Verdict.pure_eq_ok_iff, readField_eq_ok_iff]
  constructor
  · rintro ⟨_, rfl, _, rfl, _, rfl, _, rfl, rfl⟩
    simp
  · rintro ⟨rfl, rfl, rfl, rfl, hworkload, htype, hengine⟩
    exact ⟨_, rfl, _, rfl, _, rfl, _, rfl, by rw [← hworkload, ← htype, ← hengine]⟩

/-- What is wrong with a text of seven fields is what is wrong with the first of the numbers that
has a fault. -/
lemma ofText_eq_error_iff_of_pieces
    (h : Text.HasPieces '_' s
      [workload, workers, storageType, partitions, storageEngine, paths, interval])
    {e : NameError} :
    ofText s = .error e ↔ ∃ before field value after,
      numberFields workers partitions paths interval = before ++ (field, value) :: after ∧
      (∀ x ∈ before, Decimal.IsCanonical x.2) ∧ e = .invalidNumber field value ∧
      ¬ Decimal.IsCanonical value := by
  have hread : ofText s = .error e ↔
      ((numberFields workers partitions paths interval).mapM fun x => readField x.1 x.2) =
        .error e := by
    rw [ofText, Text.hasPieces_iff.1 h, numberFields]
    simp only [List.mapM_cons, List.mapM_nil, Verdict.bind_eq_error_iff,
      Verdict.pure_ne_error, or_false, and_false, exists_false]
  simp only [hread, Verdict.mapM_eq_error_iff, readField_eq_ok_iff, readField_eq_error_iff,
    Prod.exists, Decimal.IsCanonical]

end ConfigKey

namespace Run

/-! ## Stems -/

/-- The stem of a name: what stands before its last dot, and the whole name if it has no dot. -/
def IsStem (name s : List Char) : Prop :=
  (∃ x, name = s ++ '.' :: x ∧ '.' ∉ x) ∨ ('.' ∉ name ∧ name = s)

/-- A text with a row of digits in parentheses at its end. -/
structure EndsWith (s config digits : List Char) : Prop where
  /-- The digits stand in the last parentheses, and nothing follows these. -/
  eq : s = config ++ '(' :: digits ++ [')']
  /-- There are digits, and nothing else, between the parentheses. -/
  isDigits : Decimal.IsDigits digits

/-- What digits in parentheses at the end are taken for. -/
lemma EndsWith.splitRepetition_eq {s config digits : List Char} (h : EndsWith s config digits) :
    splitRepetition s =
      match Decimal.ofDigits? digits with
      | some n => .ok (config, n)
      | none => .error (.invalidNumber .repetition digits) := by
  obtain ⟨rfl, hdigits⟩ := h
  have hs : splitParenthesis? (config ++ '(' :: digits ++ [')']) = some (config, digits) :=
    splitParenthesis?_eq_some_iff.2 ⟨rfl, hdigits.not_mem (by decide)⟩
  have hall : ¬ (digits.isEmpty || !digits.all Char.isDigit) := by
    simpa [Decimal.IsDigits] using hdigits
  rw [splitRepetition, hs]
  exact if_neg hall

/-- Without them there is no repetition. -/
lemma splitRepetition_of_not_endsWith {s : List Char}
    (h : ∀ config digits, ¬ EndsWith s config digits) :
    splitRepetition s = .error .missingRepetition := by
  unfold splitRepetition
  split
  · rfl
  · rename_i config digits hs
    rw [if_pos]
    by_contra hdigits
    exact h config digits ⟨(splitParenthesis?_eq_some_iff.1 hs).1, by
      simpa [Decimal.IsDigits] using hdigits⟩

/-! ## Answers -/

/-- The number of fields of a text: one more than there are separators, of which every two
underscores of a run make one. -/
def fieldCount (s : List Char) : Nat :=
  1 + ((Text.runs '_' s).map fun run => run.length / 2).sum

/-- What a name is read as: the run, or the first thing that is wrong. -/
inductive Answer (name : List Char) : Except NameError Run → Prop where
  /-- The stem does not end with digits in parentheses. -/
  | missingRepetition {s : List Char} (hstem : IsStem name s)
      (hend : ∀ config digits, ¬ EndsWith s config digits) :
      Answer name (.error .missingRepetition)
  /-- The digits denote a number of more than 32 bits, leading zeros aside. -/
  | repetitionTooLarge {s config digits : List Char} (hstem : IsStem name s)
      (hend : EndsWith s config digits) (hlarge : 2 ^ 32 ≤ Nat.ofDigitChars 10 digits 0) :
      Answer name (.error (.invalidNumber .repetition digits))
  /-- There are not seven fields before the parentheses. -/
  | fieldCount {s config digits : List Char} (hstem : IsStem name s)
      (hend : EndsWith s config digits) (hsmall : Nat.ofDigitChars 10 digits 0 < 2 ^ 32)
      (hcount : fieldCount config ≠ 7) :
      Answer name (.error (.fieldCount (fieldCount config)))
  /-- A field that has to be a number is none, and those before it are. -/
  | invalidNumber {s config digits workload workers storageType partitions storageEngine paths
        interval value : List Char} {field : NumberField}
      {before after : List (NumberField × List Char)} (hstem : IsStem name s)
      (hend : EndsWith s config digits) (hsmall : Nat.ofDigitChars 10 digits 0 < 2 ^ 32)
      (hpieces : Text.HasPieces '_' config
        [workload, workers, storageType, partitions, storageEngine, paths, interval])
      (hnumbers : ConfigKey.numberFields workers partitions paths interval =
        before ++ (field, value) :: after)
      (hbefore : ∀ x ∈ before, Decimal.IsCanonical x.2) (hvalue : ¬ Decimal.IsCanonical value) :
      Answer name (.error (.invalidNumber field value))
  /-- Nothing is wrong. -/
  | run {s config digits workload workers storageType partitions storageEngine paths
        interval : List Char} {r : Run} (hstem : IsStem name s)
      (hend : EndsWith s config digits)
      (hrepetition : Nat.ofDigitChars 10 digits 0 = r.repetition.toNat)
      (hpieces : Text.HasPieces '_' config
        [workload, workers, storageType, partitions, storageEngine, paths, interval])
      (hworkers : workers = Decimal.writeNat r.config.workers)
      (hpartitions : partitions = Decimal.writeNat r.config.partitions)
      (hpaths : paths = Decimal.writeNat r.config.paths)
      (hinterval : interval = Decimal.writeNat r.config.interval)
      (hworkload : r.config.workload = String.ofList workload)
      (htype : r.config.storageType = String.ofList storageType)
      (hengine : r.config.storageEngine = String.ofList storageEngine) :
      Answer name (.ok r)

/-- The number of fields is the number of pieces. -/
lemma fieldCount_eq (s : List Char) : fieldCount s = (Text.splitOnPair '_' s).length :=
  (Text.length_splitOnPair '_' s).symm

/-- Seven fields have the names of the fields of a configuration. -/
lemma exists_hasPieces_of_fieldCount {s : List Char} (h : fieldCount s = 7) :
    ∃ workload workers storageType partitions storageEngine paths interval,
      Text.HasPieces '_' s
        [workload, workers, storageType, partitions, storageEngine, paths, interval] := by
  rw [fieldCount_eq] at h
  match hpieces : Text.splitOnPair '_' s, h with
  | [_, _, _, _, _, _, _], _ => exact ⟨_, _, _, _, _, _, _, Text.hasPieces_iff.2 hpieces⟩

section Reading

variable {name s config digits : List Char}

/-- What a name is read as, if its repetition is too large. -/
lemma ofName_of_endsWith_large (hstem : IsStem name s) (hend : EndsWith s config digits)
    (hlarge : 2 ^ 32 ≤ Nat.ofDigitChars 10 digits 0) :
    ofName name = .error (.invalidNumber .repetition digits) := by
  rw [ofName, stem_eq_iff.2 hstem, hend.splitRepetition_eq, Decimal.ofDigits?_eq_none_iff.2 hlarge]
  rfl

/-- What a name is read as, if its repetition is small enough. -/
lemma ofName_of_endsWith (hstem : IsStem name s) (hend : EndsWith s config digits) {n : UInt32}
    (hn : Nat.ofDigitChars 10 digits 0 = n.toNat) :
    ofName name = (ConfigKey.ofText config).map fun k => ⟨k, n⟩ := by
  rw [ofName, stem_eq_iff.2 hstem, hend.splitRepetition_eq, Decimal.ofDigits?_eq_some_iff.2 hn]
  change (ConfigKey.ofText config >>= fun k => pure (Run.mk k n)) = _
  cases ConfigKey.ofText config <;> rfl

/-- A number of 32 bits is one. -/
lemma exists_toNat_eq {n : Nat} (h : n < 2 ^ 32) : ∃ k : UInt32, n = k.toNat :=
  ⟨UInt32.ofNat n, (UInt32.toNat_ofNat_of_lt' h).symm⟩

end Reading

/-- A name is read as its answer. -/
lemma answer_ofName (name : List Char) : Answer name (ofName name) := by
  have hstem : IsStem name (stem name) := stem_eq_iff.1 rfl
  by_cases hend : ∃ config digits, EndsWith (stem name) config digits
  · obtain ⟨config, digits, hend⟩ := hend
    rcases Nat.lt_or_ge (Nat.ofDigitChars 10 digits 0) (2 ^ 32) with hsmall | hlarge
    · obtain ⟨n, hn⟩ := exists_toNat_eq hsmall
      rw [ofName_of_endsWith hstem hend hn]
      by_cases hcount : fieldCount config = 7
      · obtain ⟨workload, workers, storageType, partitions, storageEngine, paths, interval,
          hpieces⟩ := exists_hasPieces_of_fieldCount hcount
        cases hconfig : ConfigKey.ofText config with
        | error e =>
          obtain ⟨before, field, value, after, hnumbers, hbefore, rfl, hvalue⟩ :=
            (ConfigKey.ofText_eq_error_iff_of_pieces hpieces).1 hconfig
          exact .invalidNumber hstem hend hsmall hpieces hnumbers hbefore hvalue
        | ok k =>
          obtain ⟨hworkers, hpartitions, hpaths, hinterval, hworkload, htype, hengine⟩ :=
            (ConfigKey.ofText_eq_ok_iff_of_pieces hpieces).1 hconfig
          exact .run hstem hend hn hpieces hworkers hpartitions hpaths hinterval hworkload htype
            hengine
      · rw [ConfigKey.ofText_of_length_ne (by rwa [← fieldCount_eq]), ← fieldCount_eq]
        exact .fieldCount hstem hend hsmall hcount
    · rw [ofName_of_endsWith_large hstem hend hlarge]
      exact .repetitionTooLarge hstem hend hlarge
  · have hnone : ∀ config digits, ¬ EndsWith (stem name) config digits :=
      fun config digits h => hend ⟨config, digits, h⟩
    rw [ofName, splitRepetition_of_not_endsWith hnone]
    exact .missingRepetition hstem hnone

/-- There is one answer to a name. -/
lemma Answer.eq_ofName {name : List Char} {result : Except NameError Run}
    (h : Answer name result) : ofName name = result := by
  cases h with
  | missingRepetition hstem hend =>
    rw [ofName, stem_eq_iff.2 hstem, splitRepetition_of_not_endsWith hend]
    rfl
  | repetitionTooLarge hstem hend hlarge => exact ofName_of_endsWith_large hstem hend hlarge
  | fieldCount hstem hend hsmall hcount =>
    obtain ⟨n, hn⟩ := exists_toNat_eq hsmall
    rw [ofName_of_endsWith hstem hend hn, ConfigKey.ofText_of_length_ne (by rwa [← fieldCount_eq]),
      ← fieldCount_eq]
    rfl
  | invalidNumber hstem hend hsmall hpieces hnumbers hbefore hvalue =>
    obtain ⟨n, hn⟩ := exists_toNat_eq hsmall
    rw [ofName_of_endsWith hstem hend hn, (ConfigKey.ofText_eq_error_iff_of_pieces hpieces).2
      ⟨_, _, _, _, hnumbers, hbefore, rfl, hvalue⟩]
    rfl
  | run hstem hend hrepetition hpieces hworkers hpartitions hpaths hinterval hworkload htype
      hengine =>
    rw [ofName_of_endsWith hstem hend hrepetition,
      (ConfigKey.ofText_eq_ok_iff_of_pieces hpieces).2
        ⟨hworkers, hpartitions, hpaths, hinterval, hworkload, htype, hengine⟩]
    rfl

/-- **The answer to every name.** A name is read as the answer that its looks tell, and as nothing
else: a stem without digits in parentheses at its end lacks the repetition; digits of too large a
value are no repetition; then fields other than seven are counted, the first of the four numbers
among them that is no decimal form is shown, and if there is none, the run is what the name tells.

**Proof sketch.** Whatever a name looks like, one of the five cases applies, and in each of them the
steps of reading are known: the stem, the cut at the parentheses, the number of pieces by the runs
of underscores, and the four numbers one after another. -/
theorem ofName_answer (name : List Char) (result : Except NameError Run) :
    ofName name = result ↔ Answer name result := by
  constructor
  · rintro rfl
    exact answer_ofName name
  · exact Answer.eq_ofName

end Run

end BenchTally
