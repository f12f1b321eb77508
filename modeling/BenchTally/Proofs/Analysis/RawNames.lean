import BenchTally.Proofs.Analysis.Stages
import BenchTally.Proofs.Text.Cut

set_option autoImplicit false
set_option relaxedAutoImplicit false

/-!
# Configurations and the bytes of file names

A file name is any sequence of bytes, and its configuration is what the bytes before the repetition
are read as. Reading puts U+FFFD in place of every ill-formed sequence, so that names which differ
in nothing else are names of one configuration.

## Main definitions

* `Path.configName` — the bytes of a file name before its repetition.
* `Path.NamedFor` — the file names of a configuration.

## Main results

* `filesByConfig_configName` — which files fall under one configuration: no other names than those
  that differ in ill-formed sequences are taken for one.
* `filesByConfig_mergedTree` — two files whose names differ in one byte before the repetition, and
  that fall under one configuration.
-/

namespace BenchTally

/-! ## File names as bytes -/

/-- The bytes of a file name without the extension and without the repetition in parentheses. -/
def Path.configName (p : Path) : Bytes :=
  Text.upToLast 0x28 (Text.upToLast 0x2e p.fileName)

/-- A file name that stands for a repetition of a configuration: its first part is read as the
configuration's name, and digits in parentheses and an extension or nothing follow. -/
structure Path.NamedFor (p : Path) (k : ConfigKey) : Prop where
  /-- The first part names the configuration. -/
  config : ConfigKey.ofText (Text.decodeLossy p.configName) = .ok k
  /-- The rest of the file name. -/
  rest : ∃ d e, Decimal.IsDigits d ∧ (e = [] ∨ ∃ x, e = 0x2e :: x ∧ 0x2e ∉ x) ∧
    p.fileName = p.configName ++ 0x28 :: Text.encode (String.ofList d) ++ 0x29 :: e

lemma Run.stem_eq_upToLast (name : List Char) : Run.stem name = Text.upToLast '.' name := by
  unfold Run.stem Text.upToLast
  cases Text.splitLast? '.' name <;> rfl

/-- The extension may be taken off before reading. -/
lemma Run.stem_decodeLossy (name : Bytes) :
    Run.stem (Text.decodeLossy name) = Text.decodeLossy (Text.upToLast 0x2e name) := by
  rw [Run.stem_eq_upToLast]
  exact Text.upToLast_decodeLossy (x := 0x2e) (by decide) name

/-- **A file name that names a run** stands for a repetition of its configuration.

**Proof sketch.** The dot and the parentheses are ASCII characters, so that the file name may be
cut at their bytes before it is read. What stands between the parenthesis and the extension is read
as digits and a parenthesis; as no ill-formed sequence is read as these, they are its bytes. -/
lemma Path.namedFor_of_runOf {file : Path} {run : Run} (h : runOf file = .ok run) :
    file.NamedFor run.config := by
  simp only [runOf, Run.ofName, Verdict.bind_eq_ok_iff, Verdict.pure_eq_ok_iff, Prod.exists,
    Run.stem_decodeLossy] at h
  obtain ⟨c, n, hsplit, k, hk, rfl⟩ := h
  obtain ⟨d, hd, hdigits, -⟩ := Run.splitRepetition_eq_ok_iff.1 hsplit
  obtain ⟨e, hname, he⟩ := Text.exists_eq_upToLast_append 0x2e file.fileName
  set stem := Text.upToLast 0x2e file.fileName with hstem
  have hcut : Text.splitLast? '(' (Text.decodeLossy stem) = some (c, d ++ [')']) := by
    rw [Text.splitLast?_eq_some_iff, hd]
    exact ⟨by simp, by simp [hdigits.not_mem (c := '(') (by decide)]⟩
  rw [show '(' = Char.ofNat (0x28 : UInt8).toNat from rfl,
    Text.splitLast?_decodeLossy (by decide), Option.map_eq_some_iff] at hcut
  obtain ⟨⟨p, q⟩, hpq, hread⟩ := hcut
  obtain ⟨hp, hq⟩ := Prod.mk.inj hread
  have hconfig : file.configName = p := by
    rw [Path.configName, ← hstem, Text.upToLast, hpq]
  -- No digit and no parenthesis stands for an ill-formed sequence.
  have hrest : Text.encode (String.ofList (d ++ [')'])) = q := by
    refine Text.encode_of_decodeLossy_eq (by rw [String.toList_ofList, hq]) ?_
    simp [hdigits.not_mem (c := '\uFFFD') (by decide)]
  refine ⟨by rw [hconfig, hp, hk], d, e, hdigits, he, ?_⟩
  rw [hname, hconfig, (Text.splitLast?_eq_some_iff.1 hpq).1, ← hrest, String.ofList_append,
    Text.encode_append]
  simp only [List.append_assoc, List.cons_append]
  rfl

/-- What a file name has before the repetition is the written form of the configuration, or it is
not UTF-8 and read as the written form with U+FFFD in it. -/
lemma Path.NamedFor.configName_eq_or {p : Path} {k : ConfigKey} (h : p.NamedFor k) :
    p.configName = Text.encode k.text ∨
      '\uFFFD' ∈ k.text.toList ∧ Text.decode? p.configName = none := by
  have hread : Text.decodeLossy p.configName = k.text.toList :=
    (ConfigKey.eq_text_of_ofText h.config).2
  by_cases hjunk : '\uFFFD' ∈ k.text.toList
  · cases htext : Text.decode? p.configName with
    | none => exact .inr ⟨hjunk, rfl⟩
    | some s =>
      have hbytes := Text.encode_of_decode? htext
      rw [← hbytes, Text.decodeLossy_encode, String.toList_inj] at hread
      exact .inl (by rw [← hbytes, hread])
  · exact .inl (Text.encode_of_decodeLossy_eq hread hjunk).symm

/-! ## Files of one configuration -/

/-- The files of a configuration are among the given ones and are named for it. -/
lemma namedFor_of_mem_filesByConfig {files : List Path}
    {group : ConfigKey × List (ConfigKey × Path)} {file : ConfigKey × Path}
    (hgroup : group ∈ (filesByConfig files).entries)
    (hfile : file ∈ group.2) : file.2 ∈ files ∧ file.2.NamedFor group.1 := by
  obtain ⟨hmem, run, hrun, -, hkey⟩ := exists_runOf_of_mem_filesByConfig hgroup hfile
  rw [hkey]
  exact ⟨hmem, Path.namedFor_of_runOf hrun⟩

/-- **How far file names merge.** The files of a configuration are among the given ones; each is
named by bytes that are read as the configuration, digits in parentheses, and an extension or
nothing. Two files are of one configuration exactly if the bytes before their repetitions are read
as the same. These bytes are then the same, unless those of one of the two files are not UTF-8; the
configuration's name holds U+FFFD in this case.

**Proof sketch.** A configuration without U+FFFD is read from no bytes but its written form, and any
configuration from no other UTF-8 (`Path.NamedFor.configName_eq_or`). A text names one configuration
at most, and there is one group for each. -/
theorem filesByConfig_configName (files : List Path) :
    (∀ group ∈ (filesByConfig files).entries, ∀ file ∈ group.2,
      file.2 ∈ files ∧ file.2.NamedFor group.1) ∧
    (∀ group₁ ∈ (filesByConfig files).entries, ∀ group₂ ∈ (filesByConfig files).entries,
      ∀ file₁ ∈ group₁.2, ∀ file₂ ∈ group₂.2, group₁ = group₂ ↔
        Text.decodeLossy file₁.2.configName = Text.decodeLossy file₂.2.configName) ∧
    ∀ group ∈ (filesByConfig files).entries, ∀ file₁ ∈ group.2, ∀ file₂ ∈ group.2,
      file₁.2.configName = file₂.2.configName ∨
        '\uFFFD' ∈ group.1.text.toList ∧
          (Text.decode? file₁.2.configName = none ∨ Text.decode? file₂.2.configName = none) := by
  refine ⟨fun group hgroup file hfile => namedFor_of_mem_filesByConfig hgroup hfile, ?_, ?_⟩
  · intro group₁ hgroup₁ group₂ hgroup₂ file₁ hfile₁ file₂ hfile₂
    have hconfig₁ := (namedFor_of_mem_filesByConfig hgroup₁ hfile₁).2.config
    have hconfig₂ := (namedFor_of_mem_filesByConfig hgroup₂ hfile₂).2.config
    constructor
    · rintro rfl
      rw [(ConfigKey.eq_text_of_ofText hconfig₁).2, (ConfigKey.eq_text_of_ofText hconfig₂).2]
    · intro hread
      rw [hread, hconfig₂, Except.ok.injEq] at hconfig₁
      have hvalue₁ := Keyed.mem_entries_iff.1 hgroup₁
      have hvalue₂ := Keyed.mem_entries_iff.1 hgroup₂
      rw [← hconfig₁, hvalue₂, Option.some.injEq] at hvalue₁
      exact Prod.ext hconfig₁.symm hvalue₁.symm
  · intro group hgroup file₁ hfile₁ file₂ hfile₂
    rcases (namedFor_of_mem_filesByConfig hgroup hfile₁).2.configName_eq_or with h₁ | ⟨hjunk, h₁⟩
    · rcases (namedFor_of_mem_filesByConfig hgroup hfile₂).2.configName_eq_or with h₂ | ⟨hjunk, h₂⟩
      · exact .inl (h₁.trans h₂.symm)
      · exact .inr ⟨hjunk, .inr h₂⟩
    · exact .inr ⟨hjunk, .inl h₁⟩

/-- Two files of the sample run's configuration; the repetition of the second has a leading zero,
and its name no extension. -/
def repetitionFiles : List Path :=
  [sampleFile, .ofString "in/a__1__b__2__c__3__0(02)"]

/-- The two files fall under one configuration, and their names are the same before the
repetitions. -/
theorem filesByConfig_configName_repetitions :
    ∃ group ∈ (filesByConfig repetitionFiles).entries, ∃ file₁ ∈ group.2, ∃ file₂ ∈ group.2,
      file₁.2 ≠ file₂.2 ∧ file₁.2.configName = file₂.2.configName := by
  have hgroups : (filesByConfig repetitionFiles).entries =
      [(sampleRun.config, repetitionFiles.map fun file => (sampleRun.config, file))] :=
    entries_filesByConfig_of_forall (by decide) (by decide)
  have hgroup : (sampleRun.config, repetitionFiles.map fun file => (sampleRun.config, file)) ∈
      (filesByConfig repetitionFiles).entries := by
    rw [hgroups]
    exact List.mem_singleton_self _
  have hsame := (filesByConfig_configName repetitionFiles).2.2 _ hgroup _ List.mem_cons_self _
    (List.mem_cons_of_mem _ List.mem_cons_self)
  refine ⟨_, hgroup, _, List.mem_cons_self, _, List.mem_cons_of_mem _ List.mem_cons_self,
    by decide, hsame.resolve_right fun h => ?_⟩
  exact absurd h.1 (by decide)

/-! ## Two names that merge -/

/-- A file name with one byte that is open. -/
def mergedName (b : UInt8) : Bytes :=
  Text.encode "a__1__b" ++ b :: Text.encode "__2__c__3__0(1).csv"

/-- Two files whose names are not UTF-8 and differ in one byte. -/
def mergedFiles : List Path :=
  [(Path.ofString "in").join ⟨mergedName 0xfe⟩, (Path.ofString "in").join ⟨mergedName 0xff⟩]

/-- A working directory with an input directory that holds these files. -/
def mergedTree : FileTree :=
  (((FileTree.ofWorkDir (Text.encode "w")).set [Text.encode "w", Text.encode "in"] .dir).set
    [Text.encode "w", Text.encode "in", mergedName 0xfe] (.file (Text.encode sampleContent))).set
    [Text.encode "w", Text.encode "in", mergedName 0xff] (.file (Text.encode sampleContent))

/-- The configuration that both files fall under. -/
def mergedConfig : ConfigKey :=
  ⟨"a", 1, "b\uFFFD", 2, "c", 3, 0⟩

/-- **Different names may merge.** Both files are collected, and they fall under one configuration,
though their names differ before the repetition. -/
theorem filesByConfig_mergedTree :
    listFiles mergedTree sampleSettings = .ok ⟨mergedFiles, []⟩ ∧
    ¬ ∀ group ∈ (filesByConfig mergedFiles).entries, ∀ file₁ ∈ group.2, ∀ file₂ ∈ group.2,
      file₁.2.configName = file₂.2.configName := by
  have hgroups : (filesByConfig mergedFiles).entries =
      [(mergedConfig, mergedFiles.map fun file => (mergedConfig, file))] :=
    entries_filesByConfig_of_forall (by decide) (by decide)
  have hopen : mergedTree.Opens sampleSettings.inputDir [Text.encode "w", Text.encode "in"] :=
    opens_inputDir (by decide) (by decide)
  refine ⟨listFiles_inputDir hopen (by decide) (by decide) (by decide) (by decide), fun hsame => ?_⟩
  rw [hgroups] at hsame
  have heq := hsame _ (List.mem_singleton_self _) _ List.mem_cons_self _
    (List.mem_cons_of_mem _ List.mem_cons_self)
  exact absurd heq (by decide)

end BenchTally
