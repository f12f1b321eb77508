import BenchTally.Proofs.Files.Contents
import BenchTally.Proofs.Files.Making
import BenchTally.Proofs.Output.Failure

set_option autoImplicit false
set_option relaxedAutoImplicit false

/-!
# What the written files hold

Sheets may be written to one file, by their names or through links, and a sheet may fail. In any
case a file that was written holds one of the sheets afterwards, or what is left of one whose
writing broke off, and no other bytes.

## Main definitions

* `Holds` — what a file can hold that sheets were written to.
* `FilesHold` — what holds of the files of sheets, wherever these are written.

## Main results

* `readFile_writeSheet`, `readFile_of_writeSheet_eq_error` — what one sheet changes.
* `exists_holds_of_mem_written` — every file that was written holds a sheet.
-/

namespace BenchTally

open FileTree

variable {t t' : FileTree} {d file q : Path} {s : Sheet} {e : WriteError}
  {sheets : List (Path × Sheet)}

/-- **One sheet.** Its file holds the sheet, and whatever could be read before is still read or is
that file. -/
lemma readFile_writeSheet (h : t.WellFormed) (hstep : writeSheet t d s = (t', .ok file)) :
    t'.WellFormed ∧ t'.readFile file = .ok s.content ∧
      ∀ {q : Path} {old : Bytes}, t.readFile q = .ok old →
        t'.readFile q = .ok old ∨ t'.readFile q = .ok s.content := by
  obtain ⟨rfl, -, hwrite⟩ := writeFile_of_writeSheet hstep
  obtain ⟨place, hput⟩ := (h.makeDirs d).writeFile hwrite
  exact ⟨hput.wellFormed, hput.readFile, fun hread =>
    hput.readFile_or ((gainsDirs_makeDirs t d).readFile hread)⟩

/-- **One sheet that fails.** Whatever could be read before is still read, or is the file whose
writing broke off. -/
lemma readFile_of_writeSheet_eq_error (h : t.WellFormed)
    (hstep : writeSheet t d s = (t', .error e)) {old : Bytes} (hread : t.readFile q = .ok old) :
    t'.readFile q = .ok old ∨ e = .writeTable (s.path d) ∧
      ∃ left, t.leftOver? (s.path d) = some left ∧ t'.readFile q = .ok left := by
  have hmade := (gainsDirs_makeDirs t d).readFile hread
  have houtcome := sheetOutcome_writeSheet t d s
  rw [hstep] at houtcome
  cases houtcome with
  | notCreated => exact .inl hmade
  | notOpened => exact .inl hmade
  | brokenOff hleft hwrite =>
    obtain ⟨place, hput⟩ := (h.makeDirs d).writeFile hwrite
    exact (hput.readFile_or hmade).imp_right fun hnew => ⟨rfl, _, hleft, hnew⟩

/-! ## Several sheets -/

/-- What a file can hold that sheets were written to: one of them, or what is left of one whose
writing broke off. -/
def Holds (t : FileTree) (sheets : List (Path × Sheet)) (content : Bytes) : Prop :=
  ∃ s ∈ sheets, content = s.2.content ∨
    (writeSheets t sheets).failure = some (.writeTable (s.2.path s.1)) ∧
      t.leftOver? (s.2.path s.1) = some content

/-- What the rest of the sheets gives a file, all sheets give it. -/
lemma Holds.cons {content : Bytes} (hstep : writeSheet t d s = (t', .ok file))
    (h : Holds t' sheets content) : Holds t ((d, s) :: sheets) content := by
  obtain ⟨s', hs', hcontent⟩ := h
  have hsame : t'.leftOver? = t.leftOver? := by rw [← leftOver?_writeSheet t d s, hstep]
  refine ⟨s', List.mem_cons_of_mem _ hs', hcontent.imp_right fun ⟨hfailure, hleft⟩ => ?_⟩
  exact ⟨by simpa only [writeSheets, hstep] using hfailure, hsame ▸ hleft⟩

/-- **The rest of the writing** leaves what can be read as it is, or puts a sheet there. -/
lemma readFile_writeSheets (h : t.WellFormed) {old : Bytes} (hread : t.readFile q = .ok old) :
    (writeSheets t sheets).tree.readFile q = .ok old ∨
      ∃ content, Holds t sheets content ∧ (writeSheets t sheets).tree.readFile q = .ok content := by
  induction sheets generalizing t old with
  | nil => exact .inl hread
  | cons s sheets ih =>
    obtain ⟨d, s⟩ := s
    rcases hstep : writeSheet t d s with ⟨t₁, e | file⟩
    · rcases readFile_of_writeSheet_eq_error h hstep hread with hkept | ⟨rfl, left, hleft, hnew⟩
      · exact .inl (by simpa only [writeSheets, hstep] using hkept)
      · exact .inr ⟨left, ⟨(d, s), List.mem_cons_self, .inr ⟨by simp only [writeSheets, hstep],
          hleft⟩⟩, by simpa only [writeSheets, hstep] using hnew⟩
    · obtain ⟨hformed, -, hothers⟩ := readFile_writeSheet h hstep
      have htree : (writeSheets t ((d, s) :: sheets)).tree = (writeSheets t₁ sheets).tree := by
        simp only [writeSheets, hstep]
      rw [htree]
      rcases hothers hread with hold | hnew
      · rcases ih hformed hold with hkept | ⟨content, hholds, hlater⟩
        · exact .inl hkept
        · exact .inr ⟨content, hholds.cons hstep, hlater⟩
      · rcases ih hformed hnew with hkept | ⟨content, hholds, hlater⟩
        · exact .inr ⟨_, ⟨(d, s), List.mem_cons_self, .inl rfl⟩, hkept⟩
        · exact .inr ⟨content, hholds.cons hstep, hlater⟩

/-- **Every file that was written holds a sheet**, also if another sheet fails; only a sheet that is
written to the same file, through a link or under the same name, and whose writing breaks off, can
leave something else there.

**Proof sketch.** Induction on the sheets. A file holds its own sheet after its step, and the later
steps keep it or put another sheet there. -/
lemma exists_holds_of_mem_written (h : t.WellFormed)
    (hmem : file ∈ (writeSheets t sheets).written) :
    ∃ content, Holds t sheets content ∧
      (writeSheets t sheets).tree.readFile file = .ok content := by
  induction sheets generalizing t with
  | nil => simp [writeSheets] at hmem
  | cons s sheets ih =>
    obtain ⟨d, s⟩ := s
    rcases hstep : writeSheet t d s with ⟨t₁, e | file'⟩
    · simp [writeSheets, hstep] at hmem
    · obtain ⟨hformed, hread, -⟩ := readFile_writeSheet h hstep
      have htree : (writeSheets t ((d, s) :: sheets)).tree = (writeSheets t₁ sheets).tree := by
        simp only [writeSheets, hstep]
      rw [htree]
      simp only [writeSheets, hstep] at hmem
      rcases List.mem_cons.1 hmem with rfl | hmem
      · rcases readFile_writeSheets hformed hread with hkept | ⟨content, hholds, hlater⟩
        · exact ⟨_, ⟨(d, s), List.mem_cons_self, .inl rfl⟩, hkept⟩
        · exact ⟨content, hholds.cons hstep, hlater⟩
      · obtain ⟨content, hholds, hlater⟩ := ih hformed hmem
        exact ⟨content, hholds.cons hstep, hlater⟩

/-- Wherever the sheets are written, each file that was written holds bytes with a property, also
if another sheet fails, unless the writing of a sheet to that file broke off. -/
def FilesHold (sheets : List Sheet) (P : Bytes → Prop) : Prop :=
  ∀ t : FileTree, t.WellFormed → ∀ out : Path,
    ∀ file ∈ (writeSheets t (sheets.map (out, ·))).written, ∃ content,
      (writeSheets t (sheets.map (out, ·))).tree.readFile file = .ok content ∧
        (P content ∨ ∃ s ∈ sheets,
          (writeSheets t (sheets.map (out, ·))).failure = some (.writeTable (s.path out)) ∧
            t.leftOver? (s.path out) = some content)

section FilesHold

variable {sheets : List Sheet} {P : Bytes → Prop}

/-- What holds of the contents of all sheets holds of the files. -/
lemma filesHold_of_forall (h : ∀ s ∈ sheets, P s.content) : FilesHold sheets P := by
  intro t ht out file hfile
  obtain ⟨content, ⟨s', hs', hcontent⟩, hread⟩ := exists_holds_of_mem_written ht hfile
  obtain ⟨s, hs, rfl⟩ := List.mem_map.1 hs'
  rcases hcontent with rfl | hleft
  · exact ⟨s.content, hread, .inl (h s hs)⟩
  · exact ⟨content, hread, .inr ⟨s, hs, hleft⟩⟩

/-- Where no writing breaks off, every file that was written has the property. -/
lemma FilesHold.exists_content (h : FilesHold sheets P) (ht : t.WellFormed)
    (hnone : ∀ p, t.leftOver? p = none) (out : Path) :
    ∀ file ∈ (writeSheets t (sheets.map (out, ·))).written, ∃ content,
      (writeSheets t (sheets.map (out, ·))).tree.readFile file = .ok content ∧ P content := by
  intro file hfile
  obtain ⟨content, hread, hcontent | ⟨s, -, -, hleft⟩⟩ := h t ht out file hfile
  · exact ⟨content, hread, hcontent⟩
  · simp [hnone] at hleft

end FilesHold

/-! ## An empty working directory -/

/-- An empty working directory. -/
def emptyTree : FileTree :=
  ofWorkDir (Text.encode "w")

lemma wellFormed_emptyTree : emptyTree.WellFormed :=
  wellFormed_ofWorkDir (isName_encode (by simp) (by simp) (by simp) (by simp))

/-- A sheet can be written into a directory that is not there yet. -/
lemma written_emptyTree {s : Sheet} (hname : s.name = "a__c") :
    (writeSheets emptyTree [(.ofString "out", s)]).written = [.ofString "out/a__c.csv"] := by
  have hout : IsNameIn ⟨[]⟩ (Text.encode "out") := by decide
  have hfile : IsNameIn (.ofString "out") (Text.encode "a__c.csv") := by decide
  set made := emptyTree.set [Text.encode "w", Text.encode "out"] .dir
  have hmade : emptyTree.makeDirs (.ofString "out") = (made, .ok ()) :=
    (opens_workDir rfl).makeDirs_join hout (by decide)
  have hopen : made.Opens (.ofString "out") [Text.encode "w", Text.encode "out"] :=
    (opens_workDir (by decide)).join hout (by decide)
  have hpath : s.path (.ofString "out") = .ofString "out/a__c.csv" :=
    Sheet.path_of_name hname _
  have hwrite : made.writeFile (s.path (.ofString "out")) s.content =
      .ok (made.set [Text.encode "w", Text.encode "out", Text.encode "a__c.csv"]
        (.file s.content)) := by
    rw [hpath]
    exact hopen.writeFile_join hfile (by decide) _
  rw [written_of_failure (failure_writeSheets_singleton rfl hmade hwrite), List.map_singleton,
    hpath]

end BenchTally
