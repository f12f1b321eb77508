import BenchTally.Output.Sheet
import BenchTally.Proofs.Files.Change
import BenchTally.Proofs.Text.Ascii
import Mathlib.Data.List.Nodup

set_option autoImplicit false
set_option relaxedAutoImplicit false

/-!
# What the writing of sheets changes

## Main definitions

* `Sheet.fileName` — the name of the file of a sheet.
* `HoldsSheets` — a tree in which sheets can be read back.
* `TouchedSheets` — a tree in which nothing was touched but the files of sheets.
* `WroteSheets`, `Wrote` — a tree in which sheets were written, into directories of their own or
  into one directory.
* `SheetOutcome` — what the writing of a sheet can come to.
* `StandApart` — sheets whose files stand apart in all trees with a property.

## Main results

* `wroteSheets_of_standApart` — sheets that stand apart and are all written can be read back, and
  nothing else changes except that directories are added.
* `wroteSheets_append` — the same for sheets that are written in two parts.
* `wrote_of_writeSheets` — so can sheets with different names in one directory.
* `wrote_of_keys` — the same for the sheets of distinct keys.
-/

namespace BenchTally

open FileTree

variable {t t' : FileTree} {out : Path} {sheets : List Sheet}

/-! ## File names -/

/-- A text without slashes that is neither empty nor dots is a name. -/
lemma isName_encode {s : String} (hslash : '/' ∉ s.toList) (hnil : s ≠ "") (hhere : s ≠ ".")
    (hup : s ≠ "..") : IsName (Text.encode s) := by
  refine ⟨?_, ?_, ?_, fun hmem => hslash (Text.mem_of_mem_encode hmem (by decide))⟩
  · have hnone : Text.encode "" = [] := by rfl
    exact hnone ▸ Text.encode_injective.ne hnil
  · have hdot : Text.encode "." = Path.here := by rfl
    exact hdot ▸ Text.encode_injective.ne hhere
  · have hdots : Text.encode ".." = Path.up := by rfl
    exact hdots ▸ Text.encode_injective.ne hup

namespace Sheet

/-- The name of the file of a sheet. -/
def fileName (s : Sheet) : Bytes :=
  Text.encode (s.name ++ ".csv")

lemma path_eq (s : Sheet) (directory : Path) : s.path directory = directory.join ⟨s.fileName⟩ :=
  rfl

lemma isName_fileName {s : Sheet} (h : '/' ∉ s.name.toList) : IsName s.fileName := by
  have hlength : 4 ≤ (s.name ++ ".csv").toList.length := by
    rw [String.toList_append, List.length_append]
    simp
  refine isName_encode ?_ ?_ ?_ ?_
  · rw [String.toList_append, List.mem_append, not_or]
    exact ⟨h, by simp⟩
  · intro heq
    simp [heq] at hlength
  · intro heq
    simp [heq] at hlength
  · intro heq
    simp [heq] at hlength

lemma fileName_inj {s s' : Sheet} : s.fileName = s'.fileName ↔ s.name = s'.name := by
  constructor
  · intro h
    have htexts := Text.encode_injective h
    rw [← String.toList_inj, String.toList_append, String.toList_append] at htexts
    exact String.toList_inj.1 (List.append_cancel_right htexts)
  · intro h
    rw [fileName, h, ← fileName]

/-- The path of a sheet, by its name. -/
lemma path_of_name {s : Sheet} {name : String} (h : s.name = name) (directory : Path) :
    s.path directory = directory.join (.ofString (name ++ ".csv")) := by
  rw [path, h]

/-- Sheets with different names have different paths. -/
lemma path_inj {s s' : Sheet} {directory : Path} (h : '/' ∉ s.name.toList)
    (h' : '/' ∉ s'.name.toList) : s.path directory = s'.path directory ↔ s.name = s'.name := by
  rw [path_eq, path_eq, Path.join_inj (isName_fileName h).slash_not_mem
    (isName_fileName h').slash_not_mem, fileName_inj]

end Sheet

/-! ## The changes -/

/-- The sheets, with their directories, can be read back. -/
def HoldsSheets (t : FileTree) (sheets : List (Path × Sheet)) : Prop :=
  ∀ s ∈ sheets, t.readFile (s.2.path s.1) = .ok s.2.content

/-- A tree in which nothing was touched but the files of sheets: what is no file still stands, each
sheet has a file in its directory, and all other changes are new directories. -/
structure TouchedSheets (t t' : FileTree) (sheets : List (Path × Sheet)) : Prop where
  keepsWays : KeepsWays t t'
  placeOf : ∀ s ∈ sheets, ∃ place, t'.Opens s.1 place ∧
    t'.placeOf (s.2.path s.1) = .ok (place ++ [s.2.fileName])
  others : ∀ x, t'.node? x = t.node? x ∨ (t.node? x = none ∧ t'.node? x = some .dir) ∨
    ∃ s ∈ sheets, t'.placeOf (s.2.path s.1) = .ok x

/-- A tree in which sheets were written: nothing else was touched, and each can be read. -/
structure WroteSheets (t t' : FileTree) (sheets : List (Path × Sheet)) : Prop extends
    TouchedSheets t t' sheets where
  holds : HoldsSheets t' sheets

/-- A tree in which sheets were written into a directory: what is no file still stands, the sheets
are in the directory and can be read, and all other changes are new directories. -/
structure Wrote (t t' : FileTree) (out : Path) (sheets : List Sheet) : Prop where
  keepsWays : KeepsWays t t'
  placeOf : ∀ s ∈ sheets, ∃ place, t'.Opens out place ∧
    t'.placeOf (s.path out) = .ok (place ++ [s.fileName])
  readFile : ∀ s ∈ sheets, t'.readFile (s.path out) = .ok s.content
  others : ∀ x, t'.node? x = t.node? x ∨ (t.node? x = none ∧ t'.node? x = some .dir) ∨
    ∃ s ∈ sheets, t'.placeOf (s.path out) = .ok x

/-- Sheets that were written into one directory. -/
lemma WroteSheets.wrote (h : WroteSheets t t' (sheets.map fun s => (out, s))) :
    Wrote t t' out sheets := by
  have hmem : ∀ {s}, s ∈ sheets → (out, s) ∈ sheets.map fun s => (out, s) :=
    fun hs => List.mem_map_of_mem hs
  refine ⟨h.keepsWays, fun s hs => h.placeOf (out, s) (hmem hs),
    fun s hs => h.holds (out, s) (hmem hs), fun x => (h.others x).imp_right (.imp_right ?_)⟩
  rintro ⟨_, hs', hat⟩
  obtain ⟨s, hs, rfl⟩ := List.mem_map.1 hs'
  exact ⟨s, hs, hat⟩

/-! ## One sheet -/

/-- What the writing of a sheet can come to. -/
inductive SheetOutcome (t : FileTree) (d : Path) (s : Sheet) :
    FileTree × Except WriteError Path → Prop
  /-- The directory cannot be created. -/
  | notCreated : SheetOutcome t d s ((t.makeDirs d).1, .error (.createDirectory d))
  /-- The file cannot be opened. -/
  | notOpened : SheetOutcome t d s ((t.makeDirs d).1, .error (.writeTable (s.path d)))
  /-- The writing breaks off, and something is left of the file. -/
  | brokenOff {left : Bytes} {t' : FileTree} (hleft : t.leftOver? (s.path d) = some left)
      (hwrite : (t.makeDirs d).1.writeFile (s.path d) left = .ok t') :
      SheetOutcome t d s (t', .error (.writeTable (s.path d)))
  /-- The sheet is written. -/
  | written {t' : FileTree} (hleft : t.leftOver? (s.path d) = none)
      (hwrite : (t.makeDirs d).1.writeFile (s.path d) s.content = .ok t') :
      SheetOutcome t d s (t', .ok (s.path d))

lemma sheetOutcome_writeSheet (t : FileTree) (d : Path) (s : Sheet) :
    SheetOutcome t d s (writeSheet t d s) := by
  rcases hmade : t.makeDirs d with ⟨made, e | done⟩
  · simpa only [writeSheet, hmade] using SheetOutcome.notCreated (t := t) (d := d) (s := s)
  have hleft : made.leftOver? (s.path d) = t.leftOver? (s.path d) := by
    rw [← leftOver?_makeDirs t d, hmade]
  rcases hwrite : made.writeFile (s.path d) ((t.leftOver? (s.path d)).getD s.content) with e | t'
  · simpa only [writeSheet, hmade, hleft, hwrite] using
      SheetOutcome.notOpened (t := t) (d := d) (s := s)
  rcases hcase : t.leftOver? (s.path d) with - | left
  · rw [hcase, Option.getD_none] at hwrite
    simpa only [writeSheet, hmade, hleft, hcase, Option.getD_none, hwrite] using
      SheetOutcome.written (d := d) (s := s) hcase (by rw [hmade]; exact hwrite)
  · rw [hcase, Option.getD_some] at hwrite
    simpa only [writeSheet, hmade, hleft, hcase, Option.getD_some, hwrite] using
      SheetOutcome.brokenOff (d := d) (s := s) hcase (by rw [hmade]; exact hwrite)

/-- A sheet is written if its directory and its file can be, and the writing does not break off. -/
lemma writeSheet_of_writeFile {s : Sheet} {made : FileTree}
    (hleft : t.leftOver? (s.path out) = none) (hmade : t.makeDirs out = (made, .ok ()))
    (hwrite : made.writeFile (s.path out) s.content = .ok t') :
    writeSheet t out s = (t', .ok (s.path out)) := by
  have hleft' : made.leftOver? (s.path out) = none := by
    rw [← hleft, ← leftOver?_makeDirs t out, hmade]
  simp only [writeSheet, hmade, hleft', Option.getD_none, hwrite]

/-- A sheet fails if its directory cannot be created. -/
lemma writeSheet_of_makeDirs {s : Sheet} {made : FileTree} {cause : PathError}
    (hmade : t.makeDirs out = (made, .error cause)) :
    writeSheet t out s = (made, .error (.createDirectory out)) := by
  simp only [writeSheet, hmade]

/-- A sheet whose writing breaks off leaves something in its file. -/
lemma writeSheet_of_leftOver? {s : Sheet} {made : FileTree} {left : Bytes}
    (hleft : t.leftOver? (s.path out) = some left) (hmade : t.makeDirs out = (made, .ok ()))
    (hwrite : made.writeFile (s.path out) left = .ok t') :
    writeSheet t out s = (t', .error (.writeTable (s.path out))) := by
  have hleft' : made.leftOver? (s.path out) = some left := by
    rw [← hleft, ← leftOver?_makeDirs t out, hmade]
  simp only [writeSheet, hmade, hleft', Option.getD_some, hwrite]

/-- Whatever becomes of a sheet, writing breaks off as before. -/
@[simp]
lemma leftOver?_writeSheet (t : FileTree) (d : Path) (s : Sheet) :
    (writeSheet t d s).1.leftOver? = t.leftOver? := by
  have hstep := sheetOutcome_writeSheet t d s
  generalize writeSheet t d s = outcome at hstep ⊢
  cases hstep with
  | notCreated => exact leftOver?_makeDirs t d
  | notOpened => exact leftOver?_makeDirs t d
  | brokenOff _ hwrite => rw [leftOver?_of_writeFile hwrite, leftOver?_makeDirs]
  | written _ hwrite => rw [leftOver?_of_writeFile hwrite, leftOver?_makeDirs]

/-- A sheet that is written is written at its path, where the writing does not break off. -/
lemma writeFile_of_writeSheet {s : Sheet} {written : Path}
    (h : writeSheet t out s = (t', .ok written)) :
    written = s.path out ∧ t.leftOver? (s.path out) = none ∧
      (t.makeDirs out).1.writeFile (s.path out) s.content = .ok t' := by
  have hstep := sheetOutcome_writeSheet t out s
  rw [h] at hstep
  cases hstep with
  | written hleft hwrite => exact ⟨rfl, hleft, hwrite⟩

/-- What one step of the writing does. -/
lemma writeSheet_eq_ok {s : Sheet} {written : Path} (hslash : '/' ∉ s.name.toList)
    (hfree : (t.makeDirs out).1.LinkFree out) (h : writeSheet t out s = (t', .ok written)) :
    ∃ place, (t.makeDirs out).1.Opens out place ∧
      (t.makeDirs out).1.node? (place ++ [s.fileName]) ≠ some .dir ∧
      t' = (t.makeDirs out).1.set (place ++ [s.fileName]) (.file s.content) ∧
      IsNameIn out s.fileName := by
  obtain ⟨-, -, hwrite⟩ := writeFile_of_writeSheet h
  exact writeFile_join (Sheet.isName_fileName hslash) hfree hwrite

/-- A written file leaves the directory without links. -/
lemma linkFree_makeDirs_set {made : FileTree} {place : Place} {s : Sheet}
    (hfree : made.LinkFree out) (hopen : made.Opens out place)
    (hkeep : KeepsWays made (made.set (place ++ [s.fileName]) (.file s.content))) :
    ((made.set (place ++ [s.fileName]) (.file s.content)).makeDirs out).1.LinkFree out := by
  have hgain := gainsDirs_makeDirs (made.set (place ++ [s.fileName]) (.file s.content)) out
  intro place' hopen' name target hlink
  have hsame := ((hopen.mono hkeep).mono hgain.keepsWays).unique hopen'
  subst hsame
  have hset := hgain.of_link hlink
  rw [node?_set _ (by simp)] at hset
  split_ifs at hset
  · simp at hset
  · exact hfree place hopen name target hset

/-! ## Several sheets -/

/-- A single sheet is written if its directory and its file can be. -/
lemma failure_writeSheets_singleton {s : Sheet} {made : FileTree}
    (hleft : t.leftOver? (s.path out) = none) (hmade : t.makeDirs out = (made, .ok ()))
    (hwrite : made.writeFile (s.path out) s.content = .ok t') :
    (writeSheets t [(out, s)]).failure = none := by
  simp only [writeSheets, writeSheet_of_writeFile hleft hmade hwrite]

/-- Whatever becomes of sheets, writing breaks off as before. -/
@[simp]
lemma leftOver?_writeSheets (t : FileTree) (sheets : List (Path × Sheet)) :
    (writeSheets t sheets).tree.leftOver? = t.leftOver? := by
  induction sheets generalizing t with
  | nil => rfl
  | cons s sheets ih =>
    obtain ⟨directory, sheet⟩ := s
    have hsame := leftOver?_writeSheet t directory sheet
    rcases hstep : writeSheet t directory sheet with ⟨t₁, e | written⟩
    · simpa only [writeSheets, hstep] using hsame
    · simp only [writeSheets, hstep] at hsame ⊢
      rw [ih, hsame]

/-- Without a failure no writing breaks off. -/
lemma leftOver?_of_failure {sheets : List (Path × Sheet)}
    (h : (writeSheets t sheets).failure = none) :
    ∀ s ∈ sheets, t.leftOver? (s.2.path s.1) = none := by
  induction sheets generalizing t with
  | nil => simp
  | cons s sheets ih =>
    obtain ⟨directory, sheet⟩ := s
    rcases hstep : writeSheet t directory sheet with ⟨t₁, e | written⟩
    · simp [writeSheets, hstep] at h
    simp only [writeSheets, hstep] at h
    have hsame : t₁.leftOver? = t.leftOver? := by
      rw [← leftOver?_writeSheet t directory sheet, hstep]
    rintro s (- | ⟨-, hs⟩)
    · exact (writeFile_of_writeSheet hstep).2.1
    · rw [← hsame]
      exact ih h s hs

/-- Without a failure all sheets are written, in their order. -/
lemma written_of_failure {sheets : List (Path × Sheet)}
    (h : (writeSheets t sheets).failure = none) :
    (writeSheets t sheets).written = sheets.map fun s => s.2.path s.1 := by
  induction sheets generalizing t with
  | nil => rfl
  | cons s sheets ih =>
    obtain ⟨directory, sheet⟩ := s
    rcases hstep : writeSheet t directory sheet with ⟨t₁, e | written⟩
    · simp [writeSheets, hstep] at h
    · simp only [writeSheets, hstep] at h ⊢
      rw [ih h, (writeFile_of_writeSheet hstep).1, List.map_cons]

/-- Sheets in a row are written one part after the other. -/
lemma writeSheets_append {first rest : List (Path × Sheet)}
    (h : (writeSheets t (first ++ rest)).failure = none) :
    (writeSheets t first).failure = none ∧
      (writeSheets (writeSheets t first).tree rest).failure = none ∧
      (writeSheets t (first ++ rest)).tree =
        (writeSheets (writeSheets t first).tree rest).tree := by
  induction first generalizing t with
  | nil => exact ⟨rfl, h, rfl⟩
  | cons s first ih =>
    obtain ⟨directory, sheet⟩ := s
    rcases hstep : writeSheet t directory sheet with ⟨t₁, e | written⟩
    · simp [writeSheets, hstep] at h
    · simp only [List.cons_append, writeSheets, hstep] at h ⊢
      exact ih h

/-- The rest of the writing leaves the file of the first sheet as it is, and changes nothing else
that the first step does not change.

**Proof sketch.** A later change is at an empty place or at the file of a later sheet, which stands
at another place. -/
lemma WroteSheets.cons {later : List (Path × Sheet)} {made : FileTree} {place : Place} {s : Sheet}
    (hgain : GainsDirs t made) (hopen : made.Opens out place)
    (hkeep : KeepsWays made (made.set (place ++ [s.fileName]) (.file s.content)))
    (hname : IsNameIn out s.fileName)
    (hother : ∀ s' ∈ later, ∀ place', t'.Opens s'.1 place' →
      place ++ [s.fileName] ≠ place' ++ [s'.2.fileName])
    (hlater : WroteSheets (made.set (place ++ [s.fileName]) (.file s.content)) t' later) :
    WroteSheets t t' ((out, s) :: later) := by
  set x := place ++ [s.fileName] with hx
  have hset : ∀ y, (made.set x (.file s.content)).node? y =
      if y = x then some (.file s.content) else made.node? y :=
    fun y => node?_set made (by simp [hx]) y _
  have hopen' : t'.Opens out place := (hopen.mono hkeep).mono hlater.keepsWays
  have hfile : t'.node? x = some (.file s.content) := by
    rcases hlater.others x with heq | ⟨hnone, -⟩ | ⟨s', hs', hat⟩
    · rw [heq, hset, if_pos rfl]
    · simp [hset] at hnone
    · obtain ⟨place', hplace', hat'⟩ := hlater.placeOf s' hs'
      rw [hat', Except.ok.injEq] at hat
      exact absurd hat.symm (hother s' hs' place' hplace')
  have hplace := placeOf_join hopen' hname hfile
  refine ⟨⟨⟨?_, fun hy => ?_, fun hy => ?_⟩, fun s' hs' => ?_, fun y => ?_⟩, fun s' hs' => ?_⟩
  · rw [hlater.keepsWays.workDir_eq, hkeep.workDir_eq, hgain.workDir_eq]
  · exact hlater.keepsWays.dir (hkeep.dir (hgain.node? hy))
  · exact hlater.keepsWays.link (hkeep.link (hgain.node? hy))
  · rcases List.mem_cons.1 hs' with rfl | hs'
    · exact ⟨place, hopen', hplace⟩
    · exact hlater.placeOf s' hs'
  · by_cases hy : y = x
    · exact .inr (.inr ⟨(out, s), List.mem_cons_self, hy ▸ hplace⟩)
    rcases hlater.others y with heq | ⟨hnone, hdir⟩ | ⟨s', hs', hat⟩
    · rw [heq, hset, if_neg hy]
      exact (hgain.node?_eq y).imp_right .inl
    · rw [hset, if_neg hy] at hnone
      exact .inr (.inl ⟨hgain.of_none hnone, hdir⟩)
    · exact .inr (.inr ⟨s', List.mem_cons_of_mem _ hs', hat⟩)
  · rcases List.mem_cons.1 hs' with rfl | hs'
    · exact readFile_join hopen' hname hfile
    · exact hlater.holds s' hs'

/-! ## Sheets that stand apart -/

/-- Sheets whose files stand apart in every tree with a property, where the property is one that
the writing of the sheets keeps and that rules out links in their directories. -/
structure StandApart (P : FileTree → Prop) (sheets : List (Path × Sheet)) : Prop where
  slash_not_mem : ∀ s ∈ sheets, '/' ∉ s.2.name.toList
  linkFree : ∀ {t : FileTree}, P t → ∀ s ∈ sheets, (t.makeDirs s.1).1.LinkFree s.1
  step : ∀ {t t' : FileTree} {written : Path}, P t → ∀ s ∈ sheets,
    writeSheet t s.1 s.2 = (t', .ok written) → P t'
  apart : ∀ {t : FileTree}, P t → sheets.Pairwise fun s s' => ∀ place place',
    t.Opens s.1 place → t.Opens s'.1 place' →
      place ++ [s.2.fileName] ≠ place' ++ [s'.2.fileName]

/-- Some of the sheets that stand apart do so too. -/
lemma StandApart.sublist {P : FileTree → Prop} {sheets sheets' : List (Path × Sheet)}
    (h : StandApart P sheets) (hsub : sheets'.Sublist sheets) : StandApart P sheets' where
  slash_not_mem := fun s hs => h.slash_not_mem s (hsub.subset hs)
  linkFree := fun ht s hs => h.linkFree ht s (hsub.subset hs)
  step := fun ht s hs => h.step ht s (hsub.subset hs)
  apart := fun ht => (h.apart ht).sublist hsub

/-- **What a run of the writing changes.** If no sheet fails, and the sheets stand apart, then each
can be read afterwards, and all else that changes is that directories are added.

**Proof sketch.** Induction on the sheets. The directory of a sheet stays where its step found it,
because each step keeps the ways. -/
lemma wroteSheets_of_standApart {P : FileTree → Prop} {sheets : List (Path × Sheet)}
    (h : StandApart P sheets) (ht : P t) (hfailure : (writeSheets t sheets).failure = none) :
    WroteSheets t (writeSheets t sheets).tree sheets ∧ P (writeSheets t sheets).tree := by
  induction sheets generalizing t with
  | nil => exact ⟨⟨⟨⟨rfl, id, id⟩, by simp, fun x => .inl rfl⟩, by simp [HoldsSheets]⟩, ht⟩
  | cons s sheets ih =>
    obtain ⟨d, s⟩ := s
    rcases hstep : writeSheet t d s with ⟨t₁, e | written⟩
    · simp [writeSheets, hstep] at hfailure
    simp only [writeSheets, hstep] at hfailure ⊢
    have hslash := h.slash_not_mem (d, s) List.mem_cons_self
    have hfree := h.linkFree ht (d, s) List.mem_cons_self
    obtain ⟨hwrote, hP⟩ := ih (h.sublist (List.sublist_cons_self _ _))
      (h.step ht (d, s) List.mem_cons_self hstep) hfailure
    obtain ⟨place, hopen, hdir, rfl, hname⟩ := writeSheet_eq_ok hslash hfree hstep
    have hkeep := keepsWays_set_file s.content (by simp) hdir (hfree place hopen s.fileName)
    refine ⟨.cons (gainsDirs_makeDirs t d) hopen hkeep hname
      (fun s' hs' place' hopen' => ?_) hwrote, hP⟩
    exact (List.pairwise_cons.1 (h.apart hP)).1 s' hs' place place'
      ((hopen.mono hkeep).mono hwrote.keepsWays) hopen'

/-- **Sheets that are written in two parts.** If sheets that stand apart are all written, then each
part changes what its own writing changes, and the files of the first part are as before the second
one. -/
lemma wroteSheets_append {P : FileTree → Prop} {first rest : List (Path × Sheet)}
    (h : StandApart P (first ++ rest)) (ht : P t)
    (hfailure : (writeSheets t (first ++ rest)).failure = none) :
    WroteSheets t (writeSheets t first).tree first ∧
      WroteSheets (writeSheets t first).tree (writeSheets t (first ++ rest)).tree rest ∧
      HoldsSheets (writeSheets t (first ++ rest)).tree (first ++ rest) ∧
      P (writeSheets t (first ++ rest)).tree := by
  obtain ⟨hfirst, hrest, htree⟩ := writeSheets_append hfailure
  obtain ⟨hwrote, hP⟩ := wroteSheets_of_standApart
    (h.sublist (List.sublist_append_left _ _)) ht hfirst
  obtain ⟨hwrote', -⟩ := wroteSheets_of_standApart
    (h.sublist (List.sublist_append_right _ _)) hP hrest
  obtain ⟨hall, hP'⟩ := wroteSheets_of_standApart h ht hfailure
  rw [← htree] at hwrote'
  exact ⟨hwrote, hwrote', hall.holds, hP'⟩

/-- Sheets with different names in one directory stand apart. -/
lemma standApart_map (hslash : ∀ s ∈ sheets, '/' ∉ s.name.toList)
    (hnodup : (sheets.map Sheet.name).Nodup) :
    StandApart (fun t => (t.makeDirs out).1.LinkFree out) (sheets.map fun s => (out, s)) where
  slash_not_mem := List.forall_mem_map.2 hslash
  linkFree := fun hfree => List.forall_mem_map.2 fun _ _ => hfree
  step := fun {t t' written} hfree => List.forall_mem_map.2 fun s hs hstep => by
    obtain ⟨place, hopen, hdir, rfl, -, -⟩ := writeSheet_eq_ok (hslash s hs) hfree hstep
    exact linkFree_makeDirs_set hfree hopen
      (keepsWays_set_file s.content (by simp) hdir (hfree place hopen s.fileName))
  apart := fun _ => List.pairwise_map.2 <| (List.pairwise_map.1 hnodup).imp
    fun hne place place' hopen hopen' heq => by
      rw [hopen.unique hopen', List.append_cancel_left_eq, List.cons.injEq] at heq
      exact hne (Sheet.fileName_inj.1 heq.1)

/-- **Sheets in one directory.** If no sheet fails, the sheets have different names, and no link
stands in their directory, then each can be read afterwards, and all else that changes is that
directories are added. -/
lemma wrote_of_writeSheets (hslash : ∀ s ∈ sheets, '/' ∉ s.name.toList)
    (hnodup : (sheets.map Sheet.name).Nodup)
    (hfree : (t.makeDirs out).1.LinkFree out)
    (h : (writeSheets t (sheets.map fun s => (out, s))).failure = none) :
    Wrote t (writeSheets t (sheets.map fun s => (out, s))).tree out sheets :=
  (wroteSheets_of_standApart (standApart_map hslash hnodup) hfree h).1.wrote

/-- **A sheet for each key.** If keys give their sheets different names, the writing of the sheets
of distinct keys writes different files, and changes what the writing of sheets changes. -/
lemma wrote_of_keys {κ : Type} {keys : List κ} {sheet : κ → Sheet} (hkeys : keys.Nodup)
    (hslash : ∀ g ∈ keys, '/' ∉ (sheet g).name.toList)
    (hinj : ∀ g ∈ keys, ∀ g' ∈ keys, (sheet g).name = (sheet g').name → g = g')
    (hfree : (t.makeDirs out).1.LinkFree out)
    (h : (writeSheets t ((keys.map sheet).map fun s => (out, s))).failure = none) :
    (writeSheets t ((keys.map sheet).map fun s => (out, s))).written =
        keys.map (fun g => (sheet g).path out) ∧
      (keys.map fun g => (sheet g).path out).Nodup ∧
      Wrote t (writeSheets t ((keys.map sheet).map fun s => (out, s))).tree out
        (keys.map sheet) := by
  have hnames : ((keys.map sheet).map Sheet.name).Nodup := by
    rw [List.map_map]
    exact hkeys.map_on hinj
  refine ⟨?_, hkeys.map_on fun g hg g' hg' heq => ?_,
    wrote_of_writeSheets (List.forall_mem_map.2 hslash) hnames hfree h⟩
  · rw [written_of_failure h, List.map_map, List.map_map]
    rfl
  · exact hinj g hg g' hg' ((Sheet.path_inj (hslash g hg) (hslash g' hg')).1 heq)

end BenchTally
