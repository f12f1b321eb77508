import BenchTally.Proofs.Files.Earlier
import BenchTally.Proofs.Output.Writing
import BenchTally.Proofs.Text.Utf8
import BenchTally.Run.Name

set_option autoImplicit false
set_option relaxedAutoImplicit false

/-!
# How the writing of tables makes a tree grow

## Main definitions

* `Sheet.NamesNoRun` — a sheet whose file is not named like a run.
* `AddsTables` — a tree with more directories, and with other files that are not named like runs.

## Main results

* `addsTables_writeSheets` — the writing of such sheets makes such a tree, wherever it ends.
* `writeSheets_of_growsInto` — sheets that a later tree holds can be written in an earlier one.
-/

namespace BenchTally

open FileTree

variable {t t' t'' : FileTree} {d : Path} {s : Sheet}

/-- The file of a sheet has a name that names no run. -/
structure Sheet.NamesNoRun (s : Sheet) : Prop where
  slash_not_mem : '/' ∉ s.name.toList
  ofName_ne : ∀ r, Run.ofName (s.name ++ ".csv").toList ≠ .ok r

/-- A tree that differs from an earlier one in directories at places that were empty, and in files
that are not named like runs. -/
structure AddsTables (t t' : FileTree) : Prop where
  workDir_eq : t'.workDir = t.workDir
  node?_eq : ∀ x, t'.node? x = t.node? x ∨
    (t.node? x = none ∧ t'.node? x = some .dir) ∨
    ∃ above name c, x = above ++ [name] ∧ IsName name ∧
      (∀ r, Run.ofName (Text.decodeLossy name) ≠ .ok r) ∧
      t.node? x ≠ some .dir ∧ t'.node? x = some (.file c)

namespace AddsTables

lemma refl (t : FileTree) : AddsTables t t :=
  ⟨rfl, fun _ => .inl rfl⟩

lemma of_gainsDirs (h : GainsDirs t t') : AddsTables t t' :=
  ⟨h.workDir_eq, fun x => (h.node?_eq x).imp_right .inl⟩

lemma trans (h : AddsTables t t') (h' : AddsTables t' t'') : AddsTables t t'' := by
  refine ⟨h'.workDir_eq.trans h.workDir_eq, fun x => ?_⟩
  rcases h'.node?_eq x with heq' | ⟨hnone', hdir'⟩ |
    ⟨above, name, c, hx, hname, hrun, hnot', hfile'⟩
  · rw [heq']
    exact h.node?_eq x
  · rcases h.node?_eq x with heq | ⟨-, hdir⟩ | ⟨-, -, c, -, -, -, -, hfile⟩
    · exact .inr (.inl ⟨heq ▸ hnone', hdir'⟩)
    · simp [hdir] at hnone'
    · simp [hfile] at hnone'
  · rcases h.node?_eq x with heq | ⟨-, hdir⟩ | ⟨-, -, -, -, -, -, hnot, -⟩
    · exact .inr (.inr ⟨above, name, c, hx, hname, hrun, heq ▸ hnot', hfile'⟩)
    · exact absurd hdir hnot'
    · exact .inr (.inr ⟨above, name, c, hx, hname, hrun, hnot, hfile'⟩)

lemma noLinks (h : AddsTables t t') (ht : t.NoLinks) : t'.NoLinks := by
  intro x target hlink
  rcases h.node?_eq x with heq | ⟨-, hdir⟩ | ⟨-, -, c, -, -, -, -, hfile⟩
  · exact ht x target (heq ▸ hlink)
  · simp [hdir] at hlink
  · simp [hfile] at hlink

lemma dir (h : AddsTables t t') {x : Place} (hx : t.node? x = some .dir) :
    t'.node? x = some .dir := by
  rcases h.node?_eq x with heq | ⟨hnone, -⟩ | ⟨-, -, -, -, -, -, hnot, -⟩
  · rw [heq, hx]
  · simp [hnone] at hx
  · exact absurd hx hnot

lemma file (h : AddsTables t t') {x : Place} {c : Bytes} (hx : t.node? x = some (.file c)) :
    ∃ c', t'.node? x = some (.file c') := by
  rcases h.node?_eq x with heq | ⟨hnone, -⟩ | ⟨-, -, c', -, -, -, -, hfile⟩
  · exact ⟨c, heq.trans hx⟩
  · simp [hnone] at hx
  · exact ⟨c', hfile⟩

lemma keepsWays (h : AddsTables t t') (ht : t.NoLinks) : KeepsWays t t' :=
  ⟨h.workDir_eq, h.dir, fun hlink => absurd hlink (ht _ _)⟩

/-- A tree without links grows into the tree with more tables. -/
lemma growsInto (h : AddsTables t t') (ht : t.NoLinks) (hformed : t.WellFormed) :
    t.GrowsInto t' :=
  ⟨ht, hformed, h.workDir_eq, h.dir, h.file⟩

/-- The files that are named like runs are the same. -/
lemma node?_of_ofName (h : AddsTables t t') {above : Place} {name : Bytes} {r : Run} {c : Bytes}
    (hrun : Run.ofName (Text.decodeLossy name) = .ok r) :
    t'.node? (above ++ [name]) = some (.file c) ↔ t.node? (above ++ [name]) = some (.file c) := by
  rcases h.node?_eq (above ++ [name]) with heq | ⟨hnone, hdir⟩ |
    ⟨above', name', c', heq, hname, hnot, hdir, hfile⟩
  · rw [heq]
  · simp [hnone, hdir]
  · have hsame : name = name' := (List.cons.inj (List.append_inj' heq rfl).2).1
    exact absurd (hsame ▸ hrun) (hnot r)

end AddsTables

/-! ## Writing -/

lemma Sheet.NamesNoRun.ofName_fileName (h : s.NamesNoRun) (r : Run) :
    Run.ofName (Text.decodeLossy s.fileName) ≠ .ok r := by
  rw [Sheet.fileName, Text.decodeLossy_encode]
  exact h.ofName_ne r

/-- A file of a sheet in its directory is a table at most. -/
lemma addsTables_writeFile {content : Bytes} (ht : t.NoLinks) (hs : s.NamesNoRun)
    (hwrite : t.writeFile (s.path d) content = .ok t') : AddsTables t t' := by
  have hname := Sheet.isName_fileName hs.slash_not_mem
  obtain ⟨place, -, hdir, rfl, -, -⟩ := writeFile_join hname (ht.linkFree d) hwrite
  refine ⟨rfl, fun x => ?_⟩
  rw [node?_set t (by simp)]
  split_ifs with hx
  · exact .inr (.inr ⟨place, s.fileName, content, hx, hname, hs.ofName_fileName, hx ▸ hdir, rfl⟩)
  · exact .inl rfl

/-- One sheet adds a table at most, also if its writing breaks off. -/
lemma addsTables_writeSheet (ht : t.NoLinks) (hs : s.NamesNoRun) :
    AddsTables t (writeSheet t d s).1 := by
  have hmade := AddsTables.of_gainsDirs (gainsDirs_makeDirs t d)
  have hstep := sheetOutcome_writeSheet t d s
  generalize writeSheet t d s = outcome at hstep ⊢
  cases hstep with
  | notCreated => exact hmade
  | notOpened => exact hmade
  | brokenOff _ hwrite => exact hmade.trans (addsTables_writeFile (hmade.noLinks ht) hs hwrite)
  | written _ hwrite => exact hmade.trans (addsTables_writeFile (hmade.noLinks ht) hs hwrite)

/-- **Sheets add tables**, wherever the writing ends. -/
lemma addsTables_writeSheets {sheets : List (Path × Sheet)} (ht : t.NoLinks)
    (hs : ∀ s ∈ sheets, s.2.NamesNoRun) : AddsTables t (writeSheets t sheets).tree := by
  induction sheets generalizing t with
  | nil => exact .refl t
  | cons s sheets ih =>
    obtain ⟨d, s⟩ := s
    have hstep := addsTables_writeSheet (d := d) ht (hs (d, s) List.mem_cons_self)
    rcases hwrite : writeSheet t d s with ⟨t₁, e | written⟩
    · simp only [writeSheets, hwrite]
      rw [hwrite] at hstep
      exact hstep
    · simp only [writeSheets, hwrite]
      rw [hwrite] at hstep
      exact hstep.trans (ih (hstep.noLinks ht) fun s hs' => hs s (List.mem_cons_of_mem _ hs'))

/-! ## Writing in an earlier tree -/

/-- What is seen to be a directory still is where the ways are kept. -/
lemma isDir_mono (hkeep : KeepsWays t t') (h : t.isDir d = true) : t'.isDir d = true := by
  obtain ⟨husable, place, hopen⟩ := opens_of_isDir h
  exact isDir_of_opens (hopen.mono hkeep) husable

/-- A file that can be read in a directory stands there. -/
lemma exists_opens_of_readFile {name c : Bytes} (hname : IsName name) (ht : t.NoLinks)
    (hread : t.readFile (d.join ⟨name⟩) = .ok c) :
    ∃ place, t.Opens d place ∧ t.node? (place ++ [name]) = some (.file c) ∧
      IsNameIn d name := by
  obtain ⟨x, hplace, hfile⟩ := exists_placeOf_of_readFile hread
  obtain ⟨place, hopen, rfl, hnameIn⟩ := exists_opens_of_placeOf hname (ht.linkFree d) hplace
  exact ⟨place, hopen, hfile, hnameIn⟩

/-- A path below which another can be looked up is short enough and has no zero byte. -/
lemma isUsable_of_join {name : Bytes} (hslash : Path.slash ∉ name)
    (h : IsUsable (d.join ⟨name⟩)) : 0 ∉ d.bytes ∧ d.bytes.length ≤ maxPath := by
  have hstarts : d.bytes <+: (d.join ⟨name⟩).bytes := by
    unfold Path.join
    rw [Path.isAbsolute_of_slash_not_mem hslash, if_neg (by decide)]
    split_ifs
    · exact List.prefix_append _ _
    · exact List.prefix_append _ _
  exact ⟨fun hzero => h.zero_not_mem (hstarts.subset hzero),
    Nat.le_trans hstarts.length_le h.length_le⟩

/-- **A sheet that a later tree holds can be written in an earlier one**, if its writing does not
break off there. -/
lemma writeSheet_of_growsInto {c : Bytes} (h : t.GrowsInto t') (h' : t'.NoLinks)
    (hleft : t.leftOver? (s.path d) = none)
    (hslash : '/' ∉ s.name.toList) (hread : t'.readFile (s.path d) = .ok c)
    (hdot : d.EndsInDot → t.isDir d = true) :
    ∃ made, writeSheet t d s = (made, .ok (s.path d)) ∧ made.GrowsInto t' ∧ KeepsWays t made := by
  obtain ⟨place, hopen, hfile, hname⟩ :=
    exists_opens_of_readFile (Sheet.isName_fileName hslash) h' hread
  obtain ⟨hzero, hlong⟩ := isUsable_of_join hname.slash_not_mem hname.isUsable
  obtain ⟨made, hmade, hgrows, hgain, hopen'⟩ := h.makeDirs h' hopen hzero hlong hdot
  have hdir : made.node? (place ++ [s.fileName]) ≠ some .dir := fun hdir => by
    rw [hgrows.dir hdir] at hfile
    simp at hfile
  have hwrite : made.writeFile (s.path d) s.content =
      .ok (made.set (place ++ [s.fileName]) (.file s.content)) := by
    obtain ⟨l, hl⟩ := hopen'.locate_join hname.slash_not_mem hname.isUsable true
    rw [walk_name hname.toIsName (hgrows.noLinks _), if_neg (not_not.2 hopen'.2),
      if_neg (Nat.not_lt.2 hname.length_le)] at hl
    rw [Sheet.path_eq]
    split_ifs at hl
    · simp only [writeFile, hl]
    · simp only [writeFile, hl]
  refine ⟨_, ?_, hgrows.set_file hopen'.2 hname.toIsName hfile, hgain.keepsWays.trans
    (keepsWays_set_file s.content (by simp) hdir (hgrows.noLinks _))⟩
  exact writeSheet_of_writeFile hleft hmade hwrite

/-- **Sheets that a later tree holds can be written in an earlier one**, if no writing breaks off
there, and unless a directory of theirs is missing whose path ends in a dot. -/
lemma writeSheets_of_growsInto {sheets : List (Path × Sheet)} (h : t.GrowsInto t')
    (h' : t'.NoLinks) (hleft : ∀ s ∈ sheets, t.leftOver? (s.2.path s.1) = none)
    (hslash : ∀ s ∈ sheets, '/' ∉ s.2.name.toList)
    (hread : ∀ s ∈ sheets, ∃ c, t'.readFile (s.2.path s.1) = .ok c)
    (hdot : ∀ s ∈ sheets, s.1.EndsInDot → t.isDir s.1 = true) :
    (writeSheets t sheets).failure = none := by
  induction sheets generalizing t with
  | nil => rfl
  | cons s sheets ih =>
    obtain ⟨d, s⟩ := s
    obtain ⟨c, hc⟩ := hread (d, s) List.mem_cons_self
    obtain ⟨made, hmade, hgrows, hkeep⟩ := writeSheet_of_growsInto h h'
      (hleft (d, s) List.mem_cons_self) (hslash (d, s) List.mem_cons_self) hc
      (hdot (d, s) List.mem_cons_self)
    have hsame : made.leftOver? = t.leftOver? := by rw [← leftOver?_writeSheet t d s, hmade]
    simp only [writeSheets, hmade]
    exact ih hgrows (fun s' hs' => hsame ▸ hleft s' (List.mem_cons_of_mem _ hs'))
      (fun s' hs' => hslash s' (List.mem_cons_of_mem _ hs'))
      (fun s' hs' => hread s' (List.mem_cons_of_mem _ hs'))
      fun s' hs' hends => isDir_mono hkeep (hdot s' (List.mem_cons_of_mem _ hs') hends)

end BenchTally
