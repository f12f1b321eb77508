import BenchTally.Proofs.Analysis.Relisting
import BenchTally.Proofs.Analysis.Tables

set_option autoImplicit false
set_option relaxedAutoImplicit false

/-!
# Analyses one after another

The outputs of analyses may stand among their result files, or among those of other analyses. They
are named like no run, so an analysis that comes later reads what it would have read at first.

## Main definitions

* `EarlierRun` — an analysis that ran before, on a disk of its own behaviour.
* `treeAfter` — the tree after analyses one after another.

## Main results

* `addsTables_analyse` — an analysis adds tables, however it ends.
* `harvest_of_addsTables` — a later analysis plans what it would have planned at first.
* `analyse_rerun` — a later analysis writes and counts what it would have at first.
-/

namespace BenchTally

open FileTree

/-- An analysis that ran before: its settings, its kind, and where writing broke off meanwhile. -/
structure EarlierRun where
  /-- The settings. -/
  settings : Settings
  /-- What was analysed. -/
  variant : Variant
  /-- What was left in the file at a path, if the writing of it broke off. -/
  leftOver? : Path → Option Bytes

variable {tree : FileTree} {settings : Settings} {variant : Variant} {report : Report}
  {runs : List EarlierRun}

/-- The tree that an earlier analysis starts from. -/
def EarlierRun.treeBefore (run : EarlierRun) (tree : FileTree) : FileTree :=
  { tree with leftOver? := run.leftOver? }

/-- The tree after an earlier analysis, however it ended. Writing breaks off afterwards as it did
before. -/
def EarlierRun.treeAfter (run : EarlierRun) (tree : FileTree) : FileTree :=
  { (analyse (run.treeBefore tree) run.settings run.variant).tree with
    leftOver? := tree.leftOver? }

/-- The tree after analyses one after another, however each ended. -/
def treeAfter (tree : FileTree) (runs : List EarlierRun) : FileTree :=
  runs.foldl (fun tree run => run.treeAfter tree) tree

@[simp]
lemma treeAfter_cons (tree : FileTree) (run : EarlierRun) (runs : List EarlierRun) :
    treeAfter tree (run :: runs) = treeAfter (run.treeAfter tree) runs := rfl

/-- Writing breaks off as before, however earlier analyses ended. -/
@[simp]
lemma leftOver?_treeAfter (tree : FileTree) (runs : List EarlierRun) :
    (treeAfter tree runs).leftOver? = tree.leftOver? := by
  induction runs generalizing tree with
  | nil => rfl
  | cons run runs ih =>
    rw [treeAfter_cons, ih]
    rfl

/-! ## Analyses add tables -/

/-- The tables of a configuration that a file name spells are named like no run. -/
lemma Variant.namesNoRun {k : ConfigKey} {s : Sheet} (hk : k.OfFileName)
    (hname : s.name = variant.groupName k) : s.NamesNoRun := by
  constructor
  · rw [hname]
    exact slash_not_mem_groupName hk
  · rw [hname]
    cases variant with
    | throughput | metrics => exact hk.separable.ofName_outputKey_text
    | timeline => exact hk.separable.ofName_chartKey_text

/-- **An analysis adds tables**, however it ends. -/
lemma addsTables_analyse (ht : tree.NoLinks) (settings : Settings) (variant : Variant) :
    AddsTables tree (analyse tree settings variant).tree := by
  have hsheets : ∀ files, AddsTables tree
      (writeSheets tree (harvest tree variant settings.outputDir files).plan.sheets).tree := by
    intro files
    refine addsTables_writeSheets ht fun s hs => ?_
    obtain ⟨-, k, hk, hname⟩ := (tables_harvest variant tree settings.outputDir files).named s hs
    exact Variant.namesNoRun hk hname
  unfold analyse
  split
  · exact .refl tree
  · rename_i listing hlisting
    dsimp only
    split
    · exact .refl tree
    · unfold conclude
      dsimp only
      split
      · exact hsheets listing.files
      · exact hsheets listing.files

/-- An earlier analysis added tables, however it ended. -/
lemma EarlierRun.addsTables (ht : tree.NoLinks) (run : EarlierRun) :
    AddsTables tree (run.treeAfter tree) := by
  have ht' : (run.treeBefore tree).NoLinks := ht
  have hstep := addsTables_analyse ht' run.settings run.variant
  exact ⟨hstep.workDir_eq, hstep.node?_eq⟩

/-- **Analyses one after another add tables.** -/
lemma addsTables_treeAfter (ht : tree.NoLinks) (runs : List EarlierRun) :
    AddsTables tree (treeAfter tree runs) := by
  induction runs generalizing tree with
  | nil => exact .refl tree
  | cons run runs ih =>
    have hstep := run.addsTables ht
    exact hstep.trans (ih (hstep.noLinks ht))

/-! ## Analyses of nothing -/

/-- The tree that an earlier analysis starts from has the directories of the tree before it. -/
lemma isDir_treeBefore {input : Path} (run : EarlierRun) (hdir : tree.isDir input = false) :
    (run.treeBefore tree).isDir input = false := by
  have hkeep : KeepsWays (run.treeBefore tree) tree := ⟨rfl, id, id⟩
  by_contra htrue
  simp [isDir_mono hkeep (Bool.eq_true_of_not_eq_false htrue)] at hdir

/-- Without their input directory analyses one after another change nothing. -/
lemma treeAfter_of_not_isDir {input : Path} (hinput : ∀ run ∈ runs, run.settings.inputDir = input)
    (hdir : tree.isDir input = false) : treeAfter tree runs = tree := by
  induction runs with
  | nil => rfl
  | cons run runs ih =>
    have hrun : (run.treeBefore tree).isDir run.settings.inputDir = false :=
      hinput run List.mem_cons_self ▸ isDir_treeBefore run hdir
    have hsame : run.treeAfter tree = tree := by
      rw [EarlierRun.treeAfter, analyse_of_not_isDir hrun, EarlierRun.treeBefore]
    rw [treeAfter_cons, hsame]
    exact ih fun run' hrun' => hinput run' (List.mem_cons_of_mem _ hrun')

/-- An analysis that succeeds after others has had its input directory from the start. -/
lemma isDir_of_report (hinput : ∀ run ∈ runs, run.settings.inputDir = settings.inputDir)
    (h : (analyse (treeAfter tree runs) settings variant).result = .ok report) :
    tree.isDir settings.inputDir = true := by
  by_contra hdir
  have hdir := Bool.eq_false_of_not_eq_true hdir
  rw [treeAfter_of_not_isDir hinput hdir, analyse_of_not_isDir hdir] at h
  simp at h

/-! ## Reruns -/

section Plans

variable {t' : FileTree} {listing listing' : Listing} {first : Report}

/-- **A later analysis plans what it would have planned at first.** -/
lemma harvest_of_addsTables (variant : Variant) (hadds : AddsTables tree t') (ht : tree.NoLinks)
    (hformed : tree.WellFormed) (hlisting : listFiles tree settings = .ok listing)
    (hlisting' : listFiles t' settings = .ok listing') :
    (harvest t' variant settings.outputDir listing'.files).plan =
        (harvest tree variant settings.outputDir listing.files).plan ∧
      (harvest t' variant settings.outputDir listing'.files).used =
        (harvest tree variant settings.outputDir listing.files).used := by
  obtain ⟨-, place, hopen⟩ := opens_of_isDir (isDir_of_listFiles hlisting)
  exact harvest_congr settings.outputDir
    (usableFiles_of_addsTables hadds ht hformed hopen variant hlisting hlisting')

/-- **What could be written later can be written at first**: the tables are there in the end, in a
tree that has all that there is at the start. -/
lemma exists_report_of_later (hadds : AddsTables tree t') (ht : tree.NoLinks)
    (hsame : t'.leftOver? = tree.leftOver?) (hformed : tree.WellFormed)
    (hlenient : settings.strict = false)
    (hlisting : listFiles tree settings = .ok listing)
    (hreport : (analyse t' settings variant).result = .ok report)
    (hdot : report.written ≠ [] →
      ∀ d ∈ variant.sheetDirs settings.outputDir, d.EndsInDot → tree.isDir d = true) :
    ∃ first, (analyse tree settings variant).result = .ok first := by
  have ht' := hadds.noLinks ht
  have hadds' := addsTables_analyse ht' settings variant
  obtain ⟨listing', sheets, hlisting', hsheets, htables, hwritten, hheld⟩ := analyse_tables hreport
  obtain ⟨listing₁, hlisting₁, planned, hplanned, hfailure, -⟩ := analyse_eq_ok hreport
  obtain rfl : listing' = listing₁ := Except.ok.inj (hlisting'.symm.trans hlisting₁)
  obtain rfl : sheets = planned := hsheets.symm.trans hplanned
  obtain ⟨hplan, -⟩ := harvest_of_addsTables variant hadds ht hformed hlisting hlisting'
  have hread : HoldsSheets (analyse t' settings variant).tree sheets :=
    hheld fun d _ => linkFreeBelow_makeDirs ht'
  refine exists_report hlisting hlenient ?_
  rw [← hplan, hsheets]
  refine writeSheets_of_growsInto ((hadds.trans hadds').growsInto ht hformed) (hadds'.noLinks ht')
    (hsame ▸ leftOver?_of_failure hfailure) htables.slash_not_mem (fun s hs => ⟨_, hread s hs⟩)
    fun s hs => ?_
  refine hdot ?_ s.1 (htables.named s hs).1
  rw [hwritten]
  exact List.ne_nil_of_mem (List.mem_map_of_mem hs)

/-- **The same plan gives the same outputs and the same counts**, in trees without links. -/
lemma reports_agree (ht : tree.NoLinks) (ht' : t'.NoLinks) (hlenient : settings.strict = false)
    (hlisting : listFiles tree settings = .ok listing)
    (hlisting' : listFiles t' settings = .ok listing')
    (hplan : (harvest t' variant settings.outputDir listing'.files).plan =
      (harvest tree variant settings.outputDir listing.files).plan)
    (hused : (harvest t' variant settings.outputDir listing'.files).used =
      (harvest tree variant settings.outputDir listing.files).used)
    (hfirst : (analyse tree settings variant).result = .ok first)
    (hreport : (analyse t' settings variant).result = .ok report) :
    report.written = first.written ∧ report.used = first.used ∧
      report.configurations = first.configurations ∧
      ∀ file ∈ report.written, ∃ content,
        (analyse t' settings variant).tree.readFile file = .ok content ∧
        (analyse tree settings variant).tree.readFile file = .ok content := by
  obtain ⟨listing₁, sheets, hlisting₁, hsheets, -, hwritten, hheld⟩ := analyse_tables hfirst
  obtain ⟨listing₂, sheets', hlisting₂, hsheets', -, hwritten', hheld'⟩ := analyse_tables hreport
  obtain rfl : listing₁ = listing := Except.ok.inj (hlisting₁.symm.trans hlisting)
  obtain rfl : listing₂ = listing' := Except.ok.inj (hlisting₂.symm.trans hlisting')
  obtain rfl : sheets' = sheets := by rw [← hsheets', hplan, hsheets]
  obtain ⟨-, hcount, -, hconfigs⟩ := counts_analyse_lenient hlenient hlisting hfirst
  obtain ⟨-, hcount', -, hconfigs'⟩ := counts_analyse_lenient hlenient hlisting' hreport
  refine ⟨by rw [hwritten', hwritten], by rw [hcount', hcount, hused],
    by rw [hconfigs', hconfigs, hplan], fun file hfile => ?_⟩
  rw [hwritten'] at hfile
  obtain ⟨s, hs, rfl⟩ := List.mem_map.1 hfile
  exact ⟨s.2.content, hheld' (fun d _ => linkFreeBelow_makeDirs ht') s hs,
    hheld (fun d _ => linkFreeBelow_makeDirs ht) s hs⟩

end Plans

/-- **A later analysis could have come first.** No table of a configuration that a text names is
named like a run. Hence in a tree without links a lenient analysis that succeeds after others of
the same input directory, whatever their kinds, patterns and output directories, however they end
and wherever their writing breaks off, succeeds at first as well: it writes the same paths, with the
same contents, and counts the same used files and configurations. Only a missing output directory
must not be asked for by a path that ends in a dot, if there is something to write.

**Proof sketch.** The tables that others write are no usable files, and no usable file is
overwritten by one; so the same is planned. All that is written stands in the end in a tree that has
all that there was at the start, so that nothing that there was is in the way. -/
theorem analyse_rerun :
    (∀ (s : List Char) (k : ConfigKey), ConfigKey.ofText s = .ok k → ∀ r : Run,
      Run.ofName (k.outputKey.text ++ ".csv").toList ≠ .ok r ∧
      Run.ofName (k.chartKey.text ++ ".csv").toList ≠ .ok r) ∧
    ∀ (tree : FileTree) (runs : List EarlierRun) (settings : Settings)
      (variant : Variant) (report : Report),
      tree.NoLinks → tree.WellFormed →
      (∀ run ∈ runs, run.settings.inputDir = settings.inputDir) → settings.strict = false →
      (analyse (treeAfter tree runs) settings variant).result = .ok report →
      (report.written ≠ [] →
        ∀ d ∈ variant.sheetDirs settings.outputDir, d.EndsInDot → tree.isDir d = true) →
      ∃ first, (analyse tree settings variant).result = .ok first ∧
        report.written = first.written ∧ report.used = first.used ∧
        report.configurations = first.configurations ∧
        ∀ file ∈ report.written, ∃ content,
          (analyse (treeAfter tree runs) settings variant).tree.readFile file = .ok content ∧
          (analyse tree settings variant).tree.readFile file = .ok content := by
  constructor
  · intro s k hk r
    obtain ⟨hseparable, -⟩ := ConfigKey.eq_text_of_ofText hk
    exact ⟨hseparable.ofName_outputKey_text r, hseparable.ofName_chartKey_text r⟩
  · intro tree runs settings variant report ht hformed hinput hlenient hreport hdot
    have hadds := addsTables_treeAfter ht runs
    obtain ⟨listing, hlisting⟩ := exists_listing (isDir_of_report hinput hreport)
    obtain ⟨listing', -, hlisting', -⟩ := analyse_tables hreport
    obtain ⟨hplan, hused⟩ := harvest_of_addsTables variant hadds ht hformed hlisting hlisting'
    obtain ⟨first, hfirst⟩ :=
      exists_report_of_later hadds ht (leftOver?_treeAfter tree runs) hformed hlenient hlisting
        hreport hdot
    exact ⟨first, hfirst, reports_agree ht (hadds.noLinks ht) hlenient hlisting hlisting' hplan
      hused hfirst hreport⟩

/-! ## The tree with one result file -/

/-- Settings that find the result file and write to the given directory. -/
def settingsTo (out : Path) : Settings :=
  { sampleSettings with outputDir := out }

section Sample

variable {t' made : FileTree} {out : Path} {x : Place}

/-- The analysis of a tree with more tables succeeds if its one table can be written. -/
lemma exists_report_of_addsTables (hadds : AddsTables sampleTree t')
    (hleft : t'.leftOver? (out.join (.ofString "a__c.csv")) = none)
    (hmade : t'.makeDirs out = (made, .ok ()))
    (hwrite : ∀ content, made.writeFile (out.join (.ofString "a__c.csv")) content =
      .ok (made.set x (.file content))) :
    ∃ report content, (analyse t' (settingsTo out) .throughput).result = .ok report ∧
      (analyse t' (settingsTo out) .throughput).tree = made.set x (.file content) := by
  obtain ⟨s, hname, hsheets⟩ := sheets_sampleTree
  have hlisting : listFiles sampleTree (settingsTo out) = .ok ⟨[sampleFile], []⟩ :=
    listFiles_sampleTree
  obtain ⟨listing', hlisting'⟩ := exists_listing
    (isDir_mono (hadds.keepsWays noLinks_sampleTree) (isDir_of_listFiles hlisting))
  obtain ⟨hplan, -⟩ := harvest_of_addsTables .throughput hadds noLinks_sampleTree
    wellFormed_sampleTree hlisting hlisting'
  have hsheets' : (harvest t' .throughput (settingsTo out).outputDir listing'.files).plan.sheets =
      [(out, s)] := by
    rw [hplan]
    exact hsheets out
  have hwriting : writeSheets t' [(out, s)] =
      ⟨made.set x (.file s.content), [s.path out], none⟩ := by
    have hpath : s.path out = out.join (.ofString "a__c.csv") :=
      Sheet.path_of_name hname _
    have hstep := writeSheet_of_writeFile (hpath ▸ hleft) hmade (hpath ▸ hwrite s.content)
    rw [writeSheets, hstep, hpath]
    rfl
  have hreports : ∃ report, (analyse t' (settingsTo out) .throughput).result = .ok report :=
    exists_report hlisting' rfl (by rw [hsheets', hwriting])
  obtain ⟨report, hreport⟩ := hreports
  obtain ⟨listing₁, hlisting₁, sheets, hplanned, -, -, htree⟩ := analyse_eq_ok hreport
  obtain rfl : listing₁ = listing' := Except.ok.inj (hlisting₁.symm.trans hlisting')
  refine ⟨report, s.content, hreport, ?_⟩
  rw [htree, ← hplanned, hsheets', hwriting]

end Sample

/-- The sample tree after one analysis whose writing does not break off. -/
lemma treeAfter_sampleTree_singleton {t' : FileTree} {settings : Settings} {variant : Variant}
    (htree : (analyse sampleTree settings variant).tree = t')
    (hleft : t'.leftOver? = fun _ => none) :
    treeAfter sampleTree [⟨settings, variant, fun _ => none⟩] = t' := by
  have hafter : treeAfter sampleTree [⟨settings, variant, fun _ => none⟩] =
      { (analyse sampleTree settings variant).tree with leftOver? := fun _ => none } := rfl
  rw [hafter, htree, ← hleft]

/-- The sample tree after an analysis that writes into the directory of the result file. -/
lemma treeAfter_sampleTree : ∃ content,
    treeAfter sampleTree [⟨settingsTo (.ofString "in"), .throughput, fun _ => none⟩] =
      sampleTree.set [Text.encode "w", Text.encode "in", Text.encode "a__c.csv"]
        (.file content) := by
  have hcsv : FileTree.IsNameIn (.ofString "in") (Text.encode "a__c.csv") := by decide
  have hmade : sampleTree.makeDirs (.ofString "in") = (sampleTree, .ok ()) :=
    opens_sampleTree.makeDirs (by decide)
  have hwrite : ∀ content, sampleTree.writeFile ((Path.ofString "in").join (.ofString "a__c.csv"))
      content = .ok (sampleTree.set [Text.encode "w", Text.encode "in", Text.encode "a__c.csv"]
        (.file content)) :=
    opens_sampleTree.writeFile_join hcsv (by decide)
  obtain ⟨-, content, -, htree⟩ := exists_report_of_addsTables (.refl sampleTree) rfl hmade hwrite
  exact ⟨content, treeAfter_sampleTree_singleton htree rfl⟩

/-- A configuration with a storage engine that ends like a repetition has tables that are named
like no run; and a table next to the result file does not matter to the next analysis. -/
theorem analyse_rerun_sampleTree :
    ConfigKey.ofText "a__1__b__2__x(1)__3__0".toList = .ok ⟨"a", 1, "b", 2, "x(1)", 3, 0⟩ ∧
    (∀ r : Run, Run.ofName "a__x(1).csv".toList ≠ .ok r) ∧
    ∃ report first,
      (analyse (treeAfter sampleTree [⟨settingsTo (.ofString "in"), .throughput, fun _ => none⟩])
        (settingsTo (.ofString "in")) .throughput).result = .ok report ∧
      (analyse sampleTree (settingsTo (.ofString "in")) .throughput).result = .ok first ∧
      report.written = first.written := by
  have hkey : ConfigKey.ofText "a__1__b__2__x(1)__3__0".toList =
      .ok ⟨"a", 1, "b", 2, "x(1)", 3, 0⟩ := by decide
  have hcsv : FileTree.IsNameIn (.ofString "in") (Text.encode "a__c.csv") := by decide
  set after := treeAfter sampleTree
    [⟨settingsTo (.ofString "in"), .throughput, fun _ => none⟩] with hafter
  have hadds : AddsTables sampleTree after := addsTables_treeAfter noLinks_sampleTree _
  obtain ⟨table, htree⟩ := treeAfter_sampleTree
  rw [← hafter] at htree
  have hleft : after.leftOver? ((Path.ofString "in").join (.ofString "a__c.csv")) = none := by
    rw [hafter, leftOver?_treeAfter]
    rfl
  have hopen : after.Opens (.ofString "in") [Text.encode "w", Text.encode "in"] := by
    rw [htree]
    exact opens_inputDir rfl rfl
  have hmade : after.makeDirs (.ofString "in") = (after, .ok ()) := hopen.makeDirs (by decide)
  have hwrite : ∀ content, after.writeFile ((Path.ofString "in").join (.ofString "a__c.csv"))
      content = .ok (after.set [Text.encode "w", Text.encode "in", Text.encode "a__c.csv"]
        (.file content)) :=
    hopen.writeFile_join_of_file hcsv (by rw [htree]; rfl)
  obtain ⟨report, -, hreport, -⟩ := exists_report_of_addsTables hadds hleft hmade hwrite
  obtain ⟨first, hfirst, hwritten, -⟩ := analyse_rerun.2 sampleTree
    [⟨settingsTo (.ofString "in"), .throughput, fun _ => none⟩] (settingsTo (.ofString "in"))
    .throughput report noLinks_sampleTree wellFormed_sampleTree (by simp) rfl hreport
    fun _ d hd _ => by
      rw [List.mem_singleton.1 hd]
      exact FileTree.isDir_of_opens opens_sampleTree (by decide)
  exact ⟨hkey, fun r => (analyse_rerun.1 _ _ hkey r).1, report, first, hreport, hfirst, hwritten⟩

/-- Settings that write to a directory with a path that ends in a dot. -/
def dotSettings : Settings := settingsTo (.ofString "out/.")

/-- **A missing directory cannot be asked for by a path that ends in a dot**: such an analysis
fails at first, and succeeds after another has made the directory. -/
theorem analyse_rerun_dot :
    sampleTree.NoLinks ∧ sampleTree.WellFormed ∧
      dotSettings.inputDir = sampleSettings.inputDir ∧ sampleSettings.strict = false ∧
      dotSettings.strict = false ∧
      (∃ report, (analyse (treeAfter sampleTree [⟨sampleSettings, .throughput, fun _ => none⟩])
        dotSettings .throughput).result = .ok report) ∧
      (analyse sampleTree dotSettings .throughput).result =
        .error (.write (.createDirectory (.ofString "out/."))) := by
  refine ⟨noLinks_sampleTree, wellFormed_sampleTree, rfl, rfl, rfl, ?_, ?_⟩
  · have hcsv : FileTree.IsNameIn (.ofString "out/.") (Text.encode "a__c.csv") := by decide
    have hwrite : ∀ content,
        sampleOutput.writeFile (sampleSettings.outputDir.join (.ofString "a__c.csv")) content =
          .ok (sampleOutput.set [Text.encode "w", Text.encode "out", Text.encode "a__c.csv"]
            (.file content)) :=
      opens_sampleOutput.writeFile_join isNameIn_sampleTable (by decide)
    obtain ⟨-, table, -, htree⟩ :=
      exists_report_of_addsTables (.refl sampleTree) rfl makeDirs_sampleTree hwrite
    set after := treeAfter sampleTree [⟨sampleSettings, .throughput, fun _ => none⟩]
    have hadds : AddsTables sampleTree after := addsTables_treeAfter noLinks_sampleTree _
    have hafter : after = sampleOutput.set
        [Text.encode "w", Text.encode "out", Text.encode "a__c.csv"] (.file table) :=
      treeAfter_sampleTree_singleton htree rfl
    have hleft : after.leftOver? ((Path.ofString "out/.").join (.ofString "a__c.csv")) = none := by
      rw [hafter]
      rfl
    have hopen : after.Opens (.ofString "out/.") [Text.encode "w", Text.encode "out"] := by
      rw [hafter]
      exact (opens_outputDir rfl rfl).join_here
    have hmade : after.makeDirs (.ofString "out/.") = (after, .ok ()) := hopen.makeDirs (by decide)
    have hwrite' : ∀ content,
        after.writeFile ((Path.ofString "out/.").join (.ofString "a__c.csv")) content =
          .ok (after.set [Text.encode "w", Text.encode "out", Text.encode "a__c.csv"]
            (.file content)) :=
      hopen.writeFile_join_of_file hcsv (by rw [hafter]; rfl)
    obtain ⟨report, -, hreport, -⟩ := exists_report_of_addsTables hadds hleft hmade hwrite'
    exact ⟨report, hreport⟩
  · obtain ⟨s, -, hsheets⟩ := sheets_sampleTree
    have hout : FileTree.IsNameIn ⟨[]⟩ (Text.encode "out") := by decide
    have hmake : sampleTree.makeDirs (.ofString "out/.") = (sampleTree, .error .notFound) :=
      FileTree.makeDirs_join_here (by decide) hout (by decide) (by decide)
    have hlisting : listFiles sampleTree dotSettings = .ok ⟨[sampleFile], []⟩ :=
      listFiles_sampleTree
    have hfailure : (writeSheets sampleTree
        (harvest sampleTree .throughput dotSettings.outputDir [sampleFile]).plan.sheets).failure =
          some (.createDirectory (.ofString "out/.")) := by
      rw [hsheets, dotSettings, settingsTo]
      simp only [writeSheets, writeSheet_of_makeDirs hmake]
    rw [analyse_lenient rfl hlisting, conclude]
    simp only [hfailure]

end BenchTally
