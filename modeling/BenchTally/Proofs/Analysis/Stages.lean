import BenchTally.Analysis.Report
import BenchTally.Proofs.Analysis.Collected
import BenchTally.Proofs.Files.Making
import BenchTally.Proofs.Output.Writing
import BenchTally.Proofs.Run.TableNames
import BenchTally.Proofs.Stats.Tallies

set_option autoImplicit false
set_option relaxedAutoImplicit false

/-!
# Stages of an analysis

## Main definitions

* `usable` — the files that an analysis can use, with what it reads from them.

## Main results

* `valuesOf_intake` — an analysis reads for each configuration its usable files, in their order.
* `analyse_eq_ok` — a successful analysis writes all sheets that it plans.
* `analyse_wrote` — what a successful analysis writes that plans a sheet for each of its keys.
-/

namespace BenchTally

/-! ## Usable files -/

section Usable

variable {β : Type} {read : Path → Except ContentError β} {announce : Bool} {files : List Path}

/-- What an analysis reads from a file whose name names a run and whose content it can read. -/
def usableResult? (read : Path → Except ContentError β) (file : Path) : Option (ConfigKey × β) :=
  match runOf file, read file with
  | .ok run, .ok value => some (run.config, value)
  | _, _ => none

/-- The files whose names name runs and whose contents can be read, in their order: the
configurations, with what was read. -/
def usable (read : Path → Except ContentError β) (files : List Path) : List (ConfigKey × β) :=
  files.filterMap (usableResult? read)

/-- Names first and contents second comes to the same as both at once. -/
lemma filterMap_contentOf? (read : Path → Except ContentError β) (files : List Path) :
    (files.filterMap configOf?).filterMap (contentOf? read) = usable read files := by
  rw [List.filterMap_filterMap, usable]
  refine List.filterMap_congr fun file _ => ?_
  unfold configOf? contentOf? usableResult?
  cases runOf file with
  | error e => rfl
  | ok run => cases hread : read file <;> simp [hread]

/-- Reading a content keeps the configuration. -/
lemma key_of_contentOf? {file : ConfigKey × Path} {value : ConfigKey × β}
    (h : contentOf? read file = some value) : value.1 = file.1 := by
  unfold contentOf? at h
  split at h
  · exact congrArg Prod.fst (Option.some.inj h).symm
  · cases h

/-- **What an analysis reads for a configuration** are the usable files of the configuration, in
their order. -/
lemma valuesOf_intake (read : Path → Except ContentError β) (announce : Bool) (files : List Path)
    (k : ConfigKey) :
    valuesOf k (intake read announce files).values = valuesOf k (usable read files) := by
  rw [← filterMap_contentOf?]
  exact valuesOf_flatMap_groups (contentOf? read) (fun _ _ => key_of_contentOf?) _ k

/-- All usable files are read, and no others. -/
lemma mem_intake {result : ConfigKey × β} :
    result ∈ (intake read announce files).values ↔ result ∈ usable read files := by
  rw [← mem_valuesOf (k := result.1), valuesOf_intake, mem_valuesOf]

/-- From a single usable file its result is read. -/
lemma intake_singleton (announce : Bool) {file : Path} {run : Run} {value : β}
    (hrun : runOf file = .ok run) (hread : read file = .ok value) :
    (intake read announce [file]).values = [(run.config, value)] := by
  have hconfig : configOf? file = some (run.config, file) :=
    configOf?_eq_some_iff.2 ⟨run, hrun, rfl⟩
  have hcontent : contentOf? read (run.config, file) = some (run.config, value) := by
    rw [contentOf?, hread]
  have hgroups : (filesByConfig [file]).entries = [(run.config, [(run.config, file)])] :=
    entries_filesByConfig_of_forall (by simp) (by simpa using hconfig)
  simp [intake, hgroups, hcontent]

/-- What an analysis reads from a file belongs to the configuration of the run that its name
names. -/
lemma usableResult?_eq_some_iff {file : Path} {result : ConfigKey × β} :
    usableResult? read file = some result ↔
      ∃ run, runOf file = .ok run ∧ run.config = result.1 ∧ read file = .ok result.2 := by
  unfold usableResult?
  cases runOf file <;> cases read file <;> simp [Prod.ext_iff]

/-- The configurations of usable files are spelled by file names. -/
lemma ofFileName_of_mem_usable {result : ConfigKey × β} (h : result ∈ usable read files) :
    result.1.OfFileName := by
  obtain ⟨file, -, hfile⟩ := List.mem_filterMap.1 h
  obtain ⟨run, hrun, hconfig, -⟩ := usableResult?_eq_some_iff.1 hfile
  rw [← hconfig]
  exact Run.ofFileName_of_ofName hrun

end Usable

/-! ## Analyses -/

variable {tree : FileTree} {settings : Settings} {variant : Variant} {report : Report}

/-- Without an input directory an analysis fails, and changes nothing. -/
lemma analyse_of_not_isDir (hdir : tree.isDir settings.inputDir = false) :
    analyse tree settings variant =
      ⟨.error (.config (.inputNotFound settings.inputDir)), [], tree⟩ := by
  simp [analyse, listFiles, hdir]

/-- A conclusion without a failure has written all sheets. -/
lemma conclude_eq_ok {log : List Event} {collected : Nat} {h : Harvest}
    (hok : (conclude tree log collected h).result = .ok report) :
    (writeSheets tree h.plan.sheets).failure = none ∧
      report.written = (writeSheets tree h.plan.sheets).written ∧
      (conclude tree log collected h).tree = (writeSheets tree h.plan.sheets).tree := by
  unfold conclude at hok ⊢
  dsimp only at hok ⊢
  cases hfailure : (writeSheets tree h.plan.sheets).failure with
  | some e => simp [hfailure] at hok
  | none =>
    simp only [hfailure, Except.ok.injEq] at hok
    exact ⟨rfl, by rw [← hok], rfl⟩

/-- **A successful analysis** writes all sheets that it plans. -/
lemma analyse_eq_ok (h : (analyse tree settings variant).result = .ok report) :
    ∃ listing, listFiles tree settings = .ok listing ∧
      ∃ sheets, (harvest tree variant settings.outputDir listing.files).plan.sheets = sheets ∧
        (writeSheets tree sheets).failure = none ∧
        report.written = (writeSheets tree sheets).written ∧
        (analyse tree settings variant).tree = (writeSheets tree sheets).tree := by
  unfold analyse at h ⊢
  cases hlisting : listFiles tree settings with
  | error e => simp [hlisting] at h
  | ok listing =>
    refine ⟨listing, rfl, _, rfl, ?_⟩
    simp only [hlisting] at h ⊢
    split at h
    · simp at h
    · exact conclude_eq_ok h

/-- **A table for each key.** Let an analysis plan a sheet for each of a list of distinct keys, all
of them keys of usable files, and name the sheets after their keys. If it succeeds, and no link
stands in the output directory, the files written are those of the keys, in their order. Each can be
read, nothing else changes but that directories are added, and without keys nothing changes at
all. -/
lemma analyse_wrote {κ : Type} {key : ConfigKey → κ} {text : κ → String}
    (hnames : NamesTables key text) {keys : List Path → List κ} {sheet : List Path → κ → Sheet}
    (hplan : ∀ files, (harvest tree variant settings.outputDir files).plan.sheets =
      ((keys files).map (sheet files)).map fun s => (settings.outputDir, s))
    (htext : ∀ files g, (sheet files g).name = text g)
    (hdistinct : ∀ files, (keys files).Nodup)
    (hkeys : ∀ files, ∀ g ∈ keys files, ∃ k : ConfigKey, k.OfFileName ∧ key k = g)
    (hlinks : (tree.makeDirs settings.outputDir).1.LinkFree settings.outputDir)
    (h : (analyse tree settings variant).result = .ok report) :
    ∃ (listing : Listing) (names : List Bytes), listFiles tree settings = .ok listing ∧
      names.Pairwise (· < ·) ∧
      listing.files = names.map (fun name => settings.inputDir.join ⟨name⟩) ∧
      report.written =
        (keys listing.files).map (fun g => (sheet listing.files g).path settings.outputDir) ∧
      report.written.Nodup ∧
      Wrote tree (analyse tree settings variant).tree settings.outputDir
        ((keys listing.files).map (sheet listing.files)) ∧
      (keys listing.files = [] → (analyse tree settings variant).tree = tree) := by
  obtain ⟨listing, hlisting, sheets, rfl, hfailure, hwritten, htree⟩ := analyse_eq_ok h
  obtain ⟨names, hascending, hfiles⟩ := listFiles_ascending hlisting
  rw [hplan] at hfailure hwritten htree
  have hslash : ∀ g ∈ keys listing.files, '/' ∉ (sheet listing.files g).name.toList := by
    intro g hg
    obtain ⟨k, hk, rfl⟩ := hkeys listing.files g hg
    rw [htext]
    exact hnames.slash_not_mem hk
  have hinj : ∀ g ∈ keys listing.files, ∀ g' ∈ keys listing.files,
      (sheet listing.files g).name = (sheet listing.files g').name → g = g' := by
    intro g hg g' hg' heq
    obtain ⟨k, hk, rfl⟩ := hkeys listing.files g hg
    obtain ⟨k', hk', rfl⟩ := hkeys listing.files g' hg'
    rw [htext, htext] at heq
    exact hnames.inj hk hk' heq
  obtain ⟨hpaths, hnodup, hwrote⟩ :=
    wrote_of_keys (hdistinct listing.files) hslash hinj hlinks hfailure
  rw [← hwritten] at hpaths
  rw [← hpaths] at hnodup
  rw [← htree] at hwrote
  refine ⟨listing, names, hlisting, hascending, hfiles, hpaths, hnodup, hwrote, fun hnone => ?_⟩
  rw [htree, hnone]
  rfl

/-- A lenient analysis succeeds if all its sheets can be written. -/
lemma exists_report {listing : Listing} (hlisting : listFiles tree settings = .ok listing)
    (hlenient : settings.strict = false)
    (hfailure : (writeSheets tree
      (harvest tree variant settings.outputDir listing.files).plan.sheets).failure = none) :
    ∃ report, (analyse tree settings variant).result = .ok report := by
  simp only [analyse, hlisting, hlenient, conclude, hfailure]
  exact ⟨_, rfl⟩

/-! ## A tree with one result file -/

/-- The content of a result file with two samples. -/
def sampleContent : String :=
  "elapsed_time_ms,executed_count\n0,0\n1,1\n"

/-- The run that the name of the result file spells. -/
def sampleRun : Run :=
  ⟨⟨"a", 1, "b", 2, "c", 3, 0⟩, 1⟩

/-- The path of the result file. -/
def sampleFile : Path :=
  .ofString "in/a__1__b__2__c__3__0(1).csv"

/-- A working directory with an input directory that holds one result file. -/
def sampleTree : FileTree :=
  ((FileTree.ofWorkDir (Text.encode "w")).set [Text.encode "w", Text.encode "in"] .dir).set
    [Text.encode "w", Text.encode "in", Text.encode "a__1__b__2__c__3__0(1).csv"]
    (.file (Text.encode sampleContent))

/-- Settings that find the result file and write next to its directory. -/
def sampleSettings : Settings where
  inputDir := .ofString "in"
  outputDir := .ofString "out"
  pattern := "*"
  glob := ⟨[.anyRun]⟩
  strict := false

/-- The tree with the output directory next to the input directory. -/
def sampleOutput : FileTree :=
  sampleTree.set [Text.encode "w", Text.encode "out"] .dir

/-- The path of the input directory leads to the directory of its name. -/
lemma opens_inputDir {t : FileTree} (hwork : t.node? t.workDir = some .dir)
    (hdir : t.node? (t.workDir ++ [Text.encode "in"]) = some .dir) :
    t.Opens sampleSettings.inputDir (t.workDir ++ [Text.encode "in"]) :=
  (FileTree.opens_workDir hwork).join (by decide) hdir

/-- The path of the output directory leads to the directory of its name. -/
lemma opens_outputDir {t : FileTree} (hwork : t.node? t.workDir = some .dir)
    (hdir : t.node? (t.workDir ++ [Text.encode "out"]) = some .dir) :
    t.Opens sampleSettings.outputDir (t.workDir ++ [Text.encode "out"]) :=
  (FileTree.opens_workDir hwork).join (by decide) hdir

/-- The output directory is created where there is none. -/
lemma makeDirs_outputDir {t : FileTree} (hwork : t.node? t.workDir = some .dir)
    (hnone : t.node? (t.workDir ++ [Text.encode "out"]) = none) :
    t.makeDirs sampleSettings.outputDir =
      (t.set (t.workDir ++ [Text.encode "out"]) .dir, .ok ()) :=
  (FileTree.opens_workDir hwork).makeDirs_join (by decide) hnone

/-- Files are listed that are all that is in the input directory. -/
lemma listFiles_inputDir {t : FileTree} {place : Place} {files : List Path}
    (hopen : t.Opens sampleSettings.inputDir place)
    (hascending : (files.map Path.fileName).Pairwise (· < ·))
    (hperm : (files.map Path.fileName).Perm (t.names place))
    (hfiles : ∀ file ∈ files, entryOf t sampleSettings.inputDir place file.fileName = .file file)
    (haccepts : ∀ file ∈ files, sampleSettings.glob.accepts file.fileName = true) :
    listFiles t sampleSettings = .ok ⟨files, []⟩ :=
  listFiles_of_opens hopen (by decide) (by decide) hascending hperm hfiles haccepts

lemma opens_sampleTree :
    sampleTree.Opens sampleSettings.inputDir [Text.encode "w", Text.encode "in"] :=
  opens_inputDir (by decide) (by decide)

lemma makeDirs_sampleTree :
    sampleTree.makeDirs sampleSettings.outputDir = (sampleOutput, .ok ()) :=
  makeDirs_outputDir (by decide) (by decide)

lemma opens_sampleOutput :
    sampleOutput.Opens sampleSettings.outputDir [Text.encode "w", Text.encode "out"] :=
  opens_outputDir (by decide) (by decide)

/-- The table of the sample run can stand in the output directory. -/
lemma isNameIn_sampleTable :
    FileTree.IsNameIn sampleSettings.outputDir (Text.encode "a__c.csv") := by
  decide

lemma listFiles_sampleTree : listFiles sampleTree sampleSettings = .ok ⟨[sampleFile], []⟩ :=
  listFiles_inputDir opens_sampleTree (by decide) (by decide) (by decide) (by decide)

lemma readFile_sampleTree : sampleTree.readFile sampleFile = .ok (Text.encode sampleContent) :=
  have hname : FileTree.IsNameIn sampleSettings.inputDir
      (Text.encode "a__1__b__2__c__3__0(1).csv") := by decide
  FileTree.readFile_join opens_sampleTree hname (by decide)

lemma runOf_sampleFile : runOf sampleFile = .ok sampleRun := by
  decide

lemma noLinks_sampleTree : sampleTree.NoLinks :=
  ((FileTree.noLinks_ofWorkDir _).set (by simp) (by simp)).set (by simp) (by simp)

/-! ### The directories of measures -/

section Measures

variable {t : FileTree} {measure : Bytes}
  (hmeasure : measure = Text.encode "throughput" ∨ measure = Text.encode "makespan")

include hmeasure

/-- The directory of a measure can stand in the output directory, and a table in it. -/
lemma isNameIn_measure : FileTree.IsNameIn sampleSettings.outputDir measure ∧
    FileTree.IsNameIn (sampleSettings.outputDir.join ⟨measure⟩) (Text.encode "a__c.csv") := by
  rcases hmeasure with rfl | rfl <;> decide

/-- The directory of a measure is created in the output directory. -/
lemma makeDirs_measure (hwork : t.node? t.workDir = some .dir)
    (hout : t.node? (t.workDir ++ [Text.encode "out"]) = some .dir)
    (hnone : t.node? (t.workDir ++ [Text.encode "out"] ++ [measure]) = none) :
    t.makeDirs (sampleSettings.outputDir.join ⟨measure⟩) =
      (t.set (t.workDir ++ [Text.encode "out"] ++ [measure]) .dir, .ok ()) :=
  (opens_outputDir hwork hout).makeDirs_join (isNameIn_measure hmeasure).1 hnone

/-- It is created after the output directory where there is none. -/
lemma makeDirs_measure_of_none (hwork : t.node? t.workDir = some .dir)
    (hout : t.node? (t.workDir ++ [Text.encode "out"]) = none)
    (hnone : t.node? (t.workDir ++ [Text.encode "out"] ++ [measure]) = none) :
    t.makeDirs (sampleSettings.outputDir.join ⟨measure⟩) =
      ((t.set (t.workDir ++ [Text.encode "out"]) .dir).set
        (t.workDir ++ [Text.encode "out"] ++ [measure]) .dir, .ok ()) := by
  have hnameOut : FileTree.IsNameIn ⟨[]⟩ (Text.encode "out") := by decide
  have hpath : sampleSettings.outputDir = Path.join ⟨[]⟩ ⟨Text.encode "out"⟩ := rfl
  have hname := (isNameIn_measure hmeasure).1
  rw [hpath] at hname ⊢
  exact FileTree.makeDirs_join_join hwork hnameOut hout hname hnone

/-- It is not created in the place of a file. -/
lemma makeDirs_measure_of_file {content : Bytes} (hwork : t.node? t.workDir = some .dir)
    (hout : t.node? (t.workDir ++ [Text.encode "out"]) = some .dir)
    (hfile : t.node? (t.workDir ++ [Text.encode "out"] ++ [measure]) = some (.file content)) :
    t.makeDirs (sampleSettings.outputDir.join ⟨measure⟩) = (t, .error .exists) :=
  (opens_outputDir hwork hout).makeDirs_join_of_file (isNameIn_measure hmeasure).1 hfile

/-- The path of the directory of a measure leads to it. -/
lemma opens_measure (hwork : t.node? t.workDir = some .dir)
    (hout : t.node? (t.workDir ++ [Text.encode "out"]) = some .dir)
    (hdir : t.node? (t.workDir ++ [Text.encode "out"] ++ [measure]) = some .dir) :
    t.Opens (sampleSettings.outputDir.join ⟨measure⟩)
      (t.workDir ++ [Text.encode "out"] ++ [measure]) :=
  (opens_outputDir hwork hout).join (isNameIn_measure hmeasure).1 hdir

/-- A table can be written to the directory of a measure. -/
lemma writeFile_measure (hwork : t.node? t.workDir = some .dir)
    (hout : t.node? (t.workDir ++ [Text.encode "out"]) = some .dir)
    (hdir : t.node? (t.workDir ++ [Text.encode "out"] ++ [measure]) = some .dir)
    (hfree : t.node? (t.workDir ++ [Text.encode "out"] ++ [measure] ++ [Text.encode "a__c.csv"]) =
      none) (content : Bytes) :
    t.writeFile ((sampleSettings.outputDir.join ⟨measure⟩).join ⟨Text.encode "a__c.csv"⟩) content =
      .ok (t.set (t.workDir ++ [Text.encode "out"] ++ [measure] ++ [Text.encode "a__c.csv"])
        (.file content)) :=
  (opens_measure hmeasure hwork hout hdir).writeFile_join (isNameIn_measure hmeasure).2 hfree
    content

end Measures

/-! ### A stray file -/

/-- The path of a file next to the result file whose name names no run. -/
def strayFile : Path :=
  .ofString "in/x"

/-- The tree with such a file. -/
def strayTree : FileTree :=
  sampleTree.set [Text.encode "w", Text.encode "in", Text.encode "x"] (.file [])

lemma listFiles_strayTree :
    listFiles strayTree sampleSettings = .ok ⟨[sampleFile, strayFile], []⟩ :=
  have hopen : strayTree.Opens sampleSettings.inputDir [Text.encode "w", Text.encode "in"] :=
    opens_inputDir (by decide) (by decide)
  listFiles_inputDir hopen (by decide) (by decide) (by decide) (by decide)

lemma noLinks_strayTree : strayTree.NoLinks :=
  noLinks_sampleTree.set (by simp) (by simp)

lemma makeDirs_strayTree : strayTree.makeDirs sampleSettings.outputDir =
    (strayTree.set [Text.encode "w", Text.encode "out"] .dir, .ok ()) :=
  makeDirs_outputDir (by decide) (by decide)

lemma runOf_strayFile : runOf strayFile = .error .missingRepetition := by
  decide

/-! ## A tree with a repetition and a second configuration -/

/-- The path of a result file with a repetition of the sample run. -/
def secondFile : Path :=
  .ofString "in/a__1__b__2__c__3__0(2).csv"

/-- The path of a result file of another configuration of the same workload and engine. -/
def otherFile : Path :=
  .ofString "in/a__1__b__5__c__3__0(1).csv"

/-- The configuration of that file. -/
def otherConfig : ConfigKey :=
  ⟨"a", 1, "b", 5, "c", 3, 0⟩

/-- The content of a result file with twice as many operations as in the sample. -/
def secondContent : String :=
  "elapsed_time_ms,executed_count\n0,0\n1,2\n"

/-- The content of a result file with four times as many. -/
def otherContent : String :=
  "elapsed_time_ms,executed_count\n0,0\n1,4\n"

/-- The tree with the sample run, its repetition, a run of another configuration, and a file whose
name names no run. -/
def repeatTree : FileTree :=
  (strayTree.set [Text.encode "w", Text.encode "in", Text.encode "a__1__b__2__c__3__0(2).csv"]
    (.file (Text.encode secondContent))).set
      [Text.encode "w", Text.encode "in", Text.encode "a__1__b__5__c__3__0(1).csv"]
      (.file (Text.encode otherContent))

/-- Its files, in the order of their names. -/
def repeatFiles : List Path :=
  [sampleFile, secondFile, otherFile, strayFile]

lemma opens_repeatTree :
    repeatTree.Opens sampleSettings.inputDir [Text.encode "w", Text.encode "in"] :=
  opens_inputDir (by decide) (by decide)

lemma listFiles_repeatTree : listFiles repeatTree sampleSettings = .ok ⟨repeatFiles, []⟩ :=
  listFiles_inputDir opens_repeatTree (by decide) (by decide) (by decide) (by decide)

lemma readFile_sampleFile : repeatTree.readFile sampleFile = .ok (Text.encode sampleContent) :=
  have hname : FileTree.IsNameIn sampleSettings.inputDir
      (Text.encode "a__1__b__2__c__3__0(1).csv") := by decide
  FileTree.readFile_join opens_repeatTree hname (by decide)

lemma readFile_secondFile : repeatTree.readFile secondFile = .ok (Text.encode secondContent) :=
  have hname : FileTree.IsNameIn sampleSettings.inputDir
      (Text.encode "a__1__b__2__c__3__0(2).csv") := by decide
  FileTree.readFile_join opens_repeatTree hname (by decide)

lemma readFile_otherFile : repeatTree.readFile otherFile = .ok (Text.encode otherContent) :=
  have hname : FileTree.IsNameIn sampleSettings.inputDir
      (Text.encode "a__1__b__5__c__3__0(1).csv") := by decide
  FileTree.readFile_join opens_repeatTree hname (by decide)

lemma runOf_secondFile : runOf secondFile = .ok ⟨sampleRun.config, 2⟩ := by
  decide

lemma runOf_otherFile : runOf otherFile = .ok ⟨otherConfig, 1⟩ := by
  decide

lemma noLinks_repeatTree : repeatTree.NoLinks :=
  (noLinks_strayTree.set (by simp) (by simp)).set (by simp) (by simp)

lemma makeDirs_repeatTree : repeatTree.makeDirs sampleSettings.outputDir =
    (repeatTree.set [Text.encode "w", Text.encode "out"] .dir, .ok ()) :=
  makeDirs_outputDir (by decide) (by decide)

lemma opens_repeatOutput : (repeatTree.set [Text.encode "w", Text.encode "out"] .dir).Opens
    sampleSettings.outputDir [Text.encode "w", Text.encode "out"] :=
  opens_outputDir (by decide) (by decide)

lemma linkFree_repeatTree :
    (repeatTree.makeDirs sampleSettings.outputDir).1.LinkFree sampleSettings.outputDir :=
  FileTree.linkFree_makeDirs noLinks_repeatTree

/-- What is read from the files, if three of them are usable. -/
lemma usable_repeatFiles {β : Type} {read : Path → Except ContentError β} {x y z : β}
    (hsample : read sampleFile = .ok x) (hsecond : read secondFile = .ok y)
    (hother : read otherFile = .ok z) :
    usable read repeatFiles =
      [(sampleRun.config, x), (sampleRun.config, y), (otherConfig, z)] := by
  simp [usable, repeatFiles, usableResult?, runOf_sampleFile, runOf_secondFile, runOf_otherFile,
    runOf_strayFile, hsample, hsecond, hother]

end BenchTally
