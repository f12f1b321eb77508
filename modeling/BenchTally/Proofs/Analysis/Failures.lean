import BenchTally.Command.Invocation
import BenchTally.Proofs.Analysis.Rejections
import BenchTally.Proofs.Analysis.Tables
import BenchTally.Proofs.Output.Failure

set_option autoImplicit false
set_option relaxedAutoImplicit false

/-!
# What a failed analysis leaves behind

## Main definitions

* `AnalysisError.BeforeWriting` — the errors of analyses that end before they write.
* `Outcome.created` — the files that an analysis reports as written.

## Main results

* `tree_analyse_of_beforeWriting` — without settings or with a rejected file nothing changes.
* `analyse_failure` — what a failed analysis leaves behind, whatever it fails with.
-/

namespace BenchTally

open FileTree

variable {tree : FileTree} {settings : Settings} {variant : Variant}

/-! ## Nothing is written -/

/-- There are no settings, or a file is rejected. -/
inductive AnalysisError.BeforeWriting : AnalysisError → Prop
  /-- There are no settings. -/
  | config (cause : ConfigError) : BeforeWriting (.config cause)
  /-- A result file cannot be used. -/
  | rejected (file : Path) (cause : FileError) : BeforeWriting (.rejected file cause)

/-- A conclusion fails with a sheet that cannot be written at most. -/
lemma conclude_eq_error {log : List Event} {collected : Nat} {h : Harvest} {e : AnalysisError}
    (herror : (conclude tree log collected h).result = .error e) :
    ∃ cause, e = .write cause ∧ (writeSheets tree h.plan.sheets).failure = some cause ∧
      (conclude tree log collected h).tree = (writeSheets tree h.plan.sheets).tree := by
  unfold conclude at herror ⊢
  dsimp only at herror ⊢
  cases hfailure : (writeSheets tree h.plan.sheets).failure with
  | none => simp [hfailure] at herror
  | some cause =>
    simp only [hfailure, Except.error.injEq] at herror
    exact ⟨cause, herror.symm, rfl, rfl⟩

/-- An analysis that ends before it writes changes nothing. -/
lemma tree_analyse_of_beforeWriting {e : AnalysisError} (he : e.BeforeWriting)
    (h : (analyse tree settings variant).result = .error e) :
    (analyse tree settings variant).tree = tree := by
  obtain ⟨_, -, hend⟩ | ⟨listing, -, ⟨log, file, cause, hend⟩ | ⟨-, hend⟩⟩ :=
    analyse_cases tree settings variant
  · rw [hend]
  · rw [hend]
  · rw [hend] at h
    obtain ⟨cause, rfl, -⟩ := conclude_eq_error h
    cases he

/-- A run that ends before it writes changes nothing. -/
lemma tree_run_of_beforeWriting {i : Invocation} {e : AnalysisError} (he : e.BeforeWriting)
    (h : (i.run tree).result = .error e) : (i.run tree).tree = tree := by
  unfold Invocation.run at h ⊢
  split
  · rfl
  · rename_i o ho
    simp only [ho, Options.analyse] at h ⊢
    split
    · rfl
    · rename_i settings hsettings
      simp only [hsettings] at h ⊢
      exact tree_analyse_of_beforeWriting he h

/-! ## Something is written -/

/-- The file that an event reports as written. -/
def Event.created? : Event → Option Path
  | .created file => some file
  | _ => none

/-- The files that an analysis reports as written, in order. -/
def Outcome.created (o : Outcome) : List Path :=
  o.log.filterMap Event.created?

/-- A conclusion reports as written what it writes. -/
lemma created_conclude {log : List Event} (collected : Nat) {h : Harvest}
    (hlog : log.filterMap Event.created? = [])
    (hnotes : ∀ event, .note event ∈ h.findings → ∃ k, event = .processing k) :
    (conclude tree log collected h).created = (writeSheets tree h.plan.sheets).written := by
  obtain ⟨ending, hconclude, hending⟩ := log_conclude tree log collected h
  have hfindings : (h.findings.map Finding.event).filterMap Event.created? = [] := by
    rw [List.filterMap_map, List.filterMap_eq_nil_iff]
    intro finding hfinding
    cases finding with
    | note event =>
      obtain ⟨k, rfl⟩ := hnotes event hfinding
      rfl
    | rejection file cause => rfl
  have hcreated : ∀ files : List Path, (files.map Event.created).filterMap Event.created? = files :=
    fun files => by simp [List.filterMap_map, Event.created?, Function.comp_def]
  have hend : ending.filterMap Event.created? = [] := List.filterMap_eq_nil_iff.2 fun event he => by
    obtain ⟨n, rfl⟩ := hending event he
    rfl
  simp only [Outcome.created, hconclude, List.filterMap_append, hlog, hfindings, hcreated, hend,
    List.nil_append, List.append_nil]

/-- An analysis that fails to write has planned its tables. -/
lemma analyse_eq_write_error {e : WriteError}
    (h : (analyse tree settings variant).result = .error (.write e)) :
    ∃ listing sheets, listFiles tree settings = .ok listing ∧
      variant.Tables tree settings.outputDir listing.files sheets ∧
      (writeSheets tree sheets).failure = some e ∧
      (analyse tree settings variant).created = (writeSheets tree sheets).written ∧
      (analyse tree settings variant).tree = (writeSheets tree sheets).tree := by
  obtain ⟨_, -, hend⟩ | ⟨listing, hlisting, ⟨log, file, cause, hend⟩ | ⟨-, hend⟩⟩ :=
    analyse_cases tree settings variant
  · simp [hend] at h
  · simp [hend] at h
  · rw [hend] at h ⊢
    obtain ⟨cause, heq, hfailure, htree⟩ := conclude_eq_error h
    obtain rfl := AnalysisError.write.inj heq
    have hunlisted : (listing.failures.map Event.unlisted).filterMap Event.created? = [] := by
      simp [List.filterMap_map, Event.created?, Function.comp_def]
    exact ⟨listing, _, hlisting, tables_harvest variant tree settings.outputDir listing.files,
      hfailure, created_conclude _ hunlisted fun _ => exists_processing_of_mem_harvest, htree⟩

/-- **What a failed run leaves behind.** A run that ends without settings or with a rejected file
changes nothing. If an analysis fails to write one of its tables, and no link stands below the
output directory, then the tables before that one are written and reported, each with the content
that a successful analysis gives it; the file of a table after it stands in its place exactly if it
did before, with the same content; and nothing else changes but that directories are added, and that
the file of the table itself holds what is left of it if its writing breaks off.

**Proof sketch.** Tables are written only after all files are read (`analyse_cases`), one after
another, and the first that fails ends the writing (`exists_split_of_failure`). A table that was
written, or broken off, is not at the place of another one, as they differ in their directories or
their names. -/
theorem analyse_failure (tree : FileTree) :
    (∀ (i : Invocation) (e : AnalysisError), (i.run tree).result = .error e → e.BeforeWriting →
      (i.run tree).tree = tree) ∧
    ∀ (settings : Settings) (variant : Variant),
      (∀ e : AnalysisError, (analyse tree settings variant).result = .error e → e.BeforeWriting →
        (analyse tree settings variant).tree = tree) ∧
      ∀ e : WriteError, (analyse tree settings variant).result = .error (.write e) →
        (∀ d ∈ variant.sheetDirs settings.outputDir,
          (tree.makeDirs d).1.LinkFreeBelow settings.outputDir) →
        ∃ (listing : Listing) (before : List (Path × Sheet)) (s : Path × Sheet)
            (after : List (Path × Sheet)),
          listFiles tree settings = .ok listing ∧
          variant.Tables tree settings.outputDir listing.files (before ++ s :: after) ∧
          (analyse tree settings variant).created = before.map (fun s => s.2.path s.1) ∧
          PartlyWrote tree (analyse tree settings variant).tree e before s after := by
  refine ⟨fun i e h he => tree_run_of_beforeWriting he h, fun settings variant =>
    ⟨fun e h he => tree_analyse_of_beforeWriting he h, fun e h hlinks => ?_⟩⟩
  obtain ⟨listing, sheets, hlisting, htables, hfailure, hcreated, htree⟩ :=
    analyse_eq_write_error h
  obtain ⟨before, s, after, rfl, hwritten, hpartly⟩ :=
    partlyWrote_of_failure (fun _ => Variant.isIn_of_mem_sheetDirs)
      (fun s hs => (htables.named s hs).1) htables.slash_not_mem htables.nodup hlinks hfailure
  exact ⟨listing, before, s, after, hlisting, htables, hcreated.trans hwritten, htree ▸ hpartly⟩

/-! ## Trees in which the second table cannot be written -/

/-- The result file can be read wherever it stands as in the sample tree. -/
lemma exists_readSummary {t : FileTree}
    (hopen : t.Opens sampleSettings.inputDir [Text.encode "w", Text.encode "in"])
    (hnode : t.node? ([Text.encode "w", Text.encode "in"] ++
        [Text.encode "a__1__b__2__c__3__0(1).csv"]) =
      sampleTree.node? ([Text.encode "w", Text.encode "in"] ++
        [Text.encode "a__1__b__2__c__3__0(1).csv"])) :
    ∃ summary, readSummary t sampleFile = .ok summary := by
  have hname : IsName (Text.encode "a__1__b__2__c__3__0(1).csv") := by decide
  have hfile : t.readFile sampleFile = sampleTree.readFile sampleFile :=
    readFile_join_congr opens_sampleTree hopen hname (noLinks_sampleTree _) hnode
  obtain ⟨summary, hread⟩ := readSummary_sampleTree
  exact ⟨summary, by rw [readSummary, hfile, ← readSummary, hread]⟩

/-- The sample tree with a file in the place of the directory of makespans. -/
def blockedTree : FileTree :=
  sampleOutput.set [Text.encode "w", Text.encode "out", Text.encode "makespan"] (.file [])

lemma noLinks_blockedTree : blockedTree.NoLinks :=
  (noLinks_sampleTree.set (by simp) (by simp)).set (by simp) (by simp)

lemma opens_blockedTree :
    blockedTree.Opens sampleSettings.inputDir [Text.encode "w", Text.encode "in"] :=
  opens_inputDir (by decide) (by decide)

lemma listFiles_blockedTree : listFiles blockedTree sampleSettings = .ok ⟨[sampleFile], []⟩ :=
  listFiles_inputDir opens_blockedTree (by decide) (by decide) (by decide) (by decide)

/-- The first table is written, and the directory of the second cannot be created. -/
lemma writeSheets_blockedTree {s : Sheet} (s' : Sheet) (hname : s.name = "a__c") :
    (writeSheets blockedTree [(throughputDir sampleSettings.outputDir, s),
        (makespanDir sampleSettings.outputDir, s')]).failure =
      some (.createDirectory (makespanDir sampleSettings.outputDir)) := by
  set made := blockedTree.set [Text.encode "w", Text.encode "out", Text.encode "throughput"] .dir
  have hmade : blockedTree.makeDirs (throughputDir sampleSettings.outputDir) = (made, .ok ()) :=
    makeDirs_measure (.inl rfl) (by decide) (by decide) (by decide)
  set first := made.set [Text.encode "w", Text.encode "out", Text.encode "throughput",
    Text.encode "a__c.csv"] (.file s.content)
  have hwrite : made.writeFile ((throughputDir sampleSettings.outputDir).join
      ⟨Text.encode "a__c.csv"⟩) s.content = .ok first :=
    writeFile_measure (.inl rfl) (by decide) (by decide) (by decide) (by decide) _
  have hblocked : first.makeDirs (makespanDir sampleSettings.outputDir) =
      (first, .error .exists) :=
    makeDirs_measure_of_file (.inr rfl) rfl rfl rfl
  have hpath : s.path (throughputDir sampleSettings.outputDir) =
      (throughputDir sampleSettings.outputDir).join ⟨Text.encode "a__c.csv"⟩ :=
    Sheet.path_of_name hname _
  have hfirst := writeSheet_of_writeFile rfl hmade (hpath ▸ hwrite)
  simp only [writeSheets, hfirst, writeSheet_of_makeDirs hblocked]

/-- The analysis of both measures fails at the directory of makespans. -/
lemma analyse_blockedTree : (analyse blockedTree sampleSettings .metrics).result =
    .error (.write (.createDirectory (makespanDir sampleSettings.outputDir))) := by
  obtain ⟨summary, hread⟩ := exists_readSummary opens_blockedTree (by decide)
  obtain ⟨s, s', hname, -, hsheets⟩ := sheets_metrics_sampleFile hread
  have hfailure := writeSheets_blockedTree s' hname
  rw [← hsheets] at hfailure
  rw [analyse_lenient rfl listFiles_blockedTree, conclude]
  simp only [hfailure]

/-- The sample tree on a disk that is full when half of the header of makespans is written. -/
def brokenTree : FileTree :=
  { sampleTree with
    leftOver? := fun file =>
      if file = .ofString "out/makespan/a__c.csv" then some (Text.encode "workload") else none }

lemma noLinks_brokenTree : brokenTree.NoLinks :=
  noLinks_sampleTree

lemma opens_brokenTree :
    brokenTree.Opens sampleSettings.inputDir [Text.encode "w", Text.encode "in"] :=
  opens_inputDir (by decide) (by decide)

lemma listFiles_brokenTree : listFiles brokenTree sampleSettings = .ok ⟨[sampleFile], []⟩ :=
  listFiles_inputDir opens_brokenTree (by decide) (by decide) (by decide) (by decide)

/-- The first table is written, and the writing of the second breaks off. -/
lemma writeSheets_brokenTree {s s' : Sheet} (hname : s.name = "a__c") (hname' : s'.name = "a__c") :
    (writeSheets brokenTree [(throughputDir sampleSettings.outputDir, s),
        (makespanDir sampleSettings.outputDir, s')]).failure =
      some (.writeTable (.ofString "out/makespan/a__c.csv")) ∧
    (writeSheets brokenTree [(throughputDir sampleSettings.outputDir, s),
        (makespanDir sampleSettings.outputDir, s')]).tree.readFile
      (.ofString "out/makespan/a__c.csv") = .ok (Text.encode "workload") := by
  have hpath : s.path (throughputDir sampleSettings.outputDir) =
      (throughputDir sampleSettings.outputDir).join ⟨Text.encode "a__c.csv"⟩ :=
    Sheet.path_of_name hname _
  have hpath' : s'.path (makespanDir sampleSettings.outputDir) =
      (makespanDir sampleSettings.outputDir).join ⟨Text.encode "a__c.csv"⟩ :=
    Sheet.path_of_name hname' _
  have hleft : brokenTree.leftOver? ((throughputDir sampleSettings.outputDir).join
      ⟨Text.encode "a__c.csv"⟩) = none := by decide
  have hleft' : brokenTree.leftOver? ((makespanDir sampleSettings.outputDir).join
      ⟨Text.encode "a__c.csv"⟩) = some (Text.encode "workload") := by decide
  -- The first table.
  set made := (brokenTree.set [Text.encode "w", Text.encode "out"] .dir).set
    [Text.encode "w", Text.encode "out", Text.encode "throughput"] .dir
  have hmade : brokenTree.makeDirs (throughputDir sampleSettings.outputDir) = (made, .ok ()) :=
    makeDirs_measure_of_none (.inl rfl) (by decide) (by decide) (by decide)
  set first := made.set [Text.encode "w", Text.encode "out", Text.encode "throughput",
    Text.encode "a__c.csv"] (.file s.content)
  have hwrite : made.writeFile ((throughputDir sampleSettings.outputDir).join
      ⟨Text.encode "a__c.csv"⟩) s.content = .ok first :=
    writeFile_measure (.inl rfl) (by decide) (by decide) (by decide) (by decide) _
  have hfirst := writeSheet_of_writeFile (hpath ▸ hleft) hmade (hpath ▸ hwrite)
  -- What is there of the second.
  set made' := first.set [Text.encode "w", Text.encode "out", Text.encode "makespan"] .dir
  have hmade' : first.makeDirs (makespanDir sampleSettings.outputDir) = (made', .ok ()) :=
    makeDirs_measure (.inr rfl) rfl rfl rfl
  set second := made'.set [Text.encode "w", Text.encode "out", Text.encode "makespan",
    Text.encode "a__c.csv"] (.file (Text.encode "workload"))
  have hwrite' : made'.writeFile ((makespanDir sampleSettings.outputDir).join
      ⟨Text.encode "a__c.csv"⟩) (Text.encode "workload") = .ok second :=
    writeFile_measure (.inr rfl) rfl rfl rfl rfl _
  have hsecond := writeSheet_of_leftOver? (t := first) (hpath' ▸ hleft') hmade' (hpath' ▸ hwrite')
  have hopen : second.Opens (makespanDir sampleSettings.outputDir)
      [Text.encode "w", Text.encode "out", Text.encode "makespan"] :=
    opens_measure (.inr rfl) rfl rfl rfl
  have hcsv : IsNameIn (makespanDir sampleSettings.outputDir) (Text.encode "a__c.csv") := by decide
  have hread : second.readFile ((makespanDir sampleSettings.outputDir).join
      ⟨Text.encode "a__c.csv"⟩) = .ok (Text.encode "workload") :=
    readFile_join hopen hcsv rfl
  simp only [writeSheets, hfirst, hsecond, hpath']
  exact ⟨rfl, hread⟩

/-- The analysis of both measures fails at the table of makespans, which is there in part. -/
lemma analyse_brokenTree : (analyse brokenTree sampleSettings .metrics).result =
      .error (.write (.writeTable (.ofString "out/makespan/a__c.csv"))) ∧
    (analyse brokenTree sampleSettings .metrics).tree.readFile
      (.ofString "out/makespan/a__c.csv") = .ok (Text.encode "workload") := by
  obtain ⟨summary, hread⟩ := exists_readSummary opens_brokenTree rfl
  obtain ⟨s, s', hname, hname', hsheets⟩ := sheets_metrics_sampleFile hread
  obtain ⟨hfailure, hleft⟩ := writeSheets_brokenTree hname hname'
  rw [← hsheets] at hfailure hleft
  rw [analyse_lenient rfl listFiles_brokenTree, conclude]
  simp only [hfailure, true_and]
  exact hleft

/-- The sample tree has no such directory. -/
lemma isDir_sampleTree_no : sampleTree.isDir (.ofString "no") = false :=
  have hno : IsNameIn ⟨[]⟩ (Text.encode "no") := by decide
  (opens_workDir (by decide)).isDir_join_eq_false hno (noLinks_sampleTree _) (by decide)

/-- An invocation that asks for it fails. -/
lemma run_sampleTree_no : ((⟨.throughput, {}, { directories := ["no"] }⟩ : Invocation).run
    sampleTree).result = .error (.config (.inputNotFound (.ofString "no"))) := by
  have hoptions : (⟨.throughput, {}, { directories := ["no"] }⟩ : Invocation).options sampleTree =
      .ok { inputDir := some (.ofString "no") } := rfl
  have hsettings : Options.settings { inputDir := some (.ofString "no") } sampleTree .throughput =
      .error (.inputNotFound (.ofString "no")) :=
    if_pos (by simpa [Options.input] using isDir_sampleTree_no)
  simp only [Invocation.run, hoptions, Options.analyse, hsettings]

/-- Without the input directory nothing changes. With a file in the place of the directory of
makespans, and on a disk that is full too early, what is reported as written can be read; in the
second case the table that fails is there in part. -/
theorem analyse_failure_blockedTree :
    ((⟨.throughput, {}, { directories := ["no"] }⟩ : Invocation).run sampleTree).tree =
        sampleTree ∧
      (analyse sampleTree { sampleSettings with inputDir := .ofString "no" } .timeline).tree =
        sampleTree ∧
      ((analyse blockedTree sampleSettings .metrics).result =
          .error (.write (.createDirectory (makespanDir sampleSettings.outputDir))) ∧
        ∀ file ∈ (analyse blockedTree sampleSettings .metrics).created, ∃ content,
          (analyse blockedTree sampleSettings .metrics).tree.readFile file = .ok content) ∧
      (analyse brokenTree sampleSettings .metrics).result =
          .error (.write (.writeTable (.ofString "out/makespan/a__c.csv"))) ∧
        (analyse brokenTree sampleSettings .metrics).tree.readFile
          (.ofString "out/makespan/a__c.csv") = .ok (Text.encode "workload") ∧
        ∀ file ∈ (analyse brokenTree sampleSettings .metrics).created, ∃ content,
          (analyse brokenTree sampleSettings .metrics).tree.readFile file = .ok content := by
  have hmissing : (analyse sampleTree { sampleSettings with inputDir := .ofString "no" }
      .timeline).result = .error (.config (.inputNotFound (.ofString "no"))) := by
    rw [analyse_of_not_isDir isDir_sampleTree_no]
  refine ⟨(analyse_failure _).1 _ _ run_sampleTree_no (.config _),
    ((analyse_failure _).2 _ _).1 _ hmissing (.config _), ⟨analyse_blockedTree, ?_⟩,
    analyse_brokenTree.1, analyse_brokenTree.2, ?_⟩
  · obtain ⟨_, before, _, _, -, -, hcreated, hpartly⟩ :=
      ((analyse_failure blockedTree).2 sampleSettings .metrics).2 _ analyse_blockedTree
        fun _ _ => linkFreeBelow_makeDirs noLinks_blockedTree
    rw [hcreated]
    exact List.forall_mem_map.2 fun s hs => ⟨s.2.content, hpartly.holds s hs⟩
  · obtain ⟨_, before, _, _, -, -, hcreated, hpartly⟩ :=
      ((analyse_failure brokenTree).2 sampleSettings .metrics).2 _ analyse_brokenTree.1
        fun _ _ => linkFreeBelow_makeDirs noLinks_brokenTree
    rw [hcreated]
    exact List.forall_mem_map.2 fun s hs => ⟨s.2.content, hpartly.holds s hs⟩

end BenchTally
