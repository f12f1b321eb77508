import BenchTally.Proofs.Analysis.Stages
import BenchTally.Proofs.Output.SummaryTables
import BenchTally.Proofs.Output.Writing

set_option autoImplicit false
set_option relaxedAutoImplicit false

/-!
# Analyses of throughput, end to end

## Main definitions

* `throughputTable` — a table of throughput, read off the results that it is about.

## Main results

* `analyse_throughput` — a successful analysis of throughput writes one table for each workload and
  engine that there are results for, with one row for each configuration.
-/

namespace BenchTally

/-- The table of throughput of a workload and an engine: for each of the given configurations a row
that ends with the average of the operations per second of the configuration's results. -/
def throughputTable (results : List (ConfigKey × RunSummary)) (configs : List ConfigKey)
    (g : OutputKey) : Sheet where
  name := g.workload ++ "__" ++ g.storageEngine
  header := configHeader ++ ["ops_per_second"]
  rows := configs.map fun k =>
    k.cells ++ [floatCell (average ((valuesOf k results).map RunSummary.opsPerSecond))]

/-- **The rows of a table of throughput**, read one by one: the configurations in turn, each with
the average of the operations per second of its results. -/
lemma forall₂_rows_throughputTable (results : List (ConfigKey × RunSummary))
    (configs : List ConfigKey) (g : OutputKey) :
    List.Forall₂ (fun k row => IsTableRow "ops_per_second" k
        (average ((valuesOf k results).map RunSummary.opsPerSecond)) row)
      configs (throughputTable results configs g).rows :=
  forall₂_isTableRow (by decide) configs _

/-- The planned sheets of one measure are read off the usable results. -/
lemma summarySheets_intake (column : String) {measure : SummaryStats → Mean Float}
    {value : RunSummary → Float}
    (hmeasure : ∀ runs, measure (.ofList runs) = .ofList (runs.map value))
    (read : Path → Except ContentError RunSummary) (announce : Bool) (files : List Path) :
    summarySheets column measure (SummaryTally.ofRuns (intake read announce files).values) =
      (tablesOf (intake read announce files).values).map fun g => {
        name := g.workload ++ "__" ++ g.storageEngine
        header := configHeader ++ [column]
        rows := (tableConfigs (intake read announce files).values g).map fun k =>
          k.cells ++ [floatCell (average ((valuesOf k (usable read files)).map value))] } := by
  rw [summarySheets_ofRuns _ hmeasure]
  refine List.map_congr_left fun g _ => ?_
  simp only [OutputKey.text_eq, valuesOf_intake]

/-- The planned sheets are the tables of the usable results. -/
lemma throughputSheets_intake (read : Path → Except ContentError RunSummary) (announce : Bool)
    (files : List Path) :
    throughputSheets (SummaryTally.ofRuns (intake read announce files).values) =
      (tablesOf (intake read announce files).values).map fun g =>
        throughputTable (usable read files)
          (tableConfigs (intake read announce files).values g) g := by
  have hmeasure : ∀ runs, (SummaryStats.ofList runs).opsPerSecond =
      .ofList (runs.map RunSummary.opsPerSecond) := fun runs => by
    rw [SummaryStats.ofList_eq]
  exact summarySheets_intake _ hmeasure read announce files

variable {tree : FileTree} {settings : Settings} {report : Report}

/-- **Analyses of throughput, end to end.** Let the output directory be free of links, and let an
analysis of throughput succeed. Its files are in ascending order of their names. It writes exactly
one table for each workload and engine of the usable files, in ascending order, with exactly one row
for each configuration of the table, in ascending order of workers, storage type, partitions, paths
and interval; what is read in the last column of a row is the average over the usable files of the
configuration, in the order of their names. Nothing else changes but that directories are added, and
without usable files nothing changes at all.

**Proof sketch.** Reading goes configuration by configuration, which keeps the order of the files of
each. The tally holds under each configuration what its own files amount to. Grouped by table, the
configurations are in the order of the rows already. The tables have names of their own, because
the names of the files come apart. -/
theorem analyse_throughput
    (hlinks : (tree.makeDirs settings.outputDir).1.LinkFree settings.outputDir)
    (h : (analyse tree settings .throughput).result = .ok report) :
    ∃ (listing : Listing) (names : List Bytes), listFiles tree settings = .ok listing ∧
      names.Pairwise (· < ·) ∧
      listing.files = names.map (fun name => settings.inputDir.join ⟨name⟩) ∧
      ∃ (results : List (ConfigKey × RunSummary)) (tables : List OutputKey)
          (configs : OutputKey → List ConfigKey),
        results = usable (readSummary tree) listing.files ∧
        SummaryTables results tables configs ∧
        report.written = tables.map (fun g => settings.outputDir.join
          (.ofString (g.workload ++ "__" ++ g.storageEngine ++ ".csv"))) ∧
        report.written.Nodup ∧
        Wrote tree (analyse tree settings .throughput).tree settings.outputDir
          (tables.map fun g => throughputTable results (configs g) g) ∧
        (∀ g ∈ tables, List.Forall₂ (fun k row => IsTableRow "ops_per_second" k
            (average ((valuesOf k results).map RunSummary.opsPerSecond)) row)
          (configs g) (throughputTable results (configs g) g).rows) ∧
        (results = [] → (analyse tree settings .throughput).tree = tree) := by
  have htables : ∀ files, SummaryTables (usable (readSummary tree) files)
      (tablesOf (intake (readSummary tree) false files).values)
      (tableConfigs (intake (readSummary tree) false files).values) := fun files =>
    (summaryTables_ofRuns _).of_mem_iff fun _ => mem_intake
  have hplan : ∀ files, (harvest tree .throughput settings.outputDir files).plan.sheets =
      ((tablesOf (intake (readSummary tree) false files).values).map fun g =>
        throughputTable (usable (readSummary tree) files)
          (tableConfigs (intake (readSummary tree) false files).values g) g).map
        fun s => (settings.outputDir, s) := fun files => by
    rw [harvest, harvestThroughput, throughputSheets_intake]
  obtain ⟨listing, names, hlisting, hascending, hfiles, hwritten, hnodup, hwrote, hnone⟩ :=
    analyse_wrote namesTables_outputKey hplan (fun _ g => g.text_eq.symm)
      (fun files => Keyed.nodup_of_ascending (htables files).ascending)
      (fun files g hg => by
        obtain ⟨result, hresult, hkey⟩ := ((htables files).mem_iff g).1 hg
        exact ⟨result.1, ofFileName_of_mem_usable hresult, hkey⟩)
      hlinks h
  refine ⟨listing, names, hlisting, hascending, hfiles, _, _, _, rfl, htables listing.files,
    hwritten, hnodup, hwrote, fun g _ => forall₂_rows_throughputTable _ _ g,
    fun hresults => hnone ?_⟩
  refine List.eq_nil_iff_forall_not_mem.2 fun g hg => ?_
  obtain ⟨result, hresult, -⟩ := ((htables listing.files).mem_iff g).1 hg
  simp [hresults] at hresult

/-! ## The tree with one result file -/

/-- The totals of a line of two numbers. -/
lemma readSummary_of_line {file : Path} {content : String} {line elapsed executed : List Char}
    {x y : Float} (hfile : tree.readFile file = .ok (Text.encode content))
    (hline : RunSummary.dataLine (Text.lines content.toList) = .ok line)
    (hfields : Text.splitOn ',' line = [elapsed, executed])
    (hx : readGrouped Decimal.read? "elapsed_ms" elapsed = .ok x)
    (hy : readGrouped Decimal.read? "executed_count" executed = .ok y) (hpositive : 0.0 < x) :
    readSummary tree file = .ok ⟨x, y⟩ := by
  rw [readSummary, hfile]
  simp only [Except.toOption, Option.bind_some, Text.decode?_encode, RunSummary.ofText, hline]
  simp only [Verdict.bind_eq_ok_iff, RunSummary.ofLine, hfields, hx, hy, Except.ok.injEq,
    exists_eq_left']
  exact if_pos hpositive

lemma readSummary_sampleTree : ∃ summary, readSummary sampleTree sampleFile = .ok summary :=
  ⟨⟨.ofScientific 1 false 0, .ofScientific 1 false 0⟩, readSummary_of_line readFile_sampleTree
    (by decide)
    (by decide : Text.splitOn ',' "1,1".toList = ["1".toList, "1".toList])
    (by rfl) (by rfl) (by decide)⟩

/-- The analysis of throughput of the sample tree plans one sheet, wherever it writes to. -/
lemma sheets_sampleTree : ∃ s : Sheet, s.name = "a__c" ∧
    ∀ out, (harvest sampleTree .throughput out [sampleFile]).plan.sheets = [(out, s)] := by
  obtain ⟨summary, hread⟩ := readSummary_sampleTree
  have hintake := intake_singleton false runOf_sampleFile hread
  have hplan := throughputSheets_intake (readSummary sampleTree) false [sampleFile]
  have htables : tablesOf [(sampleRun.config, summary)] = [⟨"a", "c"⟩] := by rfl
  rw [hintake, htables] at hplan
  simp only [harvest, harvestThroughput, hintake, hplan, List.map_cons, List.map_nil]
  exact ⟨_, rfl, fun out => rfl⟩

/-- An analysis of throughput succeeds that plans one table and can write it. -/
lemma exists_report_of_sheet {made : FileTree} {written : Bytes → FileTree} {files : List Path}
    {s : Sheet} {file : Path} (hlisting : listFiles tree sampleSettings = .ok ⟨files, []⟩)
    (hsheets : (harvest tree .throughput sampleSettings.outputDir files).plan.sheets =
      [(sampleSettings.outputDir, s)])
    (hfile : s.path sampleSettings.outputDir = file) (hleft : tree.leftOver? file = none)
    (hmade : tree.makeDirs sampleSettings.outputDir = (made, .ok ()))
    (hwrite : ∀ content, made.writeFile file content = .ok (written content)) :
    ∃ report, (analyse tree sampleSettings .throughput).result = .ok report := by
  subst hfile
  refine exists_report hlisting rfl ?_
  rw [hsheets]
  exact failure_writeSheets_singleton hleft hmade (hwrite s.content)

/-- The analysis of throughput of the sample tree succeeds. -/
lemma exists_report_throughput :
    ∃ report, (analyse sampleTree sampleSettings .throughput).result = .ok report := by
  obtain ⟨s, hname, hsheets⟩ := sheets_sampleTree
  have hfile : s.path sampleSettings.outputDir = .ofString "out/a__c.csv" :=
    Sheet.path_of_name hname _
  exact exists_report_of_sheet listFiles_sampleTree (hsheets _) hfile rfl makeDirs_sampleTree
    (opens_sampleOutput.writeFile_join isNameIn_sampleTable (by decide))

/-! ## The tree with a repetition and a second configuration -/

/-- What is read from the tree: one operation and two in a millisecond of the one configuration, and
four of the other. -/
lemma usable_readSummary_repeatTree : usable (readSummary repeatTree) repeatFiles =
    [(sampleRun.config, ⟨.ofScientific 1 false 0, .ofScientific 1 false 0⟩),
      (sampleRun.config, ⟨.ofScientific 1 false 0, .ofScientific 2 false 0⟩),
      (otherConfig, ⟨.ofScientific 1 false 0, .ofScientific 4 false 0⟩)] := by
  have hsample : Text.splitOn ',' "1,1".toList = ["1".toList, "1".toList] := by decide
  have hsecond : Text.splitOn ',' "1,2".toList = ["1".toList, "2".toList] := by decide
  have hother : Text.splitOn ',' "1,4".toList = ["1".toList, "4".toList] := by decide
  exact usable_repeatFiles
    (readSummary_of_line readFile_sampleFile (by decide) hsample (by rfl) (by rfl)
      (by decide))
    (readSummary_of_line readFile_secondFile (by decide) hsecond (by rfl) (by rfl)
      (by decide))
    (readSummary_of_line readFile_otherFile (by decide) hother (by rfl) (by rfl)
      (by decide))

/-- Both configurations are in one table. -/
lemma summaryTables_repeatTree {tables : List OutputKey} {configs : OutputKey → List ConfigKey}
    (h : SummaryTables (usable (readSummary repeatTree) repeatFiles) tables configs) :
    tables = [⟨"a", "c"⟩] ∧ configs ⟨"a", "c"⟩ = [sampleRun.config, otherConfig] := by
  rw [usable_readSummary_repeatTree] at h
  constructor
  · refine Keyed.eq_singleton_of_ascending h.ascending fun g => ?_
    rw [h.mem_iff]
    simp [sampleRun, otherConfig, ConfigKey.outputKey, eq_comm]
  · refine Keyed.eq_of_ascending (h.configs_ascending _) (by decide) fun k => ?_
    rw [h.mem_configs_iff]
    constructor
    · rintro ⟨⟨result, hresult, rfl⟩, -⟩
      simp only [List.mem_cons, List.not_mem_nil, or_false] at hresult
      rcases hresult with rfl | rfl | rfl <;> simp
    · intro hk
      simp only [List.mem_cons, List.not_mem_nil, or_false] at hk
      rcases hk with rfl | rfl <;> simp [sampleRun, otherConfig, ConfigKey.outputKey]

/-- The analysis of throughput of the tree plans one sheet, wherever it writes to. -/
lemma sheets_repeatTree : ∃ s : Sheet, s.name = "a__c" ∧
    ∀ out, (harvest repeatTree .throughput out repeatFiles).plan.sheets = [(out, s)] := by
  have htables := ((summaryTables_ofRuns (intake (readSummary repeatTree) false
    repeatFiles).values).of_mem_iff fun _ => mem_intake)
  have hplan := throughputSheets_intake (readSummary repeatTree) false repeatFiles
  rw [(summaryTables_repeatTree htables).1] at hplan
  simp only [harvest, harvestThroughput, hplan, List.map_cons, List.map_nil]
  exact ⟨_, rfl, fun out => rfl⟩

/-- The analysis of throughput of the tree succeeds. -/
lemma exists_report_repeatTree :
    ∃ report, (analyse repeatTree sampleSettings .throughput).result = .ok report := by
  obtain ⟨s, hname, hsheets⟩ := sheets_repeatTree
  have hfile : s.path sampleSettings.outputDir = .ofString "out/a__c.csv" :=
    Sheet.path_of_name hname _
  exact exists_report_of_sheet listFiles_repeatTree (hsheets _) hfile rfl makeDirs_repeatTree
    (opens_repeatOutput.writeFile_join isNameIn_sampleTable (by decide))

/-- A configuration with a repetition and another one, next to a file that is left out: there is one
table with one row for each, which ends with the average of the two repetitions and with the only
value. -/
theorem analyse_throughput_repeatTree :
    (repeatTree.makeDirs sampleSettings.outputDir).1.LinkFree sampleSettings.outputDir ∧
      ∃ (report : Report) (table : Sheet),
        (analyse repeatTree sampleSettings .throughput).result = .ok report ∧
        report.written = [.ofString "out/a__c.csv"] ∧
        (analyse repeatTree sampleSettings .throughput).tree.readFile (.ofString "out/a__c.csv") =
          .ok table.content ∧
        List.Forall₂ (fun (line : ConfigKey × Float) row =>
            IsTableRow "ops_per_second" line.1 line.2 row)
          [(⟨"a", 1, "b", 2, "c", 3, 0⟩, 1500), (⟨"a", 1, "b", 5, "c", 3, 0⟩, 4000)]
          table.rows := by
  obtain ⟨report, hreport⟩ := exists_report_repeatTree
  obtain ⟨listing, -, hlisting, -, -, results, tables, configs, hresults, htables, hwritten, -,
    hwrote, hrows, -⟩ := analyse_throughput linkFree_repeatTree hreport
  obtain rfl := Except.ok.inj (hlisting.symm.trans listFiles_repeatTree)
  obtain ⟨rfl, hconfigs⟩ := summaryTables_repeatTree (hresults ▸ htables)
  have hrow := hrows ⟨"a", "c"⟩ (by simp)
  have hread := hwrote.readFile (throughputTable results (configs ⟨"a", "c"⟩) ⟨"a", "c"⟩) (by simp)
  rw [hconfigs, hresults, usable_readSummary_repeatTree] at hrow hread
  exact ⟨linkFree_repeatTree, report, _, hreport, hwritten, hread, forall₂_lines hrow⟩

end BenchTally
