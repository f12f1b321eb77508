import BenchTally.Proofs.Analysis.Rejections
import BenchTally.Proofs.Analysis.Tables

set_option autoImplicit false
set_option relaxedAutoImplicit false

/-!
# One measure and two

## Main definitions

* `SummaryTally.CountsAgree` — both means of each configuration are of equally many runs.
* `Sheet.Twins` — a table of throughput and one of makespans that differ in their last columns.
* `SameCounts`, `SameTables` — what the analyses of one measure and of both have in common.

## Main results

* `countsAgree_ofRuns` — the counts agree in the tally of any runs.
* `sheets_metrics` — the analysis of both measures plans the tables of throughput with their twins.
* `analyse_measures` — the analysis of both measures does what that of throughput does, and then
  writes the twins of its tables.
-/

namespace BenchTally

open FileTree

/-! ## Both means are of the same runs -/

/-- Both means of each configuration are of equally many runs. -/
def SummaryTally.CountsAgree (tally : SummaryTally) : Prop :=
  ∀ k stats, tally.get? k = some stats → stats.opsPerSecond.count = stats.makespan.count

/-- One more run counts for both means. -/
lemma SummaryTally.CountsAgree.add {tally : SummaryTally} (h : tally.CountsAgree)
    (key : ConfigKey) (run : RunSummary) : (tally.add key run).CountsAgree := by
  intro k stats hstats
  rw [get?_add] at hstats
  split_ifs at hstats
  · rw [← Option.some.inj hstats]
    refine congrArg Nat.succ ?_
    cases hold : tally.get? key with
    | none => rfl
    | some old => exact h key old hold
  · exact h k stats hstats

/-- **Both means of a configuration are of equally many runs**, whatever runs there are.

**Proof sketch.** Induction on the runs: no run counts for one mean alone. -/
lemma countsAgree_ofRuns (runs : List (ConfigKey × RunSummary)) :
    (SummaryTally.ofRuns runs).CountsAgree :=
  SummaryTally.ofRuns_induction (fun k stats hstats => by simp at hstats)
    SummaryTally.CountsAgree.add runs

/-! ## Tables and their twins -/

/-- A table of throughput and one of makespans with the same name and the same rows in the same
order, but for the last of the eight columns. -/
structure Sheet.Twins (s s' : Sheet) : Prop where
  /-- The files have one name. -/
  name_eq : s'.name = s.name
  /-- The last column of the one is the throughput. -/
  header : s.header = configHeader ++ ["ops_per_second"]
  /-- The last column of the other is the makespan. -/
  header' : s'.header = configHeader ++ ["makespan_s"]
  /-- A row of the one has eight cells. -/
  width : ∀ row ∈ s.rows, row.length = 8
  /-- A row of the other has eight cells. -/
  width' : ∀ row ∈ s'.rows, row.length = 8
  /-- The rows agree in their first seven cells. -/
  rows_eq : s'.rows.map (List.take 7) = s.rows.map (List.take 7)

lemma ConfigKey.take_cells (k : ConfigKey) (cell : String) :
    (k.cells ++ [cell]).take 7 = k.cells := by
  simp [cells]

lemma ConfigKey.length_cells (k : ConfigKey) : k.cells.length = 7 :=
  rfl

/-- The tables of a workload and an engine are twins. -/
lemma twins_tables (results : List (ConfigKey × RunSummary)) (configs : List ConfigKey)
    (g : OutputKey) :
    (throughputTable results configs g).Twins (makespanTable results configs g) where
  name_eq := rfl
  header := rfl
  header' := rfl
  width := List.forall_mem_map.2 fun k _ => by rw [List.length_append, k.length_cells]; rfl
  width' := List.forall_mem_map.2 fun k _ => by rw [List.length_append, k.length_cells]; rfl
  rows_eq := by
    simp only [throughputTable, makespanTable, List.map_map, Function.comp_def,
      ConfigKey.take_cells]

/-- The tables of both measures of workloads and engines. -/
def twinTables (results : List (ConfigKey × RunSummary)) (tables : List OutputKey)
    (configs : OutputKey → List ConfigKey) : List (Sheet × Sheet) :=
  tables.map fun g =>
    (throughputTable results (configs g) g, makespanTable results (configs g) g)

/-- **The analysis of both measures** plans the tables that the analysis of throughput plans, and
then their twins. -/
lemma sheets_metrics (tree : FileTree) (out : Path) (files : List Path) :
    ∃ (tables : List OutputKey) (configs : OutputKey → List ConfigKey),
      SummaryTables (usable (readSummary tree) files) tables configs ∧
      (harvest tree .throughput (throughputDir out) files).plan.sheets =
        (twinTables (usable (readSummary tree) files) tables configs).map
          (fun w => (throughputDir out, w.1)) ∧
      (harvest tree .metrics out files).plan.sheets =
        (twinTables (usable (readSummary tree) files) tables configs).map
            (fun w => (throughputDir out, w.1)) ++
          (twinTables (usable (readSummary tree) files) tables configs).map
            (fun w => (makespanDir out, w.2)) := by
  refine ⟨_, _, (summaryTables_ofRuns (intake (readSummary tree) false files).values).of_mem_iff
    fun _ => mem_intake, ?_, ?_⟩
  · simp only [harvest, harvestThroughput, throughputSheets_intake, twinTables, List.map_map]
    rfl
  · simp only [harvest, harvestMetrics, throughputSheets_intake, makespanSheets_intake,
      twinTables, List.map_map]
    rfl

/-! ## The two analyses -/

variable {tree : FileTree} {settings : Settings} {both one : Report}

/-- Where an analysis finds its files does not depend on where it writes to. -/
lemma listFiles_outputDir (tree : FileTree) (settings : Settings) (out : Path) :
    listFiles tree { settings with outputDir := out } = listFiles tree settings :=
  rfl

/-- Reading comes across the same for one measure and for both. -/
lemma harvest_metrics (tree : FileTree) (out out' : Path) (files : List Path) :
    (harvest tree .metrics out files).findings =
        (harvest tree .throughput out' files).findings ∧
      (harvest tree .metrics out files).used = (harvest tree .throughput out' files).used ∧
      (harvest tree .metrics out files).plan.configurations =
        (harvest tree .throughput out' files).plan.configurations :=
  ⟨rfl, rfl, rfl⟩

/-- Two reports agree on what was read. -/
structure SameCounts (both one : Report) : Prop where
  collected_eq : both.collected = one.collected
  used_eq : both.used = one.used
  skipped_eq : both.skipped = one.skipped
  configurations_eq : both.configurations = one.configurations

/-- **The reports agree** on what was read. -/
lemma sameCounts_metrics {out : Path} (hboth : (analyse tree settings .metrics).result = .ok both)
    (hone : (analyse tree { settings with outputDir := out } .throughput).result = .ok one) :
    SameCounts both one := by
  obtain ⟨listing, hlisting, -, -, hcollected, hused, hskipped, hconfigs⟩ := counts_analyse hboth
  obtain ⟨listing', hlisting', -, -, hcollected', hused', hskipped', hconfigs'⟩ :=
    counts_analyse hone
  rw [listFiles_outputDir] at hlisting'
  obtain rfl := Except.ok.inj (hlisting.symm.trans hlisting')
  obtain ⟨hfindings, hvalues, htally⟩ :=
    harvest_metrics tree settings.outputDir out listing.files
  exact ⟨hcollected.trans hcollected'.symm, by rw [hused, hused', hvalues],
    by rw [hskipped, hskipped', hfindings], by rw [hconfigs, hconfigs', htally]⟩

/-- **The files below the directory of throughput** stay as they are when sheets are written into
the directory of makespans. -/
lemma WroteSheets.node?_throughputDir {t t' : FileTree} {out : Path} {place rest : Place}
    {content : Bytes} (sheets : List Sheet)
    (h : WroteSheets t t' (sheets.map fun s => (makespanDir out, s))) (hfree : t'.LinkFree out)
    (hopen : t'.Opens (throughputDir out) place) :
    t'.node? (place ++ rest) = some (.file content) ↔
      t.node? (place ++ rest) = some (.file content) := by
  rcases h.others (place ++ rest) with heq | ⟨hnone, hdir⟩ | ⟨s, hs, hat⟩
  · rw [heq]
  · simp [hnone, hdir]
  · obtain ⟨place', hopen', hat'⟩ := h.placeOf s hs
    obtain ⟨s, -, rfl⟩ := List.mem_map.1 hs
    obtain ⟨above, habove, rfl⟩ := hopen.of_join isName_throughput hfree
    obtain ⟨above', habove', rfl⟩ := hopen'.of_join isName_makespan hfree
    obtain rfl := habove.unique habove'
    rw [hat', Except.ok.injEq, List.append_assoc, List.append_assoc, List.append_cancel_left_eq,
      List.singleton_append, List.singleton_append, List.cons.injEq] at hat
    exact absurd hat.1.symm throughput_ne_makespan

/-- What an analysis of throughput has written and the tree `t` that it has left, next to what an
analysis of both measures has written and the tree `t'` that it has left: the same tables of
throughput, and then their twins. -/
structure SameTables (out : Path) (twins : List (Sheet × Sheet)) (t t' : FileTree)
    (one both : Report) : Prop where
  /-- The tables are twins. -/
  areTwins : ∀ w ∈ twins, w.1.Twins w.2
  /-- The one has written the tables of throughput. -/
  written_one : one.written = twins.map (fun w => w.1.path (throughputDir out))
  /-- The other has written these first, and then their twins. -/
  written_both : both.written = one.written ++ twins.map (fun w => w.2.path (makespanDir out))
  /-- The one has left the tables of throughput. -/
  readFile_one : ∀ w ∈ twins, t.readFile (w.1.path (throughputDir out)) = .ok w.1.content
  /-- The other has left them with the same content. -/
  readFile_both : ∀ w ∈ twins, t'.readFile (w.1.path (throughputDir out)) = .ok w.1.content
  /-- It has left their twins in a directory of their own. -/
  readFile_twin : ∀ w ∈ twins, t'.readFile (w.2.path (makespanDir out)) = .ok w.2.content
  /-- Below the directory of throughput both have left the same files. -/
  node?_iff : ∀ place, t'.Opens (throughputDir out) place → ∀ rest content,
    t'.node? (place ++ rest) = some (.file content) ↔
      t.node? (place ++ rest) = some (.file content)
  /-- Nothing but the twins and further directories makes a difference. -/
  wrote : WroteSheets t t' (twins.map fun w => (makespanDir out, w.2))

/-- **The variants agree.** Let no link stand below the output directory, and let both the analysis
of two measures and, with the directory of throughput as its output directory, the analysis of
throughput succeed on a tree. Then the files that the latter writes are the first files that the
former writes, with the same content, and below that directory both leave the same files. The
other files that the former writes are the twins of these in the directory of makespans, and nothing
else is different but that directories are added. The tables are those of the usable results, one
for each workload and engine. Both reports agree on what was read. In the tally of any runs both
means of a configuration are of equally many of them.

**Proof sketch.** Both read the same and plan the same tables of throughput (`sheets_metrics`). So
the analysis of two measures goes on from the tree that the other one leaves, and what it writes
there is in a directory of its own. -/
theorem analyse_measures
    (hlinks : ∀ d ∈ Variant.metrics.sheetDirs settings.outputDir,
      (tree.makeDirs d).1.LinkFreeBelow settings.outputDir)
    (hboth : (analyse tree settings .metrics).result = .ok both)
    (hone : (analyse tree { settings with outputDir := throughputDir settings.outputDir }
      .throughput).result = .ok one) :
    (∃ (listing : Listing) (tables : List OutputKey) (configs : OutputKey → List ConfigKey),
      listFiles tree settings = .ok listing ∧
      SummaryTables (usable (readSummary tree) listing.files) tables configs ∧
      SameTables settings.outputDir
        (twinTables (usable (readSummary tree) listing.files) tables configs)
        (analyse tree { settings with outputDir := throughputDir settings.outputDir }
          .throughput).tree
        (analyse tree settings .metrics).tree one both) ∧
    SameCounts both one ∧
    ∀ runs, (SummaryTally.ofRuns runs).CountsAgree := by
  refine ⟨?_, sameCounts_metrics hboth hone, countsAgree_ofRuns⟩
  obtain ⟨listing, hlisting, sheets, rfl, hfailure, hwritten, htree⟩ := analyse_eq_ok hboth
  obtain ⟨listing', hlisting', sheets', rfl, hfailure', hwritten', htree'⟩ := analyse_eq_ok hone
  rw [listFiles_outputDir] at hlisting'
  obtain rfl := Except.ok.inj (hlisting.symm.trans hlisting')
  obtain ⟨tables, configs, htables, hfirst, hall⟩ :=
    sheets_metrics tree settings.outputDir listing.files
  have hapart := (tables_harvest .metrics tree settings.outputDir listing.files).standApart
  set twins := twinTables (usable (readSummary tree) listing.files) tables configs with htwins
  rw [hall] at hfailure hwritten htree hapart
  rw [hfirst] at hfailure' hwritten' htree'
  obtain ⟨hwrote, hwrote', hholds, hlinks'⟩ := wroteSheets_append hapart hlinks hfailure
  rw [← htree'] at hwrote hwrote'
  rw [← htree] at hwrote' hholds hlinks'
  have hfree : (analyse tree settings .metrics).tree.LinkFree settings.outputDir :=
    (hlinks' _ List.mem_cons_self).linkFree.of_keepsWays (gainsDirs_makeDirs _ _).keepsWays
  refine ⟨listing, tables, configs, hlisting, htables, {
    areTwins := List.forall_mem_map.2 fun g _ => twins_tables _ _ g
    written_one := ?_
    written_both := ?_
    readFile_one := fun w hw =>
      hwrote.holds (throughputDir settings.outputDir, w.1) (List.mem_map_of_mem hw)
    readFile_both := fun w hw => hholds (throughputDir settings.outputDir, w.1)
      (List.mem_append_left _ (List.mem_map_of_mem hw))
    readFile_twin := fun w hw => hholds (makespanDir settings.outputDir, w.2)
      (List.mem_append_right _ (List.mem_map_of_mem hw))
    node?_iff := fun place hopen rest content => ?_
    wrote := hwrote' }⟩
  · rw [hwritten', written_of_failure hfailure', List.map_map]
    rfl
  · rw [hwritten, hwritten', written_of_failure hfailure, written_of_failure hfailure',
      List.map_append, List.map_map, List.map_map]
    rfl
  · refine WroteSheets.node?_throughputDir (twins.map Prod.snd) ?_ hfree hopen
    rw [List.map_map]
    exact hwrote'

/-! ## The tree with a repetition and a second configuration -/

/-- The tree with the directory of throughput. -/
def throughputTree : FileTree :=
  (repeatTree.set [Text.encode "w", Text.encode "out"] .dir).set
    [Text.encode "w", Text.encode "out", Text.encode "throughput"] .dir

/-- The tree with a table of throughput and the directory of makespans. -/
def makespanTree (content : Bytes) : FileTree :=
  (throughputTree.set [Text.encode "w", Text.encode "out", Text.encode "throughput",
    Text.encode "a__c.csv"] (.file content)).set
      [Text.encode "w", Text.encode "out", Text.encode "makespan"] .dir

/-- Both tables can be written. -/
lemma writeSheets_metrics_repeatTree {s s' : Sheet} (hname : s.name = "a__c")
    (hname' : s'.name = "a__c") :
    (writeSheets repeatTree [(throughputDir sampleSettings.outputDir, s),
      (makespanDir sampleSettings.outputDir, s')]).failure = none := by
  have hmade : repeatTree.makeDirs (throughputDir sampleSettings.outputDir) =
      (throughputTree, .ok ()) :=
    makeDirs_measure_of_none (.inl rfl) (by decide) (by decide) (by decide)
  have hwrite : ∀ content, throughputTree.writeFile
      ((throughputDir sampleSettings.outputDir).join ⟨Text.encode "a__c.csv"⟩) content =
      .ok (throughputTree.set [Text.encode "w", Text.encode "out", Text.encode "throughput",
        Text.encode "a__c.csv"] (.file content)) :=
    writeFile_measure (.inl rfl) (by decide) (by decide) (by decide) (by decide)
  have hmade' : ∀ content, (throughputTree.set [Text.encode "w", Text.encode "out",
      Text.encode "throughput", Text.encode "a__c.csv"] (.file content)).makeDirs
        (makespanDir sampleSettings.outputDir) = (makespanTree content, .ok ()) :=
    fun content => makeDirs_measure (.inr rfl) rfl rfl rfl
  have hwrite' : ∀ content content', (makespanTree content).writeFile
      ((makespanDir sampleSettings.outputDir).join ⟨Text.encode "a__c.csv"⟩) content' =
      .ok ((makespanTree content).set [Text.encode "w", Text.encode "out", Text.encode "makespan",
        Text.encode "a__c.csv"] (.file content')) :=
    fun content => writeFile_measure (.inr rfl) rfl rfl rfl rfl
  have hpath : s.path (throughputDir sampleSettings.outputDir) =
      (throughputDir sampleSettings.outputDir).join ⟨Text.encode "a__c.csv"⟩ :=
    Sheet.path_of_name hname _
  have hpath' : s'.path (makespanDir sampleSettings.outputDir) =
      (makespanDir sampleSettings.outputDir).join ⟨Text.encode "a__c.csv"⟩ :=
    Sheet.path_of_name hname' _
  have hfirst := writeSheet_of_writeFile rfl hmade (hpath ▸ hwrite s.content)
  have hsecond := writeSheet_of_writeFile rfl (hmade' s.content)
    (hpath' ▸ hwrite' s.content s'.content)
  simp only [writeSheets, hfirst, hsecond]

/-- Both analyses of the tree succeed. -/
lemma exists_reports_repeatTree :
    ∃ both one, (analyse repeatTree sampleSettings .metrics).result = .ok both ∧
      (analyse repeatTree { sampleSettings with
        outputDir := throughputDir sampleSettings.outputDir } .throughput).result = .ok one := by
  obtain ⟨tables, configs, htables, hfirst, hall⟩ :=
    sheets_metrics repeatTree sampleSettings.outputDir repeatFiles
  obtain ⟨rfl, -⟩ := summaryTables_repeatTree htables
  have hfailure := writeSheets_metrics_repeatTree
    (name_throughputTable (usable (readSummary repeatTree) repeatFiles) (configs ⟨"a", "c"⟩)
      ⟨"a", "c"⟩)
    (name_makespanTable (usable (readSummary repeatTree) repeatFiles) (configs ⟨"a", "c"⟩)
      ⟨"a", "c"⟩)
  obtain ⟨both, hboth⟩ : ∃ both, (analyse repeatTree sampleSettings .metrics).result = .ok both :=
    exists_report listFiles_repeatTree rfl (by rw [hall]; exact hfailure)
  obtain ⟨one, hone⟩ : ∃ one, (analyse repeatTree { sampleSettings with
      outputDir := throughputDir sampleSettings.outputDir } .throughput).result = .ok one :=
    exists_report listFiles_repeatTree rfl (by rw [hfirst]; exact (writeSheets_append hfailure).1)
  exact ⟨both, one, hboth, hone⟩

/-- Every run of the tree takes a millisecond, and so on average. -/
lemma makespans_repeatTree :
    [sampleRun.config, otherConfig].map (fun k => (k, average
      ((valuesOf k (usable (readSummary repeatTree) repeatFiles)).map RunSummary.makespan))) =
      [(⟨"a", 1, "b", 2, "c", 3, 0⟩, 0.001), (⟨"a", 1, "b", 5, "c", 3, 0⟩, 0.001)] := by
  rw [usable_readSummary_repeatTree]
  decide +kernel

/-- Both analyses write the table of throughput of both configurations, and the one of both measures
writes its twin. -/
theorem analyse_measures_repeatTree :
    ∃ (both one : Report) (table twin : Sheet),
      (analyse repeatTree sampleSettings .metrics).result = .ok both ∧
      (analyse repeatTree { sampleSettings with
        outputDir := throughputDir sampleSettings.outputDir } .throughput).result = .ok one ∧
      both.used = one.used ∧ one.written = [.ofString "out/throughput/a__c.csv"] ∧
      both.written = [.ofString "out/throughput/a__c.csv", .ofString "out/makespan/a__c.csv"] ∧
      (analyse repeatTree { sampleSettings with
          outputDir := throughputDir sampleSettings.outputDir } .throughput).tree.readFile
        (.ofString "out/throughput/a__c.csv") = .ok table.content ∧
      (analyse repeatTree sampleSettings .metrics).tree.readFile
        (.ofString "out/throughput/a__c.csv") = .ok table.content ∧
      (analyse repeatTree sampleSettings .metrics).tree.readFile
        (.ofString "out/makespan/a__c.csv") = .ok twin.content ∧
      table.Twins twin ∧
      List.Forall₂ (fun (line : ConfigKey × Float) row =>
          IsTableRow "ops_per_second" line.1 line.2 row)
        [(⟨"a", 1, "b", 2, "c", 3, 0⟩, 1500), (⟨"a", 1, "b", 5, "c", 3, 0⟩, 4000)] table.rows ∧
      List.Forall₂ (fun (line : ConfigKey × Float) row =>
          IsTableRow "makespan_s" line.1 line.2 row)
        [(⟨"a", 1, "b", 2, "c", 3, 0⟩, 0.001), (⟨"a", 1, "b", 5, "c", 3, 0⟩, 0.001)]
        twin.rows := by
  obtain ⟨both, one, hboth, hone⟩ := exists_reports_repeatTree
  obtain ⟨⟨listing, tables, configs, hlisting, htables, hsame⟩, hcounts, -⟩ :=
    analyse_measures (fun _ _ => linkFreeBelow_makeDirs noLinks_repeatTree) hboth hone
  obtain rfl := Except.ok.inj (hlisting.symm.trans listFiles_repeatTree)
  obtain ⟨rfl, hconfigs⟩ := summaryTables_repeatTree htables
  set results := usable (readSummary repeatTree) repeatFiles with hresults
  have hmem : (throughputTable results (configs ⟨"a", "c"⟩) ⟨"a", "c"⟩,
      makespanTable results (configs ⟨"a", "c"⟩) ⟨"a", "c"⟩) ∈
        twinTables results [⟨"a", "c"⟩] configs := List.mem_singleton.2 rfl
  have hrows := forall₂_rows_throughputTable results (configs ⟨"a", "c"⟩) ⟨"a", "c"⟩
  have hrows' := forall₂_rows_makespanTable results (configs ⟨"a", "c"⟩) ⟨"a", "c"⟩
  refine ⟨both, one, _, _, hboth, hone, hcounts.used_eq, hsame.written_one,
    hsame.written_both.trans (congrArg (· ++ _) hsame.written_one), hsame.readFile_one _ hmem,
    hsame.readFile_both _ hmem, hsame.readFile_twin _ hmem, hsame.areTwins _ hmem, ?_, ?_⟩
  · rw [hconfigs, hresults, usable_readSummary_repeatTree] at hrows ⊢
    exact forall₂_lines hrows
  · rw [← makespans_repeatTree, ← hconfigs]
    exact forall₂_lines hrows'

end BenchTally
