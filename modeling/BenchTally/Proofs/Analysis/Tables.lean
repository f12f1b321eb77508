import BenchTally.Proofs.Analysis.Throughput
import BenchTally.Proofs.Analysis.Timeline
import BenchTally.Proofs.Output.Directories

set_option autoImplicit false
set_option relaxedAutoImplicit false

/-!
# The tables of an analysis

## Main definitions

* `makespanTable` — a table of makespans, read off the results that it is about.
* `Variant.sheetDirs` — the directories that an analysis writes to.
* `Variant.groupName` — the name of the tables that a configuration is in.
* `Variant.Tables` — the tables that an analysis of a list of files makes.

## Main results

* `tables_harvest` — an analysis plans its tables.
* `Variant.Tables.nodup`, `Path.not_same_of_ne` — tables of one analysis have different paths.
* `Variant.Tables.holdsSheets` — tables that are all written can be read back.
-/

namespace BenchTally

open FileTree

/-! ## Directories and names -/

/-- The directories that an analysis writes to. -/
def Variant.sheetDirs (variant : Variant) (output : Path) : List Path :=
  match variant with
  | .throughput | .timeline => [output]
  | .metrics => [throughputDir output, makespanDir output]

/-- The name of the tables that a configuration is in. -/
def Variant.groupName (variant : Variant) (k : ConfigKey) : String :=
  match variant with
  | .throughput | .metrics => k.outputKey.text
  | .timeline => k.chartKey.text

lemma isName_throughput : IsName (Text.encode "throughput") :=
  isName_encode (by simp) (by simp) (by simp) (by simp)

lemma isName_makespan : IsName (Text.encode "makespan") :=
  isName_encode (by simp) (by simp) (by simp) (by simp)

lemma throughput_ne_makespan : Text.encode "throughput" ≠ Text.encode "makespan" :=
  Text.encode_injective.ne (by simp)

lemma components_throughputDir (out : Path) :
    (throughputDir out).components = out.components ++ [Text.encode "throughput"] :=
  isName_throughput.components_join out

lemma components_makespanDir (out : Path) :
    (makespanDir out).components = out.components ++ [Text.encode "makespan"] :=
  isName_makespan.components_join out

lemma components_throughputDir_ne (out : Path) :
    (throughputDir out).components ≠ (makespanDir out).components := by
  rw [components_throughputDir, components_makespanDir, Ne, List.append_cancel_left_eq]
  exact fun heq => throughput_ne_makespan (List.cons.inj heq).1

lemma throughputDir_ne_makespanDir (out : Path) : throughputDir out ≠ makespanDir out :=
  fun heq => components_throughputDir_ne out (congrArg Path.components heq)

/-- The directories of an analysis are known by their components. -/
lemma Variant.sheetDirs_inj {variant : Variant} {out d d' : Path} (hd : d ∈ variant.sheetDirs out)
    (hd' : d' ∈ variant.sheetDirs out) (h : d.components = d'.components) : d = d' := by
  cases variant with
  | throughput | timeline => rw [List.mem_singleton.1 hd, List.mem_singleton.1 hd']
  | metrics =>
    simp only [sheetDirs, List.mem_cons, List.not_mem_nil, or_false] at hd hd'
    rcases hd with rfl | rfl <;> rcases hd' with rfl | rfl
    · rfl
    · exact absurd h (components_throughputDir_ne out)
    · exact absurd h.symm (components_throughputDir_ne out)
    · rfl

/-- The directories of an analysis are the output directory, or stand directly in it. -/
lemma Variant.isIn_of_mem_sheetDirs {variant : Variant} {out d : Path}
    (h : d ∈ variant.sheetDirs out) : d.IsIn out := by
  cases variant with
  | throughput | timeline => exact .inl (List.mem_singleton.1 h)
  | metrics =>
    simp only [sheetDirs, List.mem_cons, List.not_mem_nil, or_false] at h
    rcases h with rfl | rfl
    · exact .inr ⟨_, isName_throughput, rfl⟩
    · exact .inr ⟨_, isName_makespan, rfl⟩

/-- The components of the path of a sheet. -/
lemma Sheet.components_path {s : Sheet} (h : '/' ∉ s.name.toList) (directory : Path) :
    (s.path directory).components = directory.components ++ [s.fileName] :=
  (isName_fileName h).components_join directory

/-- Sheets of one analysis with the same path have the same directory and the same name. -/
lemma Variant.eq_of_same_path {variant : Variant} {out d d' : Path} {s s' : Sheet}
    (hd : d ∈ variant.sheetDirs out) (hd' : d' ∈ variant.sheetDirs out)
    (hslash : '/' ∉ s.name.toList) (hslash' : '/' ∉ s'.name.toList)
    (h : (s.path d).same (s'.path d')) : d = d' ∧ s.name = s'.name := by
  have hcomponents := Path.components_eq_of_same h
  rw [Sheet.components_path hslash, Sheet.components_path hslash'] at hcomponents
  obtain ⟨hdir, hname⟩ := List.append_inj' hcomponents rfl
  exact ⟨sheetDirs_inj hd hd' hdir, Sheet.fileName_inj.1 (List.cons.inj hname).1⟩

lemma Variant.slash_not_mem_groupName {variant : Variant} {k : ConfigKey} (h : k.OfFileName) :
    '/' ∉ (variant.groupName k).toList := by
  cases variant with
  | throughput | metrics => exact h.slash_not_mem_outputKey_text
  | timeline => exact h.slash_not_mem_chartKey_text

/-! ## Tables -/

/-- The table of makespans of a workload and an engine: for each of the given configurations a row
that ends with the average of the makespans of the configuration's results. -/
def makespanTable (results : List (ConfigKey × RunSummary)) (configs : List ConfigKey)
    (g : OutputKey) : Sheet where
  name := g.workload ++ "__" ++ g.storageEngine
  header := configHeader ++ ["makespan_s"]
  rows := configs.map fun k =>
    k.cells ++ [floatCell (average ((valuesOf k results).map RunSummary.makespan))]

/-- The rows of a table of makespans, read one by one. -/
lemma forall₂_rows_makespanTable (results : List (ConfigKey × RunSummary))
    (configs : List ConfigKey) (g : OutputKey) :
    List.Forall₂ (fun k row => IsTableRow "makespan_s" k
        (average ((valuesOf k results).map RunSummary.makespan)) row)
      configs (makespanTable results configs g).rows :=
  forall₂_isTableRow (by decide) configs _

/-- The planned sheets are the tables of the usable results. -/
lemma makespanSheets_intake (read : Path → Except ContentError RunSummary) (announce : Bool)
    (files : List Path) :
    makespanSheets (SummaryTally.ofRuns (intake read announce files).values) =
      (tablesOf (intake read announce files).values).map fun g =>
        makespanTable (usable read files)
          (tableConfigs (intake read announce files).values g) g := by
  have hmeasure : ∀ runs, (SummaryStats.ofList runs).makespan =
      .ofList (runs.map RunSummary.makespan) := fun runs => by
    rw [SummaryStats.ofList_eq]
  exact summarySheets_intake _ hmeasure read announce files

/-- The analysis of both measures of a tree with the sample file plans two sheets. -/
lemma sheets_metrics_sampleFile {tree : FileTree} {summary : RunSummary}
    (hread : readSummary tree sampleFile = .ok summary) :
    ∃ s s' : Sheet, s.name = "a__c" ∧ s'.name = "a__c" ∧ ∀ out,
      (harvest tree .metrics out [sampleFile]).plan.sheets =
        [(throughputDir out, s), (makespanDir out, s')] := by
  have hintake := intake_singleton false runOf_sampleFile hread
  have hthroughput := throughputSheets_intake (readSummary tree) false [sampleFile]
  have hmakespan := makespanSheets_intake (readSummary tree) false [sampleFile]
  have htables : tablesOf [(sampleRun.config, summary)] = [⟨"a", "c"⟩] := by rfl
  rw [hintake, htables] at hthroughput hmakespan
  simp only [harvest, harvestMetrics, hintake, hthroughput, hmakespan, List.map_cons,
    List.map_nil]
  exact ⟨_, _, rfl, rfl, fun out => rfl⟩

/-- The tables that an analysis of a list of files makes, with their directories: those of the
summaries or the charts of the usable files, and for the analysis of two measures first all tables
of the one and then all of the other. -/
def Variant.Tables (variant : Variant) (tree : FileTree) (out : Path) (files : List Path)
    (sheets : List (Path × Sheet)) : Prop :=
  match variant with
  | .throughput => ∃ tables configs,
      SummaryTables (usable (readSummary tree) files) tables configs ∧
      sheets = tables.map fun g =>
        (out, throughputTable (usable (readSummary tree) files) (configs g) g)
  | .metrics => ∃ tables configs,
      SummaryTables (usable (readSummary tree) files) tables configs ∧
      sheets =
        (tables.map fun g => (throughputDir out,
          throughputTable (usable (readSummary tree) files) (configs g) g)) ++
        tables.map fun g => (makespanDir out,
          makespanTable (usable (readSummary tree) files) (configs g) g)
  | .timeline => ∃ charts configs buckets,
      Charts (usable (readTimeline tree) files) charts configs buckets ∧
      sheets = charts.map fun g =>
        (out, chartTable (usable (readTimeline tree) files) (configs g) buckets g)

/-- **An analysis plans its tables.** -/
lemma tables_harvest (variant : Variant) (tree : FileTree) (out : Path) (files : List Path) :
    variant.Tables tree out files (harvest tree variant out files).plan.sheets := by
  have hsummary := (summaryTables_ofRuns (intake (readSummary tree) false files).values).of_mem_iff
    fun _ => mem_intake
  have hcharts := (charts_ofRuns (intake (readTimeline tree) true files).values).of_valuesOf
    (valuesOf_intake _ _ _)
  cases variant with
  | throughput =>
    refine ⟨_, _, hsummary, ?_⟩
    simp only [harvest, harvestThroughput, throughputSheets_intake, List.map_map]
    rfl
  | metrics =>
    refine ⟨_, _, hsummary, ?_⟩
    simp only [harvest, harvestMetrics, throughputSheets_intake, makespanSheets_intake,
      List.map_map]
    rfl
  | timeline =>
    refine ⟨_, _, _, hcharts, ?_⟩
    simp only [harvest, harvestTimeline, timelineSheets_intake, List.map_map]
    rfl

/-! ## Tables have paths of their own -/

/-- The names of the tables of usable files differ, and hold no slash. -/
lemma NamesTables.names {κ : Type} {key : ConfigKey → κ} {text : κ → String}
    (hnames : NamesTables key text) {keys : List κ} (hnodup : keys.Nodup)
    (hkeys : ∀ g ∈ keys, ∃ k : ConfigKey, k.OfFileName ∧ key k = g) :
    (keys.map text).Nodup ∧ ∀ g ∈ keys, '/' ∉ (text g).toList := by
  constructor
  · refine hnodup.map_on fun g hg g' hg' heq => ?_
    obtain ⟨k, hk, rfl⟩ := hkeys g hg
    obtain ⟨k', hk', rfl⟩ := hkeys g' hg'
    exact hnames.inj hk hk' heq
  · intro g hg
    obtain ⟨k, hk, rfl⟩ := hkeys g hg
    exact hnames.slash_not_mem hk

section Names

variable {files : List Path}

lemma SummaryTables.exists_ofFileName {read : Path → Except ContentError RunSummary}
    {tables : List OutputKey} {configs : OutputKey → List ConfigKey}
    (h : SummaryTables (usable read files) tables configs) :
    ∀ g ∈ tables, ∃ k : ConfigKey, k.OfFileName ∧ k.outputKey = g := by
  intro g hg
  obtain ⟨result, hresult, hkey⟩ := (h.mem_iff g).1 hg
  exact ⟨result.1, ofFileName_of_mem_usable hresult, hkey⟩

lemma Charts.exists_ofFileName {read : Path → Except ContentError (List (Sample Float))}
    {charts : List ChartKey} {configs : ChartKey → List ConfigKey}
    {buckets : ConfigKey → List TimeBucket}
    (h : Charts (usable read files) charts configs buckets) :
    ∀ g ∈ charts, ∃ k : ConfigKey, k.OfFileName ∧ k.chartKey = g := by
  intro g hg
  obtain ⟨result, hresult, -, hkey⟩ := (h.mem_iff g).1 hg
  exact ⟨result.1, ofFileName_of_mem_usable hresult, hkey⟩

lemma SummaryTables.names {read : Path → Except ContentError RunSummary}
    {tables : List OutputKey} {configs : OutputKey → List ConfigKey}
    (h : SummaryTables (usable read files) tables configs) :
    (tables.map OutputKey.text).Nodup ∧ ∀ g ∈ tables, '/' ∉ g.text.toList :=
  namesTables_outputKey.names (Keyed.nodup_of_ascending h.ascending) h.exists_ofFileName

lemma Charts.names {read : Path → Except ContentError (List (Sample Float))}
    {charts : List ChartKey} {configs : ChartKey → List ConfigKey}
    {buckets : ConfigKey → List TimeBucket}
    (h : Charts (usable read files) charts configs buckets) :
    (charts.map ChartKey.text).Nodup ∧ ∀ g ∈ charts, '/' ∉ g.text.toList :=
  namesTables_chartKey.names (Keyed.nodup_of_ascending h.ascending) h.exists_ofFileName

end Names

@[simp]
lemma name_throughputTable (results : List (ConfigKey × RunSummary)) (configs : List ConfigKey)
    (g : OutputKey) : (throughputTable results configs g).name = g.text :=
  g.text_eq.symm

@[simp]
lemma name_makespanTable (results : List (ConfigKey × RunSummary)) (configs : List ConfigKey)
    (g : OutputKey) : (makespanTable results configs g).name = g.text :=
  g.text_eq.symm

@[simp]
lemma name_chartTable (results : List (ConfigKey × List (Sample Float)))
    (configs : List ConfigKey) (buckets : ConfigKey → List TimeBucket) (g : ChartKey) :
    (chartTable results configs buckets g).name = g.text :=
  g.text_eq.symm

namespace Variant.Tables

variable {variant : Variant} {tree t : FileTree} {out : Path} {files : List Path}
  {sheets : List (Path × Sheet)}

/-- Every table is in a directory of the analysis, and named after a configuration. -/
lemma named (h : variant.Tables tree out files sheets) : ∀ s ∈ sheets,
    s.1 ∈ variant.sheetDirs out ∧
      ∃ k : ConfigKey, k.OfFileName ∧ s.2.name = variant.groupName k := by
  cases variant with
  | throughput =>
    obtain ⟨tables, configs, htables, rfl⟩ := h
    refine List.forall_mem_map.2 fun g hg => ⟨by simp [sheetDirs], ?_⟩
    obtain ⟨k, hk, rfl⟩ := htables.exists_ofFileName g hg
    exact ⟨k, hk, name_throughputTable _ _ _⟩
  | metrics =>
    obtain ⟨tables, configs, htables, rfl⟩ := h
    intro s hs
    rcases List.mem_append.1 hs with hs | hs
    · obtain ⟨g, hg, rfl⟩ := List.mem_map.1 hs
      obtain ⟨k, hk, rfl⟩ := htables.exists_ofFileName g hg
      exact ⟨by simp [sheetDirs], k, hk, name_throughputTable _ _ _⟩
    · obtain ⟨g, hg, rfl⟩ := List.mem_map.1 hs
      obtain ⟨k, hk, rfl⟩ := htables.exists_ofFileName g hg
      exact ⟨by simp [sheetDirs], k, hk, name_makespanTable _ _ _⟩
  | timeline =>
    obtain ⟨charts, configs, buckets, hcharts, rfl⟩ := h
    refine List.forall_mem_map.2 fun g hg => ⟨by simp [sheetDirs], ?_⟩
    obtain ⟨k, hk, rfl⟩ := hcharts.exists_ofFileName g hg
    exact ⟨k, hk, name_chartTable _ _ _ _⟩

lemma slash_not_mem (h : variant.Tables tree out files sheets) :
    ∀ s ∈ sheets, '/' ∉ s.2.name.toList := by
  intro s hs
  obtain ⟨-, k, hk, hname⟩ := h.named s hs
  rw [hname]
  exact slash_not_mem_groupName hk

/-- No two tables have the same directory and the same name. -/
lemma nodup (h : variant.Tables tree out files sheets) :
    (sheets.map fun s => (s.1, s.2.name)).Nodup := by
  have hdir : ∀ {κ : Type} {keys : List κ} {text : κ → String} (d : Path),
      (keys.map text).Nodup → (keys.map fun g => (d, text g)).Nodup := by
    intro κ keys text d hnodup
    refine List.Nodup.of_map Prod.snd ?_
    rw [List.map_map]
    exact hnodup
  cases variant with
  | throughput =>
    obtain ⟨tables, configs, htables, rfl⟩ := h
    simpa only [List.map_map, Function.comp_def, name_throughputTable] using
      hdir out htables.names.1
  | metrics =>
    obtain ⟨tables, configs, htables, rfl⟩ := h
    simp only [List.map_append, List.map_map, Function.comp_def, name_throughputTable,
      name_makespanTable]
    refine (hdir _ htables.names.1).append (hdir _ htables.names.1) fun s hs hs' => ?_
    obtain ⟨g, -, rfl⟩ := List.mem_map.1 hs
    obtain ⟨g', -, heq⟩ := List.mem_map.1 hs'
    exact throughputDir_ne_makespanDir out (Prod.mk.inj heq).1.symm
  | timeline =>
    obtain ⟨charts, configs, buckets, hcharts, rfl⟩ := h
    simpa only [List.map_map, Function.comp_def, name_chartTable] using
      hdir out hcharts.names.1

/-- **Tables of one analysis have different paths.** -/
lemma paths_pairwise (h : variant.Tables tree out files sheets) :
    (sheets.map fun s => s.2.path s.1).Pairwise fun p q => ¬ p.same q := by
  have hpairs := List.pairwise_map.1 h.nodup
  refine List.pairwise_map.2 (hpairs.imp_of_mem fun {s s'} hs hs' hne hsame => hne ?_)
  obtain ⟨hdir, hname⟩ := eq_of_same_path (h.named s hs).1 (h.named s' hs').1
    (h.slash_not_mem s hs) (h.slash_not_mem s' hs') hsame
  rw [hdir, hname]

/-- Tables stand apart. -/
lemma standApart (h : variant.Tables tree out files sheets) :
    StandApart (fun t => ∀ d ∈ variant.sheetDirs out, (t.makeDirs d).1.LinkFreeBelow out) sheets :=
  standApart_of_isIn (fun _ => isIn_of_mem_sheetDirs) (fun s hs => (h.named s hs).1)
    h.slash_not_mem h.nodup

/-- **Tables can be read back.** If all are written, and no link stands below the output directory,
each table is in its file afterwards. -/
lemma holdsSheets (h : variant.Tables tree out files sheets)
    (hlinks : ∀ d ∈ variant.sheetDirs out, (t.makeDirs d).1.LinkFreeBelow out)
    (hfailure : (writeSheets t sheets).failure = none) :
    HoldsSheets (writeSheets t sheets).tree sheets :=
  (wroteSheets_of_standApart h.standApart hlinks hfailure).1.holds

end Variant.Tables

/-! ## What an analysis writes -/

section Analyses

variable {tree : FileTree} {settings : Settings} {variant : Variant} {report : Report}

/-- **A successful analysis writes its tables**, in their order, and if no link stands below the
output directory they can all be read back. -/
lemma analyse_tables (h : (analyse tree settings variant).result = .ok report) :
    ∃ (listing : Listing) (sheets : List (Path × Sheet)), listFiles tree settings = .ok listing ∧
      (harvest tree variant settings.outputDir listing.files).plan.sheets = sheets ∧
      variant.Tables tree settings.outputDir listing.files sheets ∧
      report.written = sheets.map (fun s => s.2.path s.1) ∧
      ((∀ d ∈ variant.sheetDirs settings.outputDir,
          (tree.makeDirs d).1.LinkFreeBelow settings.outputDir) →
        HoldsSheets (analyse tree settings variant).tree sheets) := by
  obtain ⟨listing, hlisting, sheets, rfl, hfailure, hwritten, htree⟩ := analyse_eq_ok h
  have htables := tables_harvest variant tree settings.outputDir listing.files
  refine ⟨listing, _, hlisting, rfl, htables, ?_, fun hlinks => ?_⟩
  · rw [hwritten, written_of_failure hfailure]
  · rw [htree]
    exact htables.holdsSheets hlinks hfailure

end Analyses

/-- **No output overwrites another.** Texts that name configurations with different summary tables
or charts give these different names. Hence a successful analysis of any kind writes each of its
tables to a path of its own, and if no link stands below the output directory, each file holds
exactly its table at the end.

**Proof sketch.** A configuration that a text names has no separator within a field and no half of
one at a field's end, so the name of a table comes apart into the fields of its key. Names of files
hold no slash, so a table is where its directory's path leads; two directories of one analysis
stand next to each other. -/
theorem analyse_overwrites_nothing :
    (∀ (s₁ s₂ : List Char) (k₁ k₂ : ConfigKey), ConfigKey.ofText s₁ = .ok k₁ →
      ConfigKey.ofText s₂ = .ok k₂ →
      (k₁.outputKey.text = k₂.outputKey.text ↔ k₁.outputKey = k₂.outputKey) ∧
      (k₁.chartKey.text = k₂.chartKey.text ↔ k₁.chartKey = k₂.chartKey)) ∧
    ∀ (tree : FileTree) (settings : Settings) (variant : Variant) (report : Report),
      (analyse tree settings variant).result = .ok report →
      report.written.Pairwise (fun p q => ¬ p.same q) ∧
      ∃ (listing : Listing) (sheets : List (Path × Sheet)),
        listFiles tree settings = .ok listing ∧
        variant.Tables tree settings.outputDir listing.files sheets ∧
        report.written = sheets.map (fun s => s.2.path s.1) ∧
        ((∀ d ∈ variant.sheetDirs settings.outputDir,
            (tree.makeDirs d).1.LinkFreeBelow settings.outputDir) →
          ∀ s ∈ sheets,
            (analyse tree settings variant).tree.readFile (s.2.path s.1) = .ok s.2.content) := by
  constructor
  · intro s₁ s₂ k₁ k₂ h₁ h₂
    obtain ⟨hk₁, -⟩ := ConfigKey.eq_text_of_ofText h₁
    obtain ⟨hk₂, -⟩ := ConfigKey.eq_text_of_ofText h₂
    exact ⟨hk₁.outputKey_text_inj hk₂, hk₁.chartKey_text_inj hk₂⟩
  · intro tree settings variant report h
    obtain ⟨listing, sheets, hlisting, -, htables, hwritten, hheld⟩ := analyse_tables h
    exact ⟨hwritten ▸ htables.paths_pairwise, listing, sheets, hlisting, htables, hwritten, hheld⟩

/-- Two texts that differ in an underscore name configurations with different tables; and the table
of the sample tree can be read back. -/
theorem analyse_overwrites_nothing_sampleTree :
    ConfigKey.ofText "a__1__b__2___c__3__0".toList = .ok ⟨"a", 1, "b", 2, "_c", 3, 0⟩ ∧
      ConfigKey.ofText "a__1__b__2__c__3__0".toList = .ok ⟨"a", 1, "b", 2, "c", 3, 0⟩ ∧
      (OutputKey.mk "a" "_c").text ≠ (OutputKey.mk "a" "c").text ∧
      ∃ report, (analyse sampleTree sampleSettings .throughput).result = .ok report ∧
        report.written.Pairwise (fun p q => ¬ p.same q) ∧
        ∃ sheets : List (Path × Sheet), report.written = sheets.map (fun s => s.2.path s.1) ∧
          ∀ s ∈ sheets, (analyse sampleTree sampleSettings .throughput).tree.readFile
            (s.2.path s.1) = .ok s.2.content := by
  have h₁ : ConfigKey.ofText "a__1__b__2___c__3__0".toList =
      .ok ⟨"a", 1, "b", 2, "_c", 3, 0⟩ := by decide
  have h₂ : ConfigKey.ofText "a__1__b__2__c__3__0".toList =
      .ok ⟨"a", 1, "b", 2, "c", 3, 0⟩ := by decide
  obtain ⟨report, hreport⟩ := exists_report_throughput
  obtain ⟨hpaths, -, sheets, -, -, hwritten, hheld⟩ :=
    analyse_overwrites_nothing.2 sampleTree sampleSettings .throughput report hreport
  refine ⟨h₁, h₂, fun heq => ?_, report, hreport, hpaths, sheets, hwritten, hheld ?_⟩
  · have hkeys := (analyse_overwrites_nothing.1 _ _ _ _ h₁ h₂).1.1 heq
    exact absurd hkeys (by decide)
  · exact fun d _ => linkFreeBelow_makeDirs noLinks_sampleTree

end BenchTally
