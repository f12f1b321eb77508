import BenchTally.Proofs.Analysis.Stages
import BenchTally.Proofs.Output.Charts
import BenchTally.Proofs.Output.Writing

set_option autoImplicit false
set_option relaxedAutoImplicit false

/-!
# Analyses of throughput over time, end to end

## Main definitions

* `chartTable` — the table of a chart, read off the samples that it shows.

## Main results

* `analyse_timeline` — a successful analysis of throughput over time writes one table for each chart
  that there are samples for, with one row for each configuration and time bucket.
-/

namespace BenchTally

/-- The table of the chart of a workload, an engine and a number of workers: the rows of the given
configurations one after another, and of each configuration a row for each of the given buckets,
read off the configuration's samples in that bucket. -/
def chartTable (results : List (ConfigKey × List (Sample Float))) (configs : List ConfigKey)
    (buckets : ConfigKey → List TimeBucket) (g : ChartKey) : Sheet where
  name := g.workload ++ "__" ++ g.storageEngine ++ "__" ++ natCell g.workers
  header := timelineHeader
  rows := configs.flatMap fun k => (buckets k).map fun b =>
    chartRow k b ((samplesOf k results).filter fun s => s.bucket = b)

/-- **The rows of a chart**, read one by one: the configurations in turn, and of each the buckets
that its samples fall into, with the values of the samples in the bucket. -/
lemma Charts.forall₂_rows_chartTable {results : List (ConfigKey × List (Sample Float))}
    {charts : List ChartKey} {configs : ChartKey → List ConfigKey}
    {buckets : ConfigKey → List TimeBucket} (h : Charts results charts configs buckets)
    (g : ChartKey) :
    List.Forall₂ (fun line row => ∃ first rest,
        (samplesOf line.1 results).filter (fun s => s.bucket = line.2) = first :: rest ∧
          IsChartRow line.1 line.2 first rest row)
      ((configs g).flatMap fun k => (buckets k).map fun b => (k, b))
      (chartTable results (configs g) buckets g).rows := by
  have hrows : (chartTable results (configs g) buckets g).rows =
      ((configs g).flatMap fun k => (buckets k).map fun b => (k, b)).map fun line =>
        chartRow line.1 line.2 ((samplesOf line.1 results).filter fun s => s.bucket = line.2) := by
    simp only [chartTable, List.map_flatMap, List.map_map, Function.comp_def]
  rw [hrows, List.forall₂_map_right_iff, List.forall₂_same]
  rintro ⟨k, b⟩ hline
  obtain ⟨k', -, hline⟩ := List.mem_flatMap.1 hline
  obtain ⟨b', hb, heq⟩ := List.mem_map.1 hline
  obtain ⟨rfl, rfl⟩ := Prod.mk.inj heq
  obtain ⟨s, hs, hbucket⟩ := (h.mem_buckets_iff k' b').1 hb
  have hmem : s ∈ (samplesOf k' results).filter fun s => s.bucket = b' := by simp [hs, hbucket]
  obtain ⟨first, rest, hsamples⟩ := List.exists_cons_of_ne_nil (List.ne_nil_of_mem hmem)
  exact ⟨first, rest, hsamples, hsamples ▸ isChartRow_chartRow k' b' first rest⟩

/-- The planned sheets are the charts of the usable results. -/
lemma timelineSheets_intake (read : Path → Except ContentError (List (Sample Float)))
    (announce : Bool) (files : List Path) :
    timelineSheets (TimelineTally.ofRuns (intake read announce files).values) =
      (chartsOf (intake read announce files).values).map fun g =>
        chartTable (usable read files) (chartConfigs (intake read announce files).values g)
          (fun k => bucketsOf (samplesOf k (intake read announce files).values)) g := by
  rw [timelineSheets_ofRuns]
  refine List.map_congr_left fun g _ => ?_
  simp only [chartTable, ChartKey.text_eq, natCell, samplesOf, valuesOf_intake]

variable {tree : FileTree} {settings : Settings} {report : Report}

/-- **Analyses of throughput over time, end to end.** Let the output directory be free of links, and
let an analysis of throughput over time succeed. Its files are in ascending order of their names. It
writes exactly one table for each workload, engine and number of workers for which a usable file has
samples, in ascending order. The configurations of the table that have samples follow each other in
ascending order, and each has exactly one row for each time bucket that one of its samples falls
into, in ascending order. What is read in the columns of a row are the values of these samples,
taken in the order of the names of their files and of their records. Nothing else changes but that
directories are added.

**Proof sketch.** Reading goes configuration by configuration, which keeps the order of the files of
each. The tally holds under each configuration and bucket what its own samples amount to, and no
configuration without samples, so that no table is left out for lack of rows. -/
theorem analyse_timeline
    (hlinks : (tree.makeDirs settings.outputDir).1.LinkFree settings.outputDir)
    (h : (analyse tree settings .timeline).result = .ok report) :
    ∃ (listing : Listing) (names : List Bytes), listFiles tree settings = .ok listing ∧
      names.Pairwise (· < ·) ∧
      listing.files = names.map (fun name => settings.inputDir.join ⟨name⟩) ∧
      ∃ (results : List (ConfigKey × List (Sample Float))) (charts : List ChartKey)
          (configs : ChartKey → List ConfigKey) (buckets : ConfigKey → List TimeBucket),
        results = usable (readTimeline tree) listing.files ∧
        Charts results charts configs buckets ∧
        report.written = charts.map (fun g => settings.outputDir.join (.ofString
          (g.workload ++ "__" ++ g.storageEngine ++ "__" ++ natCell g.workers ++ ".csv"))) ∧
        report.written.Nodup ∧
        Wrote tree (analyse tree settings .timeline).tree settings.outputDir
          (charts.map fun g => chartTable results (configs g) buckets g) ∧
        (∀ g ∈ charts, List.Forall₂ (fun line row => ∃ first rest,
            (samplesOf line.1 results).filter (fun s => s.bucket = line.2) = first :: rest ∧
              IsChartRow line.1 line.2 first rest row)
          ((configs g).flatMap fun k => (buckets k).map fun b => (k, b))
          (chartTable results (configs g) buckets g).rows) ∧
        (charts = [] → (analyse tree settings .timeline).tree = tree) := by
  have hcharts : ∀ files, Charts (usable (readTimeline tree) files)
      (chartsOf (intake (readTimeline tree) true files).values)
      (chartConfigs (intake (readTimeline tree) true files).values)
      (fun k => bucketsOf (samplesOf k (intake (readTimeline tree) true files).values)) :=
    fun files => (charts_ofRuns _).of_valuesOf (valuesOf_intake _ _ _)
  have hplan : ∀ files, (harvest tree .timeline settings.outputDir files).plan.sheets =
      ((chartsOf (intake (readTimeline tree) true files).values).map fun g =>
        chartTable (usable (readTimeline tree) files)
          (chartConfigs (intake (readTimeline tree) true files).values g)
          (fun k => bucketsOf (samplesOf k (intake (readTimeline tree) true files).values))
          g).map fun s => (settings.outputDir, s) := fun files => by
    rw [harvest, harvestTimeline, timelineSheets_intake]
  obtain ⟨listing, names, hlisting, hascending, hfiles, hwritten, hnodup, hwrote, hnone⟩ :=
    analyse_wrote namesTables_chartKey hplan (fun _ g => g.text_eq.symm)
      (fun files => Keyed.nodup_of_ascending (hcharts files).ascending)
      (fun files g hg => by
        obtain ⟨result, hresult, -, hkey⟩ := ((hcharts files).mem_iff g).1 hg
        exact ⟨result.1, ofFileName_of_mem_usable hresult, hkey⟩)
      hlinks h
  exact ⟨listing, names, hlisting, hascending, hfiles, _, _, _, _, rfl, hcharts listing.files,
    hwritten, hnodup, hwrote, fun g _ => (hcharts listing.files).forall₂_rows_chartTable g, hnone⟩

/-! ## The tree with a repetition and a second configuration -/

/-- The values of the first record of each file. -/
def firstReading : Reading Float :=
  ⟨0.0, 0.0, false, false⟩

/-- The values of a record after a millisecond. -/
def laterReading (executed : Float) : Reading Float :=
  ⟨.ofScientific 1 false 0, executed, false, false⟩

/-- The sample between two such records. -/
def sampleOf (throughput : Float) : Sample Float :=
  ⟨⟨0⟩, throughput, false, false⟩

/-- There is a sample between two such records. -/
lemma samples_laterReading {x throughput : Float}
    (h : (x - 0.0) / Timeline.deltaSeconds firstReading (laterReading 0) = throughput) :
    Timeline.samples TimeBucket.ofMillis [firstReading, laterReading x] =
      [sampleOf throughput] := by
  have hadvance : Quantity.less (Quantity.ofNat 0)
      (Timeline.deltaSeconds firstReading (laterReading 0)) = true := by rfl
  have hbucket : TimeBucket.ofMillis (.ofScientific 1 false 0) = ⟨0⟩ := by decide +kernel
  have hsample : Timeline.sample? TimeBucket.ofMillis firstReading (laterReading x) =
      some ⟨TimeBucket.ofMillis (.ofScientific 1 false 0),
        (x - 0.0) / Timeline.deltaSeconds firstReading (laterReading 0), false, false⟩ :=
    if_pos hadvance
  rw [h, hbucket] at hsample
  simp only [Timeline.samples, List.tail_cons, List.zip_cons_cons, List.zip_nil_right,
    List.filterMap_cons, hsample, List.filterMap_nil, sampleOf]

/-- The samples of a file, from its header and its records. -/
lemma readTimeline_of_records {file : Path} {content : String} {header : List String}
    {records : List (Option (List String))} {readings : List (Reading Float)}
    (hfile : tree.readFile file = .ok (Text.encode content))
    (hheader : Table.decodeRecord? ((Table.read (Text.encode content)).headD []) = some header)
    (hrecords : (Table.read (Text.encode content)).tail.map Table.decodeRecord? = records)
    (hreadings : Timeline.readings Decimal.read? (some header) records = .ok readings) :
    readTimeline tree file = .ok (Timeline.samples TimeBucket.ofMillis readings) := by
  rw [readTimeline, hfile]
  simp only [Timeline.ofBytes, hheader, hrecords, Timeline.ofRecords, hreadings, Except.map]

/-- What is read from the tree: a sample of each file, with as many thousand operations per second
as there are operations in the millisecond. -/
lemma usable_readTimeline_repeatTree : usable (readTimeline repeatTree) repeatFiles =
    [(sampleRun.config, [sampleOf 1000]), (sampleRun.config, [sampleOf 2000]),
      (otherConfig, [sampleOf 4000])] := by
  have hread : ∀ {file : Path} {content : String} {x throughput : Float} (s : String),
      repeatTree.readFile file = .ok (Text.encode content) →
      Table.decodeRecord? ((Table.read (Text.encode content)).headD []) =
        some ["elapsed_time_ms", "executed_count"] →
      (Table.read (Text.encode content)).tail.map Table.decodeRecord? =
        [some ["0", "0"], some ["1", s]] →
      Timeline.readings Decimal.read? (some ["elapsed_time_ms", "executed_count"])
        [some ["0", "0"], some ["1", s]] = .ok [firstReading, laterReading x] →
      (x - 0.0) / Timeline.deltaSeconds firstReading (laterReading 0) = throughput →
      readTimeline repeatTree file = .ok [sampleOf throughput] :=
    fun _ hfile hheader hrecords hreadings hthroughput =>
      samples_laterReading hthroughput ▸ readTimeline_of_records hfile hheader hrecords hreadings
  exact usable_repeatFiles
    (hread (x := .ofScientific 1 false 0) "1" readFile_sampleFile (by decide)
      (by decide) (by rfl) (by rfl))
    (hread (x := .ofScientific 2 false 0) "2" readFile_secondFile (by decide)
      (by decide) (by rfl) (by rfl))
    (hread (x := .ofScientific 4 false 0) "4" readFile_otherFile (by decide)
      (by decide) (by rfl) (by rfl))

/-- Both configurations are in one chart, and have one bucket. -/
lemma charts_repeatTree {charts : List ChartKey} {configs : ChartKey → List ConfigKey}
    {buckets : ConfigKey → List TimeBucket}
    (h : Charts (usable (readTimeline repeatTree) repeatFiles) charts configs buckets) :
    charts = [⟨"a", "c", 1⟩] ∧ configs ⟨"a", "c", 1⟩ = [sampleRun.config, otherConfig] ∧
      buckets sampleRun.config = [⟨0⟩] ∧ buckets otherConfig = [⟨0⟩] := by
  rw [usable_readTimeline_repeatTree] at h
  have hbuckets : ∀ k ∈ [sampleRun.config, otherConfig], buckets k = [⟨0⟩] := fun k hk => by
    have hascending : (buckets k).Pairwise fun b b' => compare b b' = .lt :=
      (h.buckets_ascending k).imp fun {b b'} => Std.compare_eq_lt.2
    refine Keyed.eq_singleton_of_ascending hascending fun b => ?_
    rw [h.mem_buckets_iff]
    simp only [List.mem_cons, List.not_mem_nil, or_false] at hk
    rcases hk with rfl | rfl <;>
      simp [samplesOf, valuesOf, sampleRun, otherConfig, sampleOf, eq_comm]
  refine ⟨?_, ?_, hbuckets _ (by simp), hbuckets _ (by simp)⟩
  · refine Keyed.eq_singleton_of_ascending h.ascending fun g => ?_
    rw [h.mem_iff]
    simp [sampleRun, otherConfig, ConfigKey.chartKey, eq_comm]
  · refine Keyed.eq_of_ascending (h.configs_ascending _) (by decide) fun k => ?_
    rw [h.mem_configs_iff]
    constructor
    · rintro ⟨⟨result, hresult, -, rfl⟩, -⟩
      simp only [List.mem_cons, List.not_mem_nil, or_false] at hresult
      rcases hresult with rfl | rfl | rfl <;> simp
    · intro hk
      simp only [List.mem_cons, List.not_mem_nil, or_false] at hk
      rcases hk with rfl | rfl <;> simp [sampleRun, otherConfig, ConfigKey.chartKey]

/-- The analysis of throughput over time of the tree succeeds. -/
lemma exists_report_timeline :
    ∃ report, (analyse repeatTree sampleSettings .timeline).result = .ok report := by
  have hcharts := (charts_ofRuns (intake (readTimeline repeatTree) true
    repeatFiles).values).of_valuesOf (valuesOf_intake _ _ _)
  have hplan := timelineSheets_intake (readTimeline repeatTree) true repeatFiles
  have hname : FileTree.IsNameIn sampleSettings.outputDir (Text.encode "a__c__1.csv") := by decide
  have hwrite := opens_repeatOutput.writeFile_join hname (by decide)
  refine exists_report listFiles_repeatTree rfl ?_
  rw [(charts_repeatTree hcharts).1] at hplan
  simp only [harvest, harvestTimeline, hplan, List.map_cons, List.map_nil]
  exact failure_writeSheets_singleton rfl makeDirs_repeatTree (hwrite _)

/-- The columns of numbers of a chart. -/
def numberColumns : List String :=
  ["elapsed_s", "mean", "min", "max", "tracking_prob", "repartitioning_prob"]

/-- A configuration with a repetition and another one, next to a file that is left out: there is one
chart with one row for each, of the two samples of the repetitions and of the only sample. -/
theorem analyse_timeline_repeatTree :
    (repeatTree.makeDirs sampleSettings.outputDir).1.LinkFree sampleSettings.outputDir ∧
      ∃ (report : Report) (table : Sheet),
        (analyse repeatTree sampleSettings .timeline).result = .ok report ∧
        report.written = [.ofString "out/a__c__1.csv"] ∧
        (analyse repeatTree sampleSettings .timeline).tree.readFile (.ofString "out/a__c__1.csv") =
          .ok table.content ∧
        table.rows.map (fun row => numberColumns.map (numberIn? timelineHeader row)) =
          [[some 0, some 1500, some 1000, some 2000, some 0, some 0],
            [some 0, some 4000, some 4000, some 4000, some 0, some 0]] := by
  obtain ⟨report, hreport⟩ := exists_report_timeline
  obtain ⟨listing, -, hlisting, -, -, results, charts, configs, buckets, hresults, hcharts,
    hwritten, -, hwrote, hrows, -⟩ := analyse_timeline linkFree_repeatTree hreport
  obtain rfl := Except.ok.inj (hlisting.symm.trans listFiles_repeatTree)
  obtain ⟨rfl, hconfigs, hbuckets, hbuckets'⟩ := charts_repeatTree (hresults ▸ hcharts)
  have hrow := hrows ⟨"a", "c", 1⟩ (by simp)
  have hread := hwrote.readFile
    (chartTable results (configs ⟨"a", "c", 1⟩) buckets ⟨"a", "c", 1⟩) (by simp)
  simp only [hconfigs, hbuckets, hbuckets', List.flatMap_cons, List.flatMap_nil, List.map_cons,
    List.map_nil, List.append_nil, List.singleton_append] at hrow
  refine ⟨linkFree_repeatTree, report, _, hreport, hwritten, hread, ?_⟩
  rw [hresults, usable_readTimeline_repeatTree] at hrow ⊢
  obtain ⟨first, _, ⟨s, later, hsamples, hfirst⟩, hrest, hcons⟩ :=
    List.forall₂_cons_left_iff.1 hrow
  obtain ⟨second, _, ⟨s', later', hsamples', hsecond⟩, hnil, rfl⟩ :=
    List.forall₂_cons_left_iff.1 hrest
  obtain ⟨rfl, rfl⟩ := List.cons.inj hsamples
  obtain ⟨rfl, rfl⟩ := List.cons.inj hsamples'
  rw [hconfigs, hcons, List.forall₂_nil_left_iff.1 hnil]
  simp only [numberColumns, List.map_cons, List.map_nil, hfirst.elapsed, hfirst.mean, hfirst.min,
    hfirst.max, hfirst.tracking, hfirst.repartitioning, hsecond.elapsed, hsecond.mean, hsecond.min,
    hsecond.max, hsecond.tracking, hsecond.repartitioning]
  rfl

end BenchTally
