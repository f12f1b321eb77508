import BenchTally.Proofs.Analysis.Accounting
import BenchTally.Proofs.Analysis.Timeline
import BenchTally.Proofs.Stats.PerKey

set_option autoImplicit false
set_option relaxedAutoImplicit false

/-!
# What files contribute

An analysis counts a file as used once it has read it. Whether the file changes a tally is decided
later: totals always do, and a run over time does if it has samples. A run that is over before time
advances from one record to another is read without a fault and has none.

## Main definitions

* `Variant.contributes` — whether a file has totals or samples to add to a tally.
* `Variant.idles` — whether a file is read and has nothing to add.
* `Variant.ChangesTally` — a file that changes every tally that it is added to.
* `CountsUsed` — what the counts of a report say about the files that contribute.

## Main results

* `SummaryTally.add_ne_self`, `TimelineTally.add_eq_self_iff` — what leaves a tally as it is.
* `Variant.contributes_iff_changesTally` — the files that contribute are those that change tallies.
* `Variant.mem_tallied_iff` — the configurations of a tally are those of the files that contribute.
* `analyse_contributions` — what an analysis counts as used.
-/

namespace BenchTally

/-! ## Additions that change a tally -/

/-- A further run changes the means: it is counted. -/
lemma SummaryStats.add_ne_self (stats : SummaryStats) (run : RunSummary) :
    stats.add run ≠ stats := by
  intro h
  have hcount : stats.opsPerSecond.count + 1 = stats.opsPerSecond.count :=
    congrArg (fun s => s.opsPerSecond.count) h
  omega

/-- **A run changes every tally.** -/
lemma SummaryTally.add_ne_self (tally : SummaryTally) (k : ConfigKey) (run : RunSummary) :
    tally.add k run ≠ tally :=
  Keyed.alter_ne_self tally k fun stats => stats.add_ne_self run

section Samples

variable {α : Type} [Quantity α]

/-- The number of samples in a bucket of a series. -/
def Series.samplesIn (series : Series α) (b : TimeBucket) : Nat :=
  ((series.get? b).map BucketStats.count).getD 0

/-- A sample is counted in its bucket. -/
lemma Series.samplesIn_add (series : Series α) (s : Sample α) (b : TimeBucket) :
    (series.add s).samplesIn b = series.samplesIn b + if s.bucket = b then 1 else 0 := by
  unfold samplesIn
  rw [get?_add]
  by_cases hb : b = s.bucket
  · subst hb
    cases series.get? s.bucket <;> simp [BucketStats.single, BucketStats.add]
  · rw [if_neg hb, if_neg (Ne.symm hb), Nat.add_zero]

/-- **Samples in a row** are each counted in their buckets. -/
lemma Series.samplesIn_addAll (series : Series α) (samples : List (Sample α)) (b : TimeBucket) :
    (series.addAll samples).samplesIn b =
      series.samplesIn b + samples.countP fun s => s.bucket = b := by
  induction samples generalizing series with
  | nil => rfl
  | cons s samples ih =>
    change ((series.add s).addAll samples).samplesIn b = _
    rw [ih, samplesIn_add, List.countP_cons]
    simp only [decide_eq_true_eq]
    omega

/-- A series with further samples is another one. -/
lemma Series.addAll_ne_self (series : Series α) {samples : List (Sample α)} (h : samples ≠ []) :
    series.addAll samples ≠ series := by
  intro hself
  obtain ⟨s, hs⟩ := List.exists_mem_of_ne_nil samples h
  have hcount := samplesIn_addAll series samples s.bucket
  have hpos : 0 < samples.countP fun s' => s'.bucket = s.bucket :=
    List.countP_pos_iff.2 ⟨s, hs, by simp⟩
  rw [hself] at hcount
  omega

/-- **A repetition changes every tally, or none**: it changes them if it has samples. -/
lemma TimelineTally.add_eq_self_iff {tally : TimelineTally α} {k : ConfigKey}
    {samples : List (Sample α)} : tally.add k samples = tally ↔ samples = [] := by
  constructor
  · intro h
    by_contra hne
    rw [add_of_ne_nil tally hne] at h
    exact Keyed.alter_ne_self tally k (fun series => series.addAll_ne_self hne) h
  · rintro rfl
    exact add_nil tally k

end Samples

/-! ## Files that contribute -/

section Files

variable {β : Type} {read : Path → Except ContentError β} {announce : Bool} {files : List Path}
  {variant : Variant} {tree : FileTree} {file : Path}

/-- Whether an analysis can read a file: its name names a run, and its content has no fault. -/
def Variant.reads (variant : Variant) (tree : FileTree) (file : Path) : Bool :=
  match variant with
  | .throughput | .metrics => (usableResult? (readSummary tree) file).isSome
  | .timeline => (usableResult? (readTimeline tree) file).isSome

/-- Whether a file has something to add to the tally of an analysis: it can be read and has totals
or, where the analysis is over time, samples. -/
def Variant.contributes (variant : Variant) (tree : FileTree) (file : Path) : Bool :=
  match variant with
  | .throughput | .metrics => variant.reads tree file
  | .timeline => (usableResult? (readTimeline tree) file).any fun result => !result.2.isEmpty

/-- Whether a file can be read and has nothing to add. -/
def Variant.idles (variant : Variant) (tree : FileTree) (file : Path) : Bool :=
  variant.reads tree file && !variant.contributes tree file

/-- A file can be read, and what is read from it changes every tally that it is added to. -/
def Variant.ChangesTally (variant : Variant) (tree : FileTree) (file : Path) : Prop :=
  match variant with
  | .throughput | .metrics => ∃ result, usableResult? (readSummary tree) file = some result ∧
      ∀ tally : SummaryTally, tally.add result.1 result.2 ≠ tally
  | .timeline => ∃ result, usableResult? (readTimeline tree) file = some result ∧
      ∀ tally : TimelineTally Float, tally.add result.1 result.2 ≠ tally

/-- **The files that contribute are those that change tallies.** -/
lemma Variant.contributes_iff_changesTally :
    variant.contributes tree file = true ↔ variant.ChangesTally tree file := by
  cases variant with
  | throughput | metrics =>
    simp [contributes, reads, ChangesTally, SummaryTally.add_ne_self, Option.isSome_iff_exists]
  | timeline =>
    have : Nonempty (TimelineTally Float) := ⟨Keyed.empty⟩
    simp [contributes, ChangesTally, TimelineTally.add_eq_self_iff, Option.any_eq_true]

/-- What contributes can be read. -/
lemma Variant.reads_of_contributes (h : variant.contributes tree file = true) :
    variant.reads tree file = true := by
  cases variant with
  | throughput | metrics => exact h
  | timeline =>
    obtain ⟨result, hresult, -⟩ := (Option.any_eq_true _ _).1 h
    exact Option.isSome_iff_exists.2 ⟨result, hresult⟩

/-- The names of files that can be read name runs. -/
lemma Variant.exists_runOf_of_reads (h : variant.reads tree file = true) :
    ∃ run, runOf file = .ok run := by
  cases variant <;>
    obtain ⟨result, hresult⟩ := Option.isSome_iff_exists.1 h <;>
    obtain ⟨run, hrun, -⟩ := usableResult?_eq_some_iff.1 hresult <;>
    exact ⟨run, hrun⟩

/-- **A file idles if its run over time has no samples.** -/
lemma Variant.idles_iff : variant.idles tree file = true ↔
    variant = .timeline ∧ (∃ run, runOf file = .ok run) ∧ readTimeline tree file = .ok [] := by
  cases variant with
  | throughput | metrics => simp [idles, contributes]
  | timeline =>
    cases hrun : runOf file with
    | error e => simp [idles, reads, contributes, usableResult?, hrun]
    | ok run =>
      cases hread : readTimeline tree file <;>
        simp [idles, reads, contributes, usableResult?, hrun, hread]

/-- An analysis counts the files that it can read as used. -/
lemma used_harvest (tree : FileTree) (variant : Variant) (out : Path) (files : List Path) :
    (harvest tree variant out files).used = files.countP (variant.reads tree) := by
  cases variant <;>
    exact values_intake_perm.length_eq.trans List.length_filterMap_eq_countP

/-- **A file that is used contributes or idles**, and not both. -/
lemma Variant.countP_reads (variant : Variant) (tree : FileTree) (files : List Path) :
    files.countP (variant.reads tree) =
      files.countP (variant.contributes tree) + files.countP (variant.idles tree) := by
  rw [List.countP_eq_countP_filter_add _ _ (variant.contributes tree), List.countP_filter,
    List.countP_filter]
  congr 1
  refine List.countP_congr fun f _ => ?_
  simpa using Variant.reads_of_contributes

/-- The configurations of some of the results that are read are those of some of the files. -/
lemma exists_usable_iff (read : Path → Except ContentError β) (files : List Path) (k : ConfigKey)
    (keep : β → Bool) :
    (∃ result ∈ usable read files, keep result.2 = true ∧ result.1 = k) ↔
      ∃ file ∈ files, (usableResult? read file).any (fun result => keep result.2) = true ∧
        ∃ run, runOf file = .ok run ∧ run.config = k := by
  constructor
  · rintro ⟨result, hresult, hkeep, rfl⟩
    obtain ⟨file, hfile, hread⟩ := List.mem_filterMap.1 hresult
    obtain ⟨run, hrun, hconfig, -⟩ := usableResult?_eq_some_iff.1 hread
    exact ⟨file, hfile, (Option.any_eq_true _ _).2 ⟨result, hread, hkeep⟩, run, hrun, hconfig⟩
  · rintro ⟨file, hfile, hany, run, hrun, rfl⟩
    obtain ⟨result, hread, hkeep⟩ := (Option.any_eq_true _ _).1 hany
    obtain ⟨run', hrun', hconfig, -⟩ := usableResult?_eq_some_iff.1 hread
    obtain rfl := Except.ok.inj (hrun'.symm.trans hrun)
    exact ⟨result, List.mem_filterMap.2 ⟨file, hfile, hread⟩, hkeep, hconfig.symm⟩

/-- **The configurations of a tally** are those of the files that contribute. -/
lemma Variant.mem_tallied_iff {k : ConfigKey} : k ∈ variant.tallied tree files ↔
    ∃ file ∈ files, variant.contributes tree file = true ∧
      ∃ run, runOf file = .ok run ∧ run.config = k := by
  cases variant with
  | throughput | metrics =>
    refine SummaryTally.mem_keys_ofRuns.trans ?_
    simp only [mem_intake]
    simpa [contributes, reads] using exists_usable_iff (readSummary tree) files k fun _ => true
  | timeline =>
    refine TimelineTally.mem_keys_ofRuns.trans ?_
    simp only [mem_intake]
    simpa [contributes] using
      exists_usable_iff (readTimeline tree) files k fun samples => !samples.isEmpty

/-- There are no configurations if no file contributes. -/
lemma Variant.tallied_eq_nil_iff : variant.tallied tree files = [] ↔
    ∀ file ∈ files, variant.contributes tree file = false := by
  constructor
  · intro hnil file hfile
    by_contra hcontributes
    rw [Bool.not_eq_false] at hcontributes
    obtain ⟨run, hrun⟩ := exists_runOf_of_reads (reads_of_contributes hcontributes)
    have hmem : run.config ∈ variant.tallied tree files :=
      mem_tallied_iff.2 ⟨file, hfile, hcontributes, run, hrun, rfl⟩
    simp [hnil] at hmem
  · intro hnone
    refine List.eq_nil_iff_forall_not_mem.2 fun k hk => ?_
    obtain ⟨file, hfile, hcontributes, -⟩ := mem_tallied_iff.1 hk
    simp [hnone file hfile] at hcontributes

end Files

/-! ## What is counted as used -/

variable {tree : FileTree} {settings : Settings} {variant : Variant} {report : Report}

/-- What the counts of a report say about the files that are listed and contribute, or idle. -/
structure CountsUsed (tree : FileTree) (variant : Variant) (report : Report) (files : List Path) :
    Prop where
  /-- The files that contribute and those that idle are counted as used. -/
  used_eq : report.used = files.countP (variant.contributes tree) +
    files.countP (variant.idles tree)
  /-- Those that contribute change every tally that they are added to. -/
  contributes_iff : ∀ file, variant.contributes tree file = true ↔ variant.ChangesTally tree file
  /-- Those that idle are runs over time that are read without a fault and have no samples. -/
  idles_iff : ∀ file, variant.idles tree file = true ↔
    variant = .timeline ∧ (∃ run, runOf file = .ok run) ∧ readTimeline tree file = .ok []
  /-- For totals the files that contribute are counted. -/
  used_of_ne_timeline : variant ≠ .timeline →
    report.used = files.countP (variant.contributes tree)
  /-- For runs over time they are counted exactly if no file idles. -/
  used_eq_iff : report.used = files.countP (variant.contributes tree) ↔
    ∀ file ∈ files, variant.idles tree file = false
  /-- The configurations of the tally are counted. -/
  configurations_eq : report.configurations = (variant.tallied tree files).length
  /-- They are those of the files that contribute. -/
  mem_tallied_iff : ∀ k, k ∈ variant.tallied tree files ↔
    ∃ file ∈ files, variant.contributes tree file = true ∧
      ∃ run, runOf file = .ok run ∧ run.config = k
  /-- There are none exactly if no file contributes. -/
  configurations_eq_zero_iff : report.configurations = 0 ↔
    ∀ file ∈ files, variant.contributes tree file = false
  /-- Then the files that idle are counted as used. -/
  used_of_configurations_eq_zero : report.configurations = 0 →
    report.used = files.countP (variant.idles tree)

/-- **What an analysis counts as used.** A successful analysis counts a listed file as used if it
contributes, which is to say that it changes every tally that it is added to, or if it idles. Only
runs over time can idle, those that are read without a fault and have no samples. So the count is
that of the files that contribute for totals, and else exactly if none idles. The configurations
that are counted are those of the files that contribute; where there are none, the files that are
counted as used are those that idle.

**Proof sketch.** A file is counted once it is read. An addition of totals is counted under its
configuration, and so is each sample in its bucket, so that only additions without samples leave a
tally as it is. -/
theorem analyse_contributions (h : (analyse tree settings variant).result = .ok report) :
    ∃ listing : Listing, listFiles tree settings = .ok listing ∧
      CountsUsed tree variant report listing.files := by
  obtain ⟨listing, hlisting, -, -, -, hused, -, hconfigs⟩ := counts_analyse h
  rw [configurations_harvest] at hconfigs
  rw [used_harvest, Variant.countP_reads] at hused
  have hidle : listing.files.countP (variant.idles tree) = 0 ↔
      ∀ file ∈ listing.files, variant.idles tree file = false := by
    simp [List.countP_eq_zero]
  have hnone : report.configurations = 0 ↔
      ∀ file ∈ listing.files, variant.contributes tree file = false := by
    rw [hconfigs, List.length_eq_zero_iff, Variant.tallied_eq_nil_iff]
  refine ⟨listing, hlisting, {
    used_eq := hused
    contributes_iff := fun _ => Variant.contributes_iff_changesTally
    idles_iff := fun _ => Variant.idles_iff
    used_of_ne_timeline := fun hvariant => ?_
    used_eq_iff := ?_
    configurations_eq := hconfigs
    mem_tallied_iff := fun _ => Variant.mem_tallied_iff
    configurations_eq_zero_iff := hnone
    used_of_configurations_eq_zero := fun hzero => ?_ }⟩
  · have hnever : ∀ file ∈ listing.files, variant.idles tree file = false := fun file _ =>
      Bool.eq_false_iff.2 fun hfile => hvariant (Variant.idles_iff.1 hfile).1
    rw [hused, hidle.2 hnever, Nat.add_zero]
  · rw [hused, ← hidle]
    omega
  · have hcontributes : listing.files.countP (variant.contributes tree) = 0 := by
      simpa [List.countP_eq_zero] using hnone.1 hzero
    rw [hused, hcontributes, Nat.zero_add]

/-- In the sample tree the file has totals, so that it is used and contributes. -/
theorem analyse_contributions_sampleTree :
    ∃ report, (analyse sampleTree sampleSettings .throughput).result = .ok report ∧
      report.used = [sampleFile].countP (Variant.throughput.contributes sampleTree) ∧
      report.used = 1 := by
  obtain ⟨report, hreport⟩ := exists_report_throughput
  obtain ⟨summary, hread⟩ := readSummary_sampleTree
  obtain ⟨listing, hlisting, hcounts⟩ := analyse_contributions hreport
  obtain rfl := Except.ok.inj (hlisting.symm.trans listFiles_sampleTree)
  have hcontributes : Variant.throughput.contributes sampleTree sampleFile = true :=
    Option.isSome_iff_exists.2 ⟨(sampleRun.config, summary),
      usableResult?_eq_some_iff.2 ⟨sampleRun, runOf_sampleFile, rfl, hread⟩⟩
  have hused := hcounts.used_of_ne_timeline (by decide)
  refine ⟨report, hreport, hused, hused.trans ?_⟩
  rw [List.countP_singleton, if_pos hcontributes]

/-- The content of a result file with one record, and so without samples. -/
def idleContent : String :=
  "elapsed_time_ms,executed_count\n1000,10\n"

/-- A working directory with an input directory that holds one such result file. -/
def idleTree : FileTree :=
  ((FileTree.ofWorkDir (Text.encode "w")).set [Text.encode "w", Text.encode "in"] .dir).set
    [Text.encode "w", Text.encode "in", Text.encode "a__1__b__2__c__3__0(1).csv"]
    (.file (Text.encode idleContent))

lemma opens_idleTree :
    idleTree.Opens sampleSettings.inputDir [Text.encode "w", Text.encode "in"] :=
  opens_inputDir (by decide) (by decide)

lemma readTimeline_idleTree : readTimeline idleTree sampleFile = .ok [] := by
  have hname : FileTree.IsNameIn sampleSettings.inputDir
      (Text.encode "a__1__b__2__c__3__0(1).csv") := by decide
  have hfile : idleTree.readFile sampleFile = .ok (Text.encode idleContent) :=
    FileTree.readFile_join opens_idleTree hname (by decide)
  have hheader : Table.decodeRecord? ((Table.read (Text.encode idleContent)).headD []) =
      some ["elapsed_time_ms", "executed_count"] := by decide
  have hrecords : (Table.read (Text.encode idleContent)).tail.map Table.decodeRecord? =
      [some ["1000", "10"]] := by decide
  obtain ⟨reading, hreadings⟩ : ∃ reading, Timeline.readings Decimal.read?
      (some ["elapsed_time_ms", "executed_count"]) [some ["1000", "10"]] = .ok [reading] :=
    ⟨_, rfl⟩
  rw [readTimeline, hfile]
  simp only [Timeline.ofBytes, hheader, hrecords, Timeline.ofRecords, hreadings, Except.map]
  rfl

/-- Reading the file over time comes across nothing but the file's configuration, and counts the
file. -/
lemma harvest_idleTree (out : Path) : harvest idleTree .timeline out [sampleFile] =
    ⟨[.note (.processing sampleRun.config)], 1, ⟨[], 0⟩⟩ := by
  have hconfig : configOf? sampleFile = some (sampleRun.config, sampleFile) :=
    configOf?_eq_some_iff.2 ⟨sampleRun, runOf_sampleFile, rfl⟩
  have hgroups : (filesByConfig [sampleFile]).entries =
      [(sampleRun.config, [(sampleRun.config, sampleFile)])] :=
    entries_filesByConfig_of_forall (by simp) (by simpa using hconfig)
  have hfindings : (intake (readTimeline idleTree) true [sampleFile]).findings =
      [.note (.processing sampleRun.config)] := by
    simp [intake, hgroups, configFindings, nameRejection?, contentRejection?, runOf_sampleFile,
      readTimeline_idleTree]
  simp only [harvest, harvestTimeline, hfindings,
    intake_singleton true runOf_sampleFile readTimeline_idleTree]
  rfl

/-- A file may be used that does not contribute to anything. -/
theorem analyse_contributions_idleTree :
    (analyse idleTree sampleSettings .timeline).result = .ok ⟨1, 1, 0, 0, []⟩ ∧
      listFiles idleTree sampleSettings = .ok ⟨[sampleFile], []⟩ ∧
      [sampleFile].countP (Variant.timeline.contributes idleTree) = 0 := by
  have hlisting : listFiles idleTree sampleSettings = .ok ⟨[sampleFile], []⟩ :=
    listFiles_inputDir opens_idleTree (by decide) (by decide) (by decide) (by decide)
  have hresult : usableResult? (readTimeline idleTree) sampleFile = some (sampleRun.config, []) :=
    usableResult?_eq_some_iff.2 ⟨sampleRun, runOf_sampleFile, rfl, readTimeline_idleTree⟩
  refine ⟨?_, hlisting, ?_⟩
  · rw [analyse_lenient rfl hlisting, harvest_idleTree]
    rfl
  · simp [Variant.contributes, hresult]

end BenchTally
