import BenchTally.Proofs.Analysis.Relisting
import BenchTally.Proofs.Analysis.Tables

set_option autoImplicit false
set_option relaxedAutoImplicit false

/-!
# The accounting of files

## Main definitions

* `Variant.extracted` — the files that an analysis extracts.
* `Variant.tallied` — the configurations that the tally of an analysis holds.
* `Accounts` — a report accounts for the files that are listed.

## Main results

* `extracted_append_rejections_perm` — each file is either extracted or rejected, and once.
* `length_sheets_harvest` — the tables are as many as the configurations at most.
* `analyse_accounting` — the report of a successful analysis accounts for its files.
-/

namespace BenchTally

open FileTree

/-! ## Files extracted and rejected -/

/-- The files that an analysis extracts, in the order in which it does: of one configuration after
another those with a usable content. -/
def Variant.extracted (variant : Variant) (tree : FileTree) (files : List Path) : List Path :=
  (filesByConfig files).entries.flatMap fun group =>
    (group.2.map Prod.snd).filter fun f => (variant.fault? tree f).isNone

section Intake

variable {β : Type} {read : Path → Except ContentError β} {announce : Bool} {files : List Path}
  {variant : Variant} {tree : FileTree} {file : Path}

/-- Among the files by configuration there are those whose names name runs, once each. -/
lemma flatMap_filesByConfig_perm (files : List Path) :
    ((filesByConfig files).entries.flatMap fun group => group.2.map Prod.snd).Perm
      (files.filter fun f => (configOf? f).isSome) := by
  have hpath : ∀ f f', (configOf? f).map Prod.snd = some f' → f' = id f := by
    intro f f' h
    obtain ⟨x, hx, rfl⟩ := Option.map_eq_some_iff.1 h
    obtain ⟨run, -, rfl⟩ := configOf?_eq_some_iff.1 hx
    rfl
  have hfiles := filterMap_eq_map_filter files hpath
  simp only [Option.isSome_map, List.map_id] at hfiles
  rw [← hfiles, ← List.map_filterMap, ← List.map_flatMap]
  exact (Keyed.flatMap_groupOn_perm Prod.fst (files.filterMap configOf?)).map Prod.snd

/-- The files with rejected names are those whose names name no run. -/
lemma map_fst_nameFault? (files : List Path) :
    (files.filterMap nameFault?).map Prod.fst =
      files.filter fun f => !(configOf? f).isSome := by
  have hpath : ∀ f f', (nameFault? f).map Prod.fst = some f' → f' = id f := by
    intro f f' h
    unfold nameFault? at h
    split at h
    · simp at h
    · exact (Option.some.inj h).symm
  rw [List.map_filterMap, filterMap_eq_map_filter files hpath, List.map_id]
  refine List.filter_congr fun f _ => ?_
  unfold nameFault? configOf?
  cases runOf f <;> rfl

/-- The files of a configuration with rejected contents. -/
lemma map_fst_contentFault? (group : List (ConfigKey × Path)) :
    (group.filterMap (contentFault? read)).map Prod.fst =
      (group.map Prod.snd).filter fun f => !(fault? read f).isNone := by
  rw [List.filter_map, List.map_filterMap]
  refine filterMap_eq_map_filter (g := Prod.snd) group (fun x f h => ?_) |>.trans ?_
  · simp only [contentFault?, Option.map_map, Option.map_eq_some_iff, Function.comp_apply] at h
    obtain ⟨cause, -, hf⟩ := h
    exact hf.symm
  · congr 1
    refine List.filter_congr fun x _ => ?_
    simp only [contentFault?, Option.map_map, Option.isSome_map, Function.comp_apply]
    cases fault? read x.2 <;> rfl

/-- **Each file is either extracted or rejected, and once.**

**Proof sketch.** A file whose name names no run is rejected by its name. All others are among the
files by configuration, where each is extracted or rejected by its content. -/
lemma extracted_append_rejections_perm (hfault : ∀ f, fault? read f = variant.fault? tree f) :
    (variant.extracted tree files ++
      (rejections (intake read announce files).findings).map Prod.fst).Perm files := by
  set grouped := (filesByConfig files).entries.flatMap fun group => group.2.map Prod.snd
  have hextracted : variant.extracted tree files =
      grouped.filter fun f => (variant.fault? tree f).isNone := by
    rw [List.filter_flatMap]
    rfl
  have hcontents : (((filesByConfig files).entries.flatMap fun group =>
      group.2.filterMap (contentFault? read)).map Prod.fst) =
      grouped.filter fun f => !(variant.fault? tree f).isNone := by
    simp only [grouped, List.map_flatMap, map_fst_contentFault?, List.filter_flatMap, hfault]
  rw [rejections_intake, List.map_append, map_fst_nameFault?, hextracted, hcontents]
  have hgrouped := (List.filter_append_perm (fun f => (variant.fault? tree f).isNone)
    grouped).trans (flatMap_filesByConfig_perm files)
  refine (List.perm_append_comm.append_left _).trans ?_
  rw [← List.append_assoc]
  exact (hgrouped.append_right _).trans (List.filter_append_perm _ files)

/-- Extracted files name runs and have usable contents. -/
lemma exists_usableResult?_of_mem_extracted
    (hfault : ∀ f, fault? read f = variant.fault? tree f)
    (h : file ∈ variant.extracted tree files) :
    ∃ result, usableResult? read file = some result := by
  obtain ⟨group, hgroup, hfile⟩ := List.mem_flatMap.1 h
  obtain ⟨hmem, hnone⟩ := List.mem_filter.1 hfile
  obtain ⟨x, hx, rfl⟩ := List.mem_map.1 hmem
  obtain ⟨-, run, hrun, -⟩ := exists_runOf_of_mem_filesByConfig hgroup hx
  rw [← hfault, Option.isNone_iff_eq_none] at hnone
  unfold fault? at hnone
  split at hnone
  · rename_i value hvalue
    exact ⟨(run.config, value), by simp only [usableResult?, hrun, hvalue]⟩
  · simp at hnone

/-- **What is read is what the extracted files hold**, in the order in which they are extracted. -/
lemma values_intake_extracted (hfault : ∀ f, fault? read f = variant.fault? tree f) :
    (intake read announce files).values =
      (variant.extracted tree files).filterMap (usableResult? read) := by
  dsimp only [intake, Variant.extracted]
  rw [List.filterMap_flatMap]
  refine List.flatMap_congr fun group hgroup => ?_
  rw [List.filterMap_filter, List.filterMap_map]
  refine List.filterMap_congr fun x hx => ?_
  obtain ⟨-, run, hrun, hconfig, -⟩ := exists_runOf_of_mem_filesByConfig hgroup hx
  simp only [Function.comp_apply, ← hfault, contentOf?, usableResult?, fault?, hrun, hconfig]
  cases read x.2 <;> rfl

/-- As many values are read as files are extracted. -/
lemma length_values_intake (hfault : ∀ f, fault? read f = variant.fault? tree f) :
    (intake read announce files).values.length = (variant.extracted tree files).length := by
  rw [values_intake_extracted hfault, List.length_filterMap_eq_countP, List.countP_eq_length]
  intro f hf
  obtain ⟨result, hresult⟩ := exists_usableResult?_of_mem_extracted hfault hf
  rw [hresult]
  rfl

end Intake

variable {tree : FileTree} {settings : Settings} {variant : Variant} {report : Report}

/-- An analysis extracts as many files as it counts as used, and each file is either extracted or
rejected. -/
lemma extracted_harvest (tree : FileTree) (variant : Variant) (out : Path) (files : List Path) :
    (harvest tree variant out files).used = (variant.extracted tree files).length ∧
      (variant.extracted tree files ++
        (rejections (harvest tree variant out files).findings).map Prod.fst).Perm files := by
  cases variant <;>
    exact ⟨length_values_intake fun _ => rfl, extracted_append_rejections_perm fun _ => rfl⟩

/-! ## Configurations and tables -/

/-- The configurations that the tally of an analysis holds, in ascending order. -/
def Variant.tallied (variant : Variant) (tree : FileTree) (files : List Path) : List ConfigKey :=
  match variant with
  | .throughput | .metrics =>
    (SummaryTally.ofRuns (intake (readSummary tree) false files).values).keys
  | .timeline => (TimelineTally.ofRuns (intake (readTimeline tree) true files).values).keys

lemma nodup_tallied (variant : Variant) (tree : FileTree) (files : List Path) :
    (variant.tallied tree files).Nodup := by
  cases variant <;> exact Keyed.nodup_of_ascending (Keyed.keys_ascending _)

lemma configurations_harvest (tree : FileTree) (variant : Variant) (out : Path)
    (files : List Path) :
    (harvest tree variant out files).plan.configurations =
      (variant.tallied tree files).length := by
  cases variant <;> exact (List.length_map _).symm

/-- There are at most as many configurations as files are used: each comes from a file. -/
lemma length_tallied_le (tree : FileTree) (variant : Variant) (out : Path) (files : List Path) :
    (variant.tallied tree files).length ≤ (harvest tree variant out files).used := by
  cases variant with
  | throughput | metrics =>
    refine (List.length_map _).le.trans (Keyed.size_le Prod.fst fun k hk => ?_)
    exact SummaryTally.mem_keys_ofRuns.1 hk
  | timeline =>
    refine (List.length_map _).le.trans (Keyed.size_le Prod.fst fun k hk => ?_)
    obtain ⟨value, hvalue, -, hkey⟩ := TimelineTally.mem_keys_ofRuns.1 hk
    exact ⟨value, hvalue, hkey⟩

/-- There are as many summary tables as groups of configurations. -/
lemma length_summarySheets (column : String) (measure : SummaryStats → Mean Float)
    (tally : SummaryTally) : (summarySheets column measure tally).length =
      (Keyed.groupOn (fun entry : ConfigKey × SummaryStats => entry.1.outputKey)
        tally.entries).size := by
  rw [summarySheets, summaryGroups, List.length_map, List.length_map, Keyed.size]

/-- There are as many charts as groups of configurations. -/
lemma length_timelineSheets (runs : List (ConfigKey × List (Sample Float))) :
    (timelineSheets (TimelineTally.ofRuns runs)).length =
      (Keyed.groupOn (fun entry : ConfigKey × Series Float => entry.1.chartKey)
        (TimelineTally.ofRuns runs).entries).size := by
  rw [timelineSheets_ofRuns, List.length_map, chartsOf, Keyed.keys, List.length_map, Keyed.size]

/-- **There are at most as many tables as configurations**, of each measure, and none only if there
are no configurations. -/
lemma length_sheets_harvest (tree : FileTree) (variant : Variant) (out : Path)
    (files : List Path) :
    ∃ n ≤ (variant.tallied tree files).length, (n = 0 ↔ variant.tallied tree files = []) ∧
      (harvest tree variant out files).plan.sheets.length =
        if variant = .metrics then 2 * n else n := by
  have hgroups : ∀ {ν κ : Type} [Ord κ] [Std.TransOrd κ] [Std.LawfulEqOrd κ] [DecidableEq κ]
      (tally : Keyed ConfigKey ν) (key : ConfigKey × ν → κ),
      tally.keys = variant.tallied tree files →
      (Keyed.groupOn key tally.entries).size ≤ (variant.tallied tree files).length ∧
        ((Keyed.groupOn key tally.entries).size = 0 ↔ variant.tallied tree files = []) := by
    intro ν κ _ _ _ _ tally key hkeys
    rw [← hkeys, Keyed.keys, List.length_map, List.map_eq_nil_iff]
    exact ⟨Keyed.size_groupOn_le key _, Keyed.size_groupOn_eq_zero_iff key⟩
  cases variant with
  | throughput =>
    obtain ⟨hle, hzero⟩ := hgroups _ (fun entry => entry.1.outputKey) rfl
    exact ⟨_, hle, hzero, by
      simp [harvest, harvestThroughput, throughputSheets, length_summarySheets]⟩
  | metrics =>
    obtain ⟨hle, hzero⟩ := hgroups _ (fun entry => entry.1.outputKey) rfl
    exact ⟨_, hle, hzero, by
      simp [harvest, harvestMetrics, throughputSheets, makespanSheets, length_summarySheets,
        Nat.two_mul]⟩
  | timeline =>
    obtain ⟨hle, hzero⟩ := hgroups _ (fun entry => entry.1.chartKey) rfl
    exact ⟨_, hle, hzero, by simp [harvest, harvestTimeline, length_timelineSheets]⟩

/-! ## The counts of a report -/

/-- The report of an analysis accounts for the files that are listed. -/
structure Accounts (tree : FileTree) (settings : Settings) (variant : Variant) (report : Report)
    (files : List Path) : Prop where
  /-- The files that are listed are counted. -/
  collected_eq : report.collected = files.length
  /-- What is counted is used or left out. -/
  collected_eq_add : report.collected = report.used + report.skipped
  /-- The files that are extracted are counted as used. -/
  used_eq : report.used = (variant.extracted tree files).length
  /-- The files that are reported as left out are counted as skipped. -/
  skipped_eq : report.skipped = (analyse tree settings variant).skipped.length
  /-- The files that are extracted or reported as left out are together those that are listed. -/
  perm : (variant.extracted tree files ++
    (analyse tree settings variant).skipped.map Prod.fst).Perm files
  /-- In a well-formed tree each file is either extracted once or reported once. -/
  count_eq_one : tree.WellFormed → ∀ file ∈ files, (variant.extracted tree files).count file +
    ((analyse tree settings variant).skipped.map Prod.fst).count file = 1
  /-- A strict analysis leaves none out. -/
  skipped_eq_zero : settings.strict = true → report.skipped = 0
  /-- The configurations of the tally are counted. -/
  configurations_eq : report.configurations = (variant.tallied tree files).length
  /-- They are different ones. -/
  tallied_nodup : (variant.tallied tree files).Nodup
  /-- There are at most as many of them as files that are used. -/
  configurations_le : report.configurations ≤ report.used
  /-- There are none exactly if no table is written. -/
  configurations_eq_zero_iff : report.configurations = 0 ↔ report.written = []
  /-- There are at most as many tables of each measure as configurations. -/
  length_written_le : report.written.length ≤
    if variant = .metrics then 2 * report.configurations else report.configurations

/-- **The accounting of files.** A successful analysis counts the files that it lists; these are
together the files that it extracts, as many as it counts as used, and the files that it reports as
left out, as many as it counts as skipped, each once. A strict analysis leaves none out. It counts
the different configurations that its tally holds, at most as many as files are used, and writes for
each measure at most as many tables; it writes none exactly if there are no configurations. In a
well-formed tree no file is listed twice, so that each is either extracted once or reported once.

**Proof sketch.** Grouping by configuration loses and doubles no file
(`Keyed.flatMap_groupOn_perm`), and a file of a group is extracted or rejected by its content. The
tables are the configurations grouped once more. -/
theorem analyse_accounting (h : (analyse tree settings variant).result = .ok report) :
    ∃ listing : Listing, listFiles tree settings = .ok listing ∧
      Accounts tree settings variant report listing.files := by
  obtain ⟨listing, hlisting, hstrict, hskipped, hcollected, hused, hcount, hconfigs⟩ :=
    counts_analyse h
  obtain ⟨listing', hlisting', sheets, hplan, hfailure, hwritten, -⟩ := analyse_eq_ok h
  obtain rfl : listing = listing' := Except.ok.inj (hlisting.symm.trans hlisting')
  obtain ⟨hextracted, hperm⟩ :=
    extracted_harvest tree variant settings.outputDir listing.files
  obtain ⟨n, hn, hzero, hlength⟩ :=
    length_sheets_harvest tree variant settings.outputDir listing.files
  rw [configurations_harvest] at hconfigs
  rw [hplan, ← List.length_map (fun s : Path × Sheet => s.2.path s.1),
    ← written_of_failure hfailure, ← hwritten] at hlength
  rw [← hskipped] at hperm hstrict hcount
  have hsum := hperm.length_eq
  rw [List.length_append, List.length_map] at hsum
  refine ⟨listing, hlisting, {
    collected_eq := hcollected
    collected_eq_add := by omega
    used_eq := hused.trans hextracted
    skipped_eq := hcount
    perm := hperm
    count_eq_one := fun hformed file hfile => ?_
    skipped_eq_zero := fun hs => by rw [hcount, hstrict hs]; rfl
    configurations_eq := hconfigs
    tallied_nodup := nodup_tallied variant tree listing.files
    configurations_le := ?_
    configurations_eq_zero_iff := ?_
    length_written_le := ?_ }⟩
  · rw [← List.count_append, hperm.count_eq,
      List.count_eq_one_of_mem (nodup_listFiles hformed hlisting) hfile]
  · rw [hconfigs, hused]
    exact length_tallied_le tree variant settings.outputDir listing.files
  · rw [hconfigs, List.length_eq_zero_iff, ← hzero, ← List.length_eq_zero_iff, hlength]
    split_ifs <;> omega
  · rw [hlength, hconfigs]
    split_ifs <;> omega

/-- The tally holds both configurations. -/
lemma tallied_repeatTree :
    Variant.throughput.tallied repeatTree repeatFiles = [sampleRun.config, otherConfig] := by
  refine Keyed.eq_of_ascending (Keyed.keys_ascending _) (by decide) fun k => ?_
  refine SummaryTally.mem_keys_ofRuns.trans ?_
  simp only [mem_intake, usable_readSummary_repeatTree]
  simp [eq_comm]

/-- Of four files three are used, of two configurations, and the other one is left out. -/
theorem analyse_accounting_repeatTree :
    ∃ report, (analyse repeatTree sampleSettings .throughput).result = .ok report ∧
      report.collected = 4 ∧ report.used = 3 ∧ report.skipped = 1 ∧ report.configurations = 2 ∧
      report.written.length ≤ 2 ∧
      ∀ file ∈ repeatFiles, (Variant.throughput.extracted repeatTree repeatFiles).count file +
        ((analyse repeatTree sampleSettings .throughput).skipped.map Prod.fst).count file = 1 := by
  obtain ⟨report, hreport⟩ := exists_report_repeatTree
  obtain ⟨listing, hlisting, haccounts⟩ := analyse_accounting hreport
  obtain rfl := Except.ok.inj (hlisting.symm.trans listFiles_repeatTree)
  have hcollected : report.collected = 4 := haccounts.collected_eq
  have hused : report.used = 3 := by
    rw [(counts_analyse_lenient rfl hlisting hreport).2.1]
    refine values_intake_perm.length_eq.trans ?_
    rw [usable_readSummary_repeatTree]
    rfl
  have hconfigs : report.configurations = 2 := by
    rw [haccounts.configurations_eq, tallied_repeatTree]
    rfl
  refine ⟨report, hreport, hcollected, hused, ?_, hconfigs,
    hconfigs ▸ haccounts.length_written_le, haccounts.count_eq_one wellFormed_repeatTree⟩
  have hsum := haccounts.collected_eq_add
  omega

end BenchTally
