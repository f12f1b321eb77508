import BenchTally.Proofs.Output.ChartGroups
import BenchTally.Proofs.Output.RowOrder
import BenchTally.Proofs.Output.WrittenFiles
import BenchTally.Proofs.Table.RoundTrip

set_option autoImplicit false
set_option relaxedAutoImplicit false

/-!
# Nothing is left out

A sheet without rows would be written as an empty file, and a configuration without a mean would be
left out of its table. Neither occurs in the sheets of a tally, to which a configuration belongs
only by a run.

## Main definitions

* `FullTable` — the sheet of a group of configurations with a row for each of them.
* `FullSheets` — sheets that all have rows, with the number of these.

## Main results

* `forall₂_summarySheets` — every configuration has its row.
* `writers_leave_nothing_out` — the sheets of a tally have all rows, and their files a header.
-/

namespace BenchTally

open FileTree

/-! ## Tables -/

section Tables

variable {tally : SummaryTally} {column : String} {measure : SummaryStats → Mean Float}
  {group : OutputKey × List (ConfigKey × SummaryStats)} {sheet : Sheet}

/-- What is found for every element is found as often as there are elements. -/
lemma forall₂_filterMap {α β : Type} {f : α → Option β} {l : List α}
    (h : ∀ x ∈ l, ∃ y, f x = some y) :
    List.Forall₂ (fun x y => f x = some y) l (l.filterMap f) := by
  induction l with
  | nil => exact .nil
  | cons x l ih =>
    obtain ⟨y, hy⟩ := h x (by simp)
    rw [List.filterMap_cons_some hy]
    exact .cons hy (ih fun x' hx' => h x' (by simp [hx']))

/-- What is matched belongs to an element. -/
lemma exists_mem_of_forall₂ {α β : Type} {R : α → β → Prop} {xs : List α} {ys : List β} {y : β}
    (h : List.Forall₂ R xs ys) (hy : y ∈ ys) : ∃ x ∈ xs, R x y := by
  induction h with
  | nil => simp at hy
  | cons hxy _ ih =>
    rcases List.mem_cons.1 hy with rfl | hy
    · exact ⟨_, List.mem_cons_self, hxy⟩
    · obtain ⟨x, hx, hR⟩ := ih hy
      exact ⟨x, List.mem_cons_of_mem _ hx, hR⟩

/-- The sheet of one measure of a group of configurations, in which each configuration has its row
and none is left out. -/
structure FullTable (column : String) (measure : SummaryStats → Mean Float)
    (group : OutputKey × List (ConfigKey × SummaryStats)) (sheet : Sheet) : Prop where
  name_eq : sheet.name = group.1.text
  header_eq : sheet.header = configHeader ++ [column]
  rows : List.Forall₂ (fun entry row => summaryRow? measure entry.1 entry.2 = some row) group.2
    sheet.rows

/-- **Every configuration has its row** if its mean has a value. -/
lemma forall₂_summarySheets (column : String)
    (h : ∀ k stats, tally.get? k = some stats → 1 ≤ (measure stats).count) :
    List.Forall₂ (FullTable column measure) (summaryGroups tally)
      (summarySheets column measure tally) := by
  rw [summarySheets, List.forall₂_map_right_iff, List.forall₂_same]
  intro group hgroup
  rw [summaryGroups_eq] at hgroup
  refine ⟨rfl, rfl, forall₂_filterMap ?_⟩
  rintro ⟨k, stats⟩ hentry
  have hget := Keyed.mem_entries_iff.1 (Keyed.mem_of_mem_entries_groupOn hgroup hentry)
  obtain ⟨value, hvalue⟩ := Mean.exists_value? (h k stats hget)
  exact ⟨k.cells ++ [floatCell value], by simp [summaryRow?, hvalue]⟩

/-- Every configuration has its rate. -/
lemma forall₂_throughputSheets (h : tally.Counted) :
    List.Forall₂ (FullTable "ops_per_second" SummaryStats.opsPerSecond) (summaryGroups tally)
      (throughputSheets tally) :=
  forall₂_summarySheets _ fun k stats hstats => (h k stats hstats).1

/-- Every configuration has its makespan. -/
lemma forall₂_makespanSheets (h : tally.Counted) :
    List.Forall₂ (FullTable "makespan_s" SummaryStats.makespan) (summaryGroups tally)
      (makespanSheets tally) :=
  forall₂_summarySheets _ fun k stats hstats => (h k stats hstats).2

/-- The tables have as many rows as there are configurations. -/
lemma sum_length_rows_of_forall₂ {sheets : List Sheet}
    (h : List.Forall₂ (FullTable column measure) (summaryGroups tally) sheets) :
    (sheets.map fun sheet => sheet.rows.length).sum = tally.size := by
  have hlengths : List.Forall₂ (· = ·) ((summaryGroups tally).map fun group => group.2.length)
      (sheets.map fun sheet => sheet.rows.length) := by
    rw [List.forall₂_map_left_iff, List.forall₂_map_right_iff]
    exact h.imp fun _ _ htable => htable.rows.length_eq
  rw [List.forall₂_eq_eq_eq] at hlengths
  rw [← hlengths, summaryGroups_eq, tableGroups, ← List.length_flatMap,
    (Keyed.flatMap_groupOn_perm _ tally.entries).length_eq, Keyed.size]

/-- A table has a row. -/
lemma FullTable.rows_ne_nil (h : FullTable column measure group sheet) (hgroup : group.2 ≠ []) :
    sheet.rows ≠ [] := by
  have hlength := h.rows.length_eq
  intro hnil
  rw [hnil, List.length_nil, List.length_eq_zero_iff] at hlength
  exact hgroup hlength

/-- Every table of a summary has a row, under the header of its measure. -/
lemma rows_ne_nil_of_forall₂ {sheets : List Sheet}
    (h : List.Forall₂ (FullTable column measure) (summaryGroups tally) sheets)
    (hsheet : sheet ∈ sheets) : sheet.rows ≠ [] ∧ sheet.header = configHeader ++ [column] := by
  obtain ⟨group, hgroup, htable⟩ := exists_mem_of_forall₂ h hsheet
  rw [summaryGroups_eq] at hgroup
  exact ⟨htable.rows_ne_nil (Keyed.ne_nil_of_mem_entries_groupOn hgroup), htable.header_eq⟩

end Tables

/-! ## Files -/

/-- The bytes of a sheet with rows start with its header. -/
lemma Sheet.content_eq {s : Sheet} (h : s.rows ≠ []) :
    s.content = Table.writeRecord (s.header.map Text.encode) ++
      Table.write (s.rows.map (·.map Text.encode)) := by
  rw [Sheet.content, if_neg (by simpa using h)]
  rfl

/-- Sheets that leave nothing out: each has a row, and its file the given header and more than that;
together they have the given number of rows; and of no configurations nothing is written, not even a
directory. -/
structure FullSheets (header : String) (configurations rows : Nat) (sheets : List Sheet) :
    Prop where
  rows_ne_nil : ∀ sheet ∈ sheets, sheet.rows ≠ []
  content_eq : ∀ sheet ∈ sheets, ∃ rest ≠ [], sheet.content = Text.encode header ++ rest
  total_eq : (sheets.map fun sheet => sheet.rows.length).sum = rows
  writes_nothing : configurations = 0 → ∀ (t : FileTree) (out : Path),
    writeSheets t (sheets.map (out, ·)) = ⟨t, [], none⟩
  files : FilesHold sheets fun content => ∃ rest ≠ [], content = Text.encode header ++ rest

/-- Sheets with rows under one header leave nothing out. -/
lemma fullSheets_of_rows {header : List String} {line : String} {configurations rows : Nat}
    {sheets : List Sheet} (hline : Table.writeRecord (header.map Text.encode) = Text.encode line)
    (h : ∀ sheet ∈ sheets, sheet.rows ≠ [] ∧ sheet.header = header)
    (htotal : (sheets.map fun sheet => sheet.rows.length).sum = rows)
    (hnil : configurations = 0 → sheets = []) : FullSheets line configurations rows sheets := by
  have hcontent : ∀ sheet ∈ sheets, ∃ rest ≠ [], sheet.content = Text.encode line ++ rest := by
    intro sheet hsheet
    obtain ⟨hrows, hheader⟩ := h sheet hsheet
    refine ⟨Table.write (sheet.rows.map (·.map Text.encode)), Table.write_ne_nil (by simpa), ?_⟩
    rw [Sheet.content_eq hrows, hheader, hline]
  refine ⟨fun sheet hsheet => (h sheet hsheet).1, hcontent, htotal, fun hnone t out => ?_,
    filesHold_of_forall hcontent⟩
  rw [hnil hnone]
  rfl

/-- The sheets of one measure leave nothing out. -/
lemma fullSheets_of_forall₂ {tally : SummaryTally} {column line : String}
    {measure : SummaryStats → Mean Float} {sheets : List Sheet}
    (h : List.Forall₂ (FullTable column measure) (summaryGroups tally) sheets)
    (hline : Table.writeRecord ((configHeader ++ [column]).map Text.encode) = Text.encode line) :
    FullSheets line tally.size tally.size sheets := by
  refine fullSheets_of_rows hline (fun sheet hsheet => rows_ne_nil_of_forall₂ h hsheet)
    (sum_length_rows_of_forall₂ h) fun hsize => ?_
  have hgroups : summaryGroups tally = [] := by
    rw [summaryGroups_eq, tableGroups, List.eq_nil_of_length_eq_zero hsize]
    rfl
  rw [hgroups] at h
  exact List.forall₂_nil_left_iff.1 h

/-- The sheets of all charts leave nothing out. -/
lemma fullSheets_timelineSheets {tally : TimelineTally Float} (h : tally.Filled) {line : String}
    (hline : Table.writeRecord (timelineHeader.map Text.encode) = Text.encode line) :
    FullSheets line tally.size (tally.entries.map fun entry => entry.2.size).sum
      (timelineSheets tally) := by
  have htotal := timelineSheets_eq h ▸ sum_length_rows tally
  refine fullSheets_of_rows hline (fun sheet hsheet => ?_) htotal fun hsize => ?_
  · refine ⟨rows_ne_nil_of_mem_timelineSheets hsheet, ?_⟩
    obtain ⟨group, -, rfl⟩ := exists_group_of_mem_timelineSheets hsheet
    rfl
  · rw [timelineSheets_eq h, chartGroups, List.eq_nil_of_length_eq_zero hsize]
    rfl

/-- A tally of one run has one table. -/
lemma throughputSheets_singleton (run : RunSummary) : ∃ sheet : Sheet, sheet.name = "a__c" ∧
    throughputSheets (.ofRuns [(⟨"a", 1, "b", 2, "c", 3, 0⟩, run)]) = [sheet] := by
  unfold throughputSheets summarySheets
  rw [summaryGroups_eq]
  refine ⟨_, ?_, rfl⟩
  change (OutputKey.mk "a" "c").text = "a__c"
  decide

/-- **The writers leave nothing out.** In the tally of any runs both means of each configuration are
of a run at least, so each configuration has its row in the tables of both measures; and each series
has a bucket, so every chart has rows and none is left out. Hence every sheet has rows and its file
starts with the header, the rows are as many as the configurations or as the buckets of all series,
and of a tally without configurations nothing is written. -/
theorem writers_leave_nothing_out :
    (∀ runs : List (ConfigKey × RunSummary),
      let tally := SummaryTally.ofRuns runs
      tally.Counted ∧
      List.Forall₂ (FullTable "ops_per_second" SummaryStats.opsPerSecond) (summaryGroups tally)
        (throughputSheets tally) ∧
      List.Forall₂ (FullTable "makespan_s" SummaryStats.makespan) (summaryGroups tally)
        (makespanSheets tally) ∧
      FullSheets
        "workload,workers,storage_type,partitions,storage_engine,paths,interval,ops_per_second\n"
        tally.size tally.size (throughputSheets tally) ∧
      FullSheets
        "workload,workers,storage_type,partitions,storage_engine,paths,interval,makespan_s\n"
        tally.size tally.size (makespanSheets tally)) ∧
    ∀ runs : List (ConfigKey × List (Sample Float)),
      let tally := TimelineTally.ofRuns runs
      tally.Filled ∧
      timelineSheets tally = (chartGroups tally).entries.map chartSheet ∧
      FullSheets ("elapsed_s,mean,min,max,tracking_prob,repartitioning_prob,storage_type," ++
        "partitions,paths,interval,line_label\n")
        tally.size (tally.entries.map fun entry => entry.2.size).sum (timelineSheets tally) := by
  refine ⟨fun runs => ?_, fun runs => ?_⟩
  · have hcounted := SummaryTally.counted_ofRuns runs
    have hrates := forall₂_throughputSheets hcounted
    have hspans := forall₂_makespanSheets hcounted
    exact ⟨hcounted, hrates, hspans, fullSheets_of_forall₂ hrates (by decide),
      fullSheets_of_forall₂ hspans (by decide)⟩
  · have hfilled := TimelineTally.filled_ofRuns runs
    exact ⟨hfilled, timelineSheets_eq hfilled, fullSheets_timelineSheets hfilled (by decide)⟩

/-- A tally of one run is written as one file with a header and more; a tally of no runs leaves the
tree as it is. -/
theorem writers_leave_nothing_out_emptyTree :
    let run : ConfigKey × RunSummary := (⟨"a", 1, "b", 2, "c", 3, 0⟩, ⟨1, 1⟩)
    let writing := writeSheets emptyTree
      ((throughputSheets (.ofRuns [run])).map (.ofString "out", ·))
    emptyTree.WellFormed ∧ writing.written = [.ofString "out/a__c.csv"] ∧
      (∃ rest ≠ [], writing.tree.readFile (.ofString "out/a__c.csv") = .ok (Text.encode
        "workload,workers,storage_type,partitions,storage_engine,paths,interval,ops_per_second\n" ++
          rest)) ∧
      writeSheets emptyTree ((throughputSheets (.ofRuns [])).map (.ofString "out", ·)) =
        ⟨emptyTree, [], none⟩ := by
  intro run writing
  have hwritten : writing.written = [.ofString "out/a__c.csv"] := by
    obtain ⟨sheet, hname, hsheets⟩ := throughputSheets_singleton run.2
    simp only [writing, run, hsheets, List.map_singleton]
    exact written_emptyTree hname
  obtain ⟨-, -, -, hfull, -⟩ := writers_leave_nothing_out.1 [run]
  obtain ⟨-, -, -, hnone, -⟩ := writers_leave_nothing_out.1 []
  refine ⟨wellFormed_emptyTree, hwritten, ?_, hnone.writes_nothing rfl _ _⟩
  obtain ⟨_, hread, rest, hrest, rfl⟩ :=
    hfull.files.exists_content wellFormed_emptyTree (fun _ => rfl) _ _
      (hwritten ▸ List.mem_singleton_self _)
  exact ⟨rest, hrest, hread⟩

end BenchTally
