import BenchTally.Proofs.Output.FullSheets

set_option autoImplicit false
set_option relaxedAutoImplicit false

/-!
# Sheets are read back

The keys of a tally may hold any text: commas, quotes and ends of lines too, blanks at their ends,
or nothing at all. None of it can shift a column, or split or merge rows, for a reader of tables.

## Main definitions

* `ReadsBack` — bytes that are read as a header and rows.
* `ReadsAsTable`, `ReadsAsChart` — bytes that are read as the rows of configurations.

## Main results

* `readsBack_content` — a sheet is read as its header and its rows.
* `sheets_read_back` — so is every sheet of a tally, cell by cell.
-/

namespace BenchTally

/-! ## Sheets -/

/-- Bytes that are the text of a table and are read as it is: a header, and below it as many records
as there are rows, in their order, each with a field for each column. -/
structure ReadsBack (content : Bytes) (header : List String) (rows : List (List String)) :
    Prop where
  text_eq : content = Text.encode (Table.tableText (header :: rows))
  header_eq : Table.decodeRecord? ((Table.read content).headD []) = some header
  rows_eq : (Table.read content).tail.map Table.decodeRecord? = rows.map some
  width : ∀ row ∈ rows, row.length = header.length

/-- Bytes with another first byte do not start with a byte order mark. -/
lemma not_byteOrderMark_prefix {bs rest : Bytes} (hne : bs ≠ []) (hhead : bs.head? ≠ some 0xef) :
    ¬ Table.byteOrderMark <+: bs ++ rest := by
  obtain ⟨b, bs, rfl⟩ := List.exists_cons_of_ne_nil hne
  intro hmark
  have hfirst := (List.cons_prefix_cons.1 hmark).1
  exact hhead (congrArg some hfirst.symm)

/-- **A sheet is read as its header and its rows**, whatever texts stand in the rows.

**Proof sketch.** A written table is read back byte for byte, and each field as the text that it was
written from. The first byte is that of the first column's name. -/
lemma readsBack_content {s : Sheet} (hrows : s.rows ≠ []) (hcolumns : 2 ≤ s.header.length)
    (hwidth : ∀ row ∈ s.rows, row.length = s.header.length)
    (hhead : (Table.writeRecord (s.header.map Text.encode)).head? ≠ some 0xef) :
    ReadsBack s.content s.header s.rows := by
  have hlength : ∀ record ∈ s.header :: s.rows, record.length = s.header.length := by
    intro record hrecord
    rcases List.mem_cons.1 hrecord with rfl | hrow
    · rfl
    · exact hwidth record hrow
  have hcontent : s.content = Table.write ((s.header :: s.rows).map (·.map Text.encode)) := by
    rw [Sheet.content_eq hrows]
    rfl
  have hread : Table.read s.content = (s.header :: s.rows).map (·.map Text.encode) := by
    rw [hcontent, Table.read_write]
    · refine List.forall_mem_map.2 fun record hrecord hnil => ?_
      have hnone := hlength record hrecord
      rw [List.map_eq_nil_iff.1 hnil, List.length_nil] at hnone
      omega
    · exact not_byteOrderMark_prefix (Table.writeRecord_ne_nil _) hhead
  refine ⟨?_, ?_, ?_, hwidth⟩
  · rw [hcontent, Table.write_encode]
    rintro record hrecord rfl
    have hone := hlength [""] hrecord
    rw [List.length_singleton] at hone
    omega
  · rw [hread]
    exact Table.decodeRecord?_encode s.header
  · rw [hread, List.map_cons, List.tail_cons, List.map_map]
    exact List.map_congr_left fun row _ => Table.decodeRecord?_encode row

/-! ## Tables -/

/-- Bytes that are read as the table of one measure: the eight columns, and below them a record for
each configuration, with its texts, its numbers in decimals and its mean. -/
def ReadsAsTable (column : String) (measure : SummaryStats → Mean Float)
    (group : List (ConfigKey × SummaryStats)) (content : Bytes) : Prop :=
  ∃ rows,
    ReadsBack content
      ["workload", "workers", "storage_type", "partitions", "storage_engine", "paths", "interval",
        column] rows ∧
    List.Forall₂ (fun entry row => ∃ mean, (measure entry.2).value? = some mean ∧
      row = [entry.1.workload, natCell entry.1.workers, entry.1.storageType,
        natCell entry.1.partitions, entry.1.storageEngine, natCell entry.1.paths,
        natCell entry.1.interval, floatCell mean]) group rows

/-- The row of a configuration has its seven fields and its mean. -/
lemma exists_mean_of_summaryRow? {measure : SummaryStats → Mean Float} {k : ConfigKey}
    {stats : SummaryStats} {row : List String} (h : summaryRow? measure k stats = some row) :
    ∃ mean, (measure stats).value? = some mean ∧
      row = [k.workload, natCell k.workers, k.storageType, natCell k.partitions, k.storageEngine,
        natCell k.paths, natCell k.interval, floatCell mean] := by
  obtain ⟨mean, hmean, rfl⟩ := Option.map_eq_some_iff.1 h
  exact ⟨mean, hmean, rfl⟩

/-- A table with a row for each configuration is read as such. -/
lemma FullTable.readsAsTable {column : String} {measure : SummaryStats → Mean Float}
    {group : OutputKey × List (ConfigKey × SummaryStats)} {sheet : Sheet}
    (h : FullTable column measure group sheet) (hgroup : group.2 ≠ [])
    (hhead : (Table.writeRecord ((configHeader ++ [column]).map Text.encode)).head? ≠ some 0xef) :
    ReadsAsTable column measure group.2 sheet.content := by
  have hcells := h.rows.imp fun entry row hrow => exists_mean_of_summaryRow? hrow
  have hwidth : ∀ row ∈ sheet.rows, row.length = sheet.header.length := by
    intro row hrow
    obtain ⟨entry, -, mean, -, rfl⟩ := exists_mem_of_forall₂ hcells hrow
    rw [h.header_eq]
    rfl
  have hcolumns : 2 ≤ sheet.header.length := by
    rw [h.header_eq]
    exact Nat.le_of_ble_eq_true rfl
  have hback := readsBack_content (h.rows_ne_nil hgroup) hcolumns hwidth (h.header_eq ▸ hhead)
  rw [h.header_eq] at hback
  exact ⟨sheet.rows, hback, hcells⟩

/-! ## Charts -/

/-- Bytes that are read as a chart: the eleven columns, and below them for each configuration a
record for each of its buckets, with the statistics of the bucket and the fields of the
configuration that vary within the chart. -/
def ReadsAsChart (group : List (ConfigKey × Series Float)) (content : Bytes) : Prop :=
  ReadsBack content
    ["elapsed_s", "mean", "min", "max", "tracking_prob", "repartitioning_prob", "storage_type",
      "partitions", "paths", "interval", "line_label"]
    (group.flatMap fun entry => entry.2.entries.map fun (bucket, stats) =>
      [floatCell bucket.seconds, floatCell stats.mean, floatCell stats.min, floatCell stats.max,
        floatCell stats.trackingShare, floatCell stats.repartitioningShare, entry.1.storageType,
        natCell entry.1.partitions, natCell entry.1.paths, natCell entry.1.interval,
        entry.1.lineLabel])

/-- A chart with rows is read as such. -/
lemma readsAsChart_chartSheet {group : ChartKey × List (ConfigKey × Series Float)}
    (hrows : (chartSheet group).rows ≠ []) :
    ReadsAsChart group.2 (chartSheet group).content := by
  have hcolumns : 2 ≤ timelineHeader.length := by decide
  have hhead : (Table.writeRecord (timelineHeader.map Text.encode)).head? ≠ some 0xef := by decide
  refine readsBack_content hrows hcolumns (fun row hrow => ?_) hhead
  obtain ⟨entry, -, hrow⟩ := List.mem_flatMap.1 hrow
  obtain ⟨bucket, -, rfl⟩ := List.mem_map.1 hrow
  rfl

/-! ## Tallies -/

/-- The files of sheets that are read as the rows of groups are read as those of one of them. -/
lemma filesHold_of_forall₂ {α : Type} {groups : List α} {sheets : List Sheet}
    {P : α → Bytes → Prop}
    (h : List.Forall₂ (fun group sheet => P group sheet.content) groups sheets) :
    FilesHold sheets fun content => ∃ group ∈ groups, P group content := by
  refine filesHold_of_forall fun sheet hsheet => ?_
  obtain ⟨group, hgroup, hP⟩ := exists_mem_of_forall₂ h hsheet
  exact ⟨group, hgroup, hP⟩

/-- The tables of a measure are read as the rows of their configurations. -/
lemma readsAsTable_of_forall₂ {tally : SummaryTally} {column : String}
    {measure : SummaryStats → Mean Float} {sheets : List Sheet}
    (h : List.Forall₂ (FullTable column measure) (summaryGroups tally) sheets)
    (hhead : (Table.writeRecord ((configHeader ++ [column]).map Text.encode)).head? ≠ some 0xef) :
    List.Forall₂ (fun group sheet => ReadsAsTable column measure group.2 sheet.content)
      (summaryGroups tally) sheets := by
  rw [summaryGroups_eq] at h ⊢
  refine List.forall₂_iff_get.2 ⟨h.length_eq, fun i hi hi' => ?_⟩
  exact ((List.forall₂_iff_get.1 h).2 i hi hi').readsAsTable
    (Keyed.ne_nil_of_mem_entries_groupOn (List.getElem_mem hi)) hhead

/-- **Sheets are read back.** In the tally of any runs, whatever texts their configurations hold,
each sheet is read as the header of its kind and one record for each row, in order, with one field
for each column: the texts, the numbers in decimals and the means or statistics of the row. The same
holds of every file that is written. -/
theorem sheets_read_back :
    (∀ runs : List (ConfigKey × RunSummary),
      let tally := SummaryTally.ofRuns runs
      List.Forall₂ (fun group sheet => ReadsAsTable "ops_per_second" SummaryStats.opsPerSecond
        group.2 sheet.content) (summaryGroups tally) (throughputSheets tally) ∧
      List.Forall₂ (fun group sheet => ReadsAsTable "makespan_s" SummaryStats.makespan
        group.2 sheet.content) (summaryGroups tally) (makespanSheets tally) ∧
      FilesHold (throughputSheets tally) (fun content => ∃ group ∈ summaryGroups tally,
        ReadsAsTable "ops_per_second" SummaryStats.opsPerSecond group.2 content) ∧
      FilesHold (makespanSheets tally) (fun content => ∃ group ∈ summaryGroups tally,
        ReadsAsTable "makespan_s" SummaryStats.makespan group.2 content)) ∧
    ∀ runs : List (ConfigKey × List (Sample Float)),
      let tally := TimelineTally.ofRuns runs
      List.Forall₂ (fun group sheet => ReadsAsChart group.2 sheet.content)
        (chartGroups tally).entries (timelineSheets tally) ∧
      FilesHold (timelineSheets tally) (fun content => ∃ group ∈ (chartGroups tally).entries,
        ReadsAsChart group.2 content) := by
  refine ⟨fun runs => ?_, fun runs => ?_⟩
  · have hcounted := SummaryTally.counted_ofRuns runs
    have hrates := readsAsTable_of_forall₂ (forall₂_throughputSheets hcounted) (by decide)
    have hspans := readsAsTable_of_forall₂ (forall₂_makespanSheets hcounted) (by decide)
    exact ⟨hrates, hspans, filesHold_of_forall₂ hrates, filesHold_of_forall₂ hspans⟩
  · have hfilled := TimelineTally.filled_ofRuns runs
    have hcharts : List.Forall₂ (fun group sheet => ReadsAsChart group.2 sheet.content)
        (chartGroups (TimelineTally.ofRuns runs)).entries
        (timelineSheets (TimelineTally.ofRuns runs)) := by
      rw [timelineSheets_eq hfilled, List.forall₂_map_right_iff, List.forall₂_same]
      exact fun group hgroup => readsAsChart_chartSheet (rows_chartSheet_ne_nil hfilled hgroup)
    exact ⟨hcharts, filesHold_of_forall₂ hcharts⟩

/-- A configuration of texts that have to be quoted, with blanks at their ends or nothing in them,
is one record, and its file is read so too. -/
theorem sheets_read_back_quoted :
    let k : ConfigKey := ⟨"a,\"b\"\r\nc", 1, " ", 2, "", 3, 0⟩
    let tally := SummaryTally.ofRuns [(k, ⟨1, 1⟩)]
    (∃ sheet mean, throughputSheets tally = [sheet] ∧
      (Table.read sheet.content).tail.map Table.decodeRecord? =
        [some ["a,\"b\"\r\nc", "1", " ", "2", "", "3", "0", floatCell mean]]) ∧
    ∀ file ∈ (writeSheets emptyTree ((throughputSheets tally).map (.ofString "out", ·))).written,
      ∃ content, (writeSheets emptyTree ((throughputSheets tally).map
        (.ofString "out", ·))).tree.readFile file = .ok content ∧
          ∃ group ∈ summaryGroups tally,
            ReadsAsTable "ops_per_second" SummaryStats.opsPerSecond group.2 content := by
  intro k tally
  obtain ⟨hsheets, -, hfiles, -⟩ := sheets_read_back.1 [(k, ⟨1, 1⟩)]
  refine ⟨?_, hfiles.exists_content wellFormed_emptyTree (fun _ => rfl) _⟩
  have hgroups : ∃ stats, summaryGroups tally = [(⟨"a,\"b\"\r\nc", ""⟩, [(k, stats)])] := by
    rw [summaryGroups_eq]
    exact ⟨_, rfl⟩
  obtain ⟨stats, hgroups⟩ := hgroups
  rw [hgroups] at hsheets
  obtain ⟨sheet, rest, ⟨rows, hback, hcells⟩, hrest, hall⟩ := List.forall₂_cons_left_iff.1 hsheets
  obtain rfl := List.forall₂_nil_left_iff.1 hrest
  obtain ⟨row, rest, ⟨mean, -, hrow⟩, hrest, rfl⟩ := List.forall₂_cons_left_iff.1 hcells
  obtain rfl := List.forall₂_nil_left_iff.1 hrest
  refine ⟨sheet, mean, hall, ?_⟩
  have hnumbers : natCell 0 = "0" ∧ natCell 1 = "1" ∧ natCell 2 = "2" ∧ natCell 3 = "3" := by
    decide
  obtain ⟨hzero, hone, htwo, hthree⟩ := hnumbers
  simp only [hback.rows_eq, hrow, k, hzero, hone, htwo, hthree, List.map_cons, List.map_nil]

end BenchTally
