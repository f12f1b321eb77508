import BenchTally.Proofs.Output.Cells
import BenchTally.Proofs.Output.RowOrder
import BenchTally.Proofs.Stats.Tallies

set_option autoImplicit false
set_option relaxedAutoImplicit false

/-!
# Summary tables

## Main definitions

* `ConfigKey.tableOrder` — the order of the rows of a table.
* `IsTableRow` — a row of a table, by what is read in each of its columns.
* `average` — the mean of a list of values.
* `SummaryTables` — the tables that a list of results makes, with the configurations of each.

## Main results

* `summarySheets_ofRuns` — the tables of a list of runs.
-/

namespace BenchTally

/-! ## Rows -/

namespace ConfigKey

variable {a b : ConfigKey}

/-- The order of the rows of a table: by workers, storage type, partitions, paths and interval. -/
def tableOrder : ConfigKey → ConfigKey → Ordering :=
  compareLex (compareOn ConfigKey.workers) <|
  compareLex (compareOn ConfigKey.storageType) <|
  compareLex (compareOn ConfigKey.partitions) <|
  compareLex (compareOn ConfigKey.paths) (compareOn ConfigKey.interval)

instance : Std.TransCmp tableOrder := by
  unfold tableOrder
  infer_instance

/-- Within a table configurations are ordered as its rows are. -/
lemma order_eq_tableOrder (h : a.outputKey = b.outputKey) : order a b = tableOrder a b := by
  simp only [outputKey, OutputKey.mk.injEq] at h
  simp [order, tableOrder, compareLex, compareOn, h]

end ConfigKey

/-- A row of a table of one measure, by what is read in each of its columns: the fields of a
configuration, and the value of the measure. -/
structure IsTableRow (column : String) (k : ConfigKey) (value : Float) (row : List String) :
    Prop where
  length_eq : row.length = (configHeader ++ [column]).length
  workload : textIn? (configHeader ++ [column]) row "workload" = some k.workload
  workers : wholeIn? (configHeader ++ [column]) row "workers" = some k.workers
  storageType : textIn? (configHeader ++ [column]) row "storage_type" = some k.storageType
  partitions : wholeIn? (configHeader ++ [column]) row "partitions" = some k.partitions
  storageEngine : textIn? (configHeader ++ [column]) row "storage_engine" = some k.storageEngine
  paths : wholeIn? (configHeader ++ [column]) row "paths" = some k.paths
  interval : wholeIn? (configHeader ++ [column]) row "interval" = some k.interval
  measure : numberIn? (configHeader ++ [column]) row column = some value

/-- The cells of a configuration and of a value are read as such a row. -/
lemma isTableRow_append {column : String} (hcolumn : column ∉ configHeader) (k : ConfigKey)
    (value : Float) : IsTableRow column k value (k.cells ++ [floatCell value]) where
  length_eq := rfl
  workload := rfl
  workers := wholeIn?_of_textIn? rfl
  storageType := rfl
  partitions := wholeIn?_of_textIn? rfl
  storageEngine := rfl
  paths := wholeIn?_of_textIn? rfl
  interval := wholeIn?_of_textIn? rfl
  measure := numberIn?_of_textIn? (by
    rw [textIn?, List.idxOf_append_of_notMem hcolumn, List.idxOf_cons_self]
    rfl)

/-- The rows of configurations with a value each. -/
lemma forall₂_isTableRow {column : String} (hcolumn : column ∉ configHeader)
    (configs : List ConfigKey) (value : ConfigKey → Float) :
    List.Forall₂ (fun k row => IsTableRow column k (value k) row) configs
      (configs.map fun k => k.cells ++ [floatCell (value k)]) := by
  rw [List.forall₂_map_right_iff, List.forall₂_same]
  exact fun k _ => isTableRow_append hcolumn k _

/-- The same rows, with the configurations and their values in pairs. -/
lemma forall₂_lines {column : String} {configs : List ConfigKey} {value : ConfigKey → Float}
    {rows : List (List String)}
    (h : List.Forall₂ (fun k row => IsTableRow column k (value k) row) configs rows) :
    List.Forall₂ (fun (line : ConfigKey × Float) row => IsTableRow column line.1 line.2 row)
      (configs.map fun k => (k, value k)) rows :=
  List.forall₂_map_left_iff.2 h

/-! ## Means -/

/-- The sum of the values of a list, taken from the left, over their number. -/
def average {α : Type} [Quantity α] (values : List α) : α :=
  values.foldl (· + ·) (Quantity.ofNat 0) / Quantity.ofNat values.length

/-- From the first value on, a mean is the average of its values. -/
lemma Mean.value?_ofList {α : Type} [Quantity α] {values : List α} (h : values ≠ []) :
    (Mean.ofList values).value? = some (average values) := by
  have hcount : 0 < (Mean.ofList values).count := by
    rw [Mean.count_ofList]
    exact List.length_pos_iff.2 h
  rw [Mean.value?, if_pos hcount, Mean.sum_ofList, Mean.count_ofList, average]

/-! ## Tables -/

/-- The tables of a list of results, with the configurations of each: one table for each workload
and engine that occurs, in ascending order, and in it each of its configurations once, in ascending
order of the rows. -/
structure SummaryTables (results : List (ConfigKey × RunSummary)) (tables : List OutputKey)
    (configs : OutputKey → List ConfigKey) : Prop where
  ascending : tables.Pairwise fun g g' => compare g g' = .lt
  mem_iff : ∀ g, g ∈ tables ↔ ∃ result ∈ results, result.1.outputKey = g
  configs_ascending : ∀ g, (configs g).Pairwise fun a b => a.tableOrder b = .lt
  mem_configs_iff : ∀ g k,
    k ∈ configs g ↔ (∃ result ∈ results, result.1 = k) ∧ k.outputKey = g

/-- The tables that there are results for, in ascending order. -/
def tablesOf (runs : List (ConfigKey × RunSummary)) : List OutputKey :=
  (Keyed.groupOn (fun entry : ConfigKey × SummaryStats => entry.1.outputKey)
    (SummaryTally.ofRuns runs).entries).keys

/-- The configurations of a table that there are results for, in the order of its rows. -/
def tableConfigs (runs : List (ConfigKey × RunSummary)) (g : OutputKey) : List ConfigKey :=
  (SummaryTally.ofRuns runs).keys.filter fun k => k.outputKey = g

section Tables

variable {runs : List (ConfigKey × RunSummary)} {g : OutputKey} {k : ConfigKey}

lemma mem_tableConfigs :
    k ∈ tableConfigs runs g ↔ (∃ run ∈ runs, run.1 = k) ∧ k.outputKey = g := by
  rw [tableConfigs, List.mem_filter, SummaryTally.mem_keys_ofRuns, decide_eq_true_eq]

lemma mem_tablesOf : g ∈ tablesOf runs ↔ ∃ run ∈ runs, run.1.outputKey = g := by
  rw [tablesOf, Keyed.mem_keys_groupOn_entries]
  simp only [SummaryTally.mem_keys_ofRuns]
  constructor
  · rintro ⟨k, ⟨run, hrun, rfl⟩, hkey⟩
    exact ⟨run, hrun, hkey⟩
  · rintro ⟨run, hrun, hkey⟩
    exact ⟨run.1, ⟨run, hrun, rfl⟩, hkey⟩

lemma tableConfigs_ascending (runs : List (ConfigKey × RunSummary)) (g : OutputKey) :
    (tableConfigs runs g).Pairwise fun a b => a.tableOrder b = .lt := by
  have hkeys := (Keyed.keys_ascending (SummaryTally.ofRuns runs)).filter fun k => k.outputKey = g
  refine hkeys.imp_of_mem fun {a b} ha hb hlt => ?_
  have hkey : a.outputKey = b.outputKey :=
    (mem_tableConfigs.1 ha).2.trans (mem_tableConfigs.1 hb).2.symm
  rw [← ConfigKey.order_eq_tableOrder hkey]
  exact hlt

/-- The tables and configurations of a tally are those of the runs. -/
lemma summaryTables_ofRuns (runs : List (ConfigKey × RunSummary)) :
    SummaryTables runs (tablesOf runs) (tableConfigs runs) where
  ascending := Keyed.keys_ascending _
  mem_iff _ := mem_tablesOf
  configs_ascending := tableConfigs_ascending runs
  mem_configs_iff _ _ := mem_tableConfigs

/-- Which tables there are does not depend on the order of the results. -/
lemma SummaryTables.of_mem_iff {results : List (ConfigKey × RunSummary)}
    {tables : List OutputKey} {configs : OutputKey → List ConfigKey}
    (h : SummaryTables runs tables configs) (hmem : ∀ run, run ∈ runs ↔ run ∈ results) :
    SummaryTables results tables configs where
  ascending := h.ascending
  mem_iff g := by simp only [h.mem_iff, hmem]
  configs_ascending := h.configs_ascending
  mem_configs_iff g k := by simp only [h.mem_configs_iff, hmem]

/-- The groups of a list of runs hold the configurations of each table, in their order. -/
lemma summaryGroups_ofRuns (runs : List (ConfigKey × RunSummary)) :
    summaryGroups (SummaryTally.ofRuns runs) =
      (tablesOf runs).map fun g =>
        (g, (tableConfigs runs g).map fun k => (k, SummaryStats.ofList (valuesOf k runs))) := by
  rw [summaryGroups_eq, tableGroups,
    Keyed.entries_groupOn_entries (SummaryTally.entries_ofRuns runs), ← tableGroups]
  rfl

/-- **The tables of a list of runs.** Each table has a row for each of its configurations, which
ends with the average of one measure over the runs of the configuration. -/
lemma summarySheets_ofRuns (column : String) {measure : SummaryStats → Mean Float}
    {read : RunSummary → Float}
    (hmeasure : ∀ runs, measure (.ofList runs) = .ofList (runs.map read))
    (runs : List (ConfigKey × RunSummary)) :
    summarySheets column measure (SummaryTally.ofRuns runs) =
      (tablesOf runs).map fun g => {
        name := g.text
        header := configHeader ++ [column]
        rows := (tableConfigs runs g).map fun k =>
          k.cells ++ [floatCell (average ((valuesOf k runs).map read))] } := by
  unfold summarySheets
  rw [summaryGroups_ofRuns, List.map_map]
  refine List.map_congr_left fun g _ => ?_
  simp only [Function.comp_apply, List.filterMap_map, Sheet.mk.injEq, true_and]
  rw [← List.filterMap_eq_map]
  refine List.filterMap_congr fun k hk => ?_
  have hvalues : (valuesOf k runs).map read ≠ [] := by
    rw [Ne, List.map_eq_nil_iff]
    exact valuesOf_ne_nil.2 (mem_tableConfigs.1 hk).1
  simp only [Function.comp_apply, summaryRow?, hmeasure, Mean.value?_ofList hvalues, Option.map]

end Tables

end BenchTally
