import BenchTally.Output.TimelineSheets
import BenchTally.Proofs.Stats.Filled
import Mathlib.Algebra.Ring.Nat

set_option autoImplicit false
set_option relaxedAutoImplicit false

/-!
# The configurations of each chart

## Main definitions

* `chartGroups` — the series of a tally under the charts of their configurations.
* `chartSheet` — the sheet of a chart, whether it has rows or not.

## Main results

* `timelineSheets_eq` — no chart of a tally without empty series is left out.
* `exists_group_of_mem_timelineSheets` — in any case a sheet is that of a chart.
-/

namespace BenchTally

variable {tally : TimelineTally Float}

/-- The series of a tally under the charts of their configurations. -/
def chartGroups (tally : TimelineTally Float) : Keyed ChartKey (List (ConfigKey × Series Float)) :=
  Keyed.groupOn (fun entry : ConfigKey × Series Float => entry.1.chartKey) tally.entries

/-- The sheet of a chart. -/
def chartSheet (group : ChartKey × List (ConfigKey × Series Float)) : Sheet where
  name := group.1.text
  header := timelineHeader
  rows := group.2.flatMap fun entry => timelineRows entry.1 entry.2

/-- Charts without rows are left out. -/
lemma timelineSheets_eq_filter (tally : TimelineTally Float) :
    timelineSheets tally =
      ((chartGroups tally).entries.map chartSheet).filter fun sheet => !sheet.rows.isEmpty :=
  rfl

/-- A series with a bucket has a row. -/
lemma timelineRows_ne_nil {k : ConfigKey} {series : Series Float} (h : series.entries ≠ []) :
    timelineRows k series ≠ [] := by
  simpa [timelineRows] using h

/-- A chart of series that have buckets has rows. -/
lemma rows_chartSheet_ne_nil (h : tally.Filled)
    {group : ChartKey × List (ConfigKey × Series Float)}
    (hgroup : group ∈ (chartGroups tally).entries) : (chartSheet group).rows ≠ [] := by
  obtain ⟨⟨k, series⟩, hentry⟩ := List.exists_mem_of_ne_nil _
    (Keyed.ne_nil_of_mem_entries_groupOn hgroup)
  have hfilled : series.entries ≠ [] :=
    h k series (Keyed.mem_entries_iff.1 (Keyed.mem_of_mem_entries_groupOn hgroup hentry))
  intro hnil
  exact timelineRows_ne_nil hfilled (List.flatMap_eq_nil_iff.1 hnil (k, series) hentry)

/-- **No chart is left out** if no series is empty. -/
lemma timelineSheets_eq (h : tally.Filled) :
    timelineSheets tally = (chartGroups tally).entries.map chartSheet := by
  rw [timelineSheets_eq_filter, List.filter_eq_self]
  refine List.forall_mem_map.2 fun group hgroup => ?_
  simpa using rows_chartSheet_ne_nil h hgroup

/-- A sheet is that of a chart. -/
lemma exists_group_of_mem_timelineSheets {sheet : Sheet} (h : sheet ∈ timelineSheets tally) :
    ∃ group ∈ (chartGroups tally).entries, chartSheet group = sheet := by
  rw [timelineSheets_eq_filter] at h
  exact List.mem_map.1 (List.mem_filter.1 h).1

/-- A sheet has rows. -/
lemma rows_ne_nil_of_mem_timelineSheets {sheet : Sheet} (h : sheet ∈ timelineSheets tally) :
    sheet.rows ≠ [] := by
  rw [timelineSheets_eq_filter] at h
  simpa using (List.mem_filter.1 h).2

/-- **No row is lost or doubled in charts.** -/
lemma flatMap_rows_perm (tally : TimelineTally Float) :
    (((chartGroups tally).entries.map chartSheet).flatMap Sheet.rows).Perm
      (tally.entries.flatMap fun entry => timelineRows entry.1 entry.2) := by
  have hassoc : ((chartGroups tally).entries.map chartSheet).flatMap Sheet.rows =
      ((chartGroups tally).entries.flatMap Prod.snd).flatMap fun entry =>
        timelineRows entry.1 entry.2 := by
    rw [List.flatMap_map, List.flatMap_assoc]
    rfl
  rw [hassoc]
  exact (Keyed.flatMap_groupOn_perm _ tally.entries).flatMap_right _

/-- The charts have as many rows as the series have buckets. -/
lemma sum_length_rows (tally : TimelineTally Float) :
    (((chartGroups tally).entries.map chartSheet).map fun sheet => sheet.rows.length).sum =
      (tally.entries.map fun entry => entry.2.size).sum := by
  rw [← List.length_flatMap, (flatMap_rows_perm tally).length_eq, List.length_flatMap]
  simp only [timelineRows, List.length_map, Keyed.size]

end BenchTally
