import BenchTally.Proofs.Output.ReadBack
import BenchTally.Proofs.Run.Labels

set_option autoImplicit false
set_option relaxedAutoImplicit false

/-!
# The lines of a chart

The rows of a chart are drawn as one line for each label. A label belongs to one configuration of
the chart, so the rows of a line are those of one series: they follow each other, one for each
bucket, in the order of time.

## Main definitions

* `labelOf?` — the label of a row.
* `LineOf` — a label whose rows are the rows of one series.

## Main results

* `lineOf_chartSheet` — each label of a chart is that of one series.
* `labels_tell_series` — so it is in every chart and in every file of a tally.
-/

namespace BenchTally

variable {tally : TimelineTally Float}

/-- The label of a row, in the column of labels. -/
def labelOf? (row : List String) : Option String :=
  row[timelineHeader.idxOf "line_label"]?

/-- A row is labelled with its configuration. -/
lemma labelOf?_timelineRow (k : ConfigKey) (bucket : TimeBucket) (stats : BucketStats Float) :
    labelOf? (timelineRow k bucket stats) = some k.lineLabel := by
  have hcolumn : timelineHeader.idxOf "line_label" = 10 := by decide
  rw [labelOf?, hcolumn]
  rfl

/-- The rows of a series are labelled with its configuration. -/
lemma labelOf?_of_mem_timelineRows {k : ConfigKey} {series : Series Float} {row : List String}
    (h : row ∈ timelineRows k series) : labelOf? row = some k.lineLabel := by
  obtain ⟨⟨bucket, stats⟩, -, rfl⟩ := List.mem_map.1 h
  exact labelOf?_timelineRow k bucket stats

/-- A label of the rows of a chart that tells one series: of all configurations of the chart only
that of the series has the label, the rows with the label follow each other, and they are the rows
of the series, one for each bucket, in the order of time. -/
structure LineOf (tally : TimelineTally Float) (g : ChartKey) (rows : List (List String))
    (label : String) (k : ConfigKey) (series : Series Float) : Prop where
  get?_eq : tally.get? k = some series
  chartKey_eq : k.chartKey = g
  lineLabel_eq : k.lineLabel = label
  unique : ∀ k' : ConfigKey, k'.chartKey = g → k'.lineLabel = label → k' = k
  block : ∃ before after, rows = before ++ timelineRows k series ++ after ∧
    (∀ row ∈ timelineRows k series, labelOf? row = some label) ∧
    ∀ row ∈ before ++ after, labelOf? row ≠ some label
  buckets : ∃ buckets : List (TimeBucket × BucketStats Float),
    timelineRows k series = buckets.map (fun bucket => timelineRow k bucket.1 bucket.2) ∧
      buckets.Pairwise fun b b' => b.1.ticks < b'.1.ticks

section Chart

variable {group : ChartKey × List (ConfigKey × Series Float)} {k : ConfigKey}
  {series : Series Float}

/-- The configurations of a chart have the key of the chart. -/
lemma chartKey_of_mem_chartGroups (hgroup : group ∈ (chartGroups tally).entries)
    {entry : ConfigKey × Series Float} (hentry : entry ∈ group.2) : entry.1.chartKey = group.1 :=
  Keyed.key_of_mem_entries_groupOn hgroup hentry

/-- A configuration stands in its chart once. -/
lemma nodup_of_mem_chartGroups (hgroup : group ∈ (chartGroups tally).entries) :
    (group.2.map Prod.fst).Nodup := by
  rw [chartGroups, Keyed.entries_groupOn] at hgroup
  obtain ⟨g, -, rfl⟩ := List.mem_map.1 hgroup
  exact (Keyed.nodup_of_ascending (Keyed.keys_ascending tally)).sublist
    (List.filter_sublist.map Prod.fst)

/-- **The labels before and after a series are other ones**, as the configurations of a chart differ
from each other. -/
lemma lineLabel_ne_of_split (hgroup : group ∈ (chartGroups tally).entries)
    {before after : List (ConfigKey × Series Float)}
    (hsplit : group.2 = before ++ (k, series) :: after) {entry : ConfigKey × Series Float}
    (hentry : entry ∈ before ++ after) : entry.1.lineLabel ≠ k.lineLabel := by
  have hperm : group.2.Perm ((k, series) :: (before ++ after)) := hsplit ▸ List.perm_middle
  have hnodup := (hperm.map Prod.fst).nodup_iff.1 (nodup_of_mem_chartGroups hgroup)
  have hchart := chartKey_of_mem_chartGroups hgroup (hperm.mem_iff.2 List.mem_cons_self)
  have hchart' := chartKey_of_mem_chartGroups hgroup
    (hperm.mem_iff.2 (List.mem_cons_of_mem _ hentry))
  intro hlabel
  have hsame : entry.1 = k := ConfigKey.eq_of_lineLabel (hchart'.trans hchart.symm) hlabel
  have hmem : entry.1 ∈ (before ++ after).map Prod.fst := List.mem_map_of_mem hentry
  rw [hsame] at hmem
  exact (List.nodup_cons.1 hnodup).1 hmem

/-- **The rows of a series are one block**: they alone have its label. -/
lemma exists_block_of_mem (hgroup : group ∈ (chartGroups tally).entries)
    (hentry : (k, series) ∈ group.2) :
    ∃ before after, (chartSheet group).rows = before ++ timelineRows k series ++ after ∧
      ∀ row ∈ before ++ after, labelOf? row ≠ some k.lineLabel := by
  obtain ⟨before, after, hsplit⟩ := List.append_of_mem hentry
  refine ⟨before.flatMap fun entry => timelineRows entry.1 entry.2,
    after.flatMap fun entry => timelineRows entry.1 entry.2, ?_, fun row hother hlabel => ?_⟩
  · rw [chartSheet, hsplit, List.flatMap_append, List.flatMap_cons, List.append_assoc]
  · rw [← List.flatMap_append] at hother
    obtain ⟨entry, hentry', hrow⟩ := List.mem_flatMap.1 hother
    rw [labelOf?_of_mem_timelineRows hrow, Option.some.injEq] at hlabel
    exact lineLabel_ne_of_split hgroup hsplit hentry' hlabel

/-- The rows of a series are of different buckets, in the order of time. -/
lemma exists_buckets_of_timelineRows (k : ConfigKey) (series : Series Float) :
    ∃ buckets : List (TimeBucket × BucketStats Float),
      timelineRows k series = buckets.map (fun bucket => timelineRow k bucket.1 bucket.2) ∧
        buckets.Pairwise fun b b' => b.1.ticks < b'.1.ticks := by
  refine ⟨series.entries, rfl, series.ascending.imp fun {b b'} hlt => ?_⟩
  have hticks : compare b.1.ticks b'.1.ticks = .lt := hlt
  exact Std.compare_eq_lt.1 hticks

/-- **A label of a chart is that of one series.** -/
lemma lineOf_chartSheet (hgroup : group ∈ (chartGroups tally).entries) {row : List String}
    (hrow : row ∈ (chartSheet group).rows) :
    ∃ label k series, labelOf? row = some label ∧
      LineOf tally group.1 (chartSheet group).rows label k series := by
  obtain ⟨⟨k, series⟩, hentry, hrow⟩ := List.mem_flatMap.1 hrow
  have hchart : k.chartKey = group.1 := chartKey_of_mem_chartGroups hgroup hentry
  obtain ⟨before, after, hrows, hother⟩ := exists_block_of_mem hgroup hentry
  refine ⟨k.lineLabel, k, series, labelOf?_of_mem_timelineRows hrow, ?_⟩
  exact {
    get?_eq := Keyed.mem_entries_iff.1 (Keyed.mem_of_mem_entries_groupOn hgroup hentry)
    chartKey_eq := hchart
    lineLabel_eq := rfl
    unique := fun _ hk hlabel => ConfigKey.eq_of_lineLabel (hk.trans hchart.symm) hlabel
    block := ⟨before, after, hrows, fun _ => labelOf?_of_mem_timelineRows, hother⟩
    buckets := exists_buckets_of_timelineRows k series }

end Chart

/-- **Labels tell series.** Of two configurations of one chart with the same label there is only
one. So in every chart of a tally, and in every file that is written for it, the rows with a label
belong to one configuration, follow each other, and are of different buckets. -/
theorem labels_tell_series :
    (∀ k₁ k₂ : ConfigKey, k₁.chartKey = k₂.chartKey → k₁.lineLabel = k₂.lineLabel → k₁ = k₂) ∧
    ∀ tally : TimelineTally Float,
      (∀ sheet ∈ timelineSheets tally, ∃ g : ChartKey, sheet.name = g.text ∧
        ∀ row ∈ sheet.rows, ∃ label k series, labelOf? row = some label ∧
          LineOf tally g sheet.rows label k series) ∧
      FilesHold (timelineSheets tally) fun content => ∃ (g : ChartKey) (rows : List (List String)),
        ReadsBack content timelineHeader rows ∧
          ∀ row ∈ rows, ∃ label k series, labelOf? row = some label ∧
            LineOf tally g rows label k series := by
  refine ⟨fun k₁ k₂ => ConfigKey.eq_of_lineLabel, fun tally => ⟨fun sheet hsheet => ?_, ?_⟩⟩
  · obtain ⟨group, hgroup, rfl⟩ := exists_group_of_mem_timelineSheets hsheet
    exact ⟨group.1, rfl, fun row => lineOf_chartSheet hgroup⟩
  · refine filesHold_of_forall fun sheet hsheet => ?_
    have hrows := rows_ne_nil_of_mem_timelineSheets hsheet
    obtain ⟨group, hgroup, rfl⟩ := exists_group_of_mem_timelineSheets hsheet
    exact ⟨group.1, (chartSheet group).rows, readsAsChart_chartSheet hrows,
      fun row => lineOf_chartSheet hgroup⟩

/-- A storage type that ends in marked numbers of its own: the labels of two configurations of one
chart differ, and the label of a series with one sample is that of its row. -/
theorem labels_tell_series_of_marked_numbers :
    let k : ConfigKey := ⟨"w", 1, "a_p1_w1_i0", 2, "e", 3, 4⟩
    let k' : ConfigKey := ⟨"w", 1, "a", 1, "e", 1, 0⟩
    let tally := TimelineTally.ofRuns [(k, [⟨⟨5⟩, 1, false, false⟩])]
    (k.chartKey = k'.chartKey ∧ k'.lineLabel = "a_p1_w1_i0" ∧ k.lineLabel ≠ k'.lineLabel ∧
      (⟨"w", 1, "a" ++ "_p1_w1_i0", 2, "e", 3, 4⟩ : ConfigKey) = k) ∧
      (∃ sheet ∈ timelineSheets tally, ∃ row ∈ sheet.rows, ∃ g label k series,
        labelOf? row = some label ∧ LineOf tally g sheet.rows label k series) ∧
      ∀ file ∈ (writeSheets emptyTree ((timelineSheets tally).map (.ofString "out", ·))).written,
        ∃ content, (writeSheets emptyTree ((timelineSheets tally).map
          (.ofString "out", ·))).tree.readFile file = .ok content ∧
            ∃ (g : ChartKey) (rows : List (List String)), ReadsBack content timelineHeader rows ∧
              ∀ row ∈ rows, ∃ label k series, labelOf? row = some label ∧
                LineOf tally g rows label k series := by
  intro k k' tally
  have hne : k ≠ k' := by decide
  have hlabels : k.lineLabel ≠ k'.lineLabel := fun h =>
    hne (labels_tell_series.1 k k' rfl h)
  have hsame : (⟨"w", 1, "a" ++ "_p1_w1_i0", 2, "e", 3, 4⟩ : ConfigKey) = k :=
    labels_tell_series.1 _ k rfl (by decide)
  refine ⟨⟨rfl, by decide, hlabels, hsame⟩, ?_, (labels_tell_series.2 tally).2.exists_content
    wellFormed_emptyTree (fun _ => rfl) _⟩
  have hfilled : tally.Filled := TimelineTally.filled_ofRuns _
  have hgroups : ∃ series, (chartGroups tally).entries = [(k.chartKey, [(k, series)])] := ⟨_, rfl⟩
  obtain ⟨series, hgroups⟩ := hgroups
  have hsheet : chartSheet (k.chartKey, [(k, series)]) ∈ timelineSheets tally := by
    rw [timelineSheets_eq hfilled, hgroups]
    exact List.mem_singleton_self _
  obtain ⟨row, hrow⟩ := List.exists_mem_of_ne_nil _ (rows_ne_nil_of_mem_timelineSheets hsheet)
  obtain ⟨g, -, hlines⟩ := (labels_tell_series.2 tally).1 _ hsheet
  exact ⟨_, hsheet, row, hrow, g, hlines row hrow⟩

end BenchTally
