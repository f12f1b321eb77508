import BenchTally.Proofs.Stats.Tallies

set_option autoImplicit false
set_option relaxedAutoImplicit false

/-!
# Tallies without empty entries

A configuration enters a tally with a run, and no run is taken out again. So whatever runs are
added, in whatever order, each mean of a configuration has a value, and each series has a bucket.

## Main definitions

* `SummaryTally.Counted` — both means of each configuration are of a run at least.
* `TimelineTally.Filled` — the series of each configuration has a bucket at least.

## Main results

* `SummaryTally.counted_ofRuns`, `TimelineTally.filled_ofRuns` — no entry is empty.
-/

namespace BenchTally

/-! ## Summaries -/

namespace SummaryTally

/-- Both means of each configuration are of one run at least. -/
def Counted (tally : SummaryTally) : Prop :=
  ∀ k stats, tally.get? k = some stats → 1 ≤ stats.opsPerSecond.count ∧ 1 ≤ stats.makespan.count

/-- One more run counts for both means of its configuration. -/
lemma Counted.add {tally : SummaryTally} (h : tally.Counted) (key : ConfigKey) (run : RunSummary) :
    (tally.add key run).Counted := by
  intro k stats hstats
  rw [get?_add] at hstats
  split_ifs at hstats
  · rw [← Option.some.inj hstats]
    exact ⟨Nat.succ_pos _, Nat.succ_pos _⟩
  · exact h k stats hstats

/-- **Every configuration has a run**, whatever runs there are. -/
lemma counted_ofRuns (runs : List (ConfigKey × RunSummary)) : (ofRuns runs).Counted :=
  ofRuns_induction (fun k stats hstats => by simp at hstats) Counted.add runs

end SummaryTally

/-- A mean of one value at least has a value. -/
lemma Mean.exists_value? {α : Type} [Quantity α] {m : Mean α} (h : 1 ≤ m.count) :
    ∃ value, m.value? = some value :=
  ⟨_, if_pos h⟩

/-! ## Series -/

variable {α : Type} [Quantity α]

namespace Series

/-- A sample leaves its bucket. -/
lemma entries_add_ne_nil (series : Series α) (s : Sample α) : (series.add s).entries ≠ [] := by
  have hget := get?_add series s s.bucket
  rw [if_pos rfl, ← Keyed.mem_entries_iff] at hget
  exact List.ne_nil_of_mem hget

/-- Samples in a row leave a bucket, if there is one of them. -/
lemma entries_addAll_ne_nil {samples : List (Sample α)} (h : samples ≠ []) (series : Series α) :
    (series.addAll samples).entries ≠ [] := by
  rcases List.eq_nil_or_concat' samples with rfl | ⟨before, s, rfl⟩
  · exact absurd rfl h
  · rw [addAll, List.foldl_append]
    exact entries_add_ne_nil _ s

end Series

namespace TimelineTally

omit [Quantity α] in
/-- The series of each configuration has one bucket at least. -/
def Filled (tally : TimelineTally α) : Prop :=
  ∀ k series, tally.get? k = some series → series.entries ≠ []

/-- A repetition with samples leaves a bucket, and one without samples changes nothing. -/
lemma Filled.add {tally : TimelineTally α} (h : tally.Filled) (key : ConfigKey)
    (samples : List (Sample α)) : (tally.add key samples).Filled := by
  intro k series hseries
  rw [get?_add] at hseries
  split_ifs at hseries with hadded
  · rw [← Option.some.inj hseries]
    exact Series.entries_addAll_ne_nil hadded.2 _
  · exact h k series hseries

/-- **Every series has a bucket**, whatever repetitions there are. -/
lemma filled_ofRuns (runs : List (ConfigKey × List (Sample α))) : (ofRuns runs).Filled :=
  ofRuns_induction (fun k series hseries => by simp at hseries) Filled.add runs

end TimelineTally

end BenchTally
