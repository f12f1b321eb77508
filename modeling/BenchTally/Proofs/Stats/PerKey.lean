import BenchTally.Proofs.Stats.Tallies
import Mathlib.Data.List.Dedup

set_option autoImplicit false
set_option relaxedAutoImplicit false

/-!
# Tallies as folds

A tally is built by adding runs one after another. What it holds under a configuration is made of
the runs of that configuration alone, in their order, however the runs of different configurations
are mixed; and the samples of a configuration fall apart into their time buckets in the same way.

## Main definitions

* `Keyed.HasKeys` — the keys of a collection, given by a list in which they may be repeated.
* `SummaryTally.MadeOf`, `TimelineTally.MadeOf` — a tally as a fold under each key.

## Main results

* `tallies_perKey` — tallies are folds under each key, and what follows for single additions.
-/

namespace BenchTally

/-! ## Keys -/

section Keys

variable {κ ν : Type} [Ord κ] [DecidableEq κ]

/-- The keys of a collection are those of a list, each of them once, in ascending order. -/
structure Keyed.HasKeys (t : Keyed κ ν) (ks : List κ) : Prop where
  ascending : t.keys.Pairwise fun a b => compare a b = .lt
  mem_iff : ∀ k, k ∈ t.keys ↔ k ∈ ks
  size_eq : t.size = ks.dedup.length

variable [Std.TransOrd κ] [Std.LawfulEqOrd κ]

omit [Std.TransOrd κ] in
/-- The keys are counted by taking repetitions out of the list. -/
lemma Keyed.hasKeys_of_mem_iff {t : Keyed κ ν} {ks : List κ} (h : ∀ k, k ∈ t.keys ↔ k ∈ ks) :
    t.HasKeys ks where
  ascending := Keyed.keys_ascending t
  mem_iff := h
  size_eq := by
    have hnodup := Keyed.nodup_of_ascending (Keyed.keys_ascending t)
    have hperm : t.keys.Perm ks.dedup :=
      (List.perm_ext_iff_of_nodup hnodup (List.nodup_dedup ks)).2 fun k => by
        rw [h, List.mem_dedup]
    rw [← hperm.length_eq, Keyed.keys, List.length_map, Keyed.size]

end Keys

/-! ## Summaries -/

namespace SummaryTally

/-- The tally of a list of runs: it has the configurations of the runs, and under each of them the
means of its own runs, in their order. -/
structure MadeOf (runs : List (ConfigKey × RunSummary)) (tally : SummaryTally) : Prop where
  hasKeys : tally.HasKeys (runs.map Prod.fst)
  entries_eq : tally.entries =
    tally.keys.map fun k => (k, (valuesOf k runs).foldl SummaryStats.add .empty)

lemma madeOf_ofRuns (runs : List (ConfigKey × RunSummary)) : MadeOf runs (ofRuns runs) where
  hasKeys := Keyed.hasKeys_of_mem_iff fun k => by
    rw [mem_keys_ofRuns, List.mem_map]
  entries_eq := entries_ofRuns runs

end SummaryTally

/-! ## Series -/

variable {α : Type} [Quantity α]

/-- A sample of another bucket leaves a bucket alone. -/
lemma Series.get?_addAll_of_forall_ne {samples : List (Sample α)} {b : TimeBucket}
    (h : ∀ s ∈ samples, s.bucket ≠ b) (series : Series α) :
    (series.addAll samples).get? b = series.get? b := by
  induction samples generalizing series with
  | nil => rfl
  | cons s samples ih =>
    obtain ⟨hs, hsamples⟩ := List.forall_mem_cons.1 h
    change ((series.add s).addAll samples).get? b = _
    rw [ih hsamples, get?_add, if_neg (Ne.symm hs)]

/-- The statistics of samples are those of the first one, to which the others are added. -/
lemma BucketStats.ofSamples?_eq_some_iff {samples : List (Sample α)} {stats : BucketStats α} :
    ofSamples? samples = some stats ↔
      ∃ first rest, samples = first :: rest ∧ stats = rest.foldl add (.single first) := by
  cases samples with
  | nil => simp [ofSamples?]
  | cons first rest => simp [ofSamples?, ofSamples, eq_comm]

namespace TimelineTally

/-- The tally of a list of repetitions: it has the configurations of the repetitions with samples;
the series of a configuration has the buckets of its samples; and the statistics of a bucket are
those of the first of its samples, to which the others are added in their order. -/
structure MadeOf (runs : List (ConfigKey × List (Sample α))) (tally : TimelineTally α) : Prop where
  hasKeys : tally.HasKeys ((runs.filter fun run => run.2 ≠ []).map Prod.fst)
  series_hasKeys : ∀ k series, tally.get? k = some series →
    series.HasKeys ((samplesOf k runs).map Sample.bucket)
  bucket_eq : ∀ k series b stats, tally.get? k = some series → series.get? b = some stats →
    ∃ first rest, (samplesOf k runs).filter (fun s => s.bucket = b) = first :: rest ∧
      stats = rest.foldl BucketStats.add (.single first)

/-- The series of a configuration is that of its samples. -/
lemma eq_ofSamples_of_get? {runs : List (ConfigKey × List (Sample α))} {k : ConfigKey}
    {series : Series α} (h : (ofRuns runs).get? k = some series) :
    series = Series.ofSamples (samplesOf k runs) := by
  rw [get?_ofRuns] at h
  split_ifs at h
  exact (Option.some.inj h).symm

lemma madeOf_ofRuns (runs : List (ConfigKey × List (Sample α))) : MadeOf runs (ofRuns runs) where
  hasKeys := Keyed.hasKeys_of_mem_iff fun k => by
    rw [mem_keys_ofRuns, List.mem_map]
    simp [and_assoc]
  series_hasKeys k series h := by
    rw [eq_ofSamples_of_get? h]
    refine Keyed.hasKeys_of_mem_iff fun b => ?_
    rw [Series.mem_keys_ofSamples, List.mem_map]
  bucket_eq k series b stats h hstats := by
    rw [eq_ofSamples_of_get? h, Series.get?_ofSamples] at hstats
    exact BucketStats.ofSamples?_eq_some_iff.1 hstats

/-! ## Single additions -/

variable (tally : TimelineTally α)

/-- A repetition with samples alters the series of its configuration. -/
lemma add_of_ne_nil {samples : List (Sample α)} (h : samples ≠ []) (k : ConfigKey) :
    add tally k samples = tally.alter k fun series => (series.getD .empty).addAll samples :=
  if_neg (by simpa using h)

lemma add_nil (k : ConfigKey) : add tally k [] = tally :=
  rfl

/-- Repetitions of different configurations can be exchanged. -/
lemma add_comm_of_ne {k k' : ConfigKey} (hk : k ≠ k') (samples samples' : List (Sample α)) :
    add (add tally k samples) k' samples' = add (add tally k' samples') k samples := by
  rcases eq_or_ne samples [] with rfl | hne
  · rw [add_nil, add_nil]
  rcases eq_or_ne samples' [] with rfl | hne'
  · rw [add_nil, add_nil]
  · simp only [add_of_ne_nil _ hne, add_of_ne_nil _ hne', Keyed.alter_comm tally hk]

/-- A repetition may be added in two parts. -/
lemma add_append (k : ConfigKey) (samples samples' : List (Sample α)) :
    add tally k (samples ++ samples') = add (add tally k samples) k samples' := by
  rcases eq_or_ne samples [] with rfl | hne
  · rw [add_nil, List.nil_append]
  rcases eq_or_ne samples' [] with rfl | hne'
  · rw [add_nil, List.append_nil]
  · simp only [add_of_ne_nil _ hne, add_of_ne_nil _ hne',
      add_of_ne_nil _ (List.append_ne_nil_of_left_ne_nil hne _), Keyed.alter_alter,
      Option.getD_some, Series.addAll, List.foldl_append]

/-- A repetition leaves the buckets alone that none of its samples falls into. -/
lemma get?_add_of_forall_ne {samples : List (Sample α)} {b : TimeBucket}
    (h : ∀ s ∈ samples, s.bucket ≠ b) (k : ConfigKey) :
    ((add tally k samples).get? k).bind (·.get? b) = (tally.get? k).bind (·.get? b) := by
  rw [get?_add]
  split_ifs with hne
  · rw [Option.bind_some, Series.get?_addAll_of_forall_ne h]
    cases tally.get? k <;> rfl
  · rfl

end TimelineTally

/-! ## All of it -/

/-- **Tallies are folds under each key.** Whatever runs are added in whatever order, a tally of
summaries has exactly the configurations of the runs, and under each of them the fold over its own
runs; a tally over time has exactly the configurations with samples, under each of them exactly the
buckets of its samples, and in each of these the fold over the samples of the bucket. Additions to
different configurations can be exchanged, an addition leaves all other configurations alone, and
all buckets that none of its samples falls into; and samples may be added in two parts.

**Proof sketch.** An addition alters what is under one key. So a row of additions leaves under a key
what the additions of that key make, which is an induction on the row, and two tallies are the same
if they are the same under each key. -/
theorem tallies_perKey (α : Type) [Quantity α] :
    (∀ runs, SummaryTally.MadeOf runs (SummaryTally.ofRuns runs)) ∧
    (∀ runs : List (ConfigKey × List (Sample α)),
      TimelineTally.MadeOf runs (TimelineTally.ofRuns runs)) ∧
    (∀ (tally : SummaryTally) (k k' : ConfigKey) (run run' : RunSummary), k ≠ k' →
      (tally.add k run).add k' run' = (tally.add k' run').add k run ∧
        (tally.add k run).get? k' = tally.get? k') ∧
    (∀ (tally : TimelineTally α) (k k' : ConfigKey) (samples samples' : List (Sample α)), k ≠ k' →
      (tally.add k samples).add k' samples' = (tally.add k' samples').add k samples ∧
        (tally.add k samples).get? k' = tally.get? k') ∧
    (∀ (tally : TimelineTally α) (k : ConfigKey) (samples : List (Sample α)) (b : TimeBucket),
      (∀ s ∈ samples, s.bucket ≠ b) →
        ((tally.add k samples).get? k).bind (·.get? b) = (tally.get? k).bind (·.get? b)) ∧
    (∀ (tally : TimelineTally α) (k : ConfigKey) (samples samples' : List (Sample α)),
      tally.add k (samples ++ samples') = (tally.add k samples).add k samples') := by
  refine ⟨SummaryTally.madeOf_ofRuns, TimelineTally.madeOf_ofRuns, ?_, ?_, ?_, ?_⟩
  · intro tally k k' run run' hk
    refine ⟨Keyed.alter_comm tally hk _ _, ?_⟩
    rw [SummaryTally.get?_add, if_neg (Ne.symm hk)]
  · intro tally k k' samples samples' hk
    refine ⟨TimelineTally.add_comm_of_ne tally hk samples samples', ?_⟩
    rw [TimelineTally.get?_add, if_neg fun h => hk h.1.symm]
  · exact fun tally k samples b h => TimelineTally.get?_add_of_forall_ne tally h k
  · exact fun tally k samples samples' => TimelineTally.add_append tally k samples samples'

/-- A configuration with a number of workers. -/
def workersKey (workers : UInt32) : ConfigKey where
  workload := "ycsb"
  workers := workers
  storageType := "memory"
  partitions := 4
  storageEngine := "btree"
  paths := 1
  interval := 100

/-- A sample at a time. -/
def tickSample (ticks : Int) (throughput : α) : Sample α where
  bucket := ⟨ticks⟩
  throughput := throughput
  tracking := false
  repartitioning := true

/-- Two configurations can be tallied in either order, and two samples of one of them in two
parts. -/
theorem tallies_perKey_workers :
    workersKey 1 ≠ workersKey 2 ∧
      TimelineTally.add (.add .empty (workersKey 1) [tickSample 10 100.0]) (workersKey 2)
          [tickSample 10 200.0] =
        TimelineTally.add (.add .empty (workersKey 2) [tickSample 10 200.0]) (workersKey 1)
          [tickSample 10 (100.0 : Float)] ∧
      TimelineTally.add .empty (workersKey 1) ([tickSample 10 100.0] ++ [tickSample 20 50.0]) =
        TimelineTally.add (.add .empty (workersKey 1) [tickSample 10 100.0]) (workersKey 1)
          [tickSample 20 (50.0 : Float)] := by
  obtain ⟨-, -, -, hcomm, -, happend⟩ := tallies_perKey Float
  have hne : workersKey 1 ≠ workersKey 2 := by decide
  exact ⟨hne, (hcomm _ _ _ _ _ hne).1, happend _ _ _ _⟩

end BenchTally
