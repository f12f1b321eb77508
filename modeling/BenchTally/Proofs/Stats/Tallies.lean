import BenchTally.Proofs.Stats.Grouping
import BenchTally.Stats.SummaryTally
import BenchTally.Stats.TimelineTally

set_option autoImplicit false
set_option relaxedAutoImplicit false

/-!
# Tallies key by key

## Main definitions

* `valuesOf` — the values that a list of runs has for a key, in their order.
* `samplesOf` — all samples that a list of repetitions has for a configuration.
* `BucketStats.ofSamples?` — the statistics of the samples of a bucket, if there are any.

## Main results

* `BucketStats.foldl_add` — what samples in a row add to the statistics of a bucket.
* `SummaryTally.ofRuns_induction`, `TimelineTally.ofRuns_induction` — what each addition keeps holds
  of every tally.
* `SummaryTally.entries_ofRuns` — the means of a configuration are those of its own runs.
* `TimelineTally.entries_ofRuns`, `Series.entries_addAll` — the statistics of a configuration and
  a bucket are those of its own samples.
-/

namespace BenchTally

section Values

variable {κ ν β : Type} [DecidableEq κ]

/-- The values that a list of runs has for a key, in their order. -/
def valuesOf (k : κ) (runs : List (κ × ν)) : List ν :=
  (runs.filter fun run => run.1 = k).map Prod.snd

@[simp]
lemma mem_valuesOf {k : κ} {v : ν} {runs : List (κ × ν)} :
    v ∈ valuesOf k runs ↔ (k, v) ∈ runs := by
  simp [valuesOf]

/-- A key that occurs has values. -/
lemma valuesOf_ne_nil {k : κ} {runs : List (κ × ν)} :
    valuesOf k runs ≠ [] ↔ ∃ run ∈ runs, run.1 = k := by
  simp [valuesOf, List.filter_eq_nil_iff]

/-- Working through the runs of a key is working through its values. -/
lemma foldl_filter_key (k : κ) (runs : List (κ × ν)) (step : β → ν → β) (e : β) :
    (runs.filter fun run => run.1 = k).foldl (fun v run => step v run.2) e =
      (valuesOf k runs).foldl step e := by
  rw [valuesOf, List.foldl_map]

/-- If at most one key of a list has anything to give, that is all that the list gives. -/
lemma flatMap_eq_of_unique {ks : List κ} (hnodup : ks.Nodup) (f : κ → List β) {k : κ}
    (h : ∀ k' ∈ ks, k' ≠ k → f k' = []) : ks.flatMap f = if k ∈ ks then f k else [] := by
  induction ks with
  | nil => rfl
  | cons a ks ih =>
    obtain ⟨hnot, hnodup⟩ := List.nodup_cons.1 hnodup
    rw [List.flatMap_cons, ih hnodup fun k' hk' => h k' (by simp [hk'])]
    by_cases ha : a = k
    · subst ha
      simp [hnot]
    · simp [h a (by simp) ha, Ne.symm ha]

/-- A way to read that keeps keys finds under a key what the elements of the key have to give. -/
lemma filter_filterMap_key (read : κ × ν → Option (κ × β))
    (hread : ∀ x y, read x = some y → y.1 = x.1) (xs : List (κ × ν)) (k : κ) :
    (xs.filterMap read).filter (fun y => y.1 = k) =
      (xs.filter fun x => x.1 = k).filterMap read := by
  induction xs with
  | nil => rfl
  | cons x xs ih =>
    cases hx : read x with
    | none =>
      rw [List.filterMap_cons_none hx, ih]
      by_cases hk : x.1 = k <;> simp [hk, hx]
    | some y =>
      have hy := hread x y hx
      rw [List.filterMap_cons_some hx]
      by_cases hk : x.1 = k <;> simp [hk, hy, hx, ih]

variable [Ord κ] [Std.TransOrd κ] [Std.LawfulEqOrd κ]

/-- **Grouping keeps the order within a key.** What is read group by group has for each key what it
would have if it were read in one row.

**Proof sketch.** Of all groups only that of the key has values for the key, and it holds the
elements of the key in the order of the list. -/
lemma valuesOf_flatMap_groups (read : κ × ν → Option (κ × β))
    (hread : ∀ x y, read x = some y → y.1 = x.1) (xs : List (κ × ν)) (k : κ) :
    valuesOf k ((Keyed.groupOn Prod.fst xs).entries.flatMap fun group =>
        group.2.filterMap read) =
      valuesOf k (xs.filterMap read) := by
  have hnodup : (Keyed.groupOn Prod.fst xs).keys.Nodup :=
    Keyed.nodup_of_ascending (Keyed.keys_ascending _)
  have hother : ∀ k' ∈ (Keyed.groupOn Prod.fst xs).keys, k' ≠ k →
      ((xs.filter fun x => x.1 = k').filterMap read).filter (fun y => y.1 = k) = [] := by
    intro k' _ hne
    rw [← filter_filterMap_key read hread, List.filter_eq_nil_iff]
    intro y hy
    have hkey : y.1 = k' := by simpa using (List.mem_filter.1 hy).2
    simp [hkey, hne]
  unfold valuesOf
  rw [Keyed.entries_groupOn, List.flatMap_map, List.filter_flatMap,
    flatMap_eq_of_unique hnodup _ hother]
  rw [filter_filterMap_key read hread]
  split_ifs with hk
  · rw [filter_filterMap_key read hread, List.filter_filter]
    simp
  · have hnone : xs.filter (fun x => x.1 = k) = [] := by
      rw [List.filter_eq_nil_iff]
      intro x hx hkey
      exact hk ((Keyed.mem_keys_groupOn Prod.fst).2 ⟨x, hx, by simpa using hkey⟩)
    rw [filter_filterMap_key read hread, hnone]
    rfl

end Values

/-! ## Summaries -/

namespace SummaryTally

variable {runs : List (ConfigKey × RunSummary)} {k : ConfigKey}

/-- **Additions in a row.** What holds of the empty tally and is kept by each addition holds of
every tally. -/
lemma ofRuns_induction {P : SummaryTally → Prop} (hempty : P .empty)
    (hadd : ∀ {tally : SummaryTally}, P tally → ∀ key run, P (tally.add key run))
    (runs : List (ConfigKey × RunSummary)) : P (ofRuns runs) :=
  List.foldlRecOn runs _ hempty fun _ htally run _ => hadd htally run.1 run.2

/-- The configurations of a tally are those of the runs. -/
lemma mem_keys_ofRuns : k ∈ (ofRuns runs).keys ↔ ∃ run ∈ runs, run.1 = k :=
  Keyed.mem_keys_foldl_alter Prod.fst
    fun run stats => (stats.getD SummaryStats.empty).add run.2

/-- **The means of a configuration** are those of its own runs, in their order. -/
lemma entries_ofRuns (runs : List (ConfigKey × RunSummary)) :
    (ofRuns runs).entries =
      (ofRuns runs).keys.map fun k => (k, SummaryStats.ofList (valuesOf k runs)) := by
  refine Keyed.entries_eq_map_keys _ fun k hk => ?_
  rw [SummaryStats.ofList, ← foldl_filter_key]
  exact Keyed.get?_foldl_alter_getD Prod.fst SummaryStats.empty (fun stats run => stats.add run.2)
    (mem_keys_ofRuns.1 hk)

end SummaryTally

/-! ## Series -/

variable {α : Type} [Quantity α]

/-- A flag counts as one if it is set. -/
lemma toNat_eq_ite (b : Bool) : b.toNat = if b then 1 else 0 := by
  cases b <;> rfl

/-- **Samples in a row** add up, from the left, to the statistics that are there. -/
lemma BucketStats.foldl_add (samples : List (Sample α))
    (stats : BucketStats α) :
    samples.foldl add stats = {
      count := stats.count + samples.length
      sum := (samples.map Sample.throughput).foldl (· + ·) stats.sum
      min := (samples.map Sample.throughput).foldl Quantity.lesser stats.min
      max := (samples.map Sample.throughput).foldl Quantity.greater stats.max
      tracking := stats.tracking + samples.countP Sample.tracking
      repartitioning := stats.repartitioning + samples.countP Sample.repartitioning } := by
  induction samples generalizing stats with
  | nil => rfl
  | cons s samples ih =>
    rw [List.foldl_cons, ih]
    simp only [add, List.length_cons, List.map_cons, List.foldl_cons, List.countP_cons,
      toNat_eq_ite, BucketStats.mk.injEq, true_and]
    omega

/-- The statistics of the samples of a bucket, if there are any. -/
def BucketStats.ofSamples? : List (Sample α) → Option (BucketStats α)
  | [] => none
  | first :: rest => some (.ofSamples first rest)

/-- The statistics of a bucket with one more sample, which may be its first. -/
def BucketStats.extend (s : Sample α) : Option (BucketStats α) → BucketStats α
  | some stats => stats.add s
  | none => .single s

/-- The samples of a row of samples make up the statistics of the bucket. -/
lemma BucketStats.foldl_extend (samples : List (Sample α)) :
    samples.foldl (fun o s => some (extend s o)) none = ofSamples? samples := by
  have hfold : ∀ (rest : List (Sample α)) (stats : BucketStats α),
      rest.foldl (fun o s => some (extend s o)) (some stats) = some (rest.foldl add stats) := by
    intro rest
    induction rest with
    | nil => exact fun _ => rfl
    | cons s rest ih => exact fun stats => ih (stats.add s)
  cases samples with
  | nil => rfl
  | cons first rest => exact hfold rest (.single first)

namespace Series

/-- A series of samples. -/
def ofSamples (samples : List (Sample α)) : Series α :=
  addAll Keyed.empty samples

variable {samples : List (Sample α)} {b : TimeBucket}

/-- The buckets of a series are those of the samples. -/
lemma mem_keys_ofSamples : b ∈ (ofSamples samples).keys ↔ ∃ s ∈ samples, s.bucket = b :=
  Keyed.mem_keys_foldl_alter Sample.bucket BucketStats.extend

/-- **The statistics of a bucket** are those of its own samples, in their order. -/
lemma get?_ofSamples (samples : List (Sample α)) (b : TimeBucket) :
    (ofSamples samples).get? b =
      BucketStats.ofSamples? (samples.filter fun s => s.bucket = b) := by
  rw [← BucketStats.foldl_extend]
  exact Keyed.get?_foldl_alter Sample.bucket BucketStats.extend samples Keyed.empty b

/-- A series has an entry for each of its buckets. -/
lemma mem_entries_ofSamples {stats : BucketStats α} :
    (b, stats) ∈ (ofSamples samples).entries ↔
      BucketStats.ofSamples? (samples.filter fun s => s.bucket = b) = some stats := by
  rw [Keyed.mem_entries_iff, get?_ofSamples]

end Series

/-! ## Repetitions -/

/-- All samples of a configuration, repetition by repetition. -/
def samplesOf {α : Type} (k : ConfigKey) (runs : List (ConfigKey × List (Sample α))) :
    List (Sample α) :=
  (valuesOf k runs).flatten

namespace TimelineTally

variable {runs : List (ConfigKey × List (Sample α))} {k : ConfigKey}

/-- **Additions in a row.** What holds of the empty tally and is kept by each addition holds of
every tally. -/
lemma ofRuns_induction {P : TimelineTally α → Prop} (hempty : P .empty)
    (hadd : ∀ {tally : TimelineTally α}, P tally → ∀ key samples, P (tally.add key samples))
    (runs : List (ConfigKey × List (Sample α))) : P (ofRuns runs) :=
  List.foldlRecOn runs _ hempty fun _ htally run _ => hadd htally run.1 run.2

/-- Repetitions without samples do not matter. -/
lemma ofRuns_eq (runs : List (ConfigKey × List (Sample α))) :
    ofRuns runs = (runs.filter fun run => run.2 ≠ []).foldl
      (fun tally run => tally.alter run.1 fun series =>
        Series.addAll (series.getD Keyed.empty) run.2) Keyed.empty := by
  rw [ofRuns]
  generalize (Keyed.empty : TimelineTally α) = tally
  induction runs generalizing tally with
  | nil => rfl
  | cons run runs ih =>
    rw [List.foldl_cons, ih]
    by_cases hrun : run.2 = []
    · simp [add, hrun]
    · simp [add, hrun]

/-- The configurations of a tally are those of the repetitions that have samples. -/
lemma mem_keys_ofRuns :
    k ∈ (ofRuns runs).keys ↔ ∃ run ∈ runs, run.2 ≠ [] ∧ run.1 = k := by
  rw [ofRuns_eq]
  refine (Keyed.mem_keys_foldl_alter Prod.fst
    fun run (series : Option (Series α)) => Series.addAll (series.getD Keyed.empty) run.2).trans ?_
  simp only [List.mem_filter, decide_eq_true_eq, and_assoc]

omit [Quantity α] in
/-- Repetitions without samples have nothing to add to the samples of a configuration. -/
lemma flatten_valuesOf_filter (runs : List (ConfigKey × List (Sample α))) (k : ConfigKey) :
    (valuesOf k (runs.filter fun run => run.2 ≠ [])).flatten = (valuesOf k runs).flatten := by
  induction runs with
  | nil => rfl
  | cons run runs ih =>
    by_cases hrun : run.2 = [] <;> by_cases hkey : run.1 = k <;> simp_all [valuesOf]

/-- **The series of a configuration** is that of the samples of its own repetitions, in their
order. -/
lemma entries_ofRuns (runs : List (ConfigKey × List (Sample α))) :
    (ofRuns runs).entries =
      (ofRuns runs).keys.map fun k => (k, Series.ofSamples (valuesOf k runs).flatten) := by
  refine Keyed.entries_eq_map_keys _ fun k hk => ?_
  obtain ⟨run, hrun, hsamples, hkey⟩ := mem_keys_ofRuns.1 hk
  have hmem : ∃ run ∈ runs.filter (fun run => run.2 ≠ []), run.1 = k :=
    ⟨run, by simpa using ⟨hrun, hsamples⟩, hkey⟩
  have hget := Keyed.get?_foldl_alter_getD Prod.fst (Keyed.empty : Series α)
    (fun series (run : ConfigKey × List (Sample α)) => Series.addAll series run.2) hmem
  rw [ofRuns_eq, hget, foldl_filter_key k _ Series.addAll, Series.ofSamples, Series.addAll,
    ← flatten_valuesOf_filter, List.foldl_flatten]
  rfl

/-- A configuration has samples if one of its repetitions has. -/
lemma mem_keys_ofRuns_iff_samplesOf : k ∈ (ofRuns runs).keys ↔ samplesOf k runs ≠ [] := by
  rw [mem_keys_ofRuns, samplesOf, Ne, List.flatten_eq_nil_iff]
  simp

/-- **What there is under a configuration**, told by its samples. -/
lemma get?_ofRuns (runs : List (ConfigKey × List (Sample α))) (k : ConfigKey) :
    (ofRuns runs).get? k =
      if samplesOf k runs = [] then none else some (Series.ofSamples (samplesOf k runs)) := by
  by_cases hk : k ∈ (ofRuns runs).keys
  · rw [if_neg (mem_keys_ofRuns_iff_samplesOf.1 hk), ← Keyed.mem_entries_iff, entries_ofRuns]
    exact List.mem_map.2 ⟨k, hk, rfl⟩
  · rw [if_pos (not_not.1 (mem_keys_ofRuns_iff_samplesOf.not.1 hk))]
    refine Option.eq_none_iff_forall_ne_some.2 fun series hseries => hk ?_
    exact Keyed.mem_keys_iff.2 ⟨series, hseries⟩

end TimelineTally

end BenchTally
