import BenchTally.Proofs.Result.Conservation
import BenchTally.Proofs.Result.Ticks
import BenchTally.Proofs.Stats.Tallies
import Mathlib.Data.List.Chain

set_option autoImplicit false
set_option relaxedAutoImplicit false

/-!
# Buckets in the order of time

Each of the roundings on the way from a time to its bucket keeps the order: the division, the
rounding to one place, the multiplication, which may give an infinite double, and the rounding to an
integer, which is brought between bounds. So the bucket of a later time is not an earlier one.

## Main results

* `TimeBucket.ofMillis_le` — a later time has no earlier bucket, infinite times included.
* `Timeline.buckets_ordered` — the samples of a file in which time advances meet their rows in the
  order of time.
-/

namespace BenchTally

open Float.Model Float.Model.UnpackedFloat Double

namespace TimeBucket

/-! ## Places -/

/-- **Bringing to one place** keeps the order. -/
lemma keepsOrder_roundPlaces : KeepsOrder (roundPlaces 1) where
  top := by
    intro a ha
    rw [roundPlaces_eq, Binary.ofFloat_eq, unpack_of_top ha]
    rfl
  bot := by
    intro a ha
    rw [roundPlaces_eq, Binary.ofFloat_eq, unpack_of_bot ha]
    rfl
  number := by
    intro a b p q ha hb hle
    obtain ⟨j, hj, hroundA⟩ := exists_roundPlaces ha
    obtain ⟨k, hk, hroundB⟩ := exists_roundPlaces hb
    have hjk : j ≤ k := hj.mono hk (by linarith)
    refine ⟨_, _, hroundA, hroundB, ?_⟩
    gcongr

/-! ## Integers -/

/-- Between the bounds the order stays. -/
lemma clamp_le_clamp {j k : ℤ} (h : j ≤ k) : clamp j ≤ clamp k := by
  unfold clamp
  omega

/-- Nothing is rounded to a number of ticks out of the bounds. -/
lemma roundTicks_mem (x : Float) : minTicks ≤ roundTicks x ∧ roundTicks x ≤ maxTicks := by
  have hclamp : ∀ n : ℤ, minTicks ≤ clamp n ∧ clamp n ≤ maxTicks := by
    intro n
    unfold clamp minTicks maxTicks
    omega
  unfold roundTicks
  split
  · decide
  · split_ifs <;> decide
  · exact hclamp _

/-- Rounding half up, and negative numbers like positive ones, keeps the order of numbers. -/
lemma apply_roundHalfUp_le {s s' : Sign} {m m' : ℕ} {e e' : ℤ}
    (h : signed s (m * 2 ^ e) ≤ signed s' (m' * 2 ^ e')) :
    s.apply (roundHalfUp m e) ≤ s'.apply (roundHalfUp m' e') := by
  obtain ⟨hbelow, habove⟩ := roundHalfUp_mem m e
  obtain ⟨hbelow', habove'⟩ := roundHalfUp_mem m' e'
  have hnonneg : (0 : ℚ) ≤ m * 2 ^ e := by positivity
  have hnonneg' : (0 : ℚ) ≤ m' * 2 ^ e' := by positivity
  cases s with
  | positive =>
    cases s' with
    | positive =>
      have hlt : (roundHalfUp m e : ℚ) < roundHalfUp m' e' + 1 := by
        simp only [signed] at h
        linarith
      have hlt' : roundHalfUp m e < roundHalfUp m' e' + 1 := by exact_mod_cast hlt
      show (roundHalfUp m e : ℤ) ≤ roundHalfUp m' e'
      omega
    | negative =>
      -- Both numbers are zero, and a half of a tick is more than that.
      simp only [signed] at h
      have hzero : (roundHalfUp m e : ℚ) < 1 := by linarith
      have hzero' : (roundHalfUp m' e' : ℚ) < 1 := by linarith
      have hzeroN : roundHalfUp m e < 1 := by exact_mod_cast hzero
      have hzeroN' : roundHalfUp m' e' < 1 := by exact_mod_cast hzero'
      show (roundHalfUp m e : ℤ) ≤ -roundHalfUp m' e'
      omega
  | negative =>
    cases s' with
    | positive =>
      show -(roundHalfUp m e : ℤ) ≤ roundHalfUp m' e'
      omega
    | negative =>
      have hlt : (roundHalfUp m' e' : ℚ) < roundHalfUp m e + 1 := by
        simp only [signed] at h
        linarith
      have hlt' : roundHalfUp m' e' < roundHalfUp m e + 1 := by exact_mod_cast hlt
      show -(roundHalfUp m e : ℤ) ≤ -roundHalfUp m' e'
      omega

/-- **Rounding to ticks** keeps the order, of infinite doubles too. -/
lemma roundTicks_le {x y : Float} (h : x ≤ y) : roundTicks x ≤ roundTicks y := by
  obtain ⟨v, w, hv, hw, hvw⟩ := le_iff.1 h
  rcases Extended.cases v with rfl | rfl | ⟨p, rfl⟩
  · have hleast : roundTicks x = minTicks := by
      rw [roundTicks, Binary.ofFloat_eq, unpack_of_bot hv]
      rfl
    rw [hleast]
    exact (roundTicks_mem y).1
  · obtain rfl := top_le_iff.1 hvw
    rw [roundTicks, roundTicks, Binary.ofFloat_eq, Binary.ofFloat_eq, unpack_of_top hv,
      unpack_of_top hw]
  · rcases Extended.cases w with rfl | rfl | ⟨q, rfl⟩
    · exact absurd hvw (not_le.2 (bot_lt_number p))
    · have hgreatest : roundTicks y = maxTicks := by
        rw [roundTicks, Binary.ofFloat_eq, unpack_of_top hw]
        rfl
      rw [hgreatest]
      exact (roundTicks_mem x).2
    · obtain ⟨s, m, e, rfl, hx⟩ := exists_roundTicks hv
      obtain ⟨s', m', e', rfl, hy⟩ := exists_roundTicks hw
      rw [hx, hy]
      exact clamp_le_clamp (apply_roundHalfUp_le (number_le_number.1 hvw))

/-! ## Buckets -/

/-- **A later time has no earlier bucket.** -/
lemma ofMillis_le {a b : Float} (h : a ≤ b) : (ofMillis a).ticks ≤ (ofMillis b).ticks := by
  have hseconds : a / 1000.0 ≤ b / 1000.0 := (keepsOrder_div unpack_thousand).le h
  have hplaces : roundPlaces 1 (a / 1000.0) ≤ roundPlaces 1 (b / 1000.0) :=
    keepsOrder_roundPlaces.le hseconds
  have htenths : roundPlaces 1 (a / 1000.0) * 10.0 ≤ roundPlaces 1 (b / 1000.0) * 10.0 :=
    (keepsOrder_mul unpack_ten (by decide)).le hplaces
  exact roundTicks_le htenths

end TimeBucket

/-! ## Rows -/

/-- A key that is not greater does not stand after another one. -/
lemma Keyed.idxOf_le_idxOf {κ ν : Type} [Ord κ] [Std.OrientedOrd κ] [DecidableEq κ]
    {t : Keyed κ ν} {a b : κ} (ha : a ∈ t.keys) (hab : compare a b ≠ .gt) :
    t.keys.idxOf a ≤ t.keys.idxOf b := by
  by_contra hlt
  rw [not_le] at hlt
  have hbound : t.keys.idxOf a < t.keys.length := List.idxOf_lt_length_of_mem ha
  have hascending := List.pairwise_iff_getElem.1 t.keys_ascending _ _ (hlt.trans hbound) hbound hlt
  rw [List.getElem_idxOf, List.getElem_idxOf] at hascending
  exact hab (Std.OrientedCmp.gt_of_lt hascending)

/-- A bucket with fewer ticks is not greater than another one. -/
lemma TimeBucket.compare_ne_gt {b b' : TimeBucket} (h : b.ticks ≤ b'.ticks) :
    compare b b' ≠ .gt := by
  show compare b.ticks b'.ticks ≠ .gt
  rw [Ne, compare_gt_iff_gt]
  omega

namespace Timeline

/-! ## Samples -/

/-- The readings that time advances to are some of all readings, in their order. -/
lemma map_snd_advancing_sublist {α : Type} [Quantity α] (rs : List (Reading α)) :
    ((advancing rs).map Prod.snd).Sublist rs := by
  have hsteps : (steps rs).map Prod.snd = rs.tail :=
    List.map_snd_zip (by rw [List.length_tail]; omega)
  have htail : ((advancing rs).map Prod.snd).Sublist rs.tail := by
    rw [← hsteps]
    exact List.filter_sublist.map _
  exact htail.trans (List.tail_sublist rs)

/-- The buckets of samples are those of readings, in their order. -/
lemma map_bucket_samples_sublist {α : Type} [Quantity α] (bucket : α → TimeBucket)
    (rs : List (Reading α)) :
    ((samples bucket rs).map Sample.bucket).Sublist (rs.map fun r => bucket r.elapsedMs) := by
  have hbuckets : (samples bucket rs).map Sample.bucket =
      ((advancing rs).map Prod.snd).map fun r => bucket r.elapsedMs := by
    rw [samples_eq_map_advancing, List.map_map, List.map_map]
    rfl
  rw [hbuckets]
  exact (map_snd_advancing_sublist rs).map _

/-- The buckets of readings between which time advances are in order. -/
lemma pairwise_ticks {rs : List (Reading Float)}
    (h : rs.IsChain fun earlier later => earlier.elapsedMs < later.elapsedMs) :
    (rs.map fun r => TimeBucket.ofMillis r.elapsedMs).Pairwise fun b b' => b.ticks ≤ b'.ticks := by
  have hle : ∀ {a b : Float}, a < b → a ≤ b := by
    intro a b hab
    obtain ⟨x, y, hx, hy, hxy⟩ := lt_iff.1 hab
    exact le_iff.2 ⟨x, y, hx, hy, hxy.le⟩
  have htrans : IsTrans TimeBucket fun b b' => b.ticks ≤ b'.ticks :=
    ⟨fun _ _ _ => le_trans⟩
  apply List.IsChain.pairwise
  rw [List.isChain_map]
  exact h.imp fun _ _ hlt => TimeBucket.ofMillis_le (hle hlt)

/-- **Time and buckets.** A later time has no earlier bucket, whatever the two doubles are that
compare. If a file is read as samples, and the times of its records increase, the buckets of the
samples are in order. In the series that any repetitions make of which these are one, each of the
samples has a row, and the rows that they meet are in order, too.

**Proof sketch.** The four steps from a time to its bucket keep the order
(`TimeBucket.ofMillis_le`). The samples are those of some of the records, in their order, and the
rows of a series ascend. -/
theorem buckets_ordered :
    (∀ a b : Float, a ≤ b → (TimeBucket.ofMillis a).ticks ≤ (TimeBucket.ofMillis b).ticks) ∧
    ∀ (content : Bytes) (ss : List (Sample Float)), ofBytes content = .ok ss →
      ∃ rs, readings Decimal.read? (Table.decodeRecord? ((Table.read content).headD []))
          ((Table.read content).tail.map Table.decodeRecord?) = .ok rs ∧
        (rs.IsChain (fun earlier later => earlier.elapsedMs < later.elapsedMs) →
          (ss.Pairwise fun s s' => s.bucket.ticks ≤ s'.bucket.ticks) ∧
          ∀ (runs : List (ConfigKey × List (Sample Float))) (k : ConfigKey)
            (series : Series Float), (k, ss) ∈ runs →
            (TimelineTally.ofRuns runs).get? k = some series →
            (∀ s ∈ ss, s.bucket ∈ series.keys) ∧
            ss.Pairwise fun s s' =>
              series.keys.idxOf s.bucket ≤ series.keys.idxOf s'.bucket) := by
  refine ⟨fun a b => TimeBucket.ofMillis_le, fun content ss h => ?_⟩
  obtain ⟨rs, hrs, rfl⟩ := Verdict.map_eq_ok_iff.1 h
  refine ⟨rs, hrs, fun hincreasing => ?_⟩
  have hordered : (samples TimeBucket.ofMillis rs).Pairwise
      fun s s' => s.bucket.ticks ≤ s'.bucket.ticks := by
    have hbuckets := (pairwise_ticks hincreasing).sublist
      (map_bucket_samples_sublist TimeBucket.ofMillis rs)
    rwa [List.pairwise_map] at hbuckets
  refine ⟨hordered, fun runs k series hrun hseries => ?_⟩
  have hkeys : ∀ s ∈ samples TimeBucket.ofMillis rs, s.bucket ∈ series.keys := by
    intro s hs
    have hmem : s ∈ samplesOf k runs := List.mem_flatten.2 ⟨_, mem_valuesOf.2 hrun, hs⟩
    rw [TimelineTally.get?_ofRuns, if_neg (List.ne_nil_of_mem hmem), Option.some.injEq] at hseries
    rw [← hseries, Series.mem_keys_ofSamples]
    exact ⟨s, hmem, rfl⟩
  refine ⟨hkeys, hordered.imp_of_mem fun {s s'} hs _ hle => ?_⟩
  exact Keyed.idxOf_le_idxOf (hkeys s hs) (TimeBucket.compare_ne_gt hle)

/-- A file with two samples. -/
def risingContent : Bytes :=
  Text.encode "elapsed_time_ms,executed_count\n0,0\n150,1\ninf,4\n"

/-- The values of its records; the last time is infinite. -/
def risingReadings : List (Reading Float) :=
  [⟨0.0, 0.0, false, false⟩,
    ⟨.ofScientific 150 false 0, .ofScientific 1 false 0, false, false⟩,
    ⟨Decimal.infinity, .ofScientific 4 false 0, false, false⟩]

/-- What it is measured with. -/
def risingConfig : ConfigKey :=
  ⟨"scan", 1, "disk", 4, "plain", 100, 0⟩

/-- The two samples of the file meet the rows of their series in the order of time. -/
theorem buckets_ordered_risingContent :
    (TimeBucket.ofMillis 150.0).ticks ≤ (TimeBucket.ofMillis 250.0).ticks ∧
    ∃ ss series, ofBytes risingContent = .ok ss ∧ ss.length = 2 ∧
      (TimelineTally.ofRuns [(risingConfig, ss)]).get? risingConfig = some series ∧
      ss.Pairwise fun s s' => series.keys.idxOf s.bucket ≤ series.keys.idxOf s'.bucket := by
  have hheader : Table.decodeRecord? ((Table.read risingContent).headD []) =
      some ["elapsed_time_ms", "executed_count"] := by decide
  have hrecords : (Table.read risingContent).tail.map Table.decodeRecord? =
      [some ["0", "0"], some ["150", "1"], some ["inf", "4"]] := by decide
  have hreadings : readings Decimal.read? (some ["elapsed_time_ms", "executed_count"])
      [some ["0", "0"], some ["150", "1"], some ["inf", "4"]] = .ok risingReadings := by rfl
  have hincreasing : risingReadings.IsChain
      fun earlier later => earlier.elapsedMs < later.elapsedMs := by
    refine .cons_cons ?_ (.cons_cons ?_ (.singleton _))
    · decide
    · decide
  have hread : ofBytes risingContent = .ok (samples TimeBucket.ofMillis risingReadings) := by
    rw [ofBytes, hheader, hrecords, ofRecords, hreadings]
    rfl
  have hlength : (samples TimeBucket.ofMillis risingReadings).length = 2 := by
    rfl
  obtain ⟨rs, hrs, hordered⟩ := buckets_ordered.2 risingContent _ hread
  rw [hheader, hrecords, hreadings, Except.ok.injEq] at hrs
  subst hrs
  generalize samples TimeBucket.ofMillis risingReadings = ss at hread hlength hordered
  have hseries := TimelineTally.get?_ofRuns [(risingConfig, ss)] risingConfig
  have hsome : samplesOf risingConfig [(risingConfig, ss)] ≠ [] := by
    rw [← List.length_pos_iff]
    simp [samplesOf, valuesOf, hlength]
  rw [if_neg hsome] at hseries
  exact ⟨buckets_ordered.1 150.0 250.0 (by decide), ss, _, hread, hlength, hseries,
    ((hordered hincreasing).2 _ _ _ (List.mem_singleton_self _) hseries).2⟩

end Timeline

end BenchTally
