import BenchTally.Proofs.Result.Readings
import BenchTally.Proofs.Stats.Exact
import Mathlib.Algebra.BigOperators.Group.List.Basic
import Mathlib.Algebra.Order.Field.Basic
import Mathlib.Tactic.NormNum
import Mathlib.Tactic.Ring

set_option autoImplicit false
set_option relaxedAutoImplicit false

/-!
# Executed operations over time

A sample accounts for the operations between two consecutive readings: its throughput, kept up for
the time between the two, comes to exactly these operations. Over exact numbers the samples of a
table together account for the operations from the first record to the last, but for those between
two records between which time does not advance.

## Main definitions

* `Timeline.steps` — the pairs of consecutive readings.
* `Timeline.advancing`, `Timeline.skipped` — the steps with a sample, and those without.
* `Timeline.operations` — the operations that samples account for.

## Main results

* `Timeline.sum_executedIn_steps` — the steps together go from the first reading to the last.
* `Timeline.ofRecords_conserves` — the samples account for what is not skipped.
-/

namespace BenchTally

namespace Timeline

/-! ## Steps -/

section Steps

variable {α : Type} [Quantity α]

/-- The pairs of consecutive readings. -/
def steps (rs : List (Reading α)) : List (Reading α × Reading α) :=
  rs.zip rs.tail

/-- Whether time advances in a step. -/
def advances (step : Reading α × Reading α) : Bool :=
  Quantity.less (Quantity.ofNat 0) (deltaSeconds step.1 step.2)

/-- The steps in which time advances. -/
def advancing (rs : List (Reading α)) : List (Reading α × Reading α) :=
  (steps rs).filter advances

/-- The steps in which time does not advance. -/
def skipped (rs : List (Reading α)) : List (Reading α × Reading α) :=
  (steps rs).filter (!advances ·)

/-- The operations executed in a step. -/
def executedIn (step : Reading α × Reading α) : α :=
  step.2.executed - step.1.executed

/-- The sample of a step in which time advances. -/
def sampleOf (bucket : α → TimeBucket) (step : Reading α × Reading α) : Sample α where
  bucket := bucket step.2.elapsedMs
  throughput := executedIn step / deltaSeconds step.1 step.2
  tracking := step.2.tracking
  repartitioning := step.2.repartitioning

/-- A step has its sample if time advances in it, and none if not. -/
lemma sample?_eq (bucket : α → TimeBucket) (step : Reading α × Reading α) :
    sample? bucket step.1 step.2 = if advances step then some (sampleOf bucket step) else none :=
  rfl

/-- The samples of readings are those of the steps in which time advances, and no others. -/
lemma samples_eq_map_advancing (bucket : α → TimeBucket) (rs : List (Reading α)) :
    samples bucket rs = (advancing rs).map (sampleOf bucket) := by
  rw [samples, advancing, ← List.filterMap_eq_map, List.filterMap_filter]
  exact List.filterMap_congr fun step _ => sample?_eq bucket step

end Steps

/-! ## Exact accounts -/

/-- The operations executed between the first reading and the last; none if there are no
readings. -/
def executedInAll (rs : List (Reading ℚ)) : ℚ :=
  match rs.head?, rs.getLast? with
  | some first, some last => last.executed - first.executed
  | _, _ => 0

/-- The operations that samples account for, each by its throughput over the seconds of the step
that it is taken in. -/
def operations (ss : List (Sample ℚ)) (steps : List (Reading ℚ × Reading ℚ)) : ℚ :=
  (List.zipWith (fun s step => s.throughput * deltaSeconds step.1 step.2) ss steps).sum

/-- Time advances in a step if the later reading has the greater time. -/
lemma advances_iff (step : Reading ℚ × Reading ℚ) :
    advances step = true ↔ step.1.elapsedMs < step.2.elapsedMs := by
  rw [advances, Quantity.less_rat_iff, deltaSeconds, Quantity.ofNat_rat, Quantity.ofNat_rat,
    Nat.cast_zero]
  exact (div_pos_iff_of_pos_right (by norm_num)).trans sub_pos

/-- A sample accounts for the operations executed in its step. -/
lemma throughput_mul_deltaSeconds (bucket : ℚ → TimeBucket) {step : Reading ℚ × Reading ℚ}
    (h : advances step = true) :
    (sampleOf bucket step).throughput * deltaSeconds step.1 step.2 = executedIn step := by
  have hpos : (0 : ℚ) < deltaSeconds step.1 step.2 := by
    simpa [advances] using h
  exact div_mul_cancel₀ _ hpos.ne'

/-- The samples of the steps account for the operations executed in these. -/
lemma operations_map_sampleOf (bucket : ℚ → TimeBucket) {l : List (Reading ℚ × Reading ℚ)}
    (h : ∀ step ∈ l, advances step = true) :
    operations (l.map (sampleOf bucket)) l = (l.map executedIn).sum := by
  rw [operations, List.zipWith_map_left, List.zipWith_self]
  refine congrArg List.sum (List.map_congr_left fun step hstep => ?_)
  exact throughput_mul_deltaSeconds bucket (h step hstep)

/-- **The steps telescope**: together they go from the first reading to the last.

**Proof sketch.** Induction on the readings: a further one at the front adds the step to the one
that was first. -/
lemma sum_executedIn_steps (rs : List (Reading ℚ)) :
    ((steps rs).map executedIn).sum = executedInAll rs := by
  induction rs with
  | nil => rfl
  | cons a rs ih =>
    cases rs with
    | nil => exact (sub_self a.executed).symm
    | cons b rs =>
      obtain ⟨last, hlast⟩ : ∃ last, (b :: rs).getLast? = some last :=
        ⟨_, List.getLast?_eq_some_getLast (List.cons_ne_nil b rs)⟩
      have hstep : steps (a :: b :: rs) = (a, b) :: steps (b :: rs) := rfl
      simp only [executedInAll, List.head?_cons, List.getLast?_cons_cons, hlast] at ih ⊢
      rw [hstep, List.map_cons, List.sum_cons, ih]
      change b.executed - a.executed + _ = _
      ring

/-- The steps are those with a sample and those without. -/
lemma sum_advancing_add_sum_skipped (rs : List (Reading ℚ)) :
    ((advancing rs).map executedIn).sum + ((skipped rs).map executedIn).sum =
      executedInAll rs := by
  rw [← List.sum_append, ← List.map_append, ← sum_executedIn_steps]
  exact ((List.filter_append_perm advances (steps rs)).map executedIn).sum_eq

/-- The time of each reading is before that of the next if time advances throughout. -/
lemma advances_of_mem_steps {rs : List (Reading ℚ)}
    (h : rs.Pairwise fun earlier later => earlier.elapsedMs < later.elapsedMs)
    {step : Reading ℚ × Reading ℚ} (hstep : step ∈ steps rs) : advances step = true := by
  rw [advances_iff]
  induction rs with
  | nil => exact absurd hstep List.not_mem_nil
  | cons a rs ih =>
    cases rs with
    | nil => exact absurd hstep List.not_mem_nil
    | cons b rs =>
      obtain ⟨hfirst, hrest⟩ := List.pairwise_cons.1 h
      obtain rfl | hlater := List.mem_cons.1 hstep
      · exact hfirst b List.mem_cons_self
      · exact ih hrest hlater

/-- No step is skipped if time advances throughout. -/
lemma skipped_eq_nil {rs : List (Reading ℚ)}
    (h : rs.Pairwise fun earlier later => earlier.elapsedMs < later.elapsedMs) :
    skipped rs = [] := by
  rw [skipped, List.filter_eq_nil_iff]
  intro step hstep
  simp [advances_of_mem_steps h hstep]

/-- **No operation is lost or counted twice.** Read exactly, the samples of a table are those of the
steps in which time advances, and account for the operations from the first record to the last but
for those of the steps that are skipped. If time advances throughout, they account for all.

**Proof sketch.** A sample gives back the operations of its step, as its seconds are not zero
(`throughput_mul_deltaSeconds`). Those of all steps go from the first record to the last
(`sum_executedIn_steps`), and a step has a sample or is skipped. -/
theorem ofRecords_conserves (number : List Char → Option ℚ) (bucket : ℚ → TimeBucket)
    {header : Option (List String)} {records : List (Option (List String))} {ss : List (Sample ℚ)}
    (h : ofRecords number bucket header records = .ok ss) :
    ∃ rs, readings number header records = .ok rs ∧
      ss = (advancing rs).map (sampleOf bucket) ∧
      operations ss (advancing rs) = executedInAll rs - ((skipped rs).map executedIn).sum ∧
      (rs.Pairwise (fun earlier later => earlier.elapsedMs < later.elapsedMs) →
        operations ss (advancing rs) = executedInAll rs) := by
  obtain ⟨rs, hrs, rfl⟩ := Verdict.map_eq_ok_iff.1 h
  have hsamples := samples_eq_map_advancing bucket rs
  have htotal : operations (samples bucket rs) (advancing rs) =
      executedInAll rs - ((skipped rs).map executedIn).sum := by
    rw [hsamples, operations_map_sampleOf bucket (l := advancing rs)
      fun step hstep => (List.mem_filter.1 hstep).2]
    exact eq_sub_of_add_eq (sum_advancing_add_sum_skipped rs)
  refine ⟨rs, hrs, hsamples, htotal, ?_⟩
  intro hincreasing
  rw [htotal, skipped_eq_nil hincreasing, List.map_nil, List.sum_nil, sub_zero]

/-- A table whose second and third record are of the same time. -/
def standstillTable : List (Option (List String)) :=
  [some ["0", "0"], some ["1.000", "500"], some ["1.000", "520"], some ["3.000", "1.000"]]

/-- The values of this table. -/
def standstill : List (Reading ℚ) :=
  [⟨0, 0, false, false⟩, ⟨1000, 500, false, false⟩, ⟨1000, 520, false, false⟩,
    ⟨3000, 1000, false, false⟩]

/-- The samples of the table account for all operations but the twenty between the two records of
the same time; those of its first two records account for all. -/
theorem ofRecords_conserves_standstill :
    ofRecords Decimal.readExact? (fun ms => ⟨(ms / 100).floor⟩)
        (some [elapsedColumn, executedColumn]) standstillTable =
      .ok [⟨⟨10⟩, 500, false, false⟩, ⟨⟨30⟩, 240, false, false⟩] ∧
    operations [⟨⟨10⟩, 500, false, false⟩, ⟨⟨30⟩, 240, false, false⟩] (advancing standstill) =
      1000 - 20 ∧
    ofRecords Decimal.readExact? (fun ms => ⟨(ms / 100).floor⟩)
        (some [elapsedColumn, executedColumn]) (standstillTable.take 2) =
      .ok [⟨⟨10⟩, 500, false, false⟩] ∧
    operations [⟨⟨10⟩, 500, false, false⟩] (advancing (standstill.take 2)) = 500 := by
  have hfour : ofRecords Decimal.readExact? (fun ms => ⟨(ms / 100).floor⟩)
      (some [elapsedColumn, executedColumn]) standstillTable =
      .ok [⟨⟨10⟩, 500, false, false⟩, ⟨⟨30⟩, 240, false, false⟩] := by decide +kernel
  have htwo : ofRecords Decimal.readExact? (fun ms => ⟨(ms / 100).floor⟩)
      (some [elapsedColumn, executedColumn]) (standstillTable.take 2) =
      .ok [⟨⟨10⟩, 500, false, false⟩] := by decide +kernel
  have hreadings : readings Decimal.readExact? (some [elapsedColumn, executedColumn])
      standstillTable = .ok standstill := by decide +kernel
  have hreadings' : readings Decimal.readExact? (some [elapsedColumn, executedColumn])
      (standstillTable.take 2) = .ok (standstill.take 2) := by decide +kernel
  obtain ⟨rs, hrs, -, htotal, -⟩ := ofRecords_conserves _ _ hfour
  obtain ⟨rs', hrs', -, -, hall⟩ := ofRecords_conserves _ _ htwo
  obtain rfl := Except.ok.inj (hreadings.symm.trans hrs)
  obtain rfl := Except.ok.inj (hreadings'.symm.trans hrs')
  refine ⟨hfour, ?_, htwo, ?_⟩
  · exact htotal.trans (by decide +kernel)
  · exact (hall (by decide +kernel)).trans (by decide +kernel)

end Timeline

end BenchTally
