import BenchTally.Proofs.Result.Columns
import Mathlib.Data.List.Sort

set_option autoImplicit false
set_option relaxedAutoImplicit false

/-!
# What a timeline is read as

The values of the records of a table give one sample for each record at which time has advanced
since the one before it; which record that is does not depend on whether it gave a sample itself.
One thing that is wrong with the table leaves no samples at all, and the first in the order of
reading is told.

## Main definitions

* `Reading.Of` — the values of a record.
* `Timeline.RecordFault`, `Timeline.FirstFault` — the first thing that is wrong with a record, and
  with a table.
* `Timeline.SamplesOf` — the samples of readings, position by position.
* `Timeline.Progress` — reading record by record, with the last record's values at hand.

## Main results

* `Timeline.progress_eq_ofRecords` — reading record by record gives the samples of a table.
* `Timeline.ofRecords_iff` — which samples, and which faults, a table is read as.
-/

namespace BenchTally

/-! ## Records -/

variable {α : Type}

/-- An active flag: the record reaches the column, and its value there is an `x` of either case
between blanks. -/
def Flagged (record : List String) (column : Option Nat) : Prop :=
  ∃ i value, column = some i ∧ record[i]? = some value ∧
    (Text.trim value.toList = ['x'] ∨ Text.trim value.toList = ['X'])

lemma flagAt_iff {record : List String} {column : Option Nat} :
    flagAt record column = true ↔ Flagged record column := by
  cases column with
  | none => simp [flagAt, Flagged]
  | some i =>
    cases hvalue : record[i]? with
    | none => simp [flagAt, Flagged, hvalue]
    | some value => simp [flagAt, Flagged, hvalue, isMark]

/-- The values of a record in the given columns. -/
structure Reading.Of (number : List Char → Option α) (columns : Columns) (record : List String)
    (r : Reading α) : Prop where
  /-- The record reaches the column of elapsed milliseconds, and has a number there. -/
  elapsed : ∃ value, record[columns.elapsed]? = some value ∧
    number (ungroup value.toList) = some r.elapsedMs
  /-- The record reaches the column of executed operations, and has a number there. -/
  executed : ∃ value, record[columns.executed]? = some value ∧
    number (ungroup value.toList) = some r.executed
  /-- Tracking is active if the record says so. -/
  tracking : r.tracking = true ↔ Flagged record columns.tracking
  /-- Repartitioning is active if the record says so. -/
  repartitioning : r.repartitioning = true ↔ Flagged record columns.repartitioning

lemma requireNumber_eq_ok_iff {number : List Char → Option α} {record : List String} {i : Nat}
    {column : String} {count : Nat} {x : α} :
    requireNumber number record i column count = .ok x ↔
      ∃ value, record[i]? = some value ∧ number (ungroup value.toList) = some x := by
  rw [requireNumber]
  cases record[i]? with
  | none => simp
  | some value =>
    simp only [readGrouped]
    cases hx : number (ungroup value.toList) <;> simp [hx]

lemma requireNumber_eq_error_iff {number : List Char → Option α} {record : List String} {i : Nat}
    {column : String} {count : Nat} {e : ContentError} :
    requireNumber number record i column count = .error e ↔
      (record[i]? = none ∧ e = .missingValue column count) ∨
        ∃ value, record[i]? = some value ∧ number (ungroup value.toList) = none ∧
          e = .invalidNumber column value.toList := by
  rw [requireNumber]
  cases record[i]? with
  | none => simp [eq_comm]
  | some value =>
    simp only [readGrouped]
    cases hx : number (ungroup value.toList) <;> simp [hx, eq_comm]

/-- The values that are read are those of the record. -/
lemma Reading.ofRecord_eq_ok_iff {number : List Char → Option α} {columns : Columns}
    {record : List String} {count : Nat} {r : Reading α} :
    ofRecord number columns record count = .ok r ↔ r.Of number columns record := by
  simp only [ofRecord, Verdict.bind_eq_ok_iff, requireNumber_eq_ok_iff, Verdict.pure_eq_ok_iff]
  constructor
  · rintro ⟨ms, hms, n, hn, rfl⟩
    exact ⟨hms, hn, flagAt_iff, flagAt_iff⟩
  · rintro ⟨hms, hn, htracking, hrepartitioning⟩
    refine ⟨_, hms, _, hn, ?_⟩
    have hflag : ∀ {b : Bool} {column : Option Nat},
        (b = true ↔ Flagged record column) → flagAt record column = b := by
      intro b column h
      rw [Bool.eq_iff_iff, flagAt_iff, h]
    rw [hflag htracking, hflag hrepartitioning]

namespace Timeline

/-- The first thing that is wrong with the record of the given number. A record that is not text is
`none`. -/
inductive RecordFault (number : List Char → Option α) (columns : Columns) (count : Nat) :
    Option (List String) → ContentError → Prop where
  /-- The record is not text. -/
  | notText : RecordFault number columns count none .malformedRecord
  /-- The record does not reach the column of elapsed milliseconds. -/
  | elapsedMissing {record : List String} (helapsed : record[columns.elapsed]? = none) :
      RecordFault number columns count (some record) (.missingValue elapsedColumn count)
  /-- The elapsed milliseconds are not a number. -/
  | elapsedInvalid {record : List String} {value : String}
      (helapsed : record[columns.elapsed]? = some value)
      (hnumber : number (ungroup value.toList) = none) :
      RecordFault number columns count (some record) (.invalidNumber elapsedColumn value.toList)
  /-- The record does not reach the column of executed operations. -/
  | executedMissing {record : List String} {value : String} {ms : α}
      (helapsed : record[columns.elapsed]? = some value)
      (hnumber : number (ungroup value.toList) = some ms)
      (hexecuted : record[columns.executed]? = none) :
      RecordFault number columns count (some record) (.missingValue executedColumn count)
  /-- The executed operations are not a number. -/
  | executedInvalid {record : List String} {value value' : String} {ms : α}
      (helapsed : record[columns.elapsed]? = some value)
      (hnumber : number (ungroup value.toList) = some ms)
      (hexecuted : record[columns.executed]? = some value')
      (hnumber' : number (ungroup value'.toList) = none) :
      RecordFault number columns count (some record) (.invalidNumber executedColumn value'.toList)

/-- The first thing that is wrong with a table: with its header, or with the first of its records
that has a fault. -/
inductive FirstFault (number : List Char → Option α) :
    Option (List String) → List (Option (List String)) → ContentError → Prop where
  /-- The header is not text. -/
  | header {records : List (Option (List String))} :
      FirstFault number none records .malformedRecord
  /-- There is no column of elapsed milliseconds. -/
  | elapsed {names : List String} {records : List (Option (List String))}
      (helapsed : elapsedColumn ∉ names) :
      FirstFault number (some names) records (.missingColumn elapsedColumn)
  /-- There is no column of executed operations. -/
  | executed {names : List String} {records : List (Option (List String))}
      (helapsed : elapsedColumn ∈ names) (hexecuted : executedColumn ∉ names) :
      FirstFault number (some names) records (.missingColumn executedColumn)
  /-- A record has a fault, and those before it have values. -/
  | record {names : List String} {columns : Columns} {before after : List (Option (List String))}
      {record : Option (List String)} {e : ContentError} (hcolumns : columns.OfHeader names)
      (hbefore : ∀ earlier ∈ before, ∃ fields, earlier = some fields ∧
        ∃ r : Reading α, r.Of number columns fields)
      (hfault : RecordFault number columns before.length record e) :
      FirstFault number (some names) (before ++ record :: after) e

/-- The values of the record with the given number, which may not be text. -/
def readRecord (number : List Char → Option α) (columns : Columns)
    (record : Option (List String)) (count : Nat) : Except ContentError (Reading α) := do
  Reading.ofRecord number columns (← requireText record) count

variable {number : List Char → Option α} {columns : Columns}

/-- A record is read as its values, whatever its number. -/
lemma readRecord_eq_ok_iff {record : Option (List String)} {count : Nat} {r : Reading α} :
    readRecord number columns record count = .ok r ↔
      ∃ fields, record = some fields ∧ r.Of number columns fields := by
  cases record <;> simp [readRecord, requireText, Reading.ofRecord_eq_ok_iff]

/-- A record is refused for the first thing that is wrong with it. -/
lemma readRecord_eq_error_iff {record : Option (List String)} {count : Nat} {e : ContentError} :
    readRecord number columns record count = .error e ↔
      RecordFault number columns count record e := by
  cases record with
  | none =>
    simp only [readRecord, requireText, Verdict.bind_eq_error_iff, Except.error.injEq, reduceCtorEq,
      false_and, exists_false, or_false]
    constructor
    · rintro rfl
      exact .notText
    · rintro ⟨⟩
      rfl
  | some fields =>
    simp only [readRecord, requireText, Reading.ofRecord, Verdict.bind_eq_error_iff,
      requireNumber_eq_error_iff, requireNumber_eq_ok_iff, Except.ok.injEq, reduceCtorEq, false_or,
      exists_eq_left', pure, Except.pure, and_false, exists_false, or_false]
    constructor
    · rintro ((⟨helapsed, rfl⟩ | ⟨value, helapsed, hnumber, rfl⟩) |
        ⟨ms, ⟨value, helapsed, hnumber⟩, ⟨hexecuted, rfl⟩ | ⟨value', hexecuted, hnumber', rfl⟩⟩)
      · exact .elapsedMissing helapsed
      · exact .elapsedInvalid helapsed hnumber
      · exact .executedMissing helapsed hnumber hexecuted
      · exact .executedInvalid helapsed hnumber hexecuted hnumber'
    · intro h
      cases h with
      | elapsedMissing helapsed => exact .inl (.inl ⟨helapsed, rfl⟩)
      | elapsedInvalid helapsed hnumber => exact .inl (.inr ⟨_, helapsed, hnumber, rfl⟩)
      | executedMissing helapsed hnumber hexecuted =>
        exact .inr ⟨_, ⟨_, helapsed, hnumber⟩, .inl ⟨hexecuted, rfl⟩⟩
      | executedInvalid helapsed hnumber hexecuted hnumber' =>
        exact .inr ⟨_, ⟨_, helapsed, hnumber⟩, .inr ⟨_, hexecuted, hnumber', rfl⟩⟩

/-! ## Tables -/

/-- The records of a table are read as their values. -/
lemma mapM_readRecord_eq_ok_iff {records : List (Option (List String))} {rs : List (Reading α)} :
    records.zipIdx.mapM (fun p => readRecord number columns p.1 p.2) = .ok rs ↔
      List.Forall₂ (fun record r => ∃ fields, record = some fields ∧ r.Of number columns fields)
        records rs := by
  conv_rhs => rw [← List.zipIdx_map_fst 0 records]
  rw [Verdict.mapM_eq_ok_iff, List.forall₂_map_left_iff]
  simp only [readRecord_eq_ok_iff]

/-- The records of a table are refused for the first one that has a fault. -/
lemma mapM_readRecord_eq_error_iff {records : List (Option (List String))} {e : ContentError} :
    records.zipIdx.mapM (fun p => readRecord number columns p.1 p.2) = .error e ↔
      ∃ before record after, records = before ++ record :: after ∧
        (∀ earlier ∈ before, ∃ fields, earlier = some fields ∧
          ∃ r : Reading α, r.Of number columns fields) ∧
        RecordFault number columns before.length record e := by
  rw [Verdict.mapM_eq_error_iff]
  constructor
  · rintro ⟨before, ⟨record, count⟩, after, hsplit, hbefore, hfault⟩
    obtain ⟨before, rest, rfl, rfl, hrest⟩ := List.zipIdx_eq_append_iff.1 hsplit
    obtain ⟨record, after, rfl, hpair, -⟩ := List.zipIdx_eq_cons_iff.1 hrest.symm
    obtain ⟨rfl, rfl⟩ := Prod.mk.inj hpair
    refine ⟨before, _, after, rfl, ?_, by simpa using readRecord_eq_error_iff.1 hfault⟩
    intro earlier hearlier
    rw [← List.zipIdx_map_fst 0 before, List.mem_map] at hearlier
    obtain ⟨p, hp, rfl⟩ := hearlier
    obtain ⟨r, hr⟩ := hbefore p hp
    obtain ⟨fields, hfields, hof⟩ := readRecord_eq_ok_iff.1 hr
    exact ⟨fields, hfields, r, hof⟩
  · rintro ⟨before, record, after, rfl, hbefore, hfault⟩
    refine ⟨before.zipIdx, (record, before.length), after.zipIdx (before.length + 1), ?_, ?_,
      readRecord_eq_error_iff.2 hfault⟩
    · rw [List.zipIdx_append, List.zipIdx_cons, Nat.zero_add]
    · intro p hp
      obtain ⟨fields, hfields, r, hof⟩ := hbefore p.1 (List.fst_mem_of_mem_zipIdx hp)
      exact ⟨r, readRecord_eq_ok_iff.2 ⟨fields, hfields, hof⟩⟩

/-- A table with a header is read column by column and then record by record. -/
lemma readings_some (names : List String) (records : List (Option (List String))) :
    readings number (some names) records = (do
      let columns ← Columns.locate names
      records.zipIdx.mapM fun p => readRecord number columns p.1 p.2) :=
  rfl

/-- Without a header nothing is read. -/
lemma readings_none (records : List (Option (List String))) :
    readings number none records = .error .malformedRecord :=
  rfl

/-- A table is read as the values of its records in the columns of its header. -/
lemma readings_eq_ok_iff {header : Option (List String)} {records : List (Option (List String))}
    {rs : List (Reading α)} :
    readings number header records = .ok rs ↔
      ∃ names columns, header = some names ∧ columns.OfHeader names ∧
        List.Forall₂ (fun record r => ∃ fields, record = some fields ∧ r.Of number columns fields)
          records rs := by
  cases header with
  | none => simp [readings_none]
  | some names =>
    simp [readings_some, Columns.locate_eq_ok_iff, mapM_readRecord_eq_ok_iff]

/-- A table is refused for the first thing that is wrong with it. -/
lemma readings_eq_error_iff {header : Option (List String)} {records : List (Option (List String))}
    {e : ContentError} :
    readings number header records = .error e ↔ FirstFault number header records e := by
  cases header with
  | none =>
    rw [readings_none, Except.error.injEq]
    constructor
    · rintro rfl
      exact .header
    · rintro ⟨⟩
      rfl
  | some names =>
    simp only [readings_some, Verdict.bind_eq_error_iff, Columns.locate_eq_error_iff,
      Columns.locate_eq_ok_iff, mapM_readRecord_eq_error_iff]
    constructor
    · rintro ((⟨helapsed, rfl⟩ | ⟨helapsed, hexecuted, rfl⟩) |
        ⟨columns, hcolumns, before, record, after, rfl, hbefore, hfault⟩)
      · exact .elapsed helapsed
      · exact .executed helapsed hexecuted
      · exact .record hcolumns hbefore hfault
    · intro h
      cases h with
      | elapsed helapsed => exact .inl (.inl ⟨helapsed, rfl⟩)
      | executed helapsed hexecuted => exact .inl (.inr ⟨helapsed, hexecuted, rfl⟩)
      | record hcolumns hbefore hfault =>
        exact .inr ⟨_, hcolumns, _, _, _, rfl, hbefore, hfault⟩

/-! ## Samples -/

variable [Quantity α] {bucket : α → TimeBucket}

/-- Time advances from the reading at a position to the next. -/
def AdvancesAt (rs : List (Reading α)) (i : Nat) : Prop :=
  ∃ earlier later, rs[i]? = some earlier ∧ rs[i + 1]? = some later ∧
    Quantity.less (Quantity.ofNat 0)
      ((later.elapsedMs - earlier.elapsedMs) / Quantity.ofNat 1000) = true

/-- The sample between the reading at a position and the next: the operations per second between
the two, at the time and with the flags of the later one. -/
def IsSampleAt (bucket : α → TimeBucket) (rs : List (Reading α)) (i : Nat) (s : Sample α) : Prop :=
  ∃ earlier later, rs[i]? = some earlier ∧ rs[i + 1]? = some later ∧
    s = {
      bucket := bucket later.elapsedMs
      throughput := (later.executed - earlier.executed) /
        ((later.elapsedMs - earlier.elapsedMs) / Quantity.ofNat 1000)
      tracking := later.tracking
      repartitioning := later.repartitioning }

/-- The samples of readings: one for each position at which time advances, in ascending order, and
none for any other. -/
def SamplesOf (bucket : α → TimeBucket) (rs : List (Reading α)) (ss : List (Sample α)) : Prop :=
  ∃ positions : List Nat, positions.Pairwise (· < ·) ∧
    (∀ i, i ∈ positions ↔ AdvancesAt rs i) ∧ List.Forall₂ (IsSampleAt bucket rs) positions ss

/-- The first two readings give a sample or not; the others follow. -/
lemma samples_cons_cons (a b : Reading α) (rs : List (Reading α)) :
    samples bucket (a :: b :: rs) = (sample? bucket a b).toList ++ samples bucket (b :: rs) := by
  simp only [samples, List.tail_cons, List.zip_cons_cons, List.filterMap_cons]
  cases sample? bucket a b <;> rfl

/-- A further reading at the end gives a sample with the last one before it, or none. -/
lemma samples_append_singleton (rs : List (Reading α)) (r : Reading α) :
    samples bucket (rs ++ [r]) =
      samples bucket rs ++ (rs.getLast?.bind fun last => sample? bucket last r).toList := by
  induction rs with
  | nil => rfl
  | cons a rs ih =>
    cases rs with
    | nil =>
      rw [List.singleton_append, samples_cons_cons]
      exact List.append_nil _
    | cons b rs =>
      rw [List.cons_append, List.cons_append, samples_cons_cons, ← List.cons_append, ih,
        samples_cons_cons, List.append_assoc, List.getLast?_cons_cons]

/-- **The samples that are taken** are those of the readings.

**Proof sketch.** Induction on the readings: the positions of a list are those of its tail moved by
one, and the first if time advances there. -/
lemma samplesOf_samples (rs : List (Reading α)) : SamplesOf bucket rs (samples bucket rs) := by
  induction rs with
  | nil => exact ⟨[], .nil, by simp [AdvancesAt], .nil⟩
  | cons a rs ih =>
    cases rs with
    | nil => exact ⟨[], .nil, by simp [AdvancesAt], .nil⟩
    | cons b rs =>
      obtain ⟨positions, hascending, hmem, hsamples⟩ := ih
      -- A position of the tail is the next one of the list.
      have hmoved : List.Forall₂ (IsSampleAt bucket (a :: b :: rs)) (positions.map (· + 1))
          (samples bucket (b :: rs)) := List.forall₂_map_left_iff.2 hsamples
      have hascending' : (positions.map (· + 1)).Pairwise (· < ·) :=
        hascending.map _ fun i j hij => Nat.succ_lt_succ hij
      rw [samples_cons_cons, sample?, deltaSeconds]
      split_ifs with hadvance
      · refine ⟨0 :: positions.map (· + 1), ?_, ?_, .cons ⟨a, b, rfl, rfl, rfl⟩ hmoved⟩
        · refine List.pairwise_cons.2 ⟨?_, hascending'⟩
          intro i hi
          obtain ⟨j, -, rfl⟩ := List.mem_map.1 hi
          exact Nat.succ_pos j
        · intro i
          cases i with
          | zero => simpa [AdvancesAt] using hadvance
          | succ i => simpa [AdvancesAt] using hmem i
      · refine ⟨positions.map (· + 1), hascending', ?_, hmoved⟩
        intro i
        cases i with
        | zero => simpa [AdvancesAt] using hadvance
        | succ i => simpa [AdvancesAt] using hmem i

/-- There is at most one sample at a position. -/
lemma IsSampleAt.unique {rs : List (Reading α)} {i : Nat} {s s' : Sample α}
    (h : IsSampleAt bucket rs i s) (h' : IsSampleAt bucket rs i s') : s = s' := by
  obtain ⟨a, b, ha, hb, rfl⟩ := h
  obtain ⟨a', b', ha', hb', rfl⟩ := h'
  obtain rfl := Option.some.inj (ha.symm.trans ha')
  obtain rfl := Option.some.inj (hb.symm.trans hb')
  rfl

/-- There is one list of samples of readings. -/
lemma SamplesOf.unique {rs : List (Reading α)} {ss ss' : List (Sample α)}
    (h : SamplesOf bucket rs ss) (h' : SamplesOf bucket rs ss') : ss = ss' := by
  obtain ⟨positions, hascending, hmem, hsamples⟩ := h
  obtain ⟨positions', hascending', hmem', hsamples'⟩ := h'
  have hpositions : positions = positions' :=
    hascending.eq_of_mem_iff hascending' fun i => (hmem i).trans (hmem' i).symm
  subst hpositions
  clear hascending hascending' hmem hmem'
  induction hsamples generalizing ss' with
  | nil =>
    cases hsamples'
    rfl
  | cons hs _ ih =>
    cases hsamples' with
    | cons hs' hss' => rw [hs.unique hs', ih hss']

/-- The samples that are taken are those of the readings, and no others. -/
lemma samples_eq_iff {rs : List (Reading α)} {ss : List (Sample α)} :
    samples bucket rs = ss ↔ SamplesOf bucket rs ss := by
  constructor
  · rintro rfl
    exact samplesOf_samples rs
  · exact (samplesOf_samples rs).unique

/-! ## Record by record -/

/-- How far a table was read: the values of the last record, and the samples so far. -/
structure Progress (α : Type) where
  /-- The values of the last record. -/
  last : Option (Reading α)
  /-- The samples so far. -/
  samples : List (Sample α)

/-- One record further: its values take the place of those of the record before, whether or not the
two give a sample. -/
def Progress.step (bucket : α → TimeBucket) (p : Progress α) (r : Reading α) : Progress α where
  last := some r
  samples := p.samples ++ (p.last.bind fun last => sample? bucket last r).toList

/-- The samples of a table, read record by record. -/
def progress (number : List Char → Option α) (bucket : α → TimeBucket)
    (header : Option (List String)) (records : List (Option (List String))) :
    Except ContentError (List (Sample α)) := do
  let columns ← Columns.locate (← requireText header)
  let p ← records.zipIdx.foldlM
    (fun (p : Progress α) (record, count) =>
      return p.step bucket (← readRecord number columns record count))
    ⟨none, []⟩
  return p.samples

/-- How far a table was read when it gave the readings. -/
def Progress.after (bucket : α → TimeBucket) (rs : List (Reading α)) : Progress α :=
  ⟨rs.getLast?, Timeline.samples bucket rs⟩

/-- One record further, the last record and the samples are those of one more reading. -/
lemma Progress.step_after (rs : List (Reading α)) (r : Reading α) :
    (after bucket rs).step bucket r = after bucket (rs ++ [r]) := by
  simp [after, step, samples_append_singleton]

/-- **A run over records**, from wherever reading has come to: it fails where reading the values
fails, and else arrives behind all of them. -/
lemma foldlM_step_after {β : Type} (read : β → Except ContentError (Reading α)) (l : List β)
    (rs : List (Reading α)) :
    l.foldlM (fun (p : Progress α) b => return p.step bucket (← read b))
        (Progress.after bucket rs) =
      (l.mapM read).map fun rs' => Progress.after bucket (rs ++ rs') := by
  induction l generalizing rs with
  | nil => simp [pure, Except.pure, Except.map]
  | cons b l ih =>
    rw [List.foldlM_cons, List.mapM_cons]
    cases hread : read b with
    | error e => rfl
    | ok r =>
      -- The run goes on from one reading more, whether or not this gave a sample.
      have hstep := ih (rs ++ [r])
      rw [← Progress.step_after] at hstep
      change l.foldlM _ ((Progress.after bucket rs).step bucket r) = _
      rw [hstep]
      cases l.mapM read with
      | error e => rfl
      | ok rs' => simp [bind, Except.bind, pure, Except.pure, Except.map]

/-- **Record by record.** Reading a table record by record, with nothing at hand but the values of
the last record, gives its samples or its first fault. -/
lemma progress_eq_ofRecords (header : Option (List String))
    (records : List (Option (List String))) :
    progress number bucket header records = ofRecords number bucket header records := by
  cases header with
  | none => rfl
  | some names =>
    have hstart : (⟨none, []⟩ : Progress α) = Progress.after bucket [] := rfl
    simp only [progress, ofRecords, readings_some, requireText, hstart, foldlM_step_after]
    cases hcolumns : Columns.locate names with
    | error e => simp only [hcolumns, bind, Except.bind, Except.map]
    | ok columns =>
      cases hrs : records.zipIdx.mapM fun p => readRecord number columns p.1 p.2 with
      | error e => simp only [hcolumns, hrs, bind, Except.bind, Except.map]
      | ok rs =>
        simp only [hcolumns, hrs, bind, Except.bind, Except.map, List.nil_append]
        rfl

/-- **Timelines, read by reference.** A table is read as samples exactly if its header is text and
names the columns that are required, and each record is text, reaches them and has numbers there;
there is then one sample for each position at which time advances, in this order. It is refused for
the first thing that is wrong, in the order of reading. Reading record by record comes to the same
end.

**Proof sketch.** A list is read as its values, or refused for the first element that has none
(`Verdict.mapM_eq_ok_iff`, `Verdict.mapM_eq_error_iff`). The samples go by induction on the
readings, and the run over the records by induction with what was read before as its state. -/
theorem ofRecords_iff (number : List Char → Option α) (bucket : α → TimeBucket)
    (header : Option (List String)) (records : List (Option (List String))) :
    (∀ ss, ofRecords number bucket header records = .ok ss ↔
      ∃ names columns rs, header = some names ∧ columns.OfHeader names ∧
        List.Forall₂ (fun record r => ∃ fields, record = some fields ∧ r.Of number columns fields)
          records rs ∧
        SamplesOf bucket rs ss) ∧
    (∀ e, ofRecords number bucket header records = .error e ↔
      FirstFault number header records e) ∧
    progress number bucket header records = ofRecords number bucket header records := by
  refine ⟨fun ss => ?_, fun e => ?_, progress_eq_ofRecords header records⟩
  · simp only [ofRecords, Verdict.map_eq_ok_iff, samples_eq_iff, readings_eq_ok_iff]
    constructor
    · rintro ⟨rs, ⟨names, columns, hnames, hcolumns, hrs⟩, hsamples⟩
      exact ⟨names, columns, rs, hnames, hcolumns, hrs, hsamples⟩
    · rintro ⟨names, columns, rs, hnames, hcolumns, hrs, hsamples⟩
      exact ⟨rs, ⟨names, columns, hnames, hcolumns, hrs⟩, hsamples⟩
  · rw [ofRecords, Verdict.map_eq_error_iff, readings_eq_error_iff]

end Timeline

end BenchTally
