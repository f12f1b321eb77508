import BenchTally.Proofs.Result.Readings
import Mathlib.Data.List.NodupEquivFin

set_option autoImplicit false
set_option relaxedAutoImplicit false

/-!
# Layouts of a table

A timeline is read by the names of its columns. In which order these stand, and which others stand
among them, makes no difference, not even to what is told about a table that has a fault.

## Main definitions

* `tableColumns` — the columns of a table, each with its name and its cells.
* `cells?` — the cells of the column that is read by a name.

## Main results

* `Timeline.readings_congr` — the values of a table are those of the cells under the four names.
* `Timeline.ofRecords_layout` — tables with the same columns are read as the same.
-/

namespace BenchTally

/-! ## Columns with their cells -/

/-- The names that columns are read by. -/
def columnNames : List String :=
  [elapsedColumn, executedColumn, trackingColumn, repartitioningColumn]

/-- The columns of a table from left to right: the name of each in the header, and its cells from
top to bottom. A record that does not reach a column has no cell there. -/
def tableColumns (header : List String) (records : List (List String)) :
    List (String × List (Option String)) :=
  header.zipIdx.map fun p => (p.1, records.map (·[p.2]?))

/-- The names of the columns are the header. -/
lemma map_fst_tableColumns (header : List String) (records : List (List String)) :
    (tableColumns header records).map Prod.fst = header := by
  rw [tableColumns, List.map_map]
  exact List.zipIdx_map_fst 0 header

/-- A column stands at a position of the header. -/
lemma mem_tableColumns_iff {header : List String} {records : List (List String)} {name : String}
    {cells : List (Option String)} :
    (name, cells) ∈ tableColumns header records ↔
      ∃ i : Nat, header[i]? = some name ∧ records.map (·[i]?) = cells := by
  simp [tableColumns, List.mk_mem_zipIdx_iff_getElem?]

/-- The cells of the column that is read by a name, if there is one. -/
def cells? (header : List String) (records : List (List String)) (name : String) :
    Option (List (Option String)) :=
  (lastPosition? name header).map fun i => records.map (·[i]?)

/-- A name that occurs once has one position. -/
lemma isLastAt_iff_of_count {header : List String} {name : String} (h : header.count name ≤ 1)
    {i : Nat} : IsLastAt header name i ↔ header[i]? = some name := by
  constructor
  · exact IsLastAt.here
  · intro hi
    refine ⟨hi, ?_⟩
    intro j hij hj
    obtain ⟨hilt, hi⟩ := List.getElem?_eq_some_iff.1 hi
    obtain ⟨hjlt, hj⟩ := List.getElem?_eq_some_iff.1 hj
    have htwice : header.Duplicate name := List.duplicate_iff_exists_distinct_get.2
      ⟨⟨i, hilt⟩, ⟨j, hjlt⟩, hij, hi.symm, hj.symm⟩
    have hcount := List.duplicate_iff_two_le_count.1 htwice
    omega

/-- The cells that are read by a name that occurs once are those of the column of this name. -/
lemma cells?_eq_some_iff {header : List String} {records : List (List String)} {name : String}
    (h : header.count name ≤ 1) {cells : List (Option String)} :
    cells? header records name = some cells ↔ (name, cells) ∈ tableColumns header records := by
  rw [cells?, Option.map_eq_some_iff, mem_tableColumns_iff]
  simp only [lastPosition?_eq_some_iff, isLastAt_iff_of_count h]

/-- **The same columns hold the same cells.** If two tables have the same columns but for order and
for columns of other names, the same cells are read by each of the names. -/
lemma cells?_eq_of_perm {header header' : List String} {records records' : List (List String)}
    {further : List (String × List (Option String))}
    (hcolumns : (tableColumns header' records').Perm (tableColumns header records ++ further))
    {name : String} (hfurther : ∀ column ∈ further, column.1 ≠ name)
    (honce : header.count name ≤ 1) :
    cells? header' records' name = cells? header records name := by
  have honce' : header'.count name ≤ 1 := by
    have hnames := (hcolumns.map Prod.fst).count_eq name
    have hzero : (further.map Prod.fst).count name = 0 := by
      rw [List.count_eq_zero, List.mem_map]
      rintro ⟨column, hcolumn, hname⟩
      exact hfurther column hcolumn hname
    rw [List.map_append, List.count_append, map_fst_tableColumns, map_fst_tableColumns,
      hzero] at hnames
    omega
  refine Option.ext fun cells => ?_
  rw [cells?_eq_some_iff honce', cells?_eq_some_iff honce, hcolumns.mem_iff, List.mem_append,
    or_iff_left]
  exact fun hmem => hfurther _ hmem rfl

/-! ## Reading by names -/

section Names

variable {header header' : List String} {records records' : List (List String)} {name : String}

/-- A column that is missing is missing wherever the same cells are read. -/
lemma lastPosition?_eq_none_of_cells?_eq
    (h : cells? header' records' name = cells? header records name)
    (hnone : lastPosition? name header = none) : lastPosition? name header' = none := by
  rwa [cells?, cells?, hnone, Option.map_none, Option.map_eq_none_iff] at h

/-- A column that is there has a column of the same cells wherever these are read. -/
lemma exists_lastPosition?_of_cells?_eq
    (h : cells? header' records' name = cells? header records name) {i : Nat}
    (hi : lastPosition? name header = some i) :
    ∃ i', lastPosition? name header' = some i' ∧ records'.map (·[i']?) = records.map (·[i]?) := by
  rwa [cells?, cells?, hi, Option.map_some, Option.map_eq_some_iff] at h

/-- The cell of a record that is read by a name. -/
def cell? (header record : List String) (name : String) : Option String :=
  (lastPosition? name header).bind (record[·]?)

/-- Tables with equally many records and the same cells under a name agree record by record. -/
lemma forall₂_cell? (hlength : records'.length = records.length)
    (h : cells? header' records' name = cells? header records name) :
    List.Forall₂ (fun record' record => cell? header' record' name = cell? header record name)
      records' records := by
  cases hi : lastPosition? name header with
  | none =>
    have hi' := lastPosition?_eq_none_of_cells?_eq h hi
    simp [List.forall₂_iff_get, cell?, hi, hi', hlength]
  | some i =>
    obtain ⟨i', hi', hcells⟩ := exists_lastPosition?_of_cells?_eq h hi
    simp only [cell?, hi, hi', Option.bind_some]
    rw [← List.forall₂_eq_eq_eq] at hcells
    simpa using hcells

/-- Tables with equally many records and the same cells under several names agree record by record
under all of these. -/
lemma forall₂_cell?_of_mem {names : List String} (hlength : records'.length = records.length)
    (h : ∀ name ∈ names, cells? header' records' name = cells? header records name) :
    List.Forall₂ (fun record' record => ∀ name ∈ names,
      cell? header' record' name = cell? header record name) records' records := by
  refine List.forall₂_iff_get.2 ⟨hlength, ?_⟩
  intro i hi hi' name hname
  exact (forall₂_cell? hlength (h name hname)).get hi hi'

end Names

namespace Timeline

variable {α : Type}

/-- Lists that agree element by element are read as the same, each element with its number. -/
lemma mapM_zipIdx_congr {β β' ε γ : Type} {f : β → Nat → Except ε γ} {f' : β' → Nat → Except ε γ}
    {l : List β} {l' : List β'} (h : List.Forall₂ (fun b b' => ∀ n, f b n = f' b' n) l l')
    (k : Nat) :
    (l.zipIdx k).mapM (fun p => f p.1 p.2) = (l'.zipIdx k).mapM fun p => f' p.1 p.2 := by
  induction h generalizing k with
  | nil => rfl
  | cons hb _ ih => simp only [List.zipIdx_cons, List.mapM_cons, hb k, ih (k + 1)]

/-- The values of a record are those of its cells in the four columns. -/
lemma ofRecord_congr {number : List Char → Option α} {columns columns' : Columns}
    {record record' : List String}
    (helapsed : record'[columns'.elapsed]? = record[columns.elapsed]?)
    (hexecuted : record'[columns'.executed]? = record[columns.executed]?)
    (htracking : columns'.tracking.bind (record'[·]?) = columns.tracking.bind (record[·]?))
    (hrepartitioning :
      columns'.repartitioning.bind (record'[·]?) = columns.repartitioning.bind (record[·]?))
    (count : Nat) :
    Reading.ofRecord number columns' record' count =
      Reading.ofRecord number columns record count := by
  simp only [Reading.ofRecord, requireNumber, flagAt, helapsed, hexecuted, htracking,
    hrepartitioning]

/-- **Reading by names.** What a table is read as depends on the cells under the four names.

**Proof sketch.** The columns that have to be there are missed in both tables or in neither. If they
are there, both tables have equally many records, and the values of a record are those of its cells
under the names. -/
lemma readings_congr (number : List Char → Option α) {header header' : List String}
    {records records' : List (List String)}
    (h : ∀ name ∈ columnNames, cells? header' records' name = cells? header records name) :
    readings number (some header') (records'.map some) =
      readings number (some header) (records.map some) := by
  have helapsedName : elapsedColumn ∈ columnNames := by decide
  have hexecutedName : executedColumn ∈ columnNames := by decide
  rw [readings_some, readings_some, Columns.locate, Columns.locate, requireColumn, requireColumn,
    requireColumn, requireColumn]
  cases helapsed : lastPosition? elapsedColumn header with
  | none =>
    rw [lastPosition?_eq_none_of_cells?_eq (h _ helapsedName) helapsed]
    rfl
  | some e =>
    obtain ⟨e', helapsed', hcells⟩ :=
      exists_lastPosition?_of_cells?_eq (h _ helapsedName) helapsed
    rw [helapsed']
    cases hexecuted : lastPosition? executedColumn header with
    | none =>
      rw [lastPosition?_eq_none_of_cells?_eq (h _ hexecutedName) hexecuted]
      rfl
    | some x =>
      obtain ⟨x', hexecuted', -⟩ :=
        exists_lastPosition?_of_cells?_eq (h _ hexecutedName) hexecuted
      rw [hexecuted']
      -- A column that both tables have tells that they have equally many records.
      have hlength : records'.length = records.length := by
        simpa using congrArg List.length hcells
      refine mapM_zipIdx_congr ?_ 0
      rw [List.forall₂_map_left_iff, List.forall₂_map_right_iff]
      refine (forall₂_cell?_of_mem hlength h).imp ?_
      intro record' record hcell count
      have hms := hcell _ helapsedName
      have hn := hcell _ hexecutedName
      rw [cell?, cell?, helapsed, helapsed'] at hms
      rw [cell?, cell?, hexecuted, hexecuted'] at hn
      change Reading.ofRecord number ⟨e', x', _, _⟩ record' count =
        Reading.ofRecord number ⟨e, x, _, _⟩ record count
      apply ofRecord_congr hms hn
      · exact hcell trackingColumn (by decide)
      · exact hcell repartitioningColumn (by decide)

variable [Quantity α]

/-- **The layout of a table makes no difference.** Let the columns of a table be those of another,
in any order and with further columns among them, let the further columns have other names than the
four that are read, and let none of these four occur twice. Then the two tables are read as the
same samples, or refused for the same thing. -/
theorem ofRecords_layout (number : List Char → Option α) (bucket : α → TimeBucket)
    {header header' : List String} {records records' : List (List String)}
    {further : List (String × List (Option String))}
    (hcolumns : (tableColumns header' records').Perm (tableColumns header records ++ further))
    (hfurther : ∀ column ∈ further, column.1 ∉ columnNames)
    (honce : ∀ name ∈ columnNames, header.count name ≤ 1) :
    ofRecords number bucket (some header') (records'.map some) =
      ofRecords number bucket (some header) (records.map some) := by
  rw [ofRecords, ofRecords, readings_congr number fun name hname => ?_]
  refine cells?_eq_of_perm hcolumns ?_ (honce name hname)
  rintro column hcolumn rfl
  exact hfurther column hcolumn hname

/-- The two numbers may stand in either order, and a note may come first. -/
theorem ofRecords_layout_reordered :
    ofRecords Decimal.read? TimeBucket.ofMillis
        (some ["note", "Tracking", "executed_count", "elapsed_time_ms"])
        ([["start", "", "0", "0"], ["", "x", "500", "1.000"]].map some) =
      ofRecords Decimal.read? TimeBucket.ofMillis
        (some ["elapsed_time_ms", "executed_count", "Tracking"])
        ([["0", "0", ""], ["1.000", "500", "x"]].map some) := by
  have hcolumns : (tableColumns ["note", "Tracking", "executed_count", "elapsed_time_ms"]
      [["start", "", "0", "0"], ["", "x", "500", "1.000"]]).Perm
      (tableColumns ["elapsed_time_ms", "executed_count", "Tracking"]
        [["0", "0", ""], ["1.000", "500", "x"]] ++ [("note", [some "start", some ""])]) := by
    decide
  exact ofRecords_layout Decimal.read? TimeBucket.ofMillis hcolumns (by decide) (by decide)

end Timeline

end BenchTally
