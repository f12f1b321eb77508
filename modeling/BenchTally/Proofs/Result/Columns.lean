import BenchTally.Proofs.Verdict
import BenchTally.Result.Timeline

set_option autoImplicit false
set_option relaxedAutoImplicit false

/-!
# Columns of a header

## Main definitions

* `IsLastAt` — the last field of a header with a name.
* `Columns.OfHeader` — the columns that a header names.

## Main results

* `lastPosition?_eq_some_iff`, `lastPosition?_eq_none_iff` — where a name is found.
* `Columns.locate_eq_ok_iff`, `Columns.locate_eq_error_iff` — which columns are found, and which are
  missed.
-/

namespace BenchTally

/-! ## Positions of names -/

/-- The last field of a header with a name. -/
structure IsLastAt (header : List String) (name : String) (i : Nat) : Prop where
  /-- The field has the name. -/
  here : header[i]? = some name
  /-- No later field has it. -/
  later : ∀ j, i < j → header[j]? ≠ some name

/-- There is at most one last field with a name. -/
lemma IsLastAt.unique {header : List String} {name : String} {i j : Nat}
    (hi : IsLastAt header name i) (hj : IsLastAt header name j) : i = j := by
  rcases Nat.lt_trichotomy i j with hlt | heq | hgt
  · exact absurd hj.here (hi.later j hlt)
  · exact heq
  · exact absurd hi.here (hj.later i hgt)

/-- No position is found exactly for a name that does not occur. -/
lemma lastPosition?_eq_none_iff {name : String} {header : List String} :
    lastPosition? name header = none ↔ name ∉ header := by
  induction header with
  | nil => simp [lastPosition?]
  | cons field rest ih =>
    rw [lastPosition?]
    cases hrest : lastPosition? name rest with
    | some i =>
      have hmem : name ∈ rest := by
        by_contra hmem
        rw [ih.2 hmem] at hrest
        cases hrest
      simp [hmem]
    | none =>
      have hmem : name ∉ rest := ih.1 hrest
      by_cases hfield : field = name
      · simp [hfield]
      · simp [hfield, hmem, Ne.symm hfield]

/-- The position that is found is that of the last field with the name. -/
lemma isLastAt_of_lastPosition? {name : String} {header : List String} {i : Nat}
    (h : lastPosition? name header = some i) : IsLastAt header name i := by
  induction header generalizing i with
  | nil => cases h
  | cons field rest ih =>
    rw [lastPosition?] at h
    cases hrest : lastPosition? name rest with
    | some k =>
      rw [hrest, Option.some.injEq] at h
      obtain ⟨hhere, hlater⟩ := ih hrest
      subst h
      refine ⟨by simpa using hhere, ?_⟩
      intro j hj
      obtain ⟨j, rfl⟩ : ∃ j', j = j' + 1 := ⟨j - 1, by omega⟩
      simpa using hlater j (by omega)
    | none =>
      rw [hrest, Option.ite_none_right_eq_some] at h
      obtain ⟨rfl, hi⟩ := h
      obtain rfl := Option.some.inj hi
      refine ⟨rfl, ?_⟩
      intro j hj
      obtain ⟨j, rfl⟩ : ∃ j', j = j' + 1 := ⟨j - 1, by omega⟩
      rw [List.getElem?_cons_succ]
      intro hname
      exact lastPosition?_eq_none_iff.1 hrest (List.mem_of_getElem? hname)

/-- A position is found exactly for the last field with the name. -/
lemma lastPosition?_eq_some_iff {name : String} {header : List String} {i : Nat} :
    lastPosition? name header = some i ↔ IsLastAt header name i := by
  constructor
  · exact isLastAt_of_lastPosition?
  · intro h
    cases hfound : lastPosition? name header with
    | none => exact absurd (List.mem_of_getElem? h.here) (lastPosition?_eq_none_iff.1 hfound)
    | some j => rw [(isLastAt_of_lastPosition? hfound).unique h]

/-! ## The columns that are read -/

/-- The columns that a header names. Of two columns with one name it is the later; a column of flags
may be missing. -/
structure Columns.OfHeader (columns : Columns) (header : List String) : Prop where
  /-- The column of elapsed milliseconds. -/
  elapsed : IsLastAt header elapsedColumn columns.elapsed
  /-- The column of executed operations. -/
  executed : IsLastAt header executedColumn columns.executed
  /-- The column that flags tracking. -/
  tracking : ∀ i, columns.tracking = some i ↔ IsLastAt header trackingColumn i
  /-- The column that flags repartitioning. -/
  repartitioning : ∀ i, columns.repartitioning = some i ↔ IsLastAt header repartitioningColumn i

lemma requireColumn_eq_ok_iff {header : List String} {name : String} {i : Nat} :
    requireColumn header name = .ok i ↔ IsLastAt header name i := by
  rw [← lastPosition?_eq_some_iff, requireColumn]
  cases lastPosition? name header <;> simp

lemma requireColumn_eq_error_iff {header : List String} {name : String} {e : ContentError} :
    requireColumn header name = .error e ↔ name ∉ header ∧ e = .missingColumn name := by
  rw [← lastPosition?_eq_none_iff, requireColumn]
  cases lastPosition? name header <;> simp [eq_comm]

/-- The columns are found exactly if they are those of the header. -/
lemma Columns.locate_eq_ok_iff {header : List String} {columns : Columns} :
    locate header = .ok columns ↔ columns.OfHeader header := by
  simp only [locate, Verdict.bind_eq_ok_iff, requireColumn_eq_ok_iff, Verdict.pure_eq_ok_iff]
  constructor
  · rintro ⟨i, hi, j, hj, rfl⟩
    exact ⟨hi, hj, fun _ => lastPosition?_eq_some_iff, fun _ => lastPosition?_eq_some_iff⟩
  · rintro ⟨hi, hj, htracking, hrepartitioning⟩
    refine ⟨_, hi, _, hj, ?_⟩
    have hflag : ∀ {name : String} {column : Option Nat},
        (∀ i, column = some i ↔ IsLastAt header name i) → lastPosition? name header = column := by
      intro name column h
      refine Option.ext fun i => ?_
      rw [lastPosition?_eq_some_iff, h]
    rw [hflag htracking, hflag hrepartitioning]

/-- The columns are not found exactly if one that has to be there is not; that of elapsed
milliseconds is looked for first. -/
lemma Columns.locate_eq_error_iff {header : List String} {e : ContentError} :
    locate header = .error e ↔
      (elapsedColumn ∉ header ∧ e = .missingColumn elapsedColumn) ∨
        (elapsedColumn ∈ header ∧ executedColumn ∉ header ∧ e = .missingColumn executedColumn) := by
  have hmem : elapsedColumn ∈ header ↔ ∃ i, IsLastAt header elapsedColumn i := by
    simp only [← lastPosition?_eq_some_iff, ← Option.isSome_iff_exists, Option.isSome_iff_ne_none,
      Ne, lastPosition?_eq_none_iff, not_not]
  simp [locate, Verdict.bind_eq_error_iff, requireColumn_eq_ok_iff, requireColumn_eq_error_iff,
    pure, Except.pure, hmem]

end BenchTally
