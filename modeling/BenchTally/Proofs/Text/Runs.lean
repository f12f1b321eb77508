import BenchTally.Proofs.Text.Separator
import Mathlib.Algebra.Ring.Nat
import Mathlib.Data.List.Chain
import Mathlib.Data.List.SplitBy
import Mathlib.Data.List.TakeWhile

set_option autoImplicit false
set_option relaxedAutoImplicit false

/-!
# Runs of a separator

A doubled separator is taken from the left, so that of separators in a row every two are a cut, and
an odd one at the end of the row is none. Hence the number of pieces is told by the lengths of the
rows alone.

## Main definitions

* `Text.runs` — the maximal rows of one element in a text.

## Main results

* `Text.length_splitOnPair` — the number of pieces.
-/

namespace BenchTally.Text

variable {α : Type} [DecidableEq α] {sep a : α} {s t : List α}

/-- The maximal runs of an element: its occurrences, as far as they stand side by side. -/
def runs (a : α) (s : List α) : List (List α) :=
  (s.splitBy fun b c => decide (b = c)).filter (a ∈ ·)

/-- Three in a row and two in a row, with one element between them. -/
example : runs 'x' ['x', 'x', 'x', 'a', 'x', 'x'] = [['x', 'x', 'x'], ['x', 'x']] := by decide

/-! ## The first run -/

/-- A text starts with a run of its first element, and something else follows the run. -/
lemma exists_head_run (a : α) (s : List α) :
    ∃ n t, a :: s = List.replicate (n + 1) a ++ t ∧ t.head? ≠ some a := by
  have hrun : s.takeWhile (· = a) = List.replicate (s.takeWhile (· = a)).length a :=
    List.eq_replicate_of_mem fun b hb => by simpa using List.mem_takeWhile_imp hb
  refine ⟨(s.takeWhile (· = a)).length, s.dropWhile (· = a), ?_, fun hhead => ?_⟩
  · rw [List.replicate_succ, ← hrun, List.cons_append, List.takeWhile_append_dropWhile]
  · have hnot := List.head?_dropWhile_not (fun b => decide (b = a)) s
    rw [hhead] at hnot
    simp at hnot

/-- The first run of a text, whatever its element, is a group of equal neighbours. -/
lemma splitBy_replicate_append (n : Nat) (h : t.head? ≠ some a) :
    (List.replicate (n + 1) a ++ t).splitBy (fun b c => decide (b = c)) =
      List.replicate (n + 1) a :: t.splitBy fun b c => decide (b = c) := by
  have hne : List.replicate (n + 1) a ≠ [] := by simp
  have hchain : (List.replicate (n + 1) a).IsChain fun b c => decide (b = c) :=
    List.isChain_replicate_of_rel _ (by simp)
  rw [List.splitBy_append, List.splitBy_of_isChain hne hchain, List.singleton_append]
  intro b hb c hc
  obtain rfl := List.eq_of_mem_replicate (List.mem_of_getLast? hb)
  rw [decide_eq_false_iff_not]
  rintro rfl
  exact h hc

/-- A run at the start is the first run of its element. -/
lemma runs_replicate_append (n : Nat) (h : t.head? ≠ some a) :
    runs a (List.replicate (n + 1) a ++ t) = List.replicate (n + 1) a :: runs a t := by
  rw [runs, splitBy_replicate_append n h, List.filter_cons_of_pos (by simp), runs]

/-- A run at the start is no run of another element. -/
lemma runs_replicate_append_of_ne (n : Nat) (ha : a ≠ sep) (h : t.head? ≠ some a) :
    runs sep (List.replicate (n + 1) a ++ t) = runs sep t := by
  rw [runs, splitBy_replicate_append n h, List.filter_cons_of_neg (by simp [Ne.symm ha]), runs]

/-! ## Counting pieces -/

omit [DecidableEq α] in
/-- An element that joins the first piece adds no piece. -/
lemma length_consPiece {ps : List (List α)} (h : ps ≠ []) :
    (consPiece a ps).length = ps.length := by
  cases ps with
  | nil => exact absurd rfl h
  | cons p ps => rfl

/-- An element that starts no doubled separator adds no piece. -/
lemma length_splitOnPair_cons (h : ¬ (a = sep ∧ s.head? = some sep)) :
    (splitOnPair sep (a :: s)).length = (splitOnPair sep s).length := by
  cases s with
  | nil => rfl
  | cons b r =>
    rw [splitOnPair, if_neg (by simpa using h), length_consPiece (splitOnPair_ne_nil sep (b :: r))]

/-- A run of another element adds no piece. -/
lemma length_splitOnPair_replicate_append_of_ne (n : Nat) (ha : a ≠ sep) :
    (splitOnPair sep (List.replicate n a ++ t)).length = (splitOnPair sep t).length := by
  induction n with
  | zero => rfl
  | succ n ih =>
    rw [List.replicate_succ, List.cons_append, length_splitOnPair_cons fun h => ha h.1, ih]

/-- A run of separators adds a piece for every two of them. -/
lemma length_splitOnPair_replicate_append (n : Nat) (h : t.head? ≠ some sep) :
    (splitOnPair sep (List.replicate n sep ++ t)).length = n / 2 + (splitOnPair sep t).length := by
  induction n using Nat.twoStepInduction with
  | zero => simp
  | one => simpa using length_splitOnPair_cons fun hpair => h hpair.2
  | more n ih _ =>
    rw [List.replicate_succ, List.replicate_succ, List.cons_append, List.cons_append, splitOnPair,
      if_pos ⟨rfl, rfl⟩, List.length_cons, ih]
    omega

/-- **The number of pieces.** There is one piece, and another for every two elements of each run of
separators.

**Proof sketch.** Induction on the length of the text, along its first run. -/
lemma length_splitOnPair (sep : α) (s : List α) :
    (splitOnPair sep s).length = 1 + ((runs sep s).map fun run => run.length / 2).sum := by
  induction hlength : s.length using Nat.strong_induction_on generalizing s with
  | h length ih =>
    cases s with
    | nil => rfl
    | cons a r =>
      obtain ⟨n, t, heq, ht⟩ := exists_head_run a r
      have hshorter : t.length < length := by
        rw [← hlength, heq, List.length_append, List.length_replicate]
        omega
      have hrest := ih t.length hshorter t rfl
      rw [heq]
      by_cases ha : a = sep
      · subst ha
        rw [length_splitOnPair_replicate_append _ ht, runs_replicate_append n ht, hrest,
          List.map_cons, List.sum_cons, List.length_replicate]
        omega
      · rw [length_splitOnPair_replicate_append_of_ne _ ha, runs_replicate_append_of_ne n ha ht,
          hrest]

end BenchTally.Text
