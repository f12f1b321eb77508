import BenchTally.Text.Split
import Mathlib.Data.List.Basic
import Mathlib.Data.List.Infix

set_option autoImplicit false
set_option relaxedAutoImplicit false

/-!
# Separators

A text is cut at every separator and nowhere else. It is cut at a doubled separator from the left,
and the separator can overlap itself: in three separators in a row the first two are the cut, and
the third starts the next piece. Pieces put together with the separator between them come apart
again into the same pieces exactly if none of them holds the doubled separator, and none that
another follows ends with half of it.

## Main definitions

* `Text.IsPiece` — the texts that can stand in front of a doubled separator.
* `Text.HasPieces` — the pieces of a text, by the way in which pieces make up a text.

## Main results

* `Text.splitOn_append_cons`, `Text.splitOn_of_not_mem` — texts are cut at every separator and
  nowhere else.
* `Text.splitOnPair_append` — the cut after a piece is the one that is taken.
* `Text.intercalate_splitOnPair` — the pieces with the separator between them are the text.
* `Text.isPiece_of_mem_dropLast_splitOnPair` — any piece but the last can stand in front of a
  doubled separator.
* `Text.hasPieces_iff` — a text has the pieces that it is cut into, and no others.
-/

namespace BenchTally.Text

variable {α : Type}

/-! ## Single separators -/

section Single

variable [DecidableEq α] {sep : α}

/-- Without a separator there is one piece. -/
lemma splitOn_of_not_mem {s : List α} (h : sep ∉ s) : splitOn sep s = [s] := by
  induction s with
  | nil => rfl
  | cons a r ih =>
    have ha : a ≠ sep := fun ha => h (by simp [ha])
    rw [splitOn_cons, if_neg ha, ih fun hr => h (by simp [hr])]
    rfl

/-- A separator is a cut: the pieces before it and those after it are the pieces. -/
lemma splitOn_append_cons (s t : List α) :
    splitOn sep (s ++ sep :: t) = splitOn sep s ++ splitOn sep t := by
  induction s with
  | nil => rw [List.nil_append, splitOn_cons, if_pos rfl, splitOn_nil, List.singleton_append]
  | cons a r ih =>
    rw [List.cons_append, splitOn_cons, splitOn_cons, ih]
    split_ifs with ha
    · rfl
    · obtain ⟨p, ps, hp⟩ := List.exists_cons_of_ne_nil (splitOn_ne_nil sep r)
      rw [hp]
      rfl

/-- No piece holds the separator. -/
lemma not_mem_of_mem_splitOn {s p : List α} (h : p ∈ splitOn sep s) : sep ∉ p := by
  induction s generalizing p with
  | nil => simp_all
  | cons a r ih =>
    rw [splitOn_cons] at h
    split_ifs at h with ha
    · rcases List.mem_cons.1 h with rfl | h
      · simp
      · exact ih h
    · obtain ⟨q, qs, hq⟩ := List.exists_cons_of_ne_nil (splitOn_ne_nil sep r)
      rw [hq] at h
      rcases List.mem_cons.1 h with rfl | h
      · simpa [Ne.symm ha] using ih (hq ▸ List.mem_cons_self)
      · exact ih (hq ▸ List.mem_cons_of_mem q h)

end Single

/-! ## Doubled separators -/

/-- The texts that can stand in front of a doubled separator: the separator is not doubled inside,
and does not stand at the end, where it would join the one that follows. -/
structure IsPiece (sep : α) (s : List α) : Prop where
  /-- The doubled separator does not occur. -/
  no_pair : ¬ [sep, sep] <:+: s
  /-- The separator is not the last element. -/
  getLast?_ne : s.getLast? ≠ some sep

/-- A text without the separator is a piece. -/
lemma IsPiece.of_not_mem {sep : α} {s : List α} (h : sep ∉ s) : IsPiece sep s where
  no_pair hin := h (hin.subset (by simp))
  getLast?_ne hlast := h (List.mem_of_getLast? hlast)

/-- Nothing is a piece. -/
lemma IsPiece.nil (sep : α) : IsPiece sep [] :=
  .of_not_mem (by simp)

/-- The rest of a piece is a piece. -/
lemma IsPiece.of_cons {sep a : α} {s : List α} (h : IsPiece sep (a :: s)) : IsPiece sep s where
  no_pair hin := h.no_pair (hin.trans (List.suffix_cons a s).isInfix)
  getLast?_ne hlast := h.getLast?_ne (by rw [List.getLast?_cons, hlast]; rfl)

/-- An element in front doubles the separator only if it is one and meets another. -/
lemma pair_infix_cons_iff {sep a : α} {s : List α} :
    [sep, sep] <:+: a :: s ↔ (a = sep ∧ s.head? = some sep) ∨ [sep, sep] <:+: s := by
  rw [List.infix_cons_iff, List.cons_prefix_cons]
  cases s with
  | nil => simp
  | cons b r => simp [eq_comm]

variable [DecidableEq α]

/-- **The first doubled separator.** A text either has none, or is a piece, a doubled separator and
the rest.

**Proof sketch.** Induction on the text. An element in front of a text in which no separator is
doubled may double one with the element after it. In front of a piece it either joins the piece, or
it is a separator and the piece is empty or starts with one; then the cut moves to the front, and
what it leaves of the old cut belongs to the rest. -/
lemma exists_first_pair (sep : α) (s : List α) :
    ¬ [sep, sep] <:+: s ∨ ∃ p t, s = p ++ sep :: sep :: t ∧ IsPiece sep p := by
  induction s with
  | nil => exact .inl (by simp)
  | cons a r ih =>
    by_cases hfront : a = sep ∧ r.head? = some sep
    · obtain ⟨rfl, hr⟩ := hfront
      obtain ⟨t, rfl⟩ : ∃ t, r = a :: t := by
        cases r with
        | nil => simp at hr
        | cons b t => exact ⟨t, by simpa using hr⟩
      exact .inr ⟨[], t, rfl, .nil a⟩
    · rcases ih with hno | ⟨p, t, rfl, hp⟩
      · exact .inl fun h => (pair_infix_cons_iff.1 h).elim hfront hno
      · refine .inr ⟨a :: p, t, rfl, ?_, ?_⟩
        · intro h
          rcases pair_infix_cons_iff.1 h with ⟨rfl, hhead⟩ | h
          · exact hfront ⟨rfl, by rw [List.head?_append, hhead]; rfl⟩
          · exact hp.no_pair h
        · cases p with
          | nil => simpa using fun h => hfront ⟨h, rfl⟩
          | cons b q => simpa [List.getLast?_cons_cons] using hp.getLast?_ne

variable {sep : α}

/-- Without a doubled separator there is one piece. -/
lemma splitOnPair_of_no_pair {s : List α} (h : ¬ [sep, sep] <:+: s) :
    splitOnPair sep s = [s] := by
  fun_induction splitOnPair sep s with
  | case1 => rfl
  | case2 a => rfl
  | case3 a b r hab => exact absurd (pair_infix_cons_iff.2 (.inl ⟨hab.1, by simp [hab.2]⟩)) h
  | case4 a b r hab ih =>
    rw [ih fun hin => h (pair_infix_cons_iff.2 (.inr hin))]
    rfl

/-- **The cut after a piece.** A piece in front of a doubled separator is the first piece. -/
lemma splitOnPair_append {p : List α} (hp : IsPiece sep p) (t : List α) :
    splitOnPair sep (p ++ sep :: sep :: t) = p :: splitOnPair sep t := by
  induction p with
  | nil => simp [splitOnPair]
  | cons a q ih =>
    have hq := ih hp.of_cons
    cases q with
    | nil =>
      have ha : ¬ (a = sep ∧ sep = sep) := fun h => hp.getLast?_ne (by simp [h.1])
      simp only [List.cons_append, List.nil_append] at hq ⊢
      rw [splitOnPair, if_neg ha, hq]
      rfl
    | cons b r =>
      have hab : ¬ (a = sep ∧ b = sep) := fun h =>
        hp.no_pair (pair_infix_cons_iff.2 (.inl ⟨h.1, by simp [h.2]⟩))
      simp only [List.cons_append] at hq ⊢
      rw [splitOnPair, if_neg hab, hq]
      rfl

/-- The pieces with the doubled separator between them are the text.

**Proof sketch.** Induction on the length of the text, along its first doubled separator. -/
lemma intercalate_splitOnPair (sep : α) (s : List α) :
    [sep, sep].intercalate (splitOnPair sep s) = s := by
  rcases exists_first_pair sep s with hno | ⟨p, t, rfl, hp⟩
  · rw [splitOnPair_of_no_pair hno]
    simp
  · rw [splitOnPair_append hp, List.intercalate_cons_of_ne_nil (splitOnPair_ne_nil sep t),
      intercalate_splitOnPair sep t]
    simp
termination_by s.length

/-- Any piece but the last can stand in front of a doubled separator. -/
lemma isPiece_of_mem_dropLast_splitOnPair {s p : List α} (h : p ∈ (splitOnPair sep s).dropLast) :
    IsPiece sep p := by
  rcases exists_first_pair sep s with hno | ⟨q, t, rfl, hq⟩
  · rw [splitOnPair_of_no_pair hno] at h
    simp at h
  · rw [splitOnPair_append hq, List.dropLast_cons_of_ne_nil (splitOnPair_ne_nil sep t)] at h
    rcases List.mem_cons.1 h with rfl | h
    · exact hq
    · exact isPiece_of_mem_dropLast_splitOnPair h
termination_by s.length

/-- **Pieces come apart where they were put together.** -/
lemma splitOnPair_intercalate (ps : List (List α)) {last : List α}
    (hps : ∀ p ∈ ps, IsPiece sep p) (hlast : ¬ [sep, sep] <:+: last) :
    splitOnPair sep ([sep, sep].intercalate (ps ++ [last])) = ps ++ [last] := by
  induction ps with
  | nil => simpa using splitOnPair_of_no_pair hlast
  | cons p ps ih =>
    rw [List.cons_append, List.intercalate_cons_of_ne_nil (by simp), List.append_assoc,
      List.cons_append, List.cons_append, List.nil_append, splitOnPair_append (hps p (by simp)),
      ih fun q hq => hps q (by simp [hq])]

/-! ## Pieces that make up a text -/

/-- The pieces that a text consists of: those in front of its doubled separators, each of which is
the first one that is left, and what follows the last of these. -/
inductive HasPieces (sep : α) : List α → List (List α) → Prop where
  /-- Without a doubled separator there is one piece. -/
  | last {p : List α} (h : ¬ [sep, sep] <:+: p) : HasPieces sep p [p]
  /-- A piece in front of a doubled separator and of the others. -/
  | cons {p t : List α} {ps : List (List α)} (hp : IsPiece sep p) (h : HasPieces sep t ps) :
      HasPieces sep (p ++ sep :: sep :: t) (p :: ps)

/-- A text consists of the pieces that it is cut into. -/
lemma hasPieces_splitOnPair (sep : α) (s : List α) : HasPieces sep s (splitOnPair sep s) := by
  rcases exists_first_pair sep s with hno | ⟨p, t, rfl, hp⟩
  · rw [splitOnPair_of_no_pair hno]
    exact .last hno
  · rw [splitOnPair_append hp]
    exact .cons hp (hasPieces_splitOnPair sep t)
termination_by s.length

/-- **A text consists of pieces in one way.** It has the pieces that it is cut into, and no
others. -/
lemma hasPieces_iff {s : List α} {ps : List (List α)} :
    HasPieces sep s ps ↔ splitOnPair sep s = ps := by
  constructor
  · intro h
    induction h with
    | last h => exact splitOnPair_of_no_pair h
    | cons hp _ ih => rw [splitOnPair_append hp, ih]
  · rintro rfl
    exact hasPieces_splitOnPair sep s

end BenchTally.Text
