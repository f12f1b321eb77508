set_option autoImplicit false
set_option relaxedAutoImplicit false

/-!
# Cutting texts at separators

Four ways to cut a list: at every separator, at every doubled separator, at the last separator,
and into lines.

## Main definitions

* `Text.splitOn` — the pieces between the occurrences of one element.
* `Text.splitOnPair` — the pieces between the occurrences of a doubled element, taken from the
  left, so that three in a row are a separator followed by an ordinary element.
* `Text.splitLast?` — the two sides of the last occurrence of an element.
* `Text.lines` — the lines of a text, ended by a line feed that a carriage return may precede.

## Main results

* `Text.splitLast?_eq_some_iff` — the cut is at the last occurrence.
* `Text.splitLast?_eq_none_iff` — there is a cut exactly if the separator occurs.
* `Text.splitOn_ne_nil`, `Text.splitOnPair_ne_nil` — there is always at least one piece.
-/

namespace BenchTally.Text

variable {α : Type} [DecidableEq α]

/-! ## Cutting at every separator -/

/-- Puts an element in front of the first piece. -/
def consPiece (a : α) : List (List α) → List (List α)
  | [] => [[a]]
  | p :: ps => (a :: p) :: ps

omit [DecidableEq α] in
/-- There is a first piece to put the element into. -/
theorem consPiece_ne_nil (a : α) (ps : List (List α)) : consPiece a ps ≠ [] := by
  cases ps <;> simp [consPiece]

/-- The pieces between the occurrences of `sep`. -/
def splitOn (sep : α) (s : List α) : List (List α) :=
  s.foldr (fun a ps => if a = sep then [] :: ps else consPiece a ps) [[]]

@[simp]
theorem splitOn_nil (sep : α) : splitOn sep [] = [[]] := rfl

/-- A separator opens a new piece; any other element joins the first piece of the rest. -/
theorem splitOn_cons (sep a : α) (r : List α) :
    splitOn sep (a :: r) = if a = sep then [] :: splitOn sep r else consPiece a (splitOn sep r) :=
  rfl

/-- All texts have a piece. -/
theorem splitOn_ne_nil (sep : α) (s : List α) : splitOn sep s ≠ [] := by
  cases s with
  | nil => simp
  | cons a r =>
    rw [splitOn_cons]
    split
    · simp
    · exact consPiece_ne_nil a _

/-! ## Cutting at every doubled separator -/

/-- The pieces between the occurrences of `sep` twice in a row, from the left. -/
def splitOnPair (sep : α) : List α → List (List α)
  | [] => [[]]
  | [a] => [[a]]
  | a :: b :: r =>
    if a = sep ∧ b = sep then [] :: splitOnPair sep r
    else consPiece a (splitOnPair sep (b :: r))

/-- All texts have a piece. -/
theorem splitOnPair_ne_nil (sep : α) (s : List α) : splitOnPair sep s ≠ [] := by
  fun_cases splitOnPair sep s with
  | case1 => simp
  | case2 a => simp
  | case3 a b r h => simp
  | case4 a b r h => exact consPiece_ne_nil a _

/-! ## Cutting at the last separator -/

/-- What stands before and after the last occurrence of `sep`, if there is one. -/
def splitLast? (sep : α) : List α → Option (List α × List α)
  | [] => none
  | a :: r =>
    match splitLast? sep r with
    | some (p, q) => some (a :: p, q)
    | none => if a = sep then some ([], r) else none

/-- There is no cut exactly if the separator does not occur. -/
theorem splitLast?_eq_none_iff {sep : α} {s : List α} : splitLast? sep s = none ↔ sep ∉ s := by
  induction s with
  | nil => simp [splitLast?]
  | cons a r ih =>
    cases h : splitLast? sep r with
    | some pq =>
      have : ¬ sep ∉ r := fun hn => by simp [ih.2 hn] at h
      simp only [splitLast?, h, reduceCtorEq, List.mem_cons, not_or, false_iff, not_and]
      exact fun _ => this
    | none =>
      have hr := ih.1 h
      by_cases ha : a = sep
      · simp [splitLast?, h, ha]
      · simp [splitLast?, h, ha, hr, Ne.symm ha]

/-- The cut is at an occurrence of the separator that no other follows. -/
theorem splitLast?_eq_some_iff {sep : α} {s p q : List α} :
    splitLast? sep s = some (p, q) ↔ s = p ++ sep :: q ∧ sep ∉ q := by
  induction s generalizing p q with
  | nil => simp [splitLast?]
  | cons a r ih =>
    cases h : splitLast? sep r with
    | some pq =>
      obtain ⟨p', q'⟩ := pq
      simp only [splitLast?, h, Option.some.injEq, Prod.mk.injEq]
      have hmem : sep ∈ r := by
        rw [ih.1 h |>.1]; simp
      constructor
      · rintro ⟨rfl, rfl⟩
        obtain ⟨hr, hq⟩ := ih.1 h
        exact ⟨by simp [hr], hq⟩
      · rintro ⟨hs, hq⟩
        cases p with
        | nil =>
          simp only [List.nil_append, List.cons.injEq] at hs
          exact absurd (hs.2 ▸ hmem) hq
        | cons b p =>
          simp only [List.cons_append, List.cons.injEq] at hs
          have := ih.2 ⟨hs.2, hq⟩
          rw [h] at this
          simp only [Option.some.injEq, Prod.mk.injEq] at this
          exact ⟨by rw [hs.1, this.1], this.2⟩
    | none =>
      have hr := splitLast?_eq_none_iff.1 h
      by_cases ha : a = sep
      · simp only [splitLast?, h, ha, if_true, Option.some.injEq, Prod.mk.injEq]
        constructor
        · rintro ⟨rfl, rfl⟩
          exact ⟨rfl, hr⟩
        · rintro ⟨hs, hq⟩
          cases p with
          | nil => simpa using hs
          | cons b p =>
            simp only [List.cons_append, List.cons.injEq] at hs
            exact absurd (by rw [hs.2]; simp) hr
      · simp only [splitLast?, h, ha, if_false, reduceCtorEq, false_iff, not_and]
        intro hs
        cases p with
        | nil => simp only [List.nil_append, List.cons.injEq] at hs; exact absurd hs.1 ha
        | cons b p =>
          simp only [List.cons_append, List.cons.injEq] at hs
          exact absurd (by rw [hs.2]; simp) hr

/-! ## Lines -/

/-- A line without the carriage return at its end. -/
def dropReturn (line : List Char) : List Char :=
  if line.getLast? = some '\r' then line.dropLast else line

/-- The lines of a text. A line feed ends a line, with or without a carriage return before it, and
a text that ends with one has no further line; in the last line without a line feed a carriage
return is an ordinary character. -/
def lines (s : List Char) : List (List Char) :=
  let pieces := splitOn '\n' s
  let ended := pieces.dropLast.map dropReturn
  match pieces.getLast? with
  | none => ended
  | some [] => ended
  | some last => ended ++ [last]

end BenchTally.Text
