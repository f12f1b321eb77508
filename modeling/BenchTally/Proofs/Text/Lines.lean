import BenchTally.Proofs.Text.Blank
import BenchTally.Proofs.Text.Separator

set_option autoImplicit false
set_option relaxedAutoImplicit false

/-!
# Lines

A line of a text is ended by a line feed, which a carriage return may precede; only the last line
may go without, and there is no line behind the end of the last one.

## Main definitions

* `Text.HasLines` — the lines of a text, by the way in which lines make up a text.
* `Text.withReturns` — a text with a carriage return put before every line feed.

## Main results

* `Text.hasLines_iff` — a text has the lines that it is cut into, and no others.
* `Text.lines_append_cons` — a text may be cut into lines behind any line feed.
* `Text.map_trim_lines_withReturns`, `Text.map_trim_lines_append_feed` — put in front of the line
  feeds, or at the end, line ends make no difference but to the blanks at the ends of lines.
-/

namespace BenchTally.Text

/-! ## Lines that make up a text -/

/-- The lines of a text: each of them but the last has an end, a line feed alone or behind a
carriage return. What a line feed alone ends does not end with a carriage return, as this would
belong to the end of the line. -/
inductive HasLines : List Char → List (List Char) → Prop where
  /-- Nothing has no lines. -/
  | nil : HasLines [] []
  /-- A last line without an end. -/
  | last {line : List Char} (hne : line ≠ []) (hline : '\n' ∉ line) : HasLines line [line]
  /-- A line that a line feed alone ends, in front of the others. -/
  | feed {line rest : List Char} {ls : List (List Char)} (hline : '\n' ∉ line)
      (hreturn : line.getLast? ≠ some '\r') (hrest : HasLines rest ls) :
      HasLines (line ++ '\n' :: rest) (line :: ls)
  /-- A line that a carriage return and a line feed end, in front of the others. -/
  | returnFeed {line rest : List Char} {ls : List (List Char)} (hline : '\n' ∉ line)
      (hrest : HasLines rest ls) : HasLines (line ++ '\r' :: '\n' :: rest) (line :: ls)

/-! ## Cutting into lines -/

@[simp]
lemma lines_nil : lines [] = [] := rfl

/-- What no line feed ends is a line, unless it is empty. -/
lemma lines_of_not_mem {s : List Char} (h : '\n' ∉ s) (hne : s ≠ []) : lines s = [s] := by
  rw [lines, splitOn_of_not_mem h]
  cases s with
  | nil => exact absurd rfl hne
  | cons c s => rfl

/-- **Cutting behind a line feed.** The lines of a text are those before a line feed and those
behind it. -/
lemma lines_append_cons (s t : List Char) :
    lines (s ++ '\n' :: t) = (splitOn '\n' s).map dropReturn ++ lines t := by
  have hne : splitOn '\n' t ≠ [] := splitOn_ne_nil '\n' t
  simp only [lines, splitOn_append_cons, List.dropLast_append_of_ne_nil hne,
    List.getLast?_append_of_ne_nil _ hne, List.map_append]
  cases (splitOn '\n' t).getLast? with
  | none => rfl
  | some last =>
    cases last with
    | nil => rfl
    | cons c last => simp only [List.append_assoc]

/-- A first line and its end. -/
lemma lines_line_append {line : List Char} (h : '\n' ∉ line) (rest : List Char) :
    lines (line ++ '\n' :: rest) = dropReturn line :: lines rest := by
  rw [lines_append_cons, splitOn_of_not_mem h]
  rfl

/-- The carriage return of a line's end is no part of the line. -/
lemma dropReturn_append_return (line : List Char) : dropReturn (line ++ ['\r']) = line := by
  simp [dropReturn]

/-- Without a carriage return at its end a line stays as it is. -/
lemma dropReturn_of_getLast?_ne {line : List Char} (h : line.getLast? ≠ some '\r') :
    dropReturn line = line :=
  if_neg h

/-- A text has the lines that it is cut into. -/
lemma hasLines_lines (s : List Char) : HasLines s (lines s) := by
  by_cases hs : '\n' ∈ s
  · obtain ⟨line, rest, rfl, hline⟩ := List.eq_append_cons_of_mem hs
    rw [lines_line_append hline]
    by_cases hreturn : line.getLast? = some '\r'
    · obtain ⟨line, rfl⟩ := List.getLast?_eq_some_iff.1 hreturn
      rw [dropReturn_append_return, List.append_assoc]
      exact .returnFeed (fun h => hline (List.mem_append_left _ h)) (hasLines_lines rest)
    · rw [dropReturn_of_getLast?_ne hreturn]
      exact .feed hline hreturn (hasLines_lines rest)
  · rcases eq_or_ne s [] with rfl | hne
    · exact .nil
    · rw [lines_of_not_mem hs hne]
      exact .last hne hs
termination_by s.length

/-- **Lines make up a text in one way.** A text has the lines that it is cut into, and no others. -/
lemma hasLines_iff {s : List Char} {ls : List (List Char)} : HasLines s ls ↔ lines s = ls := by
  constructor
  · intro h
    induction h with
    | nil => rfl
    | last hne hline => exact lines_of_not_mem hline hne
    | feed hline hreturn _ ih =>
      rw [lines_line_append hline, dropReturn_of_getLast?_ne hreturn, ih]
    | @returnFeed line rest ls hline _ ih =>
      -- The piece before the line feed ends with the carriage return.
      have hline' : '\n' ∉ line ++ ['\r'] := by simpa using hline
      rw [List.append_cons, lines_line_append hline', dropReturn_append_return, ih]
  · rintro rfl
    exact hasLines_lines s

/-! ## Other line ends -/

/-- A carriage return is blank. -/
lemma isBlank_return : isBlank '\r' = true := by
  decide

/-- The carriage return of a line's end makes no difference to the trimmed line. -/
lemma trim_dropReturn (line : List Char) : trim (dropReturn line) = trim line := by
  rw [dropReturn]
  split_ifs with hreturn
  · obtain ⟨line, rfl⟩ := List.getLast?_eq_some_iff.1 hreturn
    rw [List.dropLast_concat, trim_append_singleton isBlank_return]
  · rfl

/-- The text with a carriage return put before every line feed. -/
def withReturns (s : List Char) : List Char :=
  s.flatMap fun c => if c = '\n' then ['\r', '\n'] else [c]

/-- Without line feeds nothing changes. -/
lemma withReturns_of_not_mem {s : List Char} (h : '\n' ∉ s) : withReturns s = s := by
  induction s with
  | nil => rfl
  | cons c s ih =>
    obtain ⟨hc, hs⟩ := not_or.1 (List.mem_cons.not.1 h)
    rw [withReturns, List.flatMap_cons, if_neg (Ne.symm hc), ← withReturns, ih hs]
    rfl

/-- The first line gets a carriage return, and so do the others. -/
lemma withReturns_line_append {line : List Char} (h : '\n' ∉ line) (rest : List Char) :
    withReturns (line ++ '\n' :: rest) = (line ++ ['\r']) ++ '\n' :: withReturns rest := by
  have hline := withReturns_of_not_mem h
  unfold withReturns at hline ⊢
  rw [List.flatMap_append, hline, List.flatMap_cons, if_pos rfl, List.append_assoc]
  rfl

/-- **Line feeds with carriage returns.** A carriage return before every line feed makes no
difference to the trimmed lines.

**Proof sketch.** Along the lines of the text. A line that had a carriage return before its line
feed already gets a second one, which is part of the line and blank. -/
lemma map_trim_lines_withReturns (s : List Char) :
    (lines (withReturns s)).map trim = (lines s).map trim := by
  by_cases hs : '\n' ∈ s
  · obtain ⟨line, rest, rfl, hline⟩ := List.eq_append_cons_of_mem hs
    have hline' : '\n' ∉ line ++ ['\r'] := by simpa using hline
    rw [withReturns_line_append hline, lines_line_append hline', lines_line_append hline,
      List.map_cons, List.map_cons, map_trim_lines_withReturns rest, dropReturn_append_return,
      trim_dropReturn]
  · rw [withReturns_of_not_mem hs]
termination_by s.length

/-- A line feed at the end of a text that does not end with one makes no difference to the trimmed
lines, except that it makes an empty line of nothing. -/
lemma map_trim_lines_append_feed {s : List Char} (hne : s ≠ [])
    (hlast : s.getLast? ≠ some '\n') :
    (lines (s ++ ['\n'])).map trim = (lines s).map trim := by
  by_cases hs : '\n' ∈ s
  · obtain ⟨line, rest, rfl, hline⟩ := List.eq_append_cons_of_mem hs
    have hrest : rest ≠ [] := by
      rintro rfl
      exact hlast (by simp)
    have hlast' : rest.getLast? ≠ some '\n' := by
      rwa [List.append_cons, List.getLast?_append_of_ne_nil _ hrest] at hlast
    rw [List.append_assoc, List.cons_append, lines_line_append hline, lines_line_append hline,
      List.map_cons, List.map_cons, map_trim_lines_append_feed hrest hlast']
  · rw [lines_line_append hs, lines_of_not_mem hs hne, lines_nil, List.map_singleton,
      List.map_singleton, trim_dropReturn]
termination_by s.length

/-- What follows a line feed at the end of a text adds its own lines. -/
lemma lines_append_of_getLast? {s : List Char} (h : s.getLast? = some '\n') (t : List Char) :
    lines (s ++ t) = lines s ++ lines t := by
  obtain ⟨s, rfl⟩ := List.getLast?_eq_some_iff.1 h
  rw [← List.append_cons, lines_append_cons, lines_append_cons, lines_nil, List.append_nil]

end BenchTally.Text
