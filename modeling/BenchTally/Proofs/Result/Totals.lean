import BenchTally.Proofs.Text.Lines
import BenchTally.Proofs.Verdict
import BenchTally.Result.Summary

set_option autoImplicit false
set_option relaxedAutoImplicit false

/-!
# Totals of every text

The totals of a run stand on the last line of its file, or on the one before it if the last line is
blank. What the file's text is read as depends on nothing but the number of its lines and on the
trimmed last two of them.

## Main definitions

* `RunSummary.IsDataLine` — the line of the totals.
* `RunSummary.FirstFields` — the first two fields of a line.
* `RunSummary.Answer` — the totals of the lines of a text, or the first thing that is wrong with
  them.

## Main results

* `RunSummary.ofText_answer` — the answer to every text, and the changes of a text that make
  no difference to it.
-/

namespace BenchTally.RunSummary

/-! ## The line of the totals -/

/-- The line that holds the totals. -/
inductive IsDataLine : List (List Char) → List Char → Prop where
  /-- The last line, if it is not blank. -/
  | last {earlier : List (List Char)} {line : List Char}
      (hmark : ∃ c ∈ line, Text.isBlank c = false) : IsDataLine (earlier ++ [line]) line
  /-- The line before a blank last line, if it is not the first line. -/
  | beforeLast {earlier : List (List Char)} {line last : List Char} (hearlier : earlier ≠ [])
      (hblank : ∀ c ∈ last, Text.isBlank c = true) : IsDataLine (earlier ++ [line, last]) line

/-- The last two of the lines, unless there are fewer. -/
lemma exists_eq_append_pair (ls : List (List Char)) :
    ls.length < 2 ∨ ∃ earlier line last, ls = earlier ++ [line, last] := by
  rcases List.eq_nil_or_concat' ls with rfl | ⟨ls, last, rfl⟩
  · exact .inl (by decide)
  · rcases List.eq_nil_or_concat' ls with rfl | ⟨earlier, line, rfl⟩
    · exact .inl (by simp)
    · exact .inr ⟨earlier, line, last, by simp⟩

/-- Fewer than two lines hold no totals. -/
lemma dataLine_of_length_lt {ls : List (List Char)} (h : ls.length < 2) :
    dataLine ls = .error .tooFewLines := by
  match ls with
  | [] => rfl
  | [line] => rfl

/-- **The line that is taken**, told by the last two of the lines. -/
lemma dataLine_append_pair (earlier : List (List Char)) (line last : List Char) :
    dataLine (earlier ++ [line, last]) =
      if Text.trim last ≠ [] then .ok (Text.trim last)
      else if earlier = [] then .error .tooFewLines else .ok (Text.trim line) := by
  have hblank : (!Text.allBlank last) = true ↔ Text.trim last ≠ [] := by
    rw [Bool.not_eq_true', ← Bool.not_eq_true, Text.allBlank_iff_trim]
  simp only [dataLine, List.reverse_append, List.reverse_cons, List.reverse_nil, List.nil_append,
    List.cons_append, hblank, List.isEmpty_iff, List.reverse_eq_nil_iff]

/-- The line of the totals, told by the last two of the lines. -/
lemma isDataLine_append_pair_iff {earlier : List (List Char)} {line last dataLine : List Char} :
    IsDataLine (earlier ++ [line, last]) dataLine ↔
      (Text.trim last ≠ [] ∧ dataLine = last) ∨
        (Text.trim last = [] ∧ earlier ≠ [] ∧ dataLine = line) := by
  constructor
  · generalize hls : earlier ++ [line, last] = ls
    intro h
    cases h with
    | last h =>
      rw [List.append_cons] at hls
      obtain ⟨-, hlast⟩ := List.append_inj' hls rfl
      obtain rfl := List.singleton_inj.1 hlast
      exact .inl ⟨Text.trim_ne_nil_iff.2 h, rfl⟩
    | beforeLast hearlier hblank =>
      obtain ⟨rfl, hpair⟩ := List.append_inj' hls rfl
      obtain ⟨rfl, hlast⟩ := List.cons.inj hpair
      obtain rfl := List.singleton_inj.1 hlast
      exact .inr ⟨Text.trim_eq_nil_iff.2 hblank, hearlier, rfl⟩
  · rintro (⟨h, rfl⟩ | ⟨h, hearlier, rfl⟩)
    · rw [List.append_cons]
      exact .last (Text.trim_ne_nil_iff.1 h)
    · exact .beforeLast hearlier (Text.trim_eq_nil_iff.1 h)

/-- The line that is taken is the trimmed line of the totals, behind which there is another. -/
lemma dataLine_eq_ok_iff {ls : List (List Char)} {t : List Char} :
    dataLine ls = .ok t ↔ 2 ≤ ls.length ∧ ∃ line, IsDataLine ls line ∧ Text.trim line = t := by
  rcases exists_eq_append_pair ls with hls | ⟨earlier, line, last, rfl⟩
  · rw [dataLine_of_length_lt hls]
    simp [Nat.not_le.2 hls]
  · simp only [dataLine_append_pair, isDataLine_append_pair_iff]
    by_cases hlast : Text.trim last = [] <;> by_cases hearlier : earlier = [] <;>
      simp [hlast, hearlier]

/-- No line is taken if there are too few of them, and only then. -/
lemma dataLine_eq_error_iff {ls : List (List Char)} {e : ContentError} :
    dataLine ls = .error e ↔
      e = .tooFewLines ∧ (ls.length < 2 ∨ ∀ line, ¬ IsDataLine ls line) := by
  rcases exists_eq_append_pair ls with hls | ⟨earlier, line, last, rfl⟩
  · rw [dataLine_of_length_lt hls]
    simp [hls, eq_comm]
  · simp only [dataLine_append_pair, isDataLine_append_pair_iff]
    by_cases hlast : Text.trim last = [] <;> by_cases hearlier : earlier = [] <;>
      simp [hlast, hearlier, @eq_comm _ e]

/-- Blanks at the ends of lines make no difference to the line that is taken. -/
lemma dataLine_congr {ls ls' : List (List Char)} (h : ls.map Text.trim = ls'.map Text.trim) :
    dataLine ls = dataLine ls' := by
  have hlength : ls.length = ls'.length := by simpa using congrArg List.length h
  rcases exists_eq_append_pair ls with hls | ⟨earlier, line, last, rfl⟩
  · rw [dataLine_of_length_lt hls, dataLine_of_length_lt (hlength ▸ hls)]
  · rcases exists_eq_append_pair ls' with hls' | ⟨earlier', line', last', rfl⟩
    · rw [← hlength, List.length_append, List.length_cons, List.length_singleton] at hls'
      omega
    · simp only [List.map_append, List.map_cons, List.map_nil] at h
      obtain ⟨hearlier, hpair⟩ := List.append_inj' h rfl
      obtain ⟨hline, hlast⟩ := List.cons.inj hpair
      have hnil : earlier = [] ↔ earlier' = [] := by
        rw [← List.map_eq_nil_iff (f := Text.trim), hearlier, List.map_eq_nil_iff]
      rw [dataLine_append_pair, dataLine_append_pair, hline, List.singleton_inj.1 hlast]
      simp only [hnil]

/-! ## The fields of the line -/

/-- The first two of the fields between the commas of a line. -/
def FirstFields (line elapsed executed : List Char) : Prop :=
  ∃ tail, line = elapsed ++ ',' :: (executed ++ tail) ∧ ',' ∉ elapsed ∧ ',' ∉ executed ∧
    (tail = [] ∨ ∃ rest, tail = ',' :: rest)

/-- A line with a comma has two fields. -/
lemma exists_firstFields {line : List Char} (h : ',' ∈ line) :
    ∃ elapsed executed, FirstFields line elapsed executed := by
  obtain ⟨elapsed, rest, rfl, helapsed⟩ := List.eq_append_cons_of_mem h
  by_cases hrest : ',' ∈ rest
  · obtain ⟨executed, more, rfl, hexecuted⟩ := List.eq_append_cons_of_mem hrest
    exact ⟨elapsed, executed, ',' :: more, rfl, helapsed, hexecuted, .inr ⟨more, rfl⟩⟩
  · exact ⟨elapsed, rest, [], by rw [List.append_nil], helapsed, hrest, .inl rfl⟩

/-- The first two fields of a line are the first two pieces that it is cut into. -/
lemma FirstFields.splitOn_eq {line elapsed executed : List Char}
    (h : FirstFields line elapsed executed) :
    ∃ ps, Text.splitOn ',' line = elapsed :: executed :: ps := by
  obtain ⟨tail, rfl, helapsed, hexecuted, htail⟩ := h
  rw [Text.splitOn_append_cons, Text.splitOn_of_not_mem helapsed]
  rcases htail with rfl | ⟨rest, rfl⟩
  · rw [List.append_nil, Text.splitOn_of_not_mem hexecuted]
    exact ⟨[], rfl⟩
  · rw [Text.splitOn_append_cons, Text.splitOn_of_not_mem hexecuted]
    exact ⟨Text.splitOn ',' rest, rfl⟩

/-- A comma is not blank, so that trimming a line takes none away. -/
lemma comma_mem_trim_iff {line : List Char} : ',' ∈ Text.trim line ↔ ',' ∈ line :=
  Text.mem_trim_iff (by decide)

/-! ## The answer -/

/-- The first two fields of the line of the totals, behind which there is another line. -/
def DataFields (ls : List (List Char)) (elapsed executed : List Char) : Prop :=
  2 ≤ ls.length ∧ ∃ line, IsDataLine ls line ∧ FirstFields (Text.trim line) elapsed executed

/-- What a list of lines is read as: the totals, or the first thing that is wrong. -/
inductive Answer (ls : List (List Char)) : Except ContentError RunSummary → Prop where
  /-- There are fewer than two lines, or there is no line of the totals. -/
  | tooFewLines (h : ls.length < 2 ∨ ∀ line, ¬ IsDataLine ls line) :
      Answer ls (.error .tooFewLines)
  /-- The line of the totals has no comma. -/
  | tooFewFields {line : List Char} (hlines : 2 ≤ ls.length) (hline : IsDataLine ls line)
      (hcomma : ',' ∉ line) : Answer ls (.error .tooFewFields)
  /-- The first field is not a number. -/
  | elapsedInvalid {elapsed executed : List Char} (hfields : DataFields ls elapsed executed)
      (helapsed : Decimal.read? (ungroup elapsed) = none) :
      Answer ls (.error (.invalidNumber "elapsed_ms" elapsed))
  /-- The second field is not a number. -/
  | executedInvalid {elapsed executed : List Char} {ms : Float}
      (hfields : DataFields ls elapsed executed)
      (helapsed : Decimal.read? (ungroup elapsed) = some ms)
      (hexecuted : Decimal.read? (ungroup executed) = none) :
      Answer ls (.error (.invalidNumber "executed_count" executed))
  /-- The first number is not above zero. -/
  | notPositive {elapsed executed : List Char} {ms count : Float}
      (hfields : DataFields ls elapsed executed)
      (helapsed : Decimal.read? (ungroup elapsed) = some ms)
      (hexecuted : Decimal.read? (ungroup executed) = some count) (hms : ¬ 0.0 < ms) :
      Answer ls (.error (.nonPositiveElapsed ms))
  /-- Nothing is wrong. -/
  | totals {elapsed executed : List Char} {ms count : Float}
      (hfields : DataFields ls elapsed executed)
      (helapsed : Decimal.read? (ungroup elapsed) = some ms)
      (hexecuted : Decimal.read? (ungroup executed) = some count) (hms : 0.0 < ms) :
      Answer ls (.ok ⟨ms, count⟩)

/-- What a text is read as, if it has a line of the totals with two fields. -/
lemma ofText_of_dataFields {content elapsed executed : List Char}
    (h : DataFields (Text.lines content) elapsed executed) :
    ofText content = (do
      let ms ← readGrouped Decimal.read? "elapsed_ms" elapsed
      let count ← readGrouped Decimal.read? "executed_count" executed
      if 0.0 < ms then .ok ⟨ms, count⟩ else .error (.nonPositiveElapsed ms)) := by
  obtain ⟨hlines, line, hline, hfields⟩ := h
  obtain ⟨ps, hps⟩ := hfields.splitOn_eq
  rw [ofText, dataLine_eq_ok_iff.2 ⟨hlines, line, hline, rfl⟩]
  change ofLine (Text.trim line) = _
  rw [ofLine, hps]

/-- A text is read as the answer to its lines. -/
lemma answer_ofText (content : List Char) : Answer (Text.lines content) (ofText content) := by
  cases hdata : dataLine (Text.lines content) with
  | error e =>
    obtain ⟨rfl, hlines⟩ := dataLine_eq_error_iff.1 hdata
    rw [ofText, hdata]
    exact .tooFewLines hlines
  | ok t =>
    obtain ⟨hlines, line, hline, rfl⟩ := dataLine_eq_ok_iff.1 hdata
    by_cases hcomma : ',' ∈ Text.trim line
    · obtain ⟨elapsed, executed, hfirst⟩ := exists_firstFields hcomma
      have hfields : DataFields (Text.lines content) elapsed executed :=
        ⟨hlines, line, hline, hfirst⟩
      rw [ofText_of_dataFields hfields, readGrouped, readGrouped]
      cases helapsed : Decimal.read? (ungroup elapsed) with
      | none => exact .elapsedInvalid hfields helapsed
      | some ms =>
        cases hexecuted : Decimal.read? (ungroup executed) with
        | none => exact .executedInvalid hfields helapsed hexecuted
        | some count =>
          by_cases hms : 0.0 < ms
          · simp only [hms, if_true, bind, Except.bind]
            exact .totals hfields helapsed hexecuted hms
          · simp only [hms, if_false, bind, Except.bind]
            exact .notPositive hfields helapsed hexecuted hms
    · rw [ofText, hdata]
      change Answer _ (ofLine (Text.trim line))
      rw [ofLine, Text.splitOn_of_not_mem hcomma]
      exact .tooFewFields hlines hline (fun h => hcomma (comma_mem_trim_iff.2 h))

/-- There is one answer to the lines of a text. -/
lemma Answer.eq_ofText {content : List Char} {result : Except ContentError RunSummary}
    (h : Answer (Text.lines content) result) : ofText content = result := by
  cases h with
  | tooFewLines hlines =>
    rw [ofText, dataLine_eq_error_iff.2 ⟨rfl, hlines⟩]
    rfl
  | @tooFewFields line hlines hline hcomma =>
    rw [ofText, dataLine_eq_ok_iff.2 ⟨hlines, line, hline, rfl⟩]
    change ofLine (Text.trim line) = _
    rw [ofLine, Text.splitOn_of_not_mem fun h => hcomma (comma_mem_trim_iff.1 h)]
  | elapsedInvalid hfields helapsed =>
    rw [ofText_of_dataFields hfields, readGrouped, helapsed]
    rfl
  | executedInvalid hfields helapsed hexecuted =>
    rw [ofText_of_dataFields hfields, readGrouped, readGrouped, helapsed, hexecuted]
    rfl
  | notPositive hfields helapsed hexecuted hms =>
    rw [ofText_of_dataFields hfields, readGrouped, readGrouped, helapsed, hexecuted]
    exact if_neg hms
  | totals hfields helapsed hexecuted hms =>
    rw [ofText_of_dataFields hfields, readGrouped, readGrouped, helapsed, hexecuted]
    exact if_pos hms

/-! ## Changes that make no difference -/

/-- Texts with the same line of the totals are read as the same. -/
lemma ofText_congr {content content' : List Char}
    (h : dataLine (Text.lines content) = dataLine (Text.lines content')) :
    ofText content = ofText content' := by
  rw [ofText, ofText, h]

/-- A blank line behind a line that is not blank makes no difference, provided that there was
another line before. -/
lemma dataLine_append_blank {earlier : List (List Char)} {line last blank : List Char}
    (hlast : ∃ c ∈ last, Text.isBlank c = false) (hblank : ∀ c ∈ blank, Text.isBlank c = true) :
    dataLine (earlier ++ [line, last] ++ [blank]) = dataLine (earlier ++ [line, last]) := by
  rw [show earlier ++ [line, last] ++ [blank] = (earlier ++ [line]) ++ [last, blank] by simp,
    dataLine_append_pair, dataLine_append_pair, if_neg (not_not.2 (Text.trim_eq_nil_iff.2 hblank)),
    if_neg (by simp), if_pos (Text.trim_ne_nil_iff.2 hlast)]

/-- The lines before the last two make no difference, as long as there are any behind which a blank
last line can be skipped. -/
lemma dataLine_append_pair_congr {earlier earlier' : List (List Char)} {line last : List Char}
    (h : earlier = [] → ∃ c ∈ last, Text.isBlank c = false) (h' : earlier' ≠ []) :
    dataLine (earlier ++ [line, last]) = dataLine (earlier' ++ [line, last]) := by
  rw [dataLine_append_pair, dataLine_append_pair]
  by_cases hlast : Text.trim last = []
  -- A blank last line is skipped, for which there must be lines before the two in both lists.
  · have hearlier : earlier ≠ [] := fun hnil => Text.trim_ne_nil_iff.2 (h hnil) hlast
    rw [if_neg hearlier, if_neg h']
  · rw [if_pos hlast, if_pos hlast]

/-- A line feed at the end makes no difference where there was none. -/
lemma dataLine_lines_append_feed {content : List Char} (h : content.getLast? ≠ some '\n') :
    dataLine (Text.lines (content ++ ['\n'])) = dataLine (Text.lines content) := by
  rcases eq_or_ne content [] with rfl | hne
  · rfl
  · exact dataLine_congr (Text.map_trim_lines_append_feed hne h)

/-- Two blank lines at the end, with another line before them, leave nothing to read. -/
lemma answer_of_blank_pair {earlier : List (List Char)} {line last : List Char}
    (h : earlier ≠ []) (hline : ∀ c ∈ line, Text.isBlank c = true)
    (hlast : ∀ c ∈ last, Text.isBlank c = true) :
    Answer (earlier ++ [line, last]) (.error .tooFewFields) := by
  refine .tooFewFields (by simp) (.beforeLast h hlast) fun hcomma => ?_
  have hblank := hline ',' hcomma
  revert hblank
  decide

/-- **Totals of every text.** The lines of a text are those that make it up with their ends, and
what the text is read as is the answer to its lines. It stays the same if a carriage return is put
before every line feed, if a line feed is put at the end where there is none, if a blank line is put
behind a last line that has an end, is not blank and is not the only one, and if the lines before
the last two are replaced by any others; where there are none, this needs a last line that is not
blank. Two blank lines at the end, with another line before them, always leave too few fields.

**Proof sketch.** Reading takes one of the last two lines and trims it. A carriage return that is
left at the end of a line is blank and goes with the trimming; the other changes keep the last two
lines, or move them by a line that is skipped. -/
theorem ofText_answer (content : List Char) :
    (∀ ls, Text.HasLines content ls ↔ Text.lines content = ls) ∧
    (∀ result, ofText content = result ↔ Answer (Text.lines content) result) ∧
    ofText (Text.withReturns content) = ofText content ∧
    (content.getLast? ≠ some '\n' → ofText (content ++ ['\n']) = ofText content) ∧
    (∀ earlier line last extra blank, content.getLast? = some '\n' →
      Text.lines content = earlier ++ [line, last] → (∃ c ∈ last, Text.isBlank c = false) →
      Text.lines extra = [blank] → (∀ c ∈ blank, Text.isBlank c = true) →
      ofText (content ++ extra) = ofText content) ∧
    (∀ content' earlier earlier' line last, Text.lines content = earlier ++ [line, last] →
      Text.lines content' = earlier' ++ [line, last] → earlier' ≠ [] →
      (earlier = [] → ∃ c ∈ last, Text.isBlank c = false) → ofText content' = ofText content) ∧
    (∀ earlier line last, Text.lines content = earlier ++ [line, last] → earlier ≠ [] →
      (∀ c ∈ line, Text.isBlank c = true) → (∀ c ∈ last, Text.isBlank c = true) →
      ofText content = .error .tooFewFields) := by
  refine ⟨fun ls => Text.hasLines_iff, fun result => ⟨?_, Answer.eq_ofText⟩, ?_, ?_, ?_, ?_, ?_⟩
  · rintro rfl
    exact answer_ofText content
  · exact ofText_congr (dataLine_congr (Text.map_trim_lines_withReturns content))
  · exact fun h => ofText_congr (dataLine_lines_append_feed h)
  · intro earlier line last extra blank hend hlines hlast hextra hblank
    refine ofText_congr ?_
    rw [Text.lines_append_of_getLast? hend, hlines, hextra, dataLine_append_blank hlast hblank]
  · intro content' earlier earlier' line last hlines hlines' h' h
    refine ofText_congr ?_
    rw [hlines, hlines', dataLine_append_pair_congr h h']
  · intro earlier line last hlines h hline hlast
    have hanswer := answer_of_blank_pair h hline hlast
    rw [← hlines] at hanswer
    exact hanswer.eq_ofText

/-- A text with a header and the totals of a run. -/
def totalsText : List Char :=
  "elapsed,count\n2.500,10.000,x\n".toList

/-- The totals of the text are read, and a blank line behind them changes nothing. -/
theorem ofText_answer_totalsText :
    ofText totalsText = .ok ⟨Float.ofScientific 2500 false 0, Float.ofScientific 10000 false 0⟩ ∧
      ofText (totalsText ++ " \r\n".toList) = ofText totalsText := by
  obtain ⟨-, hanswer, -, -, hblank, -⟩ := ofText_answer totalsText
  have hlines : Text.lines totalsText =
      [] ++ ["elapsed,count".toList, "2.500,10.000,x".toList] := by cbv
  have hmark : ∃ c ∈ "2.500,10.000,x".toList, Text.isBlank c = false := ⟨'x', by decide⟩
  have hspace : ∀ c ∈ [' '], Text.isBlank c = true := List.forall_mem_singleton.2 (by decide)
  constructor
  · refine (hanswer _).2 ?_
    rw [hlines]
    have hfields : DataFields ([] ++ ["elapsed,count".toList, "2.500,10.000,x".toList])
        "2.500".toList "10.000".toList :=
      ⟨by decide, "2.500,10.000,x".toList, @IsDataLine.last ["elapsed,count".toList] _ hmark,
        ",x".toList, by decide, by decide, by decide, .inr ⟨['x'], by decide⟩⟩
    exact .totals hfields (by rfl) (by rfl) (by decide)
  · exact hblank [] _ _ _ [' '] (by decide) hlines hmark (by decide) hspace

end BenchTally.RunSummary
