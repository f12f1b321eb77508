import BenchTally.Proofs.Text.Ascii
import BenchTally.Table.Writer
import Mathlib.Data.List.Basic
import Mathlib.Tactic.SplitIfs

set_option autoImplicit false
set_option relaxedAutoImplicit false

/-!
# Written tables are read back

Reading goes byte by byte, so the bytes of a written table are followed part by part: through a
field, whether it stands between quotes or not, through a record, and through all records.

## Main definitions

* `Table.fieldChars`, `Table.lineChars`, `Table.tableText` — the text of a table of texts.

## Main results

* `Table.foldl_step_writeField` — behind a written field a reader holds the field.
* `Table.foldl_step_writeRecord` — behind a written record it holds the record.
* `Table.read_write` — a written table is read back, field by field.
* `Table.write_encode` — the written form of a table of texts is a text.

## Implementation notes

Two tables are not read back. A record without fields is written as an empty line, which is no
record; and a byte order mark at the start of the first field, if that is not between quotes, is
taken for one of the file.
-/

namespace BenchTally.Table

open Cursor

variable {place : Place} {acc : Bytes} {fields : List Bytes} {records : List (List Bytes)}

/-! ## Single bytes -/

/-- A byte that needs no quotes is neither a comma nor a quote nor the end of a record. -/
lemma needsQuotes_eq_false_iff {b : UInt8} :
    needsQuotes b = false ↔ b ≠ comma ∧ b ≠ quote ∧ endsRecord b = false := by
  simp [needsQuotes, and_assoc]

/-- Outside of quotes a byte that needs none belongs to the field. -/
lemma step_of_needsQuotes {b : UInt8} (hb : needsQuotes b = false) (hquoted : place ≠ .quoted)
    (hafter : place ≠ .afterQuote) :
    step ⟨place, acc, fields, records⟩ b = ⟨.bare, b :: acc, fields, records⟩ := by
  obtain ⟨hcomma, hquote, hend⟩ := needsQuotes_eq_false_iff.1 hb
  cases place with
  | recordStart => simp [step, stepBare, push, hcomma, hquote, hend]
  | fieldStart => simp [step, stepBare, push, hcomma, hquote, hend]
  | bare => simp [step, stepBare, push, hcomma, hend]
  | quoted => exact absurd rfl hquoted
  | afterQuote => exact absurd rfl hafter

/-- Outside of quotes a comma completes the field. -/
lemma step_comma (hquoted : place ≠ .quoted) :
    step ⟨place, acc, fields, records⟩ comma =
      ⟨.fieldStart, [], acc.reverse :: fields, records⟩ := by
  have hend : endsRecord comma = false := by decide
  have hquote : comma ≠ quote := by decide
  cases place with
  | quoted => exact absurd rfl hquoted
  | recordStart => simp [step, stepBare, closeField, hend, hquote]
  | fieldStart => simp [step, stepBare, closeField, hquote]
  | bare => simp [step, stepBare, closeField]
  | afterQuote => simp [step, stepBare, closeField, hquote]

/-- Outside of quotes a line feed completes the record, if one was begun. -/
lemma step_lineFeed (hquoted : place ≠ .quoted) (hbegun : place ≠ .recordStart) :
    step ⟨place, acc, fields, records⟩ lineFeed =
      ⟨.recordStart, [], [], (acc.reverse :: fields).reverse :: records⟩ := by
  have hend : endsRecord lineFeed = true := by decide
  have hcomma : lineFeed ≠ comma := by decide
  have hquote : lineFeed ≠ quote := by decide
  cases place with
  | quoted => exact absurd rfl hquoted
  | recordStart => exact absurd rfl hbegun
  | fieldStart => simp [step, stepBare, closeRecord, hend, hcomma, hquote]
  | bare => simp [step, stepBare, closeRecord, hend, hcomma]
  | afterQuote => simp [step, stepBare, closeRecord, hend, hcomma, hquote]

/-! ## Fields -/

/-- Bytes that need no quotes belong to a field as they are. -/
lemma foldl_step_bare {f : Bytes} (hf : ∀ b ∈ f, needsQuotes b = false) :
    f.foldl step ⟨.bare, acc, fields, records⟩ = ⟨.bare, f.reverse ++ acc, fields, records⟩ := by
  induction f generalizing acc with
  | nil => rfl
  | cons b f ih =>
    rw [List.foldl_cons, step_of_needsQuotes (hf b (by simp)) (by simp) (by simp),
      ih fun b' hb' => hf b' (by simp [hb'])]
    simp

/-- Between quotes a quote written twice is a quote of the field, and any other byte is itself. -/
lemma foldl_step_doubleQuotes (f : Bytes) :
    (doubleQuotes f).foldl step ⟨.quoted, acc, fields, records⟩ =
      ⟨.quoted, f.reverse ++ acc, fields, records⟩ := by
  induction f generalizing acc with
  | nil => rfl
  | cons b f ih =>
    have hcons : doubleQuotes (b :: f) =
        (if b = quote then [quote, quote] else [b]) ++ doubleQuotes f := rfl
    rw [hcons, List.foldl_append]
    by_cases hb : b = quote
    · have htwice : [quote, quote].foldl step ⟨.quoted, acc, fields, records⟩ =
          ⟨.quoted, quote :: acc, fields, records⟩ := by
        simp [step, push]
      rw [if_pos hb, htwice, ih, hb]
      simp
    · have hself : [b].foldl step ⟨.quoted, acc, fields, records⟩ =
          ⟨.quoted, b :: acc, fields, records⟩ := by
        simp [step, push, hb]
      rw [if_neg hb, hself, ih]
      simp

/-- **A written field.** Behind a written field a reader holds the field and is outside of quotes.
It is still at the start of a record only if it was there before and the field is empty. -/
lemma foldl_step_writeField (hplace : place = .recordStart ∨ place = .fieldStart) (f : Bytes)
    (fields : List Bytes) (records : List (List Bytes)) :
    ∃ behind, (writeField f).foldl step ⟨place, [], fields, records⟩ =
        ⟨behind, f.reverse, fields, records⟩ ∧
      behind ≠ .quoted ∧ (behind = .recordStart → place = .recordStart ∧ f = []) := by
  unfold writeField
  split_ifs with hneeds
  · -- The first quote opens the field, and the last one waits for what follows it.
    have hopen : step ⟨place, [], fields, records⟩ quote = ⟨.quoted, [], fields, records⟩ := by
      have hend : endsRecord quote = false := by decide
      rcases hplace with rfl | rfl
      · simp [step, hend]
      · simp [step]
    have hclose : [quote].foldl step ⟨.quoted, f.reverse, fields, records⟩ =
        ⟨.afterQuote, f.reverse, fields, records⟩ := by
      simp [step]
    refine ⟨.afterQuote, ?_, by simp, by simp⟩
    rw [List.cons_append, List.foldl_cons, hopen, List.foldl_append, foldl_step_doubleQuotes,
      List.append_nil, hclose]
  · have hbare : ∀ b ∈ f, needsQuotes b = false := by simpa using hneeds
    cases f with
    | nil =>
      refine ⟨place, rfl, ?_, fun h => ⟨h, rfl⟩⟩
      rcases hplace with rfl | rfl <;> simp
    | cons b f =>
      have hfirst : step ⟨place, [], fields, records⟩ b = ⟨.bare, [b], fields, records⟩ := by
        apply step_of_needsQuotes (hbare b (by simp))
        · rcases hplace with rfl | rfl <;> simp
        · rcases hplace with rfl | rfl <;> simp
      refine ⟨.bare, ?_, by simp, by simp⟩
      rw [List.foldl_cons, hfirst, foldl_step_bare fun b' hb' => hbare b' (by simp [hb'])]
      simp

/-! ## Records and tables -/

/-- Fields between commas, up to the end of the record.

**Proof sketch.** Induction on the fields. A comma stands behind each of them but the last, behind
which there is the line feed. That one would be an empty line only if the record were a single empty
field. -/
lemma foldl_step_fields (hplace : place = .recordStart ∨ place = .fieldStart) (f : Bytes)
    (rest : List Bytes) (hne : place = .recordStart → f :: rest ≠ [[]]) :
    ([comma].intercalate ((f :: rest).map writeField) ++ [lineFeed]).foldl step
        ⟨place, [], fields, records⟩ =
      ⟨.recordStart, [], [], (fields.reverse ++ f :: rest) :: records⟩ := by
  induction rest generalizing place f fields with
  | nil =>
    obtain ⟨behind, hread, hquoted, hstart⟩ :=
      foldl_step_writeField hplace f fields records
    have hbegun : behind ≠ .recordStart := by
      intro h
      obtain ⟨rfl, rfl⟩ := hstart h
      exact hne rfl rfl
    rw [List.map_singleton, List.intercalate_singleton, List.foldl_append, hread, List.foldl_cons,
      step_lineFeed hquoted hbegun]
    simp
  | cons g rest ih =>
    obtain ⟨behind, hread, hquoted, -⟩ :=
      foldl_step_writeField hplace f fields records
    rw [List.map_cons, List.map_cons, List.intercalate_cons_cons, ← List.map_cons,
      List.append_assoc, List.append_assoc, List.foldl_append, hread, List.singleton_append,
      List.foldl_cons, step_comma hquoted, List.reverse_reverse, ih (.inr rfl) g (by simp)]
    simp

/-- **A written record.** Behind a written record a reader holds the record and is at the start of
the next one. -/
lemma foldl_step_writeRecord {record : List Bytes} (hne : record ≠ []) :
    (writeRecord record).foldl step ⟨.recordStart, [], [], records⟩ =
      ⟨.recordStart, [], [], record :: records⟩ := by
  unfold writeRecord
  split_ifs with hempty
  · subst hempty
    rfl
  · obtain ⟨f, rest, rfl⟩ := List.exists_cons_of_ne_nil hne
    exact foldl_step_fields (.inl rfl) f rest fun _ => hempty

lemma foldl_step_write {table : List (List Bytes)} (hne : ∀ record ∈ table, record ≠ []) :
    (write table).foldl step ⟨.recordStart, [], [], records⟩ =
      ⟨.recordStart, [], [], table.reverse ++ records⟩ := by
  induction table generalizing records with
  | nil => rfl
  | cons record table ih =>
    have hcons : write (record :: table) = writeRecord record ++ write table := rfl
    rw [hcons, List.foldl_append, foldl_step_writeRecord (hne record (by simp)),
      ih fun r hr => hne r (by simp [hr])]
    simp

/-- **Written tables are read back**, whatever bytes their fields hold. Each record has a field, and
the table does not start with what is taken for a byte order mark. -/
theorem read_write {table : List (List Bytes)} (hne : ∀ record ∈ table, record ≠ [])
    (hmark : ¬ byteOrderMark <+: write table) : read (write table) = table := by
  have hbody : byteOrderMark.isPrefixOf (write table) = false := by
    rwa [← Bool.not_eq_true, List.isPrefixOf_iff_prefix]
  simp only [read, hbody, Bool.false_eq_true, if_false, start, foldl_step_write hne, finish,
    List.append_nil, List.reverse_reverse]

/-- A written record ends with a line feed. -/
lemma writeRecord_ne_nil (record : List Bytes) : writeRecord record ≠ [] := by
  unfold writeRecord
  split_ifs
  · simp
  · simp

/-- A table with a record is written as some bytes. -/
lemma write_ne_nil {table : List (List Bytes)} (h : table ≠ []) : write table ≠ [] := by
  obtain ⟨record, rest, rfl⟩ := List.exists_cons_of_ne_nil h
  intro hnil
  exact writeRecord_ne_nil record (List.append_eq_nil_iff.1 hnil).1

/-! ## Tables of texts

The characters that ask for quotes are ASCII, so what is told of the bytes of a field can be told of
its characters. -/

/-- The characters that a field can hold only between quotes. -/
def asksForQuotes (c : Char) : Bool :=
  c == ',' || c == '"' || c == '\n' || c == '\r'

/-- The characters of a field as it is written: as it is, or between quotes and with its own quotes
twice if it holds a comma, a quote or the end of a line. -/
def fieldChars (field : String) : List Char :=
  if field.toList.any asksForQuotes then
    '"' :: field.toList.flatMap (fun c => if c = '"' then ['"', '"'] else [c]) ++ ['"']
  else field.toList

/-- The characters of a record: its fields between commas, and a line feed. -/
def lineChars (record : List String) : List Char :=
  [','].intercalate (record.map fieldChars) ++ ['\n']

/-- The text of a table. -/
def tableText (table : List (List String)) : String :=
  String.ofList (table.flatMap lineChars)

/-- The bytes of a character ask for quotes if the character does. -/
lemma any_needsQuotes_utf8EncodeChar (c : Char) :
    (String.utf8EncodeChar c).any needsQuotes = asksForQuotes c := by
  rw [Bool.eq_iff_iff, List.any_eq_true]
  constructor
  · rintro ⟨b, hb, hneeds⟩
    simp only [needsQuotes, endsRecord, comma, quote, lineFeed, carriageReturn, Bool.or_eq_true,
      beq_iff_eq, or_assoc] at hneeds
    rcases hneeds with rfl | rfl | rfl | rfl
    all_goals
      rw [Text.eq_of_mem_utf8EncodeChar hb (by decide)]
      decide
  · intro hasks
    simp only [asksForQuotes, Bool.or_eq_true, beq_iff_eq, or_assoc] at hasks
    rcases hasks with rfl | rfl | rfl | rfl
    · exact ⟨comma, by decide, by decide⟩
    · exact ⟨quote, by decide, by decide⟩
    · exact ⟨lineFeed, by decide, by decide⟩
    · exact ⟨carriageReturn, by decide, by decide⟩

/-- Of the bytes of a character only those of a quote are written twice. -/
lemma doubleQuotes_utf8EncodeChar (c : Char) :
    doubleQuotes (String.utf8EncodeChar c) =
      (if c = '"' then ['"', '"'] else [c]).flatMap String.utf8EncodeChar := by
  by_cases hc : c = '"'
  · subst hc
    decide
  · have hnot : ∀ b ∈ String.utf8EncodeChar c, b ≠ quote := by
      rintro b hb rfl
      exact hc (Text.eq_of_mem_utf8EncodeChar hb (by decide))
    have hself : doubleQuotes (String.utf8EncodeChar c) =
        (String.utf8EncodeChar c).flatMap fun b => [b] :=
      List.flatMap_congr fun b hb => if_neg (hnot b hb)
    rw [hself, if_neg hc, List.flatMap_singleton']
    simp

/-- **A written field is a text.** -/
lemma writeField_encode (field : String) :
    writeField (Text.encode field) = (fieldChars field).flatMap String.utf8EncodeChar := by
  have hany : (Text.encode field).any needsQuotes = field.toList.any asksForQuotes := by
    rw [Text.encode_eq_flatMap, List.any_flatMap]
    exact congrArg _ (funext any_needsQuotes_utf8EncodeChar)
  have hdouble : doubleQuotes (Text.encode field) =
      (field.toList.flatMap fun c => if c = '"' then ['"', '"'] else [c]).flatMap
        String.utf8EncodeChar := by
    rw [Text.encode_eq_flatMap, doubleQuotes, List.flatMap_assoc, List.flatMap_assoc]
    exact List.flatMap_congr fun c _ => doubleQuotes_utf8EncodeChar c
  have hquote : String.utf8EncodeChar '"' = [quote] := by decide
  rw [writeField, fieldChars, hany]
  split_ifs
  · rw [List.flatMap_append, List.flatMap_cons, hdouble, List.flatMap_singleton, hquote]
    rfl
  · rw [Text.encode_eq_flatMap]

/-- A written record is a text. -/
lemma writeRecord_encode {record : List String} (hne : record ≠ [""]) :
    writeRecord (record.map Text.encode) = (lineChars record).flatMap String.utf8EncodeChar := by
  have hjoin : ∀ fields : List String,
      [comma].intercalate ((fields.map Text.encode).map writeField) =
        ([','].intercalate (fields.map fieldChars)).flatMap String.utf8EncodeChar := by
    intro fields
    induction fields with
    | nil => rfl
    | cons field fields ih =>
      cases fields with
      | nil => simp [writeField_encode]
      | cons next fields =>
        simp only [List.map_cons, List.intercalate_cons_cons, List.flatMap_append,
          writeField_encode] at ih ⊢
        rw [ih]
        rfl
  have hnot : record.map Text.encode ≠ [[]] := by
    intro heq
    obtain ⟨field, rfl, hfield⟩ := List.map_eq_singleton_iff.1 heq
    have hempty : Text.encode "" = [] := by rfl
    exact hne (congrArg (fun f => [f]) (Text.encode_injective (hfield.trans hempty.symm)))
  rw [writeRecord, if_neg hnot, hjoin, lineChars, List.flatMap_append]
  rfl

/-- **The written form of a table of texts is a text.** No record is a single empty field, which
would be written between quotes. -/
lemma write_encode {table : List (List String)} (hne : ∀ record ∈ table, record ≠ [""]) :
    write (table.map (·.map Text.encode)) = Text.encode (tableText table) := by
  rw [write, List.flatMap_map, tableText, Text.encode_eq_flatMap, String.toList_ofList,
    List.flatMap_assoc]
  exact List.flatMap_congr fun record hrecord => writeRecord_encode (hne record hrecord)

/-- A record of texts is read as these texts. -/
lemma decodeRecord?_encode (record : List String) :
    decodeRecord? (record.map Text.encode) = some record := by
  induction record with
  | nil => rfl
  | cons field record ih =>
    unfold decodeRecord? at ih ⊢
    rw [List.map_cons, List.mapM_cons, Text.decode?_encode, ih]
    rfl

end BenchTally.Table
