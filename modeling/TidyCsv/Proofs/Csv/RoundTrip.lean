import TidyCsv.Csv.Delimiter
import TidyCsv.Csv.Reader
import TidyCsv.Proofs.Csv.Writing
import Mathlib.Tactic.SplitIfs

/-! # Reading what was written

The reader is followed through the bytes of one field, then of one record, then of a document. A
field may be in quotes that it does not need. No part of the argument depends on where in the input
the reader stands, so positions are left out of account. -/

namespace TidyCsv.Csv

/-- A delimiter without another meaning to the reader. -/
structure Separates (delimiter : UInt8) : Prop where
  ne_quote : delimiter ≠ Bytes.quote
  not_terminator : isTerminator delimiter = false

theorem separates_comma : Separates Bytes.comma := by
  constructor <;> decide

/-! ## Written forms -/

/-- The ways to write a field: as it is, if it has no delimiter, quote or line break in it, or in
quotes, with each quote in it written twice. -/
inductive Spells (delimiter : UInt8) : Bytes → Bytes → Prop where
  | plain {field : Bytes} (h : needsQuotes delimiter field = false) : Spells delimiter field field
  | quoted (field : Bytes) :
      Spells delimiter field (Bytes.quote :: (doubleQuotes field ++ [Bytes.quote]))

/-- The ways to write the fields of a record, with delimiters between them. -/
inductive SpellsRow (delimiter : UInt8) : List Bytes → Bytes → Prop where
  | last {field written : Bytes} (h : Spells delimiter field written) :
      SpellsRow delimiter [field] written
  | cons {field written line : Bytes} {rest : List Bytes} (h : Spells delimiter field written)
      (hrest : SpellsRow delimiter rest line) :
      SpellsRow delimiter (field :: rest) (written ++ delimiter :: line)

theorem spells_encodeField (delimiter : UInt8) (field : Bytes) :
    Spells delimiter field (encodeField delimiter field) := by
  unfold encodeField
  split
  · exact .quoted field
  · next hplain => exact .plain (by simpa using hplain)

theorem spellsRow_encodeFields (delimiter : UInt8) (first : Bytes) (rest : List Bytes) :
    SpellsRow delimiter (first :: rest) (encodeFields delimiter (first :: rest)) := by
  induction rest generalizing first with
  | nil =>
      rw [encodeFields_singleton]
      exact .last (spells_encodeField delimiter first)
  | cons next rest ih =>
      rw [encodeFields_cons_cons]
      exact .cons (spells_encodeField delimiter first) (ih next)

/-! ## The machine -/

/-- Where a field may begin. -/
inductive Place.Opens : Place → Prop where
  | recordStart : Opens .recordStart
  | fieldStart : Opens .fieldStart

/-- What the machine has read, each part in the order in which it was read. -/
structure Scan.Shows (s : Scan) (place : Place) (field : Bytes) (fields : List Bytes)
    (done : List (List Bytes)) : Prop where
  place_eq : s.place = place
  field_eq : s.field = field.reverse
  fields_eq : s.fields = fields.reverse
  records_eq : s.records.map Record.fields = done.reverse

/-- Outside of quotes, a byte that neither opens them nor belongs to a blank line is a plain one. -/
theorem Scan.step_outside {dialect : Dialect} {s : Scan} {b : UInt8}
    (hplace : s.place ≠ .quoted) (hstart : s.place = .recordStart → isTerminator b = false)
    (hquote : s.place = .unquoted ∨ b ≠ Bytes.quote) :
    s.step dialect b = { s with here := s.here.advance b }.readPlain dialect b := by
  cases hs : s.place with
  | recordStart =>
      have hb : b ≠ Bytes.quote := hquote.resolve_left (by simp [hs])
      simp [step, hs, openField, hb, hstart hs]
  | fieldStart =>
      have hb : b ≠ Bytes.quote := hquote.resolve_left (by simp [hs])
      simp [step, hs, openField, hb]
  | unquoted => simp [step, hs]
  | quoted => exact absurd hs hplace
  | quoteSeen =>
      have hb : b ≠ Bytes.quote := hquote.resolve_left (by simp [hs])
      simp [step, hs, hb]

namespace Scan.Shows

variable {d : UInt8} {s : Scan} {place : Place} {field : Bytes} {fields : List Bytes}
  {done : List (List Bytes)}

theorem initial (start : Position) : (Scan.initial start).Shows .recordStart [] [] [] :=
  ⟨rfl, rfl, rfl, rfl⟩

/-! ## One byte -/

theorem delimiter (hd : Separates d) (h : s.Shows place field fields done)
    (hplace : place ≠ .quoted) :
    (s.step ⟨d, true⟩ d).Shows .fieldStart [] (fields ++ [field]) done := by
  have hstep : s.step ⟨d, true⟩ d = _ := step_outside
    (by rwa [h.place_eq]) (fun _ => hd.not_terminator) (.inr hd.ne_quote)
  rw [hstep]
  refine ⟨?_, ?_, ?_, ?_⟩ <;>
    simp [readPlain, endField, h.field_eq, h.fields_eq, h.records_eq]

theorem newline (hd : Separates d) (h : s.Shows place field fields done)
    (hplace : place ≠ .quoted) (hstart : place ≠ .recordStart) :
    (s.step ⟨d, true⟩ Bytes.newline).Shows .recordStart [] [] (done ++ [fields ++ [field]]) := by
  have hend : isTerminator Bytes.newline = true := by decide
  have hne : Bytes.newline ≠ d := by
    intro heq
    have hnot := hd.not_terminator
    rw [← heq, hend] at hnot
    simp at hnot
  have hstep : s.step ⟨d, true⟩ Bytes.newline = _ := step_outside
    (by rwa [h.place_eq]) (fun hs => absurd (h.place_eq.symm.trans hs) hstart)
    (.inr (by decide))
  rw [hstep]
  refine ⟨?_, ?_, ?_, ?_⟩ <;>
    simp [readPlain, endRecord, hne, hend, h.field_eq, h.fields_eq, h.records_eq]

theorem bare {b : UInt8} (h : s.Shows place field fields done)
    (hplace : place.Opens ∨ place = .unquoted) (hb : needsQuotes d [b] = false) :
    (s.step ⟨d, true⟩ b).Shows .unquoted (field ++ [b]) fields done := by
  obtain ⟨hne, hquote, hreturn, hfeed⟩ :
      b ≠ d ∧ b ≠ Bytes.quote ∧ b ≠ Bytes.carriageReturn ∧ b ≠ Bytes.newline := by
    simpa [needsQuotes, and_assoc] using hb
  have hend : isTerminator b = false := by simp [isTerminator, hreturn, hfeed]
  have hnot : place ≠ .quoted := by
    rintro rfl
    rcases hplace with hopens | heq
    · cases hopens
    · cases heq
  have hstep : s.step ⟨d, true⟩ b = _ := step_outside
    (by rwa [h.place_eq]) (fun _ => hend) (.inr hquote)
  rw [hstep]
  refine ⟨?_, ?_, ?_, ?_⟩ <;>
    simp [readPlain, push, hne, hend, h.field_eq, h.fields_eq, h.records_eq]

theorem openQuote (h : s.Shows place field fields done) (hplace : place.Opens) :
    (s.step ⟨d, true⟩ Bytes.quote).Shows .quoted field fields done := by
  have hend : isTerminator Bytes.quote = false := by decide
  obtain ⟨hp, hfield, hfields, hrecords⟩ := h
  cases hplace <;> refine ⟨?_, ?_, ?_, ?_⟩ <;> simp [step, openField, *]

theorem closeQuote (h : s.Shows .quoted field fields done) :
    (s.step ⟨d, true⟩ Bytes.quote).Shows .quoteSeen field fields done := by
  obtain ⟨hp, hfield, hfields, hrecords⟩ := h
  refine ⟨?_, ?_, ?_, ?_⟩ <;> simp [step, *]

theorem doubled (h : s.Shows .quoted field fields done) (b : UInt8) :
    ((Csv.doubled b).foldl (step ⟨d, true⟩) s).Shows .quoted (field ++ [b]) fields done := by
  obtain ⟨hp, hfield, hfields, hrecords⟩ := h
  by_cases hb : b = Bytes.quote
  · subst hb
    refine ⟨?_, ?_, ?_, ?_⟩ <;> simp [Csv.doubled, step, push, *]
  · refine ⟨?_, ?_, ?_, ?_⟩ <;> simp [Csv.doubled, step, push, *]

/-! ## One field -/

theorem doubleQuotes (bytes : Bytes) :
    ∀ {s : Scan} {field : Bytes}, s.Shows .quoted field fields done →
      ((Csv.doubleQuotes bytes).foldl (step ⟨d, true⟩) s).Shows .quoted (field ++ bytes) fields
        done := by
  induction bytes with
  | nil =>
      intro s field h
      simpa [Csv.doubleQuotes] using h
  | cons b rest ih =>
      intro s field h
      have hrest := ih (h.doubled (d := d) b)
      rw [List.append_assoc] at hrest
      simpa [Csv.doubleQuotes, List.foldl_append] using hrest

theorem bareAll (bytes : Bytes) :
    ∀ {s : Scan} {field : Bytes}, s.Shows .unquoted field fields done →
      needsQuotes d bytes = false →
      (bytes.foldl (step ⟨d, true⟩) s).Shows .unquoted (field ++ bytes) fields done := by
  induction bytes with
  | nil =>
      intro s field h _
      simpa using h
  | cons b rest ih =>
      intro s field h hbare
      have hsplit : needsQuotes d [b] = false ∧ needsQuotes d rest = false := by
        simpa [needsQuotes] using hbare
      have hrest := ih (h.bare (.inr rfl) hsplit.1) hsplit.2
      rw [List.append_assoc] at hrest
      simpa using hrest

/-- A written field is read as the field. The reader still stands before the record only if the
field is its first one and nothing is written for it. -/
theorem spells {written : Bytes} (h : s.Shows place [] fields done) (hplace : place.Opens)
    (hwritten : Spells d field written) :
    ∃ after, (written.foldl (step ⟨d, true⟩) s).Shows after field fields done ∧
      after ≠ .quoted ∧ (after = .recordStart → place = .recordStart ∧ written = []) := by
  cases hwritten with
  | quoted =>
      have hopen := h.openQuote (d := d) hplace
      have hclosed := (hopen.doubleQuotes (d := d) field).closeQuote (d := d)
      refine ⟨.quoteSeen, ?_, by simp, by simp⟩
      simpa [List.foldl_append] using hclosed
  | plain hplain =>
      cases field with
      | nil =>
          refine ⟨place, h, ?_, fun hp => ⟨hp, rfl⟩⟩
          cases hplace <;> simp
      | cons b rest =>
          have hsplit : needsQuotes d [b] = false ∧ needsQuotes d rest = false := by
            simpa [needsQuotes] using hplain
          have hread := (h.bare (.inl hplace) hsplit.1).bareAll rest hsplit.2
          exact ⟨.unquoted, by simpa using hread, by simp, by simp⟩

/-! ## One record -/

theorem spellsRow {row : List Bytes} {line : Bytes} (hd : Separates d)
    (hrow : SpellsRow d row line) :
    ∀ {s : Scan} {place : Place} {fields : List Bytes},
      s.Shows place [] fields done → place.Opens →
      ∃ after init last, init ++ [last] = fields ++ row ∧
        (line.foldl (step ⟨d, true⟩) s).Shows after last init done ∧
        after ≠ .quoted ∧ (after = .recordStart → place = .recordStart ∧ line = []) := by
  induction hrow with
  | last hfield =>
      intro s place fields h hplace
      obtain ⟨after, hread, hquoted, hstart⟩ := h.spells hplace hfield
      exact ⟨after, fields, _, rfl, hread, hquoted, hstart⟩
  | cons hfield _ ih =>
      intro s place fields h hplace
      obtain ⟨middle, hread, hquoted, -⟩ := h.spells hplace hfield
      obtain ⟨after, init, last, hfields, hrest, hafter, hstart⟩ :=
        ih (hread.delimiter hd hquoted) .fieldStart
      refine ⟨after, init, last, by simpa using hfields, ?_, hafter, ?_⟩
      · simpa [List.foldl_append] using hrest
      · intro hp
        cases (hstart hp).1

theorem encodeRecord (hd : Separates d) (h : s.Shows .recordStart [] [] done)
    {record : List Bytes} (hrecord : record ≠ []) :
    ((Csv.encodeRecord d record).foldl (step ⟨d, true⟩) s).Shows .recordStart [] []
      (done ++ [record]) := by
  obtain ⟨first, rest, rfl⟩ := List.exists_cons_of_ne_nil hrecord
  by_cases hempty : Csv.encodeFields d (first :: rest) = []
  · -- a record without any byte is written as two quotes
    obtain ⟨rfl, rfl⟩ := encodeFields_cons_eq_nil hempty
    have hread := ((h.openQuote (d := d) .recordStart).closeQuote (d := d)).newline hd
      (by simp) (by simp)
    simpa [Csv.encodeRecord, hempty] using hread
  · obtain ⟨after, init, last, hfields, hread, hquoted, hstart⟩ :=
      spellsRow hd (spellsRow_encodeFields d first rest) h .recordStart
    have hbegun : after ≠ .recordStart := fun hp => hempty (hstart hp).2
    have hclosed := hread.newline hd hquoted hbegun
    rw [hfields] at hclosed
    simpa [Csv.encodeRecord, hempty, List.foldl_append] using hclosed

/-! ## A document -/

theorem encodeRecords (hd : Separates d) (records : List (List Bytes)) :
    ∀ {s : Scan} {done : List (List Bytes)}, s.Shows .recordStart [] [] done →
      (∀ record ∈ records, record ≠ []) →
      ((Csv.encodeRecords d records).foldl (step ⟨d, true⟩) s).Shows .recordStart [] []
        (done ++ records) := by
  induction records with
  | nil =>
      intro s done h _
      simpa using h
  | cons record rest ih =>
      intro s done h hrecords
      have hread := ih (h.encodeRecord hd (hrecords record (by simp)))
        (fun other hmem => hrecords other (by simp [hmem]))
      rw [List.append_assoc] at hread
      simpa [List.foldl_append] using hread

theorem finish (h : s.Shows .recordStart [] [] done) : s.finish.map Record.fields = done := by
  have hmap := congrArg List.reverse h.records_eq
  simpa [Scan.finish, h.place_eq, List.map_reverse] using hmap

theorem finish_begun (h : s.Shows place field fields done) (hplace : place ≠ .recordStart) :
    s.finish.map Record.fields = done ++ [fields ++ [field]] := by
  rw [Scan.finish]
  split
  · next hstart => exact absurd (h.place_eq.symm.trans hstart) hplace
  · simp [endRecord, List.map_reverse, h.records_eq, h.field_eq, h.fields_eq]

end Scan.Shows

/-- Without a mark at its start, a document is read as the records it was written from. -/
theorem recordsFrom_encodeRecords {delimiter : UInt8} (hd : Separates delimiter)
    (start : Position) {records : List (List Bytes)} (hrecords : ∀ record ∈ records, record ≠ []) :
    (recordsFrom ⟨delimiter, true⟩ start (encodeRecords delimiter records)).map Record.fields =
      records :=
  ((Scan.Shows.initial start).encodeRecords hd records hrecords).finish

/-- A written row is one record, unless nothing is written for it. -/
theorem recordsFrom_spellsRow {delimiter : UInt8} (hd : Separates delimiter) {row : List Bytes}
    {line : Bytes} (hrow : SpellsRow delimiter row line) (hne : line ≠ []) (start : Position) :
    (recordsFrom ⟨delimiter, true⟩ start line).map Record.fields = [row] := by
  obtain ⟨after, init, last, hfields, hread, -, hstart⟩ :=
    Scan.Shows.spellsRow hd hrow (.initial start) .recordStart
  rw [recordsFrom, hread.finish_begun fun hp => hne (hstart hp).2, hfields]
  rfl

/-! ## The mark at the start

A document opens with a mark only if its first field does: whatever follows the field in the output
is a byte below the three bytes of the mark.
-/

theorem isPrefix_of_isPrefix_append_cons {mark : Bytes} (hmark : ∀ m ∈ mark, ¬ m < 0x80) :
    ∀ {xs rest : Bytes} {b : UInt8}, b < 0x80 → mark <+: xs ++ b :: rest → mark <+: xs := by
  induction mark with
  | nil =>
      intro xs rest b _ _
      exact List.nil_prefix
  | cons m mark ih =>
      intro xs rest b hb hprefix
      cases xs with
      | nil =>
          obtain ⟨rfl, _⟩ := List.cons_prefix_cons.mp hprefix
          exact absurd hb (hmark m (by simp))
      | cons x xs =>
          obtain ⟨rfl, htail⟩ := List.cons_prefix_cons.mp hprefix
          exact List.cons_prefix_cons.mpr
            ⟨rfl, ih (fun other hmem => hmark other (by simp [hmem])) hb htail⟩

theorem utf8Mark_not_ascii : ∀ m ∈ Bytes.utf8Mark, ¬ m < 0x80 := by
  intro m hm
  simp only [Bytes.utf8Mark, List.mem_cons, List.not_mem_nil, or_false] at hm
  rcases hm with rfl | rfl | rfl <;> decide

theorem encodeRecord_eq_encodeField_append {delimiter : UInt8} (hascii : delimiter < 0x80)
    (first : Bytes) (rest : List Bytes) :
    (∃ b tail, b < 0x80 ∧
      encodeRecord delimiter (first :: rest) = encodeField delimiter first ++ b :: tail) := by
  by_cases hempty : encodeFields delimiter (first :: rest) = []
  · obtain ⟨rfl, rfl⟩ := encodeFields_cons_eq_nil hempty
    refine ⟨Bytes.quote, [Bytes.quote, Bytes.newline], by decide, ?_⟩
    simp [encodeRecord, hempty, encodeField, needsQuotes]
  · cases rest with
    | nil =>
        refine ⟨Bytes.newline, [], by decide, ?_⟩
        simp_all [encodeRecord]
    | cons next rest =>
        refine ⟨delimiter, encodeFields delimiter (next :: rest) ++ [Bytes.newline], hascii, ?_⟩
        simp [encodeRecord]

theorem utf8Mark_isPrefix_encodeField {delimiter : UInt8} {field : Bytes}
    (h : Bytes.utf8Mark <+: encodeField delimiter field) : Bytes.utf8Mark <+: field := by
  unfold encodeField at h
  split at h
  · obtain ⟨heq, _⟩ := List.cons_prefix_cons.mp h
    exact absurd heq (by decide)
  · exact h

/-- A document opens with the mark if and only if its first field does where it is written. -/
theorem utf8Mark_isPrefix_encodeRecords_iff {delimiter : UInt8} (hascii : delimiter < 0x80)
    {first : Bytes} {rest : List Bytes} {records : List (List Bytes)} :
    Bytes.utf8Mark <+: encodeRecords delimiter ((first :: rest) :: records) ↔
      Bytes.utf8Mark <+: encodeField delimiter first := by
  obtain ⟨b, after, hb, hrecord⟩ := encodeRecord_eq_encodeField_append hascii first rest
  rw [encodeRecords_cons, hrecord, List.append_assoc, List.cons_append]
  constructor
  · exact isPrefix_of_isPrefix_append_cons utf8Mark_not_ascii hb
  · exact fun h => h.trans (List.prefix_append _ _)

theorem records_of_not_utf8Mark {dialect : Dialect} {content : Bytes}
    (h : ¬ Bytes.utf8Mark <+: content) (atHand : Nat) :
    records dialect atHand content = recordsFrom dialect ⟨0, 1⟩ content := by
  have hfirst : ¬ Bytes.utf8Mark <+: content.take atHand :=
    fun hmark => h (hmark.trans (List.take_prefix _ _))
  simp [records, hfirst]

theorem fileRecords_of_not_utf8Mark {dialect : Dialect} {content : Bytes}
    (h : ¬ Bytes.utf8Mark <+: content) :
    fileRecords dialect content = recordsFrom dialect ⟨0, 1⟩ content :=
  records_of_not_utf8Mark h (bytesAtHand 0)

/-- A written document whose first field does not open with the mark is read as the records it was
written from. -/
theorem records_encodeRecords {delimiter : UInt8} (hd : Separates delimiter)
    (hascii : delimiter < 0x80) {rows : List (List Bytes)} (hrows : ∀ row ∈ rows, row ≠ [])
    (hmark : ∀ row ∈ rows.head?, ∀ field ∈ row.head?, ¬ Bytes.utf8Mark <+: field) (atHand : Nat) :
    (records ⟨delimiter, true⟩ atHand (encodeRecords delimiter rows)).map Record.fields = rows := by
  rw [records_of_not_utf8Mark]
  · exact recordsFrom_encodeRecords hd _ hrows
  · intro hprefix
    cases rows with
    | nil => simp [Bytes.utf8Mark] at hprefix
    | cons row rest =>
        obtain ⟨first, others, rfl⟩ := List.exists_cons_of_ne_nil (hrows row (by simp))
        have hfield := (utf8Mark_isPrefix_encodeRecords_iff hascii).mp hprefix
        exact hmark _ rfl _ rfl (utf8Mark_isPrefix_encodeField hfield)

theorem fileRecords_encodeRecords {delimiter : UInt8} (hd : Separates delimiter)
    (hascii : delimiter < 0x80) {records : List (List Bytes)}
    (hrecords : ∀ record ∈ records, record ≠ [])
    (hmark : ∀ record ∈ records.head?, ∀ field ∈ record.head?, ¬ Bytes.utf8Mark <+: field) :
    (fileRecords ⟨delimiter, true⟩ (encodeRecords delimiter records)).map Record.fields =
      records :=
  records_encodeRecords hd hascii hrecords hmark (bytesAtHand 0)

/-! ## Delimiters of the user's choice -/

theorem separates_of_named {value : String} {delimiter : UInt8}
    (h : Delimiter.named? value = some delimiter) : Separates delimiter ∧ delimiter < 0x80 := by
  have hmem : delimiter ∈ ([0x09, 0x2C, 0x7C, 0x3B] : List UInt8) := by
    unfold Delimiter.named? at h
    split_ifs at h <;> simp_all
  simp only [List.mem_cons, List.not_mem_nil, or_false] at hmem
  rcases hmem with rfl | rfl | rfl | rfl <;> exact ⟨⟨by decide, by decide⟩, by decide⟩

theorem separates_of_ofChars {text : List Char} {delimiter : UInt8}
    (h : Delimiter.ofChars text = .ok delimiter) : Separates delimiter ∧ delimiter < 0x80 := by
  match text with
  | [] => simp [Delimiter.ofChars] at h
  | [c] =>
      simp only [Delimiter.ofChars] at h
      split at h
      · simp at h
      · next hlow =>
          split at h
          · simp at h
          · next hplain =>
              obtain rfl : UInt8.ofNat c.toNat = delimiter := by simpa using h
              obtain ⟨hquote, hfeed, hreturn⟩ := by simpa only [not_or] using hplain
              refine ⟨⟨hquote, by simp [isTerminator, hfeed, hreturn]⟩, ?_⟩
              rw [UInt8.lt_iff_toNat_lt, UInt8.toNat_ofNat']
              have hsmall : c.toNat < 0x80 := by omega
              simpa using by omega
  | _ :: _ :: _ => simp [Delimiter.ofChars] at h

/-- A delimiter that a text names has no other meaning to the reader, and is ASCII. -/
theorem separates_of_parse {value : String} {delimiter : UInt8}
    (h : Delimiter.parse value = .ok delimiter) : Separates delimiter ∧ delimiter < 0x80 := by
  unfold Delimiter.parse at h
  cases hnamed : Delimiter.named? value with
  | some b =>
      rw [hnamed] at h
      obtain rfl : b = delimiter := by simpa using h
      exact separates_of_named hnamed
  | none =>
      rw [hnamed] at h
      exact separates_of_ofChars h

/-- Rows of one width that a writer has written are read as they are, with every delimiter of the
user's choice and however much of the file can be seen before reading starts. -/
theorem records_written {value : String} {delimiter : UInt8}
    (hparse : Delimiter.parse value = .ok delimiter) {rows : List (List Bytes)} {width : Nat}
    (hpos : 1 ≤ width) (hwidth : ∀ row ∈ rows, row.length = width)
    (hmark : ∀ row ∈ rows.head?, ∀ field ∈ row.head?, ¬ Bytes.utf8Mark <+: field) :
    ∃ writer, (Writer.new delimiter).putAll rows = (none, writer) ∧
      ∀ atHand, (records ⟨delimiter, true⟩ atHand writer.written).map Record.fields = rows := by
  obtain ⟨hseparates, hascii⟩ := separates_of_parse hparse
  have hrows : ∀ row ∈ rows, row ≠ [] := by
    intro row hrow hnil
    have hlength := hwidth row hrow
    rw [hnil, List.length_nil] at hlength
    omega
  obtain ⟨writer, hput, hholds⟩ := (Writer.holds_new delimiter).putAll (by simpa using hwidth)
  refine ⟨writer, hput, fun atHand => ?_⟩
  rw [hholds.written_eq, List.nil_append]
  exact records_encodeRecords hseparates hascii hrows hmark atHand

/-- An empty record, and fields with bytes of every kind that means something to a reader. -/
def letterRows : List (List Bytes) :=
  [[[]], [Utf8.ofString "x\"\r\n"], [Bytes.utf8Mark], [[0x00, 0xFF]], [[]]]

theorem records_written_letters :
    Delimiter.parse "x" = .ok 0x78 ∧ (∀ row ∈ letterRows, row.length = 1) ∧
      ∃ writer, (Writer.new 0x78).putAll letterRows = (none, writer) ∧
        writer.written = Utf8.ofString "\"\"\n\"x\"\"\r\n\"\n" ++ Bytes.utf8Mark ++
          [0x0A, 0x00, 0xFF, 0x0A] ++ Utf8.ofString "\"\"\n" ∧
        ∀ atHand, (records ⟨0x78, true⟩ atHand writer.written).map Record.fields = letterRows := by
  have hparse : Delimiter.parse "x" = .ok 0x78 := by rfl
  have hwidth : ∀ row ∈ letterRows, row.length = 1 := by decide
  have hmark : ∀ row ∈ letterRows.head?, ∀ field ∈ row.head?, ¬ Bytes.utf8Mark <+: field := by
    decide
  obtain ⟨writer, hput, hread⟩ := records_written hparse (by decide) hwidth hmark
  have hwritten : ((Writer.new 0x78).putAll letterRows).2.written =
      Utf8.ofString "\"\"\n\"x\"\"\r\n\"\n" ++ Bytes.utf8Mark ++
          [0x0A, 0x00, 0xFF, 0x0A] ++ Utf8.ofString "\"\"\n" := by
    decide
  rw [hput] at hwritten
  exact ⟨hparse, hwidth, writer, hput, hwritten, hread⟩

end TidyCsv.Csv
