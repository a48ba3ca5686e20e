import TidyCsv.Proofs.Csv.Delimiter
import TidyCsv.Proofs.Csv.RoundTrip
import TidyCsv.Proofs.Text.Decoding
import Mathlib.Tactic.MkIffOfInductiveProp

/-! # Guessing the delimiter of a written table

A guess counts delimiters outside of quotes. It tells only whether quotes are open: a quote that is
written twice is to it the end of quoted bytes and the beginning of others, and to a reader it is
not. In a row that is written as it has to be, with quotes around each field that the delimiter or a
quote is in, it still finds the delimiter once between any two fields that a reader finds, and it
finds no other candidate unless that is in a field without quotes. -/

namespace TidyCsv

namespace Text

/-! ## Whole lines -/

/-- Bytes that are read as a line, and as it is, where a line feed follows. -/
structure IsLine (line : Bytes) : Prop where
  valid : Utf8.Valid line
  unbroken : Bytes.newline ∉ line
  unreturned : line.getLast? ≠ some Bytes.carriageReturn

variable {line other : Bytes} {b : UInt8}

/-- Two lines make one if a byte of ASCII that ends no line is put between them. -/
theorem IsLine.append_cons (h : IsLine line) (hother : IsLine other) (hascii : b < 0x80)
    (hb : Csv.isTerminator b = false) : IsLine (line ++ b :: other) := by
  obtain ⟨hfeed, hreturn⟩ : b ≠ Bytes.newline ∧ b ≠ Bytes.carriageReturn := by
    simpa [Csv.isTerminator] using hb
  have hvalid : Utf8.Valid [b] := Utf8.valid_of_isAscii (by simpa [Bytes.isAscii] using hascii)
  refine ⟨h.valid.append (hvalid.append hother.valid), ?_, ?_⟩
  · simp [h.unbroken, hother.unbroken, Ne.symm hfeed]
  · cases other with
    | nil => simpa using hreturn
    | cons c rest => simpa using hother.unreturned

theorem IsLine.closeLine_eq (h : IsLine line) :
    closeLine (Utf8.decodeLossy line).reverse = Utf8.decodeLossy line := by
  obtain ⟨text, rfl⟩ := h.valid
  rw [Utf8.decodeLossy_encode, closeLine_of_ne, List.reverse_reverse]
  -- a carriage return at the end of the text would be the last byte as well
  intro rest hrest
  have htext : text = rest.reverse ++ ['\r'] := by
    rw [← List.reverse_reverse text, hrest, List.reverse_cons]
  have hlast : Utf8.encode ['\r'] = [Bytes.carriageReturn] := by decide
  apply h.unreturned
  rw [htext, Utf8.encode_append, hlast, List.getLast?_concat]

theorem IsLine.lines_append (h : IsLine line) (rest : Bytes) :
    lines (Utf8.decodeLossy (line ++ Bytes.newline :: rest)) =
      Utf8.decodeLossy line :: lines (Utf8.decodeLossy rest) := by
  rw [Utf8.decodeLossy_line, lines_line (Utf8.newline_not_mem_decodeLossy h.unbroken),
    h.closeLine_eq]

theorem length_lines_le {text : List Char} (h : '\n' ∉ text) : (lines text).length ≤ 1 := by
  have hlines := linesFrom_append h [] [] []
  rw [List.append_nil] at hlines
  rw [lines, hlines, linesFrom]
  split <;> simp

end Text

namespace Csv

open Delimiter Text

/-! ## Quotes that are written twice -/

theorem mem_doubleQuotes {b : UInt8} {field : Bytes} : b ∈ doubleQuotes field ↔ b ∈ field := by
  have hdoubled : ∀ c, b ∈ doubled c ↔ b = c := by
    intro c
    unfold doubled
    split <;> simp
  simp [doubleQuotes, hdoubled]

theorem doubleQuotes_of_not_mem {bytes : Bytes} (h : Bytes.quote ∉ bytes) :
    doubleQuotes bytes = bytes := by
  induction bytes with
  | nil => rfl
  | cons b rest ih =>
      simp only [List.mem_cons, not_or] at h
      have hrest : doubleQuotes rest = rest := ih h.2
      rw [doubleQuotes, List.flatMap_cons, doubled, if_neg (Ne.symm h.1), ← doubleQuotes, hrest]
      rfl

/-- No character but a quote has the byte of a quote, so no character is torn apart. -/
theorem valid_doubleQuotes {field : Bytes} (h : Utf8.Valid field) :
    Utf8.Valid (doubleQuotes field) := by
  obtain ⟨text, rfl⟩ := h
  induction text with
  | nil => exact ⟨[], rfl⟩
  | cons c rest ih =>
      have hsplit : doubleQuotes (Utf8.encode (c :: rest)) =
          doubleQuotes (Utf8.encode [c]) ++ doubleQuotes (Utf8.encode rest) := by
        simp [doubleQuotes, Utf8.encode]
      rw [hsplit]
      refine Utf8.Valid.append ?_ ih
      by_cases hc : c = '"'
      · rw [hc]
        exact ⟨['"', '"'], by decide⟩
      · rw [doubleQuotes_of_not_mem]
        · exact Utf8.valid_encode [c]
        · intro hmem
          have hchar := (Utf8.mem_encode_iff (by decide)).mp hmem
          exact hc (List.mem_singleton.mp hchar).symm

theorem foldl_countByte_doubleQuotes (delimiter : UInt8) (field : Bytes) (count : Nat) :
    (doubleQuotes field).foldl (countByte delimiter) (true, count) = (true, count) := by
  induction field with
  | nil => rfl
  | cons b rest ih =>
      rw [doubleQuotes, List.flatMap_cons, List.foldl_append, ← doubleQuotes]
      have hb : (doubled b).foldl (countByte delimiter) (true, count) = (true, count) := by
        by_cases hb : b = Bytes.quote <;> simp [doubled, countByte, hb]
      rw [hb, ih]

theorem counts_quoted (delimiter : UInt8) (field : Bytes) :
    Counts delimiter (Bytes.quote :: (doubleQuotes field ++ [Bytes.quote])) 0 := by
  intro count
  have hopen : countByte delimiter (false, count) Bytes.quote = (true, count) := by
    simp [countByte]
  have hclose : countByte delimiter (true, count) Bytes.quote = (false, count) := by
    simp [countByte]
  rw [List.foldl_cons, hopen, List.foldl_append, foldl_countByte_doubleQuotes, List.foldl_cons,
    hclose]
  rfl

/-! ## Fields -/

/-- A field that is part of one line, and that mentions no other candidate where it is written
without quotes. -/
@[mk_iff]
structure Legible (delimiter : UInt8) (field : Bytes) : Prop where
  valid : Utf8.Valid field
  unbroken : Bytes.newline ∉ field
  apart : needsQuotes delimiter field = false →
    ∀ other ∈ candidates, other ≠ delimiter → other ∉ field

variable {delimiter candidate : UInt8} {field first written line : Bytes}
  {row fields rest : List Bytes}

instance : Decidable (Legible delimiter field) :=
  letI : Decidable (∀ other ∈ candidates, other ≠ delimiter → other ∉ field) :=
    List.decidableBAll _ candidates
  decidable_of_iff' _ (legible_iff delimiter field)

theorem not_mem_of_needsQuotes (h : needsQuotes delimiter field = false) :
    delimiter ∉ field ∧ Bytes.quote ∉ field ∧ Bytes.carriageReturn ∉ field ∧
      Bytes.newline ∉ field := by
  have hplain : ∀ b ∈ field, ¬ (((b = delimiter ∨ b = Bytes.quote) ∨ b = Bytes.carriageReturn) ∨
      b = Bytes.newline) := by
    simpa [needsQuotes] using h
  refine ⟨fun hmem => ?_, fun hmem => ?_, fun hmem => ?_, fun hmem => ?_⟩ <;>
    simpa using hplain _ hmem

theorem Legible.not_mem (h : Legible delimiter field) (hcandidate : candidate ∈ candidates)
    (hplain : needsQuotes delimiter field = false) : candidate ∉ field := by
  by_cases heq : candidate = delimiter
  · rw [heq]
    exact (not_mem_of_needsQuotes hplain).1
  · exact h.apart hplain candidate hcandidate heq

/-- Nothing is counted in a written field unless it is in a field without quotes. -/
theorem Spells.counts (h : Spells delimiter field written)
    (hfield : needsQuotes delimiter field = false → candidate ∉ field) :
    Counts candidate written 0 := by
  cases h with
  | quoted => exact counts_quoted candidate field
  | plain hplain =>
      obtain ⟨-, hquote, -, -⟩ := not_mem_of_needsQuotes hplain
      exact Counts.of_not_mem hquote (hfield hplain)

theorem Legible.isLine (h : Legible delimiter field) : IsLine (encodeField delimiter field) := by
  unfold encodeField
  split
  · have hquote : Utf8.Valid [Bytes.quote] := Utf8.valid_of_isAscii (by decide)
    have hvalid := hquote.append ((valid_doubleQuotes h.valid).append hquote)
    refine ⟨hvalid, ?_, ?_⟩
    · have hne : Bytes.newline ≠ Bytes.quote := by decide
      simp [mem_doubleQuotes, h.unbroken, hne]
    · rw [← List.cons_append, List.getLast?_concat]
      decide
  · next hplain =>
      simp only [Bool.not_eq_true] at hplain
      obtain ⟨-, -, hreturn, hfeed⟩ := not_mem_of_needsQuotes hplain
      exact ⟨h.valid, hfeed, fun hlast => hreturn (List.mem_of_getLast? hlast)⟩

/-! ## Lines of fields -/

/-- The delimiter is counted once after each field but the last one, and what is in no field
without quotes is not counted. -/
theorem SpellsRow.counts (h : SpellsRow delimiter row line) (hdelimiter : delimiter ≠ Bytes.quote)
    (hrow : ∀ field ∈ row, needsQuotes delimiter field = false → candidate ∉ field) :
    ∃ count, row.length = count + 1 ∧
      Counts candidate line (if candidate = delimiter then count else 0) := by
  induction h with
  | last hfield => exact ⟨0, rfl, by simpa using hfield.counts (hrow _ (by simp))⟩
  | cons hfield _ ih =>
      obtain ⟨count, hlength, hrest⟩ := ih fun field hmem => hrow field (by simp [hmem])
      -- the byte between this field and the next one
      have hone : Counts candidate [delimiter] (if candidate = delimiter then 1 else 0) := by
        by_cases heq : candidate = delimiter
        · rw [if_pos heq, heq]
          exact Counts.singleton hdelimiter
        · rw [if_neg heq]
          exact Counts.of_not_mem (by simpa using Ne.symm hdelimiter) (by simpa using heq)
      have hsum : 0 + ((if candidate = delimiter then 1 else 0) +
          (if candidate = delimiter then count else 0)) =
            if candidate = delimiter then count + 1 else 0 := by
        split <;> simp [Nat.add_comm]
      have hline := (hfield.counts (hrow _ (by simp))).append (hone.append hrest)
      rw [hsum] at hline
      exact ⟨count + 1, by rw [List.length_cons, hlength], hline⟩

theorem isLine_encodeFields (hdelimiter : Separates delimiter) (hascii : delimiter < 0x80)
    (hfirst : Legible delimiter first) (hrest : ∀ field ∈ rest, Legible delimiter field) :
    IsLine (encodeFields delimiter (first :: rest)) := by
  induction rest generalizing first with
  | nil => simpa using hfirst.isLine
  | cons next rest ih =>
      rw [encodeFields_cons_cons]
      have hnext := ih (hrest next (by simp)) fun field hfield => hrest field (by simp [hfield])
      exact hfirst.isLine.append_cons hnext hascii hdelimiter.not_terminator

theorem encodeRecord_of_several (h : 2 ≤ fields.length) :
    encodeRecord delimiter fields = encodeFields delimiter fields ++ [Bytes.newline] := by
  match fields with
  | first :: next :: rest => simp [encodeRecord]

/-! ## Tables -/

/-- A table from which its delimiter can be told: at least two columns, and a header that is not
blank. -/
structure Tabular (delimiter : UInt8) (header : List Bytes) (rows : List (List Bytes)) : Prop where
  several : 2 ≤ header.length
  rectangular : ∀ row ∈ rows, row.length = header.length
  legible : ∀ record ∈ header :: rows, ∀ field ∈ record, Legible delimiter field
  shown : isBlankText (Utf8.decodeLossy (encodeFields delimiter header)) = false

namespace Tabular

variable {header record : List Bytes} {rows : List (List Bytes)}

theorem length_eq (h : Tabular delimiter header rows) (hrecord : record ∈ header :: rows) :
    record.length = header.length := by
  rcases List.mem_cons.mp hrecord with rfl | hrow
  · rfl
  · exact h.rectangular record hrow

theorem exists_cons (h : Tabular delimiter header rows) (hrecord : record ∈ header :: rows) :
    ∃ first rest, record = first :: rest ∧ rest.length = header.length - 1 ∧
      Legible delimiter first ∧ ∀ field ∈ rest, Legible delimiter field := by
  have hlength := h.length_eq hrecord
  have hseveral := h.several
  have hlegible := h.legible record hrecord
  obtain ⟨first, rest, rfl⟩ : ∃ first rest, record = first :: rest :=
    List.exists_cons_of_length_pos (by omega)
  refine ⟨first, rest, rfl, by simp at hlength; omega, hlegible first (by simp), ?_⟩
  exact fun field hfield => hlegible field (List.mem_cons_of_mem first hfield)

theorem counts (h : Tabular delimiter header rows) (hdelimiter : delimiter ≠ Bytes.quote)
    (hcandidate : candidate ∈ candidates) (hrecord : record ∈ header :: rows) :
    Counts candidate (encodeFields delimiter record)
      (if candidate = delimiter then header.length - 1 else 0) := by
  have hplain : ∀ field ∈ record, needsQuotes delimiter field = false → candidate ∉ field :=
    fun field hfield => (h.legible record hrecord field hfield).not_mem hcandidate
  have hwidth := h.length_eq hrecord
  obtain ⟨first, rest, rfl, -, -, -⟩ := h.exists_cons hrecord
  obtain ⟨count, hlength, hcounts⟩ :=
    (spellsRow_encodeFields delimiter first rest).counts hdelimiter hplain
  rwa [← hwidth, hlength, Nat.add_sub_cancel]

theorem isLine (h : Tabular delimiter header rows) (hdelimiter : Separates delimiter)
    (hascii : delimiter < 0x80) (hrecord : record ∈ header :: rows) :
    2 ≤ record.length ∧ IsLine (encodeFields delimiter record) := by
  refine ⟨by rw [h.length_eq hrecord]; exact h.several, ?_⟩
  obtain ⟨first, rest, rfl, -, hfirst, hrest⟩ := h.exists_cons hrecord
  exact isLine_encodeFields hdelimiter hascii hfirst hrest

end Tabular

/-! ## The start of a file -/

/-- The first bytes of written records: whole records, and a part of the line of the next one. -/
structure Cut (delimiter : UInt8) (records : List (List Bytes)) (n : Nat)
    (whole : List (List Bytes)) (part : Bytes) : Prop where
  start : whole <+: records
  unbroken : Bytes.newline ∉ part
  take_eq : (encodeRecords delimiter records).take n = encodeRecords delimiter whole ++ part
  header_mem : ∀ header ∈ records.head?,
    (encodeRecord delimiter header).length ≤ n → header ∈ whole
  part_eq_nil : (encodeRecords delimiter records).length ≤ n → part = []

variable {record : List Bytes} {records whole : List (List Bytes)} {part : Bytes} {n : Nat}

theorem cut_within (hseveral : 2 ≤ record.length)
    (hline : IsLine (encodeFields delimiter record))
    (hn : n < (encodeRecord delimiter record).length) :
    Cut delimiter (record :: records) n [] ((encodeRecord delimiter record).take n) := by
  have hrecord : encodeRecord delimiter record =
      encodeFields delimiter record ++ [Bytes.newline] := encodeRecord_of_several hseveral
  have hwithin : n ≤ (encodeFields delimiter record).length := by
    rw [hrecord, List.length_append, List.length_singleton] at hn
    exact Nat.le_of_lt_succ hn
  refine ⟨List.nil_prefix, ?_, ?_, ?_, ?_⟩
  · rw [hrecord, List.take_append_of_le_length hwithin]
    exact fun hmem => hline.unbroken (List.mem_of_mem_take hmem)
  · rw [encodeRecords_cons, List.take_append_of_le_length (Nat.le_of_lt hn)]
    rfl
  · intro header hheader hfits
    obtain rfl : record = header := by simpa using hheader
    exact absurd hfits (Nat.not_le_of_lt hn)
  · intro hfits
    rw [encodeRecords_cons, List.length_append] at hfits
    omega

theorem Cut.cons (h : Cut delimiter records (n - (encodeRecord delimiter record).length) whole part)
    (hn : (encodeRecord delimiter record).length ≤ n) :
    Cut delimiter (record :: records) n (record :: whole) part := by
  refine ⟨List.cons_prefix_cons.mpr ⟨rfl, h.start⟩, h.unbroken, ?_, ?_, ?_⟩
  · rw [encodeRecords_cons, List.take_append, List.take_of_length_le hn, h.take_eq,
      encodeRecords_cons, List.append_assoc]
  · intro header hheader _
    obtain rfl : record = header := by simpa using hheader
    exact List.mem_cons_self
  · intro hfits
    rw [encodeRecords_cons, List.length_append] at hfits
    exact h.part_eq_nil (by omega)

theorem exists_cut
    (hline : ∀ record ∈ records, 2 ≤ record.length ∧ IsLine (encodeFields delimiter record))
    (n : Nat) : ∃ whole part, Cut delimiter records n whole part := by
  induction records generalizing n with
  | nil => exact ⟨[], [], List.prefix_rfl, by simp, by simp, by simp, by simp⟩
  | cons record rest ih =>
      obtain ⟨⟨hseveral, hisLine⟩, hrest⟩ := List.forall_mem_cons.mp hline
      rcases Nat.lt_or_ge n (encodeRecord delimiter record).length with hn | hn
      · exact ⟨[], _, cut_within hseveral hisLine hn⟩
      · obtain ⟨whole, part, hcut⟩ := ih hrest (n - (encodeRecord delimiter record).length)
        exact ⟨record :: whole, part, hcut.cons hn⟩

theorem lines_encodeRecords_append
    (hline : ∀ record ∈ records, 2 ≤ record.length ∧ IsLine (encodeFields delimiter record))
    (part : Bytes) :
    lines (Utf8.decodeLossy (encodeRecords delimiter records ++ part)) =
      records.map (fun record => Utf8.decodeLossy (encodeFields delimiter record)) ++
        lines (Utf8.decodeLossy part) := by
  induction records with
  | nil => rfl
  | cons record rest ih =>
      obtain ⟨hseveral, hisLine⟩ := hline record (by simp)
      have hrest := ih fun other hother => hline other (by simp [hother])
      rw [encodeRecords_cons, encodeRecord_of_several hseveral, List.append_assoc, List.append_assoc,
        List.singleton_append, hisLine.lines_append, hrest]
      rfl

end Csv

namespace Delimiter

open Csv

theorem separates_of_mem_candidates {delimiter : UInt8} (h : delimiter ∈ candidates) :
    Separates delimiter ∧ delimiter < 0x80 := by
  simp only [candidates, List.mem_cons, List.not_mem_nil, or_false] at h
  rcases h with rfl | rfl | rfl | rfl <;> exact ⟨⟨by decide, by decide⟩, by decide⟩

/-- A line that is written as a row is read as one record, with one field more than delimiters are
counted in it. -/
theorem countUnquoted_add_one {delimiter : UInt8} {row : List Bytes} {line : Bytes}
    (hdelimiter : delimiter ∈ candidates) (hrow : SpellsRow delimiter row line) (hne : line ≠ [])
    (hmark : ¬ Bytes.utf8Mark <+: line) (atHand : Nat) :
    ∃ record, records ⟨delimiter, true⟩ atHand line = [record] ∧ record.fields = row ∧
      countUnquoted delimiter line + 1 = record.fields.length := by
  obtain ⟨hseparates, -⟩ := separates_of_mem_candidates hdelimiter
  have hread := recordsFrom_spellsRow hseparates hrow hne ⟨0, 1⟩
  rw [← records_of_not_utf8Mark hmark atHand] at hread
  obtain ⟨record, hrecord, hfields⟩ := List.map_eq_singleton_iff.mp hread
  obtain ⟨count, hlength, hcounts⟩ :=
    hrow.counts hseparates.ne_quote fun _ _ hplain => (not_mem_of_needsQuotes hplain).1
  rw [if_pos rfl] at hcounts
  refine ⟨record, hrecord, hfields, ?_⟩
  rw [hcounts.countUnquoted_eq, hfields, hlength]

/-- Delimiters beside quotes that are written twice, and an empty field with and without quotes. -/
def quotedRow : List Bytes := ["\",\"", "", "", "b;c"].map Utf8.ofString

def quotedLine : Bytes := Utf8.ofString "\"\"\",\"\"\",,\"\",b;c"

theorem countUnquoted_quotedLine :
    SpellsRow Bytes.comma quotedRow quotedLine ∧ quotedLine ≠ [] ∧
      ¬ Bytes.utf8Mark <+: quotedLine ∧
      ∃ record, records ⟨Bytes.comma, true⟩ blockSize quotedLine = [record] ∧
        record.fields = quotedRow ∧
        countUnquoted Bytes.comma quotedLine + 1 = record.fields.length := by
  have hrow : SpellsRow Bytes.comma quotedRow quotedLine :=
    .cons (.quoted (Utf8.ofString "\",\"")) <| .cons (.plain rfl) <| .cons (.quoted []) <|
      .last (.plain rfl)
  have hne : quotedLine ≠ [] := by decide
  have hmark : ¬ Bytes.utf8Mark <+: quotedLine := by decide
  exact ⟨hrow, hne, hmark, countUnquoted_add_one (by decide) hrow hne hmark blockSize⟩

/-! ## A guess for a table -/

variable {delimiter : UInt8} {header : List Bytes} {rows : List (List Bytes)}

theorem sampledLines_encodeRecords (htable : Tabular delimiter header rows)
    (hdelimiter : Separates delimiter) (hascii : delimiter < 0x80)
    (hfits : (encodeRecord delimiter header).length ≤ sampleSize) :
    sampledLines ((encodeRecords delimiter (header :: rows)).take sampleSize) 0 ≠ [] ∧
      ∀ line ∈ sampledLines ((encodeRecords delimiter (header :: rows)).take sampleSize) 0,
        ∃ record ∈ header :: rows, line = encodeFields delimiter record := by
  have hline : ∀ record ∈ header :: rows,
      2 ≤ record.length ∧ Text.IsLine (encodeFields delimiter record) :=
    fun _ hrecord => htable.isLine hdelimiter hascii hrecord
  obtain ⟨whole, part, hcut⟩ := exists_cut hline sampleSize
  have hwhole := fun record hrecord => hline record (hcut.start.subset hrecord)
  have hfull : ((encodeRecords delimiter (header :: rows)).take sampleSize).length < sampleSize →
      Text.lines (Utf8.decodeLossy part) = [] := by
    intro hshort
    rw [List.length_take] at hshort
    rw [hcut.part_eq_nil (by omega)]
    rfl
  have hshown : Utf8.decodeLossy (encodeFields delimiter header) ∈
      (whole.map fun record => Utf8.decodeLossy (encodeFields delimiter record)).filter
        fun line => !Text.isBlankText line := by
    rw [List.mem_filter, htable.shown]
    exact ⟨List.mem_map_of_mem (hcut.header_mem header rfl hfits), rfl⟩
  have hlines : Text.lines (Utf8.decodeLossy
      ((encodeRecords delimiter (header :: rows)).take sampleSize)) =
        whole.map (fun record => Utf8.decodeLossy (encodeFields delimiter record)) ++
          Text.lines (Utf8.decodeLossy part) := by
    rw [hcut.take_eq, lines_encodeRecords_append hwhole]
  have hpartial := Text.length_lines_le (Utf8.newline_not_mem_decodeLossy hcut.unbroken)
  obtain ⟨n, hn, hsampled⟩ :=
    exists_sampledLines hlines hpartial hfull (List.ne_nil_of_mem hshown)
  rw [hsampled]
  constructor
  · simpa [Nat.pos_iff_ne_zero.mp hn] using List.ne_nil_of_mem hshown
  · intro line hmem
    obtain ⟨text, htext, rfl⟩ := List.mem_map.mp hmem
    obtain ⟨record, hrecord, rfl⟩ :=
      List.mem_map.mp (List.mem_of_mem_filter (List.mem_of_mem_take htext))
    exact ⟨record, hcut.start.subset hrecord, (hwhole record hrecord).2.valid.encode_decodeLossy⟩

/-- The delimiter of a table that a writer has written is guessed from the start of the file. The
header line has to end in it, as it does if the file is shorter or if its first two lines end
there. -/
theorem sniff_written (hdelimiter : delimiter ∈ candidates)
    (htable : Tabular delimiter header rows)
    (hfits : (encodeRecord delimiter header).length ≤ sampleSize) :
    ∃ writer, (Writer.new delimiter).putAll (header :: rows) = (none, writer) ∧
      sniff (writer.written.take sampleSize) 0 = delimiter := by
  obtain ⟨hseparates, hascii⟩ := separates_of_mem_candidates hdelimiter
  have hwidth : ∀ record ∈ [] ++ header :: rows, record.length = header.length :=
    fun record hrecord => htable.length_eq (by simpa using hrecord)
  obtain ⟨writer, hput, hholds⟩ := (Writer.holds_new delimiter).putAll hwidth
  refine ⟨writer, hput, ?_⟩
  rw [hholds.written_eq, List.nil_append]
  obtain ⟨hne, hlines⟩ := sampledLines_encodeRecords htable hseparates hascii hfits
  have hseveral := htable.several
  refine sniff_of_counts hdelimiter (by omega : 0 < header.length - 1) hne ?_
  intro line hline candidate hcandidate
  obtain ⟨record, hrecord, rfl⟩ := hlines line hline
  exact htable.counts hseparates.ne_quote hcandidate hrecord

/-- A line of this table is blank, two of its fields have a tab or a carriage return in quotes, and
commas are only in quotes. -/
def tabHeader : List Bytes := ["a, \"b\"", "größe"].map Utf8.ofString

def tabRows : List (List Bytes) :=
  [["", ""], ["1\t2", "3"], ["x", "y\r"]].map fun row => row.map Utf8.ofString

theorem sniff_written_tabs :
    ∃ writer, (Writer.new 0x09).putAll (tabHeader :: tabRows) = (none, writer) ∧
      writer.written =
        Utf8.ofString "\"a, \"\"b\"\"\"\tgröße\n\t\n\"1\t2\"\t3\nx\t\"y\r\"\n" ∧
      sniff (writer.written.take sampleSize) 0 = 0x09 := by
  have htable : Tabular 0x09 tabHeader tabRows :=
    ⟨by decide, by decide, by decide, by decide⟩
  obtain ⟨writer, hput, hsniff⟩ :=
    sniff_written (by decide : (0x09 : UInt8) ∈ candidates) htable (by decide)
  have hwritten : ((Writer.new 0x09).putAll (tabHeader :: tabRows)).2.written =
      Utf8.ofString "\"a, \"\"b\"\"\"\tgröße\n\t\n\"1\t2\"\t3\nx\t\"y\r\"\n" := by
    decide
  rw [hput] at hwritten
  exact ⟨writer, hput, hwritten, hsniff⟩

end Delimiter

end TidyCsv
