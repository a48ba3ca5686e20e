import TidyCsv.Proofs.Csv.Delimiter
import TidyCsv.Proofs.Engine.Appraisal
import TidyCsv.Proofs.Engine.Lines

/-! # Documents with a preamble

Lines may be passed over before the header. A document is then read as if they were not there,
except that the lines of rejected rows are counted from the start of the source. Only a preamble
that ends one or two bytes before the end of a block of the reader is different: it cuts a byte
order mark behind it in two, and then the mark becomes a part of the header. -/

namespace TidyCsv

/-! ## Preambles -/

namespace Bytes

/-- So many whole lines. -/
inductive IsLines : Nat → Bytes → Prop
  | nil : IsLines 0 []
  | line {n : Nat} {line rest : Bytes} (hline : newline ∉ line) (hrest : IsLines n rest) :
      IsLines (n + 1) (line ++ newline :: rest)

theorem isLines_count {bytes : Bytes} (h : bytes = [] ∨ bytes.getLast? = some newline) :
    IsLines (bytes.count newline) bytes := by
  induction bytes with
  | nil => exact .nil
  | cons b rest ih =>
      have hend : rest = [] ∨ rest.getLast? = some newline := by
        cases rest with
        | nil => exact .inl rfl
        | cons c rest => simpa using h
      by_cases hb : b = newline
      · rw [hb, List.count_cons_self]
        exact .line List.not_mem_nil (ih hend)
      · rw [List.count_cons_of_ne hb]
        have hlines := ih hend
        generalize rest.count newline = n at hlines
        cases hlines with
        | nil => simp [hb] at h
        | line hline hrest =>
            exact .line (List.not_mem_cons_of_ne_of_not_mem (Ne.symm hb) hline) hrest

theorem afterLine_line {line : Bytes} (h : newline ∉ line) (rest : Bytes) :
    afterLine (line ++ newline :: rest) = rest := by
  induction line with
  | nil => simp [afterLine]
  | cons b line ih =>
      simp only [List.mem_cons, not_or] at h
      rw [List.cons_append, afterLine, if_neg (Ne.symm h.1), ih h.2]

theorem dropLines_succ (n : Nat) (bytes : Bytes) :
    dropLines (n + 1) bytes = dropLines n (afterLine bytes) := by
  cases bytes with
  | nil => cases n <;> rfl
  | cons b rest => rfl

variable {n : Nat} {preamble : Bytes}

theorem IsLines.dropLines_append (h : IsLines n preamble) (content : Bytes) :
    dropLines n (preamble ++ content) = content := by
  induction h with
  | nil => rfl
  | line hline _ ih =>
      rw [List.append_assoc, List.cons_append, dropLines_succ, afterLine_line hline, ih]

theorem IsLines.drop_lines (h : IsLines n preamble) (content : Bytes) :
    (Text.lines (Utf8.decodeLossy (preamble ++ content))).drop n =
      Text.lines (Utf8.decodeLossy content) := by
  induction h with
  | nil => rfl
  | line hline _ ih =>
      rw [List.append_assoc, List.cons_append, Utf8.decodeLossy_line,
        Text.lines_line (Utf8.newline_not_mem_decodeLossy hline), List.drop_succ_cons, ih]

end Bytes

theorem Delimiter.sniff_append {n : Nat} {preamble content : Bytes}
    (h : Bytes.IsLines n preamble) (hshort : (preamble ++ content).length < sampleSize) :
    sniff (preamble ++ content) n = sniff content 0 := by
  have hshort' : content.length < sampleSize := by
    rw [List.length_append] at hshort
    omega
  refine sniff_congr fun candidate _ => ?_
  rw [sampledLines_of_lt hshort, sampledLines_of_lt hshort', h.drop_lines, List.drop_zero]

namespace Csv

/-! ## Records further on -/

/-- A position so many bytes further on in the same line. -/
def Position.shift (n : Nat) (p : Position) : Position := { p with offset := p.offset + n }

def Record.shift (n : Nat) (record : Record) : Record :=
  { record with start := record.start.shift n }

def Scan.shift (n : Nat) (s : Scan) : Scan :=
  { s with
    here := s.here.shift n, start := s.start.shift n, records := s.records.map (Record.shift n) }

theorem Record.shift_zero : Record.shift 0 = id := rfl

theorem Scan.step_shift (dialect : Dialect) (n : Nat) (s : Scan) (b : UInt8) :
    (s.shift n).step dialect b = (s.step dialect b).shift n := by
  have hadvance : (s.here.shift n).advance b = (s.here.advance b).shift n := by
    simp [Position.shift, Position.advance, Nat.add_right_comm]
  unfold step
  dsimp only [shift]
  rw [hadvance]
  unfold openField readPlain
  cases s.place <;> dsimp only <;> split_ifs <;> rfl

theorem recordsFrom_shift (dialect : Dialect) (n : Nat) (start : Position) (bytes : Bytes) :
    recordsFrom dialect (start.shift n) bytes =
      (recordsFrom dialect start bytes).map (Record.shift n) := by
  have hfold : bytes.foldl (Scan.step dialect) (Scan.initial (start.shift n)) =
      (bytes.foldl (Scan.step dialect) (Scan.initial start)).shift n := by
    rw [show Scan.initial (start.shift n) = (Scan.initial start).shift n from rfl]
    exact List.foldl_hom (Scan.shift n) (Scan.step_shift dialect n)
  rw [recordsFrom, hfold, recordsFrom]
  unfold Scan.finish Scan.shift
  dsimp only
  split
  · rw [List.map_reverse]
  · simp [Scan.endRecord, Record.shift]

/-! ## Content behind a preamble -/

/-- A preamble leaves too little of a block of the reader for the mark that the content behind it
opens with. -/
def CutsMark (preamble content : Bytes) : Prop :=
  Bytes.utf8Mark <+: content ∧ bytesAtHand preamble.length < Bytes.utf8Mark.length

instance (preamble content : Bytes) : Decidable (CutsMark preamble content) :=
  inferInstanceAs (Decidable (_ ∧ _))

/-- What a content behind a preamble is read as. A mark that is cut in two is not dropped, as if
there was another one before it. -/
def behind (preamble content : Bytes) : Bytes :=
  if CutsMark preamble content then Bytes.utf8Mark ++ content else content

theorem utf8Mark_isPrefixOf_take {bytes : Bytes} {n : Nat} :
    Bytes.utf8Mark.isPrefixOf (bytes.take n) = true ↔
      Bytes.utf8Mark <+: bytes ∧ Bytes.utf8Mark.length ≤ n := by
  rw [List.isPrefixOf_iff_prefix, List.prefix_take_iff]

/-- The records of a content behind a preamble are those of what it is read as. -/
theorem fileRecords_behind (dialect : Dialect) (preamble content : Bytes) :
    ∃ n, fileRecords dialect (behind preamble content) =
      (records dialect (bytesAtHand preamble.length) content).map (Record.shift n) := by
  unfold fileRecords behind
  split
  · next hcut =>
      refine ⟨Bytes.utf8Mark.length, ?_⟩
      have hwhole : Bytes.utf8Mark.isPrefixOf
          ((Bytes.utf8Mark ++ content).take (bytesAtHand 0)) = true :=
        utf8Mark_isPrefixOf_take.mpr ⟨List.prefix_append _ _, by decide⟩
      have hnot : ¬ Bytes.utf8Mark.isPrefixOf (content.take (bytesAtHand preamble.length)) = true :=
        fun hmark => absurd (utf8Mark_isPrefixOf_take.mp hmark).2 (Nat.not_le_of_lt hcut.2)
      rw [records, if_pos hwhole, records, if_neg hnot, List.drop_left, ← recordsFrom_shift]
      rfl
  · next hcut =>
      have hsame : Bytes.utf8Mark.isPrefixOf (content.take (bytesAtHand 0)) = true ↔
          Bytes.utf8Mark.isPrefixOf (content.take (bytesAtHand preamble.length)) = true := by
        rw [utf8Mark_isPrefixOf_take, utf8Mark_isPrefixOf_take]
        constructor
        · exact fun hmark => ⟨hmark.1, Nat.not_lt.mp fun hfew => hcut ⟨hmark.1, hfew⟩⟩
        · exact fun hmark => ⟨hmark.1, by decide⟩
      refine ⟨0, ?_⟩
      rw [Record.shift_zero, List.map_id, records, records]
      simp only [hsame]

end Csv

namespace Pass

variable {options : ReadOptions} {n : Nat} {preamble content : Bytes}

variable (options content) in
/-- Behind a preamble a document has the records that it has without it, on the same lines of the
document itself. -/
theorem recordsOf_append (h : Bytes.IsLines n preamble) (dialect : Csv.Dialect) :
    ∃ further, recordsOf { options with skipRows := 0 } dialect (Csv.behind preamble content) =
      (recordsOf { options with skipRows := n } dialect (preamble ++ content)).map
        (Csv.Record.shift further) := by
  obtain ⟨further, hrecords⟩ := Csv.fileRecords_behind dialect preamble content
  refine ⟨further, ?_⟩
  simp only [recordsOf, h.dropLines_append, Bytes.dropLines, Nat.sub_self, List.length_append,
    Nat.add_sub_cancel]
  exact hrecords

/-! ## Lines further down -/

/-- Two records about a rejected row that differ in its line, which is `n` further down in the
second one. -/
def LaterBy (n : Nat) (record later : List Bytes) : Prop :=
  ∃ line rest, record = Utf8.ofString (toString line) :: rest ∧
    later = Utf8.ofString (toString (line + n)) :: rest

theorem laterBy_rejectRecord (n : Nat) (delimiter : UInt8) (row : Csv.Record)
    (rejection : Rejection) :
    LaterBy n (rejectRecord { options with skipRows := 0 } delimiter row rejection)
      (rejectRecord { options with skipRows := n } delimiter row rejection) :=
  ⟨row.start.line, _, rfl, rfl⟩

variable (options) in
theorem forall₂_laterBy_reports (n : Nat) (delimiter : UInt8) (schema : Schema)
    (rows : List Csv.Record) :
    List.Forall₂ (LaterBy n) (reports { options with skipRows := 0 } delimiter schema rows)
      (reports { options with skipRows := n } delimiter schema rows) := by
  induction rows with
  | nil => exact .nil
  | cons row rest ih =>
      cases hreject : schema.reject? row with
      | none => simpa [reports, hreject] using ih
      | some rejection =>
          simpa [reports, hreject] using
            List.Forall₂.cons (laterBy_rejectRecord n delimiter row rejection) ih

/-- Two pairs of files that differ in the lines of rejected rows only. -/
structure Files.LaterBy (n : Nat) (files later : Files) : Prop where
  output : later.output = files.output
  reject : ∃ records others, List.Forall₂ (Pass.LaterBy n) records others ∧
    files.reject = Csv.encodeRecords Bytes.comma (rejectHeader :: records) ∧
    later.reject = Csv.encodeRecords Bytes.comma (rejectHeader :: others)

section Shift

variable (further : Nat) (schema : Schema) (rows : List Csv.Record)

@[simp] theorem schemaOf_map_shift (names : List String) :
    schemaOf options names (rows.map (Csv.Record.shift further)) = schemaOf options names rows := by
  have htext : Csv.Record.text? ∘ Csv.Record.shift further = Csv.Record.text? := rfl
  simp only [schemaOf, ← List.map_take, List.filterMap_map, htext]

variable (options) in
theorem schemaOf_skipRows (n : Nat) (names : List String) :
    schemaOf { options with skipRows := n } names rows = schemaOf options names rows := rfl

@[simp] theorem kept_map_shift :
    kept schema (rows.map (Csv.Record.shift further)) = kept schema rows := by
  simp only [kept, List.filter_map, List.map_map]
  rfl

@[simp] theorem reports_map_shift (delimiter : UInt8) :
    reports options delimiter schema (rows.map (Csv.Record.shift further)) =
      reports options delimiter schema rows := by
  simp only [reports, List.filterMap_map]
  rfl

end Shift

variable (options content) in
/-- A pass over a document behind a preamble comes to the same as one over the document. -/
theorem run_append (h : Bytes.IsLines n preamble) (dialect : Csv.Dialect) :
    (run { options with skipRows := n } dialect (preamble ++ content)).1 =
        (run { options with skipRows := 0 } dialect (Csv.behind preamble content)).1 ∧
      Files.LaterBy n
        (run { options with skipRows := 0 } dialect (Csv.behind preamble content)).2
        (run { options with skipRows := n } dialect (preamble ++ content)).2 := by
  have hfailed : Files.LaterBy n ⟨[], emptyReject⟩ ⟨[], emptyReject⟩ :=
    ⟨rfl, [], [], .nil, rfl, rfl⟩
  obtain ⟨further, hbehind⟩ := recordsOf_append options content h dialect
  cases hrecords : recordsOf { options with skipRows := n } dialect (preamble ++ content) with
  | nil =>
      rw [hrecords, List.map_nil] at hbehind
      rw [run_of_noHeader hrecords, run_of_noHeader hbehind]
      exact ⟨rfl, hfailed⟩
  | cons first rows =>
      rw [hrecords, List.map_cons] at hbehind
      cases hnames : columnNames? first with
      | none =>
          rw [run_of_headerNotUtf8 hrecords hnames, run_of_headerNotUtf8 hbehind hnames]
          exact ⟨rfl, hfailed⟩
      | some names =>
          have hreports := forall₂_laterBy_reports options n dialect.delimiter
            (schemaOf options names rows) rows
          rw [run_of_names hrecords hnames, run_of_names hbehind hnames]
          simp only [schemaOf_map_shift, kept_map_shift, reports_map_shift,
            schemaOf_skipRows options]
          exact ⟨by rw [hreports.length_eq], rfl, _, _, hreports, rfl, rfl⟩

/-- The line that is reported for a row is no greater than the size of the source, however many
lines are to be passed over. -/
theorem reportedLine_le {dialect : Csv.Dialect} {row : Csv.Record}
    (hrow : row ∈ recordsOf options dialect content) :
    reportedLine options row ≤ content.length := by
  obtain ⟨index, hindex⟩ := List.mem_iff_getElem?.mp hrow
  obtain ⟨closed, gap, hbegins⟩ := exists_beginsAfter hindex
  obtain ⟨b, rest, -, hcontent⟩ := hbegins.split
  have hline := hbegins.reportedLine_eq hindex
  have hcount : closed.count Bytes.newline ≤ closed.length := List.count_le_length
  have hlength := congrArg List.length hcontent
  simp only [List.length_append, List.length_cons] at hlength
  omega

end Pass

namespace BuiltIn

open FileSystem

variable {network : Network} {fs : FileSystem} {source other : Source} {options : ReadOptions}
  {output reject : Path} {n : Nat} {preamble content : Bytes}

/-! ## Validations -/

theorem length_behind_le (preamble content : Bytes) :
    (Csv.behind preamble content).length ≤ (preamble ++ content).length := by
  unfold Csv.behind
  split
  · next hcut =>
      have hfew : 8192 - preamble.length % 8192 < 3 := hcut.2
      have hmark : Bytes.utf8Mark.length = 3 := rfl
      rw [List.length_append, List.length_append]
      omega
  · simp

theorem delimiterOf_append (h : Bytes.IsLines n preamble)
    (hguess : options.delimiter ≠ none ∨ (preamble ++ content).length < Delimiter.sampleSize) :
    delimiterOf { options with skipRows := n } (preamble ++ content) =
      delimiterOf { options with skipRows := 0 } (Csv.behind preamble content) := by
  cases hgiven : options.delimiter with
  | some delimiter => simp only [delimiterOf]
  | none =>
      have hshort := hguess.resolve_left (absurd hgiven)
      have hshort' := Nat.lt_of_le_of_lt (length_behind_le preamble content) hshort
      simp only [delimiterOf]
      rw [List.take_of_length_le (Nat.le_of_lt hshort),
        List.take_of_length_le (Nat.le_of_lt hshort'), Delimiter.sniff_append h hshort]
      unfold Csv.behind at hshort' ⊢
      split
      · next hcut =>
          obtain ⟨rest, rfl⟩ := hcut.1
          rw [if_pos hcut] at hshort'
          exact (Delimiter.sniff_utf8Mark_append hshort').symm
      · rfl

variable (options content) in
/-- What comes of a document behind a preamble comes of the document itself, but for lines. -/
theorem appraise_append (h : Bytes.IsLines n preamble)
    (hguess : options.delimiter ≠ none ∨ (preamble ++ content).length < Delimiter.sampleSize) :
    (appraise { options with skipRows := n } (preamble ++ content)).1 =
        (appraise { options with skipRows := 0 } (Csv.behind preamble content)).1 ∧
      Pass.Files.LaterBy n
        (appraise { options with skipRows := 0 } (Csv.behind preamble content)).2
        (appraise { options with skipRows := n } (preamble ++ content)).2 := by
  simp only [appraise, retry?, delimiterOf_append h hguess]
  generalize delimiterOf { options with skipRows := 0 } (Csv.behind preamble content) = delimiter
  obtain ⟨hstrict, hfiles⟩ := Pass.run_append options content h ⟨delimiter, true⟩
  obtain ⟨hrelaxed, hothers⟩ := Pass.run_append options content h ⟨delimiter, false⟩
  revert hstrict hfiles hrelaxed hothers
  rcases Pass.run { options with skipRows := 0 } ⟨delimiter, true⟩ (Csv.behind preamble content)
    with ⟨strict, files⟩
  rcases Pass.run { options with skipRows := n } ⟨delimiter, true⟩ (preamble ++ content)
    with ⟨strict', files'⟩
  rcases Pass.run { options with skipRows := 0 } ⟨delimiter, false⟩ (Csv.behind preamble content)
    with ⟨relaxed, others⟩
  rcases Pass.run { options with skipRows := n } ⟨delimiter, false⟩ (preamble ++ content)
    with ⟨relaxed', others'⟩
  rintro rfl hfiles rfl hothers
  dsimp only at hfiles hothers ⊢
  cases strict' with
  | error fault => exact ⟨rfl, hfiles⟩
  | ok strict =>
      by_cases hmore : strict.conforming < strict.rejected
      · cases relaxed' with
        | error fault => simpa [hmore] using hfiles
        | ok relaxed =>
            by_cases hfewer : relaxed.rejected < strict.rejected
            · simpa [hmore, hfewer] using hothers
            · simpa [hmore, hfewer] using hfiles
      · simpa [hmore] using hfiles

/-- Two validations that come to the same, but for the lines of rejected rows, which are `n` further
down in the second one. -/
structure LaterBy (n : Nat) (output reject : Path)
    (plain later : Except String EngineReport × FileSystem) : Prop where
  result : later.1 = plain.1
  output : ∃ staged, plain.2.read output = .ok staged ∧ later.2.read output = .ok staged
  reject : ∃ records others, List.Forall₂ (Pass.LaterBy n) records others ∧
    plain.2.read reject =
      .ok (Csv.encodeRecords Bytes.comma (Pass.rejectHeader :: records)) ∧
    later.2.read reject = .ok (Csv.encodeRecords Bytes.comma (Pass.rejectHeader :: others))

section Sources

variable (hend : preamble = [] ∨ preamble.getLast? = some Bytes.newline)
  (hload : Loads network fs source (preamble ++ content))
  (hother : Loads network fs other (Csv.behind preamble content))

include hend hload hother in
/-- With room for both files, they and the report are the same, but for lines. -/
theorem laterBy_of_hasRoom
    (hguess : options.delimiter ≠ none ∨ (preamble ++ content).length < Delimiter.sampleSize)
    (hapart : Apart fs.home source (output.location fs.home) (reject.location fs.home))
    (hapart' : Apart fs.home other (output.location fs.home) (reject.location fs.home))
    (hdiffer : output.location fs.home ≠ reject.location fs.home)
    (hroom : fs.HasRoom output ∧ fs.HasRoom reject) :
    LaterBy (preamble.count Bytes.newline) output reject
      ((Engine.builtIn network).validate fs other { options with skipRows := 0 } output reject)
      ((Engine.builtIn network).validate fs source
        { options with skipRows := preamble.count Bytes.newline } output reject) := by
  have hlater := validate_of_hasRoom { options with skipRows := preamble.count Bytes.newline } hload
    hroom.1 hroom.2 hapart
  have hplain := validate_of_hasRoom { options with skipRows := 0 } hother hroom.1 hroom.2 hapart'
  obtain ⟨hresult, hstaged, records, others, hrecords, hreject, hreject'⟩ :=
    appraise_append options content (Bytes.isLines_count hend) hguess
  have hread := fun files => read_putBoth hroom.1 hroom.2 hdiffer files
  refine ⟨?_, ⟨(appraise { options with skipRows := 0 } (Csv.behind preamble content)).2.output,
    ?_, ?_⟩, records, others, hrecords, ?_, ?_⟩
  · simp only [Engine.builtIn, hlater, hplain, hresult]
  · simp only [Engine.builtIn, hplain, (hread _).1]
  · simp only [Engine.builtIn, hlater, (hread _).1, hstaged]
  · simp only [Engine.builtIn, hplain, (hread _).2, hreject]
  · simp only [Engine.builtIn, hlater, (hread _).2, hreject']

end Sources

theorem appraise_of_dropLines_eq_nil (h : Bytes.dropLines options.skipRows content = []) :
    (appraise options content).1 = .error .noHeader := by
  have hrecords (dialect : Csv.Dialect) : Pass.recordsOf options dialect content = [] := by
    simp [Pass.recordsOf, h, Csv.records, Bytes.utf8Mark, Csv.recordsFrom, Csv.Scan.finish,
      Csv.Scan.initial]
  simp only [appraise, Pass.run_of_noHeader (hrecords _)]

variable (options) in
/-- Passing over the lines of a preamble is as good as leaving them out, but for the lines of
rejected rows; only a mark that the preamble cuts in two is read as if it stood there twice. And no
line that is reported is greater than the size of the source: where nothing is left for a header,
the validation fails. -/
theorem validate_append (hend : preamble = [] ∨ preamble.getLast? = some Bytes.newline)
    (hguess : options.delimiter ≠ none ∨ (preamble ++ content).length < Delimiter.sampleSize)
    (hload : Loads network fs source (preamble ++ content))
    (hother : Loads network fs other (Csv.behind preamble content))
    (hapart : Apart fs.home source (output.location fs.home) (reject.location fs.home))
    (hapart' : Apart fs.home other (output.location fs.home) (reject.location fs.home))
    (hdiffer : output.location fs.home ≠ reject.location fs.home) :
    (fs.HasRoom output ∧ fs.HasRoom reject →
      LaterBy (preamble.count Bytes.newline) output reject
        ((Engine.builtIn network).validate fs other { options with skipRows := 0 } output reject)
        ((Engine.builtIn network).validate fs source
          { options with skipRows := preamble.count Bytes.newline } output reject)) ∧
      (¬ (fs.HasRoom output ∧ fs.HasRoom reject) →
        (Engine.builtIn network).validate fs source
            { options with skipRows := preamble.count Bytes.newline } output reject =
          (Engine.builtIn network).validate fs other { options with skipRows := 0 } output
            reject) ∧
      ∀ skip, (fs.HasRoom output ∧ fs.HasRoom reject →
          Bytes.dropLines skip (preamble ++ content) = [] →
          ((Engine.builtIn network).validate fs source { options with skipRows := skip } output
            reject).1 = .error (PassFault.message .noHeader)) ∧
        ∀ dialect row,
          row ∈ Pass.recordsOf { options with skipRows := skip } dialect (preamble ++ content) →
          Pass.reportedLine { options with skipRows := skip } row ≤
            (preamble ++ content).length := by
  refine ⟨laterBy_of_hasRoom hend hload hother hguess hapart hapart' hdiffer, fun hroom => ?_,
    fun skip => ⟨fun hroom hempty => ?_, fun dialect row hrow => Pass.reportedLine_le hrow⟩⟩
  · have hsame := validate_eq_of_not_hasRoom hload hother hroom
      { options with skipRows := preamble.count Bytes.newline } { options with skipRows := 0 }
    simp only [Engine.builtIn, hsame]
  · have hfault : (appraise { options with skipRows := skip } (preamble ++ content)).1 =
        .error .noHeader := appraise_of_dropLines_eq_nil hempty
    have hvalidate := validate_of_hasRoom { options with skipRows := skip } hload hroom.1 hroom.2
      hapart
    have hresult : (validate network fs source { options with skipRows := skip } output reject).1 =
        .error (.pass .noHeader) := by
      rw [hvalidate, hfault]
      rfl
    exact congrArg (Except.mapError EngineFault.message) hresult

/-! ## A mark that is cut in two -/

/-- A line that leaves two bytes of the first block of the reader. -/
def longLine : Bytes := List.replicate 8189 0x78 ++ [Bytes.newline]

def cutContent : Bytes := Bytes.utf8Mark ++ Utf8.ofString "a,b\n1,2\n"

/-- A file system with a content behind the line, and with what it is read as. -/
def cutFiles : FileSystem :=
  ((FileSystem.empty []).put ["in.csv"] (.file (longLine ++ cutContent))).put ["read.csv"]
    (.file (Bytes.utf8Mark ++ cutContent))

theorem cutsMark_longLine : Csv.CutsMark longLine cutContent := by
  refine ⟨List.prefix_append _ _, ?_⟩
  rw [longLine, List.length_append, List.length_replicate]
  decide

theorem read_cutFiles : cutFiles.read ⟨"in.csv"⟩ = .ok (longLine ++ cutContent) ∧
    cutFiles.read ⟨"read.csv"⟩ = .ok (Bytes.utf8Mark ++ cutContent) := by
  constructor <;> rfl

def cutOptions : ReadOptions := { delimiter := some Bytes.comma }

/-- What the engine leaves of the content behind the line, which is passed over. -/
def cutValidated : Except String EngineReport × FileSystem :=
  (Engine.builtIn .unreachable).validate cutFiles (.file ⟨"in.csv"⟩)
    { cutOptions with skipRows := 1 } ⟨"out.csv"⟩ ⟨"rejected.csv"⟩

/-- What the engine leaves of what the content is read as. -/
def wholeValidated : Except String EngineReport × FileSystem :=
  (Engine.builtIn .unreachable).validate cutFiles (.file ⟨"read.csv"⟩)
    { cutOptions with skipRows := 0 } ⟨"out.csv"⟩ ⟨"rejected.csv"⟩

/-- The name of the first column begins with the mark. -/
theorem validate_append_cut :
    (longLine = [] ∨ longLine.getLast? = some Bytes.newline) ∧
      longLine.count Bytes.newline = 1 ∧
      Loads .unreachable cutFiles (.file ⟨"in.csv"⟩) (longLine ++ cutContent) ∧
      Loads .unreachable cutFiles (.file ⟨"read.csv"⟩) (Csv.behind longLine cutContent) ∧
      cutValidated.1 = .ok ⟨1, 0, 2, none⟩ ∧
      cutValidated.2.read ⟨"out.csv"⟩ = .ok (Utf8.ofString "\uFEFFa,b\n1,2\n") := by
  have hend : longLine.getLast? = some Bytes.newline := List.getLast?_concat
  have hcount : longLine.count Bytes.newline = 1 := by
    rw [longLine, List.count_append, List.count_replicate]
    decide
  have hbehind : Csv.behind longLine cutContent = Bytes.utf8Mark ++ cutContent :=
    if_pos cutsMark_longLine
  have hload : Loads .unreachable cutFiles (.file ⟨"in.csv"⟩) (longLine ++ cutContent) :=
    loads_file_iff.mpr read_cutFiles.1
  have hother : Loads .unreachable cutFiles (.file ⟨"read.csv"⟩)
      (Csv.behind longLine cutContent) := by
    rw [hbehind]
    exact loads_file_iff.mpr read_cutFiles.2
  have hdiffer : (Path.mk "out.csv").location cutFiles.home ≠
      (Path.mk "rejected.csv").location cutFiles.home := by decide
  have hapart : Apart cutFiles.home (.file ⟨"in.csv"⟩) ((Path.mk "out.csv").location cutFiles.home)
      ((Path.mk "rejected.csv").location cutFiles.home) := apart_file_iff.mpr (by decide)
  have hapart' : Apart cutFiles.home (.file ⟨"read.csv"⟩)
      ((Path.mk "out.csv").location cutFiles.home)
      ((Path.mk "rejected.csv").location cutFiles.home) := apart_file_iff.mpr (by decide)
  have hroom : cutFiles.HasRoom ⟨"out.csv"⟩ ∧ cutFiles.HasRoom ⟨"rejected.csv"⟩ := by
    decide
  have hlater : LaterBy 1 ⟨"out.csv"⟩ ⟨"rejected.csv"⟩ wholeValidated cutValidated := by
    have happend := (validate_append cutOptions (.inr hend) (.inl (by decide)) hload hother hapart
      hapart' hdiffer).1 hroom
    rw [hcount] at happend
    -- both sides have to be the same terms, or else they are evaluated
    unfold wholeValidated cutValidated
    dsimp only
    exact happend
  obtain ⟨hresult, ⟨staged, hstaged, houtput⟩, -⟩ := hlater
  have hwhole : wholeValidated.1 = .ok ⟨1, 0, 2, none⟩ ∧
      wholeValidated.2.read ⟨"out.csv"⟩ = .ok (Utf8.ofString "\uFEFFa,b\n1,2\n") := by
    decide +kernel
  have hsame : staged = Utf8.ofString "\uFEFFa,b\n1,2\n" :=
    Except.ok.inj (hstaged.symm.trans hwhole.2)
  rw [hwhole.1] at hresult
  rw [hsame] at houtput
  exact ⟨.inr hend, hcount, hload, hother, hresult, houtput⟩

end BuiltIn

end TidyCsv
