import TidyCsv.Proofs.Csv.Marked
import TidyCsv.Proofs.Csv.RoundTrip
import TidyCsv.Proofs.Engine.BuiltIn
import TidyCsv.Proofs.Header.Name
import TidyCsv.Proofs.Text.Utf8
import TidyCsv.Run.FinalForm

/-! # The final form of what a pass wrote

What a pass wrote is read back with the names and rows that went into it, all of one width, so that
it can be written anew with any delimiter, and read back from there. -/

namespace TidyCsv.FinalForm

open Pass

/-- The names that a header is left with. -/
def finalNames (normalize : Bool) (names : List String) : List String :=
  if normalize then Header.normalizeAll names else names

@[simp] theorem length_finalNames (normalize : Bool) (names : List String) :
    (finalNames normalize names).length = names.length := by
  cases normalize <;> simp [finalNames]

/-- No name opens with the mark of UTF-8. -/
def Unmarked (names : List String) : Prop :=
  ∀ name ∈ names.head?, name.toList.head? ≠ some '\uFEFF'

instance (names : List String) : Decidable (Unmarked names) :=
  inferInstanceAs (Decidable (∀ name ∈ names.head?, name.toList.head? ≠ some '\uFEFF'))

theorem unmarked_finalNames {normalize : Bool} {names : List String} (h : Unmarked names) :
    Unmarked (finalNames normalize names) := by
  cases normalize with
  | false => exact h
  | true =>
      cases names with
      | nil => exact h
      | cons name rest =>
          intro first hfirst hmark
          obtain rfl : Header.normalizeName name = first := by
            simpa [finalNames, Header.head?_normalizeAll] using hfirst
          have hmem : '\uFEFF' ∈ (Header.normalizeName name).toList := List.mem_of_mem_head? hmark
          have hnot : ¬ Header.IsNameChar '\uFEFF' := by decide +kernel
          exact hnot (Header.isNameChar_of_mem_normalizeName hmem)

theorem namesOf_headerRecord {header : Csv.Record} {names : List String}
    (h : header.fields = headerRecord names) : namesOf header = names := by
  simp [namesOf, h, headerRecord, Utf8.ofString, Function.comp_def]

variable {delimiter : UInt8} {names : List String} {rows : List (List Bytes)}

/-- A document with a header that does not open with the mark, and rows as wide as it, is read as
it was written. -/
theorem fileRecords_of_unmarked (hd : Csv.Separates delimiter) (hascii : delimiter < 0x80)
    (hnames : names ≠ []) (hmark : Unmarked names)
    (hrows : ∀ row ∈ rows, row.length = names.length) :
    (Csv.fileRecords ⟨delimiter, true⟩
      (Csv.encodeRecords delimiter (headerRecord names :: rows))).map Csv.Record.fields =
      headerRecord names :: rows := by
  have hwidth : names.length ≠ 0 := by simpa using hnames
  apply Csv.fileRecords_encodeRecords hd hascii
  · intro record hrecord
    rcases List.mem_cons.mp hrecord with rfl | hrow
    · simpa [headerRecord] using hnames
    · intro hempty
      have hlength := hrows record hrow
      simp [hempty] at hlength
      omega
  · intro record hrecord field hfield hprefix
    obtain rfl : headerRecord names = record := by simpa using hrecord
    obtain ⟨name, hname, rfl⟩ : ∃ name ∈ names.head?, Utf8.ofString name = field := by
      simpa [headerRecord] using hfield
    exact hmark name hname (Utf8.head?_of_utf8Mark_isPrefix hprefix)

/-- Writing such a document anew succeeds, and counts its rows and columns. -/
theorem write_of_unmarked (hnames : names ≠ []) (hmark : Unmarked names)
    (hrows : ∀ row ∈ rows, row.length = names.length) (normalize : Bool) (delimiter : UInt8) :
    write (Csv.encodeRecords Bytes.comma (headerRecord names :: rows)) delimiter normalize =
      (.ok ⟨rows.length, names.length, countRenamed names (finalNames normalize names)⟩,
        Csv.encodeRecords delimiter (headerRecord (finalNames normalize names) :: rows)) := by
  have hread := fileRecords_of_unmarked Csv.separates_comma (by decide) hnames hmark hrows
  obtain ⟨header, rest, hrecords, hheader, hrest⟩ := List.map_eq_cons_iff.mp hread
  have hbefore : namesOf header = names := namesOf_headerRecord hheader
  have hwidth : ∀ fields ∈ [] ++ headerRecord (finalNames normalize names) :: rows,
      fields.length = names.length := by
    intro fields hmem
    rcases List.mem_cons.mp hmem with rfl | hrow
    · simp [headerRecord]
    · exact hrows fields hrow
  obtain ⟨last, hput, hlast⟩ := (Csv.Writer.holds_new delimiter).putAll hwidth
  have hput' : (Csv.Writer.new delimiter).putAll
      ((if normalize then Header.normalizeAll names else names).map Utf8.ofString ::
        rest.map Csv.Record.fields) = (none, last) := by
    rw [hrest]
    exact hput
  have hcount : rest.length = rows.length := by rw [← hrest, List.length_map]
  have hstandard : Csv.fileRecords .standard
      (Csv.encodeRecords Bytes.comma (headerRecord names :: rows)) = header :: rest := hrecords
  simp only [write, hstandard, hbefore, hput', hlast.written_eq, hcount]
  rfl

theorem write_of_width {content : Bytes} {width : Nat}
    (h : ∀ record ∈ Csv.fileRecords .standard content, record.fields.length = width)
    (normalize : Bool) (delimiter : UInt8) :
    ∃ stats written, write content delimiter normalize = (.ok stats, written) := by
  unfold write
  cases hrecords : Csv.fileRecords .standard content with
  | nil => exact ⟨_, _, rfl⟩
  | cons header rest =>
      rw [hrecords] at h
      obtain ⟨hheader, hrest⟩ := List.forall_mem_cons.mp h
      have hnames : ((finalNames normalize (namesOf header)).map Utf8.ofString).length = width := by
        simpa [namesOf] using hheader
      have hwidth : ∀ fields ∈ [] ++ (finalNames normalize (namesOf header)).map Utf8.ofString ::
          rest.map Csv.Record.fields, fields.length = width := by
        rw [List.nil_append, List.forall_mem_cons]
        exact ⟨hnames, by simpa using hrest⟩
      obtain ⟨last, hput, -⟩ := (Csv.Writer.holds_new delimiter).putAll hwidth
      have hput' : (Csv.Writer.new delimiter).putAll
          ((if normalize then Header.normalizeAll (namesOf header) else namesOf header).map
            Utf8.ofString :: rest.map Csv.Record.fields) = (none, last) := hput
      exact ⟨_, _, by simp only [hput']; rfl⟩

/-- What a pass wrote can be written anew, even if its first name opens with the mark. -/
theorem write_ok (hnames : names ≠ []) (hrows : ∀ row ∈ rows, row.length = names.length)
    (normalize : Bool) (delimiter : UInt8) :
    ∃ stats written,
      write (Csv.encodeRecords Bytes.comma (headerRecord names :: rows)) delimiter normalize =
        (.ok stats, written) := by
  have hwidth : names.length ≠ 0 := by simpa using hnames
  have hrecords : ∀ record ∈ Csv.fileRecords .standard
      (Csv.encodeRecords Bytes.comma (headerRecord names :: rows)),
      record.fields.length = names.length := by
    intro record
    refine Csv.length_of_mem_fileRecords Csv.separates_comma (by decide) hwidth ?_
    exact List.forall_mem_cons.mpr ⟨by simp [headerRecord], hrows⟩
  exact write_of_width hrecords normalize delimiter

/-- A document that the built-in engine has written, and that does not open with the mark, is
written anew with as many rows and columns as the engine reported; what is written reads as the
final names of the columns and all rows that conform, unchanged and in their order. -/
theorem write_validated {network : Network} {fs after : FileSystem} {source : Source}
    {options : ReadOptions} {output reject : Path} {report : EngineReport}
    (h : BuiltIn.validate network fs source options output reject = (.ok report, after))
    (hdiffer : output.location fs.home ≠ reject.location fs.home)
    {value : String} {delimiter : UInt8} (hdelimiter : Delimiter.parse value = .ok delimiter)
    (normalize : Bool) :
    ∃ (dialect : Csv.Dialect) (names : List String) (rows : List Csv.Record) (staged : Bytes),
      BuiltIn.ReadsAs network fs source options dialect names rows ∧
      dialect.quoting = report.fallback.isNone ∧ after.read output = .ok staged ∧
      (Unmarked names → ∃ stats written,
        write staged delimiter normalize = (.ok stats, written) ∧
        stats.rows = report.conforming ∧ stats.columns = report.columns ∧
        (Csv.fileRecords ⟨delimiter, true⟩ written).map Csv.Record.fields =
          headerRecord (finalNames normalize names) ::
            kept (schemaOf options names rows) rows) := by
  obtain ⟨content, names, rows, hload, hshows, hnames, rfl, houtput, -⟩ :=
    BuiltIn.validate_shows h hdiffer
  obtain ⟨hd, hascii⟩ := Csv.separates_of_parse hdelimiter
  refine ⟨_, names, rows, _, .of_shows hload hshows, ?_, houtput, fun hmark => ?_⟩
  · cases hquoting : (BuiltIn.dialectOf options content).quoting <;>
      simp [BuiltIn.reportAs, BuiltIn.reportOf]
  · have hrows : ∀ row ∈ kept (schemaOf options names rows) rows, row.length = names.length := by
      intro row hrow
      rw [length_of_mem_kept hrow, width_schemaOf]
    have hfinal : finalNames normalize names ≠ [] := by
      rw [← List.length_pos_iff, length_finalNames]
      exact List.length_pos_iff.mpr hnames
    refine ⟨_, _, write_of_unmarked hnames hmark hrows normalize delimiter, rfl, rfl, ?_⟩
    exact fileRecords_of_unmarked hd hascii hfinal (unmarked_finalNames hmark)
      (by simpa using hrows)

/-! ## A document with a rejected row -/

/-- A header, two rows with a field that has to be quoted, and a row that is too short. -/
def sampleContent : Bytes :=
  Utf8.ofString "First Name,Note\n1,\"a|b\"\nx\n2,\"two\nlines\"\n"

/-- A file system with one document in it. -/
def sampleFiles : FileSystem := (FileSystem.empty []).put ["in.csv"] (.file sampleContent)

theorem sample_readsAs :
    BuiltIn.ReadsAs Network.unreachable sampleFiles (.file ⟨"in.csv"⟩) {} .standard
      ["First Name", "Note"] (Pass.recordsOf {} .standard sampleContent).tail := by
  refine ⟨.file ⟨"in.csv"⟩, sampleContent, (Pass.recordsOf {} .standard sampleContent).headI, ?_, ?_,
    ?_, ?_, ?_⟩
  all_goals decide

/-- What the engine leaves of the document. -/
def sampleValidated : Except EngineFault EngineReport × FileSystem :=
  BuiltIn.validate Network.unreachable sampleFiles (.file ⟨"in.csv"⟩) {} ⟨"staged.csv"⟩
    ⟨"rejected.csv"⟩

/-- Written anew with bars between its fields, the document keeps both rows that conform. -/
theorem write_validated_with_bars :
    ∃ staged stats written, sampleValidated.1 = .ok ⟨2, 1, 2, none⟩ ∧
      (Path.mk "staged.csv").location [] ≠ (Path.mk "rejected.csv").location [] ∧
      Delimiter.parse "pipe" = .ok 0x7C ∧
      sampleValidated.2.read ⟨"staged.csv"⟩ = .ok staged ∧
      write staged 0x7C true = (.ok stats, written) ∧ stats.rows = 2 ∧ stats.columns = 2 ∧
      (Csv.fileRecords ⟨0x7C, true⟩ written).map Csv.Record.fields =
        headerRecord ["first_name", "note"] ::
          kept (schemaOf {} ["First Name", "Note"]
            (Pass.recordsOf {} .standard sampleContent).tail)
            (Pass.recordsOf {} .standard sampleContent).tail := by
  have hresult : sampleValidated.1 = .ok ⟨2, 1, 2, none⟩ := by decide +kernel
  have hvalidate : sampleValidated = (.ok ⟨2, 1, 2, none⟩, sampleValidated.2) := by
    rw [← hresult]
  have hdiffer : (Path.mk "staged.csv").location [] ≠ (Path.mk "rejected.csv").location [] := by
    decide
  have hdelimiter : Delimiter.parse "pipe" = .ok 0x7C := by decide
  obtain ⟨dialect, names, rows, staged, hread, hquoting, hstaged, hwritten⟩ :=
    write_validated hvalidate hdiffer hdelimiter true
  obtain ⟨-, rfl, rfl⟩ := hread.unique sample_readsAs hquoting
  have hmark : Unmarked ["First Name", "Note"] := by decide
  have hnames : finalNames true ["First Name", "Note"] = ["first_name", "note"] := by
    decide
  obtain ⟨stats, written, hwrite, hrows, hcolumns, hrecords⟩ := hwritten hmark
  rw [hnames] at hrecords
  exact ⟨staged, stats, written, hresult, hdiffer, hdelimiter, hstaged, hwrite, hrows,
    hcolumns, hrecords⟩

end TidyCsv.FinalForm
