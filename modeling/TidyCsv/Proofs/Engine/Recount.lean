import TidyCsv.Proofs.Csv.Marked
import TidyCsv.Proofs.Engine.BuiltIn
import TidyCsv.Proofs.Text.Utf8

/-! # Counting what was staged

The counts of a report are kept while the rows are written. Reading the file that was written gives
the same counts, unless nothing but the mark was in the header: then the header is not read, and the
first row is taken for it. -/

namespace TidyCsv

open FileSystem

/-! ## Counting the records of a file -/

namespace BuiltIn

variable {fs : FileSystem} {path : Path} {content : Bytes}

theorem rowCount_of_read (network : Network) (h : fs.read path = .ok content) :
    (Engine.builtIn network).rowCount fs path = .ok (Csv.countRecords content - 1) := by
  have hopen := open?_eq_ok_file_iff.mpr (read_eq_ok_iff.mp h)
  simp [Engine.builtIn, rowCount, countable, hopen, Entry.read, Except.map, Except.mapError]

theorem columnCount_of_read (network : Network) (h : fs.read path = .ok content) :
    (Engine.builtIn network).columnCount fs path = .ok (Csv.countColumns content) := by
  have hopen := open?_eq_ok_file_iff.mpr (read_eq_ok_iff.mp h)
  simp [Engine.builtIn, columnCount, countable, hopen, Entry.read, Except.map, Except.mapError]

end BuiltIn

namespace Csv

theorem countRecords_of_fields {content : Bytes} {records : List (List Bytes)}
    (h : (fileRecords .standard content).map Record.fields = records) :
    countRecords content = records.length := by
  rw [countRecords, ← h, List.length_map]

theorem countColumns_of_fields {content : Bytes} {records : List (List Bytes)}
    (h : (fileRecords .standard content).map Record.fields = records) :
    countColumns content = (records.head?.map List.length).getD 0 := by
  rw [countColumns, ← h]
  cases fileRecords .standard content <;> rfl

end Csv

/-! ## The staged file -/

namespace Pass

variable {names : List String} {schema : Schema} {rows : List Csv.Record}

/-- A header is written as the mark alone if the mark is its only name. -/
theorem headerRecord_eq_utf8Mark_iff :
    headerRecord names = [Bytes.utf8Mark] ↔ names = ["\uFEFF"] := by
  constructor
  · intro h
    obtain ⟨name, rest, rfl, hname, hrest⟩ := List.map_eq_cons_iff.mp h
    obtain rfl : rest = [] := by simpa using hrest
    have hmark : Utf8.decode? Bytes.utf8Mark = some "\uFEFF".toList := by decide
    have hname' := Utf8.decode?_encode name.toList
    rw [show Utf8.encode name.toList = Bytes.utf8Mark from hname, hmark] at hname'
    rw [String.toList_inj.mp (Option.some.inj hname')]
  · rintro rfl
    decide

/-- The records that are read from a written header and the rows that are kept. -/
def readBack (names : List String) (kept : List (List Bytes)) : List (List Bytes) :=
  (if names = ["\uFEFF"] then [] else [Csv.withoutMark Bytes.comma (headerRecord names)]) ++ kept

theorem fileRecords_headerRecord (hnames : names ≠ []) (hwidth : schema.width = names.length) :
    (Csv.fileRecords .standard
      (Csv.encodeRecords Bytes.comma (headerRecord names :: kept schema rows))).map
        Csv.Record.fields = readBack names (kept schema rows) := by
  have hheader : headerRecord names ≠ [] := by simpa [headerRecord] using hnames
  have hrows : ∀ row ∈ kept schema rows, row ≠ [] := by
    rintro row hrow rfl
    have hlength := length_of_mem_kept hrow
    rw [hwidth, List.length_nil, eq_comm, List.length_eq_zero_iff] at hlength
    exact hnames hlength
  simp only [readBack, ← headerRecord_eq_utf8Mark_iff]
  exact Csv.fileRecords_encodeRecords_cons Csv.separates_comma (by decide) hheader hrows

end Pass

namespace BuiltIn

/-- How a staged file is read back, as records and as counts, beside the report about it. -/
structure Recounted (network : Network) (fs : FileSystem) (output : Path) (report : EngineReport)
    (names : List String) (kept : List (List Bytes)) : Prop where
  conforming : report.conforming = kept.length
  columns : report.columns = names.length
  records : ∃ content, fs.read output = .ok content ∧
    (Csv.fileRecords .standard content).map Csv.Record.fields = Pass.readBack names kept
  /-- The counts are those of the report, but for one header. -/
  agrees : ((Engine.builtIn network).rowCount fs output = .ok report.conforming ∧
    (Engine.builtIn network).columnCount fs output = .ok report.columns) ↔ names ≠ ["\uFEFF"]
  /-- The first row is counted as a header where that is lost. -/
  headerLost : names = ["\uFEFF"] →
    (Engine.builtIn network).rowCount fs output = .ok (report.conforming - 1) ∧
      (Engine.builtIn network).columnCount fs output = .ok (min 1 report.conforming)

theorem Recounted.of_records {network : Network} {fs : FileSystem} {output : Path}
    {report : EngineReport} {names : List String} {kept : List (List Bytes)} {content : Bytes}
    (hconforming : report.conforming = kept.length) (hcolumns : report.columns = names.length)
    (hread : fs.read output = .ok content)
    (hrecords : (Csv.fileRecords .standard content).map Csv.Record.fields =
      Pass.readBack names kept)
    (hwidth : ∀ row ∈ kept, row.length = names.length) :
    Recounted network fs output report names kept := by
  have hrows := rowCount_of_read network hread
  have hfields := columnCount_of_read network hread
  rw [Csv.countRecords_of_fields hrecords] at hrows
  rw [Csv.countColumns_of_fields hrecords] at hfields
  by_cases hmark : names = ["\uFEFF"]
  · have hlost : Pass.readBack names kept = kept := by
      rw [Pass.readBack, if_pos hmark, List.nil_append]
    have hfirst : (kept.head?.map List.length).getD 0 = min 1 report.conforming := by
      rw [hconforming]
      cases kept with
      | nil => rfl
      | cons row rest => simp [hwidth row, hmark]
    rw [hlost, ← hconforming] at hrows
    rw [hlost, hfirst] at hfields
    refine ⟨hconforming, hcolumns, ⟨content, hread, hrecords⟩, ?_, fun _ => ⟨hrows, hfields⟩⟩
    have hone : report.columns = 1 := by rw [hcolumns, hmark]; rfl
    rw [hrows, hfields, hone]
    simp only [Except.ok.injEq, hmark, ne_eq, not_true_eq_false, iff_false]
    omega
  · have hkept : Pass.readBack names kept =
        Csv.withoutMark Bytes.comma (Pass.headerRecord names) :: kept := by
      rw [Pass.readBack, if_neg hmark, List.singleton_append]
    rw [hkept, List.length_cons, Nat.add_sub_cancel, ← hconforming] at hrows
    rw [hkept, List.head?_cons, Option.map_some, Option.getD_some, Csv.length_withoutMark,
      Pass.headerRecord, List.length_map, ← hcolumns] at hfields
    exact ⟨hconforming, hcolumns, ⟨content, hread, hrecords⟩,
      iff_of_true ⟨hrows, hfields⟩ hmark, fun h => absurd h hmark⟩

/-- The file that a validation has staged holds the rows that conform below the header, and counting
its rows and columns gives the counts of the report, exactly if the header is not the mark alone. -/
theorem validate_recounted {network : Network} {fs after : FileSystem} {source : Source}
    {options : ReadOptions} {output reject : Path} {report : EngineReport}
    (h : (Engine.builtIn network).validate fs source options output reject = (.ok report, after))
    (hdiffer : output.location fs.home ≠ reject.location fs.home) :
    ∃ content names rows, Loads network fs source content ∧ Shows options content names rows ∧
      Recounted network after output report names
        (Pass.kept (Pass.schemaOf options names rows) rows) := by
  obtain ⟨content, names, rows, hloads, hshows, hnames, hreport, houtput, -⟩ :=
    validate_shows (validate_of_builtIn h) hdiffer
  refine ⟨content, names, rows, hloads, hshows, .of_records ?_ ?_ houtput ?_ ?_⟩
  · rw [hreport]; rfl
  · rw [hreport]; rfl
  · exact Pass.fileRecords_headerRecord hnames (Pass.width_schemaOf options names rows)
  · intro row hrow
    rw [Pass.length_of_mem_kept hrow, Pass.width_schemaOf]

/-- A document whose only name is the mark, between quotes. -/
def markContent : Bytes := Utf8.ofString "\"\uFEFF\"\n1\n2\n"

/-- What the engine leaves of the document. -/
def markValidated : Except String EngineReport × FileSystem :=
  (Engine.builtIn .unreachable).validate ((FileSystem.empty []).put ["in.csv"] (.file markContent))
    (.file ⟨"in.csv"⟩) {} ⟨"out.csv"⟩ ⟨"rejected.csv"⟩

/-- Two rows conform to a header that is the mark, and one row is counted. -/
theorem validate_recounted_mark :
    markValidated.1 = .ok ⟨2, 0, 1, none⟩ ∧
      (Path.mk "out.csv").location [] ≠ (Path.mk "rejected.csv").location [] ∧
      ∃ content names rows,
        Loads .unreachable ((FileSystem.empty []).put ["in.csv"] (.file markContent))
          (.file ⟨"in.csv"⟩) content ∧
        Shows {} content names rows ∧
        Recounted .unreachable markValidated.2 ⟨"out.csv"⟩ ⟨2, 0, 1, none⟩ names
          (Pass.kept (Pass.schemaOf {} names rows) rows) ∧
        (Engine.builtIn .unreachable).rowCount markValidated.2 ⟨"out.csv"⟩ = .ok 1 := by
  have hresult : markValidated.1 = .ok ⟨2, 0, 1, none⟩ := by decide +kernel
  have hvalidate : markValidated = (.ok ⟨2, 0, 1, none⟩, markValidated.2) := by rw [← hresult]
  have hdiffer : (Path.mk "out.csv").location [] ≠ (Path.mk "rejected.csv").location [] := by
    decide +kernel
  obtain ⟨content, names, rows, hloads, hshows, hrecounted⟩ :=
    validate_recounted hvalidate hdiffer
  have hrows : (Engine.builtIn .unreachable).rowCount markValidated.2 ⟨"out.csv"⟩ = .ok 1 := by
    decide +kernel
  exact ⟨hresult, hdiffer, content, names, rows, hloads, hshows, hrecounted, hrows⟩

end BuiltIn

end TidyCsv
