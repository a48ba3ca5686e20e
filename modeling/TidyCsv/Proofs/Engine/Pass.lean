import TidyCsv.Proofs.Csv.RoundTrip
import TidyCsv.Proofs.Csv.Writing
import TidyCsv.Proofs.Engine.Conformance
import TidyCsv.Proofs.Engine.Inference
import Mathlib.Data.List.Forall2

/-! # What a pass writes

A row that has been sent where it belongs has added one record to one of the two files and one to
the count beside it. From this step the loop over the sample and the loop over the rows after it
follow, and with them the content of both files of a whole pass. -/

namespace TidyCsv.Pass

/-! ## Running parts of a pass -/

@[simp] theorem on_pure {α : Type} (a : α) (desk : Desk) :
    (pure a : Pass α).on desk = (.ok a, desk) := rfl

@[simp] theorem on_throw {α : Type} (fault : PassFault) (desk : Desk) :
    (throw fault : Pass α).on desk = (.error fault, desk) := rfl

@[simp] theorem on_modify (f : Desk → Desk) (desk : Desk) :
    (modify f : Pass Unit).on desk = (.ok (), f desk) := rfl

theorem on_bind {α β : Type} (part : Pass α) (next : α → Pass β) (desk : Desk) :
    (part >>= next).on desk =
      match part.on desk with
      | (.ok a, desk) => (next a).on desk
      | (.error fault, desk) => (.error fault, desk) := by
  change (part >>= next) desk = match part desk with
    | (.ok a, desk) => next a desk
    | (.error fault, desk) => (.error fault, desk)
  simp only [bind, ExceptT.bind, ExceptT.mk, StateT.bind, ExceptT.bindCont]
  rcases part desk with ⟨_ | a, desk⟩ <;> rfl

theorem on_bind_of_ok {α β : Type} {part : Pass α} {next : α → Pass β} {desk after : Desk} {a : α}
    (h : part.on desk = (.ok a, after)) : (part >>= next).on desk = (next a).on after := by
  rw [on_bind, h]

/-! ## The two files -/

/-- The fields of the rows that conform. -/
def kept (schema : Schema) (rows : List Csv.Record) : List (List Bytes) :=
  (rows.filter fun row => schema.Conforms row).map Csv.Record.fields

/-- The records about the rows that do not conform. -/
def reports (options : ReadOptions) (delimiter : UInt8) (schema : Schema)
    (rows : List Csv.Record) : List (List Bytes) :=
  rows.filterMap fun row => (schema.reject? row).map (rejectRecord options delimiter row)

theorem forall₂_reports (options : ReadOptions) (delimiter : UInt8) (schema : Schema)
    (rows : List Csv.Record) :
    List.Forall₂ (Reports options delimiter schema)
      (rows.filter fun row => ¬ schema.Conforms row) (reports options delimiter schema rows) := by
  induction rows with
  | nil => exact .nil
  | cons row rest ih =>
      cases hreject : schema.reject? row with
      | none =>
          have hconforms := (schema.reject?_eq_none_iff row).mp hreject
          simpa [reports, hreject, hconforms] using ih
      | some rejection =>
          have hrejects := (schema.reject?_eq_some_iff row rejection).mp hreject
          have hnot : ¬ schema.Conforms row := by
            intro hconforms
            simp [hconforms.reject?] at hreject
          simpa [reports, hreject, hnot] using
            List.Forall₂.cons (reports_iff.mpr ⟨rejection, hrejects, rfl⟩) ih

theorem eq_reports_of_forall₂ {options : ReadOptions} {delimiter : UInt8} {schema : Schema}
    {rows : List Csv.Record} {records : List (List Bytes)}
    (h : List.Forall₂ (Reports options delimiter schema)
      (rows.filter fun row => ¬ schema.Conforms row) records) :
    records = reports options delimiter schema rows := by
  have hunique : Relator.RightUnique (Reports options delimiter schema) := by
    intro row record other h h'
    obtain ⟨rejection, hrejects, rfl⟩ := reports_iff.mp h
    obtain ⟨rejection', hrejects', rfl⟩ := reports_iff.mp h'
    have heq : rejection = rejection' := by
      simpa [hrejects.reject?] using hrejects'.reject?
    rw [heq]
  exact hunique.forall₂ h (forall₂_reports options delimiter schema rows)

@[simp] theorem length_rejectRecord (options : ReadOptions) (delimiter : UInt8)
    (row : Csv.Record) (rejection : Rejection) :
    (rejectRecord options delimiter row rejection).length = rejectHeader.length := by
  simp [rejectRecord, rejectHeader]

theorem length_of_mem_reports {options : ReadOptions} {delimiter : UInt8} {schema : Schema}
    {rows : List Csv.Record} {record : List Bytes}
    (h : record ∈ reports options delimiter schema rows) :
    record.length = rejectHeader.length := by
  obtain ⟨row, _, hmap⟩ := List.mem_filterMap.mp h
  obtain ⟨rejection, _, rfl⟩ := Option.map_eq_some_iff.mp hmap
  exact length_rejectRecord options delimiter row rejection

theorem length_of_mem_kept {schema : Schema} {rows : List Csv.Record} {fields : List Bytes}
    (h : fields ∈ kept schema rows) : fields.length = schema.width := by
  obtain ⟨row, hmem, rfl⟩ := List.mem_map.mp h
  obtain ⟨cells, htext, hwidth, _⟩ : schema.Conforms row := by simpa using (List.mem_filter.mp hmem).2
  rw [← hwidth, Csv.Record.length_text? htext]

/-- The file of rejected rows reads back as the records that were written. -/
theorem fileRecords_reports (options : ReadOptions) (delimiter : UInt8) (schema : Schema)
    (rows : List Csv.Record) :
    (Csv.fileRecords .standard (Csv.encodeRecords Bytes.comma
      (rejectHeader :: reports options delimiter schema rows))).map Csv.Record.fields =
        rejectHeader :: reports options delimiter schema rows := by
  refine Csv.fileRecords_encodeRecords Csv.separates_comma (by decide) ?_ ?_
  · intro record hrecord
    rcases List.mem_cons.mp hrecord with rfl | hreport
    · simp [rejectHeader]
    · intro hempty
      have hlength := length_of_mem_reports hreport
      simp [hempty, rejectHeader] at hlength
  · -- the file opens with a name of its header, and not with the mark
    intro record hrecord field hfield
    obtain rfl : rejectHeader = record := by simpa using hrecord
    obtain rfl : Utf8.ofString "line" = field := by simpa [rejectHeader] using hfield
    decide

/-! ## One row -/

/-- After the rows in `seen`, the writers hold the records that these rows call for below the two
headers, and the counts are theirs. -/
structure Desk.Holds (options : ReadOptions) (delimiter : UInt8) (schema : Schema)
    (header : List Bytes) (seen : List Csv.Record) (desk : Desk) : Prop where
  output : desk.output.Holds Bytes.comma (header :: kept schema seen)
  reject : desk.reject.Holds Bytes.comma (rejectHeader :: reports options delimiter schema seen)
  conforming : desk.conforming = (kept schema seen).length
  rejected : desk.rejected = (reports options delimiter schema seen).length

variable {options : ReadOptions} {delimiter : UInt8} {schema : Schema} {header : List Bytes}

theorem on_putOutput {fields : List Bytes} {desk : Desk} {next : Csv.Writer}
    (h : desk.output.put fields = (none, next)) :
    (putOutput fields).on desk = (.ok (), { desk with output := next }) := by
  simp [putOutput, on, StateT.run, h]

theorem on_putReject {fields : List Bytes} {desk : Desk} {next : Csv.Writer}
    (h : desk.reject.put fields = (none, next)) :
    (putReject fields).on desk = (.ok (), { desk with reject := next }) := by
  simp [putReject, on, StateT.run, h]

theorem route_holds (hwidth : header.length = schema.width) {seen : List Csv.Record} {desk : Desk}
    (h : Desk.Holds options delimiter schema header seen desk) (row : Csv.Record) :
    ∃ next, (route options delimiter schema row).on desk = (.ok (), next) ∧
      Desk.Holds options delimiter schema header (seen ++ [row]) next := by
  cases hreject : schema.reject? row with
  | none =>
      have hconforms := (schema.reject?_eq_none_iff row).mp hreject
      have hkept : kept schema (seen ++ [row]) = kept schema seen ++ [row.fields] := by
        simp [kept, hconforms]
      have hreports : reports options delimiter schema (seen ++ [row]) =
          reports options delimiter schema seen := by
        simp [reports, hreject]
      have hmem : row.fields ∈ kept schema [row] := by simp [kept, hconforms]
      have hfields : row.fields.length = schema.width := length_of_mem_kept hmem
      obtain ⟨next, hput, hnext⟩ := h.output.put row.fields (by
        intro first hfirst
        obtain rfl : header = first := by simpa using hfirst
        rw [hfields, hwidth])
      refine ⟨{ desk with output := next, conforming := desk.conforming + 1 }, ?_, ?_, ?_, ?_, ?_⟩
      · simp only [route, hreject]
        rw [on_bind_of_ok (on_putOutput hput), on_modify]
      · simpa [hkept] using hnext
      · simpa [hreports] using h.reject
      · simp [hkept, h.conforming]
      · simp [hreports, h.rejected]
  | some rejection =>
      have hnot : ¬ schema.Conforms row := by
        intro hconforms
        simp [hconforms.reject?] at hreject
      have hkept : kept schema (seen ++ [row]) = kept schema seen := by
        simp [kept, hnot]
      have hreports : reports options delimiter schema (seen ++ [row]) =
          reports options delimiter schema seen ++
            [rejectRecord options delimiter row rejection] := by
        simp [reports, hreject]
      obtain ⟨next, hput, hnext⟩ :=
        h.reject.put (rejectRecord options delimiter row rejection) (by
          intro first hfirst
          obtain rfl : rejectHeader = first := by simpa using hfirst
          rw [length_rejectRecord])
      refine ⟨{ desk with reject := next, rejected := desk.rejected + 1 }, ?_, ?_, ?_, ?_, ?_⟩
      · simp only [route, hreject]
        rw [on_bind_of_ok (on_putReject hput), on_modify]
      · simpa [hkept] using h.output
      · simpa [hreports] using hnext
      · simp [hkept, h.conforming]
      · simp [hreports, h.rejected]

/-! ## The loops -/

theorem routeAll_holds (hwidth : header.length = schema.width) (rows : List Csv.Record) :
    ∀ {seen : List Csv.Record} {desk : Desk},
      Desk.Holds options delimiter schema header seen desk →
      ∃ last, (routeAll options delimiter schema rows).on desk = (.ok (), last) ∧
        Desk.Holds options delimiter schema header (seen ++ rows) last := by
  induction rows with
  | nil =>
      intro seen desk h
      exact ⟨desk, rfl, by simpa using h⟩
  | cons row rest ih =>
      intro seen desk h
      obtain ⟨next, hroute, hnext⟩ := route_holds hwidth h row
      obtain ⟨last, hrest, hlast⟩ := ih hnext
      refine ⟨last, ?_, by simpa using hlast⟩
      rw [routeAll, on_bind_of_ok hroute, hrest]

theorem gather_eq (count : Nat) (rows : List Csv.Record) :
    gather count rows = (rows.take count, rows.drop count) := by
  induction count generalizing rows with
  | zero => rfl
  | succ count ih =>
      cases rows with
      | nil => rfl
      | cons row rest => simp [gather, ih]

/-! ## A whole pass -/

/-- The schema of a document with these column names and rows. -/
def schemaOf (options : ReadOptions) (names : List String) (rows : List Csv.Record) : Schema :=
  .infer names ((rows.take (max 1 options.sampleRows)).filterMap Csv.Record.text?)

@[simp] theorem width_schemaOf (options : ReadOptions) (names : List String)
    (rows : List Csv.Record) : (schemaOf options names rows).width = names.length :=
  Schema.width_infer names _

/-- The record of the column names. -/
def headerRecord (names : List String) : List Bytes := names.map Utf8.ofString

/-- What a pass over a header and rows leaves: both files and the counts. -/
structure Written (options : ReadOptions) (delimiter : UInt8) (names : List String)
    (rows : List Csv.Record) (tally : Tally) (files : Files) : Prop where
  /-- Each column has its name, and the type of its cells in the sample. -/
  columns_fit : (schemaOf options names rows).columns.map Column.name = names ∧
    ∀ index column, (schemaOf options names rows).columns[index]? = some column →
      ColumnType.Fits (Schema.columnCells names
        ((rows.take (max 1 options.sampleRows)).filterMap Csv.Record.text?) index) column.type
  output_eq : files.output =
    Csv.encodeRecords Bytes.comma
      (headerRecord names :: kept (schemaOf options names rows) rows)
  reject_eq : ∃ records,
    files.reject = Csv.encodeRecords Bytes.comma (rejectHeader :: records) ∧
    List.Forall₂ (Reports options delimiter (schemaOf options names rows))
      (rows.filter fun row => ¬ (schemaOf options names rows).Conforms row) records ∧
    tally.rejected = records.length
  conforming_eq : tally.conforming = (kept (schemaOf options names rows) rows).length
  columns_eq : tally.columns = names.length
  total_eq : tally.conforming + tally.rejected = rows.length

theorem length_kept_add_length_reports (options : ReadOptions) (delimiter : UInt8)
    (schema : Schema) (rows : List Csv.Record) :
    (kept schema rows).length + (reports options delimiter schema rows).length = rows.length := by
  have hreports := (forall₂_reports options delimiter schema rows).length_eq
  have hkept : (kept schema rows).length = (rows.filter fun row => schema.Conforms row).length := by
    simp [kept]
  rw [← hreports, hkept]
  simpa using
    (List.length_eq_length_filter_add (l := rows) fun row => decide (schema.Conforms row)).symm

/-- The header of the file of rejected rows is written before anything is read. -/
theorem on_putReject_rejectHeader :
    ∃ desk : Desk, (putReject rejectHeader).on .empty = (.ok (), desk) ∧
      desk.output = .new Bytes.comma ∧ desk.reject.Holds Bytes.comma [rejectHeader] ∧
      desk.conforming = 0 ∧ desk.rejected = 0 := by
  obtain ⟨next, hput, hnext⟩ :=
    (Csv.Writer.holds_new Bytes.comma).put rejectHeader (by simp)
  have hempty : Desk.empty.reject.put rejectHeader = (none, next) := hput
  exact ⟨_, on_putReject hempty, rfl, by simpa using hnext, rfl, rfl⟩

/-- With a readable header, the sample goes first, and what it leaves unread follows it. -/
theorem document_eq {options : ReadOptions} {dialect : Csv.Dialect} {content : Bytes}
    {first : Csv.Record} {rows : List Csv.Record} {names : List String}
    (hrecords : recordsOf options dialect content = first :: rows)
    (hnames : columnNames? first = some names) :
    document options dialect content = (do
      putReject rejectHeader
      putOutput (headerRecord names)
      routeAll options dialect.delimiter (schemaOf options names rows)
        (rows.take (max 1 options.sampleRows))
      routeAll options dialect.delimiter (schemaOf options names rows)
        (rows.drop (max 1 options.sampleRows))
      pure (schemaOf options names rows).width) := by
  simp only [document, hrecords, hnames, gather_eq]
  rfl

/-- A pass over a document with a readable header reads it to its end. -/
theorem on_document {options : ReadOptions} {dialect : Csv.Dialect} {content : Bytes}
    {first : Csv.Record} {rows : List Csv.Record} {names : List String}
    (hrecords : recordsOf options dialect content = first :: rows)
    (hnames : columnNames? first = some names) :
    ∃ last, (document options dialect content).on .empty = (.ok names.length, last) ∧
      Desk.Holds options dialect.delimiter (schemaOf options names rows) (headerRecord names) rows
        last := by
  obtain ⟨desk, hstart, houtput, hreject, hconforming, hrejected⟩ :=
    on_putReject_rejectHeader
  obtain ⟨next, hput, hnext⟩ :=
    (Csv.Writer.holds_new Bytes.comma).put (headerRecord names) (by simp)
  have hheader : Desk.Holds options dialect.delimiter (schemaOf options names rows)
      (headerRecord names) [] { desk with output := next } :=
    ⟨by simpa [kept] using hnext, by simpa [reports] using hreject, hconforming, hrejected⟩
  have hwidth : (headerRecord names).length = (schemaOf options names rows).width := by
    simp [headerRecord]
  obtain ⟨middle, hsample, hmiddle⟩ :=
    routeAll_holds hwidth (rows.take (max 1 options.sampleRows)) hheader
  obtain ⟨last, hrest, hlast⟩ :=
    routeAll_holds hwidth (rows.drop (max 1 options.sampleRows)) hmiddle
  refine ⟨last, ?_, by simpa using hlast⟩
  have hput' : (putOutput (headerRecord names)).on desk = (.ok (), { desk with output := next }) :=
    on_putOutput (by rw [houtput]; exact hput)
  rw [document_eq hrecords hnames, on_bind_of_ok hstart, on_bind_of_ok hput',
    on_bind_of_ok hsample, on_bind_of_ok hrest, on_pure, width_schemaOf]

/-- What a pass over a document with a readable header gives. -/
theorem run_of_names {options : ReadOptions} {dialect : Csv.Dialect} {content : Bytes}
    {first : Csv.Record} {rows : List Csv.Record} {names : List String}
    (hrecords : recordsOf options dialect content = first :: rows)
    (hnames : columnNames? first = some names) :
    run options dialect content =
      (.ok ⟨(kept (schemaOf options names rows) rows).length,
          (reports options dialect.delimiter (schemaOf options names rows) rows).length,
          names.length⟩,
        ⟨Csv.encodeRecords Bytes.comma
            (headerRecord names :: kept (schemaOf options names rows) rows),
          Csv.encodeRecords Bytes.comma
            (rejectHeader ::
              reports options dialect.delimiter (schemaOf options names rows) rows)⟩) := by
  obtain ⟨last, hdocument, hlast⟩ := on_document hrecords hnames
  simp [run, hdocument, Except.map, hlast.conforming, hlast.rejected, hlast.output.written_eq,
    hlast.reject.written_eq]

/-- The content of a file of rejected rows without any. -/
def emptyReject : Bytes := Csv.encodeRecords Bytes.comma [rejectHeader]

/-- A pass that fails before it writes a header leaves the output empty. -/
theorem run_of_throw {options : ReadOptions} {dialect : Csv.Dialect} {content : Bytes}
    {fault : PassFault}
    (h : document options dialect content = (do putReject rejectHeader; throw fault)) :
    run options dialect content = (.error fault, ⟨[], emptyReject⟩) := by
  obtain ⟨desk, hstart, houtput, hreject, -, -⟩ := on_putReject_rejectHeader
  have hdocument : (document options dialect content).on .empty = (.error fault, desk) := by
    rw [h, on_bind_of_ok hstart, on_throw]
  simp only [run, hdocument, houtput, hreject.written_eq, Csv.Writer.written_new, emptyReject]
  rfl

theorem run_of_noHeader {options : ReadOptions} {dialect : Csv.Dialect} {content : Bytes}
    (hrecords : recordsOf options dialect content = []) :
    run options dialect content = (.error .noHeader, ⟨[], emptyReject⟩) := by
  apply run_of_throw
  simp only [document, hrecords]

theorem run_of_headerNotUtf8 {options : ReadOptions} {dialect : Csv.Dialect} {content : Bytes}
    {first : Csv.Record} {rows : List Csv.Record}
    (hrecords : recordsOf options dialect content = first :: rows)
    (hnames : columnNames? first = none) :
    run options dialect content = (.error .headerNotUtf8, ⟨[], emptyReject⟩) := by
  apply run_of_throw
  simp only [document, hrecords, hnames]

theorem names_of_run_ok {options : ReadOptions} {dialect : Csv.Dialect} {content : Bytes}
    {tally : Tally} {files : Files} (h : run options dialect content = (.ok tally, files)) :
    ∃ first rows names, recordsOf options dialect content = first :: rows ∧
      columnNames? first = some names := by
  cases hrecords : recordsOf options dialect content with
  | nil => simp [run_of_noHeader hrecords] at h
  | cons first rows =>
      cases hnames : columnNames? first with
      | none => simp [run_of_headerNotUtf8 hrecords hnames] at h
      | some names => exact ⟨first, rows, names, rfl, hnames⟩

theorem Written.unique {options : ReadOptions} {delimiter : UInt8} {names : List String}
    {rows : List Csv.Record} {tally tally' : Tally} {files files' : Files}
    (h : Written options delimiter names rows tally files)
    (h' : Written options delimiter names rows tally' files') : tally = tally' ∧ files = files' := by
  obtain ⟨records, hreject, hreports, hrejected⟩ := h.reject_eq
  obtain ⟨records', hreject', hreports', hrejected'⟩ := h'.reject_eq
  have heq : records = records' :=
    (eq_reports_of_forall₂ hreports).trans (eq_reports_of_forall₂ hreports').symm
  subst records'
  obtain ⟨conforming, rejected, columns⟩ := tally
  obtain ⟨output, reject⟩ := files
  obtain ⟨conforming', rejected', columns'⟩ := tally'
  obtain ⟨output', reject'⟩ := files'
  have hconforming := h.conforming_eq.trans h'.conforming_eq.symm
  have hcolumns := h.columns_eq.trans h'.columns_eq.symm
  have houtput := h.output_eq.trans h'.output_eq.symm
  simp_all

/-- A pass succeeds exactly on the documents with a readable header. The output then holds the names
of the columns and the rows that conform, as they are, and the file of rejected rows a record about
each other row with the first reason that applies, both in the order of the document; and the counts
add up. -/
theorem run_eq_ok_iff_written (options : ReadOptions) (dialect : Csv.Dialect) (content : Bytes)
    (tally : Tally) (files : Files) :
    run options dialect content = (.ok tally, files) ↔
      ∃ first rows names, recordsOf options dialect content = first :: rows ∧
        NamesColumns first names ∧
        Written options dialect.delimiter names rows tally files := by
  simp only [← columnNames?_eq_some_iff]
  have hwritten : ∀ {first rows names}, recordsOf options dialect content = first :: rows →
      columnNames? first = some names → ∃ tally files,
        run options dialect content = (.ok tally, files) ∧
          Written options dialect.delimiter names rows tally files := by
    intro first rows names hrecords hnames
    refine ⟨_, _, run_of_names hrecords hnames,
      ⟨⟨Schema.map_name_infer names _, fun _ _ => Schema.fits_infer⟩, rfl, ⟨_, rfl, ?_, rfl⟩, rfl,
        rfl, ?_⟩⟩
    · exact forall₂_reports options dialect.delimiter (schemaOf options names rows) rows
    · exact length_kept_add_length_reports options dialect.delimiter _ rows
  constructor
  · intro h
    obtain ⟨first, rows, names, hrecords, hnames⟩ := names_of_run_ok h
    obtain ⟨tally', files', hrun, hspec⟩ := hwritten hrecords hnames
    obtain ⟨rfl, rfl⟩ : tally' = tally ∧ files' = files := by simpa [h, eq_comm] using hrun
    exact ⟨first, rows, names, hrecords, hnames, hspec⟩
  · rintro ⟨first, rows, names, hrecords, hnames, hspec⟩
    obtain ⟨tally', files', hrun, hspec'⟩ := hwritten hrecords hnames
    obtain ⟨rfl, rfl⟩ := hspec'.unique hspec
    exact hrun

/-- A document with a blank and a space in its header, and a second row whose first cell is no
integer. -/
def castContent : Bytes := Utf8.ofString "Id , \n1,x\nq,y\n"

/-- With a sample of one row, the second row is rejected for its first cell. -/
theorem run_written_cast :
    let options : ReadOptions := { sampleRows := 1 }
    let dialect : Csv.Dialect := ⟨Bytes.comma, true⟩
    let tally : Tally := ⟨1, 1, 2⟩
    let files : Files :=
      ⟨Utf8.ofString "Id,column1\n1,x\n",
        Utf8.ofString "line,column_idx,column_name,error_type,csv_line,error_message\n"
          ++ Utf8.ofString "3,1,Id,CAST,\"q,y\",\"Error when converting column \"\"Id\"\". "
          ++ Utf8.ofString "Could not convert string \"\"q\"\" to 'BIGINT'\"\n"⟩
    run options dialect castContent = (.ok tally, files) ∧
      ∃ first rows names, recordsOf options dialect castContent = first :: rows ∧
        NamesColumns first names ∧ Written options dialect.delimiter names rows tally files := by
  intro options dialect tally files
  have hrun : run options dialect castContent = (.ok tally, files) := by decide +kernel
  exact ⟨hrun, (run_eq_ok_iff_written options dialect castContent tally files).mp hrun⟩

end TidyCsv.Pass
