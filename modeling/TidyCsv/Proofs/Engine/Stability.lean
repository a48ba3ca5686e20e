import TidyCsv.Proofs.Engine.Appraisal
import TidyCsv.Proofs.Engine.Sample
import TidyCsv.Proofs.Run.FinalForm
import TidyCsv.Proofs.Text.Margins

/-! # Validating what was validated

A staged file holds the column names and the rows that conform. Reading it again gives the same
names, since a name has no blank margins left, and the same rows. If they are all in the sample, no
type is inferred that one of them does not have, and so all of them are kept: what is staged then is
the same file. -/

namespace TidyCsv

/-! ## Characters that are not blank -/

namespace Text

open Unicode

theorem isBlank_of_bounds {c : Char} (hlow : 0x20 < c.toNat) (hhigh : c.toNat < 0x85) :
    isBlank c = false := by
  simp only [isBlank, inRanges, blankRanges]
  grind

end Text

/-! ## Column names -/

namespace Pass

theorem isBlank_of_mem_columnNumber {index : Nat} {c : Char}
    (h : c ∈ ("column" ++ toString index).toList) : Unicode.isBlank c = false := by
  have hdigits : (toString index).toList = Nat.toDigits 10 index := Nat.toList_repr
  rw [String.toList_append, List.mem_append, hdigits] at h
  rcases h with hword | hdigit
  · have hletters : "column".toList.all (fun c => !Unicode.isBlank c) = true := by decide
    simpa using List.all_eq_true.mp hletters c hword
  · have hc : c.isDigit := Nat.isDigit_of_mem_toDigits (by decide) (by decide) hdigit
    have hbounds : 48 ≤ c.toNat ∧ c.toNat ≤ 57 := by
      simpa [Char.isDigit, UInt32.le_iff_toNat_le] using hc
    exact Text.isBlank_of_bounds (by omega) (by omega)

theorem columnName_of_trim {text : List Char} (hne : text ≠ []) (htrim : Text.trim text = text)
    (index : Nat) : columnName index text = String.ofList text := by
  rw [columnName, htrim]
  cases text with
  | nil => exact absurd rfl hne
  | cons c rest => rfl

/-- The name of a column is the name that its own text gives. -/
theorem columnName_columnName (index : Nat) (cell : List Char) :
    columnName index (columnName index cell).toList = columnName index cell := by
  have hself : ∀ name : String, name.toList ≠ [] → Text.trim name.toList = name.toList →
      columnName index name.toList = name := fun name hne htrim => by
    rw [columnName_of_trim hne htrim, String.ofList_toList]
  apply hself
  all_goals unfold columnName; split
  · simp
  · next hne => simpa using hne
  · exact Text.trim_of_forall fun c => isBlank_of_mem_columnNumber
  · rw [String.toList_ofList, Text.trim_trim]

/-- A header that names were read from is written so that the same names are read again. -/
theorem columnNames?_again {header again : Csv.Record} {names : List String}
    (h : columnNames? header = some names) (hfields : again.fields = headerRecord names) :
    columnNames? again = some names := by
  obtain ⟨cells, -, rfl⟩ := Option.map_eq_some_iff.mp h
  have htext : again.text? = some ((cells.mapIdx columnName).map String.toList) := by
    rw [Csv.Record.text?_eq_some_iff, hfields, headerRecord, List.forall₂_map_left_iff,
      List.forall₂_map_right_iff, List.forall₂_same]
    intro name _
    exact Utf8.decode?_encode name.toList
  have hnames : ((cells.mapIdx columnName).map String.toList).mapIdx columnName =
      cells.mapIdx columnName :=
    List.ext_getElem (by simp) fun index _ _ => by simp [columnName_columnName]
  rw [columnNames?, htext, Option.map_some, hnames]

end Pass

/-! ## Rows of the sample -/

theorem Schema.conforms_infer {names : List String} {sample : List (List (List Char))}
    {row : Csv.Record} {cells : List (List Char)} (htext : row.text? = some cells)
    (hmem : cells ∈ sample) (hwidth : cells.length = names.length) :
    (Schema.infer names sample).Conforms row :=
  ⟨cells, htext, by simpa using hwidth, castsBefore_infer hmem hwidth _⟩

/-! ## Reading kept rows again -/

namespace Pass

open FinalForm (Unmarked)

variable {options : ReadOptions} {schema : Schema} {names : List String}
  {first row : Csv.Record} {rows again : List Csv.Record} {cells : List (List Char)}

theorem recordsOf_of_skipRows (h : options.skipRows = 0) (dialect : Csv.Dialect)
    (content : Bytes) : recordsOf options dialect content = Csv.fileRecords dialect content := by
  simp [recordsOf, h, Bytes.dropLines, Csv.fileRecords]

/-- A row of the sample that is text and as wide as the header is never rejected. -/
theorem conforms_of_sampled (hmem : row ∈ rows.take (max 1 options.sampleRows))
    (htext : row.text? = some cells) (hwidth : cells.length = names.length) :
    (schemaOf options names rows).Conforms row :=
  Schema.conforms_infer htext (List.mem_filterMap.mpr ⟨row, hmem, htext⟩) hwidth

/-- Rows that read as those that were kept of no more rows than a sample holds are all kept. -/
theorem kept_again (hsample : rows.length ≤ max 1 options.sampleRows)
    (hwidth : schema.width = names.length)
    (hfields : again.map Csv.Record.fields = kept schema rows) :
    kept (schemaOf options names again) again = kept schema rows := by
  have hcount : again.length ≤ max 1 options.sampleRows := by
    have hless := length_kept_add_length_reports options Bytes.comma schema rows
    have hsame := congrArg List.length hfields
    rw [List.length_map] at hsame
    omega
  have hall : ∀ row ∈ again, (schemaOf options names again).Conforms row := by
    intro row hmem
    have hkept : row.fields ∈ kept schema rows := hfields ▸ List.mem_map_of_mem hmem
    obtain ⟨source, hsource, hsame⟩ := List.mem_map.mp hkept
    obtain ⟨cells, htext, hcells, -⟩ : schema.Conforms source := by
      simpa using (List.mem_filter.mp hsource).2
    have htext' : row.text? = some cells := by rwa [Csv.Record.text?, ← hsame]
    exact conforms_of_sampled (by rwa [List.take_of_length_le hcount]) htext' (hcells.trans hwidth)
  rw [kept, List.filter_eq_self.mpr (by simpa using hall), hfields]

/-- A pass over what was kept of no more rows than a sample holds keeps all of it, and writes it as
it is. -/
theorem run_again (hskip : options.skipRows = 0)
    (hsample : rows.length ≤ max 1 options.sampleRows) (hwidth : schema.width = names.length)
    (hnames : columnNames? first = some names) (hne : names ≠ []) (hmark : Unmarked names) :
    run options .standard
        (Csv.encodeRecords Bytes.comma (headerRecord names :: kept schema rows)) =
      (.ok ⟨(kept schema rows).length, 0, names.length⟩,
        ⟨Csv.encodeRecords Bytes.comma (headerRecord names :: kept schema rows), emptyReject⟩) := by
  have hrows : ∀ fields ∈ kept schema rows, fields.length = names.length :=
    fun fields hmem => (length_of_mem_kept hmem).trans hwidth
  have hread := FinalForm.fileRecords_of_unmarked Csv.separates_comma (by decide) hne hmark hrows
  obtain ⟨header, again, hrecords, hheader, hfields⟩ := List.map_eq_cons_iff.mp hread
  have hrecords' : recordsOf options .standard
      (Csv.encodeRecords Bytes.comma (headerRecord names :: kept schema rows)) =
        header :: again := by
    rw [recordsOf_of_skipRows hskip]
    exact hrecords
  have hkept := kept_again hsample hwidth hfields
  have hreports : reports options Bytes.comma (schemaOf options names again) again = [] := by
    have htotal := length_kept_add_length_reports options Bytes.comma
      (schemaOf options names again) again
    have hsame := congrArg List.length hfields
    rw [List.length_map, ← hkept] at hsame
    exact List.length_eq_zero_iff.mp (by omega)
  rw [run_of_names hrecords' (columnNames?_again hnames hheader), hkept,
    show Csv.Dialect.standard.delimiter = Bytes.comma from rfl, hreports]
  rfl

end Pass

/-! ## Validating a staged file -/

/-- The options under which a staged file is read: none of its lines is passed over, and its
delimiter is known. -/
def ReadOptions.ofStaged (options : ReadOptions) : ReadOptions :=
  { options with skipRows := 0, delimiter := some Bytes.comma }

namespace BuiltIn

open FileSystem FinalForm

variable {network later : Network} {fs after : FileSystem} {source : Source}
  {options : ReadOptions} {output reject output' reject' : Path} {report : EngineReport}
  {content : Bytes} {names : List String} {rows : List Csv.Record}

theorem appraise_staged (hshows : Shows options content names rows) (hne : names ≠ [])
    (hsample : rows.length ≤ max 1 options.sampleRows) (hmark : Unmarked names) :
    appraise options.ofStaged (Csv.encodeRecords Bytes.comma (Pass.headerRecord names ::
        Pass.kept (Pass.schemaOf options names rows) rows)) =
      (.ok (reportAs true
          ⟨(Pass.kept (Pass.schemaOf options names rows) rows).length, 0, names.length⟩),
        ⟨Csv.encodeRecords Bytes.comma (Pass.headerRecord names ::
          Pass.kept (Pass.schemaOf options names rows) rows), Pass.emptyReject⟩) := by
  obtain ⟨first, -, hnames⟩ := hshows
  have hskip : options.ofStaged.skipRows = 0 := rfl
  have hrun := Pass.run_again hskip hsample (Pass.width_schemaOf options names rows) hnames hne
    hmark
  have hretry : ∀ content, retry? options.ofStaged Bytes.comma content
      ⟨(Pass.kept (Pass.schemaOf options names rows) rows).length, 0, names.length⟩ = .ok none :=
    fun content => retry?_eq_none_iff.mpr (.inl (Nat.zero_le _))
  simp only [appraise, delimiterOf, ReadOptions.ofStaged] at hrun hretry ⊢
  rw [Csv.Dialect.standard] at hrun
  simp only [hrun, hretry]

/-- A staged file is stable. If the pass that counts has read no more rows than its sample holds,
and its first name does not open with the mark, then validating the staged file rejects no row, keeps
as many rows and columns as were reported, heeds quotes, and stages the same bytes. -/
theorem validate_staged
    (h : (Engine.builtIn network).validate fs source options output reject = (.ok report, after))
    (hdiffer : output.location fs.home ≠ reject.location fs.home)
    (hload : Loads network fs source content) (hshows : Shows options content names rows)
    (hsample : rows.length ≤ max 1 options.sampleRows) (hmark : Unmarked names)
    (houtput : after.HasRoom output') (hreject : after.HasRoom reject')
    (hdiffer' : output'.location fs.home ≠ reject'.location fs.home)
    (hapart : output'.location fs.home ≠ output.location fs.home)
    (hapart' : reject'.location fs.home ≠ output.location fs.home) :
    ∃ staged last, after.read output = .ok staged ∧
      (Engine.builtIn later).validate after (.file output) options.ofStaged output' reject' =
        (.ok ⟨report.conforming, 0, report.columns, none⟩, last) ∧
      last.read output' = .ok staged ∧ last.read reject' = .ok Pass.emptyReject := by
  obtain ⟨_, _, _, hload', hshows', hne, rfl, hstaged, -⟩ :=
    validate_shows (validate_of_builtIn h) hdiffer
  obtain rfl := hload.unique hload'
  obtain ⟨rfl, rfl⟩ := hshows.unique hshows'
  have hhome : after.home = fs.home := by
    have hedits := Engine.builtIn_editsOnlyItsFiles network fs source options output reject
    rw [h] at hedits
    exact hedits.home_eq
  rw [← hhome] at hdiffer' hapart hapart'
  have hsource : Apart after.home (.file output) (output'.location after.home)
      (reject'.location after.home) := by
    rintro path ⟨⟩
    exact ⟨Ne.symm hapart, Ne.symm hapart'⟩
  have hreads : Loads later after (.file output) _ := loads_file_iff.mpr hstaged
  have hagain := validate_of_hasRoom options.ofStaged hreads houtput hreject hsource
  rw [appraise_staged hshows hne hsample hmark] at hagain
  obtain ⟨hkept, hrejected⟩ := read_putBoth houtput hreject hdiffer'
    ⟨Csv.encodeRecords Bytes.comma (Pass.headerRecord names ::
      Pass.kept (Pass.schemaOf options names rows) rows), Pass.emptyReject⟩
  refine ⟨_, _, hstaged, ?_, hkept, hrejected⟩
  simp [Engine.builtIn, hagain, Except.mapError, reportAs, reportOf]

/-! ## A document with a rejected row, read without heeding quotes -/

/-- A header, a row that is too short, a row with a quote that is not closed, and one more row. -/
def mixedContent : Bytes := Utf8.ofString "a,b,c\nx\n1,\"oops,2\n6,7,8\n"

/-- A file system with the document in it. -/
def mixedFiles : FileSystem := (FileSystem.empty []).put ["in.csv"] (.file mixedContent)

/-- What the engine leaves of the document. -/
def mixedValidated : Except String EngineReport × FileSystem :=
  (Engine.builtIn .unreachable).validate mixedFiles (.file ⟨"in.csv"⟩) {} ⟨"out.csv"⟩
    ⟨"rejected.csv"⟩

theorem mixed_shows : Shows {} mixedContent ["a", "b", "c"]
    (Pass.recordsOf {} ⟨Bytes.comma, false⟩ mixedContent).tail := by
  refine ⟨(Pass.recordsOf {} ⟨Bytes.comma, false⟩ mixedContent).headI, ?_⟩
  decide +kernel

/-- The two rows that were kept are kept again, and no quote has to be ignored this time. -/
theorem validate_staged_mixed :
    mixedValidated.1 = .ok ⟨2, 1, 3, some ⟨false⟩⟩ ∧
      (Path.mk "out.csv").location [] ≠ (Path.mk "rejected.csv").location [] ∧
      Loads .unreachable mixedFiles (.file ⟨"in.csv"⟩) mixedContent ∧
      (Pass.recordsOf {} ⟨Bytes.comma, false⟩ mixedContent).tail.length ≤ 2000 ∧
      Unmarked ["a", "b", "c"] ∧ mixedValidated.2.HasRoom ⟨"again.csv"⟩ ∧
      mixedValidated.2.HasRoom ⟨"none.csv"⟩ ∧
      ∃ staged last, mixedValidated.2.read ⟨"out.csv"⟩ = .ok staged ∧
        (Engine.builtIn .unreachable).validate mixedValidated.2 (.file ⟨"out.csv"⟩)
          (ReadOptions.ofStaged {}) ⟨"again.csv"⟩ ⟨"none.csv"⟩ = (.ok ⟨2, 0, 3, none⟩, last) ∧
        last.read ⟨"again.csv"⟩ = .ok staged ∧
        last.read ⟨"none.csv"⟩ = .ok Pass.emptyReject := by
  have hresult : mixedValidated.1 = .ok ⟨2, 1, 3, some ⟨false⟩⟩ := by decide +kernel
  have hvalidate : mixedValidated = (.ok ⟨2, 1, 3, some ⟨false⟩⟩, mixedValidated.2) := by
    rw [← hresult]
  have hdiffer : (Path.mk "out.csv").location [] ≠ (Path.mk "rejected.csv").location [] := by
    decide +kernel
  have hload : Loads .unreachable mixedFiles (.file ⟨"in.csv"⟩) mixedContent :=
    loads_file_iff.mpr (by decide +kernel)
  have hsample : (Pass.recordsOf {} ⟨Bytes.comma, false⟩ mixedContent).tail.length ≤ 2000 := by
    decide +kernel
  have hmark : Unmarked ["a", "b", "c"] := by decide
  have hroom : mixedValidated.2.HasRoom ⟨"again.csv"⟩ ∧ mixedValidated.2.HasRoom ⟨"none.csv"⟩ := by
    decide +kernel
  exact ⟨hresult, hdiffer, hload, hsample, hmark, hroom.1, hroom.2,
    validate_staged hvalidate hdiffer hload mixed_shows hsample hmark hroom.1 hroom.2
      (by decide +kernel) (by decide +kernel) (by decide +kernel)⟩

end BuiltIn

end TidyCsv
