import TidyCsv.Proofs.Engine.Pass

/-! # Rows that types are inferred from

All cells of a column in the sample cast to its type. So a row of the sample may be rejected because
it is not UTF-8 or because of its width, but never because one of its cells does not cast. -/

namespace TidyCsv

namespace Schema

variable {names : List String} {sample : List (List (List Char))} {cells : List (List Char)}
  {row : Csv.Record} {rejection : Rejection}

theorem castsBefore_infer (hmem : cells ∈ sample) (hwidth : cells.length = names.length)
    (index : Nat) : (infer names sample).CastsBefore cells index := by
  intro i column cell _ hcolumn hcell
  exact (fits_infer hcolumn).accepts (mem_columnCells_iff.mpr ⟨cells, hmem, hwidth, hcell⟩)

theorem firstCastFailure_infer (hmem : cells ∈ sample) (hwidth : cells.length = names.length) :
    (infer names sample).firstCastFailure cells = none := by
  rw [firstCastFailure_eq_none_iff _ (by simpa using hwidth)]
  exact castsBefore_infer hmem hwidth _

/-- A row that is part of the sample unless it is not UTF-8 is not rejected for a cell. -/
theorem Rejects.kind_ne_cast (h : (infer names sample).Rejects row rejection)
    (hmem : ∀ cells, row.text? = some cells → cells ∈ sample) : rejection.kind ≠ .cast := by
  cases h with
  | notUtf8 htext => simp [Rejection.notUtf8]
  | tooShort cells htext hwidth => simp [Rejection.tooShort]
  | tooLong cells htext hwidth => simp [Rejection.tooLong]
  | cast cells index column cell htext hwidth hcolumn hcell hbad hfirst =>
    have hcasts := castsBefore_infer (hmem cells htext) (by simpa using hwidth) (index + 1)
    have hgood := hcasts index column cell (Nat.lt_succ_self index) hcolumn hcell
    exact absurd (hgood.symm.trans hbad) (Bool.false_ne_true ∘ Eq.symm)

end Schema

namespace Pass

variable {options : ReadOptions} {delimiter : UInt8} {names : List String} {schema : Schema}
  {row : Csv.Record} {rows : List Csv.Record} {record : List Bytes}

/-! ## Reports -/

/-- The reason that a record about a rejected row gives. -/
def errorType? (record : List Bytes) : Option Bytes :=
  record[rejectHeader.idxOf (Utf8.ofString "error_type")]?

theorem errorType?_rejectRecord (options : ReadOptions) (delimiter : UInt8) (row : Csv.Record)
    (rejection : Rejection) :
    errorType? (rejectRecord options delimiter row rejection) =
      some (Utf8.ofString rejection.kind.name) := by
  have hcolumn : rejectHeader.idxOf (Utf8.ofString "error_type") = 3 := by decide
  rw [errorType?, hcolumn]
  rfl

theorem kind_eq_cast_of_name {kind : RejectKind}
    (h : Utf8.ofString kind.name = Utf8.ofString "CAST") : kind = .cast := by
  cases kind with
  | cast => rfl
  | invalidUnicode => exact absurd h (by decide)
  | missingColumns => exact absurd h (by decide)
  | tooManyColumns => exact absurd h (by decide)

theorem errorType?_ne_cast (hmem : row ∈ rows.take (max 1 options.sampleRows))
    (h : Reports options delimiter (schemaOf options names rows) row record) :
    errorType? record ≠ some (Utf8.ofString "CAST") := by
  obtain ⟨rejection, hrejects, rfl⟩ := reports_iff.mp h
  intro hcast
  rw [errorType?_rejectRecord, Option.some_inj] at hcast
  refine hrejects.kind_ne_cast (fun cells htext => ?_) (kind_eq_cast_of_name hcast)
  exact List.mem_filterMap.mpr ⟨row, hmem, htext⟩

/-- The records about rejected rows of the sample come first. -/
theorem reports_eq_append (options : ReadOptions) (delimiter : UInt8) (schema : Schema)
    (rows : List Csv.Record) (count : Nat) :
    reports options delimiter schema rows =
      reports options delimiter schema (rows.take count) ++
        reports options delimiter schema (rows.drop count) := by
  rw [reports, reports, reports, ← List.filterMap_append, List.take_append_drop]

/-- What a pass reports about rows of the sample and about those after it. -/
structure Spares (options : ReadOptions) (delimiter : UInt8) (names : List String)
    (rows : List Csv.Record) (early late : List (List Bytes)) : Prop where
  early_about : List.Forall₂ (Reports options delimiter (schemaOf options names rows))
    ((rows.take (max 1 options.sampleRows)).filter fun row =>
      ¬ (schemaOf options names rows).Conforms row) early
  late_about : List.Forall₂ (Reports options delimiter (schemaOf options names rows))
    ((rows.drop (max 1 options.sampleRows)).filter fun row =>
      ¬ (schemaOf options names rows).Conforms row) late
  early_ne_cast : ∀ record ∈ early, errorType? record ≠ some (Utf8.ofString "CAST")

theorem spares_reports (options : ReadOptions) (delimiter : UInt8) (names : List String)
    (rows : List Csv.Record) :
    Spares options delimiter names rows
      (reports options delimiter (schemaOf options names rows)
        (rows.take (max 1 options.sampleRows)))
      (reports options delimiter (schemaOf options names rows)
        (rows.drop (max 1 options.sampleRows))) := by
  refine ⟨forall₂_reports options delimiter _ _, forall₂_reports options delimiter _ _,
    fun record hrecord => ?_⟩
  obtain ⟨row, hrow, hmap⟩ := List.mem_filterMap.mp hrecord
  obtain ⟨rejection, hreject, rfl⟩ := Option.map_eq_some_iff.mp hmap
  have hrejects := (Schema.reject?_eq_some_iff _ row rejection).mp hreject
  exact errorType?_ne_cast hrow (reports_iff.mpr ⟨rejection, hrejects, rfl⟩)

/-- A row that types were inferred from has no cell that does not cast. So the file of rejected rows
of a pass begins with the records about rows of the sample, one for each of them that is rejected,
and none of these gives a cell as the reason; a pass that fails reports no row at all. -/
theorem run_spares_sample :
    (∀ (names : List String) (sample : List (List (List Char))), ∀ cells ∈ sample,
      cells.length = names.length → (Schema.infer names sample).firstCastFailure cells = none) ∧
    ∀ (options : ReadOptions) (dialect : Csv.Dialect) (content : Bytes),
      (∀ tally files, run options dialect content = (.ok tally, files) →
        ∃ first rows names early late,
          recordsOf options dialect content = first :: rows ∧ columnNames? first = some names ∧
          (Csv.fileRecords .standard files.reject).map Csv.Record.fields =
            rejectHeader :: (early ++ late) ∧
          Spares options dialect.delimiter names rows early late) ∧
      ∀ fault files, run options dialect content = (.error fault, files) →
        files.reject = emptyReject := by
  refine ⟨fun names sample cells => Schema.firstCastFailure_infer, fun options dialect content =>
    ⟨fun tally files hrun => ?_, fun fault files hrun => ?_⟩⟩
  · obtain ⟨first, rows, names, hrecords, hnames⟩ := names_of_run_ok hrun
    refine ⟨first, rows, names, _, _, hrecords, hnames, ?_, spares_reports _ _ _ _⟩
    rw [run_of_names hrecords hnames] at hrun
    obtain ⟨-, rfl⟩ := Prod.mk.inj hrun
    rw [← reports_eq_append, fileRecords_reports]
  · cases hrecords : recordsOf options dialect content with
    | nil =>
      rw [run_of_noHeader hrecords] at hrun
      obtain ⟨-, rfl⟩ := Prod.mk.inj hrun
      rfl
    | cons first rows =>
      cases hnames : columnNames? first with
      | none =>
        rw [run_of_headerNotUtf8 hrecords hnames] at hrun
        obtain ⟨-, rfl⟩ := Prod.mk.inj hrun
        rfl
      | some names =>
        rw [run_of_names hrecords hnames] at hrun
        simp at hrun

/-- A sample of two rows. -/
def lateOptions : ReadOptions := { sampleRows := 2 }

/-- Of the two rows in the sample one is too short; a cell of the row after them does not cast. -/
def lateDocument : Bytes := Utf8.ofString "id,n\n1,2\nx\ny,3\n"

def lateHeader : Csv.Record := (recordsOf lateOptions .standard lateDocument).headI

def lateRows : List Csv.Record := (recordsOf lateOptions .standard lateDocument).tail

/-- A header that is not UTF-8. -/
def foreignHeader : Bytes := [0xFF, 0x0A]

theorem run_spares_sample_late :
    (Schema.infer ["id", "n"] [["1".toList, "2".toList], ["x".toList]]).firstCastFailure
        ["1".toList, "2".toList] = none ∧
      (run lateOptions .standard lateDocument).1 = .ok ⟨1, 2, 2⟩ ∧
      (∃ early late,
        (Csv.fileRecords .standard (run lateOptions .standard lateDocument).2.reject).map
          Csv.Record.fields = rejectHeader :: (early ++ late) ∧
        early.map errorType? = [some (Utf8.ofString "MISSING_COLUMNS")] ∧
        late.map errorType? = [some (Utf8.ofString "CAST")]) ∧
      (run lateOptions .standard foreignHeader).1 = .error .headerNotUtf8 ∧
      (run lateOptions .standard foreignHeader).2.reject = emptyReject := by
  have hresults : (run lateOptions .standard lateDocument).1 = .ok ⟨1, 2, 2⟩ ∧
      (run lateOptions .standard foreignHeader).1 = .error .headerNotUtf8 := by
    decide +kernel
  obtain ⟨hresult, hfault⟩ := hresults
  have hrun : run lateOptions .standard lateDocument =
      (.ok ⟨1, 2, 2⟩, (run lateOptions .standard lateDocument).2) := by
    rw [← hresult]
  have hfails : run lateOptions .standard foreignHeader =
      (.error .headerNotUtf8, (run lateOptions .standard foreignHeader).2) := by
    rw [← hfault]
  obtain ⟨hsample, hpasses⟩ := run_spares_sample
  obtain ⟨first, rows, names, early, late, hrecords, hnames, hfile, hspares⟩ :=
    (hpasses lateOptions .standard lateDocument).1 _ _ hrun
  obtain ⟨hread, hearly, hlate⟩ : columnNames? lateHeader = some ["id", "n"] ∧
      (reports lateOptions Csv.Dialect.standard.delimiter
        (schemaOf lateOptions ["id", "n"] lateRows)
        (lateRows.take (max 1 lateOptions.sampleRows))).map errorType? =
          [some (Utf8.ofString "MISSING_COLUMNS")] ∧
      (reports lateOptions Csv.Dialect.standard.delimiter
        (schemaOf lateOptions ["id", "n"] lateRows)
        (lateRows.drop (max 1 lateOptions.sampleRows))).map errorType? =
          [some (Utf8.ofString "CAST")] := by
    decide +kernel
  have hfirst : lateHeader = first := by rw [lateHeader, hrecords, List.headI_cons]
  have hrows : lateRows = rows := by rw [lateRows, hrecords, List.tail_cons]
  have hheader : names = ["id", "n"] := by
    rw [hfirst, hnames, Option.some_inj] at hread
    exact hread
  subst hheader
  rw [← hrows] at hspares
  rw [← eq_reports_of_forall₂ hspares.early_about] at hearly
  rw [← eq_reports_of_forall₂ hspares.late_about] at hlate
  refine ⟨hsample _ _ _ (by decide) (by decide), hresult, ⟨early, late, hfile, hearly, hlate⟩,
    hfault, (hpasses lateOptions .standard foreignHeader).2 _ _ hfails⟩

end Pass

end TidyCsv
