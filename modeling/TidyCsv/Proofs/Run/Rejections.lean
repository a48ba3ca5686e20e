import TidyCsv.Proofs.Engine.BuiltIn
import TidyCsv.Proofs.Run.Output
import TidyCsv.Proofs.Run.Stages
import TidyCsv.Proofs.Run.Validation

/-! # What the file of rejected rows tells

Validation finds out from the file of rejected rows how many rows the engine rejected and for which
reasons. The file reads back as the records that the engine wrote, whatever text of the rows they
quote, so what is found out is what the engine has counted and decided. -/

namespace TidyCsv

open FileSystem Run

namespace Validation

/-! ## Distinct texts in ascending order -/

theorem mem_insertDistinct {x text : String} {types : List String} :
    x ∈ insertDistinct text types ↔ x = text ∨ x ∈ types := by
  induction types with
  | nil => simp [insertDistinct]
  | cons first rest ih =>
      unfold insertDistinct
      split
      · next hsame => simp [hsame]
      · split
        · simp
        · simp [ih, or_left_comm]

theorem insertDistinct_pairwise (text : String) {types : List String}
    (h : types.Pairwise (· < ·)) : (insertDistinct text types).Pairwise (· < ·) := by
  induction types with
  | nil => simp [insertDistinct]
  | cons first rest ih =>
      obtain ⟨hfirst, hrest⟩ := List.pairwise_cons.mp h
      unfold insertDistinct
      split
      · exact h
      · next hne =>
          split
          · next hlt =>
              refine List.pairwise_cons.mpr ⟨fun x hx => ?_, h⟩
              rcases List.mem_cons.mp hx with rfl | hx
              · exact hlt
              · exact String.lt_trans hlt (hfirst x hx)
          · next hnot =>
              refine List.pairwise_cons.mpr ⟨fun x hx => ?_, ih hrest⟩
              rcases mem_insertDistinct.mp hx with rfl | hx
              · -- the text differs from the first one and is not below it
                have hle : first ≤ x := String.not_lt.mp hnot
                by_contra hbelow
                exact hne (String.le_antisymm (String.not_lt.mp hbelow) hle)
              · exact hfirst x hx

/-! ## Fields of text -/

theorem badField?_of_texts (texts : List String) :
    badField? (texts.map Utf8.ofString) = none := by
  unfold badField?
  rw [List.findSome?_eq_none_iff]
  rintro ⟨field, index⟩ hmem
  have hfield := List.fst_mem_of_mem_zipIdx hmem
  obtain ⟨text, -, rfl⟩ := List.mem_map.mp hfield
  simp [Utf8.ofString]

theorem textFields_of_texts {number : Nat} {record : Csv.Record} {texts : List String}
    (h : record.fields = texts.map Utf8.ofString) : textFields number record = .ok texts := by
  simp [textFields, h, badField?_of_texts, Utf8.ofString, Function.comp_def]

/-- Fields are text, which in a column is the given one. -/
def TextAt (column : Nat) (fields : List Bytes) (text : String) : Prop :=
  ∃ texts : List String, fields = texts.map Utf8.ofString ∧ texts[column]? = some text

theorem collectTypes_of_texts {column : Nat} {records : List (Csv.Record × Nat)}
    {reasons : List String}
    (h : List.Forall₂ (fun record reason => TextAt column record.1.fields reason) records reasons)
    (hreasons : ∀ reason ∈ reasons, reason ≠ "") {types : List String}
    (htypes : types.Pairwise (· < ·)) :
    ∃ found, collectTypes column types records = .ok found ∧ found.Pairwise (· < ·) ∧
      ∀ type, type ∈ found ↔ type ∈ types ∨ type ∈ reasons := by
  induction h generalizing types with
  | nil => exact ⟨types, rfl, htypes, by simp⟩
  | @cons record reason records reasons hfirst hrest ih =>
      obtain ⟨texts, hfields, hcolumn⟩ := hfirst
      obtain ⟨record, number⟩ := record
      have hreason : reason ≠ "" := hreasons reason (by simp)
      obtain ⟨found, hfound, hsorted, hmem⟩ := ih (fun other hother =>
        hreasons other (by simp [hother])) (insertDistinct_pairwise reason htypes)
      refine ⟨found, ?_, hsorted, fun type => ?_⟩
      · simp only [collectTypes, textFields_of_texts hfields, hcolumn, if_neg hreason, hfound]
      · rw [hmem, mem_insertDistinct, List.mem_cons]
        tauto

end Validation

namespace Pass

/-- A record about a rejected row is text, the fourth field of which is the reason. -/
theorem textAt_rejectRecord (options : ReadOptions) (delimiter : UInt8) (row : Csv.Record)
    (rejection : Rejection) :
    Validation.TextAt 3 (rejectRecord options delimiter row rejection) rejection.kind.name :=
  ⟨[toString (row.start.line + options.skipRows), (rejection.column.map toString).getD "",
    rejection.columnName, rejection.kind.name, String.ofList (rawLine delimiter row),
    rejection.message], by simp [rejectRecord, Utf8.ofString], rfl⟩

/-- The reasons for which rows are rejected, in their order. -/
def reasons (schema : Schema) (rows : List Csv.Record) : List String :=
  rows.filterMap fun row => (schema.reject? row).map fun rejection => rejection.kind.name

theorem forall₂_reasons (options : ReadOptions) (delimiter : UInt8) (schema : Schema)
    (rows : List Csv.Record) :
    List.Forall₂ (Validation.TextAt 3) (reports options delimiter schema rows)
      (reasons schema rows) := by
  induction rows with
  | nil => exact .nil
  | cons row rest ih =>
      cases hreject : schema.reject? row with
      | none => simpa [reports, reasons, hreject] using ih
      | some rejection =>
          simpa [reports, reasons, hreject] using
            List.Forall₂.cons (textAt_rejectRecord options delimiter row rejection) ih

theorem mem_reasons {schema : Schema} {rows : List Csv.Record} {reason : String} :
    reason ∈ reasons schema rows ↔
      ∃ row ∈ rows, ∃ rejection, schema.Rejects row rejection ∧ rejection.kind.name = reason := by
  simp [reasons, List.mem_filterMap, schema.reject?_eq_some_iff]

theorem ne_empty_of_mem_reasons {schema : Schema} {rows : List Csv.Record} {reason : String}
    (h : reason ∈ reasons schema rows) : reason ≠ "" := by
  obtain ⟨row, -, rejection, -, rfl⟩ := mem_reasons.mp h
  cases rejection.kind <;> decide

end Pass

namespace Validation

theorem countRecords_reports (options : ReadOptions) (delimiter : UInt8) (schema : Schema)
    (rows : List Csv.Record) :
    Csv.countRecords (Csv.encodeRecords Bytes.comma
      (Pass.rejectHeader :: Pass.reports options delimiter schema rows)) =
        (Pass.reports options delimiter schema rows).length + 1 := by
  have hrecords := congrArg List.length (Pass.fileRecords_reports options delimiter schema rows)
  simpa [Csv.countRecords] using hrecords

/-- The reasons that are read off the file are those for which rows were rejected. -/
theorem errorTypes_reports (options : ReadOptions) (delimiter : UInt8) (schema : Schema)
    (rows : List Csv.Record) :
    ∃ found, errorTypes (Csv.encodeRecords Bytes.comma
        (Pass.rejectHeader :: Pass.reports options delimiter schema rows)) = .ok found ∧
      found.Pairwise (· < ·) ∧ ∀ type, type ∈ found ↔ type ∈ Pass.reasons schema rows := by
  obtain ⟨header, rest, hrecords, hheader, hrest⟩ :=
    List.map_eq_cons_iff.mp (Pass.fileRecords_reports options delimiter schema rows)
  have hnames : textFields 0 header = .ok ["line", "column_idx", "column_name", "error_type",
      "csv_line", "error_message"] := textFields_of_texts hheader
  have hforall : List.Forall₂ (fun (record : Csv.Record × Nat) reason =>
      TextAt 3 record.1.fields reason) (rest.zipIdx 1) (Pass.reasons schema rows) := by
    have hreasons := Pass.forall₂_reasons options delimiter schema rows
    rw [← hrest, ← List.zipIdx_map_fst 1 rest, List.map_map] at hreasons
    exact List.forall₂_map_left_iff.mp hreasons
  obtain ⟨found, hfound, hsorted, hmem⟩ := collectTypes_of_texts hforall
    (fun reason => Pass.ne_empty_of_mem_reasons) List.Pairwise.nil
  refine ⟨found, ?_, hsorted, fun type => by simpa using hmem type⟩
  have hcolumn : ["line", "column_idx", "column_name", "error_type", "csv_line",
      "error_message"].findIdx? (· == errorTypeColumn) = some 3 := by decide
  simp only [errorTypes, hrecords, List.zipIdx_cons, hnames, hcolumn]
  exact hfound

end Validation

/-! ## The outcome -/

/-- An outcome tells of rows what the engine has counted and decided. -/
structure Outcome.TellsOf (outcome : Outcome) (report : EngineReport) (schema : Schema)
    (rows : List Csv.Record) : Prop where
  rejected_eq : outcome.rejectedRows = report.rejected
  rejected_rows : report.rejected = (rows.filter fun row => ¬ schema.Conforms row).length
  hasErrors_iff : outcome.hasErrors = true ↔ 0 < report.rejected
  conforming_eq : outcome.conforming = report.conforming
  conforming_rows : report.conforming = (rows.filter fun row => schema.Conforms row).length
  fallback_eq : outcome.fallback = report.fallback
  /-- The reasons are distinct, and in ascending order. -/
  errorTypes_pairwise : outcome.errorTypes.Pairwise (· < ·)
  /-- They are the reasons for which the engine has rejected a row. -/
  mem_errorTypes_iff : ∀ type, type ∈ outcome.errorTypes ↔
    ∃ row ∈ rows, ∃ rejection, schema.Rejects row rejection ∧ rejection.kind.name = type

namespace Validation

variable {options : ReadOptions} {delimiter : UInt8} {schema : Schema} {rows : List Csv.Record}
  {network : Network} {report : EngineReport} {fs after : FileSystem} {source : Source}
  {staged reject : Path}

theorem outcomeOf_of_read {content : Bytes} {found : List String}
    (h : fs.read reject = .ok content) (htypes : errorTypes content = .ok found) :
    outcomeOf report fs reject = .ok
      { hasErrors := decide (1 < Csv.countRecords content)
        rejectCount := Csv.countRecords content
        errorTypes := if 1 < Csv.countRecords content then found else []
        conforming := report.conforming
        fallback := report.fallback } := by
  have hread : readErrorTypes fs reject = .ok found := by
    simp [readErrorTypes, h, htypes, Except.mapError]
  simp only [outcomeOf, contains_of_read h, countRecords_of_read h, if_true]
  split <;> simp [hread, Except.map]

/-- The outcome that is read off the records about the rejected rows tells of all rows. -/
theorem outcomeOf_reports
    (hrejected : report.rejected = (Pass.reports options delimiter schema rows).length)
    (hconforming : report.conforming = (Pass.kept schema rows).length)
    (h : fs.read reject = .ok (Csv.encodeRecords Bytes.comma
      (Pass.rejectHeader :: Pass.reports options delimiter schema rows))) :
    ∃ outcome, outcomeOf report fs reject = .ok outcome ∧ outcome.TellsOf report schema rows := by
  obtain ⟨found, hfound, hsorted, hmem⟩ := errorTypes_reports options delimiter schema rows
  refine ⟨_, outcomeOf_of_read h hfound, ?_⟩
  have hcount := countRecords_reports options delimiter schema rows
  rw [← hrejected] at hcount
  have hreports := (Pass.forall₂_reports options delimiter schema rows).length_eq
  have hreasons := (Pass.forall₂_reasons options delimiter schema rows).length_eq
  have htypes : (if 1 < report.rejected + 1 then found else []) = found := by
    split
    · rfl
    · next hnone =>
        -- no reason is read if there is no record below the header, but then there is none
        have hempty : Pass.reasons schema rows = [] := List.length_eq_zero_iff.mp (by omega)
        symm
        simpa [hempty, List.eq_nil_iff_forall_not_mem] using hmem
  simp only [hcount, htypes]
  exact {
    rejected_eq := by simp [Outcome.rejectedRows]
    rejected_rows := by rw [hrejected, ← hreports]
    hasErrors_iff := by simp
    conforming_eq := rfl
    conforming_rows := by simp [hconforming, Pass.kept]
    fallback_eq := rfl
    errorTypes_pairwise := hsorted
    mem_errorTypes_iff := fun type => (hmem type).trans Pass.mem_reasons }

/-- What the engine leaves is read as an outcome that tells of the rows of its source. -/
theorem outcomeOf_builtIn
    (h : (Engine.builtIn network).validate fs source options staged reject = (.ok report, after))
    (hdiffer : staged.location fs.home ≠ reject.location fs.home) :
    ∃ outcome dialect names rows, outcomeOf report after reject = .ok outcome ∧
      BuiltIn.ReadsAs network fs source options dialect names rows ∧
      dialect.quoting = report.fallback.isNone ∧
      outcome.TellsOf report (Pass.schemaOf options names rows) rows := by
  obtain ⟨content, names, rows, hload, hshows, -, hreport, -, hreject⟩ :=
    BuiltIn.validate_shows (BuiltIn.validate_of_builtIn h) hdiffer
  have hquoting : (BuiltIn.dialectOf options content).quoting = report.fallback.isNone := by
    simp [hreport]
  have hrejected : report.rejected =
      (Pass.reports options (BuiltIn.dialectOf options content).delimiter
        (Pass.schemaOf options names rows) rows).length :=
    congrArg EngineReport.rejected hreport
  have hconforming : report.conforming =
      (Pass.kept (Pass.schemaOf options names rows) rows).length :=
    congrArg EngineReport.conforming hreport
  obtain ⟨outcome, houtcome, htells⟩ := outcomeOf_reports hrejected hconforming hreject
  exact ⟨outcome, _, names, rows, houtcome, .of_shows hload hshows, hquoting, htells⟩

/-- Where the engine succeeds, so does validation, with an outcome that tells of the rows of the
source what the engine has counted and decided. The two paths have to be those of two files, or one
would be written over the other. -/
theorem run_builtIn {world : World}
    (h : (Engine.builtIn network).validate world.files source options staged reject =
      (.ok report, after))
    (hdiffer : staged.location world.files.home ≠ reject.location world.files.home)
    (isRemote : Bool) (displayName : String) :
    ∃ outcome dialect names rows,
      (Validation.run (.builtIn network) source options staged reject isRemote displayName).on
        world = (.ok outcome, { world with files := after }) ∧
      BuiltIn.ReadsAs network world.files source options dialect names rows ∧
      dialect.quoting = report.fallback.isNone ∧
      outcome.TellsOf report (Pass.schemaOf options names rows) rows := by
  obtain ⟨outcome, dialect, names, rows, houtcome, hreads, hquoting, htells⟩ :=
    outcomeOf_builtIn h hdiffer
  refine ⟨outcome, dialect, names, rows, ?_, hreads, hquoting, htells⟩
  rw [on_run_of_ok h, houtcome]
  rfl

/-- A document of two columns of numbers. Of the rows after the first three, one is too short and
has a line break in it, one is no text, and one is too long and has a quote and a comma in a
field. -/
def strayContent : Bytes :=
  Utf8.ofString "a,b\n1,2\n3,4\n5,6\n\"x\ny\"\n7," ++ 0xFF ::
    Utf8.ofString "\n8,9,\"1,\"\"0\"\n"

/-- A file system with the document in it. -/
def strayWorld : World :=
  World.initial ((FileSystem.empty []).put ["in.csv"] (.file strayContent)) .terminal

/-- What the engine leaves of the document. -/
def strayValidated : Except String EngineReport × FileSystem :=
  (Engine.builtIn .unreachable).validate strayWorld.files (.file ⟨"in.csv"⟩) {} ⟨"staged.csv"⟩
    ⟨"rejected.csv"⟩

/-- Each of these rows counts once, with its own reason. -/
theorem run_stray :
    ∃ outcome, ((Validation.run (.builtIn .unreachable) (.file ⟨"in.csv"⟩) {} ⟨"staged.csv"⟩
        ⟨"rejected.csv"⟩ false "in.csv").on strayWorld).1 = .ok outcome ∧
      strayValidated.1 = .ok ⟨3, 3, 2, none⟩ ∧
      (Path.mk "staged.csv").location [] ≠ (Path.mk "rejected.csv").location [] ∧
      outcome.rejectedRows = 3 ∧ outcome.hasErrors = true ∧ outcome.conforming = 3 ∧
      outcome.errorTypes = ["INVALID_UNICODE", "MISSING_COLUMNS", "TOO_MANY_COLUMNS"] := by
  have hresult : strayValidated.1 = .ok ⟨3, 3, 2, none⟩ := by decide +kernel
  have hvalidate : strayValidated = (.ok ⟨3, 3, 2, none⟩, strayValidated.2) := by
    rw [← hresult]
  have hdiffer : (Path.mk "staged.csv").location [] ≠ (Path.mk "rejected.csv").location [] := by
    decide
  obtain ⟨outcome, dialect, names, rows, hrun, hreads, hquoting, htells⟩ :=
    run_builtIn hvalidate hdiffer false "in.csv"
  have htypes : (((Validation.run (.builtIn .unreachable) (.file ⟨"in.csv"⟩) {} ⟨"staged.csv"⟩
      ⟨"rejected.csv"⟩ false "in.csv").on strayWorld).1.map Outcome.errorTypes).toOption =
        some ["INVALID_UNICODE", "MISSING_COLUMNS", "TOO_MANY_COLUMNS"] := by
    decide +kernel
  rw [hrun] at htypes
  exact ⟨outcome, congrArg Prod.fst hrun, hresult, hdiffer, htells.rejected_eq,
    htells.hasErrors_iff.mpr (by decide), htells.conforming_eq, Option.some.inj htypes⟩

end Validation

namespace Session

variable {session : Session} {argument : String} {options : Options} {world judged : World}
  {settings : Settings} {resolved : Resolved} {outcome : Outcome}

/-- The outcome that a run acts on is what the report of its engine and the file of rejected rows
stand for. -/
theorem Assesses.outcomeOf
    (h : session.Assesses argument options world settings resolved outcome judged) :
    ∃ files after report,
      session.engine.validate files resolved.source { skipRows := settings.skipRows }
        (session.staged settings (.ofArgument argument))
        (session.reject settings (.ofArgument argument)) = (.ok report, after) ∧
      Validation.outcomeOf report after (session.reject settings (.ofArgument argument)) =
        .ok outcome := by
  obtain ⟨start, -, hassess⟩ := h
  rw [on_assess] at hassess
  split at hassess
  · simp at hassess
  · next found middle _ =>
      split at hassess
      · simp at hassess
      · next hvalidate =>
          obtain ⟨rfl, rfl⟩ := Prod.mk.inj (Except.ok.inj (Prod.mk.inj hassess).1)
          obtain ⟨report, after, hresult, houtcome, -⟩ := Validation.run_ok hvalidate
          exact ⟨middle.files, after, report, hresult, houtcome⟩

/-- With the built-in engine, the outcome that a run acts on tells of the rows of its resolved
input: the two files of the engine have different names in every run. -/
theorem Assesses.tellsOf {network : Network} (hengine : session.engine = .builtIn network)
    (h : session.Assesses argument options world settings resolved outcome judged) :
    ∃ files report dialect names rows,
      ((Engine.builtIn network).validate files resolved.source { skipRows := settings.skipRows }
        (session.staged settings (.ofArgument argument))
        (session.reject settings (.ofArgument argument))).1 = .ok report ∧
      BuiltIn.ReadsAs network files resolved.source { skipRows := settings.skipRows } dialect names
        rows ∧
      dialect.quoting = report.fallback.isNone ∧
      outcome.TellsOf report (Pass.schemaOf { skipRows := settings.skipRows } names rows) rows := by
  obtain ⟨files, after, report, hresult, houtcome⟩ := h.outcomeOf
  rw [hengine] at hresult
  have hdiffer : (session.staged settings (.ofArgument argument)).location files.home ≠
      (session.reject settings (.ofArgument argument)).location files.home :=
    stagedPath_ne_rejectPath files.home _ settings _
  obtain ⟨found, dialect, names, rows, hfound, hreads, hquoting, htells⟩ :=
    Validation.outcomeOf_builtIn hresult hdiffer
  obtain rfl : found = outcome := Except.ok.inj (hfound.symm.trans houtcome)
  exact ⟨files, report, dialect, names, rows, congrArg Prod.fst hresult, hreads, hquoting, htells⟩

end Session

end TidyCsv
