import TidyCsv.Proofs.Engine.BuiltIn

/-! # The second pass

A document of which more rows are rejected than kept is read again without heeding quotes. Whichever
pass counts, both files and the report are those of it alone. The header is read anew too, and if it
is no text to the second pass, then the validation fails, although the first pass was completed. -/

namespace TidyCsv

namespace Pass

/-! ## The passes over one document -/

variable {options : ReadOptions} {dialect : Csv.Dialect} {content : Bytes} {tally : Tally}
  {files : Files}

/-- The file of rejected rows has a record for each of them below its header, all of one width. -/
theorem fileRecords_reject_of_run_ok (h : run options dialect content = (.ok tally, files)) :
    (Csv.fileRecords .standard files.reject).length = tally.rejected + 1 ∧
      ∀ record ∈ Csv.fileRecords .standard files.reject, record.fields.length = 6 := by
  obtain ⟨first, rows, names, hrecords, hnames⟩ := names_of_run_ok h
  rw [run_of_names hrecords hnames] at h
  obtain ⟨htally, rfl⟩ := Prod.mk.inj h
  obtain rfl := Except.ok.inj htally
  have hreads := fileRecords_reports options dialect.delimiter (schemaOf options names rows) rows
  constructor
  · simpa using congrArg List.length hreads
  · intro record hrecord
    have hmem := List.mem_map_of_mem (f := Csv.Record.fields) hrecord
    rw [hreads] at hmem
    rcases List.mem_cons.mp hmem with hheader | hreport
    · rw [hheader]
      rfl
    · exact length_of_mem_reports hreport

/-- The first record of a document is no text in a dialect. -/
def HeaderLost (options : ReadOptions) (dialect : Csv.Dialect) (content : Bytes) : Prop :=
  ∃ first rows, recordsOf options dialect content = first :: rows ∧ first.text? = none

/-- A document that has a record in one dialect has one in every other. -/
theorem recordsOf_ne_nil_of_run_ok (h : run options dialect content = (.ok tally, files))
    (other : Csv.Dialect) : recordsOf options other content ≠ [] := by
  obtain ⟨first, rows, names, hrecords, -⟩ := names_of_run_ok h
  intro hempty
  have hnone : recordsOf options dialect content = [] :=
    (Csv.records_eq_nil_iff other dialect _ _).mp hempty
  simp [hnone] at hrecords

/-- A document that one pass has read to its end is read to its end by every other pass that can
read its header. -/
theorem run_of_run_ok (h : run options dialect content = (.ok tally, files))
    (other : Csv.Dialect) :
    (HeaderLost options other content ∧
        (run options other content).1 = .error .headerNotUtf8) ∨
      (¬ HeaderLost options other content ∧
        ∃ tally' files', run options other content = (.ok tally', files')) := by
  obtain ⟨first, rows, hrecords⟩ := List.exists_cons_of_ne_nil (recordsOf_ne_nil_of_run_ok h other)
  cases htext : first.text? with
  | none =>
      have hnames : columnNames? first = none := by simp [columnNames?, htext]
      exact .inl ⟨⟨first, rows, hrecords, htext⟩, by rw [run_of_headerNotUtf8 hrecords hnames]⟩
  | some cells =>
      have hnames : columnNames? first = some (cells.mapIdx columnName) := by
        simp [columnNames?, htext]
      refine .inr ⟨?_, _, _, run_of_names hrecords hnames⟩
      rintro ⟨first', rows', hrecords', hlost⟩
      obtain ⟨rfl, -⟩ := List.cons.inj (hrecords.symm.trans hrecords')
      simp [htext] at hlost

end Pass

namespace BuiltIn

variable {network : Network} {fs after : FileSystem} {source : Source} {options : ReadOptions}
  {output reject : Path} {content : Bytes} {strict : Pass.Tally} {files : Pass.Files}
  {report : EngineReport}

/-! ## One pass counts -/

/-- The counts of a report and both files are those of one pass. -/
structure OfPass (report : EngineReport) (fs : FileSystem) (output reject : Path)
    (tally : Pass.Tally) (files : Pass.Files) : Prop where
  conforming_eq : report.conforming = tally.conforming
  rejected_eq : report.rejected = tally.rejected
  columns_eq : report.columns = tally.columns
  output_eq : fs.read output = .ok files.output
  reject_eq : fs.read reject = .ok files.reject

theorem ofPass_reportAs {quoting : Bool} {tally : Pass.Tally}
    (houtput : after.read output = .ok files.output)
    (hreject : after.read reject = .ok files.reject) :
    OfPass (reportAs quoting tally) after output reject tally files :=
  ⟨rfl, rfl, rfl, houtput, hreject⟩

/-- A validation that succeeds, with its two files at two locations, leaves what one pass wrote and
counted. Without a fallback that is the pass that heeds quotes, which then kept at least as many rows
as it rejected, or rejected no more than the other pass. With a fallback it is the other pass, which
then rejected fewer. The file of rejected rows reads as its header and a record for each row that is
counted as rejected. -/
theorem validate_onePass
    (h : validate network fs source options output reject = (.ok report, after))
    (hdiffer : output.location fs.home ≠ reject.location fs.home) :
    ∃ content strict strictFiles, Loads network fs source content ∧
      Pass.run options ⟨delimiterOf options content, true⟩ content = (.ok strict, strictFiles) ∧
      (report.fallback = none →
        OfPass report after output reject strict strictFiles ∧
          (strict.rejected ≤ strict.conforming ∨
            ∃ relaxed relaxedFiles, Pass.run options ⟨delimiterOf options content, false⟩ content =
              (.ok relaxed, relaxedFiles) ∧ strict.rejected ≤ relaxed.rejected)) ∧
      (∀ fallback, report.fallback = some fallback →
        fallback.strictMode = false ∧
          ∃ relaxed relaxedFiles, Pass.run options ⟨delimiterOf options content, false⟩ content =
            (.ok relaxed, relaxedFiles) ∧
            OfPass report after output reject relaxed relaxedFiles ∧
            relaxed.rejected < strict.rejected) ∧
      ∃ bytes, after.read reject = .ok bytes ∧
        (Csv.fileRecords .standard bytes).length = report.rejected + 1 ∧
        ∀ record ∈ Csv.fileRecords .standard bytes, record.fields.length = 6 := by
  obtain ⟨content, strict, strictFiles, quoting, tally, files, hcompletes, hrun, hretry, rfl,
    houtput, hreject⟩ := validate_ok h hdiffer
  have hpass : OfPass (reportAs quoting tally) after output reject tally files :=
    ofPass_reportAs houtput hreject
  obtain ⟨hcount, hfields⟩ := Pass.fileRecords_reject_of_run_ok hrun
  rw [← hpass.rejected_eq] at hcount
  refine ⟨content, strict, strictFiles, hcompletes.loads, hcompletes.run_eq, ?_, ?_, files.reject,
    hreject, hcount, hfields⟩
  · intro hfallback
    cases quoting with
    | false => simp [reportAs, reportOf] at hfallback
    | true =>
        obtain ⟨htally, rfl⟩ := Prod.mk.inj (hcompletes.run_eq.symm.trans hrun)
        obtain rfl := Except.ok.inj htally
        exact ⟨hpass, retry?_eq_none_iff.mp hretry⟩
  · intro fallback hfallback
    cases quoting with
    | true => simp [reportAs, reportOf] at hfallback
    | false =>
        obtain rfl : Fallback.mk false = fallback := by
          simpa [reportAs, reportOf] using hfallback
        obtain ⟨-, -, hfewer⟩ := retry?_eq_some_iff.mp hretry
        exact ⟨rfl, tally, files, hrun, hpass, hfewer⟩

/-- A document with a quote that is not closed. -/
def unbalancedContent : Bytes := Utf8.ofString "a,b,c\n1,\"oops,2\n3,4,5\n6,7,8\n"

/-- What the engine leaves of the document. -/
def unbalancedValidated : Except EngineFault EngineReport × FileSystem :=
  validate .unreachable ((FileSystem.empty []).put ["in.csv"] (.file unbalancedContent))
    (.file ⟨"in.csv"⟩) {} ⟨"out.csv"⟩ ⟨"rejected.csv"⟩

/-- The quote swallows all rows, and so the pass counts that does not heed it. -/
theorem validate_unbalanced :
    unbalancedValidated.1 = .ok ⟨3, 0, 3, some ⟨false⟩⟩ ∧
      (Path.mk "out.csv").location [] ≠ (Path.mk "rejected.csv").location [] ∧
      ∃ content strict strictFiles relaxed relaxedFiles,
        Pass.run {} ⟨delimiterOf {} content, true⟩ content = (.ok strict, strictFiles) ∧
        Pass.run {} ⟨delimiterOf {} content, false⟩ content = (.ok relaxed, relaxedFiles) ∧
        OfPass ⟨3, 0, 3, some ⟨false⟩⟩ unbalancedValidated.2 ⟨"out.csv"⟩ ⟨"rejected.csv"⟩ relaxed
          relaxedFiles ∧
        relaxed.rejected < strict.rejected := by
  have hresult : unbalancedValidated.1 = .ok ⟨3, 0, 3, some ⟨false⟩⟩ := by decide +kernel
  have hvalidate : unbalancedValidated = (.ok ⟨3, 0, 3, some ⟨false⟩⟩, unbalancedValidated.2) := by
    rw [← hresult]
  have hdiffer : (Path.mk "out.csv").location [] ≠ (Path.mk "rejected.csv").location [] := by
    decide +kernel
  obtain ⟨content, strict, strictFiles, -, hstrict, -, hsome, -⟩ :=
    validate_onePass hvalidate hdiffer
  obtain ⟨-, relaxed, relaxedFiles, hrelaxed, hpass, hfewer⟩ := hsome ⟨false⟩ rfl
  exact ⟨hresult, hdiffer, content, strict, strictFiles, relaxed, relaxedFiles, hstrict, hrelaxed,
    hpass, hfewer⟩

/-! ## A second pass that fails -/

/-- A validation whose first pass was completed fails exactly if there is a second pass that cannot
read the header. Otherwise it succeeds and reports no more rejected rows than the first pass had. -/
theorem validate_completed
    (h : Completes network fs source options output reject content strict files) :
    (strict.conforming < strict.rejected →
        Pass.HeaderLost options ⟨delimiterOf options content, false⟩ content →
        (validate network fs source options output reject).1 = .error (.pass .headerNotUtf8)) ∧
      (strict.rejected ≤ strict.conforming ∨
          ¬ Pass.HeaderLost options ⟨delimiterOf options content, false⟩ content →
        ∃ report, (validate network fs source options output reject).1 = .ok report ∧
          report.rejected ≤ strict.rejected) := by
  obtain ⟨kept, rejected, emptied, -, -, -, -, hvalidate⟩ := validate_of_completes h
  rw [hvalidate]
  have hsecond := Pass.run_of_run_ok h.run_eq ⟨delimiterOf options content, false⟩
  constructor
  · intro hmore hlost
    obtain ⟨-, hfault⟩ := hsecond.resolve_right fun hreads => hreads.1 hlost
    rw [retry?_eq_error_iff.mpr ⟨hmore, hfault⟩]
    rfl
  · intro hreads
    rcases hretry : retry? options (delimiterOf options content) content strict with
      fault | _ | ⟨relaxed, others⟩
    · obtain ⟨hmore, hfault⟩ := retry?_eq_error_iff.mp hretry
      obtain ⟨-, tally, files, hrun⟩ :=
        hsecond.resolve_left fun hlost => hreads.resolve_left (Nat.not_le.mpr hmore) hlost.1
      simp [hrun] at hfault
    · exact ⟨_, rfl, Nat.le_refl _⟩
    · obtain ⟨-, -, hfewer⟩ := retry?_eq_some_iff.mp hretry
      exact ⟨_, rfl, Nat.le_of_lt hfewer⟩

/-- A document whose header has a character with a quote between its two bytes, and whose only row
is too short. -/
def splitContent : Bytes := [0x22, 0xC3, 0x22, 0xA9] ++ Utf8.ofString ",b\n1\n"

/-- A file system with the document in it. -/
def splitFiles : FileSystem := (FileSystem.empty []).put ["in.csv"] (.file splitContent)

theorem headerLost_split :
    Pass.HeaderLost {} ⟨delimiterOf {} splitContent, false⟩ splitContent := by
  refine ⟨(Pass.recordsOf {} ⟨Bytes.comma, false⟩ splitContent).headI,
    (Pass.recordsOf {} ⟨Bytes.comma, false⟩ splitContent).tail, ?_, ?_⟩
  all_goals decide

/-- The first pass reads the header and rejects the row, and then the second one fails. -/
theorem validate_split :
    ∃ files, Completes .unreachable splitFiles (.file ⟨"in.csv"⟩) {} ⟨"out.csv"⟩ ⟨"rejected.csv"⟩
        splitContent ⟨0, 1, 2⟩ files ∧
      (validate .unreachable splitFiles (.file ⟨"in.csv"⟩) {} ⟨"out.csv"⟩ ⟨"rejected.csv"⟩).1 =
        .error (.pass .headerNotUtf8) := by
  have hempty : (writeBoth splitFiles ⟨"out.csv"⟩ ⟨"rejected.csv"⟩ ⟨[], []⟩).1 = .ok () := by
    decide +kernel
  have hread : Loaded.read (.file ⟨"in.csv"⟩)
      (writeBoth splitFiles ⟨"out.csv"⟩ ⟨"rejected.csv"⟩ ⟨[], []⟩).2 = .ok splitContent := by
    decide +kernel
  have hrun : (Pass.run {} ⟨delimiterOf {} splitContent, true⟩ splitContent).1 = .ok ⟨0, 1, 2⟩ := by
    decide +kernel
  have hcompletes : Completes .unreachable splitFiles (.file ⟨"in.csv"⟩) {} ⟨"out.csv"⟩
      ⟨"rejected.csv"⟩ splitContent ⟨0, 1, 2⟩ _ :=
    ⟨.file ⟨"in.csv"⟩, _, by decide +kernel, Prod.ext hempty rfl, hread, Prod.ext hrun rfl⟩
  exact ⟨_, hcompletes, (validate_completed hcompletes).1 (by decide) headerLost_split⟩

end BuiltIn

end TidyCsv
