import TidyCsv.Proofs.Engine.Lines

/-! # Documents without a quote

Whether quotes are heeded makes no difference to a document that has none: a reader that heeds them
never gets between quotes, and outside of them both readers do the same. So both passes are one, and
the second one never counts. -/

namespace TidyCsv

/-! ## Two readers -/

namespace Csv

/-- A reader that is not between quotes, nor after a quote that may close them. -/
def Scan.Outside (s : Scan) : Prop := s.place ≠ .quoted ∧ s.place ≠ .quoteSeen

namespace Scan

variable {s : Scan} {b : UInt8} {dialect : Dialect} {bytes : Bytes}

theorem outside_readPlain (s : Scan) (dialect : Dialect) (b : UInt8) :
    (s.readPlain dialect b).Outside := by
  unfold Scan.readPlain
  split
  · simp [Outside, Scan.endField]
  · split
    · simp [Outside, Scan.endRecord]
    · simp [Outside, Scan.push]

theorem openField_of_ne_quote (hb : b ≠ Bytes.quote) :
    s.openField dialect b = s.readPlain dialect b := by
  simp [Scan.openField, hb]

theorem Outside.step_eq (h : s.Outside) (hb : b ≠ Bytes.quote) :
    s.step dialect b =
      if s.place = .recordStart ∧ isTerminator b then { s with here := s.here.advance b }
      else Scan.readPlain dialect { s with here := s.here.advance b } b := by
  obtain ⟨hquoted, hseen⟩ := h
  cases hplace : s.place with
  | quoted => exact absurd hplace hquoted
  | quoteSeen => exact absurd hplace hseen
  | recordStart => simp [Scan.step, hplace, openField_of_ne_quote hb]
  | fieldStart => simp [Scan.step, hplace, openField_of_ne_quote hb]
  | unquoted => simp [Scan.step, hplace]

theorem Outside.step (h : s.Outside) (hb : b ≠ Bytes.quote) : (s.step dialect b).Outside := by
  rw [h.step_eq hb]
  split
  · exact h
  · exact outside_readPlain _ dialect b

/-- Without a quote, two readers that differ in whether they heed quotes stay one. -/
theorem Outside.foldl_eq (h : s.Outside) (hbytes : Bytes.quote ∉ bytes) (delimiter : UInt8)
    (quoting quoting' : Bool) :
    bytes.foldl (Scan.step ⟨delimiter, quoting⟩) s =
      bytes.foldl (Scan.step ⟨delimiter, quoting'⟩) s := by
  induction bytes generalizing s with
  | nil => rfl
  | cons b rest ih =>
      obtain ⟨hb, hrest⟩ : b ≠ Bytes.quote ∧ Bytes.quote ∉ rest := by
        simpa [eq_comm] using hbytes
      have hsame : s.step ⟨delimiter, quoting⟩ b = s.step ⟨delimiter, quoting'⟩ b := by
        rw [h.step_eq hb, h.step_eq hb]
        rfl
      rw [List.foldl_cons, List.foldl_cons, hsame]
      exact ih (h.step hb) hrest

end Scan

variable {bytes : Bytes}

theorem recordsFrom_of_unquoted (hbytes : Bytes.quote ∉ bytes) (delimiter : UInt8)
    (quoting quoting' : Bool) (start : Position) :
    recordsFrom ⟨delimiter, quoting⟩ start bytes = recordsFrom ⟨delimiter, quoting'⟩ start bytes := by
  have hstart : (Scan.initial start).Outside := by simp [Scan.Outside, Scan.initial]
  simp only [recordsFrom, hstart.foldl_eq hbytes delimiter quoting quoting']

theorem records_of_unquoted (hbytes : Bytes.quote ∉ bytes) (delimiter : UInt8)
    (quoting quoting' : Bool) (atHand : Nat) :
    records ⟨delimiter, quoting⟩ atHand bytes = records ⟨delimiter, quoting'⟩ atHand bytes := by
  have hrest : Bytes.quote ∉ bytes.drop Bytes.utf8Mark.length :=
    fun hmem => hbytes (List.mem_of_mem_drop hmem)
  simp only [records, recordsFrom_of_unquoted hbytes delimiter quoting quoting',
    recordsFrom_of_unquoted hrest delimiter quoting quoting']

end Csv

/-! ## Two passes -/

namespace Pass

variable {content : Bytes}

theorem recordsOf_of_unquoted (hcontent : Bytes.quote ∉ content) (options : ReadOptions)
    (delimiter : UInt8) (quoting quoting' : Bool) :
    recordsOf options ⟨delimiter, quoting⟩ content =
      recordsOf options ⟨delimiter, quoting'⟩ content := by
  obtain ⟨dropped, hdropped, -⟩ := Bytes.exists_dropped options.skipRows content
  have hrest : Bytes.quote ∉ Bytes.dropLines options.skipRows content := by
    intro hmem
    rw [hdropped] at hcontent
    exact hcontent (List.mem_append_right dropped hmem)
  exact Csv.records_of_unquoted hrest delimiter quoting quoting' _

/-- Without a quote, a pass that heeds quotes and one that does not count the same, write the same
files, and fail in the same way. -/
theorem run_of_unquoted (hcontent : Bytes.quote ∉ content) (options : ReadOptions)
    (delimiter : UInt8) (quoting quoting' : Bool) :
    run options ⟨delimiter, quoting⟩ content = run options ⟨delimiter, quoting'⟩ content := by
  have hdocument : document options ⟨delimiter, quoting⟩ content =
      document options ⟨delimiter, quoting'⟩ content := by
    simp only [document, recordsOf_of_unquoted hcontent options delimiter quoting quoting']
  simp only [run, hdocument]

end Pass

/-! ## The engine -/

namespace BuiltIn

variable {network : Network} {fs after : FileSystem} {source : Source} {options : ReadOptions}
  {output reject : Path} {content : Bytes} {report : EngineReport}

theorem retry?_of_unquoted {delimiter : UInt8} {strict : Pass.Tally} {files : Pass.Files}
    (hcontent : Bytes.quote ∉ content)
    (hrun : Pass.run options ⟨delimiter, true⟩ content = (.ok strict, files)) :
    retry? options delimiter content strict = .ok none := by
  have hsame : Pass.run options ⟨delimiter, false⟩ content = (.ok strict, files) :=
    (Pass.run_of_unquoted hcontent options delimiter false true).trans hrun
  exact retry?_eq_none_iff.mpr (.inr ⟨strict, files, hsame, Nat.le_refl _⟩)

/-- No fallback is reported of a source without a quote. -/
theorem fallback_of_unquoted
    (h : validate network fs source options output reject = (.ok report, after))
    (hload : Loads network fs source content) (hcontent : Bytes.quote ∉ content) :
    report.fallback = none := by
  obtain ⟨found, strict, files, hcompletes⟩ := completes_of_ok h
  obtain rfl := hload.unique hcompletes.loads
  obtain ⟨kept, rejected, emptied, -, -, -, -, hvalidate⟩ := validate_of_completes hcompletes
  rw [hvalidate, retry?_of_unquoted hcontent hcompletes.run_eq] at h
  obtain rfl : reportAs true strict = report := Except.ok.inj (Prod.mk.inj h).1
  rfl

end BuiltIn

end TidyCsv
