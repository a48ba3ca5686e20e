import TidyCsv.Proofs.Csv.Beginnings
import TidyCsv.Proofs.Engine.BuiltIn

/-! # The lines of rejected rows

The record about a rejected row gives the line on which the row before it has ended. This is the
line of the row itself only if no line feed comes in between, as it does after a carriage return and
with a blank line. -/

namespace TidyCsv

/-! ## Lines that are passed over -/

namespace Bytes

theorem exists_line (bytes : Bytes) :
    ∃ line, bytes = line ++ afterLine bytes ∧
      (afterLine bytes ≠ [] → line.count newline = 1) := by
  induction bytes with
  | nil => exact ⟨[], rfl, fun hmore => absurd rfl hmore⟩
  | cons b rest ih =>
      by_cases hb : b = newline
      · refine ⟨[b], by simp [afterLine, hb], fun _ => ?_⟩
        rw [hb]
        exact List.count_singleton_self
      · obtain ⟨line, hline, hcount⟩ := ih
        simp only [afterLine, if_neg hb]
        exact ⟨b :: line, by rw [List.cons_append, ← hline],
          fun hmore => by rw [List.count_cons_of_ne hb, hcount hmore]⟩

theorem exists_dropped (n : Nat) (bytes : Bytes) :
    ∃ dropped, bytes = dropped ++ dropLines n bytes ∧
      (dropLines n bytes ≠ [] → dropped.count newline = n) := by
  induction n generalizing bytes with
  | zero => exact ⟨[], rfl, fun _ => rfl⟩
  | succ n ih =>
      cases bytes with
      | nil => exact ⟨[], rfl, fun hmore => absurd rfl hmore⟩
      | cons b rest =>
          obtain ⟨line, hline, hone⟩ := exists_line (b :: rest)
          obtain ⟨dropped, hdropped, hcount⟩ := ih (afterLine (b :: rest))
          refine ⟨line ++ dropped, ?_, fun hmore => ?_⟩
          · rw [dropLines, List.append_assoc, ← hdropped, ← hline]
          · have hafter : afterLine (b :: rest) ≠ [] := by
              intro hempty
              rw [dropLines, hempty] at hmore
              cases n with
              | zero => exact hmore rfl
              | succ n => exact hmore rfl
            rw [List.count_append, hone hafter, hcount hmore, Nat.add_comm]

end Bytes

/-! ## Where a row begins -/

namespace Pass

variable {options : ReadOptions} {dialect : Csv.Dialect} {content closed gap : Bytes} {index : Nat}

/-- The first byte of a record of a document comes after `closed ++ gap`. With `closed` ends the
record before it, and the lines that are passed over are part of it. -/
inductive BeginsAfter (options : ReadOptions) (dialect : Csv.Dialect) (content : Bytes)
    (index : Nat) : Bytes → Bytes → Prop where
  | skipped {skipped closed gap : Bytes}
      (hcontent : content = skipped ++ Bytes.dropLines options.skipRows content)
      (h : Csv.BeginsAfter dialect
        (Csv.bytesAtHand
          (content.length - (Bytes.dropLines options.skipRows content).length))
        (Bytes.dropLines options.skipRows content) index closed gap) :
      BeginsAfter options dialect content index (skipped ++ closed) gap

theorem BeginsAfter.split (h : BeginsAfter options dialect content index closed gap) :
    ∃ b rest, Csv.isTerminator b = false ∧ content = closed ++ (gap ++ b :: rest) := by
  cases h with
  | skipped hcontent h =>
      obtain ⟨b, rest, hb, hrest⟩ := h.split
      exact ⟨b, rest, hb, by rw [List.append_assoc, ← hrest, ← hcontent]⟩

theorem BeginsAfter.isTerminator_of_mem_gap
    (h : BeginsAfter options dialect content index closed gap) :
    ∀ b ∈ gap, Csv.isTerminator b = true := by
  cases h with
  | skipped hcontent h => exact h.isTerminator_of_mem_gap

/-- The line that the record about a rejected row gives. -/
def reportedLine (options : ReadOptions) (row : Csv.Record) : Nat :=
  row.start.line + options.skipRows

theorem BeginsAfter.reportedLine_eq (h : BeginsAfter options dialect content index closed gap)
    {row : Csv.Record} (hrow : (recordsOf options dialect content)[index]? = some row) :
    reportedLine options row = 1 + closed.count Bytes.newline := by
  cases h with
  | @skipped skipped closed gap hcontent h =>
      obtain ⟨record, hrecord, hline⟩ := h.line_eq
      obtain ⟨b, rest, -, hrest⟩ := h.split
      have hmore : Bytes.dropLines options.skipRows content ≠ [] := by
        rw [hrest]
        simp
      obtain ⟨dropped, hdropped, hcount⟩ := Bytes.exists_dropped options.skipRows content
      obtain rfl : skipped = dropped := List.append_cancel_right (hcontent.symm.trans hdropped)
      obtain rfl : record = row := Option.some.inj (hrecord.symm.trans hrow)
      rw [reportedLine, hline, List.count_append, hcount hmore]
      omega

theorem exists_beginsAfter {row : Csv.Record}
    (hrow : (recordsOf options dialect content)[index]? = some row) :
    ∃ closed gap, BeginsAfter options dialect content index closed gap := by
  obtain ⟨hindex, -⟩ := List.getElem?_eq_some_iff.mp hrow
  obtain ⟨closed, gap, hbegins⟩ := Csv.exists_beginsAfter hindex
  obtain ⟨skipped, hskipped, -⟩ := Bytes.exists_dropped options.skipRows content
  exact ⟨skipped ++ closed, gap, .skipped hskipped hbegins⟩

/-- What the line that is reported for a row tells of the place where the row begins, which is after
`closed ++ gap`. -/
structure TellsLine (options : ReadOptions) (content : Bytes) (row : Csv.Record)
    (closed gap : Bytes) : Prop where
  split : ∃ b rest, Csv.isTerminator b = false ∧ content = closed ++ (gap ++ b :: rest)
  between : ∀ b ∈ gap, Csv.isTerminator b = true
  line : reportedLine options row = 1 + closed.count Bytes.newline
  /-- It is the line of the first byte of the row exactly if there is no line feed before that and
  after the end of the record before. -/
  exact_iff : reportedLine options row = 1 + (closed ++ gap).count Bytes.newline ↔
    Bytes.newline ∉ gap

theorem BeginsAfter.tellsLine (h : BeginsAfter options dialect content index closed gap)
    {row : Csv.Record} (hrow : (recordsOf options dialect content)[index]? = some row) :
    TellsLine options content row closed gap := by
  have hline := h.reportedLine_eq hrow
  refine ⟨h.split, h.isTerminator_of_mem_gap, hline, ?_⟩
  rw [hline, List.count_append, ← List.count_eq_zero]
  omega

theorem head?_of_reports {delimiter : UInt8} {schema : Schema} {row : Csv.Record}
    {record : List Bytes} (h : Reports options delimiter schema row record) :
    record.head? = some (Utf8.ofString (toString (reportedLine options row))) := by
  obtain ⟨rejection, -, rfl⟩ := reports_iff.mp h
  rfl

end Pass

namespace BuiltIn

open FileSystem

/-- The file of rejected rows gives a line for each of them. It is the one on which the reading of
the row began, where the record before it had ended, and so it is the line of the first byte of the
row unless a line feed comes between the two. -/
theorem validate_lines {network : Network} {fs after : FileSystem} {source : Source}
    {options : ReadOptions} {output reject : Path} {report : EngineReport}
    (h : (Engine.builtIn network).validate fs source options output reject = (.ok report, after))
    (hdiffer : output.location fs.home ≠ reject.location fs.home) :
    ∃ (content : Bytes) (names : List String) (rows : List Csv.Record) (written : Bytes)
        (records : List (List Bytes)),
      Loads network fs source content ∧ Shows options content names rows ∧
      after.read reject = .ok written ∧
      (Csv.fileRecords .standard written).map Csv.Record.fields = Pass.rejectHeader :: records ∧
      List.Forall₂ (fun row record =>
          record.head? = some (Utf8.ofString (toString (Pass.reportedLine options row))))
        (rows.filter fun row => ¬ (Pass.schemaOf options names rows).Conforms row) records ∧
      ∀ index row, rows[index]? = some row →
        (∃ closed gap,
          Pass.BeginsAfter options (dialectOf options content) content (index + 1) closed gap) ∧
        ∀ closed gap,
          Pass.BeginsAfter options (dialectOf options content) content (index + 1) closed gap →
          Pass.TellsLine options content row closed gap := by
  obtain ⟨content, names, rows, hloads, hshows, -, -, -, hreject⟩ :=
    validate_shows (validate_of_builtIn h) hdiffer
  obtain ⟨first, hrecords, hnames⟩ := hshows
  refine ⟨content, names, rows, _, _, hloads, ⟨first, hrecords, hnames⟩, hreject,
    Pass.fileRecords_reports options _ _ rows, ?_, ?_⟩
  · exact (Pass.forall₂_reports options _ _ rows).imp fun _ _ => Pass.head?_of_reports
  · intro index row hrow
    have hrow' : (Pass.recordsOf options (dialectOf options content) content)[index + 1]? =
        some row := by
      rw [hrecords, List.getElem?_cons_succ, hrow]
    exact ⟨Pass.exists_beginsAfter hrow', fun _ _ hbegins => hbegins.tellsLine hrow'⟩

/-- A document whose lines end with a carriage return and a line feed, and whose row is too
short. -/
def pairsContent : Bytes := Utf8.ofString "a,b\r\n1\r\n"

/-- A file system with the document in it. -/
def pairsFiles : FileSystem := (FileSystem.empty []).put ["in.csv"] (.file pairsContent)

/-- What the engine leaves of the document. -/
def pairsValidated : Except String EngineReport × FileSystem :=
  (Engine.builtIn .unreachable).validate pairsFiles (.file ⟨"in.csv"⟩) {} ⟨"out.csv"⟩
    ⟨"rejected.csv"⟩

/-- Between the header and the row stands the line feed of the pair. -/
theorem beginsAfter_pairs : Pass.BeginsAfter {} (dialectOf {} pairsContent) pairsContent 1
    (Utf8.ofString "a,b\r") [Bytes.newline] := by
  have hopens : Csv.OpensAfter (dialectOf {} pairsContent) ⟨0, 1⟩ pairsContent 1
      (Utf8.ofString "a,b\r") [Bytes.newline] := by
    refine ⟨⟨0x31, Utf8.ofString "\r\n", ?_, ?_⟩, ?_, ?_, ?_,
      .inr ⟨Utf8.ofString "a,b", Bytes.carriageReturn, ?_, ?_⟩⟩
    all_goals decide +kernel
  exact @Pass.BeginsAfter.skipped {} _ pairsContent 1 [] _ _ rfl
    (.unmarked (by decide) hopens)

/-- The row on the second line is reported on the first. -/
theorem validate_lines_pairs :
    pairsValidated.1 = .ok ⟨0, 1, 2, none⟩ ∧
      (Path.mk "out.csv").location [] ≠ (Path.mk "rejected.csv").location [] ∧
      ∃ names row, Shows {} pairsContent names [row] ∧
        Pass.BeginsAfter {} (dialectOf {} pairsContent) pairsContent 1 (Utf8.ofString "a,b\r")
          [Bytes.newline] ∧
        Pass.reportedLine {} row = 1 ∧
        Pass.reportedLine {} row ≠
          1 + (Utf8.ofString "a,b\r" ++ [Bytes.newline]).count Bytes.newline := by
  have hresult : pairsValidated.1 = .ok ⟨0, 1, 2, none⟩ := by decide +kernel
  have hvalidate : pairsValidated = (.ok ⟨0, 1, 2, none⟩, pairsValidated.2) := by rw [← hresult]
  have hdiffer : (Path.mk "out.csv").location [] ≠ (Path.mk "rejected.csv").location [] := by
    decide +kernel
  obtain ⟨content, names, rows, -, -, hloads, ⟨first, hrecords, hnames⟩, -, -, -, hlines⟩ :=
    validate_lines hvalidate hdiffer
  have hread : pairsFiles.read ⟨"in.csv"⟩ = .ok pairsContent := by decide
  obtain rfl : pairsContent = content :=
    Except.ok.inj (hread.symm.trans (loads_file_iff.mp hloads))
  have hcount : (Pass.recordsOf {} (dialectOf {} pairsContent) pairsContent).length = 2 := by
    decide +kernel
  obtain ⟨row, rfl⟩ : ∃ row, rows = [row] := by
    rw [hrecords] at hcount
    exact List.length_eq_one_iff.mp (Nat.succ.inj hcount)
  have htells := (hlines 0 row rfl).2 _ _ beginsAfter_pairs
  have hline : Pass.reportedLine {} row = 1 := htells.line.trans (by decide)
  refine ⟨hresult, hdiffer, names, row, ⟨first, hrecords, hnames⟩, beginsAfter_pairs, hline, ?_⟩
  intro hsame
  exact htells.exact_iff.mp hsame (by simp)

end BuiltIn

end TidyCsv
