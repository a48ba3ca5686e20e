import TidyCsv.Proofs.Csv.RoundTrip

/-! # Documents that open with the mark

A document opens with the mark if its first field does, and then it is not read as it was written:
the mark is dropped, and with it the record if that was all that it held. The records that are read
are still as wide as those that were written. -/

namespace TidyCsv.Csv

variable {delimiter : UInt8}

theorem needsQuotes_of_utf8Mark_isPrefix {field : Bytes}
    (h : Bytes.utf8Mark <+: encodeField delimiter field) : needsQuotes delimiter field = false := by
  rw [← Bool.not_eq_true]
  intro hquotes
  rw [encodeField, if_pos hquotes] at h
  exact absurd (List.cons_prefix_cons.mp h).1 (by decide)

theorem encodeField_utf8Mark_append {tail : Bytes}
    (h : needsQuotes delimiter (Bytes.utf8Mark ++ tail) = false) :
    encodeField delimiter (Bytes.utf8Mark ++ tail) =
      Bytes.utf8Mark ++ encodeField delimiter tail := by
  have htail : needsQuotes delimiter tail = false := by
    rw [needsQuotes, List.any_append, Bool.or_eq_false_iff] at h
    exact h.2
  simp only [encodeField, h, htail, Bool.false_eq_true, if_false]

theorem encodeFields_utf8Mark_append {tail : Bytes}
    (h : needsQuotes delimiter (Bytes.utf8Mark ++ tail) = false) (rest : List Bytes) :
    encodeFields delimiter ((Bytes.utf8Mark ++ tail) :: rest) =
      Bytes.utf8Mark ++ encodeFields delimiter (tail :: rest) := by
  cases rest with
  | nil => simp [encodeField_utf8Mark_append h]
  | cons next rest => simp [encodeField_utf8Mark_append h]

/-- A record that opens with the mark is a blank line after it, or another record. -/
theorem encodeRecord_utf8Mark_append {tail : Bytes}
    (h : needsQuotes delimiter (Bytes.utf8Mark ++ tail) = false) (rest : List Bytes) :
    encodeRecord delimiter ((Bytes.utf8Mark ++ tail) :: rest) =
      Bytes.utf8Mark ++
        if encodeFields delimiter (tail :: rest) = [] then [Bytes.newline]
        else encodeRecord delimiter (tail :: rest) := by
  have hmark : Bytes.utf8Mark ≠ [] := by decide
  split
  · next hempty => simp [encodeRecord, encodeFields_utf8Mark_append h, hempty, hmark]
  · next hline => simp [encodeRecord, encodeFields_utf8Mark_append h, hline, hmark]

theorem utf8Mark_append_of_isPrefix {field : Bytes}
    (h : Bytes.utf8Mark <+: encodeField delimiter field) :
    ∃ tail, field = Bytes.utf8Mark ++ tail ∧
      needsQuotes delimiter (Bytes.utf8Mark ++ tail) = false := by
  obtain ⟨tail, rfl⟩ := utf8Mark_isPrefix_encodeField h
  exact ⟨tail, rfl, needsQuotes_of_utf8Mark_isPrefix h⟩

theorem fileRecords_utf8Mark_append (dialect : Dialect) (rest : Bytes) :
    fileRecords dialect (Bytes.utf8Mark ++ rest) =
      recordsFrom dialect ⟨Bytes.utf8Mark.length, 1⟩ rest := by
  have hsize : Bytes.utf8Mark.length ≤ bytesAtHand 0 := by decide
  have hseen : Bytes.utf8Mark <+: (Bytes.utf8Mark ++ rest).take (bytesAtHand 0) :=
    List.prefix_take_iff.mpr ⟨List.prefix_append _ _, hsize⟩
  rw [fileRecords, records, if_pos (List.isPrefixOf_iff_prefix.mpr hseen), List.drop_left]

theorem recordsFrom_newline_encodeRecords (hd : Separates delimiter) (start : Position)
    {records : List (List Bytes)} (hrecords : ∀ record ∈ records, record ≠ []) :
    (recordsFrom ⟨delimiter, true⟩ start
      (Bytes.newline :: encodeRecords delimiter records)).map Record.fields = records := by
  have hblank : ((Scan.initial start).step ⟨delimiter, true⟩ Bytes.newline).Shows .recordStart [] []
      [] := ⟨rfl, rfl, rfl, rfl⟩
  exact (hblank.encodeRecords hd records hrecords).finish

/-! ## What the first record is read back as -/

/-- A record without the mark, if it is written with the mark in front. -/
def withoutMark (delimiter : UInt8) : List Bytes → List Bytes
  | [] => []
  | first :: rest =>
    (if Bytes.utf8Mark <+: encodeField delimiter first then first.drop Bytes.utf8Mark.length
      else first) :: rest

@[simp] theorem length_withoutMark (record : List Bytes) :
    (withoutMark delimiter record).length = record.length := by
  cases record <;> rfl

theorem needsQuotes_utf8Mark (hascii : delimiter < 0x80) :
    needsQuotes delimiter Bytes.utf8Mark = false := by
  have hother : ∀ m ∈ Bytes.utf8Mark, m ≠ delimiter := by
    rintro m hm rfl
    exact utf8Mark_not_ascii m hm hascii
  have hplain : ∀ m ∈ Bytes.utf8Mark,
      m ≠ Bytes.quote ∧ m ≠ Bytes.carriageReturn ∧ m ≠ Bytes.newline := by
    decide +kernel
  rw [needsQuotes, List.any_eq_false]
  intro m hm
  simpa [hother m hm, and_assoc] using hplain m hm

theorem encodeField_utf8Mark (hascii : delimiter < 0x80) :
    encodeField delimiter Bytes.utf8Mark = Bytes.utf8Mark := by
  simp only [encodeField, needsQuotes_utf8Mark hascii, Bool.false_eq_true, if_false]

theorem fileRecords_encodeRecords_utf8Mark (hd : Separates delimiter) {tail : Bytes}
    (hplain : needsQuotes delimiter (Bytes.utf8Mark ++ tail) = false) (rest : List Bytes)
    {rows : List (List Bytes)} (hrows : ∀ row ∈ rows, row ≠ []) :
    (fileRecords ⟨delimiter, true⟩
      (encodeRecords delimiter (((Bytes.utf8Mark ++ tail) :: rest) :: rows))).map Record.fields =
        (if encodeFields delimiter (tail :: rest) = [] then [] else [tail :: rest]) ++ rows := by
  rw [encodeRecords_cons, encodeRecord_utf8Mark_append hplain, List.append_assoc,
    fileRecords_utf8Mark_append]
  by_cases hempty : encodeFields delimiter (tail :: rest) = []
  · rw [if_pos hempty, if_pos hempty]
    exact recordsFrom_newline_encodeRecords hd _ hrows
  · rw [if_neg hempty, if_neg hempty]
    exact recordsFrom_encodeRecords hd _ (List.forall_mem_cons.mpr ⟨by simp, hrows⟩)

/-- A written document is read as the records that it was written from, but for the mark at its
start: that is not read, nor is the first record if it was nothing else. -/
theorem fileRecords_encodeRecords_cons (hd : Separates delimiter) (hascii : delimiter < 0x80)
    {header : List Bytes} {rows : List (List Bytes)} (hheader : header ≠ [])
    (hrows : ∀ row ∈ rows, row ≠ []) :
    (fileRecords ⟨delimiter, true⟩ (encodeRecords delimiter (header :: rows))).map Record.fields =
      (if header = [Bytes.utf8Mark] then [] else [withoutMark delimiter header]) ++ rows := by
  obtain ⟨first, rest, rfl⟩ := List.exists_cons_of_ne_nil hheader
  by_cases hmark : Bytes.utf8Mark <+: encodeField delimiter first
  · have hwithout : withoutMark delimiter (first :: rest) =
        first.drop Bytes.utf8Mark.length :: rest := by
      rw [withoutMark, if_pos hmark]
    obtain ⟨tail, rfl, hplain⟩ := utf8Mark_append_of_isPrefix hmark
    have hnothing : (Bytes.utf8Mark ++ tail) :: rest = [Bytes.utf8Mark] ↔
        encodeFields delimiter (tail :: rest) = [] := by
      constructor
      · intro heq
        obtain ⟨rfl, rfl⟩ : tail = [] ∧ rest = [] := by simpa using heq
        rfl
      · intro hempty
        obtain ⟨rfl, rfl⟩ := encodeFields_cons_eq_nil hempty
        rw [List.append_nil]
    rw [fileRecords_encodeRecords_utf8Mark hd hplain rest hrows, hwithout, List.drop_left]
    simp only [hnothing]
  · have hmore : first :: rest ≠ [Bytes.utf8Mark] := by
      intro heq
      apply hmark
      simp only [(List.cons.inj heq).1, encodeField_utf8Mark hascii, List.prefix_rfl]
    have hdocument : ¬ Bytes.utf8Mark <+: encodeRecords delimiter ((first :: rest) :: rows) := by
      rwa [utf8Mark_isPrefix_encodeRecords_iff hascii]
    rw [if_neg hmore, withoutMark, if_neg hmark, fileRecords_of_not_utf8Mark hdocument]
    exact recordsFrom_encodeRecords hd _ (List.forall_mem_cons.mpr ⟨by simp, hrows⟩)

/-- A document whose records are all of one width is read as records of that width, whether it opens
with the mark or not. -/
theorem length_of_mem_fileRecords (hd : Separates delimiter) (hascii : delimiter < 0x80)
    {records : List (List Bytes)} {width : Nat} (hwidth : width ≠ 0)
    (hrecords : ∀ record ∈ records, record.length = width) {record : Record}
    (h : record ∈ fileRecords ⟨delimiter, true⟩ (encodeRecords delimiter records)) :
    record.fields.length = width := by
  have hne : ∀ fields ∈ records, fields ≠ [] := by
    rintro fields hmem rfl
    exact hwidth (hrecords [] hmem).symm
  have hmem := List.mem_map_of_mem (f := Record.fields) h
  cases records with
  | nil => simp [fileRecords, records, recordsFrom, Scan.finish, Scan.initial, Bytes.utf8Mark] at h
  | cons header rows =>
      obtain ⟨hheader, hrows⟩ := List.forall_mem_cons.mp hrecords
      obtain ⟨hfirst, hrest⟩ := List.forall_mem_cons.mp hne
      rw [fileRecords_encodeRecords_cons hd hascii hfirst hrest, List.mem_append] at hmem
      rcases hmem with hfirst | hrow
      · split at hfirst
        · simp at hfirst
        · obtain heq : record.fields = withoutMark delimiter header := by simpa using hfirst
          rw [heq, length_withoutMark, hheader]
      · exact hrows _ hrow

end TidyCsv.Csv
