import TidyCsv.Csv.Writer

/-! # What a writer has written

A writer fails at none of its records if they are of one width, and only then; what it has written
is the document of all of them. What has been written stays as it is. -/

namespace TidyCsv.Csv

@[simp] theorem encodeRecords_nil (delimiter : UInt8) : encodeRecords delimiter [] = [] := rfl

@[simp] theorem encodeRecords_cons (delimiter : UInt8) (fields : List Bytes)
    (rest : List (List Bytes)) :
    encodeRecords delimiter (fields :: rest) =
      encodeRecord delimiter fields ++ encodeRecords delimiter rest :=
  List.flatMap_cons

theorem encodeRecords_append (delimiter : UInt8) (xs ys : List (List Bytes)) :
    encodeRecords delimiter (xs ++ ys) =
      encodeRecords delimiter xs ++ encodeRecords delimiter ys :=
  List.flatMap_append

@[simp] theorem encodeFields_singleton (delimiter : UInt8) (field : Bytes) :
    encodeFields delimiter [field] = encodeField delimiter field := by
  simp [encodeFields, List.intercalate]

@[simp] theorem encodeFields_cons_cons (delimiter : UInt8) (first next : Bytes)
    (rest : List Bytes) :
    encodeFields delimiter (first :: next :: rest) =
      encodeField delimiter first ++ delimiter :: encodeFields delimiter (next :: rest) := by
  simp [encodeFields, List.intercalate]

theorem encodeField_eq_nil {delimiter : UInt8} {field : Bytes}
    (h : encodeField delimiter field = []) : field = [] := by
  unfold encodeField at h
  split at h
  · simp at h
  · exact h

theorem encodeFields_cons_eq_nil {delimiter : UInt8} {first : Bytes} {rest : List Bytes}
    (h : encodeFields delimiter (first :: rest) = []) : first = [] ∧ rest = [] := by
  cases rest with
  | nil => exact ⟨encodeField_eq_nil (by simpa using h), rfl⟩
  | cons next rest => simp at h

namespace Writer

/-- A writer has written these records and no others, all of them as wide as the first one. -/
structure Holds (w : Writer) (delimiter : UInt8) (records : List (List Bytes)) : Prop where
  delimiter_eq : w.delimiter = delimiter
  width_eq : w.width = records.head?.map List.length
  written_eq : w.written = encodeRecords delimiter records

theorem holds_new (delimiter : UInt8) : (new delimiter).Holds delimiter [] :=
  ⟨rfl, rfl, rfl⟩

@[simp] theorem written_new (delimiter : UInt8) : (new delimiter).written = [] := rfl

theorem written_close (w : Writer) (fields : List Bytes) :
    (w.close fields).written = w.written ++ encodeRecord w.delimiter fields := by
  simp [written, close]

theorem Holds.put {w : Writer} {delimiter : UInt8} {records : List (List Bytes)}
    (h : w.Holds delimiter records) (fields : List Bytes)
    (hwidth : ∀ first ∈ records.head?, fields.length = first.length) :
    ∃ next, w.put fields = (none, next) ∧ next.Holds delimiter (records ++ [fields]) := by
  have hwritten : (w.close fields).written = encodeRecords delimiter (records ++ [fields]) := by
    rw [written_close, h.written_eq, h.delimiter_eq, encodeRecords_append]
    simp
  refine ⟨w.close fields, ?_, h.delimiter_eq, ?_, hwritten⟩
  · cases records with
    | nil =>
        have hw : w.width = none := h.width_eq
        simp [Writer.put, hw]
    | cons first rest =>
        have hw : w.width = some first.length := h.width_eq
        simp [Writer.put, hw, hwidth first rfl]
  · cases records with
    | nil => rfl
    | cons first rest => simp [close, hwidth first rfl]

/-- Records as wide as the first one are all written. -/
theorem Holds.putAll {delimiter : UInt8} {records : List (List Bytes)} {width : Nat} :
    ∀ {w : Writer} {seen : List (List Bytes)}, w.Holds delimiter seen →
      (∀ fields ∈ seen ++ records, fields.length = width) →
      ∃ last, w.putAll records = (none, last) ∧ last.Holds delimiter (seen ++ records) := by
  induction records with
  | nil =>
      intro w seen h _
      exact ⟨w, rfl, by simpa using h⟩
  | cons fields rest ih =>
      intro w seen h hwidth
      have hfirst : ∀ first ∈ seen.head?, fields.length = first.length := by
        intro first hmem
        have hseen : first ∈ seen := List.mem_of_mem_head? hmem
        rw [hwidth fields (by simp), hwidth first (by simp [hseen])]
      obtain ⟨next, hput, hnext⟩ := h.put fields hfirst
      obtain ⟨last, hlast, hholds⟩ := ih hnext (by simpa using hwidth)
      refine ⟨last, ?_, by simpa using hholds⟩
      simp only [Writer.putAll, hput]
      exact hlast

/-! ## Records of any width -/

theorem written_prefix_put (w : Writer) (fields : List Bytes) :
    w.written <+: (w.put fields).2.written := by
  have hclose : w.written <+: (w.close fields).written := by simp [written_close]
  have hopen : w.written <+: (w.leaveOpen fields).written := by
    simp [Writer.written, Writer.leaveOpen]
  unfold put
  split
  · exact hclose
  · split
    · exact hclose
    · exact hopen

theorem written_prefix_putAll (w : Writer) (records : List (List Bytes)) :
    w.written <+: (w.putAll records).2.written := by
  induction records generalizing w with
  | nil => exact List.prefix_rfl
  | cons fields rest ih =>
    have hput := w.written_prefix_put fields
    rw [Writer.putAll]
    split
    · next next hnext =>
      rw [hnext] at hput
      exact hput.trans (ih next)
    · next hfault => rwa [hfault] at hput

/-- A writer that has written all records was given records of one width. -/
theorem length_of_putAll {w : Writer} {width : Nat} {records : List (List Bytes)}
    (hwidth : w.width = some width) (h : (w.putAll records).1 = none) :
    ∀ fields ∈ records, fields.length = width := by
  induction records generalizing w with
  | nil => simp
  | cons fields rest ih =>
    by_cases hfields : fields.length = width
    · have hput : w.put fields = (none, w.close fields) := by simp [Writer.put, hwidth, hfields]
      have hrest : ((w.close fields).putAll rest).1 = none := by
        simpa [Writer.putAll, hput] using h
      have hsame : (w.close fields).width = some width := by simp [Writer.close, hfields]
      exact List.forall_mem_cons.mpr ⟨hfields, ih hsame hrest⟩
    · simp [Writer.putAll, Writer.put, hwidth, hfields] at h

end Writer

end TidyCsv.Csv
