import TidyCsv.Csv.Reader

/-! # What a reader yields

Every record has a field, since the byte that ends a record closes a field first. There is a record
unless all bytes end lines, whatever the dialect. -/

namespace TidyCsv.Csv

namespace Scan

/-- Every record that has been read has a field. -/
def Filled (s : Scan) : Prop := ∀ record ∈ s.records, record.fields ≠ []

theorem Filled.endRecord {s : Scan} (h : s.Filled) : s.endRecord.Filled := by
  intro record hrecord
  rcases List.mem_cons.mp hrecord with rfl | hold
  · simp
  · exact h record hold

theorem Filled.readPlain {s : Scan} (h : s.Filled) (dialect : Dialect) (b : UInt8) :
    (s.readPlain dialect b).Filled := by
  unfold Scan.readPlain
  split
  · exact h
  · split
    · exact h.endRecord
    · exact h

theorem Filled.openField {s : Scan} (h : s.Filled) (dialect : Dialect) (b : UInt8) :
    (s.openField dialect b).Filled := by
  unfold Scan.openField
  split
  · exact h
  · exact h.readPlain dialect b

theorem Filled.step {s : Scan} (h : s.Filled) (dialect : Dialect) (b : UInt8) :
    (s.step dialect b).Filled := by
  have hmoved : Filled { s with here := s.here.advance b } := h
  simp only [Scan.step]
  split
  · split
    · exact h
    · exact hmoved.openField dialect b
  · exact hmoved.openField dialect b
  · exact hmoved.readPlain dialect b
  · split
    · exact h
    · exact h
  · split
    · exact h
    · exact hmoved.readPlain dialect b

theorem Filled.foldl {s : Scan} (h : s.Filled) (dialect : Dialect) (bytes : Bytes) :
    (bytes.foldl (Scan.step dialect) s).Filled := by
  induction bytes generalizing s with
  | nil => exact h
  | cons b rest ih => exact ih (h.step dialect b)

theorem Filled.finish {s : Scan} (h : s.Filled) : ∀ record ∈ s.finish, record.fields ≠ [] := by
  intro record hrecord
  unfold Scan.finish at hrecord
  split at hrecord
  · exact h record (List.mem_reverse.mp hrecord)
  · exact h.endRecord record (List.mem_reverse.mp hrecord)

end Scan

theorem fields_ne_nil_of_mem_recordsFrom {dialect : Dialect} {start : Position} {bytes : Bytes}
    {record : Record} (h : record ∈ recordsFrom dialect start bytes) : record.fields ≠ [] := by
  have hstart : (Scan.initial start).Filled := by
    intro record hrecord
    simp [Scan.initial] at hrecord
  exact (hstart.foldl dialect bytes).finish record h

theorem fields_ne_nil_of_mem_records {dialect : Dialect} {atHand : Nat} {bytes : Bytes}
    {record : Record} (h : record ∈ records dialect atHand bytes) : record.fields ≠ [] := by
  unfold records at h
  split at h <;> exact fields_ne_nil_of_mem_recordsFrom h

/-! ## Inputs without records -/

namespace Scan

/-- A record has been begun or read. -/
def Begun (s : Scan) : Prop := s.place ≠ .recordStart ∨ s.records ≠ []

theorem begun_endRecord (s : Scan) : s.endRecord.Begun := .inr (by simp [Scan.endRecord])

theorem begun_endField (s : Scan) : s.endField.Begun := .inl (by simp [Scan.endField])

theorem begun_push (s : Scan) (b : UInt8) {place : Place} (hplace : place ≠ .recordStart) :
    (s.push b place).Begun := .inl hplace

theorem begun_readPlain (s : Scan) (dialect : Dialect) (b : UInt8) :
    (s.readPlain dialect b).Begun := by
  unfold Scan.readPlain
  split
  · exact s.begun_endField
  · split
    · exact s.begun_endRecord
    · exact s.begun_push b (by simp)

theorem begun_openField (s : Scan) (dialect : Dialect) (b : UInt8) :
    (s.openField dialect b).Begun := by
  unfold Scan.openField
  split
  · exact .inl (by simp)
  · exact s.begun_readPlain dialect b

theorem begun_step_iff {s : Scan} (dialect : Dialect) {b : UInt8} :
    (s.step dialect b).Begun ↔ s.Begun ∨ isTerminator b = false := by
  simp only [Scan.step]
  split
  · next hplace =>
      split
      · next hend => simp [hend, Begun]
      · next hend =>
          exact iff_of_true (begun_openField _ dialect b) (.inr (by simpa using hend))
  · next hplace => exact iff_of_true (begun_openField _ dialect b) (.inl (.inl (by simp [hplace])))
  · next hplace => exact iff_of_true (begun_readPlain _ dialect b) (.inl (.inl (by simp [hplace])))
  · next hplace =>
      refine iff_of_true ?_ (.inl (.inl (by simp [hplace])))
      split
      · exact .inl (by simp)
      · exact begun_push _ b (by simp)
  · next hplace =>
      refine iff_of_true ?_ (.inl (.inl (by simp [hplace])))
      split
      · exact begun_push _ b (by simp)
      · exact begun_readPlain _ dialect b

theorem begun_foldl_iff {s : Scan} (dialect : Dialect) (bytes : Bytes) :
    (bytes.foldl (Scan.step dialect) s).Begun ↔
      s.Begun ∨ ∃ b ∈ bytes, isTerminator b = false := by
  induction bytes generalizing s with
  | nil => simp
  | cons b rest ih => simp [ih, begun_step_iff, or_assoc]

theorem finish_eq_nil_iff {s : Scan} : s.finish = [] ↔ ¬ s.Begun := by
  unfold Scan.finish Begun
  split
  · next hplace => simp [hplace]
  · next hplace => simp [Scan.endRecord, show s.place ≠ .recordStart from hplace]

end Scan

theorem recordsFrom_eq_nil_iff {dialect : Dialect} {start : Position} {bytes : Bytes} :
    recordsFrom dialect start bytes = [] ↔ ∀ b ∈ bytes, isTerminator b = true := by
  have hinitial : ¬ (Scan.initial start).Begun := by simp [Scan.Begun, Scan.initial]
  rw [recordsFrom, Scan.finish_eq_nil_iff, Scan.begun_foldl_iff]
  simp [hinitial]

/-- Whether there is a record does not depend on the dialect. -/
theorem records_eq_nil_iff (dialect other : Dialect) (atHand : Nat) (bytes : Bytes) :
    records dialect atHand bytes = [] ↔ records other atHand bytes = [] := by
  unfold records
  split <;> simp only [recordsFrom_eq_nil_iff]

end TidyCsv.Csv
