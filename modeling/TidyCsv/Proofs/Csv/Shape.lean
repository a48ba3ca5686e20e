import TidyCsv.Csv.Reader

/-! # The shape of a document

How many records a document has, and how many fields each of them, is a matter of its ASCII bytes.
Of what stands between them it only counts whether there is anything: the reader moves to the same
place for every byte beyond ASCII, and it stays there. -/

namespace TidyCsv.Csv

/-- The number of fields of each record. -/
def shape (records : List Record) : List Nat := records.map (·.fields.length)

/-- Documents that differ in what stands between their ASCII bytes, but not in where anything
does. -/
inductive Alike : Bytes → Bytes → Prop where
  | nil : Alike [] []
  | same (b : UInt8) {xs ys : Bytes} (h : Alike xs ys) : Alike (b :: xs) (b :: ys)
  | beyond {us vs xs ys : Bytes} (hus : us ≠ []) (hvs : vs ≠ []) (hu : ∀ b ∈ us, ¬ b < 0x80)
      (hv : ∀ b ∈ vs, ¬ b < 0x80) (h : Alike xs ys) : Alike (us ++ xs) (vs ++ ys)

theorem Alike.append_left {xs ys : Bytes} (h : Alike xs ys) (bytes : Bytes) :
    Alike (bytes ++ xs) (bytes ++ ys) := by
  induction bytes with
  | nil => exact h
  | cons b rest ih => exact .same b ih

/-! ## Two readers -/

/-- Two readers that stand at the same place, with equally many fields read of the record and of
those before it. -/
structure Scan.Matches (s t : Scan) : Prop where
  place_eq : s.place = t.place
  fields_eq : s.fields.length = t.fields.length
  records_eq : shape s.records = shape t.records

namespace Scan.Matches

variable {s t : Scan}

theorem refl (s : Scan) : s.Matches s := ⟨rfl, rfl, rfl⟩

theorem endField (h : s.Matches t) : s.endField.Matches t.endField :=
  ⟨rfl, by simp [Scan.endField, h.fields_eq], h.records_eq⟩

theorem endRecord (h : s.Matches t) : s.endRecord.Matches t.endRecord := by
  refine ⟨rfl, rfl, ?_⟩
  have hrecords : shape s.records = shape t.records := h.records_eq
  simp only [shape] at hrecords
  simp [Scan.endRecord, shape, hrecords, h.fields_eq]

theorem push (h : s.Matches t) (b : UInt8) (place : Place) :
    (s.push b place).Matches (t.push b place) :=
  ⟨rfl, h.fields_eq, h.records_eq⟩

theorem readPlain (h : s.Matches t) (dialect : Dialect) (b : UInt8) :
    (s.readPlain dialect b).Matches (t.readPlain dialect b) := by
  by_cases hdelimiter : b = dialect.delimiter
  · simpa [Scan.readPlain, hdelimiter] using h.endField
  · by_cases hend : isTerminator b = true
    · simpa [Scan.readPlain, hdelimiter, hend] using h.endRecord
    · simpa [Scan.readPlain, hdelimiter, hend] using h.push b .unquoted

theorem openField (h : s.Matches t) (dialect : Dialect) (b : UInt8) :
    (s.openField dialect b).Matches (t.openField dialect b) := by
  by_cases hquote : dialect.quoting = true ∧ b = Bytes.quote
  · simp only [Scan.openField, if_pos hquote]
    exact ⟨rfl, h.fields_eq, h.records_eq⟩
  · simpa only [Scan.openField, if_neg hquote] using h.readPlain dialect b

theorem step (h : s.Matches t) (dialect : Dialect) (b : UInt8) :
    (s.step dialect b).Matches (t.step dialect b) := by
  obtain ⟨place, field, fields, here, start, records⟩ := s
  obtain ⟨place', field', fields', here', start', records'⟩ := t
  obtain rfl : place = place' := h.place_eq
  have hmoved : Matches ⟨place, field, fields, here.advance b, start, records⟩
      ⟨place, field', fields', here'.advance b, start', records'⟩ :=
    ⟨rfl, h.fields_eq, h.records_eq⟩
  cases place with
  | recordStart =>
      by_cases hend : isTerminator b = true
      · simpa [Scan.step, hend] using hmoved
      · simpa [Scan.step, hend] using hmoved.openField dialect b
  | fieldStart => exact hmoved.openField dialect b
  | unquoted => exact hmoved.readPlain dialect b
  | quoted =>
      by_cases hquote : b = Bytes.quote
      · simp only [Scan.step, if_pos hquote]
        exact ⟨rfl, h.fields_eq, h.records_eq⟩
      · simpa only [Scan.step, if_neg hquote] using hmoved.push b .quoted
  | quoteSeen =>
      by_cases hquote : b = Bytes.quote
      · simpa only [Scan.step, if_pos hquote] using hmoved.push b .quoted
      · simpa only [Scan.step, if_neg hquote] using hmoved.readPlain dialect b

theorem finish (h : s.Matches t) : shape s.finish = shape t.finish := by
  have hopen : shape s.endRecord.records.reverse = shape t.endRecord.records.reverse := by
    have hrecords := h.endRecord.records_eq
    simp only [shape] at hrecords
    simp only [shape, List.map_reverse, hrecords]
  have hclosed : shape s.records.reverse = shape t.records.reverse := by
    have hrecords := h.records_eq
    simp only [shape] at hrecords
    simp only [shape, List.map_reverse, hrecords]
  simp only [Scan.finish, ← h.place_eq]
  cases s.place with
  | recordStart => exact hclosed
  | fieldStart => exact hopen
  | unquoted => exact hopen
  | quoted => exact hopen
  | quoteSeen => exact hopen

end Scan.Matches

/-! ## Bytes beyond ASCII -/

/-- Where a reader stands after a byte beyond ASCII. -/
def Place.afterText : Place → Place
  | .quoted => .quoted
  | _ => .unquoted

section Beyond

variable {dialect : Dialect} (hdelimiter : dialect.delimiter < 0x80)
include hdelimiter

theorem Scan.step_beyond {b : UInt8} (hb : ¬ b < 0x80) (s : Scan) :
    (s.step dialect b).place = s.place.afterText ∧ (s.step dialect b).fields = s.fields ∧
      (s.step dialect b).records = s.records := by
  have hseparator : b ≠ dialect.delimiter := by
    rintro rfl
    exact hb hdelimiter
  have hend : isTerminator b = false := by
    simp only [isTerminator, Bool.or_eq_false_iff, beq_eq_false_iff_ne]
    constructor <;> rintro rfl <;> exact hb (by decide)
  have hquote : b ≠ Bytes.quote := by
    rintro rfl
    exact hb (by decide)
  cases hplace : s.place <;>
    simp [Scan.step, Scan.openField, Scan.readPlain, Scan.push, Place.afterText, hplace, hseparator,
      hend, hquote]

/-- What stands between ASCII bytes leads to the same place, however many bytes it has. -/
theorem Scan.foldl_beyond {bytes : Bytes} (hne : bytes ≠ []) (hall : ∀ b ∈ bytes, ¬ b < 0x80)
    (s : Scan) :
    (bytes.foldl (Scan.step dialect) s).place = s.place.afterText ∧
      (bytes.foldl (Scan.step dialect) s).fields = s.fields ∧
      (bytes.foldl (Scan.step dialect) s).records = s.records := by
  induction bytes generalizing s with
  | nil => exact absurd rfl hne
  | cons b rest ih =>
      obtain ⟨hplace, hfields, hrecords⟩ := s.step_beyond hdelimiter (hall b (by simp))
      by_cases hrest : rest = []
      · subst hrest
        exact ⟨hplace, hfields, hrecords⟩
      · have hagain : s.place.afterText.afterText = s.place.afterText := by
          cases s.place <;> rfl
        have htail := ih hrest (fun c hc => hall c (by simp [hc])) (s.step dialect b)
        rwa [hplace, hfields, hrecords, hagain] at htail

theorem Alike.foldl {xs ys : Bytes} (h : Alike xs ys) {s t : Scan} (hmatch : s.Matches t) :
    (xs.foldl (Scan.step dialect) s).Matches (ys.foldl (Scan.step dialect) t) := by
  induction h generalizing s t with
  | nil => exact hmatch
  | same b _ ih => exact ih (hmatch.step dialect b)
  | beyond hus hvs hu hv _ ih =>
      rw [List.foldl_append, List.foldl_append]
      apply ih
      obtain ⟨hplace, hfields, hrecords⟩ := Scan.foldl_beyond hdelimiter hus hu s
      obtain ⟨hplace', hfields', hrecords'⟩ := Scan.foldl_beyond hdelimiter hvs hv t
      constructor
      · rw [hplace, hplace', hmatch.place_eq]
      · rw [hfields, hfields', hmatch.fields_eq]
      · rw [hrecords, hrecords', hmatch.records_eq]

/-- Documents that are alike have records of the same numbers of fields. -/
theorem Alike.shape_recordsFrom {xs ys : Bytes} (h : Alike xs ys) (start : Position) :
    shape (recordsFrom dialect start xs) = shape (recordsFrom dialect start ys) :=
  (h.foldl hdelimiter (Scan.Matches.refl (Scan.initial start))).finish

/-- This holds of whole inputs, if both open with the mark or none does. -/
theorem Alike.shape_records {xs ys : Bytes} (h : Alike xs ys)
    (hmark : Bytes.utf8Mark <+: xs ↔ Bytes.utf8Mark <+: ys)
    (hrest : Bytes.utf8Mark <+: xs →
      Alike (xs.drop Bytes.utf8Mark.length) (ys.drop Bytes.utf8Mark.length)) (atHand : Nat) :
    shape (records dialect atHand xs) = shape (records dialect atHand ys) := by
  have hseen : ∀ bytes : Bytes, Bytes.utf8Mark.isPrefixOf (bytes.take atHand) = true ↔
      Bytes.utf8Mark.length ≤ atHand ∧ Bytes.utf8Mark <+: bytes := by
    intro bytes
    rw [List.isPrefixOf_iff_prefix, List.prefix_take_iff, and_comm]
  by_cases hxs : Bytes.utf8Mark.isPrefixOf (xs.take atHand) = true
  · obtain ⟨hsize, hopens⟩ := (hseen xs).mp hxs
    have hys := (hseen ys).mpr ⟨hsize, hmark.mp hopens⟩
    simpa only [records, if_pos hxs, if_pos hys] using
      (hrest hopens).shape_recordsFrom hdelimiter ⟨Bytes.utf8Mark.length, 1⟩
  · have hys : ¬ Bytes.utf8Mark.isPrefixOf (ys.take atHand) = true := by
      intro hys
      obtain ⟨hsize, hopens⟩ := (hseen ys).mp hys
      exact hxs ((hseen xs).mpr ⟨hsize, hmark.mpr hopens⟩)
    simpa only [records, if_neg hxs, if_neg hys] using h.shape_recordsFrom hdelimiter ⟨0, 1⟩

end Beyond

end TidyCsv.Csv
