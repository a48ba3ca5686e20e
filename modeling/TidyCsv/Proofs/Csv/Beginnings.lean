import TidyCsv.Csv.Reader
import Mathlib.Data.List.Induction

/-! # Where records begin

The reader notes where a record begins as soon as the record before it has ended. Terminators that
follow there, such as the second one of a pair or those of blank lines, come before the first byte
of the record, and yet after the place that is noted for it. -/

namespace TidyCsv.Csv

/-! ## Positions -/

/-- The position after some bytes. -/
def Position.after (start : Position) (bytes : Bytes) : Position :=
  bytes.foldl Position.advance start

theorem Position.line_after (start : Position) (bytes : Bytes) :
    (start.after bytes).line = start.line + bytes.count Bytes.newline := by
  induction bytes generalizing start with
  | nil => rfl
  | cons b rest ih =>
      rw [after, List.foldl_cons, ← after, ih, advance]
      by_cases hb : b = Bytes.newline
      · simp only [hb, if_true, List.count_cons_self]
        omega
      · simp only [hb, if_false, List.count_cons_of_ne hb]

namespace Scan

variable {s t : Scan} {dialect : Dialect} {b : UInt8} {bytes : Bytes}

/-! ## One byte -/

/-- How reading goes on within a record: with the record, or past its end. -/
inductive Continues (s : Scan) : Scan → Prop where
  | within {t : Scan} (hplace : t.place ≠ .recordStart) (hhere : t.here = s.here)
      (hstart : t.start = s.start) (hrecords : t.records = s.records) : Continues s t
  | ended {t : Scan} (fields : List Bytes) (hplace : t.place = .recordStart)
      (hhere : t.here = s.here) (hstart : t.start = s.here)
      (hrecords : t.records = ⟨s.start, fields⟩ :: s.records) : Continues s t

theorem continues_push (s : Scan) (b : UInt8) {place : Place} (hplace : place ≠ .recordStart) :
    Continues s (s.push b place) := .within hplace rfl rfl rfl

theorem continues_readPlain (s : Scan) (dialect : Dialect) (b : UInt8) :
    Continues s (s.readPlain dialect b) := by
  unfold readPlain
  split
  · exact .within (by simp [endField]) rfl rfl rfl
  · split
    · exact .ended _ rfl rfl rfl rfl
    · exact s.continues_push b (by simp)

theorem continues_openField (s : Scan) (dialect : Dialect) (b : UInt8) :
    Continues s (s.openField dialect b) := by
  unfold openField
  split
  · exact .within (by simp) rfl rfl rfl
  · exact s.continues_readPlain dialect b

/-- A byte within a record is read as part of it, or ends it. -/
theorem continues_step (dialect : Dialect) (b : UInt8) (h : s.place ≠ .recordStart) :
    Continues { s with here := s.here.advance b } (s.step dialect b) := by
  unfold step
  cases hplace : s.place with
  | recordStart => exact absurd hplace h
  | fieldStart => exact continues_openField _ dialect b
  | unquoted => exact continues_readPlain _ dialect b
  | quoted =>
      dsimp only
      split
      · exact .within (by simp) rfl rfl rfl
      · exact continues_push _ b (by simp)
  | quoteSeen =>
      dsimp only
      split
      · exact continues_push _ b (by simp)
      · exact continues_readPlain _ dialect b

theorem step_of_isTerminator (dialect : Dialect) (h : s.place = .recordStart)
    (hb : isTerminator b = true) : s.step dialect b = { s with here := s.here.advance b } := by
  simp only [step, h, hb, if_true]

theorem within_step (dialect : Dialect) (h : s.place = .recordStart) (hb : isTerminator b = false) :
    (s.step dialect b).place ≠ .recordStart ∧ (s.step dialect b).here = s.here.advance b ∧
      (s.step dialect b).start = s.start ∧ (s.step dialect b).records = s.records := by
  simp only [step, h, hb, Bool.false_eq_true, if_false, openField, readPlain]
  split
  · exact ⟨by simp, rfl, rfl, rfl⟩
  · split
    · exact ⟨by simp [endField], rfl, rfl, rfl⟩
    · exact ⟨by simp [push], rfl, rfl, rfl⟩

theorem here_step (s : Scan) (dialect : Dialect) (b : UInt8) :
    (s.step dialect b).here = s.here.advance b := by
  by_cases hplace : s.place = .recordStart
  · cases hb : isTerminator b with
    | true => rw [step_of_isTerminator dialect hplace hb]
    | false => exact (within_step dialect hplace hb).2.1
  · cases continues_step dialect b hplace with
    | within _ hhere _ _ => exact hhere
    | ended _ _ hhere _ _ => exact hhere

theorem records_suffix_step (s : Scan) (dialect : Dialect) (b : UInt8) :
    s.records <:+ (s.step dialect b).records := by
  by_cases hplace : s.place = .recordStart
  · have hrecords : (s.step dialect b).records = s.records := by
      cases hb : isTerminator b with
      | true => rw [step_of_isTerminator dialect hplace hb]
      | false => exact (within_step dialect hplace hb).2.2.2
    simp only [hrecords, List.suffix_rfl]
  · cases continues_step dialect b hplace with
    | within _ _ _ hrecords => simp only [hrecords, List.suffix_rfl]
    | ended _ _ _ _ hrecords =>
        rw [hrecords]
        exact List.suffix_cons _ _

/-! ## All bytes that follow -/

theorem here_foldl (s : Scan) (dialect : Dialect) (bytes : Bytes) :
    (bytes.foldl (step dialect) s).here = s.here.after bytes := by
  induction bytes generalizing s with
  | nil => rfl
  | cons b rest ih => rw [List.foldl_cons, ih, here_step, Position.after, Position.after,
      List.foldl_cons]

theorem foldl_of_isTerminator (h : s.place = .recordStart)
    (hbytes : ∀ b ∈ bytes, isTerminator b = true) :
    bytes.foldl (step dialect) s = { s with here := s.here.after bytes } := by
  induction bytes generalizing s with
  | nil => rfl
  | cons b rest ih =>
      obtain ⟨hb, hrest⟩ := List.forall_mem_cons.mp hbytes
      rw [List.foldl_cons, step_of_isTerminator dialect h hb]
      exact ih (s := { s with here := s.here.advance b }) h hrest

theorem records_prefix_finish (s : Scan) (dialect : Dialect) (bytes : Bytes) :
    s.records.reverse <+: (bytes.foldl (step dialect) s).finish := by
  induction bytes generalizing s with
  | nil =>
      rw [List.foldl_nil, finish]
      split
      · exact List.prefix_rfl
      · simp [endRecord]
  | cons b rest ih =>
      exact (List.reverse_prefix.mpr (s.records_suffix_step dialect b)).trans (ih _)

/-- A record that is being read comes after those that have been read, with the place where it
began. -/
theorem finish_of_within (dialect : Dialect) (h : s.place ≠ .recordStart) (bytes : Bytes) :
    ∃ fields later, (bytes.foldl (step dialect) s).finish =
      s.records.reverse ++ ⟨s.start, fields⟩ :: later := by
  induction bytes generalizing s with
  | nil =>
      refine ⟨(s.field.reverse :: s.fields).reverse, [], ?_⟩
      simp only [List.foldl_nil, finish, endRecord, List.reverse_cons]
  | cons b rest ih =>
      rw [List.foldl_cons]
      cases continues_step dialect b h with
      | within hplace _ hstart hrecords =>
          obtain ⟨fields, later, hfinish⟩ := ih hplace
          exact ⟨fields, later, by rw [hfinish, hstart, hrecords]⟩
      | ended fields _ _ _ hrecords =>
          obtain ⟨later, hlater⟩ := records_prefix_finish (s.step dialect b) dialect rest
          refine ⟨fields, later, ?_⟩
          rw [← hlater, hrecords, List.reverse_cons, List.append_assoc, List.singleton_append]

end Scan

/-! ## The place that is noted -/

/-- The machine after some bytes. -/
def scanned (dialect : Dialect) (start : Position) (bytes : Bytes) : Scan :=
  bytes.foldl (Scan.step dialect) (Scan.initial start)

theorem scanned_append_singleton (dialect : Dialect) (start : Position) (bytes : Bytes)
    (b : UInt8) : scanned dialect start (bytes ++ [b]) =
      (scanned dialect start bytes).step dialect b := by
  simp [scanned]

/-- The bytes reach to the end of a record, and not beyond; or there are none. That record is the
last of so many. -/
structure EndsRecord (dialect : Dialect) (start : Position) (bytes : Bytes) (count : Nat) :
    Prop where
  place : (scanned dialect start bytes).place = .recordStart
  count : (scanned dialect start bytes).records.length = count
  last : bytes = [] ∨ ∃ front b, bytes = front ++ [b] ∧
    (scanned dialect start front).place ≠ .recordStart

/-- The first byte of the record with this index comes after `closed ++ gap`. The record before it
ends with `closed`, and there are only terminators in between. -/
structure OpensAfter (dialect : Dialect) (start : Position) (bytes : Bytes) (index : Nat)
    (closed gap : Bytes) : Prop where
  split : ∃ b rest, isTerminator b = false ∧ bytes = closed ++ (gap ++ b :: rest)
  gap : ∀ b ∈ gap, isTerminator b = true
  closed : EndsRecord dialect start closed index

section Opens

variable {dialect : Dialect} {start : Position} {bytes closed gap : Bytes} {index count : Nat}

theorem EndsRecord.start_eq (h : EndsRecord dialect start bytes count) :
    (scanned dialect start bytes).start = start.after bytes := by
  have hhere : (scanned dialect start bytes).here = start.after bytes :=
    Scan.here_foldl _ dialect bytes
  have hplace := h.place
  rw [← hhere]
  rcases h.last with rfl | ⟨front, b, rfl, hfront⟩
  · rfl
  · rw [scanned_append_singleton] at hplace ⊢
    cases Scan.continues_step dialect b hfront with
    | within hwithin _ _ _ => exact absurd hplace hwithin
    | ended _ _ hhere hstart _ => rw [hstart, hhere]

/-- What is noted for a record is the place where the record before it has ended. -/
theorem OpensAfter.start_eq (h : OpensAfter dialect start bytes index closed gap) :
    ∃ record, (recordsFrom dialect start bytes)[index]? = some record ∧
      record.start = start.after closed := by
  obtain ⟨b, rest, hb, hbytes⟩ := h.split
  have hgap : gap.foldl (Scan.step dialect) (scanned dialect start closed) =
      { scanned dialect start closed with
        here := (scanned dialect start closed).here.after gap } :=
    Scan.foldl_of_isTerminator h.closed.place h.gap
  -- the first byte of the record leaves what was noted between the records as it was
  obtain ⟨hplace, -, hstart, hrecords⟩ := Scan.within_step (s := { scanned dialect start closed with
    here := (scanned dialect start closed).here.after gap }) dialect h.closed.place hb
  obtain ⟨fields, later, hfinish⟩ := Scan.finish_of_within dialect hplace rest
  have hread : recordsFrom dialect start bytes =
      (scanned dialect start closed).records.reverse ++
        ⟨(scanned dialect start closed).start, fields⟩ :: later := by
    rw [hstart, hrecords] at hfinish
    rw [recordsFrom, hbytes, List.foldl_append, List.foldl_append, List.foldl_cons, ← scanned, hgap,
      hfinish]
  have hindex : (scanned dialect start closed).records.reverse.length = index := by
    rw [List.length_reverse, h.closed.count]
  refine ⟨⟨(scanned dialect start closed).start, fields⟩, ?_, h.closed.start_eq⟩
  rw [hread, ← hindex, List.getElem?_append_right (Nat.le_refl _), Nat.sub_self,
    List.getElem?_cons_zero]

/-! ## Every record begins somewhere -/

theorem OpensAfter.append (h : OpensAfter dialect start bytes index closed gap) (more : Bytes) :
    OpensAfter dialect start (bytes ++ more) index closed gap := by
  obtain ⟨b, rest, hb, rfl⟩ := h.split
  exact ⟨⟨b, rest ++ more, hb, by simp⟩, h.gap, h.closed⟩

/-- The beginnings that are known after some bytes: those of all records that have been read, and
that of the record that is being read, or else the end of the last one. -/
structure Located (dialect : Dialect) (start : Position) (bytes : Bytes) : Prop where
  read : ∀ index < (scanned dialect start bytes).records.length,
    ∃ closed gap, OpensAfter dialect start bytes index closed gap
  within : (scanned dialect start bytes).place ≠ .recordStart →
    ∃ closed gap,
      OpensAfter dialect start bytes (scanned dialect start bytes).records.length closed gap
  between : (scanned dialect start bytes).place = .recordStart →
    ∃ closed gap, bytes = closed ++ gap ∧ (∀ b ∈ gap, isTerminator b = true) ∧
      EndsRecord dialect start closed (scanned dialect start bytes).records.length

theorem Located.between_append (h : Located dialect start bytes) {b : UInt8}
    (hplace : (scanned dialect start bytes).place = .recordStart) :
    Located dialect start (bytes ++ [b]) := by
  obtain ⟨closed, gap, hbytes, hgap, hclosed⟩ := h.between hplace
  cases hb : isTerminator b with
  | true =>
      have hstep := Scan.step_of_isTerminator dialect hplace hb
      rw [← scanned_append_singleton] at hstep
      refine ⟨?_, ?_, ?_⟩
      · intro index hindex
        rw [hstep] at hindex
        obtain ⟨before, after, hopens⟩ := h.read index hindex
        exact ⟨before, after, hopens.append [b]⟩
      · intro hwithin
        rw [hstep] at hwithin
        exact absurd hplace hwithin
      · intro _
        rw [hstep]
        refine ⟨closed, gap ++ [b], by rw [hbytes, List.append_assoc], ?_, hclosed⟩
        intro c hc
        rcases List.mem_append.mp hc with hold | hnew
        · exact hgap c hold
        · rwa [List.mem_singleton.mp hnew]
  | false =>
      obtain ⟨hwithin, -, -, hrecords⟩ := Scan.within_step dialect hplace hb
      rw [← scanned_append_singleton] at hwithin hrecords
      refine ⟨?_, ?_, fun hbetween => absurd hbetween hwithin⟩
      · intro index hindex
        rw [hrecords] at hindex
        obtain ⟨before, after, hopens⟩ := h.read index hindex
        exact ⟨before, after, hopens.append [b]⟩
      · intro _
        rw [hrecords]
        exact ⟨closed, gap, ⟨b, [], hb, by rw [hbytes, List.append_assoc]⟩, hgap, hclosed⟩

theorem Located.within_append (h : Located dialect start bytes) {b : UInt8}
    (hplace : (scanned dialect start bytes).place ≠ .recordStart) :
    Located dialect start (bytes ++ [b]) := by
  obtain ⟨closed, gap, hcurrent⟩ := h.within hplace
  have hread : ∀ index ≤ (scanned dialect start bytes).records.length,
      ∃ closed gap, OpensAfter dialect start (bytes ++ [b]) index closed gap := by
    intro index hindex
    rcases Nat.lt_or_eq_of_le hindex with hlt | rfl
    · obtain ⟨before, after, hopens⟩ := h.read index hlt
      exact ⟨before, after, hopens.append [b]⟩
    · exact ⟨closed, gap, hcurrent.append [b]⟩
  have hstep := Scan.continues_step dialect b hplace
  rw [← scanned_append_singleton] at hstep
  cases hstep with
  | within hwithin _ _ hrecords =>
      refine ⟨?_, ?_, fun hbetween => absurd hbetween hwithin⟩
      · intro index hindex
        rw [hrecords] at hindex
        exact hread index (Nat.le_of_lt hindex)
      · intro _
        rw [hrecords]
        exact hread _ (Nat.le_refl _)
  | ended fields hended _ _ hrecords =>
      refine ⟨?_, fun hwithin => absurd hended hwithin, ?_⟩
      · intro index hindex
        rw [hrecords, List.length_cons] at hindex
        exact hread index (Nat.le_of_lt_succ hindex)
      · intro _
        exact ⟨bytes ++ [b], [], by simp, by simp, hended, rfl, .inr ⟨bytes, b, rfl, hplace⟩⟩

theorem located (dialect : Dialect) (start : Position) (bytes : Bytes) :
    Located dialect start bytes := by
  induction bytes using List.reverseRecOn with
  | nil =>
      refine ⟨fun index hindex => ?_, fun hwithin => absurd rfl hwithin, fun _ => ?_⟩
      · exact absurd hindex (Nat.not_lt_zero index)
      · exact ⟨[], [], rfl, by simp, rfl, rfl, .inl rfl⟩
  | append_singleton bytes b ih =>
      by_cases hplace : (scanned dialect start bytes).place = .recordStart
      · exact ih.between_append hplace
      · exact ih.within_append hplace

/-- Every record has a first byte, with only terminators between it and the record before. -/
theorem exists_opensAfter (h : index < (recordsFrom dialect start bytes).length) :
    ∃ closed gap, OpensAfter dialect start bytes index closed gap := by
  have hlocated := located dialect start bytes
  rw [recordsFrom, ← scanned, Scan.finish] at h
  split at h
  · rw [List.length_reverse] at h
    exact hlocated.read index h
  · next hplace =>
      simp only [Scan.endRecord, List.length_reverse, List.length_cons] at h
      rcases Nat.lt_or_eq_of_le (Nat.le_of_lt_succ h) with hlt | rfl
      · exact hlocated.read index hlt
      · exact hlocated.within hplace

/-! ## After the mark -/

/-- The first byte of a record of an input comes after `closed ++ gap`, where the mark counts as
part of what is closed if it is not read. -/
inductive BeginsAfter (dialect : Dialect) (atHand : Nat) (bytes : Bytes) (index : Nat) :
    Bytes → Bytes → Prop where
  | unmarked {closed gap : Bytes} (hmark : ¬ Bytes.utf8Mark.isPrefixOf (bytes.take atHand))
      (h : OpensAfter dialect ⟨0, 1⟩ bytes index closed gap) :
      BeginsAfter dialect atHand bytes index closed gap
  | marked {closed gap : Bytes} (hmark : Bytes.utf8Mark.isPrefixOf (bytes.take atHand))
      (h : OpensAfter dialect ⟨Bytes.utf8Mark.length, 1⟩ (bytes.drop Bytes.utf8Mark.length) index
        closed gap) :
      BeginsAfter dialect atHand bytes index (Bytes.utf8Mark ++ closed) gap

variable {atHand : Nat}

theorem BeginsAfter.split (h : BeginsAfter dialect atHand bytes index closed gap) :
    ∃ b rest, isTerminator b = false ∧ bytes = closed ++ (gap ++ b :: rest) := by
  cases h with
  | unmarked hmark h => exact h.split
  | marked hmark h =>
      obtain ⟨b, rest, hb, hrest⟩ := h.split
      have hprefix : Bytes.utf8Mark <+: bytes :=
        (List.isPrefixOf_iff_prefix.mp hmark).trans (List.take_prefix _ _)
      refine ⟨b, rest, hb, ?_⟩
      rw [List.append_assoc, ← hrest]
      exact List.prefix_iff_eq_append.mp hprefix |>.symm

theorem BeginsAfter.isTerminator_of_mem_gap (h : BeginsAfter dialect atHand bytes index closed gap) :
    ∀ b ∈ gap, isTerminator b = true := by
  cases h with
  | unmarked hmark h => exact h.gap
  | marked hmark h => exact h.gap

/-- The line that is noted for a record is that of the place where the record before it ended. -/
theorem BeginsAfter.line_eq (h : BeginsAfter dialect atHand bytes index closed gap) :
    ∃ record, (records dialect atHand bytes)[index]? = some record ∧
      record.start.line = 1 + closed.count Bytes.newline := by
  cases h with
  | unmarked hmark h =>
      obtain ⟨record, hrecord, hstart⟩ := h.start_eq
      rw [records, if_neg hmark]
      exact ⟨record, hrecord, by rw [hstart, Position.line_after]⟩
  | marked hmark h =>
      obtain ⟨record, hrecord, hstart⟩ := h.start_eq
      have hnone : Bytes.utf8Mark.count Bytes.newline = 0 := by decide
      rw [records, if_pos hmark]
      exact ⟨record, hrecord, by rw [hstart, Position.line_after, List.count_append, hnone,
        Nat.zero_add]⟩

theorem exists_beginsAfter (h : index < (records dialect atHand bytes).length) :
    ∃ closed gap, BeginsAfter dialect atHand bytes index closed gap := by
  by_cases hmark : Bytes.utf8Mark.isPrefixOf (bytes.take atHand) = true
  · rw [records, if_pos hmark] at h
    obtain ⟨closed, gap, hopens⟩ := exists_opensAfter h
    exact ⟨_, gap, .marked hmark hopens⟩
  · rw [records, if_neg hmark] at h
    obtain ⟨closed, gap, hopens⟩ := exists_opensAfter h
    exact ⟨closed, gap, .unmarked hmark hopens⟩

end Opens

end TidyCsv.Csv
