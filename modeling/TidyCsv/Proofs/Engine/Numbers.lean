import TidyCsv.Proofs.Engine.Conformance
import TidyCsv.Proofs.Engine.Inference
import TidyCsv.Proofs.Value.Number

/-! # Columns of numbers

Whatever is an integer is a float, and no float is a truth value. So a column of integers and floats
is found to hold integers if all of them are, and floats otherwise; and a column of floats goes on
to take integers. -/

namespace TidyCsv

namespace ColumnType

variable {cells : List (List Char)} {cell : List Char}

theorem accepts_iff {type : ColumnType} :
    type.accepts cell = true ↔ Text.trim cell = [] ∨ type.admits (Text.trim cell) = true := by
  simp [accepts]

theorem float_accepts_of_integer_accepts (h : integer.accepts cell = true) :
    float.accepts cell = true := by
  rw [accepts_iff] at h ⊢
  exact h.imp_right Value.isFloat_of_isInteger

theorem boolean_accepts_eq_false (h : float.accepts cell = true) (hvalue : Text.trim cell ≠ []) :
    boolean.accepts cell = false := by
  have hfloat : Value.isFloat (Text.trim cell) = true := (accepts_iff.mp h).resolve_left hvalue
  simp [accepts, hvalue, admits, Value.isBoolean_eq_false_of_isFloat hfloat]

/-- Some cells of which each one is a float or blank, but not all are blank. -/
structure AreNumbers (cells : List (List Char)) : Prop where
  exists_value : ∃ cell ∈ cells, Text.trim cell ≠ []
  accepts : ∀ cell ∈ cells, float.accepts cell = true

theorem AreNumbers.exists_boolean_accepts_eq_false (h : AreNumbers cells) :
    ∃ cell ∈ cells, boolean.accepts cell = false := by
  obtain ⟨cell, hcell, hvalue⟩ := h.exists_value
  exact ⟨cell, hcell, boolean_accepts_eq_false (h.accepts cell hcell) hvalue⟩

theorem AreNumbers.fits_integer (h : AreNumbers cells)
    (hall : ∀ cell ∈ cells, integer.accepts cell = true) : Fits cells integer := by
  have horder : tried = [boolean] ++ integer :: [float, date, timestamp, guid] := rfl
  refine .first horder h.exists_value hall ?_
  simpa using h.exists_boolean_accepts_eq_false

theorem AreNumbers.fits_float (h : AreNumbers cells)
    (hsome : ∃ cell ∈ cells, integer.accepts cell = false) : Fits cells float := by
  have horder : tried = [boolean, integer] ++ float :: [date, timestamp, guid] := rfl
  refine .first horder h.exists_value h.accepts ?_
  simpa using ⟨h.exists_boolean_accepts_eq_false, hsome⟩

end ColumnType

namespace Schema

open ColumnType

variable {names : List String} {sample : List (List (List Char))} {index : Nat}

theorem exists_column_infer {cell : List Char} (h : cell ∈ columnCells names sample index) :
    ∃ column, (infer names sample).columns[index]? = some column := by
  obtain ⟨row, -, hwidth, hcell⟩ := mem_columnCells_iff.mp h
  have hindex : index < names.length := by
    rw [← hwidth]
    exact (List.getElem?_eq_some_iff.mp hcell).1
  rw [getElem?_columns_infer, List.getElem?_eq_getElem hindex]
  exact ⟨_, rfl⟩

theorem exists_column_of_areNumbers (h : AreNumbers (columnCells names sample index)) :
    ∃ column, (infer names sample).columns[index]? = some column ∧
      (column.type = .integer ∧
          (∀ cell ∈ columnCells names sample index, integer.accepts cell = true) ∨
        column.type = .float ∧
          ∃ cell ∈ columnCells names sample index, integer.accepts cell = false) := by
  obtain ⟨cell, hcell, -⟩ := h.exists_value
  obtain ⟨column, hcolumn⟩ := exists_column_infer hcell
  refine ⟨column, hcolumn, ?_⟩
  by_cases hall : ∀ cell ∈ columnCells names sample index, integer.accepts cell = true
  · exact .inl ⟨(fits_infer hcolumn).unique (h.fits_integer hall), hall⟩
  · have hsome : ∃ cell ∈ columnCells names sample index, integer.accepts cell = false := by
      simpa using hall
    exact .inr ⟨(fits_infer hcolumn).unique (h.fits_float hsome), hsome⟩

/-- A text is an integer exactly if it writes down a number of 64 bits, with a sign or without, and
then it is a float. So a column whose values are integers and floats is a column of integers if all
of them are, and of floats otherwise; and no row is rejected because of an integer in a column of
floats. -/
theorem infer_numbers :
    (∀ text, Value.isInteger text = true ↔
      ∃ value, Value.Denotes text value ∧ Int64.minValue.toInt ≤ value ∧
        value ≤ Int64.maxValue.toInt) ∧
    (∀ text, Value.isInteger text = true → Value.isFloat text = true) ∧
    (∀ (names : List String) (sample : List (List (List Char))) (index : Nat),
      (∃ cell ∈ columnCells names sample index, Text.trim cell ≠ []) →
      (∀ cell ∈ columnCells names sample index, Text.trim cell ≠ [] →
        Value.isInteger (Text.trim cell) = true ∨ Value.isFloat (Text.trim cell) = true) →
      ∃ column, (infer names sample).columns[index]? = some column ∧
        (column.type = .integer ∧
            (∀ cell ∈ columnCells names sample index, integer.accepts cell = true) ∨
          column.type = .float ∧
            ∃ cell ∈ columnCells names sample index, integer.accepts cell = false)) ∧
    ∀ (schema : Schema) (row : List (List Char)) (index : Nat) (column : Column) (cell : List Char),
      schema.firstCastFailure row = some index → schema.columns[index]? = some column →
      column.type = .float → row[index]? = some cell →
        Value.isInteger (Text.trim cell) = false := by
  refine ⟨Value.isInteger_iff_denotes, fun _ => Value.isFloat_of_isInteger, ?_, ?_⟩
  · intro names sample index hvalue hnumbers
    refine exists_column_of_areNumbers ⟨hvalue, fun cell hcell => accepts_iff.mpr ?_⟩
    by_cases hblank : Text.trim cell = []
    · exact .inl hblank
    · exact .inr ((hnumbers cell hcell hblank).elim Value.isFloat_of_isInteger id)
  · intro schema row index column cell hfailure hcolumn htype hcell
    obtain ⟨⟨column', cell', hcolumn', hcell', hbad⟩, -⟩ :=
      (firstCastFailure_eq_some_iff schema row index).mp hfailure
    obtain rfl : column = column' := Option.some.inj (hcolumn.symm.trans hcolumn')
    obtain rfl : cell = cell' := Option.some.inj (hcell.symm.trans hcell')
    rw [htype] at hbad
    rw [Bool.eq_false_iff]
    intro hinteger
    have hgood := float_accepts_of_integer_accepts (accepts_iff.mpr (.inr hinteger))
    exact Bool.false_ne_true (hbad.symm.trans hgood)

/-- The least integer and another float make a column of floats, in which a later row is rejected
for a value that is no integer. -/
theorem infer_numbers_mixed :
    let names := ["amount"]
    let sample := [["1e3"], [" "], ["-9223372036854775808"]].map fun row => row.map String.toList
    let row := ["1,5"].map String.toList
    (∃ cell ∈ columnCells names sample 0, Text.trim cell ≠ []) ∧
      (∀ cell ∈ columnCells names sample 0, Text.trim cell ≠ [] →
        Value.isInteger (Text.trim cell) = true ∨ Value.isFloat (Text.trim cell) = true) ∧
      Value.isFloat "-9223372036854775808".toList = true ∧
      Value.isInteger "-9223372036854775809".toList = false ∧
      (∃ column, (infer names sample).columns[0]? = some column ∧ column.type = .float) ∧
      (infer names sample).firstCastFailure row = some 0 ∧
      Value.isInteger (Text.trim "1,5".toList) = false := by
  intro names sample row
  obtain ⟨-, hfloats, hcolumns, hlater⟩ := infer_numbers
  have hvalue : ∃ cell ∈ columnCells names sample 0, Text.trim cell ≠ [] := by decide
  have hnumbers : ∀ cell ∈ columnCells names sample 0, Text.trim cell ≠ [] →
      Value.isInteger (Text.trim cell) = true ∨ Value.isFloat (Text.trim cell) = true := by
    decide
  have hmixed : ¬ ∀ cell ∈ columnCells names sample 0, integer.accepts cell = true := by
    decide
  have hfailure : (infer names sample).firstCastFailure row = some 0 := by decide
  obtain ⟨column, hcolumn, ⟨-, hall⟩ | ⟨htype, -⟩⟩ := hcolumns names sample 0 hvalue hnumbers
  · exact absurd hall hmixed
  · exact ⟨hvalue, hnumbers, hfloats _ (by decide), by decide,
      ⟨column, hcolumn, htype⟩, hfailure, hlater _ row 0 column _ hfailure hcolumn htype rfl⟩

end Schema

end TidyCsv
