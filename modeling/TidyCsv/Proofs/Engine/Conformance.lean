import TidyCsv.Engine.Pass
import TidyCsv.Proofs.Text.Decoding
import TidyCsv.Proofs.Text.Margins
import Mathlib.Data.List.Forall2

/-! # Column names, conforming rows and reasons for rejection

The names that a header gives its columns, the conditions under which a row conforms to a schema,
and those under which it is rejected for a given reason, with the record that is written about it.
They do not mention the functions that decide; equivalences tie these to them. -/

namespace TidyCsv

/-! ## Text of a record -/

theorem mapM_eq_some_iff {α β : Type} (f : α → Option β) :
    ∀ (xs : List α) (ys : List β),
      xs.mapM f = some ys ↔ List.Forall₂ (fun x y => f x = some y) xs ys := by
  intro xs
  induction xs with
  | nil =>
      intro ys
      simp [eq_comm]
  | cons x xs ih =>
      intro ys
      cases ys with
      | nil => cases hx : f x <;> cases hxs : xs.mapM f <;> simp [List.mapM_cons, hx, hxs]
      | cons y ys => simp [List.mapM_cons, Option.bind_eq_some_iff, ih]

theorem mapM_eq_none_iff {α β : Type} (f : α → Option β) (xs : List α) :
    xs.mapM f = none ↔ ∃ x ∈ xs, f x = none := by
  induction xs with
  | nil => simp
  | cons x xs ih =>
      cases hx : f x with
      | none => simp [List.mapM_cons, hx]
      | some y =>
          rw [List.exists_mem_cons_iff, hx, ← ih]
          cases hxs : xs.mapM f <;> simp [List.mapM_cons, hx, hxs]

theorem Csv.Record.text?_eq_some_iff (row : Csv.Record) (cells : List (List Char)) :
    row.text? = some cells ↔
      List.Forall₂ (fun field cell => Utf8.decode? field = some cell) row.fields cells :=
  mapM_eq_some_iff Utf8.decode? row.fields cells

theorem Csv.Record.text?_eq_some_iff_encode {row : Csv.Record} {cells : List (List Char)} :
    row.text? = some cells ↔ row.fields = cells.map Utf8.encode := by
  simp only [text?_eq_some_iff, Utf8.decode?_eq_some_iff]
  rw [← List.forall₂_map_right_iff (R := Eq), List.forall₂_eq_eq_eq]

theorem Csv.Record.text?_eq_none_iff {row : Csv.Record} :
    row.text? = none ↔ ∃ field ∈ row.fields, ¬ Utf8.Valid field := by
  simp only [text?, mapM_eq_none_iff, Utf8.valid_iff_decode?, Option.not_isSome_iff_eq_none]

theorem Csv.Record.length_text? {row : Csv.Record} {cells : List (List Char)}
    (h : row.text? = some cells) : cells.length = row.fields.length :=
  ((row.text?_eq_some_iff cells).mp h).length_eq.symm

/-! ## Names of columns -/

namespace Pass

open Unicode

/-- What a cell of the header names its column: its text without the blanks on both sides, or the
index of the column if there is nothing else. -/
inductive NamesColumn (index : Nat) (cell : List Char) : String → Prop where
  | text {left core right : List Char} (hcell : cell = left ++ (core ++ right))
      (hleft : ∀ c ∈ left, isBlank c = true) (hright : ∀ c ∈ right, isBlank c = true)
      (hfirst : ∃ c ∈ core.head?, isBlank c = false)
      (hlast : ∃ c ∈ core.getLast?, isBlank c = false) :
      NamesColumn index cell (String.ofList core)
  | blank (hblank : ∀ c ∈ cell, isBlank c = true) :
      NamesColumn index cell ("column" ++ toString index)

/-- All cells of a header are UTF-8, and these are the names that they give to their columns. -/
def NamesColumns (header : Csv.Record) (names : List String) : Prop :=
  ∃ cells : List (List Char), header.fields = cells.map Utf8.encode ∧
    names.length = cells.length ∧
    ∀ index cell name, cells[index]? = some cell → names[index]? = some name →
      NamesColumn index cell name

theorem columnName_of_nil {cell : List Char} (h : Text.trim cell = []) (index : Nat) :
    columnName index cell = "column" ++ toString index := by
  rw [columnName, h]

theorem columnName_of_ne_nil {cell : List Char} (h : Text.trim cell ≠ []) (index : Nat) :
    columnName index cell = String.ofList (Text.trim cell) := by
  rw [columnName]
  split
  · next hnil => exact absurd hnil h
  · rfl

theorem namesColumn_iff {index : Nat} {cell : List Char} {name : String} :
    NamesColumn index cell name ↔ columnName index cell = name := by
  constructor
  · rintro (⟨rfl, hleft, hright, hfirst, hlast⟩ | hblank)
    · next left core right =>
        have htrim := Text.trim_margins hleft hright hfirst hlast
        rw [columnName_of_ne_nil, htrim]
        rintro hnil
        rw [← htrim, hnil] at hfirst
        simp at hfirst
    · exact columnName_of_nil (Text.trim_eq_nil_iff.mpr hblank) index
  · rintro rfl
    by_cases hblank : Text.trim cell = []
    · rw [columnName_of_nil hblank]
      exact .blank (Text.trim_eq_nil_iff.mp hblank)
    · obtain ⟨left, right, hcell, hleft, hright, hfirst, hlast⟩ := Text.exists_margins hblank
      rw [columnName_of_ne_nil hblank]
      exact .text hcell hleft hright hfirst hlast

theorem columnNames?_eq_some_iff {header : Csv.Record} {names : List String} :
    columnNames? header = some names ↔ NamesColumns header names := by
  simp only [columnNames?, Option.map_eq_some_iff, Csv.Record.text?_eq_some_iff_encode,
    NamesColumns, namesColumn_iff]
  refine exists_congr fun cells => and_congr_right fun _ => ?_
  constructor
  · rintro rfl
    refine ⟨List.length_mapIdx, fun index cell name hcell hname => ?_⟩
    simpa [hcell] using hname
  · rintro ⟨hlength, hnames⟩
    refine List.ext_getElem (by simpa using hlength.symm) fun index hindex hindex' => ?_
    rw [List.getElem_mapIdx]
    exact hnames index _ _ (List.getElem?_eq_getElem _) (List.getElem?_eq_getElem hindex')

end Pass

/-! ## Rows -/

namespace Schema

variable (schema : Schema) (row : Csv.Record)

/-- The cells before an index cast to the types of their columns. -/
def CastsBefore (cells : List (List Char)) (index : Nat) : Prop :=
  ∀ i column cell, i < index → schema.columns[i]? = some column → cells[i]? = some cell →
    column.type.accepts cell = true

/-- All fields are UTF-8, there are as many of them as columns, and each casts to the type of its
column. -/
def Conforms : Prop :=
  ∃ cells, row.text? = some cells ∧ cells.length = schema.width ∧
    schema.CastsBefore cells schema.width

/-- The reason for which a row is rejected. A reason counts only where those before it do not
apply. -/
inductive Rejects : Rejection → Prop where
  | notUtf8 (htext : row.text? = none) : Rejects .notUtf8
  | tooShort (cells) (htext : row.text? = some cells) (hwidth : cells.length < schema.width) :
      Rejects (.tooShort schema cells.length)
  | tooLong (cells) (htext : row.text? = some cells) (hwidth : schema.width < cells.length) :
      Rejects (.tooLong schema cells.length)
  | cast (cells index column cell) (htext : row.text? = some cells)
      (hwidth : cells.length = schema.width) (hcolumn : schema.columns[index]? = some column)
      (hcell : cells[index]? = some cell) (hbad : column.type.accepts cell = false)
      (hfirst : schema.CastsBefore cells index) :
      Rejects (.castFailure index column cell)

/-! ## The first cell that does not cast -/

theorem getElem?_zip (cells : List (List Char)) (i : Nat) (column : Column) (cell : List Char) :
    (schema.columns.zip cells)[i]? = some (column, cell) ↔
      schema.columns[i]? = some column ∧ cells[i]? = some cell := by
  simp [List.getElem?_zip_eq_some]

theorem castsBefore_iff_zip (cells : List (List Char)) (index : Nat) :
    schema.CastsBefore cells index ↔
      ∀ i pair, i < index → (schema.columns.zip cells)[i]? = some pair →
        pair.1.type.accepts pair.2 = true := by
  constructor
  · rintro h i ⟨column, cell⟩ hi hpair
    obtain ⟨hcolumn, hcell⟩ := (schema.getElem?_zip cells i column cell).mp hpair
    exact h i column cell hi hcolumn hcell
  · intro h i column cell hi hcolumn hcell
    exact h i (column, cell) hi ((schema.getElem?_zip cells i column cell).mpr ⟨hcolumn, hcell⟩)

theorem firstCastFailure_eq_some_iff (cells : List (List Char)) (index : Nat) :
    schema.firstCastFailure cells = some index ↔
      (∃ column cell, schema.columns[index]? = some column ∧ cells[index]? = some cell ∧
        column.type.accepts cell = false) ∧ schema.CastsBefore cells index := by
  rw [castsBefore_iff_zip, firstCastFailure, List.findIdx?_eq_some_iff_getElem]
  constructor
  · rintro ⟨hlt, hbad, hfirst⟩
    refine ⟨⟨_, _, ?_, ?_, by simpa using hbad⟩, ?_⟩
    · simp
    · simp
    · intro i pair hi hpair
      obtain ⟨hlen, rfl⟩ := List.getElem?_eq_some_iff.mp hpair
      simpa using hfirst i hi
  · rintro ⟨⟨column, cell, hcolumn, hcell, hbad⟩, hfirst⟩
    have hpair := (schema.getElem?_zip cells index column cell).mpr ⟨hcolumn, hcell⟩
    obtain ⟨hlt, heq⟩ := List.getElem?_eq_some_iff.mp hpair
    refine ⟨hlt, by simp only [heq]; simpa using hbad, ?_⟩
    intro i hi
    have := hfirst i _ hi (List.getElem?_eq_getElem (Nat.lt_trans hi hlt))
    simpa using this

theorem firstCastFailure_eq_none_iff {cells : List (List Char)}
    (hwidth : cells.length = schema.width) :
    schema.firstCastFailure cells = none ↔ schema.CastsBefore cells schema.width := by
  have hlen : (schema.columns.zip cells).length = schema.width := by
    simp [hwidth, width]
  rw [castsBefore_iff_zip, firstCastFailure, List.findIdx?_eq_none_iff]
  constructor
  · intro h i pair _ hpair
    simpa using h pair (List.mem_of_getElem? hpair)
  · intro h pair hmem
    obtain ⟨i, hi, rfl⟩ := List.getElem_of_mem hmem
    simpa using h i _ (hlen ▸ hi) (List.getElem?_eq_getElem hi)

/-! ## The decision about a row -/

theorem reject?_of_text_none (htext : row.text? = none) : schema.reject? row = some .notUtf8 := by
  simp [reject?, htext]

theorem reject?_of_text_some {cells : List (List Char)} (htext : row.text? = some cells) :
    schema.reject? row = schema.rejectText? cells := by
  simp [reject?, htext]

theorem rejectText?_of_lt {cells : List (List Char)} (h : cells.length < schema.width) :
    schema.rejectText? cells = some (.tooShort schema cells.length) := by
  simp [rejectText?, h]

theorem rejectText?_of_gt {cells : List (List Char)} (h : schema.width < cells.length) :
    schema.rejectText? cells = some (.tooLong schema cells.length) := by
  simp [rejectText?, h, Nat.not_lt_of_gt h]

theorem rejectText?_of_cast {cells : List (List Char)} {index : Nat} {column : Column}
    {cell : List Char} (hwidth : cells.length = schema.width)
    (hfind : schema.firstCastFailure cells = some index)
    (hcolumn : schema.columns[index]? = some column) (hcell : cells[index]? = some cell) :
    schema.rejectText? cells = some (.castFailure index column cell) := by
  simp [rejectText?, hwidth, hfind, hcolumn, hcell]

theorem rejectText?_of_none {cells : List (List Char)} (hwidth : cells.length = schema.width)
    (hfind : schema.firstCastFailure cells = none) : schema.rejectText? cells = none := by
  simp [rejectText?, hwidth, hfind]

theorem Rejects.reject? {schema : Schema} {row : Csv.Record} {rejection : Rejection}
    (h : schema.Rejects row rejection) : schema.reject? row = some rejection := by
  cases h with
  | notUtf8 htext => exact schema.reject?_of_text_none row htext
  | tooShort cells htext hwidth =>
      rw [schema.reject?_of_text_some row htext, rejectText?_of_lt schema hwidth]
  | tooLong cells htext hwidth =>
      rw [schema.reject?_of_text_some row htext, rejectText?_of_gt schema hwidth]
  | cast cells index column cell htext hwidth hcolumn hcell hbad hfirst =>
      rw [schema.reject?_of_text_some row htext]
      have hfind : schema.firstCastFailure cells = some index :=
        (schema.firstCastFailure_eq_some_iff cells index).mpr
          ⟨⟨column, cell, hcolumn, hcell, hbad⟩, hfirst⟩
      exact rejectText?_of_cast schema hwidth hfind hcolumn hcell

theorem Conforms.reject? {schema : Schema} {row : Csv.Record} (h : schema.Conforms row) :
    schema.reject? row = none := by
  obtain ⟨cells, htext, hwidth, hcasts⟩ := h
  rw [schema.reject?_of_text_some row htext]
  exact rejectText?_of_none schema hwidth ((schema.firstCastFailure_eq_none_iff hwidth).mpr hcasts)

theorem conforms_or_rejects : schema.Conforms row ∨ ∃ rejection, schema.Rejects row rejection := by
  cases htext : row.text? with
  | none => exact .inr ⟨_, .notUtf8 htext⟩
  | some cells =>
      rcases Nat.lt_trichotomy cells.length schema.width with hlt | heq | hgt
      · exact .inr ⟨_, .tooShort cells htext hlt⟩
      · cases hfind : schema.firstCastFailure cells with
        | none =>
            exact .inl ⟨cells, htext, heq, (schema.firstCastFailure_eq_none_iff heq).mp hfind⟩
        | some index =>
            obtain ⟨⟨column, cell, hcolumn, hcell, hbad⟩, hfirst⟩ :=
              (schema.firstCastFailure_eq_some_iff cells index).mp hfind
            exact .inr
              ⟨_, .cast cells index column cell htext heq hcolumn hcell hbad hfirst⟩
      · exact .inr ⟨_, .tooLong cells htext hgt⟩

theorem reject?_eq_none_iff : schema.reject? row = none ↔ schema.Conforms row := by
  refine ⟨?_, Conforms.reject?⟩
  intro hnone
  rcases schema.conforms_or_rejects row with h | ⟨rejection, h⟩
  · exact h
  · simp [h.reject?] at hnone

theorem reject?_eq_some_iff (rejection : Rejection) :
    schema.reject? row = some rejection ↔ schema.Rejects row rejection := by
  refine ⟨?_, Rejects.reject?⟩
  intro hsome
  rcases schema.conforms_or_rejects row with h | ⟨other, h⟩
  · simp [h.reject?] at hsome
  · have heq : other = rejection := by simpa [h.reject?] using hsome
    exact heq ▸ h

instance : DecidablePred schema.Conforms := fun row =>
  decidable_of_iff (schema.reject? row = none) (schema.reject?_eq_none_iff row)

end Schema

/-! ## Records about rejected rows -/

namespace Pass

/-- The record about a row that gives a reason. -/
def recordAbout (options : ReadOptions) (delimiter : UInt8) (row : Csv.Record)
    (columnIdx columnName errorType message : String) : List Bytes :=
  [Utf8.ofString (toString (row.start.line + options.skipRows)), Utf8.ofString columnIdx,
    Utf8.ofString columnName, Utf8.ofString errorType, Utf8.encode (rawLine delimiter row),
    Utf8.ofString message]

/-- A record is about a row that is rejected, and gives the first reason that applies, with the
column at which it does. -/
inductive Reports (options : ReadOptions) (delimiter : UInt8) (schema : Schema)
    (row : Csv.Record) : List Bytes → Prop where
  | notUtf8 (field) (hfield : field ∈ row.fields) (hinvalid : ¬ Utf8.Valid field) :
      Reports options delimiter schema row
        (recordAbout options delimiter row "" "" "INVALID_UNICODE"
          "Invalid unicode (byte sequence mismatch) detected")
  | tooShort (cells : List (List Char)) (column) (htext : row.fields = cells.map Utf8.encode)
      (hcolumn : schema.columns[cells.length]? = some column) :
      Reports options delimiter schema row
        (recordAbout options delimiter row (toString (cells.length + 1)) column.name
          "MISSING_COLUMNS"
          ("Expected Number of Columns: " ++ toString schema.columns.length
            ++ " Found: " ++ toString cells.length))
  | tooLong (cells : List (List Char)) (htext : row.fields = cells.map Utf8.encode)
      (hwidth : schema.columns.length < cells.length) :
      Reports options delimiter schema row
        (recordAbout options delimiter row (toString (schema.columns.length + 1)) ""
          "TOO_MANY_COLUMNS"
          ("Expected Number of Columns: " ++ toString schema.columns.length
            ++ " Found: " ++ toString cells.length))
  | cast (cells : List (List Char)) (index column cell)
      (htext : row.fields = cells.map Utf8.encode)
      (hwidth : cells.length = schema.columns.length)
      (hcolumn : schema.columns[index]? = some column) (hcell : cells[index]? = some cell)
      (hbad : column.type.accepts cell = false) (hfirst : schema.CastsBefore cells index) :
      Reports options delimiter schema row
        (recordAbout options delimiter row (toString (index + 1)) column.name "CAST"
          ("Error when converting column \"" ++ column.name
            ++ "\". Could not convert string \"" ++ String.ofList cell
            ++ "\" to '" ++ column.type.name ++ "'"))

theorem rejectRecord_tooShort (options : ReadOptions) (delimiter : UInt8) {schema : Schema}
    (row : Csv.Record) {found : Nat} {column : Column}
    (hcolumn : schema.columns[found]? = some column) :
    rejectRecord options delimiter row (.tooShort schema found) =
      recordAbout options delimiter row (toString (found + 1)) column.name "MISSING_COLUMNS"
        ("Expected Number of Columns: " ++ toString schema.columns.length
          ++ " Found: " ++ toString found) := by
  simp only [rejectRecord, Rejection.tooShort, hcolumn, Option.map_some, Option.getD_some]
  rfl

/-- What is written about a row is the record for the reason for which it is rejected. -/
theorem reports_iff {options : ReadOptions} {delimiter : UInt8} {schema : Schema}
    {row : Csv.Record} {record : List Bytes} :
    Reports options delimiter schema row record ↔
      ∃ rejection, schema.Rejects row rejection ∧
        record = rejectRecord options delimiter row rejection := by
  constructor
  · intro h
    cases h with
    | notUtf8 field hfield hinvalid =>
        exact ⟨_, .notUtf8 (Csv.Record.text?_eq_none_iff.mpr ⟨field, hfield, hinvalid⟩), rfl⟩
    | tooShort cells column htext hcolumn =>
        obtain ⟨hwidth, -⟩ := List.getElem?_eq_some_iff.mp hcolumn
        exact ⟨_, .tooShort cells (Csv.Record.text?_eq_some_iff_encode.mpr htext) hwidth,
          (rejectRecord_tooShort options delimiter row hcolumn).symm⟩
    | tooLong cells htext hwidth =>
        exact ⟨_, .tooLong cells (Csv.Record.text?_eq_some_iff_encode.mpr htext) hwidth, rfl⟩
    | cast cells index column cell htext hwidth hcolumn hcell hbad hfirst =>
        exact ⟨_, .cast cells index column cell (Csv.Record.text?_eq_some_iff_encode.mpr htext)
          hwidth hcolumn hcell hbad hfirst, rfl⟩
  · rintro ⟨rejection, hrejects, rfl⟩
    cases hrejects with
    | notUtf8 htext =>
        obtain ⟨field, hfield, hinvalid⟩ := Csv.Record.text?_eq_none_iff.mp htext
        exact .notUtf8 field hfield hinvalid
    | tooShort cells htext hwidth =>
        have hcolumn : schema.columns[cells.length]? = some _ := List.getElem?_eq_getElem hwidth
        rw [rejectRecord_tooShort options delimiter row hcolumn]
        exact .tooShort cells _ (Csv.Record.text?_eq_some_iff_encode.mp htext) hcolumn
    | tooLong cells htext hwidth =>
        exact .tooLong cells (Csv.Record.text?_eq_some_iff_encode.mp htext) hwidth
    | cast cells index column cell htext hwidth hcolumn hcell hbad hfirst =>
        exact .cast cells index column cell (Csv.Record.text?_eq_some_iff_encode.mp htext) hwidth
          hcolumn hcell hbad hfirst

end Pass

end TidyCsv
