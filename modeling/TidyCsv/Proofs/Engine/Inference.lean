import Mathlib.Data.List.Basic
import TidyCsv.Schema

/-! # Which type a column is given

All values of a column have a type exactly if as many have been counted for it as there are values.
So counting finds the first type that every cell casts to, and nothing else about the sample counts
than which cells a column has in the rows that are as wide as the header. -/

namespace TidyCsv

namespace ColumnType

variable {cells other : List (List Char)} {cell : List Char} {type type' : ColumnType}

/-! ## The type of some cells -/

/-- The types other than text, in the order in which a column is tried for them. -/
def tried : List ColumnType := [boolean, integer, float, date, timestamp, guid]

/-- The type of a column with these cells: the first one that all of them cast to, if one of them
has a value, and otherwise text. -/
inductive Fits (cells : List (List Char)) : ColumnType → Prop where
  | blank (hblank : ∀ cell ∈ cells, Text.trim cell = []) : Fits cells text
  | first {before after : List ColumnType} {type : ColumnType}
      (horder : tried = before ++ type :: after) (hvalue : ∃ cell ∈ cells, Text.trim cell ≠ [])
      (hall : ∀ cell ∈ cells, type.accepts cell = true)
      (hbefore : ∀ earlier ∈ before, ∃ cell ∈ cells, earlier.accepts cell = false) :
      Fits cells type
  | mixed (hnone : ∀ type ∈ tried, ∃ cell ∈ cells, type.accepts cell = false) : Fits cells text

@[simp] theorem accepts_text (cell : List Char) : text.accepts cell = true := by
  simp [accepts, admits]

theorem Fits.accepts (h : Fits cells type) (hcell : cell ∈ cells) : type.accepts cell = true := by
  cases h with
  | blank hblank => exact accepts_text cell
  | first horder hvalue hall hbefore => exact hall cell hcell
  | mixed hnone => exact accepts_text cell

/-- Neither the order of the cells nor how often each of them occurs has a part in their type. -/
theorem Fits.congr (h : Fits cells type) (hsame : ∀ cell, cell ∈ cells ↔ cell ∈ other) :
    Fits other type := by
  have hexists : ∀ {p : List Char → Prop}, (∃ cell ∈ cells, p cell) → ∃ cell ∈ other, p cell :=
    fun ⟨cell, hcell, hp⟩ => ⟨cell, (hsame cell).mp hcell, hp⟩
  cases h with
  | blank hblank => exact .blank fun cell hcell => hblank cell ((hsame cell).mpr hcell)
  | first horder hvalue hall hbefore =>
    exact .first horder (hexists hvalue) (fun cell hcell => hall cell ((hsame cell).mpr hcell))
      fun earlier hearlier => hexists (hbefore earlier hearlier)
  | mixed hnone => exact .mixed fun type htype => hexists (hnone type htype)

theorem Fits.eq_of_first {before after : List ColumnType}
    (horder : tried = before ++ type :: after) (hvalue : ∃ cell ∈ cells, Text.trim cell ≠ [])
    (hall : ∀ cell ∈ cells, type.accepts cell = true)
    (hbefore : ∀ earlier ∈ before, ∃ cell ∈ cells, earlier.accepts cell = false)
    (h : Fits cells type') : type' = type := by
  have hnot : ¬ ∃ cell ∈ cells, type.accepts cell = false := by
    rintro ⟨cell, hcell, hbad⟩
    exact Bool.false_ne_true (hbad.symm.trans (hall cell hcell))
  cases h with
  | blank hblank =>
    obtain ⟨cell, hcell, hne⟩ := hvalue
    exact absurd (hblank cell hcell) hne
  | mixed hnone => exact absurd (hnone type (by simp [horder])) hnot
  | first horder' hvalue' hall' hbefore' =>
    next before' after' =>
    have hnot' : ¬ ∃ cell ∈ cells, type'.accepts cell = false := by
      rintro ⟨cell, hcell, hbad⟩
      exact Bool.false_ne_true (hbad.symm.trans (hall' cell hcell))
    -- of two places in the order, the one that comes first is refused by the other
    rcases List.append_eq_append_iff.mp (horder.symm.trans horder') with
      ⟨more, hmore, hrest⟩ | ⟨more, hmore, hrest⟩
    · cases more with
      | nil => exact (List.cons.inj hrest).1.symm
      | cons head tail =>
        obtain rfl := (List.cons.inj hrest).1
        exact absurd (hbefore' type (by simp [hmore])) hnot
    · cases more with
      | nil => exact (List.cons.inj hrest).1
      | cons head tail =>
        obtain rfl := (List.cons.inj hrest).1
        exact absurd (hbefore type' (by simp [hmore])) hnot'

theorem Fits.unique (h : Fits cells type) (h' : Fits cells type') : type = type' := by
  cases h with
  | first horder hvalue hall hbefore =>
    exact (Fits.eq_of_first horder hvalue hall hbefore h').symm
  | blank hblank =>
    cases h' with
    | first horder hvalue hall hbefore =>
      exact Fits.eq_of_first horder hvalue hall hbefore (.blank hblank)
    | blank hblank' => rfl
    | mixed hnone => rfl
  | mixed hnone =>
    cases h' with
    | first horder hvalue hall hbefore =>
      exact Fits.eq_of_first horder hvalue hall hbefore (.mixed hnone)
    | blank hblank => rfl
    | mixed hnone' => rfl

/-! ## Counting -/

/-- Whether a cell has a value of a type. -/
def holds (type : ColumnType) (cell : List Char) : Bool :=
  !(Text.trim cell).isEmpty && type.admits (Text.trim cell)

theorem text_holds_iff : text.holds cell = true ↔ Text.trim cell ≠ [] := by
  simp [holds, admits]

theorem text_holds_of_holds (h : type.holds cell = true) : text.holds cell = true := by
  simp only [holds, Bool.and_eq_true] at h ⊢
  exact ⟨h.1, rfl⟩

theorem accepts_eq_true_iff :
    type.accepts cell = true ↔ (text.holds cell = true → type.holds cell = true) := by
  cases hblank : (Text.trim cell).isEmpty <;> simp [accepts, holds, hblank, admits]

end ColumnType

namespace Census

open ColumnType

variable {census : Census} {cells : List (List Char)} {type : ColumnType}

/-- The number of values of a type that have been counted. -/
def matching (census : Census) : ColumnType → Nat
  | .text => census.values
  | .integer => census.integers
  | .float => census.floats
  | .boolean => census.booleans
  | .date => census.dates
  | .timestamp => census.timestamps
  | .guid => census.guids

theorem matching_count (census : Census) (cell : List Char) (type : ColumnType) :
    (census.count cell).matching type = census.matching type + (type.holds cell).toNat := by
  cases hblank : (Text.trim cell).isEmpty with
  | true => simp [count, holds, hblank]
  | false => cases type <;> simp [count, matching, holds, admits, hblank]

/-- After some cells, the values of each type have been counted. -/
theorem matching_foldl_count (census : Census) (cells : List (List Char)) (type : ColumnType) :
    (cells.foldl count census).matching type = census.matching type + cells.countP type.holds := by
  induction cells generalizing census with
  | nil => rfl
  | cons cell rest ih =>
    rw [List.foldl_cons, ih, matching_count, List.countP_cons, Nat.add_assoc]
    cases type.holds cell <;> simp [Nat.add_comm]

theorem matching_counted (cells : List (List Char)) (type : ColumnType) :
    (cells.foldl count empty).matching type = cells.countP type.holds := by
  rw [matching_foldl_count]
  cases type <;> simp [matching, empty]

theorem values_counted (cells : List (List Char)) :
    (cells.foldl count empty).values = cells.countP text.holds := matching_counted cells text

/-- As many values of a type as there are values: all of them are of the type. -/
theorem countP_eq_iff :
    cells.countP type.holds = cells.countP text.holds ↔ ∀ cell ∈ cells, type.accepts cell = true := by
  have hvalues : cells.countP text.holds = (cells.filter text.holds).length :=
    List.countP_eq_length_filter
  have hmatching : cells.countP type.holds = (cells.filter text.holds).countP type.holds := by
    rw [List.countP_filter]
    refine List.countP_congr fun cell _ => ?_
    rw [Bool.and_eq_true]
    exact ⟨fun h => ⟨h, text_holds_of_holds h⟩, fun h => h.1⟩
  rw [hvalues, hmatching, List.countP_eq_length]
  simp only [List.mem_filter, accepts_eq_true_iff, and_imp]

theorem type_eq_find? (census : Census) :
    census.type =
      if census.values = 0 then .text
      else (tried.find? fun type => census.isAll (census.matching type)).getD .text := by
  have hcons (found : ColumnType → Bool) (type : ColumnType) (rest : List ColumnType) :
      ((type :: rest).find? found).getD .text =
        if found type then type else (rest.find? found).getD .text := by
    cases htype : found type <;> simp [htype]
  simp only [type, tried, hcons, List.find?_nil, Option.getD_none, matching]

/-- Where there is a value, counting tells whether all cells cast to a type. -/
theorem isAll_matching_iff (hvalue : ∃ cell ∈ cells, Text.trim cell ≠ []) :
    (cells.foldl count empty).isAll ((cells.foldl count empty).matching type) = true ↔
      ∀ cell ∈ cells, type.accepts cell = true := by
  have hsome : 0 < cells.countP text.holds := by
    obtain ⟨cell, hcell, hne⟩ := hvalue
    exact List.countP_pos_iff.mpr ⟨cell, hcell, text_holds_iff.mpr hne⟩
  rw [isAll, Bool.and_eq_true, decide_eq_true_eq, beq_iff_eq, matching_counted, values_counted,
    ← countP_eq_iff]
  exact ⟨fun h => h.2, fun h => ⟨h ▸ hsome, h⟩⟩

theorem fits_foldl_count (cells : List (List Char)) :
    Fits cells (cells.foldl count empty).type := by
  rw [type_eq_find?, values_counted]
  split
  · next hnone =>
    refine .blank fun cell hcell => ?_
    have hnot := List.countP_eq_zero.mp hnone cell hcell
    exact not_not.mp (mt text_holds_iff.mpr hnot)
  · next hsome =>
    have hvalue : ∃ cell ∈ cells, Text.trim cell ≠ [] := by
      obtain ⟨cell, hcell, hholds⟩ := List.countP_pos_iff.mp (Nat.pos_of_ne_zero hsome)
      exact ⟨cell, hcell, text_holds_iff.mp hholds⟩
    have hrefused : ∀ type, (cells.foldl count empty).isAll
        ((cells.foldl count empty).matching type) = false →
          ∃ cell ∈ cells, type.accepts cell = false := by
      intro type hnot
      rw [Bool.eq_false_iff, ne_eq, isAll_matching_iff hvalue] at hnot
      push Not at hnot
      simpa using hnot
    cases hfind : tried.find? fun type =>
        (cells.foldl count empty).isAll ((cells.foldl count empty).matching type) with
    | none =>
      refine .mixed fun type htype => hrefused type ?_
      simpa using List.find?_eq_none.mp hfind type htype
    | some type =>
      obtain ⟨hall, before, after, horder, hbefore⟩ := List.find?_eq_some_iff_append.mp hfind
      refine .first horder hvalue ((isAll_matching_iff hvalue).mp hall) fun earlier hearlier => ?_
      exact hrefused earlier (by simpa using hbefore earlier hearlier)

end Census

namespace Schema

open ColumnType

variable {names : List String} {sample other : List (List (List Char))} {index : Nat}
  {row : List (List Char)} {cell : List Char} {column : Column}

/-! ## Columns -/

/-- The cells of a column in the rows that are as wide as the header. -/
def columnCells (names : List String) (sample : List (List (List Char))) (index : Nat) :
    List (List Char) :=
  (sample.filter fun row => row.length == names.length).filterMap fun row => row[index]?

theorem mem_columnCells_iff :
    cell ∈ columnCells names sample index ↔
      ∃ row ∈ sample, row.length = names.length ∧ row[index]? = some cell := by
  simp [columnCells, and_assoc]

theorem getElem?_foldl_countRow {rows : List (List (List Char))} {censuses : List Census}
    (hrows : ∀ row ∈ rows, row.length = censuses.length) (index : Nat) :
    (rows.foldl countRow censuses)[index]? =
      censuses[index]?.map fun census =>
        (rows.filterMap fun row => row[index]?).foldl Census.count census := by
  induction rows generalizing censuses with
  | nil => simp
  | cons row rest ih =>
    obtain ⟨hrow, hrest⟩ := List.forall_mem_cons.mp hrows
    have hlength : (countRow censuses row).length = censuses.length := by
      simp [countRow, hrow]
    rw [List.foldl_cons, ih (by simpa [hlength] using hrest), countRow, List.getElem?_zipWith]
    by_cases hindex : index < censuses.length
    · have hcell : row[index]? = some (row[index]) := List.getElem?_eq_getElem (by omega)
      simp [List.getElem?_eq_getElem hindex, hcell]
    · simp [List.getElem?_eq_none (Nat.not_lt.mp hindex)]

theorem getElem?_columns_infer (names : List String) (sample : List (List (List Char)))
    (index : Nat) :
    (infer names sample).columns[index]? = names[index]?.map fun name =>
      ⟨name, ((columnCells names sample index).foldl Census.count Census.empty).type⟩ := by
  have hrows : ∀ row ∈ sample.filter fun row => row.length == names.length,
      row.length = (List.replicate names.length Census.empty).length := by
    intro row hrow
    simpa using (List.mem_filter.mp hrow).2
  rw [infer, List.getElem?_zipWith, getElem?_foldl_countRow hrows, ← columnCells]
  by_cases hindex : index < names.length
  · simp [hindex]
  · simp [List.getElem?_eq_none (Nat.not_lt.mp hindex)]

theorem map_name_infer (names : List String) (sample : List (List (List Char))) :
    (infer names sample).columns.map Column.name = names := by
  apply List.ext_getElem?
  intro index
  rw [List.getElem?_map, getElem?_columns_infer]
  cases names[index]? <;> rfl

@[simp] theorem width_infer (names : List String) (sample : List (List (List Char))) :
    (infer names sample).width = names.length := by
  have hlength := congrArg List.length (map_name_infer names sample)
  simpa [width] using hlength

theorem fits_infer (h : (infer names sample).columns[index]? = some column) :
    Fits (columnCells names sample index) column.type := by
  rw [getElem?_columns_infer] at h
  obtain ⟨name, -, rfl⟩ := Option.map_eq_some_iff.mp h
  exact Census.fits_foldl_count _

/-- Two samples with the same rows of the header's width lead to the same schema. -/
theorem infer_congr
    (hsame : ∀ row, row.length = names.length → (row ∈ sample ↔ row ∈ other)) :
    infer names sample = infer names other := by
  have hcells : ∀ index cell,
      cell ∈ columnCells names sample index ↔ cell ∈ columnCells names other index := by
    intro index cell
    rw [mem_columnCells_iff, mem_columnCells_iff]
    exact exists_congr fun row => and_congr_left fun h => hsame row h.1
  have hcolumns : (infer names sample).columns = (infer names other).columns := by
    apply List.ext_getElem?
    intro index
    rw [getElem?_columns_infer, getElem?_columns_infer]
    have htype := ((Census.fits_foldl_count _).congr (hcells index)).unique
      (Census.fits_foldl_count (columnCells names other index))
    rw [htype]
  exact congrArg Schema.mk hcolumns

/-- Each column has its name, and the type of its cells in the rows that are as wide as the header:
the first one of the order in which they are tried that all those cells cast to. Nothing else about
the sample has a part in it: rows of another width may come and go, and the others may be in any
order and as often as they like. -/
theorem infer_types (names : List String) (sample : List (List (List Char))) :
    (infer names sample).columns.map Column.name = names ∧
      (∀ index column, (infer names sample).columns[index]? = some column →
        Fits (columnCells names sample index) column.type) ∧
      ∀ other, (∀ row, row.length = names.length → (row ∈ sample ↔ row ∈ other)) →
        infer names sample = infer names other :=
  ⟨map_name_infer names sample, fun _ _ => fits_infer, fun _ => infer_congr⟩

/-- Rows in another order, one of them twice, and a row that is too long instead of one that is too
short. -/
theorem infer_types_shuffled :
    let names := ["age", "member"]
    let sample := [["41", "yes"], [" ", "no"], ["x"]].map fun row => row.map String.toList
    let other := [[" ", "no"], ["41", "yes"], ["x", "y", "z"], ["41", "yes"]].map fun row =>
      row.map String.toList
    (infer names sample).columns = [⟨"age", .integer⟩, ⟨"member", .boolean⟩] ∧
      Fits (columnCells names sample 0) .integer ∧
      (∀ row, row.length = names.length → (row ∈ sample ↔ row ∈ other)) ∧
      infer names sample = infer names other := by
  intro names sample other
  have hcolumns : (infer names sample).columns = [⟨"age", .integer⟩, ⟨"member", .boolean⟩] := by
    decide
  have hsame : ∀ row, row.length = names.length → (row ∈ sample ↔ row ∈ other) := by
    intro row hrow
    have htwo : row.length = 2 := hrow
    simp only [sample, other, List.map_cons, List.map_nil, List.mem_cons, List.not_mem_nil, or_false]
    grind
  obtain ⟨-, hfits, hcongr⟩ := infer_types names sample
  exact ⟨hcolumns, hfits 0 ⟨"age", .integer⟩ (by rw [hcolumns]; rfl), hsame, hcongr other hsame⟩

end Schema

end TidyCsv
