import TidyCsv.Text.Lines
import TidyCsv.Value.Calendar
import TidyCsv.Value.Number
import TidyCsv.Value.Token

/-!
# Column types

Each column gets the first type that all its sampled values have, which is told by counting them;
blank values have every type.
-/

namespace TidyCsv

inductive ColumnType where
  | text
  | integer
  | float
  | boolean
  | date
  | timestamp
  | guid
deriving DecidableEq, Repr

namespace ColumnType

def name : ColumnType → String
  | text => "VARCHAR"
  | integer => "BIGINT"
  | float => "DOUBLE"
  | boolean => "BOOLEAN"
  | date => "DATE"
  | timestamp => "TIMESTAMP"
  | guid => "UUID"

def all : List ColumnType := [text, integer, float, boolean, date, timestamp, guid]

/-- Whether a value without blank margins has a type. -/
def admits (type : ColumnType) (value : List Char) : Bool :=
  match type with
  | text => true
  | integer => Value.isInteger value
  | float => Value.isFloat value
  | boolean => Value.isBoolean value
  | date => Value.isDate value
  | timestamp => Value.isTimestamp value
  | guid => Value.isGuid value

/-- Whether a cell casts to a type. Blank cells are nulls and always do. -/
def accepts (type : ColumnType) (cell : List Char) : Bool :=
  let value := Text.trim cell
  value.isEmpty || type.admits value

end ColumnType

/-! ## Counting -/

/-- What is counted of a column: its sampled values, blank ones left out, and those of each type. -/
structure Census where
  values : Nat
  booleans : Nat
  integers : Nat
  floats : Nat
  dates : Nat
  timestamps : Nat
  guids : Nat
deriving DecidableEq, Repr

namespace Census

def empty : Census := ⟨0, 0, 0, 0, 0, 0, 0⟩

/-- Counts a cell, unless it is blank. -/
def count (census : Census) (cell : List Char) : Census :=
  let value := Text.trim cell
  if value.isEmpty then census
  else
    { values := census.values + 1
      booleans := census.booleans + (Value.isBoolean value).toNat
      integers := census.integers + (Value.isInteger value).toNat
      floats := census.floats + (Value.isFloat value).toNat
      dates := census.dates + (Value.isDate value).toNat
      timestamps := census.timestamps + (Value.isTimestamp value).toNat
      guids := census.guids + (Value.isGuid value).toNat }

/-- Whether so many are all values, of which there is at least one. -/
def isAll (census : Census) (matching : Nat) : Bool :=
  0 < matching && matching == census.values

/-- The first type that all values have; text if there is none, or no value. -/
def type (census : Census) : ColumnType :=
  if census.values = 0 then .text
  else if census.isAll census.booleans then .boolean
  else if census.isAll census.integers then .integer
  else if census.isAll census.floats then .float
  else if census.isAll census.dates then .date
  else if census.isAll census.timestamps then .timestamp
  else if census.isAll census.guids then .guid
  else .text

end Census

/-! ## Schemas -/

structure Column where
  name : String
  type : ColumnType
deriving DecidableEq, Repr

structure Schema where
  columns : List Column
deriving DecidableEq, Repr

namespace Schema

def width (schema : Schema) : Nat := schema.columns.length

/-- Counts the cells of a row, each for its column. -/
def countRow (censuses : List Census) (row : List (List Char)) : List Census :=
  List.zipWith Census.count censuses row

/-- Infers the types of columns from sampled rows. Rows of another width do not count. -/
def infer (names : List String) (sample : List (List (List Char))) : Schema :=
  let rows := sample.filter fun row => row.length == names.length
  let censuses := rows.foldl countRow (List.replicate names.length Census.empty)
  ⟨List.zipWith (fun name census => ⟨name, census.type⟩) names censuses⟩

/-- The index of the first cell that does not cast to the type of its column. -/
def firstCastFailure (schema : Schema) (row : List (List Char)) : Option Nat :=
  (schema.columns.zip row).findIdx? fun (column, cell) => !column.type.accepts cell

end Schema

end TidyCsv
