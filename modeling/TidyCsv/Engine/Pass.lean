import TidyCsv.Csv.Reader
import TidyCsv.Csv.Writer
import TidyCsv.Engine.Basic
import TidyCsv.Schema
import TidyCsv.Text.Utf8

/-!
# A pass over a document

One pass reads the records of a document one after the other. The first one is the header; column
types are inferred from the rows after it, which are held back for that; and each row is either kept
as it is or rejected with a reason.
-/

namespace TidyCsv

inductive PassFault where
  | noHeader
  | headerNotUtf8
  | unequalWidth (fault : Csv.UnequalWidth)
deriving DecidableEq, Repr

def PassFault.message : PassFault → String
  | noHeader => "Invalid Input Error: CSV file is empty or has no header row"
  | headerNotUtf8 => "Invalid unicode (byte sequence mismatch) detected in CSV header"
  | unequalWidth fault => "CSV Error: " ++ fault.sentence

/-- What is wrong with a rejected row. -/
inductive RejectKind where
  | invalidUnicode
  | missingColumns
  | tooManyColumns
  | cast
deriving DecidableEq, Repr

def RejectKind.name : RejectKind → String
  | invalidUnicode => "INVALID_UNICODE"
  | missingColumns => "MISSING_COLUMNS"
  | tooManyColumns => "TOO_MANY_COLUMNS"
  | cast => "CAST"

/-- Why a row is rejected, and at which column, counted from one. -/
structure Rejection where
  kind : RejectKind
  column : Option Nat
  columnName : String
  message : String
deriving DecidableEq, Repr

namespace Rejection

/-- A row with bytes that are not UTF-8. -/
def notUtf8 : Rejection :=
  ⟨.invalidUnicode, none, "", "Invalid unicode (byte sequence mismatch) detected"⟩

def widthMessage (expected found : Nat) : String :=
  "Expected Number of Columns: " ++ toString expected ++ " Found: " ++ toString found

/-- A row that ends before the given column. -/
def tooShort (schema : Schema) (found : Nat) : Rejection :=
  ⟨.missingColumns, some (found + 1), (schema.columns[found]?.map Column.name).getD "",
    widthMessage schema.width found⟩

/-- A row with more cells than there are columns. -/
def tooLong (schema : Schema) (found : Nat) : Rejection :=
  ⟨.tooManyColumns, some (schema.width + 1), "", widthMessage schema.width found⟩

/-- A row whose cell at an index does not cast to the type of its column. -/
def castFailure (index : Nat) (column : Column) (cell : List Char) : Rejection :=
  ⟨.cast, some (index + 1), column.name,
    "Error when converting column \"" ++ column.name ++ "\". Could not convert string \""
      ++ String.ofList cell ++ "\" to '" ++ column.type.name ++ "'"⟩

end Rejection

/-- The text of all fields, if all of them are UTF-8. -/
def Csv.Record.text? (record : Csv.Record) : Option (List (List Char)) :=
  record.fields.mapM Utf8.decode?

namespace Schema

/-- Why a row of text is rejected, if it is: because of its width, or else because of its first cell
that does not cast. -/
def rejectText? (schema : Schema) (cells : List (List Char)) : Option Rejection :=
  if cells.length < schema.width then some (.tooShort schema cells.length)
  else if schema.width < cells.length then some (.tooLong schema cells.length)
  else
    (schema.firstCastFailure cells).bind fun index =>
      match schema.columns[index]?, cells[index]? with
      | some column, some cell => some (.castFailure index column cell)
      | _, _ => none

/-- Why a row is rejected, if it is. -/
def reject? (schema : Schema) (row : Csv.Record) : Option Rejection :=
  match row.text? with
  | none => some .notUtf8
  | some cells => schema.rejectText? cells

end Schema

/-- The state of a pass: the writers of the rows that are kept and of the records about those that
are not, and the number of each. -/
structure Desk where
  output : Csv.Writer
  reject : Csv.Writer
  conforming : Nat
  rejected : Nat
deriving DecidableEq, Repr

def Desk.empty : Desk := ⟨.new Bytes.comma, .new Bytes.comma, 0, 0⟩

/-- A part of a pass. What was written before a fault stays written. -/
abbrev Pass := ExceptT PassFault (StateM Desk)

namespace Pass

/-- The result of a part of a pass, and the desk after it. -/
def on {α : Type} (part : Pass α) (desk : Desk) : Except PassFault α × Desk := StateT.run part desk

def rejectHeader : List Bytes :=
  ["line", "column_idx", "column_name", "error_type", "csv_line", "error_message"].map
    Utf8.ofString

/-- The name of a column: its cell without blank margins, or its index if the cell is blank. -/
def columnName (index : Nat) (cell : List Char) : String :=
  match Text.trim cell with
  | [] => "column" ++ toString index
  | name => String.ofList name

/-- The names of the columns, if the header is UTF-8. -/
def columnNames? (header : Csv.Record) : Option (List String) :=
  header.text?.map fun cells => cells.mapIdx columnName

/-- The cells of a row as one text, with the delimiter between them. -/
def rawLine (delimiter : UInt8) (row : Csv.Record) : List Char :=
  [Char.ofNat delimiter.toNat].intercalate (row.fields.map Utf8.decodeLossy)

/-- The record about a rejected row. Lines are counted from the start of the source. -/
def rejectRecord (options : ReadOptions) (delimiter : UInt8) (row : Csv.Record)
    (rejection : Rejection) : List Bytes :=
  [Utf8.ofString (toString (row.start.line + options.skipRows)),
    Utf8.ofString ((rejection.column.map toString).getD ""),
    Utf8.ofString rejection.columnName,
    Utf8.ofString rejection.kind.name,
    Utf8.encode (rawLine delimiter row),
    Utf8.ofString rejection.message]

/-- The records of a document after the lines to be passed over. -/
def recordsOf (options : ReadOptions) (dialect : Csv.Dialect) (content : Bytes) :
    List Csv.Record :=
  let rest := Bytes.dropLines options.skipRows content
  Csv.records dialect (Csv.bytesAtHand (content.length - rest.length)) rest

/-! ## Writing -/

def putOutput (fields : List Bytes) : Pass Unit := fun desk =>
  match desk.output.put fields with
  | (none, output) => (.ok (), { desk with output := output })
  | (some fault, output) => (.error (.unequalWidth fault), { desk with output := output })

def putReject (fields : List Bytes) : Pass Unit := fun desk =>
  match desk.reject.put fields with
  | (none, reject) => (.ok (), { desk with reject := reject })
  | (some fault, reject) => (.error (.unequalWidth fault), { desk with reject := reject })

/-- Sends a row to the output, or a record about it to the file of rejected rows. -/
def route (options : ReadOptions) (delimiter : UInt8) (schema : Schema) (row : Csv.Record) :
    Pass Unit := do
  match schema.reject? row with
  | none =>
    putOutput row.fields
    modify fun desk => { desk with conforming := desk.conforming + 1 }
  | some rejection =>
    putReject (rejectRecord options delimiter row rejection)
    modify fun desk => { desk with rejected := desk.rejected + 1 }

/-- Sends rows where they belong, one after the other. -/
def routeAll (options : ReadOptions) (delimiter : UInt8) (schema : Schema) :
    List Csv.Record → Pass Unit
  | [] => pure ()
  | row :: rest => do
    route options delimiter schema row
    routeAll options delimiter schema rest

/-! ## Reading -/

/-- Reads rows until there are `count` of them or no more; the rows that are left come second. -/
def gather : Nat → List Csv.Record → List Csv.Record × List Csv.Record
  | 0, rows => ([], rows)
  | _ + 1, [] => ([], [])
  | count + 1, row :: rest =>
    let (sample, unread) := gather count rest
    (row :: sample, unread)

/-- Reads a document and gives the number of its columns. A sample of the rows is held back until
the types of the columns are inferred from it, and then sent before the rows that follow. -/
def document (options : ReadOptions) (dialect : Csv.Dialect) (content : Bytes) : Pass Nat := do
  putReject rejectHeader
  match recordsOf options dialect content with
  | [] => throw .noHeader
  | header :: rows =>
    match columnNames? header with
    | none => throw .headerNotUtf8
    | some names =>
      putOutput (names.map Utf8.ofString)
      let (sample, unread) := gather (max 1 options.sampleRows) rows
      let schema := Schema.infer names (sample.filterMap Csv.Record.text?)
      routeAll options dialect.delimiter schema sample
      routeAll options dialect.delimiter schema unread
      pure schema.width

structure Tally where
  conforming : Nat
  rejected : Nat
  columns : Nat
deriving DecidableEq, Repr

structure Files where
  output : Bytes
  reject : Bytes
deriving DecidableEq, Repr

/-- Reads a document and writes both files, as far as there is no fault. -/
def run (options : ReadOptions) (dialect : Csv.Dialect) (content : Bytes) :
    Except PassFault Tally × Files :=
  let (result, desk) := (document options dialect content).on .empty
  (result.map fun columns => ⟨desk.conforming, desk.rejected, columns⟩,
    ⟨desk.output.written, desk.reject.written⟩)

end Pass

end TidyCsv
