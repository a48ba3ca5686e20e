import TidyCsv.Engine.Pass
import TidyCsv.Run.World

/-!
# The outcome of validation

An engine is run once. A failure is shown with what the user can do about it; otherwise the file of
rejected rows tells how many rows were rejected, and for which reasons.
-/

namespace TidyCsv

structure Outcome where
  hasErrors : Bool
  /-- Records in the file of rejected rows, its header included. -/
  rejectCount : Nat
  /-- The reasons for rejections, in ascending order. -/
  errorTypes : List String
  conforming : Nat
  fallback : Option Fallback
deriving DecidableEq, Repr

def Outcome.rejectedRows (outcome : Outcome) : Nat := outcome.rejectCount - 1

namespace Validation

/-- Inserts a text into an ascending list unless it is there. -/
def insertDistinct (text : String) : List String → List String
  | [] => [text]
  | first :: rest =>
    if text = first then first :: rest
    else if text < first then text :: first :: rest
    else first :: insertDistinct text rest

/-- A field that is not UTF-8: its index, and how many of its bytes are valid before the fault. -/
def badField? (fields : List Bytes) : Option (Nat × Nat) :=
  fields.zipIdx.findSome? fun (field, index) =>
    match Utf8.read field with
    | (_, none) => none
    | (text, some _) => some (index, (Utf8.encode text).length)

def badFieldMessage (number : Nat) (start : Csv.Position) (field valid : Nat) : String :=
  "CSV parse error: record " ++ toString number ++ " (line " ++ toString start.line ++ ", field: "
    ++ toString field ++ ", byte: " ++ toString start.offset
    ++ "): invalid utf-8: invalid UTF-8 in field " ++ toString field ++ " near byte index "
    ++ toString valid

/-- The fields of a record as text, or the message about the field that is not. -/
def textFields (number : Nat) (record : Csv.Record) : Except String (List String) :=
  match badField? record.fields with
  | some (field, valid) => .error (badFieldMessage number record.start field valid)
  | none => .ok (record.fields.map fun field => String.ofList (Utf8.decodeLossy field))

/-- The column of a file of rejected rows that holds the reasons. -/
def errorTypeColumn : String := "error_type"

/-- Collects the values of a column that are not empty, given the number of the first record. -/
def collectTypes (column : Nat) (types : List String) :
    List (Csv.Record × Nat) → Except String (List String)
  | [] => .ok types
  | (record, number) :: rest =>
    match textFields number record with
    | .error message => .error message
    | .ok fields =>
      match fields[column]? with
      | none => collectTypes column types rest
      | some value =>
        collectTypes column (if value = "" then types else insertDistinct value types) rest

/-- The reasons for rejections that a file of rejected rows names, in ascending order. -/
def errorTypes (content : Bytes) : Except String (List String) :=
  match (Csv.fileRecords .standard content).zipIdx with
  | [] => .ok []
  | (header, number) :: rows =>
    match textFields number header with
    | .error message => .error message
    | .ok names =>
      match names.findIdx? (· == errorTypeColumn) with
      | none => .ok []
      | some column => collectTypes column [] rows

def readErrorTypes (fs : FileSystem) (reject : Path) : Except IoFault (List String) :=
  match fs.read reject with
  | .error fault => .error fault
  | .ok content => (errorTypes content).mapError IoFault.other

def failurePanel (category : Category) (displayName message : String) : Event :=
  .panel .error category.title
    (displayName ++ "\n\n" ++ message ++ "\n" ++ category.guidance)

/-- Runs an engine and finds out what came of it. -/
def run (engine : Engine) (source : Source) (options : ReadOptions) (staged reject : Path)
    (isRemote : Bool) (displayName : String) : Run Outcome := do
  let (result, fs) := engine.validate (← Run.files) source options staged reject
  Run.setFiles fs
  match result with
  | .error message =>
    let category := Category.ofMessage message isRemote
    Run.report (failurePanel category displayName message)
    throw (.engineFailed category message)
  | .ok report =>
    let rejectCount ← if fs.contains reject then Run.ofIo (fs.countRecords reject) else pure 0
    let errorTypes ← if 1 < rejectCount then Run.ofIo (readErrorTypes fs reject) else pure []
    pure {
      hasErrors := decide (1 < rejectCount)
      rejectCount := rejectCount
      errorTypes := errorTypes
      conforming := report.conforming
      fallback := report.fallback }

end Validation

end TidyCsv
