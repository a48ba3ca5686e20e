import TidyCsv.Bytes

/-!
# Reading records

A machine that reads one byte at a time and collects the records of a CSV document. Blank lines
yield no record, fields may hold any bytes, and records may differ in their number of fields.
-/

namespace TidyCsv.Csv

/-- How fields are separated, and whether quotes have a meaning. -/
structure Dialect where
  delimiter : UInt8
  quoting : Bool
deriving DecidableEq, Repr

/-- The dialect of every file that is written for further processing. -/
def Dialect.standard : Dialect := ⟨Bytes.comma, true⟩

/-- A place in the input: bytes before it, and one more than the line feeds before it. -/
structure Position where
  offset : Nat
  line : Nat
deriving DecidableEq, Repr, Inhabited

/-- The position after a byte. -/
def Position.advance (p : Position) (b : UInt8) : Position :=
  ⟨p.offset + 1, if b = Bytes.newline then p.line + 1 else p.line⟩

/-- A record, and where its reading began: after the terminator of the record before it. -/
structure Record where
  start : Position
  fields : List Bytes
deriving DecidableEq, Repr, Inhabited

/-- Where the machine stands. -/
inductive Place where
  /-- Before a record; blank lines are passed over. -/
  | recordStart
  /-- After a delimiter. -/
  | fieldStart
  /-- In a field or a part of it that is not quoted. -/
  | unquoted
  /-- Between quotes. -/
  | quoted
  /-- After a quote between quotes, which closes them unless another quote follows. -/
  | quoteSeen
deriving DecidableEq, Repr

/-- The machine: the field, the fields of the record and the records read so far are held
reversed. -/
structure Scan where
  place : Place
  field : Bytes
  fields : List Bytes
  here : Position
  start : Position
  records : List Record
deriving DecidableEq, Repr

def isTerminator (b : UInt8) : Bool := b == Bytes.newline || b == Bytes.carriageReturn

namespace Scan

def initial (start : Position) : Scan := ⟨.recordStart, [], [], start, start, []⟩

/-- Takes a byte into the current field. -/
def push (s : Scan) (b : UInt8) (place : Place) : Scan :=
  { s with field := b :: s.field, place := place }

def endField (s : Scan) : Scan :=
  { s with fields := s.field.reverse :: s.fields, field := [], place := .fieldStart }

def endRecord (s : Scan) : Scan :=
  { s with
    records := ⟨s.start, (s.field.reverse :: s.fields).reverse⟩ :: s.records
    field := [], fields := [], start := s.here, place := .recordStart }

/-- Reads a byte outside of quotes that does not open them. -/
def readPlain (dialect : Dialect) (s : Scan) (b : UInt8) : Scan :=
  if b = dialect.delimiter then s.endField
  else if isTerminator b then s.endRecord
  else s.push b .unquoted

def openField (dialect : Dialect) (s : Scan) (b : UInt8) : Scan :=
  if dialect.quoting ∧ b = Bytes.quote then { s with place := .quoted } else s.readPlain dialect b

def step (dialect : Dialect) (s : Scan) (b : UInt8) : Scan :=
  let s := { s with here := s.here.advance b }
  match s.place with
  | .recordStart => if isTerminator b then s else s.openField dialect b
  | .fieldStart => s.openField dialect b
  | .unquoted => s.readPlain dialect b
  | .quoted => if b = Bytes.quote then { s with place := .quoteSeen } else s.push b .quoted
  | .quoteSeen => if b = Bytes.quote then s.push b .quoted else s.readPlain dialect b

/-- The records when the input ends; the end closes a record that has been begun. -/
def finish (s : Scan) : List Record :=
  match s.place with
  | .recordStart => s.records.reverse
  | _ => s.endRecord.records.reverse

end Scan

/-- The records of an input without a byte order mark. -/
def recordsFrom (dialect : Dialect) (start : Position) (bytes : Bytes) : List Record :=
  (bytes.foldl (Scan.step dialect) (Scan.initial start)).finish

/-- The records of an input whose first `atHand` bytes can be seen before reading starts. A byte
order mark is dropped if it can be seen whole. -/
def records (dialect : Dialect) (atHand : Nat) (bytes : Bytes) : List Record :=
  if Bytes.utf8Mark.isPrefixOf (bytes.take atHand) then
    recordsFrom dialect ⟨Bytes.utf8Mark.length, 1⟩ (bytes.drop Bytes.utf8Mark.length)
  else recordsFrom dialect ⟨0, 1⟩ bytes

/-- How many bytes of a file are read at once. -/
def blockSize : Nat := 8192

/-- How many bytes can be seen at once after so many bytes of a file have been read. -/
def bytesAtHand (consumed : Nat) : Nat := blockSize - consumed % blockSize

/-- The records of a file that is read from its start. -/
def fileRecords (dialect : Dialect) (content : Bytes) : List Record :=
  records dialect (bytesAtHand 0) content

/-- How many records a file in the standard dialect holds, its header included. -/
def countRecords (content : Bytes) : Nat := (fileRecords .standard content).length

/-- How many fields the first record of a file in the standard dialect has. -/
def countColumns (content : Bytes) : Nat :=
  match fileRecords .standard content with
  | [] => 0
  | header :: _ => header.fields.length

end TidyCsv.Csv
