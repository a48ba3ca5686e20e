import TidyCsv.Bytes

/-!
# Writing records

A field is quoted only where it has to be, and every record ends with a line feed. A writer holds
all records to the number of fields of the first one, and leaves open the first record of another
number.
-/

namespace TidyCsv.Csv

/-- Whether a field contains a byte that means something to a reader. -/
def needsQuotes (delimiter : UInt8) (field : Bytes) : Bool :=
  field.any fun b =>
    b == delimiter || b == Bytes.quote || b == Bytes.carriageReturn || b == Bytes.newline

/-- A byte inside quotes: a quote is written twice. -/
def doubled (b : UInt8) : Bytes := if b = Bytes.quote then [b, b] else [b]

/-- The bytes of a field with every quote written twice. -/
def doubleQuotes (field : Bytes) : Bytes := field.flatMap doubled

def encodeField (delimiter : UInt8) (field : Bytes) : Bytes :=
  if needsQuotes delimiter field then Bytes.quote :: (doubleQuotes field ++ [Bytes.quote])
  else field

/-- The fields of a record with delimiters between them. -/
def encodeFields (delimiter : UInt8) (fields : List Bytes) : Bytes :=
  [delimiter].intercalate (fields.map (encodeField delimiter))

/-- A record as it is written. A record without any byte is written as an empty quoted field, so
that it is not taken for a blank line. -/
def encodeRecord (delimiter : UInt8) (fields : List Bytes) : Bytes :=
  let line := encodeFields delimiter fields
  (if line.isEmpty then [Bytes.quote, Bytes.quote] else line) ++ [Bytes.newline]

def encodeRecords (delimiter : UInt8) (records : List (List Bytes)) : Bytes :=
  records.flatMap (encodeRecord delimiter)

/-! ## The buffer of a writer

A writer collects what it writes in a buffer. A record that surely has room there is put in at once;
any other goes in piece by piece, and the quote that closes a field waits for what comes next. All
of a record that is closed is written either way; of one that is left open, the last closing quote
may still be waiting.
-/

/-- The number of bytes that the buffer holds. -/
def bufferSize : Nat := 8192

/-- The pieces of a field that are not torn apart between two fillings of the buffer. -/
def fieldPieces (delimiter : UInt8) (field : Bytes) : List Bytes :=
  if needsQuotes delimiter field then
    [Bytes.quote] :: (field.map doubled ++ [[Bytes.quote]])
  else field.map fun b => [b]

/-- The pieces of a record that are not torn apart. -/
def recordPieces (delimiter : UInt8) (fields : List Bytes) : List Bytes :=
  let line :=
    if (encodeFields delimiter fields).isEmpty then [[Bytes.quote, Bytes.quote]]
    else [[delimiter]].intercalate (fields.map (fieldPieces delimiter))
  line ++ [[Bytes.newline]]

/-- The bytes in the buffer after one more piece. The buffer is emptied if there is no room. -/
def collected (used : Nat) (piece : Bytes) : Nat :=
  if used + piece.length ≤ bufferSize then used + piece.length else piece.length

/-- The number of bytes that are enough for a record with whatever quotes it needs. -/
def enoughRoom (fields : List Bytes) : Nat :=
  2 * fields.flatten.length + (fields.length - 1) + 2 * fields.length + 2

/-- The fields of a record that is left open, with `used` bytes in the buffer before it. -/
def encodeOpen (delimiter : UInt8) (used : Nat) (fields : List Bytes) : Bytes :=
  let line := encodeFields delimiter fields
  if used + enoughRoom fields ≤ bufferSize then line
  else if fields.getLast?.any (needsQuotes delimiter) then line.dropLast
  else line

/-! ## Writers -/

/-- A record whose number of fields differs from that of the first record. -/
structure UnequalWidth where
  expected : Nat
  found : Nat
deriving DecidableEq, Repr

def UnequalWidth.message (fault : UnequalWidth) : String :=
  "UnequalLengths \x7b pos: None, expected_len: " ++ toString fault.expected ++ ", len: "
    ++ toString fault.found ++ " \x7d"

/-- What the two numbers of fields are, as a sentence. -/
def UnequalWidth.sentence (fault : UnequalWidth) : String :=
  "CSV error: found record with " ++ toString fault.found ++ " fields, but the previous record has "
    ++ toString fault.expected ++ " fields"

/-- A writer: its delimiter, the number of fields of the first record, the number of bytes in its
buffer, and what it has written, in parts that are held reversed. -/
structure Writer where
  delimiter : UInt8
  width : Option Nat
  buffered : Nat
  parts : List Bytes
deriving DecidableEq, Repr

namespace Writer

def new (delimiter : UInt8) : Writer := ⟨delimiter, none, 0, []⟩

def written (w : Writer) : Bytes := w.parts.reverse.flatten

def close (w : Writer) (fields : List Bytes) : Writer :=
  { w with
    width := some fields.length
    buffered := (recordPieces w.delimiter fields).foldl collected w.buffered
    parts := encodeRecord w.delimiter fields :: w.parts }

/-- Writes the fields of a record and leaves it open. -/
def leaveOpen (w : Writer) (fields : List Bytes) : Writer :=
  { w with parts := encodeOpen w.delimiter w.buffered fields :: w.parts }

/-- Writes a record. The fields of a record of another width than the first one are written too, but
it is left open. -/
def put (w : Writer) (fields : List Bytes) : Option UnequalWidth × Writer :=
  match w.width with
  | none => (none, w.close fields)
  | some width =>
    if fields.length = width then (none, w.close fields)
    else (some ⟨width, fields.length⟩, w.leaveOpen fields)

/-- Writes records up to the first one of another width. -/
def putAll (w : Writer) : List (List Bytes) → Option UnequalWidth × Writer
  | [] => (none, w)
  | fields :: rest =>
    match w.put fields with
    | (none, w) => w.putAll rest
    | (some fault, w) => (some fault, w)

end Writer

end TidyCsv.Csv
