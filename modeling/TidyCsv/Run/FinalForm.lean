import TidyCsv.Csv.Reader
import TidyCsv.Csv.Writer
import TidyCsv.Header.Name
import TidyCsv.Text.Utf8

/-!
# The final form of a document

A document in the standard dialect is written with another delimiter, and its column names are
brought into their normal form unless they are to be kept.
-/

namespace TidyCsv.FinalForm

structure Stats where
  rows : Nat
  columns : Nat
  renamed : Nat
deriving DecidableEq, Repr

/-- How many names differ from those they are replaced by. -/
def countRenamed (before after : List String) : Nat :=
  ((before.zip after).filter fun (b, a) => b != a).length

def namesOf (header : Csv.Record) : List String :=
  header.fields.map fun field => String.ofList (Utf8.decodeLossy field)

/-- Writes a document anew. What was written comes with it even if a row does not fit. -/
def write (content : Bytes) (delimiter : UInt8) (normalize : Bool) :
    Except Csv.UnequalWidth Stats × Bytes :=
  match Csv.fileRecords .standard content with
  | [] => (.ok ⟨0, 0, 0⟩, [])
  | header :: rows =>
    let before := namesOf header
    let after := if normalize then Header.normalizeAll before else before
    let (fault, writer) :=
      (Csv.Writer.new delimiter).putAll
        (after.map Utf8.ofString :: rows.map Csv.Record.fields)
    match fault with
    | some fault => (.error fault, writer.written)
    | none => (.ok ⟨rows.length, before.length, countRenamed before after⟩, writer.written)

end TidyCsv.FinalForm
