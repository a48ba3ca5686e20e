import TidyCsv.Gzip.Checksum
import TidyCsv.Gzip.Inflate

/-!
# Gzip files

A gzip file starts with a member: a header, compressed data, and a trailer with the checksum and
the size of what was compressed. Whatever follows the first member is ignored.
-/

namespace TidyCsv.Gzip

inductive Refusal where
  /-- The header or the trailer is cut off. -/
  | unexpectedEnd
  /-- The compressed data is cut off. -/
  | incompleteData
  | invalidHeader
  | longHeaderField
  | corruptData
  | wrongChecksum
deriving DecidableEq, Repr

def Refusal.message : Refusal → String
  | unexpectedEnd => "unexpected end of file"
  | incompleteData => "incomplete deflate stream"
  | invalidHeader => "invalid gzip header"
  | longHeaderField => "gzip header field too long"
  | corruptData => "corrupt deflate stream"
  | wrongChecksum => "corrupt gzip stream does not have a matching checksum"

/-- The refusal that a fault of the compressed data leads to. -/
def Refusal.ofFault : Fault → Refusal
  | .incomplete => incompleteData
  | .corrupt => corruptData

/-- The number of which the bytes are given, the least significant first. -/
def littleEndian (bytes : Bytes) : Nat := bytes.foldr (fun b n => b.toNat + 256 * n) 0

/-- Splits off so many bytes. -/
def splitBytes (n : Nat) (bytes : Bytes) : Except Refusal (Bytes × Bytes) :=
  if bytes.length < n then .error .unexpectedEnd else .ok (bytes.splitAt n)

/-- The longest text in a header. -/
def longestField : Nat := 65535

/-- Passes over a text in the header, which ends with a zero byte. -/
def skipText (bytes : Bytes) : Except Refusal Bytes :=
  let text := bytes.takeWhile (· != 0)
  if longestField < text.length then .error .longHeaderField
  else
    match bytes.drop text.length with
    | [] => .error .unexpectedEnd
    | _ :: rest => .ok rest

def hasFlag (flags : UInt8) (bit : UInt8) : Bool := flags &&& bit != 0

def skipExtra (bytes : Bytes) : Except Refusal Bytes := do
  let (size, rest) ← splitBytes 2 bytes
  let (_, rest) ← splitBytes (littleEndian size) rest
  .ok rest

/-- Checks the header's own checksum, which covers all of the header before it. -/
def checkHeader (header rest : Bytes) : Except Refusal Bytes := do
  let covered := header.take (header.length - rest.length)
  let (found, rest) ← splitBytes 2 rest
  if littleEndian found = (checksum covered).toNat % 65536 then .ok rest
  else .error .wrongChecksum

def afterHeader (bytes : Bytes) : Except Refusal Bytes := do
  let (fixed, rest) ← splitBytes 10 bytes
  match fixed with
  | magic1 :: magic2 :: method :: flags :: _ =>
    if magic1 ≠ 0x1F ∨ magic2 ≠ 0x8B ∨ method ≠ 8 ∨ hasFlag flags 0xE0 then
      throw .invalidHeader
    let rest ← if hasFlag flags 4 then skipExtra rest else pure rest
    let rest ← if hasFlag flags 8 then skipText rest else pure rest
    let rest ← if hasFlag flags 16 then skipText rest else pure rest
    if hasFlag flags 2 then checkHeader bytes rest else pure rest
  | _ => throw .unexpectedEnd

/-- The content of a gzip file: that of its first member. -/
def decompress (bytes : Bytes) : Except Refusal Bytes := do
  let data ← afterHeader bytes
  match inflate data with
  | .error fault => throw (.ofFault fault)
  | .ok (content, rest) =>
    let (sum, rest) ← splitBytes 4 rest
    let (size, _) ← splitBytes 4 rest
    if littleEndian sum = (checksum content).toNat
        ∧ littleEndian size = content.length % Nat.pow 2 32 then
      .ok content
    else throw .wrongChecksum

end TidyCsv.Gzip
