import TidyCsv.Encoding.CodePage
import TidyCsv.Encoding.Label
import TidyCsv.Encoding.Machine

/-!
# Transcoding to UTF-8

A file is read in pieces, and decoded piece by piece. One byte order mark of the encoding itself is
dropped, and decoding stops at the first malformed sequence, keeping what was decoded before it.
-/

namespace TidyCsv.Transcoding

/-- How many bytes each piece of a file has, the last one apart. -/
def pieceSize : Nat := 65536

/-- The pieces of a file in their order; `fuel` bounds their number. -/
def piecesFrom (fuel : Nat) (bytes : Bytes) : List Bytes :=
  match fuel with
  | 0 => []
  | fuel + 1 =>
    if bytes.isEmpty then []
    else bytes.take pieceSize :: piecesFrom fuel (bytes.drop pieceSize)

/-- The pieces in which a file is read. -/
def pieces (bytes : Bytes) : List Bytes := piecesFrom (bytes.length / pieceSize + 1) bytes

/-- How many bytes there is room for in the text of one call. -/
def outputSize : Nat := 4 * pieceSize

inductive Decoder where
  | utf8
  | utf16 (order : Utf16.ByteOrder)
  | codePage (page : CodePage)
  /-- Bytes from 0x80 stand for private characters. -/
  | privateBytes
  /-- Refuses every input but the empty one. -/
  | refuse
deriving DecidableEq, Repr

/-- The decoder of an encoding. The tables of other encodings are left out, and so their labels are
taken for unknown ones. -/
def Decoder.ofEncoding? : Encoding → Option Decoder
  | .utf8 => some .utf8
  | .utf16le => some (.utf16 .littleEndian)
  | .utf16be => some (.utf16 .bigEndian)
  | .windows1250 => some (.codePage .windows1250)
  | .windows1251 => some (.codePage .windows1251)
  | .windows1252 => some (.codePage .windows1252)
  | .userDefined => some .privateBytes
  | .replacement => some .refuse
  | _ => none

/-- The character of a byte under the encoding whose upper half is private. -/
def privateChar (b : UInt8) : Char :=
  if b < 0x80 then Char.ofNat b.toNat else Char.ofNat (0xF700 + b.toNat)

/-- Decodes input that arrives in the given pieces. -/
def Decoder.run (decoder : Decoder) (pieces : List Bytes) : Transcript :=
  match decoder with
  | .utf8 => utf8Machine.dropMark.run outputSize pieces
  | .utf16 order => (utf16Machine order).dropMark.run outputSize pieces
  | .codePage page => (byteMachine page.decodeByte).run outputSize pieces
  | .privateBytes => (byteMachine privateChar).run outputSize pieces
  | .refuse => refusingMachine.run outputSize pieces

inductive Refusal where
  | unknownEncoding
  | malformed (position : Nat)
deriving DecidableEq, Repr

def Refusal.message : Refusal → String
  | unknownEncoding => "unknown encoding"
  | malformed position => "malformed byte sequence near byte " ++ toString position

end TidyCsv.Transcoding
