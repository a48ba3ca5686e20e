import TidyCsv.Text.Lines
import TidyCsv.Text.Utf8

/-!
# Delimiters

The delimiters a user can name, how one is shown, and how the delimiter of a document is guessed
from its first lines.
-/

namespace TidyCsv.Delimiter

inductive Refusal where
  | empty
  | severalCharacters
  | notAscii
  | reserved
deriving DecidableEq, Repr

def Refusal.message : Refusal → String
  | empty => "delimiter cannot be empty"
  | severalCharacters => "delimiter must be a single character"
  | notAscii => "delimiter must be ASCII"
  | reserved => "quotes and line breaks cannot separate fields"

/-- The byte of a delimiter that is given by name or as itself. -/
def named? (value : String) : Option UInt8 :=
  if value = "tab" ∨ value = "\\t" then some 0x09
  else if value = "comma" then some 0x2C
  else if value = "pipe" then some 0x7C
  else if value = "semicolon" then some 0x3B
  else none

/-- The byte of a delimiter that is given as itself. -/
def ofChars : List Char → Except Refusal UInt8
  | [] => .error .empty
  | [c] =>
    if 0x80 ≤ c.toNat then .error .notAscii
    else
      let b := UInt8.ofNat c.toNat
      if b = Bytes.quote ∨ b = Bytes.newline ∨ b = Bytes.carriageReturn then .error .reserved
      else .ok b
  | _ :: _ :: _ => .error .severalCharacters

/-- The delimiter that a text names. -/
def parse (value : String) : Except Refusal UInt8 :=
  match named? value with
  | some b => .ok b
  | none => ofChars value.toList

def display (delimiter : UInt8) : String :=
  if delimiter = 0x09 then "\\t" else String.singleton (Char.ofNat delimiter.toNat)

/-! ## Guessing -/

def sampleSize : Nat := 65536

def sampleLines : Nat := 10

/-- The delimiters that a document may have, in the order in which a tie is broken. -/
def candidates : List UInt8 := [0x2C, 0x3B, 0x09, 0x7C]

/-- Whether quotes are open, and how often the delimiter has occurred outside of them, after one more
byte. -/
def countByte (delimiter : UInt8) : Bool × Nat → UInt8 → Bool × Nat
  | (inQuotes, count), b =>
    if b = Bytes.quote then (!inQuotes, count)
    else if b = delimiter ∧ ¬ inQuotes then (inQuotes, count + 1)
    else (inQuotes, count)

/-- How often a delimiter occurs in a line outside of quotes. -/
def countUnquoted (delimiter : UInt8) (line : Bytes) : Nat :=
  (line.foldl (countByte delimiter) (false, 0)).2

/-- The lines that a guess is based on: the first few that are not blank. A full sample may cut the
last one, which is left out then. -/
def sampledLines (sample : Bytes) (skip : Nat) : List Bytes :=
  let text := Text.lines (Utf8.decodeLossy sample)
  let kept := ((text.drop skip).filter fun line => !Text.isBlankText line).take sampleLines
  let kept := if sampleSize ≤ sample.length ∧ 1 < kept.length then kept.dropLast else kept
  kept.map Utf8.encode

/-- The number of times a delimiter occurs in each line, if that is the same number in all. -/
def constantCount? (delimiter : UInt8) (lines : List Bytes) : Option Nat :=
  match lines.map (countUnquoted delimiter) with
  | [] => none
  | count :: rest => if rest.all (· == count) then some count else none

/-- The better of a guess and a candidate: the one that occurs more often in each line. -/
def prefer (lines : List Bytes) (best : UInt8 × Nat) (candidate : UInt8) : UInt8 × Nat :=
  match constantCount? candidate lines with
  | some count => if best.2 < count then (candidate, count) else best
  | none => best

/-- The delimiter that splits each of the first lines into the same, largest number of fields; a
comma if there is none. -/
def sniff (sample : Bytes) (skip : Nat) : UInt8 :=
  (candidates.foldl (prefer (sampledLines sample skip)) (Bytes.comma, 0)).1

end TidyCsv.Delimiter
