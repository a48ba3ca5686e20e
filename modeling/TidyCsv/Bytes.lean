/-!
# Bytes

File contents, field contents and everything else that need not be text are lists of bytes.
-/

namespace TidyCsv

/-- The content of a file, a stream or a field. -/
abbrev Bytes := List UInt8

namespace Bytes

def newline : UInt8 := 0x0A

def carriageReturn : UInt8 := 0x0D

def quote : UInt8 := 0x22

def comma : UInt8 := 0x2C

def isAscii (bytes : Bytes) : Bool := bytes.all (· < 0x80)

/-- The mark that may open UTF-8 text. -/
def utf8Mark : Bytes := [0xEF, 0xBB, 0xBF]

/-- What follows the first line feed; nothing when there is none. -/
def afterLine : Bytes → Bytes
  | [] => []
  | b :: rest => if b = newline then rest else afterLine rest

/-- What is left after dropping lines from the front, as many as asked or as there are. -/
def dropLines : Nat → Bytes → Bytes
  | 0, bytes => bytes
  | _ + 1, [] => []
  | n + 1, b :: rest => dropLines n (afterLine (b :: rest))

end Bytes

end TidyCsv
