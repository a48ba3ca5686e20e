import TidyCsv.Bytes

/-!
# The checksum of a gzip member

The cyclic redundancy check of 32 bits, computed bit by bit.
-/

namespace TidyCsv.Gzip

/-- The generator, with its bits reversed. -/
def generator : UInt32 := 0xEDB88320

/-- Shifts one bit out of the remainder. -/
def shiftBit (remainder : UInt32) : UInt32 :=
  if remainder &&& 1 = 1 then (remainder >>> 1) ^^^ generator else remainder >>> 1

def takeByte (remainder : UInt32) (b : UInt8) : UInt32 :=
  let r := remainder ^^^ b.toUInt32
  shiftBit (shiftBit (shiftBit (shiftBit (shiftBit (shiftBit (shiftBit (shiftBit r)))))))

def checksum (bytes : Bytes) : UInt32 := bytes.foldl takeByte 0xFFFFFFFF ^^^ 0xFFFFFFFF

end TidyCsv.Gzip
