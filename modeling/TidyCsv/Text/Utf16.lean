import TidyCsv.Bytes

/-!
# UTF-16

Encoding of text in either byte order, reading of whole inputs, and a machine that decodes one byte
at a time.
-/

namespace TidyCsv.Utf16

/-- The order of the two bytes of a unit. -/
inductive ByteOrder where
  | littleEndian
  | bigEndian
deriving DecidableEq, Repr

def ByteOrder.unit (order : ByteOrder) (first second : UInt8) : Nat :=
  match order with
  | .littleEndian => first.toNat + 256 * second.toNat
  | .bigEndian => 256 * first.toNat + second.toNat

def ByteOrder.bytes (order : ByteOrder) (unit : Nat) : Bytes :=
  match order with
  | .littleEndian => [UInt8.ofNat (unit % 256), UInt8.ofNat (unit / 256)]
  | .bigEndian => [UInt8.ofNat (unit / 256), UInt8.ofNat (unit % 256)]

/-- The mark that may open text in this order. -/
def ByteOrder.mark (order : ByteOrder) : Bytes := order.bytes 0xFEFF

def unitsOfPoint (n : Nat) : List Nat :=
  if n < 0x10000 then [n] else [0xD800 + (n - 0x10000) / 1024, 0xDC00 + (n - 0x10000) % 1024]

def encode (order : ByteOrder) (text : List Char) : Bytes :=
  text.flatMap fun c => (unitsOfPoint c.toNat).flatMap order.bytes

/-- Whether a unit opens a surrogate pair. -/
def isHigh (unit : Nat) : Bool := 0xD800 ≤ unit && unit < 0xDC00

/-- Whether a unit closes a surrogate pair. -/
def isLow (unit : Nat) : Bool := 0xDC00 ≤ unit && unit < 0xE000

def pairChar (high low : Nat) : Char :=
  Char.ofNat (0x10000 + (high - 0xD800) * 1024 + (low - 0xDC00))

/-- How reading stopped. -/
inductive Fault where
  /-- A lone surrogate ends after so many bytes of input. -/
  | malformed (consumed : Nat)
  /-- The input ended inside a unit or a pair. -/
  | truncated
deriving DecidableEq, Repr

/-- Reads units up to the first fault. `position` counts the bytes consumed so far, and `done` holds
the characters read, reversed. -/
def readFrom (order : ByteOrder) : Nat → List Char → Bytes → List Char × Option Fault
  | _, done, [] => (done.reverse, none)
  | _, done, [_] => (done.reverse, some .truncated)
  | position, done, a :: b :: rest =>
    let unit := order.unit a b
    if isHigh unit then
      match rest with
      | c :: d :: rest =>
        let next := order.unit c d
        if isLow next then readFrom order (position + 4) (pairChar unit next :: done) rest
        else (done.reverse, some (.malformed (position + 2)))
      | _ => (done.reverse, some .truncated)
    else if isLow unit then (done.reverse, some (.malformed (position + 2)))
    else readFrom order (position + 2) (Char.ofNat unit :: done) rest

/-- The characters before the first fault, and the fault. -/
def read (order : ByteOrder) (bytes : Bytes) : List Char × Option Fault := readFrom order 0 [] bytes

/-- Where the machine stands between bytes. -/
structure State where
  /-- The first byte of a unit whose second byte follows. -/
  first : Option UInt8
  /-- The high surrogate whose partner follows. -/
  high : Option Nat
  /-- Whether a piece of the input ended after a byte of what is pending. -/
  parted : Bool
deriving DecidableEq, Repr

namespace State

/-- Between characters. -/
def ready : State := ⟨none, none, false⟩

def isPending (state : State) : Bool := state.first.isSome || state.high.isSome

/-- The state at the start of the next piece. -/
def resume (state : State) : State := { state with parted := state.isPending }

end State

end TidyCsv.Utf16
