import TidyCsv.Bytes

/-!
# UTF-8

Encoding of characters, and a machine that decodes one byte at a time. A malformed sequence ends
before the byte that cannot continue it, and that byte is read again as the start of the next
one; every reading of UTF-8 in the library folds this machine.
-/

namespace TidyCsv.Utf8

/-- The bytes of the character with code point `n`. -/
def encodePoint (n : Nat) : Bytes :=
  if n < 0x80 then [UInt8.ofNat n]
  else if n < 0x800 then [UInt8.ofNat (0xC0 + n / 64), UInt8.ofNat (0x80 + n % 64)]
  else if n < 0x10000 then
    [UInt8.ofNat (0xE0 + n / 4096), UInt8.ofNat (0x80 + n / 64 % 64), UInt8.ofNat (0x80 + n % 64)]
  else
    [UInt8.ofNat (0xF0 + n / 262144), UInt8.ofNat (0x80 + n / 4096 % 64),
      UInt8.ofNat (0x80 + n / 64 % 64), UInt8.ofNat (0x80 + n % 64)]

def encodeChar (c : Char) : Bytes := encodePoint c.toNat

def encode (text : List Char) : Bytes := text.flatMap encodeChar

def ofString (s : String) : Bytes := encode s.toList

/-- Where the machine stands between bytes. -/
inductive State where
  /-- Between characters. -/
  | ready
  /-- Inside a sequence: `missing` more bytes follow, of which the next lies in `[least, greatest]`;
  `value` holds the bits read so far. -/
  | within (value missing : Nat) (least greatest : UInt8)
deriving DecidableEq, Repr, Inhabited

/-- What the machine reports: a character, or a malformed sequence. -/
inductive Token where
  | char (c : Char)
  | malformed
deriving DecidableEq, Repr, Inhabited

/-- The state after a lead byte, or none if no sequence starts with the byte. -/
def afterLead (b : UInt8) : Option State :=
  let n := b.toNat
  if n < 0xC2 then none
  else if n < 0xE0 then some (.within (n - 0xC0) 1 0x80 0xBF)
  else if n = 0xE0 then some (.within 0 2 0xA0 0xBF)
  else if n = 0xED then some (.within 13 2 0x80 0x9F)
  else if n < 0xF0 then some (.within (n - 0xE0) 2 0x80 0xBF)
  else if n = 0xF0 then some (.within 0 3 0x90 0xBF)
  else if n < 0xF4 then some (.within (n - 0xF0) 3 0x80 0xBF)
  else if n = 0xF4 then some (.within 4 3 0x80 0x8F)
  else none

/-- Reads a byte between characters. -/
def start (b : UInt8) : State × List Token :=
  if b < 0x80 then (.ready, [.char (Char.ofNat b.toNat)])
  else match afterLead b with
    | some state => (state, [])
    | none => (.ready, [.malformed])

/-- Reads a byte: the next state, and what has become certain by it. -/
def State.step (state : State) (b : UInt8) : State × List Token :=
  match state with
  | .ready => start b
  | .within value missing least greatest =>
    if least ≤ b ∧ b ≤ greatest then
      let value := value * 64 + b.toNat % 64
      if missing ≤ 1 then (.ready, [.char (Char.ofNat value)])
      else (.within value (missing - 1) 0x80 0xBF, [])
    else
      let (next, tokens) := start b
      (next, .malformed :: tokens)

/-- Reads bytes from a state; the tokens come reversed, before those in `done`. -/
def scanFrom : State → List Token → Bytes → State × List Token
  | state, done, [] => (state, done)
  | state, done, b :: rest =>
    match state.step b with
    | (next, []) => scanFrom next done rest
    | (next, [t]) => scanFrom next (t :: done) rest
    | (next, ts) => scanFrom next (ts.reverse ++ done) rest

/-- The tokens of a whole input; a sequence that the end cuts off is malformed. -/
def tokens (bytes : Bytes) : List Token :=
  match scanFrom .ready [] bytes with
  | (.ready, done) => done.reverse
  | (.within .., done) => (.malformed :: done).reverse

/-- The character of a token, with the replacement character for malformed sequences. -/
def Token.toChar : Token → Char
  | .char c => c
  | .malformed => '\uFFFD'

/-- Decodes any bytes, with one replacement character for each malformed sequence. -/
def decodeLossy (bytes : Bytes) : List Char := (tokens bytes).map Token.toChar

/-- How reading stopped before the end of the input was reached without fault. -/
inductive Fault where
  /-- A malformed sequence was found after so many bytes of input were consumed. -/
  | malformed (consumed : Nat)
  /-- The input ended inside a sequence. -/
  | truncated
deriving DecidableEq, Repr

/-- Reads bytes up to the first fault. `position` counts the bytes consumed so far, and `done`
holds the characters read so far, reversed. -/
def readFrom : State → Nat → List Char → Bytes → List Char × Option Fault
  | .ready, _, done, [] => (done.reverse, none)
  | .within .., _, done, [] => (done.reverse, some .truncated)
  | .ready, position, done, b :: rest =>
    match start b with
    | (next, []) => readFrom next (position + 1) done rest
    | (next, .char c :: _) => readFrom next (position + 1) (c :: done) rest
    | (_, .malformed :: _) => (done.reverse, some (.malformed (position + 1)))
  | .within value missing least greatest, position, done, b :: rest =>
    match State.step (.within value missing least greatest) b with
    | (next, []) => readFrom next (position + 1) done rest
    | (next, .char c :: _) => readFrom next (position + 1) (c :: done) rest
    | (_, .malformed :: _) => (done.reverse, some (.malformed position))

/-- The characters before the first fault, and the fault. -/
def read (bytes : Bytes) : List Char × Option Fault := readFrom .ready 0 [] bytes

/-- The text that the bytes encode, if they are valid. -/
def decode? (bytes : Bytes) : Option (List Char) :=
  match read bytes with
  | (text, none) => some text
  | (_, some _) => none

def isValid (bytes : Bytes) : Bool := (read bytes).2.isNone

end TidyCsv.Utf8
