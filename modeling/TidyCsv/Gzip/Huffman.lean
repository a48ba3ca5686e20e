/-!
# Prefix codes of compressed data

A code is given by the length of each symbol's code word. Words of one length are consecutive
numbers in the order of their symbols, and longer words follow shorter ones.
-/

namespace TidyCsv.Gzip

/-- The bits of compressed data that have not been read. -/
abbrev Bits := List Bool

inductive Fault where
  /-- The data ends too early. -/
  | incomplete
  /-- The data breaks the rules of the format. -/
  | corrupt
deriving DecidableEq, Repr

def maxLength : Nat := 15

/-- A prefix code: how many words there are of each length from one on, and the symbols in the
order of their words. -/
structure Code where
  counts : List Nat
  symbols : Array Nat
deriving DecidableEq, Repr

/-- The symbols with code words of one length. -/
def symbolsOfLength (lengths : List Nat) (length : Nat) : List Nat :=
  (lengths.zipIdx.filter fun (l, _) => l == length).map Prod.snd

/-- The code with the given lengths of code words; a zero means that a symbol has none. -/
def Code.ofLengths (lengths : List Nat) : Code :=
  let groups := (List.range maxLength).map fun i => symbolsOfLength lengths (i + 1)
  ⟨groups.map List.length, groups.flatten.toArray⟩

/-- How much of the space of all code words the words of a code take, out of `2 ^ maxLength`. -/
def spaceTaken (lengths : List Nat) : Nat :=
  (lengths.map fun l => if l = 0 then 0 else Nat.pow 2 (maxLength - l)).foldr (· + ·) 0

/-- Whether every sequence of bits starts with a code word and no word starts another. -/
def isComplete (lengths : List Nat) : Bool := spaceTaken lengths == Nat.pow 2 maxLength

/-- Whether lengths make a usable code: a complete one, or one with a single word at most. -/
def isUsable (lengths : List Nat) : Bool :=
  isComplete lengths || (lengths.countP (· != 0)) ≤ 1

/-- Reads a code word bit by bit. `word` is the number read so far, `first` the least word of its
length and `index` the place of that word's symbol. -/
def Code.readFrom (symbols : Array Nat) (word first index : Nat) :
    List Nat → Bits → Except Fault (Nat × Bits)
  | [], _ => .error .corrupt
  | _ :: _, [] => .error .incomplete
  | count :: counts, bit :: bits =>
    let word := 2 * word + bit.toNat
    let first := 2 * first
    if word < first + count then
      match symbols[index + (word - first)]? with
      | some symbol => .ok (symbol, bits)
      | none => .error .corrupt
    else Code.readFrom symbols word (first + count) (index + count) counts bits

def Code.read (code : Code) (bits : Bits) : Except Fault (Nat × Bits) :=
  Code.readFrom code.symbols 0 0 0 code.counts bits

/-- Reads a number, its least bit first. -/
def readNumber : Nat → Bits → Except Fault (Nat × Bits)
  | 0, bits => .ok (0, bits)
  | _ + 1, [] => .error .incomplete
  | n + 1, bit :: bits => do
    let (rest, bits) ← readNumber n bits
    .ok (bit.toNat + 2 * rest, bits)

end TidyCsv.Gzip
