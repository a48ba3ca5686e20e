import TidyCsv.Bytes
import TidyCsv.Gzip.Huffman

/-!
# Decompression

Compressed data is a sequence of blocks. A block is stored as it is, or it is a sequence of symbols
that stand for bytes and for copies of earlier output.
-/

namespace TidyCsv.Gzip

/-- The bits of some bytes, the least bit of each byte first. -/
def bitsOf (bytes : Bytes) : Bits :=
  bytes.flatMap fun b => (List.range 8).map fun i => (b.toNat >>> i) % 2 == 1

/-- The byte whose bits are given, the least first. -/
def byteOf (bits : Bits) : UInt8 :=
  UInt8.ofNat (bits.foldr (fun bit n => bit.toNat + 2 * n) 0)

abbrev Output := Array UInt8

/-- Repeats bytes from `distance` before the end. Before the start of the output there are zeros. -/
def Output.copy (output : Output) (distance : Nat) : Nat → Output
  | 0 => output
  | n + 1 =>
    let b := if distance ≤ output.size then output.getD (output.size - distance) 0 else 0
    Output.copy (output.push b) distance n

-- Proofs keep this table folded: to look up `symbol - 257` in it would take 257 steps.
/-- The least length and the number of extra bits of each length symbol. -/
@[irreducible] def lengthTable : Array (Nat × Nat) := #[
  (3, 0), (4, 0), (5, 0), (6, 0), (7, 0), (8, 0), (9, 0), (10, 0), (11, 1), (13, 1), (15, 1),
  (17, 1), (19, 2), (23, 2), (27, 2), (31, 2), (35, 3), (43, 3), (51, 3), (59, 3), (67, 4),
  (83, 4), (99, 4), (115, 4), (131, 5), (163, 5), (195, 5), (227, 5), (258, 0)]

/-- The least distance and the number of extra bits of each distance symbol. -/
def distanceTable : Array (Nat × Nat) := #[
  (1, 0), (2, 0), (3, 0), (4, 0), (5, 1), (7, 1), (9, 2), (13, 2), (17, 3), (25, 3), (33, 4),
  (49, 4), (65, 5), (97, 5), (129, 6), (193, 6), (257, 7), (385, 7), (513, 8), (769, 8), (1025, 9),
  (1537, 9), (2049, 10), (3073, 10), (4097, 11), (6145, 11), (8193, 12), (12289, 12), (16385, 13),
  (24577, 13)]

/-- Reads the extra bits of a table's entry and adds them to its least value. -/
def readExtra (table : Array (Nat × Nat)) (symbol : Nat) (bits : Bits) :
    Except Fault (Nat × Bits) :=
  match table[symbol]? with
  | none => .error .corrupt
  | some (least, extra) => do
    let (n, bits) ← readNumber extra bits
    .ok (least + n, bits)

/-- The codes of a block: one for bytes and lengths, one for distances. -/
structure Codes where
  literals : Code
  distances : Code
deriving DecidableEq, Repr

/-- The codes of blocks that do not bring their own. -/
def Codes.standard : Codes where
  literals := .ofLengths
    (List.replicate 144 8 ++ List.replicate 112 9 ++ List.replicate 24 7 ++ List.replicate 8 8)
  distances := .ofLengths (List.replicate 32 5)

/-- Reads the symbols of a block up to its end; `fuel` bounds their number. -/
def readSymbols (codes : Codes) (fuel : Nat) (output : Output) (bits : Bits) :
    Except Fault (Output × Bits) :=
  match fuel with
  | 0 => .error .incomplete
  | fuel + 1 =>
    match codes.literals.read bits with
    | .error fault => .error fault
    | .ok (symbol, bits) =>
      if symbol < 256 then readSymbols codes fuel (output.push (UInt8.ofNat symbol)) bits
      else if symbol = 256 then .ok (output, bits)
      else
        match readExtra lengthTable (symbol - 257) bits with
        | .error fault => .error fault
        | .ok (length, bits) =>
          match codes.distances.read bits with
          | .error fault => .error fault
          | .ok (symbol, bits) =>
            match readExtra distanceTable symbol bits with
            | .error fault => .error fault
            | .ok (distance, bits) => readSymbols codes fuel (output.copy distance length) bits

/-- The symbols whose lengths come first, in the order in which they come. -/
def lengthOrder : List Nat :=
  [16, 17, 18, 0, 8, 7, 9, 6, 10, 5, 11, 4, 12, 3, 13, 2, 14, 1, 15]

/-- Reads so many numbers of three bits. -/
def readTriples : Nat → Bits → Except Fault (List Nat × Bits)
  | 0, bits => .ok ([], bits)
  | n + 1, bits => do
    let (first, bits) ← readNumber 3 bits
    let (rest, bits) ← readTriples n bits
    .ok (first :: rest, bits)

/-- Reads lengths of code words until there are `wanted`; those read so far are held reversed. -/
def readLengths (code : Code) (wanted : Nat) (fuel : Nat) (done : List Nat) (bits : Bits) :
    Except Fault (List Nat × Bits) :=
  match fuel with
  | 0 => .error .incomplete
  | fuel + 1 =>
    if wanted < done.length then .error .corrupt
    else if wanted = done.length then .ok (done.reverse, bits)
    else do
      let (symbol, bits) ← code.read bits
      if symbol < 16 then readLengths code wanted fuel (symbol :: done) bits
      else if symbol = 16 then
        match done with
        | [] => .error .corrupt
        | last :: _ =>
          let (n, bits) ← readNumber 2 bits
          readLengths code wanted fuel (List.replicate (3 + n) last ++ done) bits
      else if symbol = 17 then
        let (n, bits) ← readNumber 3 bits
        readLengths code wanted fuel (List.replicate (3 + n) 0 ++ done) bits
      else
        let (n, bits) ← readNumber 7 bits
        readLengths code wanted fuel (List.replicate (11 + n) 0 ++ done) bits

def readCodes (bits : Bits) : Except Fault (Codes × Bits) := do
  let (n, bits) ← readNumber 5 bits
  let literalCount := 257 + n
  let (n, bits) ← readNumber 5 bits
  let distanceCount := 1 + n
  let (n, bits) ← readNumber 4 bits
  if 286 < literalCount ∨ 30 < distanceCount then throw .corrupt
  let (triples, bits) ← readTriples (4 + n) bits
  let lengths := (List.range 19).map fun symbol =>
    match (lengthOrder.zip triples).lookup symbol with
    | some length => length
    | none => 0
  if !isComplete lengths then throw .corrupt
  let wanted := literalCount + distanceCount
  let (all, bits) ← readLengths (.ofLengths lengths) wanted (wanted + 1) [] bits
  let literals := all.take literalCount
  let distances := all.drop literalCount
  if !isUsable literals || !isUsable distances then throw .corrupt
  .ok (⟨.ofLengths literals, .ofLengths distances⟩, bits)

/-- Takes so many bytes from bits that start at a byte's first bit. -/
def readStored : Nat → Output → Bits → Except Fault (Output × Bits)
  | 0, output, bits => .ok (output, bits)
  | n + 1, output, b0 :: b1 :: b2 :: b3 :: b4 :: b5 :: b6 :: b7 :: bits =>
    readStored n (output.push (byteOf [b0, b1, b2, b3, b4, b5, b6, b7])) bits
  | _ + 1, _, _ => .error .incomplete

/-- Reads a stored block, which starts at the next byte. -/
def readStoredBlock (output : Output) (bits : Bits) : Except Fault (Output × Bits) := do
  let bits := bits.drop (bits.length % 8)
  let (length, bits) ← readNumber 16 bits
  let (complement, bits) ← readNumber 16 bits
  if length + complement ≠ 0xFFFF then throw .corrupt
  readStored length output bits

/-- Reads a block after the bit that tells whether it is the last one. -/
def readBlock (output : Output) (bits : Bits) : Except Fault (Output × Bits) := do
  let (kind, bits) ← readNumber 2 bits
  if kind = 0 then readStoredBlock output bits
  else if kind = 1 then readSymbols .standard (bits.length + 1) output bits
  else if kind = 2 then
    let (codes, bits) ← readCodes bits
    readSymbols codes (bits.length + 1) output bits
  else throw .corrupt

/-- Reads blocks up to the last one; `fuel` bounds their number. -/
def readBlocks (fuel : Nat) (output : Output) (bits : Bits) : Except Fault (Output × Bits) :=
  match fuel with
  | 0 => .error .incomplete
  | fuel + 1 => do
    let (last, bits) ← readNumber 1 bits
    let (output, bits) ← readBlock output bits
    if last = 1 then .ok (output, bits) else readBlocks fuel output bits

def inflate (bytes : Bytes) : Except Fault (Bytes × Bytes) := do
  let bits := bitsOf bytes
  let (output, rest) ← readBlocks (bits.length + 1) #[] bits
  .ok (output.toList, bytes.drop (bytes.length - rest.length / 8))

end TidyCsv.Gzip
