import TidyCsv.Bytes

/-!
# Signatures of mojibake

UTF-8 that was read as windows-1252 shows as a lead character followed by one to three characters
whose windows-1252 bytes are continuation bytes. Text is cut into such sequences and the
characters between them.
-/

namespace TidyCsv.Mojibake

/-- Whether the windows-1252 byte of a character lies in `0x80 ..= 0xBF`; the control characters
of that range count too. -/
def isContinuation (c : Char) : Bool :=
  let n := c.toNat
  (0x80 ≤ n && n ≤ 0xBF) || [0x152, 0x153, 0x160, 0x161, 0x178, 0x17D, 0x17E, 0x192, 0x2C6, 0x2DC,
    0x2013, 0x2014, 0x2018, 0x2019, 0x201A, 0x201C, 0x201D, 0x201E, 0x2020, 0x2021, 0x2022, 0x2026,
    0x2030, 0x2039, 0x203A, 0x20AC, 0x2122].contains n

/-- How many continuation characters a lead character asks for; zero if it is none. -/
def continuationCount (c : Char) : Nat :=
  let n := c.toNat
  if n < 0xC2 then 0
  else if n ≤ 0xDF then 1
  else if n ≤ 0xEF then 2
  else if n ≤ 0xF4 then 3
  else 0

inductive Piece where
  /-- A character outside of any sequence. -/
  | plain (c : Char)
  /-- A lead character with all its continuation characters. -/
  | sequence (chars : List Char)
deriving DecidableEq, Repr

def Piece.chars : Piece → List Char
  | plain c => [c]
  | sequence chars => chars

def Piece.isSequence : Piece → Bool
  | plain _ => false
  | sequence _ => true

/-- Cuts text into pieces. `done` holds the pieces read, reversed; `pending` holds a lead character
and the continuations read after it, reversed, and `missing` how many more it asks for. -/
def piecesFrom (done : List Piece) (pending : List Char) (missing : Nat) :
    List Char → List Piece
  | [] => (pending.map Piece.plain ++ done).reverse
  | c :: rest =>
    if isContinuation c then
      match missing with
      | 0 => piecesFrom (.plain c :: done) [] 0 rest
      | 1 => piecesFrom (.sequence (c :: pending).reverse :: done) [] 0 rest
      | missing + 2 => piecesFrom done (c :: pending) (missing + 1) rest
    else
      let done := pending.map Piece.plain ++ done
      match continuationCount c with
      | 0 => piecesFrom (.plain c :: done) [] 0 rest
      | count + 1 => piecesFrom done [c] (count + 1) rest

def pieces (text : List Char) : List Piece := piecesFrom [] [] 0 text

def hasSignature (text : List Char) : Bool := (pieces text).any Piece.isSequence

end TidyCsv.Mojibake
