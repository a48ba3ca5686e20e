import TidyCsv.Encoding.CodePage
import TidyCsv.Text.Words

/-!
# How plausible a decoded text looks

Bytes above 0x7F mean different characters in each code page. The text under a page is scored by
how much its characters beyond ASCII look like language: letters count for it, control characters
and stray symbols against it, and words that mix scripts against it.
-/

namespace TidyCsv.Plausibility

open Unicode

/-- Symbols that turn up next to numbers and words in any language. -/
def neutralSymbols : List Char := [
  '\u00A0', '€', '£', '¥', '¢', '¤', '°', '§', '«', '»', '–', '—', '‘', '’', '‚', '“', '”', '„',
  '…', '©', '®', '™', 'µ', '·', '¡', '¿', 'ª', 'º', '±', '×', '÷', '¦', '¨', '¬', '¯', '²', '³',
  '¹', '¼', '½', '¾', '´', '¸', '†', '‡', '•', '‰', '¶']

def isNeutralSymbol (c : Char) : Bool := neutralSymbols.contains c

/-- Whether a position lies between two letters. -/
def isWedged (before after : Option Char) : Bool :=
  before.any isAlphabetic && after.any isAlphabetic

/-- Marks the neutral symbols of a text that do not stand between two letters. -/
def neutralPositions (text : List Char) : List Bool :=
  let before := none :: text.map some
  let after := (text.drop 1).map some ++ [none]
  List.zipWith (fun (b, c) a => isNeutralSymbol c && !isWedged b a) (before.zip text) after

/-- What one character contributes to the score. -/
def weight (c : Char) : Int :=
  if c.toNat < 0x80 then 0
  else if c.toNat < 0xA0 then -5
  else if isAlphabetic c then 1
  else if isNeutralSymbol c then 0
  else -2

/-- What the characters at positions that are not neutral contribute. -/
def characterScore (text : List Char) (neutral : List Bool) : Int :=
  (List.zipWith (fun c skip => if skip then 0 else weight c) text neutral).foldr (· + ·) 0

def isCyrillic (c : Char) : Bool := 0x400 ≤ c.toNat && c.toNat ≤ 0x4FF

/-- Whether a character is an accented or otherwise extended Latin letter. -/
def isExtendedLatin (c : Char) : Bool := 0xC0 ≤ c.toNat && c.toNat ≤ 0x24F

/-- The longest run of extended Latin letters, given the current and the longest run so far. -/
def longestRunFrom (current longest : Nat) : List Char → Nat
  | [] => longest
  | c :: rest =>
    if isExtendedLatin c then longestRunFrom (current + 1) (max longest (current + 1)) rest
    else longestRunFrom 0 longest rest

/-- The length of the longest run of extended Latin letters in a word. -/
def longestExtendedRun (word : List Char) : Nat := longestRunFrom 0 0 word

/-- What a word takes from the score: mixing Cyrillic with ASCII letters, and a run of three or
more extended Latin letters, are both implausible. -/
def wordPenalty (word : List Char) : Int :=
  if word.all (·.toNat < 0x80) then 0
  else
    (if word.any isCyrillic && word.any Char.isAlpha then 3 else 0)
      + (if 3 ≤ longestExtendedRun word then 3 else 0)

/-- The score of a text, leaving out the neutral positions. -/
def score (text : List Char) (neutral : List Bool) : Int :=
  characterScore text neutral - ((Text.words text).map wordPenalty).foldr (· + ·) 0

end TidyCsv.Plausibility
