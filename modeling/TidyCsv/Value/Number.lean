/-!
# Numbers in cells

Integers fit 64 bits and are written without leading zeros, since a number with leading zeros is an
identifier. Floats are decimal numerals with an optional fraction and exponent.
-/

namespace TidyCsv.Value

/-- A text without one leading sign. -/
def dropSign : List Char → List Char
  | '+' :: rest => rest
  | '-' :: rest => rest
  | text => text

/-- The number that decimal digits stand for. -/
def digitsValue (digits : List Char) : Nat :=
  digits.foldl (fun n c => n * 10 + (c.toNat - '0'.toNat)) 0

/-- Whether a text consists of decimal digits and is not empty. -/
def isDigits (text : List Char) : Bool := !text.isEmpty && text.all Char.isDigit

/-- The least magnitude out of range: one more below zero than above. -/
def magnitudeLimit (negative : Bool) : Nat :=
  if negative then Nat.pow 2 63 + 1 else Nat.pow 2 63

/-- Whether a text is an integer of 64 bits with an optional sign; leading zeros are allowed. -/
def isInt64 (text : List Char) : Bool :=
  let digits := dropSign text
  isDigits digits && decide (digitsValue digits < magnitudeLimit (text.head? == some '-'))

/-- Whether a text has several digits of which the first is a zero. -/
def hasLeadingZero : List Char → Bool
  | '0' :: _ :: _ => true
  | _ => false

def isInteger (text : List Char) : Bool := !hasLeadingZero (dropSign text) && isInt64 text

/-- Whether a text is the exponent of a float: nothing, or a marker and a signed integer. -/
def isExponent : List Char → Bool
  | [] => true
  | c :: rest => (c == 'e' || c == 'E') && isDigits (dropSign rest)

/-- Whether a text is an unsigned float: digits with at most one point among them, and an
exponent. -/
def isUnsignedFloat (text : List Char) : Bool :=
  let whole := text.takeWhile Char.isDigit
  match text.dropWhile Char.isDigit with
  | '.' :: rest =>
    let fraction := rest.takeWhile Char.isDigit
    !(whole.isEmpty && fraction.isEmpty) && isExponent (rest.dropWhile Char.isDigit)
  | rest => !whole.isEmpty && isExponent rest

def isFloat (text : List Char) : Bool := isUnsignedFloat (dropSign text)

end TidyCsv.Value
