import TidyCsv.Text.Lines

/-!
# Truth values and identifiers in cells
-/

namespace TidyCsv.Value

def booleanWords : List String := ["true", "false", "t", "f", "yes", "no", "y", "n"]

/-- Whether a text is a word for a truth value, in either case. -/
def isBoolean (text : List Char) : Bool :=
  booleanWords.any fun word => word.toList == Text.asciiLower text

def isHexDigit (c : Char) : Bool :=
  c.isDigit || ('a' ≤ c && c ≤ 'f') || ('A' ≤ c && c ≤ 'F')

/-- Whether a text consists of so many hexadecimal digits. -/
def isHexGroup (length : Nat) (text : List Char) : Bool :=
  text.length == length && text.all isHexDigit

/-- Whether a text is a sequence of groups of the given lengths with hyphens between them. -/
def isHyphenated : List Nat → List Char → Bool
  | [], _ => false
  | [length], text => isHexGroup length text
  | length :: more, text =>
    isHexGroup length (text.take length)
      && (match text.drop length with
          | '-' :: rest => isHyphenated more rest
          | _ => false)

def groupLengths : List Nat := [8, 4, 4, 4, 12]

/-- What may stand before a hyphenated identifier. -/
def urnMark : List Char := "urn:uuid:".toList

/-- Whether a text is an identifier without braces: 32 digits, five groups, or five groups after a
mark. -/
def isBareGuid (text : List Char) : Bool :=
  isHexGroup 32 text || isHyphenated groupLengths text
    || (Text.asciiLower (text.take urnMark.length) == urnMark
        && isHyphenated groupLengths (text.drop urnMark.length))

def isBrace (c : Char) : Bool := c == '\x7b' || c == '\x7d'

/-- A text without the braces at its ends. -/
def dropBraces (text : List Char) : List Char :=
  ((text.dropWhile isBrace).reverse.dropWhile isBrace).reverse

/-- Whether a text is an identifier, with any number of braces around it. -/
def isGuid (text : List Char) : Bool := isBareGuid (dropBraces text)

end TidyCsv.Value
