import TidyCsv.Unicode.Blank

/-!
# Lines, margins and parts of text

Text is split into lines at line feeds; a carriage return before a line feed belongs to the line
break. Trimming removes blank characters from the margins.
-/

namespace TidyCsv.Text

open Unicode

/-- A line without the carriage return that precedes its line feed; the line is held reversed. -/
def closeLine : List Char → List Char
  | '\r' :: line => line.reverse
  | line => line.reverse

/-- The lines of `current.reverse ++ text` after the lines in `done`, which are held reversed. -/
def linesFrom (done : List (List Char)) (current : List Char) : List Char → List (List Char)
  | [] => (if current.isEmpty then done else current.reverse :: done).reverse
  | '\n' :: rest => linesFrom (closeLine current :: done) [] rest
  | c :: rest => linesFrom done (c :: current) rest

/-- The lines of a text. A last line without a line feed counts if it is not empty. -/
def lines (text : List Char) : List (List Char) := linesFrom [] [] text

def trimEnd (text : List Char) : List Char := (text.reverse.dropWhile isBlank).reverse

def trim (text : List Char) : List Char := trimEnd (text.dropWhile isBlank)

def isBlankText (text : List Char) : Bool := text.all isBlank

/-- ASCII letters in lower case, all other characters unchanged. -/
def asciiLower (text : List Char) : List Char := text.map Char.toLower

/-- The pieces of a text between separators; there is one more of them than separators. -/
def splitOn (separator : Char) : List Char → List (List Char)
  | [] => [[]]
  | c :: rest =>
    if c = separator then [] :: splitOn separator rest
    else
      match splitOn separator rest with
      | [] => [[c]]
      | piece :: pieces => (c :: piece) :: pieces

/-- Whether `part` occurs somewhere in a text. -/
def occursIn (part : List Char) : List Char → Bool
  | [] => part.isEmpty
  | c :: rest => part.isPrefixOf (c :: rest) || occursIn part rest

end TidyCsv.Text
