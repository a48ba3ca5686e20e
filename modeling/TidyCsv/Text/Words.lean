import TidyCsv.Unicode.Alphabetic
import TidyCsv.Unicode.Numeric

/-!
# Words

A word is a longest stretch of letters and numbers.
-/

namespace TidyCsv.Text

open Unicode

/-- Whether a character belongs to a word: it is a letter or stands for a number. -/
def isAlphanumeric (c : Char) : Bool := isAlphabetic c || isNumeric c

/-- The stretches of a text after those in `done`, which are held reversed, like the word that is
being read. -/
def wordsFrom (done : List (List Char)) (word : List Char) : List Char → List (List Char)
  | [] => (word.reverse :: done).reverse
  | c :: rest =>
    if isAlphanumeric c then wordsFrom done (c :: word) rest
    else wordsFrom (word.reverse :: done) [] rest

/-- The stretches between characters that are no letters or numbers; adjacent ones have an empty
stretch between them. -/
def words (text : List Char) : List (List Char) := wordsFrom [] [] text

end TidyCsv.Text
