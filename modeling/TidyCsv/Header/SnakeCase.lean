import TidyCsv.Text.Words
import TidyCsv.Unicode.LetterCase

/-!
# Snake case

A text is cut into humps: at everything that is no letter or number, before a capital that follows a
small letter, and before the last capital of several when a small letter follows. Humps are written
in lower case with underscores between them.
-/

namespace TidyCsv.Header

open Unicode

/-- The case of the last letter with a case since the last cut. -/
inductive Hump where
  | unknown
  | lower
  | upper
deriving DecidableEq, Repr

/-- The case after a character. -/
def Hump.after (hump : Hump) (c : Char) : Hump :=
  if isLowercase c then .lower else if isUppercase c then .upper else hump

/-- The humps of a word after those in `done`, which are held reversed, like the hump that is being
read. -/
def humpsFrom (done : List (List Char)) (current : List Char) (hump : Hump) :
    List Char → List (List Char)
  | [] => if current.isEmpty then done.reverse else (current.reverse :: done).reverse
  | [c] => ((c :: current).reverse :: done).reverse
  | c :: next :: rest =>
    if hump.after c = .lower ∧ isUppercase next then
      humpsFrom ((c :: current).reverse :: done) [] .unknown (next :: rest)
    else if hump = .upper ∧ isUppercase c ∧ isLowercase next then
      humpsFrom (current.reverse :: done) [c] .unknown (next :: rest)
    else humpsFrom done (c :: current) (hump.after c) (next :: rest)

def humps (word : List Char) : List (List Char) := humpsFrom [] [] .unknown word

/-- A hump in lower case; a capital sigma at its end becomes a final sigma. -/
def lowerHump (hump : List Char) : List Char :=
  let last := match hump.getLast? with
    | none => []
    | some c => if c = 'Σ' then ['ς'] else toLowercase c
  hump.dropLast.flatMap toLowercase ++ last

def snakeCase (text : List Char) : List Char :=
  ['_'].intercalate (((Text.words text).flatMap humps).map lowerHump)

end TidyCsv.Header
