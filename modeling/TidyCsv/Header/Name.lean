import TidyCsv.Header.Folding
import TidyCsv.Header.SnakeCase

/-!
# Column names

A column name is brought into snake case without accents. The names of one header are kept apart by
numbers.
-/

namespace TidyCsv.Header

open Unicode

/-- The name of a column whose own name has no letter or number. -/
def fallbackName : String := "column"

/-- Takes a character into a name, which is held reversed: letters and numbers in lower case, and
anything else as one underscore that neither opens the name nor follows another one. -/
def takeChar (name : List Char) (c : Char) : List Char :=
  if Text.isAlphanumeric c then (toLowercase c).reverse ++ name
  else
    match name with
    | [] => []
    | '_' :: _ => name
    | _ => '_' :: name

/-- The letters and numbers of a text, with single underscores between them. -/
def identifier (text : List Char) : List Char :=
  ((text.foldl takeChar []).dropWhile (· == '_')).reverse

/-- A column name in its normal form. -/
def normalizeName (name : String) : String :=
  match identifier (snakeCase (foldText name.toList)) with
  | [] => fallbackName
  | text => String.ofList text

/-! ## Telling names apart -/

def numbered (name : String) (n : Nat) : String := name ++ "_" ++ toString n

/-- The name itself if it is free, and otherwise the name with the least number from two on that is
free. -/
def firstFree (taken : List String) (name : String) : String :=
  if taken.contains name then
    let isFree (n : Nat) : Bool := !taken.contains (numbered name (n + 2))
    match (List.range (taken.length + 1)).find? isFree with
    | some n => numbered name (n + 2)
    | none => name
  else name

/-- Makes names free of those taken, one after the other; the names taken are held reversed. -/
def distinctFrom (taken : List String) : List String → List String
  | [] => taken.reverse
  | name :: rest => distinctFrom (firstFree taken name :: taken) rest

/-- The column names of a header in their normal form, no two alike. -/
def normalizeAll (names : List String) : List String := distinctFrom [] (names.map normalizeName)

end TidyCsv.Header
