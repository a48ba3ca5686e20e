import TidyCsv.Text.Lines
import TidyCsv.Text.Utf8

/-!
# URLs

A URL is requested in its written form. Controls and blanks around it are dropped, as are tabs and
line breaks inside; a user name is held back; dot segments of the path are resolved; and what may
not stand in a URL is percent-encoded.
-/

namespace TidyCsv.Url

/-- What stands before the query and the fragment. -/
def beforeQuery (url : List Char) : List Char := url.takeWhile fun c => c != '?' && c != '#'

/-- What stands before the first mark, and what stands after it. -/
def splitFirst (mark : Char) (text : List Char) : List Char × Option (List Char) :=
  let before := text.takeWhile (· != mark)
  (before, (text.drop before.length).tail?)

/-- A URL without controls and blanks around it and without tabs and line breaks. -/
def bare (url : List Char) : List Char :=
  let cut := url.reverse.dropWhile (· ≤ ' ')
  (cut.reverse.dropWhile (· ≤ ' ')).filter fun c => c != '\t' && c != '\n' && c != '\r'

/-! ## Percent encoding -/

/-- A byte as a percent sign and two hexadecimal digits. -/
def percentByte (b : UInt8) : List Char :=
  ['%', (Nat.digitChar (b.toNat / 16)).toUpper, (Nat.digitChar (b.toNat % 16)).toUpper]

/-- Whether no part of a URL holds a character as it is. -/
def isNeverPlain (c : Char) : Bool := c ≤ ' ' || '~' < c || "\"<>".toList.contains c

/-- A part of a URL as it is written; `also` are the characters that this part does not hold
besides those that none does. -/
def escape (also text : List Char) : List Char :=
  text.flatMap fun c =>
    if isNeverPlain c || also.contains c then (Utf8.encodeChar c).flatMap percentByte else [c]

def escapeSegment (segment : List Char) : List Char := escape ['^', '`', '\x7b', '\x7d'] segment

def escapeQuery (query : List Char) : List Char := '?' :: escape ['\''] query

def escapeFragment (fragment : List Char) : List Char := '#' :: escape ['`'] fragment

/-! ## Paths -/

/-- A segment with its percent-encoded dots as dots. -/
def plainDots : List Char → List Char
  | '%' :: '2' :: 'e' :: rest => '.' :: plainDots rest
  | '%' :: '2' :: 'E' :: rest => '.' :: plainDots rest
  | c :: rest => c :: plainDots rest
  | [] => []

/-- The segments of a path without dot segments, after those in `done`, which are held reversed.
A dot segment at the end leaves an empty segment. -/
def resolveFrom (done : List (List Char)) : List (List Char) → List (List Char)
  | [] => done.reverse
  | segment :: rest =>
    let dots := plainDots segment
    if dots = ['.', '.'] ∨ dots = ['.'] then
      let done := if dots = ['.'] then done else done.tail
      resolveFrom (if rest.isEmpty then [] :: done else done) rest
    else resolveFrom (segment :: done) rest

/-- What follows the host, as it is written: the path, which starts with a slash. -/
def writtenPath (path : List Char) : List Char :=
  let segments := resolveFrom [] (Text.splitOn '/' (path.drop 1))
  '/' :: ['/'].intercalate (segments.map escapeSegment)

/-! ## The written form -/

/-- The written form of a URL of a web server. Letters before the path are written small. -/
def written (url : String) : String :=
  let (text, fragment) := splitFirst '#' (bare url.toList)
  let (text, query) := splitFirst '?' text
  let (scheme, rest) := splitFirst ':' text
  let slashed := (rest.getD []).map fun c => if c = '\\' then '/' else c
  let address := slashed.dropWhile (· == '/')
  let authority := address.takeWhile (· != '/')
  let host := (authority.reverse.takeWhile (· != '@')).reverse
  String.ofList (Text.asciiLower scheme ++ "://".toList ++ Text.asciiLower host
    ++ writtenPath (address.drop authority.length)
    ++ (query.map escapeQuery).getD [] ++ (fragment.map escapeFragment).getD [])

end TidyCsv.Url
