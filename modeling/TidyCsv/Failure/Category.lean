import TidyCsv.Text.Lines
import TidyCsv.Unicode.Numeric
import TidyCsv.Unicode.Word

/-!
# Kinds of engine failures

An engine reports a failure as one message. Its kind, which decides what the user is told, is read
off the message; what concerns the network applies to remote inputs only. A status code counts only
after the words that announce it, never elsewhere in the message.
-/

namespace TidyCsv

open Unicode

inductive Category where
  | zipMissing
  | httpNotFound
  | httpAuth
  | httpTimeout
  | httpRange
  | httpChanged
  | generic
deriving DecidableEq, Repr

namespace Category

def title : Category → String
  | zipMissing => "Compressed input needs zipfs support"
  | httpNotFound => "HTTP 404: remote file not found"
  | httpAuth => "Authentication required"
  | httpTimeout => "HTTP timeout"
  | httpRange => "HTTP range request not supported"
  | httpChanged => "Remote file changed (ETag mismatch)"
  | generic => "Validation failed"

def guidance : Category → String
  | zipMissing =>
    "Zip archives cannot be read directly. Extract the CSV (or recompress it with gzip) and run "
      ++ "again."
  | httpNotFound => "Check that the URL is correct and publicly reachable."
  | httpAuth =>
    "The server refused access. Download the file with valid credentials and pass the local path."
  | httpTimeout => "The server did not answer in time. Retry later or download the file first."
  | httpRange =>
    "The server does not support partial downloads. Download the file and pass the local path."
  | httpChanged => "The remote file changed while it was being read. Retry the command."
  | generic =>
    "The data engine could not read the input. Check the delimiter, --skip-rows and the file "
      ++ "contents."

/-! ## Status codes in messages -/

/-- The words that announce a status code, in lower case. -/
def statusWords : List Char := "http error".toList

/-- What follows the announcing words at the front of a text, without a colon after them. -/
def afterStatusWords? (text : List Char) : Option (List Char) :=
  if Text.asciiLower (text.take statusWords.length) = statusWords then
    match text.drop statusWords.length with
    | ':' :: rest => some rest
    | rest => some rest
  else none

/-- Three digits of any script at the front of a text, after which a word ends. -/
def threeDigits? : List Char → Option (List Char)
  | a :: b :: c :: rest =>
    if isDecimalDigit a && isDecimalDigit b && isDecimalDigit c && !rest.head?.any isWordChar then
      some [a, b, c]
    else none
  | _ => none

/-- The digits of a status code that is announced at the front of a text. -/
def announced? (text : List Char) : Option (List Char) :=
  (afterStatusWords? text).bind fun rest =>
    if rest.head?.any isBlank then threeDigits? (rest.dropWhile isBlank) else none

/-- The digits of the first status code that is announced at the start of a word; `inWord` tells
whether a word is going on before the text. -/
def findAnnounced? (inWord : Bool) : List Char → Option (List Char)
  | [] => none
  | c :: rest =>
    match if inWord then none else announced? (c :: rest) with
    | some digits => some digits
    | none => findAnnounced? (isWordChar c) rest

/-- The number that ASCII digits stand for; other digits give none. -/
def codeOf? (digits : List Char) : Option Nat :=
  if digits.all Char.isDigit then
    some (digits.foldl (fun n c => n * 10 + (c.toNat - '0'.toNat)) 0)
  else none

def status? (message : String) : Option Nat :=
  (findAnnounced? false message.toList).bind codeOf?

def ofStatus (code : Nat) : Category :=
  if code = 404 then httpNotFound
  else if code = 401 ∨ code = 403 then httpAuth
  else if code = 416 then httpRange
  else generic

/-- The kind of the failure that a message reports. -/
def ofMessage (message : String) (isRemote : Bool) : Category :=
  let lowered := Text.asciiLower message.toList
  let mentions (words : String) : Bool := Text.occursIn words.toList lowered
  if mentions "zipfs" then zipMissing
  else if !isRemote then generic
  else if mentions "http timeout" || mentions "timed out" then httpTimeout
  else if mentions "etag" then httpChanged
  else
    match status? message with
    | some code => ofStatus code
    | none => if mentions "range not satisfiable" then httpRange else generic

end Category

end TidyCsv
