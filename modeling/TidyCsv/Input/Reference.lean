import TidyCsv.Engine.Basic
import TidyCsv.Engine.Fetch
import TidyCsv.Header.Name

/-!
# What an input argument refers to

An input is standard input, a URL, an archive or a file. Its base name, on which the names of all
files of a run are built, is a column name made of the last part of its path.
-/

namespace TidyCsv

inductive InputReference where
  | stdin
  | remote (url : String)
  | compressed (path : Path) (kind : Compression)
  | file (path : Path)
deriving DecidableEq, Repr

namespace InputReference

/-- Whether a text starts like a URL that can be fetched. -/
def isUrl (argument : String) : Bool :=
  let lowered := Text.asciiLower argument.toList
  "http://".toList.isPrefixOf lowered || "https://".toList.isPrefixOf lowered

def ofArgument (argument : String) : InputReference :=
  if argument = "-" then stdin
  else if isUrl argument then remote argument
  else
    match Compression.ofPath? argument with
    | some kind => compressed ⟨argument⟩ kind
    | none => file ⟨argument⟩

def isRemote : InputReference → Bool
  | remote _ => true
  | _ => false

/-- The file that is read, if the input is one. -/
def path? : InputReference → Option Path
  | file path => some path
  | compressed path _ => some path
  | _ => none

def displayName : InputReference → String
  | stdin => "<stdin>"
  | remote url => url
  | compressed path _ => path.text
  | file path => path.text

/-! ## Base names -/

/-- The endings that do not count as a part of the name. -/
def strippedEndings : List String := ["gz", "gzip", "zip", "csv", "tsv", "txt"]

/-- What stands before and after the last dot. -/
def splitLastDot (name : List Char) : Option (List Char × List Char) :=
  let reversed := name.reverse
  let ending := reversed.takeWhile (· != '.')
  match reversed.drop ending.length with
  | [] => none
  | _ :: head => some (head.reverse, ending.reverse)

/-- A name without the endings that do not count; `fuel` bounds their number. -/
def stripEndings (fuel : Nat) (name : List Char) : List Char :=
  match fuel with
  | 0 => name
  | fuel + 1 =>
    match splitLastDot name with
    | none => name
    | some (head, ending) =>
      let known := strippedEndings.contains (String.ofList (Text.asciiLower ending))
      if head.isEmpty || !known then name else stripEndings fuel head

/-- The last part of a URL's path; slashes at its end do not count. -/
def lastUrlPart (url : List Char) : List Char :=
  let reversed := (Url.beforeQuery url).reverse.dropWhile (· == '/')
  (reversed.takeWhile (· != '/')).reverse

/-- The last part of what the input refers to. -/
def lastPart : InputReference → List Char
  | stdin => "stdin".toList
  | remote url => lastUrlPart url.toList
  | compressed path _ => (path.fileName?.getD "").toList
  | file path => (path.fileName?.getD "").toList

/-- The name that the names of a run's files are built on. -/
def baseName (reference : InputReference) : String :=
  let name := reference.lastPart
  Header.normalizeName (String.ofList (stripEndings name.length name))

end InputReference

end TidyCsv
