import TidyCsv.Storage.FileSystem

/-!
# Data engines

An engine reads a source, writes the rows that conform to one file and the rows that do not to
another, and reports how many there were of each. The rest of a run uses an engine only through
this interface.
-/

namespace TidyCsv

inductive Compression where
  | gzip
  | zip
deriving DecidableEq, Repr

namespace Compression

def label : Compression → String
  | gzip => "gzip"
  | zip => "zip"

/-- The kind of compression that a path or URL ends in, in either case of letters. -/
def ofPath? (path : String) : Option Compression :=
  let reversed := (Text.asciiLower path.toList).reverse
  let endsWith (suffix : String) : Bool := suffix.toList.reverse.isPrefixOf reversed
  if endsWith ".gz" || endsWith ".gzip" then some gzip
  else if endsWith ".zip" then some zip
  else none

end Compression

inductive Source where
  | file (path : Path)
  | compressed (path : Path) (kind : Compression)
  | remote (url : String)
deriving DecidableEq, Repr

namespace Source

def isRemote : Source → Bool
  | remote _ => true
  | _ => false

def describe : Source → String
  | file path => path.text
  | compressed path _ => path.text
  | remote url => url

end Source

structure ReadOptions where
  /-- Lines to pass over before the header. -/
  skipRows : Nat := 0
  /-- How many rows column types are inferred from. -/
  sampleRows : Nat := 2000
  /-- The delimiter, if it is not to be guessed. -/
  delimiter : Option UInt8 := none
deriving DecidableEq, Repr

/-- That an engine has read a source in another way than it was asked to. -/
structure Fallback where
  strictMode : Bool
deriving DecidableEq, Repr

structure EngineReport where
  conforming : Nat
  rejected : Nat
  columns : Nat
  fallback : Option Fallback
deriving DecidableEq, Repr

/-- An engine. A failure is a message. -/
structure Engine where
  /-- Reads a source and writes the conforming rows to the first path and the others to the second
  one. Files may have changed even if this fails. -/
  validate : FileSystem → Source → ReadOptions → Path → Path →
    Except String EngineReport × FileSystem
  /-- The number of rows of a file, its header left out. -/
  rowCount : FileSystem → Path → Except String Nat
  /-- The number of columns of a file. -/
  columnCount : FileSystem → Path → Except String Nat

end TidyCsv
