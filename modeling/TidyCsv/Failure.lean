import TidyCsv.Failure.Category
import TidyCsv.Storage.FileSystem

/-!
# Failures of a run

Each failure has a message and, where there is something to advise, a hint. Failures that have been
shown while they arose are not shown again at the end of a run.
-/

namespace TidyCsv

inductive Failure where
  | inputNotFound (input : String)
  | notAFile (path : Path)
  | invalidDelimiter (value reason : String)
  | outputExists (path : Path)
  | encodingUndetectable (path : Path) (reason : String)
  | conversionFailed (label reason : String)
  | mojibakeRepair (fault : IoFault)
  | stdinNotPiped
  | engineFailed (category : Category) (message : String)
  | rowsRejected (strict : Bool) (rejected : Nat)
  | io (fault : IoFault)
deriving DecidableEq, Repr

namespace Failure

def message : Failure → String
  | inputNotFound input => "input file not found: " ++ input
  | notAFile path => "not a file: " ++ path.text
  | invalidDelimiter value reason => "invalid delimiter '" ++ value ++ "': " ++ reason
  | outputExists path => "output file already exists: " ++ path.text
  | encodingUndetectable path reason =>
    "unable to detect encoding of " ++ path.text ++ ": " ++ reason
  | conversionFailed label reason => "failed converting from " ++ label ++ " to UTF-8: " ++ reason
  | mojibakeRepair fault => "mojibake repair failed: " ++ fault.message
  | stdinNotPiped => "no data on standard input"
  | engineFailed category message => category.title ++ ": " ++ message
  | rowsRejected _ rejected => "validation found " ++ toString rejected ++ " invalid row(s)"
  | io fault => fault.message

def hint? : Failure → Option String
  | inputNotFound _ => some "Check the path, or pass '-' to read from standard input."
  | notAFile _ => some "Directories cannot be normalized."
  | invalidDelimiter .. => some "Use a single ASCII character such as ',', ';', '|' or 'tab'."
  | outputExists _ => some "Use --force to overwrite."
  | encodingUndetectable .. =>
    some "The file may be empty or binary. Convert it to UTF-8 and try again."
  | conversionFailed .. => some "Convert the file to UTF-8 manually and try again."
  | mojibakeRepair _ => some "Check free disk space and permissions in the working directory."
  | stdinNotPiped =>
    some "Pipe CSV data into the command, e.g. `cat data.csv | csv-normalizer -`."
  | engineFailed category _ => some category.guidance
  | rowsRejected true _ =>
    some "Strict mode treats any invalid row as fatal; drop --strict to keep valid rows."
  | rowsRejected false _ => none
  | io _ => none

/-- Whether a failure has been shown by the time the run ends. -/
def alreadyReported : Failure → Bool
  | engineFailed .. => true
  | rowsRejected .. => true
  | _ => false

end Failure

end TidyCsv
