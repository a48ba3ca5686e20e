import TidyCsv.Csv.Delimiter
import TidyCsv.Failure

/-!
# Settings of a run

The options as they are given, and the settings that are made of them once and hold for a whole run.
-/

namespace TidyCsv

structure Options where
  output : Option Path := none
  delimiter : String := ","
  keepNames : Bool := false
  force : Bool := false
  strict : Bool := false
  checkOnly : Bool := false
  useStdout : Bool := false
  mojibakeSample : Option Nat := none
  skipRows : Nat := 0
deriving DecidableEq, Repr

/-- Where the result goes. -/
inductive Output where
  | file (path : Path)
  | stdout
deriving DecidableEq, Repr

namespace Output

def isStdout : Output → Bool
  | file _ => false
  | stdout => true

def path? : Output → Option Path
  | file path => some path
  | stdout => none

def describe : Output → String
  | file path => path.text
  | stdout => "stdout"

end Output

structure Settings where
  delimiter : UInt8
  keepNames : Bool
  force : Bool
  strict : Bool
  checkOnly : Bool
  mojibakeSample : Option Nat
  skipRows : Nat
  output : Output
deriving DecidableEq, Repr

/-- A directory given by its names from the root. -/
def Path.ofLocation (location : Location) : Path := ⟨"/" ++ "/".intercalate location⟩

namespace Options

/-- Where the result goes: to standard output if that is asked for in either way, else to the file
that is named, else to a file in the home directory that is named after the input. -/
def target (options : Options) (home : Path) (baseName : String) : Output :=
  if options.useStdout then .stdout
  else
    match options.output with
    | some path => if path.isDash then .stdout else .file path
    | none => .file (home.join ⟨baseName ++ ".csv"⟩)

/-- The settings that options stand for. A sample of no bytes turns repair off. -/
def settings (options : Options) (home : Path) (baseName : String) : Except Failure Settings :=
  match Delimiter.parse options.delimiter with
  | .error reason => .error (.invalidDelimiter options.delimiter reason.message)
  | .ok delimiter =>
    .ok {
      delimiter := delimiter
      keepNames := options.keepNames
      force := options.force
      strict := options.strict
      checkOnly := options.checkOnly
      mojibakeSample := options.mojibakeSample.filter (0 < ·)
      skipRows := options.skipRows
      output := options.target home baseName }

end Options

end TidyCsv
