import TidyCsv.Engine.Basic

/-!
# Scripted engines

An engine that answers as it is told, for trying out what a run makes of an engine's answers.
-/

namespace TidyCsv

structure Script where
  /-- The message of a failure; in it the mark below stands for the source. -/
  failure : Option String := none
  /-- What is written to the file of conforming rows, if anything. -/
  staged : Option Bytes := none
  /-- What is written to the file of rejected rows, if anything. -/
  reject : Option Bytes := none
  report : EngineReport := ⟨0, 0, 0, none⟩
  rowCount : Option Nat := none
  columnCount : Option Nat := none
deriving DecidableEq, Repr

namespace Script

/-- What stands for the source in the message of a failure. -/
def sourceMark : List Char := "$SOURCE".toList

/-- A text with a name for every mark. `skip` characters of the text belong to a mark that has been
replaced. -/
def replaceMark (name : List Char) (skip : Nat) : List Char → List Char
  | [] => []
  | c :: rest =>
    match skip with
    | skip + 1 => replaceMark name skip rest
    | 0 =>
      if sourceMark.isPrefixOf (c :: rest) then
        name ++ replaceMark name (sourceMark.length - 1) rest
      else c :: replaceMark name 0 rest

/-- Writes a file if there is something to write. -/
def writeOption (fs : FileSystem) (path : Path) : Option Bytes → Except String Unit × FileSystem
  | none => (.ok (), fs)
  | some content =>
    match fs.write path content with
    | .ok fs => (.ok (), fs)
    | .error fault => (.error ("IO Error: " ++ fault.message), fs)

end Script

def Engine.scripted (script : Script) : Engine where
  validate fs source _ output reject :=
    match script.failure with
    | some message =>
      (.error (String.ofList (Script.replaceMark source.describe.toList 0 message.toList)), fs)
    | none =>
      match Script.writeOption fs output script.staged with
      | (.error message, fs) => (.error message, fs)
      | (.ok (), fs) =>
        match Script.writeOption fs reject script.reject with
        | (.error message, fs) => (.error message, fs)
        | (.ok (), fs) => (.ok script.report, fs)
  rowCount _ _ := script.rowCount.elim (.error "no row count") .ok
  columnCount _ _ := script.columnCount.elim (.error "no column count") .ok

end TidyCsv
