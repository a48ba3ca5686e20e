import TidyCsv.CommandLine
import TidyCsv.Engine.BuiltIn
import TidyCsv.Run.Footprint
import TidyCsv.Storage.Change

/-!
# The program

The files that a run may touch are read, the run is computed, and what it changed is carried out.
Remote inputs are out of reach, since the program has no network.
-/

namespace TidyCsv.Main

/-- What the disk has at a location. -/
def entryOnDisk? (location : Location) : IO (Option Entry) := do
  let path := (← IO.currentDir) / (Path.ofLocation location).text
  if ← path.isDir then pure (some .directory)
  else if ← path.pathExists then pure (some (.file (← IO.FS.readBinFile path).toList))
  else pure none

/-- Puts what the disk has at a location and above it into a file system. -/
def load (fs : FileSystem) (location : Location) : IO FileSystem :=
  (List.range location.length).foldlM
    (fun fs n => do
      let part := location.take (n + 1)
      match ← entryOnDisk? part with
      | some entry => pure (fs.put part entry)
      | none => pure fs)
    fs

def carryOut (change : Change) : IO Unit :=
  match change with
  | .makeDirectory location => IO.FS.createDir (Path.ofLocation location).text
  | .write location content =>
    IO.FS.writeBinFile (Path.ofLocation location).text ⟨content.toArray⟩
  | .erase location => IO.FS.removeFile (Path.ofLocation location).text

partial def readAll (stream : IO.FS.Stream) (done : ByteArray) : IO ByteArray := do
  let more ← stream.read 65536
  if more.isEmpty then pure done else readAll stream (done ++ more)

/-- The fault that an error of the system is. -/
def faultOf : IO.Error → IoFault
  | .inappropriateType _ 21 _ => .isADirectory
  | error => .other (toString error)

/-- Standard input, which is read only if it is the input. -/
def readStdin (argument : String) : IO Stdin := do
  if InputReference.ofArgument argument = .stdin then
    let stream ← IO.getStdin
    if ← stream.isTty then pure .terminal
    else
      try pure (.piped (← readAll stream .empty).toList)
      catch error => pure (.broken (faultOf error))
  else pure (.piped [])

/-- Where intermediate files go if the output is no file. -/
def systemTempDir : IO Path := do
  match ← IO.getEnv "TMPDIR" with
  | some text => pure ⟨text⟩
  | none => pure ⟨"/tmp"⟩

/-- Does what is asked for, and gives the exit code. -/
def perform (request : CommandLine.Request) : IO UInt32 := do
  let session : Session := ⟨.builtIn .unreachable, none, ← systemTempDir⟩
  let home := Path.location [] ⟨(← IO.currentDir).toString⟩
  let paths := session.footprint request.input request.options (.ofLocation home)
  let before ← (paths.map (Path.location home)).foldlM load (.empty home)
  let (status, world) :=
    session.run request.input request.options (.initial before (← readStdin request.input))
  for change in world.files.changesSince before do
    carryOut change
  let stdout ← IO.getStdout
  stdout.write ⟨world.stdout.toArray⟩
  stdout.flush
  IO.eprint (Event.renderAll world.events)
  pure (UInt32.ofNat status.code)

end TidyCsv.Main

def main (arguments : List String) : IO UInt32 := do
  match TidyCsv.CommandLine.parse arguments with
  | .ok request => TidyCsv.Main.perform request
  | .error stop =>
    if stop.isRequest then IO.print stop.message else IO.eprint stop.message
    pure (UInt32.ofNat stop.exitCode)
