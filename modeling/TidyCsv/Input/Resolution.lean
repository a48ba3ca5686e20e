import TidyCsv.Encoding.Detection
import TidyCsv.Encoding.Transcoding
import TidyCsv.Input.Reference
import TidyCsv.Mojibake.Repair
import TidyCsv.Run.World
import TidyCsv.Settings

/-!
# From an input to a source

Standard input and files become a file of UTF-8: input that is piped in is stored, other encodings
are converted, and mojibake is repaired if that is asked for. Every intermediate file is registered
before it is written. Archives and remote inputs are left to the engine.
-/

namespace TidyCsv

structure Resolved where
  source : Source
  /-- The label of the encoding, or what the input is instead of a text file. -/
  encoding : String
  repaired : Bool
  /-- The file that the data came from, if it came from one. -/
  localInput : Option Path
deriving DecidableEq, Repr

namespace Resolution

/-- The file for an intermediate result. -/
def derivedPath (directory : Path) (baseName ending : String) : Path :=
  directory.join ⟨baseName ++ ending⟩

def detectFile (fs : FileSystem) (path : Path) : Except Failure Detection.Verdict :=
  match fs.readFirst path Detection.sampleSize with
  | .error fault => .error (.io fault)
  | .ok sample =>
    match Detection.detect sample with
    | .ok verdict => .ok verdict
    | .error refusal => .error (.encodingUndetectable path refusal.message)

/-- Converts a file to UTF-8, reading it in the pieces into which `split` cuts its content. The
destination is emptied before the source is read, and holds what was decoded if that is not all. -/
def convertFileBy (split : Bytes → List Bytes) (fs : FileSystem) (source destination : Path)
    (label : String) : Except Failure Unit × FileSystem :=
  let refuse (refusal : Transcoding.Refusal) : Failure := .conversionFailed label refusal.message
  match (Encoding.ofLabel? label).bind Transcoding.Decoder.ofEncoding? with
  | none => (.error (refuse .unknownEncoding), fs)
  | some decoder =>
    match fs.open? source with
    | .error fault => (.error (.io fault), fs)
    | .ok _ =>
      match fs.create destination with
      | .error fault => (.error (.io fault), fs)
      | .ok fs =>
        match fs.read source with
        | .error fault => (.error (.io fault), fs)
        | .ok content =>
          let transcript := decoder.run (split content)
          match fs.write destination (Utf8.encode transcript.text) with
          | .error fault => (.error (.io fault), fs)
          | .ok fs =>
            match transcript.failedAt with
            | some position => (.error (refuse (.malformed position)), fs)
            | none => (.ok (), fs)

/-- Converts a file to UTF-8, reading it in full pieces. -/
def convertFile (fs : FileSystem) (source destination : Path) (label : String) :
    Except Failure Unit × FileSystem :=
  convertFileBy Transcoding.pieces fs source destination label

/-- Writes a repaired copy of a file if there is something to repair, and tells whether it did. -/
def repairFile (fs : FileSystem) (source destination : Path) (sample : Nat) :
    Except IoFault (Bool × FileSystem) :=
  match fs.readFirst source sample with
  | .error fault => .error fault
  | .ok start =>
    if Mojibake.hasSignature (Utf8.decodeLossy start) then
      match fs.read source with
      | .error fault => .error fault
      | .ok content =>
        match Mojibake.repairContent? sample content with
        | none => .ok (false, fs)
        | some repaired => (fs.write destination repaired).map fun fs => (true, fs)
    else .ok (false, fs)

def storeStdin (directory : Path) (baseName : String) : Run Path := do
  match (← get).stdin with
  | .terminal => throw .stdinNotPiped
  | .piped bytes =>
    let path := derivedPath directory baseName "_stdin.csv"
    Run.register path
    modify fun world => { world with stdin := .piped [] }
    Run.write path bytes
    pure path
  | .broken fault =>
    Run.register (derivedPath directory baseName "_stdin.csv")
    throw (.io fault)

/-- Makes a file of UTF-8 of a file, if it is none, and gives the file to go on with. -/
def convert (directory : Path) (baseName : String) (path : Path) (label : String) : Run Path :=
  if Encoding.needsConversion label then do
    let converted := derivedPath directory baseName "_utf8.csv"
    Run.register converted
    match convertFile (← Run.files) path converted label with
    | (.ok (), fs) =>
      Run.keep .io converted fs
      pure converted
    | (.error failure, fs) =>
      Run.setFiles fs
      throw failure
  else pure path

/-- Repairs a file if that is asked for, and gives the file to go on with. -/
def repair (directory : Path) (baseName : String) (path : Path) (sample : Option Nat) :
    Run (Path × Bool) :=
  match sample with
  | none => pure (path, false)
  | some sample => do
    let fixed := derivedPath directory baseName "_fixed.csv"
    Run.register fixed
    match repairFile (← Run.files) path fixed sample with
    | .error fault => throw (.mojibakeRepair fault)
    | .ok (false, _) => pure (path, false)
    | .ok (true, fs) =>
      Run.keep .mojibakeRepair fixed fs
      pure (fixed, true)

def resolveFile (settings : Settings) (directory : Path) (baseName : String) (path : Path) :
    Run Resolved := do
  match detectFile (← Run.files) path with
  | .error failure => throw failure
  | .ok verdict =>
    let working ← convert directory baseName path verdict.label
    let sample := if settings.checkOnly then none else settings.mojibakeSample
    let (working, repaired) ← repair directory baseName working sample
    pure ⟨.file working, verdict.label, repaired, some path⟩

def resolve (reference : InputReference) (settings : Settings) (directory : Path)
    (baseName : String) : Run Resolved :=
  match reference with
  | .remote url => pure ⟨.remote url, "remote", false, none⟩
  | .compressed path kind => pure ⟨.compressed path kind, kind.label, false, some path⟩
  | .stdin => do resolveFile settings directory baseName (← storeStdin directory baseName)
  | .file path => resolveFile settings directory baseName path

end Resolution

end TidyCsv
