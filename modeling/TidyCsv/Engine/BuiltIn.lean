import TidyCsv.Csv.Delimiter
import TidyCsv.Engine.Fetch
import TidyCsv.Engine.Pass
import TidyCsv.Gzip.Member
import TidyCsv.Storage.TempFiles

/-!
# The built-in engine

It reads files, gzip archives and remote sources. A document of which more rows are rejected than
kept is read again with quotes as ordinary characters, and the second reading counts if it rejects
fewer rows.
-/

namespace TidyCsv

inductive EngineFault where
  | noSuchFile (path : Path)
  | zipUnsupported (path : Path)
  | gzip (reason : String)
  | fetch (fault : FetchFault)
  | io (fault : IoFault)
  | csv (fault : IoFault)
  | pass (fault : PassFault)
deriving DecidableEq, Repr

def EngineFault.message : EngineFault → String
  | noSuchFile path =>
    "IO Error: No files found that match the pattern \"" ++ path.text ++ "\""
  | zipUnsupported path =>
    "Extension \"zipfs\" not found: cannot open zip archive \"" ++ path.text ++ "\""
  | gzip reason => "IO Error: gzip decompression failed: " ++ reason
  | fetch fault => fault.message
  | io fault => "IO Error: " ++ fault.message
  | csv fault => "CSV Error: " ++ fault.message
  | pass fault => fault.message

namespace BuiltIn

/-- A source that can be read: a file that is opened for each reading, or content at hand. -/
inductive Loaded where
  | file (path : Path)
  | content (bytes : Bytes)
deriving DecidableEq, Repr

def gunzip (bytes : Bytes) : Except EngineFault Bytes :=
  match Gzip.decompress bytes with
  | .ok content => .ok content
  | .error refusal => .error (.gzip refusal.message)

def loadGzip (fs : FileSystem) (path : Path) : Except EngineFault Bytes :=
  match fs.open? path with
  | .error fault => .error (.io fault)
  | .ok entry =>
    match entry.read with
    | .error fault => .error (.gzip fault.message)
    | .ok bytes => gunzip bytes

/-- The content behind a URL, decompressed if its path says so. -/
def loadRemote (network : Network) (url : String) : Except EngineFault Bytes :=
  match network.fetch url with
  | .error fault => .error (.fetch fault)
  | .ok bytes =>
    let path := String.ofList (Url.beforeQuery url.toList)
    if Compression.ofPath? path = some .gzip then gunzip bytes else .ok bytes

def load (network : Network) (fs : FileSystem) : Source → Except EngineFault Loaded
  | .file path => if fs.isFile path then .ok (.file path) else .error (.noSuchFile path)
  | .compressed path .gzip => (loadGzip fs path).map .content
  | .compressed path .zip => .error (.zipUnsupported path)
  | .remote url => (loadRemote network url).map .content

/-- The content of a readable source, as it is now. -/
def Loaded.read (loaded : Loaded) (fs : FileSystem) : Except EngineFault Bytes :=
  match loaded with
  | file path =>
    match fs.read path with
    | .ok bytes => .ok bytes
    | .error fault => .error (.io fault)
  | content bytes => .ok bytes

/-- The delimiter of a source: the one given, or a guess. -/
def delimiterOf (options : ReadOptions) (content : Bytes) : UInt8 :=
  match options.delimiter with
  | some delimiter => delimiter
  | none => Delimiter.sniff (content.take Delimiter.sampleSize) options.skipRows

/-- The pass that counts instead of the first one, if there is one. A second pass is made only if
the first one rejected more rows than it kept, and counts only if it rejects fewer. -/
def retry? (options : ReadOptions) (delimiter : UInt8) (content : Bytes) (strict : Pass.Tally) :
    Except PassFault (Option (Pass.Tally × Pass.Files)) :=
  if strict.conforming < strict.rejected then
    match Pass.run options ⟨delimiter, false⟩ content with
    | (.error fault, _) => .error fault
    | (.ok relaxed, files) =>
      .ok (if relaxed.rejected < strict.rejected then some (relaxed, files) else none)
  else .ok none

def reportOf (pass : Pass.Tally) (fallback : Option Fallback) : EngineReport :=
  ⟨pass.conforming, pass.rejected, pass.columns, fallback⟩

/-- Writes a file, or gives the fault with the file system as it was. -/
def writeFile (fs : FileSystem) (path : Path) (content : Bytes) :
    Except EngineFault Unit × FileSystem :=
  match fs.write path content with
  | .ok fs => (.ok (), fs)
  | .error fault => (.error (.io fault), fs)

def writeBoth (fs : FileSystem) (output reject : Path) (files : Pass.Files) :
    Except EngineFault Unit × FileSystem :=
  match writeFile fs output files.output with
  | (.error fault, fs) => (.error fault, fs)
  | (.ok (), fs) => writeFile fs reject files.reject

/-- Reads a document that has been made readable. Both files are emptied before it is opened, and
they hold what the first pass wrote if the second one fails. -/
def validateLoaded (fs : FileSystem) (loaded : Loaded) (options : ReadOptions)
    (delimiter : UInt8) (output reject : Path) : Except EngineFault EngineReport × FileSystem :=
  match writeBoth fs output reject ⟨[], []⟩ with
  | (.error fault, fs) => (.error fault, fs)
  | (.ok (), fs) =>
    match loaded.read fs with
    | .error fault => (.error fault, fs)
    | .ok content =>
      let (strict, files) := Pass.run options ⟨delimiter, true⟩ content
      let fs := (writeBoth fs output reject files).2
      match strict with
      | .error fault => (.error (.pass fault), fs)
      | .ok strict =>
        match retry? options delimiter content strict with
        | .error fault => (.error (.pass fault), fs)
        | .ok none => (.ok (reportOf strict none), fs)
        | .ok (some (relaxed, files)) =>
          (.ok (reportOf relaxed (some ⟨false⟩)), (writeBoth fs output reject files).2)

def validate (network : Network) (fs : FileSystem) (source : Source) (options : ReadOptions)
    (output reject : Path) : Except EngineFault EngineReport × FileSystem :=
  match load network fs source with
  | .error fault => (.error fault, fs)
  | .ok loaded =>
    match loaded.read fs with
    | .error fault => (.error fault, fs)
    | .ok content => validateLoaded fs loaded options (delimiterOf options content) output reject

/-- The records of a file, for counting. -/
def countable (fs : FileSystem) (path : Path) : Except EngineFault Bytes :=
  match fs.open? path with
  | .error fault => .error (.io fault)
  | .ok entry =>
    match entry.read with
    | .error fault => .error (.csv fault)
    | .ok content => .ok content

/-- The number of rows of a file, its header left out. -/
def rowCount (fs : FileSystem) (path : Path) : Except EngineFault Nat :=
  (countable fs path).map fun content => Csv.countRecords content - 1

def columnCount (fs : FileSystem) (path : Path) : Except EngineFault Nat :=
  (countable fs path).map Csv.countColumns

end BuiltIn

def Engine.builtIn (network : Network) : Engine where
  validate fs source options output reject :=
    let (result, fs) := BuiltIn.validate network fs source options output reject
    (result.mapError EngineFault.message, fs)
  rowCount fs path := (BuiltIn.rowCount fs path).mapError EngineFault.message
  columnCount fs path := (BuiltIn.columnCount fs path).mapError EngineFault.message

end TidyCsv
