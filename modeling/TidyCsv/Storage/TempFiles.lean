import TidyCsv.Csv.Reader
import TidyCsv.Storage.FileSystem

/-!
# Files that a run leaves behind

A run registers every intermediate file before it writes it. At its end the registered files are
removed, and so is a file of rejected rows that holds none.
-/

namespace TidyCsv

/-- The number of records in a file. A fault met while reading keeps its wording only. -/
def FileSystem.countRecords (fs : FileSystem) (p : Path) : Except IoFault Nat :=
  match fs.open? p with
  | .error fault => .error fault
  | .ok entry =>
    match entry.read with
    | .error fault => .error (.other fault.message)
    | .ok content => .ok (Csv.countRecords content)

/-- The file system after a file is removed. A file that cannot be removed stays. -/
def FileSystem.discard (fs : FileSystem) (p : Path) : FileSystem :=
  match fs.removeIfExists p with
  | .ok (_, fs) => fs
  | .error _ => fs

/-- The registered paths, oldest first. -/
structure TempFiles where
  paths : List Path
deriving DecidableEq, Repr

namespace TempFiles

def empty : TempFiles := ⟨[]⟩

/-- Registers a path unless it is registered. -/
def register (temps : TempFiles) (p : Path) : TempFiles :=
  if temps.paths.any (·.same p) then temps else ⟨temps.paths ++ [p]⟩

def size (temps : TempFiles) : Nat := temps.paths.length

/-- The file system after the registered files are removed. -/
def sweep (temps : TempFiles) (fs : FileSystem) : FileSystem :=
  temps.paths.foldl FileSystem.discard fs

end TempFiles

/-- The file system after a file of rejected rows is removed that holds its header at most. -/
def FileSystem.dropEmptyReject (fs : FileSystem) (reject : Path) : FileSystem :=
  if fs.contains reject then
    match fs.countRecords reject with
    | .ok n => if n ≤ 1 then fs.discard reject else fs
    | .error _ => fs
  else fs

/-- The file system at the end of a run: without registered files and without an empty file of
rejected rows. -/
def FileSystem.tidy (fs : FileSystem) (temps : TempFiles) (reject : Option Path) : FileSystem :=
  let fs := temps.sweep fs
  match reject with
  | some reject => fs.dropEmptyReject reject
  | none => fs

end TidyCsv
