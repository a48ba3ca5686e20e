import TidyCsv.Storage.FileSystem

/-!
# Changes between file systems

The steps that make one file system of another, one for each entry that differs.
-/

namespace TidyCsv

/-- A step from one file system to another. -/
inductive Change where
  | makeDirectory (location : Location)
  | write (location : Location) (content : Bytes)
  | erase (location : Location)
deriving DecidableEq, Repr

/-- The step that puts an entry at a location. -/
def Change.ofEntry (location : Location) : Entry → Change
  | .directory => makeDirectory location
  | .file content => write location content

def Change.apply (change : Change) (fs : FileSystem) : FileSystem :=
  match change with
  | makeDirectory location => fs.put location .directory
  | write location content => fs.put location (.file content)
  | erase location => fs.erase location

namespace FileSystem

/-- The steps to a file system from an earlier state of it. What was put first comes first, so that
directories precede what they contain. -/
def changesSince (fs before : FileSystem) : List Change :=
  let put := fs.entries.reverse.filterMap fun (location, entry) =>
    if before.entryAt? location = some entry then none else some (.ofEntry location entry)
  let erased := before.entries.filterMap fun (location, _) =>
    if (fs.entryAt? location).isNone then some (.erase location) else none
  put ++ erased

end FileSystem

end TidyCsv
