import TidyCsv.Bytes
import TidyCsv.Storage.Path
import TidyCsv.Text.Utf8

/-!
# File systems

A file system is a finite table of directories and files. Every operation is a function that gives
the new file system, or the fault that the operation meets.
-/

namespace TidyCsv

inductive IoFault where
  | notFound
  | notADirectory
  | isADirectory
  | alreadyExists
  | nameTooLong
  | nulInName
  /-- A fault of another kind with its own wording. -/
  | other (text : String)
deriving DecidableEq, Repr

def IoFault.message : IoFault → String
  | notFound => "No such file or directory (os error 2)"
  | notADirectory => "Not a directory (os error 20)"
  | isADirectory => "Is a directory (os error 21)"
  | alreadyExists => "File exists (os error 17)"
  | nameTooLong => "File name too long (os error 36)"
  | nulInName => "file name contained an unexpected NUL byte"
  | other text => text

/-- The names on the way from the root to a directory or file. -/
abbrev Location := List String

/-- The location of a path, seen from a directory, if there are no links on the way. -/
def Path.location (home : Location) (p : Path) : Location :=
  p.components.foldl
    (fun location component =>
      match component with
      | .root => []
      | .current => location
      | .parent => location.dropLast
      | .named name => location ++ [name])
    home

inductive Entry where
  | directory
  | file (content : Bytes)
deriving DecidableEq, Repr

/-- The content of an entry that has been opened. -/
def Entry.read : Entry → Except IoFault Bytes
  | directory => .error .isADirectory
  | file content => .ok content

/-- Directories and files, and the directory that relative paths start from. The root is always a
directory. -/
structure FileSystem where
  home : Location
  entries : List (Location × Entry)
deriving DecidableEq, Repr

namespace FileSystem

def entryAt? (fs : FileSystem) (location : Location) : Option Entry :=
  if location.isEmpty then some .directory else fs.entries.lookup location

def put (fs : FileSystem) (location : Location) (entry : Entry) : FileSystem :=
  { fs with
    entries := (location, entry) :: fs.entries.filter fun (other, _) => other != location }

def erase (fs : FileSystem) (location : Location) : FileSystem :=
  { fs with entries := fs.entries.filter fun (other, _) => other != location }

/-- An empty file system in which the home directory and those above it exist. -/
def empty (home : Location) : FileSystem :=
  ⟨home, (List.range home.length).map fun n => (home.take (n + 1), .directory)⟩

/-! ## Walking -/

/-- Where a path leads: to a directory that needs no name, or to a name in a directory. A slash
after the name asks for a directory. -/
inductive Target where
  | directory (location : Location)
  | member (parent : Location) (name : String) (slash : Bool)
deriving DecidableEq, Repr

def longestName : Nat := 255

def longestPath : Nat := 4095

/-- Walks from a directory along pieces of a path. -/
def walk (fs : FileSystem) (location : Location) : List String → Except IoFault Target
  | [] => .ok (.directory location)
  | piece :: rest =>
    if piece = "" ∨ piece = "." then fs.walk location rest
    else if piece = ".." then fs.walk location.dropLast rest
    else if longestName < (Utf8.ofString piece).length then .error .nameTooLong
    else if rest.all (· == "") then .ok (.member location piece (!rest.isEmpty))
    else
      match fs.entryAt? (location ++ [piece]) with
      | some .directory => fs.walk (location ++ [piece]) rest
      | some (.file _) => .error .notADirectory
      | none => .error .notFound

def target (fs : FileSystem) (p : Path) : Except IoFault Target :=
  if p.text = "" then .error .notFound
  else if p.text.toList.contains '\x00' then .error .nulInName
  else if longestPath < (Utf8.ofString p.text).length then .error .nameTooLong
  else
    let pieces := (Text.splitOn '/' p.text.toList).map String.ofList
    fs.walk (if p.isAbsolute then [] else fs.home) pieces

/-- What is found at the end of a path. -/
def open? (fs : FileSystem) (p : Path) : Except IoFault Entry :=
  match fs.target p with
  | .error fault => .error fault
  | .ok (.directory _) => .ok .directory
  | .ok (.member parent name slash) =>
    match fs.entryAt? (parent ++ [name]) with
    | none => .error .notFound
    | some (.file content) => if slash then .error .notADirectory else .ok (.file content)
    | some .directory => .ok .directory

/-! ## Questions -/

/-- Whether a path leads to something. -/
def contains (fs : FileSystem) (p : Path) : Bool := (fs.open? p).isOk

def isFile (fs : FileSystem) (p : Path) : Bool :=
  match fs.open? p with
  | .ok (.file _) => true
  | _ => false

def isDirectory (fs : FileSystem) (p : Path) : Bool :=
  match fs.open? p with
  | .ok .directory => true
  | _ => false

def read (fs : FileSystem) (p : Path) : Except IoFault Bytes :=
  match fs.open? p with
  | .ok entry => entry.read
  | .error fault => .error fault

/-- The first bytes of a file. Nothing has to be read to give none. -/
def readFirst (fs : FileSystem) (p : Path) (count : Nat) : Except IoFault Bytes :=
  match fs.open? p with
  | .ok entry => if count = 0 then .ok [] else entry.read.map (·.take count)
  | .error fault => .error fault

/-- The size that is given for a directory. -/
def directorySize : Nat := 4096

/-- The size of what a path leads to. -/
def size? (fs : FileSystem) (p : Path) : Option Nat :=
  match fs.open? p with
  | .ok (.file content) => some content.length
  | .ok .directory => some directorySize
  | .error _ => none

/-! ## Changes -/

/-- Writes a file, which is made if there is none and emptied if there is one. -/
def write (fs : FileSystem) (p : Path) (content : Bytes) : Except IoFault FileSystem :=
  match fs.target p with
  | .error fault => .error fault
  | .ok (.directory _) => .error .isADirectory
  | .ok (.member parent name slash) =>
    if slash ∨ fs.entryAt? (parent ++ [name]) = some .directory then .error .isADirectory
    else .ok (fs.put (parent ++ [name]) (.file content))

/-- Makes an empty file, or empties one. -/
def create (fs : FileSystem) (p : Path) : Except IoFault FileSystem := fs.write p []

def remove (fs : FileSystem) (p : Path) : Except IoFault FileSystem :=
  match fs.target p with
  | .error fault => .error fault
  | .ok (.directory _) => .error .isADirectory
  | .ok (.member parent name slash) =>
    match fs.entryAt? (parent ++ [name]) with
    | none => .error .notFound
    | some .directory => .error .isADirectory
    | some (.file _) =>
      if slash then .error .notADirectory else .ok (fs.erase (parent ++ [name]))

/-- Removes a file if there is one, and tells whether there was. -/
def removeIfExists (fs : FileSystem) (p : Path) : Except IoFault (Bool × FileSystem) :=
  match fs.remove p with
  | .ok fs => .ok (true, fs)
  | .error .notFound => .ok (false, fs)
  | .error fault => .error fault

def makeDirectory (fs : FileSystem) (p : Path) : Except IoFault FileSystem :=
  match fs.target p with
  | .error fault => .error fault
  | .ok (.directory _) => .error .alreadyExists
  | .ok (.member parent name _) =>
    match fs.entryAt? (parent ++ [name]) with
    | none => .ok (fs.put (parent ++ [name]) .directory)
    | some _ => .error .alreadyExists

/-- Makes a directory unless there is one. -/
def ensureDirectory (fs : FileSystem) (p : Path) : Except IoFault FileSystem :=
  match fs.makeDirectory p with
  | .ok fs => .ok fs
  | .error fault => if fs.isDirectory p then .ok fs else .error fault

/-- Makes a directory and those above it, as far as they are missing; `fuel` bounds their number.
What has been made stays if a later one cannot be made. -/
def makeDirectoriesFrom (fs : FileSystem) (fuel : Nat) (p : Path) :
    Except IoFault Unit × FileSystem :=
  match fuel with
  | 0 => (.error .notFound, fs)
  | fuel + 1 =>
    if p.text = "" then (.ok (), fs)
    else
      match fs.ensureDirectory p with
      | .ok fs => (.ok (), fs)
      | .error .notFound =>
        match p.parent? with
        | none => (.error (.other "failed to create whole tree"), fs)
        | some parent =>
          match fs.makeDirectoriesFrom fuel parent with
          | (.error fault, fs) => (.error fault, fs)
          | (.ok (), fs) =>
            match fs.ensureDirectory p with
            | .ok fs => (.ok (), fs)
            | .error fault => (.error fault, fs)
      | .error fault => (.error fault, fs)

/-- Makes a directory and those above it, as far as they are missing. -/
def makeDirectories (fs : FileSystem) (p : Path) : Except IoFault Unit × FileSystem :=
  fs.makeDirectoriesFrom (p.text.length + 1) p

end FileSystem

end TidyCsv
