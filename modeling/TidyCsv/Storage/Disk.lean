import TidyCsv.Storage.FileSystem

/-!
# Disks

A file that can be made may still not take what is written to it: a disk can be full, or broken.
Where a disk is flawed, writing a file ends in a fault, and the file holds the first bytes only.
-/

namespace TidyCsv

/-- A location at which writing ends in a fault, and how many bytes get there before it does. -/
structure Flaw where
  location : Location
  reach : Nat
  fault : IoFault
deriving DecidableEq, Repr

structure Disk where
  flaws : List Flaw
deriving DecidableEq, Repr

/-- The file system after the file at a location is cut to its first bytes. -/
def FileSystem.cut (fs : FileSystem) (location : Location) (count : Nat) : FileSystem :=
  match fs.entryAt? location with
  | some (.file content) => fs.put location (.file (content.take count))
  | _ => fs

namespace Disk

/-- A disk that takes whatever is written. -/
def sound : Disk := ⟨[]⟩

def flawAt? (disk : Disk) (location : Location) : Option Flaw :=
  disk.flaws.find? (·.location == location)

/-- What a disk makes of a file that is written to it. -/
def hold (disk : Disk) (p : Path) (fs : FileSystem) : Except IoFault Unit × FileSystem :=
  match disk.flawAt? (p.location fs.home) with
  | none => (.ok (), fs)
  | some flaw => (.error flaw.fault, fs.cut (p.location fs.home) flaw.reach)

end Disk

end TidyCsv
