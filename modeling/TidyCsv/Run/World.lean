import TidyCsv.Failure
import TidyCsv.Report.Event
import TidyCsv.Storage.Disk
import TidyCsv.Storage.TempFiles

/-!
# The state of a run

Everything that a run reads or changes is one value, so that a run is a function. What was changed
before a failure stays changed.
-/

namespace TidyCsv

inductive Stdin where
  /-- Nothing is piped in. -/
  | terminal
  | piped (bytes : Bytes)
  /-- Reading what is piped in ends in a fault. -/
  | broken (fault : IoFault)
deriving DecidableEq, Repr

structure World where
  files : FileSystem
  stdin : Stdin
  stdout : Bytes
  events : List Event
  temps : TempFiles
  disk : Disk := .sound
deriving DecidableEq, Repr

def World.initial (files : FileSystem) (stdin : Stdin) (disk : Disk := .sound) : World :=
  ⟨files, stdin, [], [], .empty, disk⟩

/-- A part of a run: it gives a result or fails, and changes the world in either case. -/
abbrev Run := ExceptT Failure (StateM World)

namespace Run

/-- The result of a part of a run, and the world after it. -/
def on {α : Type} (part : Run α) (world : World) : Except Failure α × World := StateT.run part world

def report (event : Event) : Run Unit :=
  modify fun world => { world with events := world.events ++ [event] }

def reportAll (events : List Event) : Run Unit :=
  modify fun world => { world with events := world.events ++ events }

def register (path : Path) : Run Unit :=
  modify fun world => { world with temps := world.temps.register path }

/-- The file system as it is now. -/
def files : Run FileSystem := World.files <$> get

def setFiles (files : FileSystem) : Run Unit := modify fun world => { world with files := files }

/-- The result of an operation on files, a fault of which is a failure of the run. -/
def ofIo {α : Type} (result : Except IoFault α) : Run α :=
  match result with
  | .ok a => pure a
  | .error fault => throw (.io fault)

/-- Goes on with the files after one of them was written, as far as the disk holds it. -/
def keep (asFailure : IoFault → Failure) (path : Path) (files : FileSystem) : Run Unit := do
  let (held, files) := (← get).disk.hold path files
  setFiles files
  match held with
  | .ok () => pure ()
  | .error fault => throw (asFailure fault)

/-- Makes an empty file, or empties one. -/
def create (path : Path) : Run Unit := do
  setFiles (← ofIo ((← files).create path))

def write (path : Path) (content : Bytes) : Run Unit := do
  keep .io path (← ofIo ((← files).write path content))

/-- Runs a part, and tidies up afterwards whatever comes of it. -/
def tidying {α : Type} (reject : Path) (part : Run α) : Run α := fun world =>
  let (result, world) := part.on world
  (result, { world with files := world.files.tidy world.temps (some reject), temps := .empty })

end Run

end TidyCsv
