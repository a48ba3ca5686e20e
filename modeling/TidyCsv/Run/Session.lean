import TidyCsv.Input.Resolution
import TidyCsv.Report.Magnitude
import TidyCsv.Run.Outcome
import TidyCsv.Run.Policy
import TidyCsv.Run.FinalForm

/-!
# A run from its input to its output

A run checks its arguments, makes a source of its input, validates it, decides, and writes the
output. A failure is shown once, and intermediate files are removed whatever happens.
-/

namespace TidyCsv

inductive ExitStatus where
  | success
  | failure
deriving DecidableEq, Repr

def ExitStatus.code : ExitStatus → Nat
  | success => 0
  | failure => 1

/-- What a run works with, apart from the world. -/
structure Session where
  engine : Engine
  /-- Where intermediate files go, if that is prescribed. -/
  tempDir : Option Path
  /-- Where intermediate files go if the output is no file. -/
  systemTempDir : Path

namespace Session

/-! ## Where files go -/

/-- The directory of intermediate files, unless it is prescribed: that of the output. -/
def defaultTempDir (systemTempDir : Path) (output : Output) : Path :=
  match output.path?.bind Path.parent? with
  | some parent => if parent.text = "" then ⟨"."⟩ else parent
  | none => systemTempDir

/-- The file of rejected rows: beside an output file, and else among the intermediate files. -/
def rejectPath (settings : Settings) (tempDir : Path) (baseName : String) : Path :=
  let name : Path := ⟨baseName ++ "_reject_errors.csv"⟩
  match settings.output.path?.bind Path.parent? with
  | some parent =>
    if settings.checkOnly then tempDir.join name
    else if parent.text = "" then name
    else parent.join name
  | none => tempDir.join name

/-- The file that the engine writes conforming rows to. -/
def stagedPath (tempDir : Path) (baseName : String) : Path :=
  Resolution.derivedPath tempDir baseName "_staged.csv"

def directory (session : Session) (settings : Settings) : Path :=
  session.tempDir.getD (defaultTempDir session.systemTempDir settings.output)

/-! ## Checks -/

/-- An input file has to exist and to be a file. -/
def checkInput (fs : FileSystem) (reference : InputReference) : Except Failure Unit :=
  match reference.path? with
  | none => .ok ()
  | some path =>
    if !fs.contains path then .error (.inputNotFound path.text)
    else if !fs.isFile path then .error (.notAFile path)
    else .ok ()

/-- Standard input has to be piped in if it is the input. -/
def checkStdin (stdin : Stdin) (reference : InputReference) : Except Failure Unit :=
  if reference = .stdin ∧ stdin = .terminal then .error .stdinNotPiped else .ok ()

/-- An output file must not exist unless it may be replaced. -/
def checkOutput (fs : FileSystem) (output : Output) (force : Bool) : Except Failure Unit :=
  match output with
  | .file path => if fs.contains path && !force then .error (.outputExists path) else .ok ()
  | .stdout => .ok ()

def ensure (result : Except Failure Unit) : Run Unit :=
  match result with
  | .ok () => pure ()
  | .error failure => throw failure

/-- Makes the directory of an output file if it is missing. -/
def makeOutputDir (output : Output) : Run Unit := do
  match output.path?.bind Path.parent? with
  | some parent =>
    let fs ← Run.files
    if parent.text = "" ∨ fs.contains parent then pure ()
    else
      let (result, fs) := fs.makeDirectories parent
      Run.setFiles fs
      Run.ofIo result
  | none => pure ()

/-- Removes a file of rejected rows that an earlier run left. -/
def removeStale (reject : Path) : Run Unit := do
  let (_, fs) ← Run.ofIo ((← Run.files).removeIfExists reject)
  Run.setFiles fs

/-! ## Writing -/

/-- Writes to the output, which for a file means replacing its content. -/
def emit (output : Output) (content : Bytes) : Run Unit :=
  match output with
  | .file path => Run.write path content
  | .stdout => modify fun world => { world with stdout := world.stdout ++ content }

/-- Opens the output, which empties a file. -/
def openOutput (output : Output) (force : Bool) : Run Unit := do
  ensure (checkOutput (← Run.files) output force)
  match output with
  | .file path => Run.create path
  | .stdout => pure ()

/-- Writes the rows that the engine kept to the output, in their final form. -/
def writeOutput (settings : Settings) (staged : Path) : Run FinalForm.Stats := do
  openOutput settings.output settings.force
  let content ← Run.ofIo ((← Run.files).read staged)
  let (result, written) := FinalForm.write content settings.delimiter (!settings.keepNames)
  emit settings.output written
  match result with
  | .ok stats => pure stats
  | .error fault => throw (.io (.other fault.message))

/-! ## The summary -/

/-- A row of the summary that has a value only in some runs. -/
def optionalRow (label : String) (value : Option String) : List (String × String) :=
  (value.map fun value => (label, value)).toList

/-- The number an engine counts, or the one known if it fails. -/
def countOr (result : Except String Nat) (known : Nat) : String :=
  match result with
  | .ok n => toString n
  | .error _ => toString known

/-- What the user is told at the end of a run that wrote its output. -/
def summaryRows (engine : Engine) (fs : FileSystem) (reference : InputReference)
    (resolved : Resolved) (settings : Settings) (outcome : Outcome) (stats : FinalForm.Stats)
    (staged reject : Path) : List (String × String) :=
  let size (path : Option Path) : Option String := (path.bind fs.size?).map Magnitude.render
  [("Input", reference.displayName), ("Encoding", resolved.encoding)]
    ++ optionalRow "Mojibake repaired"
      (settings.mojibakeSample.map fun _ => if resolved.repaired then "yes" else "no")
    ++ [("Delimiter", Delimiter.display settings.delimiter),
      ("Column names",
        if settings.keepNames then "kept"
        else "normalized (" ++ toString stats.renamed ++ " renamed)"),
      ("Rows", countOr (engine.rowCount fs staged) stats.rows),
      ("Columns", countOr (engine.columnCount fs staged) stats.columns)]
    ++ optionalRow "Input size" (size resolved.localInput)
    ++ [("Output", settings.output.describe)]
    ++ optionalRow "Output size" (size settings.output.path?)
    ++ (if outcome.hasErrors then
        [("Rejected rows", toString outcome.rejectedRows), ("Reject file", reject.text)]
      else [])

/-! ## The run -/

def finish (session : Session) (reference : InputReference) (settings : Settings)
    (resolved : Resolved) (outcome : Outcome) (staged reject : Path) : Run Unit := do
  let stats ← writeOutput settings staged
  Run.report (.summary (summaryRows session.engine (← Run.files) reference resolved settings
    outcome stats staged reject))

/-- The part of a run that may leave intermediate files. -/
def body (session : Session) (reference : InputReference) (settings : Settings)
    (tempDir : Path) (baseName : String) (reject : Path) : Run Unit := do
  let staged := stagedPath tempDir baseName
  Run.register staged
  let resolved ← Resolution.resolve reference settings tempDir baseName
  let outcome ← Validation.run session.engine resolved.source { skipRows := settings.skipRows }
    staged reject reference.isRemote reference.displayName
  let (decision, events) := Policy.apply outcome settings reject
  Run.reportAll events
  match decision with
  | .halt true => pure ()
  | .halt false => throw (.rowsRejected settings.strict outcome.rejectedRows)
  | .proceed => finish session reference settings resolved outcome staged reject
  | .proceedWithWarnings failAfter =>
    finish session reference settings resolved outcome staged reject
    if failAfter then throw (.rowsRejected true outcome.rejectedRows)

/-- Checks the arguments of a run, and gives its settings. -/
def prepare (reference : InputReference) (options : Options) (baseName : String) :
    Run Settings := do
  let world ← get
  ensure (checkInput world.files reference)
  ensure (checkStdin world.stdin reference)
  match options.settings (.ofLocation world.files.home) baseName with
  | .error failure => throw failure
  | .ok settings =>
    if settings.checkOnly then pure ()
    else ensure (checkOutput world.files settings.output settings.force)
    pure settings

/-- A whole run, failures of which are not shown yet. -/
def execute (session : Session) (argument : String) (options : Options) : Run Unit := do
  let reference := InputReference.ofArgument argument
  let baseName := reference.baseName
  let settings ← prepare reference options baseName
  if settings.checkOnly then pure () else makeOutputDir settings.output
  let tempDir := session.directory settings
  let reject := rejectPath settings tempDir baseName
  removeStale reject
  Run.tidying reject (body session reference settings tempDir baseName reject)

/-- Shows a failure, unless it has been shown. -/
def failureEvents (failure : Failure) : List Event :=
  if failure.alreadyReported then []
  else [.panel .error failure.message (failure.hint?.getD "")]

/-- A whole run: its status, and the world after it. -/
def run (session : Session) (argument : String) (options : Options) (world : World) :
    ExitStatus × World :=
  match (session.execute argument options).on world with
  | (.ok (), world) => (.success, world)
  | (.error failure, world) =>
    (.failure, { world with events := world.events ++ failureEvents failure })

end Session

end TidyCsv
