import TidyCsv.Proofs.Run.Silence

/-! # A run keeps its input

No part of a run edits the file that is its input, since none of the paths that a run derives leads
there, and the output is refused if it would without being asked to replace a file. -/

namespace TidyCsv

open FileSystem

namespace Run

/-- The file at a location is as it was, and so are the directories; no registered path leads to the
location. -/
structure Keeps (before : FileSystem) (location : Location) (world : World) : Prop where
  directories : KeepsDirectories before world.files
  entry_eq : world.files.entryAt? location = before.entryAt? location
  temps : ∀ p ∈ world.temps.paths, p.location before.home ≠ location

theorem Keeps.read {before : FileSystem} {location : Location} {world : World} {path : Path}
    {content : Bytes} (h : Keeps before location world)
    (hlocation : before.fileAt? path = some location)
    (hfile : before.entryAt? location = some (.file content)) :
    world.files.read path = .ok content :=
  read_eq_ok_iff.mpr ⟨location, h.directories.fileAt? hlocation, by rw [h.entry_eq, hfile]⟩

theorem Keeps.initial (files : FileSystem) (location : Location) (stdin : Stdin) (disk : Disk) :
    Keeps files location (.initial files stdin disk) :=
  ⟨.refl files, rfl, fun p hp => by simp [World.initial, TempFiles.empty] at hp⟩

/-- A part keeps a file that was kept before it. -/
def Maintains {α : Type} (before : FileSystem) (location : Location) (part : Run α) : Prop :=
  ∀ world, Keeps before location world → Keeps before location (part.on world).2

namespace Maintains

variable {α β : Type} {before : FileSystem} {location : Location} {part : Run α}

theorem of_edits (h : EditsOnly before.home (· ≠ location) part) :
    Maintains before location part := by
  intro world hworld
  have hhome : world.files.home = before.home := hworld.directories.home_eq
  have hedits := h world hhome
  refine ⟨hworld.directories.trans hedits.files.keepsDirectories, ?_, fun p hp => ?_⟩
  · exact (hedits.files.entry_eq location (by simp)).trans hworld.entry_eq
  · rcases hedits.temps p hp with hold | hnew
    · exact hworld.temps p hold
    · rwa [hhome] at hnew

theorem bind {next : α → Run β} (hpart : Maintains before location part)
    (hnext : ∀ a, Maintains before location (next a)) :
    Maintains before location (part >>= next) := by
  intro world hworld
  have hfirst := hpart world hworld
  exact on_bind_snd (P := Keeps before location) hfirst fun a => hnext a _ hfirst

theorem tidying {reject : Path} (hpart : Maintains before location part)
    (hreject : reject.location before.home ≠ location) :
    Maintains before location (Run.tidying reject part) := by
  intro world hworld
  have hafter := hpart world hworld
  have hhome : (part.on world).2.files.home = before.home := hafter.directories.home_eq
  have hedits : EditsFiles (· ≠ location) (part.on world).2.files
      ((part.on world).2.files.tidy (part.on world).2.temps (some reject)) := by
    refine .tidy (fun p hp => ?_) ?_
    · rw [hhome]
      exact hafter.temps p hp
    · rwa [hhome]
  rw [on_tidying]
  refine ⟨hafter.directories.trans hedits.keepsDirectories, ?_, fun p hp => ?_⟩
  · exact (hedits.entry_eq location (by simp)).trans hafter.entry_eq
  · simp [TempFiles.empty] at hp

end Maintains

end Run

open Run

theorem Options.output_of_settings {options : Options} {home : Path} {baseName : String}
    {settings : Settings} (h : options.settings home baseName = .ok settings) :
    settings.output = options.target home baseName := by
  unfold Options.settings at h
  split at h
  · simp at h
  · obtain rfl := Except.ok.inj h
    rfl

theorem Options.force_of_settings {options : Options} {home : Path} {baseName : String}
    {settings : Settings} (h : options.settings home baseName = .ok settings) :
    settings.force = options.force := by
  unfold Options.settings at h
  split at h
  · simp at h
  · obtain rfl := Except.ok.inj h
    rfl

namespace Session

variable {before : FileSystem} {location : Location} {content : Bytes}

/-! ## The output -/

theorem makeOutputDir_adds (output : Output) (world : World) :
    AddsDirectories world.files ((makeOutputDir output).on world).2.files := by
  unfold makeOutputDir
  split
  · next parent _ =>
      rw [on_files_bind]
      split
      · exact .refl _
      · have hadds := AddsDirectories.makeDirectories world.files parent
        rcases hresult : world.files.makeDirectories parent with ⟨result, fs⟩
        rw [hresult] at hadds
        simp only [on_setFiles_bind]
        cases result <;> exact hadds
  · exact .refl _

theorem makeOutputDir_maintains (hfile : before.entryAt? location = some (.file content))
    (output : Output) : Maintains before location (makeOutputDir output) := by
  intro world hworld
  have hadds := makeOutputDir_adds output world
  have htemps : ((makeOutputDir output).on world).2.temps = world.temps :=
    (makeOutputDir_silent (fun _ _ => rfl) output).view_eq world
  refine ⟨hworld.directories.trans hadds.keepsDirectories, ?_, ?_⟩
  · rw [hfile]
    exact hadds.entry_of_some (hworld.entry_eq.trans hfile)
  · rw [htemps]
    exact hworld.temps

/-- A file where the output would go is refused, or cannot be written through the path. -/
theorem openOutput_of_exists {world : World} {path : Path}
    (h : world.files.entryAt? (path.location world.files.home) = some (.file content)) :
    ∃ failure, (openOutput (.file path) false).on world = (.error failure, world) := by
  by_cases hcontains : world.files.contains path = true
  · refine ⟨.outputExists path, ?_⟩
    simp [openOutput, checkOutput, ensure, hcontains, on_bind]
  · have hcreate : ∃ fault, world.files.create path = .error fault := by
      cases hresult : world.files.create path with
      | error fault => exact ⟨fault, rfl⟩
      | ok fs =>
          obtain ⟨found, hwritable, -⟩ := write_eq_ok_iff.mp hresult
          have hlocation := location_of_fileAt? hwritable.fileAt
          rw [hlocation] at h
          have hopen := open?_eq_ok_file_iff.mpr ⟨found, hwritable.fileAt, h⟩
          simp [contains, hopen, Except.isOk, Except.toBool] at hcontains
    obtain ⟨fault, hfault⟩ := hcreate
    refine ⟨.io fault, ?_⟩
    have hcheck : ensure (checkOutput world.files (.file path) false) = pure () := by
      simp [checkOutput, ensure, hcontains]
    simp only [openOutput, on_files_bind, hcheck, pure_bind]
    rw [on_create, hfault]

theorem writeOutput_maintains (hfile : before.entryAt? location = some (.file content))
    {settings : Settings} (houtput : ∀ path ∈ settings.output.path?,
      path.location before.home = location → settings.force = false) (staged : Path) :
    Maintains before location (writeOutput settings staged) := by
  by_cases hsame : ∃ path ∈ settings.output.path?, path.location before.home = location
  · obtain ⟨path, hpath, hlocation⟩ := hsame
    have hforce := houtput path hpath hlocation
    have hsettings : settings.output = .file path := by
      cases hout : settings.output with
      | stdout => simp [hout, Output.path?] at hpath
      | file other =>
          obtain rfl : other = path := by simpa [hout, Output.path?] using hpath
          rfl
    intro world hworld
    have hentry : world.files.entryAt? (path.location world.files.home) =
        some (.file content) := by
      rw [hworld.directories.home_eq, hlocation, hworld.entry_eq, hfile]
    obtain ⟨failure, hfailure⟩ := openOutput_of_exists hentry
    rw [writeOutput, hsettings, hforce, on_bind_of_error hfailure]
    exact hworld
  · refine .of_edits (writeOutput_edits (fun path hpath hlocation => ?_) staged)
    exact hsame ⟨path, hpath, hlocation⟩

/-! ## The paths that a run derives -/

theorem location_derivedPath (home : Location) (reference : InputReference) (directory : Path)
    {ending : String} (h : ending ∈ InputReference.ownEndings) :
    (Resolution.derivedPath directory reference.baseName ending).location home =
      directory.location home ++ [reference.baseName ++ ending] :=
  Path.location_join_name home directory (reference.isPlainName_own h)

/-- The file of rejected rows is in some directory, under the name made for it. -/
theorem location_rejectPath (home : Location) (reference : InputReference) (settings : Settings)
    (tempDir : Path) :
    ∃ directory, (rejectPath settings tempDir reference.baseName).location home =
      directory ++ [reference.baseName ++ "_reject_errors.csv"] := by
  have hname : Path.IsPlainName (reference.baseName ++ "_reject_errors.csv") :=
    reference.isPlainName_own (by simp [InputReference.ownEndings])
  simp only [rejectPath]
  split
  · next parent _ =>
      split
      · exact ⟨_, Path.location_join_name home tempDir hname⟩
      · split
        · exact ⟨_, Path.location_name home hname⟩
        · exact ⟨_, Path.location_join_name home parent hname⟩
  · exact ⟨_, Path.location_join_name home tempDir hname⟩

variable {reference : InputReference} {path : Path}

theorem ownTouched_ne (hpath : reference.path? = some path)
    (hfile : before.fileAt? path = some location) (directory : Path) :
    Resolution.OwnTouched before.home (· ≠ location) directory reference.baseName := by
  intro ending hending
  rw [location_derivedPath before.home reference directory hending]
  exact InputReference.location_ne_own hpath hfile hending _

theorem rejectPath_ne (hpath : reference.path? = some path)
    (hfile : before.fileAt? path = some location) (settings : Settings) (tempDir : Path) :
    (rejectPath settings tempDir reference.baseName).location before.home ≠ location := by
  obtain ⟨directory, hlocation⟩ :=
    location_rejectPath before.home reference settings tempDir
  rw [hlocation]
  exact InputReference.location_ne_own hpath hfile (by simp [InputReference.ownEndings]) directory

/-- None of the paths that a run derives from its input leads to the input. -/
theorem derivedPaths_ne (hpath : reference.path? = some path)
    (hfile : before.fileAt? path = some location) (session : Session) (settings : Settings) :
    ∀ p ∈ session.derivedPaths settings reference.baseName, p.location before.home ≠ location := by
  have hown := ownTouched_ne hpath hfile (session.directory settings)
  have hreject := rejectPath_ne hpath hfile settings (session.directory settings)
  have hstaged := hown "_staged.csv" (by simp [InputReference.ownEndings])
  have hstdin := hown "_stdin.csv" (by simp [InputReference.ownEndings])
  have hutf8 := hown "_utf8.csv" (by simp [InputReference.ownEndings])
  have hfixed := hown "_fixed.csv" (by simp [InputReference.ownEndings])
  simp only [derivedPaths, stagedPath, List.forall_mem_cons]
  exact ⟨hreject, hstaged, hstdin, hutf8, hfixed, fun p hp => absurd hp List.not_mem_nil⟩

/-! ## The run -/

/-- The output may be written only where it does not replace the file without being asked to. -/
def MayWrite (before : FileSystem) (location : Location) (settings : Settings) : Prop :=
  settings.checkOnly = false → ∀ path ∈ settings.output.path?,
    path.location before.home = location → settings.force = false

theorem finish_maintains (hfile : before.entryAt? location = some (.file content))
    {settings : Settings} (houtput : ∀ path ∈ settings.output.path?,
      path.location before.home = location → settings.force = false) (session : Session)
    (reference : InputReference) (resolved : Resolved) (outcome : Outcome) (staged reject : Path) :
    Maintains before location
      (finish session reference settings resolved outcome staged reject) := by
  unfold finish
  refine .bind (writeOutput_maintains hfile houtput staged) fun stats => .of_edits ?_
  exact .files_bind fun world hhome => EditsOnly.report _ world hhome

theorem settle_maintains (hfile : before.entryAt? location = some (.file content))
    {settings : Settings} (houtput : MayWrite before location settings) (session : Session)
    (reference : InputReference) (resolved : Resolved) (outcome : Outcome) :
    Maintains before location (session.settle settings reference resolved outcome) := by
  have hwrites : (Policy.decide outcome settings).writes = true → ∀ path ∈ settings.output.path?,
      path.location before.home = location → settings.force = false :=
    fun hwrites => houtput (Policy.checkOnly_of_writes hwrites)
  unfold settle
  cases hdecide : Policy.decide outcome settings with
  | proceed =>
      rw [hdecide] at hwrites
      exact finish_maintains hfile (hwrites rfl) session reference resolved outcome _ _
  | proceedWithWarnings failAfter =>
      rw [hdecide] at hwrites
      refine .bind
        (finish_maintains hfile (hwrites rfl) session reference resolved outcome _ _) fun _ => ?_
      split
      · exact .of_edits (.throw _)
      · exact .of_edits (.pure _)
  | halt success =>
      cases success with
      | true => exact .of_edits (.pure _)
      | false => exact .of_edits (.throw _)

theorem getReady_maintains (hfile : before.entryAt? location = some (.file content))
    {session : Session} {argument : String} {options : Options}
    (hreject : ∀ settings, options.settings (.ofLocation before.home)
      (InputReference.ofArgument argument).baseName = .ok settings →
        (session.reject settings (.ofArgument argument)).location before.home ≠ location) :
    Maintains before location (session.getReady argument options) := by
  intro world hworld
  rcases getReady_cases session argument options world with
    ⟨failure, hrefused⟩ | ⟨settings, hsettings, hready⟩
  · rw [hrefused]
    exact hworld
  · rw [hworld.directories.home_eq] at hsettings
    rw [hready]
    have hroom : Maintains before location
        (if settings.checkOnly then pure () else makeOutputDir settings.output) := by
      split
      · exact .of_edits (.pure _)
      · exact makeOutputDir_maintains hfile settings.output
    have hstale : Maintains before location (removeStale
        (session.reject settings (.ofArgument argument)) >>= fun _ =>
          (pure settings : Run Settings)) :=
      .of_edits (.bind (removeStale_edits (hreject settings hsettings)) fun _ => .pure _)
    exact hroom.bind (fun _ => hstale) world hworld

/-- Where none of the paths that a run derives leads to a file, tidying up keeps the file, too. -/
theorem guarded_maintains {session : Session} (hengine : session.engine.EditsOnlyItsFiles)
    (hfile : before.entryAt? location = some (.file content)) {settings : Settings}
    {reference : InputReference}
    (hderived : ∀ p ∈ session.derivedPaths settings reference.baseName,
      p.location before.home ≠ location)
    (houtput : MayWrite before location settings) :
    Maintains before location (Run.tidying (session.reject settings reference)
      (session.assess settings reference >>= fun (resolved, outcome) =>
        session.settle settings reference resolved outcome)) := by
  have hreject : (session.reject settings reference).location before.home ≠ location :=
    hderived _ (session.reject_mem_derivedPaths settings reference)
  refine .tidying (.bind (.of_edits (assess_edits hengine hderived)) ?_) hreject
  rintro ⟨resolved, outcome⟩
  exact settle_maintains hfile houtput session reference resolved outcome

/-- A run keeps a file that none of the paths it derives leads to, if its output may not replace the
file. -/
theorem execute_maintains_of_derivedPaths {session : Session}
    (hengine : session.engine.EditsOnlyItsFiles) {argument : String} {options : Options}
    (hfile : before.entryAt? location = some (.file content))
    (hderived : ∀ settings, options.settings (.ofLocation before.home)
      (InputReference.ofArgument argument).baseName = .ok settings →
        ∀ p ∈ session.derivedPaths settings (InputReference.ofArgument argument).baseName,
          p.location before.home ≠ location)
    (houtput : ∀ settings, options.settings (.ofLocation before.home)
      (InputReference.ofArgument argument).baseName = .ok settings →
        MayWrite before location settings) :
    Maintains before location (execute session argument options) := by
  intro world hworld
  have hstart := getReady_maintains hfile (fun settings hsettings =>
    hderived settings hsettings _ (session.reject_mem_derivedPaths settings _)) world hworld
  rw [execute_eq]
  rcases hready : (session.getReady argument options).on world with ⟨failure | settings, start⟩
  · rw [hready] at hstart
    rw [on_bind_of_error hready]
    exact hstart
  · rw [hready] at hstart
    rw [on_bind_of_ok hready]
    have hsettings := settings_of_getReady hready
    rw [hworld.directories.home_eq] at hsettings
    exact guarded_maintains hengine hfile (hderived settings hsettings)
      (houtput settings hsettings) start hstart

theorem execute_maintains {session : Session} (hengine : session.engine.EditsOnlyItsFiles)
    {argument : String} (hpath : (InputReference.ofArgument argument).path? = some path)
    (hlocation : before.fileAt? path = some location)
    (hfile : before.entryAt? location = some (.file content)) {options : Options}
    (houtput : ∀ settings, options.settings (.ofLocation before.home)
      (InputReference.ofArgument argument).baseName = .ok settings →
        MayWrite before location settings) :
    Maintains before location (execute session argument options) :=
  execute_maintains_of_derivedPaths hengine hfile
    (fun settings _ => derivedPaths_ne hpath hlocation session settings) houtput

theorem run_files (session : Session) (argument : String) (options : Options) (world : World) :
    (session.run argument options world).2.files =
      ((session.execute argument options).on world).2.files := by
  rw [run_eq]

/-- A run ends with its input as it was, whatever comes of it, unless the output leads to the input
and is to be replaced; and none of the paths that the run derives leads to the input. -/
theorem run_keeps_input {session : Session} (hengine : session.engine.EditsOnlyItsFiles)
    {argument : String} (hpath : (InputReference.ofArgument argument).path? = some path)
    {files : FileSystem} (hread : files.read path = .ok content) (stdin : Stdin) (disk : Disk)
    {options : Options}
    (houtput : ∀ settings, options.settings (.ofLocation files.home)
      (InputReference.ofArgument argument).baseName = .ok settings → settings.checkOnly = false →
        ∀ output ∈ settings.output.path?,
          output.location files.home = path.location files.home → settings.force = false) :
    (session.run argument options (.initial files stdin disk)).2.files.read path = .ok content ∧
      ∀ settings, ∀ p ∈ session.derivedPaths settings (InputReference.ofArgument argument).baseName,
        p.location files.home ≠ path.location files.home := by
  obtain ⟨location, hlocation, hfile⟩ := read_eq_ok_iff.mp hread
  have hplace := location_of_fileAt? hlocation
  rw [hplace] at houtput ⊢
  refine ⟨?_, fun settings => derivedPaths_ne hpath hlocation session settings⟩
  have hend := execute_maintains hengine hpath hlocation hfile houtput _
    (.initial files location stdin disk)
  rw [run_files]
  exact hend.read hlocation hfile

/-- An input that is named as an intermediate file of another run would be. -/
def stagedInput : FileSystem :=
  (FileSystem.empty []).put ["a_staged.csv"] (.file (Utf8.ofString "a\n1\n"))

/-- Options for replacing the intermediate file of the run on that input. -/
def replacingStaged : Options := { output := some ⟨"a_staged_staged.csv"⟩, force := true }

theorem run_keeps_stagedInput :
    let session : Session := ⟨.builtIn .unreachable, none, ⟨"/"⟩⟩
    (session.run "a_staged.csv" replacingStaged (.initial stagedInput .terminal)).2.files.read
        ⟨"a_staged.csv"⟩ = .ok (Utf8.ofString "a\n1\n") ∧
      ∀ settings, ∀ p ∈ session.derivedPaths settings
        (InputReference.ofArgument "a_staged.csv").baseName,
        p.location [] ≠ (Path.mk "a_staged.csv").location [] := by
  intro session
  refine run_keeps_input (Engine.builtIn_editsOnlyItsFiles .unreachable) (by decide)
    (by decide) .terminal .sound ?_
  intro settings hsettings _ output houtput hlocation
  have htarget : ∀ home baseName,
      replacingStaged.target home baseName = .file ⟨"a_staged_staged.csv"⟩ := by
    intro home baseName
    have hdash : (Path.mk "a_staged_staged.csv").isDash = false := by decide
    simp [Options.target, replacingStaged, hdash]
  obtain rfl : Path.mk "a_staged_staged.csv" = output := by
    simpa [Options.output_of_settings hsettings, htarget, Output.path?] using houtput
  exact absurd hlocation (by decide)

end Session

end TidyCsv
