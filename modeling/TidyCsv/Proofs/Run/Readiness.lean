import TidyCsv.Proofs.Run.InputKept
import TidyCsv.Proofs.Storage.Directories
import TidyCsv.Proofs.Storage.Room

/-! # Getting ready again

A run that is refused is refused on the next time as well, and nothing changes then. A run that has
got ready finds the directory of its output when it is repeated, so that only the file of rejected
rows has to be removed again. -/

namespace TidyCsv

open FileSystem Run

namespace Session

variable {session : Session} {argument : String} {options : Options} {settings : Settings}
  {output : Output} {reject : Path} {world start after : World} {failure : Failure}

/-! ## The file of rejected rows from before -/

theorem removeStale_ok (h : (removeStale reject).on world = (.ok (), start)) :
    start.stdin = world.stdin ∧
      EditsFiles (· = reject.location world.files.home) world.files start.files ∧
      (start.files.read reject).toOption = none := by
  unfold removeStale at h
  rw [on_files_bind] at h
  cases hremove : world.files.removeIfExists reject with
  | error fault => simp [hremove] at h
  | ok result =>
      obtain ⟨existed, fs⟩ := result
      rw [hremove, on_ofIo_ok_bind] at h
      obtain ⟨-, rfl⟩ := Prod.mk.inj h
      have hedits : EditsFiles (· = reject.location world.files.home) world.files fs :=
        .removeIfExists hremove rfl
      refine ⟨rfl, hedits, ?_⟩
      change (fs.read reject).toOption = none
      cases hread : fs.read reject with
      | error fault => rfl
      | ok content =>
          obtain ⟨location, hfile, hentry⟩ := read_eq_ok_iff.mp hread
          rw [hedits.fileAt?_eq] at hfile
          simp [entryAt?_of_removeIfExists hfile hremove] at hentry

theorem removeStale_error (h : (removeStale reject).on world = (.error failure, after)) :
    after = world := by
  unfold removeStale at h
  rw [on_files_bind] at h
  cases hremove : world.files.removeIfExists reject with
  | error fault =>
      rw [hremove, on_ofIo_error_bind] at h
      exact (Prod.mk.inj h).2.symm
  | ok result => simp [hremove] at h

theorem removeStale_of_hasRoom (world : World) (h : world.files.HasRoom reject) :
    ∃ start, (removeStale reject).on world = (.ok (), start) := by
  obtain ⟨existed, fs, hremove⟩ := h.removeIfExists
  unfold removeStale
  rw [on_files_bind, hremove]
  exact ⟨_, rfl⟩

/-! ## The directory of the output -/

/-- There is nothing to be done about the directory of the output. -/
def HasOutputDir (output : Output) (fs : FileSystem) : Prop :=
  ∀ parent ∈ output.path?.bind Path.parent?, parent.text = "" ∨ fs.contains parent = true

theorem makeOutputDir_of_hasOutputDir (h : HasOutputDir output world.files) :
    (makeOutputDir output).on world = (.ok (), world) := by
  unfold makeOutputDir
  cases hparent : output.path?.bind Path.parent? with
  | none => rfl
  | some parent =>
      simp only [on_files_bind, if_pos (h parent hparent)]
      rfl

theorem makeOutputDir_of_missing (world : World) (h : ¬ HasOutputDir output world.files) :
    ∃ parent, output.path?.bind Path.parent? = some parent ∧ parent.text ≠ "" ∧
      (makeOutputDir output).on world =
        ((world.files.makeDirectories parent).1.mapError .io,
          { world with files := (world.files.makeDirectories parent).2 }) := by
  unfold HasOutputDir at h
  push Not at h
  obtain ⟨parent, hparent, hnamed, hmissing⟩ := h
  refine ⟨parent, hparent, hnamed, ?_⟩
  have hparent' : output.path?.bind Path.parent? = some parent := hparent
  unfold makeOutputDir
  simp only [hparent', on_files_bind, hnamed, hmissing, false_or, Bool.false_eq_true, if_false]
  rcases world.files.makeDirectories parent with ⟨_ | _, fs⟩ <;> rfl

theorem hasOutputDir_of_contains {parent : Path} {fs : FileSystem}
    (hparent : output.path?.bind Path.parent? = some parent)
    (h : parent.text = "" ∨ fs.contains parent = true) : HasOutputDir output fs := by
  intro other hother
  obtain rfl : parent = other := Option.some.inj (hparent.symm.trans hother)
  exact h

theorem hasOutputDir_of_makeOutputDir (h : (makeOutputDir output).on world = (.ok (), after)) :
    HasOutputDir output after.files := by
  by_cases hthere : HasOutputDir output world.files
  · rw [makeOutputDir_of_hasOutputDir hthere] at h
    obtain rfl := (Prod.mk.inj h).2
    exact hthere
  · obtain ⟨parent, hparent, -, hmakes⟩ := makeOutputDir_of_missing world hthere
    rw [hmakes] at h
    rcases hmake : world.files.makeDirectories parent with ⟨fault | ⟨⟩, fs⟩
    · simp [hmake, Except.mapError] at h
    · rw [hmake] at h
      obtain ⟨-, rfl⟩ := Prod.mk.inj h
      exact hasOutputDir_of_contains hparent
        ((isDirectory_of_makeDirectoriesFrom hmake).imp_right contains_of_isDirectory)

/-- Where the directory of the output could not be made, it cannot be made again, unless there is a
file in its place. -/
theorem makeOutputDir_again (h : (makeOutputDir output).on world = (.error failure, after)) :
    (∃ failure, (makeOutputDir output).on after = (.error failure, after)) ∨
      HasOutputDir output after.files ∧
        ∃ parent content, output.path?.bind Path.parent? = some parent ∧ parent.text ≠ "" ∧
          after.files.open? parent = .ok (.file content) := by
  have hmissing : ¬ HasOutputDir output world.files := by
    intro hthere
    simp [makeOutputDir_of_hasOutputDir hthere] at h
  obtain ⟨parent, hparent, hnamed, hmakes⟩ := makeOutputDir_of_missing world hmissing
  rw [hmakes] at h
  rcases hmake : world.files.makeDirectories parent with ⟨fault | ⟨⟩, fs⟩
  · rw [hmake] at h
    obtain ⟨-, rfl⟩ := Prod.mk.inj h
    obtain ⟨fault', hagain⟩ := makeDirectoriesFrom_again hmake
    by_cases hthere : HasOutputDir output fs
    · rcases isDirectory_or_file_of_contains ((hthere parent hparent).resolve_left hnamed) with
        hdirectory | ⟨content, hopen⟩
      · rw [makeDirectoriesFrom_of_isDirectory _ (.inr hdirectory)] at hagain
        simp at hagain
      · exact .inr ⟨hthere, parent, content, hparent, hnamed, hopen⟩
    · obtain ⟨other, hother, -, hmakes'⟩ :=
        makeOutputDir_of_missing { world with files := fs } hthere
      obtain rfl : parent = other := Option.some.inj (hparent.symm.trans hother)
      have hagain' : fs.makeDirectories parent = (.error fault', fs) := hagain
      simp only [hagain'] at hmakes'
      exact .inl ⟨.io fault', hmakes'⟩
  · simp [hmake, Except.mapError] at h

/-! ## Room for a run -/

variable {reference : InputReference} {files : FileSystem} {stdin : Stdin} {disk : Disk}

/-- Makes the directory of the output, unless the run is a check, and removes the file of rejected
rows from before. -/
def makeRoom (session : Session) (settings : Settings) (reference : InputReference) : Run Unit := do
  if settings.checkOnly then pure () else makeOutputDir settings.output
  removeStale (session.reject settings reference)

theorem getReady_eq (session : Session) (argument : String) (options : Options) :
    session.getReady argument options =
      prepare (.ofArgument argument) options (InputReference.ofArgument argument).baseName >>=
        fun settings => session.makeRoom settings (.ofArgument argument) >>= fun _ =>
          pure settings := by
  unfold getReady makeRoom
  refine bind_congr fun settings => ?_
  split <;> simp only [bind_assoc]

/-- There is no file of rejected rows in the directory of the output if that is a file. -/
theorem removeStale_below_file (session : Session) (reference : InputReference)
    (hcheck : settings.checkOnly = false) {parent : Path} {content : Bytes}
    (hparent : settings.output.path?.bind Path.parent? = some parent) (hnamed : parent.text ≠ "")
    (hfile : world.files.open? parent = .ok (.file content)) :
    ∃ failure, (removeStale (session.reject settings reference)).on world =
      (.error failure, world) := by
  have hreject : session.reject settings reference =
      parent.join ⟨reference.baseName ++ "_reject_errors.csv"⟩ := by
    simp [reject, rejectPath, hparent, hcheck, hnamed]
  have hname : Path.IsPlainName (reference.baseName ++ "_reject_errors.csv") :=
    reference.isPlainName_own (by simp [InputReference.ownEndings])
  obtain ⟨fault, hremove⟩ := removeIfExists_below_file hname hfile
  rw [← hreject] at hremove
  unfold removeStale
  rw [on_files_bind, hremove]
  exact ⟨_, rfl⟩

theorem makeRoom_ok (h : (session.makeRoom settings reference).on world = (.ok (), start)) :
    start.files.home = world.files.home ∧
      (start.files.read (session.reject settings reference)).toOption = none := by
  unfold makeRoom at h
  split at h
  · obtain ⟨-, hedits, hgone⟩ := removeStale_ok h
    exact ⟨hedits.home_eq, hgone⟩
  · obtain ⟨_, opened, hopen, hstale⟩ := on_bind_eq_ok_iff.mp h
    obtain ⟨-, hedits, hgone⟩ := removeStale_ok hstale
    have hadds := makeOutputDir_adds settings.output world
    rw [hopen] at hadds
    exact ⟨hedits.home_eq.trans hadds.home_eq, hgone⟩

/-- Where there was no room, there is none on the next time, and nothing changes then. -/
theorem makeRoom_error_again
    (h : (session.makeRoom settings reference).on world = (.error failure, after)) :
    after.files.home = world.files.home ∧
      ∃ failure, (session.makeRoom settings reference).on after = (.error failure, after) := by
  unfold makeRoom at h ⊢
  cases hcheck : settings.checkOnly with
  | true =>
      simp only [hcheck, if_true] at h ⊢
      obtain rfl := removeStale_error h
      exact ⟨rfl, failure, h⟩
  | false =>
      simp only [hcheck, Bool.false_eq_true, if_false] at h ⊢
      rcases hopen : (makeOutputDir settings.output).on world with ⟨refusal | ⟨⟩, opened⟩
      · rw [on_bind_of_error hopen] at h
        obtain ⟨-, rfl⟩ := Prod.mk.inj h
        have hadds := makeOutputDir_adds settings.output world
        rw [hopen] at hadds
        refine ⟨hadds.home_eq, ?_⟩
        rcases makeOutputDir_again hopen with
          ⟨refusal', hagain⟩ | ⟨hthere, parent, content, hparent, hnamed, hfile⟩
        · exact ⟨refusal', on_bind_of_error hagain⟩
        · rw [on_bind_of_ok (makeOutputDir_of_hasOutputDir hthere)]
          exact removeStale_below_file session reference hcheck hparent hnamed hfile
      · rw [on_bind_of_ok hopen] at h
        obtain rfl := removeStale_error h
        have hadds := makeOutputDir_adds settings.output world
        rw [hopen] at hadds
        refine ⟨hadds.home_eq, failure, ?_⟩
        rw [on_bind_of_ok (makeOutputDir_of_hasOutputDir (hasOutputDir_of_makeOutputDir hopen))]
        exact h

/-- Where room has been made, and files have been edited since, only the file of rejected rows is
left to be removed. -/
theorem makeRoom_again {touched : Location → Prop}
    (h : (session.makeRoom settings reference).on world = (.ok (), start))
    (hedits : EditsFiles touched start.files after.files) :
    (session.makeRoom settings reference).on after =
      (removeStale (session.reject settings reference)).on after := by
  unfold makeRoom at h ⊢
  cases hcheck : settings.checkOnly with
  | true => simp only [if_true]
  | false =>
      simp only [hcheck, Bool.false_eq_true, if_false] at h ⊢
      obtain ⟨_, opened, hopen, hstale⟩ := on_bind_eq_ok_iff.mp h
      have hthere : HasOutputDir settings.output after.files := by
        intro parent hparent
        by_cases hnamed : parent.text = ""
        · exact .inl hnamed
        · right
          have hcontains := (hasOutputDir_of_makeOutputDir hopen parent hparent).resolve_left hnamed
          rcases isDirectory_or_file_of_contains hcontains with hdirectory | ⟨content, hfile⟩
          · obtain ⟨-, hremoved, -⟩ := removeStale_ok hstale
            exact contains_of_isDirectory
              ((hremoved.keepsDirectories.trans hedits.keepsDirectories).isDirectory hdirectory)
          · obtain ⟨failure, hfails⟩ :=
              removeStale_below_file session reference hcheck hparent hnamed hfile
            simp [hfails] at hstale
      rw [on_bind_of_ok (makeOutputDir_of_hasOutputDir hthere)]

/-! ## The first stage again -/

theorem checkInput_eq_ok_iff {fs : FileSystem} :
    checkInput fs reference = .ok () ↔
      ∀ path ∈ reference.path?, ∃ content, fs.read path = .ok content := by
  unfold checkInput
  cases reference.path? with
  | none => simp
  | some path =>
      simp only [Option.mem_def, Option.some.injEq, forall_eq']
      constructor
      · intro h
        refine isFile_iff.mp ?_
        split at h
        · simp at h
        · split at h
          · simp at h
          · next hfile => simpa using hfile
      · rintro ⟨content, hread⟩
        simp [contains_of_read hread, isFile_iff.mpr ⟨content, hread⟩]

theorem getReady_initial {result : Except Failure Settings}
    (h : (session.getReady argument options).on (.initial files stdin disk) = (result, after)) :
    after = .initial after.files stdin disk := by
  have hsilent : Silent (fun world => { world with files := FileSystem.empty [] })
      (session.getReady argument options) := getReady_silent (fun _ _ => rfl) _ _ _
  have hview := hsilent.view_of_on h
  obtain ⟨fs, piped, stdout, events, temps, disk'⟩ := after
  simpa [World.initial] using hview

theorem gone_of_getReady
    (h : (session.getReady argument options).on world = (.ok settings, start)) :
    start.files.home = world.files.home ∧
      (start.files.read (session.reject settings (.ofArgument argument))).toOption = none := by
  rw [getReady_eq] at h
  obtain ⟨found, middle, hprepare, hrest⟩ := on_bind_eq_ok_iff.mp h
  obtain ⟨_, last, hroom, hlast⟩ := on_bind_eq_ok_iff.mp hrest
  obtain ⟨rfl, rfl⟩ : found = settings ∧ last = start := by simpa using hlast
  obtain ⟨rfl, -⟩ := prepare_eq_ok_iff.mp hprepare
  exact makeRoom_ok hroom

theorem getReady_refused_again
    (h : (session.getReady argument options).on (.initial files stdin disk) =
      (.error failure, after)) :
    ∃ failure, (session.getReady argument options).on (.initial after.files stdin disk) =
      (.error failure, .initial after.files stdin disk) := by
  have hafter := getReady_initial h
  rw [getReady_eq] at h ⊢
  rcases on_prepare (.ofArgument argument) options (InputReference.ofArgument argument).baseName
      (.initial files stdin disk) with
    ⟨refusal, hprepare⟩ | ⟨settings, hprepare, hsettings, -⟩
  · rw [on_bind_of_error hprepare] at h
    obtain ⟨-, rfl⟩ := Prod.mk.inj h
    exact ⟨refusal, on_bind_of_error hprepare⟩
  · rw [on_bind_of_ok hprepare] at h
    rcases hroom : (session.makeRoom settings (.ofArgument argument)).on
      (.initial files stdin disk) with ⟨refusal | ⟨⟩, opened⟩
    · rw [on_bind_of_error hroom] at h
      obtain ⟨-, rfl⟩ := Prod.mk.inj h
      obtain ⟨hhome, refusal', hagain⟩ := makeRoom_error_again hroom
      rcases on_prepare (.ofArgument argument) options
          (InputReference.ofArgument argument).baseName (.initial opened.files stdin disk) with
        ⟨other, hprepare'⟩ | ⟨found, hprepare', hfound, -⟩
      · exact ⟨other, on_bind_of_error hprepare'⟩
      · change options.settings (.ofLocation opened.files.home) _ = _ at hfound
        rw [hhome] at hfound
        obtain rfl : settings = found := Except.ok.inj (hsettings.symm.trans hfound)
        rw [hafter] at hagain
        exact ⟨refusal', (on_bind_of_ok hprepare').trans (on_bind_of_error hagain)⟩
    · rw [on_bind_of_ok hroom] at h
      simp at h

theorem read_of_getReady
    (hready : (session.getReady argument options).on (.initial files stdin disk) =
      (.ok settings, start))
    {path : Path} (hpath : (InputReference.ofArgument argument).path? = some path)
    {content : Bytes} (hread : files.read path = .ok content) :
    start.files.read path = .ok content := by
  obtain ⟨location, hlocation, hfile⟩ := read_eq_ok_iff.mp hread
  have hreject : ∀ settings, options.settings (.ofLocation files.home)
      (InputReference.ofArgument argument).baseName = .ok settings →
        (session.reject settings (.ofArgument argument)).location files.home ≠ location :=
    fun settings _ => rejectPath_ne hpath hlocation settings _
  have hkeeps := getReady_maintains hfile hreject _ (.initial files location stdin disk)
  rw [hready] at hkeeps
  exact hkeeps.read hlocation hfile

/-- A run that may replace its output and has got ready gets ready again, once the file of rejected
rows is removed. -/
theorem getReady_again {touched : Location → Prop} (hforce : options.force = true)
    (hready : (session.getReady argument options).on (.initial files stdin disk) =
      (.ok settings, start))
    {fs : FileSystem} (hedits : EditsFiles touched start.files fs)
    (hinput : ∀ path ∈ (InputReference.ofArgument argument).path?, ∀ location,
      start.files.fileAt? path = some location → ¬ touched location) :
    (session.getReady argument options).on (.initial fs stdin disk) =
      (removeStale (session.reject settings (.ofArgument argument)) >>= fun _ =>
        (pure settings : Run Settings)).on (.initial fs stdin disk) := by
  have hkept : ∀ {path content}, (InputReference.ofArgument argument).path? = some path →
      files.read path = .ok content → start.files.read path = .ok content :=
    fun hpath hread => read_of_getReady hready hpath hread
  rw [getReady_eq] at hready ⊢
  obtain ⟨found, middle, hprepare, hrest⟩ := on_bind_eq_ok_iff.mp hready
  obtain ⟨_, last, hroom, hlast⟩ := on_bind_eq_ok_iff.mp hrest
  obtain ⟨rfl, rfl⟩ : found = settings ∧ last = start := by simpa using hlast
  obtain ⟨rfl, hchecked, hstdin, hsettings, -⟩ := prepare_eq_ok_iff.mp hprepare
  have hhome : fs.home = files.home := hedits.home_eq.trans (makeRoom_ok hroom).1
  have hchecked' : checkInput fs (.ofArgument argument) = .ok () := by
    refine checkInput_eq_ok_iff.mpr fun path hpath => ?_
    obtain ⟨content, hread⟩ := checkInput_eq_ok_iff.mp hchecked path hpath
    refine ⟨content, (hedits.read_eq_ok_iff fun location hlocation => ?_).mpr (hkept hpath hread)⟩
    exact hinput path hpath location hlocation
  have hprepare' : (prepare (.ofArgument argument) options
      (InputReference.ofArgument argument).baseName).on (.initial fs stdin disk) =
        (.ok found, .initial fs stdin disk) := by
    refine prepare_eq_ok_iff.mpr ⟨rfl, hchecked', hstdin, ?_, .inr ?_⟩
    · change options.settings (.ofLocation fs.home) _ = _
      rw [hhome]
      exact hsettings
    · have hforce' := (Options.force_of_settings hsettings).trans hforce
      unfold checkOutput
      split <;> simp [hforce']
  rw [on_bind_of_ok hprepare', on_bind, on_bind]
  have hagain : (session.makeRoom found (.ofArgument argument)).on (.initial fs stdin disk) = _ :=
    makeRoom_again hroom hedits
  rw [hagain]

end Session

end TidyCsv
