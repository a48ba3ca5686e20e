import TidyCsv.Proofs.Run.Prediction
import TidyCsv.Proofs.Run.Repetition
import TidyCsv.Proofs.Run.WorkingFile

/-! # Contents that are piped in, and contents of files

A run that prints its result makes the same of a content wherever the content comes from, since the
files that it writes on the way lie in a directory of their own. What differs is their names: they
are made of the name of the input, and have to fit into the directory. A run whose names do not fit
is refused before it looks at its input. -/

namespace TidyCsv

open FileSystem Run

namespace Options

variable {options : Options}

/-- The result is asked for on standard output, in either way. -/
def ToStdout (options : Options) : Prop :=
  options.useStdout = true ∨ ∃ path ∈ options.output, path.isDash = true

theorem target_eq_stdout_iff {home : Path} {baseName : String} :
    options.target home baseName = .stdout ↔ options.ToStdout := by
  unfold target ToStdout
  cases options.useStdout with
  | true => simp
  | false =>
      cases options.output with
      | none => simp
      | some path => cases hdash : path.isDash <;> simp [hdash]

/-- What such options stand for depends neither on the home directory nor on the input. -/
theorem ToStdout.settings_eq (h : options.ToStdout) (home home' : Path)
    (baseName baseName' : String) :
    options.settings home baseName = options.settings home' baseName' := by
  simp only [settings, target_eq_stdout_iff.mpr h]

theorem ToStdout.output_eq (h : options.ToStdout) {home : Path} {baseName : String}
    {settings : Settings} (hsettings : options.settings home baseName = .ok settings) :
    settings.output = .stdout :=
  (output_of_settings hsettings).trans (target_eq_stdout_iff.mpr h)

end Options

namespace InputReference.Provides

variable {files : FileSystem} {stdin : Stdin} {bytes : Bytes} {reference : InputReference}

theorem checked (h : reference.Provides (.initial files stdin) bytes) :
    Session.checkInput files reference = .ok () ∧ Session.checkStdin stdin reference = .ok () := by
  cases reference with
  | stdin =>
      obtain rfl : stdin = .piped bytes := h
      exact ⟨rfl, by simp [Session.checkStdin]⟩
  | file path =>
      refine ⟨Session.checkInput_eq_ok_iff.mpr ?_, by simp [Session.checkStdin]⟩
      rintro _ ⟨⟩
      exact ⟨bytes, h⟩
  | remote url => exact absurd h not_false
  | compressed path kind => exact absurd h not_false

theorem content?_eq (h : reference.Provides (.initial files stdin) bytes) (network : Network)
    (sample : Option Nat) :
    Resolution.content? network sample files stdin reference =
      (Resolution.decoded? bytes).map (Resolution.repaired sample) := by
  cases reference with
  | stdin =>
      obtain rfl : stdin = .piped bytes := h
      rfl
  | file path =>
      have hread : files.read path = .ok bytes := h
      simp [Resolution.content?, hread, Except.toOption]
  | remote url => exact absurd h not_false
  | compressed path kind => exact absurd h not_false

end InputReference.Provides

/-- What there is to see of a run that prints its result. -/
structure Yield where
  status : ExitStatus
  printed : Bytes
  /-- The file of rejected rows, if one is left. -/
  rejected : Option Bytes
deriving DecidableEq, Repr

namespace Yield

/-- What there is to see of a run that is refused. -/
def nothing : Yield := ⟨.failure, [], none⟩

def ofEffect (effect : Effect) : Yield :=
  ⟨if effect.succeeds then .success else .failure, effect.emitted.getD [],
    effect.rejected.filter fun content => 1 < Csv.countRecords content⟩

/-- What there is to see of a content under the settings that a run has, if it has any. -/
def of (settings : Except Failure Settings) (bytes : Bytes) : Yield :=
  match settings with
  | .error _ => nothing
  | .ok settings =>
    ofEffect (.of settings .whole ((Resolution.decoded? bytes).map
      (Resolution.repaired (Resolution.repairSample settings))))

end Yield

namespace Session

variable {session : Session} {network : Network} {directory : Path} {argument : String}
  {options : Options} {settings : Settings} {reference : InputReference} {files : FileSystem}
  {stdin : Stdin} {world : World} {bytes : Bytes}

/-- The name of a run's file of rejected rows. It is the longest of the names that a run makes. -/
def rejectName (reference : InputReference) : String := reference.baseName ++ "_reject_errors.csv"

theorem isPlainName_rejectName (reference : InputReference) :
    Path.IsPlainName (rejectName reference) :=
  reference.isPlainName_own (by simp [InputReference.ownEndings])

/-- What a run leaves to see if its intermediate files go to a directory. -/
def yieldOf (session : Session) (directory : Path) (argument : String) (options : Options)
    (world : World) : Yield :=
  let (status, last) := session.run argument options world
  ⟨status, last.stdout,
    (last.files.read (directory.join ⟨rejectName (.ofArgument argument)⟩)).toOption⟩

theorem yieldOf_of_execute {result : Except Failure Unit} {last : World}
    (h : (session.execute argument options).on world = (result, last)) (directory : Path) :
    session.yieldOf directory argument options world =
      ⟨statusOf result, last.stdout,
        (last.files.read (directory.join ⟨rejectName (.ofArgument argument)⟩)).toOption⟩ := by
  simp only [yieldOf, run_eq, h]

theorem yieldOf_of_refused {failure : Failure}
    (h : (session.getReady argument options).on (.initial files stdin) =
      (.error failure, .initial files stdin))
    (hgone : (files.read (directory.join ⟨rejectName (.ofArgument argument)⟩)).toOption = none) :
    session.yieldOf directory argument options (.initial files stdin) = .nothing := by
  have hexecute : (session.execute argument options).on (.initial files stdin) =
      (.error failure, .initial files stdin) := by
    rw [execute_eq, on_bind_of_error h]
  rw [yieldOf_of_execute hexecute]
  simp only [World.initial, hgone]
  rfl

section Directory

variable (hdirectory : session.tempDir = some directory)
include hdirectory

theorem directory_eq (settings : Settings) : session.directory settings = directory := by
  simp [Session.directory, hdirectory]

theorem reject_eq (hout : settings.output = .stdout) (reference : InputReference) :
    session.reject settings reference = directory.join ⟨rejectName reference⟩ := by
  simp [reject, rejectPath, hout, Output.path?, rejectName, directory_eq hdirectory]

/-- If the longest name fits into an empty directory, there is room for every file of a run. -/
theorem hasRoom_of_mem_writtenPaths (hout : settings.output = .stdout)
    (hempty : files.IsEmptyDirectory directory) (hfits : Fits directory (rejectName reference)) :
    ∀ p ∈ session.writtenPaths settings reference files stdin, files.HasRoom p := by
  have hroom : ∀ ending ∈ InputReference.ownEndings,
      files.HasRoom (directory.join ⟨reference.baseName ++ ending⟩) := by
    intro ending hending
    have hname := reference.isPlainName_own hending
    refine (hasRoom_join_iff hname (reference.nul_not_mem_own hending) hempty.isDirectory).mpr
      ⟨hfits.of_le (isPlainName_rejectName reference) hname ?_, by simp [hempty.vacant]⟩
    have hlongest : ∀ ending ∈ InputReference.ownEndings,
        (Utf8.ofString ending).length ≤ (Utf8.ofString "_reject_errors.csv").length := by
      decide
    rw [rejectName, Utf8.length_ofString_append, Utf8.length_ofString_append]
    exact Nat.add_le_add_left (hlongest ending hending) _
  simp only [writtenPaths, priorPaths, List.forall_mem_cons, List.forall_mem_map, staged,
    stagedPath, Resolution.derivedPath, directory_eq hdirectory, reject_eq hdirectory hout]
  exact ⟨hroom "_staged.csv" (by simp [InputReference.ownEndings]),
    hroom "_reject_errors.csv" (by simp [InputReference.ownEndings]),
    fun ending hending => hroom ending (Resolution.mem_ownEndings_of_written hending)⟩

variable (hout : options.ToStdout)
include hout

/-- A run whose names do not fit is refused. -/
theorem yieldOf_of_not_fits (hthere : files.isDirectory directory = true)
    (hfits : ¬ Fits directory (rejectName (.ofArgument argument))) :
    session.yieldOf directory argument options (.initial files stdin) = .nothing := by
  have hending : "_reject_errors.csv" ∈ InputReference.ownEndings := by
    simp [InputReference.ownEndings]
  have hnul := InputReference.nul_not_mem_own (.ofArgument argument) hending
  have hgone := read_of_not_fits (isPlainName_rejectName _) hnul hthere hfits
  rcases getReady_cases session argument options (.initial files stdin) with
    ⟨failure, hrefused⟩ | ⟨settings, hsettings, hready⟩
  · exact yieldOf_of_refused hrefused (by rw [hgone]; rfl)
  · have houtput := hout.output_eq hsettings
    have hstale : (removeStale (session.reject settings (.ofArgument argument))).on
        (.initial files stdin) = (.error (.io .nameTooLong), .initial files stdin) := by
      unfold removeStale
      rw [on_files_bind, reject_eq hdirectory houtput]
      change (ofIo (files.removeIfExists _) >>= _).on _ = _
      rw [removeIfExists_of_not_fits (isPlainName_rejectName _) hnul hthere hfits,
        on_ofIo_error_bind]
    rw [makeOutputDir_of_stdout houtput, pure_bind, on_bind_of_error hstale] at hready
    exact yieldOf_of_refused hready (by rw [hgone]; rfl)

/-- What there is to see of a run whose names fit depends on its options and on its content. -/
theorem yieldOf_of_fits (hengine : session.engine = .builtIn network)
    (hprovides : (InputReference.ofArgument argument).Provides (.initial files stdin) bytes)
    (hempty : files.IsEmptyDirectory directory)
    (hfits : Fits directory (rejectName (.ofArgument argument))) :
    session.yieldOf directory argument options (.initial files stdin) =
      .of (options.settings (.ofLocation files.home) (InputReference.ofArgument argument).baseName)
        bytes := by
  cases hsettings : options.settings (.ofLocation files.home)
    (InputReference.ofArgument argument).baseName with
  | error failure =>
      rcases getReady_cases session argument options (.initial files stdin) with
        ⟨refusal, hrefused⟩ | ⟨settings, hfound, -⟩
      · exact yieldOf_of_refused hrefused (hempty.toOption_read_join (isPlainName_rejectName _))
      · change options.settings (.ofLocation files.home) _ = _ at hfound
        simp [hsettings] at hfound
  | ok settings =>
      have houtput := hout.output_eq hsettings
      have hroom : ∀ p ∈ session.writtenPaths settings (.ofArgument argument) files stdin,
          files.HasRoom p := hasRoom_of_mem_writtenPaths hdirectory houtput hempty hfits
      obtain ⟨start, hstale⟩ := removeStale_of_hasRoom (.initial files stdin)
        (hroom (session.reject settings (.ofArgument argument)) (by simp [writtenPaths]))
      have hedits : EditsFiles
          (· = (session.reject settings (.ofArgument argument)).location files.home)
          files start.files := (removeStale_ok hstale).2.1
      have hsettings' : options.settings (.ofLocation (World.initial files stdin).files.home)
          (InputReference.ofArgument argument).baseName = .ok settings := hsettings
      obtain ⟨hinput, hstdin⟩ := hprovides.checked
      have hready : (session.getReady argument options).on (.initial files stdin) =
          (.ok settings, start) :=
        (getReady_eq_ok_iff_of_stdout hsettings' houtput).mpr ⟨hinput, hstdin, hstale⟩
      have hapart : session.OutputApart settings (.ofArgument argument) files.home := by
        simp [OutputApart, houtput, Output.path?]
      obtain ⟨hinitial, -, result, last, hexecute, heffect, -⟩ :=
        execute_of_ready hengine (.inr houtput) hready hapart
      have hstdout : start.stdout = [] := congrArg World.stdout hinitial
      have hwork : session.WorkRoom settings (.ofArgument argument) (.initial files stdin) :=
        ⟨hroom, fun _ _ => Disk.flawAt?_sound _⟩
      have hadmitted : session.admitted? network settings (.ofArgument argument)
          (.initial files stdin) = (Resolution.decoded? bytes).map
            (Resolution.repaired (Resolution.repairSample settings)) :=
        (if_pos hwork).trans (hprovides.content?_eq _ _)
      have hintake : settings.output.intake (.initial files stdin) = .whole := by rw [houtput]; rfl
      have hstdin : start.stdin = stdin := congrArg World.stdin hinitial
      have hdisk : start.disk = .sound := congrArg World.disk hinitial
      have hsame : session.effect network settings (.ofArgument argument) start =
          session.effect network settings (.ofArgument argument) (.initial files stdin) :=
        effect_of_edits hedits hstdin hdisk (session.reject_ne_input settings _ files) _ _ _
      rw [hsame, effect, hintake, hadmitted] at heffect
      rw [yieldOf_of_execute hexecute, ← reject_eq hdirectory houtput, heffect.reject_eq,
        heffect.stdout_eq, hstdout, houtput]
      simp only [Yield.of, Yield.ofEffect, ← heffect.isOk_eq]
      cases result <;> rfl

end Directory

/-- With the built-in engine, and an empty directory for the intermediate files, a run that prints
its result ends with the same status, prints the same and leaves the same file of rejected rows
whether a content is piped in or that of a file, as long as the names that the two runs make fit
into the directory. A run whose names do not fit fails without a result. -/
theorem yieldOf_piped (hengine : session.engine = .builtIn network)
    (hdirectory : session.tempDir = some directory) (hout : options.ToStdout) {input : Path}
    (hlocal : InputReference.ofArgument argument = .file input) {piped : FileSystem}
    (hempty : piped.IsEmptyDirectory directory) (hempty' : files.IsEmptyDirectory directory)
    (hread : files.read input = .ok bytes) :
    let fromPipe := session.yieldOf directory "-" options (.initial piped (.piped bytes))
    let fromFile := session.yieldOf directory argument options (.initial files stdin)
    (Fits directory (rejectName .stdin) → Fits directory (rejectName (.file input)) →
      fromPipe = fromFile) ∧
      (¬ Fits directory (rejectName .stdin) → fromPipe = .nothing) ∧
      (¬ Fits directory (rejectName (.file input)) → fromFile = .nothing) := by
  have hdash : InputReference.ofArgument "-" = .stdin := rfl
  rw [← hdash, ← hlocal]
  refine ⟨fun hfits hfits' => ?_, yieldOf_of_not_fits hdirectory hout hempty.isDirectory,
    yieldOf_of_not_fits hdirectory hout hempty'.isDirectory⟩
  have hprovides : (InputReference.ofArgument "-").Provides (.initial piped (.piped bytes)) bytes :=
    rfl
  have hprovides' : (InputReference.ofArgument argument).Provides (.initial files stdin) bytes := by
    rw [hlocal]
    exact hread
  rw [yieldOf_of_fits hdirectory hout hengine hprovides hempty hfits,
    yieldOf_of_fits hdirectory hout hengine hprovides' hempty' hfits']
  exact congrArg (Yield.of · bytes) (hout.settings_eq _ _ _ _)

/-! ## Names that are too long -/

/-- The ending leaves no room in a name for more letters and numbers than these. -/
theorem not_fits_of_weight (directory : Path)
    (h : 237 < Text.weight reference.baseName.toList) :
    ¬ Fits directory (rejectName reference) := by
  intro hfits
  have hname := hfits.name_le
  have hending : (Utf8.ofString "_reject_errors.csv").length = 18 := by decide
  have hlongest : longestName = 255 := rfl
  have hbase : Text.weight reference.baseName.toList ≤ (Utf8.ofString reference.baseName).length :=
    Nat.le_trans List.countP_le_length (Utf8.length_le_length_encode _)
  rw [rejectName, Utf8.length_ofString_append] at hname
  omega

/-- A file system with an empty directory in it. -/
def withWorkDirectory : FileSystem := (FileSystem.empty []).put ["work"] .directory

/-- A session that keeps its intermediate files in this directory. -/
def workSession : Session := ⟨.builtIn .unreachable, some ⟨"work"⟩, ⟨"/tmp"⟩⟩

theorem isEmptyDirectory_work : withWorkDirectory.IsEmptyDirectory ⟨"work"⟩ := by
  refine ⟨by decide, fun name => ?_⟩
  have hlocation : (Path.mk "work").location withWorkDirectory.home = ["work"] := by decide
  rw [hlocation, withWorkDirectory, entryAt?_put _ (by simp)]
  simp [FileSystem.empty, entryAt?]

theorem beside_work {name : String} (hname : Path.IsPlainName name) (hnul : '\x00' ∉ name.toList)
    (hshort : (Utf8.ofString name).length ≤ longestName) (hother : name ≠ "work")
    (content : Bytes) :
    let files := withWorkDirectory.put [name] (.file content)
    files.IsEmptyDirectory ⟨"work"⟩ ∧ files.read ⟨name⟩ = .ok content := by
  intro files
  have hentry : withWorkDirectory.entryAt? (withWorkDirectory.home ++ [name]) = none := by
    change withWorkDirectory.entryAt? [name] = none
    rw [withWorkDirectory, entryAt?_put _ (by simp), if_neg (by simpa using hother)]
    rfl
  have hroom : withWorkDirectory.HasRoom ⟨name⟩ :=
    hasRoom_name hname hnul hshort (by simp [hentry])
  have hlocation : (Path.mk name).location withWorkDirectory.home = [name] :=
    Path.location_name _ hname
  have hwrite : withWorkDirectory.write ⟨name⟩ content = .ok files :=
    write_eq_ok_iff_hasRoom.mpr ⟨hroom, by rw [hlocation]⟩
  refine ⟨isEmptyDirectory_work.of_edits (.write hwrite rfl) fun inner hsame => ?_,
    EditsFiles.read_of_write hwrite⟩
  have hlength := congrArg List.length hsame
  have hwork : (Path.mk "work").location withWorkDirectory.home = ["work"] := by decide
  simp [hlocation, hwork] at hlength

/-- A document with a row that is kept and one that is rejected. -/
theorem yieldOf_piped_short :
    let content := Utf8.ofString "a,b\n1,2\n3\n"
    let files := withWorkDirectory.put ["in.csv"] (.file content)
    let fromFile := workSession.yieldOf ⟨"work"⟩ "in.csv" { useStdout := true }
      (.initial files .terminal)
    withWorkDirectory.IsEmptyDirectory ⟨"work"⟩ ∧ files.IsEmptyDirectory ⟨"work"⟩ ∧
      files.read ⟨"in.csv"⟩ = .ok content ∧
      Fits ⟨"work"⟩ (rejectName .stdin) ∧ Fits ⟨"work"⟩ (rejectName (.file ⟨"in.csv"⟩)) ∧
      fromFile.status = .success ∧ fromFile.rejected.isSome = true ∧
      workSession.yieldOf ⟨"work"⟩ "-" { useStdout := true }
        (.initial withWorkDirectory (.piped content)) = fromFile := by
  intro content files fromFile
  obtain ⟨hstatus, hrejected⟩ :
      (workSession.yieldOf ⟨"work"⟩ "in.csv" { useStdout := true }
          (.initial files .terminal)).status = .success ∧
        (workSession.yieldOf ⟨"work"⟩ "in.csv" { useStdout := true }
          (.initial files .terminal)).rejected.isSome = true := by
    decide +kernel
  have hlocal : InputReference.ofArgument "in.csv" = .file ⟨"in.csv"⟩ := by decide
  have hname : Path.IsPlainName "in.csv" := ⟨⟨by decide, by decide⟩, by decide⟩
  obtain ⟨hempty, hread⟩ := beside_work hname (by decide) (by decide) (by decide) content
  have hfits : Fits ⟨"work"⟩ (rejectName .stdin) := by decide
  have hfits' : Fits ⟨"work"⟩ (rejectName (.file ⟨"in.csv"⟩)) := by decide
  have hengine : workSession.engine = .builtIn .unreachable := rfl
  have hwork : workSession.tempDir = some ⟨"work"⟩ := rfl
  have hsame : workSession.yieldOf ⟨"work"⟩ "-" { useStdout := true }
      (.initial withWorkDirectory (.piped content)) =
        workSession.yieldOf ⟨"work"⟩ "in.csv" { useStdout := true } (.initial files .terminal) :=
    (yieldOf_piped hengine hwork (.inl rfl) hlocal isEmptyDirectory_work hempty hread).1 hfits
      hfits'
  rcases hyield : workSession.yieldOf ⟨"work"⟩ "in.csv" { useStdout := true }
    (.initial files .terminal) with ⟨status, printed, rejected⟩
  rw [hyield] at hstatus hrejected hsame
  simp only [fromFile, hyield]
  exact ⟨isEmptyDirectory_work, hempty, hread, hfits, hfits', hstatus, hrejected, hsame⟩

/-- A name that is too long with the ending of the file of rejected rows, though not without. -/
def longName : String := String.ofList (List.replicate 250 'a')

theorem toList_longName : longName.toList = List.replicate 250 'a' := String.toList_ofList

theorem eq_of_mem_longName {c : Char} (h : c ∈ longName.toList) : c = 'a' := by
  rw [toList_longName] at h
  exact List.eq_of_mem_replicate h

theorem longName_ne {short : String} (h : short.toList.length ≠ 250) : longName ≠ short := by
  intro heq
  rw [← heq, toList_longName, List.length_replicate] at h
  exact h rfl

theorem isPlainName_longName : Path.IsPlainName longName := by
  refine ⟨⟨?_, longName_ne (by decide)⟩, fun hmem => absurd (eq_of_mem_longName hmem) (by decide)⟩
  have hempty : longName ≠ "" := longName_ne (by decide)
  have hdot : longName ≠ "." := longName_ne (by decide)
  simp [Path.isVoid, hempty, hdot]

theorem ofArgument_longName : InputReference.ofArgument longName = .file ⟨longName⟩ := by
  have hdash : longName ≠ "-" := longName_ne (by decide)
  have hurl : InputReference.isUrl longName = false := by
    rw [InputReference.isUrl, toList_longName]
    decide
  have hplain : Compression.ofPath? longName = none := by
    rw [Compression.ofPath?, toList_longName]
    decide
  simp [InputReference.ofArgument, hdash, hurl, hplain]

theorem not_fits_longName (directory : Path) :
    ¬ Fits directory (rejectName (.ofArgument longName)) := by
  have hpath : (InputReference.ofArgument longName).path? = some ⟨longName⟩ := by
    rw [ofArgument_longName]
    rfl
  have hfile : (Path.mk longName).fileName? = some longName :=
    Path.fileName?_of_pieces isPlainName_longName.isName
      (isPlainName_longName.pieces_eq.trans (List.nil_append _).symm)
  have hstem : InputReference.stripEndings longName.toList.length longName.toList =
      longName.toList :=
    InputReference.stripEndings_of_not_mem _
      fun hmem => absurd (eq_of_mem_longName hmem) (by decide)
  have hweight : Text.weight longName.toList = 250 := by
    rw [toList_longName]
    decide +kernel
  have hbase := Header.weight_le_weight_normalizeName longName
  refine not_fits_of_weight directory ?_
  rw [InputReference.baseName_of_fileName hpath hfile, hstem, String.ofList_toList]
  omega

/-- What is piped in gets through, and what is in a file of this name does not. -/
theorem yieldOf_longName :
    let content := Utf8.ofString "a,b\n1,2\n"
    let files := withWorkDirectory.put [longName] (.file content)
    InputReference.ofArgument longName = .file ⟨longName⟩ ∧
      withWorkDirectory.IsEmptyDirectory ⟨"work"⟩ ∧ files.IsEmptyDirectory ⟨"work"⟩ ∧
      files.read ⟨longName⟩ = .ok content ∧
      workSession.yieldOf ⟨"work"⟩ "-" { useStdout := true }
        (.initial withWorkDirectory (.piped content)) = ⟨.success, content, none⟩ ∧
      workSession.yieldOf ⟨"work"⟩ longName { useStdout := true } (.initial files .terminal) =
        ⟨.failure, [], none⟩ := by
  intro content files
  have hshort : (Utf8.ofString longName).length ≤ longestName := by
    rw [Utf8.ofString, toList_longName]
    decide +kernel
  obtain ⟨hempty, hread⟩ := beside_work isPlainName_longName
    (fun hmem => absurd (eq_of_mem_longName hmem) (by decide)) hshort (longName_ne (by decide))
    content
  exact ⟨ofArgument_longName, isEmptyDirectory_work, hempty, hread, by decide +kernel,
    yieldOf_of_not_fits rfl (.inl rfl) hempty.isDirectory (not_fits_longName _)⟩

end Session

end TidyCsv
