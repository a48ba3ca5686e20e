import TidyCsv.Proofs.Run.FinalForm
import TidyCsv.Proofs.Run.InputKept
import TidyCsv.Proofs.Run.Resolution

/-! # What a run leaves as its output

A run that succeeds has written the final form of its input. It stays, unless the output is one of
the intermediate files of the run, which are removed whatever they hold, or takes the place of the
file of rejected rows and holds one record at most. -/

namespace TidyCsv

open FileSystem Run

/-! ## Parts that succeed -/

namespace Session

variable {session : Session} {settings : Settings} {out : Path}

theorem openOutput_ok {force : Bool} {world after : World}
    (h : (openOutput (.file out) force).on world = (.ok (), after)) :
    ∃ location, world.files.Writable out location ∧
      after = { world with files := world.files.put location (.file []) } := by
  unfold openOutput at h
  rw [on_files_bind] at h
  obtain ⟨_, checked, hcheck, hcreate⟩ := on_bind_eq_ok_iff.mp h
  rw [on_ensure] at hcheck
  obtain rfl : world = checked := (Prod.mk.inj hcheck).2
  exact create_ok hcreate

/-- The final form of what was kept replaces the output file. What was kept is read after that file
is emptied, so nothing is left of it if both are one file. -/
structure Delivers (settings : Settings) (out staged : Path) (location : Location)
    (content : Bytes) (before after : FileSystem) : Prop where
  writable : before.Writable out location
  read_staged : (before.put location (.file [])).read staged = .ok content
  files_eq : after = (before.put location (.file [])).put location
    (.file (FinalForm.write content settings.delimiter (!settings.keepNames)).2)

namespace Delivers

variable {staged : Path} {location : Location} {content : Bytes} {before after : FileSystem}

theorem edits (h : Delivers settings out staged location content before after) :
    EditsFiles (· = location) before after := by
  have hfirst := BuiltIn.edits_put h.writable []
  rw [h.files_eq]
  exact hfirst.trans (BuiltIn.edits_put (hfirst.writable_iff.mpr h.writable) _)

theorem entry (h : Delivers settings out staged location content before after) :
    after.entryAt? location =
      some (.file (FinalForm.write content settings.delimiter (!settings.keepNames)).2) := by
  rw [h.files_eq, entryAt?_put _ h.writable.ne_nil, if_pos rfl]

theorem read_of_ne (h : Delivers settings out staged location content before after)
    (hne : staged.location before.home ≠ location) : before.read staged = .ok content := by
  refine ((BuiltIn.edits_put h.writable []).read_eq_ok_iff ?_).mp h.read_staged
  intro found hfile hsame
  exact hne ((location_of_fileAt? hfile).trans hsame)

end Delivers

theorem writeOutput_ok (houtput : settings.output = .file out) {staged : Path}
    {stats : FinalForm.Stats} {world after : World}
    (h : (writeOutput settings staged).on world = (.ok stats, after)) :
    (∃ location content, Delivers settings out staged location content world.files after.files) ∧
      after.temps = world.temps := by
  unfold writeOutput at h
  rw [houtput] at h
  obtain ⟨_, opened, hopen, h⟩ := on_bind_eq_ok_iff.mp h
  obtain ⟨location, hwritable, rfl⟩ := openOutput_ok hopen
  rw [on_files_bind] at h
  cases hread : (world.files.put location (.file [])).read staged with
  | error fault =>
      rw [hread, on_ofIo_error_bind] at h
      simp at h
  | ok content =>
      rw [hread, on_ofIo_ok_bind] at h
      rcases hfinal : FinalForm.write content settings.delimiter (!settings.keepNames)
        with ⟨result, written⟩
      simp only [hfinal] at h
      obtain ⟨_, last, hwrite, h⟩ := on_bind_eq_ok_iff.mp h
      obtain ⟨location', hwritable', -, rfl⟩ := write_ok hwrite
      obtain rfl : location = location' := by
        have hedits := BuiltIn.edits_put hwritable []
        have hsame := hwritable'.fileAt
        rw [hedits.fileAt?_eq, hwritable.fileAt] at hsame
        exact Option.some.inj hsame
      cases result with
      | error fault => simp at h
      | ok found =>
          obtain ⟨-, rfl⟩ := Prod.mk.inj h
          exact ⟨⟨location, content, hwritable, hread, by rw [hfinal]⟩, rfl⟩

theorem finish_ok (houtput : settings.output = .file out) {reference : InputReference}
    {resolved : Resolved} {outcome : Outcome} {staged reject : Path} {world after : World}
    (h : (finish session reference settings resolved outcome staged reject).on world =
      (.ok (), after)) :
    (∃ location content, Delivers settings out staged location content world.files after.files) ∧
      after.temps = world.temps := by
  unfold finish at h
  obtain ⟨stats, last, hwrite, h⟩ := on_bind_eq_ok_iff.mp h
  rw [on_files_bind, on_report] at h
  obtain ⟨-, rfl⟩ := Prod.mk.inj h
  obtain ⟨hdelivers, htemps⟩ := writeOutput_ok houtput hwrite
  exact ⟨hdelivers, htemps⟩

/-- A decision for a run with an output file that may succeed is one to write the output. -/
theorem decide_of_file (houtput : settings.output = .file out) (hcheck : settings.checkOnly = false)
    (outcome : Outcome) :
    Policy.decide outcome settings = .proceed ∨
      ∃ failAfter, Policy.decide outcome settings = .proceedWithWarnings failAfter := by
  simp only [Policy.decide, hcheck, houtput, Output.isStdout]
  cases outcome.hasErrors with
  | false => exact .inl rfl
  | true => exact .inr ⟨settings.strict, rfl⟩

theorem body_ok (houtput : settings.output = .file out) (hcheck : settings.checkOnly = false)
    {reference : InputReference} {tempDir reject : Path} {baseName : String} {world after : World}
    (h : (body session reference settings tempDir baseName reject).on world = (.ok (), after)) :
    ∃ resolved middle report validated location content,
      (Resolution.resolve reference settings tempDir baseName).on
        { world with temps := world.temps.register (stagedPath tempDir baseName) } =
          (.ok resolved, middle) ∧
      session.engine.validate middle.files resolved.source { skipRows := settings.skipRows }
        (stagedPath tempDir baseName) reject = (.ok report, validated) ∧
      Delivers settings out (stagedPath tempDir baseName) location content validated after.files ∧
      after.temps = middle.temps := by
  unfold body at h
  dsimp only at h
  rw [on_bind_of_ok (on_register _ _)] at h
  obtain ⟨resolved, middle, hresolve, h⟩ := on_bind_eq_ok_iff.mp h
  obtain ⟨outcome, judged, hvalidate, h⟩ := on_bind_eq_ok_iff.mp h
  obtain ⟨report, fs, hreport, -, rfl⟩ := Validation.run_ok hvalidate
  rcases happly : Policy.apply outcome settings reject with ⟨decision, events⟩
  have hdecision : decision = Policy.decide outcome settings := by
    rw [show decision = (Policy.apply outcome settings reject).1 by rw [happly]]
    rfl
  simp only [happly] at h
  rw [on_bind_of_ok (on_reportAll _ _)] at h
  have hfinish : ∃ last, (finish session reference settings resolved outcome
      (stagedPath tempDir baseName) reject).on
        { middle with files := fs, events := middle.events ++ events } = (.ok (), last) ∧
          after = last := by
    rcases decide_of_file houtput hcheck outcome with hproceed | ⟨failAfter, hwarn⟩
    · rw [hdecision, hproceed] at h
      exact ⟨after, h, rfl⟩
    · rw [hdecision, hwarn] at h
      obtain ⟨_, last, hlast, h⟩ := on_bind_eq_ok_iff.mp h
      split at h
      · simp at h
      · exact ⟨last, hlast, (Prod.mk.inj h).2.symm⟩
  obtain ⟨last, hlast, rfl⟩ := hfinish
  obtain ⟨⟨location, content, hdelivers⟩, htemps⟩ := finish_ok houtput hlast
  exact ⟨resolved, middle, report, fs, location, content, hresolve, hreport, hdelivers, htemps⟩

/-! ## The way to the output -/

variable {before : FileSystem} {location : Location} {content : Bytes} {argument : String}
  {input : Path} {options : Options}

/-- A run that succeeds has done so up to the point where it tidies up, from a world in which its
input is as it was. -/
theorem execute_ok (hpath : (InputReference.ofArgument argument).path? = some input)
    (hlocation : before.fileAt? input = some location)
    (hfile : before.entryAt? location = some (.file content))
    (hsettings : options.settings (.ofLocation before.home)
      (InputReference.ofArgument argument).baseName = .ok settings)
    (hcheck : settings.checkOnly = false) {world last : World}
    (hworld : Keeps before location world)
    (h : (execute session argument options).on world = (.ok (), last)) :
    ∃ start after, Keeps before location start ∧ start.temps = world.temps ∧
      (body session (InputReference.ofArgument argument) settings (session.directory settings)
        (InputReference.ofArgument argument).baseName
        (rejectPath settings (session.directory settings)
          (InputReference.ofArgument argument).baseName)).on start = (.ok (), after) ∧
      last.files = after.files.tidy after.temps (some (rejectPath settings
        (session.directory settings) (InputReference.ofArgument argument).baseName)) := by
  unfold execute at h
  dsimp only at h
  rcases on_prepare (InputReference.ofArgument argument) options
      (InputReference.ofArgument argument).baseName world with
    ⟨failure, hprepare⟩ | ⟨found, hprepare, hfound, -⟩
  · rw [on_bind_of_error hprepare] at h
    simp at h
  · rw [on_bind_of_ok hprepare] at h
    rw [hworld.directories.home_eq, hsettings] at hfound
    obtain rfl := Except.ok.inj hfound
    simp only [hcheck, Bool.false_eq_true, if_false] at h
    obtain ⟨_, opened, hopen, h⟩ := on_bind_eq_ok_iff.mp h
    obtain ⟨_, start, hstale, h⟩ := on_bind_eq_ok_iff.mp h
    have hopened := makeOutputDir_maintains hfile settings.output world hworld
    have hopened' : ((makeOutputDir settings.output).on world).2.temps = world.temps :=
      (makeOutputDir_silent (fun _ _ => rfl) settings.output).view_eq world
    rw [hopen] at hopened hopened'
    have hreject := rejectPath_ne hpath hlocation settings (session.directory settings)
    have hstart := Maintains.of_edits (removeStale_edits hreject) opened hopened
    have hstart' : ((removeStale (rejectPath settings (session.directory settings)
        (InputReference.ofArgument argument).baseName)).on opened).2.temps = opened.temps :=
      (removeStale_silent (fun _ _ => rfl) _).view_eq opened
    rw [hstale] at hstart hstart'
    rw [on_tidying] at h
    obtain ⟨hbody, rfl⟩ := Prod.mk.inj h
    exact ⟨start, _, hstart, hstart'.trans hopened', Prod.ext hbody rfl, rfl⟩

/-! ## What is removed -/

/-- The intermediate files that a run registers. -/
def temporaries (session : Session) (settings : Settings) (reference : InputReference)
    (bytes : Bytes) : List Path :=
  stagedPath (session.directory settings) reference.baseName ::
    Resolution.intermediates settings (session.directory settings) reference.baseName bytes
      reference

/-- Where the engine may write its file, the other intermediate files may be as well, since their
names are not longer. -/
theorem fileAt?_temporaries {fs : FileSystem} {session : Session} {settings : Settings}
    {reference : InputReference} {bytes : Bytes} {staged : Location}
    (h : fs.fileAt? (stagedPath (session.directory settings) reference.baseName) = some staged)
    {p : Path} (hp : p ∈ session.temporaries settings reference bytes) :
    fs.fileAt? p = some (p.location fs.home) := by
  have hstaged : "_staged.csv" ∈ InputReference.ownEndings := by simp [InputReference.ownEndings]
  rcases List.mem_cons.mp hp with hfirst | hin
  · rw [hfirst, h, location_of_fileAt? h]
  · rcases Resolution.mem_intermediates hin with hutf8 | hfixed
    · rw [hutf8]
      exact Resolution.fileAt?_derivedPath hstaged (by simp [InputReference.ownEndings])
        (by decide) h
    · rw [hfixed]
      exact Resolution.fileAt?_derivedPath hstaged (by simp [InputReference.ownEndings])
        (by decide) h

/-- The final form of the rows that conform, under their names. -/
def finalContent (settings : Settings) (names : List String) (rows : List Csv.Record) : Bytes :=
  (FinalForm.write
    (Csv.encodeRecords Bytes.comma (Pass.headerRecord names ::
      Pass.kept (Pass.schemaOf { skipRows := settings.skipRows } names rows) rows))
    settings.delimiter (!settings.keepNames)).2

/-- A run removes its own output: it is one of the intermediate files, or it is where the file of
rejected rows was and holds one record at most. -/
def Discards (session : Session) (settings : Settings) (reference : InputReference)
    (bytes final : Bytes) (home : Location) (out : Path) : Prop :=
  (∃ p ∈ session.temporaries settings reference bytes, p.location home = out.location home) ∨
    ((rejectPath settings (session.directory settings) reference.baseName).location home =
      out.location home ∧ Csv.countRecords final ≤ 1)

/-- What a run that writes its output to a file leaves before it tidies up. The file of the engine is
the source of what is written, unless the output has taken its place. -/
structure Leaves (session : Session) (settings : Settings) (reference : InputReference)
    (bytes final : Bytes) (out : Path) (location : Location) (written : Bytes) (after : World) :
    Prop where
  temps : after.temps =
    (session.temporaries settings reference bytes).foldl TempFiles.register .empty
  out : after.files.fileAt? out = some location
  entry : after.files.entryAt? location = some (.file written)
  staged : ∃ staged, after.files.fileAt?
    (stagedPath (session.directory settings) reference.baseName) = some staged
  reject : ∃ rejected, after.files.fileAt?
    (rejectPath settings (session.directory settings) reference.baseName) = some rejected
  written_eq : (stagedPath (session.directory settings) reference.baseName).location
    after.files.home ≠ location → written = final

namespace Leaves

variable {reference : InputReference} {bytes final written : Bytes} {location : Location}
  {after : World}

/-- Whether tidying up removes the output can be told from the locations of paths. -/
theorem discards_iff (h : Leaves session settings reference bytes final out location written after) :
    ((∃ p ∈ after.temps.paths, after.files.fileAt? p = some location) ∨
      after.files.fileAt? (rejectPath settings (session.directory settings) reference.baseName) =
        some location ∧ Csv.countRecords written ≤ 1) ↔
      session.Discards settings reference bytes final after.files.home out := by
  obtain ⟨staged, hstaged⟩ := h.staged
  obtain ⟨rejected, hreject⟩ := h.reject
  have hregistered : (∃ p ∈ after.temps.paths, after.files.fileAt? p = some location) ↔
      Registered after.files.home after.temps location := by
    constructor
    · rintro ⟨p, hp, hfile⟩
      exact ⟨p, hp, location_of_fileAt? hfile⟩
    · rintro ⟨p, hp, hlocation⟩
      have hmem : p ∈ session.temporaries settings reference bytes := by
        rw [h.temps] at hp
        simpa [TempFiles.empty] using mem_of_mem_foldl_register hp
      exact ⟨p, hp, by rw [fileAt?_temporaries hstaged hmem, hlocation]⟩
  have hnone : ¬ Registered after.files.home .empty location := by
    simp [Registered, TempFiles.empty]
  rw [hregistered, h.temps, registered_foldl_register_iff, Discards, location_of_fileAt? h.out,
    hreject, location_of_fileAt? hreject, Option.some.injEq]
  by_cases hsame :
      (stagedPath (session.directory settings) reference.baseName).location after.files.home =
        location
  · have hfirst : ∃ p ∈ session.temporaries settings reference bytes,
        p.location after.files.home = location := ⟨_, by simp [temporaries], hsame⟩
    simp [hfirst]
  · rw [h.written_eq hsame]
    simp [hnone]

/-- The output is gone after tidying up, or holds what was to be written. -/
theorem tidied (h : Leaves session settings reference bytes final out location written after)
    {files : FileSystem} (hfiles : files = after.files.tidy after.temps (some
      (rejectPath settings (session.directory settings) reference.baseName))) :
    (session.Discards settings reference bytes final after.files.home out →
      files.contains out = false) ∧
    (¬ session.Discards settings reference bytes final after.files.home out →
      files.read out = .ok final) := by
  have hentry := entryAt?_tidy after.temps
    (rejectPath settings (session.directory settings) reference.baseName) h.entry
  have hedits : EditsFiles (fun _ => True) after.files files := by
    rw [hfiles]
    exact .tidy (fun _ _ => trivial) trivial
  have hout : files.fileAt? out = some location := by rw [hedits.fileAt?_eq, h.out]
  rw [← hfiles] at hentry
  constructor
  · intro hdiscards
    rw [if_pos (h.discards_iff.mpr hdiscards)] at hentry
    exact contains_eq_false hout hentry
  · intro hkept
    have hstaged : (stagedPath (session.directory settings) reference.baseName).location
        after.files.home ≠ location := by
      intro hsame
      refine hkept (.inl ⟨_, List.mem_cons_self, ?_⟩)
      rw [hsame, location_of_fileAt? h.out]
    rw [if_neg fun hgone => hkept (h.discards_iff.mp hgone), h.written_eq hstaged] at hentry
    exact read_eq_ok_iff.mpr ⟨location, hout, hentry⟩

end Leaves

/-! ## The run -/

theorem read_input_of_execute_ok {reference : InputReference}
    (hreference : InputReference.ofArgument argument = reference)
    (hpath : reference.path? = some input) {world last : World}
    (h : (execute session argument options).on world = (.ok (), last)) :
    ∃ bytes, world.files.read input = .ok bytes := by
  subst hreference
  unfold execute at h
  dsimp only at h
  rcases on_prepare (InputReference.ofArgument argument) options
      (InputReference.ofArgument argument).baseName world with
    ⟨failure, hprepare⟩ | ⟨found, -, -, hinput⟩
  · rw [on_bind_of_error hprepare] at h
    simp at h
  · apply isFile_iff.mp
    simp only [checkInput, hpath] at hinput
    split at hinput
    · simp at hinput
    · split at hinput
      · simp at hinput
      · next hfile => simpa using hfile

theorem stagedPath_ne_rejectPath (home : Location) (reference : InputReference)
    (settings : Settings) (directory : Path) :
    (stagedPath directory reference.baseName).location home ≠
      (rejectPath settings directory reference.baseName).location home := by
  obtain ⟨parent, hreject⟩ := location_rejectPath home reference settings directory
  rw [hreject, stagedPath, location_derivedPath home reference directory
    (by simp [InputReference.ownEndings])]
  exact InputReference.own_ne_own (by decide) _ _

/-- What a run leaves before it tidies up, if it succeeds with the built-in engine. -/
theorem body_builtIn_ok {network : Network} (hengine : session.engine = .builtIn network)
    {reference : InputReference} (hpath : reference.path? = some input)
    (hlocation : before.fileAt? input = some location)
    (hfile : before.entryAt? location = some (.file content))
    (houtput : settings.output = .file out) (hcheck : settings.checkOnly = false)
    {start after : World} (hstart : Keeps before location start) (htemps : start.temps = .empty)
    (h : (body session reference settings (session.directory settings) reference.baseName
      (rejectPath settings (session.directory settings) reference.baseName)).on start =
        (.ok (), after)) :
    ∃ document names rows place written,
      Resolution.engineContent? settings content reference = some document ∧
      BuiltIn.Shows { skipRows := settings.skipRows } document names rows ∧ names ≠ [] ∧
      after.files.home = before.home ∧
      session.Leaves settings reference content (finalContent settings names rows) out place
        written after := by
  obtain ⟨resolved, middle, report, validated, place, kept, hresolve, hvalidate, hdelivers,
    htemps'⟩ := body_ok houtput hcheck h
  rw [hengine] at hvalidate
  have hhome : start.files.home = before.home := hstart.directories.home_eq
  have hread : start.files.read input = .ok content := hstart.read hlocation hfile
  have hutf8 : input.location start.files.home ≠ (Resolution.derivedPath
      (session.directory settings) reference.baseName "_utf8.csv").location start.files.home := by
    have hown := ownTouched_ne hpath hlocation (session.directory settings) "_utf8.csv"
      (by simp [InputReference.ownEndings])
    rw [hhome, location_of_fileAt? hlocation]
    exact hown.symm
  obtain ⟨hregistered, hloads⟩ := Resolution.resolve_ok hpath hresolve hread hutf8
  obtain ⟨document, names, rows, hload, hshows, hnames, -, hstaged, hreject⟩ :=
    BuiltIn.validate_shows (BuiltIn.validate_of_builtIn hvalidate)
      (stagedPath_ne_rejectPath middle.files.home reference settings _)
  have hresolved : EditsFiles (fun _ => True) start.files middle.files := by
    have hall : Resolution.IntermediatesTouched start.files.home (fun _ => True)
        (session.directory settings) reference.baseName := ⟨trivial, trivial, trivial⟩
    have hedits := (Resolution.resolve_edits hall reference settings).files_of_on hresolve rfl
    exact hedits
  have hvalidated : validated.home = middle.files.home := by
    have hedits := Engine.builtIn_editsOnlyItsFiles network middle.files resolved.source
      { skipRows := settings.skipRows } (stagedPath (session.directory settings) reference.baseName)
      (rejectPath settings (session.directory settings) reference.baseName)
    rw [hvalidate] at hedits
    exact hedits.home_eq
  have hlast := hdelivers.edits
  have hfiles : ∀ {p : Path} {bytes : Bytes}, validated.read p = .ok bytes →
      ∃ found, after.files.fileAt? p = some found := by
    intro p bytes hbytes
    obtain ⟨found, hfound, -⟩ := read_eq_ok_iff.mp hbytes
    exact ⟨found, (hlast.fileAt?_eq p).trans hfound⟩
  refine ⟨document, names, rows, place, _, hloads network document hload, hshows, hnames, ?_,
    ?_, (hlast.fileAt?_eq out).trans hdelivers.writable.fileAt, hdelivers.entry, hfiles hstaged,
    hfiles hreject, fun hne => ?_⟩
  · rw [hlast.home_eq, hvalidated, hresolved.home_eq, hhome]
  · rw [htemps', hregistered, htemps]
    rfl
  · rw [hlast.home_eq] at hne
    have hkept := hdelivers.read_of_ne hne
    rw [hstaged] at hkept
    rw [← Except.ok.inj hkept]
    rfl

/-- A run with the built-in engine that succeeds and writes its output to a file leaves the final
form of its input there, or removes the output itself: which of both can be told from the paths and
the number of records. -/
theorem run_output {network : Network} (hengine : session.engine = .builtIn network)
    (hpath : (InputReference.ofArgument argument).path? = some input) {files : FileSystem}
    {stdin : Stdin} {disk : Disk} (hsettings : options.settings (.ofLocation files.home)
      (InputReference.ofArgument argument).baseName = .ok settings)
    (houtput : settings.output = .file out) (hcheck : settings.checkOnly = false) {world : World}
    (hrun : session.run argument options (.initial files stdin disk) = (.success, world)) :
    ∃ bytes document names rows,
      files.read input = .ok bytes ∧
      Resolution.engineContent? settings bytes (.ofArgument argument) = some document ∧
      BuiltIn.Shows { skipRows := settings.skipRows } document names rows ∧
      (FinalForm.Unmarked names → finalContent settings names rows =
        Csv.encodeRecords settings.delimiter
          (Pass.headerRecord (FinalForm.finalNames (!settings.keepNames) names) ::
            Pass.kept (Pass.schemaOf { skipRows := settings.skipRows } names rows) rows)) ∧
      (session.Discards settings (.ofArgument argument) bytes (finalContent settings names rows)
        files.home out → world.files.contains out = false) ∧
      (¬ session.Discards settings (.ofArgument argument) bytes
        (finalContent settings names rows) files.home out →
          world.files.read out = .ok (finalContent settings names rows)) := by
  obtain ⟨last, hexecute, hworld⟩ : ∃ last, (session.execute argument options).on
      (.initial files stdin disk) = (.ok (), last) ∧ world.files = last.files := by
    have hfiles := run_files session argument options (.initial files stdin disk)
    rw [hrun] at hfiles
    rcases hresult : (session.execute argument options).on (.initial files stdin disk) with
      ⟨_ | _, last⟩
    · simp [run, hresult] at hrun
    · rw [hresult] at hfiles
      exact ⟨last, rfl, hfiles⟩
  obtain ⟨bytes, hread⟩ := read_input_of_execute_ok rfl hpath hexecute
  obtain ⟨location, hlocation, hfile⟩ := read_eq_ok_iff.mp hread
  obtain ⟨start, after, hstart, htemps, hbody, htidy⟩ := execute_ok hpath hlocation hfile hsettings
    hcheck (.initial files location stdin disk) hexecute
  obtain ⟨document, names, rows, place, written, hdocument, hshows, hnames, hhome, hleaves⟩ :=
    body_builtIn_ok hengine hpath hlocation hfile houtput hcheck hstart htemps hbody
  have htidied := hleaves.tidied (hworld.trans htidy)
  rw [hhome] at htidied
  refine ⟨bytes, document, names, rows, hread, hdocument, hshows, fun hmark => ?_, htidied⟩
  rw [finalContent, FinalForm.write_of_unmarked hnames hmark fun row hrow => ?_]
  rw [Pass.length_of_mem_kept hrow, Pass.width_schemaOf]

/-- A file system with a document of one row. -/
def oneRow : FileSystem :=
  (FileSystem.empty []).put ["in.csv"] (.file (Utf8.ofString "a,b\n1,2\n"))

/-- A run on that document whose output is named as the file of the engine. -/
def runIntoStaged : ExitStatus × World :=
  run ⟨.builtIn .unreachable, none, ⟨"/"⟩⟩ "in.csv"
    { output := some ⟨"in_staged.csv"⟩, force := true } (.initial oneRow .terminal)

/-- The run succeeds, and leaves no output. -/
theorem runIntoStaged_discards :
    runIntoStaged.1 = .success ∧ runIntoStaged.2.files.contains ⟨"in_staged.csv"⟩ = false := by
  have hsuccess : runIntoStaged.1 = .success := by decide +kernel
  have hrun : runIntoStaged = (.success, runIntoStaged.2) := by rw [← hsuccess]
  have hpath : (InputReference.ofArgument "in.csv").path? = some ⟨"in.csv"⟩ := by decide +kernel
  have hsettings : Options.settings { output := some ⟨"in_staged.csv"⟩, force := true }
      (.ofLocation oneRow.home) (InputReference.ofArgument "in.csv").baseName =
        .ok ⟨0x2C, false, true, false, false, none, 0, .file ⟨"in_staged.csv"⟩⟩ := by
    decide
  obtain ⟨bytes, document, names, rows, -, -, -, -, hdiscards, -⟩ :=
    run_output rfl hpath hsettings rfl rfl hrun
  refine ⟨hsuccess, hdiscards (.inl ⟨_, List.mem_cons_self, ?_⟩)⟩
  decide

end Session

end TidyCsv
