import TidyCsv.Proofs.Run.Output
import TidyCsv.Proofs.Run.Stages

/-! # What a check predicts

A check stops after the assessment, and a strict run to standard output goes on from there exactly
if no row was rejected. Nothing can go wrong after that, since what the engine kept can always be
written anew. So a check succeeds if and only if the strict run does. -/

namespace TidyCsv

open FileSystem Run

namespace Resolution

/-- Of the settings, resolving an input depends on the repair only. -/
theorem resolve_congr {settings other : Settings} (h : repairSample settings = repairSample other)
    (reference : InputReference) (directory : Path) (baseName : String) :
    resolve reference settings directory baseName = resolve reference other directory baseName := by
  have hfile : ∀ path, resolveFile settings directory baseName path =
      resolveFile other directory baseName path := by
    intro path
    unfold repairSample at h
    simp only [resolveFile, h]
  cases reference with
  | remote url => rfl
  | compressed path kind => rfl
  | stdin => simp only [resolve, hfile]
  | file path => exact hfile path

end Resolution

namespace Session

variable {session : Session} {settings other : Settings} {reference : InputReference}
  {argument : String} {options : Options} {world start judged : World}

/-! ## The first two stages -/

theorem makeOutputDir_of_stdout (houtput : settings.output = .stdout) :
    (if settings.checkOnly then pure () else makeOutputDir settings.output : Run Unit) =
      pure () := by
  simp [houtput, makeOutputDir, Output.path?]

theorem getReady_eq_ok_iff_of_stdout
    (hsettings : options.settings (.ofLocation world.files.home)
      (InputReference.ofArgument argument).baseName = .ok settings)
    (houtput : settings.output = .stdout) :
    (session.getReady argument options).on world = (.ok settings, start) ↔
      checkInput world.files (.ofArgument argument) = .ok () ∧
        checkStdin world.stdin (.ofArgument argument) = .ok () ∧
        (removeStale (session.reject settings (.ofArgument argument))).on world =
          (.ok (), start) := by
  have hfree : checkOutput world.files settings.output settings.force = .ok () := by
    rw [houtput]
    rfl
  rw [getReady_eq_ok_iff, prepare_eq_ok_iff, makeOutputDir_of_stdout houtput]
  constructor
  · rintro ⟨⟨-, hinput, hstdin, -, -⟩, opened, ⟨⟩, hstale⟩
    exact ⟨hinput, hstdin, hstale⟩
  · rintro ⟨hinput, hstdin, hstale⟩
    exact ⟨⟨rfl, hinput, hstdin, hsettings, .inr hfree⟩, world, rfl, hstale⟩

variable (start) in
/-- An assessment comes to the same under settings that agree in what it depends on. -/
theorem assess_congr (hdirectory : session.directory settings = session.directory other)
    (hreject : session.reject settings reference = session.reject other reference)
    (hskip : settings.skipRows = other.skipRows)
    (hrepair : Resolution.repairSample settings = Resolution.repairSample other) :
    ((session.assess settings reference).on start).1 =
        ((session.assess other reference).on start).1 ∧
      ((session.assess settings reference).on start).2.files =
        ((session.assess other reference).on start).2.files := by
  have hstaged : session.staged settings reference = session.staged other reference := by
    simp only [staged, hdirectory]
  rw [on_assess, on_assess, hdirectory, hstaged, hreject, hskip,
    Resolution.resolve_congr hrepair]
  split
  · exact ⟨rfl, rfl⟩
  · split
    · exact ⟨rfl, rfl⟩
    · exact ⟨rfl, rfl⟩

/-- What the engine kept is there at the end of an assessment, as a document with a header. -/
theorem read_staged_of_assess {network : Network} (hengine : session.engine = .builtIn network)
    {resolved : Resolved} {outcome : Outcome}
    (h : (session.assess settings reference).on start = (.ok (resolved, outcome), judged)) :
    ∃ names rows, names ≠ [] ∧ (∀ row ∈ rows, row.length = names.length) ∧
      judged.files.read (session.staged settings reference) =
        .ok (Csv.encodeRecords Bytes.comma (Pass.headerRecord names :: rows)) := by
  rw [on_assess] at h
  split at h
  · simp at h
  · next found middle _ =>
      split at h
      · simp at h
      · next hvalidate =>
          obtain ⟨-, rfl⟩ := Prod.mk.inj h
          obtain ⟨report, after, hreport, -, rfl⟩ := Validation.run_ok hvalidate
          rw [hengine] at hreport
          obtain ⟨content, names, rows, -, -, hnames, -, hstaged, -⟩ :=
            BuiltIn.validate_shows (BuiltIn.validate_of_builtIn hreport)
              (stagedPath_ne_rejectPath _ reference settings _)
          refine ⟨names, _, hnames, fun row hrow => ?_, hstaged⟩
          rw [Pass.length_of_mem_kept hrow, Pass.width_schemaOf]

/-! ## The third stage -/

theorem settle_check (hcheck : settings.checkOnly = true) (resolved : Resolved)
    (outcome : Outcome) :
    ((session.settle settings reference resolved outcome).on judged).1 = .ok () ↔
      outcome.hasErrors = false := by
  cases herrors : outcome.hasErrors <;> simp [settle, Policy.decide, hcheck, herrors]

/-- Writing to standard output cannot fail if what was kept can be written anew. -/
theorem writeOutput_of_stdout (houtput : settings.output = .stdout) {staged : Path}
    {content written : Bytes} {stats : FinalForm.Stats} (hread : world.files.read staged = .ok content)
    (hwrite : FinalForm.write content settings.delimiter (!settings.keepNames) =
      (.ok stats, written)) :
    (writeOutput settings staged).on world =
      (.ok stats, { world with stdout := world.stdout ++ written }) := by
  have hopen : (openOutput .stdout settings.force).on world = (.ok (), world) := rfl
  unfold writeOutput
  rw [houtput, on_bind_of_ok hopen, on_files_bind, hread, on_ofIo_ok_bind]
  simp only [hwrite]
  rfl

/-- A strict run to standard output succeeds if no row was rejected: what was kept can be written
anew. -/
theorem settle_strict (hcheck : settings.checkOnly = false) (hstrict : settings.strict = true)
    (houtput : settings.output = .stdout) {resolved : Resolved} {outcome : Outcome}
    {names : List String} {rows : List (List Bytes)} (hnames : names ≠ [])
    (hrows : ∀ row ∈ rows, row.length = names.length)
    (hread : judged.files.read (session.staged settings reference) =
      .ok (Csv.encodeRecords Bytes.comma (Pass.headerRecord names :: rows))) :
    ((session.settle settings reference resolved outcome).on judged).1 = .ok () ↔
      outcome.hasErrors = false := by
  cases herrors : outcome.hasErrors with
  | true => simp [settle, Policy.decide, hcheck, hstrict, houtput, herrors, Output.isStdout]
  | false =>
      obtain ⟨stats, written, hwrite⟩ :=
        FinalForm.write_ok hnames hrows (!settings.keepNames) settings.delimiter
      obtain ⟨last, hfinish⟩ := finish_of_writeOutput session
        (writeOutput_of_stdout houtput hread hwrite) reference resolved outcome
        (session.reject settings reference)
      simp [settle, Policy.decide, hcheck, herrors, hfinish]

/-! ## The runs -/

/-- A run that gets through its assessment does so under other options too, as long as these agree
with its own in what the first two stages depend on. -/
theorem Assesses.congr_of_stdout {resolved : Resolved} {outcome : Outcome} {others : Options}
    (h : session.Assesses argument options world settings resolved outcome judged)
    (hother : others.settings (.ofLocation world.files.home)
      (InputReference.ofArgument argument).baseName = .ok other)
    (houtput : settings.output = .stdout) (houtput' : other.output = .stdout)
    (hskip : settings.skipRows = other.skipRows)
    (hrepair : Resolution.repairSample settings = Resolution.repairSample other) :
    ∃ judged', session.Assesses argument others world other resolved outcome judged' := by
  have hdirectory : session.directory settings = session.directory other := by
    simp [Session.directory, defaultTempDir, houtput, houtput', Output.path?]
  have hreject : session.reject settings (.ofArgument argument) =
      session.reject other (.ofArgument argument) := by
    simp [reject, rejectPath, houtput, houtput', Output.path?, hdirectory]
  obtain ⟨start, hready, hassess⟩ := h
  obtain ⟨hinput, hstdin, hstale⟩ :=
    (getReady_eq_ok_iff_of_stdout (settings_of_getReady hready) houtput).mp hready
  have hready' : (session.getReady argument others).on world = (.ok other, start) :=
    (getReady_eq_ok_iff_of_stdout hother houtput').mpr ⟨hinput, hstdin, hreject ▸ hstale⟩
  have hsame := assess_congr start hdirectory hreject hskip hrepair
  rw [hassess] at hsame
  exact ⟨((session.assess other (.ofArgument argument)).on start).2, start, hready',
    Prod.ext hsame.1.symm rfl⟩

variable (options) in
theorem settings_of_parse {delimiter : UInt8} (h : Delimiter.parse options.delimiter = .ok delimiter)
    (home : Path) (baseName : String) :
    ∃ settings, options.settings home baseName = .ok settings ∧
      settings.checkOnly = options.checkOnly ∧ settings.strict = options.strict ∧
      settings.skipRows = options.skipRows ∧
      settings.mojibakeSample = options.mojibakeSample.filter (0 < ·) ∧
      settings.output = options.target home baseName := by
  refine ⟨_, by rw [Options.settings, h], rfl, rfl, rfl, rfl, rfl⟩

theorem parse_of_success (h : (session.run argument options world).1 = .success) :
    ∃ delimiter, Delimiter.parse options.delimiter = .ok delimiter := by
  obtain ⟨settings, resolved, outcome, judged, ⟨start, hready, -⟩, -⟩ := run_eq_success_iff.mp h
  have hsettings := settings_of_getReady hready
  cases hdelimiter : Delimiter.parse options.delimiter with
  | error reason => simp [Options.settings, hdelimiter] at hsettings
  | ok delimiter => exact ⟨delimiter, rfl⟩

/-- A run gets through its assessment, and no row is rejected. -/
def IsClean (session : Session) (argument : String) (options : Options) (world : World)
    (settings : Settings) : Prop :=
  ∃ resolved outcome judged,
    session.Assesses argument options world settings resolved outcome judged ∧
      outcome.hasErrors = false

section Clean

variable (hsettings : options.settings (.ofLocation world.files.home)
  (InputReference.ofArgument argument).baseName = .ok settings)
include hsettings

/-- A run succeeds if it is clean, and if settling its assessment depends on that only. -/
theorem run_eq_success_iff_isClean
    (hsettle : ∀ resolved outcome judged,
      session.Assesses argument options world settings resolved outcome judged →
        (((session.settle settings (.ofArgument argument) resolved outcome).on judged).1 = .ok () ↔
          outcome.hasErrors = false)) :
    (session.run argument options world).1 = .success ↔
      session.IsClean argument options world settings := by
  rw [run_eq_success_iff]
  constructor
  · rintro ⟨found, resolved, outcome, judged, hassess, hsettled⟩
    obtain rfl : settings = found :=
      Except.ok.inj (hsettings.symm.trans (settings_of_getReady hassess.choose_spec.1))
    exact ⟨resolved, outcome, judged, hassess, (hsettle _ _ _ hassess).mp hsettled⟩
  · rintro ⟨resolved, outcome, judged, hassess, herrors⟩
    exact ⟨settings, resolved, outcome, judged, hassess, (hsettle _ _ _ hassess).mpr herrors⟩

theorem run_check_iff (hcheck : settings.checkOnly = true) :
    (session.run argument options world).1 = .success ↔
      session.IsClean argument options world settings :=
  run_eq_success_iff_isClean hsettings fun resolved outcome _ _ =>
    settle_check hcheck resolved outcome

theorem run_strict_iff {network : Network} (hengine : session.engine = .builtIn network)
    (hcheck : settings.checkOnly = false) (hstrict : settings.strict = true)
    (houtput : settings.output = .stdout) :
    (session.run argument options world).1 = .success ↔
      session.IsClean argument options world settings := by
  refine run_eq_success_iff_isClean hsettings fun resolved outcome judged hassess => ?_
  obtain ⟨start, -, hassess⟩ := hassess
  obtain ⟨names, rows, hnames, hrows, hread⟩ := read_staged_of_assess hengine hassess
  exact settle_strict hcheck hstrict houtput hnames hrows hread

end Clean

/-- With the repair off and standard output as the target, a check succeeds if and only if the strict
run does that starts from the same world. -/
theorem check_succeeds_iff_strict {network : Network} (hengine : session.engine = .builtIn network)
    (hrepair : options.mojibakeSample.filter (0 < ·) = none)
    (houtput : options.target (.ofLocation world.files.home)
      (InputReference.ofArgument argument).baseName = .stdout) :
    (session.run argument { options with checkOnly := true } world).1 = .success ↔
      (session.run argument { options with checkOnly := false, strict := true } world).1 =
        .success := by
  cases hdelimiter : Delimiter.parse options.delimiter with
  | error reason =>
      refine iff_of_false (fun h => ?_) fun h => ?_
      · simpa [hdelimiter] using parse_of_success h
      · simpa [hdelimiter] using parse_of_success h
  | ok delimiter =>
      obtain ⟨check, hcheck, hischeck, -, hskip, hsample, htarget⟩ :=
        settings_of_parse { options with checkOnly := true } hdelimiter
          (.ofLocation world.files.home) (InputReference.ofArgument argument).baseName
      obtain ⟨strict, hstrict, hnocheck, hisstrict, hskip', hsample', htarget'⟩ :=
        settings_of_parse { options with checkOnly := false, strict := true } hdelimiter
          (.ofLocation world.files.home) (InputReference.ofArgument argument).baseName
      have hout : check.output = .stdout := htarget.trans houtput
      have hout' : strict.output = .stdout := htarget'.trans houtput
      have hskips : check.skipRows = strict.skipRows := hskip.trans hskip'.symm
      have hoff : Resolution.repairSample check = Resolution.repairSample strict := by
        simp [Resolution.repairSample, hsample, hsample', hrepair]
      rw [run_check_iff hcheck hischeck, run_strict_iff hstrict hengine hnocheck hisstrict hout']
      constructor
      · rintro ⟨resolved, outcome, judged, hassess, herrors⟩
        obtain ⟨judged', hassess'⟩ :=
          hassess.congr_of_stdout hstrict hout hout' hskips hoff
        exact ⟨resolved, outcome, judged', hassess', herrors⟩
      · rintro ⟨resolved, outcome, judged, hassess, herrors⟩
        obtain ⟨judged', hassess'⟩ :=
          hassess.congr_of_stdout hcheck hout' hout hskips.symm hoff.symm
        exact ⟨resolved, outcome, judged', hassess', herrors⟩

/-- A document that opens with three marks. The first one tells its encoding, the second one is not
read, and the third one belongs to the first name, so that what the engine keeps opens with it. -/
def thriceMarked : World :=
  .initial ((FileSystem.empty []).put ["in.csv"] (.file
    (Bytes.utf8Mark ++ Bytes.utf8Mark ++ Bytes.utf8Mark ++ Utf8.ofString "a,b\n1,2\n"))) .terminal

/-- A session that keeps its intermediate files at the root. -/
def rootSession : Session := ⟨.builtIn .unreachable, some ⟨"/"⟩, ⟨"/"⟩⟩

theorem check_thriceMarked :
    (none : Option Nat).filter (0 < ·) = none ∧
      Options.target { useStdout := true } (.ofLocation thriceMarked.files.home)
        (InputReference.ofArgument "in.csv").baseName = .stdout ∧
      (rootSession.run "in.csv" { useStdout := true, checkOnly := true } thriceMarked).1 =
        .success ∧
      (rootSession.run "in.csv" { useStdout := true, strict := true } thriceMarked).1 =
        .success := by
  have hcheck : (rootSession.run "in.csv" { useStdout := true, checkOnly := true }
      thriceMarked).1 = .success := by
    decide +kernel
  have hpredicted := @check_succeeds_iff_strict rootSession "in.csv" { useStdout := true }
    thriceMarked .unreachable rfl rfl rfl
  exact ⟨rfl, rfl, hcheck, hpredicted.mp hcheck⟩

end Session

end TidyCsv
