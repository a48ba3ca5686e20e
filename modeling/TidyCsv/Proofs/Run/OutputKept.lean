import TidyCsv.Proofs.Run.InputKept

/-! # When a run leaves its output alone

A run writes its output only after its input has been validated, and not even then if it is a check
or strict about rows on their way to standard output. Nothing else that it does changes an output
that is none of its own files. -/

namespace TidyCsv

open FileSystem Run

namespace Session

variable {session : Session} {argument : String} {options : Options} {settings : Settings}
  {reference : InputReference} {world start after : World}

/-! ## Before the output is written -/

/-- Getting ready adds directories, and removes the file of rejected rows from before. -/
theorem getReady_sameFile {location : Location}
    (hreject : ∀ settings, options.settings (.ofLocation world.files.home)
      (InputReference.ofArgument argument).baseName = .ok settings →
        (session.reject settings (.ofArgument argument)).location world.files.home ≠ location) :
    SameFile location world.files ((session.getReady argument options).on world).2.files ∧
      ((session.getReady argument options).on world).2.files.home = world.files.home := by
  rcases getReady_cases session argument options world with
    ⟨failure, hrefused⟩ | ⟨settings, hsettings, hready⟩
  · rw [hrefused]
    exact ⟨.refl _, rfl⟩
  · have hadds : AddsDirectories world.files (((if settings.checkOnly then pure () else
        makeOutputDir settings.output : Run Unit).on world).2.files) := by
      split
      · exact .refl _
      · exact makeOutputDir_adds settings.output world
    have hstale : EditsOnly world.files.home (· ≠ location) (removeStale
        (session.reject settings (.ofArgument argument)) >>= fun _ =>
          (pure settings : Run Settings)) :=
      .bind (removeStale_edits (hreject settings hsettings)) fun _ => .pure _
    rw [hready]
    refine on_bind_snd (P := fun after => SameFile location world.files after.files ∧
      after.files.home = world.files.home) ⟨.of_adds hadds, hadds.home_eq⟩ fun _ => ?_
    have hedits := hstale _ hadds.home_eq
    exact ⟨(SameFile.of_adds hadds).trans (.of_edits hedits.files (by simp)),
      hedits.files.home_eq.trans hadds.home_eq⟩

/-- No file that a run makes on its way, and none registered before, is at a location. -/
def Avoids (session : Session) (argument : String) (options : Options) (world : World)
    (location : Location) : Prop :=
  ∀ settings, options.settings (.ofLocation world.files.home)
    (InputReference.ofArgument argument).baseName = .ok settings →
      ∀ p, p ∈ session.derivedPaths settings (InputReference.ofArgument argument).baseName ∨
        p ∈ world.temps.paths → p.location world.files.home ≠ location

/-- Until a run writes its output, it edits its own files and writes nothing to standard output. -/
theorem tidied_untouched (hengine : session.engine.EditsOnlyItsFiles) {location : Location}
    (havoids : session.Avoids argument options world location)
    (hready : (session.getReady argument options).on world = (.ok settings, start))
    {result : Except Failure (Resolved × Outcome)}
    (hassess : (session.assess settings (.ofArgument argument)).on start = (result, after)) :
    SameFile location world.files (session.tidied settings (.ofArgument argument) after).files := by
  have hfree := havoids settings (settings_of_getReady hready)
  have hderived : ∀ p ∈ session.derivedPaths settings (InputReference.ofArgument argument).baseName,
      p.location world.files.home ≠ location := fun p hp => hfree p (.inl hp)
  have hstart := getReady_sameFile fun found hfound =>
    havoids found hfound _ (.inl (session.reject_mem_derivedPaths found (.ofArgument argument)))
  have htemps : start.temps = world.temps :=
    (getReady_silent (fun _ _ => rfl) session argument options).view_of_on hready
  rw [hready] at hstart
  obtain ⟨hsame, hhome⟩ := hstart
  have hreject : (session.reject settings (.ofArgument argument)).location world.files.home ≠
      location := hderived _ (session.reject_mem_derivedPaths settings _)
  have hassessed : EditsOnly world.files.home (· ≠ location)
      (session.assess settings (.ofArgument argument)) := assess_edits hengine hderived
  have hedits := hassessed.tidying hreject hhome fun p hp => hfree p (.inr (htemps ▸ hp))
  rw [on_tidying, hassess] at hedits
  exact hsame.trans (.of_edits hedits (by simp))

theorem tidied_stdout
    (hready : (session.getReady argument options).on world = (.ok settings, start))
    {result : Except Failure (Resolved × Outcome)}
    (hassess : (session.assess settings (.ofArgument argument)).on start = (result, after)) :
    (session.tidied settings (.ofArgument argument) after).stdout = world.stdout := by
  have hstart : start.stdout = world.stdout :=
    (getReady_silent (fun _ _ => rfl) session argument options).view_of_on hready
  have hafter : ((session.assess settings (.ofArgument argument)).on start).2.stdout =
      start.stdout :=
    assess_view (fun _ _ => rfl) (fun _ _ => rfl) (fun _ _ => rfl) (fun _ _ => rfl) session settings
      (.ofArgument argument) start
  rw [hassess] at hafter
  exact hafter.trans hstart

/-! ## The run -/

/-- Validated rows are to be written: the run is no check, and it is not strict about rejected rows
on their way to standard output. -/
def Writes (settings : Settings) (outcome : Outcome) : Prop :=
  settings.checkOnly = false ∧
    ¬ (outcome.hasErrors = true ∧ settings.strict = true ∧ settings.output.isStdout = true)

/-- What a run may do to its output and says of itself, given its output. -/
structure OutputSpec (session : Session) (argument : String) (options : Options) (world : World)
    (output : Output) (status : ExitStatus) (last : World) : Prop where
  /-- Nothing is written unless the input has been validated and its rows are to be written. -/
  untouched :
    (¬ ∃ settings resolved outcome judged,
      session.Assesses argument options world settings resolved outcome judged ∧
        Writes settings outcome) →
    last.stdout = world.stdout ∧
      ∀ out ∈ output.path?, SameFile (out.location world.files.home) world.files last.files
  /-- A run in which nothing goes wrong fails over rejected rows only. -/
  failure_iff : ∀ settings resolved outcome judged,
    session.Assesses argument options world settings resolved outcome judged →
    (Writes settings outcome → ∃ stats written,
      (writeOutput settings (session.staged settings (.ofArgument argument))).on judged =
        (.ok stats, written)) →
    (status = .failure ↔
      outcome.hasErrors = true ∧ (settings.strict = true ∨ settings.checkOnly = true))
  /-- A file in the place of the output is kept unless it may be replaced. -/
  kept : options.force = false → ∀ out ∈ output.path?, ∀ content,
    world.files.read out = .ok content → last.files.read out = .ok content

theorem Ends.untouched {result : Except Failure Unit} {last : World}
    (h : session.Ends argument options world result last)
    (hengine : session.engine.EditsOnlyItsFiles)
    (hnot : ¬ ∃ settings resolved outcome judged,
      session.Assesses argument options world settings resolved outcome judged ∧
        Writes settings outcome) :
    last.stdout = world.stdout ∧
      ∀ location, session.Avoids argument options world location →
        SameFile location world.files last.files := by
  have hnever : ∀ {settings resolved outcome judged},
      session.Assesses argument options world settings resolved outcome judged →
        (Policy.decide outcome settings).writes ≠ true :=
    fun hassess hwrites => hnot ⟨_, _, _, _, hassess, Policy.writes_eq_true_iff.mp hwrites⟩
  cases h with
  | refused hready =>
      refine ⟨(getReady_silent (fun _ _ => rfl) session argument options).view_of_on hready,
        fun location havoids => ?_⟩
      have hsame := getReady_sameFile fun found hfound =>
        havoids found hfound _ (.inl (session.reject_mem_derivedPaths found (.ofArgument argument)))
      rw [hready] at hsame
      exact hsame.1
  | unassessed hready hassess =>
      exact ⟨tidied_stdout hready hassess, fun _ havoids =>
        tidied_untouched hengine havoids hready hassess⟩
  | halted hassess hdecide =>
      obtain ⟨start, hready, hassess⟩ := hassess
      exact ⟨tidied_stdout hready hassess, fun _ havoids =>
        tidied_untouched hengine havoids hready hassess⟩
  | unwritten hassess hwrites hfinish => exact absurd hwrites (hnever hassess)
  | written hassess hwrites hfinish => exact absurd hwrites (hnever hassess)

/-- Where nothing goes wrong, a run fails over rejected rows only. -/
theorem Ends.failure_iff {result : Except Failure Unit} {last : World}
    (h : session.Ends argument options world result last) {resolved : Resolved} {outcome : Outcome}
    {judged : World}
    (hassess : session.Assesses argument options world settings resolved outcome judged)
    (hwrite : Writes settings outcome → ∃ stats written,
      (writeOutput settings (session.staged settings (.ofArgument argument))).on judged =
        (.ok stats, written)) :
    statusOf result = .failure ↔
      outcome.hasErrors = true ∧ (settings.strict = true ∨ settings.checkOnly = true) := by
  cases h with
  | refused hready =>
      obtain ⟨start, hready', -⟩ := hassess
      simp [hready] at hready'
  | unassessed hready hfailed =>
      obtain ⟨start, hready', hassess⟩ := hassess
      obtain ⟨rfl, rfl⟩ : _ = settings ∧ _ = start := by simpa [hready] using hready'
      simp [hfailed] at hassess
  | @halted found resolved' outcome' judged' success hassess' hdecide =>
      obtain ⟨rfl, rfl, rfl, rfl⟩ := hassess'.unique hassess
      obtain ⟨herrors, hwhy⟩ := Policy.hasErrors_of_halt hdecide
      cases success with
      | true => simp [statusOf, herrors]
      | false =>
          have hstrict : found.strict = true ∨ found.checkOnly = true :=
            hwhy.elim .inr fun h => .inl h.1
          simp [statusOf, herrors, hstrict]
  | @unwritten found resolved' outcome' judged' failure after hassess' hwrites hfinish =>
      obtain ⟨rfl, rfl, rfl, rfl⟩ := hassess'.unique hassess
      obtain ⟨stats, written, hwritten⟩ := hwrite (Policy.writes_eq_true_iff.mp hwrites)
      obtain ⟨last, hlast⟩ := session.finish_of_writeOutput hwritten (.ofArgument argument)
        resolved' outcome' (session.reject found (.ofArgument argument))
      simp [hlast] at hfinish
  | @written found resolved' outcome' judged' after hassess' hwrites hfinish =>
      obtain ⟨rfl, rfl, rfl, rfl⟩ := hassess'.unique hassess
      obtain ⟨hcheck, hquiet⟩ := Policy.writes_eq_true_iff.mp hwrites
      have hstatus : statusOf (if (Policy.decide outcome' found).failsAfter then
            .error (.rowsRejected true outcome'.rejectedRows) else .ok ()) = .failure ↔
          (Policy.decide outcome' found).failsAfter = true := by
        split <;> simp_all [statusOf]
      rw [hstatus, Policy.failsAfter_eq_true_iff]
      constructor
      · rintro ⟨-, herrors, hstrict, -⟩
        exact ⟨herrors, .inl hstrict⟩
      · rintro ⟨herrors, hwhy⟩
        have hstrict : found.strict = true := by simpa [hcheck] using hwhy
        have hfile : found.output.isStdout ≠ true := fun hout => hquiet ⟨herrors, hstrict, hout⟩
        exact ⟨hcheck, herrors, hstrict, by simpa using hfile⟩

theorem execute_of_settings_error {failure : Failure}
    (h : options.settings (.ofLocation world.files.home)
      (InputReference.ofArgument argument).baseName = .error failure) :
    ((session.execute argument options).on world).2 = world := by
  rcases getReady_cases session argument options world with
    ⟨refusal, hrefused⟩ | ⟨settings, hsettings, -⟩
  · rw [(Ends.refused hrefused).execution]
  · simp [h] at hsettings

/-- Without being asked to replace files, a run keeps every file that is none of its own. -/
theorem execute_keeps_unforced (hengine : session.engine.EditsOnlyItsFiles)
    (hforce : options.force = false) {p : Path} {content : Bytes}
    (havoids : session.Avoids argument options world (p.location world.files.home))
    (hread : world.files.read p = .ok content) :
    ((session.execute argument options).on world).2.files.read p = .ok content := by
  obtain ⟨location, hlocation, hfile⟩ := read_eq_ok_iff.mp hread
  rw [location_of_fileAt? hlocation] at havoids
  cases hsettings : options.settings (.ofLocation world.files.home)
      (InputReference.ofArgument argument).baseName with
  | error failure =>
      rw [execute_of_settings_error hsettings]
      exact hread
  | ok settings =>
      have hkeeps : Keeps world.files location world :=
        ⟨.refl _, rfl, fun q hq => havoids settings hsettings q (.inr hq)⟩
      have hmaintains := execute_maintains_of_derivedPaths hengine hfile
        (fun found hfound q hq => havoids found hfound q (.inl hq))
        (fun found hfound _ _ _ _ => (Options.force_of_settings hfound).trans hforce)
      exact (hmaintains world hkeeps).read hlocation hfile

/-- A run whose output is none of its own files leaves it alone until its rows are to be written,
fails over rejected rows only if nothing goes wrong, and keeps a file that it may not replace. The
output must not have been registered before the run either, since tidying up removes it then; with a
new set nothing has been. -/
theorem run_keeps_output (hengine : session.engine.EditsOnlyItsFiles)
    (hapart : ∀ out ∈ (options.target (.ofLocation world.files.home)
      (InputReference.ofArgument argument).baseName).path?,
        session.Avoids argument options world (out.location world.files.home)) :
    session.OutputSpec argument options world
      (options.target (.ofLocation world.files.home) (InputReference.ofArgument argument).baseName)
      (session.run argument options world).1 (session.run argument options world).2 := by
  have hends := ends_execute session argument options world
  rw [hends.run_eq]
  constructor
  · intro hnot
    obtain ⟨hstdout, hsame⟩ := hends.untouched hengine hnot
    exact ⟨hstdout, fun out hout => hsame _ (hapart out hout)⟩
  · intro settings resolved outcome judged hassess hwrite
    exact hends.failure_iff hassess hwrite
  · intro hforce out hout content hread
    exact execute_keeps_unforced hengine hforce (hapart out hout) hread

/-- A file system with a document one row of which does not fit, and with a file in the place of the
output. -/
def misfitAndOutput : FileSystem :=
  ((FileSystem.empty []).put ["in.csv"] (.file (Utf8.ofString "a,b\n1,2\n3\n"))).put ["out.csv"]
    (.file (Utf8.ofString "x\n"))

/-- A check finds the row, and leaves the file alone. -/
theorem checkMisfit_keeps_output :
    let session : Session := ⟨.builtIn .unreachable, none, ⟨"/"⟩⟩
    let options : Options := { output := some ⟨"out.csv"⟩, checkOnly := true }
    let world := World.initial misfitAndOutput .terminal
    let (status, last) := session.run "in.csv" options world
    session.engine.EditsOnlyItsFiles ∧ session.Avoids "in.csv" options world ["out.csv"] ∧
      status = .failure ∧ last.stdout = [] ∧ SameFile ["out.csv"] misfitAndOutput last.files ∧
      last.files.read ⟨"out.csv"⟩ = .ok (Utf8.ofString "x\n") := by
  intro session options world
  have hengine : session.engine.EditsOnlyItsFiles := Engine.builtIn_editsOnlyItsFiles .unreachable
  have hsettings : options.settings (.ofLocation world.files.home)
      (InputReference.ofArgument "in.csv").baseName =
        .ok ⟨0x2C, false, false, false, true, none, 0, .file ⟨"out.csv"⟩⟩ := by
    decide
  have havoids : session.Avoids "in.csv" options world ["out.csv"] := by
    intro settings hfound p hp
    obtain rfl := Except.ok.inj (hsettings.symm.trans hfound)
    rcases hp with hderived | hregistered
    · revert p
      decide
    · exact absurd hregistered List.not_mem_nil
  have hout : options.target (.ofLocation world.files.home)
      (InputReference.ofArgument "in.csv").baseName = .file ⟨"out.csv"⟩ := by
    decide
  have hlocation : (Path.mk "out.csv").location world.files.home = ["out.csv"] := by decide
  have hspec : session.OutputSpec "in.csv" options world (.file ⟨"out.csv"⟩)
      (session.run "in.csv" options world).1 (session.run "in.csv" options world).2 := by
    rw [← hout]
    refine run_keeps_output hengine fun out hmem => ?_
    obtain rfl : Path.mk "out.csv" = out := by simpa [hout, Output.path?] using hmem
    rwa [hlocation]
  have hnot : ¬ ∃ settings resolved outcome judged,
      session.Assesses "in.csv" options world settings resolved outcome judged ∧
        Writes settings outcome := by
    rintro ⟨settings, resolved, outcome, judged, ⟨start, hready, -⟩, hwrites, -⟩
    obtain rfl := Except.ok.inj (hsettings.symm.trans (settings_of_getReady hready))
    simp at hwrites
  have hstatus : (session.run "in.csv" options world).1 = .failure := by decide +kernel
  rcases hrun : session.run "in.csv" options world with ⟨status, last⟩
  rw [hrun] at hspec hstatus
  obtain ⟨hstdout, hsame⟩ := hspec.untouched hnot
  refine ⟨hengine, havoids, hstatus, hstdout, ?_, ?_⟩
  · exact hlocation ▸ hsame ⟨"out.csv"⟩ rfl
  · exact hspec.kept rfl ⟨"out.csv"⟩ rfl _ (by decide)

end Session

end TidyCsv
