import TidyCsv.Proofs.Run.Effect
import TidyCsv.Proofs.Run.Readiness

/-! # A run and its repetition

A run that may replace its output can be repeated: the second run starts from what the first one has
left, has the same effect, and leaves the same. -/

namespace TidyCsv

open FileSystem Run

namespace Session

variable {session : Session} {network : Network} {argument : String} {options : Options}
  {settings : Settings} {reference : InputReference} {start : World} {files : FileSystem}
  {stdin : Stdin} {disk : Disk}

/-! ## What a run edits -/

/-- The files that a run derives, and its output. -/
def Touches (session : Session) (settings : Settings) (reference : InputReference)
    (home location : Location) : Prop :=
  (∃ p ∈ session.derivedPaths settings reference.baseName, p.location home = location) ∨
    ∃ out ∈ settings.output.path?, out.location home = location

theorem settle_edits (session : Session) (settings : Settings) (reference : InputReference)
    (resolved : Resolved) (outcome : Outcome) (home : Location) :
    EditsOnly home (session.Touches settings reference home)
      (session.settle settings reference resolved outcome) := by
  have hfinish : EditsOnly home (session.Touches settings reference home)
      (session.finish reference settings resolved outcome (session.staged settings reference)
        (session.reject settings reference)) := by
    unfold finish
    refine .bind (writeOutput_edits (fun out hout => .inr ⟨out, hout, rfl⟩) _) fun stats => ?_
    exact .files_bind fun world hhome => EditsOnly.report _ world hhome
  unfold settle
  split
  · exact .pure _
  · exact .throw _
  · exact hfinish
  · refine .bind hfinish fun _ => ?_
    split
    · exact .throw _
    · exact .pure _

theorem guarded_edits (hengine : session.engine = .builtIn network)
    (htemps : start.temps = .empty) :
    EditsFiles (session.Touches settings reference start.files.home) start.files
      (session.tidied settings reference ((session.assess settings reference >>=
        fun (resolved, outcome) => session.settle settings reference resolved outcome).on
          start).2).files := by
  have hassess : EditsOnly start.files.home
      (session.Touches settings reference start.files.home)
      (session.assess settings reference) :=
    assess_edits (hengine ▸ Engine.builtIn_editsOnlyItsFiles network) fun p hp => .inl ⟨p, hp, rfl⟩
  have hpart : EditsOnly start.files.home (session.Touches settings reference start.files.home)
      (session.assess settings reference >>= fun (resolved, outcome) =>
        session.settle settings reference resolved outcome) :=
    hassess.bind fun (resolved, outcome) =>
      settle_edits session settings reference resolved outcome _
  have hreject : session.Touches settings reference start.files.home
      ((session.reject settings reference).location start.files.home) :=
    .inl ⟨_, session.reject_mem_derivedPaths settings reference, rfl⟩
  exact hpart.tidying hreject rfl (by simp [htemps, TempFiles.empty])

/-! ## The same effect -/

/-- A run that starts from edited files has the same effect, if the input is not among them. -/
theorem effect_of_edits {touched : Location → Prop} {before after : World}
    (h : EditsFiles touched before.files after.files) (hstdin : after.stdin = before.stdin)
    (hdisk : after.disk = before.disk)
    (hinput : ∀ path ∈ reference.path?, ∀ location, before.files.fileAt? path = some location →
      ¬ touched location) (session : Session) (network : Network) (settings : Settings) :
    session.effect network settings reference after =
      session.effect network settings reference before := by
  have hadmitted : session.admitted? network settings reference after =
      session.admitted? network settings reference before := by
    ext content
    exact admitted?_eq_some_iff.trans
      ((admits_iff_of_edits h hstdin hdisk hinput).trans admitted?_eq_some_iff.symm)
  rw [effect, effect, hadmitted, Output.intake_of_edits h hdisk]

/-- An effect that takes place again on the output that it has left leaves the same. -/
theorem HasEffect.again {start' last last' : World} {effect : Effect}
    {result result' : Except Failure Unit}
    (h : session.HasEffect settings reference start effect result last)
    (h' : session.HasEffect settings reference start' effect result' last')
    (hstdout : start'.stdout = start.stdout)
    (hkept : ∀ out ∈ settings.output.path?,
      (start'.files.read out).toOption = (last.files.read out).toOption) :
    result'.isOk = result.isOk ∧ last'.stdout = last.stdout ∧
      (∀ out ∈ settings.output.path?,
        (last'.files.read out).toOption = (last.files.read out).toOption) ∧
      (last'.files.read (session.reject settings reference)).toOption =
        (last.files.read (session.reject settings reference)).toOption := by
  refine ⟨h'.isOk_eq.trans h.isOk_eq.symm, ?_, fun out hout => ?_,
    h'.reject_eq.trans h.reject_eq.symm⟩
  · rw [h'.stdout_eq, h.stdout_eq, hstdout]
  · rw [h'.output_eq out hout, hkept out hout, h.output_eq out hout, ← Option.or_assoc,
      Option.or_self]

/-! ## The repetition -/

/-- What is left of a run, as far as it is meant to be kept. -/
structure SameLeft (session : Session) (argument : String) (options : Options) (home : Location)
    (first second : ExitStatus × World) : Prop where
  status_eq : second.1 = first.1
  stdout_eq : second.2.stdout = first.2.stdout
  output_eq : ∀ out ∈ (options.target (.ofLocation home)
    (InputReference.ofArgument argument).baseName).path?,
      (second.2.files.read out).toOption = (first.2.files.read out).toOption
  reject_eq : ∀ settings, options.settings (.ofLocation home)
    (InputReference.ofArgument argument).baseName = .ok settings →
      (second.2.files.read (session.reject settings (.ofArgument argument))).toOption =
        (first.2.files.read (session.reject settings (.ofArgument argument))).toOption

theorem sameLeft_of_executions {result result' : Except Failure Unit} {last last' : World}
    (hfirst : (session.execute argument options).on (.initial files stdin disk) = (result, last))
    (hsecond : (session.execute argument options).on (.initial last.files stdin disk) =
      (result', last'))
    (hisOk : result'.isOk = result.isOk) (hstdout : last'.stdout = last.stdout)
    (houtput : ∀ out ∈ (options.target (.ofLocation files.home)
      (InputReference.ofArgument argument).baseName).path?,
        (last'.files.read out).toOption = (last.files.read out).toOption)
    (hreject : ∀ settings, options.settings (.ofLocation files.home)
      (InputReference.ofArgument argument).baseName = .ok settings →
        (last'.files.read (session.reject settings (.ofArgument argument))).toOption =
          (last.files.read (session.reject settings (.ofArgument argument))).toOption) :
    let first := session.run argument options (.initial files stdin disk)
    session.SameLeft argument options files.home first
      (session.run argument options (.initial first.2.files stdin disk)) := by
  intro first
  have hrun : first =
      (statusOf result, { last with events := last.events ++ eventsOf result }) := by
    rw [show first = _ from run_eq session argument options _, hfirst]
  have hrun' : session.run argument options (.initial first.2.files stdin disk) =
      (statusOf result', { last' with events := last'.events ++ eventsOf result' }) := by
    rw [run_eq, hrun]
    simp only [hsecond]
  rw [hrun', hrun]
  refine ⟨?_, hstdout, houtput, hreject⟩
  cases result <;> cases result' <;> simp_all [Except.isOk, Except.toBool, statusOf]

theorem sameLeft_of_refused {failure : Failure} {after : World}
    (h : (session.getReady argument options).on (.initial files stdin disk) =
      (.error failure, after)) :
    let first := session.run argument options (.initial files stdin disk)
    session.SameLeft argument options files.home first
      (session.run argument options (.initial first.2.files stdin disk)) := by
  obtain ⟨failure', hagain⟩ := getReady_refused_again h
  have hstdout : after.stdout = [] := congrArg World.stdout (getReady_initial h)
  have hfirst : (session.execute argument options).on (.initial files stdin disk) =
      (.error failure, after) := by rw [execute_eq, on_bind_of_error h]
  have hsecond : (session.execute argument options).on (.initial after.files stdin disk) =
      (.error failure', .initial after.files stdin disk) := by
    rw [execute_eq, on_bind_of_error hagain]
  exact sameLeft_of_executions hfirst hsecond rfl hstdout.symm (fun _ _ => rfl) fun _ _ => rfl

/-- A run that finds, once it is repeated, something in the place of its file of rejected rows that
cannot be removed has had no content to work on. -/
theorem admitted?_of_stale {touched : Location → Prop} {world after : World} {failure : Failure}
    (h : (removeStale (session.reject settings reference)).on world = (.error failure, after))
    (hedits : EditsFiles touched start.files world.files) (network : Network) :
    session.admitted? network settings reference start = none := by
  refine if_neg fun hwork => ?_
  have hroom := hwork.room (session.reject settings reference) (by simp [writtenPaths])
  obtain ⟨removed, hremoved⟩ := removeStale_of_hasRoom world (hedits.hasRoom_iff.mpr hroom)
  simp [h] at hremoved

/-- A run that gets ready from the start has an effect on the files that it finds then. -/
theorem execute_of_ready (hengine : session.engine = .builtIn network)
    (hreplace : settings.MayReplace)
    (hready : (session.getReady argument options).on (.initial files stdin disk) =
      (.ok settings, start))
    (hapart : session.OutputApart settings (.ofArgument argument) files.home) :
    start = .initial start.files stdin disk ∧ start.files.home = files.home ∧
      ∃ result last,
        (session.execute argument options).on (.initial files stdin disk) = (result, last) ∧
        session.HasEffect settings (.ofArgument argument) start
          (session.effect network settings (.ofArgument argument) start) result last ∧
        EditsFiles (session.Touches settings (.ofArgument argument) files.home) start.files
          last.files := by
  have hinitial := getReady_initial hready
  have htemps : start.temps = .empty := congrArg World.temps hinitial
  obtain ⟨hhome, hgone⟩ := gone_of_getReady hready
  change start.files.home = files.home at hhome
  rw [← hhome] at hapart ⊢
  exact ⟨hinitial, rfl, _, _, on_execute_of_ready hready,
    hasEffect_of_ready hengine htemps hapart hreplace hgone, guarded_edits hengine htemps⟩

theorem sameLeft_of_ready (hengine : session.engine = .builtIn network)
    (hforce : options.force = true)
    (hready : (session.getReady argument options).on (.initial files stdin disk) =
      (.ok settings, start))
    (hapart : session.OutputApart settings (.ofArgument argument) files.home)
    (hinput : ∀ path ∈ (InputReference.ofArgument argument).path?, ∀ location,
      start.files.fileAt? path = some location →
        ¬ session.Touches settings (.ofArgument argument) files.home location) :
    let first := session.run argument options (.initial files stdin disk)
    session.SameLeft argument options files.home first
      (session.run argument options (.initial first.2.files stdin disk)) := by
  have hsettings := settings_of_getReady hready
  change options.settings (.ofLocation files.home) _ = _ at hsettings
  have hreplace : settings.MayReplace :=
    .inl ((Options.force_of_settings hsettings).trans hforce)
  obtain ⟨hinitial, hhome, result, last, hfirst, heffect, hedits⟩ :=
    execute_of_ready hengine hreplace hready hapart
  have hstdout : start.stdout = [] := congrArg World.stdout hinitial
  have hhome' : last.files.home = files.home := hedits.home_eq.trans hhome
  have hagain := getReady_again hforce hready hedits hinput
  rcases hstale : (removeStale (session.reject settings (.ofArgument argument))).on
    (.initial last.files stdin disk) with ⟨failure | ⟨⟩, start'⟩
  · -- the repetition is refused, and the first run has failed for the same reason
    rw [on_bind_of_error hstale] at hagain
    obtain rfl := removeStale_error hstale
    have hsecond : (session.execute argument options).on (.initial last.files stdin disk) =
        (.error failure, .initial last.files stdin disk) := by
      rw [execute_eq, on_bind_of_error hagain]
    rw [effect, admitted?_of_stale hstale hedits] at heffect
    refine sameLeft_of_executions hfirst hsecond heffect.isOk_eq.symm ?_ (fun _ _ => rfl)
      fun _ _ => rfl
    rw [heffect.stdout_eq, hstdout]
    simp [Effect.of, World.initial]
  · rw [on_bind_of_ok hstale, on_pure] at hagain
    obtain ⟨-, hremoved, -⟩ := removeStale_ok hstale
    change EditsFiles (· = (session.reject settings _).location last.files.home) last.files
      start'.files at hremoved
    rw [hhome'] at hremoved
    have hreject := session.reject_mem_derivedPaths settings (.ofArgument argument)
    have hboth : EditsFiles (session.Touches settings (.ofArgument argument) files.home)
        start.files start'.files :=
      hedits.trans (hremoved.mono fun _ hlocation => .inl ⟨_, hreject, hlocation.symm⟩)
    obtain ⟨hinitial', -, result', last', hsecond, heffect', -⟩ :=
      execute_of_ready hengine hreplace hagain (hhome'.symm ▸ hapart)
    have hstdout' : start'.stdout = start.stdout :=
      (congrArg World.stdout hinitial').trans hstdout.symm
    have hstdin : start'.stdin = start.stdin :=
      (congrArg World.stdin hinitial').trans (congrArg World.stdin hinitial).symm
    have hdisk : start'.disk = start.disk :=
      (congrArg World.disk hinitial').trans (congrArg World.disk hinitial).symm
    rw [effect_of_edits hboth hstdin hdisk hinput] at heffect'
    have hkept : ∀ out ∈ settings.output.path?,
        (start'.files.read out).toOption = (last.files.read out).toOption := by
      intro out hout
      refine hremoved.toOption_read fun location hfile hlocation => ?_
      refine hapart out hout _ hreject ?_
      rw [← hlocation, ← location_of_fileAt? hfile, hhome']
    obtain ⟨hisOk, hprinted, houtput, hrejected⟩ := heffect.again heffect' hstdout' hkept
    rw [Options.output_of_settings hsettings] at houtput
    refine sameLeft_of_executions hfirst hsecond hisOk hprinted houtput fun found hfound => ?_
    obtain rfl : settings = found := Except.ok.inj (hsettings.symm.trans hfound)
    exact hrejected

/-- A run on a file that may replace its output can be repeated, on whatever disk: unless the output
is the input or one of the files that the run derives, the run ends with the same status and leaves
the same output, the same text on standard output and the same file of rejected rows, whatever comes
of it. -/
theorem run_repeats (hengine : session.engine = .builtIn network) {input : Path}
    (hpath : (InputReference.ofArgument argument).path? = some input)
    (hforce : options.force = true)
    (hinput : ∀ out ∈ (options.target (.ofLocation files.home)
      (InputReference.ofArgument argument).baseName).path?,
        out.location files.home ≠ input.location files.home)
    (hapart : ∀ settings, options.settings (.ofLocation files.home)
      (InputReference.ofArgument argument).baseName = .ok settings →
        session.OutputApart settings (.ofArgument argument) files.home) :
    let first := session.run argument options (.initial files stdin disk)
    session.SameLeft argument options files.home first
      (session.run argument options (.initial first.2.files stdin disk)) := by
  rcases hready : (session.getReady argument options).on (.initial files stdin disk) with
    ⟨failure | settings, start⟩
  · exact sameLeft_of_refused hready
  · have hsettings := settings_of_getReady hready
    refine sameLeft_of_ready hengine hforce hready (hapart settings hsettings) ?_
    intro path hpath' location hlocation
    obtain rfl : input = path := Option.some.inj (hpath.symm.trans hpath')
    have hhome : start.files.home = files.home := (gone_of_getReady hready).1
    rintro (⟨p, hp, hsame⟩ | ⟨out, hout, hsame⟩)
    · exact derivedPaths_ne hpath hlocation session settings p hp (hhome ▸ hsame)
    · rw [Options.output_of_settings hsettings] at hout
      refine hinput out hout (hsame.trans ?_)
      rw [← location_of_fileAt? hlocation, hhome]

/-- Options for an output in a directory that is missing before the first run. -/
def intoNewDirectory : Options := { output := some ⟨"new/out.csv"⟩, force := true }

/-- A run that makes the directory of its output and leaves a file of rejected rows there, and its
repetition, which finds both. -/
theorem run_repeats_stray :
    let session : Session := ⟨.builtIn .unreachable, none, ⟨"/"⟩⟩
    let files := Validation.strayWorld.files
    let first := session.run "in.csv" intoNewDirectory (.initial files .terminal)
    let second := session.run "in.csv" intoNewDirectory (.initial first.2.files .terminal)
    files.isDirectory ⟨"new"⟩ = false ∧ first.1 = .success ∧
      first.2.files.isFile ⟨"new/out.csv"⟩ = true ∧
      first.2.files.isFile ⟨"new/in_reject_errors.csv"⟩ = true ∧
      session.SameLeft "in.csv" intoNewDirectory files.home first second := by
  intro session files first second
  have hsettings : intoNewDirectory.settings (.ofLocation files.home)
      (InputReference.ofArgument "in.csv").baseName =
        .ok ⟨0x2C, false, true, false, false, none, 0, .file ⟨"new/out.csv"⟩⟩ := by
    decide
  have hpath : (InputReference.ofArgument "in.csv").path? = some ⟨"in.csv"⟩ := by decide
  have hmissing : files.isDirectory ⟨"new"⟩ = false := by decide
  obtain ⟨hsuccess, houtput, hreject⟩ :
      (session.run "in.csv" intoNewDirectory (.initial files .terminal)).1 = .success ∧
        (session.run "in.csv" intoNewDirectory (.initial files .terminal)).2.files.isFile
          ⟨"new/out.csv"⟩ = true ∧
        (session.run "in.csv" intoNewDirectory (.initial files .terminal)).2.files.isFile
          ⟨"new/in_reject_errors.csv"⟩ = true := by
    decide +kernel
  have hsame : session.SameLeft "in.csv" intoNewDirectory files.home first second := by
    refine run_repeats rfl hpath rfl ?_ ?_
    · rw [← Options.output_of_settings hsettings]
      decide
    · intro settings hfound
      obtain rfl := Except.ok.inj (hsettings.symm.trans hfound)
      unfold OutputApart
      decide
  rcases hrun : session.run "in.csv" intoNewDirectory (.initial files .terminal) with
    ⟨status, last⟩
  rw [hrun] at hsuccess houtput hreject
  simp only [first, second, hrun] at hsame ⊢
  exact ⟨hmissing, hsuccess, houtput, hreject, hsame⟩

end Session

end TidyCsv
