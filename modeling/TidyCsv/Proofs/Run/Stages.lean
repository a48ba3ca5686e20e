import TidyCsv.Proofs.Run.Frame
import TidyCsv.Run.Footprint

/-! # The stages of a run

A run gets ready, assesses its input, and settles what follows from the assessment. It tidies up
after the last two stages, whatever comes of them. The ways in which a run can end are rules over
the results of the stages, and no other way is possible. -/

namespace TidyCsv

open FileSystem Run

/-! ## Decisions -/

/-- Whether a run goes on to write its output. -/
def Decision.writes : Decision → Bool
  | halt _ => false
  | _ => true

/-- Whether a run fails although its output has been written. -/
def Decision.failsAfter : Decision → Bool
  | proceedWithWarnings failAfter => failAfter
  | _ => false

namespace Policy

variable {outcome : Outcome} {settings : Settings}

theorem checkOnly_of_writes (h : (decide outcome settings).writes = true) :
    settings.checkOnly = false := by
  cases hcheck : settings.checkOnly with
  | false => rfl
  | true => simp [decide, hcheck, Decision.writes] at h

/-- The output is written unless the run is a check, or strict about rejected rows on their way to
standard output. -/
theorem writes_eq_true_iff :
    (decide outcome settings).writes = true ↔
      settings.checkOnly = false ∧
        ¬ (outcome.hasErrors = true ∧ settings.strict = true ∧
          settings.output.isStdout = true) := by
  cases hcheck : settings.checkOnly <;> cases herrors : outcome.hasErrors <;>
    cases hstrict : settings.strict <;> cases hout : settings.output.isStdout <;>
      simp [decide, hcheck, herrors, hstrict, hout, Decision.writes]

/-- A run fails after its output only if it is strict about rejected rows and writes a file. -/
theorem failsAfter_eq_true_iff :
    (decide outcome settings).failsAfter = true ↔
      settings.checkOnly = false ∧ outcome.hasErrors = true ∧ settings.strict = true ∧
        settings.output.isStdout = false := by
  cases hcheck : settings.checkOnly <;> cases herrors : outcome.hasErrors <;>
    cases hstrict : settings.strict <;> cases hout : settings.output.isStdout <;>
      simp [decide, hcheck, herrors, hstrict, hout, Decision.failsAfter]

/-- A run halts in success unless rows were rejected. -/
theorem hasErrors_of_halt {success : Bool} (h : decide outcome settings = .halt success) :
    outcome.hasErrors = !success ∧
      (settings.checkOnly = true ∨ settings.strict = true ∧ settings.output.isStdout = true) := by
  revert h
  cases hcheck : settings.checkOnly <;> cases herrors : outcome.hasErrors <;>
    cases hstrict : settings.strict <;> cases hout : settings.output.isStdout <;>
      cases success <;> simp [decide, hcheck, herrors, hstrict, hout]

end Policy

namespace Session

variable (session : Session)

/-! ## The stages -/

/-- The file that the engine of a run writes conforming rows to. -/
def staged (settings : Settings) (reference : InputReference) : Path :=
  stagedPath (session.directory settings) reference.baseName

/-- The file of rejected rows of a run. -/
def reject (settings : Settings) (reference : InputReference) : Path :=
  rejectPath settings (session.directory settings) reference.baseName

theorem reject_mem_derivedPaths (settings : Settings) (reference : InputReference) :
    session.reject settings reference ∈ session.derivedPaths settings reference.baseName := by
  simp [derivedPaths, reject]

/-- The first stage: arguments are checked, and there is room for the output and no file of rejected
rows from before. -/
def getReady (argument : String) (options : Options) : Run Settings := do
  let reference := InputReference.ofArgument argument
  let settings ← prepare reference options reference.baseName
  if settings.checkOnly then pure () else makeOutputDir settings.output
  removeStale (session.reject settings reference)
  pure settings

/-- The second stage: the input is resolved and validated, and the user is told what follows. -/
def assess (settings : Settings) (reference : InputReference) : Run (Resolved × Outcome) := do
  Run.register (session.staged settings reference)
  let resolved ← Resolution.resolve reference settings (session.directory settings)
    reference.baseName
  let outcome ← Validation.run session.engine resolved.source { skipRows := settings.skipRows }
    (session.staged settings reference) (session.reject settings reference) reference.isRemote
    reference.displayName
  Run.reportAll (Policy.apply outcome settings (session.reject settings reference)).2
  pure (resolved, outcome)

/-- The third stage: the run halts, or writes its output. -/
def settle (settings : Settings) (reference : InputReference) (resolved : Resolved)
    (outcome : Outcome) : Run Unit :=
  match Policy.decide outcome settings with
  | .halt true => pure ()
  | .halt false => throw (.rowsRejected settings.strict outcome.rejectedRows)
  | .proceed =>
    finish session reference settings resolved outcome (session.staged settings reference)
      (session.reject settings reference)
  | .proceedWithWarnings failAfter => do
    finish session reference settings resolved outcome (session.staged settings reference)
      (session.reject settings reference)
    if failAfter then throw (.rowsRejected true outcome.rejectedRows)

theorem body_eq (settings : Settings) (reference : InputReference) :
    body session reference settings (session.directory settings) reference.baseName
        (session.reject settings reference) =
      session.assess settings reference >>= fun (resolved, outcome) =>
        session.settle settings reference resolved outcome := by
  simp only [body, assess, settle, staged, bind_assoc, pure_bind]
  rfl

theorem execute_eq (argument : String) (options : Options) :
    session.execute argument options =
      session.getReady argument options >>= fun settings =>
        Run.tidying (session.reject settings (.ofArgument argument))
          (session.assess settings (.ofArgument argument) >>= fun (resolved, outcome) =>
            session.settle settings (.ofArgument argument) resolved outcome) := by
  simp only [← body_eq, execute, getReady, reject, bind_assoc]
  congr 1
  funext settings
  split <;> simp only [bind_assoc, pure_bind]

theorem on_assess (settings : Settings) (reference : InputReference) (start : World) :
    (session.assess settings reference).on start =
      match (Resolution.resolve reference settings (session.directory settings)
        reference.baseName).on
          { start with temps := start.temps.register (session.staged settings reference) } with
      | (.error failure, after) => (.error failure, after)
      | (.ok resolved, middle) =>
        match (Validation.run session.engine resolved.source { skipRows := settings.skipRows }
          (session.staged settings reference) (session.reject settings reference)
          reference.isRemote reference.displayName).on middle with
        | (.error failure, after) => (.error failure, after)
        | (.ok outcome, judged) =>
          (.ok (resolved, outcome),
            { judged with
              events := judged.events ++
                (Policy.apply outcome settings (session.reject settings reference)).2 }) := by
  unfold assess
  rw [on_bind_of_ok (on_register _ _), on_bind]
  rcases (Resolution.resolve reference settings (session.directory settings) reference.baseName).on
    { start with temps := start.temps.register (session.staged settings reference) } with
    ⟨failure | resolved, middle⟩
  · rfl
  · dsimp only
    rw [on_bind]
    rcases (Validation.run session.engine resolved.source { skipRows := settings.skipRows }
      (session.staged settings reference) (session.reject settings reference) reference.isRemote
      reference.displayName).on middle with ⟨failure | outcome, judged⟩
    · rfl
    · rfl

/-! ## Which files the stages edit -/

theorem assess_edits {session : Session} (hengine : session.engine.EditsOnlyItsFiles)
    {home : Location} {touched : Location → Prop} {settings : Settings}
    {reference : InputReference}
    (hderived : ∀ p ∈ session.derivedPaths settings reference.baseName,
      touched (p.location home)) :
    EditsOnly home touched (session.assess settings reference) := by
  simp only [derivedPaths, List.forall_mem_cons] at hderived
  obtain ⟨hreject, hstaged, hstdin, hutf8, hfixed, -⟩ := hderived
  have hown : Resolution.IntermediatesTouched home touched (session.directory settings)
      reference.baseName := ⟨hstdin, hutf8, hfixed⟩
  unfold assess
  refine .bind (.register hstaged) fun _ => ?_
  refine .bind (Resolution.resolve_edits hown reference settings) fun resolved => ?_
  refine .bind (Validation.run_edits hengine resolved.source _ hstaged hreject _ _) fun _ => ?_
  exact .bind (.reportAll _) fun _ => .pure _

/-! ## Getting ready -/

theorem on_ensure (result : Except Failure Unit) (world : World) :
    (ensure result).on world = (result, world) := by
  cases result <;> rfl

theorem on_prepare (reference : InputReference) (options : Options) (baseName : String)
    (world : World) :
    (∃ failure, (prepare reference options baseName).on world = (.error failure, world)) ∨
      ∃ settings, (prepare reference options baseName).on world = (.ok settings, world) ∧
        options.settings (.ofLocation world.files.home) baseName = .ok settings ∧
        checkInput world.files reference = .ok () := by
  unfold prepare
  rw [on_get_bind, on_bind, on_ensure]
  cases checkInput world.files reference with
  | error failure => exact .inl ⟨failure, rfl⟩
  | ok _ =>
      simp only [on_bind, on_ensure]
      cases checkStdin world.stdin reference with
      | error failure => exact .inl ⟨failure, rfl⟩
      | ok _ =>
          cases hsettings : options.settings (.ofLocation world.files.home) baseName with
          | error failure => exact .inl ⟨failure, rfl⟩
          | ok settings =>
              simp only []
              split
              · exact .inr ⟨settings, rfl, rfl, trivial⟩
              · rw [on_bind, on_ensure]
                cases checkOutput world.files settings.output settings.force with
                | error failure => exact .inl ⟨failure, rfl⟩
                | ok _ => exact .inr ⟨settings, rfl, rfl, trivial⟩

/-- The arguments are good if the input can be read, and the output is free if it is to be
written. -/
theorem prepare_eq_ok_iff {reference : InputReference} {options : Options} {baseName : String}
    {settings : Settings} {world after : World} :
    (prepare reference options baseName).on world = (.ok settings, after) ↔
      after = world ∧ checkInput world.files reference = .ok () ∧
        checkStdin world.stdin reference = .ok () ∧
        options.settings (.ofLocation world.files.home) baseName = .ok settings ∧
        (settings.checkOnly = true ∨
          checkOutput world.files settings.output settings.force = .ok ()) := by
  unfold prepare
  rw [on_get_bind, on_bind, on_ensure]
  rcases checkInput world.files reference with failure | ⟨⟩
  · simp
  · simp only [on_bind, on_ensure]
    rcases checkStdin world.stdin reference with failure | ⟨⟩
    · simp
    · cases hsettings : options.settings (.ofLocation world.files.home) baseName with
      | error failure => simp
      | ok found =>
          simp only []
          split
          · next hcheck =>
              simp only [on_pure]
              constructor
              · rintro ⟨⟩
                exact ⟨rfl, trivial, trivial, rfl, .inl hcheck⟩
              · rintro ⟨rfl, -, -, hsame, -⟩
                rw [hsame]
          · next hcheck =>
              rw [on_bind, on_ensure]
              rcases houtput : checkOutput world.files found.output found.force with failure | ⟨⟩
              · simp only
                constructor
                · rintro ⟨⟩
                · rintro ⟨-, -, -, ⟨⟩, hfree⟩
                  simp [hcheck, houtput] at hfree
              · simp only [on_pure]
                constructor
                · rintro ⟨⟩
                  exact ⟨rfl, trivial, trivial, rfl, .inr houtput⟩
                · rintro ⟨rfl, -, -, hsame, -⟩
                  rw [hsame]

/-- A run is refused, and nothing has changed, or it makes room for its output and its file of
rejected rows. -/
theorem getReady_cases (session : Session) (argument : String) (options : Options) (world : World) :
    (∃ failure, (session.getReady argument options).on world = (.error failure, world)) ∨
      ∃ settings, options.settings (.ofLocation world.files.home)
          (InputReference.ofArgument argument).baseName = .ok settings ∧
        (session.getReady argument options).on world =
          ((if settings.checkOnly then pure () else makeOutputDir settings.output) >>= fun _ =>
            removeStale (session.reject settings (.ofArgument argument)) >>= fun _ =>
              (pure settings : Run Settings)).on world := by
  unfold getReady
  rcases on_prepare (InputReference.ofArgument argument) options
      (InputReference.ofArgument argument).baseName world with
    ⟨failure, hprepare⟩ | ⟨settings, hprepare, hsettings, -⟩
  · exact .inl ⟨failure, on_bind_of_error hprepare⟩
  · refine .inr ⟨settings, hsettings, ?_⟩
    rw [on_bind_of_ok hprepare]
    split <;> rfl

/-- A run gets ready if its arguments are good, the directory of its output can be made, and the
file of rejected rows from before can be removed. -/
theorem getReady_eq_ok_iff {session : Session} {argument : String} {options : Options}
    {settings : Settings} {world start : World} :
    (session.getReady argument options).on world = (.ok settings, start) ↔
      (prepare (.ofArgument argument) options (InputReference.ofArgument argument).baseName).on
          world = (.ok settings, world) ∧
        ∃ opened, (if settings.checkOnly then pure () else makeOutputDir settings.output).on world =
            (.ok (), opened) ∧
          (removeStale (session.reject settings (.ofArgument argument))).on opened =
            (.ok (), start) := by
  have hparts : session.getReady argument options =
      prepare (.ofArgument argument) options (InputReference.ofArgument argument).baseName >>=
        fun settings => (if settings.checkOnly then pure () else makeOutputDir settings.output) >>=
          fun _ => removeStale (session.reject settings (.ofArgument argument)) >>=
            fun _ => pure settings := by
    unfold getReady
    refine bind_congr fun found => ?_
    split <;> rfl
  simp only [hparts, on_bind_eq_ok_iff]
  constructor
  · rintro ⟨found, middle, hprepare, _, opened, hopen, _, last, hstale, ⟨⟩⟩
    obtain ⟨rfl, -⟩ := prepare_eq_ok_iff.mp hprepare
    exact ⟨hprepare, opened, hopen, hstale⟩
  · rintro ⟨hprepare, opened, hopen, hstale⟩
    exact ⟨settings, world, hprepare, (), opened, hopen, (), start, hstale, rfl⟩

theorem settings_of_getReady {session : Session} {argument : String} {options : Options}
    {settings : Settings} {world start : World}
    (h : (session.getReady argument options).on world = (.ok settings, start)) :
    options.settings (.ofLocation world.files.home)
      (InputReference.ofArgument argument).baseName = .ok settings := by
  rcases getReady_cases session argument options world with
    ⟨failure, hrefused⟩ | ⟨found, hfound, hready⟩
  · simp [hrefused] at h
  · rw [hready] at h
    obtain ⟨_, _, -, h⟩ := on_bind_eq_ok_iff.mp h
    obtain ⟨_, _, -, hlast⟩ := on_bind_eq_ok_iff.mp h
    obtain rfl : found = settings := Except.ok.inj (Prod.mk.inj hlast).1
    exact hfound

/-- Nothing can go wrong once the output is written. -/
theorem finish_of_writeOutput {settings : Settings} {staged : Path} {start after : World}
    {stats : FinalForm.Stats} (h : (writeOutput settings staged).on start = (.ok stats, after))
    (reference : InputReference) (resolved : Resolved) (outcome : Outcome) (reject : Path) :
    ∃ last, (finish session reference settings resolved outcome staged reject).on start =
      (.ok (), last) := by
  unfold finish
  rw [on_bind_of_ok h, on_files_bind, on_report]
  exact ⟨_, rfl⟩

/-! ## What comes of the stages -/

/-- A run gets through its assessment: its input has been resolved and validated. -/
def Assesses (argument : String) (options : Options) (world : World) (settings : Settings)
    (resolved : Resolved) (outcome : Outcome) (judged : World) : Prop :=
  ∃ start, (session.getReady argument options).on world = (.ok settings, start) ∧
    (session.assess settings (.ofArgument argument)).on start = (.ok (resolved, outcome), judged)

/-- The world after tidying up. -/
def tidied (settings : Settings) (reference : InputReference) (world : World) : World :=
  { world with
    files := world.files.tidy world.temps (some (session.reject settings reference))
    temps := .empty }

/-- The ways in which a run ends, with its result and the world that it leaves. -/
inductive Ends (argument : String) (options : Options) (world : World) :
    Except Failure Unit → World → Prop where
  /-- The run does not get ready. -/
  | refused {failure : Failure} {after : World}
      (hready : (session.getReady argument options).on world = (.error failure, after)) :
      Ends argument options world (.error failure) after
  /-- The input cannot be resolved, or not be validated. -/
  | unassessed {settings : Settings} {start : World} {failure : Failure} {after : World}
      (hready : (session.getReady argument options).on world = (.ok settings, start))
      (hassess : (session.assess settings (.ofArgument argument)).on start =
        (.error failure, after)) :
      Ends argument options world (.error failure)
        (session.tidied settings (.ofArgument argument) after)
  /-- The run halts without an output. -/
  | halted {settings : Settings} {resolved : Resolved} {outcome : Outcome} {judged : World}
      {success : Bool}
      (hassess : session.Assesses argument options world settings resolved outcome judged)
      (hdecide : Policy.decide outcome settings = .halt success) :
      Ends argument options world
        (if success then .ok () else .error (.rowsRejected settings.strict outcome.rejectedRows))
        (session.tidied settings (.ofArgument argument) judged)
  /-- The output cannot be written. -/
  | unwritten {settings : Settings} {resolved : Resolved} {outcome : Outcome} {judged : World}
      {failure : Failure} {after : World}
      (hassess : session.Assesses argument options world settings resolved outcome judged)
      (hwrites : (Policy.decide outcome settings).writes = true)
      (hfinish : (session.finish (.ofArgument argument) settings resolved outcome
        (session.staged settings (.ofArgument argument))
        (session.reject settings (.ofArgument argument))).on judged = (.error failure, after)) :
      Ends argument options world (.error failure)
        (session.tidied settings (.ofArgument argument) after)
  /-- The output is written. -/
  | written {settings : Settings} {resolved : Resolved} {outcome : Outcome} {judged : World}
      {after : World}
      (hassess : session.Assesses argument options world settings resolved outcome judged)
      (hwrites : (Policy.decide outcome settings).writes = true)
      (hfinish : (session.finish (.ofArgument argument) settings resolved outcome
        (session.staged settings (.ofArgument argument))
        (session.reject settings (.ofArgument argument))).on judged = (.ok (), after)) :
      Ends argument options world
        (if (Policy.decide outcome settings).failsAfter then
          .error (.rowsRejected true outcome.rejectedRows)
        else .ok ())
        (session.tidied settings (.ofArgument argument) after)

variable {session : Session} {argument : String} {options : Options} {world : World}

theorem on_execute_of_ready {settings : Settings} {start : World}
    (hready : (session.getReady argument options).on world = (.ok settings, start)) :
    (session.execute argument options).on world =
      let part := session.assess settings (.ofArgument argument) >>= fun (resolved, outcome) =>
        session.settle settings (.ofArgument argument) resolved outcome
      ((part.on start).1, session.tidied settings (.ofArgument argument) (part.on start).2) := by
  rw [execute_eq, on_bind_of_ok hready, on_tidying]
  rfl

theorem on_execute_of_assesses {settings : Settings} {resolved : Resolved} {outcome : Outcome}
    {judged : World}
    (hassess : session.Assesses argument options world settings resolved outcome judged) :
    (session.execute argument options).on world =
      let part := session.settle settings (.ofArgument argument) resolved outcome
      ((part.on judged).1, session.tidied settings (.ofArgument argument) (part.on judged).2) := by
  obtain ⟨start, hready, hassess⟩ := hassess
  rw [on_execute_of_ready hready]
  simp only [on_bind_of_ok hassess]

theorem on_settle_of_writes {settings : Settings} {reference : InputReference}
    {resolved : Resolved} {outcome : Outcome}
    (hwrites : (Policy.decide outcome settings).writes = true) (judged : World) :
    (session.settle settings reference resolved outcome).on judged =
      match (session.finish reference settings resolved outcome (session.staged settings reference)
        (session.reject settings reference)).on judged with
      | (.ok (), after) =>
        (if (Policy.decide outcome settings).failsAfter then
          .error (.rowsRejected true outcome.rejectedRows) else .ok (), after)
      | (.error failure, after) => (.error failure, after) := by
  rcases hfinish : (session.finish reference settings resolved outcome
    (session.staged settings reference) (session.reject settings reference)).on judged with
    ⟨failure | ⟨⟩, after⟩
  · cases hdecide : Policy.decide outcome settings with
    | halt success => simp [hdecide, Decision.writes] at hwrites
    | proceed => simpa only [settle, hdecide] using hfinish
    | proceedWithWarnings failAfter =>
        simp only [settle, hdecide]
        rw [on_bind_of_error hfinish]
  · cases hdecide : Policy.decide outcome settings with
    | halt success => simp [hdecide, Decision.writes] at hwrites
    | proceed => simpa [settle, hdecide, Decision.failsAfter] using hfinish
    | proceedWithWarnings failAfter =>
        simp only [settle, hdecide]
        rw [on_bind_of_ok hfinish]
        cases failAfter <;> simp [Decision.failsAfter]

theorem Ends.execution {result : Except Failure Unit} {last : World}
    (h : session.Ends argument options world result last) :
    (session.execute argument options).on world = (result, last) := by
  cases h with
  | refused hready => rw [execute_eq, on_bind_of_error hready]
  | unassessed hready hassess =>
      rw [on_execute_of_ready hready]
      simp only [on_bind_of_error hassess]
  | @halted settings resolved outcome judged success hassess hdecide =>
      rw [on_execute_of_assesses hassess]
      cases success <;> simp [settle, hdecide]
  | unwritten hassess hwrites hfinish =>
      rw [on_execute_of_assesses hassess]
      simp only [on_settle_of_writes hwrites, hfinish]
  | written hassess hwrites hfinish =>
      rw [on_execute_of_assesses hassess]
      simp only [on_settle_of_writes hwrites, hfinish]

theorem ends_execute (session : Session) (argument : String) (options : Options) (world : World) :
    session.Ends argument options world ((session.execute argument options).on world).1
      ((session.execute argument options).on world).2 := by
  have hend : ∀ {result last}, session.Ends argument options world result last →
      session.Ends argument options world ((session.execute argument options).on world).1
        ((session.execute argument options).on world).2 := by
    intro result last h
    rwa [h.execution]
  rcases hready : (session.getReady argument options).on world with ⟨failure | settings, start⟩
  · exact hend (.refused hready)
  · rcases hassess : (session.assess settings (.ofArgument argument)).on start with
      ⟨failure | ⟨resolved, outcome⟩, judged⟩
    · exact hend (.unassessed hready hassess)
    · have hassessed : session.Assesses argument options world settings resolved outcome judged :=
        ⟨start, hready, hassess⟩
      cases hwrites : (Policy.decide outcome settings).writes with
      | false =>
          obtain ⟨success, hdecide⟩ : ∃ success, Policy.decide outcome settings = .halt success := by
            cases hdecide : Policy.decide outcome settings <;>
              simp_all [Decision.writes]
          exact hend (.halted hassessed hdecide)
      | true =>
          rcases hfinish : (session.finish (.ofArgument argument) settings resolved outcome
            (session.staged settings (.ofArgument argument))
            (session.reject settings (.ofArgument argument))).on judged with ⟨failure | ⟨⟩, after⟩
          · exact hend (.unwritten hassessed hwrites hfinish)
          · exact hend (.written hassessed hwrites hfinish)

theorem ends_iff (result : Except Failure Unit) (last : World) :
    session.Ends argument options world result last ↔
      (session.execute argument options).on world = (result, last) := by
  refine ⟨Ends.execution, fun h => ?_⟩
  simpa only [h] using ends_execute session argument options world

theorem Assesses.unique {settings settings' : Settings} {resolved resolved' : Resolved}
    {outcome outcome' : Outcome} {judged judged' : World}
    (h : session.Assesses argument options world settings resolved outcome judged)
    (h' : session.Assesses argument options world settings' resolved' outcome' judged') :
    settings = settings' ∧ resolved = resolved' ∧ outcome = outcome' ∧ judged = judged' := by
  obtain ⟨start, hready, hassess⟩ := h
  obtain ⟨start', hready', hassess'⟩ := h'
  obtain ⟨rfl, rfl⟩ : settings = settings' ∧ start = start' := by simpa [hready] using hready'
  simpa [hassess, and_assoc] using hassess'

/-! ## The whole run -/

/-- The status that a result is shown as. -/
def statusOf : Except Failure Unit → ExitStatus
  | .ok () => .success
  | .error _ => .failure

/-- What is shown of a result at the end of a run. -/
def eventsOf : Except Failure Unit → List Event
  | .ok () => []
  | .error failure => failureEvents failure

/-- A run shows its result, and changes nothing else at its end. -/
theorem run_eq (session : Session) (argument : String) (options : Options) (world : World) :
    session.run argument options world =
      let (result, last) := (session.execute argument options).on world
      (statusOf result, { last with events := last.events ++ eventsOf result }) := by
  unfold run
  rcases (session.execute argument options).on world with ⟨failure | ⟨⟩, last⟩
  · rfl
  · simp [statusOf, eventsOf]

theorem statusOf_eq_success_iff {result : Except Failure Unit} :
    statusOf result = .success ↔ result = .ok () := by
  cases result <;> simp [statusOf]

theorem run_eq_success_iff :
    (session.run argument options world).1 = .success ↔
      ∃ settings resolved outcome judged,
        session.Assesses argument options world settings resolved outcome judged ∧
          ((session.settle settings (.ofArgument argument) resolved outcome).on judged).1 =
            .ok () := by
  rw [run_eq, statusOf_eq_success_iff]
  constructor
  · intro h
    rcases hready : (session.getReady argument options).on world with ⟨failure | settings, start⟩
    · rw [execute_eq, on_bind_of_error hready] at h
      simp at h
    · rcases hassess : (session.assess settings (.ofArgument argument)).on start with
        ⟨failure | ⟨resolved, outcome⟩, judged⟩
      · rw [on_execute_of_ready hready] at h
        simp [on_bind_of_error hassess] at h
      · have hassessed : session.Assesses argument options world settings resolved outcome judged :=
          ⟨start, hready, hassess⟩
        rw [on_execute_of_assesses hassessed] at h
        exact ⟨settings, resolved, outcome, judged, hassessed, h⟩
  · rintro ⟨settings, resolved, outcome, judged, hassess, hsettle⟩
    rw [on_execute_of_assesses hassess]
    exact hsettle

theorem Ends.run_eq {result : Except Failure Unit} {last : World}
    (h : session.Ends argument options world result last) :
    session.run argument options world =
      (statusOf result, { last with events := last.events ++ eventsOf result }) := by
  rw [Session.run_eq, h.execution]

end Session

end TidyCsv
