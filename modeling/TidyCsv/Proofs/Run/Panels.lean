import TidyCsv.Engine.BuiltIn
import TidyCsv.Proofs.Run.Silence
import TidyCsv.Proofs.Run.Validation

/-! # Which panels a run shows

A failure is shown by validation, by policy, or at the end of a run, and a failure that has been
shown is not shown again. A strict run that has written its output has shown a warning instead. -/

namespace TidyCsv

open Run

/-- How many panels of a severity there are. -/
def panels (severity : Severity) (events : List Event) : Nat :=
  events.countP (·.isPanelOf severity)

@[simp] theorem panels_nil (severity : Severity) : panels severity [] = 0 := rfl

@[simp] theorem panels_append (severity : Severity) (xs ys : List Event) :
    panels severity (xs ++ ys) = panels severity xs + panels severity ys :=
  List.countP_append

@[simp] theorem panels_panel (severity other : Severity) (title body : String) :
    panels severity [.panel other title body] = if other = severity then 1 else 0 := by
  simp [panels, Event.isPanelOf, List.countP_cons]

@[simp] theorem panels_summary (severity : Severity) (rows : List (String × String)) :
    panels severity [.summary rows] = 0 := rfl

/-! ## Policy -/

namespace Policy

variable {outcome : Outcome} {settings : Settings}

theorem panels_apply (severity : Severity) (outcome : Outcome) (settings : Settings)
    (reject : Path) :
    panels severity (apply outcome settings reject).2 =
      panels severity (decisionPanel outcome settings reject (decide outcome settings)) := by
  have hwarning : panels severity
      (if outcome.fallback.any (!·.strictMode) then [Event.warning fallbackWarning] else []) =
        0 := by
    split <;> rfl
  simp [apply, hwarning]

theorem panels_of_halt {success : Bool} (h : decide outcome settings = .halt success)
    (reject : Path) :
    panels .error (apply outcome settings reject).2 = if success then 0 else 1 := by
  rw [panels_apply, h]
  cases success <;> simp [decisionPanel]

theorem panels_of_writes (h : (decide outcome settings).writes = true) (reject : Path) :
    panels .error (apply outcome settings reject).2 = 0 := by
  rw [panels_apply]
  cases hdecide : decide outcome settings with
  | proceed => rfl
  | proceedWithWarnings failAfter => simp [decisionPanel]
  | halt success => simp [hdecide, Decision.writes] at h

theorem panels_of_failsAfter (h : (decide outcome settings).failsAfter = true) (reject : Path) :
    panels .warning (apply outcome settings reject).2 = 1 := by
  rw [panels_apply]
  cases hdecide : decide outcome settings with
  | proceed => simp [hdecide, Decision.failsAfter] at h
  | proceedWithWarnings failAfter => simp [decisionPanel]
  | halt success => simp [hdecide, Decision.failsAfter] at h

end Policy

namespace Session

variable {session : Session} {argument : String} {options : Options} {settings : Settings}
  {reference : InputReference} {world start after : World}

/-! ## The end of a run -/

theorem panels_failureEvents {failure : Failure} (h : failure.alreadyReported = false) :
    panels .error (failureEvents failure) = 1 := by
  simp [failureEvents, h]

theorem failureEvents_rowsRejected (strict : Bool) (rejected : Nat) :
    failureEvents (.rowsRejected strict rejected) = [] := rfl

theorem silent_error {α : Type} {part : Run α} (hpart : Silent World.events part)
    {failure : Failure} (h : part.on start = (.error failure, after)) :
    ∃ shown, after.events = start.events ++ shown ∧
      panels .error (shown ++ failureEvents failure) = 1 := by
  refine ⟨[], ?_, ?_⟩
  · rw [List.append_nil]
    exact hpart.view_of_on h
  · exact panels_failureEvents (hpart.unreported_of_on h)

/-! ## Stages -/

theorem resolve_silent_events (reference : InputReference) (settings : Settings) (directory : Path)
    (baseName : String) :
    Silent World.events (Resolution.resolve reference settings directory baseName) :=
  Resolution.resolve_silent (fun _ _ => rfl) (fun _ _ => rfl) directory baseName (fun _ _ => rfl)
    reference settings

/-- A failure to validate the input is shown once, by validation if it is one of the engine. -/
theorem validation_error {engine : Engine} {source : Source} {options : ReadOptions}
    {staged reject : Path} {isRemote : Bool} {displayName : String} {failure : Failure}
    (h : (Validation.run engine source options staged reject isRemote displayName).on start =
      (.error failure, after)) :
    ∃ shown, after.events = start.events ++ shown ∧
      panels .error (shown ++ failureEvents failure) = 1 := by
  rcases hresult : engine.validate start.files source options staged reject with
    ⟨message | report, fs⟩
  · rw [Validation.on_run_of_error hresult] at h
    obtain ⟨hfailure, rfl⟩ := Prod.mk.inj h
    obtain rfl := Except.error.inj hfailure
    exact ⟨_, rfl, by simp [failureEvents, Failure.alreadyReported, Validation.failurePanel]⟩
  · rw [Validation.on_run_of_ok hresult] at h
    obtain ⟨hfailure, rfl⟩ := Prod.mk.inj h
    cases houtcome : Validation.outcomeOf report fs reject with
    | ok outcome => simp [houtcome, Except.mapError] at hfailure
    | error fault =>
        obtain rfl : Failure.io fault = failure := by
          simpa [houtcome, Except.mapError] using hfailure
        exact ⟨[], by simp, by simpa using panels_failureEvents rfl⟩

theorem validation_ok {engine : Engine} {source : Source} {options : ReadOptions}
    {staged reject : Path} {isRemote : Bool} {displayName : String} {outcome : Outcome}
    (h : (Validation.run engine source options staged reject isRemote displayName).on start =
      (.ok outcome, after)) : after.events = start.events := by
  obtain ⟨report, fs, -, -, rfl⟩ := Validation.run_ok h
  rfl

/-- A failure to assess the input is shown once, by validation or at the end of the run. -/
theorem assess_error {failure : Failure}
    (h : (session.assess settings reference).on start = (.error failure, after)) :
    ∃ shown, after.events = start.events ++ shown ∧
      panels .error (shown ++ failureEvents failure) = 1 := by
  have hresolve := resolve_silent_events reference settings (session.directory settings)
    reference.baseName
  rw [on_assess] at h
  split at h
  · next hfailed =>
      obtain ⟨hfailure, rfl⟩ := Prod.mk.inj h
      obtain rfl := Except.error.inj hfailure
      exact (silent_error hresolve hfailed :)
  · next resolved middle hresolved =>
      have hmiddle : middle.events = start.events := (hresolve.view_of_on hresolved :)
      split at h
      · next hfailed =>
          obtain ⟨hfailure, rfl⟩ := Prod.mk.inj h
          obtain rfl := Except.error.inj hfailure
          rw [← hmiddle]
          exact validation_error hfailed
      · simp at h

/-- After an assessment the user has been told what follows, and nothing else. -/
theorem assess_ok {resolved : Resolved} {outcome : Outcome}
    (h : (session.assess settings reference).on start = (.ok (resolved, outcome), after)) :
    after.events = start.events ++
      (Policy.apply outcome settings (session.reject settings reference)).2 := by
  have hresolve := resolve_silent_events reference settings (session.directory settings)
    reference.baseName
  rw [on_assess] at h
  split at h
  · simp at h
  · next found middle hresolved =>
      have hmiddle : middle.events = start.events := (hresolve.view_of_on hresolved :)
      split at h
      · simp at h
      · next judged hvalidated =>
          obtain ⟨hresult, rfl⟩ := Prod.mk.inj h
          obtain ⟨-, rfl⟩ := Prod.mk.inj (Except.ok.inj hresult)
          simp only [validation_ok hvalidated, hmiddle]

theorem writeOutput_silent_events (settings : Settings) (staged : Path) :
    Silent World.events (writeOutput settings staged) :=
  writeOutput_silent (fun _ _ => rfl) (fun _ _ => rfl) settings staged

theorem finish_error {resolved : Resolved} {outcome : Outcome} {staged reject : Path}
    {failure : Failure}
    (h : (finish session reference settings resolved outcome staged reject).on start =
      (.error failure, after)) :
    ∃ shown, after.events = start.events ++ shown ∧
      panels .error (shown ++ failureEvents failure) = 1 := by
  unfold finish at h
  rcases hresult : (writeOutput settings staged).on start with ⟨found | stats, middle⟩
  · rw [on_bind_of_error hresult] at h
    obtain ⟨hfailure, rfl⟩ := Prod.mk.inj h
    obtain rfl := Except.error.inj hfailure
    exact silent_error (writeOutput_silent_events settings staged) hresult
  · rw [on_bind_of_ok hresult, on_files_bind, on_report] at h
    simp at h

theorem finish_ok_events {resolved : Resolved} {outcome : Outcome} {staged reject : Path}
    (h : (finish session reference settings resolved outcome staged reject).on start =
      (.ok (), after)) :
    (∃ stats middle, (writeOutput settings staged).on start = (.ok stats, middle)) ∧
      ∃ rows, after.events = start.events ++ [.summary rows] := by
  unfold finish at h
  obtain ⟨stats, middle, hwrite, h⟩ := on_bind_eq_ok_iff.mp h
  rw [on_files_bind, on_report] at h
  obtain ⟨-, rfl⟩ := Prod.mk.inj h
  have hmiddle : middle.events = start.events :=
    (writeOutput_silent_events settings staged).view_of_on hwrite
  exact ⟨⟨stats, middle, hwrite⟩, _, by rw [hmiddle]⟩

/-! ## The run -/

/-- A strict run finds rejected rows, writes its output file all the same, and fails after that. -/
def FailsAfterWriting (session : Session) (argument : String) (options : Options) (world : World) :
    Prop :=
  ∃ settings resolved outcome judged stats written,
    session.Assesses argument options world settings resolved outcome judged ∧
      settings.checkOnly = false ∧ settings.strict = true ∧ settings.output.isStdout = false ∧
      outcome.hasErrors = true ∧
      (writeOutput settings (session.staged settings (.ofArgument argument))).on judged =
        (.ok stats, written)

theorem getReady_silent_events (session : Session) (argument : String) (options : Options) :
    Silent World.events (session.getReady argument options) :=
  getReady_silent (fun _ _ => rfl) session argument options

theorem Assesses.events {resolved : Resolved} {outcome : Outcome} {judged : World}
    (h : session.Assesses argument options world settings resolved outcome judged) :
    judged.events = world.events ++ (Policy.apply outcome settings
      (session.reject settings (.ofArgument argument))).2 := by
  obtain ⟨start, hready, hassess⟩ := h
  rw [assess_ok hassess, (getReady_silent_events session argument options).view_of_on hready]

/-- Where a run fails after writing, it has shown a warning, and shows nothing at its end. -/
theorem FailsAfterWriting.panels (h : session.FailsAfterWriting argument options world) :
    ∃ shown, (session.run argument options world).2.events = world.events ++ shown ∧
      (session.run argument options world).1 = .failure ∧
      TidyCsv.panels .error shown = 0 ∧ TidyCsv.panels .warning shown = 1 := by
  obtain ⟨settings, resolved, outcome, judged, stats, written, hassess, hcheck, hstrict, hfile,
    herrors, hwrite⟩ := h
  have hafter : (Policy.decide outcome settings).failsAfter = true :=
    Policy.failsAfter_eq_true_iff.mpr ⟨hcheck, herrors, hstrict, hfile⟩
  have hwrites : (Policy.decide outcome settings).writes = true :=
    Policy.writes_eq_true_iff.mpr ⟨hcheck, by simp [hfile]⟩
  obtain ⟨last, hfinish⟩ := session.finish_of_writeOutput hwrite (.ofArgument argument) resolved
    outcome (session.reject settings (.ofArgument argument))
  obtain ⟨-, rows, hrows⟩ := finish_ok_events hfinish
  rw [(Ends.written hassess hwrites hfinish).run_eq, hafter, if_pos rfl]
  refine ⟨(Policy.apply outcome settings (session.reject settings (.ofArgument argument))).2 ++
    [.summary rows], ?_, rfl, ?_, ?_⟩
  · simp [eventsOf, failureEvents_rowsRejected, tidied, hrows, hassess.events]
  · simp [Policy.panels_of_writes hwrites]
  · simp [Policy.panels_of_failsAfter hafter]

/-- Any other run shows one error panel if it fails, and none if it succeeds. -/
theorem Ends.panels {result : Except Failure Unit} {last : World}
    (h : session.Ends argument options world result last)
    (hnot : ¬ session.FailsAfterWriting argument options world) :
    ∃ shown, last.events = world.events ++ shown ∧
      TidyCsv.panels .error (shown ++ eventsOf result) =
        match statusOf result with
        | .success => 0
        | .failure => 1 := by
  cases h with
  | refused hready => exact silent_error (getReady_silent_events session argument options) hready
  | unassessed hready hassess =>
      obtain ⟨shown, hshown, hpanels⟩ := assess_error hassess
      rw [(getReady_silent_events session argument options).view_of_on hready] at hshown
      exact ⟨shown, hshown, hpanels⟩
  | @halted settings resolved outcome judged success hassess hdecide =>
      refine ⟨_, hassess.events, ?_⟩
      have hpanels := Policy.panels_of_halt hdecide (session.reject settings (.ofArgument argument))
      cases success with
      | true => simpa [eventsOf, statusOf] using hpanels
      | false => simpa [eventsOf, statusOf, failureEvents_rowsRejected] using hpanels
  | @unwritten settings resolved outcome judged failure after hassess hwrites hfinish =>
      obtain ⟨shown, hshown, hpanels⟩ := finish_error hfinish
      refine ⟨(Policy.apply outcome settings (session.reject settings (.ofArgument argument))).2 ++
        shown, ?_, ?_⟩
      · simp [tidied, hshown, hassess.events]
      · rw [List.append_assoc, panels_append, Policy.panels_of_writes hwrites]
        simpa [eventsOf, statusOf] using hpanels
  | @written settings resolved outcome judged after hassess hwrites hfinish =>
      obtain ⟨⟨stats, middle, hwrite⟩, rows, hrows⟩ := finish_ok_events hfinish
      have hafter : (Policy.decide outcome settings).failsAfter = false := by
        rw [Bool.eq_false_iff]
        intro hafter
        obtain ⟨hcheck, herrors, hstrict, hfile⟩ := Policy.failsAfter_eq_true_iff.mp hafter
        exact hnot ⟨settings, resolved, outcome, judged, stats, middle, hassess, hcheck, hstrict,
          hfile, herrors, hwrite⟩
      rw [hafter, if_neg (by simp)]
      refine ⟨(Policy.apply outcome settings (session.reject settings (.ofArgument argument))).2 ++
        [.summary rows], ?_, ?_⟩
      · simp [tidied, hrows, hassess.events]
      · simp [eventsOf, statusOf, Policy.panels_of_writes hwrites]

/-- A run that succeeds shows no error panel. One that fails shows exactly one, or exactly one
warning panel if it fails after its output has been written. -/
theorem run_panels (session : Session) (argument : String) (options : Options) (world : World) :
    let (status, last) := session.run argument options world
    ∃ shown, last.events = world.events ++ shown ∧
      panels .error shown ≤ 1 ∧
      (status = .success → panels .error shown = 0) ∧
      (status = .failure → ¬ session.FailsAfterWriting argument options world →
        panels .error shown = 1) ∧
      (session.FailsAfterWriting argument options world →
        status = .failure ∧ panels .error shown = 0 ∧ panels .warning shown = 1) := by
  by_cases hafter : session.FailsAfterWriting argument options world
  · obtain ⟨shown, hshown, hstatus, herror, hwarning⟩ := hafter.panels
    exact ⟨shown, hshown, by omega, fun _ => herror, fun _ hnot => absurd hafter hnot,
      fun _ => ⟨hstatus, herror, hwarning⟩⟩
  · have hends := ends_execute session argument options world
    obtain ⟨shown, hshown, hpanels⟩ := hends.panels hafter
    rw [hends.run_eq]
    refine ⟨shown ++ eventsOf _, by rw [hshown, List.append_assoc], ?_, fun hstatus => ?_,
      fun hstatus _ => ?_, fun h => absurd h hafter⟩
    · rw [hpanels]
      split <;> omega
    · rw [hpanels, hstatus]
    · rw [hpanels, hstatus]

/-- A strict run to a file, in which one row is rejected. -/
def strictRun : ExitStatus × World :=
  run ⟨.builtIn .unreachable, none, ⟨"/"⟩⟩ "in.csv" { output := some ⟨"out.csv"⟩, strict := true }
    (.initial ((FileSystem.empty []).put ["in.csv"] (.file (Utf8.ofString "a,b\n1,2\n3\n")))
      .terminal)

example : strictRun.1 = .failure ∧ panels .error strictRun.2.events = 0 ∧
    panels .warning strictRun.2.events = 1 := by
  decide +kernel

end Session

end TidyCsv
