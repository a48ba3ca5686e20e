import TidyCsv.Engine.BuiltIn
import TidyCsv.Proofs.Run.Panels

/-! # Runs that are refused

A run is checked before it touches anything. Whatever one of the checks objects to, the run ends
there: it shows the objection, and it leaves the rest of the world as it was. -/

namespace TidyCsv.Session

open FileSystem Run

/-- What can be held against a run before it starts, with the failure that says so. -/
inductive Objects (argument : String) (options : Options) (world : World) : Failure → Prop where
  | inputMissing {path : Path} (hpath : (InputReference.ofArgument argument).path? = some path)
      (hmissing : world.files.contains path = false) :
      Objects argument options world (.inputNotFound path.text)
  | inputNoFile {path : Path} (hpath : (InputReference.ofArgument argument).path? = some path)
      (hthere : world.files.contains path = true) (hfile : world.files.isFile path = false) :
      Objects argument options world (.notAFile path)
  | nothingPiped (hstdin : InputReference.ofArgument argument = .stdin)
      (hterminal : world.stdin = .terminal) : Objects argument options world .stdinNotPiped
  | delimiterInvalid {refusal : Delimiter.Refusal}
      (hparse : Delimiter.parse options.delimiter = .error refusal) :
      Objects argument options world (.invalidDelimiter options.delimiter refusal.message)
  | outputThere {path : Path} (hcheck : options.checkOnly = false) (hforce : options.force = false)
      (houtput : options.target (.ofLocation world.files.home)
        (InputReference.ofArgument argument).baseName = .file path)
      (hthere : world.files.contains path = true) :
      Objects argument options world (.outputExists path)

variable {argument : String} {options : Options} {world : World} {failure : Failure}

/-! ## One check -/

theorem objects_of_checkInput
    (h : checkInput world.files (.ofArgument argument) = .error failure) :
    Objects argument options world failure := by
  unfold checkInput at h
  split at h
  · simp at h
  · next path hpath =>
      split at h
      · next hmissing =>
          obtain rfl := Except.error.inj h
          exact .inputMissing hpath (by simpa using hmissing)
      · next hthere =>
          split at h
          · next hfile =>
              obtain rfl := Except.error.inj h
              exact .inputNoFile hpath (by simpa using hthere) (by simpa using hfile)
          · simp at h

theorem objects_of_checkStdin (h : checkStdin world.stdin (.ofArgument argument) = .error failure) :
    Objects argument options world failure := by
  unfold checkStdin at h
  split at h
  · next hboth =>
      obtain rfl := Except.error.inj h
      exact .nothingPiped hboth.1 hboth.2
  · simp at h

theorem objects_of_settings {home : Path} {baseName : String}
    (h : options.settings home baseName = .error failure) :
    Objects argument options world failure := by
  unfold Options.settings at h
  split at h
  · next refusal hparse =>
      obtain rfl := Except.error.inj h
      exact .delimiterInvalid hparse
  · simp at h

theorem objects_of_checkOutput {settings : Settings}
    (hsettings : options.settings (.ofLocation world.files.home)
      (InputReference.ofArgument argument).baseName = .ok settings)
    (hcheck : settings.checkOnly = false)
    (h : checkOutput world.files settings.output settings.force = .error failure) :
    Objects argument options world failure := by
  unfold Options.settings at hsettings
  split at hsettings
  · simp at hsettings
  · obtain rfl := Except.ok.inj hsettings
    unfold checkOutput at h
    split at h
    · next path houtput =>
        split at h
        · next hthere =>
            obtain rfl := Except.error.inj h
            obtain ⟨hthere, hforce⟩ : world.files.contains path = true ∧ options.force = false := by
              simpa using hthere
            exact .outputThere hcheck hforce houtput hthere
        · simp at h
    · simp at h

/-! ## All checks -/

theorem objects_of_prepare
    (h : ((prepare (.ofArgument argument) options
      (InputReference.ofArgument argument).baseName).on world).1 = .error failure) :
    Objects argument options world failure := by
  unfold prepare at h
  rw [on_get_bind, on_bind, on_ensure] at h
  rcases hinput : checkInput world.files (.ofArgument argument) with found | ⟨⟩
  · obtain rfl : found = failure := by simpa [hinput] using h
    exact objects_of_checkInput hinput
  · simp only [hinput, on_bind, on_ensure] at h
    rcases hstdin : checkStdin world.stdin (.ofArgument argument) with found | ⟨⟩
    · obtain rfl : found = failure := by simpa [hstdin] using h
      exact objects_of_checkStdin hstdin
    · simp only [hstdin] at h
      cases hsettings : options.settings (.ofLocation world.files.home)
          (InputReference.ofArgument argument).baseName with
      | error found =>
          obtain rfl : found = failure := by simpa [hsettings] using h
          exact objects_of_settings hsettings
      | ok settings =>
          simp only [hsettings] at h
          split at h
          · simp at h
          · next hcheck =>
              rw [on_bind, on_ensure] at h
              rcases houtput : checkOutput world.files settings.output settings.force with
                found | ⟨⟩
              · obtain rfl : found = failure := by simpa [houtput] using h
                exact objects_of_checkOutput hsettings (by simpa using hcheck) houtput
              · simp [houtput] at h

/-- A run that something is held against does not get past the checks. -/
theorem Objects.prepare_ne_ok (h : Objects argument options world failure) (settings : Settings)
    (after : World) :
    (prepare (.ofArgument argument) options (InputReference.ofArgument argument).baseName).on world ≠
      (.ok settings, after) := by
  intro hprepare
  obtain ⟨-, hinput, hstdin, hsettings, houtput⟩ := prepare_eq_ok_iff.mp hprepare
  unfold Options.settings at hsettings
  cases h with
  | inputMissing hpath hmissing => simp [checkInput, hpath, hmissing] at hinput
  | inputNoFile hpath hthere hfile => simp [checkInput, hpath, hthere, hfile] at hinput
  | nothingPiped hreference hterminal => simp [checkStdin, hreference, hterminal] at hstdin
  | delimiterInvalid hparse => simp [hparse] at hsettings
  | outputThere hcheck hforce htarget hthere =>
      split at hsettings
      · simp at hsettings
      · obtain rfl := Except.ok.inj hsettings
        simp [checkOutput, hcheck, hforce, htarget, hthere] at houtput

theorem Objects.refused (h : Objects argument options world failure) :
    ∃ first, Objects argument options world first ∧
      (prepare (.ofArgument argument) options (InputReference.ofArgument argument).baseName).on
        world = (.error first, world) := by
  rcases on_prepare (.ofArgument argument) options (InputReference.ofArgument argument).baseName
    world with ⟨first, hrefused⟩ | ⟨settings, hprepare, -⟩
  · exact ⟨first, objects_of_prepare (by rw [hrefused]), hrefused⟩
  · exact absurd hprepare (h.prepare_ne_ok settings world)

theorem Objects.failureEvents_eq (h : Objects argument options world failure) :
    ∃ advice, failure.hint? = some advice ∧
      failureEvents failure = [.panel .error failure.message advice] := by
  cases h <;> exact ⟨_, rfl, rfl⟩

/-! ## The run -/

/-- A run that something is held against ends at its checks. It fails, shows the first objection in
one panel, and changes nothing else: no file or directory, not what waits on standard input, not
standard output, and not the set of registered paths. -/
theorem run_refused (session : Session) (h : Objects argument options world failure) :
    ∃ first advice, Objects argument options world first ∧
      (prepare (.ofArgument argument) options (InputReference.ofArgument argument).baseName).on
        world = (.error first, world) ∧
      first.hint? = some advice ∧
      session.run argument options world =
        (.failure,
          { world with events := world.events ++ [.panel .error first.message advice] }) := by
  obtain ⟨first, hobjects, hprepare⟩ := h.refused
  obtain ⟨advice, hadvice, hevents⟩ := hobjects.failureEvents_eq
  refine ⟨first, advice, hobjects, hprepare, hadvice, ?_⟩
  have hready : (session.getReady argument options).on world = (.error first, world) := by
    unfold getReady
    exact on_bind_of_error hprepare
  rw [(Ends.refused hready).run_eq]
  simp only [statusOf, eventsOf, hevents]

/-- A world in which the output is there already, beside a file of rejected rows from before. -/
def finishedWorld : World where
  files := (((FileSystem.empty []).put ["in.csv"] (.file (Utf8.ofString "a\n1\n"))).put ["out.csv"]
    (.file (Utf8.ofString "old"))).put ["in_reject_errors.csv"] (.file (Utf8.ofString "line\n1\n"))
  stdin := .piped (Utf8.ofString "b\n")
  stdout := Utf8.ofString "shown"
  events := []
  temps := ⟨[⟨"left.csv"⟩]⟩

theorem run_refused_finished :
    let options : Options := { output := some ⟨"out.csv"⟩ }
    Objects "in.csv" options finishedWorld (.outputExists ⟨"out.csv"⟩) ∧
      (run ⟨.builtIn .unreachable, none, ⟨"/"⟩⟩ "in.csv" options finishedWorld) =
        (.failure, { finishedWorld with events :=
          [.panel .error "output file already exists: out.csv" "Use --force to overwrite."] }) := by
  intro options
  have hobjects : Objects "in.csv" options finishedWorld (.outputExists ⟨"out.csv"⟩) :=
    .outputThere rfl rfl (by decide) (by decide)
  obtain ⟨first, advice, -, hprepare, hadvice, hrun⟩ :=
    run_refused ⟨.builtIn .unreachable, none, ⟨"/"⟩⟩ hobjects
  have hchecks : ((prepare (.ofArgument "in.csv") options
      (InputReference.ofArgument "in.csv").baseName).on finishedWorld).1 =
        .error (.outputExists ⟨"out.csv"⟩) := by
    decide
  obtain rfl : first = .outputExists ⟨"out.csv"⟩ := by
    simpa [hprepare] using hchecks
  obtain rfl : "Use --force to overwrite." = advice := by simpa [Failure.hint?] using hadvice
  exact ⟨hobjects, hrun⟩

end TidyCsv.Session
