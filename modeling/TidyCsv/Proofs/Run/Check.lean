import TidyCsv.Proofs.Run.Assessment
import TidyCsv.Proofs.Run.Prediction
import TidyCsv.Proofs.Run.Readiness

/-! # What a check says of its input

A check accepts its input or tells how many rows are rejected. It never writes its output, but works
in the directory of it unless another one is prescribed. Where there is room for the files that a
check writes on its way, the verdict is a function of the input alone, and the same for every output.
Where there is none, the check fails, however good its input is: a directory that is missing is made
for every run but a check. -/

namespace TidyCsv

open FileSystem Run

/-! ## Verdicts -/

/-- What the result of a check says of its input. -/
inductive Verdict where
  | accepted
  | rejected (rows : Nat)
  /-- The check fails before it can tell. -/
  | undecided
deriving DecidableEq, Repr

namespace Verdict

def ofResult : Except Failure Unit → Verdict
  | .ok () => accepted
  | .error (.rowsRejected _ rows) => rejected rows
  | .error _ => undecided

/-- The verdict on a number of rejected rows, if there is one. -/
def ofRows : Option Nat → Verdict
  | none => undecided
  | some 0 => accepted
  | some (rows + 1) => rejected (rows + 1)

/-- The status that goes with a verdict. -/
def status : Verdict → ExitStatus
  | accepted => .success
  | _ => .failure

theorem status_ofResult (result : Except Failure Unit) :
    (ofResult result).status = Session.statusOf result := by
  cases result with
  | ok _ => rfl
  | error failure => cases failure <;> rfl

theorem ofResult_of_unreported {failure : Failure} (h : failure.alreadyReported = false) :
    ofResult (.error failure) = undecided := by
  cases failure <;> first | rfl | simp [Failure.alreadyReported] at h

end Verdict

/-- The number of rows of an input that are rejected, if the input can be read and has a header. -/
def Resolution.rejectedRows? (network : Network) (skipRows : Nat) (fs : FileSystem) (stdin : Stdin)
    (reference : InputReference) : Option Nat :=
  (content? network none fs stdin reference).bind fun content =>
    (BuiltIn.appraise { skipRows := skipRows } content).1.toOption.map EngineReport.rejected

namespace Session

variable {session : Session} {network : Network} {argument : String} {options : Options}
  {settings : Settings} {reference : InputReference} {world start : World} {content : Bytes}

/-- What a run says of its input if it is a check. -/
def verdict (session : Session) (argument : String) (options : Options) (world : World) : Verdict :=
  .ofResult ((session.execute argument options).on world).1

theorem run_status :
    (session.run argument options world).1 = (session.verdict argument options world).status := by
  rw [run_eq, verdict, Verdict.status_ofResult]

/-! ## The stages of a check -/

/-- An input whose content reaches the engine passes the checks of the arguments. -/
theorem checks_of_content? {sample : Option Nat} {fs : FileSystem} {stdin : Stdin}
    (h : Resolution.content? network sample fs stdin reference = some content) :
    checkInput fs reference = .ok () ∧ checkStdin stdin reference = .ok () := by
  have hpath : ∀ path ∈ reference.path?, ∃ bytes, fs.read path = .ok bytes := by
    intro path hpath
    have hread : (fs.read path).toOption.isSome := by
      cases reference with
      | stdin => simp [InputReference.path?] at hpath
      | remote url => simp [InputReference.path?] at hpath
      | file other =>
          obtain rfl : other = path := by simpa [InputReference.path?] using hpath
          obtain ⟨bytes, hbytes, -⟩ := Option.bind_eq_some_iff.mp h
          simp [hbytes]
      | compressed other kind =>
          obtain rfl : other = path := by simpa [InputReference.path?] using hpath
          cases kind with
          | zip => simp [Resolution.content?] at h
          | gzip =>
              obtain ⟨bytes, hbytes, -⟩ := Option.bind_eq_some_iff.mp h
              simp [hbytes]
    cases hfound : fs.read path with
    | ok bytes => exact ⟨bytes, rfl⟩
    | error fault => simp [hfound, Except.toOption] at hread
  refine ⟨checkInput_eq_ok_iff.mpr hpath, ?_⟩
  unfold checkStdin
  rw [if_neg]
  rintro ⟨rfl, rfl⟩
  simp [Resolution.content?] at h

/-- A check that gets ready has removed the file of rejected rows from before, and nothing else. -/
theorem getReady_of_check (hcheck : settings.checkOnly = true)
    (h : (session.getReady argument options).on world = (.ok settings, start)) :
    start.stdin = world.stdin ∧ start.disk = world.disk ∧ EditsFiles
      (· = (session.reject settings (.ofArgument argument)).location world.files.home) world.files
        start.files := by
  have hstdin : start.stdin = world.stdin :=
    (getReady_silent (fun _ _ => rfl) session argument options).view_of_on h
  have hdisk : start.disk = world.disk :=
    (getReady_silent (fun _ _ => rfl) session argument options).view_of_on h
  obtain ⟨-, opened, hopen, hstale⟩ := getReady_eq_ok_iff.mp h
  rw [if_pos hcheck] at hopen
  obtain ⟨-, rfl⟩ := Prod.mk.inj hopen
  exact ⟨hstdin, hdisk, (removeStale_ok hstale).2.1⟩

/-- A failure to assess an input is no verdict on it. -/
theorem ofResult_of_assess_error {failure : Failure} {after : World}
    (h : (session.assess settings reference).on start = (.error failure, after)) :
    Verdict.ofResult (.error failure) = .undecided := by
  have hsilent : Silent (fun _ => ()) (Resolution.resolve reference settings
      (session.directory settings) reference.baseName) :=
    Resolution.resolve_silent (fun _ _ => rfl) (fun _ _ => rfl) _ _ (fun _ _ => rfl) reference
      settings
  rw [on_assess] at h
  split at h
  · next hresolve =>
      obtain ⟨hfailure, -⟩ := Prod.mk.inj h
      obtain rfl := Except.error.inj hfailure
      exact Verdict.ofResult_of_unreported (hsilent.unreported_of_on hresolve)
  · split at h
    · next hvalidate =>
        obtain ⟨hfailure, -⟩ := Prod.mk.inj h
        obtain rfl := Except.error.inj hfailure
        rcases Validation.run_error hvalidate with ⟨category, message, rfl⟩ | ⟨fault, rfl⟩ <;> rfl
    · simp at h

/-! ## The verdict -/

theorem verdict_of_assess_error
    (h : ∀ settings start, (session.getReady argument options).on world = (.ok settings, start) →
      ∃ failure after, (session.assess settings (.ofArgument argument)).on start =
        (.error failure, after)) :
    session.verdict argument options world = .undecided := by
  unfold verdict
  rcases hready : (session.getReady argument options).on world with ⟨failure | settings, start⟩
  · have hsilent : Silent (fun _ => ()) (session.getReady argument options) :=
      getReady_silent (fun _ _ => rfl) session argument options
    rw [execute_eq, on_bind_of_error hready]
    exact Verdict.ofResult_of_unreported (hsilent.unreported_of_on hready)
  · obtain ⟨failure, after, hassess⟩ := h settings start hready
    rw [on_execute_of_ready hready]
    simp only [on_bind_of_error hassess]
    exact ofResult_of_assess_error hassess

section BuiltIn

variable (hengine : session.engine = .builtIn network)
  (hsettings : options.settings (.ofLocation world.files.home)
    (InputReference.ofArgument argument).baseName = .ok settings)
  (hcheck : settings.checkOnly = true)
include hengine hsettings hcheck

theorem verdict_of_not_admits
    (h : ¬ ∃ content, session.Admits network settings (.ofArgument argument) world content) :
    session.verdict argument options world = .undecided := by
  refine verdict_of_assess_error fun found start hready => ?_
  obtain rfl : found = settings :=
    Except.ok.inj ((settings_of_getReady hready).symm.trans hsettings)
  obtain ⟨hstdin, hdisk, hedits⟩ := getReady_of_check hcheck hready
  have hnone : ¬ ∃ content,
      session.Admits network found (.ofArgument argument) start content := by
    rintro ⟨content, hadmits⟩
    rw [admits_iff_of_edits hedits hstdin hdisk (session.reject_ne_input found _ _)] at hadmits
    exact h ⟨content, hadmits⟩
  obtain ⟨failure, after, hassess, -⟩ := assess_of_not_admits hengine hnone
  exact ⟨failure, after, hassess⟩

theorem verdict_of_admits
    (h : session.Admits network settings (.ofArgument argument) world content) :
    session.verdict argument options world =
      .ofRows ((BuiltIn.appraise { skipRows := settings.skipRows } content).1.toOption.map
        EngineReport.rejected) := by
  obtain ⟨hinput, hpiped⟩ := checks_of_content? h.content_eq
  obtain ⟨-, hroom, -⟩ := workRoom_iff.mp h.room
  obtain ⟨start, hstale⟩ := removeStale_of_hasRoom world hroom
  have hready : (session.getReady argument options).on world = (.ok settings, start) :=
    getReady_eq_ok_iff.mpr ⟨prepare_eq_ok_iff.mpr ⟨rfl, hinput, hpiped, hsettings, .inl hcheck⟩,
      world, by rw [if_pos hcheck]; rfl, hstale⟩
  obtain ⟨hstdin, hdisk, hedits⟩ := getReady_of_check hcheck hready
  rw [← admits_iff_of_edits hedits hstdin hdisk (session.reject_ne_input settings _ _)] at h
  rcases happraise : BuiltIn.appraise { skipRows := settings.skipRows } content with
    ⟨fault | report, files⟩
  · refine verdict_of_assess_error fun found after hfound => ?_
    obtain ⟨⟨⟩, ⟨⟩⟩ := Prod.mk.inj (hready.symm.trans hfound)
    obtain ⟨failure, after, hassess, -⟩ := assess_of_fault hengine h happraise
    exact ⟨failure, after, hassess⟩
  · obtain ⟨resolved, outcome, judged, hassess, hrejected, herrors, -⟩ :=
      assess_of_report hengine h happraise
    unfold verdict
    rw [on_execute_of_assesses ⟨_, hready, hassess⟩]
    cases hcount : report.rejected with
    | zero => simp [settle, Policy.decide, hcheck, herrors, hcount, Verdict.ofResult,
        Verdict.ofRows, Except.toOption]
    | succ rows => simp [settle, Policy.decide, hcheck, herrors, hrejected, hcount,
        Verdict.ofResult, Verdict.ofRows, Except.toOption]

end BuiltIn

/-! ## The output of a check -/

/-- Whatever a run writes on its way to the engine can be written, and so can the files of the
engine. -/
def HasWorkRoom (session : Session) (argument : String) (options : Options) (world : World) :
    Prop :=
  ∀ settings, options.settings (.ofLocation world.files.home)
      (InputReference.ofArgument argument).baseName = .ok settings →
    session.WorkRoom settings (.ofArgument argument) world

/-- Where there is room, the verdict of a check is told by its input. -/
theorem verdict_of_hasWorkRoom (hengine : session.engine = .builtIn network)
    {delimiter : UInt8} (hdelimiter : Delimiter.parse options.delimiter = .ok delimiter)
    (hcheck : options.checkOnly = true) (h : session.HasWorkRoom argument options world) :
    session.verdict argument options world =
      .ofRows (Resolution.rejectedRows? network options.skipRows world.files world.stdin
        (.ofArgument argument)) := by
  obtain ⟨settings, hsettings, hcheck', -, hskip, -⟩ := settings_of_parse options hdelimiter
    (.ofLocation world.files.home) (InputReference.ofArgument argument).baseName
  rw [hcheck] at hcheck'
  have hsample : Resolution.repairSample settings = none := if_pos hcheck'
  cases hcontent : Resolution.content? network none world.files world.stdin
      (.ofArgument argument) with
  | none =>
      rw [verdict_of_not_admits hengine hsettings hcheck']
      · simp [Resolution.rejectedRows?, hcontent, Verdict.ofRows]
      · rintro ⟨content, hadmits⟩
        have hsome := hadmits.content_eq
        rw [hsample, hcontent] at hsome
        exact Option.some_ne_none _ hsome.symm
  | some content =>
      rw [verdict_of_admits hengine hsettings hcheck' ⟨hsample ▸ hcontent, h settings hsettings⟩,
        hskip]
      simp [Resolution.rejectedRows?, hcontent]

theorem verdict_of_parse_error {reason : Delimiter.Refusal}
    (h : Delimiter.parse options.delimiter = .error reason) :
    session.verdict argument options world = .undecided := by
  refine verdict_of_assess_error fun settings start hready => ?_
  have hsettings := settings_of_getReady hready
  simp [Options.settings, h] at hsettings

theorem verdict_of_not_hasWorkRoom (hengine : session.engine = .builtIn network)
    (hcheck : options.checkOnly = true) (h : ¬ session.HasWorkRoom argument options world) :
    session.verdict argument options world = .undecided := by
  cases hdelimiter : Delimiter.parse options.delimiter with
  | error reason => exact verdict_of_parse_error hdelimiter
  | ok delimiter =>
      obtain ⟨settings, hsettings, hcheck', -⟩ := settings_of_parse options hdelimiter
        (.ofLocation world.files.home) (InputReference.ofArgument argument).baseName
      refine verdict_of_not_admits hengine hsettings (hcheck'.trans hcheck) ?_
      rintro ⟨content, hadmits⟩
      refine h fun found hfound => ?_
      obtain rfl : settings = found := Except.ok.inj (hsettings.symm.trans hfound)
      exact hadmits.room

theorem not_hasWorkRoom_of_missing (htemp : session.tempDir = none) {delimiter : UInt8}
    (hdelimiter : Delimiter.parse options.delimiter = .ok delimiter) {out parent : Path}
    (houtput : options.target (.ofLocation world.files.home)
      (InputReference.ofArgument argument).baseName = .file out)
    (hparent : out.parent? = some parent) (hnamed : parent.text ≠ "")
    (hmissing : world.files.isDirectory parent = false) :
    ¬ session.HasWorkRoom argument options world := by
  obtain ⟨settings, hsettings, -, -, -, -, htarget⟩ := settings_of_parse options hdelimiter
    (.ofLocation world.files.home) (InputReference.ofArgument argument).baseName
  intro hroom
  obtain ⟨hstaged, -, -⟩ := workRoom_iff.mp (hroom settings hsettings)
  have hdirectory : session.directory settings = parent := by
    simp [directory, htemp, defaultTempDir, htarget, houtput, Output.path?, hparent, hnamed]
  rw [staged, stagedPath, hdirectory, Resolution.derivedPath] at hstaged
  obtain ⟨front, name, hpath, -⟩ := fileAt?_eq_some_iff.mp hstaged.fileAt
  have hthere := isDirectory_of_join (InputReference.isPlainName_own _
    (by simp [InputReference.ownEndings])) hpath hnamed
  simp [hmissing] at hthere

end Session

/-- The options of a check that names an output file. -/
def Options.checkInto (options : Options) (out : Path) : Options :=
  { options with checkOnly := true, useStdout := false, output := some out }

namespace Session

/-- A check has the same status and the same verdict for all outputs, as long as there is room for
what it writes on its way. It fails without a verdict where there is no room, and so, unless a
directory is prescribed, where the directory of its output is missing. -/
theorem run_checkInto (session : Session) (argument : String) (options : Options) (world : World)
    {network : Network} (hengine : session.engine = .builtIn network) (out other : Path) :
    (session.HasWorkRoom argument (options.checkInto out) world →
      session.HasWorkRoom argument (options.checkInto other) world →
        (session.run argument (options.checkInto out) world).1 =
            (session.run argument (options.checkInto other) world).1 ∧
          session.verdict argument (options.checkInto out) world =
            session.verdict argument (options.checkInto other) world) ∧
      (¬ session.HasWorkRoom argument (options.checkInto out) world →
        (session.run argument (options.checkInto out) world).1 = .failure ∧
          session.verdict argument (options.checkInto out) world = .undecided) ∧
      ∀ parent, session.tempDir = none → out.isDash = false → out.parent? = some parent →
        parent.text ≠ "" → world.files.isDirectory parent = false →
          (session.run argument (options.checkInto out) world).1 = .failure ∧
            session.verdict argument (options.checkInto out) world = .undecided := by
  have hnone : ∀ {found}, session.verdict argument (Options.checkInto options found) world =
      .undecided → (session.run argument (Options.checkInto options found) world).1 = .failure ∧
        session.verdict argument (Options.checkInto options found) world = .undecided := by
    intro found h
    rw [run_status, h]
    exact ⟨rfl, rfl⟩
  have hroomless : ¬ session.HasWorkRoom argument (options.checkInto out) world →
      session.verdict argument (options.checkInto out) world = .undecided :=
    verdict_of_not_hasWorkRoom hengine rfl
  refine ⟨fun hroom hroom' => ?_, fun h => hnone (hroomless h), ?_⟩
  · have hverdict : session.verdict argument (options.checkInto out) world =
        session.verdict argument (options.checkInto other) world := by
      have hparse : ∀ found, Delimiter.parse (options.checkInto found).delimiter =
          Delimiter.parse options.delimiter := fun _ => rfl
      cases hdelimiter : Delimiter.parse options.delimiter with
      | error reason =>
          rw [verdict_of_parse_error ((hparse out).trans hdelimiter),
            verdict_of_parse_error ((hparse other).trans hdelimiter)]
      | ok delimiter =>
          rw [verdict_of_hasWorkRoom hengine ((hparse out).trans hdelimiter) rfl hroom,
            verdict_of_hasWorkRoom hengine ((hparse other).trans hdelimiter) rfl hroom']
          rfl
    rw [run_status, run_status, hverdict]
    exact ⟨rfl, rfl⟩
  · intro parent htemp hdash hparent hnamed hmissing
    refine hnone ?_
    cases hdelimiter : Delimiter.parse options.delimiter with
    | error reason => exact verdict_of_parse_error hdelimiter
    | ok delimiter =>
        refine hroomless (not_hasWorkRoom_of_missing htemp hdelimiter ?_ hparent hnamed hmissing)
        simp [Options.target, Options.checkInto, hdash]

/-- A document is accepted with an output beside it, and not with one in a directory that is
missing. -/
theorem run_checkInto_missing :
    let session : Session := ⟨.builtIn .unreachable, none, ⟨"/"⟩⟩
    let world : World := .initial oneRow .terminal
    (session.run "in.csv" (Options.checkInto {} ⟨"out.csv"⟩) world).1 = .success ∧
      (session.run "in.csv" (Options.checkInto {} ⟨"missing/out.csv"⟩) world).1 = .failure := by
  intro session world
  have hmissing := (session.run_checkInto "in.csv" {} world rfl ⟨"missing/out.csv"⟩
    ⟨"out.csv"⟩).2.2 ⟨"missing"⟩ rfl (by decide) (by decide) (by decide) (by decide +kernel)
  exact ⟨by decide +kernel, hmissing.1⟩

end Session

end TidyCsv
