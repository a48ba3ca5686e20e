import TidyCsv.Proofs.Run.Rejections
import TidyCsv.Proofs.Run.Supply

/-! # What an assessment comes to

An assessment with the built-in engine succeeds if and only if a content of the input reaches the
engine, there is room for everything that is written on the way, and the engine finds a document in
the content. What it leaves is then a function of the content. If nothing reaches the engine, the
file of rejected rows is not touched. -/

namespace TidyCsv

open FileSystem Run

/-- The outcome that a report and its file of rejected rows are read as tells the number of rejected
rows. -/
theorem Validation.outcomeOf_appraise {options : ReadOptions} {content : Bytes}
    {report : EngineReport} {files : Pass.Files} {fs : FileSystem} {reject : Path}
    (h : BuiltIn.appraise options content = (.ok report, files))
    (hread : fs.read reject = .ok files.reject) :
    ∃ outcome, outcomeOf report fs reject = .ok outcome ∧
      outcome.rejectedRows = report.rejected ∧
      outcome.hasErrors = decide (0 < report.rejected) := by
  obtain ⟨names, rows, -, -, hreport, -, hreject⟩ := BuiltIn.appraise_shows h
  rw [hreject] at hread
  have hrejected := congrArg EngineReport.rejected hreport
  have hconforming := congrArg EngineReport.conforming hreport
  obtain ⟨outcome, houtcome, htells⟩ := outcomeOf_reports hrejected hconforming hread
  refine ⟨outcome, houtcome, htells.rejected_eq, ?_⟩
  rw [Bool.eq_iff_iff, decide_eq_true_iff]
  exact htells.hasErrors_iff

namespace Session

variable {session : Session} {network : Network} {settings : Settings} {reference : InputReference}
  {start : World} {content : Bytes}

/-- The files that are written on the way to the engine. -/
def priorPaths (session : Session) (settings : Settings) (reference : InputReference)
    (fs : FileSystem) (stdin : Stdin) : List Path :=
  (Resolution.writtenEndings (Resolution.repairSample settings) fs stdin reference).map
    (Resolution.derivedPath (session.directory settings) reference.baseName)

/-- The files that an assessment writes. -/
def writtenPaths (session : Session) (settings : Settings) (reference : InputReference)
    (fs : FileSystem) (stdin : Stdin) : List Path :=
  session.staged settings reference :: session.reject settings reference ::
    session.priorPaths settings reference fs stdin

/-- There is room for everything that an assessment writes, and the disk has no flaw where the files
on the way to the engine go. -/
structure WorkRoom (session : Session) (settings : Settings) (reference : InputReference)
    (world : World) : Prop where
  room : ∀ p ∈ session.writtenPaths settings reference world.files world.stdin,
    world.files.HasRoom p
  flawless : ∀ p ∈ session.priorPaths settings reference world.files world.stdin,
    world.disk.flawAt? (p.location world.files.home) = none

instance (world : World) : Decidable (session.WorkRoom settings reference world) :=
  decidable_of_iff
    ((∀ p ∈ session.writtenPaths settings reference world.files world.stdin,
        world.files.HasRoom p) ∧
      ∀ p ∈ session.priorPaths settings reference world.files world.stdin,
        world.disk.flawAt? (p.location world.files.home) = none)
    ⟨fun h => ⟨h.1, h.2⟩, fun h => ⟨h.room, h.flawless⟩⟩

theorem workRoom_iff {world : World} :
    session.WorkRoom settings reference world ↔
      world.files.HasRoom (session.staged settings reference) ∧
        world.files.HasRoom (session.reject settings reference) ∧
        ∀ p ∈ session.priorPaths settings reference world.files world.stdin, world.Takes p := by
  constructor
  · rintro ⟨hroom, hflawless⟩
    simp only [writtenPaths, List.forall_mem_cons] at hroom
    exact ⟨hroom.1, hroom.2.1, fun p hp => ⟨hroom.2.2 p hp, hflawless p hp⟩⟩
  · rintro ⟨hstaged, hreject, htakes⟩
    refine ⟨?_, fun p hp => (htakes p hp).flawless⟩
    simp only [writtenPaths, List.forall_mem_cons]
    exact ⟨hstaged, hreject, fun p hp => (htakes p hp).hasRoom⟩

/-- A content of the input reaches the engine, and all files that go with it can be written. -/
structure Admits (session : Session) (network : Network) (settings : Settings)
    (reference : InputReference) (world : World) (content : Bytes) : Prop where
  content_eq : Resolution.content? network (Resolution.repairSample settings) world.files
    world.stdin reference = some content
  room : session.WorkRoom settings reference world

theorem Admits.unique {world : World} {other : Bytes}
    (h : session.Admits network settings reference world content)
    (h' : session.Admits network settings reference world other) : content = other :=
  Option.some.inj (h.content_eq.symm.trans h'.content_eq)

/-- Whether a content is admitted does not depend on files other than the input. -/
theorem admits_iff_of_edits {touched : Location → Prop} {before after : World}
    (h : EditsFiles touched before.files after.files) (hstdin : after.stdin = before.stdin)
    (hdisk : after.disk = before.disk)
    (hinput : ∀ path ∈ reference.path?, ∀ location, before.files.fileAt? path = some location →
      ¬ touched location) :
    session.Admits network settings reference after content ↔
      session.Admits network settings reference before content := by
  have hcontent := Resolution.content?_of_edits h hinput network
    (Resolution.repairSample settings) before.stdin
  have hprior : session.priorPaths settings reference after.files before.stdin =
      session.priorPaths settings reference before.files before.stdin := by
    simp only [priorPaths, Resolution.writtenEndings_of_edits h hinput]
  have hroom : session.WorkRoom settings reference after ↔
      session.WorkRoom settings reference before := by
    simp only [workRoom_iff, h.hasRoom_iff, hstdin, hprior, World.takes_iff_of_edits h hdisk]
  constructor
  · rintro ⟨hsome, hwork⟩
    rw [hstdin, hcontent] at hsome
    exact ⟨hsome, hroom.mp hwork⟩
  · rintro ⟨hsome, hwork⟩
    refine ⟨?_, hroom.mpr hwork⟩
    rw [hstdin, hcontent]
    exact hsome

theorem reject_ne_input (session : Session) (settings : Settings) (reference : InputReference)
    (fs : FileSystem) :
    ∀ path ∈ reference.path?, ∀ location, fs.fileAt? path = some location →
      ¬ location = (session.reject settings reference).location fs.home :=
  fun _ hpath _ hlocation hsame => rejectPath_ne hpath hlocation settings _ hsame.symm

/-- Resolution gives a source that the engine reads as the content, with room for both files. -/
def Supplies (session : Session) (network : Network) (settings : Settings)
    (reference : InputReference) (start : World) (content : Bytes) (resolved : Resolved)
    (middle : World) : Prop :=
  (Resolution.resolve reference settings (session.directory settings) reference.baseName).on
      { start with temps := start.temps.register (session.staged settings reference) } =
        (.ok resolved, middle) ∧
    BuiltIn.Loads network middle.files resolved.source content ∧
    middle.files.HasRoom (session.staged settings reference) ∧
    middle.files.HasRoom (session.reject settings reference)

theorem staged_ne_reject (session : Session) (settings : Settings) (reference : InputReference)
    (home : Location) :
    (session.staged settings reference).location home ≠
      (session.reject settings reference).location home :=
  stagedPath_ne_rejectPath home reference settings (session.directory settings)

theorem resolve_edits_intermediates (session : Session) (settings : Settings)
    (reference : InputReference) (home : Location) :
    EditsOnly home (fun location =>
        location ≠ (session.staged settings reference).location home ∧
          location ≠ (session.reject settings reference).location home)
      (Resolution.resolve reference settings (session.directory settings) reference.baseName) := by
  have hown : ∀ ending ∈ InputReference.ownEndings, ending ≠ "_staged.csv" →
      ending ≠ "_reject_errors.csv" →
        (Resolution.derivedPath (session.directory settings) reference.baseName ending).location
            home ≠ (session.staged settings reference).location home ∧
          (Resolution.derivedPath (session.directory settings) reference.baseName ending).location
            home ≠ (session.reject settings reference).location home := by
    intro ending hending hstaged hreject
    obtain ⟨parent, hparent⟩ :=
      location_rejectPath home reference settings (session.directory settings)
    rw [staged, stagedPath, reject, hparent, location_derivedPath home reference _ hending,
      location_derivedPath home reference _ (by simp [InputReference.ownEndings])]
    exact ⟨InputReference.own_ne_own hstaged _ _, InputReference.own_ne_own hreject _ _⟩
  refine Resolution.resolve_edits ⟨?_, ?_, ?_⟩ reference settings
  all_goals exact hown _ (by simp [InputReference.ownEndings]) (by decide) (by decide)

/-- There is a supply if and only if a content is admitted. -/
theorem exists_supplies_iff :
    (∃ resolved middle, session.Supplies network settings reference start content resolved middle) ↔
      session.Admits network settings reference start content := by
  have hresolve : Resolution.Reaches network settings (session.directory settings) reference
      { start with temps := start.temps.register (session.staged settings reference) } content ↔ _ :=
    Resolution.reaches_iff
  have hedits : ∀ {resolved middle},
      (Resolution.resolve reference settings (session.directory settings) reference.baseName).on
        { start with temps := start.temps.register (session.staged settings reference) } =
          (.ok resolved, middle) →
        ∀ p, middle.files.HasRoom p ↔ start.files.HasRoom p := fun h _ =>
    ((session.resolve_edits_intermediates settings reference _).files_of_on h rfl).hasRoom_iff
  have hregistered : ∀ {p}, World.Takes
      { start with temps := start.temps.register (session.staged settings reference) } p ↔
        start.Takes p := ⟨fun h => ⟨h.hasRoom, h.flawless⟩, fun h => ⟨h.hasRoom, h.flawless⟩⟩
  constructor
  · rintro ⟨resolved, middle, h, hload, hstaged, hreject⟩
    obtain ⟨hcontent, htakes⟩ := hresolve.mp ⟨resolved, middle, h, hload⟩
    refine ⟨hcontent, workRoom_iff.mpr ⟨(hedits h _).mp hstaged, (hedits h _).mp hreject, ?_⟩⟩
    simp only [priorPaths, List.forall_mem_map]
    exact fun ending hending => hregistered.mp (htakes ending hending)
  · rintro ⟨hcontent, hroom⟩
    obtain ⟨hstaged, hreject, htakes⟩ := workRoom_iff.mp hroom
    simp only [priorPaths, List.forall_mem_map] at htakes
    obtain ⟨resolved, middle, h, hload⟩ := hresolve.mpr
      ⟨hcontent, fun ending hending => hregistered.mpr (htakes ending hending)⟩
    exact ⟨resolved, middle, h, hload, (hedits h _).mpr hstaged, (hedits h _).mpr hreject⟩

theorem Supplies.validate {resolved : Resolved} {middle : World}
    (h : session.Supplies network settings reference start content resolved middle) :
    ∃ after,
      (Engine.builtIn network).validate middle.files resolved.source
          { skipRows := settings.skipRows } (session.staged settings reference)
          (session.reject settings reference) =
        ((BuiltIn.appraise { skipRows := settings.skipRows } content).1.mapError
          fun fault => (EngineFault.pass fault).message, after) ∧
      after.read (session.staged settings reference) =
        .ok (BuiltIn.appraise { skipRows := settings.skipRows } content).2.output ∧
      after.read (session.reject settings reference) =
        .ok (BuiltIn.appraise { skipRows := settings.skipRows } content).2.reject := by
  obtain ⟨hresolve, hload, hstaged, hreject⟩ := h
  have hhome : middle.files.home = start.files.home :=
    ((session.resolve_edits_intermediates settings reference _).files_of_on hresolve rfl).home_eq
  have hapart : BuiltIn.Apart middle.files.home resolved.source
      ((session.staged settings reference).location middle.files.home)
      ((session.reject settings reference).location middle.files.home) := by
    obtain ⟨parent, hparent⟩ :=
      location_rejectPath middle.files.home reference settings (session.directory settings)
    rw [reject, hparent, staged, stagedPath, location_derivedPath _ reference _
      (by simp [InputReference.ownEndings]), hhome]
    exact Resolution.resolve_apart hresolve _ _
  have hvalidate := BuiltIn.validate_of_hasRoom { skipRows := settings.skipRows } hload hstaged
    hreject hapart
  obtain ⟨hread, hread'⟩ := BuiltIn.read_putBoth hstaged hreject
    (session.staged_ne_reject settings reference _)
    (BuiltIn.appraise { skipRows := settings.skipRows } content).2
  refine ⟨_, ?_, hread, hread'⟩
  simp only [Engine.builtIn, hvalidate]
  cases (BuiltIn.appraise { skipRows := settings.skipRows } content).1 <;> rfl

section BuiltIn

variable (hengine : session.engine = .builtIn network)
include hengine

/-- A fault in an admitted content is a failure of the engine. -/
theorem assess_of_fault {fault : PassFault} {files : Pass.Files}
    (h : session.Admits network settings reference start content)
    (happraise : BuiltIn.appraise { skipRows := settings.skipRows } content =
      (.error fault, files)) :
    ∃ failure after, (session.assess settings reference).on start = (.error failure, after) ∧
      after.files.read (session.reject settings reference) = .ok files.reject := by
  obtain ⟨resolved, middle, hsupplies⟩ := exists_supplies_iff.mpr h
  obtain ⟨after, hvalidate, -, hreject⟩ := hsupplies.validate
  rw [happraise] at hvalidate hreject
  rw [on_assess, hsupplies.1, hengine]
  dsimp only
  rw [Validation.on_run_of_error hvalidate]
  exact ⟨_, _, rfl, hreject⟩

/-- A report on an admitted content is the outcome of an assessment, and both files of the engine are
there. -/
theorem assess_of_report {report : EngineReport} {files : Pass.Files}
    (h : session.Admits network settings reference start content)
    (happraise : BuiltIn.appraise { skipRows := settings.skipRows } content = (.ok report, files)) :
    ∃ resolved outcome after,
      (session.assess settings reference).on start = (.ok (resolved, outcome), after) ∧
      outcome.rejectedRows = report.rejected ∧
      outcome.hasErrors = decide (0 < report.rejected) ∧
      after.files.read (session.staged settings reference) = .ok files.output ∧
      after.files.read (session.reject settings reference) = .ok files.reject := by
  obtain ⟨resolved, middle, hsupplies⟩ := exists_supplies_iff.mpr h
  obtain ⟨after, hvalidate, hstaged, hreject⟩ := hsupplies.validate
  rw [happraise] at hvalidate hstaged hreject
  obtain ⟨outcome, houtcome, hrejected, herrors⟩ := Validation.outcomeOf_appraise happraise hreject
  rw [on_assess, hsupplies.1, hengine]
  dsimp only
  rw [Validation.on_run_of_ok hvalidate, houtcome]
  exact ⟨resolved, outcome, _, rfl, hrejected, herrors, hstaged, hreject⟩

/-- Without an admitted content, an assessment fails before the file of rejected rows is written. -/
theorem assess_of_not_admits
    (h : ¬ ∃ content, session.Admits network settings reference start content) :
    ∃ failure after, (session.assess settings reference).on start = (.error failure, after) ∧
      EditsFiles (· ≠ (session.reject settings reference).location start.files.home) start.files
        after.files := by
  have hresolves := session.resolve_edits_intermediates settings reference start.files.home
  rw [on_assess]
  rcases hresolve : (Resolution.resolve reference settings (session.directory settings)
    reference.baseName).on
      { start with temps := start.temps.register (session.staged settings reference) } with
    ⟨failure | resolved, middle⟩
  · exact ⟨failure, middle, rfl,
      (hresolves.files_of_on hresolve rfl).mono fun location hlocation => hlocation.2⟩
  · have hedits := hresolves.files_of_on hresolve rfl
    have hnone : ¬ ((∃ content, BuiltIn.Loads network middle.files resolved.source content) ∧
        middle.files.HasRoom (session.staged settings reference) ∧
        middle.files.HasRoom (session.reject settings reference)) := by
      rintro ⟨⟨content, hload⟩, hroom⟩
      exact h ⟨content, exists_supplies_iff.mp ⟨resolved, middle, hresolve, hload, hroom⟩⟩
    obtain ⟨fault, after, hvalidate, hwritten⟩ :=
      BuiltIn.validate_of_not_hasRoom { skipRows := settings.skipRows } hnone
    have hfault : (Engine.builtIn network).validate middle.files resolved.source
        { skipRows := settings.skipRows } (session.staged settings reference)
        (session.reject settings reference) = (.error fault.message, after) := by
      simp only [Engine.builtIn, hvalidate]
      rfl
    dsimp only
    rw [hengine, Validation.on_run_of_error hfault]
    refine ⟨_, _, rfl, (hedits.mono fun location hlocation => hlocation.2).trans
      (hwritten.mono fun location hlocation => ?_)⟩
    rw [hlocation, hedits.home_eq]
    exact session.staged_ne_reject settings reference _

end BuiltIn

end Session

end TidyCsv
