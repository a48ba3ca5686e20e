import TidyCsv.Proofs.Run.Assessment
import TidyCsv.Proofs.Run.OutputKept
import TidyCsv.Proofs.Run.Registration

/-! # The effect of a run

A run with the built-in engine that has got ready, and may replace its output, has an effect that is
a function: of its settings, of the content that reaches the engine, and of what the place of its
output takes. Nothing else that it finds in the file system or on the disk counts. -/

namespace TidyCsv

open FileSystem Run

/-- What follows from validation depends on whether rows were rejected, and on nothing else of an
outcome. -/
def Policy.decideOn (settings : Settings) (hasErrors : Bool) : Decision :=
  decide ⟨hasErrors, 0, [], 0, none⟩ settings

theorem Policy.decide_eq (outcome : Outcome) (settings : Settings) :
    decide outcome settings = decideOn settings outcome.hasErrors := rfl

/-- What is in the place of the output does not keep it from being written: it may be replaced, or
the output is no file. -/
def Settings.MayReplace (settings : Settings) : Prop :=
  settings.force = true ∨ settings.output = .stdout

/-- What a place takes of a content that is written to it. -/
inductive Intake where
  /-- There is no room for a file. -/
  | nothing
  /-- Writing ends in a fault after the first bytes. -/
  | first (count : Nat)
  | whole
deriving DecidableEq, Repr

/-- What a place holds after a content was written to it, unless nothing could be written. -/
def Intake.kept (intake : Intake) (content : Bytes) : Option Bytes :=
  match intake with
  | nothing => none
  | first count => some (content.take count)
  | whole => some content

/-- What an output takes of a content. -/
def Output.intake (output : Output) (world : World) : Intake :=
  match output with
  | .stdout => .whole
  | .file path =>
    if world.files.HasRoom path then
      match world.disk.flawAt? (path.location world.files.home) with
      | none => .whole
      | some flaw => .first flaw.reach
    else .nothing

namespace Output

variable {out : Path} {world : World}

theorem intake_of_hasRoom (h : world.files.HasRoom out) :
    (Output.file out).intake world =
      match world.disk.flawAt? (out.location world.files.home) with
      | none => .whole
      | some flaw => .first flaw.reach :=
  if_pos h

theorem intake_of_not_hasRoom (h : ¬ world.files.HasRoom out) :
    (Output.file out).intake world = .nothing :=
  if_neg h

/-- What the place of the output takes does not depend on the files. -/
theorem intake_of_edits {touched : Location → Prop} {before after : World}
    (h : EditsFiles touched before.files after.files) (hdisk : after.disk = before.disk)
    (output : Output) : output.intake after = output.intake before := by
  cases output with
  | stdout => rfl
  | file out => simp only [intake, h.hasRoom_iff, hdisk, h.home_eq]

end Output

/-- What comes of a run. -/
structure Effect where
  succeeds : Bool
  /-- What is written to the output, if anything is. -/
  emitted : Option Bytes
  /-- What the engine leaves about rejected rows, if it has come so far. -/
  rejected : Option Bytes
deriving DecidableEq, Repr

namespace Effect

/-- What comes of rows that the engine kept, given whether rows were rejected and what the place of
the output takes. -/
def ofFiles (settings : Settings) (intake : Intake) (hasErrors : Bool) (files : Pass.Files) :
    Effect :=
  let decision := Policy.decideOn settings hasErrors
  let final := FinalForm.write files.output settings.delimiter (!settings.keepNames)
  if decision.writes then
    ⟨decide (intake = .whole) && final.1.isOk && !decision.failsAfter, intake.kept final.2,
      some files.reject⟩
  else ⟨!hasErrors, none, some files.reject⟩

/-- What comes of a content that the engine reads. -/
def ofContent (settings : Settings) (intake : Intake) (content : Bytes) : Effect :=
  match BuiltIn.appraise { skipRows := settings.skipRows } content with
  | (.error _, files) => ⟨false, none, some files.reject⟩
  | (.ok report, files) => ofFiles settings intake (0 < report.rejected) files

/-- What comes of a run, given the content that the engine reads if there is one. -/
def of (settings : Settings) (intake : Intake) : Option Bytes → Effect
  | none => ⟨false, none, none⟩
  | some content => ofContent settings intake content

variable {settings : Settings} {outcome : Outcome} {files : Pass.Files}

theorem ofFiles_of_halt (h : (Policy.decide outcome settings).writes = false) (intake : Intake) :
    ofFiles settings intake outcome.hasErrors files =
      ⟨!outcome.hasErrors, none, some files.reject⟩ := by
  rw [Policy.decide_eq] at h
  simp [ofFiles, h]

theorem ofFiles_of_writes (h : (Policy.decide outcome settings).writes = true) (intake : Intake) :
    ofFiles settings intake outcome.hasErrors files =
      ⟨decide (intake = .whole) &&
          (FinalForm.write files.output settings.delimiter (!settings.keepNames)).1.isOk &&
          !(Policy.decide outcome settings).failsAfter,
        intake.kept (FinalForm.write files.output settings.delimiter (!settings.keepNames)).2,
        some files.reject⟩ := by
  rw [Policy.decide_eq] at h ⊢
  simp only [ofFiles, h, if_true]

end Effect

/-- The world after a content is written to the output, as far as its place takes it. -/
def World.withOutput (world : World) (output : Output) (content : Bytes) : World :=
  match output, (output.intake world).kept content with
  | _, none => world
  | .file path, some kept =>
    { world with files := world.files.put (path.location world.files.home) (.file kept) }
  | .stdout, some kept => { world with stdout := world.stdout ++ kept }

namespace World

variable {world : World}

theorem withOutput_of_kept {out : Path} {content kept : Bytes}
    (h : ((Output.file out).intake world).kept content = some kept) :
    world.withOutput (.file out) content =
      { world with files := world.files.put (out.location world.files.home) (.file kept) } := by
  simp only [withOutput, h]

theorem withOutput_of_not_hasRoom {out : Path} (h : ¬ world.files.HasRoom out) (content : Bytes) :
    world.withOutput (.file out) content = world := by
  simp only [withOutput, Output.intake_of_not_hasRoom h, Intake.kept]

theorem withOutput_stdout (world : World) (output : Output) (content : Bytes) :
    (world.withOutput output content).stdout = world.stdout ++
      if output.isStdout then ((output.intake world).kept content).getD [] else [] := by
  cases output with
  | stdout => rfl
  | file out =>
      unfold withOutput
      cases ((Output.file out).intake world).kept content <;> exact (List.append_nil _).symm

theorem hasRoom_of_kept {out : Path} {content kept : Bytes}
    (h : ((Output.file out).intake world).kept content = some kept) : world.files.HasRoom out := by
  by_contra hnone
  simp [Output.intake_of_not_hasRoom hnone, Intake.kept] at h

theorem withOutput_edits (world : World) (output : Output) (content : Bytes) :
    EditsFiles (fun location => ∃ out ∈ output.path?, out.location world.files.home = location)
      world.files (world.withOutput output content).files := by
  cases output with
  | stdout => exact .refl _
  | file out =>
      cases hkept : ((Output.file out).intake world).kept content with
      | none =>
          simp only [withOutput, hkept]
          exact .refl _
      | some kept =>
          rw [withOutput_of_kept hkept]
          exact .write ((hasRoom_of_kept hkept).write kept) ⟨out, rfl, rfl⟩

/-- An output file holds what its place takes, or what it has held before. -/
theorem read_withOutput (world : World) {output : Output} (content : Bytes) :
    ∀ out ∈ output.path?, ((world.withOutput output content).files.read out).toOption =
      ((output.intake world).kept content).or (world.files.read out).toOption := by
  cases output with
  | stdout => simp [Output.path?]
  | file path =>
      intro out hout
      obtain rfl : path = out := by simpa [Output.path?] using hout
      cases hkept : ((Output.file path).intake world).kept content with
      | none => simp only [withOutput, hkept, Option.none_or]
      | some kept =>
          rw [withOutput_of_kept hkept,
            EditsFiles.read_of_write ((hasRoom_of_kept hkept).write kept)]
          rfl

end World

namespace Session

variable {session : Session} {network : Network} {settings : Settings} {reference : InputReference}
  {world start judged : World} {content : Bytes}

/-! ## Writing the output -/

theorem openOutput_of_hasRoom {out : Path} (h : world.files.HasRoom out) :
    (openOutput (.file out) true).on world = (.ok (),
      { world with files := world.files.put (out.location world.files.home) (.file []) }) := by
  have hcheck : checkOutput world.files (.file out) true = .ok () := by simp [checkOutput]
  unfold openOutput
  rw [on_files_bind, hcheck]
  simp only [ensure, pure_bind]
  rw [on_create, FileSystem.create, h.write]

theorem openOutput_of_not_hasRoom {out : Path} (h : ¬ world.files.HasRoom out) (force : Bool) :
    ∃ failure, (openOutput (.file out) force).on world = (.error failure, world) := by
  obtain ⟨fault, hwrite⟩ := write_of_not_hasRoom h []
  unfold openOutput
  rw [on_files_bind]
  cases checkOutput world.files (.file out) force with
  | error failure => exact ⟨failure, on_bind_of_error (on_ensure _ _)⟩
  | ok _ =>
      refine ⟨.io fault, ?_⟩
      rw [on_bind_of_ok (on_ensure _ _)]
      dsimp only
      rw [on_create, FileSystem.create, hwrite]

/-- Where a file has been opened, a content is written as far as its place takes it. -/
theorem emit_of_hasRoom {out : Path} (h : world.files.HasRoom out) (content : Bytes) :
    ∃ result, (emit (.file out) content).on
        { world with files := world.files.put (out.location world.files.home) (.file []) } =
          (result, world.withOutput (.file out) content) ∧
      result.isOk = decide ((Output.file out).intake world = .whole) := by
  have hopened : EditsFiles (· = out.location world.files.home) world.files
      (world.files.put (out.location world.files.home) (.file [])) := .write (h.write []) rfl
  have hwrite := (hopened.hasRoom_iff.mpr h).write content
  rw [home_put, put_put] at hwrite
  have hintake := Output.intake_of_hasRoom h
  simp only [emit, on_write, hwrite, on_keep, Disk.hold, home_put]
  cases hflaw : world.disk.flawAt? (out.location world.files.home) with
  | none =>
      simp only [hflaw] at hintake
      rw [World.withOutput_of_kept (by rw [hintake]; rfl), hintake]
      exact ⟨_, rfl, rfl⟩
  | some flaw =>
      simp only [hflaw] at hintake
      rw [World.withOutput_of_kept (by rw [hintake]; rfl), hintake]
      simp only [cut_put h.ne_nil]
      exact ⟨_, rfl, rfl⟩

/-- Where the output may be replaced, the final form is written as far as its place takes it,
whatever comes of the rows. -/
theorem on_writeOutput (hreplace : settings.MayReplace) {staged : Path}
    (hread : world.files.read staged = .ok content)
    (hapart : ∀ out ∈ settings.output.path?,
      out.location world.files.home ≠ staged.location world.files.home) :
    let final := FinalForm.write content settings.delimiter (!settings.keepNames)
    ∃ result, (writeOutput settings staged).on world =
        (result, world.withOutput settings.output final.2) ∧
      result.isOk = (decide (settings.output.intake world = .whole) && final.1.isOk) := by
  unfold writeOutput
  cases houtput : settings.output with
  | stdout =>
      have hopen : (openOutput .stdout settings.force).on world = (.ok (), world) := rfl
      rw [on_bind_of_ok hopen, on_files_bind, hread, on_ofIo_ok_bind]
      rcases FinalForm.write content settings.delimiter (!settings.keepNames)
        with ⟨fault | stats, written⟩ <;> exact ⟨_, rfl, rfl⟩
  | file out =>
      have hforce : settings.force = true := hreplace.resolve_right (by simp [houtput])
      by_cases hroom : world.files.HasRoom out
      · have hedits : EditsFiles (· = out.location world.files.home) world.files
            (world.files.put (out.location world.files.home) (.file [])) :=
          .write (hroom.write []) rfl
        have hread' := (hedits.read_eq_ok_iff fun location hfile hsame =>
          hapart out (by rw [houtput]; rfl) (by rw [location_of_fileAt? hfile, hsame])).mpr hread
        rw [hforce, on_bind_of_ok (openOutput_of_hasRoom hroom), on_files_bind, hread',
          on_ofIo_ok_bind]
        rcases FinalForm.write content settings.delimiter (!settings.keepNames)
          with ⟨result, written⟩
        obtain ⟨emitted, hemit, hwhole⟩ := emit_of_hasRoom hroom written
        simp only [← hwhole]
        rcases emitted with failure | ⟨⟩
        · exact ⟨_, on_bind_of_error hemit, rfl⟩
        · rw [on_bind_of_ok hemit]
          cases result <;> exact ⟨_, rfl, rfl⟩
      · obtain ⟨failure, hopen⟩ := openOutput_of_not_hasRoom hroom settings.force
        rw [on_bind_of_error hopen]
        simp only [World.withOutput_of_not_hasRoom hroom, Output.intake_of_not_hasRoom hroom]
        exact ⟨_, rfl, rfl⟩

/-! ## Settling -/

/-- A run that may replace its output settles what the engine kept. -/
theorem on_settle_of_proceeds (hreplace : settings.MayReplace)
    (hread : judged.files.read (session.staged settings reference) = .ok content)
    (hapart : ∀ out ∈ settings.output.path?, out.location judged.files.home ≠
      (session.staged settings reference).location judged.files.home)
    (resolved : Resolved) {outcome : Outcome}
    (hwrites : (Policy.decide outcome settings).writes = true) :
    let final := FinalForm.write content settings.delimiter (!settings.keepNames)
    ∃ result shown, (session.settle settings reference resolved outcome).on judged =
        (result, { judged.withOutput settings.output final.2 with events := shown }) ∧
      result.isOk = (decide (settings.output.intake judged = .whole) && final.1.isOk &&
        !(Policy.decide outcome settings).failsAfter) := by
  intro final
  obtain ⟨written, hwritten, hisOk⟩ := on_writeOutput hreplace hread hapart
  rw [on_settle_of_writes hwrites, ← hisOk]
  unfold finish
  rcases written with failure | stats
  · rw [on_bind_of_error hwritten]
    exact ⟨_, _, rfl, rfl⟩
  · rw [on_bind_of_ok hwritten, on_files_bind, on_report]
    refine ⟨_, _, rfl, ?_⟩
    cases (Policy.decide outcome settings).failsAfter <;> rfl

theorem on_settle_of_halt (session : Session) (reference : InputReference) (resolved : Resolved)
    {outcome : Outcome} (judged : World)
    (hhalts : (Policy.decide outcome settings).writes = false) :
    ∃ result, (session.settle settings reference resolved outcome).on judged = (result, judged) ∧
      result.isOk = !outcome.hasErrors := by
  cases hdecide : Policy.decide outcome settings with
  | proceed => simp [hdecide, Decision.writes] at hhalts
  | proceedWithWarnings failAfter => simp [hdecide, Decision.writes] at hhalts
  | halt success =>
      rw [(Policy.hasErrors_of_halt hdecide).1]
      cases success with
      | true => exact ⟨.ok (), by simp [settle, hdecide], rfl⟩
      | false => exact ⟨_, by simp only [settle, hdecide]; rfl, rfl⟩

/-! ## The effect -/

/-- The content that is admitted, if there is one. -/
def admitted? (session : Session) (network : Network) (settings : Settings)
    (reference : InputReference) (world : World) : Option Bytes :=
  if session.WorkRoom settings reference world then
    Resolution.content? network (Resolution.repairSample settings) world.files world.stdin reference
  else none

theorem admitted?_eq_some_iff :
    session.admitted? network settings reference start = some content ↔
      session.Admits network settings reference start content := by
  unfold admitted?
  split
  · next hroom => exact ⟨fun h => ⟨h, hroom⟩, Admits.content_eq⟩
  · next hnone => exact ⟨fun h => by simp at h, fun h => absurd h.room hnone⟩

/-- What comes of a run that starts from a world and is ready. -/
def effect (session : Session) (network : Network) (settings : Settings)
    (reference : InputReference) (world : World) : Effect :=
  .of settings (settings.output.intake world)
    (session.admitted? network settings reference world)

/-- A run that is ready has an effect on its status, on standard output, on its output file and on
its file of rejected rows. -/
structure HasEffect (session : Session) (settings : Settings) (reference : InputReference)
    (start : World) (effect : Effect) (result : Except Failure Unit) (last : World) : Prop where
  isOk_eq : result.isOk = effect.succeeds
  stdout_eq : last.stdout =
    start.stdout ++ if settings.output.isStdout then effect.emitted.getD [] else []
  output_eq : ∀ out ∈ settings.output.path?,
    (last.files.read out).toOption = effect.emitted.or (start.files.read out).toOption
  reject_eq : (last.files.read (session.reject settings reference)).toOption =
    effect.rejected.filter fun content => 1 < Csv.countRecords content

/-- The output is none of the files that a run derives. -/
def OutputApart (session : Session) (settings : Settings) (reference : InputReference)
    (home : Location) : Prop :=
  ∀ out ∈ settings.output.path?, ∀ p ∈ session.derivedPaths settings reference.baseName,
    p.location home ≠ out.location home

theorem derived_of_mem_registrations {p : Path}
    (h : p ∈ session.registrations settings reference start) (home : Location) :
    p ∈ session.derivedPaths settings reference.baseName ∧
      p.location home ≠ (session.reject settings reference).location home := by
  refine ⟨List.mem_cons_of_mem _ (registrations_subset session settings reference start h), ?_⟩
  obtain ⟨ending, hending, hother, rfl⟩ := mem_registrations h
  obtain ⟨parent, hparent⟩ :=
    location_rejectPath home reference settings (session.directory settings)
  rw [reject, hparent, location_derivedPath home reference _ hending]
  exact InputReference.own_ne_own hother _ _

/-- Tidying up keeps the output, and the file of rejected rows if it holds a row. -/
theorem hasEffect_tidied {effect : Effect} {result : Except Failure Unit} {after : World}
    (hpart : (session.assess settings reference >>= fun (resolved, outcome) =>
      session.settle settings reference resolved outcome).on start = (result, after))
    (htemps : start.temps = .empty) (hhome : after.files.home = start.files.home)
    (hapart : session.OutputApart settings reference start.files.home)
    (hisOk : result.isOk = effect.succeeds)
    (hstdout : after.stdout =
      start.stdout ++ if settings.output.isStdout then effect.emitted.getD [] else [])
    (houtput : ∀ out ∈ settings.output.path?,
      (after.files.read out).toOption = effect.emitted.or (start.files.read out).toOption)
    (hreject : (after.files.read (session.reject settings reference)).toOption = effect.rejected) :
    session.HasEffect settings reference start effect result
      (session.tidied settings reference after) := by
  have hregistered : ∀ p ∈ after.temps.paths,
      p ∈ session.registrations settings reference start := by
    intro p hp
    have hafter := guarded_temps session settings reference start
    rw [hpart, htemps] at hafter
    rw [hafter] at hp
    simpa [TempFiles.empty] using mem_of_mem_foldl_register hp
  refine ⟨hisOk, hstdout, fun out hout => ?_, ?_⟩
  · have hedits : EditsFiles (· ≠ out.location after.files.home) after.files
        (session.tidied settings reference after).files := by
      rw [hhome]
      refine .tidy (fun p hp => ?_) ?_
      · rw [hhome]
        exact hapart out hout p (derived_of_mem_registrations (hregistered p hp) []).1
      · rw [hhome]
        exact hapart out hout _ (session.reject_mem_derivedPaths settings reference)
    rw [← houtput out hout]
    exact hedits.toOption_read fun location hfile hdiffer =>
      hdiffer (location_of_fileAt? hfile).symm
  · rw [← hreject]
    exact read_tidy_reject fun p hp => (derived_of_mem_registrations (hregistered p hp) _).2

/-- An assessment edits files that the run derives, and writes nothing to standard output. -/
theorem assess_keeps (hengine : session.engine = .builtIn network) {judged : World}
    {result : Except Failure (Resolved × Outcome)}
    (hassess : (session.assess settings reference).on start = (result, judged)) :
    judged.stdout = start.stdout ∧
      EditsFiles (fun location => ∃ p ∈ session.derivedPaths settings reference.baseName,
        p.location start.files.home = location) start.files judged.files := by
  have hstdout : ((session.assess settings reference).on start).2.stdout = start.stdout :=
    assess_view (fun _ _ => rfl) (fun _ _ => rfl) (fun _ _ => rfl) (fun _ _ => rfl) session settings
      reference start
  have hedits : EditsOnly start.files.home
      (fun location => ∃ p ∈ session.derivedPaths settings reference.baseName,
        p.location start.files.home = location) (session.assess settings reference) :=
    assess_edits (hengine ▸ Engine.builtIn_editsOnlyItsFiles network) fun p hp => ⟨p, hp, rfl⟩
  rw [hassess] at hstdout
  exact ⟨hstdout, hedits.files_of_on hassess rfl⟩

theorem assess_disk {result : Except Failure (Resolved × Outcome)}
    (hassess : (session.assess settings reference).on start = (result, judged)) :
    judged.disk = start.disk := by
  have hdisk : ((session.assess settings reference).on start).2.disk = start.disk :=
    assess_view (fun _ _ => rfl) (fun _ _ => rfl) (fun _ _ => rfl) (fun _ _ => rfl) session settings
      reference start
  rwa [hassess] at hdisk

/-- The output stays as it is as long as files that the run derives are edited only. -/
theorem OutputApart.toOption_read {fs : FileSystem}
    (h : session.OutputApart settings reference start.files.home)
    (hedits : EditsFiles (fun location => ∃ p ∈ session.derivedPaths settings reference.baseName,
      p.location start.files.home = location) start.files fs) :
    ∀ out ∈ settings.output.path?,
      (fs.read out).toOption = (start.files.read out).toOption := by
  intro out hout
  refine hedits.toOption_read fun location hfile => ?_
  rintro ⟨p, hp, hlocation⟩
  exact h out hout p hp (hlocation.trans (location_of_fileAt? hfile).symm)

section BuiltIn

variable (hengine : session.engine = .builtIn network) (htemps : start.temps = .empty)
  (hapart : session.OutputApart settings reference start.files.home)
include hengine htemps hapart

theorem hasEffect_of_assess_error {failure : Failure} {after : World}
    (hassess : (session.assess settings reference).on start = (.error failure, after)) :
    let guarded := (session.assess settings reference >>= fun (resolved, outcome) =>
      session.settle settings reference resolved outcome).on start
    session.HasEffect settings reference start
      ⟨false, none, (after.files.read (session.reject settings reference)).toOption⟩
      guarded.1 (session.tidied settings reference guarded.2) := by
  intro guarded
  have hpart : guarded = (.error failure, after) := on_bind_of_error hassess
  obtain ⟨hstdout, hedits⟩ := assess_keeps hengine hassess
  rw [hpart]
  exact hasEffect_tidied hpart htemps hedits.home_eq hapart rfl (by simp [hstdout])
    (hapart.toOption_read hedits) rfl

section Assessed

variable {resolved : Resolved} {outcome : Outcome} {files : Pass.Files}
  (hassess : (session.assess settings reference).on start = (.ok (resolved, outcome), judged))
  (hreject : judged.files.read (session.reject settings reference) = .ok files.reject)
include hassess hreject

/-- Where the decision is not to write, the output stays as it is. -/
theorem hasEffect_of_halt (hhalts : (Policy.decide outcome settings).writes = false) :
    let guarded := (session.assess settings reference >>= fun (resolved, outcome) =>
      session.settle settings reference resolved outcome).on start
    session.HasEffect settings reference start ⟨!outcome.hasErrors, none, some files.reject⟩
      guarded.1 (session.tidied settings reference guarded.2) := by
  intro guarded
  obtain ⟨hstdout, hedits⟩ := assess_keeps hengine hassess
  obtain ⟨result, hsettle, hisOk⟩ := on_settle_of_halt session reference resolved judged hhalts
  have hpart : guarded = (result, judged) := (on_bind_of_ok hassess).trans hsettle
  rw [hpart]
  refine hasEffect_tidied hpart htemps hedits.home_eq hapart hisOk (by simp [hstdout])
    (hapart.toOption_read hedits) ?_
  rw [hreject]
  rfl

/-- Where the decision is to write, and the output may be replaced, it holds the final form of what
the engine kept, as far as its place takes that. -/
theorem hasEffect_of_writes (hreplace : settings.MayReplace)
    (hwrites : (Policy.decide outcome settings).writes = true)
    (hstaged : judged.files.read (session.staged settings reference) = .ok files.output) :
    let final := FinalForm.write files.output settings.delimiter (!settings.keepNames)
    let intake := settings.output.intake start
    let guarded := (session.assess settings reference >>= fun (resolved, outcome) =>
      session.settle settings reference resolved outcome).on start
    session.HasEffect settings reference start
      ⟨decide (intake = .whole) && final.1.isOk && !(Policy.decide outcome settings).failsAfter,
        intake.kept final.2, some files.reject⟩
      guarded.1 (session.tidied settings reference guarded.2) := by
  intro final intake guarded
  obtain ⟨hstdout, hedits⟩ := assess_keeps hengine hassess
  have hintake : settings.output.intake judged = intake :=
    Output.intake_of_edits hedits (assess_disk hassess) _
  have hdiffer : ∀ out ∈ settings.output.path?, out.location judged.files.home ≠
      (session.staged settings reference).location judged.files.home := by
    intro out hout hsame
    rw [hedits.home_eq] at hsame
    exact hapart out hout _ (by simp [derivedPaths, staged]) hsame.symm
  obtain ⟨result, shown, hsettle, hisOk⟩ :=
    on_settle_of_proceeds hreplace hstaged hdiffer resolved hwrites
  have hpart : guarded = _ := (on_bind_of_ok hassess).trans hsettle
  have hwritten := judged.withOutput_edits settings.output final.2
  rw [hintake] at hisOk
  rw [hpart]
  refine hasEffect_tidied hpart htemps (hwritten.home_eq.trans hedits.home_eq) hapart hisOk ?_
    (fun out hout => ?_) ?_
  · rw [← hstdout, ← hintake]
    exact judged.withOutput_stdout settings.output final.2
  · rw [← hapart.toOption_read hedits out hout, ← hintake]
    exact judged.read_withOutput final.2 out hout
  · have hother : ∀ location,
        judged.files.fileAt? (session.reject settings reference) = some location →
          ¬ ∃ out ∈ settings.output.path?, out.location judged.files.home = location := by
      rintro location hfile ⟨out, hout, hlocation⟩
      rw [← location_of_fileAt? hfile, hedits.home_eq] at hlocation
      exact hapart out hout _ (session.reject_mem_derivedPaths settings reference) hlocation.symm
    change ((judged.withOutput settings.output final.2).files.read _).toOption = _
    rw [hwritten.toOption_read hother, hreject]
    rfl

/-- The effect of a run that has assessed its input is that of the files that the engine left. -/
theorem hasEffect_of_assess_ok (hreplace : settings.MayReplace)
    (hstaged : judged.files.read (session.staged settings reference) = .ok files.output) :
    let guarded := (session.assess settings reference >>= fun (resolved, outcome) =>
      session.settle settings reference resolved outcome).on start
    session.HasEffect settings reference start
      (.ofFiles settings (settings.output.intake start) outcome.hasErrors files)
      guarded.1 (session.tidied settings reference guarded.2) := by
  cases hwrites : (Policy.decide outcome settings).writes with
  | false =>
      rw [Effect.ofFiles_of_halt hwrites]
      exact hasEffect_of_halt hengine htemps hapart hassess hreject hwrites
  | true =>
      rw [Effect.ofFiles_of_writes hwrites]
      exact hasEffect_of_writes hengine htemps hapart hassess hreject hreplace hwrites hstaged

end Assessed

/-- The effect of a run that is ready, and finds no file of rejected rows from before. -/
theorem hasEffect_of_ready (hreplace : settings.MayReplace)
    (hgone : (start.files.read (session.reject settings reference)).toOption = none) :
    let guarded := (session.assess settings reference >>= fun (resolved, outcome) =>
      session.settle settings reference resolved outcome).on start
    session.HasEffect settings reference start (session.effect network settings reference start)
      guarded.1 (session.tidied settings reference guarded.2) := by
  unfold effect
  cases hadmitted : session.admitted? network settings reference start with
  | none =>
      have hnone : ¬ ∃ content, session.Admits network settings reference start content := by
        rintro ⟨content, hadmits⟩
        simp [admitted?_eq_some_iff.mpr hadmits] at hadmitted
      obtain ⟨failure, after, hassess, hedits⟩ := assess_of_not_admits hengine hnone
      have heffect := hasEffect_of_assess_error hengine htemps hapart hassess
      rw [hedits.toOption_read fun location hfile hdiffer =>
        hdiffer (location_of_fileAt? hfile).symm, hgone] at heffect
      exact heffect
  | some content =>
      have hadmits := admitted?_eq_some_iff.mp hadmitted
      simp only [Effect.of, Effect.ofContent]
      rcases happraise : BuiltIn.appraise { skipRows := settings.skipRows } content with
        ⟨fault | report, files⟩
      · obtain ⟨failure, after, hassess, hreject⟩ := assess_of_fault hengine hadmits happraise
        have heffect := hasEffect_of_assess_error hengine htemps hapart hassess
        rw [hreject] at heffect
        exact heffect
      · obtain ⟨resolved, outcome, judged, hassess, -, herrors, hstaged, hreject⟩ :=
          assess_of_report hengine hadmits happraise
        have heffect := hasEffect_of_assess_ok hengine htemps hapart hassess hreject hreplace
          hstaged
        rw [herrors] at heffect
        exact heffect

end BuiltIn

end Session

end TidyCsv
