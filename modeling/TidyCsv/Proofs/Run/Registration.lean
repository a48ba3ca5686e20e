import TidyCsv.Engine.Scripted
import TidyCsv.Proofs.Run.InputKept
import TidyCsv.Proofs.Run.Resolution
import TidyCsv.Proofs.Run.Silence
import TidyCsv.Proofs.Run.Validation
import TidyCsv.Proofs.Storage.SharedSets

/-! # What a run registers, and what is left of it

Every path that a run registers is in the set of registered paths when the run tidies up, however
far it has come. Nothing that such a path led to is left, and the set is empty. -/

namespace TidyCsv

open FileSystem Run

/-! ## Resolution -/

namespace Resolution

variable {settings : Settings} {directory path : Path} {baseName label : String} {world : World}

/-- What is registered for what comes after a file is written, which is nothing if the disk does not
hold the file. -/
def registrationsAfter (disk : Disk) (path : Path) (fs : FileSystem)
    (next : FileSystem → List Path) : List Path :=
  match disk.hold path fs with
  | (.ok (), held) => next held
  | (.error _, _) => []

/-- What is registered for the conversion of a file, and for what comes after it if the conversion
succeeds. -/
def conversionRegistrations (directory : Path) (baseName : String) (path : Path) (label : String)
    (fs : FileSystem) (disk : Disk) (next : List Path) : List Path :=
  let converted := derivedPath directory baseName "_utf8.csv"
  if Encoding.needsConversion label then
    converted ::
      match convertFile fs path converted label with
      | (.ok (), fs) => registrationsAfter disk converted fs fun _ => next
      | (.error _, _) => []
  else next

/-- What is registered on the way from a file to a source. -/
def fileRegistrations (settings : Settings) (directory : Path) (baseName : String) (path : Path)
    (fs : FileSystem) (disk : Disk) : List Path :=
  match detectFile fs path with
  | .error _ => []
  | .ok verdict =>
    conversionRegistrations directory baseName path verdict.label fs disk
      (if (repairSample settings).isSome then [derivedPath directory baseName "_fixed.csv"] else [])

/-- What is registered on the way from an input to a source. -/
def registrations (reference : InputReference) (settings : Settings) (directory : Path)
    (baseName : String) (fs : FileSystem) (stdin : Stdin) (disk : Disk) : List Path :=
  match reference with
  | .remote _ => []
  | .compressed _ _ => []
  | .file path => fileRegistrations settings directory baseName path fs disk
  | .stdin =>
    match stdin with
    | .terminal => []
    | .broken _ => [derivedPath directory baseName "_stdin.csv"]
    | .piped bytes =>
      let path := derivedPath directory baseName "_stdin.csv"
      path ::
        match fs.write path bytes with
        | .error _ => []
        | .ok fs => registrationsAfter disk path fs fun held =>
          fileRegistrations settings directory baseName path held disk

theorem repair_temps (path : Path) (sample : Option Nat) (world : World) :
    ((repair directory baseName path sample).on world).2.temps =
      (if sample.isSome then [derivedPath directory baseName "_fixed.csv"] else []).foldl
        TempFiles.register world.temps := by
  unfold repair
  cases sample with
  | none => rfl
  | some size =>
      simp only
      rw [on_bind_of_ok (on_register _ _), on_files_bind]
      split
      · rfl
      · rfl
      · rw [on_bind_pure_snd, on_keep]
        rfl

/-- Whatever is done with a file that was written, it is registered after that if the disk holds the
file. -/
theorem keep_bind_temps {α : Type} {next : Unit → Run α} {later : FileSystem → List Path}
    {world : World}
    (hnext : ∀ held, ((next ()).on { world with files := held }).2.temps =
      (later held).foldl TempFiles.register world.temps)
    (asFailure : IoFault → Failure) (p : Path) (fs : FileSystem) :
    ((keep asFailure p fs >>= next).on world).2.temps =
      (registrationsAfter world.disk p fs later).foldl TempFiles.register world.temps := by
  rw [on_keep_bind, registrationsAfter]
  rcases world.disk.hold p fs with ⟨fault | ⟨⟩, held⟩
  · rfl
  · exact hnext held

/-- Whatever is done with a converted file, it is registered after the conversion if that
succeeds. -/
theorem convert_bind_temps {α : Type} {next : Path → Run α} {later : List Path}
    (hnext : ∀ working world,
      ((next working).on world).2.temps = later.foldl TempFiles.register world.temps)
    (path : Path) (label : String) (world : World) :
    ((convert directory baseName path label >>= next).on world).2.temps =
      (conversionRegistrations directory baseName path label world.files world.disk later).foldl
        TempFiles.register world.temps := by
  unfold convert conversionRegistrations
  split
  · rw [bind_assoc, on_bind_of_ok (on_register _ _), bind_assoc, on_files_bind]
    dsimp only
    rcases hresult : convertFile world.files path (derivedPath directory baseName "_utf8.csv") label
      with ⟨failure | ⟨⟩, fs⟩
    · simp only [bind_assoc, on_setFiles_bind]
      rfl
    · simp only [bind_assoc, pure_bind]
      refine keep_bind_temps (fun held => ?_) _ _ _
      exact hnext _ _
  · rw [pure_bind]
    exact hnext _ _

theorem resolveFile_temps (settings : Settings) (path : Path) (world : World) :
    ((resolveFile settings directory baseName path).on world).2.temps =
      (fileRegistrations settings directory baseName path world.files world.disk).foldl
        TempFiles.register world.temps := by
  unfold resolveFile fileRegistrations
  rw [on_files_bind]
  cases detectFile world.files path with
  | error failure => rfl
  | ok verdict =>
      dsimp only
      refine convert_bind_temps (fun working world => ?_) path verdict.label world
      exact (view_bind World.temps (fun _ _ => rfl) world).trans
        (repair_temps working (repairSample settings) world)

/-- What resolving an input registers, however far it comes. -/
theorem resolve_temps (reference : InputReference) (settings : Settings) (world : World) :
    ((resolve reference settings directory baseName).on world).2.temps =
      (registrations reference settings directory baseName world.files world.stdin
        world.disk).foldl TempFiles.register world.temps := by
  cases reference with
  | remote url => rfl
  | compressed path kind => rfl
  | file path => exact resolveFile_temps settings path world
  | stdin =>
      unfold resolve storeStdin registrations
      rw [bind_assoc, on_get_bind]
      cases hstdin : world.stdin with
      | terminal => rfl
      | broken fault => rfl
      | piped bytes =>
          simp only [bind_assoc, pure_bind, Run.write]
          rw [on_bind_of_ok (on_register _ _), on_bind_of_ok (on_modify _ _), on_files_bind]
          dsimp only
          cases world.files.write (derivedPath directory baseName "_stdin.csv") bytes with
          | error fault => rfl
          | ok fs =>
              rw [on_ofIo_ok_bind]
              exact keep_bind_temps (fun held => resolveFile_temps settings _ _) _ _ _

theorem registrationsAfter_sublist {disk : Disk} {fs : FileSystem} {next : FileSystem → List Path}
    {paths : List Path} (hnext : ∀ held, (next held).Sublist paths) :
    (registrationsAfter disk path fs next).Sublist paths := by
  unfold registrationsAfter
  split
  · exact hnext _
  · exact List.nil_sublist _

theorem fileRegistrations_sublist (fs : FileSystem) (disk : Disk) :
    (fileRegistrations settings directory baseName path fs disk).Sublist
      [derivedPath directory baseName "_utf8.csv",
        derivedPath directory baseName "_fixed.csv"] := by
  have hfixed : (if (repairSample settings).isSome then
      [derivedPath directory baseName "_fixed.csv"] else []).Sublist
        [derivedPath directory baseName "_fixed.csv"] := by
    split
    · exact .refl _
    · exact List.nil_sublist _
  unfold fileRegistrations conversionRegistrations
  split
  · exact List.nil_sublist _
  · dsimp only
    split
    · split
      · exact (registrationsAfter_sublist fun _ => hfixed).cons_cons _
      · exact (List.nil_sublist _).cons_cons _
    · exact hfixed.cons _

theorem registrations_sublist (reference : InputReference) (settings : Settings)
    (fs : FileSystem) (stdin : Stdin) (disk : Disk) :
    (registrations reference settings directory baseName fs stdin disk).Sublist
      [derivedPath directory baseName "_stdin.csv", derivedPath directory baseName "_utf8.csv",
        derivedPath directory baseName "_fixed.csv"] := by
  cases reference with
  | remote url => exact List.nil_sublist _
  | compressed path kind => exact List.nil_sublist _
  | file path => exact (fileRegistrations_sublist fs disk).cons _
  | stdin =>
      simp only [registrations]
      split
      · exact List.nil_sublist _
      · exact (List.nil_sublist _).cons_cons _
      · split
        · exact (List.nil_sublist _).cons_cons _
        · exact (registrationsAfter_sublist fun held =>
            fileRegistrations_sublist held disk).cons_cons _

end Resolution

namespace Session

variable {session : Session} {argument : String} {options : Options} {settings : Settings}
  {reference : InputReference} {world start : World}

/-- The paths that a run registers, from the world in which it is ready. -/
def registrations (session : Session) (settings : Settings) (reference : InputReference)
    (start : World) : List Path :=
  session.staged settings reference ::
    Resolution.registrations reference settings (session.directory settings) reference.baseName
      start.files start.stdin start.disk

theorem assess_temps (session : Session) (settings : Settings) (reference : InputReference)
    (start : World) :
    ((session.assess settings reference).on start).2.temps =
      (session.registrations settings reference start).foldl TempFiles.register start.temps := by
  unfold assess
  rw [on_bind_of_ok (on_register _ _), view_bind World.temps fun resolved middle => ?_,
    Resolution.resolve_temps]
  · rfl
  · rw [view_bind World.temps fun _ _ => rfl]
    obtain ⟨shown, hafter⟩ := Validation.on_run_snd session.engine resolved.source
      { skipRows := settings.skipRows } (session.staged settings reference)
      (session.reject settings reference) reference.isRemote reference.displayName middle
    rw [hafter]

/-- What is registered when a run tidies up, however far it has come. -/
theorem guarded_temps (session : Session) (settings : Settings) (reference : InputReference)
    (start : World) :
    ((session.assess settings reference >>= fun (resolved, outcome) =>
      session.settle settings reference resolved outcome).on start).2.temps =
        (session.registrations settings reference start).foldl TempFiles.register start.temps := by
  rw [view_bind World.temps, assess_temps]
  rintro ⟨resolved, outcome⟩ judged
  exact settle_view (fun _ _ => rfl) (fun _ _ => rfl) (fun _ _ => rfl) session settings reference
    resolved outcome judged

theorem registrations_subset (session : Session) (settings : Settings) (reference : InputReference)
    (start : World) :
    session.registrations settings reference start ⊆
      ["_staged.csv", "_stdin.csv", "_utf8.csv", "_fixed.csv"].map
        (Resolution.derivedPath (session.directory settings) reference.baseName) :=
  ((Resolution.registrations_sublist reference settings start.files start.stdin
    start.disk).cons_cons (session.staged settings reference)).subset

theorem mem_registrations {p : Path} (h : p ∈ session.registrations settings reference start) :
    ∃ ending ∈ InputReference.ownEndings, ending ≠ "_reject_errors.csv" ∧
      Resolution.derivedPath (session.directory settings) reference.baseName ending = p := by
  have hown : ∀ ending ∈ ["_staged.csv", "_stdin.csv", "_utf8.csv", "_fixed.csv"],
      ending ∈ InputReference.ownEndings ∧ ending ≠ "_reject_errors.csv" := by decide
  obtain ⟨ending, hending, rfl⟩ :=
    List.mem_map.mp (registrations_subset session settings reference start h)
  exact ⟨ending, (hown ending hending).1, (hown ending hending).2, rfl⟩

theorem eq_of_same_of_mem_registrations {p q : Path}
    (hp : p ∈ session.registrations settings reference start)
    (hq : q ∈ session.registrations settings reference start) (hsame : p.same q = true) :
    p = q := by
  obtain ⟨ending, hending, -, rfl⟩ := mem_registrations hp
  obtain ⟨other, hother, -, rfl⟩ := mem_registrations hq
  rw [Resolution.ending_eq_of_same hending hother hsame]

theorem run_temps (session : Session) (argument : String) (options : Options) (world : World) :
    (session.run argument options world).2.temps =
      ((session.execute argument options).on world).2.temps := by
  rw [run_eq]

/-- A run that has got ready ends with an empty set of registered paths, none of which leads to a
file any more, and with a file of rejected rows only if that holds a row. A path is not added to the
set if another spelling of it is there, and that one is removed in its stead, so that the file stays
if the other spelling leads to no place of a file. Between cleanups, a shared set holds what is
registered through any of its handles. -/
theorem run_tidies
    (hready : (session.getReady argument options).on world = (.ok settings, start)) :
    let reference := InputReference.ofArgument argument
    let reject := session.reject settings reference
    let registered := session.registrations settings reference start
    let last := (session.run argument options world).2
    ((body session reference settings (session.directory settings) reference.baseName
        reject).on start).2.temps = registered.foldl TempFiles.register world.temps ∧
      last.temps = .empty ∧
      (∀ p ∈ world.temps.paths, last.files.Gone p) ∧
      (∀ p ∈ registered,
        (∀ q ∈ world.temps.paths, q.same p = true → last.files.fileAt? q ≠ none) →
          last.files.Gone p) ∧
      (last.files.isFile reject = true →
        ∃ count, last.files.countRecords reject = .ok count ∧ 2 ≤ count) ∧
      ∀ (Handle Identity : Type) [DecidableEq Identity] (setOf : Handle → Identity)
        (calls : List (TempFiles.Call Handle)) (set : Identity),
        TempFiles.Tracks setOf calls set (TempFiles.setsAfter setOf calls set) := by
  intro reference reject registered last
  have hstart : start.temps = world.temps :=
    (getReady_silent (fun _ _ => rfl) session argument options).view_of_on hready
  have hbody := guarded_temps session settings reference start
  rw [hstart] at hbody
  have hlast := on_execute_of_ready hready
  dsimp only at hlast
  have htemps : last.temps = .empty := by
    rw [run_temps, hlast]
    rfl
  have hfiles : ∃ before : FileSystem, last.files =
      before.tidy (registered.foldl TempFiles.register world.temps) (some reject) := by
    rw [run_files, hlast, ← hbody]
    exact ⟨_, rfl⟩
  obtain ⟨before, hbefore⟩ := hfiles
  rw [hbefore]
  refine ⟨by rw [body_eq]; exact hbody, htemps, fun p hp => ?_, fun p hp hleads => ?_,
    countRecords_tidy, fun _ _ _ _ calls set => TempFiles.tracks_setsAfter calls set⟩
  · exact gone_tidy (TempFiles.mem_foldl_register_of_mem hp) reject
  · obtain ⟨q, hq, hsame⟩ : ∃ q ∈ (registered.foldl TempFiles.register world.temps).paths,
        q.same p = true := TempFiles.exists_same_foldl_register hp
    have hgone : (before.tidy (registered.foldl TempFiles.register world.temps)
        (some reject)).Gone q := gone_tidy hq reject
    rcases mem_of_mem_foldl_register hq with hold | hnew
    · exact hgone.of_same hsame (hleads q hold hsame)
    · exact eq_of_same_of_mem_registrations hnew hp hsame ▸ hgone

/-- A world in which another spelling of a file that a run derives has been registered before, with a
slash after it. -/
def respelledWorld : World where
  files := (FileSystem.empty []).put ["in.csv"] (.file (Utf8.ofString "a\n1\n"))
  stdin := .terminal
  stdout := []
  events := []
  temps := ⟨[⟨"./in_staged.csv/"⟩]⟩

/-- The run succeeds, and a file that it has registered is still there. The other spelling, which
leads to no file, is the one that is removed. -/
theorem runRespelled_leaves :
    let session : Session := ⟨.builtIn .unreachable, none, ⟨"/"⟩⟩
    let options : Options := { output := some ⟨"out.csv"⟩ }
    let settings : Settings := ⟨0x2C, false, false, false, false, none, 0, .file ⟨"out.csv"⟩⟩
    let (status, last) := session.run "in.csv" options respelledWorld
    (session.getReady "in.csv" options).on respelledWorld = (.ok settings, respelledWorld) ∧
      status = .success ∧
      ∃ p ∈ session.registrations settings (.ofArgument "in.csv") respelledWorld,
        last.files.contains p = true ∧ last.files.isDirectory p = false := by
  intro session options settings
  obtain ⟨hready, hstatus, hregistered, hthere, hfile⟩ :
      (session.getReady "in.csv" options).on respelledWorld = (.ok settings, respelledWorld) ∧
        (session.run "in.csv" options respelledWorld).1 = .success ∧
        ⟨"./in_staged.csv"⟩ ∈
          session.registrations settings (.ofArgument "in.csv") respelledWorld ∧
        (session.run "in.csv" options respelledWorld).2.files.contains ⟨"./in_staged.csv"⟩ = true ∧
        (session.run "in.csv" options respelledWorld).2.files.isDirectory ⟨"./in_staged.csv"⟩ =
          false := by
    decide +kernel
  rcases hrun : session.run "in.csv" options respelledWorld with ⟨status, last⟩
  rw [hrun] at hstatus hthere hfile
  exact ⟨hready, hstatus, _, hregistered, hthere, hfile⟩

/-- An engine that rejects no row, and keeps two rows of different width. -/
def raggedEngine : Engine :=
  .scripted {
    staged := some (Utf8.ofString "a,b\n1\n")
    reject := some (Utf8.ofString "error_type\n")
    report := ⟨1, 0, 2, none⟩ }

/-- A world with input in another encoding and a file registered before. -/
def pipedWorld : World where
  files := (FileSystem.empty []).put ["left.csv"] (.file (Utf8.ofString "a\n"))
  stdin := .piped (Utf8.ofString "name\nJos" ++ [0xE9, 0x0A])
  stdout := []
  events := []
  temps := ⟨[⟨"left.csv"⟩]⟩

/-- A world in which standard input cannot be read, with a file where it would be stored. -/
def unreadableWorld : World :=
  .initial ((FileSystem.empty []).put ["stdin_stdin.csv"] (.file (Utf8.ofString "a\n")))
    (.broken .isADirectory)

/-- The first run converts its input and looks for mojibake, and fails to write its output. The second
one fails before anything is stored, and does away with what had been stored before. -/
theorem runPiped_tidies :
    let session : Session := ⟨raggedEngine, none, ⟨"/"⟩⟩
    let options : Options := { output := some ⟨"out.csv"⟩, mojibakeSample := some 100 }
    let settings : Settings := ⟨0x2C, false, false, false, false, some 100, 0, .file ⟨"out.csv"⟩⟩
    let (status, last) := session.run "-" options pipedWorld
    let (status', last') := session.run "-" options unreadableWorld
    ((session.getReady "-" options).on pipedWorld = (.ok settings, pipedWorld) ∧
      status = .failure ∧ last.temps = .empty ∧
      ∀ p ∈ [⟨"left.csv"⟩, ⟨"./stdin_staged.csv"⟩, ⟨"./stdin_stdin.csv"⟩, ⟨"./stdin_utf8.csv"⟩,
        ⟨"./stdin_fixed.csv"⟩], last.files.Gone p) ∧
      (session.getReady "-" options).on unreadableWorld = (.ok settings, unreadableWorld) ∧
        status' = .failure ∧ unreadableWorld.files.isFile ⟨"./stdin_stdin.csv"⟩ = true ∧
        ∀ p ∈ [⟨"./stdin_staged.csv"⟩, ⟨"./stdin_stdin.csv"⟩], last'.files.Gone p := by
  intro session options settings
  have hnew : ∀ p ∈ [⟨"./stdin_staged.csv"⟩, ⟨"./stdin_stdin.csv"⟩, ⟨"./stdin_utf8.csv"⟩,
      ⟨"./stdin_fixed.csv"⟩], ∀ q ∈ pipedWorld.temps.paths, ¬ q.same p = true := by
    decide
  obtain ⟨hready, hstatus, hregistered⟩ :
      (session.getReady "-" options).on pipedWorld = (.ok settings, pipedWorld) ∧
        (session.run "-" options pipedWorld).1 = .failure ∧
        session.registrations settings (.ofArgument "-") pipedWorld =
          [⟨"./stdin_staged.csv"⟩, ⟨"./stdin_stdin.csv"⟩, ⟨"./stdin_utf8.csv"⟩,
            ⟨"./stdin_fixed.csv"⟩] := by
    decide +kernel
  obtain ⟨hready', hstatus', hstored, hregistered'⟩ :
      (session.getReady "-" options).on unreadableWorld = (.ok settings, unreadableWorld) ∧
        (session.run "-" options unreadableWorld).1 = .failure ∧
        unreadableWorld.files.isFile ⟨"./stdin_stdin.csv"⟩ = true ∧
        session.registrations settings (.ofArgument "-") unreadableWorld =
          [⟨"./stdin_staged.csv"⟩, ⟨"./stdin_stdin.csv"⟩] := by
    decide
  have htidied := run_tidies hready
  have htidied' := run_tidies hready'
  rcases hrun : session.run "-" options pipedWorld with ⟨status, last⟩
  rcases hrun' : session.run "-" options unreadableWorld with ⟨status', last'⟩
  rw [hrun] at hstatus htidied
  rw [hrun'] at hstatus' htidied'
  obtain ⟨-, htemps, hbefore, hduring, -⟩ := htidied
  obtain ⟨-, -, -, hduring', -⟩ := htidied'
  rw [hregistered] at hduring
  rw [hregistered'] at hduring'
  refine ⟨⟨hready, hstatus, htemps, ?_⟩, hready', hstatus', hstored,
    fun p hp => hduring' p hp fun q hq => absurd hq List.not_mem_nil⟩
  rw [List.forall_mem_cons]
  exact ⟨hbefore _ (by decide), fun p hp => hduring p hp fun q hq hsame =>
    absurd hsame (hnew p hp q hq)⟩

end Session

end TidyCsv
