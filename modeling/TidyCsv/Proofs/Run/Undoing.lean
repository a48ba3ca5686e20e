import TidyCsv.Proofs.Run.Resolution
import TidyCsv.Proofs.Storage.SharedSets

/-! # Undoing what resolving has done

An intermediate file is registered before it is written. However far resolving gets, it has changed
no files but those that registered paths lead to, and when these are removed the file system is as
it was before, without them. -/

namespace TidyCsv

open FileSystem Run

namespace Resolution

/-- The files that may be made of an input before it is validated. -/
def intermediatePaths (directory : Path) (baseName : String) : List Path :=
  ["_stdin.csv", "_utf8.csv", "_fixed.csv"].map (derivedPath directory baseName)

end Resolution

/-! ## Accounting for changes -/

namespace Run

variable {α β : Type} {own given : List Path} {before middle after : World}

/-- Only files that registered paths lead to have changed. What was registered still is, and only own
paths have been added to it. -/
structure Accounts (own : List Path) (before after : World) : Prop where
  files : EditsFiles
    (fun location => ∃ p ∈ after.temps.paths, before.files.fileAt? p = some location)
    before.files after.files
  kept : ∀ p ∈ before.temps.paths, p ∈ after.temps.paths
  fresh : ∀ p ∈ after.temps.paths, p ∈ before.temps.paths ∨ p ∈ own

/-- An own path is the only one with its components, among registered paths and own ones. -/
def Clear (own : List Path) (temps : TempFiles) : Prop :=
  ∀ p ∈ own, ∀ q, q ∈ temps.paths ∨ q ∈ own → q.same p = true → q = p

namespace Accounts

theorem refl (world : World) : Accounts own world world :=
  ⟨.refl _, fun _ hp => hp, fun _ hp => .inl hp⟩

theorem trans (h : Accounts own before middle) (h' : Accounts own middle after) :
    Accounts own before after := by
  refine ⟨?_, fun p hp => h'.kept p (h.kept p hp), fun p hp => ?_⟩
  · refine (h.files.mono ?_).trans (h'.files.mono ?_)
    · intro location hregistered
      obtain ⟨p, hp, hfile⟩ := hregistered
      exact ⟨p, h'.kept p hp, hfile⟩
    · intro location hregistered
      obtain ⟨p, hp, hfile⟩ := hregistered
      exact ⟨p, hp, (h.files.fileAt?_eq p).symm.trans hfile⟩
  · rcases h'.fresh p hp with hold | hown
    · exact h.fresh p hold
    · exact .inr hown

theorem of_edits (h : EditsFiles
      (fun location => ∃ p ∈ before.temps.paths, before.files.fileAt? p = some location)
      before.files after.files)
    (htemps : after.temps = before.temps) : Accounts own before after := by
  refine ⟨?_, fun p hp => ?_, fun p hp => .inl ?_⟩
  · rwa [htemps]
  · rwa [htemps]
  · rwa [htemps] at hp

/-- A part may do what it likes to the file that a registered path leads to. -/
theorem of_fileAt {p : Path} (hp : p ∈ before.temps.paths)
    (h : EditsFiles (fun location => before.files.fileAt? p = some location) before.files
      after.files)
    (htemps : after.temps = before.temps) : Accounts own before after :=
  .of_edits (h.mono fun _ hfile => ⟨p, hp, hfile⟩) htemps

/-- What is left of a file at a registered path is at that path, also if the disk fails while the file
is written. -/
theorem of_keep {p : Path} {fs : FileSystem} {content : Bytes} (hp : p ∈ before.temps.paths)
    (h : EditsFiles (fun location => before.files.fileAt? p = some location) before.files fs)
    (hread : fs.read p = .ok content) (asFailure : IoFault → Failure) :
    Accounts own before ((keep asFailure p fs).on before).2 := by
  obtain ⟨location, hfile, -⟩ := read_eq_ok_iff.mp hread
  have hlocation := location_of_fileAt? hfile
  rw [h.fileAt?_eq] at hfile
  rw [on_keep]
  refine .of_fileAt hp (h.trans (Disk.hold_edits ?_)) rfl
  rw [hlocation]
  exact hfile

theorem register {p : Path} (hp : p ∈ own) (world : World) :
    Accounts own world { world with temps := world.temps.register p } := by
  refine ⟨.refl _, fun q hq => TempFiles.mem_register_of_mem hq, fun q hq => ?_⟩
  rcases TempFiles.mem_of_mem_register hq with hold | rfl
  · exact .inl hold
  · exact .inr hp

end Accounts

namespace Clear

theorem of_accounts (hclear : Clear own before.temps) (h : Accounts own before after) :
    Clear own after.temps := by
  intro p hp q hq hsame
  apply hclear p hp q ?_ hsame
  rcases hq with hregistered | hown
  · exact h.fresh q hregistered
  · exact .inr hown

theorem mem_register {temps : TempFiles} (hclear : Clear own temps) {p : Path} (hp : p ∈ own) :
    p ∈ (temps.register p).paths := by
  obtain ⟨q, hq, hsame⟩ := TempFiles.exists_same_register temps p
  have hsource : q ∈ temps.paths ∨ q ∈ own := by
    rcases TempFiles.mem_of_mem_register hq with hold | rfl
    · exact .inl hold
    · exact .inr hp
  rwa [hclear p hp q hsource hsame] at hq

end Clear

/-- A part accounts for what it changes, where the given paths are registered already. -/
def AccountsFor (own given : List Path) (part : Run α) : Prop :=
  ∀ world, Clear own world.temps → (∀ p ∈ given, p ∈ world.temps.paths) →
    Accounts own world (part.on world).2

namespace AccountsFor

theorem pure (a : α) : AccountsFor own given (Pure.pure a : Run α) := fun world _ _ => .refl world

theorem throw (failure : Failure) : AccountsFor own given (throw failure : Run α) :=
  fun world _ _ => .refl world

theorem modify {f : World → World}
    (hf : ∀ world, (f world).files = world.files ∧ (f world).temps = world.temps) :
    AccountsFor own given (modify f : Run Unit) := by
  intro world _ _
  apply Accounts.of_edits _ (hf world).2
  rw [(hf world).1]
  exact .refl _

theorem bind {part : Run α} {next : α → Run β} (hpart : AccountsFor own given part)
    (hnext : ∀ a, AccountsFor own given (next a)) : AccountsFor own given (part >>= next) := by
  intro world hclear hgiven
  have hfirst := hpart world hclear hgiven
  apply on_bind_snd hfirst
  intro a
  apply hfirst.trans
  exact hnext a _ (hclear.of_accounts hfirst) fun p hp => hfirst.kept p (hgiven p hp)

theorem register_bind {p : Path} (hp : p ∈ own) {next : Unit → Run β}
    (hnext : AccountsFor own (p :: given) (next ())) :
    AccountsFor own given (Run.register p >>= next) := by
  intro world hclear hgiven
  have hfirst := Accounts.register hp world
  rw [on_bind_of_ok (on_register p world)]
  apply hfirst.trans
  apply hnext _ (hclear.of_accounts hfirst)
  intro q hq
  rcases List.mem_cons.mp hq with rfl | hold
  · exact hclear.mem_register hp
  · exact hfirst.kept q (hgiven q hold)

theorem files_bind {next : FileSystem → Run β}
    (hnext : ∀ world, Clear own world.temps → (∀ p ∈ given, p ∈ world.temps.paths) →
      Accounts own world ((next world.files).on world).2) :
    AccountsFor own given (files >>= next) := by
  intro world hclear hgiven
  rw [on_files_bind]
  exact hnext world hclear hgiven

theorem write {p : Path} (hp : p ∈ given) (content : Bytes) :
    AccountsFor own given (Run.write p content) := by
  intro world _ hgiven
  rw [on_write]
  split
  · next hwrite =>
      exact .of_keep (hgiven p hp) (.of_write hwrite) (EditsFiles.read_of_write hwrite) .io
  · exact .refl world

end AccountsFor

end Run

/-! ## Resolution -/

namespace Resolution

variable {directory : Path} {baseName : String}

theorem storeStdin_accounts :
    AccountsFor (intermediatePaths directory baseName) [] (storeStdin directory baseName) := by
  intro world hclear hgiven
  unfold storeStdin
  rw [on_get_bind]
  split
  · exact .refl world
  · next bytes _ =>
      have hstored : AccountsFor (intermediatePaths directory baseName) [] (do
          Run.register (derivedPath directory baseName "_stdin.csv")
          modify fun world => { world with stdin := .piped [] }
          Run.write (derivedPath directory baseName "_stdin.csv") bytes
          pure (derivedPath directory baseName "_stdin.csv")) := by
        apply AccountsFor.register_bind
        · simp [intermediatePaths]
        · refine .bind (.modify fun _ => ⟨rfl, rfl⟩) fun _ => ?_
          exact .bind (.write (by simp) bytes) fun _ => .pure _
      exact hstored world hclear hgiven
  · next fault _ =>
      -- reading fails after the path is registered
      have hfails : AccountsFor (intermediatePaths directory baseName) [] (do
          Run.register (derivedPath directory baseName "_stdin.csv")
          throw (.io fault) : Run Path) := by
        apply AccountsFor.register_bind
        · simp [intermediatePaths]
        · exact .throw _
      exact hfails world hclear hgiven

theorem read_of_repairFile {fs after : FileSystem} {source destination : Path} {sample : Nat}
    (h : repairFile fs source destination sample = .ok (true, after)) :
    ∃ content, after.read destination = .ok content := by
  unfold repairFile at h
  split at h
  · simp at h
  · split at h
    · split at h
      · simp at h
      · split at h
        · simp at h
        · next fixed _ =>
            cases hwrite : fs.write destination fixed with
            | error fault => simp [hwrite, Except.map] at h
            | ok written =>
                obtain rfl : written = after := by simpa [hwrite, Except.map] using h
                exact ⟨fixed, EditsFiles.read_of_write hwrite⟩
    · simp at h

theorem convert_accounts (path : Path) (label : String) :
    AccountsFor (intermediatePaths directory baseName) []
      (convert directory baseName path label) := by
  unfold convert
  split
  · apply AccountsFor.register_bind
    · simp [intermediatePaths]
    · apply AccountsFor.files_bind
      intro world _ hgiven
      have hedits := convertFile_edits world.files path
        (derivedPath directory baseName "_utf8.csv") label
      rcases hresult : convertFile world.files path (derivedPath directory baseName "_utf8.csv")
        label with ⟨result, fs⟩
      rw [hresult] at hedits
      cases result with
      | error failure => exact .of_fileAt (hgiven _ (by simp)) hedits rfl
      | ok _ =>
          obtain ⟨text, hread⟩ := convertFile_encodes hresult
          rw [on_bind_pure_snd]
          exact .of_keep (hgiven _ (by simp)) hedits hread .io
  · exact .pure _

theorem repair_accounts (path : Path) (sample : Option Nat) :
    AccountsFor (intermediatePaths directory baseName) []
      (repair directory baseName path sample) := by
  unfold repair
  split
  · exact .pure _
  · apply AccountsFor.register_bind
    · simp [intermediatePaths]
    · apply AccountsFor.files_bind
      intro world _ hgiven
      split
      · exact .refl world
      · exact .refl world
      · next fs hrepair =>
          obtain ⟨content, hread⟩ := read_of_repairFile hrepair
          rw [on_bind_pure_snd]
          exact .of_keep (hgiven _ (by simp)) (repairFile_edits hrepair) hread .mojibakeRepair

theorem resolveFile_accounts (settings : Settings) (path : Path) :
    AccountsFor (intermediatePaths directory baseName) []
      (resolveFile settings directory baseName path) := by
  unfold resolveFile
  apply AccountsFor.files_bind
  intro world hclear hgiven
  split
  · exact .refl world
  · next verdict _ =>
      refine AccountsFor.bind (convert_accounts path verdict.label) (fun working => ?_) world hclear
        hgiven
      exact .bind (repair_accounts working _) fun _ => .pure _

theorem resolve_accounts (reference : InputReference) (settings : Settings) :
    AccountsFor (intermediatePaths directory baseName) []
      (resolve reference settings directory baseName) := by
  cases reference with
  | remote url => exact .pure _
  | compressed path kind => exact .pure _
  | stdin => exact .bind storeStdin_accounts fun path => resolveFile_accounts settings path
  | file path => exact resolveFile_accounts settings path

end Resolution

/-! ## Removing the registered files -/

namespace Run

/-- What a file system is when the registered files are removed: what it was before, without the
files that registered paths lead to. -/
theorem Accounts.entryAt?_sweep {own : List Path} {before after : World}
    (h : Accounts own before after) (location : Location) :
    (after.temps.sweep after.files).entryAt? location =
      if (∃ p ∈ after.temps.paths, before.files.fileAt? p = some location) ∧
          before.files.entryAt? location ≠ some .directory then none
      else before.files.entryAt? location := by
  have hswept := sweep_edits after.temps after.files
  by_cases hdirectory : before.files.entryAt? location = some .directory
  · rw [if_neg fun hboth => hboth.2 hdirectory, hdirectory, hswept.directory_iff,
      h.files.directory_iff, hdirectory]
  · have hfile : after.files.entryAt? location ≠ some .directory := by
      rwa [ne_eq, h.files.directory_iff]
    rw [FileSystem.entryAt?_sweep after.temps hfile]
    simp only [h.files.fileAt?_eq]
    by_cases hregistered : ∃ p ∈ after.temps.paths, before.files.fileAt? p = some location
    · rw [if_pos hregistered, if_pos ⟨hregistered, hdirectory⟩]
    · rw [if_neg hregistered, if_neg fun hboth => hregistered hboth.1]
      exact h.files.entry_eq location hregistered

end Run

namespace Resolution

theorem clear_intermediatePaths {directory : Path} {baseName : String} {temps : TempFiles}
    (h : ∀ p ∈ intermediatePaths directory baseName, ∀ q ∈ temps.paths,
      q.same p = true → q = p) : Clear (intermediatePaths directory baseName) temps := by
  have hown : ∀ ending ∈ ["_stdin.csv", "_utf8.csv", "_fixed.csv"],
      ending ∈ InputReference.ownEndings := by
    decide
  intro p hp q hq hsame
  rcases hq with hregistered | hq
  · exact h p hp q hregistered hsame
  · obtain ⟨ending, hending, rfl⟩ := List.mem_map.mp hp
    obtain ⟨other, hother, rfl⟩ := List.mem_map.mp hq
    rw [ending_eq_of_same (hown other hother) (hown ending hending) hsame]

/-- However far the resolving of an input gets, everything that it has changed is registered, the
input is as it was unless it is one of the intermediate files itself, and when the registered files
are removed the file system is as it was before, but for the files at registered paths. A directory
at such a path stays. -/
theorem resolve_undone {reference : InputReference} {settings : Settings} {directory : Path}
    {baseName : String} {world last : World} {result : Except Failure Resolved}
    (hspelling : ∀ p ∈ intermediatePaths directory baseName, ∀ q ∈ world.temps.paths,
      q.same p = true → q = p)
    (h : (resolve reference settings directory baseName).on world = (result, last)) :
    (∀ location, last.files.entryAt? location ≠ world.files.entryAt? location →
        ∃ p ∈ last.temps.paths, world.files.fileAt? p = some location) ∧
      (∀ p ∈ last.temps.paths,
        p ∈ world.temps.paths ∨ p ∈ intermediatePaths directory baseName) ∧
      (∀ path ∈ reference.path?,
        (∀ p ∈ intermediatePaths directory baseName,
          p.location world.files.home ≠ path.location world.files.home) →
        last.files.entryAt? (path.location world.files.home) =
          world.files.entryAt? (path.location world.files.home)) ∧
      (last.temps.sweep last.files).home = world.files.home ∧
      (∀ location, (last.temps.sweep last.files).entryAt? location =
        if (∃ p ∈ last.temps.paths, world.files.fileAt? p = some location) ∧
            world.files.entryAt? location ≠ some .directory then none
        else world.files.entryAt? location) ∧
      ∀ p ∈ last.temps.paths, (last.temps.sweep last.files).Gone p := by
  obtain rfl : ((resolve reference settings directory baseName).on world).2 = last := by rw [h]
  have haccounts := resolve_accounts reference settings world (clear_intermediatePaths hspelling)
    (by simp)
  refine ⟨?_, haccounts.fresh, ?_, ?_, haccounts.entryAt?_sweep, ?_⟩
  · intro location hchanged
    by_contra hregistered
    exact hchanged (haccounts.files.entry_eq location hregistered)
  · intro path _ hdiffer
    have htouched : IntermediatesTouched world.files.home
        (fun location => ∃ p ∈ intermediatePaths directory baseName,
          p.location world.files.home = location) directory baseName := by
      constructor
      all_goals exact ⟨_, by simp [intermediatePaths], rfl⟩
    apply (resolve_edits htouched reference settings world rfl).files.entry_eq
    intro hown
    obtain ⟨p, hp, hlocation⟩ := hown
    exact hdiffer p hp hlocation
  · rw [(sweep_edits _ _).home_eq, haccounts.files.home_eq]
  · intro p hp
    exact gone_sweep _ hp

/-- Settings under which files are repaired. -/
def repairingSettings : Settings :=
  ⟨0x2C, false, false, false, false, some 100, 0, .file ⟨"out.csv"⟩⟩

/-- A world in which the input breaks off within a character. -/
def brokenWorld : World :=
  .initial (.empty []) (.piped [0xFF, 0xFE, 0x61, 0x00, 0x62, 0x00, 0x00, 0xD8])

/-- A world in which the disk is full after the first byte of the repaired copy. -/
def fullWorld : World :=
  .initial (.empty []) (.piped (Utf8.ofString "Ã©\n"))
    ⟨[⟨["in_fixed.csv"], 1, .other "No space left on device (os error 28)"⟩]⟩

/-- The conversion of the input fails half-way in one world, and the disk takes half of a letter of
the repaired copy in the other. What has been written is removed in both. -/
theorem resolve_undone_broken :
    let spaceless : IoFault := .other "No space left on device (os error 28)"
    (∀ p ∈ intermediatePaths ⟨"."⟩ "in", ∀ q ∈ TempFiles.empty.paths, q.same p = true → q = p) ∧
      ∃ broken full,
        (resolve .stdin repairingSettings ⟨"."⟩ "in").on brokenWorld =
            (.error (.conversionFailed "utf-16le" "malformed byte sequence near byte 8"), broken) ∧
          broken.files.read ⟨"in_utf8.csv"⟩ = .ok (Utf8.ofString "ab") ∧
          (resolve .stdin repairingSettings ⟨"."⟩ "in").on fullWorld =
            (.error (.mojibakeRepair spaceless), full) ∧
          full.files.read ⟨"in_fixed.csv"⟩ = .ok [0xC3] ∧
          ∀ location, (broken.temps.sweep broken.files).entryAt? location =
              (FileSystem.empty []).entryAt? location ∧
            (full.temps.sweep full.files).entryAt? location =
              (FileSystem.empty []).entryAt? location := by
  intro spaceless
  have hspelling : ∀ p ∈ intermediatePaths ⟨"."⟩ "in", ∀ q ∈ TempFiles.empty.paths,
      q.same p = true → q = p := by
    simp [TempFiles.empty]
  have hundone : ∀ {stdin disk result last}, (resolve .stdin repairingSettings ⟨"."⟩ "in").on
      (.initial (.empty []) stdin disk) = (result, last) →
        ∀ location, (last.temps.sweep last.files).entryAt? location =
          (FileSystem.empty []).entryAt? location := by
    intro stdin disk result last hlast location
    obtain ⟨-, -, -, -, hswept, -⟩ := resolve_undone hspelling hlast
    rw [hswept]
    split
    · next hremoved =>
        -- there is nothing but the root, and that is a directory
        have hne : location ≠ [] := by
          rintro rfl
          exact hremoved.2 (entryAt?_nil _)
        rw [entryAt?_of_ne_nil _ hne]
        rfl
    · rfl
  obtain ⟨hbroken, hcut⟩ :
      ((resolve .stdin repairingSettings ⟨"."⟩ "in").on brokenWorld).1 =
          .error (.conversionFailed "utf-16le" "malformed byte sequence near byte 8") ∧
        ((resolve .stdin repairingSettings ⟨"."⟩ "in").on brokenWorld).2.files.read
          ⟨"in_utf8.csv"⟩ = .ok (Utf8.ofString "ab") := by
    decide
  obtain ⟨hfull, hbyte⟩ :
      ((resolve .stdin repairingSettings ⟨"."⟩ "in").on fullWorld).1 =
          .error (.mojibakeRepair spaceless) ∧
        ((resolve .stdin repairingSettings ⟨"."⟩ "in").on fullWorld).2.files.read
          ⟨"in_fixed.csv"⟩ = .ok [0xC3] := by
    decide +kernel
  rcases hbrokenRun : (resolve .stdin repairingSettings ⟨"."⟩ "in").on brokenWorld with
    ⟨result, broken⟩
  rcases hfullRun : (resolve .stdin repairingSettings ⟨"."⟩ "in").on fullWorld with
    ⟨result', full⟩
  rw [hbrokenRun] at hbroken hcut
  rw [hfullRun] at hfull hbyte
  subst hbroken hfull
  exact ⟨hspelling, broken, full, rfl, hcut, rfl, hbyte,
    fun location => ⟨hundone hbrokenRun location, hundone hfullRun location⟩⟩

/-- A world with a directory at the path of an intermediate file. -/
def blockedWorld : World :=
  .initial (((FileSystem.empty []).put ["in.csv"] (.file (Utf8.ofString "a\n1\n"))).put
    ["in_fixed.csv"] .directory) .terminal

/-- A world whose input has the name of an intermediate file. -/
def renamedWorld : World :=
  .initial ((FileSystem.empty []).put ["in_fixed.csv"] (.file (Utf8.ofString "a\nÃ©\n"))) .terminal

/-- A directory at a registered path is there afterwards, and an input that another spelling of an
intermediate path leads to is overwritten. -/
theorem resolve_leaves_directory :
    let blocked := ((resolve (.file ⟨"in.csv"⟩) repairingSettings ⟨"."⟩ "in").on blockedWorld).2
    let renamed :=
      ((resolve (.file ⟨"in_fixed.csv"⟩) repairingSettings ⟨"."⟩ "in").on renamedWorld).2
    ((∀ p ∈ intermediatePaths ⟨"."⟩ "in", p.same ⟨"in.csv"⟩ = false) ∧
        ⟨"./in_fixed.csv"⟩ ∈ blocked.temps.paths ∧
        (blocked.temps.sweep blocked.files).contains ⟨"./in_fixed.csv"⟩ = true) ∧
      (∀ p ∈ intermediatePaths ⟨"."⟩ "in", p.same ⟨"in_fixed.csv"⟩ = false) ∧
        (renamed.files.read ⟨"in_fixed.csv"⟩).toOption ≠
          (renamedWorld.files.read ⟨"in_fixed.csv"⟩).toOption := by
  refine ⟨?_, ?_⟩
  all_goals decide +kernel

end Resolution

end TidyCsv
