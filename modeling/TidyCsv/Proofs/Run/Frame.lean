import TidyCsv.Proofs.Engine.BuiltIn
import TidyCsv.Proofs.Input.Reference
import TidyCsv.Proofs.Run.Parts
import TidyCsv.Run.Session

/-! # Which files the parts of a run edit

Resolving an input edits the intermediate files of the run, validation the two files of the engine,
and the end of a run the output. -/

namespace TidyCsv

open FileSystem Run

variable {home : Location} {touched : Location → Prop}

/-! ## Resolution -/

namespace Resolution

/-- Converting edits the file that the destination leads to, however far it gets. -/
theorem convertFile_edits (fs : FileSystem) (source destination : Path) (label : String) :
    EditsFiles (fun location => fs.fileAt? destination = some location) fs
      (convertFile fs source destination label).2 := by
  unfold convertFile convertFileBy
  dsimp only
  split
  · exact .refl fs
  · split
    · exact .refl fs
    · split
      · exact .refl fs
      · next emptied hcreate =>
          have hempty : EditsFiles _ fs emptied := .of_write hcreate
          split
          · exact hempty
          · split
            · exact hempty
            · next written hwrite =>
                have hwritten : EditsFiles _ emptied written := .of_write hwrite
                simp only [hempty.fileAt?_eq] at hwritten
                split <;> exact hempty.trans hwritten

theorem repairFile_edits {fs after : FileSystem} {source destination : Path} {sample : Nat}
    {repaired : Bool} (h : repairFile fs source destination sample = .ok (repaired, after)) :
    EditsFiles (fun location => fs.fileAt? destination = some location) fs after := by
  unfold repairFile at h
  split at h
  · simp at h
  · split at h
    · split at h
      · simp at h
      · split at h
        · obtain ⟨-, rfl⟩ : repaired = false ∧ fs = after := by simpa [eq_comm] using h
          exact .refl fs
        · next fixed _ =>
            cases hwrite : fs.write destination fixed with
            | error fault => simp [hwrite, Except.map] at h
            | ok written =>
                obtain ⟨-, rfl⟩ : repaired = true ∧ written = after := by
                  simpa [hwrite, Except.map, eq_comm] using h
                exact .of_write hwrite
    · obtain ⟨-, rfl⟩ : repaired = false ∧ fs = after := by simpa [eq_comm] using h
      exact .refl fs

variable {directory : Path} {baseName : String}

/-- The files in a directory that a run may write on the way to its output are touched. -/
def OwnTouched (home : Location) (touched : Location → Prop) (directory : Path)
    (baseName : String) : Prop :=
  ∀ ending ∈ InputReference.ownEndings,
    touched ((derivedPath directory baseName ending).location home)

/-- The intermediate files that may be made of an input are touched. -/
structure IntermediatesTouched (home : Location) (touched : Location → Prop) (directory : Path)
    (baseName : String) : Prop where
  stdin : touched ((derivedPath directory baseName "_stdin.csv").location home)
  utf8 : touched ((derivedPath directory baseName "_utf8.csv").location home)
  fixed : touched ((derivedPath directory baseName "_fixed.csv").location home)

theorem storeStdin_edits (h : IntermediatesTouched home touched directory baseName) :
    EditsOnly home touched (storeStdin directory baseName) := by
  intro world hhome
  have hstdin := h.stdin
  unfold storeStdin
  rw [on_get_bind]
  split
  · exact EditsOnly.throw _ world hhome
  · next bytes _ =>
      have hstored : EditsOnly home touched (do
          Run.register (derivedPath directory baseName "_stdin.csv")
          modify fun world => { world with stdin := .piped [] }
          Run.write (derivedPath directory baseName "_stdin.csv") bytes
          pure (derivedPath directory baseName "_stdin.csv")) := by
        refine .bind (.register hstdin) fun _ => ?_
        refine .bind (.modify fun _ => ⟨rfl, rfl⟩) fun _ => ?_
        exact .bind (.write hstdin) fun _ => .pure _
      exact hstored world hhome
  · exact (EditsOnly.bind (.register hstdin) fun _ => .throw _) world hhome

theorem convert_edits (h : IntermediatesTouched home touched directory baseName) (path : Path)
    (label : String) : EditsOnly home touched (convert directory baseName path label) := by
  have hconverted := h.utf8
  unfold convert
  split
  · refine .bind (.register hconverted) fun _ => .files_bind fun world hhome => ?_
    have hedits := (convertFile_edits world.files path (derivedPath directory baseName "_utf8.csv")
      label).of_fileAt (hhome.symm ▸ hconverted)
    rcases hresult : convertFile world.files path (derivedPath directory baseName "_utf8.csv")
      label with ⟨failure | ⟨⟩, fs⟩
    · rw [hresult] at hedits
      simp only [on_setFiles_bind]
      exact .of_files hedits rfl
    · rw [hresult] at hedits
      simp only [on_bind_pure_snd]
      exact .keep (hhome.symm ▸ hconverted) hedits
  · exact .pure _

theorem repair_edits (h : IntermediatesTouched home touched directory baseName) (path : Path)
    (sample : Option Nat) : EditsOnly home touched (repair directory baseName path sample) := by
  have hfixed := h.fixed
  unfold repair
  split
  · exact .pure _
  · next size =>
      refine .bind (.register hfixed) fun _ => .files_bind fun world hhome => ?_
      split
      · exact EditsOnly.throw _ world hhome
      · exact EditsOnly.pure _ world hhome
      · next fs hrepair =>
          have hedits := (repairFile_edits hrepair).of_fileAt (hhome.symm ▸ hfixed)
          simp only [on_bind_pure_snd]
          exact .keep (hhome.symm ▸ hfixed) hedits

theorem resolveFile_edits (h : IntermediatesTouched home touched directory baseName)
    (settings : Settings) (path : Path) :
    EditsOnly home touched (resolveFile settings directory baseName path) := by
  unfold resolveFile
  refine .files_bind fun world hhome => ?_
  split
  · exact EditsOnly.throw _ world hhome
  · next verdict _ =>
      refine (EditsOnly.bind (convert_edits h path verdict.label) fun working => ?_) world hhome
      exact .bind (repair_edits h working _) fun _ => .pure _

theorem resolve_edits (h : IntermediatesTouched home touched directory baseName)
    (reference : InputReference) (settings : Settings) :
    EditsOnly home touched (resolve reference settings directory baseName) := by
  cases reference with
  | remote url => exact .pure _
  | compressed path kind => exact .pure _
  | stdin => exact .bind (storeStdin_edits h) fun path => resolveFile_edits h settings path
  | file path => exact resolveFile_edits h settings path

end Resolution

/-! ## Validation -/

theorem Validation.run_edits {engine : Engine} (hengine : engine.EditsOnlyItsFiles)
    (source : Source) (options : ReadOptions) {staged reject : Path}
    (hstaged : touched (staged.location home)) (hreject : touched (reject.location home))
    (isRemote : Bool) (displayName : String) :
    EditsOnly home touched
      (Validation.run engine source options staged reject isRemote displayName) := by
  unfold Validation.run
  refine .files_bind fun world hhome => ?_
  have hedits : EditsFiles touched world.files
      (engine.validate world.files source options staged reject).2 := by
    refine (hengine world.files source options staged reject).mono ?_
    rintro location (rfl | rfl)
    · rwa [hhome]
    · rwa [hhome]
  rcases hresult : engine.validate world.files source options staged reject with ⟨result, fs⟩
  rw [hresult] at hedits
  simp only [on_setFiles_bind]
  have hwritten : Edits touched world { world with files := fs } := .of_files hedits rfl
  refine hwritten.trans ?_
  have hhome' : ({ world with files := fs } : World).files.home = home :=
    hedits.home_eq.trans hhome
  split
  · exact (EditsOnly.bind (.report _) fun _ => .throw _) _ hhome'
  · split
    · refine (EditsOnly.bind (.ofIo _) fun count => ?_) _ hhome'
      split
      · exact .bind (.ofIo _) fun _ => .pure _
      · exact .bind (.pure _) fun _ => .pure _
    · refine (EditsOnly.bind (.pure _) fun count => ?_) _ hhome'
      split
      · exact .bind (.ofIo _) fun _ => .pure _
      · exact .bind (.pure _) fun _ => .pure _

namespace Session

/-! ## The output -/

theorem ensure_edits (result : Except Failure Unit) : EditsOnly home touched (ensure result) := by
  unfold ensure
  split
  · exact .pure _
  · exact .throw _

theorem removeStale_edits {reject : Path} (hreject : touched (reject.location home)) :
    EditsOnly home touched (removeStale reject) := by
  unfold removeStale
  refine .files_bind fun world hhome => ?_
  cases hremove : world.files.removeIfExists reject with
  | error fault => exact .refl world
  | ok result =>
      obtain ⟨existed, fs⟩ := result
      have hedits := EditsFiles.removeIfExists hremove (hhome.symm ▸ hreject)
      exact .of_files hedits rfl

theorem emit_edits {output : Output} (houtput : ∀ path ∈ output.path?, touched (path.location home))
    (content : Bytes) : EditsOnly home touched (emit output content) := by
  cases output with
  | file path => exact .write (houtput path rfl)
  | stdout => exact .modify fun _ => ⟨rfl, rfl⟩

theorem openOutput_edits {output : Output}
    (houtput : ∀ path ∈ output.path?, touched (path.location home)) (force : Bool) :
    EditsOnly home touched (openOutput output force) := by
  unfold openOutput
  refine .files_bind fun world hhome => ?_
  refine (EditsOnly.bind (ensure_edits _) fun _ => ?_) world hhome
  cases output with
  | file path => exact .create (houtput path rfl)
  | stdout => exact .pure _

theorem writeOutput_edits {settings : Settings}
    (houtput : ∀ path ∈ settings.output.path?, touched (path.location home)) (staged : Path) :
    EditsOnly home touched (writeOutput settings staged) := by
  unfold writeOutput
  refine .bind (openOutput_edits houtput _) fun _ => .files_bind fun world hhome => ?_
  refine (EditsOnly.bind (.ofIo _) fun content => ?_) world hhome
  refine .bind (emit_edits houtput _) fun _ => ?_
  split
  · exact .pure _
  · exact .throw _

end Session

end TidyCsv
