import TidyCsv.Proofs.Run.Stages
import TidyCsv.Proofs.Run.Validation

/-! # Parts of a run that show nothing

Apart from validation, policy and the summary, no part of a run shows anything, and no failure of
such a part counts as shown. The same holds of other views of the world: parts that work on files
leave the registered paths and standard output alone. -/

namespace TidyCsv

namespace Run

variable {α β γ : Type}

theorem view_bind (view : World → γ) {part : Run α} {next : α → Run β}
    (hnext : ∀ a world, view ((next a).on world).2 = view world) (world : World) :
    view ((part >>= next).on world).2 = view (part.on world).2 := by
  rcases hresult : part.on world with ⟨failure | a, middle⟩
  · rw [on_bind_of_error hresult]
  · rw [on_bind_of_ok hresult]
    exact hnext a middle

/-- A part leaves a view of the world as it is, and none of its failures has been shown. -/
structure Silent (view : World → γ) (part : Run α) : Prop where
  view_eq : ∀ world, view (part.on world).2 = view world
  unreported : ∀ world failure, (part.on world).1 = .error failure →
    failure.alreadyReported = false

namespace Silent

variable {view : World → γ} {part : Run α} {world after : World}

theorem view_of_on (h : Silent view part) {result : Except Failure α}
    (hon : part.on world = (result, after)) : view after = view world := by
  have hview := h.view_eq world
  rwa [hon] at hview

theorem unreported_of_on (h : Silent view part) {failure : Failure}
    (hon : part.on world = (.error failure, after)) : failure.alreadyReported = false :=
  h.unreported world failure (by rw [hon])

theorem pure (a : α) : Silent view (Pure.pure a : Run α) :=
  ⟨fun _ => rfl, fun _ _ h => by simp at h⟩

theorem throw {failure : Failure} (h : failure.alreadyReported = false) :
    Silent view (throw failure : Run α) := by
  refine ⟨fun _ => rfl, fun world found hfound => ?_⟩
  obtain rfl : failure = found := by simpa using hfound
  exact h

theorem ofIo (result : Except IoFault α) : Silent view (Run.ofIo result) := by
  cases result with
  | ok a => exact .pure a
  | error fault => exact .throw rfl

theorem files : Silent view files := ⟨fun _ => rfl, fun _ _ h => by simp at h⟩

theorem get : Silent view (MonadState.get : Run World) := ⟨fun _ => rfl, fun _ _ h => by simp at h⟩

theorem modify {f : World → World} (hf : ∀ world, view (f world) = view world) :
    Silent view (modify f : Run Unit) :=
  ⟨hf, fun _ _ h => by simp at h⟩

theorem bind {next : α → Run β} (hpart : Silent view part) (hnext : ∀ a, Silent view (next a)) :
    Silent view (part >>= next) := by
  constructor
  · intro world
    rw [view_bind view fun a => (hnext a).view_eq]
    exact hpart.view_eq world
  · intro world failure hfailure
    rcases hresult : part.on world with ⟨found | a, middle⟩
    · obtain rfl : found = failure := by simpa [on_bind_of_error hresult] using hfailure
      exact hpart.unreported_of_on hresult
    · rw [on_bind_of_ok hresult] at hfailure
      exact (hnext a).unreported middle failure hfailure

theorem setFiles (hfiles : ∀ world fs, view { world with files := fs } = view world)
    (fs : FileSystem) : Silent view (setFiles fs) :=
  .modify fun world => hfiles world fs

theorem keep (hfiles : ∀ world fs, view { world with files := fs } = view world)
    {asFailure : IoFault → Failure} (hfailure : ∀ fault, (asFailure fault).alreadyReported = false)
    (p : Path) (fs : FileSystem) : Silent view (keep asFailure p fs) := by
  unfold Run.keep
  refine .bind .get fun world => .bind (.setFiles hfiles _) fun _ => ?_
  split
  · exact .pure _
  · exact .throw (hfailure _)

theorem write (hfiles : ∀ world fs, view { world with files := fs } = view world) (p : Path)
    (content : Bytes) : Silent view (write p content) := by
  unfold Run.write
  exact .bind .files fun fs => .bind (.ofIo _) fun written => .keep hfiles (fun _ => rfl) p written

theorem create (hfiles : ∀ world fs, view { world with files := fs } = view world) (p : Path) :
    Silent view (create p) := by
  unfold Run.create
  exact .bind .files fun fs => .bind (.ofIo _) fun created => .setFiles hfiles created

end Silent

end Run

open Run

variable {γ : Type} {view : World → γ}
  (hfiles : ∀ world fs, view { world with files := fs } = view world)

/-! ## Resolution -/

namespace Resolution

theorem detectFile_unreported {fs : FileSystem} {path : Path} {failure : Failure}
    (h : detectFile fs path = .error failure) : failure.alreadyReported = false := by
  unfold detectFile at h
  split at h
  · cases h
    rfl
  · split at h
    · simp at h
    · cases h
      rfl

theorem convertFile_unreported {fs after : FileSystem} {source destination : Path}
    {label : String} {failure : Failure}
    (h : convertFile fs source destination label = (.error failure, after)) :
    failure.alreadyReported = false := by
  unfold convertFile convertFileBy at h
  dsimp only at h
  split at h
  · cases h
    rfl
  · split at h
    · cases h
      rfl
    · split at h
      · cases h
        rfl
      · split at h
        · cases h
          rfl
        · split at h
          · cases h
            rfl
          · split at h
            · cases h
              rfl
            · simp at h

variable (htemps : ∀ world p, view { world with temps := world.temps.register p } = view world)
  (directory : Path) (baseName : String)

include hfiles htemps

theorem storeStdin_silent
    (hstdin : ∀ world stdin, view { world with stdin := stdin } = view world) :
    Silent view (storeStdin directory baseName) := by
  unfold storeStdin
  refine .bind .get fun world => ?_
  split
  · exact .throw rfl
  · refine .bind (.modify fun world => htemps world _) fun _ => ?_
    refine .bind (.modify fun world => hstdin world _) fun _ => ?_
    exact .bind (.write hfiles _ _) fun _ => .pure _
  · exact .bind (.modify fun world => htemps world _) fun _ => .throw rfl

theorem convert_silent (path : Path) (label : String) :
    Silent view (convert directory baseName path label) := by
  unfold convert
  split
  · refine .bind (.modify fun world => htemps world _) fun _ => .bind .files fun fs => ?_
    rcases hresult : convertFile fs path (derivedPath directory baseName "_utf8.csv") label
      with ⟨failure | ⟨⟩, converted⟩
    · exact .bind (.setFiles hfiles converted) fun _ => .throw (convertFile_unreported hresult)
    · exact .bind (.keep hfiles (fun _ => rfl) _ converted) fun _ => .pure _
  · exact .pure _

theorem repair_silent (path : Path) (sample : Option Nat) :
    Silent view (repair directory baseName path sample) := by
  unfold repair
  split
  · exact .pure _
  · refine .bind (.modify fun world => htemps world _) fun _ => .bind .files fun fs => ?_
    split
    · exact .throw rfl
    · exact .pure _
    · exact .bind (.keep hfiles (fun _ => rfl) _ _) fun _ => .pure _

theorem resolveFile_silent (settings : Settings) (path : Path) :
    Silent view (resolveFile settings directory baseName path) := by
  unfold resolveFile
  refine .bind .files fun fs => ?_
  split
  · next hdetect => exact .throw (detectFile_unreported hdetect)
  · refine .bind (convert_silent hfiles htemps directory baseName path _) fun working => ?_
    exact .bind (repair_silent hfiles htemps directory baseName working _) fun _ => .pure _

theorem resolve_silent (hstdin : ∀ world stdin, view { world with stdin := stdin } = view world)
    (reference : InputReference) (settings : Settings) :
    Silent view (resolve reference settings directory baseName) := by
  cases reference with
  | remote url => exact .pure _
  | compressed path kind => exact .pure _
  | stdin =>
      refine .bind (storeStdin_silent hfiles htemps directory baseName hstdin) fun path => ?_
      exact resolveFile_silent hfiles htemps directory baseName settings path
  | file path => exact resolveFile_silent hfiles htemps directory baseName settings path

end Resolution

namespace Session

/-! ## Checks -/

theorem checkInput_unreported {fs : FileSystem} {reference : InputReference} {failure : Failure}
    (h : checkInput fs reference = .error failure) : failure.alreadyReported = false := by
  unfold checkInput at h
  split at h
  · simp at h
  · split at h
    · cases h
      rfl
    · split at h
      · cases h
        rfl
      · simp at h

theorem checkStdin_unreported {stdin : Stdin} {reference : InputReference} {failure : Failure}
    (h : checkStdin stdin reference = .error failure) : failure.alreadyReported = false := by
  unfold checkStdin at h
  split at h
  · cases h
    rfl
  · simp at h

theorem checkOutput_unreported {fs : FileSystem} {output : Output} {force : Bool}
    {failure : Failure} (h : checkOutput fs output force = .error failure) :
    failure.alreadyReported = false := by
  unfold checkOutput at h
  split at h
  · split at h
    · cases h
      rfl
    · simp at h
  · simp at h

theorem settings_unreported {options : Options} {home : Path} {baseName : String}
    {failure : Failure} (h : options.settings home baseName = .error failure) :
    failure.alreadyReported = false := by
  unfold Options.settings at h
  split at h
  · cases h
    rfl
  · simp at h

theorem ensure_silent {result : Except Failure Unit}
    (h : ∀ failure, result = .error failure → failure.alreadyReported = false) :
    Silent view (ensure result) := by
  cases result with
  | ok _ => exact .pure ()
  | error failure => exact .throw (h failure rfl)

theorem prepare_silent (reference : InputReference) (options : Options) (baseName : String) :
    Silent view (prepare reference options baseName) := by
  unfold prepare
  refine .bind .get fun world => ?_
  refine .bind (ensure_silent fun _ => checkInput_unreported) fun _ => ?_
  refine .bind (ensure_silent fun _ => checkStdin_unreported) fun _ => ?_
  split
  · next hsettings => exact .throw (settings_unreported hsettings)
  · split
    · exact .pure _
    · exact .bind (ensure_silent fun _ => checkOutput_unreported) fun _ => .pure _

include hfiles

theorem makeOutputDir_silent (output : Output) : Silent view (makeOutputDir output) := by
  unfold makeOutputDir
  split
  · refine .bind .files fun fs => ?_
    split
    · exact .pure _
    · exact .bind (.setFiles hfiles _) fun _ => .ofIo _
  · exact .pure _

theorem removeStale_silent (reject : Path) : Silent view (removeStale reject) := by
  unfold removeStale
  exact .bind .files fun fs => .bind (.ofIo _) fun _ => .setFiles hfiles _

theorem getReady_silent (session : Session) (argument : String) (options : Options) :
    Silent view (session.getReady argument options) := by
  unfold getReady
  refine .bind (prepare_silent _ options _) fun settings => ?_
  have hlast : Silent view (do
      removeStale (session.reject settings (.ofArgument argument))
      pure settings) := .bind (removeStale_silent hfiles _) fun _ => .pure _
  split
  · exact hlast
  · exact .bind (makeOutputDir_silent hfiles _) fun _ => hlast

/-! ## The output -/

variable (hstdout : ∀ world stdout, view { world with stdout := stdout } = view world)

include hstdout in
theorem emit_silent (output : Output) (content : Bytes) : Silent view (emit output content) := by
  cases output with
  | file path => exact .write hfiles path content
  | stdout => exact .modify fun world => hstdout world _

theorem openOutput_silent (output : Output) (force : Bool) :
    Silent view (openOutput output force) := by
  unfold openOutput
  refine .bind .files fun fs => ?_
  refine .bind (ensure_silent fun _ => checkOutput_unreported) fun _ => ?_
  cases output with
  | file path => exact .create hfiles path
  | stdout => exact .pure _

include hstdout in
theorem writeOutput_silent (settings : Settings) (staged : Path) :
    Silent view (writeOutput settings staged) := by
  unfold writeOutput
  refine .bind (openOutput_silent hfiles _ _) fun _ => .bind .files fun fs => ?_
  refine .bind (.ofIo _) fun content => .bind (emit_silent hfiles hstdout _ _) fun _ => ?_
  split
  · exact .pure _
  · exact .throw rfl

variable (hevents : ∀ world events, view { world with events := events } = view world)

include hevents in
/-- An assessment may show something even if it fails, and leaves everything else alone. -/
theorem assess_view
    (htemps : ∀ world p, view { world with temps := world.temps.register p } = view world)
    (hstdin : ∀ world stdin, view { world with stdin := stdin } = view world) (session : Session)
    (settings : Settings) (reference : InputReference) (start : World) :
    view ((session.assess settings reference).on start).2 = view start := by
  have hresolve := Resolution.resolve_silent hfiles htemps (session.directory settings)
    reference.baseName hstdin reference settings
  unfold assess
  rw [on_bind_of_ok (on_register _ _), view_bind view, hresolve.view_eq, htemps]
  intro resolved middle
  rw [view_bind view fun _ _ => hevents _ _]
  obtain ⟨shown, hafter⟩ := Validation.on_run_snd session.engine resolved.source
    { skipRows := settings.skipRows } (session.staged settings reference)
    (session.reject settings reference) reference.isRemote reference.displayName middle
  rw [hafter]
  exact (hevents { middle with files := _ } _).trans (hfiles middle _)

include hstdout hevents in
theorem finish_silent (session : Session) (reference : InputReference) (settings : Settings)
    (resolved : Resolved) (outcome : Outcome) (staged reject : Path) :
    Silent view (finish session reference settings resolved outcome staged reject) := by
  unfold finish
  refine .bind (writeOutput_silent hfiles hstdout settings staged) fun stats => ?_
  exact .bind .files fun fs => .modify fun world => hevents world _

include hstdout hevents in
theorem settle_view (session : Session) (settings : Settings) (reference : InputReference)
    (resolved : Resolved) (outcome : Outcome) (judged : World) :
    view ((session.settle settings reference resolved outcome).on judged).2 = view judged := by
  have hfinish := (finish_silent hfiles hstdout hevents session reference settings resolved outcome
    (session.staged settings reference) (session.reject settings reference)).view_eq judged
  unfold settle
  cases Policy.decide outcome settings with
  | proceed => exact hfinish
  | proceedWithWarnings failAfter =>
      refine (view_bind view (fun _ world => ?_) judged).trans hfinish
      cases failAfter <;> rfl
  | halt success => cases success <;> rfl

end Session

end TidyCsv
