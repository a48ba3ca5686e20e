import TidyCsv.Proofs.Run.Parts
import TidyCsv.Run.Outcome

/-! # What validation gives

Validation is a function of what the engine did. It shows a failure of the engine, and shows
nothing else. -/

namespace TidyCsv

open Run

namespace Validation

/-- The outcome that a report and the file of rejected rows stand for. -/
def outcomeOf (report : EngineReport) (fs : FileSystem) (reject : Path) : Except IoFault Outcome :=
  match if fs.contains reject then fs.countRecords reject else .ok 0 with
  | .error fault => .error fault
  | .ok count =>
    let types := if 1 < count then readErrorTypes fs reject else .ok []
    types.map fun types =>
      { hasErrors := decide (1 < count)
        rejectCount := count
        errorTypes := types
        conforming := report.conforming
        fallback := report.fallback }

variable {engine : Engine} {source : Source} {options : ReadOptions} {staged reject : Path}
  {isRemote : Bool} {displayName : String} {world : World} {fs : FileSystem}

theorem on_run_of_error {message : String}
    (h : engine.validate world.files source options staged reject = (.error message, fs)) :
    (Validation.run engine source options staged reject isRemote displayName).on world =
      (.error (.engineFailed (Category.ofMessage message isRemote) message),
        { world with
          files := fs
          events := world.events ++
            [failurePanel (Category.ofMessage message isRemote) displayName message] }) := by
  unfold Validation.run
  rw [on_files_bind, h]
  simp only [on_setFiles_bind]
  rw [on_bind_of_ok (on_report _ _), on_throw]

theorem on_run_of_ok {report : EngineReport}
    (h : engine.validate world.files source options staged reject = (.ok report, fs)) :
    (Validation.run engine source options staged reject isRemote displayName).on world =
      ((outcomeOf report fs reject).mapError .io, { world with files := fs }) := by
  unfold Validation.run outcomeOf
  rw [on_files_bind, h]
  simp only [on_setFiles_bind]
  cases fs.contains reject with
  | false => rfl
  | true =>
      cases fs.countRecords reject with
      | error fault => rfl
      | ok count =>
          simp only [if_true, on_ofIo_ok_bind]
          split
          · cases readErrorTypes fs reject <;> rfl
          · rfl

theorem run_ok {outcome : Outcome} {after : World}
    (h : (Validation.run engine source options staged reject isRemote displayName).on world =
      (.ok outcome, after)) :
    ∃ report fs, engine.validate world.files source options staged reject = (.ok report, fs) ∧
      outcomeOf report fs reject = .ok outcome ∧ after = { world with files := fs } := by
  rcases hresult : engine.validate world.files source options staged reject with
    ⟨message | report, fs⟩
  · rw [on_run_of_error hresult] at h
    simp at h
  · rw [on_run_of_ok hresult] at h
    obtain ⟨houtcome, rfl⟩ := Prod.mk.inj h
    refine ⟨report, fs, rfl, ?_, rfl⟩
    cases hfound : outcomeOf report fs reject with
    | error fault => simp [hfound, Except.mapError] at houtcome
    | ok found => simpa [hfound, Except.mapError] using houtcome

theorem run_error {failure : Failure} {after : World}
    (h : (Validation.run engine source options staged reject isRemote displayName).on world =
      (.error failure, after)) :
    (∃ category message, failure = .engineFailed category message) ∨
      ∃ fault, failure = .io fault := by
  rcases hresult : engine.validate world.files source options staged reject with
    ⟨message | report, fs⟩
  · rw [on_run_of_error hresult] at h
    exact .inl ⟨_, _, (Except.error.inj (Prod.mk.inj h).1).symm⟩
  · rw [on_run_of_ok hresult] at h
    cases hfound : outcomeOf report fs reject with
    | ok outcome => simp [hfound, Except.mapError] at h
    | error fault =>
        rw [hfound] at h
        exact .inr ⟨fault, (Except.error.inj (Prod.mk.inj h).1).symm⟩

/-- Validation changes the files as its engine does, and no registered path. -/
theorem on_run_snd (engine : Engine) (source : Source) (options : ReadOptions)
    (staged reject : Path) (isRemote : Bool) (displayName : String) (world : World) :
    ∃ shown,
      ((Validation.run engine source options staged reject isRemote displayName).on world).2 =
        { world with
          files := (engine.validate world.files source options staged reject).2
          events := world.events ++ shown } := by
  rcases hresult : engine.validate world.files source options staged reject with
    ⟨message | report, fs⟩
  · exact ⟨_, by rw [on_run_of_error hresult]⟩
  · exact ⟨[], by rw [on_run_of_ok hresult, List.append_nil]⟩

end Validation

end TidyCsv
