import TidyCsv.Proofs.Storage.Disk
import TidyCsv.Run.World

/-! # Parts of a run

What the parts that a run is composed of do to the world, and which files they edit. A part that
edits touched files only may register touched paths only, so that tidying up edits no others. -/

namespace TidyCsv

open FileSystem

namespace Run

/-! ## Equations -/

variable {α β : Type}

@[simp] theorem on_pure (a : α) (world : World) : (pure a : Run α).on world = (.ok a, world) := rfl

@[simp] theorem on_throw (failure : Failure) (world : World) :
    (throw failure : Run α).on world = (.error failure, world) := rfl

@[simp] theorem on_get (world : World) : (get : Run World).on world = (.ok world, world) := rfl

@[simp] theorem on_modify (f : World → World) (world : World) :
    (modify f : Run Unit).on world = (.ok (), f world) := rfl

@[simp] theorem on_files (world : World) : files.on world = (.ok world.files, world) := rfl

@[simp] theorem on_setFiles (fs : FileSystem) (world : World) :
    (setFiles fs).on world = (.ok (), { world with files := fs }) := rfl

@[simp] theorem on_register (p : Path) (world : World) :
    (register p).on world = (.ok (), { world with temps := world.temps.register p }) := rfl

@[simp] theorem on_report (event : Event) (world : World) :
    (report event).on world = (.ok (), { world with events := world.events ++ [event] }) := rfl

@[simp] theorem on_reportAll (events : List Event) (world : World) :
    (reportAll events).on world = (.ok (), { world with events := world.events ++ events }) := rfl

@[simp] theorem on_ofIo_ok (a : α) (world : World) :
    (ofIo (.ok a) : Run α).on world = (.ok a, world) := rfl

@[simp] theorem on_ofIo_error (fault : IoFault) (world : World) :
    (ofIo (.error fault) : Run α).on world = (.error (.io fault), world) := rfl

theorem on_bind (part : Run α) (next : α → Run β) (world : World) :
    (part >>= next).on world =
      match part.on world with
      | (.ok a, world) => (next a).on world
      | (.error failure, world) => (.error failure, world) := by
  change (part >>= next) world = match part world with
    | (.ok a, world) => next a world
    | (.error failure, world) => (.error failure, world)
  simp only [bind, ExceptT.bind, ExceptT.mk, StateT.bind, ExceptT.bindCont]
  rcases part world with ⟨_ | a, world⟩ <;> rfl

/-- What the first part leaves, and what the second one leaves after that, is what a composition
leaves. -/
theorem on_bind_snd {P : World → Prop} {part : Run α} {next : α → Run β} {world : World}
    (hpart : P (part.on world).2) (hnext : ∀ a, P ((next a).on (part.on world).2).2) :
    P ((part >>= next).on world).2 := by
  rw [on_bind]
  rcases hresult : part.on world with ⟨_ | a, middle⟩
  · simpa [hresult] using hpart
  · simpa [hresult] using hnext a

/-- A result that is computed of another one leaves what that one leaves. -/
@[simp] theorem on_bind_pure_snd (part : Run α) (f : α → β) (world : World) :
    ((part >>= fun a => pure (f a)).on world).2 = (part.on world).2 := by
  rw [on_bind]
  rcases part.on world with ⟨_ | a, after⟩ <;> rfl

theorem on_bind_of_ok {part : Run α} {next : α → Run β} {world after : World} {a : α}
    (h : part.on world = (.ok a, after)) : (part >>= next).on world = (next a).on after := by
  rw [on_bind, h]

theorem on_bind_of_error {part : Run α} {next : α → Run β} {world after : World}
    {failure : Failure} (h : part.on world = (.error failure, after)) :
    (part >>= next).on world = (.error failure, after) := by
  rw [on_bind, h]

theorem on_bind_eq_ok_iff {part : Run α} {next : α → Run β} {world last : World} {b : β} :
    (part >>= next).on world = (.ok b, last) ↔
      ∃ a middle, part.on world = (.ok a, middle) ∧ (next a).on middle = (.ok b, last) := by
  rw [on_bind]
  constructor
  · intro h
    rcases hpart : part.on world with ⟨_ | a, middle⟩
    · simp [hpart] at h
    · exact ⟨a, middle, rfl, by simpa [hpart] using h⟩
  · rintro ⟨a, middle, hpart, hnext⟩
    rw [hpart]
    exact hnext

@[simp] theorem on_files_bind (next : FileSystem → Run β) (world : World) :
    (files >>= next).on world = (next world.files).on world :=
  on_bind_of_ok (on_files world)

@[simp] theorem on_get_bind (next : World → Run β) (world : World) :
    (get >>= next : Run β).on world = (next world).on world :=
  on_bind_of_ok (on_get world)

@[simp] theorem on_setFiles_bind (fs : FileSystem) (next : Unit → Run β) (world : World) :
    (setFiles fs >>= next).on world = (next ()).on { world with files := fs } :=
  on_bind_of_ok (on_setFiles fs world)

@[simp] theorem on_ofIo_ok_bind (a : α) (next : α → Run β) (world : World) :
    (ofIo (.ok a) >>= next).on world = (next a).on world :=
  on_bind_of_ok (on_ofIo_ok a world)

@[simp] theorem on_ofIo_error_bind (fault : IoFault) (next : α → Run β) (world : World) :
    (ofIo (.error fault) >>= next).on world = (.error (.io fault), world) :=
  on_bind_of_error (on_ofIo_error fault world)

theorem on_keep (asFailure : IoFault → Failure) (p : Path) (fs : FileSystem) (world : World) :
    (keep asFailure p fs).on world =
      ((world.disk.hold p fs).1.mapError asFailure,
        { world with files := (world.disk.hold p fs).2 }) := by
  simp only [keep, on_get_bind, on_setFiles_bind]
  rcases world.disk.hold p fs with ⟨fault | ⟨⟩, held⟩ <;> rfl

theorem on_keep_bind (asFailure : IoFault → Failure) (p : Path) (fs : FileSystem)
    (next : Unit → Run β) (world : World) :
    (keep asFailure p fs >>= next).on world =
      match world.disk.hold p fs with
      | (.ok (), held) => (next ()).on { world with files := held }
      | (.error fault, held) => (.error (asFailure fault), { world with files := held }) := by
  rw [on_bind, on_keep]
  rcases world.disk.hold p fs with ⟨fault | ⟨⟩, held⟩ <;> rfl

/-- Files are kept as they were written where the disk has no flaw. -/
theorem on_keep_of_flawless {p : Path} {fs : FileSystem} {world : World}
    (h : world.disk.flawAt? (p.location fs.home) = none) (asFailure : IoFault → Failure) :
    (keep asFailure p fs).on world = (.ok (), { world with files := fs }) := by
  rw [on_keep, Disk.hold_of_flawless h]
  rfl

theorem keep_ok {asFailure : IoFault → Failure} {p : Path} {fs : FileSystem} {world after : World}
    (h : (keep asFailure p fs).on world = (.ok (), after)) :
    world.disk.flawAt? (p.location fs.home) = none ∧ after = { world with files := fs } := by
  rw [on_keep] at h
  rcases hhold : world.disk.hold p fs with ⟨fault | ⟨⟩, held⟩
  · simp [hhold, Except.mapError] at h
  · obtain ⟨hflawless, rfl⟩ := Disk.hold_eq_ok_iff.mp hhold
    rw [hhold] at h
    exact ⟨hflawless, (Prod.mk.inj h).2.symm⟩

theorem on_write (p : Path) (content : Bytes) (world : World) :
    (write p content).on world =
      match world.files.write p content with
      | .ok fs => (keep .io p fs).on world
      | .error fault => (.error (.io fault), world) := by
  simp only [write, on_files_bind]
  cases world.files.write p content <;> simp

theorem on_create (p : Path) (world : World) :
    (create p).on world =
      match world.files.create p with
      | .ok fs => (.ok (), { world with files := fs })
      | .error fault => (.error (.io fault), world) := by
  simp only [create, on_files_bind]
  cases world.files.create p <;> simp

theorem write_ok {p : Path} {content : Bytes} {world after : World}
    (h : (write p content).on world = (.ok (), after)) :
    ∃ location, world.files.Writable p location ∧
      world.disk.flawAt? (p.location world.files.home) = none ∧
      after = { world with files := world.files.put location (.file content) } := by
  rw [on_write] at h
  split at h
  · next fs hwrite =>
      obtain ⟨location, hwritable, rfl⟩ := write_eq_ok_iff.mp hwrite
      exact ⟨location, hwritable, keep_ok h⟩
  · simp at h

theorem create_ok {p : Path} {world after : World}
    (h : (create p).on world = (.ok (), after)) :
    ∃ location, world.files.Writable p location ∧
      after = { world with files := world.files.put location (.file []) } := by
  rw [on_create] at h
  split at h
  · next fs hcreate =>
      obtain ⟨location, hwritable, rfl⟩ := write_eq_ok_iff.mp hcreate
      exact ⟨location, hwritable, (Prod.mk.inj h).2.symm⟩
  · simp at h

theorem on_tidying (reject : Path) (part : Run α) (world : World) :
    (tidying reject part).on world =
      ((part.on world).1,
        { (part.on world).2 with
          files := (part.on world).2.files.tidy (part.on world).2.temps (some reject)
          temps := .empty }) := rfl

/-! ## Editing -/

/-- Touched files are edited at most, and touched paths are registered at most. -/
structure Edits (touched : Location → Prop) (before after : World) : Prop where
  files : EditsFiles touched before.files after.files
  temps : ∀ p ∈ after.temps.paths, p ∈ before.temps.paths ∨ touched (p.location before.files.home)

namespace Edits

variable {touched : Location → Prop} {before middle after : World}

theorem refl (world : World) : Edits touched world world := ⟨.refl _, fun _ hp => .inl hp⟩

theorem trans (h : Edits touched before middle) (h' : Edits touched middle after) :
    Edits touched before after := by
  refine ⟨h.files.trans h'.files, fun p hp => ?_⟩
  rcases h'.temps p hp with hold | hnew
  · exact h.temps p hold
  · rw [h.files.home_eq] at hnew
    exact .inr hnew

theorem of_files (h : EditsFiles touched before.files after.files)
    (htemps : after.temps = before.temps) : Edits touched before after :=
  ⟨h, fun _ hp => .inl (htemps ▸ hp)⟩

/-- What is kept of a file that was written is at its path. -/
theorem keep {p : Path} {fs : FileSystem} {world : World} {asFailure : IoFault → Failure}
    (hp : touched (p.location world.files.home)) (h : EditsFiles touched world.files fs) :
    Edits touched world ((Run.keep asFailure p fs).on world).2 := by
  rw [on_keep]
  exact .of_files (h.trans (Disk.hold_edits (h.home_eq.symm ▸ hp))) rfl

end Edits

/-- Wherever paths start from `home`, a part edits touched files only. -/
def EditsOnly (home : Location) (touched : Location → Prop) (part : Run α) : Prop :=
  ∀ world, world.files.home = home → Edits touched world (part.on world).2

namespace EditsOnly

variable {home : Location} {touched : Location → Prop} {part : Run α}

theorem pure (a : α) : EditsOnly home touched (Pure.pure a : Run α) := fun world _ => .refl world

theorem throw (failure : Failure) : EditsOnly home touched (throw failure : Run α) :=
  fun world _ => .refl world

theorem ofIo (result : Except IoFault α) : EditsOnly home touched (Run.ofIo result) := by
  intro world _
  cases result <;> exact .refl world

theorem modify {f : World → World}
    (hf : ∀ world, (f world).files = world.files ∧ (f world).temps = world.temps) :
    EditsOnly home touched (modify f : Run Unit) := by
  intro world _
  refine .of_files ?_ (hf world).2
  change EditsFiles touched world.files (f world).files
  rw [(hf world).1]
  exact .refl _

theorem report (event : Event) : EditsOnly home touched (Run.report event) :=
  modify fun _ => ⟨rfl, rfl⟩

theorem reportAll (events : List Event) : EditsOnly home touched (Run.reportAll events) :=
  modify fun _ => ⟨rfl, rfl⟩

theorem bind {next : α → Run β} (hpart : EditsOnly home touched part)
    (hnext : ∀ a, EditsOnly home touched (next a)) : EditsOnly home touched (part >>= next) := by
  intro world hhome
  have hfirst := hpart world hhome
  refine on_bind_snd (P := Edits touched world) hfirst fun a => ?_
  exact hfirst.trans (hnext a _ (hfirst.files.home_eq.trans hhome))

/-- A part that starts from the files as they are. -/
theorem files_bind {next : FileSystem → Run β}
    (hnext : ∀ world, world.files.home = home →
      Edits touched world ((next world.files).on world).2) :
    EditsOnly home touched (files >>= next) := by
  intro world hhome
  rw [on_files_bind]
  exact hnext world hhome

theorem files_of_on (h : EditsOnly home touched part) {world after : World}
    {result : Except Failure α} (hon : part.on world = (result, after))
    (hhome : world.files.home = home) : EditsFiles touched world.files after.files := by
  have hedits := h world hhome
  rw [hon] at hedits
  exact hedits.files

theorem register {p : Path} (hp : touched (p.location home)) :
    EditsOnly home touched (Run.register p) := by
  intro world hhome
  refine ⟨.refl _, fun q hq => ?_⟩
  simp only [on_register, TempFiles.register] at hq
  split at hq
  · exact .inl hq
  · rcases List.mem_append.mp hq with hold | hnew
    · exact .inl hold
    · obtain rfl : q = p := by simpa using hnew
      exact .inr (hhome ▸ hp)

theorem write {p : Path} {content : Bytes} (hp : touched (p.location home)) :
    EditsOnly home touched (Run.write p content) := by
  intro world hhome
  rw [on_write]
  split
  · next hwrite => exact .keep (hhome ▸ hp) (.write hwrite (hhome ▸ hp))
  · exact .refl world

theorem create {p : Path} (hp : touched (p.location home)) :
    EditsOnly home touched (Run.create p) := by
  intro world hhome
  rw [on_create]
  split
  · next hcreate => exact .of_files (.write hcreate (hhome ▸ hp)) rfl
  · exact .refl world

/-- Tidying up after a part edits touched files only, if no others were registered before. -/
theorem tidying {reject : Path} (hpart : EditsOnly home touched part)
    (hreject : touched (reject.location home)) {world : World} (hhome : world.files.home = home)
    (htemps : ∀ p ∈ world.temps.paths, touched (p.location home)) :
    EditsFiles touched world.files ((Run.tidying reject part).on world).2.files := by
  have hedits := hpart world hhome
  have hhome' : (part.on world).2.files.home = home := hedits.files.home_eq.trans hhome
  rw [on_tidying]
  refine hedits.files.trans (.tidy ?_ ?_)
  · intro p hp
    rw [hhome']
    rcases hedits.temps p hp with hold | hnew
    · exact htemps p hold
    · exact hhome ▸ hnew
  · rw [hhome']
    exact hreject

end EditsOnly

end Run

end TidyCsv
