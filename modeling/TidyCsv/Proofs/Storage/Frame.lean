import TidyCsv.Proofs.Storage.FileSystem
import TidyCsv.Storage.TempFiles

/-! # What operations leave alone

Writing and removing files touches no directory and no other file, and making directories adds
entries only. Both relations are closed under composition, so they hold of whole runs. -/

namespace TidyCsv

namespace FileSystem

/-! ## Editing files -/

/-- The file systems differ in files at touched locations at most. -/
structure EditsFiles (touched : Location → Prop) (before after : FileSystem) : Prop where
  home_eq : after.home = before.home
  directory_iff : ∀ location, after.entryAt? location = some .directory ↔
    before.entryAt? location = some .directory
  entry_eq : ∀ location, ¬ touched location →
    after.entryAt? location = before.entryAt? location

namespace EditsFiles

variable {touched : Location → Prop} {before middle after : FileSystem}

theorem refl (fs : FileSystem) : EditsFiles touched fs fs :=
  ⟨rfl, fun _ => Iff.rfl, fun _ _ => rfl⟩

theorem trans (h : EditsFiles touched before middle) (h' : EditsFiles touched middle after) :
    EditsFiles touched before after :=
  ⟨h'.home_eq.trans h.home_eq, fun location => (h'.directory_iff location).trans
    (h.directory_iff location), fun location hl => (h'.entry_eq location hl).trans
    (h.entry_eq location hl)⟩

theorem mono {more : Location → Prop} (h : EditsFiles touched before after)
    (hmore : ∀ location, touched location → more location) : EditsFiles more before after :=
  ⟨h.home_eq, h.directory_iff, fun location hl => h.entry_eq location fun ht =>
    hl (hmore location ht)⟩

theorem keepsDirectories (h : EditsFiles touched before after) :
    KeepsDirectories before after :=
  ⟨h.home_eq, fun location => (h.directory_iff location).mpr⟩

theorem keepsDirectories_symm (h : EditsFiles touched before after) :
    KeepsDirectories after before :=
  ⟨h.home_eq.symm, fun location => (h.directory_iff location).mp⟩

theorem fileAt?_eq (h : EditsFiles touched before after) (p : Path) :
    after.fileAt? p = before.fileAt? p := by
  cases hbefore : before.fileAt? p with
  | some location => exact h.keepsDirectories.fileAt? hbefore
  | none =>
      cases hafter : after.fileAt? p with
      | none => rfl
      | some location => exact absurd (h.keepsDirectories_symm.fileAt? hafter) (by simp [hbefore])

theorem read_eq_ok_iff (h : EditsFiles touched before after) {p : Path}
    (hp : ∀ location, before.fileAt? p = some location → ¬ touched location) {content : Bytes} :
    after.read p = .ok content ↔ before.read p = .ok content := by
  rw [FileSystem.read_eq_ok_iff, FileSystem.read_eq_ok_iff, h.fileAt?_eq]
  constructor
  · rintro ⟨location, hfile, hentry⟩
    exact ⟨location, hfile, (h.entry_eq location (hp location hfile)).symm.trans hentry⟩
  · rintro ⟨location, hfile, hentry⟩
    exact ⟨location, hfile, (h.entry_eq location (hp location hfile)).trans hentry⟩

theorem toOption_read (h : EditsFiles touched before after) {p : Path}
    (hp : ∀ location, before.fileAt? p = some location → ¬ touched location) :
    (after.read p).toOption = (before.read p).toOption := by
  have hsame : ∀ content, after.read p = .ok content ↔ before.read p = .ok content :=
    fun _ => h.read_eq_ok_iff hp
  cases hbefore : before.read p with
  | ok content => rw [(hsame content).mpr hbefore]
  | error fault =>
      cases hafter : after.read p with
      | ok content => simp [(hsame content).mp hafter] at hbefore
      | error _ => rfl

theorem writable_iff (h : EditsFiles touched before after) {p : Path} {location : Location} :
    after.Writable p location ↔ before.Writable p location := by
  constructor
  · rintro ⟨hfile, hentry⟩
    exact ⟨(h.fileAt?_eq p).symm.trans hfile, fun hd => hentry ((h.directory_iff location).mpr hd)⟩
  · rintro ⟨hfile, hentry⟩
    exact ⟨(h.fileAt?_eq p).trans hfile, fun hd => hentry ((h.directory_iff location).mp hd)⟩

theorem put {fs : FileSystem} {location : Location} {content : Bytes} (hne : location ≠ [])
    (hfile : fs.entryAt? location ≠ some .directory) (htouched : touched location) :
    EditsFiles touched fs (fs.put location (.file content)) := by
  refine ⟨rfl, ?_, ?_⟩
  · intro other
    rw [entryAt?_put fs hne]
    split
    · next heq => simp [heq, hfile]
    · rfl
  · intro other hother
    have hdiffer : other ≠ location := by
      rintro rfl
      exact hother htouched
    rw [entryAt?_put fs hne, if_neg hdiffer]

theorem erase {fs : FileSystem} {location : Location} (hne : location ≠ [])
    (hfile : fs.entryAt? location ≠ some .directory) (htouched : touched location) :
    EditsFiles touched fs (fs.erase location) := by
  refine ⟨rfl, ?_, ?_⟩
  · intro other
    rw [entryAt?_erase fs hne]
    split
    · next heq => simp [heq, hfile]
    · rfl
  · intro other hother
    have hdiffer : other ≠ location := by
      rintro rfl
      exact hother htouched
    rw [entryAt?_erase fs hne, if_neg hdiffer]

variable {fs : FileSystem} {p : Path}

theorem of_write {content : Bytes} (h : fs.write p content = .ok after) :
    EditsFiles (fun location => fs.fileAt? p = some location) fs after := by
  obtain ⟨location, hwritable, rfl⟩ := write_eq_ok_iff.mp h
  exact put hwritable.ne_nil hwritable.entry hwritable.fileAt

/-- What is done to the file that a path leads to is done to one that is touched. -/
theorem of_fileAt (h : EditsFiles (fun location => fs.fileAt? p = some location) fs after)
    (hp : touched (p.location fs.home)) : EditsFiles touched fs after := by
  refine h.mono fun location hfile => ?_
  rwa [← location_of_fileAt? hfile]

theorem write {content : Bytes} (h : fs.write p content = .ok after)
    (hp : touched (p.location fs.home)) : EditsFiles touched fs after :=
  (of_write h).of_fileAt hp

theorem read_of_write {content : Bytes} (h : fs.write p content = .ok after) :
    after.read p = .ok content := by
  obtain ⟨location, hwritable, rfl⟩ := write_eq_ok_iff.mp h
  have hedits : EditsFiles (· = location) fs (fs.put location (.file content)) :=
    put hwritable.ne_nil hwritable.entry rfl
  refine FileSystem.read_eq_ok_iff.mpr ⟨location, ?_, ?_⟩
  · rw [hedits.fileAt?_eq, hwritable.fileAt]
  · rw [entryAt?_put fs hwritable.ne_nil, if_pos rfl]

theorem remove (h : fs.remove p = .ok after) (hp : touched (p.location fs.home)) :
    EditsFiles touched fs after := by
  obtain ⟨location, content, hfile, hentry, rfl⟩ := remove_eq_ok_iff.mp h
  rw [location_of_fileAt? hfile] at hp
  exact erase (ne_nil_of_fileAt? hfile) (by simp [hentry]) hp

theorem removeIfExists {existed : Bool} (h : fs.removeIfExists p = .ok (existed, after))
    (hp : touched (p.location fs.home)) : EditsFiles touched fs after := by
  unfold FileSystem.removeIfExists at h
  split at h
  · next hremove =>
      obtain ⟨-, rfl⟩ : true = existed ∧ _ = after := by simpa using h
      exact remove hremove hp
  · obtain ⟨-, rfl⟩ : false = existed ∧ fs = after := by simpa using h
    exact refl fs
  · simp at h

theorem discard (hp : touched (p.location fs.home)) : EditsFiles touched fs (fs.discard p) := by
  unfold FileSystem.discard
  split
  · next hremove => exact removeIfExists hremove hp
  · exact refl fs

theorem sweep {temps : TempFiles} (hpaths : ∀ p ∈ temps.paths, touched (p.location fs.home)) :
    EditsFiles touched fs (temps.sweep fs) := by
  obtain ⟨paths⟩ := temps
  unfold TempFiles.sweep
  simp only at hpaths ⊢
  induction paths generalizing fs with
  | nil => exact refl fs
  | cons p rest ih =>
      have hstep : EditsFiles touched fs (fs.discard p) := discard (hpaths p (by simp))
      refine hstep.trans (ih ?_)
      intro q hq
      rw [hstep.home_eq]
      exact hpaths q (by simp [hq])

theorem dropEmptyReject {reject : Path} (hreject : touched (reject.location fs.home)) :
    EditsFiles touched fs (fs.dropEmptyReject reject) := by
  unfold FileSystem.dropEmptyReject
  split
  · split
    · split
      · exact discard hreject
      · exact refl fs
    · exact refl fs
  · exact refl fs

theorem tidy {temps : TempFiles} {reject : Path}
    (hpaths : ∀ p ∈ temps.paths, touched (p.location fs.home))
    (hreject : touched (reject.location fs.home)) :
    EditsFiles touched fs (fs.tidy temps (some reject)) := by
  have hsweep : EditsFiles touched fs (temps.sweep fs) := sweep hpaths
  refine hsweep.trans (dropEmptyReject ?_)
  rwa [hsweep.home_eq]

end EditsFiles

/-! ## Adding directories -/

/-- Directories were added at empty locations, and nothing else was changed. -/
structure AddsDirectories (before after : FileSystem) : Prop where
  home_eq : after.home = before.home
  entry_eq : ∀ location, after.entryAt? location = before.entryAt? location ∨
    before.entryAt? location = none ∧ after.entryAt? location = some .directory

namespace AddsDirectories

variable {before middle after fs : FileSystem} {p : Path}

theorem refl (fs : FileSystem) : AddsDirectories fs fs := ⟨rfl, fun _ => .inl rfl⟩

theorem trans (h : AddsDirectories before middle) (h' : AddsDirectories middle after) :
    AddsDirectories before after := by
  refine ⟨h'.home_eq.trans h.home_eq, fun location => ?_⟩
  rcases h.entry_eq location with hsame | ⟨hnone, hadded⟩
  · rw [← hsame]
    exact h'.entry_eq location
  · rcases h'.entry_eq location with hsame | ⟨hnone', _⟩
    · exact .inr ⟨hnone, hsame.trans hadded⟩
    · simp [hadded] at hnone'

theorem entry_of_some (h : AddsDirectories before after) {location : Location} {entry : Entry}
    (hentry : before.entryAt? location = some entry) :
    after.entryAt? location = some entry := by
  rcases h.entry_eq location with hsame | ⟨hnone, _⟩
  · rw [hsame, hentry]
  · simp [hnone] at hentry

theorem keepsDirectories (h : AddsDirectories before after) : KeepsDirectories before after :=
  ⟨h.home_eq, fun _ => h.entry_of_some⟩

theorem makeDirectory (h : fs.makeDirectory p = .ok after) : AddsDirectories fs after := by
  unfold FileSystem.makeDirectory at h
  split at h
  · simp at h
  · simp at h
  · next parent name slash htarget =>
      split at h
      · next hnone =>
          obtain rfl : fs.put (parent ++ [name]) .directory = after := by simpa using h
          refine ⟨rfl, fun location => ?_⟩
          rw [entryAt?_put fs (by simp)]
          split
          · next heq => exact .inr ⟨heq ▸ hnone, rfl⟩
          · exact .inl rfl
      · simp at h

theorem ensureDirectory (h : fs.ensureDirectory p = .ok after) : AddsDirectories fs after := by
  unfold FileSystem.ensureDirectory at h
  split at h
  · next hmake =>
      obtain rfl := Except.ok.inj h
      exact makeDirectory hmake
  · split at h
    · obtain rfl := Except.ok.inj h
      exact refl fs
    · simp at h

theorem makeDirectoriesFrom (fs : FileSystem) (fuel : Nat) (p : Path) :
    AddsDirectories fs (fs.makeDirectoriesFrom fuel p).2 := by
  induction fuel generalizing fs p with
  | zero => exact refl fs
  | succ fuel ih =>
      unfold FileSystem.makeDirectoriesFrom
      split
      · exact refl fs
      · split
        · next hensure => exact ensureDirectory hensure
        · split
          · exact refl fs
          · next parent _ =>
              have hparent := ih fs parent
              split
              · next hresult => simpa [hresult] using hparent
              · next hresult =>
                  rw [hresult] at hparent
                  split
                  · next hensure => exact hparent.trans (ensureDirectory hensure)
                  · exact hparent
        · exact refl fs

theorem makeDirectories (fs : FileSystem) (p : Path) :
    AddsDirectories fs (fs.makeDirectories p).2 :=
  makeDirectoriesFrom fs _ p

end AddsDirectories

/-! ## Keeping one file -/

/-- There is a file at a location exactly if there was one, and it is the same. -/
def SameFile (location : Location) (before after : FileSystem) : Prop :=
  ∀ content, after.entryAt? location = some (.file content) ↔
    before.entryAt? location = some (.file content)

namespace SameFile

variable {location : Location} {before middle after : FileSystem}

theorem refl (fs : FileSystem) : SameFile location fs fs := fun _ => Iff.rfl

theorem trans (h : SameFile location before middle) (h' : SameFile location middle after) :
    SameFile location before after :=
  fun content => (h' content).trans (h content)

theorem of_edits {touched : Location → Prop} (h : EditsFiles touched before after)
    (hlocation : ¬ touched location) : SameFile location before after := by
  intro content
  rw [h.entry_eq location hlocation]

theorem of_adds (h : AddsDirectories before after) : SameFile location before after := by
  intro content
  rcases h.entry_eq location with hsame | ⟨hnone, hadded⟩
  · rw [hsame]
  · simp [hnone, hadded]

end SameFile

end FileSystem

end TidyCsv
