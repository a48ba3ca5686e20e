import TidyCsv.Proofs.Storage.Frame
import TidyCsv.Storage.Disk

/-! # What a disk makes of a file

A disk holds a file as it was written, or cuts it and gives a fault. It touches nothing else, and so
what is left of a write that fails half-way is at the path that was written to. -/

namespace TidyCsv

open FileSystem

variable {disk : Disk} {fs after : FileSystem} {p : Path} {fault : IoFault} {content : Bytes}

theorem FileSystem.EditsFiles.cut {touched : Location → Prop} {location : Location}
    (hlocation : touched location) (count : Nat) :
    EditsFiles touched fs (fs.cut location count) := by
  unfold FileSystem.cut
  split
  · next hentry =>
      have hne : location ≠ [] := by
        intro hroot
        simp [hroot] at hentry
      exact .put hne (by simp [hentry]) hlocation
  · exact .refl fs

theorem FileSystem.cut_put {location : Location} (hlocation : location ≠ []) (count : Nat) :
    (fs.put location (.file content)).cut location count =
      fs.put location (.file (content.take count)) := by
  simp [FileSystem.cut, entryAt?_put fs hlocation, put_put]

namespace Disk

@[simp] theorem flawAt?_sound (location : Location) : sound.flawAt? location = none := rfl

theorem hold_of_flawless (h : disk.flawAt? (p.location fs.home) = none) :
    disk.hold p fs = (.ok (), fs) := by
  simp [hold, h]

/-- A file is held exactly where there is no flaw, and then as it is. -/
theorem hold_eq_ok_iff :
    disk.hold p fs = (.ok (), after) ↔
      disk.flawAt? (p.location fs.home) = none ∧ after = fs := by
  unfold hold
  split
  · next hnone => simp [hnone, eq_comm]
  · next flaw hflaw => simp [hflaw]

theorem hold_edits {touched : Location → Prop} (hp : touched (p.location fs.home)) :
    EditsFiles touched fs (disk.hold p fs).2 := by
  unfold hold
  split
  · exact .refl fs
  · exact .cut hp _

/-- A file that is not held has its first bytes. -/
theorem read_of_hold_error (hread : fs.read p = .ok content)
    (h : disk.hold p fs = (.error fault, after)) :
    ∃ flaw, disk.flawAt? (p.location fs.home) = some flaw ∧ flaw.fault = fault ∧
      after.read p = .ok (content.take flaw.reach) := by
  obtain ⟨location, hfile, hentry⟩ := read_eq_ok_iff.mp hread
  have hlocation := location_of_fileAt? hfile
  unfold hold at h
  split at h
  · simp at h
  · next flaw hflaw =>
      obtain ⟨hfault, rfl⟩ : flaw.fault = fault ∧ fs.cut (p.location fs.home) flaw.reach = after := by
        simpa using h
      rw [hlocation] at hflaw ⊢
      have hcut : EditsFiles (· = location) fs (fs.cut location flaw.reach) := by
        apply EditsFiles.cut
        rfl
      refine ⟨flaw, hflaw, hfault, read_eq_ok_iff.mpr ⟨location, ?_, ?_⟩⟩
      · rw [hcut.fileAt?_eq, hfile]
      · simp only [FileSystem.cut, hentry]
        rw [entryAt?_put _ (ne_nil_of_fileAt? hfile), if_pos rfl]

end Disk

end TidyCsv
