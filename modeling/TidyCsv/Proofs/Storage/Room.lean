import TidyCsv.Proofs.Storage.Directories

/-! # Room for files

A file can be written at the end of a path if and only if there is room for it: the path leads to a
name in a directory, and this is not the name of a directory. Editing files neither makes room nor
takes it. -/

namespace TidyCsv.FileSystem

/-- A file is at the end of a path, or may be. -/
def HasRoom (fs : FileSystem) (p : Path) : Prop := fs.Writable p (p.location fs.home)

instance (fs : FileSystem) (p : Path) : Decidable (fs.HasRoom p) :=
  decidable_of_iff (fs.fileAt? p = some (p.location fs.home) ∧
    fs.entryAt? (p.location fs.home) ≠ some .directory)
    ⟨fun h => ⟨h.1, h.2⟩, fun h => ⟨h.fileAt, h.entry⟩⟩

variable {fs after : FileSystem} {p : Path} {location : Location} {content : Bytes}

theorem writable_iff_hasRoom :
    fs.Writable p location ↔ fs.HasRoom p ∧ location = p.location fs.home := by
  constructor
  · intro h
    obtain rfl := location_of_fileAt? h.fileAt
    exact ⟨h, rfl⟩
  · rintro ⟨h, rfl⟩
    exact h

theorem EditsFiles.hasRoom_iff {touched : Location → Prop} (h : EditsFiles touched fs after) :
    after.HasRoom p ↔ fs.HasRoom p := by
  unfold HasRoom
  rw [h.home_eq, h.writable_iff]

theorem write_eq_ok_iff_hasRoom :
    fs.write p content = .ok after ↔
      fs.HasRoom p ∧ after = fs.put (p.location fs.home) (.file content) := by
  simp only [write_eq_ok_iff, writable_iff_hasRoom]
  constructor
  · rintro ⟨location, ⟨hroom, rfl⟩, hafter⟩
    exact ⟨hroom, hafter⟩
  · rintro ⟨hroom, hafter⟩
    exact ⟨_, ⟨hroom, rfl⟩, hafter⟩

theorem write_of_not_hasRoom (h : ¬ fs.HasRoom p) (content : Bytes) :
    ∃ fault, fs.write p content = .error fault := by
  cases hwrite : fs.write p content with
  | error fault => exact ⟨fault, rfl⟩
  | ok after => exact absurd (write_eq_ok_iff_hasRoom.mp hwrite).1 h

/-- Where there is room for a file, there is nothing that could not be removed. -/
theorem HasRoom.removeIfExists (h : fs.HasRoom p) :
    ∃ existed after, fs.removeIfExists p = .ok (existed, after) := by
  obtain ⟨parent, name, htarget, hlocation⟩ := fileAt?_eq_some_iff.mp h.fileAt
  have hentry := h.entry
  rw [hlocation] at hentry
  unfold FileSystem.removeIfExists FileSystem.remove
  rw [htarget]
  cases hfound : fs.entryAt? (parent ++ [name]) with
  | none => exact ⟨false, fs, by simp only [hfound]⟩
  | some entry =>
      cases entry with
      | directory => exact absurd hfound hentry
      | file content => exact ⟨true, fs.erase (parent ++ [name]), by simp [hfound]⟩

theorem entryAt?_of_removeIfExists {existed : Bool} (hfile : fs.fileAt? p = some location)
    (h : fs.removeIfExists p = .ok (existed, after)) : after.entryAt? location = none := by
  obtain ⟨parent, name, htarget, rfl⟩ := fileAt?_eq_some_iff.mp hfile
  unfold FileSystem.removeIfExists FileSystem.remove at h
  rw [htarget] at h
  cases hfound : fs.entryAt? (parent ++ [name]) with
  | none =>
      obtain ⟨-, rfl⟩ : false = existed ∧ fs = after := by simpa [hfound] using h
      exact hfound
  | some entry =>
      cases entry with
      | directory => simp [hfound] at h
      | file content =>
          obtain ⟨-, rfl⟩ : true = existed ∧ fs.erase (parent ++ [name]) = after := by
            simpa [hfound] using h
          rw [entryAt?_erase fs (by simp), if_pos rfl]

/-! ## Names in a directory -/

/-- A name is no longer than names can be, and neither is the path to it through a directory. -/
structure Fits (directory : Path) (name : String) : Prop where
  name_le : (Utf8.ofString name).length ≤ longestName
  path_le : (Utf8.ofString (directory.join ⟨name⟩).text).length ≤ longestPath

instance (directory : Path) (name : String) : Decidable (Fits directory name) :=
  decidable_of_iff ((Utf8.ofString name).length ≤ longestName ∧
    (Utf8.ofString (directory.join ⟨name⟩).text).length ≤ longestPath)
    ⟨fun h => ⟨h.1, h.2⟩, fun h => ⟨h.name_le, h.path_le⟩⟩

theorem Fits.of_le {directory : Path} {name other : String} (hname : Path.IsPlainName name)
    (hother : Path.IsPlainName other) (h : Fits directory name)
    (hshort : (Utf8.ofString other).length ≤ (Utf8.ofString name).length) :
    Fits directory other := by
  obtain ⟨lead, init, -, -, hjoin⟩ := Path.join_name directory
  obtain ⟨hshortName, hshortPath⟩ := h
  rw [(hjoin name hname).1, Utf8.length_ofString_append] at hshortPath
  refine ⟨Nat.le_trans hshort hshortName, ?_⟩
  rw [(hjoin other hother).1, Utf8.length_ofString_append]
  omega

/-- An existing directory with nothing in it. -/
structure IsEmptyDirectory (fs : FileSystem) (directory : Path) : Prop where
  isDirectory : fs.isDirectory directory = true
  vacant : ∀ name, fs.entryAt? (directory.location fs.home ++ [name]) = none

theorem IsEmptyDirectory.toOption_read_join {directory : Path} {name : String}
    (h : fs.IsEmptyDirectory directory) (hname : Path.IsPlainName name) :
    (fs.read (directory.join ⟨name⟩)).toOption = none := by
  cases hread : fs.read (directory.join ⟨name⟩) with
  | error fault => rfl
  | ok content =>
      obtain ⟨location, hlocation, hentry⟩ := read_eq_ok_iff.mp hread
      rw [← location_of_fileAt? hlocation, Path.location_join_name _ _ hname, h.vacant] at hentry
      simp at hentry

theorem IsEmptyDirectory.of_edits {directory : Path} {touched : Location → Prop}
    (h : fs.IsEmptyDirectory directory) (hedits : EditsFiles touched fs after)
    (hapart : ∀ name, ¬ touched (directory.location fs.home ++ [name])) :
    after.IsEmptyDirectory directory := by
  refine ⟨hedits.keepsDirectories.isDirectory h.isDirectory, fun name => ?_⟩
  rw [hedits.home_eq, hedits.entry_eq _ (hapart name)]
  exact h.vacant name

theorem hasRoom_name {name : String} (hname : Path.IsPlainName name)
    (hnul : '\x00' ∉ name.toList) (hshort : (Utf8.ofString name).length ≤ longestName)
    (hentry : fs.entryAt? (fs.home ++ [name]) ≠ some .directory) : fs.HasRoom ⟨name⟩ := by
  have hvoid : ¬ (name = "" ∨ name = ".") := by simpa [Path.isVoid] using hname.isName.1
  have hlong : longestName ≤ longestPath := by decide
  have htarget : fs.target ⟨name⟩ = .ok (.member fs.home name false) := by
    refine target_eq_ok_iff.mpr ⟨fun hempty => hvoid (.inl hempty), hnul, ?_, ?_⟩
    · exact Nat.le_trans hshort hlong
    · rw [hname.not_isAbsolute, hname.pieces_eq]
      simp [walk, hvoid, hname.isName.2, Nat.not_lt.mpr hshort]
  have hlocation := Path.location_name fs.home hname
  refine ⟨fileAt?_eq_some_iff.mpr ⟨_, _, htarget, hlocation⟩, ?_⟩
  rwa [hlocation]

section Named

variable {directory : Path} {name : String} (hname : Path.IsPlainName name)
  (hnul : '\x00' ∉ name.toList) (hdirectory : fs.isDirectory directory = true)
include hname hnul hdirectory

/-- A name in a directory is where it is looked for if it fits, and cannot be looked for if it does
not. -/
theorem target_join :
    fs.target (directory.join ⟨name⟩) =
      if Fits directory name then .ok (.member (directory.location fs.home) name false)
      else .error .nameTooLong := by
  obtain ⟨lead, init, hinit, -, hjoin⟩ := Path.join_name directory
  obtain ⟨htext, hpieces, habsolute⟩ := hjoin name hname
  have hempty : (directory.join ⟨name⟩).text ≠ "" := by
    rw [htext]
    intro hnone
    exact hname.ne_empty (by simp_all)
  have hzero : '\x00' ∉ (directory.join ⟨name⟩).text.toList := by
    intro hmem
    rcases Path.mem_join hmem with hlead | hslash | hlast
    · obtain ⟨target, htarget, -⟩ := target_of_isDirectory hdirectory
      exact (target_eq_ok_iff.mp htarget).2.1 hlead
    · exact absurd hslash (by decide)
    · exact hnul hlast
  have hwalk : fs.walk (if (directory.join ⟨name⟩).isAbsolute then [] else fs.home)
      (directory.join ⟨name⟩).pieces =
        if longestName < (Utf8.ofString name).length then .error .nameTooLong
        else .ok (.member (directory.location fs.home) name false) := by
    have hsolid : Path.solid [name] ≠ [] := by simp [Path.solid, hname.isName.1]
    have hvoid : ¬ (name = "" ∨ name = ".") := by simpa [Path.isVoid] using hname.isName.1
    rw [habsolute, hpieces, walk_append fs _ _ hsolid, ← advance_solid, hinit, advance_solid,
      advance_of_isDirectory hdirectory]
    simp [Except.bind, walk, hvoid, hname.isName.2]
  unfold FileSystem.target
  rw [if_neg hempty, if_neg (by simpa using hzero)]
  simp only [← Path.pieces.eq_1, hwalk]
  by_cases hfits : Fits directory name
  · rw [if_neg (Nat.not_lt.mpr hfits.path_le), if_neg (Nat.not_lt.mpr hfits.name_le),
      if_pos hfits]
  · rw [if_neg hfits]
    split
    · rfl
    · next hpath =>
        refine if_pos (Nat.lt_of_not_le fun hshort => hfits ⟨hshort, ?_⟩)
        omega

/-- There is room for a file at a name in a directory if the name fits and is not that of a
directory. -/
theorem hasRoom_join_iff :
    fs.HasRoom (directory.join ⟨name⟩) ↔ Fits directory name ∧
      fs.entryAt? (directory.location fs.home ++ [name]) ≠ some .directory := by
  have htarget := target_join hname hnul hdirectory
  have hlocation := Path.location_join_name fs.home directory hname
  constructor
  · intro h
    obtain ⟨parent, last, hok, -⟩ := fileAt?_eq_some_iff.mp h.fileAt
    rw [htarget] at hok
    have hentry := h.entry
    rw [hlocation] at hentry
    split_ifs at hok with hfits
    exact ⟨hfits, hentry⟩
  · rintro ⟨hfits, hentry⟩
    rw [if_pos hfits] at htarget
    refine ⟨fileAt?_eq_some_iff.mpr ⟨_, _, htarget, hlocation⟩, ?_⟩
    rwa [hlocation]

/-- A name that does not fit cannot be removed, even though there is nothing. -/
theorem removeIfExists_of_not_fits (hfits : ¬ Fits directory name) :
    fs.removeIfExists (directory.join ⟨name⟩) = .error .nameTooLong := by
  simp [FileSystem.removeIfExists, FileSystem.remove, target_join hname hnul hdirectory, hfits]

theorem read_of_not_fits (hfits : ¬ Fits directory name) :
    fs.read (directory.join ⟨name⟩) = .error .nameTooLong := by
  simp [FileSystem.read, FileSystem.open?, target_join hname hnul hdirectory, hfits]

end Named

end TidyCsv.FileSystem
