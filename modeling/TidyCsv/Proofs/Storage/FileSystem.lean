import TidyCsv.Proofs.Storage.Path
import TidyCsv.Proofs.Text.Utf8
import Mathlib.Tactic.SplitIfs

/-! # What operations on files do

Every operation is described by the location that its path leads to. The way there goes through
directories only, so it stays the same as long as these stay, and where it leads can be read off the
path alone. -/

namespace TidyCsv

namespace FileSystem

/-! ## Entries -/

theorem lookup_filter (keep : Location → Bool) (entries : List (Location × Entry))
    (location : Location) :
    (entries.filter fun entry => keep entry.1).lookup location =
      if keep location then entries.lookup location else none := by
  induction entries with
  | nil => simp
  | cons first rest ih =>
      obtain ⟨key, entry⟩ := first
      by_cases heq : location = key
      · subst heq
        cases hkeep : keep location with
        | true => simp [hkeep]
        | false => simpa [hkeep] using ih
      · have hbeq : (location == key) = false := beq_eq_false_iff_ne.mpr heq
        cases hkeep : keep key with
        | true => simp [hkeep, List.lookup_cons, hbeq, ih]
        | false => simp [hkeep, List.lookup_cons, hbeq, ih]

@[simp] theorem home_put (fs : FileSystem) (location : Location) (entry : Entry) :
    (fs.put location entry).home = fs.home := rfl

@[simp] theorem home_erase (fs : FileSystem) (location : Location) :
    (fs.erase location).home = fs.home := rfl

@[simp] theorem entryAt?_nil (fs : FileSystem) : fs.entryAt? [] = some .directory := rfl

theorem entryAt?_of_ne_nil (fs : FileSystem) {location : Location} (hne : location ≠ []) :
    fs.entryAt? location = fs.entries.lookup location := by
  simp [entryAt?, hne]

theorem entryAt?_put (fs : FileSystem) {location : Location} (hne : location ≠ []) (entry : Entry)
    (other : Location) :
    (fs.put location entry).entryAt? other =
      if other = location then some entry else fs.entryAt? other := by
  by_cases hroot : other = []
  · subst hroot
    simp [hne.symm]
  · rw [entryAt?_of_ne_nil _ hroot, entryAt?_of_ne_nil _ hroot, put, List.lookup_cons,
      lookup_filter (· != location)]
    by_cases heq : other = location
    · simp [heq]
    · have hbeq : (other == location) = false := beq_eq_false_iff_ne.mpr heq
      simp [heq, hbeq]

theorem entryAt?_erase (fs : FileSystem) {location : Location} (hne : location ≠ [])
    (other : Location) :
    (fs.erase location).entryAt? other =
      if other = location then none else fs.entryAt? other := by
  by_cases hroot : other = []
  · subst hroot
    simp [hne.symm]
  · rw [entryAt?_of_ne_nil _ hroot, entryAt?_of_ne_nil _ hroot, erase,
      lookup_filter (· != location)]
    by_cases heq : other = location
    · simp [heq]
    · simp [heq]

@[simp] theorem put_put (fs : FileSystem) (location : Location) (first last : Entry) :
    (fs.put location first).put location last = fs.put location last := by
  simp [put]

/-! ## Where a path leads -/

/-- The location of a target. -/
def Target.location : Target → Location
  | .directory location => location
  | .member parent name _ => parent ++ [name]

theorem follow_of_all_empty (location : Location) {pieces : List String}
    (h : pieces.all (· == "") = true) : Path.follow location pieces = location := by
  induction pieces with
  | nil => rfl
  | cons piece rest ih =>
      have hsplit : piece = "" ∧ rest.all (· == "") = true := by simpa using h
      rw [hsplit.1, Path.follow_cons_void rfl, ih hsplit.2]

/-- A walk ends where its pieces say, whatever is on the way. -/
theorem location_of_walk {fs : FileSystem} {location : Location} {target : Target}
    {pieces : List String} (h : fs.walk location pieces = .ok target) :
    target.location = Path.follow location pieces := by
  induction pieces generalizing location with
  | nil =>
      obtain rfl : Target.directory location = target := by simpa [walk] using h
      rfl
  | cons piece rest ih =>
      simp only [walk] at h
      split_ifs at h with hvoid hup hlong hlast
      · simpa [Path.follow, Path.isVoid, hvoid] using ih h
      · simpa [Path.follow, Path.isVoid, hvoid, hup] using ih h
      · obtain rfl : Target.member location piece (!rest.isEmpty) = target := by simpa using h
        have hrest := follow_of_all_empty (location ++ [piece]) hlast
        simpa [Target.location, Path.follow, Path.isVoid, hvoid, hup] using hrest.symm
      · split at h
        · simpa [Path.follow, Path.isVoid, hvoid, hup] using ih h
        · simp at h
        · simp at h

/-- A path leads where its pieces do, if its text is one that a path can have. -/
theorem target_eq_ok_iff {fs : FileSystem} {p : Path} {target : Target} :
    fs.target p = .ok target ↔
      p.text ≠ "" ∧ '\x00' ∉ p.text.toList ∧ (Utf8.ofString p.text).length ≤ longestPath ∧
        fs.walk (if p.isAbsolute then [] else fs.home) p.pieces = .ok target := by
  simp only [FileSystem.target, ← Path.pieces.eq_1]
  split
  · next hempty => simp [hempty]
  · next hempty =>
      split
      · next hnul => simpa using fun _ hnot => absurd (by simpa using hnul) hnot
      · next hnul =>
          split
          · next hlong => simpa using fun _ _ hshort => absurd hshort (Nat.not_le.mpr hlong)
          · next hshort => simp_all

theorem target_eq_walk {fs : FileSystem} {p : Path} {target : Target}
    (h : fs.target p = .ok target) :
    fs.walk (if p.isAbsolute then [] else fs.home) p.pieces = .ok target :=
  (target_eq_ok_iff.mp h).2.2.2

theorem location_of_target {fs : FileSystem} {p : Path} {target : Target}
    (h : fs.target p = .ok target) : target.location = p.location fs.home := by
  rw [Path.location_eq_follow]
  exact location_of_walk (target_eq_walk h)

/-- A walk that ends at a name ends with its last piece. -/
theorem name_of_walk {fs : FileSystem} {location parent : Location} {name : String}
    {pieces : List String} (h : fs.walk location pieces = .ok (.member parent name false)) :
    Path.IsName name ∧ ∃ init, pieces = init ++ [name] := by
  induction pieces generalizing location with
  | nil => simp [walk] at h
  | cons piece rest ih =>
      have hrest : ∀ {start : Location}, fs.walk start rest = .ok (.member parent name false) →
          Path.IsName name ∧ ∃ init, piece :: rest = init ++ [name] := by
        intro start hwalk
        obtain ⟨hname, init, rfl⟩ := ih hwalk
        exact ⟨hname, piece :: init, rfl⟩
      simp only [walk] at h
      split_ifs at h with hvoid hup hlong hlast
      · exact hrest h
      · exact hrest h
      · obtain ⟨-, rfl, hslash⟩ : location = parent ∧ piece = name ∧ rest = [] := by simpa using h
        exact ⟨⟨by simpa [Path.isVoid] using hvoid, hup⟩, [], by simp [hslash]⟩
      · split at h
        · exact hrest h
        · simp at h
        · simp at h

/-! ## Directories that stay -/

/-- Every directory of one file system is one of another, and home is the same. -/
structure KeepsDirectories (before after : FileSystem) : Prop where
  home_eq : after.home = before.home
  directory : ∀ location, before.entryAt? location = some .directory →
    after.entryAt? location = some .directory

theorem KeepsDirectories.refl (fs : FileSystem) : KeepsDirectories fs fs := ⟨rfl, fun _ h => h⟩

theorem KeepsDirectories.trans {first middle last : FileSystem}
    (h : KeepsDirectories first middle) (h' : KeepsDirectories middle last) :
    KeepsDirectories first last :=
  ⟨h'.home_eq.trans h.home_eq, fun location hl => h'.directory location (h.directory location hl)⟩

theorem KeepsDirectories.walk {before after : FileSystem} (h : KeepsDirectories before after)
    {location : Location} {target : Target} {pieces : List String}
    (hwalk : before.walk location pieces = .ok target) :
    after.walk location pieces = .ok target := by
  induction pieces generalizing location with
  | nil => simpa [FileSystem.walk] using hwalk
  | cons piece rest ih =>
      simp only [FileSystem.walk] at hwalk ⊢
      split_ifs at hwalk ⊢
      · exact ih hwalk
      · exact ih hwalk
      · exact hwalk
      · split at hwalk
        · next hdirectory =>
            rw [h.directory _ hdirectory]
            exact ih hwalk
        · simp at hwalk
        · simp at hwalk

/-- A path leads where it did as long as the directories stay. -/
theorem KeepsDirectories.target {before after : FileSystem} (h : KeepsDirectories before after)
    {p : Path} {target : Target} (htarget : before.target p = .ok target) :
    after.target p = .ok target := by
  simp only [FileSystem.target, h.home_eq] at htarget ⊢
  split_ifs at htarget ⊢
  all_goals exact h.walk htarget

/-! ## Files -/

/-- The location of the file that a path may lead to. -/
def fileAt? (fs : FileSystem) (p : Path) : Option Location :=
  match fs.target p with
  | .ok (.member parent name false) => some (parent ++ [name])
  | _ => none

theorem fileAt?_eq_some_iff {fs : FileSystem} {p : Path} {location : Location} :
    fs.fileAt? p = some location ↔
      ∃ parent name, fs.target p = .ok (.member parent name false) ∧
        location = parent ++ [name] := by
  unfold fileAt?
  constructor
  · intro h
    split at h
    · next parent name htarget => exact ⟨parent, name, htarget, by simpa using h.symm⟩
    · simp at h
  · rintro ⟨parent, name, htarget, rfl⟩
    rw [htarget]

theorem location_of_fileAt? {fs : FileSystem} {p : Path} {location : Location}
    (h : fs.fileAt? p = some location) : p.location fs.home = location := by
  obtain ⟨parent, name, htarget, rfl⟩ := fileAt?_eq_some_iff.mp h
  exact (location_of_target htarget).symm

theorem fileName?_of_fileAt? {fs : FileSystem} {p : Path} {location : Location}
    (h : fs.fileAt? p = some location) :
    ∃ parent name, location = parent ++ [name] ∧ p.fileName? = some name := by
  obtain ⟨parent, name, htarget, rfl⟩ := fileAt?_eq_some_iff.mp h
  obtain ⟨hname, init, hpieces⟩ := name_of_walk (target_eq_walk htarget)
  exact ⟨parent, name, rfl, Path.fileName?_of_pieces hname hpieces⟩

theorem ne_nil_of_fileAt? {fs : FileSystem} {p : Path} {location : Location}
    (h : fs.fileAt? p = some location) : location ≠ [] := by
  obtain ⟨parent, name, _, rfl⟩ := fileAt?_eq_some_iff.mp h
  simp

theorem KeepsDirectories.fileAt? {before after : FileSystem} (h : KeepsDirectories before after)
    {p : Path} {location : Location} (hfile : before.fileAt? p = some location) :
    after.fileAt? p = some location := by
  obtain ⟨parent, name, htarget, hlocation⟩ := fileAt?_eq_some_iff.mp hfile
  exact fileAt?_eq_some_iff.mpr ⟨parent, name, h.target htarget, hlocation⟩

theorem open?_eq_ok_file_iff {fs : FileSystem} {p : Path} {content : Bytes} :
    fs.open? p = .ok (.file content) ↔
      ∃ location, fs.fileAt? p = some location ∧ fs.entryAt? location = some (.file content) := by
  unfold open?
  split
  · next htarget => simp [fileAt?, htarget]
  · next htarget => simp [fileAt?, htarget]
  · next parent name slash htarget =>
      cases hentry : fs.entryAt? (parent ++ [name]) with
      | none => cases slash <;> simp [fileAt?, htarget, hentry]
      | some entry => cases entry <;> cases slash <;> simp [fileAt?, htarget, hentry]

theorem read_eq_ok_iff {fs : FileSystem} {p : Path} {content : Bytes} :
    fs.read p = .ok content ↔
      ∃ location, fs.fileAt? p = some location ∧ fs.entryAt? location = some (.file content) := by
  rw [← open?_eq_ok_file_iff]
  unfold read
  split
  · next entry hentry => cases entry <;> simp [hentry, Entry.read]
  · next hentry => simp [hentry]

theorem readFirst_of_read {fs : FileSystem} {p : Path} {content : Bytes}
    (h : fs.read p = .ok content) (count : Nat) :
    fs.readFirst p count = .ok (content.take count) := by
  have hopen := open?_eq_ok_file_iff.mpr (read_eq_ok_iff.mp h)
  by_cases hcount : count = 0
  · simp [readFirst, hopen, hcount]
  · simp [readFirst, hopen, hcount, Entry.read, Except.map]

theorem read_of_readFirst {fs : FileSystem} {p : Path} {count : Nat} {sample : Bytes}
    (hcount : count ≠ 0) (h : fs.readFirst p count = .ok sample) :
    ∃ content, fs.read p = .ok content ∧ sample = content.take count := by
  unfold readFirst at h
  split at h
  · next entry hopen =>
      rw [if_neg hcount] at h
      cases entry with
      | directory => simp [Entry.read, Except.map] at h
      | file content =>
          refine ⟨content, by simp [read, hopen, Entry.read], ?_⟩
          simpa [Entry.read, Except.map, eq_comm] using h
  · simp at h

theorem contains_of_read {fs : FileSystem} {p : Path} {content : Bytes}
    (h : fs.read p = .ok content) : fs.contains p = true := by
  have hopen := open?_eq_ok_file_iff.mpr (read_eq_ok_iff.mp h)
  simp [contains, hopen, Except.isOk, Except.toBool]

theorem contains_eq_false {fs : FileSystem} {p : Path} {location : Location}
    (hfile : fs.fileAt? p = some location) (hentry : fs.entryAt? location = none) :
    fs.contains p = false := by
  obtain ⟨parent, name, htarget, rfl⟩ := fileAt?_eq_some_iff.mp hfile
  simp [contains, open?, htarget, hentry, Except.isOk, Except.toBool]

theorem isFile_iff {fs : FileSystem} {p : Path} :
    fs.isFile p = true ↔ ∃ content, fs.read p = .ok content := by
  simp only [read_eq_ok_iff, ← open?_eq_ok_file_iff]
  unfold isFile
  split
  · next content hentry => simp [hentry]
  · next hnot =>
      simp only [Bool.false_eq_true, false_iff]
      rintro ⟨content, hentry⟩
      exact hnot _ hentry

/-- A path leads to a location where a file is or may be. -/
structure Writable (fs : FileSystem) (p : Path) (location : Location) : Prop where
  fileAt : fs.fileAt? p = some location
  entry : fs.entryAt? location ≠ some .directory

theorem write_eq_ok_iff {fs after : FileSystem} {p : Path} {content : Bytes} :
    fs.write p content = .ok after ↔
      ∃ location, fs.Writable p location ∧ after = fs.put location (.file content) := by
  have hiff : fs.write p content = .ok after ↔ ∃ location, fs.fileAt? p = some location ∧
      fs.entryAt? location ≠ some .directory ∧ after = fs.put location (.file content) := by
    unfold write
    split
    · next htarget => simp [fileAt?, htarget]
    · next htarget => simp [fileAt?, htarget]
    · next parent name slash htarget =>
        cases slash with
        | true => simp [fileAt?, htarget]
        | false =>
            by_cases hdirectory : fs.entryAt? (parent ++ [name]) = some .directory
            · simp [fileAt?, htarget, hdirectory]
            · simp [fileAt?, htarget, hdirectory, eq_comm (a := after)]
  rw [hiff]
  constructor
  · rintro ⟨location, hfile, hentry, hafter⟩
    exact ⟨location, ⟨hfile, hentry⟩, hafter⟩
  · rintro ⟨location, ⟨hfile, hentry⟩, hafter⟩
    exact ⟨location, hfile, hentry, hafter⟩

theorem Writable.write {fs : FileSystem} {p : Path} {location : Location}
    (h : fs.Writable p location) (content : Bytes) :
    fs.write p content = .ok (fs.put location (.file content)) :=
  write_eq_ok_iff.mpr ⟨location, h, rfl⟩

theorem Writable.ne_nil {fs : FileSystem} {p : Path} {location : Location}
    (h : fs.Writable p location) : location ≠ [] :=
  ne_nil_of_fileAt? h.fileAt

theorem remove_eq_ok_iff {fs after : FileSystem} {p : Path} :
    fs.remove p = .ok after ↔
      ∃ location content, fs.fileAt? p = some location ∧
        fs.entryAt? location = some (.file content) ∧ after = fs.erase location := by
  unfold remove
  split
  · next htarget => simp [fileAt?, htarget]
  · next htarget => simp [fileAt?, htarget]
  · next parent name slash htarget =>
      cases hentry : fs.entryAt? (parent ++ [name]) with
      | none => cases slash <;> simp [fileAt?, htarget, hentry]
      | some entry =>
          cases entry <;> cases slash <;> simp [fileAt?, htarget, hentry, eq_comm (a := after)]

/-! ## Files in one directory -/

/-- A walk that ends at a name ends as well at any other that is not longer. -/
theorem walk_append_name {fs : FileSystem} {location parent : Location} {init : List String}
    {name other found : String} (hname : Path.IsName name) (hother : Path.IsName other)
    (hshort : (Utf8.ofString other).length ≤ (Utf8.ofString name).length)
    (h : fs.walk location (init ++ [name]) = .ok (.member parent found false)) :
    fs.walk location (init ++ [other]) = .ok (.member parent other false) := by
  have hvoid : ∀ {piece}, Path.IsName piece → ¬ (piece = "" ∨ piece = ".") := by
    intro piece hpiece
    simpa [Path.isVoid] using hpiece.1
  induction init generalizing location with
  | nil =>
      simp only [List.nil_append, walk, if_neg (hvoid hname), if_neg hname.2, List.all_nil,
        if_true] at h
      split_ifs at h with hlong
      obtain ⟨rfl, -⟩ : location = parent ∧ name = found := by simpa using h
      have hlong' : ¬ longestName < (Utf8.ofString other).length := by omega
      simp [walk, hvoid hother, hother.2, hlong']
  | cons piece rest ih =>
      have hrest : ∀ {last}, Path.IsName last → (rest ++ [last]).all (· == "") = false := by
        intro last hlast
        have hne : last ≠ "" := fun hempty => hvoid hlast (.inl hempty)
        simp [hne]
      simp only [List.cons_append, walk, hrest hname, hrest hother, Bool.false_eq_true,
        if_false] at h ⊢
      split_ifs at h ⊢
      · exact ih h
      · exact ih h
      · split at h
        · exact ih h
        · simp at h
        · simp at h

/-- Where a file may be at a name below a directory, one may be at any other name that is not
longer. -/
theorem fileAt?_join_name {fs : FileSystem} {directory : Path} {location : Location}
    {name other : String} (hname : Path.IsPlainName name) (hother : Path.IsPlainName other)
    (hnul : '\x00' ∉ other.toList)
    (hshort : (Utf8.ofString other).length ≤ (Utf8.ofString name).length)
    (h : fs.fileAt? (directory.join ⟨name⟩) = some location) :
    fs.fileAt? (directory.join ⟨other⟩) =
      some ((directory.join ⟨other⟩).location fs.home) := by
  obtain ⟨lead, init, -, -, hjoin⟩ := Path.join_name directory
  obtain ⟨htext, hpieces, habsolute⟩ := hjoin name hname
  obtain ⟨htext', hpieces', habsolute'⟩ := hjoin other hother
  obtain ⟨parent, found, htarget, -⟩ := fileAt?_eq_some_iff.mp h
  obtain ⟨hempty, hzero, hlong, hwalk⟩ := target_eq_ok_iff.mp htarget
  rw [hpieces, habsolute] at hwalk
  have hwalk' := walk_append_name hname.isName hother.isName hshort hwalk
  have htarget' : fs.target (directory.join ⟨other⟩) = .ok (.member parent other false) := by
    refine target_eq_ok_iff.mpr ⟨?_, ?_, ?_, ?_⟩
    · rw [htext']
      intro hnone
      exact hother.ne_empty (by simp_all)
    · rw [htext] at hzero
      rw [htext']
      simp_all
    · rw [htext, Utf8.length_ofString_append] at hlong
      rw [htext', Utf8.length_ofString_append]
      omega
    · rw [hpieces', habsolute']
      exact hwalk'
  exact fileAt?_eq_some_iff.mpr ⟨parent, other, htarget', (location_of_target htarget').symm⟩

end FileSystem

end TidyCsv
