import TidyCsv.Proofs.Storage.Frame

/-! # What tidying up removes

Tidying up removes exactly the files that registered paths lead to, and the file of rejected rows if
it holds one record at most. No path leads elsewhere afterwards, so all of them can be looked up in
the file system as it was before. -/

namespace TidyCsv

namespace FileSystem

variable {fs : FileSystem} {p : Path} {location : Location}

/-! ## Registering -/

theorem location_of_same (home : Location) {p q : Path} (h : p.same q = true) :
    p.location home = q.location home := by
  have hcomponents : p.components = q.components := by simpa [Path.same] using h
  simp [Path.location, hcomponents]

/-- A registered path leads to a location. A path that is not registered twice still does, since the
one registered before has the same components. -/
def Registered (home : Location) (temps : TempFiles) (location : Location) : Prop :=
  ∃ p ∈ temps.paths, p.location home = location

theorem registered_register_iff (home : Location) (temps : TempFiles) (p : Path)
    (location : Location) :
    Registered home (temps.register p) location ↔
      Registered home temps location ∨ p.location home = location := by
  unfold Registered TempFiles.register
  split
  · next hsame =>
      constructor
      · exact .inl
      · rintro (hold | rfl)
        · exact hold
        · obtain ⟨q, hq, hqp⟩ := List.any_eq_true.mp hsame
          exact ⟨q, hq, location_of_same home hqp⟩
  · constructor
    · rintro ⟨q, hq, hlocation⟩
      rcases List.mem_append.mp hq with hold | hnew
      · exact .inl ⟨q, hold, hlocation⟩
      · obtain rfl : q = p := by simpa using hnew
        exact .inr hlocation
    · rintro (⟨q, hq, hlocation⟩ | hlocation)
      · exact ⟨q, by simp [hq], hlocation⟩
      · exact ⟨p, by simp, hlocation⟩

theorem registered_foldl_register_iff (home : Location) (temps : TempFiles) (paths : List Path)
    (location : Location) :
    Registered home (paths.foldl TempFiles.register temps) location ↔
      Registered home temps location ∨ ∃ p ∈ paths, p.location home = location := by
  induction paths generalizing temps with
  | nil => simp
  | cons p rest ih =>
      rw [List.foldl_cons, ih, registered_register_iff]
      simp [or_assoc]

theorem mem_of_mem_foldl_register {temps : TempFiles} {paths : List Path} {p : Path}
    (h : p ∈ (paths.foldl TempFiles.register temps).paths) : p ∈ temps.paths ∨ p ∈ paths := by
  induction paths generalizing temps with
  | nil => exact .inl h
  | cons first rest ih =>
      rcases ih h with hin | hin
      · unfold TempFiles.register at hin
        split at hin
        · exact .inl hin
        · rcases List.mem_append.mp hin with hold | hnew
          · exact .inl hold
          · exact .inr (by simp_all)
      · exact .inr (by simp [hin])

/-! ## Removing one file -/

theorem discard_edits (fs : FileSystem) (p : Path) :
    EditsFiles (fun _ => True) fs (fs.discard p) :=
  .discard trivial

theorem entryAt?_discard (h : fs.entryAt? location ≠ some .directory) :
    (fs.discard p).entryAt? location =
      if fs.fileAt? p = some location then none else fs.entryAt? location := by
  cases hremove : fs.remove p with
  | ok after =>
      have hdiscard : fs.discard p = after := by simp [discard, removeIfExists, hremove]
      obtain ⟨found, content, hfile, hentry, rfl⟩ := remove_eq_ok_iff.mp hremove
      rw [hdiscard, entryAt?_erase fs (ne_nil_of_fileAt? hfile), hfile]
      by_cases hsame : location = found
      · simp [hsame]
      · simp [hsame, Ne.symm hsame]
  | error fault =>
      have hdiscard : fs.discard p = fs := by
        cases fault <;> simp [discard, removeIfExists, hremove]
      rw [hdiscard]
      by_cases hfile : fs.fileAt? p = some location
      · rw [if_pos hfile]
        -- a file there would have been removed
        cases hentry : fs.entryAt? location with
        | none => rfl
        | some entry =>
            cases entry with
            | directory => exact absurd hentry h
            | file content =>
                have hremoved := remove_eq_ok_iff.mpr ⟨location, content, hfile, hentry, rfl⟩
                simp [hremove] at hremoved
      · rw [if_neg hfile]

/-! ## Removing the registered files -/

theorem sweep_edits (temps : TempFiles) (fs : FileSystem) :
    EditsFiles (fun _ => True) fs (temps.sweep fs) :=
  .sweep fun _ _ => trivial

/-- A file is gone exactly if one of the registered paths leads to it. -/
theorem entryAt?_sweep (temps : TempFiles) (h : fs.entryAt? location ≠ some .directory) :
    (temps.sweep fs).entryAt? location =
      if ∃ p ∈ temps.paths, fs.fileAt? p = some location then none
      else fs.entryAt? location := by
  obtain ⟨paths⟩ := temps
  unfold TempFiles.sweep
  simp only
  induction paths generalizing fs with
  | nil => simp
  | cons p rest ih =>
      have hstep := discard_edits fs p
      have hnext : (fs.discard p).entryAt? location ≠ some .directory := by
        rwa [ne_eq, hstep.directory_iff]
      rw [List.foldl_cons, ih hnext, entryAt?_discard h]
      simp only [hstep.fileAt?_eq]
      by_cases hfirst : fs.fileAt? p = some location
      · simp [hfirst]
      · simp [hfirst]

/-! ## Removing an empty file of rejected rows -/

theorem dropEmptyReject_eq (fs : FileSystem) (reject : Path) :
    fs.dropEmptyReject reject = fs.discard reject ∨ fs.dropEmptyReject reject = fs := by
  unfold dropEmptyReject
  split
  · split
    · split
      · exact .inl rfl
      · exact .inr rfl
    · exact .inr rfl
  · exact .inr rfl

theorem countRecords_of_read {p : Path} {content : Bytes} (h : fs.read p = .ok content) :
    fs.countRecords p = .ok (Csv.countRecords content) := by
  have hopen := open?_eq_ok_file_iff.mpr (read_eq_ok_iff.mp h)
  simp [countRecords, hopen, Entry.read]

theorem dropEmptyReject_of_read {reject : Path} {content : Bytes} (h : fs.read reject = .ok content) :
    fs.dropEmptyReject reject =
      if Csv.countRecords content ≤ 1 then fs.discard reject else fs := by
  simp [dropEmptyReject, contains_of_read h, countRecords_of_read h]

/-- A file is gone exactly if the path leads to it and it holds one record at most. -/
theorem entryAt?_dropEmptyReject {content : Bytes} (reject : Path)
    (h : fs.entryAt? location = some (.file content)) :
    (fs.dropEmptyReject reject).entryAt? location =
      if fs.fileAt? reject = some location ∧ Csv.countRecords content ≤ 1 then none
      else some (.file content) := by
  by_cases hreject : fs.fileAt? reject = some location
  · have hread := read_eq_ok_iff.mpr ⟨location, hreject, h⟩
    rw [dropEmptyReject_of_read hread]
    by_cases hcount : Csv.countRecords content ≤ 1
    · simp [hcount, hreject, entryAt?_discard, h]
    · simp [hcount, h]
  · have hkept : (fs.discard reject).entryAt? location = some (.file content) := by
      rw [entryAt?_discard (by simp [h]), if_neg hreject, h]
    rw [if_neg fun hboth => hreject hboth.1]
    rcases dropEmptyReject_eq fs reject with hdropped | hsame
    · rw [hdropped, hkept]
    · rw [hsame, h]

theorem entryAt?_tidy {content : Bytes} (temps : TempFiles) (reject : Path)
    (h : fs.entryAt? location = some (.file content)) :
    (fs.tidy temps (some reject)).entryAt? location =
      if (∃ p ∈ temps.paths, fs.fileAt? p = some location) ∨
        (fs.fileAt? reject = some location ∧ Csv.countRecords content ≤ 1) then none
      else some (.file content) := by
  have hfile : fs.entryAt? location ≠ some .directory := by simp [h]
  have hsweep := entryAt?_sweep temps hfile
  have hpath := (sweep_edits temps fs).fileAt?_eq reject
  simp only [tidy]
  by_cases htemps : ∃ p ∈ temps.paths, fs.fileAt? p = some location
  · rw [if_pos htemps] at hsweep
    rw [if_pos (.inl htemps)]
    rcases dropEmptyReject_eq (temps.sweep fs) reject with hdropped | hsame
    · rw [hdropped, entryAt?_discard (by simp [hsweep]), hsweep, ite_self]
    · rw [hsame, hsweep]
  · rw [if_neg htemps, h] at hsweep
    rw [entryAt?_dropEmptyReject reject hsweep, hpath]
    simp [htemps]

/-! ## What is not there afterwards -/

/-- Nothing but a directory can be at the end of a path. -/
def Gone (fs : FileSystem) (p : Path) : Prop := fs.contains p = true → fs.isDirectory p = true

theorem gone_iff : fs.Gone p ↔ fs.isFile p = false := by
  unfold Gone contains isDirectory isFile
  cases fs.open? p with
  | error fault => simp [Except.isOk, Except.toBool]
  | ok entry => cases entry <;> simp [Except.isOk, Except.toBool]

/-- A path is gone if one with the same components is that leads somewhere. -/
theorem Gone.of_same {p q : Path} (h : fs.Gone q) (hsame : q.same p = true)
    (hleads : fs.fileAt? q ≠ none) : fs.Gone p := by
  rw [gone_iff, Bool.eq_false_iff] at h ⊢
  intro hfile
  obtain ⟨content, hread⟩ := isFile_iff.mp hfile
  obtain ⟨location, hp, hentry⟩ := read_eq_ok_iff.mp hread
  obtain ⟨found, hq⟩ := Option.ne_none_iff_exists'.mp hleads
  obtain rfl : found = location := by
    rw [← location_of_fileAt? hq, ← location_of_fileAt? hp]
    exact location_of_same fs.home hsame
  exact h (isFile_iff.mpr ⟨content, read_eq_ok_iff.mpr ⟨found, hq, hentry⟩⟩)

theorem gone_sweep (fs : FileSystem) {temps : TempFiles} (h : p ∈ temps.paths) :
    (temps.sweep fs).Gone p := by
  rw [gone_iff, Bool.eq_false_iff]
  intro hfile
  obtain ⟨content, hread⟩ := isFile_iff.mp hfile
  obtain ⟨found, hpath, hentry⟩ := read_eq_ok_iff.mp hread
  rw [(sweep_edits temps fs).fileAt?_eq] at hpath
  have hplain : fs.entryAt? found ≠ some .directory := by
    rw [ne_eq, ← (sweep_edits temps fs).directory_iff, hentry]
    simp
  rw [entryAt?_sweep temps hplain, if_pos ⟨p, h, hpath⟩] at hentry
  simp at hentry

/-- Tidying up removes files, and writes none. -/
theorem entryAt?_dropEmptyReject_of_file {content : Bytes} {reject : Path}
    (h : (fs.dropEmptyReject reject).entryAt? location = some (.file content)) :
    fs.entryAt? location = some (.file content) := by
  rcases dropEmptyReject_eq fs reject with hdropped | hsame
  · rw [hdropped] at h
    have hfile : fs.entryAt? location ≠ some .directory := by
      rw [ne_eq, ← (discard_edits fs reject).directory_iff, h]
      simp
    rw [entryAt?_discard hfile] at h
    split at h
    · simp at h
    · exact h
  · rwa [hsame] at h

/-- A file of rejected rows is read afterwards if it holds a row. -/
theorem read_dropEmptyReject (fs : FileSystem) (reject : Path) :
    ((fs.dropEmptyReject reject).read reject).toOption =
      (fs.read reject).toOption.filter fun content => 1 < Csv.countRecords content := by
  have hedits : EditsFiles (fun _ => True) fs (fs.dropEmptyReject reject) :=
    .dropEmptyReject trivial
  have hpath := hedits.fileAt?_eq reject
  cases hread : fs.read reject with
  | error fault =>
      cases hafter : (fs.dropEmptyReject reject).read reject with
      | error _ => rfl
      | ok content =>
          obtain ⟨location, hfile, hentry⟩ := read_eq_ok_iff.mp hafter
          rw [hpath] at hfile
          have hbefore := read_eq_ok_iff.mpr
            ⟨location, hfile, entryAt?_dropEmptyReject_of_file hentry⟩
          simp [hread] at hbefore
  | ok content =>
      obtain ⟨location, hfile, hentry⟩ := read_eq_ok_iff.mp hread
      have hleft := entryAt?_dropEmptyReject reject hentry
      by_cases hcount : Csv.countRecords content ≤ 1
      · rw [if_pos ⟨hfile, hcount⟩] at hleft
        cases hafter : (fs.dropEmptyReject reject).read reject with
        | error _ => simp [Except.toOption, Option.filter, Nat.not_lt.mpr hcount]
        | ok other =>
            obtain ⟨found, hfound, hentry'⟩ := read_eq_ok_iff.mp hafter
            rw [hpath, hfile] at hfound
            obtain rfl := Option.some.inj hfound
            simp [hleft] at hentry'
      · rw [if_neg fun hboth => hcount hboth.2] at hleft
        rw [read_eq_ok_iff.mpr ⟨location, hpath.trans hfile, hleft⟩]
        simp [Except.toOption, Option.filter, Nat.lt_of_not_le hcount]

theorem read_tidy_reject {temps : TempFiles} {reject : Path}
    (hfree : ∀ p ∈ temps.paths, p.location fs.home ≠ reject.location fs.home) :
    ((fs.tidy temps (some reject)).read reject).toOption =
      (fs.read reject).toOption.filter fun content => 1 < Csv.countRecords content := by
  have hsweep : EditsFiles (· ≠ reject.location fs.home) fs (temps.sweep fs) := .sweep hfree
  have hread := hsweep.toOption_read fun location hfile hdiffer =>
    hdiffer (location_of_fileAt? hfile).symm
  rw [← hread]
  exact read_dropEmptyReject _ reject

theorem gone_tidy {temps : TempFiles} (h : p ∈ temps.paths) (reject : Path) :
    (fs.tidy temps (some reject)).Gone p := by
  have hswept := gone_sweep fs h
  rw [gone_iff, Bool.eq_false_iff] at hswept ⊢
  intro hfile
  obtain ⟨content, hread⟩ := isFile_iff.mp hfile
  obtain ⟨found, hpath, hentry⟩ := read_eq_ok_iff.mp hread
  have hedits : EditsFiles (fun _ => True) (temps.sweep fs) (fs.tidy temps (some reject)) :=
    .dropEmptyReject trivial
  rw [hedits.fileAt?_eq] at hpath
  apply hswept
  exact isFile_iff.mpr ⟨content,
    read_eq_ok_iff.mpr ⟨found, hpath, entryAt?_dropEmptyReject_of_file hentry⟩⟩

theorem countRecords_tidy {temps : TempFiles} {reject : Path}
    (h : (fs.tidy temps (some reject)).isFile reject = true) :
    ∃ count, (fs.tidy temps (some reject)).countRecords reject = .ok count ∧ 2 ≤ count := by
  obtain ⟨content, hread⟩ := isFile_iff.mp h
  obtain ⟨found, hpath, hentry⟩ := read_eq_ok_iff.mp hread
  have hedits : EditsFiles (fun _ => True) (temps.sweep fs) (fs.tidy temps (some reject)) :=
    .dropEmptyReject trivial
  rw [hedits.fileAt?_eq] at hpath
  have hswept := entryAt?_dropEmptyReject_of_file hentry
  have hleft := entryAt?_dropEmptyReject reject hswept
  have hcount : ¬ Csv.countRecords content ≤ 1 := by
    intro hfew
    rw [if_pos ⟨hpath, hfew⟩] at hleft
    rw [show (temps.sweep fs).dropEmptyReject reject = fs.tidy temps (some reject) from rfl,
      hentry] at hleft
    simp at hleft
  exact ⟨Csv.countRecords content, countRecords_of_read hread, by omega⟩

end FileSystem

end TidyCsv
