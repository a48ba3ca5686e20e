import TidyCsv.Proofs.Mojibake.Sample
import TidyCsv.Proofs.Run.Supply

/-! # The repaired copy of a file

A file is copied if its sample shows mojibake and its whole content can be repaired. The copy holds
the repaired text of the whole, and a longer sample leads to the same copy; where none is made,
nothing is written at all. -/

namespace TidyCsv.Resolution

open FileSystem

variable {fs after : FileSystem} {source destination : Path} {content : Bytes} {size size' : Nat}

/-- A file that can be read is copied or left alone, wherever there is room for a copy. -/
theorem repairFile_eq (hread : fs.read source = .ok content) (hroom : fs.HasRoom destination)
    (size : Nat) :
    repairFile fs source destination size =
      .ok (match Mojibake.repairContent? size content with
        | none => (false, fs)
        | some copy => (true, fs.put (destination.location fs.home) (.file copy))) := by
  rw [repairFile_of_read hread]
  cases Mojibake.repairContent? size content with
  | none => rfl
  | some copy =>
    dsimp only
    rw [hroom.write]
    rfl

/-- A copy is written exactly if the content has one, and it is the only thing that is written. -/
theorem repairFile_true_iff (hread : fs.read source = .ok content)
    (hroom : fs.HasRoom destination) :
    repairFile fs source destination size = .ok (true, after) ↔
      ∃ copy, Mojibake.repairContent? size content = some copy ∧
        after = fs.put (destination.location fs.home) (.file copy) := by
  rw [repairFile_eq hread hroom]
  cases Mojibake.repairContent? size content <;> simp [eq_comm]

theorem repairFile_false (hread : fs.read source = .ok content) (hroom : fs.HasRoom destination)
    (h : repairFile fs source destination size = .ok (false, after)) : after = fs := by
  rw [repairFile_eq hread hroom] at h
  cases hcopy : Mojibake.repairContent? size content with
  | none => simpa [hcopy, eq_comm] using h
  | some copy => simp [hcopy] at h

/-- The disk fails while a copy is written to it. -/
def BreaksOff (disk : Disk) (fs : FileSystem) (source destination : Path) (sample : Option Nat)
    (last : FileSystem) : Prop :=
  ∃ size ∈ sample, ∃ copied fault, repairFile fs source destination size = .ok (true, copied) ∧
    disk.hold destination copied = (.error fault, last)

theorem not_breaksOff_sound {sample : Option Nat} {last : FileSystem} :
    ¬ BreaksOff .sound fs source destination sample last := by
  rintro ⟨size, -, copied, fault, -, hhold⟩
  simp [Disk.hold_of_flawless (Disk.flawAt?_sound _)] at hhold

theorem files_of_repair_error {directory path : Path} {baseName : String} {sample : Option Nat}
    {world last : World} {failure : Failure}
    (h : (repair directory baseName path sample).on world = (.error failure, last)) :
    last.files = world.files ∨ BreaksOff world.disk world.files path
      (derivedPath directory baseName "_fixed.csv") sample last.files := by
  cases sample with
  | none => simp [repair] at h
  | some size =>
    simp only [repair] at h
    rw [Run.on_bind_of_ok (Run.on_register _ _), Run.on_files_bind] at h
    split at h
    · obtain ⟨-, rfl⟩ := Prod.mk.inj h
      exact .inl rfl
    · simp at h
    · next copied hcopied =>
        rw [Run.on_bind, Run.on_keep] at h
        dsimp only at h hcopied
        rcases hhold : world.disk.hold (derivedPath directory baseName "_fixed.csv") copied with
          ⟨fault | ⟨⟩, held⟩
        · rw [hhold] at h
          obtain ⟨-, rfl⟩ := Prod.mk.inj h
          exact .inr ⟨size, rfl, copied, fault, hcopied, hhold⟩
        · simp [hhold, Except.mapError] at h

/-- A longer sample leads to the same copy as a shorter one that leads to a copy. A copy is the
repaired text of the whole content, and no other file changes with it; without one, and after a
failure before anything is written, all files are as they were. A sample of the whole content leads
to a copy exactly if the content is UTF-8 and repair changes it. -/
theorem repairFile_faithful (hread : fs.read source = .ok content)
    (hroom : fs.HasRoom destination)
    (hdiffer : source.location fs.home ≠ destination.location fs.home) :
    (∀ size, ∃ done after, repairFile fs source destination size = .ok (done, after)) ∧
    (∀ size size' after, size ≤ size' →
      repairFile fs source destination size = .ok (true, after) →
        repairFile fs source destination size' = .ok (true, after)) ∧
    (∀ size after, repairFile fs source destination size = .ok (true, after) →
      EditsFiles (· = destination.location fs.home) fs after ∧ after.read source = .ok content ∧
        ∃ text, content = Utf8.encode text ∧
          after.read destination = .ok (Utf8.encode (Mojibake.repair text))) ∧
    (∀ size after, repairFile fs source destination size = .ok (false, after) → after = fs) ∧
    (∀ (directory path : Path) (baseName : String) (sample : Option Nat) (world last : World)
      (failure : Failure),
      (repair directory baseName path sample).on world = (.error failure, last) →
        last.files = world.files ∨ BreaksOff world.disk world.files path
          (derivedPath directory baseName "_fixed.csv") sample last.files) ∧
    ∀ size, content.length ≤ size →
      ((∃ after, repairFile fs source destination size = .ok (true, after)) ↔
        ∃ text, content = Utf8.encode text ∧ Mojibake.repair text ≠ text) := by
  refine ⟨?_, ?_, ?_, fun size after => repairFile_false hread hroom,
    fun _ _ _ _ _ _ _ => files_of_repair_error, ?_⟩
  · intro size
    exact ⟨_, _, repairFile_eq hread hroom size⟩
  · intro size size' after hle h
    obtain ⟨copy, hcopy, hafter⟩ := (repairFile_true_iff hread hroom).mp h
    exact (repairFile_true_iff hread hroom).mpr
      ⟨copy, Mojibake.repairContent?_mono hle hcopy, hafter⟩
  · intro size after h
    obtain ⟨copy, hcopy, hafter⟩ := (repairFile_true_iff hread hroom).mp h
    have hwrite : fs.write destination copy = .ok after :=
      write_eq_ok_iff_hasRoom.mpr ⟨hroom, hafter⟩
    have hedits : EditsFiles (· = destination.location fs.home) fs after := .write hwrite rfl
    have hapart : ∀ location, fs.fileAt? source = some location →
        location ≠ destination.location fs.home := by
      intro location hfile
      rw [← location_of_fileAt? hfile]
      exact hdiffer
    obtain ⟨-, text, htext, -, rfl⟩ := Mojibake.repairContent?_eq_some_iff.mp hcopy
    exact ⟨hedits, (hedits.read_eq_ok_iff hapart).mpr hread, text, htext,
      EditsFiles.read_of_write hwrite⟩
  · intro size hsize
    simp only [repairFile_true_iff hread hroom, Mojibake.repairContent?_of_length_le hsize]
    constructor
    · rintro ⟨-, copy, ⟨text, htext, hchanged, -⟩, -⟩
      exact ⟨text, htext, hchanged⟩
    · rintro ⟨text, htext, hchanged⟩
      exact ⟨_, _, ⟨text, htext, hchanged, rfl⟩, rfl⟩

/-- A sample of five bytes ends inside of the second signature. Without the first one it would show
nothing; with it, the copy is that of the whole content. -/
theorem repairFile_cutSample :
    let fs : FileSystem := ⟨[], [(["in.csv"], .file (Utf8.ofString "Ã©Ã©"))]⟩
    let after := fs.put ["fixed.csv"] (.file (Utf8.ofString "éé"))
    fs.read ⟨"in.csv"⟩ = .ok (Utf8.ofString "Ã©Ã©") ∧ fs.HasRoom ⟨"fixed.csv"⟩ ∧
      Path.location fs.home ⟨"in.csv"⟩ ≠ Path.location fs.home ⟨"fixed.csv"⟩ ∧
      repairFile fs ⟨"in.csv"⟩ ⟨"fixed.csv"⟩ 3 = .ok (false, fs) ∧
      repairFile fs ⟨"in.csv"⟩ ⟨"fixed.csv"⟩ 5 = .ok (true, after) ∧
      repairFile fs ⟨"in.csv"⟩ ⟨"fixed.csv"⟩ 5000 = .ok (true, after) ∧
      after.read ⟨"in.csv"⟩ = .ok (Utf8.ofString "Ã©Ã©") ∧
      ∃ text, Utf8.ofString "Ã©Ã©" = Utf8.encode text ∧
        after.read ⟨"fixed.csv"⟩ = .ok (Utf8.encode (Mojibake.repair text)) := by
  intro fs after
  have hread : fs.read ⟨"in.csv"⟩ = .ok (Utf8.ofString "Ã©Ã©") := by decide
  have hroom : fs.HasRoom ⟨"fixed.csv"⟩ := by decide
  have hdiffer : Path.location fs.home ⟨"in.csv"⟩ ≠ Path.location fs.home ⟨"fixed.csv"⟩ := by
    decide +kernel
  have hshort : repairFile fs ⟨"in.csv"⟩ ⟨"fixed.csv"⟩ 5 = .ok (true, after) := by decide +kernel
  obtain ⟨-, hmono, hcopy, -⟩ := repairFile_faithful hread hroom hdiffer
  obtain ⟨-, hkept, hfixed⟩ := hcopy 5 after hshort
  exact ⟨hread, hroom, hdiffer, by decide, hshort,
    hmono 5 5000 after (by decide) hshort, hkept, hfixed⟩

end TidyCsv.Resolution
