import TidyCsv.Proofs.Encoding.Detection
import TidyCsv.Proofs.Run.Resolution

/-! # The working file

Standard input and files end up as a file for the engine. It is UTF-8 if the content has been
converted, and repair does not change whether it is. A content that is taken as it is was looked at
up to the size of a sample only, and so the working file is UTF-8 unless something was overlooked in
the rest. A text that is UTF-8 already is its own working file. -/

namespace TidyCsv

open FileSystem Run

/-- The content of an input that ends up as a file: that of the file, or what is piped in. -/
def InputReference.Provides (world : World) (bytes : Bytes) : InputReference → Prop
  | .file path => world.files.read path = .ok bytes
  | .stdin => world.stdin = .piped bytes
  | _ => False

namespace Resolution

variable {directory path working : Path} {baseName label : String} {world after : World}
  {bytes content : Bytes} {settings : Settings} {resolved : Resolved}

/-! ## Parts -/

theorem storeStdin_ok (h : (storeStdin directory baseName).on world = (.ok path, after)) :
    ∃ bytes, world.stdin = .piped bytes ∧ after.files.read path = .ok bytes := by
  unfold storeStdin at h
  rw [on_get_bind] at h
  split at h
  · simp at h
  · next bytes hstdin =>
      rw [on_bind_of_ok (on_register _ _), on_bind_of_ok (on_modify _ _)] at h
      obtain ⟨⟨⟩, middle, hwrite, h⟩ := on_bind_eq_ok_iff.mp h
      obtain ⟨hpath, rfl⟩ := Prod.mk.inj h
      obtain rfl := Except.ok.inj hpath
      obtain ⟨location, hwritable, -, rfl⟩ := write_ok hwrite
      exact ⟨bytes, hstdin,
        EditsFiles.read_of_write (write_eq_ok_iff.mpr ⟨location, hwritable, rfl⟩)⟩
  · rw [on_bind_of_ok (on_register _ _)] at h
    simp at h

/-- The file to go on with is UTF-8 if a conversion is asked for, and else the one given. -/
theorem convert_valid
    (h : (convert directory baseName path label).on world = (.ok working, after))
    (hread : world.files.read path = .ok bytes) :
    ∃ content, after.files.read working = .ok content ∧
      (Encoding.needsConversion label = true → Utf8.Valid content) ∧
      (Encoding.needsConversion label = false → content = bytes) := by
  rcases convert_cases h with ⟨fs, hneeds, rfl, hresult, -, rfl⟩ | ⟨hplain, rfl, rfl⟩
  · obtain ⟨text, hwritten⟩ := convertFile_encodes hresult
    exact ⟨_, hwritten, fun _ => Utf8.valid_encode text, by simp [hneeds]⟩
  · exact ⟨bytes, hread, by simp [hplain], fun _ => rfl⟩

/-- Only UTF-8 is repaired, and it stays UTF-8. -/
theorem valid_repaired_iff {sample : Option Nat} :
    Utf8.Valid (repaired sample content) ↔ Utf8.Valid content := by
  cases sample with
  | none => rfl
  | some size =>
      simp only [repaired]
      cases hrepaired : Mojibake.repairContent? size content with
      | none => rfl
      | some fixed =>
          unfold Mojibake.repairContent? at hrepaired
          split at hrepaired
          · obtain ⟨text, htext, rfl⟩ := Option.map_eq_some_iff.mp hrepaired
            obtain ⟨before, hbefore, -⟩ := Option.bind_eq_some_iff.mp htext
            exact iff_of_true (Utf8.valid_encode text) ⟨before, Utf8.decode?_eq_some_iff.mp hbefore⟩
          · simp at hrepaired

/-! ## Inputs -/

theorem resolveFile_valid
    (h : (resolveFile settings directory baseName path).on world = (.ok resolved, after)) :
    ∃ bytes working content, world.files.read path = .ok bytes ∧
      resolved.source = .file working ∧ after.files.read working = .ok content ∧
      (Utf8.Valid content ↔ ¬ Detection.Overlooked bytes) := by
  obtain ⟨bytes, verdict, working, middle, last, done, hread, hdetect, hconvert, hrepair, rfl⟩ :=
    resolveFile_parts h
  obtain ⟨content, hworking, hconverted, hsame⟩ := convert_valid hconvert hread
  obtain ⟨hlast, -⟩ := repair_ok hrepair hworking
  refine ⟨bytes, last, _, hread, rfl, hlast, valid_repaired_iff.trans ?_⟩
  rw [Detection.overlooked_iff hdetect, ← Detection.needsConversion_label_eq_false_iff]
  cases hneeds : Encoding.needsConversion verdict.label with
  | true => simp [hconverted hneeds]
  | false => simp [hsame hneeds]

theorem resolveFile_of_plain {verdict : Detection.Verdict}
    (hread : world.files.read path = .ok bytes)
    (hdetect : Detection.detect (bytes.take Detection.sampleSize) = .ok verdict)
    (hplain : verdict.IsPlain) (hrepair : repairSample settings = none) :
    (resolveFile settings directory baseName path).on world =
      (.ok ⟨.file path, verdict.label, false, some path⟩, world) := by
  have hverdict : detectFile world.files path = .ok verdict := by
    simp [detectFile, readFirst_of_read hread, hdetect]
  have hneeds := Detection.needsConversion_label_eq_false_iff.mpr hplain
  have hconvert : (convert directory baseName path verdict.label).on world = (.ok path, world) := by
    simp [convert, hneeds]
  have hsample : (if settings.checkOnly then none else settings.mojibakeSample) = none := hrepair
  unfold resolveFile
  rw [on_files_bind, hverdict]
  dsimp only
  rw [on_bind_of_ok hconvert, hsample]
  rfl

/-- The working file of an input that is resolved is UTF-8 exactly if nothing was overlooked in the
input, and so it is for every input that is shorter than the sample. -/
theorem resolve_workingFile {reference : InputReference}
    (hlocal : reference = .stdin ∨ ∃ path, reference = .file path)
    (h : (resolve reference settings directory baseName).on world = (.ok resolved, after)) :
    ∃ bytes working content, reference.Provides world bytes ∧ resolved.source = .file working ∧
      after.files.read working = .ok content ∧
      (Utf8.Valid content ↔ ¬ Detection.Overlooked bytes) ∧
      (bytes.length < Detection.sampleSize → Utf8.Valid content) := by
  have hshort : ∀ {bytes content : Bytes}, (Utf8.Valid content ↔ ¬ Detection.Overlooked bytes) →
      bytes.length < Detection.sampleSize → Utf8.Valid content :=
    fun hvalid hlength => hvalid.mpr fun hoverlooked =>
      Nat.not_le_of_lt hlength hoverlooked.sampleSize_le
  rcases hlocal with rfl | ⟨path, rfl⟩
  · obtain ⟨path, middle, hstore, h⟩ := on_bind_eq_ok_iff.mp h
    obtain ⟨bytes, hstdin, hstored⟩ := storeStdin_ok hstore
    obtain ⟨found, working, content, hread, hsource, hworking, hvalid⟩ := resolveFile_valid h
    obtain rfl : bytes = found := Except.ok.inj (hstored.symm.trans hread)
    exact ⟨bytes, working, content, hstdin, hsource, hworking, hvalid, hshort hvalid⟩
  · obtain ⟨bytes, working, content, hread, hsource, hworking, hvalid⟩ := resolveFile_valid h
    exact ⟨bytes, working, content, hread, hsource, hworking, hvalid, hshort hvalid⟩

/-! ## A byte after the sample -/

/-- ASCII as far as the sample reaches, and a byte after it that is in no UTF-8. -/
def lateContent : Bytes :=
  List.replicate Detection.sampleSize 0x61 ++ (Utf8.ofString "\nLou" ++ 0xFF :: Utf8.ofString "s\n")

theorem detect_late :
    Detection.detect (lateContent.take Detection.sampleSize) = .ok .ascii := by
  have hsample : lateContent.take Detection.sampleSize =
      List.replicate Detection.sampleSize 0x61 := List.take_left' List.length_replicate
  have hsize : Detection.sampleSize ≠ 0 := by decide
  rw [hsample, Detection.detect_eq_ascii_iff]
  refine ⟨?_, ?_, ?_, ?_⟩
  · simp [hsize]
  · simp
  · simp [Detection.isMostlyControl, List.countP_replicate, Detection.isControl]
  · simp [Bytes.isAscii]

theorem overlooked_late : Detection.Overlooked lateContent := by
  refine ⟨⟨.ascii, detect_late, .inl rfl⟩, ?_⟩
  rintro ⟨text, htext⟩
  have hmem : (0xFF : UInt8) ∈ lateContent := by simp [lateContent]
  rw [htext] at hmem
  exact absurd (Utf8.toNat_le_of_mem_encode hmem) (by decide)

/-- A world with the content in a file. -/
def lateWorld : World :=
  World.initial ((FileSystem.empty []).put ["in.csv"] (.file lateContent)) .terminal

theorem read_late : lateWorld.files.read ⟨"in.csv"⟩ = .ok lateContent := by
  have hread : ∀ content,
      ((FileSystem.empty []).put ["in.csv"] (.file content)).read ⟨"in.csv"⟩ = .ok content :=
    fun _ => rfl
  exact hread lateContent

/-- The file is found to be ASCII and handed on, and it is not UTF-8. -/
theorem resolve_late :
    let settings : Settings := ⟨0x2C, false, false, false, false, none, 0, .file ⟨"out.csv"⟩⟩
    let resolved : Resolved := ⟨.file ⟨"in.csv"⟩, "ascii", false, some ⟨"in.csv"⟩⟩
    (resolve (.file ⟨"in.csv"⟩) settings ⟨"."⟩ "in").on lateWorld = (.ok resolved, lateWorld) ∧
      ∃ working content, resolved.source = .file working ∧
        lateWorld.files.read working = .ok content ∧ ¬ Utf8.Valid content := by
  intro settings resolved
  have hresolve : (resolve (.file ⟨"in.csv"⟩) settings ⟨"."⟩ "in").on lateWorld =
      (.ok resolved, lateWorld) :=
    resolveFile_of_plain read_late detect_late (.inl rfl) rfl
  obtain ⟨bytes, working, content, hread, hsource, hworking, hvalid, -⟩ :=
    resolve_workingFile (.inr ⟨_, rfl⟩) hresolve
  obtain rfl : bytes = lateContent := Except.ok.inj (hread.symm.trans read_late)
  exact ⟨hresolve, working, content, hsource, hworking, fun h => hvalid.mp h overlooked_late⟩

/-! ## Texts in UTF-8 -/

/-- A text in UTF-8 is handed on as the file that it is, and nothing in the world changes, however
long it is and wherever the sample ends in it. Only a text that is empty, has a mark or looks binary
is treated in another way. -/
theorem resolve_text {text : List Char}
    (hread : world.files.read path = .ok (Utf8.encode text)) (hne : text ≠ [])
    (hmark : text.head? ≠ some '\uFEFF')
    (hnul : 0 ∉ (Utf8.encode text).take Detection.sampleSize)
    (hcontrol : ((Utf8.encode text).take Detection.sampleSize).countP Detection.isControl * 10 ≤
      ((Utf8.encode text).take Detection.sampleSize).length)
    (hrepair : settings.checkOnly = true ∨ settings.mojibakeSample = none) :
    ∃ verdict, detectFile world.files path = .ok verdict ∧
      verdict.label = (if Bytes.isAscii ((Utf8.encode text).take Detection.sampleSize) then "ascii"
        else "utf-8") ∧
      (resolve (.file path) settings directory baseName).on world =
        (.ok ⟨.file path, verdict.label, false, some path⟩, world) := by
  have hplainControl :
      Detection.isMostlyControl ((Utf8.encode text).take Detection.sampleSize) = false := by
    simp only [Detection.isMostlyControl, decide_eq_false_iff_not]
    omega
  have hdetect := Detection.detect_take (Utf8.valid_encode text) (Utf8.encode_ne_nil hne)
    (fun hprefix => hmark (Utf8.head?_of_utf8Mark_isPrefix hprefix)) hnul hplainControl
  have hsample : repairSample settings = none := by
    rcases hrepair with hcheck | hnone
    · simp [repairSample, hcheck]
    · simp [repairSample, hnone]
  refine ⟨_, ?_, ?_, resolveFile_of_plain hread hdetect ?_ hsample⟩
  · simp [detectFile, readFirst_of_read hread, hdetect]
  · split <;> rfl
  · split
    · exact .inl rfl
    · exact .inr rfl

/-- A text whose sample ends between the two bytes of a letter. -/
def cutText : List Char := List.replicate (Detection.sampleSize - 1) 'a' ++ ['é', '\n']

theorem take_encode_cutText :
    (Utf8.encode cutText).take Detection.sampleSize =
      List.replicate (Detection.sampleSize - 1) 0x61 ++ [0xC3] := by
  have hletter : Utf8.encodeChar 'a' = [0x61] := by decide
  have hlast : Utf8.encode ['é', '\n'] = [0xC3, 0xA9, 0x0A] := by decide
  have hencode : Utf8.encode cutText =
      List.replicate (Detection.sampleSize - 1) 0x61 ++ [0xC3, 0xA9, 0x0A] := by
    rw [← hlast]
    simp only [cutText, Utf8.encode, List.flatMap_append, List.flatMap_replicate, hletter,
      List.flatten_replicate_singleton]
  have hsize : Detection.sampleSize = (Detection.sampleSize - 1) + 1 := rfl
  rw [hencode, hsize, List.take_append, List.length_replicate]
  simp

/-- The letter is taken for what it is, and the file is handed on. -/
theorem resolve_cutText :
    let settings : Settings := ⟨0x2C, false, false, false, false, none, 0, .file ⟨"out.csv"⟩⟩
    let world : World := World.initial
      ((FileSystem.empty []).put ["in.csv"] (.file (Utf8.encode cutText))) .terminal
    cutText.head? ≠ some '\uFEFF' ∧ 0 ∉ (Utf8.encode cutText).take Detection.sampleSize ∧
      (resolve (.file ⟨"in.csv"⟩) settings ⟨"."⟩ "in").on world =
        (.ok ⟨.file ⟨"in.csv"⟩, "utf-8", false, some ⟨"in.csv"⟩⟩, world) := by
  intro settings world
  have hstored : ∀ content, ((FileSystem.empty []).put ["in.csv"] (.file content)).read ⟨"in.csv"⟩ =
      .ok content := fun _ => rfl
  have hread : world.files.read ⟨"in.csv"⟩ = .ok (Utf8.encode cutText) := hstored _
  have hrepair : settings.checkOnly = true ∨ settings.mojibakeSample = none := .inr rfl
  have hmark : cutText.head? ≠ some '\uFEFF' := by
    have hsize : Detection.sampleSize - 1 ≠ 0 := by decide
    simp only [cutText, List.head?_append, List.head?_replicate, if_neg hsize, Option.some_or]
    decide
  have hnul : 0 ∉ (Utf8.encode cutText).take Detection.sampleSize := by
    rw [take_encode_cutText]
    simp
  have hcontrol :
      ((Utf8.encode cutText).take Detection.sampleSize).countP Detection.isControl * 10 ≤
        ((Utf8.encode cutText).take Detection.sampleSize).length := by
    rw [take_encode_cutText]
    simp [List.countP_replicate, Detection.isControl]
  have hresolved : ∃ verdict, detectFile world.files ⟨"in.csv"⟩ = .ok verdict ∧
      verdict.label = (if Bytes.isAscii ((Utf8.encode cutText).take Detection.sampleSize)
        then "ascii" else "utf-8") ∧
      (resolve (.file ⟨"in.csv"⟩) settings ⟨"."⟩ "in").on world =
        (.ok ⟨.file ⟨"in.csv"⟩, verdict.label, false, some ⟨"in.csv"⟩⟩, world) :=
    resolve_text hread (by simp [cutText]) hmark hnul hcontrol hrepair
  obtain ⟨verdict, -, hlabel, hresolve⟩ := hresolved
  have hascii : Bytes.isAscii ((Utf8.encode cutText).take Detection.sampleSize) = false := by
    rw [take_encode_cutText]
    simp [Bytes.isAscii]
  rw [hlabel, hascii] at hresolve
  exact ⟨hmark, hnul, hresolve⟩

end Resolution

end TidyCsv
