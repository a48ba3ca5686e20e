import TidyCsv.Proofs.Run.Frame
import TidyCsv.Proofs.Storage.Tidying

/-! # What resolving makes of an input

What the engine reads is a function of the settings and of the content of the input: a file is
converted to UTF-8 and repaired, and an archive is decompressed. So are the intermediate files that
are registered on the way. -/

namespace TidyCsv

open FileSystem Run

namespace Resolution

/-! ## Contents -/

/-- A content in another encoding as UTF-8, if it can be decoded. -/
def converted? (label : String) (bytes : Bytes) : Option Bytes :=
  match (Encoding.ofLabel? label).bind Transcoding.Decoder.ofEncoding? with
  | none => none
  | some decoder =>
    let transcript := decoder.run (Transcoding.pieces bytes)
    if transcript.failedAt = none then some (Utf8.encode transcript.text) else none

/-- The label of the encoding of a content, if one is found. -/
def labelOf? (bytes : Bytes) : Option String :=
  match Detection.detect (bytes.take Detection.sampleSize) with
  | .ok verdict => some verdict.label
  | .error _ => none

/-- The content of a file as UTF-8. -/
def utf8Content? (label : String) (bytes : Bytes) : Option Bytes :=
  if Encoding.needsConversion label then converted? label bytes else some bytes

/-- A content after repair, if that is asked for. -/
def repaired (sample : Option Nat) (content : Bytes) : Bytes :=
  match sample with
  | none => content
  | some sample => (Mojibake.repairContent? sample content).getD content

/-- How much of a file is searched for mojibake, if it is to be repaired. -/
def repairSample (settings : Settings) : Option Nat :=
  if settings.checkOnly then none else settings.mojibakeSample

/-- What an engine reads of an input with the given content. -/
def engineContent? (settings : Settings) (bytes : Bytes) : InputReference → Option Bytes
  | .file _ => ((labelOf? bytes).bind (utf8Content? · bytes)).map (repaired (repairSample settings))
  | .compressed _ .gzip => (BuiltIn.gunzip bytes).toOption
  | _ => none

/-- The intermediate files that are registered for an input with the given content. -/
def intermediates (settings : Settings) (directory : Path) (baseName : String) (bytes : Bytes) :
    InputReference → List Path
  | .file _ =>
    (if (labelOf? bytes).any Encoding.needsConversion then
        [derivedPath directory baseName "_utf8.csv"]
      else [])
      ++ if (repairSample settings).isSome then [derivedPath directory baseName "_fixed.csv"]
        else []
  | _ => []

theorem mem_intermediates {settings : Settings} {directory : Path} {baseName : String}
    {bytes : Bytes} {reference : InputReference} {p : Path}
    (h : p ∈ intermediates settings directory baseName bytes reference) :
    p = derivedPath directory baseName "_utf8.csv" ∨
      p = derivedPath directory baseName "_fixed.csv" := by
  cases reference with
  | stdin => simp [intermediates] at h
  | remote url => simp [intermediates] at h
  | compressed path kind => simp [intermediates] at h
  | file path =>
      rcases List.mem_append.mp h with hutf8 | hfixed
      · split at hutf8
        · exact .inl (by simpa using hutf8)
        · simp at hutf8
      · split at hfixed
        · exact .inr (by simpa using hfixed)
        · simp at hfixed

theorem exists_text_derivedPath (directory : Path) (baseName ending : String) :
    ∃ text, derivedPath directory baseName ending = ⟨text ++ ending⟩ := by
  unfold derivedPath Path.join
  split
  · exact ⟨baseName, rfl⟩
  · split
    · exact ⟨directory.text ++ baseName, by rw [String.append_assoc]⟩
    · exact ⟨directory.text ++ "/" ++ baseName, by simp only [String.append_assoc]⟩

/-- Whatever the base name is, the own files of a run with different endings have different
paths. -/
theorem ending_eq_of_same {directory : Path} {baseName ending other : String}
    (hending : ending ∈ InputReference.ownEndings)
    (hother : other ∈ InputReference.ownEndings)
    (h : (derivedPath directory baseName ending).same (derivedPath directory baseName other) =
      true) : ending = other := by
  have hplain : ∀ ending ∈ InputReference.ownEndings,
      '/' ∉ ending.toList ∧ ending.toList.getLast? = some 'v' := by
    decide
  have hapart : ∀ ending ∈ InputReference.ownEndings, ∀ other ∈ InputReference.ownEndings,
      ending.toList <:+ other.toList → ending = other := by
    decide
  have hname : ∀ ending ∈ InputReference.ownEndings,
      ∃ stem, (derivedPath directory baseName ending).fileName? = some (stem ++ ending) := by
    intro ending hin
    obtain ⟨hslash, hlast⟩ := hplain ending hin
    obtain ⟨text, htext⟩ := exists_text_derivedPath directory baseName ending
    rw [htext]
    exact Path.fileName?_append text hslash hlast (by decide)
  obtain ⟨stem, hstem⟩ := hname ending hending
  obtain ⟨stem', hstem'⟩ := hname other hother
  have hcomponents : (derivedPath directory baseName ending).components =
      (derivedPath directory baseName other).components := by
    simpa [Path.same] using h
  have hsame : stem ++ ending = stem' ++ other := by
    rw [Path.fileName?, hcomponents, ← Path.fileName?, hstem'] at hstem
    exact (Option.some.inj hstem).symm
  have hfirst : ending.toList <:+ (stem ++ ending).toList := by simp
  have hsecond : other.toList <:+ (stem ++ ending).toList := by simp [hsame]
  rcases List.suffix_or_suffix_of_suffix hfirst hsecond with hsuffix | hsuffix
  · exact hapart ending hending other hother hsuffix
  · exact (hapart other hother ending hending hsuffix).symm

/-- Where a run may write one of its own files, it may write any other whose name is not longer. -/
theorem fileAt?_derivedPath {fs : FileSystem} {directory : Path} {reference : InputReference}
    {ending other : String} {location : Location} (hending : ending ∈ InputReference.ownEndings)
    (hother : other ∈ InputReference.ownEndings)
    (hshort : (Utf8.ofString other).length ≤ (Utf8.ofString ending).length)
    (h : fs.fileAt? (derivedPath directory reference.baseName ending) = some location) :
    fs.fileAt? (derivedPath directory reference.baseName other) =
      some ((derivedPath directory reference.baseName other).location fs.home) := by
  refine fileAt?_join_name (reference.isPlainName_own hending) (reference.isPlainName_own hother)
    (reference.nul_not_mem_own hother) ?_ h
  rw [Utf8.length_ofString_append, Utf8.length_ofString_append]
  omega

/-! ## Files -/

theorem detectFile_ok {fs : FileSystem} {path : Path} {verdict : Detection.Verdict}
    (h : detectFile fs path = .ok verdict) :
    ∃ bytes, fs.read path = .ok bytes ∧
      Detection.detect (bytes.take Detection.sampleSize) = .ok verdict := by
  unfold detectFile at h
  split at h
  · simp at h
  · next sample hsample =>
      obtain ⟨bytes, hread, rfl⟩ := read_of_readFirst (by decide) hsample
      split at h
      · next hdetect =>
          obtain rfl := Except.ok.inj h
          exact ⟨bytes, hread, hdetect⟩
      · simp at h

/-- A conversion that succeeds has emptied its destination, read its source after that, and written
what it decoded without a fault. -/
theorem convertFile_parts {fs after : FileSystem} {source destination : Path} {label : String}
    (h : convertFile fs source destination label = (.ok (), after)) :
    ∃ decoder emptied bytes,
      (Encoding.ofLabel? label).bind Transcoding.Decoder.ofEncoding? = some decoder ∧
      fs.create destination = .ok emptied ∧ emptied.read source = .ok bytes ∧
      (decoder.run (Transcoding.pieces bytes)).failedAt = none ∧
      emptied.write destination
        (Utf8.encode (decoder.run (Transcoding.pieces bytes)).text) = .ok after := by
  unfold convertFile convertFileBy at h
  dsimp only at h
  split at h
  · simp at h
  · next decoder hdecoder =>
      split at h
      · simp at h
      · split at h
        · simp at h
        · next emptied hcreate =>
            split at h
            · simp at h
            · next bytes hread =>
                split at h
                · simp at h
                · next written hwrite =>
                    split at h
                    · simp at h
                    · next hdone =>
                        obtain rfl : written = after := by simpa using h
                        exact ⟨decoder, emptied, bytes, hdecoder, hcreate, hread, hdone, hwrite⟩

theorem convertFile_ok {fs after : FileSystem} {source destination : Path} {label : String}
    {bytes : Bytes} (h : convertFile fs source destination label = (.ok (), after))
    (hread : fs.read source = .ok bytes)
    (hdiffer : source.location fs.home ≠ destination.location fs.home) :
    ∃ content, converted? label bytes = some content ∧ after.read destination = .ok content := by
  obtain ⟨decoder, emptied, found, hdecoder, hcreate, hfound, hdone, hwrite⟩ := convertFile_parts h
  -- emptying the destination leaves the source as it was
  have hedits : EditsFiles (· = destination.location fs.home) fs emptied := .write hcreate rfl
  have hsource : emptied.read source = .ok bytes := by
    refine (hedits.read_eq_ok_iff ?_).mpr hread
    intro location hfile hsame
    exact hdiffer ((location_of_fileAt? hfile).trans hsame)
  obtain rfl : bytes = found := Except.ok.inj (hsource.symm.trans hfound)
  exact ⟨_, by simp [converted?, hdecoder, hdone], EditsFiles.read_of_write hwrite⟩

/-- Where there is room for the result, a conversion leaves what was decoded, and tells where decoding
failed if it did. -/
theorem convertFileBy_eq {split : Bytes → List Bytes} {fs : FileSystem} {source destination : Path}
    {label : String} {decoder : Transcoding.Decoder} {bytes : Bytes} {location : Location}
    (hdecoder : (Encoding.ofLabel? label).bind Transcoding.Decoder.ofEncoding? = some decoder)
    (hread : fs.read source = .ok bytes) (hroom : fs.Writable destination location)
    (hdiffer : source.location fs.home ≠ location) :
    convertFileBy split fs source destination label =
      (match (decoder.run (split bytes)).failedAt with
        | some position =>
          .error (.conversionFailed label (Transcoding.Refusal.malformed position).message)
        | none => .ok (),
        fs.put location (.file (Utf8.encode (decoder.run (split bytes)).text))) := by
  have hopen := open?_eq_ok_file_iff.mpr (read_eq_ok_iff.mp hread)
  have hedits : EditsFiles (· = location) fs (fs.put location (.file [])) :=
    .put hroom.ne_nil hroom.entry rfl
  have hread' : (fs.put location (.file [])).read source = .ok bytes :=
    (hedits.read_eq_ok_iff fun found hfile hsame =>
      hdiffer ((location_of_fileAt? hfile).trans hsame)).mpr hread
  have hcreate : fs.create destination = .ok (fs.put location (.file [])) := hroom.write []
  have hwrite := (hedits.writable_iff.mpr hroom).write (Utf8.encode (decoder.run (split bytes)).text)
  simp only [convertFileBy, hdecoder, hopen, hcreate, hread', hwrite, put_put]
  cases (decoder.run (split bytes)).failedAt <;> rfl

theorem convertFile_of_converted? {fs : FileSystem} {source destination : Path} {label : String}
    {bytes content : Bytes} {location : Location} (hcontent : converted? label bytes = some content)
    (hread : fs.read source = .ok bytes) (hroom : fs.Writable destination location)
    (hdiffer : source.location fs.home ≠ location) :
    convertFile fs source destination label = (.ok (), fs.put location (.file content)) := by
  unfold converted? at hcontent
  split at hcontent
  · simp at hcontent
  · next decoder hdecoder =>
      dsimp only at hcontent
      split at hcontent
      · next hdone =>
          obtain rfl := Option.some.inj hcontent
          rw [convertFile, convertFileBy_eq hdecoder hread hroom hdiffer, hdone]
      · simp at hcontent

/-- A conversion that succeeds leaves UTF-8, even if its source is its destination. -/
theorem convertFile_encodes {fs after : FileSystem} {source destination : Path} {label : String}
    (h : convertFile fs source destination label = (.ok (), after)) :
    ∃ text, after.read destination = .ok (Utf8.encode text) := by
  obtain ⟨decoder, emptied, bytes, -, -, -, -, hwrite⟩ := convertFile_parts h
  exact ⟨_, EditsFiles.read_of_write hwrite⟩

theorem repairFile_ok {fs after : FileSystem} {source destination : Path} {sample : Nat}
    {done : Bool} {content : Bytes}
    (h : repairFile fs source destination sample = .ok (done, after))
    (hread : fs.read source = .ok content) :
    done = false ∧ repaired (some sample) content = content ∨
      done = true ∧ after.read destination = .ok (repaired (some sample) content) := by
  unfold repairFile at h
  rw [readFirst_of_read hread] at h
  dsimp only at h
  split at h
  · rw [hread] at h
    dsimp only at h
    split at h
    · next hnone =>
        have hdone : done = false ∧ fs = after := by simpa [eq_comm] using h
        exact .inl ⟨hdone.1, by simp [repaired, hnone]⟩
    · next fixed hfixed =>
        cases hwrite : fs.write destination fixed with
        | error fault => simp [hwrite, Except.map] at h
        | ok written =>
            obtain ⟨rfl, rfl⟩ : done = true ∧ written = after := by
              simpa [hwrite, Except.map, eq_comm] using h
            refine .inr ⟨rfl, ?_⟩
            simpa [repaired, hfixed] using EditsFiles.read_of_write hwrite
  · next hplain =>
      have hdone : done = false ∧ fs = after := by simpa [eq_comm] using h
      exact .inl ⟨hdone.1, by simp [repaired, Mojibake.repairContent?, hplain]⟩

/-! ## Parts -/

variable {directory path working : Path} {baseName label : String} {world after : World}
  {bytes content : Bytes}

theorem convert_cases
    (h : (convert directory baseName path label).on world = (.ok working, after)) :
    (∃ fs, Encoding.needsConversion label = true ∧
        working = derivedPath directory baseName "_utf8.csv" ∧
        convertFile world.files path working label = (.ok (), fs) ∧
        world.disk.flawAt? (working.location world.files.home) = none ∧
        after = { world with files := fs, temps := world.temps.register working }) ∨
      Encoding.needsConversion label = false ∧ working = path ∧ after = world := by
  unfold convert at h
  split at h
  · next hneeds =>
      rw [on_bind_of_ok (on_register _ _), on_files_bind] at h
      rcases hresult : convertFile world.files path (derivedPath directory baseName "_utf8.csv")
        label with ⟨failure | ⟨⟩, fs⟩
      · simp [hresult] at h
      · simp only [hresult] at h
        obtain ⟨⟨⟩, middle, hkeep, hpure⟩ := on_bind_eq_ok_iff.mp h
        obtain ⟨hflawless, rfl⟩ := keep_ok hkeep
        obtain ⟨hworking, rfl⟩ := Prod.mk.inj hpure
        obtain rfl := Except.ok.inj hworking
        have hedits := convertFile_edits world.files path
          (derivedPath directory baseName "_utf8.csv") label
        rw [hresult] at hedits
        rw [hedits.home_eq] at hflawless
        exact .inl ⟨fs, hneeds, rfl, hresult, hflawless, rfl⟩
  · next hplain =>
      obtain ⟨hworking, rfl⟩ := Prod.mk.inj h
      exact .inr ⟨by simpa using hplain, (Except.ok.inj hworking).symm, rfl⟩

theorem convert_ok
    (h : (convert directory baseName path label).on world = (.ok working, after))
    (hread : world.files.read path = .ok bytes)
    (hdiffer : path.location world.files.home ≠
      (derivedPath directory baseName "_utf8.csv").location world.files.home) :
    ∃ content, utf8Content? label bytes = some content ∧
      after.files.read working = .ok content ∧
      after.temps =
        (if Encoding.needsConversion label then [derivedPath directory baseName "_utf8.csv"]
          else []).foldl TempFiles.register world.temps := by
  rcases convert_cases h with ⟨fs, hneeds, rfl, hresult, -, rfl⟩ | ⟨hplain, rfl, rfl⟩
  · obtain ⟨content, hcontent, hwritten⟩ := convertFile_ok hresult hread hdiffer
    exact ⟨content, by simp [utf8Content?, hneeds, hcontent], hwritten, by simp [hneeds]⟩
  · exact ⟨bytes, by simp [utf8Content?, hplain], hread, by simp [hplain]⟩

theorem repair_ok {sample : Option Nat} {done : Bool}
    (h : (repair directory baseName path sample).on world = (.ok (working, done), after))
    (hread : world.files.read path = .ok content) :
    after.files.read working = .ok (repaired sample content) ∧
      after.temps =
        (if sample.isSome then [derivedPath directory baseName "_fixed.csv"] else []).foldl
          TempFiles.register world.temps := by
  unfold repair at h
  cases sample with
  | none =>
      obtain ⟨hworking, rfl⟩ := Prod.mk.inj h
      obtain ⟨rfl, rfl⟩ : path = working ∧ false = done := by simpa using hworking
      exact ⟨hread, rfl⟩
  | some size =>
      simp only at h
      rw [on_bind_of_ok (on_register _ _), on_files_bind] at h
      split at h
      · simp at h
      · next fs hrepair =>
          obtain ⟨hworking, rfl⟩ := Prod.mk.inj h
          obtain ⟨rfl, rfl⟩ : path = working ∧ false = done := by simpa using hworking
          have hsame : repaired (some size) content = content := by
            simpa using repairFile_ok hrepair hread
          rw [hsame]
          exact ⟨hread, by simp⟩
      · next fs hrepair =>
          obtain ⟨⟨⟩, middle, hkeep, hpure⟩ := on_bind_eq_ok_iff.mp h
          obtain ⟨-, rfl⟩ := keep_ok hkeep
          obtain ⟨hworking, rfl⟩ := Prod.mk.inj hpure
          obtain ⟨rfl, rfl⟩ : _ = working ∧ true = done := by simpa using hworking
          exact ⟨by simpa using repairFile_ok hrepair hread, by simp⟩

/-! ## Inputs -/

/-- A file that is resolved has been read and found to have an encoding, then converted, and then
repaired. -/
theorem resolveFile_parts {settings : Settings} {resolved : Resolved}
    (h : (resolveFile settings directory baseName path).on world = (.ok resolved, after)) :
    ∃ bytes verdict working middle last done, world.files.read path = .ok bytes ∧
      Detection.detect (bytes.take Detection.sampleSize) = .ok verdict ∧
      (convert directory baseName path verdict.label).on world = (.ok working, middle) ∧
      (repair directory baseName working (repairSample settings)).on middle =
        (.ok (last, done), after) ∧
      resolved = ⟨.file last, verdict.label, done, some path⟩ := by
  unfold resolveFile at h
  rw [on_files_bind] at h
  split at h
  · simp at h
  · next verdict hverdict =>
      obtain ⟨bytes, hread, hdetect⟩ := detectFile_ok hverdict
      obtain ⟨working, middle, hconvert, h⟩ := on_bind_eq_ok_iff.mp h
      obtain ⟨⟨last, done⟩, final, hrepair, h⟩ := on_bind_eq_ok_iff.mp h
      obtain ⟨hresolved, rfl⟩ := Prod.mk.inj h
      exact ⟨bytes, verdict, working, middle, last, done, hread, hdetect, hconvert, hrepair,
        (Except.ok.inj hresolved).symm⟩

theorem resolveFile_ok {settings : Settings} {resolved : Resolved}
    (h : (resolveFile settings directory baseName path).on world = (.ok resolved, after))
    (hread : world.files.read path = .ok bytes)
    (hdiffer : path.location world.files.home ≠
      (derivedPath directory baseName "_utf8.csv").location world.files.home) :
    ∃ working content, resolved.source = .file working ∧
      engineContent? settings bytes (.file path) = some content ∧
      after.files.read working = .ok content ∧
      after.temps = (intermediates settings directory baseName bytes (.file path)).foldl
        TempFiles.register world.temps := by
  obtain ⟨found, verdict, working, middle, last, done, hfound, hdetect, hconvert, hrepair, rfl⟩ :=
    resolveFile_parts h
  obtain rfl : bytes = found := Except.ok.inj (hread.symm.trans hfound)
  have hlabel : labelOf? bytes = some verdict.label := by simp [labelOf?, hdetect]
  obtain ⟨content, hcontent, hworking, htemps⟩ := convert_ok hconvert hread hdiffer
  obtain ⟨hlast, htemps'⟩ := repair_ok hrepair hworking
  refine ⟨last, _, rfl, ?_, hlast, ?_⟩
  · simp [engineContent?, hlabel, hcontent]
  · simp only [htemps', htemps, intermediates, hlabel, Option.any_some, List.foldl_append]

/-- What resolving makes of an input that can be read: the engine reads the content that is made of
that of the input, and the intermediate files are registered. -/
theorem resolve_ok {reference : InputReference} (hpath : reference.path? = some path)
    {settings : Settings} {resolved : Resolved}
    (h : (resolve reference settings directory baseName).on world = (.ok resolved, after))
    (hread : world.files.read path = .ok bytes)
    (hdiffer : path.location world.files.home ≠
      (derivedPath directory baseName "_utf8.csv").location world.files.home) :
    after.temps = (intermediates settings directory baseName bytes reference).foldl
        TempFiles.register world.temps ∧
      ∀ network content, BuiltIn.Loads network after.files resolved.source content →
        engineContent? settings bytes reference = some content := by
  cases reference with
  | remote url => simp [InputReference.path?] at hpath
  | stdin => simp [InputReference.path?] at hpath
  | file found =>
      obtain rfl : found = path := by simpa [InputReference.path?] using hpath
      obtain ⟨working, content, hsource, hcontent, hworking, htemps⟩ :=
        resolveFile_ok h hread hdiffer
      refine ⟨htemps, fun network loaded hload => ?_⟩
      rw [hsource, BuiltIn.loads_file_iff, hworking] at hload
      rw [hcontent, Except.ok.inj hload]
  | compressed found kind =>
      obtain rfl : found = path := by simpa [InputReference.path?] using hpath
      obtain ⟨hresolved, rfl⟩ := Prod.mk.inj h
      obtain rfl := Except.ok.inj hresolved
      refine ⟨rfl, fun network content hload => ?_⟩
      obtain ⟨rfl, found, hfound, hcontent⟩ := BuiltIn.loads_compressed_iff.mp hload
      obtain rfl : bytes = found := Except.ok.inj (hread.symm.trans hfound)
      simp [engineContent?, hcontent, Except.toOption]

end Resolution

end TidyCsv
