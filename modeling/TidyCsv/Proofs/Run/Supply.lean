import TidyCsv.Proofs.Engine.Appraisal
import TidyCsv.Proofs.Run.Resolution

/-! # What reaches the engine

The content of an input decides what the engine reads of it and which intermediate files are written
on the way. The content reaches the engine if and only if these files can be written whole. Nothing
else in the file system counts, and of the directory of the intermediate files only the room. -/

namespace TidyCsv

open FileSystem Run

theorem BuiltIn.loads_remote_iff {network : Network} {fs : FileSystem} {url : String}
    {content : Bytes} :
    Loads network fs (.remote url) content ↔ loadRemote network url = .ok content := by
  constructor
  · rintro ⟨loaded, hload, hread⟩
    cases hbytes : loadRemote network url with
    | error fault => simp [load, hbytes, Except.map] at hload
    | ok bytes =>
        obtain rfl : Loaded.content bytes = loaded := by
          simpa [load, hbytes, Except.map] using hload
        exact hread
  · intro h
    exact ⟨.content content, by simp [load, h, Except.map], rfl⟩

namespace Resolution

/-! ## Contents and files -/

/-- A content as UTF-8, if its encoding is found and it can be decoded. -/
def decoded? (bytes : Bytes) : Option Bytes := (labelOf? bytes).bind (utf8Content? · bytes)

/-- Whether there is something to repair in a content. -/
def needsRepair (sample : Option Nat) (content : Bytes) : Bool :=
  sample.any fun sample => (Mojibake.repairContent? sample content).isSome

/-- The endings of the files that are written on the way from a file to the engine. -/
def fileEndings (sample : Option Nat) (bytes : Bytes) : List String :=
  (if (labelOf? bytes).any Encoding.needsConversion then ["_utf8.csv"] else [])
    ++ if (decoded? bytes).any (needsRepair sample) then ["_fixed.csv"] else []

/-- The endings of the files that are written on the way from an input to the engine. -/
def writtenEndings (sample : Option Nat) (fs : FileSystem) (stdin : Stdin) :
    InputReference → List String
  | .file path => ((fs.read path).toOption.map (fileEndings sample)).getD []
  | .stdin =>
    match stdin with
    | .piped bytes => "_stdin.csv" :: fileEndings sample bytes
    | .terminal => []
    | .broken _ => []
  | .compressed _ _ => []
  | .remote _ => []

theorem mem_ownEndings_of_written {sample : Option Nat} {fs : FileSystem}
    {stdin : Stdin} {reference : InputReference} {ending : String}
    (h : ending ∈ writtenEndings sample fs stdin reference) :
    ending ∈ InputReference.ownEndings := by
  have hfile : ∀ {bytes}, ending ∈ fileEndings sample bytes →
      ending ∈ InputReference.ownEndings := by
    intro bytes hending
    simp only [fileEndings, List.mem_append] at hending
    rcases hending with hutf8 | hfixed
    · split at hutf8 <;> simp_all [InputReference.ownEndings]
    · split at hfixed <;> simp_all [InputReference.ownEndings]
  cases reference with
  | remote url => simp [writtenEndings] at h
  | compressed path kind => simp [writtenEndings] at h
  | file path =>
      cases hread : fs.read path with
      | error fault => simp [writtenEndings, hread, Except.toOption] at h
      | ok bytes => exact hfile (by simpa [writtenEndings, hread, Except.toOption] using h)
  | stdin =>
      cases stdin with
      | terminal => simp [writtenEndings] at h
      | broken fault => simp [writtenEndings] at h
      | piped bytes =>
          rcases List.mem_cons.mp h with rfl | hmem
          · simp [InputReference.ownEndings]
          · exact hfile hmem

/-- What an engine reads of an input, given how much of it is searched for something to repair. -/
def content? (network : Network) (sample : Option Nat) (fs : FileSystem) (stdin : Stdin) :
    InputReference → Option Bytes
  | .file path => (fs.read path).toOption.bind fun bytes =>
    (decoded? bytes).map (repaired sample)
  | .stdin =>
    match stdin with
    | .piped bytes => (decoded? bytes).map (repaired sample)
    | .terminal => none
    | .broken _ => none
  | .compressed path .gzip => (fs.read path).toOption.bind fun bytes =>
    (BuiltIn.gunzip bytes).toOption
  | .compressed _ .zip => none
  | .remote url => (BuiltIn.loadRemote network url).toOption

theorem engineContent?_file (settings : Settings) (bytes : Bytes) (path : Path) :
    engineContent? settings bytes (.file path) =
      (decoded? bytes).map (repaired (repairSample settings)) := rfl

section Edits

variable {touched : Location → Prop} {fs after : FileSystem} {reference : InputReference}

/-- Of the files, only the input tells what reaches the engine. -/
theorem content?_congr
    (hread : ∀ path ∈ reference.path?, (after.read path).toOption = (fs.read path).toOption)
    (network : Network) (sample : Option Nat) (stdin : Stdin) :
    content? network sample after stdin reference = content? network sample fs stdin reference := by
  cases reference with
  | stdin => rfl
  | remote url => rfl
  | file path => simp only [content?, hread path rfl]
  | compressed path kind =>
      cases kind with
      | zip => rfl
      | gzip => simp only [content?, hread path rfl]

/-- What reaches the engine stays the same as long as the input does. -/
theorem content?_of_edits (h : EditsFiles touched fs after)
    (hinput : ∀ path ∈ reference.path?, ∀ location, fs.fileAt? path = some location →
      ¬ touched location) (network : Network) (sample : Option Nat) (stdin : Stdin) :
    content? network sample after stdin reference = content? network sample fs stdin reference :=
  content?_congr (fun path hpath => h.toOption_read (hinput path hpath)) network sample stdin

theorem writtenEndings_of_edits (h : EditsFiles touched fs after)
    (hinput : ∀ path ∈ reference.path?, ∀ location, fs.fileAt? path = some location →
      ¬ touched location) (sample : Option Nat) (stdin : Stdin) :
    writtenEndings sample after stdin reference = writtenEndings sample fs stdin reference := by
  cases reference with
  | file path => simp only [writtenEndings, h.toOption_read (hinput path rfl)]
  | stdin | remote | compressed => rfl

end Edits

end Resolution

/-- A file can be written whole: there is room for it, and the disk has no flaw there. -/
structure World.Takes (world : World) (p : Path) : Prop where
  hasRoom : world.files.HasRoom p
  flawless : world.disk.flawAt? (p.location world.files.home) = none

/-- A file that was written is kept if it can be written whole. -/
theorem World.Takes.on_keep {world middle : World} {p : Path} {fs : FileSystem}
    (h : world.Takes p) (hdisk : middle.disk = world.disk) (hhome : fs.home = world.files.home)
    (asFailure : IoFault → Failure) :
    (keep asFailure p fs).on middle = (.ok (), { middle with files := fs }) := by
  apply on_keep_of_flawless
  rw [hdisk, hhome]
  exact h.flawless

theorem World.takes_iff_of_edits {touched : Location → Prop} {before after : World}
    (h : EditsFiles touched before.files after.files) (hdisk : after.disk = before.disk) {p : Path} :
    after.Takes p ↔ before.Takes p := by
  constructor
  · rintro ⟨hroom, hflawless⟩
    exact ⟨h.hasRoom_iff.mp hroom, by rwa [hdisk, h.home_eq] at hflawless⟩
  · rintro ⟨hroom, hflawless⟩
    exact ⟨h.hasRoom_iff.mpr hroom, by rwa [hdisk, h.home_eq]⟩

namespace Resolution

variable {settings : Settings} {directory path working : Path} {baseName label : String}
  {world after : World} {bytes content : Bytes} {resolved : Resolved}

/-! ## Conversion -/

theorem convert_of_takes (hcontent : utf8Content? label bytes = some content)
    (hread : world.files.read path = .ok bytes)
    (hdiffer : path.location world.files.home ≠
      (derivedPath directory baseName "_utf8.csv").location world.files.home)
    (htakes : Encoding.needsConversion label = true →
      world.Takes (derivedPath directory baseName "_utf8.csv")) :
    ∃ working after, (convert directory baseName path label).on world = (.ok working, after) := by
  unfold convert
  split
  · next hneeds =>
      have hconverted : converted? label bytes = some content := by
        simpa [utf8Content?, hneeds] using hcontent
      have htakes := htakes hneeds
      have hconvert := convertFile_of_converted? hconverted hread htakes.hasRoom hdiffer
      rw [on_bind_of_ok (on_register _ _), on_files_bind, hconvert]
      exact ⟨_, _, on_bind_of_ok (htakes.on_keep (by rfl) (by rfl) _)⟩
  · exact ⟨path, world, rfl⟩

theorem takes_of_convert
    (h : (convert directory baseName path label).on world = (.ok working, after))
    (hneeds : Encoding.needsConversion label = true) :
    world.Takes (derivedPath directory baseName "_utf8.csv") := by
  rcases convert_cases h with ⟨fs, -, rfl, hresult, hflawless, -⟩ | ⟨hplain, -, -⟩
  · obtain ⟨decoder, emptied, bytes, -, hcreate, -⟩ := convertFile_parts hresult
    exact ⟨(write_eq_ok_iff_hasRoom.mp hcreate).1, hflawless⟩
  · simp [hneeds] at hplain

theorem takes_iff_of_convert
    (h : (convert directory baseName path label).on world = (.ok working, after)) {p : Path} :
    after.Takes p ↔ world.Takes p := by
  have hedits : EditsFiles (fun _ => True) world.files after.files :=
    (convert_edits ⟨trivial, trivial, trivial⟩ path label).files_of_on h rfl
  have hdisk : after.disk = world.disk := by
    rcases convert_cases h with ⟨fs, -, -, -, -, rfl⟩ | ⟨-, -, rfl⟩ <;> rfl
  exact World.takes_iff_of_edits hedits hdisk

/-! ## Repair -/

theorem repairFile_of_read {fs : FileSystem} {sample : Nat} {destination : Path}
    (hread : fs.read path = .ok content) :
    repairFile fs path destination sample =
      match Mojibake.repairContent? sample content with
      | none => .ok (false, fs)
      | some fixed => (fs.write destination fixed).map fun fs => (true, fs) := by
  unfold repairFile
  rw [readFirst_of_read hread, hread]
  dsimp only
  split
  · rfl
  · next hplain =>
      have hnone : Mojibake.repairContent? sample content = none := by
        simp [Mojibake.repairContent?, hplain]
      rw [hnone]

theorem repair_of_takes {sample : Option Nat} (hread : world.files.read path = .ok content)
    (htakes : needsRepair sample content = true →
      world.Takes (derivedPath directory baseName "_fixed.csv")) :
    ∃ last after, (repair directory baseName path sample).on world = (.ok last, after) := by
  cases sample with
  | none => exact ⟨_, _, rfl⟩
  | some size =>
      simp only [repair]
      rw [on_bind_of_ok (on_register _ _), on_files_bind]
      dsimp only
      rw [repairFile_of_read hread]
      cases hfixed : Mojibake.repairContent? size content with
      | none => exact ⟨_, _, rfl⟩
      | some fixed =>
          have htakes := htakes (by simp [needsRepair, hfixed])
          simp only [htakes.hasRoom.write fixed, Except.map]
          exact ⟨_, _, on_bind_of_ok (htakes.on_keep (by rfl) (by rfl) _)⟩

theorem takes_of_repair {sample : Option Nat} {last : Path × Bool}
    (h : (repair directory baseName path sample).on world = (.ok last, after))
    (hread : world.files.read path = .ok content) (hneeds : needsRepair sample content = true) :
    world.Takes (derivedPath directory baseName "_fixed.csv") := by
  cases sample with
  | none => simp [needsRepair] at hneeds
  | some size =>
      obtain ⟨fixed, hfixed⟩ := Option.isSome_iff_exists.mp (by simpa [needsRepair] using hneeds)
      simp only [repair] at h
      rw [on_bind_of_ok (on_register _ _), on_files_bind] at h
      dsimp only at h
      rw [repairFile_of_read hread, hfixed] at h
      cases hwrite : world.files.write (derivedPath directory baseName "_fixed.csv") fixed with
      | error fault => simp [hwrite, Except.map] at h
      | ok written =>
          simp only [hwrite, Except.map] at h
          obtain ⟨⟨⟩, middle, hkeep, -⟩ := on_bind_eq_ok_iff.mp h
          obtain ⟨hroom, rfl⟩ := write_eq_ok_iff_hasRoom.mp hwrite
          exact ⟨hroom, (keep_ok hkeep).1⟩

theorem working_of_repair {sample : Option Nat} {last : Path} {done : Bool}
    (h : (repair directory baseName path sample).on world = (.ok (last, done), after)) :
    last = path ∨ last = derivedPath directory baseName "_fixed.csv" := by
  cases sample with
  | none =>
      obtain ⟨rfl, -⟩ : path = last ∧ false = done := by simpa [repair] using (Prod.mk.inj h).1
      exact .inl rfl
  | some size =>
      simp only [repair] at h
      rw [on_bind_of_ok (on_register _ _), on_files_bind] at h
      split at h
      · simp at h
      · obtain ⟨rfl, -⟩ : path = last ∧ false = done := by simpa using (Prod.mk.inj h).1
        exact .inl rfl
      · obtain ⟨⟨⟩, middle, -, hpure⟩ := on_bind_eq_ok_iff.mp h
        obtain ⟨rfl, -⟩ : _ = last ∧ true = done := by simpa using (Prod.mk.inj hpure).1
        exact .inr rfl

/-! ## Files -/

section File

variable (hread : world.files.read path = .ok bytes)
  (hdiffer : path.location world.files.home ≠
    (derivedPath directory baseName "_utf8.csv").location world.files.home)
include hread hdiffer

theorem takes_of_resolveFile
    (h : (resolveFile settings directory baseName path).on world = (.ok resolved, after)) :
    (decoded? bytes).isSome ∧ ∀ ending ∈ fileEndings (repairSample settings) bytes,
      world.Takes (derivedPath directory baseName ending) := by
  obtain ⟨found, verdict, working, middle, last, done, hfound, hdetect, hconvert, hrepair, rfl⟩ :=
    resolveFile_parts h
  obtain rfl : bytes = found := Except.ok.inj (hread.symm.trans hfound)
  have hlabel : labelOf? bytes = some verdict.label := by simp [labelOf?, hdetect]
  obtain ⟨content, hcontent, hworking, -⟩ := convert_ok hconvert hread hdiffer
  have hdecoded : decoded? bytes = some content := by simp [decoded?, hlabel, hcontent]
  have hmiddle := takes_iff_of_convert hconvert
    (p := derivedPath directory baseName "_fixed.csv")
  refine ⟨by simp [hdecoded], fun ending hending => ?_⟩
  simp only [fileEndings, hlabel, hdecoded, Option.any_some, List.mem_append] at hending
  rcases hending with hutf8 | hfixed
  · split at hutf8
    · next hneeds =>
        obtain rfl : ending = "_utf8.csv" := by simpa using hutf8
        exact takes_of_convert hconvert hneeds
    · simp at hutf8
  · split at hfixed
    · next hneeds =>
        obtain rfl : ending = "_fixed.csv" := by simpa using hfixed
        exact hmiddle.mp (takes_of_repair hrepair hworking hneeds)
    · simp at hfixed

theorem resolveFile_of_takes (hsome : (decoded? bytes).isSome)
    (htakes : ∀ ending ∈ fileEndings (repairSample settings) bytes,
      world.Takes (derivedPath directory baseName ending)) :
    ∃ resolved after,
      (resolveFile settings directory baseName path).on world = (.ok resolved, after) := by
  obtain ⟨content, hdecoded⟩ := Option.isSome_iff_exists.mp hsome
  obtain ⟨label, hlabel, hcontent⟩ := Option.bind_eq_some_iff.mp hdecoded
  have hdetect : ∃ verdict, detectFile world.files path = .ok verdict ∧ verdict.label = label := by
    unfold labelOf? at hlabel
    split at hlabel
    · next verdict hverdict =>
        exact ⟨verdict, by simp [detectFile, readFirst_of_read hread, hverdict],
          Option.some.inj hlabel⟩
    · simp at hlabel
  obtain ⟨verdict, hverdict, rfl⟩ := hdetect
  obtain ⟨working, middle, hconvert⟩ := convert_of_takes hcontent hread hdiffer
    fun hneeds => htakes _ (by simp [fileEndings, hlabel, hneeds])
  obtain ⟨found, hfound, hworking, -⟩ := convert_ok hconvert hread hdiffer
  obtain rfl : content = found := Option.some.inj (hcontent.symm.trans hfound)
  have hfixed : needsRepair (repairSample settings) content = true →
      middle.Takes (derivedPath directory baseName "_fixed.csv") := fun hneeds =>
    (takes_iff_of_convert hconvert).mpr (htakes _ (by simp [fileEndings, hdecoded, hneeds]))
  obtain ⟨last, final, hrepair⟩ := repair_of_takes hworking hfixed
  unfold resolveFile
  rw [on_files_bind, hverdict]
  dsimp only
  rw [on_bind_of_ok hconvert]
  exact ⟨_, _, on_bind_of_ok hrepair⟩

/-- The engine reads what becomes of a file whose content can be decoded, if there is room for the
files that are written on the way. -/
theorem resolveFile_loads_iff {network : Network} :
    (∃ resolved after,
      (resolveFile settings directory baseName path).on world = (.ok resolved, after) ∧
        BuiltIn.Loads network after.files resolved.source content) ↔
      (decoded? bytes).map (repaired (repairSample settings)) = some content ∧
        ∀ ending ∈ fileEndings (repairSample settings) bytes,
          world.Takes (derivedPath directory baseName ending) := by
  have hloads : ∀ {resolved after},
      (resolveFile settings directory baseName path).on world = (.ok resolved, after) →
        (BuiltIn.Loads network after.files resolved.source content ↔
          (decoded? bytes).map (repaired (repairSample settings)) = some content) := by
    intro resolved after h
    obtain ⟨working, found, hsource, hfound, hworking, -⟩ := resolveFile_ok h hread hdiffer
    rw [engineContent?_file] at hfound
    rw [hsource, BuiltIn.loads_file_iff, hworking, hfound, Except.ok.injEq, Option.some.injEq]
  constructor
  · rintro ⟨resolved, after, h, hload⟩
    exact ⟨(hloads h).mp hload, (takes_of_resolveFile hread hdiffer h).2⟩
  · rintro ⟨hcontent, htakes⟩
    have hsome : (decoded? bytes).isSome := by
      cases hdecoded : decoded? bytes <;> simp [hdecoded] at hcontent ⊢
    obtain ⟨resolved, after, h⟩ := resolveFile_of_takes hread hdiffer hsome htakes
    exact ⟨resolved, after, h, (hloads h).mpr hcontent⟩

end File

/-! ## Inputs -/

theorem on_storeStdin_of_piped (hstdin : world.stdin = .piped bytes)
    (htakes : world.Takes (derivedPath directory baseName "_stdin.csv")) :
    ∃ after, (storeStdin directory baseName).on world =
        (.ok (derivedPath directory baseName "_stdin.csv"), after) ∧
      after.files.read (derivedPath directory baseName "_stdin.csv") = .ok bytes ∧
      ∀ p, after.Takes p ↔ world.Takes p := by
  have hwrite := htakes.hasRoom.write bytes
  have hedits : EditsFiles (fun _ => True) world.files _ := .write hwrite trivial
  unfold storeStdin
  rw [on_get_bind, hstdin]
  dsimp only
  rw [on_bind_of_ok (on_register _ _), on_bind_of_ok (on_modify _ _), on_bind, on_write]
  simp only [hwrite]
  rw [htakes.on_keep (by rfl) (by rfl)]
  refine ⟨_, rfl, EditsFiles.read_of_write hwrite, fun p => ?_⟩
  apply World.takes_iff_of_edits
  · exact hedits
  · rfl

theorem storeStdin_parts
    (h : (storeStdin directory baseName).on world = (.ok path, after)) :
    path = derivedPath directory baseName "_stdin.csv" ∧
      world.Takes (derivedPath directory baseName "_stdin.csv") := by
  unfold storeStdin at h
  rw [on_get_bind] at h
  split at h
  · simp at h
  · rw [on_bind_of_ok (on_register _ _), on_bind_of_ok (on_modify _ _)] at h
    obtain ⟨_, middle, hwrite, hlast⟩ := on_bind_eq_ok_iff.mp h
    obtain ⟨location, hwritable, hflawless, -⟩ := write_ok hwrite
    exact ⟨(Except.ok.inj (Prod.mk.inj hlast).1).symm, (writable_iff_hasRoom.mp hwritable).1,
      hflawless⟩
  · obtain ⟨⟨⟩, registered, -, hthrow⟩ := on_bind_eq_ok_iff.mp h
    simp at hthrow

theorem location_derivedPath_ne (home : Location) (reference : InputReference) (directory : Path)
    {ending other : String} (hending : ending ∈ InputReference.ownEndings)
    (hother : other ∈ InputReference.ownEndings) (hne : ending ≠ other) :
    (derivedPath directory reference.baseName ending).location home ≠
      (derivedPath directory reference.baseName other).location home := by
  rw [derivedPath, derivedPath,
    Path.location_join_name home directory (reference.isPlainName_own hending),
    Path.location_join_name home directory (reference.isPlainName_own hother)]
  exact InputReference.own_ne_own hne _ _

/-- The engine reads an input as a content. -/
def Reaches (network : Network) (settings : Settings) (directory : Path)
    (reference : InputReference) (world : World) (content : Bytes) : Prop :=
  ∃ resolved after, (resolve reference settings directory reference.baseName).on world =
    (.ok resolved, after) ∧ BuiltIn.Loads network after.files resolved.source content

theorem reaches_of_pure {network : Network} {reference : InputReference} {resolved : Resolved}
    (h : resolve reference settings directory reference.baseName = pure resolved) :
    Reaches network settings directory reference world content ↔
      BuiltIn.Loads network world.files resolved.source content := by
  unfold Reaches
  rw [h]
  constructor
  · rintro ⟨found, after, ⟨⟩, hload⟩
    exact hload
  · intro hload
    exact ⟨resolved, world, rfl, hload⟩

theorem reaches_file_iff {network : Network} :
    Reaches network settings directory (.file path) world content ↔
      content? network (repairSample settings) world.files world.stdin (.file path) =
          some content ∧
        ∀ ending ∈ writtenEndings (repairSample settings) world.files world.stdin (.file path),
          world.Takes
            (derivedPath directory (InputReference.file path).baseName ending) := by
  cases hread : world.files.read path with
  | error fault =>
      simp only [content?, hread, Except.toOption, Option.bind_none, reduceCtorEq, false_and,
        iff_false]
      rintro ⟨resolved, after, h, -⟩
      obtain ⟨bytes, _, _, _, _, _, hfound, -⟩ := resolveFile_parts h
      simp [hread] at hfound
  | ok bytes =>
      obtain ⟨location, hlocation, -⟩ := read_eq_ok_iff.mp hread
      have hdiffer : path.location world.files.home ≠ (derivedPath directory
          (InputReference.file path).baseName "_utf8.csv").location world.files.home := by
        rw [location_of_fileAt? hlocation, derivedPath, Path.location_join_name _ _
          (InputReference.isPlainName_own _ (by simp [InputReference.ownEndings]))]
        exact (InputReference.location_ne_own rfl hlocation
          (by simp [InputReference.ownEndings]) _).symm
      simp only [Reaches, resolve, content?, writtenEndings, hread, Except.toOption,
        Option.bind_some, Option.map_some, Option.getD_some]
      exact resolveFile_loads_iff hread hdiffer

theorem reaches_stdin_iff {network : Network} :
    Reaches network settings directory .stdin world content ↔
      content? network (repairSample settings) world.files world.stdin .stdin = some content ∧
        ∀ ending ∈ writtenEndings (repairSample settings) world.files world.stdin .stdin,
          world.Takes (derivedPath directory InputReference.stdin.baseName ending) := by
  cases hstdin : world.stdin with
  | terminal =>
      simp only [content?, reduceCtorEq, false_and, iff_false]
      rintro ⟨resolved, after, h, -⟩
      obtain ⟨path, middle, hstore, -⟩ := on_bind_eq_ok_iff.mp h
      simp [storeStdin, hstdin] at hstore
  | broken fault =>
      simp only [content?, reduceCtorEq, false_and, iff_false]
      rintro ⟨resolved, after, h, -⟩
      obtain ⟨path, middle, hstore, -⟩ := on_bind_eq_ok_iff.mp h
      rw [storeStdin, on_get_bind, hstdin] at hstore
      obtain ⟨⟨⟩, registered, -, hthrow⟩ := on_bind_eq_ok_iff.mp hstore
      simp at hthrow
  | piped bytes =>
      simp only [content?, writtenEndings, List.forall_mem_cons]
      by_cases htakes : world.Takes
          (derivedPath directory InputReference.stdin.baseName "_stdin.csv")
      · obtain ⟨middle, hstore, hstored, hsame⟩ := on_storeStdin_of_piped hstdin htakes
        have hown : "_stdin.csv" ∈ InputReference.ownEndings ∧
            "_utf8.csv" ∈ InputReference.ownEndings := by simp [InputReference.ownEndings]
        have hdiffer := location_derivedPath_ne middle.files.home .stdin directory hown.1 hown.2
          (by decide)
        simp only [Reaches, resolve, on_bind_of_ok hstore, htakes, true_and]
        rw [resolveFile_loads_iff hstored hdiffer]
        simp only [hsame]
      · simp only [htakes, false_and, and_false, iff_false]
        rintro ⟨resolved, after, h, -⟩
        obtain ⟨path, middle, hstore, -⟩ := on_bind_eq_ok_iff.mp h
        exact htakes (storeStdin_parts hstore).2

/-- The engine reads an input as a content if the content is what becomes of the input, and there is
room for the files that are written on the way. -/
theorem reaches_iff {network : Network} {reference : InputReference} :
    Reaches network settings directory reference world content ↔
      content? network (repairSample settings) world.files world.stdin reference = some content ∧
        ∀ ending ∈ writtenEndings (repairSample settings) world.files world.stdin reference,
          world.Takes (derivedPath directory reference.baseName ending) := by
  cases reference with
  | file path => exact reaches_file_iff
  | stdin => exact reaches_stdin_iff
  | remote url =>
      rw [reaches_of_pure rfl, BuiltIn.loads_remote_iff]
      cases hbytes : BuiltIn.loadRemote network url <;>
        simp [content?, writtenEndings, hbytes, Except.toOption]
  | compressed path kind =>
      rw [reaches_of_pure rfl, BuiltIn.loads_compressed_iff]
      cases kind with
      | zip => simp [content?]
      | gzip =>
          cases hread : world.files.read path with
          | error fault => simp [content?, hread, Except.toOption]
          | ok bytes =>
              cases hbytes : BuiltIn.gunzip bytes <;>
                simp [content?, writtenEndings, hread, hbytes, Except.toOption]

/-! ## Sources -/

theorem resolveFile_source
    (h : (resolveFile settings directory baseName path).on world = (.ok resolved, after))
    (hsource : resolved.source = .file working) :
    working = path ∧ (∃ location, world.files.fileAt? path = some location) ∨
      ∃ ending ∈ ["_stdin.csv", "_utf8.csv", "_fixed.csv"],
        working = derivedPath directory baseName ending := by
  obtain ⟨bytes, verdict, converted, middle, last, done, hread, -, hconvert, hrepair, rfl⟩ :=
    resolveFile_parts h
  obtain rfl : last = working := by simpa using hsource
  obtain ⟨location, hlocation, -⟩ := read_eq_ok_iff.mp hread
  rcases working_of_repair hrepair with rfl | rfl
  · rcases convert_cases hconvert with ⟨fs, -, rfl, -⟩ | ⟨-, rfl, -⟩
    · exact .inr ⟨"_utf8.csv", by simp, rfl⟩
    · exact .inl ⟨rfl, location, hlocation⟩
  · exact .inr ⟨"_fixed.csv", by simp, rfl⟩

/-- A file that the engine is to read is the input, or one of the files written on the way. -/
theorem resolve_source {reference : InputReference}
    (h : (resolve reference settings directory reference.baseName).on world = (.ok resolved, after))
    (hsource : resolved.source = .file working) :
    (reference.path? = some working ∧ ∃ location, world.files.fileAt? working = some location) ∨
      ∃ ending ∈ ["_stdin.csv", "_utf8.csv", "_fixed.csv"],
        working = derivedPath directory reference.baseName ending := by
  cases reference with
  | remote url =>
      obtain ⟨rfl, -⟩ : (⟨.remote url, "remote", false, none⟩ : Resolved) = resolved ∧ _ := by
        simpa [resolve] using h
      simp at hsource
  | compressed path kind =>
      obtain ⟨rfl, -⟩ : (⟨.compressed path kind, kind.label, false, some path⟩ : Resolved) =
          resolved ∧ _ := by
        simpa [resolve] using h
      simp at hsource
  | file path =>
      rcases resolveFile_source h hsource with ⟨rfl, hlocation⟩ | hown
      · exact .inl ⟨rfl, hlocation⟩
      · exact .inr hown
  | stdin =>
      obtain ⟨path, middle, hstore, h⟩ := on_bind_eq_ok_iff.mp h
      rcases resolveFile_source h hsource with ⟨hsame, -⟩ | hown
      · exact .inr ⟨"_stdin.csv", by simp, hsame.trans (storeStdin_parts hstore).1⟩
      · exact .inr hown

theorem resolve_apart {reference : InputReference}
    (h : (resolve reference settings directory reference.baseName).on world = (.ok resolved, after))
    (kept rejected : Location) :
    BuiltIn.Apart world.files.home resolved.source
      (kept ++ [reference.baseName ++ "_staged.csv"])
      (rejected ++ [reference.baseName ++ "_reject_errors.csv"]) := by
  have hstaged : "_staged.csv" ∈ InputReference.ownEndings := by simp [InputReference.ownEndings]
  have hreject : "_reject_errors.csv" ∈ InputReference.ownEndings := by
    simp [InputReference.ownEndings]
  intro working hsource
  rcases resolve_source h hsource with ⟨hpath, location, hlocation⟩ | ⟨ending, hending, hworking⟩
  · rw [location_of_fileAt? hlocation]
    exact ⟨(InputReference.location_ne_own hpath hlocation hstaged _).symm,
      (InputReference.location_ne_own hpath hlocation hreject _).symm⟩
  · have hne : ending ∈ InputReference.ownEndings ∧ ending ≠ "_staged.csv" ∧
        ending ≠ "_reject_errors.csv" := by
      simp only [List.mem_cons, List.not_mem_nil, or_false] at hending
      rcases hending with rfl | rfl | rfl <;> simp [InputReference.ownEndings]
    rw [hworking, derivedPath, Path.location_join_name _ _ (reference.isPlainName_own hne.1)]
    exact ⟨InputReference.own_ne_own hne.2.1 _ _, InputReference.own_ne_own hne.2.2 _ _⟩

end Resolution

end TidyCsv
