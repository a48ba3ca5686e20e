import TidyCsv.Proofs.Engine.BuiltIn
import TidyCsv.Proofs.Storage.Room

/-! # What the built-in engine makes of a content

Where there is room for both files of the engine, and its source is neither of them, what it reports
and writes depends on the content of the source only. Where there is no room, it fails before it has
written anything but an empty output. -/

namespace TidyCsv.BuiltIn

open FileSystem

/-- The report on a content, or the fault that is met in it, and what both files are left with. -/
def appraise (options : ReadOptions) (content : Bytes) :
    Except PassFault EngineReport × Pass.Files :=
  let delimiter := delimiterOf options content
  match Pass.run options ⟨delimiter, true⟩ content with
  | (.error fault, files) => (.error fault, files)
  | (.ok strict, files) =>
    match retry? options delimiter content strict with
    | .error fault => (.error fault, files)
    | .ok none => (.ok (reportAs true strict), files)
    | .ok (some (relaxed, others)) => (.ok (reportAs false relaxed), others)

variable {network : Network} {fs : FileSystem} {source : Source} {options : ReadOptions}
  {output reject : Path} {content : Bytes} {files others : Pass.Files}

/-! ## With room for both files -/

@[simp] theorem putBoth_putBoth (fs : FileSystem) (kept rejected : Location)
    (files others : Pass.Files) :
    putBoth (putBoth fs kept rejected files) kept rejected others =
      putBoth fs kept rejected others := by
  by_cases hsame : kept = rejected
  · simp [putBoth, hsame]
  · have htwice : ∀ entry : Location × Entry,
        (entry.1 != rejected && (entry.1 != kept && entry.1 != rejected)) =
          (entry.1 != kept && entry.1 != rejected) := by
      intro entry
      cases entry.1 != rejected <;> simp
    simp [putBoth, put, hsame, Ne.symm hsame, List.filter_filter, Bool.and_comm, htwice]

/-- A source that is no file at two locations. -/
def Apart (home : Location) (source : Source) (kept rejected : Location) : Prop :=
  ∀ path, source = .file path → path.location home ≠ kept ∧ path.location home ≠ rejected

theorem apart_file_iff {home : Location} {path : Path} {kept rejected : Location} :
    Apart home (.file path) kept rejected ↔
      path.location home ≠ kept ∧ path.location home ≠ rejected := by
  constructor
  · exact fun h => h path rfl
  · rintro h other hother
    obtain rfl := Source.file.inj hother
    exact h

theorem read_putBoth_of_apart {loaded : Loaded} {kept rejected : Location}
    (hload : load network fs source = .ok loaded) (hread : loaded.read fs = .ok content)
    (hkept : fs.Writable output kept) (hrejected : fs.Writable reject rejected)
    (hapart : Apart fs.home source kept rejected) (files : Pass.Files) :
    loaded.read (putBoth fs kept rejected files) = .ok content := by
  cases loaded with
  | content bytes => exact hread
  | file path =>
      have hsource : source = .file path := by
        cases source with
        | file other =>
            simp only [load] at hload
            split at hload
            · obtain rfl : other = path := by simpa using hload
              rfl
            · simp at hload
        | compressed other kind =>
            cases kind with
            | zip => simp [load] at hload
            | gzip => cases hbytes : loadGzip fs other <;> simp [load, hbytes, Except.map] at hload
        | remote url =>
            cases hbytes : loadRemote network url <;> simp [load, hbytes, Except.map] at hload
      have hpath : fs.read path = .ok content := by
        simp only [Loaded.read] at hread
        split at hread
        · next hbytes => rw [hbytes, Except.ok.inj hread]
        · simp at hread
      have hsame : (putBoth fs kept rejected files).read path = .ok content := by
        refine ((edits_putBoth hkept hrejected files).read_eq_ok_iff fun location hfile => ?_).mpr
          hpath
        obtain ⟨hoff, hoff'⟩ := hapart path hsource
        rw [location_of_fileAt? hfile] at hoff hoff'
        rintro (rfl | rfl)
        · exact hoff rfl
        · exact hoff' rfl
      simp [Loaded.read, hsame]

variable (options) in
/-- With room for both files, a validation comes to what its content comes to. -/
theorem validate_of_hasRoom (hload : Loads network fs source content)
    (houtput : fs.HasRoom output) (hreject : fs.HasRoom reject)
    (hapart : Apart fs.home source (output.location fs.home) (reject.location fs.home)) :
    validate network fs source options output reject =
      ((appraise options content).1.mapError .pass,
        putBoth fs (output.location fs.home) (reject.location fs.home)
          (appraise options content).2) := by
  obtain ⟨loaded, hloaded, hread⟩ := hload
  have hempty := writeBoth_of_writable houtput hreject ⟨[], []⟩
  have hedits := edits_putBoth houtput hreject ⟨[], []⟩
  have houtput' := hedits.writable_iff.mpr houtput
  have hreject' := hedits.writable_iff.mpr hreject
  simp only [validate, hloaded, hread, validateLoaded, hempty,
    read_putBoth_of_apart hloaded hread houtput hreject hapart, appraise]
  rcases Pass.run options ⟨delimiterOf options content, true⟩ content with ⟨fault | strict, files⟩
  · simp [writeBoth_of_writable houtput' hreject', Except.mapError]
  · have hedits' := edits_putBoth houtput' hreject' files
    have houtput'' := hedits'.writable_iff.mpr houtput'
    have hreject'' := hedits'.writable_iff.mpr hreject'
    simp only [writeBoth_of_writable houtput' hreject']
    rcases retry? options (delimiterOf options content) content strict with
      fault | _ | ⟨relaxed, others⟩
    · simp [Except.mapError]
    · simp [Except.mapError, reportAs]
    · simp only [writeBoth_of_writable houtput'' hreject'']
      simp [Except.mapError, reportAs]

/-! ## Without room for both files -/

theorem writeBoth_of_not_hasRoom (h : ¬ (fs.HasRoom output ∧ fs.HasRoom reject))
    (files : Pass.Files) :
    ∃ fault after, writeBoth fs output reject files = (.error fault, after) ∧
      EditsFiles (· = output.location fs.home) fs after := by
  unfold writeBoth
  by_cases houtput : fs.HasRoom output
  · have hedits := edits_put houtput files.output
    have hreject : ¬ (fs.put (output.location fs.home) (.file files.output)).HasRoom reject :=
      fun hroom => h ⟨houtput, hedits.hasRoom_iff.mp hroom⟩
    obtain ⟨fault, hfault⟩ := write_of_not_hasRoom hreject files.reject
    rw [writeFile_eq_ok_iff.mpr (houtput.write files.output)]
    exact ⟨.io fault, _, by simp [writeFile, hfault], hedits⟩
  · obtain ⟨fault, hfault⟩ := write_of_not_hasRoom houtput files.output
    exact ⟨.io fault, fs, by simp [writeFile, hfault], .refl fs⟩

variable (options) in
/-- Without room for both files, or without a content, a validation fails, and nothing but the
output has been written. -/
theorem validate_of_not_hasRoom
    (h : ¬ ((∃ content, Loads network fs source content) ∧ fs.HasRoom output ∧
      fs.HasRoom reject)) :
    ∃ fault after, validate network fs source options output reject = (.error fault, after) ∧
      EditsFiles (· = output.location fs.home) fs after := by
  unfold validate
  split
  · next fault _ => exact ⟨fault, fs, rfl, .refl fs⟩
  · next loaded hload =>
      split
      · next fault _ => exact ⟨fault, fs, rfl, .refl fs⟩
      · next content hread =>
          have hfull : ¬ (fs.HasRoom output ∧ fs.HasRoom reject) :=
            fun hroom => h ⟨⟨content, loaded, hload, hread⟩, hroom⟩
          obtain ⟨fault, after, hempty, hedits⟩ := writeBoth_of_not_hasRoom hfull ⟨[], []⟩
          exact ⟨fault, after, by simp only [validateLoaded, hempty], hedits⟩

/-! ## Two sources -/

/-- Without room for both files, two sources are validated alike, whatever their content. -/
theorem validate_eq_of_not_hasRoom {other : Source} {content' : Bytes}
    (hload : Loads network fs source content) (hother : Loads network fs other content')
    (hroom : ¬ (fs.HasRoom output ∧ fs.HasRoom reject)) (options options' : ReadOptions) :
    validate network fs source options output reject =
      validate network fs other options' output reject := by
  obtain ⟨fault, after, hempty, -⟩ := writeBoth_of_not_hasRoom hroom ⟨[], []⟩
  obtain ⟨loaded, hloaded, hread⟩ := hload
  obtain ⟨loaded', hloaded', hread'⟩ := hother
  simp only [validate, hloaded, hread, hloaded', hread', validateLoaded, hempty]

variable (options) in
/-- Two sources of one content, neither of which is one of both files, are validated alike. -/
theorem validate_eq_of_loads {other : Source} (hload : Loads network fs source content)
    (hother : Loads network fs other content)
    (hapart : Apart fs.home source (output.location fs.home) (reject.location fs.home))
    (hapart' : Apart fs.home other (output.location fs.home) (reject.location fs.home)) :
    validate network fs source options output reject =
      validate network fs other options output reject := by
  by_cases hroom : fs.HasRoom output ∧ fs.HasRoom reject
  · rw [validate_of_hasRoom options hload hroom.1 hroom.2 hapart,
      validate_of_hasRoom options hother hroom.1 hroom.2 hapart']
  · exact validate_eq_of_not_hasRoom hload hother hroom options options

/-! ## What is reported -/

theorem appraise_shows {report : EngineReport}
    (h : appraise options content = (.ok report, files)) :
    ∃ (names : List String) (rows : List Csv.Record),
      Shows options content names rows ∧ names ≠ [] ∧
      report = reportAs (dialectOf options content).quoting
        ⟨(Pass.kept (Pass.schemaOf options names rows) rows).length,
          (Pass.reports options (dialectOf options content).delimiter
            (Pass.schemaOf options names rows) rows).length,
          names.length⟩ ∧
      files.output = Csv.encodeRecords Bytes.comma
        (Pass.headerRecord names :: Pass.kept (Pass.schemaOf options names rows) rows) ∧
      files.reject = Csv.encodeRecords Bytes.comma
        (Pass.rejectHeader :: Pass.reports options (dialectOf options content).delimiter
          (Pass.schemaOf options names rows) rows) := by
  obtain ⟨tally, hrun, hreport⟩ : ∃ tally,
      Pass.run options (dialectOf options content) content = (.ok tally, files) ∧
        report = reportAs (dialectOf options content).quoting tally := by
    simp only [appraise] at h
    rcases hstrict : Pass.run options ⟨delimiterOf options content, true⟩ content with
      ⟨fault | strict, first⟩
    · simp [hstrict] at h
    · rw [hstrict] at h
      rcases hretry : retry? options (delimiterOf options content) content strict with
        fault | _ | ⟨relaxed, others⟩
      · simp [hretry] at h
      · have hdialect : dialectOf options content = ⟨delimiterOf options content, true⟩ := by
          simp [dialectOf, heedsQuotes, hstrict, hretry]
        obtain ⟨rfl, rfl⟩ : reportAs true strict = report ∧ first = files := by
          simpa [hretry] using h
        exact ⟨strict, by rw [hdialect, hstrict], by rw [hdialect]⟩
      · have hdialect : dialectOf options content = ⟨delimiterOf options content, false⟩ := by
          simp [dialectOf, heedsQuotes, hstrict, hretry]
        obtain ⟨rfl, rfl⟩ : reportAs false relaxed = report ∧ others = files := by
          simpa [hretry] using h
        exact ⟨relaxed, by rw [hdialect, (retry?_eq_some_iff.mp hretry).2.1], by rw [hdialect]⟩
  obtain ⟨first, rows, names, hrecords, hnames⟩ := Pass.names_of_run_ok hrun
  rw [Pass.run_of_names hrecords hnames] at hrun
  obtain ⟨htally, rfl⟩ := Prod.mk.inj hrun
  obtain rfl := Except.ok.inj htally
  exact ⟨names, rows, ⟨first, hrecords, hnames⟩, names_ne_nil hrecords hnames, hreport, rfl, rfl⟩

end TidyCsv.BuiltIn
