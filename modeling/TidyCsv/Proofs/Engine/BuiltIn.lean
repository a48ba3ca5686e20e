import TidyCsv.Engine.BuiltIn
import TidyCsv.Proofs.Csv.Reading
import TidyCsv.Proofs.Engine.Pass
import TidyCsv.Proofs.Storage.Frame

/-! # What the built-in engine leaves

The engine writes its two files and nothing else. When it succeeds, they and its report are those of
one pass over the content of the source. -/

namespace TidyCsv

open FileSystem

/-! ## The two paths -/

/-- The locations of the two paths that an engine is given. -/
def OfPaths (home : Location) (output reject : Path) (location : Location) : Prop :=
  location = output.location home ∨ location = reject.location home

/-- An engine edits the files at the two paths that it is given, and nothing else. -/
def Engine.EditsOnlyItsFiles (engine : Engine) : Prop :=
  ∀ (fs : FileSystem) (source : Source) (options : ReadOptions) (output reject : Path),
    EditsFiles (OfPaths fs.home output reject) fs
      (engine.validate fs source options output reject).2

namespace BuiltIn

theorem writeFile_edits {touched : Location → Prop} (fs : FileSystem) {p : Path}
    (hp : touched (p.location fs.home)) (content : Bytes) :
    EditsFiles touched fs (writeFile fs p content).2 := by
  unfold writeFile
  split
  · next hwrite => exact .write hwrite hp
  · exact .refl fs

theorem writeBoth_edits {touched : Location → Prop} (fs : FileSystem) {output reject : Path}
    (houtput : touched (output.location fs.home)) (hreject : touched (reject.location fs.home))
    (files : Pass.Files) : EditsFiles touched fs (writeBoth fs output reject files).2 := by
  have hfirst : EditsFiles touched fs (writeFile fs output files.output).2 :=
    writeFile_edits fs houtput files.output
  unfold writeBoth
  split
  · next hresult => simpa [hresult] using hfirst
  · next middle hresult =>
      rw [hresult] at hfirst
      refine hfirst.trans (writeFile_edits middle ?_ files.reject)
      rwa [hfirst.home_eq]

theorem validateLoaded_edits {touched : Location → Prop} (fs : FileSystem) {output reject : Path}
    (houtput : touched (output.location fs.home)) (hreject : touched (reject.location fs.home))
    (loaded : Loaded) (options : ReadOptions) (delimiter : UInt8) :
    EditsFiles touched fs (validateLoaded fs loaded options delimiter output reject).2 := by
  have hboth : ∀ {middle : FileSystem}, EditsFiles touched fs middle → ∀ files,
      EditsFiles touched fs (writeBoth middle output reject files).2 := by
    intro middle hmiddle files
    refine hmiddle.trans (writeBoth_edits middle ?_ ?_ files)
    · rwa [hmiddle.home_eq]
    · rwa [hmiddle.home_eq]
  have hempty := hboth (.refl fs) ⟨[], []⟩
  unfold validateLoaded
  split
  · next hresult => simpa [hresult] using hempty
  · next emptied hresult =>
      rw [hresult] at hempty
      split
      · exact hempty
      · next content _ =>
          have hstrict := hboth hempty (Pass.run options ⟨delimiter, true⟩ content).2
          dsimp only
          split
          · exact hstrict
          · split
            · exact hstrict
            · exact hstrict
            · exact hboth hstrict _

theorem validate_edits (network : Network) (fs : FileSystem) (source : Source)
    (options : ReadOptions) (output reject : Path) :
    EditsFiles (OfPaths fs.home output reject) fs
      (validate network fs source options output reject).2 := by
  unfold validate
  split
  · exact .refl fs
  · split
    · exact .refl fs
    · exact validateLoaded_edits fs (.inl rfl) (.inr rfl) _ options _

end BuiltIn

theorem Engine.builtIn_editsOnlyItsFiles (network : Network) :
    (Engine.builtIn network).EditsOnlyItsFiles := by
  intro fs source options output reject
  exact BuiltIn.validate_edits network fs source options output reject

namespace BuiltIn

/-! ## Success -/

theorem writeFile_eq_ok_iff {fs after : FileSystem} {p : Path} {content : Bytes} :
    writeFile fs p content = (.ok (), after) ↔ fs.write p content = .ok after := by
  unfold writeFile
  split
  · next hwrite => simp [hwrite]
  · next hwrite => simp [hwrite]

/-- A file system in which both files are written, the file of rejected rows last. -/
def putBoth (fs : FileSystem) (kept rejected : Location) (files : Pass.Files) : FileSystem :=
  (fs.put kept (.file files.output)).put rejected (.file files.reject)

theorem edits_put {fs : FileSystem} {p : Path} {location : Location} (h : fs.Writable p location)
    (content : Bytes) : EditsFiles (· = location) fs (fs.put location (.file content)) :=
  .put h.ne_nil h.entry rfl

theorem edits_putBoth {fs : FileSystem} {output reject : Path} {kept rejected : Location}
    (hkept : fs.Writable output kept) (hrejected : fs.Writable reject rejected)
    (files : Pass.Files) :
    EditsFiles (fun location => location = kept ∨ location = rejected) fs
      (putBoth fs kept rejected files) := by
  have hfirst := edits_put hkept files.output
  have hsecond := edits_put (hfirst.writable_iff.mpr hrejected) files.reject
  exact (hfirst.mono fun _ => .inl).trans (hsecond.mono fun _ => .inr)

theorem writeBoth_eq_ok_iff {fs after : FileSystem} {output reject : Path} {files : Pass.Files} :
    writeBoth fs output reject files = (.ok (), after) ↔
      ∃ kept rejected, fs.Writable output kept ∧ fs.Writable reject rejected ∧
        after = putBoth fs kept rejected files := by
  constructor
  · intro h
    unfold writeBoth at h
    split at h
    · simp at h
    · next middle hfirst =>
        obtain ⟨kept, hkept, rfl⟩ := write_eq_ok_iff.mp (writeFile_eq_ok_iff.mp hfirst)
        obtain ⟨rejected, hrejected, hafter⟩ := write_eq_ok_iff.mp (writeFile_eq_ok_iff.mp h)
        have hbefore := (edits_put hkept files.output).writable_iff.mp hrejected
        exact ⟨kept, rejected, hkept, hbefore, hafter⟩
  · rintro ⟨kept, rejected, hkept, hrejected, rfl⟩
    have hbetween := (edits_put hkept files.output).writable_iff.mpr hrejected
    unfold writeBoth
    rw [writeFile_eq_ok_iff.mpr (hkept.write files.output)]
    exact writeFile_eq_ok_iff.mpr (hbetween.write files.reject)

section Both

variable {fs : FileSystem} {output reject : Path} {kept rejected : Location}

theorem writeBoth_of_writable (hkept : fs.Writable output kept)
    (hrejected : fs.Writable reject rejected) (files : Pass.Files) :
    writeBoth fs output reject files = (.ok (), putBoth fs kept rejected files) :=
  writeBoth_eq_ok_iff.mpr ⟨kept, rejected, hkept, hrejected, rfl⟩

theorem read_putBoth (hkept : fs.Writable output kept) (hrejected : fs.Writable reject rejected)
    (hdiffer : kept ≠ rejected) (files : Pass.Files) :
    (putBoth fs kept rejected files).read output = .ok files.output ∧
      (putBoth fs kept rejected files).read reject = .ok files.reject := by
  have hedits := edits_putBoth hkept hrejected files
  have hlast : ∀ location, (putBoth fs kept rejected files).entryAt? location =
      if location = rejected then some (.file files.reject)
      else if location = kept then some (.file files.output) else fs.entryAt? location := by
    intro location
    rw [putBoth, entryAt?_put _ hrejected.ne_nil, entryAt?_put _ hkept.ne_nil]
  constructor
  · refine read_eq_ok_iff.mpr ⟨kept, (hedits.fileAt?_eq output).trans hkept.fileAt, ?_⟩
    rw [hlast, if_neg hdiffer, if_pos rfl]
  · refine read_eq_ok_iff.mpr ⟨rejected, (hedits.fileAt?_eq reject).trans hrejected.fileAt, ?_⟩
    rw [hlast, if_pos rfl]

end Both

/-! ## The content that counts -/

theorem recordsOf_nil (options : ReadOptions) (dialect : Csv.Dialect) :
    Pass.recordsOf options dialect [] = [] := by
  have hrest : Bytes.dropLines options.skipRows [] = [] := by
    cases options.skipRows <;> rfl
  simp [Pass.recordsOf, hrest, Csv.records, Bytes.utf8Mark, Csv.recordsFrom, Csv.Scan.finish,
    Csv.Scan.initial]

/-- A source that a pass succeeds on after both files are emptied is neither of them, and so it has
the content that it had before. -/
theorem read_of_read_emptied {fs : FileSystem} {output reject : Path} {kept rejected : Location}
    (hkept : fs.Writable output kept) (hrejected : fs.Writable reject rejected) {loaded : Loaded}
    {content : Bytes} (hne : content ≠ [])
    (h : loaded.read (putBoth fs kept rejected ⟨[], []⟩) = .ok content) :
    loaded.read fs = .ok content := by
  cases loaded with
  | content bytes => exact h
  | file path =>
      have hread : (putBoth fs kept rejected ⟨[], []⟩).read path = .ok content := by
        simp only [Loaded.read] at h
        split at h
        · next hread =>
            obtain rfl := Except.ok.inj h
            exact hread
        · simp at h
      have hedits := edits_putBoth hkept hrejected ⟨[], []⟩
      have hsame : fs.read path = .ok content := by
        refine (hedits.read_eq_ok_iff ?_).mp hread
        intro location hfile htouched
        -- an emptied file has no content
        obtain ⟨found, hfound, hentry⟩ := read_eq_ok_iff.mp hread
        obtain rfl : location = found := by
          rw [hedits.fileAt?_eq, hfile] at hfound
          exact Option.some.inj hfound
        rw [putBoth, entryAt?_put _ hrejected.ne_nil, entryAt?_put _ hkept.ne_nil] at hentry
        rcases htouched with rfl | rfl
        · by_cases hsame : location = rejected
          · exact hne (by simpa [hsame, eq_comm] using hentry)
          · exact hne (by simpa [hsame, eq_comm] using hentry)
        · exact hne (by simpa [eq_comm] using hentry)
      simp [Loaded.read, hsame]

theorem ne_nil_of_run_ok {options : ReadOptions} {dialect : Csv.Dialect} {content : Bytes}
    {tally : Pass.Tally} {files : Pass.Files}
    (h : Pass.run options dialect content = (.ok tally, files)) : content ≠ [] := by
  rintro rfl
  obtain ⟨first, rows, names, hrecords, -⟩ := Pass.names_of_run_ok h
  rw [recordsOf_nil] at hrecords
  simp at hrecords

/-! ## The retry -/

section Retry

variable {options : ReadOptions} {delimiter : UInt8} {content : Bytes} {strict tally : Pass.Tally}
  {files : Pass.Files} {fault : PassFault}

/-- A second pass counts if the first one rejected more rows than it kept, and it rejects fewer. -/
theorem retry?_eq_some_iff :
    retry? options delimiter content strict = .ok (some (tally, files)) ↔
      strict.conforming < strict.rejected ∧
        Pass.run options ⟨delimiter, false⟩ content = (.ok tally, files) ∧
        tally.rejected < strict.rejected := by
  unfold retry?
  split
  · next hmore =>
      split
      · next hrun => simp [hrun]
      · next relaxed others hrun =>
          constructor
          · intro h
            split at h
            · next hfewer =>
                obtain ⟨rfl, rfl⟩ : relaxed = tally ∧ others = files := by simpa using h
                exact ⟨hmore, hrun, hfewer⟩
            · simp at h
          · rintro ⟨-, hrun', hfewer⟩
            obtain ⟨rfl, rfl⟩ : relaxed = tally ∧ others = files := by simpa [hrun] using hrun'
            rw [if_pos hfewer]
  · next hnot => simp [hnot]

/-- The first pass counts if it kept enough rows, or if the second one does not reject fewer. -/
theorem retry?_eq_none_iff :
    retry? options delimiter content strict = .ok none ↔
      strict.rejected ≤ strict.conforming ∨
        ∃ relaxed others, Pass.run options ⟨delimiter, false⟩ content = (.ok relaxed, others) ∧
          strict.rejected ≤ relaxed.rejected := by
  unfold retry?
  split
  · next hmore =>
      split
      · next hrun => simp [hrun, hmore]
      · next relaxed others hrun => simp [hrun, Nat.not_le.mpr hmore]
  · next hnot => simp [Nat.not_lt.mp hnot]

theorem retry?_eq_error_iff :
    retry? options delimiter content strict = .error fault ↔
      strict.conforming < strict.rejected ∧
        (Pass.run options ⟨delimiter, false⟩ content).1 = .error fault := by
  unfold retry?
  split
  · next hmore =>
      split
      · next hrun => simp [hrun, hmore]
      · next hrun => simp [hrun]
  · next hnot => simp [hnot]

end Retry

/-- The report of a pass, with a note if quotes were not heeded in it. -/
def reportAs (quoting : Bool) (tally : Pass.Tally) : EngineReport :=
  reportOf tally (if quoting then none else some ⟨false⟩)

@[simp] theorem isNone_fallback_reportAs (quoting : Bool) (tally : Pass.Tally) :
    (reportAs quoting tally).fallback.isNone = quoting := by
  cases quoting <;> rfl

/-- Whether the reading of a content that counts is one that heeds quotes. -/
def heedsQuotes (options : ReadOptions) (delimiter : UInt8) (content : Bytes) : Bool :=
  match Pass.run options ⟨delimiter, true⟩ content with
  | (.ok strict, _) =>
    match retry? options delimiter content strict with
    | .ok (some _) => false
    | _ => true
  | _ => true

/-- The dialect in which a content is read. -/
def dialectOf (options : ReadOptions) (content : Bytes) : Csv.Dialect :=
  ⟨delimiterOf options content, heedsQuotes options (delimiterOf options content) content⟩

/-! ## A pass to the end of a source -/

/-- The content that a source is read as. -/
def Loads (network : Network) (fs : FileSystem) (source : Source) (content : Bytes) : Prop :=
  ∃ loaded, load network fs source = .ok loaded ∧ loaded.read fs = .ok content

/-- The pass that heeds quotes reads a source to its end: both files can be emptied, and the content
that the source has after that has a header that the pass can read. -/
def Completes (network : Network) (fs : FileSystem) (source : Source) (options : ReadOptions)
    (output reject : Path) (content : Bytes) (strict : Pass.Tally) (files : Pass.Files) : Prop :=
  ∃ loaded emptied, load network fs source = .ok loaded ∧
    writeBoth fs output reject ⟨[], []⟩ = (.ok (), emptied) ∧
    loaded.read emptied = .ok content ∧
    Pass.run options ⟨delimiterOf options content, true⟩ content = (.ok strict, files)

/-- What a validation comes to when the pass that heeds quotes is over and it is known whether
another one counts. -/
def settled (fs : FileSystem) (kept rejected : Location) (strict : Pass.Tally)
    (files : Pass.Files) : Except PassFault (Option (Pass.Tally × Pass.Files)) →
      Except EngineFault EngineReport × FileSystem
  | .error fault => (.error (.pass fault), putBoth fs kept rejected files)
  | .ok none => (.ok (reportAs true strict), putBoth fs kept rejected files)
  | .ok (some (relaxed, others)) =>
    (.ok (reportAs false relaxed), putBoth (putBoth fs kept rejected files) kept rejected others)

section Completes

variable {network : Network} {fs after : FileSystem} {source : Source} {options : ReadOptions}
  {output reject : Path} {content : Bytes} {strict : Pass.Tally} {files : Pass.Files}
  {report : EngineReport}

theorem Completes.run_eq
    (h : Completes network fs source options output reject content strict files) :
    Pass.run options ⟨delimiterOf options content, true⟩ content = (.ok strict, files) := by
  obtain ⟨-, -, -, -, -, hrun⟩ := h
  exact hrun

theorem Completes.loads
    (h : Completes network fs source options output reject content strict files) :
    Loads network fs source content := by
  obtain ⟨loaded, emptied, hload, hempty, hread, hrun⟩ := h
  obtain ⟨kept, rejected, hkept, hrejected, rfl⟩ := writeBoth_eq_ok_iff.mp hempty
  exact ⟨loaded, hload, read_of_read_emptied hkept hrejected (ne_nil_of_run_ok hrun) hread⟩

/-- After a pass to the end of a source, the retry decides what a validation comes to. -/
theorem validate_of_completes
    (h : Completes network fs source options output reject content strict files) :
    ∃ kept rejected emptied, fs.fileAt? output = some kept ∧ fs.fileAt? reject = some rejected ∧
      emptied.Writable output kept ∧ emptied.Writable reject rejected ∧
      validate network fs source options output reject = settled emptied kept rejected strict files
        ( retry? options (delimiterOf options content) content strict) := by
  obtain ⟨loaded, hload, hsource⟩ := h.loads
  obtain ⟨found, emptied, hfound, hempty, hread, hrun⟩ := h
  obtain rfl : loaded = found := Except.ok.inj (hload.symm.trans hfound)
  obtain ⟨kept, rejected, hkept, hrejected, rfl⟩ := writeBoth_eq_ok_iff.mp hempty
  have hedits := edits_putBoth hkept hrejected ⟨[], []⟩
  have hkept' := hedits.writable_iff.mpr hkept
  have hrejected' := hedits.writable_iff.mpr hrejected
  have hedits' := edits_putBoth hkept' hrejected' files
  have hkept'' := hedits'.writable_iff.mpr hkept'
  have hrejected'' := hedits'.writable_iff.mpr hrejected'
  refine ⟨kept, rejected, _, hkept.fileAt, hrejected.fileAt, hkept', hrejected', ?_⟩
  simp only [validate, hload, hsource, validateLoaded, hempty, hread, hrun,
    writeBoth_of_writable hkept' hrejected']
  rcases retry? options (delimiterOf options content) content strict with
    fault | _ | ⟨relaxed, others⟩
  · rfl
  · rfl
  · simp only [writeBoth_of_writable hkept'' hrejected'']
    rfl

/-- A validation that succeeds has read the source to its end while heeding quotes. -/
theorem completes_of_ok
    (h : validate network fs source options output reject = (.ok report, after)) :
    ∃ content strict files,
      Completes network fs source options output reject content strict files := by
  unfold validate at h
  split at h
  · simp at h
  · next loaded hload =>
      split at h
      · simp at h
      · next content hsource =>
          unfold validateLoaded at h
          split at h
          · simp at h
          · next emptied hempty =>
              split at h
              · simp at h
              · next found hread =>
                  rcases hrun : Pass.run options ⟨delimiterOf options content, true⟩ found with
                    ⟨_ | strict, files⟩
                  · simp [hrun] at h
                  · obtain ⟨kept, rejected, hkept, hrejected, rfl⟩ :=
                      writeBoth_eq_ok_iff.mp hempty
                    have hsame :=
                      read_of_read_emptied hkept hrejected (ne_nil_of_run_ok hrun) hread
                    obtain rfl : content = found := Except.ok.inj (hsource.symm.trans hsame)
                    exact ⟨content, strict, files, loaded, _, hload, hempty, hread, hrun⟩

/-- What a validation that succeeds leaves: both files and the report are those of one pass, which
heeds quotes unless the retry counts. -/
theorem validate_ok (h : validate network fs source options output reject = (.ok report, after))
    (hdiffer : output.location fs.home ≠ reject.location fs.home) :
    ∃ content strict others quoting tally files,
      Completes network fs source options output reject content strict others ∧
      Pass.run options ⟨delimiterOf options content, quoting⟩ content = (.ok tally, files) ∧
      retry? options (delimiterOf options content) content strict =
        .ok (if quoting then none else some (tally, files)) ∧
      report = reportAs quoting tally ∧
      after.read output = .ok files.output ∧ after.read reject = .ok files.reject := by
  obtain ⟨content, strict, others, hcompletes⟩ := completes_of_ok h
  obtain ⟨kept, rejected, emptied, hkeptAt, hrejectedAt, hkept, hrejected, hvalidate⟩ :=
    validate_of_completes hcompletes
  have hne : kept ≠ rejected := by
    rw [← location_of_fileAt? hkeptAt, ← location_of_fileAt? hrejectedAt]
    exact hdiffer
  rw [hvalidate] at h
  rcases hretry : retry? options (delimiterOf options content) content strict with
    fault | _ | ⟨relaxed, files⟩
  · simp [hretry, settled] at h
  · rw [hretry] at h
    obtain ⟨hreport, rfl⟩ := Prod.mk.inj h
    obtain ⟨houtput, hreject⟩ := read_putBoth hkept hrejected hne others
    exact ⟨content, strict, others, true, strict, others, hcompletes, hcompletes.run_eq, hretry,
      (Except.ok.inj hreport).symm, houtput, hreject⟩
  · rw [hretry] at h
    obtain ⟨hreport, rfl⟩ := Prod.mk.inj h
    have hedits := edits_putBoth hkept hrejected others
    obtain ⟨houtput, hreject⟩ := read_putBoth (hedits.writable_iff.mpr hkept)
      (hedits.writable_iff.mpr hrejected) hne files
    obtain ⟨-, hrun, -⟩ := retry?_eq_some_iff.mp hretry
    exact ⟨content, strict, others, false, relaxed, files, hcompletes, hrun, hretry,
      (Except.ok.inj hreport).symm, houtput, hreject⟩

end Completes

theorem validate_of_builtIn {network : Network} {fs after : FileSystem} {source : Source}
    {options : ReadOptions} {output reject : Path} {report : EngineReport}
    (h : (Engine.builtIn network).validate fs source options output reject =
      (.ok report, after)) :
    validate network fs source options output reject = (.ok report, after) := by
  rcases hresult : validate network fs source options output reject with ⟨_ | found, fs⟩
  · simp [Engine.builtIn, hresult, Except.mapError] at h
  · simpa [Engine.builtIn, hresult, Except.mapError] using h

theorem names_ne_nil {options : ReadOptions} {dialect : Csv.Dialect} {content : Bytes}
    {first : Csv.Record} {rows : List Csv.Record} {names : List String}
    (hrecords : Pass.recordsOf options dialect content = first :: rows)
    (hnames : Pass.columnNames? first = some names) : names ≠ [] := by
  have hmem : first ∈ Pass.recordsOf options dialect content := by simp [hrecords]
  have hfields : first.fields ≠ [] := Csv.fields_ne_nil_of_mem_records hmem
  obtain ⟨cells, htext, rfl⟩ := Option.map_eq_some_iff.mp hnames
  have hlength := Csv.Record.length_text? htext
  intro hempty
  have hcells : cells = [] := by simpa using hempty
  exact hfields (List.length_eq_zero_iff.mp (by simpa [hcells] using hlength.symm))

/-- The names and rows of a source in a dialect, whose delimiter is the one given or guessed. -/
def ReadsAs (network : Network) (fs : FileSystem) (source : Source) (options : ReadOptions)
    (dialect : Csv.Dialect) (names : List String) (rows : List Csv.Record) : Prop :=
  ∃ loaded content first, load network fs source = .ok loaded ∧ loaded.read fs = .ok content ∧
    dialect.delimiter = delimiterOf options content ∧
    Pass.recordsOf options dialect content = first :: rows ∧
    Pass.columnNames? first = some names

theorem ReadsAs.unique {network : Network} {fs : FileSystem} {source : Source}
    {options : ReadOptions} {dialect dialect' : Csv.Dialect} {names names' : List String}
    {rows rows' : List Csv.Record} (h : ReadsAs network fs source options dialect names rows)
    (h' : ReadsAs network fs source options dialect' names' rows')
    (hquoting : dialect.quoting = dialect'.quoting) :
    dialect = dialect' ∧ names = names' ∧ rows = rows' := by
  obtain ⟨loaded, content, first, hload, hread, hdelimiter, hrecords, hnames⟩ := h
  obtain ⟨loaded', content', first', hload', hread', hdelimiter', hrecords', hnames'⟩ := h'
  obtain rfl : loaded = loaded' := Except.ok.inj (hload.symm.trans hload')
  obtain rfl : content = content' := Except.ok.inj (hread.symm.trans hread')
  obtain ⟨delimiter, quoting⟩ := dialect
  obtain ⟨delimiter', quoting'⟩ := dialect'
  obtain rfl : delimiter = delimiter' := hdelimiter.trans hdelimiter'.symm
  obtain rfl : quoting = quoting' := hquoting
  obtain ⟨rfl, rfl⟩ := List.cons.inj (hrecords.symm.trans hrecords')
  exact ⟨rfl, Option.some.inj (hnames.symm.trans hnames'), rfl⟩

theorem Loads.unique {network : Network} {fs : FileSystem} {source : Source}
    {content content' : Bytes} (h : Loads network fs source content)
    (h' : Loads network fs source content') : content = content' := by
  obtain ⟨loaded, hload, hread⟩ := h
  obtain ⟨loaded', hload', hread'⟩ := h'
  obtain rfl : loaded = loaded' := Except.ok.inj (hload.symm.trans hload')
  exact Except.ok.inj (hread.symm.trans hread')

theorem loads_file_iff {network : Network} {fs : FileSystem} {path : Path} {content : Bytes} :
    Loads network fs (.file path) content ↔ fs.read path = .ok content := by
  constructor
  · rintro ⟨loaded, hload, hread⟩
    simp only [load] at hload
    split at hload
    · obtain rfl := Except.ok.inj hload
      simp only [Loaded.read] at hread
      split at hread
      · next hbytes => rw [hbytes, Except.ok.inj hread]
      · simp at hread
    · simp at hload
  · intro h
    have hfile : fs.isFile path = true := isFile_iff.mpr ⟨content, h⟩
    exact ⟨.file path, by simp [load, hfile], by simp [Loaded.read, h]⟩

/-- An archive is read as the content that it decompresses to, and has to be one of gzip. -/
theorem loads_compressed_iff {network : Network} {fs : FileSystem} {path : Path}
    {kind : Compression} {content : Bytes} :
    Loads network fs (.compressed path kind) content ↔
      kind = .gzip ∧ ∃ bytes, fs.read path = .ok bytes ∧ gunzip bytes = .ok content := by
  cases kind with
  | zip => simp [Loads, load]
  | gzip =>
      have hgzip : loadGzip fs path = .ok content ↔
          ∃ bytes, fs.read path = .ok bytes ∧ gunzip bytes = .ok content := by
        unfold loadGzip FileSystem.read
        cases fs.open? path with
        | error fault => simp
        | ok entry => cases entry <;> simp [Entry.read]
      rw [← hgzip]
      constructor
      · rintro ⟨loaded, hload, hread⟩
        cases hbytes : loadGzip fs path with
        | error fault => simp [load, hbytes, Except.map] at hload
        | ok bytes =>
            obtain rfl : Loaded.content bytes = loaded := by
              simpa [load, hbytes, Except.map] using hload
            exact ⟨rfl, hread⟩
      · rintro ⟨-, h⟩
        exact ⟨.content content, by simp [load, h, Except.map], rfl⟩

/-- The names and rows of a content in the dialect in which it is read. -/
def Shows (options : ReadOptions) (content : Bytes) (names : List String)
    (rows : List Csv.Record) : Prop :=
  ∃ first, Pass.recordsOf options (dialectOf options content) content = first :: rows ∧
    Pass.columnNames? first = some names

theorem Shows.unique {options : ReadOptions} {content : Bytes} {names names' : List String}
    {rows rows' : List Csv.Record} (h : Shows options content names rows)
    (h' : Shows options content names' rows') : names = names' ∧ rows = rows' := by
  obtain ⟨first, hrecords, hnames⟩ := h
  obtain ⟨first', hrecords', hnames'⟩ := h'
  obtain ⟨rfl, rfl⟩ := List.cons.inj (hrecords.symm.trans hrecords')
  exact ⟨Option.some.inj (hnames.symm.trans hnames'), rfl⟩

/-- What a validation that succeeds leaves, given that its two paths lead to two locations: the
report and both files tell of the names and rows of the source. -/
theorem validate_shows {network : Network} {fs after : FileSystem} {source : Source}
    {options : ReadOptions} {output reject : Path} {report : EngineReport}
    (h : validate network fs source options output reject = (.ok report, after))
    (hdiffer : output.location fs.home ≠ reject.location fs.home) :
    ∃ (content : Bytes) (names : List String) (rows : List Csv.Record),
      Loads network fs source content ∧ Shows options content names rows ∧ names ≠ [] ∧
      report = reportAs (dialectOf options content).quoting
        ⟨(Pass.kept (Pass.schemaOf options names rows) rows).length,
          (Pass.reports options (dialectOf options content).delimiter
            (Pass.schemaOf options names rows) rows).length,
          names.length⟩ ∧
      after.read output = .ok (Csv.encodeRecords Bytes.comma
        (Pass.headerRecord names :: Pass.kept (Pass.schemaOf options names rows) rows)) ∧
      after.read reject = .ok (Csv.encodeRecords Bytes.comma
        (Pass.rejectHeader :: Pass.reports options (dialectOf options content).delimiter
          (Pass.schemaOf options names rows) rows)) := by
  obtain ⟨content, strict, others, quoting, tally, files, hcompletes, hrun, hretry, hreport, houtput,
    hreject⟩ := validate_ok h hdiffer
  have hquoting : (dialectOf options content).quoting = quoting := by
    simp only [dialectOf, heedsQuotes, hcompletes.run_eq, hretry]
    cases quoting <;> rfl
  obtain ⟨first, rows, names, hrecords, hnames⟩ := Pass.names_of_run_ok hrun
  rw [Pass.run_of_names hrecords hnames] at hrun
  obtain ⟨htally, rfl⟩ := Prod.mk.inj hrun
  obtain rfl := Except.ok.inj htally
  obtain rfl := hquoting
  exact ⟨content, names, rows, hcompletes.loads, ⟨first, hrecords, hnames⟩,
    names_ne_nil hrecords hnames, hreport, houtput, hreject⟩

theorem ReadsAs.of_shows {network : Network} {fs : FileSystem} {source : Source}
    {options : ReadOptions} {content : Bytes} {names : List String} {rows : List Csv.Record}
    (hload : Loads network fs source content) (h : Shows options content names rows) :
    ReadsAs network fs source options (dialectOf options content) names rows := by
  obtain ⟨loaded, hload, hread⟩ := hload
  obtain ⟨first, hrecords, hnames⟩ := h
  exact ⟨loaded, content, first, hload, hread, rfl, hrecords, hnames⟩

end BuiltIn

end TidyCsv
