import TidyCsv.Proofs.Header.Grammar
import TidyCsv.Proofs.Run.InputKept

/-!
# Where the files of a run lie

The base name of an input is an identifier, so it has no dot and no separator of directories in it,
wherever the argument comes from. Each path that a run makes of it is that of a file in the
directory that the run has chosen, and leads neither up nor further down.
-/

namespace TidyCsv

open InputReference

/-- The path leads to a name in the directory, from wherever both are followed. -/
structure Path.IsChild (p directory : Path) (name : String) : Prop where
  location_eq : ∀ home, p.location home = directory.location home ++ [name]
  fileName?_eq : p.fileName? = some name
  no_slash : '/' ∉ name.toList

theorem Path.isChild_join (directory : Path) {name : String} (h : IsPlainName name) :
    (directory.join ⟨name⟩).IsChild directory name := by
  obtain ⟨_, init, -, -, hjoin⟩ := join_name directory
  exact ⟨fun home => location_join_name home directory h,
    fileName?_of_pieces h.isName (hjoin name h).2.1, h.no_slash⟩

theorem InputReference.isPlainName_csv (reference : InputReference) :
    Path.IsPlainName (reference.baseName ++ ".csv") :=
  isPlainName_append (not_mem_baseName (by decide) reference) (by decide) (by decide)

namespace Session

/-- The directories that a run puts its own files in: that of the intermediate ones, and that of the
output if it is a file. -/
def ownDirectories (session : Session) (settings : Settings) : List Path :=
  session.directory settings :: (settings.output.path?.bind Path.parent?).toList

theorem rejectPath_eq_join (settings : Settings) (tempDir : Path) (baseName : String) :
    ∃ directory ∈ tempDir :: (settings.output.path?.bind Path.parent?).toList,
      rejectPath settings tempDir baseName = directory.join ⟨baseName ++ "_reject_errors.csv"⟩ := by
  simp only [rejectPath]
  split
  · next parent hparent =>
    split
    · exact ⟨tempDir, List.mem_cons_self, rfl⟩
    · split
      · next hempty =>
        by_cases habsolute : (Path.mk (baseName ++ "_reject_errors.csv")).isAbsolute = true
        · exact ⟨tempDir, List.mem_cons_self, by simp [Path.join, habsolute]⟩
        · exact ⟨parent, by simp [hparent], by simp [Path.join, habsolute, hempty]⟩
      · exact ⟨parent, by simp [hparent], rfl⟩
  · exact ⟨tempDir, List.mem_cons_self, rfl⟩

/-- Each path that a run derives is that of a file in one of its directories. -/
theorem isChild_of_mem_derivedPaths {session : Session} {settings : Settings}
    {reference : InputReference} {p : Path}
    (hp : p ∈ session.derivedPaths settings reference.baseName) :
    ∃ directory ∈ session.ownDirectories settings, ∃ ending ∈ ownEndings,
      p.IsChild directory (reference.baseName ++ ending) := by
  have hchild : ∀ directory ∈ session.ownDirectories settings, ∀ ending ∈ ownEndings,
      p = directory.join ⟨reference.baseName ++ ending⟩ →
        ∃ directory ∈ session.ownDirectories settings, ∃ ending ∈ ownEndings,
          p.IsChild directory (reference.baseName ++ ending) := by
    intro directory hdirectory ending hending heq
    refine ⟨directory, hdirectory, ending, hending, ?_⟩
    rw [heq]
    exact Path.isChild_join directory (reference.isPlainName_own hending)
  have hown : session.directory settings ∈ session.ownDirectories settings := List.mem_cons_self
  simp only [derivedPaths, List.mem_cons, List.not_mem_nil, or_false] at hp
  rcases hp with hreject | hstaged | hstdin | hutf8 | hfixed
  · obtain ⟨directory, hdirectory, hjoin⟩ :=
      rejectPath_eq_join settings (session.directory settings) reference.baseName
    exact hchild directory hdirectory "_reject_errors.csv" (by decide) (hreject.trans hjoin)
  · exact hchild _ hown "_staged.csv" (by decide) hstaged
  · exact hchild _ hown "_stdin.csv" (by decide) hstdin
  · exact hchild _ hown "_utf8.csv" (by decide) hutf8
  · exact hchild _ hown "_fixed.csv" (by decide) hfixed

theorem isChild_target {options : Options} {home path : Path} {reference : InputReference}
    (hnone : options.output = none) (h : options.target home reference.baseName = .file path) :
    path.IsChild home (reference.baseName ++ ".csv") := by
  simp only [Options.target, hnone] at h
  split at h
  · exact absurd h (by simp)
  · obtain rfl := Output.file.inj h
    exact Path.isChild_join home reference.isPlainName_csv

/-- A name in normal form is an identifier, and one of small letters and digits of ASCII if all else
in the name it is made of are accents and ligatures. So no base name has a separator or a dot in it,
and each file that a run names after its input is in the directory it is meant for. -/
theorem derivedPaths_children :
    (∀ name : String, Header.IsIdentifier (Header.normalizeName name).toList ∧
      (Header.FoldsToAscii name → Header.IsSnakeCase (Header.normalizeName name).toList)) ∧
    ∀ reference : InputReference, (∀ c ∈ ['/', '\\', '.'], c ∉ reference.baseName.toList) ∧
      (∀ (session : Session) (settings : Settings),
        ∀ p ∈ session.derivedPaths settings reference.baseName,
          ∃ directory ∈ session.ownDirectories settings, ∃ ending ∈ ownEndings,
            p.IsChild directory (reference.baseName ++ ending)) ∧
      ∀ (options : Options) (home path : Path), options.output = none →
        options.target home reference.baseName = .file path →
          path.IsChild home (reference.baseName ++ ".csv") := by
  refine ⟨fun name => ⟨Header.isIdentifier_normalizeName name,
    Header.FoldsToAscii.isSnakeCase_normalizeName⟩, fun reference => ⟨fun c hc => ?_,
    fun session settings p => isChild_of_mem_derivedPaths,
    fun options home path => isChild_target⟩⟩
  have hnot : ∀ c ∈ ['/', '\\', '.'], ¬ Header.IsNameChar c := by
    simp only [List.forall_mem_cons]
    exact ⟨by decide, by decide, by decide, by simp⟩
  exact not_mem_baseName (hnot c hc) reference

/-- A name with a ligature, and the URL of a file whose name leads up in the directories of another
system. -/
theorem derivedPaths_children_hostile :
    let reference := InputReference.ofArgument "https://example.com/..\\..\\Straße.csv"
    let session : Session := ⟨.builtIn .unreachable, some ⟨"work"⟩, ⟨"/tmp"⟩⟩
    let settings : Settings := ⟨0x2C, false, false, false, false, none, 0, .stdout⟩
    Header.FoldsToAscii "Straße Nr. 2" ∧ Header.IsSnakeCase "strasse_nr_2".toList ∧
      reference.baseName = "strasse" ∧ '\\' ∉ reference.baseName.toList ∧
      (Path.mk "work/strasse_staged.csv") ∈ session.derivedPaths settings reference.baseName ∧
      ∃ directory ∈ [Path.mk "work"], ∃ ending ∈ ownEndings,
        (Path.mk "work/strasse_staged.csv").IsChild directory ("strasse" ++ ending) := by
  intro reference session settings
  have hfolds : Header.FoldsToAscii "Straße Nr. 2" := by decide +kernel
  have hnames : Header.normalizeName "Straße Nr. 2" = "strasse_nr_2" ∧
      reference.baseName = "strasse" := by decide +kernel
  have hstaged : (Path.mk "work/strasse_staged.csv") ∈
      session.derivedPaths settings reference.baseName := by
    rw [hnames.2]
    decide +kernel
  obtain ⟨hform, hbase⟩ := derivedPaths_children
  refine ⟨hfolds, hnames.1 ▸ (hform "Straße Nr. 2").2 hfolds, hnames.2,
    (hbase reference).1 '\\' (by decide), hstaged, ?_⟩
  have hchild := (hbase reference).2.1 session settings _ hstaged
  rwa [hnames.2] at hchild

end Session

end TidyCsv
