import TidyCsv.Input.Reference
import TidyCsv.Proofs.Header.Name
import TidyCsv.Proofs.Storage.FileSystem

/-! # Base names

The base name of an input has no dot and no slash in it. What it becomes with one of the endings of
a run's own files is never the name of the input: without its last ending that name would have to
become the base name, and it has more letters. -/

namespace TidyCsv.InputReference

open Header Text

/-! ## Endings -/

theorem takeWhile_reverse_append {ending : List Char} (h : '.' ∉ ending) (rest : List Char) :
    (ending.reverse ++ rest).takeWhile (· != '.') =
      ending.reverse ++ rest.takeWhile (· != '.') := by
  apply List.takeWhile_append_of_pos
  intro c hc
  have hne : c ≠ '.' := by
    rintro rfl
    exact h (List.mem_reverse.mp hc)
  simpa using hne

theorem splitLastDot_of_not_mem {name : List Char} (h : '.' ∉ name) : splitLastDot name = none := by
  have htake := takeWhile_reverse_append h []
  rw [List.append_nil, List.takeWhile_nil, List.append_nil] at htake
  have hdrop : name.reverse.drop name.reverse.length = [] := List.drop_length
  simp only [splitLastDot, htake, hdrop]

theorem splitLastDot_append (head : List Char) {ending : List Char} (h : '.' ∉ ending) :
    splitLastDot (head ++ '.' :: ending) = some (head, ending) := by
  have htake := takeWhile_reverse_append h ('.' :: head.reverse)
  simp [splitLastDot, htake]

theorem stripEndings_of_not_mem (fuel : Nat) {name : List Char} (h : '.' ∉ name) :
    stripEndings fuel name = name := by
  cases fuel with
  | zero => rfl
  | succ fuel => simp [stripEndings, splitLastDot_of_not_mem h]

/-- A name with one ending that does not count loses it and nothing else. -/
theorem stripEndings_append {head ending : List Char} (hhead : '.' ∉ head) (hne : head ≠ [])
    (hending : '.' ∉ ending)
    (hknown : strippedEndings.contains (String.ofList (asciiLower ending)) = true) (fuel : Nat) :
    stripEndings (fuel + 1) (head ++ '.' :: ending) = head := by
  simp only [stripEndings, splitLastDot_append head hending, hknown]
  simp [hne, stripEndings_of_not_mem fuel hhead]

/-! ## The files of a run -/

/-- What stands after the base name in the names of a run's own files. -/
def ownEndings : List String :=
  ["_staged.csv", "_utf8.csv", "_fixed.csv", "_stdin.csv", "_reject_errors.csv"]

theorem mark_of_mem_ownEndings {ending : String} (h : ending ∈ ownEndings) :
    ∃ mark : List Char, ending.toList = mark ++ '.' :: "csv".toList ∧ '.' ∉ mark ∧
      0 < weight mark := by
  simp only [ownEndings, List.mem_cons, List.not_mem_nil, or_false] at h
  rcases h with rfl | rfl | rfl | rfl | rfl
  · exact ⟨"_staged".toList, by decide⟩
  · exact ⟨"_utf8".toList, by decide⟩
  · exact ⟨"_fixed".toList, by decide⟩
  · exact ⟨"_stdin".toList, by decide⟩
  · exact ⟨"_reject_errors".toList, by decide⟩

theorem not_mem_normalizeName {c : Char} (h : ¬ IsNameChar c) (name : String) :
    c ∉ (normalizeName name).toList := by
  intro hmem
  exact h (isNameChar_of_mem_normalizeName hmem)

/-- What has an ending of some length is a name in a directory. -/
theorem isPlainName_append {base ending : String} (hbase : '/' ∉ base.toList)
    (hending : '/' ∉ ending.toList) (hlong : 2 < ending.toList.length) :
    Path.IsPlainName (base ++ ending) := by
  have hne : ∀ short : String, short.toList.length ≤ 2 → base ++ ending ≠ short := by
    intro short hshort heq
    have hlength := congrArg (List.length ∘ String.toList) heq
    simp only [Function.comp_apply, String.toList_append, List.length_append] at hlength
    omega
  refine ⟨⟨?_, hne ".." (by decide)⟩, ?_⟩
  · have hempty := hne "" (by decide)
    have hdot := hne "." (by decide)
    simp only [Path.isVoid, Bool.or_eq_false_iff, beq_eq_false_iff_ne]
    exact ⟨hempty, hdot⟩
  · rw [String.toList_append, List.mem_append]
    rintro (hin | hin)
    · exact hbase hin
    · exact hending hin

theorem append_ownEnding_ne (name : String) {ending : String} (h : ending ∈ ownEndings) :
    normalizeName (String.ofList (stripEndings name.toList.length name.toList)) ++ ending ≠
      name := by
  obtain ⟨mark, hending, hdot, hweight⟩ := mark_of_mem_ownEndings h
  intro heq
  generalize hbase :
    normalizeName (String.ofList (stripEndings name.toList.length name.toList)) = base at heq
  have hclean : '.' ∉ base.toList := hbase ▸ not_mem_normalizeName (by decide) _
  have hhead : '.' ∉ base.toList ++ mark := by simp [hclean, hdot]
  have hne : base.toList ++ mark ≠ [] := by
    intro hempty
    rw [List.append_eq_nil_iff] at hempty
    simp [hempty.2] at hweight
  have hname : name.toList = (base.toList ++ mark) ++ '.' :: "csv".toList := by
    rw [← heq, String.toList_append, hending, List.append_assoc]
  have hfuel : name.toList.length = (name.toList.length - 1) + 1 := by
    rw [hname, List.length_append, List.length_cons]
    omega
  have hstripped : stripEndings name.toList.length name.toList = base.toList ++ mark := by
    rw [hfuel, hname]
    exact stripEndings_append hhead hne (by decide) (by decide) _
  rw [hstripped] at hbase
  exact normalizeName_append_ne hweight hbase

theorem baseName_eq (reference : InputReference) :
    reference.baseName = normalizeName
      (String.ofList (stripEndings reference.lastPart.length reference.lastPart)) := by
  simp only [baseName]

theorem not_mem_baseName {c : Char} (h : ¬ IsNameChar c) (reference : InputReference) :
    c ∉ reference.baseName.toList := by
  rw [baseName_eq]
  exact not_mem_normalizeName h _

theorem isPlainName_own (reference : InputReference) {ending : String} (h : ending ∈ ownEndings) :
    Path.IsPlainName (reference.baseName ++ ending) := by
  have hplain : ∀ ending ∈ ownEndings, '/' ∉ ending.toList ∧ 2 < ending.toList.length := by decide
  exact isPlainName_append (not_mem_baseName (by decide) reference) (hplain ending h).1
    (hplain ending h).2

theorem nul_not_mem_own (reference : InputReference) {ending : String} (h : ending ∈ ownEndings) :
    '\x00' ∉ (reference.baseName ++ ending).toList := by
  have hplain : ∀ ending ∈ ownEndings, '\x00' ∉ ending.toList := by decide
  rw [String.toList_append, List.mem_append]
  rintro (hbase | hending)
  · exact not_mem_baseName (by decide) reference hbase
  · exact hplain ending h hending

/-- A run's own files of two kinds differ, whatever their directories are. -/
theorem own_ne_own {base ending other : String} (h : ending ≠ other)
    (directory directory' : Location) :
    directory ++ [base ++ ending] ≠ directory' ++ [base ++ other] := by
  intro heq
  have hlast := congrArg List.getLast? heq
  rw [List.getLast?_concat, List.getLast?_concat] at hlast
  have hnames := congrArg String.toList (Option.some.inj hlast)
  rw [String.toList_append, String.toList_append] at hnames
  exact h (String.toList_inj.mp (List.append_cancel_left hnames))

theorem baseName_of_fileName {reference : InputReference} {path : Path} {name : String}
    (hpath : reference.path? = some path) (hname : path.fileName? = some name) :
    reference.baseName =
      normalizeName (String.ofList (stripEndings name.toList.length name.toList)) := by
  have hlast : reference.lastPart = name.toList := by
    cases reference with
    | stdin => simp [path?] at hpath
    | remote url => simp [path?] at hpath
    | compressed p kind =>
        obtain rfl : p = path := by simpa [path?] using hpath
        simp [lastPart, hname]
    | file p =>
        obtain rfl : p = path := by simpa [path?] using hpath
        simp [lastPart, hname]
  rw [baseName_eq, hlast]

/-- A run's own file is in no directory the file that is its input. -/
theorem location_ne_own {reference : InputReference} {path : Path} {fs : FileSystem}
    {location : Location} (hpath : reference.path? = some path)
    (hfile : fs.fileAt? path = some location) {ending : String} (h : ending ∈ ownEndings)
    (directory : Location) : directory ++ [reference.baseName ++ ending] ≠ location := by
  obtain ⟨parent, name, rfl, hname⟩ := FileSystem.fileName?_of_fileAt? hfile
  intro heq
  have hlast := congrArg List.getLast? heq
  rw [List.getLast?_concat, List.getLast?_concat, baseName_of_fileName hpath hname] at hlast
  exact append_ownEnding_ne name h (Option.some.inj hlast)

end TidyCsv.InputReference
