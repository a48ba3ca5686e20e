import Mathlib.Data.List.DropRight
import TidyCsv.Text.Lines

/-! # Texts between blank margins

Trimming leaves what stands between the first and the last character of a text that are not blank,
and nothing of a text that is blank as a whole. -/

namespace TidyCsv.Text

open Unicode

variable {text : List Char}

theorem trimEnd_eq_rdropWhile (text : List Char) : trimEnd text = text.rdropWhile isBlank := rfl

theorem trim_eq_nil_iff : trim text = [] ↔ ∀ c ∈ text, isBlank c = true := by
  rw [trim, trimEnd_eq_rdropWhile, List.rdropWhile_eq_nil_iff]
  constructor
  · intro h c hc
    rw [← List.takeWhile_append_dropWhile (p := isBlank) (l := text)] at hc
    rcases List.mem_append.mp hc with hfront | hrest
    · exact List.mem_takeWhile_imp hfront
    · exact h c hrest
  · exact fun h c hc => h c (List.dropWhile_sublist _ |>.subset hc)

theorem dropWhile_append {front rest : List Char} (hfront : ∀ c ∈ front, isBlank c = true)
    (hrest : ∃ c ∈ rest.head?, isBlank c = false) : (front ++ rest).dropWhile isBlank = rest := by
  rw [List.dropWhile_append_of_pos hfront]
  cases rest with
  | nil => simp at hrest
  | cons c rest =>
      obtain ⟨first, hfirst, hplain⟩ := hrest
      obtain rfl : c = first := by simpa using hfirst
      simp [hplain]

/-- Margins are what trimming removes. -/
theorem trim_margins {left core right : List Char} (hleft : ∀ c ∈ left, isBlank c = true)
    (hright : ∀ c ∈ right, isBlank c = true) (hfirst : ∃ c ∈ core.head?, isBlank c = false)
    (hlast : ∃ c ∈ core.getLast?, isBlank c = false) : trim (left ++ (core ++ right)) = core := by
  have hopens : ∃ c ∈ (core ++ right).head?, isBlank c = false := by
    obtain ⟨c, hc, hplain⟩ := hfirst
    exact ⟨c, by simp_all, hplain⟩
  have hcloses : ∃ c ∈ core.reverse.head?, isBlank c = false := by simpa using hlast
  rw [trim, dropWhile_append hleft hopens, trimEnd, List.reverse_append,
    dropWhile_append (by simpa using hright) hcloses, List.reverse_reverse]

/-- What is left once the blanks in front have been dropped does not open with one. -/
theorem isBlank_head?_trim {c : Char} (h : (trim text).head? = some c) : isBlank c = false := by
  have hprefix : trim text <+: text.dropWhile isBlank := List.rdropWhile_prefix isBlank _
  obtain ⟨rest, hrest⟩ := hprefix
  have hhead : (text.dropWhile isBlank).head? = some c := by
    rw [← hrest, List.head?_append, h, Option.some_or]
  have hplain := List.head?_dropWhile_not isBlank text
  rwa [hhead] at hplain

/-- A text that is not blank has margins, and a first and a last character between them. -/
theorem exists_margins (h : trim text ≠ []) :
    ∃ left right, text = left ++ (trim text ++ right) ∧ (∀ c ∈ left, isBlank c = true) ∧
      (∀ c ∈ right, isBlank c = true) ∧ (∃ c ∈ (trim text).head?, isBlank c = false) ∧
      ∃ c ∈ (trim text).getLast?, isBlank c = false := by
  refine ⟨text.takeWhile isBlank, (text.dropWhile isBlank).rtakeWhile isBlank, ?_,
    fun c => List.mem_takeWhile_imp, fun c => List.mem_rtakeWhile_imp, ?_, ?_⟩
  · rw [trim, trimEnd_eq_rdropWhile, List.rdropWhile_append_rtakeWhile,
      List.takeWhile_append_dropWhile]
  · obtain ⟨c, hc⟩ := Option.isSome_iff_exists.mp (List.isSome_head?.mpr h)
    exact ⟨c, hc, isBlank_head?_trim hc⟩
  · have hlast := List.rdropWhile_last_not isBlank _ h
    exact ⟨_, List.getLast?_eq_some_getLast h, Bool.eq_false_iff.mpr hlast⟩

theorem trim_of_ends (hfirst : ∃ c ∈ text.head?, isBlank c = false)
    (hlast : ∃ c ∈ text.getLast?, isBlank c = false) : trim text = text := by
  have hself := trim_margins (List.forall_mem_nil _) (List.forall_mem_nil _) hfirst hlast
  simpa using hself

theorem trim_trim (text : List Char) : trim (trim text) = trim text := by
  by_cases hblank : trim text = []
  · rw [hblank]
    rfl
  · obtain ⟨-, -, -, -, -, hfirst, hlast⟩ := exists_margins hblank
    exact trim_of_ends hfirst hlast

theorem trim_of_forall (h : ∀ c ∈ text, isBlank c = false) : trim text = text := by
  cases text with
  | nil => rfl
  | cons c rest =>
      have hlast := List.getLast?_eq_some_getLast (List.cons_ne_nil c rest)
      exact trim_of_ends ⟨c, rfl, h c (by simp)⟩ ⟨_, hlast, h _ (List.getLast_mem _)⟩

end TidyCsv.Text
