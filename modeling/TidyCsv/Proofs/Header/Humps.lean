import Mathlib.Data.List.Induction
import TidyCsv.Header.SnakeCase
import TidyCsv.Proofs.Unicode.SmallLetters

/-!
# Where words are cut

A word is cut wherever its cased letters ask for it, however many characters without a case lie
between them. Main statements: a word stays in one piece exactly if it has no such place, and each
piece of a word stays in one piece.
-/

namespace TidyCsv.Header

open Unicode

/-! ## Cased letters -/

def Caseless (c : Char) : Prop := isLowercase c = false ∧ isUppercase c = false

/-- The words that are cut: a capital follows a small letter, or a small letter follows the last of
several capitals. Only characters without a case may lie between the letters before the cut and the
one after it. -/
inductive Breaks : List Char → Prop
  | beforeCapital (before between after : List Char) {small capital : Char}
      (hsmall : isLowercase small = true) (hcapital : isUppercase capital = true)
      (hbetween : ∀ c ∈ between, Caseless c) :
      Breaks (before ++ small :: (between ++ capital :: after))
  | beforeLast (before between after : List Char) {capital last small : Char}
      (hcapital : isUppercase capital = true) (hlast : isUppercase last = true)
      (hsmall : isLowercase small = true) (hbetween : ∀ c ∈ between, Caseless c) :
      Breaks (before ++ capital :: (between ++ last :: small :: after))

theorem Breaks.exists_capital {word : List Char} (h : Breaks word) :
    ∃ c ∈ word, isUppercase c = true := by
  cases h with
  | beforeCapital before between after hsmall hcapital hbetween => exact ⟨_, by simp, hcapital⟩
  | beforeLast before between after hcapital hlast hsmall hbetween => exact ⟨_, by simp, hcapital⟩

namespace Hump

variable {hump case : Hump} {c next : Char} {text word : List Char}

theorem after_eq_lower_iff :
    hump.after c = lower ↔ isLowercase c = true ∨ Caseless c ∧ hump = lower := by
  cases hlower : isLowercase c <;> cases hupper : isUppercase c <;>
    simp [after, Caseless, hlower, hupper]

/-- No character has both cases, so a capital decides as a small letter does. -/
theorem after_eq_upper_iff :
    hump.after c = upper ↔ isUppercase c = true ∨ Caseless c ∧ hump = upper := by
  cases hlower : isLowercase c
  · cases hupper : isUppercase c <;> simp [after, Caseless, hlower, hupper]
  · simp [after, Caseless, hlower, isUppercase_of_isLowercase hlower]

/-- The case after a text is that of its last cased letter. -/
theorem foldl_after_eq_iff {decides : Char → Bool} (hcase : case ≠ unknown)
    (hafter : ∀ (hump : Hump) (c : Char),
      hump.after c = case ↔ decides c = true ∨ Caseless c ∧ hump = case) :
    text.foldl after unknown = case ↔
      ∃ before c between, text = before ++ c :: between ∧ decides c = true ∧
        ∀ d ∈ between, Caseless d := by
  induction text using List.reverseRecOn with
  | nil => simpa using hcase.symm
  | append_singleton text last ih =>
    rw [List.foldl_append, List.foldl_cons, List.foldl_nil, hafter, ih]
    constructor
    · rintro (hlast | ⟨hlast, before, c, between, rfl, hc, hbetween⟩)
      · exact ⟨text, last, [], rfl, hlast, by simp⟩
      · refine ⟨before, c, between ++ [last], by simp, hc, ?_⟩
        simpa [or_imp, forall_and] using ⟨hbetween, hlast⟩
    · rintro ⟨before, c, between, htext, hc, hbetween⟩
      rcases List.eq_nil_or_concat between with rfl | ⟨init, d, rfl⟩
      · obtain ⟨-, rfl⟩ : text = before ∧ last = c := by simpa using htext
        exact .inl hc
      · obtain ⟨rfl, rfl⟩ : text = before ++ c :: init ∧ last = d := by
          have hinit : text ++ [last] = (before ++ c :: init) ++ [d] := by simpa using htext
          simpa using List.append_inj' hinit rfl
        exact .inr ⟨hbetween last (by simp), before, c, init, rfl, hc,
          fun e he => hbetween e (by simp [he])⟩

theorem foldl_after_eq_lower_iff :
    text.foldl after unknown = lower ↔
      ∃ before c between, text = before ++ c :: between ∧ isLowercase c = true ∧
        ∀ d ∈ between, Caseless d :=
  foldl_after_eq_iff (by decide) fun _ _ => after_eq_lower_iff

theorem foldl_after_eq_upper_iff :
    text.foldl after unknown = upper ↔
      ∃ before c between, text = before ++ c :: between ∧ isUppercase c = true ∧
        ∀ d ∈ between, Caseless d :=
  foldl_after_eq_iff (by decide) fun _ _ => after_eq_upper_iff

/-! ## Cuts -/

/-- Whether there is a cut before or after a character, told from the case before it and from the
character after it. -/
def Cuts (hump : Hump) (c next : Char) : Prop :=
  hump.after c = lower ∧ isUppercase next = true ∨
    hump = upper ∧ isUppercase c = true ∧ isLowercase next = true

/-- Whether a word is read to its end without a cut. -/
def Keeps : Hump → List Char → Prop
  | hump, c :: next :: rest => ¬ hump.Cuts c next ∧ (hump.after c).Keeps (next :: rest)
  | _, _ => True

@[simp] theorem keeps_nil : hump.Keeps [] := trivial

@[simp] theorem keeps_singleton : hump.Keeps [c] := trivial

theorem keeps_cons_cons {rest : List Char} :
    hump.Keeps (c :: next :: rest) ↔ ¬ hump.Cuts c next ∧ (hump.after c).Keeps (next :: rest) :=
  Iff.rfl

theorem keeps_iff :
    hump.Keeps word ↔ ∀ front c next rest, word = front ++ c :: next :: rest →
      ¬ (front.foldl after hump).Cuts c next := by
  induction word generalizing hump with
  | nil => simp
  | cons first word ih =>
    cases word with
    | nil => simp [List.cons_eq_append_iff]
    | cons second word =>
      rw [keeps_cons_cons, ih]
      constructor
      · rintro ⟨hfirst, hrest⟩ front c next rest hword
        cases front with
        | nil =>
          obtain ⟨rfl, rfl, rfl⟩ : first = c ∧ second = next ∧ word = rest := by simpa using hword
          exact hfirst
        | cons d front =>
          obtain ⟨rfl, htail⟩ : first = d ∧ second :: word = front ++ c :: next :: rest := by
            simpa using hword
          exact hrest front c next rest htail
      · intro hall
        refine ⟨hall [] first second word rfl, fun front c next rest hword => ?_⟩
        exact hall (first :: front) c next rest (by rw [hword, List.cons_append])

/-- A word is read without a cut exactly if it has no place for one. -/
theorem keeps_iff_not_breaks : unknown.Keeps word ↔ ¬ Breaks word := by
  rw [keeps_iff]
  constructor
  · intro hkeeps hbreaks
    cases hbreaks with
    | beforeCapital before between after hsmall hcapital hbetween =>
      next small capital =>
      obtain ⟨front, c, hfront⟩ : ∃ front c, before ++ small :: between = front ++ [c] := by
        simpa using List.eq_nil_or_concat (before ++ small :: between)
      have hlower : (front ++ [c]).foldl Hump.after unknown = lower :=
        foldl_after_eq_lower_iff.mpr ⟨before, small, between, hfront.symm, hsmall, hbetween⟩
      have hword : before ++ small :: (between ++ capital :: after) =
          front ++ c :: capital :: after := by
        rw [← List.cons_append, ← List.append_assoc, hfront, List.append_assoc,
          List.singleton_append]
      exact hkeeps front c capital after hword (.inl ⟨by simpa using hlower, hcapital⟩)
    | beforeLast before between after hcapital hlast hsmall hbetween =>
      next capital last small =>
      have hupper : (before ++ capital :: between).foldl Hump.after unknown = upper :=
        foldl_after_eq_upper_iff.mpr ⟨before, capital, between, rfl, hcapital, hbetween⟩
      exact hkeeps (before ++ capital :: between) last small after (by simp)
        (.inr ⟨hupper, hlast, hsmall⟩)
  · rintro hno front c next rest rfl (⟨hlower, hnext⟩ | ⟨hupper, hc, hnext⟩)
    · have hlower : (front ++ [c]).foldl after unknown = lower := by simpa using hlower
      obtain ⟨before, small, between, hfront, hsmall, hbetween⟩ :=
        foldl_after_eq_lower_iff.mp hlower
      have hword : front ++ c :: next :: rest = before ++ small :: (between ++ next :: rest) := by
        rw [← List.cons_append, ← List.append_assoc, ← hfront, List.append_assoc,
          List.singleton_append]
      exact hno (hword ▸ .beforeCapital before between rest hsmall hnext hbetween)
    · obtain ⟨before, capital, between, rfl, hcapital, hbetween⟩ :=
        foldl_after_eq_upper_iff.mp hupper
      have hbreaks := Breaks.beforeLast before between rest hcapital hc hnext hbetween
      exact hno (by simpa using hbreaks)

end Hump

/-! ## Humps -/

variable {done : List (List Char)} {current word piece : List Char} {hump : Hump}

theorem humpsFrom_of_keeps (h : hump.Keeps word) (hsome : current ≠ [] ∨ word ≠ []) :
    humpsFrom done current hump word = done.reverse ++ [current.reverse ++ word] := by
  fun_induction humpsFrom done current hump word with
  | case1 done current hump hempty => simp_all
  | case2 done current hump hempty => simp
  | case3 done current hump c => simp
  | case4 done current hump c next rest hcut ih => exact absurd (.inl hcut) h.1
  | case5 done current hump c next rest hnot hcut ih => exact absurd (.inr hcut) h.1
  | case6 done current hump c next rest hnot hnot' ih =>
    rw [ih h.2 (.inl (List.cons_ne_nil _ _))]
    simp

theorem length_lt_length_humpsFrom (hsome : current ≠ [] ∨ word ≠ []) :
    done.length < (humpsFrom done current hump word).length := by
  fun_induction humpsFrom done current hump word with
  | case1 done current hump hempty => simp_all
  | case2 done current hump hempty => simp
  | case3 done current hump c => simp
  | case4 done current hump c next rest hcut ih =>
    exact Nat.lt_of_succ_lt (ih (.inr (List.cons_ne_nil _ _)))
  | case5 done current hump c next rest hnot hcut ih =>
    exact Nat.lt_of_succ_lt (ih (.inr (List.cons_ne_nil _ _)))
  | case6 done current hump c next rest hnot hnot' ih => exact ih (.inr (List.cons_ne_nil _ _))

/-- Only a word that is not cut gives just one more hump. -/
theorem keeps_of_length_humpsFrom
    (h : (humpsFrom done current hump word).length ≤ done.length + 1) : hump.Keeps word := by
  fun_induction humpsFrom done current hump word with
  | case1 done current hump hempty => trivial
  | case2 done current hump hempty => trivial
  | case3 done current hump c => trivial
  | case4 done current hump c next rest hcut ih =>
    have hmore : ((c :: current).reverse :: done).length <
        (humpsFrom ((c :: current).reverse :: done) [] .unknown (next :: rest)).length :=
      length_lt_length_humpsFrom (.inr (List.cons_ne_nil _ _))
    exact absurd hmore (Nat.not_lt.mpr h)
  | case5 done current hump c next rest hnot hcut ih =>
    have hmore : (current.reverse :: done).length <
        (humpsFrom (current.reverse :: done) [c] .unknown (next :: rest)).length :=
      length_lt_length_humpsFrom (.inr (List.cons_ne_nil _ _))
    exact absurd hmore (Nat.not_lt.mpr h)
  | case6 done current hump c next rest hnot hnot' ih =>
    exact ⟨fun hcut => hcut.elim hnot hnot', ih h⟩

theorem humps_eq_singleton_iff (hword : word ≠ []) : humps word = [word] ↔ ¬ Breaks word := by
  rw [← Hump.keeps_iff_not_breaks]
  constructor
  · intro hone
    have hlength : (humpsFrom [] [] .unknown word).length ≤ ([] : List (List Char)).length + 1 :=
      Nat.le_of_eq (congrArg List.length hone)
    exact keeps_of_length_humpsFrom hlength
  · intro hkeeps
    exact humpsFrom_of_keeps hkeeps (.inr hword)

/-- Whether the part of a hump that has been read, with whatever could follow in its place instead
of the rest of the word, is read from its own start as it was in the word. -/
structure Hump.Carries (hump : Hump) (current word : List Char) : Prop where
  nonempty : hump = .upper → current ≠ []
  keeps : ∀ tail : List Char, tail.head? = word.head? → hump.Keeps tail →
    Hump.unknown.Keeps (current.reverse ++ tail)

theorem Hump.Carries.start (word : List Char) : Hump.unknown.Carries [] word :=
  ⟨by simp, fun _ _ hkeeps => hkeeps⟩

/-- After a capital that a small letter follows, reading goes on as after no letter. -/
theorem Hump.Carries.restart {c next : Char} {rest : List Char} (hc : isUppercase c = true)
    (hnext : isLowercase next = true) : Hump.unknown.Carries [c] (next :: rest) := by
  refine ⟨by simp, fun tail hhead hkeeps => ?_⟩
  obtain ⟨after, rfl⟩ : ∃ after, tail = next :: after := List.head?_eq_some_iff.mp hhead
  have hupper : Hump.unknown.after c = .upper := after_eq_upper_iff.mpr (.inl hc)
  refine ⟨by simp [Cuts, hupper], ?_⟩
  rw [hupper]
  cases after with
  | nil => trivial
  | cons second after =>
    have hlower : ∀ hump : Hump, hump.after next = .lower := fun hump =>
      after_eq_lower_iff.mpr (.inl hnext)
    obtain ⟨hnot, hrest⟩ := hkeeps
    simp only [Cuts, hlower, isUppercase_of_isLowercase hnext] at hnot hrest
    refine ⟨by simpa [Cuts, hlower, isUppercase_of_isLowercase hnext] using hnot, ?_⟩
    rwa [hlower]

theorem Hump.Carries.step {c next : Char} {rest : List Char}
    (h : hump.Carries current (c :: next :: rest)) (hnot : ¬ hump.Cuts c next) :
    (hump.after c).Carries (c :: current) (next :: rest) := by
  refine ⟨fun _ => List.cons_ne_nil _ _, fun tail hhead hkeeps => ?_⟩
  obtain ⟨after, rfl⟩ : ∃ after, tail = next :: after := List.head?_eq_some_iff.mp hhead
  simpa using h.keeps (c :: next :: after) rfl ⟨hnot, hkeeps⟩

theorem Hump.Keeps.of_append {front back : List Char} (h : hump.Keeps (front ++ back)) :
    hump.Keeps front := by
  rw [keeps_iff] at h ⊢
  rintro before c next rest rfl
  exact h before c next (rest ++ back) (by simp)

theorem keeps_of_mem_humpsFrom (hcarries : hump.Carries current word)
    (hdone : ∀ piece ∈ done, piece ≠ [] ∧ Hump.unknown.Keeps piece) :
    ∀ piece ∈ humpsFrom done current hump word, piece ≠ [] ∧ Hump.unknown.Keeps piece := by
  fun_induction humpsFrom done current hump word with
  | case1 done current hump hempty => simpa using hdone
  | case2 done current hump hempty =>
    have hlast : Hump.unknown.Keeps current.reverse := by simpa using hcarries.keeps [] rfl trivial
    have hnonempty : current ≠ [] := by simpa using hempty
    simpa [or_imp, forall_and, hnonempty, hlast] using hdone
  | case3 done current hump c =>
    have hlast : Hump.unknown.Keeps (current.reverse ++ [c]) := hcarries.keeps [c] rfl trivial
    simpa [or_imp, forall_and, hlast] using hdone
  | case4 done current hump c next rest hcut ih =>
    have hlast : Hump.unknown.Keeps (current.reverse ++ [c]) := hcarries.keeps [c] rfl trivial
    apply ih (.start _)
    simpa [or_imp, forall_and, hlast] using hdone
  | case5 done current hump c next rest hnot hcut ih =>
    have hlast : Hump.unknown.Keeps current.reverse :=
      Hump.Keeps.of_append (hcarries.keeps [c] rfl trivial)
    apply ih (.restart hcut.2.1 hcut.2.2)
    simpa [or_imp, forall_and, hlast, hcarries.nonempty hcut.1] using hdone
  | case6 done current hump c next rest hnot hnot' ih =>
    exact ih (hcarries.step fun hcut => hcut.elim hnot hnot') hdone

theorem ne_nil_of_mem_humps (h : piece ∈ humps word) : piece ≠ [] :=
  (keeps_of_mem_humpsFrom (.start word) (by simp) piece h).1

theorem humps_of_mem_humps (h : piece ∈ humps word) : humps piece = [piece] := by
  obtain ⟨hnonempty, hkeeps⟩ := keeps_of_mem_humpsFrom (.start word) (by simp) piece h
  exact (humps_eq_singleton_iff hnonempty).mpr (Hump.keeps_iff_not_breaks.mp hkeeps)

end TidyCsv.Header
