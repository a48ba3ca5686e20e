import TidyCsv.Proofs.Header.Name

/-!
# Names are made of words

In a text in lower case the name is made of the words of the text that are not empty, with single
underscores between them, and the words of such a name are found again.
-/

namespace TidyCsv

open Unicode

namespace Header

open Text

/-! ## Identifiers -/

/-- The nonempty words of a text. -/
def solidWords (text : List Char) : List (List Char) := (words text).filter (!·.isEmpty)

theorem exists_mem_solidWords_iff {text : List Char} {c : Char} :
    (∃ w ∈ solidWords text, c ∈ w) ↔ c ∈ text ∧ isAlphanumeric c = true := by
  rw [← List.mem_flatten, solidWords, List.flatten_filter_not_isEmpty, flatten_words,
    List.mem_filter]

/-- What has been taken into a name after some whole words, reversed: the words that are not empty,
each with an underscore after it. -/
def taken (done : List (List Char)) : List Char :=
  ((done.reverse.filter (!·.isEmpty)).flatMap (· ++ ['_'])).reverse

theorem intercalate_concat (ws : List (List Char)) (w : List Char) :
    ['_'].intercalate (ws ++ [w]) = ws.flatMap (· ++ ['_']) ++ w := by
  induction ws with
  | nil => simp
  | cons v ws ih =>
    obtain ⟨u, us, hus⟩ : ∃ u us, ws ++ [w] = u :: us :=
      List.exists_cons_of_ne_nil (by simp)
    rw [List.cons_append, hus, List.intercalate_cons_cons, ← hus, ih]
    simp

theorem taken_cases (done : List (List Char)) :
    done.reverse.filter (!·.isEmpty) = [] ∧ taken done = [] ∨
      ∃ ws w, done.reverse.filter (!·.isEmpty) = ws ++ [w] ∧
        taken done = '_' :: (w.reverse ++ (ws.flatMap (· ++ ['_'])).reverse) := by
  rcases List.eq_nil_or_concat (done.reverse.filter (!·.isEmpty)) with hnone | ⟨ws, w, hlast⟩
  · exact .inl ⟨hnone, by simp [taken, hnone]⟩
  · exact .inr ⟨ws, w, by simpa using hlast, by simp [taken, hlast]⟩

theorem taken_cons (done : List (List Char)) {word : List Char} (hword : word ≠ []) :
    taken (word :: done) = '_' :: (word.reverse ++ taken done) := by
  simp [taken, List.filter_append, hword]

theorem taken_nil_cons (done : List (List Char)) : taken ([] :: done) = taken done := by
  simp [taken, List.filter_append]

theorem ne_underscore {c : Char} (hc : isAlphanumeric c = true) : c ≠ '_' := by
  rintro rfl
  exact Bool.false_ne_true ((by decide : isAlphanumeric '_' = false).symm.trans hc)

theorem dropWhile_append {word rest : List Char} (hword : word ≠ [])
    (halnum : ∀ c ∈ word, isAlphanumeric c = true) :
    (word ++ rest).dropWhile (· == '_') = word ++ rest := by
  obtain ⟨c, word, rfl⟩ := List.exists_cons_of_ne_nil hword
  have hc : (c == '_') = false :=
    beq_eq_false_iff_ne.mpr (ne_underscore (halnum c List.mem_cons_self))
  rw [List.cons_append, List.dropWhile_cons, hc, if_neg Bool.false_ne_true]

/-- What is no letter or number ends the word that is being read, if there is one. -/
theorem takeChar_of_not {c : Char} {word : List Char} (hc : isAlphanumeric c = false)
    (hword : ∀ d ∈ word, isAlphanumeric d = true) (done : List (List Char)) :
    takeChar (word ++ taken done) c = taken (word.reverse :: done) := by
  cases word with
  | nil =>
    rw [List.reverse_nil, taken_nil_cons, List.nil_append]
    rcases taken_cases done with ⟨-, htaken⟩ | ⟨ws, w, -, htaken⟩ <;> simp [takeChar, hc, htaken]
  | cons d word =>
    have hd := ne_underscore (hword d List.mem_cons_self)
    rw [taken_cons _ (by simp), List.reverse_reverse]
    simp only [takeChar, hc, Bool.false_eq_true, if_false, List.cons_append]
    split
    · next heq => exact absurd heq (List.cons_ne_nil _ _)
    · next heq => exact absurd (List.cons.inj heq).1 hd
    · rfl

theorem dropWhile_taken {done : List (List Char)} {word : List Char}
    (hword : ∀ c ∈ word, isAlphanumeric c = true)
    (hdone : ∀ w ∈ done, ∀ c ∈ w, isAlphanumeric c = true) :
    ((word ++ taken done).dropWhile (· == '_')).reverse =
      ['_'].intercalate ((word.reverse :: done).reverse.filter (!·.isEmpty)) := by
  by_cases hempty : word = []
  · subst hempty
    rcases taken_cases done with ⟨hnone, htaken⟩ | ⟨ws, w, hlast, htaken⟩
    · simp [htaken, List.filter_append, hnone]
    · have hw : w ∈ done.reverse.filter (!·.isEmpty) := by simp [hlast]
      obtain ⟨hmem, hsolid⟩ := List.mem_filter.mp hw
      have hdrop : (w.reverse ++ (ws.flatMap (· ++ ['_'])).reverse).dropWhile (· == '_') =
          w.reverse ++ (ws.flatMap (· ++ ['_'])).reverse :=
        dropWhile_append (by simpa using hsolid) fun c hc =>
          hdone w (by simpa using hmem) c (by simpa using hc)
      rw [htaken, List.nil_append, List.dropWhile_cons, beq_self_eq_true, if_pos rfl, hdrop]
      simp [List.filter_append, hlast, intercalate_concat]
  · rw [dropWhile_append hempty hword]
    simp [taken, List.filter_append, hempty, intercalate_concat]

/-- Taking in a text in lower case takes in its words; `word` and `done` are what `wordsFrom` has
found so far. -/
theorem foldl_takeChar (text : List Char) {done : List (List Char)} {word : List Char}
    (htext : ∀ c ∈ text, isAlphanumeric c = true → toLowercase c = [c])
    (hword : ∀ c ∈ word, isAlphanumeric c = true)
    (hdone : ∀ w ∈ done, ∀ c ∈ w, isAlphanumeric c = true) :
    ((text.foldl takeChar (word ++ taken done)).dropWhile (· == '_')).reverse =
      ['_'].intercalate ((wordsFrom done word text).filter (!·.isEmpty)) := by
  induction text generalizing done word with
  | nil => exact dropWhile_taken hword hdone
  | cons c rest ih =>
    have hrest : ∀ d ∈ rest, isAlphanumeric d = true → toLowercase d = [d] := fun d hd =>
      htext d (List.mem_cons_of_mem _ hd)
    rw [List.foldl_cons, wordsFrom]
    by_cases hc : isAlphanumeric c = true
    · have htake : takeChar (word ++ taken done) c = (c :: word) ++ taken done := by
        simp [takeChar, hc, htext c List.mem_cons_self hc]
      rw [htake, if_pos hc]
      exact ih hrest (List.forall_mem_cons.mpr ⟨hc, hword⟩) hdone
    · rw [takeChar_of_not (Bool.eq_false_iff.mpr hc) hword, if_neg hc, ← List.nil_append (taken _)]
      refine ih hrest (by simp) (List.forall_mem_cons.mpr ⟨?_, hdone⟩)
      simpa using hword

/-- In a text in lower case the name is made of the words that are not empty. -/
theorem identifier_eq {text : List Char}
    (htext : ∀ c ∈ text, isAlphanumeric c = true → toLowercase c = [c]) :
    identifier text = ['_'].intercalate (solidWords text) :=
  foldl_takeChar text htext (List.forall_mem_nil _) (List.forall_mem_nil _)

end Header

end TidyCsv
