import TidyCsv.Text.Words

/-! # The words of a text

The words hold the letters and numbers of a text in their order, and whatever else is in it stands
between two of them. So the words on both sides of such a character are found separately. -/

namespace TidyCsv.Text

variable {done : List (List Char)} {word front rest text : List Char} {c : Char}

theorem flatten_wordsFrom (done : List (List Char)) (word text : List Char) :
    (wordsFrom done word text).flatten =
      done.reverse.flatten ++ word.reverse ++ text.filter isAlphanumeric := by
  induction text generalizing done word with
  | nil => simp [wordsFrom]
  | cons c rest ih =>
      by_cases hc : isAlphanumeric c = true
      · simp [wordsFrom, hc, ih]
      · simp [wordsFrom, hc, ih]

/-- The words of a text hold its letters and numbers, in their order. -/
theorem flatten_words (text : List Char) :
    (words text).flatten = text.filter isAlphanumeric := by
  simp [words, flatten_wordsFrom]

theorem mem_of_mem_words (hword : word ∈ words text) (hc : c ∈ word) :
    c ∈ text ∧ isAlphanumeric c = true := by
  rw [← List.mem_filter, ← flatten_words]
  exact List.mem_flatten_of_mem hword hc

theorem wordsFrom_eq (done : List (List Char)) (word text : List Char) :
    wordsFrom done word text = done.reverse ++ wordsFrom [] word text := by
  induction text generalizing done word with
  | nil => simp [wordsFrom]
  | cons c rest ih =>
    by_cases hc : isAlphanumeric c = true
    · simp only [wordsFrom, if_pos hc]
      exact ih done (c :: word)
    · simp only [wordsFrom, if_neg hc]
      rw [ih (word.reverse :: done), ih [word.reverse]]
      simp

theorem wordsFrom_append (hfront : ∀ c ∈ front, isAlphanumeric c = true) :
    wordsFrom done word (front ++ rest) = wordsFrom done (front.reverse ++ word) rest := by
  induction front generalizing word with
  | nil => rfl
  | cons c front ih =>
    rw [List.cons_append, wordsFrom, if_pos (hfront c List.mem_cons_self),
      ih fun d hd => hfront d (List.mem_cons_of_mem _ hd)]
    simp

theorem words_of_all (htext : ∀ c ∈ text, isAlphanumeric c = true) : words text = [text] := by
  have happend : wordsFrom [] [] (text ++ []) = wordsFrom [] (text.reverse ++ []) [] :=
    wordsFrom_append htext
  simpa [words, wordsFrom] using happend

theorem wordsFrom_append_cons (word : List Char) (hc : isAlphanumeric c = false) :
    wordsFrom [] word (front ++ c :: rest) = wordsFrom [] word front ++ words rest := by
  induction front generalizing word with
  | nil => simp [wordsFrom, hc, wordsFrom_eq [word.reverse], words]
  | cons d front ih =>
    by_cases hd : isAlphanumeric d = true
    · simpa only [List.cons_append, wordsFrom, if_pos hd] using ih (d :: word)
    · simp only [List.cons_append, wordsFrom, if_neg hd]
      rw [wordsFrom_eq [word.reverse], ih, wordsFrom_eq [word.reverse], List.append_assoc]

/-- What is no letter or number stands between words. -/
theorem words_append_separator (front : List Char) (hc : isAlphanumeric c = false)
    (rest : List Char) : words (front ++ c :: rest) = words front ++ words rest :=
  wordsFrom_append_cons [] hc

theorem isAlphanumeric_underscore : isAlphanumeric '_' = false := by decide

/-- Words with underscores between them are found again. -/
theorem words_intercalate {ws : List (List Char)} (hws : ws ≠ [])
    (halnum : ∀ w ∈ ws, ∀ c ∈ w, isAlphanumeric c = true) : words (['_'].intercalate ws) = ws := by
  induction ws with
  | nil => exact absurd rfl hws
  | cons w ws ih =>
    have hword : words w = [w] := words_of_all (halnum w List.mem_cons_self)
    cases ws with
    | nil => simpa using hword
    | cons v ws =>
      rw [List.intercalate_cons_cons, List.append_assoc, List.singleton_append,
        words_append_separator w isAlphanumeric_underscore, hword, List.singleton_append,
        ih (List.cons_ne_nil _ _) fun u hu => halnum u (List.mem_cons_of_mem _ hu)]

end TidyCsv.Text
