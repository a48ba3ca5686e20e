import TidyCsv.Encoding.Plausibility
import TidyCsv.Proofs.Text.Words
import Mathlib.Data.List.Basic

/-! # Scores of texts in parts

A character that is neither a letter nor a number ends the word before it, and no symbol beside it
is between two letters. So where such a character counts for nothing itself, the score of a text is
that of what comes before it and that of what comes after it. ASCII counts for nothing at all. -/

namespace TidyCsv.Plausibility

open Text Unicode

variable {c : Char} {text before after : List Char} {previous : Option Char}

/-! ## Neutral positions -/

/-- The neutral positions of a text, given the character before it. -/
def neutralFrom (previous : Option Char) : List Char → List Bool
  | [] => []
  | c :: rest =>
    (isNeutralSymbol c && !isWedged previous rest.head?) :: neutralFrom (some c) rest

theorem zipWith_eq_neutralFrom (previous : Option Char) (text : List Char) :
    List.zipWith (fun (b, c) a => isNeutralSymbol c && !isWedged b a)
        ((previous :: text.map some).zip text) ((text.drop 1).map some ++ [none]) =
      neutralFrom previous text := by
  induction text generalizing previous with
  | nil => rfl
  | cons c rest ih =>
    cases rest with
    | nil => rfl
    | cons d rest => exact congrArg _ (ih (some c))

theorem neutralPositions_eq (text : List Char) : neutralPositions text = neutralFrom none text :=
  zipWith_eq_neutralFrom none text

@[simp] theorem length_neutralFrom (previous : Option Char) (text : List Char) :
    (neutralFrom previous text).length = text.length := by
  induction text generalizing previous with
  | nil => rfl
  | cons c rest ih => simp [neutralFrom, ih]

theorem neutralFrom_some (hc : isAlphabetic c = false) (text : List Char) :
    neutralFrom (some c) text = neutralFrom none text := by
  cases text with
  | nil => rfl
  | cons d rest => simp [neutralFrom, isWedged, hc]

/-- A character that stands apart: it belongs to no word, and counts for nothing. -/
structure IsSeparator (c : Char) : Prop where
  isAlphanumeric_eq_false : isAlphanumeric c = false
  isNeutralSymbol_eq_false : isNeutralSymbol c = false
  weight_eq_zero : weight c = 0

theorem IsSeparator.isAlphabetic_eq_false (h : IsSeparator c) : isAlphabetic c = false := by
  have hneither := h.isAlphanumeric_eq_false
  simp only [isAlphanumeric, Bool.or_eq_false_iff] at hneither
  exact hneither.1

theorem isSeparator_newline : IsSeparator '\n' := ⟨by decide, by decide, by decide⟩

/-- Beside a separator, nothing is between two letters. -/
theorem neutralFrom_append_cons (hc : IsSeparator c) (previous : Option Char)
    (before after : List Char) :
    neutralFrom previous (before ++ c :: after) =
      neutralFrom previous before ++ false :: neutralFrom none after := by
  induction before generalizing previous with
  | nil =>
    simp [neutralFrom, hc.isNeutralSymbol_eq_false, neutralFrom_some hc.isAlphabetic_eq_false]
  | cons d rest ih =>
    have hnext : isWedged previous (rest ++ c :: after).head? = isWedged previous rest.head? := by
      cases rest with
      | nil => simp [isWedged, hc.isAlphabetic_eq_false]
      | cons e rest => rfl
    simp only [List.cons_append, neutralFrom, hnext, ih]

/-! ## Characters -/

theorem characterScore_cons (c : Char) (text : List Char) (skip : Bool) (neutral : List Bool) :
    characterScore (c :: text) (skip :: neutral) =
      (if skip then 0 else weight c) + characterScore text neutral := rfl

theorem characterScore_append {neutral : List Bool} (hlength : neutral.length = text.length)
    (more : List Char) (others : List Bool) :
    characterScore (text ++ more) (neutral ++ others) =
      characterScore text neutral + characterScore more others := by
  induction text generalizing neutral with
  | nil =>
    obtain rfl : neutral = [] := by simpa using hlength
    simp [characterScore]
  | cons c rest ih =>
    cases neutral with
    | nil => simp at hlength
    | cons skip neutral =>
      simp only [List.cons_append, characterScore_cons, ih (by simpa using hlength), Int.add_assoc]

theorem weight_of_lt (h : c.toNat < 0x80) : weight c = 0 := if_pos h

theorem characterScore_eq_zero (h : ∀ c ∈ text, c.toNat < 0x80) (neutral : List Bool) :
    characterScore text neutral = 0 := by
  induction text generalizing neutral with
  | nil => rfl
  | cons c rest ih =>
    obtain ⟨hc, hrest⟩ := List.forall_mem_cons.mp h
    cases neutral with
    | nil => rfl
    | cons skip neutral => simp [characterScore_cons, weight_of_lt hc, ih hrest]

/-! ## Words -/

/-- What the words of a text take from its score. -/
def penalty (text : List Char) : Int := ((words text).map wordPenalty).foldr (· + ·) 0

theorem score_eq (text : List Char) (neutral : List Bool) :
    score text neutral = characterScore text neutral - penalty text := rfl

theorem wordPenalty_nonneg (word : List Char) : 0 ≤ wordPenalty word := by
  unfold wordPenalty
  split_ifs <;> decide

theorem penalty_nonneg (text : List Char) : 0 ≤ penalty text := by
  refine List.foldrRecOn (motive := (0 ≤ ·)) _ _ (Int.le_refl 0) fun total htotal taken htaken => ?_
  obtain ⟨word, -, rfl⟩ := List.mem_map.mp htaken
  exact Int.add_nonneg (wordPenalty_nonneg word) htotal

theorem penalty_append_cons (hc : IsSeparator c) (before after : List Char) :
    penalty (before ++ c :: after) = penalty before + penalty after := by
  rw [penalty, words_append_separator before hc.isAlphanumeric_eq_false, List.map_append,
    List.foldr_append, ← penalty, ← Int.zero_add (penalty after), List.foldr_assoc, ← penalty,
    Int.zero_add]

theorem penalty_eq_zero (h : ∀ word ∈ words text, wordPenalty word = 0) : penalty text = 0 := by
  refine List.foldrRecOn (motive := (· = 0)) _ _ rfl fun total htotal taken htaken => ?_
  obtain ⟨word, hword, rfl⟩ := List.mem_map.mp htaken
  simp [h word hword, htotal]

theorem longestRunFrom_eq (h : ∀ c ∈ text, isExtendedLatin c = false) (current longest : Nat) :
    longestRunFrom current longest text = longest := by
  induction text generalizing current with
  | nil => rfl
  | cons c rest ih =>
    obtain ⟨hc, hrest⟩ := List.forall_mem_cons.mp h
    simp [longestRunFrom, hc, ih hrest]

theorem wordPenalty_eq_zero (h : ∀ c ∈ text, isCyrillic c = false ∧ isExtendedLatin c = false) :
    wordPenalty text = 0 := by
  have hcyrillic : text.any isCyrillic = false := by
    simpa using fun c hc => (h c hc).1
  have hrun : longestExtendedRun text = 0 := longestRunFrom_eq (fun c hc => (h c hc).2) 0 0
  simp [wordPenalty, hcyrillic, hrun]

theorem isCyrillic_of_lt (h : c.toNat < 0x80) :
    isCyrillic c = false ∧ isExtendedLatin c = false := by
  simp only [isCyrillic, isExtendedLatin, Bool.and_eq_false_iff, decide_eq_false_iff_not]
  omega

/-- The neutral symbols that belong to words are no letters of these kinds. -/
theorem isCyrillic_of_isNeutralSymbol (hc : isNeutralSymbol c = true)
    (hword : isAlphanumeric c = true) : isCyrillic c = false ∧ isExtendedLatin c = false := by
  have hall : neutralSymbols.all (fun c =>
      !isAlphanumeric c || !isCyrillic c && !isExtendedLatin c) = true := by
    decide +kernel
  simpa [hword] using List.all_eq_true.mp hall c (List.contains_iff_mem.mp hc)

theorem penalty_of_symbols (h : ∀ c ∈ text, c.toNat < 0x80 ∨ isNeutralSymbol c = true) :
    penalty text = 0 := by
  refine penalty_eq_zero fun word hword => wordPenalty_eq_zero fun c hc => ?_
  obtain ⟨htext, halnum⟩ := mem_of_mem_words hword hc
  rcases h c htext with hascii | hsymbol
  · exact isCyrillic_of_lt hascii
  · exact isCyrillic_of_isNeutralSymbol hsymbol halnum

/-! ## Texts -/

theorem score_of_ascii (h : ∀ c ∈ text, c.toNat < 0x80) (neutral : List Bool) :
    score text neutral = 0 := by
  rw [score_eq, characterScore_eq_zero h, penalty_of_symbols fun c hc => .inl (h c hc)]
  rfl

/-- At a separator, a score is the sum of two. -/
theorem score_append_cons (hc : IsSeparator c) {neutral : List Bool}
    (hlength : neutral.length = before.length) (after : List Char) (others : List Bool) :
    score (before ++ c :: after) (neutral ++ false :: others) =
      score before neutral + score after others := by
  simp only [score_eq, characterScore_append hlength, characterScore_cons, hc.weight_eq_zero,
    penalty_append_cons hc, Bool.false_eq_true, if_false]
  omega

end TidyCsv.Plausibility
