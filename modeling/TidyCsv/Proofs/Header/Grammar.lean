import TidyCsv.Proofs.Header.Settled

/-!
# The form of names

Underscores stand between the words of a name in normal form, and only there: a text with one at its
start, at its end or beside another one has an empty word. Where the accents and ligatures of a name
are the only characters in it beyond ASCII, its words consist of small letters and digits of ASCII.
-/

namespace TidyCsv

open Unicode

namespace Header

open Text

/-! ## Identifiers -/

/-- A text of letters, numbers and underscores, of which the underscores stand one by one and
inside. -/
structure IsIdentifier (text : List Char) : Prop where
  ne_nil : text ≠ []
  isNameChar_of_mem : ∀ c ∈ text, IsNameChar c
  head?_ne : text.head? ≠ some '_'
  getLast?_ne : text.getLast? ≠ some '_'
  no_pair : ¬ ['_', '_'] <:+: text

variable {text : List Char}

/-- An underscore that stands elsewhere has an empty word beside it. -/
theorem isIdentifier_of_words (hchars : ∀ c ∈ text, IsNameChar c) (hwords : [] ∉ words text) :
    IsIdentifier text := by
  refine ⟨?_, hchars, ?_, ?_, ?_⟩
  · rintro rfl
    exact hwords (List.mem_singleton_self [])
  · intro hhead
    obtain ⟨rest, rfl⟩ := List.head?_eq_some_iff.mp hhead
    have hsplit : words ('_' :: rest) = [] :: words rest :=
      words_append_separator [] isAlphanumeric_underscore rest
    exact hwords (hsplit ▸ List.mem_cons_self)
  · intro hlast
    obtain ⟨front, rfl⟩ := List.getLast?_eq_some_iff.mp hlast
    rw [words_append_separator front isAlphanumeric_underscore []] at hwords
    exact hwords (List.mem_append_right _ (List.mem_singleton_self []))
  · rintro ⟨front, rest, rfl⟩
    have hsplit : words ('_' :: rest) = [] :: words rest :=
      words_append_separator [] isAlphanumeric_underscore rest
    rw [List.append_assoc, List.cons_append, List.singleton_append,
      words_append_separator front isAlphanumeric_underscore, hsplit] at hwords
    exact hwords (List.mem_append_right _ List.mem_cons_self)

theorem isIdentifier_normalizeName (name : String) : IsIdentifier (normalizeName name).toList := by
  refine isIdentifier_of_words (fun _ => isNameChar_of_mem_normalizeName) fun hempty => ?_
  rw [words_normalizeName] at hempty
  exact (areSettled_settledWords name).nonempty [] hempty rfl

/-! ## Names in ASCII -/

/-- A small letter or a digit of ASCII. -/
def IsSimpleChar (c : Char) : Prop := 'a' ≤ c ∧ c ≤ 'z' ∨ '0' ≤ c ∧ c ≤ '9'

/-- Words of small letters and digits of ASCII, with single underscores between them. -/
inductive IsSnakeCase : List Char → Prop where
  | word {w : List Char} (hne : w ≠ []) (hw : ∀ c ∈ w, IsSimpleChar c) : IsSnakeCase w
  | cons {w rest : List Char} (hne : w ≠ []) (hw : ∀ c ∈ w, IsSimpleChar c)
      (hrest : IsSnakeCase rest) : IsSnakeCase (w ++ '_' :: rest)

theorem isSnakeCase_intercalate {ws : List (List Char)} (hsome : ws ≠ [])
    (hne : ∀ w ∈ ws, w ≠ []) (hsimple : ∀ w ∈ ws, ∀ c ∈ w, IsSimpleChar c) :
    IsSnakeCase (['_'].intercalate ws) := by
  induction ws with
  | nil => exact absurd rfl hsome
  | cons w ws ih =>
    have hw := hne w List.mem_cons_self
    have hchars := hsimple w List.mem_cons_self
    cases ws with
    | nil => simpa using IsSnakeCase.word hw hchars
    | cons v ws =>
      rw [List.intercalate_cons_cons, List.append_assoc, List.singleton_append]
      exact .cons hw hchars (ih (List.cons_ne_nil v ws)
        (fun u hu => hne u (List.mem_cons_of_mem w hu))
        fun u hu => hsimple u (List.mem_cons_of_mem w hu))

theorem isSimpleChar_of_small {c : Char} (hascii : c.toNat < 0x80)
    (halnum : isAlphanumeric c = true) (hsmall : toLowercase c = [c]) : IsSimpleChar c := by
  have hnot : ¬ isUppercase c = true := fun hupper =>
    (asciiCase hascii).toLowercase_ne hupper hsmall
  have hupper : c.isUpper = false := by simpa [isUppercase, hascii] using hnot
  have halpha : c.isAlpha = (c.isUpper || c.isLower) := rfl
  have hcases : c.isLower = true ∨ c.isDigit = true := by
    simpa [isAlphanumeric, isAlphabetic, isNumeric, hascii, halpha, hupper] using halnum
  have hlower : c.isLower = (decide ('a'.val ≤ c.val) && decide (c.val ≤ 'z'.val)) := rfl
  simp only [hlower, Char.isDigit, Bool.and_eq_true, decide_eq_true_eq] at hcases
  exact hcases

theorem lt_of_mem_snakeCase (htext : ∀ c ∈ text, c.toNat < 0x80) {x : Char}
    (hx : x ∈ snakeCase text) : x.toNat < 0x80 := by
  rcases mem_intercalate hx with rfl | ⟨part, hpart, hx⟩
  · decide
  · obtain ⟨hump, hhump, rfl⟩ := List.mem_map.mp hpart
    have hascii : ∀ c ∈ hump, c.toNat < 0x80 := fun c hc =>
      htext c (exists_mem_humps_iff.mp ⟨hump, hhump, hc⟩).1
    -- no hump ends in a capital sigma, which is beyond ASCII
    have hsigma : hump.getLast? ≠ some 'Σ' := fun hlast =>
      absurd (hascii 'Σ' (List.mem_of_getLast? hlast)) (by decide)
    rw [lowerHump_eq_flatMap hsigma] at hx
    obtain ⟨c, hc, hx⟩ := List.mem_flatMap.mp hx
    rw [toLowercase_of_ascii (hascii c hc), List.mem_singleton] at hx
    exact hx ▸ (asciiCase (hascii c hc)).toLower_lt

/-- Whether all of a name is in ASCII once accents and ligatures are gone. -/
def FoldsToAscii (name : String) : Prop := ∀ c ∈ name.toList, c.toNat < 0x80 ∨ c ∈ accented

instance (name : String) : Decidable (FoldsToAscii name) := List.decidableBAll _ _

theorem FoldsToAscii.lt_of_mem_foldText {name : String} (h : FoldsToAscii name) {x : Char}
    (hx : x ∈ foldText name.toList) : x.toNat < 0x80 := by
  obtain ⟨c, hc, hx⟩ := List.mem_flatMap.mp hx
  rcases mem_foldChar_cases hx with ⟨-, hascii⟩ | ⟨hplain, rfl⟩
  · exact hascii
  · exact (h x hc).resolve_right hplain

theorem FoldsToAscii.lt_of_mem_settledWords {name : String} (h : FoldsToAscii name)
    {w : List Char} (hw : w ∈ settledWords name) {x : Char} (hx : x ∈ w) : x.toNat < 0x80 := by
  unfold settledWords at hw
  split at hw
  · obtain rfl := List.mem_singleton.mp hw
    have hall : fallbackName.toList.all (fun x => decide (x.toNat < 0x80)) = true := by decide
    exact of_decide_eq_true (List.all_eq_true.mp hall x hx)
  · exact lt_of_mem_snakeCase (fun _ => h.lt_of_mem_foldText)
      (exists_mem_solidWords_iff.mp ⟨w, hw, hx⟩).1

/-- A name whose accents and ligatures are all that is beyond ASCII has a normal form in ASCII. -/
theorem FoldsToAscii.isSnakeCase_normalizeName {name : String} (h : FoldsToAscii name) :
    IsSnakeCase (normalizeName name).toList := by
  have hsettled := areSettled_settledWords name
  rw [normalizeName_eq_joined, joined, String.toList_ofList]
  exact isSnakeCase_intercalate hsettled.some_word hsettled.nonempty fun w hw c hc =>
    isSimpleChar_of_small (h.lt_of_mem_settledWords hw hc) (hsettled.isAlphanumeric_of_mem w hw c hc)
      (hsettled.toLowercase_of_mem w hw c hc)

end Header

end TidyCsv
