import TidyCsv.Proofs.Header.Folding
import TidyCsv.Proofs.Header.Humps
import TidyCsv.Proofs.Header.Identifier

/-!
# Names that are brought into normal form again

A name in normal form consists of words in lower case with single underscores between them, and to
normalize it again is to remove the accents from each of its words and to cut the word into humps.
The main result says when that changes nothing. Whatever the name, it changes nothing a third time.
-/

namespace TidyCsv

open Unicode

/-- Replacing characters leaves a list alone exactly if it leaves each member alone. -/
theorem flatMap_eq_self_iff {α : Type} {f : α → List α} {xs : List α} (hf : ∀ x ∈ xs, f x ≠ []) :
    xs.flatMap f = xs ↔ ∀ x ∈ xs, f x = [x] := by
  have hlength : ∀ ys : List α, (∀ y ∈ ys, f y ≠ []) → ys.length ≤ (ys.flatMap f).length := by
    intro ys hys
    induction ys with
    | nil => simp
    | cons y ys ih =>
      have hfirst := List.length_pos_iff.mpr (hys y List.mem_cons_self)
      have hrest := ih fun z hz => hys z (List.mem_cons_of_mem _ hz)
      simp only [List.flatMap_cons, List.length_append, List.length_cons]
      omega
  induction xs with
  | nil => simp
  | cons x xs ih =>
    have hrest : xs.flatMap f = xs ↔ ∀ y ∈ xs, f y = [y] :=
      ih fun y hy => hf y (List.mem_cons_of_mem _ hy)
    rw [List.flatMap_cons, List.forall_mem_cons, ← hrest]
    constructor
    · intro hsame
      obtain ⟨y, ys, hy⟩ := List.exists_cons_of_ne_nil (hf x List.mem_cons_self)
      rw [hy, List.cons_append, List.cons.injEq] at hsame
      obtain ⟨rfl, htail⟩ := hsame
      have hmore := hlength xs fun z hz => hf z (List.mem_cons_of_mem _ hz)
      have hcount := congrArg List.length htail
      rw [List.length_append] at hcount
      obtain rfl : ys = [] := List.eq_nil_of_length_eq_zero (by omega)
      exact ⟨hy, htail⟩
    · rintro ⟨hx, hxs⟩
      rw [hx, hxs, List.singleton_append]

namespace Header

open Text

/-! ## Settled words -/

/-- The words of a name in normal form: there is one, none is empty, and all their characters are
letters or numbers in lower case. -/
structure AreSettled (ws : List (List Char)) : Prop where
  some_word : ws ≠ []
  nonempty : ∀ w ∈ ws, w ≠ []
  isAlphanumeric_of_mem : ∀ w ∈ ws, ∀ c ∈ w, isAlphanumeric c = true
  toLowercase_of_mem : ∀ w ∈ ws, ∀ c ∈ w, toLowercase c = [c]

/-- The name with these words. -/
def joined (ws : List (List Char)) : String := String.ofList (['_'].intercalate ws)

variable {ws : List (List Char)} {name : String}

theorem AreSettled.words_joined (h : AreSettled ws) : words (joined ws).toList = ws := by
  rw [joined, String.toList_ofList]
  exact words_intercalate h.some_word h.isAlphanumeric_of_mem

/-- The capital sigma has two small forms: the one that lowercasing gives, and the one at the end of
a word, which is small and has no accent. -/
theorem sigma_small : toLowercase 'Σ' ≠ ['Σ'] ∧
    toLowercase 'ς' = ['ς'] ∧ foldChar 'ς' = ['ς'] ∧ isUppercase 'ς' = false := by
  decide

theorem lowerHump_concat (init : List Char) (c : Char) :
    lowerHump (init ++ [c]) =
      init.flatMap toLowercase ++ if c = 'Σ' then ['ς'] else toLowercase c := by
  simp [lowerHump]

/-- Unless it is a capital sigma at the end, each character of a hump is lowercased by itself. -/
theorem lowerHump_eq_flatMap {hump : List Char} (h : hump.getLast? ≠ some 'Σ') :
    lowerHump hump = hump.flatMap toLowercase := by
  rcases List.eq_nil_or_concat hump with rfl | ⟨init, c, rfl⟩
  · rfl
  · have hsigma : c ≠ 'Σ' := by simpa using h
    rw [List.concat_eq_append, lowerHump_concat, if_neg hsigma, List.flatMap_append,
      List.flatMap_singleton]

theorem lowerHump_of_settled {hump : List Char} (h : ∀ c ∈ hump, toLowercase c = [c]) :
    lowerHump hump = hump := by
  have hsigma : hump.getLast? ≠ some 'Σ' := fun hlast =>
    sigma_small.1 (h 'Σ' (List.mem_of_getLast? hlast))
  rw [lowerHump_eq_flatMap hsigma, flatMap_eq_self_iff fun c hc => by simp [h c hc]]
  exact h

theorem foldText_intercalate (ws : List (List Char)) :
    foldText (['_'].intercalate ws) = ['_'].intercalate (ws.map foldText) := by
  have hunderscore : foldChar '_' = ['_'] := rfl
  induction ws with
  | nil => rfl
  | cons w ws ih =>
    cases ws with
    | nil => simp
    | cons v ws =>
      rw [List.intercalate_cons_cons, List.map_cons, List.map_cons, List.intercalate_cons_cons,
        ← List.map_cons, ← ih]
      simp [foldText, hunderscore]

/-- Normalizing settled words again: the accents go, and each word is cut into its humps. -/
def resettled (ws : List (List Char)) : List (List Char) := ws.flatMap fun w => humps (foldText w)

theorem humps_ne_nil {word : List Char} (h : word ≠ []) : humps word ≠ [] := by
  intro hnone
  exact h (by simpa [hnone] using (flatten_humps word).symm)

theorem foldText_ne_nil {text : List Char} (h : text ≠ []) : foldText text ≠ [] := by
  obtain ⟨c, rest, rfl⟩ := List.exists_cons_of_ne_nil h
  simp [foldText, foldChar_ne_nil]

theorem exists_of_mem_resettled {piece : List Char} {c : Char} (hpiece : piece ∈ resettled ws)
    (hc : c ∈ piece) : ∃ w ∈ ws, ∃ d ∈ w, c ∈ foldChar d := by
  obtain ⟨w, hw, hpiece⟩ := List.mem_flatMap.mp hpiece
  have hfold : c ∈ foldText w :=
    flatten_humps (foldText w) ▸ List.mem_flatten.mpr ⟨piece, hpiece, hc⟩
  obtain ⟨d, hd, hc⟩ := List.mem_flatMap.mp hfold
  exact ⟨w, hw, d, hd, hc⟩

theorem AreSettled.resettled (h : AreSettled ws) : AreSettled (resettled ws) := by
  refine ⟨?_, ?_, ?_, ?_⟩
  · obtain ⟨w, rest, rfl⟩ := List.exists_cons_of_ne_nil h.some_word
    have hw := humps_ne_nil (foldText_ne_nil (h.nonempty w List.mem_cons_self))
    simp [Header.resettled, hw]
  · intro piece hpiece
    obtain ⟨w, -, hpiece⟩ := List.mem_flatMap.mp hpiece
    exact ne_nil_of_mem_humps hpiece
  · intro piece hpiece c hc
    obtain ⟨w, hw, d, hd, hcd⟩ := exists_of_mem_resettled hpiece hc
    exact isAlphanumeric_of_mem_foldChar hcd (h.isAlphanumeric_of_mem w hw d hd)
  · intro piece hpiece c hc
    obtain ⟨w, hw, d, hd, hcd⟩ := exists_of_mem_resettled hpiece hc
    exact toLowercase_of_mem_foldChar hcd (h.toLowercase_of_mem w hw d hd)

theorem AreSettled.identifier_intercalate (h : AreSettled ws) :
    identifier (['_'].intercalate ws) = ['_'].intercalate ws := by
  have hlower : ∀ c ∈ ['_'].intercalate ws, isAlphanumeric c = true → toLowercase c = [c] := by
    intro c hc halnum
    rcases mem_intercalate hc with rfl | ⟨w, hw, hc⟩
    · exact absurd rfl (ne_underscore halnum)
    · exact h.toLowercase_of_mem w hw c hc
  have hsolid : ws.filter (!·.isEmpty) = ws :=
    List.filter_eq_self.mpr fun w hw => by simpa using h.nonempty w hw
  rw [identifier_eq hlower, solidWords, words_intercalate h.some_word h.isAlphanumeric_of_mem,
    hsolid]

theorem AreSettled.intercalate_ne_nil (h : AreSettled ws) : ['_'].intercalate ws ≠ [] := by
  intro hnone
  have hws := words_intercalate h.some_word h.isAlphanumeric_of_mem
  rw [hnone] at hws
  exact h.nonempty [] (hws ▸ List.mem_singleton_self []) rfl

theorem AreSettled.normalizeName_joined (h : AreSettled ws) :
    normalizeName (joined ws) = joined (Header.resettled ws) := by
  have hfolded : words (foldText (['_'].intercalate ws)) = ws.map foldText := by
    rw [foldText_intercalate]
    refine words_intercalate (by simpa using h.some_word) ?_
    intro w hw c hc
    obtain ⟨v, hv, rfl⟩ := List.mem_map.mp hw
    obtain ⟨d, hd, hcd⟩ := List.mem_flatMap.mp hc
    exact isAlphanumeric_of_mem_foldChar hcd (h.isAlphanumeric_of_mem v hv d hd)
  have hpieces : (ws.map foldText).flatMap humps = Header.resettled ws := by
    rw [Header.resettled, List.flatMap_map]
  have hlower : (Header.resettled ws).map lowerHump = Header.resettled ws :=
    (List.map_congr_left fun piece hpiece =>
      lowerHump_of_settled (h.resettled.toLowercase_of_mem piece hpiece)).trans (List.map_id _)
  have hsnake : snakeCase (foldText (joined ws).toList) =
      ['_'].intercalate (Header.resettled ws) := by
    rw [joined, String.toList_ofList, snakeCase, hfolded, hpieces, hlower]
  rw [normalizeName, hsnake, h.resettled.identifier_intercalate]
  split
  · next heq => exact absurd heq h.resettled.intercalate_ne_nil
  · rfl

/-- Settled words are left alone exactly if none of them has an accent or a place for a cut. -/
theorem AreSettled.normalizeName_joined_eq_iff (h : AreSettled ws) :
    normalizeName (joined ws) = joined ws ↔
      ∀ w ∈ ws, (∀ c ∈ w, foldChar c = [c]) ∧ ¬ Breaks w := by
  have hwords : joined (Header.resettled ws) = joined ws ↔ Header.resettled ws = ws := by
    constructor
    · intro hsame
      rw [← h.resettled.words_joined, hsame, h.words_joined]
    · intro hsame
      rw [hsame]
  rw [h.normalizeName_joined, hwords, Header.resettled, flatMap_eq_self_iff fun w hw =>
    humps_ne_nil (foldText_ne_nil (h.nonempty w hw))]
  refine forall₂_congr fun w hw => ?_
  have hfold : foldText w = w ↔ ∀ c ∈ w, foldChar c = [c] :=
    flatMap_eq_self_iff fun c _ => foldChar_ne_nil c
  rw [← hfold, ← humps_eq_singleton_iff (h.nonempty w hw)]
  constructor
  · intro hone
    have hsame : foldText w = w := by simpa [hone] using (flatten_humps (foldText w)).symm
    exact ⟨hsame, by rwa [hsame] at hone⟩
  · rintro ⟨hsame, hone⟩
    rw [hsame, hone]

/-! ## Characters of names in normal form -/

theorem mem_intercalate_of_mem {separator x : Char} {part : List Char} {parts : List (List Char)}
    (hx : x ∈ part) (hpart : part ∈ parts) : x ∈ [separator].intercalate parts := by
  induction parts with
  | nil => exact absurd hpart (List.not_mem_nil)
  | cons first rest ih =>
    cases rest with
    | nil => simp_all
    | cons second rest =>
      rw [List.intercalate_cons_cons]
      rcases List.mem_cons.mp hpart with rfl | hrest
      · simp [hx]
      · exact List.mem_append_right _ (ih hrest)

theorem exists_mem_humps_iff {text : List Char} {c : Char} :
    (∃ hump ∈ (words text).flatMap humps, c ∈ hump) ↔ c ∈ text ∧ isAlphanumeric c = true := by
  rw [← List.mem_flatten, ← List.mem_filter, ← flatten_words]
  have hflatten : ((words text).flatMap humps).flatten = (words text).flatten := by
    induction words text with
    | nil => rfl
    | cons word rest ih => simp [flatten_humps, ih]
  rw [hflatten]

theorem mem_lowerHump_cases {hump : List Char} {x : Char} (h : x ∈ lowerHump hump) :
    x = 'ς' ∨ ∃ c ∈ hump, x ∈ toLowercase c := by
  by_cases hsigma : hump.getLast? = some 'Σ'
  · obtain ⟨init, rfl⟩ := List.getLast?_eq_some_iff.mp hsigma
    rw [lowerHump_concat, if_pos rfl, List.mem_append, List.mem_flatMap, List.mem_singleton] at h
    rcases h with ⟨c, hc, hx⟩ | hfinal
    · exact .inr ⟨c, List.mem_append_left _ hc, hx⟩
    · exact .inl hfinal
  · rw [lowerHump_eq_flatMap hsigma] at h
    exact .inr (List.mem_flatMap.mp h)

theorem mem_lowerHump_of_mem {hump : List Char} {c x : Char} (hc : c ∈ hump) (hsigma : c ≠ 'Σ')
    (hx : x ∈ toLowercase c) : x ∈ lowerHump hump := by
  by_cases hlast : hump.getLast? = some 'Σ'
  · obtain ⟨init, rfl⟩ := List.getLast?_eq_some_iff.mp hlast
    have hinit : c ∈ init := by simpa [hsigma] using hc
    rw [lowerHump_concat]
    exact List.mem_append_left _ (List.mem_flatMap.mpr ⟨c, hinit, hx⟩)
  · rw [lowerHump_eq_flatMap hlast]
    exact List.mem_flatMap.mpr ⟨c, hc, hx⟩

/-- The characters of a text in snake case: underscores, and letters and numbers in lower case. -/
theorem mem_snakeCase_cases {text : List Char} {x : Char} (h : x ∈ snakeCase text) :
    x = '_' ∨ x = 'ς' ∨ ∃ c ∈ text, x ∈ toLowercase c := by
  rcases mem_intercalate h with hunderscore | ⟨part, hpart, hx⟩
  · exact .inl hunderscore
  · obtain ⟨hump, hhump, rfl⟩ := List.mem_map.mp hpart
    rcases mem_lowerHump_cases hx with hfinal | ⟨c, hc, hx⟩
    · exact .inr (.inl hfinal)
    · exact .inr (.inr ⟨c, (exists_mem_humps_iff.mp ⟨hump, hhump, hc⟩).1, hx⟩)

theorem toLowercase_of_mem_snakeCase {text : List Char} {x : Char} (h : x ∈ snakeCase text) :
    toLowercase x = [x] := by
  rcases mem_snakeCase_cases h with rfl | rfl | ⟨c, -, hx⟩
  · decide
  · exact sigma_small.2.1
  · exact toLowercase_of_mem_toLowercase hx

/-- The small form of each letter or number of a text is in its snake case, but for a capital sigma,
which may become a final one. -/
theorem mem_snakeCase_of_mem {text : List Char} {c x : Char} (hc : c ∈ text)
    (halnum : isAlphanumeric c = true) (hsigma : c ≠ 'Σ') (hx : x ∈ toLowercase c) :
    x ∈ snakeCase text := by
  obtain ⟨hump, hhump, hc⟩ := exists_mem_humps_iff.mpr ⟨hc, halnum⟩
  exact mem_intercalate_of_mem (mem_lowerHump_of_mem hc hsigma hx)
    (List.mem_map.mpr ⟨hump, hhump, rfl⟩)

theorem areSettled_solidWords {text : List Char} (htext : ∀ c ∈ text, toLowercase c = [c])
    (hsome : solidWords text ≠ []) : AreSettled (solidWords text) := by
  have hmem : ∀ w ∈ solidWords text, ∀ c ∈ w, c ∈ text ∧ isAlphanumeric c = true :=
    fun w hw c hc => exists_mem_solidWords_iff.mp ⟨w, hw, hc⟩
  refine ⟨hsome, fun w hw => ?_, fun w hw c hc => (hmem w hw c hc).2,
    fun w hw c hc => htext c (hmem w hw c hc).1⟩
  simpa using (List.mem_filter.mp hw).2

theorem fallbackName_plain {x : Char} (h : x ∈ fallbackName.toList) :
    isAlphanumeric x = true ∧ toLowercase x = [x] ∧ foldChar x = [x] ∧ isUppercase x = false := by
  have hall : fallbackName.toList.all (fun x => decide (isAlphanumeric x = true ∧
      toLowercase x = [x] ∧ foldChar x = [x] ∧ isUppercase x = false)) = true := by decide
  exact of_decide_eq_true (List.all_eq_true.mp hall x h)

/-- The words of a name in normal form, read off the name that it is made of. -/
def settledWords (name : String) : List (List Char) :=
  match solidWords (snakeCase (foldText name.toList)) with
  | [] => [fallbackName.toList]
  | ws => ws

theorem areSettled_settledWords (name : String) : AreSettled (settledWords name) := by
  unfold settledWords
  split
  · refine ⟨List.cons_ne_nil _ _, ?_, ?_, ?_⟩
    all_goals
      intro w hw
      obtain rfl := List.mem_singleton.mp hw
    · decide
    · exact fun c hc => (fallbackName_plain hc).1
    · exact fun c hc => (fallbackName_plain hc).2.1
  · next hsome => exact areSettled_solidWords (fun _ => toLowercase_of_mem_snakeCase) hsome

theorem normalizeName_eq_joined (name : String) :
    normalizeName name = joined (settledWords name) := by
  have hidentifier : identifier (snakeCase (foldText name.toList)) =
      ['_'].intercalate (solidWords (snakeCase (foldText name.toList))) :=
    identifier_eq fun c hc _ => toLowercase_of_mem_snakeCase hc
  rw [normalizeName, hidentifier, settledWords]
  cases hwords : solidWords (snakeCase (foldText name.toList)) with
  | nil => simp [joined]
  | cons w ws =>
    have hsettled : AreSettled (w :: ws) := hwords ▸
      areSettled_solidWords (fun _ => toLowercase_of_mem_snakeCase) (by simp [hwords])
    split
    · next hnone => exact absurd hnone hsettled.intercalate_ne_nil
    · rfl

theorem words_normalizeName (name : String) :
    words (normalizeName name).toList = settledWords name := by
  rw [normalizeName_eq_joined, (areSettled_settledWords name).words_joined]

/-! ## Normalizing again -/

theorem normalizeName_normalizeName (name : String) :
    normalizeName (normalizeName name) = joined (resettled (settledWords name)) := by
  rw [normalizeName_eq_joined name, (areSettled_settledWords name).normalizeName_joined]

/-- The second time leaves no accent and no place for a cut. -/
theorem normalizeName_thrice (name : String) :
    normalizeName (normalizeName (normalizeName name)) = normalizeName (normalizeName name) := by
  have hsettled := (areSettled_settledWords name).resettled
  rw [normalizeName_normalizeName name, hsettled.normalizeName_joined_eq_iff]
  intro piece hpiece
  constructor
  · intro c hc
    obtain ⟨-, -, d, -, hcd⟩ := exists_of_mem_resettled hpiece hc
    exact foldChar_of_mem_foldChar hcd
  · obtain ⟨w, -, hpiece⟩ := List.mem_flatMap.mp hpiece
    rw [← humps_eq_singleton_iff (ne_nil_of_mem_humps hpiece)]
    exact humps_of_mem_humps hpiece

theorem mem_settledWords_cases {name : String} {w : List Char} {x : Char}
    (hw : w ∈ settledWords name) (hx : x ∈ w) :
    x ∈ fallbackName.toList ∨ x = 'ς' ∨
      ∃ d ∈ name.toList, ∃ c ∈ foldChar d, x ∈ toLowercase c := by
  unfold settledWords at hw
  split at hw
  · obtain rfl := List.mem_singleton.mp hw
    exact .inl hx
  · obtain ⟨hsnake, halnum⟩ := exists_mem_solidWords_iff.mp ⟨w, hw, hx⟩
    rcases mem_snakeCase_cases hsnake with rfl | hfinal | ⟨c, hc, hx⟩
    · exact absurd rfl (ne_underscore halnum)
    · exact .inr (.inl hfinal)
    · obtain ⟨d, hd, hcd⟩ := List.mem_flatMap.mp hc
      exact .inr (.inr ⟨d, hd, c, hcd, hx⟩)

/-- A capital that has no accent, while its small form has one. -/
structure GainsAccent (c x : Char) : Prop where
  foldChar_eq : foldChar c = [c]
  ne_sigma : c ≠ 'Σ'
  isAlphanumeric_capital : isAlphanumeric c = true
  mem_toLowercase : x ∈ toLowercase c
  isAlphanumeric_small : isAlphanumeric x = true
  foldChar_ne : foldChar x ≠ [x]

theorem GainsAccent.exists_mem_settledWords {name : String} {c x : Char} (h : GainsAccent c x)
    (hc : c ∈ name.toList) : ∃ w ∈ settledWords name, x ∈ w := by
  have hfolded : c ∈ foldText name.toList :=
    List.mem_flatMap.mpr ⟨c, hc, by simp [h.foldChar_eq]⟩
  have hsnake := mem_snakeCase_of_mem hfolded h.isAlphanumeric_capital h.ne_sigma h.mem_toLowercase
  obtain ⟨w, hw, hxw⟩ := exists_mem_solidWords_iff.mpr ⟨hsnake, h.isAlphanumeric_small⟩
  refine ⟨w, ?_, hxw⟩
  unfold settledWords
  split
  · next hnone => simp [hnone] at hw
  · exact hw

instance (c x : Char) : Decidable (GainsAccent c x) :=
  decidable_of_iff (foldChar c = [c] ∧ c ≠ 'Σ' ∧ isAlphanumeric c = true ∧ x ∈ toLowercase c ∧
      isAlphanumeric x = true ∧ foldChar x ≠ [x])
    ⟨fun ⟨hfold, hsigma, hc, hmem, hx, haccent⟩ => ⟨hfold, hsigma, hc, hmem, hx, haccent⟩,
      fun ⟨hfold, hsigma, hc, hmem, hx, haccent⟩ => ⟨hfold, hsigma, hc, hmem, hx, haccent⟩⟩

theorem gainsAccent_sharp : GainsAccent 'ẞ' 'ß' ∧ GainsAccent '\u212B' 'å' := by decide +kernel

/-- No accent is left, but for a letter whose small form has one while it has none itself. -/
theorem settledWords_plain_iff (name : String) :
    (∀ w ∈ settledWords name, ∀ x ∈ w, foldChar x = [x]) ↔
      ∀ c ∈ name.toList, c ≠ 'ẞ' ∧ c ≠ '\u212B' := by
  constructor
  · intro hplain c hc
    have hlost : ∀ {x}, ¬ GainsAccent c x := fun hgains =>
      have ⟨w, hw, hx⟩ := hgains.exists_mem_settledWords hc
      hgains.foldChar_ne (hplain w hw _ hx)
    exact ⟨fun heq => hlost (heq ▸ gainsAccent_sharp.1),
      fun heq => hlost (heq ▸ gainsAccent_sharp.2)⟩
  · intro hname w hw x hx
    rcases mem_settledWords_cases hw hx with hfallback | rfl | ⟨d, hd, c, hcd, hx⟩
    · exact (fallbackName_plain hfallback).2.2.1
    · exact sigma_small.2.2.1
    · refine foldChar_of_not_mem fun haccented => ?_
      have hplain := not_mem_accented_of_mem_foldChar hcd
      have hsource := (mem_accented_of_mem_toLowercase hx haccented).resolve_left hplain
      -- A letter that is no accented one is left alone, so the capital is in the name itself.
      rcases mem_foldChar_cases hcd with ⟨-, hascii⟩ | ⟨-, rfl⟩
      · rcases hsource with rfl | rfl <;> exact absurd hascii (by decide)
      · rcases hsource with rfl | rfl
        · exact (hname _ hd).1 rfl
        · exact (hname _ hd).2 rfl

theorem normalizeName_fixed_iff (name : String) :
    normalizeName (normalizeName name) = normalizeName name ↔
      (∀ c ∈ name.toList, c ≠ 'ẞ' ∧ c ≠ '\u212B') ∧
        ∀ word ∈ words (normalizeName name).toList, ¬ Breaks word := by
  have hsettled := areSettled_settledWords name
  rw [words_normalizeName, ← settledWords_plain_iff]
  calc normalizeName (normalizeName name) = normalizeName name
    _ ↔ normalizeName (joined (settledWords name)) = joined (settledWords name) := by
      rw [normalizeName_eq_joined name]
    _ ↔ ∀ w ∈ settledWords name, (∀ c ∈ w, foldChar c = [c]) ∧ ¬ Breaks w :=
      hsettled.normalizeName_joined_eq_iff
    _ ↔ _ := forall₂_and

/-- The words of a name have no capital if each capital of the name has a small letter. -/
theorem not_breaks_of_small {name : String}
    (hname : ∀ c ∈ name.toList, isUppercase c = true → toLowercase c ≠ [c]) :
    ∀ word ∈ settledWords name, ¬ Breaks word := by
  intro word hword hbreaks
  obtain ⟨x, hx, hupper⟩ := hbreaks.exists_capital
  rcases mem_settledWords_cases hword hx with hfallback | rfl | ⟨d, hd, c, hcd, hx⟩
  · exact Bool.false_ne_true ((fallbackName_plain hfallback).2.2.2.symm.trans hupper)
  · exact absurd hupper (Bool.eq_false_iff.mp sigma_small.2.2.2)
  · obtain ⟨rfl, hself⟩ := toLowercase_of_isUppercase hx hupper
    exact toLowercase_ne_of_mem_foldChar hcd (hname d hd) hupper hself

/-- To normalize a name twice gives what no further time changes. Once is enough exactly if the name
has neither of the two capitals of which only the small form has an accent, and its normal form has
no word that is cut, as can only be when a capital has no small letter. -/
theorem normalizeName_settles (name : String) :
    normalizeName (normalizeName (normalizeName name)) = normalizeName (normalizeName name) ∧
      (normalizeName (normalizeName name) = normalizeName name ↔
        (∀ c ∈ name.toList, c ≠ 'ẞ' ∧ c ≠ '\u212B') ∧
          ∀ word ∈ words (normalizeName name).toList, ¬ Breaks word) ∧
      ((∀ c ∈ name.toList, c ≠ 'ẞ' ∧ c ≠ '\u212B' ∧
          (isUppercase c = true → toLowercase c ≠ [c])) →
        normalizeName (normalizeName name) = normalizeName name) := by
  refine ⟨normalizeName_thrice name, normalizeName_fixed_iff name, fun hname => ?_⟩
  refine (normalizeName_fixed_iff name).mpr ⟨fun c hc => ⟨(hname c hc).1, (hname c hc).2.1⟩, ?_⟩
  rw [words_normalizeName]
  exact not_breaks_of_small fun c hc => (hname c hc).2.2

/-- The capital sharp s becomes a small one, which only the second time makes two letters of; a
capital without a small letter is cut off only once the one before it is small. A name with neither
is settled at once. -/
theorem normalizeName_sharp :
    normalizeName "ẞ" = "ß" ∧ normalizeName "ß" = "ss" ∧
      normalizeName "Aℝ" = "aℝ" ∧ normalizeName "aℝ" = "a_ℝ" ∧
      normalizeName (normalizeName (normalizeName "ẞ")) = normalizeName (normalizeName "ẞ") ∧
      normalizeName (normalizeName "Aℝ") ≠ normalizeName "Aℝ" ∧
      (∀ c ∈ "GrößeNr".toList, c ≠ 'ẞ' ∧ c ≠ '\u212B' ∧
        (isUppercase c = true → toLowercase c ≠ [c])) ∧
      normalizeName (normalizeName "GrößeNr") = normalizeName "GrößeNr" := by
  have hall : "GrößeNr".toList.all (fun c => decide (c ≠ 'ẞ' ∧ c ≠ '\u212B' ∧
      (isUppercase c = true → toLowercase c ≠ [c]))) = true := by decide
  have hname : ∀ c ∈ "GrößeNr".toList, c ≠ 'ẞ' ∧ c ≠ '\u212B' ∧
      (isUppercase c = true → toLowercase c ≠ [c]) := fun c hc =>
    of_decide_eq_true (List.all_eq_true.mp hall c hc)
  have hcase : isLowercase 'a' = true ∧ isUppercase 'ℝ' = true := by decide +kernel
  have hcut : Breaks ['a', 'ℝ'] := .beforeCapital [] [] [] hcase.1 hcase.2
    (List.forall_mem_nil _)
  have hnames : normalizeName "ẞ" = "ß" ∧ normalizeName "ß" = "ss" ∧
      normalizeName "Aℝ" = "aℝ" ∧ normalizeName "aℝ" = "a_ℝ" := by decide +kernel
  obtain ⟨hsharp, hss, hreal, hcutName⟩ := hnames
  have hword : ['a', 'ℝ'] ∈ words (normalizeName "Aℝ").toList := by
    rw [hreal]
    decide +kernel
  refine ⟨hsharp, hss, hreal, hcutName, (normalizeName_settles "ẞ").1, fun hfixed => ?_, hname,
    (normalizeName_settles "GrößeNr").2.2 hname⟩
  exact ((normalizeName_settles "Aℝ").2.1.mp hfixed).2 _ hword hcut

end Header

end TidyCsv
