import TidyCsv.Header.Name
import TidyCsv.Proofs.Text.Words
import TidyCsv.Proofs.Unicode.LetterCase

/-! # The characters of column names

A name in its normal form consists of letters, numbers and underscores, and it has at least as many
letters and numbers as the text it was made of. -/

namespace TidyCsv

open Unicode

namespace Text

/-- The number of letters and numbers in a text. -/
def weight (text : List Char) : Nat := text.countP isAlphanumeric

@[simp] theorem weight_nil : weight [] = 0 := rfl

@[simp] theorem weight_append (xs ys : List Char) : weight (xs ++ ys) = weight xs + weight ys :=
  List.countP_append

@[simp] theorem weight_reverse (xs : List Char) : weight xs.reverse = weight xs :=
  List.countP_reverse

theorem weight_cons (c : Char) (rest : List Char) :
    weight (c :: rest) = weight [c] + weight rest := by
  rw [← weight_append, List.singleton_append]

theorem weight_singleton (c : Char) : weight [c] = if isAlphanumeric c then 1 else 0 := by
  simp [weight, List.countP_cons]

theorem weight_pos_of_mem {text : List Char} {c : Char} (h : c ∈ text)
    (hc : isAlphanumeric c = true) : 0 < weight text :=
  List.countP_pos_iff.mpr ⟨c, h, hc⟩

/-- Replacing each character loses no weight if no letter or number is lost. -/
theorem weight_le_weight_flatMap {f : Char → List Char}
    (hf : ∀ c, isAlphanumeric c = true → ∃ x ∈ f c, isAlphanumeric x = true)
    (text : List Char) : weight text ≤ weight (text.flatMap f) := by
  induction text with
  | nil => simp
  | cons c rest ih =>
      have hfirst : weight [c] ≤ weight (f c) := by
        rw [weight_singleton]
        split
        · next hc =>
            obtain ⟨x, hx, halnum⟩ := hf c hc
            exact weight_pos_of_mem hx halnum
        · exact Nat.zero_le _
      rw [weight_cons, List.flatMap_cons, weight_append]
      exact Nat.add_le_add hfirst ih

/-! ## Words -/

theorem weight_flatten_words (text : List Char) : weight (words text).flatten = weight text := by
  rw [flatten_words]
  simp [weight, List.countP_filter]

end Text

namespace Header

open Text

/-! ## Humps -/

theorem flatten_humpsFrom (done : List (List Char)) (current : List Char) (hump : Hump)
    (word : List Char) :
    (humpsFrom done current hump word).flatten =
      done.reverse.flatten ++ current.reverse ++ word := by
  fun_induction humpsFrom done current hump word with
  | case1 done current hump hempty => simp_all
  | case2 done current hump hempty => simp
  | case3 done current hump c => simp
  | case4 done current hump c next rest h ih =>
      rw [ih]
      simp
  | case5 done current hump c next rest h h' ih => simp [ih]
  | case6 done current hump c next rest h h' ih => simp [ih]

theorem flatten_humps (word : List Char) : (humps word).flatten = word := by
  simp [humps, flatten_humpsFrom]

theorem ne_dotted_of_mem_lowerHump {hump : List Char} {x : Char} (h : x ∈ lowerHump hump) :
    x ≠ 'İ' := by
  rcases List.mem_append.mp h with hinit | hlast
  · obtain ⟨c, _, hx⟩ := List.mem_flatMap.mp hinit
    exact ne_dotted_of_mem_toLowercase hx
  · split at hlast
    · simp at hlast
    · split at hlast
      · obtain rfl : x = 'ς' := by simpa using hlast
        decide
      · exact ne_dotted_of_mem_toLowercase hlast

theorem weight_le_weight_lowerHump (hump : List Char) : weight hump ≤ weight (lowerHump hump) := by
  rcases List.eq_nil_or_concat hump with rfl | ⟨init, c, rfl⟩
  · simp
  · have hinit := weight_le_weight_flatMap (f := toLowercase)
      (fun _ => exists_isAlphanumeric_toLowercase) init
    have hlast : weight [c] ≤ weight (if c = 'Σ' then ['ς'] else toLowercase c) := by
      split
      · next hsigma =>
          subst hsigma
          decide
      · simpa using weight_le_weight_flatMap (f := toLowercase)
          (fun _ => exists_isAlphanumeric_toLowercase) [c]
    simpa [lowerHump] using Nat.add_le_add hinit hlast

/-! ## Snake case -/

theorem mem_intercalate {separator : Char} {parts : List (List Char)} {x : Char}
    (h : x ∈ [separator].intercalate parts) : x = separator ∨ ∃ part ∈ parts, x ∈ part := by
  induction parts with
  | nil => simp at h
  | cons part rest ih =>
      cases rest with
      | nil => exact .inr ⟨part, by simp, by simpa using h⟩
      | cons next rest =>
          rw [List.intercalate_cons_cons] at h
          rcases List.mem_append.mp h with hhead | htail
          · rcases List.mem_append.mp hhead with hpart | hseparator
            · exact .inr ⟨part, by simp, hpart⟩
            · exact .inl (by simpa using hseparator)
          · rcases ih htail with hseparator | ⟨other, hother, hx⟩
            · exact .inl hseparator
            · exact .inr ⟨other, by simp [hother], hx⟩

theorem weight_flatten_le_weight_intercalate (separator : Char) (parts : List (List Char)) :
    weight parts.flatten ≤ weight ([separator].intercalate parts) := by
  induction parts with
  | nil => simp
  | cons part rest ih =>
      cases rest with
      | nil => simp
      | cons next rest =>
          rw [List.intercalate_cons_cons, List.flatten_cons]
          simp only [weight_append]
          omega

theorem weight_flatten_le_weight_map_lowerHump (parts : List (List Char)) :
    weight parts.flatten ≤ weight (parts.map lowerHump).flatten := by
  induction parts with
  | nil => simp
  | cons part rest ih =>
      simpa using Nat.add_le_add (weight_le_weight_lowerHump part) ih

theorem ne_dotted_of_mem_snakeCase {text : List Char} {x : Char} (h : x ∈ snakeCase text) :
    x ≠ 'İ' := by
  rcases mem_intercalate h with rfl | ⟨part, hpart, hx⟩
  · decide
  · obtain ⟨hump, _, rfl⟩ := List.mem_map.mp hpart
    exact ne_dotted_of_mem_lowerHump hx

theorem weight_le_weight_snakeCase (text : List Char) : weight text ≤ weight (snakeCase text) := by
  have hhumps : ((words text).flatMap humps).flatten = (words text).flatten := by
    induction words text with
    | nil => rfl
    | cons word rest ih => simp [flatten_humps, ih]
  calc weight text = weight ((words text).flatMap humps).flatten := by
        rw [hhumps, weight_flatten_words]
    _ ≤ weight (((words text).flatMap humps).map lowerHump).flatten :=
        weight_flatten_le_weight_map_lowerHump _
    _ ≤ weight (snakeCase text) := weight_flatten_le_weight_intercalate '_' _

/-! ## Accents and ligatures -/

theorem isAlphanumeric_of_mem_accentTable :
    ∀ entry ∈ accentTable, isAlphanumeric entry.2 = true := by decide

theorem isAlphanumeric_dropAccent {c : Char} (hc : isAlphanumeric c = true) :
    isAlphanumeric (dropAccent c) = true := by
  unfold dropAccent
  split
  · next entry hfind =>
      exact isAlphanumeric_of_mem_accentTable _ (List.mem_of_find?_eq_some hfind)
  · exact hc

theorem exists_isAlphanumeric_foldChar {c : Char} (hc : isAlphanumeric c = true) :
    ∃ x ∈ foldChar c, isAlphanumeric x = true := by
  unfold foldChar
  split
  · exact ⟨'s', by simp, by decide⟩
  · split
    · exact ⟨'a', by simp, by decide⟩
    · split
      · exact ⟨'A', by simp, by decide⟩
      · exact ⟨dropAccent c, by simp, isAlphanumeric_dropAccent hc⟩

theorem weight_le_weight_foldText (text : List Char) : weight text ≤ weight (foldText text) :=
  weight_le_weight_flatMap (fun _ => exists_isAlphanumeric_foldChar) text

/-! ## Names -/

/-- Whether a character may stand in a name. -/
def IsNameChar (c : Char) : Prop := isAlphanumeric c = true ∨ c = '_'

instance (c : Char) : Decidable (IsNameChar c) :=
  inferInstanceAs (Decidable (isAlphanumeric c = true ∨ c = '_'))

theorem isNameChar_takeChar {name : List Char} {c : Char} (hc : c ≠ 'İ')
    (h : ∀ x ∈ name, IsNameChar x) : ∀ x ∈ takeChar name c, IsNameChar x := by
  intro x hx
  unfold takeChar at hx
  split at hx
  · next halnum =>
      rcases List.mem_append.mp hx with hnew | hold
      · exact .inl (isAlphanumeric_of_mem_toLowercase hc halnum (List.mem_reverse.mp hnew))
      · exact h x hold
  · split at hx
    · simp at hx
    · exact h x hx
    · rcases List.mem_cons.mp hx with rfl | hold
      · exact .inr rfl
      · exact h x hold

theorem weight_takeChar (name : List Char) (c : Char) :
    weight name + weight [c] ≤ weight (takeChar name c) := by
  unfold takeChar
  split
  · have h := weight_le_weight_flatMap (f := toLowercase)
      (fun _ => exists_isAlphanumeric_toLowercase) [c]
    simp only [List.flatMap_singleton] at h
    simp only [weight_append, weight_reverse]
    omega
  · next halnum =>
      have hc : weight [c] = 0 := by simp [weight_singleton, halnum]
      split
      · simp [hc]
      · simp [hc]
      · rw [weight_cons '_' name]
        omega

theorem isNameChar_foldl_takeChar {text : List Char} (htext : ∀ c ∈ text, c ≠ 'İ') :
    ∀ {name : List Char}, (∀ x ∈ name, IsNameChar x) →
      ∀ x ∈ text.foldl takeChar name, IsNameChar x := by
  induction text with
  | nil =>
      intro name h
      exact h
  | cons c rest ih =>
      intro name h
      exact ih (fun x hx => htext x (by simp [hx]))
        (isNameChar_takeChar (htext c (by simp)) h)

theorem weight_foldl_takeChar (text name : List Char) :
    weight name + weight text ≤ weight (text.foldl takeChar name) := by
  induction text generalizing name with
  | nil => simp
  | cons c rest ih =>
      have hstep := weight_takeChar name c
      have hrest := ih (takeChar name c)
      rw [weight_cons c rest, List.foldl_cons]
      omega

theorem weight_dropWhile_underscore (text : List Char) :
    weight (text.dropWhile (· == '_')) = weight text := by
  induction text with
  | nil => rfl
  | cons c rest ih =>
      rw [List.dropWhile_cons]
      split
      · next hc =>
          obtain rfl : c = '_' := by simpa using hc
          have hzero : weight ['_'] = 0 := by decide
          rw [ih, weight_cons '_' rest, hzero, Nat.zero_add]
      · rfl

theorem isNameChar_identifier {text : List Char} (htext : ∀ c ∈ text, c ≠ 'İ') :
    ∀ x ∈ identifier text, IsNameChar x := by
  intro x hx
  have hmem : x ∈ text.foldl takeChar [] :=
    (List.dropWhile_sublist _).mem (List.mem_reverse.mp hx)
  exact isNameChar_foldl_takeChar htext (by simp) x hmem

theorem weight_le_weight_identifier (text : List Char) : weight text ≤ weight (identifier text) := by
  have h := weight_foldl_takeChar text []
  simpa [identifier, weight_dropWhile_underscore] using h

/-- A name in its normal form consists of letters, numbers and underscores. -/
theorem isNameChar_of_mem_normalizeName {name : String} {x : Char}
    (h : x ∈ (normalizeName name).toList) : IsNameChar x := by
  unfold normalizeName at h
  split at h
  · have hall : fallbackName.toList.all (fun x => decide (IsNameChar x)) = true := by decide
    exact of_decide_eq_true (List.all_eq_true.mp hall x h)
  · next text htext =>
      have hx : x ∈ identifier (snakeCase (foldText name.toList)) := by simpa using h
      exact isNameChar_identifier (fun _ => ne_dotted_of_mem_snakeCase) x hx

theorem weight_le_weight_normalizeName (name : String) :
    weight name.toList ≤ weight (normalizeName name).toList := by
  have h : weight name.toList ≤ weight (identifier (snakeCase (foldText name.toList))) :=
    calc weight name.toList ≤ weight (foldText name.toList) := weight_le_weight_foldText _
      _ ≤ weight (snakeCase (foldText name.toList)) := weight_le_weight_snakeCase _
      _ ≤ weight (identifier (snakeCase (foldText name.toList))) := weight_le_weight_identifier _
  unfold normalizeName
  split
  · next hempty =>
      rw [hempty] at h
      exact Nat.le_trans h (Nat.zero_le _)
  · simpa using h

/-- No text is the normal form of what it becomes with more letters or numbers at its end. -/
theorem normalizeName_append_ne {name : String} {more : List Char} (h : 0 < weight more) :
    normalizeName (String.ofList (name.toList ++ more)) ≠ name := by
  intro heq
  have hweight := weight_le_weight_normalizeName (String.ofList (name.toList ++ more))
  rw [heq, String.toList_ofList, weight_append] at hweight
  omega

/-! ## The names of a header -/

theorem length_distinctFrom (taken names : List String) :
    (distinctFrom taken names).length = taken.length + names.length := by
  induction names generalizing taken with
  | nil => simp [distinctFrom]
  | cons name rest ih =>
      rw [distinctFrom, ih]
      simp
      omega

theorem prefix_distinctFrom (taken names : List String) :
    taken.reverse <+: distinctFrom taken names := by
  induction names generalizing taken with
  | nil => exact List.prefix_rfl
  | cons name rest ih =>
      refine List.IsPrefix.trans ?_ (ih (firstFree taken name :: taken))
      rw [List.reverse_cons]
      exact List.prefix_append _ _

@[simp] theorem length_normalizeAll (names : List String) :
    (normalizeAll names).length = names.length := by
  simp [normalizeAll, length_distinctFrom]

theorem head?_normalizeAll (name : String) (rest : List String) :
    (normalizeAll (name :: rest)).head? = some (normalizeName name) := by
  have h := prefix_distinctFrom [normalizeName name] (rest.map normalizeName)
  obtain ⟨tail, htail⟩ := h
  have heq : normalizeAll (name :: rest) =
      distinctFrom [normalizeName name] (rest.map normalizeName) := by
    simp [normalizeAll, distinctFrom, firstFree]
  rw [heq, ← htail]
  rfl

end Header

end TidyCsv
