import TidyCsv.Header.Folding
import TidyCsv.Proofs.Unicode.SmallLetters

/-!
# Accents that are gone

Removing accents is done in one go: what replaces an accented letter is a letter of ASCII. Only two
capitals without an entry in the table of accents have a small letter with one.
-/

namespace TidyCsv.Header

open Unicode Text

/-- The letters that are replaced. -/
def accented : List Char := 'ß' :: 'æ' :: 'Æ' :: accentTable.flatMap (·.1.toList)

variable {c x : Char}

theorem foldChar_of_not_mem (h : c ∉ accented) : foldChar c = [c] := by
  have hne : c ≠ 'ß' ∧ c ≠ 'æ' ∧ c ≠ 'Æ' ∧ c ∉ accentTable.flatMap (·.1.toList) := by
    simpa only [accented, List.mem_cons, not_or] using h
  have hplain : dropAccent c = c := by
    have hfind : (accentTable.find? fun entry => entry.1.toList.contains c) = none := by
      refine List.find?_eq_none.mpr fun entry hentry hc => hne.2.2.2 ?_
      exact List.mem_flatMap.mpr ⟨entry, hentry, List.contains_iff_mem.mp hc⟩
    simp only [dropAccent]
    split
    · next heq => exact absurd (hfind.symm.trans heq) (Option.some_ne_none _).symm
    · rfl
  simp only [foldChar, if_neg hne.1, if_neg hne.2.1, if_neg hne.2.2.1, hplain]

/-- Whether what replaces a letter is in ASCII, and small if the letter is. -/
def isReplaced (c : Char) : Bool :=
  decide (0x80 ≤ c.toNat) && !(foldChar c).isEmpty && (foldChar c).all fun x =>
    decide (x.toNat < 0x80) && isAlphanumeric x &&
      decide (toLowercase c = [c] → toLowercase x = [x])

theorem all_isReplaced : accented.all isReplaced = true := by decide +kernel

theorem foldChar_of_mem (h : c ∈ accented) :
    0x80 ≤ c.toNat ∧ foldChar c ≠ [] ∧
      ∀ x ∈ foldChar c, x.toNat < 0x80 ∧ isAlphanumeric x = true ∧
        (toLowercase c = [c] → toLowercase x = [x]) := by
  have hreplaced := List.all_eq_true.mp all_isReplaced c h
  simpa only [isReplaced, Bool.and_eq_true, decide_eq_true_eq, Bool.not_eq_true',
    List.isEmpty_eq_false_iff, List.all_eq_true, and_assoc] using hreplaced

theorem foldChar_ne_nil (c : Char) : foldChar c ≠ [] := by
  by_cases hc : c ∈ accented
  · exact (foldChar_of_mem hc).2.1
  · simp [foldChar_of_not_mem hc]

/-- What is left is a letter of ASCII, or the character itself. -/
theorem mem_foldChar_cases (h : x ∈ foldChar c) :
    c ∈ accented ∧ x.toNat < 0x80 ∨ c ∉ accented ∧ x = c := by
  by_cases hc : c ∈ accented
  · exact .inl ⟨hc, ((foldChar_of_mem hc).2.2 x h).1⟩
  · exact .inr ⟨hc, by simpa [foldChar_of_not_mem hc] using h⟩

theorem not_mem_accented_of_mem_foldChar (h : x ∈ foldChar c) : x ∉ accented := by
  rcases mem_foldChar_cases h with ⟨-, hascii⟩ | ⟨hc, rfl⟩
  · exact fun hx => absurd (foldChar_of_mem hx).1 (Nat.not_le.mpr hascii)
  · exact hc

theorem foldChar_of_mem_foldChar (h : x ∈ foldChar c) : foldChar x = [x] :=
  foldChar_of_not_mem (not_mem_accented_of_mem_foldChar h)

theorem isAlphanumeric_of_mem_foldChar (h : x ∈ foldChar c) (hc : isAlphanumeric c = true) :
    isAlphanumeric x = true := by
  rcases mem_foldChar_cases h with ⟨haccented, -⟩ | ⟨-, rfl⟩
  · exact ((foldChar_of_mem haccented).2.2 x h).2.1
  · exact hc

theorem toLowercase_of_mem_foldChar (h : x ∈ foldChar c) (hc : toLowercase c = [c]) :
    toLowercase x = [x] := by
  rcases mem_foldChar_cases h with ⟨haccented, -⟩ | ⟨-, rfl⟩
  · exact ((foldChar_of_mem haccented).2.2 x h).2.2 hc
  · exact hc

/-- A capital that has a small letter is replaced by capitals that have one. -/
theorem toLowercase_ne_of_mem_foldChar (h : x ∈ foldChar c)
    (hc : isUppercase c = true → toLowercase c ≠ [c]) (hx : isUppercase x = true) :
    toLowercase x ≠ [x] := by
  rcases mem_foldChar_cases h with ⟨-, hascii⟩ | ⟨-, rfl⟩
  · exact (asciiCase hascii).toLowercase_ne hx
  · exact hc hx

/-! ## Accents on small letters -/

/-- The code points that are moved to an accented letter. -/
def accentedSources : List Nat :=
  lowercaseShifts.flatMap fun rule =>
    rule.points.filter fun n => (bits (singles (accented.map Char.toNat))).testBit (rule.target n)

/-- The sharp s and the sign for angstroms are the only capitals among them without an accent. -/
theorem accentedSources_eq :
    ∀ n ∈ accentedSources,
      (bits (singles (0x1E9E :: 0x212B :: accented.map Char.toNat))).testBit n = true := by
  decide +kernel

/-- Lowercasing brings no accent about, but for two capitals. -/
theorem mem_accented_of_mem_toLowercase (h : x ∈ toLowercase c) (hx : x ∈ accented) :
    c ∈ accented ∨ c = 'ẞ' ∨ c = '\u212B' := by
  have hbeyond := (foldChar_of_mem hx).1
  rcases toLowercase_cases h with ⟨rfl, -⟩ | ⟨hascii, rfl⟩ | ⟨-, rfl | rfl⟩ |
    ⟨rule, hmem, hpoint, hfirst, hlast, rfl⟩
  · exact .inl hx
  · exact absurd hbeyond (Nat.not_le.mpr (asciiCase hascii).toLower_lt)
  · exact absurd hbeyond (by decide)
  · have hself : foldChar '\u0307' = ['\u0307'] := rfl
    have hascii := ((foldChar_of_mem hx).2.2 '\u0307' (by simp [hself])).1
    exact absurd hascii (by decide)
  · have htarget : rule.target c.toNat ∈ accented.map Char.toNat :=
      List.mem_map.mpr ⟨_, hx, CaseShift.toNat_target hmem hfirst hlast⟩
    have hsource : c.toNat ∈ accentedSources :=
      List.mem_flatMap.mpr ⟨rule, hmem,
        List.mem_filter.mpr ⟨hpoint, (testBit_singles _ _).mpr htarget⟩⟩
    have hin := (testBit_singles _ _).mp (accentedSources_eq c.toNat hsource)
    rcases List.mem_cons.mp hin with hsharp | hin
    · exact .inr (.inl (Char.toNat_inj.mp hsharp))
    · rcases List.mem_cons.mp hin with hangstrom | haccented
      · exact .inr (.inr (Char.toNat_inj.mp hangstrom))
      · obtain ⟨d, hd, heq⟩ := List.mem_map.mp haccented
        exact .inl (Char.toNat_inj.mp heq ▸ hd)

end TidyCsv.Header
