import TidyCsv.Text.Words
import TidyCsv.Unicode.LetterCase

/-! # What lowercasing does to letters and numbers

The tables are only looked at range by range: a range of capitals and the range of letters that its
small letters lie in decide for all characters between their ends. -/

namespace TidyCsv.Unicode

open Text

/-! ## Ranges -/

/-- Whether all code points from `first` to `last` lie in one range of an ascending table. -/
def covers (first last : Nat) : List (Nat × Nat) → Bool
  | [] => false
  | (low, high) :: rest =>
    if first < low then false else if first ≤ high then last ≤ high else covers first last rest

theorem inRanges_of_covers {first last n : Nat} {ranges : List (Nat × Nat)}
    (h : covers first last ranges = true) (hfirst : first ≤ n) (hlast : n ≤ last) :
    inRanges n ranges = true := by
  induction ranges with
  | nil => simp [covers] at h
  | cons range rest ih =>
      obtain ⟨low, high⟩ := range
      simp only [covers] at h
      split at h
      · simp at h
      · split at h
        · have hhigh : last ≤ high := by simpa using h
          have hn : ¬ n < low ∧ n ≤ high := by omega
          simp [inRanges, hn]
        · by_cases hhigh : n ≤ high
          · omega
          · have hlow : ¬ n < low := by omega
            simp [inRanges, hlow, hhigh, ih h]

/-! ## Shifts -/

/-- The code points that a rule moves. -/
def CaseShift.points (rule : CaseShift) : List Nat :=
  (List.range ((rule.last - rule.first) / rule.step + 1)).map fun k => rule.first + k * rule.step

/-- Where a rule moves a code point. -/
def CaseShift.target (rule : CaseShift) (n : Nat) : Nat := ((n : Int) + rule.shift).toNat

/-- A code point is left alone, or a rule that moves it applies. -/
theorem shiftCase_cases (n : Nat) (rules : List CaseShift) :
    shiftCase n rules = n ∨
      ∃ rule ∈ rules, n ∈ rule.points ∧ rule.first ≤ n ∧ n ≤ rule.last ∧
        shiftCase n rules = rule.target n := by
  induction rules with
  | nil => exact .inl rfl
  | cons rule rest ih =>
    by_cases hfirst : n < rule.first
    · exact .inl (by simp [shiftCase, hfirst])
    · by_cases hlast : n ≤ rule.last
      · by_cases hstep : (n - rule.first) % rule.step = 0
        · right
          refine ⟨rule, by simp, ?_, by omega, hlast, by
            simp [shiftCase, hfirst, hlast, hstep, CaseShift.target]⟩
          refine List.mem_map.mpr ⟨(n - rule.first) / rule.step, List.mem_range.mpr ?_, ?_⟩
          · exact Nat.lt_succ_of_le (Nat.div_le_div_right (by omega))
          · have hn := Nat.div_add_mod' (n - rule.first) rule.step
            omega
        · exact .inl (by simp [shiftCase, hfirst, hlast, hstep])
      · have hshift : shiftCase n (rule :: rest) = shiftCase n rest := by
          simp [shiftCase, hfirst, hlast]
        rw [hshift]
        rcases ih with hsame | ⟨other, hmem, hrest⟩
        · exact .inl hsame
        · exact .inr ⟨other, by simp [hmem], hrest⟩

/-- The sign for kelvins, the one capital beyond ASCII whose small letter is in ASCII. -/
def kelvin : Nat := 0x212A

/-- Whether the small letters of a range of capitals lie in one range of letters, beyond ASCII and
without a dotted capital I among them. -/
def CaseShift.isRegular (rule : CaseShift) : Bool :=
  let first := ((rule.first : Int) + rule.shift).toNat
  let last := ((rule.last : Int) + rule.shift).toNat
  covers first last alphabeticRanges && decide (0x80 ≤ first) &&
    (decide (last < 0xD800) || decide (0xDFFF < first) && decide (last < 0x110000)) &&
    (decide (last < 0x130) || decide (0x130 < first))

theorem CaseShift.isRegular_iff {rule : CaseShift} :
    rule.isRegular = true ↔
      covers ((rule.first : Int) + rule.shift).toNat ((rule.last : Int) + rule.shift).toNat
        alphabeticRanges = true ∧
      0x80 ≤ ((rule.first : Int) + rule.shift).toNat ∧
      (((rule.last : Int) + rule.shift).toNat < 0xD800 ∨
        0xDFFF < ((rule.first : Int) + rule.shift).toNat ∧
          ((rule.last : Int) + rule.shift).toNat < 0x110000) ∧
      (((rule.last : Int) + rule.shift).toNat < 0x130 ∨
        0x130 < ((rule.first : Int) + rule.shift).toNat) := by
  simp only [isRegular, Bool.and_eq_true, Bool.or_eq_true, decide_eq_true_eq, and_assoc]

theorem isRegular_of_mem :
    ∀ rule ∈ lowercaseShifts,
      rule.isRegular = true ∨ rule.first = kelvin ∧ rule.last = kelvin ∧ rule.shift = -0x20BF := by
  decide +kernel

theorem CaseShift.toNat_ofNat {rule : CaseShift} (h : rule.isRegular = true) {n : Nat}
    (hfirst : rule.first ≤ n) (hlast : n ≤ rule.last) :
    (Char.ofNat ((n : Int) + rule.shift).toNat).toNat = ((n : Int) + rule.shift).toNat := by
  obtain ⟨_, _, hvalid, _⟩ := isRegular_iff.mp h
  have hpoint : ((n : Int) + rule.shift).toNat.isValidChar := by
    unfold Nat.isValidChar
    omega
  rw [Char.ofNat, dif_pos hpoint]
  rfl

/-- A character that is moved becomes a letter, and not the dotted capital I. -/
theorem shiftCase_letter (c : Char) :
    Char.ofNat (shiftCase c.toNat lowercaseShifts) = c ∨
      isAlphabetic (Char.ofNat (shiftCase c.toNat lowercaseShifts)) = true ∧
        Char.ofNat (shiftCase c.toNat lowercaseShifts) ≠ 'İ' := by
  rcases shiftCase_cases c.toNat lowercaseShifts with
    hsame | ⟨rule, hmem, -, hfirst, hlast, htarget⟩
  · exact .inl (by rw [hsame, Char.ofNat_toNat])
  · right
    rw [htarget, CaseShift.target]
    rcases isRegular_of_mem rule hmem with hregular | ⟨hlow, hhigh, hby⟩
    · have hpoint := CaseShift.toNat_ofNat hregular hfirst hlast
      obtain ⟨hcovers, hbeyond, hvalid, hnot⟩ := CaseShift.isRegular_iff.mp hregular
      constructor
      · have hn : ¬ ((c.toNat : Int) + rule.shift).toNat < 0x80 := by omega
        simp only [isAlphabetic, hpoint, if_neg hn]
        exact inRanges_of_covers hcovers (by omega) (by omega)
      · intro heq
        have hn : ((c.toNat : Int) + rule.shift).toNat = 0x130 := by
          rw [← hpoint, heq]
          rfl
        omega
    · have hc : c.toNat = kelvin := by omega
      rw [hc, hby]
      decide

/-! ## Lowercasing -/

theorem toLowercase_of_ascii {c : Char} (h : c.toNat < 0x80) : toLowercase c = [c.toLower] := by
  simp [toLowercase, h]

/-- The case of a character of ASCII and of its small letter. -/
structure AsciiCase (c : Char) : Prop where
  toLower_lt : c.toLower.toNat < 0x80
  isAlphanumeric_toLower : isAlphanumeric c = true → isAlphanumeric c.toLower = true
  toLowercase_toLower : toLowercase c.toLower = [c.toLower]
  isUppercase_toLower : isUppercase c.toLower = false
  isUppercase_of_isLowercase : isLowercase c = true → isUppercase c = false
  toLowercase_ne : isUppercase c = true → toLowercase c ≠ [c]
  small : c.isLower = true ∨ c.isDigit = true →
    isAlphanumeric c = true ∧ toLowercase c = [c] ∧ isUppercase c = false

instance (c : Char) : Decidable (AsciiCase c) :=
  decidable_of_iff (c.toLower.toNat < 0x80 ∧
      (isAlphanumeric c = true → isAlphanumeric c.toLower = true) ∧
      toLowercase c.toLower = [c.toLower] ∧ isUppercase c.toLower = false ∧
      (isLowercase c = true → isUppercase c = false) ∧
      (isUppercase c = true → toLowercase c ≠ [c]) ∧
      (c.isLower = true ∨ c.isDigit = true →
        isAlphanumeric c = true ∧ toLowercase c = [c] ∧ isUppercase c = false))
    ⟨fun ⟨hlower, halnum, hsame, hcapital, hapart, hmoved, hsmall⟩ =>
        ⟨hlower, halnum, hsame, hcapital, hapart, hmoved, hsmall⟩,
      fun ⟨hlower, halnum, hsame, hcapital, hapart, hmoved, hsmall⟩ =>
        ⟨hlower, halnum, hsame, hcapital, hapart, hmoved, hsmall⟩⟩

theorem asciiCase {c : Char} (h : c.toNat < 0x80) : AsciiCase c := by
  have hall : ∀ n : Fin 0x80, AsciiCase (Char.ofNat n.val) := by decide
  simpa using hall ⟨c.toNat, h⟩

theorem ne_dotted_of_mem_toLowercase {c x : Char} (h : x ∈ toLowercase c) : x ≠ 'İ' := by
  by_cases hascii : c.toNat < 0x80
  · obtain rfl : x = c.toLower := by simpa [toLowercase_of_ascii hascii] using h
    exact fun heq => absurd (heq ▸ (asciiCase hascii).toLower_lt) (by decide)
  · by_cases hdotted : c = 'İ'
    · have hcases : x = 'i' ∨ x = '\u0307' := by simpa [toLowercase, hascii, hdotted] using h
      rcases hcases with rfl | rfl <;> decide
    · obtain rfl : x = Char.ofNat (shiftCase c.toNat lowercaseShifts) := by
        simpa [toLowercase, hascii, hdotted] using h
      rcases shiftCase_letter c with hsame | ⟨_, hne⟩
      · rwa [hsame]
      · exact hne

/-- All that lowercasing gives for a letter or number, the dotted capital I apart, is a letter or
number. -/
theorem isAlphanumeric_of_mem_toLowercase {c x : Char} (hdotted : c ≠ 'İ')
    (hc : isAlphanumeric c = true) (h : x ∈ toLowercase c) : isAlphanumeric x = true := by
  by_cases hascii : c.toNat < 0x80
  · obtain rfl : x = c.toLower := by simpa [toLowercase_of_ascii hascii] using h
    exact (asciiCase hascii).isAlphanumeric_toLower hc
  · obtain rfl : x = Char.ofNat (shiftCase c.toNat lowercaseShifts) := by
      simpa [toLowercase, hascii, hdotted] using h
    rcases shiftCase_letter c with hsame | ⟨hletter, _⟩
    · rwa [hsame]
    · simp [isAlphanumeric, hletter]

/-- Lowercasing never loses a letter or number. -/
theorem exists_isAlphanumeric_toLowercase {c : Char} (hc : isAlphanumeric c = true) :
    ∃ x ∈ toLowercase c, isAlphanumeric x = true := by
  by_cases hdotted : c = 'İ'
  · exact ⟨'i', by subst hdotted; decide, by decide⟩
  · by_cases hascii : c.toNat < 0x80
    · exact ⟨c.toLower, by simp [toLowercase_of_ascii hascii],
        (asciiCase hascii).isAlphanumeric_toLower hc⟩
    · have hmem : Char.ofNat (shiftCase c.toNat lowercaseShifts) ∈ toLowercase c := by
        simp [toLowercase, hascii, hdotted]
      exact ⟨_, hmem, isAlphanumeric_of_mem_toLowercase hdotted hc hmem⟩

end TidyCsv.Unicode
