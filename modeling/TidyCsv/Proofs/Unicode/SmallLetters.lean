import TidyCsv.Proofs.Unicode.LetterCase

/-!
# Small letters are settled

No character has both cases, and what lowercasing gives is left alone by lowercasing and is no
capital unless it was one before. The tables are compared as a whole: a set of code points is held
as the bits of one number, and two sets are apart if their numbers have no bit in common.
-/

namespace TidyCsv.Unicode

/-! ## Sets of code points -/

/-- The set of the code points in some ranges: bit `n` stands for code point `n`. -/
def bits (ranges : List (Nat × Nat)) : Nat :=
  ranges.foldr (fun range set => set ||| (1 <<< (range.2 + 1 - range.1) - 1) <<< range.1) 0

theorem testBit_bits (ranges : List (Nat × Nat)) (n : Nat) :
    (bits ranges).testBit n = true ↔ ∃ range ∈ ranges, range.1 ≤ n ∧ n ≤ range.2 := by
  induction ranges with
  | nil => simp [bits]
  | cons range rest ih =>
    have hcons : bits (range :: rest) =
        bits rest ||| (1 <<< (range.2 + 1 - range.1) - 1) <<< range.1 := rfl
    have hrange : ((1 <<< (range.2 + 1 - range.1) - 1) <<< range.1).testBit n = true ↔
        range.1 ≤ n ∧ n ≤ range.2 := by
      simp only [Nat.testBit_shiftLeft, Nat.one_shiftLeft, Nat.testBit_two_pow_sub_one,
        Bool.and_eq_true, decide_eq_true_eq]
      omega
    rw [hcons, Nat.testBit_or, Bool.or_eq_true, ih, hrange]
    simp [or_comm]

/-- Sets without a common bit have no common code point. -/
theorem apart_of_land {left right : List (Nat × Nat)} (h : bits left &&& bits right = 0)
    {n : Nat} (hleft : ∃ range ∈ left, range.1 ≤ n ∧ n ≤ range.2) :
    ¬ ∃ range ∈ right, range.1 ≤ n ∧ n ≤ range.2 := by
  intro hright
  have hboth : (bits left &&& bits right).testBit n = true := by
    rw [Nat.testBit_and, (testBit_bits left n).mpr hleft, (testBit_bits right n).mpr hright]
    rfl
  rw [h, Nat.zero_testBit] at hboth
  exact Bool.noConfusion hboth

theorem exists_of_inRanges {ranges : List (Nat × Nat)} {n : Nat} (h : inRanges n ranges = true) :
    ∃ range ∈ ranges, range.1 ≤ n ∧ n ≤ range.2 := by
  induction ranges with
  | nil => simp [inRanges] at h
  | cons range rest ih =>
    simp only [inRanges] at h
    split at h
    · simp at h
    · split at h
      · exact ⟨range, by simp, by omega, by assumption⟩
      · obtain ⟨other, hmem, hbounds⟩ := ih h
        exact ⟨other, by simp [hmem], hbounds⟩

/-! ## Small letters and capitals -/

theorem lowercase_apart_uppercase : bits lowercaseRanges &&& bits uppercaseRanges = 0 := by
  decide +kernel

theorem isUppercase_of_isLowercase {c : Char} (h : isLowercase c = true) :
    isUppercase c = false := by
  by_cases hascii : c.toNat < 0x80
  · exact (asciiCase hascii).isUppercase_of_isLowercase h
  · simp only [isLowercase, isUppercase, if_neg hascii] at h ⊢
    have hnot := apart_of_land lowercase_apart_uppercase (exists_of_inRanges h)
    exact Bool.eq_false_iff.mpr fun hupper => hnot (exists_of_inRanges hupper)

/-! ## Moved code points -/

/-- Single code points as ranges. -/
def singles (points : List Nat) : List (Nat × Nat) := points.map fun n => (n, n)

theorem exists_singles {points : List Nat} {n : Nat} :
    (∃ range ∈ singles points, range.1 ≤ n ∧ n ≤ range.2) ↔ n ∈ points := by
  constructor
  · rintro ⟨range, hmem, hlow, hhigh⟩
    obtain ⟨m, hm, rfl⟩ := List.mem_map.mp hmem
    obtain rfl : m = n := Nat.le_antisymm hlow hhigh
    exact hm
  · intro hn
    exact ⟨(n, n), List.mem_map.mpr ⟨n, hn, rfl⟩, Nat.le_refl n, Nat.le_refl n⟩

theorem testBit_singles (points : List Nat) (n : Nat) :
    (bits (singles points)).testBit n = true ↔ n ∈ points :=
  (testBit_bits _ n).trans exists_singles

/-- The code points that lowercasing moves, and those that it gives. -/
def movedPoints : List Nat := lowercaseShifts.flatMap CaseShift.points

def targetPoints : List Nat :=
  lowercaseShifts.flatMap fun rule => rule.points.map rule.target

theorem target_apart_moved : bits (singles targetPoints) &&& bits (singles movedPoints) = 0 := by
  decide +kernel

theorem target_apart_uppercase : bits (singles targetPoints) &&& bits uppercaseRanges = 0 := by
  decide +kernel

/-- A character that lowercasing leaves alone and that is no capital. -/
structure IsSmall (x : Char) : Prop where
  toLowercase_eq : toLowercase x = [x]
  isUppercase_eq : isUppercase x = false

theorem CaseShift.toNat_target {rule : CaseShift} {n : Nat} (hmem : rule ∈ lowercaseShifts)
    (hfirst : rule.first ≤ n) (hlast : n ≤ rule.last) :
    (Char.ofNat (rule.target n)).toNat = rule.target n := by
  rcases isRegular_of_mem rule hmem with hregular | ⟨hlow, hhigh, hby⟩
  · exact toNat_ofNat hregular hfirst hlast
  · obtain rfl : n = kelvin := by omega
    rw [target, hby]
    decide

theorem isSmall_of_moved {rule : CaseShift} {n : Nat} (hmem : rule ∈ lowercaseShifts)
    (hn : n ∈ rule.points) (hfirst : rule.first ≤ n) (hlast : n ≤ rule.last) :
    IsSmall (Char.ofNat (rule.target n)) := by
  rcases isRegular_of_mem rule hmem with hregular | ⟨hlow, hhigh, hby⟩
  · have hpoint := CaseShift.toNat_target hmem hfirst hlast
    obtain ⟨-, hbeyond, -, hnot⟩ := CaseShift.isRegular_iff.mp hregular
    have hascii : ¬ rule.target n < 0x80 := by
      unfold CaseShift.target
      omega
    have hdotted : Char.ofNat (rule.target n) ≠ 'İ' := by
      intro heq
      have hcode : rule.target n = 0x130 := hpoint ▸ congrArg Char.toNat heq
      unfold CaseShift.target at hcode
      omega
    have htarget : rule.target n ∈ targetPoints :=
      List.mem_flatMap.mpr ⟨rule, hmem, List.mem_map.mpr ⟨n, hn, rfl⟩⟩
    have hin := exists_singles.mpr htarget
    constructor
    · have hstays : shiftCase (rule.target n) lowercaseShifts = rule.target n := by
        refine (shiftCase_cases _ _).resolve_right ?_
        rintro ⟨other, hother, hmoved, -⟩
        exact apart_of_land target_apart_moved hin
          (exists_singles.mpr (List.mem_flatMap.mpr ⟨other, hother, hmoved⟩))
      rw [toLowercase, hpoint, if_neg hascii, if_neg hdotted, hstays]
    · rw [isUppercase, hpoint, if_neg hascii]
      exact Bool.eq_false_iff.mpr fun hupper =>
        apart_of_land target_apart_uppercase hin (exists_of_inRanges hupper)
  · obtain rfl : n = kelvin := by omega
    have hk : rule.target kelvin = 'k'.toNat := by
      rw [CaseShift.target, hby]
      decide
    rw [hk, Char.ofNat_toNat]
    exact ⟨by decide, by decide⟩

/-! ## Lowercasing twice -/

theorem toLowercase_cases {c x : Char} (h : x ∈ toLowercase c) :
    x = c ∧ toLowercase c = [c] ∨ c.toNat < 0x80 ∧ x = c.toLower ∨
      c = 'İ' ∧ (x = 'i' ∨ x = '\u0307') ∨
      ∃ rule ∈ lowercaseShifts, c.toNat ∈ rule.points ∧ rule.first ≤ c.toNat ∧
        c.toNat ≤ rule.last ∧ x = Char.ofNat (rule.target c.toNat) := by
  by_cases hascii : c.toNat < 0x80
  · exact .inr (.inl ⟨hascii, by simpa [toLowercase_of_ascii hascii] using h⟩)
  · by_cases hdotted : c = 'İ'
    · exact .inr (.inr (.inl ⟨hdotted, by simpa [toLowercase, hascii, hdotted] using h⟩))
    · have heq : toLowercase c = [Char.ofNat (shiftCase c.toNat lowercaseShifts)] := by
        simp [toLowercase, hascii, hdotted]
      obtain rfl : x = Char.ofNat (shiftCase c.toNat lowercaseShifts) := by simpa [heq] using h
      rcases shiftCase_cases c.toNat lowercaseShifts with
        hsame | ⟨rule, hmem, hpoint, hfirst, hlast, htarget⟩
      · rw [hsame, Char.ofNat_toNat] at heq ⊢
        exact .inl ⟨rfl, heq⟩
      · exact .inr (.inr (.inr ⟨rule, hmem, hpoint, hfirst, hlast, by rw [htarget]⟩))

/-- What lowercasing gives is small, or it is the character itself, which is then left alone. -/
theorem eq_or_isSmall_of_mem_toLowercase {c x : Char} (h : x ∈ toLowercase c) :
    x = c ∧ toLowercase c = [c] ∨ IsSmall x := by
  rcases toLowercase_cases h with hsame | ⟨hascii, rfl⟩ | ⟨-, rfl | rfl⟩ |
    ⟨rule, hmem, hpoint, hfirst, hlast, rfl⟩
  · exact .inl hsame
  · exact .inr ⟨(asciiCase hascii).toLowercase_toLower, (asciiCase hascii).isUppercase_toLower⟩
  · exact .inr ⟨by decide, by decide⟩
  · have hdot : toLowercase '\u0307' = ['\u0307'] ∧ isUppercase '\u0307' = false := by
      decide
    exact .inr ⟨hdot.1, hdot.2⟩
  · exact .inr (isSmall_of_moved hmem hpoint hfirst hlast)

theorem toLowercase_of_mem_toLowercase {c x : Char} (h : x ∈ toLowercase c) :
    toLowercase x = [x] := by
  rcases eq_or_isSmall_of_mem_toLowercase h with ⟨rfl, hsame⟩ | hsmall
  · exact hsame
  · exact hsmall.toLowercase_eq

/-- A capital is given by lowercasing only for itself. -/
theorem toLowercase_of_isUppercase {c x : Char} (h : x ∈ toLowercase c)
    (hupper : isUppercase x = true) : x = c ∧ toLowercase c = [c] :=
  (eq_or_isSmall_of_mem_toLowercase h).resolve_right fun hsmall =>
    Bool.false_ne_true (hsmall.isUppercase_eq.symm.trans hupper)

end TidyCsv.Unicode
