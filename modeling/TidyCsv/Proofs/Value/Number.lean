import TidyCsv.Value.Number
import TidyCsv.Value.Token
import Mathlib.Data.List.Basic
import Mathlib.Data.List.TakeWhile

/-! # How integers and floats are written

Decimal digits without a leading zero are the digits of exactly one number. So a text is an integer
if it writes down a number in the range of 64 bits: its digits, with or without a sign. Every such
text is a float as well, and no float is a truth value. -/

namespace TidyCsv.Value

/-! ## Decimal digits -/

theorem digitsValue_eq (digits : List Char) :
    digitsValue digits = Nat.ofDigitChars 10 digits 0 := by
  simp only [digitsValue, Nat.ofDigitChars, Nat.mul_comm]

theorem digitsValue_toDigits (n : Nat) : digitsValue (Nat.toDigits 10 n) = n := by
  rw [digitsValue_eq, Nat.ofDigitChars_toDigits (by decide) (by decide)]

theorem isDigits_toDigits (n : Nat) : isDigits (Nat.toDigits 10 n) = true := by
  have hdigit : ∀ c ∈ Nat.toDigits 10 n, c.isDigit = true := fun c =>
    Nat.isDigit_of_mem_toDigits (by decide) (by decide)
  simpa [isDigits, Nat.toDigits_ne_nil] using hdigit

theorem toNat_of_isDigit {c : Char} (h : c.isDigit = true) :
    '0'.toNat ≤ c.toNat ∧ c.toNat < '0'.toNat + 10 := by
  have hrange : 48 ≤ c.toNat ∧ c.toNat ≤ 57 := by
    simpa [Char.isDigit, UInt32.le_iff_toNat_le] using h
  have hzero : '0'.toNat = 48 := rfl
  omega

theorem exists_digit {c : Char} (h : c.isDigit = true) :
    ∃ d, d < 10 ∧ c.toNat - '0'.toNat = d ∧ Nat.toDigits 10 d = [c] := by
  obtain ⟨hleast, hgreatest⟩ := toNat_of_isDigit h
  have hsmall : c.toNat - '0'.toNat < 10 := by omega
  refine ⟨_, hsmall, rfl, ?_⟩
  rw [Nat.toDigits_of_lt_base hsmall, List.singleton_inj]
  apply Char.toNat_inj.mp
  rw [Nat.toNat_digitChar_of_lt_ten hsmall]
  exact Nat.add_sub_cancel' hleast

/-- Digits that follow those of a number other than zero are the last digits of another one. -/
theorem toDigits_ofDigitChars {digits : List Char} {n : Nat} (hn : 0 < n)
    (h : ∀ c ∈ digits, c.isDigit = true) :
    Nat.toDigits 10 (Nat.ofDigitChars 10 digits n) = Nat.toDigits 10 n ++ digits := by
  induction digits generalizing n with
  | nil => simp
  | cons c rest ih =>
    obtain ⟨hc, hrest⟩ := List.forall_mem_cons.mp h
    obtain ⟨d, hd, hvalue, hdigits⟩ := exists_digit hc
    calc Nat.toDigits 10 (Nat.ofDigitChars 10 (c :: rest) n)
        = Nat.toDigits 10 (Nat.ofDigitChars 10 rest (10 * n + d)) := by
          rw [Nat.ofDigitChars_cons, hvalue]
      _ = Nat.toDigits 10 (10 * n + d) ++ rest := ih (by omega) hrest
      _ = Nat.toDigits 10 n ++ Nat.toDigits 10 d ++ rest := by
          rw [Nat.toDigits_append_toDigits (by decide) hn hd]
      _ = Nat.toDigits 10 n ++ c :: rest := by
          rw [hdigits, List.append_assoc, List.singleton_append]

/-- The digits of a number are given back by its value if they do not open with a superfluous
zero. -/
theorem toDigits_digitsValue {digits : List Char} (h : isDigits digits = true)
    (hzero : hasLeadingZero digits = false) : Nat.toDigits 10 (digitsValue digits) = digits := by
  rw [digitsValue_eq]
  cases digits with
  | nil => simp [isDigits] at h
  | cons c rest =>
    have hall : ∀ d ∈ c :: rest, d.isDigit = true := by simpa [isDigits] using h
    obtain ⟨hc, hrest⟩ := List.forall_mem_cons.mp hall
    obtain ⟨d, hd, hvalue, hdigits⟩ := exists_digit hc
    rw [Nat.ofDigitChars_cons, hvalue, Nat.mul_zero, Nat.zero_add]
    rcases Nat.eq_zero_or_pos d with rfl | hpos
    · -- a zero stands alone
      obtain rfl : '0' = c := by simpa using hdigits
      cases rest with
      | nil => rfl
      | cons next rest => simp [hasLeadingZero] at hzero
    · rw [toDigits_ofDigitChars hpos hrest, hdigits, List.singleton_append]

theorem head?_toDigits_ne {n : Nat} (hn : 0 < n) : (Nat.toDigits 10 n).head? ≠ some '0' := by
  induction n using Nat.strongRecOn with
  | ind n ih =>
    rcases Nat.lt_or_ge n 10 with hsmall | hlarge
    · rw [Nat.toDigits_of_lt_base hsmall]
      intro h
      obtain hchar : n.digitChar = '0' := by simpa using h
      have hvalue := Nat.toNat_digitChar_of_lt_ten hsmall
      rw [hchar] at hvalue
      have hzero : '0'.toNat = 48 := rfl
      omega
    · rw [Nat.toDigits_of_base_le (by decide) hlarge,
        List.head?_append_of_ne_nil _ Nat.toDigits_ne_nil]
      exact ih (n / 10) (by omega) (by omega)

theorem hasLeadingZero_toDigits (n : Nat) : hasLeadingZero (Nat.toDigits 10 n) = false := by
  rcases Nat.eq_zero_or_pos n with rfl | hpos
  · rfl
  · have hhead := head?_toDigits_ne hpos
    cases h : Nat.toDigits 10 n with
    | nil => rfl
    | cons c rest =>
      have hc : c ≠ '0' := by simpa [h] using hhead
      simp [hasLeadingZero, hc]

/-! ## Integers -/

/-- The ways to write down a number: its decimal digits without leading zeros, after a sign or,
unless it is negative, without one. Zero may have either sign. -/
inductive Denotes : List Char → Int → Prop where
  | bare (n : Nat) : Denotes (Nat.toDigits 10 n) n
  | plus (n : Nat) : Denotes ('+' :: Nat.toDigits 10 n) n
  | minus (n : Nat) : Denotes ('-' :: Nat.toDigits 10 n) (-n)

theorem dropSign_toDigits (n : Nat) : dropSign (Nat.toDigits 10 n) = Nat.toDigits 10 n := by
  have hdigits := isDigits_toDigits n
  unfold dropSign
  split
  · next h => simp [h, isDigits] at hdigits
  · next h => simp [h, isDigits] at hdigits
  · rfl

theorem head?_toDigits_beq_minus (n : Nat) :
    ((Nat.toDigits 10 n).head? == some '-') = false := by
  rw [beq_eq_false_iff_ne]
  intro h
  obtain ⟨rest, hrest⟩ := List.head?_eq_some_iff.mp h
  have hdigits := isDigits_toDigits n
  simp [hrest, isDigits] at hdigits

theorem isInteger_iff_toDigits {text : List Char} :
    isInteger text = true ↔
      ∃ n, dropSign text = Nat.toDigits 10 n ∧ n < magnitudeLimit (text.head? == some '-') := by
  simp only [isInteger, isInt64, Bool.and_eq_true, Bool.not_eq_true', decide_eq_true_eq]
  constructor
  · rintro ⟨hzero, hdigits, hlimit⟩
    exact ⟨_, (toDigits_digitsValue hdigits hzero).symm, hlimit⟩
  · rintro ⟨n, hn, hlimit⟩
    rw [hn, digitsValue_toDigits]
    exact ⟨hasLeadingZero_toDigits n, isDigits_toDigits n, hlimit⟩

/-- Integers are the texts that write down a number of 64 bits. -/
theorem isInteger_iff_denotes (text : List Char) :
    isInteger text = true ↔
      ∃ value, Denotes text value ∧ Int64.minValue.toInt ≤ value ∧
        value ≤ Int64.maxValue.toInt := by
  have hunsigned : magnitudeLimit false = 2 ^ 63 := rfl
  rw [isInteger_iff_toDigits, Int64.toInt_minValue, Int64.toInt_maxValue]
  constructor
  · rintro ⟨n, hn, hlimit⟩
    unfold dropSign at hn
    split at hn
    · subst hn
      have hsmall : n < 2 ^ 63 := hlimit
      exact ⟨n, .plus n, by omega, by omega⟩
    · subst hn
      have hsmall : n < 2 ^ 63 + 1 := hlimit
      exact ⟨-n, .minus n, by omega, by omega⟩
    · subst hn
      rw [head?_toDigits_beq_minus, hunsigned] at hlimit
      exact ⟨n, .bare n, by omega, by omega⟩
  · rintro ⟨value, hvalue, hleast, hgreatest⟩
    cases hvalue with
    | bare n =>
      refine ⟨n, dropSign_toDigits n, ?_⟩
      rw [head?_toDigits_beq_minus, hunsigned]
      omega
    | plus n =>
      have hsmall : n < 2 ^ 63 := by omega
      exact ⟨n, rfl, hsmall⟩
    | minus n =>
      have hsmall : n < 2 ^ 63 + 1 := by omega
      exact ⟨n, rfl, hsmall⟩

/-! ## Floats -/

theorem isUnsignedFloat_of_isDigits {digits : List Char} (h : isDigits digits = true) :
    isUnsignedFloat digits = true := by
  obtain ⟨hne, hall⟩ : digits ≠ [] ∧ ∀ c ∈ digits, c.isDigit = true := by simpa [isDigits] using h
  have htake : digits.takeWhile Char.isDigit = digits := List.takeWhile_eq_self_iff.mpr hall
  have hdrop : digits.dropWhile Char.isDigit = [] := List.dropWhile_eq_nil_iff.mpr hall
  simp [isUnsignedFloat, htake, hdrop, hne, isExponent]

theorem isFloat_of_isInteger {text : List Char} (h : isInteger text = true) :
    isFloat text = true := by
  obtain ⟨n, hn, -⟩ := isInteger_iff_toDigits.mp h
  rw [isFloat, hn]
  exact isUnsignedFloat_of_isDigits (isDigits_toDigits n)

theorem mem_of_mem_dropSign {text : List Char} {c : Char} (h : c ∈ dropSign text) : c ∈ text := by
  unfold dropSign at h
  split at h
  · exact List.mem_cons_of_mem _ h
  · exact List.mem_cons_of_mem _ h
  · exact h

theorem exists_digit_of_isUnsignedFloat {text : List Char} (h : isUnsignedFloat text = true) :
    ∃ c ∈ text, c.isDigit = true := by
  have htaken : ∀ part : List Char, part.takeWhile Char.isDigit ≠ [] →
      ∃ c ∈ part, c.isDigit = true := by
    intro part hne
    obtain ⟨c, hc⟩ := List.exists_mem_of_ne_nil _ hne
    exact ⟨c, (List.takeWhile_sublist _).subset hc, List.mem_takeWhile_imp hc⟩
  unfold isUnsignedFloat at h
  dsimp only at h
  split at h
  · next rest hpoint =>
    simp only [Bool.and_eq_true, Bool.not_eq_true', Bool.and_eq_false_iff] at h
    rcases h.1 with hwhole | hfraction
    · exact htaken text (by simpa using hwhole)
    · obtain ⟨c, hc, hdigit⟩ := htaken rest (by simpa using hfraction)
      have hmem : c ∈ text.dropWhile Char.isDigit := by
        rw [hpoint]
        exact List.mem_cons_of_mem _ hc
      exact ⟨c, (List.dropWhile_sublist _).subset hmem, hdigit⟩
  · simp only [Bool.and_eq_true, Bool.not_eq_true'] at h
    exact htaken text (by simpa using h.1)

/-- The words for truth values have no digits. -/
theorem isBoolean_eq_false_of_isFloat {text : List Char} (h : isFloat text = true) :
    isBoolean text = false := by
  obtain ⟨c, hc, hdigit⟩ := exists_digit_of_isUnsignedFloat h
  have hwords : booleanWords.all (fun word => word.toList.all fun d => !d.isDigit) = true := by
    decide
  have hlower : c.toLower = c := by
    refine dif_neg fun hcapital => ?_
    have hleast : 'A'.toNat ≤ c.toNat := UInt32.le_iff_toNat_le.mp hcapital.1
    have hgreatest := (toNat_of_isDigit hdigit).2
    exact absurd (Nat.lt_of_le_of_lt hleast hgreatest) (by decide)
  rw [Bool.eq_false_iff, ne_eq, isBoolean, List.any_eq_true]
  rintro ⟨word, hword, heq⟩
  have hmem : c ∈ word.toList := by
    rw [beq_iff_eq.mp heq]
    exact List.mem_map.mpr ⟨c, mem_of_mem_dropSign hc, hlower⟩
  have hletter := List.all_eq_true.mp (List.all_eq_true.mp hwords word hword) c hmem
  simp [hdigit] at hletter

end TidyCsv.Value
