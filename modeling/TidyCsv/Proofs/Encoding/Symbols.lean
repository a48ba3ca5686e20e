import TidyCsv.Proofs.Encoding.Scores
import Mathlib.Data.List.TakeDrop

/-! # Samples with symbols

The bytes of the signs for currencies and units in windows-1252 are letters in the other code pages.
Where all that is beyond ASCII are such signs, each at a neutral position, no page gains anything by
its letters and words can only take from its score. As windows-1252, no word takes anything either,
so that no page has a score above the one of windows-1252, which wins ties. -/

namespace TidyCsv.Detection

open CodePage Plausibility Unicode

variable {sample before after bytes : Bytes} {b : UInt8}

/-! ## Neutral symbols that stand apart -/

/-- Whether a byte is a letter of windows-1252. -/
def isWesternLetter (b : UInt8) : Bool := isAlphabetic (windows1252.decodeByte b)

/-- If a byte is beyond ASCII, it stands for a neutral symbol of windows-1252 and is not between two
letters. -/
def IsSymbolBetween (before : Bytes) (b : UInt8) (after : Bytes) : Prop :=
  ¬ b < 0x80 → windows1252.decodeByte b ∈ neutralSymbols ∧
    ¬ (before.getLast?.any isWesternLetter = true ∧ after.head?.any isWesternLetter = true)

/-- All bytes beyond ASCII stand for such symbols. -/
def HasOnlySymbols (sample : Bytes) : Prop :=
  ∀ before b after, sample = before ++ b :: after → IsSymbolBetween before b after

theorem hasOnlySymbols_iff :
    HasOnlySymbols sample ↔ ∀ i : Fin sample.length,
      IsSymbolBetween (sample.take i) sample[i] (sample.drop (i + 1)) := by
  constructor
  · intro h i
    refine h _ _ _ ?_
    rw [Fin.getElem_fin, List.cons_getElem_drop_succ, List.take_append_drop]
  · rintro h before b after rfl
    simpa using h ⟨before.length, by simp⟩

instance (before : Bytes) (b : UInt8) (after : Bytes) :
    Decidable (IsSymbolBetween before b after) :=
  inferInstanceAs (Decidable (¬ b < 0x80 → _ ∧ ¬ (_ ∧ _)))

instance : DecidablePred HasOnlySymbols := fun _ => decidable_of_iff _ hasOnlySymbols_iff.symm

theorem HasOnlySymbols.isNeutral (h : HasOnlySymbols sample)
    (hsample : sample = before ++ b :: after) (hb : ¬ b < 0x80) :
    isNeutralSymbol (windows1252.decodeByte b) = true ∧
      isWedged (before.getLast?.map windows1252.decodeByte) (windows1252.decode after).head? =
        false := by
  obtain ⟨hsymbol, hapart⟩ := h before b after hsample hb
  refine ⟨List.contains_iff_mem.mpr hsymbol, ?_⟩
  rw [CodePage.decode, List.head?_map, isWedged, Option.any_map, Option.any_map, Bool.eq_false_iff,
    ne_eq, Bool.and_eq_true]
  exact hapart

/-! ## Scores of such samples -/

/-- Under every page, the characters of the rest of such a sample count for nothing. -/
theorem HasOnlySymbols.characterScore_eq_zero (before : Bytes)
    (h : HasOnlySymbols (before ++ bytes)) (page : CodePage) :
    characterScore (page.decode bytes)
      (neutralFrom (before.getLast?.map windows1252.decodeByte) (windows1252.decode bytes)) =
        0 := by
  induction bytes generalizing before with
  | nil => rfl
  | cons b rest ih =>
    have hrest := ih (before ++ [b]) (by simpa using h)
    rw [List.getLast?_concat, Option.map_some] at hrest
    have hsplit : ∀ page : CodePage, page.decode (b :: rest) =
        page.decodeByte b :: page.decode rest := fun _ => rfl
    rw [hsplit, hsplit, neutralFrom, characterScore_cons, hrest, Int.add_zero]
    by_cases hb : b < 0x80
    · rw [weight_of_lt (toNat_decodeByte_of_lt page hb), ite_self]
    · obtain ⟨hsymbol, hapart⟩ := h.isNeutral rfl hb
      simp [hsymbol, hapart]

theorem HasOnlySymbols.pageScore_eq_neg (h : HasOnlySymbols sample) (page : CodePage) :
    pageScore sample page = -penalty (page.decode sample) := by
  have hcharacters := HasOnlySymbols.characterScore_eq_zero [] h page
  rw [List.getLast?_nil, Option.map_none] at hcharacters
  rw [pageScore_eq, score_eq, hcharacters, Int.zero_sub]

theorem HasOnlySymbols.pageScore_le (h : HasOnlySymbols sample) (page : CodePage) :
    pageScore sample page ≤ 0 := by
  rw [h.pageScore_eq_neg]
  exact Int.neg_nonpos_of_nonneg (penalty_nonneg _)

/-- As windows-1252, no word of such a sample is implausible. -/
theorem HasOnlySymbols.pageScore_western (h : HasOnlySymbols sample) :
    pageScore sample .windows1252 = 0 := by
  have hwords : penalty (windows1252.decode sample) = 0 := by
    refine penalty_of_symbols fun c hc => ?_
    obtain ⟨b, hb, rfl⟩ := List.mem_map.mp hc
    obtain ⟨before, after, hsample⟩ := List.append_of_mem hb
    by_cases hascii : b < 0x80
    · exact .inl (toNat_decodeByte_of_lt _ hascii)
    · exact .inr (h.isNeutral hsample hascii).1
  rw [h.pageScore_eq_neg, hwords, Int.neg_zero]

theorem ofScores_of_le (hwestern : pageScore sample .windows1252 = 0)
    (h : ∀ page, pageScore sample page ≤ 0) :
    ofScores sample = .ok (.codePage .windows1252) := by
  have hcentral : ¬ 0 < pageScore sample .windows1250 := Int.not_lt.mpr (h _)
  have hcyrillic : ¬ 0 < pageScore sample .windows1251 := Int.not_lt.mpr (h _)
  simp [ofScores, bestPage, hwestern, hcentral, hcyrillic]

theorem ofMark?_eq_none (hutf8 : ¬ Bytes.utf8Mark <+: sample)
    (hutf16 : ∀ order : Utf16.ByteOrder, ¬ order.mark <+: sample) : ofMark? sample = none := by
  simp only [← List.isPrefixOf_iff_prefix] at hutf8 hutf16
  simp [ofMark?, hutf8, hutf16]

/-- A sample with symbols beside numbers and words, and with nothing else beyond ASCII, is in
windows-1252, although the same bytes are letters in the other pages. -/
theorem detect_symbols (hutf8Mark : ¬ Bytes.utf8Mark <+: sample)
    (hutf16Mark : ∀ order : Utf16.ByteOrder, ¬ order.mark <+: sample) (hnul : 0 ∉ sample)
    (hcontrol : sample.countP isControl * 100 ≤ sample.length * 10)
    (hascii : Bytes.isAscii sample = false) (hutf8 : ¬ Utf8.Valid sample)
    (hshort : sample.length < sampleSize) (hsymbols : HasOnlySymbols sample) :
    detect sample = .ok (.codePage .windows1252) := by
  have hscored : IsScored sample := by
    refine ⟨ofMark?_eq_none hutf8Mark hutf16Mark, hnul, ?_, hascii, ?_⟩
    · exact decide_eq_false (Nat.not_lt.mpr hcontrol)
    · rw [Bool.eq_false_iff, ne_eq, isUtf8_iff]
      rintro (hvalid | ⟨-, hlong⟩)
      · exact hutf8 hvalid
      · exact absurd hlong (Nat.not_le_of_lt hshort)
  rw [hscored.detect_eq, ofScores_of_le hsymbols.pageScore_western hsymbols.pageScore_le]

/-- The symbols of `5µm,£¾ª`, of which the last two belong to a word. As windows-1251 the bytes from
the pound sign on are letters. -/
theorem detect_symbols_of_units :
    let sample : Bytes := [0x35, 0xB5, 0x6D, 0x2C, 0xA3, 0xBE, 0xAA, 0x0A]
    windows1252.decode sample = "5µm,£¾ª\n".toList ∧
      windows1251.decode sample = "5µm,ЈѕЄ\n".toList ∧
      ¬ Bytes.utf8Mark <+: sample ∧ (∀ order : Utf16.ByteOrder, ¬ order.mark <+: sample) ∧
      0 ∉ sample ∧ sample.countP isControl * 100 ≤ sample.length * 10 ∧
      Bytes.isAscii sample = false ∧ ¬ Utf8.Valid sample ∧ sample.length < sampleSize ∧
      HasOnlySymbols sample ∧ detect sample = .ok (.codePage .windows1252) := by
  intro sample
  have hutf8Mark : ¬ Bytes.utf8Mark <+: sample := by decide
  have hutf16Mark : ∀ order : Utf16.ByteOrder, ¬ order.mark <+: sample := by
    intro order
    cases order <;> decide
  have hnul : 0 ∉ sample := by decide
  have hcontrol : sample.countP isControl * 100 ≤ sample.length * 10 := by decide
  have hascii : Bytes.isAscii sample = false := by decide
  have hutf8 : ¬ Utf8.Valid sample := by decide
  have hshort : sample.length < sampleSize := by decide
  have hsymbols : HasOnlySymbols sample := by decide +kernel
  exact ⟨by decide +kernel, by decide +kernel, hutf8Mark, hutf16Mark, hnul, hcontrol, hascii, hutf8,
    hshort, hsymbols,
    detect_symbols hutf8Mark hutf16Mark hnul hcontrol hascii hutf8 hshort hsymbols⟩

end TidyCsv.Detection
