import TidyCsv.Encoding.Detection
import TidyCsv.Encoding.Label
import TidyCsv.Proofs.Text.Decoding

/-! # What a verdict says

A file is taken as it is if its first bytes are found to be ASCII or UTF-8. Each of the two verdicts
is a property of the sample alone. So a file that the sample holds whole is UTF-8 then, but of a
longer one only the sample has been looked at. -/

namespace TidyCsv.Detection

/-! ## The two verdicts that ask for no conversion -/

/-- A file with such a verdict is read as it is. -/
def Verdict.IsPlain (verdict : Verdict) : Prop := verdict = .ascii ∨ verdict = .utf8

theorem needsConversion_label_eq_false_iff {verdict : Verdict} :
    Encoding.needsConversion verdict.label = false ↔ verdict.IsPlain := by
  have hall : Encoding.needsConversion Verdict.ascii.label = false ∧
      Encoding.needsConversion Verdict.utf8.label = false ∧
      Encoding.needsConversion Verdict.markedUtf8.label = true ∧
      (∀ order ∈ [Utf16.ByteOrder.littleEndian, .bigEndian],
        Encoding.needsConversion (Verdict.utf16 order).label = true) ∧
      ∀ page ∈ [CodePage.windows1250, .windows1251, .windows1252],
        Encoding.needsConversion (Verdict.codePage page).label = true := by
    decide
  obtain ⟨hascii, hutf8, hmarked, hutf16, hpages⟩ := hall
  cases verdict with
  | ascii => simp [hascii, Verdict.IsPlain]
  | utf8 => simp [hutf8, Verdict.IsPlain]
  | markedUtf8 => simp [hmarked, Verdict.IsPlain]
  | utf16 order => cases order <;> simp [hutf16, Verdict.IsPlain]
  | codePage page => cases page <;> simp [hpages, Verdict.IsPlain]

variable {sample : Bytes} {verdict : Verdict}

theorem not_isPlain_of_ofMark? (h : ofMark? sample = some verdict) : ¬ verdict.IsPlain := by
  unfold ofMark? at h
  split at h
  · simp [← Option.some.inj h, Verdict.IsPlain]
  · split at h
    · simp [← Option.some.inj h, Verdict.IsPlain]
    · split at h
      · simp [← Option.some.inj h, Verdict.IsPlain]
      · simp at h

theorem not_isPlain_of_ofNulLayout? (h : ofNulLayout? sample = some verdict) :
    ¬ verdict.IsPlain := by
  unfold ofNulLayout? at h
  dsimp only at h
  split at h
  · simp at h
  · split at h
    · simp [← Option.some.inj h, Verdict.IsPlain]
    · split at h
      · simp [← Option.some.inj h, Verdict.IsPlain]
      · simp at h

theorem not_isPlain_of_ofScores (h : ofScores sample = .ok verdict) : ¬ verdict.IsPlain := by
  unfold ofScores at h
  dsimp only at h
  split at h
  · simp [← Except.ok.inj h, Verdict.IsPlain]
  · simp at h

/-- What detection has found out by the time that it gives such a verdict. -/
theorem detect_plain (h : detect sample = .ok verdict) (hplain : verdict.IsPlain) :
    sample ≠ [] ∧ ofMark? sample = none ∧ 0 ∉ sample ∧ isMostlyControl sample = false ∧
      (verdict = .ascii ∧ Bytes.isAscii sample = true ∨
        verdict = .utf8 ∧ Bytes.isAscii sample = false ∧ isUtf8 sample = true) := by
  unfold detect at h
  split at h
  · simp at h
  · next hempty =>
      split at h
      · next hmark =>
          obtain rfl := Except.ok.inj h
          exact absurd hplain (not_isPlain_of_ofMark? hmark)
      · next hmark =>
          split at h
          · split at h
            · next hlayout =>
                obtain rfl := Except.ok.inj h
                exact absurd hplain (not_isPlain_of_ofNulLayout? hlayout)
            · simp at h
          · next hnul =>
              split at h
              · simp at h
              · next hcontrol =>
                  refine ⟨by simpa using hempty, hmark, by simpa using hnul,
                    by simpa using hcontrol, ?_⟩
                  split at h
                  · next hascii => exact .inl ⟨(Except.ok.inj h).symm, hascii⟩
                  · next hascii =>
                      split at h
                      · next hutf8 =>
                          exact .inr ⟨(Except.ok.inj h).symm, by simpa using hascii, hutf8⟩
                      · exact absurd hplain (not_isPlain_of_ofScores h)

theorem ofMark?_eq_none_of_isAscii (h : Bytes.isAscii sample = true) : ofMark? sample = none := by
  have hmark : ∀ {first : UInt8} {rest : Bytes}, ¬ first < 0x80 →
      (first :: rest).isPrefixOf sample = false := by
    intro first rest hfirst
    cases sample with
    | nil => rfl
    | cons b tail =>
        have hb : b < 0x80 := by
          simp only [Bytes.isAscii, List.all_cons, Bool.and_eq_true, decide_eq_true_eq] at h
          exact h.1
        have hne : first ≠ b := by
          rintro rfl
          exact hfirst hb
        simp [List.isPrefixOf, hne]
  have hutf8 : Bytes.utf8Mark.isPrefixOf sample = false := hmark (by decide)
  have hlittle : (Utf16.ByteOrder.mark .littleEndian).isPrefixOf sample = false :=
    hmark (by decide)
  have hbig : (Utf16.ByteOrder.mark .bigEndian).isPrefixOf sample = false := hmark (by decide)
  simp [ofMark?, hutf8, hlittle, hbig]

/-- A sample is found to be ASCII if it is, and is neither empty nor full of control characters. -/
theorem detect_eq_ascii_iff :
    detect sample = .ok .ascii ↔
      sample ≠ [] ∧ 0 ∉ sample ∧ isMostlyControl sample = false ∧ Bytes.isAscii sample = true := by
  constructor
  · intro h
    obtain ⟨hne, -, hnul, hcontrol, hfound⟩ := detect_plain h (.inl rfl)
    exact ⟨hne, hnul, hcontrol, by simpa using hfound⟩
  · rintro ⟨hne, hnul, hcontrol, hascii⟩
    simp [detect, hne, hnul, hcontrol, hascii, ofMark?_eq_none_of_isAscii hascii]

/-- A sample is found to be UTF-8 if it is, without a mark and with characters beyond ASCII, and is
not full of control characters. -/
theorem detect_eq_utf8_iff :
    detect sample = .ok .utf8 ↔
      ofMark? sample = none ∧ 0 ∉ sample ∧ isMostlyControl sample = false ∧
        Bytes.isAscii sample = false ∧ isUtf8 sample = true := by
  constructor
  · intro h
    obtain ⟨-, hmark, hnul, hcontrol, hfound⟩ := detect_plain h (.inr rfl)
    exact ⟨hmark, hnul, hcontrol, by simpa using hfound⟩
  · rintro ⟨hmark, hnul, hcontrol, hascii, hutf8⟩
    have hne : sample ≠ [] := by
      rintro rfl
      simp [Bytes.isAscii] at hascii
    simp [detect, hne, hmark, hnul, hcontrol, hascii, hutf8]

/-! ## The rest of a file -/

/-- A sample counts as UTF-8 if it is, or if it is full and cuts the last of its characters. -/
theorem isUtf8_iff :
    isUtf8 sample = true ↔ Utf8.Valid sample ∨
      (Utf8.read sample).2 = some .truncated ∧ sampleSize ≤ sample.length := by
  rw [Utf8.valid_iff_read]
  unfold isUtf8
  rcases (Utf8.read sample).2 with _ | ⟨consumed⟩ | _ <;> simp

/-- Wherever a sample ends, the sample of a content in UTF-8 counts as UTF-8: a sequence is cut only
where something follows, and then the sample is full. -/
theorem isUtf8_take {bytes : Bytes} (h : Utf8.Valid bytes) :
    isUtf8 (bytes.take sampleSize) = true := by
  rw [isUtf8_iff]
  rcases h.take sampleSize with hvalid | hcut
  · exact .inl hvalid
  · refine .inr ⟨hcut, ?_⟩
    by_cases hfull : sampleSize ≤ bytes.length
    · exact Nat.le_of_eq (List.length_take_of_le hfull).symm
    · rw [List.take_of_length_le (by omega), Utf8.valid_iff_read.mp h] at hcut
      simp at hcut

theorem ofMark?_take_eq_none {bytes : Bytes} (h : Utf8.Valid bytes)
    (hmark : ¬ Bytes.utf8Mark <+: bytes) (size : Nat) : ofMark? (bytes.take size) = none := by
  have hutf8 : Bytes.utf8Mark.isPrefixOf (bytes.take size) = false := by
    rw [Bool.eq_false_iff, ne_eq, List.isPrefixOf_iff_prefix]
    exact fun hsample => hmark (hsample.trans (List.take_prefix size bytes))
  have hutf16 : ∀ order, (Utf16.ByteOrder.mark order).isPrefixOf (bytes.take size) = false := by
    intro order
    rw [Bool.eq_false_iff, ne_eq, List.isPrefixOf_iff_prefix]
    intro hsample
    have hbyte : (0xFF : UInt8) ∈ Utf16.ByteOrder.mark order := by
      cases order <;> decide
    have hmem : (0xFF : UInt8) ∈ bytes :=
      (List.take_sublist size bytes).subset (hsample.subset hbyte)
    obtain ⟨text, rfl⟩ := h
    exact absurd (Utf8.toNat_le_of_mem_encode hmem) (by decide)
  simp [ofMark?, hutf8, hutf16]

/-- What is found for a content in UTF-8 without a mark, unless it looks binary. -/
theorem detect_take {bytes : Bytes} (h : Utf8.Valid bytes) (hne : bytes ≠ [])
    (hmark : ¬ Bytes.utf8Mark <+: bytes) (hnul : 0 ∉ bytes.take sampleSize)
    (hcontrol : isMostlyControl (bytes.take sampleSize) = false) :
    detect (bytes.take sampleSize) =
      .ok (if Bytes.isAscii (bytes.take sampleSize) then .ascii else .utf8) := by
  cases hascii : Bytes.isAscii (bytes.take sampleSize) with
  | true =>
      refine detect_eq_ascii_iff.mpr ⟨?_, hnul, hcontrol, hascii⟩
      simp [hne, sampleSize]
  | false =>
      exact detect_eq_utf8_iff.mpr
        ⟨ofMark?_take_eq_none h hmark sampleSize, hnul, hcontrol, hascii, isUtf8_take h⟩

/-- A content that is taken as it is because of its first bytes, although it is not UTF-8. -/
def Overlooked (bytes : Bytes) : Prop :=
  (∃ verdict, detect (bytes.take sampleSize) = .ok verdict ∧ verdict.IsPlain) ∧
    ¬ Utf8.Valid bytes

theorem overlooked_iff {bytes : Bytes}
    (h : detect (bytes.take sampleSize) = .ok verdict) :
    Overlooked bytes ↔ verdict.IsPlain ∧ ¬ Utf8.Valid bytes := by
  simp [Overlooked, h]

theorem Overlooked.sampleSize_le {bytes : Bytes} (h : Overlooked bytes) :
    sampleSize ≤ bytes.length := by
  obtain ⟨⟨verdict, hverdict, hplain⟩, hinvalid⟩ := h
  refine Nat.le_of_not_lt fun hshort => ?_
  rw [List.take_of_length_le (Nat.le_of_lt hshort)] at hverdict
  obtain ⟨-, -, -, -, ⟨-, hascii⟩ | ⟨-, -, hutf8⟩⟩ := detect_plain hverdict hplain
  · exact hinvalid (Utf8.valid_of_isAscii hascii)
  · rcases isUtf8_iff.mp hutf8 with hvalid | ⟨-, hfull⟩
    · exact hinvalid hvalid
    · exact Nat.not_le_of_lt hshort hfull

end TidyCsv.Detection
