import TidyCsv.Proofs.Encoding.CodePage
import TidyCsv.Proofs.Encoding.Detection
import TidyCsv.Proofs.Encoding.Plausibility

/-! # The choice among code pages

Where nothing else tells the encoding of a sample, the scores of its texts under the code pages do.
The score of a sample is the sum of the scores of its lines, to which lines of ASCII add nothing, so
that rows of ASCII have no part in the choice. -/

namespace TidyCsv.Detection

open CodePage Plausibility Unicode

variable {sample before rows after : Bytes} {b : UInt8}

/-! ## Samples that scores decide -/

/-- The answers that scores give: a code page, or that confidence is too low for any. -/
def IsByScore (answer : Except Refusal Verdict) : Prop :=
  (∃ page, answer = .ok (.codePage page)) ∨ answer = .error .lowConfidence

theorem isByScore_ofScores (sample : Bytes) : IsByScore (ofScores sample) := by
  unfold ofScores
  dsimp only
  split
  · exact .inl ⟨_, rfl⟩
  · exact .inr rfl

theorem not_isByScore_of_ofMark? {verdict : Verdict} (h : ofMark? sample = some verdict) :
    ¬ IsByScore (.ok verdict) := by
  unfold ofMark? at h
  split_ifs at h <;> simp [← Option.some.inj h, IsByScore]

theorem not_isByScore_of_ofNulLayout? {verdict : Verdict}
    (h : ofNulLayout? sample = some verdict) : ¬ IsByScore (.ok verdict) := by
  unfold ofNulLayout? at h
  dsimp only at h
  split_ifs at h <;> simp [← Option.some.inj h, IsByScore]

/-- What is known of a sample by the time that scores are asked. -/
structure IsScored (sample : Bytes) : Prop where
  unmarked : ofMark? sample = none
  no_nul : 0 ∉ sample
  not_control : isMostlyControl sample = false
  not_ascii : Bytes.isAscii sample = false
  not_utf8 : isUtf8 sample = false

theorem IsScored.detect_eq (h : IsScored sample) : detect sample = ofScores sample := by
  have hne : sample ≠ [] := by
    rintro rfl
    exact absurd h.not_ascii (by decide)
  simp [detect, hne, h.unmarked, h.no_nul, h.not_control, h.not_ascii, h.not_utf8]

theorem isByScore_detect_iff : IsByScore (detect sample) ↔ IsScored sample := by
  refine ⟨fun h => ?_, fun h => h.detect_eq ▸ isByScore_ofScores sample⟩
  unfold detect at h
  split at h
  · simp [IsByScore] at h
  · split at h
    · next hmark => exact absurd h (not_isByScore_of_ofMark? hmark)
    · next hmark =>
        split at h
        · split at h
          · next hlayout => exact absurd h (not_isByScore_of_ofNulLayout? hlayout)
          · simp [IsByScore] at h
        · next hnul =>
            split_ifs at h with hcontrol hascii hutf8
            · simp [IsByScore] at h
            · simp [IsByScore] at h
            · simp [IsByScore] at h
            · exact ⟨hmark, by simpa using hnul, by simpa using hcontrol, by simpa using hascii,
                by simpa using hutf8⟩

/-! ## Scores of lines -/

theorem decode_append (page : CodePage) (bytes more : Bytes) :
    page.decode (bytes ++ more) = page.decode bytes ++ page.decode more := List.map_append

theorem toNat_decodeByte_of_lt (page : CodePage) (hb : b < 0x80) :
    (page.decodeByte b).toNat < 0x80 := by
  rw [decodeByte_of_lt hb, (Utf8.toNat_ofNat_of_lt hb).1]
  exact (Utf8.toNat_ofNat_of_lt hb).2

theorem decodeByte_newline (page : CodePage) : page.decodeByte Bytes.newline = '\n' := by
  rw [decodeByte_of_lt (by decide)]
  rfl

theorem pageScore_eq (sample : Bytes) (page : CodePage) :
    pageScore sample page =
      score (page.decode sample) (neutralFrom none (windows1252.decode sample)) := by
  rw [pageScore, neutralPositions_eq]

theorem pageScore_append_cons (before after : Bytes) (page : CodePage) :
    pageScore (before ++ Bytes.newline :: after) page =
      pageScore before page + pageScore after page := by
  have hcut : ∀ page : CodePage, page.decode (before ++ Bytes.newline :: after) =
      page.decode before ++ '\n' :: page.decode after := by
    intro page
    rw [decode_append, ← decodeByte_newline page]
    rfl
  rw [pageScore_eq, hcut, hcut, neutralFrom_append_cons isSeparator_newline,
    score_append_cons isSeparator_newline (by simp [CodePage.decode]), pageScore_eq, pageScore_eq]

theorem pageScore_of_isAscii (h : Bytes.isAscii sample = true) (page : CodePage) :
    pageScore sample page = 0 := by
  refine score_of_ascii (fun c hc => ?_) _
  obtain ⟨b, hb, rfl⟩ := List.mem_map.mp hc
  exact toNat_decodeByte_of_lt page (by simpa using List.all_eq_true.mp h b hb)

/-- Only scores have a part in the choice. -/
theorem ofScores_congr {other : Bytes} (h : pageScore sample = pageScore other) :
    ofScores sample = ofScores other := by
  unfold ofScores bestPage
  rw [h]

/-! ## Rows of ASCII -/

section Lines

variable (hend : before = [] ∨ before.getLast? = some Bytes.newline)

include hend in
theorem pageScore_append (after : Bytes) (page : CodePage) :
    pageScore (before ++ after) page = pageScore before page + pageScore after page := by
  have hnil : pageScore [] page = 0 := pageScore_of_isAscii rfl page
  rcases hend with rfl | hlast
  · rw [List.nil_append, hnil, Int.zero_add]
  · obtain ⟨front, rfl⟩ := List.getLast?_eq_some_iff.mp hlast
    have hfront := pageScore_append_cons front [] page
    rw [hnil, Int.add_zero] at hfront
    rw [List.append_assoc, List.singleton_append, pageScore_append_cons, hfront]

include hend in
theorem valid_append_iff (after : Bytes) :
    Utf8.Valid (before ++ after) ↔ Utf8.Valid before ∧ Utf8.Valid after := by
  have hnil : Utf8.Valid [] := Utf8.valid_encode []
  have hnewline : Bytes.newline < 0x80 := by decide
  rcases hend with rfl | hlast
  · simp [hnil]
  · obtain ⟨front, rfl⟩ := List.getLast?_eq_some_iff.mp hlast
    rw [List.append_assoc, List.singleton_append, Utf8.valid_append_cons_iff hnewline,
      Utf8.valid_append_cons_iff hnewline]
    simp [hnil]

end Lines

/-- A mark is found before the first byte of ASCII, if at all. -/
theorem isPrefixOf_append_cons {mark : Bytes} (hmark : b ∉ mark) (before after : Bytes) :
    mark.isPrefixOf (before ++ b :: after) = mark.isPrefixOf before := by
  induction mark generalizing before with
  | nil => simp
  | cons m mark ih =>
    simp only [List.mem_cons, not_or] at hmark
    cases before with
    | nil => simp [List.isPrefixOf, Ne.symm hmark.1]
    | cons c before => simp [List.isPrefixOf, ih hmark.2]

theorem ofMark?_append_cons (hb : b < 0x80) (before after : Bytes) :
    ofMark? (before ++ b :: after) = ofMark? before := by
  have hbeyond : ∀ {mark : Bytes}, mark.all (fun m => !decide (m < 0x80)) = true →
      mark.isPrefixOf (before ++ b :: after) = mark.isPrefixOf before := by
    intro mark hmark
    refine isPrefixOf_append_cons (fun hmem => ?_) before after
    simpa [hb] using List.all_eq_true.mp hmark b hmem
  unfold ofMark?
  rw [hbeyond (by decide), hbeyond (by decide), hbeyond (by decide)]

/-- Whole lines of ASCII without control characters, at least one. -/
structure IsPlainRows (rows : Bytes) : Prop where
  ascii : Bytes.isAscii rows = true
  no_control : ∀ b ∈ rows, isControl b = false
  ends : rows.getLast? = some Bytes.newline

theorem IsPlainRows.zero_not_mem (h : IsPlainRows rows) : 0 ∉ rows := fun hmem =>
  absurd (h.no_control 0 hmem) (by decide)

/-- A mark is neither made nor hidden by rows. -/
theorem IsPlainRows.ofMark?_insert (h : IsPlainRows rows)
    (hend : before = [] ∨ before.getLast? = some Bytes.newline)
    (hunmarked : ofMark? (before ++ after) = none) :
    ofMark? (before ++ (rows ++ after)) = none := by
  have hnewline : Bytes.newline < 0x80 := by decide
  rcases hend with rfl | hlast
  · obtain ⟨front, rfl⟩ := List.getLast?_eq_some_iff.mp h.ends
    have hfront : Bytes.isAscii front = true := by
      have hascii := h.ascii
      simp only [Bytes.isAscii, List.all_append, Bool.and_eq_true] at hascii
      exact hascii.1
    rw [List.nil_append, List.append_assoc, List.singleton_append, ofMark?_append_cons hnewline]
    exact ofMark?_eq_none_of_isAscii hfront
  · obtain ⟨front, rfl⟩ := List.getLast?_eq_some_iff.mp hlast
    rw [List.append_assoc, List.singleton_append, ofMark?_append_cons hnewline] at hunmarked ⊢
    exact hunmarked

/-- With rows in it, a sample that scores decide is still one that they decide. -/
theorem IsScored.insert (hrows : IsPlainRows rows)
    (hend : before = [] ∨ before.getLast? = some Bytes.newline)
    (hshort : (before ++ rows ++ after).length < sampleSize) (h : IsScored (before ++ after)) :
    IsScored (before ++ (rows ++ after)) where
  unmarked := hrows.ofMark?_insert hend h.unmarked
  no_nul := by
    have hrest := h.no_nul
    simp only [List.mem_append, not_or] at hrest ⊢
    exact ⟨hrest.1, hrows.zero_not_mem, hrest.2⟩
  not_control := by
    have hfew := h.not_control
    have hnone : rows.countP isControl = 0 :=
      List.countP_eq_zero.mpr fun b hb => by simp [hrows.no_control b hb]
    simp only [isMostlyControl, decide_eq_false_iff_not, List.length_append,
      List.countP_append] at hfew ⊢
    omega
  not_ascii := by
    have hbeyond := h.not_ascii
    simp only [Bytes.isAscii, List.all_append, Bool.and_eq_false_iff] at hbeyond ⊢
    exact hbeyond.imp_right .inr
  not_utf8 := by
    have hinvalid : ¬ Utf8.Valid (before ++ after) := fun hvalid => by
      simpa [h.not_utf8] using isUtf8_iff.mpr (.inl hvalid)
    rw [valid_append_iff hend] at hinvalid
    rw [Bool.eq_false_iff, ne_eq, isUtf8_iff, valid_append_iff hend,
      valid_append_iff (.inr hrows.ends)]
    rintro (⟨hfirst, -, hlast⟩ | ⟨-, hlong⟩)
    · exact hinvalid ⟨hfirst, hlast⟩
    · rw [← List.append_assoc] at hlong
      exact absurd hlong (Nat.not_le_of_lt hshort)

/-- Rows of ASCII have no part in the choice of a code page. Wherever whole lines without control
characters are put into a sample that scores decide, its encoding stays what it was, or stays
unknown, as long as the sample is not full. -/
theorem detect_insert (hscored : IsByScore (detect (before ++ after)))
    (hend : before = [] ∨ before.getLast? = some Bytes.newline) (hrows : IsPlainRows rows)
    (hshort : (before ++ rows ++ after).length < sampleSize) :
    detect (before ++ rows ++ after) = detect (before ++ after) := by
  have hbefore : IsScored (before ++ after) := isByScore_detect_iff.mp hscored
  have hscores : pageScore (before ++ (rows ++ after)) = pageScore (before ++ after) := by
    funext page
    rw [pageScore_append hend, pageScore_append (.inr hrows.ends), pageScore_of_isAscii hrows.ascii,
      Int.zero_add, pageScore_append hend]
  rw [List.append_assoc, (hbefore.insert hrows hend hshort).detect_eq, hbefore.detect_eq,
    ofScores_congr hscores]

/-- A row of ASCII between two rows in Cyrillic. -/
theorem detect_insert_cyrillic :
    let before : Bytes := [0xE8, 0xEC, 0xFF, 0x0A]
    let rows : Bytes := Utf8.ofString "42,x\n"
    let after : Bytes := [0xCC, 0xE8, 0xF0, 0x0A]
    detect (before ++ after) = .ok (.codePage .windows1251) ∧
      before.getLast? = some Bytes.newline ∧ IsPlainRows rows ∧
      (before ++ rows ++ after).length < sampleSize ∧
      detect (before ++ rows ++ after) = .ok (.codePage .windows1251) := by
  intro before rows after
  have hpage : detect (before ++ after) = .ok (.codePage .windows1251) := by decide +kernel
  have hend : before.getLast? = some Bytes.newline := by decide
  have hplain : rows.all (fun b => !isControl b) = true := by decide
  have hrows : IsPlainRows rows := ⟨by decide, by simpa using hplain, by decide⟩
  have hshort : (before ++ rows ++ after).length < sampleSize := by decide
  exact ⟨hpage, hend, hrows, hshort,
    (detect_insert (.inl ⟨_, hpage⟩) (.inr hend) hrows hshort).trans hpage⟩

end TidyCsv.Detection
