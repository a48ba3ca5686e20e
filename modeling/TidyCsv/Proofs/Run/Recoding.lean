import TidyCsv.Proofs.Encoding.Detection
import TidyCsv.Proofs.Encoding.Transcoding
import TidyCsv.Proofs.Run.Resolution

/-! # Detection and conversion undo encoding

A text can be stored as UTF-8 or UTF-16 behind a byte order mark, and as UTF-16 without one if it is
in ASCII. Detection finds out in which form it is stored, and conversion gives the text back as
UTF-8, whichever way it falls into the pieces in which it is read. -/

namespace TidyCsv

open FileSystem

/-! ## Forms -/

/-- A form in which a text is stored. -/
inductive StoredForm where
  | markedUtf8
  | markedUtf16 (order : Utf16.ByteOrder)
  | plainUtf16 (order : Utf16.ByteOrder)

namespace StoredForm

def bytes (text : List Char) : StoredForm → Bytes
  | markedUtf8 => Bytes.utf8Mark ++ Utf8.encode text
  | markedUtf16 order => order.mark ++ Utf16.encode order text
  | plainUtf16 order => Utf16.encode order text

def label : StoredForm → String
  | markedUtf8 => "utf-8-sig"
  | markedUtf16 .littleEndian | plainUtf16 .littleEndian => "utf-16le"
  | markedUtf16 .bigEndian | plainUtf16 .bigEndian => "utf-16be"

/-- Whether a text can be told in this form. Without a mark the zeros in it have to tell. -/
def Suits (text : List Char) : StoredForm → Prop
  | markedUtf8 | markedUtf16 _ => True
  | plainUtf16 _ => text ≠ [] ∧ ∀ c ∈ text, Utf16.IsPlain c

instance (text : List Char) : (form : StoredForm) → Decidable (form.Suits text)
  | markedUtf8 | markedUtf16 _ => .isTrue trivial
  | plainUtf16 _ => @instDecidableAnd (text ≠ []) (∀ c ∈ text, Utf16.IsPlain c)
    inferInstance (List.decidableBAll _ text)

def verdict : StoredForm → Detection.Verdict
  | markedUtf8 => .markedUtf8
  | markedUtf16 order | plainUtf16 order => .utf16 order

theorem label_verdict (form : StoredForm) : form.verdict.label = form.label := by
  rcases form with _ | ⟨_ | _⟩ | ⟨_ | _⟩ <;> rfl

end StoredForm

/-! ## Detection -/

namespace Detection

theorem ofMark?_utf8Mark (rest : Bytes) : ofMark? (Bytes.utf8Mark ++ rest) = some .markedUtf8 := by
  simp [ofMark?, Bytes.utf8Mark]

theorem ofMark?_mark (order : Utf16.ByteOrder) (rest : Bytes) :
    ofMark? (order.mark ++ rest) = some (.utf16 order) := by
  have hmarks : Utf16.ByteOrder.mark .littleEndian = [0xFF, 0xFE] ∧
      Utf16.ByteOrder.mark .bigEndian = [0xFE, 0xFF] := by decide
  cases order <;> simp [ofMark?, Bytes.utf8Mark, hmarks]

theorem detect_of_ofMark? {sample : Bytes} {verdict : Verdict}
    (h : ofMark? sample = some verdict) : detect sample = .ok verdict := by
  have hne : sample ≠ [] := by
    rintro rfl
    simp [ofMark?, Bytes.utf8Mark, Utf16.ByteOrder.mark, Utf16.ByteOrder.bytes] at h
  simp [detect, hne, h]

/-- A mark in the sample is found whatever comes after it. -/
theorem detect_take_of_mark {mark : Bytes} {verdict : Verdict} {size : Nat}
    (hmark : ∀ rest, ofMark? (mark ++ rest) = some verdict) (hsize : mark.length ≤ size)
    (rest : Bytes) : detect ((mark ++ rest).take size) = .ok verdict := by
  rw [List.take_append, List.take_of_length_le hsize]
  exact detect_of_ofMark? (hmark _)

section Plain

/-- Counts one byte at an even or an odd offset. -/
def countNul (counts : Nat × Nat × Bool) (b : UInt8) : Nat × Nat × Bool :=
  let hit := if b = 0 then 1 else 0
  if counts.2.2 then (counts.1 + hit, counts.2.1, false)
  else (counts.1, counts.2.1 + hit, true)

theorem nulCounts_eq (sample : Bytes) :
    nulCounts sample =
      ((sample.foldl countNul (0, 0, true)).1, (sample.foldl countNul (0, 0, true)).2.1) := rfl

variable {text : List Char} (order : Utf16.ByteOrder)

/-- In ASCII, the zeros of the units stand all on one side. -/
theorem foldl_countNul_encode (h : ∀ c ∈ text, Utf16.IsPlain c) (even odd : Nat) :
    (Utf16.encode order text).foldl countNul (even, odd, true) =
      if order = .littleEndian then (even, odd + text.length, true)
      else (even + text.length, odd, true) := by
  induction text generalizing even odd with
  | nil => cases order <;> simp
  | cons c rest ih =>
      obtain ⟨b, hb, -, hbytes⟩ := Utf16.encodeChar_of_isPlain order (h c (by simp))
      have hrest := ih fun d hd => h d (by simp [hd])
      rw [Utf16.encode_cons, hbytes]
      cases order with
      | littleEndian =>
          simp [countNul, hb, hrest]
          omega
      | bigEndian =>
          simp [countNul, hb, hrest]
          omega

theorem nulCounts_encode (h : ∀ c ∈ text, Utf16.IsPlain c) :
    nulCounts (Utf16.encode order text) =
      if order = .littleEndian then (0, text.length) else (text.length, 0) := by
  rw [nulCounts_eq, foldl_countNul_encode order h]
  cases order <;> simp

theorem unitsDecode_encode (h : ∀ c ∈ text, Utf16.IsPlain c) :
    unitsDecode order (Utf16.encode order text) = true := by
  have hlength := Utf16.length_encode order fun c hc => Utf16.IsPlain.lt (h c hc)
  simp only [unitsDecode, hlength, Nat.mul_mod_right, Nat.sub_zero]
  rw [← hlength, List.take_length, Utf16.read_encode]

theorem ofNulLayout?_encode (hne : text ≠ []) (h : ∀ c ∈ text, Utf16.IsPlain c) :
    ofNulLayout? (Utf16.encode order text) = some (.utf16 order) := by
  have hlength := Utf16.length_encode order fun c hc => Utf16.IsPlain.lt (h c hc)
  have hpos : 0 < text.length := List.length_pos_of_ne_nil hne
  have hcounts := nulCounts_encode order h
  have hdecode := unitsDecode_encode order h
  have hthreshold : text.length * 30 / 100 < text.length := by omega
  unfold ofNulLayout?
  rw [hlength, Nat.mul_div_cancel_left _ (by omega)]
  cases order with
  | littleEndian => simp [hcounts, hdecode, hthreshold, Nat.ne_of_gt hpos]
  | bigEndian => simp [hcounts, hdecode, hthreshold, Nat.ne_of_gt hpos]

theorem detect_encode (hne : text ≠ []) (h : ∀ c ∈ text, Utf16.IsPlain c) :
    detect (Utf16.encode order text) = .ok (.utf16 order) := by
  have hmark := ofMark?_eq_none_of_isAscii (Utf16.isAscii_encode order h)
  have hnul := Utf16.zero_mem_encode order hne h
  simp [detect, List.ne_nil_of_mem hnul, hmark, hnul, ofNulLayout?_encode order hne h]

/-- The sample ends between two characters. -/
theorem detect_take_encode (hne : text ≠ []) (h : ∀ c ∈ text, Utf16.IsPlain c) :
    detect ((Utf16.encode order text).take sampleSize) = .ok (.utf16 order) := by
  have htake : (Utf16.encode order text).take sampleSize = Utf16.encode order (text.take 32768) :=
    Utf16.take_encode order (fun c hc => (h c hc).lt) 32768
  rw [htake]
  refine detect_encode order ?_ fun c hc => h c (List.mem_of_mem_take hc)
  simp [hne]

end Plain

end Detection

namespace StoredForm

variable {text : List Char} {form : StoredForm}

theorem detect_bytes (h : form.Suits text) :
    Detection.detect (form.bytes text) = .ok form.verdict ∧
      Detection.detect ((form.bytes text).take Detection.sampleSize) = .ok form.verdict := by
  cases form with
  | markedUtf8 =>
      exact ⟨Detection.detect_of_ofMark? (Detection.ofMark?_utf8Mark _),
        Detection.detect_take_of_mark Detection.ofMark?_utf8Mark (by decide) _⟩
  | markedUtf16 order =>
      have hsize : order.mark.length ≤ Detection.sampleSize := by cases order <;> decide
      exact ⟨Detection.detect_of_ofMark? (Detection.ofMark?_mark order _),
        Detection.detect_take_of_mark (Detection.ofMark?_mark order) hsize _⟩
  | plainUtf16 order =>
      exact ⟨Detection.detect_encode order h.1 h.2, Detection.detect_take_encode order h.1 h.2⟩

end StoredForm

/-! ## Conversion -/

namespace StoredForm

variable {text : List Char} {form : StoredForm}

def decoder : StoredForm → Transcoding.Decoder
  | markedUtf8 => .utf8
  | markedUtf16 order | plainUtf16 order => .utf16 order

theorem decoder_label (form : StoredForm) :
    (Encoding.ofLabel? form.label).bind Transcoding.Decoder.ofEncoding? = some form.decoder := by
  have hlabels : (Encoding.ofLabel? "utf-8-sig" = some .utf8 ∧
      Encoding.ofLabel? "utf-16le" = some .utf16le) ∧
        Encoding.ofLabel? "utf-16be" = some .utf16be := by decide
  obtain ⟨⟨hutf8, hlittle⟩, hbig⟩ := hlabels
  rcases form with _ | ⟨_ | _⟩ | ⟨_ | _⟩ <;>
    simp [label, decoder, hutf8, hlittle, hbig, Transcoding.Decoder.ofEncoding?]

/-- The decoder drops one mark, so a second one is kept as the start of the text. -/
theorem decodes_bytes (h : form.Suits text) : form.decoder.Decodes (form.bytes text) text := by
  cases form with
  | markedUtf8 => exact Transcoding.withoutMark_append _ _
  | markedUtf16 order => exact Transcoding.withoutMark_append _ _
  | plainUtf16 order =>
      refine Transcoding.withoutMark_of_not_prefix fun hmark => ?_
      -- the mark has a byte that is not in ASCII
      have hbyte : (0xFF : UInt8) ∈ order.mark := by cases order <;> decide
      have hascii := Utf16.isAscii_encode order h.2
      rw [Bytes.isAscii, List.all_eq_true] at hascii
      exact absurd (hascii _ (hmark.subset hbyte)) (by decide)

theorem run_decoder (h : form.Suits text) :
    form.decoder.run (Transcoding.pieces (form.bytes text)) = ⟨text, none⟩ :=
  Transcoding.Decoder.run_pieces_iff.mpr (decodes_bytes h)

theorem converted?_bytes (h : form.Suits text) :
    Resolution.converted? form.label (form.bytes text) = some (Utf8.encode text) := by
  simp [Resolution.converted?, decoder_label, run_decoder h]

end StoredForm

/-! ## Files -/

namespace Resolution

theorem detectFile_of_read {fs : FileSystem} {path : Path} {bytes : Bytes}
    {verdict : Detection.Verdict} (hread : fs.read path = .ok bytes)
    (hdetect : Detection.detect (bytes.take Detection.sampleSize) = .ok verdict) :
    detectFile fs path = .ok verdict := by
  simp [detectFile, readFirst_of_read hread, hdetect]

/-- Whatever text a file holds in one of the forms, its form is found out, and converting the file
by the label that was found writes the text in UTF-8. -/
theorem convertFile_stored {text : List Char} {form : StoredForm} (hsuits : form.Suits text)
    {fs : FileSystem} {source destination : Path} {location : Location}
    (hread : fs.read source = .ok (form.bytes text)) (hroom : fs.Writable destination location)
    (hdiffer : source.location fs.home ≠ location) :
    ∃ verdict after, Detection.detect (form.bytes text) = .ok verdict ∧
      detectFile fs source = .ok verdict ∧ verdict.label = form.label ∧
      convertFile fs source destination verdict.label = (.ok (), after) ∧
      after.read destination = .ok (Utf8.encode text) := by
  obtain ⟨hwhole, hsample⟩ := StoredForm.detect_bytes hsuits
  have hlabel := form.label_verdict
  refine ⟨form.verdict, fs.put location (.file (Utf8.encode text)), hwhole,
    detectFile_of_read hread hsample, hlabel, ?_, ?_⟩
  · rw [hlabel]
    exact convertFile_of_converted? (StoredForm.converted?_bytes hsuits) hread hroom hdiffer
  · exact EditsFiles.read_of_write (hroom.write _)

/-- A file that opens with its mark, a second one that belongs to the text, a letter, and a
character of two units. -/
def markedTwice : FileSystem :=
  ⟨[], [(["in.csv"], .file [0xFE, 0xFF, 0xFE, 0xFF, 0x00, 0x61, 0xD8, 0x3D, 0xDE, 0x00])]⟩

theorem convertFile_markedTwice :
    markedTwice.read ⟨"in.csv"⟩ =
        .ok ((StoredForm.markedUtf16 .bigEndian).bytes ['\uFEFF', 'a', Char.ofNat 0x1F600]) ∧
      markedTwice.Writable ⟨"out.csv"⟩ ["out.csv"] ∧
      (Path.mk "in.csv").location markedTwice.home ≠ ["out.csv"] ∧
      ∃ verdict after, detectFile markedTwice ⟨"in.csv"⟩ = .ok verdict ∧
        verdict.label = "utf-16be" ∧
        convertFile markedTwice ⟨"in.csv"⟩ ⟨"out.csv"⟩ verdict.label = (.ok (), after) ∧
        after.read ⟨"out.csv"⟩ = .ok (Utf8.encode ['\uFEFF', 'a', Char.ofNat 0x1F600]) := by
  have hread : markedTwice.read ⟨"in.csv"⟩ =
      .ok ((StoredForm.markedUtf16 .bigEndian).bytes ['\uFEFF', 'a', Char.ofNat 0x1F600]) := by
    decide
  have hroom : markedTwice.Writable ⟨"out.csv"⟩ ["out.csv"] :=
    ⟨by decide, by decide⟩
  have hdiffer : (Path.mk "in.csv").location markedTwice.home ≠ ["out.csv"] := by decide
  have hsuits : (StoredForm.markedUtf16 .bigEndian).Suits ['\uFEFF', 'a', Char.ofNat 0x1F600] :=
    trivial
  obtain ⟨verdict, after, -, hdetect, hlabel, hconvert, hafter⟩ :=
    convertFile_stored hsuits hread hroom hdiffer
  exact ⟨hread, hroom, hdiffer, verdict, after, hdetect, hlabel, hconvert, hafter⟩

end Resolution

end TidyCsv
