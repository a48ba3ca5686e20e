import TidyCsv.Proofs.Encoding.Transcoding
import TidyCsv.Proofs.Run.Resolution

/-! # What converting a file does

However reading divides a file into pieces, converting it writes the text that the file decodes to,
and is refused if there is none. The position that the refusal tells is where reading the whole
content fails. Only for a lone high surrogate in UTF-16 it is two bytes further if a piece ends
before the unit after the surrogate is whole. -/

namespace TidyCsv.Resolution

open FileSystem Transcoding

/-- A conversion succeeds if and only if the content decodes after at most one mark, and leaves the
decoded text in UTF-8 then. Otherwise it is refused, with the position at which reading the content
fails, or the one after the unit that is parted from a lone high surrogate. -/
theorem convertFileBy_splits (split : Bytes → List Bytes) {fs : FileSystem}
    {source destination : Path} {label : String} {decoder : Decoder} {content : Bytes}
    {location : Location}
    (hdecoder : (Encoding.ofLabel? label).bind Decoder.ofEncoding? = some decoder)
    (hread : fs.read source = .ok content) (hroom : fs.Writable destination location)
    (hdiffer : source.location fs.home ≠ location) (hsplits : Splits (split content) content) :
    (∀ text, decoder.Decodes content text →
      ∃ after, convertFileBy split fs source destination label = (.ok (), after) ∧
        after.read destination = .ok (Utf8.encode text)) ∧
    ((∀ text, ¬ decoder.Decodes content text) →
      ∃ whole position after, decoder.faultAt? content = some whole ∧
        convertFileBy split fs source destination label =
          (.error (.conversionFailed label (Refusal.malformed position).message), after) ∧
        ((∀ p, ¬ decoder.Parts (split content) p) → position = whole) ∧
        ∀ p, decoder.Parts (split content) p → whole = p + 2 ∧ position = p + 4) := by
  have hconvert : convertFileBy split fs source destination label = _ :=
    convertFileBy_eq hdecoder hread hroom hdiffer
  have hbounded := hsplits.bounded
  have hflatten := hsplits.flatten
  constructor
  · intro text hdecodes
    have hrun : decoder.run (split content) = ⟨text, none⟩ :=
      (Decoder.run_eq_iff hbounded).mpr (by rwa [hflatten])
    rw [hrun] at hconvert
    exact ⟨_, hconvert, EditsFiles.read_of_write (hroom.write _)⟩
  · intro hnone
    obtain ⟨position, hfailed⟩ :
        ∃ position, (decoder.run (split content)).failedAt = some position :=
      Decoder.failedAt_of_not_decodes hbounded (by rw [hflatten]; exact not_exists.mpr hnone)
    obtain ⟨whole, hwhole, hposition⟩ := Decoder.faultAt?_of_failedAt hbounded hfailed
    rw [hflatten] at hwhole
    rw [hfailed] at hconvert
    exact ⟨whole, position, _, hwhole, hconvert, hposition⟩

/-- A high surrogate before the letter A. -/
def loneHigh : Bytes := [0x00, 0xD8, 0x41, 0x00]

def loneHighFile : FileSystem := ⟨[], [(["in.csv"], .file loneHigh)]⟩

/-- The surrogate and the letter as one piece, or as one for each. -/
def loneHighPieces (parted : Bool) : List Bytes :=
  if parted then [[0x00, 0xD8], [0x41, 0x00]] else [loneHigh]

theorem splits_loneHigh (parted : Bool) : Splits (loneHighPieces parted) loneHigh := by
  cases parted <;> exact ⟨by decide, by decide, by decide⟩

/-- The position that is told depends on the pieces. -/
theorem convertFileBy_loneHigh :
    Splits (loneHighPieces false) loneHigh ∧ Splits (loneHighPieces true) loneHigh ∧
      (convertFileBy (fun _ => loneHighPieces false) loneHighFile ⟨"in.csv"⟩ ⟨"out.csv"⟩
          "utf-16le").1 =
        .error (.conversionFailed "utf-16le" "malformed byte sequence near byte 2") ∧
      (convertFileBy (fun _ => loneHighPieces true) loneHighFile ⟨"in.csv"⟩ ⟨"out.csv"⟩
          "utf-16le").1 =
        .error (.conversionFailed "utf-16le" "malformed byte sequence near byte 4") := by
  refine ⟨splits_loneHigh false, splits_loneHigh true, ?_⟩
  decide

/-- The surrogate is no text, and it is told at the end of the second piece. -/
theorem convertFileBy_parted :
    (Encoding.ofLabel? "utf-16le").bind Decoder.ofEncoding? = some (.utf16 .littleEndian) ∧
      loneHighFile.read ⟨"in.csv"⟩ = .ok loneHigh ∧
      loneHighFile.Writable ⟨"out.csv"⟩ ["out.csv"] ∧
      (Path.mk "in.csv").location loneHighFile.home ≠ ["out.csv"] ∧
      Splits (loneHighPieces true) loneHigh ∧
      ∃ after, convertFileBy (fun _ => loneHighPieces true) loneHighFile ⟨"in.csv"⟩ ⟨"out.csv"⟩
        "utf-16le" =
          (.error (.conversionFailed "utf-16le" (Refusal.malformed 4).message), after) := by
  have hdecoder : (Encoding.ofLabel? "utf-16le").bind Decoder.ofEncoding? =
      some (.utf16 .littleEndian) := by decide
  have hread : loneHighFile.read ⟨"in.csv"⟩ = .ok loneHigh := by decide
  have hroom : loneHighFile.Writable ⟨"out.csv"⟩ ["out.csv"] :=
    ⟨by decide, by decide⟩
  have hdiffer : (Path.mk "in.csv").location loneHighFile.home ≠ ["out.csv"] := by decide
  have hsplits := splits_loneHigh true
  refine ⟨hdecoder, hread, hroom, hdiffer, hsplits, ?_⟩
  have hparts : (Decoder.utf16 .littleEndian).Parts (loneHighPieces true) 0 :=
    ⟨⟨[], 0xD800, 0x41, [], by decide, rfl, by decide, by decide, by decide⟩, 2, by decide,
      by decide, by decide⟩
  have hnone : ∀ text, ¬ (Decoder.utf16 .littleEndian).Decodes loneHigh text := by
    intro text hdecodes
    have hfailed := Decoder.failedAt_of_parts hsplits.bounded hparts
    have hrun : (Decoder.utf16 .littleEndian).run (loneHighPieces true) = ⟨text, none⟩ :=
      (Decoder.run_eq_iff hsplits.bounded).mpr (by rwa [hsplits.flatten])
    rw [hrun] at hfailed
    simp at hfailed
  obtain ⟨whole, position, after, -, hconvert, -, hposition⟩ :=
    (convertFileBy_splits (fun _ => loneHighPieces true) hdecoder hread hroom hdiffer hsplits).2
      hnone
  obtain ⟨-, rfl⟩ := hposition 0 hparts
  exact ⟨after, hconvert⟩

end TidyCsv.Resolution
