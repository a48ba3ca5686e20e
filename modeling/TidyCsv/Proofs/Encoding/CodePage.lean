import TidyCsv.Encoding.CodePage
import TidyCsv.Proofs.Text.Utf8
import Mathlib.Data.List.Nodup

/-! # Reading back what windows-1252 decodes

The page gives every byte a character of its own, so the bytes can be told from the text that they
decode to. -/

namespace TidyCsv.CodePage

theorem finIdxOf?_of_nodup {members : Array Nat} (h : members.toList.Nodup) {i : Nat}
    (hi : i < members.size) : members.finIdxOf? members[i] = some ⟨i, hi⟩ := by
  refine Array.finIdxOf?_eq_some_iff.mpr ⟨rfl, fun j hj heq => ?_⟩
  have hmember : members.toList[j.val] = members.toList[i] := by
    rw [Array.getElem_toList, Array.getElem_toList]
    exact heq
  have hsame : j.val = i := h.getElem_inj_iff.mp hmember
  exact Nat.lt_irrefl _ (hsame ▸ Fin.lt_def.mp hj)

theorem nodup_western : western.toList.Nodup := by decide +kernel

/-- No byte from 0x80 stands for an ASCII character or for a surrogate. -/
theorem bounds_of_mem_western : ∀ n ∈ western.toList, 0x80 ≤ n ∧ n < 0xD800 := by decide +kernel

theorem size_western : western.size = 128 := by decide +kernel

theorem decodeByte_of_lt {page : CodePage} {b : UInt8} (h : b < 0x80) :
    page.decodeByte b = Char.ofNat b.toNat := by
  simp [decodeByte, h]

theorem encodeChar?_of_lt {page : CodePage} {c : Char} (h : c.toNat < 0x80) :
    page.encodeChar? c = some (UInt8.ofNat c.toNat) := by
  simp [encodeChar?, h]

/-- The character of a byte from 0x80 is the one at its place in the page. -/
theorem toNat_decodeByte_western {b : UInt8} (h : ¬ b < 0x80) :
    ∃ hi : b.toNat - 0x80 < western.size,
      (windows1252.decodeByte b).toNat = western[b.toNat - 0x80] := by
  have hi : b.toNat - 0x80 < western.size := by
    have := b.toNat_lt
    rw [size_western]
    omega
  have hbounds := bounds_of_mem_western _ (Array.mem_toList_iff.mpr (Array.getElem_mem hi))
  refine ⟨hi, ?_⟩
  simp only [decodeByte, if_neg h, upperHalf, Array.getD_eq_getD_getElem?,
    Array.getElem?_eq_getElem hi, Option.getD_some]
  exact Utf8.toNat_ofNat (by omega) (by omega)

theorem encodeChar?_decodeByte (b : UInt8) :
    windows1252.encodeChar? (windows1252.decodeByte b) = some b := by
  by_cases h : b < 0x80
  · have hb : b.toNat < 0x80 := UInt8.lt_iff_toNat_lt.mp h
    have hc : (Char.ofNat b.toNat).toNat = b.toNat := Utf8.toNat_ofNat (by omega) (by omega)
    rw [decodeByte_of_lt h, encodeChar?_of_lt (by omega), hc, UInt8.ofNat_toNat]
  · obtain ⟨hi, hc⟩ := toNat_decodeByte_western h
    have hbounds := bounds_of_mem_western _ (Array.mem_toList_iff.mpr (Array.getElem_mem hi))
    have hfirst := finIdxOf?_of_nodup nodup_western hi
    have hback : 0x80 + (b.toNat - 0x80) = b.toNat := by
      have : ¬ b.toNat < 0x80 := fun hlow => h (UInt8.lt_iff_toNat_lt.mpr hlow)
      omega
    have hlow : ¬ western[b.toNat - 0x80] < 0x80 := by omega
    simp only [encodeChar?, upperHalf, hc, if_neg hlow, hfirst, Option.map_some, hback,
      UInt8.ofNat_toNat]

theorem encode?_decode (bytes : Bytes) :
    windows1252.encode? (windows1252.decode bytes) = some bytes := by
  induction bytes with
  | nil => rfl
  | cons b rest ih =>
      have hrest : (rest.map windows1252.decodeByte).mapM windows1252.encodeChar? = some rest := ih
      simp [encode?, decode, List.mapM_cons, encodeChar?_decodeByte, hrest]

/-! ## Bytes of characters -/

theorem decodeByte_of_encodeChar? {c : Char} {b : UInt8}
    (h : windows1252.encodeChar? c = some b) : windows1252.decodeByte b = c := by
  by_cases hc : c.toNat < 0x80
  · rw [encodeChar?_of_lt hc] at h
    obtain rfl := Option.some.inj h
    have hb : (UInt8.ofNat c.toNat).toNat = c.toNat :=
      UInt8.toNat_ofNat_of_lt' (show c.toNat < 256 by omega)
    have hlow : UInt8.ofNat c.toNat < 0x80 := by
      rw [UInt8.lt_iff_toNat_lt, hb]
      exact hc
    rw [decodeByte_of_lt hlow, hb, Char.ofNat_toNat]
  · simp only [encodeChar?, if_neg hc] at h
    obtain ⟨i, hfound, rfl⟩ := Option.map_eq_some_iff.mp h
    have hi : i.val < 128 := by
      rw [← size_western]
      exact i.isLt
    have hb : (UInt8.ofNat (0x80 + i.val)).toNat = 0x80 + i.val :=
      UInt8.toNat_ofNat_of_lt' (show 0x80 + i.val < 256 by omega)
    have hhigh : ¬ UInt8.ofNat (0x80 + i.val) < 0x80 := by
      rw [UInt8.lt_iff_toNat_lt, hb]
      simp
    obtain ⟨hmember, -⟩ := Array.finIdxOf?_eq_some_iff.mp hfound
    obtain ⟨hplace, hdecoded⟩ := toNat_decodeByte_western hhigh
    have hsame : (windows1252.decodeByte (UInt8.ofNat (0x80 + i.val))).toNat = c.toNat := by
      rw [hdecoded, ← hmember]
      simp only [hb, Nat.add_sub_cancel_left]
      rfl
    rw [← Char.ofNat_toNat (windows1252.decodeByte _), hsame, Char.ofNat_toNat]

/-- A text that windows-1252 can write is what its bytes decode to. -/
theorem decode_of_encode? {text : List Char} {bytes : Bytes}
    (h : windows1252.encode? text = some bytes) : windows1252.decode bytes = text := by
  induction text generalizing bytes with
  | nil =>
      obtain rfl : [] = bytes := by simpa [encode?] using h
      rfl
  | cons c rest ih =>
      obtain ⟨b, hb, tail, htail, rfl⟩ : ∃ b, windows1252.encodeChar? c = some b ∧
          ∃ tail, windows1252.encode? rest = some tail ∧ b :: tail = bytes := by
        simpa [encode?, List.mapM_cons, Option.bind_eq_some_iff] using h
      have hrest : tail.map windows1252.decodeByte = rest := ih htail
      simp [decode, decodeByte_of_encodeChar? hb, hrest]

end TidyCsv.CodePage
