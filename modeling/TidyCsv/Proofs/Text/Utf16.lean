import TidyCsv.Proofs.Text.Utf8
import TidyCsv.Text.Utf16

/-! # Reading UTF-16 that was encoded

The units of a character are read back as that character, wherever the input starts. So is a whole
text, and what is read without a fault is an encoded text. Of a text in ASCII, every unit has one
byte that is zero, and no unit is cut at an even number of bytes. -/

namespace TidyCsv.Utf16

/-! ## One unit -/

theorem exists_bytes (order : ByteOrder) {n : Nat} (h : n < 0x10000) :
    ∃ a b, order.bytes n = [a, b] ∧ order.unit a b = n := by
  have hlow : (UInt8.ofNat (n % 256)).toNat = n % 256 :=
    UInt8.toNat_ofNat_of_lt' (show n % 256 < 256 by omega)
  have hhigh : (UInt8.ofNat (n / 256)).toNat = n / 256 :=
    UInt8.toNat_ofNat_of_lt' (show n / 256 < 256 by omega)
  cases order with
  | littleEndian =>
      refine ⟨_, _, rfl, ?_⟩
      rw [ByteOrder.unit, hlow, hhigh]
      omega
  | bigEndian =>
      refine ⟨_, _, rfl, ?_⟩
      rw [ByteOrder.unit, hlow, hhigh]
      omega

/-! ## One character -/

def encodeChar (order : ByteOrder) (c : Char) : Bytes :=
  (unitsOfPoint c.toNat).flatMap order.bytes

@[simp] theorem encode_nil (order : ByteOrder) : encode order [] = [] := rfl

@[simp] theorem encode_cons (order : ByteOrder) (c : Char) (rest : List Char) :
    encode order (c :: rest) = encodeChar order c ++ encode order rest := rfl

variable (order : ByteOrder)

theorem readFrom_unit {n : Nat} (hn : n < 0x10000) (hsurrogate : n < 0xD800 ∨ 0xDFFF < n)
    (position : Nat) (done : List Char) (rest : Bytes) :
    readFrom order position done (order.bytes n ++ rest) =
      readFrom order (position + 2) (Char.ofNat n :: done) rest := by
  obtain ⟨a, b, hbytes, hunit⟩ := exists_bytes order hn
  have hhigh : isHigh n = false := by
    simp only [isHigh, Bool.and_eq_false_iff, decide_eq_false_iff_not]
    omega
  have hlow : isLow n = false := by
    simp only [isLow, Bool.and_eq_false_iff, decide_eq_false_iff_not]
    omega
  rw [hbytes, readFrom.eq_def]
  simp [hunit, hhigh, hlow]

theorem readFrom_pair {high low : Nat} (hhigh : high < 1024) (hlow : low < 1024)
    (position : Nat) (done : List Char) (rest : Bytes) :
    readFrom order position done
        (order.bytes (0xD800 + high) ++ (order.bytes (0xDC00 + low) ++ rest)) =
      readFrom order (position + 4) (Char.ofNat (0x10000 + high * 1024 + low) :: done)
        rest := by
  obtain ⟨a, b, hbytes, hunit⟩ := exists_bytes order (n := 0xD800 + high) (by omega)
  obtain ⟨c, d, hbytes', hunit'⟩ := exists_bytes order (n := 0xDC00 + low) (by omega)
  have hopens : isHigh (0xD800 + high) = true := by
    simp only [isHigh, Bool.and_eq_true, decide_eq_true_eq]
    omega
  have hcloses : isLow (0xDC00 + low) = true := by
    simp only [isLow, Bool.and_eq_true, decide_eq_true_eq]
    omega
  rw [hbytes, hbytes', readFrom.eq_def]
  simp [hunit, hunit', hopens, hcloses, pairChar]

theorem readFrom_encodeChar (c : Char) (position : Nat) (done : List Char) (rest : Bytes) :
    ∃ position', readFrom order position done (encodeChar order c ++ rest) =
      readFrom order position' (c :: done) rest := by
  obtain ⟨hmax, hsurrogate⟩ := Utf8.point_bounds c
  unfold encodeChar unitsOfPoint
  split_ifs with hbasic
  · refine ⟨position + 2, ?_⟩
    have hread := readFrom_unit order hbasic hsurrogate position done rest
    rw [Char.ofNat_toNat] at hread
    simpa using hread
  · refine ⟨position + 4, ?_⟩
    have hhigh : (c.toNat - 0x10000) / 1024 < 1024 := by omega
    have hlow : (c.toNat - 0x10000) % 1024 < 1024 := by omega
    have hread := readFrom_pair order hhigh hlow position done rest
    have hpoint : 0x10000 + (c.toNat - 0x10000) / 1024 * 1024 + (c.toNat - 0x10000) % 1024 =
        c.toNat := by omega
    rw [hpoint, Char.ofNat_toNat] at hread
    simpa using hread

/-! ## Texts -/

theorem readFrom_encode (text : List Char) (position : Nat) (done : List Char) :
    readFrom order position done (encode order text) = (done.reverse ++ text, none) := by
  induction text generalizing position done with
  | nil => simp [readFrom]
  | cons c rest ih =>
      obtain ⟨position', hread⟩ := readFrom_encodeChar order c position done (encode order rest)
      rw [encode_cons, hread, ih]
      simp

@[simp] theorem read_encode (text : List Char) : read order (encode order text) = (text, none) :=
  readFrom_encode order text 0 []

/-! ## What can be read -/

section Read

variable {order} {a b : UInt8}

theorem unit_lt (order : ByteOrder) (first second : UInt8) : order.unit first second < 0x10000 := by
  have hfirst := first.toNat_lt
  have hsecond := second.toNat_lt
  cases order <;> simp only [ByteOrder.unit] <;> omega

theorem bytes_unit (order : ByteOrder) (a b : UInt8) : order.bytes (order.unit a b) = [a, b] := by
  have ha := a.toNat_lt
  have hb := b.toNat_lt
  cases order with
  | littleEndian =>
      simp only [ByteOrder.bytes, ByteOrder.unit]
      rw [show (a.toNat + 256 * b.toNat) % 256 = a.toNat by omega,
        show (a.toNat + 256 * b.toNat) / 256 = b.toNat by omega]
      simp
  | bigEndian =>
      simp only [ByteOrder.bytes, ByteOrder.unit]
      rw [show (256 * a.toNat + b.toNat) % 256 = b.toNat by omega,
        show (256 * a.toNat + b.toNat) / 256 = a.toNat by omega]
      simp

theorem encodeChar_unit (hhigh : isHigh (order.unit a b) = false)
    (hlow : isLow (order.unit a b) = false) :
    encodeChar order (Char.ofNat (order.unit a b)) = [a, b] := by
  have hlt := unit_lt order a b
  simp only [isHigh, isLow, Bool.and_eq_false_iff, decide_eq_false_iff_not] at hhigh hlow
  rw [encodeChar, Utf8.toNat_ofNat (by omega) (by omega), unitsOfPoint, if_pos hlt]
  simp [bytes_unit]

theorem encodeChar_pair {high low : Nat} (hhigh : isHigh high = true) (hlow : isLow low = true) :
    encodeChar order (pairChar high low) = order.bytes high ++ order.bytes low := by
  simp only [isHigh, isLow, Bool.and_eq_true, decide_eq_true_eq] at hhigh hlow
  rw [encodeChar, pairChar, Utf8.toNat_ofNat (by omega) (by omega), unitsOfPoint, if_neg (by omega)]
  have hopens : 0xD800 + (0x10000 + (high - 0xD800) * 1024 + (low - 0xDC00) - 0x10000) / 1024 =
      high := by omega
  have hcloses : 0xDC00 + (0x10000 + (high - 0xD800) * 1024 + (low - 0xDC00) - 0x10000) % 1024 =
      low := by omega
  simp [hopens, hcloses]

/-- What is read without a fault is an encoded text. -/
theorem encode_of_readFrom {position : Nat} {done text : List Char} {bytes : Bytes}
    (h : readFrom order position done bytes = (text, none)) :
    ∃ rest, text = done.reverse ++ rest ∧ bytes = encode order rest := by
  fun_induction readFrom order position done bytes with
  | case1 position done => exact ⟨[], by simpa [eq_comm] using h, rfl⟩
  | case2 | case4 | case5 | case6 => simp at h
  | case3 position done a b unit hhigh c d rest next hlow ih =>
      obtain ⟨more, rfl, rfl⟩ := ih h
      refine ⟨pairChar unit next :: more, by simp, ?_⟩
      rw [encode_cons, encodeChar_pair hhigh hlow, bytes_unit, bytes_unit]
      rfl
  | case7 position done a b rest unit hhigh hlow ih =>
      obtain ⟨more, rfl, rfl⟩ := ih h
      refine ⟨Char.ofNat unit :: more, by simp, ?_⟩
      rw [encode_cons, encodeChar_unit (by simpa using hhigh) (by simpa using hlow)]
      rfl

theorem read_eq_none_iff {bytes : Bytes} {text : List Char} :
    read order bytes = (text, none) ↔ bytes = encode order text := by
  constructor
  · intro h
    obtain ⟨rest, rfl, hrest⟩ := encode_of_readFrom h
    exact hrest
  · rintro rfl
    exact read_encode order text

end Read

/-- At offset `p`, after a text, the bytes have a high surrogate before a whole unit that is no low
one. -/
def LoneHighAt (order : ByteOrder) (bytes : Bytes) (p : Nat) : Prop :=
  ∃ before high next rest,
    bytes = encode order before ++ (order.bytes high ++ (order.bytes next ++ rest)) ∧
      p = (encode order before).length ∧ isHigh high = true ∧ next < 0x10000 ∧ isLow next = false

/-! ## The mark at the start of a text -/

theorem mark_eq_encodeChar : order.mark = encodeChar order '\uFEFF' := by cases order <;> decide

/-- What is encoded opens with the mark only if the text does. -/
theorem head?_of_mark_isPrefix {text : List Char} (h : order.mark <+: encode order text) :
    text.head? = some '\uFEFF' := by
  obtain ⟨rest, hrest⟩ := h
  rw [mark_eq_encodeChar] at hrest
  obtain ⟨position, hread⟩ := readFrom_encodeChar order '\uFEFF' 0 [] rest
  rw [hrest, readFrom_encode] at hread
  -- what is read after the mark keeps it as the first character
  obtain ⟨more, htext, -⟩ := encode_of_readFrom hread.symm
  rw [List.reverse_nil, List.nil_append] at htext
  simp [htext]

/-! ## Characters of one unit -/

theorem length_encodeChar {c : Char} (h : c.toNat < 0x10000) : (encodeChar order c).length = 2 := by
  cases order <;> simp [encodeChar, unitsOfPoint, h, ByteOrder.bytes]

theorem length_encode {text : List Char} (h : ∀ c ∈ text, c.toNat < 0x10000) :
    (encode order text).length = 2 * text.length := by
  induction text with
  | nil => rfl
  | cons c rest ih =>
      rw [encode_cons, List.length_append, length_encodeChar order (h c (by simp)),
        ih fun d hd => h d (by simp [hd]), List.length_cons]
      omega

/-- An even number of bytes ends between two characters. -/
theorem take_encode {text : List Char} (h : ∀ c ∈ text, c.toNat < 0x10000) (n : Nat) :
    (encode order text).take (2 * n) = encode order (text.take n) := by
  induction text generalizing n with
  | nil => simp
  | cons c rest ih =>
      cases n with
      | zero => simp
      | succ n =>
          have hlength := length_encodeChar order (h c (by simp))
          rw [encode_cons, List.take_append, hlength, List.take_of_length_le (by omega),
            show 2 * (n + 1) - 2 = 2 * n by omega, ih fun d hd => h d (by simp [hd])]
          rfl

/-! ## Texts in ASCII -/

/-- A character in ASCII other than the zero. -/
def IsPlain (c : Char) : Prop := 0 < c.toNat ∧ c.toNat < 0x80

instance (c : Char) : Decidable (IsPlain c) :=
  inferInstanceAs (Decidable (0 < c.toNat ∧ c.toNat < 0x80))

theorem IsPlain.lt {c : Char} (h : IsPlain c) : c.toNat < 0x10000 :=
  Nat.lt_trans h.2 (by decide)

/-- The one unit of such a character: its only byte that is not zero, in the order of bytes. -/
theorem encodeChar_of_isPlain {c : Char} (h : IsPlain c) :
    ∃ b : UInt8, b ≠ 0 ∧ b < 0x80 ∧
      encodeChar order c = match order with
        | .littleEndian => [b, 0]
        | .bigEndian => [0, b] := by
  obtain ⟨hpos, hlt⟩ := h
  have hbyte : (UInt8.ofNat c.toNat).toNat = c.toNat :=
    UInt8.toNat_ofNat_of_lt' (show c.toNat < 256 by omega)
  refine ⟨UInt8.ofNat c.toNat, ?_, ?_, ?_⟩
  · intro hzero
    rw [hzero] at hbyte
    simp at hbyte
    omega
  · rw [UInt8.lt_iff_toNat_lt, hbyte]
    exact hlt
  · have hmod : c.toNat % 256 = c.toNat := Nat.mod_eq_of_lt (by omega)
    have hdiv : c.toNat / 256 = 0 := Nat.div_eq_of_lt (by omega)
    have hbasic : c.toNat < 0x10000 := by omega
    cases order <;> simp [encodeChar, unitsOfPoint, hbasic, ByteOrder.bytes, hmod, hdiv]

/-- Such a text is stored in ASCII bytes, a zero in each unit. -/
theorem isAscii_encode {text : List Char} (h : ∀ c ∈ text, IsPlain c) :
    Bytes.isAscii (encode order text) = true := by
  induction text with
  | nil => rfl
  | cons c rest ih =>
      obtain ⟨b, -, hb, hbytes⟩ := encodeChar_of_isPlain order (h c (by simp))
      have hrest := ih fun d hd => h d (by simp [hd])
      rw [encode_cons, hbytes]
      simp only [Bytes.isAscii] at hrest ⊢
      cases order <;> simp [hb, hrest]

theorem zero_mem_encode {text : List Char} (hne : text ≠ []) (h : ∀ c ∈ text, IsPlain c) :
    0 ∈ encode order text := by
  obtain ⟨c, rest, rfl⟩ := List.exists_cons_of_ne_nil hne
  obtain ⟨b, -, -, hbytes⟩ := encodeChar_of_isPlain order (h c (by simp))
  rw [encode_cons, hbytes]
  cases order <;> simp

end TidyCsv.Utf16
