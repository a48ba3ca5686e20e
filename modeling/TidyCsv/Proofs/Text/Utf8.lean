import TidyCsv.Text.Utf8
import Mathlib.Tactic.SplitIfs

/-! # Decoding what was encoded

The bytes of one character lead the decoder from between characters through states that wait for
the rest of it, back to between characters. Each reading of UTF-8 that folds the decoder then gives
the text back. -/

namespace TidyCsv.Utf8

/-! ## One byte -/

theorem start_of_lt {n : Nat} (h : n < 0x80) :
    start (UInt8.ofNat n) = (.ready, [.char (Char.ofNat n)]) := by
  have hbyte : (UInt8.ofNat n).toNat = n :=
    UInt8.toNat_ofNat_of_lt' (show n < 256 by omega)
  have hlow : UInt8.ofNat n < 0x80 := by
    rw [UInt8.lt_iff_toNat_lt, hbyte]
    exact h
  simp [start, hlow, hbyte]

/-- The least byte after the lead byte of a sequence with these bits in it. -/
def leastSecond (length bits : Nat) : UInt8 :=
  if length = 3 ∧ bits = 0 then 0xA0 else if length = 4 ∧ bits = 0 then 0x90 else 0x80

/-- The greatest byte after the lead byte of a sequence with these bits in it. -/
def greatestSecond (length bits : Nat) : UInt8 :=
  if length = 3 ∧ bits = 13 then 0x9F else if length = 4 ∧ bits = 4 then 0x8F else 0xBF

theorem start_lead_of_two {k : Nat} (hleast : 2 ≤ k) (h : k < 32) :
    start (UInt8.ofNat (0xC0 + k)) = (.within k 1 0x80 0xBF, []) := by
  have hall : ∀ k : Fin 32, 2 ≤ k.val →
      start (UInt8.ofNat (0xC0 + k.val)) = (.within k.val 1 0x80 0xBF, []) := by decide
  exact hall ⟨k, h⟩ hleast

theorem start_lead_of_three {k : Nat} (h : k < 16) :
    start (UInt8.ofNat (0xE0 + k)) = (.within k 2 (leastSecond 3 k) (greatestSecond 3 k), []) := by
  have hall : ∀ k : Fin 16, start (UInt8.ofNat (0xE0 + k.val)) =
      (.within k.val 2 (leastSecond 3 k.val) (greatestSecond 3 k.val), []) := by decide
  exact hall ⟨k, h⟩

theorem start_lead_of_four {k : Nat} (h : k < 5) :
    start (UInt8.ofNat (0xF0 + k)) = (.within k 3 (leastSecond 4 k) (greatestSecond 4 k), []) := by
  have hall : ∀ k : Fin 5, start (UInt8.ofNat (0xF0 + k.val)) =
      (.within k.val 3 (leastSecond 4 k.val) (greatestSecond 4 k.val), []) := by decide
  exact hall ⟨k, h⟩

theorem toNat_leastSecond_le {length bits m : Nat}
    (hthree : length = 3 → bits = 0 → 0x20 ≤ m) (hfour : length = 4 → bits = 0 → 0x10 ≤ m) :
    (leastSecond length bits).toNat ≤ 0x80 + m := by
  unfold leastSecond
  split
  · next h =>
      have := hthree h.1 h.2
      simp
      omega
  · split
    · next h =>
        have := hfour h.1 h.2
        simp
        omega
    · simp

theorem le_toNat_greatestSecond {length bits m : Nat} (hm : m < 64)
    (hthree : length = 3 → bits = 13 → m < 0x20) (hfour : length = 4 → bits = 4 → m < 0x10) :
    0x80 + m ≤ (greatestSecond length bits).toNat := by
  unfold greatestSecond
  split
  · next h =>
      have := hthree h.1 h.2
      simp
      omega
  · split
    · next h =>
        have := hfour h.1 h.2
        simp
        omega
    · simp
      omega

theorem step_within {value missing m : Nat} {least greatest : UInt8} (hm : m < 64)
    (hleast : least.toNat ≤ 0x80 + m) (hgreatest : 0x80 + m ≤ greatest.toNat) :
    (State.within value missing least greatest).step (UInt8.ofNat (0x80 + m)) =
      if missing ≤ 1 then (.ready, [.char (Char.ofNat (value * 64 + m))])
      else (.within (value * 64 + m) (missing - 1) 0x80 0xBF, []) := by
  have hbyte : (UInt8.ofNat (0x80 + m)).toNat = 0x80 + m :=
    UInt8.toNat_ofNat_of_lt' (show 0x80 + m < 256 by omega)
  have hmod : (0x80 + m) % 64 = m := by omega
  have hbounds : least ≤ UInt8.ofNat (0x80 + m) ∧ UInt8.ofNat (0x80 + m) ≤ greatest := by
    rw [UInt8.le_iff_toNat_le, UInt8.le_iff_toNat_le, hbyte]
    exact ⟨hleast, hgreatest⟩
  simp only [State.step, if_pos hbounds, hbyte, hmod]

/-! ## One character -/

/-- The bytes lead the decoder from a state to the end of a character. -/
inductive Reads : State → Bytes → Char → Prop where
  | last {state : State} {b : UInt8} {c : Char} (h : state.step b = (.ready, [.char c])) :
      Reads state [b] c
  | more {state next : State} {b : UInt8} {rest : Bytes} {c : Char}
      (h : state.step b = (next, [])) (hrest : Reads next rest c) : Reads state (b :: rest) c

namespace Reads

variable {value n m : Nat} {least greatest : UInt8}

theorem final (hn : value * 64 + m = n) (hm : m < 64) (hleast : least.toNat ≤ 0x80 + m)
    (hgreatest : 0x80 + m ≤ greatest.toNat) :
    Reads (.within value 1 least greatest) [UInt8.ofNat (0x80 + m)] (Char.ofNat n) := by
  refine .last ?_
  rw [step_within hm hleast hgreatest, if_pos (Nat.le_refl 1), hn]

theorem further {missing : Nat} {rest : Bytes} {c : Char} (hn : value * 64 + m = n) (hm : m < 64)
    (hleast : least.toNat ≤ 0x80 + m) (hgreatest : 0x80 + m ≤ greatest.toNat)
    (hrest : Reads (.within n (missing + 1) 0x80 0xBF) rest c) :
    Reads (.within value (missing + 2) least greatest) (UInt8.ofNat (0x80 + m) :: rest) c := by
  refine .more ?_ hrest
  rw [step_within hm hleast hgreatest, if_neg (by omega), hn]
  rfl

end Reads

/-- Code points are the numbers below 0x110000 that are no surrogates. -/
theorem point_bounds (c : Char) :
    c.toNat < 0x110000 ∧ (c.toNat < 0xD800 ∨ 0xDFFF < c.toNat) := by
  have h := c.valid
  simp only [UInt32.isValidChar, Nat.isValidChar] at h
  have hval : c.val.toNat = c.toNat := rfl
  omega

/-- Each number that is a code point is the one of its character. -/
theorem toNat_ofNat {n : Nat} (hmax : n < 0x110000) (hsurrogate : n < 0xD800 ∨ 0xDFFF < n) :
    (Char.ofNat n).toNat = n := by
  have hvalid : n.isValidChar := by
    unfold Nat.isValidChar
    omega
  rw [Char.ofNat, dif_pos hvalid]
  rfl

theorem reads_encodePoint {n : Nat} (hmax : n < 0x110000) (hsurrogate : n < 0xD800 ∨ 0xDFFF < n) :
    Reads .ready (encodePoint n) (Char.ofNat n) := by
  have htail : (0xBF : UInt8).toNat = 0xBF ∧ (0x80 : UInt8).toNat = 0x80 := by decide
  unfold encodePoint
  split_ifs with hone htwo hthree
  · exact .last (start_of_lt hone)
  · refine .more (start_lead_of_two (k := n / 64) (by omega) (by omega)) ?_
    exact .final (by omega) (by omega) (by omega) (by omega)
  · refine .more (start_lead_of_three (k := n / 4096) (by omega)) ?_
    refine .further (n := n / 64) (by omega) (by omega) ?_ ?_ ?_
    · exact toNat_leastSecond_le (by omega) (by omega)
    · exact le_toNat_greatestSecond (by omega) (by omega) (by omega)
    · exact .final (by omega) (by omega) (by omega) (by omega)
  · refine .more (start_lead_of_four (k := n / 262144) (by omega)) ?_
    refine .further (n := n / 4096) (by omega) (by omega) ?_ ?_ ?_
    · exact toNat_leastSecond_le (by omega) (by omega)
    · exact le_toNat_greatestSecond (by omega) (by omega) (by omega)
    · refine .further (n := n / 64) (by omega) (by omega) (by omega) (by omega) ?_
      exact .final (by omega) (by omega) (by omega) (by omega)

theorem reads_encodeChar (c : Char) : Reads .ready (encodeChar c) c := by
  obtain ⟨hmax, hsurrogate⟩ := point_bounds c
  have h := reads_encodePoint hmax hsurrogate
  rwa [Char.ofNat_toNat] at h

/-! ## Texts -/

theorem Reads.scanFrom {state : State} {bytes : Bytes} {c : Char} (h : Reads state bytes c)
    (done : List Token) (rest : Bytes) :
    scanFrom state done (bytes ++ rest) = scanFrom .ready (.char c :: done) rest := by
  induction h with
  | last h => simp [Utf8.scanFrom, h]
  | more h _ ih => simpa [Utf8.scanFrom, h] using ih

theorem scanFrom_append_done (state : State) (bytes : Bytes) (done more : List Token) :
    scanFrom state (done ++ more) bytes =
      ((scanFrom state done bytes).1, (scanFrom state done bytes).2 ++ more) := by
  induction bytes generalizing state done with
  | nil => rfl
  | cons b rest ih =>
      unfold scanFrom
      split
      · exact ih _ done
      · exact ih _ (_ :: done)
      · rw [← List.append_assoc]
        exact ih _ _

/-- The first character of what is decoded is the one whose bytes come first. -/
theorem tokens_encodeChar_append (c : Char) (rest : Bytes) :
    tokens (encodeChar c ++ rest) = .char c :: tokens rest := by
  have h : scanFrom .ready [] (encodeChar c ++ rest) = _ :=
    ((reads_encodeChar c).scanFrom [] rest).trans
      (scanFrom_append_done .ready rest [] [.char c])
  rcases hscan : scanFrom .ready [] rest with ⟨state, done⟩
  cases state <;> simp [tokens, h, hscan]

@[simp] theorem tokens_encode (text : List Char) : tokens (encode text) = text.map Token.char := by
  induction text with
  | nil => rfl
  | cons c rest ih =>
      have h := tokens_encodeChar_append c (encode rest)
      rw [ih] at h
      simpa [encode] using h

@[simp] theorem decodeLossy_encode (text : List Char) : decodeLossy (encode text) = text := by
  simp [decodeLossy, Token.toChar, Function.comp_def]

section ReadFrom

variable {state next : State} {b : UInt8} {c : Char} {tokens : List Token}

theorem readFrom_of_nil (h : state.step b = (next, [])) (position : Nat) (done : List Char)
    (rest : Bytes) :
    readFrom state position done (b :: rest) = readFrom next (position + 1) done rest := by
  cases state with
  | ready => simp [readFrom, show start b = _ from h]
  | within value missing least greatest => simp [readFrom, h]

theorem readFrom_of_char (h : state.step b = (next, .char c :: tokens)) (position : Nat)
    (done : List Char) (rest : Bytes) :
    readFrom state position done (b :: rest) = readFrom next (position + 1) (c :: done) rest := by
  cases state with
  | ready => simp [readFrom, show start b = _ from h]
  | within value missing least greatest => simp [readFrom, h]

theorem readFrom_of_malformed (h : state.step b = (next, .malformed :: tokens)) (position : Nat)
    (done : List Char) (rest : Bytes) :
    readFrom state position done (b :: rest) =
      (done.reverse, some (.malformed (if state = .ready then position + 1 else position))) := by
  cases state with
  | ready => simp [readFrom, show start b = _ from h]
  | within value missing least greatest => simp [readFrom, h]

end ReadFrom

theorem Reads.readFrom {state : State} {bytes : Bytes} {c : Char} (h : Reads state bytes c)
    (position : Nat) (done : List Char) (rest : Bytes) :
    ∃ position', readFrom state position done (bytes ++ rest) =
      readFrom .ready position' (c :: done) rest := by
  induction h generalizing position with
  | last h => exact ⟨position + 1, readFrom_of_char h position done rest⟩
  | more h _ ih =>
      obtain ⟨position', hread⟩ := ih (position + 1)
      exact ⟨position', (readFrom_of_nil h position done _).trans hread⟩

theorem readFrom_encode (text : List Char) (position : Nat) (done : List Char) :
    readFrom .ready position done (encode text) = (done.reverse ++ text, none) := by
  induction text generalizing position done with
  | nil => simp [encode, readFrom]
  | cons c rest ih =>
      obtain ⟨position', hread⟩ := (reads_encodeChar c).readFrom position done (encode rest)
      have hcons : encode (c :: rest) = encodeChar c ++ encode rest := rfl
      rw [hcons, hread, ih]
      simp

@[simp] theorem read_encode (text : List Char) : read (encode text) = (text, none) :=
  readFrom_encode text 0 []

@[simp] theorem decode?_encode (text : List Char) : decode? (encode text) = some text := by
  simp [decode?]

@[simp] theorem encode_append (first second : List Char) :
    encode (first ++ second) = encode first ++ encode second := List.flatMap_append

theorem encode_ne_nil {text : List Char} (h : text ≠ []) : encode text ≠ [] := by
  intro hempty
  have htext := decode?_encode text
  rw [hempty] at htext
  exact h (Option.some.inj htext).symm

/-- No character beyond ASCII has a byte of ASCII. -/
theorem not_lt_of_mem_encode {text : List Char} (h : ∀ c ∈ text, ¬ c.toNat < 0x80) {b : UInt8}
    (hb : b ∈ encode text) : ¬ b < 0x80 := by
  obtain ⟨c, hc, hbyte⟩ := List.mem_flatMap.mp hb
  obtain ⟨hmax, -⟩ := point_bounds c
  have hlow := h c hc
  have hhigh : ∀ n, 0x80 ≤ n → n < 0x100 → ¬ UInt8.ofNat n < 0x80 := by
    intro n hleast hn
    rw [UInt8.lt_iff_toNat_lt, UInt8.toNat_ofNat_of_lt' (show n < 256 by omega)]
    exact Nat.not_lt_of_le hleast
  simp only [encodeChar, encodePoint, if_neg hlow] at hbyte
  split_ifs at hbyte <;> simp only [List.mem_cons, List.not_mem_nil, or_false] at hbyte
  · rcases hbyte with rfl | rfl <;> exact hhigh _ (by omega) (by omega)
  · rcases hbyte with rfl | rfl | rfl <;> exact hhigh _ (by omega) (by omega)
  · rcases hbyte with rfl | rfl | rfl | rfl <;> exact hhigh _ (by omega) (by omega)

theorem length_le_length_encode (text : List Char) : text.length ≤ (encode text).length := by
  induction text with
  | nil => exact Nat.zero_le _
  | cons c rest ih =>
      have hfirst : 1 ≤ (encodeChar c).length := by
        unfold encodeChar encodePoint
        split_ifs <;> simp
      have hsplit : encode (c :: rest) = encodeChar c ++ encode rest := rfl
      rw [hsplit, List.length_append, List.length_cons]
      omega

theorem length_ofString_append (first second : String) :
    (ofString (first ++ second)).length = (ofString first).length + (ofString second).length := by
  simp [ofString, encode]

/-! ## The mark at the start of a text -/

theorem utf8Mark_eq_encodeChar : Bytes.utf8Mark = encodeChar '\uFEFF' := by decide

/-- What is encoded opens with the bytes of the mark only if the text opens with the mark. -/
theorem head?_of_utf8Mark_isPrefix {text : List Char} (h : Bytes.utf8Mark <+: encode text) :
    text.head? = some '\uFEFF' := by
  obtain ⟨rest, hrest⟩ := h
  have htokens := tokens_encodeChar_append '\uFEFF' rest
  rw [← utf8Mark_eq_encodeChar, hrest, tokens_encode] at htokens
  cases text with
  | nil => simp at htokens
  | cons c tail =>
      have hc : c = '\uFEFF' := by simpa using (List.cons.inj htokens).1
      simp [hc]

end TidyCsv.Utf8
