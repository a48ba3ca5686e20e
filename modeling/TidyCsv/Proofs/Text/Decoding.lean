import TidyCsv.Proofs.Text.Utf8
import Mathlib.Tactic.ByContra

/-! # What can be decoded

A decoder that meets no fault has read the encoding of the text that it yields. So the valid bytes
are the encoded texts, and no two sequences of bytes are read as the same text. -/

namespace TidyCsv.Utf8

/-! ## One byte -/

/-- A byte that opens no sequence and is no character of its own is malformed. -/
theorem start_eq_nil {b : UInt8} {next : State} (h : start b = (next, [])) :
    ∃ k, 2 ≤ k ∧ k < 0x35 ∧ b = UInt8.ofNat (0xC0 + k) := by
  have hrange : 0xC2 ≤ b.toNat ∧ b.toNat ≤ 0xF4 := by
    unfold start at h
    split at h
    · simp at h
    · split at h
      · next hlead =>
          unfold afterLead at hlead
          dsimp only at hlead
          split_ifs at hlead <;> omega
      · simp at h
  refine ⟨b.toNat - 0xC0, by omega, by omega, ?_⟩
  rw [Nat.add_sub_cancel' (by omega), UInt8.ofNat_toNat]

theorem start_eq_char {b : UInt8} {next : State} {c : Char} {tokens : List Token}
    (h : start b = (next, .char c :: tokens)) :
    b < 0x80 ∧ next = .ready ∧ c = Char.ofNat b.toNat := by
  unfold start at h
  split at h
  · next hlow =>
      obtain ⟨hnext, htokens⟩ := Prod.mk.inj h
      obtain ⟨hc, -⟩ := List.cons.inj htokens
      exact ⟨hlow, hnext.symm, (Token.char.inj hc).symm⟩
  · split at h <;> simp at h

/-- A byte inside of a sequence that is no fault adds six bits. -/
theorem step_within_ok {value missing : Nat} {least greatest b : UInt8} {next : State}
    {tokens : List Token} (hleast : 0x80 ≤ least.toNat) (hgreatest : greatest.toNat ≤ 0xBF)
    (h : (State.within value missing least greatest).step b = (next, tokens))
    (hok : ∀ rest, tokens ≠ .malformed :: rest) :
    ∃ m, m < 64 ∧ b = UInt8.ofNat (0x80 + m) ∧ least.toNat ≤ 0x80 + m ∧
      0x80 + m ≤ greatest.toNat := by
  unfold State.step at h
  dsimp only at h
  split at h
  · next hbounds =>
      rw [UInt8.le_iff_toNat_le, UInt8.le_iff_toNat_le] at hbounds
      refine ⟨b.toNat - 0x80, by omega, ?_, by omega, by omega⟩
      rw [Nat.add_sub_cancel' (by omega), UInt8.ofNat_toNat]
  · exact absurd (Prod.mk.inj h).2.symm (hok _)

namespace Reads

theorem last_inv {value : Nat} {least greatest : UInt8} {bytes : Bytes} {c : Char}
    (hleast : 0x80 ≤ least.toNat) (hgreatest : greatest.toNat ≤ 0xBF)
    (h : Reads (.within value 1 least greatest) bytes c) :
    ∃ m, m < 64 ∧ least.toNat ≤ 0x80 + m ∧ 0x80 + m ≤ greatest.toNat ∧
      bytes = [UInt8.ofNat (0x80 + m)] ∧ c = Char.ofNat (value * 64 + m) := by
  cases h with
  | last h =>
      obtain ⟨m, hm, rfl, hl, hg⟩ := step_within_ok hleast hgreatest h (by simp)
      rw [step_within hm hl hg, if_pos (Nat.le_refl 1)] at h
      exact ⟨m, hm, hl, hg, rfl, by simpa [eq_comm] using h⟩
  | more h hrest =>
      obtain ⟨m, hm, rfl, hl, hg⟩ := step_within_ok hleast hgreatest h (by simp)
      rw [step_within hm hl hg, if_pos (Nat.le_refl 1)] at h
      simp at h

theorem further_inv {value missing : Nat} {least greatest : UInt8} {bytes : Bytes} {c : Char}
    (hleast : 0x80 ≤ least.toNat) (hgreatest : greatest.toNat ≤ 0xBF)
    (h : Reads (.within value (missing + 2) least greatest) bytes c) :
    ∃ m rest, m < 64 ∧ least.toNat ≤ 0x80 + m ∧ 0x80 + m ≤ greatest.toNat ∧
      bytes = UInt8.ofNat (0x80 + m) :: rest ∧
      Reads (.within (value * 64 + m) (missing + 1) 0x80 0xBF) rest c := by
  cases h with
  | last h =>
      obtain ⟨m, hm, rfl, hl, hg⟩ := step_within_ok hleast hgreatest h (by simp)
      rw [step_within hm hl hg, if_neg (by omega)] at h
      simp at h
  | more h hrest =>
      obtain ⟨m, hm, rfl, hl, hg⟩ := step_within_ok hleast hgreatest h (by simp)
      rw [step_within hm hl hg, if_neg (by omega)] at h
      obtain ⟨rfl, -⟩ := Prod.mk.inj h
      exact ⟨m, _, hm, hl, hg, rfl, hrest⟩

end Reads

theorem bounds_leastSecond (length bits : Nat) :
    0x80 ≤ (leastSecond length bits).toNat ∧
      (length = 3 → bits = 0 → (leastSecond length bits).toNat = 0xA0) ∧
      (length = 4 → bits = 0 → (leastSecond length bits).toNat = 0x90) := by
  unfold leastSecond
  refine ⟨?_, ?_, ?_⟩
  · split_ifs <;> decide
  · rintro rfl rfl
    rfl
  · rintro rfl rfl
    rfl

theorem bounds_greatestSecond (length bits : Nat) :
    (greatestSecond length bits).toNat ≤ 0xBF ∧
      (length = 3 → bits = 13 → (greatestSecond length bits).toNat = 0x9F) ∧
      (length = 4 → bits = 4 → (greatestSecond length bits).toNat = 0x8F) := by
  unfold greatestSecond
  refine ⟨?_, ?_, ?_⟩
  · split_ifs <;> decide
  · rintro rfl rfl
    rfl
  · rintro rfl rfl
    rfl

/-! ## One character -/

theorem encodePoint_of_two {k m : Nat} (hleast : 2 ≤ k) (hk : k < 32) (hm : m < 64) :
    encodePoint (k * 64 + m) = [UInt8.ofNat (0xC0 + k), UInt8.ofNat (0x80 + m)] := by
  rw [encodePoint, if_neg (by omega), if_pos (by omega), show (k * 64 + m) / 64 = k by omega,
    show (k * 64 + m) % 64 = m by omega]

theorem encodePoint_of_three {k m m' : Nat} (hleast : 0x20 ≤ k * 64 + m) (hk : k < 16)
    (hm : m < 64) (hm' : m' < 64) :
    encodePoint ((k * 64 + m) * 64 + m') =
      [UInt8.ofNat (0xE0 + k), UInt8.ofNat (0x80 + m), UInt8.ofNat (0x80 + m')] := by
  rw [encodePoint, if_neg (by omega), if_neg (by omega), if_pos (by omega),
    show ((k * 64 + m) * 64 + m') / 4096 = k by omega,
    show ((k * 64 + m) * 64 + m') / 64 % 64 = m by omega,
    show ((k * 64 + m) * 64 + m') % 64 = m' by omega]

theorem encodePoint_of_four {k m m' m'' : Nat} (hleast : 0x10 ≤ k * 64 + m) (hm : m < 64)
    (hm' : m' < 64) (hm'' : m'' < 64) :
    encodePoint (((k * 64 + m) * 64 + m') * 64 + m'') =
      [UInt8.ofNat (0xF0 + k), UInt8.ofNat (0x80 + m), UInt8.ofNat (0x80 + m'),
        UInt8.ofNat (0x80 + m'')] := by
  rw [encodePoint, if_neg (by omega), if_neg (by omega), if_neg (by omega),
    show (((k * 64 + m) * 64 + m') * 64 + m'') / 262144 = k by omega,
    show (((k * 64 + m) * 64 + m') * 64 + m'') / 4096 % 64 = m by omega,
    show (((k * 64 + m) * 64 + m') * 64 + m'') / 64 % 64 = m' by omega,
    show (((k * 64 + m) * 64 + m') * 64 + m'') % 64 = m'' by omega]

theorem encodeChar_of_lt {b : UInt8} (h : b < 0x80) : encodeChar (Char.ofNat b.toNat) = [b] := by
  have hn : b.toNat < 0x80 := UInt8.lt_iff_toNat_lt.mp h
  rw [encodeChar, toNat_ofNat (by omega) (by omega), encodePoint, if_pos hn, UInt8.ofNat_toNat]

/-- Bytes that lead the decoder to the end of a character are the bytes of that character. -/
theorem Reads.eq_encodeChar {bytes : Bytes} {c : Char} (h : Reads .ready bytes c) :
    bytes = encodeChar c := by
  have htail : 0x80 ≤ (0x80 : UInt8).toNat ∧ (0xBF : UInt8).toNat ≤ 0xBF := by decide
  cases h with
  | last h =>
      next b =>
      obtain ⟨hlow, -, rfl⟩ := start_eq_char (show start b = _ from h)
      exact (encodeChar_of_lt hlow).symm
  | more h hrest =>
      next state b rest =>
      obtain ⟨k, hleast, hk, rfl⟩ := start_eq_nil (show start b = _ from h)
      change start _ = _ at h
      -- The lead byte says how many bytes follow.
      rcases Nat.lt_or_ge k 0x20 with htwo | hmore
      · rw [start_lead_of_two hleast htwo] at h
        obtain ⟨rfl, -⟩ := Prod.mk.inj h
        obtain ⟨m, hm, -, -, rfl, rfl⟩ := hrest.last_inv htail.1 htail.2
        rw [encodeChar, toNat_ofNat (by omega) (by omega), encodePoint_of_two hleast htwo hm]
      · rcases Nat.lt_or_ge k 0x30 with hthree | hfour
        · obtain ⟨k, rfl⟩ : ∃ j, k = 0x20 + j := ⟨k - 0x20, by omega⟩
          rw [← Nat.add_assoc, start_lead_of_three (by omega)] at h
          obtain ⟨rfl, -⟩ := Prod.mk.inj h
          obtain ⟨hl, hlow, -⟩ := bounds_leastSecond 3 k
          obtain ⟨hg, hhigh, -⟩ := bounds_greatestSecond 3 k
          obtain ⟨m, tail, hm, hml, hmg, rfl, htwo⟩ := hrest.further_inv hl hg
          obtain ⟨m', hm', -, -, rfl, rfl⟩ := htwo.last_inv htail.1 htail.2
          have hleast : k = 0 → 0x20 ≤ m := fun hk => by have := hlow rfl hk; omega
          have hsurrogate : k = 13 → m < 0x20 := fun hk => by have := hhigh rfl hk; omega
          rw [encodeChar, toNat_ofNat (by omega) (by omega), ← Nat.add_assoc,
            encodePoint_of_three (by omega) (by omega) hm hm']
        · obtain ⟨k, rfl⟩ : ∃ j, k = 0x30 + j := ⟨k - 0x30, by omega⟩
          rw [← Nat.add_assoc, start_lead_of_four (by omega)] at h
          obtain ⟨rfl, -⟩ := Prod.mk.inj h
          obtain ⟨hl, -, hlow⟩ := bounds_leastSecond 4 k
          obtain ⟨hg, -, hhigh⟩ := bounds_greatestSecond 4 k
          obtain ⟨m, tail, hm, hml, hmg, rfl, hthree⟩ := hrest.further_inv hl hg
          obtain ⟨m', tail', hm', -, -, rfl, htwo⟩ := hthree.further_inv htail.1 htail.2
          obtain ⟨m'', hm'', -, -, rfl, rfl⟩ := htwo.last_inv htail.1 htail.2
          have hleast : k = 0 → 0x10 ≤ m := fun hk => by have := hlow rfl hk; omega
          have hmax : k = 4 → m < 0x10 := fun hk => by have := hhigh rfl hk; omega
          rw [encodeChar, toNat_ofNat (by omega) (by omega), ← Nat.add_assoc,
            encodePoint_of_four (by omega) hm hm' hm'']

/-! ## Texts -/

/-- What the bytes after those that led to a state have to be for a text to be read: the bytes of the
text, or those that are missing of a character and then the bytes of the text after it. -/
def State.Awaits (state : State) (bytes : Bytes) (text : List Char) : Prop :=
  match state with
  | .ready => bytes = encode text
  | .within .. => ∃ first c rest, Reads state first c ∧ bytes = first ++ encode rest ∧
      text = c :: rest

theorem awaits_of_reads {state : State} {first : Bytes} {c : Char} (h : Reads state first c)
    (rest : List Char) : state.Awaits (first ++ encode rest) (c :: rest) := by
  cases state with
  | ready =>
      obtain rfl := h.eq_encodeChar
      rfl
  | within => exact ⟨first, c, rest, h, rfl, rfl⟩

/-- A byte leads into or on in a sequence, or it completes a character, or something is malformed. -/
theorem step_cases (state : State) (b : UInt8) :
    (∃ next, next ≠ .ready ∧ state.step b = (next, [])) ∨
      (∃ c, state.step b = (.ready, [.char c])) ∨
      ∃ next tokens, state.step b = (next, .malformed :: tokens) := by
  cases state with
  | ready =>
      simp only [State.step, start]
      split
      · exact .inr (.inl ⟨_, rfl⟩)
      · split
        · next state hlead =>
            refine .inl ⟨state, ?_, rfl⟩
            rintro rfl
            unfold afterLead at hlead
            dsimp only at hlead
            split_ifs at hlead <;> simp at hlead
        · exact .inr (.inr ⟨_, _, rfl⟩)
  | within value missing least greatest =>
      simp only [State.step]
      split_ifs
      · exact .inr (.inl ⟨_, rfl⟩)
      · exact .inl ⟨_, by simp, rfl⟩
      · exact .inr (.inr ⟨_, _, rfl⟩)

theorem State.Awaits.more {state next : State} {b : UInt8} {bytes : Bytes} {text : List Char}
    (hstep : state.step b = (next, [])) (hnext : next ≠ .ready) (h : next.Awaits bytes text) :
    state.Awaits (b :: bytes) text := by
  cases next with
  | ready => exact absurd rfl hnext
  | within =>
      obtain ⟨first, c, rest, hreads, rfl, rfl⟩ := h
      exact awaits_of_reads (.more hstep hreads) rest

theorem awaits_of_readFrom {state : State} {bytes : Bytes} {position : Nat} {done text : List Char}
    (h : readFrom state position done bytes = (text, none)) :
    ∃ rest, text = done.reverse ++ rest ∧ state.Awaits bytes rest := by
  induction bytes generalizing state position done with
  | nil =>
      cases state with
      | ready => exact ⟨[], by simpa [readFrom, eq_comm] using h, rfl⟩
      | within => simp [readFrom] at h
  | cons b tail ih =>
      rcases step_cases state b with ⟨next, hnext, hstep⟩ | ⟨c, hstep⟩ | ⟨next, tokens, hstep⟩
      · rw [readFrom_of_nil hstep] at h
        obtain ⟨rest, htext, hawaits⟩ := ih h
        exact ⟨rest, htext, hawaits.more hstep hnext⟩
      · rw [readFrom_of_char hstep] at h
        obtain ⟨rest, htext, hawaits⟩ := ih h
        obtain rfl : tail = encode rest := hawaits
        exact ⟨c :: rest, by simpa using htext, awaits_of_reads (.last hstep) rest⟩
      · rw [readFrom_of_malformed hstep] at h
        simp at h

theorem read_eq_none_iff {bytes : Bytes} {text : List Char} :
    read bytes = (text, none) ↔ bytes = encode text := by
  constructor
  · intro h
    obtain ⟨rest, rfl, hawaits⟩ := awaits_of_readFrom h
    exact hawaits
  · rintro rfl
    exact read_encode text

theorem decode?_eq_some_iff {bytes : Bytes} {text : List Char} :
    decode? bytes = some text ↔ bytes = encode text := by
  rw [← read_eq_none_iff, decode?]
  rcases read bytes with ⟨found, _ | fault⟩ <;> simp

/-- Bytes are UTF-8 if they are the encoding of a text. -/
def Valid (bytes : Bytes) : Prop := ∃ text, bytes = encode text

theorem valid_encode (text : List Char) : Valid (encode text) := ⟨text, rfl⟩

theorem valid_iff_decode? {bytes : Bytes} : Valid bytes ↔ (decode? bytes).isSome = true := by
  simp [Valid, Option.isSome_iff_exists, decode?_eq_some_iff]

theorem valid_iff_read {bytes : Bytes} : Valid bytes ↔ (read bytes).2 = none := by
  rw [valid_iff_decode?]
  unfold decode?
  rcases read bytes with ⟨text, _ | fault⟩ <;> simp

theorem isValid_iff {bytes : Bytes} : isValid bytes = true ↔ Valid bytes := by
  rw [valid_iff_read, isValid, Option.isNone_iff_eq_none]

instance (bytes : Bytes) : Decidable (Valid bytes) := decidable_of_iff _ isValid_iff

/-- A surrogate is no character, even if it is spelled like one. -/
example : ¬ Valid [0xED, 0xA0, 0x80] := by decide

theorem valid_of_isAscii {bytes : Bytes} (h : Bytes.isAscii bytes = true) : Valid bytes := by
  induction bytes with
  | nil => exact ⟨[], rfl⟩
  | cons b rest ih =>
      simp only [Bytes.isAscii, List.all_cons, Bool.and_eq_true, decide_eq_true_eq] at h
      obtain ⟨text, rfl⟩ := ih h.2
      exact ⟨Char.ofNat b.toNat :: text, by simp [encode, encodeChar_of_lt h.1]⟩

/-! ## ASCII in a text -/

/-- A byte of ASCII is in an encoded text only as the character that it stands for. -/
theorem mem_encode_iff {b : UInt8} (hb : b < 0x80) {text : List Char} :
    b ∈ encode text ↔ Char.ofNat b.toNat ∈ text := by
  constructor
  · intro h
    obtain ⟨c, hc, hbyte⟩ := List.mem_flatMap.mp h
    have hlow : c.toNat < 0x80 := by
      by_contra hhigh
      have hbeyond : ∀ d ∈ [c], ¬ d.toNat < 0x80 := by simpa using hhigh
      exact not_lt_of_mem_encode hbeyond (by simpa [encode] using hbyte) hb
    obtain rfl : b = UInt8.ofNat c.toNat := by
      simpa [encodeChar, encodePoint, hlow] using hbyte
    rwa [UInt8.toNat_ofNat_of_lt' (by omega : c.toNat < 256), Char.ofNat_toNat]
  · intro h
    exact List.mem_flatMap.mpr ⟨_, h, by simp [encodeChar_of_lt hb]⟩

theorem toNat_ofNat_of_lt {b : UInt8} (hb : b < 0x80) :
    (Char.ofNat b.toNat).toNat = b.toNat ∧ b.toNat < 0x80 := by
  have hlow : b.toNat < 0x80 := UInt8.lt_iff_toNat_lt.mp hb
  exact ⟨toNat_ofNat (by omega) (by omega), hlow⟩

/-! ## Valid bytes -/

theorem Valid.append {bytes more : Bytes} (h : Valid bytes) (hmore : Valid more) :
    Valid (bytes ++ more) := by
  obtain ⟨text, rfl⟩ := h
  obtain ⟨rest, rfl⟩ := hmore
  exact ⟨text ++ rest, (encode_append text rest).symm⟩

/-- A byte of ASCII in the encoding of a character is all of it. -/
theorem encodeChar_eq_singleton {b : UInt8} (hb : b < 0x80) {c : Char} (h : b ∈ encodeChar c) :
    encodeChar c = [b] := by
  have hmem : Char.ofNat b.toNat ∈ [c] := (mem_encode_iff hb).mp (by simpa [encode] using h)
  rw [← List.mem_singleton.mp hmem, encodeChar_of_lt hb]

/-- A byte of ASCII is a character of its own, so what is before it and what is after it are
texts. -/
theorem valid_append_cons_iff {b : UInt8} (hb : b < 0x80) {bytes more : Bytes} :
    Valid (bytes ++ b :: more) ↔ Valid bytes ∧ Valid more := by
  have hsingle : Valid [b] := ⟨[Char.ofNat b.toNat], by simp [encode, encodeChar_of_lt hb]⟩
  refine ⟨?_, fun h => h.1.append (hsingle.append h.2)⟩
  rintro ⟨text, htext⟩
  induction text generalizing bytes with
  | nil => simp [encode] at htext
  | cons c rest ih =>
      have hc : Valid (encodeChar c) := ⟨[c], by simp [encode]⟩
      rcases List.append_eq_append_iff.mp htext with ⟨tail, hchar, hmore⟩ | ⟨tail, rfl, hrest⟩
      · cases tail with
        | nil =>
            have hrest : Valid [] ∧ Valid more := ih hmore
            rw [List.append_nil] at hchar
            exact ⟨hchar ▸ hc, hrest.2⟩
        | cons d tail =>
            obtain ⟨rfl, rfl⟩ := List.cons.inj hmore
            have hmem : b ∈ encodeChar c := by simp [hchar]
            have hsame := encodeChar_eq_singleton hb hmem
            obtain ⟨rfl, rfl⟩ : bytes = [] ∧ tail = [] := by
              simpa [List.append_eq_singleton_iff] using hchar.symm.trans hsame
            exact ⟨valid_encode [], valid_encode rest⟩
      · obtain ⟨htail, hvalid⟩ := ih hrest.symm
        exact ⟨hc.append htail, hvalid⟩

theorem Valid.encode_decodeLossy {bytes : Bytes} (h : Valid bytes) :
    encode (decodeLossy bytes) = bytes := by
  obtain ⟨text, rfl⟩ := h
  rw [decodeLossy_encode]

/-! ## The start of a text -/

/-- What is read without a fault has none before any place; at most a sequence is cut there. -/
theorem fault_of_readFrom_append {state : State} {position : Nat} {done : List Char}
    {bytes rest : Bytes} (h : (readFrom state position done (bytes ++ rest)).2 = none) :
    (readFrom state position done bytes).2 = none ∨
      (readFrom state position done bytes).2 = some .truncated := by
  induction bytes generalizing state position done with
  | nil =>
      cases state with
      | ready => exact .inl rfl
      | within => exact .inr rfl
  | cons b tail ih =>
      rw [List.cons_append] at h
      rcases step_cases state b with ⟨next, -, hstep⟩ | ⟨c, hstep⟩ | ⟨next, tokens, hstep⟩
      · rw [readFrom_of_nil hstep] at h ⊢
        exact ih h
      · rw [readFrom_of_char hstep] at h ⊢
        exact ih h
      · rw [readFrom_of_malformed hstep] at h
        simp at h

/-- The first bytes of UTF-8 are UTF-8, or they end inside of a sequence. -/
theorem Valid.take {bytes : Bytes} (h : Valid bytes) (n : Nat) :
    Valid (bytes.take n) ∨ (read (bytes.take n)).2 = some .truncated := by
  have hread : (read (bytes.take n ++ bytes.drop n)).2 = none := by
    rw [List.take_append_drop]
    exact valid_iff_read.mp h
  exact (fault_of_readFrom_append hread).imp_left valid_iff_read.mpr

/-- No text has a byte above 0xF4 in its encoding. -/
theorem toNat_le_of_mem_encode {b : UInt8} {text : List Char} (h : b ∈ encode text) :
    b.toNat ≤ 0xF4 := by
  obtain ⟨c, -, hb⟩ := List.mem_flatMap.mp h
  obtain ⟨hmax, -⟩ := point_bounds c
  have hbyte : ∀ n, n ≤ 0xF4 → (UInt8.ofNat n).toNat ≤ 0xF4 := fun n hn => by
    rwa [UInt8.toNat_ofNat_of_lt' (show n < 256 by omega)]
  simp only [encodeChar, encodePoint] at hb
  split_ifs at hb <;> simp only [List.mem_cons, List.not_mem_nil, or_false] at hb
  · obtain rfl := hb
    exact hbyte _ (by omega)
  · rcases hb with rfl | rfl
    · exact hbyte _ (by omega)
    · exact hbyte _ (by omega)
  · rcases hb with rfl | rfl | rfl
    · exact hbyte _ (by omega)
    · exact hbyte _ (by omega)
    · exact hbyte _ (by omega)
  · rcases hb with rfl | rfl | rfl | rfl
    · exact hbyte _ (by omega)
    · exact hbyte _ (by omega)
    · exact hbyte _ (by omega)
    · exact hbyte _ (by omega)

end TidyCsv.Utf8
