import TidyCsv.Proofs.Text.Utf8
import TidyCsv.Text.Lines

/-! # Lines of decoded text

A line feed ends whatever sequence of bytes comes before it, and no other bytes are decoded to one.
So decoding may be split after every line, and the lines of the text are those of the bytes. -/

namespace TidyCsv

namespace Utf8

/-! ## Sequences and ASCII -/

/-- A state from which no byte of ASCII goes on, and no character of ASCII comes out. -/
def State.Beyond : State → Prop
  | .ready => True
  | .within value missing least greatest =>
    0x80 ≤ least.toNat ∧ greatest.toNat ≤ 0xBF ∧
      0x80 ≤ (value * 64 + (least.toNat - 0x80)) * Nat.pow 64 (missing - 1)

theorem beyond_start (b : UInt8) : (start b).1.Beyond := by
  have hone : Nat.pow 64 (1 - 1) = 1 := rfl
  have htwo : Nat.pow 64 (2 - 1) = 64 := rfl
  have hthree : Nat.pow 64 (3 - 1) = 4096 := rfl
  unfold start
  split
  · trivial
  · split
    · next state hlead =>
        unfold afterLead at hlead
        dsimp only at hlead
        split_ifs at hlead <;> obtain rfl := Option.some.inj hlead <;>
          simp only [State.Beyond, UInt8.reduceToNat, hone, htwo, hthree] <;> omega
    · trivial

theorem State.Beyond.step {state : State} (h : state.Beyond) (b : UInt8) :
    (state.step b).1.Beyond := by
  cases state with
  | ready => exact beyond_start b
  | within value missing least greatest =>
      obtain ⟨hleast, hgreatest, hpoint⟩ := h
      unfold State.step
      dsimp only
      split
      · next hbounds =>
          split
          · trivial
          · next hmissing =>
              rw [UInt8.le_iff_toNat_le, UInt8.le_iff_toNat_le] at hbounds
              refine ⟨by decide, by decide, ?_⟩
              obtain ⟨n, rfl⟩ : ∃ n, missing = n + 2 := ⟨missing - 2, by omega⟩
              have hvalue : value * 64 + (least.toNat - 0x80) ≤ value * 64 + b.toNat % 64 := by
                omega
              have hpow : Nat.pow 64 (n + 1) = 64 * Nat.pow 64 n := Nat.pow_succ'
              calc 0x80 ≤ (value * 64 + (least.toNat - 0x80)) * Nat.pow 64 (n + 1) := hpoint
                _ = (value * 64 + (least.toNat - 0x80)) * 64 * Nat.pow 64 n := by
                    rw [hpow, Nat.mul_assoc]
                _ ≤ (value * 64 + b.toNat % 64) * 64 * Nat.pow 64 n :=
                    Nat.mul_le_mul_right _ (Nat.mul_le_mul_right _ hvalue)
      · exact beyond_start b

/-- What is reported of a sequence that is cut off. -/
def State.cutOff : State → List Token
  | .ready => []
  | .within .. => [.malformed]

/-- A byte of ASCII is read as itself, and cuts off the sequence before it. -/
theorem State.Beyond.step_of_lt {state : State} (h : state.Beyond) {b : UInt8} (hb : b < 0x80) :
    state.step b = (.ready, state.cutOff ++ [.char (Char.ofNat b.toNat)]) := by
  have hstart : start b = (.ready, [.char (Char.ofNat b.toNat)]) := by
    unfold start
    rw [if_pos hb]
  cases state with
  | ready => exact hstart
  | within value missing least greatest =>
      obtain ⟨hleast, -, -⟩ := h
      have hbelow : ¬ (least ≤ b ∧ b ≤ greatest) := by
        rw [UInt8.lt_iff_toNat_lt] at hb
        rw [UInt8.le_iff_toNat_le]
        exact fun hbounds => absurd (Nat.le_trans hleast hbounds.1) (Nat.not_le_of_lt hb)
      simp [State.step, hbelow, hstart, State.cutOff]

theorem eq_newline_of_ofNat {n : Nat} (h : Char.ofNat n = '\n') : n = 0x0A := by
  by_cases hvalid : n.isValidChar
  · have hnat := congrArg Char.toNat h
    rwa [toNat_ofNat (by unfold Nat.isValidChar at hvalid; omega)
      (by unfold Nat.isValidChar at hvalid; omega)] at hnat
  · rw [Char.ofNat, dif_neg hvalid] at h
    exact absurd h (by decide)

/-- A line feed is decoded from a line feed only. -/
theorem State.Beyond.eq_newline {state : State} (h : state.Beyond) {b : UInt8}
    (hmem : .char '\n' ∈ (state.step b).2) : b = Bytes.newline := by
  have hstart : .char '\n' ∈ (start b).2 → b = Bytes.newline := by
    unfold start
    intro hmem
    split at hmem
    · have hchar : '\n' = Char.ofNat b.toNat := by simpa using hmem
      exact UInt8.toNat_inj.mp (eq_newline_of_ofNat hchar.symm)
    · split at hmem <;> simp at hmem
  cases state with
  | ready => exact hstart hmem
  | within value missing least greatest =>
      obtain ⟨hleast, hgreatest, hpoint⟩ := h
      unfold State.step at hmem
      dsimp only at hmem
      split at hmem
      · next hbounds =>
          split at hmem
          · next hmissing =>
              have hchar : '\n' = Char.ofNat (value * 64 + b.toNat % 64) := by simpa using hmem
              have hpoint' := eq_newline_of_ofNat hchar.symm
              rw [UInt8.le_iff_toNat_le, UInt8.le_iff_toNat_le] at hbounds
              have hpow : Nat.pow 64 (missing - 1) = 1 := by rw [show missing - 1 = 0 by omega]
              rw [hpow] at hpoint
              omega
          · simp at hmem
      · exact hstart (by simpa using hmem)

/-! ## Decoding in parts -/

theorem scanFrom_cons (state : State) (done : List Token) (b : UInt8) (rest : Bytes) :
    scanFrom state done (b :: rest) =
      scanFrom (state.step b).1 ((state.step b).2.reverse ++ done) rest := by
  rw [scanFrom]
  split
  · next hstep => simp [hstep]
  · next hstep => simp [hstep]
  · next hstep => simp [hstep]

theorem scanFrom_append (state : State) (done : List Token) (bytes more : Bytes) :
    scanFrom state done (bytes ++ more) =
      scanFrom (scanFrom state done bytes).1 (scanFrom state done bytes).2 more := by
  induction bytes generalizing state done with
  | nil => rfl
  | cons b rest ih => rw [List.cons_append, scanFrom_cons, scanFrom_cons, ih]

theorem State.Beyond.scanFrom {state : State} (h : state.Beyond) (done : List Token)
    (bytes : Bytes) : (Utf8.scanFrom state done bytes).1.Beyond := by
  induction bytes generalizing state done with
  | nil => exact h
  | cons b rest ih =>
      rw [scanFrom_cons]
      exact ih (h.step b) _

theorem tokens_eq (bytes : Bytes) :
    tokens bytes = (scanFrom .ready [] bytes).2.reverse ++ (scanFrom .ready [] bytes).1.cutOff := by
  unfold tokens
  split
  · next hscan => simp [hscan, State.cutOff]
  · next hscan => simp [hscan, State.cutOff]

theorem tokens_append_cons (bytes : Bytes) {b : UInt8} (hb : b < 0x80) (rest : Bytes) :
    tokens (bytes ++ b :: rest) = tokens bytes ++ .char (Char.ofNat b.toNat) :: tokens rest := by
  have hready : State.Beyond .ready := trivial
  have hrest := scanFrom_append_done .ready rest []
    ((((scanFrom .ready [] bytes).1.cutOff ++ [Token.char (Char.ofNat b.toNat)]).reverse) ++
      (scanFrom .ready [] bytes).2)
  rw [List.nil_append] at hrest
  rw [tokens_eq, scanFrom_append, scanFrom_cons, (hready.scanFrom [] bytes).step_of_lt hb, hrest,
    tokens_eq bytes, tokens_eq rest]
  simp

/-- Text has line feeds only where the bytes have them. -/
theorem newline_mem_of_scanFrom {state : State} (hstate : state.Beyond) {done : List Token}
    {bytes : Bytes} (h : .char '\n' ∈ (scanFrom state done bytes).2) :
    .char '\n' ∈ done ∨ Bytes.newline ∈ bytes := by
  induction bytes generalizing state done with
  | nil => exact .inl h
  | cons b rest ih =>
      rw [scanFrom_cons] at h
      rcases ih (hstate.step b) h with hdone | hrest
      · rcases List.mem_append.mp hdone with hstep | hdone
        · have hb := hstate.eq_newline (List.mem_reverse.mp hstep)
          exact .inr (by simp [hb])
        · exact .inl hdone
      · exact .inr (List.mem_cons_of_mem b hrest)

theorem newline_not_mem_decodeLossy {bytes : Bytes} (h : Bytes.newline ∉ bytes) :
    '\n' ∉ decodeLossy bytes := by
  intro hmem
  obtain ⟨token, htoken, hchar⟩ := List.mem_map.mp hmem
  cases token with
  | malformed => simp [Token.toChar] at hchar
  | char c =>
      obtain rfl : c = '\n' := hchar
      rw [tokens_eq] at htoken
      rcases List.mem_append.mp htoken with hscan | hcut
      · have hready : State.Beyond .ready := trivial
        rcases newline_mem_of_scanFrom hready (List.mem_reverse.mp hscan) with hdone | hbytes
        · simp at hdone
        · exact h hbytes
      · cases hstate : (scanFrom .ready [] bytes).1 <;> simp [hstate, State.cutOff] at hcut

theorem decodeLossy_line (line rest : Bytes) :
    decodeLossy (line ++ Bytes.newline :: rest) =
      decodeLossy line ++ '\n' :: decodeLossy rest := by
  simp only [decodeLossy, tokens_append_cons line (by decide : Bytes.newline < 0x80),
    List.map_append, List.map_cons]
  rfl

end Utf8

namespace Text

/-! ## Lines -/

theorem linesFrom_cons_of_ne {c : Char} (hc : c ≠ '\n') (done : List (List Char))
    (current rest : List Char) :
    linesFrom done current (c :: rest) = linesFrom done (c :: current) rest := by
  rw [linesFrom]
  exact hc

theorem linesFrom_append_done (done more : List (List Char)) (current text : List Char) :
    linesFrom (done ++ more) current text = more.reverse ++ linesFrom done current text := by
  induction text generalizing done current with
  | nil => cases current <;> simp [linesFrom]
  | cons c rest ih =>
      by_cases hc : c = '\n'
      · rw [hc, linesFrom, linesFrom]
        exact ih (closeLine current :: done) []
      · rw [linesFrom_cons_of_ne hc, linesFrom_cons_of_ne hc, ih]

theorem linesFrom_append {line : List Char} (h : '\n' ∉ line) (done : List (List Char))
    (current rest : List Char) :
    linesFrom done current (line ++ rest) = linesFrom done (line.reverse ++ current) rest := by
  induction line generalizing current with
  | nil => rfl
  | cons c line ih =>
      simp only [List.mem_cons, not_or] at h
      obtain ⟨hc, hline⟩ := h
      rw [List.cons_append, linesFrom_cons_of_ne (Ne.symm hc), ih hline]
      simp

theorem lines_line {line : List Char} (h : '\n' ∉ line) (rest : List Char) :
    lines (line ++ '\n' :: rest) = closeLine line.reverse :: lines rest := by
  rw [lines, linesFrom_append h, linesFrom, List.append_nil]
  exact linesFrom_append_done [] [closeLine line.reverse] [] rest

theorem closeLine_of_ne {line : List Char} (h : ∀ rest, line ≠ '\r' :: rest) :
    closeLine line = line.reverse := by
  unfold closeLine
  split
  · exact absurd rfl (h _)
  · rfl

theorem closeLine_append {front : List Char} (hfront : ∀ c ∈ front, c ≠ '\r') (line : List Char) :
    closeLine (line ++ front.reverse) = front ++ closeLine line := by
  cases line with
  | nil =>
      have hnone : ∀ rest, front.reverse ≠ '\r' :: rest := by
        intro rest hrest
        exact hfront '\r' (List.mem_reverse.mp (by simp [hrest])) rfl
      rw [List.nil_append, closeLine_of_ne hnone]
      simp [closeLine]
  | cons c rest =>
      by_cases hc : c = '\r'
      · simp [hc, closeLine]
      · rw [closeLine_of_ne (by simp [hc]), closeLine_of_ne (by simp [hc])]
        simp

theorem exists_first_line (text : List Char) :
    ∃ first others, ∀ front : List Char, front ≠ [] → (∀ c ∈ front, c ≠ '\n' ∧ c ≠ '\r') →
      lines (front ++ text) = (front ++ first) :: others := by
  by_cases hmem : '\n' ∈ text
  · obtain ⟨line, rest, rfl, hline⟩ := List.eq_append_cons_of_mem hmem
    refine ⟨closeLine line.reverse, lines rest, fun front _ hfront => ?_⟩
    have hnot : '\n' ∉ front ++ line := by
      intro h
      rcases List.mem_append.mp h with h | h
      · exact (hfront _ h).1 rfl
      · exact hline h
    rw [← List.append_assoc, lines_line hnot, List.reverse_append,
      closeLine_append fun c hc => (hfront c hc).2]
  · refine ⟨text, [], fun front hne hfront => ?_⟩
    have hnot : '\n' ∉ front ++ text := by
      intro h
      rcases List.mem_append.mp h with h | h
      · exact (hfront _ h).1 rfl
      · exact hmem h
    have hlast := linesFrom_append hnot [] [] []
    rw [List.append_nil] at hlast
    rw [lines, hlast]
    simp [linesFrom, hne]

end Text

end TidyCsv
