import TidyCsv.Mojibake.Repair
import TidyCsv.Proofs.Encoding.CodePage
import Mathlib.Logic.Function.Iterate
import Mathlib.Tactic.SplitIfs

/-! # Undoing mojibake

Reading UTF-8 as windows-1252 leaves ASCII as it is and makes one sequence of every other character.
So the pieces of the text that comes out are those of its characters, a run of sequences is the
UTF-8 of the characters that it was made from, and repair gives the text back. -/

namespace TidyCsv.Mojibake

open CodePage

/-- What becomes of a character whose UTF-8 is read as windows-1252. -/
def mangleChar (c : Char) : List Char := windows1252.decode (Utf8.encodeChar c)

/-- What becomes of a text whose UTF-8 is read as windows-1252. -/
def mangle (text : List Char) : List Char := windows1252.decode (Utf8.encode text)

theorem mangle_eq_flatMap (text : List Char) : mangle text = text.flatMap mangleChar := by
  simp only [mangle, CodePage.decode, Utf8.encode, List.map_flatMap]
  rfl

@[simp] theorem mangle_cons (c : Char) (rest : List Char) :
    mangle (c :: rest) = mangleChar c ++ mangle rest := by
  simp [mangle_eq_flatMap]

/-! ## What becomes of a character -/

theorem mangleChar_of_lt {c : Char} (h : c.toNat < 0x80) : mangleChar c = [c] := by
  have hbyte : (UInt8.ofNat c.toNat).toNat = c.toNat :=
    UInt8.toNat_ofNat_of_lt' (show c.toNat < 256 by omega)
  have hlow : UInt8.ofNat c.toNat < 0x80 := by
    rw [UInt8.lt_iff_toNat_lt, hbyte]
    exact h
  simp [mangleChar, CodePage.decode, Utf8.encodeChar, Utf8.encodePoint, h, decodeByte_of_lt hlow,
    hbyte]

/-- A lead character, followed by the continuation characters that it asks for. -/
structure IsSequence (lead : Char) (continuations : List Char) : Prop where
  lead_eq_false : isContinuation lead = false
  count_eq : continuationCount lead = continuations.length
  ne_nil : continuations ≠ []
  isContinuation : ∀ c ∈ continuations, isContinuation c = true

theorem isContinuation_decodeByte {m : Nat} (h : m < 64) :
    isContinuation (windows1252.decodeByte (UInt8.ofNat (0x80 + m))) = true := by
  have hall : ∀ m : Fin 64,
      isContinuation (windows1252.decodeByte (UInt8.ofNat (0x80 + m.val))) = true := by
    decide +kernel
  exact hall ⟨m, h⟩

theorem toNat_decodeByte_lead {m : Nat} (h : m < 64) :
    (windows1252.decodeByte (UInt8.ofNat (0xC0 + m))).toNat = 0xC0 + m := by
  have hall : ∀ m : Fin 64,
      (windows1252.decodeByte (UInt8.ofNat (0xC0 + m.val))).toNat = 0xC0 + m.val := by
    decide +kernel
  exact hall ⟨m, h⟩

theorem isContinuation_eq_false {c : Char} (hleast : 0xC0 ≤ c.toNat) (h : c.toNat < 0x100) :
    isContinuation c = false := by
  simp [isContinuation]
  omega

/-- The number of continuation bytes after the byte that is `m` more than 0xC0. -/
def tailLength (m : Nat) : Nat := if m < 0x20 then 1 else if m < 0x30 then 2 else 3

theorem isSequence_decodeByte (m : Nat) (points : List Nat) (hleast : 2 ≤ m) (h : m < 0x35)
    (hlength : points.length = tailLength m) (hpoints : ∀ p ∈ points, p < 64) :
    IsSequence (windows1252.decodeByte (UInt8.ofNat (0xC0 + m)))
      (points.map fun p => windows1252.decodeByte (UInt8.ofNat (0x80 + p))) := by
  have hlead := toNat_decodeByte_lead (show m < 64 by omega)
  refine ⟨isContinuation_eq_false (by omega) (by omega), ?_, ?_, ?_⟩
  · simp only [continuationCount, hlead, List.length_map, hlength, tailLength]
    split_ifs <;> omega
  · intro hnil
    have hzero : points.length = 0 := by simpa using hnil
    rw [hlength, tailLength] at hzero
    split_ifs at hzero
  · intro c hc
    obtain ⟨p, hp, rfl⟩ := List.mem_map.mp hc
    exact isContinuation_decodeByte (hpoints p hp)

theorem isSequence_mangleChar {c : Char} (h : ¬ c.toNat < 0x80) :
    ∃ lead continuations, mangleChar c = lead :: continuations ∧
      IsSequence lead continuations := by
  obtain ⟨hmax, -⟩ := Utf8.point_bounds c
  simp only [mangleChar, Utf8.encodeChar, Utf8.encodePoint, CodePage.decode, if_neg h]
  split_ifs with htwo hthree
  · have hlength : tailLength (c.toNat / 64) = 1 := by
      rw [tailLength, if_pos (by omega)]
    refine ⟨_, _, ?_, isSequence_decodeByte (c.toNat / 64) [c.toNat % 64] (by omega) (by omega)
      hlength.symm ?_⟩
    · rfl
    · simp
      omega
  · have hlength : tailLength (0x20 + c.toNat / 4096) = 2 := by
      rw [tailLength, if_neg (by omega), if_pos (by omega)]
    refine ⟨_, _, ?_, isSequence_decodeByte (0x20 + c.toNat / 4096)
      [c.toNat / 64 % 64, c.toNat % 64] (by omega) (by omega) hlength.symm ?_⟩
    · rw [← Nat.add_assoc]
      rfl
    · simp
      omega
  · have hlength : tailLength (0x30 + c.toNat / 262144) = 3 := by
      rw [tailLength, if_neg (by omega), if_neg (by omega)]
    refine ⟨_, _, ?_, isSequence_decodeByte (0x30 + c.toNat / 262144)
      [c.toNat / 4096 % 64, c.toNat / 64 % 64, c.toNat % 64] (by omega) (by omega)
      hlength.symm ?_⟩
    · rw [← Nat.add_assoc]
      rfl
    · simp
      omega

theorem mangle_of_ascii {text : List Char} (h : ∀ c ∈ text, c.toNat < 0x80) :
    mangle text = text := by
  induction text with
  | nil => rfl
  | cons c rest ih =>
      rw [mangle_cons, mangleChar_of_lt (h c (by simp)), ih fun d hd => h d (by simp [hd])]
      rfl

/-! ## Cutting into pieces -/

theorem piecesFrom_continuations (rest : List Char) (done : List Piece) :
    ∀ {continuations : List Char} (pending : List Char), continuations ≠ [] →
      (∀ c ∈ continuations, isContinuation c = true) →
      piecesFrom done pending continuations.length (continuations ++ rest) =
        piecesFrom (.sequence (pending.reverse ++ continuations) :: done) [] 0 rest := by
  intro continuations
  induction continuations with
  | nil => simp
  | cons c tail ih =>
      intro pending _ hall
      have hc : isContinuation c = true := hall c (by simp)
      cases tail with
      | nil => simp [piecesFrom, hc]
      | cons next tail =>
          have hnext := ih (c :: pending) (by simp) fun d hd => hall d (by simp [hd])
          simpa [piecesFrom, hc] using hnext

/-- A sequence between two pieces is one piece. -/
theorem IsSequence.piecesFrom {lead : Char} {continuations : List Char}
    (h : IsSequence lead continuations) (done : List Piece) (rest : List Char) :
    piecesFrom done [] 0 (lead :: continuations ++ rest) =
      piecesFrom (.sequence (lead :: continuations) :: done) [] 0 rest := by
  have hcontinuations := piecesFrom_continuations rest done [lead] h.ne_nil
    h.isContinuation
  obtain ⟨count, hcount⟩ : ∃ count, continuations.length = count + 1 :=
    Nat.exists_eq_succ_of_ne_zero (by simpa using h.ne_nil)
  rw [hcount] at hcontinuations
  simpa [Mojibake.piecesFrom, h.lead_eq_false, h.count_eq, hcount] using hcontinuations

theorem piecesFrom_of_lt {c : Char} (h : c.toNat < 0x80) (done : List Piece) (rest : List Char) :
    piecesFrom done [] 0 (c :: rest) = piecesFrom (.plain c :: done) [] 0 rest := by
  have hplain : isContinuation c = false := by
    simp [isContinuation]
    omega
  have hcount : continuationCount c = 0 := by
    simp [continuationCount]
    omega
  simp [piecesFrom, hplain, hcount]

/-- The piece that a character becomes. -/
def pieceOf (c : Char) : Piece :=
  if c.toNat < 0x80 then .plain c else .sequence (mangleChar c)

theorem piecesFrom_mangle (text : List Char) (done : List Piece) :
    piecesFrom done [] 0 (mangle text) = done.reverse ++ text.map pieceOf := by
  induction text generalizing done with
  | nil => simp [mangle_eq_flatMap, piecesFrom]
  | cons c rest ih =>
      by_cases h : c.toNat < 0x80
      · rw [mangle_cons, mangleChar_of_lt h, List.singleton_append, piecesFrom_of_lt h, ih]
        simp [pieceOf, h]
      · obtain ⟨lead, continuations, hc, hsequence⟩ := isSequence_mangleChar h
        rw [mangle_cons, hc, hsequence.piecesFrom, ih]
        simp [pieceOf, h, hc]

theorem pieces_mangle (text : List Char) : pieces (mangle text) = text.map pieceOf :=
  piecesFrom_mangle text []

/-! ## Repair -/

/-- The bytes of a run are the UTF-8 of the text that it was made from. -/
theorem repairRun_mangle (text : List Char) : repairRun (mangle text) = some text := by
  simp [repairRun, mangle, encode?_decode]

theorem closeRun_mangle (draft : Draft) (run : List Char) :
    draft.closeRun (run.map mangleChar).reverse =
      ⟨run.reverse ++ draft.done, draft.changed || !run.isEmpty⟩ := by
  cases run with
  | nil => simp [Draft.closeRun]
  | cons c rest =>
      have htext : ((c :: rest).map mangleChar).reverse.reverse.flatten = mangle (c :: rest) := by
        rw [List.reverse_reverse, ← List.flatMap_def, mangle_eq_flatMap]
      have hne : ((c :: rest).map mangleChar).reverse ≠ [] := by simp
      unfold Draft.closeRun
      rw [htext]
      split
      · next hnil => exact absurd hnil hne
      · simp only [repairRun_mangle, List.isEmpty_cons, Bool.not_false, Bool.or_true]

theorem repairFrom_mangle (text : List Char) (draft : Draft) (run : List Char) :
    repairFrom draft (run.map mangleChar).reverse (text.map pieceOf) =
      ⟨text.reverse ++ run.reverse ++ draft.done,
        draft.changed || !run.isEmpty || text.any (0x80 ≤ ·.toNat)⟩ := by
  induction text generalizing draft run with
  | nil => simp [repairFrom, closeRun_mangle]
  | cons c rest ih =>
      by_cases h : c.toNat < 0x80
      · have hrest := ih ⟨c :: (run.reverse ++ draft.done), draft.changed || !run.isEmpty⟩ []
        simpa [repairFrom, pieceOf, h, closeRun_mangle, Nat.not_le.mpr h] using hrest
      · have hrest := ih draft (run ++ [c])
        have hne : (run ++ [c]).isEmpty = false := by
          cases run <;> rfl
        simpa [repairFrom, pieceOf, h, Nat.not_lt.mp h, hne] using hrest

/-- Repair gives back the text that became mojibake. -/
theorem repair_mangle (text : List Char) : repair (mangle text) = text := by
  have hdraft := repairFrom_mangle text ⟨[], false⟩ []
  have hpieces : repairFrom ⟨[], false⟩ [] (pieces (mangle text)) =
      ⟨text.reverse, text.any (0x80 ≤ ·.toNat)⟩ := by
    rw [pieces_mangle]
    simpa using hdraft
  unfold repair repair?
  rw [hpieces]
  by_cases h : text.any (0x80 ≤ ·.toNat) = true
  · simp [h]
  · -- there is nothing to repair, and nothing was changed
    have hascii : ∀ c ∈ text, c.toNat < 0x80 := by simpa using h
    simp [h, mangle_of_ascii hascii]

theorem hasSignature_mangle (text : List Char) :
    hasSignature (mangle text) = true ↔ ∃ c ∈ text, 0x80 ≤ c.toNat := by
  have hpiece : ∀ c : Char, (pieceOf c).isSequence = true ↔ 0x80 ≤ c.toNat := by
    intro c
    unfold pieceOf
    split
    · next h => simp [Piece.isSequence, h]
    · next h => simpa [Piece.isSequence] using h
  simp [hasSignature, pieces_mangle, hpiece]

/-- Mojibake of any text is repaired, however often the text was misread, and is recognised exactly
where the text was more than ASCII. -/
theorem mangling_undone (text : List Char) :
    repair (mangle text) = text ∧
      (hasSignature (mangle text) = true ↔ ∃ c ∈ text, 0x80 ≤ c.toNat) ∧
      ∀ times, repair^[times] (mangle^[times] text) = text :=
  ⟨repair_mangle text, hasSignature_mangle text, fun times =>
    Function.LeftInverse.iterate repair_mangle times text⟩

end TidyCsv.Mojibake
