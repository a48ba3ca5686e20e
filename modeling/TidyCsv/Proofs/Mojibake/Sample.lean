import TidyCsv.Proofs.Mojibake.Repair
import TidyCsv.Proofs.Text.Lines

/-! # Looking for mojibake in a sample

The sample of a file may end inside of a character or of a signature. The decoder then reports
something malformed, which belongs to no signature; and all that it has reported before is reported
of every longer sample. So a longer sample shows the signatures of a shorter one, and the whole
content shows one if there is anything to repair. -/

namespace TidyCsv

/-! ## The beginning of a decoded text -/

namespace Utf8

/-- What bytes are decoded to whatever follows them. -/
def settledText (bytes : Bytes) : List Char :=
  (scanFrom .ready [] bytes).2.reverse.map Token.toChar

/-- A sequence that the end cuts off is decoded to the replacement character. -/
theorem decodeLossy_eq_or (bytes : Bytes) :
    decodeLossy bytes = settledText bytes ∨
      decodeLossy bytes = settledText bytes ++ ['\uFFFD'] := by
  rw [decodeLossy, tokens_eq, List.map_append, ← settledText]
  cases (scanFrom .ready [] bytes).1 with
  | ready => exact .inl (List.append_nil _)
  | within => exact .inr rfl

theorem settledText_isPrefix (bytes more : Bytes) :
    settledText bytes <+: settledText (bytes ++ more) := by
  have hdone := scanFrom_append_done (scanFrom .ready [] bytes).1 more []
    (scanFrom .ready [] bytes).2
  rw [List.nil_append] at hdone
  rw [settledText, settledText, scanFrom_append, hdone, List.reverse_append, List.map_append]
  exact List.prefix_append _ _

end Utf8

namespace Mojibake

variable {before bytes content : Bytes} {text fixed : List Char}

/-! ## Signatures in the beginning of a text -/

theorem any_isSequence_append {done : List Piece} {pending : List Char} {missing : Nat}
    {before : List Char} (h : (piecesFrom done pending missing before).any Piece.isSequence = true)
    (after : List Char) :
    (piecesFrom done pending missing (before ++ after)).any Piece.isSequence = true := by
  induction before generalizing done pending missing with
  | nil =>
    have hdone : done.any Piece.isSequence = true := by
      simpa [piecesFrom, Piece.isSequence] using h
    rw [List.nil_append, piecesFrom_eq_append, List.any_append, List.any_reverse, hdone,
      Bool.true_or]
  | cons c rest ih =>
    simp only [List.cons_append, piecesFrom] at h ⊢
    revert h
    split
    · split
      · exact ih
      · exact ih
      · exact ih
    · split
      · exact ih
      · exact ih

theorem hasSignature_append {before : List Char} (h : hasSignature before = true)
    (after : List Char) : hasSignature (before ++ after) = true :=
  any_isSequence_append h after

theorem hasSignature_concat {c : Char} (hc : IsApart c) (text : List Char) :
    hasSignature (text ++ [c]) = hasSignature text := by
  rw [hasSignature, pieces, piecesFrom_append_cons hc, List.any_append]
  simp [hasSignature, pieces, piecesFrom, Piece.isSequence]

theorem isApart_replacement : IsApart '\uFFFD' := by
  constructor <;> decide

/-- A character that is cut off neither makes nor hides a signature. -/
theorem hasSignature_decodeLossy (bytes : Bytes) :
    hasSignature (Utf8.decodeLossy bytes) = hasSignature (Utf8.settledText bytes) := by
  rcases Utf8.decodeLossy_eq_or bytes with h | h
  · rw [h]
  · rw [h, hasSignature_concat isApart_replacement]

/-- A longer sample shows the signatures of a shorter one. -/
theorem hasSignature_take {size size' : Nat} (hle : size ≤ size')
    (h : hasSignature (Utf8.decodeLossy (content.take size)) = true) :
    hasSignature (Utf8.decodeLossy (content.take size')) = true := by
  rw [hasSignature_decodeLossy] at h ⊢
  obtain ⟨more, hmore⟩ : content.take size <+: content.take size' := List.take_prefix_take_left hle
  obtain ⟨rest, hrest⟩ := Utf8.settledText_isPrefix (content.take size) more
  rw [← hmore, ← hrest]
  exact hasSignature_append h rest

/-! ## Texts that repair changes -/

theorem length_closed_le {run : List Char} (hrun : ∀ c ∈ run, ¬ c.toNat < 0x80) :
    (closed run).length ≤ run.length := by
  rcases (Repairs.nil.closed hrun).length with h | h
  · exact Nat.le_of_eq (by simpa using congrArg List.length h)
  · exact Nat.le_of_lt (by simpa using h)

theorem length_mended_le {run : List Char} {pieces : List Piece}
    (hrun : ∀ c ∈ run, ¬ c.toNat < 0x80) (hpieces : ∀ piece ∈ pieces, piece.IsBeyond) :
    (mended run pieces).length ≤ (run ++ pieces.flatMap Piece.chars).length := by
  rcases (repairs_mended run pieces hrun hpieces).length with h | h
  · exact Nat.le_of_eq (congrArg List.length h)
  · exact Nat.le_of_lt h

theorem length_lt_of_repairRun {run fixed : List Char} (hne : run ≠ [])
    (hrun : ∀ c ∈ run, ¬ c.toNat < 0x80) (h : repairRun run = some fixed) :
    fixed.length < run.length := by
  obtain rfl := repairRun_eq_some_iff.mp h
  refine length_lt_length_mangle ?_ fun c hc hlow => hrun c (mem_mangle_of_lt hc hlow) hlow
  rintro rfl
  exact hne (by simp [mangle_eq_flatMap])

/-- Sequences that have been read one after the other. -/
def IsRun (run : List (List Char)) : Prop := ∀ chars ∈ run, (Piece.sequence chars).IsBeyond

theorem IsRun.not_lt {run : List (List Char)} (h : IsRun run) :
    ∀ c ∈ run.reverse.flatten, ¬ c.toNat < 0x80 := by
  intro c hc
  obtain ⟨chars, hchars, hmem⟩ := List.mem_flatten.mp hc
  exact (h chars (List.mem_reverse.mp hchars)).2 c hmem

theorem IsRun.cons {chars : List Char} {run : List (List Char)} (h : IsRun run)
    (hchars : (Piece.sequence chars).IsBeyond) : IsRun (chars :: run) :=
  List.forall_mem_cons.mpr ⟨hchars, h⟩

theorem changed_closeRun {draft : Draft} {run : List (List Char)} (hrun : IsRun run)
    (h : (draft.closeRun run).changed = true) :
    draft.changed = true ∨ (closed run.reverse.flatten).length < run.reverse.flatten.length := by
  cases run with
  | nil => exact .inl h
  | cons chars rest =>
    unfold Draft.closeRun at h
    dsimp only at h
    cases hfixed : repairRun (chars :: rest).reverse.flatten with
    | none =>
      rw [hfixed] at h
      exact .inl h
    | some fixed =>
      have hne : (chars :: rest).reverse.flatten ≠ [] := by
        simp [(hrun chars List.mem_cons_self).1]
      rw [closed, hfixed]
      exact .inr (length_lt_of_repairRun hne hrun.not_lt hfixed)

/-- If a run has been repaired on the way, the whole text has become shorter. -/
theorem changed_repairFrom {draft : Draft} {run : List (List Char)} {pieces : List Piece}
    (hrun : IsRun run) (hpieces : ∀ piece ∈ pieces, piece.IsBeyond)
    (h : (repairFrom draft run pieces).changed = true) :
    draft.changed = true ∨ (mended run.reverse.flatten pieces).length <
      (run.reverse.flatten ++ pieces.flatMap Piece.chars).length := by
  induction pieces generalizing draft run with
  | nil => simpa [repairFrom, mended] using changed_closeRun hrun h
  | cons piece rest ih =>
    obtain ⟨hpiece, hrest⟩ := List.forall_mem_cons.mp hpieces
    cases piece with
    | plain c =>
      have hnil : IsRun [] := by simp [IsRun]
      have hbefore := length_closed_le hrun.not_lt
      have hafter := length_mended_le hnil.not_lt hrest
      simp only [mended, List.flatMap_cons, Piece.chars, List.length_append, List.length_cons,
        List.reverse_nil, List.flatten_nil, List.nil_append] at hafter ⊢
      rcases ih hnil hrest h with hclosed | hshorter
      · rcases changed_closeRun hrun hclosed with hdraft | hshorter
        · exact .inl hdraft
        · exact .inr (by omega)
      · simp only [List.reverse_nil, List.flatten_nil, List.nil_append] at hshorter
        exact .inr (by omega)
    | sequence chars =>
      simpa [mended, Piece.chars] using ih (hrun.cons hpiece) hrest h

/-- Something is repaired exactly if that changes the text. -/
theorem repair?_eq_some_iff : repair? text = some fixed ↔ repair text = fixed ∧ fixed ≠ text := by
  constructor
  · intro h
    have hfixed : repair text = fixed := by simp [repair, h]
    refine ⟨hfixed, fun hsame => ?_⟩
    have hchanged : (repairFrom ⟨[], false⟩ [] (pieces text)).changed = true := by
      by_contra hnot
      simp [repair?, hnot] at h
    have hnil : IsRun [] := by simp [IsRun]
    rcases changed_repairFrom hnil (fun _ => isBeyond_of_mem_pieces) hchanged with hdraft | hshorter
    · exact absurd hdraft (by decide)
    · rw [List.reverse_nil, List.flatten_nil, ← repair_eq_mended, List.nil_append, chars_pieces,
        hfixed, hsame] at hshorter
      exact Nat.lt_irrefl _ hshorter
  · rintro ⟨rfl, hchanged⟩
    cases h : repair? text with
    | none => exact absurd (by simp [repair, h]) hchanged
    | some fixed => simp [repair, h]

theorem mended_of_plain {pieces : List Piece} (h : pieces.any Piece.isSequence = false) :
    mended [] pieces = pieces.flatMap Piece.chars := by
  induction pieces with
  | nil => exact closed_nil
  | cons piece rest ih =>
    simp only [List.any_cons, Bool.or_eq_false_iff] at h
    cases piece with
    | plain c => simp [mended, closed_nil, Piece.chars, ih h.2]
    | sequence chars => exact absurd h.1 (by simp [Piece.isSequence])

theorem hasSignature_of_repair_ne (h : repair text ≠ text) : hasSignature text = true := by
  by_contra hnone
  rw [repair_eq_mended, mended_of_plain (by simpa [hasSignature] using hnone), chars_pieces] at h
  exact h rfl

/-! ## Contents -/

/-- A content has a repaired copy if its sample shows a signature, it is UTF-8, and repair changes
its text; and the copy is that text. -/
theorem repairContent?_eq_some_iff {size : Nat} {copy : Bytes} :
    repairContent? size content = some copy ↔
      hasSignature (Utf8.decodeLossy (content.take size)) = true ∧
        ∃ text, content = Utf8.encode text ∧ repair text ≠ text ∧
          copy = Utf8.encode (repair text) := by
  unfold repairContent?
  split
  · next hsignature =>
    simp only [Option.map_eq_some_iff, Option.bind_eq_some_iff, Utf8.decode?_eq_some_iff,
      repair?_eq_some_iff, hsignature, true_and]
    constructor
    · rintro ⟨_, ⟨text, htext, rfl, hchanged⟩, rfl⟩
      exact ⟨text, htext, hchanged, rfl⟩
    · rintro ⟨text, htext, hchanged, rfl⟩
      exact ⟨_, ⟨text, htext, rfl, hchanged⟩, rfl⟩
  · next hnone => simp [hnone]

/-- A longer sample leads to the same copy. -/
theorem repairContent?_mono {size size' : Nat} {copy : Bytes} (hle : size ≤ size')
    (h : repairContent? size content = some copy) : repairContent? size' content = some copy := by
  rw [repairContent?_eq_some_iff] at h ⊢
  exact ⟨hasSignature_take hle h.1, h.2⟩

/-- With the whole content as the sample, it does not matter what is looked for. -/
theorem repairContent?_of_length_le {size : Nat} (hsize : content.length ≤ size) {copy : Bytes} :
    repairContent? size content = some copy ↔
      ∃ text, content = Utf8.encode text ∧ repair text ≠ text ∧
        copy = Utf8.encode (repair text) := by
  rw [repairContent?_eq_some_iff, List.take_of_length_le hsize, and_iff_right_iff_imp]
  rintro ⟨text, rfl, hchanged, -⟩
  rw [Utf8.decodeLossy_encode]
  exact hasSignature_of_repair_ne hchanged

end Mojibake

end TidyCsv
