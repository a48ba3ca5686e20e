import TidyCsv.Proofs.Csv.Shape
import TidyCsv.Proofs.Mojibake.Mangling
import TidyCsv.Proofs.Text.Decoding

/-! # What repair leaves alone

A text is repaired piece by piece: between two sequences of a run nothing is looked at but the run,
and a character that belongs to no sequence stands for itself. So repair commutes with cutting a
text at such a character, all that it does is to put characters beyond ASCII in the place of what
they became, and a CSV document keeps its records and fields. -/

namespace TidyCsv.Mojibake

open CodePage

/-! ## Pieces -/

/-- A character that neither opens a sequence nor goes on with one. -/
structure IsApart (c : Char) : Prop where
  isContinuation_eq_false : isContinuation c = false
  continuationCount_eq_zero : continuationCount c = 0

theorem isApart_of_lt {c : Char} (h : c.toNat < 0x80) : IsApart c := by
  constructor
  · simp [isContinuation]
    omega
  · simp [continuationCount]
    omega

theorem isApart_mark : IsApart '\uFEFF' := by
  constructor <;> decide

theorem not_lt_of_isContinuation {c : Char} (h : isContinuation c = true) : ¬ c.toNat < 0x80 := by
  intro hlow
  simp [(isApart_of_lt hlow).isContinuation_eq_false] at h

theorem not_lt_of_continuationCount {c : Char} {count : Nat} (h : continuationCount c = count + 1) :
    ¬ c.toNat < 0x80 := by
  intro hlow
  simp [(isApart_of_lt hlow).continuationCount_eq_zero] at h

theorem piecesFrom_eq_append (done : List Piece) (pending : List Char) (missing : Nat)
    (text : List Char) :
    piecesFrom done pending missing text = done.reverse ++ piecesFrom [] pending missing text := by
  induction text generalizing done pending missing with
  | nil => simp [piecesFrom]
  | cons c rest ih =>
      simp only [piecesFrom]
      split
      · split
        · rw [ih (.plain c :: done), ih [.plain c]]
          simp
        · rw [ih (.sequence _ :: done), ih [.sequence _]]
          simp
        · exact ih done _ _
      · split
        · rw [ih (.plain c :: (_ ++ done)), ih (.plain c :: (_ ++ []))]
          simp
        · rw [ih (_ ++ done), ih (_ ++ [])]
          simp

/-- A text is cut into pieces on both sides of a character that belongs to no sequence. -/
theorem piecesFrom_append_cons {c : Char} (hc : IsApart c) (rest : List Char) (done : List Piece)
    (pending : List Char) (missing : Nat) (text : List Char) :
    piecesFrom done pending missing (text ++ c :: rest) =
      piecesFrom done pending missing text ++ .plain c :: pieces rest := by
  induction text generalizing done pending missing with
  | nil =>
      simp only [List.nil_append, piecesFrom, hc.isContinuation_eq_false,
        hc.continuationCount_eq_zero]
      rw [if_neg (by simp), piecesFrom_eq_append]
      simp [pieces]
  | cons d text ih =>
      simp only [List.cons_append, piecesFrom]
      split
      · split
        · exact ih _ _ _
        · exact ih _ _ _
        · exact ih _ _ _
      · split
        · exact ih _ _ _
        · exact ih _ _ _

theorem chars_piecesFrom (done : List Piece) (pending : List Char) (missing : Nat)
    (hmissing : missing = 0 → pending = []) (text : List Char) :
    (piecesFrom done pending missing text).flatMap Piece.chars =
      done.reverse.flatMap Piece.chars ++ pending.reverse ++ text := by
  have hplain : ∀ chars : List Char, (chars.map Piece.plain).flatMap Piece.chars = chars := by
    intro chars
    induction chars with
    | nil => rfl
    | cons c rest ih => simpa [Piece.chars] using ih
  induction text generalizing done pending missing with
  | nil => simp [piecesFrom, ← List.map_reverse, hplain]
  | cons c rest ih =>
      simp only [piecesFrom]
      split
      · split
        · rw [ih _ _ _ (fun _ => rfl), hmissing rfl]
          simp [Piece.chars]
        · rw [ih _ _ _ (fun _ => rfl)]
          simp [Piece.chars]
        · rw [ih _ _ _ (by simp)]
          simp
      · split
        · rw [ih _ _ _ (fun _ => rfl)]
          simp [Piece.chars, ← List.map_reverse, hplain]
        · rw [ih _ _ _ (by simp)]
          simp [← List.map_reverse, hplain]

theorem chars_pieces (text : List Char) : (pieces text).flatMap Piece.chars = text := by
  simpa [pieces] using chars_piecesFrom [] [] 0 (fun _ => rfl) text

/-- A piece that, if it is a sequence, has characters, and none of them in ASCII. -/
def Piece.IsBeyond : Piece → Prop
  | plain _ => True
  | sequence chars => chars ≠ [] ∧ ∀ c ∈ chars, ¬ c.toNat < 0x80

theorem isBeyond_map_plain_append (pending : List Char) {done : List Piece}
    (hdone : ∀ piece ∈ done, piece.IsBeyond) :
    ∀ piece ∈ pending.map Piece.plain ++ done, piece.IsBeyond := by
  intro piece hpiece
  rcases List.mem_append.mp hpiece with hmap | hold
  · obtain ⟨c, -, rfl⟩ := List.mem_map.mp hmap
    trivial
  · exact hdone piece hold

theorem isBeyond_piecesFrom (done : List Piece) (pending : List Char) (missing : Nat)
    (hdone : ∀ piece ∈ done, piece.IsBeyond) (hpending : ∀ c ∈ pending, ¬ c.toNat < 0x80)
    (text : List Char) : ∀ piece ∈ piecesFrom done pending missing text, piece.IsBeyond := by
  induction text generalizing done pending missing with
  | nil =>
      intro piece hpiece
      exact isBeyond_map_plain_append pending hdone piece (List.mem_reverse.mp hpiece)
  | cons c rest ih =>
      simp only [piecesFrom]
      split
      · next hc =>
          have hread : ∀ d ∈ c :: pending, ¬ d.toNat < 0x80 :=
            List.forall_mem_cons.mpr ⟨not_lt_of_isContinuation hc, hpending⟩
          split
          · exact ih _ _ _ (List.forall_mem_cons.mpr ⟨trivial, hdone⟩) (by simp)
          · have hsequence : (Piece.sequence (c :: pending).reverse).IsBeyond :=
              ⟨by simp, fun d hd => hread d (List.mem_reverse.mp hd)⟩
            exact ih _ _ _ (List.forall_mem_cons.mpr ⟨hsequence, hdone⟩) (by simp)
          · exact ih _ _ _ hdone hread
      · have hplain := isBeyond_map_plain_append pending hdone
        split
        · exact ih _ _ _ (List.forall_mem_cons.mpr ⟨trivial, hplain⟩) (by simp)
        · next hcount =>
            exact ih _ _ _ hplain (by simpa using not_lt_of_continuationCount hcount)

theorem isBeyond_of_mem_pieces {text : List Char} {piece : Piece} (h : piece ∈ pieces text) :
    piece.IsBeyond :=
  isBeyond_piecesFrom [] [] 0 (by simp) (by simp) text piece h

/-! ## Runs -/

/-- A run is repaired exactly to the text that it was made from. -/
theorem repairRun_eq_some_iff {run text : List Char} :
    repairRun run = some text ↔ run = mangle text := by
  constructor
  · intro h
    obtain ⟨bytes, hbytes, htext⟩ := Option.bind_eq_some_iff.mp h
    rw [← decode_of_encode? hbytes, Utf8.decode?_eq_some_iff.mp htext, mangle]
  · rintro rfl
    exact repairRun_mangle text

/-- What stands in the place of a run after repair. -/
def closed (run : List Char) : List Char := (repairRun run).getD run

theorem closed_nil : closed [] = [] := by decide

/-- A run stays as it is, or it was made from what stands in its place. -/
theorem closed_eq_or (run : List Char) : closed run = run ∨ run = mangle (closed run) := by
  unfold closed
  cases hrun : repairRun run with
  | none => exact .inl rfl
  | some text => exact .inr (repairRun_eq_some_iff.mp hrun)

theorem closeRun_eq (draft : Draft) (run : List (List Char)) :
    (draft.closeRun run).done = (closed run.reverse.flatten).reverse ++ draft.done ∧
      ((draft.closeRun run).changed = false →
        draft.changed = false ∧ closed run.reverse.flatten = run.reverse.flatten) := by
  cases run with
  | nil => simp [Draft.closeRun, closed_nil]
  | cons chars rest =>
      unfold Draft.closeRun closed
      dsimp only
      cases repairRun (chars :: rest).reverse.flatten with
      | none => simp
      | some text => simp

/-! ## Texts -/

/-- What becomes of pieces after a run. -/
def mended (run : List Char) : List Piece → List Char
  | [] => closed run
  | .plain c :: rest => closed run ++ c :: mended [] rest
  | .sequence chars :: rest => mended (run ++ chars) rest

theorem repairFrom_eq (draft : Draft) (run : List (List Char)) (pieces : List Piece) :
    (repairFrom draft run pieces).done = (mended run.reverse.flatten pieces).reverse ++ draft.done ∧
      ((repairFrom draft run pieces).changed = false →
        draft.changed = false ∧
          mended run.reverse.flatten pieces =
            run.reverse.flatten ++ pieces.flatMap Piece.chars) := by
  induction pieces generalizing draft run with
  | nil => simpa [repairFrom, mended] using closeRun_eq draft run
  | cons piece rest ih =>
      cases piece with
      | plain c =>
          obtain ⟨hdone, hchanged⟩ := closeRun_eq draft run
          obtain ⟨hdone', hchanged'⟩ :=
            ih ⟨c :: (draft.closeRun run).done, (draft.closeRun run).changed⟩ []
          constructor
          · simp only [repairFrom, mended]
            rw [hdone', hdone]
            simp
          · intro h
            obtain ⟨hsame', hrest⟩ := hchanged' h
            obtain ⟨hsame, hrun⟩ := hchanged hsame'
            refine ⟨hsame, ?_⟩
            simp only [List.reverse_nil, List.flatten_nil, List.nil_append] at hrest
            simp [mended, hrun, hrest, Piece.chars]
      | sequence chars =>
          simpa [repairFrom, mended, Piece.chars] using ih draft (chars :: run)

theorem repair_eq_mended (text : List Char) : repair text = mended [] (pieces text) := by
  obtain ⟨hdone, hchanged⟩ := repairFrom_eq ⟨[], false⟩ [] (pieces text)
  unfold repair repair?
  by_cases h : (repairFrom ⟨[], false⟩ [] (pieces text)).changed = true
  · simp [h, hdone]
  · obtain ⟨-, hsame⟩ := hchanged (by simpa using h)
    simpa [h, chars_pieces] using hsame.symm

theorem mended_append_plain (run : List Char) (before : List Piece) (c : Char)
    (rest : List Piece) :
    mended run (before ++ .plain c :: rest) = mended run before ++ c :: mended [] rest := by
  induction before generalizing run with
  | nil => rfl
  | cons piece before ih =>
      cases piece with
      | plain d => simp [mended, ih]
      | sequence chars => exact ih (run ++ chars)

/-- What stands before and what stands after a character that belongs to no sequence is repaired by
itself. -/
theorem repair_append_apart {c : Char} (hc : IsApart c) (before after : List Char) :
    repair (before ++ c :: after) = repair before ++ c :: repair after := by
  have hpieces : pieces (before ++ c :: after) = pieces before ++ .plain c :: pieces after :=
    piecesFrom_append_cons hc after [] [] 0 before
  rw [repair_eq_mended, repair_eq_mended, repair_eq_mended, hpieces, mended_append_plain]

/-- A text and what it is repaired to: in some places, characters beyond ASCII stand for what they
became. -/
inductive Repairs : List Char → List Char → Prop where
  | nil : Repairs [] []
  | plain (c : Char) {text fixed : List Char} (h : Repairs text fixed) :
      Repairs (c :: text) (c :: fixed)
  | run {chars text fixed : List Char} (hne : chars ≠ []) (hbeyond : ∀ c ∈ chars, ¬ c.toNat < 0x80)
      (h : Repairs text fixed) : Repairs (mangle chars ++ text) (chars ++ fixed)

theorem Repairs.append_left {text fixed : List Char} (h : Repairs text fixed) (before : List Char) :
    Repairs (before ++ text) (before ++ fixed) := by
  induction before with
  | nil => exact h
  | cons c before ih => exact .plain c ih

theorem mem_mangle_of_lt {text : List Char} {c : Char} (h : c ∈ text) (hc : c.toNat < 0x80) :
    c ∈ mangle text := by
  rw [mangle_eq_flatMap]
  exact List.mem_flatMap.mpr ⟨c, h, by simp [mangleChar_of_lt hc]⟩

theorem Repairs.closed {run text fixed : List Char} (hrun : ∀ c ∈ run, ¬ c.toNat < 0x80)
    (h : Repairs text fixed) : Repairs (run ++ text) (closed run ++ fixed) := by
  rcases closed_eq_or run with hsame | hmade
  · rw [hsame]
    exact h.append_left run
  · by_cases hnil : Mojibake.closed run = []
    · have hempty : run = [] := by rw [hmade, hnil, mangle_eq_flatMap, List.flatMap_nil]
      rwa [hnil, hempty]
    · have hbeyond : ∀ c ∈ Mojibake.closed run, ¬ c.toNat < 0x80 := by
        intro c hc hlow
        apply hrun c _ hlow
        rw [hmade]
        exact mem_mangle_of_lt hc hlow
      have hreplaced := Repairs.run hnil hbeyond h
      rwa [← hmade] at hreplaced

theorem repairs_mended (run : List Char) (pieces : List Piece)
    (hrun : ∀ c ∈ run, ¬ c.toNat < 0x80) (hpieces : ∀ piece ∈ pieces, piece.IsBeyond) :
    Repairs (run ++ pieces.flatMap Piece.chars) (mended run pieces) := by
  induction pieces generalizing run with
  | nil => simpa [mended] using Repairs.nil.closed hrun
  | cons piece rest ih =>
      obtain ⟨hpiece, hrest⟩ := List.forall_mem_cons.mp hpieces
      cases piece with
      | plain c => exact (Repairs.plain c (ih [] (by simp) hrest)).closed hrun
      | sequence chars =>
          have hlonger : ∀ c ∈ run ++ chars, ¬ c.toNat < 0x80 := by
            intro c hc
            rcases List.mem_append.mp hc with hold | hnew
            · exact hrun c hold
            · exact hpiece.2 c hnew
          simpa [mended, Piece.chars] using ih (run ++ chars) hlonger hrest

theorem repairs_repair (text : List Char) : Repairs text (repair text) := by
  have h := repairs_mended [] (pieces text) (by simp) fun _ => isBeyond_of_mem_pieces
  rwa [List.nil_append, chars_pieces, ← repair_eq_mended] at h

/-! ## What becomes of a text -/

theorem length_lt_length_mangle {chars : List Char} (hne : chars ≠ [])
    (hbeyond : ∀ c ∈ chars, ¬ c.toNat < 0x80) : chars.length < (mangle chars).length := by
  induction chars with
  | nil => exact absurd rfl hne
  | cons c rest ih =>
      obtain ⟨hc, hrest⟩ := List.forall_mem_cons.mp hbeyond
      obtain ⟨lead, continuations, hchars, hsequence⟩ := isSequence_mangleChar hc
      have hcontinuations := List.length_pos_iff.mpr hsequence.ne_nil
      by_cases hnil : rest = []
      · subst hnil
        simp [mangle_eq_flatMap, hchars, hcontinuations]
      · have htail := ih hnil hrest
        simp only [mangle_cons, hchars, List.length_append, List.length_cons]
        omega

theorem not_lt_of_mem_mangle {chars : List Char} (hbeyond : ∀ c ∈ chars, ¬ c.toNat < 0x80)
    {c : Char} (h : c ∈ mangle chars) : ¬ c.toNat < 0x80 := by
  rw [mangle_eq_flatMap] at h
  obtain ⟨d, hd, hc⟩ := List.mem_flatMap.mp h
  obtain ⟨lead, continuations, hchars, hsequence⟩ := isSequence_mangleChar (hbeyond d hd)
  rw [hchars] at hc
  rcases List.mem_cons.mp hc with rfl | hcontinuation
  · obtain ⟨count, hcount⟩ := Nat.exists_eq_succ_of_ne_zero
      (Nat.ne_of_gt (List.length_pos_iff.mpr hsequence.ne_nil))
    exact not_lt_of_continuationCount (hsequence.count_eq.trans hcount)
  · exact not_lt_of_isContinuation (hsequence.isContinuation c hcontinuation)

theorem Repairs.length {text fixed : List Char} (h : Repairs text fixed) :
    fixed = text ∨ fixed.length < text.length := by
  induction h with
  | nil => exact .inl rfl
  | plain c _ ih =>
      rcases ih with hsame | hshorter
      · exact .inl (by rw [hsame])
      · exact .inr (by simpa using hshorter)
  | run hne hbeyond _ ih =>
      right
      have hrun := length_lt_length_mangle hne hbeyond
      simp only [List.length_append]
      rcases ih with hsame | hshorter
      · rw [hsame]
        omega
      · omega

theorem Repairs.filter_ascii {text fixed : List Char} (h : Repairs text fixed) :
    fixed.filter (·.toNat < 0x80) = text.filter (·.toNat < 0x80) := by
  induction h with
  | nil => rfl
  | plain c _ ih => simp only [List.filter_cons, ih]
  | run _ hbeyond _ ih =>
      have hnone : ∀ {chars : List Char}, (∀ c ∈ chars, ¬ c.toNat < 0x80) →
          chars.filter (·.toNat < 0x80) = [] := by
        intro chars hall
        simpa [List.filter_eq_nil_iff] using hall
      rw [List.filter_append, List.filter_append, hnone hbeyond,
        hnone fun c => not_lt_of_mem_mangle hbeyond, ih]

theorem Repairs.alike {text fixed : List Char} (h : Repairs text fixed) :
    Csv.Alike (Utf8.encode text) (Utf8.encode fixed) := by
  induction h with
  | nil => exact .nil
  | plain c _ ih => exact ih.append_left (Utf8.encodeChar c)
  | run hne hbeyond _ ih =>
      have hmangled : mangle _ ≠ [] :=
        List.length_pos_iff.mp (Nat.zero_lt_of_lt (length_lt_length_mangle hne hbeyond))
      rw [Utf8.encode_append, Utf8.encode_append]
      apply Csv.Alike.beyond (Utf8.encode_ne_nil hmangled) (Utf8.encode_ne_nil hne) _ _ ih
      · exact fun b => Utf8.not_lt_of_mem_encode fun c => not_lt_of_mem_mangle hbeyond
      · exact fun b => Utf8.not_lt_of_mem_encode hbeyond

/-- A repaired text opens with the mark if it did before, or if it opened with what the mark
became. -/
theorem Repairs.head?_mark {text fixed : List Char} (h : Repairs text fixed)
    (hmark : fixed.head? = some '\uFEFF') :
    text.head? = some '\uFEFF' ∨ ['ï', '»', '¿'] <+: text := by
  cases h with
  | nil => simp at hmark
  | plain c _ => exact .inl hmark
  | @run chars text fixed hne _ _ =>
      cases chars with
      | nil => exact absurd rfl hne
      | cons c rest =>
          obtain rfl : c = '\uFEFF' := by simpa using hmark
          have hmangled : mangleChar '\uFEFF' = ['ï', '»', '¿'] := by decide +kernel
          right
          rw [mangle_cons, hmangled, List.append_assoc]
          exact List.prefix_append _ _

/-- Repaired text is read as records of the same numbers of fields, unless the text opens with what
the mark became. -/
theorem shape_records_repair {dialect : Csv.Dialect} (hdelimiter : dialect.delimiter < 0x80)
    {text : List Char} (hmangled : ¬ ['ï', '»', '¿'] <+: text) (atHand : Nat) :
    Csv.shape (Csv.records dialect atHand (Utf8.encode (repair text))) =
      Csv.shape (Csv.records dialect atHand (Utf8.encode text)) := by
  have hopens : ∀ rest : List Char, Bytes.utf8Mark <+: Utf8.encode ('\uFEFF' :: rest) := by
    intro rest
    rw [Utf8.utf8Mark_eq_encodeChar]
    exact List.prefix_append _ _
  symm
  by_cases hmark : text.head? = some '\uFEFF'
  · -- The mark belongs to no sequence, and so what follows it is repaired by itself.
    obtain ⟨rest, rfl⟩ : ∃ rest, text = '\uFEFF' :: rest := List.head?_eq_some_iff.mp hmark
    have hrepair : repair ('\uFEFF' :: rest) = '\uFEFF' :: repair rest :=
      repair_append_apart isApart_mark [] rest
    have hdrop : ∀ rest : List Char,
        (Utf8.encode ('\uFEFF' :: rest)).drop Bytes.utf8Mark.length = Utf8.encode rest := by
      intro rest
      rw [Utf8.utf8Mark_eq_encodeChar]
      exact List.drop_left
    apply (repairs_repair ('\uFEFF' :: rest)).alike.shape_records hdelimiter
    · rw [hrepair]
      exact iff_of_true (hopens rest) (hopens (repair rest))
    · intro _
      rw [hrepair, hdrop, hdrop]
      exact (repairs_repair rest).alike
  · have hnot : ¬ Bytes.utf8Mark <+: Utf8.encode text :=
      fun hprefix => hmark (Utf8.head?_of_utf8Mark_isPrefix hprefix)
    apply (repairs_repair text).alike.shape_records hdelimiter
    · refine iff_of_false hnot fun hprefix => ?_
      rcases (repairs_repair text).head?_mark (Utf8.head?_of_utf8Mark_isPrefix hprefix) with
        hsame | hbecame
      · exact hmark hsame
      · exact hmangled hbecame
    · exact fun hprefix => absurd hprefix hnot

/-- Repair keeps the structure of a document. It commutes with cutting a text at a character of
ASCII, keeps these characters and their order, makes every text that it changes shorter, and leaves
a CSV document its records and the number of fields of each, whatever the delimiter and with quotes
or without. Only where a text opens with what the mark became, repair brings back a mark for a reader
to drop. -/
theorem repair_keeps_structure :
    (∀ (before after : List Char) (c : Char), c.toNat < 0x80 →
      repair (before ++ c :: after) = repair before ++ c :: repair after) ∧
    (∀ text : List Char,
      (repair text).filter (·.toNat < 0x80) = text.filter (·.toNat < 0x80)) ∧
    (∀ text : List Char, repair text ≠ text → (repair text).length < text.length) ∧
    ∀ (text : List Char) (dialect : Csv.Dialect) (atHand : Nat), dialect.delimiter < 0x80 →
      ¬ ['ï', '»', '¿'] <+: text →
      Csv.shape (Csv.records dialect atHand (Utf8.encode (repair text))) =
        Csv.shape (Csv.records dialect atHand (Utf8.encode text)) := by
  refine ⟨?_, ?_, ?_, ?_⟩
  · intro before after c hc
    exact repair_append_apart (isApart_of_lt hc) before after
  · intro text
    exact (repairs_repair text).filter_ascii
  · intro text hchanged
    exact (repairs_repair text).length.resolve_left hchanged
  · intro text dialect atHand hdelimiter hmangled
    exact shape_records_repair hdelimiter hmangled atHand

/-- A delimiter between quotes, next to what a letter became, is no more than a character of its
field before repair and after it. -/
theorem repair_keeps_quoted :
    let text := "\"CafÃ©;1\";x\n".toList
    let dialect : Csv.Dialect := ⟨0x3B, true⟩
    repair text = repair "\"CafÃ©".toList ++ ';' :: repair "1\";x\n".toList ∧
      repair text = "\"Café;1\";x\n".toList ∧ (repair text).length < text.length ∧
      Csv.shape (Csv.records dialect Csv.blockSize (Utf8.encode (repair text))) =
        Csv.shape (Csv.records dialect Csv.blockSize (Utf8.encode text)) ∧
      Csv.shape (Csv.records dialect Csv.blockSize (Utf8.encode text)) = [2] := by
  intro text dialect
  obtain ⟨hcut, -, hshorter, hshape⟩ := repair_keeps_structure
  have htext : text = "\"CafÃ©".toList ++ ';' :: "1\";x\n".toList := by decide
  have hsame := hcut "\"CafÃ©".toList "1\";x\n".toList ';' (by decide)
  rw [← htext] at hsame
  exact ⟨hsame, by decide +kernel, hshorter text (by decide +kernel),
    hshape text dialect _ (by decide) (by decide), by decide +kernel⟩

/-- Where a text opens with what the mark became, the quote after it is at the start of a field once
the mark is back. -/
example :
    let text := "ï»¿\"a,b\"".toList
    Csv.shape (Csv.fileRecords .standard (Utf8.encode text)) = [2] ∧
      Csv.shape (Csv.fileRecords .standard (Utf8.encode (repair text))) = [1] := by
  decide +kernel

end TidyCsv.Mojibake
