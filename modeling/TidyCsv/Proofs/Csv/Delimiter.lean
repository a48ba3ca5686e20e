import TidyCsv.Csv.Delimiter
import TidyCsv.Proofs.Text.Lines
import Mathlib.Data.List.Basic
import Mathlib.Tactic.ByContra

/-! # What a guess of the delimiter depends on

A delimiter is guessed from how often each candidate occurs in the first lines. Lines that are
passed over have no part in it, and neither has a byte order mark. A candidate that occurs equally
often in all of these lines is guessed if no other candidate occurs in them. -/

namespace TidyCsv.Delimiter

variable {sample other : Bytes} {skip skip' : Nat}

theorem prefer_congr {lines lines' : List Bytes} {candidate : UInt8}
    (h : lines.map (countUnquoted candidate) = lines'.map (countUnquoted candidate))
    (best : UInt8 × Nat) : prefer lines best candidate = prefer lines' best candidate := by
  simp only [prefer, constantCount?, h]

theorem sniff_congr
    (h : ∀ candidate ∈ candidates,
      (sampledLines sample skip).map (countUnquoted candidate) =
        (sampledLines other skip').map (countUnquoted candidate)) :
    sniff sample skip = sniff other skip' := by
  have hfold := List.foldl_ext (prefer (sampledLines sample skip))
    (prefer (sampledLines other skip')) (Bytes.comma, 0)
    fun best candidate hcandidate => prefer_congr (h candidate hcandidate) best
  rw [sniff, hfold, sniff]

theorem sampledLines_of_lt (h : sample.length < sampleSize) (skip : Nat) :
    sampledLines sample skip =
      ((((Text.lines (Utf8.decodeLossy sample)).drop skip).filter fun line =>
        !Text.isBlankText line).take sampleLines).map Utf8.encode := by
  have hcut : ∀ lines : List (List Char), ¬ (sampleSize ≤ sample.length ∧ 1 < lines.length) :=
    fun lines hfull => absurd hfull.1 (Nat.not_le_of_lt h)
  simp only [sampledLines, if_neg (hcut _)]

/-! ## Counting -/

/-- Bytes that close all the quotes they open and have so many delimiters outside of them. -/
def Counts (delimiter : UInt8) (bytes : Bytes) (count : Nat) : Prop :=
  ∀ before, bytes.foldl (countByte delimiter) (false, before) = (false, before + count)

namespace Counts

variable {delimiter : UInt8} {bytes more : Bytes} {count others : Nat}

theorem countUnquoted_eq (h : Counts delimiter bytes count) :
    countUnquoted delimiter bytes = count := by
  rw [countUnquoted, h, Nat.zero_add]

theorem append (h : Counts delimiter bytes count) (hmore : Counts delimiter more others) :
    Counts delimiter (bytes ++ more) (count + others) := by
  intro before
  rw [List.foldl_append, h, hmore, Nat.add_assoc]

theorem of_not_mem (hquote : Bytes.quote ∉ bytes) (hdelimiter : delimiter ∉ bytes) :
    Counts delimiter bytes 0 := by
  induction bytes with
  | nil => exact fun _ => rfl
  | cons b rest ih =>
      simp only [List.mem_cons, not_or] at hquote hdelimiter
      intro before
      rw [List.foldl_cons, countByte, if_neg (Ne.symm hquote.1),
        if_neg fun hb => hdelimiter.1 hb.1.symm]
      exact ih hquote.2 hdelimiter.2 before

theorem singleton (h : delimiter ≠ Bytes.quote) : Counts delimiter [delimiter] 1 := by
  intro before
  simp [countByte, h]

end Counts

/-! ## Guessing -/

theorem constantCount?_of_forall {delimiter : UInt8} {lines : List Bytes} {count : Nat}
    (hne : lines ≠ []) (h : ∀ line ∈ lines, countUnquoted delimiter line = count) :
    constantCount? delimiter lines = some count := by
  obtain ⟨first, rest, rfl⟩ := List.exists_cons_of_ne_nil hne
  have hall : (rest.map (countUnquoted delimiter)).all (· == count) = true := by
    simpa using fun line hline => h line (List.mem_cons_of_mem first hline)
  rw [constantCount?, List.map_cons, h first List.mem_cons_self]
  simp only [hall, if_true]

/-- A guess that is no better than none is given up for the only candidate that occurs, and this
one is kept. -/
theorem foldl_prefer {delimiter : UInt8} {lines : List Bytes} {count : Nat} (hcount : 0 < count)
    {choices : List UInt8}
    (h : ∀ choice ∈ choices,
      constantCount? choice lines = some (if choice = delimiter then count else 0))
    {best : UInt8 × Nat} (hbest : best = (delimiter, count) ∨ best.2 = 0 ∧ delimiter ∈ choices) :
    choices.foldl (prefer lines) best = (delimiter, count) := by
  induction choices generalizing best with
  | nil =>
      rcases hbest with hbest | ⟨-, hmem⟩
      · exact hbest
      · simp at hmem
  | cons choice rest ih =>
      have hrest := fun other hother => h other (List.mem_cons_of_mem choice hother)
      have hchoice := h choice List.mem_cons_self
      rw [List.foldl_cons]
      refine ih hrest ?_
      rcases hbest with rfl | ⟨hzero, hmem⟩
      · -- no other candidate occurs more often, and this one only as often
        left
        simp only [prefer, hchoice]
        rw [if_neg]
        split <;> omega
      · by_cases heq : choice = delimiter
        · left
          rw [if_pos heq] at hchoice
          simp only [prefer, hchoice, hzero, if_pos hcount]
          rw [heq]
        · right
          rw [if_neg heq] at hchoice
          refine ⟨by simp [prefer, hchoice, hzero], ?_⟩
          exact (List.mem_cons.mp hmem).resolve_left (Ne.symm heq)

/-- The only candidate that occurs in the lines of a sample is guessed if it occurs equally often in
all of them. -/
theorem sniff_of_counts {delimiter : UInt8} {count : Nat} (hdelimiter : delimiter ∈ candidates)
    (hcount : 0 < count) (hne : sampledLines sample skip ≠ [])
    (h : ∀ line ∈ sampledLines sample skip, ∀ candidate ∈ candidates,
      Counts candidate line (if candidate = delimiter then count else 0)) :
    sniff sample skip = delimiter := by
  have hconstant : ∀ candidate ∈ candidates,
      constantCount? candidate (sampledLines sample skip) =
        some (if candidate = delimiter then count else 0) := fun candidate hcandidate =>
    constantCount?_of_forall hne fun line hline => (h line hline candidate hcandidate).countUnquoted_eq
  rw [sniff, foldl_prefer hcount hconstant (.inr ⟨rfl, hdelimiter⟩)]

/-! ## Cut samples -/

/-- What is left of a sample that may end in a part of a line is some of the whole lines before it
that are not blank. -/
theorem exists_sampledLines {whole cut : List (List Char)}
    (hlines : Text.lines (Utf8.decodeLossy sample) = whole ++ cut) (hcut : cut.length ≤ 1)
    (hfull : sample.length < sampleSize → cut = [])
    (hne : whole.filter (fun line => !Text.isBlankText line) ≠ []) :
    ∃ n, 0 < n ∧ sampledLines sample 0 =
      ((whole.filter fun line => !Text.isBlankText line).take n).map Utf8.encode := by
  generalize hshown : (whole.filter fun line => !Text.isBlankText line) = shown at hne ⊢
  obtain ⟨rest, hrest, hkept⟩ : ∃ rest : List (List Char), rest.length ≤ cut.length ∧
      ((whole ++ cut).filter fun line => !Text.isBlankText line) = shown ++ rest :=
    ⟨_, List.length_filter_le _ _, by rw [List.filter_append, hshown]⟩
  have hshown_pos : 0 < shown.length := List.length_pos_iff.mpr hne
  rw [sampledLines, hlines, List.drop_zero, hkept]
  split
  · next hdrop =>
      -- the part of a line is the last one that is left, if it is left at all
      have hbound : min sampleLines (shown ++ rest).length - 1 ≤ shown.length := by
        rw [List.length_append]
        omega
      rw [List.length_take] at hdrop
      refine ⟨min sampleLines (shown ++ rest).length - 1, by omega, ?_⟩
      rw [List.dropLast_eq_take, List.length_take, List.take_take,
        List.take_append_of_le_length (by omega)]
      congr 2
      omega
  · next hdrop =>
      have hnone : rest = [] := by
        rw [List.length_take, List.length_append] at hdrop
        by_contra hsome
        have hlength : 0 < rest.length := List.length_pos_iff.mpr hsome
        have hshort : sample.length < sampleSize := by
          simp only [sampleLines] at hdrop
          omega
        simp [hfull hshort] at hrest
        exact hsome hrest
      rw [hnone, List.append_nil]
      exact ⟨sampleLines, by decide, rfl⟩

/-! ## The mark -/

theorem countUnquoted_utf8Mark_append {candidate : UInt8} (h : candidate ∈ candidates)
    (line : Bytes) :
    countUnquoted candidate (Bytes.utf8Mark ++ line) = countUnquoted candidate line := by
  simp only [candidates, List.mem_cons, List.not_mem_nil, or_false] at h
  rcases h with rfl | rfl | rfl | rfl <;> rfl

theorem sniff_utf8Mark_append {rest : Bytes}
    (h : (Bytes.utf8Mark ++ (Bytes.utf8Mark ++ rest)).length < sampleSize) :
    sniff (Bytes.utf8Mark ++ (Bytes.utf8Mark ++ rest)) 0 = sniff (Bytes.utf8Mark ++ rest) 0 := by
  have hmark (bytes : Bytes) :
      Utf8.decodeLossy (Bytes.utf8Mark ++ bytes) = '\uFEFF' :: Utf8.decodeLossy bytes := by
    rw [Utf8.utf8Mark_eq_encodeChar]
    simp [Utf8.decodeLossy, Utf8.tokens_encodeChar_append, Utf8.Token.toChar]
  have hshort : (Bytes.utf8Mark ++ rest).length < sampleSize := by
    rw [List.length_append] at h
    omega
  have hblank (line : List Char) : Text.isBlankText ('\uFEFF' :: line) = false := by
    rw [Text.isBlankText, List.all_cons, show Unicode.isBlank '\uFEFF' = false by decide]
    rfl
  have hencode (line : List Char) :
      Utf8.encode ('\uFEFF' :: line) = Bytes.utf8Mark ++ Utf8.encode line := by
    rw [Utf8.utf8Mark_eq_encodeChar]
    rfl
  obtain ⟨first, others, hlines⟩ := Text.exists_first_line (Utf8.decodeLossy rest)
  have hone := hlines ['\uFEFF'] (by simp) (by simp)
  have htwo := hlines ['\uFEFF', '\uFEFF'] (by simp) (by simp)
  refine sniff_congr fun candidate hcandidate => ?_
  rw [sampledLines_of_lt h, sampledLines_of_lt hshort, hmark, hmark]
  simp only [List.cons_append, List.nil_append] at hone htwo
  rw [hone, htwo]
  simp only [List.drop_zero, List.filter_cons, hblank, Bool.not_false, if_true, sampleLines,
    List.take_succ_cons, List.map_cons, hencode, countUnquoted_utf8Mark_append hcandidate]

end TidyCsv.Delimiter
