import TidyCsv.Proofs.Text.Lines
import TidyCsv.Report.Panel
import Mathlib.Data.List.Forall2

/-! # Boxes

A text takes as much room in a line as it takes alone if every colour sequence in it also ends in
it; a sequence that goes on hides what comes after the text. So the lines of a box are equally wide
if and only if each sequence ends in the title, or in the line of the body, in which it begins. -/

namespace TidyCsv

namespace Text

theorem closeLine_reverse {line : List Char} (h : line.getLast? ≠ some '\r') :
    closeLine line.reverse = line := by
  rw [closeLine_of_ne, List.reverse_reverse]
  intro rest hrest
  apply h
  rw [← List.head?_reverse, hrest, List.head?_cons]

end Text

namespace Panel

variable {inEscape : Bool} {inner : Nat} {text title line front back : List Char}
  {body : List (List Char)}

/-! ## Colour sequences -/

/-- Every colour sequence of a text ends in it: an `m` follows each character that begins one. -/
def Closed : List Char → Prop
  | [] => True
  | c :: rest => (c = '\x1b' → 'm' ∈ rest) ∧ Closed rest

instance decidableClosed : DecidablePred Closed
  | [] => isTrue trivial
  | c :: rest =>
    letI : Decidable (Closed rest) := decidableClosed rest
    inferInstanceAs (Decidable ((c = '\x1b' → 'm' ∈ rest) ∧ Closed rest))

/-- Whether a colour sequence is going on after a text. -/
def escapeAfter (inEscape : Bool) : List Char → Bool
  | [] => inEscape
  | c :: rest => escapeAfter (if inEscape then c != 'm' else c == '\x1b') rest

/-- No sequence is going on after a text if all of its own have ended, and the one before it too. -/
theorem escapeAfter_eq_false_iff :
    escapeAfter inEscape text = false ↔ Closed text ∧ (inEscape = true → 'm' ∈ text) := by
  induction text generalizing inEscape with
  | nil => simp [escapeAfter, Closed]
  | cons c text ih =>
      rw [escapeAfter, ih, Closed]
      cases inEscape with
      | false => simp [and_comm]
      | true =>
          -- a character that would begin a sequence is passed over within another one, and the `m`
          -- that ends that one then ends both
          by_cases hc : c = 'm'
          · simp [hc]
          · have hm : 'm' ≠ c := Ne.symm hc
            have hends : ((c != 'm') = true → 'm' ∈ text) ↔ 'm' ∈ text := by simp [hc]
            simp only [if_true, hends, List.mem_cons, hm, false_or, forall_const]
            tauto

theorem escapeAfter_eq_decide (text : List Char) :
    escapeAfter false text = !decide (Closed text) := by
  have hiff : escapeAfter false text = false ↔ Closed text := by simp [escapeAfter_eq_false_iff]
  by_cases hclosed : Closed text
  · simp [hiff.mpr hclosed, hclosed]
  · simpa [hclosed] using mt hiff.mp hclosed

theorem widthFrom_append (inEscape : Bool) (width : Nat) (text rest : List Char) :
    widthFrom inEscape width (text ++ rest) =
      widthFrom (escapeAfter inEscape text) (widthFrom inEscape width text) rest := by
  induction text generalizing inEscape width with
  | nil => rfl
  | cons c text ih =>
      cases inEscape with
      | true => exact ih (c != 'm') width
      | false =>
          by_cases hc : c = '\x1b'
          · simpa [widthFrom, escapeAfter, hc] using ih true width
          · have hnone : (c == '\x1b') = false := by simpa using hc
            simpa [widthFrom, escapeAfter, hc, hnone] using ih false (width + 1)

theorem widthFrom_eq_add (inEscape : Bool) (width : Nat) (text : List Char) :
    widthFrom inEscape width text = width + widthFrom inEscape 0 text := by
  induction text generalizing inEscape width with
  | nil => rfl
  | cons c text ih =>
      cases inEscape with
      | true => exact ih (c != 'm') width
      | false =>
          by_cases hc : c = '\x1b'
          · simpa [widthFrom, hc] using ih true width
          · have hone := ih false (width + 1)
            rw [Nat.add_assoc, ← ih false 1] at hone
            simpa [widthFrom, hc] using hone

/-- What follows a text adds its own width, unless a sequence of the text goes on. -/
theorem displayWidth_append (text rest : List Char) :
    displayWidth (text ++ rest) =
      displayWidth text + if Closed text then displayWidth rest else widthFrom true 0 rest := by
  unfold displayWidth
  rw [widthFrom_append, widthFrom_eq_add, escapeAfter_eq_decide]
  by_cases hclosed : Closed text <;> simp [hclosed]

/-! ## Borders -/

/-- Characters that neither begin a colour sequence nor end one. -/
def IsBorder (border : List Char) : Prop := '\x1b' ∉ border ∧ 'm' ∉ border

theorem closed_of_not_mem (h : '\x1b' ∉ text) : Closed text := by
  induction text with
  | nil => trivial
  | cons c text ih =>
      simp only [List.mem_cons, not_or] at h
      exact ⟨fun hc => absurd hc.symm h.1, ih h.2⟩

theorem displayWidth_of_not_mem (h : '\x1b' ∉ text) : displayWidth text = text.length := by
  induction text with
  | nil => rfl
  | cons c text ih =>
      simp only [List.mem_cons, not_or] at h
      have hone : displayWidth [c] = 1 := by simp [displayWidth, widthFrom, Ne.symm h.1]
      have hclosed : Closed [c] := closed_of_not_mem (by simpa using h.1)
      rw [← List.singleton_append, displayWidth_append, if_pos hclosed, hone, ih h.2,
        List.length_append, List.length_singleton]

/-- What holds no `m` is hidden while a sequence is going on. -/
theorem widthFrom_true (h : 'm' ∉ text) : widthFrom true 0 text = 0 := by
  induction text with
  | nil => rfl
  | cons c text ih =>
      simp only [List.mem_cons, not_or] at h
      have hc : (c != 'm') = true := by simpa using Ne.symm h.1
      rw [widthFrom, if_pos rfl, hc]
      exact ih h.2

theorem displayWidth_framed (hfront : IsBorder front) (hback : IsBorder back) :
    displayWidth (front ++ (text ++ back)) =
      front.length + (displayWidth text + if Closed text then back.length else 0) := by
  rw [displayWidth_append, if_pos (closed_of_not_mem hfront.1), displayWidth_of_not_mem hfront.1,
    displayWidth_append, displayWidth_of_not_mem hback.1, widthFrom_true hback.2]

theorem displayWidth_framed_eq_iff {width : Nat} (hfront : IsBorder front) (hback : IsBorder back)
    (hne : back ≠ []) (hwidth : front.length + (displayWidth text + back.length) = width) :
    displayWidth (front ++ (text ++ back)) = width ↔ Closed text := by
  have hpos : 0 < back.length := List.length_pos_iff.mpr hne
  rw [displayWidth_framed hfront hback]
  by_cases hclosed : Closed text
  · simp only [hclosed, if_true, hwidth]
  · simp only [hclosed, if_false, iff_false]
    omega

/-! ## The lines of a box -/

theorem topLine_eq (title : List Char) (inner : Nat) :
    topLine title inner = ['┌', '─', ' '] ++
      (title ++ ' ' :: (List.replicate (inner - (displayWidth title + 3)) '─' ++ ['┐'])) := by
  simp [topLine]

theorem bodyLine_eq (line : List Char) (inner : Nat) :
    bodyLine line inner = ['│', ' '] ++
      (line ++ (List.replicate (inner - (displayWidth line + 2)) ' ' ++ [' ', '│'])) := by
  simp [bodyLine]

theorem displayWidth_topLine_eq_iff (h : displayWidth title + 3 ≤ inner) :
    displayWidth (topLine title inner) = inner + 2 ↔ Closed title := by
  rw [topLine_eq]
  apply displayWidth_framed_eq_iff
  · simp [IsBorder]
  · simp [IsBorder]
  · simp
  · simp
    omega

theorem displayWidth_bodyLine_eq_iff (h : displayWidth line + 2 ≤ inner) :
    displayWidth (bodyLine line inner) = inner + 2 ↔ Closed line := by
  rw [bodyLine_eq]
  apply displayWidth_framed_eq_iff
  · simp [IsBorder]
  · simp [IsBorder]
  · simp
  · simp
    omega

theorem displayWidth_bottomLine (inner : Nat) : displayWidth (bottomLine inner) = inner + 2 := by
  rw [displayWidth_of_not_mem]
  · simp [bottomLine]
  · simp [bottomLine]

/-- The room between the borders does not shrink with another line, and each line fits. -/
theorem le_foldl_max (body : List (List Char)) (start : Nat) :
    start ≤ body.foldl (fun width line => max width (displayWidth line + 2)) start ∧
      ∀ line ∈ body,
        displayWidth line + 2 ≤
          body.foldl (fun width line => max width (displayWidth line + 2)) start := by
  induction body generalizing start with
  | nil => simp
  | cons first rest ih =>
      obtain ⟨hstart, hrest⟩ := ih (max start (displayWidth first + 2))
      rw [List.foldl_cons]
      refine ⟨by omega, fun line hline => ?_⟩
      cases hline with
      | head => omega
      | tail _ hline => exact hrest line hline

theorem minWidth_le_innerWidth (title : List Char) (body : List (List Char)) :
    minWidth ≤ innerWidth title body :=
  Nat.le_trans (Nat.le_max_left _ _) (le_foldl_max body _).1

theorem title_le_innerWidth (title : List Char) (body : List (List Char)) :
    displayWidth title + 3 ≤ innerWidth title body :=
  Nat.le_trans (Nat.le_max_right _ _) (le_foldl_max body _).1

theorem line_le_innerWidth (h : line ∈ body) : displayWidth line + 2 ≤ innerWidth title body :=
  (le_foldl_max body _).2 line h

/-! ## Flattened lines -/

theorem mem_flatten_iff {c : Char} (h : c ≠ ' ' ∧ c ≠ '\n' ∧ c ≠ '\r' ∧ c ≠ '\t') :
    c ∈ flatten text ↔ c ∈ text := by
  induction text with
  | nil => simp [flatten]
  | cons d text ih =>
      rw [flatten, List.map_cons, ← flatten, List.mem_cons, ih, List.mem_cons]
      split
      · next hd =>
          have hc : c ≠ d := by
            rintro rfl
            simp [h] at hd
          simp [h.1, hc]
      · rfl

theorem closed_flatten_iff : Closed (flatten text) ↔ Closed text := by
  induction text with
  | nil => rfl
  | cons c text ih =>
      have hm : 'm' ∈ flatten text ↔ 'm' ∈ text := mem_flatten_iff (by decide)
      have hc : (if c = '\n' ∨ c = '\r' ∨ c = '\t' then ' ' else c) = '\x1b' ↔ c = '\x1b' := by
        split
        · next hbreak =>
            constructor
            · intro hspace
              exact absurd hspace (by decide)
            · rintro rfl
              exact absurd hbreak (by decide)
        · rfl
      rw [flatten, List.map_cons, ← flatten, Closed, Closed, ih, hm, hc]

theorem not_mem_flatten (text : List Char) :
    '\n' ∉ flatten text ∧ '\t' ∉ flatten text ∧ '\r' ∉ flatten text := by
  have hspace : ∀ c ∈ flatten text, ¬ (c = '\n' ∨ c = '\r' ∨ c = '\t') := by
    intro c hc
    obtain ⟨d, -, rfl⟩ := List.mem_map.mp hc
    split
    · decide
    · next hd => exact hd
  refine ⟨fun hmem => ?_, fun hmem => ?_, fun hmem => ?_⟩ <;>
    exact absurd (hspace _ hmem) (by decide)

/-! ## Whole boxes -/

theorem boxLines_eq (title body : List Char) :
    boxLines title body =
      topLine title (innerWidth title (bodyLines body)) ::
        ((Text.lines body).map (fun line =>
          bodyLine (flatten line) (innerWidth title (bodyLines body))) ++
            [bottomLine (innerWidth title (bodyLines body))]) := by
  simp [boxLines, bodyLines]

theorem forall_mem_boxLines_iff {title body : List Char} {inner : Nat}
    (hinner : innerWidth title (bodyLines body) = inner) (p : List Char → Prop) :
    (∀ line ∈ boxLines title body, p line) ↔
      p (topLine title inner) ∧ (∀ line ∈ Text.lines body, p (bodyLine (flatten line) inner)) ∧
        p (bottomLine inner) := by
  rw [boxLines_eq, hinner, List.forall_mem_cons, List.forall_mem_append, List.forall_mem_map,
    List.forall_mem_singleton]

/-- All lines of a box are equally wide if and only if the title and the lines of the body are
closed. -/
theorem aligned_boxLines_iff (title body : List Char) :
    (∃ width, 42 ≤ width ∧ ∀ line ∈ boxLines title body, displayWidth line = width) ↔
      Closed title ∧ ∀ line ∈ Text.lines body, Closed line := by
  have hleast := minWidth_le_innerWidth title (bodyLines body)
  have htitle := title_le_innerWidth title (bodyLines body)
  have hline : ∀ line ∈ Text.lines body,
      displayWidth (flatten line) + 2 ≤ innerWidth title (bodyLines body) := fun line hline =>
    line_le_innerWidth (List.mem_map_of_mem (f := flatten) hline)
  -- of the width between the borders only these bounds are needed
  generalize hinner : innerWidth title (bodyLines body) = inner at hleast htitle hline
  have hwide : (∀ line ∈ boxLines title body, displayWidth line = inner + 2) ↔
      Closed title ∧ ∀ line ∈ Text.lines body, Closed line := by
    have hrow : ∀ line ∈ Text.lines body,
        (displayWidth (bodyLine (flatten line) inner) = inner + 2 ↔ Closed line) := by
      intro line hmem
      rw [displayWidth_bodyLine_eq_iff (hline line hmem), closed_flatten_iff]
    rw [forall_mem_boxLines_iff hinner, displayWidth_topLine_eq_iff htitle, forall₂_congr hrow,
      displayWidth_bottomLine, eq_self, and_true]
  rw [← hwide]
  constructor
  · -- the lower border is as wide as all lines
    intro ⟨width, _, haligned⟩
    have hbottom := ((forall_mem_boxLines_iff hinner _).mp haligned).2.2
    rw [displayWidth_bottomLine] at hbottom
    rwa [hbottom]
  · intro haligned
    exact ⟨inner + 2, Nat.add_le_add_right hleast 2, haligned⟩

/-- A line with no line feed in it that ends in another character than a carriage return. -/
def IsWhole (line : List Char) : Prop := '\n' ∉ line ∧ line.getLast? ≠ some '\r'

theorem lines_joinLines {all : List (List Char)} (h : ∀ line ∈ all, IsWhole line) :
    Text.lines (joinLines all) = all := by
  induction all with
  | nil => rfl
  | cons line rest ih =>
      obtain ⟨hline, hrest⟩ := List.forall_mem_cons.mp h
      have hjoin : joinLines (line :: rest) = line ++ '\n' :: joinLines rest := by
        simp [joinLines]
      rw [hjoin, Text.lines_line hline.1, Text.closeLine_reverse hline.2, ih hrest]

theorem isWhole_of_mem_boxLines {title : List Char} (h : '\n' ∉ title) (body : List Char) :
    ∀ line ∈ boxLines title body, IsWhole line := by
  apply (forall_mem_boxLines_iff rfl IsWhole).mpr
  refine ⟨?_, fun line _ => ?_, ?_⟩
  · simp [IsWhole, topLine, h, List.getLast?_cons, List.getLast?_append]
  · simp [IsWhole, bodyLine, (not_mem_flatten line).1, List.getLast?_cons, List.getLast?_append]
  · simp [IsWhole, bottomLine, List.getLast?_cons, List.getLast?_append]

/-- A title of one line leaves the lines of a box whole. -/
theorem lines_render {title : String} (h : '\n' ∉ title.toList) (body : String) :
    Text.lines (render title body).toList = boxLines title.toList body.toList := by
  rw [render, String.toList_ofList]
  exact lines_joinLines (isWhole_of_mem_boxLines h body.toList)

/-- A box of a width that shows a title and the lines of a text: as many lines as the text has and
two more, all of them equally wide, the title in the first one, and each line of the text in one of
the others, with blanks for its tabs and carriage returns. -/
structure IsBox (title : List Char) (text box : List (List Char)) (width : Nat) : Prop where
  length_eq : box.length = 2 + text.length
  aligned : ∀ line ∈ box, displayWidth line = width
  titled : ∀ top ∈ box.head?, title <:+: top
  rows : List.Forall₂ (fun line row => flatten line <:+: row) text box.tail.dropLast
  unmoved : ∀ row ∈ box.tail, '\t' ∉ row ∧ '\r' ∉ row

/-- But for its width, nothing about a box depends on colour sequences. -/
theorem isBox_boxLines {title body : List Char} {width : Nat}
    (haligned : ∀ line ∈ boxLines title body, displayWidth line = width) :
    IsBox title (Text.lines body) (boxLines title body) width := by
  refine ⟨?_, haligned, ?_, ?_, ?_⟩ <;> rw [boxLines_eq]
  · simp only [List.length_cons, List.length_append, List.length_map, List.length_nil]
    omega
  · intro top htop
    obtain rfl : topLine _ _ = top := by simpa using htop
    exact ⟨['┌', '─', ' '], _, by rw [topLine_eq, List.append_assoc]⟩
  · rw [List.tail_cons, List.dropLast_concat, List.forall₂_map_right_iff, List.forall₂_same]
    intro line _
    exact ⟨['│', ' '], _, by rw [bodyLine_eq, List.append_assoc]⟩
  · rw [List.tail_cons, List.forall_mem_append, List.forall_mem_map, List.forall_mem_singleton]
    constructor
    · intro line _
      simp [bodyLine, not_mem_flatten line]
    · simp [bottomLine]

/-- A title of one line and a text are shown in a box if and only if they are closed, whatever the
lengths of their lines. -/
theorem render_isBox_iff {title body : String} (h : '\n' ∉ title.toList) :
    (∃ width, 42 ≤ width ∧ IsBox title.toList (Text.lines body.toList)
        (Text.lines (render title body).toList) width) ↔
      Closed title.toList ∧ ∀ line ∈ Text.lines body.toList, Closed line := by
  rw [lines_render h, ← aligned_boxLines_iff]
  constructor
  · intro ⟨width, hleast, hbox⟩
    exact ⟨width, hleast, hbox.aligned⟩
  · intro ⟨width, hleast, haligned⟩
    exact ⟨width, hleast, isBox_boxLines haligned⟩

/-- A title in colours, and lines of which one is wider than any box has to be. -/
def colouredTitle : String := "\x1b[31mRows\x1b[0m rejected"

def tabbedBody : String :=
  "a\tb\r\n\x1b[1mline\x1b[0m 2 of a file\rwith more than forty columns in it\r"

theorem render_isBox_coloured :
    '\n' ∉ colouredTitle.toList ∧
      ∃ width, 42 ≤ width ∧ IsBox colouredTitle.toList (Text.lines tabbedBody.toList)
        (Text.lines (render colouredTitle tabbedBody).toList) width := by
  have hbreak : '\n' ∉ colouredTitle.toList := by decide
  have htitle : Closed colouredTitle.toList := by decide
  have hbody : ∀ line ∈ Text.lines tabbedBody.toList, Closed line := by decide
  exact ⟨hbreak, (@render_isBox_iff colouredTitle tabbedBody hbreak).mpr ⟨htitle, hbody⟩⟩

end Panel

end TidyCsv
