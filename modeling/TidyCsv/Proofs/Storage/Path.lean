import TidyCsv.Run.Footprint

/-! # Where paths lead

The location of a path is found by following the pieces between its slashes. A name below a
directory is one more piece. -/

namespace TidyCsv

namespace Text

@[simp] theorem splitOn_nil (separator : Char) : splitOn separator [] = [[]] := rfl

theorem splitOn_ne_nil (separator : Char) (text : List Char) : splitOn separator text ≠ [] := by
  cases text with
  | nil => simp
  | cons c rest =>
      unfold splitOn
      split
      · simp
      · split <;> simp

@[simp] theorem splitOn_cons_self (separator : Char) (text : List Char) :
    splitOn separator (separator :: text) = [] :: splitOn separator text := by
  simp [splitOn]

theorem splitOn_cons_of_ne {separator c : Char} (hne : c ≠ separator) {text piece : List Char}
    {pieces : List (List Char)} (h : splitOn separator text = piece :: pieces) :
    splitOn separator (c :: text) = (c :: piece) :: pieces := by
  simp [splitOn, hne, h]

/-- A separator between two texts separates their pieces. -/
theorem splitOn_append_cons (separator : Char) (xs ys : List Char) :
    splitOn separator (xs ++ separator :: ys) = splitOn separator xs ++ splitOn separator ys := by
  induction xs with
  | nil => simp
  | cons c rest ih =>
      obtain ⟨piece, pieces, hrest⟩ := List.exists_cons_of_ne_nil (splitOn_ne_nil separator rest)
      by_cases hc : c = separator
      · subst hc
        simp [ih]
      · have hall : splitOn separator (rest ++ separator :: ys) =
            piece :: (pieces ++ splitOn separator ys) := by
          rw [ih, hrest, List.cons_append]
        rw [List.cons_append, splitOn_cons_of_ne hc hall, splitOn_cons_of_ne hc hrest,
          List.cons_append]

theorem splitOn_of_not_mem {separator : Char} {text : List Char} (h : separator ∉ text) :
    splitOn separator text = [text] := by
  induction text with
  | nil => rfl
  | cons c rest ih =>
      have hsplit : separator ≠ c ∧ separator ∉ rest := by simpa using h
      exact splitOn_cons_of_ne hsplit.1.symm (ih hsplit.2)

theorem splitOn_append (separator : Char) (text : List Char) :
    ∃ init last, ∀ ending, separator ∉ ending →
      splitOn separator (text ++ ending) = init ++ [last ++ ending] := by
  induction text with
  | nil => exact ⟨[], [], fun ending h => splitOn_of_not_mem h⟩
  | cons c rest ih =>
      obtain ⟨init, last, hrest⟩ := ih
      by_cases hc : c = separator
      · subst hc
        exact ⟨[] :: init, last, fun ending h => by simp [hrest ending h]⟩
      · cases init with
        | nil =>
            exact ⟨[], c :: last, fun ending h => splitOn_cons_of_ne hc (hrest ending h)⟩
        | cons first init =>
            exact ⟨(c :: first) :: init, last,
              fun ending h => splitOn_cons_of_ne hc (hrest ending h)⟩

end Text

namespace Path

/-- What stands between the slashes of a path. -/
def pieces (p : Path) : List String := (Text.splitOn '/' p.text.toList).map String.ofList

/-- The location that pieces lead to from another one. -/
def follow (location : Location) (pieces : List String) : Location :=
  pieces.foldl
    (fun location piece =>
      if isVoid piece then location
      else if piece = ".." then location.dropLast
      else location ++ [piece])
    location

@[simp] theorem follow_nil (location : Location) : follow location [] = location := rfl

theorem follow_append (location : Location) (xs ys : List String) :
    follow location (xs ++ ys) = follow (follow location xs) ys :=
  List.foldl_append

theorem follow_cons_void {location : Location} {piece : String} (h : isVoid piece = true)
    (rest : List String) : follow location (piece :: rest) = follow location rest := by
  simp [follow, h]

/-- The pieces that are not void. -/
def solid (pieces : List String) : List String := pieces.filter (!isVoid ·)

/-- The piece is a name: it is neither void nor leads up. -/
def IsName (piece : String) : Prop := isVoid piece = false ∧ piece ≠ ".."

theorem follow_name {location : Location} {name : String} (h : IsName name) :
    follow location [name] = location ++ [name] := by
  simp [follow, h.1, h.2]

/-! ## Components -/

/-- Going through components. -/
def climb (location : Location) (components : List Component) : Location :=
  components.foldl
    (fun location component =>
      match component with
      | .root => []
      | .current => location
      | .parent => location.dropLast
      | .named name => location ++ [name])
    location

theorem climb_append (location : Location) (xs ys : List Component) :
    climb location (xs ++ ys) = climb (climb location xs) ys :=
  List.foldl_append

/-- The components of pieces, of which void ones do not count. -/
def componentsOf (pieces : List String) : List Component :=
  (pieces.filter (!isVoid ·)).map fun piece => if piece = ".." then .parent else .named piece

theorem componentsOf_cons_void {piece : String} (h : isVoid piece = true) (rest : List String) :
    componentsOf (piece :: rest) = componentsOf rest := by
  simp [componentsOf, h]

theorem climb_componentsOf (location : Location) (pieces : List String) :
    climb location (componentsOf pieces) = follow location pieces := by
  induction pieces generalizing location with
  | nil => rfl
  | cons piece rest ih =>
      cases hvoid : isVoid piece with
      | true => rw [follow_cons_void hvoid, componentsOf_cons_void hvoid, ih]
      | false =>
          by_cases hup : piece = ".."
          · subst hup
            simpa [componentsOf, climb, follow, hvoid] using ih location.dropLast
          · simpa [componentsOf, climb, follow, hvoid, hup] using ih (location ++ [piece])

theorem follow_solid (location : Location) (pieces : List String) :
    follow location (solid pieces) = follow location pieces := by
  rw [← climb_componentsOf, ← climb_componentsOf]
  simp [componentsOf, solid]

theorem pieces_of_isAbsolute {p : Path} (h : p.isAbsolute = true) :
    ∃ next rest, p.pieces = "" :: next :: rest := by
  obtain ⟨tail, htext⟩ : ∃ tail, p.text.toList = '/' :: tail := by
    cases htext : p.text.toList with
    | nil => simp [isAbsolute, htext] at h
    | cons c tail =>
        obtain rfl : c = '/' := by simpa [isAbsolute, htext] using h
        exact ⟨tail, rfl⟩
  obtain ⟨next, rest, hrest⟩ := List.exists_cons_of_ne_nil (Text.splitOn_ne_nil '/' tail)
  exact ⟨String.ofList next, rest.map String.ofList, by simp [pieces, htext, hrest]⟩

theorem pieces_of_not_isAbsolute {p : Path} (h : p.isAbsolute = false) :
    p.pieces = [""] ∨ ∃ first rest, first ≠ "" ∧ p.pieces = first :: rest := by
  cases htext : p.text.toList with
  | nil => exact .inl (by simp [pieces, htext])
  | cons c tail =>
      have hc : c ≠ '/' := by simpa [isAbsolute, htext] using h
      obtain ⟨next, rest, hrest⟩ := List.exists_cons_of_ne_nil (Text.splitOn_ne_nil '/' tail)
      refine .inr ⟨String.ofList (c :: next), rest.map String.ofList, ?_, ?_⟩
      · intro hempty
        have hlist := congrArg String.toList hempty
        simp at hlist
      · simp [pieces, htext, Text.splitOn_cons_of_ne hc hrest]

theorem components_eq (p : Path) :
    ∃ start, p.components = start ++ componentsOf p.pieces ∧
      ∀ home, climb home start = if p.isAbsolute then [] else home := by
  cases habsolute : p.isAbsolute with
  | true =>
      obtain ⟨next, rest, hpieces⟩ := pieces_of_isAbsolute habsolute
      have hsplit : p.split = (.root, next :: rest) := by
        simp only [pieces] at hpieces
        simp [split, hpieces]
      refine ⟨[.root], ?_, fun _ => rfl⟩
      rw [hpieces, componentsOf_cons_void rfl]
      simp only [components, hsplit]
      rfl
  | false =>
      rcases pieces_of_not_isAbsolute habsolute with hpieces | ⟨first, rest, hfirst, hpieces⟩
      · have hsplit : p.split = (.nothing, []) := by
          simp only [pieces] at hpieces
          simp [split, hpieces]
        refine ⟨[], ?_, fun _ => rfl⟩
        rw [hpieces, componentsOf_cons_void rfl]
        simp only [components, hsplit]
        rfl
      · by_cases hdot : first = "."
        · have hsplit : p.split = (.current, rest) := by
            simp only [pieces] at hpieces
            simp [split, hpieces, hdot]
          refine ⟨[.current], ?_, fun _ => rfl⟩
          rw [hpieces, hdot, componentsOf_cons_void rfl]
          simp only [components, hsplit]
          rfl
        · have hsplit : p.split = (.nothing, p.pieces) := by
            have hmap := hpieces
            simp only [pieces] at hmap
            unfold split
            rw [hmap]
            split <;> simp_all
          refine ⟨[], ?_, fun _ => rfl⟩
          simp only [components, hsplit]
          rfl

/-- The location of a path is found by following its pieces from the root or from home. -/
theorem location_eq_follow (home : Location) (p : Path) :
    p.location home = follow (if p.isAbsolute then [] else home) p.pieces := by
  obtain ⟨start, hcomponents, hstart⟩ := p.components_eq
  have hclimb : p.location home = climb home p.components := rfl
  rw [hclimb, hcomponents, climb_append, hstart, climb_componentsOf]

theorem fileName?_of_pieces {p : Path} {init : List String} {name : String} (h : IsName name)
    (hpieces : p.pieces = init ++ [name]) : p.fileName? = some name := by
  obtain ⟨start, hcomponents, -⟩ := p.components_eq
  have hlast : componentsOf p.pieces = componentsOf init ++ [.named name] := by
    simp [hpieces, componentsOf, h.1, h.2]
  rw [fileName?, hcomponents, hlast, ← List.append_assoc, List.getLast?_concat]

/-- The last part of a path ends as the text of the path does. -/
theorem fileName?_append (text : String) {ending : String} (hslash : '/' ∉ ending.toList)
    {c : Char} (hlast : ending.toList.getLast? = some c) (hdot : c ≠ '.') :
    ∃ stem, (Path.mk (text ++ ending)).fileName? = some (stem ++ ending) := by
  obtain ⟨init, last, hsplit⟩ := Text.splitOn_append '/' text.toList
  have hend : (String.ofList last ++ ending).toList.getLast? = some c := by
    rw [String.toList_append, List.getLast?_append, hlast, Option.some_or]
  have hname : IsName (String.ofList last ++ ending) := by
    constructor
    · rw [isVoid, Bool.or_eq_false_iff, beq_eq_false_iff_ne, beq_eq_false_iff_ne]
      constructor
      · intro hempty
        simp [hempty] at hend
      · intro hsingle
        rw [hsingle] at hend
        exact hdot (Option.some.inj hend).symm
    · intro hup
      rw [hup] at hend
      exact hdot (Option.some.inj hend).symm
  have hpieces : (Path.mk (text ++ ending)).pieces =
      init.map String.ofList ++ [String.ofList last ++ ending] := by
    rw [pieces, String.toList_append, hsplit _ hslash, List.map_append, List.map_singleton,
      String.ofList_append, String.ofList_toList]
  exact ⟨String.ofList last, fileName?_of_pieces hname hpieces⟩

/-! ## Names below a directory -/

/-- A name without a slash. -/
structure IsPlainName (name : String) : Prop where
  isName : IsName name
  no_slash : '/' ∉ name.toList

theorem IsPlainName.ne_empty {name : String} (h : IsPlainName name) : name.toList ≠ [] := by
  intro hempty
  obtain rfl : name = "" := String.toList_inj.mp hempty
  exact absurd h.isName.1 (by decide)

theorem IsPlainName.not_isAbsolute {name : String} (h : IsPlainName name) :
    (Path.mk name).isAbsolute = false := by
  obtain ⟨c, rest, hlist⟩ := List.exists_cons_of_ne_nil h.ne_empty
  have hslash := h.no_slash
  rw [hlist] at hslash
  have hc : c ≠ '/' := by
    rintro rfl
    simp at hslash
  simpa [isAbsolute, hlist] using hc

theorem IsPlainName.pieces_eq {name : String} (h : IsPlainName name) :
    (Path.mk name).pieces = [name] := by
  simp [pieces, Text.splitOn_of_not_mem h.no_slash]

/-- Joining a directory and a name puts the name after a text and pieces that depend on the directory
only, and does not change where the path starts. -/
theorem join_name (directory : Path) : ∃ (lead : String) (init : List String),
    solid init = solid directory.pieces ∧ directory.text.toList <+: lead.toList ∧
      ∀ name, IsPlainName name → directory.join ⟨name⟩ = ⟨lead ++ name⟩ ∧
        (directory.join ⟨name⟩).pieces = init ++ [name] ∧
        (directory.join ⟨name⟩).isAbsolute = directory.isAbsolute := by
  by_cases hempty : directory.text = ""
  · refine ⟨"", [], ?_, ?_, fun name h => ?_⟩
    · simp [pieces, hempty, solid, isVoid]
    · simp [hempty]
    · have hjoin : directory.join ⟨name⟩ = ⟨name⟩ := by
        simp [join, h.not_isAbsolute, hempty]
      refine ⟨by simpa using hjoin, by rw [hjoin, h.pieces_eq, List.nil_append], ?_⟩
      rw [hjoin, h.not_isAbsolute]
      simp [isAbsolute, hempty]
  · have hne : directory.text.toList ≠ [] := by
      intro hlist
      exact hempty (String.toList_inj.mp hlist)
    by_cases hslash : directory.text.toList.getLast? = some '/'
    · obtain ⟨init, hinit⟩ : ∃ init, directory.text.toList = init ++ ['/'] := by
        obtain ⟨init, last, hlast⟩ := (List.eq_nil_or_concat _).resolve_left hne
        obtain rfl : last = '/' := by simpa [hlast] using hslash
        exact ⟨init, by simpa using hlast⟩
      refine ⟨directory.text, (Text.splitOn '/' init).map String.ofList, ?_, List.prefix_rfl,
        fun name h => ?_⟩
      · simp [pieces, hinit, Text.splitOn_append_cons, solid, isVoid]
      · have hjoin : directory.join ⟨name⟩ = ⟨directory.text ++ name⟩ := by
          simp [join, h.not_isAbsolute, hslash]
        refine ⟨hjoin, ?_, ?_⟩
        · rw [hjoin]
          simp [pieces, hinit, Text.splitOn_append_cons, Text.splitOn_of_not_mem h.no_slash]
        · rw [hjoin]
          cases init <;> simp [isAbsolute, hinit]
    · refine ⟨directory.text ++ "/", directory.pieces, rfl, by simp, fun name h => ?_⟩
      have hjoin : directory.join ⟨name⟩ = ⟨directory.text ++ "/" ++ name⟩ := by
        simp [join, h.not_isAbsolute, hempty, hslash]
      refine ⟨hjoin, ?_, ?_⟩
      · rw [hjoin]
        simp [pieces, Text.splitOn_append_cons, Text.splitOn_of_not_mem h.no_slash]
      · rw [hjoin]
        obtain ⟨c, rest, hlist⟩ := List.exists_cons_of_ne_nil hne
        simp [isAbsolute, hlist]

theorem location_join_name (home : Location) (directory : Path) {name : String}
    (h : IsPlainName name) :
    (directory.join ⟨name⟩).location home = directory.location home ++ [name] := by
  obtain ⟨lead, init, hinit, -, hjoin⟩ := join_name directory
  obtain ⟨-, hpieces, habsolute⟩ := hjoin name h
  rw [location_eq_follow, location_eq_follow, hpieces, habsolute, follow_append,
    ← follow_solid _ init, hinit, follow_solid, follow_name h.isName]

theorem location_name (home : Location) {name : String} (h : IsPlainName name) :
    (Path.mk name).location home = home ++ [name] := by
  rw [location_eq_follow, h.not_isAbsolute, h.pieces_eq, if_neg (by simp), follow_name h.isName]

/-- What is in the text of a path below another one is in either of the two, or separates them. -/
theorem mem_join {p q : Path} {c : Char} (h : c ∈ (p.join q).text.toList) :
    c ∈ p.text.toList ∨ c = '/' ∨ c ∈ q.text.toList := by
  unfold join at h
  split at h
  · exact .inr (.inr h)
  · split at h
    · rw [String.toList_append, List.mem_append] at h
      exact h.imp_right .inr
    · simpa [or_assoc] using h

end Path

end TidyCsv
