import TidyCsv.Proofs.Storage.Frame

/-! # Directories on the way

A path that leads anywhere goes through directories: its parent is one, and so is the directory that
a name is joined to. Making directories that could not be made fails again, and changes nothing
then. -/

namespace TidyCsv

/-! ## Texts and their pieces -/

namespace Text

theorem intercalate_splitOn (separator : Char) (text : List Char) :
    [separator].intercalate (splitOn separator text) = text := by
  induction text with
  | nil => rfl
  | cons c rest ih =>
      obtain ⟨piece, pieces, hrest⟩ := List.exists_cons_of_ne_nil (splitOn_ne_nil separator rest)
      by_cases hc : c = separator
      · subst hc
        rw [splitOn_cons_self, hrest, List.intercalate_cons_cons, ← hrest, ih]
        rfl
      · rw [splitOn_cons_of_ne hc hrest]
        rw [hrest] at ih
        rw [← ih]
        cases pieces with
        | nil => simp
        | cons next pieces => simp [List.intercalate_cons_cons]

theorem splitOn_intercalate {separator : Char} {parts : List (List Char)} (hne : parts ≠ [])
    (h : ∀ part ∈ parts, separator ∉ part) :
    splitOn separator ([separator].intercalate parts) = parts := by
  induction parts with
  | nil => exact absurd rfl hne
  | cons part rest ih =>
      obtain ⟨hpart, hrest⟩ := List.forall_mem_cons.mp h
      cases rest with
      | nil => simpa using splitOn_of_not_mem hpart
      | cons next rest =>
          rw [List.intercalate_cons_cons, List.append_assoc, List.singleton_append,
            splitOn_append_cons, splitOn_of_not_mem hpart, ih (by simp) hrest,
            List.singleton_append]

theorem not_mem_of_mem_splitOn {separator : Char} {text piece : List Char}
    (h : piece ∈ splitOn separator text) : separator ∉ piece := by
  induction text generalizing piece with
  | nil =>
      obtain rfl : piece = [] := by simpa using h
      simp
  | cons c rest ih =>
      obtain ⟨first, pieces, hrest⟩ := List.exists_cons_of_ne_nil (splitOn_ne_nil separator rest)
      by_cases hc : c = separator
      · subst hc
        rcases List.mem_cons.mp (by simpa using h) with rfl | hmem
        · simp
        · exact ih hmem
      · rw [splitOn_cons_of_ne hc hrest] at h
        rcases List.mem_cons.mp h with rfl | hmem
        · have hfirst : separator ∉ first := ih (by simp [hrest])
          simp [hfirst, Ne.symm hc]
        · exact ih (by simp [hrest, hmem])

theorem intercalate_isPrefix_append (separator : List Char) {xs : List (List Char)} (hne : xs ≠ [])
    (ys : List (List Char)) :
    separator.intercalate xs <+: separator.intercalate (xs ++ ys) := by
  induction xs with
  | nil => exact absurd rfl hne
  | cons x rest ih =>
      cases rest with
      | nil =>
          cases ys with
          | nil => simp
          | cons y ys => simp [List.intercalate_cons_cons]
      | cons next rest =>
          rw [List.cons_append, List.cons_append, List.intercalate_cons_cons,
            List.intercalate_cons_cons]
          exact (List.prefix_append_right_inj _).mpr (ih (by simp))

end Text

namespace Path

theorem toList_text_eq (p : Path) :
    p.text.toList = ['/'].intercalate (p.pieces.map String.toList) := by
  have hpieces : p.pieces.map String.toList = Text.splitOn '/' p.text.toList := by
    simp [pieces, Function.comp_def]
  rw [hpieces, Text.intercalate_splitOn]

theorem slash_not_mem_of_mem_pieces {p : Path} {piece : String} (h : piece ∈ p.pieces) :
    '/' ∉ piece.toList := by
  obtain ⟨part, hpart, rfl⟩ := List.mem_map.mp h
  simpa using Text.not_mem_of_mem_splitOn hpart

theorem pieces_intercalate {parts : List String} (hne : parts ≠ [])
    (h : ∀ part ∈ parts, '/' ∉ part.toList) : (Path.mk ("/".intercalate parts)).pieces = parts := by
  have hsplit : Text.splitOn '/' (['/'].intercalate (parts.map String.toList)) =
      parts.map String.toList := Text.splitOn_intercalate (by simpa using hne) (by simpa using h)
  simp [pieces, String.toList_intercalate, hsplit, Function.comp_def]

/-! ## Parents -/

theorem dropVoid_append (pieces : List String) :
    ∃ voids, pieces = dropVoid pieces ++ voids ∧ solid voids = [] := by
  refine ⟨(pieces.reverse.takeWhile isVoid).reverse, ?_, ?_⟩
  · have hsplit : pieces.reverse.takeWhile isVoid ++ pieces.reverse.dropWhile isVoid =
        pieces.reverse := List.takeWhile_append_dropWhile
    have hreverse := congrArg List.reverse hsplit
    rw [List.reverse_append, List.reverse_reverse] at hreverse
    exact hreverse.symm
  · have hvoid : (pieces.reverse.takeWhile isVoid).all isVoid = true := List.all_takeWhile
    rw [solid, List.filter_eq_nil_iff]
    intro piece hpiece
    simp [List.all_eq_true.mp hvoid piece (List.mem_reverse.mp hpiece)]

theorem isVoid_of_dropVoid_eq {pieces init : List String} {last : String}
    (h : dropVoid pieces = init ++ [last]) : isVoid last = false := by
  have hreverse : pieces.reverse.dropWhile isVoid = last :: init.reverse := by
    have hlist := congrArg List.reverse h
    simpa [dropVoid] using hlist
  simpa [hreverse] using List.head?_dropWhile_not isVoid pieces.reverse

/-- The piece that says where a path starts, if there is one. -/
def leadOf : Start → List String
  | .root => [""]
  | .current => ["."]
  | .nothing => []

theorem split_cases (p : Path) :
    p.split = (.nothing, []) ∨ ∃ start rest, p.split = (start, rest) ∧
      p.pieces = leadOf start ++ rest ∧ (start = .root → p.isAbsolute = true) := by
  cases habsolute : p.isAbsolute with
  | true =>
      obtain ⟨next, rest, hpieces⟩ := pieces_of_isAbsolute habsolute
      refine .inr ⟨.root, next :: rest, ?_, hpieces, fun _ => rfl⟩
      simp only [pieces] at hpieces
      simp [split, hpieces]
  | false =>
      rcases pieces_of_not_isAbsolute habsolute with hpieces | ⟨first, rest, hfirst, hpieces⟩
      · refine .inl ?_
        simp only [pieces] at hpieces
        simp [split, hpieces]
      · by_cases hdot : first = "."
        · refine .inr ⟨.current, rest, ?_, by rw [hpieces, hdot]; rfl, by simp⟩
          simp only [pieces] at hpieces
          simp [split, hpieces, hdot]
        · refine .inr ⟨.nothing, p.pieces, ?_, rfl, by simp⟩
          have hmap := hpieces
          simp only [pieces] at hmap
          unfold split
          rw [hmap]
          split <;> simp_all

theorem assemble_eq {start : Start} {parts : List String} (h : leadOf start ++ parts ≠ [""]) :
    assemble start parts = ⟨"/".intercalate (leadOf start ++ parts)⟩ := by
  cases start with
  | root =>
      cases parts with
      | nil => simp [leadOf] at h
      | cons part rest => simp [assemble, leadOf, String.intercalate_cons_cons]
  | current =>
      cases parts with
      | nil => simp [assemble, leadOf]
      | cons part rest => simp [assemble, leadOf, String.intercalate_cons_cons]
  | nothing => simp [assemble, leadOf]

/-- The pieces of a path are those of its parent, and then some that lead on. -/
theorem pieces_of_parent? {p q : Path} (h : p.parent? = some q) (hq : q.text ≠ "") :
    ∃ front back, p.pieces = front ++ back ∧ solid back ≠ [] ∧ solid q.pieces = solid front ∧
      q.text.toList <+: p.text.toList := by
  rcases p.split_cases with hsplit | ⟨start, rest, hsplit, hpieces, hroot⟩
  · simp [parent?, hsplit, dropVoid] at h
  · rcases List.eq_nil_or_concat (dropVoid rest) with hnone | ⟨init, last, hinit⟩
    · simp only [parent?, hsplit, hnone] at h
      split at h
      · obtain rfl : Path.mk "" = q := by simpa using h
        exact absurd rfl hq
      · simp at h
    · have hassemble : assemble start (dropVoid init) = q := by
        simp only [parent?, hsplit, hinit] at h
        simpa using h
      obtain ⟨voids, hrest, -⟩ := dropVoid_append rest
      obtain ⟨voids', hinit', hvoids⟩ := dropVoid_append init
      have hlast : isVoid last = false := isVoid_of_dropVoid_eq (by simpa using hinit)
      generalize dropVoid init = kept at hassemble hinit'
      subst hinit'
      have hback : p.pieces = (leadOf start ++ kept) ++ (voids' ++ (last :: voids)) := by
        rw [hpieces, hrest, hinit]
        simp
      refine ⟨leadOf start ++ kept, voids' ++ (last :: voids), hback, ?_, ?_⟩
      · simp [solid, hlast]
      · by_cases htop : leadOf start ++ kept = [""]
        · -- nothing but the root is left, since no piece at all would be no text
          obtain ⟨rfl, rfl⟩ : start = .root ∧ kept = [] := by
            cases start with
            | root => simpa [leadOf] using htop
            | current => simp [leadOf] at htop
            | nothing =>
                obtain rfl : kept = [""] := by simpa [leadOf] using htop
                obtain rfl : Path.mk "" = q := by simpa [assemble] using hassemble
                exact absurd rfl hq
          obtain rfl : Path.mk "/" = q := by simpa [assemble] using hassemble
          obtain ⟨tail, htail⟩ : ∃ tail, p.text.toList = '/' :: tail := by
            simpa [isAbsolute, List.head?_eq_some_iff] using hroot rfl
          refine ⟨by decide, ?_⟩
          rw [htail]
          exact ⟨tail, rfl⟩
        · rw [assemble_eq htop] at hassemble
          subst hassemble
          have hne : leadOf start ++ kept ≠ [] := by
            intro hempty
            simp [hempty] at hq
          have hplain : ∀ piece ∈ leadOf start ++ kept, '/' ∉ piece.toList := fun piece hpiece =>
            slash_not_mem_of_mem_pieces (by rw [hback]; exact List.mem_append_left _ hpiece)
          refine ⟨by rw [pieces_intercalate hne hplain], ?_⟩
          generalize leadOf start ++ kept = front at hback hne
          rw [toList_text_eq p, hback, String.toList_intercalate, List.map_append]
          refine Text.intercalate_isPrefix_append _ ?_ _
          rwa [ne_eq, List.map_eq_nil_iff]

end Path

namespace FileSystem

variable {fs after : FileSystem} {p q : Path} {location middle : Location}

/-! ## Walking through directories -/

/-- The directory that pieces lead to, if each of them leads to one. -/
def advance (fs : FileSystem) (location : Location) : List String → Except IoFault Location
  | [] => .ok location
  | piece :: rest =>
    if piece = "" ∨ piece = "." then fs.advance location rest
    else if piece = ".." then fs.advance location.dropLast rest
    else if longestName < (Utf8.ofString piece).length then .error .nameTooLong
    else
      match fs.entryAt? (location ++ [piece]) with
      | some .directory => fs.advance (location ++ [piece]) rest
      | some (.file _) => .error .notADirectory
      | none => .error .notFound

theorem advance_solid (fs : FileSystem) (location : Location) (pieces : List String) :
    fs.advance location (Path.solid pieces) = fs.advance location pieces := by
  induction pieces generalizing location with
  | nil => rfl
  | cons piece rest ih =>
      by_cases hvoid : piece = "" ∨ piece = "."
      · have hdropped : Path.solid (piece :: rest) = Path.solid rest := by
          rcases hvoid with rfl | rfl <;> simp [Path.solid, Path.isVoid]
        rw [hdropped, ih, advance, if_pos hvoid]
      · have hnot : Path.isVoid piece = false := by simpa [Path.isVoid] using hvoid
        have hkept : Path.solid (piece :: rest) = piece :: Path.solid rest := by
          simp [Path.solid, hnot]
        simp only [hkept, advance, ih]

theorem advance_append (fs : FileSystem) (location : Location) (xs ys : List String) :
    fs.advance location (xs ++ ys) = (fs.advance location xs).bind (fs.advance · ys) := by
  induction xs generalizing location with
  | nil => rfl
  | cons piece rest ih =>
      simp only [List.cons_append, advance, ih]
      split_ifs
      · rfl
      · rfl
      · rfl
      · cases fs.entryAt? (location ++ [piece]) with
        | none => rfl
        | some entry => cases entry <;> rfl

/-- Whatever leads on, a walk goes through the directories on the way. -/
theorem walk_append (fs : FileSystem) (location : Location) (xs : List String) {ys : List String}
    (hys : Path.solid ys ≠ []) :
    fs.walk location (xs ++ ys) = (fs.advance location xs).bind (fs.walk · ys) := by
  have hrest : ∀ rest : List String, (rest ++ ys).all (· == "") = false := by
    intro rest
    rw [Bool.eq_false_iff]
    intro hall
    refine hys (List.filter_eq_nil_iff.mpr fun piece hpiece => ?_)
    have hempty := List.all_eq_true.mp hall piece (List.mem_append_right _ hpiece)
    simp [Path.isVoid, hempty]
  induction xs generalizing location with
  | nil => rfl
  | cons piece rest ih =>
      simp only [List.cons_append, walk, advance, hrest rest, ih, Bool.false_eq_true, if_false]
      split_ifs
      · rfl
      · rfl
      · rfl
      · cases fs.entryAt? (location ++ [piece]) with
        | none => rfl
        | some entry => cases entry <;> rfl

theorem walk_of_advance {pieces : List String} (h : fs.advance location pieces = .ok middle) :
    ∃ target, fs.walk location pieces = .ok target ∧
      (target = .directory middle ∨ ∃ parent name slash, target = .member parent name slash ∧
        fs.entryAt? (parent ++ [name]) = some .directory) := by
  induction pieces generalizing location with
  | nil =>
      obtain rfl : location = middle := by simpa [advance] using h
      exact ⟨_, rfl, .inl rfl⟩
  | cons piece rest ih =>
      simp only [advance] at h
      simp only [walk]
      split_ifs at h ⊢ with hvoid hup hlong hlast
      · exact ih h
      · exact ih h
      · split at h
        · next hentry => exact ⟨_, rfl, .inr ⟨location, piece, _, rfl, hentry⟩⟩
        · simp at h
        · simp at h
      · cases hentry : fs.entryAt? (location ++ [piece]) with
        | none => simp [hentry] at h
        | some entry =>
            cases entry with
            | file content => simp [hentry] at h
            | directory =>
                simp only [hentry] at h
                exact ih h

/-- A walk that ends at a directory has gone through directories only. -/
theorem advance_of_walk {pieces : List String} {target : Target}
    (h : fs.walk location pieces = .ok target)
    (hdirectory : ∀ parent name slash, target = .member parent name slash →
      fs.entryAt? (parent ++ [name]) = some .directory) :
    fs.advance location pieces = .ok target.location := by
  induction pieces generalizing location with
  | nil =>
      obtain rfl : Target.directory location = target := by simpa [walk] using h
      rfl
  | cons piece rest ih =>
      simp only [walk] at h
      simp only [advance]
      split_ifs at h ⊢ with hvoid hup hlong hlast
      · exact ih h
      · exact ih h
      · obtain rfl : Target.member location piece (!rest.isEmpty) = target := by simpa using h
        have hrest : Path.solid rest = [] := by
          rw [Path.solid, List.filter_eq_nil_iff]
          intro other hother
          have hempty := List.all_eq_true.mp hlast other hother
          simp [Path.isVoid, hempty]
        rw [hdirectory _ _ _ rfl]
        simp only [← advance_solid fs _ rest, hrest]
        rfl
      · cases hentry : fs.entryAt? (location ++ [piece]) with
        | none => simp [hentry] at h
        | some entry =>
            cases entry with
            | file content => simp [hentry] at h
            | directory =>
                simp only [hentry] at h
                exact ih h

theorem target_of_isDirectory (h : fs.isDirectory p = true) :
    ∃ target, fs.target p = .ok target ∧ ∀ parent name slash,
      target = .member parent name slash → fs.entryAt? (parent ++ [name]) = some .directory := by
  unfold isDirectory open? at h
  cases htarget : fs.target p with
  | error fault => simp [htarget] at h
  | ok target =>
      refine ⟨target, rfl, ?_⟩
      rintro parent name slash rfl
      rw [htarget] at h
      cases hentry : fs.entryAt? (parent ++ [name]) with
      | none => simp [hentry] at h
      | some entry =>
          cases entry with
          | directory => rfl
          | file content => cases slash <;> simp [hentry] at h

theorem advance_of_isDirectory (h : fs.isDirectory p = true) :
    fs.advance (if p.isAbsolute then [] else fs.home) p.pieces = .ok (p.location fs.home) := by
  obtain ⟨target, htarget, hentry⟩ := target_of_isDirectory h
  rw [← location_of_target htarget]
  exact advance_of_walk (target_eq_walk htarget) hentry

/-- A path is a directory if it is no longer than a path that leads somewhere and opens with it, and
if its pieces lead to a directory. -/
theorem isDirectory_of_advance {target : Target} (htarget : fs.target p = .ok target)
    (hne : q.text ≠ "") (htext : q.text.toList <+: p.text.toList)
    (h : fs.advance (if p.isAbsolute then [] else fs.home) q.pieces = .ok middle) :
    fs.isDirectory q = true := by
  obtain ⟨-, hnul, hlong, -⟩ := target_eq_ok_iff.mp htarget
  obtain ⟨rest, hrest⟩ := htext
  have habsolute : q.isAbsolute = p.isAbsolute := by
    obtain ⟨c, others, hlist⟩ := List.exists_cons_of_ne_nil
      (show q.text.toList ≠ [] from fun hlist => hne (String.toList_inj.mp hlist))
    simp [Path.isAbsolute, ← hrest, hlist]
  obtain ⟨found, hwalk, hfound⟩ := walk_of_advance h
  have htarget' : fs.target q = .ok found := by
    refine target_eq_ok_iff.mpr ⟨hne, ?_, ?_, by rwa [habsolute]⟩
    · intro hmem
      exact hnul (hrest ▸ List.mem_append_left _ hmem)
    · have hlength : (Utf8.ofString q.text).length ≤ (Utf8.ofString p.text).length := by
        have hsplit : p.text = q.text ++ String.ofList rest := by
          rw [← String.toList_inj, String.toList_append, ← hrest, String.toList_ofList]
        rw [hsplit, Utf8.length_ofString_append]
        omega
      omega
  rcases hfound with rfl | ⟨parent, name, slash, rfl, hentry⟩
  · simp [isDirectory, open?, htarget']
  · simp [isDirectory, open?, htarget', hentry]

theorem isDirectory_of_parent? {target : Target} (htarget : fs.target p = .ok target)
    (hparent : p.parent? = some q) (hne : q.text ≠ "") : fs.isDirectory q = true := by
  obtain ⟨front, back, hpieces, hback, hfront, htext⟩ := Path.pieces_of_parent? hparent hne
  have hwalk := target_eq_walk htarget
  rw [hpieces, walk_append fs _ _ hback] at hwalk
  cases hadvance : fs.advance (if p.isAbsolute then [] else fs.home) front with
  | error fault => simp [hadvance, Except.bind] at hwalk
  | ok middle =>
      have hq : fs.advance (if p.isAbsolute then [] else fs.home) q.pieces = .ok middle := by
        rw [← advance_solid, hfront, advance_solid, hadvance]
      exact isDirectory_of_advance htarget hne htext hq

theorem isDirectory_of_join {target : Target} {name : String} (hname : Path.IsPlainName name)
    (htarget : fs.target (p.join ⟨name⟩) = .ok target) (hne : p.text ≠ "") :
    fs.isDirectory p = true := by
  obtain ⟨lead, init, hinit, hlead, hjoin⟩ := Path.join_name p
  obtain ⟨htext, hpieces, habsolute⟩ := hjoin name hname
  have hsolid : Path.solid [name] ≠ [] := by simp [Path.solid, hname.isName.1]
  have hwalk := target_eq_walk htarget
  rw [hpieces, walk_append fs _ _ hsolid] at hwalk
  cases hadvance : fs.advance (if (p.join ⟨name⟩).isAbsolute then [] else fs.home) init with
  | error fault => simp [hadvance, Except.bind] at hwalk
  | ok middle =>
      have hp : fs.advance (if (p.join ⟨name⟩).isAbsolute then [] else fs.home) p.pieces =
          .ok middle := by
        rw [← advance_solid, ← hinit, advance_solid, hadvance]
      refine isDirectory_of_advance htarget hne ?_ hp
      rw [htext, String.toList_append]
      exact hlead.trans (List.prefix_append _ _)

/-- Below a file there is nothing to remove, and not because it would not be found. -/
theorem removeIfExists_below_file {name : String} (hname : Path.IsPlainName name) {content : Bytes}
    (h : fs.open? p = .ok (.file content)) :
    ∃ fault, fs.removeIfExists (p.join ⟨name⟩) = .error fault := by
  obtain ⟨found, hfile, hentry⟩ := open?_eq_ok_file_iff.mp h
  obtain ⟨parent, last, htarget, rfl⟩ := fileAt?_eq_some_iff.mp hfile
  obtain ⟨hne, -, -, hwalk⟩ := target_eq_ok_iff.mp htarget
  obtain ⟨lead, init, hinit, -, hjoin⟩ := Path.join_name p
  obtain ⟨htext, hpieces, habsolute⟩ := hjoin name hname
  obtain ⟨hlast, front, hfront⟩ := name_of_walk hwalk
  have hsolid : ∀ {piece}, Path.IsName piece → Path.solid [piece] ≠ [] := by
    intro piece hpiece
    simp [Path.solid, hpiece.1]
  have hadvance : fs.advance (if p.isAbsolute then [] else fs.home) p.pieces =
      .error .notADirectory := by
    rw [hfront, walk_append fs _ _ (hsolid hlast)] at hwalk
    rw [hfront, advance_append]
    cases hway : fs.advance (if p.isAbsolute then [] else fs.home) front with
    | error fault => simp [hway, Except.bind] at hwalk
    | ok middle =>
        have hvoid : ¬ (last = "" ∨ last = ".") := by simpa [Path.isVoid] using hlast.1
        simp only [hway, Except.bind, walk, if_neg hvoid, if_neg hlast.2, List.all_nil,
          if_true] at hwalk
        split_ifs at hwalk with hlong
        obtain rfl : middle = parent := by simpa using hwalk
        simp [Except.bind, advance, hvoid, hlast.2, hlong, hentry]
  have hblocked : fs.walk (if (p.join ⟨name⟩).isAbsolute then [] else fs.home)
      (p.join ⟨name⟩).pieces = .error .notADirectory := by
    rw [habsolute, hpieces, walk_append fs _ _ (hsolid hname.isName), ← advance_solid, hinit,
      advance_solid, hadvance]
    rfl
  have hfault : ∃ fault, fs.target (p.join ⟨name⟩) = .error fault ∧ fault ≠ .notFound := by
    have hnonempty : (p.join ⟨name⟩).text ≠ "" := by
      rw [htext]
      intro hempty
      exact hname.ne_empty (by simp_all)
    unfold FileSystem.target
    rw [if_neg hnonempty]
    split
    · exact ⟨_, rfl, by simp⟩
    · split
      · exact ⟨_, rfl, by simp⟩
      · exact ⟨_, hblocked, by simp⟩
  obtain ⟨fault, hfault, hother⟩ := hfault
  refine ⟨fault, ?_⟩
  unfold removeIfExists remove
  rw [hfault]
  cases fault <;> simp_all

/-! ## Directories that stay -/

theorem KeepsDirectories.isDirectory (hkeeps : KeepsDirectories fs after)
    (h : fs.isDirectory p = true) : after.isDirectory p = true := by
  obtain ⟨target, htarget, hentry⟩ := target_of_isDirectory h
  unfold FileSystem.isDirectory open?
  rw [hkeeps.target htarget]
  cases target with
  | directory location => rfl
  | member parent name slash => simp [hkeeps.directory _ (hentry _ _ _ rfl)]

theorem contains_of_isDirectory (h : fs.isDirectory p = true) : fs.contains p = true := by
  unfold isDirectory at h
  split at h
  · next hopen => simp [contains, hopen, Except.isOk, Except.toBool]
  · simp at h

theorem isDirectory_or_file_of_contains (h : fs.contains p = true) :
    fs.isDirectory p = true ∨ ∃ content, fs.open? p = .ok (.file content) := by
  cases hopen : fs.open? p with
  | error fault => simp [contains, hopen, Except.isOk, Except.toBool] at h
  | ok entry =>
      cases entry with
      | directory => exact .inl (by simp [isDirectory, hopen])
      | file content => exact .inr ⟨content, rfl⟩

/-! ## Making directories -/

theorem ensureDirectory_of_isDirectory (h : fs.isDirectory p = true) :
    fs.ensureDirectory p = .ok fs := by
  unfold ensureDirectory
  cases hmake : fs.makeDirectory p with
  | error fault => simp [h]
  | ok after =>
      -- what can be made is not there yet
      unfold makeDirectory at hmake
      unfold isDirectory open? at h
      split at hmake
      · simp at hmake
      · simp at hmake
      · next parent name slash htarget =>
          rw [htarget] at h
          split at hmake
          · next hnone => simp [hnone] at h
          · simp at hmake

theorem isDirectory_of_ensureDirectory (h : fs.ensureDirectory p = .ok after) :
    after.isDirectory p = true := by
  unfold ensureDirectory at h
  split at h
  · next made hmake =>
      obtain rfl := Except.ok.inj h
      have hadds := AddsDirectories.makeDirectory hmake
      unfold makeDirectory at hmake
      split at hmake
      · simp at hmake
      · simp at hmake
      · next parent name slash htarget =>
          have htarget' := hadds.keepsDirectories.target htarget
          split at hmake
          · obtain rfl := Except.ok.inj hmake
            simp [isDirectory, open?, htarget', entryAt?_put]
          · simp at hmake
  · split at h
    · next hthere =>
        obtain rfl := Except.ok.inj h
        exact hthere
    · simp at h

/-- A path that leads nowhere cannot be made a directory. -/
theorem exists_target_of_ensureDirectory (h : fs.ensureDirectory p = .ok after) :
    ∃ target, fs.target p = .ok target := by
  cases htarget : fs.target p with
  | ok target => exact ⟨target, rfl⟩
  | error fault => simp [ensureDirectory, makeDirectory, htarget, isDirectory, open?] at h

theorem isDirectory_of_makeDirectoriesFrom {fuel : Nat}
    (h : fs.makeDirectoriesFrom fuel p = (.ok (), after)) :
    p.text = "" ∨ after.isDirectory p = true := by
  cases fuel with
  | zero => simp [makeDirectoriesFrom] at h
  | succ fuel =>
      unfold makeDirectoriesFrom at h
      split at h
      · next hempty => exact .inl hempty
      · split at h
        · next hensure =>
            obtain ⟨-, rfl⟩ := Prod.mk.inj h
            exact .inr (isDirectory_of_ensureDirectory hensure)
        · split at h
          · simp at h
          · split at h
            · simp at h
            · split at h
              · next hensure =>
                  obtain ⟨-, rfl⟩ := Prod.mk.inj h
                  exact .inr (isDirectory_of_ensureDirectory hensure)
              · simp at h
        · simp at h

theorem makeDirectoriesFrom_of_isDirectory (fuel : Nat)
    (h : p.text = "" ∨ fs.isDirectory p = true) :
    fs.makeDirectoriesFrom (fuel + 1) p = (.ok (), fs) := by
  unfold makeDirectoriesFrom
  split
  · rfl
  · next hne => rw [ensureDirectory_of_isDirectory (h.resolve_left hne)]

/-- Below what cannot be made a directory there is none. -/
theorem ensureDirectory_fails {fuel : Nat} {fault : IoFault} (hparent : p.parent? = some q)
    (h : fs.makeDirectoriesFrom (fuel + 1) q = (.error fault, fs)) :
    ∃ fault, fs.ensureDirectory p = .error fault := by
  cases hensure : fs.ensureDirectory p with
  | error fault => exact ⟨fault, rfl⟩
  | ok after =>
      obtain ⟨target, htarget⟩ := exists_target_of_ensureDirectory hensure
      have hthere : q.text = "" ∨ fs.isDirectory q = true := by
        by_cases hne : q.text = ""
        · exact .inl hne
        · exact .inr (isDirectory_of_parent? htarget hparent hne)
      rw [makeDirectoriesFrom_of_isDirectory fuel hthere] at h
      simp at h

theorem makeDirectoriesFrom_fails {fuel : Nat} {fault : IoFault} (hne : p.text ≠ "")
    (hensure : fs.ensureDirectory p = .error fault)
    (hparent : fault = .notFound → ∀ q, p.parent? = some q →
      ∃ result, fs.makeDirectoriesFrom fuel q = (result, fs)) :
    ∃ fault, fs.makeDirectoriesFrom (fuel + 1) p = (.error fault, fs) := by
  unfold makeDirectoriesFrom
  rw [if_neg hne]
  by_cases hmissing : fault = .notFound
  · subst hmissing
    rw [hensure]
    dsimp only
    cases hup : p.parent? with
    | none => exact ⟨_, rfl⟩
    | some q =>
        obtain ⟨result, hresult⟩ := hparent rfl q hup
        dsimp only
        rw [hresult]
        cases result with
        | error fault => exact ⟨fault, rfl⟩
        | ok _ => exact ⟨.notFound, by simp only [hensure]⟩
  · rw [hensure]
    exact ⟨fault, by cases fault <;> simp_all⟩

/-- Where directories cannot be made, trying again fails as well, and changes nothing: what was made
the first time does not help. -/
theorem makeDirectoriesFrom_again {fuel : Nat} {fault : IoFault}
    (h : fs.makeDirectoriesFrom fuel p = (.error fault, after)) :
    ∃ fault, after.makeDirectoriesFrom fuel p = (.error fault, after) := by
  induction fuel generalizing fs p fault after with
  | zero => exact ⟨.notFound, rfl⟩
  | succ fuel ih =>
      by_cases hsame : after = fs
      · rw [hsame] at h ⊢
        exact ⟨fault, h⟩
      · unfold makeDirectoriesFrom at h
        split at h
        · simp at h
        · next hne =>
            split at h
            · simp at h
            · split at h
              · exact absurd (Prod.mk.inj h).2.symm hsame
              · next q hup =>
                  cases fuel with
                  | zero => exact absurd (by simp_all [makeDirectoriesFrom]) hsame
                  | succ fuel =>
                      split at h
                      · next hrest =>
                          obtain ⟨-, rfl⟩ := Prod.mk.inj h
                          obtain ⟨other, hagain⟩ := ih hrest
                          obtain ⟨last, hlast⟩ := ensureDirectory_fails hup hagain
                          refine makeDirectoriesFrom_fails hne hlast fun _ found hfound => ?_
                          obtain rfl : q = found := Option.some.inj (hup.symm.trans hfound)
                          exact ⟨_, hagain⟩
                      · next hrest =>
                          split at h
                          · simp at h
                          · next hlast =>
                              obtain ⟨-, rfl⟩ := Prod.mk.inj h
                              refine makeDirectoriesFrom_fails hne hlast fun _ found hfound => ?_
                              obtain rfl : q = found := Option.some.inj (hup.symm.trans hfound)
                              exact ⟨_, makeDirectoriesFrom_of_isDirectory fuel
                                (isDirectory_of_makeDirectoriesFrom hrest)⟩
            · exact absurd (Prod.mk.inj h).2.symm hsame

end FileSystem

end TidyCsv
