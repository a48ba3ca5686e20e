import TidyCsv.Proofs.Csv.Beginnings
import TidyCsv.Proofs.Csv.Reading
import TidyCsv.Proofs.Header.Grammar
import TidyCsv.Proofs.Header.Numbering
import TidyCsv.Proofs.Run.FinalForm

/-! # Renaming columns that have been renamed

A name in snake case is its own normal form, and so it is with a number behind it. The names of a
header in normal form are therefore found as they are; as no two of them are alike, none needs
another number, and a document that is written anew a second time stays as it is. -/

namespace TidyCsv

namespace Header

open Unicode Text

variable {text more : List Char} {taken names : List String} {name result : String} {c : Char}
  {ws : List (List Char)}

/-! ## Names in snake case -/

theorem isSimpleChar_iff : IsSimpleChar c ↔ c.isLower = true ∨ c.isDigit = true := by
  have hlower : c.isLower = (decide ('a'.val ≤ c.val) && decide (c.val ≤ 'z'.val)) := rfl
  simp only [hlower, Char.isDigit, Bool.and_eq_true, decide_eq_true_eq]
  exact Iff.rfl

theorem IsSimpleChar.toNat_lt (h : IsSimpleChar c) : c.toNat < 0x80 := by
  rcases h with ⟨-, hlast⟩ | ⟨-, hlast⟩
  · exact Nat.lt_of_le_of_lt hlast (by decide)
  · exact Nat.lt_of_le_of_lt hlast (by decide)

theorem IsSimpleChar.foldChar_eq (h : IsSimpleChar c) : foldChar c = [c] := by
  apply foldChar_of_not_mem
  intro haccented
  exact absurd h.toNat_lt (Nat.not_lt.mpr (foldChar_of_mem haccented).1)

theorem areSettled_of_simple (hsome : ws ≠ []) (hne : ∀ w ∈ ws, w ≠ [])
    (hsimple : ∀ w ∈ ws, ∀ c ∈ w, IsSimpleChar c) : AreSettled ws := by
  have hsmall : ∀ w ∈ ws, ∀ c ∈ w,
      isAlphanumeric c = true ∧ toLowercase c = [c] ∧ isUppercase c = false := by
    intro w hw c hc
    have h := hsimple w hw c hc
    exact (asciiCase h.toNat_lt).small (isSimpleChar_iff.mp h)
  exact ⟨hsome, hne, fun w hw c hc => (hsmall w hw c hc).1,
    fun w hw c hc => (hsmall w hw c hc).2.1⟩

theorem not_breaks_of_simple {word : List Char} (h : ∀ c ∈ word, IsSimpleChar c) :
    ¬ Breaks word := by
  intro hbreaks
  obtain ⟨c, hc, hcapital⟩ := hbreaks.exists_capital
  have hsmall := (asciiCase (h c hc).toNat_lt).small (isSimpleChar_iff.mp (h c hc))
  exact Bool.false_ne_true (hsmall.2.2.symm.trans hcapital)

theorem IsSnakeCase.exists_words (h : IsSnakeCase text) :
    ∃ ws : List (List Char), ws ≠ [] ∧ (∀ w ∈ ws, w ≠ []) ∧ (∀ w ∈ ws, ∀ c ∈ w, IsSimpleChar c) ∧
      text = ['_'].intercalate ws := by
  induction h with
  | word hne hw => exact ⟨[_], by simp, by simpa using hne, by simpa using hw, by simp⟩
  | cons hne hw hrest ih =>
    obtain ⟨ws, hsome, hnonempty, hsimple, rfl⟩ := ih
    obtain ⟨v, ws, rfl⟩ := List.exists_cons_of_ne_nil hsome
    refine ⟨_ :: v :: ws, by simp, List.forall_mem_cons.mpr ⟨hne, hnonempty⟩,
      List.forall_mem_cons.mpr ⟨hw, hsimple⟩, ?_⟩
    rw [List.intercalate_cons_cons, List.append_assoc, List.singleton_append]

theorem IsSnakeCase.normalizeName_eq (h : IsSnakeCase name.toList) : normalizeName name = name := by
  obtain ⟨ws, hsome, hne, hsimple, htext⟩ := h.exists_words
  have hname : name = joined ws := by rw [joined, ← htext, String.ofList_toList]
  have hsettled := areSettled_of_simple hsome hne hsimple
  rw [hname, hsettled.normalizeName_joined_eq_iff]
  intro w hw
  exact ⟨fun c hc => (hsimple w hw c hc).foldChar_eq, not_breaks_of_simple (hsimple w hw)⟩

theorem IsSnakeCase.append (h : IsSnakeCase text) (hmore : IsSnakeCase more) :
    IsSnakeCase (text ++ '_' :: more) := by
  induction h with
  | word hne hw => exact .cons hne hw hmore
  | cons hne hw hrest ih =>
    rw [List.append_assoc, List.cons_append]
    exact .cons hne hw ih

/-- A number behind a name is one more word of it. -/
theorem IsSnakeCase.numbered (h : IsSnakeCase name.toList) (k : Nat) :
    IsSnakeCase (numbered name k).toList := by
  have hdigits : (toString k).toList = Nat.toDigits 10 k := Nat.toList_repr
  have hword : IsSnakeCase (toString k).toList := by
    rw [hdigits]
    refine .word Nat.toDigits_ne_nil fun c hc => isSimpleChar_iff.mpr (.inr ?_)
    exact Nat.isDigit_of_mem_toDigits (by decide) (by decide) hc
  have hlist : (Header.numbered name k).toList = name.toList ++ '_' :: (toString k).toList := by
    simp [Header.numbered]
  rw [hlist]
  exact h.append hword

theorem Chosen.isSnakeCase (h : Chosen taken name result) (hname : IsSnakeCase name.toList) :
    IsSnakeCase result.toList := by
  cases h with
  | plain hfree => exact hname
  | withNumber k htaken hk hfree hleast => exact hname.numbered k

/-! ## Headers in normal form -/

theorem isSnakeCase_distinctFrom (hnames : ∀ name ∈ names, IsSnakeCase name.toList)
    (htaken : ∀ name ∈ taken, IsSnakeCase name.toList) :
    ∀ result ∈ distinctFrom taken names, IsSnakeCase result.toList := by
  induction names generalizing taken with
  | nil => simpa [distinctFrom] using htaken
  | cons name rest ih =>
    obtain ⟨hname, hrest⟩ := List.forall_mem_cons.mp hnames
    have hfirst := (chosen_firstFree taken name).isSnakeCase hname
    exact ih hrest (List.forall_mem_cons.mpr ⟨hfirst, htaken⟩)

/-- Names of which no two are alike are left as they are. -/
theorem distinctFrom_of_nodup (h : (taken.reverse ++ names).Nodup) :
    distinctFrom taken names = taken.reverse ++ names := by
  induction names generalizing taken with
  | nil => simp [distinctFrom]
  | cons name rest ih =>
    have hfree : name ∉ taken := by
      intro hmem
      exact List.disjoint_of_nodup_append h (List.mem_reverse.mpr hmem) List.mem_cons_self
    have hsame : firstFree taken name = name := by simp [firstFree, hfree]
    have hlist : (name :: taken).reverse ++ rest = taken.reverse ++ name :: rest := by simp
    rw [distinctFrom, hsame, ih (hlist ▸ h), hlist]

theorem isSnakeCase_normalizeAll (h : ∀ name ∈ names, FoldsToAscii name) :
    ∀ result ∈ normalizeAll names, IsSnakeCase result.toList := by
  apply isSnakeCase_distinctFrom
  · intro result hresult
    obtain ⟨name, hname, rfl⟩ := List.mem_map.mp hresult
    exact (h name hname).isSnakeCase_normalizeName
  · simp

theorem normalizeAll_normalizeAll (h : ∀ name ∈ names, FoldsToAscii name) :
    normalizeAll (normalizeAll names) = normalizeAll names := by
  have hfixed : (normalizeAll names).map normalizeName = normalizeAll names :=
    (List.map_congr_left fun name hname =>
      (isSnakeCase_normalizeAll h name hname).normalizeName_eq).trans (List.map_id _)
  have hnodup : (normalizeAll names).Nodup := nodup_distinctFrom _ List.nodup_nil
  calc normalizeAll (normalizeAll names)
    _ = distinctFrom [] (normalizeAll names) := by rw [normalizeAll, hfixed]
    _ = normalizeAll names := distinctFrom_of_nodup hnodup

end Header

namespace Csv

/-! ## What is written first is read first -/

variable {delimiter : UInt8} {header : List Bytes}

/-- A header whose first field does not open with the mark is read as it was written, whatever
comes behind it. -/
theorem exists_fileRecords_encodeRecord_append (hd : Separates delimiter)
    (hascii : delimiter < 0x80) (hheader : header ≠ [])
    (hmark : ∀ field ∈ header.head?, ¬ Bytes.utf8Mark <+: field) (more : Bytes) :
    ∃ first rest, fileRecords ⟨delimiter, true⟩ (encodeRecord delimiter header ++ more) =
      first :: rest ∧ first.fields = header := by
  have hunmarked : ¬ Bytes.utf8Mark <+: encodeRecord delimiter header ++ more := by
    intro hprefix
    obtain ⟨first, others, rfl⟩ := List.exists_cons_of_ne_nil hheader
    obtain ⟨b, tail, hb, hrecord⟩ := encodeRecord_eq_encodeField_append hascii first others
    rw [hrecord, List.append_assoc, List.cons_append] at hprefix
    have hfield := isPrefix_of_isPrefix_append_cons utf8Mark_not_ascii hb hprefix
    exact hmark first rfl (utf8Mark_isPrefix_encodeField hfield)
  have hshows := (Scan.Shows.initial ⟨0, 1⟩).encodeRecord hd hheader
  obtain ⟨first, hone⟩ := List.map_eq_singleton_iff.mp hshows.records_eq
  obtain ⟨later, hlater⟩ := Scan.records_prefix_finish
    ((encodeRecord delimiter header).foldl (Scan.step ⟨delimiter, true⟩) (Scan.initial ⟨0, 1⟩))
    ⟨delimiter, true⟩ more
  refine ⟨first, later, ?_, hone.2⟩
  rw [fileRecords_of_not_utf8Mark hunmarked, recordsFrom, List.foldl_append, ← hlater, hone.1]
  rfl

end Csv

namespace FinalForm

open Pass Header

variable {content written : Bytes} {delimiter : UInt8} {normalize : Bool} {stats : Stats}
  {header : Csv.Record} {rows : List Csv.Record} {names : List String}

/-! ## Documents that are written anew twice -/

theorem countRenamed_self (names : List String) : countRenamed names names = 0 := by
  simp [countRenamed, List.zip_eq_zipWith, List.zipWith_self]

/-- What a writer makes of the final names of a header and of the rows below it. -/
def rewriting (delimiter : UInt8) (normalize : Bool) (header : Csv.Record)
    (rows : List Csv.Record) : Option Csv.UnequalWidth × Csv.Writer :=
  (Csv.Writer.new delimiter).putAll
    (headerRecord (finalNames normalize (namesOf header)) :: rows.map Csv.Record.fields)

theorem write_cons (hrecords : Csv.fileRecords .standard content = header :: rows) :
    write content delimiter normalize =
      (match (rewriting delimiter normalize header rows).1 with
        | some fault => .error fault
        | none => .ok ⟨rows.length, (namesOf header).length,
            countRenamed (namesOf header) (finalNames normalize (namesOf header))⟩,
        (rewriting delimiter normalize header rows).2.written) := by
  rcases hwritten : rewriting delimiter normalize header rows with ⟨_ | fault, writer⟩
  all_goals
    simp only [rewriting, headerRecord, finalNames] at hwritten
    simp only [write, hrecords, hwritten, finalNames]

theorem unmarked_normalizeAll (h : ∀ name ∈ names, FoldsToAscii name) :
    Unmarked (normalizeAll names) := by
  have hnot : ¬ ('\uFEFF'.toNat < 0x80 ∨ '\uFEFF' ∈ accented) := by decide
  have hnames : Unmarked names := fun name hname hmark =>
    hnot (h name (List.mem_of_mem_head? hname) _ (List.mem_of_mem_head? hmark))
  have hfinal : Unmarked (finalNames true names) := unmarked_finalNames hnames
  exact hfinal

theorem normalizeAll_namesOf_ne_nil
    (hrecords : Csv.fileRecords .standard content = header :: rows) :
    normalizeAll (namesOf header) ≠ [] := by
  have hheader : header.fields ≠ [] :=
    Csv.fields_ne_nil_of_mem_records (hrecords ▸ List.mem_cons_self)
  simpa [namesOf, ← List.length_eq_zero_iff] using hheader

/-- Whatever comes of writing a document anew, its header is read back in normal form. -/
theorem exists_header_again (hrecords : Csv.fileRecords .standard content = header :: rows)
    (h : ∀ name ∈ namesOf header, FoldsToAscii name) :
    ∃ again later, Csv.fileRecords .standard (write content Bytes.comma true).2 = again :: later ∧
      again.fields = headerRecord (normalizeAll (namesOf header)) := by
  have hnames : headerRecord (normalizeAll (namesOf header)) ≠ [] := by
    simpa [headerRecord] using normalizeAll_namesOf_ne_nil hrecords
  have hmark : ∀ field ∈ (headerRecord (normalizeAll (namesOf header))).head?,
      ¬ Bytes.utf8Mark <+: field := by
    intro field hfield hprefix
    obtain ⟨name, hname, rfl⟩ : ∃ name ∈ (normalizeAll (namesOf header)).head?,
        Utf8.ofString name = field := by simpa [headerRecord] using hfield
    exact unmarked_normalizeAll h name hname (Utf8.head?_of_utf8Mark_isPrefix hprefix)
  have hfirst : Csv.encodeRecord Bytes.comma (headerRecord (normalizeAll (namesOf header))) <+:
      (write content Bytes.comma true).2 := by
    have hclosed := Csv.Writer.written_prefix_putAll
      ((Csv.Writer.new Bytes.comma).close (headerRecord (normalizeAll (namesOf header))))
      (rows.map Csv.Record.fields)
    rw [Csv.Writer.written_close, Csv.Writer.written_new, List.nil_append] at hclosed
    rw [write_cons hrecords]
    exact hclosed
  obtain ⟨more, hmore⟩ := hfirst
  rw [← hmore]
  exact Csv.exists_fileRecords_encodeRecord_append Csv.separates_comma (by decide) hnames hmark more

/-- Writing a document anew a second time changes nothing more. -/
theorem write_again (hrecords : Csv.fileRecords .standard content = header :: rows)
    (h : ∀ name ∈ namesOf header, FoldsToAscii name)
    (hwrite : write content Bytes.comma true = (.ok stats, written)) :
    write written Bytes.comma true = (.ok { stats with renamed := 0 }, written) := by
  have hnames := normalizeAll_namesOf_ne_nil hrecords
  rw [write_cons hrecords] at hwrite
  cases hfault : (rewriting Bytes.comma true header rows).1 with
  | some fault => simp [hfault] at hwrite
  | none =>
    obtain ⟨rfl, rfl⟩ : stats = ⟨rows.length, (namesOf header).length,
          countRenamed (namesOf header) (normalizeAll (namesOf header))⟩ ∧
        written = (rewriting Bytes.comma true header rows).2.written := by
      simpa [hfault, finalNames, eq_comm] using hwrite
    -- the writer had no fault, so the rows are as wide as the header
    have hrows : ∀ fields ∈ rows.map Csv.Record.fields,
        fields.length = (normalizeAll (namesOf header)).length := by
      have hclosed : ((Csv.Writer.new Bytes.comma).close
          (headerRecord (normalizeAll (namesOf header)))).width =
            some (normalizeAll (namesOf header)).length := by
        simp [Csv.Writer.close, headerRecord]
      exact Csv.Writer.length_of_putAll hclosed hfault
    have hwritten : (rewriting Bytes.comma true header rows).2.written =
        Csv.encodeRecords Bytes.comma
          (headerRecord (normalizeAll (namesOf header)) :: rows.map Csv.Record.fields) := by
      obtain ⟨last, hput, hlast⟩ := (Csv.Writer.holds_new Bytes.comma).putAll
        (List.forall_mem_cons.mpr ⟨List.length_map _, hrows⟩)
      have hlast' : (rewriting Bytes.comma true header rows).2 = last := congrArg Prod.snd hput
      rw [hlast', hlast.written_eq]
      rfl
    rw [hwritten, write_of_unmarked hnames (unmarked_normalizeAll h) hrows true Bytes.comma]
    simp [finalNames, normalizeAll_normalizeAll h, countRenamed_self]

/-- The names of a header in normal form are their own normal form, where accents and ligatures are
all that is beyond ASCII. So no column is renamed when a document with such a header is written anew
a second time, whether or not all of it was written the first time; if it was, the second time
leaves it as it is. -/
theorem renaming_settled :
    (∀ names : List String, (∀ name ∈ names, FoldsToAscii name) →
      normalizeAll (normalizeAll names) = normalizeAll names) ∧
    ∀ content : Bytes,
      (∀ header ∈ (Csv.fileRecords .standard content).head?,
        ∀ name ∈ namesOf header, FoldsToAscii name) →
      (∀ stats, (write (write content Bytes.comma true).2 Bytes.comma true).1 = .ok stats →
        stats.renamed = 0) ∧
      ∀ stats written, write content Bytes.comma true = (.ok stats, written) →
        write written Bytes.comma true = (.ok { stats with renamed := 0 }, written) := by
  refine ⟨fun names => normalizeAll_normalizeAll, fun content hcontent => ?_⟩
  cases hrecords : Csv.fileRecords .standard content with
  | nil =>
    have hnothing : write content Bytes.comma true = (.ok ⟨0, 0, 0⟩, []) := by
      simp only [write, hrecords]
    have hempty : write [] Bytes.comma true = (.ok ⟨0, 0, 0⟩, []) := rfl
    rw [hnothing]
    refine ⟨fun stats hstats => ?_, fun stats written hwrite => ?_⟩
    · obtain rfl : ⟨0, 0, 0⟩ = stats := by simpa [hempty] using hstats
      rfl
    · obtain ⟨rfl, rfl⟩ : ⟨0, 0, 0⟩ = stats ∧ [] = written := by simpa using hwrite
      exact hempty
  | cons header rows =>
    have hnames := hcontent header (by simp [hrecords])
    refine ⟨fun stats hstats => ?_, fun stats written => write_again hrecords hnames⟩
    obtain ⟨again, later, hagain, hfields⟩ := exists_header_again hrecords hnames
    rw [write_cons hagain] at hstats
    split at hstats
    · simp at hstats
    · obtain rfl := Except.ok.inj hstats
      rw [namesOf_headerRecord hfields, finalNames, if_pos rfl, normalizeAll_normalizeAll hnames,
        countRenamed_self]

/-- Two columns with the same name but for an accent, of which the second one gets a number. -/
theorem renaming_settled_numbered :
    let content := Utf8.ofString "Größe,GROSSE\n1,2\n"
    let written := Utf8.ofString "grosse,grosse_2\n1,2\n"
    (∀ name ∈ ["Größe", "GROSSE"], FoldsToAscii name) ∧
      normalizeAll ["Größe", "GROSSE"] = ["grosse", "grosse_2"] ∧
      normalizeAll ["grosse", "grosse_2"] = ["grosse", "grosse_2"] ∧
      (∀ header ∈ (Csv.fileRecords .standard content).head?,
        ∀ name ∈ namesOf header, FoldsToAscii name) ∧
      write content Bytes.comma true = (.ok ⟨1, 2, 2⟩, written) ∧
      write written Bytes.comma true = (.ok ⟨1, 2, 0⟩, written) := by
  intro content written
  have hfold : ∀ name ∈ ["Größe", "GROSSE"], FoldsToAscii name := by decide
  have hnames : normalizeAll ["Größe", "GROSSE"] = ["grosse", "grosse_2"] ∧
      (∀ header ∈ (Csv.fileRecords .standard content).head?,
        ∀ name ∈ namesOf header, FoldsToAscii name) ∧
      write content Bytes.comma true = (.ok ⟨1, 2, 2⟩, written) := by
    decide +kernel
  obtain ⟨hall, hheader, hwrite⟩ := hnames
  have hagain := renaming_settled.1 _ hfold
  rw [hall] at hagain
  exact ⟨hfold, hall, hagain, hheader, hwrite,
    (renaming_settled.2 content hheader).2 ⟨1, 2, 2⟩ written hwrite⟩

end FinalForm

end TidyCsv
