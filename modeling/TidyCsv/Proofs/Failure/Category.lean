import Mathlib.Data.List.Infix
import TidyCsv.Engine.BuiltIn
import TidyCsv.Failure.Category

/-!
# What a category is read off

A failure message carries the text of a URL or a path. A status code counts only where it is
announced, but the words that tell a category of their own are looked for in the whole message, the
carried text included. The main result says for the two messages that carry such a text what their
category is: the one of the status, or the general one, exactly if the carried text has none of
these words in it.
-/

namespace TidyCsv

/-! ## Parts of texts -/

namespace Text

variable {word front rest : List Char} {c : Char}

theorem occursIn_iff (word text : List Char) : occursIn word text = true ↔ word <:+: text := by
  induction text with
  | nil => simp [occursIn]
  | cons c rest ih => simp [occursIn, ih, List.infix_cons_iff]

/-- What does not contain a character lies on one side of it. -/
theorem infix_append_cons_iff (h : c ∉ word) :
    word <:+: front ++ c :: rest ↔ word <:+: front ∨ word <:+: rest := by
  constructor
  · intro hword
    rcases List.infix_append_iff.mp hword with hfront | hrest | ⟨left, right, rfl, hleft, hright⟩
    · exact .inl hfront
    · rcases List.infix_cons_iff.mp hrest with hstart | hrest
      · cases word with
        | nil => exact .inr (List.nil_infix)
        | cons d word => simp_all
      · exact .inr hrest
    · cases right with
      | nil => simpa using Or.inl hleft.isInfix
      | cons d right => simp_all
  · rintro (hfront | hrest)
    · exact hfront.trans (List.infix_append' [] front (c :: rest))
    · exact hrest.trans ⟨front ++ [c], [], by simp⟩

/-- What does not start with a character is not in front of it. -/
theorem infix_cons_iff_of_head (h : word.head? ≠ some c) (hword : word ≠ []) :
    word <:+: c :: rest ↔ word <:+: rest := by
  rw [List.infix_cons_iff, or_iff_right]
  intro hstart
  cases word with
  | nil => exact hword rfl
  | cons d word => simp_all

@[simp] theorem asciiLower_append (front rest : List Char) :
    asciiLower (front ++ rest) = asciiLower front ++ asciiLower rest := List.map_append

@[simp] theorem asciiLower_cons (c : Char) (rest : List Char) :
    asciiLower (c :: rest) = c.toLower :: asciiLower rest := rfl

end Text

namespace Category

open Unicode

/-! ## Words that tell a category -/

/-- The words that tell a category wherever they occur, in the order they are looked for. -/
def tellingWords : Bool → List (String × Category)
  | false => [("zipfs", zipMissing)]
  | true =>
    [("zipfs", zipMissing), ("http timeout", httpTimeout), ("timed out", httpTimeout),
      ("etag", httpChanged)]

/-- Whether a word occurs in a text, in letters of either case. -/
def Mentions (text : List Char) (word : String) : Prop :=
  word.toList <:+: Text.asciiLower text

instance (text : List Char) (word : String) : Decidable (Mentions text word) :=
  inferInstanceAs (Decidable (_ <:+: _))

/-- The category that the first of the words in a text tells. -/
def told? (isRemote : Bool) (text : List Char) : Option Category :=
  ((tellingWords isRemote).find? fun word => Mentions text word.1).map (·.2)

variable {isRemote : Bool} {front rest text : List Char} {c : Char} {code : Nat}

theorem told?_eq_none_iff :
    told? isRemote text = none ↔ ∀ word ∈ tellingWords isRemote, ¬ Mentions text word.1 := by
  simp [told?]

theorem told?_congr {other : List Char}
    (h : ∀ word ∈ tellingWords isRemote, Mentions text word.1 ↔ Mentions other word.1) :
    told? isRemote text = told? isRemote other := by
  simp only [told?]
  generalize tellingWords isRemote = words at h ⊢
  induction words with
  | nil => rfl
  | cons word words ih =>
    have hfirst : decide (Mentions text word.1) = decide (Mentions other word.1) :=
      decide_eq_decide.mpr (h word List.mem_cons_self)
    have hrest := ih fun word hword => h word (List.mem_cons_of_mem _ hword)
    simp only [List.find?_cons, hfirst]
    split
    · rfl
    · exact hrest

/-- A character that is in none of the words, so that none of them extends over it. -/
def Parts (c : Char) : Prop := ∀ word ∈ tellingWords true, c.toLower ∉ word.1.toList

instance (c : Char) : Decidable (Parts c) :=
  inferInstanceAs (Decidable (∀ word ∈ tellingWords true, _))

theorem tellingWords_subset : tellingWords isRemote ⊆ tellingWords true := by
  cases isRemote <;> decide

/-- What stands in front of such a character has no part in what is told, if it tells nothing. -/
theorem told?_append_cons (hparts : Parts c) (hfront : told? true front = none) :
    told? isRemote (front ++ c :: rest) = told? isRemote rest := by
  apply told?_congr
  intro word hword
  have hword := tellingWords_subset hword
  have hnot := told?_eq_none_iff.mp hfront word hword
  simp only [Mentions, Text.asciiLower_append, Text.asciiLower_cons,
    Text.infix_append_cons_iff (hparts word hword)] at hnot ⊢
  exact or_iff_right hnot

theorem told?_nil : told? true [] = none := by
  simp [told?_eq_none_iff, tellingWords, Mentions, Text.asciiLower]

theorem told?_cons (hparts : Parts c) : told? isRemote (c :: rest) = told? isRemote rest :=
  told?_append_cons hparts told?_nil

theorem told?_append_of_parts (hparts : Parts c) (hrest : told? true rest = none) :
    told? isRemote (front ++ c :: rest) = told? isRemote front := by
  apply told?_congr
  intro word hword
  have hword := tellingWords_subset hword
  have hnot := told?_eq_none_iff.mp hrest word hword
  simp only [Mentions, Text.asciiLower_append, Text.asciiLower_cons,
    Text.infix_append_cons_iff (hparts word hword)] at hnot ⊢
  exact or_iff_left hnot

theorem told?_space : told? isRemote (' ' :: text) = told? isRemote text := by
  apply told?_congr
  intro word hword
  have hhead : ∀ word ∈ tellingWords true,
      word.1.toList.head? ≠ some ' ' ∧ word.1.toList ≠ [] := by simp [tellingWords]
  obtain ⟨hhead, hempty⟩ := hhead word (tellingWords_subset hword)
  exact Text.infix_cons_iff_of_head hhead hempty

/-! ## The two ways to a category -/

/-- The category of a remote failure whose message has none of the words. -/
def announced (message : String) : Category :=
  match status? message with
  | some code => ofStatus code
  | none =>
    if Text.occursIn "range not satisfiable".toList (Text.asciiLower message.toList) then httpRange
    else generic

theorem ofMessage_eq (message : String) :
    ofMessage message isRemote =
      (told? isRemote message.toList).getD (if isRemote then announced message else generic) := by
  have hdecide : ∀ word, decide (Mentions message.toList word) =
      Text.occursIn word.toList (Text.asciiLower message.toList) := by
    simp [Mentions, ← Text.occursIn_iff]
  cases isRemote with
  | false =>
    simp only [ofMessage, told?, tellingWords, hdecide, List.find?_cons]
    generalize Text.occursIn "zipfs".toList _ = zipfs
    cases zipfs <;> rfl
  | true =>
    simp only [ofMessage, told?, tellingWords, hdecide, List.find?_cons]
    generalize Text.occursIn "zipfs".toList _ = zipfs,
      Text.occursIn "http timeout".toList _ = timeout,
      Text.occursIn "timed out".toList _ = timedOut, Text.occursIn "etag".toList _ = etag
    cases zipfs <;> cases timeout <;> cases timedOut <;> cases etag <;> rfl

/-! ## The status at the front of a message -/

/-- The characters that stand around what a message carries. -/
def separators : List Char :=
  ['0', '1', '2', '3', '4', '5', '6', '7', '8', '9', ':', '"']

theorem parts_of_mem (h : c ∈ separators) : Parts c := by
  have hall : separators.all (fun c => decide (Parts c)) = true := by decide
  exact of_decide_eq_true (List.all_eq_true.mp hall c h)

theorem bounds_of_isDigit (h : c.isDigit) : 48 ≤ c.toNat ∧ c.toNat ≤ 57 := by
  simpa [Char.isDigit, UInt32.le_iff_toNat_le] using h

theorem parts_of_isDigit (h : c.isDigit) : Parts c := by
  obtain ⟨hlow, hhigh⟩ := bounds_of_isDigit h
  have hdigits : ∀ n < 10, Char.ofNat (48 + n) ∈ separators := by decide
  have hmem := hdigits (c.toNat - 48) (by omega)
  rw [Nat.add_sub_cancel' hlow, Char.ofNat_toNat] at hmem
  exact parts_of_mem hmem

/-- A digit is no blank, so no more blanks are dropped in front of it. -/
theorem isBlank_of_isDigit (h : c.isDigit) : isBlank c = false := by
  obtain ⟨hlow, hhigh⟩ := bounds_of_isDigit h
  simp only [isBlank, inRanges, blankRanges]
  grind

theorem isDecimalDigit_of_isDigit (h : c.isDigit) : isDecimalDigit c = true := by
  obtain ⟨-, hhigh⟩ := bounds_of_isDigit h
  rw [isDecimalDigit, if_pos (by omega), h]

theorem exists_digits (hlow : 100 ≤ code) (hhigh : code < 1000) :
    ∃ a b c : Char, (toString code).toList = [a, b, c] ∧ a.isDigit ∧ b.isDigit ∧ c.isDigit ∧
      codeOf? [a, b, c] = some code := by
  have hdigits : (toString code).toList = Nat.toDigits 10 code := Nat.toList_repr
  have hmost : (Nat.toDigits 10 code).length ≤ 3 :=
    (Nat.length_toDigits_le_iff (by decide) (by decide)).mpr hhigh
  have hleast : ¬ (Nat.toDigits 10 code).length ≤ 2 := fun h =>
    absurd ((Nat.length_toDigits_le_iff (by decide) (by decide)).mp h) (Nat.not_lt.mpr hlow)
  obtain ⟨a, b, c, habc⟩ := List.length_eq_three.mp (by omega : (Nat.toDigits 10 code).length = 3)
  have hdigit : ∀ d ∈ [a, b, c], d.isDigit := fun d hd =>
    Nat.isDigit_of_mem_toDigits (by decide) (by decide) (habc ▸ hd)
  have hvalue : Nat.ofDigitChars 10 [a, b, c] 0 = code := by
    rw [← habc, Nat.ofDigitChars_toDigits (by decide) (by decide)]
  refine ⟨a, b, c, hdigits.trans habc, hdigit a (by simp), hdigit b (by simp), hdigit c (by simp),
    ?_⟩
  rw [codeOf?, if_pos (by simpa using hdigit)]
  simpa only [Nat.ofDigitChars, Nat.mul_comm 10] using congrArg some hvalue

theorem findAnnounced?_of_announced? {digits : List Char}
    (h : announced? (c :: rest) = some digits) :
    findAnnounced? false (c :: rest) = some digits := by
  simp only [findAnnounced?, Bool.false_eq_true, if_false, h]

/-- What is announced at the front of a text counts, whatever follows it. -/
theorem findAnnounced?_front {a b c : Char} (ha : a.isDigit) (hb : b.isDigit) (hc : c.isDigit) :
    findAnnounced? false ("HTTP Error ".toList ++ a :: b :: c :: ' ' :: rest) = some [a, b, c] := by
  have hafter : afterStatusWords? ("HTTP Error ".toList ++ a :: b :: c :: ' ' :: rest) =
      some (' ' :: a :: b :: c :: ' ' :: rest) := rfl
  have hblank : isBlank ' ' = true := by decide
  have hthree : threeDigits? (a :: b :: c :: ' ' :: rest) = some [a, b, c] := by
    have hspace : isWordChar ' ' = false := by decide
    simp [threeDigits?, isDecimalDigit_of_isDigit, ha, hb, hc, hspace]
  have hannounced : announced? ("HTTP Error ".toList ++ a :: b :: c :: ' ' :: rest) =
      some [a, b, c] := by
    rw [announced?, hafter, Option.bind_some]
    simp [hblank, isBlank_of_isDigit ha, hthree]
  have hopening : "HTTP Error ".toList = 'H' :: "TTP Error ".toList := rfl
  rw [hopening] at hannounced ⊢
  exact findAnnounced?_of_announced? hannounced

/-! ## The two messages that carry a text -/

theorem message_status (code : Nat) (url : String) :
    (FetchFault.status code url).message =
      "HTTP Error " ++ toString code ++ " " ++ statusPhrase code ++ ": " ++ url := rfl

theorem message_noSuchFile (path : Path) :
    (EngineFault.noSuchFile path).message =
      "IO Error: No files found that match the pattern \"" ++ path.text ++ "\"" := rfl

/-- The texts that messages have of their own. -/
def ownTexts : List String :=
  "HTTP Error " :: "IO Error: No files found that match the pattern " :: "Unknown" ::
    statusPhrases.map (·.2)

theorem told?_ownTexts : ∀ text ∈ ownTexts, told? true text.toList = none := by decide +kernel

theorem statusPhrase_mem_ownTexts (code : Nat) : statusPhrase code ∈ ownTexts := by
  refine List.mem_cons_of_mem _ (List.mem_cons_of_mem _ ?_)
  rw [statusPhrase]
  cases hlookup : statusPhrases.lookup code with
  | none => exact List.mem_cons_self
  | some phrase =>
    obtain ⟨before, after, hsplit, -⟩ := List.lookup_eq_some_iff.mp hlookup
    exact List.mem_cons_of_mem _ (List.mem_map.mpr ⟨(code, phrase), by simp [hsplit], rfl⟩)

/-- The message of a status, cut where none of the words can lie. -/
theorem exists_message_status (url : String) (hlow : 100 ≤ code) (hhigh : code < 1000) :
    ∃ a b c : Char, a.isDigit ∧ b.isDigit ∧ c.isDigit ∧ codeOf? [a, b, c] = some code ∧
      (FetchFault.status code url).message.toList =
        "HTTP Error ".toList ++ a :: b :: c ::
          ' ' :: ((statusPhrase code).toList ++ ':' :: ' ' :: url.toList) := by
  obtain ⟨a, b, c, hdigits, ha, hb, hc, hcode⟩ := exists_digits hlow hhigh
  have hspace : " ".toList = [' '] := by decide
  have hcolon : ": ".toList = [':', ' '] := by decide
  refine ⟨a, b, c, ha, hb, hc, hcode, ?_⟩
  simp only [message_status, String.toList_append, hdigits, hspace, hcolon, List.append_assoc,
    List.cons_append, List.nil_append]

/-- What a status says of itself tells nothing, so its message tells what the URL tells. -/
theorem told?_status {url : String} (hlow : 100 ≤ code) (hhigh : code < 1000) :
    told? true (FetchFault.status code url).message.toList = told? true url.toList := by
  obtain ⟨a, b, c, ha, hb, hc, -, hmessage⟩ := exists_message_status url hlow hhigh
  have hopening := told?_ownTexts "HTTP Error " (by simp [ownTexts])
  have hphrase := told?_ownTexts _ (statusPhrase_mem_ownTexts code)
  have hcolon : Parts ':' := parts_of_mem (by simp [separators])
  calc told? true (FetchFault.status code url).message.toList
    _ = told? true (b :: c :: ' ' :: ((statusPhrase code).toList ++ ':' :: ' ' :: url.toList)) := by
      rw [hmessage, told?_append_cons (parts_of_isDigit ha) hopening]
    _ = told? true (c :: ' ' :: ((statusPhrase code).toList ++ ':' :: ' ' :: url.toList)) :=
      told?_cons (parts_of_isDigit hb)
    _ = told? true (' ' :: ((statusPhrase code).toList ++ ':' :: ' ' :: url.toList)) :=
      told?_cons (parts_of_isDigit hc)
    _ = told? true url.toList := by
      rw [told?_space, told?_append_cons hcolon hphrase, told?_space]

theorem status?_status {url : String} (hlow : 100 ≤ code) (hhigh : code < 1000) :
    status? (FetchFault.status code url).message = some code := by
  obtain ⟨a, b, c, ha, hb, hc, hcode, hmessage⟩ := exists_message_status url hlow hhigh
  rw [status?, hmessage, findAnnounced?_front ha hb hc, Option.bind_some, hcode]

/-- The category of a status, unless the URL tells another. -/
theorem ofMessage_status {url : String} (hlow : 100 ≤ code) (hhigh : code < 1000) :
    ofMessage (FetchFault.status code url).message true =
      (told? true url.toList).getD (ofStatus code) := by
  rw [ofMessage_eq, told?_status hlow hhigh, if_pos rfl, announced, status?_status hlow hhigh]

theorem ofMessage_noSuchFile (path : Path) :
    ofMessage (EngineFault.noSuchFile path).message false =
      (told? false path.text.toList).getD generic := by
  have hopening := told?_ownTexts "IO Error: No files found that match the pattern "
    (by simp [ownTexts])
  have hquote : Parts '"' := parts_of_mem (by simp [separators])
  have hmessage : (EngineFault.noSuchFile path).message.toList =
      "IO Error: No files found that match the pattern ".toList ++ '"' ::
        (path.text.toList ++ '"' :: []) := by
    have hstart : "IO Error: No files found that match the pattern \"".toList =
        "IO Error: No files found that match the pattern ".toList ++ ['"'] := by decide
    have hend : "\"".toList = ['"'] := by decide
    simp only [message_noSuchFile, String.toList_append, hstart, hend, List.append_assoc,
      List.cons_append, List.nil_append]
  rw [ofMessage_eq, hmessage, told?_append_cons hquote hopening,
    told?_append_of_parts hquote told?_nil]
  rfl

theorem told?_getD_eq_ofStatus_iff :
    (told? true text).getD (ofStatus code) = ofStatus code ↔
      ∀ word ∈ tellingWords true, ¬ Mentions text word.1 := by
  rw [← told?_eq_none_iff]
  constructor
  · intro heq
    cases htold : told? true text with
    | none => rfl
    | some category =>
      obtain ⟨word, hword, rfl⟩ := Option.map_eq_some_iff.mp htold
      have hother : ∀ word ∈ tellingWords true,
          word.2 ≠ httpNotFound ∧ word.2 ≠ httpAuth ∧ word.2 ≠ httpRange ∧ word.2 ≠ generic := by
        decide
      have hother := hother word (List.mem_of_find?_eq_some hword)
      rw [htold, Option.getD_some, ofStatus] at heq
      grind
  · intro hnone
    rw [hnone, Option.getD_none]

theorem told?_getD_eq_generic_iff :
    (told? false text).getD generic = generic ↔ ¬ Mentions text "zipfs" := by
  by_cases hzip : Mentions text "zipfs" <;> simp [told?, tellingWords, hzip]

/-! ## What the engine reports -/

variable {network : Network} {fs : FileSystem} {options : ReadOptions} {output reject : Path}

theorem validate_of_status {url : String} {body : Body}
    (hanswer : network url = .answered code body) (hcode : code < 200 ∨ 300 ≤ code) :
    (Engine.builtIn network).validate fs (.remote url) options output reject =
      (.error (FetchFault.status code url).message, fs) := by
  have hfetch : network.fetch url = .error (.status code url) := by
    simp only [Network.fetch, hanswer, if_pos hcode]
  simp only [Engine.builtIn, BuiltIn.validate, BuiltIn.load, BuiltIn.loadRemote, hfetch, Except.map]
  rfl

theorem validate_of_missing {path : Path} (hmissing : fs.isFile path = false) :
    (Engine.builtIn network).validate fs (.file path) options output reject =
      (.error (EngineFault.noSuchFile path).message, fs) := by
  simp only [Engine.builtIn, BuiltIn.validate, BuiltIn.load, hmissing, Bool.false_eq_true, if_false]
  rfl

/-- A status other than success and a missing file are reported in messages that carry the URL and
the path. The category is the one of the status, and the general one, exactly if none of the words
that tell a category is in the URL, and in the path; else it is the one that they tell first. -/
theorem ofMessage_carried (network : Network) (fs : FileSystem) (options : ReadOptions)
    (output reject : Path) :
    (∀ url code body, network url = .answered code body → (code < 200 ∨ 300 ≤ code) →
      100 ≤ code → code < 1000 →
      ∃ message, (Engine.builtIn network).validate fs (.remote url) options output reject =
          (.error message, fs) ∧
        message = "HTTP Error " ++ toString code ++ " " ++ statusPhrase code ++ ": " ++ url ∧
        ofMessage message true = (told? true url.toList).getD (ofStatus code) ∧
        (ofMessage message true = ofStatus code ↔
          ∀ word ∈ tellingWords true, ¬ Mentions url.toList word.1)) ∧
    (∀ path, fs.isFile path = false →
      ∃ message, (Engine.builtIn network).validate fs (.file path) options output reject =
          (.error message, fs) ∧
        message = "IO Error: No files found that match the pattern \"" ++ path.text ++ "\"" ∧
        ofMessage message false = (told? false path.text.toList).getD generic ∧
        (ofMessage message false = generic ↔ ¬ Mentions path.text.toList "zipfs")) := by
  constructor
  · intro url code body hanswer hcode hlow hhigh
    have hcategory : ofMessage (FetchFault.status code url).message true =
        (told? true url.toList).getD (ofStatus code) := ofMessage_status hlow hhigh
    refine ⟨_, validate_of_status hanswer hcode, message_status code url, hcategory, ?_⟩
    rw [hcategory]
    exact told?_getD_eq_ofStatus_iff
  · intro path hmissing
    have hcategory := ofMessage_noSuchFile path
    refine ⟨_, validate_of_missing hmissing, message_noSuchFile path, hcategory, ?_⟩
    rw [hcategory]
    exact told?_getD_eq_generic_iff

/-- A network in which nothing is found. -/
def nothingFound : Network := fun _ => .answered 404 (.whole [])

/-- A remote file that is not found counts as one that changed if its name has such a word in it,
and a missing local file as an archive. A name without one leaves the category to the status. -/
theorem ofMessage_etag :
    nothingFound "https://example.com/etag.csv" = .answered 404 (.whole []) ∧
      nothingFound "https://example.com/403.csv" = .answered 404 (.whole []) ∧
      (FileSystem.empty []).isFile ⟨"zipfs.csv"⟩ = false ∧ ofStatus 404 = httpNotFound ∧
      (∃ message, (Engine.builtIn nothingFound).validate (FileSystem.empty [])
          (.remote "https://example.com/etag.csv") {} ⟨"out.csv"⟩ ⟨"rejected.csv"⟩ =
            (.error message, FileSystem.empty []) ∧ ofMessage message true = httpChanged) ∧
      (∃ message, (Engine.builtIn nothingFound).validate (FileSystem.empty [])
          (.remote "https://example.com/403.csv") {} ⟨"out.csv"⟩ ⟨"rejected.csv"⟩ =
            (.error message, FileSystem.empty []) ∧ ofMessage message true = httpNotFound) ∧
      ∃ message, (Engine.builtIn nothingFound).validate (FileSystem.empty [])
          (.file ⟨"zipfs.csv"⟩) {} ⟨"out.csv"⟩ ⟨"rejected.csv"⟩ =
            (.error message, FileSystem.empty []) ∧ ofMessage message false = zipMissing := by
  have htold : told? true "https://example.com/etag.csv".toList = some httpChanged ∧
      told? true "https://example.com/403.csv".toList = none ∧
      told? false "zipfs.csv".toList = some zipMissing := by decide
  obtain ⟨hetag, hplain, hzipfs⟩ := htold
  have hmissing : (FileSystem.empty []).isFile ⟨"zipfs.csv"⟩ = false := rfl
  obtain ⟨hremote, hlocal⟩ :=
    ofMessage_carried nothingFound (FileSystem.empty []) {} ⟨"out.csv"⟩ ⟨"rejected.csv"⟩
  obtain ⟨message, hvalidate, -, hcategory, -⟩ := hremote "https://example.com/etag.csv" 404 _ rfl
    (by decide) (by decide) (by decide)
  obtain ⟨other, hother, -, -, hstatus⟩ := hremote "https://example.com/403.csv" 404 _ rfl
    (by decide) (by decide) (by decide)
  obtain ⟨missing, hfails, -, hzip, -⟩ := hlocal ⟨"zipfs.csv"⟩ hmissing
  refine ⟨rfl, rfl, hmissing, rfl, ⟨message, hvalidate, ?_⟩, ⟨other, hother, ?_⟩,
    missing, hfails, ?_⟩
  · rw [hcategory, hetag, Option.getD_some]
  · exact hstatus.mpr (told?_eq_none_iff.mp hplain)
  · rw [hzip, hzipfs, Option.getD_some]

end Category

end TidyCsv
