import TidyCsv.Encoding.Plausibility
import TidyCsv.Text.Utf8
import TidyCsv.Text.Utf16

/-!
# Detection of a file's encoding

The first bytes of a file decide its encoding. A byte order mark wins outright; then content that
is not text is refused; then come ASCII and UTF-8; and at last the code page under which the text
looks most plausible.
-/

namespace TidyCsv.Detection

def sampleSize : Nat := 65536

/-- The encodings that detection tells apart. -/
inductive Verdict where
  | ascii
  | utf8
  | markedUtf8
  | utf16 (order : Utf16.ByteOrder)
  | codePage (page : CodePage)
deriving DecidableEq, Repr

def Verdict.label : Verdict → String
  | ascii => "ascii"
  | utf8 => "utf-8"
  | markedUtf8 => "utf-8-sig"
  | utf16 .littleEndian => "utf-16le"
  | utf16 .bigEndian => "utf-16be"
  | codePage .windows1250 => "windows-1250"
  | codePage .windows1251 => "windows-1251"
  | codePage .windows1252 => "windows-1252"

inductive Refusal where
  | empty
  | nulBytes
  | controlBytes
  | lowConfidence
deriving DecidableEq, Repr

def Refusal.message : Refusal → String
  | empty => "file is empty"
  | nulBytes => "binary content (NUL bytes) detected"
  | controlBytes => "binary content (control bytes) detected"
  | lowConfidence => "confidence too low for any supported encoding"

/-- The encoding announced by a byte order mark. -/
def ofMark? (sample : Bytes) : Option Verdict :=
  if Bytes.utf8Mark.isPrefixOf sample then some .markedUtf8
  else if (Utf16.ByteOrder.mark .littleEndian).isPrefixOf sample then
    some (.utf16 .littleEndian)
  else if (Utf16.ByteOrder.mark .bigEndian).isPrefixOf sample then some (.utf16 .bigEndian)
  else none

/-- The numbers of NUL bytes at even and at odd offsets. -/
def nulCounts (sample : Bytes) : Nat × Nat :=
  let (even, odd, _) := sample.foldl
    (fun (even, odd, atEven) b =>
      let hit := if b = 0 then 1 else 0
      if atEven then (even + hit, odd, false) else (even, odd + hit, true))
    (0, 0, true)
  (even, odd)

/-- Whether the whole units of a sample decode; a pair cut off at the end is tolerated. -/
def unitsDecode (order : Utf16.ByteOrder) (sample : Bytes) : Bool :=
  let whole := sample.take (sample.length - sample.length % 2)
  match (Utf16.read order whole).2 with
  | none => true
  | some .truncated => true
  | some (.malformed _) => false

/-- UTF-16 without a mark, recognised by NUL bytes on one side of at least three units in ten. -/
def ofNulLayout? (sample : Bytes) : Option Verdict :=
  let pairs := sample.length / 2
  let (even, odd) := nulCounts sample
  let threshold := pairs * 30 / 100
  if pairs = 0 then none
  else if threshold < odd ∧ even = 0 ∧ unitsDecode .littleEndian sample then
    some (.utf16 .littleEndian)
  else if threshold < even ∧ odd = 0 ∧ unitsDecode .bigEndian sample then some (.utf16 .bigEndian)
  else none

/-- Whether a byte is a control character that text does not contain. -/
def isControl (b : UInt8) : Bool :=
  (b < 0x20 && !(b == 0x09 || b == 0x0A || b == 0x0C || b == 0x0D)) || b == 0x7F

/-- Whether more than a tenth of the bytes are control characters. -/
def isMostlyControl (sample : Bytes) : Bool :=
  decide (sample.length * 10 < sample.countP isControl * 100)

/-- Whether a sample is UTF-8; the end of a full sample may cut a sequence. -/
def isUtf8 (sample : Bytes) : Bool :=
  match (Utf8.read sample).2 with
  | none => true
  | some .truncated => decide (sampleSize ≤ sample.length)
  | some (.malformed _) => false

def pageScore (sample : Bytes) (page : CodePage) : Int :=
  let western := CodePage.windows1252.decode sample
  Plausibility.score (page.decode sample) (Plausibility.neutralPositions western)

/-- The code page with the highest score, and that score; windows-1252 wins ties, then
windows-1250. -/
def bestPage (sample : Bytes) : CodePage × Int :=
  let better (best : CodePage × Int) (page : CodePage) : CodePage × Int :=
    let score := pageScore sample page
    if best.2 < score then (page, score) else best
  [CodePage.windows1250, .windows1251].foldl better
    (.windows1252, pageScore sample .windows1252)

/-- The code page under which a sample looks best, unless even that looks implausible. -/
def ofScores (sample : Bytes) : Except Refusal Verdict :=
  let (page, score) := bestPage sample
  if 0 ≤ score then .ok (.codePage page) else .error .lowConfidence

/-- The encoding of a file that starts with the sample. -/
def detect (sample : Bytes) : Except Refusal Verdict :=
  if sample.isEmpty then .error .empty
  else match ofMark? sample with
    | some verdict => .ok verdict
    | none =>
      if sample.contains 0 then
        match ofNulLayout? sample with
        | some verdict => .ok verdict
        | none => .error .nulBytes
      else if isMostlyControl sample then .error .controlBytes
      else if Bytes.isAscii sample then .ok .ascii
      else if isUtf8 sample then .ok .utf8
      else ofScores sample

end TidyCsv.Detection
