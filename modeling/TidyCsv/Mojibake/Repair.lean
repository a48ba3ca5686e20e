import TidyCsv.Encoding.CodePage
import TidyCsv.Mojibake.Signature
import TidyCsv.Text.Utf8

/-!
# Repair of mojibake

Each longest run of sequences is written as windows-1252 and read as UTF-8. A run that does not
survive this is left as it stands, and so is everything outside of runs.
-/

namespace TidyCsv.Mojibake

/-- The text that a run of sequences was made from, if it was made from valid UTF-8. -/
def repairRun (run : List Char) : Option (List Char) :=
  (CodePage.windows1252.encode? run).bind Utf8.decode?

/-- Text in the making: what is finished, reversed, and whether any run was repaired. -/
structure Draft where
  done : List Char
  changed : Bool
deriving DecidableEq, Repr

/-- Finishes a run, whose sequences are held reversed. -/
def Draft.closeRun (draft : Draft) (run : List (List Char)) : Draft :=
  let text := run.reverse.flatten
  match run with
  | [] => draft
  | _ =>
    match repairRun text with
    | some repaired => ⟨repaired.reverse ++ draft.done, true⟩
    | none => { draft with done := text.reverse ++ draft.done }

/-- Repairs the pieces of a text, given the sequences of the run being read, reversed. -/
def repairFrom (draft : Draft) (run : List (List Char)) : List Piece → Draft
  | [] => draft.closeRun run
  | .plain c :: rest =>
    let draft := draft.closeRun run
    repairFrom { draft with done := c :: draft.done } [] rest
  | .sequence chars :: rest => repairFrom draft (chars :: run) rest

/-- The repaired text, or none if there was nothing to repair. -/
def repair? (text : List Char) : Option (List Char) :=
  let draft := repairFrom ⟨[], false⟩ [] (pieces text)
  if draft.changed then some draft.done.reverse else none

/-- The text with all repairable runs repaired. -/
def repair (text : List Char) : List Char := (repair? text).getD text

/-- The repaired content of a file, or none if its first `sample` bytes show no signature, if it is
not UTF-8, or if no run can be repaired. -/
def repairContent? (sample : Nat) (content : Bytes) : Option Bytes :=
  if hasSignature (Utf8.decodeLossy (content.take sample)) then
    ((Utf8.decode? content).bind repair?).map Utf8.encode
  else none

end TidyCsv.Mojibake
