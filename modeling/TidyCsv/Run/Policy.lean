import TidyCsv.Run.Outcome
import TidyCsv.Settings

/-!
# What follows from validation

Rejected rows are fatal for a check and for a strict run to standard output. A strict run to a file
writes its output and fails afterwards.
-/

namespace TidyCsv

/-- What a run does after validation. -/
inductive Decision where
  | proceed
  /-- Writes the output although rows were rejected, and fails after that if told so. -/
  | proceedWithWarnings (failAfter : Bool)
  | halt (success : Bool)
deriving DecidableEq, Repr

namespace Policy

/-- What a run does after validation. -/
def decide (outcome : Outcome) (settings : Settings) : Decision :=
  if settings.checkOnly then .halt (!outcome.hasErrors)
  else if !outcome.hasErrors then .proceed
  else if settings.output.isStdout then
    if settings.strict then .halt false else .proceedWithWarnings false
  else .proceedWithWarnings settings.strict

/-- What the user is told if quotes were not heeded. -/
def fallbackWarning : String :=
  "The input could not be parsed strictly; it was read in permissive mode (quotes ignored). Check "
    ++ "the output for shifted values."

/-- How many rows were rejected, why, and where they are. -/
def rejectionBody (outcome : Outcome) (reject : Path) : String :=
  let types :=
    if outcome.errorTypes.isEmpty then ""
    else " (" ++ ", ".intercalate outcome.errorTypes ++ ")"
  toString outcome.rejectedRows ++ " row(s) rejected" ++ types ++ "\nDetails: " ++ reject.text

def decisionPanel (outcome : Outcome) (settings : Settings) (reject : Path) :
    Decision → List Event
  | .proceed => []
  | .halt true =>
    [.panel .info "Validation passed"
      (toString outcome.conforming ++ " row(s) conform to the inferred schema.")]
  | .halt false =>
    let title :=
      if settings.checkOnly then "Validation failed" else "Validation failed in strict mode"
    [.panel .error title (rejectionBody outcome reject)]
  | .proceedWithWarnings failAfter =>
    let title :=
      if failAfter then "Invalid rows found in strict mode" else "Invalid rows found"
    [.panel .warning title
      (rejectionBody outcome reject ++ "\nValid rows are written to the output.")]

/-- The decision, and what the user is told about it. -/
def apply (outcome : Outcome) (settings : Settings) (reject : Path) : Decision × List Event :=
  let decision := decide outcome settings
  let warning :=
    if outcome.fallback.any (!·.strictMode) then [Event.warning fallbackWarning] else []
  (decision, warning ++ decisionPanel outcome settings reject decision)

end Policy

end TidyCsv
