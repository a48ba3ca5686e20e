import TidyCsv.Report.Panel

/-!
# What a run tells its user

A run never prints; it gives the list of its messages, which can be inspected or shown.
-/

namespace TidyCsv

inductive Severity where
  | info
  | warning
  | error
deriving DecidableEq, Repr

/-- What stands before the title of a message. -/
def Severity.mark : Severity → String
  | info => ""
  | warning => "warning: "
  | error => "error: "

inductive Event where
  | warning (text : String)
  | panel (severity : Severity) (title body : String)
  | summary (rows : List (String × String))
deriving DecidableEq, Repr

namespace Event

def occurs (part text : String) : Bool := Text.occursIn part.toList text.toList

def mentions (part : String) : Event → Bool
  | warning text => occurs part text
  | panel _ title body => occurs part title || occurs part body
  | summary rows => rows.any fun (label, value) => occurs part label || occurs part value

def render : Event → String
  | warning text => "warning: " ++ text ++ "\n"
  | panel severity title body => Panel.render (severity.mark ++ title) body
  | summary rows => Panel.renderKeyValues rows

def warning? : Event → Option String
  | warning text => some text
  | _ => none

def summary? : Event → Option (List (String × String))
  | summary rows => some rows
  | _ => none

def isPanel : Event → Bool
  | panel .. => true
  | _ => false

def isPanelOf (severity : Severity) : Event → Bool
  | panel s .. => s == severity
  | _ => false

def lastSummary? (events : List Event) : Option (List (String × String)) :=
  events.reverse.findSome? summary?

def renderAll (events : List Event) : String := String.join (events.map render)

end Event

end TidyCsv
