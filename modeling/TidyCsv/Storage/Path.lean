import TidyCsv.Text.Lines

/-!
# Paths

A path keeps the text it was given as, which is how it is shown. Two paths are the same if they
have the same components: repeated and trailing slashes do not count, and neither do dots, except
one at the start.
-/

namespace TidyCsv

structure Path where
  text : String
deriving DecidableEq, Repr, Inhabited

namespace Path

inductive Component where
  | root
  | current
  | parent
  | named (name : String)
deriving DecidableEq, Repr

/-- What stands before the names of a path. -/
inductive Start where
  | root
  | current
  | nothing
deriving DecidableEq, Repr

/-- The start of a path and the pieces between its slashes. -/
def split (p : Path) : Start × List String :=
  match (Text.splitOn '/' p.text.toList).map String.ofList with
  | "" :: [] => (.nothing, [])
  | "" :: rest => (.root, rest)
  | "." :: rest => (.current, rest)
  | pieces => (.nothing, pieces)

/-- Whether a piece names nothing. -/
def isVoid (piece : String) : Bool := piece == "" || piece == "."

def components (p : Path) : List Component :=
  let (start, pieces) := p.split
  let first := match start with
    | .root => [Component.root]
    | .current => [.current]
    | .nothing => []
  first ++ (pieces.filter (!isVoid ·)).map fun piece =>
    if piece = ".." then .parent else .named piece

/-- Whether two paths have the same components. -/
def same (p q : Path) : Bool := p.components == q.components

def isAbsolute (p : Path) : Bool := p.text.toList.head? == some '/'

/-- A path below another one, unless it starts at the root itself. -/
def join (p q : Path) : Path :=
  if q.isAbsolute then q
  else if p.text = "" ∨ p.text.toList.getLast? = some '/' then ⟨p.text ++ q.text⟩
  else ⟨p.text ++ "/" ++ q.text⟩

/-- Pieces without those at the end that name nothing. -/
def dropVoid (pieces : List String) : List String := (pieces.reverse.dropWhile isVoid).reverse

/-- A start and pieces as text. -/
def assemble (start : Start) (pieces : List String) : Path :=
  let text := "/".intercalate pieces
  match start, pieces with
  | .root, _ => ⟨"/" ++ text⟩
  | .current, [] => ⟨"."⟩
  | .current, _ => ⟨"./" ++ text⟩
  | .nothing, _ => ⟨text⟩

/-- The path without its last component; the root and the empty path have none. -/
def parent? (p : Path) : Option Path :=
  let (start, pieces) := p.split
  match dropVoid pieces with
  | [] => if start = .current then some ⟨""⟩ else none
  | pieces => some (assemble start (dropVoid pieces.dropLast))

/-- The last component, if it is a name. -/
def fileName? (p : Path) : Option String :=
  match p.components.getLast? with
  | some (.named name) => some name
  | _ => none

/-- Whether a path is the dash that stands for a standard stream. -/
def isDash (p : Path) : Bool := p.same ⟨"-"⟩

end Path

end TidyCsv
