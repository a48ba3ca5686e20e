import TidyCsv.Text.Lines

/-!
# Panels and tables

Messages are shown in boxes, and summaries as tables of two columns. Widths count characters;
sequences that only set colours take no room.
-/

namespace TidyCsv.Panel

/-- The width of a text; `inEscape` tells that a colour sequence, which ends with an `m`, is going
on before it. -/
def widthFrom (inEscape : Bool) (width : Nat) : List Char → Nat
  | [] => width
  | c :: rest =>
    if inEscape then widthFrom (c != 'm') width rest
    else if c = '\x1b' then widthFrom true width rest
    else widthFrom false (width + 1) rest

/-- How many columns a text takes. -/
def displayWidth (text : List Char) : Nat := widthFrom false 0 text

/-- A text with spaces for its line breaks and tabs. -/
def flatten (text : List Char) : List Char :=
  text.map fun c => if c = '\n' ∨ c = '\r' ∨ c = '\t' then ' ' else c

/-- The least width between the borders of a box. -/
def minWidth : Nat := 40

def bodyLines (body : List Char) : List (List Char) := (Text.lines body).map flatten

/-- The width between the borders: room for the title, for every line, and no less than the
least. -/
def innerWidth (title : List Char) (body : List (List Char)) : Nat :=
  body.foldl (fun width line => max width (displayWidth line + 2))
    (max minWidth (displayWidth title + 3))

/-- The upper border with the title in it. -/
def topLine (title : List Char) (inner : Nat) : List Char :=
  ['┌', '─', ' '] ++ title ++ [' ']
    ++ List.replicate (inner - (displayWidth title + 3)) '─' ++ ['┐']

def bodyLine (line : List Char) (inner : Nat) : List Char :=
  ['│', ' '] ++ line ++ List.replicate (inner - (displayWidth line + 2)) ' ' ++ [' ', '│']

def bottomLine (inner : Nat) : List Char := '└' :: (List.replicate inner '─' ++ ['┘'])

def boxLines (title body : List Char) : List (List Char) :=
  let lines := bodyLines body
  let inner := innerWidth title lines
  topLine title inner :: (lines.map fun line => bodyLine line inner) ++ [bottomLine inner]

/-- Lines as one text, each ended by a line feed. -/
def joinLines (lines : List (List Char)) : List Char := lines.flatMap fun line => line ++ ['\n']

def render (title body : String) : String :=
  String.ofList (joinLines (boxLines title.toList body.toList))

/-- A line of a table: the label, padded to a width, and the value. -/
def keyValueLine (width : Nat) (label value : List Char) : List Char :=
  let label := flatten label
  Text.trimEnd (label ++ List.replicate (width - displayWidth label) ' ' ++ [' ', ' ']
    ++ flatten value)

def renderKeyValues (rows : List (String × String)) : String :=
  let width := rows.foldl (fun width (label, _) => max width (displayWidth label.toList)) 0
  String.ofList (joinLines (rows.map fun (label, value) =>
    keyValueLine width label.toList value.toList))

end TidyCsv.Panel
