/-!
# Sizes for people

A size is shown in the largest unit that it fills, with one decimal place. The size is first rounded
to 53 significant bits; then it is rounded to tenths. Both roundings send a half to the even side.
-/

namespace TidyCsv.Magnitude

/-- The quotient of two numbers, rounded to the nearest integer; a half goes to the even one. -/
def roundDiv (n d : Nat) : Nat :=
  let q := n / d
  let r := n % d
  if 2 * r < d then q
  else if d < 2 * r then q + 1
  else if q % 2 = 0 then q
  else q + 1

/-- A number rounded to 53 significant bits. -/
def round53 (n : Nat) : Nat :=
  if n < Nat.pow 2 53 then n
  else
    let unit := Nat.pow 2 (n.log2 - 52)
    roundDiv n unit * unit

/-- The units above the byte, each 1024 times the one before. -/
def units : List String := ["KB", "MB", "GB", "TB"]

/-- The divisor and the name of the largest unit that a size fills, from a unit and those above. -/
def chooseUnit (size divisor : Nat) (unit : String) : List String → Nat × String
  | [] => (divisor, unit)
  | next :: rest =>
    if divisor * 1024 ≤ size then chooseUnit size (divisor * 1024) next rest else (divisor, unit)

def render (bytes : Nat) : String :=
  let size := round53 bytes
  let (divisor, unit) := chooseUnit size 1 "B" units
  if divisor = 1 then toString bytes ++ " B"
  else
    let tenths := roundDiv (size * 10) divisor
    toString (tenths / 10) ++ "." ++ toString (tenths % 10) ++ " " ++ unit

end TidyCsv.Magnitude
