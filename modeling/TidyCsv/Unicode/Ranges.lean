/-!
# Tables of code point ranges

A character property is given by the ascending list of the closed ranges on which it holds.
-/

namespace TidyCsv.Unicode

/-- Whether a code point lies in one of the ranges of an ascending table. -/
def inRanges (n : Nat) : List (Nat × Nat) → Bool
  | [] => false
  | (first, last) :: rest =>
    if n < first then false else if n ≤ last then true else inRanges n rest

end TidyCsv.Unicode
