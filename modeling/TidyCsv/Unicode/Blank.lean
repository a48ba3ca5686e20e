import TidyCsv.Unicode.Ranges

/-! # Blank characters: the property White_Space -/

namespace TidyCsv.Unicode

/-- The ranges of the property `White_Space`. -/
def blankRanges : List (Nat × Nat) := [
  (0x0009, 0x000D), (0x0020, 0x0020), (0x0085, 0x0085), (0x00A0, 0x00A0), (0x1680, 0x1680),
  (0x2000, 0x200A), (0x2028, 0x2029), (0x202F, 0x202F), (0x205F, 0x205F), (0x3000, 0x3000)]

/-- Whether a character is blank, in the sense of the property `White_Space`. -/
def isBlank (c : Char) : Bool := inRanges c.toNat blankRanges

end TidyCsv.Unicode
