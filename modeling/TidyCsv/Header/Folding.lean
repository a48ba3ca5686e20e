/-!
# Latin letters without accents
-/

namespace TidyCsv.Header

/-- The accented letters that are replaced, with the letter that replaces them. -/
def accentTable : List (String × Char) := [
  ("àáâãäåāą", 'a'),
  ("ÀÁÂÃÄÅĀĄ", 'A'),
  ("çćč", 'c'),
  ("ÇĆČ", 'C'),
  ("ďđ", 'd'),
  ("ĎĐ", 'D'),
  ("èéêëēęě", 'e'),
  ("ÈÉÊËĒĘĚ", 'E'),
  ("ìíîïī", 'i'),
  ("ÌÍÎÏĪ", 'I'),
  ("ł", 'l'),
  ("Ł", 'L'),
  ("ñńň", 'n'),
  ("ÑŃŇ", 'N'),
  ("òóôõöøōő", 'o'),
  ("ÒÓÔÕÖØŌŐ", 'O'),
  ("ř", 'r'),
  ("Ř", 'R'),
  ("śšş", 's'),
  ("ŚŠŞ", 'S'),
  ("ťţ", 't'),
  ("ŤŢ", 'T'),
  ("ùúûüūůű", 'u'),
  ("ÙÚÛÜŪŮŰ", 'U'),
  ("ýÿ", 'y'),
  ("ÝŸ", 'Y'),
  ("źżž", 'z'),
  ("ŹŻŽ", 'Z')]

/-- A letter without its accent; a character that is not in the table stays. -/
def dropAccent (c : Char) : Char :=
  match accentTable.find? fun (accented, _) => accented.toList.contains c with
  | some (_, plain) => plain
  | none => c

/-- What a character is replaced by: two letters for a ligature, one character otherwise. -/
def foldChar (c : Char) : List Char :=
  if c = 'ß' then ['s', 's']
  else if c = 'æ' then ['a', 'e']
  else if c = 'Æ' then ['A', 'E']
  else [dropAccent c]

/-- A text without accents and ligatures. -/
def foldText (text : List Char) : List Char := text.flatMap foldChar

end TidyCsv.Header
