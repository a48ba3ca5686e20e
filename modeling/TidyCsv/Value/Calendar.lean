import TidyCsv.Unicode.Blank
import TidyCsv.Value.Number

/-!
# Dates and timestamps in cells

A pattern is a list of items. Each item reads from the front of the text, and a date or timestamp
is recognised by the first pattern that reads all of it and gives a day that exists.
-/

namespace TidyCsv.Value

open Unicode

/-- A part of a date or timestamp that a pattern names. -/
inductive Part where
  | year
  | month
  | day
  | hour
  | minute
  | second
deriving DecidableEq, Repr

inductive Item where
  /-- A number, after any blanks. -/
  | part (p : Part)
  /-- Any number of blanks. -/
  | gap
  /-- Nothing, or a point and the digits of a fraction of a second. -/
  | fraction
  /-- The character itself. -/
  | literal (c : Char)
deriving DecidableEq, Repr

/-- What has been read of a date and a time of day. -/
structure Reading where
  year : Int
  month : Nat
  day : Nat
  hour : Nat
  minute : Nat
  second : Nat
  nanosecond : Nat
deriving DecidableEq, Repr

/-- Nothing read yet; the time of day is midnight unless a pattern says otherwise. -/
def Reading.blank : Reading := ⟨0, 1, 1, 0, 0, 0, 0⟩

/-- The number at the front of a text, of at least one and at most `limit` digits, and the rest. -/
def readDigits (limit : Nat) (text : List Char) : Option (Nat × List Char) :=
  let digits := (text.take limit).takeWhile Char.isDigit
  if digits.isEmpty then none else some (digitsValue digits, text.drop digits.length)

/-- A year: four digits at most, or any number of digits after a sign. -/
def readYear (text : List Char) : Option (Int × List Char) :=
  match text with
  | '-' :: rest => (readDigits rest.length rest).map fun (n, rest) => (-(n : Int), rest)
  | '+' :: rest => (readDigits rest.length rest).map fun (n, rest) => ((n : Int), rest)
  | _ => (readDigits 4 text).map fun (n, rest) => ((n : Int), rest)

/-- A number of one or two digits in a range, and the rest. -/
def readBetween (least greatest : Nat) (text : List Char) : Option (Nat × List Char) :=
  (readDigits 2 text).filter fun (n, _) => least ≤ n && n ≤ greatest

/-- The first nine digits of a fraction, as nanoseconds. -/
def nanoseconds (digits : List Char) : Nat :=
  let digits := digits.take 9
  digitsValue digits * Nat.pow 10 (9 - digits.length)

/-- Reads the number that a part asks for. -/
def Part.read (part : Part) (reading : Reading) (text : List Char) :
    Option (Reading × List Char) :=
  let text := text.dropWhile isBlank
  match part with
  | year => (readYear text).map fun (n, rest) => ({ reading with year := n }, rest)
  | month => (readBetween 1 12 text).map fun (n, rest) => ({ reading with month := n }, rest)
  | day => (readBetween 1 31 text).map fun (n, rest) => ({ reading with day := n }, rest)
  | hour => (readBetween 0 23 text).map fun (n, rest) => ({ reading with hour := n }, rest)
  | minute => (readBetween 0 59 text).map fun (n, rest) => ({ reading with minute := n }, rest)
  | second => (readBetween 0 60 text).map fun (n, rest) => ({ reading with second := n }, rest)

def Item.read (item : Item) (reading : Reading) (text : List Char) :
    Option (Reading × List Char) :=
  match item with
  | part p => p.read reading text
  | gap => some (reading, text.dropWhile isBlank)
  | fraction =>
    match text with
    | '.' :: rest =>
      let digits := rest.takeWhile Char.isDigit
      if digits.isEmpty then none
      else some ({ reading with nanosecond := nanoseconds digits }, rest.dropWhile Char.isDigit)
    | _ => some (reading, text)
  | literal c =>
    match text with
    | d :: rest => if d = c then some (reading, rest) else none
    | [] => none

/-- Reads a whole text by a pattern. -/
def readAll (reading : Reading) : List Item → List Char → Option Reading
  | [], text => if text.isEmpty then some reading else none
  | item :: rest, text =>
    match item.read reading text with
    | some (reading, text) => readAll reading rest text
    | none => none

/-- Whether a year has a day more. -/
def isLeapYear (year : Int) : Bool :=
  year % 4 == 0 && (year % 100 != 0 || year % 400 == 0)

def daysInMonth (year : Int) (month : Nat) : Nat :=
  if month = 2 then (if isLeapYear year then 29 else 28)
  else if month = 4 ∨ month = 6 ∨ month = 9 ∨ month = 11 then 30
  else 31

/-- Whether the day that was read exists, within the years that are kept track of. -/
def Reading.dayExists (r : Reading) : Bool :=
  decide (-262143 ≤ r.year) && decide (r.year ≤ 262142)
    && decide (r.day ≤ daysInMonth r.year r.month)

/-- What the first fitting pattern reads. -/
def readFirst? (patterns : List (List Item)) (text : List Char) : Option Reading :=
  patterns.findSome? fun pattern => (readAll .blank pattern text).filter Reading.dayExists

/-- Three parts with a separator between them. -/
def separated (separator : Char) (a b c : Part) : List Item :=
  [.part a, .literal separator, .part b, .literal separator, .part c]

def datePatterns : List (List Item) := [
  separated '-' .year .month .day,
  separated '/' .year .month .day,
  separated '/' .day .month .year,
  separated '/' .month .day .year,
  separated '-' .day .month .year,
  separated '.' .day .month .year]

def timestampPatterns : List (List Item) :=
  let isoDay := separated '-' .year .month .day
  let clock := separated ':' .hour .minute .second
  let shortClock := [Item.part .hour, .literal ':', .part .minute]
  [isoDay ++ [.gap] ++ clock ++ [.fraction],
    isoDay ++ [.literal 'T'] ++ clock ++ [.fraction],
    isoDay ++ [.gap] ++ shortClock,
    isoDay ++ [.literal 'T'] ++ shortClock,
    separated '/' .day .month .year ++ [.gap] ++ clock,
    separated '/' .month .day .year ++ [.gap] ++ clock]

def date? (text : List Char) : Option Reading := readFirst? datePatterns text

def timestamp? (text : List Char) : Option Reading := readFirst? timestampPatterns text

def isDate (text : List Char) : Bool := (date? text).isSome

def isTimestamp (text : List Char) : Bool := (timestamp? text).isSome

/-! ## Printing -/

/-- A number with zeros in front up to a width. -/
def padded (width n : Nat) : String :=
  let digits := toString n
  "".pushn '0' (width - digits.length) ++ digits

/-- A year: four digits, and a sign if it is outside of them. -/
def printYear (year : Int) : String :=
  if year < 0 then "-" ++ padded 4 year.natAbs
  else if 9999 < year then "+" ++ padded 4 year.natAbs
  else padded 4 year.natAbs

/-- The date of a reading, from the year down. -/
def Reading.printDate (r : Reading) : String :=
  printYear r.year ++ "-" ++ padded 2 r.month ++ "-" ++ padded 2 r.day

/-- A fraction of a second in the fewest groups of three digits that are exact. -/
def printFraction (nanosecond : Nat) : String :=
  if nanosecond = 0 then ""
  else if nanosecond % 1000000 = 0 then "." ++ padded 3 (nanosecond / 1000000)
  else if nanosecond % 1000 = 0 then "." ++ padded 6 (nanosecond / 1000)
  else "." ++ padded 9 nanosecond

/-- The date and time of a reading. -/
def Reading.printTimestamp (r : Reading) : String :=
  r.printDate ++ "T" ++ padded 2 r.hour ++ ":" ++ padded 2 r.minute ++ ":" ++ padded 2 r.second
    ++ printFraction r.nanosecond

def noDateMessage (text : String) : String := "'" ++ text ++ "' is not a recognised date"

def noTimestampMessage (text : String) : String := "'" ++ text ++ "' is not a recognised datetime"

end TidyCsv.Value
