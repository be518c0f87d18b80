/-
Module: NamedRefs.Toml.Date
Purpose: Dates and times in a TOML document.
Main exports: Toml.daysInMonth, Toml.readDate
-/
import NamedRefs.Toml.Number

namespace NamedRefs.Toml

/-- Read a number of exactly so many decimal digits. -/
def readFixed : Nat → Nat → Reader Nat
  | 0, value, text => some (value, text)
  | _ + 1, _, [] => none
  | count + 1, value, character :: rest =>
      match decimalValue? character with
      | none => none
      | some digit => readFixed count (10 * value + digit) rest

/-- Read two digits whose value lies between two bounds. -/
def readTwo (low high : Nat) (text : List Char) : Option (Nat × List Char) :=
  (readFixed 2 0 text).filter fun (value, _) => low ≤ value && value ≤ high

/-- Read one given character. -/
def readMark (mark : Char) : Reader Unit
  | character :: rest => if character == mark then some ((), rest) else none
  | [] => none

/-- Every fourth year is a leap year; of the years that end a century only every fourth one is. -/
def isLeapYear (year : Nat) : Bool :=
  year % 4 == 0 && (year % 100 != 0 || year % 400 == 0)

/-- The length of a month. -/
def daysInMonth (year month : Nat) : Nat :=
  if month = 2 then (if isLeapYear year then 29 else 28)
  else if month = 4 || month = 6 || month = 9 || month = 11 then 30
  else 31

/-- Read a day of the calendar and return the text behind it. -/
def readDay (text : List Char) : Option (List Char) := do
  let (year, text) ← readFixed 4 0 text
  let (_, text) ← readMark '-' text
  let (month, text) ← readTwo 1 12 text
  let (_, text) ← readMark '-' text
  let (_, text) ← readTwo 1 (daysInMonth year month) text
  return text

/-- Skip the decimals of a second, if there are any. -/
def skipDecimals : List Char → List Char
  | '.' :: rest =>
      let after := rest.dropWhile Char.isDigit
      if after.length < rest.length then after else '.' :: rest
  | text => text

/-- Read a time of the day and return the text behind it.  A minute may have a leap second. -/
def readTime (text : List Char) : Option (List Char) := do
  let (_, text) ← readTwo 0 23 text
  let (_, text) ← readMark ':' text
  let (_, text) ← readTwo 0 59 text
  let (_, text) ← readMark ':' text
  let (_, text) ← readTwo 0 60 text
  return skipDecimals text

/-- Read an offset from universal time and return the text behind it. -/
def readOffset : List Char → Option (List Char)
  | [] => none
  | sign :: text =>
      if sign == 'Z' || sign == 'z' then some text
      else if sign == '+' || sign == '-' then do
        let (_, text) ← readTwo 0 23 text
        let (_, text) ← readMark ':' text
        let (_, text) ← readTwo 0 59 text
        return text
      else none

/-- Read the time of a day behind the mark that separates the two, and an offset. -/
def readTimeOfDay : List Char → Option (List Char)
  | mark :: text =>
      if mark == 'T' || mark == 't' || mark == ' ' then
        (readTime text).map fun after => (readOffset after).getD after
      else none
  | [] => none

/-- Read a day, a day with a time, or a time alone, and keep its spelling. -/
def readDate (text : List Char) : Option (String × List Char) :=
  let rest :=
    match readDay text with
    | some afterDay => some ((readTimeOfDay afterDay).getD afterDay)
    | none => readTime text
  rest.map fun rest => (spelling text rest, rest)

end NamedRefs.Toml
