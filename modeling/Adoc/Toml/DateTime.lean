/-! # Dates and times in TOML

Scanners for the forms of dates and times. Each gives what follows the form at the front of a
text, or `none` if the form is not there or names no day or time that there is. -/

namespace Adoc.Toml

/-- The number spelled by exactly `n` digits, and what follows. -/
def readFixed (n : Nat) (s : List Char) : Option (Nat × List Char) :=
  let digits := s.take n
  if digits.length = n ∧ digits.all Char.isDigit then
    some (Nat.ofDigitChars 10 digits 0, s.drop n)
  else none

/-- A number of two digits between `low` and `high`, and what follows. -/
def readPart (low high : Nat) (s : List Char) : Option (Nat × List Char) := do
  let (n, s) ← readFixed 2 s
  if low ≤ n ∧ n ≤ high then some (n, s) else none

/-- What follows the character `c`. -/
def skipChar (c : Char) : List Char → Option (List Char)
  | d :: s => if d = c then some s else none
  | [] => none

def isLeapYear (year : Nat) : Bool := year % 4 == 0 && (year % 100 != 0 || year % 400 == 0)

/-- The number of days in a month of a year. -/
def daysInMonth (year month : Nat) : Nat :=
  if month = 2 then (if isLeapYear year then 29 else 28)
  else if month = 4 ∨ month = 6 ∨ month = 9 ∨ month = 11 then 30
  else 31

/-- Year, month and day, with hyphens between them. -/
def skipDate (s : List Char) : Option (List Char) := do
  let (year, s) ← readFixed 4 s
  let s ← skipChar '-' s
  let (month, s) ← readPart 1 12 s
  let s ← skipChar '-' s
  let (day, s) ← readPart 1 31 s
  if day ≤ daysInMonth year month then some s else none

/-- A point and digits, if they are there. -/
def skipFraction (s : List Char) : List Char :=
  match s with
  | '.' :: c :: rest => if c.isDigit then rest.dropWhile Char.isDigit else s
  | _ => s

/-- Hours, minutes and seconds with colons between them, and perhaps a fraction of a second. -/
def skipTime (s : List Char) : Option (List Char) := do
  let (_, s) ← readPart 0 23 s
  let s ← skipChar ':' s
  let (_, s) ← readPart 0 59 s
  let s ← skipChar ':' s
  let (_, s) ← readPart 0 60 s
  return skipFraction s

/-- The distance from universal time: `Z`, or hours and minutes with a sign. -/
def skipOffset : List Char → Option (List Char)
  | 'Z' :: s | 'z' :: s => some s
  | '+' :: s | '-' :: s => do
    let (_, s) ← readPart 0 23 s
    let s ← skipChar ':' s
    let (_, s) ← readPart 0 59 s
    return s
  | _ => none

/-- What follows a time and perhaps an offset, behind a date; the time may be missing. -/
def skipTimeOfDay (s : List Char) : List Char :=
  match s with
  | c :: rest =>
    if c = 'T' ∨ c = 't' ∨ c = ' ' then
      match skipTime rest with
      | some rest => (skipOffset rest).getD rest
      | none => s
    else s
  | [] => s

/-- A date, a time of day, or both. -/
def skipDateTime (s : List Char) : Option (List Char) :=
  match skipDate s with
  | some rest => some (skipTimeOfDay rest)
  | none => skipTime s

end Adoc.Toml
