/-
Moments in time, written in the proleptic Gregorian calendar and always in UTC. Reading takes
ISO 8601 date-times with an offset, with some freedom for blanks.
-/
import FormBuilder.Decimal.Notation
import FormBuilder.Decimal.Literal
import FormBuilder.Text.Blank

namespace FormBuilder

/-- A moment: whole minutes since the beginning of 1970, and the seconds in the minute, of which a
minute with a leap second has 61. -/
structure Timestamp where
  minutes : Int
  second : Nat
  nanosecond : Nat
  deriving DecidableEq, Repr

namespace Timestamp

/-! ## Calendar -/

def isLeapYear (year : Int) : Bool := year % 4 = 0 && (year % 100 ≠ 0 || year % 400 = 0)

def daysInMonth (year : Int) (month : Nat) : Nat :=
  match month with
  | 2 => if isLeapYear year then 29 else 28
  | 4 | 6 | 9 | 11 => 30
  | _ => 31

/-- Days from the first of March of year 0 to a day, where January and February count to the year
before. -/
def daysFromMarch (year : Int) (month day : Nat) : Int :=
  let y := if month ≤ 2 then year - 1 else year
  let m := if month ≤ 2 then month + 9 else month - 3
  365 * y + y / 4 - y / 100 + y / 400 + ((153 * m + 2) / 5 : Nat) + (day : Int) - 1

/-- The number of the day 1970-01-01 in this count. -/
def epochDay : Int := 719468

/-- Year, month and day of a day since 1970-01-01. -/
def civil (day : Int) : Int × Nat × Nat :=
  let n := day + epochDay
  let era := n / 146097
  let dayOfEra := (n % 146097).toNat
  let yearOfEra := (dayOfEra - dayOfEra / 1460 + dayOfEra / 36524 - dayOfEra / 146096) / 365
  let dayOfYear := dayOfEra - (365 * yearOfEra + yearOfEra / 4 - yearOfEra / 100)
  let m := (5 * dayOfYear + 2) / 153
  let month := if m < 10 then m + 3 else m - 9
  let year := (yearOfEra : Int) + era * 400
  (if month ≤ 2 then year + 1 else year, month, dayOfYear - (153 * m + 2) / 5 + 1)

def minYear : Int := -262143

def maxYear : Int := 262142

/-! ## Writing -/

/-- A number with zeros in front up to a width. -/
def padded (width n : Nat) : List Char :=
  let digits := Decimal.digitChars n
  List.replicate (width - digits.length) '0' ++ digits

/-- Years of four digits have no sign. -/
def yearText (year : Int) : List Char :=
  if 0 ≤ year && year ≤ 9999 then padded 4 year.toNat
  else (if year < 0 then '-' else '+') :: padded 4 year.natAbs

/-- The date and time with a separator, without fractions of a second. -/
def dateTimeText (separator : Char) (t : Timestamp) : List Char :=
  let (year, month, day) := civil (t.minutes / 1440)
  let minute := (t.minutes % 1440).toNat
  yearText year ++ '-' :: padded 2 month ++ '-' :: padded 2 day ++ separator
    :: padded 2 (minute / 60) ++ ':' :: padded 2 (minute % 60) ++ ':' :: padded 2 t.second

/-- Fractions of a second in 3, 6 or 9 digits, as few as are exact. -/
def fractionText (nanosecond : Nat) : List Char :=
  if nanosecond = 0 then []
  else if nanosecond % 1000000 = 0 then '.' :: padded 3 (nanosecond / 1000000)
  else if nanosecond % 1000 = 0 then '.' :: padded 6 (nanosecond / 1000)
  else '.' :: padded 9 nanosecond

def text (t : Timestamp) : String :=
  String.ofList (t.dateTimeText 'T' ++ fractionText t.nanosecond ++ ['Z'])

/-- The moment as shown in lists, to the second. -/
def display (t : Timestamp) : String := String.ofList (t.dateTimeText ' ')

/-! ## Reading -/

def skipBlanks (cs : List Char) : List Char := cs.dropWhile Text.isBlank

/-- A number of at least one and, where a width is given, at most that many digits. -/
def number? (width : Option Nat) (cs : List Char) : Option (Nat × List Char) :=
  let run := cs.takeWhile Decimal.isDigit
  let digits := match width with
    | some w => run.take w
    | none => run
  if digits.isEmpty then none else some (Decimal.natOfDigits digits, cs.drop digits.length)

/-- A number of up to two digits within bounds, blanks in front. -/
def field? (low high : Nat) (cs : List Char) : Option (Nat × List Char) :=
  (number? (some 2) (skipBlanks cs)).filter fun r => low ≤ r.1 && r.1 ≤ high

/-- A year: four digits at most, or any number behind a sign. -/
def year? (cs : List Char) : Option (Int × List Char) :=
  let year : Option (Int × List Char) := match skipBlanks cs with
    | '-' :: cs => (number? none cs).map fun (n, rest) => (-(n : Int), rest)
    | '+' :: cs => (number? none cs).map fun (n, rest) => ((n : Int), rest)
    | cs => (number? (some 4) cs).map fun (n, rest) => ((n : Int), rest)
  year.filter fun r => minYear ≤ r.1 && r.1 ≤ maxYear

/-- A character, blanks in front. -/
def mark? (c : Char) (cs : List Char) : Option (List Char) :=
  match skipBlanks cs with
  | d :: rest => if d = c then some rest else none
  | [] => none

/-- Fractions of a second; digits behind the ninth count for nothing. -/
def fraction? : List Char → Option (Nat × List Char)
  | '.' :: cs =>
    (number? (some 9) cs).map fun (n, rest) =>
      (n * Nat.pow 10 (9 - (cs.length - rest.length)), rest.dropWhile Decimal.isDigit)
  | cs => some (0, cs)

/-- Exactly two digits. -/
def twoDigits? : List Char → Option (Nat × List Char)
  | a :: b :: rest =>
    if Decimal.isDigit a && Decimal.isDigit b then some (Decimal.natOfDigits [a, b], rest) else none
  | _ => none

/-- Hours and minutes of an offset, with colons or blanks between them. -/
def offsetMinutes? (cs : List Char) : Option (Nat × List Char) := do
  let (hours, rest) ← twoDigits? cs
  let (minutes, rest) ← twoDigits? (rest.dropWhile fun c => c = ':' || Text.isBlank c)
  if hours < 24 && minutes < 60 then some (60 * hours + minutes, rest) else none

/-- The offset from UTC in minutes. -/
def offset? (cs : List Char) : Option (Int × List Char) :=
  let utc (c d : Char) : Bool := c = d || c.toNat = d.toNat + 32
  let signed (sign : Int) (cs : List Char) : Option (Int × List Char) :=
    (offsetMinutes? cs).map fun (n, rest) => (sign * n, rest)
  match skipBlanks cs with
  | 'Z' :: rest | 'z' :: rest => some (0, rest)
  | '+' :: rest => signed 1 rest
  | '-' :: rest | '\u2212' :: rest => signed (-1) rest
  | u :: t :: c :: rest => if utc u 'U' && utc t 'T' && utc c 'C' then some (0, rest) else none
  | _ => none

def ofChars? (cs : List Char) : Option Timestamp := do
  let (year, cs) ← year? cs
  let (month, cs) ← field? 1 12 (← mark? '-' cs)
  let (day, cs) ← field? 1 31 (← mark? '-' cs)
  guard (day ≤ daysInMonth year month)
  let cs ← match cs with
    | 'T' :: cs | 't' :: cs | ' ' :: cs => some cs
    | _ => none
  let (hour, cs) ← field? 0 23 cs
  let (minute, cs) ← field? 0 59 (← mark? ':' cs)
  let (second, cs) ← field? 0 60 (← mark? ':' cs)
  let (nanosecond, cs) ← fraction? cs
  let (offset, cs) ← offset? cs
  guard (skipBlanks cs).isEmpty
  let minutes := (daysFromMarch year month day - epochDay) * 1440 + hour * 60 + minute - offset
  let (utcYear, _, _) := civil (minutes / 1440)
  guard (minYear ≤ utcYear && utcYear ≤ maxYear)
  return ⟨minutes, second, nanosecond⟩

/-- Reads a date and time with an offset from UTC. -/
def ofText? (s : String) : Option Timestamp := ofChars? s.toList

end Timestamp

end FormBuilder
