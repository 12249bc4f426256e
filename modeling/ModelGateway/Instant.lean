import ModelGateway.Text.Blank
import ModelGateway.Text.Search

/-!
# Instants

Points of time as RFC 3339 writes them: read with any offset, written in UTC with milliseconds.  A
leap second is the second 59 with a thousand million nanoseconds more.  `parseLoose?` also reads
what people write: fewer digits, years of any length after a sign, and blanks between the parts.
-/

namespace ModelGateway

/-- Seconds since 1970-01-01 00:00:00 UTC, and nanoseconds. -/
structure Instant where
  seconds : Int
  nanos : Nat
  deriving DecidableEq, Repr

namespace Instant

def isLeapYear (y : Int) : Bool :=
  y % 4 == 0 && (y % 100 != 0 || y % 400 == 0)

def daysInMonth (year : Int) (month : Nat) : Nat :=
  match month with
  | 2 => if isLeapYear year then 29 else 28
  | 4 | 6 | 9 | 11 => 30
  | _ => 31

/-- Days since 1970-01-01 of a date; years are counted from March, so that a leap day comes last. -/
def daysOfDate (year : Int) (month day : Nat) : Int :=
  let y := if month ≤ 2 then year - 1 else year
  let era := y / 400
  let yearOfEra := y % 400
  let shifted : Int := (month + 9) % 12
  let dayOfYear := (153 * shifted + 2) / 5 + (day : Int) - 1
  let dayOfEra := yearOfEra * 365 + yearOfEra / 4 - yearOfEra / 100 + dayOfYear
  era * 146097 + dayOfEra - 719468

def dateOfDays (days : Int) : Int × Nat × Nat :=
  let z := days + 719468
  let era := z / 146097
  let dayOfEra := z % 146097
  let yearOfEra := (dayOfEra - dayOfEra / 1460 + dayOfEra / 36524 - dayOfEra / 146096) / 365
  let dayOfYear := dayOfEra - (365 * yearOfEra + yearOfEra / 4 - yearOfEra / 100)
  let shifted := (5 * dayOfYear + 2) / 153
  let day := (dayOfYear - (153 * shifted + 2) / 5 + 1).toNat
  let month := (if shifted < 10 then shifted + 3 else shifted - 9).toNat
  let year := yearOfEra + era * 400
  (if month ≤ 2 then year + 1 else year, month, day)

def digit? (c : Char) : Option Nat :=
  if c.isDigit then some (c.toNat - '0'.toNat) else none

def twoDigits? : List Char → Option (Nat × List Char)
  | a :: b :: rest => do some ((← digit? a) * 10 + (← digit? b), rest)
  | _ => none

def fourDigits? (cs : List Char) : Option (Nat × List Char) := do
  let (high, rest) ← twoDigits? cs
  let (low, rest) ← twoDigits? rest
  some (high * 100 + low, rest)

def mark? (isMark : Char → Bool) : List Char → Option (List Char)
  | c :: rest => if isMark c then some rest else none
  | [] => none

/-- Fractional digits as nanoseconds; digits after the ninth are passed over. -/
def nanosOf (digits : List Char) : Nat :=
  let taken := digits.take 9
  taken.foldl (fun n c => n * 10 + (c.toNat - '0'.toNat)) 0 * Nat.pow 10 (9 - taken.length)

def fraction? : List Char → Option (Nat × List Char)
  | '.' :: rest =>
    let digits := rest.takeWhile Char.isDigit
    if digits.isEmpty then none else some (nanosOf digits, rest.dropWhile Char.isDigit)
  | rest => some (0, rest)

/-- An offset from UTC in seconds, less than a day.  The minus may be the sign U+2212. -/
def offset? (cs : List Char) : Option (Int × List Char) :=
  match cs with
  | [] => none
  | sign :: rest =>
    if sign = 'Z' ∨ sign = 'z' then some (0, rest)
    else if sign = '+' ∨ sign = '-' ∨ sign = '\u2212' then do
      let (hours, rest) ← twoDigits? rest
      let rest ← mark? (· == ':') rest
      let (minutes, rest) ← twoDigits? rest
      if 23 < hours ∨ 59 < minutes then none
      let seconds : Int := hours * 3600 + minutes * 60
      some (if sign = '+' then seconds else -seconds, rest)
    else none

/-- The instant of a date and a time of day, if there is such a date and such a time. -/
def ofCivil? (year : Int) (month day hour minute second nanos : Nat) (offset : Int) :
    Option Instant :=
  if month < 1 ∨ 12 < month ∨ day < 1 ∨ daysInMonth year month < day then none
  else if 23 < hour ∨ 59 < minute ∨ 60 < second then none
  else
    let leap := second = 60
    let inDay : Int := hour * 3600 + minute * 60 + (if leap then 59 else second : Nat)
    some ⟨daysOfDate year month day * 86400 + inDay - offset,
      if leap then nanos + 1000000000 else nanos⟩

def isDateMark (c : Char) : Bool := c == 'T' || c == 't' || c == ' '

def parse? (s : String) : Option Instant := do
  let (year, rest) ← fourDigits? s.toList
  let rest ← mark? (· == '-') rest
  let (month, rest) ← twoDigits? rest
  let rest ← mark? (· == '-') rest
  let (day, rest) ← twoDigits? rest
  let rest ← mark? isDateMark rest
  let (hour, rest) ← twoDigits? rest
  let rest ← mark? (· == ':') rest
  let (minute, rest) ← twoDigits? rest
  let rest ← mark? (· == ':') rest
  let (second, rest) ← twoDigits? rest
  let (nanos, rest) ← fraction? rest
  let (offset, rest) ← offset? rest
  if rest.isEmpty then ofCivil? year month day hour minute second nanos offset else none

def number? (width : Nat) (cs : List Char) : Option (Nat × List Char) :=
  let digits := (cs.take width).takeWhile Char.isDigit
  if digits.isEmpty then none
  else
    some (digits.foldl (fun n c => n * 10 + (c.toNat - '0'.toNat)) 0, cs.drop digits.length)

/-- A year of at most four digits, or one of any number of digits after a sign. -/
def year? : List Char → Option (Int × List Char)
  | '-' :: rest => (number? rest.length rest).map fun (n, rest) => (-(n : Int), rest)
  | '+' :: rest => (number? rest.length rest).map fun (n, rest) => (n, rest)
  | cs => (number? 4 cs).map fun (n, rest) => (n, rest)

def spacedMark? (mark : Char) (cs : List Char) : Option (List Char) :=
  (mark? (· == mark) (Text.trimLeft cs)).map Text.trimLeft

/-- `UTC`, or an offset that may have colons and blanks, or nothing, between hours and minutes. -/
def looseOffset? (cs : List Char) : Option (Int × List Char) :=
  if Text.lowerAscii (String.ofList (cs.take 3)) = "utc" then some (0, cs.drop 3)
  else
    match cs with
    | sign :: h :: h' :: rest =>
      if sign = 'Z' ∨ sign = 'z' then offset? cs
      else
        let minutes := rest.dropWhile fun c => c == ':' || Text.isBlank c
        offset? (sign :: h :: h' :: ':' :: minutes)
    | _ => offset? cs

def firstYear : Int := -262143

def lastYear : Int := 262142

/-- Whether the date of an instant, in UTC, is within the calendar. -/
def isInCalendar (t : Instant) : Bool :=
  let (year, _, _) := dateOfDays (t.seconds / 86400)
  firstYear ≤ year && year ≤ lastYear

/-- Reads a date, a time and an offset, with blanks between all of their parts. -/
def parseLoose? (s : String) : Option Instant := do
  let (year, rest) ← year? (Text.trimLeft s.toList)
  let rest ← spacedMark? '-' rest
  let (month, rest) ← number? 2 rest
  let rest ← spacedMark? '-' rest
  let (day, rest) ← number? 2 rest
  let rest ← mark? isDateMark rest
  let (hour, rest) ← number? 2 (Text.trimLeft rest)
  let rest ← spacedMark? ':' rest
  let (minute, rest) ← number? 2 rest
  let rest ← spacedMark? ':' rest
  let (second, rest) ← number? 2 rest
  let (nanos, rest) ← fraction? rest
  let (offset, rest) ← looseOffset? (Text.trimLeft rest)
  if year < firstYear ∨ lastYear < year ∨ !rest.all Text.isBlank then none
  (ofCivil? year month day hour minute second nanos offset).filter isInCalendar

def padded (width n : Nat) : String :=
  let digits := Nat.repr n
  String.ofList (List.replicate (width - digits.length) '0') ++ digits

/-- Years beyond four digits and those before the year 0 carry a sign. -/
def yearText (y : Int) : String :=
  if 0 ≤ y ∧ y ≤ 9999 then padded 4 y.toNat
  else if y < 0 then "-" ++ padded 4 (-y).toNat
  else "+" ++ padded 4 y.toNat

/-- Nanoseconds within the second; those of a leap second count from its start. -/
def nanosInSecond (t : Instant) : Nat :=
  t.nanos % 1000000000

def secondsText (t : Instant) : String :=
  let (year, month, day) := dateOfDays (t.seconds / 86400)
  let inDay := (t.seconds % 86400).toNat
  let second := inDay % 60 + if 1000000000 ≤ t.nanos then 1 else 0
  yearText year ++ "-" ++ padded 2 month ++ "-" ++ padded 2 day ++ "T" ++
    padded 2 (inDay / 3600) ++ ":" ++ padded 2 (inDay / 60 % 60) ++ ":" ++ padded 2 second

/-- The instant with three fractional digits, the rest cut off. -/
def text (t : Instant) : String :=
  t.secondsText ++ "." ++ padded 3 (t.nanosInSecond / 1000000) ++ "Z"

/-- The fewest of no, three, six and nine fractional digits that lose nothing. -/
def shortFraction (nanos : Nat) : String :=
  if nanos = 0 then ""
  else if nanos % 1000000 = 0 then "." ++ padded 3 (nanos / 1000000)
  else if nanos % 1000 = 0 then "." ++ padded 6 (nanos / 1000)
  else "." ++ padded 9 nanos

def exactText (t : Instant) : String :=
  t.secondsText ++ shortFraction t.nanosInSecond ++ "Z"

/-- The seconds that the clock can count, less some that it has counted already. -/
def countableSecs : Nat := 0x7FFFFFFFFFFE0000

end Instant

end ModelGateway
