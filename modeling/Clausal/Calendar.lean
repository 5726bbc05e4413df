/-!
Dates and times as text. Years from 0 to 9999 have four digits, all others a sign and at least four.
Fractions of a second are not written; a leap second is written as second 60.
-/

namespace Clausal.Calendar

/-- A number with zeros in front up to a width. -/
def padded (width n : Nat) : String :=
  let digits := Nat.toDigits 10 n
  String.ofList (List.replicate (width - digits.length) '0' ++ digits)

/-- The text of a year. -/
def yearText (year : Int) : String :=
  if 0 ≤ year ∧ year ≤ 9999 then padded 4 year.natAbs
  else (if year < 0 then "-" else "+") ++ padded 4 year.natAbs

/-- A day of the calendar that is extended to all years. -/
structure Date where
  year : Int
  month : Nat
  day : Nat
deriving DecidableEq

/-- A time of day; a thousand million nanoseconds or more mark a leap second. -/
structure Time where
  hour : Nat
  minute : Nat
  second : Nat
  nanosecond : Nat := 0
deriving DecidableEq

/-- Years of 366 days. -/
def isLeapYear (year : Int) : Bool :=
  year % 4 == 0 && (year % 100 != 0 || year % 400 == 0)

/-- The number of days of a month; none for a number that is no month. -/
def daysInMonth (year : Int) : Nat → Nat
  | 1 | 3 | 5 | 7 | 8 | 10 | 12 => 31
  | 4 | 6 | 9 | 11 => 30
  | 2 => if isLeapYear year then 29 else 28
  | _ => 0

namespace Date

/-- Whether the day exists. -/
def exists? (d : Date) : Bool :=
  1 ≤ d.day && d.day ≤ daysInMonth d.year d.month

/-- The text of a day. -/
def text (d : Date) : String :=
  yearText d.year ++ "-" ++ padded 2 d.month ++ "-" ++ padded 2 d.day

/-- The day that lies a number of days after 1970-01-01. Years are counted from March on, so that a
leap day comes last, in spans of 400 years of 146097 days. -/
def ofEpochDays (days : Int) : Date :=
  let shifted := days + 719468
  let span := shifted / 146097
  let dayOfSpan := shifted % 146097
  let yearOfSpan :=
    (dayOfSpan - dayOfSpan / 1460 + dayOfSpan / 36524 - dayOfSpan / 146096) / 365
  let dayOfYear := dayOfSpan - (365 * yearOfSpan + yearOfSpan / 4 - yearOfSpan / 100)
  let monthFromMarch := (5 * dayOfYear + 2) / 153
  let day := dayOfYear - (153 * monthFromMarch + 2) / 5 + 1
  let month := if monthFromMarch < 10 then monthFromMarch + 3 else monthFromMarch - 9
  let year := yearOfSpan + span * 400 + (if month ≤ 2 then 1 else 0)
  ⟨year, month.toNat, day.toNat⟩

end Date

namespace Time

/-- Whether the time exists. -/
def exists? (t : Time) : Bool :=
  t.hour < 24 && t.minute < 60 && t.second < 60

/-- The text of a time of day. -/
def text (t : Time) : String :=
  padded 2 t.hour ++ ":" ++ padded 2 t.minute ++ ":" ++
    padded 2 (t.second + if t.nanosecond < 1000000000 then 0 else 1)

/-- The time of day a number of seconds after midnight. -/
def ofSeconds (seconds nanosecond : Nat) : Time :=
  ⟨seconds / 3600, seconds / 60 % 60, seconds % 60, nanosecond⟩

end Time

/-- The text of a day and a time of it. -/
def dateTimeText (d : Date) (t : Time) : String :=
  d.text ++ " " ++ t.text

/-- The text of an instant, given in seconds since the start of 1970. -/
def instantText (seconds : Int) (nanosecond : Nat) : String :=
  dateTimeText (.ofEpochDays (seconds / 86400)) (.ofSeconds (seconds % 86400).toNat nanosecond)

end Clausal.Calendar
