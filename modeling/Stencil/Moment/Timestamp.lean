import Stencil.Moment.TimeSpan

/-!
# Timestamps

A moment shown at an offset from universal time, and its RFC 3339 text: the date of the Gregorian
calendar, the time of day with a fraction of zero, three, six or nine digits, and the offset in
hours and minutes. A year outside 0000 to 9999 has a sign.
-/

namespace Stencil

/-- A day of the Gregorian calendar. -/
structure CalendarDay where
  /-- The year; the year before year one is year zero. -/
  year : Int
  /-- The month, from one. -/
  month : Nat
  /-- The day of the month, from one. -/
  day : Nat
deriving DecidableEq, Repr

/-- A moment as it is shown somewhere. -/
structure Timestamp where
  /-- Seconds since the start of 1970 in universal time. -/
  seconds : Int
  /-- Nanoseconds within the second; a thousand million or more within a leap second. -/
  nanoseconds : Nat
  /-- How many seconds local time is ahead of universal time. -/
  offset : Int
deriving DecidableEq, Repr

namespace CalendarDay

/-- Days in the four hundred years after which the calendar repeats. -/
def daysInCycle : Nat := 146097

/-- The day a number of days after the start of 1970. Years are counted from March, so that the
day that leap years add is the last one of its year. -/
def ofDays (days : Int) : CalendarDay :=
  let shifted := days + 719468
  let cycle := shifted / daysInCycle
  let dayOfCycle := (shifted % daysInCycle).toNat
  let yearOfCycle :=
    (dayOfCycle - dayOfCycle / 1460 + dayOfCycle / 36524 - dayOfCycle / 146096) / 365
  let dayOfYear := dayOfCycle - (365 * yearOfCycle + yearOfCycle / 4 - yearOfCycle / 100)
  let shiftedMonth := (5 * dayOfYear + 2) / 153
  let day := dayOfYear - (153 * shiftedMonth + 2) / 5 + 1
  let month := if shiftedMonth < 10 then shiftedMonth + 3 else shiftedMonth - 9
  let year := cycle * 400 + yearOfCycle
  ⟨if month ≤ 2 then year + 1 else year, month, day⟩

/-- The year of a date: four digits at least, and a sign when it is no year of four digits. -/
def yearText (year : Int) : String :=
  let digits := TimeSpan.padded 4 year.natAbs
  if year < 0 then "-" ++ digits else if 9999 < year then "+" ++ digits else digits

/-- The text of a day. -/
def text (day : CalendarDay) : String :=
  yearText day.year ++ "-" ++ TimeSpan.padded 2 day.month ++ "-" ++ TimeSpan.padded 2 day.day

end CalendarDay

namespace Timestamp

/-- The fraction of a second in the fewest groups of three digits. -/
def fractionText (nanoseconds : Nat) : String :=
  if nanoseconds = 0 then ""
  else if nanoseconds % 1000000 = 0 then "." ++ TimeSpan.padded 3 (nanoseconds / 1000000)
  else if nanoseconds % 1000 = 0 then "." ++ TimeSpan.padded 6 (nanoseconds / 1000)
  else "." ++ TimeSpan.padded 9 nanoseconds

/-- An offset in hours and minutes, to the nearest minute. -/
def offsetText (offset : Int) : String :=
  let minutes := (offset.natAbs + 30) / 60
  (if offset < 0 then "-" else "+") ++ TimeSpan.padded 2 (minutes / 60) ++ ":" ++
    TimeSpan.padded 2 (minutes % 60)

/-- The text of a timestamp. -/
def text (moment : Timestamp) : String :=
  let shown := moment.seconds + moment.offset
  let second := (shown % 86400).toNat
  (CalendarDay.ofDays (shown / 86400)).text ++ "T" ++ TimeSpan.padded 2 (second / 3600) ++ ":" ++
    TimeSpan.padded 2 (second % 3600 / 60) ++ ":" ++
    TimeSpan.padded 2 (second % 60 + moment.nanoseconds / TimeSpan.nanosecondsInSecond) ++
    fractionText (moment.nanoseconds % TimeSpan.nanosecondsInSecond) ++
    offsetText moment.offset

end Timestamp

end Stencil
