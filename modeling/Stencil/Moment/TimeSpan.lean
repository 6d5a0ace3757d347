/-!
# Spans of time

A signed span and its text `[-][d.]hh:mm:ss[.fffffff]`: days only when there are some, and a
fraction in units of a hundred nanoseconds only when it is not zero. What is finer is dropped.
-/

namespace Stencil

/-- A span of time with a sign. -/
structure TimeSpan where
  /-- Whether the span is written with a minus sign. -/
  negative : Bool
  /-- Its length in nanoseconds. -/
  nanoseconds : Nat
deriving DecidableEq, Repr

namespace TimeSpan

/-- How many nanoseconds make a second. -/
def nanosecondsInSecond : Nat := 1000000000

/-- The span of a whole number of seconds and some nanoseconds. -/
def ofSeconds (negative : Bool) (seconds nanoseconds : Nat) : TimeSpan :=
  ⟨negative, seconds * nanosecondsInSecond + nanoseconds⟩

/-- The span between two moments, as a signed number of nanoseconds. -/
def ofNanoseconds (nanoseconds : Int) : TimeSpan := ⟨nanoseconds < 0, nanoseconds.natAbs⟩

/-- A number with zeros before it up to a width. -/
def padded (width number : Nat) : String :=
  let digits := Nat.toDigits 10 number
  String.ofList (List.replicate (width - digits.length) '0' ++ digits)

/-- The whole units of a hundred nanoseconds. -/
def ticks (span : TimeSpan) : Nat := span.nanoseconds / 100

/-- The text of a span. -/
def text (span : TimeSpan) : String :=
  let seconds := span.nanoseconds / nanosecondsInSecond
  let days := seconds / 86400
  let fraction := span.ticks % 10000000
  (if span.negative then "-" else "") ++
    (if days = 0 then "" else toString days ++ ".") ++
    padded 2 (seconds % 86400 / 3600) ++ ":" ++ padded 2 (seconds % 3600 / 60) ++ ":" ++
    padded 2 (seconds % 60) ++
    (if fraction = 0 then "" else "." ++ padded 7 fraction)

end TimeSpan

end Stencil
