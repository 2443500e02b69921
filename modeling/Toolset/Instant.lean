/-!
# Points in time

An instant is a date and a time of day in the calendar of the standard, with
the distance from universal time if that is known.
-/

namespace Toolset

/-- A date and a time of day. -/
structure Instant where
  year : Nat
  month : Nat
  day : Nat
  hour : Nat := 0
  minute : Nat := 0
  second : Nat := 0
  microsecond : Nat := 0
  /-- The seconds by which the clock is ahead of universal time. -/
  offset : Option Int := none
  deriving DecidableEq, Repr, Inhabited

namespace Instant

/-- A year with a twenty-ninth of February. -/
def isLeap (year : Nat) : Bool := (year % 4 == 0 && year % 100 != 0) || year % 400 == 0

/-- The number of days of a month; there are none outside the twelve. -/
def monthDays (year month : Nat) : Nat :=
  if month = 2 then (if isLeap year then 29 else 28)
  else if month ∈ [4, 6, 9, 11] then 30
  else if 1 ≤ month ∧ month ≤ 12 then 31
  else 0

/-- The date of a day, counted from the first of January 1970. A year is
counted from March, so that the leap day is its last; four hundred years are
one cycle. -/
def dateOfDay (day : Int) : Nat × Nat × Nat :=
  let shifted := day + 719468
  let cycle := shifted.fdiv 146097
  let inCycle := (shifted - cycle * 146097).toNat
  let yearOfCycle := (inCycle - inCycle / 1460 + inCycle / 36524 - inCycle / 146096) / 365
  let inYear := inCycle - (365 * yearOfCycle + yearOfCycle / 4 - yearOfCycle / 100)
  let monthOfYear := (5 * inYear + 2) / 153
  let dayOfMonth := inYear - (153 * monthOfYear + 2) / 5 + 1
  let month := if monthOfYear < 10 then monthOfYear + 3 else monthOfYear - 9
  let year := cycle * 400 + yearOfCycle + (if month ≤ 2 then 1 else 0)
  (year.toNat, month, dayOfMonth)

/-- The instant so many seconds after the start of 1970, in universal time. -/
def ofUnix (seconds : Int) (microsecond : Nat) : Instant :=
  let day := seconds.fdiv 86400
  let time := (seconds - day * 86400).toNat
  let (year, month, dayOfMonth) := dateOfDay day
  { year, month, day := dayOfMonth, hour := time / 3600, minute := time / 60 % 60,
    second := time % 60, microsecond, offset := some 0 }

/-- A number in so many digits. -/
def padded (width n : Nat) : String :=
  let digits := Nat.toDigits 10 n
  String.ofList (List.replicate (width - digits.length) '0' ++ digits)

/-- The distance from universal time, in hours and minutes. -/
def offsetText (seconds : Int) : String :=
  let minutes := seconds.natAbs / 60
  (if seconds < 0 then "-" else "+") ++ padded 2 (minutes / 60) ++ ":" ++ padded 2 (minutes % 60)

/-- An instant as it is written; a fraction of zero is left out. -/
def text (t : Instant) : String :=
  padded 4 t.year ++ "-" ++ padded 2 t.month ++ "-" ++ padded 2 t.day ++ "T" ++
    padded 2 t.hour ++ ":" ++ padded 2 t.minute ++ ":" ++ padded 2 t.second ++
    (if t.microsecond = 0 then "" else "." ++ padded 6 t.microsecond) ++
    (match t.offset with
      | none => ""
      | some seconds => offsetText seconds)

example : (ofUnix 1700000000 250000).text = "2023-11-14T22:13:20.250000+00:00" := by decide +kernel
example : (ofUnix (-1) 0).text = "1969-12-31T23:59:59+00:00" := by decide +kernel

end Instant

end Toolset
