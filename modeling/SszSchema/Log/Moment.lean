import SszSchema.Text.Blank

/-!
# Moments

A moment is written as date and time of day in coordinated universal time, to the millisecond. The
date follows from the days since the beginning of 1970 by the rules of leap years.
-/

namespace SszSchema.Moment

/-- A number with at least `width` digits. -/
def digits (width n : Nat) : String :=
  let text := toString n
  String.ofList (List.replicate (width - text.length) '0') ++ text

/-- Whether a year has a leap day. -/
def isLeap (year : Nat) : Bool := year % 4 = 0 && (year % 100 ≠ 0 || year % 400 = 0)

/-- The days of a year. -/
def yearLength (year : Nat) : Nat := if isLeap year then 366 else 365

/-- The days of the months of a year. -/
def monthLengths (year : Nat) : List Nat :=
  [31, if isLeap year then 29 else 28, 31, 30, 31, 30, 31, 31, 30, 31, 30, 31]

/-- The year that a day falls into, and the days before it in that year; the fuel bounds how many
years are passed. -/
def yearOf : Nat → Nat → Nat → Nat × Nat
  | 0, year, day => (year, day)
  | fuel + 1, year, day =>
      if day < yearLength year then (year, day) else yearOf fuel (year + 1) (day - yearLength year)

/-- The month that a day of a year falls into, and the days before it in that month. -/
def monthOf : List Nat → Nat → Nat → Nat × Nat
  | [], month, day => (month, day)
  | length :: rest, month, day =>
      if day < length then (month, day) else monthOf rest (month + 1) (day - length)

/-- The date of a day since the beginning of 1970. -/
def date (day : Nat) : String :=
  let (year, day) := yearOf day 1970 day
  let (month, day) := monthOf (monthLengths year) 1 day
  digits 4 year ++ "-" ++ digits 2 month ++ "-" ++ digits 2 (day + 1)

/-- The time of day of a number of milliseconds. -/
def timeOfDay (ms : Nat) : String :=
  digits 2 (ms / 3600000) ++ ":" ++ digits 2 (ms / 60000 % 60) ++ ":" ++
    digits 2 (ms / 1000 % 60) ++ "." ++ digits 3 (ms % 1000)

/-- A moment given in milliseconds since the beginning of 1970. -/
def text (ms : Nat) : String :=
  date (ms / 86400000) ++ "T" ++ timeOfDay (ms % 86400000) ++ "+00:00"

end SszSchema.Moment
