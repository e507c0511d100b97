import Tandem.Text.Numeral

/-! # Timestamps

A moment is a number of nanoseconds since the start of 1970. It is written as a date and a time of day,
with as many digits of the second as tell it exactly, three at a time. -/

namespace Tandem.Text

/-- A day of the calendar. -/
structure Date where
  year : Nat
  month : Nat
  day : Nat
  deriving DecidableEq, Repr

/-- The date of a day by its number, the first of 1970 being number 0. -/
def Date.ofDay (number : Nat) : Date :=
  -- years that begin in March have the day that comes and goes at their end, and after 400 of them all
  -- begins again
  let since := number + 719468
  let inEra := since % 146097
  let year := (inEra - inEra / 1460 + inEra / 36524 - inEra / 146096) / 365
  let inYear := inEra - (365 * year + year / 4 - year / 100)
  -- five months in a row from March or August on have 153 days
  let month := (5 * inYear + 2) / 153
  { year := since / 146097 * 400 + year + (if month < 10 then 0 else 1)
    month := if month < 10 then month + 3 else month - 9
    day := inYear - (153 * month + 2) / 5 + 1 }

example : [0, 11016, 19782, 20148].map Date.ofDay =
    [⟨1970, 1, 1⟩, ⟨2000, 2, 29⟩, ⟨2024, 2, 29⟩, ⟨2025, 3, 1⟩] := by decide

/-- A number with at least two digits. -/
def twoDigits (n : Nat) : String := zeroPadded 2 (decimal n)

/-- A date as text. A year with more than four digits has a sign. -/
def Date.text (date : Date) : String :=
  (if date.year < 10000 then zeroPadded 4 (decimal date.year) else "+" ++ decimal date.year) ++
    "-" ++ twoDigits date.month ++ "-" ++ twoDigits date.day

/-- The part of a second behind its point, if there is one. -/
def fraction (nanoseconds : Nat) : String :=
  if nanoseconds = 0 then ""
  else if nanoseconds % 1000000 = 0 then "." ++ zeroPadded 3 (decimal (nanoseconds / 1000000))
  else if nanoseconds % 1000 = 0 then "." ++ zeroPadded 6 (decimal (nanoseconds / 1000))
  else "." ++ zeroPadded 9 (decimal nanoseconds)

/-- A moment as text. -/
def timestamp (nanoseconds : Nat) : String :=
  let seconds := nanoseconds / 1000000000
  (Date.ofDay (seconds / 86400)).text ++ "T" ++ twoDigits (seconds / 3600 % 24) ++ ":" ++
    twoDigits (seconds / 60 % 60) ++ ":" ++ twoDigits (seconds % 60) ++
    fraction (nanoseconds % 1000000000) ++ "Z"

end Tandem.Text
