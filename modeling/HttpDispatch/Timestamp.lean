/-!
# Timestamps

A moment is a number of milliseconds since the start of 1970, of either sign, and is written in
the form `2023-11-14T22:13:20.000Z`.  The calendar is the Gregorian one, continued in both
directions.  A year outside four digits is written with a sign and six digits.

Days are counted from the first of March of the year 0, so that a leap day is the last of its
year; four hundred years have 146097 days.
-/

namespace HttpDispatch.Timestamp

/-- The decimal digits of a number, filled up with zeros to a width. -/
def padded (width n : Nat) : String :=
  let ds := Nat.toDigits 10 n
  String.ofList (List.replicate (width - ds.length) '0' ++ ds)

/-- A date of the calendar. -/
structure Date where
  year : Int
  month : Nat
  day : Nat
deriving DecidableEq, Repr

/-- The date of a day, counted from the start of 1970. -/
def dateOfDay (day : Int) : Date :=
  let fromMarch := day + 719468
  let era := fromMarch / 146097
  let dayOfEra := (fromMarch % 146097).toNat
  let yearOfEra := (dayOfEra - dayOfEra / 1460 + dayOfEra / 36524 - dayOfEra / 146096) / 365
  let dayOfYear := dayOfEra - (365 * yearOfEra + yearOfEra / 4 - yearOfEra / 100)
  let monthFromMarch := (5 * dayOfYear + 2) / 153
  let month := if monthFromMarch < 10 then monthFromMarch + 3 else monthFromMarch - 9
  { year := era * 400 + yearOfEra + (if month ≤ 2 then 1 else 0)
    month := month
    day := dayOfYear - (153 * monthFromMarch + 2) / 5 + 1 }

/-- A year, in four digits or with a sign and six. -/
def yearText (year : Int) : String :=
  if 0 ≤ year ∧ year ≤ 9999 then padded 4 year.toNat
  else (if year < 0 then "-" else "+") ++ padded 6 year.natAbs

/-- The text of a moment. -/
def text (milliseconds : Int) : String :=
  let date := dateOfDay (milliseconds / 86400000)
  let time := (milliseconds % 86400000).toNat
  yearText date.year ++ "-" ++ padded 2 date.month ++ "-" ++ padded 2 date.day ++ "T" ++
    padded 2 (time / 3600000) ++ ":" ++ padded 2 (time / 60000 % 60) ++ ":" ++
    padded 2 (time / 1000 % 60) ++ "." ++ padded 3 (time % 1000) ++ "Z"

end HttpDispatch.Timestamp
