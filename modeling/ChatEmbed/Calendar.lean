import ChatEmbed.Text.Decimal

/-!
# Calendar dates and times of day

The proleptic Gregorian calendar over all integers, in coordinated universal time.

* `yearStart` counts the days before a year, `Date.ofDay` finds the date of a day.
* `DateTime.ofSeconds` finds the date and time of a count of seconds since the start of 1970.
* `DateTime.write` is the written form, `YYYY-MM-DDTHH:MM:SSZ`.
-/

set_option autoImplicit false

namespace ChatEmbed
namespace Calendar

/-- Whether a year has 366 days. -/
def isLeap (year : Int) : Bool :=
  year % 4 = 0 && (year % 100 ≠ 0 || year % 400 = 0)

/-- The number of days from the start of year 0 to the start of the given year. -/
def yearStart (year : Int) : Int :=
  365 * year + (year + 3) / 4 - (year + 99) / 100 + (year + 399) / 400

/-- The lengths of the months of a year, January first. -/
def monthLengths (leap : Bool) : List Nat :=
  [31, if leap then 29 else 28, 31, 30, 31, 30, 31, 31, 30, 31, 30, 31]

/-- A day of the calendar. -/
structure Date where
  year : Int
  month : Nat
  day : Nat
deriving DecidableEq, Repr

/-- The month and the day of the month of a day counted from zero, given the number of the first
month in the list. -/
def monthDay : List Nat → Nat → Nat → Nat × Nat
  | [], month, day => (month, day + 1)
  | length :: rest, month, day =>
    if day < length then (month, day + 1) else monthDay rest (month + 1) (day - length)

/-- The year that a day falls in, days being counted from the start of year 0. A cycle of 400 years
has 146097 days; inside it the year is the day divided by 365, or the year before that. -/
def yearOfDay (day : Int) : Int :=
  let cycle := day / 146097
  let rest := day % 146097
  let guess := rest / 365
  400 * cycle + (if yearStart guess ≤ rest then guess else guess - 1)

/-- The date of a day, days being counted from the start of year 0. -/
def Date.ofDay (day : Int) : Date :=
  let year := yearOfDay day
  let (month, dayOfMonth) := monthDay (monthLengths (isLeap year)) 1 (day - yearStart year).toNat
  ⟨year, month, dayOfMonth⟩

/-- A day of the calendar and a time of that day. -/
structure DateTime where
  date : Date
  hour : Nat
  minute : Nat
  second : Nat
deriving DecidableEq, Repr

/-- The number of days from the start of year 0 to the start of 1970. -/
def epochDay : Int := yearStart 1970

/-- The date and time a count of seconds after the start of 1970. -/
def DateTime.ofSeconds (seconds : Int) : DateTime :=
  let time := (seconds % 86400).toNat
  ⟨Date.ofDay (epochDay + seconds / 86400), time / 3600, time / 60 % 60, time % 60⟩

/-! ## The written form -/

/-- A year from 0 to 9999 has four digits; any other has a sign and at least five digits above,
four below. -/
def writeYear : Int → Text
  | .ofNat n => if n ≤ 9999 then Text.padded 4 n else '+' :: Text.padded 5 n
  | .negSucc n => '-' :: Text.padded 4 (n + 1)

/-- The written form of a date. -/
def Date.write (d : Date) : Text :=
  writeYear d.year ++ '-' :: Text.padded 2 d.month ++ '-' :: Text.padded 2 d.day

/-- The written form of a date and time, in universal time. -/
def DateTime.write (t : DateTime) : Text :=
  t.date.write ++ 'T' :: Text.padded 2 t.hour ++ ':' :: Text.padded 2 t.minute ++
    ':' :: Text.padded 2 t.second ++ ['Z']

example : (DateTime.ofSeconds 1600000000).write = "2020-09-13T12:26:40Z".toList := by decide

end Calendar
end ChatEmbed
