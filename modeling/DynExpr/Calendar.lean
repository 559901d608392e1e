/-! # The proleptic Gregorian calendar

    Days are numbered from 1970-01-01, which is day 0; earlier days have
    negative numbers. `Date.ofDay` finds the date of a day and `Date.toDay`
    the day of a date; years may be zero or negative.

    * **Years**: `yearStart y` is the number of the first day of year `y`.
      `yearOf` estimates the year from the average length of a year and then
      corrects the estimate by at most one.
    * **Months**: a day within a year is counted off against the lengths of
      the months.
-/

namespace DynExpr

namespace Calendar

/-- Every fourth year is a leap year, except the centuries not divisible by 400. -/
def isLeap (year : Int) : Bool :=
  decide (year % 4 = 0 ∧ (year % 100 ≠ 0 ∨ year % 400 = 0))

/-- The number of leap years before a year, counted from year 1; negative before that. -/
def leapsBefore (year : Int) : Int :=
  (year - 1) / 4 - (year - 1) / 100 + (year - 1) / 400

/-- The number of the first day of a year. -/
def yearStart (year : Int) : Int :=
  365 * (year - 1970) + leapsBefore year - leapsBefore 1970

/-- The year to which a day belongs. Four hundred years have 146097 days. -/
def yearOf (day : Int) : Int :=
  let guess := 1970 + day * 400 / 146097
  if day < yearStart guess then guess - 1
  else if day < yearStart (guess + 1) then guess
  else guess + 1

/-- Leap years are 97 in 400, up to less than two of them. -/
theorem leapsBefore_bounds (year : Int) :
    97 * (year - 1) - 591 ≤ 400 * leapsBefore year ∧
      400 * leapsBefore year ≤ 97 * (year - 1) + 288 := by
  unfold leapsBefore
  omega

/-- The year of a day has begun by that day, and the next one has not. -/
theorem yearStart_yearOf (day : Int) :
    yearStart (yearOf day) ≤ day ∧ day < yearStart (yearOf day + 1) := by
  have before := leapsBefore_bounds (1970 + day * 400 / 146097 - 1)
  have here := leapsBefore_bounds (1970 + day * 400 / 146097)
  have next := leapsBefore_bounds (1970 + day * 400 / 146097 + 1)
  have later := leapsBefore_bounds (1970 + day * 400 / 146097 + 1 + 1)
  have epoch : leapsBefore 1970 = 477 := by decide
  unfold yearOf
  simp only [yearStart, epoch] at *
  split
  · simp only [Int.sub_add_cancel] at *
    omega
  · split <;> omega

/-- The lengths of the months, January first. -/
def monthLengths (year : Int) : List Nat :=
  [31, if isLeap year then 29 else 28, 31, 30, 31, 30, 31, 31, 30, 31, 30, 31]

/-- Counts a day off against month lengths: how many whole months lie before it, and how many
    days of the month that it is in. -/
def countOff : List Nat → Nat → Nat × Nat
  | [], day => (0, day)
  | length :: later, day =>
    if day < length then (0, day)
    else
      let (months, rest) := countOff later (day - length)
      (months + 1, rest)

end Calendar

/-- A date; month and day count from 1. -/
structure Date where
  year : Int
  month : Nat
  day : Nat
deriving DecidableEq

namespace Date

open Calendar

/-- The date of a numbered day. -/
def ofDay (n : Int) : Date :=
  let year := yearOf n
  let (months, days) := countOff (monthLengths year) (n - yearStart year).toNat
  ⟨year, months + 1, days + 1⟩

/-- The number of the day on which a date falls. -/
def toDay (d : Date) : Int :=
  let before := ((monthLengths d.year).take (d.month - 1)).foldl Nat.add 0
  yearStart d.year + before + (d.day - 1)

end Date

end DynExpr
