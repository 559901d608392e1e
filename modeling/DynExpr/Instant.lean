import DynExpr.Calendar
import DynExpr.Numeral

/-! # Instants

    An instant is a second of universal time, counted from the start of 1970,
    with nanoseconds. Nanoseconds from `10 ^ 9` on lie in a leap second, which
    only the last second of a minute can have.

    * **Order**: by second, then by nanosecond.
    * **Text**: date and time of day with `T` between and `Z` behind. Years
      outside 0 to 9999 carry a sign. The fraction has 0, 3, 6 or 9 digits,
      the fewest that are exact, and a leap second is written as second 60.
-/

namespace DynExpr

/-- A point in time. -/
structure Instant where
  /-- Whole seconds since the start of 1970. -/
  seconds : Int
  /-- Nanoseconds within the second. -/
  nanos : Nat
  /-- Only the last second of a minute can be followed by a leap second. -/
  nanos_lt : nanos < 10 ^ 9 ∨ (nanos < 2 * 10 ^ 9 ∧ seconds % 60 = 59)
deriving DecidableEq

namespace Instant

/-- The instant of these seconds and nanoseconds, if there is one. -/
def of? (seconds : Int) (nanos : Nat) : Option Instant :=
  if h : nanos < 10 ^ 9 ∨ (nanos < 2 * 10 ^ 9 ∧ seconds % 60 = 59) then
    some ⟨seconds, nanos, h⟩
  else none

/-- The order in time. -/
def compare (a b : Instant) : Ordering :=
  (Ord.compare a.seconds b.seconds).then (Ord.compare a.nanos b.nanos)

/-! ### Text -/

/-- A year: four digits from 0 to 9999, and a sign with at least four digits otherwise. -/
def yearText (year : Int) : List Char :=
  if year < 0 then '-' :: Numeral.padded 4 year.natAbs
  else if year < 10000 then Numeral.padded 4 year.toNat
  else '+' :: Numeral.padded 4 year.toNat

/-- The date. -/
def dateText (d : Date) : List Char :=
  yearText d.year ++ '-' :: Numeral.padded 2 d.month ++ '-' :: Numeral.padded 2 d.day

/-- The time of day, from seconds since midnight; a leap second is second 60. -/
def timeText (second : Nat) (leap : Bool) : List Char :=
  let inMinute := if leap then 60 else second % 60
  Numeral.padded 2 (second / 3600) ++ ':' :: Numeral.padded 2 (second / 60 % 60) ++
    ':' :: Numeral.padded 2 inMinute

/-- The fraction of a second, in the fewest groups of three digits that are exact. -/
def fractionText (nanos : Nat) : List Char :=
  if nanos = 0 then []
  else if nanos % 10 ^ 6 = 0 then '.' :: Numeral.padded 3 (nanos / 10 ^ 6)
  else if nanos % 10 ^ 3 = 0 then '.' :: Numeral.padded 6 (nanos / 10 ^ 3)
  else '.' :: Numeral.padded 9 nanos

/-- The text of an instant. -/
def text (t : Instant) : List Char :=
  let day := t.seconds / 86400
  let second := (t.seconds % 86400).toNat
  let leap := decide (10 ^ 9 ≤ t.nanos)
  dateText (Date.ofDay day) ++ 'T' :: timeText second leap ++
    fractionText (t.nanos % 10 ^ 9) ++ ['Z']

end Instant

end DynExpr
