import DynExpr.Proofs.Time.Calendar
import Mathlib.Tactic.IntervalCases
import Mathlib.Tactic.SplitIfs

/-! # The calendar, day by day

    The calendar told as it is counted: 1970-01-01 is day 0, and every date
    has a next one, by the lengths of the months and the leap years.

    * **Dates**: `Date.Valid` says which dates there are, and `Date.next` is
      the date after one. `Date.FallsOn` counts days forwards and backwards
      from day 0.
    * **Days**: the number of the next date is one more
      (`Date.Valid.toDay_next`), and a date that there is comes back from its
      number (`Date.Valid.ofDay_toDay`).

    So the date computed for a day is the one on which counting arrives
    (`Date.fallsOn_iff`).
-/

namespace DynExpr

namespace Calendar

/-- How many days a month has; months count from 1. -/
def monthLength (year : Int) (month : Nat) : Nat := (monthLengths year).getD (month - 1) 0

/-! ### Years -/

theorem yearStart_succ (year : Int) :
    yearStart (year + 1) = yearStart year + if isLeap year then 366 else 365 := by
  unfold yearStart leapsBefore isLeap
  simp only [decide_eq_true_eq]
  split_ifs
  all_goals omega

theorem yearStart_mono {year later : Int} (h : year ≤ later) : yearStart year ≤ yearStart later := by
  unfold yearStart leapsBefore
  omega

/-- A day belongs to the year that has begun by then and is not over. -/
theorem yearOf_eq {year day : Int} (hbegun : yearStart year ≤ day)
    (hover : day < yearStart (year + 1)) : yearOf day = year := by
  obtain ⟨hlow, hhigh⟩ := yearStart_yearOf day
  by_contra hne
  rcases Int.lt_or_gt_of_ne hne with h | h
  · have hnext := yearStart_mono h
    omega
  · have hnext := yearStart_mono h
    omega

/-- The months make up the year. -/
theorem foldl_monthLengths (year : Int) :
    (monthLengths year).foldl Nat.add 0 = if isLeap year then 366 else 365 := by
  unfold monthLengths
  cases isLeap year <;> rfl

/-! ### Months -/

theorem le_foldl_add (start : Nat) (lengths : List Nat) :
    start ≤ lengths.foldl Nat.add start := by
  induction lengths generalizing start with
  | nil => exact Nat.le_refl start
  | cons length later ih => exact Nat.le_trans (Nat.le_add_right start length) (ih _)

/-- The days up to the end of a month are those up to its start and its own. -/
theorem foldl_take_succ {lengths : List Nat} {k : Nat} (h : k < lengths.length) :
    (lengths.take (k + 1)).foldl Nat.add 0 =
      (lengths.take k).foldl Nat.add 0 + lengths.getD k 0 := by
  rw [List.take_succ_eq_append_getElem h, List.foldl_append, List.getD_eq_getElem?_getD,
    List.getElem?_eq_getElem h]
  rfl

/-- Some of the months have no more days than all of them. -/
theorem foldl_take_le (lengths : List Nat) (k : Nat) :
    (lengths.take k).foldl Nat.add 0 ≤ lengths.foldl Nat.add 0 := by
  have hall : (lengths.take k ++ lengths.drop k).foldl Nat.add 0 = _ := List.foldl_append
  rw [List.take_append_drop] at hall
  rw [hall]
  exact le_foldl_add _ _

/-- A day within a month is counted off to the months before it. -/
theorem countOff_foldl_take (start : Nat) {lengths : List Nat} {k day : Nat}
    (h : day < lengths.getD k 0) :
    countOff lengths ((lengths.take k).foldl Nat.add start - start + day) = (k, day) := by
  induction lengths generalizing start k with
  | nil => cases h
  | cons length later ih =>
    cases k with
    | zero =>
      have hday : day < length := h
      rw [List.take_zero, List.foldl_nil, Nat.sub_self, Nat.zero_add, countOff, if_pos hday]
    | succ k =>
      have hstart := le_foldl_add (start + length) (later.take k)
      rw [List.take_succ_cons, List.foldl_cons]
      change countOff _ ((later.take k).foldl Nat.add (start + length) - start + day) = _
      rw [countOff_cons_of_not_lt later (by omega)]
      have hlater := ih (start + length) h
      have hrest : (later.take k).foldl Nat.add (start + length) - start + day - length =
          (later.take k).foldl Nat.add (start + length) - (start + length) + day := by
        omega
      rw [hrest, hlater]

/-- A day of the year is counted off within the month that it is in. -/
theorem countOff_lt (start : Nat) {lengths : List Nat} {day : Nat}
    (h : start + day < lengths.foldl Nat.add start) :
    (countOff lengths day).1 < lengths.length ∧
      (countOff lengths day).2 < lengths.getD (countOff lengths day).1 0 := by
  induction lengths generalizing start day with
  | nil => exact absurd h (Nat.not_lt.2 (Nat.le_add_right start day))
  | cons length later ih =>
    by_cases hday : day < length
    · rw [countOff, if_pos hday]
      exact ⟨Nat.succ_pos _, hday⟩
    · have hlater : start + length + (day - length) < later.foldl Nat.add (start + length) := by
        rw [List.foldl_cons] at h
        change _ < later.foldl Nat.add (start + length) at h
        omega
      obtain ⟨hmonth, hrest⟩ := ih (start + length) hlater
      rw [countOff_cons_of_not_lt later hday]
      exact ⟨Nat.succ_lt_succ hmonth, hrest⟩

theorem monthLength_pos (year : Int) {month : Nat} (hpos : 1 ≤ month) (hle : month ≤ 12) :
    0 < monthLength year month := by
  unfold monthLength monthLengths
  cases isLeap year <;> interval_cases month <;> decide

end Calendar

namespace Date

open Calendar

/-! ### Dates -/

/-- The date is one of the calendar. -/
structure Valid (d : Date) : Prop where
  month_pos : 1 ≤ d.month
  month_le : d.month ≤ 12
  day_pos : 1 ≤ d.day
  day_le : d.day ≤ monthLength d.year d.month

/-- The date after a date. -/
def next (d : Date) : Date :=
  if d.day < monthLength d.year d.month then ⟨d.year, d.month, d.day + 1⟩
  else if d.month < 12 then ⟨d.year, d.month + 1, 1⟩
  else ⟨d.year + 1, 1, 1⟩

/-- The day with a number falls on a date, counted from 1970-01-01. -/
inductive FallsOn : Int → Date → Prop where
  /-- Day 0. -/
  | epoch : FallsOn 0 ⟨1970, 1, 1⟩
  /-- One day on. -/
  | next {n : Int} {d : Date} (h : FallsOn n d) : FallsOn (n + 1) d.next
  /-- One day back, to a date of the calendar. -/
  | previous {n : Int} {d : Date} (hd : d.Valid) (h : FallsOn (n + 1) d.next) : FallsOn n d

/-- The days of a year before a date. -/
def daysBefore (d : Date) : Nat := ((monthLengths d.year).take (d.month - 1)).foldl Nat.add 0

theorem toDay_eq (d : Date) : d.toDay = yearStart d.year + d.daysBefore + (d.day - 1) := rfl

/-! ### Counting -/

/-- The dates of days are dates of the calendar. -/
theorem ofDay_valid (n : Int) : (ofDay n).Valid := by
  obtain ⟨hlow, hhigh⟩ := yearStart_yearOf n
  have hwithin : 0 + (n - yearStart (yearOf n)).toNat <
      (monthLengths (yearOf n)).foldl Nat.add 0 := by
    have hyear := yearStart_succ (yearOf n)
    rw [foldl_monthLengths]
    split_ifs at hyear ⊢
    all_goals omega
  obtain ⟨hmonth, hday⟩ := countOff_lt 0 hwithin
  rw [ofDay_eq]
  exact {
    month_pos := Nat.le_add_left 1 _
    month_le := hmonth
    day_pos := Nat.le_add_left 1 _
    day_le := hday }

variable {d : Date}

theorem Valid.next (h : d.Valid) : d.next.Valid := by
  obtain ⟨hmonth, hmonth', hday, hday'⟩ := h
  unfold Date.next
  split_ifs with hwithin hyear
  · exact ⟨hmonth, hmonth', Nat.le_add_left 1 _, hwithin⟩
  · exact ⟨Nat.le_add_left 1 _, hyear, Nat.le_refl 1, monthLength_pos _ (Nat.le_add_left 1 _) hyear⟩
  · have hjanuary : 1 ≤ 12 := by decide
    exact ⟨Nat.le_refl 1, hjanuary, Nat.le_refl 1, monthLength_pos _ (Nat.le_refl 1) hjanuary⟩

/-- Up to the end of its month there are the days before a date and that month. -/
theorem Valid.foldl_take (h : d.Valid) :
    ((monthLengths d.year).take d.month).foldl Nat.add 0 =
      d.daysBefore + monthLength d.year d.month := by
  have hmonth := h.month_pos
  have hindex : d.month - 1 < (monthLengths d.year).length := by
    have hle := h.month_le
    show d.month - 1 < 12
    omega
  have htake := foldl_take_succ hindex
  rwa [Nat.sub_add_cancel hmonth] at htake

/-- The number of the next date is one more. -/
theorem Valid.toDay_next (h : d.Valid) : d.next.toDay = d.toDay + 1 := by
  have htake := h.foldl_take
  obtain ⟨hmonth, hmonth', hday, hday'⟩ := h
  unfold Date.next
  split_ifs with hwithin hyear
  · simp only [toDay_eq, daysBefore]
    omega
  · -- The last day of a month: its length is added to the days before.
    have hbefore : daysBefore ⟨d.year, d.month + 1, 1⟩ = d.daysBefore + monthLength d.year d.month :=
      htake
    rw [toDay_eq, toDay_eq, hbefore]
    show yearStart d.year + _ + ((1 : Nat) - 1 : Int) = _
    omega
  · -- The last day of December: all twelve months are over.
    have htwelve : d.month = 12 := by omega
    have hyear := yearStart_succ d.year
    have hall := foldl_monthLengths d.year
    rw [htwelve] at htake
    change (monthLengths d.year).foldl Nat.add 0 = _ at htake
    have hbefore : daysBefore ⟨d.year + 1, 1, 1⟩ = 0 := rfl
    rw [toDay_eq, toDay_eq, hbefore]
    show yearStart (d.year + 1) + _ + ((1 : Nat) - 1 : Int) = _
    rw [htwelve] at hwithin hday'
    split_ifs at hyear hall
    all_goals omega

/-- A date of the calendar comes back from its number. -/
theorem Valid.ofDay_toDay (h : d.Valid) : ofDay d.toDay = d := by
  have htake := h.foldl_take
  obtain ⟨hmonth, hmonth', hday, hday'⟩ := h
  have hwithin : d.daysBefore + monthLength d.year d.month ≤ if isLeap d.year then 366 else 365 := by
    rw [← htake, ← foldl_monthLengths]
    exact foldl_take_le _ _
  have hyear : yearOf d.toDay = d.year := by
    apply yearOf_eq
    · rw [toDay_eq]
      omega
    · rw [toDay_eq, yearStart_succ]
      split_ifs at hwithin ⊢
      all_goals omega
  have hrest : (d.toDay - yearStart d.year).toNat = d.daysBefore - 0 + (d.day - 1) := by
    rw [toDay_eq]
    omega
  have hcounted : countOff (monthLengths d.year) (d.daysBefore - 0 + (d.day - 1)) =
      (d.month - 1, d.day - 1) := by
    apply countOff_foldl_take
    show d.day - 1 < monthLength d.year d.month
    omega
  rw [ofDay_eq, hyear, hrest, hcounted]
  show (⟨d.year, d.month - 1 + 1, d.day - 1 + 1⟩ : Date) = d
  rw [Nat.sub_add_cancel hmonth, Nat.sub_add_cancel hday]

/-- The date of the next day is the next date. -/
theorem ofDay_succ (n : Int) : ofDay (n + 1) = (ofDay n).next := by
  have hvalid := ofDay_valid n
  rw [← hvalid.next.ofDay_toDay, hvalid.toDay_next, toDay_ofDay]

/-- Counting arrives at the date of a day, and at no other. -/
theorem fallsOn_iff {n : Int} : FallsOn n d ↔ d = ofDay n := by
  constructor
  · intro h
    induction h with
    | epoch => decide
    | next h ih => rw [ih, ofDay_succ]
    | @previous n d hd h ih =>
      have hday := hd.toDay_next
      rw [ih, toDay_ofDay] at hday
      rw [← hd.ofDay_toDay]
      congr 1
      omega
  · rintro rfl
    induction n using Int.induction_on with
    | zero => exact .epoch
    | succ n ih =>
      rw [ofDay_succ]
      exact ih.next
    | pred n ih =>
      apply FallsOn.previous (ofDay_valid _)
      rw [← ofDay_succ, Int.sub_add_cancel]
      exact ih

end Date

end DynExpr
