import DynExpr.Calendar

/-! # Dates of days

    Counting a day off against the months of its year loses nothing: the
    whole months before it and the days of its own month add up to the day
    again (`foldl_take_countOff`). So the date of a day falls on that day
    (`toDay_ofDay`), and different days have different dates.
-/

namespace DynExpr

namespace Calendar

theorem countOff_cons_of_not_lt {length day : Nat} (later : List Nat) (h : ¬ day < length) :
    countOff (length :: later) day =
      ((countOff later (day - length)).1 + 1, (countOff later (day - length)).2) := by
  rw [countOff, if_neg h]

/-- The whole months before a day and the days of its own month add up to it. -/
theorem foldl_take_countOff (start : Nat) (lengths : List Nat) (day : Nat) :
    (lengths.take (countOff lengths day).1).foldl Nat.add start + (countOff lengths day).2 =
      start + day := by
  induction lengths generalizing start day with
  | nil => rfl
  | cons length later ih =>
    by_cases h : day < length
    · rw [countOff, if_pos h]
      rfl
    · have hlater := ih (start + length) (day - length)
      rw [countOff_cons_of_not_lt later h, List.take_succ_cons, List.foldl_cons]
      change (later.take (countOff later (day - length)).1).foldl Nat.add (start + length) + _ = _
      omega

end Calendar

namespace Date

open Calendar

/-- The date of a day, part by part. -/
theorem ofDay_eq (n : Int) :
    ofDay n = ⟨yearOf n,
      (countOff (monthLengths (yearOf n)) (n - yearStart (yearOf n)).toNat).1 + 1,
      (countOff (monthLengths (yearOf n)) (n - yearStart (yearOf n)).toNat).2 + 1⟩ := rfl

/-- The date of a day falls on that day. -/
theorem toDay_ofDay (n : Int) : (ofDay n).toDay = n := by
  have hyear := yearStart_yearOf n
  have hcounted := foldl_take_countOff 0 (monthLengths (yearOf n))
    (n - yearStart (yearOf n)).toNat
  rw [ofDay_eq, toDay]
  simp only [Nat.add_sub_cancel]
  omega

theorem ofDay_injective {n m : Int} (h : ofDay n = ofDay m) : n = m := by
  rw [← toDay_ofDay n, h, toDay_ofDay]

end Date

end DynExpr
