import DynExpr.Instant
import DynExpr.Proofs.Text.Digits
import DynExpr.Proofs.Time.Calendar
import Mathlib.Tactic.SplitIfs

/-! # The text of an instant identifies it

    Every part of the text ends at a character that cannot belong to it, so
    the parts can be told apart, and each gives back what it was written for:

    * **Date**: the sign and the digits of the year (`yearText_append_inj`),
      then month and day.
    * **Time of day**: hour, minute and second; second 60 is the leap second
      behind second 59.
    * **Fraction**: the number of its digits says what they count
      (`fractionValue_fractionText`).

    **`text_delimited`** puts the instant together again.
-/

namespace DynExpr.Instant

open Numeral (padded padded_append_inj padded_cons_append_inj padded_ne_nil
  isDigit_of_mem_padded)

/-! ### Date -/

/-- The sign in front of a year. -/
def yearSign (year : Int) : List Char :=
  if year < 0 then ['-'] else if year < 10000 then [] else ['+']

theorem yearText_eq (year : Int) : yearText year = yearSign year ++ padded 4 year.natAbs := by
  have habs (h : ¬ year < 0) : year.toNat = year.natAbs := by omega
  unfold yearText yearSign
  split_ifs with hnegative hshort
  · rfl
  · rw [habs hnegative]
    rfl
  · rw [habs hnegative]
    rfl

/-- Sign and digits give the year. -/
theorem eq_of_yearSign_eq {y y' : Int} (hsign : yearSign y = yearSign y')
    (habs : y.natAbs = y'.natAbs) : y = y' := by
  unfold yearSign at hsign
  split_ifs at hsign
  all_goals first | omega | cases hsign

theorem yearText_append_inj {y y' : Int} {rest rest' : List Char}
    (h : yearText y ++ '-' :: rest = yearText y' ++ '-' :: rest') : y = y' ∧ rest = rest' := by
  have hsigns : ∀ year, ∀ c ∈ yearSign year, (!c.isDigit) = true := by
    intro year
    unfold yearSign
    split_ifs
    all_goals exact List.all_eq_true.1 rfl
  have hdigits : ∀ n rest, Text.StopsAt (fun c => !c.isDigit) (padded 4 n ++ rest) := by
    intro n rest
    obtain ⟨c, cs, hpadded⟩ := List.exists_cons_of_ne_nil (padded_ne_nil 4 n)
    have hc : c.isDigit := isDigit_of_mem_padded (hpadded ▸ List.mem_cons_self)
    rw [hpadded]
    exact Text.stopsAt_cons (by rw [hc]; rfl) _
  rw [yearText_eq, yearText_eq, List.append_assoc, List.append_assoc] at h
  obtain ⟨hsign, hlater⟩ := Text.append_inj_of_stopsAt (hsigns y) (hsigns y') (hdigits _ _)
    (hdigits _ _) h
  obtain ⟨habs, hrest⟩ := padded_cons_append_inj rfl hlater
  exact ⟨eq_of_yearSign_eq hsign habs, hrest⟩

theorem dateText_append_inj {d d' : Date} {rest rest' : List Char}
    (h : dateText d ++ 'T' :: rest = dateText d' ++ 'T' :: rest') : d = d' ∧ rest = rest' := by
  simp only [dateText, List.append_assoc, List.cons_append] at h
  obtain ⟨hyear, hlater⟩ := yearText_append_inj h
  obtain ⟨hmonth, hlater⟩ := padded_cons_append_inj rfl hlater
  obtain ⟨hday, hrest⟩ := padded_cons_append_inj rfl hlater
  cases d with
  | mk year month day =>
    cases d' with
    | mk year' month' day' =>
      exact ⟨by rw [Date.mk.injEq]; exact ⟨hyear, hmonth, hday⟩, hrest⟩

/-! ### Time of day -/

/-- The second of the minute; the leap second is second 60. -/
def inMinute (second : Nat) (leap : Bool) : Nat := if leap then 60 else second % 60

theorem timeText_append_inj {s s' : Nat} {leap leap' : Bool} {rest rest' : List Char}
    (hrest : Text.StopsAt Char.isDigit rest) (hrest' : Text.StopsAt Char.isDigit rest')
    (h : timeText s leap ++ rest = timeText s' leap' ++ rest') :
    s / 60 = s' / 60 ∧ inMinute s leap = inMinute s' leap' ∧ rest = rest' := by
  simp only [timeText, List.append_assoc, List.cons_append] at h
  obtain ⟨hhour, hlater⟩ := padded_cons_append_inj rfl h
  obtain ⟨hminute, hlater⟩ := padded_cons_append_inj rfl hlater
  obtain ⟨hsecond, hsame⟩ := padded_append_inj hrest hrest' hlater
  exact ⟨by omega, hsecond, hsame⟩

/-! ### Fraction -/

/-- The nanoseconds that a fraction stands for. -/
def fractionValue (cs : List Char) : Nat :=
  Numeral.value (cs.drop 1) * 10 ^ (9 - (cs.drop 1).length)

theorem fractionValue_padded {width n : Nat} (hwidth : 0 < width) (h : n < 10 ^ width) :
    fractionValue ('.' :: padded width n) = n * 10 ^ (9 - width) := by
  show Numeral.value (padded width n) * 10 ^ (9 - (padded width n).length) = _
  rw [Numeral.value_padded, Numeral.length_padded hwidth h]

/-- A fraction stands for the nanoseconds that it was written for. -/
theorem fractionValue_fractionText {n : Nat} (h : n < 10 ^ 9) :
    fractionValue (fractionText n) = n := by
  unfold fractionText
  split_ifs with hzero hmillis hmicros
  · rw [hzero]
    rfl
  · rw [fractionValue_padded (by decide) (by omega)]
    omega
  · rw [fractionValue_padded (by decide) (by omega)]
    omega
  · rw [fractionValue_padded (by decide) h]
    omega

/-- A fraction is nothing, or a point with digits. -/
theorem fractionText_cases (n : Nat) :
    fractionText n = [] ∨ ∃ width k, fractionText n = '.' :: padded width k := by
  unfold fractionText
  split_ifs
  · exact Or.inl rfl
  all_goals exact Or.inr ⟨_, _, rfl⟩

theorem fractionText_stopsAt (n : Nat) (rest : List Char) :
    Text.StopsAt Char.isDigit (fractionText n ++ 'Z' :: rest) := by
  rcases fractionText_cases n with h | ⟨width, k, h⟩
  · rw [h]
    exact Text.stopsAt_cons rfl _
  · rw [h]
    exact Text.stopsAt_cons rfl _

theorem fractionText_append_inj {n m : Nat} (hn : n < 10 ^ 9) (hm : m < 10 ^ 9)
    {rest rest' : List Char} (h : fractionText n ++ 'Z' :: rest = fractionText m ++ 'Z' :: rest') :
    n = m ∧ rest = rest' := by
  have hclose : ∀ n, 'Z' ∉ fractionText n := by
    intro n hmem
    rcases fractionText_cases n with htext | ⟨width, k, htext⟩
    · rw [htext] at hmem
      cases hmem
    · rw [htext, List.mem_cons] at hmem
      rcases hmem with hpoint | hdigit
      · cases hpoint
      · cases isDigit_of_mem_padded hdigit
  obtain ⟨htext, hrest⟩ := Text.append_cons_inj (hclose n) (hclose m) h
  have hvalue : n = m := by
    rw [← fractionValue_fractionText hn, htext, fractionValue_fractionText hm]
  exact ⟨hvalue, hrest⟩

/-! ### Instants -/

/-- Only a leap second is second 60, so the last second of a minute and the leap second behind
    it are told apart. -/
theorem eq_of_parts_eq {t u : Instant} (hday : t.seconds / 86400 = u.seconds / 86400)
    (hminute : (t.seconds % 86400).toNat / 60 = (u.seconds % 86400).toNat / 60)
    (hsecond : inMinute (t.seconds % 86400).toNat (decide (10 ^ 9 ≤ t.nanos)) =
      inMinute (u.seconds % 86400).toNat (decide (10 ^ 9 ≤ u.nanos)))
    (hnanos : t.nanos % 10 ^ 9 = u.nanos % 10 ^ 9) : t = u := by
  have ht := t.nanos_lt
  have hu := u.nanos_lt
  -- Nanoseconds from 10 ^ 9 on belong to a leap second, which stands only behind second 59.
  have hparts : t.seconds = u.seconds ∧ t.nanos = u.nanos := by
    unfold inMinute at hsecond
    simp only [decide_eq_true_eq] at hsecond
    split_ifs at hsecond
    all_goals omega
  cases t
  cases u
  rw [mk.injEq]
  exact hparts

/-- The text of an instant can be split off whatever follows it, and gives the instant. -/
theorem text_delimited : Text.Delimited text := by
  intro t u rest rest' h
  simp only [text, List.append_assoc, List.cons_append, List.nil_append] at h
  obtain ⟨hdate, hlater⟩ := dateText_append_inj h
  obtain ⟨hminute, hsecond, hlater⟩ := timeText_append_inj (fractionText_stopsAt _ _)
    (fractionText_stopsAt _ _) hlater
  obtain ⟨hnanos, hrest⟩ := fractionText_append_inj (Nat.mod_lt _ (by decide))
    (Nat.mod_lt _ (by decide)) hlater
  exact ⟨eq_of_parts_eq (Date.ofDay_injective hdate) hminute hsecond hnanos, hrest⟩

end DynExpr.Instant
