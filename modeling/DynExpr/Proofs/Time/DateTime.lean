import DynExpr.Proofs.Time.DayByDay
import DynExpr.Proofs.Time.InstantText
import DynExpr.Value.Text

/-! # Dates with a time of day

    What the text of an instant says, and how it says it, told without the
    functions that write it:

    * **Meaning**: `DateTime.Denotes` says which instant a date with a time of
      day is. The day is found by counting, and second 60 is the leap second
      behind second 59.
    * **Form**: `DateTime.WrittenAs` is the form of RFC 3339 in universal time,
      where years outside 0 to 9999 carry a sign. Of the fractions with 0, 3,
      6 or 9 digits that are exact it takes the shortest
      (`DateTime.Shortest`).

    An instant has one such date with a time of day (`DateTime.unique`,
    `Instant.dateTime_denotes`), and that has one such text. It is the text of
    the instant: **`Value.display_timestamp`**.
-/

namespace DynExpr

open Numeral (IsNumeral padded isNumeral_iff)

/-- A date with a time of day, to a fraction of a second. -/
structure DateTime where
  date : Date
  hour : Nat
  minute : Nat
  /-- The second of the minute; the leap second is second 60. -/
  second : Nat
  /-- The digits of the fraction. -/
  fraction : List Char

namespace DateTime

/-! ### Meaning -/

/-- The nanoseconds that the fraction stands for. -/
def nanos (d : DateTime) : Nat := Numeral.value d.fraction * 10 ^ (9 - d.fraction.length)

/-- The date is one of the calendar, and the time one of the day. -/
structure Valid (d : DateTime) : Prop where
  date : d.date.Valid
  hour_lt : d.hour < 24
  minute_lt : d.minute < 60
  second_le : d.second ≤ 60
  isDigit : ∀ c ∈ d.fraction, c.isDigit
  length_le : d.fraction.length ≤ 9

/-- The date and the time of day are those of the instant. -/
inductive Denotes (d : DateTime) (t : Instant) : Prop where
  /-- A second of the minute. -/
  | usual {day : Int} (hday : Date.FallsOn day d.date) (hsecond : d.second < 60)
      (hseconds : t.seconds = day * 86400 + d.hour * 3600 + d.minute * 60 + d.second)
      (hnanos : t.nanos = d.nanos)
  /-- The leap second, which goes on where second 59 ends. -/
  | leap {day : Int} (hday : Date.FallsOn day d.date) (hsecond : d.second = 60)
      (hseconds : t.seconds = day * 86400 + d.hour * 3600 + d.minute * 60 + 59)
      (hnanos : t.nanos = 10 ^ 9 + d.nanos)

/-- The fraction has 0, 3, 6 or 9 digits, and no fewer of these would be exact. -/
structure Shortest (d : DateTime) : Prop where
  length_mem : d.fraction.length ∈ [0, 3, 6, 9]
  length_le : ∀ length ∈ [0, 3, 6, 9], 10 ^ (9 - length) ∣ d.nanos → d.fraction.length ≤ length

/-! ### Form -/

/-- How a year is written: four digits from 0 to 9999, and a sign with at least four digits
    otherwise. -/
inductive IsYear : Int → List Char → Prop where
  | plain {year : Nat} {cs : List Char} (hyear : year < 10000) (h : IsNumeral 4 year cs) :
      IsYear year cs
  | before {year : Nat} {cs : List Char} (hyear : 0 < year) (h : IsNumeral 4 year cs) :
      IsYear (-year) ('-' :: cs)
  | after {year : Nat} {cs : List Char} (hyear : 10000 ≤ year) (h : IsNumeral 4 year cs) :
      IsYear year ('+' :: cs)

/-- The fraction with its point; without digits there is none. -/
def point (d : DateTime) : List Char := if d.fraction = [] then [] else '.' :: d.fraction

/-- The text is the date and the time of day in universal time. -/
inductive WrittenAs (d : DateTime) : List Char → Prop where
  | mk {year month day hour minute second : List Char} (hyear : IsYear d.date.year year)
      (hmonth : IsNumeral 2 d.date.month month) (hday : IsNumeral 2 d.date.day day)
      (hhour : IsNumeral 2 d.hour hour) (hminute : IsNumeral 2 d.minute minute)
      (hsecond : IsNumeral 2 d.second second) :
      WrittenAs d (year ++ '-' :: month ++ '-' :: day ++ 'T' :: hour ++ ':' :: minute ++
        ':' :: second ++ d.point ++ ['Z'])

theorem isYear_iff {year : Int} {cs : List Char} :
    IsYear year cs ↔ cs = Instant.yearText year := by
  unfold Instant.yearText
  constructor
  · intro h
    cases h with
    | plain hyear h =>
      rw [if_neg (by omega), if_pos (by omega)]
      exact (isNumeral_iff (by decide)).1 h
    | before hyear h =>
      rw [if_pos (by omega), (isNumeral_iff (by decide)).1 h, Int.natAbs_neg]
      rfl
    | after hyear h =>
      rw [if_neg (by omega), if_neg (by omega), (isNumeral_iff (by decide)).1 h]
      rfl
  · rintro rfl
    have hnumeral (n : Nat) : IsNumeral 4 n (padded 4 n) := (isNumeral_iff (by decide)).2 rfl
    split_ifs with hnegative hshort
    · have habs : year = -(year.natAbs : Int) := by omega
      nth_rewrite 1 [habs]
      exact .before (by omega) (hnumeral _)
    · have hnat : year = (year.toNat : Int) := by omega
      nth_rewrite 1 [hnat]
      exact .plain (by omega) (hnumeral _)
    · have hnat : year = (year.toNat : Int) := by omega
      nth_rewrite 1 [hnat]
      exact .after (by omega) (hnumeral _)

/-- The text of a date with a time of day. -/
def text (d : DateTime) : List Char :=
  Instant.dateText d.date ++ 'T' :: (padded 2 d.hour ++ ':' :: padded 2 d.minute ++
    ':' :: padded 2 d.second) ++ d.point ++ ['Z']

theorem writtenAs_iff {d : DateTime} {cs : List Char} : d.WrittenAs cs ↔ cs = d.text := by
  have htwo {n : Nat} {cs : List Char} : IsNumeral 2 n cs ↔ cs = padded 2 n :=
    isNumeral_iff (by decide)
  constructor
  · intro h
    obtain ⟨hyear, hmonth, hday, hhour, hminute, hsecond⟩ := h
    rw [isYear_iff.1 hyear, htwo.1 hmonth, htwo.1 hday, htwo.1 hhour, htwo.1 hminute,
      htwo.1 hsecond]
    simp [text, Instant.dateText]
  · rintro rfl
    have h := WrittenAs.mk (d := d) (isYear_iff.2 rfl) (htwo.2 rfl) (htwo.2 rfl) (htwo.2 rfl)
      (htwo.2 rfl) (htwo.2 rfl)
    simpa [text, Instant.dateText] using h

/-! ### One date for an instant -/

theorem Valid.nanos_lt {d : DateTime} (h : d.Valid) : d.nanos < 10 ^ 9 := by
  have hvalue := Numeral.value_lt h.isDigit
  have hpow : 10 ^ d.fraction.length * 10 ^ (9 - d.fraction.length) = 10 ^ 9 := by
    rw [← Nat.pow_add, Nat.add_sub_cancel' h.length_le]
  rw [← hpow]
  exact Nat.mul_lt_mul_of_pos_right hvalue (Nat.pow_pos (by decide))

/-- A fraction that is as short as it can be is told by its nanoseconds. -/
theorem fraction_unique {d d' : DateTime} (hd : d.Valid) (hd' : d'.Valid) (hshort : d.Shortest)
    (hshort' : d'.Shortest) (hnanos : d.nanos = d'.nanos) : d.fraction = d'.fraction := by
  have hlength : d.fraction.length = d'.fraction.length := by
    apply Nat.le_antisymm
    · exact hshort.length_le _ hshort'.length_mem (hnanos ▸ Nat.dvd_mul_left _ _)
    · exact hshort'.length_le _ hshort.length_mem (hnanos ▸ Nat.dvd_mul_left _ _)
  apply Numeral.eq_of_value_eq hd.isDigit hd'.isDigit hlength
  rw [nanos, nanos, hlength] at hnanos
  exact Nat.eq_of_mul_eq_mul_right (Nat.pow_pos (by decide)) hnanos

/-- An instant has one date and time of day. -/
theorem unique {d d' : DateTime} {t : Instant} (hd : d.Valid) (hd' : d'.Valid)
    (hshort : d.Shortest) (hshort' : d'.Shortest) (ht : d.Denotes t) (ht' : d'.Denotes t) :
    d = d' := by
  have hbelow := hd.nanos_lt
  have hbelow' := hd'.nanos_lt
  have hhour := hd.hour_lt
  have hminute := hd.minute_lt
  have hhour' := hd'.hour_lt
  have hminute' := hd'.minute_lt
  -- Days, hours, minutes and seconds are quotients and remainders of one number of seconds.
  have hparts : d.date = d'.date ∧ d.hour = d'.hour ∧ d.minute = d'.minute ∧
      d.second = d'.second ∧ d.nanos = d'.nanos := by
    cases ht with
    | @usual day hday hsecond hseconds hnanos =>
      cases ht' with
      | @usual day' hday' hsecond' hseconds' hnanos' =>
        have hsame : day = day' := by omega
        rw [Date.fallsOn_iff] at hday hday'
        refine ⟨by rw [hday, hday', hsame], ?_⟩
        omega
      | leap hday' hsecond' hseconds' hnanos' => omega
    | @leap day hday hsecond hseconds hnanos =>
      cases ht' with
      | usual hday' hsecond' hseconds' hnanos' => omega
      | @leap day' hday' hsecond' hseconds' hnanos' =>
        have hsame : day = day' := by omega
        rw [Date.fallsOn_iff] at hday hday'
        refine ⟨by rw [hday, hday', hsame], ?_⟩
        omega
  obtain ⟨hdate, hhours, hminutes, hseconds, hnanos⟩ := hparts
  have hfraction := fraction_unique hd hd' hshort hshort' hnanos
  cases d
  cases d'
  rw [mk.injEq]
  exact ⟨hdate, hhours, hminutes, hseconds, hfraction⟩

end DateTime

namespace Instant

/-! ### The text of an instant -/

/-- The digits of the fraction of a second. -/
def fractionDigits (n : Nat) : List Char := (fractionText n).drop 1

theorem fractionText_eq (n : Nat) :
    fractionText n = if fractionDigits n = [] then [] else '.' :: fractionDigits n := by
  unfold fractionDigits
  rcases fractionText_cases n with h | ⟨width, k, h⟩
  · rw [h]
    rfl
  · rw [h]
    exact (if_neg (Numeral.padded_ne_nil width k)).symm

theorem isDigit_of_mem_fractionDigits {n : Nat} {c : Char} (h : c ∈ fractionDigits n) :
    c.isDigit := by
  unfold fractionDigits at h
  rcases fractionText_cases n with htext | ⟨width, k, htext⟩
  · rw [htext] at h
    cases h
  · rw [htext] at h
    exact Numeral.isDigit_of_mem_padded h

/-- The date and the time of day of an instant. -/
def dateTime (t : Instant) : DateTime where
  date := Date.ofDay (t.seconds / 86400)
  hour := (t.seconds % 86400).toNat / 3600
  minute := (t.seconds % 86400).toNat / 60 % 60
  second := inMinute (t.seconds % 86400).toNat (decide (10 ^ 9 ≤ t.nanos))
  fraction := fractionDigits (t.nanos % 10 ^ 9)

variable (t : Instant)

theorem text_eq : t.text = t.dateTime.text := by
  rw [text, fractionText_eq]
  rfl

theorem dateTime_nanos : t.dateTime.nanos = t.nanos % 10 ^ 9 :=
  fractionValue_fractionText (Nat.mod_lt _ (by decide))

theorem fractionDigits_length {n : Nat} (h : n < 10 ^ 9) :
    (fractionDigits n).length =
      if n = 0 then 0 else if n % 10 ^ 6 = 0 then 3 else if n % 10 ^ 3 = 0 then 6 else 9 := by
  unfold fractionDigits fractionText
  split_ifs
  · rfl
  · exact Numeral.length_padded (by decide) (by omega)
  · exact Numeral.length_padded (by decide) (by omega)
  · exact Numeral.length_padded (by decide) h

theorem dateTime_valid : t.dateTime.Valid where
  date := Date.ofDay_valid _
  hour_lt := by
    show (t.seconds % 86400).toNat / 3600 < 24
    omega
  minute_lt := Nat.mod_lt _ (by decide)
  second_le := by
    show inMinute _ _ ≤ 60
    unfold inMinute
    split_ifs
    all_goals omega
  isDigit := fun _ => isDigit_of_mem_fractionDigits
  length_le := by
    show (fractionDigits _).length ≤ 9
    rw [fractionDigits_length (Nat.mod_lt _ (by decide))]
    split_ifs
    all_goals decide

theorem dateTime_shortest : t.dateTime.Shortest where
  length_mem := by
    show (fractionDigits _).length ∈ _
    rw [fractionDigits_length (Nat.mod_lt _ (by decide))]
    split_ifs
    all_goals decide
  length_le := by
    have hbelow : t.nanos % 10 ^ 9 < 10 ^ 9 := Nat.mod_lt _ (by decide)
    show ∀ length ∈ _, _ → (fractionDigits _).length ≤ length
    rw [dateTime_nanos, fractionDigits_length hbelow]
    generalize t.nanos % 10 ^ 9 = n at hbelow
    simp only [List.forall_mem_cons, List.not_mem_nil, false_implies, implies_true, and_true,
      Nat.dvd_iff_mod_eq_zero]
    split_ifs
    all_goals omega

theorem dateTime_denotes : t.dateTime.Denotes t := by
  have hday : Date.FallsOn (t.seconds / 86400) t.dateTime.date := Date.fallsOn_iff.2 rfl
  have hlegal := t.nanos_lt
  have hnanos := t.dateTime_nanos
  by_cases hleap : 10 ^ 9 ≤ t.nanos
  · have hsecond : t.dateTime.second = 60 := by
      show inMinute _ _ = 60
      rw [inMinute, if_pos (decide_eq_true hleap)]
    refine .leap hday hsecond ?_ (by omega)
    show t.seconds = t.seconds / 86400 * 86400 + ((t.seconds % 86400).toNat / 3600 : Nat) * 3600 +
      ((t.seconds % 86400).toNat / 60 % 60 : Nat) * 60 + 59
    omega
  · have hsecond : t.dateTime.second = (t.seconds % 86400).toNat % 60 := by
      show inMinute _ _ = _
      rw [inMinute, if_neg (by simpa using hleap)]
    refine .usual hday (by omega) ?_ (by omega)
    rw [hsecond]
    show t.seconds = t.seconds / 86400 * 86400 + ((t.seconds % 86400).toNat / 3600 : Nat) * 3600 +
      ((t.seconds % 86400).toNat / 60 % 60 : Nat) * 60 + ((t.seconds % 86400).toNat % 60 : Nat)
    omega

end Instant

end DynExpr
