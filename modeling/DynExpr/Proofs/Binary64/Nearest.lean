import DynExpr.Proofs.Binary64.Place
import DynExpr.Proofs.Binary64.Rounding

/-! # The nearest float

    Rounding is told by what it is for, without the steps of its computation:

    * **Rows**: `NearestIn` says which term of an increasing row is nearest to a
      number. There is only one (`NearestIn.unique`), and a larger number has
      no earlier one (`NearestIn.mono`).
    * **Places**: their values are such a row, one step apart from place to
      place (`units_succ`). `nearest` computes the place that is nearest to a
      fraction (`nearest_isNearest`), and so it keeps the order of fractions
      (`nearest_mono`).
    * **Floats**: `Rounds` says that a float is the nearest one to a fraction
      with a sign. Integers are rounded in their order (`level_ofInt_mono`).
-/

namespace DynExpr.Binary64

/-! ### The nearest term of a row -/

/-- Term `n` of a row is nearest to `x` among the terms up to a bound: none of them is closer,
    and if another one is as close, then `n` is even. -/
structure NearestIn (row : Nat → Nat) (bound x n : Nat) : Prop where
  le_bound : n ≤ bound
  closest : ∀ m ≤ bound, Nat.dist (row n) x ≤ Nat.dist (row m) x
  even_of_tie : ∀ m ≤ bound, m ≠ n → Nat.dist (row m) x = Nat.dist (row n) x → n % 2 = 0

section NearestIn

variable {row : Nat → Nat} {bound : Nat} (hrow : StrictMono row)
include hrow

/-- Two terms cannot both be nearest: if they are equally close, the terms between them are
    closer, and if there are none between them, then only one of the two is even. -/
theorem NearestIn.not_lt {x n m : Nat} (hn : NearestIn row bound x n)
    (hm : NearestIn row bound x m) : ¬ n < m := by
  intro hlt
  have hcloser := hn.closest m hm.le_bound
  have hcloser' := hm.closest n hn.le_bound
  have htie : Nat.dist (row n) x = Nat.dist (row m) x := Nat.le_antisymm hcloser hcloser'
  have hneven := hn.even_of_tie m hm.le_bound (by omega) htie.symm
  have hmeven := hm.even_of_tie n hn.le_bound (by omega) htie
  have hbetween : n + 1 < m := by omega
  have hleft : row n < row (n + 1) := hrow (Nat.lt_succ_self n)
  have hright : row (n + 1) < row m := hrow hbetween
  have hmbound := hm.le_bound
  have hmiddle := hn.closest (n + 1) (by omega)
  unfold Nat.dist at htie hmiddle
  omega

theorem NearestIn.unique {x n m : Nat} (hn : NearestIn row bound x n)
    (hm : NearestIn row bound x m) : n = m := by
  have hle := hn.not_lt hrow hm
  have hge := hm.not_lt hrow hn
  omega

/-- What is nearest to a larger number comes no earlier in the row. -/
theorem NearestIn.mono {x x' n n' : Nat} (hx : x ≤ x') (hn : NearestIn row bound x n)
    (hn' : NearestIn row bound x' n') : n ≤ n' := by
  by_contra hlt
  rw [Nat.not_le] at hlt
  have hterms : row n' < row n := hrow hlt
  have hcloser := hn.closest n' hn'.le_bound
  have hcloser' := hn'.closest n hn.le_bound
  have hsame : x = x' := by
    unfold Nat.dist at hcloser hcloser'
    omega
  subst hsame
  exact hn'.not_lt hrow hn hlt

/-- A term is nearest to itself. -/
theorem NearestIn.self {n : Nat} (h : n ≤ bound) : NearestIn row bound (row n) n := by
  refine ⟨h, ?_, ?_⟩
  · intro m _
    rw [Nat.dist_self]
    exact Nat.zero_le _
  · intro m _ hne htie
    rw [Nat.dist_self] at htie
    exact absurd (hrow.injective (Nat.eq_of_dist_eq_zero htie)) hne

/-- A term is nearest to every number that is beyond all terms before it if it is the last one. -/
theorem NearestIn.last {x : Nat} (h : row bound ≤ x) : NearestIn row bound x bound := by
  have hother : ∀ m ≤ bound, m = bound ∨ row m < row bound := by
    intro m hm
    rcases Nat.eq_or_lt_of_le hm with heq | hlt
    · exact Or.inl heq
    · exact Or.inr (hrow hlt)
  refine ⟨Nat.le_refl _, ?_, ?_⟩
  · intro m hm
    rcases hother m hm with rfl | hlt
    · exact Nat.le_refl _
    · unfold Nat.dist
      omega
  · intro m hm hne htie
    rcases hother m hm with heq | hlt
    · exact absurd heq hne
    · unfold Nat.dist at htie
      omega

/-- Of the two terms around a number the closer one is nearest; halfway between them, the even
    one. -/
theorem NearestIn.of_between {x n : Nat} (hn : n < bound) (hlow : row n ≤ x)
    (hhigh : x < row (n + 1)) :
    NearestIn row bound x
      (if 2 * (x - row n) < row (n + 1) - row n ∨
        2 * (x - row n) = row (n + 1) - row n ∧ n % 2 = 0 then n else n + 1) := by
  have hother : ∀ m, m < n ∧ row m < row n ∨ m = n ∨ m = n + 1 ∨
      n + 1 < m ∧ row (n + 1) < row m := by
    intro m
    rcases Nat.lt_trichotomy m n with hlt | heq | hgt
    · exact Or.inl ⟨hlt, hrow hlt⟩
    · exact Or.inr (Or.inl heq)
    · rcases Nat.eq_or_lt_of_le hgt with heq | hlt
      · exact Or.inr (Or.inr (Or.inl heq.symm))
      · exact Or.inr (Or.inr (Or.inr ⟨hlt, hrow hlt⟩))
  split
  · refine ⟨hn.le, ?_, ?_⟩
    · intro m _
      unfold Nat.dist
      rcases hother m with ⟨-, hm⟩ | rfl | rfl | ⟨-, hm⟩ <;> omega
    · intro m _ hne htie
      unfold Nat.dist at htie
      rcases hother m with ⟨-, hm⟩ | rfl | rfl | ⟨-, hm⟩ <;> omega
  · refine ⟨hn, ?_, ?_⟩
    · intro m _
      unfold Nat.dist
      rcases hother m with ⟨-, hm⟩ | rfl | rfl | ⟨-, hm⟩ <;> omega
    · intro m _ hne htie
      unfold Nat.dist at htie
      rcases hother m with ⟨-, hm⟩ | rfl | rfl | ⟨-, hm⟩ <;> omega

/-- A number from the first term on lies between two neighbours. -/
theorem exists_between {x : Nat} (h : row 0 ≤ x) : ∃ n, row n ≤ x ∧ x < row (n + 1) := by
  induction x, h using Nat.le_induction with
  | base => exact ⟨0, Nat.le_refl _, hrow Nat.zero_lt_one⟩
  | succ x _ ih =>
    obtain ⟨n, hlow, hhigh⟩ := ih
    by_cases hx : x + 1 < row (n + 1)
    · exact ⟨n, Nat.le_succ_of_le hlow, hx⟩
    · have hnext : row (n + 1) < row (n + 1 + 1) := hrow (Nat.lt_succ_self _)
      exact ⟨n + 1, by omega, by omega⟩

end NearestIn

/-! ### Steps from place to place -/

theorem step_pos (n : Nat) : 0 < step n := Nat.two_pow_pos _

theorem units_eq (n : Nat) : units n = significand n * step n := by
  unfold units significand step
  by_cases h : n < 2 ^ 52
  · have hexponent : n / 2 ^ 52 - 1 = 0 := by omega
    rw [if_pos h, if_pos h, hexponent, Nat.pow_zero, Nat.mul_one]
  · rw [if_neg h, if_neg h]

/-- A place is the number of its significand, counted from the start of its binade. -/
theorem binade_add_significand (n : Nat) : (n / 2 ^ 52 - 1) * 2 ^ 52 + significand n = n := by
  unfold significand
  split <;> omega

/-- The next place is one step away. -/
theorem units_succ (n : Nat) : units (n + 1) = units n + step n := by
  rw [units_eq, units_eq, ← Nat.succ_mul]
  by_cases h : (n + 1) / 2 ^ 52 - 1 = n / 2 ^ 52 - 1
  · have hstep : step (n + 1) = step n := by rw [step, step, h]
    have hsignificand : significand (n + 1) = significand n + 1 := by
      have hnext := binade_add_significand (n + 1)
      have hhere := binade_add_significand n
      rw [h] at hnext
      omega
    rw [hstep, hsignificand]
  · -- From one binade to the next the step doubles, and the significand starts over.
    have hexponent : (n + 1) / 2 ^ 52 - 1 = n / 2 ^ 52 - 1 + 1 := by omega
    have hstep : step (n + 1) = 2 * step n := by
      rw [step, step, hexponent, Nat.pow_succ, Nat.mul_comm]
    have hsignificand : significand (n + 1) * 2 = significand n + 1 := by
      have hnext := binade_add_significand (n + 1)
      have hhere := binade_add_significand n
      unfold significand at hnext hhere ⊢
      split <;> split <;> omega
    rw [hstep, ← Nat.mul_assoc, hsignificand]

theorem units_strictMono : StrictMono units := by
  apply strictMono_nat_of_lt_succ
  intro n
  have hstep := step_pos n
  have hnext := units_succ n
  omega

theorem le_significand {n : Nat} (h : 2 ^ 52 ≤ n) : 2 ^ 52 ≤ significand n := by
  unfold significand
  split <;> omega

theorem significand_lt (n : Nat) : significand n < 2 ^ 53 := by
  unfold significand
  split <;> omega

/-- What lies between two neighbouring places has their exponent. -/
theorem log2_of_between {n q : Nat} (hlow : units n ≤ q) (hhigh : q < units (n + 1)) :
    q.log2 - 52 = n / 2 ^ 52 - 1 := by
  have hupper : units (n + 1) ≤ 2 ^ (n / 2 ^ 52 - 1 + 53) :=
    calc units (n + 1) = (significand n + 1) * step n := by
          rw [units_succ, units_eq, Nat.succ_mul]
      _ ≤ 2 ^ 53 * step n := Nat.mul_le_mul_right _ (significand_lt n)
      _ = 2 ^ (n / 2 ^ 52 - 1 + 53) := by rw [step, ← Nat.pow_add, Nat.add_comm]
  have hq : q < 2 ^ (n / 2 ^ 52 - 1 + 53) := Nat.lt_of_lt_of_le hhigh hupper
  by_cases hzero : n / 2 ^ 52 - 1 = 0
  · rw [hzero] at hq ⊢
    by_cases h0 : q = 0
    · rw [h0]
      rfl
    · have hlog := (Nat.log2_lt h0).2 hq
      omega
  · -- From the second binade on, a significand has its leading bit.
    have hlower : 2 ^ (n / 2 ^ 52 - 1 + 52) ≤ q :=
      calc 2 ^ (n / 2 ^ 52 - 1 + 52) = 2 ^ 52 * step n := by rw [step, ← Nat.pow_add, Nat.add_comm]
        _ ≤ significand n * step n := Nat.mul_le_mul_right _ (le_significand (by omega))
        _ = units n := (units_eq n).symm
        _ ≤ q := hlow
    have h0 : q ≠ 0 := (Nat.lt_of_lt_of_le (Nat.two_pow_pos _) hlower).ne'
    have hlog := (Nat.log2_lt h0).2 hq
    have hlog' := (Nat.le_log2 h0).2 hlower
    omega

theorem units_infinity : units infinity = 2 ^ 1024 * 2 ^ 1074 := by decide +kernel

/-- Between two neighbouring places, the closer one is nearest; halfway, the even one. -/
theorem nearest_of_between {num den n : Nat} (hden : 0 < den) (hn : n < infinity)
    (hlow : units n * den ≤ num * 2 ^ 1074) (hhigh : num * 2 ^ 1074 < units (n + 1) * den) :
    nearest num den =
      if 2 * (num * 2 ^ 1074 - units n * den) < step n * den ∨
        2 * (num * 2 ^ 1074 - units n * den) = step n * den ∧ n % 2 = 0 then n else n + 1 := by
  unfold nearest
  generalize num * 2 ^ 1074 = scaled at hlow hhigh ⊢
  have hexponent : (scaled / den).log2 - 52 = n / 2 ^ 52 - 1 := by
    apply log2_of_between
    · exact (Nat.le_div_iff_mul_le hden).2 hlow
    · exact (Nat.div_lt_iff_lt_mul hden).2 hhigh
  have hvalue : units n * den = significand n * (den * step n) := by
    rw [units_eq, Nat.mul_assoc, Nat.mul_comm (step n)]
  have hnext : units (n + 1) * den = units n * den + den * step n := by
    rw [units_succ, Nat.add_mul, Nat.mul_comm (step n)]
  have hpos : 0 < den * step n := Nat.mul_pos hden (step_pos n)
  have hrest : scaled - units n * den < den * step n := by omega
  have hquotient : scaled / (den * step n) = significand n := by
    apply Nat.div_eq_of_lt_le
    · rw [← hvalue]
      exact hlow
    · rw [Nat.succ_mul, ← hvalue, ← hnext]
      exact hhigh
  have hremainder : scaled % (den * step n) = scaled - units n * den := by
    rw [Nat.mod_eq_sub_div_mul, hquotient, hvalue]
  have hplace := binade_add_significand n
  have hparity : significand n % 2 = n % 2 := by omega
  simp only [hexponent]
  change min infinity ((n / 2 ^ 52 - 1) * 2 ^ 52 + halfEven scaled (den * step n)) = _
  unfold halfEven
  simp only [hquotient, hremainder, hparity, Nat.mul_comm (step n)]
  split
  · rw [hplace]
    exact Nat.min_eq_right hn.le
  · rw [← Nat.add_assoc, hplace]
    exact Nat.min_eq_right hn

/-! ### The nearest place -/

/-- The values of the places, as fractions of one denominator. -/
def values (den n : Nat) : Nat := units n * den

/-- Place `n` is nearest to `num / den`. Infinity takes part as the number that would follow
    the largest float. -/
def IsNearest (num den n : Nat) : Prop :=
  NearestIn (values den) infinity (num * 2 ^ 1074) n

theorem values_strictMono {den : Nat} (hden : 0 < den) : StrictMono (values den) := by
  intro n m hlt
  exact Nat.mul_lt_mul_of_pos_right (units_strictMono hlt) hden

theorem nearest_isNearest (num : Nat) {den : Nat} (hden : 0 < den) :
    IsNearest num den (nearest num den) := by
  have hrow := values_strictMono hden
  by_cases hbelow : num * 2 ^ 1074 < values den infinity
  · have hzero : values den 0 ≤ num * 2 ^ 1074 := by
      have h0 : values den 0 = 0 := Nat.zero_mul den
      rw [h0]
      exact Nat.zero_le _
    obtain ⟨n, hlow, hhigh⟩ := exists_between hrow hzero
    have hn : n < infinity := hrow.lt_iff_lt.1 (Nat.lt_of_le_of_lt hlow hbelow)
    have hstep : values den (n + 1) - values den n = step n * den := by
      unfold values
      rw [units_succ, Nat.add_mul, Nat.add_sub_cancel_left]
    have hnearest := NearestIn.of_between hrow hn hlow hhigh
    rw [hstep] at hnearest
    rw [nearest_of_between hden hn hlow hhigh]
    exact hnearest
  · -- Infinity stands for `2 ^ 1024`, and everything from there on is rounded to it.
    have hbeyond : values den infinity ≤ num * 2 ^ 1074 := Nat.not_lt.1 hbelow
    have hinfinity : nearest num den = infinity := by
      apply nearest_eq_infinity hden
      have hunit : 0 < 2 ^ 1074 := Nat.two_pow_pos 1074
      rw [values, units_infinity] at hbeyond
      -- The powers are too large to be computed, and here they need not be.
      generalize 2 ^ 1074 = unit at hunit hbeyond
      generalize 2 ^ 1024 = bound at hbeyond ⊢
      rw [Nat.mul_right_comm] at hbeyond
      exact Nat.le_of_mul_le_mul_right hbeyond hunit
    rw [hinfinity]
    exact NearestIn.last hrow hbeyond

/-- **Nearest**: rounding a fraction gives the one place that is nearest to it. -/
theorem isNearest_iff {num den n : Nat} (hden : 0 < den) :
    IsNearest num den n ↔ n = nearest num den := by
  constructor
  · intro h
    exact h.unique (values_strictMono hden) (nearest_isNearest num hden)
  · rintro rfl
    exact nearest_isNearest num hden

/-- Rounding keeps the order of fractions. -/
theorem nearest_mono {num num' den : Nat} (hden : 0 < den) (h : num ≤ num') :
    nearest num den ≤ nearest num' den :=
  NearestIn.mono (values_strictMono hden) (Nat.mul_le_mul_right _ h) (nearest_isNearest num hden)
    (nearest_isNearest num' hden)

/-- What is at most the value of a place is not rounded beyond the place. -/
theorem nearest_le_place {num den n : Nat} (hden : 0 < den) (hn : n ≤ infinity)
    (h : num * 2 ^ 1074 ≤ units n * den) : nearest num den ≤ n :=
  have hrow := values_strictMono hden
  NearestIn.mono hrow h (nearest_isNearest num hden) (NearestIn.self hrow hn)

theorem place_le_nearest {num den n : Nat} (hden : 0 < den) (hn : n ≤ infinity)
    (h : units n * den ≤ num * 2 ^ 1074) : n ≤ nearest num den :=
  have hrow := values_strictMono hden
  NearestIn.mono hrow h (NearestIn.self hrow hn) (nearest_isNearest num hden)

theorem nearest_le_infinity (num den : Nat) : nearest num den ≤ infinity := Nat.min_le_left ..

/-! ### The nearest float -/

section OfRatio

variable (negative : Bool) (num den : Nat)

theorem place_ofRatio : place (ofRatio negative num den) = nearest num den :=
  place_ofPlace negative (nearest_le_infinity num den)

theorem isNegative_ofRatio : isNegative (ofRatio negative num den) = negative :=
  isNegative_ofPlace negative (nearest_le_infinity num den)

/-- The float that a fraction becomes is no NaN. -/
theorem not_isNaN_ofRatio : ¬ (ofRatio negative num den).isNaN :=
  not_isNaN_ofPlace negative (nearest_le_infinity num den)

end OfRatio

/-- A float is the nearest one to `num / den` with a sign. -/
def Rounds (negative : Bool) (num den : Nat) (x : Float) : Prop :=
  isNegative x = negative ∧ IsNearest num den (place x)

/-- There is one nearest float, and it is the one that a fraction becomes. -/
theorem rounds_iff {negative : Bool} {num den : Nat} (hden : 0 < den) {x : Float} :
    Rounds negative num den x ↔ x = ofRatio negative num den := by
  unfold Rounds
  rw [isNearest_iff hden]
  constructor
  · rintro ⟨hsign, hplace⟩
    rw [ofRatio, ← hsign, ← hplace, ofPlace_place]
  · rintro rfl
    exact ⟨isNegative_ofRatio negative num den, place_ofRatio negative num den⟩

theorem not_isNaN_ofInt (z : Int) : ¬ (ofInt z).isNaN := not_isNaN_ofRatio _ _ _

/-- The float that a natural number becomes. -/
theorem ofInt_natCast (n : Nat) : ofInt n = ofRatio false n 1 := by
  rw [ofInt, Int.natAbs_natCast, decide_eq_false (Int.not_lt.2 (Int.natCast_nonneg n))]

theorem level_ofInt (z : Int) :
    level (ofInt z) = signed (decide (z < 0)) (nearest z.natAbs 1) := by
  rw [level, ofInt, isNegative_ofRatio, place_ofRatio]

/-- Integers are rounded in their order. -/
theorem level_ofInt_mono : Monotone fun z => level (ofInt z) := by
  intro z w h
  show level (ofInt z) ≤ level (ofInt w)
  rw [level_ofInt, level_ofInt, signed, signed]
  by_cases hz : z < 0
  · rw [if_pos (decide_eq_true hz)]
    by_cases hw : w < 0
    · -- Of two negative integers the smaller one has the larger magnitude.
      have hmagnitudes := nearest_mono Nat.one_pos (by omega : w.natAbs ≤ z.natAbs)
      rw [if_pos (decide_eq_true hw)]
      omega
    · rw [if_neg (by simpa using hw)]
      omega
  · have hw : ¬ w < 0 := by omega
    have hmagnitudes := nearest_mono Nat.one_pos (by omega : z.natAbs ≤ w.natAbs)
    rw [if_neg (by simpa using hz), if_neg (by simpa using hw)]
    omega

end DynExpr.Binary64
