import DynExpr.Binary64.Decimal
import Mathlib.Algebra.Order.Ring.Nat
import Mathlib.Tactic.SplitIfs

/-! # Rounding fractions and decimals

    Rounding looks only at the number that is rounded, not at how it is
    written as a fraction or as a decimal:

    * **Fractions**: equal fractions round to the same place
      (`nearest_eq_of_cross_eq`), and the exact value of a place rounds to
      that place (`nearest_units`).
    * **Decimals**: the answers that `Decimal.place` gives without computing
      a power of ten are those of `nearest` (`Decimal.place_eq_nearest`).
    * **Shortest decimals**: they round back to the place that they were
      found for (`shortest_place`).
-/

namespace DynExpr.Binary64

/-! ### Fractions -/

theorem halfEven_mul (num den : Nat) {k : Nat} (hk : 0 < k) :
    halfEven (num * k) (den * k) = halfEven num den := by
  have hdouble : 2 * (num % den * k) = 2 * (num % den) * k := (Nat.mul_assoc 2 _ k).symm
  have hbelow : 2 * (num % den) * k < den * k ↔ 2 * (num % den) < den := Nat.mul_lt_mul_right hk
  have htie : 2 * (num % den) * k = den * k ↔ 2 * (num % den) = den := Nat.mul_left_inj hk.ne'
  unfold halfEven
  simp only [Nat.mul_div_mul_right _ _ hk, Nat.mul_mod_mul_right, hdouble, hbelow, htie]

/-- A factor of both sides of a fraction does not change where it is rounded to. -/
theorem nearest_mul (num den : Nat) {k : Nat} (hk : 0 < k) :
    nearest (num * k) (den * k) = nearest num den := by
  have hscaled : num * k * 2 ^ 1074 = num * 2 ^ 1074 * k := Nat.mul_right_comm ..
  have hstep : ∀ shift, den * k * 2 ^ shift = den * 2 ^ shift * k := fun _ => Nat.mul_right_comm ..
  unfold nearest
  simp only [hscaled, hstep, Nat.mul_div_mul_right _ _ hk, halfEven_mul _ _ hk]

/-- Equal fractions round to the same place. -/
theorem nearest_eq_of_cross_eq {num den num' den' : Nat} (hden : 0 < den) (hden' : 0 < den')
    (h : num * den' = num' * den) : nearest num den = nearest num' den' :=
  calc nearest num den
      = nearest (num * den') (den * den') := (nearest_mul num den hden').symm
    _ = nearest (num' * den) (den' * den) := by rw [h, Nat.mul_comm den den']
    _ = nearest num' den' := nearest_mul num' den' hden

/-- A whole number is its own rounding. -/
theorem halfEven_whole (q : Nat) {den : Nat} (hden : 0 < den) : halfEven (q * den) den = q := by
  unfold halfEven
  simp only [Nat.mul_div_cancel q hden, Nat.mul_mod_left]
  exact if_pos (Or.inl hden)

theorem log2_mul_two_pow {m : Nat} (h : m ≠ 0) (j : Nat) : (m * 2 ^ j).log2 = m.log2 + j := by
  rw [Nat.log2_eq_iff (Nat.mul_ne_zero h (Nat.two_pow_pos j).ne'), Nat.add_right_comm,
    Nat.pow_add, Nat.pow_add]
  exact ⟨Nat.mul_le_mul_right _ (Nat.log2_self_le h),
    Nat.mul_lt_mul_of_pos_right Nat.lt_log2_self (Nat.two_pow_pos j)⟩

theorem log2_units {n : Nat} (h : 2 ^ 52 ≤ n) : (units n).log2 = 52 + (n / 2 ^ 52 - 1) := by
  have hunits : units n = (2 ^ 52 + n % 2 ^ 52) * 2 ^ (n / 2 ^ 52 - 1) := if_neg (Nat.not_lt.2 h)
  have hne : 2 ^ 52 + n % 2 ^ 52 ≠ 0 := by omega
  have hlog : (2 ^ 52 + n % 2 ^ 52).log2 = 52 := by
    rw [Nat.log2_eq_iff hne]
    omega
  rw [hunits, log2_mul_two_pow hne, hlog]

/-- The exact value of a place rounds to that place. -/
theorem nearest_units {n : Nat} (h : n ≤ infinity) : nearest (units n) (2 ^ 1074) = n := by
  unfold nearest
  -- What one unit is does not matter, and the power is too large to be computed.
  have hunit : 0 < 2 ^ 1074 := Nat.two_pow_pos 1074
  generalize 2 ^ 1074 = unit at hunit ⊢
  simp only [Nat.mul_div_cancel _ hunit]
  by_cases hsmall : n < 2 ^ 52
  · have hunits : units n = n := if_pos hsmall
    have hshift : n.log2 - 52 = 0 := by
      by_cases h0 : n = 0
      · rw [h0]
        rfl
      · have hlog := (Nat.log2_lt h0).2 hsmall
        omega
    rw [hunits, hshift, Nat.pow_zero, Nat.mul_one, halfEven_whole _ hunit, Nat.zero_mul,
      Nat.zero_add]
    exact Nat.min_eq_right h
  · have hlarge : 2 ^ 52 ≤ n := Nat.not_lt.1 hsmall
    have hunits : units n = (2 ^ 52 + n % 2 ^ 52) * 2 ^ (n / 2 ^ 52 - 1) := if_neg hsmall
    have hshift : 52 + (n / 2 ^ 52 - 1) - 52 = n / 2 ^ 52 - 1 := by omega
    have hplace : (n / 2 ^ 52 - 1) * 2 ^ 52 + (2 ^ 52 + n % 2 ^ 52) = n := by omega
    -- One step of the grid is a factor of the value and of the fraction's denominator.
    have hvalue : units n * unit =
        (2 ^ 52 + n % 2 ^ 52) * (unit * 2 ^ (n / 2 ^ 52 - 1)) := by
      rw [hunits, Nat.mul_assoc, Nat.mul_comm unit]
    have hstep : 0 < unit * 2 ^ (n / 2 ^ 52 - 1) := Nat.mul_pos hunit (Nat.two_pow_pos _)
    rw [log2_units hlarge, hshift, hvalue, halfEven_whole _ hstep, hplace]
    exact Nat.min_eq_right h

/-- What is less than half a unit rounds to zero. -/
theorem nearest_eq_zero {num den : Nat} (h : 2 * (num * 2 ^ 1074) < den) : nearest num den = 0 := by
  unfold nearest halfEven
  generalize num * 2 ^ 1074 = scaled at h ⊢
  have hquotient : scaled / den = 0 := Nat.div_eq_of_lt (by omega)
  have hrest : scaled % den = scaled := Nat.mod_eq_of_lt (by omega)
  have hshift : Nat.log2 0 - 52 = 0 := rfl
  simp only [hquotient, hshift, Nat.pow_zero, Nat.mul_one, hrest]
  rw [if_pos (Or.inl h), Nat.zero_mul, Nat.add_zero, Nat.min_zero]

/-- What is `2 ^ 1024` or more rounds to infinity. -/
theorem nearest_eq_infinity {num den : Nat} (hden : 0 < den) (h : 2 ^ 1024 * den ≤ num) :
    nearest num den = infinity := by
  have hscaled : 2 ^ (1024 + 1074) * den ≤ num * 2 ^ 1074 := by
    rw [Nat.pow_add 2 1024 1074]
    generalize 2 ^ 1024 = bound at h ⊢
    generalize 2 ^ 1074 = unit
    calc bound * unit * den = bound * den * unit := Nat.mul_right_comm ..
      _ ≤ num * unit := Nat.mul_le_mul_right unit h
  unfold nearest halfEven
  generalize num * 2 ^ 1074 = scaled at hscaled ⊢
  have hquotient : 2 ^ (1024 + 1074) ≤ scaled / den := (Nat.le_div_iff_mul_le hden).2 hscaled
  simp only [← Nat.div_div_eq_div_mul]
  generalize scaled / den = quotient at hquotient ⊢
  have hpos : quotient ≠ 0 := (Nat.lt_of_lt_of_le (Nat.two_pow_pos _) hquotient).ne'
  have hlog : 1024 + 1074 ≤ quotient.log2 := (Nat.le_log2 hpos).2 hquotient
  -- The leading bit of the quotient alone fills a whole significand.
  have hleading : 2 ^ 52 ≤ quotient / 2 ^ (quotient.log2 - 52) := by
    rw [Nat.le_div_iff_mul_le (Nat.two_pow_pos _), ← Nat.pow_add, Nat.add_sub_cancel' (by omega)]
    exact Nat.log2_self_le hpos
  apply Nat.min_eq_left
  unfold infinity
  split_ifs <;> omega

/-! ### Decimals -/

namespace Decimal

theorem den_pos (d : Decimal) : 0 < d.den := Nat.pow_pos (by decide)

/-- The answers without a power of ten are those of `nearest`. -/
theorem place_eq_nearest (d : Decimal) : d.place = nearest d.num d.den := by
  unfold place
  split_ifs with hzero hlarge hsmall
  · have hnum : d.num = 0 := by rw [num, hzero, Nat.zero_mul]
    symm
    apply nearest_eq_zero
    generalize 2 ^ 1074 = unit
    rw [hnum, Nat.zero_mul, Nat.mul_zero]
    exact d.den_pos
  · have hden : d.den = 1 := by rw [den, Int.toNat_of_nonpos (by omega), Nat.pow_zero]
    have hpower : 2 ^ 1024 ≤ 10 ^ d.exponent.toNat :=
      calc 2 ^ 1024 ≤ 10 ^ 400 := by decide +kernel
        _ ≤ 10 ^ d.exponent.toNat := Nat.pow_le_pow_right (by decide) (by omega)
    have hnum : 10 ^ d.exponent.toNat ≤ d.num := Nat.le_mul_of_pos_left _ (by omega)
    rw [hden]
    symm
    apply nearest_eq_infinity Nat.one_pos
    generalize 2 ^ 1024 = bound at hpower ⊢
    rw [Nat.mul_one]
    exact hpower.trans hnum
  · have hnum : d.num = d.digits := by
      rw [num, Int.toNat_of_nonpos (by omega), Nat.pow_zero, Nat.mul_one]
    have hdigits : d.digits < 2 ^ (d.digits.log2 + 1) := Nat.lt_log2_self
    have hscaled : 2 * (d.num * 2 ^ 1074) < 2 * (2 ^ (d.digits.log2 + 1) * 2 ^ 1074) := by
      rw [hnum, Nat.mul_lt_mul_left Nat.two_pos, Nat.mul_lt_mul_right (Nat.two_pow_pos 1074)]
      exact hdigits
    have hpowers : ∀ a b, 2 * (2 ^ a * 2 ^ b) = 2 ^ (a + b + 1) := by
      intro a b
      rw [← Nat.pow_add, ← Nat.pow_succ']
    -- A power of ten is more than the power of two with thrice the exponent.
    have hden : 2 ^ (3 * (-d.exponent).toNat) ≤ d.den := by
      rw [den, Nat.pow_mul]
      exact Nat.pow_le_pow_left (by decide) _
    symm
    apply nearest_eq_zero
    calc 2 * (d.num * 2 ^ 1074)
        < 2 * (2 ^ (d.digits.log2 + 1) * 2 ^ 1074) := hscaled
      _ = 2 ^ (d.digits.log2 + 1 + 1074 + 1) := hpowers (d.digits.log2 + 1) 1074
      _ ≤ 2 ^ (3 * (-d.exponent).toNat) := Nat.pow_le_pow_right (by decide) (by omega)
      _ ≤ d.den := hden
  · rfl

/-- A decimal that does not round to zero is at least half a unit. -/
theorem den_le_of_place_ne_zero {d : Decimal} (h : d.place ≠ 0) :
    d.den ≤ 2 * (d.num * 2 ^ 1074) := by
  rw [place_eq_nearest] at h
  exact Nat.not_lt.1 (mt nearest_eq_zero h)

/-- A decimal that does not round to infinity is below `2 ^ 1024`. -/
theorem num_lt_of_place_ne_infinity {d : Decimal} (h : d.place ≠ infinity) :
    d.num < 2 ^ 1024 * d.den := by
  rw [place_eq_nearest] at h
  exact Nat.not_le.1 fun hle => h (nearest_eq_infinity d.den_pos hle)

/-- Decimals of the same value have the same place. -/
theorem place_eq_of_cross_eq {d d' : Decimal} (h : d.num * d'.den = d'.num * d.den) :
    d.place = d'.place := by
  rw [place_eq_nearest, place_eq_nearest]
  exact nearest_eq_of_cross_eq d.den_pos d'.den_pos h

/-- Zeros behind the digits count as much in the exponent. -/
theorem place_shift (digits k : Nat) (e : Int) :
    place ⟨digits * 10 ^ k, e⟩ = place ⟨digits, e + k⟩ := by
  apply place_eq_of_cross_eq
  have hexponents : k + e.toNat + (-(e + k)).toNat = (e + k).toNat + (-e).toNat := by omega
  show digits * 10 ^ k * 10 ^ e.toNat * 10 ^ (-(e + k)).toNat =
    digits * 10 ^ (e + k).toNat * 10 ^ (-e).toNat
  rw [Nat.mul_assoc, Nat.mul_assoc, Nat.mul_assoc, ← Nat.pow_add, ← Nat.pow_add, ← Nat.pow_add,
    ← Nat.add_assoc, hexponents]

theorem stripped_place (d : Decimal) : d.stripped.place = d.place := by
  fun_induction stripped d with
  | case1 d h ih =>
    have hdigits : d.digits / 10 * 10 ^ 1 = d.digits := by omega
    have hshift := place_shift (d.digits / 10) 1 d.exponent
    rw [hdigits] at hshift
    exact ih.trans hshift.symm
  | case2 d h => rfl

end Decimal

/-! ### Shortest decimals -/

theorem onGrid?_place {n : Nat} {e : Int} {d : Decimal} (h : onGrid? n e = some d) :
    d.place = n := by
  have htried {tried : Prop} [Decidable tried] {candidate : Decimal}
      (hsome : (if tried ∧ candidate.place = n then some candidate else none) = some d) :
      d.place = n := by
    obtain ⟨hback, hcandidate⟩ := Option.ite_none_right_eq_some.1 hsome
    cases hcandidate
    exact hback.2
  unfold onGrid? at h
  simp only at h
  split at h
  all_goals
    rw [Option.orElse_eq_orElse, Option.orElse_eq_or, Option.or_eq_some_iff] at h
    rcases h with hfirst | ⟨-, hsecond⟩
    · exact htried hfirst
    · exact htried hsecond

/-- The exact value of a place, written out, is at that place. -/
theorem exactDecimal_place {n : Nat} (h : n ≤ infinity) : (exactDecimal n).place = n := by
  have hten : ∀ k, 10 ^ k = 2 ^ k * 5 ^ k := Nat.mul_pow 2 5
  have hexponent : (-(exactDecimal n).exponent).toNat = 1074 := rfl
  have hden : (exactDecimal n).den = 2 ^ 1074 * 5 ^ 1074 := by
    rw [Decimal.den, hexponent]
    exact hten 1074
  have hnum : (exactDecimal n).num = units n * 5 ^ 1074 := Nat.mul_one _
  have hfive : ∀ k, 0 < 5 ^ k := fun k => Nat.pow_pos (by decide)
  have hcancel := nearest_mul (units n) (2 ^ 1074) (hfive 1074)
  rw [Decimal.place_eq_nearest, hden, hnum, hcancel, nearest_units h]

/-- The shortest decimal of a place rounds back to it. -/
theorem shortest_place {n : Nat} (h : n ≤ infinity) : (shortest n).place = n := by
  unfold shortest
  dsimp only
  split
  · next d hfound =>
    obtain ⟨count, -, hcount⟩ := List.exists_of_findSome?_eq_some hfound
    rw [Decimal.stripped_place]
    exact onGrid?_place hcount
  · rw [Decimal.stripped_place]
    exact exactDecimal_place h

end DynExpr.Binary64
