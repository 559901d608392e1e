import DynExpr.Proofs.Binary64.Number

/-! # Exact products

    The product of two floats is rounded only if it has to be:

    * **Short fractions**: a number of up to 53 binary digits, over a power of
      two, is the value of a place (`units_nearest`).
    * **Multiplication**: if the product of two values is the value of a place
      again, then the product of the floats is the float at that place
      (`mul_eq_ofPlace`). The significands are multiplied, and what shifting
      them back cuts off are zeros.
    * **Scaling**: so an integer of up to 53 binary digits becomes a float and
      is then divided by a power of two, both without rounding
      (`ofInt_mul_ofRatio`).
-/

namespace DynExpr.Binary64

open Float.Model (UnpackedFloat Format)
open Float.Model.UnpackedFloat

/-! ### Short fractions -/

section ShortFractions

variable {m k : Nat} (hm : m ≤ 2 ^ 53) (hk : k ≤ 1074)
include hm hk

/-- A number of up to 53 binary digits over a power of two is not rounded. -/
theorem units_nearest : units (nearest m (2 ^ k)) * 2 ^ k = m * one := by
  obtain ⟨n, hn, hunits⟩ := exists_units_eq (j := 1074 - k) hm (by omega)
  have hvalue : units n * 2 ^ k = m * one := by
    rw [hunits, one_eq, Nat.mul_assoc, ← Nat.pow_add, Nat.sub_add_cancel hk]
  have hplace : nearest m (2 ^ k) = n := by
    rw [← nearest_units hn]
    apply nearest_eq_of_cross_eq (Nat.two_pow_pos k) (Nat.two_pow_pos 1074)
    rw [← one_eq]
    exact hvalue.symm
  rw [hplace, hvalue]

theorem nearest_lt_infinity : nearest m (2 ^ k) < infinity := by
  have hvalue := units_nearest hm hk
  have hle : units (nearest m (2 ^ k)) ≤ m * one :=
    calc units (nearest m (2 ^ k)) ≤ units (nearest m (2 ^ k)) * 2 ^ k :=
          Nat.le_mul_of_pos_right _ (Nat.two_pow_pos k)
      _ = m * one := hvalue
  have hbound : m * one < units infinity := mul_one_lt_units_infinity (hm.trans (by decide))
  exact units_strictMono.lt_iff_lt.1 (hle.trans_lt hbound)

/-- The fraction is the number that its float is. -/
theorem number_ofRatio : number (ofRatio false m (2 ^ k)) = ((m / 2 ^ k : ℝ) : EReal) := by
  have hfinite := (nearest_lt_infinity hm hk).ne
  have hone : (one : ℝ) ≠ 0 := Nat.cast_ne_zero.2 one_pos.ne'
  have hvalue : (units (nearest m (2 ^ k)) : ℝ) * 2 ^ k = m * one := by
    exact_mod_cast units_nearest hm hk
  have hquotient : (units (nearest m (2 ^ k)) : ℝ) / one = m / 2 ^ k := by
    rw [div_eq_div_iff hone (by positivity), hvalue]
  rw [number, amount, place_ofRatio, isNegative_ofRatio, if_neg hfinite]
  exact congrArg _ hquotient

end ShortFractions

theorem number_zero : number 0.0 = 0 := by
  have hzero : (0.0 : Float) = ofRatio false 0 (2 ^ 0) := by decide +kernel
  rw [hzero, number_ofRatio (by decide) (by decide)]
  simp

theorem number_one : number 1.0 = 1 := by
  have hone : (1.0 : Float) = ofRatio false 1 (2 ^ 0) := by decide +kernel
  rw [hone, number_ofRatio (by decide) (by decide)]
  simp

/-! ### Shifting significands -/

/-- The exponent of a place, counted from that of the smallest one. -/
theorem exponent_eq (n : Nat) : exponent n = (n / 2 ^ 52 - 1 : Nat) - 1074 := by
  unfold exponent
  omega

theorem targetExponent_eq (e : Int) : Format.binary64.targetExponent e = max (e - 53) (-1074) :=
  rfl

/-- Zeros that are shifted out leave no trace in the bits that rounding looks at. -/
theorem shiftRight_mul_two_pow (m j : Nat) :
    ExtendedMantissa.mk (m * 2 ^ j) false false >>> j = ExtendedMantissa.mk m false false := by
  induction j generalizing m with
  | zero => rw [Nat.pow_zero, Nat.mul_one]; rfl
  | succ j ih =>
    have hfactor : m * 2 ^ (j + 1) = m * 2 * 2 ^ j := by rw [Nat.pow_succ', Nat.mul_assoc]
    have hhalf : m * 2 / 2 = m := Nat.mul_div_cancel m Nat.two_pos
    rw [hfactor]
    show ExtendedMantissa.shiftRightOne (ExtendedMantissa.mk (m * 2 * 2 ^ j) false false >>> j) = _
    rw [ih]
    simp [ExtendedMantissa.shiftRightOne, hhalf]

section Place

variable {n : Nat} (h0 : n ≠ 0)
include h0

/-- Followed by zeros, a significand is shifted back to where it was. -/
theorem shiftToTargetExponent_significand (j : Nat) :
    shiftToTargetExponent Format.binary64 (significand n * 2 ^ j) (exponent n - j) .exact =
      (ExtendedMantissa.mk (significand n) false false, exponent n) := by
  have hpos := significand_pos h0
  have hlog := log2_mul_two_pow hpos.ne' j
  have hlt : (significand n).log2 < 53 := (Nat.log2_lt hpos.ne').2 (significand_lt n)
  -- The leading bit of a normal significand is its 53rd, and a subnormal place has the least
  -- exponent that there is.
  have htarget : Format.binary64.targetExponent
      (Float.Model.totalExponent (significand n * 2 ^ j) (exponent n - j)) = exponent n := by
    rw [targetExponent_eq, Float.Model.totalExponent, hlog, exponent_eq]
    by_cases hsmall : n < 2 ^ 52
    · omega
    · have hlow := (Nat.le_log2 hpos.ne').2 (le_significand (Nat.not_lt.1 hsmall))
      omega
  have hshift : (exponent n - (exponent n - j)).toNat = j := by omega
  unfold shiftToTargetExponent shiftToExponent
  simp only [htarget, hshift]
  rw [ExtendedMantissa.ofMantissaAndAccuracy, shiftRight_mul_two_pow, Int.sub_add_cancel]

/-- So it is what a significand with zeros behind it is rounded to. -/
theorem roundWithAccuracy_significand (hn : n < infinity) (negative : Bool) (j : Nat) :
    roundWithAccuracy Format.binary64 (signOf negative) (significand n * 2 ^ j) (exponent n - j)
      .exact = datum negative n := by
  have hagain := shiftToTargetExponent_significand h0 0
  rw [Nat.pow_zero, Nat.mul_one, Int.natCast_zero, Int.sub_zero] at hagain
  have hrounded : (ExtendedMantissa.mk (significand n) false false).roundedMantissa =
      significand n := rfl
  rw [datum_finite _ h0 hn, roundWithAccuracy, shiftToTargetExponent_significand h0 j]
  simp only [hrounded, hagain]
  exact dif_neg (significand_pos h0).ne'

end Place

/-! ### Multiplication -/

/-- A float is packed from what its sign and its place say. -/
theorem ofPlace_eq_pack (negative : Bool) {n : Nat} (h : n < infinity) :
    ofPlace negative n = Float.ofModel (Float.Model.pack (datum negative n)) := by
  have hbelow : n < 2 ^ 63 := h.trans (by decide)
  have hsmall : (if negative then 2 ^ 63 + n else n) < 2 ^ 64 := by split <;> omega
  have hword : (UInt64.ofNat (if negative then 2 ^ 63 + n else n)).toBitVec.toNat =
      if negative then 2 ^ 63 + n else n := UInt64.toNat_ofNat_of_lt' hsmall
  have hsign : decide (2 ^ 63 ≤ if negative then 2 ^ 63 + n else n) = negative := by
    cases negative with
    | false => exact decide_eq_false (Nat.not_le.2 hbelow)
    | true => exact decide_eq_true (Nat.le_add_right ..)
  have hplace : (if negative then 2 ^ 63 + n else n) % 2 ^ 63 = n := by split <;> omega
  rw [ofPlace, Float.ofBits, Float.Model.ofBits, unpack_eq_datum_bits, hword, hsign, hplace]

theorem mul_eq_pack (x y : Float) :
    x * y = Float.ofModel (Float.Model.pack (UnpackedFloat.mul Format.binary64
      (datum (isNegative x) (place x)) (datum (isNegative y) (place y)))) := by
  rw [← unpack_eq_datum, ← unpack_eq_datum]
  rfl

theorem signOf_mul (s t : Bool) : signOf s * signOf t = signOf (s ^^ t) := by
  cases s <;> cases t <;> rfl

/-- The significands of two places, multiplied, are that of a third one with zeros behind it, if
    the values are. -/
theorem exists_significand_mul {n m p : Nat} (hn : n ≠ 0) (hm : m ≠ 0)
    (h : units n * units m = units p * one) :
    ∃ j : Nat, significand n * significand m = significand p * 2 ^ j ∧
      exponent n + exponent m = exponent p - j := by
  have hvalues : significand n * significand m * 2 ^ ((n / 2 ^ 52 - 1) + (m / 2 ^ 52 - 1)) =
      significand p * 2 ^ ((p / 2 ^ 52 - 1) + 1074) := by
    rw [units_eq, units_eq, units_eq, one_eq, Nat.mul_mul_mul_comm,
      Nat.mul_assoc (significand p)] at h
    simpa only [step, Nat.pow_add] using h
  have hnpos := significand_pos hn
  have hmpos := significand_pos hm
  -- Otherwise the third significand would be a multiple of the others and too long: at least one
  -- of them has all 53 digits.
  have hle : (n / 2 ^ 52 - 1) + (m / 2 ^ 52 - 1) ≤ (p / 2 ^ 52 - 1) + 1074 := by
    by_contra hlt
    obtain ⟨i, hi⟩ := Nat.exists_eq_add_of_lt (Nat.not_le.1 hlt)
    rw [hi, Nat.add_assoc, Nat.add_comm _ (i + 1), Nat.pow_add 2 (i + 1),
      ← Nat.mul_assoc] at hvalues
    have hproduct := Nat.eq_of_mul_eq_mul_right (Nat.two_pow_pos _) hvalues
    have hlong : 2 ^ 52 ≤ significand n * significand m := by
      by_cases hsmall : n < 2 ^ 52
      · have hlarge : 2 ^ 52 ≤ m := by omega
        exact (le_significand hlarge).trans (Nat.le_mul_of_pos_left _ hnpos)
      · exact (le_significand (Nat.not_lt.1 hsmall)).trans (Nat.le_mul_of_pos_right _ hmpos)
    have hdouble : significand n * significand m * 2 ≤ significand p := by
      rw [← hproduct, Nat.pow_succ']
      exact Nat.mul_le_mul_left _ (Nat.le_mul_of_pos_right 2 (Nat.two_pow_pos i))
    have hshort := significand_lt p
    omega
  obtain ⟨j, hj⟩ := Nat.exists_eq_add_of_le hle
  refine ⟨j, ?_, ?_⟩
  · rw [hj, Nat.add_comm _ j, Nat.pow_add 2 j, ← Nat.mul_assoc] at hvalues
    exact Nat.eq_of_mul_eq_mul_right (Nat.two_pow_pos _) hvalues
  · rw [exponent_eq, exponent_eq, exponent_eq]
    omega

/-- A product with zero is zero. -/
theorem mul_datum_zero (s t : Bool) {n : Nat} (hn : n < infinity) :
    UnpackedFloat.mul Format.binary64 (datum s 0) (datum t n) = datum (s ^^ t) 0 ∧
      UnpackedFloat.mul Format.binary64 (datum t n) (datum s 0) = datum (s ^^ t) 0 := by
  rw [datum_zero, datum_zero, ← signOf_mul]
  by_cases h0 : n = 0
  · rw [h0, datum_zero]
    cases s <;> cases t <;> exact ⟨rfl, rfl⟩
  · rw [datum_finite t h0 hn]
    cases s <;> cases t <;> exact ⟨rfl, rfl⟩

/-- Data of finite magnitudes are multiplied without rounding if their product is on the grid. -/
theorem mul_datum (s t : Bool) {n m p : Nat} (hn : n < infinity) (hm : m < infinity)
    (hp : p < infinity) (h : units n * units m = units p * one) :
    UnpackedFloat.mul Format.binary64 (datum s n) (datum t m) = datum (s ^^ t) p := by
  have hzero : p = 0 ↔ n = 0 ∨ m = 0 := by
    rw [← @units_eq_zero_iff n, ← @units_eq_zero_iff m, ← Nat.mul_eq_zero, h, Nat.mul_eq_zero,
      or_iff_left one_pos.ne', units_eq_zero_iff]
  by_cases hp0 : p = 0
  · rw [hp0]
    rcases hzero.1 hp0 with rfl | rfl
    · exact (mul_datum_zero s t hm).1
    · rw [Bool.xor_comm]
      exact (mul_datum_zero t s hn).2
  · obtain ⟨hn0, hm0⟩ := not_or.1 (mt hzero.2 hp0)
    obtain ⟨j, hsignificand, hexponent⟩ := exists_significand_mul hn0 hm0 h
    rw [datum_finite _ hn0 hn, datum_finite _ hm0 hm, ← roundWithAccuracy_significand hp0 hp _ j,
      ← signOf_mul, ← hsignificand, ← hexponent]
    rfl

/-- **Exact products**: if the product of the values of two finite floats is the value of a place,
    then the product of the floats is the float at that place. -/
theorem mul_eq_ofPlace {x y : Float} {n : Nat} (hx : place x < infinity) (hy : place y < infinity)
    (hn : n < infinity) (h : units (place x) * units (place y) = units n * one) :
    x * y = ofPlace (isNegative x ^^ isNegative y) n := by
  rw [ofPlace_eq_pack _ hn, mul_eq_pack, mul_datum _ _ hx hy hn h]

/-- **Scaling**: an integer of up to 53 binary digits becomes a float and is divided by a power of
    two, both without rounding. -/
theorem ofInt_mul_ofRatio {m k : Nat} (hm : m ≤ 2 ^ 53) (hk : k ≤ 1074) :
    ofInt m * ofRatio false 1 (2 ^ k) = ofRatio false m (2 ^ k) := by
  have hinteger : units (nearest m 1) = m * one := by
    simpa using units_nearest hm (Nat.zero_le 1074)
  have hpower : units (nearest 1 (2 ^ k)) * 2 ^ k = one := by
    simpa using units_nearest Nat.one_le_two_pow hk
  have hproduct : units (nearest m 1) * units (nearest 1 (2 ^ k)) =
      units (nearest m (2 ^ k)) * one := by
    apply Nat.eq_of_mul_eq_mul_right (Nat.two_pow_pos k)
    rw [Nat.mul_assoc, hpower, Nat.mul_right_comm, units_nearest hm hk, hinteger]
  have hinfinity := nearest_lt_infinity hm (Nat.zero_le 1074)
  rw [ofInt_natCast, mul_eq_ofPlace (n := nearest m (2 ^ k)), isNegative_ofRatio,
    isNegative_ofRatio]
  · rfl
  · rw [place_ofRatio]
    exact hinfinity
  · rw [place_ofRatio]
    exact nearest_lt_infinity Nat.one_le_two_pow hk
  · exact nearest_lt_infinity hm hk
  · rw [place_ofRatio, place_ofRatio, hproduct]

end DynExpr.Binary64
