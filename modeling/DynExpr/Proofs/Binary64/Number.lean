import DynExpr.Proofs.Binary64.Nearest

/-! # The numbers that floats are

    A float other than NaN is a number, perhaps an infinite one, and stands in
    the order of these numbers to the integers:

    * **Numbers**: `amount` counts the units of `2 ^ -1074` in a float, and
      `number` is the float as an extended real number. For integers up to the
      range of floats the order is that of the amounts (`compare_number`), and
      for two floats it is that of their levels (`compare_number_number`).
    * **Integers that are floats**: `IsFloat`. All integers up to `2 ^ 53` in
      magnitude are (`isFloat_of_le`), since the steps of the grid there
      divide one.
    * **Rounding** an integer does not carry it past any float
      (`level_ofInt_le`, `le_level_ofInt`). So it stands to a float as it did
      before, unless it is rounded to just that float (`level_ofInt_eq_iff`).
-/

namespace DynExpr.Binary64

/-! ### Numbers -/

/-- One, in units of `2 ^ -1074`. -/
def one : Nat := 2 ^ 1074

theorem one_eq : one = 2 ^ 1074 := by rw [one]

theorem one_pos : 0 < one := by
  rw [one_eq]
  exact Nat.two_pow_pos 1074

/-- How many units a float is, with its sign. Infinity counts as the number that would follow the
    largest float. -/
def amount (x : Float) : Int := signed (isNegative x) (units (place x))

/-- The number that a float other than NaN is. -/
noncomputable def number (x : Float) : EReal :=
  if place x = infinity then (if isNegative x then ⊥ else ⊤) else ((amount x / one : ℝ) : EReal)

theorem units_eq_zero_iff {n : Nat} : units n = 0 ↔ n = 0 := by
  have hzero : units 0 = 0 := rfl
  exact ⟨fun h => units_strictMono.injective (h.trans hzero.symm), fun h => h ▸ hzero⟩

theorem signed_zero (negative : Bool) : signed negative 0 = 0 := by
  cases negative <;> rfl

theorem signed_inj {s t : Bool} {n m : Nat} :
    signed s n = signed t m ↔ n = m ∧ (s = t ∨ n = 0) := by
  unfold signed
  cases s <;> cases t <;> simp <;> omega

/-- A negative number lies below all numbers of smaller magnitude, whatever their sign. -/
theorem signed_true_lt (s : Bool) {n m : Nat} (h : n < m) : signed true m < signed s n := by
  unfold signed
  cases s <;> simp only [if_true, Bool.false_eq_true, if_false] <;> omega

/-- A positive number lies above all of them. -/
theorem signed_lt_false (s : Bool) {n m : Nat} (h : n < m) : signed s n < signed false m := by
  unfold signed
  cases s <;> simp only [if_true, Bool.false_eq_true, if_false] <;> omega

/-- Floats at the same level are the same number. -/
theorem amount_eq_of_level_eq {x y : Float} (h : level x = level y) : amount x = amount y := by
  obtain ⟨hplace, hsign | hzero⟩ := signed_inj.1 h
  · rw [amount, amount, hplace, hsign]
  · -- The two zeros are at one level and differ in their sign.
    rw [amount, amount, ← hplace, hzero, units_eq_zero_iff.2 rfl, signed_zero, signed_zero]

/-- An integer in units. -/
theorem mul_one_eq_signed (z : Int) : z * one = signed (decide (z < 0)) (z.natAbs * one) := by
  unfold signed
  by_cases hz : z < 0
  · rw [if_pos (decide_eq_true hz), Int.natCast_mul, ← Int.neg_mul,
      Int.ofNat_natAbs_of_nonpos hz.le, Int.neg_neg]
  · rw [if_neg (by simpa using hz), Int.natCast_mul, Int.natAbs_of_nonneg (Int.not_lt.1 hz)]

theorem place_le_infinity {x : Float} (hx : ¬ x.isNaN) : place x ≤ infinity :=
  Nat.not_lt.1 (mt (isNaN_iff x).2 hx)

theorem compare_of_strictMono {α β : Type*} [LinearOrder α] [LinearOrder β] {f : α → β}
    (hf : StrictMono f) (a b : α) : compare (f a) (f b) = compare a b := by
  rw [← cmp_eq_compare, ← cmp_eq_compare, hf.cmp_map_eq]

theorem mul_one_lt_units_infinity {n : Nat} (h : n ≤ 2 ^ 64) : n * one < units infinity := by
  have hrange : 2 ^ 64 < 2 ^ 1024 := by decide +kernel
  rw [units_infinity, ← one_eq]
  generalize 2 ^ 1024 = bound at hrange ⊢
  exact Nat.mul_lt_mul_of_pos_right (Nat.lt_of_le_of_lt h hrange) one_pos

/-- An integer stands to the number that a float is as their amounts do. -/
theorem compare_number {z : Int} (hz : z.natAbs ≤ 2 ^ 64) (x : Float) :
    compare ((z : ℝ) : EReal) (number x) = compare (z * one) (amount x) := by
  have hbound := mul_one_lt_units_infinity hz
  unfold number
  split_ifs with hinfinite hnegative
  · have hbelow : amount x < z * one := by
      rw [amount, hinfinite, hnegative, mul_one_eq_signed]
      exact signed_true_lt _ hbound
    rw [compare_gt_iff_gt.2 (EReal.bot_lt_coe _), compare_gt_iff_gt.2 hbelow]
  · have habove : z * one < amount x := by
      rw [amount, hinfinite, Bool.eq_false_of_not_eq_true hnegative, mul_one_eq_signed]
      exact signed_lt_false _ hbound
    rw [compare_lt_iff_lt.2 (EReal.coe_lt_top _), compare_lt_iff_lt.2 habove]
  · -- Two finite numbers: both are their amounts over `one`, and dividing keeps the order.
    have hone : (0 : ℝ) < one := Nat.cast_pos.2 one_pos
    have hmono : StrictMono fun a : Int => ((a / one : ℝ) : EReal) := by
      intro a b hab
      apply EReal.coe_lt_coe_iff.2
      exact div_lt_div_of_pos_right (Int.cast_lt.2 hab) hone
    have hunits : (z : ℝ) = ((z * one : Int) : ℝ) / one := by
      rw [Int.cast_mul, Int.cast_natCast, mul_div_cancel_right₀ _ hone.ne']
    rw [hunits]
    exact compare_of_strictMono hmono (z * one) (amount x)

theorem number_eq_iff {z : Int} (hz : z.natAbs ≤ 2 ^ 64) (x : Float) :
    number x = (z : ℝ) ↔ amount x = z * one := by
  rw [eq_comm, ← compare_eq_iff_eq, compare_number hz, compare_eq_iff_eq, eq_comm]

/-! ### Rounding in between floats -/

/-- Numbers with signs keep their order if their magnitudes do, and zero stays zero. -/
theorem signed_le_signed {s t : Bool} {a b a' b' : Nat} (hle : a ≤ b → a' ≤ b')
    (hge : b ≤ a → b' ≤ a') (hzero : a = 0 → a' = 0) (h : signed s a ≤ signed t b) :
    signed s a' ≤ signed t b' := by
  unfold signed at h ⊢
  cases s <;> cases t <;> simp only [if_true, Bool.false_eq_true, if_false] at h ⊢ <;> omega

theorem nearest_one_le {m n : Nat} (hn : n ≤ infinity) (h : m * one ≤ units n) :
    nearest m 1 ≤ n := by
  apply nearest_le_place Nat.one_pos hn
  rwa [Nat.mul_one, ← one_eq]

theorem le_nearest_one {m n : Nat} (hn : n ≤ infinity) (h : units n ≤ m * one) :
    n ≤ nearest m 1 := by
  apply place_le_nearest Nat.one_pos hn
  rwa [Nat.mul_one, ← one_eq]

section Rounding

variable {z : Int} {x : Float} (hx : ¬ x.isNaN)
include hx

/-- Rounding does not carry an integer above a float. -/
theorem level_ofInt_le (h : z * one ≤ amount x) : level (ofInt z) ≤ level x := by
  have hplace := place_le_infinity hx
  rw [mul_one_eq_signed] at h
  rw [level_ofInt]
  refine signed_le_signed (nearest_one_le hplace) (le_nearest_one hplace) ?_ h
  intro hzero
  exact Nat.le_zero.1 (nearest_one_le (Nat.zero_le _) hzero.le)

/-- Nor does it carry it below one. -/
theorem le_level_ofInt (h : amount x ≤ z * one) : level x ≤ level (ofInt z) := by
  have hplace := place_le_infinity hx
  rw [mul_one_eq_signed] at h
  rw [level_ofInt]
  exact signed_le_signed (le_nearest_one hplace) (nearest_one_le hplace) units_eq_zero_iff.1 h

/-- An integer that a float is equal to is rounded to it. -/
theorem level_ofInt_of_amount (h : amount x = z * one) : level (ofInt z) = level x :=
  Int.le_antisymm (level_ofInt_le hx h.ge) (le_level_ofInt hx h.le)

end Rounding

/-! ### The order of two floats -/

section TwoFloats

variable {x y : Float}

/-- Amounts are in the order of the levels. -/
theorem amount_lt_of_level_lt (h : level x < level y) : amount x < amount y := by
  by_contra hnot
  have hle : level y ≤ level x := signed_le_signed units_strictMono.le_iff_le.1
    units_strictMono.le_iff_le.1 units_eq_zero_iff.1 (Int.not_lt.1 hnot)
  omega

theorem number_eq_of_level_eq (h : level x = level y) : number x = number y := by
  have hamount := amount_eq_of_level_eq h
  obtain ⟨hplace, hsign | hzero⟩ := signed_inj.1 h
  · rw [number, number, hplace, hsign, hamount]
  · -- The two zeros differ in their sign, but are not infinite.
    have hfinite : place x ≠ infinity := by
      rw [hzero]
      decide
    rw [number, number, ← hplace, if_neg hfinite, if_neg hfinite, hamount]

/-- Floats are infinite at either end of the levels, and finite between them. -/
theorem number_cases (hx : ¬ x.isNaN) :
    level x = -infinity ∧ number x = ⊥ ∨ level x = infinity ∧ number x = ⊤ ∨
      (-infinity < level x ∧ level x < infinity) ∧ number x = ((amount x / one : ℝ) : EReal) := by
  have hbound := place_le_infinity hx
  unfold level signed number
  split_ifs with hnegative hinfinite hinfinite
  · exact Or.inl ⟨by rw [hinfinite], rfl⟩
  · exact Or.inr (Or.inr ⟨by omega, rfl⟩)
  · exact Or.inr (Or.inl ⟨by rw [hinfinite], rfl⟩)
  · exact Or.inr (Or.inr ⟨by omega, rfl⟩)

/-- So numbers are in the order of the levels as well. -/
theorem number_lt_of_level_lt (hx : ¬ x.isNaN) (hy : ¬ y.isNaN) (h : level x < level y) :
    number x < number y := by
  rcases number_cases hx with ⟨hxlevel, hx⟩ | ⟨hxlevel, hx⟩ | ⟨hxlevel, hx⟩
  · rcases number_cases hy with ⟨hylevel, hy⟩ | ⟨hylevel, hy⟩ | ⟨hylevel, hy⟩
    · omega
    · rw [hx, hy]
      exact bot_lt_top
    · rw [hx, hy]
      exact EReal.bot_lt_coe _
  · rcases number_cases hy with ⟨hylevel, hy⟩ | ⟨hylevel, hy⟩ | ⟨hylevel, hy⟩ <;> omega
  · rcases number_cases hy with ⟨hylevel, hy⟩ | ⟨hylevel, hy⟩ | ⟨hylevel, hy⟩
    · omega
    · rw [hx, hy]
      exact EReal.coe_lt_top _
    · have hone : (0 : ℝ) < one := Nat.cast_pos.2 one_pos
      rw [hx, hy]
      apply EReal.coe_lt_coe_iff.2
      exact div_lt_div_of_pos_right (Int.cast_lt.2 (amount_lt_of_level_lt h)) hone

/-- Two floats stand to each other as the numbers that they are. -/
theorem compare_number_number (hx : ¬ x.isNaN) (hy : ¬ y.isNaN) :
    compare (number x) (number y) = compare (level x) (level y) := by
  rcases Int.lt_trichotomy (level x) (level y) with h | h | h
  · rw [compare_lt_iff_lt.2 h, compare_lt_iff_lt.2 (number_lt_of_level_lt hx hy h)]
  · rw [compare_eq_iff_eq.2 h, compare_eq_iff_eq.2 (number_eq_of_level_eq h)]
  · rw [compare_gt_iff_gt.2 h, compare_gt_iff_gt.2 (number_lt_of_level_lt hy hx h)]

end TwoFloats

/-! ### Integers that are floats -/

/-- The integer is one of the numbers that floats are. -/
def IsFloat (z : Int) : Prop := ∃ x : Float, ¬ x.isNaN ∧ number x = (z : ℝ)

theorem isFloat_iff {z : Int} (hz : z.natAbs ≤ 2 ^ 64) :
    IsFloat z ↔ amount (ofInt z) = z * one := by
  constructor
  · intro h
    obtain ⟨x, hx, hnumber⟩ := h
    have hamount := (number_eq_iff hz x).1 hnumber
    rw [amount_eq_of_level_eq (level_ofInt_of_amount hx hamount), hamount]
  · intro h
    exact ⟨ofInt z, not_isNaN_ofInt z, (number_eq_iff hz _).2 h⟩

/-- A multiple of the step between two neighbouring places is the first of them. -/
theorem units_eq_of_step_dvd {n q : Nat} (hlow : units n ≤ q) (hhigh : q < units (n + 1))
    (hstep : step n ∣ q) : units n = q := by
  obtain ⟨k, rfl⟩ := hstep
  rw [units_succ, units_eq, ← Nat.succ_mul, Nat.mul_comm (step n)] at hhigh
  rw [units_eq, Nat.mul_comm (step n)] at hlow
  have hle := Nat.le_of_mul_le_mul_right hlow (step_pos n)
  have hlt := Nat.lt_of_mul_lt_mul_right hhigh
  have hk : significand n = k := by omega
  rw [units_eq, hk, Nat.mul_comm]

/-- The first place of a binade, counted in the steps of the binade before it. -/
theorem units_two_pow (j : Nat) : units ((j + 2) * 2 ^ 52) = 2 ^ 53 * 2 ^ j := by
  have hplace : (j + 2) * 2 ^ 52 / 2 ^ 52 - 1 = j + 1 := by omega
  have hsignificand : significand ((j + 2) * 2 ^ 52) = 2 ^ 52 := by
    unfold significand
    split <;> omega
  rw [units_eq, hsignificand, step, hplace]
  ring

/-- Numbers of up to `2 ^ 53` steps of a power of two are at places of the grid. -/
theorem exists_units_eq {m j : Nat} (h : m ≤ 2 ^ 53) (hj : j ≤ 2045) :
    ∃ n ≤ infinity, units n = m * 2 ^ j := by
  have hbound : (j + 2) * 2 ^ 52 ≤ infinity := Nat.mul_le_mul_right _ (by omega)
  rcases Nat.eq_or_lt_of_le h with rfl | hlt
  · exact ⟨(j + 2) * 2 ^ 52, hbound, units_two_pow j⟩
  · obtain ⟨n, hlow, hhigh⟩ := exists_between units_strictMono (x := m * 2 ^ j) (Nat.zero_le _)
    have hbelow : units n < units ((j + 2) * 2 ^ 52) := by
      rw [units_two_pow]
      exact Nat.lt_of_le_of_lt hlow (Nat.mul_lt_mul_of_pos_right hlt (Nat.two_pow_pos j))
    have hn : n < (j + 2) * 2 ^ 52 := units_strictMono.lt_iff_lt.1 hbelow
    -- The grid is at least as fine there, so its step divides the given one.
    have hexponent : n / 2 ^ 52 - 1 ≤ j := by omega
    have hstep : step n ∣ m * 2 ^ j := by
      rw [step]
      exact Nat.dvd_mul_left_of_dvd (Nat.pow_dvd_pow 2 hexponent) m
    exact ⟨n, (hn.trans_le hbound).le, units_eq_of_step_dvd hlow hhigh hstep⟩

/-- All integers up to `2 ^ 53` in magnitude are floats. -/
theorem isFloat_of_le {z : Int} (h : z.natAbs ≤ 2 ^ 53) : IsFloat z := by
  obtain ⟨n, hn, hunits⟩ := exists_units_eq h (by decide : 1074 ≤ 2045)
  rw [← one_eq] at hunits
  refine ⟨ofPlace (decide (z < 0)) n, not_isNaN_ofPlace _ hn, ?_⟩
  rw [number_eq_iff (h.trans (by decide)), amount, isNegative_ofPlace _ hn, place_ofPlace _ hn,
    hunits, mul_one_eq_signed]

/-! ### Integers beside floats -/

/-- The float is not equal to the integer, but as close as any: no float is equal to it, and this
    is the nearest one. -/
def Approximates (x : Float) (z : Int) : Prop :=
  ¬ IsFloat z ∧ Rounds (decide (z < 0)) z.natAbs 1 x

theorem nearest_one_ne_zero {m : Nat} (h : m ≠ 0) : nearest m 1 ≠ 0 := by
  have hone : units (1023 * 2 ^ 52) = one := by decide +kernel
  have hle : 1023 * 2 ^ 52 ≤ nearest m 1 := by
    apply le_nearest_one (by decide)
    rw [hone]
    exact Nat.le_mul_of_pos_left one (Nat.pos_of_ne_zero h)
  omega

/-- An integer is rounded to the float that it is equal to, and else to the one that approximates
    it. -/
theorem level_ofInt_eq_iff {z : Int} (hz : z.natAbs ≤ 2 ^ 64) {x : Float} (hx : ¬ x.isNaN) :
    level (ofInt z) = level x ↔ number x = (z : ℝ) ∨ Approximates x z := by
  constructor
  · intro h
    by_cases hfloat : IsFloat z
    · left
      rw [number_eq_iff hz, ← amount_eq_of_level_eq h]
      exact (isFloat_iff hz).1 hfloat
    · right
      have hzero : z.natAbs ≠ 0 := by
        intro hzero
        exact hfloat (isFloat_of_le (hzero.le.trans (Nat.zero_le _)))
      -- Levels leave the sign open only at zero, and no other integer is rounded to it.
      rw [level_ofInt] at h
      obtain ⟨hplace, hsign | hnearest⟩ := signed_inj.1 h
      · exact ⟨hfloat, hsign.symm, (isNearest_iff Nat.one_pos).2 hplace.symm⟩
      · exact absurd hnearest (nearest_one_ne_zero hzero)
  · rintro (hnumber | ⟨-, hrounds⟩)
    · exact level_ofInt_of_amount hx ((number_eq_iff hz x).1 hnumber)
    · rw [(rounds_iff Nat.one_pos).1 hrounds]
      rfl

/-- **Rounding in between**: a rounded integer stands to every float as the integer itself does,
    except for the float that approximates it. -/
theorem compare_level_ofInt_level {z : Int} (hz : z.natAbs ≤ 2 ^ 64) {x : Float} (hx : ¬ x.isNaN)
    (h : ¬ Approximates x z) :
    compare (level (ofInt z)) (level x) = compare ((z : ℝ) : EReal) (number x) := by
  rw [compare_number hz]
  have hequal : level (ofInt z) = level x ↔ amount x = z * one := by
    rw [level_ofInt_eq_iff hz hx, or_iff_left h, number_eq_iff hz]
  -- Rounding keeps `≤` and `≥`, so it could only make equal what was not, which `hequal` excludes.
  rcases Int.lt_trichotomy (z * one) (amount x) with hlt | heq | hgt
  · have hne : level (ofInt z) ≠ level x := fun hlevel => hlt.ne (hequal.1 hlevel).symm
    have hle := level_ofInt_le hx hlt.le
    rw [compare_lt_iff_lt.2 hlt, compare_lt_iff_lt.2 (by omega)]
  · rw [compare_eq_iff_eq.2 heq, compare_eq_iff_eq.2 (hequal.2 heq.symm)]
  · have hne : level (ofInt z) ≠ level x := fun hlevel => hgt.ne (hequal.1 hlevel)
    have hge := le_level_ofInt hx hgt.le
    rw [compare_gt_iff_gt.2 hgt, compare_gt_iff_gt.2 (by omega)]

end DynExpr.Binary64
