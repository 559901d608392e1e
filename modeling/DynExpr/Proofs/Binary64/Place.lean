import DynExpr.Binary64.Grid
import Mathlib

/-! # Floats and their places

    A float is told by its sign and its place, and two floats stand to each
    other as their signed places do:

    * **Parts**: `unpack_eq_datum` reads sign, exponent and significand of a
      float off its place.
    * **NaN**: there is one NaN, and it is the float beyond infinity
      (`isNaN_iff`).
    * **Order**: `level` is the place with the sign of the float. Floats other
      than NaN compare as their levels (`compare_of_not_isNaN`), which makes
      the two zeros equal. NaN compares with nothing.
    * **Back**: the float at a place has that place, and the sign that it was
      given (`place_ofPlace`, `isNegative_ofPlace`).
-/

namespace DynExpr.Binary64

open Float.Model (UnpackedFloat Format)
open Float.Model.UnpackedFloat

/-! ### The parts of a float -/

/-- The significand of the finite magnitude at place `n`. -/
def significand (n : Nat) : Nat := if n < 2 ^ 52 then n else 2 ^ 52 + n % 2 ^ 52

/-- The binary exponent that goes with the significand. -/
def exponent (n : Nat) : Int := max (n / 2 ^ 52 : Nat) 1 - 1075

theorem significand_pos {n : Nat} (h : n ≠ 0) : 0 < significand n := by
  unfold significand
  split <;> omega

/-- A sign bit as a sign. -/
def signOf (negative : Bool) : Sign := if negative then .negative else .positive

/-- What the float at a place consists of. -/
def datum (negative : Bool) (n : Nat) : UnpackedFloat :=
  if infinity < n then .notANumber
  else if n = infinity then .infinity (signOf negative)
  else if h : n = 0 then .zero (signOf negative)
  else .finite (signOf negative) (significand n) (exponent n) (significand_pos h)

section Bits

variable (b : BitVec 64)

theorem unpackMantissa_toNat :
    (@unpackMantissa Format.binary64 b).toNat = b.toNat % 2 ^ 52 := by
  rw [unpackMantissa_def, BitVec.extractLsb'_toNat]
  rfl

theorem unpackExponent_toNat :
    (@unpackExponent Format.binary64 b).toNat = b.toNat / 2 ^ 52 % 2 ^ 11 := by
  rw [unpackExponent_def, BitVec.extractLsb'_toNat, Nat.shiftRight_eq_div_pow]

theorem ofBitVec_unpackSign :
    Sign.ofBitVec (@unpackSign Format.binary64 b) =
      signOf (decide (2 ^ 63 ≤ b.toNat)) := by
  have hsign : (@unpackSign Format.binary64 b).toNat = b.toNat / 2 ^ 63 % 2 := by
    rw [unpackSign_def, BitVec.extractLsb'_toNat, Nat.shiftRight_eq_div_pow]
    rfl
  have hb : b.toNat < 2 ^ 64 := b.isLt
  have hzero : @unpackSign Format.binary64 b = 0#1 ↔ ¬ 2 ^ 63 ≤ b.toNat := by
    rw [← BitVec.toNat_inj, hsign]
    show b.toNat / 2 ^ 63 % 2 = 0 ↔ _
    omega
  unfold Sign.ofBitVec signOf
  by_cases h : 2 ^ 63 ≤ b.toNat
  · rw [if_neg (fun hz => hzero.1 hz h), if_pos (decide_eq_true h)]
  · rw [if_pos (hzero.2 h), if_neg (by simpa using h)]

/-- The implicit bit of a normal float stands in front of its mantissa. -/
theorem toNat_one_append (m : BitVec 52) : (1#1 ++ m).toNat = 2 ^ 52 + m.toNat := by
  have hm : m.toNat < 2 ^ 52 := m.isLt
  rw [BitVec.toNat_append, Nat.shiftLeft_eq, Nat.or_comm]
  show m.toNat ||| 1 * 2 ^ 52 = _
  rw [Nat.one_mul, Nat.or_two_pow_eq_add_of_lt hm, Nat.add_comm]

/-- A word consists of what its sign bit and its other bits say. -/
theorem unpack_eq_datum_bits :
    unpack Format.binary64 b = datum (decide (2 ^ 63 ≤ b.toNat)) (b.toNat % 2 ^ 63) := by
  have hexponent := unpackExponent_toNat b
  have hmantissa := unpackMantissa_toNat b
  have hb : b.toNat < 2 ^ 64 := b.isLt
  have hones : @unpackExponent Format.binary64 b = -1#_ ↔
      b.toNat / 2 ^ 52 % 2 ^ 11 = 2047 := by
    rw [← BitVec.toNat_inj, hexponent]
    rfl
  have hzeros : @unpackExponent Format.binary64 b = 0#_ ↔
      b.toNat / 2 ^ 52 % 2 ^ 11 = 0 := by
    rw [← BitVec.toNat_inj, hexponent]
    rfl
  have hnone : @unpackMantissa Format.binary64 b = 0#_ ↔ b.toNat % 2 ^ 52 = 0 := by
    rw [← BitVec.toNat_inj, hmantissa]
    rfl
  have hbias : (Format.binary64.exponentBias : Int) +
      (Format.binary64.mantissaBitsWithoutImplicit : Int) = 1075 := rfl
  -- All ones in the exponent: infinity or NaN. All zeros: zero or a subnormal float.
  unfold unpack
  simp only [ofBitVec_unpackSign, hbias]
  generalize hn : b.toNat % 2 ^ 63 = n
  split
  · next h =>
    have he := hones.1 h
    split
    · next h0 =>
      have hm := hnone.1 h0
      have hplace : n = infinity := by unfold infinity; omega
      rw [datum, if_neg (by omega), if_pos hplace]
    · next h0 =>
      have hm := mt hnone.2 h0
      have hplace : infinity < n := by unfold infinity; omega
      rw [datum, if_pos hplace]
  · next h =>
    have he := mt hones.2 h
    have hfinite : ¬ infinity < n ∧ n ≠ infinity := by unfold infinity; omega
    rw [datum, if_neg hfinite.1, if_neg hfinite.2]
    split
    · next hz =>
      have hsubnormal := hzeros.1 hz
      split
      · next h0 =>
        have hm := hnone.1 h0
        rw [dif_pos (by omega)]
      · next h0 =>
        have hm := mt hnone.2 h0
        rw [dif_neg (by omega)]
        simp only [finite.injEq, true_and]
        rw [hmantissa, hexponent, hsubnormal]
        unfold significand exponent
        rw [if_pos (by omega)]
        omega
    · next hz =>
      have hnormal := mt hzeros.2 hz
      rw [dif_neg (by omega)]
      simp only [finite.injEq, true_and]
      rw [hexponent, toNat_one_append, hmantissa]
      unfold significand exponent
      rw [if_neg (by omega)]
      omega

end Bits

/-- A float consists of what its sign and its place say. -/
theorem unpack_eq_datum (x : Float) : x.toModel.unpack = datum (isNegative x) (place x) :=
  unpack_eq_datum_bits x.toBits.toBitVec

/-! ### NaN -/

/-- The floats beyond infinity are NaN. -/
theorem isNaN_iff (x : Float) : x.isNaN ↔ infinity < place x := by
  show x.toModel.unpack.isNaN = true ↔ _
  rw [unpack_eq_datum]
  unfold datum
  by_cases h : infinity < place x
  · simp [h, UnpackedFloat.isNaN]
  · simp only [h, if_false, iff_false]
    split
    · simp [UnpackedFloat.isNaN]
    · split <;> simp [UnpackedFloat.isNaN]

/-- An infinite float is at the place of infinity. -/
theorem isInf_iff (x : Float) : x.isInf ↔ place x = infinity := by
  show x.toModel.unpack.isInf = true ↔ _
  rw [unpack_eq_datum]
  unfold datum
  split_ifs with hnan hinfinite hzero
  · simp [UnpackedFloat.isInf, hnan.ne']
  · simp [UnpackedFloat.isInf, hinfinite]
  · simp [UnpackedFloat.isInf, hinfinite]
  · simp [UnpackedFloat.isInf, hinfinite]

/-- There is one NaN. -/
theorem eq_ofPlace_nan {x : Float} (h : x.isNaN) : x = ofPlace false nan := by
  have hnan : (ofPlace false nan).isNaN := by decide
  rw [Float.isNaN_eq_decide_eq_nan, decide_eq_true_eq] at h hnan
  rw [h, hnan]

/-- A float is the float of its sign and its place. -/
theorem ofPlace_place (x : Float) : ofPlace (isNegative x) (place x) = x := by
  have hx : (if isNegative x then 2 ^ 63 + place x else place x) = x.toBits.toNat := by
    have hlt : x.toBits.toNat < 2 ^ 64 := x.toBits.toNat_lt
    unfold isNegative place
    by_cases h : 2 ^ 63 ≤ x.toBits.toNat
    · rw [if_pos (decide_eq_true h)]
      omega
    · rw [if_neg (by simpa using h)]
      omega
  rw [ofPlace, hx, UInt64.ofNat_toNat, Float.ofBits_toBits]

/-! ### Places with signs -/

/-- Exponent and significand decide the order of two magnitudes, in this order. -/
theorem compare_exponent_then_significand (n m : Nat) :
    (compare (exponent n) (exponent m)).then (compare (significand n) (significand m)) =
      compare n m := by
  -- Of equal exponents, subnormal places are below the normal ones of the first binade.
  have hlt : ∀ n m : Nat, n < m → exponent n < exponent m ∨
      exponent n = exponent m ∧ significand n < significand m := by
    intro n m h
    unfold exponent significand
    split <;> split <;> omega
  rcases Nat.lt_trichotomy n m with h | h | h
  · rw [compare_lt_iff_lt.2 h]
    rcases hlt n m h with he | ⟨he, hs⟩
    · rw [compare_lt_iff_lt.2 he]
      rfl
    · rw [compare_eq_iff_eq.2 he, compare_lt_iff_lt.2 hs]
      rfl
  · rw [compare_eq_iff_eq.2 h, h, compare_eq_iff_eq.2 rfl, compare_eq_iff_eq.2 rfl]
    rfl
  · rw [compare_gt_iff_gt.2 h]
    rcases hlt m n h with he | ⟨he, hs⟩
    · rw [compare_gt_iff_gt.2 he]
      rfl
    · rw [compare_eq_iff_eq.2 he.symm, compare_gt_iff_gt.2 hs]
      rfl

theorem datum_infinity (negative : Bool) :
    datum negative infinity = .infinity (signOf negative) := by
  rw [datum, if_neg (Nat.lt_irrefl _), if_pos rfl]

theorem datum_zero (negative : Bool) : datum negative 0 = .zero (signOf negative) := rfl

theorem datum_finite (negative : Bool) {n : Nat} (h0 : n ≠ 0) (h : n < infinity) :
    datum negative n = .finite (signOf negative) (significand n) (exponent n)
      (significand_pos h0) := by
  rw [datum, if_neg (by omega), if_neg (by omega), dif_neg h0]

/-- A magnitude other than NaN is zero, infinite or between them. -/
theorem magnitude_cases {n : Nat} (h : n ≤ infinity) :
    n = 0 ∨ n = infinity ∨ n ≠ 0 ∧ n < infinity := by
  omega

/-- A place with a sign. -/
def signed (negative : Bool) (n : Nat) : Int := if negative then -n else n

/-- Negative places stand to each other the other way round. -/
theorem compare_signed (negative : Bool) (n m : Nat) :
    compare (signed negative n) (signed negative m) =
      if negative then (compare n m).swap else compare n m := by
  unfold signed
  rcases Nat.lt_trichotomy n m with h | h | h
  · rw [compare_lt_iff_lt.2 h]
    cases negative with
    | false => exact compare_lt_iff_lt.2 (by simpa using h)
    | true => exact compare_gt_iff_gt.2 (by simpa using h)
  · subst h
    rw [compare_eq_iff_eq.2 rfl, compare_eq_iff_eq.2 rfl]
    cases negative <;> rfl
  · rw [compare_gt_iff_gt.2 h]
    cases negative with
    | false => exact compare_gt_iff_gt.2 (by simpa using h)
    | true => exact compare_lt_iff_lt.2 (by simpa using h)

/-- Data of magnitudes other than NaN compare as the places with their signs. -/
theorem compare_datum {n m : Nat} (negative negative' : Bool) (hn : n ≤ infinity)
    (hm : m ≤ infinity) :
    (datum negative n).compare (datum negative' m) =
      some (compare (signed negative n) (signed negative' m)) := by
  symm
  rcases magnitude_cases hn with rfl | rfl | ⟨hn0, hn⟩
  · rcases magnitude_cases hm with rfl | rfl | ⟨hm0, hm⟩
    · cases negative <;> cases negative' <;> rfl
    · cases negative <;> cases negative' <;> rfl
    · cases negative <;> cases negative' <;>
        simp [datum_zero, datum_finite _ hm0 hm, signOf, signed, UnpackedFloat.compare,
          compare_lt_iff_lt, compare_gt_iff_gt] <;> omega
  · rcases magnitude_cases hm with rfl | rfl | ⟨hm0, hm⟩
    · cases negative <;> cases negative' <;> rfl
    · cases negative <;> cases negative' <;> rfl
    · cases negative <;> cases negative' <;>
        simp [datum_infinity, datum_finite _ hm0 hm, signOf, signed, UnpackedFloat.compare,
          compare_lt_iff_lt, compare_gt_iff_gt] <;> omega
  · rcases magnitude_cases hm with rfl | rfl | ⟨hm0, hm⟩
    · cases negative <;> cases negative' <;>
        simp [datum_zero, datum_finite _ hn0 hn, signOf, signed, UnpackedFloat.compare,
          compare_lt_iff_lt, compare_gt_iff_gt] <;> omega
    · cases negative <;> cases negative' <;>
        simp [datum_infinity, datum_finite _ hn0 hn, signOf, signed, UnpackedFloat.compare,
          compare_lt_iff_lt, compare_gt_iff_gt] <;> omega
    · cases negative <;> cases negative' <;>
        simp [datum_finite _ hn0 hn, datum_finite _ hm0 hm, signOf, UnpackedFloat.compare,
          compare_exponent_then_significand, compare_signed, compare_lt_iff_lt, compare_gt_iff_gt]
      -- Of two different signs the negative one is below, as neither place is zero.
      all_goals
        simp only [signed, if_true, Bool.false_eq_true, if_false]
        omega

/-! ### The order of floats -/

/-- The place of a float with its sign. Both zeros are at level 0. -/
def level (x : Float) : Int := signed (isNegative x) (place x)

section Comparisons

variable {a b : Float} (ha : ¬ a.isNaN) (hb : ¬ b.isNaN)
include ha hb

/-- Without NaN, floats compare as their levels. -/
theorem compare_of_not_isNaN :
    a.toModel.compare b.toModel = some (compare (level a) (level b)) := by
  show a.toModel.unpack.compare b.toModel.unpack = _
  rw [unpack_eq_datum, unpack_eq_datum]
  rw [isNaN_iff, Nat.not_lt] at ha hb
  exact compare_datum _ _ ha hb

theorem lt_iff_level : a < b ↔ level a < level b := by
  show decide (a.toModel.compare b.toModel == some .lt) = true ↔ _
  rw [compare_of_not_isNaN ha hb]
  simp [compare_lt_iff_lt]

theorem le_iff_level : a ≤ b ↔ level a ≤ level b := by
  show decide ((a.toModel.compare b.toModel).any (·.isLE)) = true ↔ _
  rw [compare_of_not_isNaN ha hb]
  simp [Std.isLE_compare]

theorem beq_iff_level : a == b ↔ level a = level b := by
  show (a.toModel.compare b.toModel == some .eq) = true ↔ _
  rw [compare_of_not_isNaN ha hb]
  simp

theorem equal_iff_level : equal a b ↔ level a = level b := by
  unfold equal
  rw [Bool.or_eq_true, Bool.and_eq_true, beq_iff_level ha hb]
  exact or_iff_left fun h => ha h.1

theorem compare?_of_not_isNaN : compare? a b = some (compare (level a) (level b)) := by
  have heq := equal_iff_level ha hb
  have hlt := lt_iff_level ha hb
  have hgt := lt_iff_level hb ha
  unfold compare?
  rcases Int.lt_trichotomy (level a) (level b) with h | h | h
  · rw [if_neg (by rw [heq]; omega), if_pos (hlt.2 h), compare_lt_iff_lt.2 h]
  · rw [if_pos (heq.2 h), compare_eq_iff_eq.2 h]
  · rw [if_neg (by rw [heq]; omega), if_neg (by rw [hlt]; omega), if_pos (hgt.2 h),
      compare_gt_iff_gt.2 h]

end Comparisons

section NaN

variable {a b : Float} (h : a.isNaN ∨ b.isNaN)
include h

/-- NaN compares with nothing. -/
theorem compare_of_isNaN : a.toModel.compare b.toModel = none := by
  have hnan : ∀ x : Float, x.isNaN → x.toModel.unpack = .notANumber := by
    intro x hx
    rw [unpack_eq_datum, datum, if_pos ((isNaN_iff x).1 hx)]
  show a.toModel.unpack.compare b.toModel.unpack = none
  rcases h with ha | hb
  · rw [hnan a ha]
    rfl
  · rw [hnan b hb]
    cases a.toModel.unpack <;> rfl

theorem not_lt_of_isNaN : ¬ a < b := by
  show ¬ decide (a.toModel.compare b.toModel == some .lt) = true
  rw [compare_of_isNaN h]
  decide

theorem not_le_of_isNaN : ¬ a ≤ b := by
  show ¬ decide ((a.toModel.compare b.toModel).any (·.isLE)) = true
  rw [compare_of_isNaN h]
  decide

theorem equal_iff_of_isNaN : equal a b ↔ a.isNaN ∧ b.isNaN := by
  have hbeq : ¬ a == b := by
    show ¬ (a.toModel.compare b.toModel == some .eq) = true
    rw [compare_of_isNaN h]
    decide
  unfold equal
  rw [Bool.or_eq_true, Bool.and_eq_true]
  exact or_iff_right hbeq

end NaN

/-! ### The float at a place -/

/-- A word whose magnitude is not beyond infinity is the word of a float. -/
theorem toBits_ofBits {b : UInt64} (h : b.toNat % 2 ^ 63 ≤ infinity) :
    (Float.ofBits b).toBits = b := by
  have hvalid : Format.binary64.Valid b.toBitVec := by
    refine ⟨fun hones hmantissa => absurd ?_ hmantissa⟩
    have hexponent := unpackExponent_toNat b.toBitVec
    rw [hones] at hexponent
    have hall : b.toBitVec.toNat / 2 ^ 52 % 2 ^ 11 = 2047 := hexponent.symm
    rw [← BitVec.toNat_inj, unpackMantissa_toNat]
    show b.toNat % 2 ^ 52 = 0
    have hword : b.toBitVec.toNat = b.toNat := rfl
    have hlt : b.toNat < 2 ^ 64 := b.toNat_lt
    unfold infinity at h
    omega
  -- Reading the word of the float that the word makes gives the same float.
  have hread := Float.ofBits_toBits (Float.ofModel ⟨b, hvalid⟩)
  have hbits : (Float.ofModel ⟨b, hvalid⟩).toBits = b := rfl
  rw [hbits] at hread
  rw [hread, hbits]

/-- The words of NaN are those beyond the word of infinity, whatever their sign bit. -/
theorem isNaN_ofBits_iff (b : UInt64) : (Float.ofBits b).isNaN ↔ infinity < b.toNat % 2 ^ 63 := by
  by_cases h : infinity < b.toNat % 2 ^ 63
  · -- All of them are read as the same float.
    have hunpack : UnpackedFloat.unpack Format.binary64 b.toBitVec = .notANumber := by
      rw [unpack_eq_datum_bits]
      exact if_pos h
    have hnan : (Float.ofModel (Float.Model.pack .notANumber)).isNaN := by decide
    refine iff_of_true ?_ h
    rw [Float.ofBits, Float.Model.ofBits, hunpack]
    exact hnan
  · rw [isNaN_iff, place, toBits_ofBits (Nat.not_lt.1 h)]

section OfPlace

variable (negative : Bool) {n : Nat} (h : n ≤ infinity)
include h

theorem toNat_toBits_ofPlace :
    (ofPlace negative n).toBits.toNat = if negative then 2 ^ 63 + n else n := by
  unfold infinity at h
  have hsmall : (if negative then 2 ^ 63 + n else n) < 2 ^ 64 := by split <;> omega
  have hword := UInt64.toNat_ofNat_of_lt' hsmall
  rw [ofPlace, toBits_ofBits, hword]
  rw [hword]
  unfold infinity
  split <;> omega

theorem place_ofPlace : place (ofPlace negative n) = n := by
  rw [place, toNat_toBits_ofPlace negative h]
  unfold infinity at h
  split <;> omega

theorem isNegative_ofPlace : isNegative (ofPlace negative n) = negative := by
  rw [isNegative, toNat_toBits_ofPlace negative h]
  unfold infinity at h
  cases negative with
  | false => exact decide_eq_false (by simp; omega)
  | true => exact decide_eq_true (Nat.le_add_right ..)

theorem not_isNaN_ofPlace : ¬ (ofPlace negative n).isNaN := by
  rw [isNaN_iff, place_ofPlace negative h]
  omega

end OfPlace

end DynExpr.Binary64
