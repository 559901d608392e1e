import DynExpr.Binary64.Read
import DynExpr.Binary64.Text
import DynExpr.Proofs.Binary64.Place
import DynExpr.Proofs.Binary64.Rounding
import DynExpr.Proofs.Text.Digits

/-! # Reading a written float

    The text of a float reads back as the same float, in every layout:

    * **Digits with a point**: all layouts write digits, perhaps a point and
      more digits, and perhaps an exponent. `readPlace?_pointed` says what
      place is read from such a text.
    * **Layouts**: what is read has the value of the decimal that was written
      (`readPlace?_positionalText`, `readPlace?_exponentText`), and so its
      place.
    * **`read?_text`**: since shortest decimals round back, the float that is
      read is the one that was written. So different floats have different
      texts.
-/

namespace DynExpr.Binary64

/-! ### Exponents -/

theorem readExponentDigits?_digits {n : Nat} (h : n < 10 * exponentBound) :
    readExponentDigits? (Numeral.digits n) = some n := by
  have hall : (Numeral.digits n).all Char.isDigit :=
    List.all_eq_true.2 fun _ => Numeral.isDigit_of_mem_digits
  have hvalue : Nat.ofDigitChars 10 (Numeral.digits n) 0 = n := Nat.ofDigitChars_ten_toDigits
  rw [readExponentDigits?, if_pos ⟨Numeral.digits_ne_nil n, hall⟩, exponentFrom_eq, hvalue]
  rw [hvalue]
  exact h

/-- An exponent that is not too large reads back. -/
theorem readExponent?_ofInt {z : Int} (h : z.natAbs < 10 * exponentBound) :
    readExponent? ('e' :: Numeral.ofInt z) = some z := by
  have hdigits := readExponentDigits?_digits h
  show readSignedExponent? (Numeral.ofInt z) = some z
  unfold Numeral.ofInt
  by_cases hz : z < 0
  · have habs : -(z.natAbs : Int) = z := by omega
    rw [if_pos hz, readSignedExponent?, hdigits]
    exact congrArg some habs
  · have hsign : ∀ sign rest, sign.isDigit = false → Numeral.digits z.natAbs ≠ sign :: rest := by
      intro sign rest hsign
      have hne := Numeral.ne_sign_append hsign (fun _ => Numeral.isDigit_of_mem_digits)
        (Numeral.digits_ne_nil z.natAbs) [] rest
      rwa [List.append_nil] at hne
    have habs : (z.natAbs : Int) = z := by omega
    rw [if_neg hz, readSignedExponent?, hdigits]
    · exact congrArg some habs
    · exact fun rest => hsign '-' rest rfl
    · exact fun rest => hsign '+' rest rfl

/-! ### Digits with a point -/

/-- A point and the digits behind it, if there are any. -/
def pointed (fraction : List Char) : List Char :=
  if fraction.isEmpty then [] else '.' :: fraction

/-- Digits have no letter case. -/
theorem toLower_of_isDigit {c : Char} (h : c.isDigit) : c.toLower = c := by
  apply Char.toLower_eq_of_not_isUpper
  simp only [Char.isDigit, Char.isUpper, Bool.and_eq_true, decide_eq_true_eq, ge_iff_le,
    UInt32.le_iff_toNat_le] at h ⊢
  rintro ⟨hA, -⟩
  have hnine : c.val.toNat ≤ 57 := h.2
  have hcapital : 65 ≤ c.val.toNat := hA
  omega

theorem pointed_of_ne_nil {fraction : List Char} (h : fraction ≠ []) :
    pointed fraction = '.' :: fraction :=
  if_neg (by simpa using h)

section Pointed

variable {whole fraction rest : List Char} (hwhole : ∀ c ∈ whole, c.isDigit) (hne : whole ≠ [])
  (hfraction : ∀ c ∈ fraction, c.isDigit)
  (hrest : Text.StopsAt (fun c => c.isDigit || c == '.') rest)
include hwhole hne hfraction hrest

theorem readDecimal?_pointed :
    readDecimal? (whole ++ (pointed fraction ++ rest)) = (readExponent? rest).map fun e =>
      ⟨Numeral.value (whole ++ fraction), e - fraction.length⟩ := by
  have hdigit : Text.StopsAt Char.isDigit rest :=
    fun c hc => (Bool.or_eq_false_iff.1 (hrest c hc)).1
  have hempty : whole.isEmpty = false := by simpa using hne
  unfold readDecimal? pointed
  by_cases hf : fraction.isEmpty
  · have hnil : fraction = [] := List.isEmpty_iff.1 hf
    have hpoint : ∀ cs, rest ≠ '.' :: cs := by
      rintro cs rfl
      cases (Bool.or_eq_false_iff.1 (hrest '.' rfl)).2
    rw [if_pos hf, List.nil_append, Numeral.spanDigits_append hwhole hdigit, hnil]
    simp only [hempty, Bool.false_and, Bool.false_eq_true, if_false]
  · have hpoint : Text.StopsAt Char.isDigit ('.' :: (fraction ++ rest)) := Text.stopsAt_cons rfl _
    rw [if_neg hf, List.cons_append, Numeral.spanDigits_append hwhole hpoint]
    simp only [hempty, Numeral.spanDigits_append hfraction hdigit]
    rfl

/-- Digits are not taken for a word. -/
theorem readPlace?_pointed :
    readPlace? (whole ++ (pointed fraction ++ rest)) = (readExponent? rest).map fun e =>
      Decimal.place ⟨Numeral.value (whole ++ fraction), e - fraction.length⟩ := by
  obtain ⟨c, cs, rfl⟩ := List.exists_cons_of_ne_nil hne
  have hdigit : c.isDigit := hwhole c List.mem_cons_self
  have hletter : ∀ letter, letter.isDigit = false → c ≠ letter := by
    rintro letter hletter rfl
    rw [hletter] at hdigit
    cases hdigit
  unfold readPlace?
  rw [readDecimal?_pointed hwhole hne hfraction hrest]
  simp only [List.cons_append, List.map_cons, List.cons.injEq, toLower_of_isDigit hdigit,
    hletter 'i' rfl, hletter 'n' rfl, false_and, or_self, if_false, Option.map_map]
  rfl

end Pointed

/-- Without an exponent. -/
theorem readPlace?_pointed_nil {whole fraction : List Char} (hwhole : ∀ c ∈ whole, c.isDigit)
    (hne : whole ≠ []) (hfraction : ∀ c ∈ fraction, c.isDigit) :
    readPlace? (whole ++ pointed fraction) =
      some (Decimal.place ⟨Numeral.value (whole ++ fraction), -fraction.length⟩) := by
  have hread := readPlace?_pointed hwhole hne hfraction (Text.stopsAt_nil _)
  rw [List.append_nil] at hread
  rw [hread]
  show some (Decimal.place ⟨_, 0 - fraction.length⟩) = _
  rw [Int.zero_sub]

/-- Behind a zero only the fraction counts. -/
theorem readPlace?_zero_pointed {fraction : List Char} (hfraction : ∀ c ∈ fraction, c.isDigit) :
    readPlace? ('0' :: pointed fraction) =
      some (Decimal.place ⟨Numeral.value fraction, -fraction.length⟩) := by
  have hzero : ∀ c ∈ ['0'], c.isDigit := by
    intro c hc
    rw [List.mem_singleton.1 hc]
    rfl
  have hvalue : Numeral.value (['0'] ++ fraction) = Numeral.value fraction :=
    Numeral.value_zeros_append 1 fraction
  have hread := readPlace?_pointed_nil hzero (List.cons_ne_nil _ _) hfraction
  rw [hvalue] at hread
  exact hread

/-! ### Layouts -/

theorem isDigit_of_mem_zeros {k : Nat} {c : Char} (h : c ∈ List.replicate k '0') : c.isDigit := by
  rw [List.eq_of_mem_replicate h]
  rfl

/-- The mark of a whole number is a point with zeros. -/
theorem wholeMark_eq_pointed (l : Layout) : ∃ k, l.wholeMark = pointed (List.replicate k '0') := by
  unfold Layout.wholeMark
  by_cases h : l.pointZero
  · exact ⟨1, if_pos h⟩
  · exact ⟨0, if_neg h⟩

/-- Digits in positional form read as the number that they stand for. -/
theorem readPlace?_positionalText (l : Layout) (n : Nat) (e : Int) :
    readPlace? (positionalText l (Numeral.digits n) e) = some (Decimal.place ⟨n, e⟩) := by
  have hdigits : ∀ c ∈ Numeral.digits n, c.isDigit := fun _ => Numeral.isDigit_of_mem_digits
  have hne := Numeral.digits_ne_nil n
  unfold positionalText
  simp only
  generalize hlength : (Numeral.digits n).length = length
  by_cases hwhole : 0 ≤ e
  · obtain ⟨k, hmark⟩ := wholeMark_eq_pointed l
    rw [if_pos hwhole, hmark, readPlace?_pointed_nil]
    · -- All zeros, before and behind the point, are made up for by the exponent.
      have hexponent : -(k : Int) + (e.toNat + k : Nat) = e := by omega
      rw [List.append_assoc, ← List.replicate_add, Numeral.value_append_zeros,
        Numeral.value_digits, List.length_replicate, Decimal.place_shift, hexponent]
    · intro c hc
      rcases List.mem_append.1 hc with hc | hc
      · exact hdigits c hc
      · exact isDigit_of_mem_zeros hc
    · exact List.append_ne_nil_of_left_ne_nil hne _
    · exact fun c => isDigit_of_mem_zeros
  · rw [if_neg hwhole]
    by_cases hpoint : 0 < (length : Int) + e
    · rw [if_pos hpoint]
      generalize hsplit : ((length : Int) + e).toNat = split
      -- The point falls between the digits, so that there are some on either side.
      have htake : 0 < ((Numeral.digits n).take split).length := by
        rw [List.length_take]
        omega
      have hdrop : 0 < ((Numeral.digits n).drop split).length := by
        rw [List.length_drop]
        omega
      have hexponent : -(((Numeral.digits n).drop split).length : Int) = e := by
        rw [List.length_drop]
        omega
      rw [← pointed_of_ne_nil (List.length_pos_iff.1 hdrop), readPlace?_pointed_nil,
        List.take_append_drop, Numeral.value_digits, hexponent]
      · exact fun c hc => hdigits c (List.mem_of_mem_take hc)
      · exact List.length_pos_iff.1 htake
      · exact fun c hc => hdigits c (List.mem_of_mem_drop hc)
    · rw [if_neg hpoint]
      generalize hzeros : (-((length : Int) + e)).toNat = zeros
      -- The point is in front of all digits, with zeros in between.
      have hfraction : List.replicate zeros '0' ++ Numeral.digits n ≠ [] :=
        List.append_ne_nil_of_right_ne_nil _ hne
      have hexponent : -((List.replicate zeros '0' ++ Numeral.digits n).length : Int) = e := by
        rw [List.length_append, List.length_replicate]
        omega
      rw [List.cons_append, List.cons_append, ← pointed_of_ne_nil hfraction,
        readPlace?_zero_pointed, Numeral.value_zeros_append, Numeral.value_digits, hexponent]
      intro c hc
      rcases List.mem_append.1 hc with hc | hc
      · exact isDigit_of_mem_zeros hc
      · exact hdigits c hc

/-- Digits with an exponent read as the number that they stand for. -/
theorem readPlace?_exponentText {n : Nat} {e : Int}
    (h : (e + ((Numeral.digits n).length - 1 : Nat)).natAbs < 10 * exponentBound) :
    readPlace? (exponentText (Numeral.digits n) e) = some (Decimal.place ⟨n, e⟩) := by
  have hdigits : ∀ c ∈ Numeral.digits n, c.isDigit := fun _ => Numeral.isDigit_of_mem_digits
  have hfirst : (Numeral.digits n).take 1 ≠ [] := by
    rw [Ne, List.take_eq_nil_iff]
    simpa using Numeral.digits_ne_nil n
  have hlength : ((Numeral.digits n).drop 1).length = (Numeral.digits n).length - 1 :=
    List.length_drop
  rw [← hlength] at h
  have hmark : Text.StopsAt (fun c => c.isDigit || c == '.')
      ('e' :: Numeral.ofInt (e + ((Numeral.digits n).drop 1).length)) := Text.stopsAt_cons rfl _
  have hfraction : ∀ c ∈ (Numeral.digits n).drop 1, c.isDigit :=
    fun c hc => hdigits c (List.mem_of_mem_drop hc)
  have hread := readPlace?_pointed (fun c hc => hdigits c (List.mem_of_mem_take hc)) hfirst
    hfraction hmark
  have hexponent : ∀ k : Nat, e + k - k = e := by
    intro k
    omega
  rw [readExponent?_ofInt h, Option.map_some, List.take_append_drop, Numeral.value_digits,
    hexponent] at hread
  unfold exponentText
  rw [List.append_assoc]
  exact hread

/-! ### Decimals -/

namespace Decimal

variable {d : Decimal}

/-- A number of few digits is small, and so is a power of ten below its multiple. -/
theorem exponent_lt_of_le {digits length a b k : Nat} (hdigits : digits < 10 ^ length)
    (h : 10 ^ b ≤ 2 * (digits * 10 ^ a * 2 ^ k)) : b < length + (a + (k + 1)) := by
  have hten : ∀ m, 0 < 10 ^ m := fun m => Nat.pow_pos (by decide)
  have hpower : 2 * 2 ^ k ≤ 10 ^ (k + 1) := by
    rw [← Nat.pow_succ']
    exact Nat.pow_le_pow_left (by decide) _
  apply (Nat.pow_lt_pow_iff_right (by decide : 1 < 10)).1
  calc 10 ^ b
      ≤ 2 * (digits * 10 ^ a * 2 ^ k) := h
    _ = digits * (10 ^ a * (2 * 2 ^ k)) := by
        rw [Nat.mul_assoc, Nat.mul_left_comm, Nat.mul_left_comm 2]
    _ < 10 ^ length * (10 ^ a * 10 ^ (k + 1)) :=
        Nat.mul_lt_mul_of_lt_of_le hdigits (Nat.mul_le_mul_left _ hpower)
          (Nat.mul_pos (hten _) (hten _))
    _ = 10 ^ (length + (a + (k + 1))) := by rw [← Nat.pow_add, ← Nat.pow_add]

/-- A number of many digits is large, and so is a power of two above its multiple. -/
theorem exponent_lt_of_lt {digits later a b k : Nat} (hdigits : 10 ^ later ≤ digits)
    (h : digits * 10 ^ a < 2 ^ k * 10 ^ b) : later + a < k + b := by
  have hpower : 2 ^ k ≤ 10 ^ k := Nat.pow_le_pow_left (by decide) k
  apply (Nat.pow_lt_pow_iff_right (by decide : 1 < 10)).1
  calc 10 ^ (later + a)
      = 10 ^ later * 10 ^ a := Nat.pow_add ..
    _ ≤ digits * 10 ^ a := Nat.mul_le_mul_right _ hdigits
    _ < 2 ^ k * 10 ^ b := h
    _ ≤ 10 ^ k * 10 ^ b := Nat.mul_le_mul_right _ hpower
    _ = 10 ^ (k + b) := (Nat.pow_add ..).symm

/-- The leading digit of a decimal that does not round to zero does not count too little. -/
theorem leading_ge (h : d.place ≠ 0) :
    -1075 ≤ d.exponent + ((Numeral.digits d.digits).length - 1 : Nat) := by
  have hpos := Numeral.length_digits_pos d.digits
  have hexponents := exponent_lt_of_le (Numeral.lt_pow_length d.digits)
    (den_le_of_place_ne_zero h)
  omega

/-- The leading digit of a decimal that rounds to a finite float does not count too much. -/
theorem leading_lt (h : d.place ≠ 0) (hfinite : d.place ≠ infinity) :
    d.exponent + ((Numeral.digits d.digits).length - 1 : Nat) < 1024 := by
  have hzero : d.digits ≠ 0 := fun hzero => h (if_pos hzero)
  have hbelow := num_lt_of_place_ne_infinity hfinite
  unfold num den at hbelow
  have hexponents := exponent_lt_of_lt (Numeral.pow_length_le hzero) hbelow
  omega

/-- The text of a decimal reads as its place, if that is the place of a finite float. -/
theorem readPlace?_text (l : Layout) (h : d.place ≠ 0) (hfinite : d.place ≠ infinity) :
    readPlace? (d.text l) = some d.place := by
  -- Only exponents below a bound are read in full; a finite float keeps far away from it.
  have hlow := leading_ge h
  have hhigh := leading_lt h hfinite
  unfold text
  simp only
  split
  · exact readPlace?_positionalText l d.digits d.exponent
  · apply readPlace?_exponentText
    unfold exponentBound
    omega

end Decimal

/-! ### Floats -/

theorem readPlace?_magnitudeText (l : Layout) {n : Nat} (h : n ≤ infinity) :
    readPlace? (magnitudeText l n) = some n := by
  unfold magnitudeText
  split_ifs with hinfinity hzero
  · rw [hinfinity]
    rfl
  · obtain ⟨k, hmark⟩ := wholeMark_eq_pointed l
    have hvalue : Numeral.value (List.replicate k '0') = 0 := by
      have happend := Numeral.value_zeros_append k []
      rwa [List.append_nil] at happend
    rw [hmark, hzero, readPlace?_zero_pointed fun c => isDigit_of_mem_zeros, hvalue]
    rfl
  · have hplace := shortest_place h
    rw [Decimal.readPlace?_text l (by rwa [hplace]) (by rwa [hplace]), hplace]

/-- A magnitude has no sign of its own. -/
theorem read?_of_readPlace? {cs : List Char} {n : Nat} (h : readPlace? cs = some n) :
    read? cs = some (ofPlace false n) := by
  unfold read?
  split
  · next cs => cases h
  · next cs => cases h
  · rw [h, Option.map_some]

/-- **Reading back**: the text of a float reads as that float, in every layout. -/
theorem read?_text (l : Layout) (x : Float) : read? (text l x) = some x := by
  unfold text
  by_cases hnan : x.isNaN
  · rw [if_pos hnan, eq_ofPlace_nan hnan]
    rfl
  · have hread := readPlace?_magnitudeText l (Nat.not_lt.1 (mt (isNaN_iff x).2 hnan))
    rw [if_neg hnan]
    by_cases hnegative : isNegative x
    · rw [if_pos hnegative, read?, hread, Option.map_some, ← hnegative, ofPlace_place]
    · rw [if_neg hnegative, read?_of_readPlace? hread, ← Bool.eq_false_of_not_eq_true hnegative,
        ofPlace_place]

/-- Different floats have different texts. -/
theorem text_injective (l : Layout) {x y : Float} (h : text l x = text l y) : x = y := by
  have hread := read?_text l x
  rw [h, read?_text, Option.some.injEq] at hread
  exact hread.symm

end DynExpr.Binary64
