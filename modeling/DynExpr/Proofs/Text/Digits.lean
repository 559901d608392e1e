import DynExpr.Numeral
import DynExpr.Proofs.Text.Delimited

/-! # Rows of digits

    Numbers are told by their digits:

    * **Values**: zeros in front do not count (`value_zeros_append`), zeros
      behind count ten each (`value_append_zeros`).
    * **Lengths**: a number fits a width if it is below that power of ten
      (`length_digits_le_iff`), and then it fills the width when it is padded
      (`length_padded`).
    * **Numerals**: rows of equally many digits are told by their values
      (`eq_of_value_eq`), so a number has one numeral of a given width, the
      padded one (`isNumeral_iff`).
    * **Texts of numbers**: different numbers have different digits
      (`digits_injective`, `padded_injective`, `ofInt_injective`), and digits
      can be split off a text that goes on with another character
      (`spanDigits_append`).
-/

namespace DynExpr.Numeral

/-! ### Values -/

theorem value_zeros_append (k : Nat) (cs : List Char) :
    value (List.replicate k '0' ++ cs) = value cs := by
  rw [value_eq_ofDigitChars, value_eq_ofDigitChars, Nat.ofDigitChars_append,
    Nat.ofDigitChars_replicate_zero, Nat.mul_zero]

theorem value_append_zeros (cs : List Char) (k : Nat) :
    value (cs ++ List.replicate k '0') = value cs * 10 ^ k := by
  rw [value_eq_ofDigitChars, value_eq_ofDigitChars, Nat.ofDigitChars_append,
    Nat.ofDigitChars_replicate_zero, Nat.mul_comm]

/-! ### Lengths -/

/-- The digits of a number fit a width if the number is below that power of ten. -/
theorem length_digits_le_iff (n : Nat) {width : Nat} (h : 0 < width) :
    (digits n).length ≤ width ↔ n < 10 ^ width :=
  Nat.length_toDigits_le_iff (by decide) h

theorem length_digits_pos (n : Nat) : 0 < (digits n).length := Nat.length_toDigits_pos

/-- A number is below the power of ten that it has digits. -/
theorem lt_pow_length (n : Nat) : n < 10 ^ (digits n).length :=
  (length_digits_le_iff n (length_digits_pos n)).1 (Nat.le_refl _)

/-- Without its first digit, a number other than zero has too few digits. -/
theorem pow_length_le {n : Nat} (h : n ≠ 0) : 10 ^ ((digits n).length - 1) ≤ n := by
  by_cases hone : (digits n).length = 1
  · rw [hone]
    exact Nat.pos_of_ne_zero h
  · have hlong : 0 < (digits n).length - 1 := by
      have hpos := length_digits_pos n
      omega
    rw [← Nat.not_lt, ← length_digits_le_iff n hlong]
    omega

/-- A number that fits a width fills it. -/
theorem length_padded {width n : Nat} (hwidth : 0 < width) (h : n < 10 ^ width) :
    (padded width n).length = width := by
  have hfits := (length_digits_le_iff n hwidth).2 h
  rw [padded, List.length_append, List.length_replicate]
  omega

/-! ### Digits of equal length -/

/-- The first digit counts ten times for each one behind it. -/
theorem value_cons (c : Char) (cs : List Char) :
    value (c :: cs) = (c.toNat - '0'.toNat) * 10 ^ cs.length + value cs := by
  rw [value_eq_ofDigitChars, value_eq_ofDigitChars, Nat.ofDigitChars_cons,
    Nat.ofDigitChars_eq_ofDigitChars_zero, Nat.mul_zero, Nat.zero_add, Nat.mul_comm]

theorem value_lt {cs : List Char} (h : ∀ c ∈ cs, c.isDigit) : value cs < 10 ^ cs.length := by
  induction cs with
  | nil => exact Nat.one_pos
  | cons c cs ih =>
    have hrest := ih fun d hd => h d (List.mem_cons_of_mem c hd)
    have hdigit := Char.isDigit_iff_toNat.1 (h c List.mem_cons_self)
    have hfirst : (c.toNat - '0'.toNat) * 10 ^ cs.length ≤ 9 * 10 ^ cs.length :=
      Nat.mul_le_mul_right _ (Nat.sub_le_sub_right hdigit.2 _)
    rw [value_cons, List.length_cons, Nat.pow_succ]
    omega

/-- A row of digits that does not start with zero needs all of its places. -/
theorem pow_le_value {c : Char} (hdigit : c.isDigit) (hc : c ≠ '0') (cs : List Char) :
    10 ^ cs.length ≤ value (c :: cs) := by
  have hrange := Char.isDigit_iff_toNat.1 hdigit
  have hzero : c.toNat ≠ '0'.toNat := fun h => hc (Char.toNat_inj.1 h)
  have hone : 1 * 10 ^ cs.length ≤ (c.toNat - '0'.toNat) * 10 ^ cs.length :=
    Nat.mul_le_mul_right _ (by omega)
  rw [value_cons]
  omega

/-- The first digit is a quotient, and the others are the remainder. -/
theorem digit_and_rest_inj {place n m v w : Nat} (hv : v < place) (hw : w < place)
    (h : n * place + v = m * place + w) : n = m ∧ v = w := by
  have hplace : 0 < place := Nat.zero_lt_of_lt hv
  have hquotient : (n * place + v) / place = (m * place + w) / place := by rw [h]
  rw [Nat.mul_comm, Nat.mul_comm m, Nat.mul_add_div hplace, Nat.mul_add_div hplace,
    Nat.div_eq_of_lt hv, Nat.div_eq_of_lt hw, Nat.add_zero, Nat.add_zero] at hquotient
  subst hquotient
  exact ⟨rfl, Nat.add_left_cancel h⟩

/-- Rows of equally many digits are the same if they denote the same number. -/
theorem eq_of_value_eq {cs ds : List Char} (hcs : ∀ c ∈ cs, c.isDigit) (hds : ∀ d ∈ ds, d.isDigit)
    (hlength : cs.length = ds.length) (hvalue : value cs = value ds) : cs = ds := by
  induction cs generalizing ds with
  | nil => exact (List.length_eq_zero_iff.1 hlength.symm).symm
  | cons c cs ih =>
    cases ds with
    | nil => cases hlength
    | cons d ds =>
      have hrest := fun c' h => hcs c' (List.mem_cons_of_mem c h)
      have hrest' := fun d' h => hds d' (List.mem_cons_of_mem d h)
      have hlengths : cs.length = ds.length := Nat.succ.inj hlength
      have hbelow := value_lt hrest
      have hbelow' := value_lt hrest'
      have hc := Char.isDigit_iff_toNat.1 (hcs c List.mem_cons_self)
      have hd := Char.isDigit_iff_toNat.1 (hds d List.mem_cons_self)
      rw [← hlengths] at hbelow'
      rw [value_cons, value_cons, ← hlengths] at hvalue
      obtain ⟨hfirst, hvalues⟩ := digit_and_rest_inj hbelow hbelow' hvalue
      have hsame : c = d := Char.toNat_inj.1 (by omega)
      rw [hsame, ih hrest hrest' hlengths hvalues]

/-! ### Numerals -/

/-- The numeral of a number with at least as many digits as the width says, and no more zeros in
    front than it takes for that. -/
structure IsNumeral (width n : Nat) (cs : List Char) : Prop where
  isDigit : ∀ c ∈ cs, c.isDigit
  value_eq : value cs = n
  width_le : width ≤ cs.length
  /-- More digits than asked for are all needed. -/
  head_ne : width < cs.length → cs.head? ≠ some '0'

/-- A numeral has no more digits than another one of the same number and width. -/
theorem IsNumeral.length_le {width n : Nat} {cs ds : List Char} (hcs : IsNumeral width n cs)
    (hds : IsNumeral width n ds) : cs.length ≤ ds.length := by
  apply Nat.le_of_not_lt
  intro hlt
  have hhead := hcs.head_ne (Nat.lt_of_le_of_lt hds.width_le hlt)
  cases cs with
  | nil => exact Nat.not_lt_zero _ hlt
  | cons c cs =>
    have hc : c ≠ '0' := fun h => hhead (congrArg some h)
    have hlow := pow_le_value (hcs.isDigit c List.mem_cons_self) hc cs
    have hhigh := value_lt hds.isDigit
    have hpow : 10 ^ ds.length ≤ 10 ^ cs.length :=
      Nat.pow_le_pow_right (by decide) (Nat.le_of_lt_succ hlt)
    rw [hcs.value_eq] at hlow
    rw [hds.value_eq] at hhigh
    omega

theorem IsNumeral.unique {width n : Nat} {cs ds : List Char} (hcs : IsNumeral width n cs)
    (hds : IsNumeral width n ds) : cs = ds :=
  eq_of_value_eq hcs.isDigit hds.isDigit (Nat.le_antisymm (hcs.length_le hds) (hds.length_le hcs))
    (hcs.value_eq.trans hds.value_eq.symm)

/-! ### Texts of numbers -/

theorem isDigit_of_mem_padded {width n : Nat} {c : Char} (h : c ∈ padded width n) : c.isDigit := by
  rcases List.mem_append.1 h with hzero | hdigit
  · rw [List.eq_of_mem_replicate hzero]
    rfl
  · exact isDigit_of_mem_digits hdigit

theorem head_digits_ne_zero {n : Nat} (h : n ≠ 0) : (digits n).head? ≠ some '0' := by
  have hlow := pow_length_le h
  have hvalue := value_digits n
  intro hhead
  cases hdigits : digits n with
  | nil => exact digits_ne_nil n hdigits
  | cons c cs =>
    rw [hdigits] at hhead hvalue hlow
    have hc : c = '0' := Option.some.inj hhead
    have hcs : ∀ d ∈ cs, d.isDigit := by
      intro d hd
      exact isDigit_of_mem_digits (hdigits ▸ List.mem_cons_of_mem c hd)
    have hhigh := value_lt hcs
    rw [value_cons, hc, Nat.sub_self, Nat.zero_mul, Nat.zero_add] at hvalue
    rw [List.length_cons, Nat.add_sub_cancel] at hlow
    omega

/-- Padding gives the numeral, and nothing else is it. -/
theorem isNumeral_iff {width n : Nat} (hwidth : 0 < width) {cs : List Char} :
    IsNumeral width n cs ↔ cs = padded width n := by
  have hlength : (padded width n).length = width - (digits n).length + (digits n).length := by
    rw [padded, List.length_append, List.length_replicate]
  have hnumeral : IsNumeral width n (padded width n) := {
    isDigit := fun _ => isDigit_of_mem_padded
    value_eq := value_padded width n
    width_le := by omega
    head_ne := by
      intro hlong
      have hbare : padded width n = digits n := by
        have hnone : width - (digits n).length = 0 := by omega
        rw [padded, hnone]
        rfl
      rw [hbare] at hlong ⊢
      apply head_digits_ne_zero
      rintro rfl
      exact Nat.not_lt.2 hwidth hlong }
  constructor
  · intro h
    exact h.unique hnumeral
  · rintro rfl
    exact hnumeral

theorem padded_ne_nil (width n : Nat) : padded width n ≠ [] :=
  List.append_ne_nil_of_right_ne_nil _ (digits_ne_nil n)

theorem digits_injective {n m : Nat} (h : digits n = digits m) : n = m := by
  rw [← value_digits n, h, value_digits]

theorem padded_injective {width n m : Nat} (h : padded width n = padded width m) : n = m := by
  rw [← value_padded width n, h, value_padded]

/-- Digits are no sign. -/
theorem ne_sign_append {sign : Char} (hsign : sign.isDigit = false) {run : List Char}
    (hrun : ∀ c ∈ run, c.isDigit) (hne : run ≠ []) (cs rest : List Char) :
    run ++ cs ≠ sign :: rest := by
  obtain ⟨c, run', rfl⟩ := List.exists_cons_of_ne_nil hne
  intro h
  have hc : c.isDigit := hrun c List.mem_cons_self
  rw [List.cons_append, List.cons.injEq] at h
  rw [h.1, hsign] at hc
  cases hc

theorem ofInt_injective {z w : Int} (h : ofInt z = ofInt w) : z = w := by
  have hminus (n m : Nat) : digits n ≠ '-' :: digits m := by
    rw [← List.append_nil (digits n)]
    exact ne_sign_append rfl (fun _ => isDigit_of_mem_digits) (digits_ne_nil n) [] (digits m)
  unfold ofInt at h
  by_cases hz : z < 0
  · by_cases hw : w < 0
    · rw [if_pos hz, if_pos hw, List.cons.injEq] at h
      have habs := digits_injective h.2
      omega
    · rw [if_pos hz, if_neg hw] at h
      exact absurd h.symm (hminus _ _)
  · by_cases hw : w < 0
    · rw [if_neg hz, if_pos hw] at h
      exact absurd h (hminus _ _)
    · rw [if_neg hz, if_neg hw] at h
      have habs := digits_injective h
      omega

/-- Digits are split off where another character follows. -/
theorem spanDigits_append {run rest : List Char} (hrun : ∀ c ∈ run, c.isDigit)
    (hrest : Text.StopsAt Char.isDigit rest) : spanDigits (run ++ rest) = (run, rest) := by
  have htake := Text.takeWhile_append_of_stopsAt hrun hrest
  have hsplit := List.takeWhile_append_dropWhile (p := Char.isDigit) (l := run ++ rest)
  rw [htake] at hsplit
  rw [spanDigits, htake, List.append_cancel_left hsplit]

/-- A padded number can be told from another character that follows. -/
theorem padded_append_inj {width n m : Nat} {rest rest' : List Char}
    (hrest : Text.StopsAt Char.isDigit rest) (hrest' : Text.StopsAt Char.isDigit rest')
    (h : padded width n ++ rest = padded width m ++ rest') : n = m ∧ rest = rest' := by
  obtain ⟨hpadded, hsame⟩ := Text.append_inj_of_stopsAt (fun _ => isDigit_of_mem_padded)
    (fun _ => isDigit_of_mem_padded) hrest hrest' h
  exact ⟨padded_injective hpadded, hsame⟩

theorem padded_cons_append_inj {width n m : Nat} {c : Char} (hc : c.isDigit = false)
    {rest rest' : List Char} (h : padded width n ++ c :: rest = padded width m ++ c :: rest') :
    n = m ∧ rest = rest' := by
  obtain ⟨hsame, hrest⟩ := padded_append_inj (Text.stopsAt_cons hc rest)
    (Text.stopsAt_cons hc rest') h
  exact ⟨hsame, (List.cons.inj hrest).2⟩

end DynExpr.Numeral
