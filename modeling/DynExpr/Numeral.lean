import DynExpr.Power

/-! # Decimal numerals

    Whole numbers as decimal text, over lists of characters:

    * **Writing**: `digits` writes a natural number, `ofInt` an integer, and
      `padded` pads with zeros on the left.
    * **Reading**: `value` is the number that digits denote; `readNat?` and
      `readInt?` read a whole text, with an optional sign in front.
-/

namespace DynExpr.Numeral

/-! ### Writing -/

/-- The decimal digits of a natural number. -/
def digits (n : Nat) : List Char := Nat.toDigits 10 n

/-- An integer, with a minus sign if it is negative. -/
def ofInt (z : Int) : List Char :=
  if z < 0 then '-' :: digits z.natAbs else digits z.natAbs

/-- The digits of `n`, with zeros in front up to the given width. -/
def padded (width n : Nat) : List Char :=
  List.replicate (width - (digits n).length) '0' ++ digits n

/-! ### Reading -/

/-- The number that a row of decimal digits denotes, joined from the numbers of its two
    halves down to the given depth. -/
def ofHalves : Nat → List Char → Nat
  | 0, cs         => Nat.ofDigitChars 10 cs 0
  | depth + 1, cs =>
    let back := cs.drop (cs.length / 2)
    ofHalves depth (cs.take (cs.length / 2)) * 10 ^ back.length + ofHalves depth back

/-- The number that a row of decimal digits denotes. Long rows are halved until about a
    hundred digits are left: a million digits joined one by one would take minutes. -/
def value (cs : List Char) : Nat := ofHalves (Nat.log2 (cs.length / 64)) cs

/-- Splits off the digits at the front of a text. -/
def spanDigits (cs : List Char) : List Char × List Char :=
  (cs.takeWhile Char.isDigit, cs.dropWhile Char.isDigit)

/-- Reads a text of one or more digits and nothing else. -/
def readDigits? (cs : List Char) : Option Nat :=
  if cs ≠ [] ∧ cs.all Char.isDigit then some (value cs) else none

/-- Reads digits with an optional plus sign in front. -/
def readNat? : List Char → Option Nat
  | '+' :: cs => readDigits? cs
  | cs        => readDigits? cs

/-- Reads digits with an optional sign in front. -/
def readInt? : List Char → Option Int
  | '-' :: cs => (readDigits? cs).map fun n => -(n : Int)
  | cs        => (readNat? cs).map fun n => (n : Int)

/-! ### The value of digits -/

/-- Halving does not change the number. -/
theorem ofHalves_eq (depth : Nat) (cs : List Char) :
    ofHalves depth cs = Nat.ofDigitChars 10 cs 0 := by
  induction depth generalizing cs with
  | zero => rfl
  | succ depth ih =>
    have joined := Nat.ofDigitChars_append (b := 10) (l := cs.take (cs.length / 2))
      (m := cs.drop (cs.length / 2)) 0
    rw [List.take_append_drop, Nat.ofDigitChars_eq_ofDigitChars_zero (l := cs.drop _)] at joined
    rw [ofHalves, ih, ih, joined, Nat.mul_comm]

/-- Digits denote a number place by place: each counts once, and those before it ten times. -/
theorem value_eq_ofDigitChars (cs : List Char) : value cs = Nat.ofDigitChars 10 cs 0 :=
  ofHalves_eq _ cs

/-! ### Reading what was written -/

/-- Digits denote the number that they were written for. -/
theorem value_digits (n : Nat) : value (digits n) = n :=
  (value_eq_ofDigitChars _).trans Nat.ofDigitChars_ten_toDigits

/-- What is written consists of digits. -/
theorem isDigit_of_mem_digits {n : Nat} {c : Char} (h : c ∈ digits n) : c.isDigit :=
  Nat.isDigit_of_mem_toDigits (by decide) (by decide) h

theorem digits_ne_nil (n : Nat) : digits n ≠ [] := Nat.toDigits_ne_nil

/-- Leading zeros do not change the number. -/
theorem value_padded (width n : Nat) : value (padded width n) = n := by
  rw [value_eq_ofDigitChars, padded, Nat.ofDigitChars_append, Nat.ofDigitChars_replicate_zero,
    Nat.mul_zero]
  exact Nat.ofDigitChars_ten_toDigits

end DynExpr.Numeral
