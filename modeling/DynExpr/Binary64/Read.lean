import DynExpr.Binary64.Decimal

/-! # Reading floats

    The text of a float is an optional sign, followed by one of the words
    `inf`, `infinity` and `nan` in any letter case, or by decimal digits with
    an optional point and an optional exponent. There is at least one digit
    before or after the point, and nothing else: no blanks, no separators.
    The number is rounded to the nearest float.

    An exponent that has reached `2 ^ 16` takes in no more digits. Only a text
    of more than sixty thousand digits can balance an exponent of that size,
    and so show the difference.

    * **`exponentFrom_eq`**: smaller exponents are the numbers that their
      digits denote.
-/

namespace DynExpr.Binary64

/-! ### Exponents -/

/-- An exponent takes in digits as long as it is below this bound. -/
def exponentBound : Nat := 2 ^ 16

/-- The exponent that a row of digits stands for, when digits are added to `n`. -/
def exponentFrom (n : Nat) (cs : List Char) : Nat :=
  cs.foldl (fun n c => if n < exponentBound then 10 * n + (c.toNat - '0'.toNat) else n) n

/-- Reads the digits of an exponent. -/
def readExponentDigits? (cs : List Char) : Option Nat :=
  if cs ≠ [] ∧ cs.all Char.isDigit then some (exponentFrom 0 cs) else none

/-- Reads an exponent with an optional sign. -/
def readSignedExponent? : List Char → Option Int
  | '-' :: cs => (readExponentDigits? cs).map fun n => -(n : Int)
  | '+' :: cs => (readExponentDigits? cs).map fun n => (n : Int)
  | cs        => (readExponentDigits? cs).map fun n => (n : Int)

/-- Reads the exponent behind the digits: nothing, or its mark, an optional sign and digits. -/
def readExponent? : List Char → Option Int
  | []        => some 0
  | 'e' :: cs => readSignedExponent? cs
  | 'E' :: cs => readSignedExponent? cs
  | _         => none

/-- Digits never make a number smaller. -/
theorem le_ofDigitChars (n : Nat) (cs : List Char) : n ≤ Nat.ofDigitChars 10 cs n := by
  induction cs generalizing n with
  | nil => exact Nat.le_refl n
  | cons c cs ih =>
    have step := ih (10 * n + (c.toNat - '0'.toNat))
    rw [Nat.ofDigitChars_cons]
    omega

/-- An exponent whose digits all count is the number that they denote. -/
theorem exponentFrom_eq (n : Nat) (cs : List Char)
    (h : Nat.ofDigitChars 10 cs n < 10 * exponentBound) :
    exponentFrom n cs = Nat.ofDigitChars 10 cs n := by
  induction cs generalizing n with
  | nil => rfl
  | cons c cs ih =>
    rw [Nat.ofDigitChars_cons] at h ⊢
    have below := le_ofDigitChars (10 * n + (c.toNat - '0'.toNat)) cs
    have counts : n < exponentBound := by omega
    rw [exponentFrom, List.foldl_cons, if_pos counts]
    exact ih _ h

/-! ### Numbers -/

/-- Reads a decimal without a sign. -/
def readDecimal? (cs : List Char) : Option Decimal :=
  let (whole, rest) := Numeral.spanDigits cs
  let (fraction, rest) := match rest with
    | '.' :: rest => Numeral.spanDigits rest
    | rest        => ([], rest)
  if whole.isEmpty && fraction.isEmpty then none
  else (readExponent? rest).map fun e =>
    ⟨Numeral.value (whole ++ fraction), e - fraction.length⟩

/-- Reads a magnitude and answers with its place. -/
def readPlace? (cs : List Char) : Option Nat :=
  let word := cs.map Char.toLower
  if word = ['i', 'n', 'f'] ∨ word = ['i', 'n', 'f', 'i', 'n', 'i', 't', 'y'] then some infinity
  else if word = ['n', 'a', 'n'] then some nan
  else (readDecimal? cs).map Decimal.place

/-- Reads a float. -/
def read? : List Char → Option Float
  | '-' :: cs => (readPlace? cs).map (ofPlace true)
  | '+' :: cs => (readPlace? cs).map (ofPlace false)
  | cs        => (readPlace? cs).map (ofPlace false)

end DynExpr.Binary64
