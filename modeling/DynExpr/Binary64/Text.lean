import DynExpr.Binary64.Decimal

/-! # The text of a float

    A float is written with its shortest digits. A `Layout` decides how the
    digits are laid out:

    * `Layout.plain`, for values shown to a reader, never uses an exponent
      and writes whole numbers without a point;
    * `Layout.structural`, for the structural text of a tree, marks whole
      numbers by `.0` and writes very large and very small numbers with an
      exponent.
-/

namespace DynExpr.Binary64

/-- How the digits of a float are laid out. -/
structure Layout where
  /-- May a number whose leading digit stands for `10 ^ e` be written without an exponent? -/
  positional : Int → Bool
  /-- Are whole numbers in positional form marked by `.0`? -/
  pointZero : Bool

namespace Layout

/-- Always positional, whole numbers bare. -/
def plain : Layout where
  positional := fun _ => true
  pointZero := false

/-- Positional from `10 ^ -4` up to and without `10 ^ 16`, whole numbers with `.0`. -/
def structural : Layout where
  positional := fun e => decide (-4 ≤ e ∧ e < 16)
  pointZero := true

/-- The mark of a whole number. -/
def wholeMark (l : Layout) : List Char := if l.pointZero then ['.', '0'] else []

end Layout

/-- Digits in positional form, padded with zeros up to the point where the digits do not
    reach it. -/
def positionalText (l : Layout) (digits : List Char) (exponent : Int) : List Char :=
  let point : Int := digits.length + exponent
  if 0 ≤ exponent then
    digits ++ List.replicate exponent.toNat '0' ++ l.wholeMark
  else if 0 < point then
    digits.take point.toNat ++ '.' :: digits.drop point.toNat
  else
    '0' :: '.' :: List.replicate (-point).toNat '0' ++ digits

/-- Digits with a point after the first one, if there are more, and an exponent. -/
def exponentText (digits : List Char) (exponent : Int) : List Char :=
  let fraction := digits.drop 1
  digits.take 1 ++ (if fraction.isEmpty then [] else '.' :: fraction) ++
    'e' :: Numeral.ofInt (exponent + fraction.length)

/-- The text of a decimal. -/
def Decimal.text (l : Layout) (d : Decimal) : List Char :=
  let digits := Numeral.digits d.digits
  if l.positional (d.exponent + digits.length - 1) then positionalText l digits d.exponent
  else exponentText digits d.exponent

/-- The text of the magnitude at place `n`, which is not NaN. -/
def magnitudeText (l : Layout) (n : Nat) : List Char :=
  if n = infinity then ['i', 'n', 'f']
  else if n = 0 then '0' :: l.wholeMark
  else (shortest n).text l

/-- The text of a float. NaN has no sign; zero has one. -/
def text (l : Layout) (x : Float) : List Char :=
  if x.isNaN then ['N', 'a', 'N']
  else if isNegative x then '-' :: magnitudeText l (place x)
  else magnitudeText l (place x)

end DynExpr.Binary64
