import DynExpr.Binary64.Grid
import DynExpr.Numeral

/-! # Decimals and floats

    * **From decimal to float**: `Decimal.place` rounds a decimal to the
      nearest float.
    * **From float to decimal**: `shortest n` is the decimal with the fewest
      digits that rounds back to place `n`; among those with equally many
      digits the one closest to the exact value, and of two equally close
      ones the larger.
-/

namespace DynExpr.Binary64

/-- The number `digits * 10 ^ exponent`. -/
structure Decimal where
  digits : Nat
  exponent : Int
deriving DecidableEq

namespace Decimal

/-- Numerator of a decimal written as a fraction of whole numbers. -/
def num (d : Decimal) : Nat := d.digits * 10 ^ d.exponent.toNat

/-- Denominator of a decimal written as a fraction of whole numbers. -/
def den (d : Decimal) : Nat := 10 ^ (-d.exponent).toNat

/-- The place of the float nearest to a decimal. Decimals that lie far beyond the largest or
    far below the smallest float are answered without computing their power of ten. -/
def place (d : Decimal) : Nat :=
  if d.digits = 0 then 0
  else if 400 < d.exponent then infinity
  else if (d.digits.log2 : Int) + 1080 < 3 * -d.exponent then 0
  else nearest d.num d.den

/-- The same number without trailing zeros among the digits. -/
def stripped (d : Decimal) : Decimal :=
  if d.digits ≠ 0 ∧ d.digits % 10 = 0 then stripped ⟨d.digits / 10, d.exponent + 1⟩ else d
termination_by d.digits
decreasing_by omega

end Decimal

/-! ### Shortest decimals -/

/-- Is the exact value `u / 2 ^ 1074` at least `10 ^ e`? -/
def reaches (u : Nat) (e : Int) : Bool :=
  decide (2 ^ 1074 * 10 ^ e.toNat ≤ u * 10 ^ (-e).toNat)

/-- The exponent of the leading decimal digit of `u / 2 ^ 1074`, for `u > 0`: estimated from
    the binary exponent, where 30103 / 100000 stands for the logarithm of two, and raised by
    one if the estimate is too low. -/
def leadingExponent (u : Nat) : Int :=
  let guess := ((u.log2 : Int) - 1074) * 30103 / 100000
  if reaches u (guess + 1) then guess + 1 else guess

/-- Of the two multiples of `10 ^ e` around the exact value of place `n`, the closer one that
    rounds back to `n`, if either does. Halfway between them the upper one is tried first. A
    multiple more than half a step away from the value cannot round back, and is not tried. -/
def onGrid? (n : Nat) (e : Int) : Option Decimal :=
  let scale := 10 ^ (-e).toNat
  let grid := 2 ^ 1074 * 10 ^ e.toNat
  let value := units n * scale
  let below := value / grid
  let overshoot := value % grid
  let roundsBack (distance : Nat) (d : Decimal) : Option Decimal :=
    if 2 * distance ≤ step n * scale ∧ d.place = n then some d else none
  let lower := roundsBack overshoot ⟨below, e⟩
  let upper := roundsBack (grid - overshoot) ⟨below + 1, e⟩
  if 2 * overshoot < grid then lower <|> upper else upper <|> lower

/-- The exact value of place `n`, written out. -/
def exactDecimal (n : Nat) : Decimal := ⟨units n * 5 ^ 1074, -1074⟩

/-- The decimal with the fewest digits that rounds back to place `n`. A grid has a multiple
    that rounds back if a coarser one has; so the floats that need more than fifteen digits
    are told apart first, and for them only sixteen and seventeen digits are tried. Seventeen
    digits are always enough, so the exact value is never used; it stands there because the
    definition need not know that. -/
def shortest (n : Nat) : Decimal :=
  let top := leadingExponent (units n)
  let withDigits? (count : Nat) : Option Decimal := onGrid? n (top + 1 - count)
  let least := if (withDigits? 15).isSome then 1 else 16
  match (List.range' least (18 - least)).findSome? withDigits? with
  | some d => d.stripped
  | none   => (exactDecimal n).stripped

end DynExpr.Binary64
