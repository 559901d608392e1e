import DynExpr.Power

/-! # The grid of floats

    A float without its sign bit is a number `n < 2 ^ 63`, its *place* on the
    grid of magnitudes: zero is place 0, the floats follow in increasing
    order, and infinity is place `2047 * 2 ^ 52`. Beyond it lies NaN.

    * **Exact values**: every finite magnitude is a whole number of units of
      `2 ^ -1074`, and `units` says how many.
    * **Rounding**: `nearest num den` is the place of the float that is
      nearest to the fraction `num / den`, ties going to the even place. All
      conversions from integers and from decimal text go through it.
-/

namespace DynExpr.Binary64

/-- The place of infinity, one above the largest finite magnitude. -/
def infinity : Nat := 2047 * 2 ^ 52

/-- The place of the one NaN. -/
def nan : Nat := infinity + 2 ^ 51

/-- How many units lie between place `n` and the next one. -/
def step (n : Nat) : Nat := 2 ^ (n / 2 ^ 52 - 1)

/-- The exact value of the finite magnitude at place `n`, in units of `2 ^ -1074`. Below
    `2 ^ 52` places are one unit apart; from there on the distance doubles every `2 ^ 52`
    places. -/
def units (n : Nat) : Nat :=
  if n < 2 ^ 52 then n else (2 ^ 52 + n % 2 ^ 52) * step n

/-! ### Rounding -/

/-- The whole number nearest to `num / den`; halfway between two, the even one. -/
def halfEven (num den : Nat) : Nat :=
  let q := num / den
  let r := num % den
  if 2 * r < den ∨ (2 * r = den ∧ q % 2 = 0) then q else q + 1

/-- The place of the float nearest to `num / den`. The distance of the floats around the
    fraction is `2 ^ shift` units, so that many units are one step of the grid. Beyond the
    largest float lies infinity. -/
def nearest (num den : Nat) : Nat :=
  let scaled := num * 2 ^ 1074
  let shift := (scaled / den).log2 - 52
  min infinity (shift * 2 ^ 52 + halfEven scaled (den * 2 ^ shift))

/-! ### Floats and places -/

/-- The float at a place, with a sign. -/
def ofPlace (negative : Bool) (n : Nat) : Float :=
  Float.ofBits (UInt64.ofNat (if negative then 2 ^ 63 + n else n))

/-- The place of a float's magnitude. -/
def place (x : Float) : Nat := x.toBits.toNat % 2 ^ 63

/-- Is the sign bit set? -/
def isNegative (x : Float) : Bool := decide (2 ^ 63 ≤ x.toBits.toNat)

/-- The float nearest to a fraction. -/
def ofRatio (negative : Bool) (num den : Nat) : Float := ofPlace negative (nearest num den)

/-- The float nearest to an integer. -/
def ofInt (z : Int) : Float := ofRatio (decide (z < 0)) z.natAbs 1

/-! ### Comparing floats -/

/-- Reflexive equality: equal as numbers, or both NaN. The two zeros are equal. -/
def equal (a b : Float) : Bool := a == b || (a.isNaN && b.isNaN)

/-- How two floats stand to each other; nothing if just one of them is NaN. -/
def compare? (a b : Float) : Option Ordering :=
  if equal a b then some .eq
  else if a < b then some .lt
  else if b < a then some .gt
  else none

end DynExpr.Binary64
