import DynExpr.Fault
import DynExpr.Pattern
import DynExpr.Value

/-! # Applying operators to values

    No binary operator fails. Which rule applies depends on the kinds:

    * **Null** on either side: a comparison looks only at which sides are
      null, and arithmetic gives null.
    * **One kind** on both sides: the rule of that kind.
    * **Different kinds**: the default result, which is false for comparisons
      and patterns and null for arithmetic.

    Integer arithmetic is exact or null: `overIntegers` computes over all integers,
    and a result outside the range of the kind becomes null. Negation is the
    one operator that fails, on everything but a truth value.
-/

namespace DynExpr

/-! ### Comparisons -/

namespace Comparison

/-- The comparison of two operands of which at least one is null. Null equals null and comes
    before everything else. -/
def ofNulls (leftNull rightNull : Bool) : Comparison → Bool
  | eq => leftNull && rightNull
  | ne => leftNull != rightNull
  | lt => leftNull && !rightNull
  | le => leftNull
  | gt => !leftNull && rightNull
  | ge => rightNull

/-- The comparison of two floats. Equality is reflexive, while no ordering holds of a NaN. -/
def ofFloats (a b : Float) : Comparison → Bool
  | eq => Binary64.equal a b
  | ne => !Binary64.equal a b
  | lt => decide (a < b)
  | le => decide (a ≤ b)
  | gt => decide (b < a)
  | ge => decide (b ≤ a)

/-- The comparison of two values. -/
def apply (c : Comparison) : Value → Value → Bool
  | .null, r                   => c.ofNulls true r.isNull
  | l, .null                   => c.ofNulls l.isNull true
  | .bool a, .bool b           => c.holds (compare a b)
  | .uint a, .uint b           => c.holds (compare a.toNat b.toNat)
  | .int a, .int b             => c.holds (compare a.toInt b.toInt)
  | .float a, .float b         => c.ofFloats a b
  | .str a, .str b             => c.holds (Text.compare a b)
  | .timestamp a, .timestamp b => c.holds (Instant.compare a b)
  | _, _                       => false

end Comparison

/-! ### Arithmetic -/

namespace Arithmetic

/-- The exact result over all integers. Division cuts toward zero; there is none by zero. -/
def overIntegers : Arithmetic → Int → Int → Option Int
  | add, a, b => some (a + b)
  | sub, a, b => some (a - b)
  | mul, a, b => some (a * b)
  | div, a, b => if b = 0 then none else some (a.tdiv b)

/-- An exact result as an unsigned integer, or null if it is out of range. -/
def toUInt : Option Int → Value
  | some z => if 0 ≤ z ∧ z < 2 ^ 64 then .uint (UInt64.ofNat z.toNat) else .null
  | none   => .null

/-- An exact result as a signed integer, or null if it is out of range. -/
def toInt : Option Int → Value
  | some z => if -2 ^ 63 ≤ z ∧ z < 2 ^ 63 then .int (Int64.ofInt z) else .null
  | none   => .null

/-- The result for floats. Only division by a zero of either sign gives null. -/
def ofFloats (a b : Float) : Arithmetic → Value
  | add => .float (a + b)
  | sub => .float (a - b)
  | mul => .float (a * b)
  | div => if b == 0 then .null else .float (a / b)

/-- The result for two values; null unless both are of one numeric kind. -/
def apply (op : Arithmetic) : Value → Value → Value
  | .uint a, .uint b   => toUInt (op.overIntegers a.toNat b.toNat)
  | .int a, .int b     => toInt (op.overIntegers a.toInt b.toInt)
  | .float a, .float b => op.ofFloats a b
  | _, _               => .null

end Arithmetic

/-! ### Dispatch -/

namespace BinaryOp

/-- The result where no rule of a kind applies. -/
def default : BinaryOp → Value
  | comparison _ | like => .bool false
  | arithmetic _        => .null

/-- The result of an operator. Between two texts `LIKE` takes the right one as a pattern; on
    all other operands it is equality. -/
def apply : BinaryOp → Value → Value → Value
  | comparison c, l, r      => .bool (c.apply l r)
  | like, .str s, .str p    => .bool (DynExpr.like s p)
  | like, l, r              => .bool (Comparison.eq.apply l r)
  | arithmetic a, l, r      => a.apply l r

/-- Do the operands fall through to the default result, being of different kinds and neither
    of them null? -/
def mismatched (l r : Value) : Bool := !l.isNull && !r.isNull && l.kind != r.kind

/-- Mismatched operands are in no rule of a kind, so the result is the default one. -/
theorem apply_of_mismatched (op : BinaryOp) {l r : Value} (h : mismatched l r) :
    op.apply l r = op.default := by
  -- The other pairs of kinds are not mismatched.
  cases op with
  | comparison c => cases l <;> cases r <;> first | rfl | cases h
  | like => cases l <;> cases r <;> first | rfl | cases h
  | arithmetic a => cases l <;> cases r <;> first | rfl | cases h

end BinaryOp

/-- Logical negation of a value. -/
def negate : Value → Except EvalError Value
  | .bool b => .ok (.bool !b)
  | v       => .error (.ofFault (.typeMismatch negationSymbol .bool v.kind))

end DynExpr
