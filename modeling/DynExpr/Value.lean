import DynExpr.Kind
import DynExpr.Operator
import DynExpr.Binary64.Grid
import DynExpr.Instant
import DynExpr.Text.Order

/-! # Values

    A value is one of seven kinds of data, and nothing ever changes its kind
    behind the caller's back.

    * **Equality** (`==`) holds only within a kind. It is reflexive: NaN
      equals itself, and the two zeros are equal.
    * **Order** (`Value.compare?`) is defined within a kind only, and not
      between NaN and another float.
-/

namespace DynExpr

/-- A value. -/
inductive Value where
  | null
  | bool (b : Bool)
  | uint (n : UInt64)
  | int (n : Int64)
  | float (x : Float)
  | str (s : String)
  | timestamp (t : Instant)

namespace Value

instance : Inhabited Value := ⟨null⟩

/-- The kind of a value. -/
def kind : Value → Kind
  | null        => .null
  | bool _      => .bool
  | uint _      => .uint
  | int _       => .int
  | float _     => .float
  | str _       => .string
  | timestamp _ => .timestamp

/-- Is it the absence of a value? -/
def isNull : Value → Bool
  | null => true
  | _    => false

/-! ### Access by kind -/

/-- The truth value, if it is one. -/
def asBool? : Value → Option Bool
  | bool b => some b
  | _      => none

/-- The unsigned integer, if it is one. -/
def asUInt? : Value → Option UInt64
  | uint n => some n
  | _      => none

/-- The signed integer, if it is one. -/
def asInt? : Value → Option Int64
  | int n => some n
  | _     => none

/-- The float, if it is one. -/
def asFloat? : Value → Option Float
  | float x => some x
  | _       => none

/-- The text, if it is one. -/
def asStr? : Value → Option String
  | str s => some s
  | _     => none

/-- The instant, if it is one. -/
def asTimestamp? : Value → Option Instant
  | timestamp t => some t
  | _           => none

/-! ### Equality and order -/

/-- Equality within a kind; values of different kinds are never equal. -/
def equal : Value → Value → Bool
  | null, null               => true
  | bool a, bool b           => a == b
  | uint a, uint b           => a == b
  | int a, int b             => a == b
  | float a, float b         => Binary64.equal a b
  | str a, str b             => a == b
  | timestamp a, timestamp b => decide (a = b)
  | _, _                     => false

instance : BEq Value := ⟨equal⟩

/-- How two values of one kind stand to each other. Nothing for values of different kinds, nor
    for NaN beside another float. -/
def compare? : Value → Value → Option Ordering
  | null, null               => some .eq
  | bool a, bool b           => some (compare a b)
  | uint a, uint b           => some (compare a.toNat b.toNat)
  | int a, int b             => some (compare a.toInt b.toInt)
  | float a, float b         => Binary64.compare? a b
  | str a, str b             => some (Text.compare a b)
  | timestamp a, timestamp b => some (Instant.compare a b)
  | _, _                     => none

/-- Does a comparison hold between two values by `compare?`? Without an order none does. -/
def holds (c : Comparison) (a b : Value) : Bool := (compare? a b).any c.holds

end Value

end DynExpr
