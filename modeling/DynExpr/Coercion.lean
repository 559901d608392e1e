import DynExpr.Binary64.Read
import DynExpr.Value

/-! # Coercion

    A binary node says how far it goes to bring operands of different kinds
    onto one kind, before its operator is applied:

    * `strict` leaves them alone;
    * `numeric` promotes two numbers to a common numeric kind;
    * `lenient` also reads text as a number or as a truth value, if the other
      operand is one.

    Null is never coerced, nor is text that cannot be read.
-/

namespace DynExpr

/-- How a binary node treats operands of different kinds. -/
inductive Coercion where
  | strict
  | numeric
  | lenient
deriving DecidableEq

namespace Coercion

instance : Inhabited Coercion := ⟨strict⟩

/-- Every policy, each accepting more than the one before. -/
def all : List Coercion := [strict, numeric, lenient]

/-- The name of a policy. -/
def name : Coercion → String
  | strict  => "Strict"
  | numeric => "Numeric"
  | lenient => "Lenient"

/-! ### Promotion -/

/-- An unsigned integer that fits the signed range meets a signed one as a signed integer;
    otherwise both become floats. -/
def meetInt (a : UInt64) (b : Int64) : Value × Value :=
  if a.toNat < 2 ^ 63 then (.int (Int64.ofInt a.toNat), .int b)
  else (.float (Binary64.ofInt a.toNat), .float (Binary64.ofInt b.toInt))

/-- Promotes two numbers of different kinds to a common kind. A float turns the other operand
    into the nearest float. -/
def promote? : Value → Value → Option (Value × Value)
  | .uint a, .int b   => some (meetInt a b)
  | .int a, .uint b   => some (meetInt b a).swap
  | .uint a, .float y => some (.float (Binary64.ofInt a.toNat), .float y)
  | .float x, .uint b => some (.float x, .float (Binary64.ofInt b.toNat))
  | .int a, .float y  => some (.float (Binary64.ofInt a.toInt), .float y)
  | .float x, .int b  => some (.float x, .float (Binary64.ofInt b.toInt))
  | _, _              => none

/-! ### Reading text -/

/-- Reads an unsigned 64-bit integer. -/
def readUInt? (cs : List Char) : Option Value :=
  (Numeral.readNat? cs).bind fun n =>
    if n < 2 ^ 64 then some (.uint (UInt64.ofNat n)) else none

/-- Reads a signed 64-bit integer. -/
def readInt? (cs : List Char) : Option Value :=
  (Numeral.readInt? cs).bind fun z =>
    if -2 ^ 63 ≤ z ∧ z < 2 ^ 63 then some (.int (Int64.ofInt z)) else none

/-- Reads a float. -/
def readFloat? (cs : List Char) : Option Value := (Binary64.read? cs).map .float

/-- Reads a number, trying the kind of the other operand first and then the wider ones. -/
def readNumber? (cs : List Char) : Kind → Option Value
  | .uint  => readUInt? cs <|> readInt? cs <|> readFloat? cs
  | .int   => readInt? cs <|> readFloat? cs
  | .float => readFloat? cs
  | _      => none

/-- The texts that stand for a truth value; the empty text is false. -/
def readBool? (s : String) : Option Bool :=
  if s ∈ ["", "0", "f", "F", "false", "FALSE", "False"] then some false
  else if s ∈ ["1", "t", "T", "true", "TRUE", "True"] then some true
  else none

/-- Promotes a pair that has just been read, if its kinds still differ. -/
def reconcile (l r : Value) : Value × Value := (promote? l r).getD (l, r)

/-- Reads the text among two operands to match the other one. -/
def readText? : Value → Value → Option (Value × Value)
  | .str s, .bool b => (readBool? s).map fun x => (.bool x, .bool b)
  | .bool b, .str s => (readBool? s).map fun x => (.bool b, .bool x)
  | .str s, r       => (readNumber? s.toList r.kind).map fun x => reconcile x r
  | l, .str s       => (readNumber? s.toList l.kind).map fun x => reconcile l x
  | _, _            => none

/-! ### Policies -/

/-- The operands that a policy puts in the place of two others, if it does not leave them as
    they are. -/
def coerce? (policy : Coercion) (l r : Value) : Option (Value × Value) :=
  if l.kind = r.kind then none
  else match policy with
    | strict  => none
    | numeric => promote? l r
    | lenient => readText? l r <|> promote? l r

end Coercion

end DynExpr
