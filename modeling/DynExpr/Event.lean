import DynExpr.Coercion
import DynExpr.Operator.Apply

/-! # Diagnostic events

    Building and evaluating report what a reader of a log would want to know:
    operands that were coerced, operands that fell through to a default
    result, symbols that were refused, and negations that failed.
-/

namespace DynExpr

/-- How important an event is. -/
inductive Level where
  | trace
  | debug
deriving DecidableEq

/-- The name of a level. -/
def Level.name : Level → String
  | trace => "TRACE"
  | debug => "DEBUG"

/-- Something that happened while building or evaluating. -/
inductive Event where
  /-- The operands of an operator differ in kind, and neither is null. -/
  | mismatch (op : BinaryOp) (left right : Kind)
  /-- A policy replaced a pair of operands. -/
  | coerced (policy : Coercion) (fromLeft fromRight toLeft toRight : Kind)
  /-- A node was to be built with an unknown symbol. -/
  | rejected (symbol : String)
  /-- A negation, given by its rendering, failed with a message. -/
  | negationFailed (node message : String)
deriving DecidableEq

namespace Event

/-- Events of every operation are traces; failures are worth a closer look. -/
def level : Event → Level
  | mismatch .. | coerced ..        => .trace
  | rejected .. | negationFailed .. => .debug

/-- The fields of an event, by name. -/
def fields : Event → List (String × String)
  | mismatch op left right =>
    [("message", "operand kinds differ, using default result"), ("op", op.symbol),
     ("left", left.name), ("right", right.name)]
  | coerced policy fromLeft fromRight toLeft toRight =>
    [("message", "coerced operands"), ("policy", policy.name),
     ("from_left", fromLeft.name), ("from_right", fromRight.name),
     ("to_left", toLeft.name), ("to_right", toRight.name)]
  | rejected symbol =>
    [("message", "rejected binary operator"), ("symbol", symbol)]
  | negationFailed node message =>
    [("message", "NOT failed"), ("expr", node), ("error", message)]

/-- The event of an operator on two operands, if they fall through to its default result. -/
def ofOperands (op : BinaryOp) (l r : Value) : List Event :=
  if BinaryOp.mismatched l r then [mismatch op l.kind r.kind] else []

/-- The event of a policy on a pair of operands, given what it made of them. -/
def ofCoercion (policy : Coercion) (l r : Value) : Option (Value × Value) → List Event
  | some (l', r') => [coerced policy l.kind r.kind l'.kind r'.kind]
  | none          => []

end Event

/-- Coerces two operands and applies an operator to what they become: the result, and the
    events on the way. -/
def BinaryOp.applyUnder (op : BinaryOp) (policy : Coercion) (l r : Value) : Value × List Event :=
  let pair := policy.coerce? l r
  let (l', r') := pair.getD (l, r)
  (op.apply l' r', Event.ofCoercion policy l r pair ++ Event.ofOperands op l' r')

end DynExpr
