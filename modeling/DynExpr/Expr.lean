import DynExpr.Coercion
import DynExpr.Operator
import DynExpr.Fault

/-! # Expression trees

    A tree is built once and can be evaluated any number of times. Operator
    symbols are resolved while building, so an unknown operator is reported
    before any evaluation.
-/

namespace DynExpr

/-- An expression. -/
inductive Expr where
  /-- A fixed value. -/
  | constant (v : Value)
  /-- A name, whose value the parameters supply. -/
  | param (name : String)
  /-- Logical negation. -/
  | not (operand : Expr)
  /-- An operator between two operands. -/
  | binary (op : BinaryOp) (coercion : Coercion) (left right : Expr)
  /-- The texts of the items, with the text of the delimiter between them. -/
  | concat (delimiter : Expr) (items : List Expr)
  /-- A random float from 0 up to and without 1. -/
  | rand

namespace Expr

instance : Inhabited Expr := ⟨rand⟩

/-- Constants, parameters and draws have no parts. -/
def isLeaf : Expr → Bool
  | constant _ | param _ | rand => true
  | _                           => false

/-- A binary node, from the symbol of its operator. -/
def ofSymbol (symbol : String) (coercion : Coercion) (left right : Expr) :
    Except BuildError Expr :=
  match BinaryOp.ofSymbol? symbol with
  | some op => .ok (binary op coercion left right)
  | none    => .error (.unsupportedOperator symbol)

/-- A concatenation, from a row of expressions that starts with the delimiter. -/
def concatAll : List Expr → Except BuildError Expr
  | []                 => .error .missingDelimiter
  | delimiter :: items => .ok (concat delimiter items)

end Expr

end DynExpr
