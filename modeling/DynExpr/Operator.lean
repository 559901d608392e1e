/-! # Operators

    The operator table is closed. An operator is resolved from its symbol
    once, when a node is built; evaluation never looks at text again.

    * **Comparisons** ask how two values stand to each other.
    * **Patterns** (`LIKE`) ask whether a text has a given form.
    * **Arithmetic** computes a number.

    Main definitions: `BinaryOp.ofSymbol?`, which also knows two aliases,
    and `BinaryOp.symbol`, which writes the canonical symbol;
    `BinaryOp.ofSymbol?_symbol` says that reading undoes writing.
-/

namespace DynExpr

/-- The six ways to compare two values. -/
inductive Comparison where
  | eq
  | ne
  | lt
  | le
  | gt
  | ge
deriving DecidableEq

/-- The four arithmetic operations. -/
inductive Arithmetic where
  | add
  | sub
  | mul
  | div
deriving DecidableEq

/-- The operator of a binary node. -/
inductive BinaryOp where
  | comparison (c : Comparison)
  | like
  | arithmetic (a : Arithmetic)
deriving DecidableEq

/-- What an operator is for. -/
inductive OpCategory where
  | equality
  | ordering
  | pattern
  | arithmetic
deriving DecidableEq

/-- The symbol of logical negation, the one unary operator. -/
def negationSymbol : String := "NOT"

/-- The name of a category. -/
def OpCategory.name : OpCategory → String
  | equality   => "Equality"
  | ordering   => "Ordering"
  | pattern    => "Pattern"
  | arithmetic => "Arithmetic"

/-! ### Comparisons -/

namespace Comparison

/-- Does the comparison hold of two things that stand in the given order? -/
def holds : Comparison → Ordering → Bool
  | eq, o => o == .eq
  | ne, o => o != .eq
  | lt, o => o == .lt
  | le, o => o != .gt
  | gt, o => o == .gt
  | ge, o => o != .lt

/-- The comparison with its sides exchanged. -/
def swap : Comparison → Comparison
  | eq => eq
  | ne => ne
  | lt => gt
  | le => ge
  | gt => lt
  | ge => le

theorem holds_swap (c : Comparison) (o : Ordering) : c.swap.holds o.swap = c.holds o := by
  cases c <;> cases o <;> rfl

/-- Exchanged sides are the exchanged comparison. -/
theorem holds_ordering_swap (c : Comparison) (o : Ordering) : c.holds o.swap = c.swap.holds o := by
  rw [← holds_swap, Ordering.swap_swap]

end Comparison

/-! ### Symbols -/

namespace BinaryOp

/-- Every operator, in the order in which the table lists them. -/
def all : List BinaryOp :=
  [comparison .eq, like, comparison .ne, comparison .lt, comparison .le, comparison .gt,
   comparison .ge, arithmetic .add, arithmetic .sub, arithmetic .mul, arithmetic .div]

theorem mem_all (op : BinaryOp) : op ∈ all := by
  cases op with
  | comparison c => cases c <;> decide
  | like => decide
  | arithmetic a => cases a <;> decide

/-- The canonical symbol. -/
def symbol : BinaryOp → String
  | comparison .eq  => "=="
  | comparison .ne  => "!="
  | comparison .lt  => "<"
  | comparison .le  => "<="
  | comparison .gt  => ">"
  | comparison .ge  => ">="
  | like            => "LIKE"
  | arithmetic .add => "+"
  | arithmetic .sub => "-"
  | arithmetic .mul => "*"
  | arithmetic .div => "/"

/-- The name under which an operator appears in the structural text of a tree. -/
def name : BinaryOp → String
  | comparison .eq  => "Eq"
  | comparison .ne  => "NotEq"
  | comparison .lt  => "Lt"
  | comparison .le  => "LtEq"
  | comparison .gt  => "Gt"
  | comparison .ge  => "GtEq"
  | like            => "Like"
  | arithmetic .add => "Add"
  | arithmetic .sub => "Sub"
  | arithmetic .mul => "Mul"
  | arithmetic .div => "Div"

/-- Two aliases stand for their canonical symbols; any other text for itself. -/
def normalize (text : String) : String :=
  if text = "=" then "==" else if text = "<>" then "!=" else text

/-- The operator of a symbol or alias. Letter case matters, and nothing is trimmed. -/
def ofSymbol? (text : String) : Option BinaryOp := all.find? (·.symbol == normalize text)

/-- The category of an operator. -/
def category : BinaryOp → OpCategory
  | comparison .eq | comparison .ne => .equality
  | comparison _                    => .ordering
  | like                            => .pattern
  | arithmetic _                    => .arithmetic

/-- Everything but arithmetic answers with a truth value. -/
def isComparison (op : BinaryOp) : Bool := op.category != .arithmetic

/-- Reading a canonical symbol gives the operator that it was written for. -/
theorem ofSymbol?_symbol (op : BinaryOp) : ofSymbol? op.symbol = some op := by
  cases op with
  | comparison c => cases c <;> decide
  | like => decide
  | arithmetic a => cases a <;> decide

end BinaryOp

end DynExpr
