import DynExpr.Kind
import DynExpr.Text.Quoted

/-! # Errors

    * `BuildError`: a node cannot be built. Found before any evaluation.
    * `EvalError`: an evaluation failed. It holds a cause, a message and the
      notes that were added on the way out. Errors are made from their cause,
      whose text becomes the message.

    Operands whose kinds do not match are not an error for a binary operator,
    nor is a division by zero.
-/

namespace DynExpr

/-! ### Building -/

/-- Why an expression cannot be built. -/
inductive BuildError where
  /-- No operator has this symbol. -/
  | unsupportedOperator (symbol : String)
  /-- A concatenation of no expressions at all, not even a delimiter. -/
  | missingDelimiter
  /-- A program needs more expressions than it has, or leaves other than one. -/
  | unbalanced
  /-- A program refers to a name that stands for no expression. -/
  | undefined (name : String)
deriving DecidableEq

/-- The text of a build error. -/
def BuildError.message : BuildError → String
  | unsupportedOperator symbol => "unsupported operator `" ++ symbol ++ "`"
  | missingDelimiter           => "CONCAT requires a delimiter expression"
  | unbalanced                 => "a program must leave exactly one expression"
  | undefined name             => "no expression is named `" ++ name ++ "`"

/-! ### Evaluating -/

/-- The cause of a failed evaluation. -/
inductive Fault where
  /-- An operator was given an operand of a kind that it cannot take. -/
  | typeMismatch (op : String) (expected got : Kind)
deriving DecidableEq

namespace Fault

/-- The text of a cause. -/
def message : Fault → String
  | typeMismatch op expected got =>
    "type mismatch: " ++ op ++ " requires " ++ expected.name ++ " operand, got " ++ got.name

/-- Is the cause a type mismatch? -/
def isTypeMismatch : Fault → Bool
  | typeMismatch .. => true

/-- The structural text of a cause. -/
def structural : Fault → String
  | typeMismatch op expected got =>
    "TypeMismatch \x7b op: " ++ Text.quoted op ++ ", expected: " ++ expected.name ++
      ", got: " ++ got.name ++ " \x7d"

end Fault

/-- A failed evaluation. -/
structure EvalError where
  /-- What went wrong. -/
  fault : Fault
  /-- What went wrong, in words. -/
  message : String
  /-- Where it went wrong, innermost place first. -/
  notes : List String
deriving DecidableEq

namespace EvalError

/-- The error with this cause and no notes yet. -/
def ofFault (f : Fault) : EvalError := ⟨f, f.message, []⟩

/-- Adds a note behind those already there. -/
def withNote (e : EvalError) (note : String) : EvalError := { e with notes := e.notes ++ [note] }

/-- The structural text of a note. -/
def noteStructural (note : String) : String :=
  "EvalNote \x7b message: " ++ Text.quoted note ++ " \x7d"

/-- The structural text of an error. -/
def structural (e : EvalError) : String :=
  "EvalError \x7b kind: " ++ e.fault.structural ++ ", message: " ++ Text.quoted e.message ++
    ", notes: [" ++ String.intercalate ", " (e.notes.map noteStructural) ++ "] \x7d"

end EvalError

end DynExpr
