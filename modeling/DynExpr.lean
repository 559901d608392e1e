import DynExpr.Proofs.Arithmetic.Tree
import DynExpr.Proofs.Coercion.FloatText
import DynExpr.Proofs.Coercion.IntegerText
import DynExpr.Proofs.Comparison.Agreement
import DynExpr.Proofs.Comparison.IntegersAndFloats
import DynExpr.Proofs.Comparison.Likeness
import DynExpr.Proofs.Comparison.Mirror
import DynExpr.Proofs.Comparison.MixedIntegers
import DynExpr.Proofs.Comparison.PartialOrder
import DynExpr.Proofs.Evaluation.Concatenation
import DynExpr.Proofs.Evaluation.Events
import DynExpr.Proofs.Evaluation.Kinds
import DynExpr.Proofs.Evaluation.Policies
import DynExpr.Proofs.Evaluation.Substitution
import DynExpr.Proofs.Expr.Dismantling
import DynExpr.Proofs.Random.UnitInterval
import DynExpr.Proofs.Text.CodePoints
import DynExpr.Proofs.Text.Rendering
import DynExpr.Proofs.Text.Structure
import DynExpr.Proofs.Time.DateTime
import DynExpr.Value.Host
