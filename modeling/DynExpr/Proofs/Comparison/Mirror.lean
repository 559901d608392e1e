import DynExpr.Proofs.Coercion.CommonKind
import DynExpr.Proofs.Comparison.Standing

/-! # Nodes in the mirror

    A node gives the same as its mirror image, which has the operands in
    exchanged places and the operator that asks for the same from the other
    side:

    * **Operands**: a policy treats both sides alike (`coerce?_swap`), so the
      mirror image gets the same operands, exchanged.
    * **Comparisons** are mirrored by `Comparison.swap` (`apply_swap`).
    * **Sums and products** are their own mirror images, of integers as of
      floats (`Arithmetic.apply_comm`). There is one NaN, so a result that is
      no number is the same, too.

    **`run_mirrored`** says this of nodes.
-/

namespace DynExpr

/-! ### Sums and products -/

namespace Binary64

open Float.Model (UnpackedFloat Format)
open Float.Model.UnpackedFloat

theorem sign_mul_comm (s t : Sign) : s * t = t * s := by
  cases s <;> cases t <;> rfl

/-- A sum is chosen by the kinds of both operands, and each pair of kinds has the same sum as the
    exchanged pair. -/
theorem unpacked_add_comm (format : Format) (a b : UnpackedFloat) :
    add format a b = add format b a := by
  cases a with
  | notANumber => cases b <;> rfl
  | infinity s =>
    cases b with
    | infinity t => cases s <;> cases t <;> rfl
    | notANumber | zero | finite => rfl
  | zero s =>
    cases b with
    | zero t => cases s <;> cases t <;> rfl
    | notANumber | infinity | finite => rfl
  | finite s m e =>
    cases b with
    -- Both mantissas are brought to the smaller exponent and added as integers.
    | finite t n k => simp only [add, Int.min_comm e k, Int.add_comm (s.apply _)]
    | notANumber | infinity | zero => rfl

/-- So has a product, whose sign is the product of the signs. -/
theorem unpacked_mul_comm (format : Format) (a b : UnpackedFloat) :
    mul format a b = mul format b a := by
  cases a with
  | notANumber => cases b <;> rfl
  | infinity s =>
    cases b with
    | infinity t | finite t => exact congrArg UnpackedFloat.infinity (sign_mul_comm s t)
    | notANumber | zero => rfl
  | zero s =>
    cases b with
    | zero t | finite t => exact congrArg UnpackedFloat.zero (sign_mul_comm s t)
    | notANumber | infinity => rfl
  | finite s m e =>
    cases b with
    | infinity t => exact congrArg UnpackedFloat.infinity (sign_mul_comm s t)
    | zero t => exact congrArg UnpackedFloat.zero (sign_mul_comm s t)
    | finite t n k => simp only [mul, sign_mul_comm s t, Nat.mul_comm m n, Int.add_comm e k]
    | notANumber => rfl

theorem float_add_comm (x y : Float) : x + y = y + x := by
  have h := unpacked_add_comm Format.binary64 x.toModel.unpack y.toModel.unpack
  exact congrArg (fun u => Float.ofModel (Float.Model.pack u)) h

theorem float_mul_comm (x y : Float) : x * y = y * x := by
  have h := unpacked_mul_comm Format.binary64 x.toModel.unpack y.toModel.unpack
  exact congrArg (fun u => Float.ofModel (Float.Model.pack u)) h

end Binary64

namespace Arithmetic

/-- The operations whose operands can be exchanged. -/
inductive Commutes : Arithmetic → Prop where
  | add : Commutes add
  | mul : Commutes mul

theorem overIntegers_comm {op : Arithmetic} (h : op.Commutes) (x y : Int) :
    op.overIntegers x y = op.overIntegers y x := by
  cases h with
  | add => exact congrArg some (Int.add_comm x y)
  | mul => exact congrArg some (Int.mul_comm x y)

theorem ofFloats_comm {op : Arithmetic} (h : op.Commutes) (x y : Float) :
    ofFloats x y op = ofFloats y x op := by
  cases h with
  | add => exact congrArg Value.float (Binary64.float_add_comm x y)
  | mul => exact congrArg Value.float (Binary64.float_mul_comm x y)

theorem apply_comm {op : Arithmetic} (h : op.Commutes) (a b : Value) :
    op.apply a b = op.apply b a := by
  cases a with
  | uint n =>
    cases b with
    | uint m => exact congrArg toUInt (overIntegers_comm h _ _)
    | null | bool | int | float | str | timestamp => rfl
  | int n =>
    cases b with
    | int m => exact congrArg toInt (overIntegers_comm h _ _)
    | null | bool | uint | float | str | timestamp => rfl
  | float x =>
    cases b with
    | float y => exact ofFloats_comm h x y
    | null | bool | uint | int | str | timestamp => rfl
  | null | bool | str | timestamp => cases b <;> rfl

end Arithmetic

/-! ### Nodes -/

/-- An operator and the one that asks for the same with the operands in exchanged places. -/
inductive BinaryOp.Mirrors : BinaryOp → BinaryOp → Prop where
  | comparison (c : Comparison) : Mirrors (.comparison c) (.comparison c.swap)
  | arithmetic {op : Arithmetic} (h : op.Commutes) : Mirrors (.arithmetic op) (.arithmetic op)

theorem BinaryOp.Mirrors.apply_eq {op op' : BinaryOp} (h : op.Mirrors op') (l r : Value) :
    op.apply l r = op'.apply r l := by
  cases h with
  | comparison c => exact congrArg Value.bool (c.apply_swap l r).symm
  | arithmetic hop => exact Arithmetic.apply_comm hop l r

/-- **Mirror**: a policy replaces exchanged operands by the same values, exchanged, and leaves them
    alone if it leaves the others alone. So a comparison node gives the same as the node with the
    mirrored comparison over exchanged operands, and a sum or a product the same as itself. -/
theorem run_mirrored (policy : Coercion) (a b : Value) :
    policy.coerce? b a = (policy.coerce? a b).map Prod.swap ∧
    ∀ op op', BinaryOp.Mirrors op op' → ∀ params s,
      ((Expr.binary op policy (.constant a) (.constant b)).run params s).1 =
        ((Expr.binary op' policy (.constant b) (.constant a)).run params s).1 := by
  refine ⟨policy.coerce?_swap b a, ?_⟩
  intro op op' h params s
  rw [Coercion.run_constants, Coercion.run_constants, policy.operands_swap b a, h.apply_eq]
  rfl

end DynExpr
