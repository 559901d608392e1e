import DynExpr.Proofs.Binary64.Number
import DynExpr.Proofs.Coercion.CommonKind
import DynExpr.Proofs.Comparison.Coherence

/-! # Integers beside floats

    A policy that promotes numbers compares an integer with a float as two
    floats, for which the integer is rounded. Rounding can bring the two
    together, but not past each other:

    * **Taken order**: the order in which the two are taken is the exact one of
      the two numbers, unless the float approximates the integer. Then they are
      taken for equal (`ofFloats_ofInt`).
    * **No reversal**: so whichever is taken for the smaller one is the smaller
      one (`lt_of_takenOrder`, `gt_of_takenOrder`). Integers up to `2 ^ 53` in
      magnitude are floats themselves, and always taken as they are.

    **`run_integer_beside_float`** says this of comparison nodes, with the
    operands in either order.
-/

namespace DynExpr.Comparison

open Binary64 (number Approximates IsFloat)

/-! ### Taken order -/

open Classical in
/-- How an integer is taken to stand to a float: as the two numbers do, unless the float is only
    the nearest one to the integer. -/
noncomputable def takenOrder (z : Int) (x : Float) : Ordering :=
  if Approximates x z then .eq else compare ((z : ℝ) : EReal) (number x)

variable {z : Int} {x : Float}

theorem takenOrder_of_approximates (h : Approximates x z) : takenOrder z x = .eq := if_pos h

theorem takenOrder_of_not_approximates (h : ¬ Approximates x z) :
    takenOrder z x = compare ((z : ℝ) : EReal) (number x) := if_neg h

/-- What is taken for the smaller one is smaller. -/
theorem lt_of_takenOrder (h : takenOrder z x = .lt) : ((z : ℝ) : EReal) < number x := by
  by_cases happrox : Approximates x z
  · rw [takenOrder_of_approximates happrox] at h
    cases h
  · rwa [takenOrder_of_not_approximates happrox, compare_lt_iff_lt] at h

theorem gt_of_takenOrder (h : takenOrder z x = .gt) : number x < ((z : ℝ) : EReal) := by
  by_cases happrox : Approximates x z
  · rw [takenOrder_of_approximates happrox] at h
    cases h
  · rwa [takenOrder_of_not_approximates happrox, compare_gt_iff_gt] at h

/-- Rounded, an integer compares with a float as it is taken to stand to it. -/
theorem ofFloats_ofInt (c : Comparison) (hz : z.natAbs ≤ 2 ^ 64) (hx : ¬ x.isNaN) :
    c.ofFloats (Binary64.ofInt z) x = c.holds (takenOrder z x) := by
  rw [ofFloats_of_not_isNaN c (Binary64.not_isNaN_ofInt z) hx]
  by_cases happrox : Approximates x z
  · have hlevel := (Binary64.level_ofInt_eq_iff hz hx).2 (Or.inr happrox)
    rw [takenOrder_of_approximates happrox, compare_eq_iff_eq.2 hlevel]
  · rw [takenOrder_of_not_approximates happrox,
      Binary64.compare_level_ofInt_level hz hx happrox]

/-! ### Comparison nodes -/

theorem natAbs_le_of_integer? {v : Value} (h : v.integer? = some z) : z.natAbs ≤ 2 ^ 64 := by
  have hrange := Value.holds_of_integer? h
  cases v with
  | uint =>
    have hbounds : 0 ≤ z ∧ z < 2 ^ 64 := hrange
    omega
  | int =>
    have hbounds : -2 ^ 63 ≤ z ∧ z < 2 ^ 63 := hrange
    omega
  | null | bool | float | str | timestamp => cases h

theorem operands_integer_float {policy : Coercion} (hpolicy : policy ≠ .strict) {v : Value}
    (h : v.integer? = some z) (x : Float) :
    policy.operands v (.float x) = (.float (Binary64.ofInt z), .float x) := by
  cases v with
  | uint | int =>
    cases h
    cases policy with
    | strict => exact absurd rfl hpolicy
    | numeric | lenient => rfl
  | null | bool | float | str | timestamp => cases h

/-- **Integers beside floats**: under a policy that promotes numbers, a comparison node over an
    integer of either kind and a float other than NaN, in either order, answers by the order in
    which the two are taken. That is their exact order, except that a float which approximates an
    integer is taken for equal to it although it is not. So the order is never reversed, and it is
    exact for all integers up to `2 ^ 53` in magnitude. The node is true if what it asserts of the
    two numbers is, and for an approximation if equality is part of it. -/
theorem run_integer_beside_float {policy : Coercion} (hpolicy : policy ≠ .strict) {v : Value}
    {z : Int} (hv : v.integer? = some z) {x : Float} (hx : ¬ x.isNaN) (params : Params)
    (s : EvalState) :
    (∀ c : Comparison,
      ((Expr.binary (.comparison c) policy (.constant v) (.constant (.float x))).run params s).1 =
        .ok (.bool (c.holds (takenOrder z x))) ∧
      ((Expr.binary (.comparison c) policy (.constant (.float x)) (.constant v)).run params s).1 =
        .ok (.bool (c.holds (takenOrder z x).swap))) ∧
    (Approximates x z → takenOrder z x = .eq ∧ number x ≠ (z : ℝ)) ∧
    (¬ Approximates x z → takenOrder z x = compare ((z : ℝ) : EReal) (number x)) ∧
    (((z : ℝ) : EReal) < number x → takenOrder z x ≠ .gt) ∧
    (number x < (z : ℝ) → takenOrder z x ≠ .lt) ∧
    (z.natAbs ≤ 2 ^ 53 → takenOrder z x = compare ((z : ℝ) : EReal) (number x)) ∧
    (¬ Approximates x z → ∀ c : Comparison,
      (((Expr.binary (.comparison c) policy (.constant v) (.constant (.float x))).run params s).1 =
        .ok (.bool true) ↔ c.Asserts ((z : ℝ) : EReal) (number x)) ∧
      (((Expr.binary (.comparison c) policy (.constant (.float x)) (.constant v)).run params s).1 =
        .ok (.bool true) ↔ c.Asserts (number x) ((z : ℝ) : EReal))) ∧
    (Approximates x z → ∀ c : Comparison,
      (((Expr.binary (.comparison c) policy (.constant v) (.constant (.float x))).run params s).1 =
        .ok (.bool true) ↔ c = .eq ∨ c = .le ∨ c = .ge) ∧
      (((Expr.binary (.comparison c) policy (.constant (.float x)) (.constant v)).run params s).1 =
        .ok (.bool true) ↔ c = .eq ∨ c = .le ∨ c = .ge)) := by
  have hz := natAbs_le_of_integer? hv
  have hleft : ∀ c : Comparison, ((Expr.binary (.comparison c) policy (.constant v)
      (.constant (.float x))).run params s).1 = .ok (.bool (c.holds (takenOrder z x))) := by
    intro c
    rw [run_node, holdsUnder, operands_integer_float hpolicy hv]
    exact congrArg (fun b => Except.ok (Value.bool b)) (ofFloats_ofInt c hz hx)
  have hright : ∀ c : Comparison, ((Expr.binary (.comparison c) policy (.constant (.float x))
      (.constant v)).run params s).1 = .ok (.bool (c.holds (takenOrder z x).swap)) := by
    intro c
    -- Exchanged, the operands answer the mirrored comparison as they stood before.
    rw [run_node, holdsUnder, Coercion.operands_swap, operands_integer_float hpolicy hv,
      holds_ordering_swap, ← ofFloats_ofInt c.swap hz hx]
    exact congrArg (fun b => Except.ok (Value.bool b)) (c.apply_swap _ _).symm
  refine ⟨fun c => ⟨hleft c, hright c⟩, ?_, takenOrder_of_not_approximates, ?_, ?_, ?_, ?_, ?_⟩
  · intro h
    exact ⟨takenOrder_of_approximates h, fun hnumber => h.1 ⟨x, hx, hnumber⟩⟩
  · -- Were it taken for the greater one, it would be greater.
    intro hlt h
    exact lt_asymm hlt (gt_of_takenOrder h)
  · intro hgt h
    exact lt_asymm hgt (lt_of_takenOrder h)
  · intro hsmall
    exact takenOrder_of_not_approximates fun h => h.1 (Binary64.isFloat_of_le hsmall)
  · intro h c
    rw [hleft, hright, ok_bool_eq_true_iff, ok_bool_eq_true_iff, takenOrder_of_not_approximates h,
      ← Std.OrientedOrd.eq_swap]
    exact ⟨holds_compare_iff c _ _, holds_compare_iff c _ _⟩
  · intro h c
    rw [hleft, hright, ok_bool_eq_true_iff, ok_bool_eq_true_iff, takenOrder_of_approximates h]
    exact ⟨holds_eq_iff c, holds_eq_iff c⟩

/-- The first integer that is no float is taken for equal to the float below it. -/
theorem run_integer_beside_float_odd :
    Coercion.numeric ≠ .strict ∧
      (Value.uint 9007199254740993).integer? = some 9007199254740993 ∧
      ¬ (Binary64.ofInt 9007199254740992).isNaN ∧
      ((Expr.binary (.comparison .gt) .numeric (.constant (.uint 9007199254740993))
        (.constant (.float (Binary64.ofInt 9007199254740992)))).run Params.none
          ⟨Source.seeded 0, #[]⟩).1 = .ok (.bool false) ∧
      ((Expr.binary (.comparison .eq) .numeric (.constant (.float (Binary64.ofInt 9007199254740992)))
        (.constant (.uint 9007199254740993))).run Params.none ⟨Source.seeded 0, #[]⟩).1 =
          .ok (.bool true) := by
  have hpolicy : Coercion.numeric ≠ .strict := by decide
  have hinteger : (Value.uint 9007199254740993).integer? = some 9007199254740993 := rfl
  have hnumber := Binary64.not_isNaN_ofInt 9007199254740992
  have hnoFloat : ¬ IsFloat 9007199254740993 := by
    rw [Binary64.isFloat_iff (by decide)]
    decide +kernel
  -- Both its neighbours among the floats are one away from it, and the tie goes to the lower one.
  have hnearest : Binary64.nearest 9007199254740992 1 = Binary64.nearest 9007199254740993 1 := by
    decide +kernel
  have hrounds : Binary64.Rounds false 9007199254740993 1 (Binary64.ofInt 9007199254740992) := by
    rw [Binary64.rounds_iff Nat.one_pos, Binary64.ofRatio, ← hnearest]
    rfl
  obtain ⟨hnodes, happrox, -⟩ := run_integer_beside_float hpolicy hinteger hnumber Params.none
    ⟨Source.seeded 0, #[]⟩
  have hequal := (happrox ⟨hnoFloat, hrounds⟩).1
  rw [hequal] at hnodes
  exact ⟨hpolicy, hinteger, hnumber, (hnodes .gt).1, (hnodes .eq).2⟩

end DynExpr.Comparison
