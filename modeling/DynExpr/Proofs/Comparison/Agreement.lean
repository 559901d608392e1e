import DynExpr.Proofs.Comparison.Coherence
import DynExpr.Proofs.Comparison.ValueOrder

/-! # Operators and the order of values

    Without coercion, the six comparison operators say what equality and order
    of the values themselves say, with three kinds of exceptions:

    * **Null** comes before all other values for the operators, while it has
      no order with them.
    * **Different kinds** other than null are in no comparison, so they are not
      even different.
    * **NaN** is in the order of equals with itself, but for the operators it
      is not at most or at least itself.
-/

namespace DynExpr.Comparison

open Value

variable (a b : Value)

theorem eq_apply_iff_beq : eq.apply a b ↔ a == b := by
  rw [eq_apply_iff, beq_iff]

/-- Values are different if they are not equal, unless they are apart. -/
theorem ne_apply_iff : ne.apply a b ↔ ¬ a == b ∧ ¬ a.Apart b := by
  have hlaws := apply_coherent a b
  rw [← eq_apply_iff_beq]
  constructor
  · intro hne
    exact ⟨fun heq => hlaws.not_eq_and_ne ⟨heq, hne⟩,
      fun hapart => hlaws.none_of_apart hapart .ne hne⟩
  · intro h
    by_contra hne
    exact h.2 (hlaws.neither_iff.1 ⟨h.1, hne⟩)

/-- A value is below those that come after it, and null also below all others. -/
theorem lt_apply_iff_compare? :
    lt.apply a b ↔ compare? a b = some .lt ∨ a.isNull ∧ ¬ b.isNull := by
  rw [lt_apply_iff, compare?_eq_some_iff]
  exact or_comm

theorem gt_apply_iff_compare? :
    gt.apply a b ↔ compare? a b = some .gt ∨ ¬ a.isNull ∧ b.isNull := by
  have hswap : gt.apply a b = lt.apply b a := apply_swap lt b a
  rw [hswap, lt_apply_iff_compare?, compare?_eq_gt_iff, and_comm]

/-- A value is at most those that do not come before it, and null also at most all others; but
    NaN is not at most NaN. -/
theorem le_apply_iff_compare? :
    le.apply a b ↔
      (compare? a b = some .lt ∨ compare? a b = some .eq) ∧ ¬ (a.isNaN ∧ b.isNaN) ∨
        a.isNull ∧ ¬ b.isNull := by
  have hlaws := apply_coherent a b
  by_cases hnan : a.isNaN ∧ b.isNaN
  · have hnull : ¬ a.isNull := fun hnull =>
      nomatch (kind_of_isNull hnull).symm.trans (kind_of_isNaN hnan.1)
    refine iff_of_false (hlaws.of_bothNaN hnan).2.1 ?_
    rintro (h | h)
    · exact h.2 hnan
    · exact hnull h.1
  · rw [hlaws.le_eq hnan, Bool.or_eq_true, lt_apply_iff_compare?, eq_apply_iff_beq,
      beq_iff_compare?, and_iff_left hnan]
    exact or_right_comm

theorem ge_apply_iff_compare? :
    ge.apply a b ↔
      (compare? a b = some .gt ∨ compare? a b = some .eq) ∧ ¬ (a.isNaN ∧ b.isNaN) ∨
        ¬ a.isNull ∧ b.isNull := by
  have hswap : ge.apply a b = le.apply b a := apply_swap le b a
  rw [hswap, le_apply_iff_compare?, compare?_eq_gt_iff, compare?_eq_eq_comm,
    and_comm (a := b.isNaN = true), and_comm (a := b.isNull = true)]

/-- **Agreement**: without coercion, equality is that of the values; being different is its
    negation, except that operands of different kinds other than null are not different; being
    below and above is the order of the values, except that null is below all others; being at
    most and at least is that order or equality, with the same exception and except that they are
    false of two NaN, which have the order of equals. -/
theorem comparisons_agree_with_order :
    (∀ c, (BinaryOp.comparison c).apply a b = .bool (c.apply a b)) ∧
    (eq.apply a b ↔ a == b) ∧
    (ne.apply a b ↔ ¬ a == b ∧ ¬ a.Apart b) ∧
    (lt.apply a b ↔ compare? a b = some .lt ∨ a.isNull ∧ ¬ b.isNull) ∧
    (gt.apply a b ↔ compare? a b = some .gt ∨ ¬ a.isNull ∧ b.isNull) ∧
    (le.apply a b ↔
      (compare? a b = some .lt ∨ compare? a b = some .eq) ∧ ¬ (a.isNaN ∧ b.isNaN) ∨
        a.isNull ∧ ¬ b.isNull) ∧
    (ge.apply a b ↔
      (compare? a b = some .gt ∨ compare? a b = some .eq) ∧ ¬ (a.isNaN ∧ b.isNaN) ∨
        ¬ a.isNull ∧ b.isNull) ∧
    (a.isNaN ∧ b.isNaN → compare? a b = some .eq) := by
  refine ⟨fun c => rfl, eq_apply_iff_beq a b, ne_apply_iff a b, lt_apply_iff_compare? a b,
    gt_apply_iff_compare? a b, le_apply_iff_compare? a b, ge_apply_iff_compare? a b, ?_⟩
  intro hnan
  rw [← beq_iff_compare?, ← eq_apply_iff_beq]
  exact ((apply_coherent a b).of_bothNaN hnan).1

end DynExpr.Comparison
